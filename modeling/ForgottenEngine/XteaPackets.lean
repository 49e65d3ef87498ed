import ForgottenEngine.Presentation
import ForgottenEngine.Library.BlockCipher
import ForgottenEngine.Library.ByteCodec

/-!
# Encrypted packets

A packet carries its length in two bytes, its payload and zeros up to a whole number of blocks of
eight bytes.  Each block is enciphered by 32 rounds over two words of 32 bits, with arithmetic that
wraps.

* `encryptRound_eq`, `decryptRound_eq` — the loop bodies are a round of a network, and its inverse;
* `xteaBlock_xteaBlock` — deciphering a block undoes enciphering it;
* `xtea_xtea` — so it is for a list of blocks;
* `decrypt_encrypt_packet` — a packet gives its payload back, and packets that are not framed so are
  refused.
-/

namespace ForgottenEngine

open ByteCodec BlockCipher

/-! ### The cipher -/

abbrev XteaKey := Vector UInt32 4

/-- `key[(index & 3) as usize]`. -/
def XteaKey.word (key : XteaKey) (index : UInt32) : UInt32 :=
  key.get ⟨(index &&& 3).toNat, by
    rw [UInt32.toNat_and]
    exact Nat.lt_succ_of_le Nat.and_le_right⟩

def xteaDelta : UInt32 := 0x9e3779b9

/-- A half shifted both ways and added to itself. -/
def xteaMix (half : UInt32) : UInt32 := ((half <<< 4) ^^^ (half >>> 5)) + half

/-- One pass of the enciphering loop on left half, right half and sum. -/
def encryptRound (key : XteaKey) : UInt32 × UInt32 × UInt32 → UInt32 × UInt32 × UInt32
  | (left, right, sum) =>
    let left := left + (xteaMix right ^^^ (sum + key.word sum))
    let sum := sum + xteaDelta
    let right := right + (xteaMix left ^^^ (sum + key.word (sum >>> 11)))
    (left, right, sum)

/-- One pass of the deciphering loop. -/
def decryptRound (key : XteaKey) : UInt32 × UInt32 × UInt32 → UInt32 × UInt32 × UInt32
  | (left, right, sum) =>
    let right := right - (xteaMix left ^^^ (sum + key.word (sum >>> 11)))
    let sum := sum - xteaDelta
    let left := left - (xteaMix right ^^^ (sum + key.word sum))
    (left, right, sum)

/-- The 32 passes on two halves. -/
def xteaHalves (key : XteaKey) (decrypt : Bool) (left right : UInt32) : UInt32 × UInt32 :=
  let sum := if decrypt then xteaDelta * 32 else 0
  let round := if decrypt then decryptRound key else encryptRound key
  let halves := round^[32] (left, right, sum)
  (halves.1, halves.2.1)

/-- The work on one block. -/
def xteaBlock (key : XteaKey) (decrypt : Bool) (block : List UInt8) : List UInt8 :=
  let left := UInt32.ofNat (ofLE (block.take 4))
  let right := UInt32.ofNat (ofLE (block.drop 4))
  let halves := xteaHalves key decrypt left right
  u32Bytes halves.1 ++ u32Bytes halves.2

def xtea (payload : List UInt8) (key : XteaKey) (decrypt : Bool) :
    Except ProtocolError (List UInt8) :=
  if payload.isEmpty ∨ payload.length % 8 ≠ 0 then .error (.invalidXteaLength payload.length)
  else .ok (mapBlocks 8 (xteaBlock key decrypt) (payload.length / 8) payload)

/-! ### The packets -/

/-- Push zeros up to a whole number of blocks. -/
def padBlocks (packet : List UInt8) : List UInt8 :=
  if packet.length % 8 ≠ 0 then padBlocks (packet ++ [0]) else packet
termination_by (8 - packet.length % 8) % 8
decreasing_by
  rw [List.length_append, List.length_singleton]
  omega

def xteaEncryptPacket (payload : List UInt8) (key : XteaKey) :
    Except ProtocolError (List UInt8) :=
  xtea (padBlocks (u16Bytes (UInt16.ofNat payload.length) ++ payload)) key false

def xteaDecryptPacket (payload : List UInt8) (key : XteaKey) :
    Except ProtocolError (List UInt8) := do
  let packet ← xtea payload key true
  if packet.length < 2 then .error .truncated
  else
    let length := ofLE (packet.take 2)
    if packet.length < length + 2 then .error (.lengthMismatch length (packet.length - 2))
    else .ok ((packet.take (length + 2)).drop 2)

/-! ### One block -/

/-- The network the loop runs. -/
def xteaNetwork (key : XteaKey) : Network UInt32 UInt32 where
  mix a b := a + b
  unmix a b := a - b
  unmix_mix a b := UInt32.add_sub_cancel a b
  leftWord half sum := xteaMix half ^^^ (sum + key.word sum)
  rightWord half sum := xteaMix half ^^^ (sum + key.word (sum >>> 11))
  next sum := sum + xteaDelta
  prev sum := sum - xteaDelta
  prev_next sum := UInt32.add_sub_cancel sum xteaDelta

theorem encryptRound_eq (key : XteaKey) : encryptRound key = (xteaNetwork key).round := rfl

theorem decryptRound_eq (key : XteaKey) : decryptRound key = (xteaNetwork key).unround := rfl

/-- After 32 rounds the sum stands where deciphering begins. -/
theorem sum_after_rounds (key : XteaKey) (left right : UInt32) :
    ((encryptRound key)^[32] (left, right, 0)).2.2 = xteaDelta * 32 := by
  rw [encryptRound_eq, rounds_schedule]
  show (· + xteaDelta)^[32] 0 = xteaDelta * 32
  decide

/-- The passes of deciphering undo the passes of enciphering. -/
theorem xteaHalves_xteaHalves (key : XteaKey) (left right : UInt32) :
    xteaHalves key true (xteaHalves key false left right).1 (xteaHalves key false left right).2 =
      (left, right) := by
  have hsum := sum_after_rounds key left right
  have hundone := unrounds_rounds (xteaNetwork key) 32 (left, right, 0)
  rw [← encryptRound_eq, ← decryptRound_eq] at hundone
  have henciphered : xteaHalves key false left right =
      (((encryptRound key)^[32] (left, right, 0)).1,
        ((encryptRound key)^[32] (left, right, 0)).2.1) := by
    simp only [xteaHalves, Bool.false_eq_true, if_false]
  rw [henciphered]
  generalize (encryptRound key)^[32] (left, right, 0) = halves at hsum hundone
  obtain ⟨left', right', sum⟩ := halves
  have hdeciphered : xteaHalves key true left' right' =
      (((decryptRound key)^[32] (left', right', xteaDelta * 32)).1,
        ((decryptRound key)^[32] (left', right', xteaDelta * 32)).2.1) := by
    simp only [xteaHalves, if_true]
  rw [show sum = xteaDelta * 32 from hsum] at hundone
  rw [hdeciphered, hundone]

/-- The two words of a block, and the bytes of two words. -/
theorem words_of_bytes (left right : UInt32) :
    UInt32.ofNat (ofLE ((u32Bytes left ++ u32Bytes right).take 4)) = left ∧
      UInt32.ofNat (ofLE ((u32Bytes left ++ u32Bytes right).drop 4)) = right := by
  have hword (x : UInt32) : UInt32.ofNat (ofLE (u32Bytes x)) = x := by
    have hlt : x.toNat < 256 ^ 4 := x.toNat_lt
    rw [u32Bytes, ofLE_toLE, Nat.mod_eq_of_lt hlt, UInt32.ofNat_toNat]
  rw [List.take_left' (length_u32Bytes left), List.drop_left' (length_u32Bytes left)]
  exact ⟨hword left, hword right⟩

theorem bytes_of_words {block : List UInt8} (h : block.length = 8) :
    u32Bytes (UInt32.ofNat (ofLE (block.take 4))) ++ u32Bytes (UInt32.ofNat (ofLE (block.drop 4))) =
      block := by
  have hbytes (bytes : List UInt8) (hlength : bytes.length = 4) :
      u32Bytes (UInt32.ofNat (ofLE bytes)) = bytes := by
    have hlt := ofLE_lt bytes
    rw [hlength] at hlt
    have hnat : (UInt32.ofNat (ofLE bytes)).toNat = ofLE bytes := UInt32.toNat_ofNat_of_lt' hlt
    rw [u32Bytes, hnat, ← hlength, toLE_ofLE]
  rw [hbytes _ (by rw [List.length_take]; omega), hbytes _ (by rw [List.length_drop]; omega),
    List.take_append_drop]

theorem length_xteaBlock (key : XteaKey) (decrypt : Bool) (block : List UInt8) :
    (xteaBlock key decrypt block).length = 8 := by
  rw [xteaBlock, List.length_append, length_u32Bytes, length_u32Bytes]

/-- Deciphering a block undoes enciphering it. -/
theorem xteaBlock_xteaBlock (key : XteaKey) {block : List UInt8} (h : block.length = 8) :
    xteaBlock key true (xteaBlock key false block) = block := by
  have hhalves := xteaHalves_xteaHalves key (UInt32.ofNat (ofLE (block.take 4)))
    (UInt32.ofNat (ofLE (block.drop 4)))
  rw [xteaBlock, xteaBlock]
  generalize xteaHalves key false (UInt32.ofNat (ofLE (block.take 4)))
    (UInt32.ofNat (ofLE (block.drop 4))) = halves at hhalves
  have hwords := words_of_bytes halves.1 halves.2
  rw [hwords.1, hwords.2, hhalves]
  exact bytes_of_words h

/-! ### Lists of blocks -/

theorem xtea_of_blocks {payload : List UInt8} (hne : payload ≠ []) (h : payload.length % 8 = 0)
    (key : XteaKey) (decrypt : Bool) :
    xtea payload key decrypt =
      .ok (mapBlocks 8 (xteaBlock key decrypt) (payload.length / 8) payload) := by
  have hempty : ¬ payload.isEmpty := fun hnil => hne (List.isEmpty_iff.mp hnil)
  rw [xtea, if_neg (not_or.mpr ⟨hempty, not_not.mpr h⟩)]

/-- Deciphering undoes enciphering, whatever the number of blocks. -/
theorem xtea_xtea {payload : List UInt8} (hne : payload ≠ []) (h : payload.length % 8 = 0)
    (key : XteaKey) :
    ∃ cipher, xtea payload key false = .ok cipher ∧ cipher.length = payload.length ∧
      xtea cipher key true = .ok payload := by
  have hblocks : payload.length / 8 * 8 ≤ payload.length := Nat.div_mul_le_self _ _
  have hlength := length_mapBlocks (f := xteaBlock key false)
    (fun block _ => length_xteaBlock key false block) hblocks
  refine ⟨_, xtea_of_blocks hne h key false, hlength, ?_⟩
  have hcipher : mapBlocks 8 (xteaBlock key false) (payload.length / 8) payload ≠ [] := by
    intro hnil
    rw [hnil] at hlength
    exact hne (List.length_eq_zero_iff.mp hlength.symm)
  rw [xtea_of_blocks hcipher (by rw [hlength]; exact h), hlength,
    mapBlocks_mapBlocks (fun block _ => length_xteaBlock key false block)
      (fun block hblock => xteaBlock_xteaBlock key hblock) hblocks]

/-! ### Packets -/

/-- Padding adds zeros, up to a whole number of blocks. -/
theorem padBlocks_spec (packet : List UInt8) :
    (padBlocks packet).length % 8 = 0 ∧ ∃ n, padBlocks packet = packet ++ List.replicate n 0 := by
  fun_induction padBlocks packet with
  | case1 packet hshort ih =>
    obtain ⟨hlength, n, hn⟩ := ih
    refine ⟨hlength, n + 1, ?_⟩
    rw [hn, List.append_assoc]
    rfl
  | case2 packet hwhole =>
    exact ⟨not_not.mp hwhole, 0, (List.append_nil packet).symm⟩

/-- What deciphering a packet returns, once its blocks are deciphered. -/
theorem decryptPacket_of_xtea {packet plain : List UInt8} {key : XteaKey}
    (h : xtea packet key true = .ok plain) (hlength : 2 ≤ plain.length) :
    xteaDecryptPacket packet key =
      if plain.length < ofLE (plain.take 2) + 2 then
        .error (.lengthMismatch (ofLE (plain.take 2)) (plain.length - 2))
      else .ok ((plain.take (ofLE (plain.take 2) + 2)).drop 2) := by
  rw [xteaDecryptPacket, h]
  exact if_neg (Nat.not_lt.mpr hlength)

/-- A payload of up to 65535 bytes is given back. -/
theorem decrypt_encrypt (key : XteaKey) {payload : List UInt8} (h : payload.length ≤ 65535) :
    ∃ packet, xteaEncryptPacket payload key = .ok packet ∧ packet.length % 8 = 0 ∧
      xteaDecryptPacket packet key = .ok payload := by
  obtain ⟨hwhole, n, hpadded⟩ :=
    padBlocks_spec (u16Bytes (UInt16.ofNat payload.length) ++ payload)
  have hfront : (u16Bytes (UInt16.ofNat payload.length)).length = 2 := length_u16Bytes _
  have hne : padBlocks (u16Bytes (UInt16.ofNat payload.length) ++ payload) ≠ [] := by
    intro hnil
    have hlength := congrArg List.length (hpadded.symm.trans hnil)
    rw [List.length_append, List.length_append, hfront] at hlength
    simp at hlength
  obtain ⟨packet, hencrypt, hlength, hdecrypt⟩ := xtea_xtea hne hwhole key
  refine ⟨packet, hencrypt, by rw [hlength]; exact hwhole, ?_⟩
  -- The length field reads back as the length of the payload.
  have hfield : ofLE ((padBlocks (u16Bytes (UInt16.ofNat payload.length) ++ payload)).take 2) =
      payload.length := by
    rw [hpadded, List.append_assoc, List.take_left' hfront, u16Bytes, ofLE_toLE,
      UInt16.toNat_ofNat_of_lt' (show payload.length < UInt16.size by
        have hsize : UInt16.size = 65536 := rfl
        omega)]
    exact Nat.mod_eq_of_lt (by omega)
  have htotal : (padBlocks (u16Bytes (UInt16.ofNat payload.length) ++ payload)).length =
      2 + payload.length + n := by
    rw [hpadded, List.length_append, List.length_append, hfront, List.length_replicate]
  rw [decryptPacket_of_xtea hdecrypt (by omega), hfield, if_neg (by omega), hpadded]
  have htake : ((u16Bytes (UInt16.ofNat payload.length) ++ payload) ++ List.replicate n 0).take
      (payload.length + 2) = u16Bytes (UInt16.ofNat payload.length) ++ payload :=
    List.take_left' (by rw [List.length_append, hfront, Nat.add_comm])
  rw [htake, List.drop_left' hfront]

/-- **Packets decrypt to what was encrypted, and only framed ones do.**  Every payload of up to 65535
bytes is given back; a packet that is not a whole number of blocks, and one whose inner length
exceeds it, is refused. -/
theorem decrypt_encrypt_packet (key : XteaKey) :
    (∀ payload : List UInt8, payload.length ≤ 65535 →
      ∃ packet, xteaEncryptPacket payload key = .ok packet ∧
        xteaDecryptPacket packet key = .ok payload) ∧
    (∀ packet : List UInt8, packet.length % 8 ≠ 0 →
      xteaDecryptPacket packet key = .error (.invalidXteaLength packet.length)) ∧
    ∀ packet plain : List UInt8, xtea packet key true = .ok plain →
      packet.length < ofLE (plain.take 2) + 2 →
      xteaDecryptPacket packet key =
        .error (.lengthMismatch (ofLE (plain.take 2)) (packet.length - 2)) := by
  refine ⟨?_, ?_, ?_⟩
  · intro payload h
    obtain ⟨packet, hencrypt, -, hdecrypt⟩ := decrypt_encrypt key h
    exact ⟨packet, hencrypt, hdecrypt⟩
  · intro packet h
    rw [xteaDecryptPacket, xtea, if_pos (.inr h)]
    rfl
  · intro packet plain hplain hlong
    have hlength : plain.length = packet.length ∧ 2 ≤ packet.length := by
      by_cases hbad : packet.isEmpty ∨ packet.length % 8 ≠ 0
      · rw [xtea, if_pos hbad] at hplain
        cases hplain
      · obtain ⟨hempty, hmod⟩ := not_or.mp hbad
        rw [xtea, if_neg hbad] at hplain
        have hblocks : packet.length / 8 * 8 ≤ packet.length := Nat.div_mul_le_self _ _
        have hpos : packet.length ≠ 0 := fun hzero =>
          hempty (List.isEmpty_iff.mpr (List.length_eq_zero_iff.mp hzero))
        rw [← Except.ok.inj hplain,
          length_mapBlocks (fun block _ => length_xteaBlock key true block) hblocks]
        exact ⟨rfl, by omega⟩
    rw [decryptPacket_of_xtea hplain (by omega), if_pos (by omega), hlength.1]

end ForgottenEngine
