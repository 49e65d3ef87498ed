import ForgottenEngine.Library.Fallible

/-!
# Reading and writing little-endian bytes

A reader takes values off the front of a list of bytes; a writer is the list of bytes it makes.

* `Faults` — the errors a reader fails with;
* `byte`, `take`, `word`, `u16`, `u32`, `string` — the readers, each with the writer of its values;
* `Reads m bytes a` — **the reader undoes the writer**: in front of any rest, `m` takes exactly
  `bytes` off and returns `a`.  `Reads.bind` puts layouts one after the other;
* `exactly` — a check of the number of bytes left, in front of a reader;
* `complete` — a reader whose input must be used up.
-/

/-- A reader: its state is what is left of the input. -/
abbrev ByteCodec.Reader (ε α : Type) : Type := Fallible ε (List UInt8) α

namespace ByteCodec

open Fallible

/-- The errors of the readers. -/
structure Faults (ε : Type) where
  truncated : ε
  stringTooLong : ℕ → ε
  invalidString : ε

variable {ε α β : Type}

/-- In front of any rest, the reader takes exactly `bytes` off and returns `a`. -/
def Reads (m : Reader ε α) (bytes : List UInt8) (a : α) : Prop :=
  ∀ rest, m (bytes ++ rest) = (.ok a, rest)

/-! ### Layouts one after the other -/

theorem Reads.pure (a : α) : Reads (Pure.pure a : Reader ε α) [] a := fun _ => rfl

theorem Reads.bind {m : Reader ε α} {f : α → Reader ε β} {p q : List UInt8} {a : α} {b : β}
    (hm : Reads m p a) (hf : Reads (f a) q b) : Reads (m >>= f) (p ++ q) b := by
  intro rest
  rw [List.append_assoc, bind_of_ok (hm (q ++ rest))]
  exact hf rest

/-- What comes behind a layout is read in front of what is left. -/
theorem Reads.seq {m : Reader ε α} {xs : List UInt8} {a : α} (hm : Reads m xs a)
    (f : α → Reader ε β) (rest : List UInt8) : (m >>= f) (xs ++ rest) = f a rest :=
  bind_of_ok (hm rest)

/-- What is read last is returned through a constructor. -/
theorem Reads.map {m : Reader ε α} {f : α → β} {xs : List UInt8} {a : α} (hm : Reads m xs a) :
    Reads (m >>= fun x => Pure.pure (f x)) xs (f a) := by
  have hpure : Reads (Pure.pure (f a) : Reader ε β) [] (f a) := .pure (f a)
  have h := Reads.bind (f := fun x => Pure.pure (f x)) hm hpure
  rwa [List.append_nil] at h

/-- On exactly its bytes, a reader uses its input up. -/
theorem Reads.apply {m : Reader ε α} {xs : List UInt8} {a : α} (hm : Reads m xs a) :
    m xs = (.ok a, []) := by
  have h := hm []
  rwa [List.append_nil] at h

/-! ### Numbers -/

/-- The number some bytes stand for, the lowest byte first. -/
def ofLE : List UInt8 → ℕ
  | [] => 0
  | b :: bytes => b.toNat + 256 * ofLE bytes

/-- The lowest `width` bytes of a number, the lowest byte first. -/
def toLE : ℕ → ℕ → List UInt8
  | 0, _ => []
  | width + 1, n => UInt8.ofNat n :: toLE width (n / 256)

@[simp] theorem length_toLE (width n : ℕ) : (toLE width n).length = width := by
  induction width generalizing n with
  | zero => rfl
  | succ width ih => rw [toLE, List.length_cons, ih]

theorem ofLE_toLE (width n : ℕ) : ofLE (toLE width n) = n % 256 ^ width := by
  induction width generalizing n with
  | zero => rw [pow_zero, Nat.mod_one]; rfl
  | succ width ih =>
    have hlow : (UInt8.ofNat n).toNat = n % 256 := UInt8.toNat_ofNat'
    rw [toLE, ofLE, ih, hlow, pow_succ', Nat.mod_mul]

theorem ofLE_lt (bytes : List UInt8) : ofLE bytes < 256 ^ bytes.length := by
  induction bytes with
  | nil => exact Nat.one_pos
  | cons b bytes ih =>
    have hb : b.toNat < 256 := b.toNat_lt
    rw [ofLE, List.length_cons, pow_succ']
    omega

/-- The bytes of the number some bytes stand for are those bytes. -/
theorem toLE_ofLE (bytes : List UInt8) : toLE bytes.length (ofLE bytes) = bytes := by
  induction bytes with
  | nil => rfl
  | cons b bytes ih =>
    have hb : b.toNat < 256 := b.toNat_lt
    have hdiv : (b.toNat + 256 * ofLE bytes) / 256 = ofLE bytes := by omega
    have hlow : UInt8.ofNat (b.toNat + 256 * ofLE bytes) = b := by
      apply UInt8.toNat_inj.mp
      rw [UInt8.toNat_ofNat']
      omega
    rw [ofLE, List.length_cons, toLE, hdiv, ih, hlow]

section Readers

variable (faults : Faults ε)

def byte : Reader ε UInt8
  | [] => (.error faults.truncated, [])
  | b :: rest => (.ok b, rest)

def take (length : ℕ) : Reader ε (List UInt8) := fun bytes =>
  if length ≤ bytes.length then (.ok (bytes.take length), bytes.drop length)
  else (.error faults.truncated, bytes)

def word (width : ℕ) : Reader ε ℕ := do
  let bytes ← take faults width
  pure (ofLE bytes)

def u16 : Reader ε UInt16 := do
  let n ← word faults 2
  pure (UInt16.ofNat n)

def u32 : Reader ε UInt32 := do
  let n ← word faults 4
  pure (UInt32.ofNat n)

/-- The text some bytes encode. -/
def utf8 (bytes : List UInt8) : Option String := String.fromUTF8? ⟨bytes.toArray⟩

/-- A length in front of the bytes of a text, which may not be longer than `max`. -/
def string (max : ℕ) : Reader ε String := do
  let length ← u16 faults
  if max < length.toNat then fail (faults.stringTooLong length.toNat)
  else do
    let bytes ← take faults length.toNat
    ofOption (utf8 bytes) faults.invalidString

/-- Bytes with their number in front, whatever they encode. -/
def blob : Reader ε (List UInt8) := do
  let length ← u16 faults
  take faults length.toNat

end Readers

/-! ### Writers -/

def u16Bytes (x : UInt16) : List UInt8 := toLE 2 x.toNat

def u32Bytes (x : UInt32) : List UInt8 := toLE 4 x.toNat

def utf8Bytes (s : String) : List UInt8 := s.toByteArray.data.toList

/-- A longer text than a length field can hold is cut. -/
def stringBytes (s : String) : List UInt8 :=
  toLE 2 (min (utf8Bytes s).length 65535) ++ (utf8Bytes s).take 65535

@[simp] theorem length_u16Bytes (x : UInt16) : (u16Bytes x).length = 2 := length_toLE 2 _

@[simp] theorem length_u32Bytes (x : UInt32) : (u32Bytes x).length = 4 := length_toLE 4 _

/-! ### The readers undo the writers -/

section Laws

variable {faults : Faults ε}

theorem reads_byte (b : UInt8) : Reads (byte faults) [b] b := fun _ => rfl

theorem reads_take (bytes : List UInt8) : Reads (take faults bytes.length) bytes bytes := by
  intro rest
  have h : bytes.length ≤ (bytes ++ rest).length := by
    rw [List.length_append]
    omega
  rw [take, if_pos h, List.take_left, List.drop_left]

theorem reads_word (width n : ℕ) (h : n < 256 ^ width) :
    Reads (word faults width) (toLE width n) n := by
  have htake : Reads (take faults width) (toLE width n) (toLE width n) := by
    have h : Reads (take faults (toLE width n).length) (toLE width n) (toLE width n) :=
      reads_take _
    rwa [length_toLE] at h
  have hn : ofLE (toLE width n) = n := by rw [ofLE_toLE, Nat.mod_eq_of_lt h]
  have := htake.map (f := ofLE)
  rwa [hn] at this

theorem reads_u16 (x : UInt16) : Reads (u16 faults) (u16Bytes x) x := by
  have hx : x.toNat < 256 ^ 2 := x.toNat_lt
  have h : Reads (u16 faults) (u16Bytes x) (UInt16.ofNat x.toNat) :=
    (reads_word 2 x.toNat hx).map
  rwa [UInt16.ofNat_toNat] at h

theorem reads_u32 (x : UInt32) : Reads (u32 faults) (u32Bytes x) x := by
  have hx : x.toNat < 256 ^ 4 := x.toNat_lt
  have h : Reads (u32 faults) (u32Bytes x) (UInt32.ofNat x.toNat) :=
    (reads_word 4 x.toNat hx).map
  rwa [UInt32.ofNat_toNat] at h

theorem utf8_utf8Bytes (s : String) : utf8 (utf8Bytes s) = some s := by
  have hs : (⟨(utf8Bytes s).toArray⟩ : ByteArray) = s.toByteArray := by
    rw [utf8Bytes, Array.toArray_toList]
  rw [utf8, hs, String.fromUTF8?, dif_pos s.isValidUTF8]
  rfl

theorem reads_string {max : ℕ} (hmax : max < 65536) (s : String)
    (h : (utf8Bytes s).length ≤ max) : Reads (string faults max) (stringBytes s) s := by
  have hlength : min (utf8Bytes s).length 65535 = (utf8Bytes s).length := by omega
  have hwhole : (utf8Bytes s).take 65535 = utf8Bytes s := List.take_of_length_le (by omega)
  have hn : (UInt16.ofNat (utf8Bytes s).length).toNat = (utf8Bytes s).length := by
    rw [UInt16.toNat_ofNat']
    exact Nat.mod_eq_of_lt (by omega)
  have hfield : Reads (u16 faults) (toLE 2 (utf8Bytes s).length)
      (UInt16.ofNat (utf8Bytes s).length) :=
    (reads_word 2 _ (by omega)).map
  rw [stringBytes, hlength, hwhole]
  refine hfield.bind ?_
  rw [hn, if_neg (by omega)]
  intro rest
  rw [bind_of_ok (reads_take (utf8Bytes s) rest), utf8_utf8Bytes]
  rfl

theorem reads_blob (s : String) :
    Reads (blob faults) (stringBytes s) ((utf8Bytes s).take 65535) := by
  have hn : (UInt16.ofNat (min (utf8Bytes s).length 65535)).toNat =
      ((utf8Bytes s).take 65535).length := by
    rw [UInt16.toNat_ofNat', List.length_take, Nat.mod_eq_of_lt (by omega)]
    exact Nat.min_comm _ _
  have hfield : Reads (u16 faults) (toLE 2 (min (utf8Bytes s).length 65535))
      (UInt16.ofNat (min (utf8Bytes s).length 65535)) :=
    (reads_word 2 _ (by omega)).map
  refine hfield.bind ?_
  rw [hn]
  exact reads_take _

end Laws

/-! ### A layout as the whole input -/

/-- A reader behind a check of how many bytes are left. -/
def exactly (length : ℕ) (e : ε) (m : Reader ε α) : Reader ε α := do
  let remaining ← read List.length
  if remaining ≠ length then fail e else m

/-- A reader whose input must be used up. -/
def complete (e : ε) (m : Reader ε α) : Reader ε α := do
  let a ← m
  let done ← read List.isEmpty
  if done then pure a else fail e

theorem exactly_apply (length : ℕ) (e : ε) (m : Reader ε α) (bytes : List UInt8) :
    exactly length e m bytes = if bytes.length ≠ length then (.error e, bytes) else m bytes := by
  unfold exactly
  rw [bind_apply]
  show (if bytes.length ≠ length then fail e else m) bytes = _
  split <;> rfl

/-- A layout of the length that is checked is read. -/
theorem Reads.exactly {m : Reader ε α} {xs : List UInt8} {a : α} (hm : Reads m xs a) (e : ε) :
    ByteCodec.exactly xs.length e m xs = (.ok a, []) := by
  rw [exactly_apply, if_neg (not_not_intro rfl)]
  exact hm.apply

/-- A layout of another length than the one that is checked is refused. -/
theorem exactly_of_length_ne {length : ℕ} {m : Reader ε α} {xs : List UInt8} (e : ε)
    (h : xs.length ≠ length) : exactly length e m xs = (.error e, xs) := by
  rw [exactly_apply, if_pos h]

theorem complete_of_ok {e : ε} {m : Reader ε α} {xs : List UInt8} {a : α}
    (h : m xs = (.ok a, [])) : complete e m xs = (.ok a, []) := by
  rw [complete, bind_of_ok h]
  rfl

theorem complete_of_error {e e' : ε} {m : Reader ε α} {xs ys : List UInt8}
    (h : m xs = (.error e', ys)) : complete e m xs = (.error e', ys) := by
  rw [complete, bind_of_error h]

/-- What is accepted is used up. -/
theorem complete_eq_ok {e : ε} {m : Reader ε α} {xs rest : List UInt8} {a : α} :
    complete e m xs = (.ok a, rest) ↔ m xs = (.ok a, []) ∧ rest = [] := by
  rw [complete, bind_eq_ok]
  constructor
  · intro h
    obtain ⟨b, ys, hm, hdone⟩ := h
    cases ys with
    | nil => cases hdone; exact ⟨hm, rfl⟩
    | cons y ys => cases hdone
  · intro h
    obtain ⟨hm, rfl⟩ := h
    exact ⟨a, [], hm, rfl⟩

end ByteCodec
