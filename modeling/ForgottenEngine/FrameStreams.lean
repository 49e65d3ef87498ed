import ForgottenEngine.Library.ByteCodec
import ForgottenEngine.Presentation

/-!
# Frames on the wire

Two bytes of length go in front of every frame.  A session reads one frame after the other from its
socket; while it waits, its read may time out, and a reader that has part of a frame by then has
dropped it.

* `readFrame_encode` — what `encode` writes is read as that frame;
* `readFrame_length` — a frame of a forbidden length is drained to its end;
* `receivedFrames_eq_iff` — **the session gets the frames that were sent, exactly when no read
  times out inside one of them**.
-/

namespace ForgottenEngine

open ByteCodec Fallible

/-- A frame by its payload. -/
abbrev Frame : Type := List UInt8

def encode (frame : Frame) : Except ProtocolError (List UInt8) :=
  if frame = [] ∨ maxFrameSize < frame.length then .error (.invalidLength frame.length)
  else .ok (toLE 2 frame.length ++ frame)

def decode (bytes : List UInt8) : Except ProtocolError Frame :=
  if bytes.length < 3 then .error .truncated
  else
    let declared := ofLE (bytes.take 2)
    if declared = 0 ∨ maxFrameSize < declared then .error (.invalidLength declared)
    else if bytes.length ≠ declared + 2 then
      .error (.lengthMismatch declared (bytes.length - 2))
    else .ok (bytes.drop 2)

/-! ### The socket -/

/-- What a reader of the socket meets: the next byte, or nothing until its timeout. -/
inductive Arrival where
  | byte (b : UInt8)
  | timeout
deriving DecidableEq, Repr

inductive ReadError where
  | timedOut
  | unexpectedEof
  | protocol (error : ProtocolError)
deriving DecidableEq, Repr

/-- `read_exact`; the bytes it has when it fails are gone. -/
def readExact : ℕ → List Arrival → Except ReadError (List UInt8) × List Arrival
  | 0, arrivals => (.ok [], arrivals)
  | _ + 1, [] => (.error .unexpectedEof, [])
  | _ + 1, .timeout :: arrivals => (.error .timedOut, arrivals)
  | n + 1, .byte b :: arrivals =>
    ((readExact n arrivals).1.map (b :: ·), (readExact n arrivals).2)

/-- A frame whose length is not allowed is read to its end, in one chunk: no length that two bytes
can declare is above that of a chunk. -/
def readFrame : Fallible ReadError (List Arrival) Frame := do
  let header ← readExact 2
  if ofLE header = 0 ∨ maxFrameSize < ofLE header then
    let _ ← readExact (ofLE header)
    fail (.protocol (.invalidLength (ofLE header)))
  else
    let body ← readExact (ofLE header)
    ofExcept ((decode (header ++ body)).mapError .protocol)

/-! ### One read -/

def Arrival.byte? : Arrival → Option UInt8
  | .byte b => some b
  | .timeout => none

/-- The bytes among the arrivals. -/
def bytesOf (arrivals : List Arrival) : List UInt8 := arrivals.filterMap Arrival.byte?

/-- Bytes that arrive in time. -/
def inTime (bytes : List UInt8) : List Arrival := bytes.map .byte

@[simp] theorem bytesOf_append (as bs : List Arrival) :
    bytesOf (as ++ bs) = bytesOf as ++ bytesOf bs := List.filterMap_append

@[simp] theorem bytesOf_inTime (bytes : List UInt8) : bytesOf (inTime bytes) = bytes := by
  induction bytes with
  | nil => rfl
  | cons b bytes ih => exact congrArg (b :: ·) ih

@[simp] theorem bytesOf_timeout (as : List Arrival) : bytesOf (.timeout :: as) = bytesOf as := rfl

/-- How reading a number of bytes goes. -/
inductive ExactRead (n : ℕ) (arrivals : List Arrival) :
    Except ReadError (List UInt8) × List Arrival → Prop
  | ok (bytes) {rest} : bytes.length = n → arrivals = inTime bytes ++ rest →
      ExactRead n arrivals (.ok bytes, rest)
  | timedOut (bytes) {rest} : bytes.length < n → arrivals = inTime bytes ++ .timeout :: rest →
      ExactRead n arrivals (.error .timedOut, rest)
  | ended (bytes) : bytes.length < n → arrivals = inTime bytes →
      ExactRead n arrivals (.error .unexpectedEof, [])

theorem readExact_cases (n : ℕ) (arrivals : List Arrival) :
    ExactRead n arrivals (readExact n arrivals) := by
  fun_induction readExact n arrivals with
  | case1 arrivals => exact .ok [] rfl rfl
  | case2 n => exact .ended [] (Nat.succ_pos n) rfl
  | case3 n arrivals => exact .timedOut [] (Nat.succ_pos n) rfl
  | case4 n b arrivals ih =>
    revert ih
    generalize readExact n arrivals = read
    intro ih
    cases ih with
    | ok bytes hlength harrivals =>
      subst harrivals
      exact .ok (b :: _) (congrArg (· + 1) hlength) rfl
    | timedOut bytes hlength harrivals =>
      subst harrivals
      exact .timedOut (b :: _) (Nat.succ_lt_succ hlength) rfl
    | ended bytes hlength harrivals =>
      subst harrivals
      exact .ended (b :: _) (Nat.succ_lt_succ hlength) rfl

theorem readExact_inTime (bytes : List UInt8) (rest : List Arrival) :
    readExact bytes.length (inTime bytes ++ rest) = (.ok bytes, rest) := by
  induction bytes with
  | nil => rfl
  | cons b bytes ih =>
    show ((readExact bytes.length (inTime bytes ++ rest)).1.map (b :: ·),
      (readExact bytes.length (inTime bytes ++ rest)).2) = _
    rw [ih]
    rfl

/-- A frame as it goes over the wire. -/
def wire (frame : Frame) : List UInt8 := toLE 2 frame.length ++ frame

/-- The frames of an allowed length. -/
def FrameFits (frame : Frame) : Prop := 0 < frame.length ∧ frame.length ≤ maxFrameSize

theorem encode_eq_ok {frame : Frame} {bytes : List UInt8} :
    encode frame = .ok bytes ↔ FrameFits frame ∧ bytes = wire frame := by
  unfold encode FrameFits
  rw [List.length_pos_iff]
  split
  · next h =>
    constructor
    · intro heq
      cases heq
    · intro heq
      exact absurd h (not_or.mpr ⟨heq.1.1, not_lt.mpr heq.1.2⟩)
  · next h =>
    rw [not_or, not_lt] at h
    constructor
    · intro heq
      cases heq
      exact ⟨h, rfl⟩
    · intro heq
      rw [heq.2]
      rfl

theorem ofLE_length {frame : Frame} (h : FrameFits frame) :
    ofLE (toLE 2 frame.length) = frame.length := by
  have hle : frame.length ≤ 8 * 1024 := h.2
  rw [ofLE_toLE]
  omega

theorem decode_wire {frame : Frame} (h : FrameFits frame) : decode (wire frame) = .ok frame := by
  have hlength : (wire frame).length = frame.length + 2 := by
    simp [wire]
    omega
  have htake : (wire frame).take 2 = toLE 2 frame.length := List.take_left' (length_toLE 2 _)
  have hdrop : (wire frame).drop 2 = frame := List.drop_left' (length_toLE 2 _)
  unfold decode
  rw [hlength, htake, hdrop, ofLE_length h, if_neg (by have := h.1; omega)]
  simp only
  rw [if_neg (by have := h.1; have := h.2; omega), if_neg (not_not.mpr rfl)]

/-- **What is written is read.** -/
theorem readFrame_wire {frame : Frame} (h : FrameFits frame) (rest : List Arrival) :
    readFrame (inTime (wire frame) ++ rest) = (.ok frame, rest) := by
  have hheader : readExact 2 (inTime (toLE 2 frame.length) ++ (inTime frame ++ rest)) =
      (.ok (toLE 2 frame.length), inTime frame ++ rest) := by
    have hread := readExact_inTime (toLE 2 frame.length) (inTime frame ++ rest)
    rwa [length_toLE] at hread
  have hsplit : inTime (wire frame) ++ rest =
      inTime (toLE 2 frame.length) ++ (inTime frame ++ rest) := by
    simp [wire, inTime]
  unfold readFrame
  rw [hsplit, bind_of_ok hheader, ofLE_length h, if_neg (by have := h.1; have := h.2; omega),
    bind_of_ok (readExact_inTime frame rest)]
  show ((decode (wire frame)).mapError ReadError.protocol, rest) = _
  rw [decode_wire h]
  rfl

/-- How reading a frame goes.  After any other error the session is over. -/
inductive FrameRead (arrivals : List Arrival) : Except ReadError Frame × List Arrival → Prop
  | frame {frame rest} : FrameFits frame → arrivals = inTime (wire frame) ++ rest →
      FrameRead arrivals (.ok frame, rest)
  | timedOut {bytes rest} : arrivals = inTime bytes ++ .timeout :: rest →
      FrameRead arrivals (.error .timedOut, rest)
  | ended {error rest} : error ≠ .timedOut → FrameRead arrivals (.error error, rest)

theorem readFrame_cases (arrivals : List Arrival) : FrameRead arrivals (readFrame arrivals) := by
  unfold readFrame
  cases hheader : readExact 2 arrivals with
  | mk result rest =>
  have hcases := readExact_cases 2 arrivals
  rw [hheader] at hcases
  cases hcases with
  | timedOut _ _ harrivals =>
    rw [bind_of_error hheader]
    exact .timedOut harrivals
  | ended =>
    rw [bind_of_error hheader]
    exact .ended (by decide)
  | ok header hlength harrivals =>
    rw [bind_of_ok hheader]
    have hbody := readExact_cases (ofLE header) rest
    cases hread : readExact (ofLE header) rest with
    | mk result behind =>
    rw [hread] at hbody
    cases hbody with
    | timedOut bytes _ hrest =>
      have harrivals : arrivals = inTime (header ++ bytes) ++ .timeout :: behind := by
        rw [harrivals, hrest]
        simp [inTime]
      split
      · rw [bind_of_error hread]
        exact .timedOut harrivals
      · rw [bind_of_error hread]
        exact .timedOut harrivals
    | ended =>
      split
      · rw [bind_of_error hread]
        exact .ended (by decide)
      · rw [bind_of_error hread]
        exact .ended (by decide)
    | ok body hbody hrest =>
      split
      · rw [bind_of_ok hread]
        exact .ended (by simp)
      · next hdeclared =>
        rw [bind_of_ok hread]
        have hfits : FrameFits body := by
          unfold FrameFits
          omega
        have hwire : header ++ body = wire body := by
          have hheader : toLE 2 (ofLE header) = header := by
            rw [← hlength]
            exact toLE_ofLE header
          rw [wire, hbody, hheader]
        rw [hwire, decode_wire hfits]
        refine .frame hfits ?_
        rw [harrivals, hrest, ← hwire]
        simp [inTime]

/-- **A frame of a forbidden length is drained to its end**, and what is behind it stays. -/
theorem readFrame_length {header body : List UInt8} (hheader : header.length = 2)
    (hbody : body.length = ofLE header)
    (hlength : body.length = 0 ∨ maxFrameSize < body.length) (rest : List Arrival) :
    readFrame (inTime (header ++ body) ++ rest) =
      (.error (.protocol (.invalidLength body.length)), rest) := by
  have hsplit : inTime (header ++ body) ++ rest = inTime header ++ (inTime body ++ rest) := by
    simp [inTime]
  have hread : readExact 2 (inTime header ++ (inTime body ++ rest)) =
      (.ok header, inTime body ++ rest) := by
    rw [← hheader]
    exact readExact_inTime header _
  unfold readFrame
  rw [hsplit, bind_of_ok hread, ← hbody, if_pos hlength, bind_of_ok (readExact_inTime body rest)]
  rfl

/-! ### The session -/

theorem length_readFrame {arrivals rest : List Arrival} {result : Except ReadError Frame}
    (h : readFrame arrivals = (result, rest)) (hok : ∀ error, result = .error error →
      error = .timedOut) : rest.length < arrivals.length := by
  have hcases := readFrame_cases arrivals
  rw [h] at hcases
  cases hcases with
  | frame hfits harrivals =>
    rw [harrivals, List.length_append, inTime, List.length_map, wire, List.length_append,
      length_toLE]
    omega
  | timedOut harrivals =>
    rw [harrivals, List.length_append, List.length_cons]
    omega
  | ended herror => exact absurd (hok _ rfl) herror

/-- The frames that the loop of a session gets: after a timeout it tries again, and any other error
ends it. -/
def receivedFrames (arrivals : List Arrival) : List Frame :=
  match _h : readFrame arrivals with
  | (.ok frame, rest) => frame :: receivedFrames rest
  | (.error .timedOut, rest) => receivedFrames rest
  | (.error _, _) => []
termination_by arrivals.length
decreasing_by
  · exact length_readFrame _h fun _ herror => by cases herror
  · exact length_readFrame _h fun _ herror => by cases herror; rfl

theorem receivedFrames_frame {arrivals rest : List Arrival} {frame : Frame}
    (h : readFrame arrivals = (.ok frame, rest)) :
    receivedFrames arrivals = frame :: receivedFrames rest := by
  rw [receivedFrames]
  split
  · next h' =>
    rw [h] at h'
    cases h'
    rfl
  · next h' =>
    rw [h] at h'
    cases h'
  · next h' =>
    rw [h] at h'
    cases h'

theorem receivedFrames_timedOut {arrivals rest : List Arrival}
    (h : readFrame arrivals = (.error .timedOut, rest)) :
    receivedFrames arrivals = receivedFrames rest := by
  rw [receivedFrames]
  split
  · next h' =>
    rw [h] at h'
    cases h'
  · next h' =>
    rw [h] at h'
    cases h'
    rfl
  · next hother h' =>
    rw [h] at h'
    cases h'
    exact (hother rfl).elim

theorem receivedFrames_ended {arrivals rest : List Arrival} {error : ReadError}
    (herror : error ≠ .timedOut) (h : readFrame arrivals = (.error error, rest)) :
    receivedFrames arrivals = [] := by
  rw [receivedFrames]
  split
  · next h' =>
    rw [h] at h'
    cases h'
  · next h' =>
    rw [h] at h'
    cases h'
    exact absurd rfl herror
  · rfl

/-- The bytes of some frames. -/
def wires (frames : List Frame) : List UInt8 := (frames.map wire).flatten

@[simp] theorem wires_cons (frame : Frame) (frames : List Frame) :
    wires (frame :: frames) = wire frame ++ wires frames := rfl

theorem wire_ne_nil (frame : Frame) : wire frame ≠ [] := by simp [wire, toLE]

/-- A timeout is not among bytes that arrive in time. -/
theorem split_behind {bytes : List UInt8} {rest pre post : List Arrival}
    (h : inTime bytes ++ rest = pre ++ .timeout :: post) :
    ∃ pre', pre = inTime bytes ++ pre' ∧ rest = pre' ++ .timeout :: post := by
  induction bytes generalizing pre with
  | nil => exact ⟨pre, rfl, h⟩
  | cons b bytes ih =>
    cases pre with
    | nil => cases h
    | cons a pre =>
      obtain ⟨hhead, htail⟩ := List.cons_eq_cons.mp h
      obtain ⟨pre', hpre, hrest⟩ := ih htail
      exact ⟨pre', by rw [← hhead, hpre]; rfl, hrest⟩

/-- Bytes among which no read times out are there in one piece. -/
theorem exists_inTime {bytes behind : List UInt8} {arrivals : List Arrival}
    (hbytes : bytesOf arrivals = bytes ++ behind)
    (hlate : ∀ pre post, arrivals = pre ++ .timeout :: post →
      bytes.length ≤ (bytesOf pre).length) : ∃ rest, arrivals = inTime bytes ++ rest := by
  induction bytes generalizing arrivals with
  | nil => exact ⟨arrivals, rfl⟩
  | cons b bytes ih =>
    cases arrivals with
    | nil => cases hbytes
    | cons a arrivals =>
      cases a with
      | timeout => exact absurd (hlate [] arrivals rfl) (by simp [bytesOf])
      | byte c =>
        obtain ⟨hhead, htail⟩ := List.cons_eq_cons.mp hbytes
        obtain ⟨rest, hrest⟩ := ih htail fun pre post harrivals => by
          have hle := hlate (.byte c :: pre) post (by rw [harrivals]; rfl)
          exact Nat.le_of_succ_le_succ hle
        exact ⟨rest, by rw [hhead, hrest]; rfl⟩

/-- Every timeout comes when all bytes so far are those of whole frames. -/
def BetweenFrames (frames : List Frame) (arrivals : List Arrival) : Prop :=
  ∀ pre post, arrivals = pre ++ .timeout :: post → ∃ k, bytesOf pre = wires (frames.take k)

theorem receivedFrames_of_between {frames : List Frame} (hfits : ∀ f ∈ frames, FrameFits f)
    {arrivals : List Arrival} (hbytes : bytesOf arrivals = wires frames)
    (hbetween : BetweenFrames frames arrivals) : receivedFrames arrivals = frames := by
  induction hlength : arrivals.length using Nat.strong_induction_on
    generalizing frames arrivals with
  | _ n ih =>
  subst hlength
  cases arrivals with
  | nil =>
    cases frames with
    | nil => exact receivedFrames_ended (by decide : ReadError.unexpectedEof ≠ .timedOut) rfl
    | cons frame frames =>
      rw [wires_cons] at hbytes
      exact absurd (List.append_eq_nil_iff.mp hbytes.symm).1 (wire_ne_nil frame)
  | cons a arrivals =>
    cases a with
    | timeout =>
      have hread : readFrame (.timeout :: arrivals) = (.error .timedOut, arrivals) := rfl
      rw [receivedFrames_timedOut hread]
      refine ih _ (Nat.lt_succ_self _) hfits hbytes (fun pre post harrivals => ?_) rfl
      exact hbetween (.timeout :: pre) post (by rw [harrivals]; rfl)
    | byte b =>
      cases frames with
      | nil => cases hbytes
      | cons frame frames =>
        have hframe := hfits frame List.mem_cons_self
        obtain ⟨rest, hrest⟩ := exists_inTime hbytes fun pre post harrivals => by
          obtain ⟨k, hk⟩ := hbetween pre post harrivals
          cases k with
          | zero =>
            cases pre with
            | nil => cases harrivals
            | cons a pre =>
              obtain ⟨rfl, -⟩ := List.cons_eq_cons.mp harrivals
              cases hk
          | succ k =>
            rw [hk, List.take_succ_cons, wires_cons, List.length_append]
            exact Nat.le_add_right _ _
        rw [hrest, bytesOf_append, bytesOf_inTime, wires_cons] at hbytes
        rw [hrest] at hbetween ⊢
        have hread := readFrame_wire hframe rest
        rw [receivedFrames_frame hread]
        refine congrArg (frame :: ·) (ih rest.length ?_ (fun f hf =>
          hfits f (List.mem_cons_of_mem _ hf)) (List.append_cancel_left hbytes) ?_ rfl)
        · rw [hrest]
          exact length_readFrame hread fun _ herror => by cases herror
        · intro pre post hpost
          obtain ⟨k, hk⟩ := hbetween (inTime (wire frame) ++ pre) post (by
            rw [hpost, List.append_assoc])
          rw [bytesOf_append, bytesOf_inTime] at hk
          cases k with
          | zero => exact absurd (List.append_eq_nil_iff.mp hk).1 (wire_ne_nil frame)
          | succ k =>
            rw [List.take_succ_cons, wires_cons] at hk
            exact ⟨k, List.append_cancel_left hk⟩

/-- No byte is in two frames. -/
theorem length_wires_le (arrivals : List Arrival) :
    (wires (receivedFrames arrivals)).length ≤ (bytesOf arrivals).length := by
  induction hlength : arrivals.length using Nat.strong_induction_on generalizing arrivals with
  | _ n ih =>
  subst hlength
  cases hread : readFrame arrivals with
  | mk result rest =>
  have hcases := readFrame_cases arrivals
  rw [hread] at hcases
  cases hcases with
  | ended herror =>
    rw [receivedFrames_ended herror hread]
    exact Nat.zero_le _
  | frame hfits harrivals =>
    have hrest := ih rest.length (length_readFrame hread fun _ herror => by cases herror) rest rfl
    rw [receivedFrames_frame hread, harrivals, wires_cons, bytesOf_append, bytesOf_inTime,
      List.length_append, List.length_append]
    omega
  | timedOut harrivals =>
    have hrest := ih rest.length
      (length_readFrame hread fun _ herror => by cases herror; rfl) rest rfl
    rw [receivedFrames_timedOut hread, harrivals, bytesOf_append, bytesOf_timeout,
      List.length_append]
    omega

/-- A timeout that is not between two frames costs bytes. -/
theorem timeout_costs {arrivals pre post : List Arrival}
    (h : arrivals = pre ++ .timeout :: post) :
    (∃ k, bytesOf pre = wires ((receivedFrames arrivals).take k)) ∨
      (wires (receivedFrames arrivals)).length < (bytesOf arrivals).length := by
  induction hlength : arrivals.length using Nat.strong_induction_on generalizing arrivals pre with
  | _ n ih =>
  subst hlength
  cases hread : readFrame arrivals with
  | mk result rest =>
  have hcases := readFrame_cases arrivals
  rw [hread] at hcases
  cases hcases with
  | ended herror =>
    rw [receivedFrames_ended herror hread]
    cases hpre : bytesOf pre with
    | nil => exact .inl ⟨0, rfl⟩
    | cons b bytes =>
      right
      rw [h, bytesOf_append, hpre]
      exact Nat.succ_pos _
  | frame hfits harrivals =>
    rw [harrivals] at h
    obtain ⟨pre', rfl, hrest⟩ := split_behind h
    rw [receivedFrames_frame hread]
    have hless := length_readFrame hread fun _ herror => by cases herror
    rcases ih _ hless hrest rfl with ⟨k, hk⟩ | hlost
    · left
      refine ⟨k + 1, ?_⟩
      rw [bytesOf_append, bytesOf_inTime, hk, List.take_succ_cons, wires_cons]
    · right
      rw [harrivals, bytesOf_append, bytesOf_inTime, wires_cons, List.length_append,
        List.length_append]
      omega
  | @timedOut bytes _ harrivals =>
    rw [receivedFrames_timedOut hread]
    have hless := length_readFrame hread fun _ herror => by cases herror; rfl
    have hle := length_wires_le rest
    cases bytes with
    | cons b bytes =>
      right
      rw [harrivals, bytesOf_append, bytesOf_inTime, bytesOf_timeout, List.length_append,
        List.length_cons]
      omega
    | nil =>
      have harrivals : arrivals = .timeout :: rest := harrivals
      cases pre with
      | nil => exact .inl ⟨0, rfl⟩
      | cons a pre =>
        rw [harrivals] at h
        obtain ⟨hhead, hrest⟩ := List.cons_eq_cons.mp h
        have hbehind := ih _ hless hrest rfl
        rwa [harrivals, ← hhead, bytesOf_timeout, bytesOf_timeout]

/-- **A session gets the frames that were sent, exactly when no read times out inside one.** -/
theorem receivedFrames_eq_iff (frames : List Frame) (sent : List (List UInt8))
    (hsent : frames.mapM encode = .ok sent) (arrivals : List Arrival)
    (hbytes : bytesOf arrivals = sent.flatten) :
    receivedFrames arrivals = frames ↔ ∀ pre post, arrivals = pre ++ .timeout :: post →
      ∃ k, bytesOf pre = (sent.take k).flatten := by
  have hfits : (∀ f ∈ frames, FrameFits f) ∧ sent = frames.map wire := by
    clear hbytes
    induction frames generalizing sent with
    | nil =>
      cases hsent
      exact ⟨by simp, rfl⟩
    | cons frame frames ih =>
      rw [List.mapM_cons] at hsent
      obtain ⟨bytes, hbytes, hsent⟩ := except_bind_eq_ok.mp hsent
      obtain ⟨behind, hbehind, hsent⟩ := except_bind_eq_ok.mp hsent
      cases hsent
      obtain ⟨hframe, rfl⟩ := encode_eq_ok.mp hbytes
      obtain ⟨hframes, rfl⟩ := ih behind hbehind
      exact ⟨List.forall_mem_cons.mpr ⟨hframe, hframes⟩, rfl⟩
  obtain ⟨hfits, rfl⟩ := hfits
  have htake : ∀ k, ((frames.map wire).take k).flatten = wires (frames.take k) := by
    intro k
    rw [← List.map_take]
    rfl
  simp only [htake]
  constructor
  · intro heq pre post harrivals
    rcases timeout_costs harrivals with hk | hlost
    · rwa [heq] at hk
    · rw [heq, hbytes] at hlost
      exact absurd hlost (lt_irrefl _)
  · exact receivedFrames_of_between hfits hbytes

/-- A ping whose second byte is late is lost. -/
theorem latePing_lost :
    receivedFrames [.byte 1, .timeout, .byte 0, .byte 30] ≠ [[30]] := by
  intro heq
  obtain ⟨k, hk⟩ := (receivedFrames_eq_iff [[30]] [[1, 0, 30]] (by decide) _ (by decide)).mp heq
    [.byte 1] [.byte 0, .byte 30] rfl
  cases k with
  | zero => cases hk
  | succ k =>
    rw [List.take_succ_cons, List.take_nil] at hk
    cases hk

end ForgottenEngine
