import ForgottenEngine.Library.ByteCodec
import ForgottenEngine.Library.Rounds

/-!
# Words, and lists with commas

A scanner passes over blanks in front of whatever it looks for: a byte, a word of bytes of one kind,
or a list of items with a separator between them and a byte that closes it.  A separator in front of
the closing byte is allowed.

* `Scans` — **a reader takes off exactly the texts of a language**, where the byte behind them
  allows it; `Scans.bind`, `Scans.check` build such readers from smaller ones;
* `scans_expect`, `scans_word` — a byte, and the longest word of a kind;
* `Skips` — blanks in front do not matter to a reader;
* `CommaList` — the texts of a list, whatever its items look like;
* `scans_listed` — **the loop over a list takes off exactly its texts**, and folds the items.
-/

namespace Scanner

open ByteCodec Fallible Rounds

variable {ε α β τ : Type} (blank : UInt8 → Bool)

/-- Bytes to be passed over. -/
def Blanks (bytes : List UInt8) : Prop := ∀ b ∈ bytes, blank b = true

/-! ### The readers -/

/-- An error that says where it is: what is left of the input. -/
def failAt (e : List UInt8 → ε) : Reader ε α := fun rest => (.error (e rest), rest)

def skip : Reader ε Unit := fun bytes => (.ok (), bytes.dropWhile blank)

/-- Take the byte off, if it comes next. -/
def consume (c : UInt8) : Reader ε Bool := fun bytes =>
  match bytes.dropWhile blank with
  | [] => (.ok false, [])
  | b :: rest => if b = c then (.ok true, rest) else (.ok false, b :: rest)

def nextIs (c : UInt8) : Reader ε Bool := fun bytes =>
  (.ok ((bytes.dropWhile blank).head? = some c), bytes.dropWhile blank)

/-- The byte has to come next. -/
def expect (c : UInt8) (e : List UInt8 → ε) : Reader ε Unit := do
  let found ← consume blank c
  if found then pure () else failAt e

/-- The longest word of bytes of a kind, which may not be empty. -/
def word (kind : UInt8 → Bool) (e : List UInt8 → ε) : Reader ε (List UInt8) := fun bytes =>
  let rest := bytes.dropWhile blank
  if rest.takeWhile kind = [] then (.error (e rest), rest)
  else (.ok (rest.takeWhile kind), rest.dropWhile kind)

/-! ### Blanks -/

section Blanks

variable {blank} {bytes rest : List UInt8}

theorem blanks_nil : Blanks blank [] := fun _ hb => absurd hb List.not_mem_nil

theorem blanks_takeWhile (blank : UInt8 → Bool) (bytes : List UInt8) :
    Blanks blank (bytes.takeWhile blank) := fun _ hb => List.mem_takeWhile_imp hb

theorem Blanks.append {xs ys : List UInt8} (hx : Blanks blank xs) (hy : Blanks blank ys) :
    Blanks blank (xs ++ ys) := by
  intro b hb
  rcases List.mem_append.mp hb with hb | hb
  · exact hx b hb
  · exact hy b hb

/-- Passing over blanks ends in front of the first byte that is none. -/
theorem dropWhile_blanks {ws : List UInt8} (hws : Blanks blank ws)
    (hrest : ∀ b ∈ rest.head?, blank b = false) : (ws ++ rest).dropWhile blank = rest := by
  rw [List.dropWhile_append_of_pos hws]
  cases rest with
  | nil => rfl
  | cons b rest => exact List.dropWhile_cons_of_neg (by rw [hrest b rfl]; decide)

theorem dropWhile_byte {ws : List UInt8} {c : UInt8} (hws : Blanks blank ws)
    (hc : blank c = false) : (ws ++ c :: rest).dropWhile blank = c :: rest := by
  apply dropWhile_blanks hws
  intro b hb
  obtain rfl := Option.some.inj hb
  exact hc

theorem dropWhile_first {c : UInt8} (hc : blank c = false) :
    (c :: rest).dropWhile blank = c :: rest :=
  List.dropWhile_cons_of_neg (by rw [hc]; decide)

/-- What comes first, in front of a byte. -/
theorem Blanks.head?_cases {ws : List UInt8} {b c : UInt8} (hws : Blanks blank ws)
    (h : b ∈ (ws ++ c :: rest).head?) : blank b = true ∨ b = c := by
  cases ws with
  | nil => exact .inr (Option.some.inj h).symm
  | cons w ws =>
    obtain rfl := Option.some.inj h
    exact .inl (hws w List.mem_cons_self)

theorem length_dropWhile_le (p : UInt8 → Bool) (bytes : List UInt8) :
    (bytes.dropWhile p).length ≤ bytes.length := (List.dropWhile_suffix p).length_le

end Blanks

/-! ### One byte -/

section Byte

variable {blank} {c : UInt8} {bytes rest : List UInt8}

theorem consume_eq_true :
    (consume blank c : Reader ε Bool) bytes = (.ok true, rest) ↔
      bytes.dropWhile blank = c :: rest := by
  unfold consume
  cases bytes.dropWhile blank with
  | nil => simp
  | cons b tail =>
    by_cases hb : b = c
    · simp [hb]
    · simp [hb]

/-- The byte comes next when only blanks are in front of it. -/
theorem dropWhile_eq_cons (hc : blank c = false) :
    bytes.dropWhile blank = c :: rest ↔ ∃ ws, Blanks blank ws ∧ bytes = ws ++ c :: rest := by
  constructor
  · intro h
    have hsplit := List.takeWhile_append_dropWhile (p := blank) (l := bytes)
    rw [h] at hsplit
    exact ⟨_, blanks_takeWhile blank bytes, hsplit.symm⟩
  · intro h
    obtain ⟨ws, hws, rfl⟩ := h
    exact dropWhile_byte hws hc

/-- When the byte does not come next, only the blanks are gone. -/
theorem consume_eq_false (h : (bytes.dropWhile blank).head? ≠ some c) :
    (consume blank c : Reader ε Bool) bytes = (.ok false, bytes.dropWhile blank) := by
  unfold consume
  cases hdrop : bytes.dropWhile blank with
  | nil => rfl
  | cons b tail =>
    rw [hdrop] at h
    exact if_neg fun heq => h (congrArg some heq)

/-- Looking for a byte always comes to an answer. -/
theorem consume_cases (blank : UInt8 → Bool) (c : UInt8) (bytes : List UInt8) :
    (∃ rest, bytes.dropWhile blank = c :: rest) ∨ (bytes.dropWhile blank).head? ≠ some c := by
  cases bytes.dropWhile blank with
  | nil => exact .inr (by simp)
  | cons b tail =>
    by_cases hb : b = c
    · exact .inl ⟨tail, by rw [hb]⟩
    · exact .inr (by simpa using hb)

theorem consume_dropWhile (c : UInt8) (bytes : List UInt8) :
    (consume blank c : Reader ε Bool) (bytes.dropWhile blank) = consume blank c bytes := by
  unfold consume
  rw [List.dropWhile_idempotent]

end Byte

/-! ### Readers and the texts they take off -/

/-- The reader takes off exactly the texts of a language, where the byte behind them allows it. -/
def Scans (m : Reader ε α) (texts : α → List UInt8 → Prop) (edge : UInt8 → Prop) : Prop :=
  ∀ bytes a rest, m bytes = (.ok a, rest) ↔
    ∃ front, bytes = front ++ rest ∧ texts a front ∧ ∀ b ∈ rest.head?, edge b

/-- Blanks in front do not matter to the reader. -/
def Skips (m : Reader ε α) : Prop :=
  ∀ bytes a rest, m (bytes.dropWhile blank) = (.ok a, rest) ↔ m bytes = (.ok a, rest)

section Scans

variable {blank} {m : Reader ε α} {texts : α → List UInt8 → Prop} {edge edge' : UInt8 → Prop}

/-- One reader behind the other.  What the second one takes off has to be an edge of the first. -/
theorem Scans.bind {f : α → Reader ε β} {texts' : α → β → List UInt8 → Prop}
    (hm : Scans m texts edge) (hf : ∀ a, Scans (f a) (texts' a) edge')
    (hedge : ∀ a b back rest, texts' a b back → (∀ c ∈ rest.head?, edge' c) →
      ∀ c ∈ (back ++ rest).head?, edge c) :
    Scans (m >>= f) (fun b text => ∃ a front back, text = front ++ back ∧ texts a front ∧
      texts' a b back) edge' := by
  intro bytes b rest
  rw [bind_eq_ok]
  constructor
  · intro h
    obtain ⟨a, tail, hfirst, hsecond⟩ := h
    obtain ⟨front, rfl, hfront, -⟩ := (hm _ _ _).mp hfirst
    obtain ⟨back, rfl, hback, hrest⟩ := (hf a _ _ _).mp hsecond
    exact ⟨front ++ back, by rw [List.append_assoc], ⟨a, front, back, rfl, hfront, hback⟩, hrest⟩
  · intro h
    obtain ⟨_, rfl, ⟨a, front, back, rfl, hfront, hback⟩, hrest⟩ := h
    refine ⟨a, back ++ rest, (hm _ _ _).mpr ⟨front, ?_, hfront, ?_⟩, ?_⟩
    · rw [List.append_assoc]
    · exact hedge a b back rest hback hrest
    · exact (hf a _ _ _).mpr ⟨back, rfl, hback, hrest⟩

/-- A check of what was read, which takes nothing off. -/
theorem Scans.check {f : α → Reader ε β} {k : α → Option β} (hm : Scans m texts edge)
    (hf : ∀ a bytes b rest, f a bytes = (.ok b, rest) ↔ k a = some b ∧ rest = bytes) :
    Scans (m >>= f) (fun b text => ∃ a, texts a text ∧ k a = some b) edge := by
  intro bytes b rest
  rw [bind_eq_ok]
  constructor
  · intro h
    obtain ⟨a, tail, hread, hcheck⟩ := h
    obtain ⟨hvalue, rfl⟩ := (hf _ _ _ _).mp hcheck
    obtain ⟨front, hbytes, hfront, hrest⟩ := (hm _ _ _).mp hread
    exact ⟨front, hbytes, ⟨a, hfront, hvalue⟩, hrest⟩
  · intro h
    obtain ⟨front, hbytes, ⟨a, hfront, hvalue⟩, hrest⟩ := h
    exact ⟨a, rest, (hm _ _ _).mpr ⟨front, hbytes, hfront, hrest⟩, (hf _ _ _ _).mpr ⟨hvalue, rfl⟩⟩

/-- Another description of the texts. -/
theorem Scans.congr {texts' : α → List UInt8 → Prop} (hm : Scans m texts edge)
    (h : ∀ a text, texts a text ↔ texts' a text) : Scans m texts' edge := by
  intro bytes a rest
  rw [hm]
  simp only [h]

/-- A reader of texts that are not empty makes the input shorter. -/
theorem Scans.length_lt (hm : Scans m texts edge) (hne : ∀ a text, texts a text → text ≠ [])
    {bytes rest : List UInt8} {a : α} (h : m bytes = (.ok a, rest)) :
    rest.length < bytes.length := by
  obtain ⟨front, rfl, hfront, -⟩ := (hm _ _ _).mp h
  have hpos : 0 < front.length := List.length_pos_iff.mpr (hne a front hfront)
  rw [List.length_append]
  omega

theorem Skips.bind {f : α → Reader ε β} (hm : Skips blank m) : Skips blank (m >>= f) := by
  intro bytes b rest
  simp only [bind_eq_ok, hm bytes]

theorem Skips.guard {c : Prop} [Decidable c] {e : ε} (hm : Skips blank m) :
    Skips blank (if c then fail e else m) := by
  intro bytes a rest
  rw [guard_eq_ok, guard_eq_ok, hm bytes]

theorem skips_expect (c : UInt8) (e : List UInt8 → ε) : Skips blank (expect blank c e) := by
  intro bytes a rest
  unfold expect
  rw [bind_eq_ok, bind_eq_ok, consume_dropWhile]

theorem skips_word (kind : UInt8 → Bool) (e : List UInt8 → ε) :
    Skips blank (word blank kind e) := by
  intro bytes a rest
  unfold word
  rw [List.dropWhile_idempotent]

theorem scans_expect {c : UInt8} (hc : blank c = false) (e : List UInt8 → ε) :
    Scans (expect blank c e) (fun _ text => ∃ ws, Blanks blank ws ∧ text = ws ++ [c])
      fun _ => True := by
  intro bytes a rest
  have hfound : expect blank c e bytes = (.ok (), rest) ↔
      (consume blank c : Reader ε Bool) bytes = (.ok true, rest) := by
    unfold expect
    rcases consume_cases blank c bytes with ⟨tail, hnext⟩ | hnext
    · have hrun := (consume_eq_true (ε := ε)).mpr hnext
      rw [bind_of_ok hrun, hrun]
      simp [pure_apply]
    · have hrun := consume_eq_false (ε := ε) hnext
      rw [bind_of_ok hrun, hrun]
      simp [failAt]
  rw [hfound, consume_eq_true, dropWhile_eq_cons hc]
  constructor
  · intro h
    obtain ⟨ws, hws, rfl⟩ := h
    exact ⟨ws ++ [c], by simp, ⟨ws, hws, rfl⟩, fun _ _ => trivial⟩
  · intro h
    obtain ⟨_, rfl, ⟨ws, hws, rfl⟩, -⟩ := h
    exact ⟨ws, hws, by simp⟩

/-- The longest word of a kind: the byte behind it is not of the kind. -/
theorem scans_word {kind : UInt8 → Bool} (hkind : ∀ b, kind b = true → blank b = false)
    (e : List UInt8 → ε) :
    Scans (word blank kind e) (fun w text => w ≠ [] ∧ (∀ b ∈ w, kind b = true) ∧
      ∃ ws, Blanks blank ws ∧ text = ws ++ w) fun b => kind b = false := by
  intro bytes w rest
  unfold word
  constructor
  · intro h
    dsimp only at h
    split at h
    · cases h
    · next hne =>
      cases h
      have hblanks := List.takeWhile_append_dropWhile (p := blank) (l := bytes)
      have hword := List.takeWhile_append_dropWhile (p := kind) (l := bytes.dropWhile blank)
      refine ⟨bytes.takeWhile blank ++ (bytes.dropWhile blank).takeWhile kind, ?_,
        ⟨hne, fun b hb => List.mem_takeWhile_imp hb, _, blanks_takeWhile blank bytes, rfl⟩, ?_⟩
      · rw [List.append_assoc, hword, hblanks]
      · intro b hb
        have h := List.head?_dropWhile_not kind (bytes.dropWhile blank)
        rw [Option.mem_def.mp hb] at h
        simpa using h
  · intro h
    obtain ⟨_, rfl, ⟨hne, hw, ws, hws, rfl⟩, hrest⟩ := h
    have hdrop : (ws ++ w ++ rest).dropWhile blank = w ++ rest := by
      rw [List.append_assoc]
      apply dropWhile_blanks hws
      intro b hb
      cases w with
      | nil => exact absurd rfl hne
      | cons c w =>
        obtain rfl := Option.some.inj hb
        exact hkind c (hw c List.mem_cons_self)
    have hnone : rest.takeWhile kind = [] ∧ rest.dropWhile kind = rest := by
      cases rest with
      | nil => exact ⟨rfl, rfl⟩
      | cons b rest =>
        have hb := hrest b rfl
        exact ⟨List.takeWhile_cons_of_neg (by rw [hb]; decide),
          List.dropWhile_cons_of_neg (by rw [hb]; decide)⟩
    dsimp only
    rw [hdrop, List.takeWhile_append_of_pos hw, List.dropWhile_append_of_pos hw, hnone.1, hnone.2,
      List.append_nil, if_neg hne]

end Scans

/-! ### Lists -/

/-- The texts of a list: its items, a separator between two of them, the closing byte, and a
separator in front of it or none. -/
inductive CommaList (blank : UInt8 → Bool) (sep stop : UInt8) (item : α → List UInt8 → Prop) :
    List α → List UInt8 → Prop
  | close {ws} : Blanks blank ws → CommaList blank sep stop item [] (ws ++ [stop])
  | last {x text ws} : item x text → Blanks blank ws →
      CommaList blank sep stop item [x] (text ++ (ws ++ [stop]))
  | more {x xs text ws rest} : item x text → Blanks blank ws →
      CommaList blank sep stop item xs rest →
      CommaList blank sep stop item (x :: xs) (text ++ (ws ++ sep :: rest))

variable (sep stop : UInt8)

/-- Behind an item there is a separator, or the end of the list comes next. -/
def behindItem (e : List UInt8 → ε) (b : τ) : Reader ε (τ ⊕ τ) := do
  skip blank
  let again ← consume blank sep
  if again then pure (.inl b)
  else
    let last ← nextIs blank stop
    if last then pure (.inl b) else failAt e

/-- One round of the loop: the end of the list, or an item and what is behind it. -/
def listRound (item : τ → Reader ε τ) (e : List UInt8 → ε) (a : τ) : Reader ε (τ ⊕ τ) := do
  skip blank
  let done ← consume blank stop
  if done then pure (.inr a)
  else
    let b ← item a
    behindItem blank sep stop e b

def listStep (item : τ → Reader ε τ) (e : List UInt8 → ε) (s : τ × List UInt8) :
    (τ × List UInt8) ⊕ (Except ε τ × List UInt8) :=
  match listRound blank sep stop item e s.1 s.2 with
  | (.ok (.inl b), rest) => .inl (b, rest)
  | (.ok (.inr b), rest) => .inr (.ok b, rest)
  | (.error fault, rest) => .inr (.error fault, rest)

section Rounds

variable {blank sep stop} {item : τ → Reader ε τ} {e : List UInt8 → ε} {a b : τ}
  {bytes rest : List UInt8}

theorem skip_apply (bytes : List UInt8) :
    (skip blank : Reader ε Unit) bytes = (.ok (), bytes.dropWhile blank) := rfl

theorem behindItem_inl {c : τ} (h : behindItem blank sep stop e b bytes = (.ok (.inl c), rest)) :
    c = b ∧ (bytes.dropWhile blank = sep :: rest ∨
      rest = bytes.dropWhile blank ∧ rest.head? = some stop) := by
  unfold behindItem at h
  rw [bind_of_ok (skip_apply bytes)] at h
  rcases consume_cases blank sep (bytes.dropWhile blank) with ⟨tail, hnext⟩ | hnext
  · rw [bind_of_ok (consume_eq_true.mpr hnext), if_pos rfl] at h
    cases h
    rw [List.dropWhile_idempotent] at hnext
    exact ⟨rfl, .inl hnext⟩
  · rw [bind_of_ok (consume_eq_false hnext), if_neg (by decide), List.dropWhile_idempotent,
      bind_eq_ok] at h
    obtain ⟨last, u, hlast, h⟩ := h
    unfold nextIs at hlast
    rw [List.dropWhile_idempotent] at hlast
    cases hlast
    split at h
    · next hstop =>
      cases h
      exact ⟨rfl, .inr ⟨rfl, of_decide_eq_true hstop⟩⟩
    · cases h

theorem behindItem_inr {c : τ} : behindItem blank sep stop e b bytes ≠ (.ok (.inr c), rest) := by
  intro h
  unfold behindItem at h
  rw [bind_of_ok (skip_apply bytes), bind_eq_ok] at h
  obtain ⟨again, u, -, h⟩ := h
  split at h
  · cases h
  · rw [bind_eq_ok] at h
    obtain ⟨last, v, -, h⟩ := h
    split at h
    · cases h
    · cases h

/-- The closing byte ends the loop. -/
theorem listRound_stop (h : bytes.dropWhile blank = stop :: rest) :
    listRound blank sep stop item e a bytes = (.ok (.inr a), rest) := by
  have hdone : (consume blank stop : Reader ε Bool) (bytes.dropWhile blank) = (.ok true, rest) :=
    consume_eq_true.mpr (by rw [List.dropWhile_idempotent, h])
  unfold listRound
  rw [bind_of_ok (skip_apply bytes), bind_of_ok hdone]
  rfl

/-- Anything else is read as an item. -/
theorem listRound_item (h : (bytes.dropWhile blank).head? ≠ some stop) :
    listRound blank sep stop item e a bytes =
      (item a >>= behindItem blank sep stop e) (bytes.dropWhile blank) := by
  have hgoes : (consume blank stop : Reader ε Bool) (bytes.dropWhile blank) =
      (.ok false, bytes.dropWhile blank) := by
    rw [consume_dropWhile, consume_eq_false h]
  unfold listRound
  rw [bind_of_ok (skip_apply bytes), bind_of_ok hgoes]
  rfl

/-- A round whose item takes something off makes the input shorter. -/
theorem listStep_less
    (hitem : ∀ a bytes b rest, item a bytes = (.ok b, rest) → rest.length < bytes.length)
    (s t : τ × List UInt8) (h : listStep blank sep stop item e s = .inl t) :
    t.2.length < s.2.length := by
  unfold listStep at h
  split at h
  · next c tail hround =>
    cases h
    rcases consume_cases blank stop s.2 with ⟨rest, hnext⟩ | hnext
    · rw [listRound_stop hnext] at hround
      cases hround
    · rw [listRound_item hnext, bind_eq_ok] at hround
      obtain ⟨b, u, hread, hround⟩ := hround
      have hu := hitem _ _ _ _ hread
      have hblank := length_dropWhile_le blank s.2
      have hle := length_dropWhile_le blank u
      show tail.length < s.2.length
      rcases (behindItem_inl hround).2 with hsep | ⟨rfl, -⟩
      · rw [hsep, List.length_cons] at hle
        omega
      · omega
  · cases h
  · cases h

end Rounds

/-- The loop over a list: the items go into the accumulator one by one. -/
def listed (item : τ → Reader ε τ) (e : List UInt8 → ε)
    (hitem : ∀ a bytes b rest, item a bytes = (.ok b, rest) → rest.length < bytes.length) (a : τ) :
    Reader ε τ := fun bytes =>
  loop (listStep blank sep stop item e) (fun s => s.2.length) (listStep_less hitem) (a, bytes)

/-- What a list needs to know of the readers of its items. -/
structure ListItems (item : τ → Reader ε τ) (texts : α → List UInt8 → Prop)
    (fold : τ → α → Option τ) (edge : UInt8 → Prop) : Prop where
  /-- An item is read by folding one value into the accumulator. -/
  scans : ∀ a, Scans (item a) (fun b text => ∃ x, texts x text ∧ fold a x = some b) edge
  skips : ∀ a, Skips blank (item a)
  /-- No item looks like the end of the list. -/
  opens : ∀ x text, texts x text →
    ∃ ws c tail, Blanks blank ws ∧ blank c = false ∧ c ≠ stop ∧ text = ws ++ c :: tail
  edge_blank : ∀ b, blank b = true → edge b
  edge_sep : edge sep
  edge_stop : edge stop

section Listed

variable {blank sep stop} {item : τ → Reader ε τ} {e : List UInt8 → ε} {a b : τ}
  {bytes rest : List UInt8}

theorem listStep_stop (h : bytes.dropWhile blank = stop :: rest) :
    listStep blank sep stop item e (a, bytes) = .inr (.ok a, rest) := by
  unfold listStep
  rw [listRound_stop h]

/-- A round with an item. -/
theorem listStep_item {tail : List UInt8} (hopen : (bytes.dropWhile blank).head? ≠ some stop)
    (hread : item a (bytes.dropWhile blank) = (.ok b, tail))
    (hbehind : behindItem blank sep stop e b tail = (.ok (.inl b), rest)) :
    listStep blank sep stop item e (a, bytes) = .inl (b, rest) := by
  unfold listStep
  rw [listRound_item hopen, bind_of_ok hread, hbehind]

theorem behindItem_sep {ws : List UInt8} (hsep : blank sep = false) (hws : Blanks blank ws) :
    behindItem blank sep stop e b (ws ++ sep :: rest) = (.ok (.inl b), rest) := by
  have hagain : (consume blank sep : Reader ε Bool) (sep :: rest) = (.ok true, rest) :=
    consume_eq_true.mpr (dropWhile_first hsep)
  unfold behindItem
  rw [bind_of_ok (skip_apply _), dropWhile_byte hws hsep, bind_of_ok hagain]
  rfl

theorem behindItem_stop {ws : List UInt8} (hstop : blank stop = false) (hne : stop ≠ sep)
    (hws : Blanks blank ws) :
    behindItem blank sep stop e b (ws ++ stop :: rest) = (.ok (.inl b), stop :: rest) := by
  have hdrop : (stop :: rest).dropWhile blank = stop :: rest :=
    dropWhile_first hstop
  have hagain : (consume blank sep : Reader ε Bool) (stop :: rest) = (.ok false, stop :: rest) := by
    rw [consume_eq_false, hdrop]
    rw [hdrop]
    exact fun heq => hne (Option.some.inj heq)
  have hnext : (nextIs blank stop : Reader ε Bool) (stop :: rest) = (.ok true, stop :: rest) := by
    unfold nextIs
    rw [hdrop]
    simp
  unfold behindItem
  rw [bind_of_ok (skip_apply _), dropWhile_byte hws hstop, bind_of_ok hagain,
    if_neg (by decide), bind_of_ok hnext]
  rfl

variable {texts : α → List UInt8 → Prop} {fold : τ → α → Option τ} {edge : UInt8 → Prop}

/-- The text of an item does not begin with the closing byte. -/
theorem ListItems.head?_ne (h : ListItems blank sep stop item texts fold edge) {x : α}
    {text : List UInt8} (hx : texts x text) (rest : List UInt8) :
    ((text ++ rest).dropWhile blank).head? ≠ some stop := by
  obtain ⟨ws, c, tail, hws, hc, hne, rfl⟩ := h.opens x text hx
  rw [List.append_assoc, List.cons_append, dropWhile_byte hws hc]
  exact fun heq => hne (Option.some.inj heq)

/-- Neither does the text of a list with an item. -/
theorem ListItems.cons_head?_ne (h : ListItems blank sep stop item texts fold edge) {x : α}
    {xs : List α} {text : List UInt8} (hxs : CommaList blank sep stop texts (x :: xs) text)
    (rest : List UInt8) : ((text ++ rest).dropWhile blank).head? ≠ some stop := by
  cases hxs with
  | last hx _ =>
    rw [List.append_assoc]
    exact h.head?_ne hx _
  | more hx _ _ =>
    rw [List.append_assoc]
    exact h.head?_ne hx _

theorem ListItems.edge_of_blanks (h : ListItems blank sep stop item texts fold edge)
    {ws : List UInt8} {c : UInt8} (hws : Blanks blank ws) (hc : edge c) :
    ∀ b ∈ (ws ++ c :: rest).head?, edge b := by
  intro b hb
  rcases hws.head?_cases hb with hblank | rfl
  · exact h.edge_blank b hblank
  · exact hc

/-- An item in front of blanks and a byte that may follow it. -/
theorem ListItems.read (h : ListItems blank sep stop item texts fold edge) {x : α}
    {text ws : List UInt8} {c : UInt8} (hx : texts x text) (hfold : fold a x = some b)
    (hws : Blanks blank ws) (hc : edge c) :
    item a ((text ++ (ws ++ c :: rest)).dropWhile blank) = (.ok b, ws ++ c :: rest) :=
  (h.skips a _ _ _).mpr ((h.scans a _ _ _).mpr
    ⟨text, rfl, ⟨x, hx, hfold⟩, h.edge_of_blanks hws hc⟩)

/-- A round of the loop that goes on has taken an item off. -/
theorem ListItems.item_of_listStep (h : ListItems blank sep stop item texts fold edge)
    (hround : listStep blank sep stop item e (a, bytes) = .inl (b, rest)) :
    ∃ x text tail, bytes = text ++ tail ∧ texts x text ∧ fold a x = some b ∧
      (tail.dropWhile blank = sep :: rest ∨
        rest = tail.dropWhile blank ∧ rest.head? = some stop) := by
  unfold listStep at hround
  split at hround
  · next c u hround' =>
    cases hround
    rcases consume_cases blank stop bytes with ⟨v, hnext⟩ | hnext
    · rw [listRound_stop hnext] at hround'
      cases hround'
    · rw [listRound_item hnext, bind_eq_ok] at hround'
      obtain ⟨d, tail, hread, hbehind⟩ := hround'
      obtain ⟨rfl, hafter⟩ := behindItem_inl hbehind
      obtain ⟨text, hbytes, ⟨x, hx, hfold⟩, -⟩ :=
        (h.scans a _ _ _).mp ((h.skips a _ _ _).mp hread)
      exact ⟨x, text, tail, hbytes, hx, hfold, hafter⟩
  · cases hround
  · cases hround

/-- A round that ends the loop well has taken the closing byte off. -/
theorem stop_of_listStep (hround : listStep blank sep stop item e (a, bytes) = .inr (.ok b, rest)) :
    b = a ∧ bytes.dropWhile blank = stop :: rest := by
  unfold listStep at hround
  split at hround
  · cases hround
  · next c u hround' =>
    cases hround
    rcases consume_cases blank stop bytes with ⟨v, hnext⟩ | hnext
    · rw [listRound_stop hnext] at hround'
      cases hround'
      exact ⟨rfl, hnext⟩
    · rw [listRound_item hnext, bind_eq_ok] at hround'
      obtain ⟨d, tail, -, hbehind⟩ := hround'
      exact absurd hbehind behindItem_inr
  · cases hround

/-- What ends the loop is the text of a list. -/
theorem ListItems.texts_of_endsIn (h : ListItems blank sep stop item texts fold edge)
    (hsep : blank sep = false) (hstop : blank stop = false) {n : ℕ} {s : τ × List UInt8}
    {r : Except ε τ × List UInt8} (hrun : EndsIn (listStep blank sep stop item e) n s r) :
    ∀ b, r.1 = .ok b → ∃ xs front, s.2 = front ++ r.2 ∧ CommaList blank sep stop texts xs front ∧
      xs.foldlM fold s.1 = some b := by
  induction hrun with
  | @stop s r hround =>
    intro b hb
    have hround' : listStep blank sep stop item e (s.1, s.2) = .inr (.ok b, r.2) := by
      rw [hround, ← hb]
    obtain ⟨rfl, hnext⟩ := stop_of_listStep hround'
    obtain ⟨ws, hws, hbytes⟩ := (dropWhile_eq_cons hstop).mp hnext
    exact ⟨[], ws ++ [stop], by rw [hbytes]; simp, .close hws, rfl⟩
  | @next n s t r hround _ ih =>
    intro b hb
    obtain ⟨xs, back, hback, hxs, hfold⟩ := ih b hb
    obtain ⟨x, text, tail, hbytes, hx, hstep, hnext⟩ := h.item_of_listStep (a := s.1) hround
    have hfolded : (x :: xs).foldlM fold s.1 = some b := by
      rw [List.foldlM_cons, hstep]
      exact hfold
    rcases hnext with hnext | ⟨hnext, hhead⟩
    · obtain ⟨ws, hws, rfl⟩ := (dropWhile_eq_cons hsep).mp hnext
      exact ⟨x :: xs, text ++ (ws ++ sep :: back), by rw [hbytes, hback]; simp,
        .more hx hws hxs, hfolded⟩
    · -- the end of the list is next, so that there is no further item
      have hdrop : (back ++ r.2).dropWhile blank = back ++ r.2 := by
        rw [← hback, hnext, List.dropWhile_idempotent]
      cases xs with
      | cons y ys =>
        have hne := h.cons_head?_ne hxs r.2
        rw [hdrop, ← hback] at hne
        exact absurd hhead hne
      | nil =>
        cases hxs with
        | @close ws hws =>
          have hsplit := List.takeWhile_append_dropWhile (p := blank) (l := tail)
          rw [← hnext, hback] at hsplit
          have hws' := (blanks_takeWhile blank tail).append hws
          have hwhole : s.2 = text ++ (tail.takeWhile blank ++ (ws ++ [stop] ++ r.2)) := by
            rw [hsplit, hbytes]
          exact ⟨[x], text ++ ((tail.takeWhile blank ++ ws) ++ [stop]), by rw [hwhole]; simp,
            .last hx hws', hfolded⟩

/-- **The loop over a list takes off exactly its texts**, and folds the items. -/
theorem scans_listed (h : ListItems blank sep stop item texts fold edge) (hsep : blank sep = false)
    (hstop : blank stop = false) (hne : stop ≠ sep)
    (hitem : ∀ a bytes b rest, item a bytes = (.ok b, rest) → rest.length < bytes.length) (a : τ) :
    Scans (listed blank sep stop item e hitem a) (fun b text => ∃ xs,
      CommaList blank sep stop texts xs text ∧ xs.foldlM fold a = some b) fun _ => True := by
  intro bytes b rest
  constructor
  · intro hrun
    have hends : ∃ n, EndsIn (listStep blank sep stop item e) n (a, bytes)
        (listed blank sep stop item e hitem a bytes) := endsIn_loop _
    rw [hrun] at hends
    obtain ⟨n, hends⟩ := hends
    obtain ⟨xs, front, hbytes, hxs, hfold⟩ := h.texts_of_endsIn hsep hstop hends b rfl
    exact ⟨front, hbytes, ⟨xs, hxs, hfold⟩, fun _ _ => trivial⟩
  · intro hlist
    obtain ⟨front, rfl, ⟨xs, hxs, hfold⟩, -⟩ := hlist
    unfold listed
    induction hxs generalizing a with
    | @close ws hws =>
      cases hfold
      rw [List.append_assoc]
      exact loop_stop (listStep_stop (dropWhile_byte hws hstop))
    | @last x text ws hx hws =>
      rw [List.foldlM_cons, Option.bind_eq_bind, Option.bind_eq_some_iff] at hfold
      obtain ⟨c, hstep, hfold⟩ := hfold
      cases hfold
      rw [List.append_assoc, List.append_assoc, List.singleton_append,
        loop_next (listStep_item (h.head?_ne hx _) (h.read hx hstep hws h.edge_stop)
          (behindItem_stop hstop hne hws))]
      exact loop_stop (listStep_stop (dropWhile_first hstop))
    | @more x xs text ws back hx hws _ ih =>
      rw [List.foldlM_cons, Option.bind_eq_bind, Option.bind_eq_some_iff] at hfold
      obtain ⟨c, hstep, hfold⟩ := hfold
      rw [List.append_assoc, List.append_assoc, List.cons_append,
        loop_next (listStep_item (h.head?_ne hx _) (h.read hx hstep hws h.edge_sep)
          (behindItem_sep hsep hws))]
      exact ih c hfold

end Listed

end Scanner
