import Mathlib

/-!
# Positional edits of a list of slots

A display shows a list of slots and takes three edits: `create` appends, `change` overwrites one
slot, and `delete` drops one slot and shifts the rest down.

* `sharedPrefix`, `sharedEnds` — the two loops that trim what two lists share at the front and at
  the back; `exists_trimmed` is all that is used of them;
* `applyAll_deletes`, `applyAll_creates`, `applyAll_changes` — what a block of edits of one sort
  does to a list that is split around the block;
* `InsertsInside` — one list is another with a block inserted before its end, which appending
  cannot reproduce; `Trimmed.insertsInside_iff` reads it off the trimmed middles.
-/

namespace PositionalDelta

variable {α : Type*}

/-- One edit of a list of slots. -/
inductive SlotEdit (α : Type*) where
  | create (a : α)
  | change (slot : ℕ) (a : α)
  | delete (slot : ℕ)
deriving DecidableEq, Repr

/-- What an edit does to the slots on display. -/
def SlotEdit.apply : SlotEdit α → List α → List α
  | .create a, slots => slots ++ [a]
  | .change slot a, slots => slots.set slot a
  | .delete slot, slots => slots.eraseIdx slot

/-- Edits in the order in which they arrive. -/
def applyAll (edits : List (SlotEdit α)) (slots : List α) : List α :=
  edits.foldl (fun slots edit => edit.apply slots) slots

@[simp] theorem applyAll_nil (slots : List α) : applyAll [] slots = slots := rfl

@[simp] theorem applyAll_cons (e : SlotEdit α) (es : List (SlotEdit α)) (slots : List α) :
    applyAll (e :: es) slots = applyAll es (e.apply slots) := rfl

/-! ### Blocks of edits -/

theorem applyAll_creates (xs slots : List α) : applyAll (xs.map .create) slots = slots ++ xs := by
  induction xs generalizing slots with
  | nil => simp
  | cons x xs ih =>
    rw [List.map_cons, applyAll_cons, ih]
    simp [SlotEdit.apply]

/-- Deleting a block from its last slot to its first leaves what stood around it. -/
theorem applyAll_deletes (pre mid suf : List α) :
    applyAll ((List.range' pre.length mid.length).reverse.map .delete) (pre ++ mid ++ suf) =
      pre ++ suf := by
  induction mid using List.reverseRecOn generalizing suf with
  | nil => simp
  | append_singleton mid a ih =>
    have hlast : (pre ++ (mid ++ [a]) ++ suf).eraseIdx (pre.length + mid.length) =
        pre ++ mid ++ suf := by
      have hsplit : pre ++ (mid ++ [a]) ++ suf = (pre ++ mid) ++ a :: suf := by simp
      rw [hsplit, ← List.length_append, List.eraseIdx_append_of_length_le (Nat.le_refl _)]
      simp
    have hrange : List.range' pre.length (mid ++ [a]).length =
        List.range' pre.length mid.length ++ [pre.length + mid.length] := by
      rw [List.length_append, List.length_singleton, List.range'_concat]
      simp
    rw [hrange, List.reverse_append, List.map_append, List.reverse_singleton, List.map_singleton,
      List.singleton_append, applyAll_cons, SlotEdit.apply, hlast]
    exact ih suf

/-- The targeted rewrites of one block by another of the same length, from slot `start` on. -/
def changes [DecidableEq α] : ℕ → List α → List α → List (SlotEdit α)
  | start, a :: as, b :: bs =>
    if a ≠ b then .change start b :: changes (start + 1) as bs else changes (start + 1) as bs
  | _, _, _ => []

theorem applyAll_changes [DecidableEq α] {mx my : List α} (hlen : mx.length = my.length)
    (pre suf : List α) :
    applyAll (changes pre.length mx my) (pre ++ mx ++ suf) = pre ++ my ++ suf := by
  induction mx generalizing my pre with
  | nil =>
    have hmy : my = [] := List.length_eq_zero_iff.mp hlen.symm
    subst hmy
    rfl
  | cons a as ih =>
    cases my with
    | nil => cases hlen
    | cons b bs =>
      have hlen' : as.length = bs.length := by simpa using hlen
      have hset : (pre ++ (a :: as) ++ suf).set pre.length b = (pre ++ [b]) ++ as ++ suf := by
        rw [List.append_assoc, List.set_append_right _ _ (Nat.le_refl _)]
        simp
      have hrest := ih hlen' (pre ++ [b])
      rw [List.length_append, List.length_singleton] at hrest
      by_cases hab : a = b
      · subst hab
        simp only [changes, ne_eq, not_true, if_false]
        simpa using hrest
      · simp only [changes, ne_eq, hab, not_false_eq_true, if_true, applyAll_cons]
        rw [SlotEdit.apply, hset, hrest]
        simp

/-! ### Trimming -/

/-- How many slots two lists share from the front. -/
def sharedPrefix [DecidableEq α] : List α → List α → ℕ
  | a :: as, b :: bs => if a = b then sharedPrefix as bs + 1 else 0
  | _, _ => 0

/-- Both ends move down while the last slots agree and lie beyond `start`. -/
def sharedEnds [DecidableEq α] (xs ys : List α) (start : ℕ) : ℕ → ℕ → ℕ × ℕ
  | i + 1, j + 1 =>
    if start < i + 1 ∧ start < j + 1 ∧ xs[i]? = ys[j]? then sharedEnds xs ys start i j
    else (i + 1, j + 1)
  | i, j => (i, j)

/-- Two lists cut into a shared front, two middles that differ at both ends, and a shared back. -/
structure Trimmed (xs ys pre mx my suf : List α) : Prop where
  left : xs = pre ++ mx ++ suf
  right : ys = pre ++ my ++ suf
  /-- The lists part after `pre`. -/
  front : ∀ a ∈ (mx ++ suf).head?, ∀ b ∈ (my ++ suf).head?, a ≠ b
  /-- The middles part before `suf`. -/
  back : ∀ a ∈ mx.getLast?, ∀ b ∈ my.getLast?, a ≠ b

theorem sharedPrefix_spec [DecidableEq α] (xs ys : List α) :
    ∃ pre xs' ys', xs = pre ++ xs' ∧ ys = pre ++ ys' ∧ sharedPrefix xs ys = pre.length ∧
      ∀ a ∈ xs'.head?, ∀ b ∈ ys'.head?, a ≠ b := by
  induction xs generalizing ys with
  | nil => exact ⟨[], [], ys, rfl, rfl, rfl, by simp⟩
  | cons x xs ih =>
    cases ys with
    | nil => exact ⟨[], x :: xs, [], rfl, rfl, rfl, by simp⟩
    | cons y ys =>
      by_cases hxy : x = y
      · subst hxy
        obtain ⟨pre, xs', ys', hx, hy, hlen, hfront⟩ := ih ys
        refine ⟨x :: pre, xs', ys', by rw [hx]; rfl, by rw [hy]; rfl, ?_, hfront⟩
        simp [sharedPrefix, hlen]
      · exact ⟨[], x :: xs, y :: ys, rfl, rfl, by simp [sharedPrefix, hxy], by simp [hxy]⟩

theorem sharedEnds_stop [DecidableEq α] {xs ys : List α} {start i j : ℕ}
    (h : ¬(start < i ∧ start < j ∧ xs[i - 1]? = ys[j - 1]?)) :
    sharedEnds xs ys start i j = (i, j) := by
  cases i with
  | zero => rfl
  | succ i =>
    cases j with
    | zero => rfl
    | succ j =>
      rw [sharedEnds, if_neg]
      simpa using h

/-- The second loop, started with a shared front `pre` and any shared back `suf`. -/
theorem sharedEnds_spec [DecidableEq α] (pre as bs suf : List α) :
    ∃ mx my suf', as ++ suf = mx ++ suf' ∧ bs ++ suf = my ++ suf' ∧
      sharedEnds (pre ++ as ++ suf) (pre ++ bs ++ suf) pre.length (pre.length + as.length)
        (pre.length + bs.length) = (pre.length + mx.length, pre.length + my.length) ∧
      ∀ a ∈ mx.getLast?, ∀ b ∈ my.getLast?, a ≠ b := by
  induction as using List.reverseRecOn generalizing bs suf with
  | nil => exact ⟨[], bs, suf, rfl, rfl, sharedEnds_stop (by simp), by simp⟩
  | append_singleton as a ih =>
    induction bs using List.reverseRecOn with
    | nil => exact ⟨as ++ [a], [], suf, rfl, rfl, sharedEnds_stop (by simp), by simp⟩
    | append_singleton bs b _ =>
      have hx : (pre ++ (as ++ [a]) ++ suf)[pre.length + as.length]? = some a := by
        rw [← List.append_assoc pre, ← List.length_append, List.append_assoc (pre ++ as)]
        simp
      have hy : (pre ++ (bs ++ [b]) ++ suf)[pre.length + bs.length]? = some b := by
        rw [← List.append_assoc pre, ← List.length_append, List.append_assoc (pre ++ bs)]
        simp
      by_cases hab : a = b
      · subst hab
        -- the shared slot moves over to the back
        obtain ⟨mx, my, suf', hmx, hmy, hends, hback⟩ := ih bs (a :: suf)
        refine ⟨mx, my, suf', by simpa using hmx, by simpa using hmy, ?_, hback⟩
        have hi : pre.length + (as ++ [a]).length = pre.length + as.length + 1 := by
          rw [List.length_append, List.length_singleton, Nat.add_assoc]
        have hj : pre.length + (bs ++ [a]).length = pre.length + bs.length + 1 := by
          rw [List.length_append, List.length_singleton, Nat.add_assoc]
        rw [hi, hj, sharedEnds, if_pos ⟨by omega, by omega, by rw [hx, hy]⟩]
        simpa using hends
      · refine ⟨as ++ [a], bs ++ [b], suf, rfl, rfl, sharedEnds_stop ?_, by simpa using hab⟩
        rintro ⟨-, -, heq⟩
        have hi : pre.length + (as ++ [a]).length - 1 = pre.length + as.length := by simp
        have hj : pre.length + (bs ++ [b]).length - 1 = pre.length + bs.length := by simp
        rw [hi, hj, hx, hy] at heq
        exact hab (by simpa using heq)

/-- **What the two loops compute**: where the front ends, and where the two middles end. -/
theorem exists_trimmed [DecidableEq α] (xs ys : List α) :
    ∃ pre mx my suf, Trimmed xs ys pre mx my suf ∧ sharedPrefix xs ys = pre.length ∧
      sharedEnds xs ys (sharedPrefix xs ys) xs.length ys.length =
        (pre.length + mx.length, pre.length + my.length) := by
  obtain ⟨pre, xs', ys', hx, hy, hlen, hfront⟩ := sharedPrefix_spec xs ys
  obtain ⟨mx, my, suf, hmx, hmy, hends, hback⟩ := sharedEnds_spec pre xs' ys' []
  rw [List.append_nil] at hmx hmy
  refine ⟨pre, mx, my, suf, ⟨by rw [hx, hmx, List.append_assoc], by rw [hy, hmy, List.append_assoc],
    by rwa [← hmx, ← hmy], hback⟩, hlen, ?_⟩
  rw [hlen, hx, hy, List.length_append, List.length_append]
  simpa using hends

/-! ### Insertions before the end -/

/-- `ys` is `xs` with a block inserted, and the block is not at the end. -/
def InsertsInside (xs ys : List α) : Prop :=
  ∃ pre ins suf, xs = pre ++ suf ∧ ys = pre ++ ins ++ suf ∧ ¬xs <+: ys

section Trimmed

variable {xs ys pre mx my suf : List α} (h : Trimmed xs ys pre mx my suf)
include h

/-- A common front of the two lists ends with the trimmed one, unless one list is a front of the
other. -/
theorem Trimmed.front_maximal (hmx : mx ≠ []) (hmy : my ≠ []) {p xs' ys' : List α}
    (hx : xs = p ++ xs') (hy : ys = p ++ ys') : p.length ≤ pre.length := by
  by_contra hlt
  rw [not_le] at hlt
  obtain ⟨a, as, rfl⟩ := List.exists_cons_of_ne_nil hmx
  obtain ⟨b, bs, rfl⟩ := List.exists_cons_of_ne_nil hmy
  have ha : xs[pre.length]? = some a := by rw [h.left]; simp
  have hb : ys[pre.length]? = some b := by rw [h.right]; simp
  rw [hx, List.getElem?_append_left hlt] at ha
  rw [hy, List.getElem?_append_left hlt, ha] at hb
  exact h.front a rfl b rfl (by simpa using hb)

theorem Trimmed.back_maximal (hmx : mx ≠ []) (hmy : my ≠ []) {s xs' ys' : List α}
    (hx : xs = xs' ++ s) (hy : ys = ys' ++ s) : s.length ≤ suf.length := by
  by_contra hlt
  rw [not_le] at hlt
  obtain ⟨as, a, rfl⟩ := (List.eq_nil_or_concat' mx).resolve_left hmx
  obtain ⟨bs, b, rfl⟩ := (List.eq_nil_or_concat' my).resolve_left hmy
  have ha : xs.reverse[suf.length]? = some a := by rw [h.left]; simp
  have hb : ys.reverse[suf.length]? = some b := by rw [h.right]; simp
  rw [hx, List.reverse_append, List.getElem?_append_left (by simpa using hlt)] at ha
  rw [hy, List.reverse_append, List.getElem?_append_left (by simpa using hlt), ha] at hb
  exact h.back a (by simp) b (by simp) (by simpa using hb)

/-- An insertion leaves nothing of the shorter list between the shared ends. -/
theorem Trimmed.middle_eq_nil {p ins s : List α} (hx : xs = p ++ s) (hy : ys = p ++ ins ++ s) :
    mx = [] := by
  have hlenx : (pre ++ mx ++ suf).length = (p ++ s).length := by rw [← h.left, hx]
  have hleny : (pre ++ my ++ suf).length = (p ++ ins ++ s).length := by rw [← h.right, hy]
  simp only [List.length_append] at hlenx hleny
  by_contra hmx
  have hpos : 0 < mx.length := List.length_pos_iff.mpr hmx
  have hmy : my ≠ [] := by
    intro hmy
    subst hmy
    simp at hleny
    omega
  have hfront := h.front_maximal hmx hmy hx (by rw [hy, List.append_assoc])
  have hback := h.back_maximal hmx hmy hx hy
  omega

/-- With nothing of the first list left between the ends, the second list is an append exactly
when no shared back is kept. -/
theorem Trimmed.isPrefix_iff (hmx : mx = []) (hmy : my ≠ []) : xs <+: ys ↔ suf = [] := by
  subst hmx
  constructor
  · intro hprefix
    obtain ⟨rest, hrest⟩ := hprefix
    obtain ⟨b, bs, rfl⟩ := List.exists_cons_of_ne_nil hmy
    cases suf with
    | nil => rfl
    | cons a suf =>
      have ha : xs[pre.length]? = some a := by rw [h.left]; simp
      have hb : ys[pre.length]? = some b := by rw [h.right]; simp
      have hlt : pre.length < xs.length := by rw [h.left]; simp
      rw [← hrest, List.getElem?_append_left hlt, ha] at hb
      exact absurd (by simpa using hb) (h.front a rfl b rfl)
  · rintro rfl
    rw [h.left, h.right]
    simp

/-- The lists differ by an insertion before the end exactly when the trimmed middle of the first is
empty, that of the second is not, and a shared back is kept. -/
theorem Trimmed.insertsInside_iff :
    InsertsInside xs ys ↔ mx = [] ∧ my ≠ [] ∧ suf ≠ [] := by
  constructor
  · rintro ⟨p, ins, s, hx, hy, hnot⟩
    have hmx := h.middle_eq_nil hx hy
    have hmy : my ≠ [] := by
      rintro rfl
      exact hnot (by rw [h.left, h.right, hmx])
    exact ⟨hmx, hmy, fun hsuf => hnot ((h.isPrefix_iff hmx hmy).mpr hsuf)⟩
  · rintro ⟨rfl, hmy, hsuf⟩
    refine ⟨pre, my, suf, by rw [h.left, List.append_nil], h.right, ?_⟩
    rw [h.isPrefix_iff rfl hmy]
    exact hsuf

/-- Appending the block instead of inserting it gives another list. -/
theorem Trimmed.append_eq_iff (hmx : mx = []) (hmy : my ≠ []) : xs ++ my = ys ↔ suf = [] := by
  constructor
  · intro heq
    exact (h.isPrefix_iff hmx hmy).mp ⟨my, heq⟩
  · rintro rfl
    rw [h.left, h.right, hmx]
    simp

end Trimmed

end PositionalDelta
