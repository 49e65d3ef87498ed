import Mathlib

/-!
# Networks of rounds, and functions that go through a list block by block

A round of a network mixes into the left half a word computed from the right one, steps its
schedule, and mixes into the right half a word computed from the new left one.  Whatever these words
are, the round can be undone when the mixing can.

* `unround_round`, `unrounds_rounds` — one round, and any number of them, are undone;
* `rounds_schedule` — where the schedule stands behind some rounds;
* `mapBlocks` — a function applied to each block of a list; `mapBlocks_mapBlocks` undoes it.
-/

namespace BlockCipher

/-! ### Networks -/

/-- What the rounds of a network are made of. -/
structure Network (α σ : Type*) where
  mix : α → α → α
  unmix : α → α → α
  unmix_mix : ∀ a b, unmix (mix a b) b = a
  leftWord : α → σ → α
  rightWord : α → σ → α
  next : σ → σ
  prev : σ → σ
  prev_next : ∀ s, prev (next s) = s

variable {α σ : Type*}

/-- One round on the two halves and the schedule. -/
def Network.round (n : Network α σ) : α × α × σ → α × α × σ
  | (left, right, schedule) =>
    let left := n.mix left (n.leftWord right schedule)
    let schedule := n.next schedule
    let right := n.mix right (n.rightWord left schedule)
    (left, right, schedule)

/-- The steps of a round undone, the last one first. -/
def Network.unround (n : Network α σ) : α × α × σ → α × α × σ
  | (left, right, schedule) =>
    let right := n.unmix right (n.rightWord left schedule)
    let schedule := n.prev schedule
    let left := n.unmix left (n.leftWord right schedule)
    (left, right, schedule)

theorem unround_round (n : Network α σ) : Function.LeftInverse n.unround n.round := by
  rintro ⟨left, right, schedule⟩
  simp only [Network.unround, Network.round, n.unmix_mix, n.prev_next]

theorem unrounds_rounds (n : Network α σ) (k : ℕ) :
    Function.LeftInverse n.unround^[k] n.round^[k] := (unround_round n).iterate k

theorem rounds_schedule (n : Network α σ) (k : ℕ) (state : α × α × σ) :
    (n.round^[k] state).2.2 = n.next^[k] state.2.2 := by
  induction k with
  | zero => rfl
  | succ k ih =>
    rw [Function.iterate_succ_apply', Function.iterate_succ_apply', ← ih]
    rfl

/-! ### Blocks -/

variable {β : Type*}

/-- Apply `f` to the first `count` blocks of `size` entries. -/
def mapBlocks (size : ℕ) (f : List β → List β) : ℕ → List β → List β
  | 0, xs => xs
  | count + 1, xs => f (xs.take size) ++ mapBlocks size f count (xs.drop size)

variable {size : ℕ} {f g : List β → List β}

theorem length_take_of_block {count : ℕ} {xs : List β} (h : (count + 1) * size ≤ xs.length) :
    (xs.take size).length = size := by
  rw [List.length_take]
  have hone : size ≤ (count + 1) * size := Nat.le_mul_of_pos_left size (Nat.succ_pos count)
  omega

theorem drop_of_block {count : ℕ} {xs : List β} (h : (count + 1) * size ≤ xs.length) :
    count * size ≤ (xs.drop size).length := by
  rw [List.length_drop]
  rw [Nat.succ_mul] at h
  omega

theorem length_mapBlocks (hf : ∀ block, block.length = size → (f block).length = size) {count : ℕ}
    {xs : List β} (h : count * size ≤ xs.length) :
    (mapBlocks size f count xs).length = xs.length := by
  induction count generalizing xs with
  | zero => rfl
  | succ count ih =>
    have hblock := length_take_of_block h
    rw [mapBlocks, List.length_append, hf _ hblock, ih (drop_of_block h), List.length_drop]
    rw [Nat.succ_mul] at h
    omega

/-- What is undone on each block is undone on the list. -/
theorem mapBlocks_mapBlocks (hf : ∀ block, block.length = size → (f block).length = size)
    (hg : ∀ block, block.length = size → g (f block) = block) {count : ℕ} {xs : List β}
    (h : count * size ≤ xs.length) :
    mapBlocks size g count (mapBlocks size f count xs) = xs := by
  induction count generalizing xs with
  | zero => rfl
  | succ count ih =>
    have hblock := length_take_of_block h
    have hlength := hf _ hblock
    rw [mapBlocks, mapBlocks, List.take_left' hlength, List.drop_left' hlength, hg _ hblock,
      ih (drop_of_block h), List.take_append_drop]

end BlockCipher
