import Mathlib

/-!
# Loops that run round by round

A `while` loop is its round: from a state, the next state or the result of the loop.  `EndsIn` are
the finite runs, counted in rounds.

* `EndsIn.unique` — a loop has one result, after one number of rounds;
* `EndsIn.result` — what every round keeps, and the last one turns into a fact about the result;
* `exists_endsIn` — a loop ends when a measure falls in every round;
* `loop` — such a loop as a function; `endsIn_loop` runs it, `loop_next` and `loop_stop` step it;
* `EndsIn.map` — two loops whose rounds correspond end with the same result.
-/

namespace Rounds

variable {σ τ ρ : Type*} {round : σ → σ ⊕ ρ}

/-- From `s` the loop ends in its `n`th round, with `r`. -/
inductive EndsIn (round : σ → σ ⊕ ρ) : ℕ → σ → ρ → Prop
  | stop {s r} : round s = .inr r → EndsIn round 1 s r
  | next {n s t r} : round s = .inl t → EndsIn round n t r → EndsIn round (n + 1) s r

theorem EndsIn.unique {n n' : ℕ} {s : σ} {r r' : ρ} (h : EndsIn round n s r)
    (h' : EndsIn round n' s r') : n = n' ∧ r = r' := by
  induction h generalizing n' with
  | stop hstop =>
    cases h' with
    | stop hstop' => exact ⟨rfl, Sum.inr.inj (hstop.symm.trans hstop')⟩
    | next hnext' => rw [hstop] at hnext'; cases hnext'
  | next hnext _ ih =>
    cases h' with
    | stop hstop' => rw [hnext] at hstop'; cases hstop'
    | next hnext' hrest' =>
      cases Sum.inl.inj (hnext.symm.trans hnext')
      obtain ⟨rfl, rfl⟩ := ih hrest'
      exact ⟨rfl, rfl⟩

/-- **The result of a loop with an invariant.** -/
theorem EndsIn.result {I : σ → Prop} {Q : ρ → Prop}
    (hnext : ∀ s t, I s → round s = .inl t → I t) (hstop : ∀ s r, I s → round s = .inr r → Q r)
    {n : ℕ} {s : σ} {r : ρ} (h : EndsIn round n s r) (hs : I s) : Q r := by
  induction h with
  | stop hr => exact hstop _ _ hs hr
  | next ht _ ih => exact ih (hnext _ _ hs ht)

/-- **A loop ends** when every round makes a measure smaller. -/
theorem exists_endsIn {I : σ → Prop} {size : σ → ℕ}
    (hnext : ∀ s t, I s → round s = .inl t → I t ∧ size t < size s) {s : σ} (hs : I s) :
    ∃ n r, n ≤ size s + 1 ∧ EndsIn round n s r := by
  induction hsize : size s using Nat.strong_induction_on generalizing s with
  | _ k ih =>
    cases hround : round s with
    | inr r => exact ⟨1, r, by omega, .stop hround⟩
    | inl t =>
      obtain ⟨ht, hless⟩ := hnext s t hs hround
      obtain ⟨n, r, hn, hrun⟩ := ih (size t) (hsize ▸ hless) ht rfl
      exact ⟨n + 1, r, by omega, .next hround hrun⟩

/-- Loops whose rounds correspond. -/
theorem EndsIn.map {round' : τ → τ ⊕ ρ} {f : τ → σ} (hf : ∀ t, round (f t) = (round' t).map f id)
    {n : ℕ} {t : τ} {r : ρ} (h : EndsIn round n (f t) r) : EndsIn round' n t r := by
  generalize hs : f t = s at h
  induction h generalizing t with
  | stop hstop =>
    subst hs
    rw [hf] at hstop
    cases hround : round' t with
    | inl u => rw [hround] at hstop; cases hstop
    | inr r' =>
      rw [hround] at hstop
      cases hstop
      exact .stop hround
  | next hnext _ ih =>
    subst hs
    rw [hf] at hnext
    cases hround : round' t with
    | inr r' => rw [hround] at hnext; cases hnext
    | inl u =>
      rw [hround] at hnext
      exact .next hround (ih (Sum.inl.inj hnext))

/-! ### Loops as functions -/

variable {size : σ → ℕ}

/-- The result of a loop whose rounds make a measure smaller. -/
def loop (round : σ → σ ⊕ ρ) (size : σ → ℕ) (hless : ∀ s t, round s = .inl t → size t < size s)
    (s : σ) : ρ :=
  match _hround : round s with
  | .inl t => loop round size hless t
  | .inr r => r
termination_by size s
decreasing_by exact hless s t _hround

variable {hless : ∀ s t, round s = .inl t → size t < size s}

theorem loop_next {s t : σ} (h : round s = .inl t) :
    loop round size hless s = loop round size hless t := by
  rw [loop]
  split
  · rename_i u hu
    cases hu.symm.trans h
    rfl
  · rename_i r hr
    cases hr.symm.trans h

theorem loop_stop {s : σ} {r : ρ} (h : round s = .inr r) : loop round size hless s = r := by
  rw [loop]
  split
  · rename_i t ht
    cases ht.symm.trans h
  · rename_i r' hr
    cases hr.symm.trans h
    rfl

/-- The function is what the rounds end in. -/
theorem endsIn_loop (s : σ) : ∃ n, EndsIn round n s (loop round size hless s) := by
  induction hsize : size s using Nat.strong_induction_on generalizing s with
  | _ k ih =>
    cases hround : round s with
    | inr r =>
      rw [loop_stop hround]
      exact ⟨1, .stop hround⟩
    | inl t =>
      obtain ⟨n, hrun⟩ := ih (size t) (hsize ▸ hless s t hround) t rfl
      rw [loop_next hround]
      exact ⟨n + 1, .next hround hrun⟩

/-- Any number of rounds that do not end the loop. -/
def Passes (round : σ → σ ⊕ ρ) : σ → σ → Prop := Relation.ReflTransGen fun s t => round s = .inl t

theorem loop_passes {s t : σ} (h : Passes round s t) :
    loop round size hless s = loop round size hless t := by
  induction h with
  | refl => rfl
  | tail _ hnext ih => rw [ih, loop_next hnext]

end Rounds
