import Mathlib

/-!
# Runs of a total step function under a condition on the steps

`step s i` is the state after event `i`; a refused event is a step that changes what it changes.
`Reaches step ok s` are the states of all runs from `s` in which every event meets `ok` at the
state it lands in.  With `ok` always true these are the reachable states.

* `Reaches.invariant` — what holds at the start and is kept by the steps that meet `ok` holds in
  every state reached;
* `Reaches.foldl` — a list of events that meet the condition is a run.
-/

variable {σ ι : Type*} {step : σ → ι → σ} {ok : σ → ι → Prop}

/-- The states reached from `s` by events that meet `ok`. -/
inductive Reaches (step : σ → ι → σ) (ok : σ → ι → Prop) (s : σ) : σ → Prop
  | start : Reaches step ok s s
  | next {t : σ} (i : ι) : Reaches step ok s t → ok t i → Reaches step ok s (step t i)

/-- **Invariants of conditional runs.** -/
theorem Reaches.invariant {P : σ → Prop} (hstep : ∀ s i, P s → ok s i → P (step s i))
    {s t : σ} (h : Reaches step ok s t) (hs : P s) : P t := by
  induction h with
  | start => exact hs
  | next i _ hi ih => exact hstep _ i ih hi

/-- Every event of the list meets `ok` in the state it lands in. -/
def Meets (step : σ → ι → σ) (ok : σ → ι → Prop) : σ → List ι → Prop
  | _, [] => True
  | s, i :: is => ok s i ∧ Meets step ok (step s i) is

instance decidableMeets [∀ s i, Decidable (ok s i)] : (s : σ) → (is : List ι) → Decidable (Meets step ok s is)
  | _, [] => inferInstanceAs (Decidable True)
  | s, i :: is => @instDecidableAnd _ _ _ (decidableMeets (step s i) is)

theorem meets_of_forall (hok : ∀ s i, ok s i) (s : σ) (is : List ι) : Meets step ok s is := by
  induction is generalizing s with
  | nil => trivial
  | cons i is ih => exact ⟨hok s i, ih _⟩

/-- A list of events, one after the other. -/
theorem Reaches.foldl {s t : σ} (h : Reaches step ok s t) {is : List ι} (his : Meets step ok t is) :
    Reaches step ok s (is.foldl step t) := by
  induction is generalizing t with
  | nil => exact h
  | cons i is ih => exact ih (.next i h his.1) his.2
