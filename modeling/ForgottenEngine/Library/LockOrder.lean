import Mathlib

/-!
# Threads that take and give back locks

An operation is the list of its lock steps, in program order.  A thread is idle or some way into
an operation; which locks it holds follows from how far it is.  Threads interleave freely: any
idle thread may start an operation (when `ok` admits it), and any running thread may take its next
step, an `acquire` only while nobody holds the lock.

* `Deadlocked` — some threads wait, each for a lock that another one of them holds;
* `RankedFrom` — the operation takes every lock above all the locks it holds;
* `not_deadlocked_of_ranked` — with one ranking for all running operations there is no deadlock;
* `LockRun.running_invariant` — what a run says about the set of running operations.
-/

namespace LockOrder

/-- One step of an operation. -/
inductive LockStep (L : Type*) where
  | acquire (lock : L)
  | release (lock : L)
deriving DecidableEq, Repr

variable {T L Op : Type*} [DecidableEq T] [DecidableEq L]

/-- The locks held after some steps, from those held before. -/
def heldFrom (held : Finset L) : List (LockStep L) → Finset L
  | [] => held
  | .acquire lock :: steps => heldFrom (insert lock held) steps
  | .release lock :: steps => heldFrom (held.erase lock) steps

/-- Where every thread is: idle, or so many steps into an operation. -/
abbrev Threads (T Op : Type*) := T → Option (Op × ℕ)

variable (program : Op → List (LockStep L))

/-- The locks a thread holds. -/
def held (s : Threads T Op) (t : T) : Finset L :=
  match s t with
  | none => ∅
  | some (op, pc) => heldFrom ∅ ((program op).take pc)

/-- The next step of a thread. -/
def next (s : Threads T Op) (t : T) : Option (LockStep L) :=
  match s t with
  | none => none
  | some (op, pc) => (program op)[pc]?

/-- The threads at which an interleaving can arrive, when operations start under `ok`. -/
inductive LockRun (ok : Threads T Op → Op → Prop) : Threads T Op → Prop
  | idle : LockRun ok fun _ => none
  | start {s : Threads T Op} (t : T) (op : Op) : LockRun ok s → s t = none → ok s op →
      LockRun ok (Function.update s t (some (op, 0)))
  | acquire {s : Threads T Op} (t : T) (op : Op) (pc : ℕ) (lock : L) : LockRun ok s →
      s t = some (op, pc) → (program op)[pc]? = some (.acquire lock) →
      (∀ u, lock ∉ held program s u) → LockRun ok (Function.update s t (some (op, pc + 1)))
  | release {s : Threads T Op} (t : T) (op : Op) (pc : ℕ) (lock : L) : LockRun ok s →
      s t = some (op, pc) → (program op)[pc]? = some (.release lock) →
      LockRun ok (Function.update s t (some (op, pc + 1)))
  | finish {s : Threads T Op} (t : T) (op : Op) (pc : ℕ) : LockRun ok s → s t = some (op, pc) →
      (program op)[pc]? = none → LockRun ok (Function.update s t none)

/-- Some threads wait for each other. -/
def Deadlocked (s : Threads T Op) : Prop :=
  ∃ waiting : Set T, waiting.Nonempty ∧ ∀ t ∈ waiting, ∃ lock,
    next program s t = some (.acquire lock) ∧ ∃ u ∈ waiting, u ≠ t ∧ lock ∈ held program s u

/-! ### Rankings -/

/-- With `held` held, the steps take every lock above all that are held then. -/
def RankedFrom (rank : L → ℕ) : Finset L → List (LockStep L) → Prop
  | _, [] => True
  | held, .acquire lock :: steps =>
    (∀ l ∈ held, rank l < rank lock) ∧ RankedFrom rank (insert lock held) steps
  | held, .release lock :: steps => RankedFrom rank (held.erase lock) steps

instance decidableRankedFrom (rank : L → ℕ) :
    (held : Finset L) → (steps : List (LockStep L)) → Decidable (RankedFrom rank held steps)
  | _, [] => inferInstanceAs (Decidable True)
  | held, .acquire lock :: steps =>
    have := decidableRankedFrom rank (insert lock held) steps
    inferInstanceAs (Decidable ((∀ l ∈ held, rank l < rank lock) ∧ _))
  | held, .release lock :: steps => decidableRankedFrom rank (held.erase lock) steps

/-- What a ranking says about one step of the operation. -/
theorem RankedFrom.lt {rank : L → ℕ} {before : Finset L} {steps : List (LockStep L)}
    (h : RankedFrom rank before steps) {pc : ℕ} {lock : L}
    (hpc : steps[pc]? = some (.acquire lock)) :
    ∀ l ∈ heldFrom before (steps.take pc), rank l < rank lock := by
  induction steps generalizing before pc with
  | nil => simp at hpc
  | cons step steps ih =>
    cases pc with
    | zero =>
      cases hpc
      exact h.1
    | succ pc =>
      rw [List.getElem?_cons_succ] at hpc
      cases step with
      | acquire first => exact ih h.2 hpc
      | release first => exact ih h hpc

variable {program}

omit [DecidableEq T] in
/-- **One order for all**: while every running operation takes its locks in the order of one
ranking, no threads wait for each other. -/
theorem not_deadlocked_of_ranked [Fintype L] {s : Threads T Op} (rank : L → ℕ)
    (h : ∀ t op pc, s t = some (op, pc) → RankedFrom rank ∅ (program op)) :
    ¬Deadlocked program s := by
  rintro ⟨waiting, ⟨t, ht⟩, hwait⟩
  -- whoever waits waits for a lock below another one that is waited for
  have hclimb : ∀ t ∈ waiting, ∀ lock, next program s t = some (.acquire lock) →
      ∀ l ∈ held program s t, rank l < rank lock := by
    intro t _ lock hnext l hl
    cases hs : s t with
    | none => simp [next, hs] at hnext
    | some at_ =>
      obtain ⟨op, pc⟩ := at_
      simp only [next, hs] at hnext
      simp only [held, hs] at hl
      exact (h t op pc hs).lt hnext l hl
  have hnone : ∀ n, ∀ t ∈ waiting, ∀ lock, next program s t = some (.acquire lock) →
      Finset.univ.sup rank < rank lock + n → False := by
    intro n
    induction n with
    | zero =>
      intro t _ lock _ hlt
      have hle : rank lock ≤ Finset.univ.sup rank := Finset.le_sup (Finset.mem_univ lock)
      omega
    | succ n ih =>
      intro t ht lock hnext hlt
      obtain ⟨lock', hnext', u, hu, -, hheld⟩ := hwait t ht
      rw [hnext] at hnext'
      cases hnext'
      obtain ⟨above, habove, -⟩ := hwait u hu
      have hup := hclimb u hu above habove lock hheld
      exact ih u hu above habove (by omega)
  obtain ⟨lock, hnext, -⟩ := hwait t ht
  exact hnone (Finset.univ.sup rank + 1) t ht lock hnext (by omega)

/-! ### Runs -/

/-- The operations some thread is in. -/
def running (s : Threads T Op) : Set Op := {op | ∃ t pc, s t = some (op, pc)}

theorem running_update_subset (s : Threads T Op) (t : T) (x : Option (Op × ℕ)) :
    running (Function.update s t x) ⊆ {op | ∃ pc, x = some (op, pc)} ∪ running s := by
  rintro op ⟨u, pc, hu⟩
  by_cases hut : u = t
  · subst hut
    rw [Function.update_self] at hu
    exact Or.inl ⟨pc, hu⟩
  · rw [Function.update_of_ne hut] at hu
    exact Or.inr ⟨u, pc, hu⟩

/-- **What a run says about the running operations**: a property of sets of operations that passes
to subsets, and that starting an operation keeps. -/
theorem LockRun.running_invariant {ok : Threads T Op → Op → Prop} {P : Set Op → Prop}
    (hempty : P ∅) (hsubset : ∀ {R R' : Set Op}, R' ⊆ R → P R → P R')
    (hstart : ∀ {s : Threads T Op} {op : Op}, ok s op → P (running s) → P (insert op (running s)))
    {s : Threads T Op} (h : LockRun program ok s) : P (running s) := by
  induction h with
  | idle =>
    refine hsubset ?_ hempty
    rintro op ⟨t, pc, h⟩
    cases h
  | @start s t op _ _ hok ih =>
    refine hsubset ?_ (hstart hok ih)
    refine (running_update_subset s t _).trans ?_
    rintro op' (⟨pc, h⟩ | h)
    · cases h
      exact Set.mem_insert _ _
    · exact Set.mem_insert_of_mem _ h
  | @acquire s t op pc _ _ hs _ _ ih =>
    refine hsubset ?_ ih
    refine (running_update_subset s t _).trans ?_
    rintro op' (⟨pc', h⟩ | h)
    · cases h
      exact ⟨t, pc, hs⟩
    · exact h
  | @release s t op pc _ _ hs _ ih =>
    refine hsubset ?_ ih
    refine (running_update_subset s t _).trans ?_
    rintro op' (⟨pc', h⟩ | h)
    · cases h
      exact ⟨t, pc, hs⟩
    · exact h
  | @finish s t op pc _ _ _ ih =>
    refine hsubset ?_ ih
    refine (running_update_subset s t _).trans ?_
    rintro op' (⟨pc', h⟩ | h)
    · cases h
    · exact h

end LockOrder
