import ForgottenEngine.Library.Procedure

/-!
# Teams of procedures

Several members work on one shared state, each on one procedure at a time, and their steps come in
any order.  All of them keep an invariant.  Besides, a member relies on the others to leave
something alone, and promises something of each of its own steps.

* `Obeys` — every step of a procedure keeps the invariant and the promise, whatever the others have
  done meanwhile that they may do; `Obeys.bind`, `Obeys.atomic_bind` and `Obeys.read_bind` are its
  rules;
* `TeamStep` — a member begins a procedure or takes its next step; `teamSteps_of_through` is a run in
  which only one member does anything;
* `promises_of_teamSteps` — **every step of a team keeps a promise**, when each promise is something
  that the other members may rely on.
-/

namespace Procedure

open Fallible

variable {ε σ α β : Type}

/-- Every step keeps the invariant and the promise.  Before each step the others may have changed
the state, as far as the procedure does not rely on them to leave it alone. -/
def Obeys (inv : σ → Prop) (rely promise : σ → σ → Prop) : Procedure ε σ α → σ → Prop
  | done _, _ => True
  | step write next, s => ∀ t, rely s t → inv t →
      inv (write t) ∧ promise t (write t) ∧ Obeys inv rely promise (next t) (write t)

variable {inv : σ → Prop} {rely promise : σ → σ → Prop}

/-- What the others may do can come before the first step as well. -/
theorem Obeys.of_rely (htrans : ∀ s t u, rely s t → rely t u → rely s u) {p : Procedure ε σ α}
    {s t : σ} (h : Obeys inv rely promise p s) (hst : rely s t) : Obeys inv rely promise p t := by
  cases p with
  | done result => trivial
  | step write next => exact fun u htu => h u (htrans s t u hst htu)

theorem Obeys.pure (a : α) (s : σ) : Obeys inv rely promise (Pure.pure a : Procedure ε σ α) s :=
  trivial

theorem Obeys.bind {p : Procedure ε σ α} {k : α → Procedure ε σ β} {s : σ}
    (hp : Obeys inv rely promise p s) (hk : ∀ a t, Obeys inv rely promise (k a) t) :
    Obeys inv rely promise (p >>= k) s := by
  induction p generalizing s with
  | done result =>
    cases result with
    | ok a => exact hk a s
    | error e => trivial
  | step write next ih =>
    intro t hst hinv
    obtain ⟨hkeep, hstep, hrest⟩ := hp t hst hinv
    exact ⟨hkeep, hstep, ih t hrest⟩

/-- One operation, and what follows it; an error ends the procedure. -/
theorem Obeys.atomic_bind {m : Fallible ε σ α} {k : α → Procedure ε σ β} {s : σ}
    (h : ∀ t, rely s t → inv t → inv (m t).2 ∧ promise t (m t).2 ∧
      ∀ a, (m t).1 = .ok a → Obeys inv rely promise (k a) (m t).2) :
    Obeys inv rely promise (Procedure.atomic m >>= k) s := by
  rw [Procedure.atomic_bind]
  intro t hst hinv
  obtain ⟨hkeep, hstep, hrest⟩ := h t hst hinv
  refine ⟨hkeep, hstep, ?_⟩
  beta_reduce
  cases hm : (m t).1 with
  | ok a => exact hrest a hm
  | error e => trivial

theorem Obeys.atomic {m : Fallible ε σ α} {s : σ}
    (h : ∀ t, rely s t → inv t → inv (m t).2 ∧ promise t (m t).2) :
    Obeys inv rely promise (Procedure.atomic m) s :=
  fun t hst hinv => ⟨(h t hst hinv).1, (h t hst hinv).2, trivial⟩

/-- Reading first, and going on with what has been read. -/
theorem Obeys.read_bind (hrefl : ∀ s, promise s s) {m : Fallible ε σ α} (hm : ReadOnly m)
    {k : α → Procedure ε σ β} {s : σ}
    (hk : ∀ a t, rely s t → m t = (.ok a, t) → Obeys inv rely promise (k a) t) :
    Obeys inv rely promise (Procedure.atomic m >>= k) s := by
  apply Obeys.atomic_bind
  intro t hst hinv
  rw [hm t]
  exact ⟨hinv, hrefl t, fun a ha => hk a t hst (Prod.ext ha (hm t))⟩

theorem Obeys.ite {c : Prop} [Decidable c] {p q : Procedure ε σ α} {s : σ}
    (hp : Obeys inv rely promise p s) (hq : Obeys inv rely promise q s) :
    Obeys inv rely promise (if c then p else q) s := by
  split
  · exact hp
  · exact hq

/-! ### Teams -/

/-- What each member has still to do, and the shared state. -/
abbrev Team (ι ε σ α : Type) := (ι → Procedure ε σ α) × σ

variable {ι : Type} [DecidableEq ι]

/-- One step of a team; `may i` are the procedures that member `i` may begin when it is done. -/
inductive TeamStep (may : ι → Procedure ε σ α → Prop) : Team ι ε σ α → Team ι ε σ α → Prop
  | begin {todo : ι → Procedure ε σ α} {s : σ} (i : ι) {p : Procedure ε σ α} :
      (todo i).isDone = true → may i p → TeamStep may (todo, s) (Function.update todo i p, s)
  | advance {todo : ι → Procedure ε σ α} {s : σ} (i : ι) {write : σ → σ}
      {next : σ → Procedure ε σ α} : todo i = step write next →
      TeamStep may (todo, s) (Function.update todo i (next s), write s)

/-- The states before the steps of a procedure that runs undisturbed. -/
def Through (kind : σ → Prop) : Procedure ε σ α → σ → Prop
  | done _, _ => True
  | step write next, s => kind s ∧ Through kind (next s) (write s)

/-- One member takes all its steps while the others do nothing. -/
theorem teamSteps_of_through {may : ι → Procedure ε σ α → Prop} {kind : σ → Prop} (i : ι)
    {p : Procedure ε σ α} {s : σ} (h : Through kind p s) (todo : ι → Procedure ε σ α) :
    Relation.ReflTransGen (fun c c' : Team ι ε σ α => TeamStep may c c' ∧ kind c.2)
      (Function.update todo i p, s) (Function.update todo i (done (p.run s).1), (p.run s).2) := by
  induction p generalizing s with
  | done result => exact .refl
  | step write next ih =>
    obtain ⟨hkind, hrest⟩ := h
    have hfirst : TeamStep may (Function.update todo i (step write next), s)
        (Function.update (Function.update todo i (step write next)) i (next s), write s) :=
      .advance i (Function.update_self i (step write next) todo)
    rw [Function.update_idem] at hfirst
    exact (Relation.ReflTransGen.single ⟨hfirst, hkind⟩).trans (ih s hrest)

/-- Each member relies on some relation and makes some promise that the others may rely on. -/
structure Compact (rely promise : ι → σ → σ → Prop) : Prop where
  refl : ∀ i s, rely i s s
  trans : ∀ i s t u, rely i s t → rely i t u → rely i s u
  fair : ∀ i j s t, i ≠ j → promise i s t → rely j s t

section Promises

variable {may : ι → Procedure ε σ α → Prop} {rely promise : ι → σ → σ → Prop}

/-- Members that obey, over a state with the invariant. -/
def Team.Obeys (inv : σ → Prop) (rely promise : ι → σ → σ → Prop) (c : Team ι ε σ α) : Prop :=
  inv c.2 ∧ ∀ i, Procedure.Obeys inv (rely i) (promise i) (c.1 i) c.2

omit [DecidableEq ι] in
/-- A team whose members have nothing to do. -/
theorem Team.obeys_of_idle {c : Team ι ε σ α} (hinv : inv c.2)
    (hidle : ∀ i, (c.1 i).isDone = true) : c.Obeys inv rely promise := by
  refine ⟨hinv, fun i => ?_⟩
  cases hi : c.1 i with
  | done result => trivial
  | step write next => exact absurd (hidle i) (by rw [hi]; exact Bool.false_ne_true)

variable {c c' : Team ι ε σ α}

/-- **One step of a team**: the state stays, or a member keeps its promise.  All go on obeying. -/
theorem promise_of_teamStep (hcompact : Compact rely promise)
    (hmay : ∀ i p, may i p → ∀ s, Procedure.Obeys inv (rely i) (promise i) p s)
    (hobeys : c.Obeys inv rely promise) (h : TeamStep may c c') :
    (c'.2 = c.2 ∨ ∃ i, promise i c.2 c'.2) ∧ c'.Obeys inv rely promise := by
  obtain ⟨hinv, hobeys⟩ := hobeys
  cases h with
  | @begin todo s i p hdone hp =>
    refine ⟨.inl rfl, hinv, fun j => ?_⟩
    show Procedure.Obeys _ _ _ (Function.update todo i p j) s
    by_cases hj : j = i
    · subst hj
      rw [Function.update_self]
      exact hmay j p hp s
    · rw [Function.update_of_ne hj]
      exact hobeys j
  | @advance todo s i write next hi =>
    have hown : Procedure.Obeys inv (rely i) (promise i) (todo i) s := hobeys i
    rw [hi] at hown
    obtain ⟨hkeep, hstep, hrest⟩ := hown s (hcompact.refl i s) hinv
    refine ⟨.inr ⟨i, hstep⟩, hkeep, fun j => ?_⟩
    show Procedure.Obeys _ _ _ (Function.update todo i (next s) j) (write s)
    by_cases hj : j = i
    · subst hj
      rw [Function.update_self]
      exact hrest
    · rw [Function.update_of_ne hj]
      have hothers : rely j s (write s) := hcompact.fair i j s (write s) (Ne.symm hj) hstep
      exact (hobeys j).of_rely (hcompact.trans j) hothers

/-- **Every step of a team keeps a promise**, along any run through states of some kind. -/
theorem promises_of_teamSteps (hcompact : Compact rely promise)
    (hmay : ∀ i p, may i p → ∀ s, Procedure.Obeys inv (rely i) (promise i) p s)
    (hobeys : c.Obeys inv rely promise) {kind : σ → Prop}
    (h : Relation.ReflTransGen (fun c c' => TeamStep may c c' ∧ kind c.2) c c') :
    Relation.ReflTransGen (fun s t => kind s ∧ ∃ i, promise i s t) c.2 c'.2 ∧
      c'.Obeys inv rely promise := by
  induction h with
  | refl => exact ⟨.refl, hobeys⟩
  | tail _ hstep ih =>
    obtain ⟨hstep, hkind⟩ := hstep
    obtain ⟨hpromises, hobeys⟩ := ih
    obtain ⟨hlast, hobeys⟩ := promise_of_teamStep hcompact hmay hobeys hstep
    refine ⟨?_, hobeys⟩
    rcases hlast with hsame | hpromise
    · rwa [hsame]
    · exact hpromises.tail ⟨hkind, hpromise⟩

end Promises

end Procedure
