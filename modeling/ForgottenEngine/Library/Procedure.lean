import ForgottenEngine.Library.Fallible

/-!
# Procedures of atomic steps

A procedure whose state is shared does not run as a whole.  It takes one atomic step after the
other, and in between others take theirs.  What it reads in one step may no longer be there in the
next.

* `Procedure` — a procedure by its steps; `atomic` makes one step of a fallible operation;
* `run` — its meaning when nobody interferes; `run_bind` takes it apart.
-/

/-- A procedure: its outcome, or one atomic step and what is left to do, which depends on the state
the step has found. -/
inductive Procedure (ε σ α : Type) where
  | done (result : Except ε α)
  | step (write : σ → σ) (next : σ → Procedure ε σ α)

namespace Procedure

open Fallible

variable {ε σ α β : Type}

protected def bind (p : Procedure ε σ α) (k : α → Procedure ε σ β) : Procedure ε σ β :=
  match p with
  | done (.ok a) => k a
  | done (.error e) => done (.error e)
  | step write next => step write fun s => (next s).bind k

instance : Monad (Procedure ε σ) where
  pure a := done (.ok a)
  bind := Procedure.bind

/-- One step. -/
def atomic (m : Fallible ε σ α) : Procedure ε σ α := step (fun s => (m s).2) fun s => done (m s).1

def fail (e : ε) : Procedure ε σ α := done (.error e)

/-- A computation without a step. -/
def ofExcept (x : Except ε α) : Procedure ε σ α := done x

def isDone : Procedure ε σ α → Bool
  | done _ => true
  | step .. => false

/-! ### Without interference -/

/-- All steps in a row. -/
def run : Procedure ε σ α → Fallible ε σ α
  | done result => fun s => (result, s)
  | step write next => fun s => (next s).run (write s)

@[simp] theorem run_pure (a : α) : (pure a : Procedure ε σ α).run = pure a := rfl

@[simp] theorem run_fail (e : ε) : (fail e : Procedure ε σ α).run = Fallible.fail e := rfl

@[simp] theorem run_ofExcept (x : Except ε α) :
    (ofExcept x : Procedure ε σ α).run = Fallible.ofExcept x := rfl

@[simp] theorem run_atomic (m : Fallible ε σ α) : (atomic m).run = m := rfl

@[simp] theorem run_bind (p : Procedure ε σ α) (k : α → Procedure ε σ β) :
    (p >>= k).run = p.run >>= fun a => (k a).run := by
  induction p with
  | done result =>
    cases result with
    | ok a => rfl
    | error e => rfl
  | step write next ih =>
    funext s
    show ((next s).bind k).run (write s) = _
    have hnext := congrFun (ih s) (write s)
    exact hnext

/-- A step in front: it is taken, and an error ends the procedure. -/
theorem atomic_bind (m : Fallible ε σ α) (k : α → Procedure ε σ β) :
    atomic m >>= k = step (fun s => (m s).2) fun s =>
      match (m s).1 with
      | .ok a => k a
      | .error e => done (.error e) := by
  show step _ _ = step _ _
  congr 1
  funext s
  show (done (m s).1).bind k = _
  cases (m s).1 <;> rfl

end Procedure
