import Mathlib

/-!
# Writers whose output can be told apart from what follows it

A writer turns a value into a list of symbols, and records are written one field after the other.
`Unambiguous P write` says that for the values in `P` the output is recognised in front of any rest:
what was written and what follows it are both determined.

* `Unambiguous.injOn` — the outputs alone are different for different values;
* `of_length` — writers of one width;
* `seq` — two fields, `option` — a flag and a value, `list` — a length and the entries.
-/

/-- In front of any rest, the symbols written for a value in `P` determine the value and the rest. -/
def Unambiguous {α σ : Type*} (P : α → Prop) (write : α → List σ) : Prop :=
  ∀ ⦃a b : α⦄, P a → P b → ∀ ⦃r s : List σ⦄, write a ++ r = write b ++ s → a = b ∧ r = s

namespace Unambiguous

variable {α β σ : Type*} {P : α → Prop} {Q : β → Prop} {write : α → List σ} {writeOther : β → List σ}

theorem injOn (h : Unambiguous P write) : Set.InjOn write {a | P a} := by
  intro a ha b hb heq
  have hboth : write a ++ [] = write b ++ [] := by rw [heq]
  exact (h ha hb hboth).1

/-- Writers of one width only have to be injective. -/
theorem of_length (width : ℕ) (hlength : ∀ a, (write a).length = width)
    (hinjective : ∀ a b, P a → P b → write a = write b → a = b) : Unambiguous P write := by
  intro a b ha hb r s h
  have hsame : (write a).length = (write b).length := by rw [hlength, hlength]
  obtain ⟨hfront, hrest⟩ := List.append_inj h hsame
  exact ⟨hinjective a b ha hb hfront, hrest⟩

/-- Two fields, one after the other. -/
theorem seq (h : Unambiguous P write) (hother : Unambiguous Q writeOther) :
    Unambiguous (fun e : α × β => P e.1 ∧ Q e.2) fun e => write e.1 ++ writeOther e.2 := by
  intro a b ha hb r s heq
  rw [List.append_assoc, List.append_assoc] at heq
  obtain ⟨hfirst, hbehind⟩ := h ha.1 hb.1 heq
  obtain ⟨hsecond, hrest⟩ := hother ha.2 hb.2 hbehind
  exact ⟨Prod.ext hfirst hsecond, hrest⟩

/-- Entries one after the other, as many on both sides. -/
theorem flatMap (h : Unambiguous P write) {xs ys : List α} (hxs : ∀ a ∈ xs, P a)
    (hys : ∀ b ∈ ys, P b) (hlength : xs.length = ys.length) {r s : List σ}
    (heq : xs.flatMap write ++ r = ys.flatMap write ++ s) : xs = ys ∧ r = s := by
  induction xs generalizing ys with
  | nil =>
    have hnil : ys = [] := List.length_eq_zero_iff.mp hlength.symm
    subst hnil
    exact ⟨rfl, heq⟩
  | cons x xs ih =>
    cases ys with
    | nil => exact absurd hlength (Nat.succ_ne_zero _)
    | cons y ys =>
      rw [List.flatMap_cons, List.flatMap_cons, List.append_assoc, List.append_assoc] at heq
      obtain ⟨hhead, hbehind⟩ := h (hxs x List.mem_cons_self) (hys y List.mem_cons_self) heq
      obtain ⟨htail, hrest⟩ := ih (fun a ha => hxs a (List.mem_cons_of_mem x ha))
        (fun b hb => hys b (List.mem_cons_of_mem y hb)) (Nat.succ.inj hlength) hbehind
      exact ⟨by rw [hhead, htail], hrest⟩

variable {count : ℕ → List σ} {limit : ℕ}

/-- The number of entries, then the entries. -/
theorem list (hcount : Unambiguous (· ≤ limit) count) (h : Unambiguous P write) :
    Unambiguous (fun xs : List α => xs.length ≤ limit ∧ ∀ a ∈ xs, P a) fun xs =>
      count xs.length ++ xs.flatMap write := by
  intro xs ys hxs hys r s heq
  rw [List.append_assoc, List.append_assoc] at heq
  obtain ⟨hlength, hbehind⟩ := hcount hxs.1 hys.1 heq
  exact h.flatMap hxs.2 hys.2 hlength hbehind

/-- A flag that tells whether a value follows. -/
theorem option {flag : Bool → List σ} (hflag : Unambiguous (fun _ => True) flag)
    (h : Unambiguous P write) :
    Unambiguous (fun x : Option α => ∀ a ∈ x, P a) fun x => flag x.isSome ++ x.elim [] write := by
  intro x y hx hy r s heq
  rw [List.append_assoc, List.append_assoc] at heq
  obtain ⟨hsome, hbehind⟩ := hflag trivial trivial heq
  cases x with
  | none =>
    cases y with
    | none => exact ⟨rfl, hbehind⟩
    | some b => exact absurd hsome Bool.false_ne_true
  | some a =>
    cases y with
    | none => exact absurd hsome.symm Bool.false_ne_true
    | some b =>
      obtain ⟨hvalue, hrest⟩ := h (hx a rfl) (hy b rfl) hbehind
      exact ⟨congrArg some hvalue, hrest⟩

end Unambiguous
