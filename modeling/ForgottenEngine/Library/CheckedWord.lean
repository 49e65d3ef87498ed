import Mathlib

/-!
# Machine words whose arithmetic may panic

Subtraction, addition and remainder of 64-bit words as a build that checks them runs them: `none`
is the panic.  Each has one lemma that says when it returns, and what.
-/

namespace CheckedWord

def checkedSub (a b : UInt64) : Option UInt64 := if b ≤ a then some (a - b) else none

def checkedAdd (a b : UInt64) : Option UInt64 :=
  if a.toNat + b.toNat < UInt64.size then some (a + b) else none

def checkedRem (a b : UInt64) : Option UInt64 := if b = 0 then none else some (a % b)

theorem checkedSub_of_le {a b : UInt64} (h : b.toNat ≤ a.toNat) :
    ∃ c, checkedSub a b = some c ∧ c.toNat = a.toNat - b.toNat := by
  have hle : b ≤ a := UInt64.le_iff_toNat_le.mpr h
  refine ⟨a - b, if_pos hle, ?_⟩
  exact UInt64.toNat_sub_of_le a b hle

theorem checkedAdd_of_lt {a b : UInt64} (h : a.toNat + b.toNat < UInt64.size) :
    ∃ c, checkedAdd a b = some c ∧ c.toNat = a.toNat + b.toNat := by
  refine ⟨a + b, if_pos h, ?_⟩
  rw [UInt64.toNat_add]
  exact Nat.mod_eq_of_lt h

/-- A remainder is below what it is taken by. -/
theorem checkedRem_of_pos {a b : UInt64} (h : 0 < b.toNat) :
    ∃ c, checkedRem a b = some c ∧ c.toNat < b.toNat := by
  have hne : b ≠ 0 := by
    intro hzero
    rw [hzero] at h
    exact absurd h (by decide)
  refine ⟨a % b, if_neg hne, ?_⟩
  rw [UInt64.toNat_mod]
  exact Nat.mod_lt _ h

end CheckedWord
