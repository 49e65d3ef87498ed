import ForgottenEngine.Library.OrderedMap

/-!
# Tiles of the world

A tile is three coordinates.  Tiles are ordered by `x`, then `y`, then `z`, as the derived order
of the source is: the map tables are kept, hashed and replayed in this order.
-/

namespace ForgottenEngine

structure Position where
  x : ℕ
  y : ℕ
  z : ℕ
deriving DecidableEq, Repr, Inhabited

inductive CardinalDirection where
  | north | east | south | west
deriving DecidableEq, Repr

namespace Position

/-- By `x`, then by `y`, then by `z`. -/
instance : Ord Position where
  compare := compareLex (compareOn Position.x) (compareLex (compareOn Position.y)
    (compareOn Position.z))

instance : Std.TransOrd Position :=
  inferInstanceAs (Std.TransCmp (compareLex (compareOn Position.x)
    (compareLex (compareOn Position.y) (compareOn Position.z))))

instance : Std.LawfulEqOrd Position where
  eq_of_compare {a b} h := by
    obtain ⟨x, y, z⟩ := a
    obtain ⟨x', y', z'⟩ := b
    have hparts : compare x x' = .eq ∧ compare y y' = .eq ∧ compare z z' = .eq := by
      change compareLex _ _ _ _ = .eq at h
      simpa only [compareLex_eq_eq, compareOn] using h
    rw [Nat.compare_eq_eq.mp hparts.1, Nat.compare_eq_eq.mp hparts.2.1,
      Nat.compare_eq_eq.mp hparts.2.2]

/-- The distance of two coordinates. -/
def absDiff (a b : ℕ) : ℕ := (a - b) + (b - a)

/-- One of the eight tiles around `other`, on the same floor. -/
def isAdjacentTo (self other : Position) : Bool :=
  self.z = other.z ∧ absDiff self.x other.x ≤ 1 ∧ absDiff self.y other.y ≤ 1 ∧ self ≠ other

end Position

end ForgottenEngine
