import Mathlib

/-!
# What builds up over time

A counter counts time up to an interval, starts again and remembers how often it did; a level rises
up to a cap; a timer runs out.  Each of them only depends on how much time or how much amount it was
given in all, not on the pieces it was given in.

* `events`, `carried` — the intervals a counter completes, and what it carries on;
* `filled` — a level raised by an amount, never beyond the cap and never lowered by it;
* `active` — the part of a stretch of time a timer is still running;
* `events_add`, `carried_add`, `filled_add`, `active_add` — two pieces are as good as their sum.
-/

namespace Accrual

/-! ### Counters -/

/-- How often a counter with `carry` behind it completes its interval within `delta`. -/
def events (interval carry delta : ℕ) : ℕ := (carry + delta) / interval

/-- What the counter has behind it afterwards. -/
def carried (interval carry delta : ℕ) : ℕ := (carry + delta) % interval

theorem carried_le (interval carry delta : ℕ) : carried interval carry delta ≤ carry + delta :=
  Nat.mod_le _ _

/-- All the time a counter was given is in its events and in what it carries. -/
theorem events_carried (interval carry delta : ℕ) :
    interval * events interval carry delta + carried interval carry delta = carry + delta :=
  Nat.div_add_mod _ _

theorem carried_add (interval carry a b : ℕ) :
    carried interval (carried interval carry a) b = carried interval carry (a + b) := by
  rw [carried, carried, Nat.mod_add_mod, Nat.add_assoc]
  rfl

theorem events_add {interval : ℕ} (h : 0 < interval) (carry a b : ℕ) :
    events interval carry a + events interval (carried interval carry a) b =
      events interval carry (a + b) := by
  have hwhole := events_carried interval carry a
  have hsum : carry + (a + b) =
      carried interval carry a + b + interval * events interval carry a := by
    omega
  rw [events, events, events, hsum, Nat.add_mul_div_left _ _ h, Nat.add_comm]
  rfl

theorem events_zero {interval carry : ℕ} (h : carry < interval) : events interval carry 0 = 0 :=
  Nat.div_eq_of_lt h

theorem carried_zero {interval carry : ℕ} (h : carry < interval) :
    carried interval carry 0 = carry := Nat.mod_eq_of_lt h

/-! ### Levels under a cap -/

/-- The level after an amount was put on it, up to the cap. -/
def filled (cap level amount : ℕ) : ℕ := level + (min (level + amount) cap - level)

/-- The same, put as the part of the amount there is room for. -/
theorem add_min_room (cap level amount : ℕ) :
    level + min amount (cap - level) = filled cap level amount := by
  rw [filled]
  omega

theorem filled_zero (cap level : ℕ) : filled cap level 0 = level := by
  rw [filled]
  omega

theorem filled_of_le {cap level : ℕ} (h : level ≤ cap) (amount : ℕ) :
    filled cap level amount = min (level + amount) cap := by
  rw [filled]
  omega

theorem filled_of_ge {cap level : ℕ} (h : cap ≤ level) (amount : ℕ) :
    filled cap level amount = level := by
  rw [filled]
  omega

theorem filled_le {cap level : ℕ} (h : level ≤ cap) (amount : ℕ) :
    filled cap level amount ≤ cap := by
  rw [filled_of_le h]
  exact Nat.min_le_right _ _

theorem filled_add (cap level x y : ℕ) :
    filled cap (filled cap level x) y = filled cap level (x + y) := by
  rcases Nat.le_total level cap with h | h
  · rw [filled_of_le (filled_le h x), filled_of_le h, filled_of_le h]
    omega
  · rw [filled_of_ge h, filled_of_ge h, filled_of_ge h]

/-! ### Timers -/

/-- How long a timer with `remaining` left runs within `delta`. -/
def active (remaining delta : ℕ) : ℕ := min delta remaining

theorem active_add (remaining a b : ℕ) :
    active remaining a + active (remaining - active remaining a) b = active remaining (a + b) := by
  rw [active, active, active]
  omega

end Accrual
