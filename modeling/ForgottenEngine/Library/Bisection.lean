import Mathlib

/-!
# Bisection for the greatest number with a property

A property that holds below whatever it holds at is searched between two bounds, the lower of which
has it.  A round looks at the upper middle and keeps one half.

* `halve_iterate_bounds` — the bounds stay in order and inside the first ones;
* `halve_iterate_closed` — rounds for the width are enough: the bounds meet;
* `halve_iterate_isGreatest` — and they meet at the greatest number with the property.
-/

/-- One round of the search. -/
def halve (P : ℕ → Bool) (bounds : ℕ × ℕ) : ℕ × ℕ :=
  if bounds.1 < bounds.2 then
    let midpoint := bounds.1 + (bounds.2 - bounds.1 + 1) / 2
    if P midpoint then (midpoint, bounds.2) else (bounds.1, midpoint - 1)
  else bounds

section Halve

variable {P : ℕ → Bool} {bounds : ℕ × ℕ}

/-- A round keeps the bounds in order and inside. -/
theorem halve_bounds (h : bounds.1 ≤ bounds.2) :
    bounds.1 ≤ (halve P bounds).1 ∧ (halve P bounds).1 ≤ (halve P bounds).2 ∧
      (halve P bounds).2 ≤ bounds.2 := by
  unfold halve
  split
  · next hopen =>
    simp only
    split
    · exact ⟨by omega, by omega, le_rfl⟩
    · exact ⟨le_rfl, by omega, by omega⟩
  · exact ⟨le_rfl, h, le_rfl⟩

/-- A round halves the width. -/
theorem halve_width {k : ℕ} (h : bounds.2 - bounds.1 < 2 ^ (k + 1)) :
    (halve P bounds).2 - (halve P bounds).1 < 2 ^ k := by
  have hpos : 0 < 2 ^ k := by positivity
  rw [pow_succ] at h
  unfold halve
  split
  · next hopen =>
    simp only
    split
    · show bounds.2 - (bounds.1 + (bounds.2 - bounds.1 + 1) / 2) < 2 ^ k
      omega
    · show bounds.1 + (bounds.2 - bounds.1 + 1) / 2 - 1 - bounds.1 < 2 ^ k
      omega
  · next hclosed =>
    show bounds.2 - bounds.1 < 2 ^ k
    omega

/-- The lower bound has the property, and nothing above the upper one has it. -/
def Brackets (P : ℕ → Bool) (bounds : ℕ × ℕ) : Prop :=
  P bounds.1 = true ∧ ∀ n, bounds.2 < n → P n = false

theorem Brackets.halved (hdown : ∀ m n, bounds.1 ≤ m → m ≤ n → P n = true → P m = true)
    (h : Brackets P bounds) : Brackets P (halve P bounds) := by
  unfold halve
  split
  · next hopen =>
    simp only
    split
    · next hmid => exact ⟨hmid, h.2⟩
    · next hmid =>
      refine ⟨h.1, fun n hn => ?_⟩
      by_contra hP
      have hP : P n = true := by simpa using hP
      have hbelow : bounds.1 + (bounds.2 - bounds.1 + 1) / 2 - 1 < n := hn
      exact hmid (hdown _ n (by omega) (by omega) hP)
  · exact h

/-- **The bounds stay in order and inside the first ones.** -/
theorem halve_iterate_bounds (h : bounds.1 ≤ bounds.2) (k : ℕ) :
    bounds.1 ≤ ((halve P)^[k] bounds).1 ∧
      ((halve P)^[k] bounds).1 ≤ ((halve P)^[k] bounds).2 ∧
      ((halve P)^[k] bounds).2 ≤ bounds.2 := by
  induction k generalizing bounds with
  | zero => exact ⟨le_rfl, h, le_rfl⟩
  | succ k ih =>
    obtain ⟨hlow, horder, hhigh⟩ := halve_bounds (P := P) h
    obtain ⟨hlow', horder', hhigh'⟩ := ih horder
    rw [Function.iterate_succ_apply]
    exact ⟨hlow.trans hlow', horder', hhigh'.trans hhigh⟩

/-- **The bounds meet.** -/
theorem halve_iterate_closed (h : bounds.1 ≤ bounds.2) {k : ℕ}
    (hwidth : bounds.2 - bounds.1 < 2 ^ k) :
    ((halve P)^[k] bounds).1 = ((halve P)^[k] bounds).2 := by
  induction k generalizing bounds with
  | zero =>
    show bounds.1 = bounds.2
    omega
  | succ k ih =>
    rw [Function.iterate_succ_apply]
    exact ih (halve_bounds h).2.1 (halve_width hwidth)

theorem Brackets.iterate (hdown : ∀ m n, bounds.1 ≤ m → m ≤ n → P n = true → P m = true)
    (horder : bounds.1 ≤ bounds.2) (h : Brackets P bounds) (k : ℕ) :
    Brackets P ((halve P)^[k] bounds) := by
  induction k generalizing bounds with
  | zero => exact h
  | succ k ih =>
    obtain ⟨hlow, horder', -⟩ := halve_bounds (P := P) horder
    rw [Function.iterate_succ_apply]
    exact ih (fun m n hm => hdown m n (hlow.trans hm)) horder' (h.halved hdown)

/-- **They meet at the greatest number with the property.** -/
theorem halve_iterate_isGreatest (hdown : ∀ m n, bounds.1 ≤ m → m ≤ n → P n = true → P m = true)
    (horder : bounds.1 ≤ bounds.2) (h : Brackets P bounds) {k : ℕ}
    (hwidth : bounds.2 - bounds.1 < 2 ^ k) :
    IsGreatest {n | P n = true} ((halve P)^[k] bounds).1 := by
  obtain ⟨hlow, hhigh⟩ := h.iterate hdown horder k
  rw [← halve_iterate_closed horder hwidth] at hhigh
  refine ⟨hlow, fun n hn => ?_⟩
  by_contra habove
  have hnot := hhigh n (by omega)
  rw [show P n = true from hn] at hnot
  cases hnot

end Halve
