import Mathlib

/-!
# Climbing a ladder with an amount

A ladder has a price for every rung.  An amount buys one rung after the other, what is left stands
for the next one, and the top keeps nothing.

* `climb_reached`, `Reached.unique` — where a climb ends, and that it can end nowhere else;
* `climb_add` — two climbs, one after the other, are one climb with both amounts;
* `climb_mono` — more never ends lower.
-/

/-- Climb from a rung; `room` rungs are above it. -/
def climb (price : ℕ → ℕ) : (room rung amount : ℕ) → ℕ × ℕ
  | 0, rung, _ => (rung, 0)
  | room + 1, rung, amount =>
    if amount < price (rung + 1) then (rung, amount)
    else climb price room (rung + 1) (amount - price (rung + 1))

/-- What the rungs above `base` cost, up to `rung`. -/
def cost (price : ℕ → ℕ) (base rung : ℕ) : ℕ := ∑ i ∈ Finset.Ioc base rung, price i

section Ladder

variable {price : ℕ → ℕ} {room base rung amount : ℕ}

@[simp] theorem cost_self (price : ℕ → ℕ) (base : ℕ) : cost price base base = 0 := by
  simp [cost]

theorem cost_add {a b c : ℕ} (hab : a ≤ b) (hbc : b ≤ c) :
    cost price a b + cost price b c = cost price a c :=
  Finset.sum_Ioc_consecutive price hab hbc

theorem cost_succ (price : ℕ → ℕ) (rung : ℕ) : cost price rung (rung + 1) = price (rung + 1) := by
  simp [cost]

theorem cost_mono {a b c : ℕ} (hbc : b ≤ c) : cost price a b ≤ cost price a c :=
  Finset.sum_le_sum_of_subset (Finset.Ioc_subset_Ioc_right hbc)

/-- The amount ends at the rung, with a rest for the next one. -/
structure Reached (price : ℕ → ℕ) (room base amount : ℕ) (place : ℕ × ℕ) : Prop where
  above : base ≤ place.1
  below : place.1 ≤ base + room
  paid : place.1 < base + room → cost price base place.1 + place.2 = amount
  rest : place.1 < base + room → place.2 < price (place.1 + 1)
  top : place.1 = base + room → place.2 = 0 ∧ cost price base place.1 ≤ amount

/-- **Where a climb ends.** -/
theorem climb_reached (price : ℕ → ℕ) (room base amount : ℕ) :
    Reached price room base amount (climb price room base amount) := by
  induction room generalizing base amount with
  | zero => exact ⟨le_rfl, le_rfl, fun h => absurd h (lt_irrefl _), fun h => absurd h (lt_irrefl _),
      fun _ => ⟨rfl, by simp [climb]⟩⟩
  | succ room ih =>
    unfold climb
    split
    · next hstays =>
      refine ⟨le_rfl, by simp, fun _ => by simp, fun _ => hstays, fun htop => ?_⟩
      simp only at htop
      omega
    · next hpays =>
      have hnext := ih (base + 1) (amount - price (base + 1))
      generalize climb price room (base + 1) (amount - price (base + 1)) = place at hnext
      have hcost : cost price base place.1 = price (base + 1) + cost price (base + 1) place.1 := by
        rw [← cost_add (Nat.le_succ base) hnext.above, cost_succ]
      have habove := hnext.above
      have hbelow := hnext.below
      refine ⟨by omega, by omega, fun h => ?_, fun h => hnext.rest (by omega), fun h => ?_⟩
      · have hpaid := hnext.paid (by omega)
        omega
      · obtain ⟨hrest, hle⟩ := hnext.top (by omega)
        exact ⟨hrest, by omega⟩

/-- **It can end nowhere else.** -/
theorem Reached.unique {place place' : ℕ × ℕ} (h : Reached price room base amount place)
    (h' : Reached price room base amount place') : place = place' := by
  -- Who is lower has less than the next rung costs.
  have hnot : ∀ {p q : ℕ × ℕ}, Reached price room base amount p → Reached price room base amount q →
      ¬p.1 < q.1 := by
    intro p q hp hq hlt
    have hroom : p.1 < base + room := lt_of_lt_of_le hlt hq.below
    have hpaid := hp.paid hroom
    have hrest := hp.rest hroom
    have hcosts : cost price base p.1 + price (p.1 + 1) ≤ cost price base q.1 := by
      rw [← cost_succ price, cost_add hp.above (Nat.le_succ _)]
      exact cost_mono hlt
    have hq' : cost price base q.1 ≤ amount := by
      rcases lt_or_eq_of_le hq.below with hlower | htop
      · have := hq.paid hlower
        omega
      · exact (hq.top htop).2
    omega
  have hrung : place.1 = place'.1 := le_antisymm (not_lt.mp (hnot h' h)) (not_lt.mp (hnot h h'))
  refine Prod.ext hrung ?_
  rcases lt_or_eq_of_le h.below with hlower | htop
  · have hpaid := h.paid hlower
    have hpaid' := h'.paid (hrung ▸ hlower)
    rw [← hrung] at hpaid'
    omega
  · rw [(h.top htop).1, (h'.top (hrung ▸ htop)).1]

theorem climb_eq_iff {place : ℕ × ℕ} :
    climb price room base amount = place ↔ Reached price room base amount place := by
  constructor
  · rintro rfl
    exact climb_reached ..
  · exact (climb_reached ..).unique

/-- **Two climbs are one climb with both amounts.** -/
theorem climb_add (price : ℕ → ℕ) (room base amount more : ℕ) :
    climb price (base + room - (climb price room base amount).1) (climb price room base amount).1
        ((climb price room base amount).2 + more) =
      climb price room base (amount + more) := by
  have hfirst := climb_reached price room base amount
  generalize climb price room base amount = place at hfirst
  have hbelow := hfirst.below
  have hsecond := climb_reached price (base + room - place.1) place.1 (place.2 + more)
  generalize climb price (base + room - place.1) place.1 (place.2 + more) = place' at hsecond
  have hbelow' := hsecond.below
  have hcost : cost price base place.1 + _ = _ := cost_add hfirst.above hsecond.above
  symm
  rw [climb_eq_iff]
  refine ⟨hfirst.above.trans hsecond.above, by omega, fun h => ?_, fun h => ?_, fun h => ?_⟩
  · have habove := hsecond.above
    have hpaid := hfirst.paid (by omega)
    have hpaid' := hsecond.paid (by omega)
    omega
  · exact hsecond.rest (by omega)
  · obtain ⟨hrest, hle⟩ := hsecond.top (by omega)
    refine ⟨hrest, ?_⟩
    rcases lt_or_eq_of_le hbelow with hlower | htop
    · have hpaid := hfirst.paid hlower
      omega
    · obtain ⟨hnothing, hall⟩ := hfirst.top htop
      have hself : place'.1 = place.1 := by omega
      rw [hself]
      omega

/-- **More never ends lower.** -/
theorem climb_mono {more : ℕ} (h : amount ≤ more) :
    (climb price room base amount).1 ≤ (climb price room base more).1 ∧
      ((climb price room base more).1 = (climb price room base amount).1 →
        (climb price room base amount).2 ≤ (climb price room base more).2) := by
  have hall := climb_add price room base amount (more - amount)
  rw [show amount + (more - amount) = more by omega] at hall
  have hfirst := climb_reached price room base amount
  generalize climb price room base amount = place at hall hfirst
  have hsecond := climb_reached price (base + room - place.1) place.1 (place.2 + (more - amount))
  rw [hall] at hsecond
  generalize climb price room base more = place' at hsecond
  refine ⟨hsecond.above, fun hsame => ?_⟩
  have hbelow := hfirst.below
  rcases lt_or_eq_of_le hbelow with hlower | htop
  · have hpaid := hsecond.paid (by omega)
    rw [hsame, cost_self] at hpaid
    omega
  · rw [(hfirst.top htop).1]
    exact Nat.zero_le _

end Ladder
