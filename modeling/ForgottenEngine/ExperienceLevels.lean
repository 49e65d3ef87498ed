import ForgottenEngine.Library.Bisection
import ForgottenEngine.Progression

/-!
# The level of an amount of experience

The requirement of a level is a cubic, computed in 128 signed bits with every operation checked, and
the level of an amount is searched between 1 and the greatest level of 32 bits.

* `checkedExperienceForLevel_eq` — no operation of the cubic overflows;
* `levelForExperience_isGreatest` — **the search ends at the greatest level whose requirement is
  met**, for every amount.
-/

namespace ForgottenEngine

/-! ### The cubic -/

/-- A value of 128 signed bits. -/
def i128 (x : ℤ) : Option ℤ := if -2 ^ 127 ≤ x ∧ x < 2 ^ 127 then some x else none

/-- The requirement with every operation checked, as the source writes it. -/
def checkedExperienceForLevel (level : ℕ) : Option ℕ :=
  if level = 0 then none
  else do
    let level : ℤ := level
    let square ← i128 (level * level)
    let cube ← i128 (square * level)
    let sixfold ← i128 (6 * level)
    let sixSquares ← i128 (sixfold * level)
    let difference ← i128 (cube - sixSquares)
    let seventeenfold ← i128 (17 * level)
    let sum ← i128 (difference + seventeenfold)
    let numerator ← i128 (sum - 12)
    let quotient ← i128 (numerator.tdiv 6)
    let experience ← i128 (quotient * 100)
    if 0 ≤ experience ∧ experience ≤ u64Max then some experience.toNat else none

/-- The numerator of the requirement. -/
def levelNumerator (level : ℕ) : ℤ :=
  (level : ℤ) * level * level - 6 * level * level + 17 * level - 12

theorem levelNumerator_succ (level : ℕ) :
    levelNumerator (level + 1) - levelNumerator level =
      3 * (level : ℤ) * level - 9 * level + 12 := by
  unfold levelNumerator
  push_cast
  ring

theorem levelNumerator_mono : Monotone levelNumerator := by
  refine monotone_nat_of_le_succ fun level => ?_
  have hsucc := levelNumerator_succ level
  nlinarith [sq_nonneg (2 * (level : ℤ) - 3)]

theorem levelNumerator_nonneg {level : ℕ} (h : 1 ≤ level) : 0 ≤ levelNumerator level :=
  levelNumerator_mono h

theorem classicExperienceForLevel_eq {level : ℕ} (h : 1 ≤ level) :
    classicExperienceForLevel level =
      if (levelNumerator level / 6 * 100).toNat ≤ u64Max then
        some (levelNumerator level / 6 * 100).toNat else none := by
  have hnonneg := levelNumerator_nonneg h
  have hdiv : 0 ≤ levelNumerator level / 6 := Int.ediv_nonneg hnonneg (by norm_num)
  unfold classicExperienceForLevel
  rw [if_neg (by omega)]
  show (if 0 ≤ (levelNumerator level).tdiv 6 * 100 ∧ (levelNumerator level).tdiv 6 * 100 ≤ u64Max
    then some ((levelNumerator level).tdiv 6 * 100).toNat else none) = _
  rw [Int.tdiv_eq_ediv_of_nonneg hnonneg]
  refine if_congr ?_ rfl rfl
  omega

theorem i128_of_bounds {x : ℤ} (hlow : -2 ^ 127 ≤ x) (hhigh : x < 2 ^ 127) : i128 x = some x :=
  if_pos ⟨hlow, hhigh⟩

/-- **No operation overflows** for a level of 32 bits. -/
theorem checkedExperienceForLevel_eq {level : ℕ} (h : level ≤ u32Max) :
    checkedExperienceForLevel level = classicExperienceForLevel level := by
  unfold checkedExperienceForLevel classicExperienceForLevel
  split
  · rfl
  · next hpos =>
    have hnumerator := levelNumerator_nonneg (Nat.one_le_iff_ne_zero.mpr hpos)
    unfold levelNumerator at hnumerator
    have hlevel₀ : (0 : ℤ) ≤ level := by positivity
    have hlevel : (level : ℤ) ≤ 4294967295 := by exact_mod_cast h
    have hsquare₀ : (0 : ℤ) ≤ (level : ℤ) * level := by positivity
    have hsquare : (level : ℤ) * level ≤ 4294967295 * 4294967295 := by gcongr
    have hcube₀ : (0 : ℤ) ≤ (level : ℤ) * level * level := by positivity
    have hcube : (level : ℤ) * level * level ≤ 4294967295 * 4294967295 * 4294967295 := by gcongr
    have hsix : (6 : ℤ) * level * level = 6 * ((level : ℤ) * level) := by ring
    have hquotient : ((level : ℤ) * level * level - 6 * level * level + 17 * level - 12).tdiv 6 =
        ((level : ℤ) * level * level - 6 * level * level + 17 * level - 12) / 6 :=
      Int.tdiv_eq_ediv_of_nonneg hnumerator
    have hless := Int.ediv_le_self 6 hnumerator
    have hpositive := Int.ediv_nonneg hnumerator (show (0 : ℤ) ≤ 6 by norm_num)
    simp only [hquotient, Option.bind_eq_bind]
    rw [i128_of_bounds (by linarith) (by linarith), Option.bind_some,
      i128_of_bounds (by linarith) (by linarith), Option.bind_some,
      i128_of_bounds (by linarith) (by linarith), Option.bind_some,
      i128_of_bounds (by linarith) (by linarith), Option.bind_some,
      i128_of_bounds (by linarith) (by linarith), Option.bind_some,
      i128_of_bounds (by linarith) (by linarith), Option.bind_some,
      i128_of_bounds (by linarith) (by linarith), Option.bind_some,
      i128_of_bounds (by linarith) (by linarith), Option.bind_some, hquotient,
      i128_of_bounds (by linarith) (by linarith), Option.bind_some,
      i128_of_bounds (by linarith) (by linarith), Option.bind_some]

/-! ### The search -/

/-- The requirement of the level is met. -/
def meetsLevel (experience level : ℕ) : Bool :=
  (classicExperienceForLevel level).any (· ≤ experience)

theorem meetsLevel_iff {experience level : ℕ} (h : experience ≤ u64Max) :
    meetsLevel experience level = true ↔
      1 ≤ level ∧ (levelNumerator level / 6 * 100).toNat ≤ experience := by
  unfold meetsLevel
  by_cases hlevel : 1 ≤ level
  · rw [classicExperienceForLevel_eq hlevel]
    split
    · simp [hlevel]
    · next hbig =>
      simp only [Option.any_none, Bool.false_eq_true, false_iff]
      omega
  · rw [show level = 0 by omega]
    simp [classicExperienceForLevel]

theorem requirement_mono {a b : ℕ} (h : a ≤ b) :
    (levelNumerator a / 6 * 100).toNat ≤ (levelNumerator b / 6 * 100).toNat := by
  have hnumerator := levelNumerator_mono h
  omega

/-- The rounds of the search are halvings. -/
theorem searchLevel_eq (experience fuel : ℕ) (low high : ℕ) :
    searchLevel experience fuel low high =
      ((halve (meetsLevel experience))^[fuel] (low, high)).1 := by
  induction fuel generalizing low high with
  | zero => rfl
  | succ fuel ih =>
    rw [Function.iterate_succ_apply]
    by_cases hopen : low < high
    · by_cases hmeets : meetsLevel experience (low + (high - low + 1) / 2) = true
      · have hround : halve (meetsLevel experience) (low, high) =
            (low + (high - low + 1) / 2, high) := by
          unfold halve
          rw [if_pos hopen]
          exact if_pos hmeets
        rw [hround, ← ih]
        conv_lhs => unfold searchLevel
        rw [if_pos hopen]
        exact if_pos hmeets
      · have hround : halve (meetsLevel experience) (low, high) =
            (low, low + (high - low + 1) / 2 - 1) := by
          unfold halve
          rw [if_pos hopen]
          exact if_neg hmeets
        rw [hround, ← ih]
        conv_lhs => unfold searchLevel
        rw [if_pos hopen]
        exact if_neg hmeets
    · have hround : halve (meetsLevel experience) (low, high) = (low, high) := if_neg hopen
      have hstays : (halve (meetsLevel experience))^[fuel] (low, high) = (low, high) :=
        Function.iterate_fixed hround fuel
      rw [hround, hstays]
      exact if_neg hopen

/-- What the search starts with. -/
theorem brackets_levels {experience : ℕ} (h : experience ≤ u64Max) :
    Brackets (meetsLevel experience) (1, u32Max) := by
  refine ⟨?_, fun level hlevel => ?_⟩
  · rw [meetsLevel_iff h]
    exact ⟨le_rfl, Nat.zero_le _⟩
  · by_contra hmeets
    have hmeets : meetsLevel experience level = true := by simpa using hmeets
    obtain ⟨-, hrequired⟩ := (meetsLevel_iff h).mp hmeets
    have hbig : u64Max < (levelNumerator u32Max / 6 * 100).toNat := by decide +kernel
    have hmono := requirement_mono (show u32Max ≤ level from le_of_lt hlevel)
    omega

theorem meetsLevel_down {experience : ℕ} (h : experience ≤ u64Max) {a b : ℕ} (ha : 1 ≤ a)
    (hab : a ≤ b) (hb : meetsLevel experience b = true) : meetsLevel experience a = true := by
  rw [meetsLevel_iff h] at hb ⊢
  exact ⟨ha, (requirement_mono hab).trans hb.2⟩

/-- **The search ends at the greatest level whose requirement is met**, without an overflow on the
way, and more experience never makes a lower level. -/
theorem levelForExperience_isGreatest (experience : ℕ) (h : experience ≤ u64Max) :
    IsGreatest {level | 1 ≤ level ∧ ∃ required, classicExperienceForLevel level = some required ∧
        required ≤ experience} (levelForExperience experience) ∧
      (halve (meetsLevel experience))^[32] (1, u32Max) =
        (levelForExperience experience, levelForExperience experience) ∧
      (∀ rounds, 1 ≤ ((halve (meetsLevel experience))^[rounds] (1, u32Max)).1 ∧
        ((halve (meetsLevel experience))^[rounds] (1, u32Max)).1 ≤
          ((halve (meetsLevel experience))^[rounds] (1, u32Max)).2 ∧
        ((halve (meetsLevel experience))^[rounds] (1, u32Max)).2 ≤ u32Max) ∧
      (∀ level ≤ u32Max, checkedExperienceForLevel level = classicExperienceForLevel level) ∧
      ∀ more ≤ u64Max, experience ≤ more →
        levelForExperience experience ≤ levelForExperience more := by
  have horder : (1 : ℕ) ≤ u32Max := by decide
  have hwidth : u32Max - 1 < 2 ^ 32 := by decide
  have hgreatest : ∀ e ≤ u64Max, IsGreatest {n | meetsLevel e n = true} (levelForExperience e) := by
    intro e he
    have hmeet := @halve_iterate_isGreatest (meetsLevel e) (1, u32Max)
      (fun a b ha hab hb => meetsLevel_down he ha hab hb) horder (brackets_levels he) 32 hwidth
    rwa [← searchLevel_eq] at hmeet
  refine ⟨?_, ?_, @halve_iterate_bounds (meetsLevel experience) (1, u32Max) horder,
    fun level => checkedExperienceForLevel_eq, ?_⟩
  · have hset : {level | 1 ≤ level ∧ ∃ required, classicExperienceForLevel level = some required ∧
        required ≤ experience} = {n | meetsLevel experience n = true} := by
      ext level
      unfold meetsLevel
      rw [Set.mem_ofPred_eq, Set.mem_ofPred_eq, Option.any_eq_true]
      constructor
      · rintro ⟨_, required, hrequired, hle⟩
        exact ⟨required, hrequired, by simpa using hle⟩
      · rintro ⟨required, hrequired, hle⟩
        refine ⟨?_, required, hrequired, by simpa using hle⟩
        by_contra hzero
        rw [show level = 0 by omega] at hrequired
        cases hrequired
    rw [hset]
    exact hgreatest experience h
  · have hfirst : ((halve (meetsLevel experience))^[32] (1, u32Max)).1 =
        levelForExperience experience := (searchLevel_eq ..).symm
    have hclosed := @halve_iterate_closed (meetsLevel experience) (1, u32Max) horder 32 hwidth
    exact Prod.ext hfirst (hclosed.symm.trans hfirst)
  · intro more hmore hle
    refine (hgreatest more hmore).2 ?_
    have hlevel := (hgreatest experience h).1
    rw [Set.mem_ofPred_eq, meetsLevel_iff h] at hlevel
    rw [Set.mem_ofPred_eq, meetsLevel_iff hmore]
    exact ⟨hlevel.1, hlevel.2.trans hle⟩

theorem levelForExperience_isGreatest_4200 :
    levelForExperience 4200 = 8 ∧ IsGreatest {level | 1 ≤ level ∧ ∃ required,
      classicExperienceForLevel level = some required ∧ required ≤ 4200}
        (levelForExperience 4200) :=
  ⟨by decide +kernel, (levelForExperience_isGreatest 4200 (by decide)).1⟩

end ForgottenEngine
