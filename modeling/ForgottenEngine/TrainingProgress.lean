import ForgottenEngine.Library.Ladder
import ForgottenEngine.DeathLosses
import ForgottenEngine.LevelGains

/-!
# Tries, mana, and what a death takes of them

A skill and the magic level are places on a ladder whose prices are the requirements of a vocation.
An award climbs from the place, a death loss makes one total of the place, takes its share and
climbs from the bottom.

* `advance_additive` — **two awards are one**, and nothing of an award is lost below the maximum;
* `deathLoss_exact_iff` — **the loss takes exactly its share, and nothing grows, if and only if**
  every place is one that its total gives back.
-/

namespace ForgottenEngine

open Fallible Game

/-! ### Awards -/

/-- Every requirement is at least one, and 64 bits hold it. -/
def ValidTable (required : ℕ → ℕ) : Prop :=
  ∀ level, 1 ≤ level → 1 ≤ required level ∧ required level ≤ u64Max

section Advance

variable {required : ℕ → ℕ} {room level stored awarded : ℕ}

/-- An award climbs with what is stored. -/
theorem advanceLevels_eq_climb (hrequired : ValidTable required)
    (hstored : room ≠ 0 → stored < required (level + 1)) :
    advanceLevels required room level stored awarded =
      climb required room level (stored + awarded) := by
  induction room generalizing level stored awarded with
  | zero => rfl
  | succ room ih =>
    have hless := hstored (by omega)
    have hfits := (hrequired (level + 1) (by omega)).2
    unfold advanceLevels climb
    simp only
    by_cases hnothing : awarded = 0
    · rw [if_pos hnothing, hnothing, if_pos (by omega)]
      rfl
    · rw [if_neg hnothing]
      by_cases hstays : awarded < required (level + 1) - stored
      · rw [if_pos hstays, if_pos (by omega)]
        show (level, min (stored + awarded) u64Max) = _
        rw [min_eq_left (by omega)]
      · rw [if_neg hstays, if_neg (by omega), ih fun _ => (hrequired _ (by omega)).1]
        congr 1
        omega

end Advance

/-- All completed levels and the remainder. -/
def totalSpent (required : ℕ → ℕ) (level stored : ℕ) : ℕ := cost required 0 level + stored

/-- What is stored at a place is below what the next level needs. -/
theorem climb_stored_min {required : ℕ → ℕ} {top level : ℕ} (hrequired : ValidTable required)
    (htop : 1 ≤ top) (hlevel : level ≤ top) (amount : ℕ) :
    (climb required (top - level) level amount).2 <
      required (min ((climb required (top - level) level amount).1 + 1) top) := by
  have hreached := climb_reached required (top - level) level amount
  have hbelow := hreached.below
  by_cases hlast : (climb required (top - level) level amount).1 < top
  · rw [min_eq_left (by omega)]
    exact hreached.rest (by omega)
  · rw [(hreached.top (by omega)).1, min_eq_right (by omega)]
    exact (hrequired top htop).1

theorem totalSpent_climb {required : ℕ → ℕ} {room level stored awarded : ℕ}
    (h : (climb required room level (stored + awarded)).1 < level + room) :
    totalSpent required (climb required room level (stored + awarded)).1
        (climb required room level (stored + awarded)).2 =
      totalSpent required level stored + awarded := by
  have hreached := climb_reached required room level (stored + awarded)
  have hpaid := hreached.paid h
  have hcost : cost required 0 level + _ = _ := cost_add (Nat.zero_le level) hreached.above
  unfold totalSpent
  omega

/-- Two awards on one ladder. -/
theorem advanceLevels_twice {required : ℕ → ℕ} {top level stored : ℕ}
    (hrequired : ValidTable required) (htop : 1 ≤ top) (hlevel : level ≤ top)
    (hstored : stored < required (min (level + 1) top)) (a b : ℕ) :
    let place := advanceLevels required (top - level) level stored a
    advanceLevels required (top - place.1) place.1 place.2 b =
      advanceLevels required (top - level) level stored (a + b) ∧
    ((advanceLevels required (top - level) level stored (a + b)).1 < top →
      totalSpent required (advanceLevels required (top - level) level stored (a + b)).1
          (advanceLevels required (top - level) level stored (a + b)).2 =
        totalSpent required level stored + (a + b)) := by
  have hbelow_next {level stored : ℕ} (h : stored < required (min (level + 1) top)) :
      top - level ≠ 0 → stored < required (level + 1) := by
    intro hroom
    rwa [min_eq_left (by omega)] at h
  have hclimb (awarded : ℕ) : advanceLevels required (top - level) level stored awarded =
      climb required (top - level) level (stored + awarded) :=
    advanceLevels_eq_climb hrequired (hbelow_next hstored)
  have hplace := climb_stored_min hrequired htop hlevel (stored + a)
  have hadd := climb_add required (top - level) level (stored + a) b
  rw [show level + (top - level) = top by omega] at hadd
  intro place
  have hsame : place = climb required (top - level) level (stored + a) := hclimb a
  refine ⟨?_, fun hbelow => ?_⟩
  · rw [hsame, advanceLevels_eq_climb hrequired (hbelow_next hplace), hadd, hclimb, add_assoc]
  · rw [hclimb] at hbelow ⊢
    exact totalSpent_climb (by omega)

/-- **Two awards, one after the other, are one award**, and below the maximum the total grows by
exactly what is awarded. -/
theorem advance_additive (rules : PlayerProgressionRules)
    (hskills : ∀ skill, ValidTable (rules.requiredSkillTries skill))
    (hmagic : ValidTable rules.requiredMagicMana) :
    (∀ skill (progress : SkillProgress) stored a b, progress.level ≤ u16Max →
      stored < rules.requiredSkillTries skill (min (progress.level + 1) u16Max) →
      let first := advanceSkillTries progress stored a rules skill
      let second := advanceSkillTries first.1 first.2.1 b rules skill
      let both := advanceSkillTries progress stored (a + b) rules skill
      second.1 = both.1 ∧ second.2.1 = both.2.1 ∧
        (both.1.level < u16Max →
          totalSpent (rules.requiredSkillTries skill) both.1.level both.2.1 =
            totalSpent (rules.requiredSkillTries skill) progress.level stored + (a + b))) ∧
    ∀ magicLevel stored a b, magicLevel ≤ u8Max →
      stored < rules.requiredMagicMana (min (magicLevel + 1) u8Max) →
      let first := advanceMagicMana magicLevel stored a rules
      let second := advanceMagicMana first.1 first.2.1 b rules
      let both := advanceMagicMana magicLevel stored (a + b) rules
      second.1 = both.1 ∧ second.2.1 = both.2.1 ∧
        (both.1 < u8Max → totalSpent rules.requiredMagicMana both.1 both.2.1 =
          totalSpent rules.requiredMagicMana magicLevel stored + (a + b)) := by
  refine ⟨fun skill progress stored a b hlevel hstored => ?_,
    fun magicLevel stored a b hlevel hstored => ?_⟩
  · obtain ⟨htwice, hgrows⟩ :=
      advanceLevels_twice (hskills skill) (by decide) hlevel hstored a b
    refine ⟨?_, congrArg Prod.snd htwice, hgrows⟩
    exact congrArg (fun place : ℕ × ℕ => (⟨place.1, progressPercent place.2
      (rules.requiredSkillTries skill (min (place.1 + 1) u16Max))⟩ : SkillProgress)) htwice
  · obtain ⟨htwice, hgrows⟩ := advanceLevels_twice hmagic (by decide) hlevel hstored a b
    refine ⟨?_, congrArg (fun place : ℕ × ℕ => place.2) htwice, hgrows⟩
    exact congrArg (fun place : ℕ × ℕ => place.1) htwice

/-- Every level needs a hundred. -/
def hundredRules : PlayerProgressionRules := ⟨fun _ _ => 100, fun _ => 100⟩

theorem advance_additive_hundred :
    let first := advanceMagicMana 3 40 70 hundredRules
    first.1 = 4 ∧ first.2.1 = 10 ∧
      (advanceMagicMana first.1 first.2.1 200 hundredRules).1 =
        (advanceMagicMana 3 40 270 hundredRules).1 := by
  have hvalid : ∀ {required : ℕ → ℕ}, (∀ level, required level = 100) → ValidTable required := by
    intro required hrequired level _
    rw [hrequired]
    decide
  refine ⟨by decide, by decide, ?_⟩
  exact ((advance_additive hundredRules (fun _ => hvalid fun _ => rfl)
    (hvalid fun _ => rfl)).2 3 40 70 200 (by decide) (by decide)).1

/-! ### Losses -/

theorem fixedPercentOf_eq {value percent : ℕ} (hvalue : value ≤ u64Max) (hpercent : percent ≤ 100) :
    fixedPercentOf value percent = value * percent / 100 := by
  have hu : u64Max = 18446744073709551615 := rfl
  have hwhole : value / 100 * percent ≤ value / 100 * 100 := by gcongr
  have hpart : value % 100 * percent ≤ value % 100 * 100 := by gcongr
  have hsplit : value * percent = 100 * (value / 100 * percent) + value % 100 * percent := by
    conv_lhs => rw [← Nat.div_add_mod value 100]
    ring
  unfold fixedPercentOf saturatingAdd saturatingMul
  rw [hsplit, Nat.mul_add_div (by norm_num),
    min_eq_left (show value / 100 * percent ≤ u64Max by omega),
    min_eq_left (show value % 100 * percent ≤ u64Max by omega)]
  omega

/-- The sum of the source stays at the greatest value of 64 bits. -/
theorem cumulative_eq (required : ℕ → ℕ) (base rungs : ℕ) {stored : ℕ} (hstored : stored ≤ u64Max) :
    (List.range' (base + 1) rungs).foldl (fun total level => saturatingAdd total (required level))
      stored = min (cost required base (base + rungs) + stored) u64Max := by
  induction rungs with
  | zero => simp [hstored]
  | succ rungs ih =>
    rw [List.range'_1_concat, List.foldl_append, ih]
    have hcost : cost required base (base + rungs) + _ = _ := cost_add (Nat.le_add_right base rungs)
      (Nat.le_succ (base + rungs))
    rw [cost_succ] at hcost
    show min (min _ u64Max + required (base + 1 + rungs)) u64Max = _
    rw [show base + (rungs + 1) = base + rungs + 1 by omega, ← hcost,
      show base + 1 + rungs = base + rungs + 1 by omega]
    omega

theorem levelFromTotal_eq_climb (required : ℕ → ℕ) (room level total : ℕ) :
    levelFromTotal required room level total = climb required room level total := by
  induction room generalizing level total with
  | zero => rfl
  | succ room ih =>
    unfold levelFromTotal climb
    rw [ih]

/-- A place that its total gives back: on the ladder, below the price of the next rung, and with a
total that does not saturate. -/
structure Restorable (required : ℕ → ℕ) (base top level stored : ℕ) : Prop where
  above : base ≤ level
  rest : level < top → stored < required (level + 1)
  full : level = top → stored = 0
  fits : cost required base level + stored ≤ u64Max

section Counter

variable {required : ℕ → ℕ} {base top level stored : ℕ}

/-- The total of a place, as the source computes it. -/
def savedTotal (required : ℕ → ℕ) (base level stored : ℕ) : ℕ :=
  (List.range' (base + 1) (level - base)).foldl
    (fun total level => saturatingAdd total (required level)) stored

theorem savedTotal_eq (h : base ≤ level) (hstored : stored ≤ u64Max) :
    savedTotal required base level stored = min (cost required base level + stored) u64Max := by
  have hsum := cumulative_eq required base (level - base) hstored
  rw [show base + (level - base) = level by omega] at hsum
  exact hsum

theorem savedTotal_below (h : level < base) : savedTotal required base level stored = stored := by
  unfold savedTotal
  rw [show level - base = 0 by omega]
  rfl

/-- **The total gives the place back exactly if** it is restorable. -/
theorem climb_savedTotal_iff (hbase : base ≤ top) (hlevel : level ≤ top)
    (hstored : stored ≤ u64Max) :
    climb required (top - base) base (savedTotal required base level stored) = (level, stored) ↔
      Restorable required base top level stored := by
  rw [climb_eq_iff]
  constructor
  · intro h
    have habove : base ≤ level := h.above
    have htotal := @savedTotal_eq required _ _ _ habove hstored
    refine ⟨habove, fun hless => h.rest (by omega), fun hfull => (h.top (by omega)).1, ?_⟩
    rcases lt_or_eq_of_le hlevel with hless | hfull
    · have hpaid : cost required base level + stored = _ := h.paid (by omega)
      rw [htotal] at hpaid
      omega
    · obtain ⟨hnothing, hcost⟩ := h.top (by omega)
      have hnothing : stored = 0 := hnothing
      have hcost : cost required base level ≤ _ := hcost
      rw [htotal] at hcost
      omega
  · intro h
    have htotal := @savedTotal_eq required _ _ _ h.above hstored
    rw [min_eq_left h.fits] at htotal
    have habove := h.above
    refine ⟨h.above, by simp only; omega, fun _ => htotal.symm, fun hless => h.rest (by omega),
      fun hfull => ⟨h.full (by omega), by rw [htotal]; simp⟩⟩

/-- **What a restorable place loses.** -/
theorem Restorable.loss (hbase : base ≤ top) (h : Restorable required base top level stored)
    (hlevel : level ≤ top) {kept : ℕ} (hkept : kept ≤ savedTotal required base level stored) :
    (climb required (top - base) base kept).1 ≤ level ∧
      ((climb required (top - base) base kept).1 = level →
        (climb required (top - base) base kept).2 ≤ stored) ∧
      savedTotal required base (climb required (top - base) base kept).1
        (climb required (top - base) base kept).2 = kept := by
  have hfits := h.fits
  have hstored : stored ≤ u64Max := by omega
  have hback := (climb_savedTotal_iff hbase hlevel hstored).mpr h
  have htotal := @savedTotal_eq required _ _ _ h.above hstored
  have hmono := @climb_mono required (top - base) base _ _ hkept
  rw [hback] at hmono
  have hreached := climb_reached required (top - base) base kept
  generalize climb required (top - base) base kept = place at hmono hreached
  refine ⟨hmono.1, fun hsame => hmono.2 hsame.symm, ?_⟩
  have hbelow := hreached.below
  have hcost : cost required base place.1 + place.2 = kept := by
    rcases lt_or_eq_of_le hbelow with hless | hfull
    · exact hreached.paid hless
    · -- At the top nothing can have been taken.
      obtain ⟨hnothing, hle⟩ := hreached.top hfull
      have hsame : level = place.1 := by omega
      have hzero := h.full (by omega)
      rw [hsame] at htotal hkept
      omega
  rw [savedTotal_eq hreached.above (by omega), hcost]
  omega

end Counter

/-! ### The loss of a player -/

/-- What a death takes from. -/
structure Training where
  experience : ℕ
  progression : PlayerProgression
  attempts : PlayerProgressionAttempts
  magicLevel : ℕ
deriving DecidableEq

namespace Training

variable (t : Training) (rules : PlayerProgressionRules)

def skillTotal (skill : PlayerSkill) : ℕ :=
  cumulativeSkillTries (t.progression.skills skill) (t.attempts.skillTries skill) rules skill

def magicTotal : ℕ := cumulativeMagicMana t.magicLevel t.attempts.magicMana rules

/-- What is left behind a loss. -/
def afterLoss (percent : ℕ) : Training :=
  let kept := fun skill => skillProgressFromTotal
    (t.skillTotal rules skill - fixedPercentOf (t.skillTotal rules skill) percent) rules skill
  let magic := magicProgressFromTotal
    (t.magicTotal rules - fixedPercentOf (t.magicTotal rules) percent) rules
  { experience := t.experience - fixedPercentOf t.experience percent
    progression := { t.progression with skills := fun skill => (kept skill).1 }
    attempts := { skillTries := fun skill => (kept skill).2, magicMana := magic.2 }
    magicLevel := magic.1 }

/-- The data types hold the values. -/
structure WithinTypes : Prop where
  experience : t.experience ≤ u64Max
  levels : ∀ skill, (t.progression.skills skill).level ≤ u16Max
  tries : ∀ skill, t.attempts.skillTries skill ≤ u64Max
  magicLevel : t.magicLevel ≤ u8Max
  magicMana : t.attempts.magicMana ≤ u64Max

/-- Nothing has grown, every total has dropped by its share, and the totals give back what they were
made of. -/
structure LossExact (percent : ℕ) (after : Training) : Prop where
  experience : after.experience = t.experience - t.experience * percent / 100
  skillLevels : ∀ skill,
    (after.progression.skills skill).level ≤ (t.progression.skills skill).level
  skillTries : ∀ skill,
    (after.progression.skills skill).level = (t.progression.skills skill).level →
      after.attempts.skillTries skill ≤ t.attempts.skillTries skill
  skillTotals : ∀ skill, after.skillTotal rules skill =
    t.skillTotal rules skill - t.skillTotal rules skill * percent / 100
  skillIdentity : ∀ skill, skillProgressFromTotal (t.skillTotal rules skill) rules skill =
    (t.progression.skills skill, t.attempts.skillTries skill)
  magicLevel : after.magicLevel ≤ t.magicLevel
  magicMana : after.magicLevel = t.magicLevel → after.attempts.magicMana ≤ t.attempts.magicMana
  magicTotal : after.magicTotal rules =
    t.magicTotal rules - t.magicTotal rules * percent / 100
  magicIdentity : magicProgressFromTotal (t.magicTotal rules) rules =
    (t.magicLevel, t.attempts.magicMana)

/-- Every skill and the magic level is a place that its total gives back, with the percentage its
tries make. -/
structure Restores : Prop where
  skills : ∀ skill, Restorable (rules.requiredSkillTries skill) minimumPlayerSkillLevel u16Max
    (t.progression.skills skill).level (t.attempts.skillTries skill)
  percents : ∀ skill, (t.progression.skills skill).percent =
    if (t.progression.skills skill).level = u16Max then 0
    else progressPercent (t.attempts.skillTries skill)
      (rules.requiredSkillTries skill ((t.progression.skills skill).level + 1))
  magic : Restorable rules.requiredMagicMana 0 u8Max t.magicLevel t.attempts.magicMana

end Training

section Loss

variable {rules : PlayerProgressionRules} {t : Training} {percent : ℕ}

theorem skillProgressFromTotal_eq (total : ℕ) (skill : PlayerSkill) :
    skillProgressFromTotal total rules skill =
      let place := climb (rules.requiredSkillTries skill) (u16Max - minimumPlayerSkillLevel)
        minimumPlayerSkillLevel total
      (⟨place.1, if place.1 = u16Max then 0
        else progressPercent place.2 (rules.requiredSkillTries skill (place.1 + 1))⟩, place.2) := by
  unfold skillProgressFromTotal
  simp only
  rw [levelFromTotal_eq_climb]

theorem magicProgressFromTotal_eq (total : ℕ) :
    magicProgressFromTotal total rules = climb rules.requiredMagicMana u8Max 0 total :=
  levelFromTotal_eq_climb ..

theorem skillTotal_eq (t : Training) (rules : PlayerProgressionRules) (skill : PlayerSkill) :
    t.skillTotal rules skill = savedTotal (rules.requiredSkillTries skill) minimumPlayerSkillLevel
      (t.progression.skills skill).level (t.attempts.skillTries skill) := rfl

theorem magicTotal_eq (t : Training) (rules : PlayerProgressionRules) :
    t.magicTotal rules = savedTotal rules.requiredMagicMana 0 t.magicLevel t.attempts.magicMana :=
  rfl

/-- The total of a skill gives it back exactly if it is restorable and shows its tries. -/
theorem skillIdentity_iff (ht : t.WithinTypes) (skill : PlayerSkill) :
    skillProgressFromTotal (t.skillTotal rules skill) rules skill =
        (t.progression.skills skill, t.attempts.skillTries skill) ↔
      Restorable (rules.requiredSkillTries skill) minimumPlayerSkillLevel u16Max
          (t.progression.skills skill).level (t.attempts.skillTries skill) ∧
        (t.progression.skills skill).percent =
          if (t.progression.skills skill).level = u16Max then 0
          else progressPercent (t.attempts.skillTries skill)
            (rules.requiredSkillTries skill ((t.progression.skills skill).level + 1)) := by
  have hplace := @climb_savedTotal_iff (rules.requiredSkillTries skill) _ _ _ _
    (show minimumPlayerSkillLevel ≤ u16Max by decide) (ht.levels skill) (ht.tries skill)
  rw [skillProgressFromTotal_eq, ← hplace, skillTotal_eq]
  generalize climb (rules.requiredSkillTries skill) (u16Max - minimumPlayerSkillLevel)
    minimumPlayerSkillLevel (savedTotal (rules.requiredSkillTries skill) minimumPlayerSkillLevel
      (t.progression.skills skill).level (t.attempts.skillTries skill)) = place
  generalize t.progression.skills skill = progress
  generalize t.attempts.skillTries skill = stored
  simp only [Prod.mk.injEq]
  constructor
  · intro h
    obtain ⟨hprogress, hstored⟩ := h
    subst hprogress hstored
    exact ⟨rfl, rfl⟩
  · intro h
    obtain ⟨rfl, hpercent⟩ := h
    refine ⟨?_, rfl⟩
    rw [← hpercent]

theorem kept_eq {total : ℕ} (htotal : total ≤ u64Max) (hpercent : percent ≤ 100) :
    total - fixedPercentOf total percent = total - total * percent / 100 := by
  rw [fixedPercentOf_eq htotal hpercent]

theorem savedTotal_le {required : ℕ → ℕ} {base level stored : ℕ} (hstored : stored ≤ u64Max) :
    savedTotal required base level stored ≤ u64Max := by
  by_cases h : base ≤ level
  · rw [savedTotal_eq h hstored]
    exact min_le_right ..
  · rwa [savedTotal_below (by omega)]

/-- **The loss is exact and adds nothing exactly if** its totals give back what they were made
of. -/
theorem lossExact_iff (ht : t.WithinTypes) (hpercent : percent ≤ 100) :
    t.LossExact rules percent (t.afterLoss rules percent) ↔ t.Restores rules := by
  constructor
  · intro h
    refine ⟨fun skill => ((skillIdentity_iff ht skill).mp (h.skillIdentity skill)).1,
      fun skill => ((skillIdentity_iff ht skill).mp (h.skillIdentity skill)).2, ?_⟩
    have hback := h.magicIdentity
    rw [magicProgressFromTotal_eq] at hback
    exact (climb_savedTotal_iff (Nat.zero_le _) ht.magicLevel ht.magicMana).mp hback
  · intro h
    have hlevel : ∀ skill, ((t.afterLoss rules percent).progression.skills skill).level =
        (climb (rules.requiredSkillTries skill) (u16Max - minimumPlayerSkillLevel)
          minimumPlayerSkillLevel (t.skillTotal rules skill -
            fixedPercentOf (t.skillTotal rules skill) percent)).1 := fun skill =>
      congrArg (fun place : SkillProgress × ℕ => place.1.level) (skillProgressFromTotal_eq _ skill)
    have htries : ∀ skill, (t.afterLoss rules percent).attempts.skillTries skill =
        (climb (rules.requiredSkillTries skill) (u16Max - minimumPlayerSkillLevel)
          minimumPlayerSkillLevel (t.skillTotal rules skill -
            fixedPercentOf (t.skillTotal rules skill) percent)).2 := fun skill =>
      congrArg (fun place : SkillProgress × ℕ => place.2) (skillProgressFromTotal_eq _ skill)
    have hmana : ((t.afterLoss rules percent).magicLevel,
        (t.afterLoss rules percent).attempts.magicMana) = climb rules.requiredMagicMana u8Max 0
          (t.magicTotal rules - fixedPercentOf (t.magicTotal rules) percent) :=
      magicProgressFromTotal_eq _
    have hskill := fun skill => (h.skills skill).loss (by decide) (ht.levels skill)
      (show t.skillTotal rules skill - fixedPercentOf (t.skillTotal rules skill) percent ≤
        t.skillTotal rules skill from Nat.sub_le ..)
    have hmagic := h.magic.loss (Nat.zero_le _) ht.magicLevel
      (show t.magicTotal rules - fixedPercentOf (t.magicTotal rules) percent ≤ t.magicTotal rules
        from Nat.sub_le ..)
    rw [Nat.sub_zero, ← hmana] at hmagic
    refine ⟨kept_eq ht.experience hpercent, fun skill => ?_, fun skill => ?_, fun skill => ?_,
      fun skill => (skillIdentity_iff ht skill).mpr ⟨h.skills skill, h.percents skill⟩, hmagic.1,
      hmagic.2.1, ?_, ?_⟩
    · rw [hlevel]
      exact (hskill skill).1
    · rw [hlevel, htries]
      exact (hskill skill).2.1
    · rw [skillTotal_eq, hlevel, htries, (hskill skill).2.2]
      exact kept_eq (savedTotal_le (ht.tries skill)) hpercent
    · rw [magicTotal_eq]
      exact hmagic.2.2.trans (kept_eq (savedTotal_le ht.magicMana) hpercent)
    · rw [magicProgressFromTotal_eq]
      exact (climb_savedTotal_iff (Nat.zero_le _) ht.magicLevel ht.magicMana).mpr h.magic

end Loss

namespace GameWorld

/-- What a death of the player would take from. -/
def training (w : GameWorld) (p : ℕ) : Option Training :=
  match w.players[p]?, w.playerProgressions[p]?, w.playerProgressionAttempts[p]?,
    w.playerVitals[p]? with
  | some player, some progression, some attempts, some vitals =>
    some ⟨player.experience, progression, attempts, vitals.magicLevel⟩
  | _, _, _, _ => none

theorem training_eq_some {w : GameWorld} {p : ℕ} {t : Training} :
    w.training p = some t ↔ ∃ player vitals, w.players[p]? = some player ∧
      w.playerVitals[p]? = some vitals ∧ w.playerProgressions[p]? = some t.progression ∧
      w.playerProgressionAttempts[p]? = some t.attempts ∧
      player.experience = t.experience ∧ vitals.magicLevel = t.magicLevel := by
  unfold training
  constructor
  · intro h
    split at h
    · next player progression attempts vitals hplayer hprogression hattempts hvitals =>
      cases h
      exact ⟨player, vitals, hplayer, hvitals, hprogression, hattempts, rfl, rfl⟩
    · cases h
  · rintro ⟨player, vitals, hplayer, hvitals, hprogression, hattempts, hexperience, hmagic⟩
    rw [hplayer, hvitals, hprogression, hattempts]
    simp only
    rw [hexperience, hmagic]

end GameWorld

section Operation

variable {w : GameWorld} {p percent : ℕ} {rules : PlayerProgressionRules} {t : Training}

/-- A due loss is the one of the training. -/
theorem training_deathLoss (htraining : w.training p = some t) (hdue : w.LossDue p percent) :
    (applyFixedPercentDeathLoss p percent rules w).2.training p =
      some (t.afterLoss rules percent) := by
  obtain ⟨player, vitals, hplayer, hvitals, hprogression, hattempts, hexperience, hmagic⟩ :=
    GameWorld.training_eq_some.mp htraining
  obtain ⟨hone, hhundred, state, hstate, hdead, happlied⟩ := hdue
  have hnot {α : Type} {o : Option α} {a : α} (h : o = some a) (hnone : o = none) : False := by
    rw [h] at hnone
    cases hnone
  have hleaves : Leaves (fun w' => w'.training p = some (t.afterLoss rules percent))
      (applyFixedPercentDeathLoss p percent rules) w := by
    simp only [applyFixedPercentDeathLoss, Game.playerVitals, Game.requirePlayer, entryOf,
      Game.playerRespawnState, Game.markChanged, leaves_readOr_bind, leaves_write_bind, leaves_ite,
      leaves_fail]
    refine ⟨fun hrange => absurd ⟨hone, hhundred⟩ hrange, fun _ =>
      ⟨fun hnone => (hnot hstate hnone).elim, fun state' hstate' => ?_⟩⟩
    obtain rfl := Option.some.inj (hstate.symm.trans hstate')
    refine ⟨fun halive => absurd hdead halive, fun _ => ⟨fun hdone => ?_, fun _ => ?_⟩⟩
    · rw [happlied] at hdone
      cases hdone
    refine ⟨fun hnone => (hnot hplayer hnone).elim, fun player' hplayer' => ?_⟩
    obtain rfl := Option.some.inj (hplayer.symm.trans hplayer')
    refine ⟨fun hnone => (hnot hprogression hnone).elim, fun progression' hprogression' => ?_⟩
    obtain rfl := Option.some.inj (hprogression.symm.trans hprogression')
    refine ⟨fun hnone => (hnot hattempts hnone).elim, fun attempts' hattempts' => ?_⟩
    obtain rfl := Option.some.inj (hattempts.symm.trans hattempts')
    refine ⟨fun hnone => (hnot hvitals hnone).elim, fun vitals' hvitals' => ?_⟩
    obtain rfl := Option.some.inj (hvitals.symm.trans hvitals')
    refine GameWorld.training_eq_some.mpr ⟨_, _, Std.ExtTreeMap.getElem?_insert_self,
      Std.ExtTreeMap.getElem?_insert_self, Std.ExtTreeMap.getElem?_insert_self,
      Std.ExtTreeMap.getElem?_insert_self.trans ?_, ?_, ?_⟩
    · simp only [Training.afterLoss, Training.skillTotal, Training.magicTotal, ← hmagic]
    · simp only [Training.afterLoss, ← hexperience]
    · simp only [Training.afterLoss, Training.magicTotal, ← hmagic]
  exact hleaves

/-- Otherwise nothing happens. -/
theorem deathLoss_of_not_due (h : ¬w.LossDue p percent) :
    (applyFixedPercentDeathLoss p percent rules w).2 = w := by
  rcases hrun : applyFixedPercentDeathLoss p percent rules w with ⟨e | outcome, w'⟩
  · exact atomic_loss _ _ _ hrun
  · refine absurd ?_ h
    simp only [applyFixedPercentDeathLoss, Game.playerRespawnState, guard_eq_ok, bind_eq_ok,
      readOr_eq_ok] at hrun
    obtain ⟨hrange, state, _, ⟨hstate, rfl⟩, hdead, happlied, -⟩ := hrun
    have hrange := of_not_not hrange
    exact ⟨hrange.1, hrange.2, state, hstate, of_not_not hdead, by simpa using happlied⟩

end Operation

/-- A knight dies with these skills. -/
def fallsWith (skill : SkillProgress) : GameWorld :=
  [knightEnters 7 100, .upkeep (.replaceProgression 7 ⟨0, fun _ => skill⟩),
    .player (.death 7 1 templeMap)].foldl (GameEvent.step id) .empty

theorem lossDue_fallsWith (skill : SkillProgress)
    (h : (fallsWith skill).playerRespawnStates[7]? = some ⟨true, some ⟨95, 95, 7⟩, some 0, false⟩) :
    (fallsWith skill).LossDue 7 10 :=
  ⟨by decide, by decide, _, h, rfl, rfl⟩

end ForgottenEngine
