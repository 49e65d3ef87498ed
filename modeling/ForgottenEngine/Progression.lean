import ForgottenEngine.Creatures

/-!
# Levels, skills, regeneration and conditions

The arithmetic of a character: what experience makes which level, what a level brings, how tries
and spent mana advance a skill, what a stretch of time restores, and what the conditions of a
player cost in it.  The methods of the world only look up, call one of these functions, and store.

A requirement table is a parameter: the source computes its entries from a multiplier in floating
point, and nothing else of the rules is used.
-/

namespace ForgottenEngine

/-! ### Experience and levels -/

/-- The cumulative experience of a one-based level, unless 64 bits do not hold it. -/
def classicExperienceForLevel (level : ℕ) : Option ℕ :=
  if level = 0 then none
  else
    let level : ℤ := level
    let numerator := level * level * level - 6 * level * level + 17 * level - 12
    let experience := numerator.tdiv 6 * 100
    if 0 ≤ experience ∧ experience ≤ u64Max then some experience.toNat else none

/-- The binary search of `levelForExperience`. -/
def searchLevel (experience : ℕ) : ℕ → ℕ → ℕ → ℕ
  | 0, low, _ => low
  | fuel + 1, low, high =>
    if low < high then
      let midpoint := low + (high - low + 1) / 2
      if (classicExperienceForLevel midpoint).any (· ≤ experience) then
        searchLevel experience fuel midpoint high
      else searchLevel experience fuel low (midpoint - 1)
    else low

/-- The highest level whose requirement the experience meets; 32 halvings exhaust the range. -/
def levelForExperience (experience : ℕ) : ℕ := searchLevel experience 32 1 u32Max

def Player.addExperience (self : Player) (amount : ℕ) : Player :=
  let experience := saturatingAdd self.experience amount
  { self with experience, level := levelForExperience experience }

structure ExperienceAwardStage where
  minLevel : ℕ
  maxLevel : ℕ
  multiplierMilli : ℕ
deriving DecidableEq, Repr

structure ExperienceAwardPolicy where
  flatRate : ℕ
  stages : List ExperienceAwardStage
deriving DecidableEq, Repr

def saturatingMul (a b : ℕ) : ℕ := min (a * b) u64Max

/-- The experience a level gets for a raw amount. -/
def ExperienceAwardPolicy.awardFor (self : ExperienceAwardPolicy) (level rawExperience : ℕ) : ℕ :=
  let stage := self.stages.find? fun stage => stage.minLevel ≤ level ∧ level ≤ stage.maxLevel
  saturatingMul (saturatingMul rawExperience self.flatRate)
    (stage.elim 1000 ExperienceAwardStage.multiplierMilli) / 1000

/-- What one level of a vocation brings. -/
structure VocationLevelUpGains where
  health : ℕ := 0
  mana : ℕ := 0
  capacity : ℕ := 0
deriving DecidableEq, Repr

namespace VocationLevelUpGains

def scaledAmount (amount gainedLevels : ℕ) : ℕ := min (amount * gainedLevels) u16Max

def apply (self : VocationLevelUpGains) (vitals : PlayerVitals) (gainedLevels : ℕ) :
    PlayerVitals :=
  let health := scaledAmount self.health gainedLevels
  let mana := scaledAmount self.mana gainedLevels
  let capacity := scaledAmount self.capacity gainedLevels
  { vitals with
    health := min (vitals.health + health) u16Max
    maxHealth := min (vitals.maxHealth + health) u16Max
    mana := min (vitals.mana + mana) u16Max
    maxMana := min (vitals.maxMana + mana) u16Max
    capacity := min (vitals.capacity + capacity) u16Max }

end VocationLevelUpGains

/-! ### Skills and magic level -/

inductive PlayerSkill where
  | fist | club | sword | axe | distance | shielding | fishing
deriving DecidableEq, Repr

instance : Fintype PlayerSkill where
  elems := {.fist, .club, .sword, .axe, .distance, .shielding, .fishing}
  complete := by intro skill; cases skill <;> simp

structure SkillProgress where
  level : ℕ := 10
  percent : ℕ := 0
deriving DecidableEq, Repr

/-- The vocation and the seven skills. -/
structure PlayerProgression where
  vocation : ℕ := 0
  skills : PlayerSkill → SkillProgress := fun _ => {}
deriving DecidableEq

/-- The counters behind the visible percentages. -/
structure PlayerProgressionAttempts where
  skillTries : PlayerSkill → ℕ := fun _ => 0
  magicMana : ℕ := 0
deriving DecidableEq

/-- The requirement tables of a vocation, by target level. -/
structure PlayerProgressionRules where
  requiredSkillTries : PlayerSkill → ℕ → ℕ
  requiredMagicMana : ℕ → ℕ

def minimumPlayerSkillLevel : ℕ := 10

def progressPercent (stored required : ℕ) : ℕ :=
  if required = 0 then 0 else min (saturatingMul stored 100 / required) 100

/-- Spend awarded units on one level after the other; `room` levels are left below the maximum. -/
def advanceLevels (required : ℕ → ℕ) : ℕ → ℕ → ℕ → ℕ → ℕ × ℕ
  | 0, level, _, _ => (level, 0)
  | room + 1, level, stored, awarded =>
    let needed := required (level + 1) - stored
    if awarded = 0 then (level, stored)
    else if awarded < needed then (level, saturatingAdd stored awarded)
    else advanceLevels required room (level + 1) 0 (awarded - needed)

/-- Returns the new progress, the stored tries and the gained levels. -/
def advanceSkillTries (progress : SkillProgress) (storedTries awardedTries : ℕ)
    (rules : PlayerProgressionRules) (skill : PlayerSkill) : SkillProgress × ℕ × ℕ :=
  let required := rules.requiredSkillTries skill
  let (level, stored) :=
    advanceLevels required (u16Max - progress.level) progress.level storedTries awardedTries
  (⟨level, progressPercent stored (required (min (level + 1) u16Max))⟩, stored,
    level - progress.level)

/-- Returns the new magic level, the stored mana and the gained levels. -/
def advanceMagicMana (magicLevel storedMana awardedMana : ℕ) (rules : PlayerProgressionRules) :
    ℕ × ℕ × ℕ :=
  let (level, stored) :=
    advanceLevels rules.requiredMagicMana (u8Max - magicLevel) magicLevel storedMana awardedMana
  (level, stored, level - magicLevel)

def fixedPercentOf (value percent : ℕ) : ℕ :=
  saturatingAdd (saturatingMul (value / 100) percent) (saturatingMul (value % 100) percent / 100)

/-- The tries behind a skill level, with those stored towards the next. -/
def cumulativeSkillTries (progress : SkillProgress) (storedTries : ℕ)
    (rules : PlayerProgressionRules) (skill : PlayerSkill) : ℕ :=
  (List.range' (minimumPlayerSkillLevel + 1) (progress.level - minimumPlayerSkillLevel)).foldl
    (fun total level => saturatingAdd total (rules.requiredSkillTries skill level)) storedTries

def cumulativeMagicMana (magicLevel storedMana : ℕ) (rules : PlayerProgressionRules) : ℕ :=
  (List.range' 1 magicLevel).foldl
    (fun total level => saturatingAdd total (rules.requiredMagicMana level)) storedMana

/-- Spend a total from the lowest level up; `room` levels are left below the maximum. -/
def levelFromTotal (required : ℕ → ℕ) : ℕ → ℕ → ℕ → ℕ × ℕ
  | 0, level, _ => (level, 0)
  | room + 1, level, total =>
    if total < required (level + 1) then (level, total)
    else levelFromTotal required room (level + 1) (total - required (level + 1))

def skillProgressFromTotal (totalTries : ℕ) (rules : PlayerProgressionRules)
    (skill : PlayerSkill) : SkillProgress × ℕ :=
  let required := rules.requiredSkillTries skill
  let (level, stored) := levelFromTotal required (u16Max - minimumPlayerSkillLevel)
    minimumPlayerSkillLevel totalTries
  (⟨level, if level = u16Max then 0 else progressPercent stored (required (level + 1))⟩, stored)

def magicProgressFromTotal (totalMana : ℕ) (rules : PlayerProgressionRules) : ℕ × ℕ :=
  levelFromTotal rules.requiredMagicMana u8Max 0 totalMana

/-! ### Regeneration -/

def maxRegenerationElapsedSeconds : ℕ := 60

def foodRegenerationIntervalSeconds : ℕ := 4

def foodRegenerationHealthPerInterval : ℕ := 1

/-- What the last eaten item still gives. -/
structure PlayerFoodWindow where
  untilTick : ℕ
  elapsedSeconds : ℕ
deriving DecidableEq, Repr

structure RegenerationRule where
  intervalSeconds : ℕ
  amount : ℕ
  interval_pos : 0 < intervalSeconds
deriving DecidableEq, Repr

structure PlayerRegenerationRules where
  health : RegenerationRule
  mana : RegenerationRule
deriving DecidableEq, Repr

structure PlayerRegenerationSchedule where
  healthElapsedSeconds : ℕ := 0
  manaElapsedSeconds : ℕ := 0
deriving DecidableEq, Repr

/-- The events a stretch of time completes, and what is left of it. -/
def advanceRegenerationSchedule (elapsed interval delta : ℕ) : ℕ × ℕ :=
  let total := min (elapsed + delta) u16Max
  (total / interval, total % interval)

def regenerationGain (current maximum amount events : ℕ) : ℕ :=
  min (min (current + min (min (amount * events) u32Max) u16Max) u16Max) maximum - current

/-- What a food window restores in a stretch of time, and the window afterwards. -/
def PlayerFoodWindow.feed (self : PlayerFoodWindow) (tick elapsedSeconds health maxHealth : ℕ) :
    ℕ × PlayerFoodWindow :=
  if self.untilTick ≤ tick then (0, self)
  else
    let elapsed := min (self.elapsedSeconds + elapsedSeconds) u16Max
    let intervals := elapsed / foodRegenerationIntervalSeconds
    if intervals = 0 then (0, { self with elapsedSeconds := elapsed })
    else
      (min (min (foodRegenerationHealthPerInterval * intervals) u16Max) (maxHealth - health),
        { self with elapsedSeconds := elapsed % foodRegenerationIntervalSeconds })

/-! ### Conditions -/

def maxConditionDurationSeconds : ℕ := 3600

def maxSpeedBonusPercent : ℕ := 100

def PlayerConditionKind.isDamageOverTime : PlayerConditionKind → Bool
  | .haste => false
  | _ => true

namespace PlayerCondition

/-- A damaging condition.  Haste has its own constructor. -/
def new (kind : PlayerConditionKind) (intervalSeconds damage remainingSeconds : ℕ) :
    Except CoreError PlayerCondition :=
  if ¬kind.isDamageOverTime ∨ intervalSeconds = 0 ∨ damage = 0 ∨ remainingSeconds = 0 ∨
      maxConditionDurationSeconds < remainingSeconds then .error .invalidPlayerCondition
  else .ok ⟨kind, intervalSeconds, damage, 0, remainingSeconds, 0⟩

def newHaste (speedBonusPercent remainingSeconds : ℕ) : Except CoreError PlayerCondition :=
  if speedBonusPercent = 0 ∨ maxSpeedBonusPercent < speedBonusPercent ∨ remainingSeconds = 0 ∨
      maxConditionDurationSeconds < remainingSeconds then .error .invalidPlayerCondition
  else .ok ⟨.haste, 1, 0, speedBonusPercent, remainingSeconds, 0⟩

/-- How long the condition is active within the elapsed seconds, with what it had counted. -/
def countedSeconds (self : PlayerCondition) (elapsedSeconds : ℕ) : ℕ :=
  min (self.elapsedSeconds + min elapsedSeconds self.remainingSeconds) u16Max

/-- The damage the condition asks for within the elapsed seconds. -/
def pendingDamage (self : PlayerCondition) (elapsedSeconds : ℕ) : ℕ :=
  if self.kind.isDamageOverTime then
    min (self.countedSeconds elapsedSeconds / self.intervalSeconds * self.damage) u32Max
  else 0

/-- The condition after the elapsed seconds. -/
def advance (self : PlayerCondition) (elapsedSeconds : ℕ) : PlayerCondition :=
  { self with
    elapsedSeconds := self.countedSeconds elapsedSeconds % self.intervalSeconds
    remainingSeconds := self.remainingSeconds - min elapsedSeconds self.remainingSeconds }

end PlayerCondition

/-- The conditions of one player. -/
abbrev PlayerConditions := BTreeMap PlayerConditionKind PlayerCondition

namespace PlayerConditions

/-- What all conditions ask for, saturating at 32 bits. -/
def requestedDamage (self : PlayerConditions) (elapsedSeconds : ℕ) : ℕ :=
  self.toList.foldl (fun total e => min (total + e.2.pendingDamage elapsedSeconds) u32Max) 0

def advance (self : PlayerConditions) (elapsedSeconds : ℕ) : PlayerConditions :=
  self.map fun _ condition => condition.advance elapsedSeconds

/-- The kinds that run out within the elapsed seconds. -/
def expired (self : PlayerConditions) (elapsedSeconds : ℕ) : List PlayerConditionKind :=
  ((self.advance elapsedSeconds).toList.filter fun e => e.2.remainingSeconds = 0).map Prod.fst

/-- The conditions after the elapsed seconds, without those that ran out. -/
def remaining (self : PlayerConditions) (elapsedSeconds : ℕ) : PlayerConditions :=
  (self.advance elapsedSeconds).filter fun _ condition => condition.remainingSeconds ≠ 0

end PlayerConditions

/-! ### Combat values -/

inductive CombatDamageType where
  | physical | fire | energy | earth | ice | holy | death
deriving DecidableEq, Repr

inductive CombatDelivery where
  | adjacentMelee
  | rangedDistance (maxRange : ℕ)
deriving DecidableEq, Repr

def maxCombatEventDamage : ℕ := 10000

def maxCombatIntervalTicks : ℕ := 60

def maxSpellManaCost : ℕ := 10000

structure PlayerCombatDefense where
  physicalFlatReduction : ℕ := 0
deriving DecidableEq, Repr

def PlayerCombatDefense.mitigatePhysical (self : PlayerCombatDefense) (requestedDamage : ℕ) : ℕ :=
  requestedDamage - self.physicalFlatReduction

inductive PlayerFightMode where
  | attack | balanced | defense
deriving DecidableEq, Repr

structure PlayerFightModeState where
  mode : PlayerFightMode := .attack
  chase : Bool := false
  secure : Bool := false
deriving DecidableEq, Repr

structure PlayerCombatCooldown where
  nextAttackTick : ℕ := 0
deriving DecidableEq, Repr

structure PlayerSpellCooldown where
  nextCastTick : ℕ := 0
deriving DecidableEq, Repr

structure PlayerCombatEvent where
  attackerId : ℕ
  targetId : ℕ
  delivery : CombatDelivery
  damageType : CombatDamageType
  requestedDamage : ℕ
  intervalTicks : ℕ
deriving DecidableEq, Repr

structure PlayerSpellCastEvent where
  casterId : ℕ
  spellId : ℕ
  manaCost : ℕ
  intervalTicks : ℕ
deriving DecidableEq, Repr

end ForgottenEngine
