import ForgottenEngine.Game

/-!
# The life of a player

What raises and lowers the health of a player, and what belongs to it: vitals, conditions, food,
regeneration, experience, combat, death loss.  The methods follow the source one by one.

Damage reaches a player in two ways.  Every attack ends in `applyDamageToKnownTarget`, and the
conditions subtract in `applyPlayerConditions`.
-/

namespace ForgottenEngine

open Fallible

instance : DecidableEq PlayerConditions := instDecidableEqOfLawfulBEq

namespace GameWorld

def putVitals (w : GameWorld) (playerId : ℕ) (vitals : PlayerVitals) : GameWorld :=
  { w with playerVitals := w.playerVitals.insert playerId vitals }

def putConditions (w : GameWorld) (playerId : ℕ) (conditions : PlayerConditions) : GameWorld :=
  { w with playerConditions := w.playerConditions.insert playerId conditions }

def putPlayer (w : GameWorld) (playerId : ℕ) (player : Player) : GameWorld :=
  { w with players := w.players.insert playerId player }

def putCreature (w : GameWorld) (id : ℕ) (runtime : StaticCreatureRuntime) : GameWorld :=
  { w with staticCreatures := w.staticCreatures.insert id runtime }

def putProgression (w : GameWorld) (playerId : ℕ) (progression : PlayerProgression) : GameWorld :=
  { w with playerProgressions := w.playerProgressions.insert playerId progression }

def putAttempts (w : GameWorld) (playerId : ℕ) (attempts : PlayerProgressionAttempts) :
    GameWorld :=
  { w with playerProgressionAttempts := w.playerProgressionAttempts.insert playerId attempts }

def putRespawnState (w : GameWorld) (playerId : ℕ) (state : PlayerRespawnState) : GameWorld :=
  { w with playerRespawnStates := w.playerRespawnStates.insert playerId state }

/-- An updated window; without one the windows stay. -/
def putFoodWindow (w : GameWorld) (playerId : ℕ) (window : Option PlayerFoodWindow) : GameWorld :=
  { w with playerFoodWindows :=
    window.elim w.playerFoodWindows (w.playerFoodWindows.insert playerId) }

def putCombatCooldown (w : GameWorld) (playerId nextAttackTick : ℕ) : GameWorld :=
  { w with playerCombatCooldowns := w.playerCombatCooldowns.insert playerId ⟨nextAttackTick⟩ }

def putSpellCooldown (w : GameWorld) (playerId nextCastTick : ℕ) : GameWorld :=
  { w with playerSpellCooldowns := w.playerSpellCooldowns.insert playerId ⟨nextCastTick⟩ }

end GameWorld

namespace Game

/-- One player's entry of a table. -/
def entryOf {α : Type} (table : GameWorld → BTreeMap ℕ α) (playerId : ℕ) : GameM α :=
  readOr (fun w => (table w)[playerId]?) (.unknownPlayer playerId)

/-- Replace one player's entry of a table; an equal value changes nothing. -/
def replaceEntry {α : Type} [DecidableEq α] (table : GameWorld → BTreeMap ℕ α)
    (put : GameWorld → ℕ → α → GameWorld) (playerId : ℕ) (value : α) : GameM Bool := do
  let _ ← requirePlayer playerId
  let current ← entryOf table playerId
  if current = value then return false
  else
    write fun w => put w playerId value
    markChanged
    return true

theorem replaceEntry_run {α : Type} [DecidableEq α] {table : GameWorld → BTreeMap ℕ α}
    {put : GameWorld → ℕ → α → GameWorld} {p : ℕ} {value current : α} {w : GameWorld}
    (hplayer : w.IsRegistered p) (hentry : (table w)[p]? = some current) :
    replaceEntry table put p value w = if current = value then (.ok false, w) else
      (.ok true, (markChanged (put w p value)).2) := by
  obtain ⟨player, hplayer⟩ := hplayer
  have hrequire : requirePlayer p w = (.ok player, w) := readOr_of_some _ hplayer
  have hread : entryOf table p w = (.ok current, w) := readOr_of_some _ hentry
  unfold replaceEntry
  rw [bind_of_ok hrequire, bind_of_ok hread]
  split
  · rfl
  · rfl

/-! ### Vitals, flags and preferences -/

def updatePlayerVitals (playerId : ℕ) (vitals : PlayerVitals) : GameM Unit := do
  if ¬vitals.isValid then fail (.invalidPlayerVitals playerId)
  else
    let _ ← replaceEntry (·.playerVitals) GameWorld.putVitals playerId vitals

def replacePlayerTown (playerId townId : ℕ) : GameM Bool :=
  replaceEntry GameWorld.playerTowns
    (fun w playerId townId => { w with playerTowns := w.playerTowns.insert playerId townId })
    playerId townId

def replacePlayerProgression (playerId : ℕ) (progression : PlayerProgression) : GameM Bool :=
  replaceEntry GameWorld.playerProgressions GameWorld.putProgression playerId progression

def replacePlayerProgressionAttempts (playerId : ℕ) (attempts : PlayerProgressionAttempts) :
    GameM Bool :=
  replaceEntry GameWorld.playerProgressionAttempts GameWorld.putAttempts playerId attempts

def replacePlayerFightModeState (playerId : ℕ) (state : PlayerFightModeState) : GameM Bool :=
  replaceEntry GameWorld.playerFightModes
    (fun w playerId state => { w with playerFightModes := w.playerFightModes.insert playerId state })
    playerId state

def replacePlayerCombatDefense (playerId : ℕ) (defense : PlayerCombatDefense) : GameM Bool := do
  let _ ← requirePlayer playerId
  if maxCombatEventDamage < defense.physicalFlatReduction then fail .invalidCombatDefense
  else
    replaceEntry GameWorld.playerCombatDefenses
      (fun w playerId defense =>
        { w with playerCombatDefenses := w.playerCombatDefenses.insert playerId defense })
      playerId defense

/-- Start a food window, unless one is still open. -/
def grantPlayerFoodWindow (playerId seconds : ℕ) : GameM Bool := do
  if seconds = 0 then fail .invalidRegenerationInterval
  else
    let _ ← requirePlayer playerId
    let w ← read id
    if w.playerFoodWindows[playerId]?.any fun window => w.tick < window.untilTick then return false
    else
      write fun w => { w with playerFoodWindows :=
        w.playerFoodWindows.insert playerId ⟨saturatingAdd w.tick seconds, 0⟩ }
      markChanged
      return true

/-- The player in the set, or not. -/
def setFlag (flags : BTreeSet ℕ) (playerId : ℕ) (enabled : Bool) : BTreeSet ℕ :=
  if enabled then flags.insert playerId else flags.erase playerId

def setPlayerGodMode (playerId : ℕ) (enabled : Bool) : GameM Bool := do
  let _ ← requirePlayer playerId
  write fun w => { w with playerGodMode := setFlag w.playerGodMode playerId enabled }
  markChanged
  return enabled

def setPlayerInvisible (playerId : ℕ) (enabled : Bool) : GameM Bool := do
  let _ ← requirePlayer playerId
  write fun w => { w with playerInvisible := setFlag w.playerInvisible playerId enabled }
  markChanged
  return enabled

/-- Count one unjustified kill; the killer is not looked up. -/
def recordPlayerFrag (killerId : ℕ) : GameM ℕ := do
  let total ← read fun w => min (w.playerFrags[killerId]?.getD 0 + 1) u32Max
  write fun w => { w with playerFrags := w.playerFrags.insert killerId total }
  markChanged
  return total

/-! ### Conditions -/

def replacePlayerConditions (playerId : ℕ) (conditions : PlayerConditions) : GameM Bool :=
  replaceEntry (·.playerConditions) GameWorld.putConditions playerId conditions

def applyPlayerCondition (playerId : ℕ) (condition : PlayerCondition) : GameM Bool := do
  let conditions ← entryOf (·.playerConditions) playerId
  if conditions[condition.kind]? = some condition then return false
  else
    write (·.putConditions playerId (conditions.insert condition.kind condition))
    markChanged
    return true

def applyPlayerSpeedCondition (playerId speedBonusPercent remainingSeconds : ℕ) : GameM Bool := do
  let _ ← requirePlayer playerId
  let condition ← ofExcept (PlayerCondition.newHaste speedBonusPercent remainingSeconds)
  write fun w => w.putConditions playerId
    ((w.playerConditions[playerId]?.getD ∅).insert .haste condition)
  markChanged
  return true

/-- What the conditions will take, at most the health there is. -/
def pendingPlayerConditionDamage (playerId elapsedSeconds : ℕ) : GameM ℕ := do
  let vitals ← playerVitals playerId
  let conditions ← entryOf (·.playerConditions) playerId
  return min (PlayerConditions.requestedDamage conditions elapsedSeconds) vitals.health

structure PlayerConditionOutcome where
  playerId : ℕ
  appliedDamage : ℕ
  remainingHealth : ℕ
  expiredConditions : ℕ
deriving DecidableEq, Repr

/-- Let the conditions of a living player run for a while.  God mode is not asked for. -/
def applyPlayerConditions (playerId elapsedSeconds : ℕ) : GameM PlayerConditionOutcome := do
  let vitals ← playerVitals playerId
  let state ← playerRespawnState playerId
  if state.dead then return ⟨playerId, 0, vitals.health, 0⟩
  else
    let elapsedSeconds := min elapsedSeconds maxRegenerationElapsedSeconds
    let damage ← pendingPlayerConditionDamage playerId elapsedSeconds
    let conditions : PlayerConditions ← entryOf (·.playerConditions) playerId
    if elapsedSeconds = 0 ∨ conditions = ∅ then return ⟨playerId, 0, vitals.health, 0⟩
    else
      let expired := conditions.expired elapsedSeconds
      write (·.putConditions playerId (conditions.remaining elapsedSeconds))
      if 0 < damage then
        write (·.putVitals playerId { vitals with health := vitals.health - damage })
      if 0 < damage ∨ expired ≠ [] then markChanged
      return ⟨playerId, damage, vitals.health - damage, min expired.length u8Max⟩

/-- The same, and a lethal run of the conditions is a death. -/
def applyPlayerConditionsWithDeath (playerId townId : ℕ) (worldMap : WorldMap)
    (elapsedSeconds : ℕ) : GameM (PlayerConditionOutcome × Option PlayerRespawnState) := do
  let vitals ← playerVitals playerId
  let state ← playerRespawnState playerId
  if state.dead then return (⟨playerId, 0, vitals.health, 0⟩, none)
  else
    let elapsedSeconds := min elapsedSeconds maxRegenerationElapsedSeconds
    let pending ← pendingPlayerConditionDamage playerId elapsedSeconds
    let lethal : Bool := 0 < pending ∧ vitals.health ≤ pending
    if lethal ∧ townId = 0 then fail (.playerTownUnassigned playerId)
    else if lethal ∧ worldMap.templePositionForTown townId = none then fail (.unknownTown townId)
    else
      let outcome ← applyPlayerConditions playerId elapsedSeconds
      if 0 < outcome.appliedDamage ∧ outcome.remainingHealth = 0 then
        let death ← living (Living.applyPlayerDeath playerId townId worldMap)
        return (outcome, some death)
      else return (outcome, none)

/-! ### Regeneration, experience, skills -/

structure PlayerRegenerationOutcome where
  playerId : ℕ
  healthGained : ℕ
  manaGained : ℕ
  vitals : PlayerVitals
deriving DecidableEq, Repr

def applyPlayerRegeneration (playerId : ℕ) (rules : PlayerRegenerationRules)
    (elapsedSeconds : ℕ) : GameM PlayerRegenerationOutcome := do
  let vitals ← playerVitals playerId
  let state ← playerRespawnState playerId
  if state.dead ∨ elapsedSeconds = 0 then return ⟨playerId, 0, 0, vitals⟩
  else
    let elapsedSeconds := min elapsedSeconds maxRegenerationElapsedSeconds
    let schedule ← entryOf GameWorld.playerRegenerationSchedules playerId
    let (healthEvents, healthElapsed) := advanceRegenerationSchedule
      schedule.healthElapsedSeconds rules.health.intervalSeconds elapsedSeconds
    let (manaEvents, manaElapsed) := advanceRegenerationSchedule
      schedule.manaElapsedSeconds rules.mana.intervalSeconds elapsedSeconds
    write fun w => { w with playerRegenerationSchedules :=
      w.playerRegenerationSchedules.insert playerId ⟨healthElapsed, manaElapsed⟩ }
    let healthGained :=
      regenerationGain vitals.health vitals.maxHealth rules.health.amount healthEvents
    let manaGained := regenerationGain vitals.mana vitals.maxMana rules.mana.amount manaEvents
    let health := vitals.health + healthGained
    let fed ← read fun w => w.playerFoodWindows[playerId]?.map fun window =>
      window.feed w.tick elapsedSeconds health vitals.maxHealth
    write (·.putFoodWindow playerId (fed.map Prod.snd))
    let foodGained := fed.elim 0 Prod.fst
    let vitals := { vitals with health := health + foodGained, mana := vitals.mana + manaGained }
    if 0 < healthGained ∨ 0 < manaGained ∨ 0 < foodGained then
      write (·.putVitals playerId vitals)
      markChanged
    return ⟨playerId, healthGained + foodGained, manaGained, vitals⟩

structure PlayerExperienceAwardOutcome where
  playerId : ℕ
  rawExperience : ℕ
  awardedExperience : ℕ
  experience : ℕ
  level : ℕ
  gainedLevels : ℕ
  vitals : PlayerVitals
deriving DecidableEq, Repr

/-- Every level gained raises the vitals, whoever gains it. -/
def awardPlayerExperienceWithVocationGains (playerId rawExperience : ℕ)
    (policy : ExperienceAwardPolicy) (gains : VocationLevelUpGains) :
    GameM PlayerExperienceAwardOutcome := do
  let vitals ← playerVitals playerId
  let player ← requirePlayer playerId
  let awarded := policy.awardFor player.level rawExperience
  let advanced := if 0 < awarded then player.addExperience awarded else player
  write (·.putPlayer playerId advanced)
  let gainedLevels := advanced.level - player.level
  let vitals := gains.apply vitals gainedLevels
  if 0 < gainedLevels then write (·.putVitals playerId vitals)
  if 0 < awarded then markChanged
  return ⟨playerId, rawExperience, awarded, advanced.experience, advanced.level, gainedLevels,
    vitals⟩

structure PlayerSkillTryOutcome where
  playerId : ℕ
  skill : PlayerSkill
  gainedLevels : ℕ
  progress : SkillProgress
  storedTries : ℕ
deriving DecidableEq, Repr

def applyPlayerSkillTries (playerId : ℕ) (skill : PlayerSkill) (awardedTries : ℕ)
    (rules : PlayerProgressionRules) : GameM PlayerSkillTryOutcome := do
  let progression ← entryOf GameWorld.playerProgressions playerId
  let attempts ← entryOf GameWorld.playerProgressionAttempts playerId
  let (progress, storedTries, gainedLevels) := advanceSkillTries (progression.skills skill)
    (attempts.skillTries skill) awardedTries rules skill
  let progression' := { progression with
    skills := Function.update progression.skills skill progress }
  let attempts' := { attempts with
    skillTries := Function.update attempts.skillTries skill storedTries }
  if progression' ≠ progression ∨ attempts' ≠ attempts then
    write (·.putProgression playerId progression')
    write (·.putAttempts playerId attempts')
    markChanged
  return ⟨playerId, skill, gainedLevels, progress, storedTries⟩

structure PlayerMagicAdvanceOutcome where
  playerId : ℕ
  gainedLevels : ℕ
  magicLevel : ℕ
  storedMana : ℕ
deriving DecidableEq, Repr

def applyPlayerMagicMana (playerId awardedMana : ℕ) (rules : PlayerProgressionRules) :
    GameM PlayerMagicAdvanceOutcome := do
  let attempts ← entryOf GameWorld.playerProgressionAttempts playerId
  let vitals ← playerVitals playerId
  let (magicLevel, storedMana, gainedLevels) :=
    advanceMagicMana vitals.magicLevel attempts.magicMana awardedMana rules
  let vitals' := { vitals with magicLevel }
  let attempts' := { attempts with magicMana := storedMana }
  if vitals' ≠ vitals ∨ attempts' ≠ attempts then
    write (·.putVitals playerId vitals')
    write (·.putAttempts playerId attempts')
    markChanged
  return ⟨playerId, gainedLevels, magicLevel, storedMana⟩

structure PlayerDeathLossOutcome where
  playerId : ℕ
  percent : ℕ
  experienceLost : ℕ
  skillTriesLost : PlayerSkill → ℕ
  magicManaLost : ℕ
  level : ℕ
  progression : PlayerProgression
  progressionAttempts : PlayerProgressionAttempts
  vitals : PlayerVitals

/-- What a death costs, once for each death. -/
def applyFixedPercentDeathLoss (playerId percent : ℕ) (rules : PlayerProgressionRules) :
    GameM PlayerDeathLossOutcome := do
  if ¬(1 ≤ percent ∧ percent ≤ 100) then fail (.invalidFixedDeathLossPercent percent)
  else
    let state ← playerRespawnState playerId
    if ¬state.dead then fail (.playerIsNotDead playerId)
    else if state.lossApplied then fail (.deathLossAlreadyApplied playerId)
    else
      let player ← requirePlayer playerId
      let progression ← entryOf GameWorld.playerProgressions playerId
      let attempts ← entryOf GameWorld.playerProgressionAttempts playerId
      let vitals ← playerVitals playerId
      let experienceLost := fixedPercentOf player.experience percent
      let experience := player.experience - experienceLost
      let player := { player with experience, level := levelForExperience experience }
      let totalTries := fun skill => cumulativeSkillTries (progression.skills skill)
        (attempts.skillTries skill) rules skill
      let lostTries := fun skill => fixedPercentOf (totalTries skill) percent
      let kept := fun skill =>
        skillProgressFromTotal (totalTries skill - lostTries skill) rules skill
      let totalMana := cumulativeMagicMana vitals.magicLevel attempts.magicMana rules
      let lostMana := fixedPercentOf totalMana percent
      let (magicLevel, storedMana) := magicProgressFromTotal (totalMana - lostMana) rules
      let progression := { progression with skills := fun skill => (kept skill).1 }
      let attempts := { attempts with
        skillTries := fun skill => (kept skill).2
        magicMana := storedMana }
      let vitals := { vitals with magicLevel }
      write (·.putPlayer playerId player)
      write (·.putProgression playerId progression)
      write (·.putAttempts playerId attempts)
      write (·.putVitals playerId vitals)
      write (·.putRespawnState playerId { state with lossApplied := true })
      markChanged
      return ⟨playerId, percent, experienceLost, lostTries, lostMana, player.level, progression,
        attempts, vitals⟩

/-! ### Combat -/

structure PlayerDamageOutcome where
  attackerId : ℕ
  targetId : ℕ
  requestedDamage : ℕ
  appliedDamage : ℕ
  remainingHealth : ℕ
  defeated : Bool
deriving DecidableEq, Repr

/-- The applied damage and the health that is left.  A player in god mode loses nothing. -/
def applyDamageToKnownTarget (targetId requestedDamage : ℕ) : GameM (ℕ × ℕ) := do
  let w ← read id
  if targetId ∈ w.playerGodMode then
    return (0, (w.playerVitals[targetId]?.map PlayerVitals.health).getD 0)
  else
    let vitals ← playerVitals targetId
    let appliedDamage := min requestedDamage vitals.health
    write (·.putVitals targetId { vitals with health := vitals.health - appliedDamage })
    return (appliedDamage, vitals.health - appliedDamage)

def applyPlayerDamage (attackerId targetId requestedDamage : ℕ) : GameM PlayerDamageOutcome := do
  if attackerId = targetId then fail (.selfInteractionNotAllowed attackerId)
  else
    let state ← playerRespawnState attackerId
    if state.dead then fail (.playerIsDead attackerId)
    else
      let _ ← requirePlayer targetId
      let (applied, remaining) ← applyDamageToKnownTarget targetId requestedDamage
      if 0 < applied then markChanged
      return ⟨attackerId, targetId, requestedDamage, applied, remaining, remaining = 0⟩

def applyPlayerMeleeDamage (attackerId targetId requestedDamage : ℕ) :
    GameM PlayerDamageOutcome := do
  let attacker ← requirePlayer attackerId
  let target ← requirePlayer targetId
  if ¬attacker.position.isAdjacentTo target.position then
    fail (.combatOutOfRange attackerId targetId)
  else applyPlayerDamage attackerId targetId requestedDamage

structure PlayerCombatEventOutcome where
  damage : PlayerDamageOutcome
  damageType : CombatDamageType
  mitigatedDamage : ℕ
  nextAttackTick : ℕ
deriving DecidableEq, Repr

/-- The delivery does not reach from one position to the other. -/
def outOfRange (delivery : CombatDelivery) (source target : Position) : Bool :=
  match delivery with
  | .adjacentMelee => ¬source.isAdjacentTo target
  | .rangedDistance maxRange =>
    let distance :=
      max (Position.absDiff source.x target.x) (Position.absDiff source.y target.y)
    source.z ≠ target.z ∨ distance = 0 ∨ maxRange < distance

def applyPlayerCombatEvent (event : PlayerCombatEvent) : GameM PlayerCombatEventOutcome := do
  if event.attackerId = event.targetId then fail (.selfInteractionNotAllowed event.attackerId)
  else if event.damageType ≠ .physical then fail .invalidCombatEvent
  else
    let state ← playerRespawnState event.attackerId
    if state.dead then fail (.playerIsDead event.attackerId)
    else
      let attacker ← requirePlayer event.attackerId
      let target ← requirePlayer event.targetId
      if outOfRange event.delivery attacker.position target.position then
        fail (.combatOutOfRange event.attackerId event.targetId)
      else
        let vitals ← playerVitals event.targetId
        let w ← read id
        if vitals.health = 0 then fail (.targetAlreadyDefeated event.targetId)
        else if event.targetId ∈ w.playerGodMode ∨ event.targetId ∈ w.playerInvisible then
          fail .invalidCombatEvent
        else
          let cooldown ← entryOf GameWorld.playerCombatCooldowns event.attackerId
          if w.tick < cooldown.nextAttackTick then
            fail (.combatCooldownActive event.attackerId w.tick cooldown.nextAttackTick)
          else
            let defense ← entryOf GameWorld.playerCombatDefenses event.targetId
            let mitigated := defense.mitigatePhysical event.requestedDamage
            let (applied, remaining) ← applyDamageToKnownTarget event.targetId mitigated
            let nextAttackTick := saturatingAdd w.tick event.intervalTicks
            write (·.putCombatCooldown event.attackerId nextAttackTick)
            markChanged
            return ⟨⟨event.attackerId, event.targetId, event.requestedDamage, applied, remaining,
              remaining = 0⟩, event.damageType, mitigated, nextAttackTick⟩

/-- The host's form of a combat event: a defeated target dies. -/
def applyPlayerCombatEventWithDeath (event : PlayerCombatEvent) (worldMap : WorldMap) :
    GameM (PlayerCombatEventOutcome × PlayerVitals × Option PlayerRespawnState) := do
  let before ← playerVitals event.targetId
  let townId ← entryOf GameWorld.playerTowns event.targetId
  let lethal : Bool := 0 < event.requestedDamage ∧ before.health ≤ event.requestedDamage
  if lethal ∧ townId = 0 then fail (.playerTownUnassigned event.targetId)
  else if lethal ∧ worldMap.templePositionForTown townId = none then fail (.unknownTown townId)
  else
    let outcome ← applyPlayerCombatEvent event
    if outcome.damage.defeated then
      if event.attackerId ≠ event.targetId then
        let _ ← recordPlayerFrag event.attackerId
      let death ← living (Living.applyPlayerDeath event.targetId townId worldMap)
      let vitals ← playerVitals event.targetId
      return (outcome, vitals, some death)
    else
      let vitals ← playerVitals event.targetId
      return (outcome, vitals, none)

structure PlayerSpellCastOutcome where
  casterId : ℕ
  spellId : ℕ
  manaSpent : ℕ
  remainingMana : ℕ
  nextCastTick : ℕ
deriving DecidableEq, Repr

/-- The cost of a cast; what the spell does is not part of it. -/
def applyPlayerSpellCastEvent (event : PlayerSpellCastEvent) : GameM PlayerSpellCastOutcome := do
  if event.spellId = 0 ∨ event.manaCost = 0 ∨ maxSpellManaCost < event.manaCost ∨
      event.intervalTicks = 0 ∨ maxCombatIntervalTicks < event.intervalTicks then
    fail .invalidSpellCastEvent
  else
    let state ← playerRespawnState event.casterId
    if state.dead then fail (.playerIsDead event.casterId)
    else
      let cooldown ← entryOf GameWorld.playerSpellCooldowns event.casterId
      let tick ← read fun w => w.tick
      if tick < cooldown.nextCastTick then
        fail (.spellCooldownActive event.casterId tick cooldown.nextCastTick)
      else
        let vitals ← playerVitals event.casterId
        if vitals.mana < event.manaCost then
          fail (.insufficientMana event.casterId event.manaCost vitals.mana)
        else
          let remainingMana := vitals.mana - event.manaCost
          write (·.putVitals event.casterId { vitals with mana := remainingMana })
          let nextCastTick := saturatingAdd tick event.intervalTicks
          write (·.putSpellCooldown event.casterId nextCastTick)
          markChanged
          return ⟨event.casterId, event.spellId, event.manaCost, remainingMana, nextCastTick⟩

/-! ### Creatures and players -/

def maxStaticCreatureTargetRange : ℕ := 8

/-- A creature may turn to the player: on its floor, living, and not hidden by an operator. -/
def isTargetable (w : GameWorld) (position : Position) (maxRange : ℕ) (entry : ℕ × Player) :
    Option (ℕ × ℕ) :=
  let (playerId, player) := entry
  let distance :=
    max (Position.absDiff player.position.x position.x) (Position.absDiff player.position.y position.y)
  if player.position.z = position.z ∧ playerId ∉ w.playerGodMode ∧ playerId ∉ w.playerInvisible ∧
      Living.isLiving w.toLivingWorld playerId ∧ distance ≤ maxRange then some (distance, playerId)
  else none

/-- The nearest of the candidates; of equally near ones the one with the lowest id. -/
def nearest : List (ℕ × ℕ) → Option ℕ
  | [] => none
  | candidate :: rest => some (rest.foldl (fun best other =>
      if other.1 < best.1 ∨ other.1 = best.1 ∧ other.2 < best.2 then other else best) candidate).2

def selectStaticCreatureTarget (creatureId maxRange : ℕ) : GameM (Option ℕ) := do
  if maxRange = 0 ∨ maxStaticCreatureTargetRange < maxRange then
    fail (.invalidStaticCreatureTargetRange maxRange)
  else
    let runtime ← readOr (·.staticCreatures[creatureId]?) (.unknownStaticCreature creatureId)
    if ¬runtime.active then fail (.inactiveStaticCreature creatureId)
    else if runtime.isNpc then
      living (Living.clearStaticCreatureTarget creatureId)
      return none
    else
      let target ← read fun w =>
        nearest (w.players.toList.filterMap (isTargetable w runtime.entity.position maxRange))
      write (·.putCreature creatureId { runtime with targetPlayerId := target })
      if runtime.targetPlayerId ≠ target then markChanged
      return target

inductive StaticCreatureTargetAttackOutcome where
  | cooldownNotDue (creatureId dueTick : ℕ)
  | noTarget
  | targetNotAdjacent (creatureId targetPlayerId : ℕ)
  | applied (creatureId targetPlayerId requestedDamage appliedDamage remainingHealth : ℕ)
      (deathState : Option PlayerRespawnState)

/-- The next value of the range: the values are dealt in turn. -/
def declaredDamage (range : StaticCreatureDirectMeleeDamageRange) (sequence : ℕ) : ℕ :=
  let damage := range.minDamage + sequence % (range.maxDamage - range.minDamage + 1)
  if damage ≤ u16Max then damage else range.maxDamage

/-- The town of a player about to die must have a temple. -/
def requireTemple (playerId : ℕ) (worldMap : WorldMap) (lethal : Bool) : GameM (Option ℕ) := do
  if lethal then
    let townId ← entryOf GameWorld.playerTowns playerId
    let _ ← ofOption (worldMap.templePositionForTown townId) (.unknownTown townId)
    return some townId
  else return none

/-- A death in the town, if there is one. -/
def dieIn (playerId : ℕ) (worldMap : WorldMap) : Option ℕ → GameM (Option PlayerRespawnState)
  | none => return none
  | some townId => do
    let death ← living (Living.applyPlayerDeath playerId townId worldMap)
    return some death

/-- A creature that has struck waits before the next strike, if it has to. -/
def cooledDown (creatureId : ℕ) (runtime : StaticCreatureRuntime) (w : GameWorld) : GameWorld :=
  match w.staticCreatures[creatureId]?, runtime.meleeCooldownTicks with
  | some current, some cooldownTicks => w.putCreature creatureId
      { current with nextMeleeDueTick := saturatingAdd w.tick cooldownTicks }
  | _, _ => w

/-- The hit on a living adjacent target. -/
def strikeTarget (creatureId targetId : ℕ) (runtime : StaticCreatureRuntime)
    (fallbackDamage : ℕ) (worldMap : WorldMap) : GameM StaticCreatureTargetAttackOutcome := do
  let requestedDamage := runtime.directMeleeDamageRange.elim fallbackDamage fun range =>
    declaredDamage range runtime.directMeleeDamageSequence
  let struck := if runtime.directMeleeDamageRange.isSome then
    { runtime with
      directMeleeDamageSequence := saturatingAdd runtime.directMeleeDamageSequence 1 } else runtime
  write (·.putCreature creatureId struck)
  let vitals ← playerVitals targetId
  let defense ← entryOf GameWorld.playerCombatDefenses targetId
  let mitigated := defense.mitigatePhysical requestedDamage
  let lethal : Bool := 0 < vitals.health ∧ vitals.health ≤ mitigated
  let townId ← requireTemple targetId worldMap lethal
  let (applied, remaining) ← applyDamageToKnownTarget targetId mitigated
  let deathState ← dieIn targetId worldMap (townId.filter fun _ => remaining = 0 ∧ 0 < applied)
  if deathState.isSome then living (Living.clearStaticCreatureTarget creatureId)
  if 0 < applied then markChanged
  write fun w => match w.staticCreatures[creatureId]?, runtime.meleeCooldownTicks with
    | some current, some cooldownTicks => w.putCreature creatureId
        { current with nextMeleeDueTick := saturatingAdd w.tick cooldownTicks }
    | _, _ => w
  return .applied creatureId targetId requestedDamage applied remaining deathState

def applyStaticCreatureTargetDamage (creatureId fallbackDamage : ℕ) (worldMap : WorldMap) :
    GameM StaticCreatureTargetAttackOutcome := do
  let runtime ← readOr (·.staticCreatures[creatureId]?) (.unknownStaticCreature creatureId)
  let w ← read id
  if ¬runtime.active then fail (.inactiveStaticCreature creatureId)
  else if w.tick < runtime.nextMeleeDueTick then
    return .cooldownNotDue creatureId runtime.nextMeleeDueTick
  else if runtime.isNpc then
    living (Living.clearStaticCreatureTarget creatureId)
    return .noTarget
  else
    match runtime.targetPlayerId with
    | none => return .noTarget
    | some targetId =>
      match w.players[targetId]?.filter fun _ => Living.isLiving w.toLivingWorld targetId with
      | none => do
        living (Living.clearStaticCreatureTarget creatureId)
        return .noTarget
      | some target =>
        if ¬runtime.entity.position.isAdjacentTo target.position then
          return .targetNotAdjacent creatureId targetId
        else strikeTarget creatureId targetId runtime fallbackDamage worldMap

structure StaticCreatureDamageOutcome where
  attackerId : ℕ
  targetId : ℕ
  requestedDamage : ℕ
  appliedDamage : ℕ
  remainingHealthPercent : ℕ
  deactivated : Bool
deriving DecidableEq, Repr

def applyStaticCreatureMeleeDamage (attackerId targetId requestedDamage : ℕ) :
    GameM StaticCreatureDamageOutcome := do
  if requestedDamage = 0 then fail .invalidCombatEvent
  else
    let attacker ← requirePlayer attackerId
    let target ← readOr (·.staticCreatures[targetId]?) (.unknownStaticCreature targetId)
    if ¬target.active then fail (.inactiveStaticCreature targetId)
    else if target.isNpc then fail (.staticNpcNotAttackable targetId)
    else if ¬attacker.position.isAdjacentTo target.entity.position then
      fail (.staticCreatureCombatOutOfRange attackerId targetId)
    else
      let cooldown ← entryOf GameWorld.playerCombatCooldowns attackerId
      let tick ← read fun w => w.tick
      if tick < cooldown.nextAttackTick then
        fail (.combatCooldownActive attackerId tick cooldown.nextAttackTick)
      else
        let applied := min target.healthPercent (min requestedDamage 100)
        let remaining := target.healthPercent - applied
        if applied = 0 then
          return ⟨attackerId, targetId, requestedDamage, 0, target.healthPercent, false⟩
        else
          write (·.putCreature targetId { target with healthPercent := remaining })
          write (·.putCombatCooldown attackerId (saturatingAdd tick 1))
          if remaining = 0 then
            let _ ← living (Living.deactivateStaticCreature targetId)
          else markChanged
          return ⟨attackerId, targetId, requestedDamage, applied, remaining, remaining = 0⟩

end Game

end ForgottenEngine
