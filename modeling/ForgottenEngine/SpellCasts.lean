import ForgottenEngine.Database
import ForgottenEngine.PlayerLife
import ForgottenEngine.Library.Relations

/-!
# Casting a declared spell

A cast spends mana and starts a cooldown in the shared world, then lets the spent mana advance the
magic level, stores the result, and may add a speed condition and store that as well.  All of it
happens in the shared world itself: a step that fails keeps what the steps before it have done.

* `spellCast_cases` — a cast is refused, or is paid for;
* `magicMana_run`, `updateVitalsAndAttempts_iff`, `finishCast_cases` — the steps after the payment;
* `castFailure_iff` — **when a failed cast has left the world alone**: whenever the cast is paid
  for, everything after it has to go well.
-/

namespace ForgottenEngine

open Fallible Game

/-! ### Spells -/

/-- A declared spell, without its words and its damage, which a cast does not read. -/
structure DeclarativeSpellDefinition where
  spellId : ℕ
  manaCost : ℕ
  intervalTicks : ℕ
  speedPercent : Option ℕ
deriving DecidableEq, Repr

def PlayerSpellCastEvent.new (casterId spellId manaCost intervalTicks : ℕ) :
    Except CoreError PlayerSpellCastEvent :=
  if spellId = 0 ∨ manaCost = 0 ∨ maxSpellManaCost < manaCost then .error .invalidSpellCastEvent
  else .ok ⟨casterId, spellId, manaCost, intervalTicks⟩

def DeclarativeSpellDefinition.castEvent (self : DeclarativeSpellDefinition) (casterId : ℕ) :
    Except String PlayerSpellCastEvent :=
  (PlayerSpellCastEvent.new casterId self.spellId self.manaCost self.intervalTicks).mapError
    fun _ => "validated declarative spell could not create a cast event"

abbrev DeclarativeSpellCatalog := BTreeMap ℕ DeclarativeSpellDefinition

/-! ### The database -/

inductive CastError where
  | core (error : CoreError)
  | invalidConfiguration (message : String)
  | invalidPlayerVitals
  | unknownPlayer (playerId : ℕ)
  | invalidProgressionAttemptRecord (message : String)
  | sqlite
deriving DecidableEq

/-- The rows of the players that a cast writes: columns of `players`, the counters, the
conditions. -/
structure CastRows where
  vitals : BTreeMap ℕ PlayerVitals
  attempts : BTreeMap ℕ PlayerProgressionAttempts
  conditions : BTreeMap ℕ PlayerConditions

abbrev CastRowsM (α : Type) := Fallible CastError CastRows α

/-- What the database does with one method: whether it answers the query in front, and what it
does with the transaction. -/
structure MethodOutcome where
  answers : Bool
  sqlite : SqliteOutcome

/-- `SELECT EXISTS(SELECT 1 FROM players WHERE id = …)` -/
def ensureStoredPlayerExists (answers : Bool) (playerId : ℕ) : CastRowsM Unit := do
  if ¬answers then fail .sqlite
  else
    let rows ← read id
    if rows.vitals[playerId]? = none then fail (.unknownPlayer playerId)

/-- `UPDATE players SET … WHERE id = …`, then an upsert of the counters. -/
def updatePlayerVitalsAndProgressionAttempts (outcome : MethodOutcome) (playerId : ℕ)
    (vitals : PlayerVitals) (attempts : PlayerProgressionAttempts) : CastRowsM Unit := do
  if ¬vitals.isValid then fail .invalidPlayerVitals
  else
    ensureStoredPlayerExists outcome.answers playerId
    if ¬((∀ skill, attempts.skillTries skill ≤ i64Max) ∧ attempts.magicMana ≤ i64Max) then
      fail (.invalidProgressionAttemptRecord
        "progression counter exceeds SQLite signed integer range")
    else
      committed outcome.sqlite .sqlite (statements outcome.sqlite.executes .sqlite 0
        [fun rows => some { rows with vitals := rows.vitals.insert playerId vitals },
          fun rows => some { rows with attempts := rows.attempts.insert playerId attempts }])

/-- `INSERT INTO player_conditions …`: a player has one row of a kind. -/
def insertConditionRow (playerId : ℕ) (entry : PlayerConditionKind × PlayerCondition)
    (rows : CastRows) : Option CastRows :=
  let stored : PlayerConditions := rows.conditions[playerId]?.getD ∅
  if stored[entry.1]? = none then
    some { rows with conditions := rows.conditions.insert playerId (stored.insert entry.1 entry.2) }
  else none

def replacePlayerConditions (outcome : MethodOutcome) (playerId : ℕ)
    (conditions : PlayerConditions) : CastRowsM Unit := do
  ensureStoredPlayerExists outcome.answers playerId
  committed outcome.sqlite .sqlite (statements outcome.sqlite.executes .sqlite 0
    ((fun rows => some { rows with conditions := rows.conditions.erase playerId }) ::
      conditions.toList.map (insertConditionRow playerId)))

/-! ### The cast -/

/-- The shared world and the database around a cast. -/
structure CastState where
  world : GameWorld
  rows : CastRows
  vitalsEpoch : ℕ

abbrev CastM (α : Type) := Fallible CastError CastState α

/-- A method of the shared world. -/
def onSharedWorld {α : Type} (method : GameM α) : CastM α := fun s =>
  match method s.world with
  | (.ok a, world) => (.ok a, { s with world })
  | (.error e, world) => (.error (.core e), { s with world })

def onRows {α : Type} (method : CastRowsM α) : CastM α :=
  zoom CastState.rows (fun s rows => { s with rows }) method

def nativeHasteDurationSeconds : ℕ := 25

structure CastRequest where
  casterId : ℕ
  spellId : ℕ
  catalog : DeclarativeSpellCatalog
  rulesByVocation : BTreeMap ℕ PlayerProgressionRules
  magicRate : ℕ

/-- What the database does with the two methods of a cast. -/
structure CastPersistence where
  update : MethodOutcome
  replace : MethodOutcome

/-- The speed condition of a spell, in the world and in the database. -/
def applySpellSpeed (persistence : CastPersistence) (casterId : ℕ) :
    Option ℕ → CastM Unit
  | none => return ()
  | some percent => do
    let _ ← onSharedWorld (applyPlayerSpeedCondition casterId percent nativeHasteDurationSeconds)
    let conditions ← onSharedWorld (entryOf (·.playerConditions) casterId)
    onRows (replacePlayerConditions persistence.replace casterId conditions)

/-- What follows the payment. -/
def finishCast (persistence : CastPersistence) (request : CastRequest)
    (definition : DeclarativeSpellDefinition) (rules : PlayerProgressionRules)
    (cast : PlayerSpellCastOutcome) :
    CastM (PlayerSpellCastOutcome × PlayerMagicAdvanceOutcome) := do
  let awardedMana := saturatingMul cast.manaSpent request.magicRate
  let magic ← onSharedWorld (applyPlayerMagicMana request.casterId awardedMana rules)
  let vitals ← onSharedWorld (playerVitals request.casterId)
  let attempts ← onSharedWorld (entryOf GameWorld.playerProgressionAttempts request.casterId)
  onRows (updatePlayerVitalsAndProgressionAttempts persistence.update request.casterId vitals
    attempts)
  applySpellSpeed persistence request.casterId definition.speedPercent
  write fun s => { s with vitalsEpoch := s.vitalsEpoch + 1 }
  return (cast, magic)

def applyAndPersistNativeDeclarativeSpellCast (persistence : CastPersistence)
    (request : CastRequest) : CastM (PlayerSpellCastOutcome × PlayerMagicAdvanceOutcome) := do
  let definition ← ofOption request.catalog[request.spellId]?
    (.invalidConfiguration "declared spell ID is not present in host catalog")
  let event ← ofExcept ((definition.castEvent request.casterId).mapError fun _ =>
    .invalidConfiguration "validated declarative spell did not build a cast event")
  let progression ← onSharedWorld (entryOf GameWorld.playerProgressions request.casterId)
  let rules ← ofOption request.rulesByVocation[progression.vocation]?
    (.invalidConfiguration
      s!"declarative spell caster vocation {progression.vocation} has no validated progression rules")
  let cast ← onSharedWorld (applyPlayerSpellCastEvent event)
  finishCast persistence request definition rules cast

/-! ### The payment -/

section Payment

variable {event : PlayerSpellCastEvent} {w : GameWorld} {vitals : PlayerVitals}

/-- A cast the world accepts, with the vitals that pay for it. -/
structure Castable (w : GameWorld) (event : PlayerSpellCastEvent) (vitals : PlayerVitals) :
    Prop where
  bounds : ¬(event.spellId = 0 ∨ event.manaCost = 0 ∨ maxSpellManaCost < event.manaCost ∨
    event.intervalTicks = 0 ∨ maxCombatIntervalTicks < event.intervalTicks)
  alive : ∃ state, w.playerRespawnStates[event.casterId]? = some state ∧ state.dead = false
  ready : ∃ cooldown, w.playerSpellCooldowns[event.casterId]? = some cooldown ∧
    cooldown.nextCastTick ≤ w.tick
  entry : w.playerVitals[event.casterId]? = some vitals
  mana : event.manaCost ≤ vitals.mana

/-- The vitals after the payment. -/
def paidVitals (event : PlayerSpellCastEvent) (vitals : PlayerVitals) : PlayerVitals :=
  { vitals with mana := vitals.mana - event.manaCost }

/-- The world after the payment. -/
def paidWorld (w : GameWorld) (event : PlayerSpellCastEvent) (vitals : PlayerVitals) : GameWorld :=
  (markChanged ((w.putVitals event.casterId (paidVitals event vitals)).putSpellCooldown
    event.casterId (saturatingAdd w.tick event.intervalTicks))).2

def paidOutcome (w : GameWorld) (event : PlayerSpellCastEvent) (vitals : PlayerVitals) :
    PlayerSpellCastOutcome :=
  ⟨event.casterId, event.spellId, event.manaCost, vitals.mana - event.manaCost,
    saturatingAdd w.tick event.intervalTicks⟩

theorem castable_run (h : Castable w event vitals) :
    applyPlayerSpellCastEvent event w =
      (.ok (paidOutcome w event vitals), paidWorld w event vitals) := by
  obtain ⟨hbounds, ⟨state, hstate, halive⟩, ⟨cooldown, hcooldown, hready⟩, hvitals, hmana⟩ := h
  have hlife : playerRespawnState event.casterId w = (.ok state, w) := readOr_of_some _ hstate
  have hwait : entryOf GameWorld.playerSpellCooldowns event.casterId w = (.ok cooldown, w) :=
    readOr_of_some _ hcooldown
  have hread : playerVitals event.casterId w = (.ok vitals, w) := readOr_of_some _ hvitals
  have htick : (read fun w : GameWorld => w.tick : GameM ℕ) w = (.ok w.tick, w) := rfl
  unfold applyPlayerSpellCastEvent
  rw [if_neg hbounds, bind_of_ok hlife, halive, if_neg Bool.false_ne_true, bind_of_ok hwait,
    bind_of_ok htick, if_neg (not_lt.mpr hready), bind_of_ok hread, if_neg (not_lt.mpr hmana)]
  rfl

/-- **A cast is refused**, and nothing has happened, or it is paid for. -/
theorem spellCast_cases (event : PlayerSpellCastEvent) (w : GameWorld) :
    (∃ e, applyPlayerSpellCastEvent event w = (.error e, w)) ∨
      ∃ vitals, Castable w event vitals := by
  unfold applyPlayerSpellCastEvent
  by_cases hbounds : event.spellId = 0 ∨ event.manaCost = 0 ∨ maxSpellManaCost < event.manaCost ∨
      event.intervalTicks = 0 ∨ maxCombatIntervalTicks < event.intervalTicks
  · rw [if_pos hbounds]
    exact .inl ⟨_, rfl⟩
  rw [if_neg hbounds]
  cases hstate : w.playerRespawnStates[event.casterId]? with
  | none =>
    have hlife : playerRespawnState event.casterId w =
        (.error (.unknownPlayer event.casterId), w) := readOr_of_none _ hstate
    rw [bind_of_error hlife]
    exact .inl ⟨_, rfl⟩
  | some state =>
  have hlife : playerRespawnState event.casterId w = (.ok state, w) := readOr_of_some _ hstate
  rw [bind_of_ok hlife]
  by_cases hdead : state.dead = true
  · rw [if_pos hdead]
    exact .inl ⟨_, rfl⟩
  rw [if_neg hdead]
  cases hcooldown : w.playerSpellCooldowns[event.casterId]? with
  | none =>
    have hwait : entryOf GameWorld.playerSpellCooldowns event.casterId w =
        (.error (.unknownPlayer event.casterId), w) := readOr_of_none _ hcooldown
    rw [bind_of_error hwait]
    exact .inl ⟨_, rfl⟩
  | some cooldown =>
  have hwait : entryOf GameWorld.playerSpellCooldowns event.casterId w = (.ok cooldown, w) :=
    readOr_of_some _ hcooldown
  have htick : (read fun w : GameWorld => w.tick : GameM ℕ) w = (.ok w.tick, w) := rfl
  rw [bind_of_ok hwait, bind_of_ok htick]
  by_cases hready : w.tick < cooldown.nextCastTick
  · rw [if_pos hready]
    exact .inl ⟨_, rfl⟩
  rw [if_neg hready]
  cases hvitals : w.playerVitals[event.casterId]? with
  | none =>
    have hread : playerVitals event.casterId w = (.error (.unknownPlayer event.casterId), w) :=
      readOr_of_none _ hvitals
    rw [bind_of_error hread]
    exact .inl ⟨_, rfl⟩
  | some vitals =>
  have hread : playerVitals event.casterId w = (.ok vitals, w) := readOr_of_some _ hvitals
  rw [bind_of_ok hread]
  by_cases hmana : vitals.mana < event.manaCost
  · rw [if_pos hmana]
    exact .inl ⟨_, rfl⟩
  · exact .inr ⟨vitals, hbounds, ⟨state, hstate, Bool.eq_false_iff.mpr hdead⟩,
      ⟨cooldown, hcooldown, not_lt.mp hready⟩, hvitals, not_lt.mp hmana⟩

/-- The mana is gone. -/
theorem paidWorld_vitals :
    (paidWorld w event vitals).playerVitals[event.casterId]? = some (paidVitals event vitals) :=
  Std.ExtTreeMap.getElem?_insert_self

end Payment

/-! ### The steps after the payment -/

/-- The vitals after an award. -/
def advancedVitals (rules : PlayerProgressionRules) (awardedMana : ℕ) (vitals : PlayerVitals)
    (attempts : PlayerProgressionAttempts) : PlayerVitals :=
  { vitals with
    magicLevel := (advanceMagicMana vitals.magicLevel attempts.magicMana awardedMana rules).1 }

/-- The counters after an award. -/
def advancedAttempts (rules : PlayerProgressionRules) (awardedMana : ℕ) (vitals : PlayerVitals)
    (attempts : PlayerProgressionAttempts) : PlayerProgressionAttempts :=
  { attempts with
    magicMana := (advanceMagicMana vitals.magicLevel attempts.magicMana awardedMana rules).2.1 }

theorem magicMana_run {p : ℕ} {w : GameWorld} {vitals : PlayerVitals}
    {attempts : PlayerProgressionAttempts} (awardedMana : ℕ) (rules : PlayerProgressionRules)
    (hvitals : w.playerVitals[p]? = some vitals)
    (hattempts : w.playerProgressionAttempts[p]? = some attempts) :
    ∃ outcome w', applyPlayerMagicMana p awardedMana rules w = (.ok outcome, w') ∧
      w'.playerVitals[p]? = some (advancedVitals rules awardedMana vitals attempts) ∧
      w'.playerProgressionAttempts[p]? = some (advancedAttempts rules awardedMana vitals attempts) ∧
      w'.players = w.players ∧ w'.playerConditions = w.playerConditions := by
  have hread : entryOf GameWorld.playerProgressionAttempts p w = (.ok attempts, w) :=
    readOr_of_some _ hattempts
  have hread' : playerVitals p w = (.ok vitals, w) := readOr_of_some _ hvitals
  unfold applyPlayerMagicMana advancedVitals advancedAttempts
  rw [bind_of_ok hread, bind_of_ok hread']
  obtain ⟨level, stored, gained⟩ :=
    advanceMagicMana vitals.magicLevel attempts.magicMana awardedMana rules
  by_cases hchanged : { vitals with magicLevel := level } ≠ vitals ∨
      { attempts with magicMana := stored } ≠ attempts
  · simp only [if_pos hchanged]
    refine ⟨_, _, rfl, ?_, ?_, rfl, rfl⟩
    · exact Std.ExtTreeMap.getElem?_insert_self
    · exact Std.ExtTreeMap.getElem?_insert_self
  · simp only [if_neg hchanged]
    rw [not_or, not_not, not_not] at hchanged
    exact ⟨_, w, rfl, hchanged.1.symm ▸ hvitals, hchanged.2.symm ▸ hattempts, rfl, rfl⟩

theorem magicMana_error {p awardedMana : ℕ} {w : GameWorld} (rules : PlayerProgressionRules)
    (hattempts : w.playerProgressionAttempts[p]? = none) :
    applyPlayerMagicMana p awardedMana rules w = (.error (.unknownPlayer p), w) := by
  have hread : entryOf GameWorld.playerProgressionAttempts p w = (.error (.unknownPlayer p), w) :=
    readOr_of_none _ hattempts
  unfold applyPlayerMagicMana
  rw [bind_of_error hread]

/-- The database answers, and carries out a transaction of so many statements. -/
structure MethodOutcome.Goes (self : MethodOutcome) (count : ℕ) : Prop where
  answers : self.answers = true
  opens : self.sqlite.opens = true
  executes : ∀ i < count, self.sqlite.executes i = true
  commits : self.sqlite.commits = true

theorem ensureStored_eq_ok {answers : Bool} {p : ℕ} {rows rows' : CastRows} {u : Unit} :
    ensureStoredPlayerExists answers p rows = (.ok u, rows') ↔
      answers = true ∧ rows.vitals[p]? ≠ none ∧ rows' = rows := by
  unfold ensureStoredPlayerExists
  have hread : (read id : CastRowsM CastRows) rows = (.ok rows, rows) := rfl
  by_cases hanswers : answers = true
  · rw [if_neg (not_not_intro hanswers), bind_of_ok hread]
    by_cases hrow : rows.vitals[p]? = none
    · simp [hrow]
    · simp [hrow, hanswers, eq_comm]
  · simp [hanswers]

/-- When the vitals and the counters are stored. -/
theorem updateVitalsAndAttempts_iff (outcome : MethodOutcome) (p : ℕ) (vitals : PlayerVitals)
    (attempts : PlayerProgressionAttempts) (rows : CastRows) :
    (∃ rows', updatePlayerVitalsAndProgressionAttempts outcome p vitals attempts rows =
        (.ok (), rows')) ↔
      vitals.isValid = true ∧ rows.vitals[p]? ≠ none ∧
        ((∀ skill, attempts.skillTries skill ≤ i64Max) ∧ attempts.magicMana ≤ i64Max) ∧
        outcome.Goes 2 := by
  unfold updatePlayerVitalsAndProgressionAttempts
  by_cases hvalid : vitals.isValid = true
  swap
  · simp [hvalid]
  rw [if_neg (not_not_intro hvalid)]
  by_cases hcounters : (∀ skill, attempts.skillTries skill ≤ i64Max) ∧ attempts.magicMana ≤ i64Max
  swap
  · simp only [hcounters, not_false_eq_true, if_true, bind_eq_ok, fail_apply, Prod.mk.injEq,
      reduceCtorEq, false_and, and_false, exists_false]
  simp only [if_neg (not_not_intro hcounters), bind_eq_ok, ensureStored_eq_ok, committed_eq_ok,
    statements_eq_ok, hvalid]
  constructor
  · rintro ⟨rows', -, rows₁, ⟨hanswers, hrow, rfl⟩, hopens, hcommits, hexecutes, -⟩
    exact ⟨trivial, hrow, hcounters, hanswers, hopens, fun i hi => by simpa using hexecutes i hi,
      hcommits⟩
  · rintro ⟨-, hrow, -, hanswers, hopens, hexecutes, hcommits⟩
    exact ⟨_, (), rows, ⟨hanswers, hrow, rfl⟩, hopens, hcommits,
      fun i hi => by simpa using hexecutes i hi, rfl⟩

/-- A stored player stays stored. -/
theorem updateVitalsAndAttempts_row {outcome : MethodOutcome} {p : ℕ} {vitals : PlayerVitals}
    {attempts : PlayerProgressionAttempts} {rows rows' : CastRows} {u : Unit}
    (h : updatePlayerVitalsAndProgressionAttempts outcome p vitals attempts rows = (.ok u, rows')) :
    rows'.vitals[p]? ≠ none := by
  unfold updatePlayerVitalsAndProgressionAttempts at h
  rw [guard_eq_ok] at h
  obtain ⟨-, rows₁, -, hrest⟩ := bind_eq_ok.mp h.2
  rw [guard_eq_ok, committed_eq_ok, statements_eq_ok] at hrest
  obtain ⟨-, -, -, -, hrun⟩ := hrest
  cases hrun
  simp

/-- Conditions of kinds that are not stored yet. -/
theorem exists_insertConditions (p : ℕ) {entries : List (PlayerConditionKind × PlayerCondition)}
    (hkinds : entries.Pairwise fun a b => a.1 ≠ b.1) {rows : CastRows}
    (hnew : ∀ e ∈ entries, (rows.conditions[p]?.getD ∅ : PlayerConditions)[e.1]? = none) :
    ∃ rows', (entries.map (insertConditionRow p)).foldlM (fun rows run => run rows) rows =
      some rows' := by
  induction entries generalizing rows with
  | nil => exact ⟨rows, rfl⟩
  | cons e entries ih =>
    obtain ⟨hapart, hkinds⟩ := List.pairwise_cons.mp hkinds
    have hfirst : insertConditionRow p e rows = some { rows with
        conditions := rows.conditions.insert p
          ((rows.conditions[p]?.getD ∅ : PlayerConditions).insert e.1 e.2) } :=
      if_pos (hnew e List.mem_cons_self)
    rw [List.map_cons, List.foldlM_cons, hfirst]
    refine ih hkinds fun d hd => ?_
    simp only [Std.ExtTreeMap.getElem?_insert_self, Option.getD_some,
      Std.ExtTreeMap.getElem?_insert]
    rw [if_neg (by simpa using hapart d hd)]
    exact hnew d (List.mem_cons_of_mem _ hd)

/-- When the conditions are stored. -/
theorem replaceConditions_iff (outcome : MethodOutcome) (p : ℕ) (conditions : PlayerConditions)
    (rows : CastRows) :
    (∃ rows', replacePlayerConditions outcome p conditions rows = (.ok (), rows')) ↔
      rows.vitals[p]? ≠ none ∧ outcome.Goes (conditions.toList.length + 1) := by
  have hkinds : conditions.toList.Pairwise fun a b => a.1 ≠ b.1 := by
    refine List.Pairwise.imp ?_ (Std.ExtTreeMap.distinct_keys_toList (t := conditions))
    intro a b hab heq
    exact hab (by rw [heq]; exact Std.ReflCmp.compare_self)
  obtain ⟨stored, hstored⟩ : ∃ stored, (conditions.toList.map (insertConditionRow p)).foldlM
      (fun rows run => run rows) { rows with conditions := rows.conditions.erase p } =
        some stored := exists_insertConditions p hkinds (by simp)
  unfold replacePlayerConditions
  simp only [bind_eq_ok, ensureStored_eq_ok, committed_eq_ok, statements_eq_ok, List.length_cons,
    List.length_map]
  constructor
  · rintro ⟨rows', -, rows₁, ⟨hanswers, hrow, rfl⟩, hopens, hcommits, hexecutes, -⟩
    exact ⟨hrow, hanswers, hopens, fun i hi => by simpa using hexecutes i hi, hcommits⟩
  · rintro ⟨hrow, hanswers, hopens, hexecutes, hcommits⟩
    exact ⟨stored, (), rows, ⟨hanswers, hrow, rfl⟩, hopens, hcommits,
      fun i hi => by simpa using hexecutes i hi, hstored⟩

section Finish

variable {persistence : CastPersistence} {request : CastRequest} {p : ℕ} {s : CastState}

theorem onRows_eq_ok {α : Type} {method : CastRowsM α} {a : α} {rows : CastRows}
    (h : method s.rows = (.ok a, rows)) : onRows method s = (.ok a, { s with rows }) := by
  simp only [onRows, zoom, h]

theorem onRows_eq_error {α : Type} {method : CastRowsM α} {e : CastError} {rows : CastRows}
    (h : method s.rows = (.error e, rows)) : onRows method s = (.error e, { s with rows }) := by
  simp only [onRows, zoom, h]

theorem onSharedWorld_of_ok {α : Type} {method : GameM α} {a : α} {w : GameWorld}
    (h : method s.world = (.ok a, w)) :
    onSharedWorld method s = (.ok a, { s with world := w }) := by
  simp only [onSharedWorld, h]

theorem onSharedWorld_of_error {α : Type} {method : GameM α} {e : CoreError} {w : GameWorld}
    (h : method s.world = (.error e, w)) :
    onSharedWorld method s = (.error (.core e), { s with world := w }) := by
  simp only [onSharedWorld, h]

/-- The conditions of a player with the haste of a spell. -/
def hastened (w : GameWorld) (p percent : ℕ) : PlayerConditions :=
  (w.playerConditions[p]?.getD ∅).insert .haste
    ⟨.haste, 1, 0, percent, nativeHasteDurationSeconds, 0⟩

/-- The speed of a spell can be given and stored. -/
structure SpeedSettles (persistence : CastPersistence) (p percent : ℕ) (w : GameWorld)
    (rows : CastRows) : Prop where
  registered : w.players[p]? ≠ none
  bounds : 1 ≤ percent ∧ percent ≤ maxSpeedBonusPercent
  row : rows.vitals[p]? ≠ none
  replace : persistence.replace.Goes ((hastened w p percent).toList.length + 1)

/-- **The speed of a spell** leaves the vitals, and goes through when it can. -/
theorem applySpellSpeed_cases (persistence : CastPersistence) (p : ℕ) (speedPercent : Option ℕ)
    (s : CastState) :
    (applySpellSpeed persistence p speedPercent s).2.world.playerVitals = s.world.playerVitals ∧
      ((∃ t, applySpellSpeed persistence p speedPercent s = (.ok (), t)) ↔
        ∀ percent, speedPercent = some percent →
          SpeedSettles persistence p percent s.world s.rows) := by
  cases speedPercent with
  | none =>
    refine ⟨rfl, ?_⟩
    constructor
    · rintro - percent ⟨⟩
    · exact fun _ => ⟨s, rfl⟩
  | some percent =>
  simp only [applySpellSpeed, Option.some.injEq, forall_eq']
  by_cases hcan : s.world.players[p]? ≠ none ∧ 1 ≤ percent ∧ percent ≤ maxSpeedBonusPercent
  · obtain ⟨hregistered, hbounds⟩ := hcan
    obtain ⟨player, hplayer⟩ := Option.ne_none_iff_exists'.mp hregistered
    have hrequire : requirePlayer p s.world = (.ok player, s.world) := readOr_of_some _ hplayer
    have hhaste : PlayerCondition.newHaste percent nativeHasteDurationSeconds =
        .ok ⟨.haste, 1, 0, percent, nativeHasteDurationSeconds, 0⟩ := by
      unfold PlayerCondition.newHaste
      rw [if_neg]
      rintro (h | h | h | h)
      · omega
      · omega
      · cases h
      · exact absurd h (by decide)
    have happly : applyPlayerSpeedCondition p percent nativeHasteDurationSeconds s.world =
        (.ok true, (markChanged (s.world.putConditions p (hastened s.world p percent))).2) := by
      unfold applyPlayerSpeedCondition
      rw [bind_of_ok hrequire, hhaste]
      rfl
    have hconditions : entryOf (·.playerConditions) p
        (markChanged (s.world.putConditions p (hastened s.world p percent))).2 =
        (.ok (hastened s.world p percent),
          (markChanged (s.world.putConditions p (hastened s.world p percent))).2) :=
      readOr_of_some _ Std.ExtTreeMap.getElem?_insert_self
    rw [bind_of_ok (onSharedWorld_of_ok happly), bind_of_ok (onSharedWorld_of_ok hconditions)]
    refine ⟨rfl, ?_⟩
    have hstores := replaceConditions_iff persistence.replace p (hastened s.world p percent) s.rows
    constructor
    · rintro ⟨t, ht⟩
      have hrun : (replacePlayerConditions persistence.replace p (hastened s.world p percent)
          s.rows).1 = .ok () := congrArg Prod.fst ht
      obtain ⟨hrow, hgoes⟩ := hstores.mp ⟨_, Prod.ext hrun rfl⟩
      exact ⟨hregistered, hbounds, hrow, hgoes⟩
    · intro hsettles
      obtain ⟨rows', hrun⟩ := hstores.mpr ⟨hsettles.row, hsettles.replace⟩
      exact ⟨_, onRows_eq_ok hrun⟩
  · -- the condition is refused
    have hrefused : ∃ e, applyPlayerSpeedCondition p percent nativeHasteDurationSeconds s.world =
        (.error e, s.world) := by
      unfold applyPlayerSpeedCondition
      cases hplayer : s.world.players[p]? with
      | none =>
        have hrequire : requirePlayer p s.world = (.error (.unknownPlayer p), s.world) :=
          readOr_of_none _ hplayer
        exact ⟨_, bind_of_error hrequire⟩
      | some player =>
        have hrequire : requirePlayer p s.world = (.ok player, s.world) := readOr_of_some _ hplayer
        have hbounds : percent = 0 ∨ maxSpeedBonusPercent < percent := by
          rw [hplayer] at hcan
          by_contra hnone
          exact hcan ⟨by simp, by omega, by omega⟩
        have hhaste : PlayerCondition.newHaste percent nativeHasteDurationSeconds =
            .error .invalidPlayerCondition := by
          unfold PlayerCondition.newHaste
          rw [if_pos (by tauto)]
        rw [bind_of_ok hrequire, hhaste]
        exact ⟨_, rfl⟩
    obtain ⟨e, he⟩ := hrefused
    rw [bind_of_error (onSharedWorld_of_error he)]
    refine ⟨rfl, ?_⟩
    constructor
    · rintro ⟨t, ht⟩
      cases ht
    · exact fun h => absurd ⟨h.registered, h.bounds⟩ hcan

/-- Everything after the payment can be done: the counters and the vitals can be stored, and so
can the speed of the spell. -/
structure Settles (persistence : CastPersistence) (request : CastRequest)
    (definition : DeclarativeSpellDefinition) (rules : PlayerProgressionRules)
    (vitals : PlayerVitals) (w : GameWorld) (rows : CastRows) : Prop where
  counters : ∃ attempts, w.playerProgressionAttempts[request.casterId]? = some attempts ∧
    (∀ skill, attempts.skillTries skill ≤ i64Max) ∧
    (advanceMagicMana vitals.magicLevel attempts.magicMana
      (saturatingMul definition.manaCost request.magicRate) rules).2.1 ≤ i64Max
  valid : vitals.isValid = true
  row : rows.vitals[request.casterId]? ≠ none
  update : persistence.update.Goes 2
  speed : ∀ percent, definition.speedPercent = some percent →
    SpeedSettles persistence request.casterId percent w rows

/-- **What follows the payment** leaves the mana, and goes through when everything can be done. -/
theorem finishCast_cases {definition : DeclarativeSpellDefinition} {rules : PlayerProgressionRules}
    {cast : PlayerSpellCastOutcome} {vitals : PlayerVitals}
    (hspent : cast.manaSpent = definition.manaCost)
    (hvitals : s.world.playerVitals[request.casterId]? = some vitals) :
    (∃ left : PlayerVitals,
      (finishCast persistence request definition rules cast s).2.world.playerVitals[
        request.casterId]? = some left ∧ left.mana = vitals.mana) ∧
      ((∃ a t, finishCast persistence request definition rules cast s = (.ok a, t)) ↔
        Settles persistence request definition rules vitals s.world s.rows) := by
  unfold finishCast
  rw [hspent]
  cases hattempts : s.world.playerProgressionAttempts[request.casterId]? with
  | none =>
    rw [bind_of_error (onSharedWorld_of_error (magicMana_error rules hattempts))]
    refine ⟨⟨vitals, hvitals, rfl⟩, ?_⟩
    constructor
    · rintro ⟨a, t, h⟩
      cases h
    · intro h
      obtain ⟨attempts, hsome, -⟩ := h.counters
      rw [hattempts] at hsome
      cases hsome
  | some attempts =>
  obtain ⟨outcome, w, hrun, hleft, hcounters, hplayers, hconditions⟩ := magicMana_run
    (saturatingMul definition.manaCost request.magicRate) rules hvitals hattempts
  obtain ⟨left, hleft', hmana⟩ : ∃ left : PlayerVitals,
      w.playerVitals[request.casterId]? = some left ∧ left.mana = vitals.mana := ⟨_, hleft, rfl⟩
  have hread : playerVitals request.casterId w = (.ok _, w) := readOr_of_some _ hleft
  have hread' : entryOf GameWorld.playerProgressionAttempts request.casterId w = (.ok _, w) :=
    readOr_of_some _ hcounters
  simp only [bind_of_ok (onSharedWorld_of_ok hrun),
    bind_of_ok (onSharedWorld_of_ok (s := { s with world := w }) hread),
    bind_of_ok (onSharedWorld_of_ok (s := { s with world := w }) hread')]
  have hstores := updateVitalsAndAttempts_iff persistence.update request.casterId
    (advancedVitals rules (saturatingMul definition.manaCost request.magicRate) vitals attempts)
    (advancedAttempts rules (saturatingMul definition.manaCost request.magicRate) vitals attempts)
    s.rows
  rcases hupdate : updatePlayerVitalsAndProgressionAttempts persistence.update request.casterId
      (advancedVitals rules (saturatingMul definition.manaCost request.magicRate) vitals attempts)
      (advancedAttempts rules (saturatingMul definition.manaCost request.magicRate) vitals attempts)
      s.rows with ⟨e | u, rows'⟩
  · have hfails := onRows_eq_error (s := { s with world := w }) hupdate
    rw [bind_of_error hfails]
    refine ⟨⟨left, hleft', hmana⟩, ?_⟩
    constructor
    · rintro ⟨a, t, h⟩
      cases h
    · intro h
      obtain ⟨attempts', hsome, htries, hcounter⟩ := h.counters
      obtain rfl : attempts = attempts' := Option.some.inj (hattempts.symm.trans hsome)
      obtain ⟨rows'', hrun'⟩ := hstores.mpr ⟨h.valid, h.row, ⟨htries, hcounter⟩, h.update⟩
      rw [hupdate] at hrun'
      cases hrun'
  · have hgoes := onRows_eq_ok (s := { s with world := w }) hupdate
    rw [bind_of_ok hgoes]
    obtain ⟨hkept, hspeed⟩ := applySpellSpeed_cases persistence request.casterId
      definition.speedPercent { s with world := w, rows := rows' }
    obtain ⟨hvalid, hrow, ⟨htries, hcounter⟩, hgoes'⟩ := hstores.mp ⟨rows', hupdate⟩
    have hsame (percent : ℕ) : SpeedSettles persistence request.casterId percent w rows' ↔
        SpeedSettles persistence request.casterId percent s.world s.rows := by
      have hhaste : hastened w request.casterId percent =
          hastened s.world request.casterId percent := by rw [hastened, hastened, hconditions]
      constructor
      · exact fun h => ⟨hplayers ▸ h.registered, h.bounds, hrow, hhaste ▸ h.replace⟩
      · exact fun h => ⟨hplayers.symm ▸ h.registered, h.bounds, updateVitalsAndAttempts_row hupdate,
          hhaste.symm ▸ h.replace⟩
    rcases hrest : applySpellSpeed persistence request.casterId definition.speedPercent
        { s with world := w, rows := rows' } with ⟨e | u', t⟩
    · rw [bind_of_error hrest]
      rw [hrest] at hkept hspeed
      refine ⟨⟨left, ?_, hmana⟩, ?_⟩
      · rw [hkept]
        exact hleft'
      constructor
      · rintro ⟨a, t, h⟩
        cases h
      · intro h
        obtain ⟨t', ht'⟩ := hspeed.mpr fun percent hp => (hsame percent).mpr (h.speed percent hp)
        cases ht'
    · rw [bind_of_ok hrest]
      rw [hrest] at hkept hspeed
      refine ⟨⟨left, ?_, hmana⟩, ?_⟩
      · show t.world.playerVitals[request.casterId]? = _
        rw [hkept]
        exact hleft'
      constructor
      · exact fun _ => ⟨⟨attempts, hattempts, htries, hcounter⟩, hvalid, hrow, hgoes',
          fun percent hp => (hsame percent).mp (hspeed.mp ⟨t, rfl⟩ percent hp)⟩
      · exact fun _ => ⟨_, _, rfl⟩

end Finish

/-! ### Failed casts -/

/-- The event of a spell. -/
def DeclarativeSpellDefinition.event (self : DeclarativeSpellDefinition) (casterId : ℕ) :
    PlayerSpellCastEvent := ⟨casterId, self.spellId, self.manaCost, self.intervalTicks⟩

/-- The cast is paid for: the spell is declared, the caster's vocation has rules, and the world
accepts the event. -/
structure Paid (request : CastRequest) (w : GameWorld) (definition : DeclarativeSpellDefinition)
    (rules : PlayerProgressionRules) (vitals : PlayerVitals) : Prop where
  declared : request.catalog[request.spellId]? = some definition
  progression : ∃ progression, w.playerProgressions[request.casterId]? = some progression ∧
    request.rulesByVocation[progression.vocation]? = some rules
  castable : Castable w (definition.event request.casterId) vitals

section Failure

variable {persistence : CastPersistence} {request : CastRequest} {s : CastState}
  {definition : DeclarativeSpellDefinition} {rules : PlayerProgressionRules} {vitals : PlayerVitals}

/-- What is left to do for a cast that is paid for. -/
theorem paid_run (h : Paid request s.world definition rules vitals) :
    applyAndPersistNativeDeclarativeSpellCast persistence request s =
      finishCast persistence request definition rules
        (paidOutcome s.world (definition.event request.casterId) vitals)
        { s with world := paidWorld s.world (definition.event request.casterId) vitals } := by
  obtain ⟨hdeclared, ⟨progression, hprogression, hrules⟩, hcastable⟩ := h
  have hevent : definition.castEvent request.casterId =
      .ok (definition.event request.casterId) := by
    unfold DeclarativeSpellDefinition.castEvent PlayerSpellCastEvent.new
    rw [if_neg fun hbad => hcastable.bounds (by tauto)]
    rfl
  have hread : entryOf GameWorld.playerProgressions request.casterId s.world =
      (.ok progression, s.world) := readOr_of_some _ hprogression
  unfold applyAndPersistNativeDeclarativeSpellCast
  rw [hdeclared, bind_of_ok (ofOption_some _ _ _), hevent]
  show (onSharedWorld (entryOf GameWorld.playerProgressions request.casterId) >>= _) s = _
  rw [bind_of_ok (onSharedWorld_of_ok hread), hrules, bind_of_ok (ofOption_some _ _ _),
    bind_of_ok (onSharedWorld_of_ok (castable_run hcastable))]

/-- A cast that is not paid for fails, and nothing has happened. -/
theorem refused_run (persistence : CastPersistence)
    (h : ¬∃ definition rules vitals, Paid request s.world definition rules vitals) :
    ∃ e, applyAndPersistNativeDeclarativeSpellCast persistence request s = (.error e, s) := by
  unfold applyAndPersistNativeDeclarativeSpellCast
  cases hdeclared : request.catalog[request.spellId]? with
  | none => exact ⟨_, rfl⟩
  | some definition =>
  rw [bind_of_ok (ofOption_some _ _ _)]
  cases hevent : definition.castEvent request.casterId with
  | error e => exact ⟨_, rfl⟩
  | ok event =>
  show ∃ e, (onSharedWorld (entryOf GameWorld.playerProgressions request.casterId) >>= _) s =
    (.error e, s)
  cases hprogression : s.world.playerProgressions[request.casterId]? with
  | none =>
    have hread : entryOf GameWorld.playerProgressions request.casterId s.world =
        (.error (.unknownPlayer request.casterId), s.world) := readOr_of_none _ hprogression
    exact ⟨_, bind_of_error (onSharedWorld_of_error hread)⟩
  | some progression =>
  have hread : entryOf GameWorld.playerProgressions request.casterId s.world =
      (.ok progression, s.world) := readOr_of_some _ hprogression
  rw [bind_of_ok (onSharedWorld_of_ok hread)]
  cases hrules : request.rulesByVocation[progression.vocation]? with
  | none => exact ⟨_, rfl⟩
  | some rules =>
  rw [bind_of_ok (ofOption_some _ _ _)]
  have hsame : event = definition.event request.casterId := by
    unfold DeclarativeSpellDefinition.castEvent PlayerSpellCastEvent.new at hevent
    split_ifs at hevent
    · cases hevent
    · exact (Except.ok.inj hevent).symm
  rcases spellCast_cases event s.world with ⟨e, hrefused⟩ | ⟨vitals, hcastable⟩
  · exact ⟨_, bind_of_error (onSharedWorld_of_error hrefused)⟩
  · rw [hsame] at hcastable
    exact absurd ⟨definition, rules, vitals, hdeclared, ⟨progression, hprogression, hrules⟩,
      hcastable⟩ h

/-- The payment changes nothing the later steps depend on, the vitals apart. -/
theorem settles_paidWorld (event : PlayerSpellCastEvent) (vitals : PlayerVitals)
    {left : PlayerVitals} {w : GameWorld} {rows : CastRows} :
    Settles persistence request definition rules left (paidWorld w event vitals) rows ↔
      Settles persistence request definition rules left w rows := by
  constructor
  · intro h
    refine ⟨h.counters, h.valid, h.row, h.update, fun percent hp => ?_⟩
    obtain ⟨hregistered, hbounds, hrow, hreplace⟩ := h.speed percent hp
    exact ⟨hregistered, hbounds, hrow, hreplace⟩
  · intro h
    refine ⟨h.counters, h.valid, h.row, h.update, fun percent hp => ?_⟩
    obtain ⟨hregistered, hbounds, hrow, hreplace⟩ := h.speed percent hp
    exact ⟨hregistered, hbounds, hrow, hreplace⟩

/-- **A cast that is paid for** keeps the payment, and goes through when everything after it can be
done. -/
theorem paidCast_cases (persistence : CastPersistence)
    (hpaid : Paid request s.world definition rules vitals) :
    (∃ left : PlayerVitals,
      (applyAndPersistNativeDeclarativeSpellCast persistence request s).2.world.playerVitals[
        request.casterId]? = some left ∧ left.mana = vitals.mana - definition.manaCost) ∧
      ((∃ a t, applyAndPersistNativeDeclarativeSpellCast persistence request s = (.ok a, t)) ↔
        Settles persistence request definition rules
          (paidVitals (definition.event request.casterId) vitals) s.world s.rows) := by
  rw [paid_run hpaid, ← settles_paidWorld (definition.event request.casterId) vitals]
  have hentry : (paidWorld s.world (definition.event request.casterId) vitals).playerVitals[
      request.casterId]? = some (paidVitals (definition.event request.casterId) vitals) :=
    paidWorld_vitals
  exact finishCast_cases (s := { s with
    world := paidWorld s.world (definition.event request.casterId) vitals }) rfl hentry

/-- **When a failed cast has left the world alone**: exactly when a cast that is paid for can also
do everything after the payment. -/
theorem castFailure_iff (persistence : CastPersistence) (request : CastRequest) (s : CastState) :
    (∀ e t, applyAndPersistNativeDeclarativeSpellCast persistence request s = (.error e, t) →
        t.world = s.world ∧ t.vitalsEpoch = s.vitalsEpoch) ↔
      ∀ definition rules vitals, Paid request s.world definition rules vitals →
        Settles persistence request definition rules
          (paidVitals (definition.event request.casterId) vitals) s.world s.rows := by
  constructor
  · intro hunchanged definition rules vitals hpaid
    obtain ⟨⟨left, hleft, hmana⟩, hgoes⟩ := paidCast_cases persistence hpaid
    rcases hrun : applyAndPersistNativeDeclarativeSpellCast persistence request s with ⟨e | a, t⟩
    · -- the mana has been spent
      have hentry : s.world.playerVitals[request.casterId]? = some vitals := hpaid.castable.entry
      rw [hrun, (hunchanged e t hrun).1, hentry] at hleft
      cases hleft
      have hcost : definition.manaCost ≠ 0 := fun hzero =>
        hpaid.castable.bounds (.inr (.inl hzero))
      have henough : definition.manaCost ≤ vitals.mana := hpaid.castable.mana
      omega
    · exact hgoes.mp ⟨a, t, hrun⟩
  · intro hsettles e t hfailed
    by_cases hpaid : ∃ definition rules vitals, Paid request s.world definition rules vitals
    · obtain ⟨definition, rules, vitals, hpaid⟩ := hpaid
      obtain ⟨a, t', hgone⟩ :=
        (paidCast_cases persistence hpaid).2.mpr (hsettles definition rules vitals hpaid)
      rw [hfailed] at hgone
      cases hgone
    · obtain ⟨e', hrefused⟩ := refused_run persistence hpaid
      rw [hrefused] at hfailed
      cases hfailed
      exact ⟨rfl, rfl⟩

end Failure

/-! ### A refused transaction -/

/-- A sorcerer with fifty mana, in the world and in the database. -/
def sorcererState : CastState where
  world := { GameWorld.empty with
    players := (∅ : BTreeMap ℕ Player).insert 108 ⟨108, 1, "Sorcerer", ⟨100, 100, 7⟩, 8, 4900, 3⟩
    playerVitals := (∅ : BTreeMap ℕ PlayerVitals).insert 108 {}
    playerRespawnStates := (∅ : BTreeMap ℕ PlayerRespawnState).insert 108 {}
    playerProgressions := (∅ : BTreeMap ℕ PlayerProgression).insert 108 {}
    playerProgressionAttempts := (∅ : BTreeMap ℕ PlayerProgressionAttempts).insert 108 {}
    playerSpellCooldowns := (∅ : BTreeMap ℕ PlayerSpellCooldown).insert 108 {} }
  rows := ⟨(∅ : BTreeMap ℕ PlayerVitals).insert 108 {}, ∅, ∅⟩
  vitalsEpoch := 0

/-- He casts a spell of twenty mana. -/
def sorcererRequest : CastRequest where
  casterId := 108
  spellId := 100
  catalog := (∅ : DeclarativeSpellCatalog).insert 100 ⟨100, 20, 2, none⟩
  rulesByVocation := (∅ : BTreeMap ℕ PlayerProgressionRules).insert 0
    ⟨fun _ _ => 1600, fun _ => 1600⟩
  magicRate := 2

/-- The database does what it is asked for, but for the commit. -/
def refusesCommit : MethodOutcome := ⟨true, ⟨true, fun _ => true, false⟩⟩

/-- **A failed cast has spent the mana** and started the cooldown. -/
theorem failedCast_spends :
    ¬∀ e t, applyAndPersistNativeDeclarativeSpellCast ⟨refusesCommit, refusesCommit⟩
      sorcererRequest sorcererState = (.error e, t) →
        t.world = sorcererState.world ∧ t.vitalsEpoch = sorcererState.vitalsEpoch := by
  intro hunchanged
  have hfailed : (applyAndPersistNativeDeclarativeSpellCast ⟨refusesCommit, refusesCommit⟩
      sorcererRequest sorcererState).1.toOption.isNone = true := by decide +kernel
  have hspent : (applyAndPersistNativeDeclarativeSpellCast ⟨refusesCommit, refusesCommit⟩
      sorcererRequest sorcererState).2.world.playerVitals[108]?.map PlayerVitals.mana =
        some 30 := by decide +kernel
  rcases hrun : applyAndPersistNativeDeclarativeSpellCast ⟨refusesCommit, refusesCommit⟩
      sorcererRequest sorcererState with ⟨e | a, t⟩
  · rw [hrun, (hunchanged e t hrun).1] at hspent
    revert hspent
    decide +kernel
  · rw [hrun] at hfailed
    cases hfailed

end ForgottenEngine
