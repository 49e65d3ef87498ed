import ForgottenEngine.WorldMap
import ForgottenEngine.World

/-!
# Players and static creatures on the map

`LivingWorld` adds to the inventory tables of the world what moves and dies in it: vitals,
conditions, interaction intents, the static creatures, and the index of the tiles the active ones
stand on.  The methods follow the source one by one.

A static creature is installed from the import, summoned by an operator, moved, deactivated when
it dies, and put back on its spawn tile by a reset or by its due reactivation.  Each of these
writes checks occupancy for itself, and most of them through the index
`staticOccupiedPositions`, which every write of the registry recomputes.

Lower-casing of names is a parameter: nothing depends on which characters it maps to which.
-/

namespace ForgottenEngine

open Fallible

/-! ### Creature data -/

def maxTfsStaticSpawns : ℕ := 65536

/-- The first id of the summons; imported creatures stay below it. -/
def dynamicIdBase : ℕ := 0x70000000

/-- The position of a summonable template that has no place on the map. -/
def unplacedOrigin : Position := ⟨0, 0, 0⟩

def saturatingAdd (a b : ℕ) : ℕ := min (a + b) u64Max

/-- The characters `str::trim` removes. -/
def isWhitespace (c : Char) : Bool :=
  (9 ≤ c.toNat ∧ c.toNat ≤ 13) ∨ c.toNat = 32 ∨ c.toNat = 0x85 ∨ c.toNat = 0xA0 ∨
    c.toNat = 0x1680 ∨ (0x2000 ≤ c.toNat ∧ c.toNat ≤ 0x200A) ∨ c.toNat = 0x2028 ∨
    c.toNat = 0x2029 ∨ c.toNat = 0x202F ∨ c.toNat = 0x205F ∨ c.toNat = 0x3000

def trim (text : String) : String :=
  String.ofList ((text.toList.dropWhile isWhitespace).reverse.dropWhile isWhitespace).reverse

/-- The tile one step away, unless the step leaves the 16-bit map. -/
def Position.step (self : Position) (direction : CardinalDirection) : Except CoreError Position :=
  let destination : Option ℕ × Option ℕ := match direction with
    | .north => (some self.x, if self.y = 0 then none else some (self.y - 1))
    | .east => (if u16Max ≤ self.x then none else some (self.x + 1), some self.y)
    | .south => (some self.x, if u16Max ≤ self.y then none else some (self.y + 1))
    | .west => (if self.x = 0 then none else some (self.x - 1), some self.y)
  match destination with
  | (some x, some y) => .ok ⟨x, y, self.z⟩
  | _ => .error (.mapBoundary self)

structure FeTfsStaticEntity where
  id : ℕ
  name : String
  position : Position
  healthPercent : ℕ
  direction : ℕ
deriving DecidableEq, Repr

structure StaticCreatureSpawnArea where
  center : Position
  radius : ℕ
deriving DecidableEq, Repr

def StaticCreatureSpawnArea.contains (self : StaticCreatureSpawnArea) (position : Position) :
    Bool :=
  position.z = self.center.z ∧ Position.absDiff position.x self.center.x ≤ self.radius ∧
    Position.absDiff position.y self.center.y ≤ self.radius

structure StaticCreatureDirectMeleeDamageRange where
  minDamage : ℕ
  maxDamage : ℕ
deriving DecidableEq, Repr

structure FeTfsStaticSpawnCollection where
  entities : List FeTfsStaticEntity
  respawnIntervalsSeconds : BTreeMap ℕ ℕ := ∅
  directMeleeIntervalsMillis : BTreeMap ℕ ℕ := ∅
  directMeleeDamageRanges : BTreeMap ℕ StaticCreatureDirectMeleeDamageRange := ∅
  npcIds : Finset ℕ := ∅
  monsterSpawnAreas : BTreeMap ℕ StaticCreatureSpawnArea := ∅

/-- An installed creature, with its lifecycle. -/
@[ext]
structure StaticCreatureRuntime where
  entity : FeTfsStaticEntity
  isNpc : Bool
  spawnPosition : Position
  monsterSpawnArea : Option StaticCreatureSpawnArea
  active : Bool
  healthPercent : ℕ
  activatedAtTick : ℕ
  inactiveSinceTick : Option ℕ
  reactivationDueTick : Option ℕ
  respawnIntervalSeconds : ℕ
  meleeCooldownTicks : Option ℕ
  nextMeleeDueTick : ℕ
  directMeleeDamageRange : Option StaticCreatureDirectMeleeDamageRange
  directMeleeDamageSequence : ℕ
  targetPlayerId : Option ℕ
deriving DecidableEq, Repr

/-- One record of a restart snapshot. -/
structure StaticCreatureRuntimeSnapshot where
  id : ℕ
  position : Position
  active : Bool
  healthPercent : ℕ
  reactivationRemainingSeconds : Option ℕ
  directMeleeCooldownRemainingTicks : Option ℕ
  directMeleeDamageSequence : ℕ
deriving DecidableEq, Repr

structure StaticCreatureResetSummary where
  reactivated : ℕ := 0
  deferredByPlayerOccupancy : ℕ := 0
  deferredByStaticCreatureOccupancy : ℕ := 0
deriving DecidableEq, Repr

/-! ### The living world -/

structure PlayerVitals where
  health : ℕ := 150
  maxHealth : ℕ := 150
  mana : ℕ := 50
  maxMana : ℕ := 50
  capacity : ℕ := 40000
  magicLevel : ℕ := 0
deriving DecidableEq, Repr

def PlayerVitals.isValid (self : PlayerVitals) : Bool :=
  0 < self.maxHealth ∧ self.health ≤ self.maxHealth ∧ self.mana ≤ self.maxMana

inductive PlayerConditionKind where
  | poison | burning | energy | haste
deriving DecidableEq, Repr

namespace PlayerConditionKind

def code : PlayerConditionKind → ℕ
  | poison => 0
  | burning => 1
  | energy => 2
  | haste => 3

instance : Ord PlayerConditionKind := ⟨compareOn code⟩

instance : Std.TransOrd PlayerConditionKind :=
  inferInstanceAs (Std.TransCmp (compareOn code))

instance : Std.LawfulEqOrd PlayerConditionKind where
  eq_of_compare := by
    intro a b h
    cases a <;> cases b <;> simp_all +decide

end PlayerConditionKind

structure PlayerCondition where
  kind : PlayerConditionKind
  intervalSeconds : ℕ
  damage : ℕ
  speedBonusPercent : ℕ
  remainingSeconds : ℕ
  elapsedSeconds : ℕ
deriving DecidableEq, Repr

structure PlayerInteractionIntent where
  targetPlayerId : Option ℕ := none
  targetStaticCreatureId : Option ℕ := none
  followPlayerId : Option ℕ := none
deriving DecidableEq, Repr

/-- The intent names somebody. -/
def PlayerInteractionIntent.isEngaged (self : PlayerInteractionIntent) : Bool :=
  self.targetPlayerId.isSome || self.targetStaticCreatureId.isSome || self.followPlayerId.isSome

@[ext]
structure LivingWorld extends WorldState where
  playerVitals : BTreeMap ℕ PlayerVitals
  playerConditions : BTreeMap ℕ (BTreeMap PlayerConditionKind PlayerCondition)
  playerInteractions : BTreeMap ℕ PlayerInteractionIntent
  staticCreatures : BTreeMap ℕ StaticCreatureRuntime
  staticOccupiedPositions : Finset Position

namespace LivingWorld

def empty : LivingWorld := ⟨.empty, ∅, ∅, ∅, ∅, ∅⟩

instance : Inhabited LivingWorld := ⟨empty⟩

/-- Somebody stands on the tile. -/
def isPlayerOccupied (w : LivingWorld) (position : Position) : Bool :=
  w.players.toList.any fun e => e.2.position = position

/-- An active creature stands on the tile, by the registry itself. -/
def hasActiveAt (w : LivingWorld) (position : Position) : Bool :=
  w.staticCreatures.toList.any fun e => e.2.active && e.2.entity.position = position

/-- The tiles of the active creatures. -/
def activePositions (w : LivingWorld) : Finset Position :=
  ((w.staticCreatures.toList.filter (·.2.active)).map (·.2.entity.position)).toFinset

/-- An active creature stands on the tile, by the index. -/
def isStaticCreatureOccupied (w : LivingWorld) (position : Position) : Bool :=
  position ∈ w.staticOccupiedPositions

def refreshStaticCreatureOccupancy (w : LivingWorld) : LivingWorld :=
  { w with staticOccupiedPositions := w.activePositions }

def changed (w : LivingWorld) : LivingWorld := { w with toWorldState := w.toWorldState.markChanged }

def putPlayer (w : LivingWorld) (playerId : ℕ) (player : Player) : LivingWorld :=
  { w with players := w.players.insert playerId player }

def putCreatures (w : LivingWorld) (creatures : BTreeMap ℕ StaticCreatureRuntime) : LivingWorld :=
  { w with staticCreatures := creatures }

def putInteractions (w : LivingWorld) (intents : BTreeMap ℕ PlayerInteractionIntent) :
    LivingWorld :=
  { w with playerInteractions := intents }

def putRespawnState (w : LivingWorld) (playerId : ℕ) (state : PlayerRespawnState) : LivingWorld :=
  { w with playerRespawnStates := w.playerRespawnStates.insert playerId state }

def putVitals (w : LivingWorld) (playerId : ℕ) (vitals : PlayerVitals) : LivingWorld :=
  { w with playerVitals := w.playerVitals.insert playerId vitals }

end LivingWorld

/-- A method on the living world. -/
abbrev LivingM (α : Type) := Fallible CoreError LivingWorld α

namespace Living

def markChanged : LivingM Unit := write LivingWorld.changed

def playerRespawnState (playerId : ℕ) : LivingM PlayerRespawnState :=
  readOr (·.playerRespawnStates[playerId]?) (.unknownPlayer playerId)

def requirePlayer (playerId : ℕ) : LivingM Player :=
  readOr (·.players[playerId]?) (.unknownPlayer playerId)

/-- Advance the clock by the elapsed seconds; no elapsed second changes nothing. -/
def advanceTicks (elapsedSeconds : ℕ) : LivingM Unit := do
  if elapsedSeconds = 0 then pure ()
  else
    write fun w => { w with tick := saturatingAdd w.tick elapsedSeconds }
    markChanged

/-! ### Registration -/

def addPlayerWithVitals (player : Player) (vitals : PlayerVitals) : LivingM Unit := do
  if (trim player.name).isEmpty then fail .emptyPlayerName
  else if ¬vitals.isValid then fail (.invalidPlayerVitals player.id)
  else
    let registered ← read (·.players[player.id]?)
    let onPlayer ← read (·.isPlayerOccupied player.position)
    let onCreature ← read (·.isStaticCreatureOccupied player.position)
    if registered.isSome then fail (.duplicatePlayer player.id)
    else if onPlayer then fail (.playerOccupiesPosition player.position)
    else if onCreature then fail (.staticCreatureOccupiesPosition player.position)
    else
      write fun w => { w with
        players := w.players.insert player.id player
        playerVitals := w.playerVitals.insert player.id vitals
        playerConditions := w.playerConditions.insert player.id ∅
        playerRespawnStates := w.playerRespawnStates.insert player.id {}
        playerEquipments := w.playerEquipments.insert player.id .empty
        playerContainers := w.playerContainers.insert player.id .empty }
      markChanged

def addPlayer (player : Player) : LivingM Unit := addPlayerWithVitals player {}

/-- The intent without references to a player who is gone or dead. -/
def withoutReferences (playerId : ℕ) (intent : PlayerInteractionIntent) :
    PlayerInteractionIntent :=
  { intent with
    targetPlayerId := if intent.targetPlayerId = some playerId then none else intent.targetPlayerId
    followPlayerId :=
      if intent.followPlayerId = some playerId then none else intent.followPlayerId }

def clearPlayerInteractionReferences (playerId : ℕ) : LivingM Unit :=
  write fun w => w.putInteractions (w.playerInteractions.filterMap fun _ intent =>
    let intent := withoutReferences playerId intent
    if intent.isEngaged then some intent else none)

def removePlayer (playerId : ℕ) : LivingM Player := do
  let player ← requirePlayer playerId
  write fun w => { w with
    players := w.players.erase playerId
    playerVitals := w.playerVitals.erase playerId
    playerConditions := w.playerConditions.erase playerId
    playerRespawnStates := w.playerRespawnStates.erase playerId
    playerEquipments := w.playerEquipments.erase playerId
    playerContainers := w.playerContainers.erase playerId
    playerInteractions := w.playerInteractions.erase playerId }
  clearPlayerInteractionReferences playerId
  write fun w => w.putCreatures (w.staticCreatures.map fun _ runtime =>
    if runtime.targetPlayerId = some playerId then { runtime with targetPlayerId := none }
    else runtime)
  markChanged
  return player

/-- A living player may select another living one. -/
def admitSelected (playerId : ℕ) : Option ℕ → LivingM Unit
  | none => pure ()
  | some selected => do
    let state ← playerRespawnState playerId
    if state.dead then fail (.playerIsDead playerId)
    else if selected = playerId then fail (.selfInteractionNotAllowed playerId)
    else
      let _ ← requirePlayer selected
      let selectedState ← playerRespawnState selected
      if selectedState.dead then fail (.selectedPlayerIsDead selected) else pure ()

/-- Select whom a player follows. -/
def setPlayerFollow (playerId : ℕ) (followPlayerId : Option ℕ) :
    LivingM PlayerInteractionIntent := do
  let _ ← requirePlayer playerId
  let previous ← read fun w => w.playerInteractions[playerId]?.getD {}
  admitSelected playerId followPlayerId
  let intent := { previous with followPlayerId := followPlayerId, targetStaticCreatureId := none }
  write fun w => w.putInteractions (if intent = {} then w.playerInteractions.erase playerId
    else w.playerInteractions.insert playerId intent)
  if previous ≠ intent then markChanged
  return intent

/-! ### Movement, death and respawn -/

def movePlayer (playerId : ℕ) (destination : Position) : LivingM Unit := do
  let state ← playerRespawnState playerId
  let onCreature ← read (·.isStaticCreatureOccupied destination)
  if state.dead then fail (.playerIsDead playerId)
  else if onCreature then fail (.staticCreatureOccupiesPosition destination)
  else
    let player ← requirePlayer playerId
    if ¬player.position.isAdjacentTo destination then
      fail (.invalidMovement player.position destination)
    else
      write (·.putPlayer playerId { player with position := destination })
      markChanged

def movePlayerCardinal (playerId : ℕ) (direction : CardinalDirection) :
    LivingM (Position × Position) := do
  let player ← requirePlayer playerId
  let destination ← ofExcept (player.position.step direction)
  movePlayer playerId destination
  return (player.position, destination)

/-- The directions that bring `source` nearer to `target`, the longer axis first. -/
def preferredDirections (source target : Position) : List CardinalDirection :=
  let x := if target.x < source.x then [CardinalDirection.west]
    else if source.x < target.x then [.east] else []
  let y := if target.y < source.y then [CardinalDirection.north]
    else if source.y < target.y then [.south] else []
  if Position.absDiff source.y target.y ≤ Position.absDiff source.x target.x then x ++ y else y ++ x

/-- Try the directions in turn; take the first free one. -/
def followStep (worldMap : WorldMap) (playerId : ℕ) (source : Position) :
    List CardinalDirection → LivingM Bool
  | [] => return false
  | direction :: rest => do
    let destination ← ofExcept (source.step direction)
    let onCreature ← read (·.isStaticCreatureOccupied destination)
    let onOther ← read fun w =>
      w.players.toList.any fun e => e.2.id ≠ playerId ∧ e.2.position = destination
    if ¬worldMap.isWalkable destination ∨ onCreature ∨ onOther then
      followStep worldMap playerId source rest
    else
      let _ ← movePlayerCardinal playerId direction
      return true

/-- One player's turn in the follow pass. -/
def followTurn (worldMap : WorldMap) (moved : Finset ℕ) (playerId : ℕ) : LivingM (Finset ℕ) := do
  let intent ← read (·.playerInteractions[playerId]?)
  match intent.bind PlayerInteractionIntent.followPlayerId with
  | none => return moved
  | some targetId => do
    let source ← read (·.players[playerId]?)
    let target ← read (·.players[targetId]?)
    match source, target with
    | some source, some target => do
      let state ← playerRespawnState playerId
      let targetState ← playerRespawnState targetId
      if state.dead ∨ targetState.dead ∨ source.position.isAdjacentTo target.position ∨
          source.position.z ≠ target.position.z then return moved
      else
        let stepped ← followStep worldMap playerId source.position
          (preferredDirections source.position target.position)
        return if stepped then insert playerId moved else moved
    | _, _ => return moved

/-- One follow pass over the players registered when it starts. -/
def followPlayerTargetsOnce (worldMap : WorldMap) : LivingM (Finset ℕ) := do
  let playerIds ← read fun w => w.players.toList.map Prod.fst
  playerIds.foldlM (followTurn worldMap) ∅

def teleportPlayer (playerId : ℕ) (destination : Position) : LivingM (Position × Position) := do
  let state ← playerRespawnState playerId
  let onCreature ← read (·.isStaticCreatureOccupied destination)
  let onOther ← read fun w =>
    w.players.toList.any fun e => e.2.id ≠ playerId ∧ e.2.position = destination
  if state.dead then fail (.playerIsDead playerId)
  else if onCreature then fail (.staticCreatureOccupiesPosition destination)
  else if onOther then fail (.playerOccupiesPosition destination)
  else
    let player ← requirePlayer playerId
    write (·.putPlayer playerId { player with position := destination })
    markChanged
    return (player.position, destination)

def hydratePlayerRespawnState (playerId : ℕ) (state : PlayerRespawnState) : LivingM Bool := do
  let _ ← requirePlayer playerId
  if ¬(if state.dead then state.respawnAt.isSome ∧ state.deathTime.isSome else state = {}) then
    fail (.invalidPlayerRespawnState playerId)
  else
    let current ← playerRespawnState playerId
    if current = state then return false
    else
      write (·.putRespawnState playerId state)
      markChanged
      return true

def applyPlayerDeath (playerId townId : ℕ) (worldMap : WorldMap) :
    LivingM PlayerRespawnState := do
  let _ ← requirePlayer playerId
  let existing ← playerRespawnState playerId
  if existing.dead then return existing
  else
    let respawnAt ← ofOption (worldMap.templePositionForTown townId) (.unknownTown townId)
    let vitals ← readOr (·.playerVitals[playerId]?) (.unknownPlayer playerId)
    write (·.putVitals playerId { vitals with health := 0 })
    let _ ← readOr (·.playerConditions[playerId]?) (.unknownPlayer playerId)
    write fun w => { w with playerConditions := w.playerConditions.insert playerId ∅ }
    let now ← read fun w => w.tick
    let state : PlayerRespawnState := ⟨true, some respawnAt, some now, false⟩
    write (·.putRespawnState playerId state)
    clearPlayerInteractionReferences playerId
    markChanged
    return state

def respawnPlayer (playerId : ℕ) : LivingM (Position × PlayerVitals) := do
  let _ ← requirePlayer playerId
  let state ← playerRespawnState playerId
  if ¬state.dead then fail (.playerIsNotDead playerId)
  else
    let position ← ofOption state.respawnAt (.missingRespawnPosition playerId)
    let onCreature ← read (·.isStaticCreatureOccupied position)
    let onOther ← read fun w =>
      w.players.toList.any fun e => e.1 ≠ playerId ∧ e.2.position = position
    if onCreature then fail (.staticCreatureOccupiesPosition position)
    else if onOther then fail (.playerOccupiesPosition position)
    else
      let vitals ← readOr (·.playerVitals[playerId]?) (.unknownPlayer playerId)
      let vitals := { vitals with health := vitals.maxHealth, mana := vitals.maxMana }
      write (·.putVitals playerId vitals)
      let player ← requirePlayer playerId
      write (·.putPlayer playerId { player with position := position })
      write (·.putRespawnState playerId {})
      markChanged
      return (position, vitals)

/-! ### The registry of static creatures -/

/-- The lifecycle a collection gives to one of its entities. -/
def installedRuntime (collection : FeTfsStaticSpawnCollection) (tick : ℕ)
    (entity : FeTfsStaticEntity) : StaticCreatureRuntime where
  entity := entity
  isNpc := entity.id ∈ collection.npcIds
  spawnPosition := entity.position
  monsterSpawnArea := collection.monsterSpawnAreas[entity.id]?
  active := entity.position ≠ unplacedOrigin
  healthPercent := entity.healthPercent
  activatedAtTick := tick
  inactiveSinceTick := none
  reactivationDueTick := none
  respawnIntervalSeconds := collection.respawnIntervalsSeconds[entity.id]?.getD 0
  meleeCooldownTicks :=
    collection.directMeleeIntervalsMillis[entity.id]?.map fun interval => (interval + 999) / 1000
  nextMeleeDueTick := tick
  directMeleeDamageRange := collection.directMeleeDamageRanges[entity.id]?
  directMeleeDamageSequence := 0
  targetPlayerId := none

/-- One round of the loop of `installStaticCreatures`. -/
def installEntity (w : LivingWorld) (collection : FeTfsStaticSpawnCollection)
    (creatures : BTreeMap ℕ StaticCreatureRuntime) (entity : FeTfsStaticEntity) :
    Except CoreError (BTreeMap ℕ StaticCreatureRuntime) :=
  if (trim entity.name).isEmpty then .error .emptyStaticSpawnName
  else if creatures[entity.id]?.isSome then .error (.duplicateStaticSpawnId entity.id)
  else if w.isPlayerOccupied entity.position then
    .error (.playerOccupiesStaticCreaturePosition entity.position)
  else .ok (creatures.insert entity.id (installedRuntime collection w.tick entity))

def installStaticCreatures (collection : FeTfsStaticSpawnCollection) : LivingM Unit := do
  if maxTfsStaticSpawns < collection.entities.length then
    fail (.staticSpawnLimit maxTfsStaticSpawns)
  else
    let installed ← read fun w => collection.entities.foldlM (installEntity w collection) ∅
    let creatures ← ofExcept installed
    write (·.putCreatures creatures)
    write (·.refreshStaticCreatureOccupancy)
    markChanged

/-- The requested tile, then the eight around it. -/
def spawnOffsets : List (ℤ × ℤ) :=
  [(0, 0), (1, 0), (-1, 0), (0, 1), (0, -1), (1, 1), (-1, -1), (1, -1), (-1, 1)]

/-- A coordinate moved by an offset: clamped at zero, wrapping at 16 bits. -/
def offsetCoordinate (coordinate : ℕ) (offset : ℤ) : ℕ :=
  (max ((coordinate : ℤ) + offset) 0).toNat % 65536

def spawnCandidates (position : Position) : List Position :=
  spawnOffsets.map fun offset =>
    ⟨offsetCoordinate position.x offset.1, offsetCoordinate position.y offset.2, position.z⟩

/-- The lifecycle of a summon made from a template. -/
def summonedRuntime (template : StaticCreatureRuntime) (tick id : ℕ) (position : Position)
    (direction : ℕ) : StaticCreatureRuntime where
  entity := { template.entity with id := id, position := position, direction := direction }
  isNpc := false
  spawnPosition := position
  monsterSpawnArea := none
  active := true
  healthPercent := template.healthPercent
  activatedAtTick := tick
  inactiveSinceTick := none
  reactivationDueTick := none
  respawnIntervalSeconds := 0
  meleeCooldownTicks := template.meleeCooldownTicks
  nextMeleeDueTick := tick
  directMeleeDamageRange := template.directMeleeDamageRange
  directMeleeDamageSequence := 0
  targetPlayerId := none

/-- Summon a copy of the first installed creature of that name. -/
def spawnDynamicEntity (toLowercase : String → String) (name : String) (position : Position)
    (direction : ℕ) : LivingM ℕ := do
  let count ← read fun w => w.staticCreatures.size
  let lowered := toLowercase (trim name)
  let template ← read fun w =>
    w.staticCreatures.toList.find? fun e => toLowercase e.2.entity.name = lowered
  let spawnPosition ← read fun w => (spawnCandidates position).find? fun candidate =>
    ¬(w.isPlayerOccupied candidate || w.hasActiveAt candidate)
  -- one of the first `count + 1` ids above the base is free
  let slot ← read fun w => (List.range' dynamicIdBase (count + 1)).find? fun candidate =>
    w.staticCreatures[candidate]?.isNone
  let tick ← read fun w => w.tick
  if maxTfsStaticSpawns ≤ count then fail (.staticSpawnLimit maxTfsStaticSpawns)
  else if lowered.isEmpty then fail .emptyStaticSpawnName
  else
    let (_, template) ← ofOption template (.unknownEntityName (trim name))
    let spawnPosition ← ofOption spawnPosition (.spawnPositionRejected position)
    let slot ← ofOption slot (.dynamicSpawnLimit maxTfsStaticSpawns)
    write fun w => w.putCreatures
      (w.staticCreatures.insert slot (summonedRuntime template tick slot spawnPosition direction))
    write (·.refreshStaticCreatureOccupancy)
    markChanged
    return slot

def despawnDynamicEntity (id : ℕ) : LivingM Unit := do
  if id < dynamicIdBase then fail (.unknownStaticCreature id)
  else
    let _ ← readOr (·.staticCreatures[id]?) (.unknownStaticCreature id)
    write fun w => w.putCreatures (w.staticCreatures.erase id)
    write (·.refreshStaticCreatureOccupancy)
    markChanged

/-- Mark a creature inactive where it stands: how a creature dies. -/
def deactivateStaticCreature (id : ℕ) : LivingM Bool := do
  let runtime ← readOr (·.staticCreatures[id]?) (.unknownStaticCreature id)
  let tick ← read fun w => w.tick
  let inactive := { runtime with active := false, targetPlayerId := none }
  let dead := { inactive with
    inactiveSinceTick := some tick
    reactivationDueTick := if 0 < runtime.respawnIntervalSeconds then
      some (saturatingAdd tick runtime.respawnIntervalSeconds) else none }
  write fun w => w.putCreatures
    (w.staticCreatures.insert id (if runtime.active then dead else inactive))
  if runtime.active then
    write fun w => w.putInteractions (w.playerInteractions.filterMap fun _ intent =>
      let intent := if intent.targetStaticCreatureId = some id then
        { intent with targetStaticCreatureId := none } else intent
      if intent.isEngaged then some intent else none)
  write (·.refreshStaticCreatureOccupancy)
  if runtime.active then markChanged
  return runtime.active

def moveStaticCreatureCardinal (id : ℕ) (direction : CardinalDirection) (worldMap : WorldMap) :
    LivingM (Position × Position) := do
  let source ← readOr (·.staticCreatures[id]?) (.unknownStaticCreature id)
  if ¬source.active then fail (.inactiveStaticCreature id)
  else
    let previous := source.entity.position
    let destination ← ofExcept (previous.step direction)
    let onPlayer ← read (·.isPlayerOccupied destination)
    let onOther ← read fun w => w.staticCreatures.toList.any fun e =>
      e.1 ≠ id ∧ e.2.active ∧ e.2.entity.position = destination
    if ¬worldMap.isWalkable destination then fail (.staticCreatureMovementBlocked destination)
    else if onPlayer then fail (.playerOccupiesStaticCreaturePosition destination)
    else if onOther then fail (.staticCreatureOccupiesPosition destination)
    else
      write fun w => w.putCreatures (w.staticCreatures.insert id
        { source with entity := { source.entity with position := destination } })
      write (·.refreshStaticCreatureOccupancy)
      markChanged
      return (previous, destination)

/-! ### Resets and due reactivations -/

/-- What tells a reset from a due reactivation. -/
structure ReactivationRules where
  /-- The creature's turn has come. -/
  due : StaticCreatureRuntime → Bool
  /-- A player keeps the creature away. -/
  playerBlocks : StaticCreatureRuntime → Bool
  /-- The next due tick of a creature that was kept away. -/
  rearmed : StaticCreatureRuntime → Option ℕ

/-- The accumulators of the reactivation loop. -/
structure ReactivationSweep where
  creatures : BTreeMap ℕ StaticCreatureRuntime
  activePositions : Finset Position
  summary : StaticCreatureResetSummary

/-- The creature back on its spawn tile. -/
def reactivatedRuntime (tick : ℕ) (runtime : StaticCreatureRuntime) : StaticCreatureRuntime :=
  { runtime with
    entity := { runtime.entity with position := runtime.spawnPosition }
    healthPercent := runtime.entity.healthPercent
    active := true
    activatedAtTick := tick
    inactiveSinceTick := none
    reactivationDueTick := none }

def sweepRound (rules : ReactivationRules) (tick : ℕ) (sweep : ReactivationSweep)
    (entry : ℕ × StaticCreatureRuntime) : ReactivationSweep :=
  let (id, runtime) := entry
  let deferred := sweep.creatures.insert id { runtime with
    reactivationDueTick := rules.rearmed runtime }
  if runtime.active ∨ ¬rules.due runtime then sweep
  else if rules.playerBlocks runtime then
    { sweep with
      creatures := deferred
      summary.deferredByPlayerOccupancy := sweep.summary.deferredByPlayerOccupancy + 1 }
  else if runtime.spawnPosition ∈ sweep.activePositions then
    { sweep with
      creatures := deferred
      summary.deferredByStaticCreatureOccupancy :=
        sweep.summary.deferredByStaticCreatureOccupancy + 1 }
  else
    { creatures := sweep.creatures.insert id (reactivatedRuntime tick runtime)
      activePositions := insert runtime.spawnPosition sweep.activePositions
      summary := { sweep.summary with reactivated := sweep.summary.reactivated + 1 } }

/-- The loop over all creatures; the taken tiles start from the index. -/
def sweepCreatures (rules : ReactivationRules) (w : LivingWorld) : ReactivationSweep :=
  w.staticCreatures.toList.foldl (sweepRound rules w.tick)
    ⟨w.staticCreatures, w.staticOccupiedPositions, {}⟩

def reactivateCreatures (rules : LivingWorld → ReactivationRules) :
    LivingM StaticCreatureResetSummary := do
  let sweep ← read fun w => sweepCreatures (rules w) w
  write (·.putCreatures sweep.creatures)
  write (·.refreshStaticCreatureOccupancy)
  if 0 < sweep.summary.reactivated then markChanged
  return sweep.summary

def resetStaticCreatures : LivingM StaticCreatureResetSummary :=
  reactivateCreatures fun w =>
    { due := fun _ => true
      playerBlocks := fun runtime => w.isPlayerOccupied runtime.spawnPosition
      rearmed := StaticCreatureRuntime.reactivationDueTick }

def reactivateDueStaticCreatures : LivingM StaticCreatureResetSummary :=
  reactivateCreatures fun w =>
    { due := fun runtime => runtime.reactivationDueTick.any fun due => due ≤ w.tick
      playerBlocks := fun runtime => w.isPlayerOccupied runtime.spawnPosition ||
        runtime.monsterSpawnArea.any fun area =>
          w.players.toList.any fun e => area.contains e.2.position
      rearmed := fun runtime => some (saturatingAdd w.tick runtime.respawnIntervalSeconds) }

/-! ### Restoring a restart snapshot -/

/-- The accumulators of the validation loop. -/
structure RestorePlan where
  seen : Finset ℕ := ∅
  known : List StaticCreatureRuntimeSnapshot := []
  ignoredUnknown : ℕ := 0

/-- Why the timing of a record does not fit the installed creature. -/
def timingRefusal (record : StaticCreatureRuntimeSnapshot) (runtime : StaticCreatureRuntime) :
    Option CoreError :=
  let delay := CoreError.invalidStaticCreatureReactivationDelay record.id
    (record.reactivationRemainingSeconds.getD 0) runtime.respawnIntervalSeconds
  let cooldown := CoreError.invalidStaticCreatureMeleeCooldownDelay record.id
    (record.directMeleeCooldownRemainingTicks.getD 0) (runtime.meleeCooldownTicks.getD 0)
  if record.active ∧ record.reactivationRemainingSeconds.isSome then some delay
  else if record.reactivationRemainingSeconds.any fun remaining =>
      runtime.respawnIntervalSeconds = 0 ∨ runtime.respawnIntervalSeconds < remaining then
    some delay
  else if record.directMeleeCooldownRemainingTicks.isSome ∧
      (¬record.active ∨ runtime.meleeCooldownTicks.isNone) then some cooldown
  else match record.directMeleeCooldownRemainingTicks, runtime.meleeCooldownTicks with
    | some remaining, some ticks => if ticks < remaining then some cooldown else none
    | _, _ => none

def planRecord (w : LivingWorld) (plan : RestorePlan) (record : StaticCreatureRuntimeSnapshot) :
    Except CoreError RestorePlan :=
  let ignored := { plan with
    seen := insert record.id plan.seen
    ignoredUnknown := plan.ignoredUnknown + 1 }
  if record.id ∈ plan.seen then .error (.duplicateStaticSpawnId record.id)
  else if record.position = unplacedOrigin then .ok ignored
  else if 100 < record.healthPercent then
    .error (.invalidStaticCreatureHealthPercent record.healthPercent)
  else match w.staticCreatures[record.id]? with
    | none => .ok ignored
    | some runtime =>
      match timingRefusal record runtime with
      | some refusal => .error refusal
      | none => .ok { plan with
          seen := insert record.id plan.seen
          known := plan.known ++ [record] }

/-- One round of the occupancy check. -/
def claimTile (w : LivingWorld) (occupied : Finset Position)
    (record : StaticCreatureRuntimeSnapshot) : Except CoreError (Finset Position) :=
  if ¬record.active then .ok occupied
  else if w.isPlayerOccupied record.position then
    .error (.playerOccupiesStaticCreaturePosition record.position)
  else if record.position ∈ occupied then
    .error (.staticCreatureOccupiesPosition record.position)
  else .ok (insert record.position occupied)

/-- The ticks still to wait, as a due tick. -/
def dueAfter (tick : ℕ) (remaining : Option ℕ) : Option ℕ := remaining.map (saturatingAdd tick)

def restoredRuntime (tick : ℕ) (record : StaticCreatureRuntimeSnapshot)
    (runtime : StaticCreatureRuntime) : StaticCreatureRuntime :=
  { runtime with
    entity := { runtime.entity with position := record.position }
    active := record.active
    healthPercent := record.healthPercent
    targetPlayerId := none
    directMeleeDamageSequence := record.directMeleeDamageSequence
    nextMeleeDueTick := (dueAfter tick record.directMeleeCooldownRemainingTicks).getD tick
    activatedAtTick := if record.active then tick else runtime.activatedAtTick
    inactiveSinceTick := if record.active then none else some tick
    reactivationDueTick :=
      if record.active then none else dueAfter tick record.reactivationRemainingSeconds }

/-- The record says something else than the runtime does. -/
def restoreDiffers (tick : ℕ) (record : StaticCreatureRuntimeSnapshot)
    (runtime : StaticCreatureRuntime) : Bool :=
  runtime.entity.position ≠ record.position ∨ runtime.active ≠ record.active ∨
    runtime.healthPercent ≠ record.healthPercent ∨ runtime.targetPlayerId.isSome ∨
    runtime.reactivationDueTick ≠ dueAfter tick record.reactivationRemainingSeconds ∨
    runtime.nextMeleeDueTick ≠ (dueAfter tick record.directMeleeCooldownRemainingTicks).getD tick ∨
    runtime.directMeleeDamageSequence ≠ record.directMeleeDamageSequence

/-- One round of the writing loop: whether anything changed so far, and the creatures. -/
def restoreRecord (tick : ℕ) (state : Bool × BTreeMap ℕ StaticCreatureRuntime)
    (record : StaticCreatureRuntimeSnapshot) : Bool × BTreeMap ℕ StaticCreatureRuntime :=
  match state.2[record.id]? with
  | none => state
  | some runtime =>
    (state.1 || restoreDiffers tick record runtime,
      state.2.insert record.id (restoredRuntime tick record runtime))

/-- The tiles of the active creatures the records do not mention. -/
def untouchedPositions (w : LivingWorld) (known : List StaticCreatureRuntimeSnapshot) :
    Finset Position :=
  ((w.staticCreatures.toList.filter fun e => e.2.active && e.1 ∉ known.map (·.id)).map
    (·.2.entity.position)).toFinset

/-- Returns how many records were restored and how many ignored. -/
def restoreStaticCreatureRuntime (records : List StaticCreatureRuntimeSnapshot) :
    LivingM (ℕ × ℕ) := do
  let planned ← read fun w => records.foldlM (planRecord w) {}
  let plan ← ofExcept planned
  let claimed ← read fun w => plan.known.foldlM (claimTile w) (untouchedPositions w plan.known)
  let _ ← ofExcept claimed
  let restored ← read fun w => plan.known.foldl (restoreRecord w.tick) (false, w.staticCreatures)
  write (·.putCreatures restored.2)
  if restored.1 then
    write (·.refreshStaticCreatureOccupancy)
    write fun w => w.putInteractions (w.playerInteractions.filter fun _ intent =>
      intent.targetStaticCreatureId.all fun id => w.staticCreatures[id]?.any (·.active))
    markChanged
  return (plan.known.length, plan.ignoredUnknown)

end Living

end ForgottenEngine
