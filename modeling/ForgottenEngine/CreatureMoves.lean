import ForgottenEngine.Creatures

/-!
# Creatures that move, and players that pick a target

The movements of static creatures the host asks for, and the other small writes of the registry:

* `planStaticCreatureMoves` and `applyStaticCreaturePolicy` — a whole batch of steps, planned on a
  copy of the occupied tiles and carried out one by one;
* `stepStaticCreatureTowardTargetWithDetour` — one step of one creature, directly or along the
  first detour a bounded search finds;
* `setPlayerTarget`, `setPlayerStaticTarget` — whom a player attacks.
-/

namespace ForgottenEngine

open Fallible

/-! ### Planned batches -/

inductive StaticCreatureDecisionPolicy where
  | disabled | clockwiseAdjacent
deriving DecidableEq, Repr

structure StaticCreatureMoveDecision where
  creatureId : ℕ
  direction : CardinalDirection
deriving DecidableEq, Repr

structure StaticCreatureDecisionBatch where
  decisions : List StaticCreatureMoveDecision := []
  skipped : ℕ := 0
deriving DecidableEq, Repr

/-- The four directions clockwise, in the order both planners try them. -/
def clockwise : List CardinalDirection := [.north, .east, .south, .west]

/-- The four directions clockwise, from the one at the offset. -/
def clockwiseFrom (offset : ℕ) : List CardinalDirection :=
  clockwise.drop (offset % 4) ++ clockwise.take (offset % 4)

/-- The step in a direction, when it is free. -/
def freeStep (w : LivingWorld) (worldMap : WorldMap) (occupied : Finset Position)
    (source : Position) (direction : CardinalDirection) :
    Option (CardinalDirection × Position) :=
  match source.step direction with
  | .error _ => none
  | .ok destination =>
    if worldMap.isWalkable destination ∧ ¬w.isPlayerOccupied destination ∧
        destination ∉ occupied then some (direction, destination)
    else none

/-- One creature's turn: its own tile is given back before it looks for a free one. -/
def planRound (w : LivingWorld) (worldMap : WorldMap)
    (plan : Finset Position × StaticCreatureDecisionBatch) (entry : ℕ × StaticCreatureRuntime) :
    Finset Position × StaticCreatureDecisionBatch :=
  let (id, runtime) := entry
  if ¬runtime.active then plan
  else
    let source := runtime.entity.position
    let occupied := plan.1.erase source
    match (clockwiseFrom (id + w.tick)).findSome? (freeStep w worldMap occupied source) with
    | some (direction, destination) =>
      (insert destination occupied,
        { plan.2 with decisions := plan.2.decisions ++ [⟨id, direction⟩] })
    | none => (insert source occupied, { plan.2 with skipped := plan.2.skipped + 1 })

/-- The steps of all active creatures, planned one after the other. -/
def planStaticCreatureMoves (policy : StaticCreatureDecisionPolicy) (worldMap : WorldMap)
    (w : LivingWorld) : StaticCreatureDecisionBatch :=
  match policy with
  | .disabled => {}
  | .clockwiseAdjacent =>
    (w.staticCreatures.toList.foldl (planRound w worldMap) (w.staticOccupiedPositions, {})).2

namespace Living

/-- Carry out one planned step. -/
def applyDecision (worldMap : WorldMap) (_ : Unit) (decision : StaticCreatureMoveDecision) :
    LivingM Unit := do
  let _ ← moveStaticCreatureCardinal decision.creatureId decision.direction worldMap

/-- Plan a batch and carry it out; a step that fails leaves the steps before it in place. -/
def applyStaticCreaturePolicy (policy : StaticCreatureDecisionPolicy) (worldMap : WorldMap) :
    LivingM StaticCreatureDecisionBatch := do
  let batch ← read (planStaticCreatureMoves policy worldMap)
  batch.decisions.foldlM (applyDecision worldMap) ()
  return batch

/-! ### Steps towards a target -/

/-- A tile of the detour search: where it is, how the path to it began, and its length. -/
structure DetourTile where
  position : Position
  firstDirection : Option CardinalDirection
  distance : ℕ

/-- Look at one neighbour of a tile.  A tile next to the target ends the search. -/
def detourNeighbour (free : Position → Bool) (target : Position) (tile : DetourTile)
    (search : Finset Position × List DetourTile) (direction : CardinalDirection) :
    Except CardinalDirection (Finset Position × List DetourTile) :=
  match tile.position.step direction with
  | .error _ => .ok search
  | .ok destination =>
    let visited := insert destination search.1
    if destination ∈ search.1 ∨ ¬free destination then .ok (visited, search.2)
    else
      let firstDirection := tile.firstDirection.getD direction
      if destination.isAdjacentTo target then .error firstDirection
      else .ok (visited, search.2 ++ [⟨destination, some firstDirection, tile.distance + 1⟩])

/-- The breadth-first search for a detour.  A tile is queued once, so the fuel is never used up. -/
def detourSearch (free : Position → Bool) (target : Position) (maxDetourSteps : ℕ) :
    ℕ → Finset Position → List DetourTile → Option CardinalDirection
  | 0, _, _ => none
  | _ + 1, _, [] => none
  | fuel + 1, visited, tile :: frontier =>
    if maxDetourSteps ≤ tile.distance then
      detourSearch free target maxDetourSteps fuel visited frontier
    else
      match clockwise.foldlM (detourNeighbour free target tile) (visited, frontier) with
      | .error direction => some direction
      | .ok (visited, frontier) =>
        detourSearch free target maxDetourSteps fuel visited frontier

def staticCreatureDetourDirection (w : LivingWorld) (source target : Position)
    (worldMap : WorldMap) (maxDetourSteps : ℕ) : Option CardinalDirection :=
  if maxDetourSteps = 0 then none
  else
    let occupied := w.staticOccupiedPositions.erase source
    detourSearch
      (fun position => worldMap.isWalkable position ∧ ¬w.isPlayerOccupied position ∧
        position ∉ occupied)
      target maxDetourSteps ((2 * maxDetourSteps + 1) ^ 2 + 1) {source} [⟨source, none, 0⟩]

inductive StaticCreatureTargetStepOutcome where
  | noTarget
  | alreadyAdjacent (targetPlayerId : ℕ)
  | blocked (targetPlayerId : ℕ)
  | moved (targetPlayerId : ℕ) (direction : CardinalDirection) (origin destination : Position)
deriving DecidableEq, Repr

/-- Write the target of a creature that is in the registry. -/
def putCreatureTarget (id : ℕ) (target : Option ℕ) : LivingM Unit := do
  let runtime ← readOr (·.staticCreatures[id]?) (.unknownStaticCreature id)
  write fun w => w.putCreatures (w.staticCreatures.insert id
    { runtime with targetPlayerId := target })

def clearStaticCreatureTarget (id : ℕ) : LivingM Unit := do
  let runtime ← readOr (·.staticCreatures[id]?) (.unknownStaticCreature id)
  putCreatureTarget id none
  if runtime.targetPlayerId.isSome then markChanged

/-- A dead player is no target; a player without a lifecycle counts as living. -/
def isLiving (w : LivingWorld) (playerId : ℕ) : Bool :=
  w.playerRespawnStates[playerId]?.all fun state => ¬state.dead

/-- The first direct direction that is not blocked. -/
def directDirection (id : ℕ) (worldMap : WorldMap) (source : Position) :
    List CardinalDirection → LivingM (Option CardinalDirection)
  | [] => return none
  | direction :: rest => do
    let destination ← ofExcept (source.step direction)
    let onPlayer ← read (·.isPlayerOccupied destination)
    let onOther ← read fun w => w.staticCreatures.toList.any fun e =>
      e.1 ≠ id ∧ e.2.active ∧ e.2.entity.position = destination
    if ¬worldMap.isWalkable destination ∨ onPlayer ∨ onOther then
      directDirection id worldMap source rest
    else return some direction

def stepStaticCreatureTowardTargetWithDetour (id : ℕ) (worldMap : WorldMap)
    (maxDetourSteps : ℕ) : LivingM StaticCreatureTargetStepOutcome := do
  let runtime ← readOr (·.staticCreatures[id]?) (.unknownStaticCreature id)
  if ¬runtime.active then fail (.inactiveStaticCreature id)
  else if runtime.isNpc then
    clearStaticCreatureTarget id
    return .noTarget
  else
    match runtime.targetPlayerId with
    | none => return .noTarget
    | some targetPlayerId => do
      let source := runtime.entity.position
      let target ← read fun w =>
        w.players[targetPlayerId]?.filter fun _ => isLiving w targetPlayerId
      match target with
      | none => do
        putCreatureTarget id none
        markChanged
        return .noTarget
      | some target => do
        if source.isAdjacentTo target.position then return .alreadyAdjacent targetPlayerId
        else if source.z ≠ target.position.z then return .blocked targetPlayerId
        else
          let direct ← directDirection id worldMap source
            (preferredDirections source target.position)
          let detour ← read fun w =>
            staticCreatureDetourDirection w source target.position worldMap maxDetourSteps
          match direct.or detour with
          | none => return .blocked targetPlayerId
          | some direction => do
            let (origin, destination) ← moveStaticCreatureCardinal id direction worldMap
            return .moved targetPlayerId direction origin destination

/-! ### Health and targets -/

/-- Change what a client shows of an active creature's health; zero does not deactivate it. -/
def setStaticCreatureHealthPercent (id healthPercent : ℕ) : LivingM Bool := do
  if 100 < healthPercent then fail (.invalidStaticCreatureHealthPercent healthPercent)
  else
    let runtime ← readOr (·.staticCreatures[id]?) (.unknownStaticCreature id)
    if ¬runtime.active then fail (.inactiveStaticCreature id)
    else if runtime.healthPercent = healthPercent then return false
    else
      write fun w => w.putCreatures (w.staticCreatures.insert id { runtime with healthPercent })
      markChanged
      return true

/-- Store an intent; an intent that names nobody is not stored. -/
def putInteraction (playerId : ℕ) (previous intent : PlayerInteractionIntent) :
    LivingM PlayerInteractionIntent := do
  write fun w => w.putInteractions (if intent = {} then w.playerInteractions.erase playerId
    else w.playerInteractions.insert playerId intent)
  if previous ≠ intent then markChanged
  return intent

/-- Select the player somebody attacks. -/
def setPlayerTarget (playerId : ℕ) (targetPlayerId : Option ℕ) :
    LivingM PlayerInteractionIntent := do
  let _ ← requirePlayer playerId
  let previous ← read fun w => w.playerInteractions[playerId]?.getD {}
  admitSelected playerId targetPlayerId
  putInteraction playerId previous
    { previous with targetPlayerId := targetPlayerId, targetStaticCreatureId := none }

/-- A living player may select an active creature. -/
def admitSelectedCreature (playerId : ℕ) : Option ℕ → LivingM Unit
  | none => pure ()
  | some id => do
    let state ← playerRespawnState playerId
    if state.dead then fail (.playerIsDead playerId)
    else
      let runtime ← readOr (·.staticCreatures[id]?) (.unknownStaticCreature id)
      if ¬runtime.active then fail (.inactiveStaticCreature id) else pure ()

/-- Select the creature somebody attacks. -/
def setPlayerStaticTarget (playerId : ℕ) (targetStaticCreatureId : Option ℕ) :
    LivingM PlayerInteractionIntent := do
  let _ ← requirePlayer playerId
  admitSelectedCreature playerId targetStaticCreatureId
  let previous ← read fun w => w.playerInteractions[playerId]?.getD {}
  putInteraction playerId previous ⟨none, targetStaticCreatureId, none⟩

end Living

end ForgottenEngine
