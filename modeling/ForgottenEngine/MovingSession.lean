import ForgottenEngine.SessionPosition
import ForgottenEngine.SessionTurnover
import ForgottenEngine.Consumables

/-!
# The movers of a session, with what they store and write

A step is one section under the world lock.  Behind it come the facing of the player, the teleport
it may have stepped on, the row of the database and the frames, each of them on its own; in
between, the other threads do with the world what they like (`MovePoint`).

* `moveNativeMapPlayer`, `moveNativeMapPlayerDiagonal` — the movers; a click-walk uses the first;
* `activateNativeMapTeleportItem` — the teleport a step has come upon.

The database and the socket do not fail here; the encoders may.
-/

namespace ForgottenEngine

open Fallible Game

/-! ### Frames -/

def nativePosition (position : Position) : NativeOtClientPosition :=
  ⟨.ofNat position.x, .ofNat position.y, .ofNat position.z⟩

def CardinalDirection.protocolDirection : CardinalDirection → UInt8
  | .north => 0
  | .east => 1
  | .south => 2
  | .west => 3

def nativeOtclientTeleportEffectId : UInt8 := 10

def encodeNativeOtclientMagicEffect (profile : NativeOtClientProfile)
    (position : NativeOtClientPosition) (effectId : UInt8) : Except ProtocolError (List UInt8) :=
  if ¬profile.supportsClassic740InventoryRecords ∨ effectId = 0 then
    .error .unsupportedNativeClientProfile
  else .ok (0x83 :: position.bytes ++ [effectId])

def encodeNativeOtclientMoveCreatureAt (profile : NativeOtClientProfile)
    (oldPosition : NativeOtClientPosition) (oldStackPosition : UInt8)
    (newPosition : NativeOtClientPosition) : Except ProtocolError (List UInt8) :=
  if ¬profile.supportsCurrentNativeFoundation ∨ oldStackPosition = 255 then
    .error .unsupportedNativeClientProfile
  else .ok (0x6d :: oldPosition.bytes ++ oldStackPosition :: newPosition.bytes)

def encodeNativeOtclientGameCancelWalkFacing (profile : NativeOtClientProfile)
    (direction : UInt8) : Except ProtocolError (List UInt8) :=
  if ¬profile.supportsCurrentNativeFoundation then .error .unsupportedNativeClientProfile
  else .ok [0xb5, direction]

/-! ### The session -/

inductive MoveError where
  | host (error : HostError)
  | protocol (error : ProtocolError)
deriving DecidableEq

/-- What the session knows. -/
structure MoveContext where
  characterId : ℕ
  profile : NativeOtClientProfile
  snapshot : NativeOtClientEmptyWorldSnapshot
  worldMap : WorldMap
  /-- The active creatures of the world with what they look like. -/
  activeStaticSpawns : GameWorld → List DrawnStaticEntity
  /-- The login has drawn its viewport with them. -/
  drawn : validateNativeEmptyWorldSnapshot profile snapshot = .ok ()

structure MovingSession where
  shared : SharedNativeWorld
  playerPosition : Position
  facing : CardinalDirection
  /-- The row of the player in the database. -/
  storedPosition : Position
  storedFacing : UInt8
  storedFrozen : Bool
  /-- The frames that were written. -/
  frames : List (List UInt8)

abbrev MoveM (α : Type) := Fallible MoveError MovingSession α

/-- Where the other threads come in. -/
inductive MovePoint where
  | beforeFacing
  | beforeTeleport
  | beforeDrawing
deriving DecidableEq

/-- What they do there. -/
structure Meanwhile where
  toLowercase : String → String
  events : MovePoint → List GameEvent

def Meanwhile.world (self : Meanwhile) (point : MovePoint) (w : GameWorld) : GameWorld :=
  (self.events point).foldl (GameEvent.step self.toLowercase) w

namespace MovingSession

def withWorld (s : MovingSession) (world : GameWorld) : MovingSession :=
  { s with shared := { s.shared with world } }

/-- A method of the shared world. -/
def onShared {α : Type} (method : SharedM α) : MoveM α := fun s =>
  ((method s.shared).1.mapError .host, { s with shared := (method s.shared).2 })

/-- One section under the world lock. -/
def onWorld {α : Type} (method : GameM α) : MoveM α := onShared (Shared.onGame method)

def meanwhile (others : Meanwhile) (point : MovePoint) : MoveM Unit :=
  write fun s => s.withWorld (others.world point s.shared.world)

def writeFrame (frame : Except ProtocolError (List UInt8)) : MoveM Unit := do
  let frame ← ofExcept (frame.mapError .protocol)
  write fun s => { s with frames := s.frames ++ [frame] }

def updatePlayerPositionAndFacing (position : Position) (facing : CardinalDirection) :
    MoveM Unit :=
  write fun s => { s with storedPosition := position, storedFacing := facing.protocolDirection }

def updatePlayerFacing (playerId : ℕ) (facing : CardinalDirection) : MoveM Unit := do
  let _ ← onWorld (Game.requirePlayer playerId)
  write fun s => { s with shared := { s.shared with
    playerDirections := s.shared.playerDirections.insert playerId
      facing.protocolDirection.toNat } }

/-- How healthy a player looks. -/
def healthPercent (vitals : PlayerVitals) : UInt8 :=
  .ofNat (min (vitals.health * 100 / max vitals.maxHealth 1) 100)

/-- Somebody else in sight. -/
def visiblePlayer (ctx : MoveContext) (shared : SharedNativeWorld) (player : Player) :
    Except HostError NativeOtClientVisiblePlayer := do
  let playerId ← nativePlayerId player.id
  return {
    playerId := .ofNat playerId
    name := player.name
    position := nativePosition player.position
    healthPercent := healthPercent (shared.world.playerVitals[player.id]?.getD {})
    outfit := shared.playerOutfits[player.id]?.getD ⟨ctx.snapshot.playerLookType, 0, 0, 0, 0⟩
    direction := .ofNat (shared.playerDirections[player.id]?.getD 2)
    speed := ctx.snapshot.playerSpeed }

/-- The others who are not invisible. -/
def othersInSight (ctx : MoveContext) (w : GameWorld) : List Player :=
  (w.players.toList.map Prod.snd).filter fun player =>
    player.id ≠ ctx.characterId ∧ player.id ∉ w.playerInvisible

def visiblePlayers (ctx : MoveContext) : MoveM (List NativeOtClientVisiblePlayer) := do
  let shared ← read MovingSession.shared
  ofExcept (((othersInSight ctx shared.world).mapM (visiblePlayer ctx shared)).mapError .host)

/-- What a frame shows from here. -/
def viewAt (ctx : MoveContext) (position : Position) (facing : CardinalDirection)
    (staticSpawns : List DrawnStaticEntity) (players : List NativeOtClientVisiblePlayer) : MapView where
  snapshot := { ctx.snapshot with
    playerPosition := nativePosition position, playerDirection := facing.protocolDirection }
  worldMap := ctx.worldMap
  staticSpawns := some staticSpawns
  visiblePlayers := some players

/-! ### The movers -/

/-- What follows a teleport. -/
def showTeleport (ctx : MoveContext) (others : Meanwhile) (facing : CardinalDirection)
    (destination : Position) : MoveM Bool := do
  updatePlayerPositionAndFacing destination facing
  writeFrame (encodeNativeOtclientMagicEffect ctx.profile (nativePosition destination)
    nativeOtclientTeleportEffectId)
  meanwhile others .beforeDrawing
  let staticSpawns ← read fun s => ctx.activeStaticSpawns s.shared.world
  let players ← visiblePlayers ctx
  writeFrame (encodeNativeOtclientMapViewport ctx.profile
    (viewAt ctx destination facing staticSpawns players))
  write fun s => { s with playerPosition := destination }
  return true

def activateNativeMapTeleportItem (ctx : MoveContext) (others : Meanwhile)
    (facing : CardinalDirection) (destination : Position) : MoveM Bool := do
  let finalDestination ← onWorld (teleportHops ctx.characterId ctx.worldMap
    nativeOtclientMaxTeleportHops [] destination none)
  match finalDestination with
  | none => return false
  | some destination => showTeleport ctx others facing destination

def cancelWalk (ctx : MoveContext) : MoveM Bool := do
  let facing ← read MovingSession.facing
  writeFrame (encodeNativeOtclientGameCancelWalkFacing ctx.profile facing.protocolDirection)
  return false

/-- The rows and columns of a step, one frame each. -/
def drawSteps (ctx : MoveContext) (staticSpawns : List DrawnStaticEntity)
    (players : List NativeOtClientVisiblePlayer) (drawn : List (CardinalDirection × Position)) :
    MoveM Unit :=
  drawn.forM fun (direction, position) => writeFrame (encodeNativeOtclientMapStep ctx.profile
    (viewAt ctx position direction staticSpawns players) direction)

/-- What follows a step without a teleport: `drawn` are the rows and columns the client has to
uncover. -/
def showStep (ctx : MoveContext) (others : Meanwhile) (previous destination : Position)
    (facing : CardinalDirection) (drawn : List (CardinalDirection × Position))
    (staticSpawns : List DrawnStaticEntity) : MoveM Bool := do
  updatePlayerPositionAndFacing destination facing
  writeFrame (encodeNativeOtclientMoveCreatureAt ctx.profile (nativePosition previous) 1
    (nativePosition destination))
  meanwhile others .beforeDrawing
  let players ← visiblePlayers ctx
  drawSteps ctx staticSpawns players drawn
  write fun s => { s with playerPosition := destination }
  return true

/-- What both movers do with a step that was taken. -/
def arrive (ctx : MoveContext) (others : Meanwhile) (previous destination : Position)
    (facing : CardinalDirection) (drawn : List (CardinalDirection × Position))
    (staticSpawns : List DrawnStaticEntity) : MoveM Bool := do
  write fun s => { s with facing }
  meanwhile others .beforeFacing
  updatePlayerFacing ctx.characterId facing
  meanwhile others .beforeTeleport
  let teleported ← match nativeSteppedOnMapTeleportDestination ctx.worldMap destination with
    | some teleport => activateNativeMapTeleportItem ctx others facing teleport
    | none => pure false
  if teleported then return false
  else showStep ctx others previous destination facing drawn staticSpawns

/-- A step that was taken: the last direction, the tile, and what the client has to uncover. -/
structure TakenStep where
  facing : CardinalDirection
  destination : Position
  drawn : List (CardinalDirection × Position)

/-- The section of a cardinal step. -/
def cardinalStep (ctx : MoveContext) (direction : CardinalDirection) : GameM (Option TakenStep) := do
  let moved ← walkSection ctx.characterId ctx.worldMap direction
  return moved.map fun destination => ⟨direction, destination, [(direction, destination)]⟩

/-- The section of a diagonal step. -/
def diagonalStep (ctx : MoveContext) (first second : CardinalDirection) :
    GameM (Option TakenStep) := do
  let moved ← walkDiagonalSection ctx.characterId ctx.worldMap first second
  return moved.map fun (intermediate, destination) =>
    ⟨second, destination, [(first, intermediate), (second, destination)]⟩

/-- What both movers do around their section. -/
def moveBy (ctx : MoveContext) (others : Meanwhile) (walk : GameM (Option TakenStep)) :
    MoveM Bool := do
  let frozen ← read MovingSession.storedFrozen
  if frozen then cancelWalk ctx
  else
    let previous ← onWorld (Game.requirePlayer ctx.characterId)
    match ← onWorld walk with
    | none => cancelWalk ctx
    | some step =>
      let staticSpawns ← read fun s => ctx.activeStaticSpawns s.shared.world
      arrive ctx others previous.position step.destination step.facing step.drawn staticSpawns

def moveNativeMapPlayer (ctx : MoveContext) (others : Meanwhile) (direction : CardinalDirection) :
    MoveM Bool :=
  moveBy ctx others (cardinalStep ctx direction)

def moveNativeMapPlayerDiagonal (ctx : MoveContext) (others : Meanwhile)
    (first second : CardinalDirection) : MoveM Bool :=
  moveBy ctx others (diagonalStep ctx first second)

/-- The delay is read off the equipment; here it counts only that there is one. -/
def nativeWalkStepDelay (ctx : MoveContext) : MoveM Unit := do
  let _ ← onWorld (Game.inventory (World.playerEquipment ctx.characterId))

end MovingSession

/-! ### The handlers -/

/-- A step of the player; `exhausted` says that it comes inside the cooldown. -/
inductive VoluntaryStep where
  | cardinal (exhausted : Bool) (direction : CardinalDirection)
  | diagonal (exhausted : Bool) (direction : NativeOtClientAutoWalkDirection)
    (first second : CardinalDirection) (steps : direction.cardinalSteps = [first, second])
  /-- A click path of one step, taken at once. -/
  | clickPath (direction : CardinalDirection)
  /-- The next step of a click-walk task. -/
  | scheduled (direction : CardinalDirection)

namespace VoluntaryStep

open MovingSession

def perform (ctx : MoveContext) (others : Meanwhile) : VoluntaryStep → MoveM Unit
  | cardinal exhausted direction => do
    nativeWalkStepDelay ctx
    if exhausted then return ()
    else let _ ← moveNativeMapPlayer ctx others direction
  | diagonal exhausted _ first second _ => do
    nativeWalkStepDelay ctx
    if exhausted then return ()
    else let _ ← moveNativeMapPlayerDiagonal ctx others first second
  | clickPath direction => do
    nativeWalkStepDelay ctx
    let _ ← moveNativeMapPlayer ctx others direction
  | scheduled direction => do
    let _ ← moveNativeMapPlayer ctx others direction

/-- The directions in which the step goes. -/
def directions : VoluntaryStep → List CardinalDirection
  | cardinal _ direction | clickPath direction | scheduled direction => [direction]
  | diagonal _ _ first second _ => [first, second]

end VoluntaryStep

/-! ### What the operations come to -/

open MovingSession

theorem onWorld_apply {α : Type} (method : GameM α) (s : MovingSession) :
    onWorld method s = ((method s.shared.world).1.mapError fun e => .host (.core e),
      s.withWorld (method s.shared.world).2) := by
  unfold onWorld onShared Shared.onGame
  rcases (method s.shared.world).1 with e | a
  · rfl
  · rfl

theorem meanwhile_apply (others : Meanwhile) (point : MovePoint) (s : MovingSession) :
    meanwhile others point s = (.ok (), s.withWorld (others.world point s.shared.world)) := rfl

theorem updatePlayerPositionAndFacing_apply (position : Position) (facing : CardinalDirection)
    (s : MovingSession) : updatePlayerPositionAndFacing position facing s =
      (.ok (), { s with storedPosition := position, storedFacing := facing.protocolDirection }) :=
  rfl

/-- The client is shown the floor. -/
def OnSurface (position : Position) : Prop :=
  (nativePosition position).z.toNat < nativeOtclientClassicSurfaceFloors

/-- The others in sight have ids that the client can be told. -/
def OthersNative (ctx : MoveContext) (w : GameWorld) : Prop :=
  ∀ player ∈ othersInSight ctx w, nativeOtclientPlayerIdStart + player.id < nativeOtclientPlayerIdEnd

theorem writeFrame_of_ok {frame : Except ProtocolError (List UInt8)} {bytes : List UInt8}
    (h : frame = .ok bytes) (s : MovingSession) :
    writeFrame frame s = (.ok (), { s with frames := s.frames ++ [bytes] }) := by
  rw [h]
  rfl

theorem writeFrame_of_error {frame : Except ProtocolError (List UInt8)} {e : ProtocolError}
    (h : frame = .error e) (s : MovingSession) :
    writeFrame frame s = (.error (.protocol e), s) := by
  rw [h]
  rfl

section Frames

variable (ctx : MoveContext)

theorem supports : ctx.profile.supportsCurrentNativeFoundation = true := by
  have h := ctx.drawn
  unfold validateNativeEmptyWorldSnapshot at h
  split at h
  · cases h
  · next hnot =>
    rw [not_or] at hnot
    simpa using hnot.1

theorem supportsInventory : ctx.profile.supportsClassic740InventoryRecords = true := by
  have h := supports ctx
  unfold NativeOtClientProfile.supportsClassic740InventoryRecords
  rw [h, Bool.true_and]
  unfold NativeOtClientProfile.supportsCurrentNativeFoundation NativeOtClientProfile.foundation at h
  split at h
  · cases h
  · split at h
    · next hversion => simpa using hversion.1
    · split at h
      · cases h
      · cases h

/-- The snapshot is drawn from every tile of the surface. -/
theorem validate_viewAt (position : Position) (facing : CardinalDirection)
    (staticSpawns : List DrawnStaticEntity) (players : List NativeOtClientVisiblePlayer) :
    (OnSurface position → validateNativeEmptyWorldSnapshot ctx.profile
      (viewAt ctx position facing staticSpawns players).snapshot = .ok ()) ∧
    (¬OnSurface position → validateNativeEmptyWorldSnapshot ctx.profile
      (viewAt ctx position facing staticSpawns players).snapshot =
        .error .unsupportedNativeClientProfile) := by
  have h := ctx.drawn
  have hfacing : ¬3 < facing.protocolDirection := by cases facing <;> decide
  unfold validateNativeEmptyWorldSnapshot at h ⊢
  split at h
  · cases h
  · next hnot =>
    simp only [not_or] at hnot
    obtain ⟨hprofile, hid, -, -, hspeed, hbeat, hname⟩ := hnot
    constructor
    · intro hsurface
      refine if_neg ?_
      simp only [not_or]
      exact ⟨hprofile, hid, Nat.not_le.mpr hsurface, hfacing, hspeed, hbeat, hname⟩
    · intro hdeep
      exact if_pos (.inr (.inr (.inl (Nat.not_lt.mp hdeep))))

theorem viewport_of_valid {profile : NativeOtClientProfile} {view : MapView}
    (h : validateNativeEmptyWorldSnapshot profile view.snapshot = .ok ()) :
    ∃ bytes, encodeNativeOtclientMapViewport profile view = .ok bytes := by
  have hframe := frameWritten_viewport view
  exact ⟨_, by rw [encodeNativeOtclientMapViewport, h, finishFrame_of_fits hframe.fits]; rfl⟩

theorem mapStep_of_valid {profile : NativeOtClientProfile} {view : MapView}
    (direction : CardinalDirection)
    (h : validateNativeEmptyWorldSnapshot profile view.snapshot = .ok ()) :
    ∃ bytes, encodeNativeOtclientMapStep profile view direction = .ok bytes := by
  have hframe := frameWritten_step view direction
  exact ⟨_, by rw [encodeNativeOtclientMapStep, h, finishFrame_of_fits hframe.fits]; rfl⟩

/-- The others are listed when all of them have native ids. -/
theorem visiblePlayers_cases (s : MovingSession) :
    (OthersNative ctx s.shared.world → ∃ players, visiblePlayers ctx s = (.ok players, s)) ∧
    (¬OthersNative ctx s.shared.world → ∃ e, visiblePlayers ctx s = (.error e, s)) := by
  have hone : ∀ player : Player, (∃ visible, visiblePlayer ctx s.shared player = .ok visible) ↔
      nativeOtclientPlayerIdStart + player.id < nativeOtclientPlayerIdEnd := by
    intro player
    unfold visiblePlayer nativePlayerId
    by_cases h : nativeOtclientPlayerIdEnd ≤ nativeOtclientPlayerIdStart + player.id
    · rw [if_pos h]
      exact iff_of_false (fun hvisible => by cases hvisible.choose_spec) (Nat.not_lt.mpr h)
    · rw [if_neg h]
      exact iff_of_true ⟨_, rfl⟩ (Nat.not_le.mp h)
  have hall : OthersNative ctx s.shared.world ↔
      ∃ players, (othersInSight ctx s.shared.world).mapM (visiblePlayer ctx s.shared) =
        .ok players := by
    rw [exists_mapM_eq_ok]
    exact forall₂_congr fun player _ => (hone player).symm
  unfold visiblePlayers
  rw [bind_of_ok (read_apply _ _), ofExcept_apply, hall]
  rcases (othersInSight ctx s.shared.world).mapM (visiblePlayer ctx s.shared) with e | players
  · exact ⟨fun h => (by cases h.choose_spec), fun _ => ⟨_, rfl⟩⟩
  · exact ⟨fun _ => ⟨players, rfl⟩, fun h => absurd ⟨players, rfl⟩ h⟩

variable {ctx} {others : Meanwhile} {s : MovingSession}

/-- **A teleport is shown** when its end is on the surface. -/
theorem showTeleport_cases (facing : CardinalDirection) (arrival : Position) :
    (OnSurface arrival ∧ OthersNative ctx (others.world .beforeDrawing s.shared.world) →
      ∃ s', showTeleport ctx others facing arrival s = (.ok true, s') ∧
        s'.shared.world = others.world .beforeDrawing s.shared.world) ∧
    (¬(OnSurface arrival ∧ OthersNative ctx (others.world .beforeDrawing s.shared.world)) →
      ∃ e s', showTeleport ctx others facing arrival s = (.error e, s')) := by
  have heffect : encodeNativeOtclientMagicEffect ctx.profile (nativePosition arrival)
      nativeOtclientTeleportEffectId = .ok (0x83 :: (nativePosition arrival).bytes ++ [10]) := by
    refine if_neg ?_
    rw [supportsInventory ctx]
    decide
  rw [showTeleport, bind_of_ok (updatePlayerPositionAndFacing_apply _ _ _),
    bind_of_ok (writeFrame_of_ok heffect _), bind_of_ok (meanwhile_apply _ _ _),
    bind_of_ok (read_apply _ _)]
  generalize hdrawing : MovingSession.withWorld _ _ = s₁
  have hworld : s₁.shared.world = others.world .beforeDrawing s.shared.world := by
    rw [← hdrawing]
    rfl
  rw [← hworld]
  obtain ⟨hseen, hunseen⟩ := visiblePlayers_cases ctx s₁
  constructor
  · rintro ⟨hsurface, hnative⟩
    obtain ⟨players, hplayers⟩ := hseen hnative
    obtain ⟨bytes, hbytes⟩ := viewport_of_valid ((validate_viewAt ctx arrival facing
      (ctx.activeStaticSpawns s₁.shared.world) players).1 hsurface)
    rw [bind_of_ok hplayers, bind_of_ok (writeFrame_of_ok hbytes _), bind_of_ok (write_apply _ _)]
    exact ⟨_, rfl, rfl⟩
  · intro hnot
    by_cases hnative : OthersNative ctx s₁.shared.world
    · obtain ⟨players, hplayers⟩ := hseen hnative
      have hdeep := (validate_viewAt ctx arrival facing (ctx.activeStaticSpawns s₁.shared.world)
        players).2 fun hsurface => hnot ⟨hsurface, hnative⟩
      have hfailed : encodeNativeOtclientMapViewport ctx.profile (viewAt ctx arrival facing
          (ctx.activeStaticSpawns s₁.shared.world) players) =
            .error .unsupportedNativeClientProfile := by
        rw [encodeNativeOtclientMapViewport, hdeep]
        rfl
      rw [bind_of_ok hplayers, bind_of_error (writeFrame_of_error hfailed _)]
      exact ⟨_, _, rfl⟩
    · obtain ⟨e, he⟩ := hunseen hnative
      rw [bind_of_error he]
      exact ⟨_, _, rfl⟩

/-- The rows and columns of a step are all drawn, or the first that is not on the surface ends
it. -/
theorem drawSteps_cases (staticSpawns : List DrawnStaticEntity)
    (players : List NativeOtClientVisiblePlayer) (drawn : List (CardinalDirection × Position)) :
    ((∀ step ∈ drawn, OnSurface step.2) →
      ∃ frames, drawSteps ctx staticSpawns players drawn s =
          (.ok (), { s with frames })) ∧
    ((∃ step ∈ drawn, ¬OnSurface step.2) →
      ∃ e s', drawSteps ctx staticSpawns players drawn s =
          (.error e, s')) := by
  induction drawn generalizing s with
  | nil =>
    refine ⟨fun _ => ⟨s.frames, rfl⟩, fun h => ?_⟩
    obtain ⟨step, hstep, -⟩ := h
    cases hstep
  | cons step drawn ih =>
    obtain ⟨direction, position⟩ := step
    have hcons : drawSteps ctx staticSpawns players ((direction, position) :: drawn) s =
        (writeFrame (encodeNativeOtclientMapStep ctx.profile
          (viewAt ctx position direction staticSpawns players) direction) >>= fun _ =>
            drawSteps ctx staticSpawns players drawn) s := rfl
    rw [hcons]
    by_cases hsurface : OnSurface position
    · obtain ⟨bytes, hbytes⟩ := mapStep_of_valid direction
        ((validate_viewAt ctx position direction staticSpawns players).1 hsurface)
      obtain ⟨hall, hsome⟩ := @ih { s with frames := s.frames ++ [bytes] }
      rw [bind_of_ok (writeFrame_of_ok hbytes _)]
      refine ⟨fun h => ?_, fun h => ?_⟩
      · exact hall fun step hstep => h step (List.mem_cons_of_mem _ hstep)
      · obtain ⟨step, hstep, hdeep⟩ := h
        rcases List.mem_cons.mp hstep with rfl | hlater
        · exact absurd hsurface hdeep
        · exact hsome ⟨step, hlater, hdeep⟩
    · have hfailed : encodeNativeOtclientMapStep ctx.profile
          (viewAt ctx position direction staticSpawns players) direction =
            .error .unsupportedNativeClientProfile := by
        rw [encodeNativeOtclientMapStep,
          (validate_viewAt ctx position direction staticSpawns players).2 hsurface]
        rfl
      rw [bind_of_error (writeFrame_of_error hfailed _)]
      exact ⟨fun h => absurd (h _ List.mem_cons_self) hsurface, fun _ => ⟨_, _, rfl⟩⟩

/-- **A step is shown** when its tiles are on the surface. -/
theorem showStep_cases (previous destination : Position) (facing : CardinalDirection)
    (drawn : List (CardinalDirection × Position)) (staticSpawns : List DrawnStaticEntity) :
    ((∀ step ∈ drawn, OnSurface step.2) ∧
        OthersNative ctx (others.world .beforeDrawing s.shared.world) →
      ∃ s', showStep ctx others previous destination facing drawn staticSpawns s = (.ok true, s') ∧
        s'.shared.world = others.world .beforeDrawing s.shared.world) ∧
    (¬((∀ step ∈ drawn, OnSurface step.2) ∧
        OthersNative ctx (others.world .beforeDrawing s.shared.world)) →
      ∃ e s', showStep ctx others previous destination facing drawn staticSpawns s =
        (.error e, s')) := by
  have hmoved : encodeNativeOtclientMoveCreatureAt ctx.profile (nativePosition previous) 1
      (nativePosition destination) = .ok (0x6d :: (nativePosition previous).bytes ++
        1 :: (nativePosition destination).bytes) := by
    refine if_neg ?_
    rw [supports ctx]
    decide
  rw [showStep, bind_of_ok (updatePlayerPositionAndFacing_apply _ _ _),
    bind_of_ok (writeFrame_of_ok hmoved _), bind_of_ok (meanwhile_apply _ _ _)]
  generalize hdrawing : MovingSession.withWorld _ _ = s₁
  have hworld : s₁.shared.world = others.world .beforeDrawing s.shared.world := by
    rw [← hdrawing]
    rfl
  rw [← hworld]
  obtain ⟨hseen, hunseen⟩ := visiblePlayers_cases ctx s₁
  constructor
  · rintro ⟨hsurface, hnative⟩
    obtain ⟨players, hplayers⟩ := hseen hnative
    obtain ⟨frames, hframes⟩ := (drawSteps_cases staticSpawns players drawn).1 hsurface
    rw [bind_of_ok hplayers, bind_of_ok hframes, bind_of_ok (write_apply _ _)]
    exact ⟨_, rfl, rfl⟩
  · intro hnot
    by_cases hnative : OthersNative ctx s₁.shared.world
    · obtain ⟨players, hplayers⟩ := hseen hnative
      have hdeep : ∃ step ∈ drawn, ¬OnSurface step.2 := by
        by_contra hnone
        push Not at hnone
        exact hnot ⟨hnone, hnative⟩
      obtain ⟨e, s', hfailed⟩ := (drawSteps_cases staticSpawns players drawn).2 hdeep
      rw [bind_of_ok hplayers, bind_of_error hfailed]
      exact ⟨_, _, rfl⟩
    · obtain ⟨e, he⟩ := hunseen hnative
      rw [bind_of_error he]
      exact ⟨_, _, rfl⟩

end Frames

end ForgottenEngine
