import ForgottenEngine.MapSnapshots
import ForgottenEngine.WalkPacing
import ForgottenEngine.PartyRuns

/-!
# Where a session draws its player

A session keeps the position of its player beside the one in the shared world.  It writes both when
it places the player itself: with a step, a diagonal step, a teleport it has stepped on or a
teleport of a script.  The heartbeat, operators and gamemasters move the player in the shared world
only, and so does a gamemaster command of the session itself.

`PositionedSession` is a session beside anything else in the world.  Every step is one section under
the world lock or one frame, and the frames it has written are kept with the position the player had
at that moment.

* `PositionedSession.Sound` — as long as nobody else has moved the player since the session last
  placed it, the two positions and the frames still to be written agree;
* `frames_centred` — **a frame that comes undisturbed is centred on the player**, but for the first
  of the two frames of a diagonal step, which is one step short of it.
-/

namespace ForgottenEngine

open Fallible Game

/-! ### Sections under the world lock -/

section Sections

variable (playerId : ℕ) (worldMap : WorldMap)

def isBlocked (w : GameWorld) (position : Position) : Bool :=
  !worldMap.isWalkable position || w.isStaticCreatureOccupied position ||
    w.isPlayerOccupied position

/-- The section of a step; `none` when the tile is blocked. -/
def walkSection (direction : CardinalDirection) : GameM (Option Position) := do
  let player ← requirePlayer playerId
  let destination ← ofExcept (player.position.step direction)
  let blocked ← read fun w => isBlocked worldMap w destination
  if blocked then return none
  else
    let (_, destination) ← living (Living.movePlayerCardinal playerId direction)
    return some destination

/-- The section of a diagonal step: the tile between and the destination. -/
def walkDiagonalSection (first second : CardinalDirection) :
    GameM (Option (Position × Position)) := do
  let player ← requirePlayer playerId
  let intermediate ← ofExcept (player.position.step first)
  let destination ← ofExcept (intermediate.step second)
  let blocked ← read fun w => isBlocked worldMap w intermediate || isBlocked worldMap w destination
  if blocked then return none
  else
    living (Living.movePlayer playerId destination)
    return some (intermediate, destination)

def nativeOtclientMaxTeleportHops : ℕ := 8

/-- From teleport to teleport, to the last tile that is new and free. -/
def teleportHops : ℕ → List Position → Position → Option Position → GameM (Option Position)
  | 0, _, _, reached => return reached
  | hops + 1, visited, current, reached => do
    let blocked ← read fun w => isBlocked worldMap w current
    if current ∈ visited ∨ blocked then return reached
    else
      let (_, destination) ← living (Living.teleportPlayer playerId current)
      match nativeSteppedOnMapTeleportDestination worldMap destination with
      | none => return some destination
      | some next => teleportHops hops (current :: visited) next (some destination)

end Sections

/-! ### The session -/

/-- Where a frame is centred: on the player, or one step short of it. -/
inductive FrameCentre where
  | onPlayer (centre : Position)
  | before (step : CardinalDirection) (centre : Position)
deriving DecidableEq, Repr

/-- The centre of the frame fits the position of the player. -/
def FrameCentre.Fits (position : Position) : FrameCentre → Prop
  | onPlayer centre => centre = position
  | before step centre => centre.step step = .ok position

/-- A viewport or a map step that the session has written. -/
structure WrittenFrame where
  centre : FrameCentre
  /-- Where the player stood in the shared world. -/
  authoritative : Option Position
  /-- Somebody else had moved the player since the session last placed it. -/
  disturbed : Bool
deriving DecidableEq, Repr

/-- What the handler at work still does. -/
inductive SessionWork where
  | idle
  /-- It has stepped on a teleport; without the teleport it draws the step. -/
  | activating (teleport : Position) (frames : List FrameCentre) (arrival : Position)
  /-- It writes the frames of a step, and then the position of the session. -/
  | drawing (frames : List FrameCentre) (arrival : Position)
  /-- It has set the position, and draws the viewport anew. -/
  | redrawing
  | ended
deriving DecidableEq, Repr

structure PositionedSession where
  world : GameWorld
  playerPosition : Position
  work : SessionWork
  disturbed : Bool
  frames : List WrittenFrame

/-- One step; `worldMap` is the copy of the map the session looks at. -/
inductive SessionStep where
  | walk (worldMap : WorldMap) (frozen : Bool) (direction : CardinalDirection)
  | walkDiagonal (worldMap : WorldMap) (frozen : Bool) (direction : NativeOtClientAutoWalkDirection)
  /-- The next section or frame of the handler at work. -/
  | goOn (worldMap : WorldMap)
  /-- An epoch has moved, or a handler draws the viewport anew. -/
  | refresh
  /-- A teleport effect of a script. -/
  | script (destination : Position)
  /-- Anything else in the world: follow passes, teleports, summons, and the gamemaster commands of
  the session itself. -/
  | other (toLowercase : String → String) (event : GameEvent)

namespace PositionedSession

section Step

variable (playerId : ℕ)

def positionIn (w : GameWorld) : Option Position := w.players[playerId]?.map Player.position

/-- Write one frame. -/
def draw (r : PositionedSession) (centre : FrameCentre) : PositionedSession :=
  { r with frames := r.frames ++ [⟨centre, positionIn playerId r.world, r.disturbed⟩] }

/-- The session has placed its player. -/
def place (r : PositionedSession) (world : GameWorld) (work : SessionWork) : PositionedSession :=
  { r with world, work, disturbed := false }

/-- What a step that has arrived goes on with. -/
def afterArrival (worldMap : WorldMap) (frames : List FrameCentre) (arrival : Position) :
    SessionWork :=
  match nativeSteppedOnMapTeleportDestination worldMap arrival with
  | some teleport => .activating teleport frames arrival
  | none => .drawing frames arrival

def stepWalk (r : PositionedSession) (worldMap : WorldMap) (direction : CardinalDirection) :
    PositionedSession :=
  match walkSection playerId worldMap direction r.world with
  | (.error _, world) => { r with world, work := .ended }
  | (.ok none, world) => { r with world }
  | (.ok (some destination), world) =>
    r.place world (afterArrival worldMap [.onPlayer destination] destination)

def stepWalkDiagonal (r : PositionedSession) (worldMap : WorldMap)
    (direction : NativeOtClientAutoWalkDirection) : PositionedSession :=
  match direction.cardinalSteps with
  | [first, second] =>
    match walkDiagonalSection playerId worldMap first second r.world with
    | (.error _, world) => { r with world, work := .ended }
    | (.ok none, world) => { r with world }
    | (.ok (some (intermediate, destination)), world) =>
      r.place world (afterArrival worldMap [.before second intermediate, .onPlayer destination]
        destination)
  | _ => { r with work := .ended }

def stepOn (r : PositionedSession) (worldMap : WorldMap) : PositionedSession :=
  match r.work with
  | .activating teleport frames arrival =>
    match teleportHops playerId worldMap nativeOtclientMaxTeleportHops [] teleport none r.world with
    | (.error _, world) => { r with world, work := .ended }
    | (.ok none, world) => { r with world, work := .drawing frames arrival }
    | (.ok (some destination), world) =>
      r.place world (.drawing [.onPlayer destination] destination)
  | .drawing (frame :: frames) arrival =>
    { r.draw playerId frame with work := .drawing frames arrival }
  | .drawing [] arrival => { r with playerPosition := arrival, work := .idle }
  | .redrawing => { r.draw playerId (.onPlayer r.playerPosition) with work := .idle }
  | .idle | .ended => r

def stepScript (r : PositionedSession) (destination : Position) : PositionedSession :=
  match living (Living.teleportPlayer playerId destination) r.world with
  | (.error _, world) => { r with world }
  | (.ok _, world) => { r.place world .redrawing with playerPosition := destination }

def stepOther (r : PositionedSession) (toLowercase : String → String) (event : GameEvent) :
    PositionedSession :=
  let world := event.step toLowercase r.world
  { r with
    world
    disturbed := r.disturbed || positionIn playerId world ≠ positionIn playerId r.world }

def step (r : PositionedSession) : SessionStep → PositionedSession
  | .walk worldMap frozen direction =>
    if r.work = .idle ∧ ¬frozen then r.stepWalk playerId worldMap direction else r
  | .walkDiagonal worldMap frozen direction =>
    if r.work = .idle ∧ ¬frozen then r.stepWalkDiagonal playerId worldMap direction else r
  | .goOn worldMap => r.stepOn playerId worldMap
  | .refresh => if r.work = .idle then r.draw playerId (.onPlayer r.playerPosition) else r
  | .script destination =>
    if r.work = .idle ∨ r.work = .redrawing then r.stepScript playerId destination else r
  | .other toLowercase event => r.stepOther playerId toLowercase event

end Step

end PositionedSession

/-! ### What the sections do -/

namespace PositionedSession

section Sections

variable {p : ℕ} {worldMap : WorldMap} {w w' : GameWorld}

theorem positionIn_put {l : LivingWorld} {player : Player} {position : Position}
    (h : player.position = position) :
    positionIn p (w.putLiving (l.putPlayer p player).changed) = some position := by
  rw [← h]
  exact congrArg (Option.map Player.position) Std.ExtTreeMap.getElem?_insert_self

theorem movePlayer_places {destination : Position}
    (h : living (Living.movePlayer p destination) w = (.ok (), w')) :
    positionIn p w' = some destination := by
  obtain ⟨l, hrun, rfl⟩ := living_eq_ok.mp h
  simp only [Living.movePlayer, Living.playerRespawnState, Living.requirePlayer, Living.markChanged,
    bind_eq_ok, readOr_eq_ok, read_apply, guard_eq_ok, write_apply, Prod.mk.injEq] at hrun
  obtain ⟨_, _, ⟨-, rfl⟩, _, _, ⟨-, rfl⟩, -, -, player, _, ⟨-, rfl⟩, -, _, _, ⟨-, rfl⟩, -, rfl⟩ := hrun
  exact positionIn_put rfl

theorem movePlayerCardinal_places {direction : CardinalDirection} {moved : Position × Position}
    (h : living (Living.movePlayerCardinal p direction) w = (.ok moved, w')) :
    positionIn p w' = some moved.2 := by
  obtain ⟨l, hrun, rfl⟩ := living_eq_ok.mp h
  simp only [Living.movePlayerCardinal, Living.requirePlayer, bind_eq_ok, readOr_eq_ok,
    ofExcept_apply, pure_apply, Prod.mk.injEq, Except.ok.injEq] at hrun
  obtain ⟨player, _, ⟨-, rfl⟩, destination, _, ⟨-, rfl⟩, _, _, hmove, rfl, rfl⟩ := hrun
  exact movePlayer_places (living_eq_ok.mpr ⟨_, hmove, rfl⟩)

theorem teleportPlayer_places {destination : Position} {moved : Position × Position}
    (h : living (Living.teleportPlayer p destination) w = (.ok moved, w')) :
    moved.2 = destination ∧ positionIn p w' = some destination := by
  obtain ⟨l, hrun, rfl⟩ := living_eq_ok.mp h
  simp only [Living.teleportPlayer, Living.playerRespawnState, Living.requirePlayer,
    Living.markChanged, bind_eq_ok, readOr_eq_ok, read_apply, guard_eq_ok, write_apply, pure_apply,
    Prod.mk.injEq, Except.ok.injEq] at hrun
  obtain ⟨_, _, ⟨-, rfl⟩, _, _, ⟨-, rfl⟩, _, _, ⟨-, rfl⟩, -, -, -, player, _, ⟨-, rfl⟩, _, _,
    ⟨-, rfl⟩, _, _, ⟨-, rfl⟩, rfl, rfl⟩ := hrun
  exact ⟨rfl, positionIn_put rfl⟩

/-- A refused teleport moves nobody. -/
theorem teleportPlayer_refused {destination : Position} {e : CoreError}
    (h : living (Living.teleportPlayer p destination) w = (.error e, w')) : w' = w := by
  have hatomic : Atomic (Living.teleportPlayer p destination) := by
    intro l
    refine AtomicAt.bind (.readOr _ _) fun _ _ => .bind (.read _) fun _ _ => .bind (.read _)
      fun _ _ => ?_
    refine .ite (fun _ => (ReadOnly.fail _).atomicAt l) fun _ => ?_
    refine .ite (fun _ => (ReadOnly.fail _).atomicAt l) fun _ => ?_
    refine .ite (fun _ => (ReadOnly.fail _).atomicAt l) fun _ => ?_
    refine .bind (.readOr _ _) fun _ _ => Succeeds.atomic ?_ l
    exact .bind (.write _) fun _ => .bind (.write _) fun _ => .pure _
  exact atomic_living hatomic _ _ _ h

/-- A step that is not blocked arrives where the player then stands. -/
theorem walkSection_places {direction : CardinalDirection} {destination : Position}
    (h : walkSection p worldMap direction w = (.ok (some destination), w')) :
    positionIn p w' = some destination := by
  simp only [walkSection, Game.requirePlayer, bind_eq_ok, readOr_eq_ok, ofExcept_apply, read_apply,
    Prod.mk.injEq] at h
  obtain ⟨player, _, ⟨-, rfl⟩, target, _, ⟨-, rfl⟩, blocked, _, ⟨-, rfl⟩, h⟩ := h
  split at h
  · cases h
  · simp only [bind_eq_ok, pure_apply, Prod.mk.injEq, Except.ok.injEq, Option.some.injEq] at h
    obtain ⟨moved, _, hmove, rfl, rfl⟩ := h
    exact movePlayerCardinal_places hmove

theorem walkSection_blocked {direction : CardinalDirection}
    (h : walkSection p worldMap direction w = (.ok none, w')) : w' = w := by
  simp only [walkSection, Game.requirePlayer, bind_eq_ok, readOr_eq_ok, ofExcept_apply, read_apply,
    Prod.mk.injEq] at h
  obtain ⟨player, _, ⟨-, rfl⟩, target, _, ⟨-, rfl⟩, blocked, _, ⟨-, rfl⟩, h⟩ := h
  split at h
  · cases h
    rfl
  · simp only [bind_eq_ok, pure_apply, Prod.mk.injEq, Except.ok.injEq] at h
    obtain ⟨_, _, -, h, -⟩ := h
    cases h

theorem walkDiagonalSection_places {first second : CardinalDirection}
    {intermediate destination : Position}
    (h : walkDiagonalSection p worldMap first second w =
      (.ok (some (intermediate, destination)), w')) :
    positionIn p w' = some destination ∧ intermediate.step second = .ok destination := by
  simp only [walkDiagonalSection, Game.requirePlayer, bind_eq_ok, readOr_eq_ok, ofExcept_apply,
    read_apply, Prod.mk.injEq] at h
  obtain ⟨player, _, ⟨-, rfl⟩, between, _, ⟨-, rfl⟩, target, _, ⟨htarget, rfl⟩, blocked, _,
    ⟨-, rfl⟩, h⟩ := h
  split at h
  · cases h
  · simp only [bind_eq_ok, pure_apply, Prod.mk.injEq, Except.ok.injEq, Option.some.injEq] at h
    obtain ⟨_, _, hmove, ⟨rfl, rfl⟩, rfl⟩ := h
    exact ⟨movePlayer_places hmove, htarget⟩

theorem walkDiagonalSection_blocked {first second : CardinalDirection}
    (h : walkDiagonalSection p worldMap first second w = (.ok none, w')) : w' = w := by
  simp only [walkDiagonalSection, Game.requirePlayer, bind_eq_ok, readOr_eq_ok, ofExcept_apply,
    read_apply, Prod.mk.injEq] at h
  obtain ⟨player, _, ⟨-, rfl⟩, between, _, ⟨-, rfl⟩, target, _, ⟨-, rfl⟩, blocked, _, ⟨-, rfl⟩, h⟩ := h
  split at h
  · cases h
    rfl
  · simp only [bind_eq_ok, pure_apply, Prod.mk.injEq, Except.ok.injEq] at h
    obtain ⟨_, _, -, h, -⟩ := h
    cases h

/-- **The hops** end where the player then stands, or have not begun. -/
theorem teleportHops_places {hops : ℕ} {visited : List Position} {current : Position}
    {reached result : Option Position}
    (hreached : ∀ position, reached = some position → positionIn p w = some position)
    (h : teleportHops p worldMap hops visited current reached w = (.ok result, w')) :
    (∀ position, result = some position → positionIn p w' = some position) ∧
      (result = none → reached = none ∧ w' = w) := by
  induction hops generalizing visited current reached w with
  | zero =>
    cases h
    exact ⟨hreached, fun h => ⟨h, rfl⟩⟩
  | succ hops ih =>
    unfold teleportHops at h
    simp only [bind_eq_ok, read_apply, Prod.mk.injEq] at h
    obtain ⟨blocked, _, ⟨-, rfl⟩, h⟩ := h
    split at h
    · cases h
      exact ⟨hreached, fun h => ⟨h, rfl⟩⟩
    · simp only [bind_eq_ok] at h
      obtain ⟨⟨source, arrived⟩, w₁, hmove, h⟩ := h
      obtain ⟨hmoved, hposition⟩ := teleportPlayer_places hmove
      have hnow : ∀ position, some arrived = some position → positionIn p w₁ = some position := by
        intro position hsome
        rw [hposition, ← hmoved, hsome]
      cases hnext : nativeSteppedOnMapTeleportDestination worldMap arrived with
      | none =>
        simp only [hnext] at h
        cases h
        exact ⟨hnow, fun h => by cases h⟩
      | some next =>
        simp only [hnext] at h
        obtain ⟨hplaces, hnone⟩ := ih hnow h
        exact ⟨hplaces, fun h => by cases (hnone h).1⟩

end Sections

/-! ### Centred frames -/

/-- What holds of the work as long as nobody else moves the player. -/
def WorkFits (position : Option Position) (playerPosition : Position) : SessionWork → Prop
  | .idle | .redrawing => position = some playerPosition
  | .activating _ frames arrival | .drawing frames arrival =>
    position = some arrival ∧ ∀ frame ∈ frames, frame.Fits arrival
  | .ended => True

end PositionedSession

/-- The frame is centred on the player, or one step short of it when it is the first of two. -/
def WrittenFrame.Centred (frame : WrittenFrame) : Prop :=
  ∃ position, frame.authoritative = some position ∧ frame.centre.Fits position

namespace PositionedSession

/-- What holds at every point of every run. -/
structure Sound (p : ℕ) (r : PositionedSession) : Prop where
  work : r.disturbed = false → WorkFits (positionIn p r.world) r.playerPosition r.work
  frames : ∀ frame ∈ r.frames, frame.disturbed = false → frame.Centred

section Steps

variable {p : ℕ} {r : PositionedSession}

/-- A frame that fits is written. -/
theorem Sound.draw (h : r.Sound p) {centre : FrameCentre}
    (hfits : r.disturbed = false → ∃ position, positionIn p r.world = some position ∧
      centre.Fits position) :
    ∀ frame ∈ (r.draw p centre).frames, frame.disturbed = false → frame.Centred := by
  intro frame hframe hundisturbed
  rcases List.mem_append.mp hframe with hold | hnew
  · exact h.frames frame hold hundisturbed
  · rw [List.mem_singleton.mp hnew] at hundisturbed ⊢
    exact hfits hundisturbed

theorem fits_afterArrival {worldMap : WorldMap} {position : Option Position}
    {playerPosition arrival : Position} {frames : List FrameCentre}
    (hposition : position = some arrival) (hframes : ∀ frame ∈ frames, frame.Fits arrival) :
    WorkFits position playerPosition (afterArrival worldMap frames arrival) := by
  unfold afterArrival
  split
  · exact ⟨hposition, hframes⟩
  · exact ⟨hposition, hframes⟩

theorem Sound.stepWalk (h : r.Sound p) (worldMap : WorldMap) (direction : CardinalDirection) : (r.stepWalk p worldMap direction).Sound p := by
  unfold PositionedSession.stepWalk
  split
  · exact ⟨fun _ => trivial, h.frames⟩
  · next w hrun =>
    rw [walkSection_blocked hrun]
    exact h
  · next destination w hrun =>
    refine ⟨fun _ => fits_afterArrival (walkSection_places hrun) fun frame hframe => ?_, h.frames⟩
    rw [List.mem_singleton.mp hframe]
    exact rfl

theorem Sound.stepWalkDiagonal (h : r.Sound p) (worldMap : WorldMap)
    (direction : NativeOtClientAutoWalkDirection) :
    (r.stepWalkDiagonal p worldMap direction).Sound p := by
  unfold PositionedSession.stepWalkDiagonal
  split
  · next first second _ =>
    split
    · exact ⟨fun _ => trivial, h.frames⟩
    · next w hrun =>
      rw [walkDiagonalSection_blocked hrun]
      exact h
    · next intermediate destination w hrun =>
      obtain ⟨hposition, hstep⟩ := walkDiagonalSection_places hrun
      refine ⟨fun _ => fits_afterArrival hposition fun frame hframe => ?_, h.frames⟩
      rcases List.mem_cons.mp hframe with rfl | hlast
      · exact hstep
      · rw [List.mem_singleton.mp hlast]
        exact rfl
  · exact ⟨fun _ => trivial, h.frames⟩

theorem Sound.stepOn (h : r.Sound p) (worldMap : WorldMap) : (r.stepOn p worldMap).Sound p := by
  unfold PositionedSession.stepOn
  split
  · next teleport frames arrival hwork =>
    have hfits := h.work
    rw [hwork] at hfits
    split
    · exact ⟨fun _ => trivial, h.frames⟩
    · next w hrun =>
      obtain ⟨-, hnone⟩ := teleportHops_places (fun _ hnone => by cases hnone) hrun
      rw [(hnone rfl).2]
      exact ⟨hfits, h.frames⟩
    · next destination w hrun =>
      obtain ⟨hplaces, -⟩ := teleportHops_places (fun _ hnone => by cases hnone) hrun
      refine ⟨fun _ => ⟨hplaces _ rfl, fun frame hframe => ?_⟩, h.frames⟩
      rw [List.mem_singleton.mp hframe]
      exact rfl
  · next frame frames arrival hwork =>
    have hfits := h.work
    rw [hwork] at hfits
    refine ⟨fun hundisturbed => ?_, h.draw fun hundisturbed => ?_⟩
    · obtain ⟨hposition, hframes⟩ := hfits hundisturbed
      exact ⟨hposition, fun frame hframe => hframes frame (List.mem_cons_of_mem _ hframe)⟩
    · obtain ⟨hposition, hframes⟩ := hfits hundisturbed
      exact ⟨arrival, hposition, hframes frame List.mem_cons_self⟩
  · next arrival hwork =>
    have hfits := h.work
    rw [hwork] at hfits
    exact ⟨fun hundisturbed => (hfits hundisturbed).1, h.frames⟩
  · next hwork =>
    have hfits := h.work
    rw [hwork] at hfits
    exact ⟨hfits, h.draw fun hundisturbed => ⟨_, hfits hundisturbed, rfl⟩⟩
  · exact h
  · exact h

theorem Sound.stepScript (h : r.Sound p) (destination : Position) :
    (r.stepScript p destination).Sound p := by
  unfold PositionedSession.stepScript
  split
  · next e w hrun =>
    rw [teleportPlayer_refused hrun]
    exact h
  · next moved w hrun => exact ⟨fun _ => (teleportPlayer_places hrun).2, h.frames⟩

theorem Sound.stepOther (h : r.Sound p) (toLowercase : String → String) (event : GameEvent) :
    (r.stepOther p toLowercase event).Sound p := by
  refine ⟨fun hundisturbed => ?_, h.frames⟩
  have hboth : r.disturbed = false ∧
      positionIn p (event.step toLowercase r.world) = positionIn p r.world := by
    simpa [PositionedSession.stepOther] using hundisturbed
  show WorkFits (positionIn p (event.step toLowercase r.world)) r.playerPosition r.work
  rw [hboth.2]
  exact h.work hboth.1

theorem Sound.step (h : r.Sound p) (event : SessionStep) : (r.step p event).Sound p := by
  cases event with
  | walk worldMap frozen direction =>
    unfold PositionedSession.step
    simp only
    split
    · exact h.stepWalk worldMap direction
    · exact h
  | walkDiagonal worldMap frozen direction =>
    unfold PositionedSession.step
    simp only
    split
    · exact h.stepWalkDiagonal worldMap direction
    · exact h
  | goOn worldMap => exact h.stepOn worldMap
  | refresh =>
    unfold PositionedSession.step
    simp only
    split
    · next hidle =>
      have hfits := h.work
      rw [hidle] at hfits
      refine ⟨fun hundisturbed => ?_, h.draw fun hundisturbed => ⟨_, hfits hundisturbed, rfl⟩⟩
      show WorkFits _ _ r.work
      rw [hidle]
      exact hfits hundisturbed
    · exact h
  | script destination =>
    unfold PositionedSession.step
    simp only
    split
    · exact h.stepScript destination
    · exact h
  | other toLowercase event => exact h.stepOther toLowercase event

/-- The login has placed the player, and has written nothing yet. -/
structure Placed (p : ℕ) (r : PositionedSession) : Prop where
  position : positionIn p r.world = some r.playerPosition
  work : r.work = .idle
  frames : r.frames = []

theorem Placed.sound (h : r.Placed p) : r.Sound p := by
  refine ⟨fun _ => ?_, fun frame hframe => ?_⟩
  · rw [h.work]
    exact h.position
  · rw [h.frames] at hframe
    cases hframe

end Steps

end PositionedSession

open PositionedSession

/-- **A frame that comes undisturbed is centred on the player.** -/
theorem frames_centred (p : ℕ) {start r : PositionedSession} (hstart : start.Placed p)
    (h : Reaches (PositionedSession.step p) (fun _ _ => True) start r) :
    ∀ frame ∈ r.frames, frame.disturbed = false → frame.Centred := by
  have hsound : r.Sound p := h.invariant (P := PositionedSession.Sound p)
    (fun _ event hr _ => hr.step event) hstart.sound
  exact hsound.frames

/-! ### A diagonal step -/

/-- A lawn of three tiles. -/
def lawnMap : WorldMap where
  identifier := "lawn"
  spawn := ⟨100, 100, 7⟩
  tiles := (((∅ : BTreeMap Position WorldMapTile).insert ⟨100, 100, 7⟩ ⟨102, true⟩).insert
    ⟨100, 99, 7⟩ ⟨102, true⟩).insert ⟨101, 99, 7⟩ ⟨102, true⟩
  source := .feMapV1
  tileItems := ∅
  tileFlags := ∅
  houseTiles := ∅
  towns := KeyedMap.empty
  waypoints := ∅
  bounded := WorldMap.bounded_empty

def knightStands : PositionedSession where
  world := (knightEnters 7 100).step id .empty
  playerPosition := ⟨100, 100, 7⟩
  work := .idle
  disturbed := false
  frames := []

/-- A diagonal step with its two frames, and a viewport. -/
def northEast : List SessionStep :=
  [.walkDiagonal lawnMap false .northEast, .goOn lawnMap, .goOn lawnMap, .goOn lawnMap, .refresh]

theorem frames_centred_northEast :
    (northEast.foldl (PositionedSession.step 7) knightStands).frames.length = 3 ∧
      ∀ frame ∈ (northEast.foldl (PositionedSession.step 7) knightStands).frames,
        frame.disturbed = false → frame.Centred := by
  have hplaced : knightStands.Placed 7 := ⟨by decide +kernel, rfl, rfl⟩
  exact ⟨by decide +kernel,
    frames_centred 7 hplaced (.foldl .start (meets_of_forall (fun _ _ => trivial) _ _))⟩

/-- **Two frames off the player**: the first of a diagonal step, and a viewport after somebody has
moved the player in the shared world. -/
theorem frames_offPlayer :
    (northEast.foldl (PositionedSession.step 7) knightStands).frames.head? =
        some ⟨.before .east ⟨100, 99, 7⟩, some ⟨101, 99, 7⟩, false⟩ ∧
      (([.other id (.player (.teleport 7 ⟨100, 99, 7⟩)), .refresh] : List SessionStep).foldl
          (PositionedSession.step 7) knightStands).frames =
        [⟨.onPlayer ⟨100, 100, 7⟩, some ⟨100, 99, 7⟩, true⟩] := by
  decide +kernel

end ForgottenEngine
