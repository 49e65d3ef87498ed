import ForgottenEngine.TeleportHops

/-!
# When a step goes through

A step of the player is refused where a tile in its way is blocked.  It fails where a coordinate
would leave the map, when the player is dead and the way is free, and when the player arrives on a
floor that the encoders do not draw.

* `Displaces` — what a step may do with the player: nothing, take it to the tile it is addressed
  to, or from there along the teleports;
* `VoluntaryStep.GoesThrough` — the condition on the world at the step, and on what the others have
  done by the time of the teleport;
* `step_goesThrough_iff` — **a step answers, and displaces the player as it should, exactly under
  this condition.**
-/

namespace ForgottenEngine

open Fallible Game PositionedSession MovingSession

/-! ### Behind the section -/

/-- The tiles a teleport would take the player to from here. -/
def routeFrom (ctx : MoveContext) (w : GameWorld) (destination : Position) : List Position :=
  match nativeSteppedOnMapTeleportDestination ctx.worldMap destination with
  | none => []
  | some teleport =>
    hopRoute ctx.worldMap ctx.characterId nativeOtclientMaxTeleportHops [] teleport w

/-- The world in which the player tries the teleport. -/
def Meanwhile.arrived (others : Meanwhile) (w : GameWorld) : GameWorld :=
  others.world .beforeTeleport (others.world .beforeFacing w)

/-- The world behind the teleport. -/
def teleported (ctx : MoveContext) (w : GameWorld) (destination : Position) : GameWorld :=
  (routeFrom ctx w destination).foldl (fun w tile => w.placed ctx.characterId tile) w

/-- What has to hold behind the section of a step that has taken the player to `destination`. -/
structure Arrives (ctx : MoveContext) (others : Meanwhile) (w : GameWorld)
    (destination : Position) : Prop where
  registered : (others.world .beforeFacing w).IsRegistered ctx.characterId
  living : routeFrom ctx (others.arrived w) destination ≠ [] →
    Walks ctx.characterId (others.arrived w)
  surface : OnSurface ((routeFrom ctx (others.arrived w) destination).getLast?.getD destination)
  native : OthersNative ctx
    (others.world .beforeDrawing (teleported ctx (others.arrived w) destination))

section Arrival

variable {ctx : MoveContext} {others : Meanwhile} {s : MovingSession}

theorem updatePlayerFacing_cases (facing : CardinalDirection) :
    (s.shared.world.IsRegistered ctx.characterId → ∃ s',
      updatePlayerFacing ctx.characterId facing s = (.ok (), s') ∧
        s'.shared.world = s.shared.world) ∧
    (¬s.shared.world.IsRegistered ctx.characterId → ∃ e,
      updatePlayerFacing ctx.characterId facing s = (.error e, s)) := by
  constructor
  · intro h
    obtain ⟨player, hplayer⟩ := h
    have hfound : Game.requirePlayer ctx.characterId s.shared.world =
        (.ok player, s.shared.world) :=
      readOr_of_some (f := fun w : GameWorld => w.players[ctx.characterId]?) _ hplayer
    have hsection := onWorld_apply (Game.requirePlayer ctx.characterId) s
    rw [hfound] at hsection
    rw [updatePlayerFacing, bind_of_ok hsection]
    exact ⟨_, rfl, rfl⟩
  · intro h
    have hnone : s.shared.world.players[ctx.characterId]? = none :=
      Option.eq_none_iff_forall_not_mem.mpr fun player hplayer => h ⟨player, hplayer⟩
    have hfailed : Game.requirePlayer ctx.characterId s.shared.world =
        (.error (.unknownPlayer ctx.characterId), s.shared.world) :=
      readOr_of_none (f := fun w : GameWorld => w.players[ctx.characterId]?) _ hnone
    have hsection := onWorld_apply (Game.requirePlayer ctx.characterId) s
    rw [hfailed] at hsection
    rw [updatePlayerFacing, bind_of_error hsection]
    exact ⟨_, rfl⟩

/-- **What follows the section of a step** goes through exactly when the player arrives. -/
theorem arrive_cases (previous destination : Position) (facing : CardinalDirection)
    (drawn : List (CardinalDirection × Position)) (staticSpawns : List DrawnStaticEntity)
    (hdrawn : (∀ step ∈ drawn, OnSurface step.2) ↔ OnSurface destination) :
    (Arrives ctx others s.shared.world destination → ∃ moved s',
      arrive ctx others previous destination facing drawn staticSpawns s = (.ok moved, s') ∧
        s'.shared.world = others.world .beforeDrawing
          (teleported ctx (others.arrived s.shared.world) destination)) ∧
    (¬Arrives ctx others s.shared.world destination → ∃ e s',
      arrive ctx others previous destination facing drawn staticSpawns s = (.error e, s')) := by
  obtain ⟨hturned, hunknown⟩ := @updatePlayerFacing_cases ctx
    ({ s with facing }.withWorld (others.world .beforeFacing s.shared.world)) facing
  rw [arrive, bind_of_ok (write_apply _ _), bind_of_ok (meanwhile_apply _ _ _)]
  by_cases hregistered : (others.world .beforeFacing s.shared.world).IsRegistered ctx.characterId
  · obtain ⟨s₁, hrun, hs₁⟩ := hturned hregistered
    rw [bind_of_ok hrun, bind_of_ok (meanwhile_apply _ _ _)]
    generalize hthere : s₁.withWorld (others.world .beforeTeleport s₁.shared.world) = s₂
    have hworld : s₂.shared.world = others.arrived s.shared.world := by
      rw [← hthere]
      show others.world .beforeTeleport s₁.shared.world = _
      rw [hs₁]
      rfl
    have hfoot := @showStep_cases ctx others s₂ previous destination facing drawn staticSpawns
    have hstays : routeFrom ctx (others.arrived s.shared.world) destination = [] →
        teleported ctx (others.arrived s.shared.world) destination = s₂.shared.world := by
      intro hroute
      rw [teleported, hroute, hworld]
      rfl
    have hwalked : routeFrom ctx (others.arrived s.shared.world) destination = [] →
        (Arrives ctx others s.shared.world destination ↔ (∀ step ∈ drawn, OnSurface step.2) ∧
          OthersNative ctx (others.world .beforeDrawing s₂.shared.world)) := by
      intro hroute
      have hsame := hstays hroute
      rw [hdrawn]
      constructor
      · intro h
        refine ⟨by simpa [hroute] using h.surface, ?_⟩
        rw [← hsame]
        exact h.native
      · rintro ⟨hsurface, hnative⟩
        exact ⟨hregistered, fun hne => absurd hroute hne, by simpa [hroute] using hsurface, by
          rw [hsame]
          exact hnative⟩
    cases hlink : nativeSteppedOnMapTeleportDestination ctx.worldMap destination with
    | none =>
      have hroute : routeFrom ctx (others.arrived s.shared.world) destination = [] := by
        rw [routeFrom, hlink]
      simp only
      rw [hstays hroute, hwalked hroute]
      refine ⟨fun h => ?_, hfoot.2⟩
      obtain ⟨s', hs', hends⟩ := hfoot.1 h
      exact ⟨true, s', hs', hends⟩
    | some teleport =>
      simp only
      have hroute : routeFrom ctx (others.arrived s.shared.world) destination =
          hopRoute ctx.worldMap ctx.characterId nativeOtclientMaxTeleportHops [] teleport
            s₂.shared.world := by
        rw [routeFrom, hlink, hworld]
      obtain ⟨hnowhere, hshown, hfailed⟩ := @activate_cases ctx others s₂ facing teleport
      by_cases hempty : hopRoute ctx.worldMap ctx.characterId nativeOtclientMaxTeleportHops []
          teleport s₂.shared.world = []
      · have hnone := hroute.trans hempty
        rw [bind_of_ok (hnowhere hempty), hstays hnone, hwalked hnone]
        refine ⟨fun h => ?_, hfoot.2⟩
        obtain ⟨s', hs', hends⟩ := hfoot.1 h
        exact ⟨true, s', hs', hends⟩
      · have hends : teleported ctx (others.arrived s.shared.world) destination =
            (hopRoute ctx.worldMap ctx.characterId nativeOtclientMaxTeleportHops [] teleport
              s₂.shared.world).foldl (fun w tile => w.placed ctx.characterId tile)
                s₂.shared.world := by
          rw [teleported, hroute, hworld]
        obtain ⟨arrival, harrival⟩ := Option.ne_none_iff_exists'.mp
          (mt List.getLast?_eq_none_iff.mp hempty)
        have hiff : Arrives ctx others s.shared.world destination ↔
            Walks ctx.characterId s₂.shared.world ∧
            (∀ arrival ∈ (hopRoute ctx.worldMap ctx.characterId nativeOtclientMaxTeleportHops []
              teleport s₂.shared.world).getLast?, OnSurface arrival) ∧
            OthersNative ctx (others.world .beforeDrawing
              (teleported ctx (others.arrived s.shared.world) destination)) := by
          rw [harrival]
          constructor
          · intro h
            refine ⟨?_, ?_, h.native⟩
            · rw [hworld]
              exact h.living (by rw [hroute]; exact hempty)
            · intro position hposition
              cases hposition
              have hsurface := h.surface
              rw [hroute, harrival] at hsurface
              exact hsurface
          · rintro ⟨hwalks, hsurface, hnative⟩
            refine ⟨hregistered, fun _ => by rw [← hworld]; exact hwalks, ?_, hnative⟩
            rw [hroute, harrival]
            exact hsurface arrival rfl
        rw [hiff, hends]
        constructor
        · intro h
          obtain ⟨s', hs', hlast⟩ := hshown hempty h
          rw [bind_of_ok hs']
          exact ⟨false, s', rfl, hlast⟩
        · intro h
          obtain ⟨e, s', hs'⟩ := hfailed hempty h
          rw [bind_of_error hs']
          exact ⟨e, s', rfl⟩
  · obtain ⟨e, he⟩ := hunknown hregistered
    rw [bind_of_error he]
    exact ⟨fun h => absurd h.registered hregistered, fun _ => ⟨_, _, rfl⟩⟩

end Arrival

/-! ### The sections -/

/-- The tiles in the way of a step, the last of them the one it is addressed to. -/
def stepPath : List CardinalDirection → Position → Except CoreError (List Position)
  | [], _ => .ok []
  | direction :: directions, position => do
    let next ← position.step direction
    let tiles ← stepPath directions next
    return next :: tiles

section Sections

variable {p : ℕ} {worldMap : WorldMap} {w : GameWorld}

theorem step_eq_ok {position next : Position} {direction : CardinalDirection}
    (h : position.step direction = .ok next) :
    next.z = position.z ∧ match direction with
      | .north => next.x = position.x ∧ next.y + 1 = position.y
      | .east => next.x = position.x + 1 ∧ next.y = position.y
      | .south => next.x = position.x ∧ next.y = position.y + 1
      | .west => next.x + 1 = position.x ∧ next.y = position.y := by
  cases direction with
  | north =>
    unfold Position.step at h
    by_cases hy : position.y = 0
    · simp only [hy, if_true] at h
      cases h
    · simp only [if_neg hy, Except.ok.injEq] at h
      subst h
      exact ⟨rfl, rfl, by simp only; omega⟩
  | east =>
    unfold Position.step at h
    by_cases hx : u16Max ≤ position.x
    · simp only [if_pos hx] at h
      cases h
    · simp only [if_neg hx, Except.ok.injEq] at h
      subst h
      exact ⟨rfl, rfl, rfl⟩
  | south =>
    unfold Position.step at h
    by_cases hy : u16Max ≤ position.y
    · simp only [if_pos hy] at h
      cases h
    · simp only [if_neg hy, Except.ok.injEq] at h
      subst h
      exact ⟨rfl, rfl, rfl⟩
  | west =>
    unfold Position.step at h
    by_cases hx : position.x = 0
    · simp only [hx, if_true] at h
      cases h
    · simp only [if_neg hx, Except.ok.injEq] at h
      subst h
      exact ⟨rfl, by simp only; omega, rfl⟩

/-- A step reaches a neighbouring tile. -/
theorem step_adjacent {position next : Position} {direction : CardinalDirection}
    (h : position.step direction = .ok next) : position.isAdjacentTo next = true := by
  obtain ⟨hz, hxy⟩ := step_eq_ok h
  have hnear : Position.absDiff position.x next.x ≤ 1 ∧ Position.absDiff position.y next.y ≤ 1 ∧
      position ≠ next := by
    unfold Position.absDiff
    refine ⟨?_, ?_, fun heq => ?_⟩ <;> cases direction <;> simp only at hxy <;>
      (try rw [← heq] at hxy) <;> omega
  exact decide_eq_true ⟨hz.symm, hnear⟩

/-- A player on the map is moved to a free tile beside it, or is refused because it is dead. -/
theorem movePlayer_free {player : Player} {destination : Position}
    (hplayer : w.players[p]? = some player)
    (hadjacent : player.position.isAdjacentTo destination = true)
    (hfree : isBlocked worldMap w destination = false) :
    (Walks p w → living (Living.movePlayer p destination) w =
      (.ok (), w.placed p destination)) ∧
    (¬Walks p w → ∃ e, living (Living.movePlayer p destination) w = (.error e, w)) := by
  have hcreature : w.isStaticCreatureOccupied destination = false :=
    decide_eq_false (isBlocked_eq_false.mp hfree).2.1
  constructor
  · intro hwalks
    obtain ⟨⟨state, hstate, halive⟩, -⟩ := hwalks
    rw [placed_of_some destination hplayer]
    refine living_eq_ok.mpr ⟨_, ?_, rfl⟩
    have hlife : Living.playerRespawnState p w.toLivingWorld = (.ok state, w.toLivingWorld) :=
      readOr_of_some (f := fun l : LivingWorld => l.playerRespawnStates[p]?) _ hstate
    have hfound : Living.requirePlayer p w.toLivingWorld = (.ok player, w.toLivingWorld) :=
      readOr_of_some (f := fun l : LivingWorld => l.players[p]?) _ hplayer
    rw [Living.movePlayer, bind_of_ok hlife, bind_of_ok (read_apply _ _), if_neg (by simp [halive]),
      if_neg (by simp [hcreature]), bind_of_ok hfound, if_neg (by simp [hadjacent]),
      bind_of_ok (write_apply _ _)]
    rfl
  · intro hwalks
    cases hstate : w.playerRespawnStates[p]? with
    | none =>
      refine ⟨.unknownPlayer p, ?_⟩
      have hlife : Living.playerRespawnState p w.toLivingWorld =
          (.error (.unknownPlayer p), w.toLivingWorld) :=
        readOr_of_none (f := fun l : LivingWorld => l.playerRespawnStates[p]?) _ hstate
      show zoom _ _ _ w = _
      rw [zoom, Living.movePlayer, bind_of_error hlife]
      rfl
    | some state =>
      have hdead : state.dead = true := by
        by_contra halive
        exact hwalks ⟨⟨state, hstate, by simpa using halive⟩, player, hplayer⟩
      refine ⟨.playerIsDead p, ?_⟩
      have hlife : Living.playerRespawnState p w.toLivingWorld = (.ok state, w.toLivingWorld) :=
        readOr_of_some (f := fun l : LivingWorld => l.playerRespawnStates[p]?) _ hstate
      show zoom _ _ _ w = _
      rw [zoom, Living.movePlayer, bind_of_ok hlife, bind_of_ok (read_apply _ _),
        if_pos (by simp [hdead])]
      rfl

/-- A cardinal step moves the player to the next tile. -/
theorem movePlayerCardinal_eq {player : Player} {direction : CardinalDirection}
    {destination : Position} (hplayer : w.players[p]? = some player)
    (hstep : player.position.step direction = .ok destination) :
    living (Living.movePlayerCardinal p direction) w =
      ((living (Living.movePlayer p destination) w).1.map fun _ => (player.position, destination),
        (living (Living.movePlayer p destination) w).2) := by
  have hfound : Living.requirePlayer p w.toLivingWorld = (.ok player, w.toLivingWorld) :=
    readOr_of_some (f := fun l : LivingWorld => l.players[p]?) _ hplayer
  have hrun : Living.movePlayerCardinal p direction w.toLivingWorld =
      ((Living.movePlayer p destination w.toLivingWorld).1.map fun _ =>
        (player.position, destination), (Living.movePlayer p destination w.toLivingWorld).2) := by
    rw [Living.movePlayerCardinal, bind_of_ok hfound, hstep, bind_of_ok (ofExcept_apply _ _),
      bind_apply]
    rcases Living.movePlayer p destination w.toLivingWorld with ⟨e | u, l⟩
    · rfl
    · rfl
  unfold living zoom
  rw [hrun]

/-- What the section of a step comes to. -/
inductive SectionEnd (p : ℕ) (worldMap : WorldMap) (directions : List CardinalDirection)
    (player : Player) (w : GameWorld) : Except CoreError (Option TakenStep) × GameWorld → Prop
  | outside (e : CoreError) : stepPath directions player.position = .error e →
      SectionEnd p worldMap directions player w (.error e, w)
  | blocked (tiles : List Position) : stepPath directions player.position = .ok tiles →
      (∃ tile ∈ tiles, isBlocked worldMap w tile = true) →
      SectionEnd p worldMap directions player w (.ok none, w)
  | dead (e : CoreError) (tiles : List Position) : stepPath directions player.position = .ok tiles →
      (∀ tile ∈ tiles, isBlocked worldMap w tile = false) → ¬Walks p w →
      SectionEnd p worldMap directions player w (.error e, w)
  | moved (step : TakenStep) : stepPath directions player.position = .ok (step.drawn.map Prod.snd) →
      (step.drawn.map Prod.snd).getLast? = some step.destination →
      (∀ tile ∈ step.drawn.map Prod.snd, isBlocked worldMap w tile = false) → Walks p w →
      SectionEnd p worldMap directions player w (.ok (some step), w.placed p step.destination)

variable {ctx : MoveContext}

theorem cardinalStep_end {player : Player} (hplayer : w.players[ctx.characterId]? = some player)
    (direction : CardinalDirection) :
    SectionEnd ctx.characterId ctx.worldMap [direction] player w (cardinalStep ctx direction w) := by
  have hfound : Game.requirePlayer ctx.characterId w = (.ok player, w) :=
    readOr_of_some (f := fun w : GameWorld => w.players[ctx.characterId]?) _ hplayer
  rw [cardinalStep, bind_apply, walkSection, bind_of_ok hfound]
  cases hstep : player.position.step direction with
  | error e =>
    have hrun : (ofExcept (.error e) : GameM Position) w = (.error e, w) := rfl
    rw [bind_of_error hrun]
    exact .outside e (by rw [stepPath, hstep]; rfl)
  | ok destination =>
    have hpath : stepPath [direction] player.position = .ok [destination] := by
      rw [stepPath, hstep]
      rfl
    have hgo : (ofExcept (.ok destination) : GameM Position) w = (.ok destination, w) := rfl
    rw [bind_of_ok hgo, bind_of_ok (read_apply _ _)]
    cases hblocked : isBlocked ctx.worldMap w destination with
    | true =>
      rw [if_pos rfl]
      exact .blocked _ hpath ⟨destination, List.mem_singleton_self _, hblocked⟩
    | false =>
      rw [if_neg Bool.false_ne_true]
      have hfree : ∀ tile ∈ [destination], isBlocked ctx.worldMap w tile = false := by
        intro tile htile
        rw [List.mem_singleton.mp htile]
        exact hblocked
      obtain ⟨halive, hdead⟩ := movePlayer_free hplayer (step_adjacent hstep) hblocked
      rw [bind_apply, movePlayerCardinal_eq hplayer hstep]
      by_cases hwalks : Walks ctx.characterId w
      · rw [halive hwalks]
        exact .moved ⟨direction, destination, [(direction, destination)]⟩ hpath rfl hfree hwalks
      · obtain ⟨e, he⟩ := hdead hwalks
        rw [he]
        exact .dead e [destination] hpath hfree hwalks

/-- A diagonal step reaches a neighbouring tile. -/
theorem diagonal_adjacent {direction : NativeOtClientAutoWalkDirection}
    {first second : CardinalDirection} (hsteps : direction.cardinalSteps = [first, second])
    {position between next : Position} (hfirst : position.step first = .ok between)
    (hsecond : between.step second = .ok next) : position.isAdjacentTo next = true := by
  obtain ⟨hz, hxy⟩ := step_eq_ok hfirst
  obtain ⟨hz', hxy'⟩ := step_eq_ok hsecond
  have hnear : Position.absDiff position.x next.x ≤ 1 ∧ Position.absDiff position.y next.y ≤ 1 ∧
      position ≠ next := by
    unfold Position.absDiff
    refine ⟨?_, ?_, fun heq => ?_⟩ <;> cases direction <;> cases hsteps <;> simp only at hxy hxy' <;>
      (try rw [← heq] at hxy') <;> omega
  exact decide_eq_true ⟨(hz'.trans hz).symm, hnear⟩

theorem diagonalStep_end {player : Player} (hplayer : w.players[ctx.characterId]? = some player)
    {direction : NativeOtClientAutoWalkDirection} {first second : CardinalDirection}
    (hsteps : direction.cardinalSteps = [first, second]) :
    SectionEnd ctx.characterId ctx.worldMap [first, second] player w
      (diagonalStep ctx first second w) := by
  have hfound : Game.requirePlayer ctx.characterId w = (.ok player, w) :=
    readOr_of_some (f := fun w : GameWorld => w.players[ctx.characterId]?) _ hplayer
  rw [diagonalStep, bind_apply, walkDiagonalSection, bind_of_ok hfound]
  cases hfirst : player.position.step first with
  | error e =>
    have hrun : (ofExcept (.error e) : GameM Position) w = (.error e, w) := rfl
    rw [bind_of_error hrun]
    exact .outside e (by rw [stepPath, hfirst]; rfl)
  | ok between =>
    have hgo : (ofExcept (.ok between) : GameM Position) w = (.ok between, w) := rfl
    rw [bind_of_ok hgo]
    cases hsecond : between.step second with
    | error e =>
      have hrun : (ofExcept (.error e) : GameM Position) w = (.error e, w) := rfl
      rw [bind_of_error hrun]
      refine .outside e ?_
      rw [stepPath, hfirst]
      show (stepPath [second] between >>= fun tiles => .ok (between :: tiles)) = _
      rw [stepPath, hsecond]
      rfl
    | ok destination =>
      have hgo' : (ofExcept (.ok destination) : GameM Position) w = (.ok destination, w) := rfl
      have hpath : stepPath [first, second] player.position = .ok [between, destination] := by
        rw [stepPath, hfirst]
        show (stepPath [second] between >>= fun tiles => .ok (between :: tiles)) = _
        rw [stepPath, hsecond]
        rfl
      rw [bind_of_ok hgo', bind_of_ok (read_apply _ _)]
      cases hblocked : isBlocked ctx.worldMap w between ||
        isBlocked ctx.worldMap w destination with
      | true =>
        rw [if_pos rfl]
        refine .blocked _ hpath ?_
        rcases Bool.or_eq_true_iff.mp hblocked with hbetween | hdestination
        · exact ⟨between, List.mem_cons_self, hbetween⟩
        · exact ⟨destination, List.mem_cons_of_mem _ List.mem_cons_self, hdestination⟩
      | false =>
        rw [if_neg Bool.false_ne_true]
        obtain ⟨hbetween, hdestination⟩ := Bool.or_eq_false_iff.mp hblocked
        have hfree : ∀ tile ∈ [between, destination], isBlocked ctx.worldMap w tile = false := by
          intro tile htile
          rcases List.mem_cons.mp htile with rfl | hlast
          · exact hbetween
          · rw [List.mem_singleton.mp hlast]
            exact hdestination
        obtain ⟨halive, hdead⟩ := movePlayer_free hplayer
          (diagonal_adjacent hsteps hfirst hsecond) hdestination
        rw [bind_apply]
        by_cases hwalks : Walks ctx.characterId w
        · rw [halive hwalks]
          exact .moved ⟨second, destination, [(first, between), (second, destination)]⟩ hpath rfl
            hfree hwalks
        · obtain ⟨e, he⟩ := hdead hwalks
          rw [he]
          exact .dead e [between, destination] hpath hfree hwalks

theorem stepPath_floor {directions : List CardinalDirection} {position : Position}
    {tiles : List Position} (h : stepPath directions position = .ok tiles) :
    ∀ tile ∈ tiles, tile.z = position.z := by
  induction directions generalizing position tiles with
  | nil =>
    cases h
    exact nofun
  | cons direction directions ih =>
    rw [stepPath, except_bind_eq_ok] at h
    obtain ⟨next, hnext, h⟩ := h
    rw [except_bind_eq_ok] at h
    obtain ⟨rest, hrest, h⟩ := h
    cases h
    have hz := (step_eq_ok hnext).1
    intro tile htile
    rcases List.mem_cons.mp htile with rfl | hlater
    · exact hz
    · exact (ih hrest tile hlater).trans hz

end Sections

/-! ### The steps -/

/-- **What a step may do with the player**: nothing, or take it to the tile it is addressed to, which
is walkable and free, and from there along the teleports. -/
inductive Displaces (ctx : MoveContext) (others : Meanwhile) (directions : List CardinalDirection)
    (w : GameWorld) : GameWorld → Prop
  | stayed : Displaces ctx others directions w w
  | moved (player : Player) (tiles : List Position) (destination : Position) (w₁ w₂ : GameWorld) :
    w.players[ctx.characterId]? = some player → stepPath directions player.position = .ok tiles →
    tiles.getLast? = some destination →
    (∀ tile ∈ tiles, ctx.worldMap.isWalkable tile = true ∧ ¬StandsAt w.staticCreatures tile) →
    Displaced ctx.characterId destination w w₁ → HasTile ctx.characterId ctx.worldMap destination w₁ →
    (w₂ = others.arrived w₁ ∨ ∃ teleport arrival route,
      nativeSteppedOnMapTeleportDestination ctx.worldMap destination = some teleport ∧
      IsRoute ctx.worldMap teleport arrival route ∧
      Displaced ctx.characterId arrival (others.arrived w₁) w₂ ∧
      HasTile ctx.characterId ctx.worldMap arrival w₂) →
    Displaces ctx others directions w (others.world .beforeDrawing w₂)

/-- **When a mover goes through**: the character is frozen; or no tile in its way is outside the
coordinates, and one of them is blocked, or the player is alive and arrives. -/
def Clear (ctx : MoveContext) (others : Meanwhile) (directions : List CardinalDirection)
    (s : MovingSession) : Prop :=
  s.storedFrozen = true ∨ ∃ (player : Player) (tiles : List Position),
    s.shared.world.players[ctx.characterId]? = some player ∧
    stepPath directions player.position = .ok tiles ∧
    ((∃ tile ∈ tiles, isBlocked ctx.worldMap s.shared.world tile = true) ∨
      (Walks ctx.characterId s.shared.world ∧ ∀ destination ∈ tiles.getLast?,
        Arrives ctx others (s.shared.world.placed ctx.characterId destination) destination))

section Steps

variable {ctx : MoveContext} {others : Meanwhile} {s : MovingSession}

theorem cancelWalk_eq (s : MovingSession) :
    ∃ s', cancelWalk ctx s = (.ok false, s') ∧ s'.shared.world = s.shared.world := by
  have hframe : encodeNativeOtclientGameCancelWalkFacing ctx.profile s.facing.protocolDirection =
      .ok [0xb5, s.facing.protocolDirection] := by
    refine if_neg ?_
    rw [supports ctx]
    decide
  rw [cancelWalk, bind_of_ok (read_apply _ _), bind_of_ok (writeFrame_of_ok hframe _)]
  exact ⟨_, rfl, rfl⟩

theorem Indexed.world {w : GameWorld} (h : Indexed w) (others : Meanwhile) (point : MovePoint) :
    Indexed (others.world point w) := by
  unfold Meanwhile.world
  induction others.events point generalizing w with
  | nil => exact h
  | cons event events ih => exact ih (h.step others.toLowercase event)

theorem Displaced.indexed {p : ℕ} {position : Position} {w w' : GameWorld}
    (h : Displaced p position w w') (hw : Indexed w) : Indexed w' := by
  intro tile
  rw [h.index, h.creatures]
  exact hw tile

/-- Behind the section the player stays, or is taken along the teleports. -/
theorem teleported_displaced {w₁ : GameWorld} {destination : Position}
    (hindexed : Indexed (others.arrived w₁)) (h : Arrives ctx others w₁ destination) :
    teleported ctx (others.arrived w₁) destination = others.arrived w₁ ∨
      ∃ teleport arrival route,
        nativeSteppedOnMapTeleportDestination ctx.worldMap destination = some teleport ∧
        IsRoute ctx.worldMap teleport arrival route ∧
        Displaced ctx.characterId arrival (others.arrived w₁)
          (teleported ctx (others.arrived w₁) destination) ∧
        HasTile ctx.characterId ctx.worldMap arrival
          (teleported ctx (others.arrived w₁) destination) := by
  by_cases hroute : routeFrom ctx (others.arrived w₁) destination = []
  · left
    rw [teleported, hroute]
    rfl
  · right
    have hwalks := h.living hroute
    cases hlink : nativeSteppedOnMapTeleportDestination ctx.worldMap destination with
    | none =>
      rw [routeFrom, hlink] at hroute
      exact absurd rfl hroute
    | some teleport =>
      have hsame : routeFrom ctx (others.arrived w₁) destination = hopRoute ctx.worldMap
          ctx.characterId nativeOtclientMaxTeleportHops [] teleport (others.arrived w₁) := by
        rw [routeFrom, hlink]
      rw [hsame] at hroute
      obtain ⟨finish, hfinish⟩ := Option.ne_none_iff_exists'.mp
        (mt List.getLast?_eq_none_iff.mp hroute)
      have hrun := @teleportHops_walks ctx.characterId ctx.worldMap _
        nativeOtclientMaxTeleportHops [] teleport none hwalks
      rw [hfinish] at hrun
      rw [teleported, hsame]
      cases teleportHops_end hrun with
      | arrived route arrival w' w₂ hroute' _ _ hdisplaced hbetween hfree =>
        exact ⟨teleport, finish, route, rfl, hroute', hdisplaced,
          hasTile_of_displaced hindexed hdisplaced hbetween hfree⟩

/-- **A mover goes through exactly when the way is clear**, and then displaces the player as it
should. -/
theorem moveBy_cases {walk : GameM (Option TakenStep)} {directions : List CardinalDirection}
    (hindexed : Indexed s.shared.world)
    (hwalk : ∀ player, s.shared.world.players[ctx.characterId]? = some player →
      SectionEnd ctx.characterId ctx.worldMap directions player s.shared.world
        (walk s.shared.world)) :
    (Clear ctx others directions s → ∃ moved s', moveBy ctx others walk s = (.ok moved, s') ∧
      Displaces ctx others directions s.shared.world s'.shared.world) ∧
    (¬Clear ctx others directions s → ∃ e s', moveBy ctx others walk s = (.error e, s')) := by
  obtain ⟨s', hcancelled, hkept⟩ := @cancelWalk_eq ctx s
  have hstayed : Displaces ctx others directions s.shared.world s'.shared.world := by
    rw [hkept]
    exact .stayed
  rw [moveBy, bind_of_ok (read_apply _ _)]
  by_cases hfrozen : s.storedFrozen = true
  · rw [if_pos hfrozen]
    exact ⟨fun _ => ⟨false, s', hcancelled, hstayed⟩, fun h => absurd (.inl hfrozen) h⟩
  · rw [if_neg hfrozen]
    cases hplayer : s.shared.world.players[ctx.characterId]? with
    | none =>
      have hfailed : Game.requirePlayer ctx.characterId s.shared.world =
          (.error (.unknownPlayer ctx.characterId), s.shared.world) :=
        readOr_of_none (f := fun w : GameWorld => w.players[ctx.characterId]?) _ hplayer
      have hsection := onWorld_apply (Game.requirePlayer ctx.characterId) s
      rw [hfailed] at hsection
      rw [bind_of_error hsection]
      refine ⟨fun h => ?_, fun _ => ⟨_, _, rfl⟩⟩
      rcases h with h | ⟨player, tiles, hsome, -⟩
      · exact absurd h hfrozen
      · rw [hplayer] at hsome
        cases hsome
    | some player =>
      have hfound : Game.requirePlayer ctx.characterId s.shared.world =
          (.ok player, s.shared.world) :=
        readOr_of_some (f := fun w : GameWorld => w.players[ctx.characterId]?) _ hplayer
      have hsection := onWorld_apply (Game.requirePlayer ctx.characterId) s
      rw [hfound] at hsection
      rw [bind_of_ok hsection]
      show (Clear ctx others directions s → ∃ moved s', (onWorld walk >>= fun _ => _) s = _ ∧ _) ∧
        (¬Clear ctx others directions s → ∃ e s', (onWorld walk >>= fun _ => _) s = _)
      have hrun := onWorld_apply walk s
      have hclear : ∀ {tiles : List Position}, stepPath directions player.position = .ok tiles →
          (Clear ctx others directions s ↔
            ((∃ tile ∈ tiles, isBlocked ctx.worldMap s.shared.world tile = true) ∨
              (Walks ctx.characterId s.shared.world ∧ ∀ destination ∈ tiles.getLast?, Arrives ctx
                others (s.shared.world.placed ctx.characterId destination) destination))) := by
        intro tiles htiles
        constructor
        · intro h
          rcases h with h | ⟨player', tiles', hplayer', htiles', h⟩
          · exact absurd h hfrozen
          · rw [hplayer] at hplayer'
            cases hplayer'
            rw [htiles] at htiles'
            cases htiles'
            exact h
        · exact fun h => .inr ⟨player, tiles, hplayer, htiles, h⟩
      have hend := hwalk player hplayer
      generalize walk s.shared.world = result at hrun hend
      cases hend with
      | outside e houtside =>
        rw [bind_of_error hrun]
        refine ⟨fun h => ?_, fun _ => ⟨_, _, rfl⟩⟩
        rcases h with h | ⟨player', tiles, hplayer', htiles, -⟩
        · exact absurd h hfrozen
        · rw [hplayer] at hplayer'
          cases hplayer'
          rw [houtside] at htiles
          cases htiles
      | blocked tiles htiles hblocked =>
        rw [bind_of_ok hrun]
        exact ⟨fun _ => ⟨false, s', hcancelled, hstayed⟩,
          fun h => absurd ((hclear htiles).mpr (.inl hblocked)) h⟩
      | dead e tiles htiles hfree hdead =>
        rw [bind_of_error hrun]
        refine ⟨fun h => ?_, fun _ => ⟨_, _, rfl⟩⟩
        rcases (hclear htiles).mp h with ⟨tile, htile, hblocked⟩ | ⟨hwalks, -⟩
        · rw [hfree tile htile] at hblocked
          cases hblocked
        · exact absurd hwalks hdead
      | moved step htiles hlast hfree hwalks =>
        rw [bind_of_ok hrun]
        have hregistered : s.shared.world.IsRegistered ctx.characterId := ⟨player, hplayer⟩
        have hnone : ¬∃ tile ∈ step.drawn.map Prod.snd,
            isBlocked ctx.worldMap s.shared.world tile = true := by
          rintro ⟨tile, htile, hblocked⟩
          rw [hfree tile htile] at hblocked
          cases hblocked
        have hfloor := stepPath_floor htiles
        have hmem := List.mem_of_getLast? hlast
        have hdrawn : (∀ taken ∈ step.drawn, OnSurface taken.2) ↔ OnSurface step.destination := by
          have hsame : ∀ tile ∈ step.drawn.map Prod.snd,
              (OnSurface tile ↔ OnSurface step.destination) := by
            intro tile htile
            unfold OnSurface nativePosition
            rw [hfloor tile htile, hfloor step.destination hmem]
          constructor
          · intro h
            obtain ⟨taken, htaken, heq⟩ := List.mem_map.mp hmem
            rw [← heq]
            exact h taken htaken
          · intro h taken htaken
            exact (hsame taken.2 (List.mem_map_of_mem htaken)).mpr h
        obtain ⟨hgood, hbad⟩ := @arrive_cases ctx others
          (s.withWorld (s.shared.world.placed ctx.characterId step.destination)) player.position
          step.destination step.facing step.drawn (ctx.activeStaticSpawns
            (s.shared.world.placed ctx.characterId step.destination)) hdrawn
        have harrives : Clear ctx others directions s ↔ Arrives ctx others
            (s.shared.world.placed ctx.characterId step.destination) step.destination := by
          rw [hclear htiles, or_iff_right hnone, and_iff_right hwalks, hlast]
          exact ⟨fun h => h _ rfl, fun h destination hdestination => by cases hdestination; exact h⟩
        rw [harrives]
        refine ⟨fun h => ?_, hbad⟩
        obtain ⟨moved, s₁, hs₁, hends⟩ := hgood h
        refine ⟨moved, s₁, hs₁, ?_⟩
        rw [hends]
        have hdisplaced := displaced_placed step.destination hregistered
        have hplaced := hdisplaced.indexed hindexed
        refine .moved player (step.drawn.map Prod.snd) step.destination _ _ hplayer htiles hlast
          (fun tile htile => ?_) hdisplaced
          (hasTile_of_displaced hindexed hdisplaced (.inl rfl) (hfree _ hmem))
          (teleported_displaced ((hplaced.world others _).world others _) h)
        obtain ⟨hwalkable, hclear, -⟩ := isBlocked_eq_false.mp (hfree tile htile)
        exact ⟨hwalkable, fun hstands => hclear ((hindexed tile).mpr hstands)⟩

end Steps

namespace VoluntaryStep

/-- The player has an equipment entry, as everybody in the world has. -/
def HasEquipment (ctx : MoveContext) (w : GameWorld) : Prop :=
  ∃ equipment, w.playerEquipments[ctx.characterId]? = some equipment

/-- **When a step goes through.**  The handlers look at the equipment and at the cooldown before
they try it. -/
def GoesThrough (ctx : MoveContext) (others : Meanwhile) (s : MovingSession) (step : VoluntaryStep) :
    Prop :=
  match step with
  | cardinal exhausted _ | diagonal exhausted _ _ _ _ =>
    HasEquipment ctx s.shared.world ∧ (exhausted = true ∨ Clear ctx others step.directions s)
  | clickPath _ => HasEquipment ctx s.shared.world ∧ Clear ctx others step.directions s
  | scheduled _ => Clear ctx others step.directions s

theorem nativeWalkStepDelay_cases {ctx : MoveContext} (s : MovingSession) :
    (HasEquipment ctx s.shared.world → nativeWalkStepDelay ctx s = (.ok (), s)) ∧
    (¬HasEquipment ctx s.shared.world → ∃ e, nativeWalkStepDelay ctx s = (.error e, s)) := by
  have hsection := onWorld_apply (Game.inventory (World.playerEquipment ctx.characterId)) s
  constructor
  · intro h
    obtain ⟨equipment, hequipment⟩ := h
    have hfound : World.playerEquipment ctx.characterId s.shared.world.toWorldState =
        (.ok equipment, s.shared.world.toWorldState) :=
      readOr_of_some (f := fun w : WorldState => w.playerEquipments[ctx.characterId]?) _ hequipment
    have hgame : Game.inventory (World.playerEquipment ctx.characterId) s.shared.world =
        (.ok equipment, s.shared.world) := by
      unfold Game.inventory zoom
      rw [hfound]
      rfl
    rw [hgame] at hsection
    rw [nativeWalkStepDelay, bind_of_ok hsection]
    rfl
  · intro h
    have hnone : s.shared.world.playerEquipments[ctx.characterId]? = none :=
      Option.eq_none_iff_forall_not_mem.mpr fun equipment hequipment => h ⟨equipment, hequipment⟩
    have hfailed : World.playerEquipment ctx.characterId s.shared.world.toWorldState =
        (.error (.unknownPlayer ctx.characterId), s.shared.world.toWorldState) :=
      readOr_of_none (f := fun w : WorldState => w.playerEquipments[ctx.characterId]?) _ hnone
    have hgame : Game.inventory (World.playerEquipment ctx.characterId) s.shared.world =
        (.error (.unknownPlayer ctx.characterId), s.shared.world) := by
      unfold Game.inventory zoom
      rw [hfailed]
      rfl
    rw [hgame] at hsection
    rw [nativeWalkStepDelay, bind_of_error hsection]
    exact ⟨_, rfl⟩

/-- Behind the look at the equipment. -/
theorem goesThrough_delayed {s : MovingSession} {P : MovingSession → Prop} (ctx : MoveContext)
    (rest : MoveM Unit) :
    (∃ s', (nativeWalkStepDelay ctx >>= fun _ => rest) s = (.ok (), s') ∧ P s') ↔
      HasEquipment ctx s.shared.world ∧ ∃ s', rest s = (.ok (), s') ∧ P s' := by
  obtain ⟨hequipped, hbare⟩ := @nativeWalkStepDelay_cases ctx s
  by_cases h : HasEquipment ctx s.shared.world
  · rw [bind_of_ok (hequipped h), and_iff_right h]
  · obtain ⟨e, he⟩ := hbare h
    rw [bind_of_error he]
    refine iff_of_false (fun hok => ?_) fun hboth => h hboth.1
    obtain ⟨s', hs', -⟩ := hok
    cases hs'

/-- A mover whose answer nobody looks at. -/
theorem goesThrough_void {s : MovingSession} {P : MovingSession → Prop} {C : Prop}
    {mover : MoveM Bool} (h : (C → ∃ moved s', mover s = (.ok moved, s') ∧ P s') ∧
      (¬C → ∃ e s', mover s = (.error e, s'))) :
    (∃ s', (mover >>= fun _ => pure ()) s = (.ok (), s') ∧ P s') ↔ C := by
  constructor
  · intro hok
    by_contra hnot
    obtain ⟨s', hs', -⟩ := hok
    obtain ⟨e, s₁, he⟩ := h.2 hnot
    rw [bind_of_error he] at hs'
    cases hs'
  · intro hc
    obtain ⟨moved, s', hs', hp⟩ := h.1 hc
    exact ⟨s', by rw [bind_of_ok hs']; rfl, hp⟩

end VoluntaryStep

open VoluntaryStep

/-- **A step answers, and displaces the player as it should, exactly when it goes through**: when the
character is frozen or the step comes inside the cooldown; or when no tile in its way is outside the
coordinates, and one of them is blocked, or the player is alive and arrives on the surface. -/
theorem step_goesThrough_iff (ctx : MoveContext) (others : Meanwhile) (events : List GameEvent)
    (step : VoluntaryStep) {s : MovingSession}
    (hworld : s.shared.world = events.foldl (GameEvent.step others.toLowercase) .empty) :
    (∃ s', step.perform ctx others s = (.ok (), s') ∧
      Displaces ctx others step.directions s.shared.world s'.shared.world) ↔
    step.GoesThrough ctx others s := by
  have hindexed : Indexed s.shared.world := by
    rw [hworld]
    exact fun position => occupied_iff_standsAt others.toLowercase events position
  have hcardinal (direction : CardinalDirection) := goesThrough_void
    (@moveBy_cases ctx others s (cardinalStep ctx direction) [direction] hindexed
      fun player hplayer => cardinalStep_end hplayer direction)
  have hexhausted : ∃ s', (pure () : MoveM Unit) s = (.ok (), s') ∧
      Displaces ctx others step.directions s.shared.world s'.shared.world := ⟨s, rfl, .stayed⟩
  cases step with
  | cardinal exhausted direction =>
    refine (goesThrough_delayed ctx _).trans (and_congr_right fun _ => ?_)
    cases exhausted with
    | true => exact iff_of_true hexhausted (.inl rfl)
    | false => exact (hcardinal direction).trans (or_iff_right Bool.false_ne_true).symm
  | diagonal exhausted direction first second steps =>
    refine (goesThrough_delayed ctx _).trans (and_congr_right fun _ => ?_)
    cases exhausted with
    | true => exact iff_of_true hexhausted (.inl rfl)
    | false =>
      have hdiagonal := goesThrough_void
        (@moveBy_cases ctx others s (diagonalStep ctx first second) [first, second] hindexed
          fun player hplayer => diagonalStep_end hplayer steps)
      exact hdiagonal.trans (or_iff_right Bool.false_ne_true).symm
  | clickPath direction =>
    exact (goesThrough_delayed ctx _).trans (and_congr_right fun _ => hcardinal direction)
  | scheduled direction => exact hcardinal direction

/-- A step into a tile that is not there is answered. -/
theorem step_goesThrough_blocked :
    ∃ s', (VoluntaryStep.cardinal false .north).perform padContext nobodyElse knightWalks =
        (.ok (), s') ∧
      Displaces padContext nobodyElse [.north] knightWalks.shared.world s'.shared.world := by
  refine (step_goesThrough_iff padContext nobodyElse [knightEnters 7 100] (.cardinal false .north)
    rfl).mpr ⟨Option.isSome_iff_exists.mp (by decide +kernel), .inr (.inr
      ⟨⟨7, 1, "Knight", ⟨100, 100, 7⟩, 1, 0, 0⟩, [⟨100, 99, 7⟩], by decide +kernel, rfl, .inl
        ⟨⟨100, 99, 7⟩, List.mem_singleton_self _, by decide +kernel⟩⟩)⟩

/-- A knight on the western edge of the coordinates. -/
def knightOnEdge : MovingSession :=
  { knightWalks with
    shared := ⟨[knightEnters 7 0].foldl (GameEvent.step id) .empty, ∅, ∅, 1, ∅, ∅⟩
    playerPosition := ⟨0, 100, 7⟩
    storedPosition := ⟨0, 100, 7⟩ }

/-- **A step to the west of the map** ends the session of a living player. -/
theorem stepWest_fails :
    ((VoluntaryStep.cardinal false .west).perform padContext nobodyElse knightOnEdge).1 =
        .error (.host (.core (.mapBoundary ⟨0, 100, 7⟩))) ∧
      ¬∀ (ctx : MoveContext) (others : Meanwhile) (events : List GameEvent) (step : VoluntaryStep)
        (s : MovingSession),
        s.shared.world = events.foldl (GameEvent.step others.toLowercase) .empty →
        s.shared.world.IsRegistered ctx.characterId → Walks ctx.characterId s.shared.world →
        ∃ s', step.perform ctx others s = (.ok (), s') ∧
          Displaces ctx others step.directions s.shared.world s'.shared.world := by
  have hfails : ((VoluntaryStep.cardinal false .west).perform padContext nobodyElse
      knightOnEdge).1 = .error (.host (.core (.mapBoundary ⟨0, 100, 7⟩))) := by
    decide +kernel
  refine ⟨hfails, fun hall => ?_⟩
  have hplayer : knightOnEdge.shared.world.IsRegistered 7 :=
    Option.isSome_iff_exists.mp (by decide +kernel)
  have hwalks : Walks 7 knightOnEdge.shared.world := by
    refine ⟨⟨{}, ?_, rfl⟩, hplayer⟩
    decide +kernel
  obtain ⟨s', hs', -⟩ := hall padContext nobodyElse [knightEnters 7 0] (.cardinal false .west)
    knightOnEdge rfl hplayer hwalks
  rw [hs'] at hfails
  cases hfails

end ForgottenEngine
