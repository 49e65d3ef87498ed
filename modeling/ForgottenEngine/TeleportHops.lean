import ForgottenEngine.MovingSession
import ForgottenEngine.CreatureRuns

/-!
# From teleport to teleport

A teleport leads on when a tile holds a single one.  Activating one takes the player along these
links, to the last tile that is walkable, free and new.

* `IsRoute` — the tiles of a walk along the links, none of them twice;
* `HasTile` — the player stands on a walkable tile, and nobody else does;
* `teleportHops_end` — the hops follow a route of new tiles, or stay where they are;
* `teleportHops_error` — a refusal is that of the first hop, of an unknown or a dead player;
* `teleport_activated` — **a teleport takes the player along a route of at most eight tiles** to a
  tile it has to itself; otherwise nothing has changed.
-/

namespace ForgottenEngine

open Fallible Game PositionedSession

/-- A walk along the single teleports of a map. -/
structure IsRoute (worldMap : WorldMap) (start finish : Position) (route : List Position) : Prop where
  head : route.head? = some start
  last : route.getLast? = some finish
  links : route.IsChain fun here next =>
    nativeSteppedOnMapTeleportDestination worldMap here = some next
  nodup : route.Nodup

/-- The player has a walkable tile to itself. -/
structure HasTile (p : ℕ) (worldMap : WorldMap) (position : Position) (w : GameWorld) : Prop where
  stands : positionIn p w = some position
  walkable : worldMap.isWalkable position = true
  alone : ∀ (q : ℕ) (other : Player), w.players[q]? = some other → q ≠ p → other.position ≠ position
  clear : ¬StandsAt w.staticCreatures position

/-! ### One hop -/

/-- Nothing but the position of the player is different. -/
structure Displaced (p : ℕ) (position : Position) (w w' : GameWorld) : Prop where
  stands : positionIn p w' = some position
  others : ∀ q : ℕ, q ≠ p → w'.players[q]? = w.players[q]?
  creatures : w'.staticCreatures = w.staticCreatures
  index : w'.staticOccupiedPositions = w.staticOccupiedPositions
  lifecycle : w'.playerRespawnStates = w.playerRespawnStates

/-- The world with the player on another tile. -/
def GameWorld.placed (w : GameWorld) (p : ℕ) (position : Position) : GameWorld :=
  match w.players[p]? with
  | none => w
  | some player =>
    w.putLiving (w.toLivingWorld.putPlayer p { player with position := position }).changed

section Hops

variable {p : ℕ} {worldMap : WorldMap} {w w₁ w' : GameWorld}

theorem Displaced.trans {a b : Position} (h : Displaced p a w w₁) (h' : Displaced p b w₁ w') :
    Displaced p b w w' where
  stands := h'.stands
  others q hq := (h'.others q hq).trans (h.others q hq)
  creatures := h'.creatures.trans h.creatures
  index := h'.index.trans h.index
  lifecycle := h'.lifecycle.trans h.lifecycle

theorem placed_of_some {player : Player} (position : Position) (h : w.players[p]? = some player) :
    w.placed p position = w.putLiving
      (w.toLivingWorld.putPlayer p { player with position := position }).changed := by
  unfold GameWorld.placed
  rw [h]

theorem displaced_placed (position : Position) (h : w.IsRegistered p) :
    Displaced p position w (w.placed p position) := by
  obtain ⟨player, hplayer⟩ := h
  rw [placed_of_some position hplayer]
  refine ⟨positionIn_put rfl, fun q hq => ?_, rfl, rfl, rfl⟩
  show (w.players.insert p { player with position := position })[q]? = w.players[q]?
  rw [Std.ExtTreeMap.getElem?_insert]
  simp [Ne.symm hq]

/-- The tile is walkable, and nobody stands on it. -/
theorem isBlocked_eq_false {position : Position} :
    isBlocked worldMap w position = false ↔ worldMap.isWalkable position = true ∧
      position ∉ w.staticOccupiedPositions ∧
      ∀ (q : ℕ) (other : Player), w.players[q]? = some other → other.position ≠ position := by
  have hplayers : w.isPlayerOccupied position = false ↔
      ∀ (q : ℕ) (other : Player), w.players[q]? = some other → other.position ≠ position := by
    rw [Bool.eq_false_iff, ne_eq, isPlayerOccupied_iff]
    constructor
    · intro h q other hother hposition
      exact h ⟨q, other, hother, hposition⟩
    · intro h hoccupied
      obtain ⟨q, other, hother, hposition⟩ := hoccupied
      exact h q other hother hposition
  have hcreature : w.isStaticCreatureOccupied position = false ↔
      position ∉ w.staticOccupiedPositions := by
    simp [LivingWorld.isStaticCreatureOccupied]
  rw [isBlocked, Bool.or_eq_false_iff, Bool.or_eq_false_iff, hplayers, hcreature,
    Bool.not_eq_false', and_assoc]

/-- The player is in the world, and alive. -/
def Walks (p : ℕ) (w : GameWorld) : Prop :=
  (∃ state : PlayerRespawnState, w.playerRespawnStates[p]? = some state ∧ state.dead = false) ∧
    w.IsRegistered p

theorem Displaced.walks {position : Position} (h : Displaced p position w w') (hw : Walks p w) :
    Walks p w' := by
  obtain ⟨⟨state, hstate, halive⟩, -⟩ := hw
  obtain ⟨player, hplayer, -⟩ := Option.map_eq_some_iff.mp h.stands
  exact ⟨⟨state, by rw [h.lifecycle, hstate], halive⟩, player, hplayer⟩

/-- **A hop to a free tile**: a living player arrives. -/
theorem teleportPlayer_free {current : Position} (hfree : isBlocked worldMap w current = false)
    (hwalks : Walks p w) :
    ∃ source, living (Living.teleportPlayer p current) w =
      (.ok (source, current), w.placed p current) := by
  obtain ⟨⟨state, hstate, halive⟩, player, hplayer⟩ := hwalks
  obtain ⟨-, hindex, hnobody⟩ := isBlocked_eq_false.mp hfree
  have hcreature : w.isStaticCreatureOccupied current = false := decide_eq_false hindex
  have hother : (w.players.toList.any fun e => e.2.id ≠ p ∧ e.2.position = current) = false := by
    rw [List.any_eq_false]
    intro e he
    have hmem := Std.ExtTreeMap.mem_toList_iff_getElem?_eq_some.mp he
    simp [hnobody e.1 e.2 hmem]
  rw [placed_of_some current hplayer]
  refine ⟨player.position, living_eq_ok.mpr ⟨_, ?_, rfl⟩⟩
  have hlife : Living.playerRespawnState p w.toLivingWorld = (.ok state, w.toLivingWorld) :=
    readOr_of_some (f := fun l : LivingWorld => l.playerRespawnStates[p]?) _ hstate
  have hfound : Living.requirePlayer p w.toLivingWorld = (.ok player, w.toLivingWorld) :=
    readOr_of_some (f := fun l : LivingWorld => l.players[p]?) _ hplayer
  rw [Living.teleportPlayer, bind_of_ok hlife, bind_of_ok (read_apply _ _),
    bind_of_ok (read_apply _ _), if_neg (by simp [halive]), if_neg (by simp [hcreature]),
    if_neg (by rw [hother]; exact Bool.false_ne_true), bind_of_ok hfound, bind_of_ok (write_apply _ _)]
  rfl

/-- Anybody else is refused. -/
theorem not_walks_of_refused {current : Position} (hfree : isBlocked worldMap w current = false)
    {e : CoreError} (h : living (Living.teleportPlayer p current) w = (.error e, w')) :
    w' = w ∧ ¬Walks p w := by
  refine ⟨teleportPlayer_refused h, fun hwalks => ?_⟩
  obtain ⟨source, hrun⟩ := teleportPlayer_free hfree hwalks
  rw [hrun] at h
  cases h

theorem teleportPlayer_ok {current : Position} (hfree : isBlocked worldMap w current = false)
    {moved : Position × Position}
    (h : living (Living.teleportPlayer p current) w = (.ok moved, w')) :
    moved.2 = current ∧ Displaced p current w w' ∧ Walks p w := by
  by_cases hwalks : Walks p w
  · obtain ⟨source, hrun⟩ := teleportPlayer_free hfree hwalks
    rw [hrun] at h
    cases h
    exact ⟨rfl, displaced_placed current hwalks.2, hwalks⟩
  · obtain ⟨l, hrun, rfl⟩ := living_eq_ok.mp h
    simp only [Living.teleportPlayer, Living.playerRespawnState, Living.requirePlayer, bind_eq_ok,
      readOr_eq_ok, read_apply, guard_eq_ok, Prod.mk.injEq] at hrun
    obtain ⟨state, _, ⟨hstate, rfl⟩, _, _, ⟨-, rfl⟩, _, _, ⟨-, rfl⟩, halive, -, -, player, _,
      ⟨hplayer, rfl⟩, -⟩ := hrun
    exact absurd ⟨⟨state, hstate, by simpa using halive⟩, player, hplayer⟩ hwalks

/-! ### The hops -/

/-- What the hops have come to: nowhere new, or to the end of a route of new tiles. -/
inductive HopsEnd (p : ℕ) (worldMap : WorldMap) (hops : ℕ) (visited : List Position)
    (current : Position) (reached : Option Position) (w : GameWorld) :
    Option Position → GameWorld → Prop
  | stayed : HopsEnd p worldMap hops visited current reached w reached w
  | arrived (route : List Position) (arrival : Position) (w' w₁ : GameWorld) :
    IsRoute worldMap current arrival route → route.length ≤ hops →
      (∀ position ∈ route, position ∉ visited) → Displaced p arrival w w' →
      (w₁ = w ∨ ∃ position, Displaced p position w w₁) → isBlocked worldMap w₁ arrival = false →
      HopsEnd p worldMap hops visited current reached w (some arrival) w'

theorem isRoute_single (worldMap : WorldMap) (position : Position) :
    IsRoute worldMap position position [position] where
  head := rfl
  last := rfl
  links := List.isChain_singleton _
  nodup := List.nodup_singleton _

theorem IsRoute.cons {current next finish : Position} {route : List Position}
    (h : IsRoute worldMap next finish route)
    (hlink : nativeSteppedOnMapTeleportDestination worldMap current = some next)
    (hnew : current ∉ route) : IsRoute worldMap current finish (current :: route) where
  head := rfl
  last := by
    rw [List.getLast?_cons, h.last]
    rfl
  links := by
    refine List.isChain_cons.mpr ⟨fun y hy => ?_, h.links⟩
    have hfirst : y = next := by
      have := hy.symm.trans h.head
      exact Option.some.inj this
    rw [hlink, hfirst]
  nodup := List.nodup_cons.mpr ⟨hnew, h.nodup⟩

/-- **The hops follow a route.** -/
theorem teleportHops_end {hops : ℕ} {visited : List Position} {current : Position}
    {reached result : Option Position}
    (h : teleportHops p worldMap hops visited current reached w = (.ok result, w')) :
    HopsEnd p worldMap hops visited current reached w result w' := by
  induction hops generalizing visited current reached w with
  | zero =>
    cases h
    exact .stayed
  | succ hops ih =>
    rw [teleportHops, bind_of_ok (read_apply _ _)] at h
    split at h
    · cases h
      exact .stayed
    · next hgo =>
      rw [not_or, Bool.not_eq_true] at hgo
      obtain ⟨hnew, hfree⟩ := hgo
      rw [bind_eq_ok] at h
      obtain ⟨⟨source, arrived⟩, w₁, hmove, h⟩ := h
      obtain ⟨harrived, hdisplaced, -⟩ := teleportPlayer_ok hfree hmove
      simp only at harrived h
      subst harrived
      have hsingle : HopsEnd p worldMap (hops + 1) visited arrived reached w (some arrived) w₁ :=
        .arrived [arrived] arrived w₁ w (isRoute_single worldMap arrived) (by simp)
          (fun position hposition => by rw [List.mem_singleton.mp hposition]; exact hnew)
          hdisplaced (.inl rfl) hfree
      cases hnext : nativeSteppedOnMapTeleportDestination worldMap arrived with
      | none =>
        simp only [hnext] at h
        cases h
        exact hsingle
      | some next =>
        simp only [hnext] at h
        cases ih h with
        | stayed => exact hsingle
        | arrived route arrival w' w₂ hroute hlength hroutes hthere hbetween hfree' =>
          have hfresh : arrived ∉ route := fun hmem =>
            hroutes arrived hmem List.mem_cons_self
          refine .arrived (arrived :: route) arrival w' w₂ (hroute.cons hnext hfresh)
            (Nat.succ_le_succ hlength) (fun position hposition => ?_) (hdisplaced.trans hthere)
            (.inr ?_) hfree'
          · rcases List.mem_cons.mp hposition with rfl | hlater
            · exact hnew
            · exact fun hmem => hroutes position hlater (List.mem_cons_of_mem _ hmem)
          · rcases hbetween with rfl | ⟨position, hbetween⟩
            · exact ⟨_, hdisplaced⟩
            · exact ⟨_, hdisplaced.trans hbetween⟩

/-- Where the hops end, the player has the tile to itself. -/
theorem hasTile_of_displaced {arrival : Position} (hindexed : Indexed w)
    (hdisplaced : Displaced p arrival w w')
    (hbetween : w₁ = w ∨ ∃ position, Displaced p position w w₁)
    (hfree : isBlocked worldMap w₁ arrival = false) : HasTile p worldMap arrival w' := by
  obtain ⟨hwalkable, hindex, hnobody⟩ := isBlocked_eq_false.mp hfree
  have hothers : ∀ q : ℕ, q ≠ p → w'.players[q]? = w₁.players[q]? := by
    intro q hq
    rcases hbetween with rfl | ⟨position, hbetween⟩
    · exact hdisplaced.others q hq
    · rw [hdisplaced.others q hq, hbetween.others q hq]
  have hsame : w₁.staticOccupiedPositions = w.staticOccupiedPositions := by
    rcases hbetween with rfl | ⟨position, hbetween⟩
    · rfl
    · exact hbetween.index
  refine ⟨hdisplaced.stands, hwalkable, fun q other hother hq => ?_, ?_⟩
  · exact hnobody q other (by rw [← hothers q hq]; exact hother)
  · rw [hdisplaced.creatures, ← hindexed arrival, ← hsame]
    exact hindex

/-- The tiles the hops come to. -/
def hopRoute (worldMap : WorldMap) (p : ℕ) : ℕ → List Position → Position → GameWorld → List Position
  | 0, _, _, _ => []
  | hops + 1, visited, current, w =>
    if current ∈ visited ∨ isBlocked worldMap w current then []
    else
      match nativeSteppedOnMapTeleportDestination worldMap current with
      | none => [current]
      | some next => current :: hopRoute worldMap p hops (current :: visited) next
          (w.placed p current)

/-- **A living player is never refused**, and comes to the last tile of the route. -/
theorem teleportHops_walks (hops : ℕ) (visited : List Position) (current : Position)
    (reached : Option Position) (hwalks : Walks p w) :
    teleportHops p worldMap hops visited current reached w =
      (.ok ((hopRoute worldMap p hops visited current w).getLast?.or reached),
        (hopRoute worldMap p hops visited current w).foldl (fun w tile => w.placed p tile) w) := by
  induction hops generalizing visited current reached w with
  | zero => rfl
  | succ hops ih =>
    rw [teleportHops, bind_of_ok (read_apply _ _), hopRoute]
    split
    · rfl
    · next hgo =>
      rw [not_or, Bool.not_eq_true] at hgo
      obtain ⟨source, hrun⟩ := teleportPlayer_free hgo.2 hwalks
      rw [bind_of_ok hrun]
      simp only
      cases nativeSteppedOnMapTeleportDestination worldMap current with
      | none => rfl
      | some next =>
        simp only
        rw [ih _ _ _ ((displaced_placed current hwalks.2).walks hwalks), List.getLast?_cons,
          List.foldl_cons]
        cases (hopRoute worldMap p hops (current :: visited) next (w.placed p current)).getLast? with
        | none => rfl
        | some arrival => rfl

/-- Without a first hop nothing happens. -/
theorem teleportHops_nowhere {hops : ℕ} {visited : List Position} {current : Position}
    (reached : Option Position) (h : hopRoute worldMap p hops visited current w = []) :
    teleportHops p worldMap hops visited current reached w = (.ok reached, w) := by
  cases hops with
  | zero => rfl
  | succ hops =>
    rw [teleportHops, bind_of_ok (read_apply _ _)]
    rw [hopRoute] at h
    split at h
    · next hstop =>
      rw [if_pos hstop]
      rfl
    · split at h
      · cases h
      · cases h

/-- The first hop of a dead player is refused. -/
theorem teleportHops_refused {hops : ℕ} {visited : List Position} {current : Position}
    (reached : Option Position) (h : hopRoute worldMap p hops visited current w ≠ [])
    (hwalks : ¬Walks p w) :
    ∃ e, teleportHops p worldMap hops visited current reached w = (.error e, w) := by
  cases hops with
  | zero => exact absurd rfl h
  | succ hops =>
    rw [teleportHops, bind_of_ok (read_apply _ _)]
    rw [hopRoute] at h
    split
    · next hstop => exact absurd (if_pos hstop) h
    · next hgo =>
      rw [not_or, Bool.not_eq_true] at hgo
      rcases hrun : living (Living.teleportPlayer p current) w with ⟨e | moved, w₁⟩
      · rw [bind_of_error hrun, (not_walks_of_refused hgo.2 hrun).1]
        exact ⟨e, rfl⟩
      · exact absurd (teleportPlayer_ok hgo.2 hrun).2.2 hwalks

/-- **A refusal is that of the first hop**, and nobody has moved. -/
theorem teleportHops_error {hops : ℕ} {visited : List Position} {current : Position}
    {reached : Option Position} {e : CoreError}
    (h : teleportHops p worldMap hops visited current reached w = (.error e, w')) :
    w' = w ∧ ¬Walks p w ∧ hops ≠ 0 ∧ current ∉ visited ∧ isBlocked worldMap w current = false := by
  cases hops with
  | zero => cases h
  | succ hops =>
    have hfailed : ¬Walks p w := by
      intro hwalks
      rw [teleportHops_walks (hops + 1) visited current reached hwalks] at h
      cases h
    rw [teleportHops, bind_of_ok (read_apply _ _)] at h
    split at h
    · cases h
    · next hgo =>
      rw [not_or, Bool.not_eq_true] at hgo
      rcases bind_eq_error.mp h with h | ⟨moved, w₁, hmove, -⟩
      · exact ⟨teleportPlayer_refused h, hfailed, Nat.succ_ne_zero _, hgo.1, hgo.2⟩
      · exact absurd (teleportPlayer_ok hgo.2 hmove).2.2 hfailed

end Hops

/-! ### The activation -/

open MovingSession

/-- A session but for its frames. -/
def MovingSession.unframed (s : MovingSession) : MovingSession := { s with frames := [] }

theorem keeps_writeFrame (frame : Except ProtocolError (List UInt8)) :
    Keeps unframed (writeFrame frame) :=
  .bind ((ReadOnly.ofExcept _).keeps) fun _ => .write fun _ => rfl

theorem readOnly_visiblePlayers (ctx : MoveContext) : ReadOnly (visiblePlayers ctx) :=
  .bind (.read _) fun _ => .ofExcept _

/-- What follows a hop changes nothing in the world but what the others do. -/
theorem showTeleport_keeps {ctx : MoveContext} {others : Meanwhile} {facing : CardinalDirection}
    {arrival : Position} {s s' : MovingSession} {result : Except MoveError Bool}
    (h : showTeleport ctx others facing arrival s = (result, s')) :
    result ≠ .ok false ∧
      (s'.shared.world = s.shared.world ∨
        s'.shared.world = others.world .beforeDrawing s.shared.world) ∧
      (result = .ok true → s'.playerPosition = arrival ∧ s'.storedPosition = arrival) := by
  rw [showTeleport, bind_of_ok (updatePlayerPositionAndFacing_apply _ _ _)] at h
  rcases heffect : writeFrame (encodeNativeOtclientMagicEffect ctx.profile (nativePosition arrival)
      nativeOtclientTeleportEffectId) { s with
        storedPosition := arrival, storedFacing := facing.protocolDirection } with ⟨e | _, s₁⟩
  · rw [bind_of_error heffect] at h
    cases h
    have hkept := (keeps_writeFrame _).eq heffect
    exact ⟨fun h => (by cases h), .inl (congrArg (·.shared.world) hkept), fun h => by cases h⟩
  · have hkept := (keeps_writeFrame _).eq heffect
    have hworld : s₁.shared.world = s.shared.world := congrArg (·.shared.world) hkept
    have hstored : s₁.storedPosition = arrival := congrArg MovingSession.storedPosition hkept
    rw [bind_of_ok heffect, bind_of_ok (meanwhile_apply _ _ _), bind_of_ok (read_apply _ _)] at h
    rw [← hworld]
    rcases hplayers : visiblePlayers ctx (s₁.withWorld (others.world .beforeDrawing s₁.shared.world))
      with ⟨e | players, s₂⟩
    · rw [bind_of_error hplayers] at h
      cases h
      rw [(readOnly_visiblePlayers ctx).state_eq hplayers]
      exact ⟨fun h => (by cases h), .inr rfl, fun h => by cases h⟩
    · rw [bind_of_ok hplayers, (readOnly_visiblePlayers ctx).state_eq hplayers] at h
      rcases hviewport : writeFrame (encodeNativeOtclientMapViewport ctx.profile (viewAt ctx arrival
        facing (ctx.activeStaticSpawns (s₁.withWorld
          (others.world .beforeDrawing s₁.shared.world)).shared.world) players))
        (s₁.withWorld (others.world .beforeDrawing s₁.shared.world)) with ⟨e | _, s₃⟩
      · rw [bind_of_error hviewport] at h
        cases h
        have hkept' := (keeps_writeFrame _).eq hviewport
        exact ⟨fun h => (by cases h), .inr (congrArg (·.shared.world) hkept'),
          fun h => by cases h⟩
      · rw [bind_of_ok hviewport, bind_of_ok (write_apply _ _)] at h
        cases h
        have hkept' := (keeps_writeFrame _).eq hviewport
        exact ⟨fun h => (by cases h), .inr (congrArg (·.shared.world) hkept'), fun _ =>
          ⟨rfl, (congrArg MovingSession.storedPosition hkept').trans hstored⟩⟩

section Activation

variable {ctx : MoveContext} {others : Meanwhile} {s : MovingSession}

/-- **The teleport a step has come upon**, by the route it opens. -/
theorem activate_cases (facing : CardinalDirection) (teleport : Position) :
    let route := hopRoute ctx.worldMap ctx.characterId nativeOtclientMaxTeleportHops [] teleport
      s.shared.world
    let w := route.foldl (fun w tile => w.placed ctx.characterId tile) s.shared.world
    (route = [] → activateNativeMapTeleportItem ctx others facing teleport s = (.ok false, s)) ∧
    (route ≠ [] → (Walks ctx.characterId s.shared.world ∧ (∀ arrival ∈ route.getLast?,
        OnSurface arrival) ∧ OthersNative ctx (others.world .beforeDrawing w)) →
      ∃ s', activateNativeMapTeleportItem ctx others facing teleport s = (.ok true, s') ∧
        s'.shared.world = others.world .beforeDrawing w) ∧
    (route ≠ [] → ¬(Walks ctx.characterId s.shared.world ∧ (∀ arrival ∈ route.getLast?,
        OnSurface arrival) ∧ OthersNative ctx (others.world .beforeDrawing w)) →
      ∃ e s', activateNativeMapTeleportItem ctx others facing teleport s = (.error e, s')) := by
  intro route w
  have hsection := onWorld_apply (teleportHops ctx.characterId ctx.worldMap
    nativeOtclientMaxTeleportHops [] teleport none) s
  have hshown : Walks ctx.characterId s.shared.world → route ≠ [] → ∃ arrival,
      route.getLast? = some arrival ∧
      activateNativeMapTeleportItem ctx others facing teleport s =
        showTeleport ctx others facing arrival (s.withWorld w) := by
    intro hwalks hroute
    obtain ⟨arrival, harrival⟩ := Option.ne_none_iff_exists'.mp
      (mt List.getLast?_eq_none_iff.mp hroute)
    rw [teleportHops_walks _ _ _ _ hwalks] at hsection
    refine ⟨arrival, harrival, ?_⟩
    rw [activateNativeMapTeleportItem, bind_of_ok hsection]
    show (match route.getLast?.or none with
      | none => (pure false : MoveM Bool)
      | some destination => showTeleport ctx others facing destination) _ = _
    rw [harrival]
    rfl
  refine ⟨fun hroute => ?_, fun hroute hgood => ?_, fun hroute hbad => ?_⟩
  · rw [teleportHops_nowhere none hroute] at hsection
    rw [activateNativeMapTeleportItem, bind_of_ok hsection]
    rfl
  · obtain ⟨hwalks, hsurface, hnative⟩ := hgood
    obtain ⟨arrival, harrival, hrun⟩ := hshown hwalks hroute
    rw [hrun]
    exact (showTeleport_cases facing arrival).1 ⟨hsurface arrival harrival, hnative⟩
  · by_cases hwalks : Walks ctx.characterId s.shared.world
    · obtain ⟨arrival, harrival, hrun⟩ := hshown hwalks hroute
      rw [hrun]
      refine (showTeleport_cases facing arrival).2 fun hgood => hbad ⟨hwalks, ?_, hgood.2⟩
      intro position hposition
      rw [harrival] at hposition
      cases hposition
      exact hgood.1
    · obtain ⟨e, he⟩ := teleportHops_refused none hroute hwalks
      rw [he] at hsection
      rw [activateNativeMapTeleportItem, bind_of_error hsection]
      exact ⟨_, _, rfl⟩

end Activation

/-- **A teleport takes the player along a route** of at most eight tiles, to a tile it has to
itself.  When it answers that it has not, nothing has changed; a failure comes before the first hop
or behind the last one. -/
theorem teleport_activated (ctx : MoveContext) (others : Meanwhile) (events : List GameEvent)
    (facing : CardinalDirection) (destination : Position) {s s' : MovingSession}
    {result : Except MoveError Bool}
    (hworld : s.shared.world = events.foldl (GameEvent.step others.toLowercase) .empty)
    (h : activateNativeMapTeleportItem ctx others facing destination s = (result, s')) :
    (result ≠ .ok true ∧ s' = s) ∨
      (result ≠ .ok false ∧ ∃ route arrival w,
        IsRoute ctx.worldMap destination arrival route ∧ route.length ≤ 8 ∧
        Displaced ctx.characterId arrival s.shared.world w ∧
        HasTile ctx.characterId ctx.worldMap arrival w ∧
        (s'.shared.world = w ∨ s'.shared.world = others.world .beforeDrawing w) ∧
        (result = .ok true → s'.playerPosition = arrival ∧ s'.storedPosition = arrival)) := by
  have hindexed : Indexed s.shared.world := by
    rw [hworld]
    exact fun position => occupied_iff_standsAt others.toLowercase events position
  unfold activateNativeMapTeleportItem at h
  rcases hhops : teleportHops ctx.characterId ctx.worldMap nativeOtclientMaxTeleportHops []
    destination none s.shared.world with ⟨e | reached, w⟩
  · have hsection := onWorld_apply (teleportHops ctx.characterId ctx.worldMap
      nativeOtclientMaxTeleportHops [] destination none) s
    rw [hhops] at hsection
    rw [bind_of_error hsection] at h
    cases h
    rw [(teleportHops_error hhops).1]
    exact .inl ⟨nofun, rfl⟩
  · have hsection := onWorld_apply (teleportHops ctx.characterId ctx.worldMap
      nativeOtclientMaxTeleportHops [] destination none) s
    rw [hhops] at hsection
    rw [bind_of_ok hsection] at h
    cases teleportHops_end hhops with
    | stayed =>
      cases h
      exact .inl ⟨nofun, rfl⟩
    | arrived route arrival w w₁ hroute hlength _ hdisplaced hbetween hfree =>
      obtain ⟨hresult, hlast, hstored⟩ := showTeleport_keeps h
      exact .inr ⟨hresult, route, arrival, w, hroute, hlength, hdisplaced,
        hasTile_of_displaced hindexed hdisplaced hbetween hfree, hlast, hstored⟩

/-! ### Two pads that lead to each other -/

/-- An item that teleports. -/
def pad (destination : Position) : WorldMapItem :=
  ⟨1387, none, 1, none, none, none, none, some destination, none, none, []⟩

def padMap : WorldMap where
  identifier := "pads"
  spawn := ⟨100, 100, 7⟩
  tiles := ((∅ : BTreeMap Position WorldMapTile).insert ⟨101, 100, 7⟩ ⟨102, true⟩).insert
    ⟨102, 100, 7⟩ ⟨102, true⟩
  source := .feMapV1
  tileItems := ((∅ : BTreeMap Position (List WorldMapItem)).insert ⟨101, 100, 7⟩
    [pad ⟨102, 100, 7⟩]).insert ⟨102, 100, 7⟩ [pad ⟨101, 100, 7⟩]
  tileFlags := ∅
  houseTiles := ∅
  towns := KeyedMap.empty
  waypoints := ∅
  bounded := by
    intro position items h
    simp only [Std.ExtTreeMap.getElem?_insert, Std.ExtTreeMap.getElem?_empty] at h
    split at h
    · cases h
      decide
    · split at h
      · cases h
        decide
      · cases h

def padContext : MoveContext where
  characterId := 7
  profile := classic740Profile
  snapshot := knightSnapshot
  worldMap := padMap
  activeStaticSpawns := fun _ => []
  drawn := by decide +kernel

def nobodyElse : Meanwhile := ⟨id, fun _ => []⟩

/-- A session whose player has entered an otherwise empty world. -/
def knightWalks : MovingSession where
  shared := ⟨[knightEnters 7 100].foldl (GameEvent.step id) .empty, ∅, ∅, 1, ∅, ∅⟩
  playerPosition := ⟨100, 100, 7⟩
  facing := .south
  storedPosition := ⟨100, 100, 7⟩
  storedFacing := 2
  storedFrozen := false
  frames := []

theorem hopRoute_pads :
    hopRoute padMap 7 8 [] ⟨101, 100, 7⟩ knightWalks.shared.world =
      [⟨101, 100, 7⟩, ⟨102, 100, 7⟩] := by
  decide +kernel

/-- The knight is taken from the one pad to the other, and not back. -/
theorem teleport_activated_pads :
    ∃ s', activateNativeMapTeleportItem padContext nobodyElse .east ⟨101, 100, 7⟩ knightWalks =
        (.ok true, s') ∧
      ∃ route arrival w, IsRoute padMap ⟨101, 100, 7⟩ arrival route ∧ route.length ≤ 8 ∧
        HasTile 7 padMap arrival w ∧ s'.playerPosition = arrival := by
  have hnonempty : hopRoute padMap 7 8 [] ⟨101, 100, 7⟩ knightWalks.shared.world ≠ [] := by
    rw [hopRoute_pads]
    exact List.cons_ne_nil _ _
  have hwalks : Walks 7 knightWalks.shared.world :=
    ⟨⟨{}, by decide +kernel, rfl⟩, Option.isSome_iff_exists.mp (by decide +kernel)⟩
  have halone : othersInSight padContext ((hopRoute padMap 7 8 [] ⟨101, 100, 7⟩
      knightWalks.shared.world).foldl (fun w tile => w.placed 7 tile) knightWalks.shared.world) =
      [] := by
    rw [hopRoute_pads]
    decide +kernel
  obtain ⟨s', hrun, -⟩ := (@activate_cases padContext nobodyElse knightWalks .east
    ⟨101, 100, 7⟩).2.1 hnonempty ⟨hwalks, fun arrival harrival => by
      rw [show hopRoute padContext.worldMap padContext.characterId nativeOtclientMaxTeleportHops []
        ⟨101, 100, 7⟩ knightWalks.shared.world = _ from hopRoute_pads] at harrival
      cases harrival
      show (7 : UInt8).toNat < 8
      decide, fun player hplayer => by
      have hnobody : player ∈ ([] : List Player) := halone ▸ hplayer
      cases hnobody⟩
  refine ⟨s', hrun, ?_⟩
  rcases teleport_activated padContext nobodyElse [knightEnters 7 100] .east ⟨101, 100, 7⟩ rfl hrun
    with ⟨hnot, -⟩ | ⟨-, route, arrival, w, hroute, hlength, -, htile, -, hstored⟩
  · exact absurd rfl hnot
  · exact ⟨route, arrival, w, hroute, hlength, htile, (hstored rfl).1⟩

end ForgottenEngine
