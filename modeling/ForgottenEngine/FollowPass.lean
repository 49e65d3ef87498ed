import ForgottenEngine.CreatureRuns
import ForgottenEngine.DeadPlayers

/-!
# The pass of the followers

The players take their turns one after the other; a player who follows somebody takes one step
towards the tile on which the other stands by then.

* `enrolled` — in every run, each player has its own id and a lifecycle;
* `followStep_spec`, `followTurn_spec` — a turn succeeds: nothing happens, or one step is taken
  towards the followed player, to a free tile;
* `followPass` — **the pass succeeds, moves everybody by one tile at most, nearer to the player who
  is followed, and onto nobody's tile**.
-/

namespace ForgottenEngine

open Fallible

/-! ### Players and their lifecycles -/

/-- Every player has the id it is registered under, and a lifecycle. -/
def Enrolled (w : LivingWorld) : Prop :=
  ∀ (id : ℕ) (player : Player), w.players[id]? = some player →
    player.id = id ∧ ∃ state, w.playerRespawnStates[id]? = some state

namespace Enrolled

theorem of_tables {w w' : LivingWorld} (h : Enrolled w) (hplayers : w'.players = w.players)
    (hstates : w'.playerRespawnStates = w.playerRespawnStates) : Enrolled w' := by
  intro id player hplayer
  rw [hplayers] at hplayer
  rw [hstates]
  exact h id player hplayer

theorem putPlayer {w : LivingWorld} (h : Enrolled w) {id : ℕ} {old new : Player}
    (hold : w.players[id]? = some old) (hid : new.id = old.id) : Enrolled (w.putPlayer id new) := by
  intro j player hplayer
  simp only [LivingWorld.putPlayer, Std.ExtTreeMap.getElem?_insert,
    Std.LawfulEqCmp.compare_eq_iff_eq] at hplayer
  split at hplayer
  · rename_i heq
    subst heq
    cases hplayer
    obtain ⟨hkey, hstate⟩ := h id old hold
    exact ⟨hid.trans hkey, hstate⟩
  · exact h j player hplayer

theorem putRespawnState {w : LivingWorld} (h : Enrolled w) (id : ℕ) (state : PlayerRespawnState) :
    Enrolled (w.putRespawnState id state) := by
  intro j player hplayer
  obtain ⟨hkey, old, hold⟩ := h j player hplayer
  refine ⟨hkey, ?_⟩
  simp only [LivingWorld.putRespawnState, Std.ExtTreeMap.getElem?_insert]
  split
  · exact ⟨state, rfl⟩
  · exact ⟨old, hold⟩

theorem robust : Robust fun w => Enrolled w.toLivingWorld where
  changed := fun _ hw => hw.of_tables rfl rfl
  tick := fun _ _ hw => hw.of_tables rfl rfl
  inventory := fun _ _ hframe hw => hw.of_tables hframe.players hframe.respawn
  player := fun _ _ _ _ hold _ hid hw => hw.putPlayer hold hid
  vitals := fun _ _ _ _ _ _ hw => hw.of_tables rfl rfl
  conditions := fun _ _ _ _ _ _ hw => hw.of_tables rfl rfl
  lifecycle := fun _ p _ new _ _ hw => hw.putRespawnState p new
  died := fun _ p state _ _ _ _ _ hw => (hw.putRespawnState p state).of_tables rfl rfl
  respawned := by
    intro w p player vitals _ _ _ _ hsame hw
    obtain ⟨old, hold, hid⟩ := hsame
    have hhealed : Enrolled (w.putVitals p vitals).toLivingWorld := hw.of_tables rfl rfl
    exact (hhealed.putPlayer hold hid).putRespawnState p {}
  intent := fun _ _ _ _ _ hw => hw.of_tables rfl rfl
  books := by
    intro w w' hbooks hw
    rw [hbooks.living]
    exact hw

theorem robustEdits : RobustEdits fun w => Enrolled w.toLivingWorld where
  narrowed := fun _ _ _ hw => hw.of_tables rfl rfl
  edited := fun _ _ _ _ _ _ hw => hw.of_tables rfl rfl
  moved := fun _ _ _ _ _ _ _ _ hw => hw.of_tables rfl rfl
  deactivated := fun _ _ _ _ hw => hw.of_tables rfl rfl

theorem robustRegistry : RobustRegistry fun w => Enrolled w.toLivingWorld :=
  ⟨fun _ _ _ _ _ _ hw => hw.of_tables rfl rfl⟩

theorem overwritten {w w' : GameWorld} {event : OverwriteEvent} (hw : Enrolled w.toLivingWorld)
    (h : event.Writes w w') : Enrolled w'.toLivingWorld := by
  have hadvanced {p raw : ℕ} {policy : ExperienceAwardPolicy} {player : Player}
      (hplayer : w.players[p]? = some player) :
      Enrolled (w.putPlayer p (advancedPlayer player policy raw)).toLivingWorld := by
    refine hw.putPlayer hplayer ?_
    unfold advancedPlayer
    split <;> rfl
  cases h with
  | lifecycle => exact hw.putRespawnState _ _
  | vitals | conditions | condition | haste | frag => exact hw.of_tables rfl rfl
  | experience hplayer => exact hadvanced hplayer
  | levels _ hplayer => exact (hadvanced hplayer).of_tables rfl rfl

theorem added {w : GameWorld} (hw : Enrolled w.toLivingWorld) (player : Player)
    (vitals : PlayerVitals) (progression : PlayerProgression) :
    Enrolled (w.added player vitals progression).toLivingWorld := by
  intro id other hother
  simp only [GameWorld.added, Std.ExtTreeMap.getElem?_insert,
    Std.LawfulEqCmp.compare_eq_iff_eq] at hother ⊢
  split at hother
  · rename_i heq
    cases hother
    exact ⟨heq, {}, if_pos heq⟩
  · rename_i hne
    obtain ⟨hkey, state, hstate⟩ := hw id other hother
    exact ⟨hkey, state, by rw [if_neg hne]; exact hstate⟩

theorem removed {w : GameWorld} (hw : Enrolled w.toLivingWorld) (p : ℕ) :
    Enrolled (w.removed p).toLivingWorld := by
  intro id other hother
  simp only [GameWorld.removed, Std.ExtTreeMap.getElem?_erase,
    Std.LawfulEqCmp.compare_eq_iff_eq] at hother ⊢
  split at hother
  · cases hother
  · rename_i hne
    obtain ⟨hkey, state, hstate⟩ := hw id other hother
    exact ⟨hkey, state, by rw [if_neg hne]; exact hstate⟩

theorem step (toLowercase : String → String) {w : GameWorld} (hw : Enrolled w.toLivingWorld)
    (event : GameEvent) : Enrolled (event.step toLowercase w).toLivingWorld := by
  have hchanged := robust.changed
  show Leaves (fun w => Enrolled w.toLivingWorld) (event.perform toLowercase) w
  cases event with
  | addPlayer player vitals progression =>
    exact leaves_addPlayer hchanged hw fun _ _ => hw.added player vitals progression
  | removePlayer p => exact leaves_void.mpr (leaves_removePlayer hchanged hw fun _ => hw.removed p)
  | inventory e => exact robust.stays_inventory e w hw
  | player e => exact robust.stays_player e w hw
  | upkeep e => exact robust.stays_upkeep e w hw
  | overwrite e => exact leaves_overwrite e hchanged hw fun w' hwrites => hw.overwritten hwrites
  | creature e =>
    by_cases hedits : e.EditsOnly
    · exact robustEdits.stays_edits robust toLowercase hedits w hw
    · exact robustRegistry.stays_registry robust toLowercase hedits w hw
  | party e => exact leaves_party hchanged hw e fun t' _ => hw.of_tables rfl rfl

end Enrolled

theorem enrolled (toLowercase : String → String) (events : List GameEvent) :
    Enrolled (events.foldl (GameEvent.step toLowercase) .empty).toLivingWorld := by
  have hstart : Reaches (GameEvent.step toLowercase) (fun _ _ => True) GameWorld.empty
    GameWorld.empty := .start
  have hrun := hstart.foldl (meets_of_forall (fun _ _ => trivial) _ events)
  refine hrun.invariant (P := fun w => Enrolled w.toLivingWorld)
    (fun _ event hw _ => hw.step toLowercase event) fun id player hplayer => ?_
  simp [GameWorld.empty, LivingWorld.empty, WorldState.empty] at hplayer

/-! ### One step -/

/-- The steps between two tiles of a floor. -/
def walkDistance (a b : Position) : ℕ := Position.absDiff a.x b.x + Position.absDiff a.y b.y

/-- The coordinates that the source can name. -/
def Position.OnMap (self : Position) : Prop := self.x ≤ u16Max ∧ self.y ≤ u16Max

theorem isAdjacentTo_iff {a b : Position} : a.isAdjacentTo b = true ↔
    a.z = b.z ∧ Position.absDiff a.x b.x ≤ 1 ∧ Position.absDiff a.y b.y ≤ 1 ∧ a ≠ b :=
  decide_eq_true_iff

/-- A direction is preferred where the target is further that way. -/
theorem further_of_preferred {source target : Position} {direction : CardinalDirection}
    (h : direction ∈ Living.preferredDirections source target) :
    match direction with
    | .north => target.y < source.y
    | .east => source.x < target.x
    | .south => source.y < target.y
    | .west => target.x < source.x := by
  simp only [Living.preferredDirections] at h
  split at h <;> rw [List.mem_append] at h <;> grind

/-- **A preferred direction leads nearer**, and to a tile beside. -/
theorem step_preferred {source target : Position} {direction : CardinalDirection}
    (hdirection : direction ∈ Living.preferredDirections source target) (hsource : source.OnMap)
    (htarget : target.OnMap) :
    ∃ destination, source.step direction = .ok destination ∧ destination.OnMap ∧
      source.isAdjacentTo destination = true ∧
      walkDistance destination target + 1 = walkDistance source target := by
  have hfurther := further_of_preferred hdirection
  obtain ⟨hsourceX, hsourceY⟩ := hsource
  obtain ⟨htargetX, htargetY⟩ := htarget
  obtain ⟨x, y, z⟩ := source
  simp only [isAdjacentTo_iff, walkDistance, Position.absDiff, Position.OnMap,
    ne_eq] at hsourceX hsourceY ⊢
  cases direction with
  | north =>
    simp only at hfurther
    refine ⟨⟨x, y - 1, z⟩, ?_, ?_⟩
    · simp [Position.step, show y ≠ 0 by omega]
    · dsimp only
      refine ⟨by omega, ⟨rfl, by omega, by omega, fun heq => ?_⟩, by omega⟩
      simp only [Position.mk.injEq] at heq
      omega
  | east =>
    simp only at hfurther
    refine ⟨⟨x + 1, y, z⟩, ?_, ?_⟩
    · simp [Position.step, show ¬u16Max ≤ x by omega]
    · dsimp only
      refine ⟨by omega, ⟨rfl, by omega, by omega, fun heq => ?_⟩, by omega⟩
      simp only [Position.mk.injEq] at heq
      omega
  | south =>
    simp only at hfurther
    refine ⟨⟨x, y + 1, z⟩, ?_, ?_⟩
    · simp [Position.step, show ¬u16Max ≤ y by omega]
    · dsimp only
      refine ⟨by omega, ⟨rfl, by omega, by omega, fun heq => ?_⟩, by omega⟩
      simp only [Position.mk.injEq] at heq
      omega
  | west =>
    simp only at hfurther
    refine ⟨⟨x - 1, y, z⟩, ?_, ?_⟩
    · simp [Position.step, show x ≠ 0 by omega]
    · dsimp only
      refine ⟨by omega, ⟨rfl, by omega, by omega, fun heq => ?_⟩, by omega⟩
      simp only [Position.mk.injEq] at heq
      omega

namespace Living

/-- The world in which a player stands somewhere else. -/
def movedPlayer (w : LivingWorld) (p : ℕ) (player : Player) (destination : Position) :
    LivingWorld := (w.putPlayer p { player with position := destination }).changed

/-- Nobody else stands on the tile. -/
def FreeFor (w : LivingWorld) (p : ℕ) (position : Position) : Prop :=
  position ∉ w.staticOccupiedPositions ∧
    ∀ (j : ℕ) (other : Player), w.players[j]? = some other → j ≠ p → other.position ≠ position

theorem movePlayerCardinal_eq_ok {w : LivingWorld} {p : ℕ} {player : Player}
    {state : PlayerRespawnState} {direction : CardinalDirection} {destination : Position}
    (hplayer : w.players[p]? = some player) (hstate : w.playerRespawnStates[p]? = some state)
    (halive : state.dead = false) (hstep : player.position.step direction = .ok destination)
    (hadjacent : player.position.isAdjacentTo destination = true)
    (hfree : destination ∉ w.staticOccupiedPositions) :
    movePlayerCardinal p direction w =
      (.ok (player.position, destination), movedPlayer w p player destination) := by
  have hcreature : w.isStaticCreatureOccupied destination = false := by
    simpa [LivingWorld.isStaticCreatureOccupied] using hfree
  have hread : requirePlayer p w = (.ok player, w) := readOr_of_some _ hplayer
  have hlives : playerRespawnState p w = (.ok state, w) := readOr_of_some _ hstate
  have hmove : movePlayer p destination w = (.ok (), movedPlayer w p player destination) := by
    rw [movePlayer, bind_of_ok hlives, bind_of_ok (read_apply _ _)]
    simp only [halive, hcreature, Bool.false_eq_true, if_false]
    rw [bind_of_ok hread]
    simp only [hadjacent, not_true_eq_false, if_false]
    rfl
  rw [movePlayerCardinal, bind_of_ok hread, hstep]
  rw [bind_of_ok (ofExcept_apply _ _), bind_of_ok hmove, pure_apply]

/-- **The step of a turn** goes through: there is none, or one to a free tile. -/
theorem followStep_spec {w : LivingWorld} (hw : Enrolled w) {p : ℕ} {player : Player}
    {state : PlayerRespawnState} (worldMap : WorldMap) {directions : List CardinalDirection}
    (hplayer : w.players[p]? = some player) (hstate : w.playerRespawnStates[p]? = some state)
    (halive : state.dead = false)
    (hsteps : ∀ direction ∈ directions, ∃ destination,
      player.position.step direction = .ok destination ∧
        player.position.isAdjacentTo destination = true) :
    followStep worldMap p player.position directions w = (.ok false, w) ∨
      ∃ direction ∈ directions, ∃ destination,
        player.position.step direction = .ok destination ∧ worldMap.isWalkable destination ∧
        FreeFor w p destination ∧
        followStep worldMap p player.position directions w =
          (.ok true, movedPlayer w p player destination) := by
  induction directions with
  | nil => exact .inl rfl
  | cons direction rest ih =>
    obtain ⟨destination, hstep, hadjacent⟩ := hsteps direction List.mem_cons_self
    rw [followStep, hstep, bind_of_ok (ofExcept_apply _ _), bind_of_ok (read_apply _ _),
      bind_of_ok (read_apply _ _)]
    split
    · rcases ih fun d hd => hsteps d (List.mem_cons_of_mem _ hd) with hnone | hone
      · exact .inl hnone
      · obtain ⟨d, hd, hrest⟩ := hone
        exact .inr ⟨d, List.mem_cons_of_mem _ hd, hrest⟩
    · rename_i hblocked
      simp only [not_or, Bool.not_eq_true, Bool.not_eq_false] at hblocked
      obtain ⟨hwalk, hcreature, hother⟩ := hblocked
      have hfree : FreeFor w p destination := by
        refine ⟨by simpa [LivingWorld.isStaticCreatureOccupied] using hcreature, ?_⟩
        intro j other hj hne heq
        have hmem : (j, other) ∈ w.players.toList :=
          Std.ExtTreeMap.mem_toList_iff_getElem?_eq_some.mpr hj
        have hall := List.any_eq_false.mp hother (j, other) hmem
        refine hall (decide_eq_true ⟨?_, heq⟩)
        rw [(hw j other hj).1]
        exact hne
      refine .inr ⟨direction, List.mem_cons_self, destination, hstep, hwalk, hfree, ?_⟩
      rw [bind_of_ok (movePlayerCardinal_eq_ok hplayer hstate halive hstep hadjacent hfree.1)]
      rfl

/-! ### One turn -/

/-- The coordinates of the players are values the source can hold. -/
def PlayersOnMap (w : LivingWorld) : Prop :=
  ∀ (id : ℕ) (player : Player), w.players[id]? = some player → player.position.OnMap

/-- The player steps to a free tile beside, nearer to the player who is followed. -/
structure TakesStep (worldMap : WorldMap) (w : LivingWorld) (p : ℕ) (player : Player)
    (destination : Position) : Prop where
  registered : w.players[p]? = some player
  beside : ∃ direction, player.position.step direction = .ok destination
  nearer : ∃ (intent : PlayerInteractionIntent) (q : ℕ) (target : Player),
    w.playerInteractions[p]? = some intent ∧ intent.followPlayerId = some q ∧
      w.players[q]? = some target ∧
      walkDistance destination target.position + 1 =
        walkDistance player.position target.position
  walkable : worldMap.isWalkable destination = true
  free : FreeFor w p destination
  onMap : destination.OnMap

/-- **A turn succeeds**: nothing happens, or one step is taken. -/
theorem followTurn_spec {w : LivingWorld} (hw : Enrolled w) (hmap : PlayersOnMap w)
    (worldMap : WorldMap) (moved : Finset ℕ) (p : ℕ) :
    followTurn worldMap moved p w = (.ok moved, w) ∨
      ∃ player destination, TakesStep worldMap w p player destination ∧
        followTurn worldMap moved p w =
          (.ok (insert p moved), movedPlayer w p player destination) := by
  rw [followTurn, bind_of_ok (read_apply _ _)]
  cases hfollowed : w.playerInteractions[p]?.bind PlayerInteractionIntent.followPlayerId with
  | none => exact .inl rfl
  | some q =>
    obtain ⟨intent, hintent, hq⟩ := Option.bind_eq_some_iff.mp hfollowed
    simp only [bind_of_ok (read_apply _ _)]
    cases hplayer : w.players[p]? with
    | none => exact .inl rfl
    | some player =>
      cases htarget : w.players[q]? with
      | none => exact .inl rfl
      | some target =>
        obtain ⟨-, state, hstate⟩ := hw p player hplayer
        obtain ⟨-, targetState, htargetState⟩ := hw q target htarget
        have hlives : playerRespawnState p w = (.ok state, w) := readOr_of_some _ hstate
        have hothers : playerRespawnState q w = (.ok targetState, w) :=
          readOr_of_some _ htargetState
        simp only [bind_of_ok hlives, bind_of_ok hothers]
        split
        · exact .inl rfl
        · rename_i hready
          simp only [not_or, Bool.not_eq_true] at hready
          have hsteps (direction : CardinalDirection)
              (hd : direction ∈ preferredDirections player.position target.position) :=
            step_preferred hd (hmap p player hplayer) (hmap q target htarget)
          have hspec := followStep_spec hw worldMap hplayer hstate hready.1
            fun direction hd => by
              obtain ⟨destination, hstep, -, hadjacent, -⟩ := hsteps direction hd
              exact ⟨destination, hstep, hadjacent⟩
          rcases hspec with hnone | ⟨direction, hd, destination, hstep, hwalk, hfree, hone⟩
          · rw [bind_of_ok hnone]
            exact .inl rfl
          · obtain ⟨destination', hstep', honMap, -, hnearer⟩ := hsteps direction hd
            rw [hstep] at hstep'
            cases hstep'
            refine .inr ⟨player, destination, ?_, ?_⟩
            · exact ⟨hplayer, ⟨direction, hstep⟩, ⟨intent, q, target, hintent, hq, htarget, hnearer⟩,
                hwalk, hfree, honMap⟩
            · rw [bind_of_ok hone]
              rfl

/-! ### The pass -/

/-- No two players share a tile. -/
def PlayersApart (players : BTreeMap ℕ Player) : Prop :=
  ∀ (i j : ℕ) (a b : Player), players[i]? = some a → players[j]? = some b →
    a.position = b.position → i = j

theorem getElem?_movedPlayer {w : LivingWorld} {p : ℕ} {player : Player} {destination : Position}
    (j : ℕ) : (movedPlayer w p player destination).players[j]? =
      if p = j then some { player with position := destination } else w.players[j]? := by
  show (w.players.insert p { player with position := destination })[j]? = _
  rw [Std.ExtTreeMap.getElem?_insert]
  simp only [Std.LawfulEqCmp.compare_eq_iff_eq]

namespace TakesStep

variable {worldMap : WorldMap} {w : LivingWorld} {p : ℕ} {player : Player} {destination : Position}
  (h : TakesStep worldMap w p player destination)
include h

theorem enrolled (hw : Enrolled w) : Enrolled (movedPlayer w p player destination) := by
  have hput : Enrolled (w.putPlayer p { player with position := destination }) :=
    hw.putPlayer h.registered rfl
  exact hput.of_tables rfl rfl

theorem playersOnMap (hw : PlayersOnMap w) : PlayersOnMap (movedPlayer w p player destination) := by
  intro j other hother
  rw [getElem?_movedPlayer] at hother
  split at hother
  · cases hother
    exact h.onMap
  · exact hw j other hother

theorem apart (hw : PlayersApart w.players) :
    PlayersApart (movedPlayer w p player destination).players := by
  intro i j a b ha hb heq
  rw [getElem?_movedPlayer] at ha hb
  split at ha
  · split at hb
    · exact ‹p = i›.symm.trans ‹p = j›
    · cases ha
      exact absurd heq.symm (h.free.2 j b hb (Ne.symm ‹¬p = j›))
  · split at hb
    · cases hb
      exact absurd heq (h.free.2 i a ha (Ne.symm ‹¬p = i›))
    · exact hw i j a b ha hb heq

theorem avoid {creatures : BTreeMap ℕ StaticCreatureRuntime}
    (hindex : ∀ position, StandsAt creatures position → position ∈ w.staticOccupiedPositions)
    (hw : PlayersAvoid w.players creatures) :
    PlayersAvoid (movedPlayer w p player destination).players creatures := by
  intro j other hother hstands
  rw [getElem?_movedPlayer] at hother
  split at hother
  · cases hother
    exact h.free.1 (hindex _ hstands)
  · exact hw j other hother hstands

end TakesStep

/-- The player takes one step when its turn comes, in the world the pass has reached by then. -/
def StepsOnce (worldMap : WorldMap) (w : LivingWorld) (playerIds : List ℕ) (p : ℕ)
    (player : Player) (destination : Position) : Prop :=
  ∃ before behind moved u, before ++ p :: behind = playerIds ∧
    before.foldlM (followTurn worldMap) ∅ w = (.ok moved, u) ∧
    TakesStep worldMap u p player destination

theorem StepsOnce.append {worldMap : WorldMap} {w : LivingWorld} {playerIds : List ℕ} {p : ℕ}
    {player : Player} {destination : Position}
    (h : StepsOnce worldMap w playerIds p player destination) (more : List ℕ) :
    StepsOnce worldMap w (playerIds ++ more) p player destination := by
  obtain ⟨before, behind, moved, u, rfl, hrun, hstep⟩ := h
  exact ⟨before, behind ++ more, moved, u, by simp, hrun, hstep⟩

/-- What has become of a player: unmoved, or one step further. -/
def TurnTaken (worldMap : WorldMap) (w : LivingWorld) (playerIds : List ℕ) (moved : Finset ℕ)
    (v : LivingWorld) (p : ℕ) (player : Player) : Prop :=
  (p ∉ moved ∧ v.players[p]? = some player) ∨
    (p ∈ moved ∧ ∃ destination, StepsOnce worldMap w playerIds p player destination ∧
      v.players[p]? = some { player with position := destination })

/-- The state of the pass after the turns of some players. -/
structure Followed (worldMap : WorldMap) (w : LivingWorld) (playerIds : List ℕ) (moved : Finset ℕ)
    (v : LivingWorld) : Prop where
  run : playerIds.foldlM (followTurn worldMap) ∅ w = (.ok moved, v)
  enrolled : Enrolled v
  onMap : PlayersOnMap v
  creatures : v.staticCreatures = w.staticCreatures
  index : v.staticOccupiedPositions = w.staticOccupiedPositions
  turned : moved ⊆ playerIds.toFinset
  outcome : ∀ (p : ℕ) player, w.players[p]? = some player →
    TurnTaken worldMap w playerIds moved v p player
  known : ∀ (p : ℕ) player, v.players[p]? = some player → ∃ old, w.players[p]? = some old
  apart : PlayersApart w.players → PlayersApart v.players
  avoid : (∀ position, StandsAt w.staticCreatures position →
    position ∈ w.staticOccupiedPositions) → PlayersAvoid w.players w.staticCreatures →
      PlayersAvoid v.players w.staticCreatures

namespace Followed

variable {worldMap : WorldMap} {w v : LivingWorld} {playerIds : List ℕ} {moved : Finset ℕ}

theorem start (hw : Enrolled w) (hmap : PlayersOnMap w) : Followed worldMap w [] ∅ w where
  run := rfl
  enrolled := hw
  onMap := hmap
  creatures := rfl
  index := rfl
  turned := Finset.empty_subset _
  outcome := fun _ _ hplayer => .inl ⟨Finset.notMem_empty _, hplayer⟩
  known := fun _ player hplayer => ⟨player, hplayer⟩
  apart := id
  avoid := fun _ => id

/-- The next player does not move. -/
theorem stays (h : Followed worldMap w playerIds moved v) {p : ℕ}
    (hturn : followTurn worldMap moved p v = (.ok moved, v)) :
    Followed worldMap w (playerIds ++ [p]) moved v :=
  { h with
    run := by
      rw [foldlM_concat_of_ok h.run p]
      exact hturn
    turned := h.turned.trans fun q hq => by
      rw [List.mem_toFinset] at hq ⊢
      exact List.mem_append_left _ hq
    outcome := by
      intro q player hplayer
      rcases h.outcome q player hplayer with hunmoved | ⟨hmoved, destination, hstep, hnow⟩
      · exact .inl hunmoved
      · exact .inr ⟨hmoved, destination, hstep.append [p], hnow⟩ }

/-- The next player takes a step. -/
theorem steps (h : Followed worldMap w playerIds moved v) {p : ℕ} {player : Player}
    {destination : Position} (hfirst : p ∉ playerIds)
    (hstep : TakesStep worldMap v p player destination)
    (hturn : followTurn worldMap moved p v =
      (.ok (insert p moved), movedPlayer v p player destination)) :
    Followed worldMap w (playerIds ++ [p]) (insert p moved) (movedPlayer v p player destination) where
  run := by
    rw [foldlM_concat_of_ok h.run p]
    exact hturn
  enrolled := hstep.enrolled h.enrolled
  onMap := hstep.playersOnMap h.onMap
  creatures := h.creatures
  index := h.index
  turned := by
    intro q hq
    rw [List.mem_toFinset, List.mem_append]
    rcases Finset.mem_insert.mp hq with rfl | hq
    · exact .inr List.mem_cons_self
    · exact .inl (List.mem_toFinset.mp (h.turned hq))
  outcome := by
    intro q old hold
    have hunmoved : p ∉ moved := fun hmem => hfirst (List.mem_toFinset.mp (h.turned hmem))
    by_cases hqp : p = q
    · subst hqp
      -- The player has had no turn before, so it still stands where the pass found it.
      rcases h.outcome p old hold with ⟨-, hnow⟩ | ⟨hmem, -⟩
      · obtain rfl := Option.some.inj (hstep.registered.symm.trans hnow)
        refine .inr ⟨Finset.mem_insert_self p moved, destination, ?_, ?_⟩
        · exact ⟨playerIds, [], moved, v, rfl, h.run, hstep⟩
        · rw [getElem?_movedPlayer, if_pos rfl]
      · exact absurd hmem hunmoved
    · have hother : (movedPlayer v p player destination).players[q]? = v.players[q]? := by
        rw [getElem?_movedPlayer, if_neg hqp]
      rcases h.outcome q old hold with ⟨hq, hnow⟩ | ⟨hq, destination', hsteps, hnow⟩
      · refine .inl ⟨fun hmem => ?_, hother.trans hnow⟩
        rcases Finset.mem_insert.mp hmem with heq | hmem
        · exact hqp heq.symm
        · exact hq hmem
      · exact .inr ⟨Finset.mem_insert_of_mem hq, destination', hsteps.append [p],
          hother.trans hnow⟩
  known := by
    intro q other hother
    rw [getElem?_movedPlayer] at hother
    split at hother
    · rename_i heq
      exact heq ▸ h.known p player hstep.registered
    · exact h.known q other hother
  apart := fun hapart => hstep.apart (h.apart hapart)
  avoid := by
    intro hindex hapart
    refine hstep.avoid (fun position hstands => ?_) (h.avoid hindex hapart)
    rw [h.index]
    exact hindex position hstands

end Followed

/-- **The pass goes through.** -/
theorem followPlayerTargetsOnce_spec {w : LivingWorld} (hw : Enrolled w) (hmap : PlayersOnMap w)
    (worldMap : WorldMap) : ∃ moved w', followPlayerTargetsOnce worldMap w = (.ok moved, w') ∧
      Followed worldMap w (w.players.toList.map Prod.fst) moved w' := by
  have hnodup : (w.players.toList.map Prod.fst).Nodup := OrderedMap.nodup_keys w.players
  rw [followPlayerTargetsOnce, bind_of_ok (read_apply _ _)]
  refine foldlM_total (I := Followed worldMap w) ?_ (Followed.start hw hmap)
  intro before p moved v hprefix hbefore
  rcases followTurn_spec hbefore.enrolled hbefore.onMap worldMap moved p with hnone | hone
  · exact ⟨moved, v, hnone, hbefore.stays hnone⟩
  · obtain ⟨player, destination, hstep, hone⟩ := hone
    have hfirst : p ∉ before := by
      have hsub := hnodup.sublist hprefix.sublist
      rw [List.nodup_append] at hsub
      exact fun hmem => hsub.2.2 p hmem p List.mem_cons_self rfl
    exact ⟨_, _, hone, hbefore.steps hfirst hstep hone⟩

end Living

/-- **A pass of the followers succeeds** in every world reached: everybody stays, or takes one step
to a tile beside that is nearer to the player who is followed; and nobody steps onto the tile of a
player or of an active creature. -/
theorem followPass (toLowercase : String → String) (events : List GameEvent) (worldMap : WorldMap)
    {w : LivingWorld} (hw : w = (events.foldl (GameEvent.step toLowercase) .empty).toLivingWorld)
    (hmap : Living.PlayersOnMap w) :
    ∃ moved w', Living.followPlayerTargetsOnce worldMap w = (.ok moved, w') ∧
      (∀ (p : ℕ) player, w.players[p]? = some player →
        Living.TurnTaken worldMap w (w.players.toList.map Prod.fst) moved w' p player) ∧
      (Living.PlayersApart w.players → Living.PlayersApart w'.players) ∧
      (PlayersAvoid w.players w.staticCreatures →
        PlayersAvoid w'.players w'.staticCreatures) := by
  subst hw
  obtain ⟨moved, w', hrun, hpass⟩ := Living.followPlayerTargetsOnce_spec (enrolled toLowercase events) hmap worldMap
  refine ⟨moved, w', hrun, hpass.outcome, hpass.apart, fun havoid => ?_⟩
  rw [hpass.creatures]
  refine hpass.avoid (fun position hstands => ?_) havoid
  exact (occupied_iff_standsAt toLowercase events position).mpr hstands

/-- Three knights in a row, each following the next and the last one the first. -/
def knightsFollow : List GameEvent :=
  [knightEnters 7 100, knightEnters 8 103, knightEnters 9 106, .player (.setFollow 7 (some 8)),
    .player (.setFollow 8 (some 9)), .player (.setFollow 9 (some 7))]

theorem followPass_knights :
    ∃ moved w', Living.followPlayerTargetsOnce templeMap
      (knightsFollow.foldl (GameEvent.step id) .empty).toLivingWorld = (.ok moved, w') := by
  have hmap : Living.PlayersOnMap (knightsFollow.foldl (GameEvent.step id) .empty).toLivingWorld := by
    have hall : ∀ e ∈ (knightsFollow.foldl (GameEvent.step id) .empty).players.toList,
        e.2.position.x ≤ u16Max ∧ e.2.position.y ≤ u16Max := by
      decide +kernel
    intro id player hplayer
    exact hall (id, player) (Std.ExtTreeMap.mem_toList_iff_getElem?_eq_some.mpr hplayer)
  obtain ⟨moved, w', hrun, -⟩ := followPass id knightsFollow templeMap rfl hmap
  exact ⟨moved, w', hrun⟩

end ForgottenEngine
