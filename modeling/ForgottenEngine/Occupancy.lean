import ForgottenEngine.Creatures
import ForgottenEngine.Library.Run
import ForgottenEngine.Library.PartialFold

/-!
# Who stands where

No two active creatures may share a tile and no player may stand on the tile of an active
creature (`LivingWorld.Unshared`).  Every operation checks this for itself, against the index of
occupied tiles or against the registry, so the invariant of a run (`Separated`) also says that
the index is exactly the set of the active creatures' tiles.

One operation does not check it.  An installation compares the entities of a collection with the
players, but not with each other: two entities imported on one tile both become active.  Its
accepted runs are unshared exactly when the placed entities stand on different tiles
(`unshared_install_iff`); with installations of this kind only, every run is unshared.
-/

namespace ForgottenEngine

open Fallible PartialFold

/-! ### The invariant -/

/-- An active creature stands on the tile. -/
def StandsAt (creatures : BTreeMap ℕ StaticCreatureRuntime) (position : Position) : Prop :=
  ∃ (id : ℕ) (runtime : StaticCreatureRuntime), creatures[id]? = some runtime ∧
    runtime.active = true ∧ runtime.entity.position = position

/-- Active creatures stand on different tiles. -/
def StandAlone (creatures : BTreeMap ℕ StaticCreatureRuntime) : Prop :=
  ∀ (i j : ℕ) (a b : StaticCreatureRuntime), creatures[i]? = some a → creatures[j]? = some b →
    a.active = true → b.active = true → a.entity.position = b.entity.position → i = j

/-- No player stands on the tile of an active creature. -/
def PlayersAvoid (players : BTreeMap ℕ Player) (creatures : BTreeMap ℕ StaticCreatureRuntime) :
    Prop :=
  ∀ (id : ℕ) (player : Player), players[id]? = some player → ¬StandsAt creatures player.position

namespace LivingWorld

/-- **No shared tiles**: not between active creatures, not between a player and a creature. -/
def Unshared (w : LivingWorld) : Prop :=
  StandAlone w.staticCreatures ∧ PlayersAvoid w.players w.staticCreatures

end LivingWorld

/-- The three tables the invariant is about. -/
structure SeparatedTables (players : BTreeMap ℕ Player)
    (creatures : BTreeMap ℕ StaticCreatureRuntime) (index : Finset Position) : Prop where
  indexed : ∀ position, position ∈ index ↔ StandsAt creatures position
  alone : StandAlone creatures
  avoid : PlayersAvoid players creatures

/-- The invariant of the runs. -/
def Separated (w : LivingWorld) : Prop :=
  SeparatedTables w.players w.staticCreatures w.staticOccupiedPositions

theorem Separated.unshared {w : LivingWorld} (h : Separated w) : w.Unshared := ⟨h.alone, h.avoid⟩

theorem separated_empty : Separated .empty where
  indexed := by
    intro position
    simp [LivingWorld.empty, StandsAt]
  alone := by
    intro i j a b ha
    simp [LivingWorld.empty] at ha
  avoid := by
    intro id player h
    simp [LivingWorld.empty, WorldState.empty] at h

@[simp] theorem mem_activePositions {w : LivingWorld} {position : Position} :
    position ∈ w.activePositions ↔ StandsAt w.staticCreatures position := by
  simp only [LivingWorld.activePositions, List.mem_toFinset, List.mem_map, List.mem_filter,
    Prod.exists, Std.ExtTreeMap.mem_toList_iff_getElem?_eq_some, StandsAt]
  constructor
  · rintro ⟨id, runtime, ⟨h, hactive⟩, hpos⟩; exact ⟨id, runtime, h, hactive, hpos⟩
  · rintro ⟨id, runtime, h, hactive, hpos⟩; exact ⟨id, runtime, ⟨h, hactive⟩, hpos⟩

@[simp] theorem hasActiveAt_iff {w : LivingWorld} {position : Position} :
    w.hasActiveAt position = true ↔ StandsAt w.staticCreatures position := by
  simp only [LivingWorld.hasActiveAt, List.any_eq_true, Prod.exists, Bool.and_eq_true,
    decide_eq_true_eq, Std.ExtTreeMap.mem_toList_iff_getElem?_eq_some, StandsAt]

@[simp] theorem isPlayerOccupied_iff {w : LivingWorld} {position : Position} :
    w.isPlayerOccupied position = true ↔
      ∃ (id : ℕ) (player : Player), w.players[id]? = some player ∧ player.position = position := by
  simp only [LivingWorld.isPlayerOccupied, List.any_eq_true, Prod.exists, decide_eq_true_eq,
    Std.ExtTreeMap.mem_toList_iff_getElem?_eq_some]

theorem Separated.occupied_iff {w : LivingWorld} (h : Separated w) {position : Position} :
    w.isStaticCreatureOccupied position = true ↔ StandsAt w.staticCreatures position := by
  rw [LivingWorld.isStaticCreatureOccupied, decide_eq_true_iff]
  exact h.indexed position

/-! ### Writes that keep it -/

section Writes

variable {w : LivingWorld}

@[simp] theorem separated_changed : Separated w.changed ↔ Separated w := Iff.rfl

@[simp] theorem separated_putInteractions (intents : BTreeMap ℕ PlayerInteractionIntent) :
    Separated (w.putInteractions intents) ↔ Separated w := Iff.rfl

@[simp] theorem separated_putRespawnState (playerId : ℕ) (state : PlayerRespawnState) :
    Separated (w.putRespawnState playerId state) ↔ Separated w := Iff.rfl

@[simp] theorem separated_putVitals (playerId : ℕ) (vitals : PlayerVitals) :
    Separated (w.putVitals playerId vitals) ↔ Separated w := Iff.rfl

/-- After a write of the registry the index is recomputed, so only the registry counts. -/
theorem separated_refresh {creatures : BTreeMap ℕ StaticCreatureRuntime}
    (halone : StandAlone creatures) (havoid : PlayersAvoid w.players creatures) :
    Separated (w.putCreatures creatures).refreshStaticCreatureOccupancy where
  indexed := fun _ => mem_activePositions
  alone := halone
  avoid := havoid

/-- A player may be put on a tile without an active creature. -/
theorem Separated.putPlayer (h : Separated w) (playerId : ℕ) {player : Player}
    (hfree : ¬StandsAt w.staticCreatures player.position) :
    Separated (w.putPlayer playerId player) where
  indexed := h.indexed
  alone := h.alone
  avoid := by
    intro id other hother
    simp only [LivingWorld.putPlayer, Std.ExtTreeMap.getElem?_insert] at hother
    split at hother
    · cases hother
      exact hfree
    · exact h.avoid id other hother

variable {creatures : BTreeMap ℕ StaticCreatureRuntime} {id : ℕ} {runtime : StaticCreatureRuntime}

/-- A tile occupied after writing one creature was so before, or is the written creature's. -/
theorem StandsAt.of_insert {position : Position}
    (h : StandsAt (creatures.insert id runtime) position) :
    (runtime.active = true ∧ runtime.entity.position = position) ∨
      ∃ (j : ℕ) (b : StaticCreatureRuntime), j ≠ id ∧ creatures[j]? = some b ∧ b.active = true ∧
        b.entity.position = position := by
  obtain ⟨j, b, hb, hactive, hpos⟩ := h
  by_cases hj : id = j
  · subst hj
    simp only [Std.ExtTreeMap.getElem?_insert_self, Option.some.injEq] at hb
    subst hb
    exact .inl ⟨hactive, hpos⟩
  · rw [Std.ExtTreeMap.getElem?_insert] at hb
    exact .inr ⟨j, b, Ne.symm hj, by simpa [hj] using hb, hactive, hpos⟩

/-- One creature may be written when it is inactive or alone on its tile. -/
theorem StandAlone.insert (h : StandAlone creatures)
    (hfree : runtime.active = true → ∀ (j : ℕ) (b : StaticCreatureRuntime), j ≠ id →
      creatures[j]? = some b → b.active = true → b.entity.position ≠ runtime.entity.position) :
    StandAlone (creatures.insert id runtime) := by
  intro i j a b ha hb hactive hactive' hpos
  rw [Std.ExtTreeMap.getElem?_insert] at ha hb
  by_cases hi : id = i
  · subst hi
    simp only [Std.ReflCmp.compare_self, if_true, Option.some.injEq] at ha
    subst ha
    by_cases hj : id = j
    · exact hj
    · simp only [Std.LawfulEqCmp.compare_eq_iff_eq, hj, if_false] at hb
      exact absurd hpos.symm (hfree hactive j b (Ne.symm hj) hb hactive')
  · simp only [Std.LawfulEqCmp.compare_eq_iff_eq, hi, if_false] at ha
    by_cases hj : id = j
    · subst hj
      simp only [Std.ReflCmp.compare_self, if_true, Option.some.injEq] at hb
      subst hb
      exact absurd hpos (hfree hactive' i a (Ne.symm hi) ha hactive)
    · simp only [Std.LawfulEqCmp.compare_eq_iff_eq, hj, if_false] at hb
      exact h i j a b ha hb hactive hactive' hpos

theorem PlayersAvoid.insert {players : BTreeMap ℕ Player} (h : PlayersAvoid players creatures)
    (hfree : runtime.active = true → ∀ (p : ℕ) (player : Player), players[p]? = some player →
      player.position ≠ runtime.entity.position) :
    PlayersAvoid players (creatures.insert id runtime) := by
  intro p player hp hstands
  rcases hstands.of_insert with ⟨hactive, hpos⟩ | ⟨j, b, -, hb, hactive, hpos⟩
  · exact hfree hactive p player hp hpos.symm
  · exact h p player hp ⟨j, b, hb, hactive, hpos⟩

end Writes

/-! ### Registries that differ in nothing that counts -/

/-- What the invariant sees of a creature. -/
def stance (runtime : StaticCreatureRuntime) : Bool × Position :=
  (runtime.active, runtime.entity.position)

/-- Every creature is as active, and where it was. -/
def SameStances (creatures creatures' : BTreeMap ℕ StaticCreatureRuntime) : Prop :=
  ∀ id : ℕ, creatures'[id]?.map stance = creatures[id]?.map stance

section Stances

variable {creatures creatures' : BTreeMap ℕ StaticCreatureRuntime}

theorem standsAt_iff_stance {position : Position} :
    StandsAt creatures position ↔ ∃ id : ℕ, creatures[id]?.map stance = some (true, position) := by
  simp only [StandsAt, stance, Option.map_eq_some_iff, Prod.mk.injEq]

theorem standAlone_iff_stance :
    StandAlone creatures ↔ ∀ (i j : ℕ) (position : Position),
      creatures[i]?.map stance = some (true, position) →
        creatures[j]?.map stance = some (true, position) → i = j := by
  simp only [StandAlone, stance, Option.map_eq_some_iff, Prod.mk.injEq]
  constructor
  · rintro h i j position ⟨a, ha, hactive, hpos⟩ ⟨b, hb, hactive', hpos'⟩
    exact h i j a b ha hb hactive hactive' (hpos.trans hpos'.symm)
  · intro h i j a b ha hb hactive hactive' hpos
    exact h i j a.entity.position ⟨a, ha, hactive, rfl⟩ ⟨b, hb, hactive', hpos.symm⟩

theorem SameStances.standsAt_iff (h : SameStances creatures creatures') {position : Position} :
    StandsAt creatures' position ↔ StandsAt creatures position := by
  rw [standsAt_iff_stance, standsAt_iff_stance]
  exact exists_congr fun id => by rw [h id]

theorem SameStances.separated {players players' : BTreeMap ℕ Player} {index : Finset Position}
    (h : SameStances creatures creatures')
    (hplayers : ∀ (id : ℕ) (player : Player), players'[id]? = some player →
      players[id]? = some player)
    (hw : SeparatedTables players creatures index) :
    SeparatedTables players' creatures' index where
  indexed := fun position => (hw.indexed position).trans h.standsAt_iff.symm
  alone := by
    have halone := standAlone_iff_stance.mp hw.alone
    refine standAlone_iff_stance.mpr fun i j position hi hj => ?_
    rw [h i] at hi
    rw [h j] at hj
    exact halone i j position hi hj
  avoid := by
    intro id player hp
    rw [h.standsAt_iff]
    exact hw.avoid id player (hplayers id player hp)

theorem sameStances_insert {id : ℕ} {runtime runtime' : StaticCreatureRuntime}
    (h : creatures[id]? = some runtime) (hstance : stance runtime' = stance runtime) :
    SameStances creatures (creatures.insert id runtime') := by
  intro j
  rw [Std.ExtTreeMap.getElem?_insert]
  by_cases hj : id = j
  · subst hj
    simp [h, hstance]
  · simp [hj]

end Stances

/-! ### The methods that write players -/

namespace Living

theorem stays_addPlayerWithVitals (player : Player) (vitals : PlayerVitals) :
    Stays Separated (addPlayerWithVitals player vitals) := by
  intro w hw
  simp only [addPlayerWithVitals, markChanged, leaves_ite, leaves_fail, leaves_read_bind,
    leaves_write_bind, leaves_write]
  refine ⟨fun _ => hw, fun _ => ⟨fun _ => hw, fun _ => ⟨fun _ => hw, fun _ => ⟨fun _ => hw,
    fun _ => ⟨fun _ => hw, fun hfree => ?_⟩⟩⟩⟩⟩
  rw [hw.occupied_iff] at hfree
  exact hw.putPlayer player.id hfree

theorem stays_movePlayer (playerId : ℕ) (destination : Position) :
    Stays Separated (movePlayer playerId destination) := by
  intro w hw
  simp only [movePlayer, markChanged, playerRespawnState, requirePlayer, leaves_ite, leaves_fail,
    leaves_read_bind, leaves_readOr_bind, leaves_write_bind, leaves_write]
  refine ⟨fun _ => hw, fun state _ => ⟨fun _ => hw, fun _ => ⟨fun _ => hw, fun hfree =>
    ⟨fun _ => hw, fun player _ => ⟨fun _ => hw, fun _ => ?_⟩⟩⟩⟩⟩
  rw [hw.occupied_iff] at hfree
  exact hw.putPlayer playerId hfree

theorem stays_movePlayerCardinal (playerId : ℕ) (direction : CardinalDirection) :
    Stays Separated (movePlayerCardinal playerId direction) := by
  refine .bind (ReadOnly.readOr _ _).stays fun player => ?_
  refine .bind (ReadOnly.ofExcept _).stays fun destination => ?_
  exact .bind (stays_movePlayer playerId destination) fun _ => .pure _

theorem stays_followStep (worldMap : WorldMap) (playerId : ℕ) (source : Position)
    (directions : List CardinalDirection) :
    Stays Separated (followStep worldMap playerId source directions) := by
  induction directions with
  | nil => exact .pure false
  | cons direction rest ih =>
    rw [followStep]
    refine .bind (ReadOnly.ofExcept _).stays fun destination => ?_
    refine .bind (ReadOnly.read _).stays fun onCreature => ?_
    refine .bind (ReadOnly.read _).stays fun onOther => ?_
    split
    · exact ih
    · exact .bind (stays_movePlayerCardinal playerId direction) fun _ => .pure true

theorem stays_followTurn (worldMap : WorldMap) (moved : Finset ℕ) (playerId : ℕ) :
    Stays Separated (followTurn worldMap moved playerId) := by
  refine .bind (ReadOnly.read _).stays fun intent => ?_
  split
  · exact .pure moved
  · refine .bind (ReadOnly.read _).stays fun source => ?_
    refine .bind (ReadOnly.read _).stays fun target => ?_
    split
    · refine .bind (ReadOnly.readOr _ _).stays fun state => ?_
      refine .bind (ReadOnly.readOr _ _).stays fun targetState => ?_
      split
      · exact .pure moved
      · exact .bind (stays_followStep worldMap playerId _ _) fun _ => .pure _
    · exact .pure moved

theorem stays_followPlayerTargetsOnce (worldMap : WorldMap) :
    Stays Separated (followPlayerTargetsOnce worldMap) :=
  .bind (ReadOnly.read _).stays fun playerIds => .foldlM (stays_followTurn worldMap) playerIds ∅

theorem stays_teleportPlayer (playerId : ℕ) (destination : Position) :
    Stays Separated (teleportPlayer playerId destination) := by
  intro w hw
  simp only [teleportPlayer, markChanged, playerRespawnState, requirePlayer, leaves_ite,
    leaves_fail, leaves_read_bind, leaves_readOr_bind, leaves_write_bind, leaves_pure]
  refine ⟨fun _ => hw, fun state _ => ⟨fun _ => hw, fun _ => ⟨fun _ => hw, fun hfree =>
    ⟨fun _ => hw, fun _ => ⟨fun _ => hw, fun player _ => ?_⟩⟩⟩⟩⟩
  rw [hw.occupied_iff] at hfree
  exact hw.putPlayer playerId hfree

theorem stays_hydratePlayerRespawnState (playerId : ℕ) (state : PlayerRespawnState) :
    Stays Separated (hydratePlayerRespawnState playerId state) := by
  intro w hw
  simp only [hydratePlayerRespawnState, markChanged, playerRespawnState, requirePlayer, leaves_ite,
    leaves_fail, leaves_readOr_bind, leaves_write_bind, leaves_pure, separated_changed,
    separated_putRespawnState]
  simp [hw]

theorem stays_applyPlayerDeath (playerId townId : ℕ) (worldMap : WorldMap) :
    Stays Separated (applyPlayerDeath playerId townId worldMap) := by
  intro w hw
  simp only [applyPlayerDeath, clearPlayerInteractionReferences, markChanged, playerRespawnState,
    requirePlayer, leaves_ite, leaves_readOr_bind, leaves_ofOption_bind, leaves_read_bind,
    leaves_write_bind, leaves_pure]
  refine ⟨fun _ => hw, fun _ _ => ⟨fun _ => hw, fun existing _ => ⟨fun _ => hw, fun _ =>
    ⟨fun _ => hw, fun respawnAt _ => ⟨fun _ => hw, fun vitals _ => ⟨fun _ => hw,
      fun _ _ => hw⟩⟩⟩⟩⟩⟩

theorem stays_respawnPlayer (playerId : ℕ) : Stays Separated (respawnPlayer playerId) := by
  intro w hw
  simp only [respawnPlayer, markChanged, playerRespawnState, requirePlayer, leaves_ite, leaves_fail,
    leaves_readOr_bind, leaves_ofOption_bind, leaves_read_bind, leaves_write_bind, leaves_pure]
  refine ⟨fun _ => hw, fun _ _ => ⟨fun _ => hw, fun state _ => ⟨fun _ => hw, fun _ =>
    ⟨fun _ => hw, fun position _ => ⟨fun _ => hw, fun hfree => ⟨fun _ => hw, fun _ =>
      ⟨fun _ => hw, fun vitals _ => ⟨fun _ => hw, fun player _ => ?_⟩⟩⟩⟩⟩⟩⟩⟩
  rw [hw.occupied_iff] at hfree
  exact hw.putPlayer playerId hfree

/-- Fewer players and other targets of the creatures do not crowd a tile. -/
theorem stays_removePlayer (playerId : ℕ) : Stays Separated (removePlayer playerId) := by
  intro w hw
  simp only [removePlayer, clearPlayerInteractionReferences, markChanged, requirePlayer,
    leaves_readOr_bind, leaves_write_bind, leaves_pure]
  refine ⟨fun _ => hw, fun player _ => SameStances.separated ?_ ?_ hw⟩
  · intro id
    simp only [LivingWorld.changed, LivingWorld.putCreatures, LivingWorld.putInteractions,
      Std.ExtTreeMap.getElem?_map]
    cases w.staticCreatures[id]? with
    | none => rfl
    | some runtime =>
      simp only [Option.map_some]
      split <;> rfl
  · intro id other hother
    simp only [LivingWorld.changed, WorldState.markChanged, LivingWorld.putCreatures,
      LivingWorld.putInteractions, Std.ExtTreeMap.getElem?_erase] at hother
    split at hother
    · cases hother
    · exact hother

theorem stays_admitSelected (playerId : ℕ) (selected : Option ℕ) :
    Stays Separated (admitSelected playerId selected) := by
  cases selected with
  | none => exact .pure ()
  | some selected =>
    intro w hw
    simp only [admitSelected, playerRespawnState, requirePlayer, leaves_readOr_bind, leaves_ite,
      leaves_fail, leaves_pure]
    simp [hw]

theorem stays_setPlayerFollow (playerId : ℕ) (followPlayerId : Option ℕ) :
    Stays Separated (setPlayerFollow playerId followPlayerId) := by
  refine .bind (ReadOnly.readOr _ _).stays fun _ => ?_
  refine .bind (ReadOnly.read _).stays fun previous => ?_
  refine .bind (stays_admitSelected playerId followPlayerId) fun _ => ?_
  intro w hw
  simp only [leaves_write_bind]
  split
  · exact hw
  · exact hw

theorem stays_advanceTicks (elapsedSeconds : ℕ) : Stays Separated (advanceTicks elapsedSeconds) := by
  intro w hw
  simp only [advanceTicks, markChanged, leaves_ite, leaves_pure, leaves_write_bind, leaves_write]
  exact ⟨fun _ => hw, fun _ => hw⟩

/-! ### The methods that write one creature -/

theorem stays_despawnDynamicEntity (id : ℕ) : Stays Separated (despawnDynamicEntity id) := by
  intro w hw
  simp only [despawnDynamicEntity, markChanged, leaves_ite, leaves_fail, leaves_readOr_bind,
    leaves_write_bind, leaves_write, separated_changed]
  refine ⟨fun _ => hw, fun _ => ⟨fun _ => hw, fun _ _ => ?_⟩⟩
  have hold : ∀ (j : ℕ) (b : StaticCreatureRuntime), (w.staticCreatures.erase id)[j]? = some b →
      w.staticCreatures[j]? = some b := by
    intro j b hb
    rw [Std.ExtTreeMap.getElem?_erase] at hb
    split at hb
    · cases hb
    · exact hb
  refine separated_refresh ?_ ?_
  · intro i j a b ha hb
    exact hw.alone i j a b (hold i a ha) (hold j b hb)
  · rintro p player hp ⟨j, b, hb, hactive, hpos⟩
    exact hw.avoid p player hp ⟨j, b, hold j b hb, hactive, hpos⟩

theorem stays_deactivateStaticCreature (id : ℕ) :
    Stays Separated (deactivateStaticCreature id) := by
  intro w hw
  have hwrite : ∀ runtime : StaticCreatureRuntime, runtime.active = false →
      Separated (w.putCreatures (w.staticCreatures.insert id runtime)).refreshStaticCreatureOccupancy := by
    intro runtime hinactive
    refine separated_refresh (hw.alone.insert ?_) (PlayersAvoid.insert hw.avoid ?_)
    · intro hactive
      simp [hinactive] at hactive
    · intro hactive
      simp [hinactive] at hactive
  simp only [deactivateStaticCreature, leaves_readOr_bind, leaves_read_bind, leaves_write_bind]
  refine ⟨fun _ => hw, fun runtime _ => ?_⟩
  cases runtime.active with
  | true => exact hwrite _ rfl
  | false => exact hwrite _ rfl

theorem stays_moveStaticCreatureCardinal (id : ℕ) (direction : CardinalDirection)
    (worldMap : WorldMap) : Stays Separated (moveStaticCreatureCardinal id direction worldMap) := by
  intro w hw
  simp only [moveStaticCreatureCardinal, markChanged, leaves_ite, leaves_fail, leaves_readOr_bind,
    leaves_ofExcept_bind, leaves_read_bind, leaves_write_bind, leaves_pure, separated_changed]
  refine ⟨fun _ => hw, fun source hsource => ⟨fun _ => hw, fun _ => ⟨fun _ _ => hw,
    fun destination _ => ⟨fun _ => hw, fun _ => ⟨fun _ => hw, fun hplayer => ⟨fun _ => hw,
      fun hother => ?_⟩⟩⟩⟩⟩⟩
  rw [isPlayerOccupied_iff] at hplayer
  refine separated_refresh (hw.alone.insert ?_) (PlayersAvoid.insert hw.avoid ?_)
  · intro _ j b hj hb hactive hpos
    refine hother (List.any_eq_true.mpr ⟨(j, b), ?_, ?_⟩)
    · exact Std.ExtTreeMap.mem_toList_iff_getElem?_eq_some.mpr hb
    · exact decide_eq_true ⟨hj, hactive, hpos⟩
  · intro _ p player hp hpos
    exact hplayer ⟨p, player, hp, hpos⟩

theorem stays_spawnDynamicEntity (toLowercase : String → String) (name : String)
    (position : Position) (direction : ℕ) :
    Stays Separated (spawnDynamicEntity toLowercase name position direction) := by
  intro w hw
  simp only [spawnDynamicEntity, markChanged, leaves_ite, leaves_fail, leaves_ofOption_bind,
    leaves_read_bind, leaves_write_bind, leaves_pure, separated_changed]
  refine ⟨fun _ => hw, fun _ => ⟨fun _ => hw, fun _ => ⟨fun _ => hw, fun template _ =>
    ⟨fun _ => hw, fun spawnPosition hfree => ⟨fun _ => hw, fun slot _ => ?_⟩⟩⟩⟩⟩
  have hfree := List.find?_some hfree
  simp only [decide_not, Bool.not_eq_true', decide_eq_false_iff_not, Bool.or_eq_true, not_or,
    isPlayerOccupied_iff, hasActiveAt_iff] at hfree
  refine separated_refresh (hw.alone.insert ?_) (PlayersAvoid.insert hw.avoid ?_)
  · intro _ j b _ hb hactive hpos
    exact hfree.2 ⟨j, b, hb, hactive, hpos⟩
  · intro _ p player hp hpos
    exact hfree.1 ⟨p, player, hp, hpos⟩

/-! ### Resets and due reactivations -/

/-- What the reactivation loop keeps: the tiles it has given away are in its set. -/
structure SweepKeeps (players : BTreeMap ℕ Player) (sweep : ReactivationSweep) : Prop where
  alone : StandAlone sweep.creatures
  avoid : PlayersAvoid players sweep.creatures
  listed : ∀ position, StandsAt sweep.creatures position → position ∈ sweep.activePositions

/-- Writing an inactive creature moves nobody. -/
theorem SweepKeeps.insert_inactive {players : BTreeMap ℕ Player} {sweep : ReactivationSweep}
    (h : SweepKeeps players sweep) (id : ℕ) {runtime : StaticCreatureRuntime}
    (hinactive : runtime.active = false) (summary : StaticCreatureResetSummary) :
    SweepKeeps players ⟨sweep.creatures.insert id runtime, sweep.activePositions, summary⟩ where
  alone := h.alone.insert fun hactive => by simp [hinactive] at hactive
  avoid := PlayersAvoid.insert h.avoid fun hactive => by simp [hinactive] at hactive
  listed := by
    intro position hstands
    rcases hstands.of_insert with ⟨hactive, -⟩ | ⟨j, b, -, hb, hactive, hpos⟩
    · simp [hinactive] at hactive
    · exact h.listed position ⟨j, b, hb, hactive, hpos⟩

theorem SweepKeeps.round {players : BTreeMap ℕ Player} {rules : ReactivationRules}
    (hblocks : ∀ runtime, rules.playerBlocks runtime = false → ∀ (p : ℕ) (player : Player),
      players[p]? = some player → player.position ≠ runtime.spawnPosition)
    (tick : ℕ) {sweep : ReactivationSweep} (h : SweepKeeps players sweep)
    (entry : ℕ × StaticCreatureRuntime) : SweepKeeps players (sweepRound rules tick sweep entry) := by
  obtain ⟨id, runtime⟩ := entry
  unfold sweepRound
  simp only
  split
  · exact h
  · rename_i hskip
    have hinactive : runtime.active = false := by
      cases hactive : runtime.active with
      | false => rfl
      | true => exact absurd (.inl hactive) hskip
    have hdeferred : ({ runtime with reactivationDueTick := rules.rearmed runtime } :
      StaticCreatureRuntime).active = false := hinactive
    split
    · exact h.insert_inactive id hdeferred _
    · rename_i hplayer
      split
      · exact h.insert_inactive id hdeferred _
      · rename_i hfree
        constructor
        · refine h.alone.insert fun _ j b _ hb hactive hpos => ?_
          exact hfree (h.listed _ ⟨j, b, hb, hactive, hpos⟩)
        · refine PlayersAvoid.insert h.avoid fun _ p player hp => ?_
          exact hblocks runtime (by simpa using hplayer) p player hp
        · intro position hstands
          rcases hstands.of_insert with ⟨-, hpos⟩ | ⟨j, b, -, hb, hactive, hpos⟩
          · exact Finset.mem_insert.mpr (.inl hpos.symm)
          · exact Finset.mem_insert_of_mem (h.listed position ⟨j, b, hb, hactive, hpos⟩)

theorem stays_reactivateCreatures {rules : LivingWorld → ReactivationRules}
    (hblocks : ∀ w runtime, (rules w).playerBlocks runtime = false →
      w.isPlayerOccupied runtime.spawnPosition = false) :
    Stays Separated (reactivateCreatures rules) := by
  intro w hw
  have hfree : ∀ runtime, (rules w).playerBlocks runtime = false → ∀ (p : ℕ) (player : Player),
      w.players[p]? = some player → player.position ≠ runtime.spawnPosition := by
    intro runtime hr p player hp hpos
    have hocc := hblocks w runtime hr
    rw [Bool.eq_false_iff, ne_eq, isPlayerOccupied_iff] at hocc
    exact hocc ⟨p, player, hp, hpos⟩
  have hsweep : SweepKeeps w.players (sweepCreatures (rules w) w) :=
    foldl_prefix (I := fun _ sweep => SweepKeeps w.players sweep)
      (fun _ _ entry h => h.round hfree w.tick entry) _
      ⟨hw.alone, hw.avoid, fun position h => (hw.indexed position).mpr h⟩
  have hdone := separated_refresh (w := w) hsweep.alone hsweep.avoid
  simp only [reactivateCreatures, leaves_read_bind, leaves_write_bind]
  split
  · exact hdone
  · exact hdone

theorem stays_resetStaticCreatures : Stays Separated resetStaticCreatures :=
  stays_reactivateCreatures fun _ _ h => h

theorem stays_reactivateDueStaticCreatures : Stays Separated reactivateDueStaticCreatures := by
  refine stays_reactivateCreatures fun w runtime h => ?_
  simp only [Bool.or_eq_false_iff] at h
  exact h.1

/-! ### Restoring a snapshot -/

/-- Validation never admits two records of one creature. -/
theorem nodup_of_planned {w : LivingWorld} {records : List StaticCreatureRuntimeSnapshot}
    {plan : RestorePlan} (h : records.foldlM (planRecord w) {} = .ok plan) :
    (plan.known.map (·.id)).Nodup := by
  have hplan := foldlM_ok_prefix
    (I := fun _ plan => (plan.known.map (·.id)).Nodup ∧ ∀ id ∈ plan.known.map (·.id), id ∈ plan.seen)
    (fun pre plan record plan' hplan hstep => ?_) ⟨List.nodup_nil, by simp⟩ h
  · exact hplan.1
  · obtain ⟨hnodup, hseen⟩ := hplan
    simp only [planRecord] at hstep
    split at hstep
    · cases hstep
    · rename_i hnew
      split at hstep
      · cases hstep
        exact ⟨hnodup, fun id hid => Finset.mem_insert_of_mem (hseen id hid)⟩
      · split at hstep
        · cases hstep
        · split at hstep
          · cases hstep
            exact ⟨hnodup, fun id hid => Finset.mem_insert_of_mem (hseen id hid)⟩
          · split at hstep
            · cases hstep
            · cases hstep
              have hout : record.id ∉ plan.known.map (·.id) := fun hid => hnew (hseen _ hid)
              simp only [List.map_append, List.map_cons, List.map_nil]
              refine ⟨List.Nodup.append hnodup (List.nodup_singleton _) ?_, ?_⟩
              · simpa using hout
              · intro id hid
                rcases List.mem_append.mp hid with hid | hid
                · exact Finset.mem_insert_of_mem (hseen id hid)
                · rw [List.mem_singleton.mp hid]
                  exact Finset.mem_insert_self _ _

/-- What the occupancy check has established for the records it has read. -/
structure Claimed (w : LivingWorld) (untouched : Finset Position)
    (known : List StaticCreatureRuntimeSnapshot) (occupied : Finset Position) : Prop where
  covers : untouched ⊆ occupied
  listed : ∀ record ∈ known, record.active = true → record.position ∈ occupied
  free : ∀ record ∈ known, record.active = true →
    w.isPlayerOccupied record.position = false ∧ record.position ∉ untouched
  distinct : known.Pairwise fun a b => a.active = true → b.active = true →
    a.position ≠ b.position

theorem claimed_of_ok {w : LivingWorld} {untouched occupied : Finset Position}
    {known : List StaticCreatureRuntimeSnapshot}
    (h : known.foldlM (claimTile w) untouched = .ok occupied) :
    Claimed w untouched known occupied := by
  refine foldlM_ok_prefix (I := Claimed w untouched) (fun pre occupied record occupied' hpre hstep => ?_)
    ⟨fun _ hp => hp, by simp, by simp, .nil⟩ h
  simp only [claimTile] at hstep
  split at hstep
  · rename_i hinactive
    cases hstep
    refine ⟨hpre.covers, ?_, ?_, ?_⟩
    · intro r hr hactive
      rcases List.mem_append.mp hr with hr | hr
      · exact hpre.listed r hr hactive
      · rw [List.mem_singleton.mp hr] at hactive
        exact absurd hactive hinactive
    · intro r hr hactive
      rcases List.mem_append.mp hr with hr | hr
      · exact hpre.free r hr hactive
      · rw [List.mem_singleton.mp hr] at hactive
        exact absurd hactive hinactive
    · refine List.pairwise_append.mpr ⟨hpre.distinct, List.pairwise_singleton _ _, ?_⟩
      intro a _ b hb _ hactive
      rw [List.mem_singleton.mp hb] at hactive
      exact absurd hactive hinactive
  · split at hstep
    · cases hstep
    · rename_i hplayer
      split at hstep
      · cases hstep
      · rename_i hfree
        cases hstep
        refine ⟨fun p hp => Finset.mem_insert_of_mem (hpre.covers hp), ?_, ?_, ?_⟩
        · intro r hr hactive
          rcases List.mem_append.mp hr with hr | hr
          · exact Finset.mem_insert_of_mem (hpre.listed r hr hactive)
          · rw [List.mem_singleton.mp hr]
            exact Finset.mem_insert_self _ _
        · intro r hr hactive
          rcases List.mem_append.mp hr with hr | hr
          · exact hpre.free r hr hactive
          · rw [List.mem_singleton.mp hr]
            exact ⟨Bool.eq_false_of_not_eq_true hplayer, fun hp => hfree (hpre.covers hp)⟩
        · refine List.pairwise_append.mpr ⟨hpre.distinct, List.pairwise_singleton _ _, ?_⟩
          intro a ha b hb hactive _ hpos
          rw [List.mem_singleton.mp hb] at hpos
          exact hfree (hpos ▸ hpre.listed a ha hactive)

/-- What the writing loop has done after the records it has read. -/
structure Restored (creatures : BTreeMap ℕ StaticCreatureRuntime)
    (known : List StaticCreatureRuntimeSnapshot)
    (state : Bool × BTreeMap ℕ StaticCreatureRuntime) : Prop where
  untouched : ∀ id : ℕ, id ∉ known.map (·.id) → state.2[id]? = creatures[id]?
  written : (known.map (·.id)).Nodup → ∀ record ∈ known, ∀ runtime : StaticCreatureRuntime,
    state.2[record.id]? = some runtime → stance runtime = (record.active, record.position)
  unchanged : state.1 = false → SameStances creatures state.2

theorem stance_restoredRuntime (tick : ℕ) (record : StaticCreatureRuntimeSnapshot)
    (runtime : StaticCreatureRuntime) :
    stance (restoredRuntime tick record runtime) = (record.active, record.position) := rfl

theorem restored_foldl (tick : ℕ) (creatures : BTreeMap ℕ StaticCreatureRuntime)
    (known : List StaticCreatureRuntimeSnapshot) :
    Restored creatures known (known.foldl (restoreRecord tick) (false, creatures)) := by
  refine foldl_prefix (I := Restored creatures) (fun pre state record hpre => ?_) known
    ⟨fun _ _ => rfl, by simp, fun _ _ => rfl⟩
  unfold restoreRecord
  cases hrec : state.2[record.id]? with
  | none =>
    refine ⟨?_, ?_, hpre.unchanged⟩
    · intro id hid
      exact hpre.untouched id fun h => hid (by simp [h])
    · intro hnodup r hr runtime hruntime
      rw [List.map_append] at hnodup
      rcases List.mem_append.mp hr with hr | hr
      · exact hpre.written hnodup.of_append_left r hr runtime hruntime
      · rw [List.mem_singleton.mp hr] at hruntime
        simp [hrec] at hruntime
  | some old =>
    refine ⟨?_, ?_, ?_⟩
    · intro id hid
      have hne : ¬record.id = id := fun h => hid (by simp [h])
      simp only [Std.ExtTreeMap.getElem?_insert, Std.LawfulEqCmp.compare_eq_iff_eq, hne, if_false]
      exact hpre.untouched id fun h => hid (by simp [h])
    · intro hnodup r hr runtime hruntime
      rw [List.map_append] at hnodup
      simp only [Std.ExtTreeMap.getElem?_insert, Std.LawfulEqCmp.compare_eq_iff_eq] at hruntime
      rcases List.mem_append.mp hr with hr | hr
      · have hne : ¬record.id = r.id := by
          intro heq
          refine (List.nodup_append.mp hnodup).2.2 r.id (List.mem_map.mpr ⟨r, hr, rfl⟩) record.id ?_
            heq.symm
          simp
        rw [if_neg hne] at hruntime
        exact hpre.written hnodup.of_append_left r hr runtime hruntime
      · obtain rfl := List.mem_singleton.mp hr
        simp only [if_true, Option.some.injEq] at hruntime
        rw [← hruntime]
        rfl
    · intro hfalse id
      simp only [Bool.or_eq_false_iff] at hfalse
      obtain ⟨hbefore, hsame⟩ := hfalse
      have hstance : stance (restoredRuntime tick record old) = stance old := by
        simp only [restoreDiffers, ne_eq, decide_eq_false_iff_not, not_or, not_not] at hsame
        rw [stance_restoredRuntime, stance, hsame.1, hsame.2.1]
      rw [sameStances_insert hrec hstance id]
      exact hpre.unchanged hbefore id

theorem mem_untouchedPositions {w : LivingWorld} {known : List StaticCreatureRuntimeSnapshot}
    {id : ℕ} {runtime : StaticCreatureRuntime} (h : w.staticCreatures[id]? = some runtime)
    (hactive : runtime.active = true) (hid : id ∉ known.map (·.id)) :
    runtime.entity.position ∈ untouchedPositions w known := by
  simp only [untouchedPositions, List.mem_toFinset, List.mem_map, List.mem_filter]
  refine ⟨(id, runtime), ⟨Std.ExtTreeMap.mem_toList_iff_getElem?_eq_some.mpr h, ?_⟩, rfl⟩
  simpa [hactive] using hid

section Restore

variable {w : LivingWorld} {known : List StaticCreatureRuntimeSnapshot} {occupied : Finset Position}
  {state : Bool × BTreeMap ℕ StaticCreatureRuntime}

/-- An active creature after the writing loop stands where its record says, or was not touched. -/
theorem Restored.cases (h : Restored w.staticCreatures known state)
    (hnodup : (known.map (·.id)).Nodup) {id : ℕ} {runtime : StaticCreatureRuntime}
    (hid : state.2[id]? = some runtime) (hactive : runtime.active = true) :
    (∃ record ∈ known, record.id = id ∧ record.active = true ∧
        record.position = runtime.entity.position) ∨
      (id ∉ known.map (·.id) ∧ w.staticCreatures[id]? = some runtime) := by
  by_cases hmem : id ∈ known.map (·.id)
  · obtain ⟨record, hrecord, rfl⟩ := List.mem_map.mp hmem
    have hstance := h.written hnodup record hrecord runtime hid
    simp only [stance, Prod.mk.injEq] at hstance
    exact .inl ⟨record, hrecord, rfl, hstance.1.symm.trans hactive, hstance.2.symm⟩
  · exact .inr ⟨hmem, by rw [← h.untouched id hmem]; exact hid⟩

theorem Restored.alone (h : Restored w.staticCreatures known state)
    (hnodup : (known.map (·.id)).Nodup)
    (hclaimed : Claimed w (untouchedPositions w known) known occupied)
    (halone : StandAlone w.staticCreatures) : StandAlone state.2 := by
  intro i j a b ha hb hactive hactive' hpos
  rcases h.cases hnodup ha hactive with ⟨r, hr, rfl, hra, hrp⟩ | ⟨hi, ha'⟩
  · rcases h.cases hnodup hb hactive' with ⟨r', hr', rfl, hra', hrp'⟩ | ⟨hj, hb'⟩
    · have heq : r = r' := by
        by_contra hne
        have hsymm : Std.Symm fun a b : StaticCreatureRuntimeSnapshot =>
            a.active = true → b.active = true → a.position ≠ b.position :=
          ⟨fun _ _ hab hb ha => (hab ha hb).symm⟩
        exact hclaimed.distinct.forall hr hr' hne hra hra' (by rw [hrp, hrp', hpos])
      rw [heq]
    · have hfree := (hclaimed.free r hr hra).2
      rw [hrp, hpos] at hfree
      exact absurd (mem_untouchedPositions hb' hactive' hj) hfree
  · rcases h.cases hnodup hb hactive' with ⟨r', hr', rfl, hra', hrp'⟩ | ⟨hj, hb'⟩
    · have hfree := (hclaimed.free r' hr' hra').2
      rw [hrp', ← hpos] at hfree
      exact absurd (mem_untouchedPositions ha' hactive hi) hfree
    · exact halone i j a b ha' hb' hactive hactive' hpos

theorem Restored.avoid (h : Restored w.staticCreatures known state)
    (hnodup : (known.map (·.id)).Nodup)
    (hclaimed : Claimed w (untouchedPositions w known) known occupied)
    (havoid : PlayersAvoid w.players w.staticCreatures) : PlayersAvoid w.players state.2 := by
  rintro p player hp ⟨id, runtime, hid, hactive, hpos⟩
  rcases h.cases hnodup hid hactive with ⟨r, hr, -, hra, hrp⟩ | ⟨-, hid'⟩
  · have hfree := (hclaimed.free r hr hra).1
    rw [Bool.eq_false_iff, ne_eq, isPlayerOccupied_iff] at hfree
    exact hfree ⟨p, player, hp, by rw [hrp, hpos]⟩
  · exact havoid p player hp ⟨id, runtime, hid', hactive, hpos⟩

end Restore

theorem stays_restoreStaticCreatureRuntime (records : List StaticCreatureRuntimeSnapshot) :
    Stays Separated (restoreStaticCreatureRuntime records) := by
  intro w hw
  simp only [restoreStaticCreatureRuntime, leaves_read_bind, leaves_ofExcept_bind,
    leaves_write_bind]
  refine ⟨fun _ _ => hw, fun plan hplan => ⟨fun _ _ => hw, fun occupied hclaimed => ?_⟩⟩
  have hnodup := nodup_of_planned hplan
  have hclaimed := claimed_of_ok hclaimed
  have hrestored := restored_foldl w.tick w.staticCreatures plan.known
  split
  · exact separated_refresh (w := w) (hrestored.alone hnodup hclaimed hw.alone)
      (hrestored.avoid hnodup hclaimed hw.avoid)
  · rename_i hunchanged
    exact SameStances.separated (hrestored.unchanged (by simpa using hunchanged))
      (fun _ _ h => h) hw

/-! ### Installing a collection -/

end Living

/-- Of two entities on one tile, both are templates without a place. -/
def FeTfsStaticSpawnCollection.PlacedApart (collection : FeTfsStaticSpawnCollection) : Prop :=
  collection.entities.Pairwise fun a b => a.position = b.position → a.position = unplacedOrigin

instance (collection : FeTfsStaticSpawnCollection) : Decidable collection.PlacedApart :=
  inferInstanceAs (Decidable (List.Pairwise _ _))

namespace Living

/-- What an accepted installation has put into the registry. -/
structure Installed (w : LivingWorld) (collection : FeTfsStaticSpawnCollection)
    (entities : List FeTfsStaticEntity) (creatures : BTreeMap ℕ StaticCreatureRuntime) : Prop where
  lookup : ∀ (id : ℕ) (runtime : StaticCreatureRuntime), creatures[id]? = some runtime ↔
    ∃ entity ∈ entities, entity.id = id ∧ runtime = installedRuntime collection w.tick entity
  nodup : (entities.map (·.id)).Nodup
  free : ∀ entity ∈ entities, w.isPlayerOccupied entity.position = false

theorem installed_of_ok {w : LivingWorld} {collection : FeTfsStaticSpawnCollection}
    {entities : List FeTfsStaticEntity} {creatures : BTreeMap ℕ StaticCreatureRuntime}
    (h : entities.foldlM (installEntity w collection) ∅ = .ok creatures) :
    Installed w collection entities creatures := by
  refine foldlM_ok_prefix (I := Installed w collection) (fun pre acc entity acc' hpre hstep => ?_)
    ⟨by simp, List.nodup_nil, by simp⟩ h
  simp only [installEntity] at hstep
  split at hstep
  · cases hstep
  · split at hstep
    · cases hstep
    · rename_i hnew
      split at hstep
      · cases hstep
      · rename_i hplayer
        cases hstep
        have hout : ∀ e ∈ pre, e.id ≠ entity.id := by
          intro e he heq
          have hsome := (hpre.lookup e.id _).mpr ⟨e, he, rfl, rfl⟩
          rw [heq] at hsome
          rw [hsome] at hnew
          exact hnew rfl
        refine ⟨?_, ?_, ?_⟩
        · intro id runtime
          simp only [Std.ExtTreeMap.getElem?_insert, Std.LawfulEqCmp.compare_eq_iff_eq,
            List.mem_append, List.mem_singleton]
          by_cases hid : entity.id = id
          · subst hid
            simp only [if_true, Option.some.injEq]
            constructor
            · intro heq
              exact ⟨entity, .inr rfl, rfl, heq.symm⟩
            · rintro ⟨e, he | rfl, hid, rfl⟩
              · exact absurd hid (hout e he)
              · rfl
          · simp only [hid, if_false, hpre.lookup]
            constructor
            · rintro ⟨e, he, hid, rfl⟩
              exact ⟨e, .inl he, hid, rfl⟩
            · rintro ⟨e, he | rfl, hid', rfl⟩
              · exact ⟨e, he, hid', rfl⟩
              · exact absurd hid' hid
        · simp only [List.map_append, List.map_cons, List.map_nil]
          refine List.Nodup.append hpre.nodup (List.nodup_singleton _) ?_
          simpa using fun e he => hout e he
        · intro e he
          rcases List.mem_append.mp he with he | he
          · exact hpre.free e he
          · rw [List.mem_singleton.mp he]
            exact Bool.eq_false_of_not_eq_true hplayer

section Install

variable {w : LivingWorld} {collection : FeTfsStaticSpawnCollection}
  {creatures : BTreeMap ℕ StaticCreatureRuntime}

/-- The players were compared with every entity. -/
theorem Installed.avoid (h : Installed w collection collection.entities creatures) :
    PlayersAvoid w.players creatures := by
  rintro p player hp ⟨id, runtime, hid, -, hpos⟩
  obtain ⟨entity, hentity, -, rfl⟩ := (h.lookup id runtime).mp hid
  have hfree := h.free entity hentity
  rw [Bool.eq_false_iff, ne_eq, isPlayerOccupied_iff] at hfree
  exact hfree ⟨p, player, hp, hpos.symm⟩

/-- **The entities were not compared with each other.** -/
theorem Installed.alone_iff (h : Installed w collection collection.entities creatures) :
    StandAlone creatures ↔ collection.PlacedApart := by
  have hnodup : collection.entities.Nodup := h.nodup.of_map _
  constructor
  · intro halone
    refine hnodup.pairwise_of_forall_ne fun a ha b hb hne hpos => ?_
    by_contra hplaced
    have hid : a.id = b.id := by
      refine halone a.id b.id _ _ ((h.lookup a.id _).mpr ⟨a, ha, rfl, rfl⟩)
        ((h.lookup b.id _).mpr ⟨b, hb, rfl, rfl⟩) ?_ ?_ hpos
      · exact decide_eq_true hplaced
      · exact decide_eq_true (hpos ▸ hplaced)
    exact hne (List.inj_on_of_nodup_map h.nodup ha hb hid)
  · intro hapart i j a b ha hb hactive _ hpos
    obtain ⟨x, hx, rfl, rfl⟩ := (h.lookup i a).mp ha
    obtain ⟨y, hy, rfl, rfl⟩ := (h.lookup j b).mp hb
    have hplaced : x.position ≠ unplacedOrigin := of_decide_eq_true hactive
    have heq : x = y := by
      by_contra hne
      have hsymm : Std.Symm fun a b : FeTfsStaticEntity =>
          a.position = b.position → a.position = unplacedOrigin :=
        ⟨fun _ _ hab hba => hba.trans (hab hba.symm)⟩
      exact hplaced (List.Pairwise.forall hapart hx hy hne hpos)
    rw [heq]

end Install

theorem installStaticCreatures_eq_ok {w w' : LivingWorld} {collection : FeTfsStaticSpawnCollection}
    (h : installStaticCreatures collection w = (.ok (), w')) :
    ∃ creatures, Installed w collection collection.entities creatures ∧
      w' = (w.putCreatures creatures).refreshStaticCreatureOccupancy.changed := by
  unfold installStaticCreatures at h
  split at h
  · cases h
  · simp only [bind_eq_ok, read_apply, ofExcept_apply, write_apply, markChanged,
      Prod.mk.injEq, Except.ok.injEq] at h
    obtain ⟨_, _, ⟨hread, rfl⟩, creatures, _, ⟨hcreatures, rfl⟩, _, _, ⟨-, rfl⟩, _, _, ⟨-, rfl⟩, -,
      rfl⟩ := h
    exact ⟨creatures, installed_of_ok (hread.trans hcreatures), rfl⟩

/-- **When an accepted installation shares no tile.** -/
theorem unshared_install_iff {w w' : LivingWorld} {collection : FeTfsStaticSpawnCollection}
    (h : installStaticCreatures collection w = (.ok (), w')) :
    w'.Unshared ↔ collection.PlacedApart := by
  obtain ⟨creatures, hinstalled, rfl⟩ := installStaticCreatures_eq_ok h
  rw [← hinstalled.alone_iff]
  exact and_iff_left hinstalled.avoid

theorem leaves_installStaticCreatures {w : LivingWorld} {collection : FeTfsStaticSpawnCollection}
    (hapart : collection.PlacedApart) (hw : Separated w) :
    Leaves Separated (installStaticCreatures collection) w := by
  simp only [installStaticCreatures, markChanged, leaves_ite, leaves_fail, leaves_read_bind,
    leaves_ofExcept_bind, leaves_write_bind, leaves_write, separated_changed]
  refine ⟨fun _ => hw, fun _ => ⟨fun _ _ => hw, fun creatures hcreatures => ?_⟩⟩
  have hinstalled := installed_of_ok hcreatures
  exact separated_refresh (hinstalled.alone_iff.mpr hapart) hinstalled.avoid

end Living

/-! ### Runs -/

/-- One operation of the living world. -/
inductive LivingEvent where
  | addPlayer (player : Player) (vitals : PlayerVitals)
  | removePlayer (playerId : ℕ)
  | setPlayerFollow (playerId : ℕ) (followPlayerId : Option ℕ)
  | movePlayer (playerId : ℕ) (destination : Position)
  | movePlayerCardinal (playerId : ℕ) (direction : CardinalDirection)
  | teleportPlayer (playerId : ℕ) (destination : Position)
  | followPlayerTargets (worldMap : WorldMap)
  | hydrateRespawnState (playerId : ℕ) (state : PlayerRespawnState)
  | applyPlayerDeath (playerId townId : ℕ) (worldMap : WorldMap)
  | respawnPlayer (playerId : ℕ)
  | installStaticCreatures (collection : FeTfsStaticSpawnCollection)
  | spawnDynamicEntity (name : String) (position : Position) (direction : ℕ)
  | despawnDynamicEntity (id : ℕ)
  | restoreStaticCreatureRuntime (records : List StaticCreatureRuntimeSnapshot)
  | deactivateStaticCreature (id : ℕ)
  | moveStaticCreatureCardinal (id : ℕ) (direction : CardinalDirection) (worldMap : WorldMap)
  | resetStaticCreatures
  | reactivateDueStaticCreatures
  | advanceTicks (elapsedSeconds : ℕ)

namespace LivingEvent

open Living

def perform (toLowercase : String → String) : LivingEvent → LivingM Unit
  | addPlayer player vitals => addPlayerWithVitals player vitals
  | removePlayer playerId => do let _ ← Living.removePlayer playerId
  | setPlayerFollow playerId followPlayerId => do
    let _ ← Living.setPlayerFollow playerId followPlayerId
  | movePlayer playerId destination => Living.movePlayer playerId destination
  | movePlayerCardinal playerId direction => do
    let _ ← Living.movePlayerCardinal playerId direction
  | teleportPlayer playerId destination => do let _ ← Living.teleportPlayer playerId destination
  | followPlayerTargets worldMap => do let _ ← followPlayerTargetsOnce worldMap
  | hydrateRespawnState playerId state => do let _ ← hydratePlayerRespawnState playerId state
  | applyPlayerDeath playerId townId worldMap => do
    let _ ← Living.applyPlayerDeath playerId townId worldMap
  | respawnPlayer playerId => do let _ ← Living.respawnPlayer playerId
  | installStaticCreatures collection => Living.installStaticCreatures collection
  | spawnDynamicEntity name position direction => do
    let _ ← Living.spawnDynamicEntity toLowercase name position direction
  | despawnDynamicEntity id => Living.despawnDynamicEntity id
  | restoreStaticCreatureRuntime records => do
    let _ ← Living.restoreStaticCreatureRuntime records
  | deactivateStaticCreature id => do let _ ← Living.deactivateStaticCreature id
  | moveStaticCreatureCardinal id direction worldMap => do
    let _ ← Living.moveStaticCreatureCardinal id direction worldMap
  | resetStaticCreatures => do let _ ← Living.resetStaticCreatures
  | reactivateDueStaticCreatures => do let _ ← Living.reactivateDueStaticCreatures
  | advanceTicks elapsedSeconds => Living.advanceTicks elapsedSeconds

/-- The world after an event; a refused event may have changed it too. -/
def step (toLowercase : String → String) (w : LivingWorld) (event : LivingEvent) : LivingWorld :=
  (event.perform toLowercase w).2

/-- An installation puts no two entities on one tile. -/
def SpreadsOut (_ : LivingWorld) : LivingEvent → Prop
  | installStaticCreatures collection => collection.PlacedApart
  | _ => True

/-- Throwing the result away writes nothing. -/
theorem stays_void {α : Type} {m : LivingM α} (h : Stays Separated m) :
    Stays Separated (do let _ ← m) :=
  .bind h fun _ => .pure ()

theorem leaves_perform (toLowercase : String → String) {w : LivingWorld} {event : LivingEvent}
    (hw : Separated w) (hok : SpreadsOut w event) :
    Leaves Separated (event.perform toLowercase) w := by
  cases event with
  | addPlayer player vitals => exact stays_addPlayerWithVitals player vitals w hw
  | removePlayer p => exact stays_void (stays_removePlayer p) w hw
  | setPlayerFollow p q => exact stays_void (stays_setPlayerFollow p q) w hw
  | movePlayer p destination => exact stays_movePlayer p destination w hw
  | movePlayerCardinal p d =>
    exact stays_void (stays_movePlayerCardinal p d) w hw
  | teleportPlayer p destination =>
    exact stays_void (stays_teleportPlayer p destination) w hw
  | followPlayerTargets m =>
    exact stays_void (stays_followPlayerTargetsOnce m) w hw
  | hydrateRespawnState p s =>
    exact stays_void (stays_hydratePlayerRespawnState p s) w hw
  | applyPlayerDeath p t m =>
    exact stays_void (stays_applyPlayerDeath p t m) w hw
  | respawnPlayer p => exact stays_void (stays_respawnPlayer p) w hw
  | installStaticCreatures c => exact leaves_installStaticCreatures hok hw
  | spawnDynamicEntity n p d =>
    exact stays_void (stays_spawnDynamicEntity toLowercase n p d) w hw
  | despawnDynamicEntity id => exact stays_despawnDynamicEntity id w hw
  | restoreStaticCreatureRuntime rs =>
    exact stays_void (stays_restoreStaticCreatureRuntime rs) w hw
  | deactivateStaticCreature id =>
    exact stays_void (stays_deactivateStaticCreature id) w hw
  | moveStaticCreatureCardinal id d m =>
    exact stays_void (stays_moveStaticCreatureCardinal id d m) w hw
  | resetStaticCreatures =>
    exact stays_void stays_resetStaticCreatures w hw
  | reactivateDueStaticCreatures =>
    exact stays_void stays_reactivateDueStaticCreatures w hw
  | advanceTicks n => exact stays_advanceTicks n w hw

end LivingEvent

/-- **Nobody shares a tile with an active creature**, in every state of every run whose
installations put no two entities on one tile. -/
theorem unshared_of_spreadsOut (toLowercase : String → String) {w : LivingWorld}
    (h : Reaches (LivingEvent.step toLowercase) LivingEvent.SpreadsOut .empty w) : w.Unshared :=
  (h.invariant (P := Separated) (fun _ _ hw hok => LivingEvent.leaves_perform toLowercase hw hok)
    separated_empty).unshared

/-- A rat imported at a position. -/
def importedRat (id : ℕ) (position : Position) : FeTfsStaticEntity := ⟨id, "Rat", position, 100, 2⟩

/-- Two rats next to each other are installed, and a player enters beside them. -/
theorem unshared_ratsApart :
    (LivingEvent.step id (LivingEvent.step id .empty (.installStaticCreatures
      ⟨[importedRat 1 ⟨100, 100, 7⟩, importedRat 2 ⟨101, 100, 7⟩], ∅, ∅, ∅, ∅, ∅⟩))
      (.addPlayer ⟨7, 1, "Knight", ⟨102, 100, 7⟩, 1, 0, 0⟩ {})).Unshared :=
  unshared_of_spreadsOut id
    (.next _ (.next _ .start (show FeTfsStaticSpawnCollection.PlacedApart _ by decide)) trivial)

/-- **Two creatures on one tile.**  Two rats imported at one position are both installed active. -/
theorem ratsTogether_share : ¬∀ w, Reaches (LivingEvent.step id) (fun _ _ => True) .empty w →
    w.Unshared := by
  intro h
  let together : LivingEvent := .installStaticCreatures
    ⟨[importedRat 1 ⟨100, 100, 7⟩, importedRat 2 ⟨100, 100, 7⟩], ∅, ∅, ∅, ∅, ∅⟩
  have hunshared := h _ (.next together .start trivial)
  have halone := standAlone_iff_stance.mp hunshared.1 1 2 ⟨100, 100, 7⟩
    (by decide +kernel) (by decide +kernel)
  cases halone

end ForgottenEngine
