import ForgottenEngine.MapSnapshots
import ForgottenEngine.PlayerTraces

/-!
# Refused transfers

A transfer between the map and an inventory prepares copies of the inventory, of the tiles, of the
registry, of the removal journal and of the count overrides, writes the database in one
transaction, and publishes the copies.  What it publishes last, the inventory, is refused for a
player who is not in the world; by then the tiles would be ahead.

Nobody meets that refusal: in every run of the server the players who have an inventory are
registered.

* `HoldersRegistered.step` — no operation of the game gives an inventory to anybody else;
* `MapChange.perform_atomic`, `MapChange.perform_holders` — the transfers where this holds;
* `TransferServer.refused_unchanged` — a refused transfer leaves everything as it was, in every
  state the server can reach.
-/

namespace ForgottenEngine

open Fallible

/-! ### Inventories in the game -/

namespace HoldersRegistered

/-- A game in which only registered players have an inventory. -/
def Kept (w : GameWorld) : Prop := w.HoldersRegistered

variable {w : GameWorld}

/-- The inventory tables are as they were, and nobody has gone. -/
theorem of_tables {w' : GameWorld} (hw : Kept w)
    (hequipments : w'.playerEquipments = w.playerEquipments)
    (hcontainers : w'.playerContainers = w.playerContainers)
    (hplayers : ∀ p : ℕ, w.players[p]?.isSome → w'.players[p]?.isSome) : Kept w' where
  equipped p h := hplayers p (hw.equipped p (by rwa [hequipments] at h))
  stored p h := hplayers p (hw.stored p (by rwa [hcontainers] at h))

theorem isSome_insert {ν : Type} {table : BTreeMap ℕ ν} (k : ℕ) (v : ν) {p : ℕ}
    (h : table[p]?.isSome) : (table.insert k v)[p]?.isSome := by
  rw [Std.ExtTreeMap.getElem?_insert]
  split
  · rfl
  · exact h

theorem putPlayer (hw : Kept w) (p : ℕ) (player : Player) : Kept (w.putPlayer p player) :=
  of_tables hw rfl rfl fun _ h => isSome_insert p player h

theorem inventory {s : WorldState} (hframe : InventoryFrame w.toWorldState s) (hw : Kept w) :
    Kept (w.putInventory s) := by
  have hregistered (p : ℕ) (h : s.Holds p) : s.players[p]?.isSome := by
    rw [hframe.players]
    rcases hframe.holders p h with (⟨e, he⟩ | ⟨cs, hcs⟩) | ⟨player, hplayer⟩
    · exact hw.equipped p (Option.isSome_iff_exists.mpr ⟨e, he⟩)
    · exact hw.stored p (Option.isSome_iff_exists.mpr ⟨cs, hcs⟩)
    · exact Option.isSome_iff_exists.mpr ⟨player, hplayer⟩
  constructor
  · intro p h
    exact hregistered p (.inl (Option.isSome_iff_exists.mp h))
  · intro p h
    exact hregistered p (.inr (Option.isSome_iff_exists.mp h))

theorem robust : Robust Kept where
  changed := fun _ hw => of_tables hw rfl rfl fun _ h => h
  tick := fun _ _ hw => of_tables hw rfl rfl fun _ h => h
  inventory := fun _ _ hframe hw => inventory hframe hw
  player := fun _ p _ new _ _ _ hw => putPlayer hw p new
  vitals := fun _ _ _ _ _ _ hw => of_tables hw rfl rfl fun _ h => h
  conditions := fun _ _ _ _ _ _ hw => of_tables hw rfl rfl fun _ h => h
  lifecycle := fun _ _ _ _ _ _ hw => of_tables hw rfl rfl fun _ h => h
  died := fun _ _ _ _ _ _ _ _ hw => of_tables hw rfl rfl fun _ h => h
  respawned := fun _ p player _ _ _ _ _ _ hw =>
    of_tables hw rfl rfl fun _ h => isSome_insert p player h
  intent := fun _ _ _ _ _ hw => of_tables hw rfl rfl fun _ h => h
  books := by
    intro w w' hbooks hw
    unfold Kept
    rw [hbooks.living]
    exact hw

theorem robustEdits : RobustEdits Kept where
  narrowed := fun _ _ _ hw => of_tables hw rfl rfl fun _ h => h
  edited := fun _ _ _ _ _ _ hw => of_tables hw rfl rfl fun _ h => h
  moved := fun _ _ _ _ _ _ _ _ hw => of_tables hw rfl rfl fun _ h => h
  deactivated := fun _ _ _ _ hw => of_tables hw rfl rfl fun _ h => h

theorem robustRegistry : RobustRegistry Kept :=
  ⟨fun _ _ _ _ _ _ hw => of_tables hw rfl rfl fun _ h => h⟩

theorem overwritten {w' : GameWorld} {event : OverwriteEvent} (hw : Kept w)
    (h : event.Writes w w') : Kept w' := by
  cases h with
  | experience => exact putPlayer hw _ _
  | levels => exact of_tables (putPlayer hw _ _) rfl rfl fun _ h => h
  | lifecycle | vitals | conditions | condition | haste | frag =>
    exact of_tables hw rfl rfl fun _ h => h

/-- A new player comes with an inventory. -/
theorem added (hw : Kept w) (player : Player) (vitals : PlayerVitals)
    (progression : PlayerProgression) : Kept (w.added player vitals progression) := by
  constructor
  · intro p h
    simp only [GameWorld.added, Std.ExtTreeMap.getElem?_insert] at h ⊢
    split
    · rfl
    · rename_i hne
      rw [if_neg hne] at h
      exact hw.equipped p h
  · intro p h
    simp only [GameWorld.added, Std.ExtTreeMap.getElem?_insert] at h ⊢
    split
    · rfl
    · rename_i hne
      rw [if_neg hne] at h
      exact hw.stored p h

/-- The inventory of a player goes with the player. -/
theorem removed (hw : Kept w) (p : ℕ) : Kept (w.removed p) := by
  constructor
  · intro q h
    simp only [GameWorld.removed, Std.ExtTreeMap.getElem?_erase] at h ⊢
    split at h
    · cases h
    · rename_i hne
      rw [if_neg hne]
      exact hw.equipped q h
  · intro q h
    simp only [GameWorld.removed, Std.ExtTreeMap.getElem?_erase] at h ⊢
    split at h
    · cases h
    · rename_i hne
      rw [if_neg hne]
      exact hw.stored q h

/-- **No operation of the game gives an inventory to somebody who is not in the world.** -/
theorem step (toLowercase : String → String) (hw : Kept w) (event : GameEvent) :
    Kept (event.step toLowercase w) := by
  have hchanged := robust.changed
  show Leaves Kept (event.perform toLowercase) w
  cases event with
  | addPlayer player vitals progression =>
    exact leaves_addPlayer hchanged hw fun _ _ => added hw player vitals progression
  | removePlayer p => exact leaves_void.mpr (leaves_removePlayer hchanged hw fun _ => removed hw p)
  | inventory e => exact robust.stays_inventory e w hw
  | player e => exact robust.stays_player e w hw
  | upkeep e => exact robust.stays_upkeep e w hw
  | overwrite e => exact leaves_overwrite e hchanged hw fun w' hwrites => overwritten hw hwrites
  | creature e =>
    by_cases hedits : e.EditsOnly
    · exact robustEdits.stays_edits robust toLowercase hedits w hw
    · exact robustRegistry.stays_registry robust toLowercase hedits w hw
  | party e =>
    exact leaves_party hchanged hw e fun t' _ => of_tables hw rfl rfl fun _ h => h

end HoldersRegistered

/-! ### Transfers -/

namespace MapChange

open Host

variable {s s' : HostState}

/-- **A refused change of the map leaves everything as it was.** -/
theorem perform_atomic (hw : s.world.HoldersRegistered) (change : MapChange) :
    AtomicAt change.perform s := by
  have hdiscard {α : Type} {m : HostM α} (hm : AtomicAt m s) :
      AtomicAt (do let _ ← m : HostM Unit) s :=
    .bind_succeeds hm fun _ t _ => ⟨(), t, rfl⟩
  cases change with
  | drop p source target count weights =>
    exact hdiscard (movePlayerStackToGround_atomic source target count weights)
  | pickUp p position itemIndex childIndex count destination weights =>
    exact hdiscard (moveRuntimeItemToInventory_atomic hw position itemIndex childIndex count
      destination weights)
  | equip => exact hdiscard (moveSourceItemToEmptyEquipment_atomic hw)
  | equipStack => exact hdiscard (moveSourceItemStackToEquipment_atomic hw)
  | store => exact hdiscard (moveSourceItemToTopLevelContainer_atomic hw)
  | storeStack => exact hdiscard (moveSourceItemStackToTopLevelContainer_atomic hw)
  | place position item despawnTick => exact hdiscard (addRuntimeTileItem_atomic item despawnTick)
  | expire nowTick => exact hdiscard (removeExpiredRuntimeItems_atomic nowTick)

/-- What an accepted operation writes decides for both outcomes of an atomic one. -/
theorem holders_of {α : Type} {m : HostM α} (hw : s.world.HoldersRegistered)
    (hatomic : AtomicAt m s) (hok : ∀ a s', m s = (.ok a, s') → s'.world.HoldersRegistered) :
    ((do let _ ← m : HostM Unit) s).2.world.HoldersRegistered := by
  rw [bind_apply]
  rcases hm : m s with ⟨e | a, s'⟩
  · rw [hatomic e s' hm]
    exact hw
  · exact hok a s' hm

theorem holders_of_written {p : ℕ} {e e' : PlayerEquipment} {cs' : PlayerContainers}
    (hw : s.world.HoldersRegistered) (he : s.world.playerEquipments[p]? = some e)
    (h : WorldState.InventoryWritten p e' cs' s.world.toWorldState s'.world.toWorldState) :
    s'.world.HoldersRegistered :=
  hw.written (hw.equipped p (by rw [he]; rfl)) h

theorem perform_holders (hw : s.world.HoldersRegistered) (change : MapChange) :
    (change.perform s).2.world.HoldersRegistered := by
  cases change with
  | drop p source target count weights =>
    refine holders_of hw (movePlayerStackToGround_atomic source target count weights) ?_
    intro out s' hrun
    obtain ⟨e, cs, e', cs', nextMap, h⟩ := movePlayerStackToGround_eq_ok hrun
    exact holders_of_written hw h.equipment h.written
  | pickUp p position itemIndex childIndex count destination weights =>
    refine holders_of hw (moveRuntimeItemToInventory_atomic hw position itemIndex childIndex count
      destination weights) ?_
    intro out s' hrun
    obtain ⟨_, _, _, _, e, cs, e', cs', nextMap, h⟩ := moveRuntimeItemToInventory_eq_ok hw hrun
    exact holders_of_written hw h.equipment h.written
  | equip p position itemIndex slot =>
    refine holders_of hw (moveSourceItemToEmptyEquipment_atomic hw) ?_
    intro out s' hrun
    obtain ⟨n, index, item, e, cs, e', cs', h⟩ := moveSourceItemToEmptyEquipment_eq_ok hw hrun
    exact holders_of_written hw h.equipment h.written
  | equipStack p position itemIndex count slot =>
    refine holders_of hw (moveSourceItemStackToEquipment_atomic hw) ?_
    intro out s' hrun
    obtain ⟨index, item, e, cs, e', cs', h⟩ := moveSourceItemStackToEquipment_eq_ok hw hrun
    exact holders_of_written hw h.equipment h.written
  | store p position itemIndex containerId =>
    refine holders_of hw (moveSourceItemToTopLevelContainer_atomic hw) ?_
    intro out s' hrun
    obtain ⟨n, index, item, e, cs, e', cs', h⟩ := moveSourceItemToTopLevelContainer_eq_ok hw hrun
    exact holders_of_written hw h.equipment h.written
  | storeStack p position itemIndex count containerId =>
    refine holders_of hw (moveSourceItemStackToTopLevelContainer_atomic hw) ?_
    intro out s' hrun
    obtain ⟨index, item, e, cs, e', cs', h⟩ := moveSourceItemStackToTopLevelContainer_eq_ok hw hrun
    exact holders_of_written hw h.equipment h.written
  | place position item despawnTick =>
    refine holders_of hw (addRuntimeTileItem_atomic item despawnTick) ?_
    intro revision s' hrun
    obtain ⟨_, nextMap, -, -, -, -, -, hworld⟩ := addRuntimeTileItem_eq_ok hrun
    rwa [hworld]
  | expire nowTick =>
    refine holders_of hw (removeExpiredRuntimeItems_atomic nowTick) ?_
    intro positions s' hrun
    rcases removeExpiredRuntimeItems_eq_ok hrun with rfl | ⟨nextMap, -, -, -, hworld⟩
    · exact hw
    · rwa [hworld]

end MapChange

/-! ### Runs of the server -/

/-- The game, the shared map and the database. -/
structure TransferServer where
  game : GameWorld
  map : SharedNativeMap
  database : EngineDatabase

inductive TransferServerEvent where
  | game (event : GameEvent)
  | change (change : MapChange)
  /-- Anything else that writes the database. -/
  | save (database : EngineDatabase)

namespace TransferServer

/-- What the operations on the map run on. -/
def host (s : TransferServer) : HostState := ⟨s.game.toLivingWorld, s.map, s.database⟩

/-- The server with what an operation on the map has left. -/
def putHost (s : TransferServer) (t : HostState) : TransferServer :=
  ⟨s.game.putLiving t.world, t.map, t.database⟩

def step (toLowercase : String → String) (s : TransferServer) :
    TransferServerEvent → TransferServer
  | .game event => { s with game := event.step toLowercase s.game }
  | .change change => s.putHost (change.perform s.host).2
  | .save database => { s with database }

/-- A server starts with an empty world, whatever the map and the database are. -/
def start (map : SharedNativeMap) (database : EngineDatabase) : TransferServer :=
  ⟨.empty, map, database⟩

variable {map : SharedNativeMap} {database : EngineDatabase}

theorem step_holders (toLowercase : String → String) {s : TransferServer}
    (hs : s.host.world.HoldersRegistered) (event : TransferServerEvent) :
    (s.step toLowercase event).host.world.HoldersRegistered := by
  cases event with
  | game event => exact HoldersRegistered.step toLowercase (w := s.game) hs event
  | change change => exact MapChange.perform_holders hs change
  | save database => exact hs

/-- In every state the server can reach, only registered players have an inventory. -/
theorem holdersRegistered (toLowercase : String → String) (events : List TransferServerEvent) :
    (events.foldl (step toLowercase) (start map database)).host.world.HoldersRegistered := by
  have hstart : (start map database).host.world.HoldersRegistered := by
    constructor
    · intro p h
      simp [start, host, GameWorld.empty, LivingWorld.empty, WorldState.empty] at h
    · intro p h
      simp [start, host, GameWorld.empty, LivingWorld.empty, WorldState.empty] at h
  have hreach : Reaches (step toLowercase) (fun _ _ => True) (start map database)
      (events.foldl (step toLowercase) (start map database)) :=
    Reaches.foldl .start (meets_of_forall (fun _ _ => trivial) _ _)
  exact hreach.invariant (P := fun s => s.host.world.HoldersRegistered)
    (fun _ event hs _ => step_holders toLowercase hs event) hstart

/-- **A refused transfer** leaves the world, the tiles, the registry, the removal journal, the
count overrides and the database as they were, in every state the server can reach. -/
theorem refused_unchanged (toLowercase : String → String) (events : List TransferServerEvent)
    (change : MapChange) {refusal : Refusal} {t : HostState}
    (h : change.perform (events.foldl (step toLowercase) (start map database)).host =
      (.error refusal, t)) :
    t = (events.foldl (step toLowercase) (start map database)).host :=
  MapChange.perform_atomic (holdersRegistered toLowercase events) change refusal t h

/-- A knight whose row the database has lost, and a corpse on the ground. -/
def knightBesideCorpse : TransferServer :=
  [.game (knightEnters 7 100),
    .change (.place ⟨100, 94, 7⟩ (Host.corpseItem 3000 []) none)].foldl (step id)
      (start (.new grassMap) ⟨∅, .empty, .empty, .empty, [], [], []⟩)

/-- Everything is staged when the database refuses the save. -/
theorem refused_unchanged_corpse :
    (MapChange.perform (.pickUp 7 ⟨100, 94, 7⟩ 1 none 1 (.equipmentSlot .leftHand) none)
      knightBesideCorpse.host).1 = .error (.failed (.persistence (.unknownPlayer 7))) ∧
    (MapChange.perform (.pickUp 7 ⟨100, 94, 7⟩ 1 none 1 (.equipmentSlot .leftHand) none)
      knightBesideCorpse.host).2 = knightBesideCorpse.host := by
  have hrefused : (MapChange.perform (.pickUp 7 ⟨100, 94, 7⟩ 1 none 1 (.equipmentSlot .leftHand)
      none) knightBesideCorpse.host).1 = .error (.failed (.persistence (.unknownPlayer 7))) := by
    decide +kernel
  exact ⟨hrefused, refused_unchanged id _ _ (Prod.ext hrefused rfl)⟩

end TransferServer

end ForgottenEngine
