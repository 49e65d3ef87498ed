import ForgottenEngine.MapEffects
import ForgottenEngine.ViewportReading
import ForgottenEngine.Library.Run

/-!
# Copies of the shared map

The shared map is a copy-on-write value.  A session takes a copy of it once, at its login, and the
handlers of a few of its actions take another one for the frame they send.  Whatever changes the map
publishes a new map under a new revision, and leaves the copies as they are.

* `MapChange.perform_spec` — a change publishes one revision, or nothing happens;
* `lookups_current_iff` — in every run, what a holder looks up in its copy is current exactly as
  long as no change is accepted after the copy was taken.  For the copy of a session this is as long
  as nobody has changed the map since its login.
-/

namespace ForgottenEngine

open Fallible

/-! ### What is looked up in a map -/

/-- The destination of the only teleport on the tile. -/
def nativeSteppedOnMapTeleportDestination (worldMap : WorldMap) (position : Position) :
    Option Position :=
  match (worldMap.itemsAt position).filterMap WorldMapItem.teleportDestination with
  | [destination] => some destination
  | _ => none

/-- One question to a map. -/
inductive MapLookup where
  | viewport (profile : NativeOtClientProfile) (snapshot : NativeOtClientEmptyWorldSnapshot)
      (staticSpawns : Option (List DrawnStaticEntity))
      (visiblePlayers : Option (List NativeOtClientVisiblePlayer))
  | mapStep (profile : NativeOtClientProfile) (snapshot : NativeOtClientEmptyWorldSnapshot)
      (staticSpawns : Option (List DrawnStaticEntity))
      (visiblePlayers : Option (List NativeOtClientVisiblePlayer)) (direction : CardinalDirection)
  | walkable (position : Position)
  | teleport (position : Position)

inductive MapAnswer where
  | frame (frame : Except ProtocolError (List UInt8))
  | walkable (walkable : Bool)
  | destination (destination : Option Position)

def MapLookup.answer (worldMap : WorldMap) : MapLookup → MapAnswer
  | viewport profile snapshot staticSpawns visiblePlayers => .frame
    (encodeNativeOtclientMapViewport profile ⟨snapshot, worldMap, staticSpawns, visiblePlayers⟩)
  | mapStep profile snapshot staticSpawns visiblePlayers direction => .frame
    (encodeNativeOtclientMapStep profile ⟨snapshot, worldMap, staticSpawns, visiblePlayers⟩
      direction)
  | walkable position => .walkable (worldMap.isWalkable position)
  | teleport position => .destination (nativeSteppedOnMapTeleportDestination worldMap position)

/-! ### Changes -/

/-- Whatever changes the shared map. -/
inductive MapChange where
  | drop (playerId : ℕ) (source : PlayerGroundDropSource) (target : Position) (count : ℕ)
      (weights : Option (BTreeMap ℕ ℕ))
  | pickUp (playerId : ℕ) (position : Position) (itemIndex : ℕ) (childIndex : Option ℕ)
      (count : ℕ) (destination : PlayerGroundDropSource) (weights : Option (BTreeMap ℕ ℕ))
  | equip (playerId : ℕ) (position : Position) (itemIndex : ℕ) (slot : EquipmentSlot)
  | equipStack (playerId : ℕ) (position : Position) (itemIndex count : ℕ) (slot : EquipmentSlot)
  | store (playerId : ℕ) (position : Position) (itemIndex containerId : ℕ)
  | storeStack (playerId : ℕ) (position : Position) (itemIndex count containerId : ℕ)
  | place (position : Position) (item : WorldMapItem) (despawnTick : Option ℕ)
  | expire (nowTick : ℕ)

namespace MapChange

open Host

def perform : MapChange → HostM Unit
  | drop playerId source target count weights => do
    let _ ← movePlayerStackToGround playerId source target count weights
  | pickUp playerId position itemIndex childIndex count destination weights => do
    let _ ← moveRuntimeItemToInventory playerId position itemIndex childIndex count destination
      weights
  | equip playerId position itemIndex slot => do
    let _ ← moveSourceItemToEmptyEquipment playerId position itemIndex slot
  | equipStack playerId position itemIndex count slot => do
    let _ ← moveSourceItemStackToEquipment playerId position itemIndex count slot
  | store playerId position itemIndex containerId => do
    let _ ← moveSourceItemToTopLevelContainer playerId position itemIndex containerId
  | storeStack playerId position itemIndex count containerId => do
    let _ ← moveSourceItemStackToTopLevelContainer playerId position itemIndex count containerId
  | place position item despawnTick => do let _ ← addRuntimeTileItem position item despawnTick
  | expire nowTick => do let _ ← removeExpiredRuntimeItems nowTick

/-- The change publishes a map. -/
def Accepted (change : MapChange) (s : HostState) : Prop :=
  (change.perform s).2.map.revision = s.map.revision + 1

instance (change : MapChange) (s : HostState) : Decidable (change.Accepted s) :=
  inferInstanceAs (Decidable (_ = _))

/-- Nothing happened, or one revision was published. -/
def Effect (s s' : HostState) : Prop :=
  s' = s ∨ s'.map.revision = s.map.revision + 1 ∧ s'.world.Registered

section Effects

variable {s s' : HostState}

/-- An operation that is atomic, and publishes one revision when it succeeds. -/
theorem effect_of {α : Type} {m : HostM α} (hatomic : AtomicAt m s)
    (hok : ∀ a s', m s = (.ok a, s') → Effect s s') : Effect s ((do let _ ← m : HostM Unit) s).2 := by
  rw [bind_apply]
  rcases hm : m s with ⟨e | a, s'⟩
  · exact .inl (hatomic e s' hm)
  · exact hok a s' hm

theorem registered_of_written {p : ℕ} {e e' : PlayerEquipment} {cs' : PlayerContainers}
    (hw : s.world.Registered) (he : s.world.playerEquipments[p]? = some e)
    (h : WorldState.InventoryWritten p e' cs' s.world.toWorldState s'.world.toWorldState) :
    s'.world.Registered := by
  have hplayer : s.world.players[p]?.isSome = true := by
    rw [← hw.equipped, he]
    rfl
  exact hw.written hplayer h

theorem revision_of_sourceChange {m m' : SharedNativeMap} {position : Position}
    {k index requested : ℕ} {item : WorldMapItem}
    (h : SourceChange m position k index item requested m') : m'.revision = m.revision + 1 := by
  cases h <;> rfl

theorem effect_of_taken {p k requested index : ℕ} {position : Position}
    {destination : PlayerGroundDropSource} {runtimeItem : WorldMapItem} {item : ItemInstance}
    {e e' : PlayerEquipment} {cs cs' : PlayerContainers} (hw : s.world.Registered)
    (h : SourceTaken p position k requested destination s s' index runtimeItem item e cs e' cs') :
    Effect s s' := by
  exact .inr ⟨revision_of_sourceChange h.map, registered_of_written hw h.equipment h.written⟩

/-- **A change** publishes one revision, or nothing happens. -/
theorem perform_spec (hw : s.world.Registered) (change : MapChange) :
    Effect s (change.perform s).2 := by
  cases change with
  | drop p source target count weights =>
    refine effect_of (movePlayerStackToGround_atomic source target count weights) ?_
    intro out s' hrun
    obtain ⟨e, cs, e', cs', nextMap, h⟩ := movePlayerStackToGround_eq_ok hrun
    exact .inr ⟨by rw [h.map], registered_of_written hw h.equipment h.written⟩
  | pickUp p position itemIndex childIndex count destination weights =>
    refine effect_of (moveRuntimeItemToInventory_atomic hw.holders position itemIndex childIndex count
      destination weights) ?_
    intro out s' hrun
    obtain ⟨_, _, _, _, e, cs, e', cs', nextMap, h⟩ := moveRuntimeItemToInventory_eq_ok hw.holders hrun
    exact .inr ⟨by rw [h.map], registered_of_written hw h.equipment h.written⟩
  | equip p position itemIndex slot =>
    refine effect_of (moveSourceItemToEmptyEquipment_atomic hw.holders) ?_
    intro out s' hrun
    obtain ⟨n, index, item, e, cs, e', cs', h⟩ := moveSourceItemToEmptyEquipment_eq_ok hw.holders hrun
    exact effect_of_taken hw h
  | equipStack p position itemIndex count slot =>
    refine effect_of (moveSourceItemStackToEquipment_atomic hw.holders) ?_
    intro out s' hrun
    obtain ⟨index, item, e, cs, e', cs', h⟩ := moveSourceItemStackToEquipment_eq_ok hw.holders hrun
    exact effect_of_taken hw h
  | store p position itemIndex containerId =>
    refine effect_of (moveSourceItemToTopLevelContainer_atomic hw.holders) ?_
    intro out s' hrun
    obtain ⟨n, index, item, e, cs, e', cs', h⟩ := moveSourceItemToTopLevelContainer_eq_ok hw.holders hrun
    exact effect_of_taken hw h
  | storeStack p position itemIndex count containerId =>
    refine effect_of (moveSourceItemStackToTopLevelContainer_atomic hw.holders) ?_
    intro out s' hrun
    obtain ⟨index, item, e, cs, e', cs', h⟩ := moveSourceItemStackToTopLevelContainer_eq_ok hw.holders hrun
    exact effect_of_taken hw h
  | place position item despawnTick =>
    refine effect_of (addRuntimeTileItem_atomic item despawnTick) ?_
    intro revision s' hrun
    obtain ⟨_, nextMap, -, -, -, hmap, -, hworld⟩ := addRuntimeTileItem_eq_ok hrun
    exact .inr ⟨by rw [hmap], by rw [hworld]; exact hw⟩
  | expire nowTick =>
    refine effect_of (removeExpiredRuntimeItems_atomic nowTick) ?_
    intro positions s' hrun
    rcases removeExpiredRuntimeItems_eq_ok hrun with rfl | ⟨nextMap, -, hmap, -, hworld⟩
    · exact .inl rfl
    · exact .inr ⟨by rw [hmap], by rw [hworld]; exact hw⟩

theorem perform_registered (hw : s.world.Registered) (change : MapChange) :
    (change.perform s).2.world.Registered := by
  rcases perform_spec hw change with h | h
  · rw [h]
    exact hw
  · exact h.2

end Effects

end MapChange

/-! ### The holders of copies -/

/-- Who holds a copy: a session from its login on, or a handler of a session while it answers. -/
inductive MapHolder where
  | session (playerId : ℕ)
  | handler (playerId : ℕ)
deriving DecidableEq

/-- `render_snapshot`, with the revision it was taken at. -/
structure MapCopy where
  worldMap : WorldMap
  revision : ℕ

/-- The server, and the copies that are held. -/
structure MapServer where
  host : HostState
  copies : MapHolder → Option MapCopy
  registered : host.world.Registered

inductive MapServerEvent where
  | renderSnapshot (holder : MapHolder)
  | release (holder : MapHolder)
  | change (change : MapChange)
  /-- Anything that does not touch the map. -/
  | other (world : LivingWorld) (database : EngineDatabase) (registered : world.Registered)

namespace MapServer

def step (s : MapServer) : MapServerEvent → MapServer
  | .renderSnapshot holder => { s with
      copies := Function.update s.copies holder (some ⟨s.host.map.map, s.host.map.revision⟩) }
  | .release holder => { s with copies := Function.update s.copies holder none }
  | .change change => { s with
      host := (change.perform s.host).2
      registered := change.perform_registered s.registered }
  | .other world database registered => { s with
      host := ⟨world, s.host.map, database⟩
      registered }

def run (s : MapServer) (events : List MapServerEvent) : MapServer := events.foldl step s

/-- What the holder is told. -/
def answer (s : MapServer) (holder : MapHolder) (lookup : MapLookup) : Option MapAnswer :=
  (s.copies holder).map fun copy => lookup.answer copy.worldMap

/-- The copy of the holder is that of the current revision, and tells what the map tells. -/
structure LooksUpCurrent (s : MapServer) (holder : MapHolder) : Prop where
  revision : (s.copies holder).map MapCopy.revision = some s.host.map.revision
  answers : ∀ lookup, s.answer holder lookup = some (lookup.answer s.host.map.map)

/-- The event changes nothing of the map. -/
def LeavesMap (s : MapServer) : MapServerEvent → Prop
  | .change change => ¬change.Accepted s.host
  | _ => True

/-- The event leaves the copy of the holder as it is. -/
def LeavesCopy (holder : MapHolder) : MapServerEvent → Prop
  | .renderSnapshot other => other ≠ holder
  | .release other => other ≠ holder
  | _ => True

variable {s : MapServer} {holder : MapHolder}

theorem step_map (event : MapServerEvent) :
    LeavesMap s event ∧ (s.step event).host.map = s.host.map ∨
      ¬LeavesMap s event ∧ (s.step event).host.map.revision = s.host.map.revision + 1 := by
  cases event with
  | change change =>
    rcases change.perform_spec s.registered with h | h
    · left
      show ¬change.Accepted s.host ∧ (change.perform s.host).2.map = s.host.map
      have hsame : (change.perform s.host).2.map = s.host.map := by rw [h]
      refine ⟨fun haccepted => ?_, hsame⟩
      unfold MapChange.Accepted at haccepted
      rw [hsame] at haccepted
      omega
    · right
      exact ⟨fun hnot => hnot h.1, h.1⟩
  | _ => exact .inl ⟨trivial, rfl⟩

theorem step_copies {event : MapServerEvent} (h : LeavesCopy holder event) :
    (s.step event).copies holder = s.copies holder := by
  cases event with
  | renderSnapshot other => exact Function.update_of_ne (Ne.symm h) _ _
  | release other => exact Function.update_of_ne (Ne.symm h) _ _
  | _ => rfl

theorem run_copies {events : List MapServerEvent} (h : ∀ event ∈ events, LeavesCopy holder event) :
    (s.run events).copies holder = s.copies holder := by
  induction events generalizing s with
  | nil => rfl
  | cons event events ih =>
    have hrest : ∀ e ∈ events, LeavesCopy holder e := fun e he => h e (List.mem_cons_of_mem _ he)
    show ((s.step event).run events).copies holder = _
    rw [ih hrest, step_copies (h event List.mem_cons_self)]

theorem revision_le_run (s : MapServer) (events : List MapServerEvent) :
    s.host.map.revision ≤ (s.run events).host.map.revision := by
  induction events generalizing s with
  | nil => exact le_refl _
  | cons event events ih =>
    have hstep : s.host.map.revision ≤ (s.step event).host.map.revision := by
      rcases step_map (s := s) event with ⟨-, h⟩ | ⟨-, h⟩
      · rw [h]
      · omega
    exact le_trans hstep (ih (s.step event))

/-- While no change is accepted the map stays; afterwards the revision is another one. -/
theorem run_map (s : MapServer) (events : List MapServerEvent) :
    Meets step LeavesMap s events ∧ (s.run events).host.map = s.host.map ∨
      ¬Meets step LeavesMap s events ∧ s.host.map.revision < (s.run events).host.map.revision := by
  induction events generalizing s with
  | nil => exact .inl ⟨trivial, rfl⟩
  | cons event events ih =>
    rcases step_map (s := s) event with ⟨hkeeps, hmap⟩ | ⟨hchanges, hrevision⟩
    · rcases ih (s.step event) with ⟨hrest, h⟩ | ⟨hrest, h⟩
      · exact .inl ⟨⟨hkeeps, hrest⟩, h.trans hmap⟩
      · right
        refine ⟨fun hmeets => hrest hmeets.2, ?_⟩
        rw [hmap] at h
        exact h
    · right
      refine ⟨fun hmeets => hchanges hmeets.1, ?_⟩
      have hlater := revision_le_run (s.step event) events
      show _ < ((s.step event).run events).host.map.revision
      omega

end MapServer

open MapServer

/-- **A copy is current as long as no change is accepted after it was taken.** -/
theorem lookups_current_iff (s : MapServer) (holder : MapHolder) {events : List MapServerEvent}
    (h : ∀ event ∈ events, LeavesCopy holder event) :
    ((s.step (.renderSnapshot holder)).run events).LooksUpCurrent holder ↔
      Meets step LeavesMap (s.step (.renderSnapshot holder)) events := by
  have htaken : (s.step (.renderSnapshot holder)).copies holder =
      some ⟨s.host.map.map, s.host.map.revision⟩ := Function.update_self _ _ _
  have hcopy := (run_copies h).trans htaken
  constructor
  · intro hcurrent
    rcases run_map (s.step (.renderSnapshot holder)) events with ⟨hmeets, -⟩ | ⟨-, hlater⟩
    · exact hmeets
    · exfalso
      have hrevision := hcurrent.revision
      rw [hcopy, Option.map_some, Option.some.injEq] at hrevision
      exact absurd hrevision hlater.ne
  · intro hmeets
    rcases run_map (s.step (.renderSnapshot holder)) events with ⟨-, hmap⟩ | ⟨hnot, -⟩
    · constructor
      · rw [hcopy, hmap]
        rfl
      · intro lookup
        rw [answer, hcopy, hmap]
        rfl
    · exact absurd hmeets hnot

/-! ### A corpse that a session does not see -/

/-- A tile with its ground, at the edge of the window of a player on the spawn. -/
def grassMap : WorldMap where
  identifier := "grass"
  spawn := ⟨100, 100, 7⟩
  tiles := (∅ : BTreeMap Position WorldMapTile).insert ⟨100, 94, 7⟩ ⟨102, true⟩
  source := .feMapV1
  tileItems := (∅ : BTreeMap Position (List WorldMapItem)).insert ⟨100, 94, 7⟩
    [plainMapItem 102 1 []]
  tileFlags := ∅
  houseTiles := ∅
  towns := KeyedMap.empty
  waypoints := ∅
  bounded := by
    intro position items h
    rw [Std.ExtTreeMap.getElem?_insert] at h
    split at h
    · cases h
      decide
    · simp at h

/-- A server with this map, and nobody in it. -/
def grassServer : MapServer where
  host := ⟨.empty, .new grassMap, ⟨∅, .empty, .empty, .empty, [], [], []⟩⟩
  copies := fun _ => none
  registered := ⟨fun _ => rfl, fun _ => rfl⟩

/-- The heartbeat finds nothing to expire. -/
theorem lookups_current_grass :
    ((grassServer.step (.renderSnapshot (.session 1))).run
      [.change (.expire 5)]).LooksUpCurrent (.session 1) := by
  refine (lookups_current_iff grassServer (.session 1) fun event h => ?_).mpr ⟨fun h => ?_, trivial⟩
  · rw [List.mem_singleton.mp h]
    trivial
  · exact absurd h (by decide +kernel)

/-- A corpse is left on the tile. -/
def corpseLeft : MapServerEvent := .change (.place ⟨100, 94, 7⟩ (Host.corpseItem 3000 []) none)

/-- A session that logged in before is not shown the corpse. -/
theorem corpseLeft_unseen :
    ¬((grassServer.step (.renderSnapshot (.session 1))).run [corpseLeft]).LooksUpCurrent
      (.session 1) := by
  intro h
  -- a client without a ground of its own is sent nothing for the cells outside the map
  have hanswer := h.answers (.mapStep classic740Profile { knightSnapshot with groundThingId := 0 }
    none none .north)
  have hframes := MapAnswer.frame.inj (Option.some.inj hanswer)
  revert hframes
  decide +kernel

end ForgottenEngine
