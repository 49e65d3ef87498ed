import ForgottenEngine.Creatures
import ForgottenEngine.Database

/-!
# The shared map and its runtime items

`SharedNativeMap` is the mutable map of a running server: the imported `source`, the live `map`,
and the four tables that say how the one came from the other.

* `sourceItemIndices` — which source items are still on a tile, in the order they lie there;
* `removedSourceItems` and `sourceItemCountOverrides` — the source items taken as a whole, and
  what remains of those taken in part;
* `runtimeTileItems` — the registry of everything the server itself put on a tile.

`recoverCompleteMapItemState` rebuilds the live map from the source and the durable forms of these
tables.  `addRuntimeTileItem` and `removeExpiredRuntimeItems` place and expire runtime items.

The operations run on a `HostState`, the world, the map and the database under their locks.  An
operation of the source ends in `Ok(Some(_))`, in `Ok(None)` or in an error; here the last two
are the two kinds of `Refusal`.
-/

namespace ForgottenEngine

open Fallible

/-! ### The shared map -/

structure SharedNativeMap where
  source : WorldMap
  map : WorldMap
  sourceItemIndices : BTreeMap Position (List ℕ)
  removedSourceItems : BTreeSet WorldMapItemSourceIdentity
  sourceItemCountOverrides : BTreeMap WorldMapItemSourceIdentity ℕ
  runtimeTileItems : List RuntimeMapItemRecord
  revision : ℕ

/-- An item without attributes, the only kind the server puts on the map itself. -/
def plainMapItem (serverId count : ℕ) (children : List WorldMapItem) : WorldMapItem :=
  ⟨serverId, none, count, none, none, none, none, none, none, none, children⟩

def RuntimeMapItemChildRecord.toWorldMapItem (self : RuntimeMapItemChildRecord) : WorldMapItem :=
  plainMapItem self.serverId self.count []

def runtimeRecordToWorldMapItem (record : RuntimeMapItemRecord) : WorldMapItem :=
  plainMapItem record.serverId record.count
    (record.children.map RuntimeMapItemChildRecord.toWorldMapItem)

def WorldMapItem.toChildRecord (self : WorldMapItem) : RuntimeMapItemChildRecord :=
  ⟨self.serverId, self.count⟩

def runtimeWorldMapItemToRecord (position : Position) (ordinal : ℕ) (item : WorldMapItem)
    (despawnTick : Option ℕ) : Option RuntimeMapItemRecord :=
  if item.serverId = 0 ∨ item.count = 0 ∨ maxRuntimeMapItemChildren < item.children.length ∨
      ∃ child ∈ item.children, child.serverId = 0 ∨ child.count = 0 ∨ child.children ≠ [] then none
  else
    some ⟨position, ordinal, item.serverId, item.count,
      item.children.map WorldMapItem.toChildRecord, despawnTick⟩

/-- The registry entries of one tile. -/
def recordsAt (registry : List RuntimeMapItemRecord) (position : Position) :
    List RuntimeMapItemRecord :=
  registry.filter fun record => record.position = position

namespace SharedNativeMap

def sourceRevision (self : SharedNativeMap) : ℕ := self.source.sourceRevision

def removalJournal (self : SharedNativeMap) : MapItemRemovalJournal :=
  ⟨self.sourceRevision, self.removedSourceItems.toList⟩

/-- The overrides as records, in identity order. -/
def overrideRecords (overrides : BTreeMap WorldMapItemSourceIdentity ℕ) :
    List MapItemCountOverrideRecord :=
  overrides.toList.map fun e => ⟨e.1, e.2⟩

def countOverrides (self : SharedNativeMap) : List MapItemCountOverrideRecord :=
  overrideRecords self.sourceItemCountOverrides

/-- How many runtime items lie on the tile. -/
def runtimeCount (self : SharedNativeMap) (position : Position) : ℕ :=
  (recordsAt self.runtimeTileItems position).length

/-- The stack index of the first runtime item of the tile. -/
def runtimeTailStart (self : SharedNativeMap) (position : Position) : ℕ :=
  (self.map.itemsAt position).length - self.runtimeCount position

/-- The runtime item at a stack index; source items are not found here. -/
def runtimeTileItem (self : SharedNativeMap) (position : Position) (itemIndex : ℕ) :
    Option WorldMapItem :=
  if itemIndex < self.runtimeTailStart position then none
  else (self.map.itemsAt position)[itemIndex]?

/-! ### Recovery -/

/-- Check one override against the source and the journal. -/
def admitOverride (source : WorldMap) (removed : BTreeSet WorldMapItemSourceIdentity)
    (mapRevision : ℕ) (entries : BTreeMap WorldMapItemSourceIdentity ℕ)
    (record : MapItemCountOverrideRecord) :
    Except CoreError (BTreeMap WorldMapItemSourceIdentity ℕ) :=
  let identity := record.sourceIdentity
  if identity.mapRevision ≠ mapRevision ∨ identity ∈ removed then
    .error (.invalidMap "map-item count override conflicts with the loaded map journal")
  else
    match (source.tileItemsAt identity.position).bind (·[identity.itemIndex]?) with
    | none =>
      .error (.invalidMap "map-item count override references a missing ordered source item")
    | some sourceItem =>
      if sourceItem.count ≤ record.remainingCount ∨ entries[identity]?.isSome then
        .error (.invalidMap "map-item count override must uniquely reduce its source stack")
      else .ok (entries.insert identity record.remainingCount)

def recoverOverrides (source : WorldMap) (removed : BTreeSet WorldMapItemSourceIdentity) :
    Option (ℕ × List MapItemCountOverrideRecord) →
      Except CoreError (BTreeMap WorldMapItemSourceIdentity ℕ)
  | none => .ok ∅
  | some (mapRevision, overrides) =>
    if mapRevision ≠ source.sourceRevision then
      .error (.invalidMap
        "map-item count override source revision does not match the loaded map")
    else overrides.foldlM (admitOverride source removed mapRevision) ∅

/-- Write one override into the map. -/
def applyOverride (map : WorldMap) (entry : WorldMapItemSourceIdentity × ℕ) :
    Except CoreError WorldMap :=
  match map.tileItemsAt entry.1.position with
  | none => .error (.invalidMap "validated count override tile list disappeared")
  | some items =>
    if u8Max < entry.2 then
      .error (.invalidMap "persisted count override exceeds the map u8 stack bound")
    else
      map.setTileItems entry.1.position
        (items.modify entry.1.itemIndex fun item => { item with count := entry.2 })

/-- Check one registry entry, and append it to the entries of its tile. -/
def admitRecord (source : WorldMap) (ordered : BTreeMap Position (List RuntimeMapItemRecord))
    (record : RuntimeMapItemRecord) :
    Except CoreError (BTreeMap Position (List RuntimeMapItemRecord)) :=
  if record.serverId = 0 ∨ record.count = 0 then
    .error (.invalidMap "runtime tile-item record needs a nonzero server id and count")
  else if maxRuntimeMapItemChildren < record.children.length then
    .error (.invalidMap "runtime tile-item record exceeds the supported child bound")
  else if source.tile record.position = none then
    .error (.invalidMap "runtime tile-item record references a missing source tile")
  else
    let entries := ordered[record.position]?.getD []
    if record.ordinal ≠ entries.length then
      .error (.invalidMap "runtime tile-item ordinals must form one contiguous list per tile")
    else .ok (ordered.insert record.position (entries ++ [record]))

/-- Put the entries of one tile on top of what lies there. -/
def placeRecords (map : WorldMap) (entry : Position × List RuntimeMapItemRecord) :
    Except CoreError WorldMap :=
  let items := map.itemsAt entry.1
  if maxWorldMapItemsPerTile < items.length + entry.2.length then
    .error (.invalidMap "runtime tile-item recovery would exceed the per-tile item limit")
  else map.setTileItems entry.1 (items ++ entry.2.map runtimeRecordToWorldMapItem)

def recoverRegistry (source map : WorldMap) :
    Option (ℕ × List RuntimeMapItemRecord) → Except CoreError (WorldMap × List RuntimeMapItemRecord)
  | none => .ok (map, [])
  | some (mapRevision, records) =>
    if mapRevision ≠ source.sourceRevision then
      .error (.invalidMap "runtime tile-item registry revision does not match the loaded map")
    else do
      let ordered ← records.foldlM (admitRecord source) ∅
      let map ← ordered.toList.foldlM placeRecords map
      .ok (map, records)

/-- The source items of each tile that are not removed. -/
def survivingIndices (source : WorldMap) (removed : BTreeSet WorldMapItemSourceIdentity) :
    BTreeMap Position (List ℕ) :=
  let sourceRevision := source.sourceRevision
  source.tileItems.map fun position items =>
    (List.range items.length).filter fun index =>
      index ≤ u8Max ∧ ⟨sourceRevision, position, index⟩ ∉ removed

/-- Rebuild the live map from the source and every durable boundary. -/
def recoverCompleteMapItemState (source : WorldMap) (journal : Option MapItemRemovalJournal)
    (countOverrides : Option (ℕ × List MapItemCountOverrideRecord))
    (runtimeItems : Option (ℕ × List RuntimeMapItemRecord)) : Except CoreError SharedNativeMap := do
  let removed := journal.elim ∅ fun journal => Std.ExtTreeSet.ofList journal.removedItems compare
  let overrides ← recoverOverrides source removed countOverrides
  let map ← overrides.toList.foldlM applyOverride source
  let map ← journal.elim (.ok map) fun journal => map.applySourceItemRemovals journal.removedItems
  let (map, registry) ← recoverRegistry source map runtimeItems
  .ok ⟨source, map, survivingIndices source removed, removed, overrides, registry, 0⟩

/-- A freshly loaded map. -/
def new (source : WorldMap) : SharedNativeMap :=
  ⟨source, source, survivingIndices source ∅, ∅, ∅, [], 0⟩

end SharedNativeMap

/-! ### The state the operations run on -/

inductive HostError where
  | core (error : CoreError)
  | invalidConfiguration (message : String)
  | persistence (error : PersistenceError)
deriving DecidableEq

/-- How an operation ends without an outcome: it declines (`Ok(None)`), or it fails. -/
inductive Refusal where
  | declined
  | failed (error : HostError)
deriving DecidableEq

structure HostState where
  world : LivingWorld
  map : SharedNativeMap
  database : EngineDatabase

abbrev HostM (α : Type) := Fallible Refusal HostState α

namespace Host

def failCore {α : Type} (error : CoreError) : HostM α := fail (.failed (.core error))

/-- `map_err(HostError::Core)?` -/
def core {α : Type} (value : Except CoreError α) : HostM α :=
  ofExcept (value.mapError fun error => .failed (.core error))

/-- `ok_or_else(|| HostError::InvalidConfiguration(..))?` -/
def orConfiguration {α : Type} (value : Option α) (message : String) : HostM α :=
  ofOption value (.failed (.invalidConfiguration message))

/-- One transaction of the database. -/
def persist (save : EngineDatabase → Except PersistenceError EngineDatabase) : HostM Unit := do
  let database ← read HostState.database
  let database ← ofExcept ((save database).mapError fun error => .failed (.persistence error))
  write fun s => { s with database }

/-- Publish a staged map and registry, under a new revision. -/
def publishMap (map : WorldMap) (registry : List RuntimeMapItemRecord) : HostM Unit :=
  write fun s => { s with map := { s.map with
    map, runtimeTileItems := registry, revision := s.map.revision + 1 } }

/-! ### Placing and expiring runtime items -/

/-- The ordinal of the next runtime item of the tile. -/
def nextOrdinal (position : Position) : HostM ℕ := do
  let ordinal ← read fun s => s.map.runtimeCount position
  if u8Max < ordinal then
    failCore (.invalidMap "runtime tile-item ordinals exhausted for this tile")
  else return ordinal

/-- Place one item on a tile.  Nothing here asks whether the tile exists. -/
def addRuntimeTileItem (position : Position) (item : WorldMapItem) (despawnTick : Option ℕ) :
    HostM ℕ := do
  let self ← read HostState.map
  let items := self.map.itemsAt position
  if maxWorldMapItemsPerTile < items.length + 1 then fail .declined
  else if maxRuntimeMapItems ≤ self.runtimeTileItems.length then fail .declined
  else
    let ordinal ← nextOrdinal position
    let record ← ofOption (runtimeWorldMapItemToRecord position ordinal item despawnTick) .declined
    let nextMap ← core (self.map.setTileItems position (items ++ [item]))
    let nextRegistry := self.runtimeTileItems ++ [record]
    persist (·.replaceRuntimeMapItems self.sourceRevision nextRegistry)
    publishMap nextMap nextRegistry
    return self.revision + 1

/-- The corpse of a creature, with the loot nobody took. -/
def corpseItem (corpseServerId : ℕ) (leftovers : List (ℕ × ℕ)) : WorldMapItem :=
  plainMapItem corpseServerId 1
    (leftovers.map fun loot => plainMapItem loot.1 (min loot.2 u8Max) [])

def spawnCorpse (position : Position) (corpseServerId : ℕ) (leftovers : List (ℕ × ℕ))
    (despawnTick : Option ℕ) : HostM ℕ :=
  addRuntimeTileItem position (corpseItem corpseServerId leftovers) despawnTick

end Host

/-- `despawn_tick.is_some_and(|tick| tick <= now_tick)` -/
def RuntimeMapItemRecord.isDue (self : RuntimeMapItemRecord) (nowTick : ℕ) : Bool :=
  self.despawnTick.any fun tick => tick ≤ nowTick

namespace SharedNativeMap

/-- The stack indices of the due items of one tile, the largest first. -/
def doomedIndices (self : SharedNativeMap) (nowTick : ℕ) (position : Position)
    (runtimeStart : ℕ) : List ℕ :=
  let ordinals := ((recordsAt self.runtimeTileItems position).filter (·.isDue nowTick)).map
    RuntimeMapItemRecord.ordinal
  (ordinals.dedup.map (runtimeStart + ·)).insertionSort (· ≥ ·)

/-- Remove the due items of one tile from the staged map. -/
def expireTile (self : SharedNativeMap) (nowTick : ℕ) (map : WorldMap) (position : Position) :
    Except CoreError WorldMap :=
  match map.tileItemsAt position with
  | none => .error (.invalidMap "an expired runtime item references a missing map tile")
  | some items => do
    let runtimeStart := items.length - self.runtimeCount position
    let doomed := self.doomedIndices nowTick position runtimeStart
    let remaining ← doomed.foldlM (fun (remaining : List WorldMapItem) index =>
      if remaining.length ≤ index then
        .error (.invalidMap "an expired runtime item index no longer resolves")
      else .ok (remaining.eraseIdx index)) items
    map.setTileItems position remaining

/-- The tiles with a due item, in tile order. -/
def expiredPositions (self : SharedNativeMap) (nowTick : ℕ) : List Position :=
  (Std.ExtTreeSet.ofList ((self.runtimeTileItems.filter (·.isDue nowTick)).map
    RuntimeMapItemRecord.position) compare).toList

end SharedNativeMap

namespace Host

/-- Remove the due items.  The ordinals of the others stay as they are. -/
def removeExpiredRuntimeItems (nowTick : ℕ) : HostM (List Position) := do
  let self ← read HostState.map
  let expired := Indices.indicesWhere (·.isDue nowTick) self.runtimeTileItems
  if expired = [] then return []
  else
    let nextRegistry := expired.reverse.foldl List.eraseIdx self.runtimeTileItems
    let positions := self.expiredPositions nowTick
    let nextMap ← core (positions.foldlM (self.expireTile nowTick) self.map)
    persist (·.replaceRuntimeMapItems self.sourceRevision nextRegistry)
    publishMap nextMap nextRegistry
    return positions

end Host

end ForgottenEngine
