import ForgottenEngine.SharedMap
import ForgottenEngine.WorldEvents

/-!
# Transfers between the map and an inventory

The six methods that move an item between the shared map and the inventory of one player: a drop
to the ground, a pickup of a runtime item or of one child of a corpse, and the four takes of a
source item, whole or in part, into a slot or into a container.

Each stages everything on copies, saves the inventory and the map table in one transaction, and
publishes afterwards.  The source takes publish the map first, the drop and the pickup last.
-/

namespace ForgottenEngine

open Fallible

/-- The same floor, at most one step in each direction. -/
def Position.isWithinOneStep (self other : Position) : Bool :=
  self.z = other.z ∧ Position.absDiff self.x other.x ≤ 1 ∧ Position.absDiff self.y other.y ≤ 1

/-! ### The carried weight -/

def itemWeight (weights : BTreeMap ℕ ℕ) (item : ItemInstance) : ℕ :=
  min (weights[item.serverId]?.getD 0 * item.count) u64Max

/-- What a player carries, in hundredths of an ounce; nested contents weigh nothing. -/
def nativeCarriedWeight (weights : BTreeMap ℕ ℕ) (equipment : PlayerEquipment)
    (containers : PlayerContainers) : ℕ :=
  let total := equipment.items.toList.foldl
    (fun total e => saturatingAdd total (itemWeight weights e.2)) 0
  containers.containers.entries.toList.foldl (fun total e =>
    e.2.items.items.foldl (fun total item => saturatingAdd total (itemWeight weights item))
      (saturatingAdd total (itemWeight weights e.2.containerItem))) total

structure SourceMapItemTransferOutcome where
  playerId : ℕ
  sourceIdentity : WorldMapItemSourceIdentity
  item : ItemInstance
  mapRevision : ℕ

namespace Host

/-! ### Reading and staging -/

def requirePlayer (playerId : ℕ) : HostM Player :=
  readOr (fun s => s.world.players[playerId]?) (.failed (.core (.unknownPlayer playerId)))

def playerEquipment (playerId : ℕ) : HostM PlayerEquipment :=
  readOr (fun s => s.world.playerEquipments[playerId]?) (.failed (.core (.unknownPlayer playerId)))

def playerContainers (playerId : ℕ) : HostM PlayerContainers :=
  readOr (fun s => s.world.playerContainers[playerId]?) (.failed (.core (.unknownPlayer playerId)))

/-- Run a method on a clone of the world. -/
def stage {α : Type} (refuse : CoreError → Refusal) (method : WorldM α) : HostM (α × WorldState) :=
  fun s =>
    match method s.world.toWorldState with
    | (.ok a, staged) => (.ok (a, staged), s)
    | (.error e, _) => (.error (refuse e), s)

/-- Run a method on the world itself. -/
def onWorld {α : Type} (method : WorldM α) : HostM α := fun s =>
  match method s.world.toWorldState with
  | (.ok a, w) => (.ok a, { s with world := { s.world with toWorldState := w } })
  | (.error e, w) =>
    (.error (.failed (.core e)), { s with world := { s.world with toWorldState := w } })

/-- The inventory of a player in a staged world. -/
def stagedInventory (playerId : ℕ) (staged : WorldState) :
    HostM (PlayerEquipment × PlayerContainers) := do
  let equipment ← ofOption staged.playerEquipments[playerId]?
    (.failed (.core (.unknownPlayer playerId)))
  let containers ← ofOption staged.playerContainers[playerId]?
    (.failed (.core (.unknownPlayer playerId)))
  return (equipment, containers)

/-- The gate in front of the save; without weights there is none. -/
def checkCarriedWeight (playerId : ℕ) (weights : Option (BTreeMap ℕ ℕ))
    (equipment : PlayerEquipment) (containers : PlayerContainers) : HostM Unit :=
  match weights with
  | none => pure ()
  | some weights => do
    let vitals ← readOr (fun s => s.world.playerVitals[playerId]?)
      (.failed (.core (.unknownPlayer playerId)))
    if min (vitals.capacity * 100) u64Max < nativeCarriedWeight weights equipment containers then
      fail .declined
    else pure ()

/-- Save the inventory and the registry in one transaction, then publish all of it. -/
def commitRuntimeMove (playerId : ℕ) (equipment : PlayerEquipment) (containers : PlayerContainers)
    (nextMap : WorldMap) (nextRegistry : List RuntimeMapItemRecord) : HostM Unit := do
  let mapRevision ← read fun s => s.map.sourceRevision
  persist fun database => database.replacePlayerInventoryAndRuntimeMapItems playerId
    equipment containers mapRevision nextRegistry
  let _ ← onWorld (World.replacePlayerEquipment playerId equipment)
  let _ ← onWorld (World.replacePlayerContainers playerId containers)
  publishMap nextMap nextRegistry

/-! ### Drops -/

/-- The errors of a drop that only decline it. -/
def dropRefusal : CoreError → Refusal
  | .emptyEquipmentSlot .. => .declined
  | .unknownPlayerContainer .. => .declined
  | .unknownPlayerContainerItem .. => .declined
  | error => .failed (.core error)

def movePlayerStackToGround (playerId : ℕ) (source : PlayerGroundDropSource) (target : Position)
    (count : ℕ) (weights : Option (BTreeMap ℕ ℕ)) : HostM PlayerGroundDropOutcome := do
  let self ← read HostState.map
  let tile ← ofOption (self.map.tile target) .declined
  if ¬tile.walkable then fail .declined
  else
    let player ← requirePlayer playerId
    if ¬player.position.isWithinOneStep target then fail .declined
    else if maxWorldMapItemsPerTile ≤ (self.map.itemsAt target).length then fail .declined
    else if count = 0 ∨ u8Max < count then fail .declined
    else
      let (outcome, staged) ← stage dropRefusal
        (World.takePlayerStackForGroundDrop playerId source count)
      let ordinal ← nextOrdinal target
      if u8Max < outcome.movedItem.count then
        fail (.failed (.invalidConfiguration "dropped stack exceeds the ground count bound"))
      else
        let record : RuntimeMapItemRecord :=
          ⟨target, ordinal, outcome.movedItem.serverId, outcome.movedItem.count, [], none⟩
        let nextRegistry := self.runtimeTileItems ++ [record]
        let nextMap ← core (self.map.setTileItems target (self.map.itemsAt target ++
          [plainMapItem outcome.movedItem.serverId outcome.movedItem.count []]))
        let (equipment, containers) ← stagedInventory playerId staged
        checkCarriedWeight playerId weights equipment containers
        commitRuntimeMove playerId equipment containers nextMap nextRegistry
        return outcome

end Host

/-! ### Pickups -/

/-- What a take moves, and the shape it leaves behind. -/
structure RuntimeTake where
  moved : WorldMapItem
  nextChildren : List WorldMapItem
  nextTopCount : Option ℕ
  removeTop : Bool
  sourceRemainingCount : Option ℕ

/-- Take `count` units of one child. -/
def WorldMapItem.takeChild (self : WorldMapItem) (childIndex count : ℕ) : Option RuntimeTake := do
  let child ← self.children[childIndex]?
  if child.count < count then none
  else
    let rest := child.count - count
    some {
      moved := { child with count }
      nextChildren :=
        if 0 < rest then self.children.set childIndex { child with count := rest }
        else self.children.eraseIdx childIndex
      nextTopCount := none
      removeTop := false
      sourceRemainingCount := if 0 < rest then some rest else none }

/-- Take `count` units of the item itself; the last unit takes its children along, out of sight. -/
def WorldMapItem.takeTop (self : WorldMapItem) (count : ℕ) : Option RuntimeTake :=
  if self.count < count then none
  else
    let rest := self.count - count
    if 0 < rest then some ⟨{ self with count }, self.children, some rest, false, some rest⟩
    else some ⟨{ self with count }, [], none, true, none⟩

def WorldMapItem.takeRuntime (self : WorldMapItem) (childIndex : Option ℕ) (count : ℕ) :
    Option RuntimeTake :=
  match childIndex with
  | some childIndex => self.takeChild childIndex count
  | none => self.takeTop count

/-- Move an entry above a removed one of the same tile down by one. -/
def RuntimeMapItemRecord.closeGap (position : Position) (ordinal : ℕ)
    (record : RuntimeMapItemRecord) : RuntimeMapItemRecord :=
  if record.position = position ∧ ordinal < record.ordinal then
    { record with ordinal := record.ordinal - 1 }
  else record

/-- The registry after a take. -/
def RuntimeTake.nextRegistry (take : RuntimeTake) (registry : List RuntimeMapItemRecord)
    (recordIndex : ℕ) (position : Position) (ordinal : ℕ) (childIndex : Option ℕ) :
    Except HostError (List RuntimeMapItemRecord) :=
  if take.removeTop then
    .ok ((registry.eraseIdx recordIndex).map (RuntimeMapItemRecord.closeGap position ordinal))
  else
    match childIndex, take.nextTopCount with
    | some _, _ => .ok (registry.modify recordIndex fun record =>
        { record with children := take.nextChildren.map WorldMapItem.toChildRecord })
    | none, some count => .ok (registry.modify recordIndex fun record => { record with count })
    | none, none => .error (.invalidConfiguration "partial top-level take lost its remainder")

/-- The items of the tile after a take; what stays of the item is rewritten without attributes. -/
def RuntimeTake.nextItems (take : RuntimeTake) (items : List WorldMapItem) (itemIndex : ℕ)
    (mapItem : WorldMapItem) : List WorldMapItem :=
  if take.removeTop then items.eraseIdx itemIndex
  else items.set itemIndex
    (plainMapItem mapItem.serverId (take.nextTopCount.getD mapItem.count) take.nextChildren)

namespace Host

/-- Put the taken stack into the inventory, on a clone of the world.  A content window as the
destination stores nothing. -/
def admitTaken (playerId : ℕ) (moved : ItemInstance) : PlayerGroundDropSource → HostM WorldState
  | .equipmentSlot slot => do
    let equipment ← playerEquipment playerId
    let (_, equipment) ← ofExcept ((equipment.placeStack slot moved).mapError fun _ => .declined)
    let (_, staged) ← stage (fun e => .failed (.core e))
      (World.replacePlayerEquipment playerId equipment)
    return staged
  | .containerItem containerId _ => do
    let containers ← playerContainers playerId
    let (container, containers) ← ofOption (containers.remove containerId) .declined
    if container.hasParent then fail .declined
    else
      let (_, items) ← ofExcept
        ((container.items.mergeOrInsertStack moved).mapError fun _ => .declined)
      let (_, containers) ← core (containers.insert { container with items })
      let (_, staged) ← stage (fun e => .failed (.core e))
        (World.replacePlayerContainers playerId containers)
      return staged
  | .containerContent .. => read fun s => s.world.toWorldState

/-- Take from a runtime item; `childIndex` names one child of a corpse. -/
def moveRuntimeItemToInventory (playerId : ℕ) (position : Position) (itemIndex : ℕ)
    (childIndex : Option ℕ) (count : ℕ) (destination : PlayerGroundDropSource)
    (weights : Option (BTreeMap ℕ ℕ)) : HostM PlayerGroundDropOutcome := do
  if count = 0 ∨ u8Max < count then fail .declined
  else
    let self ← read HostState.map
    let runtimeStart := self.runtimeTailStart position
    let items ← ofOption (self.map.tileItemsAt position) .declined
    if itemIndex < runtimeStart ∨ items.length ≤ itemIndex then fail .declined
    else
      let ordinal := itemIndex - runtimeStart
      if u8Max < ordinal then fail .declined
      else
        let recordIndex ← ofOption (self.runtimeTileItems.findIdx? fun record =>
          record.position = position ∧ record.ordinal = ordinal) .declined
        let mapItem ← ofOption items[itemIndex]? .declined
        let take ← ofOption (mapItem.takeRuntime childIndex count) .declined
        let movedItem ← core (ItemInstance.new take.moved.serverId take.moved.count)
        let staged ← admitTaken playerId movedItem destination
        let nextRegistry ← ofExcept ((take.nextRegistry self.runtimeTileItems recordIndex position
          ordinal childIndex).mapError .failed)
        let nextMap ← core (self.map.setTileItems position (take.nextItems items itemIndex mapItem))
        let (equipment, containers) ← stagedInventory playerId staged
        checkCarriedWeight playerId weights equipment containers
        commitRuntimeMove playerId equipment containers nextMap nextRegistry
        return ⟨playerId, destination, movedItem, take.sourceRemainingCount⟩

/-! ### Takes of source items -/

/-- The live item at a stack index and the source item it is bound to. -/
def resolveSourceItem (position : Position) (runtimeItemIndex : ℕ) :
    HostM (WorldMapItem × WorldMapItemSourceIdentity) := do
  let self ← read HostState.map
  let runtimeItem ← ofOption (self.map.itemsAt position)[runtimeItemIndex]?
    (.failed (.core (.unknownMapItem position (min runtimeItemIndex u8Max) 0)))
  let sourceItemIndex ← orConfiguration
    (self.sourceItemIndices[position]?.bind (·[runtimeItemIndex]?))
    "map item has no source-bound runtime identity"
  let sourceIdentity ← orConfiguration (self.source.sourceItemIdentity position sourceItemIndex)
    "map source item identity no longer resolves"
  return (runtimeItem, sourceIdentity)

/-- The source item of an identity. -/
def sourceItemOf (self : SharedNativeMap) (sourceIdentity : WorldMapItemSourceIdentity) :
    Option WorldMapItem :=
  (self.source.itemsAt sourceIdentity.position)[sourceIdentity.itemIndex]?

/-- The two items agree in everything but their count and their client id. -/
def sameSourceItem (runtimeItem sourceItem : WorldMapItem) : Bool :=
  runtimeItem.serverId = sourceItem.serverId ∧ runtimeItem.actionId = sourceItem.actionId ∧
    runtimeItem.uniqueId = sourceItem.uniqueId ∧ runtimeItem.children = sourceItem.children ∧
    runtimeItem.text = sourceItem.text ∧ runtimeItem.description = sourceItem.description ∧
    runtimeItem.teleportDestination = sourceItem.teleportDestination ∧
    runtimeItem.duration = sourceItem.duration ∧ runtimeItem.charges = sourceItem.charges

def plainSourceMapItemToInventoryItem (item : WorldMapItem) : HostM ItemInstance := do
  if item.children ≠ [] ∨ item.text.isSome ∨ item.description.isSome ∨
      item.teleportDestination.isSome ∨ item.duration.isSome ∨ item.charges.isSome then
    fail (.failed (.invalidConfiguration
      "map item carries unsupported runtime attributes for inventory transfer"))
  else
    let inventoryItem ← core (ItemInstance.new item.serverId item.count)
    return { inventoryItem with actionId := item.actionId, uniqueId := item.uniqueId }

def checkNotRemoved (sourceIdentity : WorldMapItemSourceIdentity) : HostM Unit := do
  let removed ← read fun s => s.map.removedSourceItems
  if sourceIdentity ∈ removed then
    fail (.failed (.invalidConfiguration "map source item identity has already been removed"))
  else pure ()

/-- The checks of a take of a whole item. -/
def resolveWhole (position : Position) (runtimeItemIndex : ℕ) :
    HostM (ItemInstance × WorldMapItemSourceIdentity) := do
  let (runtimeItem, sourceIdentity) ← resolveSourceItem position runtimeItemIndex
  let sourceItem ← read fun s => sourceItemOf s.map sourceIdentity
  if sourceItem ≠ some runtimeItem then
    fail (.failed (.invalidConfiguration
      "map runtime item no longer matches its immutable source item"))
  else
    let item ← plainSourceMapItemToInventoryItem runtimeItem
    return (item, sourceIdentity)

/-- The checks of a take of a part: the item to move, and how many units lie there. -/
def resolveStack (position : Position) (runtimeItemIndex requestedCount : ℕ) :
    HostM (ItemInstance × WorldMapItemSourceIdentity × ℕ) := do
  let (runtimeItem, sourceIdentity) ← resolveSourceItem position runtimeItemIndex
  let self ← read HostState.map
  let sourceItem ← orConfiguration (sourceItemOf self sourceIdentity)
    "map source item no longer resolves"
  if ¬sameSourceItem runtimeItem sourceItem then
    fail (.failed (.invalidConfiguration
      "map runtime item no longer matches its immutable source item identity"))
  else
    checkNotRemoved sourceIdentity
    if requestedCount = 0 ∨ runtimeItem.count < requestedCount then
      failCore (.invalidItemTransferCount requestedCount runtimeItem.count)
    else
      let item ← plainSourceMapItemToInventoryItem runtimeItem
      return ({ item with count := requestedCount }, sourceIdentity, runtimeItem.count)

/-- Merge the item into an owned window that is not nested. -/
def storeInTopLevelContainer (containers : PlayerContainers) (containerId : ℕ)
    (item : ItemInstance) : HostM PlayerContainers := do
  let (container, containers) ← orConfiguration (containers.remove containerId)
    "map item destination container is not owned"
  if container.hasParent then
    fail (.failed (.invalidConfiguration "map item destination container must be top-level"))
  else
    let (_, items) ← core (container.items.mergeOrInsertStack item)
    let (_, containers) ← core (containers.insert { container with items })
    return containers

end Host

/-- The tables of the shared map after a source take. -/
structure SourceTake where
  map : WorldMap
  removed : BTreeSet WorldMapItemSourceIdentity
  overrides : BTreeMap WorldMapItemSourceIdentity ℕ

namespace Host

/-- The item list of a tile that is known to have one. -/
def tileItems (position : Position) : HostM (List WorldMapItem) :=
  readOr (fun s => s.map.map.tileItemsAt position)
    (.failed (.core (.invalidMap "validated runtime item list disappeared")))

/-- Stage the map and the journal of a complete removal. -/
def stageWhole (position : Position) (runtimeItemIndex : ℕ)
    (sourceIdentity : WorldMapItemSourceIdentity) : HostM SourceTake := do
  let self ← read HostState.map
  let items ← tileItems position
  let nextMap ← core (self.map.setTileItems position (items.eraseIdx runtimeItemIndex))
  return ⟨nextMap, self.removedSourceItems.insert sourceIdentity, self.sourceItemCountOverrides⟩

/-- Stage the map, the journal and the overrides of a take of `requestedCount` units. -/
def stageStack (position : Position) (runtimeItemIndex requestedCount availableCount : ℕ)
    (sourceIdentity : WorldMapItemSourceIdentity) : HostM SourceTake := do
  let self ← read HostState.map
  let items ← tileItems position
  if requestedCount = availableCount then
    let nextMap ← core (self.map.setTileItems position (items.eraseIdx runtimeItemIndex))
    return ⟨nextMap, self.removedSourceItems.insert sourceIdentity,
      self.sourceItemCountOverrides.erase sourceIdentity⟩
  else
    let remainingCount := availableCount - requestedCount
    if u8Max < remainingCount then
      failCore (.invalidMap "partial take remainder exceeds the map u8 stack bound")
    else
      let nextMap ← core (self.map.setTileItems position
        (items.modify runtimeItemIndex fun item => { item with count := remainingCount }))
      return ⟨nextMap, self.removedSourceItems,
        self.sourceItemCountOverrides.insert sourceIdentity remainingCount⟩

/-- The map is published before the inventory. -/
def publishTakenMap (map : WorldMap) : HostM Unit :=
  write fun s => { s with map := { s.map with map } }

/-- Drop the taken item from the source indices of its tile. -/
def dropSourceIndex (position : Position) (runtimeItemIndex : ℕ) : HostM Unit := do
  let sourceIndices ← readOr (fun s => s.map.sourceItemIndices[position]?)
    (.failed (.invalidConfiguration "validated source index list disappeared"))
  let sourceIndices := sourceIndices.eraseIdx runtimeItemIndex
  write fun s => { s with map := { s.map with
    sourceItemIndices :=
      if sourceIndices = [] then s.map.sourceItemIndices.erase position
      else s.map.sourceItemIndices.insert position sourceIndices } }

/-- Publish the journal and the overrides, under a new revision. -/
def publishTake (take : SourceTake) : HostM ℕ := do
  write fun s => { s with map := { s.map with
    removedSourceItems := take.removed
    sourceItemCountOverrides := take.overrides
    revision := s.map.revision + 1 } }
  read fun s => s.map.revision

/-- The journal a take saves. -/
def takeJournal (self : SharedNativeMap) (take : SourceTake) : MapItemRemovalJournal :=
  ⟨self.sourceRevision, take.removed.toList⟩

/-- Save, then publish the map, the inventory, the source indices of a whole item, and the
tables. -/
def commitSourceTake (position : Position) (runtimeItemIndex : ℕ) (take : SourceTake)
    (whole : Bool) (save : EngineDatabase → Except PersistenceError EngineDatabase)
    (replace : WorldM Bool) : HostM ℕ := do
  persist save
  publishTakenMap take.map
  let _ ← onWorld replace
  if whole then dropSourceIndex position runtimeItemIndex else pure ()
  publishTake take

def moveSourceItemToEmptyEquipment (playerId : ℕ) (position : Position) (runtimeItemIndex : ℕ)
    (slot : EquipmentSlot) : HostM SourceMapItemTransferOutcome := do
  let self ← read HostState.map
  let (item, sourceIdentity) ← resolveWhole position runtimeItemIndex
  let equipment ← playerEquipment playerId
  let (_, equipment) ← core (equipment.placeStack slot item)
  let containers ← playerContainers playerId
  checkNotRemoved sourceIdentity
  let take ← stageWhole position runtimeItemIndex sourceIdentity
  let mapRevision ← commitSourceTake position runtimeItemIndex take true
    (fun database => database.replacePlayerInventoryAndMapItemRemovalJournal playerId
      equipment containers (takeJournal self take))
    (World.replacePlayerEquipment playerId equipment)
  return ⟨playerId, sourceIdentity, item, mapRevision⟩

def moveSourceItemStackToEquipment (playerId : ℕ) (position : Position)
    (runtimeItemIndex requestedCount : ℕ) (slot : EquipmentSlot) :
    HostM SourceMapItemTransferOutcome := do
  let self ← read HostState.map
  let (item, sourceIdentity, availableCount) ←
    resolveStack position runtimeItemIndex requestedCount
  let equipment ← playerEquipment playerId
  let (_, equipment) ← core (equipment.placeStack slot item)
  let containers ← playerContainers playerId
  let take ← stageStack position runtimeItemIndex requestedCount availableCount sourceIdentity
  let mapRevision ← commitSourceTake position runtimeItemIndex take
    (requestedCount = availableCount)
    (fun database => database.replacePlayerInventoryAndMapItemState playerId
      equipment containers (takeJournal self take)
      (SharedNativeMap.overrideRecords take.overrides))
    (World.replacePlayerEquipment playerId equipment)
  return ⟨playerId, sourceIdentity, item, mapRevision⟩

def moveSourceItemToTopLevelContainer (playerId : ℕ) (position : Position) (runtimeItemIndex : ℕ)
    (containerId : ℕ) : HostM SourceMapItemTransferOutcome := do
  let self ← read HostState.map
  let (item, sourceIdentity) ← resolveWhole position runtimeItemIndex
  checkNotRemoved sourceIdentity
  let equipment ← playerEquipment playerId
  let containers ← playerContainers playerId
  let containers ← storeInTopLevelContainer containers containerId item
  let take ← stageWhole position runtimeItemIndex sourceIdentity
  let mapRevision ← commitSourceTake position runtimeItemIndex take true
    (fun database => database.replacePlayerInventoryAndMapItemRemovalJournal playerId
      equipment containers (takeJournal self take))
    (World.replacePlayerContainers playerId containers)
  return ⟨playerId, sourceIdentity, item, mapRevision⟩

def moveSourceItemStackToTopLevelContainer (playerId : ℕ) (position : Position)
    (runtimeItemIndex requestedCount containerId : ℕ) : HostM SourceMapItemTransferOutcome := do
  let self ← read HostState.map
  let (item, sourceIdentity, availableCount) ←
    resolveStack position runtimeItemIndex requestedCount
  let equipment ← playerEquipment playerId
  let containers ← playerContainers playerId
  let containers ← storeInTopLevelContainer containers containerId item
  let take ← stageStack position runtimeItemIndex requestedCount availableCount sourceIdentity
  let mapRevision ← commitSourceTake position runtimeItemIndex take
    (requestedCount = availableCount)
    (fun database => database.replacePlayerInventoryAndMapItemState playerId
      equipment containers (takeJournal self take)
      (SharedNativeMap.overrideRecords take.overrides))
    (World.replacePlayerContainers playerId containers)
  return ⟨playerId, sourceIdentity, item, mapRevision⟩

end Host

end ForgottenEngine
