import ForgottenEngine.World
import ForgottenEngine.WorldMap
import ForgottenEngine.Library.Table

/-!
# The engine database

The durable tables the inventory and the map write to, the seven operations that save an
inventory, the writers of the map state beside it, and the loaders.  A save is one transaction:
it ends in an error and the database it started from, or in a new database.

The seven saves repeat the same statements.  Here these are `writeEquipment` and
`writeContainers`; the latter has a switch for the one difference between the copies, whether the
rows of nested contents are written.

The loaders trust nothing: every column is checked on the way back (`u16Of` and the like stand
for `u16::try_from` on a 64-bit column), and slots must be contiguous.  The rows of the map tables
are the records themselves, a runtime item together with its children.
-/

namespace ForgottenEngine

/-! ### Records -/

/-- The journal of removed source items of one revision of the map. -/
structure MapItemRemovalJournal where
  mapRevision : ℕ
  removedItems : List WorldMapItemSourceIdentity
deriving DecidableEq

/-- The remaining count of a source item that was taken in part. -/
structure MapItemCountOverrideRecord where
  sourceIdentity : WorldMapItemSourceIdentity
  remainingCount : ℕ
deriving DecidableEq

structure RuntimeMapItemChildRecord where
  serverId : ℕ
  count : ℕ
deriving DecidableEq, Repr

/-- One item the running server put on a tile: a drop or a corpse. -/
@[ext]
structure RuntimeMapItemRecord where
  position : Position
  ordinal : ℕ
  serverId : ℕ
  count : ℕ
  children : List RuntimeMapItemChildRecord
  despawnTick : Option ℕ
deriving DecidableEq, Repr

def maxRuntimeMapItems : ℕ := 4096

def maxRuntimeMapItemChildren : ℕ := 32

def i64Max : ℕ := 9223372036854775807

/-- The text of a record error: one of the database layer, or a core error as it displays. -/
inductive RecordFault where
  | text (message : String)
  | core (error : CoreError)
deriving DecidableEq

inductive PersistenceError where
  | unknownPlayer (playerId : ℕ)
  | invalidEquipmentRecord (fault : RecordFault)
  | invalidContainerRecord (fault : RecordFault)
  | invalidBankBalanceRecord (message : String)
  | invalidMapItemJournal (message : String)
  /-- A statement the database engine refused: here a repeated primary key. -/
  | sql
deriving DecidableEq

/-! ### Rows -/

structure EquipmentRow where
  playerId : ℕ
  slot : ℤ
  serverId : ℤ
  count : ℤ
  actionId : Option ℤ
  uniqueId : Option ℤ
deriving DecidableEq

structure ContainerRow where
  playerId : ℕ
  containerId : ℤ
  serverId : ℤ
  count : ℤ
  name : String
  hasParent : ℤ
  capacity : ℤ
deriving DecidableEq

/-- An item of a container; `parentSlot` is null for a top-level item. -/
structure ContainerItemRow where
  playerId : ℕ
  containerId : ℤ
  slot : ℤ
  parentSlot : Option ℤ
  serverId : ℤ
  count : ℤ
  actionId : Option ℤ
  uniqueId : Option ℤ
deriving DecidableEq

def EquipmentRow.key (row : EquipmentRow) : Option (ℕ × ℤ) := some (row.playerId, row.slot)

def ContainerRow.key (row : ContainerRow) : Option (ℕ × ℤ) := some (row.playerId, row.containerId)

/-- A null parent slot keeps the row out of the key. -/
def ContainerItemRow.key (row : ContainerItemRow) : Option (ℕ × ℤ × ℤ × ℤ) :=
  row.parentSlot.map fun parentSlot => (row.playerId, row.containerId, parentSlot, row.slot)

/-- The durable tables.  The map tables are read and replaced as a whole. -/
structure EngineDatabase where
  bankBalances : BTreeMap ℕ ℕ
  playerEquipment : Table EquipmentRow (ℕ × ℤ) EquipmentRow.key
  playerContainers : Table ContainerRow (ℕ × ℤ) ContainerRow.key
  playerContainerItems : Table ContainerItemRow (ℕ × ℤ × ℤ × ℤ) ContainerItemRow.key
  mapItemRemovalJournal : List WorldMapItemSourceIdentity
  mapItemCountOverrides : List MapItemCountOverrideRecord
  runtimeMapItems : List (ℕ × RuntimeMapItemRecord)

/-! ### Column conversions -/

/-- `u8::try_from`, `u16::try_from` and `usize::try_from` on a 64-bit column. -/
def natOf (bound : ℕ) (value : ℤ) : Option ℕ :=
  if 0 ≤ value ∧ value ≤ bound then some value.toNat else none

@[simp] theorem natOf_natCast {bound n m : ℕ} :
    natOf bound (n : ℤ) = some m ↔ n ≤ bound ∧ m = n := by
  unfold natOf
  by_cases h : n ≤ bound
  · simp [h, eq_comm]
  · simp [h]

def u8Of : ℤ → Option ℕ := natOf u8Max

def u16Of : ℤ → Option ℕ := natOf u16Max

def usizeOf : ℤ → Option ℕ := natOf u64Max

def EquipmentSlot.fromCode : ℕ → Option EquipmentSlot
  | 1 => some .head
  | 2 => some .neck
  | 3 => some .backpack
  | 4 => some .armor
  | 5 => some .rightHand
  | 6 => some .leftHand
  | 7 => some .legs
  | 8 => some .feet
  | 9 => some .ring
  | 10 => some .ammo
  | _ => none

namespace EngineDatabase

open PersistenceError

/-- `map_err` on an optional conversion. -/
def orFail {α : Type} (error : PersistenceError) (value : Option α) : Except PersistenceError α :=
  value.elim (.error error) .ok

@[simp] theorem orFail_eq_ok {α : Type} {e : PersistenceError} {v : Option α} {a : α} :
    orFail e v = .ok a ↔ v = some a := by
  cases v <;> simp [orFail]

/-- `map_err(|error| wrap(error.to_string()))`. -/
def wrapCore {α : Type} (wrap : RecordFault → PersistenceError) (value : Except CoreError α) :
    Except PersistenceError α :=
  match value with
  | .ok a => .ok a
  | .error e => .error (wrap (.core e))

/-- An optional attribute column. -/
def optionalU16 (wrap : RecordFault → PersistenceError) (value : Option ℤ) (label : String) :
    Except PersistenceError (Option ℕ) :=
  match value with
  | none => .ok none
  | some value => do
    let value ← orFail (wrap (.text s!"{label} does not fit u16")) (u16Of value)
    .ok (some value)

/-- An item without attributes, from its two required columns. -/
def itemFromColumns (wrap : RecordFault → PersistenceError) (serverId count : ℤ) :
    Except PersistenceError ItemInstance := do
  let serverId ← orFail (wrap (.text "server item ID does not fit u16")) (u16Of serverId)
  let count ← orFail (wrap (.text "item count does not fit u16")) (u16Of count)
  wrapCore wrap (ItemInstance.new serverId count)

/-- An item from its four columns. -/
def itemFromRow (wrap : RecordFault → PersistenceError) (serverId count : ℤ)
    (actionId uniqueId : Option ℤ) : Except PersistenceError ItemInstance := do
  let item ← itemFromColumns wrap serverId count
  let actionId ← optionalU16 wrap actionId "action ID"
  let uniqueId ← optionalU16 wrap uniqueId "unique ID"
  .ok { item with actionId, uniqueId }

def containerItemFromRecord (serverId count : ℤ) : Except PersistenceError ItemInstance :=
  itemFromColumns invalidContainerRecord serverId count

variable (self : EngineDatabase) (playerId : ℕ)

def ensurePlayerExists : Except PersistenceError Unit :=
  if self.bankBalances[playerId]?.isSome then .ok () else .error (unknownPlayer playerId)

/-! ### Writing an inventory -/

def equipmentRow (playerId : ℕ) (entry : EquipmentSlot × ItemInstance) : EquipmentRow where
  playerId
  slot := entry.1.code
  serverId := entry.2.serverId
  count := entry.2.count
  actionId := entry.2.actionId.map Int.ofNat
  uniqueId := entry.2.uniqueId.map Int.ofNat

def containerRow (playerId : ℕ) (entry : ℕ × PlayerContainer) : ContainerRow where
  playerId
  containerId := entry.1
  serverId := entry.2.containerItem.serverId
  count := entry.2.containerItem.count
  name := entry.2.name
  hasParent := entry.2.hasParent.toNat
  capacity := entry.2.items.capacity

def itemRow (playerId containerId : ℕ) (parentSlot : Option ℕ) (entry : ItemInstance × ℕ) :
    ContainerItemRow where
  playerId
  containerId
  slot := entry.2
  parentSlot := parentSlot.map Int.ofNat
  serverId := entry.1.serverId
  count := entry.1.count
  actionId := entry.1.actionId.map Int.ofNat
  uniqueId := entry.1.uniqueId.map Int.ofNat

/-- The rows of the contents of one item (`insert_item_content_rows`). -/
def itemContentRows (playerId containerId parentSlot : ℕ) (item : ItemInstance) :
    List ContainerItemRow :=
  item.contents.zipIdx.map (itemRow playerId containerId (some parentSlot))

/-- The rows of one container: each item, followed by its contents where these are written. -/
def containerItemRows (keepsContents : Bool) (playerId : ℕ) (entry : ℕ × PlayerContainer) :
    List ContainerItemRow :=
  entry.2.items.items.zipIdx.flatMap fun item =>
    itemRow playerId entry.1 none item ::
      if keepsContents then itemContentRows playerId entry.1 item.2 item.1 else []

/-- Delete the equipment of the player and insert the given one. -/
def writeEquipment (equipment : PlayerEquipment) : Except PersistenceError EngineDatabase := do
  let table ← orFail sql ((self.playerEquipment.delete (·.playerId == playerId)).insertAll
    (equipment.items.toList.map (equipmentRow playerId)))
  .ok { self with playerEquipment := table }

/-- Delete the containers of the player with their items, and insert the given ones. -/
def writeContainers (keepsContents : Bool) (containers : PlayerContainers) :
    Except PersistenceError EngineDatabase := do
  let entries := containers.containers.entries.toList
  let table ← orFail sql ((self.playerContainers.delete (·.playerId == playerId)).insertAll
    (entries.map (containerRow playerId)))
  let items ← orFail sql ((self.playerContainerItems.delete (·.playerId == playerId)).insertAll
    (entries.flatMap (containerItemRows keepsContents playerId)))
  .ok { self with playerContainers := table, playerContainerItems := items }

def replacePlayerEquipment (equipment : PlayerEquipment) :
    Except PersistenceError EngineDatabase := do
  self.ensurePlayerExists playerId
  self.writeEquipment playerId equipment

def replacePlayerContainers (containers : PlayerContainers) :
    Except PersistenceError EngineDatabase := do
  self.ensurePlayerExists playerId
  self.writeContainers playerId true containers

def replacePlayerInventory (equipment : PlayerEquipment) (containers : PlayerContainers) :
    Except PersistenceError EngineDatabase := do
  self.ensurePlayerExists playerId
  let self ← self.writeEquipment playerId equipment
  self.writeContainers playerId true containers

/-- The two writes as the four composite saves make them, without the rows of contents. -/
def writeInventory (equipment : PlayerEquipment) (containers : PlayerContainers) :
    Except PersistenceError EngineDatabase := do
  let self ← self.writeEquipment playerId equipment
  self.writeContainers playerId false containers

def replacePlayerInventoryAndBankBalance (equipment : PlayerEquipment)
    (containers : PlayerContainers) (balance : ℕ) : Except PersistenceError EngineDatabase := do
  self.ensurePlayerExists playerId
  if i64Max < balance then
    .error (invalidBankBalanceRecord s!"bank balance exceeds SQLite signed range of {i64Max}")
  else
    let self ← self.writeInventory playerId equipment containers
    .ok { self with bankBalances := self.bankBalances.insert playerId balance }

/-! ### The map tables -/

/-- One revision throughout, and no source item twice. -/
def validateRemovals (foreign duplicate : String) (journal : MapItemRemovalJournal) :
    Except PersistenceError Unit :=
  journal.removedItems.zipIdx.forM fun (item, index) =>
    if item.mapRevision ≠ journal.mapRevision then .error (invalidMapItemJournal foreign)
    else if (item.position, item.itemIndex) ∈
        (journal.removedItems.take index).map fun i => (i.position, i.itemIndex) then
      .error (invalidMapItemJournal duplicate)
    else .ok ()

def validateOverrides (journal : MapItemRemovalJournal)
    (overrides : List MapItemCountOverrideRecord) : Except PersistenceError Unit :=
  overrides.zipIdx.forM fun (override, index) =>
    let key := (override.sourceIdentity.position, override.sourceIdentity.itemIndex)
    if override.sourceIdentity.mapRevision ≠ journal.mapRevision then
      .error (invalidMapItemJournal "every count override must use the journal map revision")
    else if ¬(1 ≤ override.remainingCount ∧ override.remainingCount ≤ maxItemStackCount) then
      .error (invalidMapItemJournal
        "count override remaining count must stay within the bounded stack range")
    else if key ∈ journal.removedItems.map fun i => (i.position, i.itemIndex) then
      .error (invalidMapItemJournal
        "one source item cannot be both removed and count-overridden")
    else if key ∈ (overrides.take index).map fun o =>
        (o.sourceIdentity.position, o.sourceIdentity.itemIndex) then
      .error (invalidMapItemJournal "duplicate source item identity in count overrides")
    else .ok ()

/-- The contract every writer of the runtime registry shares. -/
def validateRuntimeMapItemRecords (items : List RuntimeMapItemRecord) :
    Except PersistenceError Unit :=
  if maxRuntimeMapItems < items.length then
    .error (invalidMapItemJournal "runtime map-item registry exceeds the supported bound")
  else
    items.zipIdx.forM fun (item, index) =>
      if item.serverId = 0 then
        .error (invalidMapItemJournal "runtime map item server id must be nonzero")
      else if ¬(1 ≤ item.count ∧ item.count ≤ u8Max) then
        .error (invalidMapItemJournal
          "runtime map item count must stay within the bounded stack range")
      else if i64Max < item.despawnTick.getD 0 then
        .error (invalidMapItemJournal "runtime item despawn tick does not fit a signed integer")
      else if (item.position, item.ordinal) ∈
          (items.take index).map fun i => (i.position, i.ordinal) then
        .error (invalidMapItemJournal "duplicate runtime map item position and ordinal")
      else if maxRuntimeMapItemChildren < item.children.length then
        .error (invalidMapItemJournal "runtime map item children exceed the supported bound")
      else if ∃ child ∈ item.children, child.serverId = 0 ∨ child.count = 0 then
        .error (invalidMapItemJournal
          "runtime map item children need a nonzero server id and count")
      else .ok ()

def replaceRuntimeMapItems (mapRevision : ℕ) (items : List RuntimeMapItemRecord) :
    Except PersistenceError EngineDatabase := do
  validateRuntimeMapItemRecords items
  .ok { self with runtimeMapItems := items.map fun item => (mapRevision, item) }

def replacePlayerInventoryAndMapItemRemovalJournal (equipment : PlayerEquipment)
    (containers : PlayerContainers) (journal : MapItemRemovalJournal) :
    Except PersistenceError EngineDatabase := do
  self.ensurePlayerExists playerId
  validateRemovals "every item must use the journal map revision"
    "duplicate source item identity" journal
  let self ← self.writeInventory playerId equipment containers
  .ok { self with mapItemRemovalJournal := journal.removedItems }

def replacePlayerInventoryAndRuntimeMapItems (equipment : PlayerEquipment)
    (containers : PlayerContainers) (mapRevision : ℕ) (runtimeItems : List RuntimeMapItemRecord) :
    Except PersistenceError EngineDatabase := do
  self.ensurePlayerExists playerId
  validateRuntimeMapItemRecords runtimeItems
  let self ← self.writeInventory playerId equipment containers
  .ok { self with runtimeMapItems := runtimeItems.map fun item => (mapRevision, item) }

def replacePlayerInventoryAndMapItemState (equipment : PlayerEquipment)
    (containers : PlayerContainers) (journal : MapItemRemovalJournal)
    (overrides : List MapItemCountOverrideRecord) : Except PersistenceError EngineDatabase := do
  self.ensurePlayerExists playerId
  validateRemovals "every removed item must use the journal map revision"
    "duplicate removed source item identity" journal
  validateOverrides journal overrides
  let self ← self.writeInventory playerId equipment containers
  .ok { self with
    mapItemRemovalJournal := journal.removedItems
    mapItemCountOverrides := overrides }

/-! ### Loading an inventory -/

/-- One equipment record: its slot and its item. -/
def equipmentEntry (row : EquipmentRow) : Except PersistenceError (EquipmentSlot × ItemInstance) := do
  let slotCode ← orFail (invalidEquipmentRecord (.text "slot does not fit an unsigned byte"))
    (u8Of row.slot)
  let slot ← orFail (invalidEquipmentRecord (.text s!"unknown equipment slot {slotCode}"))
    (EquipmentSlot.fromCode slotCode)
  let item ← itemFromRow invalidEquipmentRecord row.serverId row.count row.actionId row.uniqueId
  .ok (slot, item)

def loadPlayerEquipment : Except PersistenceError PlayerEquipment := do
  self.ensurePlayerExists playerId
  let records := Table.orderBy EquipmentRow.slot
    (self.playerEquipment.rows.filter (·.playerId == playerId))
  records.foldlM (fun equipment row => do
    let (slot, item) ← equipmentEntry row
    .ok (equipment.equip slot item).2) PlayerEquipment.empty

/-- Insert the contents of an item, row by row. -/
def loadContents (item : ItemInstance) (rows : List ContainerItemRow) :
    Except PersistenceError ItemInstance :=
  rows.foldlM (fun item row => do
    let child ← itemFromRow invalidContainerRecord row.serverId row.count row.actionId row.uniqueId
    wrapCore invalidContainerRecord (item.insertContent child)) item

/-- The rows of one container below one parent slot, or at the top, in slot order. -/
def itemRowsOf (containerId : ℕ) (parentSlot : Option ℕ) : List ContainerItemRow :=
  Table.orderBy ContainerItemRow.slot (self.playerContainerItems.rows.filter fun row =>
    row.playerId == playerId && row.containerId == containerId &&
      row.parentSlot == parentSlot.map Int.ofNat)

/-- One top-level item with its contents; slots must be contiguous. -/
def loadItem (containerId : ℕ) (row : ContainerItemRow) (expectedSlot : ℕ) :
    Except PersistenceError ItemInstance := do
  let slot ← orFail (invalidContainerRecord (.text "item slot does not fit usize"))
    (usizeOf row.slot)
  if slot ≠ expectedSlot then
    .error (invalidContainerRecord (.text "container item slots must be contiguous from zero"))
  else
    let item ← itemFromRow invalidContainerRecord row.serverId row.count row.actionId row.uniqueId
    if i64Max < slot then
      .error (invalidContainerRecord (.text "item slot does not fit i64"))
    else loadContents item (self.itemRowsOf playerId containerId (some slot))

/-- Insert the items of a container, row by row. -/
def loadItems (containerId : ℕ) (items : ItemContainer) (rows : List (ContainerItemRow × ℕ)) :
    Except PersistenceError ItemContainer :=
  rows.foldlM (fun items row => do
    let item ← self.loadItem playerId containerId row.1 row.2
    wrapCore invalidContainerRecord (items.insert item)) items

def parentFlag : ℤ → Except PersistenceError Bool
  | 0 => .ok false
  | 1 => .ok true
  | _ => .error (invalidContainerRecord (.text "parent flag must be zero or one"))

def loadContainer (row : ContainerRow) : Except PersistenceError PlayerContainer := do
  let containerId ← orFail
    (invalidContainerRecord (.text "container ID does not fit an unsigned byte"))
    (u8Of row.containerId)
  let hasParent ← parentFlag row.hasParent
  let capacity ← orFail (invalidContainerRecord (.text "capacity does not fit u16"))
    (u16Of row.capacity)
  let containerItem ← containerItemFromRecord row.serverId row.count
  let container ← wrapCore invalidContainerRecord
    (PlayerContainer.new containerId containerItem row.name hasParent capacity)
  let items ← self.loadItems playerId containerId container.items
    (self.itemRowsOf playerId containerId none).zipIdx
  .ok { container with items }

def loadPlayerContainers : Except PersistenceError PlayerContainers := do
  self.ensurePlayerExists playerId
  let records := Table.orderBy ContainerRow.containerId
    (self.playerContainers.rows.filter (·.playerId == playerId))
  records.foldlM (fun containers row => do
    let container ← self.loadContainer playerId row
    let (_, containers) ← wrapCore invalidContainerRecord (containers.insert container)
    .ok containers) PlayerContainers.empty

/-! ### Loading the map state -/

/-- The revision all rows carry; `none` for an empty table. -/
def oneRevision (message : String) : List ℕ → Except PersistenceError (Option ℕ)
  | [] => .ok none
  | revision :: rest =>
    if ∀ other ∈ rest, other = revision then .ok (some revision)
    else .error (invalidMapItemJournal message)

/-- `ORDER BY map_revision, x, y, z, item_index`. -/
def identityRank (a b : WorldMapItemSourceIdentity) : Prop :=
  ((compare a.mapRevision b.mapRevision).then
    ((compare a.position b.position).then (compare a.itemIndex b.itemIndex))).isLE

instance : DecidableRel identityRank := fun _ _ => inferInstanceAs (Decidable (_ = true))

/-- `ORDER BY x, y, z, ordinal`. -/
def runtimeRank (a b : RuntimeMapItemRecord) : Prop :=
  ((compare a.position b.position).then (compare a.ordinal b.ordinal)).isLE

instance : DecidableRel runtimeRank := fun _ _ => inferInstanceAs (Decidable (_ = true))

def loadMapItemRemovalJournal : Except PersistenceError (Option MapItemRemovalJournal) := do
  let items := self.mapItemRemovalJournal.insertionSort identityRank
  let revision ← oneRevision "journal contains multiple map revisions"
    (items.map WorldMapItemSourceIdentity.mapRevision)
  .ok (revision.map fun mapRevision => ⟨mapRevision, items⟩)

def loadMapItemCountOverrides :
    Except PersistenceError (Option (ℕ × List MapItemCountOverrideRecord)) := do
  let overrides := self.mapItemCountOverrides.insertionSort fun a b =>
    identityRank a.sourceIdentity b.sourceIdentity
  let revision ← oneRevision "count overrides contain multiple map revisions"
    (overrides.map (·.sourceIdentity.mapRevision))
  if ∃ override ∈ overrides,
      ¬(1 ≤ override.remainingCount ∧ override.remainingCount ≤ maxItemStackCount) then
    .error (invalidMapItemJournal
      "count override remaining count must stay within the bounded stack range")
  else .ok (revision.map fun mapRevision => (mapRevision, overrides))

def loadRuntimeMapItems :
    Except PersistenceError (Option (ℕ × List RuntimeMapItemRecord)) := do
  let rows := self.runtimeMapItems.insertionSort fun a b => runtimeRank a.2 b.2
  let items := rows.map Prod.snd
  let revision ← oneRevision "runtime map items contain multiple map revisions"
    (rows.map Prod.fst)
  if ∃ item ∈ items, item.serverId = 0 then
    .error (invalidMapItemJournal "runtime map item server id must be nonzero")
  else if ∃ item ∈ items, item.count = 0 then
    .error (invalidMapItemJournal "runtime map item count must be positive")
  else if maxRuntimeMapItems < items.length then
    .error (invalidMapItemJournal "runtime map-item registry exceeds the supported bound")
  else if ∃ item ∈ items, maxRuntimeMapItemChildren < item.children.length then
    .error (invalidMapItemJournal "runtime map item children exceed the supported bound")
  else .ok (revision.map fun mapRevision => (mapRevision, items))

end EngineDatabase

end ForgottenEngine
