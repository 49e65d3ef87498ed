import ForgottenEngine.ShopServices
import ForgottenEngine.ClientActions

/-!
# Thrown items

A player drags a stack of items from one place to another: from a tile, a slot, a window or the
window of a corpse, to a tile, a slot or a window.  The addresses of the request decide which
handler takes it; a handler without use for it hands it on.

`applyNativeThrowItem` tries the handlers in their order.  What they ask the map is done there under
its locks.  What goes on inside the inventory is done on the published world first and saved
afterwards; only a stack that goes to an empty slot is saved first.
-/

namespace ForgottenEngine

open Fallible

/-! ### Addresses -/

/-- The request of the client. -/
structure ThrowItemRequest where
  sourcePosition : NativeOtClientPosition
  sourceClientThingId : UInt16
  sourceStackPosition : UInt8
  targetPosition : NativeOtClientPosition
  count : UInt8
deriving DecidableEq, Repr

/-- Each side is a slot, a window, or neither: a tile. -/
structure ThrowItemAddresses where
  sourceSlot : Option EquipmentSlot
  sourceContainer : Option (ℕ × ℕ)
  targetSlot : Option EquipmentSlot
  targetContainerId : Option ℕ
deriving DecidableEq, Repr

/-- The slot that a position outside the map stands for. -/
def NativeOtClientPosition.slot (self : NativeOtClientPosition) : Option EquipmentSlot :=
  if self.x = 0xffff ∧ self.y &&& 0x40 = 0 ∧ self.z = 0 then
    EquipmentSlot.fromCode self.y.toUInt8.toNat
  else none

/-- The window that a position outside the map stands for. -/
def NativeOtClientPosition.containerId (self : NativeOtClientPosition) : Option ℕ :=
  if self.x = 0xffff ∧ self.y &&& 0x40 ≠ 0 then some (self.y &&& 0x0f).toNat else none

def NativeOtClientPosition.toPosition (self : NativeOtClientPosition) : Position :=
  ⟨self.x.toNat, self.y.toNat, self.z.toNat⟩

def decodeThrowItemAddresses (sourcePosition : NativeOtClientPosition) (sourceStackPosition : UInt8)
    (targetPosition : NativeOtClientPosition) : ThrowItemAddresses where
  sourceSlot := if sourceStackPosition = 0 then sourcePosition.slot else none
  sourceContainer := sourcePosition.containerId.map fun id => (id, sourcePosition.z.toNat)
  targetSlot := targetPosition.slot
  targetContainerId := targetPosition.containerId

namespace ThrowItemRequest

def addresses (self : ThrowItemRequest) : ThrowItemAddresses :=
  decodeThrowItemAddresses self.sourcePosition self.sourceStackPosition self.targetPosition

def units (self : ThrowItemRequest) : ℕ := self.count.toNat

def stackIndex (self : ThrowItemRequest) : ℕ := self.sourceStackPosition.toNat

end ThrowItemRequest

/-! ### What the items are called -/

/-- The server id behind a client id, when there is just one. -/
def NativeItemPresentationCatalog.uniqueServerIdForClientThingId
    (self : NativeItemPresentationCatalog) (clientThingId : ℕ) : Option ℕ :=
  match self.entries.toList.filter fun entry => entry.2.clientThingId = clientThingId with
  | [entry] => some entry.1
  | _ => none

/-- The client knows the item by this id. -/
def NativeItemPresentationCatalog.shows (self : NativeItemPresentationCatalog)
    (clientThingId serverId : ℕ) : Bool :=
  (self.presentation serverId).any fun entry => entry.clientThingId = clientThingId

inductive LegacyItemSlotType where
  | head | body | legs | feet | backpack | twoHanded | rightHand | leftHand | necklace | ring
  | ammo | hand
deriving DecidableEq, Repr

def LegacyItemSlotType.admits : LegacyItemSlotType → EquipmentSlot → Bool
  | .head, .head | .necklace, .neck | .backpack, .backpack | .body, .armor
  | .rightHand, .rightHand | .leftHand, .leftHand | .hand, .rightHand | .hand, .leftHand
  | .legs, .legs | .feet, .feet | .ring, .ring | .ammo, .ammo => true
  | _, _ => false

/-- Items without an entry go everywhere. -/
def nativeLegacySlotTypesAllowEquipmentSlot
    (slotTypesByServerId : Option (BTreeMap ℕ (List LegacyItemSlotType))) (serverId : ℕ)
    (targetSlot : EquipmentSlot) : Bool :=
  match slotTypesByServerId.bind (·[serverId]?) with
  | none => true
  | some slotTypes => slotTypes.any (·.admits targetSlot)

/-! ### Items on the map -/

structure PlayerItemUseIntent where
  playerId : ℕ
  position : Position
  stackIndex : ℕ
  expectedServerId : ℕ
deriving DecidableEq, Repr

def PlayerItemUseIntent.new (playerId : ℕ) (position : Position)
    (stackIndex expectedServerId : ℕ) : Except CoreError PlayerItemUseIntent :=
  if expectedServerId = 0 then .error .invalidItemUseIntent
  else .ok ⟨playerId, position, stackIndex, expectedServerId⟩

structure PlayerItemUseOutcome where
  playerId : ℕ
  position : Position
  stackIndex : ℕ
  serverId : ℕ
  count : ℕ
  actionId : Option ℕ
  uniqueId : Option ℕ
  hasText : Bool
  charges : Option ℕ
  teleportDestination : Option Position
deriving DecidableEq, Repr

def WorldState.validatePlayerItemUse (self : WorldState) (map : WorldMap)
    (intent : PlayerItemUseIntent) : Except CoreError PlayerItemUseOutcome :=
  if intent.expectedServerId = 0 then .error .invalidItemUseIntent
  else
    match self.players[intent.playerId]? with
    | none => .error (.unknownPlayer intent.playerId)
    | some player =>
      if player.position ≠ intent.position ∧ ¬player.position.isAdjacentTo intent.position then
        .error (.itemUseOutOfRange intent.playerId player.position intent.position)
      else if (map.tile intent.position).isNone then .error (.missingMapTile intent.position)
      else
        match ((map.tileItemsAt intent.position).bind (·[intent.stackIndex]?)).filter
            (·.serverId = intent.expectedServerId) with
        | none => .error
            (.unknownMapItem intent.position intent.stackIndex intent.expectedServerId)
        | some item => .ok {
            playerId := intent.playerId
            position := intent.position
            stackIndex := intent.stackIndex
            serverId := item.serverId
            count := item.count
            actionId := item.actionId
            uniqueId := item.uniqueId
            hasText := item.text.any (· ≠ "")
            charges := item.charges
            teleportDestination := item.teleportDestination }

def nativeMapItemUseIntent (catalog : Option NativeItemPresentationCatalog) (playerId : ℕ)
    (position : NativeOtClientPosition) (clientThingId stackPosition : ℕ) :
    Option PlayerItemUseIntent := do
  let serverId ← (← catalog).uniqueServerIdForClientThingId clientThingId
  (PlayerItemUseIntent.new playerId position.toPosition stackPosition serverId).toOption

/-! ### The session -/

/-- Whether a handler has used the request. -/
inductive SessionActionOutcome where
  | handled
  | unhandled
deriving DecidableEq, Repr

/-- What a session knows when it handles a throw: its character, its configuration and what the
client has open.  Two kinds of windows are views only, of the contents of an item and of a
corpse. -/
structure ThrowSession where
  characterId : ℕ
  itemPresentationCatalog : Option NativeItemPresentationCatalog
  itemWeightByServerId : Option (BTreeMap ℕ ℕ)
  itemSlotTypesByServerId : Option (BTreeMap ℕ (List LegacyItemSlotType))
  observedDead : Bool
  closedContainerIds : BTreeSet ℕ
  openContentWindows : BTreeMap ℕ (ℕ × ℕ)
  openCorpseWindows : BTreeMap ℕ (Position × ℕ)

namespace ThrowSession

/-- Where in the inventory a stack for the ground comes from. -/
def dropSource (self : ThrowSession) (addresses : ThrowItemAddresses) :
    Option PlayerGroundDropSource :=
  if self.observedDead then none
  else
    match addresses.sourceSlot, addresses.sourceContainer with
    | some slot, _ => some (.equipmentSlot slot)
    | none, some (containerId, itemIndex) =>
      if containerId ∈ self.closedContainerIds then none
      else
        match self.openContentWindows[containerId]? with
        | some (parentContainerId, parentItemIndex) =>
          some (.containerContent parentContainerId parentItemIndex itemIndex)
        | none => some (.containerItem containerId itemIndex)
    | none, none => none

/-- Where in the inventory a stack from the ground goes. -/
def intake (self : ThrowSession) (addresses : ThrowItemAddresses) : Option PlayerGroundDropSource :=
  match addresses.targetSlot, addresses.targetContainerId with
  | some slot, _ => some (.equipmentSlot slot)
  | none, some containerId =>
    if containerId ∈ self.closedContainerIds then none else some (.containerItem containerId 0)
  | none, none => none

end ThrowSession

namespace Host

open Procedure (atomic)

/-- An operation that only reports to the log why it does nothing.  A failing save is passed on. -/
def noted {α : Type} (m : HostM α) : HostM Unit := fun s =>
  match m s with
  | (.ok _, t) => (.ok (), t)
  | (.error (.failed (.persistence error)), t) => (.error (.failed (.persistence error)), t)
  | (.error _, t) => (.ok (), t)

/-- The gate in front of everything that comes from the ground. -/
def refuseOverweightIntake (session : ThrowSession) (incoming : List (ℕ × ℕ)) : Handler Bool :=
  Option.isSome <$> checkNativeCarryCapacity session.characterId incoming
    session.itemWeightByServerId

/-- Save the inventory as it is published by now. -/
def saveInventory (playerId : ℕ) : Handler Unit := do
  let nextEquipment ← atomic (playerEquipment playerId)
  let nextContainers ← atomic (playerContainers playerId)
  atomic (persist (·.replacePlayerInventory playerId nextEquipment nextContainers))

/-- Move something inside the inventory, and save both halves of it. -/
def transferAndSave (playerId : ℕ) (transfer : InventoryTransfer) :
    Handler SessionActionOutcome := do
  let _ ← atomic (onWorld (transfer.perform playerId))
  saveInventory playerId
  return .handled

/-- The first handler with use for the request. -/
def firstHandled : List (Handler SessionActionOutcome) → Handler SessionActionOutcome
  | [] => return .unhandled
  | handler :: handlers => do
    match ← handler with
    | .handled => return .handled
    | .unhandled => firstHandled handlers

section Handlers

variable (session : ThrowSession) (catalog : NativeItemPresentationCatalog)
  (request : ThrowItemRequest)

/-! ### To and from the ground -/

/-- The stack that is addressed, as far as there is one. -/
def addressedStack (playerId : ℕ) : PlayerGroundDropSource → HostM (Option ItemInstance)
  | .equipmentSlot slot => read fun s => (s.world.playerEquipments[playerId]?).bind (·.item slot)
  | .containerItem containerId itemIndex => read fun s =>
    ((s.world.playerContainers[playerId]?).bind (·.container containerId)).bind
      (·.items.item itemIndex)
  | .containerContent containerId itemIndex contentIndex => read fun s =>
    (((s.world.playerContainers[playerId]?).bind (·.container containerId)).bind
      (·.items.item itemIndex)).bind (·.contents[contentIndex]?)

def applyNativeThrowItemGroundDrop : Handler SessionActionOutcome :=
  if request.targetPosition.x = 0xffff then return .unhandled
  else
    match session.dropSource request.addresses with
    | none => return .handled
    | some source => do
      let item ← atomic (addressedStack session.characterId source)
      if ¬item.any (catalog.shows request.sourceClientThingId.toNat ·.serverId) then
        return .handled
      else
        atomic (noted (movePlayerStackToGround session.characterId source
          request.targetPosition.toPosition request.units session.itemWeightByServerId))
        return .handled

def applyNativeThrowItemRuntimePickup : Handler SessionActionOutcome :=
  if request.sourcePosition.x = 0xffff then return .unhandled
  else do
    let position := request.sourcePosition.toPosition
    let runtimePickup ← atomic (read fun s => s.map.runtimeTileItem position request.stackIndex)
    match if session.observedDead then none else runtimePickup with
    | none => return .unhandled
    | some runtimeItem =>
      -- the client may name the item by its server id, too
      if request.sourceClientThingId.toNat ≠ runtimeItem.serverId ∧
          ¬catalog.shows request.sourceClientThingId.toNat runtimeItem.serverId then
        return .handled
      else if ← refuseOverweightIntake session [(runtimeItem.serverId, request.units)] then
        return .handled
      else
        match session.intake request.addresses with
        | none => return .handled
        | some destination =>
          atomic (noted (moveRuntimeItemToInventory session.characterId position
            request.stackIndex none request.units destination session.itemWeightByServerId))
          return .handled

def applyNativeThrowItemMapSource : Handler SessionActionOutcome :=
  if request.sourcePosition.x = 0xffff then return .unhandled
  else
    match nativeMapItemUseIntent (some catalog) session.characterId request.sourcePosition
        request.sourceClientThingId.toNat request.stackIndex with
    | none => return .handled
    | some intent => do
      let position := request.sourcePosition.toPosition
      let mapSnapshot ← atomic (read fun s => s.map.map)
      match ← atomic (read fun s => s.world.validatePlayerItemUse mapSnapshot intent) with
      | .error _ => return .handled
      | .ok source =>
        if ← refuseOverweightIntake session [(source.serverId, request.units)] then
          return .handled
        else
          match request.addresses.targetContainerId, request.addresses.targetSlot with
          | some containerId, _ =>
            if containerId ∈ session.closedContainerIds then return .handled
            else
              atomic (noted (moveSourceItemStackToTopLevelContainer session.characterId position
                request.stackIndex request.units containerId))
              return .handled
          | none, some targetSlot =>
            if ¬nativeLegacySlotTypesAllowEquipmentSlot session.itemSlotTypesByServerId
                source.serverId targetSlot then
              return .handled
            else
              atomic (noted (moveSourceItemStackToEquipment session.characterId position
                request.stackIndex request.units targetSlot))
              return .handled
          | none, none => return .handled

/-- The gate weighs what leaves the corpse, if it is there. -/
def refuseLoot (corpse : Option WorldMapItem) : Handler Bool :=
  match corpse.bind (·.children[request.stackIndex]?) with
  | none => return false
  | some loot => refuseOverweightIntake session [(loot.serverId, request.units)]

def applyNativeThrowItemCorpseTake (containerId : ℕ) : Handler SessionActionOutcome :=
  match session.openCorpseWindows[containerId]? with
  | none => return .unhandled
  | some (corpsePosition, corpseItemIndex) =>
    match if session.observedDead ∨ request.addresses.targetSlot = none ∧
        request.addresses.targetContainerId = some containerId then none
      else session.intake request.addresses with
    | none => return .handled
    | some destination => do
      let corpse ← atomic (read fun s => s.map.runtimeTileItem corpsePosition corpseItemIndex)
      if ← refuseLoot session request corpse then return .handled
      else
        atomic (noted (moveRuntimeItemToInventory session.characterId corpsePosition
          corpseItemIndex (some request.stackIndex) request.units destination
          session.itemWeightByServerId))
        return .handled

/-! ### Inside the inventory -/

/-- The stack is large enough, and the one the client means. -/
def isRequested (item : ItemInstance) : Bool :=
  request.units ≤ item.count ∧ catalog.shows request.sourceClientThingId.toNat item.serverId

def applyNativeThrowItemContainerToContainer (containerId itemIndex : ℕ) :
    Handler SessionActionOutcome :=
  match request.addresses.targetContainerId with
  | none => return .unhandled
  | some targetContainerId =>
    match session.openContentWindows[containerId]? with
    | some (parentContainerId, parentItemIndex) =>
      transferAndSave session.characterId
        (.contentItemToContainer parentContainerId parentItemIndex itemIndex targetContainerId)
    | none => do
      let containers ← atomic (playerContainers session.characterId)
      match containers.container containerId, containers.container targetContainerId with
      | some sourceContainer, some targetContainer =>
        if containerId ∈ session.closedContainerIds ∨
            targetContainerId ∈ session.closedContainerIds ∨ containerId = targetContainerId ∨
            sourceContainer.hasParent ∨ targetContainer.hasParent then
          return .handled
        else if ¬(sourceContainer.items.item itemIndex).any (isRequested catalog request) then
          return .handled
        else
          let _ ← atomic (onWorld (InventoryTransfer.perform session.characterId
            (.containerStackToContainer containerId itemIndex targetContainerId request.units)))
          let nextContainers ← atomic (playerContainers session.characterId)
          atomic (persist (·.replacePlayerContainers session.characterId nextContainers))
          return .handled
      | _, _ => return .handled

/-- What a stack from a window does in a slot: it is merged with the same item, exchanged for
another one, or goes where there is nothing. -/
def containerToEquipment (equipment : PlayerEquipment) (item : ItemInstance)
    (containerId itemIndex : ℕ) (targetSlot : EquipmentSlot) : Handler SessionActionOutcome :=
  match equipment.item targetSlot with
  | some destination =>
    if destination.serverId = item.serverId then
      transferAndSave session.characterId
        (.containerStackToEquipment containerId itemIndex targetSlot request.units)
    else if request.units = item.count then
      transferAndSave session.characterId
        (.swapContainerItemWithEquipment containerId itemIndex targetSlot)
    else return .handled
  | none =>
    if request.units < item.count then
      transferAndSave session.characterId
        (.containerStackToEquipment containerId itemIndex targetSlot request.units)
    else if ¬nativeLegacySlotTypesAllowEquipmentSlot session.itemSlotTypesByServerId item.serverId
        targetSlot then
      return .handled
    else
      transferAndSave session.characterId
        (.containerItemToEquipment containerId itemIndex targetSlot)

def applyNativeThrowItemContainerToEquipment (containerId itemIndex : ℕ) :
    Handler SessionActionOutcome :=
  match request.addresses.targetSlot with
  | none => return .handled
  | some targetSlot =>
    match session.openContentWindows[containerId]? with
    | some (parentContainerId, parentItemIndex) =>
      transferAndSave session.characterId
        (.contentItemToEquipment parentContainerId parentItemIndex itemIndex targetSlot)
    | none => do
      let equipment ← atomic (playerEquipment session.characterId)
      let containers ← atomic (playerContainers session.characterId)
      match containers.container containerId with
      | none => return .handled
      | some container =>
        if container.hasParent then return .handled
        else
          match (container.items.item itemIndex).filter (isRequested catalog request) with
          | none => return .handled
          | some item =>
            containerToEquipment session request equipment item containerId itemIndex targetSlot

/-- Between two slots.  An empty one is filled by what was read before: the copy of the slots is
saved, and published afterwards. -/
def equipmentToEquipment (equipment : PlayerEquipment) (item : ItemInstance)
    (sourceSlot targetSlot : EquipmentSlot) : Handler SessionActionOutcome :=
  if sourceSlot = targetSlot then return .handled
  else if (equipment.item targetSlot).isSome then
    if request.units ≠ item.count then return .handled
    else do
      let _ ← atomic (onWorld (InventoryTransfer.perform session.characterId
        (.swapEquipmentItems sourceSlot targetSlot)))
      let nextEquipment ← atomic (playerEquipment session.characterId)
      atomic (persist (·.replacePlayerEquipment session.characterId nextEquipment))
      return .handled
  else do
    let nextEquipment := ((equipment.without sourceSlot).equip targetSlot item).2
    atomic (persist (·.replacePlayerEquipment session.characterId nextEquipment))
    let _ ← atomic (onWorld (World.replacePlayerEquipment session.characterId nextEquipment))
    return .handled

/-- From a slot into a window: onto the same item at the index that is named, or as a whole. -/
def equipmentToContainer (item : ItemInstance) (sourceSlot : EquipmentSlot) (containerId : ℕ) :
    Handler SessionActionOutcome := do
  let containers ← atomic (playerContainers session.characterId)
  match containers.container containerId with
  | none => return .handled
  | some container =>
    if container.hasParent then return .handled
    else
      match container.items.item request.targetPosition.z.toNat with
      | some destination =>
        if destination.serverId = item.serverId then
          transferAndSave session.characterId
            (.equipmentStackToContainer sourceSlot containerId request.units)
        else return .handled
      | none =>
        if request.units < item.count then return .handled
        else
          transferAndSave session.characterId (.equipmentItemToContainer sourceSlot containerId)

def applyNativeThrowItemEquipmentSource : Handler SessionActionOutcome :=
  match request.addresses.sourceSlot with
  | none => return .handled
  | some sourceSlot => do
    let equipment ← atomic (playerEquipment session.characterId)
    match (equipment.item sourceSlot).filter (isRequested catalog request) with
    | none => return .handled
    | some item =>
      match request.addresses.targetSlot, request.addresses.targetContainerId with
      | some targetSlot, none =>
        equipmentToEquipment session request equipment item sourceSlot targetSlot
      | none, some containerId => equipmentToContainer session request item sourceSlot containerId
      | _, _ => return .handled

end Handlers

/-! ### The order of the handlers -/

def throwHandlers (session : ThrowSession) (catalog : NativeItemPresentationCatalog)
    (request : ThrowItemRequest) : List (Handler SessionActionOutcome) :=
  [applyNativeThrowItemGroundDrop session catalog request] ++
  (if request.sourcePosition.x ≠ 0xffff then
    [applyNativeThrowItemRuntimePickup session catalog request,
      applyNativeThrowItemMapSource session catalog request]
  else []) ++
  (match request.addresses.sourceContainer with
  | some (containerId, itemIndex) =>
    [applyNativeThrowItemCorpseTake session request containerId,
      applyNativeThrowItemContainerToContainer session catalog request containerId itemIndex,
      applyNativeThrowItemContainerToEquipment session catalog request containerId itemIndex]
  | none => []) ++
  [applyNativeThrowItemEquipmentSource session catalog request]

def applyNativeThrowItem (session : ThrowSession) (request : ThrowItemRequest) :
    Handler SessionActionOutcome :=
  match session.itemPresentationCatalog with
  | none => return .handled
  | some catalog =>
    if request.count = 0 then return .handled
    else firstHandled (throwHandlers session catalog request)

/-- The turn of a session in which it handles a throw; it goes on whatever came of it. -/
def throwItem (session : ThrowSession) (request : ThrowItemRequest) : Handler Unit := do
  let _ ← applyNativeThrowItem session request
  return ()

/-- The turn of the heartbeat in which it removes what has decayed. -/
def expireItems (nowTick : ℕ) : Handler Unit := do
  let _ ← atomic (removeExpiredRuntimeItems nowTick)
  return ()

end Host

end ForgottenEngine
