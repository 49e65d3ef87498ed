import ForgottenEngine.World

/-!
# Inventory transfers

The twelve transfer methods of the world state, as the source writes them: read the two
inventories of the player into local copies, check and change the copies, and store them at the
end.

The remainder of a split stack stays at its place only when it is not empty.  `keepRest` is that
tail, once for an equipment slot and once for a container position.
-/

namespace ForgottenEngine

/-! ### Outcomes -/

structure PlayerEquipmentToContainerOutcome where
  playerId : ℕ
  fromSlot : EquipmentSlot
  containerId : ℕ
  item : ItemInstance

structure PlayerContainerToEquipmentOutcome where
  playerId : ℕ
  containerId : ℕ
  itemIndex : ℕ
  toSlot : EquipmentSlot
  item : ItemInstance

structure PlayerContainerToEquipmentSwapOutcome where
  playerId : ℕ
  containerId : ℕ
  itemIndex : ℕ
  toSlot : EquipmentSlot
  equippedItem : ItemInstance
  containerItem : ItemInstance

structure PlayerEquipmentSlotSwapOutcome where
  playerId : ℕ
  fromSlot : EquipmentSlot
  toSlot : EquipmentSlot
  fromItem : ItemInstance
  toItem : ItemInstance

structure PlayerEquipmentStackToContainerOutcome where
  playerId : ℕ
  fromSlot : EquipmentSlot
  containerId : ℕ
  destinationIndex : ℕ
  movedItem : ItemInstance
  sourceRemainingCount : Option ℕ
  destinationCount : ℕ

structure PlayerContainerStackToEquipmentOutcome where
  playerId : ℕ
  containerId : ℕ
  itemIndex : ℕ
  toSlot : EquipmentSlot
  movedItem : ItemInstance
  sourceRemainingCount : Option ℕ
  destinationCount : ℕ

structure PlayerContainerStackToContainerOutcome where
  playerId : ℕ
  fromContainerId : ℕ
  itemIndex : ℕ
  toContainerId : ℕ
  destinationIndex : ℕ
  movedItem : ItemInstance
  sourceRemainingCount : Option ℕ
  destinationCount : ℕ

/-- Where a stack dropped onto the ground comes from. -/
inductive PlayerGroundDropSource where
  | equipmentSlot (slot : EquipmentSlot)
  | containerItem (containerId itemIndex : ℕ)
  | containerContent (containerId itemIndex contentIndex : ℕ)
deriving DecidableEq

structure PlayerGroundDropOutcome where
  playerId : ℕ
  source : PlayerGroundDropSource
  movedItem : ItemInstance
  sourceRemainingCount : Option ℕ

/-! ### What stays of a split stack -/

/-- `(stack.count > 0).then_some(stack.count)`. -/
def ItemInstance.remainingCount (rest : ItemInstance) : Option ℕ :=
  if 0 < rest.count then some rest.count else none

/-- Put what stays of a split stack back into its slot. -/
def PlayerEquipment.keepRest (self : PlayerEquipment) (slot : EquipmentSlot) (rest : ItemInstance) :
    PlayerEquipment :=
  if rest.remainingCount.isSome then (self.equip slot rest).2 else self

/-- Put what stays of a split stack back at its position. -/
def ItemContainer.keepRest (self : ItemContainer) (index : ℕ) (rest : ItemInstance) :
    ItemContainer :=
  if rest.remainingCount.isSome then self.insertAt index rest else self

/-- An empty slot takes the moved stack; an occupied one must merge it. -/
def PlayerEquipment.placeStack (self : PlayerEquipment) (slot : EquipmentSlot)
    (moved : ItemInstance) : Except CoreError (ℕ × PlayerEquipment) :=
  match self.item slot with
  | some destination => do
    let destination ← destination.mergeStack moved
    .ok (destination.count, (self.equip slot destination).2)
  | none => .ok (moved.count, (self.equip slot moved).2)

namespace World

open Fallible

/-! ### Whole items -/

def moveEquipmentItemToContainer (playerId : ℕ) (fromSlot : EquipmentSlot) (containerId : ℕ) :
    WorldM PlayerEquipmentToContainerOutcome := do
  let equipment ← playerEquipment playerId
  let containers ← playerContainers playerId
  let (item, equipment) ← ofOption (equipment.unequip fromSlot)
    (.emptyEquipmentSlot playerId fromSlot)
  let (container, containers) ← ofOption (containers.remove containerId)
    (.unknownPlayerContainer playerId containerId)
  let items ← ofExcept (container.items.insert item)
  let (_, containers) ← ofExcept (containers.insert { container with items })
  storeEquipment playerId equipment
  storeContainers playerId containers
  markChanged
  return ⟨playerId, fromSlot, containerId, item⟩

def moveContainerItemToEquipment (playerId containerId itemIndex : ℕ) (toSlot : EquipmentSlot) :
    WorldM PlayerContainerToEquipmentOutcome := do
  let equipment ← playerEquipment playerId
  if (equipment.item toSlot).isSome then
    fail (.occupiedEquipmentSlot playerId toSlot)
  else
    let containers ← playerContainers playerId
    let (container, containers) ← ofOption (containers.remove containerId)
      (.unknownPlayerContainer playerId containerId)
    let (item, items) ← ofOption (container.items.remove itemIndex)
      (.unknownPlayerContainerItem playerId containerId itemIndex)
    let (_, equipment) := equipment.equip toSlot item
    let (_, containers) ← ofExcept (containers.insert { container with items })
    storeEquipment playerId equipment
    storeContainers playerId containers
    markChanged
    return ⟨playerId, containerId, itemIndex, toSlot, item⟩

def moveContentItemToEquipment (playerId containerId itemIndex contentIndex : ℕ)
    (toSlot : EquipmentSlot) : WorldM PlayerContainerToEquipmentOutcome := do
  let equipment ← playerEquipment playerId
  if (equipment.item toSlot).isSome then
    fail (.occupiedEquipmentSlot playerId toSlot)
  else
    let containers ← playerContainers playerId
    let (container, containers) ← ofOption (containers.remove containerId)
      (.unknownPlayerContainer playerId containerId)
    let (item, items) ← ofOption (container.items.takeContent itemIndex contentIndex)
      (.unknownPlayerContainerItem playerId containerId itemIndex)
    let (_, equipment) := equipment.equip toSlot item
    let (_, containers) ← ofExcept (containers.insert { container with items })
    storeEquipment playerId equipment
    storeContainers playerId containers
    markChanged
    return ⟨playerId, containerId, itemIndex, toSlot, item⟩

/-- A nested target stores the containers before it refuses, without the content item. -/
def moveContentItemToContainer (playerId containerId itemIndex contentIndex toContainerId : ℕ) :
    WorldM Unit := do
  let containers ← playerContainers playerId
  let (source, containers) ← ofOption (containers.remove containerId)
    (.unknownPlayerContainer playerId containerId)
  let (moved, items) ← ofOption (source.items.takeContent itemIndex contentIndex)
    (.unknownPlayerContainerItem playerId containerId itemIndex)
  let (_, containers) ← ofExcept (containers.insert { source with items })
  let (target, containers) ← ofOption (containers.remove toContainerId)
    (.unknownPlayerContainer playerId toContainerId)
  if target.hasParent then
    let (_, containers) ← ofExcept (containers.insert target)
    storeContainers playerId containers
    fail (.unknownPlayerContainer playerId toContainerId)
  else
    let (_, items) ← ofExcept (target.items.mergeOrInsertStack moved)
    let (_, containers) ← ofExcept (containers.insert { target with items })
    storeContainers playerId containers
    markChanged

def swapContainerItemWithEquipment (playerId containerId itemIndex : ℕ) (toSlot : EquipmentSlot) :
    WorldM PlayerContainerToEquipmentSwapOutcome := do
  let equipment ← playerEquipment playerId
  let (equippedItem, equipment) ← ofOption (equipment.unequip toSlot)
    (.emptyEquipmentSlot playerId toSlot)
  let containers ← playerContainers playerId
  let (container, containers) ← ofOption (containers.remove containerId)
    (.unknownPlayerContainer playerId containerId)
  let (containerItem, items) ← ofOption (container.items.remove itemIndex)
    (.unknownPlayerContainerItem playerId containerId itemIndex)
  let (_, equipment) := equipment.equip toSlot containerItem
  let items := items.insertAt itemIndex equippedItem
  let (_, containers) ← ofExcept (containers.insert { container with items })
  storeEquipment playerId equipment
  storeContainers playerId containers
  markChanged
  return ⟨playerId, containerId, itemIndex, toSlot, equippedItem, containerItem⟩

def swapEquipmentItems (playerId : ℕ) (fromSlot toSlot : EquipmentSlot) :
    WorldM PlayerEquipmentSlotSwapOutcome := do
  if fromSlot = toSlot then
    fail (.sameEquipmentSlotTransfer playerId fromSlot)
  else
    let equipment ← playerEquipment playerId
    let (fromItem, equipment) ← ofOption (equipment.unequip fromSlot)
      (.emptyEquipmentSlot playerId fromSlot)
    let (toItem, equipment) ← ofOption (equipment.unequip toSlot)
      (.emptyEquipmentSlot playerId toSlot)
    let (_, equipment) := equipment.equip fromSlot toItem
    let (_, equipment) := equipment.equip toSlot fromItem
    storeEquipment playerId equipment
    markChanged
    return ⟨playerId, fromSlot, toSlot, fromItem, toItem⟩

/-! ### Single units -/

/-- Use up one unit of an equipped stack; `false` when the slot is empty. -/
def consumePlayerEquipmentItemUnit (playerId : ℕ) (slot : EquipmentSlot) : WorldM Bool := do
  let equipment ← playerEquipment playerId
  match equipment.item slot with
  | none => return false
  | some item =>
    let equipment :=
      if 1 < item.count then (equipment.equip slot { item with count := item.count - 1 }).2
      else equipment.without slot
    storeEquipment playerId equipment
    markChanged
    return true

/-- Use up one unit of a stack in a container; `false` when the index does not resolve. -/
def consumePlayerContainerItemUnit (playerId containerId itemIndex : ℕ) : WorldM Bool := do
  let containers ← playerContainers playerId
  let (container, containers) ← ofOption (containers.remove containerId)
    (.unknownPlayerContainer playerId containerId)
  match container.items.consumeItemUnit itemIndex with
  | none => return false
  | some items =>
    let (_, containers) ← ofExcept (containers.insert { container with items })
    storeContainers playerId containers
    markChanged
    return true

/-! ### Stacks -/

def moveEquipmentStackToContainer (playerId : ℕ) (fromSlot : EquipmentSlot)
    (containerId count : ℕ) : WorldM PlayerEquipmentStackToContainerOutcome := do
  let equipment ← playerEquipment playerId
  let (source, equipment) ← ofOption (equipment.unequip fromSlot)
    (.emptyEquipmentSlot playerId fromSlot)
  let (source, movedItem) ← ofExcept (source.splitOff count)
  let equipment := equipment.keepRest fromSlot source
  let containers ← playerContainers playerId
  let (container, containers) ← ofOption (containers.remove containerId)
    (.unknownPlayerContainer playerId containerId)
  let ((destinationIndex, destinationCount), items) ←
    ofExcept (container.items.mergeOrInsertStack movedItem)
  let (_, containers) ← ofExcept (containers.insert { container with items })
  storeEquipment playerId equipment
  storeContainers playerId containers
  markChanged
  return ⟨playerId, fromSlot, containerId, destinationIndex, movedItem, source.remainingCount,
    destinationCount⟩

def moveContainerStackToEquipment (playerId containerId itemIndex : ℕ) (toSlot : EquipmentSlot)
    (count : ℕ) : WorldM PlayerContainerStackToEquipmentOutcome := do
  let equipment ← playerEquipment playerId
  let containers ← playerContainers playerId
  let (container, containers) ← ofOption (containers.remove containerId)
    (.unknownPlayerContainer playerId containerId)
  let (source, items) ← ofOption (container.items.remove itemIndex)
    (.unknownPlayerContainerItem playerId containerId itemIndex)
  let (remaining, movedItem) ← ofExcept (source.splitOff count)
  let (destinationCount, equipment) ← ofExcept (equipment.placeStack toSlot movedItem)
  let items := items.keepRest itemIndex remaining
  let (_, containers) ← ofExcept (containers.insert { container with items })
  storeEquipment playerId equipment
  storeContainers playerId containers
  markChanged
  return ⟨playerId, containerId, itemIndex, toSlot, movedItem, remaining.remainingCount,
    destinationCount⟩

def moveContainerStackToContainer (playerId fromContainerId itemIndex toContainerId count : ℕ) :
    WorldM PlayerContainerStackToContainerOutcome := do
  if fromContainerId = toContainerId then
    fail (.samePlayerContainerTransfer playerId fromContainerId)
  else
    let containers ← playerContainers playerId
    let (sourceContainer, containers) ← ofOption (containers.remove fromContainerId)
      (.unknownPlayerContainer playerId fromContainerId)
    let (destinationContainer, containers) ← ofOption (containers.remove toContainerId)
      (.unknownPlayerContainer playerId toContainerId)
    let (source, sourceItems) ← ofOption (sourceContainer.items.remove itemIndex)
      (.unknownPlayerContainerItem playerId fromContainerId itemIndex)
    let (remaining, movedItem) ← ofExcept (source.splitOff count)
    let ((destinationIndex, destinationCount), items) ←
      ofExcept (destinationContainer.items.mergeOrInsertStack movedItem)
    let sourceItems := sourceItems.keepRest itemIndex remaining
    let (_, containers) ← ofExcept (containers.insert { sourceContainer with items := sourceItems })
    let (_, containers) ← ofExcept (containers.insert { destinationContainer with items })
    storeContainers playerId containers
    markChanged
    return ⟨playerId, fromContainerId, itemIndex, toContainerId, destinationIndex, movedItem,
      remaining.remainingCount, destinationCount⟩

/-! ### Ground drops -/

/-- The local copies a ground drop works on: the moved stack, what remains at the source, and the
two inventories without the stack. -/
def prepareGroundDrop (playerId : ℕ) (source : PlayerGroundDropSource) (count : ℕ)
    (equipment : PlayerEquipment) (containers : PlayerContainers) :
    Except CoreError (ItemInstance × Option ℕ × PlayerEquipment × PlayerContainers) :=
  match source with
  | .equipmentSlot slot => do
    let (stack, equipment) ← (equipment.unequip slot).elim
      (.error (.emptyEquipmentSlot playerId slot)) .ok
    let (stack, moved) ← stack.splitOff count
    .ok (moved, stack.remainingCount, equipment.keepRest slot stack, containers)
  | .containerItem containerId itemIndex => do
    let (container, containers) ← (containers.remove containerId).elim
      (.error (.unknownPlayerContainer playerId containerId)) .ok
    let (stack, items) ← (container.items.remove itemIndex).elim
      (.error (.unknownPlayerContainerItem playerId containerId itemIndex)) .ok
    let (stack, moved) ← stack.splitOff count
    let items := items.keepRest itemIndex stack
    let (_, containers) ← containers.insert { container with items }
    .ok (moved, stack.remainingCount, equipment, containers)
  | .containerContent containerId itemIndex contentIndex => do
    let (container, containers) ← (containers.remove containerId).elim
      (.error (.unknownPlayerContainer playerId containerId)) .ok
    let (stack, items) ← (container.items.takeContent itemIndex contentIndex).elim
      (.error (.unknownPlayerContainerItem playerId containerId itemIndex)) .ok
    -- the rest of the split content stack is not put back
    let (_, moved) ← stack.splitOff count
    let (_, containers) ← containers.insert { container with items }
    .ok (moved, none, equipment, containers)

def takePlayerStackForGroundDrop (playerId : ℕ) (source : PlayerGroundDropSource) (count : ℕ) :
    WorldM PlayerGroundDropOutcome := do
  let equipment ← playerEquipment playerId
  let containers ← playerContainers playerId
  let (movedItem, sourceRemainingCount, equipment, containers) ←
    ofExcept (prepareGroundDrop playerId source count equipment containers)
  match source with
  | .equipmentSlot _ => storeEquipment playerId equipment
  | _ => pure ()
  storeContainers playerId containers
  markChanged
  return ⟨playerId, source, movedItem, sourceRemainingCount⟩

end World

end ForgottenEngine
