import ForgottenEngine.Transfers

/-!
# The generic inventory move

`executeGenericInventoryMove` executes one plan: a source, an optional count, and a target that
may allow a swap.  The source splits it into three parts that all work on local copies of the two
inventories — detach the item, place it, and, where placing fails, put it back before failing.
Nothing is stored before the placement has succeeded.
-/

namespace ForgottenEngine

inductive GenericMoveSourceKind where
  | equipment (slot : EquipmentSlot)
  | container (containerId index : ℕ)
deriving DecidableEq

inductive GenericMoveTargetKind where
  | equipment (slot : EquipmentSlot) (allowSwap : Bool)
  | container (containerId : ℕ)
deriving DecidableEq

structure GenericInventoryMove where
  sourceKind : GenericMoveSourceKind
  sourceCount : Option ℕ
  target : GenericMoveTargetKind
deriving DecidableEq

inductive GenericPlacement where
  | placed
  | mergedOrInserted
  | swapped (displaced : ItemInstance)

structure GenericInventoryMoveOutcome where
  playerId : ℕ
  movedItem : ItemInstance
  placement : GenericPlacement
  remainingSourceCount : ℕ

/-- The source and target name one and the same equipment slot. -/
def GenericInventoryMove.sameSlot (plan : GenericInventoryMove) : Option EquipmentSlot :=
  match plan.sourceKind, plan.target with
  | .equipment source, .equipment target _ => if source = target then some source else none
  | _, _ => none

namespace World

open Fallible

/-- Resolve the source and take the moved item off it: the item, what is left there, and the
inventories without it.  A whole stack leaves its place, a part of it is split off in place. -/
def detachMovedItem (playerId : ℕ) (source : GenericMoveSourceKind) (sourceCount : Option ℕ)
    (equipment : PlayerEquipment) (containers : PlayerContainers) :
    Except CoreError (ItemInstance × ℕ × PlayerEquipment × PlayerContainers) :=
  match source with
  | .equipment slot =>
    match equipment.item slot with
    | none => .error (.emptyEquipmentSlot playerId slot)
    | some item =>
      let take := sourceCount.getD item.count
      if take = 0 ∨ item.count < take then .error (.invalidItemTransferCount take item.count)
      else if take = item.count then
        .ok (item, item.count - take, equipment.without slot, containers)
      else do
        let (whole, split) ← item.splitOff take
        .ok (split, item.count - take, (equipment.equip slot whole).2, containers)
  | .container containerId index =>
    match containers.container containerId with
    | none => .error (.unknownPlayerContainer playerId containerId)
    | some container =>
      match container.items.item index with
      | none => .error (.unknownPlayerContainerItem playerId containerId index)
      | some item =>
        let take := sourceCount.getD item.count
        if take = 0 ∨ item.count < take then .error (.invalidItemTransferCount take item.count)
        else if take = item.count then
          match container.items.remove index with
          | none => .error (.unknownPlayerContainerItem playerId containerId index)
          | some (item, items) =>
            .ok (item, item.count - take, equipment, containers.setItems containerId items)
        else do
          let (whole, split) ← item.splitOff take
          .ok (split, item.count - take, equipment,
            containers.setItems containerId (container.items.setItem index whole))

/-- Put the moved item back before failing: into its slot, or at the end of its container. -/
def restoreMovedItem (playerId : ℕ) (equipment : PlayerEquipment) (containers : PlayerContainers)
    (source : GenericMoveSourceKind) (item : ItemInstance) :
    Except CoreError (PlayerEquipment × PlayerContainers) :=
  match source with
  | .equipment slot => .ok ((equipment.equip slot item).2, containers)
  | .container containerId _ =>
    match containers.container containerId with
    | none => .error (.unknownPlayerContainer playerId containerId)
    | some container => do
      let items ← container.items.insert item
      .ok (equipment, containers.setItems containerId items)

/-- Put the moved item into its destination. -/
def placeMovedItem (playerId : ℕ) (source : GenericMoveSourceKind) (target : GenericMoveTargetKind)
    (movedItem : ItemInstance) (equipment : PlayerEquipment) (containers : PlayerContainers) :
    Except CoreError (GenericPlacement × PlayerEquipment × PlayerContainers) :=
  match target with
  | .equipment slot allowSwap =>
    match equipment.item slot with
    | none => .ok (.placed, (equipment.equip slot movedItem).2, containers)
    | some current =>
      if allowSwap = true ∧ source ≠ .equipment slot then
        let equipment := (equipment.equip slot movedItem).2
        match source with
        | .equipment _ => .ok (.swapped current, equipment, containers)
        | .container containerId _ =>
          match containers.container containerId with
          | none => .ok (.swapped current, equipment, containers)
          | some container => do
            let items ← container.items.insert current
            .ok (.swapped current, equipment, containers.setItems containerId items)
      else do
        let _ ← restoreMovedItem playerId equipment containers source movedItem
        .error (.occupiedEquipmentSlot playerId slot)
  | .container containerId =>
    match containers.container containerId with
    | none => do
      let _ ← restoreMovedItem playerId equipment containers source movedItem
      .error (.unknownPlayerContainer playerId containerId)
    | some container =>
      match container.items.mergeOrInsertStack movedItem with
      | .ok (_, items) => .ok (.mergedOrInserted, equipment, containers.setItems containerId items)
      | .error error => do
        let _ ← restoreMovedItem playerId equipment containers source movedItem
        .error error

def executeGenericInventoryMove (playerId : ℕ) (plan : GenericInventoryMove) :
    WorldM GenericInventoryMoveOutcome := do
  let _ ← requirePlayer playerId
  match plan.sameSlot with
  | some slot => fail (.sameEquipmentSlotTransfer playerId slot)
  | none =>
    let equipment ← playerEquipment playerId
    let containers ← playerContainers playerId
    let (movedItem, remaining, equipment, containers) ←
      ofExcept (detachMovedItem playerId plan.sourceKind plan.sourceCount equipment containers)
    let (placement, equipment, containers) ←
      ofExcept (placeMovedItem playerId plan.sourceKind plan.target movedItem equipment containers)
    storeEquipment playerId equipment
    storeContainers playerId containers
    markChanged
    return ⟨playerId, movedItem, placement, remaining⟩

end World

end ForgottenEngine
