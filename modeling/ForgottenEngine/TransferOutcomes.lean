import ForgottenEngine.TransferEffects

/-!
# The inventories a move ends in

`outcome` is what can be compared of two moves: the equipment and containers of the player after an
accepted one, and nothing after a refused one.  Each specialised move, and the generic move, has
its outcome written out as a function of the two inventories it starts from.
-/

namespace ForgottenEngine

open Fallible World WorldState

/-- Equipment and containers of a player. -/
def WorldState.inventoriesOf (p : ℕ) (w : WorldState) : PlayerEquipment × PlayerContainers :=
  (w.equipmentOf p, w.containersOf p)

namespace InventoryTransfer

/-- Equipment and containers after an accepted transfer. -/
def outcome (w : WorldState) (p : ℕ) (t : InventoryTransfer) :
    Option (PlayerEquipment × PlayerContainers) := view (inventoriesOf p) (t.perform p) w

/-! ### The specialised moves -/

/-- Equipping a slot that has just been emptied. -/
theorem equip_without (e : PlayerEquipment) (slot : EquipmentSlot) (x : ItemInstance) :
    ((e.without slot).equip slot x).2 = (e.equip slot x).2 := by
  apply PlayerEquipment.ext_item
  intro j
  simp only [PlayerEquipment.item_equip, PlayerEquipment.item_without]
  split <;> rfl

section Specialised

variable {w : WorldState} {p : ℕ}

theorem view_commit {α : Type} (e : PlayerEquipment) (cs : PlayerContainers) (r : α) :
    view (inventoriesOf p) (do
      storeEquipment p e
      storeContainers p cs
      World.markChanged
      return r) w = some (e, cs) := by
  simp [storeEquipment, storeContainers, World.markChanged, inventoriesOf, equipmentOf, containersOf]

theorem view_commitEquipment {α : Type} (e : PlayerEquipment) (r : α) :
    view (inventoriesOf p) (do
      storeEquipment p e
      World.markChanged
      return r) w = some (e, w.containersOf p) := by
  simp [storeEquipment, World.markChanged, inventoriesOf, equipmentOf, containersOf]

theorem view_commitContainers {α : Type} (cs : PlayerContainers) (r : α) :
    view (inventoriesOf p) (do
      storeContainers p cs
      World.markChanged
      return r) w = some (w.equipmentOf p, cs) := by
  simp [storeContainers, World.markChanged, inventoriesOf, equipmentOf, containersOf]

theorem toOption_ok {ε α : Type} (a : α) : (Except.ok a : Except ε α).toOption = some a := rfl

attribute [local simp] outcome perform playerEquipment World.playerContainers PlayerEquipment.unequip
  PlayerContainers.remove ItemContainer.remove view_commit view_commitEquipment view_commitContainers
  toOption_ok Option.bind_map Function.comp_def

theorem outcome_equipmentItemToContainer (slot : EquipmentSlot) (id : ℕ) :
    outcome w p (.equipmentItemToContainer slot id) = (do
      let e ← w.playerEquipments[p]?
      let cs ← w.playerContainers[p]?
      let x ← e.item slot
      let c ← cs.container id
      let items ← (c.items.insert x).toOption
      some (e.without slot, cs.setItems id items)) := by
  simp [moveEquipmentItemToContainer]
  refine Option.bind_congr fun e _ => Option.bind_congr fun cs _ => Option.bind_congr fun x _ => ?_
  refine Option.bind_congr fun c hc => Option.bind_congr fun items _ => ?_
  simp [PlayerContainers.insert_without hc]

theorem outcome_containerItemToEquipment (id i : ℕ) (slot : EquipmentSlot) :
    outcome w p (.containerItemToEquipment id i slot) = (do
      let e ← w.playerEquipments[p]?
      let cs ← w.playerContainers[p]?
      let c ← cs.container id
      let (x, items) ← c.items.remove i
      if (e.item slot).isSome then none else
      some ((e.equip slot x).2, cs.setItems id items)) := by
  simp [moveContainerItemToEquipment]
  refine Option.bind_congr fun e _ => ?_
  split
  · simp
  · refine Option.bind_congr fun cs _ => Option.bind_congr fun c hc => Option.bind_congr fun x _ => ?_
    simp [PlayerContainers.insert_without hc]

theorem outcome_swapContainerItemWithEquipment (id i : ℕ) (slot : EquipmentSlot) :
    outcome w p (.swapContainerItemWithEquipment id i slot) = (do
      let e ← w.playerEquipments[p]?
      let cs ← w.playerContainers[p]?
      let c ← cs.container id
      let (x, items) ← c.items.remove i
      let y ← e.item slot
      some ((e.equip slot x).2, cs.setItems id (items.insertAt i y))) := by
  simp [World.swapContainerItemWithEquipment]
  refine Option.bind_congr fun e _ => ?_
  rw [Option.bind_comm]
  refine Option.bind_congr fun cs _ => ?_
  rw [Option.bind_comm]
  refine Option.bind_congr fun c hc => ?_
  rw [Option.bind_comm]
  refine Option.bind_congr fun x _ => Option.bind_congr fun y _ => ?_
  simp [PlayerContainers.insert_without hc, equip_without]

theorem outcome_swapEquipmentItems {a b : EquipmentSlot} (hab : a ≠ b) :
    outcome w p (.swapEquipmentItems a b) = (do
      let e ← w.playerEquipments[p]?
      let x ← e.item a
      let y ← e.item b
      some ((((((e.without a).without b).equip a y).2).equip b x).2, w.containersOf p)) := by
  simp [World.swapEquipmentItems, hab]

theorem outcome_equipmentStackToContainer (slot : EquipmentSlot) (id n : ℕ) :
    outcome w p (.equipmentStackToContainer slot id n) = (do
      let e ← w.playerEquipments[p]?
      let cs ← w.playerContainers[p]?
      let x ← e.item slot
      let c ← cs.container id
      let (rest, moved) ← (x.splitOff n).toOption
      let (_, items) ← (c.items.mergeOrInsertStack moved).toOption
      some ((e.without slot).keepRest slot rest, cs.setItems id items)) := by
  simp [moveEquipmentStackToContainer]
  refine Option.bind_congr fun e _ => ?_
  rw [Option.bind_comm (w.playerContainers[p]?)]
  refine Option.bind_congr fun x _ => ?_
  rw [Option.bind_comm]
  refine Option.bind_congr fun cs _ => ?_
  rw [Option.bind_comm]
  refine Option.bind_congr fun c hc => Option.bind_congr fun s _ => Option.bind_congr fun m _ => ?_
  simp [PlayerContainers.insert_without hc]

theorem outcome_containerStackToEquipment (id i n : ℕ) (slot : EquipmentSlot) :
    outcome w p (.containerStackToEquipment id i slot n) = (do
      let e ← w.playerEquipments[p]?
      let cs ← w.playerContainers[p]?
      let c ← cs.container id
      let (x, items) ← c.items.remove i
      let (rest, moved) ← (x.splitOff n).toOption
      let (_, e') ← (e.placeStack slot moved).toOption
      some (e', cs.setItems id (items.keepRest i rest))) := by
  simp [moveContainerStackToEquipment]
  refine Option.bind_congr fun e _ => Option.bind_congr fun cs _ => Option.bind_congr fun c hc => ?_
  refine Option.bind_congr fun x _ => Option.bind_congr fun s _ => Option.bind_congr fun m _ => ?_
  simp [PlayerContainers.insert_without hc]

theorem outcome_containerStackToContainer (a i b n : ℕ) :
    outcome w p (.containerStackToContainer a i b n) = (do
      let cs ← w.playerContainers[p]?
      let ca ← cs.container a
      let (x, items) ← ca.items.remove i
      let (rest, moved) ← (x.splitOff n).toOption
      if a = b then none else
      let cb ← cs.container b
      let (_, items') ← (cb.items.mergeOrInsertStack moved).toOption
      some (w.equipmentOf p,
        (cs.setItems a (items.keepRest i rest)).setItems b items')) := by
  simp [moveContainerStackToContainer]
  split
  · simp
  · rename_i hab
    refine Option.bind_congr fun cs _ => Option.bind_congr fun ca ha => ?_
    rw [PlayerContainers.container_without, if_neg hab, Option.bind_comm]
    refine Option.bind_congr fun x _ => ?_
    rw [Option.bind_comm]
    refine Option.bind_congr fun s _ => Option.bind_congr fun cb hb => Option.bind_congr fun m _ => ?_
    have hb' : (cs.setItems a ((ItemContainer.mk ca.items.capacity
        (ca.items.items.eraseIdx i)).keepRest i s.1)).container b = some cb := by
      rw [PlayerContainers.container_setItems, if_neg hab, hb]
    simp [PlayerContainers.insert_without_without hab ha, PlayerContainers.insert_without hb']

end Specialised

/-! ### The generic move -/

theorem splitOff_toOption (x : ItemInstance) (n : ℕ) : (x.splitOff n).toOption =
    if 0 < n ∧ n ≤ x.count then some ({ x with count := x.count - n }, { x with count := n })
    else none := by
  unfold ItemInstance.splitOff
  by_cases hgood : 0 < n ∧ n ≤ x.count
  · have hbad : ¬(n = 0 ∨ x.count < n) := by omega
    rw [if_neg hbad, if_pos hgood]
    rfl
  · have hbad : n = 0 ∨ x.count < n := by omega
    rw [if_pos hbad, if_neg hgood]
    rfl

/-- The two ways a generic move detaches, seen as one split: a whole stack leaves no rest. -/
theorem toOption_detach {α : Type} (x : ItemInstance) (take : ℕ) (bad : CoreError) (whole : α)
    (staying keep : ItemInstance → α) (hwhole : ∀ rest, rest.count = 0 → whole = keep rest)
    (hpart : ∀ rest, 0 < rest.count → staying rest = keep rest) :
    (if take = 0 ∨ x.count < take then .error bad
      else if take = x.count then .ok (x, x.count - take, whole)
      else do
        let split ← x.splitOff take
        .ok (split.2, x.count - take, staying split.1) :
          Except CoreError (ItemInstance × ℕ × α)).toOption =
    (x.splitOff take).toOption.bind fun split => some (split.2, split.1.count, keep split.1) := by
  rw [splitOff_toOption]
  by_cases hbad : take = 0 ∨ x.count < take
  · have hgood : ¬(0 < take ∧ take ≤ x.count) := by omega
    rw [if_pos hbad, if_neg hgood]
    rfl
  · have hgood : 0 < take ∧ take ≤ x.count := by omega
    rw [if_neg hbad, if_pos hgood]
    by_cases hall : take = x.count
    · rw [if_pos hall, hall, Nat.sub_self, hwhole { x with count := 0 } rfl]
      cases x
      rfl
    · have hrest : 0 < ({ x with count := x.count - take } : ItemInstance).count := by
        simp only
        omega
      rw [if_neg hall, ItemInstance.splitOff_eq_ok.mpr ⟨hgood.1, hgood.2, rfl, rfl⟩]
      simp only [bind, Except.bind, hpart _ hrest]
      rfl

section Generic

variable {p : ℕ} {e : PlayerEquipment} {cs : PlayerContainers}

theorem keepRest_of_pos (e : PlayerEquipment) (slot : EquipmentSlot) {rest : ItemInstance}
    (h : 0 < rest.count) : (e.without slot).keepRest slot rest = (e.equip slot rest).2 := by
  simp [PlayerEquipment.keepRest, ItemInstance.remainingCount, h, equip_without]

theorem keepRest_of_zero (e : PlayerEquipment) (slot : EquipmentSlot) {rest : ItemInstance}
    (h : rest.count = 0) : e.keepRest slot rest = e := by
  simp [PlayerEquipment.keepRest, ItemInstance.remainingCount, h]

theorem items_keepRest_of_zero (c : ItemContainer) (i : ℕ) {rest : ItemInstance}
    (h : rest.count = 0) : c.keepRest i rest = c := by
  simp [ItemContainer.keepRest, ItemInstance.remainingCount, h]

/-- Putting the rest back at its position is writing it in place. -/
theorem items_keepRest_of_pos {c items : ItemContainer} {i : ℕ} {x rest : ItemInstance}
    (hx : c.remove i = some (x, items)) (h : 0 < rest.count) :
    items.keepRest i rest = c.setItem i rest := by
  obtain ⟨hi, rfl⟩ := ItemContainer.remove_eq_some.mp hx
  have hlt : i < c.items.length := (List.getElem?_eq_some_iff.mp hi).1
  simp [ItemContainer.keepRest, ItemInstance.remainingCount, h, ItemContainer.insertAt,
    ItemContainer.setItem, List.insertIdx_eraseIdx_self (Nat.ne_of_lt hlt)]

theorem detach_equipment (slot : EquipmentSlot) (count : Option ℕ) :
    (detachMovedItem p (.equipment slot) count e cs).toOption = (do
      let x ← e.item slot
      let (rest, moved) ← (x.splitOff (count.getD x.count)).toOption
      some (moved, rest.count, (e.without slot).keepRest slot rest, cs)) := by
  cases hx : e.item slot with
  | none => simp [detachMovedItem, hx, Except.toOption]
  | some x =>
    simp only [detachMovedItem, hx, Option.bind_eq_bind, Option.bind_some]
    refine toOption_detach x _ _ (e.without slot, cs) (fun rest => ((e.equip slot rest).2, cs))
      (fun rest => ((e.without slot).keepRest slot rest, cs)) ?_ ?_
    · intro rest hrest
      rw [keepRest_of_zero _ _ hrest]
    · intro rest hrest
      rw [keepRest_of_pos _ _ hrest]

theorem detach_container (id i : ℕ) (count : Option ℕ) :
    (detachMovedItem p (.container id i) count e cs).toOption = (do
      let c ← cs.container id
      let (x, items) ← c.items.remove i
      let (rest, moved) ← (x.splitOff (count.getD x.count)).toOption
      some (moved, rest.count, e, cs.setItems id (items.keepRest i rest))) := by
  cases hc : cs.container id with
  | none => simp [detachMovedItem, hc, Except.toOption]
  | some c =>
    cases hx : c.items.remove i with
    | none =>
      have hnone := ItemContainer.remove_eq_none.mp hx
      simp [detachMovedItem, hc, ItemContainer.item, hnone, hx, Except.toOption]
    | some out =>
      obtain ⟨x, items⟩ := out
      obtain ⟨hi, -⟩ := ItemContainer.remove_eq_some.mp hx
      simp only [detachMovedItem, hc, ItemContainer.item, hi, hx, Option.bind_eq_bind,
        Option.bind_some]
      refine toOption_detach x _ _ (e, cs.setItems id items)
        (fun rest => (e, cs.setItems id (c.items.setItem i rest)))
        (fun rest => (e, cs.setItems id (items.keepRest i rest))) ?_ ?_
      · intro rest hrest
        rw [items_keepRest_of_zero _ _ hrest]
      · intro rest hrest
        rw [items_keepRest_of_pos hx hrest]

/-- A failed placement fails, whether or not the item could be put back. -/
theorem toOption_restore {α : Type} (source : GenericMoveSourceKind) (x : ItemInstance)
    (err : CoreError) : (do
      let _ ← restoreMovedItem p e cs source x
      .error err : Except CoreError α).toOption = none := by
  cases restoreMovedItem p e cs source x <;> rfl

theorem place_container (source : GenericMoveSourceKind) (id : ℕ) (x : ItemInstance) :
    (placeMovedItem p source (.container id) x e cs).toOption = (do
      let c ← cs.container id
      let (_, items) ← (c.items.mergeOrInsertStack x).toOption
      some (.mergedOrInserted, e, cs.setItems id items)) := by
  cases hc : cs.container id with
  | none =>
    simp only [placeMovedItem, hc]
    exact toOption_restore _ _ _
  | some c =>
    cases hm : c.items.mergeOrInsertStack x with
    | error err =>
      simp only [placeMovedItem, hc, hm, Option.bind_eq_bind, Option.bind_some]
      exact toOption_restore source x err
    | ok out =>
      simp only [placeMovedItem, hc, hm, Option.bind_eq_bind, Option.bind_some]
      rfl

theorem place_emptySlot {source : GenericMoveSourceKind} {slot : EquipmentSlot} {swap : Bool}
    {x : ItemInstance} (h : e.item slot = none) :
    (placeMovedItem p source (.equipment slot swap) x e cs).toOption =
      some (.placed, (e.equip slot x).2, cs) := by
  simp only [placeMovedItem, h]
  rfl

theorem place_occupied {source : GenericMoveSourceKind} {slot : EquipmentSlot}
    {x y : ItemInstance} (h : e.item slot = some y) :
    (placeMovedItem p source (.equipment slot false) x e cs).toOption = none := by
  simp only [placeMovedItem, h, Bool.false_eq_true, false_and, if_false]
  exact toOption_restore _ _ _

/-- A swap with a container item: the displaced item goes to the end of the container. -/
theorem place_swapContainer {id i : ℕ} {slot : EquipmentSlot} {x y : ItemInstance}
    {c : PlayerContainer} (h : e.item slot = some y) (hc : cs.container id = some c) :
    (placeMovedItem p (.container id i) (.equipment slot true) x e cs).toOption =
      (c.items.insert y).toOption.map fun items =>
        (.swapped y, (e.equip slot x).2, cs.setItems id items) := by
  have hne : GenericMoveSourceKind.container id i ≠ .equipment slot := by simp
  simp only [placeMovedItem, h, hc, hne, ne_eq, not_false_iff, and_self, if_true]
  cases c.items.insert y <;> rfl

/-- A swap between two slots: the displaced item goes nowhere. -/
theorem place_swapEquipment {a b : EquipmentSlot} {x y : ItemInstance} (hab : a ≠ b)
    (h : e.item b = some y) :
    (placeMovedItem p (.equipment a) (.equipment b true) x e cs).toOption =
      some (.swapped y, (e.equip b x).2, cs) := by
  have hne : GenericMoveSourceKind.equipment a ≠ .equipment b := by simpa
  simp only [placeMovedItem, h, hne, ne_eq, not_false_iff, and_self, if_true]
  rfl

/-- **The generic move**: the player is registered and has both inventories, the item comes off,
and it finds its place. -/
theorem outcome_genericMove (w : WorldState) (p : ℕ) (plan : GenericInventoryMove) :
    outcome w p (.genericMove plan) = (do
      let _ ← w.players[p]?
      if plan.sameSlot.isSome then none else
      let e ← w.playerEquipments[p]?
      let cs ← w.playerContainers[p]?
      let (x, _, e₁, cs₁) ←
        (detachMovedItem p plan.sourceKind plan.sourceCount e cs).toOption
      let (_, e₂, cs₂) ← (placeMovedItem p plan.sourceKind plan.target x e₁ cs₁).toOption
      some (e₂, cs₂)) := by
  cases hsame : plan.sameSlot with
  | some slot => simp [outcome, perform, executeGenericInventoryMove, requirePlayer, hsame]
  | none =>
    simp [outcome, perform, executeGenericInventoryMove, requirePlayer, playerEquipment,
      World.playerContainers, view_commit, hsame]

theorem outcome_generic_toContainer (w : WorldState) (p : ℕ) (slot : EquipmentSlot)
    (count : Option ℕ) (id : ℕ) :
    outcome w p (.genericMove ⟨.equipment slot, count, .container id⟩) = (do
      let e ← w.playerEquipments[p]?
      let cs ← w.playerContainers[p]?
      let x ← e.item slot
      let c ← cs.container id
      let _ ← w.players[p]?
      let (rest, moved) ← (x.splitOff (count.getD x.count)).toOption
      let (_, items) ← (c.items.mergeOrInsertStack moved).toOption
      some ((e.without slot).keepRest slot rest, cs.setItems id items)) := by
  cases hplayer : w.players[p]? with
  | none => simp [outcome_genericMove, hplayer]
  | some player =>
    simp [outcome_genericMove, GenericInventoryMove.sameSlot, detach_equipment, place_container,
      Option.bind_assoc, hplayer]
    refine Option.bind_congr fun e _ => Option.bind_congr fun cs _ => Option.bind_congr fun x _ => ?_
    exact Option.bind_comm _ _

theorem outcome_generic_betweenContainers (w : WorldState) (p a i b : ℕ) (count : Option ℕ) :
    outcome w p (.genericMove ⟨.container a i, count, .container b⟩) = (do
      let cs ← w.playerContainers[p]?
      let c ← cs.container a
      let (x, items) ← c.items.remove i
      let (rest, moved) ← (x.splitOff (count.getD x.count)).toOption
      let e ← w.playerEquipments[p]?
      let _ ← w.players[p]?
      let t ← (cs.setItems a (items.keepRest i rest)).container b
      let (_, items') ← (t.items.mergeOrInsertStack moved).toOption
      some (e, (cs.setItems a (items.keepRest i rest)).setItems b items')) := by
  cases hplayer : w.players[p]? with
  | none => simp [outcome_genericMove, hplayer]
  | some player =>
    cases he : w.playerEquipments[p]? with
    | none => simp [outcome_genericMove, hplayer, he]
    | some e =>
      simp only [outcome_genericMove, GenericInventoryMove.sameSlot, detach_container, hplayer, he,
        place_container, Option.bind_eq_bind, Option.bind_assoc, Option.bind_some,
        Option.isSome_none, Bool.false_eq_true, if_false]

theorem outcome_generic_toEquipment (w : WorldState) (p id i : ℕ) (count : Option ℕ)
    (slot : EquipmentSlot) (swap : Bool) :
    outcome w p (.genericMove ⟨.container id i, count, .equipment slot swap⟩) = (do
      let e ← w.playerEquipments[p]?
      let cs ← w.playerContainers[p]?
      let c ← cs.container id
      let (x, items) ← c.items.remove i
      let _ ← w.players[p]?
      let (rest, moved) ← (x.splitOff (count.getD x.count)).toOption
      match e.item slot with
      | none => some ((e.equip slot moved).2, cs.setItems id (items.keepRest i rest))
      | some y =>
        if swap then do
          let items' ← ((items.keepRest i rest).insert y).toOption
          some ((e.equip slot moved).2, cs.setItems id items')
        else none) := by
  cases hplayer : w.players[p]? with
  | none => simp [outcome_genericMove, hplayer]
  | some player =>
    simp only [outcome_genericMove, GenericInventoryMove.sameSlot, detach_container, hplayer,
      Option.bind_eq_bind, Option.bind_assoc, Option.bind_some, Option.isSome_none,
      Bool.false_eq_true, if_false]
    refine Option.bind_congr fun e _ => Option.bind_congr fun cs _ => Option.bind_congr fun c hc => ?_
    refine Option.bind_congr fun out _ => Option.bind_congr fun s _ => ?_
    cases hslot : e.item slot with
    | none => rw [place_emptySlot hslot]; rfl
    | some y =>
      cases swap with
      | false => rw [place_occupied hslot]; rfl
      | true =>
        have hwindow : (cs.setItems id (out.2.keepRest i s.1)).container id =
            some { c with items := out.2.keepRest i s.1 } := by
          rw [PlayerContainers.container_setItems, if_pos rfl, hc]
          rfl
        rw [place_swapContainer hslot hwindow]
        simp [Option.bind_map, PlayerContainers.setItems_setItems]

theorem outcome_generic_betweenSlots (w : WorldState) (p : ℕ) {a b : EquipmentSlot} (hab : a ≠ b)
    (count : Option ℕ) :
    outcome w p (.genericMove ⟨.equipment a, count, .equipment b true⟩) = (do
      let e ← w.playerEquipments[p]?
      let x ← e.item a
      let cs ← w.playerContainers[p]?
      let _ ← w.players[p]?
      let (rest, moved) ← (x.splitOff (count.getD x.count)).toOption
      some ((((e.without a).keepRest a rest).equip b moved).2, cs)) := by
  cases hplayer : w.players[p]? with
  | none => simp [outcome_genericMove, hplayer]
  | some player =>
    simp only [outcome_genericMove, GenericInventoryMove.sameSlot, detach_equipment, if_neg hab,
      hplayer, Option.bind_eq_bind, Option.bind_assoc, Option.bind_some, Option.isSome_none,
      Bool.false_eq_true, if_false]
    refine Option.bind_congr fun e _ => ?_
    rw [Option.bind_comm]
    refine Option.bind_congr fun x _ => Option.bind_congr fun cs _ => Option.bind_congr fun s _ => ?_
    cases hslot : ((e.without a).keepRest a s.1).item b with
    | none => rw [place_emptySlot hslot]; rfl
    | some y => rw [place_swapEquipment hab hslot]; rfl

/-- A move between one slot and itself is refused. -/
theorem outcome_generic_sameSlot (w : WorldState) (p : ℕ) (slot : EquipmentSlot)
    (count : Option ℕ) (swap : Bool) :
    outcome w p (.genericMove ⟨.equipment slot, count, .equipment slot swap⟩) = none := by
  simp [outcome_genericMove, GenericInventoryMove.sameSlot]

end Generic

end InventoryTransfer

end ForgottenEngine
