import ForgottenEngine.TransferEffects

/-!
# What transfers keep

The units of a player before an accepted transfer are those after it, those handed to the caller
and those used up — unless the transfer runs through one of the branches listed in `Slips`:

* a stack with nested contents is split, and both halves get the contents;
* a stack with nested contents is merged, and its contents are dropped;
* a part of a content item is dropped to the ground, and the rest of it vanishes;
* the generic move swaps two equipment slots, and the displaced item vanishes.

`units_transferred` is the statement on the two inventories, by kind, and `heldIds_perform` that
on the world, by item id.
-/

namespace ForgottenEngine

open World WorldState

/-! ### Kept and moved parts of a stack -/

namespace ItemInstance

/-- The units of what stays of a split stack: nothing when it is used up. -/
def keptUnits (rest : ItemInstance) : Multiset ItemKind := if 0 < rest.count then rest.units else 0

/-- The contents that a split of `n` units clones: none when the whole stack moves. -/
def clonedUnits (x : ItemInstance) (n : ℕ) : Multiset ItemKind :=
  if n < x.count then x.contentUnits else 0

theorem units_kept_moved {x rest moved : ItemInstance} {n : ℕ} (h : x.splitOff n = .ok (rest, moved)) :
    rest.keptUnits + moved.units = x.units + x.clonedUnits n := by
  have hsum := units_splitOff h
  obtain ⟨hpos, hle, rfl, rfl⟩ := splitOff_eq_ok.mp h
  unfold keptUnits clonedUnits
  by_cases hlt : n < x.count
  · rw [if_pos hlt, if_pos (by simp only; omega), hsum]
  · have hn : n = x.count := by omega
    have hmoved : ({ x with count := n } : ItemInstance) = x := by
      cases x
      rw [hn]
    rw [if_neg hlt, if_neg (by simp only; omega), hmoved, zero_add, add_zero]

theorem contentUnits_moved {x rest moved : ItemInstance} {n : ℕ}
    (h : x.splitOff n = .ok (rest, moved)) : moved.contentUnits = x.contentUnits := by
  obtain ⟨-, -, -, rfl⟩ := splitOff_eq_ok.mp h
  rfl

theorem remainingCount_isSome (rest : ItemInstance) :
    rest.remainingCount.isSome = true ↔ 0 < rest.count := by
  unfold remainingCount
  split
  · simpa
  · simp only [Option.isSome_none, Bool.false_eq_true, false_iff]
    omega

end ItemInstance

theorem PlayerEquipment.units_keepRest {e : PlayerEquipment} {slot : EquipmentSlot}
    (h : e.item slot = none) (rest : ItemInstance) :
    (e.keepRest slot rest).units = e.units + rest.keptUnits := by
  unfold keepRest ItemInstance.keptUnits
  by_cases hpos : 0 < rest.count
  · rw [if_pos (rest.remainingCount_isSome.mpr hpos), if_pos hpos]
    have hequip := units_equip e slot rest
    rw [h] at hequip
    simpa using hequip
  · rw [if_neg (mt rest.remainingCount_isSome.mp hpos), if_neg hpos, add_zero]

theorem ItemContainer.units_keepRest {c items : ItemContainer} {i : ℕ} {x : ItemInstance}
    (h : c.remove i = some (x, items)) (rest : ItemInstance) :
    (items.keepRest i rest).units = items.units + rest.keptUnits := by
  unfold keepRest ItemInstance.keptUnits
  by_cases hpos : 0 < rest.count
  · rw [if_pos (rest.remainingCount_isSome.mpr hpos), if_pos hpos, units_insertAt rest h, add_comm]
  · rw [if_neg (mt rest.remainingCount_isSome.mp hpos), if_neg hpos, add_zero]

/-- Placing a stack adds its units, less the contents when it is merged. -/
theorem PlayerEquipment.units_placeStack {e e' : PlayerEquipment} {slot : EquipmentSlot}
    {moved : ItemInstance} {d : ℕ} (h : e.placeStack slot moved = .ok (d, e')) :
    e'.units + (if (e.item slot).isSome then moved.contentUnits else 0) = e.units + moved.units := by
  unfold placeStack at h
  cases hslot : e.item slot with
  | none =>
    rw [hslot] at h
    cases h
    have hequip := units_equip e slot moved
    rw [hslot] at hequip
    simpa using hequip
  | some y =>
    rw [hslot] at h
    obtain ⟨z, hmerge, hz⟩ := Fallible.except_bind_eq_ok.mp h
    cases hz
    have hequip := units_equip e slot z
    rw [hslot, Option.elim_some] at hequip
    have hunits := ItemInstance.units_mergeStack hmerge
    rw [Option.isSome_some, if_pos rfl]
    apply add_right_cancel (b := y.units)
    calc (e.equip slot z).2.units + moved.contentUnits + y.units
        = ((e.equip slot z).2.units + y.units) + moved.contentUnits := by abel
      _ = e.units + (z.units + moved.contentUnits) := by rw [hequip, add_assoc]
      _ = e.units + moved.units + y.units := by rw [hunits]; abel

/-- The contents that storing the item drops: those of an item that is merged. -/
def ItemContainer.droppedUnits (c : ItemContainer) (x : ItemInstance) : Multiset ItemKind :=
  if c.holdsStackOf x then x.contentUnits else 0

theorem ItemContainer.droppedUnits_moved {c : ItemContainer} {x rest moved : ItemInstance} {n : ℕ}
    (h : x.splitOff n = .ok (rest, moved)) : c.droppedUnits moved = c.droppedUnits x := by
  obtain ⟨-, -, -, rfl⟩ := ItemInstance.splitOff_eq_ok.mp h
  rfl

/-- Storing through `mergeOrInsertStack`, seen from the whole table. -/
theorem PlayerContainers.units_store {cs : PlayerContainers} {id : ℕ} {c : PlayerContainer}
    {x : ItemInstance} {items : ItemContainer} {d : ℕ × ℕ} (hc : cs.container id = some c)
    (h : c.items.mergeOrInsertStack x = .ok (d, items)) :
    (cs.setItems id items).units + c.items.droppedUnits x = cs.units + x.units := by
  have hset := units_setItems hc items
  have hmerge := ItemContainer.units_mergeOrInsertStack h
  apply add_right_cancel (b := c.items.units)
  calc (cs.setItems id items).units + c.items.droppedUnits x + c.items.units
      = ((cs.setItems id items).units + c.items.units) + c.items.droppedUnits x := by abel
    _ = cs.units + (items.units + c.items.droppedUnits x) := by rw [hset, add_assoc]
    _ = cs.units + x.units + c.items.units := by
        unfold ItemContainer.droppedUnits
        rw [hmerge]
        abel

/-- Taking something out of a window, seen from the whole table. -/
theorem PlayerContainers.units_take {cs : PlayerContainers} {id : ℕ} {c : PlayerContainer}
    {u : Multiset ItemKind} {items : ItemContainer} (hc : cs.container id = some c)
    (h : c.items.units = u + items.units) : (cs.setItems id items).units + u = cs.units := by
  have hset := units_setItems hc items
  rw [h] at hset
  apply add_right_cancel (b := items.units)
  rw [← hset, add_assoc]

/-- Splitting a part off a stack of a window, seen from the whole table. -/
theorem PlayerContainers.units_split {cs : PlayerContainers} {id i n : ℕ} {c : PlayerContainer}
    {x rest moved : ItemInstance} {items : ItemContainer} (hc : cs.container id = some c)
    (hx : c.items.remove i = some (x, items)) (h : x.splitOff n = .ok (rest, moved)) :
    (cs.setItems id (items.keepRest i rest)).units + moved.units = cs.units + x.clonedUnits n := by
  have hset := units_setItems hc (items.keepRest i rest)
  rw [ItemContainer.units_keepRest hx, ItemContainer.units_remove hx] at hset
  have hsplit := ItemInstance.units_kept_moved h
  apply add_right_cancel (b := x.units + items.units)
  calc (cs.setItems id (items.keepRest i rest)).units + moved.units + (x.units + items.units)
      = ((cs.setItems id (items.keepRest i rest)).units + (x.units + items.units))
          + moved.units := by abel
    _ = cs.units + items.units + (rest.keptUnits + moved.units) := by rw [hset]; abel
    _ = cs.units + x.clonedUnits n + (x.units + items.units) := by rw [hsplit]; abel

/-- Splitting a part off an equipped stack. -/
theorem PlayerEquipment.units_split {e : PlayerEquipment} {slot : EquipmentSlot} {n : ℕ}
    {x rest moved : ItemInstance} (hx : e.item slot = some x)
    (h : x.splitOff n = .ok (rest, moved)) :
    ((e.without slot).keepRest slot rest).units + moved.units = e.units + x.clonedUnits n := by
  have hempty : (e.without slot).item slot = none := by simp
  rw [units_keepRest hempty, units_without hx, add_assoc, ItemInstance.units_kept_moved h]
  abel

/-- A stack of several is one unit and a smaller stack. -/
theorem ItemInstance.units_sub_one {x : ItemInstance} (h : 1 < x.count) :
    x.units = {x.kind} + ({ x with count := x.count - 1 } : ItemInstance).units := by
  have hcount : x.count = 1 + (x.count - 1) := by omega
  simp only [units_eq, kind, contentUnits]
  conv_lhs => rw [hcount, Multiset.replicate_add, Multiset.replicate_one]
  abel

namespace InventoryTransfer

open World WorldState

/-! ### The branches that lose or clone -/

/-- The stack a generic move starts from. -/
def sourceItem (e : PlayerEquipment) (cs : PlayerContainers) :
    GenericMoveSourceKind → Option ItemInstance
  | .equipment slot => e.item slot
  | .container id i => (cs.container id).bind fun c => c.items.items[i]?

/-- The contents a generic move clones when it takes `count` units off its source. -/
def genericClone (count : Option ℕ) (x : ItemInstance) : Multiset ItemKind :=
  x.clonedUnits (count.getD x.count)

/-- The transfer runs through a branch that loses or clones units: what the split clones is not
what the placement drops. -/
inductive Slips (e : PlayerEquipment) (cs : PlayerContainers) : InventoryTransfer → Prop
  | contentMerge {id i j dst c x items t} :
      cs.container id = some c → c.items.takeContent i j = some (x, items) →
      (cs.setItems id items).container dst = some t → t.items.droppedUnits x ≠ 0 →
      Slips e cs (.contentItemToContainer id i j dst)
  | equipmentStack {slot id n x c} :
      e.item slot = some x → cs.container id = some c →
      x.clonedUnits n ≠ c.items.droppedUnits x → Slips e cs (.equipmentStackToContainer slot id n)
  | containerStack {id i slot n c x} :
      cs.container id = some c → c.items.items[i]? = some x →
      x.clonedUnits n ≠ (if (e.item slot).isSome then x.contentUnits else 0) →
      Slips e cs (.containerStackToEquipment id i slot n)
  | betweenContainers {a i b n ca cb x} :
      cs.container a = some ca → ca.items.items[i]? = some x → cs.container b = some cb →
      x.clonedUnits n ≠ cb.items.droppedUnits x → Slips e cs (.containerStackToContainer a i b n)
  | dropEquipped {slot n x} :
      e.item slot = some x → x.clonedUnits n ≠ 0 → Slips e cs (.groundDrop (.equipmentSlot slot) n)
  | dropStored {id i n c x} :
      cs.container id = some c → c.items.items[i]? = some x → x.clonedUnits n ≠ 0 →
      Slips e cs (.groundDrop (.containerItem id i) n)
  | dropContent {id i j n c x items} :
      cs.container id = some c → c.items.takeContent i j = some (x, items) → n < x.count →
      Slips e cs (.groundDrop (.containerContent id i j) n)
  | genericStore {plan id p x moved n e₁ cs₁ c} :
      plan.target = .container id → sourceItem e cs plan.sourceKind = some x →
      detachMovedItem p plan.sourceKind plan.sourceCount e cs = .ok (moved, n, e₁, cs₁) →
      cs₁.container id = some c → genericClone plan.sourceCount x ≠ c.items.droppedUnits moved →
      Slips e cs (.genericMove plan)
  | genericEquip {plan slot swap x} :
      plan.target = .equipment slot swap → sourceItem e cs plan.sourceKind = some x →
      genericClone plan.sourceCount x ≠ 0 → Slips e cs (.genericMove plan)
  | genericDisplace {plan a b swap y} :
      plan.sourceKind = .equipment a → plan.target = .equipment b swap → e.item b = some y →
      Slips e cs (.genericMove plan)

/-- The units a consumption uses up: one, and with the last one the whole entry. -/
def usedUnits (e : PlayerEquipment) (cs : PlayerContainers) : InventoryTransfer → Multiset ItemKind
  | .consumeEquipmentItemUnit slot => (e.item slot).elim 0 consumed
  | .consumeContainerItemUnit id i =>
    ((cs.container id).bind fun c => c.items.items[i]?).elim 0 consumed
  | _ => 0
where
  consumed (x : ItemInstance) : Multiset ItemKind := if 1 < x.count then {x.kind} else x.units

/-- The units handed to the caller. -/
def returnedUnits (r : Option ItemInstance) : Multiset ItemKind := r.elim 0 ItemInstance.units

/-! ### The generic move -/

/-- Detaching splits the moved item off its source; the whole stack leaves its place. -/
theorem units_detach {p n : ℕ} {source : GenericMoveSourceKind} {count : Option ℕ}
    {e e₁ : PlayerEquipment} {cs cs₁ : PlayerContainers} {moved : ItemInstance}
    (h : detachMovedItem p source count e cs = .ok (moved, n, e₁, cs₁)) :
    ∃ x, sourceItem e cs source = some x ∧
      e₁.units + cs₁.units + moved.units = e.units + cs.units + genericClone count x := by
  cases source with
  | equipment slot =>
    cases hx : e.item slot with
    | none => simp [detachMovedItem, hx] at h
    | some x =>
      refine ⟨x, hx, ?_⟩
      simp only [detachMovedItem, hx] at h
      unfold genericClone
      split at h
      · cases h
      · rename_i hcount
        split at h
        · rename_i hall
          cases h
          unfold ItemInstance.clonedUnits
          rw [hall, if_neg (lt_irrefl _), PlayerEquipment.units_without hx]
          abel
        · rename_i hpart
          obtain ⟨⟨rest, part⟩, hsplit, hout⟩ := Fallible.except_bind_eq_ok.mp h
          cases hout
          have hequip := PlayerEquipment.units_equip e slot rest
          have hkept := ItemInstance.units_kept_moved hsplit
          obtain ⟨-, -, hrest, -⟩ := ItemInstance.splitOff_eq_ok.mp hsplit
          have hpos : 0 < rest.count := by rw [hrest]; simp only; omega
          rw [hx, Option.elim_some] at hequip
          rw [ItemInstance.keptUnits, if_pos hpos] at hkept
          apply add_right_cancel (b := x.units)
          calc (e.equip slot rest).2.units + cs.units + part.units + x.units
              = ((e.equip slot rest).2.units + x.units) + part.units + cs.units := by abel
            _ = e.units + (rest.units + part.units) + cs.units := by rw [hequip]; abel
            _ = _ := by rw [hkept]; abel
  | container id i =>
    cases hc : cs.container id with
    | none => simp [detachMovedItem, hc] at h
    | some c =>
      cases hx : c.items.items[i]? with
      | none => simp [detachMovedItem, hc, ItemContainer.item, hx] at h
      | some x =>
        refine ⟨x, by simp [sourceItem, hc, hx], ?_⟩
        simp only [detachMovedItem, hc, ItemContainer.item, hx] at h
        unfold genericClone
        split at h
        · cases h
        · rename_i hcount
          split at h
          · rename_i hall
            have hremove := ItemContainer.remove_eq_some.mpr ⟨hx, rfl⟩
            rw [hremove] at h
            cases h
            have htake := PlayerContainers.units_take hc (ItemContainer.units_remove hremove)
            unfold ItemInstance.clonedUnits
            rw [hall, if_neg (lt_irrefl _), add_assoc, htake, add_zero]
          · rename_i hpart
            obtain ⟨⟨rest, part⟩, hsplit, hout⟩ := Fallible.except_bind_eq_ok.mp h
            cases hout
            have hset := PlayerContainers.units_setItems hc (c.items.setItem i rest)
            have hitem := ItemContainer.units_setItem rest hx
            have hkept := ItemInstance.units_kept_moved hsplit
            obtain ⟨-, -, hrest, -⟩ := ItemInstance.splitOff_eq_ok.mp hsplit
            have hpos : 0 < rest.count := by rw [hrest]; simp only; omega
            rw [ItemInstance.keptUnits, if_pos hpos] at hkept
            apply add_right_cancel (b := c.items.units + x.units)
            calc e.units + (cs.setItems id (c.items.setItem i rest)).units + part.units
                  + (c.items.units + x.units)
                = e.units + ((cs.setItems id (c.items.setItem i rest)).units + c.items.units)
                  + part.units + x.units := by abel
              _ = e.units + cs.units + ((c.items.setItem i rest).units + x.units)
                  + part.units := by rw [hset]; abel
              _ = e.units + cs.units + c.items.units + (rest.units + part.units) := by
                  rw [hitem]; abel
              _ = _ := by rw [hkept]; abel

/-- Detaching leaves the other slots, and the window it takes from stays a window. -/
theorem detach_keeps {p n : ℕ} {source : GenericMoveSourceKind} {count : Option ℕ}
    {e e₁ : PlayerEquipment} {cs cs₁ : PlayerContainers} {moved : ItemInstance}
    (h : detachMovedItem p source count e cs = .ok (moved, n, e₁, cs₁)) :
    (∀ slot, source ≠ .equipment slot → e₁.item slot = e.item slot) ∧
      ∀ id i, source = .container id i → ∃ c, cs₁.container id = some c := by
  cases source with
  | equipment a =>
    constructor
    · intro slot hslot
      have hne : a ≠ slot := fun heq => hslot (by rw [heq])
      cases hx : e.item a with
      | none => simp [detachMovedItem, hx] at h
      | some x =>
        simp only [detachMovedItem, hx] at h
        split at h
        · cases h
        · split at h
          · cases h
            rw [PlayerEquipment.item_without, if_neg hne]
          · obtain ⟨⟨rest, part⟩, -, hout⟩ := Fallible.except_bind_eq_ok.mp h
            cases hout
            rw [PlayerEquipment.item_equip, if_neg hne]
    · intro id i heq
      cases heq
  | container a j =>
    cases hc : cs.container a with
    | none => simp [detachMovedItem, hc] at h
    | some c =>
      cases hx : c.items.items[j]? with
      | none => simp [detachMovedItem, hc, ItemContainer.item, hx] at h
      | some x =>
        simp only [detachMovedItem, hc, ItemContainer.item, hx] at h
        have hwindow (items : ItemContainer) : ∃ c, (cs.setItems a items).container a = some c :=
          ⟨{ c with items }, by rw [PlayerContainers.container_setItems, if_pos rfl, hc]; rfl⟩
        split at h
        · cases h
        · split at h
          · rw [ItemContainer.remove_eq_some.mpr ⟨hx, rfl⟩] at h
            cases h
            refine ⟨fun slot _ => rfl, fun id i heq => ?_⟩
            cases heq
            exact hwindow _
          · obtain ⟨⟨rest, part⟩, -, hout⟩ := Fallible.except_bind_eq_ok.mp h
            cases hout
            refine ⟨fun slot _ => rfl, fun id i heq => ?_⟩
            cases heq
            exact hwindow _

/-- Placing into an equipment slot: the displaced item survives only in a container. -/
theorem units_placeEquipment {p : ℕ} {source : GenericMoveSourceKind} {slot : EquipmentSlot}
    {swap : Bool} {moved : ItemInstance} {e e' : PlayerEquipment} {cs cs' : PlayerContainers}
    {placement : GenericPlacement}
    (hwindow : ∀ id i, source = .container id i → ∃ c, cs.container id = some c)
    (hsafe : ∀ a, source = .equipment a → e.item slot = none)
    (h : placeMovedItem p source (.equipment slot swap) moved e cs = .ok (placement, e', cs')) :
    e'.units + cs'.units = e.units + cs.units + moved.units := by
  have hequip := PlayerEquipment.units_equip e slot moved
  cases hslot : e.item slot with
  | none =>
    simp only [placeMovedItem, hslot] at h
    cases h
    rw [hslot, Option.elim_none, add_zero] at hequip
    rw [hequip]
    abel
  | some y =>
    simp only [placeMovedItem, hslot] at h
    rw [hslot, Option.elim_some] at hequip
    split at h
    · cases source with
      | equipment a =>
        rw [hsafe a rfl] at hslot
        cases hslot
      | container id i =>
        obtain ⟨c, hc⟩ := hwindow id i rfl
        simp only [hc] at h
        obtain ⟨items, hins, hout⟩ := Fallible.except_bind_eq_ok.mp h
        cases hout
        have hset := PlayerContainers.units_setItems hc items
        rw [ItemContainer.units_insert hins] at hset
        apply add_right_cancel (b := c.items.units + y.units)
        calc (e.equip slot moved).2.units + (cs.setItems id items).units + (c.items.units + y.units)
            = ((e.equip slot moved).2.units + y.units)
                + ((cs.setItems id items).units + c.items.units) := by abel
          _ = _ := by rw [hequip, hset]; abel
    · obtain ⟨_, -, hout⟩ := Fallible.except_bind_eq_ok.mp h
      cases hout

/-- Placing into a container stores the item. -/
theorem units_placeContainer {p id : ℕ} {source : GenericMoveSourceKind} {moved : ItemInstance}
    {e e' : PlayerEquipment} {cs cs' : PlayerContainers} {placement : GenericPlacement}
    (h : placeMovedItem p source (.container id) moved e cs = .ok (placement, e', cs')) :
    ∃ c, cs.container id = some c ∧
      e'.units + cs'.units + c.items.droppedUnits moved = e.units + cs.units + moved.units := by
  cases hc : cs.container id with
  | none =>
    simp only [placeMovedItem, hc] at h
    obtain ⟨_, -, hout⟩ := Fallible.except_bind_eq_ok.mp h
    cases hout
  | some c =>
    refine ⟨c, rfl, ?_⟩
    cases hmerge : c.items.mergeOrInsertStack moved with
    | error err =>
      simp only [placeMovedItem, hc, hmerge] at h
      obtain ⟨_, -, hout⟩ := Fallible.except_bind_eq_ok.mp h
      cases hout
    | ok out =>
      obtain ⟨d, items⟩ := out
      simp only [placeMovedItem, hc, hmerge] at h
      cases h
      rw [add_assoc, PlayerContainers.units_store hc hmerge, add_assoc]

/-! ### Accounting -/

theorem units_consumeItemUnit {c items : ItemContainer} {i : ℕ}
    (h : c.consumeItemUnit i = some items) :
    ∃ x, c.items[i]? = some x ∧ c.units = usedUnits.consumed x + items.units := by
  obtain ⟨x, hx, rfl⟩ := Option.map_eq_some_iff.mp h
  refine ⟨x, hx, ?_⟩
  unfold usedUnits.consumed
  split
  · have hset := ItemContainer.units_setItem { x with count := x.count - 1 } hx
    have hone := ItemInstance.units_sub_one ‹1 < x.count›
    apply add_right_cancel (b := ({ x with count := x.count - 1 } : ItemInstance).units)
    rw [← hset, hone]
    abel
  · exact ItemInstance.unitsOf_eraseIdx hx

/-- **What an accepted transfer does to the units**, outside the slips. -/
theorem units_transferred {e e' : PlayerEquipment} {cs cs' : PlayerContainers}
    {t : InventoryTransfer} {r : Option ItemInstance} (h : Transferred e cs t r e' cs')
    (hslip : ¬Slips e cs t) :
    e'.units + cs'.units + returnedUnits r + usedUnits e cs t = e.units + cs.units := by
  cases h with
  | equipmentItemToContainer hx hc hins =>
    rename_i slot id x c items
    have hset := PlayerContainers.units_setItems hc items
    rw [ItemContainer.units_insert hins] at hset
    have hstore : (cs.setItems id items).units = cs.units + x.units := by
      apply add_right_cancel (b := c.items.units)
      rw [hset]
      abel
    simp only [returnedUnits, usedUnits, Option.elim_none, add_zero]
    rw [hstore, PlayerEquipment.units_without hx]
    abel
  | containerItemToEquipment hslot hc hx =>
    rename_i id i slot c x items
    have htake := PlayerContainers.units_take hc (ItemContainer.units_remove hx)
    have hequip := PlayerEquipment.units_equip e slot x
    rw [hslot, Option.elim_none, add_zero] at hequip
    simp only [returnedUnits, usedUnits, Option.elim_none, add_zero]
    rw [hequip, ← htake]
    abel
  | contentItemToEquipment hslot hc hx =>
    rename_i id i j slot c x items
    have htake := PlayerContainers.units_take hc (ItemContainer.units_takeContent hx)
    have hequip := PlayerEquipment.units_equip e slot x
    rw [hslot, Option.elim_none, add_zero] at hequip
    simp only [returnedUnits, usedUnits, Option.elim_none, add_zero]
    rw [hequip, ← htake]
    abel
  | contentItemToContainer hc hx ht hroot hmerge =>
    rename_i id i j dst c x items t d items'
    have htake := PlayerContainers.units_take hc (ItemContainer.units_takeContent hx)
    have hstore := PlayerContainers.units_store ht hmerge
    have hnone : t.items.droppedUnits x = 0 := by
      by_contra hne
      exact hslip (.contentMerge hc hx ht hne)
    rw [hnone, add_zero, htake] at hstore
    simp only [returnedUnits, usedUnits, Option.elim_none, add_zero]
    rw [hstore]
  | swapContainerItemWithEquipment hy hc hx =>
    rename_i id i slot y c x items
    have hset := PlayerContainers.units_setItems hc (items.insertAt i y)
    rw [ItemContainer.units_insertAt y hx, ItemContainer.units_remove hx] at hset
    have hequip := PlayerEquipment.units_equip (e.without slot) slot x
    rw [PlayerEquipment.item_without, if_pos rfl, Option.elim_none, add_zero] at hequip
    simp only [returnedUnits, usedUnits, Option.elim_none, add_zero]
    apply add_right_cancel (b := x.units + items.units)
    rw [hequip, PlayerEquipment.units_without hy, add_assoc, hset]
    abel
  | swapEquipmentItems hab hx hy =>
    rename_i a b x y
    have hy' : (e.without a).item b = some y := by
      rw [PlayerEquipment.item_without, if_neg hab, hy]
    have hfirst := PlayerEquipment.units_equip ((e.without a).without b) a y
    have hsecond := PlayerEquipment.units_equip ((((e.without a).without b).equip a y).2) b x
    simp only [PlayerEquipment.item_without, PlayerEquipment.item_equip, hab, if_true, if_false,
      ite_self, Option.elim_none, add_zero] at hfirst hsecond
    simp only [returnedUnits, usedUnits, Option.elim_none, add_zero]
    rw [hsecond, hfirst, PlayerEquipment.units_without hx, PlayerEquipment.units_without hy']
    abel
  | consumeEquipmentNothing hslot => simp [returnedUnits, usedUnits, hslot]
  | consumeEquipmentUnit hslot hcount =>
    rename_i slot x
    have hequip := PlayerEquipment.units_equip e slot { x with count := x.count - 1 }
    have hone := ItemInstance.units_sub_one hcount
    rw [hslot, Option.elim_some] at hequip
    simp only [returnedUnits, usedUnits, usedUnits.consumed, hslot, hcount, Option.elim_none,
      Option.elim_some, if_true, add_zero]
    apply add_right_cancel (b := ({ x with count := x.count - 1 } : ItemInstance).units)
    calc _ = (e.equip slot { x with count := x.count - 1 }).2.units
          + ({x.kind} + ({ x with count := x.count - 1 } : ItemInstance).units) + cs.units := by abel
      _ = _ := by rw [← hone, hequip]; abel
  | consumeEquipmentLast hslot hcount =>
    simp only [returnedUnits, usedUnits, usedUnits.consumed, hslot, hcount, Option.elim_none,
      Option.elim_some, if_false, add_zero]
    rw [PlayerEquipment.units_without hslot]
    abel
  | consumeContainerNothing hc hcons =>
    have hnone := Option.map_eq_none_iff.mp hcons
    simp [returnedUnits, usedUnits, hc, hnone]
  | consumeContainerUnit hc hcons =>
    obtain ⟨x, hx, hunits⟩ := units_consumeItemUnit hcons
    have htake := PlayerContainers.units_take hc hunits
    simp only [returnedUnits, usedUnits, hc, hx, Option.elim_none, Option.bind_some,
      Option.elim_some, add_zero]
    rw [add_assoc, htake]
  | equipmentStackToContainer hx hsplit hc hmerge =>
    rename_i slot id n x rest moved c d items
    have hkeep := PlayerEquipment.units_split hx hsplit
    have hstore := PlayerContainers.units_store hc hmerge
    rw [ItemContainer.droppedUnits_moved hsplit] at hstore
    have hnet : x.clonedUnits n = c.items.droppedUnits x := by
      by_contra hne
      exact hslip (.equipmentStack hx hc hne)
    simp only [returnedUnits, usedUnits, Option.elim_none, add_zero]
    apply add_right_cancel (b := moved.units + c.items.droppedUnits x)
    calc _ = (((e.without slot).keepRest slot rest).units + moved.units)
          + ((cs.setItems id items).units + c.items.droppedUnits x) := by abel
      _ = _ := by rw [hkeep, hstore, hnet]; abel
  | containerStackToEquipment hc hx hsplit hplace =>
    rename_i id i slot n c x items rest moved d
    have hkeep := PlayerContainers.units_split hc hx hsplit
    have hequip := PlayerEquipment.units_placeStack hplace
    rw [ItemInstance.contentUnits_moved hsplit] at hequip
    have hnet : x.clonedUnits n = if (e.item slot).isSome then x.contentUnits else 0 := by
      by_contra hne
      exact hslip (.containerStack hc (ItemContainer.remove_eq_some.mp hx).1 hne)
    simp only [returnedUnits, usedUnits, Option.elim_none, add_zero]
    apply add_right_cancel (b := moved.units + x.clonedUnits n)
    calc _ = (e'.units + x.clonedUnits n)
          + ((cs.setItems id (items.keepRest i rest)).units + moved.units) := by abel
      _ = _ := by rw [hkeep, hnet, hequip]; abel
  | containerStackToContainer hab ha hb hx hsplit hmerge =>
    rename_i a i b n ca cb x items rest moved d items'
    have hkeep := PlayerContainers.units_split ha hx hsplit
    have hb' : (cs.setItems a (items.keepRest i rest)).container b = some cb := by
      rw [PlayerContainers.container_setItems, if_neg hab, hb]
    have hstore := PlayerContainers.units_store hb' hmerge
    rw [ItemContainer.droppedUnits_moved hsplit] at hstore
    have hnet : x.clonedUnits n = cb.items.droppedUnits x := by
      by_contra hne
      exact hslip (.betweenContainers ha (ItemContainer.remove_eq_some.mp hx).1 hb hne)
    simp only [returnedUnits, usedUnits, Option.elim_none, add_zero]
    rw [hkeep, ← hnet] at hstore
    rw [add_right_cancel hstore]
  | dropEquipment hx hsplit =>
    rename_i slot n x rest moved
    have hkeep := PlayerEquipment.units_split hx hsplit
    have hnone : x.clonedUnits n = 0 := by
      by_contra hne
      exact hslip (.dropEquipped hx hne)
    rw [hnone, add_zero] at hkeep
    simp only [returnedUnits, usedUnits, Option.elim_some, add_zero]
    rw [← hkeep]
    abel
  | dropContainerItem hc hx hsplit =>
    rename_i id i n c x items rest moved
    have hkeep := PlayerContainers.units_split hc hx hsplit
    have hnone : x.clonedUnits n = 0 := by
      by_contra hne
      exact hslip (.dropStored hc (ItemContainer.remove_eq_some.mp hx).1 hne)
    rw [hnone, add_zero] at hkeep
    simp only [returnedUnits, usedUnits, Option.elim_some, add_zero]
    rw [add_assoc, hkeep]
  | dropContainerContent hc hx hsplit =>
    rename_i id i j n c x items rest moved
    have htake := PlayerContainers.units_take hc (ItemContainer.units_takeContent hx)
    have hall : ¬n < x.count := fun hlt => hslip (.dropContent hc hx hlt)
    have hkept := ItemInstance.units_kept_moved hsplit
    obtain ⟨-, hle, hrest, -⟩ := ItemInstance.splitOff_eq_ok.mp hsplit
    have hzero : ¬0 < rest.count := by rw [hrest]; simp only; omega
    rw [ItemInstance.keptUnits, if_neg hzero, ItemInstance.clonedUnits, if_neg hall, zero_add,
      add_zero] at hkept
    simp only [returnedUnits, usedUnits, Option.elim_some, add_zero]
    rw [add_assoc, hkept, htake]
  | genericMove hsame hdet hplace =>
    rename_i p plan moved n e₁ cs₁ placement
    obtain ⟨x, hx, hunits⟩ := units_detach hdet
    obtain ⟨hslots, hwindow⟩ := detach_keeps hdet
    simp only [returnedUnits, usedUnits, Option.elim_none, add_zero]
    cases htarget : plan.target with
    | equipment slot swap =>
      have hnone : genericClone plan.sourceCount x = 0 := by
        by_contra hne
        exact hslip (.genericEquip htarget hx hne)
      have hsafe : ∀ a, plan.sourceKind = .equipment a → e₁.item slot = none := by
        intro a ha
        have hne : a ≠ slot := by
          intro heq
          simp [GenericInventoryMove.sameSlot, ha, htarget, heq] at hsame
        rw [hslots slot (by rw [ha]; intro heq; cases heq; exact hne rfl)]
        by_contra hsome
        obtain ⟨y, hy⟩ := Option.ne_none_iff_exists'.mp hsome
        exact hslip (.genericDisplace ha htarget hy)
      rw [htarget] at hplace
      rw [units_placeEquipment hwindow hsafe hplace, hunits, hnone, add_zero]
    | container id =>
      rw [htarget] at hplace
      obtain ⟨c, hc, hstore⟩ := units_placeContainer hplace
      have hnet : genericClone plan.sourceCount x = c.items.droppedUnits moved := by
        by_contra hne
        exact hslip (.genericStore htarget hx hdet hc hne)
      rw [hunits, hnet] at hstore
      exact add_right_cancel hstore

/-! ### The world -/

/-- **An accepted transfer keeps the units of its player**, counting what the caller is handed and
what a consumption uses up, unless it runs through a slip. -/
theorem heldIds_perform {w w' : WorldState} {p : ℕ} {t : InventoryTransfer}
    {r : Option ItemInstance} (h : t.perform p w = (.ok r, w'))
    (hslip : ¬Slips (w.equipmentOf p) (w.containersOf p) t) :
    w'.heldIds p + (returnedUnits r).map ItemKind.serverId +
      (usedUnits (w.equipmentOf p) (w.containersOf p) t).map ItemKind.serverId = w.heldIds p := by
  obtain ⟨e, cs, htrans, hupdate⟩ := perform_transferred h
  have hunits := units_transferred htrans hslip
  unfold heldIds
  rw [hupdate.equipment, hupdate.containers, ← hunits]
  simp only [Multiset.map_add]

/-- Three arrows in the ammunition slot. -/
def arrowsEquipped : WorldState :=
  (WorldState.empty.putEquipment 1
    (PlayerEquipment.empty.equip .ammo ⟨2544, 3, none, none, []⟩).2).putContainers 1 .empty

theorem arrowsEquipped_ammo :
    (arrowsEquipped.equipmentOf 1).item .ammo = some ⟨2544, 3, none, none, []⟩ := by
  decide

/-- Two of three arrows are dropped to the ground: the one left and the two handed out are the
three. -/
theorem heldIds_perform_arrows :
    ((groundDrop (.equipmentSlot .ammo) 2).perform 1 arrowsEquipped).2.heldIds 1 +
        (returnedUnits (some ⟨2544, 2, none, none, []⟩)).map ItemKind.serverId +
        (usedUnits (arrowsEquipped.equipmentOf 1) (arrowsEquipped.containersOf 1)
          (groundDrop (.equipmentSlot .ammo) 2)).map ItemKind.serverId =
      arrowsEquipped.heldIds 1 := by
  refine heldIds_perform (r := some ⟨2544, 2, none, none, []⟩) rfl ?_
  intro hslip
  cases hslip with
  | dropEquipped hx hne =>
    rw [arrowsEquipped_ammo] at hx
    cases hx
    exact hne rfl

/-- **An arrow that is shot is gone**: consuming a unit keeps fewer units. -/
theorem arrowsEquipped_shot : ¬∀ (w w' : WorldState) (p : ℕ) (t : InventoryTransfer)
    (r : Option ItemInstance), t.perform p w = (.ok r, w') →
      w'.heldIds p + (returnedUnits r).map ItemKind.serverId = w.heldIds p := by
  intro h
  have hsame := h arrowsEquipped _ 1 (.consumeEquipmentItemUnit .ammo) none rfl
  exact absurd hsame (by decide)

end InventoryTransfer

end ForgottenEngine
