import ForgottenEngine.MapEffects
import ForgottenEngine.TransferConservation

/-!
# All items of a server

The units of everything that a running server holds, by item id: in the slots and the windows of
the players and on the tiles of the live map, with whatever is inside.

* `HostState.itemIds` — the total;
* `transferred_le` — a transfer inside an inventory makes no units, as long as no stack of several
  units has something inside;
* `GroundDropped.itemIds_le`, `RuntimeTaken.itemIds_le`, `SourceTaken.itemIds_le` — neither does a
  drop, a pickup or a take of a source item, though the first two may lose what is inside;
* `itemIds_le_of_expired` — nor does expiry.
-/

namespace ForgottenEngine

open Fallible

/-! ### On the map -/

namespace WorldMapItem

mutual

/-- The units of an item on the map, with what is inside it. -/
def ids : WorldMapItem → Multiset ℕ
  | ⟨serverId, _, count, _, _, _, _, _, _, _, children⟩ =>
    Multiset.replicate count serverId + idsOf children

def idsOf : List WorldMapItem → Multiset ℕ
  | [] => 0
  | item :: items => ids item + idsOf items

end

theorem ids_eq (item : WorldMapItem) :
    item.ids = Multiset.replicate item.count item.serverId + idsOf item.children := by
  cases item
  rw [ids]

@[simp] theorem idsOf_nil : idsOf [] = 0 := by rw [idsOf]

@[simp] theorem idsOf_cons (item : WorldMapItem) (items : List WorldMapItem) :
    idsOf (item :: items) = item.ids + idsOf items := by rw [idsOf]

theorem idsOf_eq_sum (items : List WorldMapItem) : idsOf items = (items.map ids).sum := by
  induction items with
  | nil => simp
  | cons item items ih => simp [ih]

theorem idsOf_append (items more : List WorldMapItem) :
    idsOf (items ++ more) = idsOf items + idsOf more := by
  simp [idsOf_eq_sum]

theorem idsOf_eraseIdx {items : List WorldMapItem} {i : ℕ} {item : WorldMapItem}
    (h : items[i]? = some item) : idsOf items = item.ids + idsOf (items.eraseIdx i) := by
  obtain ⟨hi, rfl⟩ := List.getElem?_eq_some_iff.mp h
  rw [← idsOf_cons, idsOf_eq_sum, idsOf_eq_sum,
    ((List.getElem_cons_eraseIdx_perm hi).map ids).sum_eq]

theorem idsOf_set {items : List WorldMapItem} {i : ℕ} {item : WorldMapItem}
    (h : items[i]? = some item) (other : WorldMapItem) :
    idsOf (items.set i other) + item.ids = idsOf items + other.ids := by
  rw [idsOf_eq_sum, idsOf_eq_sum]
  exact Indices.sum_map_set ids other h

theorem modify_eq_set {items : List WorldMapItem} {i : ℕ} {item : WorldMapItem}
    (h : items[i]? = some item) (f : WorldMapItem → WorldMapItem) :
    items.modify i f = items.set i (f item) := by
  rw [List.modify_eq_set, h, Option.getD_some]

/-- A plain item with nothing inside. -/
theorem ids_plain (serverId count : ℕ) :
    (plainMapItem serverId count []).ids = Multiset.replicate count serverId := by
  rw [ids_eq]
  exact add_zero _

end WorldMapItem

/-- The units of everything on the map. -/
def WorldMap.ids (self : WorldMap) : Multiset ℕ :=
  OrderedMap.sumValues self.tileItems WorldMapItem.idsOf

/-- Writing the items of one tile. -/
theorem WorldMap.ids_setTileItems {m m' : WorldMap} {position : Position}
    {items : List WorldMapItem} (h : m.setTileItems position items = .ok m') :
    m'.ids + WorldMapItem.idsOf (m.itemsAt position) = m.ids + WorldMapItem.idsOf items := by
  obtain ⟨hlen, rfl⟩ := WorldMap.setTileItems_eq_ok.mp h
  have hset := OrderedMap.sumValues_insert m.tileItems position items WorldMapItem.idsOf
  show OrderedMap.sumValues (m.tileItems.insert position items) WorldMapItem.idsOf + _ = _
  unfold WorldMap.ids WorldMap.itemsAt WorldMap.tileItemsAt
  rw [hset]
  cases hold : m.tileItems[position]? with
  | none =>
    rw [OrderedMap.erase_of_getElem?_none hold, Option.getD_none, WorldMapItem.idsOf_nil]
    abel
  | some old =>
    rw [OrderedMap.sumValues_of_getElem? WorldMapItem.idsOf hold, Option.getD_some]
    abel

/-! ### In the inventories -/

/-- A sum when the values of one key may have changed. -/
theorem sumValues_of_others {ν M : Type} [AddCommMonoid M] {m m' : BTreeMap ℕ ν} {p : ℕ}
    (h : ∀ q, q ≠ p → m'[q]? = m[q]?) (f : ν → M) :
    OrderedMap.sumValues m' f + m[p]?.elim 0 f = OrderedMap.sumValues m f + m'[p]?.elim 0 f := by
  have hsplit (n : BTreeMap ℕ ν) :
      OrderedMap.sumValues n f = n[p]?.elim 0 f + OrderedMap.sumValues (n.erase p) f := by
    cases hp : n[p]? with
    | none => rw [OrderedMap.erase_of_getElem?_none hp, Option.elim_none, zero_add]
    | some v => rw [OrderedMap.sumValues_of_getElem? f hp, Option.elim_some]
  have hrest : m'.erase p = m.erase p := by
    apply Std.ExtTreeMap.ext_getElem?
    intro q
    by_cases hq : p = q
    · simp [hq]
    · simp [Std.ExtTreeMap.getElem?_erase, hq, h q (Ne.symm hq)]
  rw [hsplit m', hsplit m, hrest]
  abel

/-- Only one player may have another inventory. -/
structure WorldState.OthersKeep (p : ℕ) (w w' : WorldState) : Prop where
  equipments : ∀ q, q ≠ p → w'.playerEquipments[q]? = w.playerEquipments[q]?
  containers : ∀ q, q ≠ p → w'.playerContainers[q]? = w.playerContainers[q]?

namespace WorldState

variable {w w' : WorldState} {p : ℕ} {e : PlayerEquipment} {cs : PlayerContainers}

theorem OthersKeep.refl (p : ℕ) (w : WorldState) : w.OthersKeep p w :=
  ⟨fun _ _ => rfl, fun _ _ => rfl⟩

theorem InventoryUpdate.othersKeep (h : w.InventoryUpdate p e cs w') : w.OthersKeep p w' :=
  ⟨h.otherEquipment, h.otherContainers⟩

theorem InventoryWritten.othersKeep (h : InventoryWritten p e cs w w') : w.OthersKeep p w' := by
  constructor
  · intro q hq
    simp [h.equipments, Std.ExtTreeMap.getElem?_insert, Ne.symm hq]
  · intro q hq
    simp [h.containers, Std.ExtTreeMap.getElem?_insert, Ne.symm hq]

/-- The units in all inventories. -/
def ids (w : WorldState) : Multiset ℕ :=
  (OrderedMap.sumValues w.playerEquipments PlayerEquipment.units +
    OrderedMap.sumValues w.playerContainers PlayerContainers.units).map ItemKind.serverId

theorem elim_units {e : Option PlayerEquipment} :
    e.elim 0 PlayerEquipment.units = (e.getD .empty).units := by
  cases e with
  | none => rfl
  | some e => rfl

theorem elim_containers {cs : Option PlayerContainers} :
    cs.elim 0 PlayerContainers.units = (cs.getD .empty).units := by
  cases cs with
  | none => rfl
  | some cs => rfl

/-- The total changes by what one player holds. -/
theorem OthersKeep.ids (h : w.OthersKeep p w') : w'.ids + w.heldIds p = w.ids + w'.heldIds p := by
  have hslots := sumValues_of_others h.equipments PlayerEquipment.units
  have hwindows := sumValues_of_others h.containers PlayerContainers.units
  rw [elim_units, elim_units] at hslots
  rw [elim_containers, elim_containers] at hwindows
  unfold WorldState.ids heldIds equipmentOf containersOf
  rw [← Multiset.map_add, ← Multiset.map_add]
  congr 1
  rw [add_add_add_comm, hslots, hwindows, add_add_add_comm]

end WorldState

/-- The units of everything in the inventories and on the live map. -/
def HostState.itemIds (s : HostState) : Multiset ℕ := s.world.ids + s.map.map.ids

/-- What one player and the map together do not gain, nobody gains. -/
theorem itemIds_le {s s' : HostState} {p : ℕ}
    (hothers : WorldState.OthersKeep p s.world.toWorldState s'.world.toWorldState)
    (h : s'.world.heldIds p + s'.map.map.ids ≤ s.world.heldIds p + s.map.map.ids) :
    s'.itemIds ≤ s.itemIds := by
  have hids := hothers.ids
  unfold HostState.itemIds
  apply le_of_add_le_add_right (a := s.world.heldIds p)
  calc s'.world.ids + s'.map.map.ids + s.world.heldIds p
      = s'.world.ids + s.world.heldIds p + s'.map.map.ids := by abel
    _ = s.world.ids + (s'.world.heldIds p + s'.map.map.ids) := by rw [hids, add_assoc]
    _ ≤ s.world.ids + (s.world.heldIds p + s.map.map.ids) := add_le_add_right h _
    _ = s.world.ids + s.map.map.ids + s.world.heldIds p := by abel

/-! ### Inside an inventory -/

/-- No stack of several units, in a slot or a window, has something inside. -/
def NoFilledStacks (e : PlayerEquipment) (cs : PlayerContainers) : Prop :=
  ∀ x : ItemInstance, ((∃ slot, e.item slot = some x) ∨
    ∃ id c, cs.container id = some c ∧ x ∈ c.items.items) → 1 < x.count → x.contents = []

section Transfers

variable {e e' : PlayerEquipment} {cs cs' : PlayerContainers} {x rest moved : ItemInstance} {n : ℕ}

/-- Splitting a stack that has nothing inside clones nothing. -/
theorem clonedUnits_eq_zero (hwhole : 1 < x.count → x.contents = [])
    (h : x.splitOff n = .ok (rest, moved)) : x.clonedUnits n = 0 := by
  obtain ⟨hpos, -, -, -⟩ := ItemInstance.splitOff_eq_ok.mp h
  unfold ItemInstance.clonedUnits
  split
  · next hlt =>
    unfold ItemInstance.contentUnits
    rw [hwhole (by omega), ItemInstance.unitsOf_nil]
  · rfl

theorem clonedUnits_window {id i : ℕ} {c : PlayerContainer} {items : ItemContainer}
    (hwhole : NoFilledStacks e cs) (hc : cs.container id = some c)
    (hx : c.items.remove i = some (x, items)) (h : x.splitOff n = .ok (rest, moved)) :
    x.clonedUnits n = 0 := by
  have hmem := List.mem_of_getElem? (ItemContainer.remove_eq_some.mp hx).1
  exact clonedUnits_eq_zero (hwhole x (.inr ⟨id, c, hc, hmem⟩)) h

theorem clonedUnits_slot {slot : EquipmentSlot} (hwhole : NoFilledStacks e cs)
    (hx : e.item slot = some x) (h : x.splitOff n = .ok (rest, moved)) : x.clonedUnits n = 0 :=
  clonedUnits_eq_zero (hwhole x (.inl ⟨slot, hx⟩)) h

/-- What is split off is a part. -/
theorem units_moved_le (h : x.splitOff n = .ok (rest, moved)) : moved.units ≤ x.units := by
  obtain ⟨-, hle, -, rfl⟩ := ItemInstance.splitOff_eq_ok.mp h
  rw [ItemInstance.units_eq, ItemInstance.units_eq]
  exact add_le_add (Multiset.replicate_le_replicate _ |>.mpr hle) le_rfl

theorem le_of_add_eq {κ : Type} {a b d : Multiset κ} (h : a + d = b) : a ≤ b :=
  Multiset.le_iff_exists_add.mpr ⟨d, h.symm⟩

/-- A part leaves one place and is stored in another one, which may drop what is inside. -/
theorem kept_add_stored_le {before kept after stored part dropped : Multiset ItemKind}
    (hkeep : kept + part = before) (hstore : stored + dropped = after + part) :
    kept + stored ≤ before + after := by
  apply le_of_add_eq (d := dropped)
  rw [add_assoc, hstore, ← hkeep]
  abel

open InventoryTransfer in
/-- **A transfer makes no units**, as long as no stack of several has something inside. -/
theorem transferred_le {t : InventoryTransfer} {r : Option ItemInstance}
    (h : Transferred e cs t r e' cs') (hwhole : NoFilledStacks e cs)
    (hplain : ∀ plan, t ≠ .genericMove plan) :
    e'.units + cs'.units + returnedUnits r ≤ e.units + cs.units := by
  by_cases hslip : Slips e cs t
  · cases h with
    | contentItemToContainer hc hx ht hroot hmerge =>
      have htake := PlayerContainers.units_take hc (ItemContainer.units_takeContent hx)
      have hstore := PlayerContainers.units_store ht hmerge
      rw [htake] at hstore
      simp only [returnedUnits, Option.elim_none, add_zero]
      exact add_le_add_right (le_of_add_eq hstore) _
    | equipmentStackToContainer hx hsplit hc hmerge =>
      have hkeep := PlayerEquipment.units_split hx hsplit
      rw [clonedUnits_slot hwhole hx hsplit, add_zero] at hkeep
      simp only [returnedUnits, Option.elim_none, add_zero]
      exact kept_add_stored_le hkeep (PlayerContainers.units_store hc hmerge)
    | containerStackToEquipment hc hx hsplit hplace =>
      have hkeep := PlayerContainers.units_split hc hx hsplit
      rw [clonedUnits_window hwhole hc hx hsplit, add_zero] at hkeep
      simp only [returnedUnits, Option.elim_none, add_zero]
      rw [add_comm, add_comm e.units]
      exact kept_add_stored_le hkeep (PlayerEquipment.units_placeStack hplace)
    | @containerStackToContainer a i b n ca cb x items rest moved d items' hab ha hb hx hsplit
        hmerge =>
      have hkeep := PlayerContainers.units_split ha hx hsplit
      have hb' : (cs.setItems a (items.keepRest i rest)).container b = some cb := by
        rw [PlayerContainers.container_setItems, if_neg hab, hb]
      have hstore := PlayerContainers.units_store hb' hmerge
      rw [hkeep, clonedUnits_window hwhole ha hx hsplit, add_zero] at hstore
      simp only [returnedUnits, Option.elim_none, add_zero]
      exact add_le_add_right (le_of_add_eq hstore) _
    | dropEquipment hx hsplit =>
      have hkeep := PlayerEquipment.units_split hx hsplit
      rw [clonedUnits_slot hwhole hx hsplit, add_zero] at hkeep
      simp only [returnedUnits, Option.elim_some]
      rw [← hkeep]
      exact le_of_eq (by abel)
    | dropContainerItem hc hx hsplit =>
      have hkeep := PlayerContainers.units_split hc hx hsplit
      rw [clonedUnits_window hwhole hc hx hsplit, add_zero] at hkeep
      simp only [returnedUnits, Option.elim_some]
      rw [← hkeep, add_assoc]
    | dropContainerContent hc hx hsplit =>
      have htake := PlayerContainers.units_take hc (ItemContainer.units_takeContent hx)
      simp only [returnedUnits, Option.elim_some]
      rw [← htake, add_assoc]
      exact add_le_add_right (add_le_add_right (units_moved_le hsplit) _) _
    | genericMove => exact absurd rfl (hplain _)
    | _ => cases hslip
  · have hunits := units_transferred h hslip
    exact le_of_add_eq hunits

end Transfers

/-! ### Between an inventory and the map -/

/-- A plain stack by id. -/
theorem ids_units_le (x : ItemInstance) :
    Multiset.replicate x.count x.serverId ≤ x.units.map ItemKind.serverId := by
  rw [ItemInstance.units_eq, Multiset.map_add, Multiset.map_replicate]
  exact Multiset.le_add_right _ _

section Admission

variable {e e' : PlayerEquipment} {cs cs' : PlayerContainers} {moved : ItemInstance}

/-- What is taken in is all that comes in. -/
theorem Admitted.units_le {destination : PlayerGroundDropSource}
    (h : Admitted e cs moved destination e' cs') :
    e'.units + cs'.units ≤ e.units + cs.units + moved.units := by
  cases h with
  | equipped hplace =>
    have hle := le_of_add_eq (PlayerEquipment.units_placeStack hplace)
    rw [add_right_comm]
    exact add_le_add_left hle _
  | stored hc _ hmerge =>
    have hle := le_of_add_eq (PlayerContainers.units_store hc hmerge)
    rw [add_assoc]
    exact add_le_add_right hle _
  | nowhere => exact Multiset.le_add_right _ _

end Admission

section MapOperations

variable {s s' : HostState} {p : ℕ} {e e' : PlayerEquipment} {cs cs' : PlayerContainers}

theorem heldIds_of_tables (he : s.world.playerEquipments[p]? = some e)
    (hcs : s.world.playerContainers[p]? = some cs) :
    s.world.heldIds p = (e.units + cs.units).map ItemKind.serverId := by
  simp [WorldState.heldIds, WorldState.equipmentOf, WorldState.containersOf, he, hcs]

theorem heldIds_of_tables_written {w w' : WorldState} (h : w.InventoryWritten p e' cs' w') :
    w'.heldIds p = (e'.units + cs'.units).map ItemKind.serverId := by
  rw [WorldState.heldIds, h.equipmentOf, h.containersOf]

/-- **A drop makes no units**; it loses what is inside the stack. -/
theorem GroundDropped.itemIds_le {source : PlayerGroundDropSource} {target : Position} {n : ℕ}
    {moved : ItemInstance} {nextMap : WorldMap}
    (h : GroundDropped p source target n s s' e cs moved e' cs' nextMap)
    (hwhole : NoFilledStacks e cs) : s'.itemIds ≤ s.itemIds := by
  apply ForgottenEngine.itemIds_le h.written.othersKeep
  have hmap : s'.map.map.ids = s.map.map.ids +
      Multiset.replicate moved.count moved.serverId := by
    have hset := WorldMap.ids_setTileItems h.room
    rw [WorldMapItem.idsOf_append, WorldMapItem.idsOf_cons, WorldMapItem.idsOf_nil, add_zero,
      WorldMapItem.ids_plain, add_comm (WorldMapItem.idsOf _), ← add_assoc] at hset
    rw [h.map]
    exact add_right_cancel hset
  have hunits := transferred_le h.taken hwhole (fun plan => by simp)
  rw [heldIds_of_tables h.equipment h.containers, heldIds_of_tables_written h.written, hmap]
  calc (e'.units + cs'.units).map ItemKind.serverId +
        (s.map.map.ids + Multiset.replicate moved.count moved.serverId)
      = (e'.units + cs'.units).map ItemKind.serverId +
          Multiset.replicate moved.count moved.serverId + s.map.map.ids := by abel
    _ ≤ (e'.units + cs'.units).map ItemKind.serverId +
          moved.units.map ItemKind.serverId + s.map.map.ids :=
        add_le_add_left (add_le_add_right (ids_units_le moved) _) _
    _ = (e'.units + cs'.units + moved.units).map ItemKind.serverId + s.map.map.ids := by
        rw [← Multiset.map_add]
    _ ≤ (e.units + cs.units).map ItemKind.serverId + s.map.map.ids :=
        add_le_add_left (Multiset.map_le_map hunits) _

/-- Taking one plain stack in and off the map. -/
theorem itemIds_le_of_taken {destination : PlayerGroundDropSource} {moved : ItemInstance}
    {items : List WorldMapItem} {position : Position} {nextMap : WorldMap}
    (he : s.world.playerEquipments[p]? = some e) (hcs : s.world.playerContainers[p]? = some cs)
    (hadmitted : Admitted e cs moved destination e' cs')
    (hwritten : WorldState.InventoryWritten p e' cs' s.world.toWorldState s'.world.toWorldState)
    (hroom : s.map.map.setTileItems position items = .ok nextMap) (hmap : s'.map.map = nextMap)
    (hitems : moved.units.map ItemKind.serverId + WorldMapItem.idsOf items ≤
      WorldMapItem.idsOf (s.map.map.itemsAt position)) : s'.itemIds ≤ s.itemIds := by
  apply ForgottenEngine.itemIds_le hwritten.othersKeep
  have hset := WorldMap.ids_setTileItems hroom
  have hheld : (e'.units + cs'.units).map ItemKind.serverId ≤
      (e.units + cs.units).map ItemKind.serverId + moved.units.map ItemKind.serverId := by
    rw [← Multiset.map_add]
    exact Multiset.map_le_map hadmitted.units_le
  have hleft : moved.units.map ItemKind.serverId + nextMap.ids ≤ s.map.map.ids := by
    apply le_of_add_le_add_right (a := WorldMapItem.idsOf (s.map.map.itemsAt position))
    rw [add_assoc, hset, add_left_comm]
    exact add_le_add_right hitems _
  rw [heldIds_of_tables he hcs, heldIds_of_tables_written hwritten, hmap]
  calc _ ≤ (e.units + cs.units).map ItemKind.serverId + moved.units.map ItemKind.serverId +
        nextMap.ids := add_le_add_left hheld _
    _ ≤ _ := by
        rw [add_assoc]
        exact add_le_add_right hleft _

theorem WorldMapItem.ids_plain_children (serverId count : ℕ) (children : List WorldMapItem) :
    (plainMapItem serverId count children).ids =
      Multiset.replicate count serverId + WorldMapItem.idsOf children := by
  rw [WorldMapItem.ids_eq]
  rfl

/-- Units of a stack are taken, or stay. -/
theorem WorldMapItem.ids_split {child : WorldMapItem} {n : ℕ} (h : n ≤ child.count) :
    Multiset.replicate n child.serverId + WorldMapItem.ids { child with count := child.count - n } =
      child.ids := by
  rw [WorldMapItem.ids_eq child, WorldMapItem.ids_eq, ← add_assoc, ← Multiset.replicate_add,
    Nat.add_sub_cancel' h]

/-- A child in part or whole. -/
theorem takeChild_ids {mapItem : WorldMapItem} {i n : ℕ} {take : RuntimeTake}
    (h : mapItem.takeChild i n = some take) : take.removeTop = false ∧ take.nextTopCount = none ∧
      Multiset.replicate take.moved.count take.moved.serverId +
        WorldMapItem.idsOf take.nextChildren ≤ WorldMapItem.idsOf mapItem.children := by
  unfold WorldMapItem.takeChild at h
  cases hchild : mapItem.children[i]? with
  | none => simp [hchild] at h
  | some child =>
    by_cases hfew : child.count < n
    · simp [hchild, hfew] at h
    · have htake := h
      simp only [hchild, Option.bind_eq_bind, Option.bind_some, if_neg hfew,
        Option.some.injEq] at htake
      subst htake
      refine ⟨rfl, rfl, ?_⟩
      show Multiset.replicate n child.serverId + WorldMapItem.idsOf _ ≤ _
      have hsplit := WorldMapItem.ids_split (Nat.le_of_not_lt hfew)
      split
      · apply le_of_add_le_add_right (a := child.ids)
        rw [add_assoc, WorldMapItem.idsOf_set hchild, add_left_comm, hsplit]
      · rw [WorldMapItem.idsOf_eraseIdx hchild, ← hsplit]
        exact add_le_add_left (Multiset.le_add_right _ _) _

/-- What is taken off a runtime item and what is left of it. -/
theorem takeRuntime_ids {mapItem : WorldMapItem} {childIndex : Option ℕ} {n : ℕ}
    {take : RuntimeTake} (h : mapItem.takeRuntime childIndex n = some take) :
    Multiset.replicate take.moved.count take.moved.serverId +
      (if take.removeTop then 0 else (plainMapItem mapItem.serverId
        (take.nextTopCount.getD mapItem.count) take.nextChildren).ids) ≤ mapItem.ids := by
  cases childIndex with
  | some i =>
    obtain ⟨hkeep, hcount, hle⟩ := takeChild_ids (i := i) h
    rw [hkeep, hcount, if_neg Bool.false_ne_true, WorldMapItem.ids_plain_children,
      Option.getD_none, WorldMapItem.ids_eq mapItem, add_left_comm]
    exact add_le_add_right hle _
  | none =>
    have htake : mapItem.takeTop n = some take := h
    unfold WorldMapItem.takeTop at htake
    by_cases hfew : mapItem.count < n
    · simp [hfew] at htake
    · rw [WorldMapItem.ids_eq mapItem]
      by_cases hrest : 0 < mapItem.count - n
      · simp only [if_neg hfew, if_pos hrest, Option.some.injEq] at htake
        subst htake
        show Multiset.replicate n mapItem.serverId + (plainMapItem _ _ _).ids ≤ _
        rw [WorldMapItem.ids_plain_children, ← add_assoc, Option.getD_some,
          ← Multiset.replicate_add, Nat.add_sub_cancel' (Nat.le_of_not_lt hfew)]
      · simp only [if_neg hfew, if_neg hrest, Option.some.injEq] at htake
        subst htake
        show Multiset.replicate n mapItem.serverId + 0 ≤ _
        rw [add_zero]
        exact le_trans (Multiset.replicate_le_replicate _ |>.mpr (Nat.le_of_not_lt hfew))
          (Multiset.le_add_right _ _)

/-- **A pickup makes no units**; the last unit of an item takes what is inside along, out of
sight. -/
theorem RuntimeTaken.itemIds_le {position : Position} {itemIndex : ℕ} {childIndex : Option ℕ}
    {n recordIndex : ℕ} {destination : PlayerGroundDropSource} {items : List WorldMapItem}
    {mapItem : WorldMapItem} {take : RuntimeTake} {moved : ItemInstance} {nextMap : WorldMap}
    (h : RuntimeTaken p position itemIndex childIndex n destination s s' items recordIndex mapItem
      take moved e cs e' cs' nextMap) : s'.itemIds ≤ s.itemIds := by
  have hmap : s'.map.map = nextMap := by rw [h.map]
  refine itemIds_le_of_taken h.equipment h.containers h.admitted h.written h.room hmap ?_
  obtain ⟨-, -, hmoved⟩ := Host.itemNew_eq_ok.mp h.stack
  have hids : moved.units.map ItemKind.serverId =
      Multiset.replicate take.moved.count take.moved.serverId := by
    rw [hmoved, ItemInstance.units_eq, Multiset.map_add, Multiset.map_replicate]
    exact add_zero _
  rw [hids, WorldMap.itemsAt_eq h.tile]
  have htake := takeRuntime_ids h.took
  unfold RuntimeTake.nextItems
  split
  · next hremove =>
    rw [if_pos hremove, add_zero] at htake
    rw [WorldMapItem.idsOf_eraseIdx h.item]
    exact add_le_add_left htake _
  · next hkeep =>
    rw [if_neg hkeep] at htake
    apply le_of_add_le_add_right (a := mapItem.ids)
    rw [add_assoc, WorldMapItem.idsOf_set h.item, add_left_comm]
    exact add_le_add_right htake _

/-- **A take of a source item makes no units.** -/
theorem SourceTaken.itemIds_le {position : Position} {k requested index : ℕ}
    {destination : PlayerGroundDropSource} {runtimeItem : WorldMapItem} {item : ItemInstance}
    (h : SourceTaken p position k requested destination s s' index runtimeItem item e cs e' cs') :
    s'.itemIds ≤ s.itemIds := by
  have hids : item.units.map ItemKind.serverId =
      Multiset.replicate requested runtimeItem.serverId := by
    rw [h.moved, ItemInstance.units_eq, Multiset.map_add, Multiset.map_replicate]
    exact add_zero _
  have hwhole : runtimeItem.ids = Multiset.replicate runtimeItem.count runtimeItem.serverId := by
    rw [WorldMapItem.ids_eq, h.plain, WorldMapItem.idsOf_nil, add_zero]
  have hchange := h.map
  generalize hm : s'.map = m' at hchange
  cases hchange with
  | whole hall _ hroom _ =>
    refine itemIds_le_of_taken h.equipment h.containers h.admitted h.written hroom
      (by rw [hm]) ?_
    rw [hids, hall, ← hwhole, ← WorldMapItem.idsOf_eraseIdx h.runtime]
  | part hless hroom =>
    refine itemIds_le_of_taken h.equipment h.containers h.admitted h.written hroom
      (by rw [hm]) ?_
    rw [hids, WorldMapItem.modify_eq_set h.runtime]
    apply le_of_add_le_add_right (a := runtimeItem.ids)
    rw [add_assoc, WorldMapItem.idsOf_set h.runtime, add_left_comm]
    apply add_le_add_right
    rw [WorldMapItem.ids_eq { runtimeItem with count := runtimeItem.count - requested }, h.plain,
      WorldMapItem.idsOf_nil, add_zero, hwhole, ← Multiset.replicate_add]
    exact le_of_eq (by rw [Nat.add_sub_cancel' hless.le])

end MapOperations

/-! ### Expiry -/

/-- A fold of steps none of which makes something larger. -/
theorem foldlM_le {ε β γ M : Type} [Preorder M] {f : β → γ → Except ε β} (size : β → M)
    (hf : ∀ b c b', f b c = .ok b' → size b' ≤ size b) {xs : List γ} {b b' : β}
    (h : xs.foldlM f b = .ok b') : size b' ≤ size b := by
  induction xs generalizing b with
  | nil =>
    cases h
    exact le_refl _
  | cons x xs ih =>
    obtain ⟨mid, hstep, hrest⟩ := except_bind_eq_ok.mp h
    exact (ih hrest).trans (hf b x mid hstep)

theorem ids_expireTile_le {m : SharedNativeMap} {nowTick : ℕ} {map map' : WorldMap}
    {position : Position} (h : m.expireTile nowTick map position = .ok map') :
    map'.ids ≤ map.ids := by
  unfold SharedNativeMap.expireTile at h
  cases hitems : map.tileItemsAt position with
  | none =>
    rw [hitems] at h
    cases h
  | some items =>
    rw [hitems] at h
    obtain ⟨remaining, hrun, hset⟩ := except_bind_eq_ok.mp h
    have hfewer : WorldMapItem.idsOf remaining ≤ WorldMapItem.idsOf items := by
      refine foldlM_le WorldMapItem.idsOf (fun left i fewer hstep => ?_) hrun
      split_ifs at hstep with hrange
      cases hstep
      have hitem := List.getElem?_eq_getElem (Nat.lt_of_not_le hrange)
      rw [WorldMapItem.idsOf_eraseIdx hitem]
      exact Multiset.le_add_left _ _
    have hids := WorldMap.ids_setTileItems hset
    rw [WorldMap.itemsAt_eq hitems] at hids
    apply le_of_add_le_add_right (a := WorldMapItem.idsOf items)
    rw [hids]
    exact add_le_add_right hfewer _

/-- **Expiry makes no units.** -/
theorem itemIds_le_of_expired {s s' : HostState} {nowTick : ℕ} {positions : List Position}
    (h : Host.removeExpiredRuntimeItems nowTick s = (.ok positions, s')) :
    s'.world = s.world ∧ s'.itemIds ≤ s.itemIds := by
  rcases Host.removeExpiredRuntimeItems_eq_ok h with rfl | ⟨nextMap, hfold, hmap, -, hworld⟩
  · exact ⟨rfl, le_refl _⟩
  · refine ⟨hworld, ?_⟩
    unfold HostState.itemIds
    rw [hworld, hmap]
    exact add_le_add_right (foldlM_le WorldMap.ids
      (fun _ _ _ hstep => ids_expireTile_le hstep) hfold) _

end ForgottenEngine
