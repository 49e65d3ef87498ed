import ForgottenEngine.WorldEvents

/-!
# The bounds of items, containers and windows

`Bounded` says, kind by kind, what the bounds of the source ask of an item, a container, a window,
the windows and the equipment of a player, and a world: counts between one and a hundred, contents
one level deep and within their slots, no container over its capacity, every window under its own
identifier and at most sixteen of them.

`Reachable` closes the empty inventories under the public operations.  A value of any kind may be
built, read out, changed and written back, which is what `item_mut` and `container_mut` allow.

* `reachable_bounded` — everything reachable is bounded, provided that what a split leaves is
  dropped when it is empty, as every caller of `splitOff` in the source does;
* `keptRest_unbounded` — a split through `item_mut` that keeps the empty rest is the exception.
-/

namespace ForgottenEngine

/-! ### Items -/

namespace ItemInstance

/-- A count the source admits. -/
def CountBounded (x : ItemInstance) : Prop := 1 ≤ x.count ∧ x.count ≤ maxItemStackCount

instance (x : ItemInstance) : Decidable x.CountBounded := inferInstanceAs (Decidable (_ ∧ _))

/-- A bounded item: its count, its content slots, and contents that are bounded and hold nothing
themselves. -/
structure Bounded (x : ItemInstance) : Prop where
  count : x.CountBounded
  slots : x.contents.length ≤ maxContentSlots
  contents : ∀ y ∈ x.contents, y.CountBounded ∧ y.contents = []

/-- Depth zero means no contents. -/
theorem contents_of_contentDepth {x : ItemInstance} (h : x.contentDepth < maxContentDepth) :
    x.contents = [] := by
  cases x with
  | mk serverId count actionId uniqueId contents =>
    cases contents with
    | nil => rfl
    | cons child rest =>
      simp only [contentDepth, contentDepthOf, maxContentDepth] at h
      omega

variable {x y z : ItemInstance}

theorem Bounded.new {serverId count : ℕ} (h : new serverId count = .ok x) : x.Bounded := by
  unfold ItemInstance.new at h
  split at h
  · cases h
  · split at h
    · cases h
    · rename_i hcount
      cases h
      exact ⟨not_not.mp hcount, Nat.zero_le _, fun y hy => absurd hy List.not_mem_nil⟩

theorem Bounded.withIds (h : x.Bounded) (actionId uniqueId : Option ℕ) :
    ({ x with actionId, uniqueId } : ItemInstance).Bounded := ⟨h.count, h.slots, h.contents⟩

theorem Bounded.withCount (h : x.Bounded) {n : ℕ} (hn : 1 ≤ n ∧ n ≤ maxItemStackCount) :
    ({ x with count := n } : ItemInstance).Bounded := ⟨hn, h.slots, h.contents⟩

theorem Bounded.content (h : x.Bounded) (hy : y ∈ x.contents) : y.Bounded := by
  obtain ⟨hcount, hnil⟩ := h.contents y hy
  refine ⟨hcount, ?_, ?_⟩
  · rw [hnil]; exact Nat.zero_le _
  · intro z hz
    rw [hnil] at hz
    exact absurd hz List.not_mem_nil

theorem Bounded.insertContent (h : x.Bounded) (hy : y.Bounded) (hz : x.insertContent y = .ok z) :
    z.Bounded := by
  unfold ItemInstance.insertContent at hz
  split at hz
  · cases hz
  · split at hz
    · cases hz
    · rename_i hroom
      split at hz
      · cases hz
      · rename_i hdepth
        cases hz
        refine ⟨h.count, ?_, ?_⟩
        · rw [List.length_append, List.length_singleton]
          omega
        · intro c hc
          rcases List.mem_append.mp hc with hc | hc
          · exact h.contents c hc
          · have heq : c = y := List.mem_singleton.mp hc
            subst heq
            exact ⟨hy.count, contents_of_contentDepth (not_le.mp hdepth)⟩

theorem Bounded.takeContent (h : x.Bounded) {i : ℕ} (ht : x.takeContent i = some (y, z)) :
    y.Bounded ∧ z.Bounded := by
  obtain ⟨hi, rfl⟩ := takeContent_eq_some.mp ht
  refine ⟨h.content (List.mem_of_getElem? hi), h.count, ?_, ?_⟩
  · exact le_trans (List.length_eraseIdx_le ..) h.slots
  · intro c hc
    exact h.contents c (List.mem_of_mem_eraseIdx hc)

/-- **A split** is bounded on the side that is moved, and on the other side when something is
left there. -/
theorem Bounded.splitOff (h : x.Bounded) {n : ℕ} (hs : x.splitOff n = .ok (y, z)) :
    z.Bounded ∧ (0 < y.count → y.Bounded) := by
  obtain ⟨hpos, hle, rfl, rfl⟩ := splitOff_eq_ok.mp hs
  have hcount := h.count.2
  constructor
  · exact h.withCount ⟨hpos, le_trans hle hcount⟩
  · intro hrest
    exact h.withCount ⟨hrest, le_trans (Nat.sub_le _ _) hcount⟩

theorem Bounded.mergeStack (h : x.Bounded) (hz : x.mergeStack y = .ok z) : z.Bounded := by
  obtain ⟨-, hle, rfl⟩ := mergeStack_eq_ok.mp hz
  exact h.withCount ⟨le_trans h.count.1 (Nat.le_add_right _ _), hle⟩

end ItemInstance

/-! ### Containers -/

namespace ItemContainer

/-- A bounded container: within its capacity, all items bounded. -/
structure Bounded (c : ItemContainer) : Prop where
  length : c.items.length ≤ c.capacity
  items : ∀ x ∈ c.items, x.Bounded

variable {c c' : ItemContainer} {x y : ItemInstance} {i : ℕ}

theorem Bounded.new {capacity : ℕ} (h : new capacity = .ok c) : c.Bounded := by
  unfold ItemContainer.new at h
  split at h
  · cases h
  · cases h
    exact ⟨Nat.zero_le _, fun x hx => absurd hx List.not_mem_nil⟩

theorem Bounded.item (h : c.Bounded) (hx : c.items[i]? = some x) : x.Bounded :=
  h.items x (List.mem_of_getElem? hx)

theorem Bounded.setItem (h : c.Bounded) (hx : x.Bounded) (i : ℕ) : (c.setItem i x).Bounded := by
  refine ⟨?_, ?_⟩
  · show (c.items.set i x).length ≤ c.capacity
    rw [List.length_set]
    exact h.length
  · intro y hy
    rcases List.mem_or_eq_of_mem_set hy with hy | rfl
    · exact h.items y hy
    · exact hx

theorem Bounded.eraseIdx (h : c.Bounded) (i : ℕ) :
    ({ c with items := c.items.eraseIdx i } : ItemContainer).Bounded :=
  ⟨le_trans (List.length_eraseIdx_le ..) h.length,
    fun y hy => h.items y (List.mem_of_mem_eraseIdx hy)⟩

theorem Bounded.append (h : c.Bounded) (hx : x.Bounded) (hroom : c.items.length < c.capacity) :
    ({ c with items := c.items ++ [x] } : ItemContainer).Bounded := by
  refine ⟨?_, ?_⟩
  · rw [List.length_append]
    exact hroom
  · intro y hy
    rcases List.mem_append.mp hy with hy | hy
    · exact h.items y hy
    · exact List.mem_singleton.mp hy ▸ hx

theorem Bounded.insert (h : c.Bounded) (hx : x.Bounded) (hc : c.insert x = .ok c') : c'.Bounded := by
  obtain ⟨hroom, rfl⟩ := insert_eq_ok.mp hc
  exact h.append hx hroom

/-- **A stack is taken in** within the bound on counts or within the capacity. -/
theorem Bounded.mergeOrInsertStack (h : c.Bounded) (hx : x.Bounded) {d : ℕ × ℕ}
    (hc : c.mergeOrInsertStack x = .ok (d, c')) : c'.Bounded := by
  rcases mergeOrInsertStack_eq_ok hc with ⟨i, y, hi, -, hle, -, rfl⟩ | ⟨-, hroom, -, rfl⟩
  · have hy := h.item hi
    exact h.setItem (hy.withCount ⟨le_trans hy.count.1 (Nat.le_add_right _ _), hle⟩) i
  · exact h.append hx hroom

theorem Bounded.remove (h : c.Bounded) (hc : c.remove i = some (x, c')) :
    x.Bounded ∧ c'.Bounded := by
  obtain ⟨hi, rfl⟩ := remove_eq_some.mp hc
  exact ⟨h.item hi, h.eraseIdx i⟩

/-- Something goes back to where something was taken from. -/
theorem Bounded.insertAt (h : c.Bounded) (hc : c.remove i = some (x, c')) (hy : y.Bounded) :
    (c'.insertAt i y).Bounded := by
  obtain ⟨hi, rfl⟩ := remove_eq_some.mp hc
  have hlt : i < c.items.length := (List.getElem?_eq_some_iff.mp hi).1
  have hlen : (c.items.eraseIdx i).length = c.items.length - 1 := List.length_eraseIdx_of_lt hlt
  refine ⟨?_, ?_⟩
  · show ((c.items.eraseIdx i).insertIdx i y).length ≤ c.capacity
    rw [List.length_insertIdx_of_le_length (by omega)]
    have := h.length
    omega
  · intro z hz
    have hle : i ≤ (c.items.eraseIdx i).length := by omega
    rcases (List.mem_insertIdx hle).mp hz with rfl | hz
    · exact hy
    · exact h.items z (List.mem_of_mem_eraseIdx hz)

theorem Bounded.keepRest (h : c.Bounded) (hc : c.remove i = some (x, c'))
    (hy : 0 < y.count → y.Bounded) : (c'.keepRest i y).Bounded := by
  unfold ItemContainer.keepRest ItemInstance.remainingCount
  by_cases hpos : 0 < y.count
  · simp only [hpos, if_true, Option.isSome_some]
    exact h.insertAt hc (hy hpos)
  · simp only [hpos, if_false, Option.isSome_none, Bool.false_eq_true]
    exact (h.remove hc).2

theorem Bounded.takeContent (h : c.Bounded) {j : ℕ} (hc : c.takeContent i j = some (x, c')) :
    x.Bounded ∧ c'.Bounded := by
  obtain ⟨y, y', hi, ht, rfl⟩ := takeContent_eq_some.mp hc
  have hy := (h.item hi).takeContent ht
  exact ⟨hy.1, h.setItem hy.2 i⟩

theorem Bounded.consumeItemUnit (h : c.Bounded) (hc : c.consumeItemUnit i = some c') :
    c'.Bounded := by
  unfold ItemContainer.consumeItemUnit at hc
  obtain ⟨x, hi, rfl⟩ := Option.map_eq_some_iff.mp hc
  split
  · rename_i hone
    have hx := h.item hi
    exact h.setItem (hx.withCount ⟨Nat.le_sub_one_of_lt hone,
      le_trans (Nat.sub_le _ _) hx.count.2⟩) i
  · exact h.eraseIdx i

theorem Bounded.takeItemUnits (h : c.Bounded) (i units : ℕ) : (c.takeItemUnits i units).2.Bounded := by
  unfold ItemContainer.takeItemUnits
  cases hi : c.items[i]? with
  | none => exact h
  | some x =>
    have hx := h.item hi
    by_cases hzero : x.count - min x.count units = 0
    · simp only [hzero, if_true, ItemContainer.setItem, List.eraseIdx_set_eq]
      exact h.eraseIdx i
    · simp only [hzero, if_false]
      exact h.setItem (hx.withCount ⟨Nat.one_le_iff_ne_zero.mpr hzero,
        le_trans (Nat.sub_le _ _) hx.count.2⟩) i

end ItemContainer

/-! ### Windows and equipment -/

structure PlayerContainer.Bounded (c : PlayerContainer) : Prop where
  containerItem : c.containerItem.Bounded
  items : c.items.Bounded

theorem PlayerContainer.Bounded.new {containerId capacity : ℕ} {x : ItemInstance} {name : String}
    {hasParent : Bool} {c : PlayerContainer} (hx : x.Bounded)
    (h : PlayerContainer.new containerId x name hasParent capacity = .ok c) : c.Bounded := by
  unfold PlayerContainer.new at h
  split at h
  · cases h
  · cases hnew : ItemContainer.new capacity with
    | error e => rw [hnew] at h; cases h
    | ok items =>
      rw [hnew] at h
      cases h
      exact ⟨hx, .new hnew⟩

namespace PlayerContainers

/-- Bounded windows: each under its own identifier and bounded, and no more than allowed. -/
structure Bounded (cs : PlayerContainers) : Prop where
  window : ∀ id c, cs.container id = some c → c.containerId = id ∧ c.Bounded
  size : cs.len ≤ maxPlayerContainers

variable {cs cs' : PlayerContainers} {id : ℕ} {c : PlayerContainer}

/-- The type keeps the identifiers and the number of windows. -/
theorem Bounded.mk' (h : ∀ id c, cs.container id = some c → c.Bounded) : cs.Bounded :=
  ⟨fun id c hc => ⟨id_of_container hc, h id c hc⟩, cs.bounded⟩

theorem Bounded.empty : PlayerContainers.empty.Bounded := by
  apply Bounded.mk'
  intro id c hc
  have hnone : PlayerContainers.empty.container id = none := KeyedMap.get?_empty id
  rw [hnone] at hc
  cases hc

theorem Bounded.items (h : cs.Bounded) (hc : cs.container id = some c) : c.items.Bounded :=
  (h.window id c hc).2.items

theorem Bounded.setItems (h : cs.Bounded) {items : ItemContainer} (hi : items.Bounded) :
    (cs.setItems id items).Bounded := by
  apply Bounded.mk'
  intro j d hd
  rw [container_setItems] at hd
  split at hd
  · obtain ⟨c, hc, rfl⟩ := Option.map_eq_some_iff.mp hd
    exact ⟨(h.window j c hc).2.containerItem, hi⟩
  · exact (h.window j d hd).2

theorem Bounded.without (h : cs.Bounded) (id : ℕ) : (cs.without id).Bounded := by
  apply Bounded.mk'
  intro j d hd
  rw [container_without] at hd
  split at hd
  · cases hd
  · exact (h.window j d hd).2

theorem Bounded.insert (h : cs.Bounded) (hc : c.Bounded) {old : Option PlayerContainer}
    (hcs : cs.insert c = .ok (old, cs')) : cs'.Bounded := by
  unfold PlayerContainers.insert at hcs
  split at hcs
  · cases hcs
  · cases hcs
    apply Bounded.mk'
    intro j d hd
    rw [container, KeyedMap.get?_insert] at hd
    split at hd
    · cases hd
      exact hc
    · exact (h.window j d hd).2

/-! ### The folds of a trade -/

theorem Bounded.takeReference (h : cs.Bounded) {r : TradeItemReference} {x : ItemInstance}
    (ht : cs.takeReference r = some (x, cs')) : x.Bounded ∧ cs'.Bounded := by
  obtain ⟨c, hc, hx, rfl⟩ := takeReference_eq_some.mp ht
  have hitems := h.items hc
  exact ⟨hitems.item hx, h.setItems (hitems.eraseIdx _)⟩

theorem Bounded.takeOffered (h : cs.Bounded) {refs : List TradeItemReference}
    {taken : List (TradeItemReference × ItemInstance)} (ht : cs.takeOffered refs = some (taken, cs')) :
    (∀ e ∈ taken, e.2.Bounded) ∧ cs'.Bounded := by
  refine PartialFold.foldlM_preserves
    (P := fun out => (∀ e ∈ out.1, e.2.Bounded) ∧ out.2.Bounded) ?_ ⟨?_, h⟩ ht
  · intro out r out' hout hr
    obtain ⟨x, hx, hlist⟩ := takeNext_eq_some.mp hr
    have hboth := hout.2.takeReference hx
    refine ⟨?_, hboth.2⟩
    intro e he
    rw [hlist] at he
    rcases List.mem_append.mp he with he | he
    · exact hout.1 e he
    · rw [List.mem_singleton.mp he]
      exact hboth.1
  · exact fun e he => absurd he List.not_mem_nil

theorem Bounded.restoreItem (h : cs.Bounded) {removed : TradeItemReference × ItemInstance}
    (hx : removed.2.Bounded) : (cs.restoreItem removed).Bounded := by
  unfold PlayerContainers.restoreItem
  cases hc : cs.container removed.1.containerId with
  | none => exact h
  | some c =>
    cases hins : c.items.insert removed.2 with
    | error e => simpa only [hins] using h
    | ok items => simpa only [hins] using h.setItems ((h.items hc).insert hx hins)

theorem Bounded.restoreAll {removed : List (TradeItemReference × ItemInstance)} (h : cs.Bounded)
    (hx : ∀ e ∈ removed, e.2.Bounded) : (cs.restoreAll removed).Bounded := by
  induction removed generalizing cs with
  | nil => exact h
  | cons e removed ih =>
    have hhead := h.restoreItem (hx e List.mem_cons_self)
    exact ih hhead fun d hd => hx d (List.mem_cons_of_mem e hd)

theorem Bounded.receive (h : cs.Bounded) {x : ItemInstance} (hx : x.Bounded)
    (hr : cs.receive x = some cs') : cs'.Bounded := by
  obtain ⟨id, c, d, items, hc, hmerge, -, rfl⟩ := receive_eq_some hr
  exact h.setItems ((h.items hc).mergeOrInsertStack hx hmerge)

theorem Bounded.receiveAll {xs : List ItemInstance} (h : cs.Bounded) (hx : ∀ x ∈ xs, x.Bounded)
    (hr : cs.receiveAll xs = some cs') : cs'.Bounded := by
  induction xs generalizing cs with
  | nil =>
    cases hr
    exact h
  | cons x xs ih =>
    obtain ⟨cs₁, hone, hrest⟩ := PartialFold.foldlM_cons_eq_some.mp hr
    exact ih (h.receive (hx x List.mem_cons_self) hone)
      (fun y hy => hx y (List.mem_cons_of_mem x hy)) hrest

end PlayerContainers

namespace PlayerEquipment

/-- Bounded equipment: all items bounded. -/
def Bounded (e : PlayerEquipment) : Prop := ∀ slot x, e.item slot = some x → x.Bounded

variable {e : PlayerEquipment} {slot : EquipmentSlot} {x : ItemInstance}

theorem Bounded.empty : PlayerEquipment.empty.Bounded := by
  intro slot x hx
  simp [PlayerEquipment.empty, PlayerEquipment.item] at hx

theorem Bounded.equip (h : e.Bounded) (slot : EquipmentSlot) (hx : x.Bounded) :
    (e.equip slot x).2.Bounded := by
  intro j y hy
  rw [item_equip] at hy
  split at hy
  · cases hy
    exact hx
  · exact h j y hy

theorem Bounded.without (h : e.Bounded) (slot : EquipmentSlot) : (e.without slot).Bounded := by
  intro j y hy
  rw [item_without] at hy
  split at hy
  · cases hy
  · exact h j y hy

theorem Bounded.keepRest (h : e.Bounded) (slot : EquipmentSlot) (hx : 0 < x.count → x.Bounded) :
    (e.keepRest slot x).Bounded := by
  unfold PlayerEquipment.keepRest ItemInstance.remainingCount
  by_cases hpos : 0 < x.count
  · simp only [hpos, if_true, Option.isSome_some]
    exact h.equip slot (hx hpos)
  · simp only [hpos, if_false, Option.isSome_none, Bool.false_eq_true]
    exact h

theorem Bounded.placeStack (h : e.Bounded) (hx : x.Bounded) {n : ℕ} {e' : PlayerEquipment}
    (hp : e.placeStack slot x = .ok (n, e')) : e'.Bounded := by
  unfold PlayerEquipment.placeStack at hp
  cases hslot : e.item slot with
  | none =>
    rw [hslot] at hp
    cases hp
    exact h.equip slot hx
  | some y =>
    rw [hslot] at hp
    obtain ⟨z, hz, hp⟩ := Fallible.except_bind_eq_ok.mp hp
    cases hp
    exact h.equip slot ((h slot y hslot).mergeStack hz)

end PlayerEquipment

/-! ### Transfers -/

namespace InventoryTransfer

open World

variable {e e' e₁ : PlayerEquipment} {cs cs' cs₁ : PlayerContainers} {p n : ℕ} {x : ItemInstance}

/-- Detaching the moved item of a generic move. -/
theorem bounded_detach {source : GenericMoveSourceKind} {count : Option ℕ} (he : e.Bounded)
    (hcs : cs.Bounded) (h : detachMovedItem p source count e cs = .ok (x, n, e₁, cs₁)) :
    x.Bounded ∧ e₁.Bounded ∧ cs₁.Bounded := by
  cases source with
  | equipment slot =>
    cases hy : e.item slot with
    | none => simp [detachMovedItem, hy] at h
    | some y =>
      have hbound := he slot y hy
      simp only [detachMovedItem, hy] at h
      split at h
      · cases h
      · rename_i hcount
        split at h
        · cases h
          exact ⟨hbound, he.without slot, hcs⟩
        · rename_i hpart
          obtain ⟨⟨rest, part⟩, hsplit, hout⟩ := Fallible.except_bind_eq_ok.mp h
          cases hout
          have hboth := hbound.splitOff hsplit
          obtain ⟨-, -, hrest, -⟩ := ItemInstance.splitOff_eq_ok.mp hsplit
          have hpos : 0 < rest.count := by rw [hrest]; simp only; omega
          exact ⟨hboth.1, he.equip slot (hboth.2 hpos), hcs⟩
  | container id i =>
    cases hc : cs.container id with
    | none => simp [detachMovedItem, hc] at h
    | some c =>
      have hitems := hcs.items hc
      cases hy : c.items.items[i]? with
      | none => simp [detachMovedItem, hc, ItemContainer.item, hy] at h
      | some y =>
        have hbound := hitems.item hy
        simp only [detachMovedItem, hc, ItemContainer.item, hy] at h
        split at h
        · cases h
        · rename_i hcount
          split at h
          · rw [ItemContainer.remove_eq_some.mpr ⟨hy, rfl⟩] at h
            cases h
            exact ⟨hbound, he, hcs.setItems (hitems.eraseIdx i)⟩
          · rename_i hpart
            obtain ⟨⟨rest, part⟩, hsplit, hout⟩ := Fallible.except_bind_eq_ok.mp h
            cases hout
            have hboth := hbound.splitOff hsplit
            obtain ⟨-, -, hrest, -⟩ := ItemInstance.splitOff_eq_ok.mp hsplit
            have hpos : 0 < rest.count := by rw [hrest]; simp only; omega
            exact ⟨hboth.1, he, hcs.setItems (hitems.setItem (hboth.2 hpos) i)⟩

/-- Placing it. -/
theorem bounded_place {source : GenericMoveSourceKind} {target : GenericMoveTargetKind}
    {placement : GenericPlacement} (hx : x.Bounded) (he : e.Bounded) (hcs : cs.Bounded)
    (h : placeMovedItem p source target x e cs = .ok (placement, e₁, cs₁)) :
    e₁.Bounded ∧ cs₁.Bounded := by
  cases target with
  | equipment slot allowSwap =>
    cases hy : e.item slot with
    | none =>
      simp only [placeMovedItem, hy] at h
      cases h
      exact ⟨he.equip slot hx, hcs⟩
    | some current =>
      simp only [placeMovedItem, hy] at h
      split at h
      · cases source with
        | equipment _ =>
          cases h
          exact ⟨he.equip slot hx, hcs⟩
        | container id i =>
          cases hc : cs.container id with
          | none =>
            simp only [hc] at h
            cases h
            exact ⟨he.equip slot hx, hcs⟩
          | some c =>
            simp only [hc] at h
            obtain ⟨items, hins, hout⟩ := Fallible.except_bind_eq_ok.mp h
            cases hout
            exact ⟨he.equip slot hx, hcs.setItems ((hcs.items hc).insert (he slot current hy) hins)⟩
      · obtain ⟨_, -, hout⟩ := Fallible.except_bind_eq_ok.mp h
        cases hout
  | container id =>
    cases hc : cs.container id with
    | none =>
      simp only [placeMovedItem, hc] at h
      obtain ⟨_, -, hout⟩ := Fallible.except_bind_eq_ok.mp h
      cases hout
    | some c =>
      simp only [placeMovedItem, hc] at h
      split at h
      · rename_i d items hmerge
        cases h
        exact ⟨he, hcs.setItems ((hcs.items hc).mergeOrInsertStack hx hmerge)⟩
      · obtain ⟨_, -, hout⟩ := Fallible.except_bind_eq_ok.mp h
        cases hout

/-- **An accepted transfer keeps both inventories bounded**, and so is what it hands out. -/
theorem Transferred.bounded {t : InventoryTransfer} {r : Option ItemInstance}
    (h : Transferred e cs t r e' cs') (he : e.Bounded) (hcs : cs.Bounded) :
    e'.Bounded ∧ cs'.Bounded ∧ ∀ x, r = some x → x.Bounded := by
  have hnone (x : ItemInstance) (hx : (none : Option ItemInstance) = some x) : x.Bounded := by
    cases hx
  cases h with
  | equipmentItemToContainer hx hc hins =>
    exact ⟨he.without _, hcs.setItems ((hcs.items hc).insert (he _ _ hx) hins), hnone⟩
  | containerItemToEquipment _ hc hremove =>
    have hboth := (hcs.items hc).remove hremove
    exact ⟨he.equip _ hboth.1, hcs.setItems hboth.2, hnone⟩
  | contentItemToEquipment _ hc htake =>
    have hboth := (hcs.items hc).takeContent htake
    exact ⟨he.equip _ hboth.1, hcs.setItems hboth.2, hnone⟩
  | contentItemToContainer hc htake ht _ hmerge =>
    have hboth := (hcs.items hc).takeContent htake
    have hstore := ((hcs.setItems hboth.2).items ht).mergeOrInsertStack hboth.1 hmerge
    exact ⟨he, (hcs.setItems hboth.2).setItems hstore, hnone⟩
  | swapContainerItemWithEquipment hy hc hremove =>
    have hitems := hcs.items hc
    have hboth := hitems.remove hremove
    exact ⟨(he.without _).equip _ hboth.1, hcs.setItems (hitems.insertAt hremove (he _ _ hy)), hnone⟩
  | swapEquipmentItems _ hx hy =>
    exact ⟨(((he.without _).without _).equip _ (he _ _ hy)).equip _ (he _ _ hx), hcs, hnone⟩
  | consumeEquipmentNothing _ => exact ⟨he, hcs, hnone⟩
  | consumeEquipmentUnit hx hone =>
    have hbound := he _ _ hx
    refine ⟨he.equip _ (hbound.withCount ⟨Nat.le_sub_one_of_lt hone, ?_⟩), hcs, hnone⟩
    exact le_trans (Nat.sub_le _ _) hbound.count.2
  | consumeEquipmentLast _ _ => exact ⟨he.without _, hcs, hnone⟩
  | consumeContainerNothing _ _ => exact ⟨he, hcs, hnone⟩
  | consumeContainerUnit hc hcons =>
    exact ⟨he, hcs.setItems ((hcs.items hc).consumeItemUnit hcons), hnone⟩
  | equipmentStackToContainer hx hsplit hc hmerge =>
    have hboth := (he _ _ hx).splitOff hsplit
    exact ⟨(he.without _).keepRest _ hboth.2,
      hcs.setItems ((hcs.items hc).mergeOrInsertStack hboth.1 hmerge), hnone⟩
  | containerStackToEquipment hc hremove hsplit hplace =>
    have hitems := hcs.items hc
    have hboth := (hitems.remove hremove).1.splitOff hsplit
    exact ⟨he.placeStack hboth.1 hplace, hcs.setItems (hitems.keepRest hremove hboth.2), hnone⟩
  | containerStackToContainer _ ha hb hremove hsplit hmerge =>
    have hitems := hcs.items ha
    have hboth := (hitems.remove hremove).1.splitOff hsplit
    have hstore := (hcs.items hb).mergeOrInsertStack hboth.1 hmerge
    exact ⟨he, (hcs.setItems (hitems.keepRest hremove hboth.2)).setItems hstore, hnone⟩
  | dropEquipment hx hsplit =>
    have hboth := (he _ _ hx).splitOff hsplit
    exact ⟨(he.without _).keepRest _ hboth.2, hcs, fun x hr => by cases hr; exact hboth.1⟩
  | dropContainerItem hc hremove hsplit =>
    have hitems := hcs.items hc
    have hboth := (hitems.remove hremove).1.splitOff hsplit
    exact ⟨he, hcs.setItems (hitems.keepRest hremove hboth.2), fun x hr => by cases hr; exact hboth.1⟩
  | dropContainerContent hc htake hsplit =>
    have htaken := (hcs.items hc).takeContent htake
    have hboth := htaken.1.splitOff hsplit
    exact ⟨he, hcs.setItems htaken.2, fun x hr => by cases hr; exact hboth.1⟩
  | genericMove _ hdetach hplace =>
    have hout := bounded_detach he hcs hdetach
    have hplaced := bounded_place hout.1 hout.2.1 hout.2.2 hplace
    exact ⟨hplaced.1, hplaced.2, hnone⟩

end InventoryTransfer

/-! ### Worlds -/

namespace WorldState

/-- A bounded world: the inventories of every player are. -/
def Bounded (w : WorldState) : Prop :=
  ∀ p, (w.equipmentOf p).Bounded ∧ (w.containersOf p).Bounded

variable {w w' : WorldState} {p : ℕ}

theorem Bounded.congr (h : w.Bounded) (he : w'.playerEquipments = w.playerEquipments)
    (hcs : w'.playerContainers = w.playerContainers) : w'.Bounded := by
  intro q
  unfold equipmentOf containersOf
  rw [he, hcs]
  exact h q

theorem Bounded.update (h : w.Bounded) {e : PlayerEquipment} {cs : PlayerContainers}
    (hu : w.InventoryUpdate p e cs w') (he : e.Bounded) (hcs : cs.Bounded) : w'.Bounded := by
  intro q
  by_cases hq : q = p
  · subst hq
    rw [hu.equipment, hu.containers]
    exact ⟨he, hcs⟩
  · unfold equipmentOf containersOf
    rw [hu.otherEquipment q hq, hu.otherContainers q hq]
    exact h q

theorem Bounded.putContainers (h : w.Bounded) (p : ℕ) {cs : PlayerContainers} (hcs : cs.Bounded) :
    (w.putContainers p cs).Bounded :=
  (h.update (.containersOnly w p cs) (h p).1 hcs).congr rfl rfl

theorem Bounded.putEquipment (h : w.Bounded) (p : ℕ) {e : PlayerEquipment} (he : e.Bounded) :
    (w.putEquipment p e).Bounded :=
  (h.update (.equipmentOnly w p e) he (h p).2).congr rfl rfl

theorem Bounded.withContainers (h : w.Bounded) (p : ℕ) {cs : PlayerContainers} (hcs : cs.Bounded) :
    (w.withContainers p cs).Bounded := by
  unfold WorldState.withContainers
  split
  · exact h
  · exact h.putContainers p hcs

/-- **A transfer keeps the world bounded**, accepted or refused. -/
theorem Bounded.transfer (h : w.Bounded) (p : ℕ) (t : InventoryTransfer) :
    (t.perform p w).2.Bounded ∧ ∀ x, (t.perform p w).1 = .ok (some x) → x.Bounded := by
  rcases hrun : t.perform p w with ⟨e | r, w'⟩
  · refine ⟨?_, fun x hx => by cases hx⟩
    by_cases hstrand : ∃ id i j dst, t = .contentItemToContainer id i j dst ∧
        ∃ cs, w.playerContainers[p]? = some cs ∧ InventoryTransfer.StrandsContent cs id i j dst
    · obtain ⟨id, i, j, dst, rfl, cs, hcs, c, x, items, target, hc, hx, htarget, hparent⟩ := hstrand
      have hlost := InventoryTransfer.contentItemToContainer_strands hcs hc hx htarget hparent
      rw [hrun] at hlost
      cases hlost
      have hwindows : cs.Bounded := by
        rw [← containersOf_eq hcs]
        exact (h p).2
      exact h.putContainers p (hwindows.setItems ((hwindows.items hc).takeContent hx).2)
    · have hsame := (InventoryTransfer.perform_atomic_iff w p t).mpr
        (fun id i j dst ht cs hcs hs => hstrand ⟨id, i, j, dst, ht, cs, hcs, hs⟩) e w' hrun
      rw [hsame]
      exact h
  · obtain ⟨e, cs, hstep, hupdate⟩ := InventoryTransfer.perform_transferred hrun
    obtain ⟨he, hcs, hr⟩ := hstep.bounded (h p).1 (h p).2
    exact ⟨h.update hupdate he hcs, fun x hx => hr x (by cases hx; rfl)⟩

/-- An exchange of offers, completed or not. -/
theorem Bounded.exchange (h : w.Bounded) {s : PlayerTradeSession}
    {r : Except CoreError (List ItemInstance × List ItemInstance)} (hx : World.Exchange w s r w') :
    w'.Bounded := by
  have hi := (h s.initiator).2
  have hc := (h s.counterparty).2
  cases hx with
  | unresolved _ => exact h
  | initiatorBlocked _ _ _ htake _ =>
    have hout := hi.takeOffered htake
    exact h.withContainers _ (hout.2.restoreAll fun e he => hout.1 e (List.mem_reverse.mp he))
  | counterpartyBlocked _ _ htake _ htake' _ =>
    have hout := hi.takeOffered htake
    have hout' := hc.takeOffered htake'
    exact (h.withContainers _ (hout.2.restoreAll fun e he => hout.1 e (List.mem_reverse.mp he)))
      |>.withContainers _ (hout'.2.restoreAll fun e he => hout'.1 e (List.mem_reverse.mp he))
  | initiatorFull _ _ htake htake' hsplit hpre _ =>
    have hout := hi.takeOffered htake
    have hout' := hc.takeOffered htake'
    refine (h.withContainers _ (hout.2.receiveAll ?_ hpre)).withContainers _ hout'.2
    intro y hy
    obtain ⟨e, he, rfl⟩ := List.mem_map.mp (hsplit ▸ List.mem_append_left _ hy)
    exact hout'.1 e he
  | counterpartyFull _ _ htake htake' hall hsplit hpre _ =>
    have hout := hi.takeOffered htake
    have hout' := hc.takeOffered htake'
    refine (h.withContainers _ (hout.2.receiveAll ?_ hall)).withContainers _
      (hout'.2.receiveAll ?_ hpre)
    · intro y hy
      obtain ⟨e, he, rfl⟩ := List.mem_map.mp hy
      exact hout'.1 e he
    · intro y hy
      obtain ⟨e, he, rfl⟩ := List.mem_map.mp (hsplit ▸ List.mem_append_left _ hy)
      exact hout.1 e he
  | exchanged _ _ htake htake' hall hall' =>
    have hout := hi.takeOffered htake
    have hout' := hc.takeOffered htake'
    refine (h.withContainers _ (hout.2.receiveAll ?_ hall)).withContainers _
      (hout'.2.receiveAll ?_ hall')
    · intro y hy
      obtain ⟨e, he, rfl⟩ := List.mem_map.mp hy
      exact hout'.1 e he
    · intro y hy
      obtain ⟨e, he, rfl⟩ := List.mem_map.mp hy
      exact hout.1 e he

/-- **A trade operation keeps the world bounded.** -/
theorem Bounded.trade (h : w.Bounded) (op : TradeOperation) : (op.perform w).2.Bounded := by
  by_cases hexec : ∃ p, op = .execute p
  · obtain ⟨p, rfl⟩ := hexec
    have hend : ((TradeOperation.execute p).perform w).2 = (World.executePlayerTrade p w).2 := by
      show ((World.executePlayerTrade p >>= fun _ => (pure () : WorldM Unit)) w).2 = _
      rcases hrun : World.executePlayerTrade p w with ⟨e | out, w'⟩
      · rw [Fallible.bind_of_error hrun]
      · rw [Fallible.bind_of_ok hrun]
        rfl
    rw [hend]
    by_cases hacc : ∃ s, w.playerTrade p = some s ∧ s.bothAccepted = true
    · obtain ⟨s, hs, hacc⟩ := hacc
      obtain ⟨r, w₁, hex, hcase⟩ := World.exchangeOffers_cases w s
      rw [World.executePlayerTrade_apply hs hacc, hex]
      have hbound := h.exchange hcase
      cases r with
      | error e => exact hbound
      | ok out => exact hbound.congr rfl rfl
    · rw [World.executePlayerTrade_refused fun s hs => by
        simpa using fun hs' => hacc ⟨s, hs, hs'⟩]
      exact h
  · refine h.congr (TradeOperation.perform_equipments op w) ?_
    exact TradeOperation.perform_containers (fun p hp => hexec ⟨p, hp⟩) w

/-! ### Replacing an inventory, removing a player -/

open Fallible

variable (p : ℕ)

theorem stays_markChanged : Stays Bounded World.markChanged := fun _ h => h.congr rfl rfl

theorem stays_replacePlayerEquipment {e : PlayerEquipment} (he : e.Bounded) :
    Stays Bounded (World.replacePlayerEquipment p e) := by
  refine .bind (ReadOnly.readOr _ _).stays fun player => ?_
  refine .bind (ReadOnly.readOr _ _).stays fun current => ?_
  split
  · exact .pure false
  · refine .bind (fun w h => h.putEquipment p he) fun _ => ?_
    exact .bind stays_markChanged fun _ => .pure true

theorem stays_replacePlayerContainers {cs : PlayerContainers} (hcs : cs.Bounded) :
    Stays Bounded (World.replacePlayerContainers p cs) := by
  refine .bind (ReadOnly.readOr _ _).stays fun player => ?_
  refine .bind (ReadOnly.readOr _ _).stays fun current => ?_
  split
  · exact .pure false
  · refine .bind (fun w h => h.putContainers p hcs) fun _ => ?_
    exact .bind stays_markChanged fun _ => .pure true

theorem stays_replacePlayerContainersQuiet {cs : PlayerContainers} (hcs : cs.Bounded) :
    Stays Bounded (World.replacePlayerContainersQuiet p cs) := by
  refine .bind (ReadOnly.readOr _ _).stays fun player => ?_
  refine .bind (ReadOnly.readOr _ _).stays fun current => ?_
  split
  · exact .pure false
  · exact .bind (fun w h => h.putContainers p hcs) fun _ => .pure true

/-- A player taken out leaves empty inventories. -/
theorem stays_removePlayer : Stays Bounded (World.removePlayer p) := by
  refine .bind (ReadOnly.readOr _ _).stays fun player => ?_
  refine .bind (fun w h q => ?_) fun _ => .bind stays_markChanged fun _ => .pure player
  show ((w.playerEquipments.erase p)[q]?.getD .empty).Bounded ∧
    ((w.playerContainers.erase p)[q]?.getD .empty).Bounded
  rw [Std.ExtTreeMap.getElem?_erase, Std.ExtTreeMap.getElem?_erase]
  split
  · exact ⟨.empty, .empty⟩
  · exact h q

end WorldState

/-! ### Everything the public operations reach -/

/-- A value the operations build and change. -/
inductive Holding where
  | item (x : ItemInstance)
  | container (c : ItemContainer)
  | window (c : PlayerContainer)
  | windows (cs : PlayerContainers)
  | equipment (e : PlayerEquipment)
  | world (w : WorldState)

def Holding.Bounded : Holding → Prop
  | item x => x.Bounded
  | container c => c.Bounded
  | window c => c.Bounded
  | windows cs => cs.Bounded
  | equipment e => e.Bounded
  | world w => w.Bounded

/-- What the public operations reach from empty inventories.  `keeps` says which rests of a split
their caller keeps. -/
inductive Reachable (keeps : ItemInstance → Prop) : Holding → Prop
  -- items
  | newItem {serverId count x} : ItemInstance.new serverId count = .ok x → Reachable keeps (.item x)
  | withIds {x} (actionId uniqueId) : Reachable keeps (.item x) →
      Reachable keeps (.item { x with actionId, uniqueId })
  | insertContent {x y z} : Reachable keeps (.item x) → Reachable keeps (.item y) →
      x.insertContent y = .ok z → Reachable keeps (.item z)
  | takenContent {x i y z} : Reachable keeps (.item x) → x.takeContent i = some (y, z) →
      Reachable keeps (.item y)
  | withoutContent {x i y z} : Reachable keeps (.item x) → x.takeContent i = some (y, z) →
      Reachable keeps (.item z)
  | split {x n rest part} : Reachable keeps (.item x) → x.splitOff n = .ok (rest, part) →
      Reachable keeps (.item part)
  | splitRest {x n rest part} : Reachable keeps (.item x) → x.splitOff n = .ok (rest, part) →
      keeps rest → Reachable keeps (.item rest)
  | merge {x y z} : Reachable keeps (.item x) → Reachable keeps (.item y) →
      x.mergeStack y = .ok z → Reachable keeps (.item z)
  -- containers
  | newContainer {capacity c} : ItemContainer.new capacity = .ok c → Reachable keeps (.container c)
  | readItem {c i x} : Reachable keeps (.container c) → c.item i = some x → Reachable keeps (.item x)
  | writeItem {c x} (i) : Reachable keeps (.container c) → Reachable keeps (.item x) →
      Reachable keeps (.container (c.setItem i x))
  | insert {c x c'} : Reachable keeps (.container c) → Reachable keeps (.item x) →
      c.insert x = .ok c' → Reachable keeps (.container c')
  | mergeOrInsert {c x d c'} : Reachable keeps (.container c) → Reachable keeps (.item x) →
      c.mergeOrInsertStack x = .ok (d, c') → Reachable keeps (.container c')
  | remove {c i x c'} : Reachable keeps (.container c) → c.remove i = some (x, c') →
      Reachable keeps (.container c')
  | takeContent {c i j x c'} : Reachable keeps (.container c) → c.takeContent i j = some (x, c') →
      Reachable keeps (.container c')
  | consumeUnit {c i c'} : Reachable keeps (.container c) → c.consumeItemUnit i = some c' →
      Reachable keeps (.container c')
  | takeUnits {c} (i units) : Reachable keeps (.container c) →
      Reachable keeps (.container (c.takeItemUnits i units).2)
  -- windows
  | newWindow {containerId x name hasParent capacity c} : Reachable keeps (.item x) →
      PlayerContainer.new containerId x name hasParent capacity = .ok c → Reachable keeps (.window c)
  | readWindow {c} : Reachable keeps (.window c) → Reachable keeps (.container c.items)
  | readWindowItem {c} : Reachable keeps (.window c) → Reachable keeps (.item c.containerItem)
  | writeWindow {c items} : Reachable keeps (.window c) → Reachable keeps (.container items) →
      Reachable keeps (.window { c with items })
  | noWindows : Reachable keeps (.windows .empty)
  | insertWindow {cs c old cs'} : Reachable keeps (.windows cs) → Reachable keeps (.window c) →
      cs.insert c = .ok (old, cs') → Reachable keeps (.windows cs')
  | ownedWindow {cs id c} : Reachable keeps (.windows cs) → cs.container id = some c →
      Reachable keeps (.window c)
  | removeWindow {cs} (id) : Reachable keeps (.windows cs) → Reachable keeps (.windows (cs.without id))
  | writeItems {cs items} (id) : Reachable keeps (.windows cs) → Reachable keeps (.container items) →
      Reachable keeps (.windows (cs.setItems id items))
  -- equipment
  | noEquipment : Reachable keeps (.equipment .empty)
  | equip {e x} (slot) : Reachable keeps (.equipment e) → Reachable keeps (.item x) →
      Reachable keeps (.equipment (e.equip slot x).2)
  | unequip {e slot x e'} : Reachable keeps (.equipment e) → e.unequip slot = some (x, e') →
      Reachable keeps (.equipment e')
  | equipped {e slot x} : Reachable keeps (.equipment e) → e.item slot = some x →
      Reachable keeps (.item x)
  -- worlds
  | newWorld {w} : (∀ p, w.equipmentOf p = .empty ∧ w.containersOf p = .empty) →
      Reachable keeps (.world w)
  | transfer {w} (p t) : Reachable keeps (.world w) →
      Reachable keeps (.world (InventoryTransfer.perform p t w).2)
  | dropped {w p t x} : Reachable keeps (.world w) →
      (InventoryTransfer.perform p t w).1 = .ok (some x) → Reachable keeps (.item x)
  | trade {w} (op) : Reachable keeps (.world w) →
      Reachable keeps (.world (TradeOperation.perform op w).2)
  | replaceEquipment {w e} (p) : Reachable keeps (.world w) → Reachable keeps (.equipment e) →
      Reachable keeps (.world (World.replacePlayerEquipment p e w).2)
  | replaceContainers {w cs} (p) : Reachable keeps (.world w) → Reachable keeps (.windows cs) →
      Reachable keeps (.world (World.replacePlayerContainers p cs w).2)
  | replaceContainersQuiet {w cs} (p) : Reachable keeps (.world w) → Reachable keeps (.windows cs) →
      Reachable keeps (.world (World.replacePlayerContainersQuiet p cs w).2)
  | removePlayer {w} (p) : Reachable keeps (.world w) →
      Reachable keeps (.world (World.removePlayer p w).2)
  | equipmentOf {w} (p) : Reachable keeps (.world w) → Reachable keeps (.equipment (w.equipmentOf p))
  | containersOf {w} (p) : Reachable keeps (.world w) → Reachable keeps (.windows (w.containersOf p))

/-- **Everything reachable is bounded** as long as no empty rest of a split is kept. -/
theorem reachable_bounded {h : Holding} (hr : Reachable (fun rest => 0 < rest.count) h) :
    h.Bounded := by
  induction hr with
  | newItem hx => exact ItemInstance.Bounded.new hx
  | withIds a u _ ih => exact ItemInstance.Bounded.withIds ih a u
  | insertContent _ _ hz ihx ihy => exact ItemInstance.Bounded.insertContent ihx ihy hz
  | takenContent _ ht ih => exact (ItemInstance.Bounded.takeContent ih ht).1
  | withoutContent _ ht ih => exact (ItemInstance.Bounded.takeContent ih ht).2
  | split _ hs ih => exact (ItemInstance.Bounded.splitOff ih hs).1
  | splitRest _ hs hpos ih => exact (ItemInstance.Bounded.splitOff ih hs).2 hpos
  | merge _ _ hz ihx _ => exact ItemInstance.Bounded.mergeStack ihx hz
  | newContainer hc => exact ItemContainer.Bounded.new hc
  | readItem _ hx ih => exact ItemContainer.Bounded.item ih hx
  | writeItem i _ _ ihc ihx => exact ItemContainer.Bounded.setItem ihc ihx i
  | insert _ _ hc ihc ihx => exact ItemContainer.Bounded.insert ihc ihx hc
  | mergeOrInsert _ _ hc ihc ihx => exact ItemContainer.Bounded.mergeOrInsertStack ihc ihx hc
  | remove _ hc ih => exact (ItemContainer.Bounded.remove ih hc).2
  | takeContent _ hc ih => exact (ItemContainer.Bounded.takeContent ih hc).2
  | consumeUnit _ hc ih => exact ItemContainer.Bounded.consumeItemUnit ih hc
  | takeUnits i units _ ih => exact ItemContainer.Bounded.takeItemUnits ih i units
  | newWindow _ hc ih => exact PlayerContainer.Bounded.new ih hc
  | readWindow _ ih => exact ih.items
  | readWindowItem _ ih => exact ih.containerItem
  | writeWindow _ _ ihc ihi => exact ⟨ihc.containerItem, ihi⟩
  | noWindows => exact PlayerContainers.Bounded.empty
  | insertWindow _ _ hcs ihcs ihc => exact PlayerContainers.Bounded.insert ihcs ihc hcs
  | ownedWindow _ hc ih => exact (ih.window _ _ hc).2
  | removeWindow id _ ih => exact PlayerContainers.Bounded.without ih id
  | writeItems id _ _ ihcs ihi => exact PlayerContainers.Bounded.setItems ihcs ihi
  | noEquipment => exact PlayerEquipment.Bounded.empty
  | equip slot _ _ ihe ihx => exact PlayerEquipment.Bounded.equip ihe slot ihx
  | unequip _ he ih =>
    obtain ⟨-, rfl⟩ := PlayerEquipment.unequip_eq_some.mp he
    exact PlayerEquipment.Bounded.without ih _
  | equipped _ hx ih => exact ih _ _ hx
  | newWorld hw =>
    intro p
    rw [(hw p).1, (hw p).2]
    exact ⟨.empty, .empty⟩
  | transfer p t _ ih => exact (WorldState.Bounded.transfer ih p t).1
  | dropped _ hx ih => exact (WorldState.Bounded.transfer ih _ _).2 _ hx
  | trade op _ ih => exact WorldState.Bounded.trade ih op
  | replaceEquipment p _ _ ihw ihe => exact WorldState.stays_replacePlayerEquipment p ihe _ ihw
  | replaceContainers p _ _ ihw ihc => exact WorldState.stays_replacePlayerContainers p ihc _ ihw
  | replaceContainersQuiet p _ _ ihw ihc =>
    exact WorldState.stays_replacePlayerContainersQuiet p ihc _ ihw
  | removePlayer p _ ih => exact WorldState.stays_removePlayer p _ ih
  | equipmentOf p _ ih => exact (ih p).1
  | containersOf p _ ih => exact (ih p).2

section Coins

variable {keeps : ItemInstance → Prop}

/-- A bag with one stack of coins. -/
def coinWindow (count : ℕ) : PlayerContainer :=
  ⟨0, ⟨1987, 1, none, none, []⟩, "bag", false, ⟨8, [⟨2148, count, none, none, []⟩]⟩⟩

def coinWindows (count : ℕ) : PlayerContainers := PlayerContainers.empty.putBack (coinWindow count)

theorem reachable_new {id n : ℕ} (hid : id ≠ 0) (hn : 1 ≤ n ∧ n ≤ maxItemStackCount) :
    Reachable keeps (.item ⟨id, n, none, none, []⟩) := by
  have hnew : ItemInstance.new id n = .ok ⟨id, n, none, none, []⟩ := by
    simp [ItemInstance.new, hid, hn]
  exact .newItem hnew

theorem reachable_coinWindows {n : ℕ} (hn : 1 ≤ n ∧ n ≤ maxItemStackCount) :
    Reachable keeps (.windows (coinWindows n)) := by
  have hempty : ItemContainer.new 8 = .ok ⟨8, []⟩ := rfl
  have hitems : Reachable keeps (.container ⟨8, [⟨2148, n, none, none, []⟩]⟩) :=
    .insert (.newContainer hempty) (reachable_new (by decide) hn) rfl
  have hbag : PlayerContainer.new 0 ⟨1987, 1, none, none, []⟩ "bag" false 8 =
      .ok ⟨0, ⟨1987, 1, none, none, []⟩, "bag", false, ⟨8, []⟩⟩ := by decide
  have hwindow : Reachable keeps (.window (coinWindow n)) :=
    .writeWindow (.newWindow (reachable_new (by decide) (by decide)) hbag) hitems
  exact .insertWindow .noWindows hwindow rfl

theorem reachable_bounded_coins : (coinWindows 100).Bounded :=
  reachable_bounded (reachable_coinWindows (by decide))

/-- **The empty rest of a whole split stays in the bag** when the split is made in place. -/
theorem keptRest_unbounded : ¬∀ h, Reachable (fun _ => True) h → h.Bounded := by
  intro hall
  have hcoins : Reachable (fun _ => True) (.windows (coinWindows 5)) :=
    reachable_coinWindows (by decide)
  have hwindow : (coinWindows 5).container 0 = some (coinWindow 5) := rfl
  have hitems : Reachable (fun _ => True) (.container ⟨8, [⟨2148, 5, none, none, []⟩]⟩) :=
    .readWindow (.ownedWindow hcoins hwindow)
  have hrest : Reachable (fun _ => True) (.item ⟨2148, 0, none, none, []⟩) :=
    .splitRest (.readItem (i := 0) hitems rfl) (n := 5) rfl trivial
  have hbound : ((coinWindows 5).setItems 0 ⟨8, [⟨2148, 0, none, none, []⟩]⟩).Bounded :=
    hall _ (.writeItems 0 hcoins (.writeItem 0 hitems hrest))
  have hleft : ((coinWindows 5).setItems 0 ⟨8, [⟨2148, 0, none, none, []⟩]⟩).container 0 =
      some (coinWindow 0) := rfl
  have hcount := (hbound.items hleft).items _ List.mem_cons_self
  exact absurd hcount.count (by decide)

end Coins

end ForgottenEngine
