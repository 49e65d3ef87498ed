import ForgottenEngine.Item

/-!
# Containers and equipment

* `ItemContainer` — ordered bounded storage.  Its lookup, insertion, removal and merging follow
  the source; nothing in the type bounds `items`, the methods do.
* `PlayerContainers` — the container windows of one player.  The type carries the two facts the
  table keeps by construction: a window is stored under its own `containerId`, and there are at
  most `maxPlayerContainers` of them.  `setItems` is the write through `container_mut`.
* `PlayerEquipment` — one optional item per slot.

The transfers take a window out of the table, change it and put it back.  `insert_without` shows
that this dance never fails and is the in-place write, so later files only meet `setItems`.
-/

namespace ForgottenEngine

/-! ### Item containers -/

def maxContainerCapacity : ℕ := 100

def maxPlayerContainers : ℕ := 16

def maxPlayerContainerNameBytes : ℕ := 64

/-- Ordered bounded storage for item instances. -/
@[ext]
structure ItemContainer where
  capacity : ℕ
  items : List ItemInstance
deriving DecidableEq, Repr

namespace ItemContainer

def new (capacity : ℕ) : Except CoreError ItemContainer :=
  if capacity = 0 ∨ maxContainerCapacity < capacity then
    .error (.invalidContainerCapacity capacity)
  else .ok ⟨capacity, []⟩

def item (self : ItemContainer) (index : ℕ) : Option ItemInstance := self.items[index]?

/-- Append one item, unless the container is full. -/
def insert (self : ItemContainer) (item : ItemInstance) : Except CoreError ItemContainer :=
  if self.capacity ≤ self.items.length then .error (.containerFull self.capacity)
  else .ok { self with items := self.items ++ [item] }

/-- The test that picks the stack to merge into: compatible, and the sum fits. -/
def mergesWith (item existing : ItemInstance) : Bool :=
  existing.isStackCompatibleWith item &&
    decide (min (existing.count + item.count) u16Max ≤ maxItemStackCount)

/-- Merge into the first compatible stack that has room.  If compatible stacks exist but none
has room the call fails; only without any compatible stack is the item inserted.  Returns the
position and count of the stack that now holds the item. -/
def mergeOrInsertStack (self : ItemContainer) (item : ItemInstance) :
    Except CoreError ((ℕ × ℕ) × ItemContainer) :=
  match self.items.findIdx? (mergesWith item) with
  | some index =>
    match self.items[index]? with
    | some existing => do
      let existing ← existing.mergeStack item
      .ok ((index, existing.count), { self with items := self.items.set index existing })
    | none => .error .incompatibleItemStacks -- `findIdx?` only returns positions in range
  | none =>
    match self.items.find? (·.isStackCompatibleWith item) with
    | some existing => .error (.itemStackCountOverflow existing.count item.count)
    | none => do
      let self ← self.insert item
      .ok ((self.items.length - 1, item.count), self)

/-- Remove the item at an index: the item, and the container without it. -/
def remove (self : ItemContainer) (index : ℕ) : Option (ItemInstance × ItemContainer) :=
  self.items[index]?.map fun item => (item, { self with items := self.items.eraseIdx index })

/-- The direct `Vec::insert` the transfers use to put something back at a position. -/
def insertAt (self : ItemContainer) (index : ℕ) (item : ItemInstance) : ItemContainer :=
  { self with items := self.items.insertIdx index item }

/-- A write through `item_mut`. -/
def setItem (self : ItemContainer) (index : ℕ) (item : ItemInstance) : ItemContainer :=
  { self with items := self.items.set index item }

/-- Remove one content item of the item at `itemIndex`. -/
def takeContent (self : ItemContainer) (itemIndex contentIndex : ℕ) :
    Option (ItemInstance × ItemContainer) := do
  let holder ← self.items[itemIndex]?
  let (item, holder) ← holder.takeContent contentIndex
  some (item, self.setItem itemIndex holder)

/-- Use up one unit; the last unit drops the entry.  `none` when the index does not resolve. -/
def consumeItemUnit (self : ItemContainer) (index : ℕ) : Option ItemContainer :=
  self.items[index]?.map fun item =>
    if 1 < item.count then self.setItem index { item with count := item.count - 1 }
    else { self with items := self.items.eraseIdx index }

/-- Take up to `units` units off the stack at `index`: how many, and the container after. -/
def takeItemUnits (self : ItemContainer) (index units : ℕ) : ℕ × ItemContainer :=
  match self.items[index]? with
  | none => (0, self)
  | some item =>
    let available := min item.count units
    let item := { item with count := item.count - available }
    let self := self.setItem index item
    (available, if item.count = 0 then { self with items := self.items.eraseIdx index } else self)

/-! ### Units of a container -/

/-- The units stored in the container. -/
def units (self : ItemContainer) : Multiset ItemKind := ItemInstance.unitsOf self.items

theorem insert_eq_ok {c c' : ItemContainer} {x : ItemInstance} :
    c.insert x = .ok c' ↔ c.items.length < c.capacity ∧ c' = { c with items := c.items ++ [x] } := by
  unfold insert
  split
  · simp; omega
  · simp [eq_comm]; omega

@[simp] theorem remove_eq_some {c rest : ItemContainer} {i : ℕ} {x : ItemInstance} :
    c.remove i = some (x, rest) ↔
      c.items[i]? = some x ∧ rest = { c with items := c.items.eraseIdx i } := by
  simp only [remove, Option.map_eq_some_iff, Prod.mk.injEq]
  constructor
  · rintro ⟨_, h, rfl, rfl⟩; exact ⟨h, rfl⟩
  · rintro ⟨h, rfl⟩; exact ⟨x, h, rfl, rfl⟩

theorem remove_eq_none {c : ItemContainer} {i : ℕ} : c.remove i = none ↔ c.items[i]? = none := by
  simp [remove]

theorem mergesWith_iff {x y : ItemInstance} :
    mergesWith y x = true ↔ x.kind = y.kind ∧ x.count + y.count ≤ maxItemStackCount := by
  have hle : maxItemStackCount < u16Max := by decide
  simp only [mergesWith, Bool.and_eq_true, ItemInstance.isStackCompatibleWith_iff,
    decide_eq_true_eq]
  refine and_congr_right fun _ => ?_
  omega

/-- **How a stack is taken in**: merged into the stack at `i`, or appended as a new entry of a
container that has room and no compatible stack. -/
theorem mergeOrInsertStack_eq_ok {c c' : ItemContainer} {x : ItemInstance} {d : ℕ × ℕ} :
    c.mergeOrInsertStack x = .ok (d, c') →
      (∃ i y, c.items[i]? = some y ∧ y.kind = x.kind ∧ y.count + x.count ≤ maxItemStackCount ∧
        d = (i, y.count + x.count) ∧
        c' = c.setItem i { y with count := y.count + x.count }) ∨
      ((∀ y ∈ c.items, y.kind ≠ x.kind) ∧ c.items.length < c.capacity ∧
        d = (c.items.length, x.count) ∧ c' = { c with items := c.items ++ [x] }) := by
  intro h
  unfold mergeOrInsertStack at h
  split at h
  · rename_i i hi
    obtain ⟨hlt, hm, -⟩ := List.findIdx?_eq_some_iff_getElem.mp hi
    obtain ⟨hk, hc⟩ := mergesWith_iff.mp hm
    have hget : c.items[i]? = some c.items[i] := List.getElem?_eq_getElem hlt
    have hmerge : c.items[i].mergeStack x =
        .ok { c.items[i] with count := c.items[i].count + x.count } :=
      ItemInstance.mergeStack_eq_ok.mpr ⟨hk, hc, rfl⟩
    simp only [hget, hmerge, bind, Except.bind, Except.ok.injEq,
      Prod.mk.injEq] at h
    exact .inl ⟨i, c.items[i], hget, hk, hc, h.1.symm, h.2.symm⟩
  · split at h
    · cases h
    · rename_i hnone
      have hfresh : ∀ y ∈ c.items, y.kind ≠ x.kind := by
        intro y hy hk
        have := List.find?_eq_none.mp hnone y hy
        exact this (ItemInstance.isStackCompatibleWith_iff y x |>.mpr hk)
      cases hins : c.insert x with
      | error e => rw [hins] at h; cases h
      | ok c₁ =>
        obtain ⟨hlt, rfl⟩ := insert_eq_ok.mp hins
        simp only [hins, bind, Except.bind, Except.ok.injEq, Prod.mk.injEq,
          List.length_append, List.length_singleton, Nat.add_sub_cancel] at h
        exact .inr ⟨hfresh, hlt, h.1.symm, h.2.symm⟩

/-- The container has a stack the item is compatible with. -/
def holdsStackOf (self : ItemContainer) (item : ItemInstance) : Bool :=
  self.items.any (·.isStackCompatibleWith item)

theorem holdsStackOf_iff {c : ItemContainer} {x : ItemInstance} :
    c.holdsStackOf x = true ↔ ∃ y ∈ c.items, y.kind = x.kind := by
  simp [holdsStackOf]

/-- A compatible stack has room for the whole item. -/
def hasRoomFor (self : ItemContainer) (item : ItemInstance) : Bool :=
  self.items.any (mergesWith item)

def isFull (self : ItemContainer) : Bool := decide (self.capacity ≤ self.items.length)

/-- Whether `mergeOrInsertStack` succeeds: an item with compatible stacks needs room in one of
them, any other item needs a free entry. -/
def takesIn (self : ItemContainer) (item : ItemInstance) : Bool :=
  if self.holdsStackOf item then self.hasRoomFor item else !self.isFull

/-- **When a stack is taken in.** -/
theorem mergeOrInsertStack_isOk {c : ItemContainer} {x : ItemInstance} :
    (∃ out, c.mergeOrInsertStack x = .ok out) ↔ c.takesIn x = true := by
  unfold mergeOrInsertStack takesIn
  cases hfind : c.items.findIdx? (mergesWith x) with
  | some i =>
    obtain ⟨hlt, hm, -⟩ := List.findIdx?_eq_some_iff_getElem.mp hfind
    obtain ⟨hk, hc⟩ := mergesWith_iff.mp hm
    have hget : c.items[i]? = some c.items[i] := List.getElem?_eq_getElem hlt
    have hroom : c.hasRoomFor x = true := List.any_eq_true.mpr ⟨_, List.getElem_mem hlt, hm⟩
    have hstack : c.holdsStackOf x = true := holdsStackOf_iff.mpr ⟨_, List.getElem_mem hlt, hk⟩
    rw [if_pos hstack, hroom]
    simp [hget, ItemInstance.mergeStack_eq_ok.mpr ⟨hk, hc, rfl⟩, bind, Except.bind]
  | none =>
    have hroom : c.hasRoomFor x = false := by
      rw [hasRoomFor, List.any_eq_false]
      exact fun y hy => by simpa using List.findIdx?_eq_none_iff.mp hfind y hy
    cases hany : c.items.find? (·.isStackCompatibleWith x) with
    | some y =>
      have hstack : c.holdsStackOf x = true :=
        List.any_eq_true.mpr ⟨y, List.mem_of_find?_eq_some hany,
          by simpa using List.find?_some hany⟩
      simp [hstack, hroom]
    | none =>
      have hstack : c.holdsStackOf x = false := by
        rw [holdsStackOf, List.any_eq_false]
        exact fun y hy => by simpa using List.find?_eq_none.mp hany y hy
      unfold insert isFull
      by_cases hfull : c.capacity ≤ c.items.length
      · simp [hstack, hfull, bind, Except.bind]
      · simp [hstack, hfull, bind, Except.bind]

theorem units_setItem {c : ItemContainer} {i : ℕ} {x : ItemInstance} (y : ItemInstance)
    (h : c.items[i]? = some x) : (c.setItem i y).units + x.units = c.units + y.units :=
  ItemInstance.unitsOf_set y h

theorem units_insert {c c' : ItemContainer} {x : ItemInstance} (h : c.insert x = .ok c') :
    c'.units = c.units + x.units := by
  obtain ⟨-, rfl⟩ := insert_eq_ok.mp h
  simp [units]

/-- Storing a stack adds its units, less the nested contents when it is merged. -/
theorem units_mergeOrInsertStack {c c' : ItemContainer} {x : ItemInstance} {d : ℕ × ℕ}
    (h : c.mergeOrInsertStack x = .ok (d, c')) :
    c'.units + (if c.holdsStackOf x then x.contentUnits else 0) = c.units + x.units := by
  rcases mergeOrInsertStack_eq_ok h with ⟨i, y, hi, hk, hc, -, rfl⟩ | ⟨hfresh, hlt, -, rfl⟩
  · have hstack : c.holdsStackOf x = true :=
      holdsStackOf_iff.mpr ⟨y, List.mem_of_getElem? hi, hk⟩
    have hset := units_setItem { y with count := y.count + x.count } hi
    have hmerge := ItemInstance.units_mergeStack (ItemInstance.mergeStack_eq_ok.mpr ⟨hk, hc, rfl⟩)
    rw [if_pos hstack]
    apply add_right_cancel (b := y.units)
    calc (c.setItem i { y with count := y.count + x.count }).units + x.contentUnits + y.units
        = ((c.setItem i { y with count := y.count + x.count }).units + y.units)
            + x.contentUnits := by abel
      _ = c.units + ({ y with count := y.count + x.count } : ItemInstance).units
            + x.contentUnits := by rw [hset]
      _ = c.units + x.units + y.units := by rw [add_assoc, hmerge]; abel
  · have hstack : ¬c.holdsStackOf x = true := by
      rw [holdsStackOf_iff]
      rintro ⟨y, hy, hk⟩
      exact hfresh y hy hk
    rw [if_neg hstack]
    simp [units]

theorem units_remove {c rest : ItemContainer} {i : ℕ} {x : ItemInstance}
    (h : c.remove i = some (x, rest)) : c.units = x.units + rest.units := by
  obtain ⟨hi, rfl⟩ := remove_eq_some.mp h
  exact ItemInstance.unitsOf_eraseIdx hi

/-- Putting something back at the position an item was taken from. -/
theorem units_insertAt {c rest : ItemContainer} {i : ℕ} {x : ItemInstance} (y : ItemInstance)
    (h : c.remove i = some (x, rest)) : (rest.insertAt i y).units = y.units + rest.units := by
  obtain ⟨hi, rfl⟩ := remove_eq_some.mp h
  have hlt : i < c.items.length := (List.getElem?_eq_some_iff.mp hi).1
  refine ItemInstance.unitsOf_insertIdx y ?_
  rw [List.length_eraseIdx_of_lt hlt]
  omega

theorem takeContent_eq_some {c c' : ItemContainer} {i j : ℕ} {x : ItemInstance} :
    c.takeContent i j = some (x, c') ↔ ∃ y y', c.items[i]? = some y ∧
      y.takeContent j = some (x, y') ∧ c' = c.setItem i y' := by
  simp only [takeContent, Option.bind_eq_bind, Option.bind_eq_some_iff, Option.some.injEq,
    Prod.mk.injEq]
  constructor
  · rintro ⟨y, hy, ⟨x', y'⟩, ht, rfl, rfl⟩; exact ⟨y, y', hy, ht, rfl⟩
  · rintro ⟨y, y', hy, ht, rfl⟩; exact ⟨y, hy, (x, y'), ht, rfl, rfl⟩

theorem units_takeContent {c c' : ItemContainer} {i j : ℕ} {x : ItemInstance}
    (h : c.takeContent i j = some (x, c')) : c.units = x.units + c'.units := by
  obtain ⟨y, y', hi, ht, rfl⟩ := takeContent_eq_some.mp h
  have hset := units_setItem y' hi
  rw [ItemInstance.units_takeContent ht] at hset
  apply add_right_cancel (b := y'.units)
  rw [← hset]
  abel

end ItemContainer

/-! ### The container windows of a player -/

/-- One player-owned container window; `containerId` is its client window identifier. -/
@[ext]
structure PlayerContainer where
  containerId : ℕ
  containerItem : ItemInstance
  name : String
  hasParent : Bool
  items : ItemContainer
deriving DecidableEq, Repr

def PlayerContainer.new (containerId : ℕ) (containerItem : ItemInstance) (name : String)
    (hasParent : Bool) (capacity : ℕ) : Except CoreError PlayerContainer := do
  if name.isEmpty ∨ maxPlayerContainerNameBytes < name.utf8ByteSize then
    throw (.invalidContainerName name.utf8ByteSize)
  let items ← ItemContainer.new capacity
  return ⟨containerId, containerItem, name, hasParent, items⟩

/-- The windows of one player, each under its own identifier, at most sixteen of them. -/
@[ext]
structure PlayerContainers where
  containers : KeyedMap ℕ PlayerContainer PlayerContainer.containerId
  bounded : containers.size ≤ maxPlayerContainers

namespace PlayerContainers

def empty : PlayerContainers := ⟨.empty, by decide⟩

instance : Inhabited PlayerContainers := ⟨empty⟩

def len (self : PlayerContainers) : ℕ := self.containers.size

def container (self : PlayerContainers) (containerId : ℕ) : Option PlayerContainer :=
  self.containers.get? containerId

/-- Store a window under its identifier; a seventeenth identifier is refused. -/
def insert (self : PlayerContainers) (container : PlayerContainer) :
    Except CoreError (Option PlayerContainer × PlayerContainers) :=
  if h : self.container container.containerId = none ∧ maxPlayerContainers ≤ self.len then
    .error (.tooManyPlayerContainers maxPlayerContainers)
  else
    .ok (self.container container.containerId, {
      containers := self.containers.insert container
      bounded := by
        cases hc : self.container container.containerId with
        | none =>
          have hlen : ¬maxPlayerContainers ≤ self.len := fun hle => h ⟨hc, hle⟩
          have := KeyedMap.size_insert_le self.containers container
          unfold len at hlen
          omega
        | some old => rw [KeyedMap.size_insert_of_get? hc]; exact self.bounded })

/-- The table without one window. -/
def without (self : PlayerContainers) (containerId : ℕ) : PlayerContainers where
  containers := self.containers.erase containerId
  bounded := le_trans (KeyedMap.size_erase_le _ _) self.bounded

/-- Take a window out of the table. -/
def remove (self : PlayerContainers) (containerId : ℕ) :
    Option (PlayerContainer × PlayerContainers) :=
  (self.container containerId).map fun container => (container, self.without containerId)

/-- `let _ = containers.insert(container)`. -/
def putBack (self : PlayerContainers) (container : PlayerContainer) : PlayerContainers :=
  match self.insert container with
  | .ok (_, containers) => containers
  | .error _ => self

/-- The write of the item list through `container_mut`. -/
def setItems (self : PlayerContainers) (containerId : ℕ) (items : ItemContainer) :
    PlayerContainers where
  containers := self.containers.modify containerId (fun c => { c with items }) fun _ => rfl
  bounded := by rw [KeyedMap.size_modify]; exact self.bounded

/-- The window identifiers in order. -/
def ids (self : PlayerContainers) : List ℕ := self.containers.entries.keys

/-- The sum of a quantity over the item lists of all windows. -/
def total {M : Type*} [AddCommMonoid M] (self : PlayerContainers) (f : ItemContainer → M) : M :=
  self.containers.sumValues fun c => f c.items

/-- The units in all windows. -/
def units (self : PlayerContainers) : Multiset ItemKind := self.total ItemContainer.units

theorem ext_container {a b : PlayerContainers} (h : ∀ id, a.container id = b.container id) :
    a = b :=
  PlayerContainers.ext (KeyedMap.ext_get? h)

theorem id_of_container {cs : PlayerContainers} {id : ℕ} {c : PlayerContainer}
    (h : cs.container id = some c) : c.containerId = id := KeyedMap.key_of_get? h

theorem mem_ids {cs : PlayerContainers} {id : ℕ} : id ∈ cs.ids ↔ ∃ c, cs.container id = some c := by
  rw [ids, Std.ExtTreeMap.mem_keys, ← Std.ExtTreeMap.isSome_getElem?_iff_mem,
    Option.isSome_iff_exists]
  rfl

@[simp] theorem container_setItems (cs : PlayerContainers) (id : ℕ) (items : ItemContainer)
    (j : ℕ) : (cs.setItems id items).container j =
      if id = j then (cs.container j).map (fun c => { c with items }) else cs.container j :=
  KeyedMap.get?_modify cs.containers id (fun c => { c with items }) (fun _ => rfl) j

@[simp] theorem remove_eq_some {cs rest : PlayerContainers} {id : ℕ} {c : PlayerContainer} :
    cs.remove id = some (c, rest) ↔ cs.container id = some c ∧ rest = cs.without id := by
  simp only [remove, Option.map_eq_some_iff, Prod.mk.injEq]
  constructor
  · rintro ⟨_, h, rfl, rfl⟩; exact ⟨h, rfl⟩
  · rintro ⟨h, rfl⟩; exact ⟨c, h, rfl, rfl⟩

theorem container_without (cs : PlayerContainers) (id j : ℕ) :
    (cs.without id).container j = if id = j then none else cs.container j :=
  KeyedMap.get?_erase _ _ _

/-- **Putting a window back where it was taken from** never fails and is the in-place write. -/
theorem insert_without {cs : PlayerContainers} {id : ℕ} {c : PlayerContainer}
    (hc : cs.container id = some c) (items : ItemContainer) :
    (cs.without id).insert { c with items } = .ok (none, cs.setItems id items) := by
  have hid : c.containerId = id := id_of_container hc
  have hnone : (cs.without id).container c.containerId = none := by
    rw [container_without, if_pos hid.symm]
  have hlen : ¬maxPlayerContainers ≤ (cs.without id).len := by
    have := KeyedMap.size_erase_add_one hc
    have := cs.bounded
    simp only [len, without]
    omega
  unfold insert
  rw [dif_neg (by rintro ⟨-, hle⟩; exact hlen hle)]
  refine congrArg Except.ok (Prod.ext hnone (ext_container fun j => ?_))
  rw [container_setItems, container, KeyedMap.get?_insert]
  by_cases hj : id = j
  · subst hj; simp [hid, hc]
  · simp only [hid, hj, if_false]
    exact (container_without cs id j).trans (if_neg hj)

/-- Putting a window back after looking at it changes nothing. -/
theorem setItems_self {cs : PlayerContainers} {id : ℕ} {c : PlayerContainer}
    (h : cs.container id = some c) : cs.setItems id c.items = cs := by
  apply ext_container
  intro j
  rw [container_setItems]
  split
  · rename_i hj
    subst hj
    rw [h]
    rfl
  · rfl

theorem setItems_setItems (cs : PlayerContainers) (id : ℕ) (items items' : ItemContainer) :
    (cs.setItems id items).setItems id items' = cs.setItems id items' := by
  apply ext_container
  intro j
  simp only [container_setItems]
  split
  · cases cs.container j <;> rfl
  · rfl

theorem without_comm (cs : PlayerContainers) (a b : ℕ) :
    (cs.without a).without b = (cs.without b).without a := by
  apply ext_container
  intro j
  simp only [container_without]
  split_ifs <;> rfl

/-- With two windows taken out, putting the first one back is the in-place write under the second
absence. -/
theorem insert_without_without {cs : PlayerContainers} {a b : ℕ} {c : PlayerContainer} (hab : a ≠ b)
    (hc : cs.container a = some c) (items : ItemContainer) :
    ((cs.without a).without b).insert { c with items } =
      .ok (none, (cs.setItems a items).without b) := by
  have ha : (cs.without b).container a = some c := by
    rw [container_without, if_neg (Ne.symm hab), hc]
  rw [without_comm, insert_without ha]
  refine congrArg (fun cs => Except.ok (none, cs)) (ext_container fun j => ?_)
  simp only [container_setItems, container_without]
  split_ifs <;> rfl

/-- Writing one window exchanges its share of a total. -/
theorem total_setItems {M : Type*} [AddCommMonoid M] (f : ItemContainer → M) {cs : PlayerContainers}
    {id : ℕ} {c : PlayerContainer} (h : cs.container id = some c) (items : ItemContainer) :
    (cs.setItems id items).total f + f c.items = cs.total f + f items := by
  have hset := KeyedMap.sumValues_modify (g := fun c : PlayerContainer => { c with items })
    (fun _ => rfl) (fun c : PlayerContainer => f c.items) h
  have hget := KeyedMap.sumValues_of_get? (fun c : PlayerContainer => f c.items) h
  unfold total setItems
  rw [hset, hget]
  abel

theorem units_setItems {cs : PlayerContainers} {id : ℕ} {c : PlayerContainer}
    (h : cs.container id = some c) (items : ItemContainer) :
    (cs.setItems id items).units + c.items.units = cs.units + items.units :=
  total_setItems ItemContainer.units h items

end PlayerContainers

/-! ### Equipment -/

def EquipmentSlot.code : EquipmentSlot → ℕ
  | .head => 1
  | .neck => 2
  | .backpack => 3
  | .armor => 4
  | .rightHand => 5
  | .leftHand => 6
  | .legs => 7
  | .feet => 8
  | .ring => 9
  | .ammo => 10

/-- Slots are ordered as they are declared. -/
instance : Ord EquipmentSlot := ⟨compareOn EquipmentSlot.code⟩

instance : Std.TransOrd EquipmentSlot :=
  inferInstanceAs (Std.TransCmp (compareOn EquipmentSlot.code))

theorem EquipmentSlot.code_injective : Function.Injective EquipmentSlot.code := by
  intro a b h
  cases a <;> cases b <;> first | rfl | cases h

instance : Std.LawfulEqOrd EquipmentSlot where
  eq_of_compare h := EquipmentSlot.code_injective (Std.LawfulEqOrd.eq_of_compare h)

@[ext]
structure PlayerEquipment where
  items : BTreeMap EquipmentSlot ItemInstance

namespace PlayerEquipment

def empty : PlayerEquipment := ⟨∅⟩

instance : Inhabited PlayerEquipment := ⟨empty⟩

def item (self : PlayerEquipment) (slot : EquipmentSlot) : Option ItemInstance := self.items[slot]?

/-- Put an item into a slot; returns what the slot held. -/
def equip (self : PlayerEquipment) (slot : EquipmentSlot) (item : ItemInstance) :
    Option ItemInstance × PlayerEquipment :=
  (self.items[slot]?, ⟨self.items.insert slot item⟩)

/-- The equipment with one slot empty. -/
def without (self : PlayerEquipment) (slot : EquipmentSlot) : PlayerEquipment :=
  ⟨self.items.erase slot⟩

def unequip (self : PlayerEquipment) (slot : EquipmentSlot) :
    Option (ItemInstance × PlayerEquipment) :=
  (self.item slot).map fun item => (item, self.without slot)

/-- The units in all slots. -/
def units (self : PlayerEquipment) : Multiset ItemKind :=
  OrderedMap.sumValues self.items ItemInstance.units

theorem ext_item {a b : PlayerEquipment} (h : ∀ slot, a.item slot = b.item slot) : a = b :=
  PlayerEquipment.ext (Std.ExtTreeMap.ext_getElem? h)

@[simp] theorem item_equip (e : PlayerEquipment) (slot : EquipmentSlot) (x : ItemInstance)
    (j : EquipmentSlot) :
    (e.equip slot x).2.item j = if slot = j then some x else e.item j := by
  simp [equip, item, Std.ExtTreeMap.getElem?_insert]

@[simp] theorem unequip_eq_some {e rest : PlayerEquipment} {slot : EquipmentSlot} {x : ItemInstance} :
    e.unequip slot = some (x, rest) ↔ e.item slot = some x ∧ rest = e.without slot := by
  simp only [unequip, Option.map_eq_some_iff, Prod.mk.injEq]
  constructor
  · rintro ⟨y, hy, rfl, rfl⟩; exact ⟨hy, rfl⟩
  · rintro ⟨hx, rfl⟩; exact ⟨x, hx, rfl, rfl⟩

@[simp] theorem item_without (e : PlayerEquipment) (slot j : EquipmentSlot) :
    (e.without slot).item j = if slot = j then none else e.item j := by
  simp [without, item, Std.ExtTreeMap.getElem?_erase]

theorem units_without {e : PlayerEquipment} {slot : EquipmentSlot} {x : ItemInstance}
    (h : e.item slot = some x) : e.units = x.units + (e.without slot).units :=
  OrderedMap.sumValues_of_getElem? _ h

/-- Equipping adds the new item's units and drops those of the item it overwrites. -/
theorem units_equip (e : PlayerEquipment) (slot : EquipmentSlot) (x : ItemInstance) :
    (e.equip slot x).2.units + ((e.item slot).elim 0 ItemInstance.units) = e.units + x.units := by
  have hset := OrderedMap.sumValues_insert e.items slot x ItemInstance.units
  unfold units equip item
  cases h : e.items[slot]? with
  | none =>
    rw [OrderedMap.erase_of_getElem?_none h] at hset
    simp only [Option.elim_none, add_zero]
    rw [hset, add_comm]
  | some y =>
    have hget := OrderedMap.sumValues_of_getElem? ItemInstance.units h
    simp only [Option.elim_some]
    rw [hset, hget]
    abel

end PlayerEquipment

end ForgottenEngine
