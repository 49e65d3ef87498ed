import ForgottenEngine.Database

/-!
# Saving an inventory and loading it back

`InventorySave` lists the seven saves.  Each stores the equipment, the containers or both, and
`reload_iff` is the exact condition on what is stored for the loader to return the same.

* an equipped item comes back without its contents (`equipmentEntry_row`);
* the item a container is made of comes back without ids and contents (`loadContainer_row`);
* an item in a container comes back whole from the two saves that write the rows of contents,
  and without its contents from the four composite saves that do not (`loadItem_row`).
-/

namespace ForgottenEngine

/-! ### What a row can carry -/

namespace ItemInstance

/-- The columns of an item row admit the values of the item. -/
structure FitsRow (x : ItemInstance) : Prop where
  serverId : 0 < x.serverId ∧ x.serverId ≤ u16Max
  count : 1 ≤ x.count ∧ x.count ≤ maxItemStackCount
  actionId : ∀ n, x.actionId = some n → n ≤ u16Max
  uniqueId : ∀ n, x.uniqueId = some n → n ≤ u16Max

/-- What one row brings back of an item. -/
def withoutContents (x : ItemInstance) : ItemInstance := { x with contents := [] }

theorem withoutContents_eq {x : ItemInstance} : x.withoutContents = x ↔ x.contents = [] := by
  cases x
  simp [withoutContents, eq_comm]

/-- What a save that writes the rows of contents, or one that does not, brings back of an item. -/
def reloaded (keepsContents : Bool) (x : ItemInstance) : ItemInstance :=
  if keepsContents then { x with contents := x.contents.map withoutContents } else x.withoutContents

/-- An item that comes back as it was: its columns fit, its contents are written if it has any,
and hold nothing themselves. -/
structure Storable (keepsContents : Bool) (x : ItemInstance) : Prop where
  fits : x.FitsRow
  slots : x.contents.length ≤ maxContentSlots
  children : ∀ y ∈ x.contents, y.FitsRow ∧ y.contents = []
  kept : keepsContents = false → x.contents = []

theorem insertContent_eq_ok {x y z : ItemInstance} (hy : y.contents = []) :
    x.insertContent y = .ok z ↔ y.serverId ≠ 0 ∧ x.contents.length < maxContentSlots ∧
      z = { x with contents := x.contents ++ [y] } := by
  have hdepth : y.contentDepth = 0 := by
    cases y
    cases hy
    rfl
  unfold insertContent
  rw [hdepth]
  split
  · simp [*]
  · split
    · simp; omega
    · simp [*, maxContentDepth, eq_comm]; omega

end ItemInstance

theorem PlayerContainer.new_eq_ok {containerId capacity : ℕ} {x : ItemInstance} {name : String}
    {hasParent : Bool} {c : PlayerContainer} :
    PlayerContainer.new containerId x name hasParent capacity = .ok c ↔
      ¬(name.isEmpty = true ∨ maxPlayerContainerNameBytes < name.utf8ByteSize) ∧
      ¬(capacity = 0 ∨ maxContainerCapacity < capacity) ∧
      c = ⟨containerId, x, name, hasParent, ⟨capacity, []⟩⟩ := by
  unfold PlayerContainer.new
  by_cases hname : name.isEmpty = true ∨ maxPlayerContainerNameBytes < name.utf8ByteSize
  · rw [if_pos hname]
    constructor
    · intro h
      cases h
    · intro h
      exact absurd hname h.1
  · rw [if_neg hname]
    by_cases hcap : capacity = 0 ∨ maxContainerCapacity < capacity
    · have hnew : ItemContainer.new capacity = .error (.invalidContainerCapacity capacity) :=
        if_pos hcap
      rw [hnew]
      constructor
      · intro h
        cases h
      · intro h
        exact absurd hcap h.2.1
    · have hnew : ItemContainer.new capacity = .ok ⟨capacity, []⟩ := if_neg hcap
      rw [hnew]
      constructor
      · intro h
        cases h
        exact ⟨hname, hcap, rfl⟩
      · intro h
        rw [h.2.2]
        rfl

namespace PlayerContainers

variable {cs : PlayerContainers} {c : PlayerContainer}
  {out : Option PlayerContainer × PlayerContainers}

/-- There is room for a window below the bound. -/
theorem exists_insert (c : PlayerContainer) (h : cs.len < maxPlayerContainers) :
    ∃ out, cs.insert c = .ok out := by
  unfold insert
  rw [dif_neg fun hfull => absurd hfull.2 (not_le.mpr h)]
  exact ⟨_, rfl⟩

theorem insert_eq_ok (h : cs.insert c = .ok out) : out.2.containers = cs.containers.insert c := by
  unfold insert at h
  split at h
  · cases h
  · cases h
    rfl

theorem container_insert (h : cs.insert c = .ok out) (j : ℕ) :
    out.2.container j = if c.containerId = j then some c else cs.container j := by
  unfold container
  rw [insert_eq_ok h]
  exact KeyedMap.get?_insert cs.containers c j

theorem len_insert (h : cs.insert c = .ok out) : out.2.len ≤ cs.len + 1 := by
  unfold len
  rw [insert_eq_ok h]
  exact KeyedMap.size_insert_le cs.containers c

end PlayerContainers

/-- A window that comes back as it was. -/
structure PlayerContainer.Storable (keepsContents : Bool) (c : PlayerContainer) : Prop where
  containerId : c.containerId ≤ u8Max
  containerItem : c.containerItem.FitsRow
  plain : c.containerItem.actionId = none ∧ c.containerItem.uniqueId = none ∧
    c.containerItem.contents = []
  name : ¬(c.name.isEmpty = true ∨ maxPlayerContainerNameBytes < c.name.utf8ByteSize)
  capacity : ¬(c.items.capacity = 0 ∨ maxContainerCapacity < c.items.capacity)
  length : c.items.items.length ≤ c.items.capacity
  items : ∀ x ∈ c.items.items, x.Storable keepsContents

namespace EngineDatabase

open PersistenceError

variable {α β : Type} {wrap : RecordFault → PersistenceError}

@[simp] theorem wrapCore_eq_ok {v : Except CoreError α} {a : α} :
    wrapCore wrap v = .ok a ↔ v = .ok a := by
  cases v <;> simp [wrapCore]

@[simp] theorem optionalU16_map {v w : Option ℕ} {label : String} :
    optionalU16 wrap (v.map Int.ofNat) label = .ok w ↔ w = v ∧ ∀ n, v = some n → n ≤ u16Max := by
  cases v with
  | none => simp [optionalU16, eq_comm]
  | some n =>
    simp only [optionalU16, Option.map_some, Fallible.except_bind_eq_ok, orFail_eq_ok, u16Of,
      Int.ofNat_eq_natCast, natOf_natCast, Except.ok.injEq]
    constructor
    · intro h
      obtain ⟨m, ⟨hle, rfl⟩, rfl⟩ := h
      exact ⟨rfl, fun k hk => by cases hk; exact hle⟩
    · intro h
      exact ⟨n, ⟨h.2 n rfl, rfl⟩, h.1.symm⟩

theorem itemFromColumns_natCast {serverId count : ℕ} {x : ItemInstance} :
    itemFromColumns wrap serverId count = .ok x ↔
      (0 < serverId ∧ serverId ≤ u16Max) ∧ (1 ≤ count ∧ count ≤ maxItemStackCount) ∧
        x = ⟨serverId, count, none, none, []⟩ := by
  simp only [itemFromColumns, Fallible.except_bind_eq_ok, orFail_eq_ok, u16Of, natOf_natCast,
    wrapCore_eq_ok, ItemInstance.new]
  constructor
  · intro h
    obtain ⟨_, ⟨hs, rfl⟩, _, ⟨hc, rfl⟩, hnew⟩ := h
    split at hnew
    · cases hnew
    · rename_i hpos
      split at hnew
      · cases hnew
      · rename_i hcount
        cases hnew
        exact ⟨⟨Nat.pos_of_ne_zero hpos, hs⟩, not_not.mp hcount, rfl⟩
  · intro h
    obtain ⟨⟨hpos, hs⟩, hcount, rfl⟩ := h
    have hle : count ≤ u16Max := le_trans hcount.2 (by decide)
    exact ⟨serverId, ⟨hs, rfl⟩, count, ⟨hle, rfl⟩, by simp [Nat.ne_of_gt hpos, hcount]⟩

/-- **One row of an item** brings the item back without its contents, if its columns fit. -/
theorem itemFromRow_item {x y : ItemInstance} :
    itemFromRow wrap x.serverId x.count (x.actionId.map Int.ofNat) (x.uniqueId.map Int.ofNat) =
      .ok y ↔ x.FitsRow ∧ y = x.withoutContents := by
  simp only [itemFromRow, Fallible.except_bind_eq_ok, itemFromColumns_natCast, optionalU16_map,
    Except.ok.injEq]
  constructor
  · intro h
    obtain ⟨_, ⟨hs, hc, rfl⟩, _, ⟨rfl, ha⟩, _, ⟨rfl, hu⟩, rfl⟩ := h
    exact ⟨⟨hs, hc, ha, hu⟩, rfl⟩
  · intro h
    obtain ⟨⟨hs, hc, ha, hu⟩, rfl⟩ := h
    exact ⟨_, ⟨hs, hc, rfl⟩, _, ⟨rfl, ha⟩, _, ⟨rfl, hu⟩, rfl⟩

/-! ### Equipment -/

theorem fromCode_code (slot : EquipmentSlot) : EquipmentSlot.fromCode slot.code = some slot := by
  cases slot <;> rfl

theorem equipmentEntry_row {p : ℕ} {e : EquipmentSlot × ItemInstance}
    {out : EquipmentSlot × ItemInstance} :
    equipmentEntry (equipmentRow p e) = .ok out ↔
      e.2.FitsRow ∧ out = (e.1, e.2.withoutContents) := by
  have hcode : e.1.code ≤ u8Max := by
    cases e.1 <;> decide
  simp only [equipmentEntry, equipmentRow, Fallible.except_bind_eq_ok, orFail_eq_ok, u8Of,
    natOf_natCast, itemFromRow_item, Except.ok.injEq]
  constructor
  · intro h
    obtain ⟨_, ⟨-, rfl⟩, slot, hslot, _, ⟨hfits, rfl⟩, rfl⟩ := h
    rw [fromCode_code] at hslot
    cases hslot
    exact ⟨hfits, rfl⟩
  · intro h
    obtain ⟨hfits, rfl⟩ := h
    exact ⟨_, ⟨hcode, rfl⟩, e.1, fromCode_code e.1, _, ⟨hfits, rfl⟩, rfl⟩

/-! ### Items in containers -/

variable {db : EngineDatabase} {p id : ℕ} {keeps : Bool}

theorem itemRow_item {parent : Option ℕ} {e : ItemInstance × ℕ} {y : ItemInstance} :
    itemFromRow wrap (itemRow p id parent e).serverId (itemRow p id parent e).count
      (itemRow p id parent e).actionId (itemRow p id parent e).uniqueId = .ok y ↔
      e.1.FitsRow ∧ y = e.1.withoutContents := itemFromRow_item

/-- **The rows of contents** come back in order, each child without contents of its own. -/
theorem loadContents_rows {x z : ItemInstance} {ys : List ItemInstance} {parent n : ℕ}
    (hx : x.contents.length ≤ ItemInstance.maxContentSlots) :
    loadContents x ((ys.zipIdx n).map (itemRow p id (some parent))) = .ok z ↔
      (∀ y ∈ ys, y.FitsRow) ∧ x.contents.length + ys.length ≤ ItemInstance.maxContentSlots ∧
        z = { x with contents := x.contents ++ ys.map ItemInstance.withoutContents } := by
  unfold loadContents
  induction ys generalizing x n with
  | nil =>
    have hself : { x with contents := x.contents ++ [].map ItemInstance.withoutContents } = x := by
      cases x
      simp
    rw [hself]
    simp [hx, eq_comm, pure, Except.pure]
  | cons y ys ih =>
    rw [List.zipIdx_cons, List.map_cons, List.foldlM_cons]
    simp only [Fallible.except_bind_eq_ok, itemRow_item, wrapCore_eq_ok]
    constructor
    · intro h
      obtain ⟨x₁, ⟨_, ⟨hfits, rfl⟩, hins⟩, hrest⟩ := h
      obtain ⟨-, hroom, rfl⟩ := (ItemInstance.insertContent_eq_ok rfl).mp hins
      have hlen : (x.contents ++ [y.withoutContents]).length = x.contents.length + 1 := by simp
      obtain ⟨hall, hle, rfl⟩ := (ih (by rw [hlen]; exact hroom)).mp hrest
      refine ⟨?_, ?_, ?_⟩
      · intro w hw
        rcases List.mem_cons.mp hw with rfl | hw
        · exact hfits
        · exact hall w hw
      · rw [List.length_cons]
        simp only [List.length_append, List.length_singleton] at hle
        omega
      · simp
    · intro h
      obtain ⟨hall, hle, rfl⟩ := h
      rw [List.length_cons] at hle
      have hfits := hall y List.mem_cons_self
      refine ⟨_, ⟨_, ⟨hfits, rfl⟩, (ItemInstance.insertContent_eq_ok rfl).mpr
        ⟨Nat.ne_of_gt hfits.serverId.1, by omega, rfl⟩⟩, ?_⟩
      refine (ih (by simp only [List.length_append, List.length_singleton]; omega)).mpr
        ⟨fun w hw => hall w (List.mem_cons_of_mem y hw), ?_, by simp⟩
      simp only [List.length_append, List.length_singleton]
      omega

/-- The rows below one slot are those its item had written. -/
def HoldsContents (db : EngineDatabase) (p id : ℕ) (keeps : Bool) (e : ItemInstance × ℕ) : Prop :=
  db.itemRowsOf p id (some e.2) = if keeps then itemContentRows p id e.2 e.1 else []

/-- **One item of a container** comes back as `reloaded`. -/
theorem loadItem_row {e : ItemInstance × ℕ} {z : ItemInstance} (he : e.2 ≤ i64Max)
    (hrows : HoldsContents db p id keeps e) :
    db.loadItem p id (itemRow p id none e) e.2 = .ok z ↔
      e.1.FitsRow ∧ (keeps = true → (∀ y ∈ e.1.contents, y.FitsRow) ∧
        e.1.contents.length ≤ ItemInstance.maxContentSlots) ∧ z = e.1.reloaded keeps := by
  have hslot : usizeOf (itemRow p id none e).slot = some e.2 :=
    natOf_natCast.mpr ⟨le_trans he (by decide), rfl⟩
  have hi64 : ¬i64Max < e.2 := by omega
  have hload (y : ItemInstance) (hy : y.contents = []) :
      loadContents y (db.itemRowsOf p id (some e.2)) = .ok z ↔
        (keeps = true → (∀ y ∈ e.1.contents, y.FitsRow) ∧
          e.1.contents.length ≤ ItemInstance.maxContentSlots) ∧
        z = if keeps then { y with contents := e.1.contents.map ItemInstance.withoutContents }
          else y := by
    rw [hrows]
    cases keeps with
    | false => simp [loadContents, eq_comm, pure, Except.pure]
    | true =>
      simp only [if_true]
      rw [itemContentRows, loadContents_rows (by rw [hy]; exact Nat.zero_le _), hy]
      simp [and_assoc]
  simp only [loadItem, hslot, Fallible.except_bind_eq_ok, orFail_eq_ok, Option.some.injEq]
  constructor
  · intro h
    obtain ⟨_, rfl, h⟩ := h
    rw [if_neg (not_not.mpr rfl)] at h
    obtain ⟨y, hy, h⟩ := Fallible.except_bind_eq_ok.mp h
    obtain ⟨hfits, rfl⟩ := itemRow_item.mp hy
    rw [if_neg hi64] at h
    obtain ⟨hchildren, rfl⟩ := (hload _ rfl).mp h
    exact ⟨hfits, hchildren, rfl⟩
  · intro h
    obtain ⟨hfits, hchildren, rfl⟩ := h
    refine ⟨_, rfl, ?_⟩
    rw [if_neg (not_not.mpr rfl)]
    refine Fallible.except_bind_eq_ok.mpr ⟨_, itemRow_item.mpr ⟨hfits, rfl⟩, ?_⟩
    rw [if_neg hi64]
    exact (hload _ rfl).mpr ⟨hchildren, rfl⟩

theorem reloaded_eq {x : ItemInstance} : x.reloaded keeps = x ↔
    (keeps = true → ∀ y ∈ x.contents, y.contents = []) ∧ (keeps = false → x.contents = []) := by
  cases keeps with
  | false =>
    simp [ItemInstance.reloaded, ItemInstance.withoutContents_eq]
  | true =>
    cases x with
    | mk serverId count actionId uniqueId contents =>
      have hmap := List.map_inj_left (l := contents) (f := ItemInstance.withoutContents) (g := id)
      simpa [ItemInstance.reloaded, ItemInstance.withoutContents_eq] using hmap

/-- An item comes back as it was exactly when it is storable. -/
theorem loadItem_self {e : ItemInstance × ℕ} (he : e.2 ≤ i64Max)
    (hrows : HoldsContents db p id keeps e) :
    db.loadItem p id (itemRow p id none e) e.2 = .ok e.1 ↔ e.1.Storable keeps := by
  rw [loadItem_row he hrows, eq_comm (b := e.1.reloaded keeps), reloaded_eq]
  constructor
  · intro h
    obtain ⟨hfits, hwritten, hnested, hkept⟩ := h
    cases keeps with
    | false =>
      have hnil := hkept rfl
      refine ⟨hfits, ?_, ?_, fun _ => hnil⟩
      · rw [hnil]; exact Nat.zero_le _
      · rw [hnil]; exact fun y hy => absurd hy List.not_mem_nil
    | true =>
      refine ⟨hfits, (hwritten rfl).2, ?_, fun hk => by cases hk⟩
      exact fun y hy => ⟨(hwritten rfl).1 y hy, hnested rfl y hy⟩
  · intro h
    refine ⟨h.fits, ?_, ?_, h.kept⟩
    · exact fun _ => ⟨fun y hy => (h.children y hy).1, h.slots⟩
    · exact fun _ y hy => (h.children y hy).2

/-- Loading appends. -/
theorem prefix_loadItems {acc out : ItemContainer} {rows : List (ContainerItemRow × ℕ)}
    (h : db.loadItems p id acc rows = .ok out) : acc.items <+: out.items := by
  unfold loadItems at h
  induction rows generalizing acc with
  | nil =>
    cases h
    exact List.prefix_rfl
  | cons row rows ih =>
    rw [List.foldlM_cons] at h
    obtain ⟨acc₁, hstep, hrest⟩ := Fallible.except_bind_eq_ok.mp h
    obtain ⟨x, -, hins⟩ := Fallible.except_bind_eq_ok.mp hstep
    obtain ⟨-, rfl⟩ := ItemContainer.insert_eq_ok.mp (wrapCore_eq_ok.mp hins)
    exact (List.prefix_append acc.items [x]).trans (ih hrest)

/-- **The items of a container** come back as they were exactly when each is storable and there is
room for all. -/
theorem loadItems_rows {acc : ItemContainer} {xs : List ItemInstance} {n : ℕ}
    (hrows : ∀ e ∈ xs.zipIdx n, HoldsContents db p id keeps e) (hn : acc.items.length = n)
    (hcap : acc.capacity ≤ maxContainerCapacity) (hacc : n ≤ acc.capacity) :
    db.loadItems p id acc (((xs.zipIdx n).map (itemRow p id none)).zipIdx n) =
      .ok { acc with items := acc.items ++ xs } ↔
      (∀ x ∈ xs, x.Storable keeps) ∧ n + xs.length ≤ acc.capacity := by
  induction xs generalizing acc n with
  | nil => simp [loadItems, hacc, pure, Except.pure]
  | cons x xs ih =>
    have hslot : n ≤ i64Max := le_trans (le_trans hacc hcap) (by decide)
    have hself := loadItem_self (e := (x, n)) hslot (hrows (x, n) (by simp))
    have hrest : ∀ e ∈ xs.zipIdx (n + 1), HoldsContents db p id keeps e := by
      intro e he
      exact hrows e (by rw [List.zipIdx_cons]; exact List.mem_cons_of_mem _ he)
    have hsplit : acc.items ++ x :: xs = (acc.items ++ [x]) ++ xs := by simp
    have hnext (hlt : n < acc.capacity) : db.loadItems p id ⟨acc.capacity, acc.items ++ [x]⟩
        (((xs.zipIdx (n + 1)).map (itemRow p id none)).zipIdx (n + 1)) =
        .ok ⟨acc.capacity, (acc.items ++ [x]) ++ xs⟩ ↔
        (∀ y ∈ xs, y.Storable keeps) ∧ n + 1 + xs.length ≤ acc.capacity :=
      ih hrest (by rw [List.length_append, hn, List.length_singleton]) hcap hlt
    rw [List.zipIdx_cons, List.map_cons, List.zipIdx_cons]
    unfold loadItems
    rw [List.foldlM_cons, Fallible.except_bind_eq_ok]
    constructor
    · intro h
      obtain ⟨acc₁, hstep, hmore⟩ := h
      obtain ⟨z, hz, hins⟩ := Fallible.except_bind_eq_ok.mp hstep
      obtain ⟨hroom, rfl⟩ := ItemContainer.insert_eq_ok.mp (wrapCore_eq_ok.mp hins)
      have hprefix : acc.items ++ [z] <+: acc.items ++ x :: xs := prefix_loadItems hmore
      have hzx : z = x := by
        have hhead := (List.prefix_append_right_inj acc.items).mp hprefix
        exact (List.cons_prefix_cons.mp hhead).1
      subst hzx
      rw [hsplit] at hmore
      obtain ⟨hall, hle⟩ := (hnext (by omega)).mp hmore
      refine ⟨?_, ?_⟩
      · intro y hy
        rcases List.mem_cons.mp hy with rfl | hy
        · exact hself.mp hz
        · exact hall y hy
      · rw [List.length_cons]
        omega
    · intro h
      obtain ⟨hall, hle⟩ := h
      rw [List.length_cons] at hle
      have hroom : acc.items.length < acc.capacity := by omega
      refine ⟨{ acc with items := acc.items ++ [x] }, ?_, ?_⟩
      · refine Fallible.except_bind_eq_ok.mpr ⟨x, hself.mpr (hall x List.mem_cons_self), ?_⟩
        exact wrapCore_eq_ok.mpr (ItemContainer.insert_eq_ok.mpr ⟨hroom, rfl⟩)
      · rw [hsplit]
        refine (hnext (by omega)).mpr ⟨?_, by omega⟩
        exact fun y hy => hall y (List.mem_cons_of_mem x hy)

/-- What a player's item rows hold of one window. -/
structure HoldsItems (db : EngineDatabase) (p : ℕ) (keeps : Bool) (c : PlayerContainer) : Prop where
  top : db.itemRowsOf p c.containerId none =
    c.items.items.zipIdx.map (itemRow p c.containerId none)
  contents : ∀ e ∈ c.items.items.zipIdx, HoldsContents db p c.containerId keeps e

/-- **A window** comes back as it was exactly when it is storable. -/
theorem loadContainer_self {c : PlayerContainer} (h : db.HoldsItems p keeps c) :
    db.loadContainer p (containerRow p (c.containerId, c)) = .ok c ↔ c.Storable keeps := by
  have hflag : parentFlag (containerRow p (c.containerId, c)).hasParent = .ok c.hasParent := by
    show parentFlag (c.hasParent.toNat : ℤ) = _
    cases c.hasParent <;> rfl
  have hitems (hcap : c.items.capacity ≤ maxContainerCapacity) :
      db.loadItems p c.containerId ⟨c.items.capacity, []⟩
        (db.itemRowsOf p c.containerId none).zipIdx = .ok c.items ↔
      (∀ x ∈ c.items.items, x.Storable keeps) ∧ 0 + c.items.items.length ≤ c.items.capacity := by
    rw [h.top]
    exact loadItems_rows h.contents rfl hcap (Nat.zero_le _)
  unfold loadContainer
  rw [hflag]
  simp only [Fallible.except_bind_eq_ok, orFail_eq_ok, wrapCore_eq_ok, Except.ok.injEq]
  constructor
  · intro hload
    obtain ⟨_, hid, _, rfl, _, hcap, x, hx, w, hw, items, hread, heq⟩ := hload
    obtain ⟨hfit, rfl⟩ := natOf_natCast.mp hid
    obtain ⟨-, rfl⟩ := natOf_natCast.mp hcap
    obtain ⟨hserver, hcount, rfl⟩ := itemFromColumns_natCast.mp hx
    obtain ⟨hname, hcapacity, rfl⟩ := PlayerContainer.new_eq_ok.mp hw
    have hsame : items = c.items := congrArg PlayerContainer.items heq
    have hitem : (⟨c.containerItem.serverId, c.containerItem.count, none, none, []⟩ : ItemInstance) =
        c.containerItem := congrArg PlayerContainer.containerItem heq
    have hbound : c.items.capacity ≤ maxContainerCapacity := not_lt.mp fun hlt => hcapacity (.inr hlt)
    rw [hsame] at hread
    obtain ⟨hall, hlen⟩ := (hitems hbound).mp hread
    refine ⟨hfit, ⟨hserver, hcount, ?_, ?_⟩, ?_, hname, hcapacity, by omega, hall⟩
    · rw [← hitem]; exact fun n hn => by cases hn
    · rw [← hitem]; exact fun n hn => by cases hn
    · rw [← hitem]; exact ⟨rfl, rfl, rfl⟩
  · intro hstore
    have hcap := hstore.capacity
    have hle : c.items.capacity ≤ u16Max := le_trans (by omega) (show maxContainerCapacity ≤ u16Max by decide)
    refine ⟨c.containerId, natOf_natCast.mpr ⟨hstore.containerId, rfl⟩, c.hasParent, rfl,
      c.items.capacity, natOf_natCast.mpr ⟨hle, rfl⟩, c.containerItem, ?_, _,
      PlayerContainer.new_eq_ok.mpr ⟨hstore.name, hcap, rfl⟩, c.items, ?_, rfl⟩
    · refine itemFromColumns_natCast.mpr ⟨hstore.containerItem.serverId,
        hstore.containerItem.count, ?_⟩
      obtain ⟨ha, hu, hnil⟩ := hstore.plain
      cases hitem : c.containerItem
      simp only [hitem] at ha hu hnil
      rw [ha, hu, hnil]
    · exact (hitems (by omega)).mpr ⟨hstore.items, by have := hstore.length; omega⟩

/-! ### The tables after a save -/

variable {db' : EngineDatabase} {e : PlayerEquipment} {cs : PlayerContainers}

/-- The rows of one player after the others' are kept and new ones are added. -/
theorem filter_written {ρ : Type} (player : ρ → ℕ) {others rows : List ρ}
    (hrows : ∀ row ∈ rows, player row = p) :
    (others.filter (fun row => !(player row == p)) ++ rows).filter (fun row => player row == p) =
      rows := by
  have hothers : (others.filter fun row => !(player row == p)).filter (fun row => player row == p) =
      [] := by
    simp
  have hall : rows.filter (fun row => player row == p) = rows :=
    List.filter_eq_self.mpr fun row hrow => by simp [hrows row hrow]
  rw [List.filter_append, hothers, hall, List.nil_append]

theorem writeEquipment_eq_ok (h : db.writeEquipment p e = .ok db') :
    db'.playerEquipment.rows.filter (·.playerId == p) = e.items.toList.map (equipmentRow p) ∧
      ∃ table, db' = { db with playerEquipment := table } := by
  obtain ⟨table, htable, heq⟩ := Fallible.except_bind_eq_ok.mp h
  cases heq
  refine ⟨?_, table, rfl⟩
  have hrows := Table.rows_insertAll (orFail_eq_ok.mp htable)
  show table.rows.filter (·.playerId == p) = _
  rw [hrows]
  refine filter_written EquipmentRow.playerId ?_
  intro row hrow
  obtain ⟨entry, -, rfl⟩ := List.mem_map.mp hrow
  rfl

theorem playerId_of_mem_containerItemRows {entry : ℕ × PlayerContainer} {row : ContainerItemRow}
    (h : row ∈ containerItemRows keeps p entry) : row.playerId = p := by
  obtain ⟨item, -, hrow⟩ := List.mem_flatMap.mp h
  rcases List.mem_cons.mp hrow with rfl | hrow
  · rfl
  · cases keeps with
    | false => exact absurd hrow List.not_mem_nil
    | true =>
      obtain ⟨child, -, rfl⟩ := List.mem_map.mp hrow
      rfl

theorem writeContainers_eq_ok (h : db.writeContainers p keeps cs = .ok db') :
    db'.playerContainers.rows.filter (·.playerId == p) =
        cs.containers.entries.toList.map (containerRow p) ∧
      db'.playerContainerItems.rows.filter (·.playerId == p) =
        cs.containers.entries.toList.flatMap (containerItemRows keeps p) ∧
      ∃ table items, db' = { db with playerContainers := table, playerContainerItems := items } := by
  obtain ⟨table, htable, h⟩ := Fallible.except_bind_eq_ok.mp h
  obtain ⟨items, hitems, heq⟩ := Fallible.except_bind_eq_ok.mp h
  cases heq
  have hrows := Table.rows_insertAll (orFail_eq_ok.mp htable)
  have hrows' := Table.rows_insertAll (orFail_eq_ok.mp hitems)
  refine ⟨?_, ?_, table, items, rfl⟩
  · show table.rows.filter (·.playerId == p) = _
    rw [hrows]
    refine filter_written ContainerRow.playerId ?_
    intro row hrow
    obtain ⟨entry, -, rfl⟩ := List.mem_map.mp hrow
    rfl
  · show items.rows.filter (·.playerId == p) = _
    rw [hrows']
    refine filter_written ContainerItemRow.playerId ?_
    intro row hrow
    obtain ⟨entry, -, hrow⟩ := List.mem_flatMap.mp hrow
    exact playerId_of_mem_containerItemRows hrow

/-! ### Saves that go through -/

theorem exists_replacePlayerEquipment (hplayer : db.ensurePlayerExists p = .ok ())
    (e : PlayerEquipment) : ∃ db', db.replacePlayerEquipment p e = .ok db' := by
  have hkeys : ((e.items.toList.map (equipmentRow p)).filterMap EquipmentRow.key).Nodup := by
    have hmap : (e.items.toList.map (equipmentRow p)).filterMap EquipmentRow.key =
        (e.items.toList.map Prod.fst).map fun slot => (p, (slot.code : ℤ)) := by
      rw [List.filterMap_map, List.map_map, ← List.filterMap_eq_map]
      rfl
    rw [hmap]
    refine (OrderedMap.nodup_keys e.items).map fun a b hab => ?_
    exact EquipmentSlot.code_injective (Int.ofNat.inj (Prod.mk.inj hab).2)
  obtain ⟨table, htable⟩ := Table.exists_insertAll_delete db.playerEquipment
    (fun row => row.playerId == p) hkeys
    (fun row row' k hrow hrow' => by
      cases hrow
      have hsame := (Prod.mk.inj (Option.some.inj hrow')).1
      simp [hsame])
    (fun row hrow => by
      obtain ⟨entry, -, rfl⟩ := List.mem_map.mp hrow
      exact beq_self_eq_true p)
  refine ⟨{ db with playerEquipment := table }, ?_⟩
  unfold replacePlayerEquipment writeEquipment
  rw [hplayer, htable]
  rfl

/-- The keys of the rows of one container: one for each content item of each item. -/
theorem filterMap_containerItemRows (entry : ℕ × PlayerContainer) :
    (containerItemRows true p entry).filterMap ContainerItemRow.key =
      entry.2.items.items.zipIdx.flatMap fun item => (item.1.contents.zipIdx.map Prod.snd).map
        fun slot : ℕ => (p, (entry.1 : ℤ), (item.2 : ℤ), (slot : ℤ)) := by
  unfold containerItemRows
  rw [List.filterMap_flatMap]
  refine congrArg (List.flatMap · _) (funext fun item => ?_)
  show List.filterMap _ (itemContentRows p entry.1 item.2 item.1) = _
  unfold itemContentRows
  rw [List.filterMap_map, List.map_map, ← List.filterMap_eq_map]
  rfl

theorem nodup_contentKeys {entries : List (ℕ × PlayerContainer)}
    (hentries : (entries.map Prod.fst).Nodup) :
    ((entries.flatMap (containerItemRows true p)).filterMap ContainerItemRow.key).Nodup := by
  rw [List.filterMap_flatMap]
  simp only [filterMap_containerItemRows]
  refine List.nodup_flatMap.mpr ⟨fun entry _ => List.nodup_flatMap.mpr ⟨fun item _ => ?_, ?_⟩, ?_⟩
  · rw [List.zipIdx_map_snd]
    refine (List.nodup_range').map fun a b hab => ?_
    simpa using hab
  · refine (List.pairwise_zipIdx entry.2.items.items 0).imp fun {a b} hab => ?_
    intro k hka hkb
    obtain ⟨_, -, rfl⟩ := List.mem_map.mp hka
    obtain ⟨_, -, heq⟩ := List.mem_map.mp hkb
    simp only [Prod.mk.injEq, Nat.cast_inj] at heq
    exact hab heq.2.2.1.symm
  · refine (List.pairwise_map.mp hentries).imp fun {a b} hab => ?_
    intro k hka hkb
    obtain ⟨_, -, hka⟩ := List.mem_flatMap.mp hka
    obtain ⟨_, -, hkb⟩ := List.mem_flatMap.mp hkb
    obtain ⟨_, -, rfl⟩ := List.mem_map.mp hka
    obtain ⟨_, -, heq⟩ := List.mem_map.mp hkb
    simp only [Prod.mk.injEq, Nat.cast_inj] at heq
    exact hab heq.2.1.symm

theorem exists_replacePlayerContainers (hplayer : db.ensurePlayerExists p = .ok ())
    (cs : PlayerContainers) : ∃ db', db.replacePlayerContainers p cs = .ok db' := by
  have hentries := OrderedMap.nodup_keys cs.containers.entries
  have hkeys : ((cs.containers.entries.toList.map (containerRow p)).filterMap
      ContainerRow.key).Nodup := by
    have hmap : (cs.containers.entries.toList.map (containerRow p)).filterMap ContainerRow.key =
        (cs.containers.entries.toList.map Prod.fst).map fun id : ℕ => (p, (id : ℤ)) := by
      rw [List.filterMap_map, List.map_map, ← List.filterMap_eq_map]
      rfl
    rw [hmap]
    refine hentries.map fun a b hab => ?_
    exact Int.ofNat.inj (Prod.mk.inj hab).2
  obtain ⟨table, htable⟩ := Table.exists_insertAll_delete db.playerContainers
    (fun row => row.playerId == p) hkeys
    (fun row row' k hrow hrow' => by
      cases hrow
      have hsame := (Prod.mk.inj (Option.some.inj hrow')).1
      simp [hsame])
    (fun row hrow => by
      obtain ⟨entry, -, rfl⟩ := List.mem_map.mp hrow
      exact beq_self_eq_true p)
  obtain ⟨items, hitems⟩ := Table.exists_insertAll_delete db.playerContainerItems
    (fun row => row.playerId == p) (nodup_contentKeys (p := p) hentries)
    (fun row row' k hrow hrow' => by
      obtain ⟨slot, -, rfl⟩ := Option.map_eq_some_iff.mp hrow
      obtain ⟨slot', -, heq⟩ := Option.map_eq_some_iff.mp hrow'
      have hsame := (Prod.mk.inj heq).1
      simp [hsame])
    (fun row hrow => by
      obtain ⟨entry, -, hrow⟩ := List.mem_flatMap.mp hrow
      exact beq_iff_eq.mpr (playerId_of_mem_containerItemRows hrow))
  refine ⟨{ db with playerContainers := table, playerContainerItems := items }, ?_⟩
  unfold replacePlayerContainers writeContainers
  dsimp only
  rw [hplayer, htable, hitems]
  rfl

/-! ### Loading what was written -/

/-- **The equipment** comes back as it was exactly when no equipped item has contents and all
columns fit. -/
theorem loadPlayerEquipment_iff (hplayer : db'.ensurePlayerExists p = .ok ())
    (hrows : db'.playerEquipment.rows.filter (·.playerId == p) =
      e.items.toList.map (equipmentRow p)) :
    db'.loadPlayerEquipment p = .ok e ↔
      ∀ slot x, e.item slot = some x → x.FitsRow ∧ x.contents = [] := by
  have hsorted : (e.items.toList.map (equipmentRow p)).Pairwise fun a b => a.slot ≤ b.slot := by
    rw [List.pairwise_map]
    refine (Std.ExtTreeMap.ordered_keys_toList (t := e.items)).imp ?_
    intro a b hab
    have hlt : a.1.code < b.1.code := Nat.compare_eq_lt.mp hab
    exact Int.ofNat_le.mpr (le_of_lt hlt)
  let dec (slot : EquipmentSlot) (x : ItemInstance) : Except PersistenceError ItemInstance := do
    let out ← equipmentEntry (equipmentRow p (slot, x))
    .ok out.2
  have hdec (slot : EquipmentSlot) (x y : ItemInstance) :
      dec slot x = .ok y ↔ x.FitsRow ∧ y = x.withoutContents := by
    simp only [dec, Fallible.except_bind_eq_ok, equipmentEntry_row, Except.ok.injEq]
    constructor
    · intro h
      obtain ⟨_, ⟨hfits, rfl⟩, rfl⟩ := h
      exact ⟨hfits, rfl⟩
    · intro h
      exact ⟨_, ⟨h.1, rfl⟩, h.2.symm⟩
  let put (s : PlayerEquipment) (slot : EquipmentSlot) (x : ItemInstance) :
      Except PersistenceError PlayerEquipment := .ok (s.equip slot x).2
  have hstep (s : PlayerEquipment) (entry : EquipmentSlot × ItemInstance) :
      (do
        let out ← equipmentEntry (equipmentRow p entry)
        .ok (s.equip out.1 out.2).2) = hydrateStep put dec s entry := by
    cases hentry : equipmentEntry (equipmentRow p entry) with
    | error err => simp [hydrateStep, dec, hentry, bind, Except.bind]
    | ok out =>
      obtain ⟨-, rfl⟩ := equipmentEntry_row.mp hentry
      simp [hydrateStep, dec, put, hentry, bind, Except.bind]
  have hload : db'.loadPlayerEquipment p =
      e.items.toList.foldlM (hydrateStep put dec) PlayerEquipment.empty := by
    unfold loadPlayerEquipment
    rw [hplayer, hrows, Table.orderBy_of_pairwise hsorted]
    show List.foldlM _ _ _ = _
    rw [List.foldlM_map]
    exact congrArg (fun f => List.foldlM f PlayerEquipment.empty e.items.toList)
      (funext fun s => funext fun entry => hstep s entry)
  rw [hload, hydrate_iff PlayerEquipment.item fun _ _ => True]
  · refine forall₃_congr fun slot x hx => ?_
    rw [hdec, eq_comm (b := x.withoutContents), ItemInstance.withoutContents_eq]
  · intro s slot u v s' _ hput j
    cases hput
    exact PlayerEquipment.item_equip s slot v j
  · exact fun n s slot x _ => ⟨_, rfl, trivial⟩
  · exact fun s t h => PlayerEquipment.ext_item h
  · exact fun j => rfl
  · intro j
    simp [PlayerEquipment.empty, PlayerEquipment.item]
  · trivial

/-- The rows of one window among all rows of the player. -/
theorem itemRowsOf_written (parent : Option ℕ)
    (hrows : db'.playerContainerItems.rows.filter (·.playerId == p) =
      cs.containers.entries.toList.flatMap (containerItemRows keeps p))
    {c : PlayerContainer} (hc : cs.container id = some c) :
    db'.itemRowsOf p id parent = Table.orderBy ContainerItemRow.slot
      ((containerItemRows keeps p (id, c)).filter fun row =>
        row.parentSlot == parent.map Int.ofNat) := by
  have hkeys : cs.containers.entries.toList.Pairwise fun a b => a.1 ≠ b.1 := by
    refine List.Pairwise.imp ?_ (Std.ExtTreeMap.distinct_keys_toList (t := cs.containers.entries))
    intro a b hab heq
    exact hab (by rw [heq]; exact Std.ReflCmp.compare_self)
  have hmem : (id, c) ∈ cs.containers.entries.toList :=
    Std.ExtTreeMap.mem_toList_iff_getElem?_eq_some.mpr hc
  have hid (entry : ℕ × PlayerContainer) (row : ContainerItemRow)
      (hrow : row ∈ containerItemRows keeps p entry) : row.containerId = entry.1 := by
    obtain ⟨item, -, hrow⟩ := List.mem_flatMap.mp hrow
    rcases List.mem_cons.mp hrow with rfl | hrow
    · rfl
    · cases keeps with
      | false => exact absurd hrow List.not_mem_nil
      | true =>
        obtain ⟨child, -, rfl⟩ := List.mem_map.mp hrow
        rfl
  unfold itemRowsOf
  congr 1
  calc db'.playerContainerItems.rows.filter (fun row => row.playerId == p &&
        row.containerId == (id : ℤ) && row.parentSlot == parent.map Int.ofNat)
      = (db'.playerContainerItems.rows.filter (·.playerId == p)).filter fun row =>
          row.containerId == (id : ℤ) && row.parentSlot == parent.map Int.ofNat := by
        rw [List.filter_filter]
        refine List.filter_congr fun row _ => ?_
        rw [Bool.and_assoc, Bool.and_comm]
    _ = cs.containers.entries.toList.flatMap fun entry =>
          if entry.1 = id then (containerItemRows keeps p entry).filter fun row =>
            row.parentSlot == parent.map Int.ofNat else [] := by
        rw [hrows, List.filter_flatMap]
        refine List.flatMap_congr fun entry _ => ?_
        split
        · rename_i heq
          refine List.filter_congr fun row hrow => ?_
          simp [hid entry row hrow, heq]
        · rename_i hne
          rw [List.filter_eq_nil_iff]
          intro row hrow
          simp [hid entry row hrow, hne]
    _ = _ := List.flatMap_unique Prod.fst hkeys hmem _

/-- The rows written for one item of a window. -/
def itemBlock (keeps : Bool) (p id : ℕ) (item : ItemInstance × ℕ) : List ContainerItemRow :=
  itemRow p id none item :: if keeps then itemContentRows p id item.2 item.1 else []

theorem filter_contentRows (p id : ℕ) (parent : Option ℕ) (item : ItemInstance × ℕ) :
    (itemContentRows p id item.2 item.1).filter (fun row =>
      row.parentSlot == parent.map Int.ofNat) =
      if parent = some item.2 then itemContentRows p id item.2 item.1 else [] := by
  split
  · rename_i hparent
    rw [List.filter_eq_self]
    intro row hrow
    obtain ⟨child, -, rfl⟩ := List.mem_map.mp hrow
    simp [itemRow, hparent]
  · rename_i hparent
    rw [List.filter_eq_nil_iff]
    intro row hrow
    obtain ⟨child, -, rfl⟩ := List.mem_map.mp hrow
    cases parent with
    | none => simp [itemRow]
    | some n =>
      have hne : item.2 ≠ n := fun h => hparent (congrArg some h.symm)
      simpa [itemRow] using hne

theorem filter_itemBlock_none (item : ItemInstance × ℕ) :
    (itemBlock keeps p id item).filter (fun row =>
      row.parentSlot == (none : Option ℕ).map Int.ofNat) = [itemRow p id none item] := by
  have hrest := filter_contentRows p id none item
  rw [itemBlock, List.filter_cons_of_pos (by rfl)]
  cases keeps with
  | false => rfl
  | true =>
    show _ :: (itemContentRows p id item.2 item.1).filter _ = _
    rw [hrest, if_neg (by simp)]

theorem filter_itemBlock_some (item : ItemInstance × ℕ) (n : ℕ) :
    (itemBlock keeps p id item).filter (fun row => row.parentSlot == (some n).map Int.ofNat) =
      if item.2 = n then (if keeps then itemContentRows p id item.2 item.1 else []) else [] := by
  have hrest := filter_contentRows p id (some n) item
  rw [itemBlock, List.filter_cons_of_neg (by simp [itemRow])]
  cases keeps with
  | false => simp
  | true =>
    show (itemContentRows p id item.2 item.1).filter _ =
      if item.2 = n then itemContentRows p id item.2 item.1 else []
    rw [hrest]
    by_cases hn : item.2 = n
    · rw [if_pos hn, if_pos (congrArg some hn.symm)]
    · rw [if_neg hn, if_neg fun h => hn (Option.some.inj h).symm]

/-- **The item rows of a window** are read back in the order they were written. -/
theorem holdsItems_written
    (hrows : db'.playerContainerItems.rows.filter (·.playerId == p) =
      cs.containers.entries.toList.flatMap (containerItemRows keeps p))
    {c : PlayerContainer} (hc : cs.container id = some c) : db'.HoldsItems p keeps c := by
  have hid : c.containerId = id := PlayerContainers.id_of_container hc
  subst hid
  have hblocks : containerItemRows keeps p (c.containerId, c) =
      c.items.items.zipIdx.flatMap (itemBlock keeps p c.containerId) := rfl
  refine ⟨?_, ?_⟩
  · have htop : (containerItemRows keeps p (c.containerId, c)).filter (fun row =>
        row.parentSlot == (none : Option ℕ).map Int.ofNat) =
        c.items.items.zipIdx.map (itemRow p c.containerId none) := by
      rw [hblocks, List.filter_flatMap, ← List.flatMap_pure_eq_map]
      exact List.flatMap_congr fun item _ => filter_itemBlock_none item
    rw [itemRowsOf_written none hrows hc, htop,
      Table.orderBy_zipIdx (f := itemRow p c.containerId none) fun _ => rfl]
  · intro item hitem
    have hbelow : (containerItemRows keeps p (c.containerId, c)).filter (fun row =>
        row.parentSlot == (some item.2).map Int.ofNat) =
        if keeps then itemContentRows p c.containerId item.2 item.1 else [] := by
      rw [hblocks, List.filter_flatMap]
      calc (c.items.items.zipIdx.flatMap fun other => (itemBlock keeps p c.containerId other).filter
            fun row => row.parentSlot == (some item.2).map Int.ofNat)
          = c.items.items.zipIdx.flatMap fun other => if other.2 = item.2 then
              (if keeps then itemContentRows p c.containerId other.2 other.1 else []) else [] :=
            List.flatMap_congr fun other _ => filter_itemBlock_some other item.2
        _ = _ := List.flatMap_unique Prod.snd (List.pairwise_zipIdx _ 0) hitem _
    unfold HoldsContents
    rw [itemRowsOf_written (some item.2) hrows hc, hbelow]
    cases keeps with
    | false => rfl
    | true =>
      exact Table.orderBy_zipIdx (f := itemRow p c.containerId (some item.2)) (fun _ => rfl)
        item.1.contents 0

theorem containerId_loadContainer {c c' : PlayerContainer}
    (h : db.loadContainer p (containerRow p (id, c)) = .ok c') : c'.containerId = id := by
  unfold loadContainer at h
  obtain ⟨_, hid, h⟩ := Fallible.except_bind_eq_ok.mp h
  obtain ⟨_, -, h⟩ := Fallible.except_bind_eq_ok.mp h
  obtain ⟨_, -, h⟩ := Fallible.except_bind_eq_ok.mp h
  obtain ⟨_, -, h⟩ := Fallible.except_bind_eq_ok.mp h
  obtain ⟨w, hw, h⟩ := Fallible.except_bind_eq_ok.mp h
  obtain ⟨items, -, heq⟩ := Fallible.except_bind_eq_ok.mp h
  obtain ⟨-, rfl⟩ := natOf_natCast.mp (orFail_eq_ok.mp hid)
  obtain ⟨-, -, rfl⟩ := PlayerContainer.new_eq_ok.mp (wrapCore_eq_ok.mp hw)
  cases heq
  rfl

/-- **The containers** come back as they were exactly when each window is storable. -/
theorem loadPlayerContainers_iff (hplayer : db'.ensurePlayerExists p = .ok ())
    (hwindows : db'.playerContainers.rows.filter (·.playerId == p) =
      cs.containers.entries.toList.map (containerRow p))
    (hitems : db'.playerContainerItems.rows.filter (·.playerId == p) =
      cs.containers.entries.toList.flatMap (containerItemRows keeps p)) :
    db'.loadPlayerContainers p = .ok cs ↔
      ∀ id c, cs.container id = some c → c.Storable keeps := by
  have hsorted : (cs.containers.entries.toList.map (containerRow p)).Pairwise
      fun a b => a.containerId ≤ b.containerId := by
    rw [List.pairwise_map]
    refine (Std.ExtTreeMap.ordered_keys_toList (t := cs.containers.entries)).imp ?_
    intro a b hab
    have hlt : a.1 < b.1 := Nat.compare_eq_lt.mp hab
    exact Int.ofNat_le.mpr (le_of_lt hlt)
  let dec (id : ℕ) (c : PlayerContainer) : Except PersistenceError PlayerContainer :=
    db'.loadContainer p (containerRow p (id, c))
  let put (s : PlayerContainers) (_ : ℕ) (c : PlayerContainer) :
      Except PersistenceError PlayerContainers := do
    let out ← wrapCore invalidContainerRecord (s.insert c)
    .ok out.2
  have hload : db'.loadPlayerContainers p =
      cs.containers.entries.toList.foldlM (hydrateStep put dec) PlayerContainers.empty := by
    unfold loadPlayerContainers
    rw [hplayer, hwindows, Table.orderBy_of_pairwise hsorted]
    show List.foldlM _ _ _ = _
    rw [List.foldlM_map]
    rfl
  have hput (s s' : PlayerContainers) (id : ℕ) (c : PlayerContainer) :
      put s id c = .ok s' ↔ ∃ old, s.insert c = .ok (old, s') := by
    simp only [put, Fallible.except_bind_eq_ok, wrapCore_eq_ok, Prod.exists, Except.ok.injEq]
    constructor
    · intro h
      obtain ⟨old, _, hins, rfl⟩ := h
      exact ⟨old, hins⟩
    · intro h
      obtain ⟨old, hins⟩ := h
      exact ⟨old, s', hins, rfl⟩
  rw [hload, hydrate_iff PlayerContainers.container fun n s => s.len + n ≤ maxPlayerContainers]
  · refine forall₃_congr fun id c hc => ?_
    have hid : c.containerId = id := PlayerContainers.id_of_container hc
    subst hid
    exact loadContainer_self (holdsItems_written hitems hc)
  · intro s id u c s' hdec hins j
    obtain ⟨old, hins⟩ := (hput s s' id c).mp hins
    rw [PlayerContainers.container_insert hins, containerId_loadContainer hdec]
  · intro n s id c hroom
    obtain ⟨out, hout⟩ := @PlayerContainers.exists_insert s c (by omega)
    have hlen := PlayerContainers.len_insert hout
    exact ⟨out.2, (hput s out.2 id c).mpr ⟨out.1, hout⟩, by omega⟩
  · exact fun s t h => PlayerContainers.ext_container h
  · exact fun j => rfl
  · exact fun j => KeyedMap.get?_empty j
  · have hsize := cs.bounded
    show 0 + cs.containers.entries.size ≤ maxPlayerContainers
    unfold KeyedMap.size at hsize
    omega

end EngineDatabase

/-! ### The seven saves -/

/-- The operations that save an inventory, with what each stores beside it. -/
inductive InventorySave where
  | equipment
  | containers
  | inventory
  | inventoryAndBankBalance (balance : ℕ)
  | inventoryAndMapItemRemovalJournal (journal : MapItemRemovalJournal)
  | inventoryAndRuntimeMapItems (mapRevision : ℕ) (runtimeItems : List RuntimeMapItemRecord)
  | inventoryAndMapItemState (journal : MapItemRemovalJournal)
      (overrides : List MapItemCountOverrideRecord)

namespace InventorySave

open EngineDatabase

def perform (p : ℕ) (e : PlayerEquipment) (cs : PlayerContainers) (db : EngineDatabase) :
    InventorySave → Except PersistenceError EngineDatabase
  | equipment => db.replacePlayerEquipment p e
  | containers => db.replacePlayerContainers p cs
  | inventory => db.replacePlayerInventory p e cs
  | inventoryAndBankBalance balance => db.replacePlayerInventoryAndBankBalance p e cs balance
  | inventoryAndMapItemRemovalJournal journal =>
    db.replacePlayerInventoryAndMapItemRemovalJournal p e cs journal
  | inventoryAndRuntimeMapItems mapRevision runtimeItems =>
    db.replacePlayerInventoryAndRuntimeMapItems p e cs mapRevision runtimeItems
  | inventoryAndMapItemState journal overrides =>
    db.replacePlayerInventoryAndMapItemState p e cs journal overrides

/-- The save stores the equipment. -/
def storesEquipment : InventorySave → Bool
  | containers => false
  | _ => true

/-- The save stores the containers. -/
def storesContainers : InventorySave → Bool
  | equipment => false
  | _ => true

/-- The save writes the rows of the contents of items in containers. -/
def keepsContents : InventorySave → Bool
  | containers | inventory => true
  | _ => false

/-- What a save leaves in the tables the loaders read. -/
structure Wrote (p : ℕ) (e : PlayerEquipment) (cs : PlayerContainers) (save : InventorySave)
    (db : EngineDatabase) : Prop where
  player : db.ensurePlayerExists p = .ok ()
  equipment : save.storesEquipment = true →
    db.playerEquipment.rows.filter (·.playerId == p) = e.items.toList.map (equipmentRow p)
  windows : save.storesContainers = true →
    db.playerContainers.rows.filter (·.playerId == p) =
      cs.containers.entries.toList.map (containerRow p)
  items : save.storesContainers = true →
    db.playerContainerItems.rows.filter (·.playerId == p) =
      cs.containers.entries.toList.flatMap (containerItemRows save.keepsContents p)

variable {p : ℕ} {e : PlayerEquipment} {cs : PlayerContainers} {db db' : EngineDatabase}

/-- The two writes one after the other. -/
theorem wrote_both {keeps : Bool} {save : InventorySave} (hkeeps : save.keepsContents = keeps)
    (hplayer : db.ensurePlayerExists p = .ok ())
    (h : (do
      let self ← db.writeEquipment p e
      self.writeContainers p keeps cs) = .ok db') : Wrote p e cs save db' := by
  obtain ⟨db₁, hequip, hwrite⟩ := Fallible.except_bind_eq_ok.mp h
  obtain ⟨hrows, _, rfl⟩ := writeEquipment_eq_ok hequip
  obtain ⟨hwindows, hitems, _, _, rfl⟩ := writeContainers_eq_ok hwrite
  subst hkeeps
  exact ⟨hplayer, fun _ => hrows, fun _ => hwindows, fun _ => hitems⟩

theorem Wrote.congr {save : InventorySave} (h : Wrote p e cs save db)
    (hplayer : db'.ensurePlayerExists p = .ok ()) (hequip : db'.playerEquipment = db.playerEquipment)
    (hwindows : db'.playerContainers = db.playerContainers)
    (hitems : db'.playerContainerItems = db.playerContainerItems) : Wrote p e cs save db' := by
  refine ⟨hplayer, ?_, ?_, ?_⟩
  · rw [hequip]; exact h.equipment
  · rw [hwindows]; exact h.windows
  · rw [hitems]; exact h.items

/-- **Every save writes what it stores.** -/
theorem wrote_of_perform {save : InventorySave} (h : save.perform p e cs db = .ok db') :
    Wrote p e cs save db' := by
  cases save with
  | equipment =>
    obtain ⟨_, hplayer, hwrite⟩ := Fallible.except_bind_eq_ok.mp h
    obtain ⟨hrows, _, rfl⟩ := writeEquipment_eq_ok hwrite
    refine ⟨hplayer, fun _ => hrows, ?_, ?_⟩
    · intro hs
      cases hs
    · intro hs
      cases hs
  | containers =>
    obtain ⟨_, hplayer, hwrite⟩ := Fallible.except_bind_eq_ok.mp h
    obtain ⟨hwindows, hitems, _, _, rfl⟩ := writeContainers_eq_ok hwrite
    refine ⟨hplayer, ?_, fun _ => hwindows, fun _ => hitems⟩
    intro hs
    cases hs
  | inventory =>
    obtain ⟨_, hplayer, hwrite⟩ := Fallible.except_bind_eq_ok.mp h
    exact wrote_both rfl hplayer hwrite
  | inventoryAndBankBalance balance =>
    obtain ⟨_, hplayer, hwrite⟩ := Fallible.except_bind_eq_ok.mp h
    by_cases hbalance : i64Max < balance
    · rw [if_pos hbalance] at hwrite
      cases hwrite
    · rw [if_neg hbalance] at hwrite
      obtain ⟨db₁, hboth, heq⟩ := Fallible.except_bind_eq_ok.mp hwrite
      obtain rfl := Except.ok.inj heq
      have hwrote : Wrote p e cs (inventoryAndBankBalance balance) db₁ :=
        wrote_both rfl hplayer hboth
      refine hwrote.congr ?_ rfl rfl rfl
      show (if (db₁.bankBalances.insert p balance)[p]?.isSome then Except.ok () else _) = _
      simp
  | inventoryAndMapItemRemovalJournal journal =>
    obtain ⟨_, hplayer, hwrite⟩ := Fallible.except_bind_eq_ok.mp h
    obtain ⟨_, -, hwrite⟩ := Fallible.except_bind_eq_ok.mp hwrite
    obtain ⟨db₁, hboth, heq⟩ := Fallible.except_bind_eq_ok.mp hwrite
    obtain rfl := Except.ok.inj heq
    have hwrote : Wrote p e cs (inventoryAndMapItemRemovalJournal journal) db₁ :=
      wrote_both rfl hplayer hboth
    exact hwrote.congr hwrote.player rfl rfl rfl
  | inventoryAndRuntimeMapItems mapRevision runtimeItems =>
    obtain ⟨_, hplayer, hwrite⟩ := Fallible.except_bind_eq_ok.mp h
    obtain ⟨_, -, hwrite⟩ := Fallible.except_bind_eq_ok.mp hwrite
    obtain ⟨db₁, hboth, heq⟩ := Fallible.except_bind_eq_ok.mp hwrite
    obtain rfl := Except.ok.inj heq
    have hwrote : Wrote p e cs (inventoryAndRuntimeMapItems mapRevision runtimeItems) db₁ :=
      wrote_both rfl hplayer hboth
    exact hwrote.congr hwrote.player rfl rfl rfl
  | inventoryAndMapItemState journal overrides =>
    obtain ⟨_, hplayer, hwrite⟩ := Fallible.except_bind_eq_ok.mp h
    obtain ⟨_, -, hwrite⟩ := Fallible.except_bind_eq_ok.mp hwrite
    obtain ⟨_, -, hwrite⟩ := Fallible.except_bind_eq_ok.mp hwrite
    obtain ⟨db₁, hboth, heq⟩ := Fallible.except_bind_eq_ok.mp hwrite
    obtain rfl := Except.ok.inj heq
    have hwrote : Wrote p e cs (inventoryAndMapItemState journal overrides) db₁ :=
      wrote_both rfl hplayer hboth
    exact hwrote.congr hwrote.player rfl rfl rfl

/-- **When a saved inventory comes back as it was**: the equipment when no equipped item has
contents, the containers when every window is storable by that save. -/
theorem reload_iff {save : InventorySave} (h : save.perform p e cs db = .ok db') :
    ((save.storesEquipment = true → db'.loadPlayerEquipment p = .ok e) ∧
      (save.storesContainers = true → db'.loadPlayerContainers p = .ok cs)) ↔
    ((save.storesEquipment = true →
        ∀ slot x, e.item slot = some x → x.FitsRow ∧ x.contents = []) ∧
      (save.storesContainers = true →
        ∀ id c, cs.container id = some c → c.Storable save.keepsContents)) := by
  have hwrote := wrote_of_perform h
  refine and_congr ?_ ?_
  · exact forall_congr' fun hs => loadPlayerEquipment_iff hwrote.player (hwrote.equipment hs)
  · exact forall_congr' fun hs =>
      loadPlayerContainers_iff hwrote.player (hwrote.windows hs) (hwrote.items hs)

/-! ### A coin in a bag -/

/-- A window with one bag, and a coin in the bag. -/
def coinInBag : PlayerContainer :=
  ⟨0, ⟨1987, 1, none, none, []⟩, "bag", false,
    ⟨8, [⟨1987, 1, none, none, [⟨2148, 1, none, none, []⟩]⟩]⟩⟩

def coinInBagWindows : PlayerContainers := PlayerContainers.empty.putBack coinInBag

/-- A database with one player and nothing saved. -/
def onePlayerDatabase : EngineDatabase :=
  ⟨(∅ : BTreeMap ℕ ℕ).insert 1 0, .empty, .empty, .empty, [], [], []⟩

theorem coinInBagWindows_container (id : ℕ) : coinInBagWindows.container id =
    if 0 = id then some coinInBag else none := by
  have hins : PlayerContainers.empty.insert coinInBag = .ok (none, coinInBagWindows) := rfl
  rw [PlayerContainers.container_insert hins]
  congr 1

/-- The coin is stored exactly by the saves that write the rows of contents. -/
theorem coinInBag_storable {keeps : Bool} : coinInBag.Storable keeps ↔ keeps = true := by
  constructor
  · intro h
    cases keeps with
    | true => rfl
    | false =>
      have hbag := (h.items _ List.mem_cons_self).kept rfl
      cases hbag
  · intro hkeeps
    subst hkeeps
    have hfits (serverId : ℕ) (contents : List ItemInstance) (hid : 0 < serverId ∧ serverId ≤ u16Max) :
        (⟨serverId, 1, none, none, contents⟩ : ItemInstance).FitsRow := by
      refine ⟨hid, by simp [maxItemStackCount], ?_, ?_⟩
      · intro n hn
        cases hn
      · intro n hn
        cases hn
    refine ⟨by decide, hfits _ _ (by decide), ⟨rfl, rfl, rfl⟩, by decide, by decide, by decide, ?_⟩
    intro x hx
    rw [List.mem_singleton.mp hx]
    refine ⟨hfits _ _ (by decide), by decide, ?_, ?_⟩
    · intro y hy
      rw [List.mem_singleton.mp hy]
      exact ⟨hfits _ _ (by decide), rfl⟩
    · intro hk
      cases hk

theorem exists_perform_of_isOk {save : InventorySave}
    (h : (save.perform p e cs db).isOk = true) : ∃ db', save.perform p e cs db = .ok db' := by
  cases hrun : save.perform p e cs db with
  | error err => rw [hrun] at h; cases h
  | ok db' => exact ⟨db', rfl⟩

theorem reload_coinInBag : ∃ db', inventory.perform 1 .empty coinInBagWindows onePlayerDatabase =
    .ok db' ∧ db'.loadPlayerContainers 1 = .ok coinInBagWindows := by
  have hok : (inventory.perform 1 .empty coinInBagWindows onePlayerDatabase).isOk = true := by
    decide +kernel
  obtain ⟨db', h⟩ := exists_perform_of_isOk hok
  refine ⟨db', h, ((reload_iff h).mpr ⟨?_, ?_⟩).2 rfl⟩
  · intro _ slot x hx
    have hnone : PlayerEquipment.empty.item slot = none := by
      simp [PlayerEquipment.empty, PlayerEquipment.item]
    rw [hnone] at hx
    cases hx
  · intro _ id c hc
    rw [coinInBagWindows_container] at hc
    split at hc
    · cases hc
      exact coinInBag_storable.mpr rfl
    · cases hc

/-- **The coin is lost**: saved together with the bank balance, the bag comes back empty. -/
theorem bankBalance_loses_coin : ¬∀ (save : InventorySave) (p : ℕ) (e : PlayerEquipment)
    (cs : PlayerContainers) (db db' : EngineDatabase), save.perform p e cs db = .ok db' →
      (save.storesEquipment = true → db'.loadPlayerEquipment p = .ok e) ∧
        (save.storesContainers = true → db'.loadPlayerContainers p = .ok cs) := by
  intro hall
  have hok : ((inventoryAndBankBalance 100).perform 1 .empty coinInBagWindows
      onePlayerDatabase).isOk = true := by decide +kernel
  obtain ⟨db', h⟩ := exists_perform_of_isOk hok
  have hwrote := wrote_of_perform h
  have hload := (hall _ _ _ _ _ _ h).2 rfl
  have hstored := (loadPlayerContainers_iff hwrote.player (hwrote.windows rfl)
    (hwrote.items rfl)).mp hload 0 coinInBag (coinInBagWindows_container 0)
  exact absurd (coinInBag_storable.mp hstored) (by decide)

end InventorySave

end ForgottenEngine
