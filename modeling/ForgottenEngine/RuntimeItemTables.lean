import ForgottenEngine.InventorySaves
import ForgottenEngine.Library.Indices
import ForgottenEngine.Library.Radix
import ForgottenEngine.Library.Relations
import ForgottenEngine.Library.SortByKey

/-!
# The tables of runtime items

A runtime item is stored as one row of `runtime_map_items`, and each of its children as a row of
`runtime_map_item_children`.  A save replaces both tables in one transaction; a load reads the
items, then hands every child to its item.

* `exists_stored` — the statements of a checked batch go through, whatever was stored before;
* `readItems_stored`, `readChildren_stored` — the two loops of a load;
* `runtimeItems_roundTrip` — **a saved batch is loaded back**, ordered by position and ordinal, and
  a rejected one leaves the tables as they were;
* `load_eq_loadRuntimeMapItems` — the two tables hold what `EngineDatabase` keeps in one.
-/

namespace ForgottenEngine

open Fallible EngineDatabase PersistenceError

/-! ### Rows -/

/-- The columns of the primary key, which are also the columns of the order. -/
abbrev ItemKey := ℤ ×ₗ ℤ ×ₗ ℤ ×ₗ ℤ

def itemKey (x y z ordinal : ℤ) : ItemKey := toLex (x, toLex (y, toLex (z, ordinal)))

structure RuntimeItemRow where
  mapRevision : String
  x : ℤ
  y : ℤ
  z : ℤ
  ordinal : ℤ
  serverId : ℤ
  count : ℤ
  despawnTick : Option ℤ
deriving DecidableEq

structure RuntimeItemChildRow where
  x : ℤ
  y : ℤ
  z : ℤ
  ordinal : ℤ
  childIndex : ℤ
  serverId : ℤ
  count : ℤ
deriving DecidableEq

def RuntimeItemRow.key (row : RuntimeItemRow) : ItemKey := itemKey row.x row.y row.z row.ordinal

def RuntimeItemChildRow.key (row : RuntimeItemChildRow) : ItemKey ×ₗ ℤ :=
  toLex (itemKey row.x row.y row.z row.ordinal, row.childIndex)

structure RuntimeItemTables where
  runtimeMapItems : Table RuntimeItemRow ItemKey fun row => some row.key
  runtimeMapItemChildren : Table RuntimeItemChildRow (ItemKey ×ₗ ℤ) fun row => some row.key

/-- `format!("{:016x}", …)`; the columns of an item.  A tick that does not fit is clamped. -/
def RuntimeMapItemRecord.row (mapRevision : ℕ) (item : RuntimeMapItemRecord) : RuntimeItemRow where
  mapRevision := String.ofList (Radix.print 16 16 mapRevision)
  x := item.position.x
  y := item.position.y
  z := item.position.z
  ordinal := item.ordinal
  serverId := item.serverId
  count := item.count
  despawnTick := item.despawnTick.map fun tick => (min tick i64Max : ℕ)

def RuntimeMapItemRecord.childRow (item : RuntimeMapItemRecord)
    (child : RuntimeMapItemChildRecord × ℕ) : RuntimeItemChildRow where
  x := item.position.x
  y := item.position.y
  z := item.position.z
  ordinal := item.ordinal
  childIndex := child.2
  serverId := child.1.serverId
  count := child.1.count

def RuntimeMapItemRecord.childRows (item : RuntimeMapItemRecord) : List RuntimeItemChildRow :=
  item.children.zipIdx.map item.childRow

namespace RuntimeItemTables

/-! ### Saving -/

def insertItem (row : RuntimeItemRow) (tables : RuntimeItemTables) : Option RuntimeItemTables :=
  (tables.runtimeMapItems.insert row).map fun items => { tables with runtimeMapItems := items }

def insertChild (row : RuntimeItemChildRow) (tables : RuntimeItemTables) :
    Option RuntimeItemTables :=
  (tables.runtimeMapItemChildren.insert row).map fun children =>
    { tables with runtimeMapItemChildren := children }

def deleteChildren (tables : RuntimeItemTables) : Option RuntimeItemTables :=
  some { tables with runtimeMapItemChildren := tables.runtimeMapItemChildren.delete fun _ => true }

def deleteItems (tables : RuntimeItemTables) : Option RuntimeItemTables :=
  some { tables with runtimeMapItems := tables.runtimeMapItems.delete fun _ => true }

/-- The statements for a registry: every item, and its children after it. -/
def insertRuntimeMapItems (mapRevision : ℕ) (items : List RuntimeMapItemRecord) :
    List (RuntimeItemTables → Option RuntimeItemTables) :=
  items.flatMap fun item => insertItem (item.row mapRevision) :: item.childRows.map insertChild

def replaceRuntimeMapItems (sqlite : SqliteOutcome) (mapRevision : ℕ)
    (items : List RuntimeMapItemRecord) : Fallible PersistenceError RuntimeItemTables Unit := do
  ofExcept (validateRuntimeMapItemRecords items)
  committed sqlite sql (statements sqlite.executes sql 0
    (deleteChildren :: deleteItems :: insertRuntimeMapItems mapRevision items))

/-! ### Loading -/

/-- A column that has to fit. -/
def column (convert : ℤ → Option ℕ) (value : ℤ) (message : String) : Except PersistenceError ℕ :=
  orFail (invalidMapItemJournal message) (convert value)

def readPlace (label : String) (x y z ordinal : ℤ) : Except PersistenceError (Position × ℕ) := do
  let x ← column u16Of x s!"{label} x does not fit u16"
  let y ← column u16Of y s!"{label} y does not fit u16"
  let z ← column u8Of z s!"{label} z does not fit u8"
  let ordinal ← column u8Of ordinal s!"{label} ordinal does not fit u8"
  return (⟨x, y, z⟩, ordinal)

def readStack (label : String) (serverId count : ℤ) : Except PersistenceError (ℕ × ℕ) := do
  let serverId ← column u16Of serverId s!"{label} server id does not fit u16"
  if serverId = 0 then .error (invalidMapItemJournal s!"{label} server id must be nonzero")
  else
    let count ← column u8Of count s!"{label} count does not fit u8"
    if count = 0 then .error (invalidMapItemJournal s!"{label} count must be positive")
    else return (serverId, count)

def readDespawnTick : Option ℤ → Except PersistenceError (Option ℕ)
  | none => return none
  | some tick => do
    let tick ← column (natOf u64Max) tick "runtime item despawn tick must be nonnegative"
    return some tick

/-- The one revision of all rows so far. -/
def nextRevision (known : Option ℕ) (text : String) : Except PersistenceError ℕ :=
  match Radix.parse 16 u64Max text.toList with
  | none => .error (invalidMapItemJournal "runtime map item revision must be hexadecimal u64")
  | some parsed =>
    if known.elim false (· ≠ parsed) then
      .error (invalidMapItemJournal "runtime map items contain multiple map revisions")
    else return parsed

/-- What the loop over the item rows has read. -/
structure ItemScan where
  mapRevision : Option ℕ
  items : List RuntimeMapItemRecord

def readItem (scan : ItemScan) (row : RuntimeItemRow) : Except PersistenceError ItemScan := do
  let revision ← nextRevision scan.mapRevision row.mapRevision
  let (position, ordinal) ← readPlace "runtime map item" row.x row.y row.z row.ordinal
  let (serverId, count) ← readStack "runtime map item" row.serverId row.count
  let despawnTick ← readDespawnTick row.despawnTick
  return ⟨some revision, scan.items ++ [⟨position, ordinal, serverId, count, [], despawnTick⟩]⟩

/-- The first item at a position and ordinal gets one more child. -/
def attachChild (place : Position × ℕ) (child : RuntimeMapItemChildRecord) :
    List RuntimeMapItemRecord → Except PersistenceError (List RuntimeMapItemRecord)
  | [] =>
    .error (invalidMapItemJournal "runtime map child references a missing runtime item")
  | item :: items =>
    if item.position = place.1 ∧ item.ordinal = place.2 then
      if maxRuntimeMapItemChildren ≤ item.children.length then
        .error (invalidMapItemJournal "runtime map item children exceed the supported bound")
      else return { item with children := item.children ++ [child] } :: items
    else do
      let items ← attachChild place child items
      return item :: items

/-- What the loop over the child rows has read, and the index it expects next. -/
structure ChildScan where
  items : List RuntimeMapItemRecord
  expectedKey : Option (Position × ℕ)
  expectedChildIndex : ℕ

def readChild (scan : ChildScan) (row : RuntimeItemChildRow) :
    Except PersistenceError ChildScan := do
  let place ← readPlace "runtime map child" row.x row.y row.z row.ordinal
  let expected := if scan.expectedKey = some place then scan.expectedChildIndex else 0
  let index ← column u8Of row.childIndex "runtime map child index does not fit u8"
  if index ≠ expected then
    .error (invalidMapItemJournal
      "runtime map children must form one contiguous ordered list per item")
  else
    let (serverId, count) ← readStack "runtime map child" row.serverId row.count
    let items ← attachChild place ⟨serverId, count⟩ scan.items
    return ⟨items, some place, expected + 1⟩

def loadRuntimeMapItems (tables : RuntimeItemTables) :
    Except PersistenceError (Option (ℕ × List RuntimeMapItemRecord)) := do
  let scan ← (sortByKey RuntimeItemRow.key tables.runtimeMapItems.rows).foldlM readItem ⟨none, []⟩
  if maxRuntimeMapItems < scan.items.length then
    .error (invalidMapItemJournal "runtime map-item registry exceeds the supported bound")
  else
    let children ← (sortByKey RuntimeItemChildRow.key tables.runtimeMapItemChildren.rows).foldlM
      readChild ⟨scan.items, none, 0⟩
    return scan.mapRevision.map fun revision => (revision, children.items)

end RuntimeItemTables

/-! ### Batches -/

namespace RuntimeMapItemRecord

/-- The place of an item in the order of the tables. -/
def rank (item : RuntimeMapItemRecord) : ItemKey :=
  itemKey item.position.x item.position.y item.position.z item.ordinal

/-- Position and ordinal, by which children find their item. -/
def place (item : RuntimeMapItemRecord) : Position × ℕ := (item.position, item.ordinal)

/-- The item before its children are read. -/
def bare (item : RuntimeMapItemRecord) : RuntimeMapItemRecord := { item with children := [] }

/-- The widths of the fields. -/
structure Typed (item : RuntimeMapItemRecord) : Prop where
  x : item.position.x ≤ u16Max
  y : item.position.y ≤ u16Max
  z : item.position.z ≤ u8Max
  ordinal : item.ordinal ≤ u8Max
  serverId : item.serverId ≤ u16Max
  count : item.count ≤ u8Max
  child : ∀ child ∈ item.children, child.serverId ≤ u16Max ∧ child.count ≤ u8Max

/-- What the validation asks of one item. -/
structure Checked (item : RuntimeMapItemRecord) : Prop where
  serverId : item.serverId ≠ 0
  count : item.count ≠ 0
  despawnTick : item.despawnTick.getD 0 ≤ i64Max
  room : item.children.length ≤ maxRuntimeMapItemChildren
  child : ∀ child ∈ item.children, child.serverId ≠ 0 ∧ child.count ≠ 0

theorem rank_eq_iff {a b : RuntimeMapItemRecord} : a.rank = b.rank ↔ a.place = b.place := by
  obtain ⟨⟨x, y, z⟩, ordinal, _, _, _, _⟩ := a
  obtain ⟨⟨x', y', z'⟩, ordinal', _, _, _, _⟩ := b
  simp [rank, place, itemKey, and_assoc]

@[simp] theorem place_bare (item : RuntimeMapItemRecord) : item.bare.place = item.place := rfl

theorem key_childRow (item : RuntimeMapItemRecord) (child : RuntimeMapItemChildRecord × ℕ) :
    (item.childRow child).key = toLex (item.rank, (child.2 : ℤ)) := rfl

end RuntimeMapItemRecord

open RuntimeMapItemRecord

/-- What a validated batch satisfies. -/
theorem checked_of_validated {items : List RuntimeMapItemRecord}
    (h : validateRuntimeMapItemRecords items = .ok ()) :
    items.length ≤ maxRuntimeMapItems ∧ (∀ item ∈ items, item.Checked) ∧
      (items.map place).Nodup := by
  unfold validateRuntimeMapItemRecords at h
  by_cases hlength : maxRuntimeMapItems < items.length
  · rw [if_pos hlength] at h
    cases h
  · rw [if_neg hlength, forM_eq_ok] at h
    have hentry (e) (he : e ∈ items.zipIdx) :
        e.1.Checked ∧ e.1.place ∉ (items.take e.2).map place := by
      have hchecks := h e he
      dsimp only at hchecks
      split_ifs at hchecks with hserver hcount htick hseen hroom hchild
      refine ⟨⟨hserver, by omega, not_lt.mp htick, not_lt.mp hroom, ?_⟩, hseen⟩
      intro child hmem
      by_contra hzero
      exact hchild ⟨child, hmem, by tauto⟩
    refine ⟨not_lt.mp hlength, ?_, Indices.nodup_of_fresh fun e he => (hentry e he).2⟩
    intro item hitem
    obtain ⟨i, hi, rfl⟩ := List.getElem_of_mem hitem
    refine (hentry (items[i], i) ?_).1
    rw [List.mem_zipIdx_iff_getElem?]
    exact List.getElem?_eq_getElem hi

/-! ### What a save leaves -/

namespace RuntimeItemTables

theorem fold_insertChild (rows : List RuntimeItemChildRow) (tables : RuntimeItemTables) :
    (rows.map insertChild).foldlM (fun tables run => run tables) tables =
      (tables.runtimeMapItemChildren.insertAll rows).map fun children =>
        { tables with runtimeMapItemChildren := children } := by
  induction rows generalizing tables with
  | nil => rfl
  | cons row rows ih =>
    rw [List.map_cons, List.foldlM_cons, Table.insertAll, List.foldlM_cons, insertChild]
    cases tables.runtimeMapItemChildren.insert row with
    | none => rfl
    | some children => exact ih _

/-- The items go to one table, the children to the other. -/
theorem fold_insertRuntimeMapItems (mapRevision : ℕ) (items : List RuntimeMapItemRecord)
    (tables : RuntimeItemTables) :
    (insertRuntimeMapItems mapRevision items).foldlM (fun tables run => run tables) tables =
      (tables.runtimeMapItems.insertAll (items.map (row mapRevision))).bind fun stored =>
        (tables.runtimeMapItemChildren.insertAll (items.flatMap childRows)).map fun children =>
          ⟨stored, children⟩ := by
  induction items generalizing tables with
  | nil => rfl
  | cons item items ih =>
    have hsplit : insertRuntimeMapItems mapRevision (item :: items) =
        insertItem (item.row mapRevision) ::
          (item.childRows.map insertChild ++ insertRuntimeMapItems mapRevision items) := rfl
    have hitems (t : Table RuntimeItemRow ItemKey fun row => some row.key) :
        t.insertAll ((item :: items).map (row mapRevision)) =
          (t.insert (item.row mapRevision)).bind fun t =>
            t.insertAll (items.map (row mapRevision)) := rfl
    have hchildren (t : Table RuntimeItemChildRow (ItemKey ×ₗ ℤ) fun row => some row.key) :
        t.insertAll ((item :: items).flatMap childRows) =
          (t.insertAll item.childRows).bind fun t => t.insertAll (items.flatMap childRows) :=
      List.foldlM_append
    rw [hsplit, List.foldlM_cons, hitems, hchildren, insertItem]
    cases tables.runtimeMapItems.insert (item.row mapRevision) with
    | none => rfl
    | some stored =>
      simp only [Option.map_some, Option.bind_eq_bind, Option.bind_some, List.foldlM_append,
        fold_insertChild]
      cases tables.runtimeMapItemChildren.insertAll item.childRows with
      | none => cases stored.insertAll (items.map (row mapRevision)) <;> rfl
      | some children => exact ih ⟨stored, children⟩

/-- Items in their order have their children in the order of the child table. -/
theorem pairwise_childRows {items : List RuntimeMapItemRecord}
    (h : items.Pairwise fun a b => a.rank < b.rank) :
    (items.flatMap childRows).Pairwise fun a b => a.key < b.key := by
  rw [List.pairwise_flatMap]
  refine ⟨fun item _ => ?_, h.imp ?_⟩
  · have hindices : item.children.zipIdx.Pairwise fun a b => a.2 < b.2 := by
      rw [← List.pairwise_map (f := Prod.snd) (R := (· < ·)), List.zipIdx_map_snd]
      exact List.pairwise_lt_range'
    refine List.pairwise_map.mpr (hindices.imp fun hlt => ?_)
    rw [key_childRow, key_childRow, Prod.Lex.toLex_lt_toLex]
    exact .inr ⟨rfl, Int.ofNat_lt.mpr hlt⟩
  · intro a b hlt row hrow row' hrow'
    obtain ⟨child, -, rfl⟩ := List.mem_map.mp hrow
    obtain ⟨child', -, rfl⟩ := List.mem_map.mp hrow'
    rw [key_childRow, key_childRow, Prod.Lex.toLex_lt_toLex]
    exact .inl hlt

/-- The rows of a batch, read in the order of their keys. -/
theorem sorted_rows (mapRevision : ℕ) {items : List RuntimeMapItemRecord}
    (hplaces : (items.map place).Nodup) :
    (sortByKey rank items).Pairwise (fun a b => a.rank < b.rank) ∧
      sortByKey RuntimeItemRow.key (items.map (row mapRevision)) =
        (sortByKey rank items).map (row mapRevision) ∧
      (items.flatMap childRows).Perm ((sortByKey rank items).flatMap childRows) := by
  have hranks : (items.map rank).Nodup := by
    rw [List.Nodup, List.pairwise_map] at hplaces ⊢
    exact hplaces.imp fun hne heq => hne (rank_eq_iff.mp heq)
  refine ⟨pairwise_lt_sortByKey rank hranks, sortByKey_map _ _ _, ?_⟩
  exact (perm_sortByKey rank items).symm.flatMap_right _

theorem fold_replace (mapRevision : ℕ) (items : List RuntimeMapItemRecord)
    (tables : RuntimeItemTables) :
    (deleteChildren :: deleteItems :: insertRuntimeMapItems mapRevision items).foldlM
        (fun tables run => run tables) tables =
      ((tables.runtimeMapItems.delete fun _ => true).insertAll
        (items.map (row mapRevision))).bind fun stored =>
          ((tables.runtimeMapItemChildren.delete fun _ => true).insertAll
            (items.flatMap childRows)).map fun children => ⟨stored, children⟩ :=
  fold_insertRuntimeMapItems mapRevision items ⟨_, _⟩

/-- **The statements of a batch** go through on any tables, when no two items have one place. -/
theorem exists_stored (mapRevision : ℕ) {items : List RuntimeMapItemRecord}
    (hplaces : (items.map place).Nodup) (tables : RuntimeItemTables) :
    ∃ tables' : RuntimeItemTables,
      (deleteChildren :: deleteItems :: insertRuntimeMapItems mapRevision items).foldlM
        (fun tables run => run tables) tables = some tables' := by
  obtain ⟨hsorted, -, hperm⟩ := sorted_rows mapRevision hplaces
  have hitems : ((items.map (row mapRevision)).map RuntimeItemRow.key).Nodup := by
    rw [List.map_map, List.Nodup, List.pairwise_map]
    rw [List.Nodup, List.pairwise_map] at hplaces
    exact hplaces.imp fun hne heq => hne (rank_eq_iff.mp heq)
  have hchildren : ((items.flatMap childRows).map RuntimeItemChildRow.key).Nodup := by
    rw [(hperm.map _).nodup_iff]
    exact List.pairwise_map.mpr ((pairwise_childRows hsorted).imp ne_of_lt)
  rw [← List.filterMap_eq_map'] at hitems hchildren
  obtain ⟨stored, hstored⟩ := tables.runtimeMapItems.exists_insertAll_delete_all hitems
  obtain ⟨children, hput⟩ := tables.runtimeMapItemChildren.exists_insertAll_delete_all hchildren
  exact ⟨⟨stored, children⟩, by rw [fold_replace, hstored, Option.bind_some, hput]; rfl⟩

/-- What the statements of a batch leave. -/
theorem rows_of_stored {mapRevision : ℕ} {items : List RuntimeMapItemRecord}
    {tables tables' : RuntimeItemTables}
    (h : (deleteChildren :: deleteItems :: insertRuntimeMapItems mapRevision items).foldlM
      (fun tables run => run tables) tables = some tables') :
    tables'.runtimeMapItems.rows = items.map (row mapRevision) ∧
      tables'.runtimeMapItemChildren.rows = items.flatMap childRows := by
  simp only [fold_replace, Option.bind_eq_some_iff, Option.map_eq_some_iff] at h
  obtain ⟨stored, hitems, children, hchildren, rfl⟩ := h
  rw [Table.rows_insertAll hitems, Table.rows_insertAll hchildren, Table.rows_delete_all,
    Table.rows_delete_all]
  exact ⟨rfl, rfl⟩

/-! ### What a load reads -/

theorem column_natCast {bound n : ℕ} (h : n ≤ bound) (message : String) :
    column (natOf bound) (n : ℤ) message = .ok n := by
  rw [column, natOf_natCast.mpr ⟨h, rfl⟩]
  rfl

section Load

variable {item : RuntimeMapItemRecord} {mapRevision : ℕ}

theorem readPlace_place (label : String) (h : item.Typed) :
    readPlace label item.position.x item.position.y item.position.z item.ordinal =
      .ok item.place := by
  unfold readPlace
  simp only [u16Of, u8Of, column_natCast h.x, column_natCast h.y, column_natCast h.z,
    column_natCast h.ordinal]
  rfl

theorem readStack_natCast (label : String) {serverId count : ℕ} (hserver : serverId ≤ u16Max)
    (hcount : count ≤ u8Max) (hserver₀ : serverId ≠ 0) (hcount₀ : count ≠ 0) :
    readStack label serverId count = .ok (serverId, count) := by
  unfold readStack
  simp only [u16Of, u8Of, column_natCast hserver, column_natCast hcount]
  show (if serverId = 0 then _ else _) = _
  rw [if_neg hserver₀]
  show (if count = 0 then _ else _) = _
  rw [if_neg hcount₀]
  rfl

theorem readDespawnTick_row (h : item.despawnTick.getD 0 ≤ i64Max) :
    readDespawnTick (item.row mapRevision).despawnTick = .ok item.despawnTick := by
  cases htick : item.despawnTick with
  | none => simp only [row, htick]; rfl
  | some tick =>
    rw [htick] at h
    have hwide : tick ≤ u64Max := le_trans h (by decide)
    have hmin : min tick i64Max = tick := Nat.min_eq_left h
    simp only [row, htick, Option.map_some, hmin, readDespawnTick, column_natCast hwide]
    rfl

theorem nextRevision_row (h : mapRevision ≤ u64Max) {known : Option ℕ}
    (hknown : ∀ other ∈ known, other = mapRevision) :
    nextRevision known (item.row mapRevision).mapRevision = .ok mapRevision := by
  have htext : (item.row mapRevision).mapRevision.toList = Radix.print 16 16 mapRevision :=
    String.toList_ofList
  unfold nextRevision
  rw [htext, Radix.parse_print (by decide) (by decide) 16 h]
  cases known with
  | none => rfl
  | some other =>
    rw [hknown other rfl]
    simp [Pure.pure, Except.pure]

/-- One item row. -/
theorem readItem_row (hrevision : mapRevision ≤ u64Max) (htyped : item.Typed)
    (hchecked : item.Checked) {scan : ItemScan}
    (hknown : ∀ other ∈ scan.mapRevision, other = mapRevision) :
    readItem scan (item.row mapRevision) =
      .ok ⟨some mapRevision, scan.items ++ [item.bare]⟩ := by
  have hplace : readPlace "runtime map item" (item.row mapRevision).x (item.row mapRevision).y
      (item.row mapRevision).z (item.row mapRevision).ordinal = .ok item.place :=
    readPlace_place _ htyped
  have hstack : readStack "runtime map item" (item.row mapRevision).serverId
      (item.row mapRevision).count = .ok (item.serverId, item.count) :=
    readStack_natCast _ htyped.serverId htyped.count hchecked.serverId hchecked.count
  unfold readItem
  rw [nextRevision_row hrevision hknown, hplace, hstack, readDespawnTick_row hchecked.despawnTick]
  rfl

/-- The loop over the item rows. -/
theorem readItems_stored (hrevision : mapRevision ≤ u64Max) {items : List RuntimeMapItemRecord}
    (htyped : ∀ item ∈ items, item.Typed) (hchecked : ∀ item ∈ items, item.Checked)
    {scan : ItemScan} (hknown : ∀ other ∈ scan.mapRevision, other = mapRevision) :
    (items.map (row mapRevision)).foldlM readItem scan =
      .ok ⟨if items = [] then scan.mapRevision else some mapRevision,
        scan.items ++ items.map bare⟩ := by
  induction items generalizing scan with
  | nil => simp [Pure.pure, Except.pure]
  | cons item items ih =>
    have hfirst := readItem_row hrevision (htyped item List.mem_cons_self)
      (hchecked item List.mem_cons_self) hknown
    rw [List.map_cons, List.foldlM_cons, hfirst]
    show (items.map (row mapRevision)).foldlM readItem _ = _
    rw [ih (fun item h => htyped item (List.mem_cons_of_mem _ h))
      (fun item h => hchecked item (List.mem_cons_of_mem _ h)) (by simp)]
    simp

/-- A child goes to the item of its place, behind items of other places. -/
theorem attachChild_append {before after : List RuntimeMapItemRecord}
    (hbefore : ∀ other ∈ before, other.place ≠ item.place)
    (hroom : item.children.length < maxRuntimeMapItemChildren) (child : RuntimeMapItemChildRecord) :
    attachChild item.place child (before ++ item :: after) =
      .ok (before ++ { item with children := item.children ++ [child] } :: after) := by
  induction before with
  | nil =>
    rw [List.nil_append, attachChild, if_pos ⟨rfl, rfl⟩, if_neg (not_le.mpr hroom)]
    rfl
  | cons other before ih =>
    have hother : ¬(other.position = item.place.1 ∧ other.ordinal = item.place.2) :=
      fun h => hbefore other List.mem_cons_self (Prod.ext h.1 h.2)
    rw [List.cons_append, attachChild, if_neg hother,
      ih fun other h => hbefore other (List.mem_cons_of_mem _ h)]
    rfl

/-- The item with its first children only. -/
def holding (item : RuntimeMapItemRecord) (children : List RuntimeMapItemChildRecord) :
    RuntimeMapItemRecord := { item with children }

/-- One child row, with the index the scan expects. -/
theorem readChild_childRow (htyped : item.Typed)
    {before after : List RuntimeMapItemRecord} {taken : List RuntimeMapItemChildRecord}
    {child : RuntimeMapItemChildRecord} (hwidth : child.serverId ≤ u16Max ∧ child.count ≤ u8Max)
    (hsound : child.serverId ≠ 0 ∧ child.count ≠ 0)
    (hbefore : ∀ other ∈ before, other.place ≠ item.place)
    (hroom : taken.length < maxRuntimeMapItemChildren) {scan : ChildScan}
    (hitems : scan.items = before ++ holding item taken :: after)
    (hexpected : (if scan.expectedKey = some item.place then scan.expectedChildIndex else 0) =
      taken.length) :
    readChild scan (item.childRow (child, taken.length)) =
      .ok ⟨before ++ holding item (taken ++ [child]) :: after, some item.place,
        taken.length + 1⟩ := by
  have hplace : readPlace "runtime map child" (item.childRow (child, taken.length)).x
      (item.childRow (child, taken.length)).y (item.childRow (child, taken.length)).z
      (item.childRow (child, taken.length)).ordinal = .ok item.place :=
    readPlace_place _ htyped
  have hindex (message : String) : column u8Of (item.childRow (child, taken.length)).childIndex
      message = .ok taken.length :=
    column_natCast (le_trans hroom.le (by decide)) message
  have hstack : readStack "runtime map child" (item.childRow (child, taken.length)).serverId
      (item.childRow (child, taken.length)).count = .ok (child.serverId, child.count) :=
    readStack_natCast _ hwidth.1 hwidth.2 hsound.1 hsound.2
  have hattach : attachChild item.place child scan.items =
      .ok (before ++ holding item (taken ++ [child]) :: after) := by
    have hbefore' : ∀ other ∈ before, other.place ≠ (holding item taken).place := hbefore
    rw [hitems]
    exact attachChild_append hbefore' hroom child
  unfold readChild
  rw [hplace]
  show (column u8Of (item.childRow (child, taken.length)).childIndex _ >>= _) = _
  rw [hindex]
  show (if taken.length ≠ (if scan.expectedKey = some item.place then _ else _) then _ else _) = _
  rw [hexpected, if_neg (not_not_intro rfl), hstack]
  show (attachChild item.place child scan.items >>= _) = _
  rw [hattach]
  rfl

/-- The child rows of one item, from the index the item has children up to. -/
theorem readChildren_item (htyped : item.Typed) {before after : List RuntimeMapItemRecord}
    (hbefore : ∀ other ∈ before, other.place ≠ item.place)
    {taken children : List RuntimeMapItemChildRecord}
    (hwidth : ∀ child ∈ children, child.serverId ≤ u16Max ∧ child.count ≤ u8Max)
    (hsound : ∀ child ∈ children, child.serverId ≠ 0 ∧ child.count ≠ 0)
    (hroom : taken.length + children.length ≤ maxRuntimeMapItemChildren) {scan : ChildScan}
    (hitems : scan.items = before ++ holding item taken :: after)
    (hexpected : (if scan.expectedKey = some item.place then scan.expectedChildIndex else 0) =
      taken.length) :
    ∃ scan', ((children.zipIdx taken.length).map item.childRow).foldlM readChild scan = .ok scan' ∧
      scan'.items = before ++ holding item (taken ++ children) :: after ∧
      (scan'.expectedKey = scan.expectedKey ∨ scan'.expectedKey = some item.place) := by
  induction children generalizing taken scan with
  | nil => exact ⟨scan, rfl, by rw [hitems, List.append_nil], .inl rfl⟩
  | cons child children ih =>
    rw [List.length_cons] at hroom
    have hfirst := readChild_childRow htyped (hwidth child List.mem_cons_self)
      (hsound child List.mem_cons_self) hbefore (by omega) hitems hexpected
    have hlength : (taken ++ [child]).length = taken.length + 1 := by simp
    have hroom' : (taken ++ [child]).length + children.length ≤ maxRuntimeMapItemChildren := by
      omega
    have hitems' : (⟨before ++ holding item (taken ++ [child]) :: after, some item.place,
        taken.length + 1⟩ : ChildScan).items =
        before ++ holding item (taken ++ [child]) :: after := rfl
    obtain ⟨scan', hrest, hread, hkey⟩ := ih
      (fun c hc => hwidth c (List.mem_cons_of_mem _ hc))
      (fun c hc => hsound c (List.mem_cons_of_mem _ hc)) hroom' hitems'
      (by rw [if_pos rfl, hlength])
    refine ⟨scan', ?_, ?_, .inr (hkey.elim id id)⟩
    · rw [List.zipIdx_cons, List.map_cons, List.foldlM_cons, hfirst]
      rw [hlength] at hrest
      exact hrest
    · rw [hread, List.append_assoc, List.singleton_append]

/-- **The loop over the child rows**: behind items that have their children, the next ones get
theirs. -/
theorem readChildren_stored {before items : List RuntimeMapItemRecord}
    (htyped : ∀ item ∈ items, item.Typed) (hchecked : ∀ item ∈ items, item.Checked)
    (hplaces : ((before ++ items).map place).Nodup) {scan : ChildScan}
    (hitems : scan.items = before ++ items.map bare)
    (hkey : ∀ item ∈ items, scan.expectedKey ≠ some item.place) :
    ∃ scan', (items.flatMap childRows).foldlM readChild scan = .ok scan' ∧
      scan'.items = before ++ items := by
  induction items generalizing before scan with
  | nil => exact ⟨scan, rfl, hitems⟩
  | cons item items ih =>
    have hitem : item.Checked := hchecked item List.mem_cons_self
    rw [List.map_append, List.map_cons] at hplaces
    have hbefore : ∀ other ∈ before, other.place ≠ item.place := by
      intro other hother heq
      exact (List.nodup_append.mp hplaces).2.2 _ (List.mem_map_of_mem hother) _
        List.mem_cons_self heq
    have hroom : ([] : List RuntimeMapItemChildRecord).length + item.children.length ≤
        maxRuntimeMapItemChildren := by simpa using hitem.room
    have hfresh : (if scan.expectedKey = some item.place then scan.expectedChildIndex else 0) = 0 :=
      if_neg (hkey item List.mem_cons_self)
    obtain ⟨scan₁, hfirst, hread, hkey₁⟩ := readChildren_item (htyped item List.mem_cons_self)
      hbefore (htyped item List.mem_cons_self).child hitem.child hroom hitems hfresh
    have hlater : ∀ other ∈ items, item.place ≠ other.place := by
      intro other hother heq
      exact (List.nodup_cons.mp (List.nodup_append.mp hplaces).2.1).1
        (heq ▸ List.mem_map_of_mem hother)
    have hplaces' : (((before ++ [item]) ++ items).map place).Nodup := by simpa using hplaces
    have hitems' : scan₁.items = (before ++ [item]) ++ items.map bare := by
      simpa [holding] using hread
    have hkey' : ∀ other ∈ items, scan₁.expectedKey ≠ some other.place := by
      intro other hother heq
      rcases hkey₁ with hsame | hown
      · exact hkey other (List.mem_cons_of_mem _ hother) (hsame ▸ heq)
      · exact hlater other hother (Option.some.inj (hown ▸ heq))
    obtain ⟨scan', hrest, hdone⟩ := ih
      (fun other h => htyped other (List.mem_cons_of_mem _ h))
      (fun other h => hchecked other (List.mem_cons_of_mem _ h)) hplaces' hitems' hkey'
    refine ⟨scan', ?_, by simpa using hdone⟩
    have hown : item.childRows.foldlM readChild scan = .ok scan₁ := hfirst
    rw [List.flatMap_cons, List.foldlM_append, hown]
    exact hrest

end Load

/-- A stored batch is read in its order. -/
theorem load_stored {mapRevision : ℕ} (hrevision : mapRevision ≤ u64Max)
    {items : List RuntimeMapItemRecord} (htyped : ∀ item ∈ items, item.Typed)
    (hvalid : validateRuntimeMapItemRecords items = .ok ()) {tables : RuntimeItemTables}
    (hitems : tables.runtimeMapItems.rows = items.map (row mapRevision))
    (hchildren : tables.runtimeMapItemChildren.rows = items.flatMap childRows) :
    loadRuntimeMapItems tables =
      .ok (if items = [] then none else some (mapRevision, sortByKey rank items)) := by
  obtain ⟨hlength, hchecked, hplaces⟩ := checked_of_validated hvalid
  obtain ⟨hsorted, hitemRows, hperm⟩ := sorted_rows mapRevision hplaces
  have hchildRows :=
    sortByKey_eq_of_sorted RuntimeItemChildRow.key hperm (pairwise_childRows hsorted)
  have htyped' : ∀ item ∈ sortByKey rank items, item.Typed :=
    fun item h => htyped item ((perm_sortByKey rank items).mem_iff.mp h)
  have hchecked' : ∀ item ∈ sortByKey rank items, item.Checked :=
    fun item h => hchecked item ((perm_sortByKey rank items).mem_iff.mp h)
  have hunknown : ∀ other ∈ (⟨none, []⟩ : ItemScan).mapRevision, other = mapRevision := by simp
  have hscan := readItems_stored hrevision htyped' hchecked' hunknown
  have hplaces' : (([] ++ sortByKey rank items).map place).Nodup :=
    ((perm_sortByKey rank items).map place).nodup_iff.mpr hplaces
  have hbare : (⟨(sortByKey rank items).map bare, none, 0⟩ : ChildScan).items =
      [] ++ (sortByKey rank items).map bare := rfl
  obtain ⟨scan', hread, hdone⟩ := readChildren_stored htyped' hchecked' hplaces' hbare (by simp)
  have hroom : ¬maxRuntimeMapItems < ((sortByKey rank items).map bare).length := by
    rw [List.length_map, (perm_sortByKey rank items).length_eq]
    exact not_lt.mpr hlength
  unfold loadRuntimeMapItems
  rw [hitems, hchildren, hitemRows, hchildRows, hscan]
  show (if maxRuntimeMapItems < ([] ++ (sortByKey rank items).map bare).length then _ else _) = _
  rw [List.nil_append, if_neg hroom, hread]
  show Except.ok (Option.map _ _) = _
  rw [hdone]
  by_cases hnone : items = []
  · rw [if_pos ((sortByKey_eq_nil rank).mpr hnone), if_pos hnone]
    rfl
  · rw [if_neg (mt (sortByKey_eq_nil rank).mp hnone), if_neg hnone]
    rfl

/-- **The round trip.**  Whatever was stored and whatever the database does, a save that fails
leaves the tables; a save that goes through is loaded back, in the order of positions and ordinals
and with its revision; and a batch that passes the validation goes through when the database does
its part. -/
theorem runtimeItems_roundTrip (sqlite : SqliteOutcome) (mapRevision : ℕ)
    (items : List RuntimeMapItemRecord) (tables : RuntimeItemTables)
    (hrevision : mapRevision ≤ u64Max) (htyped : ∀ item ∈ items, item.Typed) :
    (∀ e tables', replaceRuntimeMapItems sqlite mapRevision items tables = (.error e, tables') →
      tables' = tables) ∧
    (∀ tables', replaceRuntimeMapItems sqlite mapRevision items tables = (.ok (), tables') →
      ∃ sorted : List RuntimeMapItemRecord, sorted.Perm items ∧
        (sorted.Pairwise fun a b => a.rank < b.rank) ∧
        loadRuntimeMapItems tables' =
          .ok (if items = [] then none else some (mapRevision, sorted))) ∧
    (validateRuntimeMapItemRecords items = .ok () → sqlite.opens = true →
      (∀ statement, sqlite.executes statement = true) → sqlite.commits = true →
      ∃ tables', replaceRuntimeMapItems sqlite mapRevision items tables = (.ok (), tables')) := by
  refine ⟨?_, ?_, ?_⟩
  · exact fun e tables' h => (Atomic.bind (ReadOnly.ofExcept _) fun _ => committed_atomic _ _ _)
      tables e tables' h
  · intro tables' h
    cases hvalid : validateRuntimeMapItemRecords items with
    | error e =>
      unfold replaceRuntimeMapItems at h
      rw [hvalid] at h
      cases h
    | ok u =>
      unfold replaceRuntimeMapItems at h
      rw [hvalid, bind_of_ok (ofExcept_apply _ _)] at h
      obtain ⟨-, -, hrun⟩ := committed_eq_ok.mp h
      obtain ⟨hitems, hchildren⟩ := rows_of_stored (statements_eq_ok.mp hrun).2
      have hplaces := (checked_of_validated hvalid).2.2
      exact ⟨sortByKey rank items, perm_sortByKey rank items, (sorted_rows mapRevision hplaces).1,
        load_stored hrevision htyped hvalid hitems hchildren⟩
  · intro hvalid hopens hexecutes hcommits
    obtain ⟨tables', hstored⟩ := exists_stored mapRevision (checked_of_validated hvalid).2.2 tables
    refine ⟨tables', ?_⟩
    unfold replaceRuntimeMapItems
    rw [hvalid, bind_of_ok (ofExcept_apply _ _), committed_eq_ok]
    exact ⟨hopens, hcommits, statements_eq_ok.mpr ⟨fun i _ => hexecutes _, hstored⟩⟩

/-- A corpse and what it holds, dropped before a coin to the west of it. -/
def corpseAndCoin : List RuntimeMapItemRecord :=
  [⟨⟨101, 100, 7⟩, 0, 3058, 1, [⟨2148, 12⟩, ⟨2681, 3⟩], some 42⟩,
    ⟨⟨100, 100, 7⟩, 1, 2148, 5, [], none⟩]

theorem roundTrip_corpseAndCoin :
    ∃ tables' sorted, replaceRuntimeMapItems ⟨true, fun _ => true, true⟩ 0x1234abcd corpseAndCoin
        ⟨.empty, .empty⟩ = (.ok (), tables') ∧
      sorted.Perm corpseAndCoin ∧ (sorted.Pairwise fun a b => a.rank < b.rank) ∧
      loadRuntimeMapItems tables' = .ok (some (0x1234abcd, sorted)) := by
  have htyped : ∀ item ∈ corpseAndCoin, item.Typed := by
    intro item hitem
    simp only [corpseAndCoin, List.mem_cons, List.not_mem_nil, or_false] at hitem
    rcases hitem with rfl | rfl
    · exact ⟨by decide, by decide, by decide, by decide, by decide, by decide, by decide⟩
    · exact ⟨by decide, by decide, by decide, by decide, by decide, by decide, by decide⟩
  obtain ⟨-, hload, hsave⟩ := runtimeItems_roundTrip ⟨true, fun _ => true, true⟩ 0x1234abcd
    corpseAndCoin ⟨.empty, .empty⟩ (by decide) htyped
  obtain ⟨tables', hsaved⟩ := hsave rfl rfl (fun _ => rfl) rfl
  obtain ⟨sorted, hperm, hsorted, hloaded⟩ := hload tables' hsaved
  exact ⟨tables', sorted, hsaved, hperm, hsorted, hloaded⟩

/-! ### Items with their children in one row -/

theorem isLE_then_iff {a b : ℕ} {o : Ordering} :
    ((compare a b).then o).isLE = true ↔ a < b ∨ a = b ∧ o.isLE = true := by
  rcases lt_trichotomy a b with h | h | h
  · simp [Nat.compare_eq_lt.mpr h, h]
  · simp [h]
  · simp [Nat.compare_eq_gt.mpr h, h.not_gt, h.ne']

/-- The two spellings of the order. -/
theorem runtimeRank_iff {a b : RuntimeMapItemRecord} : runtimeRank a b ↔ a.rank ≤ b.rank := by
  obtain ⟨⟨x, y, z⟩, ordinal, _, _, _, _⟩ := a
  obtain ⟨⟨x', y', z'⟩, ordinal', _, _, _, _⟩ := b
  show (((compare x x').then ((compare y y').then (compare z z'))).then
    (compare ordinal ordinal')).isLE = true ↔ _
  have hlast : (compare ordinal ordinal').isLE = true ↔ ordinal ≤ ordinal' := Nat.isLE_compare
  rw [Ordering.then_assoc, Ordering.then_assoc, isLE_then_iff, isLE_then_iff, isLE_then_iff, hlast]
  simp [rank, itemKey, Prod.Lex.toLex_le_toLex]

theorem insertionSort_runtimeRank (mapRevision : ℕ) (items : List RuntimeMapItemRecord) :
    (items.map fun item => (mapRevision, item)).insertionSort (fun a b => runtimeRank a.2 b.2) =
      (sortByKey rank items).map fun item => (mapRevision, item) :=
  (List.map_insertionSort (fun a b : RuntimeMapItemRecord => a.rank ≤ b.rank)
    (fun a b : ℕ × RuntimeMapItemRecord => runtimeRank a.2 b.2) (fun item => (mapRevision, item))
    items fun _ _ _ _ => runtimeRank_iff.symm).symm

/-- The tables hold what `EngineDatabase` keeps as one row for each item. -/
theorem load_eq_loadRuntimeMapItems {mapRevision : ℕ} (hrevision : mapRevision ≤ u64Max)
    {items : List RuntimeMapItemRecord} (htyped : ∀ item ∈ items, item.Typed)
    {db db' : EngineDatabase} (hsaved : db.replaceRuntimeMapItems mapRevision items = .ok db')
    {tables : RuntimeItemTables}
    (hitems : tables.runtimeMapItems.rows = items.map (row mapRevision))
    (hchildren : tables.runtimeMapItemChildren.rows = items.flatMap childRows) :
    loadRuntimeMapItems tables = db'.loadRuntimeMapItems := by
  obtain ⟨u, hvalid, hstored⟩ := except_bind_eq_ok.mp hsaved
  cases hstored
  obtain ⟨hlength, hchecked, -⟩ := checked_of_validated hvalid
  have hperm := perm_sortByKey rank items
  have hsnd : ((sortByKey rank items).map fun item => (mapRevision, item)).map Prod.snd =
      sortByKey rank items := by simp [Function.comp_def]
  have hfst : ((sortByKey rank items).map fun item => (mapRevision, item)).map Prod.fst =
      (sortByKey rank items).map fun _ => mapRevision := by simp [Function.comp_def]
  have hrevisions (message : String) :
      oneRevision message ((sortByKey rank items).map fun _ => mapRevision) =
        .ok (if items = [] then none else some mapRevision) := by
    cases hsorted : sortByKey rank items with
    | nil =>
      rw [if_pos ((sortByKey_eq_nil rank).mp hsorted)]
      rfl
    | cons item rest =>
      have hnone : items ≠ [] := by
        intro hnone
        rw [(sortByKey_eq_nil rank).mpr hnone] at hsorted
        cases hsorted
      rw [if_neg hnone]
      simp [oneRevision]
  have hserver : ¬∃ item ∈ sortByKey rank items, item.serverId = 0 := fun ⟨item, hitem, hzero⟩ =>
    (hchecked item (hperm.mem_iff.mp hitem)).serverId hzero
  have hcount : ¬∃ item ∈ sortByKey rank items, item.count = 0 := fun ⟨item, hitem, hzero⟩ =>
    (hchecked item (hperm.mem_iff.mp hitem)).count hzero
  have hroom : ¬∃ item ∈ sortByKey rank items,
      maxRuntimeMapItemChildren < item.children.length := fun ⟨item, hitem, hlong⟩ =>
    absurd (hchecked item (hperm.mem_iff.mp hitem)).room (not_le.mpr hlong)
  have hbound : ¬maxRuntimeMapItems < (sortByKey rank items).length := by
    rw [hperm.length_eq]
    exact not_lt.mpr hlength
  rw [load_stored hrevision htyped hvalid hitems hchildren]
  unfold EngineDatabase.loadRuntimeMapItems
  simp only [insertionSort_runtimeRank, hsnd, hfst, hrevisions]
  show _ = (if _ then _ else _)
  rw [if_neg hserver, if_neg hcount, if_neg hbound, if_neg hroom]
  by_cases hnone : items = []
  · rw [if_pos hnone]
    simp [hnone]
  · simp [hnone]

end RuntimeItemTables

end ForgottenEngine
