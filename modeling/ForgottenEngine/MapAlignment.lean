import ForgottenEngine.MapEffects

/-!
# The tables of the shared map agree

On every tile the source part and the runtime part lie one on top of the other.

* `Indexed` — the source indices of a tile are the indices of its source items that were not
  removed, in order;
* `Aligned` — the items of a tile are the source items at its source indices, with their overrides,
  followed by the items of its registry entries, and the ordinals of these count up from zero.

Drops, pickups, source takes and corpses keep both.  An expiry drops entries out of the registry
without renumbering what stays, so it keeps `Aligned` when no due item lies below one that stays.
-/

namespace ForgottenEngine

open Fallible

namespace SharedNativeMap

/-- The source item at an index, with what remains of it. -/
def liveItem (self : SharedNativeMap) (position : Position) (index : ℕ) : Option WorldMapItem :=
  (self.source.itemsAt position)[index]?.map fun item =>
    (self.sourceItemCountOverrides[(⟨self.sourceRevision, position, index⟩ :
      WorldMapItemSourceIdentity)]?).elim item fun count => { item with count }

/-- The source indices of a tile; none for a tile without an entry. -/
def indicesAt (self : SharedNativeMap) (position : Position) : List ℕ :=
  self.sourceItemIndices[position]?.getD []

/-- The source items a tile still shows. -/
def sourcePart (self : SharedNativeMap) (position : Position) : List (Option WorldMapItem) :=
  (self.indicesAt position).map (self.liveItem position)

/-- The source indices of the tile are those of its source items that were not removed. -/
def Indexed (self : SharedNativeMap) (position : Position) : Prop :=
  self.indicesAt position = (List.range (self.source.itemsAt position).length).filter fun index =>
    ⟨self.sourceRevision, position, index⟩ ∉ self.removedSourceItems

/-- The registry entries of the tile count up from zero, and the tile shows its source items and
on top of them the items of these entries. -/
structure Aligned (m : SharedNativeMap) (position : Position) : Prop where
  ordinals : (recordsAt m.runtimeTileItems position).map RuntimeMapItemRecord.ordinal =
    List.range (recordsAt m.runtimeTileItems position).length
  items : (m.map.itemsAt position).map some = m.sourcePart position ++
    (recordsAt m.runtimeTileItems position).map fun record =>
      some (runtimeRecordToWorldMapItem record)

variable {m m' : SharedNativeMap} {position q : Position}

/-! ### Lists of registry entries -/

@[simp] theorem recordsAt_append (xs ys : List RuntimeMapItemRecord) (q : Position) :
    recordsAt (xs ++ ys) q = recordsAt xs q ++ recordsAt ys q :=
  List.filter_append xs ys

theorem recordsAt_cons_self (r : RuntimeMapItemRecord) (xs : List RuntimeMapItemRecord) :
    recordsAt (r :: xs) r.position = r :: recordsAt xs r.position := by
  simp [recordsAt]

theorem recordsAt_cons_ne {r : RuntimeMapItemRecord} (h : r.position ≠ q)
    (xs : List RuntimeMapItemRecord) : recordsAt (r :: xs) q = recordsAt xs q := by
  simp [recordsAt, h]

/-- A write that keeps the tiles of the entries may be done tile by tile. -/
theorem recordsAt_map {f : RuntimeMapItemRecord → RuntimeMapItemRecord}
    (hf : ∀ r, (f r).position = r.position) (xs : List RuntimeMapItemRecord) (q : Position) :
    recordsAt (xs.map f) q = (recordsAt xs q).map f := by
  unfold recordsAt
  rw [List.filter_map]
  congr 1
  apply List.filter_congr
  intro r _
  simp [hf]

/-- A filter may be done tile by tile. -/
theorem recordsAt_filter (keep : RuntimeMapItemRecord → Bool) (xs : List RuntimeMapItemRecord)
    (q : Position) : recordsAt (xs.filter keep) q = (recordsAt xs q).filter keep := by
  unfold recordsAt
  rw [List.filter_filter, List.filter_filter]
  apply List.filter_congr
  intro r _
  exact Bool.and_comm _ _

/-- The entry a pickup finds splits the registry. -/
theorem exists_split {test : RuntimeMapItemRecord → Bool} {registry : List RuntimeMapItemRecord}
    {recordIndex : ℕ} (h : registry.findIdx? test = some recordIndex) :
    ∃ before record after, registry = before ++ record :: after ∧ before.length = recordIndex ∧
      test record = true := by
  obtain ⟨hlt, htest, -⟩ := List.findIdx?_eq_some_iff_getElem.mp h
  refine ⟨registry.take recordIndex, registry[recordIndex], registry.drop (recordIndex + 1),
    ?_, by simp; omega, htest⟩
  rw [← List.drop_eq_getElem_cons hlt, List.take_append_drop]

/-- In a list of entries that count up from zero, an entry stands where its ordinal says. -/
theorem length_of_ordinals {before after : List RuntimeMapItemRecord}
    {record : RuntimeMapItemRecord}
    (h : (before ++ record :: after).map RuntimeMapItemRecord.ordinal =
      List.range (before ++ record :: after).length) : before.length = record.ordinal := by
  have hget := congrArg (·[before.length]?) h
  simpa using hget.symm

/-! ### Frames -/

/-- A tile whose items, entries and source items stay is as aligned as before. -/
theorem Aligned.congr (h : m.Aligned q) (hitems : m'.map.itemsAt q = m.map.itemsAt q)
    (hrecords : recordsAt m'.runtimeTileItems q = recordsAt m.runtimeTileItems q)
    (hpart : m'.sourcePart q = m.sourcePart q) : m'.Aligned q := by
  constructor
  · rw [hrecords]
    exact h.ordinals
  · rw [hitems, hrecords, hpart]
    exact h.items

/-- The source part of an aligned tile is what lies below its entries. -/
theorem Aligned.length_sourcePart (h : m.Aligned q) :
    (m.map.itemsAt q).length = (m.sourcePart q).length + m.runtimeCount q := by
  have hlen := congrArg List.length h.items
  simpa [runtimeCount] using hlen

theorem Aligned.runtimeTailStart (h : m.Aligned q) :
    m.runtimeTailStart q = (m.sourcePart q).length := by
  unfold SharedNativeMap.runtimeTailStart
  rw [h.length_sourcePart]
  omega

theorem setTileItems_itemsAt {map nextMap : WorldMap} {items : List WorldMapItem}
    (h : map.setTileItems position items = .ok nextMap) (q : Position) :
    nextMap.itemsAt q = if position = q then items else map.itemsAt q := by
  obtain ⟨hlen, rfl⟩ := WorldMap.setTileItems_eq_ok.mp h
  simp

/-! ### Placing a runtime item -/

theorem Aligned.placed (h : m.Aligned q) {record : RuntimeMapItemRecord} {nextMap : WorldMap}
    (hposition : record.position = position) (hordinal : record.ordinal = m.runtimeCount position)
    (hroom : m.map.setTileItems position (m.map.itemsAt position ++
      [runtimeRecordToWorldMapItem record]) = .ok nextMap)
    (hm' : m' = { m with
      map := nextMap
      runtimeTileItems := m.runtimeTileItems ++ [record]
      revision := m.revision + 1 }) : m'.Aligned q := by
  subst hm'
  have hitems := setTileItems_itemsAt hroom q
  by_cases hq : position = q
  · subst hq
    subst hposition
    have hrecords : recordsAt (m.runtimeTileItems ++ [record]) record.position =
        recordsAt m.runtimeTileItems record.position ++ [record] := by
      rw [recordsAt_append, recordsAt_cons_self]
      rfl
    constructor
    · simp only [hrecords, List.map_append, List.map_singleton, h.ordinals, hordinal,
        List.length_append, List.length_singleton, List.range_succ]
      rfl
    · simp only [hrecords, hitems, if_true, List.map_append, List.map_singleton, h.items,
        List.append_assoc]
      rfl
  · have hne : record.position ≠ q := hposition ▸ hq
    refine h.congr (by simpa [hq] using hitems) ?_ rfl
    rw [recordsAt_append, recordsAt_cons_ne hne]
    simp [recordsAt]

/-! ### Taking from a runtime item -/

theorem toChildRecord_toWorldMapItem (c : RuntimeMapItemChildRecord) :
    c.toWorldMapItem.toChildRecord = c := rfl

/-- What a take from the item of an entry may be. -/
theorem takeRuntime_cases {record : RuntimeMapItemRecord} {childIndex : Option ℕ} {n : ℕ}
    {take : RuntimeTake}
    (h : (runtimeRecordToWorldMapItem record).takeRuntime childIndex n = some take) :
    (∃ i child, childIndex = some i ∧ record.children[i]? = some child ∧ n ≤ child.count ∧
      take = {
        moved := { child.toWorldMapItem with count := n }
        nextChildren :=
          (if 0 < child.count - n then record.children.set i { child with count := child.count - n }
            else record.children.eraseIdx i).map RuntimeMapItemChildRecord.toWorldMapItem
        nextTopCount := none
        removeTop := false
        sourceRemainingCount := if 0 < child.count - n then some (child.count - n) else none }) ∨
    (childIndex = none ∧ n < record.count ∧ take = {
      moved := { runtimeRecordToWorldMapItem record with count := n }
      nextChildren := (runtimeRecordToWorldMapItem record).children
      nextTopCount := some (record.count - n)
      removeTop := false
      sourceRemainingCount := some (record.count - n) }) ∨
    (childIndex = none ∧ n = record.count ∧ take = {
      moved := { runtimeRecordToWorldMapItem record with count := n }
      nextChildren := []
      nextTopCount := none
      removeTop := true
      sourceRemainingCount := none }) := by
  cases childIndex with
  | some i =>
    left
    simp only [WorldMapItem.takeRuntime, WorldMapItem.takeChild, Option.bind_eq_bind,
      Option.bind_eq_some_iff, runtimeRecordToWorldMapItem, plainMapItem, List.getElem?_map,
      Option.map_eq_some_iff] at h
    obtain ⟨_, ⟨child, hchild, rfl⟩, h⟩ := h
    split at h
    · cases h
    · rename_i hle
      have hle : n ≤ child.count := not_lt.mp hle
      refine ⟨i, child, rfl, hchild, hle, ?_⟩
      cases h
      congr 1
      by_cases hrest : 0 < child.count - n
      · have hmap : (record.children.map RuntimeMapItemChildRecord.toWorldMapItem).set i
            { child.toWorldMapItem with count := child.count - n } =
            (record.children.set i { child with count := child.count - n }).map
              RuntimeMapItemChildRecord.toWorldMapItem := by
          rw [List.map_set]
          rfl
        rw [if_pos hrest, ← hmap]
        exact if_pos hrest
      · have hmap : (record.children.map RuntimeMapItemChildRecord.toWorldMapItem).eraseIdx i =
            (record.children.eraseIdx i).map RuntimeMapItemChildRecord.toWorldMapItem :=
          List.eraseIdx_map _ _ _
        rw [if_neg hrest, ← hmap]
        exact if_neg hrest
  | none =>
    right
    have hcount : (runtimeRecordToWorldMapItem record).count = record.count := rfl
    simp only [WorldMapItem.takeRuntime, WorldMapItem.takeTop, hcount] at h
    by_cases hless : record.count < n
    · rw [if_pos hless] at h
      cases h
    · rw [if_neg hless] at h
      by_cases hrest : 0 < record.count - n
      · rw [if_pos hrest] at h
        cases h
        exact .inl ⟨rfl, by omega, rfl⟩
      · rw [if_neg hrest] at h
        cases h
        exact .inr ⟨rfl, by omega, rfl⟩

/-- **What a take does to the registry and to the items of the tile**: it rewrites one entry and
its item alike, or it removes both and closes the gap. -/
theorem nextRegistry_cases {before after nextRegistry : List RuntimeMapItemRecord}
    {record : RuntimeMapItemRecord} {childIndex : Option ℕ} {n ordinal : ℕ} {take : RuntimeTake}
    (htook : (runtimeRecordToWorldMapItem record).takeRuntime childIndex n = some take)
    (hreg : take.nextRegistry (before ++ record :: after) before.length position ordinal
      childIndex = .ok nextRegistry) :
    (∃ record' : RuntimeMapItemRecord, record'.position = record.position ∧
      record'.ordinal = record.ordinal ∧ nextRegistry = before ++ record' :: after ∧
      ∀ items i, take.nextItems items i (runtimeRecordToWorldMapItem record) =
        items.set i (runtimeRecordToWorldMapItem record')) ∨
    (nextRegistry = (before ++ after).map (RuntimeMapItemRecord.closeGap position ordinal) ∧
      ∀ items i, take.nextItems items i (runtimeRecordToWorldMapItem record) =
        items.eraseIdx i) := by
  have hmodify (f : RuntimeMapItemRecord → RuntimeMapItemRecord) :
      (before ++ record :: after).modify before.length f = before ++ f record :: after := by
    simp [List.modify_eq_set_getElem?]
  rcases takeRuntime_cases htook with ⟨i, child, rfl, -, -, rfl⟩ | ⟨rfl, -, rfl⟩ | ⟨rfl, -, rfl⟩
  · left
    refine ⟨{ record with children :=
      if 0 < child.count - n then record.children.set i { child with count := child.count - n }
      else record.children.eraseIdx i }, rfl, rfl, ?_, fun items k => rfl⟩
    simp only [RuntimeTake.nextRegistry, Bool.false_eq_true, if_false, hmodify,
      Except.ok.injEq] at hreg
    rw [← hreg]
    simp [List.map_map, Function.comp_def, toChildRecord_toWorldMapItem]
  · left
    refine ⟨{ record with count := record.count - n }, rfl, rfl, ?_, ?_⟩
    · simp only [RuntimeTake.nextRegistry, Bool.false_eq_true, if_false, hmodify,
        Except.ok.injEq] at hreg
      exact hreg.symm
    · intro items k
      rfl
  · right
    refine ⟨?_, fun items k => rfl⟩
    have herase : (before ++ record :: after).eraseIdx before.length = before ++ after := by
      rw [List.eraseIdx_append_of_length_le (le_refl _), Nat.sub_self, List.eraseIdx_cons_zero]
    simp only [RuntimeTake.nextRegistry, if_true, Except.ok.injEq, herase] at hreg
    exact hreg.symm

/-- Closing the gap of a removed entry makes the others count up from zero again. -/
theorem closedOrdinals {before after : List RuntimeMapItemRecord} {record : RuntimeMapItemRecord}
    {position : Position}
    (h : (recordsAt before position ++ record :: recordsAt after position).map
        RuntimeMapItemRecord.ordinal =
      List.range (recordsAt before position ++ record :: recordsAt after position).length) :
    (recordsAt before position ++ recordsAt after position).map
        (RuntimeMapItemRecord.ordinal ∘ RuntimeMapItemRecord.closeGap position record.ordinal) =
      List.range (recordsAt before position ++ recordsAt after position).length := by
  have hlen := length_of_ordinals h
  set below := recordsAt before position with hbelow
  set above := recordsAt after position with habove
  have hlower (xs : List RuntimeMapItemRecord) : (recordsAt xs position).map
      (RuntimeMapItemRecord.ordinal ∘ RuntimeMapItemRecord.closeGap position record.ordinal) =
      ((recordsAt xs position).map RuntimeMapItemRecord.ordinal).map
        fun o => if record.ordinal < o then o - 1 else o := by
    rw [List.map_map]
    apply List.map_congr_left
    intro r hr
    have hposition : r.position = position := by simpa using (List.mem_filter.mp hr).2
    simp only [Function.comp_apply, RuntimeMapItemRecord.closeGap, hposition, true_and]
    split <;> rfl
  -- split the count at the removed entry
  have hrange : below.map RuntimeMapItemRecord.ordinal ++
      record.ordinal :: above.map RuntimeMapItemRecord.ordinal =
      List.range record.ordinal ++
        record.ordinal :: (List.range above.length).map (record.ordinal + 1 + ·) := by
    have hsum : (below ++ record :: above).length = record.ordinal + 1 + above.length := by
      simp [hlen]; omega
    rw [hsum, List.range_add, List.range_succ] at h
    simpa using h
  obtain ⟨hlow, hhigh⟩ := List.append_inj hrange (by simp [hlen])
  have hhigh := (List.cons.inj hhigh).2
  rw [List.map_append, hlower before, hlower after, ← hbelow, ← habove, hlow, hhigh,
    List.length_append, hlen, List.range_add, List.map_map]
  congr 1
  · have hsame (o : ℕ) (ho : o ∈ List.range record.ordinal) :
        (if record.ordinal < o then o - 1 else o) = o := by
      have ho := List.mem_range.mp ho
      exact if_neg (by omega)
    exact (List.map_congr_left hsame).trans (List.map_id' _)
  · apply List.map_congr_left
    intro o _
    simp only [Function.comp_apply]
    rw [if_pos (by omega)]
    omega

/-- The item at a stack index of the runtime part is the item of the entry with that ordinal. -/
theorem Aligned.runtimeItem (h : m.Aligned position) {before after : List RuntimeMapItemRecord}
    {record : RuntimeMapItemRecord} {i : ℕ} {item : WorldMapItem}
    (hsplit : m.runtimeTileItems = before ++ record :: after) (hposition : record.position = position)
    (htail : m.runtimeTailStart position ≤ i)
    (hordinal : record.ordinal = i - m.runtimeTailStart position)
    (hitem : (m.map.itemsAt position)[i]? = some item) :
    (recordsAt before position).length = record.ordinal ∧
      i = (m.sourcePart position).length + record.ordinal ∧
      item = runtimeRecordToWorldMapItem record := by
  subst hposition
  have hrecords : recordsAt m.runtimeTileItems record.position =
      recordsAt before record.position ++ record :: recordsAt after record.position := by
    rw [hsplit, recordsAt_append, recordsAt_cons_self]
  have hords := h.ordinals
  have hitems := congrArg (·[i]?) h.items
  rw [hrecords] at hords hitems
  have hlen := length_of_ordinals hords
  rw [h.runtimeTailStart] at htail hordinal
  have hi : i = (m.sourcePart record.position).length + record.ordinal := by omega
  refine ⟨hlen, hi, ?_⟩
  rw [hi, ← hlen] at hitem
  simp only [hi, ← hlen, List.getElem?_map, hitem] at hitems
  simpa using hitems

/-- **A take keeps every tile aligned**, the one it takes from and the others. -/
theorem Aligned.taken (h : m.Aligned q) (hp : m.Aligned position) {items : List WorldMapItem}
    {i recordIndex n : ℕ} {childIndex : Option ℕ} {mapItem : WorldMapItem} {take : RuntimeTake}
    {nextRegistry : List RuntimeMapItemRecord} {nextMap : WorldMap}
    (htile : m.map.tileItemsAt position = some items) (htail : m.runtimeTailStart position ≤ i)
    (hrecord : (m.runtimeTileItems.findIdx? fun record => record.position = position ∧
      record.ordinal = i - m.runtimeTailStart position) = some recordIndex)
    (hitem : items[i]? = some mapItem) (htook : mapItem.takeRuntime childIndex n = some take)
    (hreg : take.nextRegistry m.runtimeTileItems recordIndex position
      (i - m.runtimeTailStart position) childIndex = .ok nextRegistry)
    (hroom : m.map.setTileItems position (take.nextItems items i mapItem) = .ok nextMap)
    (hm' : m' = { m with
      map := nextMap
      runtimeTileItems := nextRegistry
      revision := m.revision + 1 }) : m'.Aligned q := by
  subst hm'
  obtain ⟨before, record, after, hsplit, rfl, htest⟩ := exists_split hrecord
  obtain ⟨rfl, hordinal⟩ : record.position = position ∧
      record.ordinal = i - m.runtimeTailStart position := by simpa using htest
  rw [← WorldMap.itemsAt_eq htile] at hitem hroom
  obtain ⟨hlen, hi, rfl⟩ := hp.runtimeItem hsplit rfl htail hordinal hitem
  rw [hsplit, ← hordinal] at hreg
  have hitems := setTileItems_itemsAt hroom q
  rcases nextRegistry_cases htook hreg with ⟨record', hpos, hord, rfl, hnext⟩ | ⟨rfl, hnext⟩
  · -- one entry and its item are rewritten
    by_cases hq : record.position = q
    · subst hq
      have hold : recordsAt m.runtimeTileItems record.position =
          recordsAt before record.position ++ record :: recordsAt after record.position := by
        rw [hsplit, recordsAt_append, recordsAt_cons_self]
      have hnew : recordsAt (before ++ record' :: after) record.position =
          recordsAt before record.position ++ record' :: recordsAt after record.position := by
        rw [recordsAt_append, ← hpos, recordsAt_cons_self]
      have hords := h.ordinals
      have hlist := h.items
      rw [hold] at hords hlist
      constructor
      · show (recordsAt (before ++ record' :: after) record.position).map _ = _
        rw [hnew]
        simpa [hord] using hords
      · show (nextMap.itemsAt record.position).map some = _ ++
          (recordsAt (before ++ record' :: after) record.position).map _
        rw [hnew, hitems, if_pos rfl, hnext, List.map_set, hlist, hi, ← hlen,
          List.set_append_right _ _ (by omega), Nat.add_sub_cancel_left]
        congr 1
        simp
    · refine h.congr (by simpa [hq] using hitems) ?_ rfl
      have hq' : record'.position ≠ q := by rw [hpos]; exact hq
      rw [hsplit, recordsAt_append, recordsAt_append, recordsAt_cons_ne hq,
        recordsAt_cons_ne hq']
  · -- one entry and its item are removed, and the entries above move down
    have hclose (r : RuntimeMapItemRecord) :
        (r.closeGap record.position record.ordinal).position = r.position := by
      unfold RuntimeMapItemRecord.closeGap
      split <;> rfl
    have hshape (o : ℕ) (r : RuntimeMapItemRecord) : runtimeRecordToWorldMapItem
        (r.closeGap record.position o) = runtimeRecordToWorldMapItem r := by
      unfold RuntimeMapItemRecord.closeGap
      split <;> rfl
    by_cases hq : record.position = q
    · subst hq
      have hold : recordsAt m.runtimeTileItems record.position =
          recordsAt before record.position ++ record :: recordsAt after record.position := by
        rw [hsplit, recordsAt_append, recordsAt_cons_self]
      have hnew : recordsAt ((before ++ after).map
            (RuntimeMapItemRecord.closeGap record.position record.ordinal)) record.position =
          (recordsAt before record.position ++ recordsAt after record.position).map
            (RuntimeMapItemRecord.closeGap record.position record.ordinal) := by
        rw [recordsAt_map hclose, recordsAt_append]
      have hords := h.ordinals
      have hlist := h.items
      rw [hold] at hords hlist
      constructor
      · show (recordsAt ((before ++ after).map _) record.position).map _ = List.range (List.length
          (recordsAt ((before ++ after).map _) record.position))
        rw [hnew, List.length_map, List.map_map]
        exact closedOrdinals hords
      · show (nextMap.itemsAt record.position).map some = _ ++
          (recordsAt ((before ++ after).map _) record.position).map _
        rw [hnew, hitems, if_pos rfl, hnext, ← List.eraseIdx_map, hlist, hi, ← hlen,
          List.eraseIdx_append_of_length_le (by omega), Nat.add_sub_cancel_left]
        congr 1
        simp [List.eraseIdx_append_of_length_le, Function.comp_def, hshape]
    · refine h.congr (by simpa [hq] using hitems) ?_ rfl
      have hsame (r : RuntimeMapItemRecord) (hr : r ∈ recordsAt m.runtimeTileItems q) :
          r.closeGap record.position record.ordinal = r := by
        have hrq : r.position = q := by simpa using (List.mem_filter.mp hr).2
        have hne : r.position ≠ record.position := by rw [hrq]; exact Ne.symm hq
        unfold RuntimeMapItemRecord.closeGap
        rw [if_neg (fun hand => hne hand.1)]
      have hrest : recordsAt (before ++ after) q = recordsAt m.runtimeTileItems q := by
        rw [hsplit, recordsAt_append, recordsAt_append, recordsAt_cons_ne hq]
      show recordsAt ((before ++ after).map _) q = _
      rw [recordsAt_map hclose, hrest]
      exact (List.map_congr_left hsame).trans (List.map_id _)

/-! ### Taking a source item -/

/-- A live item is its source item, up to the count. -/
theorem liveItem_eq_some {index : ℕ} {item : WorldMapItem}
    (h : m.liveItem q index = some item) : ∃ sourceItem,
      (m.source.itemsAt q)[index]? = some sourceItem ∧
        ∀ count, { item with count } = { sourceItem with count } := by
  obtain ⟨sourceItem, hsource, hlive⟩ := Option.map_eq_some_iff.mp h
  refine ⟨sourceItem, hsource, fun count => ?_⟩
  rw [← hlive]
  cases m.sourceItemCountOverrides[(⟨m.sourceRevision, q, index⟩ :
    WorldMapItemSourceIdentity)]? <;> rfl

/-- Live items only depend on the source and on the override of their identity. -/
theorem liveItem_congr {index : ℕ} (hsource : m'.source = m.source)
    (hoverride : m'.sourceItemCountOverrides[(⟨m.sourceRevision, q, index⟩ :
        WorldMapItemSourceIdentity)]? =
      m.sourceItemCountOverrides[(⟨m.sourceRevision, q, index⟩ : WorldMapItemSourceIdentity)]?) :
    m'.liveItem q index = m.liveItem q index := by
  unfold liveItem sourceRevision at *
  rw [hsource, hoverride]

theorem Indexed.nodup (h : m.Indexed q) : (m.indicesAt q).Nodup := by
  rw [h]
  exact List.nodup_range.filter _

theorem indicesAt_without {indices : List ℕ} {k : ℕ}
    (h : m.sourceItemIndices[position]? = some indices) (q : Position) :
    (m.indicesWithout position indices k)[q]?.getD [] =
      if position = q then (m.indicesAt position).eraseIdx k else m.indicesAt q := by
  have hat : m.indicesAt position = indices := by rw [indicesAt, h, Option.getD_some]
  unfold indicesWithout indicesAt
  by_cases hq : position = q
  · subst hq
    rw [if_pos rfl, h, Option.getD_some]
    split
    · rename_i hempty
      simp [hempty]
    · simp
  · rw [if_neg hq]
    split
    · simp [Std.ExtTreeMap.getElem?_erase, hq]
    · simp [Std.ExtTreeMap.getElem?_insert, hq]

/-- The identity of another index or another tile is another identity. -/
theorem identity_ne {r i j : ℕ} (h : position ≠ q ∨ i ≠ j) :
    (⟨r, position, i⟩ : WorldMapItemSourceIdentity) ≠ ⟨r, q, j⟩ := by
  intro heq
  cases heq
  rcases h with h | h <;> exact h rfl

/-- **A source take keeps the source indices.** -/
theorem Indexed.sourceChange (h : m.Indexed q) {k index requested : ℕ} {runtimeItem : WorldMapItem}
    (hindex : (m.sourceItemIndices[position]?.bind (·[k]?)) = some index)
    (hchange : SourceChange m position k index runtimeItem requested m') : m'.Indexed q := by
  cases hchange with
  | part => exact h
  | @whole nextMap indices overrides _ hindices _ _ =>
    have hnew := indicesAt_without (k := k) hindices q
    have hk : (m.indicesAt position)[k]? = some index := by
      rw [indicesAt, hindices, Option.getD_some]
      simpa [hindices] using hindex
    have hmem (i : ℕ) : (⟨m.sourceRevision, q, i⟩ : WorldMapItemSourceIdentity) ∈
        m.removedSourceItems.insert ⟨m.sourceRevision, position, index⟩ ↔
          (position = q ∧ index = i) ∨
            (⟨m.sourceRevision, q, i⟩ : WorldMapItemSourceIdentity) ∈ m.removedSourceItems := by
      simp [Std.ExtTreeSet.mem_insert]
    refine hnew.trans ?_
    show _ = (List.range (m.source.itemsAt q).length).filter fun i => decide
      ((⟨m.sourceRevision, q, i⟩ : WorldMapItemSourceIdentity) ∉
        m.removedSourceItems.insert ⟨m.sourceRevision, position, index⟩)
    by_cases hq : position = q
    · subst hq
      rw [if_pos rfl, Indices.eraseIdx_eq_filter h.nodup hk, h, List.filter_filter]
      apply List.filter_congr
      intro i _
      rw [← Bool.decide_and]
      apply decide_eq_decide.mpr
      rw [hmem i, not_or]
      simp [ne_comm]
    · rw [if_neg hq, h]
      apply List.filter_congr
      intro i _
      apply decide_eq_decide.mpr
      rw [hmem i]
      simp [hq]

/-- An aligned tile shows at a source stack index the live item of its source index. -/
theorem Aligned.sourceItem (h : m.Aligned position) {k index : ℕ} {item : WorldMapItem}
    (hk : (m.indicesAt position)[k]? = some index)
    (hitem : (m.map.itemsAt position)[k]? = some item) :
    k < (m.sourcePart position).length ∧ m.liveItem position index = some item := by
  have hlt : k < (m.sourcePart position).length := by
    rw [sourcePart, List.length_map]
    exact (List.getElem?_eq_some_iff.mp hk).1
  have hlist := congrArg (·[k]?) h.items
  simp only [List.getElem?_append_left hlt] at hlist
  refine ⟨hlt, ?_⟩
  simpa [sourcePart, hk, hitem] using hlist.symm

/-- **A source take keeps every tile aligned.** -/
theorem Aligned.sourceChange (h : m.Aligned q) (hp : m.Aligned position)
    (hx : m.Indexed position) {k index requested : ℕ} {runtimeItem : WorldMapItem}
    (hindex : (m.sourceItemIndices[position]?.bind (·[k]?)) = some index)
    (hitem : (m.map.itemsAt position)[k]? = some runtimeItem)
    (hchange : SourceChange m position k index runtimeItem requested m') : m'.Aligned q := by
  have hk : (m.indicesAt position)[k]? = some index := by
    obtain ⟨indices, hindices, hindex⟩ := Option.bind_eq_some_iff.mp hindex
    rw [indicesAt, hindices, Option.getD_some]
    exact hindex
  obtain ⟨hlt, hlive⟩ := hp.sourceItem hk hitem
  cases hchange with
  | @whole nextMap indices overrides _ hindices hroom hoverrides =>
    have hitems := setTileItems_itemsAt hroom q
    have hnew := indicesAt_without (k := k) hindices q
    have hother {i : ℕ} (hi : position ≠ q ∨ index ≠ i) :
        overrides[(⟨m.sourceRevision, q, i⟩ : WorldMapItemSourceIdentity)]? =
          m.sourceItemCountOverrides[(⟨m.sourceRevision, q, i⟩ :
            WorldMapItemSourceIdentity)]? := by
      rcases hoverrides with ⟨rfl, -⟩ | rfl
      · rfl
      · rw [Std.ExtTreeMap.getElem?_erase]
        simp [identity_ne (r := m.sourceRevision) hi]
    by_cases hq : position = q
    · subst hq
      rw [if_pos rfl] at hitems hnew
      have hpart : (SharedNativeMap.mk m.source nextMap (m.indicesWithout position indices k)
          (m.removedSourceItems.insert ⟨m.sourceRevision, position, index⟩) overrides
          m.runtimeTileItems (m.revision + 1)).sourcePart position =
          (m.sourcePart position).eraseIdx k := by
        rw [sourcePart, sourcePart, List.eraseIdx_map]
        refine (congrArg (List.map _) hnew).trans (List.map_congr_left fun i hi => ?_)
        rw [Indices.eraseIdx_eq_filter hx.nodup hk] at hi
        have hne : i ≠ index := by simpa using (List.mem_filter.mp hi).2
        exact liveItem_congr rfl (hother (.inr (Ne.symm hne)))
      constructor
      · exact h.ordinals
      · show (nextMap.itemsAt position).map some = _
        rw [hitems, hpart, ← List.eraseIdx_map, h.items, List.eraseIdx_append_of_lt_length hlt]
    · rw [if_neg hq] at hitems hnew
      refine h.congr hitems rfl ?_
      rw [sourcePart, sourcePart]
      refine (congrArg (List.map _) hnew).trans (List.map_congr_left fun i _ => ?_)
      exact liveItem_congr rfl (hother (.inl hq))
  | @part nextMap _ hroom =>
    have hitems := setTileItems_itemsAt hroom q
    set count := runtimeItem.count - requested with hcount
    have hother {i : ℕ} (hi : position ≠ q ∨ index ≠ i) :
        (m.sourceItemCountOverrides.insert ⟨m.sourceRevision, position, index⟩ count)[
          (⟨m.sourceRevision, q, i⟩ : WorldMapItemSourceIdentity)]? =
          m.sourceItemCountOverrides[(⟨m.sourceRevision, q, i⟩ :
            WorldMapItemSourceIdentity)]? := by
      rw [Std.ExtTreeMap.getElem?_insert]
      simp [identity_ne (r := m.sourceRevision) hi]
    by_cases hq : position = q
    · subst hq
      rw [if_pos rfl] at hitems
      obtain ⟨sourceItem, hsource, hshape⟩ := liveItem_eq_some hlive
      have hpart : (SharedNativeMap.mk m.source nextMap m.sourceItemIndices m.removedSourceItems
          (m.sourceItemCountOverrides.insert ⟨m.sourceRevision, position, index⟩ count)
          m.runtimeTileItems (m.revision + 1)).sourcePart position =
          (m.sourcePart position).set k (some { runtimeItem with count }) := by
        apply List.ext_getElem?
        intro j
        rw [sourcePart, List.getElem?_map, List.getElem?_set]
        show ((m.indicesAt position)[j]?).map _ = _
        by_cases hj : k = j
        · subst hj
          rw [if_pos rfl, if_pos hlt, hk, Option.map_some, liveItem]
          show some (Option.map _ (m.source.itemsAt position)[index]?) = _
          rw [hsource]
          simp only [sourceRevision, Option.map_some, Std.ExtTreeMap.getElem?_insert_self,
            Option.elim_some, hshape]
        · rw [if_neg hj, sourcePart, List.getElem?_map]
          cases hi : (m.indicesAt position)[j]? with
          | none => rfl
          | some i =>
            have hne : index ≠ i := by
              intro heq
              subst heq
              exact hj ((List.getElem?_inj (List.getElem?_eq_some_iff.mp hk).1 hx.nodup).mp
                (hk.trans hi.symm))
            exact congrArg some (liveItem_congr rfl (hother (.inr hne)))
      constructor
      · exact h.ordinals
      · show (nextMap.itemsAt position).map some = _
        rw [hitems, hpart, List.modify_eq_set_getElem?, hitem]
        show ((m.map.itemsAt position).set k _).map some = _
        rw [List.map_set, h.items, List.set_append_left _ _ hlt]
    · rw [if_neg hq] at hitems
      refine h.congr hitems rfl ?_
      exact List.map_congr_left fun i _ => liveItem_congr rfl (hother (.inl hq))

end SharedNativeMap

end ForgottenEngine
