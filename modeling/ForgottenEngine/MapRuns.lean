import ForgottenEngine.InventorySaves
import ForgottenEngine.MapRecovery
import ForgottenEngine.RefusedTransfers
import ForgottenEngine.RuntimeItemTables

/-!
# Runs of the shared map

Whatever the server does to the map keeps its tables in agreement, and the database in step with
them.  An expiry leaves the ordinals of the entries that stay as they are, so it keeps the agreement
only where the due entries lie on top of their tiles.

* `Aligned.expired` — such an expiry leaves every tile aligned;
* `EngineDatabase.Holds.load` — the tables are read back as they were written;
* `Agrees.sourceTaken` — a take of a source item keeps the agreement;
* `MapChange.perform_kept` — **every change keeps the agreement, and the database in step**.
-/

namespace ForgottenEngine

open Fallible

namespace SharedNativeMap

variable {m m' : SharedNativeMap} {q : Position} {nowTick : ℕ}

/-! ### Expiry -/

/-- No due entry of the registry lies below one that stays. -/
def ExpiresFromTop (m : SharedNativeMap) (nowTick : ℕ) : Prop :=
  ∀ q, (recordsAt m.runtimeTileItems q).Pairwise fun below above =>
    below.isDue nowTick = true → above.isDue nowTick = true

theorem mem_expiredPositions {nowTick : ℕ} : q ∈ m.expiredPositions nowTick ↔
    ∃ record ∈ m.runtimeTileItems, record.isDue nowTick = true ∧ record.position = q := by
  unfold expiredPositions
  rw [Std.ExtTreeSet.mem_toList, Std.ExtTreeSet.mem_ofList, List.contains_iff_mem, List.mem_map]
  simp only [List.mem_filter, and_assoc]

/-- Entries of which the due ones lie on top leave a prefix behind. -/
theorem filter_isPrefix_of_top {α : Type} {due : α → Bool} {xs : List α}
    (h : xs.Pairwise fun a b => due a = true → due b = true) :
    xs.filter (fun x => !due x) <+: xs := by
  induction xs with
  | nil => exact List.prefix_refl _
  | cons x xs ih =>
    obtain ⟨hhead, htail⟩ := List.pairwise_cons.mp h
    cases hx : due x with
    | false =>
      rw [List.filter_cons_of_pos (by simp [hx])]
      exact (List.prefix_cons_inj x).mpr (ih htail)
    | true =>
      have hnone : xs.filter (fun x => !due x) = [] :=
        List.filter_eq_nil_iff.mpr fun y hy => by simp [hhead y hy hx]
      rw [List.filter_cons_of_neg (by simp [hx]), hnone]
      exact List.nil_prefix

/-- The due indices of one tile, the largest first. -/
theorem doomedIndices_spec (hordinals : (recordsAt m.runtimeTileItems q).map
      RuntimeMapItemRecord.ordinal = List.range (recordsAt m.runtimeTileItems q).length)
    (nowTick start : ℕ) :
    (m.doomedIndices nowTick q start).Pairwise (· > ·) ∧
      ∀ i, i ∈ m.doomedIndices nowTick q start ↔ ∃ j record,
        (recordsAt m.runtimeTileItems q)[j]? = some record ∧ record.isDue nowTick = true ∧
          i = start + j := by
  set records := recordsAt m.runtimeTileItems q with hrecords
  have hat : ∀ j (record : RuntimeMapItemRecord), records[j]? = some record →
      record.ordinal = j := by
    intro j record hj
    have hget := congrArg (·[j]?) hordinals
    simp only [List.getElem?_map, hj, Option.map_some] at hget
    obtain ⟨hlt, -⟩ := List.getElem?_eq_some_iff.mp hj
    rw [List.getElem?_range hlt] at hget
    exact Option.some.inj hget
  constructor
  · unfold doomedIndices
    have hnodup : ((((recordsAt m.runtimeTileItems q).filter (·.isDue nowTick)).map
        RuntimeMapItemRecord.ordinal).dedup.map (start + ·)).Nodup :=
      (List.nodup_dedup _).map fun a b hab => Nat.add_left_cancel hab
    have hsorted := List.pairwise_insertionSort (· ≥ ·) ((((recordsAt m.runtimeTileItems q).filter
      (·.isDue nowTick)).map RuntimeMapItemRecord.ordinal).dedup.map (start + ·))
    have hdistinct := (List.perm_insertionSort (· ≥ ·) _).nodup_iff.mpr hnodup
    exact hsorted.and hdistinct |>.imp fun hab => lt_of_le_of_ne hab.1 (Ne.symm hab.2)
  · intro i
    unfold doomedIndices
    rw [List.mem_insertionSort, List.mem_map]
    simp only [List.mem_dedup, List.mem_map, List.mem_filter, ← hrecords]
    constructor
    · rintro ⟨o, ⟨record, ⟨hmem, hdue⟩, rfl⟩, rfl⟩
      obtain ⟨j, hj⟩ := List.mem_iff_getElem?.mp hmem
      exact ⟨j, record, hj, hdue, by rw [hat j record hj]⟩
    · rintro ⟨j, record, hj, hdue, rfl⟩
      exact ⟨j, ⟨record, ⟨List.mem_of_getElem? hj, hdue⟩, hat j record hj⟩, rfl⟩

/-- Removals that all found their index. -/
theorem eraseAll_eq_ok {message : CoreError} {indices : List ℕ}
    {items remaining : List WorldMapItem}
    (h : indices.foldlM (fun (remaining : List WorldMapItem) index =>
      if remaining.length ≤ index then Except.error message
      else .ok (remaining.eraseIdx index)) items = .ok remaining) :
    remaining = indices.foldl List.eraseIdx items := by
  induction indices generalizing items with
  | nil =>
    cases h
    rfl
  | cons index indices ih =>
    rw [List.foldlM_cons] at h
    split at h
    · cases h
    · exact ih h

/-- What an expiry leaves on one tile. -/
theorem Aligned.expireTile (h : m.Aligned q) {map next : WorldMap}
    (hitems : map.itemsAt q = m.map.itemsAt q) (hrun : m.expireTile nowTick map q = .ok next) :
    ((next.itemsAt q).map some = m.sourcePart q ++ ((recordsAt m.runtimeTileItems q).filter
      fun record => !record.isDue nowTick).map fun record =>
        some (runtimeRecordToWorldMapItem record)) ∧
    ∀ q', q' ≠ q → next.itemsAt q' = map.itemsAt q' := by
  unfold SharedNativeMap.expireTile at hrun
  split at hrun
  · cases hrun
  · next items htile =>
    obtain ⟨remaining, hremaining, hroom⟩ := Fallible.except_bind_eq_ok.mp hrun
    have hnext := setTileItems_itemsAt hroom
    refine ⟨?_, fun q' hq' => by rw [hnext, if_neg (Ne.symm hq')]⟩
    have hlist : items = m.map.itemsAt q := by rw [← hitems, WorldMap.itemsAt_eq htile]
    have hstart : items.length - m.runtimeCount q = (m.sourcePart q).length := by
      rw [hlist, h.length_sourcePart]
      omega
    rw [hstart] at hremaining
    obtain ⟨hdescending, hmem⟩ := doomedIndices_spec h.ordinals nowTick (m.sourcePart q).length
    rw [hnext, if_pos rfl, eraseAll_eq_ok hremaining, Indices.foldl_eraseIdx hdescending, hlist,
      ← Indices.keep_map, h.items, Indices.keep_append, Indices.keep_map]
    congr 1
    · apply Indices.keep_all
      intro i hi
      rw [decide_eq_true_eq, hmem]
      rintro ⟨j, -, -, -, rfl⟩
      omega
    · congr 1
      apply Indices.keep_eq_filter
      intro i record hi
      rw [Bool.eq_iff_iff, decide_eq_true_eq, Bool.not_eq_true', ← Bool.not_eq_true, not_iff_not,
        hmem]
      constructor
      · rintro ⟨j, record', hj, hdue, hij⟩
        have hij : i = j := by omega
        subst hij
        rw [hi] at hj
        cases hj
        exact hdue
      · intro hdue
        exact ⟨i, record, hi, hdue, by omega⟩

/-- The tiles of an expiry, one after the other. -/
theorem expireTiles (h : ∀ q, m.Aligned q) {positions : List Position} (hnodup : positions.Nodup)
    {map next : WorldMap} (hitems : ∀ q ∈ positions, map.itemsAt q = m.map.itemsAt q)
    (hrun : positions.foldlM (m.expireTile nowTick) map = .ok next) (q : Position) :
    if q ∈ positions then
      (next.itemsAt q).map some = m.sourcePart q ++ ((recordsAt m.runtimeTileItems q).filter
        fun record => !record.isDue nowTick).map fun record =>
          some (runtimeRecordToWorldMapItem record)
    else next.itemsAt q = map.itemsAt q := by
  induction positions generalizing map with
  | nil =>
    cases hrun
    simp
  | cons p positions ih =>
    obtain ⟨hout, hnodup⟩ := List.nodup_cons.mp hnodup
    rw [List.foldlM_cons] at hrun
    obtain ⟨step, hstep, hrun⟩ := Fallible.except_bind_eq_ok.mp hrun
    obtain ⟨hhere, hothers⟩ := (h p).expireTile (hitems p List.mem_cons_self) hstep
    have hsame : ∀ r ∈ positions, step.itemsAt r = m.map.itemsAt r := fun r hr => by
      rw [hothers r fun heq => hout (heq ▸ hr)]
      exact hitems r (List.mem_cons_of_mem p hr)
    have hrest := ih hnodup hsame hrun
    by_cases hp : q = p
    · subst hp
      rw [if_neg hout] at hrest
      rw [if_pos List.mem_cons_self, hrest]
      exact hhere
    · simp only [List.mem_cons, hp, false_or]
      split
      · next hq =>
        rw [if_pos hq] at hrest
        exact hrest
      · next hq =>
        rw [if_neg hq] at hrest
        rw [hrest, hothers q hp]

/-- **An expiry from the top** leaves every tile aligned. -/
theorem Aligned.expired (h : ∀ q, m.Aligned q) (htop : m.ExpiresFromTop nowTick)
    {nextMap : WorldMap}
    (hrun : (m.expiredPositions nowTick).foldlM (m.expireTile nowTick) m.map = .ok nextMap)
    (hm' : m' = { m with
      map := nextMap
      runtimeTileItems := m.runtimeTileItems.filter fun record => !record.isDue nowTick
      revision := m.revision + 1 }) (q : Position) : m'.Aligned q := by
  subst hm'
  have hrecords : recordsAt (m.runtimeTileItems.filter fun record => !record.isDue nowTick) q =
      (recordsAt m.runtimeTileItems q).filter fun record => !record.isDue nowTick :=
    recordsAt_filter _ _ _
  have hnodup : (m.expiredPositions nowTick).Nodup := nodup_elements _
  have htile := expireTiles h hnodup (fun _ _ => rfl) hrun q
  constructor
  · rw [hrecords]
    have hprefix := (filter_isPrefix_of_top (htop q)).map RuntimeMapItemRecord.ordinal
    rw [(h q).ordinals] at hprefix
    have htake := List.prefix_iff_eq_take.mp hprefix
    rw [List.length_map] at htake
    rw [htake, List.take_range, Nat.min_eq_left]
    exact List.length_filter_le _ _
  · show (nextMap.itemsAt q).map some = m.sourcePart q ++ _
    rw [hrecords]
    split at htile
    · exact htile
    · next hq =>
      have hstays : (recordsAt m.runtimeTileItems q).filter (fun record =>
          !record.isDue nowTick) = recordsAt m.runtimeTileItems q := by
        rw [List.filter_eq_self]
        intro record hrecord
        obtain ⟨hmem, hposition⟩ := List.mem_filter.mp hrecord
        by_contra hdue
        exact hq (mem_expiredPositions.mpr
          ⟨record, hmem, by simpa using hdue, by simpa using hposition⟩)
      rw [hstays, htile]
      exact (h q).items

end SharedNativeMap

/-! ### The tables of the database -/

/-- The database holds the tables of the map, in any order. -/
structure EngineDatabase.Holds (db : EngineDatabase) (m : SharedNativeMap) : Prop where
  journal : db.mapItemRemovalJournal.Perm m.removedSourceItems.toList
  overrides : db.mapItemCountOverrides.Perm m.countOverrides
  registry : db.runtimeMapItems.Perm
    (m.runtimeTileItems.map fun record => (m.sourceRevision, record))

namespace EngineDatabase

variable {db db' : EngineDatabase} {m : SharedNativeMap} {p : ℕ} {e : PlayerEquipment}
  {cs : PlayerContainers}

/-- The tables of the map are the same. -/
structure SameMapTables (db db' : EngineDatabase) : Prop where
  journal : db'.mapItemRemovalJournal = db.mapItemRemovalJournal
  overrides : db'.mapItemCountOverrides = db.mapItemCountOverrides
  registry : db'.runtimeMapItems = db.runtimeMapItems

theorem writeInventory_sameMapTables (h : db.writeInventory p e cs = .ok db') :
    db.SameMapTables db' := by
  obtain ⟨mid, hmid, h⟩ := Fallible.except_bind_eq_ok.mp h
  obtain ⟨-, table, rfl⟩ := writeEquipment_eq_ok hmid
  obtain ⟨-, -, containers, items, rfl⟩ := writeContainers_eq_ok h
  exact ⟨rfl, rfl, rfl⟩

/-- A registry that was written is within its bounds. -/
theorem sound_of_validate {items : List RuntimeMapItemRecord}
    (h : validateRuntimeMapItemRecords items = .ok ()) :
    items.length ≤ maxRuntimeMapItems ∧ ∀ item ∈ items, item.Sound := by
  unfold validateRuntimeMapItemRecords at h
  split_ifs at h with hlong
  refine ⟨not_lt.mp hlong, fun item hitem => ?_⟩
  obtain ⟨i, hi⟩ := List.mem_iff_getElem?.mp hitem
  have hat := Fallible.forM_eq_ok.mp h (item, i) (List.mem_zipIdx_iff_getElem?.mpr hi)
  simp only at hat
  split_ifs at hat with hserver hcount _ _ hchildren
  exact ⟨hserver, fun hzero => by omega, not_lt.mp hchildren⟩

/-- What a save of the registry leaves in the tables of the map. -/
theorem replaceRuntimeMapItems_eq_ok {revision : ℕ} {items : List RuntimeMapItemRecord}
    (h : db.replaceRuntimeMapItems revision items = .ok db') :
    validateRuntimeMapItemRecords items = .ok () ∧
      db'.mapItemRemovalJournal = db.mapItemRemovalJournal ∧
      db'.mapItemCountOverrides = db.mapItemCountOverrides ∧
      db'.runtimeMapItems = items.map fun item => (revision, item) := by
  obtain ⟨u, hvalid, h⟩ := Fallible.except_bind_eq_ok.mp h
  cases h
  exact ⟨hvalid, rfl, rfl, rfl⟩

theorem replacePlayerInventoryAndRuntimeMapItems_eq_ok {revision : ℕ}
    {items : List RuntimeMapItemRecord}
    (h : db.replacePlayerInventoryAndRuntimeMapItems p e cs revision items = .ok db') :
    validateRuntimeMapItemRecords items = .ok () ∧
      db'.mapItemRemovalJournal = db.mapItemRemovalJournal ∧
      db'.mapItemCountOverrides = db.mapItemCountOverrides ∧
      db'.runtimeMapItems = items.map fun item => (revision, item) := by
  obtain ⟨-, -, h⟩ := Fallible.except_bind_eq_ok.mp h
  obtain ⟨u, hvalid, h⟩ := Fallible.except_bind_eq_ok.mp h
  obtain ⟨written, hwritten, h⟩ := Fallible.except_bind_eq_ok.mp h
  have hsame := writeInventory_sameMapTables hwritten
  cases h
  exact ⟨hvalid, hsame.journal, hsame.overrides, rfl⟩

theorem replacePlayerInventoryAndMapItemRemovalJournal_eq_ok {journal : MapItemRemovalJournal}
    (h : db.replacePlayerInventoryAndMapItemRemovalJournal p e cs journal = .ok db') :
    db'.mapItemRemovalJournal = journal.removedItems ∧
      db'.mapItemCountOverrides = db.mapItemCountOverrides ∧
      db'.runtimeMapItems = db.runtimeMapItems := by
  obtain ⟨-, -, h⟩ := Fallible.except_bind_eq_ok.mp h
  obtain ⟨-, -, h⟩ := Fallible.except_bind_eq_ok.mp h
  obtain ⟨written, hwritten, h⟩ := Fallible.except_bind_eq_ok.mp h
  have hsame := writeInventory_sameMapTables hwritten
  cases h
  exact ⟨rfl, hsame.overrides, hsame.registry⟩

theorem replacePlayerInventoryAndMapItemState_eq_ok {journal : MapItemRemovalJournal}
    {overrides : List MapItemCountOverrideRecord}
    (h : db.replacePlayerInventoryAndMapItemState p e cs journal overrides = .ok db') :
    validateOverrides journal overrides = .ok () ∧
      db'.mapItemRemovalJournal = journal.removedItems ∧ db'.mapItemCountOverrides = overrides ∧
      db'.runtimeMapItems = db.runtimeMapItems := by
  obtain ⟨-, -, h⟩ := Fallible.except_bind_eq_ok.mp h
  obtain ⟨-, -, h⟩ := Fallible.except_bind_eq_ok.mp h
  obtain ⟨u, hvalid, h⟩ := Fallible.except_bind_eq_ok.mp h
  obtain ⟨written, hwritten, h⟩ := Fallible.except_bind_eq_ok.mp h
  have hsame := writeInventory_sameMapTables hwritten
  cases h
  exact ⟨hvalid, rfl, rfl, hsame.registry⟩

/-! #### Reading them back -/

theorem oneRevision_of_all {message : String} {revisions : List ℕ} {revision : ℕ}
    (hall : ∀ r ∈ revisions, r = revision) :
    oneRevision message revisions = .ok (if revisions = [] then none else some revision) := by
  cases revisions with
  | nil => rfl
  | cons r rest =>
    have hr : r = revision := hall r List.mem_cons_self
    subst hr
    have hrest : ∀ other ∈ rest, other = r := fun o ho => hall o (List.mem_cons_of_mem r ho)
    show (if ∀ other ∈ rest, other = r then _ else _) = _
    rw [if_pos hrest, if_neg (List.cons_ne_nil _ _)]

theorem loadMapItemRemovalJournal_eq_ok (h : m.Agrees)
    (hjournal : db.mapItemRemovalJournal.Perm m.removedSourceItems.toList) :
    ∃ journal, db.loadMapItemRemovalJournal = .ok journal ∧
      (journal = none ∧ m.removedSourceItems = ∅ ∨ ∃ removals,
        journal = some ⟨m.sourceRevision, removals⟩ ∧ removals ≠ [] ∧
          removals.Perm m.removedSourceItems.toList) := by
  set items := db.mapItemRemovalJournal.insertionSort identityRank with hitems
  have hperm : items.Perm m.removedSourceItems.toList :=
    (List.perm_insertionSort _ _).trans hjournal
  have hall : ∀ r ∈ items.map WorldMapItemSourceIdentity.mapRevision, r = m.sourceRevision := by
    intro r hr
    obtain ⟨identity, hidentity, rfl⟩ := List.mem_map.mp hr
    rw [hperm.mem_iff, Std.ExtTreeSet.mem_toList] at hidentity
    exact (h.removed identity hidentity).1
  have hload : db.loadMapItemRemovalJournal = .ok (if items = [] then none
      else some ⟨m.sourceRevision, items⟩) := by
    unfold loadMapItemRemovalJournal
    simp only [← hitems, oneRevision_of_all hall, bind, Except.bind, List.map_eq_nil_iff]
    split
    · rfl
    · rfl
  refine ⟨_, hload, ?_⟩
  split
  · next hnil =>
    rw [hnil] at hperm
    exact .inl ⟨rfl, Std.ExtTreeSet.toList_eq_nil_iff.mp hperm.symm.eq_nil⟩
  · next hsome => exact .inr ⟨items, rfl, hsome, hperm⟩

theorem loadMapItemCountOverrides_eq_ok (h : m.Agrees)
    (hoverrides : db.mapItemCountOverrides.Perm m.countOverrides) :
    ∃ overrides, db.loadMapItemCountOverrides = .ok overrides ∧
      (overrides = none ∧ m.sourceItemCountOverrides = ∅ ∨ ∃ records,
        overrides = some (m.sourceRevision, records) ∧ records.Perm m.countOverrides) := by
  set records := db.mapItemCountOverrides.insertionSort fun a b =>
    identityRank a.sourceIdentity b.sourceIdentity with hrecords
  have hperm : records.Perm m.countOverrides := (List.perm_insertionSort _ _).trans hoverrides
  have hreduces : ∀ r ∈ records, m.Reduces r.sourceIdentity r.remainingCount := by
    intro r hr
    obtain ⟨e, he, rfl⟩ := List.mem_map.mp (hperm.mem_iff.mp hr)
    exact h.reduced _ _ (Std.ExtTreeMap.mem_toList_iff_getElem?_eq_some.mp he)
  have hall : ∀ r ∈ records.map (·.sourceIdentity.mapRevision), r = m.sourceRevision := by
    intro r hr
    obtain ⟨record, hrecord, rfl⟩ := List.mem_map.mp hr
    exact (hreduces record hrecord).revision
  have hbounds : ¬∃ override ∈ records,
      ¬(1 ≤ override.remainingCount ∧ override.remainingCount ≤ maxItemStackCount) := by
    rintro ⟨record, hrecord, hout⟩
    exact hout ⟨(hreduces record hrecord).positive, (hreduces record hrecord).bounded⟩
  have hload : db.loadMapItemCountOverrides = .ok (if records = [] then none
      else some (m.sourceRevision, records)) := by
    unfold loadMapItemCountOverrides
    simp only [← hrecords, oneRevision_of_all hall, bind, Except.bind, List.map_eq_nil_iff,
      if_neg hbounds]
    split
    · rfl
    · rfl
  refine ⟨_, hload, ?_⟩
  split
  · next hnil =>
    rw [hnil] at hperm
    have hempty := List.map_eq_nil_iff.mp hperm.symm.eq_nil
    exact .inl ⟨rfl, Std.ExtTreeMap.toList_eq_nil_iff.mp hempty⟩
  · exact .inr ⟨records, rfl, hperm⟩

instance : Std.Total fun a b : ℕ × RuntimeMapItemRecord => runtimeRank a.2 b.2 :=
  ⟨fun a b => by
    rw [RuntimeItemTables.runtimeRank_iff, RuntimeItemTables.runtimeRank_iff]
    exact le_total _ _⟩

instance : IsTrans (ℕ × RuntimeMapItemRecord) fun a b => runtimeRank a.2 b.2 :=
  ⟨fun a b c => by
    rw [RuntimeItemTables.runtimeRank_iff, RuntimeItemTables.runtimeRank_iff,
      RuntimeItemTables.runtimeRank_iff]
    exact le_trans⟩

theorem loadRuntimeMapItems_eq_ok (h : m.Agrees) (hregistry : db.runtimeMapItems.Perm
      (m.runtimeTileItems.map fun record => (m.sourceRevision, record))) :
    ∃ runtime, db.loadRuntimeMapItems = .ok runtime ∧
      (runtime = none ∧ m.runtimeTileItems = [] ∨ ∃ records,
        runtime = some (m.sourceRevision, records) ∧ records.Perm m.runtimeTileItems ∧
          records.Pairwise runtimeRank) := by
  set rows := db.runtimeMapItems.insertionSort fun a b => runtimeRank a.2 b.2 with hrows
  have hperm : rows.Perm (m.runtimeTileItems.map fun record => (m.sourceRevision, record)) :=
    (List.perm_insertionSort _ _).trans hregistry
  have hitems : (rows.map Prod.snd).Perm m.runtimeTileItems := by
    have hsnd := hperm.map Prod.snd
    rwa [List.map_map, show Prod.snd ∘ (fun record => (m.sourceRevision, record)) =
      (id : RuntimeMapItemRecord → _) from rfl, List.map_id] at hsnd
  have hall : ∀ r ∈ rows.map Prod.fst, r = m.sourceRevision := by
    intro r hr
    obtain ⟨row, hrow, rfl⟩ := List.mem_map.mp hr
    obtain ⟨record, -, hrecord⟩ := List.mem_map.mp (hperm.mem_iff.mp hrow)
    rw [← hrecord]
  have hsound : ∀ item ∈ rows.map Prod.snd, item.Sound := fun item hitem =>
    h.records item (hitems.mem_iff.mp hitem)
  have hserver : ¬∃ item ∈ rows.map Prod.snd, item.serverId = 0 := fun hsome => by
    obtain ⟨item, hitem, hzero⟩ := hsome
    exact (hsound item hitem).serverId hzero
  have hcount : ¬∃ item ∈ rows.map Prod.snd, item.count = 0 := fun hsome => by
    obtain ⟨item, hitem, hzero⟩ := hsome
    exact (hsound item hitem).count hzero
  have hroom : ¬∃ item ∈ rows.map Prod.snd, maxRuntimeMapItemChildren < item.children.length :=
    fun hsome => by
      obtain ⟨item, hitem, hlong⟩ := hsome
      exact absurd (hsound item hitem).children (not_le.mpr hlong)
  have hbound : ¬maxRuntimeMapItems < (rows.map Prod.snd).length := by
    rw [hitems.length_eq]
    exact not_lt.mpr h.room
  have hload : db.loadRuntimeMapItems = .ok (if rows = [] then none
      else some (m.sourceRevision, rows.map Prod.snd)) := by
    unfold loadRuntimeMapItems
    simp only [← hrows, oneRevision_of_all hall, bind, Except.bind, List.map_eq_nil_iff,
      if_neg hserver, if_neg hcount, if_neg hbound, if_neg hroom]
    split
    · rfl
    · rfl
  refine ⟨_, hload, ?_⟩
  split
  · next hnil =>
    rw [hnil] at hitems
    exact .inl ⟨rfl, hitems.symm.eq_nil⟩
  · refine .inr ⟨_, rfl, hitems, List.pairwise_map.mpr ?_⟩
    exact List.pairwise_insertionSort (fun a b : ℕ × RuntimeMapItemRecord =>
      runtimeRank a.2 b.2) db.runtimeMapItems

/-- The three tables are read back. -/
theorem Holds.load (hdb : db.Holds m) (h : m.Agrees) : ∃ journal overrides runtime,
    db.loadMapItemRemovalJournal = .ok journal ∧ db.loadMapItemCountOverrides = .ok overrides ∧
      db.loadRuntimeMapItems = .ok runtime ∧ m.Stored journal overrides runtime := by
  obtain ⟨journal, hjournal, hj⟩ := loadMapItemRemovalJournal_eq_ok h hdb.journal
  obtain ⟨overrides, hoverrides, ho⟩ := loadMapItemCountOverrides_eq_ok h hdb.overrides
  obtain ⟨runtime, hruntime, hr⟩ := loadRuntimeMapItems_eq_ok h hdb.registry
  exact ⟨journal, overrides, runtime, hjournal, hoverrides, hruntime, hj, ho, hr⟩

end EngineDatabase

/-! ### Changes of the map -/

namespace SharedNativeMap

variable {m m' : SharedNativeMap} {q position : Position}

/-- A registry that was written, with tiles to match. -/
theorem Agrees.registryChanged (h : m.Agrees) {nextMap : WorldMap}
    {registry : List RuntimeMapItemRecord}
    (hvalid : EngineDatabase.validateRuntimeMapItemRecords registry = .ok ())
    (hm' : m' = { m with
      map := nextMap
      runtimeTileItems := registry
      revision := m.revision + 1 }) (haligned : ∀ q, m'.Aligned q) : m'.Agrees := by
  subst hm'
  obtain ⟨hroom, hsound⟩ := EngineDatabase.sound_of_validate hvalid
  exact {
    indexed := h.indexed
    aligned := haligned
    removed := h.removed
    reduced := fun identity count hcount => by
      obtain ⟨hrevision, hpresent, hpositive, hbounded, hless⟩ := h.reduced identity count hcount
      exact ⟨hrevision, hpresent, hpositive, hbounded, hless⟩
    records := hsound
    room := hroom }

/-- What a live item tells of the source. -/
theorem exists_source {index : ℕ} {item : WorldMapItem}
    (h : m.liveItem position index = some item) :
    ∃ sourceItem, (m.source.itemsAt position)[index]? = some sourceItem ∧
      item.count = (m.sourceItemCountOverrides[(⟨m.sourceRevision, position, index⟩ :
        WorldMapItemSourceIdentity)]?).elim sourceItem.count id := by
  obtain ⟨sourceItem, hsource, hitem⟩ := Option.map_eq_some_iff.mp h
  refine ⟨sourceItem, hsource, ?_⟩
  rw [← hitem]
  cases m.sourceItemCountOverrides[(⟨m.sourceRevision, position, index⟩ :
    WorldMapItemSourceIdentity)]? with
  | none => rfl
  | some count => rfl

/-- What is left of a source item is less than the source has. -/
theorem Agrees.count_le (h : m.Agrees) {index : ℕ} {item : WorldMapItem}
    (hlive : m.liveItem position index = some item) :
    ∃ sourceItem, (m.source.itemsAt position)[index]? = some sourceItem ∧
      item.count ≤ sourceItem.count := by
  obtain ⟨sourceItem, hsource, hcount⟩ := exists_source hlive
  refine ⟨sourceItem, hsource, ?_⟩
  cases hoverride : m.sourceItemCountOverrides[(⟨m.sourceRevision, position, index⟩ :
    WorldMapItemSourceIdentity)]? with
  | none =>
    rw [hoverride] at hcount
    exact hcount.le
  | some count =>
    rw [hoverride] at hcount
    obtain ⟨item', hitem', hless⟩ := (h.reduced _ _ hoverride).less
    cases hsource.symm.trans hitem'
    rw [hcount]
    exact hless.le

end SharedNativeMap

namespace SourceChange

variable {m m' : SharedNativeMap} {position : Position}

/-- A take of a source item leaves the source and the registry alone. -/
theorem frame {k index requested : ℕ} {item : WorldMapItem}
    (h : SourceChange m position k index item requested m') :
    m'.source = m.source ∧ m'.runtimeTileItems = m.runtimeTileItems := by
  cases h with
  | whole => exact ⟨rfl, rfl⟩
  | part => exact ⟨rfl, rfl⟩

/-- The items a take of a source item adds to the removed ones. -/
theorem removed_cases {k index requested : ℕ} {item : WorldMapItem}
    {key : WorldMapItemSourceIdentity} (hkey : key = ⟨m.sourceRevision, position, index⟩)
    (h : SourceChange m position k index item requested m')
    {identity : WorldMapItemSourceIdentity} (hidentity : identity ∈ m'.removedSourceItems) :
    identity ∈ m.removedSourceItems ∨ identity = key ∧ requested = item.count := by
  cases h with
  | whole hall =>
    rw [← hkey] at hidentity
    rcases Std.ExtTreeSet.mem_insert.mp hidentity with heq | hold
    · exact .inr ⟨(Std.LawfulEqOrd.eq_of_compare heq).symm, hall⟩
    · exact .inl hold
  | part => exact .inl hidentity

/-- The overrides a take of a source item leaves. -/
theorem override_cases {k index requested : ℕ} {item : WorldMapItem}
    {key : WorldMapItemSourceIdentity} (hkey : key = ⟨m.sourceRevision, position, index⟩)
    (h : SourceChange m position k index item requested m')
    {identity : WorldMapItemSourceIdentity} {count : ℕ}
    (hcount : m'.sourceItemCountOverrides[identity]? = some count) :
    (identity = key ∧ requested < item.count ∧ count = item.count - requested) ∨
      m.sourceItemCountOverrides[identity]? = some count ∧ (identity = key →
        requested = item.count ∧ (m.source.itemsAt position)[index]? = some item) := by
  cases h with
  | @whole nextMap indices overrides hall hindices hroom hoverrides =>
    right
    rw [← hkey] at hoverrides
    rcases hoverrides with ⟨rfl, hwhole⟩ | rfl
    · exact ⟨hcount, fun _ => ⟨hall, hwhole⟩⟩
    · change (m.sourceItemCountOverrides.erase key)[identity]? = some count at hcount
      rw [Std.ExtTreeMap.getElem?_erase] at hcount
      split at hcount
      · cases hcount
      · next hne =>
        exact ⟨hcount, fun heq => absurd (by rw [heq]; exact Std.ReflCmp.compare_self) hne⟩
  | part hless hroom =>
    rw [← hkey] at hcount
    change (m.sourceItemCountOverrides.insert key _)[identity]? = some count at hcount
    rw [Std.ExtTreeMap.getElem?_insert] at hcount
    split at hcount
    · next heq =>
      exact .inl ⟨(Std.LawfulEqOrd.eq_of_compare heq).symm, hless, (Option.some.inj hcount).symm⟩
    · next hne =>
      exact .inr ⟨hcount, fun heq => absurd (by rw [heq]; exact Std.ReflCmp.compare_self) hne⟩

end SourceChange

namespace SharedNativeMap

variable {m m' : SharedNativeMap} {position : Position}

/-- **A take of a source item** keeps the agreement. -/
theorem Agrees.sourceTaken (h : m.Agrees) {k index requested : ℕ} {item : WorldMapItem}
    (hindex : (m.sourceItemIndices[position]?.bind (·[k]?)) = some index)
    (hitem : (m.map.itemsAt position)[k]? = some item)
    (hpresent : ⟨m.sourceRevision, position, index⟩ ∉ m.removedSourceItems)
    (hunits : 0 < requested ∧ item.count ≤ maxItemStackCount)
    (hchange : SourceChange m position k index item requested m') : m'.Agrees := by
  have hk : (m.indicesAt position)[k]? = some index := by
    obtain ⟨indices, hindices, hat⟩ := Option.bind_eq_some_iff.mp hindex
    rw [indicesAt, hindices, Option.getD_some]
    exact hat
  obtain ⟨-, hlive⟩ := (h.aligned position).sourceItem hk hitem
  obtain ⟨sourceItem, hsource, hle⟩ := h.count_le hlive
  obtain ⟨hsame, hregistry⟩ := hchange.frame
  have hrevision : m'.sourceRevision = m.sourceRevision := congrArg WorldMap.sourceRevision hsame
  obtain ⟨key, hkey⟩ : ∃ key : WorldMapItemSourceIdentity,
    key = ⟨m.sourceRevision, position, index⟩ := ⟨_, rfl⟩
  have hplace : key.mapRevision = m.sourceRevision ∧ key.position = position ∧
      key.itemIndex = index := by
    generalize m.sourceRevision = revision at hkey
    rw [hkey]
    exact ⟨rfl, rfl, rfl⟩
  rw [← hkey] at hpresent
  exact {
    indexed := fun q => (h.indexed q).sourceChange hindex hchange
    aligned := fun q => (h.aligned q).sourceChange (h.aligned position) (h.indexed position)
      hindex hitem hchange
    removed := fun identity hidentity => by
      rw [hrevision, hsame]
      rcases hchange.removed_cases hkey hidentity with hold | ⟨rfl, -⟩
      · exact h.removed identity hold
      · rw [hplace.1, hplace.2.1, hplace.2.2]
        exact ⟨rfl, (List.getElem?_eq_some_iff.mp hsource).1⟩
    reduced := fun identity count hcount => by
      rcases hchange.override_cases hkey hcount with ⟨rfl, hless, rfl⟩ | ⟨hold, hwhole⟩
      · refine ⟨by rw [hrevision, hplace.1], fun hin => ?_, by omega, by omega, ?_⟩
        · rcases hchange.removed_cases hkey hin with hin | ⟨-, hall⟩
          · exact hpresent hin
          · omega
        · rw [hsame, hplace.2.1, hplace.2.2]
          exact ⟨sourceItem, hsource, by omega⟩
      · obtain ⟨hrev, hstays, hpositive, hbounded, hsmall⟩ := h.reduced identity count hold
        refine ⟨hrev.trans hrevision.symm, fun hin => ?_, hpositive, hbounded, ?_⟩
        · rcases hchange.removed_cases hkey hin with hin | ⟨rfl, hall⟩
          · exact hstays hin
          · -- an item with an override is not the one the source has
            obtain ⟨-, hwhole⟩ := hwhole rfl
            obtain ⟨item', hitem', hcounts⟩ := exists_source hlive
            rw [← hkey, hold] at hcounts
            rw [hplace.2.1, hplace.2.2, hwhole] at hsmall
            obtain ⟨item', hitem', hless⟩ := hsmall
            cases hitem'
            rw [hcounts] at hless
            exact lt_irrefl _ hless
        · rw [hsame]
          exact hsmall
    records := fun record hrecord => h.records record (hregistry ▸ hrecord)
    room := by
      rw [hregistry]
      exact h.room }

end SharedNativeMap

/-- The tables of the map agree, and the database holds them. -/
structure HostState.Kept (s : HostState) : Prop where
  agrees : s.map.Agrees
  holds : s.database.Holds s.map

/-- What is left over when a corpse is written as a record. -/
theorem Host.corpseItem_record {position : Position} {ordinal corpseServerId : ℕ}
    {leftovers : List (ℕ × ℕ)} {despawnTick : Option ℕ} {record : RuntimeMapItemRecord}
    (h : runtimeWorldMapItemToRecord position ordinal (Host.corpseItem corpseServerId leftovers)
      despawnTick = some record) :
    record.position = position ∧ record.ordinal = ordinal ∧
      runtimeRecordToWorldMapItem record = Host.corpseItem corpseServerId leftovers := by
  unfold runtimeWorldMapItemToRecord at h
  split_ifs at h
  cases h
  refine ⟨rfl, rfl, ?_⟩
  unfold runtimeRecordToWorldMapItem Host.corpseItem plainMapItem
  simp only [List.map_map]
  rfl

namespace MapChange

open Host

/-- What a change has to be for the tables to agree after it.  Only corpses are placed; an expiry
asks for the due entries to lie on top of their tiles. -/
def Sound (m : SharedNativeMap) : MapChange → Prop
  | .place _ item _ => ∃ corpseServerId leftovers, item = corpseItem corpseServerId leftovers
  | .expire nowTick => m.ExpiresFromTop nowTick
  | _ => True

variable {s s' : HostState}

/-- What an operation leaves that only writes when it succeeds. -/
theorem kept_of {α : Type} {m : HostM α} (hs : s.Kept) (hatomic : AtomicAt m s)
    (hok : ∀ a s', m s = (.ok a, s') → s'.Kept ∧ s'.map.source = s.map.source) :
    ((do let _ ← m : HostM Unit) s).2.Kept ∧
      ((do let _ ← m : HostM Unit) s).2.map.source = s.map.source := by
  rw [bind_apply]
  rcases hm : m s with ⟨e | a, s'⟩
  · rw [hatomic e s' hm]
    exact ⟨hs, rfl⟩
  · exact hok a s' hm

/-- A registry that was written with the inventory of a player, or alone. -/
theorem kept_of_registry (hs : s.Kept) {nextMap : WorldMap} {registry : List RuntimeMapItemRecord}
    (hmap : s'.map = { s.map with
      map := nextMap
      runtimeTileItems := registry
      revision := s.map.revision + 1 })
    (hsaved : EngineDatabase.validateRuntimeMapItemRecords registry = .ok () ∧
      s'.database.mapItemRemovalJournal = s.database.mapItemRemovalJournal ∧
      s'.database.mapItemCountOverrides = s.database.mapItemCountOverrides ∧
      s'.database.runtimeMapItems = registry.map fun item => (s.map.sourceRevision, item))
    (haligned : ∀ q, s'.map.Aligned q) : s'.Kept ∧ s'.map.source = s.map.source := by
  obtain ⟨hvalid, hjournal, hoverrides, hregistry⟩ := hsaved
  have hsame : s'.map.source = s.map.source := by rw [hmap]
  have hrevision : s'.map.sourceRevision = s.map.sourceRevision :=
    congrArg WorldMap.sourceRevision hsame
  refine ⟨⟨hs.agrees.registryChanged hvalid hmap haligned, ?_, ?_, ?_⟩, hsame⟩
  · rw [hjournal, hmap]
    exact hs.holds.journal
  · rw [hoverrides, hmap]
    exact hs.holds.overrides
  · rw [hregistry, hrevision, hmap]

theorem kept_of_source (hs : s.Kept) {p k requested index : ℕ} {position : Position}
    {destination : PlayerGroundDropSource} {runtimeItem : WorldMapItem} {item : ItemInstance}
    {e e' : PlayerEquipment} {cs cs' : PlayerContainers}
    (h : SourceTaken p position k requested destination s s' index runtimeItem item e cs e' cs') :
    s'.Kept ∧ s'.map.source = s.map.source := by
  obtain ⟨hsame, hregistry⟩ := h.map.frame
  have hrevision : s'.map.sourceRevision = s.map.sourceRevision :=
    congrArg WorldMap.sourceRevision hsame
  refine ⟨⟨hs.agrees.sourceTaken h.indexed h.runtime h.present ⟨h.units.1, h.units.2.2⟩ h.map, ?_⟩,
    hsame⟩
  rcases h.saved with ⟨hsaved, hoverrides⟩ | hsaved
  · obtain ⟨hjournal, hkept, htable⟩ :=
      EngineDatabase.replacePlayerInventoryAndMapItemRemovalJournal_eq_ok hsaved
    refine ⟨by rw [hjournal]; rfl, ?_, ?_⟩
    · rw [hkept, SharedNativeMap.countOverrides, hoverrides]
      exact hs.holds.overrides
    · rw [htable, hregistry, hrevision]
      exact hs.holds.registry
  · obtain ⟨-, hjournal, hoverrides, htable⟩ :=
      EngineDatabase.replacePlayerInventoryAndMapItemState_eq_ok hsaved
    refine ⟨by rw [hjournal]; rfl, by rw [hoverrides], ?_⟩
    rw [htable, hregistry, hrevision]
    exact hs.holds.registry

/-- **Whatever the server does to the map keeps the tables in agreement, and in the database.** -/
theorem perform_kept (hw : s.world.HoldersRegistered) (hs : s.Kept) {change : MapChange}
    (hsound : change.Sound s.map) :
    (change.perform s).2.Kept ∧ (change.perform s).2.map.source = s.map.source := by
  cases change with
  | drop p source target count weights =>
    refine kept_of hs (movePlayerStackToGround_atomic source target count weights) ?_
    intro out s' hrun
    obtain ⟨e, cs, e', cs', nextMap, h⟩ := movePlayerStackToGround_eq_ok hrun
    have hsaved := h.saved
    rw [h.map] at hsaved
    refine kept_of_registry hs h.map
      (EngineDatabase.replacePlayerInventoryAndRuntimeMapItems_eq_ok hsaved) fun q => ?_
    exact (hs.agrees.aligned q).placed rfl rfl h.room h.map
  | pickUp p position itemIndex childIndex count destination weights =>
    refine kept_of hs (moveRuntimeItemToInventory_atomic hw position itemIndex childIndex count
      destination weights) ?_
    intro out s' hrun
    obtain ⟨_, _, _, _, e, cs, e', cs', nextMap, h⟩ := moveRuntimeItemToInventory_eq_ok hw hrun
    refine kept_of_registry hs h.map
      (EngineDatabase.replacePlayerInventoryAndRuntimeMapItems_eq_ok h.saved) fun q => ?_
    exact (hs.agrees.aligned q).taken (hs.agrees.aligned position) h.tile h.tail h.record h.item
      h.took h.registry h.room h.map
  | equip p position itemIndex slot =>
    refine kept_of hs (moveSourceItemToEmptyEquipment_atomic hw) ?_
    intro out s' hrun
    obtain ⟨n, index, item, e, cs, e', cs', h⟩ := moveSourceItemToEmptyEquipment_eq_ok hw hrun
    exact kept_of_source hs h
  | equipStack p position itemIndex count slot =>
    refine kept_of hs (moveSourceItemStackToEquipment_atomic hw) ?_
    intro out s' hrun
    obtain ⟨index, item, e, cs, e', cs', h⟩ := moveSourceItemStackToEquipment_eq_ok hw hrun
    exact kept_of_source hs h
  | store p position itemIndex containerId =>
    refine kept_of hs (moveSourceItemToTopLevelContainer_atomic hw) ?_
    intro out s' hrun
    obtain ⟨n, index, item, e, cs, e', cs', h⟩ := moveSourceItemToTopLevelContainer_eq_ok hw hrun
    exact kept_of_source hs h
  | storeStack p position itemIndex count containerId =>
    refine kept_of hs (moveSourceItemStackToTopLevelContainer_atomic hw) ?_
    intro out s' hrun
    obtain ⟨index, item, e, cs, e', cs', h⟩ := moveSourceItemStackToTopLevelContainer_eq_ok hw hrun
    exact kept_of_source hs h
  | place position item despawnTick =>
    refine kept_of hs (addRuntimeTileItem_atomic item despawnTick) ?_
    intro revision s' hrun
    obtain ⟨record, nextMap, -, hrecord, hroom, hmap, hsaved, -⟩ := addRuntimeTileItem_eq_ok hrun
    obtain ⟨corpseServerId, leftovers, rfl⟩ := hsound
    obtain ⟨hposition, hordinal, hitem⟩ := corpseItem_record hrecord
    rw [hmap] at hsaved
    refine kept_of_registry hs hmap (EngineDatabase.replaceRuntimeMapItems_eq_ok hsaved) fun q => ?_
    rw [← hitem] at hroom
    exact (hs.agrees.aligned q).placed hposition hordinal hroom hmap
  | expire nowTick =>
    refine kept_of hs (removeExpiredRuntimeItems_atomic nowTick) ?_
    intro positions s' hrun
    rcases removeExpiredRuntimeItems_eq_ok hrun with rfl | ⟨nextMap, hexpire, hmap, hsaved, -⟩
    · exact ⟨hs, rfl⟩
    · rw [hmap] at hsaved
      refine kept_of_registry hs hmap (EngineDatabase.replaceRuntimeMapItems_eq_ok hsaved) ?_
      exact SharedNativeMap.Aligned.expired hs.agrees.aligned hsound hexpire hmap

end MapChange

end ForgottenEngine
