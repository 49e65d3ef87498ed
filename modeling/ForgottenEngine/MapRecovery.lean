import ForgottenEngine.MapAlignment
import ForgottenEngine.SourceRemovals
import ForgottenEngine.Library.PartialFold

/-!
# Recovering the shared map

A server that starts reads the journal, the count overrides and the registry of the last run, and
rebuilds the map from the source: it writes the remaining counts into a copy of the source, removes
the items of the journal from it, and puts the items of the registry on top.

* `Agrees` — what holds of the tables of a running map;
* `Restorable` — the journal is read under the revision it was written under, which the map with
  the remaining counts no longer has, and every entry of the registry lies on a tile;
* `Agrees.recover_cases` — **a map is rebuilt tile by tile as it was, or, when it is not
  `Restorable`, not at all**.
-/

namespace ForgottenEngine

/-- What the registry asks of an entry. -/
structure RuntimeMapItemRecord.Sound (record : RuntimeMapItemRecord) : Prop where
  serverId : record.serverId ≠ 0
  count : record.count ≠ 0
  children : record.children.length ≤ maxRuntimeMapItemChildren

/-- A set is listed without repetition. -/
theorem nodup_elements {κ : Type} [Ord κ] [Std.TransOrd κ] (s : BTreeSet κ) : s.toList.Nodup :=
  Std.ExtTreeSet.distinct_toList.imp fun hne heq => hne (by
    rw [heq]
    exact Std.ReflCmp.compare_self)

namespace SharedNativeMap

/-! ### What the tables say -/

/-- The count is what remains of a source item that is still there. -/
structure Reduces (m : SharedNativeMap) (identity : WorldMapItemSourceIdentity) (count : ℕ) :
    Prop where
  revision : identity.mapRevision = m.sourceRevision
  present : identity ∉ m.removedSourceItems
  positive : 1 ≤ count
  bounded : count ≤ maxItemStackCount
  less : ∃ item, (m.source.itemsAt identity.position)[identity.itemIndex]? = some item ∧
    count < item.count

/-- The tables of the map agree with its tiles and with each other. -/
structure Agrees (m : SharedNativeMap) : Prop where
  indexed : ∀ q, m.Indexed q
  aligned : ∀ q, m.Aligned q
  removed : ∀ identity ∈ m.removedSourceItems, identity.mapRevision = m.sourceRevision ∧
    identity.itemIndex < (m.source.itemsAt identity.position).length
  reduced : ∀ identity count, m.sourceItemCountOverrides[identity]? = some count →
    m.Reduces identity count
  records : ∀ record ∈ m.runtimeTileItems, record.Sound
  room : m.runtimeTileItems.length ≤ maxRuntimeMapItems

/-- The journal, the overrides and the registry of the map, as they are read back: in any order. -/
structure Stored (m : SharedNativeMap) (journal : Option MapItemRemovalJournal)
    (countOverrides : Option (ℕ × List MapItemCountOverrideRecord))
    (runtimeItems : Option (ℕ × List RuntimeMapItemRecord)) : Prop where
  journal : journal = none ∧ m.removedSourceItems = ∅ ∨ ∃ removals,
    journal = some ⟨m.sourceRevision, removals⟩ ∧ removals ≠ [] ∧
      removals.Perm m.removedSourceItems.toList
  overrides : countOverrides = none ∧ m.sourceItemCountOverrides = ∅ ∨ ∃ records,
    countOverrides = some (m.sourceRevision, records) ∧ records.Perm m.countOverrides
  registry : runtimeItems = none ∧ m.runtimeTileItems = [] ∨ ∃ records,
    runtimeItems = some (m.sourceRevision, records) ∧ records.Perm m.runtimeTileItems ∧
      records.Pairwise EngineDatabase.runtimeRank

variable {m : SharedNativeMap} {q : Position}

/-! ### Overrides -/

theorem admitOverrides {removed : BTreeSet WorldMapItemSourceIdentity}
    (hremoved : removed = m.removedSourceItems) (records : List MapItemCountOverrideRecord)
    (hreduces : ∀ r ∈ records, m.Reduces r.sourceIdentity r.remainingCount)
    (hdistinct : records.Pairwise fun a b => a.sourceIdentity ≠ b.sourceIdentity)
    (entries : BTreeMap WorldMapItemSourceIdentity ℕ)
    (hfresh : ∀ r ∈ records, entries[r.sourceIdentity]? = none) :
    records.foldlM (admitOverride m.source removed m.sourceRevision) entries =
      .ok (records.foldl (fun entries r => entries.insert r.sourceIdentity r.remainingCount)
        entries) := by
  induction records generalizing entries with
  | nil => rfl
  | cons r records ih =>
    obtain ⟨hhead, hdistinct⟩ := List.pairwise_cons.mp hdistinct
    have hr := hreduces r List.mem_cons_self
    obtain ⟨item, hitem, hless⟩ := hr.less
    have hadmitted : admitOverride m.source removed m.sourceRevision entries r =
        .ok (entries.insert r.sourceIdentity r.remainingCount) := by
      rw [WorldMap.itemsAt_getElem?] at hitem
      have hout : ¬(r.sourceIdentity.mapRevision ≠ m.sourceRevision ∨
          r.sourceIdentity ∈ removed) := by
        rw [hremoved]
        exact not_or.mpr ⟨not_not.mpr hr.revision, hr.present⟩
      have hnew : ¬(item.count ≤ r.remainingCount ∨ entries[r.sourceIdentity]?.isSome) := by
        rw [hfresh r List.mem_cons_self]
        simpa using hless
      unfold admitOverride
      simp only [if_neg hout, hitem, if_neg hnew]
    rw [List.foldlM_cons, hadmitted]
    refine ih (fun s hs => hreduces s (List.mem_cons_of_mem r hs)) hdistinct _ fun s hs => ?_
    rw [Std.ExtTreeMap.getElem?_insert, if_neg]
    · exact hfresh s (List.mem_cons_of_mem r hs)
    · intro heq
      exact hhead s hs (Std.LawfulEqOrd.eq_of_compare heq)

/-- The overrides come back. -/
theorem Agrees.recoverOverrides (h : m.Agrees) {journal : Option MapItemRemovalJournal}
    {countOverrides : Option (ℕ × List MapItemCountOverrideRecord)}
    {runtimeItems : Option (ℕ × List RuntimeMapItemRecord)}
    (hstored : m.Stored journal countOverrides runtimeItems) :
    SharedNativeMap.recoverOverrides m.source m.removedSourceItems countOverrides =
      .ok m.sourceItemCountOverrides := by
  rcases hstored.overrides with ⟨rfl, hnone⟩ | ⟨records, rfl, hperm⟩
  · rw [hnone]
    rfl
  · have hmem : ∀ r, r ∈ records ↔
        m.sourceItemCountOverrides[r.sourceIdentity]? = some r.remainingCount := by
      intro r
      rw [hperm.mem_iff, SharedNativeMap.countOverrides, overrideRecords, List.mem_map,
        ← Std.ExtTreeMap.mem_toList_iff_getElem?_eq_some]
      constructor
      · rintro ⟨e, he, rfl⟩
        exact he
      · intro hr
        exact ⟨_, hr, rfl⟩
    have hdistinct : records.Pairwise fun a b => a.sourceIdentity ≠ b.sourceIdentity := by
      have hnodup : (m.countOverrides.map (·.sourceIdentity)).Nodup := by
        rw [SharedNativeMap.countOverrides, overrideRecords, List.map_map]
        exact OrderedMap.nodup_keys m.sourceItemCountOverrides
      exact List.pairwise_map.mp ((hperm.map _).nodup_iff.mpr hnodup)
    have hadmitted := admitOverrides (m := m) rfl records
      (fun r hr => h.reduced _ _ ((hmem r).mp hr)) hdistinct ∅ fun r _ => by simp
    have hsame : records.foldl (fun entries r =>
        entries.insert r.sourceIdentity r.remainingCount) ∅ = m.sourceItemCountOverrides := by
      apply Std.ExtTreeMap.ext_getElem?
      intro identity
      by_cases hin : ∃ r ∈ records, r.sourceIdentity = identity
      · obtain ⟨r, hr, rfl⟩ := hin
        rw [OrderedMap.lookup_foldl_of_mem hdistinct hr, (hmem r).mp hr]
      · have hout : ∀ r ∈ records, r.sourceIdentity ≠ identity := fun r hr heq => hin ⟨r, hr, heq⟩
        rw [OrderedMap.lookup_foldl_of_ne hout, Std.ExtTreeMap.getElem?_empty]
        cases hlive : m.sourceItemCountOverrides[identity]? with
        | none => rfl
        | some count => exact absurd rfl (hout ⟨identity, count⟩ ((hmem _).mpr hlive))
    have hrevision : ¬(m.sourceRevision ≠ m.source.sourceRevision) := not_not.mpr rfl
    show (if _ then _ else _) = _
    rw [if_neg hrevision, hadmitted, hsame]

theorem find?_toList (overrides : BTreeMap WorldMapItemSourceIdentity ℕ)
    (identity : WorldMapItemSourceIdentity) :
    (overrides.toList.find? fun e => e.1 = identity).map Prod.snd = overrides[identity]? := by
  cases hfind : overrides.toList.find? fun e => e.1 = identity with
  | some e =>
    have hkey : e.1 = identity := by simpa using List.find?_some hfind
    rw [Option.map_some, ← hkey]
    exact (Std.ExtTreeMap.mem_toList_iff_getElem?_eq_some.mp (List.mem_of_find?_eq_some hfind)).symm
  | none =>
    cases hlive : overrides[identity]? with
    | none => rfl
    | some count =>
      have hmem := Std.ExtTreeMap.mem_toList_iff_getElem?_eq_some.mpr hlive
      exact absurd (List.find?_eq_none.mp hfind _ hmem) (by simp)

theorem applyOverride_eq_ok {map : WorldMap} {entry : WorldMapItemSourceIdentity × ℕ}
    {item : WorldMapItem} (hbound : entry.2 ≤ u8Max)
    (hitem : (map.itemsAt entry.1.position)[entry.1.itemIndex]? = some item) :
    ∃ map', applyOverride map entry = .ok map' ∧ ∀ q i, (map'.itemsAt q)[i]? =
      ((map.itemsAt q)[i]?).map fun item =>
        if entry.1.position = q ∧ entry.1.itemIndex = i then { item with count := entry.2 }
        else item := by
  have htile : map.tileItemsAt entry.1.position = some (map.itemsAt entry.1.position) := by
    cases htile : map.tileItemsAt entry.1.position with
    | some items => rw [WorldMap.itemsAt_eq htile]
    | none =>
      rw [WorldMap.itemsAt_getElem?, htile] at hitem
      cases hitem
  have hroom : ((map.itemsAt entry.1.position).modify entry.1.itemIndex fun item =>
      { item with count := entry.2 }).length ≤ maxWorldMapItemsPerTile := by
    rw [List.length_modify]
    exact map.itemsAt_length _
  refine ⟨map.putTileItems entry.1.position _ hroom, ?_, fun q i => ?_⟩
  · unfold applyOverride
    simp only [htile, if_neg (not_lt.mpr hbound)]
    exact WorldMap.setTileItems_eq_ok.mpr ⟨hroom, rfl⟩
  · rw [WorldMap.putTileItems_itemsAt]
    by_cases hq : entry.1.position = q
    · subst hq
      rw [if_pos rfl, List.getElem?_modify]
      by_cases hi : entry.1.itemIndex = i
      · simp [hi]
      · simp [hi]
    · simp [hq]

theorem applyOverrides (revision : ℕ) (entries : List (WorldMapItemSourceIdentity × ℕ))
    (hdistinct : (entries.map Prod.fst).Nodup) (map : WorldMap)
    (hvalid : ∀ e ∈ entries, e.1.mapRevision = revision ∧ e.2 ≤ u8Max ∧
      ∃ item, (map.itemsAt e.1.position)[e.1.itemIndex]? = some item) :
    ∃ map', entries.foldlM applyOverride map = .ok map' ∧ ∀ q i, (map'.itemsAt q)[i]? =
      ((map.itemsAt q)[i]?).map fun item =>
        ((entries.find? fun e => e.1 = ⟨revision, q, i⟩).map Prod.snd).elim item
          fun count => { item with count } := by
  induction entries generalizing map with
  | nil => exact ⟨map, rfl, fun q i => by simp⟩
  | cons e entries ih =>
    obtain ⟨hout, hdistinct⟩ := List.nodup_cons.mp hdistinct
    obtain ⟨hrevision, hbound, item, hitem⟩ := hvalid e List.mem_cons_self
    obtain ⟨next, hnext, hitems⟩ := applyOverride_eq_ok hbound hitem
    obtain ⟨map', hrest, hitems'⟩ := ih hdistinct next fun f hf => by
      obtain ⟨hrevision', hbound', item', hitem'⟩ := hvalid f (List.mem_cons_of_mem e hf)
      refine ⟨hrevision', hbound', ?_⟩
      rw [hitems, hitem']
      exact ⟨_, rfl⟩
    refine ⟨map', by rw [List.foldlM_cons, hnext]; exact hrest, fun q i => ?_⟩
    rw [hitems', hitems, Option.map_map]
    congr 1
    funext item'
    by_cases hhere : e.1.position = q ∧ e.1.itemIndex = i
    · have hkey : e.1 = ⟨revision, q, i⟩ := by
        obtain ⟨rfl, rfl⟩ := hhere
        rw [← hrevision]
      have hnone : entries.find? (fun f => f.1 = ⟨revision, q, i⟩) = none := by
        rw [List.find?_eq_none]
        intro f hf heq
        have heq : f.1 = ⟨revision, q, i⟩ := by simpa using heq
        exact hout (List.mem_map.mpr ⟨f, hf, heq.trans hkey.symm⟩)
      simp [hkey, hnone]
    · have hkey : e.1 ≠ ⟨revision, q, i⟩ := fun heq => hhere (by rw [heq]; exact ⟨rfl, rfl⟩)
      simp [hhere, hkey]

/-- The source with the counts that remain. -/
theorem Agrees.applyOverrides (h : m.Agrees) :
    ∃ map, m.sourceItemCountOverrides.toList.foldlM applyOverride m.source = .ok map ∧
      ∀ q i, (map.itemsAt q)[i]? = m.liveItem q i := by
  obtain ⟨map, hmap, hitems⟩ := SharedNativeMap.applyOverrides m.sourceRevision
    m.sourceItemCountOverrides.toList (OrderedMap.nodup_keys _) m.source fun e he => by
      have hr := h.reduced _ _ (Std.ExtTreeMap.mem_toList_iff_getElem?_eq_some.mp he)
      obtain ⟨item, hitem, -⟩ := hr.less
      exact ⟨hr.revision, hr.bounded.trans (by decide), item, hitem⟩
  refine ⟨map, hmap, fun q i => ?_⟩
  rw [hitems, find?_toList]
  rfl

/-! ### Removals -/

/-- The journal can be read back: nothing is removed, or the counts that remain leave the source its
revision. -/
def JournalReadable (m : SharedNativeMap) : Prop :=
  m.removedSourceItems = ∅ ∨ ∀ map, m.sourceItemCountOverrides.toList.foldlM applyOverride
    m.source = .ok map → map.sourceRevision = m.sourceRevision

theorem map_some_filterMap {α β : Type} {f : α → Option β} {xs : List α}
    (h : ∀ x ∈ xs, (f x).isSome) : (xs.filterMap f).map some = xs.map f := by
  induction xs with
  | nil => rfl
  | cons x xs ih =>
    obtain ⟨y, hy⟩ := Option.isSome_iff_exists.mp (h x List.mem_cons_self)
    rw [List.filterMap_cons_some hy, List.map_cons, List.map_cons, hy,
      ih fun z hz => h z (List.mem_cons_of_mem x hz)]

/-- The items a tile still shows, read off the source with the counts that remain. -/
theorem Agrees.sourcePart_eq (h : m.Agrees) {map : WorldMap}
    (hmap : ∀ q i, (map.itemsAt q)[i]? = m.liveItem q i) (q : Position) (p : ℕ → Bool)
    (hp : ∀ i, p i = true ↔ ⟨m.sourceRevision, q, i⟩ ∉ m.removedSourceItems) :
    (Indices.keep p (map.itemsAt q)).map some = m.sourcePart q := by
  have hlength : (map.itemsAt q).length = (m.source.itemsAt q).length := by
    apply le_antisymm
    · rw [← List.getElem?_eq_none_iff (l := map.itemsAt q), hmap, liveItem]
      simp
    · rw [← List.getElem?_eq_none_iff (l := m.source.itemsAt q)]
      have hnone := hmap q (map.itemsAt q).length
      rw [List.getElem?_eq_none le_rfl, liveItem] at hnone
      exact (Option.map_eq_none_iff.mp hnone.symm)
  have hkept : (List.range (m.source.itemsAt q).length).filter p = m.indicesAt q := by
    rw [h.indexed q]
    apply List.filter_congr
    intro i _
    rw [Bool.eq_iff_iff, hp i, decide_eq_true_eq]
  rw [Indices.keep_eq_filterMap, hlength, hkept, map_some_filterMap]
  · exact List.map_congr_left fun i _ => hmap q i
  · intro i hi
    rw [h.indexed q] at hi
    have hlt := List.mem_range.mp (List.mem_filter.mp hi).1
    rw [List.getElem?_eq_getElem (hlength ▸ hlt)]
    rfl

theorem Agrees.removable_iff (h : m.Agrees) {map : WorldMap}
    (hmap : ∀ q i, (map.itemsAt q)[i]? = m.liveItem q i)
    {removals : List WorldMapItemSourceIdentity} (hsome : removals ≠ [])
    (hperm : removals.Perm m.removedSourceItems.toList) :
    map.Removable removals ↔ map.sourceRevision = m.sourceRevision := by
  have hmem : ∀ r, r ∈ removals ↔ r ∈ m.removedSourceItems := fun r => by
    rw [hperm.mem_iff, Std.ExtTreeSet.mem_toList]
  constructor
  · intro hremovable
    obtain ⟨r, hr⟩ := List.exists_mem_of_ne_nil _ hsome
    rw [← (hremovable.2 r hr).1, (h.removed r ((hmem r).mp hr)).1]
  · intro hrevision
    refine ⟨hperm.nodup_iff.mpr (nodup_elements _), fun r hr => ?_⟩
    obtain ⟨hr, hlt⟩ := h.removed r ((hmem r).mp hr)
    refine ⟨by rw [hr, hrevision], ?_⟩
    by_contra hout
    have hnone : m.liveItem r.position r.itemIndex = none := by
      rw [← hmap, List.getElem?_eq_none (not_lt.mp hout)]
    rw [liveItem, Option.map_eq_none_iff, List.getElem?_eq_none_iff] at hnone
    omega

/-- **The journal is read back exactly when `JournalReadable`**, and leaves the source items. -/
theorem Agrees.removeJournal (h : m.Agrees) {journal : Option MapItemRemovalJournal}
    {countOverrides : Option (ℕ × List MapItemCountOverrideRecord)}
    {runtimeItems : Option (ℕ × List RuntimeMapItemRecord)}
    (hstored : m.Stored journal countOverrides runtimeItems) {map : WorldMap}
    (hfold : m.sourceItemCountOverrides.toList.foldlM applyOverride m.source = .ok map)
    (hmap : ∀ q i, (map.itemsAt q)[i]? = m.liveItem q i) :
    (∃ left, (journal.elim (.ok map) fun journal =>
        map.applySourceItemRemovals journal.removedItems) = .ok left ∧ m.JournalReadable ∧
        ∀ q, (left.itemsAt q).map some = m.sourcePart q) ∨
      (∃ e, (journal.elim (.ok map) fun journal =>
        map.applySourceItemRemovals journal.removedItems) = .error e) ∧ ¬m.JournalReadable := by
  rcases hstored.journal with ⟨rfl, hnone⟩ | ⟨removals, rfl, hsome, hperm⟩
  · refine .inl ⟨map, rfl, .inl hnone, fun q => ?_⟩
    rw [← h.sourcePart_eq hmap q (fun _ => true) fun i => by simp [hnone],
      Indices.keep_all fun _ _ => rfl]
  · have hremovable := h.removable_iff hmap hsome hperm
    have hreadable : m.JournalReadable ↔ map.sourceRevision = m.sourceRevision := by
      constructor
      · intro hreadable
        rcases hreadable with hnone | hall
        · rw [hnone, Std.ExtTreeSet.toList_eq_nil_iff.mpr rfl] at hperm
          exact absurd hperm.eq_nil hsome
        · exact hall map hfold
      · intro hrevision
        refine .inr fun map' hmap' => ?_
        rw [hfold] at hmap'
        cases hmap'
        exact hrevision
    rcases WorldMap.applyInPlace_cases map removals with
      ⟨left, -, hleft, hok, hwithout⟩ | ⟨⟨text, -, herror⟩, hnot⟩
    · refine .inl ⟨left, hleft, hreadable.mpr (hremovable.mp hok), fun q => ?_⟩
      have hitems : left.itemsAt q = WorldMap.remaining removals q (map.itemsAt q) := by
        rw [WorldMap.itemsAt, WorldMap.itemsAt, hwithout.1 q]
        cases map.tileItemsAt q with
        | none => rfl
        | some items => rfl
      rw [hitems]
      apply h.sourcePart_eq hmap q
      intro i
      rw [decide_eq_true_eq, WorldMap.mem_listed, not_iff_not]
      constructor
      · rintro ⟨r, hr, rfl, rfl⟩
        rw [hperm.mem_iff, Std.ExtTreeSet.mem_toList] at hr
        rw [← (h.removed r hr).1]
        exact hr
      · intro hr
        exact ⟨_, hperm.mem_iff.mpr (Std.ExtTreeSet.mem_toList.mpr hr), rfl, rfl⟩
    · exact .inr ⟨⟨_, herror⟩, fun hread => hnot (hremovable.mpr (hreadable.mp hread))⟩

/-! ### The registry -/

/-- Every entry of the registry lies on a tile. -/
def OnTiles (m : SharedNativeMap) : Prop :=
  ∀ record ∈ m.runtimeTileItems, m.source.tile record.position ≠ none

/-- The entries of the tiles, as far as they are read. -/
def Sorted (records : List RuntimeMapItemRecord)
    (ordered : BTreeMap Position (List RuntimeMapItemRecord)) : Prop :=
  ∀ q, ordered[q]? = if recordsAt records q = [] then none else some (recordsAt records q)

theorem admitRecord_eq_ok {source : WorldMap} {pre : List RuntimeMapItemRecord}
    {record : RuntimeMapItemRecord} {ordered : BTreeMap Position (List RuntimeMapItemRecord)}
    (hsorted : Sorted pre ordered) (hsound : record.Sound)
    (htile : source.tile record.position ≠ none)
    (hordinal : record.ordinal = (recordsAt pre record.position).length) :
    ∃ ordered', admitRecord source ordered record = .ok ordered' ∧
      Sorted (pre ++ [record]) ordered' := by
  have hentries : ordered[record.position]?.getD [] = recordsAt pre record.position := by
    rw [hsorted]
    split
    · next hnil => rw [hnil]; rfl
    · rfl
  refine ⟨ordered.insert record.position (recordsAt pre record.position ++ [record]), ?_, ?_⟩
  · have hshape : ¬(record.serverId = 0 ∨ record.count = 0) :=
      not_or.mpr ⟨hsound.serverId, hsound.count⟩
    have hchildren : ¬maxRuntimeMapItemChildren < record.children.length :=
      not_lt.mpr hsound.children
    unfold admitRecord
    simp only [if_neg hshape, if_neg hchildren, if_neg htile, hentries, hordinal, ne_eq,
      not_true_eq_false, if_false]
  · intro q
    rw [Std.ExtTreeMap.getElem?_insert]
    by_cases hq : record.position = q
    · subst hq
      rw [if_pos Std.ReflCmp.compare_self, recordsAt_append, recordsAt_cons_self]
      simp [recordsAt]
    · have hne : ¬compare record.position q = .eq := fun heq =>
        hq (Std.LawfulEqOrd.eq_of_compare heq)
      rw [if_neg hne, hsorted, recordsAt_append, recordsAt_cons_ne hq]
      simp [recordsAt]

theorem admitRecord_offTile {source : WorldMap} {record : RuntimeMapItemRecord}
    (hsound : record.Sound) (htile : source.tile record.position = none)
    (ordered : BTreeMap Position (List RuntimeMapItemRecord)) :
    ∃ e, admitRecord source ordered record = .error e := by
  have hshape : ¬(record.serverId = 0 ∨ record.count = 0) :=
    not_or.mpr ⟨hsound.serverId, hsound.count⟩
  have hchildren : ¬maxRuntimeMapItemChildren < record.children.length :=
    not_lt.mpr hsound.children
  unfold admitRecord
  exact ⟨_, by rw [if_neg hshape, if_neg hchildren, if_pos htile]⟩

/-- The entries of a registry count up from zero on every tile. -/
def Counted (records : List RuntimeMapItemRecord) : Prop :=
  ∀ q, (recordsAt records q).map RuntimeMapItemRecord.ordinal =
    List.range (recordsAt records q).length

theorem admitRecords (source : WorldMap) {records : List RuntimeMapItemRecord}
    (hsound : ∀ r ∈ records, r.Sound) (hcounted : Counted records) :
    (∃ ordered, records.foldlM (admitRecord source) ∅ = .ok ordered ∧
        (∀ r ∈ records, source.tile r.position ≠ none) ∧ Sorted records ordered) ∨
      (∃ e, records.foldlM (admitRecord source) ∅ = .error e) ∧
        ¬∀ r ∈ records, source.tile r.position ≠ none := by
  by_cases htiles : ∀ r ∈ records, source.tile r.position ≠ none
  · left
    obtain ⟨ordered, hok, hsorted⟩ := PartialFold.foldlM_total_prefix
      (f := admitRecord source) (I := Sorted) (s := ∅) (fun pre record ordered
        (hpre : pre ++ [record] <+: records) hpresorted => by
        obtain ⟨rest, rfl⟩ := hpre
        have hmem : record ∈ pre ++ [record] ++ rest := by simp
        refine admitRecord_eq_ok hpresorted (hsound _ hmem) (htiles _ hmem) ?_
        have hords := hcounted record.position
        rw [List.append_assoc, List.singleton_append, recordsAt_append, recordsAt_cons_self] at hords
        exact (length_of_ordinals hords).symm) fun q => by simp [recordsAt]
    exact ⟨ordered, hok, htiles, hsorted⟩
  · right
    refine ⟨?_, htiles⟩
    cases hrun : records.foldlM (admitRecord source) ∅ with
    | error e => exact ⟨e, rfl⟩
    | ok ordered =>
      have hall := PartialFold.foldlM_ok_prefix (f := admitRecord source)
        (I := fun pre _ => ∀ r ∈ pre, r.Sound → source.tile r.position ≠ none)
        (fun pre s r t hpre hr r' hr' hsound' => by
          rcases List.mem_append.mp hr' with hold | hnew
          · exact hpre r' hold hsound'
          · rw [List.mem_singleton.mp hnew] at hsound' ⊢
            intro hnone
            obtain ⟨e, he⟩ := admitRecord_offTile hsound' hnone s
            rw [hr] at he
            cases he) (fun r hr => by cases hr) hrun
      exact absurd (fun r hr => hall r hr (hsound r hr)) htiles

theorem placeRecords_eq_ok {map : WorldMap} {entry : Position × List RuntimeMapItemRecord}
    (hroom : (map.itemsAt entry.1).length + entry.2.length ≤ maxWorldMapItemsPerTile) :
    ∃ map', placeRecords map entry = .ok map' ∧ ∀ q, map'.itemsAt q =
      map.itemsAt q ++ if entry.1 = q then entry.2.map runtimeRecordToWorldMapItem else [] := by
  have hlength : (map.itemsAt entry.1 ++ entry.2.map runtimeRecordToWorldMapItem).length ≤
      maxWorldMapItemsPerTile := by
    simpa using hroom
  refine ⟨map.putTileItems entry.1 _ hlength, ?_, fun q => ?_⟩
  · unfold placeRecords
    simp only [if_neg (not_lt.mpr hroom)]
    exact WorldMap.setTileItems_eq_ok.mpr ⟨hlength, rfl⟩
  · rw [WorldMap.putTileItems_itemsAt]
    by_cases hq : entry.1 = q
    · subst hq
      simp
    · simp [hq]

theorem placeAll (entries : List (Position × List RuntimeMapItemRecord))
    (hdistinct : (entries.map Prod.fst).Nodup) (map : WorldMap)
    (hroom : ∀ e ∈ entries,
      (map.itemsAt e.1).length + e.2.length ≤ maxWorldMapItemsPerTile) :
    ∃ map', entries.foldlM placeRecords map = .ok map' ∧
      (∀ e ∈ entries, map'.itemsAt e.1 =
        map.itemsAt e.1 ++ e.2.map runtimeRecordToWorldMapItem) ∧
      ∀ q, q ∉ entries.map Prod.fst → map'.itemsAt q = map.itemsAt q := by
  induction entries generalizing map with
  | nil => exact ⟨map, rfl, (fun e he => by cases he), fun _ _ => rfl⟩
  | cons e entries ih =>
    obtain ⟨hout, hdistinct⟩ := List.nodup_cons.mp hdistinct
    obtain ⟨next, hnext, hitems⟩ := placeRecords_eq_ok (hroom e List.mem_cons_self)
    have hne : ∀ f ∈ entries, e.1 ≠ f.1 := fun f hf heq =>
      hout (List.mem_map.mpr ⟨f, hf, heq.symm⟩)
    obtain ⟨map', hrest, hplaced, hothers⟩ := ih hdistinct next fun f hf => by
      rw [hitems, if_neg (hne f hf), List.append_nil]
      exact hroom f (List.mem_cons_of_mem e hf)
    refine ⟨map', by rw [List.foldlM_cons, hnext]; exact hrest, fun f hf => ?_, fun q hq => ?_⟩
    · rcases List.mem_cons.mp hf with rfl | hf
      · rw [hothers _ hout, hitems, if_pos rfl]
      · rw [hplaced f hf, hitems, if_neg (hne f hf), List.append_nil]
    · rw [List.map_cons, List.mem_cons, not_or] at hq
      rw [hothers q hq.2, hitems, if_neg (Ne.symm hq.1), List.append_nil]

/-- Read in the order of the query, the entries of a tile are in the order they had. -/
theorem recordsAt_of_perm {records registry : List RuntimeMapItemRecord}
    (hperm : records.Perm registry) (hsorted : records.Pairwise EngineDatabase.runtimeRank)
    (hcounted : Counted registry) (q : Position) : recordsAt records q = recordsAt registry q := by
  have hpermq : (recordsAt records q).Perm (recordsAt registry q) := hperm.filter _
  have hordinals : ((recordsAt registry q).map RuntimeMapItemRecord.ordinal).Pairwise (· < ·) := by
    rw [hcounted q]
    exact List.pairwise_lt_range
  have hinj := List.inj_on_of_nodup_map (hordinals.imp Nat.ne_of_lt)
  have hfirst : (recordsAt records q).Pairwise fun a b => a.ordinal ≤ b.ordinal := by
    refine (hsorted.filter _).imp_of_mem fun {a b} ha hb hab => ?_
    have hpa : a.position = q := by simpa using (List.mem_filter.mp ha).2
    have hpb : b.position = q := by simpa using (List.mem_filter.mp hb).2
    unfold EngineDatabase.runtimeRank at hab
    have hsame : compare q q = .eq := Std.ReflCmp.compare_self
    rw [hpa, hpb, hsame] at hab
    exact Nat.isLE_compare.mp hab
  have hsecond : (recordsAt registry q).Pairwise fun a b => a.ordinal ≤ b.ordinal :=
    (List.pairwise_map.mp hordinals).imp Nat.le_of_lt
  refine List.Perm.eq_of_pairwise (fun a b ha hb hab hba => ?_) hfirst hsecond hpermq
  exact hinj (hpermq.mem_iff.mp ha) hb (le_antisymm hab hba)

theorem Agrees.counted (h : m.Agrees) : Counted m.runtimeTileItems := fun q => (h.aligned q).ordinals

theorem Agrees.recoverRegistry (h : m.Agrees) {journal : Option MapItemRemovalJournal}
    {countOverrides : Option (ℕ × List MapItemCountOverrideRecord)}
    {runtimeItems : Option (ℕ × List RuntimeMapItemRecord)}
    (hstored : m.Stored journal countOverrides runtimeItems) {left : WorldMap}
    (hleft : ∀ q, (left.itemsAt q).map some = m.sourcePart q) :
    (∃ map registry, SharedNativeMap.recoverRegistry m.source left runtimeItems =
        .ok (map, registry) ∧ m.OnTiles ∧ (∀ q, map.itemsAt q = m.map.itemsAt q) ∧
        registry.Perm m.runtimeTileItems ∧
        ∀ q, recordsAt registry q = recordsAt m.runtimeTileItems q) ∨
      (∃ e, SharedNativeMap.recoverRegistry m.source left runtimeItems = .error e) ∧
        ¬m.OnTiles := by
  have hitems : ∀ q, m.map.itemsAt q = left.itemsAt q ++
      (recordsAt m.runtimeTileItems q).map runtimeRecordToWorldMapItem := by
    intro q
    have halign := (h.aligned q).items
    have hsome : (recordsAt m.runtimeTileItems q).map (fun record =>
        some (runtimeRecordToWorldMapItem record)) =
        ((recordsAt m.runtimeTileItems q).map runtimeRecordToWorldMapItem).map some := by
      rw [List.map_map]
      rfl
    rw [← hleft q, hsome, ← List.map_append] at halign
    exact List.map_injective_iff.mpr (Option.some_injective _) halign
  rcases hstored.registry with ⟨rfl, hnil⟩ | ⟨records, rfl, hperm, hsorted⟩
  · refine .inl ⟨left, [], rfl, ?_, fun q => ?_, by rw [hnil], fun q => by rw [hnil]⟩
    · intro record hrecord
      rw [hnil] at hrecord
      cases hrecord
    · rw [hitems q, hnil]
      simp [recordsAt]
  · have hat := recordsAt_of_perm hperm hsorted h.counted
    have hcounted : Counted records := fun q => by
      rw [hat q]
      exact h.counted q
    have htiles : (∀ r ∈ records, m.source.tile r.position ≠ none) ↔ m.OnTiles := by
      simp only [OnTiles, hperm.mem_iff]
    have hrevision : ¬(m.sourceRevision ≠ m.source.sourceRevision) := not_not.mpr rfl
    unfold SharedNativeMap.recoverRegistry
    simp only [if_neg hrevision]
    rcases admitRecords m.source (fun r hr => h.records r (hperm.mem_iff.mp hr)) hcounted with
      ⟨ordered, hok, hon, hordered⟩ | ⟨⟨e, herror⟩, hnot⟩
    · have hentry : ∀ e ∈ ordered.toList, e.2 = recordsAt m.runtimeTileItems e.1 := by
        intro e he
        have hget := Std.ExtTreeMap.mem_toList_iff_getElem?_eq_some.mp he
        rw [hordered, hat] at hget
        split at hget
        · cases hget
        · exact (Option.some.inj hget).symm
      obtain ⟨map, hmap, hplaced, hothers⟩ := placeAll ordered.toList (OrderedMap.nodup_keys _)
        left fun e he => by
          have hlength := m.map.itemsAt_length e.1
          rw [hitems, List.length_append, List.length_map] at hlength
          rw [hentry e he]
          exact hlength
      refine .inl ⟨map, records, ?_, htiles.mp hon, fun q => ?_, hperm, hat⟩
      · rw [hok]
        show (ordered.toList.foldlM placeRecords left >>= fun map => Except.ok (map, records)) = _
        rw [hmap]
        rfl
      · by_cases hq : q ∈ ordered.toList.map Prod.fst
        · obtain ⟨e, he, rfl⟩ := List.mem_map.mp hq
          rw [hplaced e he, hentry e he, hitems]
        · have hnone : recordsAt m.runtimeTileItems q = [] := by
            by_contra hsome
            have hget : ordered[q]? = some (recordsAt m.runtimeTileItems q) := by
              rw [hordered, hat, if_neg hsome]
            exact hq (List.mem_map.mpr
              ⟨_, Std.ExtTreeMap.mem_toList_iff_getElem?_eq_some.mpr hget, rfl⟩)
          rw [hothers q hq, hitems, hnone]
          simp
    · refine .inr ⟨⟨e, by rw [herror]; rfl⟩, fun hon => hnot (htiles.mpr hon)⟩

/-! ### The whole recovery -/

/-- The map can be rebuilt. -/
structure Restorable (m : SharedNativeMap) : Prop where
  readable : m.JournalReadable
  onTiles : m.OnTiles

/-- The rebuilt map is the map as it was: tile by tile, and in its tables. -/
structure Rebuilt (m m' : SharedNativeMap) : Prop where
  source : m'.source = m.source
  items : ∀ q, m'.map.itemsAt q = m.map.itemsAt q
  removed : m'.removedSourceItems = m.removedSourceItems
  overrides : m'.sourceItemCountOverrides = m.sourceItemCountOverrides
  registry : m'.runtimeTileItems.Perm m.runtimeTileItems
  recordsAt : ∀ q, recordsAt m'.runtimeTileItems q = recordsAt m.runtimeTileItems q
  indices : m'.sourceItemIndices = survivingIndices m.source m.removedSourceItems

/-- The indices of a map that was just loaded or rebuilt. -/
theorem indexed_surviving (hindices : m.sourceItemIndices =
    survivingIndices m.source m.removedSourceItems) (q : Position) : m.Indexed q := by
  unfold Indexed indicesAt survivingIndices at *
  rw [hindices, Std.ExtTreeMap.getElem?_map]
  show _ = (List.range ((m.source.tileItems[q]?).getD []).length).filter _
  cases htile : m.source.tileItems[q]? with
  | none => rfl
  | some items =>
    have hlength := m.source.bounded q items htile
    rw [Option.map_some, Option.getD_some, Option.getD_some]
    apply List.filter_congr
    intro i hi
    have hsmall : i ≤ u8Max :=
      (List.mem_range.mp hi).le.trans (hlength.trans (by decide))
    simp only [hsmall, true_and]
    rfl

/-- A rebuilt map agrees with itself like the one it was built from. -/
theorem Rebuilt.agrees {m' : SharedNativeMap} (hm : m.Rebuilt m') (h : m.Agrees) : m'.Agrees := by
  have hrevision : m'.sourceRevision = m.sourceRevision := by
    unfold sourceRevision
    rw [hm.source]
  have hindexed : ∀ q, m'.Indexed q := indexed_surviving (by
    rw [hm.indices, hm.source, hm.removed])
  have hpart : ∀ q, m'.sourcePart q = m.sourcePart q := by
    intro q
    have hindices : m'.indicesAt q = m.indicesAt q := by
      rw [hindexed q, h.indexed q, hm.source, hm.removed, hrevision]
    unfold sourcePart
    rw [hindices]
    refine List.map_congr_left fun i _ => liveItem_congr hm.source ?_
    rw [hm.overrides]
  exact {
    indexed := hindexed
    aligned := fun q => (h.aligned q).congr (hm.items q) (hm.recordsAt q) (hpart q)
    removed := fun identity hidentity => by
      rw [hm.removed] at hidentity
      rw [hrevision, hm.source]
      exact h.removed identity hidentity
    reduced := fun identity count hcount => by
      rw [hm.overrides] at hcount
      obtain ⟨hrev, hpresent, hpositive, hbounded, hless⟩ := h.reduced identity count hcount
      refine ⟨hrev.trans hrevision.symm, ?_, hpositive, hbounded, ?_⟩
      · rw [hm.removed]
        exact hpresent
      · rw [hm.source]
        exact hless
    records := fun record hrecord => h.records record (hm.registry.mem_iff.mp hrecord)
    room := by
      rw [hm.registry.length_eq]
      exact h.room }

/-- **A map is rebuilt as it was, or not at all.** -/
theorem Agrees.recover_cases (h : m.Agrees) {journal : Option MapItemRemovalJournal}
    {countOverrides : Option (ℕ × List MapItemCountOverrideRecord)}
    {runtimeItems : Option (ℕ × List RuntimeMapItemRecord)}
    (hstored : m.Stored journal countOverrides runtimeItems) :
    (∃ m', recoverCompleteMapItemState m.source journal countOverrides runtimeItems = .ok m' ∧
        m.Restorable ∧ m.Rebuilt m') ∨
      (∃ e, recoverCompleteMapItemState m.source journal countOverrides runtimeItems = .error e) ∧
        ¬m.Restorable := by
  have hremoved : (journal.elim ∅ fun journal =>
      Std.ExtTreeSet.ofList journal.removedItems compare) = m.removedSourceItems := by
    rcases hstored.journal with ⟨rfl, hnone⟩ | ⟨removals, rfl, -, hperm⟩
    · exact hnone.symm
    · apply Std.ExtTreeSet.ext_mem
      intro identity
      show identity ∈ Std.ExtTreeSet.ofList removals compare ↔ _
      rw [Std.ExtTreeSet.mem_ofList, List.contains_iff_mem, hperm.mem_iff,
        Std.ExtTreeSet.mem_toList]
  obtain ⟨map, hfold, hmap⟩ := h.applyOverrides
  unfold recoverCompleteMapItemState
  simp only [hremoved, h.recoverOverrides hstored]
  rcases h.removeJournal hstored hfold hmap with ⟨left, hleft, hread, hpart⟩ | ⟨⟨e, herror⟩, hnot⟩
  · rcases h.recoverRegistry hstored hpart with
      ⟨next, registry, hok, hon, hitems, hperm, hat⟩ | ⟨⟨e, herror⟩, hnot⟩
    · refine .inl ⟨⟨m.source, next, survivingIndices m.source m.removedSourceItems,
        m.removedSourceItems, m.sourceItemCountOverrides, registry, 0⟩, ?_, ⟨hread, hon⟩,
        rfl, hitems, rfl, rfl, hperm, hat, rfl⟩
      simp only [bind, Except.bind, hfold, hleft, hok]
    · refine .inr ⟨⟨e, ?_⟩, fun hrestorable => hnot hrestorable.onTiles⟩
      simp only [bind, Except.bind, hfold, hleft, herror]
  · refine .inr ⟨⟨e, ?_⟩, fun hrestorable => hnot hrestorable.readable⟩
    simp only [bind, Except.bind, hfold, herror]

end SharedNativeMap

end ForgottenEngine
