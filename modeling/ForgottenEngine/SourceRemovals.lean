import ForgottenEngine.WorldMap

/-!
# Replaying a journal of removed source items

`apply_source_item_removals` checks a whole journal against the map, and then removes the named
items tile by tile, on the map itself.  Removing an item at an index a list does not have panics;
that is `none` here.

* `removeEach_removable` — removing from the largest index down never panics;
* `admitted_iff` — when the journal is admitted, and what is noted of it;
* `removeInPlace_removable` — what the second loop leaves;
* `applyInPlace_eq` — the operation on the map in place agrees with `applySourceItemRemovals`;
* `removals_restore` — a refused journal changes nothing, an accepted one leaves exactly the items
  it does not name, and the order of the journal does not matter.
-/

namespace ForgottenEngine

namespace WorldMap

/-! ### The loops of the source, in place -/

/-- `Vec::remove`, without the removed element. -/
def removeAt (items : List WorldMapItem) (index : ℕ) : Option (List WorldMapItem) :=
  if index < items.length then some (items.eraseIdx index) else none

def removeEach (items : List WorldMapItem) (indices : List ℕ) : Option (List WorldMapItem) :=
  indices.foldlM removeAt items

theorem length_removeEach {indices : List ℕ} {items kept : List WorldMapItem}
    (h : removeEach items indices = some kept) : kept.length ≤ items.length := by
  induction indices generalizing items with
  | nil =>
    cases h
    exact le_refl _
  | cons index indices ih =>
    rw [removeEach, List.foldlM_cons, removeAt] at h
    split at h
    · exact le_trans (ih h) (List.length_eraseIdx_le items index)
    · cases h

/-- The second loop, on the map itself. -/
def removeInPlace : List (Position × List ℕ) → WorldMap → Option (Except CoreError Unit × WorldMap)
  | [], self => some (.ok (), self)
  | (position, indices) :: rest, self =>
    match hitems : self.tileItemsAt position with
    | none =>
      some (.error (.invalidMap "map-item journal references a missing tile item list"), self)
    | some items =>
      match hkept : removeEach items (indices.insertionSort (· ≥ ·)) with
      | none => none
      | some kept => removeInPlace rest (self.putTileItems position kept
          (le_trans (length_removeEach hkept) (self.bounded position items hitems)))

/-- Check the journal, then remove what it names from the map itself. -/
def applyInPlace (self : WorldMap) (removals : List WorldMapItemSourceIdentity) :
    Option (Except CoreError Unit × WorldMap) :=
  match removals.foldlM (self.admitRemoval self.sourceRevision) ∅ with
  | .error e => some (.error e, self)
  | .ok byPosition => removeInPlace byPosition.toList self

/-! ### What a journal names -/

/-- The indices a journal names on a tile, in the order of the journal. -/
def listed (removals : List WorldMapItemSourceIdentity) (position : Position) : List ℕ :=
  (removals.filter fun removal => removal.position = position).map (·.itemIndex)

/-- The items of a tile a journal leaves. -/
def remaining (removals : List WorldMapItemSourceIdentity) (position : Position)
    (items : List WorldMapItem) : List WorldMapItem :=
  Indices.keep (fun i => decide (i ∉ listed removals position)) items

/-- Every entry names an item of this revision of the map, and no item is named twice. -/
def Removable (self : WorldMap) (removals : List WorldMapItemSourceIdentity) : Prop :=
  removals.Nodup ∧ ∀ removal ∈ removals, removal.mapRevision = self.sourceRevision ∧
    removal.itemIndex < (self.itemsAt removal.position).length

/-- `left` is the map without the items the journal names, and is the map otherwise. -/
def Without (self : WorldMap) (removals : List WorldMapItemSourceIdentity) (left : WorldMap) :
    Prop :=
  (∀ position, left.tileItemsAt position =
    (self.tileItemsAt position).map (remaining removals position)) ∧
  left = { self with tileItems := left.tileItems, bounded := left.bounded }

theorem mem_listed {removals : List WorldMapItemSourceIdentity} {position : Position} {i : ℕ} :
    i ∈ listed removals position ↔
      ∃ removal ∈ removals, removal.position = position ∧ removal.itemIndex = i := by
  simp only [listed, List.mem_map, List.mem_filter, decide_eq_true_eq, and_assoc]

theorem listed_append (removals : List WorldMapItemSourceIdentity)
    (removal : WorldMapItemSourceIdentity) (position : Position) :
    listed (removals ++ [removal]) position =
      listed removals position ++ if removal.position = position then [removal.itemIndex] else [] := by
  rw [listed, List.filter_append, List.map_append]
  by_cases h : removal.position = position
  · simp [listed, h]
  · simp [listed, h]

theorem nodup_listed {self : WorldMap} {removals : List WorldMapItemSourceIdentity}
    (h : self.Removable removals) (position : Position) : (listed removals position).Nodup := by
  refine List.Nodup.map_on ?_ (h.1.filter _)
  intro a ha b hb heq
  obtain ⟨ha, hpa⟩ := List.mem_filter.mp ha
  obtain ⟨hb, hpb⟩ := List.mem_filter.mp hb
  have hrevision : a.mapRevision = b.mapRevision := by rw [(h.2 a ha).1, (h.2 b hb).1]
  have hposition : a.position = b.position := by
    rw [of_decide_eq_true hpa, of_decide_eq_true hpb]
  obtain ⟨r, p, i⟩ := a
  obtain ⟨r', p', i'⟩ := b
  rw [WorldMapItemSourceIdentity.mk.injEq]
  exact ⟨hrevision, hposition, heq⟩

theorem Removable.perm {self : WorldMap} {removals reordered : List WorldMapItemSourceIdentity}
    (h : self.Removable removals) (hperm : removals.Perm reordered) : self.Removable reordered :=
  ⟨hperm.nodup h.1, fun removal hmem => h.2 removal (hperm.mem_iff.mpr hmem)⟩

theorem remaining_perm {removals reordered : List WorldMapItemSourceIdentity}
    (hperm : removals.Perm reordered) (position : Position) (items : List WorldMapItem) :
    remaining removals position items = remaining reordered position items := by
  have hlisted := (hperm.filter fun removal => removal.position = position).map (·.itemIndex)
  apply Indices.keep_congr
  intro i _
  exact decide_eq_decide.mpr (not_congr hlisted.mem_iff)

/-- What is left is determined by the map and the journal. -/
theorem Without.unique {self left other : WorldMap} {removals : List WorldMapItemSourceIdentity}
    (h : self.Without removals left) (hother : self.Without removals other) : left = other := by
  have hitems : left.tileItems = other.tileItems := by
    apply Std.ExtTreeMap.ext_getElem?
    intro position
    exact (h.1 position).trans (hother.1 position).symm
  rw [h.2, hother.2]
  ext1 <;> first | rfl | exact hitems

/-! ### The checks -/

/-- What the first loop has noted of the entries it went through. -/
def Noted (done : List WorldMapItemSourceIdentity) (byPosition : BTreeMap Position (List ℕ)) :
    Prop :=
  ∀ position, byPosition[position]? =
    if listed done position = [] then none else some (listed done position)

theorem Noted.getD {done : List WorldMapItemSourceIdentity}
    {byPosition : BTreeMap Position (List ℕ)} (h : Noted done byPosition) (position : Position) :
    byPosition[position]?.getD [] = listed done position := by
  rw [h position]
  by_cases hempty : listed done position = []
  · rw [if_pos hempty, hempty]
    rfl
  · rw [if_neg hempty]
    rfl

theorem noted_nil : Noted [] ∅ := by
  intro position
  rw [Std.ExtTreeMap.getElem?_empty]
  rfl

/-- The entry alone passes the checks of the first loop, after the entries in `done`. -/
def Admits (self : WorldMap) (done : List WorldMapItemSourceIdentity)
    (removal : WorldMapItemSourceIdentity) : Prop :=
  removal.mapRevision = self.sourceRevision ∧
    removal.itemIndex < (self.itemsAt removal.position).length ∧
    removal.itemIndex ∉ listed done removal.position

/-- One round of the first loop. -/
theorem admitRemoval_spec {self : WorldMap} {done : List WorldMapItemSourceIdentity}
    {byPosition : BTreeMap Position (List ℕ)} (hnoted : Noted done byPosition)
    (removal : WorldMapItemSourceIdentity) :
    (∃ next, self.admitRemoval self.sourceRevision byPosition removal = .ok next ∧
      Noted (done ++ [removal]) next ∧ self.Admits done removal) ∨
    (∃ text, self.admitRemoval self.sourceRevision byPosition removal =
      .error (.invalidMap text)) ∧ ¬ self.Admits done removal := by
  rw [admitRemoval]
  by_cases hrevision : removal.mapRevision ≠ self.sourceRevision
  · rw [if_pos hrevision]
    exact .inr ⟨⟨_, rfl⟩, fun h => hrevision h.1⟩
  rw [if_neg hrevision]
  cases hitems : self.tileItemsAt removal.position with
  | none =>
    refine .inr ⟨⟨_, rfl⟩, ?_⟩
    intro h
    have hlt := h.2.1
    rw [itemsAt, hitems] at hlt
    exact absurd hlt (Nat.not_lt_zero _)
  | some items =>
    have hat : self.itemsAt removal.position = items := itemsAt_eq hitems
    dsimp only
    by_cases hlength : items.length ≤ removal.itemIndex
    · rw [if_pos hlength]
      refine .inr ⟨⟨_, rfl⟩, ?_⟩
      intro h
      have hlt := h.2.1
      rw [hat] at hlt
      omega
    rw [if_neg hlength, hnoted.getD]
    by_cases hmem : removal.itemIndex ∈ listed done removal.position
    · rw [if_pos hmem]
      exact .inr ⟨⟨_, rfl⟩, fun h => h.2.2 hmem⟩
    rw [if_neg hmem]
    refine .inl ⟨_, rfl, ?_, not_not.mp hrevision, by rw [hat]; omega, hmem⟩
    intro position
    rw [Std.ExtTreeMap.getElem?_insert, listed_append]
    by_cases hposition : removal.position = position
    · subst hposition
      rw [if_pos Std.ReflCmp.compare_self, if_pos rfl, if_neg (List.append_ne_nil_of_right_ne_nil _
        (List.cons_ne_nil _ _))]
    · rw [if_neg (fun h => hposition (Std.LawfulEqOrd.eq_of_compare h)), if_neg hposition,
        List.append_nil]
      exact hnoted position

/-- A journal is removable entry by entry. -/
theorem removable_append {self : WorldMap} {done : List WorldMapItemSourceIdentity}
    {removal : WorldMapItemSourceIdentity} (hdone : self.Removable done) :
    self.Removable (done ++ [removal]) ↔ self.Admits done removal := by
  constructor
  · intro h
    have hchecked := h.2 removal (List.mem_append_right _ (List.mem_singleton.mpr rfl))
    refine ⟨hchecked.1, hchecked.2, ?_⟩
    intro hmem
    have hnodup := nodup_listed h removal.position
    rw [listed_append, if_pos rfl] at hnodup
    exact (List.nodup_append.mp hnodup).2.2 _ hmem _ (List.mem_singleton.mpr rfl) rfl
  · intro h
    refine ⟨?_, ?_⟩
    · have hnew : removal ∉ done := fun hmem => h.2.2 (mem_listed.mpr ⟨removal, hmem, rfl, rfl⟩)
      exact List.nodup_append.mpr ⟨hdone.1, List.nodup_singleton removal, fun a ha b hb heq =>
        hnew (by rw [← List.mem_singleton.mp hb, ← heq]; exact ha)⟩
    · intro other hmem
      rcases List.mem_append.mp hmem with hmem | hmem
      · exact hdone.2 other hmem
      · rw [List.mem_singleton.mp hmem]
        exact ⟨h.1, h.2.1⟩

/-- The first loop, from any entries already noted. -/
theorem admitAll_spec {self : WorldMap} (removals : List WorldMapItemSourceIdentity)
    {done : List WorldMapItemSourceIdentity} {byPosition : BTreeMap Position (List ℕ)}
    (hnoted : Noted done byPosition) (hdone : self.Removable done) :
    (∃ noted, removals.foldlM (self.admitRemoval self.sourceRevision) byPosition = .ok noted ∧
      Noted (done ++ removals) noted ∧ self.Removable (done ++ removals)) ∨
    (∃ text, removals.foldlM (self.admitRemoval self.sourceRevision) byPosition =
      .error (.invalidMap text)) ∧ ¬ self.Removable (done ++ removals) := by
  induction removals generalizing done byPosition with
  | nil =>
    rw [List.append_nil]
    exact .inl ⟨byPosition, rfl, hnoted, hdone⟩
  | cons removal removals ih =>
    have hsplit : done ++ removal :: removals = (done ++ [removal]) ++ removals := by simp
    rw [List.foldlM_cons, hsplit]
    rcases @admitRemoval_spec self done byPosition hnoted removal with
      ⟨next, hround, hnext, hadmits⟩ | ⟨⟨text, hround⟩, hrefused⟩
    · rw [hround]
      exact ih hnext ((removable_append hdone).mpr hadmits)
    · rw [hround]
      refine .inr ⟨⟨text, rfl⟩, ?_⟩
      intro h
      have hfront : self.Removable (done ++ [removal]) :=
        ⟨(List.nodup_append.mp h.1).1, fun r hr => h.2 r (List.mem_append_left _ hr)⟩
      exact hrefused ((removable_append hdone).mp hfront)

/-- The first loop admits exactly the removable journals, and notes what they name. -/
theorem admitted_iff (self : WorldMap) (removals : List WorldMapItemSourceIdentity) :
    (∃ noted, removals.foldlM (self.admitRemoval self.sourceRevision) ∅ = .ok noted ∧
      Noted removals noted ∧ self.Removable removals) ∨
    (∃ text, removals.foldlM (self.admitRemoval self.sourceRevision) ∅ =
      .error (.invalidMap text)) ∧ ¬ self.Removable removals := by
  have hnone : self.Removable [] := ⟨List.nodup_nil, fun _ h => nomatch h⟩
  exact admitAll_spec removals noted_nil hnone

/-! ### The removals -/

/-- Erasing from the largest index down, no index is out of range at its turn. -/
theorem removeEach_descending {indices : List ℕ} (hdescending : indices.Pairwise (· > ·))
    (items : List WorldMapItem) (hrange : ∀ i ∈ indices, i < items.length) :
    removeEach items indices = some (indices.foldl List.eraseIdx items) := by
  induction indices generalizing items with
  | nil => rfl
  | cons index indices ih =>
    obtain ⟨hbelow, hrest⟩ := List.pairwise_cons.mp hdescending
    have hindex : index < items.length := hrange index List.mem_cons_self
    have hround : removeAt items index = some (items.eraseIdx index) := if_pos hindex
    rw [removeEach, List.foldlM_cons, hround]
    refine ih hrest (items.eraseIdx index) ?_
    intro i hi
    have hlt := hbelow i hi
    have hlength := List.length_eraseIdx_of_lt hindex
    omega

theorem removeEach_removable {indices : List ℕ} (hnodup : indices.Nodup) (items : List WorldMapItem)
    (hrange : ∀ i ∈ indices, i < items.length) :
    removeEach items (indices.insertionSort (· ≥ ·)) =
      some (Indices.removeIndices items indices) := by
  have hperm := List.perm_insertionSort (· ≥ ·) indices
  have hsorted := List.pairwise_insertionSort (· ≥ ·) indices
  have hne := List.nodup_iff_pairwise_ne.mp (hperm.nodup_iff.mpr hnodup)
  have hdescending : (indices.insertionSort (· ≥ ·)).Pairwise (· > ·) :=
    (hsorted.and hne).imp fun h => lt_of_le_of_ne h.1 (Ne.symm h.2)
  exact removeEach_descending hdescending items fun i hi => hrange i (hperm.mem_iff.mp hi)

theorem removeInPlace_cons {self : WorldMap} {position : Position} {indices : List ℕ}
    {items kept : List WorldMapItem} (hitems : self.tileItemsAt position = some items)
    (hkept : removeEach items (indices.insertionSort (· ≥ ·)) = some kept)
    (hlength : kept.length ≤ maxWorldMapItemsPerTile) (rest : List (Position × List ℕ)) :
    removeInPlace ((position, indices) :: rest) self =
      removeInPlace rest (self.putTileItems position kept hlength) := by
  rw [removeInPlace]
  split
  · rename_i hnone
    exact absurd (hnone.symm.trans hitems) (Option.some_ne_none items).symm
  · rename_i found hfound
    cases hfound.symm.trans hitems
    split
    · rename_i hnone
      exact absurd (hnone.symm.trans hkept) (Option.some_ne_none kept).symm
    · rename_i other hother
      cases hother.symm.trans hkept
      rfl

/-- The second loop, over entries that name items the tiles have. -/
theorem removeInPlace_removable {entries : List (Position × List ℕ)} {self : WorldMap}
    (hkeys : (entries.map Prod.fst).Nodup)
    (hentries : ∀ entry ∈ entries, entry.2.Nodup ∧ ∃ items, self.tileItemsAt entry.1 = some items ∧
      ∀ i ∈ entry.2, i < items.length) :
    ∃ left, removeInPlace entries self = some (.ok (), left) ∧
      entries.foldlM removeTileItems self = .ok left ∧
      (∀ entry ∈ entries, left.tileItemsAt entry.1 = (self.tileItemsAt entry.1).map
        (Indices.keep fun i => decide (i ∉ entry.2))) ∧
      (∀ position ∉ entries.map Prod.fst, left.tileItemsAt position = self.tileItemsAt position) ∧
      left = { self with tileItems := left.tileItems, bounded := left.bounded } := by
  induction entries generalizing self with
  | nil =>
    refine ⟨self, rfl, rfl, ?_, fun _ _ => rfl, rfl⟩
    intro entry hentry
    exact absurd hentry List.not_mem_nil
  | cons entry rest ih =>
    obtain ⟨position, indices⟩ := entry
    obtain ⟨hfresh, hrest⟩ := List.nodup_cons.mp hkeys
    obtain ⟨hnodup, items, hitems, hrange⟩ := hentries (position, indices) List.mem_cons_self
    have hkept := removeEach_removable hnodup items hrange
    have hlength : (Indices.removeIndices items indices).length ≤ maxWorldMapItemsPerTile :=
      le_trans (Indices.length_removeIndices_le items indices) (self.bounded position items hitems)
    have hother : ∀ q, position ≠ q → (self.putTileItems position
        (Indices.removeIndices items indices) hlength).tileItemsAt q = self.tileItemsAt q := by
      intro q hq
      rw [putTileItems_tileItemsAt, if_neg hq]
    obtain ⟨left, hrun, hfold, hnamed, hunnamed, hrecord⟩ :=
      @ih (self.putTileItems position (Indices.removeIndices items indices) hlength) hrest
        (by
          intro entry hentry
          have hne : position ≠ entry.1 := by
            intro heq
            exact hfresh (List.mem_map.mpr ⟨entry, hentry, heq.symm⟩)
          rw [hother entry.1 hne]
          exact hentries entry (List.mem_cons_of_mem _ hentry))
    refine ⟨left, ?_, ?_, ?_, ?_, hrecord⟩
    · rw [removeInPlace_cons hitems hkept hlength]
      exact hrun
    · have hround : removeTileItems self (position, indices) =
          .ok (self.putTileItems position (Indices.removeIndices items indices) hlength) := by
        rw [removeTileItems]
        split
        · rename_i hnone
          exact absurd (hnone.symm.trans hitems) (Option.some_ne_none items).symm
        · rename_i found hfound
          cases hfound.symm.trans hitems
          rfl
      rw [List.foldlM_cons, hround]
      exact hfold
    · intro entry hentry
      rcases List.mem_cons.mp hentry with rfl | hentry
      · rw [hunnamed position hfresh, putTileItems_tileItemsAt, if_pos rfl, hitems,
          Indices.removeIndices_eq hnodup]
        rfl
      · have hne : position ≠ entry.1 := by
          intro heq
          exact hfresh (List.mem_map.mpr ⟨entry, hentry, heq.symm⟩)
        rw [hnamed entry hentry, hother entry.1 hne]
    · intro q hq
      have hne : position ≠ q := fun heq => hq (heq ▸ List.mem_cons_self)
      rw [hunnamed q fun hmem => hq (List.mem_cons_of_mem _ hmem), hother q hne]

/-- A tile a removable journal names has an item list, and an item at each named index. -/
theorem Removable.items {self : WorldMap} {removals : List WorldMapItemSourceIdentity}
    (h : self.Removable removals) {position : Position} (hlisted : listed removals position ≠ []) :
    ∃ items, self.tileItemsAt position = some items ∧
      ∀ i ∈ listed removals position, i < items.length := by
  have hrange : ∀ i ∈ listed removals position, i < (self.itemsAt position).length := by
    intro i hi
    obtain ⟨removal, hmem, rfl, rfl⟩ := mem_listed.mp hi
    exact (h.2 removal hmem).2
  cases hitems : self.tileItemsAt position with
  | some items =>
    rw [itemsAt_eq hitems] at hrange
    exact ⟨items, rfl, hrange⟩
  | none =>
    obtain ⟨i, hi⟩ := List.exists_mem_of_ne_nil _ hlisted
    have hlt := hrange i hi
    rw [itemsAt, hitems] at hlt
    exact absurd hlt (Nat.not_lt_zero i)

/-- What an admitted journal leaves. -/
theorem removeNoted_spec {self : WorldMap} {removals : List WorldMapItemSourceIdentity}
    {noted : BTreeMap Position (List ℕ)} (hnoted : Noted removals noted)
    (hremovable : self.Removable removals) :
    ∃ left, removeInPlace noted.toList self = some (.ok (), left) ∧
      noted.toList.foldlM removeTileItems self = .ok left ∧ self.Without removals left := by
  have hentry : ∀ entry ∈ noted.toList, listed removals entry.1 ≠ [] ∧
      entry.2 = listed removals entry.1 := by
    intro entry hmem
    have hat := Std.ExtTreeMap.mem_toList_iff_getElem?_eq_some.mp hmem
    rw [hnoted entry.1] at hat
    split at hat
    · cases hat
    · rename_i hlisted
      exact ⟨hlisted, (Option.some.inj hat).symm⟩
  obtain ⟨left, hrun, hfold, hnamed, hunnamed, hrecord⟩ :=
    @removeInPlace_removable noted.toList self (OrderedMap.nodup_keys noted) (by
      intro entry hmem
      obtain ⟨hlisted, heq⟩ := hentry entry hmem
      rw [heq]
      exact ⟨nodup_listed hremovable entry.1, hremovable.items hlisted⟩)
  refine ⟨left, hrun, hfold, ?_, hrecord⟩
  intro position
  by_cases hlisted : listed removals position = []
  · -- The journal names nothing here, and every item stays.
    have hout : position ∉ noted.toList.map Prod.fst := by
      intro hmem
      obtain ⟨entry, hentry', rfl⟩ := List.mem_map.mp hmem
      exact (hentry entry hentry').1 hlisted
    have hall : remaining removals position = id := by
      funext items
      rw [remaining, hlisted]
      exact Indices.keep_all fun i _ => rfl
    rw [hunnamed position hout, hall, Option.map_id]
    rfl
  · have hat := hnoted position
    rw [if_neg hlisted] at hat
    exact hnamed (position, listed removals position)
      (Std.ExtTreeMap.mem_toList_iff_getElem?_eq_some.mpr hat)

/-! ### The whole operation -/

/-- A journal is refused with the map untouched, or leaves the map without what it names. -/
theorem applyInPlace_cases (self : WorldMap) (removals : List WorldMapItemSourceIdentity) :
    (∃ left, self.applyInPlace removals = some (.ok (), left) ∧
      self.applySourceItemRemovals removals = .ok left ∧ self.Removable removals ∧
      self.Without removals left) ∨
    (∃ text, self.applyInPlace removals = some (.error (.invalidMap text), self) ∧
      self.applySourceItemRemovals removals = .error (.invalidMap text)) ∧
      ¬ self.Removable removals := by
  rcases admitted_iff self removals with
    ⟨noted, hadmitted, hnoted, hremovable⟩ | ⟨⟨text, hrefused⟩, hnot⟩
  · obtain ⟨left, hrun, hfold, hwithout⟩ := removeNoted_spec hnoted hremovable
    refine .inl ⟨left, ?_, ?_, hremovable, hwithout⟩
    · rw [applyInPlace, hadmitted]
      exact hrun
    · rw [applySourceItemRemovals, hadmitted]
      exact hfold
  · refine .inr ⟨⟨text, ?_, ?_⟩, hnot⟩
    · rw [applyInPlace, hrefused]
    · rw [applySourceItemRemovals, hrefused]
      rfl

/-- The operation on the map in place is `applySourceItemRemovals`. -/
theorem applyInPlace_eq (self : WorldMap) (removals : List WorldMapItemSourceIdentity) :
    self.applyInPlace removals =
      some (match self.applySourceItemRemovals removals with
        | .ok left => (.ok (), left)
        | .error e => (.error e, self)) := by
  rcases applyInPlace_cases self removals with
    ⟨left, hrun, hfold, -, -⟩ | ⟨⟨text, hrun, hfold⟩, -⟩
  · rw [hrun, hfold]
  · rw [hrun, hfold]

/-- **A journal of removals is all or nothing, exact, and free of order.**  It runs without a panic.
Refused, it leaves the map as it was; accepted, it leaves on each tile exactly the items it does not
name, in their order, and the rest of the map.  Any reordering of the journal is accepted or refused
alike and leaves the same map. -/
theorem removals_restore (self : WorldMap) (removals : List WorldMapItemSourceIdentity) :
    ∃ result left, self.applyInPlace removals = some (result, left) ∧
      (∀ e, result = .error e → left = self) ∧
      (result = .ok () → (∀ position, left.itemsAt position =
        Indices.keep (fun i => decide (i ∉ listed removals position)) (self.itemsAt position)) ∧
        left = { self with tileItems := left.tileItems, bounded := left.bounded }) ∧
      ∀ reordered, removals.Perm reordered →
        ∃ other, self.applyInPlace reordered = some (other, left) ∧
          (other = .ok () ↔ result = .ok ()) := by
  rcases applyInPlace_cases self removals with
    ⟨left, hrun, -, hremovable, hwithout⟩ | ⟨⟨text, hrun, -⟩, hnot⟩
  · refine ⟨.ok (), left, hrun, (fun _ h => by cases h), ?_, ?_⟩
    · intro _
      refine ⟨?_, hwithout.2⟩
      intro position
      rw [itemsAt, itemsAt, hwithout.1 position]
      cases self.tileItemsAt position with
      | none => rfl
      | some items => rfl
    · intro reordered hperm
      rcases applyInPlace_cases self reordered with
        ⟨other, hother, -, -, hleft⟩ | ⟨-, hrefused⟩
      · have hsame : self.Without removals other := by
          refine ⟨?_, hleft.2⟩
          intro position
          rw [hleft.1 position]
          congr 1
          funext items
          exact (remaining_perm hperm position items).symm
        rw [hwithout.unique hsame]
        exact ⟨.ok (), hother, Iff.rfl⟩
      · exact absurd (hremovable.perm hperm) hrefused
  · refine ⟨_, self, hrun, fun _ _ => rfl, (fun h => by cases h), ?_⟩
    intro reordered hperm
    rcases applyInPlace_cases self reordered with
      ⟨-, -, -, hremovable, -⟩ | ⟨⟨other, hother, -⟩, -⟩
    · exact absurd (hremovable.perm hperm.symm) hnot
    · exact ⟨_, hother, ⟨(fun h => by cases h), (fun h => by cases h)⟩⟩

end WorldMap

end ForgottenEngine
