import Mathlib

/-!
# Removing entries of a list by their indices

A program that removes several entries of a vector by index goes through the indices from the
largest down, so that one removal does not move the entries the others name.

* `keep` — the entries whose index passes a test, in order;
* `foldl_eraseIdx` — erasing a strictly decreasing list of indices keeps the entries it does not
  name;
* `removeIndices` — sort the indices, largest first, and erase them: `removeIndices_eq` for
  distinct indices;
* `indicesWhere` — the indices of the entries that pass a test; erasing them from the last one
  down is a filter (`eraseIdx_indicesWhere`);
* `sum_map_set` — overwriting one entry exchanges its share of a sum;
* `nodup_of_fresh` — entries that each differ from the ones before them.
-/

namespace Indices

variable {α β : Type*}

/-- The entries whose index passes the test. -/
def keep (p : ℕ → Bool) (xs : List α) : List α := (xs.zipIdx.filter fun e => p e.2).map Prod.fst

/-- Erase the listed indices, the largest first. -/
def removeIndices (xs : List α) (indices : List ℕ) : List α :=
  (indices.insertionSort (· ≥ ·)).foldl List.eraseIdx xs

/-- The indices of the entries that pass the test, in ascending order. -/
def indicesWhere (q : α → Bool) (xs : List α) : List ℕ :=
  (xs.zipIdx.filter fun e => q e.1).map Prod.snd

@[simp] theorem keep_nil (p : ℕ → Bool) : keep p ([] : List α) = [] := rfl

theorem keep_cons (p : ℕ → Bool) (x : α) (xs : List α) :
    keep p (x :: xs) = (if p 0 then [x] else []) ++ keep (fun i => p (i + 1)) xs := by
  have hshift : xs.zipIdx 1 = xs.zipIdx.map (Prod.map id (· + 1)) := by
    rw [List.zipIdx_eq_map_add]
    refine List.map_congr_left fun e _ => ?_
    simp [Prod.map, Nat.add_comm]
  have hrest : ((xs.zipIdx 1).filter fun e => p e.2).map Prod.fst =
      keep (fun i => p (i + 1)) xs := by
    rw [hshift, List.filter_map, List.map_map]
    rfl
  unfold keep at *
  rw [List.zipIdx_cons, List.filter_cons]
  by_cases h : p 0
  · simp [h, hrest]
  · simp [h, hrest]

theorem keep_append (p : ℕ → Bool) (xs ys : List α) :
    keep p (xs ++ ys) = keep p xs ++ keep (fun i => p (i + xs.length)) ys := by
  induction xs generalizing p with
  | nil => simp
  | cons x xs ih =>
    rw [List.cons_append, keep_cons, keep_cons, ih, List.append_assoc]
    have hadd (i : ℕ) : i + xs.length + 1 = i + (x :: xs).length := by simp; omega
    simp only [hadd]

theorem keep_congr {p q : ℕ → Bool} {xs : List α} (h : ∀ i < xs.length, p i = q i) :
    keep p xs = keep q xs := by
  unfold keep
  congr 1
  apply List.filter_congr
  intro e he
  exact h e.2 (by simpa using (List.mem_zipIdx he).2.1)

theorem keep_all {p : ℕ → Bool} {xs : List α} (h : ∀ i < xs.length, p i = true) :
    keep p xs = xs := by
  rw [keep_congr (q := fun _ => true) h]
  simp [keep]

theorem keep_map (p : ℕ → Bool) (f : α → β) (xs : List α) :
    keep p (xs.map f) = (keep p xs).map f := by
  induction xs generalizing p with
  | nil => rfl
  | cons x xs ih =>
    rw [List.map_cons, keep_cons, keep_cons, ih, List.map_append]
    split <;> rfl

/-- The kept entries, read off the kept indices. -/
theorem keep_eq_filterMap (p : ℕ → Bool) (xs : List α) :
    keep p xs = ((List.range xs.length).filter p).filterMap (xs[·]?) := by
  induction xs generalizing p with
  | nil => rfl
  | cons x xs ih =>
    have hrest : ((List.range xs.length).filter fun i => p (i + 1)).filterMap (xs[·]?) =
        (((List.range xs.length).filter (p ∘ Nat.succ)).map Nat.succ).filterMap
          ((x :: xs)[·]?) := by
      rw [List.filterMap_map]
      rfl
    rw [keep_cons, ih, hrest, List.length_cons, List.range_succ_eq_map, List.filter_cons,
      List.filter_map]
    by_cases h : p 0
    · simp [h]
    · simp [h]

/-- **Erasing from the largest index down.** -/
theorem foldl_eraseIdx {ds : List ℕ} (hds : ds.Pairwise (· > ·)) (xs : List α) :
    ds.foldl List.eraseIdx xs = keep (fun i => decide (i ∉ ds)) xs := by
  induction ds generalizing xs with
  | nil => exact (keep_all (by simp)).symm
  | cons d ds ih =>
    obtain ⟨hd, hrest⟩ := List.pairwise_cons.mp hds
    rw [List.foldl_cons, ih hrest]
    by_cases hlt : d < xs.length
    · -- the entries behind `d` move down by one, and no remaining index names one of them
      have hlen : (xs.take d).length = d := by rw [List.length_take]; omega
      rw [List.eraseIdx_eq_take_drop_succ]
      conv_rhs => rw [← List.take_append_drop d xs, List.drop_eq_getElem_cons hlt]
      rw [keep_append, keep_append, keep_cons, hlen]
      have hfront : keep (fun i => decide (i ∉ ds)) (xs.take d) =
          keep (fun i => decide (i ∉ d :: ds)) (xs.take d) := by
        apply keep_congr
        intro i hi
        have hne : i ≠ d := by omega
        simp [hne]
      have hback : keep (fun i => decide (i + d ∉ ds)) (xs.drop (d + 1)) =
          keep (fun i => decide (i + 1 + d ∉ d :: ds)) (xs.drop (d + 1)) := by
        apply keep_congr
        intro i _
        have h1 : i + d ∉ ds := fun hmem => by have := hd _ hmem; omega
        have h2 : i + 1 + d ∉ d :: ds := by
          intro hmem
          rcases List.mem_cons.mp hmem with heq | hmem
          · omega
          · have := hd _ hmem; omega
        simp only [h1, h2, not_false_eq_true]
      rw [hfront, hback]
      simp
    · rw [List.eraseIdx_of_length_le (by omega)]
      apply keep_congr
      intro i hi
      have hne : i ≠ d := by omega
      simp [hne]

theorem removeIndices_eq {indices : List ℕ} (hnodup : indices.Nodup) (xs : List α) :
    removeIndices xs indices = keep (fun i => decide (i ∉ indices)) xs := by
  have hperm := List.perm_insertionSort (· ≥ ·) indices
  have hsorted := List.pairwise_insertionSort (· ≥ ·) indices
  have hstrict : (indices.insertionSort (· ≥ ·)).Pairwise (· > ·) := by
    have hne := List.nodup_iff_pairwise_ne.mp (hperm.nodup_iff.mpr hnodup)
    exact (hsorted.and hne).imp fun h => lt_of_le_of_ne h.1 (Ne.symm h.2)
  rw [removeIndices, foldl_eraseIdx hstrict]
  apply keep_congr
  intro i _
  exact decide_eq_decide.mpr (not_congr hperm.mem_iff)

theorem length_foldl_eraseIdx_le (is : List ℕ) (xs : List α) :
    (is.foldl List.eraseIdx xs).length ≤ xs.length := by
  induction is generalizing xs with
  | nil => exact le_refl _
  | cons i is ih => exact le_trans (ih _) (List.length_eraseIdx_le xs i)

theorem length_removeIndices_le (xs : List α) (indices : List ℕ) :
    (removeIndices xs indices).length ≤ xs.length :=
  length_foldl_eraseIdx_le _ _

theorem indicesWhere_sorted (q : α → Bool) (xs : List α) :
    (indicesWhere q xs).Pairwise (· < ·) := by
  have hrange : (xs.zipIdx.map Prod.snd).Pairwise (· < ·) := by
    rw [List.zipIdx_map_snd]
    exact List.pairwise_lt_range'
  exact List.Pairwise.sublist (List.Sublist.map _ List.filter_sublist) hrange

theorem mem_indicesWhere {q : α → Bool} {xs : List α} {i : ℕ} :
    i ∈ indicesWhere q xs ↔ ∃ x, xs[i]? = some x ∧ q x = true := by
  simp only [indicesWhere, List.mem_map, List.mem_filter, List.mem_zipIdx_iff_getElem?,
    Prod.exists]
  constructor
  · rintro ⟨x, j, ⟨hx, hq⟩, rfl⟩
    exact ⟨x, hx, hq⟩
  · rintro ⟨x, hx, hq⟩
    exact ⟨x, i, ⟨hx, hq⟩, rfl⟩

/-- A test on indices that agrees with a test on the entries keeps what passes the latter. -/
theorem keep_eq_filter {p : ℕ → Bool} {q : α → Bool} {xs : List α}
    (h : ∀ i x, xs[i]? = some x → p i = q x) : keep p xs = xs.filter q := by
  unfold keep
  have hfilter : (xs.zipIdx.filter fun e => p e.2) = xs.zipIdx.filter fun e => q e.1 := by
    apply List.filter_congr
    intro e he
    exact h e.2 e.1 (List.mem_zipIdx_iff_getElem?.mp he)
  have hpush : (xs.zipIdx.map Prod.fst).filter q =
      (xs.zipIdx.filter fun e => q e.1).map Prod.fst := List.filter_map
  rw [hfilter, ← hpush, List.zipIdx_map_fst]

/-- Erasing every entry that passes the test, the last one first, is a filter. -/
theorem eraseIdx_indicesWhere (q : α → Bool) (xs : List α) :
    (indicesWhere q xs).reverse.foldl List.eraseIdx xs = xs.filter fun x => !q x := by
  rw [foldl_eraseIdx (List.pairwise_reverse.mpr (indicesWhere_sorted q xs))]
  apply keep_eq_filter
  intro i x hx
  have hmem : i ∈ (indicesWhere q xs).reverse ↔ q x = true := by
    rw [List.mem_reverse, mem_indicesWhere]
    simp [hx]
  by_cases hq : q x = true
  · simp [hmem.mpr hq, hq]
  · simp [mt hmem.mp hq, hq]

/-- In a list without repetitions, erasing an index is filtering its entry out. -/
theorem eraseIdx_eq_filter [DecidableEq α] {xs : List α} (h : xs.Nodup) {i : ℕ} {x : α}
    (hi : xs[i]? = some x) : xs.eraseIdx i = xs.filter fun y => y ≠ x := by
  obtain ⟨hlt, rfl⟩ := List.getElem?_eq_some_iff.mp hi
  rw [← h.erase_getElem i hlt, h.erase_eq_filter]
  apply List.filter_congr
  intro y _
  by_cases hy : y = xs[i] <;> simp [hy]

/-! ### Overwriting an entry -/

theorem sum_map_set {M : Type*} [AddCommMonoid M] (f : α → M) {xs : List α} {i : ℕ} {x : α}
    (y : α) (h : xs[i]? = some x) : ((xs.set i y).map f).sum + f x = (xs.map f).sum + f y := by
  have hlt : i < xs.length := (List.getElem?_eq_some_iff.mp h).1
  have hx : (xs.map f).sum = f x + ((xs.eraseIdx i).map f).sum := by
    obtain ⟨hi, rfl⟩ := List.getElem?_eq_some_iff.mp h
    rw [← List.sum_cons, ← List.map_cons]
    exact ((List.getElem_cons_eraseIdx_perm hi).map f).sum_eq.symm
  have hy : ((xs.set i y).map f).sum = f y + ((xs.eraseIdx i).map f).sum := by
    have hi : i < (xs.set i y).length := by rw [List.length_set]; exact hlt
    have hperm := ((List.getElem_cons_eraseIdx_perm hi).map f).sum_eq
    rw [List.getElem_set_self, List.eraseIdx_set_eq, List.map_cons, List.sum_cons] at hperm
    exact hperm.symm
  rw [hx, hy]
  abel

/-- Entries that each differ from those before them. -/
theorem nodup_of_fresh {f : α → β} {xs : List α}
    (h : ∀ e ∈ xs.zipIdx, f e.1 ∉ (xs.take e.2).map f) : (xs.map f).Nodup := by
  rw [List.Nodup, List.pairwise_map, List.pairwise_iff_getElem]
  intro i j hi hj hij heq
  have hentry : (xs[j], j) ∈ xs.zipIdx := by
    rw [List.mem_zipIdx_iff_getElem?]
    exact List.getElem?_eq_getElem hj
  refine h _ hentry (List.mem_map.mpr ⟨xs[i], ?_, heq⟩)
  rw [List.mem_take_iff_getElem]
  exact ⟨i, by omega, rfl⟩

end Indices
