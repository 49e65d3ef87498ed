import Mathlib

/-!
# Sorting by keys that tell the entries apart

`sortByKey key xs` sorts a list by a key, and keeps the order of entries with one key.

* `perm_sortByKey`, `pairwise_sortByKey` — the entries of the list, in the order of their keys;
* `sortByKey_eq_of_perm` — **when no two entries share a key, the order the list came in does not
  matter**;
* `sortByKey_eq_of_sorted` — a sorted list of the same entries is the result;
* `sortByKey_map` — sorting what is made of the entries.
-/

variable {α κ : Type*} [LinearOrder κ] (key : α → κ)

/-- The list in the order of the keys; entries with one key stay in their order. -/
def sortByKey (xs : List α) : List α := xs.insertionSort fun a b => key a ≤ key b

theorem perm_sortByKey (xs : List α) : (sortByKey key xs).Perm xs := List.perm_insertionSort _ xs

theorem sortByKey_eq_nil {xs : List α} : sortByKey key xs = [] ↔ xs = [] := by
  rw [← List.length_eq_zero_iff, (perm_sortByKey key xs).length_eq, List.length_eq_zero_iff]

theorem pairwise_sortByKey (xs : List α) :
    (sortByKey key xs).Pairwise fun a b => key a ≤ key b := by
  have htotal : Std.Total fun a b : α => key a ≤ key b := ⟨fun a b => le_total (key a) (key b)⟩
  have htrans : IsTrans α fun a b => key a ≤ key b := ⟨fun _ _ _ => le_trans⟩
  exact List.pairwise_insertionSort _ xs

/-- **Sorting does not depend on the order of the list**, when no two entries share a key. -/
theorem sortByKey_eq_of_perm {xs ys : List α} (h : xs.Perm ys) (hkeys : (xs.map key).Nodup) :
    sortByKey key xs = sortByKey key ys := by
  have hperm : (sortByKey key xs).Perm (sortByKey key ys) :=
    ((perm_sortByKey key xs).trans h).trans (perm_sortByKey key ys).symm
  refine hperm.eq_of_pairwise ?_ (pairwise_sortByKey key xs) (pairwise_sortByKey key ys)
  intro a b ha hb hab hba
  have ha' : a ∈ xs := (perm_sortByKey key xs).mem_iff.mp ha
  have hb' : b ∈ xs := h.mem_iff.mpr ((perm_sortByKey key ys).mem_iff.mp hb)
  exact List.inj_on_of_nodup_map hkeys ha' hb' (le_antisymm hab hba)

/-- A sorted list of the same entries is the result. -/
theorem sortByKey_eq_of_sorted {xs ys : List α} (h : xs.Perm ys)
    (hsorted : ys.Pairwise fun a b => key a < key b) : sortByKey key xs = ys := by
  have hkeys : (ys.map key).Nodup := List.pairwise_map.mpr (hsorted.imp ne_of_lt)
  rw [← sortByKey_eq_of_perm key h.symm hkeys]
  exact List.Pairwise.insertionSort_eq (hsorted.imp le_of_lt)

/-- Without two entries of one key the result is strictly sorted. -/
theorem pairwise_lt_sortByKey {xs : List α} (hkeys : (xs.map key).Nodup) :
    (sortByKey key xs).Pairwise fun a b => key a < key b := by
  have hapart : (sortByKey key xs).Pairwise fun a b => key a ≠ key b :=
    List.pairwise_map.mp (((perm_sortByKey key xs).map key).nodup_iff.mpr hkeys)
  exact (pairwise_sortByKey key xs).imp₂ (fun _ _ hle hne => lt_of_le_of_ne hle hne) hapart

/-- Sorting what is made of the entries. -/
theorem sortByKey_map {β : Type*} (key : β → κ) (f : α → β) (xs : List α) :
    sortByKey key (xs.map f) = (sortByKey (fun a => key (f a)) xs).map f :=
  (List.map_insertionSort _ _ f xs fun _ _ _ _ => Iff.rfl).symm
