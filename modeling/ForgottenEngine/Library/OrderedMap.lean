import Mathlib

/-!
# Ordered maps, and maps that store each value under its own key

The program keeps its tables in ordered maps and walks them in key order.  `BTreeMap` is the
extensional ordered map of the standard library; this file adds what the developments above
need of it and nothing else:

* `sumValues` — the sum of a commutative quantity over all stored values, with the law for
  taking one entry out (`sumValues_of_getElem?`) and for writing one (`sumValues_insert`);
* `getElem?_filter_eq_some`, `getElem?_filterMap_eq_some` — lookups after a `retain`;
* `lookup_foldl_of_mem`, `lookup_foldl_of_ne` — lookups after a loop of insertions;
* `set_mem_insert`, `set_mem_erase` — membership in ordered sets;
* `KeyedMap` — a map whose type says that every value is stored under `key` of itself, with
  lookup laws for `insert`, `erase` and the in-place update `modify`;
* `KeyedMap.find?` — the first value in key order that satisfies a test.
-/

/-- An ordered map without duplicate keys, compared by its lookups. -/
abbrev BTreeMap (κ ν : Type*) [Ord κ] := Std.ExtTreeMap κ ν compare

/-- An ordered set. -/
abbrev BTreeSet (κ : Type*) [Ord κ] := Std.ExtTreeSet κ compare

namespace OrderedMap

variable {κ ν M : Type*} [Ord κ] [Std.TransOrd κ] [Std.LawfulEqOrd κ] [AddCommMonoid M]

/-! ### Sums over the stored values -/

/-- The sum of `f` over the values of the map. -/
def sumValues (m : BTreeMap κ ν) (f : ν → M) : M := (m.toList.map fun e => f e.2).sum

omit [Std.LawfulEqOrd κ] in
theorem toList_none : (∅ : BTreeMap κ ν).toList = [] :=
  List.length_eq_zero_iff.mp (by rw [Std.ExtTreeMap.length_toList, Std.ExtTreeMap.size_empty])

theorem nodup_toList (m : BTreeMap κ ν) : m.toList.Nodup := by
  refine List.Pairwise.imp ?_ (Std.ExtTreeMap.distinct_keys_toList (t := m))
  intro a b hab heq
  exact hab (by rw [heq]; exact Std.ReflCmp.compare_self)

omit [Std.LawfulEqOrd κ] in
theorem nodup_keys (m : BTreeMap κ ν) : (m.toList.map Prod.fst).Nodup := by
  rw [Std.ExtTreeMap.map_fst_toList_eq_keys]
  exact Std.ExtTreeMap.nodup_keys

theorem toList_perm_of_getElem? {m : BTreeMap κ ν} {k : κ} {v : ν} (h : m[k]? = some v) :
    m.toList.Perm ((k, v) :: (m.erase k).toList) := by
  have hout : (k, v) ∉ (m.erase k).toList := by
    rw [Std.ExtTreeMap.mem_toList_iff_getElem?_eq_some]; simp
  rw [List.perm_ext_iff_of_nodup (nodup_toList m) (List.nodup_cons.mpr ⟨hout, nodup_toList _⟩)]
  rintro ⟨j, u⟩
  rw [List.mem_cons, Std.ExtTreeMap.mem_toList_iff_getElem?_eq_some,
    Std.ExtTreeMap.mem_toList_iff_getElem?_eq_some, Std.ExtTreeMap.getElem?_erase]
  by_cases hj : k = j
  · subst hj; simp [h, eq_comm]
  · simp [hj, Ne.symm hj]

/-- Taking one entry out of the map takes its value out of the sum. -/
theorem sumValues_of_getElem? {m : BTreeMap κ ν} {k : κ} {v : ν} (f : ν → M)
    (h : m[k]? = some v) : sumValues m f = f v + sumValues (m.erase k) f := by
  rw [sumValues, ((toList_perm_of_getElem? h).map _).sum_eq]
  rfl

/-- Values that count for nothing can be left out. -/
theorem sumValues_filter {m : BTreeMap κ ν} {keep : κ → ν → Bool} {f : ν → M}
    (h : ∀ (k : κ) v, m[k]? = some v → keep k v = false → f v = 0) :
    sumValues (m.filter keep) f = sumValues m f := by
  have hlist : ∀ e ∈ m.toList, keep e.1 e.2 = false → f e.2 = 0 := by
    intro e he
    exact h e.1 e.2 (Std.ExtTreeMap.mem_toList_iff_getElem?_eq_some.mp he)
  rw [sumValues, sumValues, Std.ExtTreeMap.toList_filter]
  revert hlist
  induction m.toList with
  | nil => exact fun _ => rfl
  | cons e es ih =>
    intro hlist
    rw [List.map_cons, List.sum_cons, ← ih fun e' he' => hlist e' (List.mem_cons_of_mem e he')]
    cases hkeep : keep e.1 e.2 with
    | true => rw [List.filter_cons_of_pos (by simpa using hkeep), List.map_cons, List.sum_cons]
    | false =>
      rw [List.filter_cons_of_neg (by simp [hkeep]), hlist e List.mem_cons_self hkeep, zero_add]

omit [Std.LawfulEqOrd κ] in
theorem sumValues_map {μ : Type*} (m : BTreeMap κ ν) (g : ν → μ) (f : μ → M) :
    sumValues (m.map fun _ v => g v) f = sumValues m fun v => f (g v) := by
  rw [sumValues, sumValues, Std.ExtTreeMap.toList_map, List.map_map]
  rfl

theorem sumValues_congr {m : BTreeMap κ ν} {f g : ν → M}
    (h : ∀ (k : κ) v, m[k]? = some v → f v = g v) :
    sumValues m f = sumValues m g := by
  rw [sumValues, sumValues]
  refine congrArg List.sum (List.map_congr_left fun e he => ?_)
  exact h e.1 e.2 (Std.ExtTreeMap.mem_toList_iff_getElem?_eq_some.mp he)

omit [Std.LawfulEqOrd κ] in
theorem sumValues_add (m : BTreeMap κ ν) (f g : ν → M) :
    (sumValues m fun v => f v + g v) = sumValues m f + sumValues m g := by
  rw [sumValues, sumValues, sumValues]
  exact List.sum_map_add

theorem erase_insert_self (m : BTreeMap κ ν) (k : κ) (v : ν) :
    (m.insert k v).erase k = m.erase k := by
  apply Std.ExtTreeMap.ext_getElem?
  intro j
  by_cases hj : k = j <;> simp [Std.ExtTreeMap.getElem?_erase, Std.ExtTreeMap.getElem?_insert, hj]

/-- Writing one entry replaces whatever the key held before. -/
theorem sumValues_insert (m : BTreeMap κ ν) (k : κ) (v : ν) (f : ν → M) :
    sumValues (m.insert k v) f = f v + sumValues (m.erase k) f := by
  rw [sumValues_of_getElem? f (Std.ExtTreeMap.getElem?_insert_self (t := m) (k := k) (v := v)),
    erase_insert_self]

theorem erase_of_getElem?_none {m : BTreeMap κ ν} {k : κ} (h : m[k]? = none) :
    m.erase k = m := by
  apply Std.ExtTreeMap.ext_getElem?
  intro j
  by_cases hj : k = j
  · subst hj; simp [h]
  · simp [Std.ExtTreeMap.getElem?_erase, hj]

theorem getElem?_filter_eq_some {m : BTreeMap κ ν} {f : κ → ν → Bool} {k : κ} {v : ν} :
    (m.filter f)[k]? = some v ↔ m[k]? = some v ∧ f k v = true := by
  rw [Std.ExtTreeMap.getElem?_filter, Option.pfilter_eq_some_iff]
  constructor
  · rintro ⟨h, hf⟩
    refine ⟨h, ?_⟩
    rwa [Std.ExtTreeMap.getKey_eq] at hf
  · rintro ⟨h, hf⟩
    refine ⟨h, ?_⟩
    rwa [Std.ExtTreeMap.getKey_eq]

theorem getElem?_filterMap_eq_some {μ : Type*} {m : BTreeMap κ ν} {f : κ → ν → Option μ} {k : κ}
    {v : μ} : (m.filterMap f)[k]? = some v ↔ ∃ u, m[k]? = some u ∧ f k u = some v := by
  rw [Std.ExtTreeMap.getElem?_filterMap, Option.pbind_eq_some_iff]
  constructor
  · rintro ⟨u, h, hf⟩
    refine ⟨u, h, ?_⟩
    rwa [Std.ExtTreeMap.getKey_eq] at hf
  · rintro ⟨u, h, hf⟩
    refine ⟨u, h, ?_⟩
    rwa [Std.ExtTreeMap.getKey_eq]

/-- Later insertions under other keys leave an entry as it is. -/
theorem lookup_foldl_of_ne {α : Type*} {key : α → κ} {value : α → ν} {k : κ} {xs : List α}
    (h : ∀ x ∈ xs, key x ≠ k) (m : BTreeMap κ ν) :
    (xs.foldl (fun m x => m.insert (key x) (value x)) m)[k]? = m[k]? := by
  induction xs generalizing m with
  | nil => rfl
  | cons x xs ih =>
    rw [List.foldl_cons, ih fun y hy => h y (List.mem_cons_of_mem x hy),
      Std.ExtTreeMap.getElem?_insert, if_neg]
    intro hk
    exact h x List.mem_cons_self (Std.LawfulEqOrd.eq_of_compare hk)

/-- Where all keys differ, each is found with its own value. -/
theorem lookup_foldl_of_mem {α : Type*} {key : α → κ} {value : α → ν} {xs : List α}
    (h : xs.Pairwise fun x y => key x ≠ key y) {x : α} (hx : x ∈ xs) (m : BTreeMap κ ν) :
    (xs.foldl (fun m x => m.insert (key x) (value x)) m)[key x]? = some (value x) := by
  induction xs generalizing m with
  | nil => cases hx
  | cons y ys ih =>
    obtain ⟨hhead, htail⟩ := List.pairwise_cons.mp h
    rw [List.foldl_cons]
    rcases List.mem_cons.mp hx with rfl | hmem
    · rw [lookup_foldl_of_ne fun z hz => (hhead z hz).symm]
      simp
    · exact ih htail hmem _

theorem set_mem_insert {s : BTreeSet κ} {a b : κ} : b ∈ s.insert a ↔ a = b ∨ b ∈ s := by
  rw [Std.ExtTreeSet.mem_insert, Std.LawfulEqCmp.compare_eq_iff_eq]

theorem set_mem_erase {s : BTreeSet κ} {a b : κ} : b ∈ s.erase a ↔ a ≠ b ∧ b ∈ s := by
  rw [Std.ExtTreeSet.mem_erase, ne_eq, Std.LawfulEqCmp.compare_eq_iff_eq]

end OrderedMap

/-! ### Maps that store each value under its own key -/

/-- An ordered map in which every value is stored under its own key. -/
@[ext]
structure KeyedMap (κ ν : Type*) [Ord κ] [Std.TransOrd κ] (key : ν → κ) where
  entries : BTreeMap κ ν
  keyed : ∀ k v, entries[k]? = some v → key v = k

namespace KeyedMap

section Operations

variable {κ ν M : Type*} [Ord κ] [Std.TransOrd κ] {key : ν → κ}

def empty : KeyedMap κ ν key := ⟨∅, by simp⟩

def get? (m : KeyedMap κ ν key) (k : κ) : Option ν := m.entries[k]?

def size (m : KeyedMap κ ν key) : ℕ := m.entries.size

/-- Store a value under its own key, replacing what was there. -/
def insert [Std.LawfulEqOrd κ] (m : KeyedMap κ ν key) (v : ν) : KeyedMap κ ν key where
  entries := m.entries.insert (key v) v
  keyed := by
    intro k u h
    by_cases hk : key v = k
    · simp [hk] at h; subst h; exact hk
    · rw [Std.ExtTreeMap.getElem?_insert] at h
      exact m.keyed k u (by simpa [hk] using h)

def erase (m : KeyedMap κ ν key) (k : κ) : KeyedMap κ ν key where
  entries := m.entries.erase k
  keyed := by
    intro j u h
    rw [Std.ExtTreeMap.getElem?_erase] at h
    split at h
    · cases h
    · exact m.keyed j u h

/-- Write through a reference to the value under `k`; the update may not touch the key. -/
def modify [Std.LawfulEqOrd κ] (m : KeyedMap κ ν key) (k : κ) (f : ν → ν) (hf : ∀ v, key (f v) = key v) :
    KeyedMap κ ν key where
  entries := match m.entries[k]? with
    | none => m.entries
    | some v => m.entries.insert k (f v)
  keyed := by
    intro j u h
    cases hk : m.entries[k]? with
    | none => rw [hk] at h; exact m.keyed j u h
    | some v =>
      rw [hk] at h
      by_cases hj : k = j
      · subst hj
        simp at h
        subst h
        rw [hf]
        exact m.keyed k v hk
      · rw [Std.ExtTreeMap.getElem?_insert] at h
        exact m.keyed j u (by simpa [hj] using h)

/-- The first value, in key order, that passes the test. -/
def find? (m : KeyedMap κ ν key) (p : ν → Bool) : Option ν :=
  (m.entries.toList.map Prod.snd).find? p

/-- The sum of `f` over the values of the map. -/
def sumValues [AddCommMonoid M] (m : KeyedMap κ ν key) (f : ν → M) : M :=
  OrderedMap.sumValues m.entries f

theorem key_of_get? {m : KeyedMap κ ν key} {k : κ} {v : ν} (h : m.get? k = some v) : key v = k :=
  m.keyed k v h

@[simp] theorem get?_empty (k : κ) : (empty : KeyedMap κ ν key).get? k = none := by
  simp [get?, empty]

end Operations

variable {κ ν M : Type*} [Ord κ] [Std.TransOrd κ] [Std.LawfulEqOrd κ] {key : ν → κ}

theorem ext_get? {m n : KeyedMap κ ν key} (h : ∀ k, m.get? k = n.get? k) : m = n :=
  KeyedMap.ext (Std.ExtTreeMap.ext_getElem? h)

theorem get?_insert [DecidableEq κ] (m : KeyedMap κ ν key) (v : ν) (k : κ) :
    (m.insert v).get? k = if key v = k then some v else m.get? k := by
  simp [get?, insert, Std.ExtTreeMap.getElem?_insert]

theorem get?_erase [DecidableEq κ] (m : KeyedMap κ ν key) (j k : κ) :
    (m.erase j).get? k = if j = k then none else m.get? k := by
  simp [get?, erase, Std.ExtTreeMap.getElem?_erase]

theorem get?_modify [DecidableEq κ] (m : KeyedMap κ ν key) (j : κ) (f : ν → ν) (hf : ∀ v, key (f v) = key v)
    (k : κ) : (m.modify j f hf).get? k = if j = k then (m.get? k).map f else m.get? k := by
  simp only [get?, modify]
  by_cases hj : j = k
  · subst hj
    cases h : m.entries[j]? <;> simp [h]
  · cases h : m.entries[j]? <;> simp [hj, Std.ExtTreeMap.getElem?_insert]

theorem find?_eq_some {m : KeyedMap κ ν key} {p : ν → Bool} {v : ν} (h : m.find? p = some v) :
    p v = true ∧ m.get? (key v) = some v := by
  refine ⟨List.find?_some h, ?_⟩
  obtain ⟨⟨k, u⟩, hmem, rfl⟩ := List.mem_map.mp (List.mem_of_find?_eq_some h)
  rw [Std.ExtTreeMap.mem_toList_iff_getElem?_eq_some] at hmem
  rw [m.keyed k u hmem]
  exact hmem

theorem find?_eq_none {m : KeyedMap κ ν key} {p : ν → Bool} :
    m.find? p = none ↔ ∀ k v, m.get? k = some v → p v = false := by
  rw [find?, List.find?_eq_none]
  constructor
  · intro h k v hk
    have hmem : v ∈ m.entries.toList.map Prod.snd :=
      List.mem_map.mpr ⟨(k, v), Std.ExtTreeMap.mem_toList_iff_getElem?_eq_some.mpr hk, rfl⟩
    simpa using h v hmem
  · intro h v hv
    obtain ⟨⟨k, u⟩, hmem, rfl⟩ := List.mem_map.mp hv
    simp [h k u (Std.ExtTreeMap.mem_toList_iff_getElem?_eq_some.mp hmem)]

theorem sumValues_of_get? [AddCommMonoid M] {m : KeyedMap κ ν key} {k : κ} {v : ν} (f : ν → M)
    (h : m.get? k = some v) : m.sumValues f = f v + (m.erase k).sumValues f :=
  OrderedMap.sumValues_of_getElem? f h

omit [Std.LawfulEqOrd κ] in
theorem size_erase_add_one {m : KeyedMap κ ν key} {k : κ} {v : ν} (h : m.get? k = some v) :
    (m.erase k).size + 1 = m.size := by
  have hmem : k ∈ m.entries := by
    rw [← Std.ExtTreeMap.isSome_getElem?_iff_mem, show m.entries[k]? = some v from h]; rfl
  have hpos : m.entries.size ≠ 0 := by
    intro h0
    rw [Std.ExtTreeMap.eq_empty_iff_size_eq_zero.mpr h0] at hmem
    simp at hmem
  have hsize : (m.entries.erase k).size = m.entries.size - 1 := by
    rw [Std.ExtTreeMap.size_erase, if_pos (Std.ExtTreeMap.contains_iff_mem.mpr hmem)]
  simp only [size, erase, hsize]
  omega

omit [Std.LawfulEqOrd κ] in
theorem size_erase_le (m : KeyedMap κ ν key) (k : κ) : (m.erase k).size ≤ m.size := by
  simp only [size, erase]
  exact Std.ExtTreeMap.size_erase_le

theorem size_insert_le (m : KeyedMap κ ν key) (v : ν) : (m.insert v).size ≤ m.size + 1 := by
  simp only [size, insert]
  exact Std.ExtTreeMap.size_insert_le

theorem size_insert_of_get? {m : KeyedMap κ ν key} {v u : ν} (h : m.get? (key v) = some u) :
    (m.insert v).size = m.size := by
  have hmem : key v ∈ m.entries := by
    rw [← Std.ExtTreeMap.isSome_getElem?_iff_mem, show m.entries[key v]? = some u from h]; rfl
  simp [size, insert, Std.ExtTreeMap.size_insert, hmem]

theorem size_modify (m : KeyedMap κ ν key) (k : κ) (f : ν → ν) (hf : ∀ v, key (f v) = key v) :
    (m.modify k f hf).size = m.size := by
  simp only [size, modify]
  cases h : m.entries[k]? with
  | none => rfl
  | some v =>
    have hmem : k ∈ m.entries := by rw [← Std.ExtTreeMap.isSome_getElem?_iff_mem, h]; rfl
    simp [Std.ExtTreeMap.size_insert, hmem]

/-- An in-place update exchanges the old value for the new one in the sum. -/
theorem sumValues_modify [DecidableEq κ] [AddCommMonoid M] {m : KeyedMap κ ν key} {k : κ} {v : ν} {g : ν → ν}
    (hg : ∀ v, key (g v) = key v) (f : ν → M) (h : m.get? k = some v) :
    (m.modify k g hg).sumValues f = f (g v) + (m.erase k).sumValues f := by
  have hk : (m.modify k g hg).get? k = some (g v) := by simp [get?_modify, h]
  have he : (m.modify k g hg).erase k = m.erase k := by
    apply ext_get?
    intro j
    by_cases hj : k = j <;> simp [get?_erase, get?_modify, hj]
  rw [sumValues_of_get? f hk, he]

end KeyedMap
