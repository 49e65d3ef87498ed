import ForgottenEngine.Library.OrderedMap

/-!
# Relational tables, and reading a map back from rows

A `Table` is a list of rows with a primary key.  The type keeps the key: two rows with the same
key never stand in one table.  Rows whose key has a null column are exempt, as in SQLite.

* `insert`, `insertAll`, `delete` — the statements; `rows_insertAll` is what a batch of inserts
  leaves, `exists_insertAll` when it goes through;
* `orderBy` — the rows of a query in the order of one column;
* `hydrate_iff` — **reading a map back**: a loop that decodes the rows of a map one by one and
  stores each value under its key rebuilds the map exactly when every value decodes to itself.
-/

/-- The rows of a table; `key` is the primary key, `none` for a row with a null key column. -/
@[ext]
structure Table (ρ κ : Type*) (key : ρ → Option κ) where
  rows : List ρ
  unique : (rows.filterMap key).Nodup

namespace Table

variable {ρ κ : Type*} {key : ρ → Option κ}

def empty : Table ρ κ key := ⟨[], List.nodup_nil⟩

/-- `DELETE … WHERE p`. -/
def delete (t : Table ρ κ key) (p : ρ → Bool) : Table ρ κ key where
  rows := t.rows.filter fun row => !p row
  unique := t.unique.sublist (List.filter_sublist.filterMap key)

/-- The row would repeat a primary key. -/
def clashes [DecidableEq κ] (t : Table ρ κ key) (row : ρ) : Bool :=
  match key row with
  | none => false
  | some k => decide (k ∈ t.rows.filterMap key)

theorem nodup_append_of_clashes [DecidableEq κ] {t : Table ρ κ key} {row : ρ}
    (h : t.clashes row = false) : ((t.rows ++ [row]).filterMap key).Nodup := by
  unfold clashes at h
  rw [List.filterMap_append]
  cases hk : key row with
  | none => simpa [hk] using t.unique
  | some k =>
    simp only [hk, decide_eq_false_iff_not] at h
    have hone : [row].filterMap key = [k] := by simp [hk]
    rw [hone, List.nodup_append]
    refine ⟨t.unique, List.nodup_singleton k, ?_⟩
    intro a ha b hb heq
    rw [List.mem_singleton.mp hb] at heq
    exact h (heq ▸ ha)

/-- `INSERT`; `none` when the primary key is taken. -/
def insert [DecidableEq κ] (t : Table ρ κ key) (row : ρ) : Option (Table ρ κ key) :=
  if h : t.clashes row = false then some ⟨t.rows ++ [row], nodup_append_of_clashes h⟩ else none

def insertAll [DecidableEq κ] (t : Table ρ κ key) (rows : List ρ) : Option (Table ρ κ key) :=
  rows.foldlM insert t

theorem insert_eq_some [DecidableEq κ] {t t' : Table ρ κ key} {row : ρ} :
    t.insert row = some t' ↔ t.clashes row = false ∧ t'.rows = t.rows ++ [row] := by
  unfold insert
  split
  · rename_i h
    simp only [h, true_and, Option.some.injEq]
    constructor
    · intro heq
      rw [← heq]
    · intro hrows
      exact Table.ext hrows.symm
  · rename_i h
    simp [h]

/-- **A batch of inserts** appends its rows. -/
theorem rows_insertAll [DecidableEq κ] {t t' : Table ρ κ key} {rows : List ρ}
    (h : t.insertAll rows = some t') : t'.rows = t.rows ++ rows := by
  induction rows generalizing t with
  | nil =>
    cases h
    rw [List.append_nil]
  | cons row rows ih =>
    unfold insertAll at h
    rw [List.foldlM_cons, Option.bind_eq_bind, Option.bind_eq_some_iff] at h
    obtain ⟨u, hu, hrest⟩ := h
    rw [ih hrest, (insert_eq_some.mp hu).2, List.append_assoc]
    rfl

/-- Inserts whose keys are all different go through. -/
theorem exists_insertAll [DecidableEq κ] {t : Table ρ κ key} {rows : List ρ}
    (h : ((t.rows ++ rows).filterMap key).Nodup) : ∃ t', t.insertAll rows = some t' := by
  induction rows generalizing t with
  | nil => exact ⟨t, rfl⟩
  | cons row rows ih =>
    have hsplit : t.rows ++ row :: rows = (t.rows ++ [row]) ++ rows := by simp
    rw [hsplit] at h
    have hrow : t.clashes row = false := by
      unfold clashes
      cases hk : key row with
      | none => rfl
      | some k =>
        have hone : ((t.rows ++ [row]).filterMap key).Nodup := by
          rw [List.filterMap_append] at h
          exact (List.nodup_append.mp h).1
        have hlast : [row].filterMap key = [k] := by simp [hk]
        rw [List.filterMap_append, hlast, List.nodup_append] at hone
        simp only [decide_eq_false_iff_not]
        intro hmem
        exact hone.2.2 k hmem k List.mem_cons_self rfl
    let u : Table ρ κ key := ⟨t.rows ++ [row], nodup_append_of_clashes hrow⟩
    obtain ⟨t', ht'⟩ := ih (t := u) h
    refine ⟨t', ?_⟩
    have hinsert : t.insert row = some u := insert_eq_some.mpr ⟨hrow, rfl⟩
    unfold insertAll
    rw [List.foldlM_cons, hinsert]
    exact ht'

/-- Rows of one owner in the place of the owner's old ones: their keys differ from each other, and
the key of a row tells whose it is. -/
theorem exists_insertAll_delete [DecidableEq κ] (t : Table ρ κ key) (owned : ρ → Bool)
    {rows : List ρ} (hkeys : (rows.filterMap key).Nodup)
    (howner : ∀ row row' k, key row = some k → key row' = some k → owned row = owned row')
    (hrows : ∀ row ∈ rows, owned row = true) : ∃ t', (t.delete owned).insertAll rows = some t' := by
  apply exists_insertAll
  rw [List.filterMap_append]
  refine List.nodup_append.mpr ⟨(t.delete owned).unique, hkeys, ?_⟩
  intro k hk k' hk' heq
  subst heq
  obtain ⟨row, hrow, hkey⟩ := List.mem_filterMap.mp hk
  obtain ⟨row', hrow', hkey'⟩ := List.mem_filterMap.mp hk'
  have hold : owned row = false := by simpa using (List.mem_filter.mp hrow).2
  rw [howner row row' k hkey hkey', hrows row' hrow'] at hold
  cases hold

theorem rows_delete_all (t : Table ρ κ key) : (t.delete fun _ => true).rows = [] := by
  simp [delete]

/-- Rows in the place of all others. -/
theorem exists_insertAll_delete_all [DecidableEq κ] (t : Table ρ κ key) {rows : List ρ}
    (hkeys : (rows.filterMap key).Nodup) :
    ∃ t', (t.delete fun _ => true).insertAll rows = some t' := by
  apply exists_insertAll
  rw [rows_delete_all, List.nil_append]
  exact hkeys

/-- The rows of a query in the order of one column. -/
def orderBy (column : ρ → ℤ) (rows : List ρ) : List ρ :=
  rows.insertionSort fun a b => column a ≤ column b

theorem orderBy_of_pairwise {column : ρ → ℤ} {rows : List ρ}
    (h : rows.Pairwise fun a b => column a ≤ column b) : orderBy column rows = rows :=
  List.Pairwise.insertionSort_eq h

/-- Rows numbered from `n` on come in their order. -/
theorem orderBy_zipIdx {α : Type*} {column : ρ → ℤ} {f : α × ℕ → ρ}
    (hf : ∀ e, column (f e) = e.2) (xs : List α) (n : ℕ) :
    orderBy column ((xs.zipIdx n).map f) = (xs.zipIdx n).map f := by
  apply orderBy_of_pairwise
  rw [List.pairwise_map]
  induction xs generalizing n with
  | nil => exact List.Pairwise.nil
  | cons x xs ih =>
    rw [List.zipIdx_cons]
    refine List.Pairwise.cons ?_ (ih (n + 1))
    intro e he
    rw [hf, hf]
    have hle := (List.mem_zipIdx he).1
    simp only
    omega

end Table

/-- Of blocks chosen by a key, the block of one key. -/
theorem List.flatMap_unique {α β κ : Type*} [DecidableEq κ] (key : α → κ) {l : List α} {a : α}
    (hl : l.Pairwise fun a b => key a ≠ key b) (ha : a ∈ l) (f : α → List β) :
    (l.flatMap fun b => if key b = key a then f b else []) = f a := by
  have hnone (rest : List α) (h : ∀ b ∈ rest, key b ≠ key a) :
      (rest.flatMap fun b => if key b = key a then f b else []) = [] := by
    rw [List.flatMap_eq_nil_iff]
    intro b hb
    rw [if_neg (h b hb)]
  induction l with
  | nil => exact absurd ha List.not_mem_nil
  | cons b l ih =>
    obtain ⟨hhead, htail⟩ := List.pairwise_cons.mp hl
    rw [List.flatMap_cons]
    rcases List.mem_cons.mp ha with rfl | ha
    · rw [if_pos rfl, hnone l fun c hc => (hhead c hc).symm, List.append_nil]
    · rw [if_neg (hhead a ha), List.nil_append]
      exact ih htail ha

/-- Numbered elements have different numbers. -/
theorem List.pairwise_zipIdx {α : Type*} (xs : List α) (n : ℕ) :
    (xs.zipIdx n).Pairwise fun a b => a.2 ≠ b.2 := by
  induction xs generalizing n with
  | nil => exact List.Pairwise.nil
  | cons x xs ih =>
    rw [List.zipIdx_cons]
    refine List.Pairwise.cons ?_ (ih (n + 1))
    intro b hb
    have hle := (List.mem_zipIdx hb).1
    simp only
    omega

/-! ### Reading a map back -/

section Hydrate

variable {σ κ ν ε : Type} {get : σ → κ → Option ν} {put : σ → κ → ν → Except ε σ}
  {dec : κ → ν → Except ε ν}

/-- Decode the value that was written for a key, and store it under the key. -/
def hydrateStep (put : σ → κ → ν → Except ε σ) (dec : κ → ν → Except ε ν) (s : σ) (e : κ × ν) :
    Except ε σ := do
  let v ← dec e.1 e.2
  put s e.1 v

/-- What a loop that went through has stored. -/
theorem get_of_hydrate [DecidableEq κ]
    (hget : ∀ s k u v s', dec k u = .ok v → put s k v = .ok s' →
      ∀ j, get s' j = if k = j then some v else get s j)
    {l : List (κ × ν)} (hl : l.Pairwise fun a b => a.1 ≠ b.1) {s t : σ}
    (h : l.foldlM (hydrateStep put dec) s = .ok t) :
    (∀ e ∈ l, ∃ v, dec e.1 e.2 = .ok v ∧ get t e.1 = some v) ∧
      ∀ j, (∀ e ∈ l, e.1 ≠ j) → get t j = get s j := by
  induction l generalizing s with
  | nil =>
    cases h
    exact ⟨fun e he => absurd he List.not_mem_nil, fun j _ => rfl⟩
  | cons e l ih =>
    rw [List.foldlM_cons] at h
    cases hv : dec e.1 e.2 with
    | error x => simp [hydrateStep, hv, bind, Except.bind] at h
    | ok v =>
      cases hs : put s e.1 v with
      | error x => simp [hydrateStep, hv, hs, bind, Except.bind] at h
      | ok s' =>
        have hrest : l.foldlM (hydrateStep put dec) s' = .ok t := by
          simpa [hydrateStep, hv, hs, bind, Except.bind] using h
        obtain ⟨hhead, htail⟩ := List.pairwise_cons.mp hl
        obtain ⟨hall, hout⟩ := ih htail hrest
        refine ⟨?_, ?_⟩
        · intro d hd
          rcases List.mem_cons.mp hd with rfl | hd
          · refine ⟨v, hv, ?_⟩
            rw [hout d.1 fun c hc => (hhead c hc).symm, hget s d.1 d.2 v s' hv hs, if_pos rfl]
          · exact hall d hd
        · intro j hj
          have hne : e.1 ≠ j := hj e List.mem_cons_self
          rw [hout j fun c hc => hj c (List.mem_cons_of_mem e hc), hget s e.1 e.2 v s' hv hs, if_neg hne]

/-- A loop over values that decode to themselves goes through while there is room. -/
theorem exists_hydrate {Room : ℕ → σ → Prop}
    (hroom : ∀ n s k v, Room (n + 1) s → ∃ s', put s k v = .ok s' ∧ Room n s')
    {l : List (κ × ν)} (hdec : ∀ e ∈ l, dec e.1 e.2 = .ok e.2) {s : σ} (hs : Room l.length s) :
    ∃ t, l.foldlM (hydrateStep put dec) s = .ok t := by
  induction l generalizing s with
  | nil => exact ⟨s, rfl⟩
  | cons e l ih =>
    obtain ⟨s', hput, hs'⟩ := hroom l.length s e.1 e.2 hs
    obtain ⟨t, ht⟩ := ih (fun d hd => hdec d (List.mem_cons_of_mem e hd)) hs'
    refine ⟨t, ?_⟩
    have hstep : hydrateStep put dec s e = .ok s' := by
      simp [hydrateStep, hdec e List.mem_cons_self, hput, bind, Except.bind]
    rw [List.foldlM_cons, hstep]
    exact ht

/-- **Reading a map back** gives the map exactly when every value decodes to itself. -/
theorem hydrate_iff [DecidableEq κ] [Ord κ] [Std.TransOrd κ] [Std.LawfulEqOrd κ]
    (get : σ → κ → Option ν) (Room : ℕ → σ → Prop)
    (hget : ∀ s k u v s', dec k u = .ok v → put s k v = .ok s' →
      ∀ j, get s' j = if k = j then some v else get s j)
    (hroom : ∀ n s k v, Room (n + 1) s → ∃ s', put s k v = .ok s' ∧ Room n s')
    (hext : ∀ s t : σ, (∀ j, get s j = get t j) → s = t) {m : BTreeMap κ ν} {s₀ t : σ}
    (hm : ∀ j, get t j = m[j]?) (hempty : ∀ j, get s₀ j = none) (hs₀ : Room m.size s₀) :
    m.toList.foldlM (hydrateStep put dec) s₀ = .ok t ↔
      ∀ (k : κ) (v : ν), m[k]? = some v → dec k v = .ok v := by
  have hmem (e : κ × ν) : e ∈ m.toList ↔ m[e.1]? = some e.2 :=
    Std.ExtTreeMap.mem_toList_iff_getElem?_eq_some
  have hkeys : m.toList.Pairwise fun a b => a.1 ≠ b.1 := by
    refine List.Pairwise.imp ?_ (Std.ExtTreeMap.distinct_keys_toList (t := m))
    intro a b hab heq
    exact hab (by rw [heq]; exact Std.ReflCmp.compare_self)
  constructor
  · intro h k v hk
    obtain ⟨hall, -⟩ := get_of_hydrate hget hkeys h
    obtain ⟨u, hdec, hu⟩ := hall (k, v) ((hmem (k, v)).mpr hk)
    rw [hm, hk] at hu
    cases hu
    exact hdec
  · intro h
    have hdec : ∀ e ∈ m.toList, dec e.1 e.2 = .ok e.2 := fun e he => h e.1 e.2 ((hmem e).mp he)
    have hlen : m.toList.length = m.size := Std.ExtTreeMap.length_toList
    obtain ⟨u, hu⟩ := exists_hydrate hroom hdec (by rw [hlen]; exact hs₀)
    obtain ⟨hall, hout⟩ := get_of_hydrate hget hkeys hu
    have heq : u = t := by
      apply hext
      intro j
      rw [hm]
      cases hj : m[j]? with
      | none =>
        rw [hout j ?_, hempty]
        intro e he hk
        rw [← hk, (hmem e).mp he] at hj
        cases hj
      | some v =>
        obtain ⟨w, hw, hget'⟩ := hall (j, v) ((hmem (j, v)).mpr hj)
        rw [hdec (j, v) ((hmem (j, v)).mpr hj)] at hw
        cases hw
        exact hget'
    rw [hu, heq]

end Hydrate
