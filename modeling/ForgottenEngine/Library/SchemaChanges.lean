import Mathlib

/-!
# Statements that change a schema, committed one by one

A database is a family of named tables, a table a list of named columns and a list of rows.  The
statements are those a migration is made of; `MigrationOp` adds the column addition that a program
guards by looking the column up first.  Declared types and constraints of columns are not part of
the model.

* `MigrationOp.Needs`, `MigrationOp.Clear`, `MigrationOp.Present` — the tables an operation
  expects, what it expects to be missing, and what is there once it has run;
* `SqlStore.Keeps` — every table is still there with its columns, every row with its cells;
* `Adds` — all that a list of additive operations may do; `runOps_additive` is the rule for them;
* `run_of_present` — an unguarded operation fails when it is repeated;
* `rebuild` — the rename, create, copy, drop sequence, statement by statement.
-/

/-- The content of one cell. -/
inductive SqlValue where
  | null
  | integer (n : ℤ)
  | text (s : String)
  deriving DecidableEq

/-- The cells of a row by the names of their columns. -/
abbrev SqlRow := String → SqlValue

structure SqlTable where
  columns : List String
  rows : List SqlRow

abbrev SqlStore := String → Option SqlTable

inductive SqlError where
  | noSuchTable (table : String)
  | tableExists (table : String)
  | duplicateColumn (column : String)
  | noSuchColumn (column : String)
  deriving DecidableEq

namespace SqlTable

/-- A new last column, holding `value` in the rows that are there. -/
def withColumn (t : SqlTable) (column : String) (value : SqlValue) : SqlTable :=
  ⟨t.columns ++ [column], t.rows.map fun row => Function.update row column value⟩

/-- `t'` still has the columns of `t`, and every row of `t` with its cells. -/
def Keeps (t t' : SqlTable) : Prop :=
  t.columns ⊆ t'.columns ∧
    List.SublistForall₂ (fun row row' : SqlRow => ∀ c ∈ t.columns, row' c = row c) t.rows t'.rows

end SqlTable

/-! ### Statements -/

/-- The row that `INSERT INTO … (targets) SELECT sources` makes of one row of the source; a source
`none` is the literal `NULL`. -/
def projectRow (assignments : List (String × Option String)) (row : SqlRow) : SqlRow := fun c =>
  match assignments.lookup c with
  | some (some source) => row source
  | _ => .null

inductive SqlStatement where
  | createTable (table : String) (columns : List String)
  | createTableIfNotExists (table : String) (columns : List String)
  | addColumn (table column : String) (default : SqlValue)
  | renameTable (table name : String)
  | insertSelect (table source : String) (assignments : List (String × Option String))
  | insertOrIgnore (table key : String) (row : SqlRow)
  | dropTable (table : String)

namespace SqlStore

/-- The statement committed, or refused with the database as it was. -/
def execute (d : SqlStore) : SqlStatement → Except SqlError SqlStore
  | .createTable table columns =>
    match d table with
    | some _ => .error (.tableExists table)
    | none => .ok (Function.update d table (some ⟨columns, []⟩))
  | .createTableIfNotExists table columns =>
    match d table with
    | some _ => .ok d
    | none => .ok (Function.update d table (some ⟨columns, []⟩))
  | .addColumn table column value =>
    match d table with
    | none => .error (.noSuchTable table)
    | some t =>
      if column ∈ t.columns then .error (.duplicateColumn column)
      else .ok (Function.update d table (some (t.withColumn column value)))
  | .renameTable table name =>
    match d table, d name with
    | none, _ => .error (.noSuchTable table)
    | some _, some _ => .error (.tableExists name)
    | some t, none => .ok (Function.update (Function.update d table none) name (some t))
  | .insertSelect table source assignments =>
    match d table, d source with
    | none, _ => .error (.noSuchTable table)
    | some _, none => .error (.noSuchTable source)
    | some t, some s =>
      match assignments.find? fun a => a.1 ∉ t.columns ∨ ∃ c ∈ a.2, c ∉ s.columns with
      | some a => .error (.noSuchColumn a.1)
      | none => .ok (Function.update d table
          (some ⟨t.columns, t.rows ++ s.rows.map (projectRow assignments)⟩))
  | .insertOrIgnore table key row =>
    match d table with
    | none => .error (.noSuchTable table)
    | some t =>
      if t.rows.any fun old => old key = row key then .ok d
      else .ok (Function.update d table (some ⟨t.columns, t.rows ++ [row]⟩))
  | .dropTable table =>
    match d table with
    | none => .error (.noSuchTable table)
    | some _ => .ok (Function.update d table none)

/-- `PRAGMA table_info(table)` lists the column. -/
def columnExists (d : SqlStore) (table column : String) : Bool :=
  match d table with
  | none => false
  | some t => decide (column ∈ t.columns)

/-- The rows of a table, none where there is no table. -/
def rowsOf (d : SqlStore) (table : String) : List SqlRow := (d table).elim [] SqlTable.rows

/-- The table, where there is one, has exactly these columns. -/
def Fits (d : SqlStore) (table : String) (columns : List String) : Prop :=
  ∀ t, d table = some t → t.columns = columns

/-- Every table and every row is still there. -/
def Keeps (d d' : SqlStore) : Prop :=
  ∀ table t, d table = some t → ∃ t', d' table = some t' ∧ t.Keeps t'

end SqlStore

/-! ### Nothing is lost -/

theorem sublistForall₂_comp {α : Type} {R S U : α → α → Prop}
    (h : ∀ a b c, R a b → S b c → U a c) {l₂ l₃ : List α} (h₂ : List.SublistForall₂ S l₂ l₃) :
    ∀ {l₁}, List.SublistForall₂ R l₁ l₂ → List.SublistForall₂ U l₁ l₃ := by
  induction h₂ with
  | nil =>
    intro l₁ h₁
    cases h₁
    exact .nil
  | cons hb _ ih =>
    intro l₁ h₁
    cases h₁ with
    | nil => exact .nil
    | cons ha h₁ => exact .cons (h _ _ _ ha hb) (ih h₁)
    | cons_right h₁ => exact .cons_right (ih h₁)
  | cons_right _ ih =>
    intro l₁ h₁
    exact .cons_right (ih h₁)

theorem sublistForall₂_map {α : Type} {R : α → α → Prop} (f : α → α) (l : List α)
    (h : ∀ a ∈ l, R a (f a)) : List.SublistForall₂ R l (l.map f) := by
  induction l with
  | nil => exact .nil
  | cons a l ih =>
    exact .cons (h a List.mem_cons_self) (ih fun b hb => h b (List.mem_cons_of_mem _ hb))

namespace SqlTable

theorem Keeps.refl (t : SqlTable) : t.Keeps t := by
  refine ⟨List.Subset.refl _, ?_⟩
  have h := sublistForall₂_map (R := fun row row' : SqlRow => ∀ c ∈ t.columns, row' c = row c)
    id t.rows fun _ _ _ _ => rfl
  rwa [List.map_id] at h

theorem Keeps.trans {t t' t'' : SqlTable} (h : t.Keeps t') (h' : t'.Keeps t'') : t.Keeps t'' :=
  ⟨List.Subset.trans h.1 h'.1, sublistForall₂_comp
    (fun _ _ _ hab hbc c hc => (hbc c (h.1 hc)).trans (hab c hc)) h'.2 h.2⟩

theorem keeps_withColumn (t : SqlTable) {column : String} (hnew : column ∉ t.columns)
    (value : SqlValue) : t.Keeps (t.withColumn column value) := by
  refine ⟨fun c hc => List.mem_append_left _ hc, sublistForall₂_map _ _ ?_⟩
  intro row _ c hc
  have hne : c ≠ column := fun h => hnew (h ▸ hc)
  exact Function.update_of_ne hne _ _

theorem keeps_append (t : SqlTable) (rows : List SqlRow) :
    t.Keeps ⟨t.columns, t.rows ++ rows⟩ := by
  refine ⟨List.Subset.refl _, ?_⟩
  rw [List.sublistForall₂_iff]
  refine ⟨t.rows, ?_, List.sublist_append_left _ _⟩
  exact List.forall₂_same.mpr fun _ _ _ _ => rfl

end SqlTable

namespace SqlStore

theorem Keeps.refl (d : SqlStore) : d.Keeps d := fun _ t h => ⟨t, h, SqlTable.Keeps.refl t⟩

theorem Keeps.trans {d d' d'' : SqlStore} (h : d.Keeps d') (h' : d'.Keeps d'') : d.Keeps d'' := by
  intro table t ht
  obtain ⟨t', ht', hk⟩ := h table t ht
  obtain ⟨t'', ht'', hk'⟩ := h' table t' ht'
  exact ⟨t'', ht'', hk.trans hk'⟩

theorem Keeps.isSome {d d' : SqlStore} (h : d.Keeps d') {table : String}
    (ht : (d table).isSome) : (d' table).isSome := by
  obtain ⟨t, ht⟩ := Option.isSome_iff_exists.mp ht
  obtain ⟨t', ht', -⟩ := h table t ht
  rw [ht']
  rfl

/-- Only the contents of one table change. -/
theorem keeps_update {d : SqlStore} {table : String} {t' : SqlTable}
    (h : ∀ t, d table = some t → t.Keeps t') : d.Keeps (Function.update d table (some t')) := by
  intro name t ht
  by_cases hn : name = table
  · subst hn
    exact ⟨t', Function.update_self .., h t ht⟩
  · exact ⟨t, by rw [Function.update_of_ne hn]; exact ht, SqlTable.Keeps.refl t⟩

theorem keeps_create {d : SqlStore} {table : String} (hnone : d table = none) (t' : SqlTable) :
    d.Keeps (Function.update d table (some t')) :=
  keeps_update fun t ht => by rw [hnone] at ht; cases ht

end SqlStore

/-! ### Operations of a migration -/

/-- A statement, or a column addition made only when the column is not listed yet. -/
inductive MigrationOp where
  | execute (statement : SqlStatement)
  | addMissingColumn (table column : String) (default : SqlValue)

namespace MigrationOp

def run (d : SqlStore) : MigrationOp → Except SqlError SqlStore
  | .execute statement => d.execute statement
  | .addMissingColumn table column value =>
    if d.columnExists table column then .ok d else d.execute (.addColumn table column value)

/-- It may be repeated: it looks whether its table or its column is there. -/
def Guarded : MigrationOp → Bool
  | .execute (.createTableIfNotExists _ _) => true
  | .addMissingColumn _ _ _ => true
  | _ => false

/-- It creates a table or a column and does nothing else. -/
def Additive : MigrationOp → Bool
  | .execute (.createTable _ _) => true
  | .execute (.createTableIfNotExists _ _) => true
  | .execute (.addColumn _ _ _) => true
  | .addMissingColumn _ _ _ => true
  | _ => false

/-- The table it creates, with the columns. -/
def creates : MigrationOp → Option (String × List String)
  | .execute (.createTable table columns) => some (table, columns)
  | .execute (.createTableIfNotExists table columns) => some (table, columns)
  | _ => none

/-- The table and the column it adds. -/
def adds : MigrationOp → Option (String × String)
  | .execute (.addColumn table column _) => some (table, column)
  | .addMissingColumn table column _ => some (table, column)
  | _ => none

/-- The tables that have to be there. -/
def needs (op : MigrationOp) : List String := op.adds.toList.map Prod.fst

/-- What an unguarded operation expects to be missing is missing. -/
def Clear (d : SqlStore) : MigrationOp → Prop
  | .execute (.createTable table _) => d table = none
  | .execute (.addColumn table column _) => ∀ t, d table = some t → column ∉ t.columns
  | .execute (.renameTable _ name) => d name = none
  | _ => True

/-- The tables `Clear` looks at. -/
def expects : MigrationOp → List String
  | .execute (.createTable table _) => [table]
  | .execute (.addColumn table _ _) => [table]
  | .execute (.renameTable _ name) => [name]
  | _ => []

/-- What it creates or adds is there. -/
def Present (d : SqlStore) (op : MigrationOp) : Prop :=
  (∀ c, op.creates = some c → (d c.1).isSome) ∧
    ∀ a, op.adds = some a → ∃ t, d a.1 = some t ∧ a.2 ∈ t.columns

/-- After the operation, `later` no longer finds missing what it expects to be missing. -/
def Spoils (op : MigrationOp) : MigrationOp → Bool
  | .execute (.createTable table _) => op.creates.any fun c => c.1 = table
  | .execute (.renameTable _ name) => op.creates.any fun c => c.1 = name
  | .execute (.addColumn table column _) =>
    (op.creates.any fun c => c.1 = table ∧ column ∈ c.2) || op.adds = some (table, column)
  | _ => false

/-- It leaves the columns of the table alone, or creates it with exactly these. -/
def Respects (op : MigrationOp) (table : String) (columns : List String) : Bool :=
  (op.creates.all fun c => c.1 = table → c.2 = columns) && op.adds.all fun a => a.1 ≠ table

end MigrationOp

/-- The operations one after the other, up to the first that fails. -/
def runOps : List MigrationOp → SqlStore → Except SqlError SqlStore
  | [], d => .ok d
  | op :: ops, d => op.run d >>= runOps ops

theorem runOps_cons (op : MigrationOp) (ops : List MigrationOp) (d : SqlStore) :
    runOps (op :: ops) d = op.run d >>= runOps ops := rfl

/-! ### Additive operations -/

/-- All that additive operations may have done between `d` and `d'`. -/
structure Adds (ops : List MigrationOp) (d d' : SqlStore) : Prop where
  keeps : d.Keeps d'
  made : ∀ op ∈ ops, op.Present d'
  clear : ∀ later : MigrationOp, (∀ op ∈ ops, op.Spoils later = false) → later.Clear d →
    later.Clear d'
  columns : ∀ table columns, (∀ op ∈ ops, op.Respects table columns) → d.Fits table columns →
    d'.Fits table columns
  rows : ∀ table, (∀ op ∈ ops, table ∉ op.needs) → d'.rowsOf table = d.rowsOf table

namespace MigrationOp

/-- `Clear` depends on which tables there are and on their columns. -/
theorem Clear.congr {d d' : SqlStore} {op : MigrationOp} (h : op.Clear d)
    (hsame : ∀ name ∈ op.expects,
      (d' name).map SqlTable.columns = (d name).map SqlTable.columns) : op.Clear d' := by
  cases op with
  | addMissingColumn => trivial
  | execute statement =>
    cases statement with
    | createTable table _ =>
      have hd : d table = none := h
      have hs := hsame table (List.mem_singleton_self _)
      rw [hd] at hs
      exact Option.map_eq_none_iff.mp hs
    | renameTable _ name =>
      have hd : d name = none := h
      have hs := hsame name (List.mem_singleton_self _)
      rw [hd] at hs
      exact Option.map_eq_none_iff.mp hs
    | addColumn table column _ =>
      intro t' ht' hmem
      have hs := hsame table (List.mem_singleton_self _)
      rw [ht'] at hs
      obtain ⟨t, ht, hcols⟩ := Option.map_eq_some_iff.mp hs.symm
      exact h t ht (hcols ▸ hmem)
    | _ => trivial

/-- A guarded operation that finds its table or column there does nothing. -/
theorem run_of_guarded {d : SqlStore} {op : MigrationOp} (hop : op.Guarded) (h : op.Present d) :
    op.run d = .ok d := by
  cases op with
  | addMissingColumn table column value =>
    obtain ⟨t, ht, hcol⟩ := h.2 _ rfl
    simp [run, SqlStore.columnExists, ht, hcol]
  | execute statement =>
    cases statement with
    | createTableIfNotExists table columns =>
      obtain ⟨t, ht⟩ := Option.isSome_iff_exists.mp (h.1 _ rfl)
      simp [run, SqlStore.execute, ht]
    | _ => cases hop

theorem Guarded.additive {op : MigrationOp} (h : op.Guarded) : op.Additive := by
  cases op with
  | addMissingColumn => rfl
  | execute statement =>
    cases statement with
    | createTableIfNotExists => rfl
    | _ => cases h

/-- Nothing is in the way of a guarded operation. -/
theorem Guarded.clear {op : MigrationOp} (h : op.Guarded) (d : SqlStore) : op.Clear d := by
  cases op with
  | addMissingColumn => trivial
  | execute statement =>
    cases statement with
    | createTableIfNotExists => trivial
    | _ => cases h

theorem Present.mono {d d' : SqlStore} {op : MigrationOp} (h : op.Present d) (hk : d.Keeps d') :
    op.Present d' := by
  refine ⟨fun c hc => hk.isSome (h.1 c hc), fun a ha => ?_⟩
  obtain ⟨t, ht, hmem⟩ := h.2 a ha
  obtain ⟨t', ht', hcols, -⟩ := hk a.1 t ht
  exact ⟨t', ht', hcols hmem⟩

end MigrationOp

namespace Adds

variable {d d' d'' : SqlStore} {ops ops' : List MigrationOp} {op : MigrationOp}

theorem nil (d : SqlStore) : Adds [] d d where
  keeps := SqlStore.Keeps.refl d
  made := fun _ hop => by cases hop
  clear := fun _ _ h => h
  columns := fun _ _ _ h => h
  rows := fun _ _ => rfl

theorem cons (h : Adds [op] d d') (h' : Adds ops d' d'') : Adds (op :: ops) d d'' where
  keeps := h.keeps.trans h'.keeps
  made := by
    intro o ho
    cases List.mem_cons.mp ho with
    | inl heq => exact (h.made o (heq ▸ List.mem_singleton_self _)).mono h'.keeps
    | inr hmem => exact h'.made o hmem
  clear := by
    intro later hno hc
    refine h'.clear later (fun o ho => hno o (List.mem_cons_of_mem _ ho)) (h.clear later ?_ hc)
    intro o ho
    rw [List.mem_singleton.mp ho]
    exact hno op List.mem_cons_self
  columns := by
    intro table columns hr hf
    refine h'.columns _ _ (fun o ho => hr o (List.mem_cons_of_mem _ ho)) (h.columns _ _ ?_ hf)
    intro o ho
    rw [List.mem_singleton.mp ho]
    exact hr op List.mem_cons_self
  rows := by
    intro table hno
    rw [h'.rows table fun o ho => hno o (List.mem_cons_of_mem _ ho)]
    refine h.rows table ?_
    intro o ho
    rw [List.mem_singleton.mp ho]
    exact hno op List.mem_cons_self

/-- An operation that finds its table or column there and leaves it. -/
theorem stay (h : op.Present d) : Adds [op] d d where
  keeps := SqlStore.Keeps.refl d
  made := fun _ ho => List.mem_singleton.mp ho ▸ h
  clear := fun _ _ hc => hc
  columns := fun _ _ _ hf => hf
  rows := fun _ _ => rfl

/-- The table is created, empty. -/
theorem create {table : String} {columns : List String} (hcreates : op.creates = some (table, columns))
    (hadds : op.adds = none) (hnone : d table = none) :
    Adds [op] d (Function.update d table (some ⟨columns, []⟩)) where
  keeps := SqlStore.keeps_create hnone _
  made := by
    intro o ho
    rw [List.mem_singleton.mp ho]
    refine ⟨fun c hc => ?_, fun a ha => by rw [hadds] at ha; cases ha⟩
    rw [hcreates] at hc
    cases hc
    rw [Function.update_self]
    rfl
  clear := by
    intro later hno hc
    have hno := hno op (List.mem_singleton_self _)
    unfold MigrationOp.Spoils at hno
    cases later with
    | addMissingColumn => trivial
    | execute statement =>
      cases statement with
      | createTable name _ =>
        have hne : name ≠ table := by
          intro h
          simp [hcreates, h] at hno
        exact (Function.update_of_ne hne _ _).trans hc
      | renameTable _ name =>
        have hne : name ≠ table := by
          intro h
          simp [hcreates, h] at hno
        exact (Function.update_of_ne hne _ _).trans hc
      | addColumn name column _ =>
        intro t ht
        by_cases hn : name = table
        · subst hn
          rw [Function.update_self] at ht
          cases ht
          simp [hcreates] at hno
          exact hno.1
        · rw [Function.update_of_ne hn] at ht
          exact hc t ht
      | _ => trivial
  columns := by
    intro name cols hr hf t ht
    have hr := hr op (List.mem_singleton_self _)
    by_cases hn : name = table
    · subst hn
      rw [Function.update_self] at ht
      cases ht
      simp [MigrationOp.Respects, hcreates] at hr
      exact hr.1
    · rw [Function.update_of_ne hn] at ht
      exact hf t ht
  rows := by
    intro name _
    by_cases hn : name = table
    · subst hn
      simp [SqlStore.rowsOf, hnone]
    · simp [SqlStore.rowsOf, hn]

/-- The column is added to the rows that are there. -/
theorem add {table column : String} (value : SqlValue) {t : SqlTable}
    (hadds : op.adds = some (table, column)) (hcreates : op.creates = none) (ht : d table = some t)
    (hnew : column ∉ t.columns) :
    Adds [op] d (Function.update d table (some (t.withColumn column value))) where
  keeps := by
    refine SqlStore.keeps_update fun t' ht' => ?_
    rw [ht] at ht'
    cases ht'
    exact SqlTable.keeps_withColumn t hnew value
  made := by
    intro o ho
    rw [List.mem_singleton.mp ho]
    refine ⟨fun c hc => ?_, fun a ha => ?_⟩
    · rw [hcreates] at hc
      cases hc
    · rw [hadds] at ha
      cases ha
      exact ⟨_, Function.update_self .., List.mem_append_right _ (List.mem_singleton_self _)⟩
  clear := by
    intro later hno hc
    have hno := hno op (List.mem_singleton_self _)
    unfold MigrationOp.Spoils at hno
    cases later with
    | addMissingColumn => trivial
    | execute statement =>
      cases statement with
      | createTable name _ =>
        have hc : d name = none := hc
        have hne : name ≠ table := by
          intro h
          rw [h, ht] at hc
          cases hc
        exact (Function.update_of_ne hne _ _).trans hc
      | renameTable _ name =>
        have hc : d name = none := hc
        have hne : name ≠ table := by
          intro h
          rw [h, ht] at hc
          cases hc
        exact (Function.update_of_ne hne _ _).trans hc
      | addColumn name column' _ =>
        intro t' ht'
        by_cases hn : name = table
        · subst hn
          rw [Function.update_self] at ht'
          cases ht'
          have hcol : column' ≠ column := by
            intro h
            simp [hadds, h] at hno
          simp only [SqlTable.withColumn, List.mem_append, List.mem_singleton, not_or]
          exact ⟨hc t ht, hcol⟩
        · rw [Function.update_of_ne hn] at ht'
          exact hc t' ht'
      | _ => trivial
  columns := by
    intro name cols hr hf t' ht'
    have hr := hr op (List.mem_singleton_self _)
    have hne : name ≠ table := by
      intro h
      simp [MigrationOp.Respects, hadds, h] at hr
    rw [Function.update_of_ne hne] at ht'
    exact hf t' ht'
  rows := by
    intro name hno
    have hne : name ≠ table := by
      intro h
      exact hno op (List.mem_singleton_self _) (by simp [MigrationOp.needs, hadds, h])
    simp [SqlStore.rowsOf, hne]

end Adds

/-- **One additive operation**: with its tables there and nothing in its way it succeeds. -/
theorem run_additive {op : MigrationOp} (hop : op.Additive) {d : SqlStore}
    (hneeds : ∀ table ∈ op.needs, (d table).isSome) (hclear : op.Clear d) :
    ∃ d', op.run d = .ok d' ∧ Adds [op] d d' := by
  cases op with
  | addMissingColumn table column value =>
    obtain ⟨t, ht⟩ := Option.isSome_iff_exists.mp (hneeds table (List.mem_singleton_self _))
    by_cases hcol : column ∈ t.columns
    · refine ⟨d, by simp [MigrationOp.run, SqlStore.columnExists, ht, hcol], Adds.stay ?_⟩
      refine ⟨fun c hc => (nomatch hc), fun a ha => ?_⟩
      cases ha
      exact ⟨t, ht, hcol⟩
    · refine ⟨_, ?_, Adds.add value rfl rfl ht hcol⟩
      simp [MigrationOp.run, SqlStore.columnExists, SqlStore.execute, ht, hcol]
  | execute statement =>
    cases statement with
    | createTable table columns =>
      have hnone : d table = none := hclear
      exact ⟨_, by simp [MigrationOp.run, SqlStore.execute, hnone], Adds.create rfl rfl hnone⟩
    | createTableIfNotExists table columns =>
      cases ht : d table with
      | none =>
        exact ⟨_, by simp [MigrationOp.run, SqlStore.execute, ht], Adds.create rfl rfl ht⟩
      | some t =>
        refine ⟨d, by simp [MigrationOp.run, SqlStore.execute, ht], Adds.stay ?_⟩
        refine ⟨fun c hc => ?_, fun a ha => by cases ha⟩
        cases hc
        rw [ht]
        rfl
    | addColumn table column value =>
      obtain ⟨t, ht⟩ := Option.isSome_iff_exists.mp (hneeds table (List.mem_singleton_self _))
      have hcol : column ∉ t.columns := hclear t ht
      refine ⟨_, ?_, Adds.add value rfl rfl ht hcol⟩
      simp [MigrationOp.run, SqlStore.execute, ht, hcol]
    | _ => cases hop

/-- **Additive operations**, none of which spoils a later one. -/
theorem runOps_additive {ops : List MigrationOp} (hops : ∀ op ∈ ops, op.Additive)
    (hapart : ops.Pairwise fun op later => op.Spoils later = false) :
    ∀ {d : SqlStore}, (∀ op ∈ ops, ∀ table ∈ op.needs, (d table).isSome) →
      (∀ op ∈ ops, op.Clear d) → ∃ d', runOps ops d = .ok d' ∧ Adds ops d d' := by
  induction ops with
  | nil =>
    intro d _ _
    exact ⟨d, rfl, Adds.nil d⟩
  | cons op ops ih =>
    intro d hneeds hclear
    obtain ⟨hfirst, hrest⟩ := List.pairwise_cons.mp hapart
    obtain ⟨d₁, hrun, hadds⟩ := run_additive (hops op List.mem_cons_self)
      (hneeds op List.mem_cons_self) (hclear op List.mem_cons_self)
    have htail : ∀ o ∈ ops, o ∈ op :: ops := fun o ho => List.mem_cons_of_mem _ ho
    obtain ⟨d₂, hrun', hadds'⟩ := ih (fun o ho => hops o (htail o ho)) hrest
      (fun o ho table ht => hadds.keeps.isSome (hneeds o (htail o ho) table ht))
      (fun o ho => hadds.clear o (fun o' ho' => by
        rw [List.mem_singleton.mp ho']
        exact hfirst o ho) (hclear o (htail o ho)))
    refine ⟨d₂, ?_, hadds.cons hadds'⟩
    rw [runOps_cons, hrun]
    exact hrun'

/-- **A repeated operation**: without a guard, finding its table or column there is an error. -/
theorem run_of_present {op : MigrationOp} (hop : op.Additive) (hguard : op.Guarded = false)
    {d : SqlStore} (h : op.Present d) : ∃ e, op.run d = .error e := by
  cases op with
  | addMissingColumn => cases hguard
  | execute statement =>
    cases statement with
    | createTable table columns =>
      obtain ⟨t, ht⟩ := Option.isSome_iff_exists.mp (h.1 _ rfl)
      exact ⟨_, by simp [MigrationOp.run, SqlStore.execute, ht]; rfl⟩
    | createTableIfNotExists => cases hguard
    | addColumn table column value =>
      obtain ⟨t, ht, hcol⟩ := h.2 _ rfl
      exact ⟨.duplicateColumn column, by simp [MigrationOp.run, SqlStore.execute, ht, hcol]⟩
    | _ => cases hop

theorem runOps_of_guarded {ops : List MigrationOp} {d : SqlStore}
    (hops : ∀ op ∈ ops, op.Guarded ∧ op.Present d) : runOps ops d = .ok d := by
  induction ops with
  | nil => rfl
  | cons op ops ih =>
    obtain ⟨hguarded, hpresent⟩ := hops op List.mem_cons_self
    rw [runOps_cons, MigrationOp.run_of_guarded hguarded hpresent]
    exact ih fun o ho => hops o (List.mem_cons_of_mem _ ho)

/-! ### Rebuilding a table -/

/-- The batch that gives `table` another layout: the table steps aside as `old`, is created anew,
takes over the rows, and `old` is dropped. -/
def rebuild (table old : String) (columns : List String)
    (assignments : List (String × Option String)) : List MigrationOp :=
  [.execute (.renameTable table old), .execute (.createTableIfNotExists table columns),
   .execute (.insertSelect table old assignments), .execute (.dropTable old)]

section Rebuild

variable {table old : String} {columns : List String} {assignments : List (String × Option String)}
  {d : SqlStore} {t : SqlTable}

/-- While `old` is there the batch cannot start. -/
theorem rebuild_of_old (hold : (d old).isSome) :
    ∃ e, runOps (rebuild table old columns assignments) d = .error e := by
  obtain ⟨o, hold⟩ := Option.isSome_iff_exists.mp hold
  rw [rebuild, runOps_cons]
  cases ht : d table with
  | none => exact ⟨.noSuchTable table, by simp [MigrationOp.run, SqlStore.execute, ht]; rfl⟩
  | some t => exact ⟨.tableExists old, by simp [MigrationOp.run, SqlStore.execute, ht, hold]; rfl⟩

/-- The four databases the batch commits. -/
theorem rebuild_commits (ht : d table = some t) (hold : d old = none) (hne : table ≠ old)
    (htargets : ∀ a ∈ assignments, a.1 ∈ columns)
    (hsources : ∀ a ∈ assignments, ∀ c ∈ a.2, c ∈ t.columns) :
    ∃ d₁ d₂ d₃ d₄, (MigrationOp.execute (.renameTable table old)).run d = .ok d₁ ∧
      (MigrationOp.execute (.createTableIfNotExists table columns)).run d₁ = .ok d₂ ∧
      (MigrationOp.execute (.insertSelect table old assignments)).run d₂ = .ok d₃ ∧
      (MigrationOp.execute (.dropTable old)).run d₃ = .ok d₄ ∧
      (∀ s ∈ [d₁, d₂, d₃], s old = some t ∧
        ∀ name, name ≠ table → name ≠ old → s name = d name) ∧
      d₄ table = some ⟨columns, t.rows.map (projectRow assignments)⟩ ∧
      ∀ name, name ≠ table → d₄ name = d name := by
  have hno : old ≠ table := hne.symm
  have hfind : (assignments.find? fun a => a.1 ∉ columns ∨ ∃ c ∈ a.2, c ∉ t.columns) = none := by
    rw [List.find?_eq_none]
    intro a ha hbad
    cases of_decide_eq_true hbad with
    | inl h => exact h (htargets a ha)
    | inr h =>
      obtain ⟨c, hc, hcol⟩ := h
      exact hcol (hsources a ha c hc)
  let d₁ := Function.update (Function.update d table none) old (some t)
  let d₂ := Function.update d₁ table (some ⟨columns, []⟩)
  let d₃ := Function.update d₂ table (some ⟨columns, t.rows.map (projectRow assignments)⟩)
  let d₄ := Function.update d₃ old none
  have h₁ : d₁ table = none := by simp [d₁, hne]
  have h₂ : d₂ table = some ⟨columns, []⟩ := Function.update_self ..
  have ho₁ : d₁ old = some t := Function.update_self ..
  have ho₂ : d₂ old = some t := by simp [d₂, hno, ho₁]
  have ho₃ : d₃ old = some t := by simp [d₃, hno, ho₂]
  refine ⟨d₁, d₂, d₃, d₄, ?_, ?_, ?_, ?_, ?_, ?_, ?_⟩
  · simp [MigrationOp.run, SqlStore.execute, ht, hold, d₁]
  · simp [MigrationOp.run, SqlStore.execute, h₁, d₂]
  · simp only [MigrationOp.run, SqlStore.execute, h₂, ho₂, hfind]
    rfl
  · simp [MigrationOp.run, SqlStore.execute, ho₃, d₄]
  · intro s hs
    simp only [List.mem_cons, List.not_mem_nil, or_false] at hs
    rcases hs with rfl | rfl | rfl
    · exact ⟨ho₁, fun name hn ho => by simp [d₁, hn, ho]⟩
    · exact ⟨ho₂, fun name hn ho => by simp [d₂, d₁, hn, ho]⟩
    · exact ⟨ho₃, fun name hn ho => by simp [d₃, d₂, d₁, hn, ho]⟩
  · simp [d₄, d₃, hne]
  · intro name hn
    by_cases ho : name = old
    · subst ho
      simp [d₄, hold]
    · simp [d₄, d₃, d₂, d₁, hn, ho]

/-- **The whole batch**: the table holds the projected rows, no other table has changed. -/
theorem runOps_rebuild (ht : d table = some t) (hold : d old = none) (hne : table ≠ old)
    (htargets : ∀ a ∈ assignments, a.1 ∈ columns)
    (hsources : ∀ a ∈ assignments, ∀ c ∈ a.2, c ∈ t.columns) :
    ∃ d', runOps (rebuild table old columns assignments) d = .ok d' ∧
      d' table = some ⟨columns, t.rows.map (projectRow assignments)⟩ ∧
      ∀ name, name ≠ table → d' name = d name := by
  obtain ⟨d₁, d₂, d₃, d₄, h₁, h₂, h₃, h₄, -, htable, hothers⟩ :=
    rebuild_commits ht hold hne htargets hsources
  refine ⟨d₄, ?_, htable, hothers⟩
  rw [rebuild, runOps_cons, h₁]
  show runOps _ d₁ = _
  rw [runOps_cons, h₂]
  show runOps _ d₂ = _
  rw [runOps_cons, h₃]
  show runOps _ d₃ = _
  rw [runOps_cons, h₄]
  rfl

/-- Inside the batch the rows are still under the old name. -/
theorem runOps_rebuild_take (ht : d table = some t) (hold : d old = none) (hne : table ≠ old)
    (htargets : ∀ a ∈ assignments, a.1 ∈ columns)
    (hsources : ∀ a ∈ assignments, ∀ c ∈ a.2, c ∈ t.columns) {n : ℕ} (hn : 1 ≤ n) (hn' : n ≤ 3) :
    ∃ d', runOps ((rebuild table old columns assignments).take n) d = .ok d' ∧
      d' old = some t ∧ ∀ name, name ≠ table → name ≠ old → d' name = d name := by
  obtain ⟨d₁, d₂, d₃, d₄, h₁, h₂, h₃, -, hs, -⟩ :=
    rebuild_commits ht hold hne htargets hsources
  have hcases : n = 1 ∨ n = 2 ∨ n = 3 := by omega
  rcases hcases with rfl | rfl | rfl
  · refine ⟨d₁, ?_, hs d₁ (by simp)⟩
    show runOps [_] d = _
    rw [runOps_cons, h₁]
    rfl
  · refine ⟨d₂, ?_, hs d₂ (by simp)⟩
    show runOps [_, _] d = _
    rw [runOps_cons, h₁]
    show runOps [_] d₁ = _
    rw [runOps_cons, h₂]
    rfl
  · refine ⟨d₃, ?_, hs d₃ (by simp)⟩
    show runOps [_, _, _] d = _
    rw [runOps_cons, h₁]
    show runOps [_, _] d₁ = _
    rw [runOps_cons, h₂]
    show runOps [_] d₂ = _
    rw [runOps_cons, h₃]
    rfl

end Rebuild
