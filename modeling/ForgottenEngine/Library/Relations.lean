import ForgottenEngine.Library.Fallible

/-!
# Tables with uniqueness constraints, and transactions

`Rows ρ clash` is a table in which no two rows clash; `clash` gathers the primary key and the
unique constraints of the schema.  The statements of SQL on it are

* `insert` and `update`, which fail when the result would hold two rows that clash;
* `delete`, which cannot fail;
* `find?` and `countWhere`, the queries; `nextRowid`, the identifier a new row is given.

The laws say which rows a statement leaves (`mem_insert`, `mem_update`, `mem_delete`) and how many
of one kind (`countWhere_insert`, …).  `transaction` runs a fallible operation and takes back what
it has written when it fails.

The database may also refuse a transaction for reasons of its own.  `committed` is a transaction
under a `SqliteOutcome`, and `statements` carries out its statements in turn; both say what has to
go well (`committed_eq_ok`, `statements_eq_ok`).
-/

/-- The rows of a table, no two of which clash. -/
structure Rows (ρ : Type) (clash : ρ → ρ → Bool) where
  rows : List ρ
  apart : rows.Pairwise fun a b => clash a b = false

namespace Rows

variable {ρ : Type} {clash : ρ → ρ → Bool}

def empty : Rows ρ clash := ⟨[], List.Pairwise.nil⟩

/-- `INSERT` -/
def insert (t : Rows ρ clash) (row : ρ) : Option (Rows ρ clash) :=
  if h : ∀ a ∈ t.rows, clash a row = false then
    some ⟨t.rows ++ [row], List.pairwise_append.mpr
      ⟨t.apart, List.pairwise_singleton _ _, fun a ha _ hb => List.mem_singleton.mp hb ▸ h a ha⟩⟩
  else none

/-- `UPDATE … SET f WHERE p` -/
def update (t : Rows ρ clash) (p : ρ → Bool) (f : ρ → ρ) : Option (Rows ρ clash) :=
  if h : (t.rows.map fun row => if p row then f row else row).Pairwise
      fun a b => clash a b = false then some ⟨_, h⟩ else none

/-- `DELETE … WHERE p` -/
def delete (t : Rows ρ clash) (p : ρ → Bool) : Rows ρ clash :=
  ⟨t.rows.filter fun row => !p row, t.apart.sublist List.filter_sublist⟩

/-- `SELECT … WHERE p LIMIT 1` -/
def find? (t : Rows ρ clash) (p : ρ → Bool) : Option ρ := t.rows.find? p

/-- `SELECT EXISTS(… WHERE p)` -/
def existsWhere (t : Rows ρ clash) (p : ρ → Bool) : Bool := t.rows.any p

/-- `SELECT COUNT(*) … WHERE p` -/
def countWhere (t : Rows ρ clash) (p : ρ → Bool) : ℕ := t.rows.countP p

/-- The identifier of the next row: one more than the largest in use. -/
def nextRowid (t : Rows ρ clash) (id : ρ → ℕ) : ℕ := (t.rows.map id).foldr max 0 + 1

/-! ### Which rows there are -/

instance : Membership ρ (Rows ρ clash) := ⟨fun t row => row ∈ t.rows⟩

theorem mem_iff {t : Rows ρ clash} {a : ρ} : a ∈ t ↔ a ∈ t.rows := Iff.rfl

@[simp] theorem not_mem_empty (a : ρ) : ¬a ∈ (empty : Rows ρ clash) := List.not_mem_nil

theorem mem_insert {t t' : Rows ρ clash} {row a : ρ} (h : t.insert row = some t') :
    a ∈ t' ↔ a ∈ t ∨ a = row := by
  unfold insert at h
  split at h
  · cases h
    exact List.mem_append.trans (or_congr_right List.mem_singleton)
  · cases h

theorem insert_apart {t t' : Rows ρ clash} {row a : ρ} (h : t.insert row = some t') (ha : a ∈ t) :
    clash a row = false := by
  unfold insert at h
  split at h
  · next hapart => exact hapart a ha
  · cases h

theorem mem_update {t t' : Rows ρ clash} {p : ρ → Bool} {f : ρ → ρ} {a : ρ}
    (h : t.update p f = some t') : a ∈ t' ↔ ∃ b ∈ t, (if p b then f b else b) = a := by
  unfold update at h
  split at h
  · cases h
    exact List.mem_map
  · cases h

/-- The rows after two updates in a row. -/
theorem mem_update_update {t t' t'' : Rows ρ clash} {p q : ρ → Bool} {f g : ρ → ρ} {a : ρ}
    (h : t.update p f = some t') (h' : t'.update q g = some t'') :
    a ∈ t'' ↔ ∃ b ∈ t, ∃ c, c = (if p b then f b else b) ∧ (if q c then g c else c) = a := by
  rw [mem_update h']
  constructor
  · rintro ⟨c, hc, hca⟩
    obtain ⟨b, hb, hbc⟩ := (mem_update h).mp hc
    exact ⟨b, hb, c, hbc.symm, hca⟩
  · rintro ⟨b, hb, c, hbc, hca⟩
    exact ⟨c, (mem_update h).mpr ⟨b, hb, hbc.symm⟩, hca⟩

theorem mem_delete {t : Rows ρ clash} {p : ρ → Bool} {a : ρ} :
    a ∈ t.delete p ↔ a ∈ t ∧ p a = false := by
  show a ∈ List.filter _ _ ↔ _
  rw [List.mem_filter, Bool.not_eq_true']
  exact Iff.rfl

/-- Rows that clash are one row. -/
theorem eq_of_clash (hsymm : ∀ a b, clash a b = clash b a) {t : Rows ρ clash} {a b : ρ}
    (ha : a ∈ t) (hb : b ∈ t) (h : clash a b = true) : a = b := by
  by_contra hne
  have : Std.Symm fun a b => clash a b = false := ⟨fun a b hab => (hsymm b a).trans hab⟩
  have hapart : clash a b = false := t.apart.forall ha hb hne
  rw [hapart] at h
  cases h

theorem find?_mem {t : Rows ρ clash} {p : ρ → Bool} {a : ρ} (h : t.find? p = some a) :
    a ∈ t ∧ p a = true := ⟨List.mem_of_find?_eq_some h, List.find?_some h⟩

theorem find?_none {t : Rows ρ clash} {p : ρ → Bool} {a : ρ} (h : t.find? p = none) (ha : a ∈ t) :
    p a = false := by
  have hnot := List.find?_eq_none.mp h a ha
  exact Bool.eq_false_iff.mpr hnot

theorem existsWhere_iff {t : Rows ρ clash} {p : ρ → Bool} :
    t.existsWhere p = true ↔ ∃ a ∈ t, p a = true := List.any_eq_true

theorem existsWhere_false {t : Rows ρ clash} {p : ρ → Bool} :
    t.existsWhere p = false ↔ ∀ a ∈ t, p a = false := by
  unfold existsWhere
  rw [List.any_eq_false]
  exact forall₂_congr fun _ _ => Bool.eq_false_iff.symm

theorem lt_nextRowid {t : Rows ρ clash} {id : ρ → ℕ} {a : ρ} (h : a ∈ t) :
    id a < t.nextRowid id := by
  have hle : ∀ l : List ℕ, ∀ n ∈ l, n ≤ l.foldr max 0 := by
    intro l
    induction l with
    | nil => intro n hn; cases hn
    | cons m l ih =>
      intro n hn
      rcases List.mem_cons.mp hn with rfl | hn
      · exact le_max_left _ _
      · exact le_trans (ih n hn) (le_max_right _ _)
  exact Nat.lt_succ_of_le (hle _ _ (List.mem_map_of_mem h))

/-! ### How many rows there are -/

theorem countWhere_insert {t t' : Rows ρ clash} {row : ρ} (p : ρ → Bool)
    (h : t.insert row = some t') : t'.countWhere p = t.countWhere p + if p row then 1 else 0 := by
  unfold insert at h
  split at h
  · cases h
    show List.countP p (t.rows ++ [row]) = _
    rw [List.countP_append, List.countP_singleton]
    rfl
  · cases h

theorem countWhere_delete_le (t : Rows ρ clash) (p q : ρ → Bool) :
    (t.delete p).countWhere q ≤ t.countWhere q := List.filter_sublist.countP_le

/-- An update that keeps the kind of every row keeps how many there are of it. -/
theorem countWhere_update {t t' : Rows ρ clash} {p : ρ → Bool} {f : ρ → ρ} {q : ρ → Bool}
    (h : t.update p f = some t') (hq : ∀ a, q (f a) = q a) : t'.countWhere q = t.countWhere q := by
  unfold update at h
  split at h
  · cases h
    show List.countP q (List.map _ _) = List.countP q t.rows
    rw [List.countP_map]
    refine List.countP_congr fun a _ => ?_
    show q (if p a then f a else a) = true ↔ _
    split
    · rw [hq]
    · exact Iff.rfl
  · cases h

theorem countWhere_eq_zero {t : Rows ρ clash} {p : ρ → Bool} (h : ∀ a ∈ t, p a = false) :
    t.countWhere p = 0 := by
  unfold countWhere
  rw [List.countP_eq_zero]
  exact fun a ha => Bool.eq_false_iff.mp (h a ha)

end Rows

/-! ### Transactions -/

namespace Fallible

variable {ε σ α : Type}

/-- Run an operation; when it fails, nothing has happened. -/
def transaction (m : Fallible ε σ α) : Fallible ε σ α := fun s =>
  match m s with
  | (.ok a, t) => (.ok a, t)
  | (.error e, _) => (.error e, s)

theorem transaction_eq_ok {m : Fallible ε σ α} {s t : σ} {a : α} :
    transaction m s = (.ok a, t) ↔ m s = (.ok a, t) := by
  unfold transaction
  rcases m s with ⟨e | b, u⟩
  · simp
  · simp

/-- A transaction that fails leaves the state. -/
theorem transaction_atomic (m : Fallible ε σ α) : Atomic (transaction m) := by
  intro s e t h
  unfold transaction at h
  rcases hm : m s with ⟨e' | b, u⟩
  · rw [hm] at h
    cases h
    rfl
  · rw [hm] at h
    cases h

/-- A condition that has to hold. -/
def require (c : σ → Bool) (e : ε) : Fallible ε σ Unit :=
  readOr (fun s => if c s then some () else none) e

@[simp] theorem require_eq_ok {c : σ → Bool} {e : ε} {s t : σ} {u : Unit} :
    require c e s = (.ok u, t) ↔ c s = true ∧ t = s := by
  unfold require
  rw [readOr_eq_ok]
  simp

/-- A statement that can fail. -/
def execute (f : σ → Option σ) (e : ε) : Fallible ε σ Unit := fun s =>
  match f s with
  | some t => (.ok (), t)
  | none => (.error e, s)

@[simp] theorem execute_eq_ok {f : σ → Option σ} {e : ε} {s t : σ} {u : Unit} :
    execute f e s = (.ok u, t) ↔ f s = some t := by
  unfold execute
  cases f s <;> simp

/-! ### What the database does with a transaction -/

/-- Whether the database opens a transaction, carries out each of its statements, and commits it. -/
structure SqliteOutcome where
  opens : Bool
  executes : ℕ → Bool
  commits : Bool

/-- A transaction of a database that may refuse to open or to commit it. -/
def committed (outcome : SqliteOutcome) (e : ε) (m : Fallible ε σ α) : Fallible ε σ α :=
  if ¬outcome.opens then fail e
  else transaction do
    let a ← m
    if ¬outcome.commits then fail e else return a

theorem committed_eq_ok {outcome : SqliteOutcome} {e : ε} {m : Fallible ε σ α} {s t : σ} {a : α} :
    committed outcome e m s = (.ok a, t) ↔
      outcome.opens = true ∧ outcome.commits = true ∧ m s = (.ok a, t) := by
  unfold committed
  by_cases hopens : outcome.opens = true
  · rw [if_neg (not_not_intro hopens), transaction_eq_ok, bind_eq_ok]
    by_cases hcommits : outcome.commits = true
    · simp only [hopens, hcommits, not_true_eq_false, if_false, true_and]
      constructor
      · rintro ⟨b, u, hrun, hreturn⟩
        cases hreturn
        exact hrun
      · exact fun hrun => ⟨a, t, hrun, rfl⟩
    · simp [hcommits]
  · rw [if_pos hopens]
    simp [hopens]

theorem committed_atomic (outcome : SqliteOutcome) (e : ε) (m : Fallible ε σ α) :
    Atomic (committed outcome e m) := .ite (ReadOnly.fail e).atomic (transaction_atomic _)

/-- Statements in turn, the first of them with the number `n`. -/
def statements (executes : ℕ → Bool) (e : ε) : ℕ → List (σ → Option σ) → Fallible ε σ Unit
  | _, [] => return ()
  | n, f :: fs => do
    execute (fun s => if executes n then f s else none) e
    statements executes e (n + 1) fs

theorem statements_eq_ok {executes : ℕ → Bool} {e : ε} {n : ℕ} {fs : List (σ → Option σ)} {s t : σ}
    {u : Unit} : statements executes e n fs s = (.ok u, t) ↔
      (∀ i < fs.length, executes (n + i) = true) ∧ fs.foldlM (fun s f => f s) s = some t := by
  induction fs generalizing n s with
  | nil =>
    show (Except.ok (), s) = (.ok u, t) ↔ _
    simp
  | cons f fs ih =>
    rw [statements, bind_eq_ok, List.foldlM_cons, List.length_cons, Option.bind_eq_bind,
      Option.bind_eq_some_iff]
    simp only [execute_eq_ok, ih]
    constructor
    · rintro ⟨_, s', hfirst, hall, hrest⟩
      by_cases hexecutes : executes n = true
      · rw [if_pos hexecutes] at hfirst
        refine ⟨?_, s', hfirst, hrest⟩
        intro i hi
        cases i with
        | zero => exact hexecutes
        | succ i => exact Nat.add_right_comm n i 1 ▸ hall i (by omega)
      · rw [if_neg hexecutes] at hfirst
        cases hfirst
    · rintro ⟨hall, s', hfirst, hrest⟩
      refine ⟨(), s', ?_, ?_, hrest⟩
      · have hexecutes : executes n = true := hall 0 (by omega)
        rw [if_pos hexecutes]
        exact hfirst
      · exact fun i hi => Nat.add_right_comm n i 1 ▸ hall (i + 1) (by omega)

end Fallible
