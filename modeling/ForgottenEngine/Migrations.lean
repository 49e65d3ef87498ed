import ForgottenEngine.Library.SchemaChanges

/-!
# The migration of the database

`migrate` runs on every opening: an unconditional first batch, and one step for each later schema
version, skipped when the version is recorded.  Every statement commits by itself, also those of
one batch, so that the program may be stopped between any two of them.

* `baseStep`, `migrationSteps` — the statements, in the order of the source;
* `interrupted` — the database that a run stopped at some statement leaves behind;
* `AtVersion` — what databases of one schema version have in common, whatever their rows;
* `resumes_iff` — the stops from which the next opening recovers.
-/

namespace ForgottenEngine

/-! ### The steps -/

/-- One `if schema_version()? < version` block: its statements, the version record after them. -/
structure MigrationStep where
  version : ℤ
  ops : List MigrationOp

def LATEST_SCHEMA_VERSION : ℤ := 37

/-- The unconditional batch. -/
def baseStep : MigrationStep := ⟨1, [
  .execute (.createTableIfNotExists "schema_migrations" ["version", "applied_at"]),
  .execute (.createTableIfNotExists "accounts" ["id", "name", "password_hash", "created_at"]),
  .execute (.createTableIfNotExists "players" ["id", "account_id", "name", "x", "y", "z", "level",
    "experience", "skill_points", "health", "max_health", "mana", "max_mana", "capacity",
    "magic_level", "town_id"]),
  .execute (.createTableIfNotExists "engine_events" ["id", "level", "message", "created_at"])]⟩

/-- The columns of `player_container_items` before item contents. -/
def containerItemColumns : List String :=
  ["player_id", "container_id", "slot", "server_id", "count", "action_id", "unique_id"]

/-- The columns of `player_container_items` with item contents. -/
def itemContentsColumns : List String :=
  ["player_id", "container_id", "slot", "parent_slot", "server_id", "count", "action_id",
    "unique_id"]

/-- Existing rows keep their identity as top-level items. -/
def itemContentsAssignments : List (String × Option String) :=
  [("player_id", some "player_id"), ("container_id", some "container_id"), ("slot", some "slot"),
    ("parent_slot", none), ("server_id", some "server_id"), ("count", some "count"),
    ("action_id", some "action_id"), ("unique_id", some "unique_id")]

/-- The rebuild of `player_container_items` with `parent_slot` inside the key. -/
def itemContentsOps : List MigrationOp :=
  rebuild "player_container_items" "player_container_items_v30" itemContentsColumns
    itemContentsAssignments

/-- The steps after the first batch. -/
def migrationSteps : List MigrationStep := [
  ⟨2, [
    .addMissingColumn "players" "health" (.integer 150),
    .addMissingColumn "players" "max_health" (.integer 150),
    .addMissingColumn "players" "mana" (.integer 50),
    .addMissingColumn "players" "max_mana" (.integer 50),
    .addMissingColumn "players" "capacity" (.integer 40000),
    .addMissingColumn "players" "magic_level" (.integer 0)]⟩,
  -- SCHEMA_VERSION_EQUIPMENT
  ⟨3, [.execute (.createTableIfNotExists "player_equipment"
    ["player_id", "slot", "server_id", "count", "action_id", "unique_id"])]⟩,
  -- SCHEMA_VERSION_CONTAINERS
  ⟨4, [
    .execute (.createTableIfNotExists "player_containers"
      ["player_id", "container_id", "server_id", "count", "name", "has_parent", "capacity"]),
    .execute (.createTableIfNotExists "player_container_items" containerItemColumns)]⟩,
  -- SCHEMA_VERSION_PROGRESSION
  ⟨5, [
    .addMissingColumn "players" "vocation" (.integer 0),
    .execute (.createTableIfNotExists "player_skills"
      ["player_id", "fist_level", "fist_percent", "club_level", "club_percent", "sword_level",
        "sword_percent", "axe_level", "axe_percent", "distance_level", "distance_percent",
        "shielding_level", "shielding_percent", "fishing_level", "fishing_percent"])]⟩,
  -- SCHEMA_VERSION_TOWNS
  ⟨6, [.addMissingColumn "players" "town_id" (.integer 0)]⟩,
  -- SCHEMA_VERSION_CONDITIONS
  ⟨7, [.execute (.createTableIfNotExists "player_conditions"
    ["player_id", "kind", "interval_seconds", "damage", "remaining_seconds",
      "elapsed_seconds"])]⟩,
  -- SCHEMA_VERSION_PROGRESSION_ATTEMPTS
  ⟨8, [.execute (.createTableIfNotExists "player_progression_attempts"
    ["player_id", "fist_tries", "club_tries", "sword_tries", "axe_tries", "distance_tries",
      "shielding_tries", "fishing_tries", "magic_mana"])]⟩,
  -- SCHEMA_VERSION_LIFECYCLE
  ⟨9, [.execute (.createTableIfNotExists "player_lifecycle"
    ["player_id", "dead", "respawn_x", "respawn_y", "respawn_z", "death_time",
      "loss_applied"])]⟩,
  -- SCHEMA_VERSION_CONDITION_ELAPSED
  ⟨10, [.addMissingColumn "player_conditions" "elapsed_seconds" (.integer 0)]⟩,
  -- SCHEMA_VERSION_OUTFIT
  ⟨11, [
    .addMissingColumn "players" "look_type" (.integer 0),
    .addMissingColumn "players" "look_head" (.integer 0),
    .addMissingColumn "players" "look_body" (.integer 0),
    .addMissingColumn "players" "look_legs" (.integer 0),
    .addMissingColumn "players" "look_feet" (.integer 0)]⟩,
  -- SCHEMA_VERSION_STATIC_CREATURE_RUNTIME
  ⟨12, [.execute (.createTableIfNotExists "static_creature_runtime"
    ["creature_id", "x", "y", "z", "active", "health_percent"])]⟩,
  -- SCHEMA_VERSION_STATIC_CREATURE_REACTIVATION
  ⟨13, [.execute (.addColumn "static_creature_runtime" "reactivation_remaining_seconds" .null)]⟩,
  -- SCHEMA_VERSION_MAP_ITEM_JOURNAL
  ⟨14, [.execute (.createTableIfNotExists "map_item_removal_journal"
    ["map_revision", "x", "y", "z", "item_index"])]⟩,
  -- SCHEMA_VERSION_STATIC_CREATURE_DAMAGE_SEQUENCE
  ⟨15, [.execute
    (.addColumn "static_creature_runtime" "direct_melee_damage_sequence" (.integer 0))]⟩,
  -- SCHEMA_VERSION_STATIC_CREATURE_MELEE_COOLDOWN
  ⟨16, [.execute
    (.addColumn "static_creature_runtime" "direct_melee_cooldown_remaining_ticks" .null)]⟩,
  -- SCHEMA_VERSION_ACCOUNT_VIP_ENTRIES
  ⟨17, [.execute (.createTableIfNotExists "account_vip_entries"
    ["account_id", "player_id", "description", "icon", "notify"])]⟩,
  -- SCHEMA_VERSION_GUILDS
  ⟨18, [
    .execute (.createTableIfNotExists "guilds"
      ["id", "name", "owner_player_id", "created_at", "motd"]),
    .execute (.createTableIfNotExists "guild_ranks" ["id", "guild_id", "name", "level"]),
    .execute (.createTableIfNotExists "guild_membership"
      ["player_id", "guild_id", "rank_id", "nick"])]⟩,
  -- SCHEMA_VERSION_GUILD_INVITATIONS
  ⟨19, [.execute (.createTableIfNotExists "guild_invitations" ["player_id", "guild_id"])]⟩,
  -- SCHEMA_VERSION_PLAYER_BANK_BALANCE
  ⟨20, [.addMissingColumn "players" "bank_balance" (.integer 0)]⟩,
  -- SCHEMA_VERSION_PLAYER_DEPOTS
  ⟨21, [.execute (.createTableIfNotExists "player_depot_items"
    ["player_id", "depot_id", "slot", "server_id", "count", "action_id", "unique_id"])]⟩,
  -- SCHEMA_VERSION_PLAYER_INBOX
  ⟨22, [.execute (.createTableIfNotExists "player_inbox_items"
    ["player_id", "slot", "server_id", "count", "action_id", "unique_id"])]⟩,
  -- SCHEMA_VERSION_HOUSE_OWNERSHIP
  ⟨23, [.execute (.createTableIfNotExists "house_ownership" ["house_id", "owner_player_id"])]⟩,
  -- SCHEMA_VERSION_HOUSE_ACCESS_LISTS
  ⟨24, [.execute (.createTableIfNotExists "house_access_lists"
    ["house_id", "list_id", "text"])]⟩,
  -- SCHEMA_VERSION_MAP_ITEM_COUNT_OVERRIDES
  ⟨25, [.execute (.createTableIfNotExists "map_item_count_overrides"
    ["map_revision", "x", "y", "z", "item_index", "remaining_count"])]⟩,
  -- SCHEMA_VERSION_RUNTIME_MAP_ITEMS
  ⟨26, [
    .execute (.createTableIfNotExists "runtime_map_items"
      ["map_revision", "x", "y", "z", "ordinal", "server_id", "count"]),
    .execute (.createTableIfNotExists "runtime_map_item_children"
      ["x", "y", "z", "ordinal", "child_index", "server_id", "count"])]⟩,
  -- SCHEMA_VERSION_CORPSE_DESPAWN_TICKS
  ⟨27, [.execute (.addColumn "runtime_map_items" "despawn_tick" .null)]⟩,
  -- SCHEMA_VERSION_PLAYER_QUESTS
  ⟨28, [.execute (.createTableIfNotExists "player_quests"
    ["player_id", "quest_id", "completed"])]⟩,
  -- SCHEMA_VERSION_BLESS_PROMOTION
  ⟨29, [
    .execute (.addColumn "players" "bless_count" (.integer 0)),
    .execute (.addColumn "players" "promoted" (.integer 0))]⟩,
  -- SCHEMA_VERSION_PLAYER_PARTIES
  ⟨30, [.execute (.createTable "player_parties" ["player_id", "party_leader_id"])]⟩,
  -- SCHEMA_VERSION_ITEM_CONTENTS
  ⟨31, itemContentsOps⟩,
  -- SCHEMA_VERSION_PLAYER_GM_LEVEL
  ⟨32, [.execute (.addColumn "players" "gm_level" (.integer 0))]⟩,
  -- SCHEMA_VERSION_PLAYER_FACING
  ⟨33, [.execute (.addColumn "players" "facing" (.integer 2))]⟩,
  -- SCHEMA_VERSION_ACCOUNT_BANS
  ⟨34, [
    .execute (.createTableIfNotExists "account_bans"
      ["id", "account_id", "reason", "expires_at", "created_at"]),
    .execute (.createTableIfNotExists "account_mutes" ["account_id", "muted_until"])]⟩,
  -- SCHEMA_VERSION_PLAYER_FROZEN
  ⟨35, [.execute (.addColumn "players" "frozen" (.integer 0))]⟩,
  -- SCHEMA_VERSION_CONDITION_SPEED
  ⟨36, [.execute (.addColumn "player_conditions" "speed_percent" (.integer 0))]⟩,
  -- SCHEMA_VERSION_SCRIPT_STORAGE
  ⟨37, [.execute (.createTableIfNotExists "player_storage_values"
    ["player_id", "storage_key", "storage_value"])]⟩]

/-! ### Running and interrupting them -/

/-- The version a row of `schema_migrations` records. -/
def versionOf (row : SqlRow) : Option ℤ :=
  match row "version" with
  | .integer n => some n
  | _ => none

/-- `COALESCE(MAX(version), 0)` -/
def latestOf (rows : List SqlRow) : ℤ := (rows.filterMap versionOf).max?.getD 0

def schemaVersion (d : SqlStore) : Except SqlError ℤ :=
  match d "schema_migrations" with
  | none => .error (.noSuchTable "schema_migrations")
  | some t => .ok (latestOf t.rows)

def versionRow (version appliedAt : ℤ) : SqlRow := fun c =>
  if c = "version" then .integer version
  else if c = "applied_at" then .integer appliedAt
  else .null

/-- `INSERT OR IGNORE INTO schema_migrations` -/
def recordVersion (version appliedAt : ℤ) : SqlStatement :=
  .insertOrIgnore "schema_migrations" "version" (versionRow version appliedAt)

/-- The body of a step; `clock` is the second at which each version is recorded. -/
def MigrationStep.run (clock : ℤ → ℤ) (st : MigrationStep) (d : SqlStore) :
    Except SqlError SqlStore := do
  let d ← runOps st.ops d
  d.execute (recordVersion st.version (clock st.version))

def migrateSteps (clock : ℤ → ℤ) : List MigrationStep → SqlStore → Except SqlError SqlStore
  | [], d => .ok d
  | st :: rest, d => do
    if (← schemaVersion d) < st.version then migrateSteps clock rest (← st.run clock d)
    else migrateSteps clock rest d

def migrate (clock : ℤ → ℤ) (d : SqlStore) : Except SqlError SqlStore := do
  let d ← baseStep.run clock d
  migrateSteps clock migrationSteps d

/-- The statement behind which the program is stopped.  A count beyond the statements of the step
means all of them, but not the version record. -/
inductive Cut where
  | base (statements : ℕ)
  | step (index statements : ℕ)

/-- What a run stopped at the cut has committed. -/
def interrupted (clock : ℤ → ℤ) (d : SqlStore) : Cut → Except SqlError SqlStore
  | .base statements => runOps (baseStep.ops.take statements) d
  | .step index statements => do
    let d ← baseStep.run clock d
    let d ← migrateSteps clock (migrationSteps.take index) d
    match migrationSteps[index]? with
    | none => .ok d
    | some st =>
      if (← schemaVersion d) < st.version then runOps (st.ops.take statements) d else .ok d

/-! ### Databases of one schema version -/

/-- The tables a step creates. -/
def MigrationStep.tables (st : MigrationStep) : List String :=
  st.ops.filterMap fun op => op.creates.map Prod.fst

/-- The tables of the versions up to `v` are there, what the later steps create or add without
looking is not, and the items in containers have the columns of their version.  Any further tables
and columns may be there. -/
structure HasSchema (v : ℤ) (d : SqlStore) : Prop where
  base : 1 ≤ v → ∀ table ∈ baseStep.tables, (d table).isSome
  tables : ∀ st ∈ migrationSteps, st.version ≤ v → ∀ table ∈ st.tables, (d table).isSome
  clear : ∀ st ∈ migrationSteps, v < st.version → ∀ op ∈ st.ops, op.Clear d
  layout : v < 31 → d.Fits "player_container_items" containerItemColumns

/-- A database of schema version `v`, with any rows. -/
structure AtVersion (v : ℤ) (d : SqlStore) : Prop extends HasSchema v d where
  version : latestOf (d.rowsOf "schema_migrations") = v

/-- The next opening of an interrupted database succeeds, at the latest version and with every row
of the first one. -/
def Resumes (clock clock' : ℤ → ℤ) (d : SqlStore) (cut : Cut) : Prop :=
  ∃ d₁ d₂, interrupted clock d cut = .ok d₁ ∧ migrate clock' d₁ = .ok d₂ ∧
    schemaVersion d₂ = .ok LATEST_SCHEMA_VERSION ∧ d.Keeps d₂

/-- The cut leaves nothing that cannot be repeated: the step is not due, or what has run of it is
guarded, or the rebuild has dropped the old table. -/
def Cut.Repeatable (v : ℤ) : Cut → Prop
  | .base _ => True
  | .step index statements => ∀ st, migrationSteps[index]? = some st → v < st.version →
      (∀ op ∈ st.ops.take statements, op.Guarded) ∨
        ∃ table, .execute (.dropTable table) ∈ st.ops.take statements

/-! ### What the steps are -/

/-- What the steps create and add: the lists of statements, gone through. -/
theorem steps_create :
    (∀ k : ℕ, k < 36 → ∀ st ∈ migrationSteps[k]?, st.version = (k : ℤ) + 2) ∧
    (∀ st ∈ migrationSteps, st.version ≠ 31 → ∀ op ∈ st.ops, op.Additive) ∧
    (∀ op ∈ baseStep.ops, op.Additive ∧ op.Guarded ∧ op.adds = none) ∧
    (∀ st ∈ migrationSteps, ∀ op ∈ st.ops, ∀ table ∈ op.needs, table ∈ baseStep.tables ∨
      ∃ st' ∈ migrationSteps, st'.version < st.version ∧ table ∈ st'.tables) := by
  decide +kernel

/-- What the steps leave to each other. -/
theorem steps_apart :
    (∀ st ∈ baseStep :: migrationSteps, st.ops.Pairwise fun op later => op.Spoils later = false) ∧
    (∀ st ∈ baseStep :: migrationSteps, ∀ op ∈ st.ops, ∀ st' ∈ migrationSteps,
      st.version < st'.version → ∀ later ∈ st'.ops, op.Spoils later = false) ∧
    (∀ st ∈ baseStep :: migrationSteps, ∀ op ∈ st.ops, "schema_migrations" ∉ op.needs ∧
      (st.version < 31 → op.Respects "player_container_items" containerItemColumns)) ∧
    (∀ st ∈ migrationSteps, 31 < st.version → ∀ op ∈ st.ops,
      "player_container_items" ∉ op.expects) := by
  decide +kernel

theorem versions_count : ∀ k : ℕ, k < 36 → ∀ st ∈ migrationSteps[k]?, st.version = (k : ℤ) + 2 :=
  steps_create.1

theorem additive_steps : ∀ st ∈ migrationSteps, st.version ≠ 31 → ∀ op ∈ st.ops, op.Additive :=
  steps_create.2.1

theorem additive_base : ∀ op ∈ baseStep.ops, op.Additive :=
  fun op hop => (steps_create.2.2.1 op hop).1

/-- The tables an operation needs have been created by an earlier step. -/
theorem needs_earlier : ∀ st ∈ migrationSteps, ∀ op ∈ st.ops, ∀ table ∈ op.needs,
    table ∈ baseStep.tables ∨
      ∃ st' ∈ migrationSteps, st'.version < st.version ∧ table ∈ st'.tables :=
  steps_create.2.2.2

theorem apart_in_step : ∀ st ∈ baseStep :: migrationSteps,
    st.ops.Pairwise fun op later => op.Spoils later = false :=
  steps_apart.1

theorem apart_from_later : ∀ st ∈ baseStep :: migrationSteps, ∀ op ∈ st.ops,
    ∀ st' ∈ migrationSteps, st.version < st'.version → ∀ later ∈ st'.ops,
      op.Spoils later = false :=
  steps_apart.2.1

theorem respects_layout : ∀ st ∈ baseStep :: migrationSteps, st.version < 31 → ∀ op ∈ st.ops,
    op.Respects "player_container_items" containerItemColumns :=
  fun st hst hlt op hop => (steps_apart.2.2.1 st hst op hop).2 hlt

theorem journal_not_needed : ∀ st ∈ baseStep :: migrationSteps, ∀ op ∈ st.ops,
    "schema_migrations" ∉ op.needs :=
  fun st hst op hop => (steps_apart.2.2.1 st hst op hop).1

/-- A step is guarded throughout, or it starts with an unguarded operation; the rebuild has an
unguarded one. -/
theorem steps_guarded :
    (∀ st ∈ migrationSteps,
      (∀ op ∈ st.ops, op.Guarded) ∨ ∃ op ∈ st.ops.head?, op.Guarded = false) ∧
    (∀ st ∈ baseStep :: migrationSteps, st.version = 31 → ∃ op ∈ st.ops, op.Guarded = false) := by
  decide +kernel

theorem guarded_or_head : ∀ st ∈ migrationSteps,
    (∀ op ∈ st.ops, op.Guarded) ∨ ∃ op ∈ st.ops.head?, op.Guarded = false :=
  steps_guarded.1

theorem contents_unguarded : ∀ st ∈ baseStep :: migrationSteps, st.version = 31 →
    ∃ op ∈ st.ops, op.Guarded = false :=
  steps_guarded.2

theorem base_ops : ∀ op ∈ baseStep.ops, op.Guarded ∧ op.adds = none :=
  fun op hop => (steps_create.2.2.1 op hop).2

theorem items_not_expected : ∀ st ∈ migrationSteps, 31 < st.version → ∀ op ∈ st.ops,
    "player_container_items" ∉ op.expects :=
  steps_apart.2.2.2

theorem version_eq {k : ℕ} {st : MigrationStep} (h : migrationSteps[k]? = some st) :
    st.version = (k : ℤ) + 2 := by
  obtain ⟨hk, -⟩ := List.getElem?_eq_some_iff.mp h
  exact versions_count k hk st h

theorem eq_of_version {st st' : MigrationStep} (hst : st ∈ migrationSteps)
    (hst' : st' ∈ migrationSteps) (h : st'.version = st.version) : st' = st := by
  obtain ⟨k, hk⟩ := List.mem_iff_getElem?.mp hst
  obtain ⟨k', hk'⟩ := List.mem_iff_getElem?.mp hst'
  have hkv := version_eq hk
  have hkv' := version_eq hk'
  have hkk : k' = k := by omega
  rw [hkk, hk] at hk'
  cases hk'
  rfl

theorem ops_of_version {st : MigrationStep} (hst : st ∈ migrationSteps) (h : st.version = 31) :
    st.ops = itemContentsOps := by
  obtain ⟨k, hk⟩ := List.mem_iff_getElem?.mp hst
  have hv := version_eq hk
  have hk29 : k = 29 := by omega
  subst hk29
  cases hk
  rfl

/-! ### The version record -/

theorem le_latestOf {rows : List SqlRow} {w : ℤ} (h : ∃ row ∈ rows, versionOf row = some w) :
    w ≤ latestOf rows := by
  obtain ⟨row, hrow, hw⟩ := h
  have hmem : w ∈ rows.filterMap versionOf := List.mem_filterMap.mpr ⟨row, hrow, hw⟩
  unfold latestOf
  cases hmax : (rows.filterMap versionOf).max? with
  | none =>
    rw [List.max?_eq_none_iff.mp hmax] at hmem
    cases hmem
  | some m => exact (List.max?_eq_some_iff.mp hmax).2 w hmem

theorem latestOf_append {rows : List SqlRow} {row : SqlRow} {w : ℤ} (hw : 0 ≤ w)
    (hrow : versionOf row = some w) :
    latestOf (rows ++ [row]) = max (latestOf rows) w := by
  unfold latestOf
  rw [List.filterMap_append]
  have hsingle : [row].filterMap versionOf = [w] := by simp [hrow]
  rw [hsingle]
  cases rows.filterMap versionOf with
  | nil => simp [hw]
  | cons v vs =>
    show (some ((vs ++ [w]).foldl max v)).getD 0 = max ((some (vs.foldl max v)).getD 0) w
    rw [List.foldl_append]
    rfl

/-- `d'` has the tables and columns of `d`, and differs at most in the rows of the journal. -/
structure SameButJournal (d d' : SqlStore) : Prop where
  keeps : d.Keeps d'
  columns : ∀ name, (d' name).map SqlTable.columns = (d name).map SqlTable.columns
  others : ∀ name, name ≠ "schema_migrations" → d' name = d name

theorem sameButJournal_update {d : SqlStore} {t : SqlTable} (ht : d "schema_migrations" = some t)
    {rows : List SqlRow} (hkeeps : t.Keeps ⟨t.columns, rows⟩) :
    SameButJournal d (Function.update d "schema_migrations" (some ⟨t.columns, rows⟩)) where
  keeps := SqlStore.keeps_update fun t' ht' => by
    rw [ht] at ht'
    cases ht'
    exact hkeeps
  columns := by
    intro name
    by_cases hn : name = "schema_migrations"
    · subst hn
      rw [Function.update_self, ht]
      rfl
    · rw [Function.update_of_ne hn]
  others := fun _ hn => Function.update_of_ne hn _ _

/-- **The version record**: the row is added unless the version is recorded; nothing else
changes. -/
theorem record_spec {d : SqlStore} (hj : (d "schema_migrations").isSome) {w appliedAt : ℤ}
    (hw : 0 ≤ w) :
    ∃ d', d.execute (recordVersion w appliedAt) = .ok d' ∧ SameButJournal d d' ∧
      latestOf (d'.rowsOf "schema_migrations") =
        max (latestOf (d.rowsOf "schema_migrations")) w := by
  obtain ⟨t, ht⟩ := Option.isSome_iff_exists.mp hj
  have hrows : d.rowsOf "schema_migrations" = t.rows := by simp [SqlStore.rowsOf, ht]
  rw [hrows]
  by_cases hany : t.rows.any fun old => old "version" = versionRow w appliedAt "version"
  · refine ⟨d, ?_, ⟨SqlStore.Keeps.refl d, fun _ => rfl, fun _ _ => rfl⟩, ?_⟩
    · simp only [recordVersion, SqlStore.execute, ht]
      rw [if_pos hany]
    · obtain ⟨old, hold, heq⟩ := List.any_eq_true.mp hany
      have hv : versionOf old = some w := by
        simp only [versionOf, of_decide_eq_true heq]
        rfl
      rw [hrows]
      exact (max_eq_left (le_latestOf ⟨old, hold, hv⟩)).symm
  · refine ⟨_, ?_, sameButJournal_update ht (t.keeps_append [versionRow w appliedAt]), ?_⟩
    · simp only [recordVersion, SqlStore.execute, ht]
      rw [if_neg hany]
    · simp only [SqlStore.rowsOf, Function.update_self, Option.elim_some]
      exact latestOf_append hw rfl

theorem HasSchema.congr {v : ℤ} {d d' : SqlStore} (h : HasSchema v d)
    (hsame : SameButJournal d d') : HasSchema v d' where
  base := fun hv table ht => hsame.keeps.isSome (h.base hv table ht)
  tables := fun st hst hv table ht => hsame.keeps.isSome (h.tables st hst hv table ht)
  clear := fun st hst hv op hop =>
    (h.clear st hst hv op hop).congr fun name _ => hsame.columns name
  layout := by
    intro hv t ht
    rw [hsame.others _ (by decide)] at ht
    exact h.layout hv t ht

/-- **After the record** the database is at the recorded version. -/
theorem HasSchema.record {v w appliedAt : ℤ} {d : SqlStore} (h : HasSchema (max v w) d)
    (hv : latestOf (d.rowsOf "schema_migrations") = v) (hj : (d "schema_migrations").isSome)
    (hw : 0 ≤ w) :
    ∃ d', d.execute (recordVersion w appliedAt) = .ok d' ∧ SameButJournal d d' ∧
      AtVersion (max v w) d' := by
  obtain ⟨d', hrun, hsame, hlatest⟩ := @record_spec d hj w appliedAt hw
  exact ⟨d', hrun, hsame, { h.congr hsame with version := by rw [hlatest, hv] }⟩

/-! ### One step -/

/-- What additive operations of the step after version `v` leave: the database is still at version
`v`, and what they have created or added is there. -/
theorem AtVersion.addOps {v : ℤ} {d : SqlStore} (h : AtVersion v d) {st : MigrationStep}
    (hst : st ∈ baseStep :: migrationSteps) (hdue : st.version = v + 1) {ops : List MigrationOp}
    (hsub : ops.Sublist st.ops) (hops : ∀ op ∈ ops, op.Additive)
    (hclear : ∀ op ∈ ops, op.Clear d)
    (hneeds : ∀ op ∈ ops, ∀ table ∈ op.needs, (d table).isSome) :
    ∃ d', runOps ops d = .ok d' ∧ Adds ops d d' ∧
      latestOf (d'.rowsOf "schema_migrations") = v ∧
      (∀ st' ∈ migrationSteps, st.version < st'.version → ∀ op ∈ st'.ops, op.Clear d') ∧
      (st.version < 31 → d'.Fits "player_container_items" containerItemColumns) := by
  obtain ⟨d', hrun, hadds⟩ := runOps_additive hops ((apart_in_step st hst).sublist hsub)
    hneeds hclear
  refine ⟨d', hrun, hadds, ?_, ?_, ?_⟩
  · rw [hadds.rows _ fun op hop => journal_not_needed st hst op (hsub.subset hop)]
    exact h.version
  · intro st' hst' hlt op hop
    exact hadds.clear op (fun o ho => apart_from_later st hst o (hsub.subset ho) st' hst' hlt op hop)
      (h.clear st' hst' (by omega) op hop)
  · intro hlt
    exact hadds.columns _ _ (fun o ho => respects_layout st hst hlt o (hsub.subset ho))
      (h.layout (by omega))

theorem AtVersion.needs {v : ℤ} {d : SqlStore} (h : AtVersion v d) (hv : 1 ≤ v)
    {st : MigrationStep} (hst : st ∈ migrationSteps) (hdue : st.version = v + 1) :
    ∀ op ∈ st.ops, ∀ table ∈ op.needs, (d table).isSome := by
  intro op hop table ht
  cases needs_earlier st hst op hop table ht with
  | inl hbase => exact h.base hv table hbase
  | inr hstep =>
    obtain ⟨st', hst', hlt, hmem⟩ := hstep
    exact h.tables st' hst' (by omega) table hmem

theorem mem_tables {st : MigrationStep} {table : String} (h : table ∈ st.tables) :
    ∃ op ∈ st.ops, ∃ c, op.creates = some c ∧ c.1 = table := by
  obtain ⟨op, hop, heq⟩ := List.mem_filterMap.mp h
  obtain ⟨c, hc, hname⟩ := Option.map_eq_some_iff.mp heq
  exact ⟨op, hop, c, hc, hname⟩

/-- **A step of additive operations**, from the version before it. -/
theorem AtVersion.runStep {v : ℤ} {d : SqlStore} (h : AtVersion v d) (hv : 1 ≤ v)
    {st : MigrationStep} (hst : st ∈ migrationSteps) (hdue : st.version = v + 1)
    (hne : st.version ≠ 31) (clock : ℤ → ℤ) :
    ∃ d', st.run clock d = .ok d' ∧ d.Keeps d' ∧ AtVersion (v + 1) d' := by
  obtain ⟨d₁, hrun, hadds, hversion, hclear, hlayout⟩ := h.addOps (List.mem_cons_of_mem _ hst) hdue
    (List.Sublist.refl _) (additive_steps st hst hne) (h.clear st hst (by omega))
    (h.needs hv hst hdue)
  have hschema : HasSchema (v + 1) d₁ :=
    { base := fun _ table ht => hadds.keeps.isSome (h.base hv table ht)
      tables := by
        intro st' hst' hle table ht
        by_cases hlt : st'.version ≤ v
        · exact hadds.keeps.isSome (h.tables st' hst' hlt table ht)
        · have hsame : st' = st := eq_of_version hst hst' (by omega)
          obtain ⟨op, hop, c, hc, rfl⟩ := mem_tables (hsame ▸ ht)
          exact (hadds.made op hop).1 c hc
      clear := fun st' hst' hlt => hclear st' hst' (by omega)
      layout := fun hlt => hlayout (by omega) }
  have hmax : max v st.version = v + 1 := by omega
  have hj : (d₁ "schema_migrations").isSome :=
    hadds.keeps.isSome (h.base hv _ (by decide))
  obtain ⟨d₂, hrecord, hsame, hat⟩ := @HasSchema.record v st.version (clock st.version) d₁
    (hmax ▸ hschema) hversion hj (by omega)
  refine ⟨d₂, ?_, hadds.keeps.trans hsame.keeps, hmax ▸ hat⟩
  unfold MigrationStep.run
  rw [hrun]
  exact hrecord

/-! ### The first batch -/

theorem present_base {d : SqlStore} (h : ∀ table ∈ baseStep.tables, (d table).isSome) :
    ∀ op ∈ baseStep.ops, op.Guarded ∧ op.Present d := by
  intro op hop
  obtain ⟨hguarded, hadds⟩ := base_ops op hop
  refine ⟨hguarded, fun c hc => ?_, fun a ha => by rw [hadds] at ha; cases ha⟩
  refine h c.1 (List.mem_filterMap.mpr ⟨op, hop, ?_⟩)
  rw [hc]
  rfl

/-- On a database that has its tables, the first batch records version 1 if anything. -/
theorem base_reopen {d : SqlStore} (h : ∀ table ∈ baseStep.tables, (d table).isSome)
    (clock : ℤ → ℤ) :
    ∃ d', baseStep.run clock d = .ok d' ∧ SameButJournal d d' ∧
      latestOf (d'.rowsOf "schema_migrations") =
        max (latestOf (d.rowsOf "schema_migrations")) 1 := by
  obtain ⟨d', hrun, hsame, hlatest⟩ :=
    @record_spec d (h _ (by decide)) 1 (clock 1) (by decide)
  refine ⟨d', ?_, hsame, hlatest⟩
  unfold MigrationStep.run
  rw [runOps_of_guarded (present_base h)]
  exact hrun

theorem AtVersion.runBase {v : ℤ} {d : SqlStore} (h : AtVersion v d) (hv : 0 ≤ v)
    (clock : ℤ → ℤ) :
    ∃ d', baseStep.run clock d = .ok d' ∧ d.Keeps d' ∧ AtVersion (max v 1) d' := by
  by_cases hone : 1 ≤ v
  · obtain ⟨d', hrun, hsame, hlatest⟩ := base_reopen (h.base hone) clock
    rw [h.version] at hlatest
    refine ⟨d', hrun, hsame.keeps, ?_⟩
    have hmax : max v 1 = v := max_eq_left hone
    rw [hmax] at hlatest ⊢
    exact { h.toHasSchema.congr hsame with version := hlatest }
  · have hzero : v = 0 := by omega
    subst hzero
    obtain ⟨d₁, hrun, hadds, hversion, hclear, hlayout⟩ := h.addOps List.mem_cons_self rfl
      (List.Sublist.refl _) additive_base (fun op hop => MigrationOp.Guarded.clear (base_ops op hop).1 d)
      (fun op hop table ht => by simp [MigrationOp.needs, (base_ops op hop).2] at ht)
    have htables : ∀ table ∈ baseStep.tables, (d₁ table).isSome := by
      intro table ht
      obtain ⟨op, hop, c, hc, rfl⟩ := mem_tables ht
      exact (hadds.made op hop).1 c hc
    have hschema : HasSchema (max 0 1) d₁ :=
      { base := fun _ => htables
        tables := by
          intro st hst hle
          obtain ⟨k, hk⟩ := List.mem_iff_getElem?.mp hst
          have hkv := version_eq hk
          simp at hle
          omega
        clear := fun st hst hlt => hclear st hst (show (1 : ℤ) < _ by simpa using hlt)
        layout := fun _ => hlayout (by decide) }
    obtain ⟨d₂, hrecord, hsame, hat⟩ := @HasSchema.record 0 1 (clock 1) d₁ hschema hversion
      (htables _ (by decide)) (by decide)
    refine ⟨d₂, ?_, hadds.keeps.trans hsame.keeps, hat⟩
    unfold MigrationStep.run
    rw [hrun]
    exact hrecord

/-! ### The rebuild of the items in containers -/

theorem itemContentsRow_apply (row : SqlRow) {c : String} (hc : c ∈ containerItemColumns) :
    projectRow itemContentsAssignments row c = row c := by
  simp only [containerItemColumns, List.mem_cons, List.not_mem_nil, or_false] at hc
  rcases hc with rfl | rfl | rfl | rfl | rfl | rfl | rfl <;> rfl

theorem itemContents_targets : ∀ a ∈ itemContentsAssignments, a.1 ∈ itemContentsColumns := by
  decide +kernel

theorem itemContents_sources : ∀ a ∈ itemContentsAssignments, ∀ c ∈ a.2,
    c ∈ containerItemColumns := by
  decide +kernel

theorem columns_kept : containerItemColumns ⊆ itemContentsColumns := by decide

/-- A database of version 30 but for the items in containers, which may have been rebuilt. -/
structure BeforeContents (d : SqlStore) (t : SqlTable) : Prop where
  version : latestOf (d.rowsOf "schema_migrations") = 30
  base : ∀ table ∈ baseStep.tables, (d table).isSome
  tables : ∀ st ∈ migrationSteps, st.version ≤ 30 → ∀ table ∈ st.tables, (d table).isSome
  clear : ∀ st ∈ migrationSteps, 31 < st.version → ∀ op ∈ st.ops, op.Clear d
  table : d "player_container_items" = some t
  columns : containerItemColumns ⊆ t.columns
  old : d "player_container_items_v30" = none

theorem AtVersion.beforeContents {d : SqlStore} (h : AtVersion 30 d) :
    ∃ t, BeforeContents d t ∧ t.columns = containerItemColumns := by
  have hitems : (d "player_container_items").isSome :=
    h.tables _ (List.mem_of_getElem? (i := 2) rfl) (by decide) _ (by decide)
  obtain ⟨t, ht⟩ := Option.isSome_iff_exists.mp hitems
  have hcols := h.layout (by decide) t ht
  refine ⟨t, ⟨h.version, h.base (by decide), h.tables, ?_, ht, hcols ▸ List.Subset.refl _, ?_⟩, hcols⟩
  · exact fun st hst hlt => h.clear st hst (by omega)
  · exact h.clear _ (List.mem_of_getElem? (i := 29) rfl) (by decide)
      (.execute (.renameTable "player_container_items" "player_container_items_v30"))
      List.mem_cons_self

theorem BeforeContents.congr {d d' : SqlStore} {t : SqlTable} (h : BeforeContents d t)
    (hsame : SameButJournal d d')
    (hversion : latestOf (d'.rowsOf "schema_migrations") = 30) : BeforeContents d' t where
  version := hversion
  base := fun table ht => hsame.keeps.isSome (h.base table ht)
  tables := fun st hst hle table ht => hsame.keeps.isSome (h.tables st hst hle table ht)
  clear := fun st hst hlt op hop =>
    (h.clear st hst hlt op hop).congr fun name _ => hsame.columns name
  table := (hsame.others _ (by decide)).trans h.table
  columns := h.columns
  old := (hsame.others _ (by decide)).trans h.old

/-- **The batch of the rebuild**, the first time and when it is repeated. -/
theorem BeforeContents.batch {d : SqlStore} {t : SqlTable} (h : BeforeContents d t) :
    ∃ d', runOps itemContentsOps d = .ok d' ∧
      BeforeContents d' ⟨itemContentsColumns, t.rows.map (projectRow itemContentsAssignments)⟩ ∧
      ∀ name, name ≠ "player_container_items" → d' name = d name := by
  obtain ⟨d', hrun, htable, hothers⟩ := runOps_rebuild h.table h.old (by decide)
    itemContents_targets fun a ha c hc => h.columns (itemContents_sources a ha c hc)
  have hsome : ∀ table, (d table).isSome → (d' table).isSome := by
    intro table ht
    by_cases hn : table = "player_container_items"
    · subst hn
      rw [htable]
      rfl
    · rw [hothers table hn]
      exact ht
  refine ⟨d', hrun, ?_, hothers⟩
  exact
    { version := by
        rw [SqlStore.rowsOf, hothers _ (by decide)]
        exact h.version
      base := fun table ht => hsome table (h.base table ht)
      tables := fun st hst hle table ht => hsome table (h.tables st hst hle table ht)
      clear := by
        intro st hst hlt op hop
        refine (h.clear st hst hlt op hop).congr fun name hname => ?_
        have hne : name ≠ "player_container_items" := fun heq =>
          items_not_expected st hst hlt op hop (heq ▸ hname)
        rw [hothers name hne]
      table := htable
      columns := columns_kept
      old := (hothers _ (by decide)).trans h.old }

/-- Up to the last statement of the batch the old name is taken. -/
theorem BeforeContents.batch_take {d : SqlStore} {t : SqlTable} (h : BeforeContents d t) {n : ℕ}
    (hn : 1 ≤ n) (hn' : n ≤ 3) :
    ∃ d', runOps (itemContentsOps.take n) d = .ok d' ∧
      ( d' "player_container_items_v30").isSome ∧
      ∀ name, name ≠ "player_container_items" → name ≠ "player_container_items_v30" →
        d' name = d name := by
  obtain ⟨d', hrun, hold, hothers⟩ := runOps_rebuild_take h.table h.old (by decide)
    itemContents_targets (fun a ha c hc => h.columns (itemContents_sources a ha c hc)) hn hn'
  exact ⟨d', hrun, hold ▸ rfl, hothers⟩

theorem BeforeContents.record {d : SqlStore} {t : SqlTable} (h : BeforeContents d t)
    (appliedAt : ℤ) :
    ∃ d', d.execute (recordVersion 31 appliedAt) = .ok d' ∧ SameButJournal d d' ∧
      AtVersion 31 d' := by
  have hschema : HasSchema (max 30 31) d :=
    { base := fun _ => h.base
      tables := by
        intro st hst hle table ht
        by_cases hlt : st.version ≤ 30
        · exact h.tables st hst hlt table ht
        · have hv : st.version = 31 := le_antisymm hle (by omega)
          have hops := ops_of_version hst hv
          have hmem : table ∈ (itemContentsOps.filterMap fun op => op.creates.map Prod.fst) :=
            hops ▸ ht
          have hname : table = "player_container_items" := by
            simpa [itemContentsOps, rebuild, MigrationOp.creates] using hmem
          rw [hname, h.table]
          rfl
      clear := fun st hst hlt => h.clear st hst hlt
      layout := fun hlt => absurd hlt (by decide) }
  exact @HasSchema.record 30 31 appliedAt d hschema h.version (h.base _ (by decide)) (by decide)

/-- The rows of the items in containers keep the cells of the old columns. -/
theorem keeps_rebuilt {d d' : SqlStore} {t : SqlTable} {f : SqlRow → SqlRow}
    (ht : d "player_container_items" = some t) (hcols : t.columns = containerItemColumns)
    (hd' : d' "player_container_items" = some ⟨itemContentsColumns, t.rows.map f⟩)
    (hf : ∀ row, ∀ c ∈ containerItemColumns, f row c = row c)
    (hothers : ∀ name, name ≠ "player_container_items" → ∀ t, d name = some t →
      ∃ t', d' name = some t' ∧ t.Keeps t') : d.Keeps d' := by
  intro name t₀ ht₀
  by_cases hn : name = "player_container_items"
  · subst hn
    rw [ht] at ht₀
    cases ht₀
    refine ⟨_, hd', ?_, sublistForall₂_map _ _ fun row _ => ?_⟩
    · rw [hcols]
      exact columns_kept
    · rw [hcols]
      exact hf row
  · exact hothers name hn t₀ ht₀

/-- The step of the rebuild, from version 30. -/
theorem AtVersion.runContents {d : SqlStore} (h : AtVersion 30 d) {st : MigrationStep}
    (hst : st ∈ migrationSteps) (hv : st.version = 31) (clock : ℤ → ℤ) :
    ∃ d', st.run clock d = .ok d' ∧ d.Keeps d' ∧ AtVersion 31 d' := by
  obtain ⟨t, hbefore, hcols⟩ := h.beforeContents
  obtain ⟨d₁, hrun, hbefore', hothers⟩ := hbefore.batch
  obtain ⟨d₂, hrecord, hsame, hat⟩ := hbefore'.record (clock 31)
  have hkeeps : d.Keeps d₁ := by
    refine keeps_rebuilt hbefore.table hcols hbefore'.table
      (fun row c hc => itemContentsRow_apply row hc) fun name hn t ht => ?_
    exact ⟨t, (hothers name hn).trans ht, SqlTable.Keeps.refl t⟩
  refine ⟨d₂, ?_, hkeeps.trans hsame.keeps, hat⟩
  unfold MigrationStep.run
  rw [ops_of_version hst hv, hv, hrun]
  exact hrecord

/-! ### Whole runs -/

theorem schemaVersion_eq {d : SqlStore} (h : (d "schema_migrations").isSome) :
    schemaVersion d = .ok (latestOf (d.rowsOf "schema_migrations")) := by
  obtain ⟨t, ht⟩ := Option.isSome_iff_exists.mp h
  simp [schemaVersion, SqlStore.rowsOf, ht]

theorem AtVersion.schemaVersion {v : ℤ} {d : SqlStore} (h : AtVersion v d) (hv : 1 ≤ v) :
    schemaVersion d = .ok v := by
  rw [schemaVersion_eq (h.base hv _ (by decide)), h.version]

theorem migrateSteps_append (clock : ℤ → ℤ) (l₂ : List MigrationStep) :
    ∀ (l₁ : List MigrationStep) (d : SqlStore),
      migrateSteps clock (l₁ ++ l₂) d = migrateSteps clock l₁ d >>= migrateSteps clock l₂ := by
  intro l₁
  induction l₁ with
  | nil => exact fun _ => rfl
  | cons st l₁ ih =>
    intro d
    simp only [List.cons_append, migrateSteps]
    cases hv : schemaVersion d with
    | error e => rfl
    | ok v =>
      by_cases hlt : v < st.version
      · simp only [bind, Except.bind, if_pos hlt]
        cases hrun : st.run clock d with
        | error e => rfl
        | ok d' => exact ih d'
      · simp only [bind, Except.bind, if_neg hlt]
        exact ih d

/-- Steps that are recorded are skipped. -/
theorem migrateSteps_skip (clock : ℤ → ℤ) {v : ℤ} {d : SqlStore} (hv : schemaVersion d = .ok v)
    {l : List MigrationStep} (hl : ∀ st ∈ l, st.version ≤ v) : migrateSteps clock l d = .ok d := by
  induction l with
  | nil => rfl
  | cons st l ih =>
    have hnot : ¬ v < st.version := not_lt.mpr (hl st List.mem_cons_self)
    simp only [migrateSteps, hv, bind, Except.bind, if_neg hnot]
    exact ih fun st' hst' => hl st' (List.mem_cons_of_mem _ hst')

/-- A due step runs. -/
theorem migrateSteps_due (clock : ℤ → ℤ) {v : ℤ} {d : SqlStore} (hv : schemaVersion d = .ok v)
    {st : MigrationStep} (hdue : v < st.version) (l : List MigrationStep) :
    migrateSteps clock (st :: l) d = st.run clock d >>= migrateSteps clock l := by
  simp only [migrateSteps, hv, bind, Except.bind, if_pos hdue]

theorem versions_take {k : ℕ} {st : MigrationStep} (h : st ∈ migrationSteps.take k) :
    st.version ≤ (k : ℤ) + 1 := by
  obtain ⟨i, hi⟩ := List.mem_iff_getElem?.mp h
  rw [List.getElem?_take] at hi
  by_cases hik : i < k
  · rw [if_pos hik] at hi
    have hv := version_eq hi
    omega
  · rw [if_neg hik] at hi
    cases hi

/-- **The first steps of a run**, from a database of any version. -/
theorem AtVersion.migrateTake {v : ℤ} {d : SqlStore} (h : AtVersion v d) (hv : 1 ≤ v)
    (clock : ℤ → ℤ) {k : ℕ} (hk : k ≤ 36) :
    ∃ d', migrateSteps clock (migrationSteps.take k) d = .ok d' ∧ d.Keeps d' ∧
      AtVersion (max v (k + 1)) d' := by
  induction k with
  | zero =>
    refine ⟨d, rfl, SqlStore.Keeps.refl d, ?_⟩
    have hmax : max v ((0 : ℕ) + 1 : ℤ) = v := by simpa using hv
    rw [hmax]
    exact h
  | succ k ih =>
    obtain ⟨d₁, hrun, hkeeps, hat⟩ := ih (by omega)
    have hlt : k < migrationSteps.length := by
      have hlen : migrationSteps.length = 36 := rfl
      omega
    have hget : migrationSteps[k]? = some migrationSteps[k] := List.getElem?_eq_getElem hlt
    have hst : migrationSteps[k] ∈ migrationSteps := List.getElem_mem hlt
    have hversion := version_eq hget
    have hschema := hat.schemaVersion (by omega)
    have htake : migrationSteps.take (k + 1) = migrationSteps.take k ++ [migrationSteps[k]] :=
      List.take_succ_eq_append_getElem hlt
    rw [htake, migrateSteps_append, hrun]
    show ∃ d', migrateSteps clock [_] d₁ = .ok d' ∧ _
    push_cast
    by_cases hdone : migrationSteps[k].version ≤ v
    · have hmax : max v ((k : ℤ) + 1 + 1) = max v (k + 1) := by omega
      rw [hmax]
      refine ⟨d₁, migrateSteps_skip clock hschema fun st' hst' => ?_, hkeeps, hat⟩
      rw [List.mem_singleton.mp hst']
      omega
    · have hmax : max v ((k : ℤ) + 1) = k + 1 := by omega
      have hmax' : max v ((k : ℤ) + 1 + 1) = k + 1 + 1 := by omega
      rw [hmax] at hat hschema
      rw [hmax', migrateSteps_due clock hschema (by omega)]
      have hstep : ∃ d', migrationSteps[k].run clock d₁ = .ok d' ∧ d₁.Keeps d' ∧
          AtVersion ((k : ℤ) + 1 + 1) d' := by
        by_cases hcontents : migrationSteps[k].version = 31
        · have hk29 : (k : ℤ) + 1 = 30 := by omega
          rw [hk29] at hat ⊢
          exact hat.runContents hst hcontents clock
        · exact hat.runStep (by omega) hst (by omega) hcontents clock
      obtain ⟨d₂, hrun₂, hkeeps₂, hat₂⟩ := hstep
      refine ⟨d₂, ?_, hkeeps.trans hkeeps₂, hat₂⟩
      rw [hrun₂]
      rfl

/-- **An opening that nothing interrupts.** -/
theorem AtVersion.migrate {v : ℤ} {d : SqlStore} (h : AtVersion v d) (hv : 0 ≤ v)
    (hlatest : v ≤ LATEST_SCHEMA_VERSION) (clock : ℤ → ℤ) :
    ∃ d', migrate clock d = .ok d' ∧ d.Keeps d' ∧ AtVersion LATEST_SCHEMA_VERSION d' := by
  obtain ⟨d₁, hbase, hkeeps₁, hat₁⟩ := h.runBase hv clock
  obtain ⟨d₂, hrun, hkeeps₂, hat₂⟩ := hat₁.migrateTake (by omega) clock (le_refl 36)
  refine ⟨d₂, ?_, hkeeps₁.trans hkeeps₂, ?_⟩
  · unfold ForgottenEngine.migrate
    rw [hbase]
    exact hrun
  · have hmax : max (max v 1) ((36 : ℕ) + 1 : ℤ) = LATEST_SCHEMA_VERSION := by
      unfold LATEST_SCHEMA_VERSION at hlatest ⊢
      push_cast
      omega
    exact hmax ▸ hat₂

/-! ### Openings after an interruption -/

/-- A guarded part of the step after version `v` leaves a database of version `v`. -/
theorem AtVersion.runGuarded {v : ℤ} {d : SqlStore} (h : AtVersion v d) {st : MigrationStep}
    (hst : st ∈ baseStep :: migrationSteps) (hdue : st.version = v + 1)
    (hguarded : ∀ op ∈ st.ops, op.Guarded)
    (hlater : ∀ st' ∈ migrationSteps, st'.version = st.version → st' = st)
    (hneeds : ∀ op ∈ st.ops, ∀ table ∈ op.needs, (d table).isSome) (n : ℕ) :
    ∃ d', runOps (st.ops.take n) d = .ok d' ∧ d.Keeps d' ∧ AtVersion v d' := by
  have hmem : ∀ op ∈ st.ops.take n, op ∈ st.ops := fun _ hop => List.mem_of_mem_take hop
  obtain ⟨d', hrun, hadds, hversion, hclear, hlayout⟩ := h.addOps hst hdue
    (List.take_sublist n st.ops)
    (fun op hop => MigrationOp.Guarded.additive (hguarded op (hmem op hop)))
    (fun op hop => MigrationOp.Guarded.clear (hguarded op (hmem op hop)) d)
    (fun op hop => hneeds op (hmem op hop))
  refine ⟨d', hrun, hadds.keeps, ?_⟩
  exact
    { base := fun hv table ht => hadds.keeps.isSome (h.base hv table ht)
      tables := fun st' hst' hle table ht =>
        hadds.keeps.isSome (h.tables st' hst' hle table ht)
      clear := by
        intro st' hst' hlt op hop
        by_cases heq : st'.version = st.version
        · rw [hlater st' hst' heq] at hop
          exact MigrationOp.Guarded.clear (hguarded op hop) d'
        · exact hclear st' hst' (by omega) op hop
      layout := by
        intro hlt
        refine hlayout (lt_of_le_of_ne (by omega) fun heq => ?_)
        obtain ⟨op, hop, hnot⟩ := contents_unguarded st hst heq
        rw [hguarded op hop] at hnot
        cases hnot
      version := hversion }

/-- An opening that finds version `k + 1` starts with step `k`. -/
theorem migrate_from {d : SqlStore} {k : ℕ} {st : MigrationStep}
    (hget : migrationSteps[k]? = some st)
    (hbase : ∀ table ∈ baseStep.tables, (d table).isSome)
    (hversion : latestOf (d.rowsOf "schema_migrations") = k + 1) (clock : ℤ → ℤ) :
    ∃ d', SameButJournal d d' ∧ latestOf (d'.rowsOf "schema_migrations") = k + 1 ∧
      migrate clock d = st.run clock d' >>= migrateSteps clock (migrationSteps.drop (k + 1)) := by
  obtain ⟨d', hrun, hsame, hlatest⟩ := base_reopen hbase clock
  have hversion' : latestOf (d'.rowsOf "schema_migrations") = k + 1 := by omega
  have hschema := schemaVersion_eq (hsame.keeps.isSome (hbase _ (by decide)))
  rw [hversion'] at hschema
  refine ⟨d', hsame, hversion', ?_⟩
  obtain ⟨hlt, hk⟩ := List.getElem?_eq_some_iff.mp hget
  have hsplit : migrationSteps = migrationSteps.take k ++ st :: migrationSteps.drop (k + 1) := by
    rw [← hk, List.getElem_cons_drop, List.take_append_drop]
  have hskip := migrateSteps_skip clock hschema fun st' hst' => versions_take hst'
  have hdue := version_eq hget
  unfold migrate
  rw [hrun]
  show migrateSteps clock migrationSteps d' = _
  conv_lhs => rw [hsplit]
  rw [migrateSteps_append, hskip]
  exact migrateSteps_due clock hschema (by omega) _

/-- The steps behind step `k`, from the version it leaves. -/
theorem AtVersion.migrateDrop {d : SqlStore} {k : ℕ} (hk : k < 36)
    (h : AtVersion ((k : ℤ) + 2) d) (clock : ℤ → ℤ) :
    ∃ d', migrateSteps clock (migrationSteps.drop (k + 1)) d = .ok d' ∧ d.Keeps d' ∧
      AtVersion LATEST_SCHEMA_VERSION d' := by
  obtain ⟨d', hrun, hkeeps, hat⟩ := h.migrateTake (by omega) clock (le_refl 36)
  have hskip := migrateSteps_skip clock (h.schemaVersion (by omega))
    (l := migrationSteps.take (k + 1)) fun st hst => by
      have hv := versions_take hst
      push_cast at hv
      omega
  refine ⟨d', ?_, hkeeps, ?_⟩
  · have hall : migrationSteps.take 36 =
        migrationSteps.take (k + 1) ++ migrationSteps.drop (k + 1) :=
      (List.take_append_drop (k + 1) migrationSteps).symm
    rw [hall, migrateSteps_append, hskip] at hrun
    exact hrun
  · have hmax : max ((k : ℤ) + 2) ((36 : ℕ) + 1 : ℤ) = LATEST_SCHEMA_VERSION := by
      unfold LATEST_SCHEMA_VERSION
      push_cast
      omega
    exact hmax ▸ hat

/-- A cut that leaves a database of some version. -/
theorem resumes_of_atVersion {clock clock' : ℤ → ℤ} {d d₁ : SqlStore} {cut : Cut} {v : ℤ}
    (hcut : interrupted clock d cut = .ok d₁) (hkeeps : d.Keeps d₁) (h : AtVersion v d₁)
    (hv : 0 ≤ v) (hlatest : v ≤ LATEST_SCHEMA_VERSION) : Resumes clock clock' d cut := by
  obtain ⟨d₂, hrun, hkeeps₂, hat⟩ := h.migrate hv hlatest clock'
  exact ⟨d₁, d₂, hcut, hrun, hat.schemaVersion (by decide), hkeeps.trans hkeeps₂⟩

theorem not_resumes_of_error {clock clock' : ℤ → ℤ} {d d₁ : SqlStore} {cut : Cut}
    (hcut : interrupted clock d cut = .ok d₁) (herr : ∃ e, migrate clock' d₁ = .error e) :
    ¬ Resumes clock clock' d cut := by
  intro h
  obtain ⟨d₁', d₂, hcut', hrun, -⟩ := h
  obtain ⟨e, herr⟩ := herr
  rw [hcut] at hcut'
  cases hcut'
  rw [herr] at hrun
  cases hrun

/-- The opening fails when the step that is due fails on the database as it was left. -/
theorem migrate_error {d : SqlStore} {k : ℕ} {st : MigrationStep}
    (hget : migrationSteps[k]? = some st)
    (hbase : ∀ table ∈ baseStep.tables, (d table).isSome)
    (hversion : latestOf (d.rowsOf "schema_migrations") = k + 1)
    (herr : ∀ d', SameButJournal d d' → ∃ e, runOps st.ops d' = .error e) (clock : ℤ → ℤ) :
    ∃ e, migrate clock d = .error e := by
  obtain ⟨d', hsame, -, hrun⟩ := migrate_from hget hbase hversion clock
  obtain ⟨e, he⟩ := herr d' hsame
  refine ⟨e, ?_⟩
  rw [hrun]
  unfold MigrationStep.run
  rw [he]
  rfl

/-- Behind an unguarded first operation of an additive step the opening fails, before it the step
has not started. -/
theorem resumes_additive {clock clock' : ℤ → ℤ} {d d₁ : SqlStore} {k n : ℕ} {st : MigrationStep}
    (hget : migrationSteps[k]? = some st) (hk : k < 36) (hne : st.version ≠ 31)
    (h : AtVersion ((k : ℤ) + 1) d₁) (hkeeps : d.Keeps d₁)
    (hcut : interrupted clock d (.step k n) = runOps (st.ops.take n) d₁)
    (hhead : ∃ op ∈ st.ops.head?, op.Guarded = false) :
    Resumes clock clock' d (.step k n) ↔ n = 0 := by
  have hst : st ∈ migrationSteps := List.mem_of_getElem? hget
  have hversion := version_eq hget
  cases n with
  | zero =>
    refine ⟨fun _ => rfl, fun _ => resumes_of_atVersion hcut hkeeps h (by omega) ?_⟩
    unfold LATEST_SCHEMA_VERSION
    omega
  | succ n =>
    refine ⟨fun hresumes => absurd hresumes ?_, fun hzero => by cases hzero⟩
    have hmem : ∀ op ∈ st.ops.take (n + 1), op ∈ st.ops := fun _ hop => List.mem_of_mem_take hop
    have hadditive := additive_steps st hst hne
    obtain ⟨d₂, hrun, hadds, hlatest, -⟩ := h.addOps (List.mem_cons_of_mem _ hst) (by omega)
      (List.take_sublist (n + 1) st.ops) (fun op hop => hadditive op (hmem op hop))
      (fun op hop => h.clear st hst (by omega) op (hmem op hop))
      (fun op hop => h.needs (by omega) hst (by omega) op (hmem op hop))
    refine not_resumes_of_error (hcut.trans hrun) ?_
    refine migrate_error hget
      (fun table ht => hadds.keeps.isSome (h.base (by omega) table ht)) hlatest ?_ clock'
    intro d₃ hsame
    obtain ⟨op, hop, hunguarded⟩ := hhead
    cases hops : st.ops with
    | nil => rw [hops] at hop; cases hop
    | cons first rest =>
      rw [hops] at hop
      cases hop
      have hfirst : op ∈ st.ops.take (n + 1) := by
        rw [hops]
        exact List.mem_cons_self
      obtain ⟨e, he⟩ := run_of_present (hadditive op (hmem op hfirst)) hunguarded
        ((hadds.made op hfirst).mono hsame.keeps)
      exact ⟨e, by rw [runOps_cons, he]; rfl⟩

/-- Inside the rebuild the opening fails; before its first and behind its last statement it
succeeds. -/
theorem resumes_contents {clock clock' : ℤ → ℤ} {d d₁ : SqlStore} {n : ℕ} {st : MigrationStep}
    (hget : migrationSteps[29]? = some st) (h : AtVersion 30 d₁) (hkeeps : d.Keeps d₁)
    (hcut : interrupted clock d (.step 29 n) = runOps (st.ops.take n) d₁) :
    Resumes clock clock' d (.step 29 n) ↔ n = 0 ∨ 4 ≤ n := by
  have hst : st ∈ migrationSteps := List.mem_of_getElem? hget
  have hversion : st.version = 31 := version_eq hget
  rw [ops_of_version hst hversion] at hcut
  obtain ⟨t, hbefore, hcols⟩ := h.beforeContents
  by_cases hzero : n = 0
  · subst hzero
    exact iff_of_true (resumes_of_atVersion hcut hkeeps h (by decide) (by decide)) (.inl rfl)
  by_cases hinside : n ≤ 3
  · refine iff_of_false ?_ (by omega)
    obtain ⟨d₂, hrun, hold, hothers⟩ := hbefore.batch_take (by omega) hinside
    refine not_resumes_of_error (hcut.trans hrun) ?_
    refine migrate_error hget (fun table ht => ?_) ?_ (fun d₃ hsame => ?_) clock'
    · have hne : ∀ table ∈ baseStep.tables, table ≠ "player_container_items" ∧
          table ≠ "player_container_items_v30" := by decide
      rw [hothers table (hne table ht).1 (hne table ht).2]
      exact hbefore.base table ht
    · rw [SqlStore.rowsOf, hothers _ (by decide) (by decide)]
      exact hbefore.version
    · rw [ops_of_version hst hversion]
      exact rebuild_of_old (hsame.keeps.isSome hold)
  · refine iff_of_true ?_ (.inr (by omega))
    obtain ⟨d₂, hrun, hbefore₂, hothers₂⟩ := hbefore.batch
    have htake : itemContentsOps.take n = itemContentsOps := by
      refine List.take_of_length_le ?_
      show 4 ≤ n
      omega
    rw [htake, hrun] at hcut
    -- the second opening: the journal is looked at, the batch runs again, version 31 is recorded
    obtain ⟨d₃, hsame, hlatest, hmigrate⟩ := migrate_from hget hbefore₂.base hbefore₂.version clock'
    have hbefore₃ := hbefore₂.congr hsame hlatest
    obtain ⟨d₄, hrun₄, hbefore₄, hothers₄⟩ := hbefore₃.batch
    obtain ⟨d₅, hrecord, hsame₅, hat⟩ := hbefore₄.record (clock' 31)
    obtain ⟨d₆, hrest, hkeeps₆, hat₆⟩ := AtVersion.migrateDrop (k := 29) (by decide) hat clock'
    have hkeeps₄ : d₁.Keeps d₄ := by
      refine keeps_rebuilt hbefore.table hcols (List.map_map ▸ hbefore₄.table)
        (fun row c hc => ?_) fun name hn t ht => ?_
      · exact (itemContentsRow_apply _ hc).trans (itemContentsRow_apply row hc)
      · obtain ⟨t', ht', hkept⟩ := hsame.keeps name t ((hothers₂ name hn).trans ht)
        exact ⟨t', (hothers₄ name hn).trans ht', hkept⟩
    refine ⟨d₂, d₆, hcut, ?_, hat₆.schemaVersion (by decide),
      ((hkeeps.trans hkeeps₄).trans hsame₅.keeps).trans hkeeps₆⟩
    have hstep : st.run clock' d₃ = .ok d₅ := by
      unfold MigrationStep.run
      rw [ops_of_version hst hversion, hversion, hrun₄]
      exact hrecord
    rw [hmigrate, hstep]
    exact hrest

/-- Whether a cut inside a step that is due is repeatable, by the kind of the step. -/
theorem repeatable_due {k n : ℕ} {v : ℤ} {st : MigrationStep} (hget : migrationSteps[k]? = some st)
    (hdue : v < st.version) :
    (Cut.step k n).Repeatable v ↔ (∀ op ∈ st.ops.take n, op.Guarded) ∨
      ∃ table, .execute (.dropTable table) ∈ st.ops.take n := by
  refine ⟨fun h => h st hget hdue, fun h st' hget' _ => ?_⟩
  rw [hget] at hget'
  cases hget'
  exact h

theorem repeatable_additive {n : ℕ} {st : MigrationStep} (hadditive : ∀ op ∈ st.ops, op.Additive)
    (hhead : ∃ op ∈ st.ops.head?, op.Guarded = false) :
    ((∀ op ∈ st.ops.take n, op.Guarded) ∨
      ∃ table, .execute (.dropTable table) ∈ st.ops.take n) ↔ n = 0 := by
  constructor
  · intro h
    by_contra hn
    obtain ⟨op, hop, hunguarded⟩ := hhead
    have hfirst : op ∈ st.ops.take n := by
      cases hops : st.ops with
      | nil => rw [hops] at hop; cases hop
      | cons first rest =>
        rw [hops] at hop
        cases hop
        cases n with
        | zero => exact absurd rfl hn
        | succ n => exact List.mem_cons_self
    cases h with
    | inl h =>
      rw [h op hfirst] at hunguarded
      cases hunguarded
    | inr h =>
      obtain ⟨table, hdrop⟩ := h
      have hbad := hadditive _ (List.mem_of_mem_take hdrop)
      cases hbad
  · intro h
    subst h
    exact .inl fun op hop => by cases hop

theorem repeatable_contents (n : ℕ) :
    ((∀ op ∈ itemContentsOps.take n, op.Guarded) ∨
      ∃ table, .execute (.dropTable table) ∈ itemContentsOps.take n) ↔ n = 0 ∨ 4 ≤ n := by
  match n with
  | 0 => exact iff_of_true (.inl fun op hop => by cases hop) (.inl rfl)
  | 1 | 2 | 3 =>
    refine iff_of_false (fun h => ?_) (by omega)
    cases h with
    | inl h =>
      have hbad := h _ List.mem_cons_self
      cases hbad
    | inr h =>
      obtain ⟨table, h⟩ := h
      simp [itemContentsOps, rebuild] at h
  | n + 4 =>
    refine iff_of_true (.inr ⟨"player_container_items_v30", ?_⟩) (.inr (by omega))
    rw [List.take_of_length_le (show 4 ≤ n + 4 by omega)]
    simp [itemContentsOps, rebuild]

/-- **Resuming the migration.**  From a database of any supported version, with any rows, stopped
behind any statement: the next opening succeeds, reaches the latest version and keeps every row if
and only if the cut leaves nothing behind that cannot be repeated. -/
theorem resumes_iff (clock clock' : ℤ → ℤ) {v : ℤ} {d : SqlStore} (h : AtVersion v d) (hv : 0 ≤ v)
    (hlatest : v ≤ LATEST_SCHEMA_VERSION) (cut : Cut) :
    Resumes clock clock' d cut ↔ cut.Repeatable v := by
  cases cut with
  | base n =>
    refine iff_of_true ?_ trivial
    by_cases hone : 1 ≤ v
    · have hrun : runOps (baseStep.ops.take n) d = .ok d :=
        runOps_of_guarded fun op hop => present_base (h.base hone) op (List.mem_of_mem_take hop)
      exact resumes_of_atVersion hrun (SqlStore.Keeps.refl d) h hv hlatest
    · have hzero : v = 0 := by omega
      subst hzero
      obtain ⟨d₁, hrun, hkeeps, hat⟩ := h.runGuarded List.mem_cons_self rfl
        (fun op hop => (base_ops op hop).1)
        (fun st' hst' heq => by
          obtain ⟨k, hk⟩ := List.mem_iff_getElem?.mp hst'
          have hkv := version_eq hk
          have hone : st'.version = 1 := heq
          omega)
        (fun op hop table ht => by simp [MigrationOp.needs, (base_ops op hop).2] at ht) n
      exact resumes_of_atVersion hrun hkeeps hat hv hlatest
  | step k n =>
    obtain ⟨d₀, hbase, hkeeps₀, hat₀⟩ := h.runBase hv clock
    have hlength : migrationSteps.length = 36 := rfl
    cases hget : migrationSteps[k]? with
    | none =>
      have hk : 36 ≤ k := hlength ▸ List.getElem?_eq_none_iff.mp hget
      obtain ⟨d₁, hrun, hkeeps₁, hat₁⟩ := hat₀.migrateTake (by omega) clock (le_refl 36)
      have htake : migrationSteps.take k = migrationSteps.take 36 :=
        (List.take_of_length_le (hlength ▸ hk)).trans
          (List.take_of_length_le (le_of_eq hlength)).symm
      refine iff_of_true ?_ fun st hst => by rw [hget] at hst; cases hst
      have hcut : interrupted clock d (.step k n) = .ok d₁ := by
        simp only [interrupted, hbase, hget, htake, hrun, bind, Except.bind]
      refine resumes_of_atVersion hcut (hkeeps₀.trans hkeeps₁) hat₁ (by omega) ?_
      unfold LATEST_SCHEMA_VERSION at hlatest ⊢
      push_cast
      omega
    | some st =>
      have hk : k < 36 := hlength ▸ (List.getElem?_eq_some_iff.mp hget).1
      have hst : st ∈ migrationSteps := List.mem_of_getElem? hget
      have hversion := version_eq hget
      obtain ⟨d₁, hrun, hkeeps₁, hat₁⟩ := hat₀.migrateTake (by omega) clock (le_of_lt hk)
      have hschema := hat₁.schemaVersion (by omega)
      have hkeeps := hkeeps₀.trans hkeeps₁
      by_cases hdue : v < st.version
      · have hmax : max (max v 1) ((k : ℤ) + 1) = k + 1 := by omega
        rw [hmax] at hat₁ hschema
        have hcut : interrupted clock d (.step k n) = runOps (st.ops.take n) d₁ := by
          simp only [interrupted, hbase, hget, hrun, hschema, bind, Except.bind]
          rw [if_pos (by omega)]
        rw [repeatable_due hget hdue]
        by_cases hcontents : st.version = 31
        · have hk29 : k = 29 := by omega
          subst hk29
          rw [resumes_contents hget hat₁ hkeeps hcut, ops_of_version hst hcontents]
          exact (repeatable_contents n).symm
        · cases guarded_or_head st hst with
          | inl hguarded =>
            refine iff_of_true ?_ (.inl fun op hop => hguarded op (List.mem_of_mem_take hop))
            obtain ⟨d₂, hrun₂, hkeeps₂, hat₂⟩ := hat₁.runGuarded (List.mem_cons_of_mem _ hst)
              (by omega) hguarded (fun st' hst' heq => eq_of_version hst hst' heq)
              (hat₁.needs (by omega) hst (by omega)) n
            refine resumes_of_atVersion (hcut.trans hrun₂) (hkeeps.trans hkeeps₂) hat₂
              (by omega) ?_
            unfold LATEST_SCHEMA_VERSION
            omega
          | inr hhead =>
            rw [resumes_additive hget hk hcontents hat₁ hkeeps hcut hhead]
            exact (repeatable_additive (additive_steps st hst hcontents) hhead).symm
      · refine iff_of_true ?_ fun st' hget' hdue' => ?_
        · have hcut : interrupted clock d (.step k n) = .ok d₁ := by
            simp only [interrupted, hbase, hget, hrun, hschema, bind, Except.bind]
            rw [if_neg (by omega)]
          refine resumes_of_atVersion hcut hkeeps hat₁ (by omega) ?_
          unfold LATEST_SCHEMA_VERSION at hlatest ⊢
          omega
        · rw [hget] at hget'
          cases hget'
          exact absurd hdue' hdue

/-- A new file. -/
theorem atVersion_empty : AtVersion 0 (fun _ => none) where
  base := fun hv => absurd hv (by decide)
  tables := by
    intro st hst hle
    obtain ⟨k, hk⟩ := List.mem_iff_getElem?.mp hst
    have hkv := version_eq hk
    omega
  clear := by
    intro st _ _ op _
    cases op with
    | addMissingColumn => trivial
    | execute statement =>
      cases statement with
      | createTable => rfl
      | addColumn => exact fun t ht => by cases ht
      | renameTable => rfl
      | _ => trivial
  layout := fun _ t ht => by cases ht
  version := rfl

theorem resumes_iff_empty : (0 : ℤ) ≤ 0 ∧
    (Resumes id id (fun _ => none) (.step 11 0) ↔ (Cut.step 11 0).Repeatable 0) :=
  ⟨le_refl 0, resumes_iff id id atVersion_empty (le_refl 0) (by decide) (.step 11 0)⟩

/-- A new file whose first opening is stopped between the new column of the creature records and
the record of version 13 no longer opens. -/
theorem cut_behind_column : ¬ ∀ (clock clock' : ℤ → ℤ) (v : ℤ) (d : SqlStore), AtVersion v d →
    0 ≤ v → v ≤ LATEST_SCHEMA_VERSION → ∀ cut, Resumes clock clock' d cut := by
  intro h
  obtain ⟨d₁, d₂, hcut, hrun, -⟩ :=
    h id id 0 _ atVersion_empty (le_refl 0) (by decide) (.step 11 1)
  have hfails : (interrupted id (fun _ => none) (.step 11 1) >>= migrate id).isOk = false := by
    decide +kernel
  rw [hcut] at hfails
  have hfails : (migrate id d₁).isOk = false := hfails
  rw [hrun] at hfails
  cases hfails

end ForgottenEngine
