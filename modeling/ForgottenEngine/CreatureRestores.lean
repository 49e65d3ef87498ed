import ForgottenEngine.RestartSnapshots

/-!
# All or nothing when creatures are restored

A restore checks every record against the world and the records against each other before it
writes the first creature.  A record of a creature that is not installed, or at the unplaced
origin, is no fault: the restore passes over it.

* `atomic_restoreStaticCreatureRuntime` — a refused restore leaves the world as it was;
* `restore_isOk_iff` — **which lists of records are accepted**;
* `restore_allOrNothing` — a list with a fault changes nothing, any other one gives every creature
  it counts exactly what the record says and touches no other creature.
-/

namespace ForgottenEngine

open Fallible PartialFold

namespace Living

variable {w : LivingWorld}

/-- The records that count: of an installed creature, somewhere on the map. -/
def countedRecords (w : LivingWorld) (records : List StaticCreatureRuntimeSnapshot) :
    List StaticCreatureRuntimeSnapshot :=
  records.filter fun record =>
    record.position ≠ unplacedOrigin && (w.staticCreatures[record.id]?).isSome

/-- The waits of a record fit the intervals of its creature. -/
structure Timed (record : StaticCreatureRuntimeSnapshot) (r : StaticCreatureRuntime) : Prop where
  living : record.active = true → record.reactivationRemainingSeconds = none
  respawn : ∀ n, record.reactivationRemainingSeconds = some n →
    0 < r.respawnIntervalSeconds ∧ n ≤ r.respawnIntervalSeconds
  melee : ∀ n, record.directMeleeCooldownRemainingTicks = some n → record.active = true ∧
    ∃ ticks, r.meleeCooldownTicks = some ticks ∧ n ≤ ticks

/-- A list of records without a fault. -/
structure Acceptable (w : LivingWorld) (records : List StaticCreatureRuntimeSnapshot) : Prop where
  nodup : (records.map (·.id)).Nodup
  health : ∀ record ∈ records, record.position ≠ unplacedOrigin → record.healthPercent ≤ 100
  timed : ∀ record ∈ records, record.position ≠ unplacedOrigin → ∀ r,
    w.staticCreatures[record.id]? = some r → Timed record r
  players : ∀ record ∈ countedRecords w records, record.active = true → ∀ (p : ℕ) player,
    w.players[p]? = some player → player.position ≠ record.position
  creatures : ∀ record ∈ countedRecords w records, record.active = true → ∀ (id : ℕ) r,
    w.staticCreatures[id]? = some r → r.active = true → r.entity.position = record.position →
      id ∈ (countedRecords w records).map (·.id)
  apart : (countedRecords w records).Pairwise fun a b => a.active = true → b.active = true →
    a.position ≠ b.position

/-- The creature is as the record says; waits are counted from `tick`, up to the last tick there
is. -/
structure Recorded (tick : ℕ) (record : StaticCreatureRuntimeSnapshot)
    (r : StaticCreatureRuntime) : Prop where
  position : r.entity.position = record.position
  active : r.active = record.active
  health : r.healthPercent = record.healthPercent
  respawn : r.reactivationDueTick =
    record.reactivationRemainingSeconds.map fun n => min (tick + n) u64Max
  melee : r.nextMeleeDueTick =
    (record.directMeleeCooldownRemainingTicks.map fun n => min (tick + n) u64Max).getD tick
  sequence : r.directMeleeDamageSequence = record.directMeleeDamageSequence
  target : r.targetPlayerId = none

/-- What an accepted restore has made of the world. -/
structure RestoredWorld (w : LivingWorld) (records : List StaticCreatureRuntimeSnapshot)
    (w' : LivingWorld) : Prop where
  listed : ∀ record ∈ countedRecords w records, ∃ r, w'.staticCreatures[record.id]? = some r ∧
    Recorded w.tick record r
  unlisted : ∀ id : ℕ, id ∉ (countedRecords w records).map (·.id) →
    w'.staticCreatures[id]? = w.staticCreatures[id]?
  players : w'.players = w.players
  playerVitals : w'.playerVitals = w.playerVitals
  playerConditions : w'.playerConditions = w.playerConditions

theorem mem_countedRecords {records : List StaticCreatureRuntimeSnapshot}
    {record : StaticCreatureRuntimeSnapshot} : record ∈ countedRecords w records ↔
      record ∈ records ∧ record.position ≠ unplacedOrigin ∧
        ∃ r, w.staticCreatures[record.id]? = some r := by
  rw [countedRecords, List.mem_filter, Bool.and_eq_true, decide_eq_true_eq,
    Option.isSome_iff_exists]

theorem countedRecords_concat (records : List StaticCreatureRuntimeSnapshot)
    (record : StaticCreatureRuntimeSnapshot) : countedRecords w (records ++ [record]) =
      countedRecords w records ++
        if record.position ≠ unplacedOrigin ∧ (w.staticCreatures[record.id]?).isSome = true then
          [record] else [] := by
  unfold countedRecords
  rw [List.filter_append, List.filter_cons, List.filter_nil]
  simp only [Bool.and_eq_true, decide_eq_true_eq]

theorem timed_iff {record : StaticCreatureRuntimeSnapshot} {r : StaticCreatureRuntime} :
    timingRefusal record r = none ↔ Timed record r := by
  rw [timingRefusal_eq_none_iff]
  constructor
  · rintro ⟨hliving, hrespawn, hmelee⟩
    exact ⟨hliving, hrespawn, hmelee⟩
  · intro h
    exact ⟨h.living, h.respawn, h.melee⟩

/-! ### The first loop: each record for itself -/

/-- What the planning loop has found after the records it has read. -/
structure PlannedRecords (w : LivingWorld) (records : List StaticCreatureRuntimeSnapshot)
    (plan : RestorePlan) : Prop where
  nodup : (records.map (·.id)).Nodup
  health : ∀ record ∈ records, record.position ≠ unplacedOrigin → record.healthPercent ≤ 100
  timed : ∀ record ∈ records, record.position ≠ unplacedOrigin → ∀ r,
    w.staticCreatures[record.id]? = some r → Timed record r
  seen : ∀ id, id ∈ plan.seen ↔ id ∈ records.map (·.id)
  known : plan.known = countedRecords w records

/-- The next record is planned if and only if it is new, in health and in time. -/
theorem PlannedRecords.next {pre : List StaticCreatureRuntimeSnapshot} {plan : RestorePlan}
    (h : PlannedRecords w pre plan) (record : StaticCreatureRuntimeSnapshot) :
    (record.id ∉ pre.map (·.id) ∧ (record.position ≠ unplacedOrigin → record.healthPercent ≤ 100 ∧
        ∀ r, w.staticCreatures[record.id]? = some r → Timed record r) →
      ∃ plan', planRecord w plan record = .ok plan') ∧
    ∀ plan', planRecord w plan record = .ok plan' → PlannedRecords w (pre ++ [record]) plan' := by
  have hadd (hnew : record.id ∉ plan.seen) : ((pre ++ [record]).map (·.id)).Nodup := by
    rw [h.seen] at hnew
    rw [List.map_append, List.map_singleton]
    exact h.nodup.append (List.nodup_singleton _) (by simpa using hnew)
  have hseen (id : ℕ) : id ∈ insert record.id plan.seen ↔ id ∈ (pre ++ [record]).map (·.id) := by
    rw [Finset.mem_insert, h.seen, List.map_append, List.map_singleton, List.mem_append,
      List.mem_singleton, or_comm]
  have hlast {P : StaticCreatureRuntimeSnapshot → Prop} (hpre : ∀ other ∈ pre, P other)
      (hrecord : P record) : ∀ other ∈ pre ++ [record], P other := by
    intro other hother
    rcases List.mem_append.mp hother with hother | hother
    · exact hpre other hother
    · exact List.mem_singleton.mp hother ▸ hrecord
  unfold planRecord
  by_cases hnew : record.id ∈ plan.seen
  · rw [if_pos hnew]
    exact ⟨fun hok => absurd ((h.seen _).mp hnew) hok.1, fun _ hrun => by cases hrun⟩
  rw [if_neg hnew]
  by_cases horigin : record.position = unplacedOrigin
  · rw [if_pos horigin]
    refine ⟨fun _ => ⟨_, rfl⟩, fun plan' hrun => ?_⟩
    cases hrun
    refine ⟨hadd hnew, hlast h.health fun hne => absurd horigin hne,
      hlast h.timed fun hne => absurd horigin hne, hseen, ?_⟩
    rw [countedRecords_concat, if_neg fun hcounts => hcounts.1 horigin, List.append_nil]
    exact h.known
  rw [if_neg horigin]
  by_cases hhealth : 100 < record.healthPercent
  · rw [if_pos hhealth]
    exact ⟨fun hok => absurd (hok.2 horigin).1 (Nat.not_le.mpr hhealth), fun _ hrun => by cases hrun⟩
  rw [if_neg hhealth]
  cases hr : w.staticCreatures[record.id]? with
  | none =>
    refine ⟨fun _ => ⟨_, rfl⟩, fun plan' hrun => ?_⟩
    cases hrun
    refine ⟨hadd hnew, hlast h.health fun _ => Nat.le_of_not_lt hhealth,
      hlast h.timed fun _ r hr' => ?_, hseen, ?_⟩
    · rw [hr] at hr'
      cases hr'
    · rw [countedRecords_concat, if_neg fun hcounts => by simp [hr] at hcounts, List.append_nil]
      exact h.known
  | some r =>
    dsimp only
    cases htiming : timingRefusal record r with
    | some refusal =>
      refine ⟨fun hok => ?_, fun _ hrun => by cases hrun⟩
      rw [timed_iff.mpr ((hok.2 horigin).2 r rfl)] at htiming
      cases htiming
    | none =>
      refine ⟨fun _ => ⟨_, rfl⟩, fun plan' hrun => ?_⟩
      cases hrun
      refine ⟨hadd hnew, hlast h.health fun _ => Nat.le_of_not_lt hhealth,
        hlast h.timed fun _ r' hr' => ?_, hseen, ?_⟩
      · obtain rfl := Option.some.inj (hr.symm.trans hr')
        exact timed_iff.mp htiming
      · rw [countedRecords_concat, if_pos ⟨horigin, by simp [hr]⟩, h.known]

theorem planned_nil : PlannedRecords w [] {} :=
  ⟨List.nodup_nil, by simp, by simp, by simp, rfl⟩

theorem planned_of_ok {records : List StaticCreatureRuntimeSnapshot} {plan : RestorePlan}
    (h : records.foldlM (planRecord w) {} = .ok plan) : PlannedRecords w records plan :=
  foldlM_ok_prefix (fun _ _ record plan' hpre hstep => (hpre.next record).2 plan' hstep) planned_nil h

/-- A list without a fault is planned to its end. -/
theorem Acceptable.planned {records : List StaticCreatureRuntimeSnapshot}
    (h : Acceptable w records) :
    ∃ plan, records.foldlM (planRecord w) {} = .ok plan ∧ PlannedRecords w records plan := by
  refine foldlM_total_prefix (fun pre record plan hpre hplan => ?_) planned_nil
  have hmem : record ∈ records := hpre.subset (by simp)
  have hnew : record.id ∉ pre.map (·.id) := by
    have hsub := (hpre.map (·.id)).sublist.nodup h.nodup
    rw [List.map_append, List.nodup_append] at hsub
    intro hin
    exact hsub.2.2 record.id hin record.id (by simp) rfl
  obtain ⟨plan', hrun⟩ := (hplan.next record).1
    ⟨hnew, fun hplaced => ⟨h.health record hmem hplaced, h.timed record hmem hplaced⟩⟩
  exact ⟨plan', hrun, (hplan.next record).2 plan' hrun⟩

/-! ### The second loop: the tiles -/

theorem mem_untouchedPositions_iff {known : List StaticCreatureRuntimeSnapshot}
    {position : Position} : position ∈ untouchedPositions w known ↔
      ∃ (id : ℕ) (r : StaticCreatureRuntime), w.staticCreatures[id]? = some r ∧ r.active = true ∧
        id ∉ known.map (·.id) ∧ r.entity.position = position := by
  simp only [untouchedPositions, List.mem_toFinset, List.mem_map, List.mem_filter, Prod.exists,
    Std.ExtTreeMap.mem_toList_iff_getElem?_eq_some, Bool.and_eq_true, decide_eq_true_eq, and_assoc]

theorem isPlayerOccupied_eq_false {position : Position} :
    w.isPlayerOccupied position = false ↔ ∀ (p : ℕ) player, w.players[p]? = some player →
      player.position ≠ position := by
  rw [← Bool.not_eq_true, isPlayerOccupied_iff]
  constructor
  · intro h p player hplayer heq
    exact h ⟨p, player, hplayer, heq⟩
  · intro h hoccupied
    obtain ⟨p, player, hplayer, heq⟩ := hoccupied
    exact h p player hplayer heq

/-- **The checks pass exactly on a list without a fault.** -/
theorem acceptable_iff {records : List StaticCreatureRuntimeSnapshot} : Acceptable w records ↔
    ∃ plan occupied, records.foldlM (planRecord w) {} = .ok plan ∧
      plan.known.foldlM (claimTile w) (untouchedPositions w plan.known) = .ok occupied := by
  constructor
  · intro h
    obtain ⟨plan, hrun, hplan⟩ := h.planned
    obtain ⟨occupied, hclaimed⟩ : ∃ occupied, plan.known.foldlM (claimTile w)
        (untouchedPositions w plan.known) = .ok occupied := by
      rw [hplan.known]
      refine claimed_of_free (fun record hrecord hactive => ?_) (fun record hrecord hactive => ?_)
        h.apart
      · exact isPlayerOccupied_eq_false.mpr (h.players record hrecord hactive)
      · intro hmem
        obtain ⟨id, r, hr, hr', hid, hposition⟩ := mem_untouchedPositions_iff.mp hmem
        exact hid (h.creatures record hrecord hactive id r hr hr' hposition)
    exact ⟨plan, occupied, hrun, hclaimed⟩
  · intro h
    obtain ⟨plan, occupied, hrun, hclaimed⟩ := h
    have hplan := planned_of_ok hrun
    have hclaimed := claimed_of_ok hclaimed
    rw [hplan.known] at hclaimed
    refine ⟨hplan.nodup, hplan.health, hplan.timed, fun record hrecord hactive => ?_,
      fun record hrecord hactive id r hr hr' hposition => ?_, hclaimed.distinct⟩
    · exact isPlayerOccupied_eq_false.mp (hclaimed.free record hrecord hactive).1
    · by_contra hid
      exact (hclaimed.free record hrecord hactive).2
        (mem_untouchedPositions_iff.mpr ⟨id, r, hr, hr', hid, hposition⟩)

/-! ### The writing loop -/

/-- A refused restore leaves the world as it was: it writes only behind its last check. -/
theorem atomic_restoreStaticCreatureRuntime (records : List StaticCreatureRuntimeSnapshot) :
    Atomic (restoreStaticCreatureRuntime records) := by
  unfold restoreStaticCreatureRuntime
  refine .bind (.read _) fun planned => .bind (.ofExcept _) fun plan => .bind (.read _) fun claimed =>
    .bind (.ofExcept _) fun _ => .bind (.read _) fun restored => Succeeds.atomic ?_
  refine .bind (.write _) fun _ => ?_
  split
  · exact .bind (.write _) fun _ => .bind (.write _) fun _ => .bind (.write _) fun _ => .pure _
  · exact .pure _

theorem restore_isOk_iff {records : List StaticCreatureRuntimeSnapshot} :
    (∃ summary w', restoreStaticCreatureRuntime records w = (.ok summary, w')) ↔
      Acceptable w records := by
  rw [acceptable_iff]
  constructor
  · intro h
    obtain ⟨summary, w', hrun⟩ := h
    obtain ⟨plan, occupied, hplan, hclaimed, -⟩ := restore_eq_ok hrun
    exact ⟨plan, occupied, hplan, hclaimed⟩
  · intro h
    obtain ⟨plan, occupied, hplan, hclaimed⟩ := h
    exact restore_run hplan hclaimed

/-- What is written for a record that fits its creature. -/
theorem recorded_restoredRuntime {tick : ℕ} {record : StaticCreatureRuntimeSnapshot}
    {r : StaticCreatureRuntime} (h : Timed record r) :
    Recorded tick record (restoredRuntime tick record r) where
  position := rfl
  active := rfl
  health := rfl
  respawn := by
    cases hactive : record.active with
    | true => simp [restoredRuntime, hactive, h.living hactive]
    | false => simp only [restoredRuntime, hactive]; rfl
  melee := rfl
  sequence := rfl
  target := rfl

/-- The players are not touched. -/
theorem keeps_restoreStaticCreatureRuntime {α : Type} {f : LivingWorld → α}
    (hcreatures : ∀ w creatures, f (w.putCreatures creatures) = f w)
    (hoccupancy : ∀ w, f w.refreshStaticCreatureOccupancy = f w)
    (hinteractions : ∀ w intents, f (w.putInteractions intents) = f w)
    (hchanged : ∀ w, f w.changed = f w) (records : List StaticCreatureRuntimeSnapshot) :
    Keeps f (restoreStaticCreatureRuntime records) := by
  unfold restoreStaticCreatureRuntime
  refine .bind (ReadOnly.read _).keeps fun planned => .bind (ReadOnly.ofExcept _).keeps fun plan =>
    .bind (ReadOnly.read _).keeps fun claimed => .bind (ReadOnly.ofExcept _).keeps fun _ =>
      .bind (ReadOnly.read _).keeps fun restored => .bind (.write fun w => hcreatures w _) fun _ => ?_
  split
  · exact .bind (.write hoccupancy) fun _ => .bind (.write fun w => hinteractions w _) fun _ =>
      .bind (.write hchanged) fun _ => .pure _
  · exact .pure _

theorem restoredWorld {records : List StaticCreatureRuntimeSnapshot} {summary : ℕ × ℕ}
    {w' : LivingWorld} (h : restoreStaticCreatureRuntime records w = (.ok summary, w')) :
    RestoredWorld w records w' := by
  obtain ⟨plan, -, hrun, -, hcreatures, -⟩ := restore_eq_ok h
  have hplan := planned_of_ok hrun
  have hall := restoredAll w.tick w.staticCreatures (nodup_of_planned hrun)
  rw [← hcreatures, hplan.known] at hall
  have hkeeps {α : Type} {f : LivingWorld → α}
      (hkeep : Keeps f (restoreStaticCreatureRuntime records)) : f w' = f w := by
    have := hkeep w
    rwa [h] at this
  refine ⟨fun record hrecord => ?_, hall.untouched, hkeeps (f := fun w => w.players) ?_,
    hkeeps (f := (·.playerVitals)) ?_, hkeeps (f := (·.playerConditions)) ?_⟩
  · obtain ⟨hmem, hplaced, r, hr⟩ := mem_countedRecords.mp hrecord
    refine ⟨restoredRuntime w.tick record r, ?_, ?_⟩
    · rw [hall.written record hrecord, hr]
      rfl
    · exact recorded_restoredRuntime (hplan.timed record hmem hplaced r hr)
  -- each of the three is a part of the world that no write of the restore reaches
  all_goals
    exact keeps_restoreStaticCreatureRuntime (fun _ _ => rfl) (fun _ => rfl) (fun _ _ => rfl)
      (fun _ => rfl) records

/-- **All or nothing.**  A list with a fault is refused and leaves the world as it was; any other
one is accepted, and every creature it counts is as its record says. -/
theorem restore_allOrNothing (w : LivingWorld) (records : List StaticCreatureRuntimeSnapshot) :
    (¬Acceptable w records → ∃ e, restoreStaticCreatureRuntime records w = (.error e, w)) ∧
    (Acceptable w records → ∃ summary w',
      restoreStaticCreatureRuntime records w = (.ok summary, w') ∧ RestoredWorld w records w') := by
  constructor
  · intro hfault
    rcases hrun : restoreStaticCreatureRuntime records w with ⟨result, w'⟩
    cases result with
    | ok summary => exact absurd (restore_isOk_iff.mp ⟨summary, w', hrun⟩) hfault
    | error e => exact ⟨e, by rw [atomic_restoreStaticCreatureRuntime records w e w' hrun]⟩
  · intro hok
    obtain ⟨summary, w', hrun⟩ := restore_isOk_iff.mpr hok
    exact ⟨summary, w', hrun, restoredWorld hrun⟩

/-- The rat of the collection, one step to the east and hurt, and a rat nobody installed. -/
def movedAndMissing : List StaticCreatureRuntimeSnapshot :=
  [⟨1, ⟨101, 100, 7⟩, true, 50, none, some 1, 3⟩, ⟨2, ⟨102, 100, 7⟩, true, 100, none, none, 0⟩]

/-- **A record of an unknown creature is passed over, not refused**: the other records of its list
are restored. -/
theorem unknownRecord_passedOver :
    ¬∀ (w : LivingWorld) (records : List StaticCreatureRuntimeSnapshot),
      (∃ e, restoreStaticCreatureRuntime records w = (.error e, w)) ∨
      ∃ summary w', restoreStaticCreatureRuntime records w = (.ok summary, w') ∧
        ∀ record ∈ records, ∃ r, w'.staticCreatures[record.id]? = some r ∧
          Recorded w.tick record r := by
  intro h
  have haccepted : (restoreStaticCreatureRuntime movedAndMissing
      (freshly strikingRat).toLivingWorld).1.isOk = true := by decide +kernel
  have hmissing : (restoreStaticCreatureRuntime movedAndMissing
      (freshly strikingRat).toLivingWorld).2.staticCreatures[2]? = none := by decide +kernel
  rcases h (freshly strikingRat).toLivingWorld movedAndMissing with
    ⟨e, hrefused⟩ | ⟨summary, w', hrun, hlisted⟩
  · rw [hrefused] at haccepted
    cases haccepted
  · obtain ⟨r, hr, -⟩ := hlisted ⟨2, ⟨102, 100, 7⟩, true, 100, none, none, 0⟩ (by decide)
    rw [hrun] at hmissing
    rw [hmissing] at hr
    cases hr

end Living

end ForgottenEngine
