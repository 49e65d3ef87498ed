import ForgottenEngine.CreatureRuns

/-!
# Restart snapshots of the creatures

A snapshot holds one record for each creature, but for templates at the unplaced origin.  Restored
into a world with the same creatures freshly installed it is meant to give the same snapshot back.

* `restore_eq_ok` — what an accepted restore is: every record that counts fits its creature, and
  the active ones claim different tiles;
* `roundTrips_iff` — **when a snapshot comes back** from a world with the same creatures;
* `snapshotRoundTrips_iff` — the same for every run of the installed creatures.
-/

namespace ForgottenEngine

open Fallible PartialFold

namespace Living

/-- The record of one creature. -/
def snapshotRecord (tick id : ℕ) (r : StaticCreatureRuntime) : StaticCreatureRuntimeSnapshot where
  id := id
  position := r.entity.position
  active := r.active
  healthPercent := r.healthPercent
  reactivationRemainingSeconds := r.reactivationDueTick.map fun due => min (due - tick) u32Max
  directMeleeCooldownRemainingTicks :=
    r.meleeCooldownTicks.map fun _ => min (r.nextMeleeDueTick - tick) u32Max
  directMeleeDamageSequence := r.directMeleeDamageSequence

/-- The restart snapshot of all creatures but the dormant templates. -/
def staticCreatureRuntimeSnapshot (w : LivingWorld) : List StaticCreatureRuntimeSnapshot :=
  (w.staticCreatures.toList.filter fun e =>
    e.2.active || e.2.entity.position ≠ unplacedOrigin).map fun e => snapshotRecord w.tick e.1 e.2

/-- The snapshot of `w`, restored into `u`, comes back. -/
def RoundTrips (w u : LivingWorld) : Prop :=
  ∃ summary u', restoreStaticCreatureRuntime (staticCreatureRuntimeSnapshot w) u =
      (.ok summary, u') ∧
    staticCreatureRuntimeSnapshot u' = staticCreatureRuntimeSnapshot w

/-! ### Snapshots, creature by creature -/

/-- The record of a creature, if there is one. -/
def recordOf (w : LivingWorld) (id : ℕ) : Option StaticCreatureRuntimeSnapshot :=
  w.staticCreatures[id]?.bind fun r =>
    if r.active || r.entity.position ≠ unplacedOrigin then some (snapshotRecord w.tick id r) else none

variable {w u : LivingWorld}

theorem mem_snapshot_iff {record : StaticCreatureRuntimeSnapshot} :
    record ∈ staticCreatureRuntimeSnapshot w ↔ recordOf w record.id = some record := by
  simp only [staticCreatureRuntimeSnapshot, List.mem_map, List.mem_filter, Prod.exists,
    Std.ExtTreeMap.mem_toList_iff_getElem?_eq_some, recordOf, Option.bind_eq_some_iff,
    Option.ite_none_right_eq_some, Option.some.injEq]
  constructor
  · rintro ⟨id, r, ⟨hr, hin⟩, rfl⟩
    exact ⟨r, hr, hin, rfl⟩
  · rintro ⟨r, hr, hin, heq⟩
    exact ⟨record.id, r, ⟨hr, hin⟩, heq⟩

theorem recordOf_of_placed {id : ℕ} {r : StaticCreatureRuntime} (hr : w.staticCreatures[id]? = some r)
    (hplaced : r.entity.position ≠ unplacedOrigin) :
    recordOf w id = some (snapshotRecord w.tick id r) := by
  simp [recordOf, hr, hplaced]

/-- A record is the record of its creature. -/
theorem eq_snapshotRecord_of_mem {record : StaticCreatureRuntimeSnapshot}
    (h : record ∈ staticCreatureRuntimeSnapshot w) :
    ∃ r, w.staticCreatures[record.id]? = some r ∧ record = snapshotRecord w.tick record.id r := by
  rw [mem_snapshot_iff] at h
  simp only [recordOf, Option.bind_eq_some_iff, Option.ite_none_right_eq_some,
    Option.some.injEq] at h
  obtain ⟨r, hr, -, heq⟩ := h
  exact ⟨r, hr, heq.symm⟩

theorem nodup_snapshot : ((staticCreatureRuntimeSnapshot w).map (·.id)).Nodup := by
  have hkeys : (w.staticCreatures.toList.map Prod.fst).Nodup := by
    rw [List.Nodup, List.pairwise_map]
    refine (Std.ExtTreeMap.distinct_keys_toList (t := w.staticCreatures)).imp fun hne heq => ?_
    exact hne (compare_eq_iff_eq.mpr heq)
  have hids : (staticCreatureRuntimeSnapshot w).map (·.id) =
      ((w.staticCreatures.toList.filter fun e =>
        e.2.active || e.2.entity.position ≠ unplacedOrigin).map Prod.fst) := by
    rw [staticCreatureRuntimeSnapshot, List.map_map]
    rfl
  rw [hids]
  exact (List.filter_sublist.map Prod.fst).nodup hkeys

/-- Snapshots agree when they agree on every creature. -/
theorem snapshot_eq_iff :
    staticCreatureRuntimeSnapshot u = staticCreatureRuntimeSnapshot w ↔
      ∀ id, recordOf u id = recordOf w id := by
  have hmap (w : LivingWorld) : staticCreatureRuntimeSnapshot w =
      ((w.staticCreatures.filterMap fun id r =>
        if r.active || r.entity.position ≠ unplacedOrigin then some (snapshotRecord w.tick id r)
        else none).toList).map Prod.snd := by
    rw [Std.ExtTreeMap.toList_filterMap, staticCreatureRuntimeSnapshot, List.map_filterMap]
    rw [← List.filterMap_eq_filter, List.map_filterMap]
    refine List.filterMap_congr fun e _ => ?_
    by_cases hactive : e.2.active = true
    · simp [Option.guard, hactive]
    · by_cases hposition : e.2.entity.position = unplacedOrigin
      · simp [Option.guard, hactive, hposition]
      · simp [Option.guard, hactive, hposition]
  constructor
  · intro heq id
    refine Option.ext fun record => ?_
    have hid {v : LivingWorld} (h : recordOf v id = some record) : record.id = id := by
      simp only [recordOf, Option.bind_eq_some_iff, Option.ite_none_right_eq_some,
        Option.some.injEq] at h
      obtain ⟨r, -, -, rfl⟩ := h
      rfl
    constructor
    · intro h
      have hmem := mem_snapshot_iff.mpr ((hid h).symm ▸ h)
      rw [heq, mem_snapshot_iff, hid h] at hmem
      exact hmem
    · intro h
      have hmem := mem_snapshot_iff.mpr ((hid h).symm ▸ h)
      rw [← heq, mem_snapshot_iff, hid h] at hmem
      exact hmem
  · intro hall
    rw [hmap u, hmap w]
    congr 2
    refine Std.ExtTreeMap.ext_getElem? fun id => ?_
    rw [Std.ExtTreeMap.getElem?_filterMap', Std.ExtTreeMap.getElem?_filterMap']
    exact hall id

/-! ### What a restore is -/

theorem timingRefusal_eq_none_iff {record : StaticCreatureRuntimeSnapshot}
    {b : StaticCreatureRuntime} : timingRefusal record b = none ↔
      (record.active = true → record.reactivationRemainingSeconds = none) ∧
      (∀ n, record.reactivationRemainingSeconds = some n →
        0 < b.respawnIntervalSeconds ∧ n ≤ b.respawnIntervalSeconds) ∧
      ∀ n, record.directMeleeCooldownRemainingTicks = some n → record.active = true ∧
        ∃ ticks, b.meleeCooldownTicks = some ticks ∧ n ≤ ticks := by
  unfold timingRefusal
  cases record.active <;> cases record.reactivationRemainingSeconds <;>
    cases record.directMeleeCooldownRemainingTicks <;> cases b.meleeCooldownTicks <;>
    simp [Nat.pos_iff_ne_zero]
  · split <;> simp
  · split <;> simp

/-- An accepted restore: the plan went through, the tiles were free, and the records were written. -/
theorem restore_eq_ok {records : List StaticCreatureRuntimeSnapshot} {summary : ℕ × ℕ}
    {u' : LivingWorld} (h : restoreStaticCreatureRuntime records u = (.ok summary, u')) :
    ∃ plan occupied, records.foldlM (planRecord u) {} = .ok plan ∧
      plan.known.foldlM (claimTile u) (untouchedPositions u plan.known) = .ok occupied ∧
      u'.staticCreatures = (plan.known.foldl (restoreRecord u.tick) (false, u.staticCreatures)).2 ∧
      u'.tick = u.tick := by
  simp only [restoreStaticCreatureRuntime, bind_eq_ok, read_apply, ofExcept_apply, write_apply,
    Prod.mk.injEq, Except.ok.injEq] at h
  obtain ⟨_, _, ⟨rfl, rfl⟩, plan, _, ⟨hplan, rfl⟩, _, _, ⟨rfl, rfl⟩, occupied, _, ⟨hclaimed, rfl⟩,
    _, _, ⟨rfl, rfl⟩, _, _, ⟨-, rfl⟩, h⟩ := h
  refine ⟨plan, occupied, hplan, hclaimed, ?_⟩
  split at h
  · simp only [bind_eq_ok, write_apply, markChanged, pure_apply, Prod.mk.injEq, Except.ok.injEq] at h
    obtain ⟨_, _, ⟨-, rfl⟩, _, _, ⟨-, rfl⟩, _, _, ⟨-, rfl⟩, -, rfl⟩ := h
    exact ⟨rfl, rfl⟩
  · simp only [pure_apply, Prod.mk.injEq, Except.ok.injEq] at h
    obtain ⟨-, rfl⟩ := h
    exact ⟨rfl, rfl⟩

theorem restore_run {records : List StaticCreatureRuntimeSnapshot} {plan : RestorePlan}
    {occupied : Finset Position} (hplan : records.foldlM (planRecord u) {} = .ok plan)
    (hclaimed : plan.known.foldlM (claimTile u) (untouchedPositions u plan.known) = .ok occupied) :
    ∃ summary u', restoreStaticCreatureRuntime records u = (.ok summary, u') := by
  simp only [restoreStaticCreatureRuntime, bind_apply, read_apply, ofExcept_apply, write_apply,
    hplan, hclaimed]
  split
  · exact ⟨_, _, rfl⟩
  · exact ⟨_, _, rfl⟩

/-- Records of different creatures, each of which fits, are all planned. -/
theorem planned_of_fits {records : List StaticCreatureRuntimeSnapshot}
    (hnodup : (records.map (·.id)).Nodup) (hfits : ∀ record ∈ records, ∃ b, Fits u record b) :
    ∃ plan, records.foldlM (planRecord u) {} = .ok plan ∧ plan.known = records := by
  have hloop : ∃ plan, records.foldlM (planRecord u) {} = .ok plan ∧ _ := foldlM_total_prefix
    (I := fun pre plan => plan.known = pre ∧ ∀ id, id ∈ plan.seen ↔ id ∈ pre.map (·.id))
    (fun pre record plan hpre hplan => ?_) ⟨rfl, by simp⟩
  · obtain ⟨plan, hrun, hknown, -⟩ := hloop
    exact ⟨plan, hrun, hknown⟩
  · obtain ⟨hknown, hseen⟩ := hplan
    obtain ⟨b, hb⟩ := hfits record (hpre.subset (by simp))
    have hnew : record.id ∉ plan.seen := by
      rw [hseen]
      have hsub := (hpre.map (·.id)).sublist.nodup hnodup
      rw [List.map_append, List.nodup_append] at hsub
      intro hmem
      exact hsub.2.2 record.id hmem record.id (by simp) rfl
    refine ⟨{ plan with seen := insert record.id plan.seen, known := plan.known ++ [record] }, ?_, ?_⟩
    · simp only [planRecord, if_neg hnew, if_neg hb.placed, if_neg (Nat.not_lt.mpr hb.health),
        hb.lookup, hb.timing]
    · refine ⟨by rw [hknown], fun id => ?_⟩
      simp [hseen, or_comm]

/-- A record of a known creature that stands somewhere is planned. -/
theorem mem_planned {records : List StaticCreatureRuntimeSnapshot} {plan : RestorePlan}
    (h : records.foldlM (planRecord u) {} = .ok plan) {record : StaticCreatureRuntimeSnapshot}
    (hmem : record ∈ records) (hplaced : record.position ≠ unplacedOrigin)
    {b : StaticCreatureRuntime} (hb : u.staticCreatures[record.id]? = some b) :
    record ∈ plan.known := by
  refine foldlM_ok_prefix (I := fun pre plan => record ∈ pre → record ∈ plan.known)
    (fun pre plan other plan' hpre hstep hin => ?_) (by simp) h hmem
  have hkeep (hold : record ∈ pre) : record ∈ plan.known := hpre hold
  simp only [planRecord] at hstep
  split at hstep
  · cases hstep
  · split at hstep
    · rename_i horigin
      cases hstep
      rcases List.mem_append.mp hin with hold | hnew
      · exact hkeep hold
      · rw [List.mem_singleton.mp hnew] at hplaced
        exact absurd horigin hplaced
    · split at hstep
      · cases hstep
      · split at hstep
        · rename_i hnone
          cases hstep
          rcases List.mem_append.mp hin with hold | hnew
          · exact hkeep hold
          · rw [List.mem_singleton.mp hnew, hnone] at hb
            cases hb
        · split at hstep
          · cases hstep
          · cases hstep
            rcases List.mem_append.mp hin with hold | hnew
            · exact List.mem_append_left _ (hkeep hold)
            · exact List.mem_append_right _ hnew

/-- Tiles that no player and no other creature claims go through. -/
theorem claimed_of_free {known : List StaticCreatureRuntimeSnapshot} {untouched : Finset Position}
    (hplayers : ∀ record ∈ known, record.active = true →
      u.isPlayerOccupied record.position = false)
    (huntouched : ∀ record ∈ known, record.active = true → record.position ∉ untouched)
    (hapart : known.Pairwise fun a b => a.active = true → b.active = true →
      a.position ≠ b.position) :
    ∃ occupied, known.foldlM (claimTile u) untouched = .ok occupied := by
  have hloop : ∃ occupied, known.foldlM (claimTile u) untouched = .ok occupied ∧ _ :=
    foldlM_total_prefix
      (I := fun pre occupied => ∀ position, position ∈ occupied ↔ position ∈ untouched ∨
        ∃ record ∈ pre, record.active = true ∧ record.position = position)
      (fun pre record occupied hpre hoccupied => ?_) (by simp)
  · obtain ⟨occupied, hrun, -⟩ := hloop
    exact ⟨occupied, hrun⟩
  · have hmem : record ∈ known := hpre.subset (by simp)
    cases hactive : record.active with
    | false =>
      refine ⟨occupied, by simp [claimTile, hactive], fun position => ?_⟩
      simp [hoccupied, hactive]
    | true =>
      have hfree : record.position ∉ occupied := by
        rw [hoccupied]
        intro hclaimed
        rcases hclaimed with hclaimed | ⟨other, hother, hotherActive, hposition⟩
        · exact huntouched record hmem hactive hclaimed
        · have hsub := hapart.sublist hpre.sublist
          exact (List.pairwise_append.mp hsub).2.2 other hother record (by simp) hotherActive hactive
            hposition
      refine ⟨insert record.position occupied, ?_, fun position => ?_⟩
      · simp [claimTile, hactive, hplayers record hmem hactive, hfree]
      · simp only [Finset.mem_insert, hoccupied, List.mem_append, List.mem_singleton, or_and_right,
          exists_or, exists_eq_left, hactive, true_and]
        rw [eq_comm, or_left_comm, or_comm (a := record.position = position)]

/-! ### When a snapshot comes back -/

/-- The timing of a creature fits its intervals. -/
structure Aged (tick : ℕ) (r : StaticCreatureRuntime) : Prop where
  living : r.active = true → r.reactivationDueTick = none
  due : ∀ due, r.reactivationDueTick = some due →
    0 < r.respawnIntervalSeconds ∧ due - tick ≤ r.respawnIntervalSeconds
  melee : ∀ cooldown, r.meleeCooldownTicks = some cooldown → r.nextMeleeDueTick - tick ≤ cooldown

/-- `u` has the creatures of `w`, with the same intervals, somewhere on the map. -/
structure Counterparts (w u : LivingWorld) : Prop where
  aged : ∀ (id : ℕ) r, w.staticCreatures[id]? = some r → Aged w.tick r
  partner : ∀ (id : ℕ) r, w.staticCreatures[id]? = some r → ∃ b, u.staticCreatures[id]? = some b ∧
    b.respawnIntervalSeconds = r.respawnIntervalSeconds ∧ b.meleeCooldownTicks = r.meleeCooldownTicks
  placed : ∀ (id : ℕ) b, u.staticCreatures[id]? = some b → b.entity.position ≠ unplacedOrigin
  known : ∀ (id : ℕ) b, u.staticCreatures[id]? = some b → ∃ r, w.staticCreatures[id]? = some r

/-- What a restart keeps, of the creatures of `w` in the world `u`. -/
structure Restorable (w u : LivingWorld) : Prop where
  placed : ∀ (id : ℕ) r, w.staticCreatures[id]? = some r → r.entity.position ≠ unplacedOrigin
  healthy : ∀ (id : ℕ) r, w.staticCreatures[id]? = some r → r.healthPercent ≤ 100
  cooled : ∀ (id : ℕ) r, w.staticCreatures[id]? = some r → r.active = false →
    r.meleeCooldownTicks = none
  alone : StandAlone w.staticCreatures
  unoccupied : ∀ (id : ℕ) r, w.staticCreatures[id]? = some r → r.active = true →
    u.isPlayerOccupied r.entity.position = false
  respawnInTime : ∀ (id : ℕ) r, w.staticCreatures[id]? = some r → ∀ due,
    r.reactivationDueTick = some due → min (due - w.tick) u32Max ≤ u64Max - u.tick
  meleeInTime : ∀ (id : ℕ) r, w.staticCreatures[id]? = some r → ∀ cooldown,
    r.meleeCooldownTicks = some cooldown → min (r.nextMeleeDueTick - w.tick) u32Max ≤ u64Max - u.tick

/-- A wait comes back unless the clock of the other world is too near its end. -/
theorem waitAgain_iff {tick n : ℕ} (hn : n ≤ u32Max) :
    min (saturatingAdd tick n - tick) u32Max = n ↔ n ≤ u64Max - tick := by
  unfold saturatingAdd
  omega

theorem snapshotRecord_restoredRuntime_iff {tick tick' id : ℕ} {r b : StaticCreatureRuntime}
    (hr : Aged tick r) (hmelee : b.meleeCooldownTicks = r.meleeCooldownTicks) :
    snapshotRecord tick' id (restoredRuntime tick' (snapshotRecord tick id r) b) =
        snapshotRecord tick id r ↔
      (∀ due, r.reactivationDueTick = some due → min (due - tick) u32Max ≤ u64Max - tick') ∧
      ∀ cooldown, r.meleeCooldownTicks = some cooldown →
        min (r.nextMeleeDueTick - tick) u32Max ≤ u64Max - tick' := by
  have hwait (due : ℕ) := @waitAgain_iff tick' (min (due - tick) u32Max) (Nat.min_le_right _ _)
  have hdue : (restoredRuntime tick' (snapshotRecord tick id r) b).reactivationDueTick =
      r.reactivationDueTick.map fun due => saturatingAdd tick' (min (due - tick) u32Max) := by
    cases hactive : r.active with
    | true => simp [restoredRuntime, snapshotRecord, hactive, hr.living hactive]
    | false => simp [restoredRuntime, snapshotRecord, hactive, dueAfter, Function.comp_def]
  have hnext : (restoredRuntime tick' (snapshotRecord tick id r) b).nextMeleeDueTick =
      (dueAfter tick' (r.meleeCooldownTicks.map fun _ =>
        min (r.nextMeleeDueTick - tick) u32Max)).getD tick' := rfl
  have hmelee' : (restoredRuntime tick' (snapshotRecord tick id r) b).meleeCooldownTicks =
      r.meleeCooldownTicks := hmelee
  rw [snapshotRecord, hdue, hnext, hmelee']
  simp only [snapshotRecord, restoredRuntime, StaticCreatureRuntimeSnapshot.mk.injEq, true_and,
    and_true]
  refine and_congr ?_ ?_
  · cases r.reactivationDueTick with
    | none => simp
    | some due => simpa using hwait due
  · cases r.meleeCooldownTicks with
    | none => simp
    | some cooldown => simpa [dueAfter] using hwait r.nextMeleeDueTick

variable (hc : Counterparts w u)
include hc

theorem RoundTrips.restorable (h : RoundTrips w u) : Restorable w u := by
  obtain ⟨summary, u', hrun, hsame⟩ := h
  obtain ⟨plan, occupied, hplan, hclaimed, hcreatures, htick⟩ := restore_eq_ok hrun
  have hall := restoredAll u.tick u.staticCreatures (nodup_of_planned hplan)
  rw [← hcreatures] at hall
  have hrecord := snapshot_eq_iff.mp hsame
  have hplaced : ∀ (id : ℕ) r, w.staticCreatures[id]? = some r →
      r.entity.position ≠ unplacedOrigin := by
    intro id r hr horigin
    obtain ⟨b, hb, -, -⟩ := hc.partner id r hr
    -- nothing is restored for it, so it comes back where it was installed
    have hout : id ∉ plan.known.map (·.id) := by
      intro hmem
      obtain ⟨record, hknown, rfl⟩ := List.mem_map.mp hmem
      obtain ⟨hin, b', hfits⟩ := fits_of_planned hplan record hknown
      obtain ⟨r', hr', heq⟩ := eq_snapshotRecord_of_mem hin
      obtain rfl := Option.some.inj (hr.symm.trans hr')
      exact hfits.placed (by rw [heq]; exact horigin)
    have hu' := recordOf_of_placed ((hall.untouched id hout).trans hb) (hc.placed id b hb)
    rw [hrecord id] at hu'
    simp only [recordOf, hr, Option.bind_some, Option.ite_none_right_eq_some,
      Option.some.injEq] at hu'
    exact hc.placed id b hb ((congrArg (·.position) hu'.2).symm.trans horigin)
  have hin : ∀ (id : ℕ) r, w.staticCreatures[id]? = some r →
      snapshotRecord w.tick id r ∈ plan.known := by
    intro id r hr
    obtain ⟨b, hb, -, -⟩ := hc.partner id r hr
    exact mem_planned hplan (mem_snapshot_iff.mpr (recordOf_of_placed hr (hplaced id r hr)))
      (hplaced id r hr) hb
  have hfits : ∀ (id : ℕ) r, w.staticCreatures[id]? = some r →
      ∃ b, Fits u (snapshotRecord w.tick id r) b ∧ b.meleeCooldownTicks = r.meleeCooldownTicks := by
    intro id r hr
    obtain ⟨-, b, hb⟩ := fits_of_planned hplan _ (hin id r hr)
    obtain ⟨b', hb', -, hmelee⟩ := hc.partner id r hr
    obtain rfl := Option.some.inj (hb'.symm.trans hb.lookup)
    exact ⟨_, hb, hmelee⟩
  have hwaits : ∀ (id : ℕ) r, w.staticCreatures[id]? = some r →
      (∀ due, r.reactivationDueTick = some due → min (due - w.tick) u32Max ≤ u64Max - u.tick) ∧
      ∀ cooldown, r.meleeCooldownTicks = some cooldown →
        min (r.nextMeleeDueTick - w.tick) u32Max ≤ u64Max - u.tick := by
    intro id r hr
    obtain ⟨b, hb, hmelee⟩ := hfits id r hr
    refine (@snapshotRecord_restoredRuntime_iff _ _ id _ _ (hc.aged id r hr) hmelee).mp ?_
    have hwritten := hall.written _ (hin id r hr)
    rw [hb.lookup] at hwritten
    have hback := recordOf_of_placed hwritten (hplaced id r hr)
    have hback' := (hrecord id).symm.trans hback
    rw [recordOf_of_placed hr (hplaced id r hr), htick] at hback'
    exact (Option.some.inj hback').symm
  have hclaimed := claimed_of_ok hclaimed
  refine ⟨hplaced, fun id r hr => ?_, fun id r hr hdead => ?_, fun i j a b ha hb hactive hactive' hpos => ?_,
    fun id r hr hactive => ?_, fun id r hr => (hwaits id r hr).1, fun id r hr => (hwaits id r hr).2⟩
  · obtain ⟨b, hb, -⟩ := hfits id r hr
    exact hb.health
  · obtain ⟨b, hb, -⟩ := hfits id r hr
    obtain ⟨-, -, hcooled⟩ := timingRefusal_eq_none_iff.mp hb.timing
    cases hmelee : r.meleeCooldownTicks with
    | none => rfl
    | some cooldown =>
      have hactive := (hcooled _ (congrArg (Option.map _) hmelee)).1
      rw [show (snapshotRecord w.tick id r).active = r.active from rfl, hdead] at hactive
      cases hactive
  · by_contra hne
    have hsymm : Std.Symm fun a b : StaticCreatureRuntimeSnapshot =>
        a.active = true → b.active = true → a.position ≠ b.position :=
      ⟨fun _ _ hab hb ha => (hab ha hb).symm⟩
    have hdifferent : snapshotRecord w.tick i a ≠ snapshotRecord w.tick j b :=
      fun heq => hne (congrArg (·.id) heq)
    exact hclaimed.distinct.forall (hin i a ha) (hin j b hb) hdifferent hactive hactive' hpos
  · exact (hclaimed.free _ (hin id r hr) hactive).1

theorem Restorable.roundTrips (h : Restorable w u) : RoundTrips w u := by
  have hfits : ∀ record ∈ staticCreatureRuntimeSnapshot w, ∃ b, Fits u record b := by
    intro record hin
    obtain ⟨r, hr, heq⟩ := eq_snapshotRecord_of_mem hin
    obtain ⟨b, hb, hinterval, hmelee⟩ := hc.partner record.id r hr
    have haged := hc.aged record.id r hr
    rw [heq]
    refine ⟨b, hb, h.placed _ r hr, h.healthy _ r hr, timingRefusal_eq_none_iff.mpr ⟨?_, ?_, ?_⟩⟩
    · intro hactive
      exact congrArg (Option.map _) (haged.living hactive)
    · intro n hn
      obtain ⟨due, hdue, rfl⟩ := Option.map_eq_some_iff.mp hn
      obtain ⟨hpos, hle⟩ := haged.due due hdue
      rw [hinterval]
      exact ⟨hpos, (Nat.min_le_left _ _).trans hle⟩
    · intro n hn
      obtain ⟨cooldown, hcooldown, rfl⟩ := Option.map_eq_some_iff.mp hn
      refine ⟨Bool.of_not_eq_false fun hdead => ?_, cooldown, hmelee.trans hcooldown, ?_⟩
      · rw [h.cooled _ r hr hdead] at hcooldown
        cases hcooldown
      · exact (Nat.min_le_left _ _).trans (haged.melee cooldown hcooldown)
  obtain ⟨plan, hplan, hknown⟩ := planned_of_fits nodup_snapshot hfits
  have hin : ∀ (id : ℕ) r, w.staticCreatures[id]? = some r →
      snapshotRecord w.tick id r ∈ plan.known := by
    intro id r hr
    rw [hknown, mem_snapshot_iff]
    exact recordOf_of_placed hr (h.placed id r hr)
  have huntouched : untouchedPositions u plan.known = ∅ := by
    rw [untouchedPositions, List.toFinset_eq_empty_iff, List.map_eq_nil_iff, List.filter_eq_nil_iff]
    intro e he hskipped
    have hb := Std.ExtTreeMap.mem_toList_iff_getElem?_eq_some.mp he
    obtain ⟨r, hr⟩ := hc.known e.1 e.2 hb
    have hmem := List.mem_map_of_mem (f := (·.id)) (hin e.1 r hr)
    simp only [Bool.and_eq_true, decide_eq_true_eq] at hskipped
    exact hskipped.2 hmem
  have hapart : plan.known.Pairwise fun a b => a.active = true → b.active = true →
      a.position ≠ b.position := by
    rw [hknown]
    refine (nodup_snapshot.of_map _).pairwise_of_forall_ne fun a ha b hb hne => ?_
    intro hactive hactive' hposition
    obtain ⟨r, hr, heq⟩ := eq_snapshotRecord_of_mem ha
    obtain ⟨r', hr', heq'⟩ := eq_snapshotRecord_of_mem hb
    rw [heq] at hactive hposition
    rw [heq'] at hactive' hposition
    have hid := h.alone _ _ r r' hr hr' hactive hactive' hposition
    exact hne (List.inj_on_of_nodup_map nodup_snapshot ha hb hid)
  have hplayers : ∀ record ∈ plan.known, record.active = true →
      u.isPlayerOccupied record.position = false := by
    intro record hrecord hactive
    rw [hknown] at hrecord
    obtain ⟨r, hr, heq⟩ := eq_snapshotRecord_of_mem hrecord
    rw [heq] at hactive ⊢
    exact h.unoccupied _ r hr hactive
  obtain ⟨occupied, hclaimed⟩ := claimed_of_free hplayers
    (fun record _ _ => huntouched ▸ Finset.notMem_empty record.position) hapart
  obtain ⟨summary, u', hrun⟩ := restore_run hplan hclaimed
  refine ⟨summary, u', hrun, snapshot_eq_iff.mpr fun id => ?_⟩
  obtain ⟨plan', _, hplan', -, hcreatures, htick⟩ := restore_eq_ok hrun
  obtain rfl := Except.ok.inj (hplan.symm.trans hplan')
  have hall := restoredAll u.tick u.staticCreatures (nodup_of_planned hplan)
  rw [← hcreatures] at hall
  cases hr : w.staticCreatures[id]? with
  | none =>
    have hnone : u.staticCreatures[id]? = none := by
      cases hb : u.staticCreatures[id]? with
      | none => rfl
      | some b =>
        obtain ⟨r, hsome⟩ := hc.known id b hb
        rw [hr] at hsome
        cases hsome
    have hout : id ∉ plan.known.map (·.id) := by
      intro hmem
      obtain ⟨record, hrecord, rfl⟩ := List.mem_map.mp hmem
      obtain ⟨-, b, hb⟩ := fits_of_planned hplan record hrecord
      have hlookup := hb.lookup
      rw [hnone] at hlookup
      cases hlookup
    rw [recordOf, recordOf, hall.untouched id hout, hnone, hr]
    rfl
  | some r =>
    obtain ⟨b, hb, -, hmelee⟩ := hc.partner id r hr
    have hwritten := hall.written _ (hin id r hr)
    rw [show (snapshotRecord w.tick id r).id = id from rfl, hb] at hwritten
    have hback := recordOf_of_placed hwritten (h.placed id r hr)
    rw [hback, recordOf_of_placed hr (h.placed id r hr), htick]
    refine congrArg some ((snapshotRecord_restoredRuntime_iff (hc.aged id r hr) hmelee).mpr ?_)
    exact ⟨h.respawnInTime id r hr, h.meleeInTime id r hr⟩

/-- **When a snapshot comes back.** -/
theorem roundTrips_iff : RoundTrips w u ↔ Restorable w u :=
  ⟨RoundTrips.restorable hc, Restorable.roundTrips hc⟩

end Living

/-! ### Runs of the installed creatures -/

/-- The event installs, summons and removes none of the creatures. -/
def GameEvent.OnInstalled (collection : FeTfsStaticSpawnCollection) : GameEvent → Prop
  | .creature (.install _) | .creature (.spawn _ _ _) => False
  | .creature (.despawn id) => ∀ entity ∈ collection.entities, entity.id ≠ id
  | _ => True

/-- The clock has not run over. -/
def Clocked (w : GameWorld) : Prop := w.tick ≤ u64Max

namespace Clocked

theorem about : AboutCreatures Clocked where
  same := by
    intro w w' _ _ htick hw
    unfold Clocked
    rwa [htick]
  tick := fun _ _ _ => Nat.min_le_right _ _

theorem robustEdits : RobustEdits Clocked where
  narrowed := fun _ _ _ hw => hw
  edited := fun _ _ _ _ _ _ hw => hw
  moved := fun _ _ _ _ _ _ _ _ hw => hw
  deactivated := fun _ _ _ _ hw => hw

theorem step (toLowercase : String → String) {w : GameWorld} (hw : Clocked w) (event : GameEvent) :
    Clocked (event.step toLowercase w) := by
  refine about.step toLowercase hw (fun p _ => hw) fun e _ => ?_
  by_cases hedits : e.EditsOnly
  · exact robustEdits.stays_edits about.robust toLowercase hedits w hw
  · refine leaves_registry toLowercase hedits about.robust.changed hw fun w' hwrites => ?_
    cases hwrites with
    | installed | spawned | despawned | restored | undisturbed | reset | reactivated => exact hw

end Clocked

open Living

/-- What happens to a creature keeps its intervals and does not spoil its timing. -/
structure Elapses (tick : ℕ) (r r' : StaticCreatureRuntime) : Prop where
  interval : r'.respawnIntervalSeconds = r.respawnIntervalSeconds
  cooldown : r'.meleeCooldownTicks = r.meleeCooldownTicks
  aged : Aged tick r → Aged tick r'

/-- Since its installation the registry holds the creatures of the collection, and their timing
fits. -/
structure Aging (collection : FeTfsStaticSpawnCollection) (w : GameWorld) : Prop where
  clock : Clocked w
  present : ∀ entity ∈ collection.entities, ∃ r, w.staticCreatures[entity.id]? = some r
  source : ∀ (id : ℕ) r, w.staticCreatures[id]? = some r → ∃ entity ∈ collection.entities,
    entity.id = id ∧
    r.respawnIntervalSeconds = (installedRuntime collection 0 entity).respawnIntervalSeconds ∧
    r.meleeCooldownTicks = (installedRuntime collection 0 entity).meleeCooldownTicks
  aged : ∀ (id : ℕ) r, w.staticCreatures[id]? = some r → Aged w.tick r

namespace Aging

variable {collection : FeTfsStaticSpawnCollection} {w w' : GameWorld}

theorem aged_of_le {tick tick' : ℕ} {r : StaticCreatureRuntime} (hr : Aged tick r)
    (hle : tick ≤ tick') : Aged tick' r where
  living := hr.living
  due := by
    intro due hdue
    have hold := hr.due due hdue
    omega
  melee := by
    intro cooldown hcooldown
    have hold := hr.melee cooldown hcooldown
    omega

/-- A registry whose entries come from entries before. -/
theorem rewritten (hw : Aging collection w) (htick : w'.tick = w.tick)
    (hpresent : ∀ entity ∈ collection.entities, ∀ r, w.staticCreatures[entity.id]? = some r →
      ∃ r', w'.staticCreatures[entity.id]? = some r')
    (hentry : ∀ (id : ℕ) r', w'.staticCreatures[id]? = some r' →
      ∃ r, w.staticCreatures[id]? = some r ∧ Elapses w.tick r r') : Aging collection w' where
  clock := by
    show w'.tick ≤ u64Max
    rw [htick]
    exact hw.clock
  present := by
    intro entity hentity
    obtain ⟨r, hr⟩ := hw.present entity hentity
    exact hpresent entity hentity r hr
  source := by
    intro id r' hr'
    obtain ⟨r, hr, helapses⟩ := hentry id r' hr'
    obtain ⟨entity, hentity, hid, hinterval, hcooldown⟩ := hw.source id r hr
    exact ⟨entity, hentity, hid, helapses.interval.trans hinterval,
      helapses.cooldown.trans hcooldown⟩
  aged := by
    intro id r' hr'
    obtain ⟨r, hr, helapses⟩ := hentry id r' hr'
    rw [htick]
    exact helapses.aged (hw.aged id r hr)

/-- One entry changes. -/
theorem insert (hw : Aging collection w) {id : ℕ} {r r' : StaticCreatureRuntime}
    (hr : w.staticCreatures[id]? = some r) (helapses : Elapses w.tick r r')
    (hcreatures : w'.staticCreatures = w.staticCreatures.insert id r')
    (htick : w'.tick = w.tick) : Aging collection w' := by
  refine hw.rewritten htick (fun entity _ b hb => ?_) fun j b hb => ?_
  · rw [hcreatures, Std.ExtTreeMap.getElem?_insert]
    split
    · exact ⟨r', rfl⟩
    · exact ⟨b, hb⟩
  · rw [hcreatures, Std.ExtTreeMap.getElem?_insert] at hb
    split at hb
    · rename_i heq
      obtain rfl := compare_eq_iff_eq.mp heq
      cases hb
      exact ⟨r, hr, helapses⟩
    · exact ⟨b, hb, rfl, rfl, fun h => h⟩

theorem about : AboutCreatures (Aging collection) where
  same := by
    intro w w' hcreatures _ htick hw
    refine hw.rewritten htick (fun entity _ r hr => ?_) fun id r hr => ?_
    · exact ⟨r, by rw [hcreatures]; exact hr⟩
    · exact ⟨r, by rwa [hcreatures] at hr, rfl, rfl, fun h => h⟩
  tick := by
    intro w seconds hw
    have hle : w.tick ≤ saturatingAdd w.tick seconds := le_min (Nat.le_add_right _ _) hw.clock
    exact ⟨Nat.min_le_right _ _, hw.present, hw.source, fun id r hr => aged_of_le (hw.aged id r hr) hle⟩

theorem elapses_edited {r r' : StaticCreatureRuntime} (h : Edited w r r') :
    Elapses w.tick r r' := by
  have hsame := h.same
  have hactive : r'.active = r.active := by rw [hsame]
  have hdue : r'.reactivationDueTick = r.reactivationDueTick := by rw [hsame]
  have hinterval : r'.respawnIntervalSeconds = r.respawnIntervalSeconds := by rw [hsame]
  have hcooldown : r'.meleeCooldownTicks = r.meleeCooldownTicks := by rw [hsame]
  refine ⟨hinterval, hcooldown, fun hr => ⟨?_, ?_, ?_⟩⟩
  · rw [hactive, hdue]
    exact hr.living
  · rw [hdue, hinterval]
    exact hr.due
  · intro cooldown hsome
    rw [hcooldown] at hsome
    rcases h.melee with hkept | ⟨-, cooldown', hsome', hnext⟩
    · rw [hkept]
      exact hr.melee cooldown hsome
    · obtain rfl := Option.some.inj (hsome.symm.trans hsome')
      rw [hnext, saturatingAdd]
      omega

theorem elapses_deactivated (tick : ℕ) (r : StaticCreatureRuntime) :
    Elapses tick r (deactivatedRuntime tick r) := by
  unfold deactivatedRuntime
  split
  · refine ⟨rfl, rfl, fun hr => ⟨nofun, fun due hdue => ?_, hr.melee⟩⟩
    simp only [Option.ite_none_right_eq_some, Option.some.injEq] at hdue
    obtain ⟨hpos, rfl⟩ := hdue
    refine ⟨hpos, ?_⟩
    show saturatingAdd tick r.respawnIntervalSeconds - tick ≤ r.respawnIntervalSeconds
    unfold saturatingAdd
    omega
  · exact ⟨rfl, rfl, fun hr => ⟨nofun, hr.due, hr.melee⟩⟩

theorem robustEdits : RobustEdits (Aging collection) where
  narrowed := fun _ _ _ hw => about.beside hw rfl rfl rfl
  edited := fun w id r r' hr hedited hw => hw.insert hr (elapses_edited hedited) rfl rfl
  moved := by
    intro w id r destination hr _ _ _ hw
    have helapses : Elapses w.tick r
        { r with entity := { r.entity with position := destination } } :=
      ⟨rfl, rfl, fun h => ⟨h.living, h.due, h.melee⟩⟩
    exact hw.insert hr helapses rfl rfl
  deactivated := fun w id r hr hw => hw.insert hr (elapses_deactivated w.tick r) rfl rfl

theorem elapses_restored {l : LivingWorld} {record : StaticCreatureRuntimeSnapshot}
    {r : StaticCreatureRuntime} (h : Fits l record r) :
    Elapses l.tick r (restoredRuntime l.tick record r) := by
  obtain ⟨hliving, hdue, hmelee⟩ := timingRefusal_eq_none_iff.mp h.timing
  refine ⟨rfl, rfl, fun _ => ⟨fun hactive => ?_, fun due hsome => ?_, fun cooldown hcooldown => ?_⟩⟩
  · exact if_pos hactive
  · simp only [restoredRuntime, Option.ite_none_left_eq_some, dueAfter, Option.map_eq_some_iff] at hsome
    obtain ⟨-, n, hn, rfl⟩ := hsome
    obtain ⟨hpos, hle⟩ := hdue n hn
    refine ⟨hpos, ?_⟩
    show saturatingAdd l.tick n - l.tick ≤ r.respawnIntervalSeconds
    unfold saturatingAdd
    omega
  · show (dueAfter l.tick record.directMeleeCooldownRemainingTicks).getD l.tick - l.tick ≤ cooldown
    cases hn : record.directMeleeCooldownRemainingTicks with
    | none => simp [dueAfter]
    | some n =>
      obtain ⟨-, ticks, hticks, hle⟩ := hmelee n hn
      obtain rfl := Option.some.inj (hcooldown.symm.trans hticks)
      show saturatingAdd l.tick n - l.tick ≤ cooldown
      unfold saturatingAdd
      omega

theorem restoredFrom (hw : Aging collection w) {records : List StaticCreatureRuntimeSnapshot}
    (h : RestoredFrom w.toLivingWorld records w'.staticCreatures) (htick : w'.tick = w.tick) :
    Aging collection w' := by
  refine hw.rewritten htick (fun entity _ r hr => h.present entity.id r hr) fun id r' hr' => ?_
  rcases h.lookup id r' hr' with hsame | ⟨record, -, r, rfl, hfits, rfl⟩
  · exact ⟨r', hsame, rfl, rfl, fun h => h⟩
  · exact ⟨r, hfits.lookup, elapses_restored hfits⟩

theorem swept (hw : Aging collection w) {rules : ReactivationRules}
    (hrearmed : ∀ r, Aged w.tick r → r.active = false → rules.due r = true →
      ∀ due, rules.rearmed r = some due →
        0 < r.respawnIntervalSeconds ∧ due - w.tick ≤ r.respawnIntervalSeconds)
    (hcreatures : w'.staticCreatures = (sweepCreatures rules w.toLivingWorld).creatures)
    (htick : w'.tick = w.tick) : Aging collection w' := by
  refine hw.rewritten htick (fun entity _ r hr => ?_) fun id r' hr' => ?_
  · obtain ⟨r', hr', -⟩ := (sweptAll rules w.toLivingWorld).some_of_some entity.id r hr
    exact ⟨r', by rw [hcreatures]; exact hr'⟩
  · rw [hcreatures] at hr'
    obtain ⟨r, hr, hswept⟩ := swept_of_getElem? hr'
    refine ⟨r, hr, ?_⟩
    cases hswept with
    | kept => exact ⟨rfl, rfl, fun h => h⟩
    | deferred hinactive hdue =>
      refine ⟨rfl, rfl, fun h => ⟨fun hactive => ?_, hrearmed r h hinactive hdue, h.melee⟩⟩
      rw [hinactive] at hactive
      cases hactive
    | revived => exact ⟨rfl, rfl, fun h => ⟨fun _ => rfl, nofun, h.melee⟩⟩

/-- A collection was installed. -/
theorem installed {l l' : LivingWorld} (hclock : l.tick ≤ u64Max)
    (h : installStaticCreatures collection l = (.ok (), l')) {w : GameWorld}
    (hw : w.toLivingWorld = l') : Aging collection w := by
  obtain ⟨creatures, hinstalled, rfl⟩ := installStaticCreatures_eq_ok h
  have hcreatures : w.staticCreatures = creatures := congrArg (·.staticCreatures) hw
  have htick : w.toLivingWorld.tick = l.tick := by
    rw [hw]
    rfl
  refine ⟨htick.trans_le hclock, fun entity hentity => ?_, fun id r hr => ?_, fun id r hr => ?_⟩
  · rw [hcreatures]
    exact ⟨_, (hinstalled.lookup entity.id _).mpr ⟨entity, hentity, rfl, rfl⟩⟩
  · rw [hcreatures] at hr
    obtain ⟨entity, hentity, hid, rfl⟩ := (hinstalled.lookup id r).mp hr
    exact ⟨entity, hentity, hid, rfl, rfl⟩
  · rw [hcreatures] at hr
    obtain ⟨entity, hentity, hid, rfl⟩ := (hinstalled.lookup id r).mp hr
    refine ⟨fun _ => rfl, nofun, fun cooldown _ => ?_⟩
    show l.tick - w.tick ≤ cooldown
    omega

theorem despawned (hw : Aging collection w) {id : ℕ}
    (hother : ∀ entity ∈ collection.entities, entity.id ≠ id)
    (hcreatures : w'.staticCreatures = w.staticCreatures.erase id) (htick : w'.tick = w.tick) :
    Aging collection w' := by
  refine hw.rewritten htick (fun entity hentity r hr => ⟨r, ?_⟩) fun j r hr => ⟨r, ?_, ?_⟩
  · have hne : ¬id = entity.id := fun heq => hother entity hentity heq.symm
    simpa [hcreatures, Std.ExtTreeMap.getElem?_erase, hne] using hr
  · rw [hcreatures, Std.ExtTreeMap.getElem?_erase] at hr
    split at hr
    · cases hr
    · exact hr
  · exact ⟨rfl, rfl, fun h => h⟩

/-- A creature without a target is no older. -/
theorem removed (hw : Aging collection w) (p : ℕ) : Aging collection (w.removed p) := by
  have hlookup (id : ℕ) : (w.removed p).staticCreatures[id]? =
      w.staticCreatures[id]?.map (GameWorld.withoutTarget p) := Std.ExtTreeMap.getElem?_map
  refine hw.rewritten rfl (fun entity _ r hr => ⟨GameWorld.withoutTarget p r, ?_⟩) fun id r' hr' => ?_
  · rw [hlookup, hr]
    rfl
  · rw [hlookup, Option.map_eq_some_iff] at hr'
    obtain ⟨r, hr, rfl⟩ := hr'
    refine ⟨r, hr, ?_⟩
    unfold GameWorld.withoutTarget
    split
    · exact ⟨rfl, rfl, fun h => ⟨h.living, h.due, h.melee⟩⟩
    · exact ⟨rfl, rfl, fun h => h⟩

/-- **One step of the installed creatures.** -/
theorem step (toLowercase : String → String) (hw : Aging collection w) {event : GameEvent}
    (hok : event.OnInstalled collection) : Aging collection (event.step toLowercase w) := by
  refine about.step toLowercase hw (fun p _ => hw.removed p) fun e he => ?_
  subst he
  by_cases hedits : e.EditsOnly
  · exact robustEdits.stays_edits about.robust toLowercase hedits w hw
  · refine leaves_registry toLowercase hedits about.robust.changed hw fun w' hwrites => ?_
    cases hwrites with
    | installed | spawned => exact hok.elim
    | despawned => exact hw.despawned hok rfl rfl
    | restored hrestored => exact hw.restoredFrom hrestored rfl
    | undisturbed hrestored => exact hw.restoredFrom hrestored rfl
    | reset => exact hw.swept (fun r hr _ _ => hr.due) rfl rfl
    | reactivated =>
      refine hw.swept (fun r hr _ hdue due hsome => ?_) rfl rfl
      -- a creature that was due has an interval
      have hpos : 0 < r.respawnIntervalSeconds := by
        cases hold : r.reactivationDueTick with
        | none => simp [Living.dueRules, hold] at hdue
        | some old => exact (hr.due old hold).1
      cases hsome
      refine ⟨hpos, ?_⟩
      show saturatingAdd w.tick r.respawnIntervalSeconds - w.tick ≤ r.respawnIntervalSeconds
      unfold saturatingAdd
      omega

/-- Two worlds with the creatures of one collection. -/
theorem counterparts (hw : Aging collection w) {v u : LivingWorld}
    (hplaced : ∀ entity ∈ collection.entities, entity.position ≠ unplacedOrigin)
    (hu : installStaticCreatures collection v = (.ok (), u)) : Counterparts w.toLivingWorld u := by
  obtain ⟨creatures, hinstalled, rfl⟩ := installStaticCreatures_eq_ok hu
  refine ⟨hw.aged, fun id r hr => ?_, fun id b hb => ?_, fun id b hb => ?_⟩
  · obtain ⟨entity, hentity, hid, hinterval, hcooldown⟩ := hw.source id r hr
    exact ⟨_, (hinstalled.lookup id _).mpr ⟨entity, hentity, hid, rfl⟩, hinterval.symm,
      hcooldown.symm⟩
  · obtain ⟨entity, hentity, -, rfl⟩ := (hinstalled.lookup id b).mp hb
    exact hplaced entity hentity
  · obtain ⟨entity, hentity, rfl, -⟩ := (hinstalled.lookup id b).mp hb
    exact hw.present entity hentity

end Aging

/-- **When a snapshot of the installed creatures comes back** in a world where the same collection
was just installed, after any events. -/
theorem snapshotRoundTrips_iff (toLowercase : String → String)
    {collection : FeTfsStaticSpawnCollection}
    (hplaced : ∀ entity ∈ collection.entities, entity.position ≠ unplacedOrigin)
    (before after : List GameEvent) {start : GameWorld}
    (hstart : (CreatureEvent.install collection).perform toLowercase
      (before.foldl (GameEvent.step toLowercase) .empty) = (.ok (), start))
    (hafter : ∀ event ∈ after, event.OnInstalled collection) {v u : LivingWorld}
    (hu : Living.installStaticCreatures collection v = (.ok (), u)) :
    Living.RoundTrips (after.foldl (GameEvent.step toLowercase) start).toLivingWorld u ↔
      Living.Restorable (after.foldl (GameEvent.step toLowercase) start).toLivingWorld u := by
  have hclocked : ∀ (events : List GameEvent) w, Clocked w →
      Clocked (events.foldl (GameEvent.step toLowercase) w) := by
    intro events
    induction events with
    | nil => exact fun _ hw => hw
    | cons event events ih => exact fun w hw => ih _ (hw.step toLowercase event)
  have hrun : ∀ (events : List GameEvent) w, (∀ event ∈ events, event.OnInstalled collection) →
      Aging collection w → Aging collection (events.foldl (GameEvent.step toLowercase) w) := by
    intro events
    induction events with
    | nil => exact fun _ _ hw => hw
    | cons event events ih =>
      intro w hevents hw
      exact ih _ (fun other hother => hevents other (List.mem_cons_of_mem _ hother))
        (hw.step toLowercase (hevents event List.mem_cons_self))
  obtain ⟨l, hinstall, rfl⟩ := living_eq_ok.mp hstart
  have hbefore := hclocked before .empty (Nat.zero_le _)
  exact Living.roundTrips_iff ((hrun after _ hafter (Aging.installed hbefore hinstall rfl)).counterparts
    hplaced hu)

/-- A rat that strikes every two seconds. -/
def strikingRat : FeTfsStaticSpawnCollection :=
  { entities := [importedRat 1 ⟨100, 100, 7⟩]
    directMeleeIntervalsMillis := (∅ : BTreeMap ℕ ℕ).insert 1 2000 }

/-- The world after an accepted or refused installation. -/
def freshly (collection : FeTfsStaticSpawnCollection) : GameWorld :=
  ((CreatureEvent.install collection).perform id .empty).2

theorem snapshotRoundTrips_strikingRat :
    Living.RoundTrips ([GameEvent.player (.advanceTicks 3)].foldl (GameEvent.step id)
        (freshly strikingRat)).toLivingWorld (freshly strikingRat).toLivingWorld ↔
      Living.Restorable ([GameEvent.player (.advanceTicks 3)].foldl (GameEvent.step id)
        (freshly strikingRat)).toLivingWorld (freshly strikingRat).toLivingWorld :=
  have haccepted : ((CreatureEvent.install strikingRat).perform id .empty).1 = .ok () := by
    decide +kernel
  snapshotRoundTrips_iff id (by decide) [] [.player (.advanceTicks 3)]
    (Prod.ext haccepted rfl) (fun _ h => by cases List.mem_singleton.mp h; trivial)
    (v := GameWorld.empty.toLivingWorld) (Prod.ext haccepted rfl)

/-- **The snapshot of a dead rat is refused**: its record has a wait for the next strike. -/
theorem deadRat_refused : ¬∀ (collection : FeTfsStaticSpawnCollection) (events : List GameEvent),
    (∀ entity ∈ collection.entities, entity.position ≠ unplacedOrigin) →
    (∀ event ∈ events, event.OnInstalled collection) →
    ((CreatureEvent.install collection).perform id .empty).1 = .ok () →
    Living.RoundTrips (events.foldl (GameEvent.step id) (freshly collection)).toLivingWorld
      (freshly collection).toLivingWorld := by
  intro h
  obtain ⟨summary, u', hrun, -⟩ := h strikingRat [.creature (.deactivate 1)] (by decide)
    (fun _ h => by cases List.mem_singleton.mp h; trivial) (by decide +kernel)
  have hrefused : (Living.restoreStaticCreatureRuntime (Living.staticCreatureRuntimeSnapshot
      ([GameEvent.creature (.deactivate 1)].foldl (GameEvent.step id)
        (freshly strikingRat)).toLivingWorld) (freshly strikingRat).toLivingWorld).1.isOk = false := by
    decide +kernel
  rw [hrun] at hrefused
  cases hrefused

end ForgottenEngine
