import ForgottenEngine.CreatureRuns

/-!
# Templates, summons and revivals

A creature imported at the unplaced origin is a template: it is installed dormant, for summons to
copy.  A summon has no respawn interval: once it has died it is to stay dead.  The registry does
not say which of its entries are which, so the runs here carry two sets of ids besides the world
(`TracedWorld`).

* `active_sweep_iff` — a sweep revives exactly the first creature of each free tile whose turn has
  come and whom no player keeps away;
* `neverRevived` — **templates stay dormant and dead summons dead**, in every run whose sweeps
  find none of them revivable and whose snapshots activate no template.
-/

namespace ForgottenEngine

open Fallible

namespace Living

/-! ### Whom a sweep revives -/

/-- An inactive creature whose turn has come, and whom no player keeps away. -/
structure Eligible (rules : ReactivationRules) (r : StaticCreatureRuntime) : Prop where
  inactive : r.active = false
  due : rules.due r = true
  unblocked : rules.playerBlocks r = false

/-- The creature is eligible, its tile is free, and nobody before it is eligible for the tile. -/
structure Revivable (rules : ReactivationRules) (l : LivingWorld) (id : ℕ)
    (r : StaticCreatureRuntime) : Prop where
  eligible : Eligible rules r
  free : r.spawnPosition ∉ l.staticOccupiedPositions
  first : ∀ (j : ℕ) (b : StaticCreatureRuntime), j < id → l.staticCreatures[j]? = some b →
    Eligible rules b → b.spawnPosition ≠ r.spawnPosition

/-- A registry is read in the order of its ids: what was read before a creature are the entries
with smaller ids. -/
theorem mem_pre_iff {creatures : BTreeMap ℕ StaticCreatureRuntime}
    {pre : List (ℕ × StaticCreatureRuntime)} {id : ℕ} {r : StaticCreatureRuntime}
    (h : pre ++ [(id, r)] <+: creatures.toList) {j : ℕ} {b : StaticCreatureRuntime} :
    (j, b) ∈ pre ↔ j < id ∧ creatures[j]? = some b := by
  obtain ⟨post, hpost⟩ := h
  rw [List.append_assoc] at hpost
  have hsorted := Std.ExtTreeMap.ordered_keys_toList (t := creatures)
  rw [← hpost, List.pairwise_append] at hsorted
  obtain ⟨-, hafter, hbefore⟩ := hsorted
  rw [← Std.ExtTreeMap.mem_toList_iff_getElem?_eq_some, ← hpost]
  constructor
  · intro hmem
    exact ⟨Nat.compare_eq_lt.mp (hbefore (j, b) hmem (id, r) (by simp)), List.mem_append_left _ hmem⟩
  · rintro ⟨hlt, hmem⟩
    rcases List.mem_append.mp hmem with hmem | hmem
    · exact hmem
    · rcases List.mem_cons.mp hmem with heq | hmem
      · cases heq
        omega
      · have hgt := Nat.compare_eq_lt.mp ((List.pairwise_cons.mp hafter).1 (j, b) hmem)
        omega

/-- What a sweep has done after some of the creatures. -/
structure Sweeping (rules : ReactivationRules) (l : LivingWorld)
    (pre : List (ℕ × StaticCreatureRuntime)) (sweep : ReactivationSweep) : Prop where
  tiles : ∀ position, position ∈ sweep.activePositions ↔ position ∈ l.staticOccupiedPositions ∨
    ∃ e ∈ pre, Eligible rules e.2 ∧ e.2.spawnPosition = position
  done : ∀ e ∈ pre, ∃ r', sweep.creatures[e.1]? = some r' ∧
    (r'.active = true ↔ e.2.active = true ∨ Revivable rules l e.1 e.2)
  rest : ∀ id : ℕ, id ∉ pre.map Prod.fst → sweep.creatures[id]? = l.staticCreatures[id]?

/-- The turn of one creature. -/
theorem Sweeping.next {rules : ReactivationRules} {l : LivingWorld}
    {pre : List (ℕ × StaticCreatureRuntime)} {sweep : ReactivationSweep}
    (h : Sweeping rules l pre sweep) {id : ℕ} {r r' : StaticCreatureRuntime}
    (hnew : id ∉ pre.map Prod.fst) {sweep' : ReactivationSweep}
    (hcreatures : ∀ j : ℕ, sweep'.creatures[j]? = if id = j then some r' else sweep.creatures[j]?)
    (htiles : ∀ position, position ∈ sweep'.activePositions ↔ position ∈ sweep.activePositions ∨
      (Eligible rules r ∧ r.spawnPosition = position))
    (hactive : r'.active = true ↔ r.active = true ∨ Revivable rules l id r) :
    Sweeping rules l (pre ++ [(id, r)]) sweep' where
  tiles := by
    intro position
    rw [htiles, h.tiles]
    simp [or_and_right, exists_or, or_assoc]
  done := by
    intro e he
    rcases List.mem_append.mp he with he | he
    · have hne : ¬id = e.1 := fun heq => hnew (heq ▸ List.mem_map_of_mem he)
      rw [hcreatures, if_neg hne]
      exact h.done e he
    · rw [List.mem_singleton.mp he]
      exact ⟨r', by rw [hcreatures, if_pos rfl], hactive⟩
  rest := by
    intro j hj
    rw [List.map_append, List.mem_append, not_or] at hj
    have hne : ¬id = j := fun heq => hj.2 (by simp [heq])
    rw [hcreatures, if_neg hne]
    exact h.rest j hj.1

theorem sweeping (rules : ReactivationRules) (l : LivingWorld) :
    Sweeping rules l l.staticCreatures.toList (sweepCreatures rules l) := by
  refine PartialFold.foldl_prefix
    (I := fun pre sweep => pre <+: l.staticCreatures.toList → Sweeping rules l pre sweep)
    (fun pre sweep entry hpre hprefix => ?_) _
    (fun _ => ⟨by simp, by simp, fun _ _ => rfl⟩) (List.prefix_refl _)
  have hsweep := hpre ((List.prefix_append pre [entry]).trans hprefix)
  obtain ⟨id, r⟩ := entry
  have hmem {j : ℕ} {b : StaticCreatureRuntime} := mem_pre_iff hprefix (j := j) (b := b)
  have hr : l.staticCreatures[id]? = some r :=
    Std.ExtTreeMap.mem_toList_iff_getElem?_eq_some.mp (List.IsPrefix.subset hprefix (by simp))
  have hnew : id ∉ pre.map Prod.fst := by
    intro hin
    obtain ⟨⟨j, b⟩, hjb, heq⟩ := List.mem_map.mp hin
    exact absurd (hmem.mp hjb).1 (by simp only at heq; omega)
  have hlookup : sweep.creatures[id]? = some r := (hsweep.rest id hnew).trans hr
  have hinsert (r' : StaticCreatureRuntime) (j : ℕ) : (sweep.creatures.insert id r')[j]? =
      if id = j then some r' else sweep.creatures[j]? := by
    simp [Std.ExtTreeMap.getElem?_insert]
  unfold sweepRound
  simp only
  split
  · rename_i hskip
    have hnot : ¬Eligible rules r := by
      intro heligible
      rcases hskip with hactive | hdue
      · rw [heligible.inactive] at hactive
        cases hactive
      · exact hdue heligible.due
    refine @Sweeping.next _ _ _ _ hsweep _ _ r hnew _ (fun j => ?_) (fun position => ?_) ?_
    · split
      · rename_i heq
        rw [← heq, hlookup]
      · rfl
    · simp [hnot]
    · exact ⟨.inl, fun h => h.elim (fun h => h) fun h => absurd h.eligible hnot⟩
  · rename_i hskip
    simp only [not_or, Bool.not_eq_true, Bool.not_eq_false] at hskip
    obtain ⟨hinactive, hdue⟩ := hskip
    -- whoever is kept away stays inactive
    have hdeferred (hnot : ¬Revivable rules l id r) : ({ r with
        reactivationDueTick := rules.rearmed r } : StaticCreatureRuntime).active = true ↔
          r.active = true ∨ Revivable rules l id r :=
      ⟨.inl, fun h => h.elim (fun h => h) fun h => absurd h hnot⟩
    split
    · rename_i hplayer
      have hnot : ¬Eligible rules r := by
        intro heligible
        rw [heligible.unblocked] at hplayer
        cases hplayer
      refine hsweep.next hnew (hinsert _) (fun position => ?_)
        (hdeferred fun h => hnot h.eligible)
      simp [hnot]
    · rename_i hplayer
      have heligible : Eligible rules r := ⟨hinactive, hdue, by simpa using hplayer⟩
      split
      · rename_i htaken
        refine hsweep.next hnew (hinsert _) (fun position => ?_) (hdeferred fun h => ?_)
        · constructor
          · exact .inl
          · rintro (hp | ⟨-, rfl⟩)
            · exact hp
            · exact htaken
        · rcases (hsweep.tiles _).mp htaken with hindex | ⟨⟨j, b⟩, hjb, hb, hpos⟩
          · exact h.free hindex
          · exact h.first j b (hmem.mp hjb).1 (hmem.mp hjb).2 hb hpos
      · rename_i hfree
        have hrevivable : Revivable rules l id r := by
          refine ⟨heligible, fun hindex => hfree ((hsweep.tiles _).mpr (.inl hindex)), ?_⟩
          intro j b hj hb hbeligible hpos
          exact hfree ((hsweep.tiles _).mpr (.inr ⟨(j, b), hmem.mpr ⟨hj, hb⟩, hbeligible, hpos⟩))
        refine hsweep.next hnew (hinsert _) (fun position => ?_)
          ⟨fun _ => .inr hrevivable, fun _ => rfl⟩
        simp only [Finset.mem_insert, heligible, true_and, or_comm, eq_comm]

/-- **Whom a sweep makes active**: who was, and who was revivable. -/
theorem active_sweep_iff (rules : ReactivationRules) {l : LivingWorld} {id : ℕ}
    {r : StaticCreatureRuntime} (hr : l.staticCreatures[id]? = some r) :
    ∃ r', (sweepCreatures rules l).creatures[id]? = some r' ∧
      (r'.active = true ↔ r.active = true ∨ Revivable rules l id r) :=
  (sweeping rules l).done (id, r) (Std.ExtTreeMap.mem_toList_iff_getElem?_eq_some.mpr hr)

end Living

/-! ### Runs that remember who is who -/

/-- The entities a collection imports for summons to copy. -/
def FeTfsStaticSpawnCollection.templateIds (collection : FeTfsStaticSpawnCollection) : Finset ℕ :=
  ((collection.entities.filter fun e => e.position = unplacedOrigin).map (·.id)).toFinset

/-- A world, with the ids of its dormant templates and of its summons. -/
structure TracedWorld where
  world : GameWorld
  templates : Finset ℕ
  summons : Finset ℕ

namespace TracedWorld

variable (toLowercase : String → String)

def empty : TracedWorld := ⟨.empty, ∅, ∅⟩

/-- The operation returns a result. -/
def Accepts (s : TracedWorld) (event : GameEvent) : Bool :=
  (event.perform toLowercase s.world).1.isOk

/-- An installation brings its own templates. -/
def templatesAfter (s : TracedWorld) (event : GameEvent) : Finset ℕ :=
  match event with
  | .creature (.install collection) =>
    if s.Accepts toLowercase event then collection.templateIds else s.templates
  | .creature (.despawn id) =>
    if s.Accepts toLowercase event then s.templates.erase id else s.templates
  | _ => s.templates

/-- An installation ends the summons, a summoning adds the id it returns. -/
def summonsAfter (s : TracedWorld) (event : GameEvent) : Finset ℕ :=
  match event with
  | .creature (.install _) => if s.Accepts toLowercase event then ∅ else s.summons
  | .creature (.spawn name position direction) =>
    match (Living.spawnDynamicEntity toLowercase name position direction
      s.world.toLivingWorld).1 with
    | .ok id => insert id s.summons
    | .error _ => s.summons
  | .creature (.despawn id) =>
    if s.Accepts toLowercase event then s.summons.erase id else s.summons
  | _ => s.summons

def step (s : TracedWorld) (event : GameEvent) : TracedWorld :=
  ⟨event.step toLowercase s.world, s.templatesAfter toLowercase event,
    s.summonsAfter toLowercase event⟩

/-- Sweeps find no template revivable, a reset no summon either, and a snapshot activates no
template. -/
def SparesTheDormant (s : TracedWorld) : GameEvent → Prop
  | .creature .reset => ∀ (id : ℕ) (r : StaticCreatureRuntime),
      s.world.staticCreatures[id]? = some r → id ∈ s.templates ∨ id ∈ s.summons →
        ¬Living.Revivable (Living.resetRules s.world.toLivingWorld) s.world.toLivingWorld id r
  | .creature .reactivateDue => ∀ (id : ℕ) (r : StaticCreatureRuntime),
      s.world.staticCreatures[id]? = some r → id ∈ s.templates →
        ¬Living.Revivable (Living.dueRules s.world.toLivingWorld) s.world.toLivingWorld id r
  | .creature (.restore records) => ∀ record ∈ records, record.id ∈ s.templates →
      record.active = true → record.position = unplacedOrigin
  | _ => True

/-- No template is active. -/
def TemplatesSleep (s : TracedWorld) : Prop :=
  ∀ id ∈ s.templates, ∀ r : StaticCreatureRuntime, s.world.staticCreatures[id]? = some r →
    r.active = false

/-- The event makes no dead summon active, if it is a sweep. -/
def SummonsRest (s : TracedWorld) (event : GameEvent) : Prop :=
  event = .creature .reset ∨ event = .creature .reactivateDue →
    ∀ id ∈ s.summons, ∀ r r' : StaticCreatureRuntime, s.world.staticCreatures[id]? = some r →
      r.active = false → (s.step toLowercase event).world.staticCreatures[id]? = some r' →
        r'.active = false

end TracedWorld

/-! ### What the runs keep -/

/-- The templates are there and inactive, and no summon has a respawn scheduled. -/
structure Dormant (templates summons : Finset ℕ) (w : GameWorld) : Prop where
  asleep : ∀ id ∈ templates, ∃ r, w.staticCreatures[id]? = some r ∧ r.active = false
  unscheduled : ∀ id ∈ summons, ∀ r : StaticCreatureRuntime, w.staticCreatures[id]? = some r →
    r.respawnIntervalSeconds = 0 ∧ r.reactivationDueTick = none

namespace Dormant

variable {templates summons : Finset ℕ} {w : GameWorld}

theorem about : AboutCreatures (Dormant templates summons) where
  same := by
    intro w w' hcreatures _ _ hw
    constructor
    · rw [hcreatures]
      exact hw.asleep
    · rw [hcreatures]
      exact hw.unscheduled
  tick := fun _ _ hw => ⟨hw.asleep, hw.unscheduled⟩

/-- One creature is written: it stays inactive if it was, and gets no schedule without an
interval. -/
theorem insert (hw : Dormant templates summons w) {id : ℕ} {r r' : StaticCreatureRuntime}
    (hr : w.staticCreatures[id]? = some r) (hactive : r.active = false → r'.active = false)
    (hrest : r.respawnIntervalSeconds = 0 → r.reactivationDueTick = none →
      r'.respawnIntervalSeconds = 0 ∧ r'.reactivationDueTick = none) {w' : GameWorld}
    (hcreatures : w'.staticCreatures = w.staticCreatures.insert id r') :
    Dormant templates summons w' := by
  constructor
  · intro j hj
    obtain ⟨b, hb, hbactive⟩ := hw.asleep j hj
    rw [hcreatures]
    by_cases hij : id = j
    · subst hij
      obtain rfl := Option.some.inj (hr.symm.trans hb)
      exact ⟨r', by simp, hactive hbactive⟩
    · exact ⟨b, by simp [Std.ExtTreeMap.getElem?_insert, hij, hb], hbactive⟩
  · intro j hj b hb
    rw [hcreatures, Std.ExtTreeMap.getElem?_insert] at hb
    split at hb
    · rename_i heq
      obtain rfl : id = j := by simpa using heq
      cases hb
      obtain ⟨hinterval, hdue⟩ := hw.unscheduled id hj r hr
      exact hrest hinterval hdue
    · exact hw.unscheduled j hj b hb

theorem robustEdits : RobustEdits (Dormant templates summons) where
  narrowed := fun _ _ _ hw => about.beside hw rfl rfl rfl
  edited := by
    intro w id r r' hr hedited hw
    refine hw.insert hr (fun h => ?_) (fun h h' => ?_) rfl
    · rw [hedited.same]
      exact h
    · rw [hedited.same]
      exact ⟨h, h'⟩
  moved := by
    intro w id r destination hr _ _ _ hw
    refine hw.insert hr ?_ ?_ rfl
    · exact fun h => h
    · exact fun h h' => ⟨h, h'⟩
  deactivated := by
    intro w id r hr hw
    refine hw.insert hr (fun _ => ?_) (fun h h' => ?_) rfl
    · unfold deactivatedRuntime
      split
      · rfl
      · rfl
    · unfold deactivatedRuntime
      split
      · exact ⟨h, if_neg (by simp [h])⟩
      · exact ⟨h, h'⟩

theorem removed (hw : Dormant templates summons w) (p : ℕ) :
    Dormant templates summons (w.removed p) := by
  have hsame (r : StaticCreatureRuntime) : (GameWorld.withoutTarget p r).active = r.active ∧
      (GameWorld.withoutTarget p r).respawnIntervalSeconds = r.respawnIntervalSeconds ∧
      (GameWorld.withoutTarget p r).reactivationDueTick = r.reactivationDueTick := by
    unfold GameWorld.withoutTarget
    split
    · exact ⟨rfl, rfl, rfl⟩
    · exact ⟨rfl, rfl, rfl⟩
  constructor
  · intro id hid
    obtain ⟨r, hr, hactive⟩ := hw.asleep id hid
    refine ⟨GameWorld.withoutTarget p r, ?_, (hsame r).1.trans hactive⟩
    simp [GameWorld.removed, hr]
  · intro id hid r' hr'
    simp only [GameWorld.removed, Std.ExtTreeMap.getElem?_map, Option.map_eq_some_iff] at hr'
    obtain ⟨r, hr, rfl⟩ := hr'
    rw [(hsame r).2.1, (hsame r).2.2]
    exact hw.unscheduled id hid r hr

/-- A sweep that finds no template revivable. -/
theorem swept (hw : Dormant templates summons w) {rules : Living.ReactivationRules}
    (hrearmed : ∀ r : StaticCreatureRuntime, r.respawnIntervalSeconds = 0 →
      r.reactivationDueTick = none → rules.due r = true → rules.rearmed r = none)
    (hspared : ∀ (id : ℕ) (r : StaticCreatureRuntime), w.staticCreatures[id]? = some r →
      id ∈ templates → ¬Living.Revivable rules w.toLivingWorld id r) :
    Dormant templates summons
      (w.putRegistry (Living.sweepCreatures rules w.toLivingWorld).creatures) := by
  constructor
  · intro id hid
    obtain ⟨r, hr, hactive⟩ := hw.asleep id hid
    obtain ⟨r', hr', hiff⟩ := Living.active_sweep_iff rules (l := w.toLivingWorld) hr
    refine ⟨r', hr', Bool.eq_false_of_not_eq_true fun h => ?_⟩
    rcases hiff.mp h with h | h
    · rw [hactive] at h
      cases h
    · exact hspared id r hr hid h
  · intro id hid r' hr'
    obtain ⟨r, hr, hswept⟩ := Living.swept_of_getElem? hr'
    obtain ⟨hinterval, hdue⟩ := hw.unscheduled id hid r hr
    cases hswept with
    | kept => exact ⟨hinterval, hdue⟩
    | deferred _ hturn => exact ⟨hinterval, hrearmed r hinterval hdue hturn⟩
    | revived => exact ⟨hinterval, rfl⟩

/-- A snapshot that makes no template active. -/
theorem restored (hw : Dormant templates summons w)
    {records : List StaticCreatureRuntimeSnapshot} {creatures : BTreeMap ℕ StaticCreatureRuntime}
    (hrestored : Living.RestoredFrom w.toLivingWorld records creatures)
    (hspared : ∀ record ∈ records, record.id ∈ templates → record.active = true →
      record.position = unplacedOrigin) {w' : GameWorld} (hcreatures : w'.staticCreatures = creatures) :
    Dormant templates summons w' := by
  subst hcreatures
  constructor
  · intro id hid
    obtain ⟨old, hold, hasleep⟩ := hw.asleep id hid
    obtain ⟨r', hr'⟩ := hrestored.present id old hold
    refine ⟨r', hr', ?_⟩
    rcases hrestored.lookup id r' hr' with hsame | ⟨record, hrecord, r, rfl, hfits, rfl⟩
    · obtain rfl := Option.some.inj (hsame.symm.trans hold)
      exact hasleep
    · refine Bool.eq_false_of_not_eq_true fun hactive => ?_
      exact hfits.placed (hspared record hrecord hid hactive)
  · intro id hid r' hr'
    rcases hrestored.lookup id r' hr' with hsame | ⟨record, hrecord, r, rfl, hfits, rfl⟩
    · exact hw.unscheduled id hid r' hsame
    · obtain ⟨hinterval, -⟩ := hw.unscheduled record.id hid r hfits.lookup
      refine ⟨hinterval, ?_⟩
      have hnone : record.reactivationRemainingSeconds = none := by
        have htiming := hfits.timing
        cases hremaining : record.reactivationRemainingSeconds with
        | none => rfl
        | some n => simp [Living.timingRefusal, hremaining, hinterval] at htiming
      simp [Living.restoredRuntime, Living.dueAfter, hnone]

end Dormant

/-! ### The events that come and go -/

namespace Living

variable {l l' : LivingWorld}

theorem atomic_installStaticCreatures (collection : FeTfsStaticSpawnCollection) :
    Atomic (installStaticCreatures collection) := by
  intro l
  refine AtomicAt.ite (fun _ => (ReadOnly.fail _).atomicAt l) fun _ => ?_
  refine .bind (.read _) fun _ _ => .bind (.ofExcept _) fun creatures _ => ?_
  exact Succeeds.atomic (.bind (.write _) fun _ => .bind (.write _) fun _ => .write _) l

theorem atomic_despawnDynamicEntity (id : ℕ) : Atomic (despawnDynamicEntity id) := by
  intro l
  refine AtomicAt.ite (fun _ => (ReadOnly.fail _).atomicAt l) fun _ => ?_
  refine .bind (.readOr _ _) fun _ _ => ?_
  exact Succeeds.atomic (.bind (.write _) fun _ => .bind (.write _) fun _ => .write _) l

theorem atomic_spawnDynamicEntity (toLowercase : String → String) (name : String)
    (position : Position) (direction : ℕ) :
    Atomic (spawnDynamicEntity toLowercase name position direction) := by
  intro l
  refine AtomicAt.bind (.read _) fun _ _ => .bind (.read _) fun _ _ => .bind (.read _) fun _ _ => ?_
  refine .bind (.read _) fun _ _ => .bind (.read _) fun _ _ => ?_
  refine .ite (fun _ => (ReadOnly.fail _).atomicAt l) fun _ => ?_
  refine .ite (fun _ => (ReadOnly.fail _).atomicAt l) fun _ => ?_
  refine .bind (.ofOption _ _) fun _ _ => .bind (.ofOption _ _) fun _ _ => ?_
  refine .bind (.ofOption _ _) fun _ _ => ?_
  exact Succeeds.atomic (.bind (.write _) fun _ => .bind (.write _) fun _ =>
    .bind (.write _) fun _ => .pure _) l

theorem despawnDynamicEntity_eq_ok {id : ℕ} (h : despawnDynamicEntity id l = (.ok (), l')) :
    l' = (l.putCreatures (l.staticCreatures.erase id)).refreshStaticCreatureOccupancy.changed := by
  simp only [despawnDynamicEntity, guard_eq_ok, bind_eq_ok, readOr_eq_ok, write_apply, markChanged,
    Prod.mk.injEq] at h
  obtain ⟨-, _, _, ⟨-, rfl⟩, _, _, ⟨-, rfl⟩, _, _, ⟨-, rfl⟩, -, rfl⟩ := h
  rfl

theorem spawnDynamicEntity_eq_ok {toLowercase : String → String} {name : String}
    {position : Position} {direction id : ℕ}
    (h : spawnDynamicEntity toLowercase name position direction l = (.ok id, l')) :
    ∃ (template : StaticCreatureRuntime) (spawnPosition : Position),
      l.staticCreatures[id]? = none ∧
      l' = (l.putCreatures (l.staticCreatures.insert id (summonedRuntime template l.tick id
        spawnPosition direction))).refreshStaticCreatureOccupancy.changed := by
  simp only [spawnDynamicEntity, guard_eq_ok, bind_eq_ok, ofOption_eq_ok, read_apply, write_apply,
    markChanged, pure_apply, Prod.mk.injEq, Except.ok.injEq] at h
  obtain ⟨_, _, ⟨rfl, rfl⟩, _, _, ⟨rfl, rfl⟩, _, _, ⟨rfl, rfl⟩, _, _, ⟨hslot, rfl⟩, _, _,
    ⟨rfl, rfl⟩, -, -, template, _, ⟨-, rfl⟩, spawnPosition, _, ⟨-, rfl⟩, slot, _, ⟨hfound, rfl⟩, _, _,
    ⟨-, rfl⟩, _, _, ⟨-, rfl⟩, _, _, ⟨-, rfl⟩, rfl, rfl⟩ := h
  exact ⟨template.2, spawnPosition, by simpa using List.find?_some (hslot.trans hfound), rfl⟩

end Living

namespace TracedWorld

variable {s : TracedWorld}

/-- The invariant of the runs. -/
def Sound (s : TracedWorld) : Prop := Dormant s.templates s.summons s.world

theorem sound_empty : Sound empty := ⟨fun _ hid => absurd hid (Finset.notMem_empty _),
  fun _ hid => absurd hid (Finset.notMem_empty _)⟩

theorem isOk_error {α : Type} {m : GameM α} {w : GameWorld} (h : (m w).1.isOk = false) :
    ∃ e, m w = (.error e, (m w).2) := by
  cases hm : (m w).1 with
  | error e => exact ⟨e, Prod.ext hm rfl⟩
  | ok a =>
    rw [hm] at h
    cases h

theorem isOk_ok {α : Type} {m : GameM α} {w : GameWorld} (h : (m w).1.isOk = true) :
    ∃ a, m w = (.ok a, (m w).2) := by
  cases hm : (m w).1 with
  | ok a => exact ⟨a, Prod.ext hm rfl⟩
  | error e =>
    rw [hm] at h
    cases h

/-- A refused operation that checks first changes nothing. -/
theorem step_refused (toLowercase : String → String) {event : CreatureEvent} {m : LivingM Unit}
    (hm : Atomic m) (hevent : event.perform toLowercase = Game.living m)
    (hrefused : s.Accepts toLowercase (.creature event) = false) :
    GameEvent.step toLowercase s.world (.creature event) = s.world := by
  show (event.perform toLowercase s.world).2 = s.world
  have hfails : (event.perform toLowercase s.world).1.isOk = false := hrefused
  rw [hevent] at hfails ⊢
  obtain ⟨e, hrun⟩ := isOk_error hfails
  exact atomic_living hm _ _ _ hrun

/-- What an accepted operation has done to the living part. -/
theorem step_accepted (toLowercase : String → String) {event : CreatureEvent} {m : LivingM Unit}
    (hevent : event.perform toLowercase = Game.living m)
    (haccepted : s.Accepts toLowercase (.creature event) = true) :
    ∃ l, m s.world.toLivingWorld = (.ok (), l) ∧
      GameEvent.step toLowercase s.world (.creature event) = s.world.putLiving l := by
  have hruns : (event.perform toLowercase s.world).1.isOk = true := haccepted
  rw [hevent] at hruns
  obtain ⟨a, hrun⟩ := isOk_ok hruns
  obtain ⟨l, hl, hworld⟩ := living_eq_ok.mp hrun
  refine ⟨l, hl, ?_⟩
  show (event.perform toLowercase s.world).2 = _
  rw [hevent]
  exact hworld

theorem Sound.installed (toLowercase : String → String) (hs : Sound s)
    (collection : FeTfsStaticSpawnCollection) :
    Sound (s.step toLowercase (.creature (.install collection))) := by
  simp only [Sound, TracedWorld.step, templatesAfter, summonsAfter]
  cases haccepts : s.Accepts toLowercase (.creature (.install collection)) with
  | false =>
    rw [step_refused toLowercase (Living.atomic_installStaticCreatures collection) rfl haccepts]
    exact hs
  | true =>
    obtain ⟨l, hl, hworld⟩ := step_accepted toLowercase rfl haccepts
    obtain ⟨creatures, hinstalled, rfl⟩ := Living.installStaticCreatures_eq_ok hl
    rw [hworld]
    refine ⟨fun id hid => ?_, fun id hid => absurd hid (Finset.notMem_empty _)⟩
    simp only [if_true, FeTfsStaticSpawnCollection.templateIds, List.mem_toFinset, List.mem_map,
      List.mem_filter, decide_eq_true_eq] at hid
    obtain ⟨entity, ⟨hentity, horigin⟩, rfl⟩ := hid
    refine ⟨Living.installedRuntime collection s.world.tick entity,
      (hinstalled.lookup entity.id _).mpr ⟨entity, hentity, rfl, rfl⟩, ?_⟩
    exact decide_eq_false (not_not.mpr horigin)

theorem Sound.despawned (toLowercase : String → String) (hs : Sound s) (id : ℕ) :
    Sound (s.step toLowercase (.creature (.despawn id))) := by
  simp only [Sound, TracedWorld.step, templatesAfter, summonsAfter]
  cases haccepts : s.Accepts toLowercase (.creature (.despawn id)) with
  | false =>
    rw [step_refused toLowercase (Living.atomic_despawnDynamicEntity id) rfl haccepts]
    exact hs
  | true =>
    obtain ⟨l, hl, hworld⟩ := step_accepted toLowercase rfl haccepts
    rw [hworld, Living.despawnDynamicEntity_eq_ok hl]
    have hlookup (j : ℕ) (hj : j ≠ id) :
        (s.world.staticCreatures.erase id)[j]? = s.world.staticCreatures[j]? := by
      simp [Std.ExtTreeMap.getElem?_erase, Ne.symm hj]
    refine ⟨fun j hj => ?_, fun j hj r hr => ?_⟩
    · simp only [if_true, Finset.mem_erase] at hj
      obtain ⟨r, hr, hactive⟩ := hs.asleep j hj.2
      exact ⟨r, (hlookup j hj.1).trans hr, hactive⟩
    · simp only [if_true, Finset.mem_erase] at hj
      exact hs.unscheduled j hj.2 r ((hlookup j hj.1).symm.trans hr)

theorem Sound.spawned (toLowercase : String → String) (hs : Sound s) (name : String)
    (position : Position) (direction : ℕ) :
    Sound (s.step toLowercase (.creature (.spawn name position direction))) := by
  have hworld : GameEvent.step toLowercase s.world (.creature (.spawn name position direction)) =
      s.world.putLiving (Living.spawnDynamicEntity toLowercase name position direction
        s.world.toLivingWorld).2 := by
    show (void (Game.living _) s.world).2 = _
    simp only [void, bind_apply, Game.living, zoom]
    split <;> simp_all
  simp only [Sound, TracedWorld.step, templatesAfter, summonsAfter, hworld]
  generalize hrun : Living.spawnDynamicEntity toLowercase name position direction
    s.world.toLivingWorld = run
  rcases run with ⟨e | id, l⟩
  · rw [Living.atomic_spawnDynamicEntity toLowercase name position direction _ _ _ hrun]
    exact hs
  · obtain ⟨template, spawnPosition, hnew, rfl⟩ := Living.spawnDynamicEntity_eq_ok hrun
    have hlookup (j : ℕ) : (s.world.staticCreatures.insert id (Living.summonedRuntime template
        s.world.tick id spawnPosition direction))[j]? = if id = j then some (Living.summonedRuntime
          template s.world.tick id spawnPosition direction) else s.world.staticCreatures[j]? := by
      simp [Std.ExtTreeMap.getElem?_insert]
    refine ⟨fun j hj => ?_, fun j hj r hr => ?_⟩
    · obtain ⟨r, hr, hactive⟩ := hs.asleep j hj
      have hne : ¬id = j := by
        intro heq
        have hnone : s.world.staticCreatures[id]? = none := hnew
        rw [heq, hr] at hnone
        cases hnone
      exact ⟨r, (hlookup j).trans ((if_neg hne).trans hr), hactive⟩
    · have hr := (hlookup j).symm.trans hr
      split at hr
      · cases hr
        exact ⟨rfl, rfl⟩
      · rename_i hne
        rcases Finset.mem_insert.mp hj with heq | hj
        · exact absurd heq.symm hne
        · exact hs.unscheduled j hj r hr

/-- A step that leaves the registered ids alone. -/
theorem sound_beside {toLowercase : String → String} {event : GameEvent}
    (htemplates : s.templatesAfter toLowercase event = s.templates)
    (hsummons : s.summonsAfter toLowercase event = s.summons)
    (h : Dormant s.templates s.summons (event.step toLowercase s.world)) :
    Sound (s.step toLowercase event) := by
  show Dormant (s.templatesAfter toLowercase event) (s.summonsAfter toLowercase event) _
  rw [htemplates, hsummons]
  exact h

/-- **One step**: the templates sleep on, and no summon is scheduled. -/
theorem Sound.step (toLowercase : String → String) (hs : Sound s) {event : GameEvent}
    (hok : SparesTheDormant s event) : Sound (s.step toLowercase event) := by
  have hbeside (hremoved : ∀ p, event = .removePlayer p →
        Dormant s.templates s.summons (s.world.removed p))
      (hcreature : ∀ e, event = .creature e →
        Leaves (Dormant s.templates s.summons) (e.perform toLowercase) s.world) :
      Dormant s.templates s.summons (event.step toLowercase s.world) :=
    Dormant.about.step toLowercase hs hremoved hcreature
  cases event with
  | creature e =>
    have hdormant : Dormant s.templates s.summons s.world := hs
    have habout : AboutCreatures (Dormant s.templates s.summons) := Dormant.about
    have hchanged := habout.robust.changed
    have hedits (hevent : e.EditsOnly) :
        Dormant s.templates s.summons (GameEvent.step toLowercase s.world (.creature e)) :=
      Dormant.robustEdits.stays_edits Dormant.about.robust toLowercase hevent s.world hs
    have hregistry (hevent : ¬e.EditsOnly)
        (hwrites : ∀ w', e.Rewrites s.world w' → Dormant s.templates s.summons w') :
        Dormant s.templates s.summons (GameEvent.step toLowercase s.world (.creature e)) :=
      leaves_registry toLowercase hevent hchanged hs hwrites
    cases e with
    | install collection => exact hs.installed toLowercase collection
    | spawn name position direction => exact hs.spawned toLowercase name position direction
    | despawn id => exact hs.despawned toLowercase id
    | restore records =>
      refine sound_beside rfl rfl (hregistry not_false fun w' hwrites => ?_)
      cases hwrites with
      | restored hrestored => exact hdormant.restored hrestored hok rfl
      | undisturbed hrestored => exact hdormant.restored hrestored hok rfl
    | reset =>
      refine sound_beside rfl rfl (hregistry not_false fun w' hwrites => ?_)
      cases hwrites
      exact hdormant.swept (fun r _ hnone _ => hnone) fun id r hr hid => hok id r hr (.inl hid)
    | reactivateDue =>
      refine sound_beside rfl rfl (hregistry not_false fun w' hwrites => ?_)
      cases hwrites
      refine hdormant.swept (fun r _ hnone hdue => ?_) fun id r hr hid => hok id r hr hid
      simp [Living.dueRules, hnone] at hdue
    | deactivate _ | move _ _ _ | applyPolicy _ _ | stepTowardTarget _ _ _ | setHealthPercent _ _
    | selectTarget _ _ | strike _ _ _ | meleeDamage _ _ _ => exact sound_beside rfl rfl (hedits trivial)
  | addPlayer player vitals progression => exact sound_beside rfl rfl (hbeside (by simp) (by simp))
  | removePlayer p => exact sound_beside rfl rfl (hbeside (fun q _ => Dormant.removed hs q) (by simp))
  | inventory e => exact sound_beside rfl rfl (hbeside (by simp) (by simp))
  | player e => exact sound_beside rfl rfl (hbeside (by simp) (by simp))
  | upkeep e => exact sound_beside rfl rfl (hbeside (by simp) (by simp))
  | overwrite e => exact sound_beside rfl rfl (hbeside (by simp) (by simp))
  | party e => exact sound_beside rfl rfl (hbeside (by simp) (by simp))

/-- What a sweep does to the registry. -/
theorem creatures_sweep (toLowercase : String → String) (w : GameWorld)
    {rules : LivingWorld → Living.ReactivationRules} {event : CreatureEvent}
    (hevent : event.perform toLowercase = void (Game.living (Living.reactivateCreatures rules))) :
    (GameEvent.step toLowercase w (.creature event)).staticCreatures =
      (Living.sweepCreatures (rules w.toLivingWorld) w.toLivingWorld).creatures := by
  have hsweep : Leaves (fun l => l.staticCreatures =
      (Living.sweepCreatures (rules w.toLivingWorld) w.toLivingWorld).creatures)
      (Living.reactivateCreatures rules) w.toLivingWorld :=
    Living.leaves_sweep (fun _ hl => hl) rfl
  show Leaves (fun w' : GameWorld => w'.staticCreatures = _) (event.perform toLowercase) w
  rw [hevent, leaves_void]
  exact hsweep

end TracedWorld

/-- **Templates stay dormant and dead summons dead**, in every run in which no sweep finds one of
them revivable and no snapshot activates a template. -/
theorem neverRevived (toLowercase : String → String) {s : TracedWorld}
    (h : Reaches (TracedWorld.step toLowercase) TracedWorld.SparesTheDormant .empty s) :
    s.TemplatesSleep ∧ ∀ event, s.SparesTheDormant event → s.SummonsRest toLowercase event := by
  have hs : s.Sound := h.invariant (P := TracedWorld.Sound)
    (fun _ _ hs hok => hs.step toLowercase hok) TracedWorld.sound_empty
  refine ⟨fun id hid r hr => ?_, fun event hok hsweep id hid r r' hr hdead hr' => ?_⟩
  · obtain ⟨found, hfound, hactive⟩ := hs.asleep id hid
    obtain rfl := Option.some.inj (hfound.symm.trans hr)
    exact hactive
  · have hinactive {rules : Living.ReactivationRules} (hswept :
        (Living.sweepCreatures rules s.world.toLivingWorld).creatures[id]? = some r')
        (hnot : ¬Living.Revivable rules s.world.toLivingWorld id r) : r'.active = false := by
      obtain ⟨found, hfound, hiff⟩ := Living.active_sweep_iff rules (l := s.world.toLivingWorld) hr
      obtain rfl := Option.some.inj (hfound.symm.trans hswept)
      refine Bool.eq_false_of_not_eq_true fun hactive => ?_
      rcases hiff.mp hactive with hbefore | hrevived
      · rw [hdead] at hbefore
        cases hbefore
      · exact hnot hrevived
    rcases hsweep with rfl | rfl
    · simp only [TracedWorld.step, @TracedWorld.creatures_sweep toLowercase s.world
        Living.resetRules .reset rfl] at hr'
      exact hinactive hr' (hok id r hr (.inr hid))
    · simp only [TracedWorld.step, @TracedWorld.creatures_sweep toLowercase s.world
        Living.dueRules .reactivateDue rfl] at hr'
      refine hinactive hr' fun hrevivable => ?_
      -- a summon is never due
      have hdue := hrevivable.eligible.due
      simp [Living.dueRules, (hs.unscheduled id hid r hr).2] at hdue

/-- A rat imported at the origin is copied, and the copy dies. -/
def ratSummoned : List GameEvent :=
  [.creature (.install ⟨[importedRat 1 unplacedOrigin], ∅, ∅, ∅, ∅, ∅⟩),
    .creature (.spawn "Rat" ⟨100, 100, 7⟩ 2), .creature (.deactivate dynamicIdBase)]

theorem neverRevived_ratSummoned :
    (ratSummoned.foldl (TracedWorld.step id) .empty).TemplatesSleep ∧ ∀ event,
      (ratSummoned.foldl (TracedWorld.step id) .empty).SparesTheDormant event →
        (ratSummoned.foldl (TracedWorld.step id) .empty).SummonsRest id event :=
  neverRevived id (Reaches.foldl .start ⟨trivial, trivial, trivial, trivial⟩)

/-- **A reset revives both.**  The template stands at the origin, and the dead copy is back. -/
theorem reset_revivesTemplate :
    (¬∀ events : List GameEvent, (events.foldl (TracedWorld.step id) .empty).TemplatesSleep) ∧
      ¬∀ (events : List GameEvent) (event : GameEvent),
        (events.foldl (TracedWorld.step id) .empty).SummonsRest id event := by
  have hactive {s : TracedWorld} {i : ℕ} (h : s.world.staticCreatures[i]?.map
      (fun r => r.active) = some true) : ∃ r, s.world.staticCreatures[i]? = some r ∧ r.active = true :=
    Option.map_eq_some_iff.mp h
  constructor
  · intro h
    obtain ⟨r, hr, hrevived⟩ := hactive
      (s := (ratSummoned ++ [GameEvent.creature .reset]).foldl (TracedWorld.step id) .empty) (i := 1)
      (by decide +kernel)
    rw [h (ratSummoned ++ [GameEvent.creature .reset]) 1 (by decide +kernel) r hr] at hrevived
    cases hrevived
  · intro h
    obtain ⟨r', hr', hrevived⟩ := hactive
      (s := (ratSummoned.foldl (TracedWorld.step id) .empty).step id (.creature .reset))
      (i := dynamicIdBase) (by decide +kernel)
    have hdead : (ratSummoned.foldl (TracedWorld.step id) .empty).world.staticCreatures[dynamicIdBase]?.map
        (fun r => r.active) = some false := by decide +kernel
    obtain ⟨r, hr, hfalse⟩ := Option.map_eq_some_iff.mp hdead
    rw [h ratSummoned (.creature .reset) (.inl rfl) dynamicIdBase (by decide +kernel) r r' hr hfalse
      hr'] at hrevived
    cases hrevived

end ForgottenEngine
