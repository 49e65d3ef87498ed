import ForgottenEngine.PartyRuns

/-!
# The dead stay at rest

A dead player has no health and no condition, and nobody attacks or follows him, until he respawns.
The operations with a guard keep this (`Robust`).  Those without one write vitals, conditions and
experience of dead players as of any other; in runs in which they do not (`SparesTheDead`), the
dead are at rest in every state.
-/

namespace ForgottenEngine

open Fallible

/-- No health, no condition, and nobody's target or leader on the way. -/
structure AtRest (w : GameWorld) (p : ℕ) : Prop where
  health : ∀ vitals, w.playerVitals[p]? = some vitals → vitals.health = 0
  conditions : ∀ conditions, w.playerConditions[p]? = some conditions → conditions = ∅
  unpursued : ∀ q, ¬w.Pursues q p

/-- Every dead player is at rest. -/
def DeadAtRest (w : GameWorld) : Prop := ∀ p, w.Dead p → AtRest w p

instance (w : GameWorld) (p : ℕ) : Decidable (w.Dead p) :=
  decidable_of_iff ((w.playerRespawnStates[p]?.any fun state => state.dead) = true) (by
    unfold GameWorld.Dead
    cases w.playerRespawnStates[p]? with
    | none => simp
    | some state => simp)

/-- Nothing without a guard is written for a dead player, but what is true of him. -/
def SparesTheDead (w : GameWorld) : GameEvent → Prop
  | .overwrite (.hydrateRespawnState p state) => state.dead = true → AtRest w p
  | .overwrite (.updateVitals p vitals) => w.Dead p → vitals.health = 0
  | .overwrite (.replaceConditions p conditions) => w.Dead p → conditions = ∅
  | .overwrite (.applyCondition p _) => ¬w.Dead p
  | .overwrite (.applySpeedCondition p _ _) => ¬w.Dead p
  | .overwrite (.awardExperience p raw policy gains) => w.Dead p → gains.health = 0 ∨
      ∀ player, w.players[p]? = some player → (advancedPlayer player policy raw).level ≤ player.level
  | _ => True

namespace DeadAtRest

variable {w : GameWorld}

theorem not_alive {p : ℕ} (h : w.Dead p) : ¬w.Alive p := by
  rintro ⟨state, hstate, halive⟩
  obtain ⟨state', hstate', hdead⟩ := h
  have heq : state = state' := Option.some.inj (hstate.symm.trans hstate')
  rw [heq, hdead] at halive
  cases halive

/-- Only tables that are not asked about differ. -/
theorem beside (h : DeadAtRest w) {w' : GameWorld}
    (hdead : ∀ p, w'.Dead p → w.Dead p) (hvitals : w'.playerVitals = w.playerVitals)
    (hconditions : w'.playerConditions = w.playerConditions)
    (hpursues : ∀ p q, w'.Pursues q p → w.Pursues q p) : DeadAtRest w' := by
  intro p hp
  have hrest := h p (hdead p hp)
  refine ⟨?_, ?_, fun q hq => hrest.unpursued q (hpursues p q hq)⟩
  · rw [hvitals]
    exact hrest.health
  · rw [hconditions]
    exact hrest.conditions

theorem putVitals (h : DeadAtRest w) {p : ℕ} {vitals : PlayerVitals}
    (hzero : w.Dead p → vitals.health = 0) : DeadAtRest (w.putVitals p vitals) := by
  intro q hq
  have hrest := h q hq
  refine ⟨fun v hv => ?_, hrest.conditions, hrest.unpursued⟩
  simp only [GameWorld.putVitals, Std.ExtTreeMap.getElem?_insert,
    Std.LawfulEqCmp.compare_eq_iff_eq] at hv
  split at hv
  · rename_i heq
    cases hv
    exact hzero (heq ▸ hq)
  · exact hrest.health v hv

theorem putConditions (h : DeadAtRest w) {p : ℕ} {conditions : PlayerConditions}
    (hnone : w.Dead p → conditions = ∅) : DeadAtRest (w.putConditions p conditions) := by
  intro q hq
  have hrest := h q hq
  refine ⟨hrest.health, fun c hc => ?_, hrest.unpursued⟩
  simp only [GameWorld.putConditions, Std.ExtTreeMap.getElem?_insert,
    Std.LawfulEqCmp.compare_eq_iff_eq] at hc
  split at hc
  · rename_i heq
    cases hc
    exact hnone (heq ▸ hq)
  · exact hrest.conditions c hc

/-- Who is dead after a lifecycle was written. -/
theorem dead_putRespawnState {p q : ℕ} {state : PlayerRespawnState}
    (h : (w.putRespawnState p state).Dead q) : (q = p ∧ state.dead = true) ∨ (q ≠ p ∧ w.Dead q) := by
  obtain ⟨s, hs, hdead⟩ := h
  simp only [GameWorld.putRespawnState, Std.ExtTreeMap.getElem?_insert,
    Std.LawfulEqCmp.compare_eq_iff_eq] at hs
  split at hs
  · rename_i heq
    cases hs
    exact .inl ⟨heq.symm, hdead⟩
  · rename_i hne
    exact .inr ⟨Ne.symm hne, s, hs, hdead⟩

theorem putRespawnState (h : DeadAtRest w) {p : ℕ} {state : PlayerRespawnState}
    (hrest : state.dead = true → AtRest w p) : DeadAtRest (w.putRespawnState p state) := by
  intro q hq
  have hq : AtRest w q := by
    rcases dead_putRespawnState hq with ⟨rfl, hdead⟩ | ⟨-, hdead⟩
    · exact hrest hdead
    · exact h q hdead
  exact ⟨hq.health, hq.conditions, hq.unpursued⟩

theorem narrowed (h : DeadAtRest w) {intents : BTreeMap ℕ PlayerInteractionIntent}
    (hnarrows : Narrows w.playerInteractions intents) : DeadAtRest (w.putInteractions intents) := by
  refine h.beside (fun _ hp => hp) rfl rfl fun p q hq => ?_
  obtain ⟨intent, hintent, hp⟩ := hq
  obtain ⟨old, hold, htarget, hfollow⟩ := hnarrows q intent hintent
  exact ⟨old, hold, hp.imp (htarget p) (hfollow p)⟩

/-- Nobody refers to a player whose references were cleared. -/
theorem not_pursues_clearReferences {p q : ℕ} : ¬(w.clearReferences p).Pursues q p := by
  rintro ⟨intent, hintent, hp⟩
  obtain ⟨old, -, hmap⟩ := OrderedMap.getElem?_filterMap_eq_some.mp hintent
  simp only [Option.ite_none_right_eq_some, Option.some.injEq] at hmap
  obtain ⟨-, rfl⟩ := hmap
  simp only [Living.withoutReferences] at hp
  grind

theorem narrows_clearReferences (p : ℕ) :
    Narrows w.playerInteractions (w.clearReferences p).playerInteractions := by
  refine narrows_filterMap _ fun old intent hmap => ?_
  simp only [Option.ite_none_right_eq_some, Option.some.injEq] at hmap
  obtain ⟨-, rfl⟩ := hmap
  refine ⟨fun q hq => ?_, fun q hq => ?_⟩
  · simp only [Living.withoutReferences] at hq
    grind
  · simp only [Living.withoutReferences] at hq
    grind

theorem robust : Robust DeadAtRest where
  changed := fun w hw => hw.beside (fun _ hp => hp) rfl rfl fun _ _ hq => hq
  tick := fun w _ hw => hw.beside (fun _ hp => hp) rfl rfl fun _ _ hq => hq
  inventory := by
    intro w s hframe hw
    refine hw.beside (fun p hp => ?_) rfl rfl fun _ _ hq => hq
    obtain ⟨state, hstate, hdead⟩ := hp
    have hstate : s.playerRespawnStates[p]? = some state := hstate
    rw [hframe.respawn] at hstate
    exact ⟨state, hstate, hdead⟩
  player := fun w p _ _ _ _ _ hw => hw.beside (fun _ hp => hp) rfl rfl fun _ _ hq => hq
  vitals := by
    intro w p old new hold hle hw
    refine hw.putVitals fun hdead => ?_
    have hzero := (hw p hdead).health old hold
    have hle := hle.resolve_right (not_alive hdead)
    omega
  conditions := fun w p old new _ halive hw => hw.putConditions fun hdead =>
    absurd halive (not_alive hdead)
  lifecycle := fun w p old new hold hsame hw => hw.putRespawnState fun hdead =>
    hw p ⟨old, hold, hsame.symm.trans hdead⟩
  died := by
    intro w p state vitals _ hvitals hzero hconditions hw q hq
    by_cases hqp : q = p
    · subst hqp
      refine ⟨fun v hv => ?_, fun c hc => ?_, fun k => not_pursues_clearReferences⟩
      · rw [← Option.some.inj (hvitals.symm.trans hv)]
        exact hzero
      · exact (Option.some.inj (hconditions.symm.trans hc)).symm
    · have hdead : w.Dead q := by
        rcases dead_putRespawnState hq with ⟨heq, -⟩ | ⟨-, hdead⟩
        · exact absurd heq hqp
        · exact hdead
      have hnarrowed := hw.narrowed (narrows_clearReferences p)
      have hrest := hnarrowed q hdead
      exact ⟨hrest.health, hrest.conditions, hrest.unpursued⟩
  respawned := by
    intro w p player vitals _ _ _ _ _ hw q hq
    rcases dead_putRespawnState hq with ⟨-, hdead⟩ | ⟨hne, hdead⟩
    · cases hdead
    · have hrest := hw q hdead
      refine ⟨fun v hv => ?_, hrest.conditions, hrest.unpursued⟩
      have hv : (w.playerVitals.insert p vitals)[q]? = some v := hv
      rw [Std.ExtTreeMap.getElem?_insert] at hv
      simp only [Std.LawfulEqCmp.compare_eq_iff_eq, Ne.symm hne, if_false] at hv
      exact hrest.health v hv
  intent := by
    intro w p intent _ hrefs hw q hq
    have hrest := hw q hq
    refine ⟨hrest.health, hrest.conditions, fun k hk => ?_⟩
    obtain ⟨i, hi, hkq⟩ := hk
    simp only [GameWorld.putIntent] at hi
    split at hi
    · rw [Std.ExtTreeMap.getElem?_erase] at hi
      split at hi
      · cases hi
      · exact hrest.unpursued k ⟨i, hi, hkq⟩
    · simp only [Std.ExtTreeMap.getElem?_insert, Std.LawfulEqCmp.compare_eq_iff_eq] at hi
      split at hi
      · cases hi
        rcases hrefs q hkq with hbefore | ⟨-, halive⟩
        · exact hrest.unpursued p hbefore
        · exact not_alive hq halive
      · exact hrest.unpursued k ⟨i, hi, hkq⟩
  books := by
    intro w w' hbooks hw
    obtain ⟨l⟩ := w'
    cases hbooks.living
    exact hw.beside (fun _ hp => hp) rfl rfl fun _ _ hq => hq

theorem robustEdits : RobustEdits DeadAtRest where
  narrowed := fun _ _ hnarrows hw => hw.narrowed hnarrows
  edited := fun _ _ _ _ _ _ hw => hw.beside (fun _ hp => hp) rfl rfl fun _ _ hq => hq
  moved := fun _ _ _ _ _ _ _ _ hw => hw.beside (fun _ hp => hp) rfl rfl fun _ _ hq => hq
  deactivated := fun _ _ _ _ hw => hw.beside (fun _ hp => hp) rfl rfl fun _ _ hq => hq

theorem robustRegistry : RobustRegistry DeadAtRest := by
  refine ⟨fun w creatures index intents _ hnarrows hw => ?_⟩
  refine (hw.narrowed hnarrows).beside (fun _ hp => hp) rfl rfl fun _ _ hq => hq

theorem overwritten {w w' : GameWorld} {event : OverwriteEvent}
    (hok : SparesTheDead w (.overwrite event)) (hw : DeadAtRest w) (h : event.Writes w w') :
    DeadAtRest w' := by
  cases h with
  | lifecycle => exact hw.putRespawnState hok
  | vitals => exact hw.putVitals hok
  | conditions => exact hw.putConditions hok
  | condition => exact hw.putConditions fun hdead => absurd hdead hok
  | haste => exact hw.putConditions fun hdead => absurd hdead hok
  | experience => exact hw.beside (fun _ hp => hp) rfl rfl fun _ _ hq => hq
  | @levels p raw policy gains player vitals n hplayer hvitals hlevel =>
    have hmoved : DeadAtRest (w.putPlayer p (advancedPlayer player policy raw)) :=
      hw.beside (fun _ hp => hp) rfl rfl fun _ _ hq => hq
    refine hmoved.putVitals fun hdead => ?_
    have hzero := (hw p hdead).health vitals hvitals
    rcases hok hdead with hgains | hnone
    · simp [VocationLevelUpGains.apply, VocationLevelUpGains.scaledAmount, hgains, hzero]
    · exact absurd (hnone player hplayer) (Nat.not_le_of_lt hlevel)
  | frag => exact hw.beside (fun _ hp => hp) rfl rfl fun _ _ hq => hq

theorem added {w : GameWorld} (hw : DeadAtRest w) (player : Player) (vitals : PlayerVitals)
    (progression : PlayerProgression) : DeadAtRest (w.added player vitals progression) := by
  intro q hq
  obtain ⟨state, hstate, hdead⟩ := hq
  have hother : ¬player.id = q ∧ w.playerRespawnStates[q]? = some state := by
    simp only [GameWorld.added, Std.ExtTreeMap.getElem?_insert,
      Std.LawfulEqCmp.compare_eq_iff_eq] at hstate
    split at hstate
    · cases hstate
      cases hdead
    · exact ⟨‹_›, hstate⟩
  have hrest := hw q ⟨state, hother.2, hdead⟩
  refine ⟨fun v hv => ?_, fun c hc => ?_, hrest.unpursued⟩
  · simp only [GameWorld.added, Std.ExtTreeMap.getElem?_insert,
      Std.LawfulEqCmp.compare_eq_iff_eq, hother.1, if_false] at hv
    exact hrest.health v hv
  · simp only [GameWorld.added, Std.ExtTreeMap.getElem?_insert,
      Std.LawfulEqCmp.compare_eq_iff_eq, hother.1, if_false] at hc
    exact hrest.conditions c hc

theorem removed {w : GameWorld} (hw : DeadAtRest w) (p : ℕ) : DeadAtRest (w.removed p) := by
  intro q hq
  have hbefore {α : Type} {table : BTreeMap ℕ α} {x : α} (h : (table.erase p)[q]? = some x) :
      table[q]? = some x := by
    rw [Std.ExtTreeMap.getElem?_erase] at h
    split at h
    · cases h
    · exact h
  obtain ⟨state, hstate, hdead⟩ := hq
  have hrest := hw q ⟨state, hbefore hstate, hdead⟩
  refine ⟨fun v hv => hrest.health v (hbefore hv), fun c hc => hrest.conditions c (hbefore hc), ?_⟩
  rintro k ⟨intent, hintent, hkq⟩
  obtain ⟨old, hold, hmap⟩ := OrderedMap.getElem?_filterMap_eq_some.mp hintent
  simp only [Option.ite_none_right_eq_some, Option.some.injEq] at hmap
  obtain ⟨-, rfl⟩ := hmap
  refine hrest.unpursued k ⟨old, ?_, ?_⟩
  · rw [Std.ExtTreeMap.getElem?_erase] at hold
    split at hold
    · cases hold
    · exact hold
  · simp only [Living.withoutReferences] at hkq
    grind

theorem step (toLowercase : String → String) {w : GameWorld} (hw : DeadAtRest w)
    {event : GameEvent} (hok : SparesTheDead w event) : DeadAtRest (event.step toLowercase w) := by
  have hchanged := robust.changed
  show Leaves DeadAtRest (event.perform toLowercase) w
  cases event with
  | addPlayer player vitals progression =>
    exact leaves_addPlayer hchanged hw fun _ _ => hw.added player vitals progression
  | removePlayer p => exact leaves_void.mpr (leaves_removePlayer hchanged hw fun _ => hw.removed p)
  | inventory e => exact robust.stays_inventory e w hw
  | player e => exact robust.stays_player e w hw
  | upkeep e => exact robust.stays_upkeep e w hw
  | overwrite e => exact leaves_overwrite e hchanged hw fun w' hwrites => overwritten hok hw hwrites
  | creature e =>
    by_cases hedits : e.EditsOnly
    · exact robustEdits.stays_edits robust toLowercase hedits w hw
    · exact robustRegistry.stays_registry robust toLowercase hedits w hw
  | party e =>
    exact leaves_party hchanged hw e fun t' _ =>
      hw.beside (fun _ hp => hp) rfl rfl fun _ _ hq => hq

end DeadAtRest

/-- **The dead stay at rest**, in every run in which the operations without a guard write nothing
for a dead player but what is true of him. -/
theorem deadAtRest (toLowercase : String → String) {w : GameWorld}
    (h : Reaches (GameEvent.step toLowercase) SparesTheDead .empty w) : DeadAtRest w :=
  h.invariant (P := DeadAtRest) (fun _ _ hw hok => hw.step toLowercase hok) fun p hp => by
    obtain ⟨state, hstate, -⟩ := hp
    simp [GameWorld.empty, LivingWorld.empty, WorldState.empty] at hstate

/-- A map with nothing but the temple of town 1. -/
def templeMap : WorldMap where
  identifier := "temple"
  spawn := ⟨95, 95, 7⟩
  tiles := ∅
  source := .feMapV1
  tileItems := ∅
  tileFlags := ∅
  houseTiles := ∅
  towns := KeyedMap.empty.insert ⟨1, "Town", ⟨95, 95, 7⟩⟩
  waypoints := ∅
  bounded := WorldMap.bounded_empty

/-- Enough experience for a level, and what a level brings. -/
def levelGained (p : ℕ) : GameEvent :=
  .overwrite (.awardExperience p 100 ⟨1, []⟩ { health := 5 })

/-- A knight gains a level, is attacked, and dies. -/
def knightDies : List GameEvent :=
  [knightEnters 7 100, knightEnters 8 101, levelGained 7, .player (.setTarget 8 (some 7)),
    .player (.death 7 1 templeMap)]

theorem deadAtRest_knightDies : DeadAtRest (knightDies.foldl (GameEvent.step id) .empty) :=
  deadAtRest id (Reaches.foldl .start
    ⟨trivial, trivial, fun hdead => absurd hdead (by decide +kernel), trivial, trivial, trivial⟩)

/-- **A dead player recovers.**  A level gained after death brings health. -/
theorem levelGained_afterDeath : ¬∀ events : List GameEvent,
    DeadAtRest (events.foldl (GameEvent.step id) .empty) := by
  intro h
  let run : List GameEvent := knightDies ++ [levelGained 7]
  have hdead : (run.foldl (GameEvent.step id) .empty).Dead 7 := by decide +kernel
  have hhealth : (run.foldl (GameEvent.step id) .empty).playerVitals[7]?.map
      (fun vitals => vitals.health) = some 5 := by decide +kernel
  obtain ⟨vitals, hvitals, hfive⟩ := Option.map_eq_some_iff.mp hhealth
  have hzero := (h run 7 hdead).health vitals hvitals
  rw [hzero] at hfive
  cases hfive

end ForgottenEngine
