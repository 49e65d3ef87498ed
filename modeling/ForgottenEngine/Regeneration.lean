import ForgottenEngine.Library.Accrual
import ForgottenEngine.GameEvents

/-!
# Regeneration in pieces

The host calls the regeneration of a player every few moments, with the seconds since the last call.
Two schedules and the food window each carry what did not complete an interval, so the pieces the
seconds come in do not matter.

* `Recovery` — what one call reads and writes of a player;
* `Recovery.after` — what time does to it in theory: three counters and two levels under a cap;
* `applyPlayerRegeneration_run` — what one call does, with its narrow numbers;
  `regenerated_eq_after` — that it is what time does in theory;
* `regeneration_splits` — two calls are one, and each call reports what it restores.
-/

namespace ForgottenEngine

open Accrual Fallible

/-! ### What time does -/

/-- The intervals a window completes, when it is still open. -/
def PlayerFoodWindow.meals (self : PlayerFoodWindow) (tick elapsed : ℕ) : ℕ :=
  if self.untilTick ≤ tick then 0
  else events foodRegenerationIntervalSeconds self.elapsedSeconds elapsed

/-- The window afterwards. -/
def PlayerFoodWindow.after (self : PlayerFoodWindow) (tick elapsed : ℕ) : PlayerFoodWindow :=
  if self.untilTick ≤ tick then self
  else { self with
    elapsedSeconds := carried foodRegenerationIntervalSeconds self.elapsedSeconds elapsed }

/-- What regeneration reads and writes of one player. -/
@[ext]
structure Recovery where
  vitals : PlayerVitals
  schedule : PlayerRegenerationSchedule
  window : Option PlayerFoodWindow

namespace Recovery

variable (self : Recovery) (rules : PlayerRegenerationRules) (tick elapsed : ℕ)

/-- The health that becomes due. -/
def healthDue : ℕ :=
  rules.health.amount *
      events rules.health.intervalSeconds self.schedule.healthElapsedSeconds elapsed +
    foodRegenerationHealthPerInterval * self.window.elim 0 fun window => window.meals tick elapsed

/-- The mana that becomes due. -/
def manaDue : ℕ :=
  rules.mana.amount * events rules.mana.intervalSeconds self.schedule.manaElapsedSeconds elapsed

/-- What time does to a player: the counters go on, and what is due is put on the levels. -/
def after : Recovery where
  vitals := { self.vitals with
    health := filled self.vitals.maxHealth self.vitals.health (self.healthDue rules tick elapsed)
    mana := filled self.vitals.maxMana self.vitals.mana (self.manaDue rules elapsed) }
  schedule :=
    ⟨carried rules.health.intervalSeconds self.schedule.healthElapsedSeconds elapsed,
      carried rules.mana.intervalSeconds self.schedule.manaElapsedSeconds elapsed⟩
  window := self.window.map fun window => window.after tick elapsed

end Recovery

theorem PlayerFoodWindow.after_add (self : PlayerFoodWindow) (tick a b : ℕ) :
    (self.after tick a).after tick b = self.after tick (a + b) := by
  by_cases h : self.untilTick ≤ tick
  · rw [after, after, if_pos h, if_pos h, after, if_pos h]
  · have hopen : ¬(self.after tick a).untilTick ≤ tick := by
      rw [after, if_neg h]
      exact h
    rw [after, if_neg hopen, after, if_neg h, after, if_neg h, carried_add]

theorem PlayerFoodWindow.meals_add (self : PlayerFoodWindow) (tick a b : ℕ) :
    self.meals tick a + (self.after tick a).meals tick b = self.meals tick (a + b) := by
  by_cases h : self.untilTick ≤ tick
  · rw [after, if_pos h, meals, meals, meals, if_pos h, if_pos h, if_pos h]
  · have hopen : ¬(self.after tick a).untilTick ≤ tick := by
      rw [after, if_neg h]
      exact h
    rw [meals, if_neg h, meals, if_neg hopen, meals, if_neg h, after, if_neg h]
    exact events_add (by decide) _ _ _

namespace Recovery

variable (self : Recovery) (rules : PlayerRegenerationRules) (tick : ℕ)

theorem healthDue_add (a b : ℕ) :
    self.healthDue rules tick a + (self.after rules tick a).healthDue rules tick b =
      self.healthDue rules tick (a + b) := by
  have hevents := events_add rules.health.interval_pos self.schedule.healthElapsedSeconds a b
  have hmeals : (self.window.elim 0 fun window => window.meals tick a) +
      ((self.after rules tick a).window.elim 0 fun window => window.meals tick b) =
        self.window.elim 0 fun window => window.meals tick (a + b) := by
    rw [after]
    cases self.window with
    | none => rfl
    | some window => exact window.meals_add tick a b
  rw [healthDue, healthDue, healthDue, ← hevents, ← hmeals, Nat.mul_add, Nat.mul_add]
  show _ + (rules.health.amount * events rules.health.intervalSeconds
    (carried rules.health.intervalSeconds self.schedule.healthElapsedSeconds a) b + _) = _
  omega

theorem manaDue_add (a b : ℕ) :
    self.manaDue rules a + (self.after rules tick a).manaDue rules b =
      self.manaDue rules (a + b) := by
  rw [manaDue, manaDue, manaDue, ← events_add rules.mana.interval_pos, Nat.mul_add]
  rfl

/-- The pieces do not matter. -/
theorem after_add (a b : ℕ) :
    (self.after rules tick a).after rules tick b = self.after rules tick (a + b) := by
  have hhealth : ((self.after rules tick a).after rules tick b).vitals =
      (self.after rules tick (a + b)).vitals := by
    have hlevel := filled_add self.vitals.maxHealth self.vitals.health
      (self.healthDue rules tick a) ((self.after rules tick a).healthDue rules tick b)
    have hmana := filled_add self.vitals.maxMana self.vitals.mana
      (self.manaDue rules a) ((self.after rules tick a).manaDue rules b)
    rw [healthDue_add] at hlevel
    rw [manaDue_add] at hmana
    exact congrArg₂ (fun health mana => { self.vitals with health := health, mana := mana })
      hlevel hmana
  have hschedule : ((self.after rules tick a).after rules tick b).schedule =
      (self.after rules tick (a + b)).schedule := by
    show PlayerRegenerationSchedule.mk (carried _ (carried _ _ _) _) (carried _ (carried _ _ _) _) =
      PlayerRegenerationSchedule.mk (carried _ _ _) (carried _ _ _)
    rw [carried_add, carried_add]
  have hwindow : ((self.after rules tick a).after rules tick b).window =
      (self.after rules tick (a + b)).window := by
    show (self.window.map _).map _ = self.window.map _
    cases self.window with
    | none => rfl
    | some window => exact congrArg some (window.after_add tick a b)
  exact Recovery.ext hhealth hschedule hwindow

/-! ### What one call does -/

def healthGained (elapsed : ℕ) : ℕ :=
  regenerationGain self.vitals.health self.vitals.maxHealth rules.health.amount
    (advanceRegenerationSchedule self.schedule.healthElapsedSeconds rules.health.intervalSeconds
      elapsed).1

def manaGained (elapsed : ℕ) : ℕ :=
  regenerationGain self.vitals.mana self.vitals.maxMana rules.mana.amount
    (advanceRegenerationSchedule self.schedule.manaElapsedSeconds rules.mana.intervalSeconds
      elapsed).1

/-- What the window restores, after the schedule did, and the window afterwards. -/
def fed (elapsed : ℕ) : Option (ℕ × PlayerFoodWindow) :=
  self.window.map fun window => window.feed tick elapsed
    (self.vitals.health + self.healthGained rules elapsed) self.vitals.maxHealth

def foodGained (elapsed : ℕ) : ℕ := (self.fed rules tick elapsed).elim 0 Prod.fst

/-- What one call leaves of a living player. -/
def regenerated (elapsed : ℕ) : Recovery where
  vitals := { self.vitals with
    health := self.vitals.health + self.healthGained rules elapsed +
      self.foodGained rules tick elapsed
    mana := self.vitals.mana + self.manaGained rules elapsed }
  schedule :=
    ⟨(advanceRegenerationSchedule self.schedule.healthElapsedSeconds rules.health.intervalSeconds
        elapsed).2,
      (advanceRegenerationSchedule self.schedule.manaElapsedSeconds rules.mana.intervalSeconds
        elapsed).2⟩
  window := (self.fed rules tick elapsed).map Prod.snd

/-- The maxima are 16-bit numbers. -/
def Typed : Prop := self.vitals.maxHealth ≤ u16Max ∧ self.vitals.maxMana ≤ u16Max

/-- No counter leaves 16 bits within the elapsed seconds. -/
structure Fits (r : Recovery) (elapsed : ℕ) : Prop where
  health : r.schedule.healthElapsedSeconds + elapsed ≤ u16Max
  mana : r.schedule.manaElapsedSeconds + elapsed ≤ u16Max
  window : ∀ window, r.window = some window → window.elapsedSeconds + elapsed ≤ u16Max

/-- Every counter is below its interval. -/
structure Below (r : Recovery) (rules : PlayerRegenerationRules) : Prop where
  health : r.schedule.healthElapsedSeconds < rules.health.intervalSeconds
  mana : r.schedule.manaElapsedSeconds < rules.mana.intervalSeconds
  window : ∀ window, r.window = some window →
    window.elapsedSeconds < foodRegenerationIntervalSeconds

end Recovery

theorem regenerationGain_le {current maximum : ℕ} (amount n : ℕ) (h : current ≤ maximum) :
    current + regenerationGain current maximum amount n ≤ maximum := by
  rw [regenerationGain]
  omega

/-- A gain in 16 bits fills the level, since the maximum is one of 16 bits. -/
theorem add_regenerationGain {current maximum : ℕ} (amount n : ℕ) (h : maximum ≤ u16Max) :
    current + regenerationGain current maximum amount n =
      filled maximum current (amount * n) := by
  rw [regenerationGain, filled]
  have hu16 : u16Max ≤ u32Max := by decide
  omega

theorem advanceRegenerationSchedule_eq {elapsed delta : ℕ} (interval : ℕ)
    (h : elapsed + delta ≤ u16Max) :
    advanceRegenerationSchedule elapsed interval delta =
      (events interval elapsed delta, carried interval elapsed delta) := by
  show (min (elapsed + delta) u16Max / interval, min (elapsed + delta) u16Max % interval) = _
  rw [Nat.min_eq_left h]
  rfl

theorem advanceRegenerationSchedule_lt {interval : ℕ} (h : 0 < interval) (elapsed delta : ℕ) :
    (advanceRegenerationSchedule elapsed interval delta).2 < interval := Nat.mod_lt _ h

theorem PlayerFoodWindow.feed_fst_le (self : PlayerFoodWindow) (tick elapsed health maximum : ℕ) :
    (self.feed tick elapsed health maximum).1 ≤ maximum - health := by
  rw [feed]
  split
  · exact Nat.zero_le _
  · dsimp only
    split
    · exact Nat.zero_le _
    · exact Nat.min_le_right _ _

/-- A window below its interval stays there. -/
theorem PlayerFoodWindow.feed_snd_lt (self : PlayerFoodWindow) (tick elapsed health maximum : ℕ)
    (h : self.elapsedSeconds < foodRegenerationIntervalSeconds) :
    (self.feed tick elapsed health maximum).2.elapsedSeconds < foodRegenerationIntervalSeconds := by
  rw [feed]
  split
  · exact h
  · dsimp only
    split
    · next hzero =>
      exact Nat.lt_of_div_eq_zero (by decide) hzero
    · exact Nat.mod_lt _ (by decide)

theorem PlayerFoodWindow.feed_eq (self : PlayerFoodWindow) {elapsed : ℕ}
    (tick health maximum : ℕ) (h : self.elapsedSeconds + elapsed ≤ u16Max) :
    health + (self.feed tick elapsed health maximum).1 =
        filled maximum health (foodRegenerationHealthPerInterval * self.meals tick elapsed) ∧
      (self.feed tick elapsed health maximum).2 = self.after tick elapsed := by
  rw [feed, meals, after]
  by_cases hopen : self.untilTick ≤ tick
  · rw [if_pos hopen, if_pos hopen, if_pos hopen]
    exact ⟨(filled_zero maximum health).symm, rfl⟩
  · rw [if_neg hopen, if_neg hopen, if_neg hopen]
    dsimp only
    rw [Nat.min_eq_left h]
    have hnarrow : (self.elapsedSeconds + elapsed) / foodRegenerationIntervalSeconds ≤ u16Max :=
      le_trans (Nat.div_le_self _ _) h
    by_cases hzero : (self.elapsedSeconds + elapsed) / foodRegenerationIntervalSeconds = 0
    · rw [if_pos hzero]
      have hless : self.elapsedSeconds + elapsed < foodRegenerationIntervalSeconds :=
        Nat.lt_of_div_eq_zero (by decide) hzero
      refine ⟨?_, ?_⟩
      · rw [events, hzero]
        exact (filled_zero maximum health).symm
      · rw [carried, Nat.mod_eq_of_lt hless]
    · rw [if_neg hzero]
      refine ⟨?_, rfl⟩
      rw [foodRegenerationHealthPerInterval, events, Nat.one_mul, Nat.min_eq_left hnarrow]
      exact add_min_room ..

namespace Recovery

variable (self : Recovery) (rules : PlayerRegenerationRules) (tick elapsed : ℕ)

/-- The narrow numbers of the code do what time does. -/
theorem regenerated_eq_after (htyped : self.Typed) (hfits : self.Fits elapsed) :
    self.regenerated rules tick elapsed = self.after rules tick elapsed := by
  have hgained : self.vitals.health + self.healthGained rules elapsed =
      filled self.vitals.maxHealth self.vitals.health (rules.health.amount *
        events rules.health.intervalSeconds self.schedule.healthElapsedSeconds elapsed) := by
    rw [healthGained, advanceRegenerationSchedule_eq _ hfits.health]
    exact add_regenerationGain _ _ htyped.1
  have hmana : self.vitals.mana + self.manaGained rules elapsed =
      filled self.vitals.maxMana self.vitals.mana (self.manaDue rules elapsed) := by
    rw [manaGained, advanceRegenerationSchedule_eq _ hfits.mana]
    exact add_regenerationGain _ _ htyped.2
  -- the window comes after the schedule, and finds the level the schedule left
  have hfed : self.vitals.health + self.healthGained rules elapsed +
        self.foodGained rules tick elapsed =
      filled self.vitals.maxHealth self.vitals.health (self.healthDue rules tick elapsed) ∧
      (self.fed rules tick elapsed).map Prod.snd =
        self.window.map fun window => window.after tick elapsed := by
    rw [foodGained, fed, hgained, healthDue, ← filled_add]
    cases hwindow : self.window with
    | none => exact ⟨(filled_zero _ _).symm, rfl⟩
    | some window =>
      have heq := window.feed_eq tick
        (filled self.vitals.maxHealth self.vitals.health (rules.health.amount *
          events rules.health.intervalSeconds self.schedule.healthElapsedSeconds elapsed))
        self.vitals.maxHealth (hfits.window window hwindow)
      exact ⟨heq.1, congrArg some heq.2⟩
  have hschedule : (self.regenerated rules tick elapsed).schedule =
      (self.after rules tick elapsed).schedule := by
    rw [regenerated, advanceRegenerationSchedule_eq _ hfits.health,
      advanceRegenerationSchedule_eq _ hfits.mana]
    rfl
  refine Recovery.ext ?_ hschedule hfed.2
  exact congrArg₂ (fun health mana => { self.vitals with health := health, mana := mana })
    hfed.1 hmana

theorem window_of_regenerated {r : Recovery} {rules : PlayerRegenerationRules} {tick elapsed : ℕ}
    (h : (r.regenerated rules tick elapsed).window = none) : r.window = none :=
  Option.map_eq_none_iff.mp (Option.map_eq_none_iff.mp h)

theorem typed_after (h : self.Typed) : (self.after rules tick elapsed).Typed := h

theorem fits_of_le {a b : ℕ} (h : self.Fits b) (hab : a ≤ b) : self.Fits a where
  health := le_trans (Nat.add_le_add_left hab _) h.health
  mana := le_trans (Nat.add_le_add_left hab _) h.mana
  window window hwindow := le_trans (Nat.add_le_add_left hab _) (h.window window hwindow)

theorem fits_after {a b : ℕ} (h : self.Fits (a + b)) : (self.after rules tick a).Fits b := by
  refine ⟨?_, ?_, ?_⟩
  · have hle := carried_le rules.health.intervalSeconds self.schedule.healthElapsedSeconds a
    have hfits := h.health
    show carried _ _ _ + b ≤ u16Max
    omega
  · have hle := carried_le rules.mana.intervalSeconds self.schedule.manaElapsedSeconds a
    have hfits := h.mana
    show carried _ _ _ + b ≤ u16Max
    omega
  · intro left hleft
    obtain ⟨window, hwindow, hleft⟩ := Option.map_eq_some_iff.mp hleft
    have hfits := h.window window hwindow
    subst hleft
    rw [PlayerFoodWindow.after]
    split
    · omega
    · have hle := carried_le foodRegenerationIntervalSeconds window.elapsedSeconds a
      show carried _ _ _ + b ≤ u16Max
      omega

theorem below_regenerated (h : self.Below rules) :
    (self.regenerated rules tick elapsed).Below rules := by
  refine ⟨?_, ?_, ?_⟩
  · exact advanceRegenerationSchedule_lt rules.health.interval_pos _ _
  · exact advanceRegenerationSchedule_lt rules.mana.interval_pos _ _
  · intro left hleft
    obtain ⟨fed, hfed, hleft⟩ := Option.map_eq_some_iff.mp hleft
    obtain ⟨window, hwindow, hfed⟩ := Option.map_eq_some_iff.mp hfed
    subst hleft hfed
    exact window.feed_snd_lt _ _ _ _ (h.window window hwindow)

theorem health_regenerated_le (h : self.vitals.health ≤ self.vitals.maxHealth) :
    (self.regenerated rules tick elapsed).vitals.health ≤ self.vitals.maxHealth := by
  have hgained : self.vitals.health + self.healthGained rules elapsed ≤ self.vitals.maxHealth :=
    regenerationGain_le _ _ h
  have hfood : self.foodGained rules tick elapsed ≤
      self.vitals.maxHealth - (self.vitals.health + self.healthGained rules elapsed) := by
    rw [foodGained, fed]
    cases self.window with
    | none => exact Nat.zero_le _
    | some window => exact window.feed_fst_le _ _ _ _
  show self.vitals.health + self.healthGained rules elapsed + _ ≤ _
  omega

theorem mana_regenerated_le (h : self.vitals.mana ≤ self.vitals.maxMana) :
    (self.regenerated rules tick elapsed).vitals.mana ≤ self.vitals.maxMana :=
  regenerationGain_le _ _ h

end Recovery

/-! ### The tables -/

namespace GameWorld

/-- What regeneration reads of one player. -/
def recovery (w : GameWorld) (p : ℕ) : Option Recovery :=
  w.playerVitals[p]?.bind fun vitals => w.playerRegenerationSchedules[p]?.map fun schedule =>
    ⟨vitals, schedule, w.playerFoodWindows[p]?⟩

/-- The player has been left with `r`, and everybody else as before. -/
structure Restored (w : GameWorld) (p : ℕ) (r : Recovery) (left : GameWorld) : Prop where
  vitals : ∀ q, left.playerVitals[q]? = if p = q then some r.vitals else w.playerVitals[q]?
  schedules : ∀ q, left.playerRegenerationSchedules[q]? =
    if p = q then some r.schedule else w.playerRegenerationSchedules[q]?
  windows : ∀ q, left.playerFoodWindows[q]? =
    if p = q then r.window else w.playerFoodWindows[q]?
  tick : left.tick = w.tick
  states : left.playerRespawnStates = w.playerRespawnStates

/-- The vitals and the carried counters of all players are the same. -/
def SameRecovery (w left : GameWorld) : Prop :=
  left.playerVitals = w.playerVitals ∧
    left.playerRegenerationSchedules = w.playerRegenerationSchedules ∧
    left.playerFoodWindows = w.playerFoodWindows

variable {w left : GameWorld} {p : ℕ} {r : Recovery}

theorem recovery_eq_some (h : w.recovery p = some r) : w.playerVitals[p]? = some r.vitals ∧
    w.playerRegenerationSchedules[p]? = some r.schedule ∧ w.playerFoodWindows[p]? = r.window := by
  obtain ⟨vitals, hvitals, h⟩ := Option.bind_eq_some_iff.mp h
  obtain ⟨schedule, hschedule, h⟩ := Option.map_eq_some_iff.mp h
  subst h
  exact ⟨hvitals, hschedule, rfl⟩

theorem Restored.recovery (h : Restored w p r left) : left.recovery p = some r := by
  rw [GameWorld.recovery, h.vitals, h.schedules, h.windows, if_pos rfl, if_pos rfl, if_pos rfl]
  rfl

/-- The last of two writes counts. -/
theorem Restored.trans {r' : Recovery} {last : GameWorld} (h : Restored w p r left)
    (h' : Restored left p r' last) : Restored w p r' last := by
  refine ⟨?_, ?_, ?_, h'.tick.trans h.tick, h'.states.trans h.states⟩
  · intro q
    rw [h'.vitals, h.vitals]
    split <;> rfl
  · intro q
    rw [h'.schedules, h.schedules]
    split <;> rfl
  · intro q
    rw [h'.windows, h.windows]
    split <;> rfl

theorem Restored.same {left' : GameWorld} (h : Restored w p r left) (h' : Restored w p r left') :
    SameRecovery left left' := by
  refine ⟨?_, ?_, ?_⟩
  · exact Std.ExtTreeMap.ext_getElem? fun q => (h'.vitals q).trans (h.vitals q).symm
  · exact Std.ExtTreeMap.ext_getElem? fun q => (h'.schedules q).trans (h.schedules q).symm
  · exact Std.ExtTreeMap.ext_getElem? fun q => (h'.windows q).trans (h.windows q).symm

/-- Without a window to write, the windows stay, and there was none. -/
theorem putFoodWindow_window {window : Option PlayerFoodWindow}
    (hnone : window = none → w.playerFoodWindows[p]? = none) (q : ℕ) :
    (w.putFoodWindow p window).playerFoodWindows[q]? =
      if p = q then window else w.playerFoodWindows[q]? := by
  cases window with
  | none =>
    show w.playerFoodWindows[q]? = _
    split
    · next heq => rw [← heq, hnone rfl]
    · rfl
  | some window =>
    show (w.playerFoodWindows.insert p window)[q]? = _
    simp [Std.ExtTreeMap.getElem?_insert]

/-- Writing the value that is there already changes nothing. -/
theorem restored_vitals_of_same (hvitals : w.playerVitals[p]? = some r.vitals) (q : ℕ) :
    w.playerVitals[q]? = if p = q then some r.vitals else w.playerVitals[q]? := by
  split
  · next heq => rw [← heq, hvitals]
  · rfl

end GameWorld

namespace Game

variable {w left : GameWorld} {p : ℕ} {r : Recovery}

/-- **One call.** -/
theorem applyPlayerRegeneration_run {elapsed : ℕ} (rules : PlayerRegenerationRules)
    (hr : w.recovery p = some r) (halive : w.Alive p) (helapsed : elapsed ≠ 0) :
    ∃ left, applyPlayerRegeneration p rules elapsed w =
        (.ok ⟨p, r.healthGained rules (min elapsed maxRegenerationElapsedSeconds) +
            r.foodGained rules w.tick (min elapsed maxRegenerationElapsedSeconds),
          r.manaGained rules (min elapsed maxRegenerationElapsedSeconds),
          (r.regenerated rules w.tick (min elapsed maxRegenerationElapsedSeconds)).vitals⟩, left) ∧
      w.Restored p (r.regenerated rules w.tick (min elapsed maxRegenerationElapsedSeconds))
        left := by
  obtain ⟨hvitals, hschedule, hwindow⟩ := GameWorld.recovery_eq_some hr
  obtain ⟨state, hstate, hlives⟩ := halive
  have hgo : ¬(state.dead = true ∨ elapsed = 0) := by simp [hlives, helapsed]
  have hvread : playerVitals p w = (.ok r.vitals, w) :=
    readOr_of_some (f := fun u : GameWorld => u.playerVitals[p]?) _ hvitals
  have hsread : playerRespawnState p w = (.ok state, w) :=
    readOr_of_some (f := fun u : GameWorld => u.playerRespawnStates[p]?) _ hstate
  have heread : entryOf GameWorld.playerRegenerationSchedules p w = (.ok r.schedule, w) :=
    readOr_of_some (f := fun u : GameWorld => u.playerRegenerationSchedules[p]?) _ hschedule
  generalize he : min elapsed maxRegenerationElapsedSeconds = e
  rw [applyPlayerRegeneration, bind_of_ok hvread, bind_of_ok hsread, if_neg hgo]
  dsimp only
  rw [he, bind_of_ok heread]
  rw [bind_of_ok (write_apply _ _), bind_of_ok (read_apply _ _), bind_of_ok (write_apply _ _)]
  dsimp only
  rw [hwindow]
  -- the schedules and the window are written whatever they restore
  let counted : GameWorld := ({ w with playerRegenerationSchedules :=
    w.playerRegenerationSchedules.insert p (r.regenerated rules w.tick e).schedule }).putFoodWindow p
      (r.regenerated rules w.tick e).window
  let outcome : PlayerRegenerationOutcome := ⟨p, r.healthGained rules e + r.foodGained rules w.tick e,
    r.manaGained rules e, (r.regenerated rules w.tick e).vitals⟩
  show ∃ left, (if 0 < r.healthGained rules e ∨ 0 < r.manaGained rules e ∨
      0 < r.foodGained rules w.tick e then do
        write (·.putVitals p (r.regenerated rules w.tick e).vitals)
        markChanged
        pure outcome
      else pure outcome : GameM PlayerRegenerationOutcome) counted = (.ok outcome, left) ∧ _
  have hrestored : ∀ {left : GameWorld}, (∀ q, left.playerVitals[q]? =
      if p = q then some (r.regenerated rules w.tick e).vitals else w.playerVitals[q]?) →
      left.playerRegenerationSchedules = counted.playerRegenerationSchedules →
      left.playerFoodWindows = counted.playerFoodWindows → left.tick = w.tick →
      left.playerRespawnStates = w.playerRespawnStates →
      w.Restored p (r.regenerated rules w.tick e) left := by
    intro left hv hs hf ht hr
    refine ⟨hv, ?_, ?_, ht, hr⟩
    · intro q
      rw [hs]
      show (w.playerRegenerationSchedules.insert p _)[q]? = _
      simp [Std.ExtTreeMap.getElem?_insert]
    · intro q
      rw [hf]
      exact GameWorld.putFoodWindow_window (fun hnone => by
        rw [hwindow]
        exact Recovery.window_of_regenerated hnone) q
  split
  · refine ⟨_, rfl, hrestored ?_ rfl rfl rfl rfl⟩
    intro q
    show (w.playerVitals.insert p _)[q]? = _
    simp [Std.ExtTreeMap.getElem?_insert]
  · next hnothing =>
    have hsame : (r.regenerated rules w.tick e).vitals = r.vitals := by
      have hzero : r.healthGained rules e = 0 ∧ r.manaGained rules e = 0 ∧
          r.foodGained rules w.tick e = 0 := by
        omega
      rw [Recovery.regenerated, hzero.1, hzero.2.1, hzero.2.2]
      rfl
    refine ⟨_, rfl, hrestored ?_ rfl rfl rfl rfl⟩
    intro q
    rw [hsame]
    exact GameWorld.restored_vitals_of_same hvitals q

/-- Without vitals or a respawn state there is nobody to regenerate. -/
theorem applyPlayerRegeneration_unknown (rules : PlayerRegenerationRules) (elapsed : ℕ)
    (h : w.playerVitals[p]? = none ∨ w.playerRespawnStates[p]? = none) :
    applyPlayerRegeneration p rules elapsed w = (.error (.unknownPlayer p), w) := by
  cases hvitals : w.playerVitals[p]? with
  | none =>
    have hvread : playerVitals p w = (.error (.unknownPlayer p), w) :=
      readOr_of_none (f := fun u : GameWorld => u.playerVitals[p]?) _ hvitals
    exact bind_of_error hvread
  | some vitals =>
    have hvread : playerVitals p w = (.ok vitals, w) :=
      readOr_of_some (f := fun u : GameWorld => u.playerVitals[p]?) _ hvitals
    have hstate : w.playerRespawnStates[p]? = none := by simpa [hvitals] using h
    have hsread : playerRespawnState p w = (.error (.unknownPlayer p), w) :=
      readOr_of_none (f := fun u : GameWorld => u.playerRespawnStates[p]?) _ hstate
    rw [applyPlayerRegeneration, bind_of_ok hvread, bind_of_error hsread]

/-- The dead do not regenerate, and nobody does in no time. -/
theorem applyPlayerRegeneration_idle (rules : PlayerRegenerationRules) {elapsed : ℕ}
    {vitals : PlayerVitals} {state : PlayerRespawnState}
    (hvitals : w.playerVitals[p]? = some vitals) (hstate : w.playerRespawnStates[p]? = some state)
    (hidle : state.dead = true ∨ elapsed = 0) :
    applyPlayerRegeneration p rules elapsed w = (.ok ⟨p, 0, 0, vitals⟩, w) := by
  have hvread : playerVitals p w = (.ok vitals, w) :=
    readOr_of_some (f := fun u : GameWorld => u.playerVitals[p]?) _ hvitals
  have hsread : playerRespawnState p w = (.ok state, w) :=
    readOr_of_some (f := fun u : GameWorld => u.playerRespawnStates[p]?) _ hstate
  rw [applyPlayerRegeneration, bind_of_ok hvread, bind_of_ok hsread, if_pos hidle]
  rfl

theorem applyPlayerRegeneration_unscheduled (rules : PlayerRegenerationRules) {elapsed : ℕ}
    {vitals : PlayerVitals} (hvitals : w.playerVitals[p]? = some vitals) (halive : w.Alive p)
    (hschedule : w.playerRegenerationSchedules[p]? = none) (helapsed : elapsed ≠ 0) :
    applyPlayerRegeneration p rules elapsed w = (.error (.unknownPlayer p), w) := by
  obtain ⟨state, hstate, hlives⟩ := halive
  have hgo : ¬(state.dead = true ∨ elapsed = 0) := by simp [hlives, helapsed]
  have hvread : playerVitals p w = (.ok vitals, w) :=
    readOr_of_some (f := fun u : GameWorld => u.playerVitals[p]?) _ hvitals
  have hsread : playerRespawnState p w = (.ok state, w) :=
    readOr_of_some (f := fun u : GameWorld => u.playerRespawnStates[p]?) _ hstate
  have heread : entryOf GameWorld.playerRegenerationSchedules p w =
      (.error (.unknownPlayer p), w) :=
    readOr_of_none (f := fun u : GameWorld => u.playerRegenerationSchedules[p]?) _ hschedule
  rw [applyPlayerRegeneration, bind_of_ok hvread, bind_of_ok hsread, if_neg hgo]
  exact bind_of_error heread

/-! ### Two calls and one -/

/-- The seconds of two calls are admitted as those of one. -/
def AdmittedAsOne (a b : ℕ) : Prop := a = 0 ∨ b = 0 ∨ a + b ≤ maxRegenerationElapsedSeconds

/-- Both ways have the same error or the same vitals, and leave the same tables. -/
def SameRegeneration (twice once : Except CoreError PlayerRegenerationOutcome × GameWorld) : Prop :=
  twice.1.map PlayerRegenerationOutcome.vitals = once.1.map PlayerRegenerationOutcome.vitals ∧
    once.2.SameRecovery twice.2

/-- The player is left as the outcome says, within the maxima, with counters below their intervals
when they were. -/
def Reported (w left : GameWorld) (p : ℕ) (rules : PlayerRegenerationRules)
    (outcome : PlayerRegenerationOutcome) : Prop :=
  ∃ vitals, w.playerVitals[p]? = some vitals ∧ left.playerVitals[p]? = some outcome.vitals ∧
    outcome.vitals = { vitals with
      health := vitals.health + outcome.healthGained
      mana := vitals.mana + outcome.manaGained } ∧
    (vitals.health ≤ vitals.maxHealth → outcome.vitals.health ≤ outcome.vitals.maxHealth) ∧
    (vitals.mana ≤ vitals.maxMana → outcome.vitals.mana ≤ outcome.vitals.maxMana) ∧
    ((∀ r, w.recovery p = some r → r.Below rules) → ∀ r, left.recovery p = some r → r.Below rules)

theorem sameRegeneration_refl (result : Except CoreError PlayerRegenerationOutcome × GameWorld) :
    SameRegeneration result result := ⟨rfl, rfl, rfl, rfl⟩

/-- Two calls that both have something to do. -/
theorem sameRegeneration_run {rules : PlayerRegenerationRules} {a b : ℕ}
    (hr : w.recovery p = some r) (halive : w.Alive p) (ha : a ≠ 0) (hb : b ≠ 0)
    (hadmitted : a + b ≤ maxRegenerationElapsedSeconds) (htyped : r.Typed) (hfits : r.Fits (a + b)) :
    SameRegeneration ((applyPlayerRegeneration p rules a >>= fun _ =>
      applyPlayerRegeneration p rules b) w) (applyPlayerRegeneration p rules (a + b) w) := by
  obtain ⟨first, hfirst, hleft⟩ := applyPlayerRegeneration_run rules hr halive ha
  obtain ⟨state, hstate, hlives⟩ := halive
  have hstill : first.Alive p := ⟨state, by rw [hleft.states, hstate], hlives⟩
  obtain ⟨second, hsecond, hlast⟩ := applyPlayerRegeneration_run rules hleft.recovery hstill hb
  have hsum : a + b ≠ 0 := by omega
  obtain ⟨once, honce, hall⟩ := applyPlayerRegeneration_run rules hr ⟨state, hstate, hlives⟩ hsum
  -- with the whole time admitted the narrow numbers do what time does
  have hmina : min a maxRegenerationElapsedSeconds = a := by omega
  have hminb : min b maxRegenerationElapsedSeconds = b := by omega
  rw [hmina] at hfirst hleft hsecond hlast
  rw [hminb] at hsecond hlast
  rw [Nat.min_eq_left hadmitted] at honce hall
  have hpart : r.Fits a := r.fits_of_le hfits (Nat.le_add_right a b)
  have hsplit : (r.regenerated rules w.tick a).regenerated rules first.tick b =
      r.regenerated rules w.tick (a + b) := by
    rw [hleft.tick, r.regenerated_eq_after rules w.tick a htyped hpart,
      r.regenerated_eq_after rules w.tick (a + b) htyped hfits,
      Recovery.regenerated_eq_after _ _ _ _ (r.typed_after rules w.tick a htyped)
        (r.fits_after rules w.tick hfits), r.after_add]
  rw [hsplit] at hsecond hlast
  rw [bind_of_ok hfirst, hsecond, honce]
  exact ⟨rfl, hall.same (hleft.trans hlast)⟩

/-- **Two calls are one.** -/
theorem sameRegeneration {rules : PlayerRegenerationRules} {a b : ℕ}
    (hadmitted : AdmittedAsOne a b) (htyped : ∀ r, w.recovery p = some r → r.Typed)
    (hfits : ∀ r, w.recovery p = some r → r.Fits (min (a + b) maxRegenerationElapsedSeconds)) :
    SameRegeneration ((applyPlayerRegeneration p rules a >>= fun _ =>
      applyPlayerRegeneration p rules b) w) (applyPlayerRegeneration p rules (a + b) w) := by
  by_cases hknown : w.playerVitals[p]? = none ∨ w.playerRespawnStates[p]? = none
  · rw [bind_of_error (applyPlayerRegeneration_unknown rules a hknown),
      applyPlayerRegeneration_unknown rules (a + b) hknown]
    exact sameRegeneration_refl _
  rw [not_or] at hknown
  obtain ⟨vitals, hvitals⟩ := Option.ne_none_iff_exists'.mp hknown.1
  obtain ⟨state, hstate⟩ := Option.ne_none_iff_exists'.mp hknown.2
  by_cases hdead : state.dead = true
  · rw [bind_of_ok (applyPlayerRegeneration_idle rules hvitals hstate (.inl hdead)),
      applyPlayerRegeneration_idle rules hvitals hstate (.inl hdead),
      applyPlayerRegeneration_idle rules hvitals hstate (.inl hdead)]
    exact sameRegeneration_refl _
  have halive : w.Alive p := ⟨state, hstate, by simpa using hdead⟩
  by_cases ha : a = 0
  · subst ha
    rw [bind_of_ok (applyPlayerRegeneration_idle rules hvitals hstate (.inr rfl)), Nat.zero_add]
    exact sameRegeneration_refl _
  have hsum : a + b ≠ 0 := by omega
  cases hschedule : w.playerRegenerationSchedules[p]? with
  | none =>
    rw [bind_of_error (applyPlayerRegeneration_unscheduled rules hvitals halive hschedule ha),
      applyPlayerRegeneration_unscheduled rules hvitals halive hschedule hsum]
    exact sameRegeneration_refl _
  | some schedule =>
    have hr : w.recovery p = some ⟨vitals, schedule, w.playerFoodWindows[p]?⟩ := by
      rw [GameWorld.recovery, hvitals, hschedule]
      rfl
    by_cases hb : b = 0
    · subst hb
      obtain ⟨left, hleft, hrestored⟩ := applyPlayerRegeneration_run rules hr halive ha
      have hvleft := GameWorld.recovery_eq_some hrestored.recovery
      have hsleft : left.playerRespawnStates[p]? = some state := by rw [hrestored.states, hstate]
      rw [bind_of_ok hleft, applyPlayerRegeneration_idle rules hvleft.1 hsleft (.inr rfl),
        Nat.add_zero, hleft]
      exact ⟨rfl, rfl, rfl, rfl⟩
    · have hall : a + b ≤ maxRegenerationElapsedSeconds := by
        rcases hadmitted with h | h | h
        · exact absurd h ha
        · exact absurd h hb
        · exact h
      have hfits := hfits _ hr
      rw [Nat.min_eq_left hall] at hfits
      exact sameRegeneration_run hr halive ha hb hall (htyped _ hr) hfits

/-- **One call does what it reports.** -/
theorem reported {rules : PlayerRegenerationRules} {elapsed : ℕ}
    {outcome : PlayerRegenerationOutcome}
    (h : applyPlayerRegeneration p rules elapsed w = (.ok outcome, left)) :
    Reported w left p rules outcome := by
  by_cases hknown : w.playerVitals[p]? = none ∨ w.playerRespawnStates[p]? = none
  · rw [applyPlayerRegeneration_unknown rules elapsed hknown] at h
    cases h
  rw [not_or] at hknown
  obtain ⟨vitals, hvitals⟩ := Option.ne_none_iff_exists'.mp hknown.1
  obtain ⟨state, hstate⟩ := Option.ne_none_iff_exists'.mp hknown.2
  by_cases hidle : state.dead = true ∨ elapsed = 0
  · rw [applyPlayerRegeneration_idle rules hvitals hstate hidle] at h
    cases h
    exact ⟨vitals, hvitals, hvitals, rfl, id, id, id⟩
  rw [not_or] at hidle
  have halive : w.Alive p := ⟨state, hstate, by simpa using hidle.1⟩
  cases hschedule : w.playerRegenerationSchedules[p]? with
  | none =>
    rw [applyPlayerRegeneration_unscheduled rules hvitals halive hschedule hidle.2] at h
    cases h
  | some schedule =>
    have hr : w.recovery p = some ⟨vitals, schedule, w.playerFoodWindows[p]?⟩ := by
      rw [GameWorld.recovery, hvitals, hschedule]
      rfl
    obtain ⟨found, hfound, hrestored⟩ := applyPlayerRegeneration_run rules hr halive hidle.2
    rw [hfound] at h
    cases h
    refine ⟨vitals, hvitals, (GameWorld.recovery_eq_some hrestored.recovery).1, ?_, ?_, ?_, ?_⟩
    · rw [← Nat.add_assoc]
      rfl
    · exact Recovery.health_regenerated_le ⟨vitals, schedule, w.playerFoodWindows[p]?⟩ rules w.tick _
    · exact Recovery.mana_regenerated_le ⟨vitals, schedule, w.playerFoodWindows[p]?⟩ rules w.tick _
    · intro hbelow r hleft
      rw [hrestored.recovery] at hleft
      cases hleft
      exact Recovery.below_regenerated _ _ _ _ (hbelow _ hr)

/-- No counter of the player leaves 16 bits within the elapsed seconds. -/
def CountersFit (w : GameWorld) (p elapsed : ℕ) : Prop :=
  ∀ r, w.recovery p = some r → r.Fits elapsed

/-- **Regeneration does not depend on the pieces, and reports what it restores.**  The maxima of a
player are 16-bit numbers. -/
theorem regeneration_splits (htyped : ∀ vitals, w.playerVitals[p]? = some vitals →
    vitals.maxHealth ≤ u16Max ∧ vitals.maxMana ≤ u16Max) (rules : PlayerRegenerationRules) :
    (∀ a b, AdmittedAsOne a b → CountersFit w p (min (a + b) maxRegenerationElapsedSeconds) →
      SameRegeneration ((applyPlayerRegeneration p rules a >>= fun _ =>
        applyPlayerRegeneration p rules b) w) (applyPlayerRegeneration p rules (a + b) w)) ∧
    ∀ elapsed outcome left, applyPlayerRegeneration p rules elapsed w = (.ok outcome, left) →
      Reported w left p rules outcome := by
  refine ⟨fun a b hadmitted hfits => sameRegeneration hadmitted ?_ hfits,
    fun elapsed outcome left h => reported h⟩
  intro r hr
  exact htyped r.vitals (GameWorld.recovery_eq_some hr).1

/-! ### A weary player -/

/-- Somebody with 10 of 150 points, whose food lasts for another 100 ticks. -/
def wearyWorld : GameWorld :=
  { GameWorld.empty with
    playerVitals := (∅ : BTreeMap ℕ PlayerVitals).insert 1 { health := 10 }
    playerRespawnStates := (∅ : BTreeMap ℕ PlayerRespawnState).insert 1 {}
    playerRegenerationSchedules := (∅ : BTreeMap ℕ PlayerRegenerationSchedule).insert 1 ⟨2, 0⟩
    playerFoodWindows := (∅ : BTreeMap ℕ PlayerFoodWindow).insert 1 ⟨100, 3⟩ }

/-- Five points of health every three seconds, four of mana every two. -/
def briskRules : PlayerRegenerationRules := ⟨⟨3, 5, by decide⟩, ⟨2, 4, by decide⟩⟩

theorem wearyWorld_vitals {vitals : PlayerVitals}
    (h : wearyWorld.playerVitals[1]? = some vitals) : vitals = { health := 10 } := by
  have hvitals : wearyWorld.playerVitals[1]? = some { health := 10 } :=
    Std.ExtTreeMap.getElem?_insert_self
  rw [hvitals] at h
  exact (Option.some.inj h).symm

theorem regeneration_splits_weary : SameRegeneration
    ((applyPlayerRegeneration 1 briskRules 7 >>= fun _ =>
      applyPlayerRegeneration 1 briskRules 12) wearyWorld)
    (applyPlayerRegeneration 1 briskRules 19 wearyWorld) := by
  refine (regeneration_splits (w := wearyWorld) (p := 1) ?_ briskRules).1 7 12 (.inr (.inr (by decide))) ?_
  · intro vitals h
    rw [wearyWorld_vitals h]
    decide
  · intro r hr
    obtain ⟨-, hschedule, hwindow⟩ := GameWorld.recovery_eq_some hr
    have hcounted : wearyWorld.playerRegenerationSchedules[1]? = some ⟨2, 0⟩ :=
      Std.ExtTreeMap.getElem?_insert_self
    have hopen : wearyWorld.playerFoodWindows[1]? = some ⟨100, 3⟩ :=
      Std.ExtTreeMap.getElem?_insert_self
    rw [hcounted, Option.some.injEq] at hschedule
    rw [hopen] at hwindow
    refine ⟨?_, ?_, ?_⟩
    · rw [← hschedule]
      decide
    · rw [← hschedule]
      decide
    · intro window h
      rw [← hwindow, Option.some.injEq] at h
      rw [← h]
      decide

/-- A schedule that is due about every 18 hours. -/
def slowRules : PlayerRegenerationRules := ⟨⟨65535, 5, by decide⟩, ⟨2, 4, by decide⟩⟩

/-- A player one second before such a schedule is due. -/
def patientWorld : GameWorld :=
  { wearyWorld with
    playerRegenerationSchedules :=
      (∅ : BTreeMap ℕ PlayerRegenerationSchedule).insert 1 ⟨65534, 0⟩ }

/-- More than a minute at once is cut off, and a counter stops at 65535. -/
theorem pieces_differ :
    ¬SameRegeneration ((applyPlayerRegeneration 1 briskRules 40 >>= fun _ =>
      applyPlayerRegeneration 1 briskRules 40) wearyWorld)
      (applyPlayerRegeneration 1 briskRules (40 + 40) wearyWorld) ∧
    ¬SameRegeneration ((applyPlayerRegeneration 1 slowRules 1 >>= fun _ =>
      applyPlayerRegeneration 1 slowRules 1) patientWorld)
      (applyPlayerRegeneration 1 slowRules (1 + 1) patientWorld) := by
  refine ⟨fun h => ?_, fun h => ?_⟩
  · have hvitals := congrArg Except.toOption h.1
    revert hvitals
    decide +kernel
  · have hschedule := congrArg (fun table => table[1]?) h.2.2.1
    revert hschedule
    decide +kernel

end Game

end ForgottenEngine
