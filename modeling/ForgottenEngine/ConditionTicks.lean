import ForgottenEngine.Library.Accrual
import ForgottenEngine.GodMode
import ForgottenEngine.Regeneration

/-!
# Conditions tick in pieces

The conditions of a player are advanced every few moments.  Each has an interval, a counter and the
time it still lasts, and runs out on its own within a stretch of time.

* `PlayerCondition.Sound` — what a stored condition keeps: time left, and a counter below the
  interval;
* `PlayerConditions.due`, `due_remaining` — the damage in unbounded numbers, and that what a stretch
  leaves deals the rest of it;
* `applyPlayerConditions_run` — what one call does to a living player;
* `conditions_split` — two calls are one, the preview is what is then applied, and the conditions
  stay sound.
-/

namespace ForgottenEngine

open Accrual Fallible

namespace PlayerCondition

/-- What a stored condition keeps. -/
structure Sound (c : PlayerCondition) : Prop where
  interval : 0 < c.intervalSeconds
  remaining : 0 < c.remainingSeconds
  elapsed : c.elapsedSeconds < c.intervalSeconds

/-- The counter does not leave 16 bits within the elapsed seconds. -/
def Fits (c : PlayerCondition) (elapsed : ℕ) : Prop :=
  c.elapsedSeconds + active c.remainingSeconds elapsed ≤ u16Max

/-- The damage within the elapsed seconds, in unbounded numbers. -/
def due (c : PlayerCondition) (elapsed : ℕ) : ℕ :=
  if c.kind.isDamageOverTime then
    events c.intervalSeconds c.elapsedSeconds (active c.remainingSeconds elapsed) * c.damage
  else 0

variable {c : PlayerCondition} {elapsed a b : ℕ}

theorem countedSeconds_eq (h : c.Fits elapsed) :
    c.countedSeconds elapsed = c.elapsedSeconds + active c.remainingSeconds elapsed :=
  Nat.min_eq_left h

theorem pendingDamage_eq_due (h : c.Fits elapsed) :
    c.pendingDamage elapsed = min (c.due elapsed) u32Max := by
  rw [pendingDamage, due]
  split
  · rw [countedSeconds_eq h]
    rfl
  · rfl

theorem advance_eq (h : c.Fits elapsed) : c.advance elapsed = { c with
    elapsedSeconds := carried c.intervalSeconds c.elapsedSeconds (active c.remainingSeconds elapsed)
    remainingSeconds := c.remainingSeconds - active c.remainingSeconds elapsed } := by
  rw [advance, countedSeconds_eq h]
  rfl

theorem Fits.of_le (h : c.Fits b) (hab : a ≤ b) : c.Fits a := by
  have hle : active c.remainingSeconds a ≤ active c.remainingSeconds b := by
    rw [active, active]
    omega
  exact le_trans (Nat.add_le_add_left hle _) h

theorem Fits.advance (h : c.Fits (a + b)) : (c.advance a).Fits b := by
  have hall : c.elapsedSeconds + active c.remainingSeconds (a + b) ≤ u16Max := h
  rw [← active_add] at hall
  have hle := carried_le c.intervalSeconds c.elapsedSeconds (active c.remainingSeconds a)
  rw [advance_eq (h.of_le (Nat.le_add_right a b))]
  show carried _ _ _ + active (c.remainingSeconds - active c.remainingSeconds a) b ≤ u16Max
  omega

theorem due_add (hinterval : 0 < c.intervalSeconds) (h : c.Fits (a + b)) :
    c.due a + (c.advance a).due b = c.due (a + b) := by
  rw [advance_eq (h.of_le (Nat.le_add_right a b)), due, due, due]
  dsimp only
  split
  · rw [← Nat.add_mul, events_add hinterval, active_add]
  · rfl

theorem advance_add (h : c.Fits (a + b)) : (c.advance a).advance b = c.advance (a + b) := by
  rw [advance_eq h.advance, advance_eq (h.of_le (Nat.le_add_right a b)), advance_eq h]
  dsimp only
  rw [carried_add, active_add, Nat.sub_sub, active_add]

/-- A condition that has run out deals nothing more. -/
theorem due_of_expired (helapsed : c.elapsedSeconds < c.intervalSeconds)
    (h : c.remainingSeconds = 0) : c.due elapsed = 0 := by
  have hactive : active c.remainingSeconds elapsed = 0 := by
    rw [active, h]
    exact Nat.min_zero _
  rw [due, hactive, events_zero helapsed, Nat.zero_mul]
  split <;> rfl

/-- The counter is below the interval after every call. -/
theorem advance_elapsed_lt (hinterval : 0 < c.intervalSeconds) :
    (c.advance elapsed).elapsedSeconds < (c.advance elapsed).intervalSeconds :=
  Nat.mod_lt _ hinterval

theorem advance_zero (hsound : c.Sound) (h : c.Fits 0) : c.advance 0 = c := by
  have hactive : active c.remainingSeconds 0 = 0 := Nat.zero_min _
  rw [advance_eq h, hactive, carried_zero hsound.elapsed]
  rfl

/-- In no time nothing is dealt. -/
theorem pendingDamage_zero (hsound : c.Sound) : c.pendingDamage 0 = 0 := by
  have hcounted : c.countedSeconds 0 < c.intervalSeconds := by
    have hlt := hsound.elapsed
    rw [countedSeconds]
    omega
  rw [pendingDamage, Nat.div_eq_of_lt hcounted, Nat.zero_mul]
  split <;> rfl

end PlayerCondition

namespace PlayerConditions

/-- Every condition of the player is sound. -/
def Sound (self : PlayerConditions) : Prop :=
  ∀ (kind : PlayerConditionKind) (c : PlayerCondition), self[kind]? = some c → c.Sound

/-- No counter leaves 16 bits within the elapsed seconds. -/
def Fits (self : PlayerConditions) (elapsed : ℕ) : Prop :=
  ∀ (kind : PlayerConditionKind) (c : PlayerCondition), self[kind]? = some c → c.Fits elapsed

/-- What all conditions deal within the elapsed seconds, in unbounded numbers. -/
def due (self : PlayerConditions) (elapsed : ℕ) : ℕ :=
  OrderedMap.sumValues self fun c => c.due elapsed

variable {self : PlayerConditions} {elapsed a b : ℕ}

/-- A sum that saturates is the sum up to the bound. -/
theorem foldl_saturating {α : Type} (f : α → ℕ) (bound : ℕ) (xs : List α) (n : ℕ) :
    xs.foldl (fun total x => min (total + f x) bound) (min n bound) =
      min (n + (xs.map f).sum) bound := by
  induction xs generalizing n with
  | nil => rfl
  | cons x xs ih =>
    have hstep : min (min n bound + f x) bound = min (n + f x) bound := by omega
    rw [List.foldl_cons, hstep, ih, List.map_cons, List.sum_cons, Nat.add_assoc]

theorem requestedDamage_eq (h : self.Fits elapsed) :
    self.requestedDamage elapsed = min (self.due elapsed) u32Max := by
  have hstep : ∀ (total : ℕ), ∀ e ∈ self.toList,
      min (total + e.2.pendingDamage elapsed) u32Max = min (total + e.2.due elapsed) u32Max := by
    intro total e he
    have hfits := h e.1 e.2 (Std.ExtTreeMap.mem_toList_iff_getElem?_eq_some.mp he)
    rw [PlayerCondition.pendingDamage_eq_due hfits]
    omega
  rw [requestedDamage, List.foldl_ext _ _ _ hstep]
  show self.toList.foldl _ (min 0 u32Max) = _
  rw [foldl_saturating (fun e : PlayerConditionKind × PlayerCondition => e.2.due elapsed) u32Max,
    Nat.zero_add]
  rfl

theorem Fits.of_le (h : self.Fits b) (hab : a ≤ b) : self.Fits a :=
  fun kind c hc => (h kind c hc).of_le hab

/-- A condition that is still there was advanced, and has time left. -/
theorem remaining_eq_some {kind : PlayerConditionKind} {c : PlayerCondition} :
    (self.remaining elapsed)[kind]? = some c ↔
      ∃ old, self[kind]? = some old ∧ old.advance elapsed = c ∧ c.remainingSeconds ≠ 0 := by
  rw [remaining, advance, Std.ExtTreeMap.getElem?_filter', Std.ExtTreeMap.getElem?_map]
  cases hold : self[kind]? with
  | none => simp
  | some old =>
    simp only [Option.map_some, Option.filter_eq_some_iff, Option.some.injEq, decide_eq_true_eq]
    constructor
    · rintro ⟨h, hleft⟩
      exact ⟨old, rfl, h, hleft⟩
    · rintro ⟨old', hsame, h, hleft⟩
      exact ⟨by rw [hsame]; exact h, hleft⟩

theorem sound_remaining (h : self.Sound) : (self.remaining elapsed).Sound := by
  intro kind c hc
  obtain ⟨old, hold, hadvance, hleft⟩ := remaining_eq_some.mp hc
  have hinterval := (h kind old hold).interval
  subst hadvance
  exact ⟨hinterval, Nat.pos_of_ne_zero hleft, PlayerCondition.advance_elapsed_lt hinterval⟩

theorem fits_remaining (h : self.Fits (a + b)) : (self.remaining a).Fits b := by
  intro kind c hc
  obtain ⟨old, hold, hadvance, -⟩ := remaining_eq_some.mp hc
  subst hadvance
  exact (h kind old hold).advance

/-- What a stretch leaves deals the rest. -/
theorem due_remaining (hsound : self.Sound) (h : self.Fits (a + b)) :
    self.due a + (self.remaining a).due b = self.due (a + b) := by
  have hall : (self.remaining a).due b = OrderedMap.sumValues (self.advance a) fun c => c.due b := by
    refine OrderedMap.sumValues_filter fun kind c hc hkeep => ?_
    rw [advance, Std.ExtTreeMap.getElem?_map, Option.map_eq_some_iff] at hc
    obtain ⟨old, hold, hc⟩ := hc
    subst hc
    have hexpired : (old.advance a).remainingSeconds = 0 := by simpa using hkeep
    exact PlayerCondition.due_of_expired
      (PlayerCondition.advance_elapsed_lt (hsound kind old hold).interval) hexpired
  rw [hall, advance, OrderedMap.sumValues_map, due, ← OrderedMap.sumValues_add]
  refine OrderedMap.sumValues_congr fun kind c hc => ?_
  exact PlayerCondition.due_add (hsound kind c hc).interval (h kind c hc)

/-- The pieces do not matter for what is left. -/
theorem remaining_add (h : self.Fits (a + b)) :
    (self.remaining a).remaining b = self.remaining (a + b) := by
  refine Std.ExtTreeMap.ext_getElem? fun kind => Option.ext fun c => ?_
  rw [remaining_eq_some, remaining_eq_some]
  constructor
  · rintro ⟨half, hhalf, hc, hleft⟩
    obtain ⟨old, hold, hadvance, -⟩ := remaining_eq_some.mp hhalf
    refine ⟨old, hold, ?_, hleft⟩
    rw [← PlayerCondition.advance_add (h kind old hold), hadvance, hc]
  · rintro ⟨old, hold, hc, hleft⟩
    have hadd := PlayerCondition.advance_add (h kind old hold)
    refine ⟨old.advance a, remaining_eq_some.mpr ⟨old, hold, rfl, ?_⟩, hadd.trans hc, hleft⟩
    -- what has time left at the end has time left in between
    intro hzero
    apply hleft
    rw [← hc, ← hadd]
    show _ - min _ (old.advance a).remainingSeconds = 0
    rw [hzero, Nat.zero_sub]

theorem remaining_zero (hsound : self.Sound) (h : self.Fits 0) : self.remaining 0 = self := by
  refine Std.ExtTreeMap.ext_getElem? fun kind => Option.ext fun c => ?_
  rw [remaining_eq_some]
  constructor
  · rintro ⟨old, hold, hc, _⟩
    rw [PlayerCondition.advance_zero (hsound kind old hold) (h kind old hold)] at hc
    rw [hold, hc]
  · intro hc
    refine ⟨c, hc, PlayerCondition.advance_zero (hsound kind c hc) (h kind c hc), ?_⟩
    exact Nat.ne_of_gt (hsound kind c hc).remaining

theorem requestedDamage_zero (hsound : self.Sound) : self.requestedDamage 0 = 0 := by
  have hstep : ∀ (total : ℕ), ∀ e ∈ self.toList,
      min (total + e.2.pendingDamage 0) u32Max = min (total + 0) u32Max := by
    intro total e he
    have hc := hsound e.1 e.2 (Std.ExtTreeMap.mem_toList_iff_getElem?_eq_some.mp he)
    rw [PlayerCondition.pendingDamage_zero hc]
  rw [requestedDamage, List.foldl_ext _ _ _ hstep]
  show self.toList.foldl _ (min 0 u32Max) = _
  rw [foldl_saturating (fun _ : PlayerConditionKind × PlayerCondition => 0) u32Max,
    List.sum_map_zero]
  rfl

theorem remaining_none (elapsed : ℕ) :
    (∅ : PlayerConditions).remaining elapsed = ∅ := by
  refine Std.ExtTreeMap.ext_getElem? fun kind => Option.ext fun c => ?_
  rw [remaining_eq_some, Std.ExtTreeMap.getElem?_empty]
  simp

end PlayerConditions

/-! ### One call -/

namespace GameWorld

/-- The conditions and the health of one player have been written, and nothing else of these
tables. -/
structure Ticked (w : GameWorld) (p : ℕ) (vitals : PlayerVitals) (conditions : PlayerConditions)
    (left : GameWorld) : Prop where
  vitals : ∀ q, left.playerVitals[q]? = if p = q then some vitals else w.playerVitals[q]?
  conditions : ∀ q, left.playerConditions[q]? =
    if p = q then some conditions else w.playerConditions[q]?
  states : left.playerRespawnStates = w.playerRespawnStates

/-- The vitals and the conditions of all players are the same. -/
def SameConditions (w left : GameWorld) : Prop :=
  left.playerVitals = w.playerVitals ∧ left.playerConditions = w.playerConditions

variable {w left : GameWorld} {p : ℕ} {vitals vitals' : PlayerVitals}
  {conditions conditions' : PlayerConditions}

/-- The last of two writes counts. -/
theorem Ticked.trans {last : GameWorld} (h : Ticked w p vitals conditions left)
    (h' : Ticked left p vitals' conditions' last) : Ticked w p vitals' conditions' last := by
  refine ⟨?_, ?_, h'.states.trans h.states⟩
  · intro q
    rw [h'.vitals, h.vitals]
    split <;> rfl
  · intro q
    rw [h'.conditions, h.conditions]
    split <;> rfl

theorem Ticked.same {left' : GameWorld} (h : Ticked w p vitals conditions left)
    (h' : Ticked w p vitals conditions left') : SameConditions left left' := by
  refine ⟨?_, ?_⟩
  · exact Std.ExtTreeMap.ext_getElem? fun q => (h'.vitals q).trans (h.vitals q).symm
  · exact Std.ExtTreeMap.ext_getElem? fun q => (h'.conditions q).trans (h.conditions q).symm

/-- Nothing has to be written when everything stays. -/
theorem Ticked.refl (hvitals : w.playerVitals[p]? = some vitals)
    (hconditions : w.playerConditions[p]? = some conditions) : Ticked w p vitals conditions w := by
  refine ⟨?_, ?_, rfl⟩
  · intro q
    split
    · next heq => rw [← heq, hvitals]
    · rfl
  · intro q
    split
    · next heq => rw [← heq, hconditions]
    · rfl

end GameWorld

namespace Game

variable {w left : GameWorld} {p : ℕ} {vitals : PlayerVitals} {conditions : PlayerConditions}

/-- The player's vitals less what the conditions deal. -/
def hurt (vitals : PlayerVitals) (damage : ℕ) : PlayerVitals :=
  { vitals with health := vitals.health - damage }

/-- What the call reads first. -/
theorem applyPlayerConditions_alive {elapsed : ℕ} (hvitals : w.playerVitals[p]? = some vitals)
    (hconditions : w.playerConditions[p]? = some conditions) (halive : w.Alive p) :
    applyPlayerConditions p elapsed w =
      (if min elapsed maxRegenerationElapsedSeconds = 0 ∨ conditions = ∅ then
        pure ⟨p, 0, vitals.health, 0⟩
      else do
        let damage := min (conditions.requestedDamage (min elapsed maxRegenerationElapsedSeconds))
          vitals.health
        let expired := conditions.expired (min elapsed maxRegenerationElapsedSeconds)
        write (·.putConditions p
          (conditions.remaining (min elapsed maxRegenerationElapsedSeconds)))
        if 0 < damage then write (·.putVitals p (hurt vitals damage))
        if 0 < damage ∨ expired ≠ [] then markChanged
        return ⟨p, damage, vitals.health - damage, min expired.length u8Max⟩ :
          GameM PlayerConditionOutcome) w := by
  obtain ⟨state, hstate, hlives⟩ := halive
  have hvread : playerVitals p w = (.ok vitals, w) :=
    readOr_of_some (f := fun u : GameWorld => u.playerVitals[p]?) _ hvitals
  have hsread : playerRespawnState p w = (.ok state, w) :=
    readOr_of_some (f := fun u : GameWorld => u.playerRespawnStates[p]?) _ hstate
  have hcread : entryOf (·.playerConditions) p w = (.ok conditions, w) :=
    readOr_of_some (f := fun u : GameWorld => u.playerConditions[p]?) _ hconditions
  have hgo : ¬state.dead = true := by simp [hlives]
  rw [applyPlayerConditions, bind_of_ok hvread, bind_of_ok hsread, if_neg hgo]
  dsimp only
  rw [bind_of_ok (pendingDamage_eq hvitals hconditions), bind_of_ok hcread]
  rfl

/-- A call with something to do writes the conditions, and the vitals when they are hurt. -/
theorem applyPlayerConditions_ticked {elapsed : ℕ} (hvitals : w.playerVitals[p]? = some vitals)
    (hconditions : w.playerConditions[p]? = some conditions) (halive : w.Alive p)
    (hbusy : ¬(min elapsed maxRegenerationElapsedSeconds = 0 ∨ conditions = ∅)) :
    ∃ outcome left, applyPlayerConditions p elapsed w = (.ok outcome, left) ∧
      outcome.appliedDamage =
        min (conditions.requestedDamage (min elapsed maxRegenerationElapsedSeconds))
          vitals.health ∧
      w.Ticked p (hurt vitals outcome.appliedDamage)
        (conditions.remaining (min elapsed maxRegenerationElapsedSeconds)) left := by
  rw [applyPlayerConditions_alive hvitals hconditions halive, if_neg hbusy]
  dsimp only
  generalize min elapsed maxRegenerationElapsedSeconds = e
  generalize min (conditions.requestedDamage e) vitals.health = damage
  rw [bind_of_ok (write_apply _ _)]
  have hticked : ∀ {left : GameWorld},
      left.playerConditions = w.playerConditions.insert p (conditions.remaining e) →
      left.playerRespawnStates = w.playerRespawnStates →
      (∀ q, left.playerVitals[q]? =
        if p = q then some (hurt vitals damage) else w.playerVitals[q]?) →
      w.Ticked p (hurt vitals damage) (conditions.remaining e) left := by
    intro left hc hs hv
    refine ⟨hv, fun q => ?_, hs⟩
    rw [hc]
    simp [Std.ExtTreeMap.getElem?_insert]
  by_cases hhurt : 0 < damage
  · have hv (q : ℕ) : (w.playerVitals.insert p (hurt vitals damage))[q]? =
        if p = q then some (hurt vitals damage) else w.playerVitals[q]? := by
      simp [Std.ExtTreeMap.getElem?_insert]
    rw [if_pos hhurt, bind_of_ok (write_apply _ _), if_pos (.inl hhurt)]
    exact ⟨_, _, rfl, rfl, hticked rfl rfl hv⟩
  · have hzero : damage = 0 := Nat.eq_zero_of_not_pos hhurt
    have hv (q : ℕ) : w.playerVitals[q]? =
        if p = q then some (hurt vitals damage) else w.playerVitals[q]? := by
      rw [hzero]
      split
      · next heq =>
        rw [← heq]
        exact hvitals
      · rfl
    rw [if_neg hhurt]
    split
    · exact ⟨_, _, rfl, rfl, hticked rfl rfl hv⟩
    · exact ⟨_, _, rfl, rfl, hticked rfl rfl hv⟩

/-- **One call** deals what is due and leaves what remains, when the conditions are sound and no
counter saturates. -/
theorem applyPlayerConditions_run {elapsed : ℕ} (hvitals : w.playerVitals[p]? = some vitals)
    (hconditions : w.playerConditions[p]? = some conditions) (halive : w.Alive p)
    (hsound : conditions.Sound)
    (hfits : conditions.Fits (min elapsed maxRegenerationElapsedSeconds)) :
    ∃ outcome left, applyPlayerConditions p elapsed w = (.ok outcome, left) ∧
      outcome.appliedDamage =
        min (min (conditions.due (min elapsed maxRegenerationElapsedSeconds)) u32Max)
          vitals.health ∧
      w.Ticked p (hurt vitals outcome.appliedDamage)
        (conditions.remaining (min elapsed maxRegenerationElapsedSeconds)) left := by
  rw [← PlayerConditions.requestedDamage_eq hfits]
  by_cases hidle : min elapsed maxRegenerationElapsedSeconds = 0 ∨ conditions = ∅
  · -- nothing is written, and nothing would have been
    rw [applyPlayerConditions_alive hvitals hconditions halive, if_pos hidle]
    generalize min elapsed maxRegenerationElapsedSeconds = e at hidle hfits ⊢
    have hzero : conditions.requestedDamage e = 0 := by
      rcases hidle with rfl | rfl
      · exact PlayerConditions.requestedDamage_zero hsound
      · rfl
    have hleft : conditions.remaining e = conditions := by
      rcases hidle with rfl | rfl
      · exact PlayerConditions.remaining_zero hsound hfits
      · exact PlayerConditions.remaining_none e
    rw [hzero, hleft, Nat.zero_min]
    exact ⟨_, w, rfl, rfl, .refl hvitals hconditions⟩
  · exact applyPlayerConditions_ticked hvitals hconditions halive hidle

/-- Without vitals, a respawn state or conditions there is nobody to tick. -/
theorem applyPlayerConditions_unknown (elapsed : ℕ)
    (h : w.playerVitals[p]? = none ∨ w.playerRespawnStates[p]? = none ∨
      (w.Alive p ∧ w.playerConditions[p]? = none)) :
    applyPlayerConditions p elapsed w = (.error (.unknownPlayer p), w) := by
  cases hvitals : w.playerVitals[p]? with
  | none =>
    have hvread : playerVitals p w = (.error (.unknownPlayer p), w) :=
      readOr_of_none (f := fun u : GameWorld => u.playerVitals[p]?) _ hvitals
    exact bind_of_error hvread
  | some vitals =>
    have hvread : playerVitals p w = (.ok vitals, w) :=
      readOr_of_some (f := fun u : GameWorld => u.playerVitals[p]?) _ hvitals
    rw [applyPlayerConditions, bind_of_ok hvread]
    cases hstate : w.playerRespawnStates[p]? with
    | none =>
      have hsread : playerRespawnState p w = (.error (.unknownPlayer p), w) :=
        readOr_of_none (f := fun u : GameWorld => u.playerRespawnStates[p]?) _ hstate
      rw [bind_of_error hsread]
    | some state =>
      have hsread : playerRespawnState p w = (.ok state, w) :=
        readOr_of_some (f := fun u : GameWorld => u.playerRespawnStates[p]?) _ hstate
      obtain ⟨⟨found, hfound, hlives⟩, hnone⟩ : w.Alive p ∧ w.playerConditions[p]? = none := by
        simpa [hvitals, hstate] using h
      rw [hstate, Option.some.injEq] at hfound
      have hgo : ¬state.dead = true := by simp [hfound, hlives]
      have hpending : pendingPlayerConditionDamage p (min elapsed maxRegenerationElapsedSeconds) w =
          (.error (.unknownPlayer p), w) := by
        have hcread : entryOf (·.playerConditions) p w = (.error (.unknownPlayer p), w) :=
          readOr_of_none (f := fun u : GameWorld => u.playerConditions[p]?) _ hnone
        rw [pendingPlayerConditionDamage, bind_of_ok hvread, bind_of_error hcread]
      rw [bind_of_ok hsread, if_neg hgo]
      exact bind_of_error hpending

/-- The dead are not ticked. -/
theorem applyPlayerConditions_dead (elapsed : ℕ) {state : PlayerRespawnState}
    (hvitals : w.playerVitals[p]? = some vitals) (hstate : w.playerRespawnStates[p]? = some state)
    (hdead : state.dead = true) :
    applyPlayerConditions p elapsed w = (.ok ⟨p, 0, vitals.health, 0⟩, w) := by
  have hvread : playerVitals p w = (.ok vitals, w) :=
    readOr_of_some (f := fun u : GameWorld => u.playerVitals[p]?) _ hvitals
  have hsread : playerRespawnState p w = (.ok state, w) :=
    readOr_of_some (f := fun u : GameWorld => u.playerRespawnStates[p]?) _ hstate
  rw [applyPlayerConditions, bind_of_ok hvread, bind_of_ok hsread, if_pos hdead]
  rfl

/-! ### Two calls and one -/

/-- Two calls, and the damage they deal together. -/
def twoTicks (p a b : ℕ) : GameM ℕ := do
  let first ← applyPlayerConditions p a
  let second ← applyPlayerConditions p b
  return first.appliedDamage + second.appliedDamage

/-- Two calls deal what one deals, and leave the same. -/
def SameTicks (w : GameWorld) (p a b : ℕ) : Prop :=
  (twoTicks p a b w).1 =
      (applyPlayerConditions p (a + b) w).1.map PlayerConditionOutcome.appliedDamage ∧
    (applyPlayerConditions p (a + b) w).2.SameConditions (twoTicks p a b w).2

/-- **Two calls are one.** -/
theorem sameTicks {a b : ℕ} (hadmitted : AdmittedAsOne a b)
    (hhealth : ∀ vitals, w.playerVitals[p]? = some vitals → vitals.health ≤ u16Max)
    (hsound : ∀ conditions : PlayerConditions, w.playerConditions[p]? = some conditions →
      conditions.Sound)
    (hfits : ∀ conditions : PlayerConditions, w.playerConditions[p]? = some conditions →
      conditions.Fits (min (a + b) maxRegenerationElapsedSeconds)) : SameTicks w p a b := by
  by_cases hknown : w.playerVitals[p]? = none ∨ w.playerRespawnStates[p]? = none ∨
      (w.Alive p ∧ w.playerConditions[p]? = none)
  · rw [SameTicks, twoTicks, bind_of_error (applyPlayerConditions_unknown a hknown),
      applyPlayerConditions_unknown (a + b) hknown]
    exact ⟨rfl, rfl, rfl⟩
  rw [not_or, not_or] at hknown
  obtain ⟨vitals, hvitals⟩ := Option.ne_none_iff_exists'.mp hknown.1
  obtain ⟨state, hstate⟩ := Option.ne_none_iff_exists'.mp hknown.2.1
  by_cases hdead : state.dead = true
  · rw [SameTicks, twoTicks, bind_of_ok (applyPlayerConditions_dead a hvitals hstate hdead),
      bind_of_ok (applyPlayerConditions_dead b hvitals hstate hdead),
      applyPlayerConditions_dead (a + b) hvitals hstate hdead]
    exact ⟨rfl, rfl, rfl⟩
  have halive : w.Alive p := ⟨state, hstate, by simpa using hdead⟩
  obtain ⟨conditions, hconditions⟩ :=
    Option.ne_none_iff_exists'.mp fun hnone => hknown.2.2 ⟨halive, hnone⟩
  have hsound := hsound conditions hconditions
  have hfits := hfits conditions hconditions
  have hhealth := hhealth vitals hvitals
  -- the seconds each call counts add up to those one call counts
  have hsum : min (a + b) maxRegenerationElapsedSeconds =
      min a maxRegenerationElapsedSeconds + min b maxRegenerationElapsedSeconds := by
    rcases hadmitted with h | h | h <;> omega
  rw [hsum] at hfits
  obtain ⟨first, middle, hfirst, hdealt, hmiddle⟩ := applyPlayerConditions_run hvitals hconditions
    halive hsound (hfits.of_le (Nat.le_add_right _ _))
  have hleft : PlayerConditions.Fits
      (PlayerConditions.remaining conditions (min a maxRegenerationElapsedSeconds))
      (min b maxRegenerationElapsedSeconds) := PlayerConditions.fits_remaining hfits
  obtain ⟨second, last, hsecond, hrest, hlast⟩ := applyPlayerConditions_run (w := middle)
    (by rw [hmiddle.vitals, if_pos rfl]) (by rw [hmiddle.conditions, if_pos rfl])
    ⟨state, by rw [hmiddle.states, hstate], by simpa using hdead⟩
    (PlayerConditions.sound_remaining hsound) hleft
  have hwhole : PlayerConditions.Fits conditions (min (a + b) maxRegenerationElapsedSeconds) := by
    rw [hsum]
    exact hfits
  obtain ⟨once, all, honce, htotal, hall⟩ :=
    applyPlayerConditions_run hvitals hconditions halive hsound hwhole
  rw [hsum] at htotal hall
  have hdue := PlayerConditions.due_remaining hsound hfits
  have hhurt : (hurt vitals first.appliedDamage).health = vitals.health - first.appliedDamage := rfl
  have hu16 : u16Max ≤ u32Max := by decide
  have hdamage : first.appliedDamage + second.appliedDamage = once.appliedDamage := by
    rw [hrest, hhurt, htotal, ← hdue, hdealt]
    omega
  have hvitals' : hurt (hurt vitals first.appliedDamage) second.appliedDamage =
      hurt vitals once.appliedDamage := by
    rw [← hdamage, hurt, hurt, hurt, Nat.sub_sub]
  have htwo : twoTicks p a b w = (.ok (first.appliedDamage + second.appliedDamage), last) := by
    rw [twoTicks, bind_of_ok hfirst, bind_of_ok hsecond]
    rfl
  have htrans := hmiddle.trans hlast
  rw [hvitals', PlayerConditions.remaining_add hfits] at htrans
  rw [SameTicks, htwo, honce, hdamage]
  exact ⟨rfl, hall.same htrans⟩

/-- **The preview of a call is what it deals.** -/
theorem preview_eq {elapsed : ℕ} {outcome : PlayerConditionOutcome} (halive : w.Alive p)
    (hsound : ∀ conditions : PlayerConditions, w.playerConditions[p]? = some conditions →
      conditions.Sound)
    (h : applyPlayerConditions p elapsed w = (.ok outcome, left)) :
    pendingPlayerConditionDamage p (min elapsed maxRegenerationElapsedSeconds) w =
      (.ok outcome.appliedDamage, w) := by
  by_cases hknown : w.playerVitals[p]? = none ∨ w.playerConditions[p]? = none
  · have hunknown : w.playerVitals[p]? = none ∨ w.playerRespawnStates[p]? = none ∨
        (w.Alive p ∧ w.playerConditions[p]? = none) := by
      rcases hknown with hnone | hnone
      · exact .inl hnone
      · exact .inr (.inr ⟨halive, hnone⟩)
    rw [applyPlayerConditions_unknown elapsed hunknown] at h
    cases h
  rw [not_or] at hknown
  obtain ⟨vitals, hvitals⟩ := Option.ne_none_iff_exists'.mp hknown.1
  obtain ⟨conditions, hconditions⟩ := Option.ne_none_iff_exists'.mp hknown.2
  rw [pendingDamage_eq hvitals hconditions]
  by_cases hidle : min elapsed maxRegenerationElapsedSeconds = 0 ∨ conditions = ∅
  · rw [applyPlayerConditions_alive hvitals hconditions halive, if_pos hidle] at h
    cases h
    have hzero : PlayerConditions.requestedDamage conditions
        (min elapsed maxRegenerationElapsedSeconds) = 0 := by
      rcases hidle with hzero | rfl
      · rw [hzero]
        exact PlayerConditions.requestedDamage_zero (hsound conditions hconditions)
      · rfl
    rw [hzero, Nat.zero_min]
  · obtain ⟨found, after, hrun, hdealt, -⟩ :=
      applyPlayerConditions_ticked hvitals hconditions halive hidle
    rw [hrun] at h
    cases h
    rw [hdealt]

/-- **What a call leaves stays sound.** -/
theorem sound_after {elapsed : ℕ} {outcome : PlayerConditionOutcome}
    (hsound : ∀ conditions : PlayerConditions, w.playerConditions[p]? = some conditions →
      conditions.Sound)
    (h : applyPlayerConditions p elapsed w = (.ok outcome, left)) :
    ∀ conditions : PlayerConditions, left.playerConditions[p]? = some conditions →
      conditions.Sound := by
  by_cases hunknown : w.playerVitals[p]? = none ∨ w.playerRespawnStates[p]? = none ∨
      (w.Alive p ∧ w.playerConditions[p]? = none)
  · rw [applyPlayerConditions_unknown elapsed hunknown] at h
    cases h
  rw [not_or, not_or] at hunknown
  obtain ⟨vitals, hvitals⟩ := Option.ne_none_iff_exists'.mp hunknown.1
  obtain ⟨state, hstate⟩ := Option.ne_none_iff_exists'.mp hunknown.2.1
  by_cases hdead : state.dead = true
  · rw [applyPlayerConditions_dead elapsed hvitals hstate hdead] at h
    cases h
    exact hsound
  have halive : w.Alive p := ⟨state, hstate, by simpa using hdead⟩
  obtain ⟨conditions, hconditions⟩ :=
    Option.ne_none_iff_exists'.mp fun hnone => hunknown.2.2 ⟨halive, hnone⟩
  by_cases hidle : min elapsed maxRegenerationElapsedSeconds = 0 ∨ conditions = ∅
  · rw [applyPlayerConditions_alive hvitals hconditions halive, if_pos hidle] at h
    cases h
    exact hsound
  · obtain ⟨found, after, hrun, -, hticked⟩ :=
      applyPlayerConditions_ticked hvitals hconditions halive hidle
    rw [hrun] at h
    cases h
    intro conditions' hleft
    rw [hticked.conditions, if_pos rfl, Option.some.injEq] at hleft
    rw [← hleft]
    exact PlayerConditions.sound_remaining (hsound conditions hconditions)

end Game

/-! ### Where conditions come from -/

namespace PlayerCondition

variable {kind : PlayerConditionKind} {c : PlayerCondition}
  {intervalSeconds damage speedBonusPercent remainingSeconds elapsedSeconds : ℕ}

/-- A condition as it was stored.  The counter is checked against the given interval, which for haste
is not the one the condition has. -/
def fromPersisted (kind : PlayerConditionKind)
    (intervalSeconds damage speedBonusPercent remainingSeconds elapsedSeconds : ℕ) :
    Except CoreError PlayerCondition := do
  let condition ←
    if kind.isDamageOverTime then
      if speedBonusPercent ≠ 0 then .error .invalidPlayerCondition
      else new kind intervalSeconds damage remainingSeconds
    else if intervalSeconds = 0 ∨ damage ≠ 0 ∨ speedBonusPercent = 0 then
      .error .invalidPlayerCondition
    else newHaste speedBonusPercent remainingSeconds
  if intervalSeconds ≤ elapsedSeconds then throw .invalidPlayerCondition
  return { condition with elapsedSeconds }

theorem sound_new (h : new kind intervalSeconds damage remainingSeconds = .ok c) : c.Sound := by
  rw [new] at h
  split at h
  · cases h
  · next hvalid =>
    cases h
    exact ⟨show 0 < intervalSeconds by omega, show 0 < remainingSeconds by omega,
      show 0 < intervalSeconds by omega⟩

theorem sound_newHaste (h : newHaste speedBonusPercent remainingSeconds = .ok c) : c.Sound := by
  rw [newHaste] at h
  split at h
  · cases h
  · next hvalid =>
    cases h
    exact ⟨Nat.one_pos, show 0 < remainingSeconds by omega, Nat.one_pos⟩

/-- A stored condition that deals damage comes back sound. -/
theorem sound_fromPersisted (hkind : kind.isDamageOverTime = true)
    (h : fromPersisted kind intervalSeconds damage speedBonusPercent remainingSeconds
      elapsedSeconds = .ok c) : c.Sound := by
  rw [fromPersisted, if_pos hkind] at h
  split at h
  · cases h
  obtain ⟨fresh, hfresh, h⟩ := except_bind_eq_ok.mp h
  have hinterval : fresh.intervalSeconds = intervalSeconds := by
    rw [new] at hfresh
    split at hfresh
    · cases hfresh
    · cases hfresh
      rfl
  obtain ⟨hpos, hleft, -⟩ := sound_new hfresh
  split at h
  · cases h
  · next hlt =>
    cases h
    rw [← hinterval] at hlt
    exact ⟨hpos, hleft, Nat.lt_of_not_le hlt⟩

end PlayerCondition

namespace Game

variable {w : GameWorld} {p : ℕ}

/-- No counter of the player's conditions leaves 16 bits within the elapsed seconds. -/
def ConditionsFit (w : GameWorld) (p elapsed : ℕ) : Prop :=
  ∀ conditions : PlayerConditions, w.playerConditions[p]? = some conditions →
    conditions.Fits elapsed

/-- **Ticks of sound conditions do not depend on the pieces, are previewed as they are dealt, and
leave sound conditions.**  The health of a player is a 16-bit number. -/
theorem conditions_split
    (hhealth : ∀ vitals, w.playerVitals[p]? = some vitals → vitals.health ≤ u16Max)
    (hsound : ∀ conditions : PlayerConditions, w.playerConditions[p]? = some conditions →
      conditions.Sound) :
    (∀ a b, AdmittedAsOne a b → ConditionsFit w p (min (a + b) maxRegenerationElapsedSeconds) →
      SameTicks w p a b) ∧
    ∀ elapsed outcome left, applyPlayerConditions p elapsed w = (.ok outcome, left) →
      (w.Alive p → pendingPlayerConditionDamage p (min elapsed maxRegenerationElapsedSeconds) w =
        (.ok outcome.appliedDamage, w)) ∧
      ∀ conditions : PlayerConditions, left.playerConditions[p]? = some conditions →
        conditions.Sound :=
  ⟨fun _ _ hadmitted hfits => sameTicks hadmitted hhealth hsound hfits,
    fun _ _ _ h => ⟨fun halive => preview_eq halive hsound h, sound_after hsound h⟩⟩

/-! ### A poisoned player -/

/-- Somebody poisoned for 100 seconds, a point every second. -/
def poisonedWorld : GameWorld :=
  { GameWorld.empty with
    playerVitals := (∅ : BTreeMap ℕ PlayerVitals).insert 1 {}
    playerRespawnStates := (∅ : BTreeMap ℕ PlayerRespawnState).insert 1 {}
    playerConditions := (∅ : BTreeMap ℕ PlayerConditions).insert 1
      ((∅ : PlayerConditions).insert .poison ⟨.poison, 1, 1, 0, 100, 0⟩) }

theorem poisonedWorld_conditions {conditions : PlayerConditions} {kind : PlayerConditionKind}
    {c : PlayerCondition} (h : poisonedWorld.playerConditions[1]? = some conditions)
    (hc : conditions[kind]? = some c) : c = ⟨.poison, 1, 1, 0, 100, 0⟩ := by
  have hall : poisonedWorld.playerConditions[1]? =
      some ((∅ : PlayerConditions).insert .poison ⟨.poison, 1, 1, 0, 100, 0⟩) :=
    Std.ExtTreeMap.getElem?_insert_self
  rw [hall, Option.some.injEq] at h
  rw [← h, Std.ExtTreeMap.getElem?_insert] at hc
  split at hc
  · exact (Option.some.inj hc).symm
  · rw [Std.ExtTreeMap.getElem?_empty] at hc
    cases hc

theorem conditions_split_poisoned : SameTicks poisonedWorld 1 7 12 := by
  refine (conditions_split (w := poisonedWorld) (p := 1) ?_ ?_).1 7 12 (.inr (.inr (by decide))) ?_
  · intro vitals h
    have hvitals : poisonedWorld.playerVitals[1]? = some ({} : PlayerVitals) :=
      Std.ExtTreeMap.getElem?_insert_self
    rw [hvitals, Option.some.injEq] at h
    rw [← h]
    decide
  · intro conditions h kind c hc
    rw [poisonedWorld_conditions h hc]
    exact ⟨by decide, by decide, by decide⟩
  · intro conditions h kind c hc
    rw [poisonedWorld_conditions h hc]
    show 0 + min (min (7 + 12) maxRegenerationElapsedSeconds) 100 ≤ u16Max
    decide

/-- Somebody whose poison is one second before its end of about 18 hours. -/
def slowlyPoisonedWorld : GameWorld :=
  { poisonedWorld with
    playerConditions := (∅ : BTreeMap ℕ PlayerConditions).insert 1
      ((∅ : PlayerConditions).insert .poison ⟨.poison, 65535, 1, 0, 100, 65534⟩) }

/-- More than a minute at once is cut off, a counter stops at 65535, and a preview of more than a
minute is not. -/
theorem ticks_differ : ¬SameTicks poisonedWorld 1 40 40 ∧ ¬SameTicks slowlyPoisonedWorld 1 1 1 ∧
    (pendingPlayerConditionDamage 1 80 poisonedWorld).1.toOption ≠
      (applyPlayerConditions 1 80 poisonedWorld).1.toOption.map
        PlayerConditionOutcome.appliedDamage := by
  refine ⟨fun h => ?_, fun h => ?_, ?_⟩
  · have hdamage := congrArg Except.toOption h.1
    revert hdamage
    decide +kernel
  · have hcounter := congrArg (fun table => (table[1]?.bind fun conditions =>
      (conditions : PlayerConditions)[PlayerConditionKind.poison]?)) h.2.2
    revert hcounter
    decide +kernel
  · decide +kernel

end Game

end ForgottenEngine
