import ForgottenEngine.ClientActions
import ForgottenEngine.Progression
import ForgottenEngine.Library.Run

/-!
# The pace of a session's steps

Every voluntary step of a session costs one delay, a diagonal or a change of the floor two.  Two
clocks keep the pace: the cooldown `nextWalkAt`, which the manual steps and the immediate click
paths look at, and the deadline of the click-walk task, which only its scheduler looks at.

* A manual step may come `walkEarlyTolerance` early.  It is charged from the end of the cooldown,
  so that the next one is not early as well.
* A scheduled step may come late.  It is charged from its deadline, so that the lateness is made
  good; when it comes a whole delay late, from the time it is done.
* An immediate click path leaves an empty task with the deadline of a path that has to wait.  When
  the click came early, that deadline is the earlier of the two clocks.

`paced_of_keepsDeadline`: as long as no path is put into a task whose deadline is the earlier clock,
the displacements keep the pace from the moment the first of them is charged, less one tolerance.
Times are in nanoseconds.
-/

namespace ForgottenEngine

/-! ### The clocks -/

def walkEarlyTolerance : ℕ := 50000000

def NativeOtClientAutoWalkDirection.cardinalSteps :
    NativeOtClientAutoWalkDirection → List CardinalDirection
  | .east => [.east]
  | .northEast => [.north, .east]
  | .north => [.north]
  | .northWest => [.north, .west]
  | .west => [.west]
  | .southWest => [.south, .west]
  | .south => [.south]
  | .southEast => [.south, .east]

def nativeClickWalkSteps (path : List NativeOtClientAutoWalkDirection) : List CardinalDirection :=
  path.flatMap (·.cardinalSteps)

/-- The click-walk task of a session. -/
structure NativeActiveClickWalk where
  queuedSteps : List CardinalDirection
  nextStepDeadline : ℕ
  stepsExecuted : ℕ
  stopGraceUntil : ℕ
deriving DecidableEq, Repr

/-- A new path for the task; the deadline stays. -/
def NativeActiveClickWalk.replacePath (self : NativeActiveClickWalk)
    (path : List NativeOtClientAutoWalkDirection) (stopGraceUntil : ℕ) : NativeActiveClickWalk :=
  { self with queuedSteps := nativeClickWalkSteps path, stepsExecuted := 0, stopGraceUntil }

/-- The end of the cooldown after a displacement. -/
def advanceWalkCooldown (nextWalkAt now singleDelay : ℕ) (doubleCost : Bool) : ℕ :=
  max nextWalkAt now + if doubleCost then 2 * singleDelay else singleDelay

/-- The clock readings of one pass of the session: when it looks at the clocks, when the player is
displaced, and when the next deadline is set. -/
structure Reading where
  start : ℕ
  moved : ℕ
  finish : ℕ
  ordered : start ≤ moved ∧ moved ≤ finish
deriving DecidableEq

/-- What became of a step. -/
inductive MoveOutcome where
  | moved
  | teleported (floorChanged : Bool)
  | blocked
deriving DecidableEq, Repr

/-- An executed displacement: when it was done and when its cost starts to run. -/
structure Displacement where
  doneAt : ℕ
  chargedAt : ℕ
  scheduled : Bool
  diagonal : Bool
  floorChanged : Bool
deriving DecidableEq, Repr

/-- What a displacement costs. -/
def Displacement.cost (delay : ℕ) (self : Displacement) : ℕ :=
  if self.diagonal || self.floorChanged then 2 * delay else delay

/-- The two clocks of a session, and the displacements so far, the latest last. -/
structure WalkClocks where
  nextWalkAt : ℕ
  activeClickWalk : Option NativeActiveClickWalk
  executed : List Displacement

/-- The first step of a session is free. -/
def WalkClocks.atLogin (now : ℕ) : WalkClocks := ⟨now, none, []⟩

/-! ### The actions -/

namespace WalkClocks

variable (delay : ℕ) (now : Reading)

/-- A displacement that advances the cooldown. -/
def displace (self : WalkClocks) (scheduled diagonal floorChanged : Bool) : WalkClocks where
  nextWalkAt := advanceWalkCooldown self.nextWalkAt now.finish delay (diagonal || floorChanged)
  activeClickWalk := self.activeClickWalk
  executed := self.executed ++
    [⟨now.moved, max self.nextWalkAt now.finish, scheduled, diagonal, floorChanged⟩]

/-- The displacement of a step that moved or was teleported. -/
def settle (self : WalkClocks) (scheduled diagonal : Bool) : MoveOutcome → WalkClocks
  | .moved => self.displace delay now scheduled diagonal false
  | .teleported floorChanged => self.displace delay now scheduled diagonal floorChanged
  | .blocked => self

/-- A manual step: nothing while the cooldown runs, else the task ends and the step is tried. -/
def applyManualMove (self : WalkClocks) (diagonal : Bool) (outcome : MoveOutcome) : WalkClocks :=
  if now.start + walkEarlyTolerance < self.nextWalkAt then self
  else { self with activeClickWalk := none }.settle delay now false diagonal outcome

def applyNativeCardinalMoveAction (self : WalkClocks) (outcome : MoveOutcome) : WalkClocks :=
  self.applyManualMove delay now false outcome

def applyNativeDiagonalMoveAction (self : WalkClocks) (outcome : MoveOutcome) : WalkClocks :=
  self.applyManualMove delay now true outcome

/-- A click path: it replaces the path of the task, or becomes a task.  A single step is taken at
once when the cooldown allows. -/
def applyNativeAutowalkAction (self : WalkClocks) (path : List NativeOtClientAutoWalkDirection)
    (outcome : MoveOutcome) : WalkClocks :=
  match self.activeClickWalk with
  | some task =>
    { self with activeClickWalk := some (task.replacePath path (now.start + delay)) }
  | none =>
    let task : NativeActiveClickWalk :=
      ⟨nativeClickWalkSteps path, max self.nextWalkAt (now.start + delay), 0, now.start + delay⟩
    match task.queuedSteps with
    | [] => self
    | [_] =>
      if self.nextWalkAt ≤ now.start + walkEarlyTolerance then
        match outcome with
        | .moved =>
          { self.settle delay now false false .moved with
            activeClickWalk := some { task with queuedSteps := [], stepsExecuted := 1 } }
        | outcome => self.settle delay now false false outcome
      else { self with activeClickWalk := some task }
    | _ => { self with activeClickWalk := some task }

/-- The scheduler: one step of a task whose deadline has passed.  A step that moves chains the next
deadline to this one, unless it is already missed. -/
def pollClickWalk (self : WalkClocks) (outcome : MoveOutcome) : WalkClocks :=
  match self.activeClickWalk with
  | none => self
  | some task =>
    if now.start < task.nextStepDeadline then self
    else
      match task.queuedSteps with
      | [] => { self with activeClickWalk := none }
      | _ :: queuedSteps =>
        match outcome with
        | .moved =>
          let due := task.nextStepDeadline + delay
          let chargedAt := if due < now.finish then now.finish else task.nextStepDeadline
          { nextWalkAt := chargedAt + delay
            activeClickWalk := some { task with
              queuedSteps, nextStepDeadline := chargedAt + delay
              stepsExecuted := min (task.stepsExecuted + 1) u32Max }
            executed := self.executed ++ [⟨now.moved, chargedAt, true, false, false⟩] }
        | outcome =>
          { self.settle delay now true false outcome with activeClickWalk := none }

/-- A stop ends the task, unless it echoes an older cancellation. -/
def applyStop (self : WalkClocks) : WalkClocks :=
  if self.activeClickWalk.any fun task =>
      task.stepsExecuted = 0 ∧ now.start < task.stopGraceUntil then self
  else { self with activeClickWalk := none }

end WalkClocks

/-- What a session does with its clocks; the outcome of a step is up to the world. -/
inductive WalkInput where
  | cardinalMove (direction : CardinalDirection) (outcome : MoveOutcome)
  | diagonalMove (direction : NativeOtClientAutoWalkDirection) (outcome : MoveOutcome)
  | autoWalk (path : List NativeOtClientAutoWalkDirection) (outcome : MoveOutcome)
  | poll (outcome : MoveOutcome)
  | stop
  | turn (direction : CardinalDirection)
  /-- A used item has teleported the player. -/
  | usedTeleport

/-- One pass of the session. -/
def WalkClocks.step (delay : ℕ) (self : WalkClocks) (input : Reading × WalkInput) : WalkClocks :=
  match input.2 with
  | .cardinalMove _ outcome => self.applyNativeCardinalMoveAction delay input.1 outcome
  | .diagonalMove _ outcome => self.applyNativeDiagonalMoveAction delay input.1 outcome
  | .autoWalk path outcome => self.applyNativeAutowalkAction delay input.1 path outcome
  | .poll outcome => self.pollClickWalk delay input.1 outcome
  | .stop => self.applyStop input.1
  | .turn _ => { self with activeClickWalk := none }
  | .usedTeleport => { self with activeClickWalk := none }

/-! ### The pace -/

/-- What a run of displacements costs. -/
def totalCost (delay : ℕ) (displacements : List Displacement) : ℕ :=
  (displacements.map (Displacement.cost delay)).sum

/-- Any displacements in a row take at least what all but the last of them cost, less one
tolerance. -/
def WalkClocks.Paced (delay : ℕ) (self : WalkClocks) : Prop :=
  ∀ before first middle last behind,
    self.executed = before ++ first :: (middle ++ last :: behind) →
    first.doneAt + totalCost delay (first :: middle) ≤ last.doneAt + walkEarlyTolerance

/-- The pace counted from the moment the first displacement is charged.  A scheduled one may be
charged up to one delay before it is done, any other one is not charged before. -/
def WalkClocks.PacedFromCharge (delay : ℕ) (self : WalkClocks) : Prop :=
  ∀ before first middle last behind,
    self.executed = before ++ first :: (middle ++ last :: behind) →
    first.chargedAt + totalCost delay (first :: middle) ≤ last.doneAt + walkEarlyTolerance ∧
      first.doneAt ≤ first.chargedAt + if first.scheduled then delay else 0

/-- No path is put into a task whose deadline ends before the cooldown. -/
def KeepsDeadline (s : WalkClocks) (input : Reading × WalkInput) : Prop :=
  ∀ path outcome task, input.2 = .autoWalk path outcome → s.activeClickWalk = some task →
    s.nextWalkAt ≤ task.nextStepDeadline

/-- A task with steps left waits at least for the cooldown. -/
def WalkClocks.TaskWaits (self : WalkClocks) : Prop :=
  ∀ task, self.activeClickWalk = some task → task.queuedSteps ≠ [] →
    self.nextWalkAt ≤ task.nextStepDeadline

/-- How two displacements follow each other. -/
def Follows (delay : ℕ) (x y : Displacement) : Prop :=
  x.chargedAt + x.cost delay ≤ y.chargedAt ∧
    x.chargedAt + x.cost delay ≤ y.doneAt + walkEarlyTolerance

/-- A displacement is charged before it is done only when it was scheduled. -/
def Displacement.OnTime (delay : ℕ) (x : Displacement) : Prop :=
  x.doneAt ≤ x.chargedAt + if x.scheduled then delay else 0

/-- One pass executes nothing and leaves the cooldown, or it executes one displacement, which the
cooldown allows and which starts the next cooldown. -/
inductive Advances (delay : ℕ) (s s' : WalkClocks) : Prop
  | rests : s'.executed = s.executed → s'.nextWalkAt = s.nextWalkAt → Advances delay s s'
  | executes (x : Displacement) : s'.executed = s.executed ++ [x] →
      s'.nextWalkAt = x.chargedAt + x.cost delay → s.nextWalkAt ≤ x.chargedAt →
      s.nextWalkAt ≤ x.doneAt + walkEarlyTolerance → x.OnTime delay → Advances delay s s'

section Passes

variable {delay : ℕ} {now : Reading} {s : WalkClocks}

theorem advances_displace {scheduled diagonal floorChanged : Bool}
    (h : s.nextWalkAt ≤ now.start + walkEarlyTolerance) :
    Advances delay s (s.displace delay now scheduled diagonal floorChanged) := by
  obtain ⟨hmoved, hfinish⟩ := now.ordered
  refine .executes ⟨now.moved, max s.nextWalkAt now.finish, scheduled, diagonal, floorChanged⟩
    rfl rfl (le_max_left _ _) ?_ ?_
  · show s.nextWalkAt ≤ now.moved + walkEarlyTolerance
    omega
  · show now.moved ≤ max s.nextWalkAt now.finish + _
    omega

theorem advances_settle {scheduled diagonal : Bool} (outcome : MoveOutcome)
    (h : s.nextWalkAt ≤ now.start + walkEarlyTolerance) :
    Advances delay s (s.settle delay now scheduled diagonal outcome) := by
  cases outcome with
  | moved => exact advances_displace h
  | teleported floorChanged => exact advances_displace h
  | blocked => exact .rests rfl rfl

/-- The task has no part in how a pass advances the cooldown. -/
theorem Advances.setTask {s' t t' : WalkClocks} (h : Advances delay s s')
    (he : t.executed = s.executed) (hn : t.nextWalkAt = s.nextWalkAt)
    (he' : t'.executed = s'.executed) (hn' : t'.nextWalkAt = s'.nextWalkAt) :
    Advances delay t t' := by
  cases h with
  | rests hsame hclock => exact .rests (by rw [he', hsame, he]) (by rw [hn', hclock, hn])
  | executes x hadd hclock hcharge htol hontime =>
    exact .executes x (by rw [he', hadd, he]) (by rw [hn', hclock]) (by rw [hn]; exact hcharge)
      (by rw [hn]; exact htol) hontime

theorem advances_manual (diagonal : Bool) (outcome : MoveOutcome) :
    Advances delay s (s.applyManualMove delay now diagonal outcome) := by
  unfold WalkClocks.applyManualMove
  split
  · exact .rests rfl rfl
  · rename_i hfree
    have hsettled : Advances delay { s with activeClickWalk := none }
        ({ s with activeClickWalk := none }.settle delay now false diagonal outcome) :=
      advances_settle outcome (Nat.le_of_not_lt hfree)
    exact hsettled.setTask rfl rfl rfl rfl

theorem advances_autowalk (path : List NativeOtClientAutoWalkDirection) (outcome : MoveOutcome) :
    Advances delay s (s.applyNativeAutowalkAction delay now path outcome) := by
  unfold WalkClocks.applyNativeAutowalkAction
  cases s.activeClickWalk with
  | some task => exact .rests rfl rfl
  | none =>
    cases nativeClickWalkSteps path with
    | nil => exact .rests rfl rfl
    | cons direction rest =>
      cases rest with
      | cons _ _ => exact .rests rfl rfl
      | nil =>
        dsimp only
        split
        · rename_i hfree
          cases outcome with
          | moved =>
            have hsettled : Advances delay s (s.settle delay now false false .moved) :=
              advances_settle _ hfree
            exact hsettled.setTask rfl rfl rfl rfl
          | teleported floorChanged => exact advances_settle _ hfree
          | blocked => exact .rests rfl rfl
        · exact .rests rfl rfl

/-- The scheduler looks at the deadline only: the cooldown allows the step because the task has
waited for it. -/
theorem advances_poll (h : s.TaskWaits) (outcome : MoveOutcome) :
    Advances delay s (s.pollClickWalk delay now outcome) := by
  unfold WalkClocks.pollClickWalk
  cases htask : s.activeClickWalk with
  | none => exact .rests rfl rfl
  | some task =>
    dsimp only
    split
    · exact .rests rfl rfl
    · rename_i hdue
      cases hsteps : task.queuedSteps with
      | nil => exact .rests rfl rfl
      | cons direction rest =>
        have hwaits : s.nextWalkAt ≤ task.nextStepDeadline :=
          h task htask (by rw [hsteps]; exact List.cons_ne_nil _ _)
        obtain ⟨hmoved, hfinish⟩ := now.ordered
        have hfree : s.nextWalkAt ≤ now.start + walkEarlyTolerance := by omega
        cases outcome with
        | moved =>
          refine .executes ⟨now.moved, if task.nextStepDeadline + delay < now.finish then now.finish
            else task.nextStepDeadline, true, false, false⟩ rfl rfl ?_ ?_ ?_
          · show s.nextWalkAt ≤ if _ then _ else _
            split <;> omega
          · show s.nextWalkAt ≤ now.moved + walkEarlyTolerance
            omega
          · show now.moved ≤ (if _ then _ else _) + delay
            split <;> omega
        | teleported floorChanged =>
          have hsettled : Advances delay s (s.settle delay now true false (.teleported floorChanged)) :=
            advances_settle _ hfree
          exact hsettled.setTask rfl rfl rfl rfl
        | blocked => exact .rests rfl rfl

/-- **What one pass does to the cooldown.** -/
theorem advances_step (h : s.TaskWaits) (input : Reading × WalkInput) :
    Advances delay s (s.step delay input) := by
  obtain ⟨now, input⟩ := input
  cases input with
  | cardinalMove direction outcome => exact advances_manual false outcome
  | diagonalMove direction outcome => exact advances_manual true outcome
  | autoWalk path outcome => exact advances_autowalk path outcome
  | poll outcome => exact advances_poll h outcome
  | stop =>
    show Advances delay s (s.applyStop now)
    unfold WalkClocks.applyStop
    split <;> exact .rests rfl rfl
  | turn direction => exact .rests rfl rfl
  | usedTeleport => exact .rests rfl rfl

end Passes

/-! ### The task -/

section Tasks

variable {delay : ℕ} {s : WalkClocks}

theorem taskWaits_none (h : s.activeClickWalk = none) : s.TaskWaits := by
  intro task htask
  rw [h] at htask
  cases htask

theorem settle_task (now : Reading) (scheduled diagonal : Bool) (outcome : MoveOutcome) :
    (s.settle delay now scheduled diagonal outcome).activeClickWalk = s.activeClickWalk := by
  cases outcome <;> rfl

theorem taskWaits_manual (now : Reading) (diagonal : Bool) (outcome : MoveOutcome)
    (h : s.TaskWaits) : (s.applyManualMove delay now diagonal outcome).TaskWaits := by
  unfold WalkClocks.applyManualMove
  split
  · exact h
  · exact taskWaits_none (settle_task now false diagonal outcome)

theorem taskWaits_autowalk (now : Reading) (path : List NativeOtClientAutoWalkDirection)
    (outcome : MoveOutcome) (hkeeps : KeepsDeadline s (now, .autoWalk path outcome)) :
    (s.applyNativeAutowalkAction delay now path outcome).TaskWaits := by
  unfold WalkClocks.applyNativeAutowalkAction
  cases htask : s.activeClickWalk with
  | some task =>
    intro replaced hreplaced _
    cases hreplaced
    exact hkeeps path outcome task rfl htask
  | none =>
    have hnew : ∀ queuedSteps, WalkClocks.TaskWaits ⟨s.nextWalkAt,
        some ⟨queuedSteps, max s.nextWalkAt (now.start + delay), 0, now.start + delay⟩,
        s.executed⟩ := by
      intro queuedSteps task hcreated _
      cases hcreated
      exact le_max_left _ _
    cases nativeClickWalkSteps path with
    | nil => exact taskWaits_none htask
    | cons direction rest =>
      cases rest with
      | cons _ _ => exact hnew _
      | nil =>
        dsimp only
        split
        · cases outcome with
          | moved =>
            -- The task stays without steps, whatever its deadline is.
            intro task hcreated hsteps
            cases hcreated
            exact absurd rfl hsteps
          | teleported floorChanged => exact taskWaits_none htask
          | blocked => exact taskWaits_none htask
        · exact hnew _

theorem taskWaits_poll (now : Reading) (outcome : MoveOutcome) (h : s.TaskWaits) :
    (s.pollClickWalk delay now outcome).TaskWaits := by
  unfold WalkClocks.pollClickWalk
  cases htask : s.activeClickWalk with
  | none => exact h
  | some task =>
    dsimp only
    split
    · exact h
    · cases task.queuedSteps with
      | nil => exact taskWaits_none rfl
      | cons direction rest =>
        cases outcome with
        | moved =>
          intro chained hchained _
          cases hchained
          exact le_rfl
        | teleported floorChanged => exact taskWaits_none rfl
        | blocked => exact taskWaits_none rfl

theorem taskWaits_step {input : Reading × WalkInput} (h : s.TaskWaits)
    (hkeeps : KeepsDeadline s input) : (s.step delay input).TaskWaits := by
  obtain ⟨now, input⟩ := input
  cases input with
  | cardinalMove direction outcome => exact taskWaits_manual now false outcome h
  | diagonalMove direction outcome => exact taskWaits_manual now true outcome h
  | autoWalk path outcome => exact taskWaits_autowalk now path outcome hkeeps
  | poll outcome => exact taskWaits_poll now outcome h
  | stop =>
    show (s.applyStop now).TaskWaits
    unfold WalkClocks.applyStop
    split
    · exact h
    · exact taskWaits_none rfl
  | turn direction => exact taskWaits_none rfl
  | usedTeleport => exact taskWaits_none rfl

end Tasks

/-! ### Runs -/

/-- The invariant of a run: the cooldown is the end of the latest charge, and each displacement has
waited for the charge before it. -/
structure WalkClocks.Chained (delay : ℕ) (s : WalkClocks) : Prop where
  waits : s.TaskWaits
  onTime : ∀ x ∈ s.executed, x.OnTime delay
  chain : s.executed.IsChain (Follows delay)
  latest : ∀ x ∈ s.executed.getLast?, s.nextWalkAt = x.chargedAt + x.cost delay

section Runs

variable {delay : ℕ} {s s' : WalkClocks}

theorem chained_atLogin (now : ℕ) : (WalkClocks.atLogin now).Chained delay where
  waits := taskWaits_none rfl
  onTime := by
    intro x hx
    cases hx
  chain := .nil
  latest := by
    intro x hx
    cases hx

/-- **Step lemma.** -/
theorem chained_step {input : Reading × WalkInput} (h : s.Chained delay)
    (hkeeps : KeepsDeadline s input) : (s.step delay input).Chained delay := by
  have hwaits : (s.step delay input).TaskWaits := taskWaits_step h.waits hkeeps
  cases advances_step h.waits input with
  | rests hsame hclock =>
    refine ⟨hwaits, ?_, ?_, ?_⟩
    · rw [hsame]; exact h.onTime
    · rw [hsame]; exact h.chain
    · rw [hsame, hclock]; exact h.latest
  | executes x hadd hclock hcharge htol hontime =>
    refine ⟨hwaits, ?_, ?_, ?_⟩
    · rw [hadd]
      intro y hy
      rcases List.mem_append.mp hy with hy | hy
      · exact h.onTime y hy
      · rw [List.mem_singleton.mp hy]
        exact hontime
    · rw [hadd]
      refine h.chain.append (.singleton x) fun y hy z hz => ?_
      have hz : x = z := Option.some.inj hz
      have hend : s.nextWalkAt = y.chargedAt + y.cost delay := h.latest y hy
      rw [← hz]
      exact ⟨by omega, by omega⟩
    · intro y hy
      rw [hadd, List.getLast?_concat] at hy
      have hy : x = y := Option.some.inj hy
      rw [← hy]
      exact hclock

/-- Along a chain the costs add up. -/
theorem totalCost_le_of_chain {first last : Displacement} {middle behind : List Displacement}
    (h : (first :: (middle ++ last :: behind)).IsChain (Follows delay)) :
    first.chargedAt + totalCost delay (first :: middle) ≤ last.doneAt + walkEarlyTolerance := by
  induction middle generalizing first with
  | nil =>
    have hfollows : Follows delay first last := (List.isChain_cons_cons.mp h).1
    show first.chargedAt + (first.cost delay + 0) ≤ _
    exact hfollows.2
  | cons next middle ih =>
    obtain ⟨hfollows, hrest⟩ := List.isChain_cons_cons.mp h
    have htail := ih hrest
    have hsplit : totalCost delay (first :: next :: middle) =
        first.cost delay + totalCost delay (next :: middle) := rfl
    have hcharge := hfollows.1
    omega

/-- **The pace of a session.**  In every run in which no path is put into a task whose deadline ends
before the cooldown, the displacements keep the pace from the moment the first is charged. -/
theorem paced_of_keepsDeadline {login : ℕ}
    (h : Reaches (WalkClocks.step delay) KeepsDeadline (.atLogin login) s) :
    s.PacedFromCharge delay := by
  have hchained : s.Chained delay :=
    h.invariant (fun _ _ hs hkeeps => chained_step hs hkeeps) (chained_atLogin login)
  intro before first middle last behind hexecuted
  have hchain := hchained.chain
  rw [hexecuted] at hchain
  refine ⟨totalCost_le_of_chain hchain.right_of_append, hchained.onTime first ?_⟩
  rw [hexecuted]
  exact List.mem_append_right _ List.mem_cons_self

end Runs

/-- One pass after the other, none before the login. -/
def Timely (login : ℕ) (inputs : List (Reading × WalkInput)) : Prop :=
  (∀ input ∈ inputs, login ≤ input.1.start) ∧
    inputs.IsChain fun earlier later => earlier.1.finish ≤ later.1.start

/-- A pass that takes no time. -/
def Reading.instant (time : ℕ) : Reading := ⟨time, time, time, le_rfl, le_rfl⟩

/-- Half a second. -/
def halfSecond : ℕ := 500000000

/-- A path of two steps at the login, the first of them scheduled 400 ms late. -/
def latePoll : List (Reading × WalkInput) :=
  [(.instant 0, .autoWalk [.east, .east] .moved),
    (.instant 900000000, .poll .moved),
    (.instant 1000000000, .poll .moved)]

theorem latePoll_executed : (latePoll.foldl (WalkClocks.step halfSecond) (.atLogin 0)).executed =
    [⟨900000000, 500000000, true, false, false⟩, ⟨1000000000, 1000000000, true, false, false⟩] := by
  decide +kernel

/-- **A late step is made good**: the second step follows 100 ms after the first. -/
theorem latePoll_hurries : ¬∀ (delay login : ℕ) (inputs : List (Reading × WalkInput)), 0 < delay →
    Timely login inputs → (inputs.foldl (WalkClocks.step delay) (.atLogin login)).Paced delay := by
  intro h
  have htimely : Timely 0 latePoll := by
    refine ⟨fun _ _ => Nat.zero_le _, ?_⟩
    unfold latePoll
    simp [Reading.instant]
  have hpaced := h halfSecond 0 latePoll (by decide) htimely [] _ [] _ [] latePoll_executed
  exact absurd hpaced (by decide)

/-- A click on the next tile 50 ms early, a second click into the empty task it leaves, and a manual
step that is early again. -/
def earlyClick : List (Reading × WalkInput) :=
  [(.instant 0, .cardinalMove .east .moved),
    (.instant 450000000, .autoWalk [.east] .moved),
    (.instant 460000000, .autoWalk [.east] .moved),
    (.instant 950000000, .poll .moved),
    (.instant 1400000000, .cardinalMove .east .moved)]

theorem earlyClick_executed :
    (earlyClick.foldl (WalkClocks.step halfSecond) (.atLogin 0)).executed =
      [⟨0, 0, false, false, false⟩, ⟨450000000, 500000000, false, false, false⟩,
        ⟨950000000, 950000000, true, false, false⟩,
        ⟨1400000000, 1450000000, false, false, false⟩] := by
  decide +kernel

/-- **The tolerance adds up** when a path is put into the task of an early click. -/
theorem earlyClick_hurries :
    ¬(earlyClick.foldl (WalkClocks.step halfSecond) (.atLogin 0)).PacedFromCharge halfSecond := by
  intro h
  have hpaced := (h [] _ [_, _] _ [] earlyClick_executed).1
  exact absurd hpaced (by decide)

/-- A step, an early diagonal one, and the first step of a path. -/
def steadyWalk : List (Reading × WalkInput) :=
  [(.instant 0, .cardinalMove .east .moved),
    (.instant 450000000, .diagonalMove .northEast .moved),
    (.instant 600000000, .autoWalk [.east, .north] .moved),
    (.instant 1500000000, .poll .moved)]

/-- The run theorem at that run. -/
theorem paced_of_keepsDeadline_steadyWalk :
    (steadyWalk.foldl (WalkClocks.step halfSecond) (.atLogin 0)).PacedFromCharge halfSecond ∧
      (steadyWalk.foldl (WalkClocks.step halfSecond) (.atLogin 0)).executed.map
        Displacement.doneAt = [0, 450000000, 1500000000] := by
  refine ⟨paced_of_keepsDeadline (.foldl .start ⟨?_, ?_, ?_, ?_, trivial⟩), by decide⟩
  · intro path outcome task hinput
    cases hinput
  · intro path outcome task hinput
    cases hinput
  · intro path outcome task _ htask
    cases htask
  · intro path outcome task hinput
    cases hinput

end ForgottenEngine
