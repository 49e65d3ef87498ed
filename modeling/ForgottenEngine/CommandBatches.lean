import ForgottenEngine.Library.Fallible
import ForgottenEngine.Library.SortByKey

/-!
# Batches of commands for one tick

Workers hand validated commands to a bounded batch, in whatever order they come, and a tick drains
the batch in the order of the keys.

* `push_atomic` — a refused push leaves the batch as it was;
* `commands_pushAll` — a batch holds the commands it has accepted;
* `drainSorted_pushAll` — what a drain returns does not depend on the order of the pushes.
-/

namespace ForgottenEngine

open Fallible

def maxDeterministicCommandBatch : ℕ := 4096

structure DeterministicWorldCommandKey where
  tick : ℕ
  playerId : ℕ
  sessionSequence : ℕ
deriving DecidableEq

namespace DeterministicWorldCommandKey

/-- The fields as a lexicographic triple. -/
def triple (self : DeterministicWorldCommandKey) : ℕ ×ₗ ℕ ×ₗ ℕ :=
  toLex (self.tick, toLex (self.playerId, self.sessionSequence))

theorem triple_injective : Function.Injective triple := by
  intro a b h
  have hpair := toLex.injective h
  have hrest := toLex.injective (congrArg Prod.snd hpair)
  cases a
  cases b
  simp_all

/-- The fields are compared one after the other. -/
instance : LinearOrder DeterministicWorldCommandKey := LinearOrder.lift' triple triple_injective

end DeterministicWorldCommandKey

structure DeterministicWorldCommand (T : Type) where
  key : DeterministicWorldCommandKey
  payload : T
deriving DecidableEq

inductive DeterministicWorldCommandBatchError where
  | invalidLimit (limit : ℕ)
  | capacityExceeded (limit : ℕ)
  | duplicateKey (key : DeterministicWorldCommandKey)
deriving DecidableEq

/-- A batch within its limit, in which no two commands share a key. -/
structure DeterministicWorldCommandBatch (T : Type) where
  limit : ℕ
  commands : List (DeterministicWorldCommand T)
  bounded : commands.length ≤ limit
  distinct : (commands.map DeterministicWorldCommand.key).Nodup

namespace DeterministicWorldCommandBatch

variable {T : Type}

def new (limit : ℕ) : Except DeterministicWorldCommandBatchError
    (DeterministicWorldCommandBatch T) :=
  if limit = 0 ∨ maxDeterministicCommandBatch < limit then .error (.invalidLimit limit)
  else .ok ⟨limit, [], Nat.zero_le _, List.nodup_nil⟩

/-- The batch with one more command. -/
def accept (self : DeterministicWorldCommandBatch T) (command : DeterministicWorldCommand T)
    (hnew : ∀ existing ∈ self.commands, existing.key ≠ command.key)
    (hroom : self.commands.length < self.limit) : DeterministicWorldCommandBatch T where
  limit := self.limit
  commands := self.commands ++ [command]
  bounded := by
    rw [List.length_append]
    exact hroom
  distinct := by
    rw [List.map_append, List.nodup_append]
    refine ⟨self.distinct, List.nodup_singleton _, ?_⟩
    intro key hkey key' hkey' heq
    obtain ⟨existing, hmem, rfl⟩ := List.mem_map.mp hkey
    rw [List.map_singleton, List.mem_singleton] at hkey'
    exact hnew existing hmem (heq.trans hkey')

def push (command : DeterministicWorldCommand T) :
    Fallible DeterministicWorldCommandBatchError (DeterministicWorldCommandBatch T) Unit :=
  fun self =>
    if hnew : ∀ existing ∈ self.commands, existing.key ≠ command.key then
      if hroom : self.commands.length < self.limit then (.ok (), self.accept command hnew hroom)
      else (.error (.capacityExceeded self.limit), self)
    else (.error (.duplicateKey command.key), self)

/-- The commands in the order of their keys, and the emptied batch. -/
def drainSorted (self : DeterministicWorldCommandBatch T) :
    List (DeterministicWorldCommand T) × DeterministicWorldCommandBatch T :=
  (sortByKey DeterministicWorldCommand.key self.commands,
    ⟨self.limit, [], Nat.zero_le _, List.nodup_nil⟩)

/-! ### One push -/

variable {self : DeterministicWorldCommandBatch T} {command : DeterministicWorldCommand T}

/-- What an accepted push does. -/
theorem push_eq_ok {u : Unit} {batch : DeterministicWorldCommandBatch T}
    (h : push command self = (.ok u, batch)) :
    batch.limit = self.limit ∧ batch.commands = self.commands ++ [command] := by
  unfold push at h
  split at h
  · split at h
    · cases h
      exact ⟨rfl, rfl⟩
    · cases h
  · cases h

/-- A push is accepted when its key is new and the batch has room. -/
theorem push_ok (hnew : ∀ existing ∈ self.commands, existing.key ≠ command.key)
    (hroom : self.commands.length < self.limit) :
    push command self = (.ok (), self.accept command hnew hroom) := by
  unfold push
  rw [dif_pos hnew, dif_pos hroom]

/-- **A refused push leaves the batch as it was.** -/
theorem push_atomic (command : DeterministicWorldCommand T) : Atomic (push command) := by
  intro self e batch h
  unfold push at h
  split at h
  · split at h
    · cases h
    · cases h
      rfl
  · cases h
    rfl

/-! ### Many pushes -/

/-- The batch after some pushes, accepted or refused. -/
def pushAll (self : DeterministicWorldCommandBatch T)
    (commands : List (DeterministicWorldCommand T)) : DeterministicWorldCommandBatch T :=
  commands.foldl (fun batch command => (push command batch).2) self

/-- The commands of a series of pushes that were accepted. -/
def accepted (self : DeterministicWorldCommandBatch T) :
    List (DeterministicWorldCommand T) → List (DeterministicWorldCommand T)
  | [] => []
  | command :: commands =>
    match push command self with
    | (.ok (), batch) => command :: accepted batch commands
    | (.error _, batch) => accepted batch commands

theorem accepted_cons (self : DeterministicWorldCommandBatch T)
    (command : DeterministicWorldCommand T) (commands : List (DeterministicWorldCommand T)) :
    self.accepted (command :: commands) =
      match push command self with
      | (.ok (), batch) => command :: batch.accepted commands
      | (.error _, batch) => batch.accepted commands := rfl

/-- **A batch holds the commands it has accepted.** -/
theorem commands_pushAll (self : DeterministicWorldCommandBatch T)
    (commands : List (DeterministicWorldCommand T)) :
    (self.pushAll commands).commands = self.commands ++ self.accepted commands := by
  induction commands generalizing self with
  | nil => exact (List.append_nil _).symm
  | cons command commands ih =>
    show ((push command self).2.pushAll commands).commands = _
    rw [ih, accepted_cons]
    rcases hpush : push command self with ⟨e | u, batch⟩
    · rw [push_atomic command self e batch hpush]
    · rw [(push_eq_ok hpush).2, List.append_assoc]
      rfl

/-- Commands with keys of their own are all accepted, as long as they fit. -/
theorem accepted_eq (self : DeterministicWorldCommandBatch T)
    (commands : List (DeterministicWorldCommand T))
    (hkeys : ((self.commands ++ commands).map DeterministicWorldCommand.key).Nodup)
    (hroom : (self.commands ++ commands).length ≤ self.limit) :
    self.accepted commands = commands := by
  induction commands generalizing self with
  | nil => rfl
  | cons command commands ih =>
    have hnew : ∀ existing ∈ self.commands, existing.key ≠ command.key := by
      intro existing hmem heq
      rw [List.map_append, List.nodup_append] at hkeys
      exact hkeys.2.2 _ (List.mem_map_of_mem hmem) _ List.mem_cons_self heq
    have hless : self.commands.length < self.limit := by
      rw [List.length_append, List.length_cons] at hroom
      omega
    have hshift : self.commands ++ command :: commands =
        (self.accept command hnew hless).commands ++ commands := by
      show _ = self.commands ++ [command] ++ commands
      rw [List.append_assoc]
      rfl
    rw [hshift] at hkeys hroom
    rw [accepted_cons, push_ok hnew hless]
    exact congrArg (command :: ·) (ih (self.accept command hnew hless) hkeys hroom)

/-! ### Drains -/

/-- **The order of the pushes does not show.**  From an empty batch: commands with pairwise
different keys that fit are drained in one order, whatever the order of the pushes, each once; what
is drained after any pushes is what was accepted, each command once and in the order of the keys;
and a refused push leaves the batch as it was. -/
theorem drainSorted_pushAll (self : DeterministicWorldCommandBatch T) (hempty : self.commands = []) :
    (∀ commands commands' : List (DeterministicWorldCommand T), commands.Perm commands' →
      (commands.map DeterministicWorldCommand.key).Nodup → commands.length ≤ self.limit →
      (self.pushAll commands).drainSorted.1 = (self.pushAll commands').drainSorted.1 ∧
        (self.pushAll commands).drainSorted.1.Perm commands) ∧
    (∀ commands : List (DeterministicWorldCommand T),
      (self.pushAll commands).drainSorted.1.Perm (self.accepted commands) ∧
        (self.pushAll commands).drainSorted.1.Pairwise fun a b => a.key < b.key) ∧
    ∀ (batch : DeterministicWorldCommandBatch T) (command : DeterministicWorldCommand T) e batch',
      push command batch = (.error e, batch') → batch' = batch := by
  have hheld (commands : List (DeterministicWorldCommand T)) :
      (self.pushAll commands).commands = self.accepted commands := by
    rw [commands_pushAll, hempty, List.nil_append]
  refine ⟨?_, ?_, fun batch command => push_atomic command batch⟩
  · intro commands commands' hperm hkeys hroom
    have hall (pushed : List (DeterministicWorldCommand T)) (h : commands.Perm pushed) :
        (self.pushAll pushed).commands = pushed := by
      rw [hheld]
      refine accepted_eq self pushed ?_ ?_
      · rw [hempty, List.nil_append]
        exact (h.map _).nodup hkeys
      · rw [hempty, List.nil_append, ← h.length_eq]
        exact hroom
    unfold drainSorted
    rw [hall commands (.refl _), hall commands' hperm]
    exact ⟨sortByKey_eq_of_perm _ hperm hkeys, perm_sortByKey _ _⟩
  · intro commands
    unfold drainSorted
    refine ⟨hheld commands ▸ perm_sortByKey _ _, ?_⟩
    have hsorted := pairwise_sortByKey DeterministicWorldCommand.key (self.pushAll commands).commands
    have hdistinct := ((perm_sortByKey DeterministicWorldCommand.key
      (self.pushAll commands).commands).map _).symm.nodup (self.pushAll commands).distinct
    have hdifferent := List.pairwise_map.mp hdistinct
    exact hsorted.imp₂ (fun _ _ hle hne => lt_of_le_of_ne hle hne) hdifferent

/-- Three commands for two ticks. -/
def handoffs : List (DeterministicWorldCommand ℕ) :=
  [⟨⟨8, 9, 2⟩, 3⟩, ⟨⟨7, 10, 1⟩, 1⟩, ⟨⟨8, 9, 1⟩, 2⟩]

theorem drainSorted_handoffs : ∃ batch : DeterministicWorldCommandBatch ℕ, new 3 = .ok batch ∧
    (batch.pushAll handoffs).drainSorted.1 = (batch.pushAll handoffs.reverse).drainSorted.1 ∧
    (batch.pushAll handoffs).drainSorted.1.map DeterministicWorldCommand.payload = [1, 2, 3] := by
  refine ⟨⟨3, [], Nat.zero_le _, List.nodup_nil⟩, rfl, ?_, by decide⟩
  have hall := drainSorted_pushAll (⟨3, [], Nat.zero_le _, List.nodup_nil⟩ :
    DeterministicWorldCommandBatch ℕ) rfl
  exact (hall.1 handoffs handoffs.reverse (List.reverse_perm _).symm (by decide) (by decide)).1

end DeterministicWorldCommandBatch

end ForgottenEngine
