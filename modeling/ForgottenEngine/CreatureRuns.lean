import ForgottenEngine.PartyRuns

/-!
# Runs and the creatures

Most operations leave the creatures, the index of their tiles and the clock as they are.  A
property of these three (`AboutCreatures`) therefore has to be checked for the creature events
only, for the clock, and for a removal, which takes targets away.

* `AboutCreatures.step` — what is left to check for a run;
* `occupied_iff_standsAt` — **the index is the set of the active creatures' tiles** in every run, whatever the
  events and whether they are accepted or refused.
-/

namespace ForgottenEngine

open Fallible Game

/-- `P` is about the creatures, the index of their tiles and the clock, and time does not break
it. -/
structure AboutCreatures (P : GameWorld → Prop) : Prop where
  same : ∀ w w' : GameWorld, w'.staticCreatures = w.staticCreatures →
    w'.staticOccupiedPositions = w.staticOccupiedPositions → w'.tick = w.tick → P w → P w'
  tick : ∀ (w : GameWorld) seconds, P w → P (w.putTick (saturatingAdd w.tick seconds))

namespace AboutCreatures

variable {P : GameWorld → Prop} (h : AboutCreatures P)
include h

/-- A write beside the three. -/
theorem beside {w w' : GameWorld} (hw : P w) (hcreatures : w'.staticCreatures = w.staticCreatures)
    (hindex : w'.staticOccupiedPositions = w.staticOccupiedPositions) (htick : w'.tick = w.tick) :
    P w' := h.same w w' hcreatures hindex htick hw

theorem robust : Robust P where
  changed := fun _ hw => h.beside hw rfl rfl rfl
  tick := h.tick
  inventory := fun _ _ hframe hw => h.beside hw rfl rfl hframe.tick
  player := fun _ _ _ _ _ _ _ hw => h.beside hw rfl rfl rfl
  vitals := fun _ _ _ _ _ _ hw => h.beside hw rfl rfl rfl
  conditions := fun _ _ _ _ _ _ hw => h.beside hw rfl rfl rfl
  lifecycle := fun _ _ _ _ _ _ hw => h.beside hw rfl rfl rfl
  died := fun _ _ _ _ _ _ _ _ hw => h.beside hw rfl rfl rfl
  respawned := fun _ _ _ _ _ _ _ _ _ hw => h.beside hw rfl rfl rfl
  intent := fun _ _ _ _ _ hw => h.beside hw rfl rfl rfl
  books := fun _ _ hbooks hw =>
    h.beside hw (congrArg (fun l : LivingWorld => l.staticCreatures) hbooks.living)
      (congrArg (fun l : LivingWorld => l.staticOccupiedPositions) hbooks.living)
      (congrArg (fun l : LivingWorld => l.tick) hbooks.living)

/-- **Only removals and creature events count.** -/
theorem step (toLowercase : String → String) {w : GameWorld} {event : GameEvent} (hw : P w)
    (hremoved : ∀ p, event = .removePlayer p → P (w.removed p))
    (hcreature : ∀ e, event = .creature e → Leaves P (e.perform toLowercase) w) :
    P (event.step toLowercase w) := by
  have hchanged := h.robust.changed
  show Leaves P (event.perform toLowercase) w
  cases event with
  | addPlayer player vitals progression =>
    exact leaves_addPlayer hchanged hw fun _ _ => h.beside hw rfl rfl rfl
  | removePlayer p => exact leaves_void.mpr (leaves_removePlayer hchanged hw fun _ => hremoved p rfl)
  | inventory e => exact h.robust.stays_inventory e w hw
  | player e => exact h.robust.stays_player e w hw
  | upkeep e => exact h.robust.stays_upkeep e w hw
  | overwrite e =>
    refine leaves_overwrite e hchanged hw fun w' hwrites => ?_
    cases hwrites with
    | lifecycle | vitals | conditions | condition | haste | experience | levels | frag =>
      exact h.beside hw rfl rfl rfl
  | creature e => exact hcreature e rfl
  | party e => exact leaves_party hchanged hw e fun t' _ => h.beside hw rfl rfl rfl

end AboutCreatures

/-! ### The index -/

/-- The index holds the tiles of the active creatures, and no others. -/
def Indexed (w : GameWorld) : Prop :=
  ∀ position, position ∈ w.staticOccupiedPositions ↔ StandsAt w.staticCreatures position

theorem sameStances_map {creatures : BTreeMap ℕ StaticCreatureRuntime}
    {f : StaticCreatureRuntime → StaticCreatureRuntime} (hf : ∀ r, stance (f r) = stance r) :
    SameStances creatures (creatures.map fun _ r => f r) := by
  intro id
  rw [Std.ExtTreeMap.getElem?_map, Option.map_map]
  congr 1
  funext r
  exact hf r

theorem stance_withoutTarget (p : ℕ) (r : StaticCreatureRuntime) :
    stance (GameWorld.withoutTarget p r) = stance r := by
  unfold GameWorld.withoutTarget
  split
  · rfl
  · rfl

namespace Indexed

variable {w : GameWorld}

theorem about : AboutCreatures Indexed where
  same := by
    intro w w' hcreatures hindex _ hw
    unfold Indexed
    rw [hcreatures, hindex]
    exact hw
  tick := fun _ _ hw => hw

/-- A refreshed index is right, whatever it was before. -/
theorem putRegistry (w : GameWorld) (creatures : BTreeMap ℕ StaticCreatureRuntime) :
    Indexed (w.putRegistry creatures) := fun _ => mem_activePositions

/-- Creatures may change beside their stances. -/
theorem sameStances (hw : Indexed w) {w' : GameWorld}
    (hsame : SameStances w.staticCreatures w'.staticCreatures)
    (hindex : w'.staticOccupiedPositions = w.staticOccupiedPositions) : Indexed w' := by
  intro position
  rw [hindex, hsame.standsAt_iff]
  exact hw position

theorem robustEdits : RobustEdits Indexed where
  narrowed := fun _ _ _ hw => hw
  edited := by
    intro w id r r' hr hedited hw
    refine hw.sameStances (sameStances_insert hr ?_) rfl
    rw [hedited.same]
    rfl
  moved := fun _ _ _ _ _ _ _ _ _ => putRegistry _ _
  deactivated := fun _ _ _ _ _ => putRegistry _ _

theorem step (toLowercase : String → String) (hw : Indexed w) (event : GameEvent) :
    Indexed (event.step toLowercase w) := by
  refine about.step toLowercase hw (fun p _ => ?_) fun e _ => ?_
  · exact hw.sameStances (sameStances_map (stance_withoutTarget p)) rfl
  · by_cases hedits : e.EditsOnly
    · exact robustEdits.stays_edits about.robust toLowercase hedits w hw
    · refine leaves_registry toLowercase hedits about.robust.changed hw fun w' hwrites => ?_
      cases hwrites with
      | installed | spawned | despawned | reset | reactivated => exact putRegistry _ _
      | restored => exact putRegistry _ _
      | undisturbed _ hsame => exact hw.sameStances hsame rfl

end Indexed

/-- **The index is the set of the active creatures' tiles**, after any events. -/
theorem occupied_iff_standsAt (toLowercase : String → String) (events : List GameEvent) (position : Position) :
    position ∈ (events.foldl (GameEvent.step toLowercase) .empty).staticOccupiedPositions ↔
      StandsAt (events.foldl (GameEvent.step toLowercase) .empty).staticCreatures position := by
  have hall : ∀ w, Indexed w → Indexed (events.foldl (GameEvent.step toLowercase) w) := by
    induction events with
    | nil => exact fun _ hw => hw
    | cons event events ih => exact fun w hw => ih _ (hw.step toLowercase event)
  refine hall .empty (fun position => ?_) position
  exact separated_empty.indexed position

end ForgottenEngine
