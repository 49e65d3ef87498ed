import ForgottenEngine.CreatureRuns
import ForgottenEngine.DeadPlayers

/-!
# Planned batches are carried out

The planner of `applyStaticCreaturePolicy` works on a set of tiles; the steps are then checked
against the registry.  The set says who stands where as long as no two active creatures share a
tile: giving a tile back means that nobody is left on it.  So the plan and the steps advance side
by side (`Planned`), and no step is refused (`policyCompletes`).  Two creatures that were installed
on one tile break this: the first one leaves, the tile counts as free, and the next one to come
is refused after others have moved.
-/

namespace ForgottenEngine

open Fallible

/-- The creature on another tile. -/
def StaticCreatureRuntime.movedTo (r : StaticCreatureRuntime) (destination : Position) :
    StaticCreatureRuntime :=
  { r with entity := { r.entity with position := destination } }

/-- The world after one creature's step. -/
def LivingWorld.stepped (w : LivingWorld) (id : ℕ) (r : StaticCreatureRuntime)
    (destination : Position) : LivingWorld :=
  (w.putCreatures (w.staticCreatures.insert id
    (r.movedTo destination))).refreshStaticCreatureOccupancy.changed

namespace Living

/-- Every decision was carried out, and nobody else was written. -/
structure CarriedOut (w w' : LivingWorld) (decisions : List StaticCreatureMoveDecision) : Prop where
  moved : ∀ decision ∈ decisions, ∃ (r : StaticCreatureRuntime) (destination : Position),
    w.staticCreatures[decision.creatureId]? = some r ∧
      r.entity.position.step decision.direction = .ok destination ∧
      w'.staticCreatures[decision.creatureId]? = some (r.movedTo destination)
  still : ∀ id : ℕ, id ∉ decisions.map (·.creatureId) → w'.staticCreatures[id]? = w.staticCreatures[id]?

/-- The policy returns what was planned, and all of it has happened. -/
def Completes (w : LivingWorld) (policy : StaticCreatureDecisionPolicy) (worldMap : WorldMap) :
    Prop :=
  ∃ w', applyStaticCreaturePolicy policy worldMap w =
      (.ok (planStaticCreatureMoves policy worldMap w), w') ∧
    CarriedOut w w' (planStaticCreatureMoves policy worldMap w).decisions

/-- The policy is applied as a whole: it completes, and an error would leave every creature where
it was. -/
def AppliesWhole (w : LivingWorld) (policy : StaticCreatureDecisionPolicy) (worldMap : WorldMap) :
    Prop :=
  Completes w policy worldMap ∧ ∀ e w', applyStaticCreaturePolicy policy worldMap w = (.error e, w') →
    w'.staticCreatures = w.staticCreatures

theorem AppliesWhole.unmoved {w : LivingWorld} {policy : StaticCreatureDecisionPolicy}
    {worldMap : WorldMap} {e : CoreError} (h : AppliesWhole w policy worldMap)
    (herror : (applyStaticCreaturePolicy policy worldMap w).1 = .error e) :
    (applyStaticCreaturePolicy policy worldMap w).2.staticCreatures = w.staticCreatures :=
  h.2 e _ (Prod.ext herror rfl)

/-! ### One step -/

theorem move_eq_ok {u : LivingWorld} {id : ℕ} {r : StaticCreatureRuntime}
    {direction : CardinalDirection} {destination : Position} {worldMap : WorldMap}
    (hr : u.staticCreatures[id]? = some r) (hactive : r.active = true)
    (hstep : r.entity.position.step direction = .ok destination)
    (hwalk : worldMap.isWalkable destination) (hplayer : ¬u.isPlayerOccupied destination)
    (hother : ∀ (j : ℕ) (b : StaticCreatureRuntime), j ≠ id → u.staticCreatures[j]? = some b →
      b.active = true → b.entity.position ≠ destination) :
    moveStaticCreatureCardinal id direction worldMap u =
      (.ok (r.entity.position, destination), u.stepped id r destination) := by
  have hfree : ¬(u.staticCreatures.toList.any fun e =>
      decide (e.1 ≠ id ∧ e.2.active ∧ e.2.entity.position = destination)) = true := by
    intro hany
    obtain ⟨⟨j, b⟩, hmem, hb⟩ := List.any_eq_true.mp hany
    obtain ⟨hj, hbactive, hbpos⟩ := of_decide_eq_true hb
    exact hother j b hj (Std.ExtTreeMap.mem_toList_iff_getElem?_eq_some.mp hmem) hbactive hbpos
  simp only [moveStaticCreatureCardinal, bind_apply,
    readOr_of_some (f := fun u : LivingWorld => u.staticCreatures[id]?) _ hr, hactive,
    not_true_eq_false, if_false, hstep, ofExcept_apply, read_apply, hwalk, hplayer, hfree,
    Bool.false_eq_true]
  simp only [write_apply, markChanged, pure_apply, LivingWorld.stepped,
    StaticCreatureRuntime.movedTo, hactive]

theorem freeStep_eq_some {w : LivingWorld} {worldMap : WorldMap} {occupied : Finset Position}
    {source destination : Position} {d d' : CardinalDirection}
    (h : freeStep w worldMap occupied source d = some (d', destination)) :
    d' = d ∧ source.step d = .ok destination ∧ worldMap.isWalkable destination ∧
      ¬w.isPlayerOccupied destination ∧ destination ∉ occupied := by
  simp only [freeStep] at h
  split at h
  · cases h
  · rename_i target hstep
    simp only [Option.ite_none_right_eq_some, Option.some.injEq, Prod.mk.injEq] at h
    obtain ⟨⟨hwalk, hplayer, hfree⟩, rfl, rfl⟩ := h
    exact ⟨rfl, hstep, hwalk, hplayer, hfree⟩

/-! ### Plan and steps side by side -/

/-- The tiles of everybody but one creature. -/
theorem mem_erase_iff {u : LivingWorld} {tiles : Finset Position} {id : ℕ}
    {r : StaticCreatureRuntime} (htiles : ∀ position, position ∈ tiles ↔ StandsAt u.staticCreatures position)
    (halone : StandAlone u.staticCreatures) (hr : u.staticCreatures[id]? = some r)
    (hactive : r.active = true) {position : Position} :
    position ∈ tiles.erase r.entity.position ↔ ∃ (j : ℕ) (b : StaticCreatureRuntime), j ≠ id ∧
      u.staticCreatures[j]? = some b ∧ b.active = true ∧ b.entity.position = position := by
  rw [Finset.mem_erase, htiles]
  constructor
  · rintro ⟨hne, j, b, hb, hbactive, hbpos⟩
    refine ⟨j, b, fun heq => hne ?_, hb, hbactive, hbpos⟩
    subst heq
    obtain rfl := Option.some.inj (hr.symm.trans hb)
    exact hbpos.symm
  · rintro ⟨j, b, hj, hb, hbactive, hbpos⟩
    refine ⟨fun heq => hj ?_, j, b, hb, hbactive, hbpos⟩
    exact halone j id b r hb hr hbactive hactive (hbpos.trans heq)

/-- After some creatures had their turn: what is planned is carried out up to the world `u`, and
the planner knows who stands where in it. -/
structure Planned (w : LivingWorld) (worldMap : WorldMap) (pre : List (ℕ × StaticCreatureRuntime))
    (plan : Finset Position × StaticCreatureDecisionBatch) (u : LivingWorld) : Prop where
  run : plan.2.decisions.foldlM (applyDecision worldMap) () w = (.ok (), u)
  players : u.players = w.players
  tiles : ∀ position, position ∈ plan.1 ↔ StandsAt u.staticCreatures position
  alone : StandAlone u.staticCreatures
  decided : ∀ decision ∈ plan.2.decisions, decision.creatureId ∈ pre.map Prod.fst
  carried : CarriedOut w u plan.2.decisions

namespace Planned

variable {w u : LivingWorld} {worldMap : WorldMap} {pre : List (ℕ × StaticCreatureRuntime)}
  {plan : Finset Position × StaticCreatureDecisionBatch}

/-- The same, after the turn of a creature that stays. -/
theorem stay (h : Planned w worldMap pre plan u) (entry : ℕ × StaticCreatureRuntime)
    {tiles : Finset Position} {skipped : ℕ} (htiles : tiles = plan.1) :
    Planned w worldMap (pre ++ [entry]) (tiles, { plan.2 with skipped := skipped }) u where
  run := h.run
  players := h.players
  tiles := htiles ▸ h.tiles
  alone := h.alone
  decided := fun decision hd => by simp [h.decided decision hd]
  carried := h.carried

/-- The creature whose turn it is has not moved yet. -/
theorem lookup (h : Planned w worldMap pre plan u) {id : ℕ} {r : StaticCreatureRuntime}
    (hnew : id ∉ pre.map Prod.fst) (hr : w.staticCreatures[id]? = some r) :
    u.staticCreatures[id]? = some r := by
  rw [h.carried.still id fun hmem => ?_, hr]
  obtain ⟨decision, hd, rfl⟩ := List.mem_map.mp hmem
  exact hnew (h.decided decision hd)

/-- The turn of a creature that finds a free tile. -/
theorem move (h : Planned w worldMap pre plan u) {id : ℕ} {r : StaticCreatureRuntime}
    (hnew : id ∉ pre.map Prod.fst) (hr : w.staticCreatures[id]? = some r)
    (hactive : r.active = true) {direction : CardinalDirection} {destination : Position}
    (hfree : freeStep w worldMap (plan.1.erase r.entity.position) r.entity.position direction =
      some (direction, destination)) :
    ∃ u', Planned w worldMap (pre ++ [(id, r)])
      (insert destination (plan.1.erase r.entity.position),
        { plan.2 with decisions := plan.2.decisions ++ [⟨id, direction⟩] }) u' := by
  have hlookup := h.lookup hnew hr
  obtain ⟨-, hstep, hwalk, hplayer, htile⟩ := freeStep_eq_some hfree
  have hother : ∀ (j : ℕ) (b : StaticCreatureRuntime), j ≠ id → u.staticCreatures[j]? = some b →
      b.active = true → b.entity.position ≠ destination := by
    intro j b hj hb hbactive hbpos
    exact htile ((mem_erase_iff h.tiles h.alone hlookup hactive).mpr ⟨j, b, hj, hb, hbactive, hbpos⟩)
  have hplayer' : ¬u.isPlayerOccupied destination := by
    rwa [LivingWorld.isPlayerOccupied, h.players]
  have hmove := move_eq_ok hlookup hactive hstep hwalk hplayer' hother
  have hlookup' (j : ℕ) : (u.stepped id r destination).staticCreatures[j]? =
      if id = j then some (r.movedTo destination) else u.staticCreatures[j]? := by
    simp [LivingWorld.stepped, LivingWorld.changed, LivingWorld.refreshStaticCreatureOccupancy,
      LivingWorld.putCreatures, Std.ExtTreeMap.getElem?_insert]
  have halone : StandAlone (u.stepped id r destination).staticCreatures :=
    h.alone.insert fun _ => hother
  refine ⟨u.stepped id r destination, ?run, h.players, ?tiles, halone, ?decided, ?moved, ?still⟩
  case run =>
    show List.foldlM (applyDecision worldMap) () (plan.2.decisions ++ [⟨id, direction⟩]) w = _
    rw [foldlM_concat_of_ok h.run, applyDecision, bind_of_ok hmove]
    rfl
  case tiles =>
    intro position
    rw [Finset.mem_insert, mem_erase_iff h.tiles h.alone hlookup hactive]
    constructor
    · rintro (rfl | ⟨j, b, hj, hb, hbactive, hbpos⟩)
      · exact ⟨id, r.movedTo position, by rw [hlookup', if_pos rfl], hactive, rfl⟩
      · exact ⟨j, b, by rw [hlookup', if_neg (Ne.symm hj), hb], hbactive, hbpos⟩
    · intro hstands
      rcases StandsAt.of_insert hstands with ⟨-, hpos⟩ | hrest
      · exact .inl hpos.symm
      · exact .inr hrest
  case decided =>
    intro decision hd
    rcases List.mem_append.mp hd with hd | hd
    · simp [h.decided decision hd]
    · simp [List.mem_singleton.mp hd]
  case moved =>
    intro decision hd
    rcases List.mem_append.mp hd with hd | hd
    · obtain ⟨r', destination', hr', hstep', hmoved⟩ := h.carried.moved decision hd
      have hne : ¬id = decision.creatureId := fun heq => hnew (heq ▸ h.decided decision hd)
      exact ⟨r', destination', hr', hstep', by rw [hlookup', if_neg hne, hmoved]⟩
    · rw [List.mem_singleton.mp hd]
      exact ⟨r, destination, hr, hstep, by rw [hlookup', if_pos rfl]⟩
  case still =>
    intro j hj
    rw [List.map_append, List.mem_append, not_or] at hj
    have hne : ¬id = j := fun heq => hj.2 (by simp [heq])
    rw [hlookup', if_neg hne]
    exact h.carried.still j hj.1

end Planned

/-- **The plan of a batch is carried out**, where no two active creatures share a tile. -/
theorem exists_planned {w : LivingWorld} (worldMap : WorldMap)
    (hindex : ∀ position, position ∈ w.staticOccupiedPositions ↔ StandsAt w.staticCreatures position)
    (halone : StandAlone w.staticCreatures) :
    ∃ u, Planned w worldMap w.staticCreatures.toList
      (w.staticCreatures.toList.foldl (planRound w worldMap) (w.staticOccupiedPositions, {})) u := by
  refine PartialFold.foldl_prefix
    (I := fun pre plan => (∀ e ∈ pre, w.staticCreatures[e.1]? = some e.2) →
      (pre.map Prod.fst).Nodup → ∃ u, Planned w worldMap pre plan u)
    (fun pre plan entry hpre hknown hnodup => ?_) _ (fun _ _ => ⟨w, ?_⟩)
    (fun e he => Std.ExtTreeMap.mem_toList_iff_getElem?_eq_some.mp he) ?_
  · rw [List.map_append] at hnodup
    obtain ⟨u, hplanned⟩ := hpre (fun e he => hknown e (List.mem_append_left _ he))
      hnodup.of_append_left
    have hr := hknown entry (by simp)
    have hnew : entry.1 ∉ pre.map Prod.fst := fun hmem =>
      (List.nodup_append.mp hnodup).2.2 entry.1 hmem entry.1 (by simp) rfl
    unfold planRound
    simp only
    split
    · exact ⟨u, hplanned.stay entry rfl⟩
    · rename_i hactive
      have hactive : entry.2.active = true := by simpa using hactive
      split
      · rename_i direction destination hfound
        obtain ⟨tried, -, hfree⟩ := List.exists_of_findSome?_eq_some hfound
        obtain ⟨rfl, -⟩ := freeStep_eq_some hfree
        exact hplanned.move hnew hr hactive hfree
      · refine ⟨u, hplanned.stay entry (Finset.insert_erase ?_)⟩
        exact (hplanned.tiles _).mpr ⟨entry.1, entry.2, hplanned.lookup hnew hr, hactive, rfl⟩
  · exact ⟨rfl, rfl, hindex, halone, by simp, ⟨by simp, fun _ _ => rfl⟩⟩
  · exact OrderedMap.nodup_keys w.staticCreatures

theorem appliesWhole_of_alone {w : LivingWorld} (policy : StaticCreatureDecisionPolicy)
    (worldMap : WorldMap)
    (hindex : ∀ position, position ∈ w.staticOccupiedPositions ↔ StandsAt w.staticCreatures position)
    (halone : StandAlone w.staticCreatures) : AppliesWhole w policy worldMap := by
  have hrun (batch : StaticCreatureDecisionBatch)
      (hbatch : planStaticCreatureMoves policy worldMap w = batch) {u : LivingWorld}
      (hall : batch.decisions.foldlM (applyDecision worldMap) () w = (.ok (), u)) :
      applyStaticCreaturePolicy policy worldMap w = (.ok batch, u) := by
    unfold applyStaticCreaturePolicy
    rw [bind_of_ok (read_apply _ w), hbatch, bind_of_ok hall]
    rfl
  have hcompletes : Completes w policy worldMap := by
    cases policy with
    | disabled => exact ⟨w, hrun {} rfl rfl, ⟨by simp [planStaticCreatureMoves], fun _ _ => rfl⟩⟩
    | clockwiseAdjacent =>
      obtain ⟨u, hplanned⟩ := exists_planned worldMap hindex halone
      exact ⟨u, hrun _ rfl hplanned.run, hplanned.carried⟩
  refine ⟨hcompletes, fun e w' herror => ?_⟩
  obtain ⟨u, hok, -⟩ := hcompletes
  rw [hok] at herror
  cases herror

end Living

/-- **What is planned is carried out**, in every run, wherever no two active creatures share a
tile. -/
theorem policyAppliesWhole (toLowercase : String → String) (events : List GameEvent)
    (halone : StandAlone (events.foldl (GameEvent.step toLowercase) .empty).staticCreatures)
    (policy : StaticCreatureDecisionPolicy) (worldMap : WorldMap) :
    Living.AppliesWhole (events.foldl (GameEvent.step toLowercase) .empty).toLivingWorld policy
      worldMap :=
  Living.appliesWhole_of_alone policy worldMap (occupied_iff_standsAt toLowercase events) halone

/-- A map on which exactly these tiles can be walked on. -/
def walkableMap (positions : List Position) : WorldMap :=
  { templeMap with tiles := positions.foldl (fun tiles position => tiles.insert position ⟨1, true⟩) ∅ }

/-- Rats, installed where they were imported. -/
def installRats (positions : List (ℕ × Position)) : GameEvent :=
  .creature (.install ⟨positions.map fun e => importedRat e.1 e.2, ∅, ∅, ∅, ∅, ∅⟩)

/-- Rats next to each other move on. -/
theorem policyAppliesWhole_ratsApart : Living.AppliesWhole
    ([installRats [(1, ⟨100, 100, 7⟩), (2, ⟨101, 100, 7⟩)]].foldl (GameEvent.step id)
      .empty).toLivingWorld .clockwiseAdjacent
      (walkableMap [⟨100, 100, 7⟩, ⟨101, 100, 7⟩, ⟨100, 101, 7⟩]) := by
  refine policyAppliesWhole id _ ?_ _ _
  have hinstalled : Living.installStaticCreatures ⟨[importedRat 1 ⟨100, 100, 7⟩,
      importedRat 2 ⟨101, 100, 7⟩], ∅, ∅, ∅, ∅, ∅⟩ .empty = (.ok (), _) :=
    Prod.ext (by decide +kernel) rfl
  exact ((Living.unshared_install_iff hinstalled).mpr
    (show FeTfsStaticSpawnCollection.PlacedApart _ by decide)).1

/-- **Two rats on one tile stop the others.**  Rat 1 leaves the tile it shares with rat 3, rat 2 is
sent there, and the batch ends with an error after rat 1 has moved. -/
theorem stackedRats_stopBatch : ¬∀ (events : List GameEvent) (policy : StaticCreatureDecisionPolicy)
    (worldMap : WorldMap), Living.AppliesWhole
      (events.foldl (GameEvent.step id) .empty).toLivingWorld policy worldMap := by
  intro h
  have hstop {w : LivingWorld} {worldMap : WorldMap} {e : CoreError}
      (hwhole : Living.AppliesWhole w .clockwiseAdjacent worldMap)
      (herror : (Living.applyStaticCreaturePolicy .clockwiseAdjacent worldMap w).1 = .error e)
      (hbefore : w.staticCreatures[1]?.map (fun r => r.entity.position) = some ⟨100, 100, 7⟩)
      (hmoved : (Living.applyStaticCreaturePolicy .clockwiseAdjacent worldMap
        w).2.staticCreatures[1]?.map (fun r => r.entity.position) = some ⟨101, 100, 7⟩) : False := by
    rw [hwhole.unmoved herror, hbefore] at hmoved
    cases hmoved
  refine hstop (e := .staticCreatureOccupiesPosition ⟨100, 100, 7⟩)
    (h [installRats [(1, ⟨100, 100, 7⟩), (2, ⟨100, 101, 7⟩), (3, ⟨100, 100, 7⟩)]] _
      (walkableMap [⟨100, 100, 7⟩, ⟨101, 100, 7⟩, ⟨100, 101, 7⟩])) ?_ ?_ ?_
  · decide +kernel
  · decide +kernel
  · decide +kernel

end ForgottenEngine
