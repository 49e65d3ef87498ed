import ForgottenEngine.CreatureMoves
import ForgottenEngine.Library.BreadthFirst

/-!
# Detours of creatures

A creature whose direct steps are blocked searches for a detour, tile by tile, up to a number of
steps.  The search is the library's search of a maze: the tiles, with a step in each of the four
directions.

* `detourRound_eq` — a round of the loop is a round of the maze;
* `detourSearch_eq` — the loop ends before its fuel is used up;
* `detour_shortest` — **the search ends, and finds a step exactly when there is a detour**: the
  first step of a shortest one.
-/

namespace ForgottenEngine

open Rounds BreadthFirst

namespace Living

/-- The tiles as a maze: clockwise steps over free tiles, to a tile next to the target. -/
def detourMaze (free : Position → Bool) (target : Position) :
    Maze Position CardinalDirection where
  step position direction := (position.step direction).toOption
  free := free
  goal position := position.isAdjacentTo target
  order := clockwise
  complete direction := by cases direction <;> decide

def entryOf (tile : DetourTile) : Entry Position CardinalDirection :=
  ⟨tile.position, tile.firstDirection, tile.distance⟩

/-- One round of the loop: the next state, or what the search returns. -/
def detourRound (free : Position → Bool) (target : Position) (maxDetourSteps : ℕ) :
    Finset Position × List DetourTile →
      (Finset Position × List DetourTile) ⊕ Option CardinalDirection
  | (_, []) => .inr none
  | (visited, tile :: frontier) =>
    if maxDetourSteps ≤ tile.distance then .inl (visited, frontier)
    else match clockwise.foldlM (detourNeighbour free target tile) (visited, frontier) with
      | .error direction => .inr (some direction)
      | .ok search => .inl search

/-- The tiles a creature may step on: walkable, without a player and without another creature. -/
def detourFree (w : LivingWorld) (worldMap : WorldMap) (source position : Position) : Bool :=
  worldMap.isWalkable position ∧ ¬w.isPlayerOccupied position ∧
    position ∉ w.staticOccupiedPositions.erase source

/-- A detour: at most so many steps over free tiles, to another tile next to the target. -/
def IsDetour (w : LivingWorld) (source target : Position) (worldMap : WorldMap)
    (maxDetourSteps : ℕ) (path : List CardinalDirection) : Prop :=
  (detourMaze (detourFree w worldMap source) target).Leads source maxDetourSteps path

/-! ### The loop is a search of the maze -/

variable {free : Position → Bool} {source target : Position} {maxDetourSteps : ℕ}

def searchOf (search : Finset Position × List DetourTile) :
    Finset Position × List (Entry Position CardinalDirection) :=
  (search.1, search.2.map entryOf)

theorem look_eq (tile : DetourTile) (search : Finset Position × List DetourTile)
    (direction : CardinalDirection) :
    (detourMaze free target).look (entryOf tile) (searchOf search) direction =
      (detourNeighbour free target tile search direction).map searchOf := by
  have hstep : (detourMaze free target).step (entryOf tile).node direction =
      (tile.position.step direction).toOption := rfl
  unfold Maze.look detourNeighbour
  rw [hstep]
  cases tile.position.step direction with
  | error e => rfl
  | ok destination =>
    show (if destination ∈ search.1 ∨ ¬free destination then
        Except.ok (insert destination search.1, search.2.map entryOf)
      else if destination.isAdjacentTo target then .error (tile.firstDirection.getD direction)
      else .ok (insert destination search.1, search.2.map entryOf ++
        [⟨destination, some (tile.firstDirection.getD direction), tile.distance + 1⟩])) =
      Except.map searchOf (if destination ∈ search.1 ∨ ¬free destination then
        Except.ok (insert destination search.1, search.2)
      else if destination.isAdjacentTo target then .error (tile.firstDirection.getD direction)
      else .ok (insert destination search.1, search.2 ++
        [⟨destination, some (tile.firstDirection.getD direction), tile.distance + 1⟩]))
    split
    · rfl
    · split
      · rfl
      · simp [Except.map, searchOf, entryOf]

theorem looks_eq (tile : DetourTile) (search : Finset Position × List DetourTile)
    (directions : List CardinalDirection) :
    directions.foldlM ((detourMaze free target).look (entryOf tile)) (searchOf search) =
      (directions.foldlM (detourNeighbour free target tile) search).map searchOf := by
  induction directions generalizing search with
  | nil => rfl
  | cons direction directions ih =>
    rw [List.foldlM_cons, List.foldlM_cons, look_eq]
    cases detourNeighbour free target tile search direction with
    | error first => rfl
    | ok search' => exact ih search'

/-- **A round of the loop is a round of the maze.** -/
theorem detourRound_eq (search : Finset Position × List DetourTile) :
    (detourMaze free target).round maxDetourSteps (searchOf search) =
      (detourRound free target maxDetourSteps search).map searchOf id := by
  obtain ⟨visited, frontier⟩ := search
  cases frontier with
  | nil => rfl
  | cons tile frontier =>
    have hlooks : (detourMaze free target).order.foldlM
        ((detourMaze free target).look (entryOf tile)) (visited, frontier.map entryOf) =
          (clockwise.foldlM (detourNeighbour free target tile) (visited, frontier)).map searchOf :=
      looks_eq tile (visited, frontier) clockwise
    simp only [searchOf, List.map_cons, Maze.round, detourRound]
    rw [hlooks]
    show (if maxDetourSteps ≤ tile.distance then _ else _) = _
    split
    · rfl
    · cases clockwise.foldlM (detourNeighbour free target tile) (visited, frontier) with
      | error direction => rfl
      | ok search => rfl

/-- With fuel for all rounds, the search returns what the loop does. -/
theorem detourSearch_eq {n fuel : ℕ} {search : Finset Position × List DetourTile}
    {result : Option CardinalDirection}
    (h : EndsIn (detourRound free target maxDetourSteps) n search result) (hfuel : n ≤ fuel) :
    detourSearch free target maxDetourSteps fuel search.1 search.2 = result := by
  induction h generalizing fuel with
  | @stop search result hstop =>
    obtain ⟨visited, frontier⟩ := search
    cases fuel with
    | zero => exact absurd hfuel (by decide)
    | succ fuel =>
      cases frontier with
      | nil =>
        cases hstop
        rfl
      | cons tile frontier =>
        simp only [detourRound] at hstop
        rw [detourSearch]
        split at hstop
        · cases hstop
        · rename_i hnear
          rw [if_neg hnear]
          split at hstop
          · rename_i direction hfound
            cases hstop
            rw [hfound]
          · cases hstop
  | @next n search search' result hnext _ ih =>
    obtain ⟨visited, frontier⟩ := search
    cases fuel with
    | zero => exact absurd hfuel (Nat.not_succ_le_zero n)
    | succ fuel =>
      have hfuel := Nat.le_of_succ_le_succ hfuel
      cases frontier with
      | nil => cases hnext
      | cons tile frontier =>
        simp only [detourRound] at hnext
        rw [detourSearch]
        split at hnext
        · rename_i hfar
          cases hnext
          rw [if_pos hfar]
          exact ih hfuel
        · rename_i hnear
          rw [if_neg hnear]
          split at hnext
          · cases hnext
          · rename_i state hlooked
            cases hnext
            rw [hlooked]
            exact ih hfuel

/-! ### The tiles in reach -/

/-- The square around the source that so many steps stay in. -/
def reachSquare (source : Position) (steps : ℕ) : Finset Position :=
  (Finset.Icc (source.x - steps) (source.x + steps) ×ˢ
    Finset.Icc (source.y - steps) (source.y + steps)).image fun p => ⟨p.1, p.2, source.z⟩

theorem card_reachSquare (source : Position) (steps : ℕ) :
    (reachSquare source steps).card ≤ (2 * steps + 1) ^ 2 := by
  refine Finset.card_image_le.trans ?_
  rw [Finset.card_product, Nat.card_Icc, Nat.card_Icc, sq]
  exact Nat.mul_le_mul (by omega) (by omega)

theorem step_near {position destination : Position} {direction : CardinalDirection}
    (h : position.step direction = .ok destination) : destination.z = position.z ∧
      destination.x ≤ position.x + 1 ∧ position.x ≤ destination.x + 1 ∧
      destination.y ≤ position.y + 1 ∧ position.y ≤ destination.y + 1 := by
  obtain ⟨x, y, z⟩ := position
  cases direction with
  | north =>
    by_cases hedge : y = 0
    · simp [Position.step, hedge] at h
    · simp only [Position.step, if_neg hedge] at h
      cases h
      refine ⟨rfl, ?_⟩
      dsimp only
      omega
  | east =>
    by_cases hedge : u16Max ≤ x
    · simp [Position.step, hedge] at h
    · simp only [Position.step, if_neg hedge] at h
      cases h
      refine ⟨rfl, ?_⟩
      dsimp only
      omega
  | south =>
    by_cases hedge : u16Max ≤ y
    · simp [Position.step, hedge] at h
    · simp only [Position.step, if_neg hedge] at h
      cases h
      refine ⟨rfl, ?_⟩
      dsimp only
      omega
  | west =>
    by_cases hedge : x = 0
    · simp [Position.step, hedge] at h
    · simp only [Position.step, if_neg hedge] at h
      cases h
      refine ⟨rfl, ?_⟩
      dsimp only
      omega

/-- No coordinate is further away than the path is long. -/
theorem walk_near {labels : List CardinalDirection} {position destination : Position}
    (h : (detourMaze free target).walk position labels = some destination) :
    destination.z = position.z ∧
      destination.x ≤ position.x + labels.length ∧ position.x ≤ destination.x + labels.length ∧
      destination.y ≤ position.y + labels.length ∧ position.y ≤ destination.y + labels.length := by
  induction labels generalizing position with
  | nil =>
    cases h
    simp
  | cons direction labels ih =>
    simp only [Maze.walk, Option.bind_eq_some_iff, Option.ite_none_right_eq_some] at h
    obtain ⟨next, hnext, -, hrest⟩ := h
    have hstep : position.step direction = .ok next := by
      change (position.step direction).toOption = some next at hnext
      cases hposition : position.step direction with
      | error e => rw [hposition] at hnext; cases hnext
      | ok other => rw [hposition] at hnext; cases hnext; rfl
    have hnear := step_near hstep
    have hrest := ih hrest
    rw [List.length_cons]
    omega

theorem mem_reachSquare {labels : List CardinalDirection} {position : Position} {steps : ℕ}
    (hlength : labels.length ≤ steps)
    (h : (detourMaze free target).walk source labels = some position) :
    position ∈ reachSquare source steps := by
  have hnear := walk_near h
  refine Finset.mem_image.mpr ⟨(position.x, position.y), ?_, ?_⟩
  · rw [Finset.mem_product, Finset.mem_Icc, Finset.mem_Icc]
    omega
  · rw [← hnear.1]

/-! ### Shortest detours -/

/-- The loop ends, with what it should find. -/
theorem detourRound_correct (free : Position → Bool) (source target : Position)
    (maxDetourSteps : ℕ) : ∃ n result, n ≤ (2 * maxDetourSteps + 1) ^ 2 + 1 ∧
      EndsIn (detourRound free target maxDetourSteps) n ({source}, [⟨source, none, 0⟩]) result ∧
        (detourMaze free target).Correct source maxDetourSteps result := by
  obtain ⟨n, result, hn, hrun, hcorrect⟩ := (detourMaze free target).search_correct source
    maxDetourSteps (reachSquare source maxDetourSteps)
      fun labels position hlength hwalk => mem_reachSquare hlength hwalk
  have hcard := card_reachSquare source maxDetourSteps
  exact ⟨n, result, by omega, EndsIn.map detourRound_eq hrun, hcorrect⟩

/-- Without a bound, nothing leads anywhere. -/
theorem not_leads_zero {path : List CardinalDirection} :
    ¬(detourMaze free target).Leads source 0 path := by
  rintro ⟨hlength, position, hwalk, hne, _⟩
  rw [List.eq_nil_of_length_eq_zero (Nat.le_zero.mp hlength)] at hwalk
  cases hwalk
  exact hne rfl

/-- What the search of the source returns. -/
theorem staticCreatureDetourDirection_correct (w : LivingWorld) (source target : Position)
    (worldMap : WorldMap) (maxDetourSteps : ℕ) : ∃ n ≤ (2 * maxDetourSteps + 1) ^ 2 + 1,
      EndsIn (detourRound (detourFree w worldMap source) target maxDetourSteps) n
          ({source}, [⟨source, none, 0⟩])
          (staticCreatureDetourDirection w source target worldMap maxDetourSteps) ∧
        (detourMaze (detourFree w worldMap source) target).Correct source maxDetourSteps
          (staticCreatureDetourDirection w source target worldMap maxDetourSteps) := by
  obtain ⟨n, result, hn, hrun, hcorrect⟩ := detourRound_correct (detourFree w worldMap source)
    source target maxDetourSteps
  have hresult : staticCreatureDetourDirection w source target worldMap maxDetourSteps =
      result := by
    unfold staticCreatureDetourDirection
    split
    · rename_i hzero
      subst hzero
      cases result with
      | none => rfl
      | some direction => exact absurd hcorrect.choose_spec.1 not_leads_zero
    · exact detourSearch_eq hrun hn
  rw [hresult]
  exact ⟨n, hn, hrun, hcorrect⟩

/-- **The search ends within as many rounds as there are tiles in reach, finds a step exactly when
there is a detour, and then the first step of a shortest one.**  A creature asks only while it is
not next to its target: then every path to a tile next to the target is a detour. -/
theorem detour_shortest (w : LivingWorld) (source target : Position) (worldMap : WorldMap)
    (maxDetourSteps : ℕ) :
    ((staticCreatureDetourDirection w source target worldMap maxDetourSteps).isSome ↔
      ∃ path, IsDetour w source target worldMap maxDetourSteps path) ∧
    (∀ direction,
      staticCreatureDetourDirection w source target worldMap maxDetourSteps = some direction →
      ∃ rest, IsDetour w source target worldMap maxDetourSteps (direction :: rest) ∧
        ∀ path, IsDetour w source target worldMap maxDetourSteps path →
          (direction :: rest).length ≤ path.length) ∧
    (∃ n ≤ (2 * maxDetourSteps + 1) ^ 2 + 1,
      EndsIn (detourRound (detourFree w worldMap source) target maxDetourSteps) n
        ({source}, [⟨source, none, 0⟩])
        (staticCreatureDetourDirection w source target worldMap maxDetourSteps)) ∧
    (source.isAdjacentTo target = false → ∀ path,
      IsDetour w source target worldMap maxDetourSteps path ↔ path.length ≤ maxDetourSteps ∧
        ∃ position, (detourMaze (detourFree w worldMap source) target).walk source path =
          some position ∧ position.isAdjacentTo target = true) := by
  obtain ⟨n, hn, hrun, hcorrect⟩ :=
    staticCreatureDetourDirection_correct w source target worldMap maxDetourSteps
  refine ⟨?_, ?_, ⟨n, hn, hrun⟩, ?_⟩
  · cases hresult : staticCreatureDetourDirection w source target worldMap maxDetourSteps with
    | none =>
      rw [hresult] at hcorrect
      exact ⟨fun h => (by cases h), fun ⟨path, hpath⟩ => absurd hpath (hcorrect path)⟩
    | some direction =>
      rw [hresult] at hcorrect
      obtain ⟨rest, hleads, -⟩ := hcorrect
      exact ⟨fun _ => ⟨direction :: rest, hleads⟩, fun _ => rfl⟩
  · intro direction hresult
    rw [hresult] at hcorrect
    exact hcorrect
  · intro hfar path
    refine and_congr_right fun _ => exists_congr fun position => and_congr_right fun _ => ?_
    refine ⟨fun h => h.2, fun hgoal => ⟨?_, hgoal⟩⟩
    rintro rfl
    rw [hfar] at hgoal
    cases hgoal

end Living

end ForgottenEngine
