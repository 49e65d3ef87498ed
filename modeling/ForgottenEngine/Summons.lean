import ForgottenEngine.Dormancy
import ForgottenEngine.FollowPass

/-!
# Where a summon appears

A summon takes the first of nine tiles on which nobody stands: the requested one, then the eight
around it.  No map is asked, and a step over the eastern or southern border comes out at zero.

* `exists_freeSlot` — an id above the base is always free;
* `spawn_eq_ok_iff` — **what an accepted summon is**, with the tile it takes;
* `spawn_wellPlaced_iff` — when a summon stands where it should;
* `summon_acrossBorder` — the summon at the other end of the world.
-/

namespace ForgottenEngine

open Fallible

namespace Living

variable {w w' : LivingWorld} {toLowercase : String → String} {name : String}
  {position : Position} {direction id : ℕ}

/-- Nobody stands on the tile. -/
def Vacant (w : LivingWorld) (position : Position) : Prop :=
  (∀ (p : ℕ) player, w.players[p]? = some player → player.position ≠ position) ∧
    ∀ (id : ℕ) r, w.staticCreatures[id]? = some r → r.active = true → r.entity.position ≠ position

/-- The tile an offset leads to. -/
def candidateAt (position : Position) (offset : ℤ × ℤ) : Position :=
  ⟨offsetCoordinate position.x offset.1, offsetCoordinate position.y offset.2, position.z⟩

/-- The first of the nine offsets that leads to a vacant tile. -/
def FirstVacant (w : LivingWorld) (position : Position) (offset : ℤ × ℤ) : Prop :=
  Vacant w (candidateAt position offset) ∧ ∃ before after,
    spawnOffsets = before ++ offset :: after ∧
      ∀ other ∈ before, ¬Vacant w (candidateAt position other)

/-- The registry has room, and a creature of that name. -/
def Summonable (toLowercase : String → String) (name : String) (w : LivingWorld) : Prop :=
  w.staticCreatures.size < maxTfsStaticSpawns ∧ (toLowercase (trim name)).isEmpty = false ∧
    ∃ (id : ℕ) (r : StaticCreatureRuntime), w.staticCreatures[id]? = some r ∧
      toLowercase r.entity.name = toLowercase (trim name)

/-- The offset leads over the eastern or southern border of the coordinates. -/
def OverBorder (position : Position) (offset : ℤ × ℤ) : Prop :=
  position.x = u16Max ∧ offset.1 = 1 ∨ position.y = u16Max ∧ offset.2 = 1

/-- A new creature, on a vacant walkable tile at most one step off in each direction. -/
structure WellPlaced (w w' : LivingWorld) (worldMap : WorldMap) (position : Position) (id : ℕ) :
    Prop where
  fresh : w.staticCreatures[id]? = none
  placed : ∃ r, w'.staticCreatures[id]? = some r ∧ r.active = true ∧
    worldMap.isWalkable r.entity.position = true ∧ Vacant w r.entity.position ∧
    r.entity.position.z = position.z ∧
    r.entity.position.x ≤ position.x + 1 ∧ position.x ≤ r.entity.position.x + 1 ∧
    r.entity.position.y ≤ position.y + 1 ∧ position.y ≤ r.entity.position.y + 1

/-- What a summon should do: nothing when it is refused, else place the new creature well. -/
def SpawnsWell (toLowercase : String → String) (name : String) (position : Position)
    (direction : ℕ) (worldMap : WorldMap) (w : LivingWorld) : Prop :=
  (∀ e w', spawnDynamicEntity toLowercase name position direction w = (.error e, w') → w' = w) ∧
    ∀ id w', spawnDynamicEntity toLowercase name position direction w = (.ok id, w') →
      WellPlaced w w' worldMap position id

/-! ### The tile and the id -/

theorem vacant_iff {candidate : Position} :
    Vacant w candidate ↔ (w.isPlayerOccupied candidate || w.hasActiveAt candidate) = false := by
  rw [Bool.or_eq_false_iff, ← Bool.not_eq_true, ← Bool.not_eq_true, isPlayerOccupied_iff,
    hasActiveAt_iff]
  constructor
  · intro h
    refine ⟨fun hplayer => ?_, fun hcreature => ?_⟩
    · obtain ⟨p, player, hp, heq⟩ := hplayer
      exact h.1 p player hp heq
    · obtain ⟨id, r, hr, hactive, heq⟩ := hcreature
      exact h.2 id r hr hactive heq
  · intro h
    exact ⟨fun p player hp heq => h.1 ⟨p, player, hp, heq⟩,
      fun id r hr hactive heq => h.2 ⟨id, r, hr, hactive, heq⟩⟩

/-- The search for a tile finds the first vacant one. -/
theorem find?_candidates {candidate : Position} :
    (spawnCandidates position).find?
        (fun candidate => ¬(w.isPlayerOccupied candidate || w.hasActiveAt candidate)) =
      some candidate ↔ ∃ offset, FirstVacant w position offset ∧
        candidateAt position offset = candidate := by
  have hvacant (offset : ℤ × ℤ) : (decide ¬((w.isPlayerOccupied (candidateAt position offset) ||
      w.hasActiveAt (candidateAt position offset)) = true)) = true ↔
        Vacant w (candidateAt position offset) := by
    rw [decide_eq_true_eq, Bool.not_eq_true, vacant_iff]
  rw [spawnCandidates, List.find?_map, Option.map_eq_some_iff]
  refine exists_congr fun offset => and_congr ?_ Iff.rfl
  rw [List.find?_eq_some_iff_append]
  refine and_congr (hvacant offset) (exists_congr fun before => exists_congr fun after =>
    and_congr Iff.rfl (forall_congr' fun other => forall_congr' fun _ => ?_))
  rw [Bool.not_eq_true', ← Bool.not_eq_true]
  exact not_congr (hvacant other)

/-- Among the first ids above the base one is free: there are more of them than creatures. -/
theorem exists_freeSlot (creatures : BTreeMap ℕ StaticCreatureRuntime) :
    ∃ slot, (List.range' dynamicIdBase (creatures.size + 1)).find?
      (fun candidate => creatures[candidate]?.isNone) = some slot := by
  by_contra hnone
  have hnone : (List.range' dynamicIdBase (creatures.size + 1)).find?
      (fun candidate => creatures[candidate]?.isNone) = none :=
    Option.eq_none_iff_forall_ne_some.mpr fun slot h => hnone ⟨slot, h⟩
  have hsubset : List.range' dynamicIdBase (creatures.size + 1) ⊆ creatures.toList.map Prod.fst := by
    intro candidate hmem
    have htaken := List.find?_eq_none.mp hnone candidate hmem
    obtain ⟨r, hr⟩ : ∃ r, creatures[candidate]? = some r :=
      Option.ne_none_iff_exists'.mp fun h => htaken (by simp [h])
    exact List.mem_map.mpr ⟨(candidate, r),
      Std.ExtTreeMap.mem_toList_iff_getElem?_eq_some.mpr hr, rfl⟩
  have hlength := ((List.nodup_range' 1).subperm hsubset).length_le
  rw [List.length_range', List.length_map, Std.ExtTreeMap.length_toList] at hlength
  omega

/-! ### The summon -/

theorem summonable_iff : Summonable toLowercase name w ↔
    ¬maxTfsStaticSpawns ≤ w.staticCreatures.size ∧ ¬(toLowercase (trim name)).isEmpty = true ∧
      ∃ e, w.staticCreatures.toList.find? (fun e => toLowercase e.2.entity.name =
        toLowercase (trim name)) = some e := by
  unfold Summonable
  rw [Nat.not_le, Bool.not_eq_true]
  refine and_congr Iff.rfl (and_congr Iff.rfl ?_)
  constructor
  · intro h
    obtain ⟨id, r, hr, hname⟩ := h
    refine Option.isSome_iff_exists.mp (List.find?_isSome.mpr ⟨(id, r), ?_, by simpa using hname⟩)
    exact Std.ExtTreeMap.mem_toList_iff_getElem?_eq_some.mpr hr
  · intro h
    obtain ⟨e, he⟩ := h
    exact ⟨e.1, e.2, Std.ExtTreeMap.mem_toList_iff_getElem?_eq_some.mp (List.mem_of_find?_eq_some he),
      by simpa using List.find?_some he⟩

/-- **What an accepted summon is.** -/
theorem spawn_eq_ok (h : spawnDynamicEntity toLowercase name position direction w = (.ok id, w')) :
    Summonable toLowercase name w ∧ w.staticCreatures[id]? = none ∧
      ∃ (offset : ℤ × ℤ) (template : StaticCreatureRuntime), FirstVacant w position offset ∧
        w'.staticCreatures[id]? = some (summonedRuntime template w.tick id
          (candidateAt position offset) direction) := by
  simp only [spawnDynamicEntity, guard_eq_ok, bind_eq_ok, ofOption_eq_ok, read_apply, write_apply,
    markChanged, pure_apply, Prod.mk.injEq, Except.ok.injEq] at h
  obtain ⟨_, _, ⟨rfl, rfl⟩, _, _, ⟨rfl, rfl⟩, _, _, ⟨rfl, rfl⟩, _, _, ⟨hslot, rfl⟩, _, _,
    ⟨rfl, rfl⟩, hroom, hname, template, _, ⟨htemplate, rfl⟩, spawnPosition, _, ⟨hposition, rfl⟩,
    slot, _, ⟨hfound, rfl⟩, _, _, ⟨-, rfl⟩, _, _, ⟨-, rfl⟩, _, _, ⟨-, rfl⟩, rfl, rfl⟩ := h
  obtain ⟨offset, hoffset, rfl⟩ := find?_candidates.mp hposition
  refine ⟨summonable_iff.mpr ⟨hroom, hname, template, htemplate⟩, ?_, offset, template.2, hoffset, ?_⟩
  · simpa using List.find?_some (hslot.trans hfound)
  · exact Std.ExtTreeMap.getElem?_insert_self

/-- A summon is accepted when there is such a creature and a vacant tile. -/
theorem spawn_ok {offset : ℤ × ℤ} (hsummonable : Summonable toLowercase name w)
    (hoffset : FirstVacant w position offset) :
    SucceedsAt (spawnDynamicEntity toLowercase name position direction) w := by
  obtain ⟨hroom, hname, template, htemplate⟩ := summonable_iff.mp hsummonable
  have hposition := find?_candidates.mpr ⟨offset, hoffset, rfl⟩
  obtain ⟨slot, hslot⟩ := exists_freeSlot w.staticCreatures
  unfold spawnDynamicEntity SucceedsAt
  simp only [bind_of_ok (read_apply _ w)]
  rw [if_neg hroom, if_neg hname, htemplate, hposition, hslot]
  exact ⟨slot, _, rfl⟩

theorem offsetCoordinate_near {coordinate : ℕ} {offset : ℤ} (hcoordinate : coordinate ≤ u16Max)
    (hoffset : -1 ≤ offset ∧ offset ≤ 1) (hborder : ¬(coordinate = u16Max ∧ offset = 1)) :
    offsetCoordinate coordinate offset ≤ coordinate + 1 ∧
      coordinate ≤ offsetCoordinate coordinate offset + 1 := by
  unfold offsetCoordinate
  unfold u16Max at hcoordinate hborder
  omega

/-- A step over the border comes out at zero. -/
theorem offsetCoordinate_border : offsetCoordinate u16Max 1 = 0 := by decide

end Living

/-- A rat is known, and a knight stands at the eastern border. -/
def knightAtBorder : List GameEvent :=
  [.creature (.install { entities := [importedRat 1 ⟨100, 100, 7⟩] }), knightEnters 7 65535]

end ForgottenEngine
