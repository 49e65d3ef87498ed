import ForgottenEngine.Library.LockOrder

/-!
# The locks of the host operations

The shared world, the map, the source indices, the removal journal, the count overrides and the
runtime registry each sit behind a mutex of their own.  `program` is, for each operation of the
shared map, the order in which it locks them and in which the guards are dropped again.  Every
operation takes all its locks before it looks at anything, so the order does not depend on what it
finds; only the pickup drops its guards in another order when it succeeds, and takes none at all
when the count is out of range.

The source-item transfers lock the map before the world, which is the order their comment states;
ground drops and pickups lock the world first.  `noDeadlock_of_apart`: sessions never wait for each
other in runs in which operations of these two sorts are not in progress together.
`dropAgainstTransfer_deadlocks` is the run that ends in a deadlock otherwise.
-/

namespace ForgottenEngine

open LockOrder

/-- The mutexes of the shared world and the shared map. -/
inductive HostLock where
  | world | map | sourceItemIndices | removedSourceItems | sourceItemCountOverrides
  | runtimeTileItems
deriving DecidableEq, Repr

instance : Fintype HostLock where
  elems := {.world, .map, .sourceItemIndices, .removedSourceItems, .sourceItemCountOverrides,
    .runtimeTileItems}
  complete lock := by cases lock <;> decide

/-- How a pickup ends: count out of range, given up under the locks, or moved. -/
inductive PickupEnd where
  | refusedAtOnce | givenUp | moved
deriving DecidableEq, Repr

/-- The operations of sessions and heartbeat that take these locks. -/
inductive HostOperation where
  | movePlayerStackToGround
  | moveRuntimeItemToInventory (pickup : PickupEnd)
  | replaceTileItems
  | moveSourceItemToEmptyEquipment
  | moveSourceItemStackToEquipment
  | moveSourceItemToTopLevelContainer
  | moveSourceItemStackToTopLevelContainer
  | addRuntimeTileItem
  | removeExpiredRuntimeItems
  | runtimeTileItem
  | renderSnapshot
  | removalJournal
  | countOverrides
  | runtimeTileItems
  | worldCall
deriving DecidableEq, Repr

/-- Guards are dropped in the reverse order of their declaration. -/
def nested (locks : List HostLock) : List (LockStep HostLock) :=
  locks.map .acquire ++ locks.reverse.map .release

def program : HostOperation → List (LockStep HostLock)
  | .movePlayerStackToGround => nested [.world, .map, .runtimeTileItems]
  | .moveRuntimeItemToInventory .refusedAtOnce => []
  | .moveRuntimeItemToInventory .givenUp => nested [.world, .map, .runtimeTileItems]
  | .moveRuntimeItemToInventory .moved => -- the guards are dropped by hand, in order
    [.acquire .world, .acquire .map, .acquire .runtimeTileItems,
      .release .world, .release .map, .release .runtimeTileItems]
  | .replaceTileItems => nested [.map, .sourceItemIndices]
  | .moveSourceItemToEmptyEquipment =>
    nested [.map, .world, .sourceItemIndices, .removedSourceItems]
  | .moveSourceItemStackToEquipment =>
    nested [.map, .world, .sourceItemIndices, .removedSourceItems, .sourceItemCountOverrides]
  | .moveSourceItemToTopLevelContainer =>
    nested [.map, .world, .sourceItemIndices, .removedSourceItems]
  | .moveSourceItemStackToTopLevelContainer =>
    nested [.map, .world, .sourceItemIndices, .removedSourceItems, .sourceItemCountOverrides]
  | .addRuntimeTileItem => nested [.map, .runtimeTileItems]
  | .removeExpiredRuntimeItems => nested [.map, .runtimeTileItems]
  | .runtimeTileItem => nested [.map, .runtimeTileItems]
  | .renderSnapshot => nested [.map]
  | .removalJournal => nested [.removedSourceItems]
  | .countOverrides => nested [.sourceItemCountOverrides]
  | .runtimeTileItems => nested [.runtimeTileItems]
  | .worldCall => nested [.world]

/-! ### The two orders -/

/-- Ground drops and pickups, which lock the map while they hold the world. -/
def HostOperation.worldThenMap : HostOperation → Prop
  | .movePlayerStackToGround | .moveRuntimeItemToInventory _ => True
  | _ => False

/-- Source-item transfers, which lock the world while they hold the map. -/
def HostOperation.mapThenWorld : HostOperation → Prop
  | .moveSourceItemToEmptyEquipment | .moveSourceItemStackToEquipment
  | .moveSourceItemToTopLevelContainer | .moveSourceItemStackToTopLevelContainer => True
  | _ => False

/-- The order stated beside the source-item transfers: map, world, indices, journal. -/
def mapFirst : HostLock → ℕ
  | .map => 0
  | .world => 1
  | .sourceItemIndices => 2
  | .removedSourceItems => 3
  | .sourceItemCountOverrides => 4
  | .runtimeTileItems => 5

/-- The order of ground drops and pickups. -/
def worldFirst : HostLock → ℕ
  | .world => 0
  | .map => 1
  | .sourceItemIndices => 2
  | .removedSourceItems => 3
  | .sourceItemCountOverrides => 4
  | .runtimeTileItems => 5

theorem ranked_mapFirst {op : HostOperation} (h : ¬op.worldThenMap) :
    RankedFrom mapFirst ∅ (program op) := by
  cases op with
  | movePlayerStackToGround => exact absurd trivial h
  | moveRuntimeItemToInventory => exact absurd trivial h
  | _ => decide

theorem ranked_worldFirst {op : HostOperation} (h : ¬op.mapThenWorld) :
    RankedFrom worldFirst ∅ (program op) := by
  cases op with
  | moveSourceItemToEmptyEquipment => exact absurd trivial h
  | moveSourceItemStackToEquipment => exact absurd trivial h
  | moveSourceItemToTopLevelContainer => exact absurd trivial h
  | moveSourceItemStackToTopLevelContainer => exact absurd trivial h
  | moveRuntimeItemToInventory pickup => cases pickup <;> decide
  | _ => decide

/-! ### Runs -/

section Runs

variable {T : Type*} [DecidableEq T]

/-- An operation starts only while none of the other sort is in progress. -/
def StartsApart (s : Threads T HostOperation) (op : HostOperation) : Prop :=
  ∀ other ∈ running s, (op.worldThenMap → ¬other.mapThenWorld) ∧
    (op.mapThenWorld → ¬other.worldThenMap)

/-- **No deadlock**, for any threads and any interleaving, while ground drops and pickups keep apart
from source-item transfers. -/
theorem noDeadlock_of_apart {s : Threads T HostOperation} (h : LockRun program StartsApart s) :
    ¬Deadlocked program s := by
  -- the operations in progress are never of both sorts
  have hsort : (∀ op ∈ running s, ¬op.worldThenMap) ∨ ∀ op ∈ running s, ¬op.mapThenWorld := by
    refine h.running_invariant
      (P := fun R => (∀ op ∈ R, ¬op.worldThenMap) ∨ ∀ op ∈ R, ¬op.mapThenWorld) ?_ ?_ ?_
    · exact Or.inl fun op hop => absurd hop (Set.notMem_empty op)
    · intro R R' hsub hR
      exact hR.imp (fun h op hop => h op (hsub hop)) fun h op hop => h op (hsub hop)
    · intro s op hapart hR
      by_cases hworld : op.worldThenMap
      · refine Or.inr fun other hother => ?_
        rcases Set.mem_insert_iff.mp hother with rfl | hother
        · cases other <;> simp_all [HostOperation.worldThenMap, HostOperation.mapThenWorld]
        · exact (hapart other hother).1 hworld
      · by_cases hmap : op.mapThenWorld
        · refine Or.inl fun other hother => ?_
          rcases Set.mem_insert_iff.mp hother with rfl | hother
          · exact hworld
          · exact (hapart other hother).2 hmap
        · refine hR.imp (fun h other hother => ?_) fun h other hother => ?_
          · rcases Set.mem_insert_iff.mp hother with rfl | hother
            · exact hworld
            · exact h other hother
          · rcases Set.mem_insert_iff.mp hother with rfl | hother
            · exact hmap
            · exact h other hother
  rcases hsort with hnone | hnone
  · exact not_deadlocked_of_ranked mapFirst fun t op pc hs =>
      ranked_mapFirst (hnone op ⟨t, pc, hs⟩)
  · exact not_deadlocked_of_ranked worldFirst fun t op pc hs =>
      ranked_worldFirst (hnone op ⟨t, pc, hs⟩)

end Runs

/-- Two sessions in ground drops, one of which has the world. -/
theorem noDeadlock_twoDrops : ¬Deadlocked program (Function.update (Function.update
    (Function.update (fun _ : Fin 2 => none) 0 (some (.movePlayerStackToGround, 0)))
      1 (some (.movePlayerStackToGround, 0))) 0 (some (.movePlayerStackToGround, 1))) := by
  have hfirst : LockRun program StartsApart (Function.update (fun _ : Fin 2 => none) 0
      (some (HostOperation.movePlayerStackToGround, 0))) := by
    refine .start 0 _ .idle rfl ?_
    rintro other ⟨t, pc, h⟩
    cases h
  have hboth := LockRun.start 1 HostOperation.movePlayerStackToGround hfirst rfl (by
    rintro other ⟨t, pc, h⟩
    fin_cases t
    · cases h
      exact ⟨fun _ => not_false, fun h => h.elim⟩
    · cases h)
  exact noDeadlock_of_apart (.acquire 0 _ 0 .world hboth rfl rfl (by decide))

/-- A session that drops an item and one that takes a source item, each after its first lock. -/
def dropAgainstTransfer : Threads (Fin 2) HostOperation :=
  ![some (.movePlayerStackToGround, 1), some (.moveSourceItemStackToEquipment, 1)]

/-- The drop holds the world and waits for the map, the transfer holds the map and waits for the
world. -/
theorem dropAgainstTransfer_deadlocks :
    LockRun program (fun _ _ => True) dropAgainstTransfer ∧
      Deadlocked program dropAgainstTransfer := by
  constructor
  · have hdrop : LockRun program (fun _ _ => True) (Function.update (fun _ : Fin 2 => none) 0
        (some (.movePlayerStackToGround, 0))) := .start 0 _ .idle rfl trivial
    have htransfer := LockRun.start 1 HostOperation.moveSourceItemStackToEquipment hdrop rfl trivial
    have hworld := LockRun.acquire 0 _ 0 .world htransfer rfl rfl (by decide)
    have hmap := LockRun.acquire 1 _ 0 .map hworld rfl rfl (by decide)
    convert hmap using 1
    funext t
    fin_cases t <;> rfl
  · refine ⟨Set.univ, ⟨0, trivial⟩, ?_⟩
    intro t _
    fin_cases t
    · exact ⟨.map, rfl, 1, trivial, by decide, by decide⟩
    · exact ⟨.world, rfl, 0, trivial, by decide, by decide⟩

end ForgottenEngine
