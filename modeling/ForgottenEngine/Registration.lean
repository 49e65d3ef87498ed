import ForgottenEngine.Overwrites

/-!
# Players come and go

What a registration and a removal leave behind, as one write each:

* `GameWorld.added`, `GameWorld.removed` — the world with a new player, and without a player;
* `leaves_addPlayer`, `leaves_removePlayer` — the two operations by what they leave.
-/

namespace ForgottenEngine

open Fallible

namespace GameWorld

/-- The world with a new player. -/
def added (w : GameWorld) (player : Player) (vitals : PlayerVitals)
    (progression : PlayerProgression) : GameWorld :=
  { w with
    players := w.players.insert player.id player
    playerVitals := w.playerVitals.insert player.id vitals
    playerConditions := w.playerConditions.insert player.id ∅
    playerRespawnStates := w.playerRespawnStates.insert player.id {}
    playerEquipments := w.playerEquipments.insert player.id .empty
    playerContainers := w.playerContainers.insert player.id .empty
    playerProgressions := w.playerProgressions.insert player.id progression
    playerProgressionAttempts := w.playerProgressionAttempts.insert player.id {}
    playerTowns := w.playerTowns.insert player.id 0
    playerRegenerationSchedules := w.playerRegenerationSchedules.insert player.id {}
    playerCombatDefenses := w.playerCombatDefenses.insert player.id {}
    playerFightModes := w.playerFightModes.insert player.id {}
    playerCombatCooldowns := w.playerCombatCooldowns.insert player.id {}
    playerSpellCooldowns := w.playerSpellCooldowns.insert player.id {} }

/-- A creature without the player as its target. -/
def withoutTarget (p : ℕ) (runtime : StaticCreatureRuntime) : StaticCreatureRuntime :=
  if runtime.targetPlayerId = some p then { runtime with targetPlayerId := none } else runtime

/-- The intents of the players who stay, without references to the one who goes. -/
def remainingInteractions (w : GameWorld) (p : ℕ) : BTreeMap ℕ PlayerInteractionIntent :=
  (w.playerInteractions.erase p).filterMap fun _ intent =>
    if (Living.withoutReferences p intent).isEngaged then some (Living.withoutReferences p intent)
    else none

/-- The world without the player. -/
def removed (w : GameWorld) (p : ℕ) : GameWorld :=
  { w with
    players := w.players.erase p
    playerVitals := w.playerVitals.erase p
    playerConditions := w.playerConditions.erase p
    playerRespawnStates := w.playerRespawnStates.erase p
    playerEquipments := w.playerEquipments.erase p
    playerContainers := w.playerContainers.erase p
    playerInteractions := w.remainingInteractions p
    staticCreatures := w.staticCreatures.map fun _ runtime => withoutTarget p runtime
    playerProgressions := w.playerProgressions.erase p
    playerProgressionAttempts := w.playerProgressionAttempts.erase p
    playerTowns := w.playerTowns.erase p
    playerRegenerationSchedules := w.playerRegenerationSchedules.erase p
    playerCombatDefenses := w.playerCombatDefenses.erase p
    playerFightModes := w.playerFightModes.erase p
    playerCombatCooldowns := w.playerCombatCooldowns.erase p
    playerSpellCooldowns := w.playerSpellCooldowns.erase p
    party := w.party.clearPlayerPartyState p }

variable {w : GameWorld} {p q : ℕ}

theorem isRegistered_added {player : Player} {vitals : PlayerVitals}
    {progression : PlayerProgression} :
    (w.added player vitals progression).IsRegistered q ↔ player.id = q ∨ w.IsRegistered q := by
  simp only [IsRegistered, added, Std.ExtTreeMap.getElem?_insert, Std.LawfulEqCmp.compare_eq_iff_eq]
  split
  · simp_all
  · simp_all

theorem isRegistered_removed : (w.removed p).IsRegistered q ↔ w.IsRegistered q ∧ q ≠ p := by
  simp only [IsRegistered, removed, Std.ExtTreeMap.getElem?_erase, Std.LawfulEqCmp.compare_eq_iff_eq]
  split
  · simp_all
  · simp_all [eq_comm]

end GameWorld

/-! ### What the two operations leave -/

theorem Living.atomic_addPlayerWithVitals (player : Player) (vitals : PlayerVitals) :
    Atomic (Living.addPlayerWithVitals player vitals) := by
  have hwrite (w : LivingWorld) (f : LivingWorld → LivingWorld) :
      AtomicAt (write f >>= fun _ => Living.markChanged) w :=
    (Succeeds.bind (.write f) fun _ => .write _).atomic w
  intro w
  refine AtomicAt.ite (fun _ => (ReadOnly.fail _).atomicAt w) fun _ => ?_
  refine .ite (fun _ => (ReadOnly.fail _).atomicAt w) fun _ => ?_
  refine .bind (.read _) fun _ _ => .bind (.read _) fun _ _ => .bind (.read _) fun _ _ => ?_
  refine .ite (fun _ => (ReadOnly.fail _).atomicAt w) fun _ => ?_
  refine .ite (fun _ => (ReadOnly.fail _).atomicAt w) fun _ => ?_
  exact .ite (fun _ => (ReadOnly.fail _).atomicAt w) fun _ => hwrite w _

theorem Living.atomic_removePlayer (p : ℕ) : Atomic (Living.removePlayer p) := by
  refine .bind (.readOr _ _) fun _ => Succeeds.atomic ?_
  refine .bind (.write _) fun _ => .bind (.write _) fun _ => .bind (.write _) fun _ => ?_
  exact .bind (.write _) fun _ => .pure _

theorem atomic_living {α : Type} {m : LivingM α} (hm : Atomic m) : Atomic (Game.living m) := by
  intro w e t hrun
  have hpart : m w.toLivingWorld = (.error e, (m w.toLivingWorld).2) := by
    have hfirst := congrArg Prod.fst hrun
    exact Prod.ext hfirst rfl
  have hstate : w.putLiving (m w.toLivingWorld).2 = t := congrArg Prod.snd hrun
  rw [hm _ _ _ hpart] at hstate
  exact hstate.symm

theorem living_eq_ok {α : Type} {m : LivingM α} {w w' : GameWorld} {a : α} :
    Game.living m w = (.ok a, w') ↔
      ∃ l, m w.toLivingWorld = (.ok a, l) ∧ w' = w.putLiving l := by
  simp only [Game.living, zoom, Prod.mk.injEq]
  constructor
  · rintro ⟨hresult, hstate⟩
    exact ⟨_, Prod.ext hresult rfl, hstate.symm⟩
  · rintro ⟨l, hrun, hstate⟩
    rw [hrun, hstate]
    exact ⟨rfl, rfl⟩

variable {P : GameWorld → Prop} {w : GameWorld}

/-- A registration leaves the world as it was, or with a new player on a tile without an active
creature. -/
theorem leaves_addPlayer {player : Player} {vitals : PlayerVitals} {progression : PlayerProgression}
    (hchanged : ∀ w : GameWorld, P w → P (w.putLiving w.toLivingWorld.changed)) (hw : P w)
    (hadded : w.players[player.id]? = none → player.position ∉ w.staticOccupiedPositions →
      P (w.added player vitals progression)) :
    Leaves P (Game.addPlayerWithVitalsAndProgression player vitals progression) w := by
  refine .bind (fun e t hrun => ?_) fun _ t hrun => ?_
  · rw [atomic_living (Living.atomic_addPlayerWithVitals player vitals) _ _ _ hrun]
    exact hw
  · obtain ⟨l, hpart, rfl⟩ := living_eq_ok.mp hrun
    simp only [Living.addPlayerWithVitals, Living.markChanged, guard_eq_ok, bind_eq_ok, read_apply,
      write_apply, Prod.mk.injEq, Except.ok.injEq] at hpart
    obtain ⟨-, -, _, _, ⟨rfl, rfl⟩, _, _, ⟨rfl, rfl⟩, _, _, ⟨rfl, rfl⟩, hnew, -, hfree, _, _,
      ⟨-, rfl⟩, -, rfl⟩ := hpart
    exact hchanged _ (hadded (by simpa using hnew) (Living.not_mem_occupied hfree))

/-- A removal leaves the world as it was, or without the player. -/
theorem leaves_removePlayer {p : ℕ}
    (hchanged : ∀ w : GameWorld, P w → P (w.putLiving w.toLivingWorld.changed)) (hw : P w)
    (hremoved : w.IsRegistered p → P (w.removed p)) : Leaves P (Game.removePlayer p) w := by
  refine .bind (fun e t hrun => ?_) fun _ t hrun => ?_
  · rw [atomic_living (Living.atomic_removePlayer p) _ _ _ hrun]
    exact hw
  · obtain ⟨l, hpart, rfl⟩ := living_eq_ok.mp hrun
    simp only [Living.removePlayer, Living.requirePlayer, Living.clearPlayerInteractionReferences,
      Living.markChanged, bind_eq_ok, readOr_eq_ok, write_apply, pure_apply, Prod.mk.injEq,
      Except.ok.injEq] at hpart
    obtain ⟨player, _, ⟨hplayer, rfl⟩, _, _, ⟨-, rfl⟩, _, _, ⟨-, rfl⟩, _, _, ⟨-, rfl⟩, _, _,
      ⟨-, rfl⟩, -, rfl⟩ := hpart
    exact hchanged _ (hremoved ⟨player, hplayer⟩)

end ForgottenEngine
