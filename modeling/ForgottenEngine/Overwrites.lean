import ForgottenEngine.CreatureUpkeep

/-!
# What is written without guards

Some operations put a value where it belongs and ask only whether the player is known: lifecycle,
vitals, conditions, experience, frags.  `OverwriteEvent.Writes` lists what each of them writes, so
that a property of the runs has to be compared with these writes only.
-/

namespace ForgottenEngine

open Fallible Game

/-- A player after an award. -/
def advancedPlayer (player : Player) (policy : ExperienceAwardPolicy) (rawExperience : ℕ) : Player :=
  if 0 < policy.awardFor player.level rawExperience then
    player.addExperience (policy.awardFor player.level rawExperience) else player

/-- What an accepted overwrite writes, but for the revision. -/
inductive OverwriteEvent.Writes (w : GameWorld) : OverwriteEvent → GameWorld → Prop
  | lifecycle {p state old} : w.IsRegistered p → w.playerRespawnStates[p]? = some old →
      (state.dead = false → state = {}) →
      Writes w (.hydrateRespawnState p state) (w.putRespawnState p state)
  | vitals {p old vitals} : w.IsRegistered p → w.playerVitals[p]? = some old →
      Writes w (.updateVitals p vitals) (w.putVitals p vitals)
  | conditions {p conditions} : w.IsRegistered p →
      Writes w (.replaceConditions p conditions) (w.putConditions p conditions)
  | condition {p condition} {conditions : PlayerConditions} : w.playerConditions[p]? = some conditions →
      Writes w (.applyCondition p condition)
        (w.putConditions p (conditions.insert condition.kind condition))
  | haste {p bonus seconds condition} {conditions : PlayerConditions} : w.IsRegistered p →
      Writes w (.applySpeedCondition p bonus seconds)
        (w.putConditions p (conditions.insert .haste condition))
  | experience {p raw policy gains player} : w.players[p]? = some player →
      Writes w (.awardExperience p raw policy gains)
        (w.putPlayer p (advancedPlayer player policy raw))
  | levels {p raw policy gains player vitals} (n : ℕ) : w.players[p]? = some player →
      w.playerVitals[p]? = some vitals → player.level < (advancedPlayer player policy raw).level →
      Writes w (.awardExperience p raw policy gains)
        ((w.putPlayer p (advancedPlayer player policy raw)).putVitals p (gains.apply vitals n))
  | frag {p} (n : ℕ) : Writes w (.recordFrag p) { w with playerFrags := w.playerFrags.insert p n }

section Overwrite

variable {P : GameWorld → Prop} {w : GameWorld}

/-- A replacement writes the value of a registered player who has one. -/
theorem leaves_replaceEntry {α : Type} [DecidableEq α] {table : GameWorld → BTreeMap ℕ α}
    {put : GameWorld → ℕ → α → GameWorld} (p : ℕ) (value : α)
    (hchanged : ∀ w, P w → P (w.putLiving w.toLivingWorld.changed)) (hw : P w)
    (hput : ∀ old, w.IsRegistered p → (table w)[p]? = some old → P (put w p value)) :
    Leaves P (replaceEntry table put p value) w := by
  simp only [replaceEntry, Game.requirePlayer, entryOf, leaves_readOr_bind, leaves_ite, leaves_pure,
    leaves_write_bind]
  refine ⟨fun _ => hw, fun player hplayer => ⟨fun _ => hw, fun old hold => ⟨fun _ => hw, ?_⟩⟩⟩
  intro _
  exact hchanged _ (hput old ⟨player, hplayer⟩ hold)

/-- **An overwrite leaves what its writes leave.** -/
theorem leaves_overwrite (event : OverwriteEvent)
    (hchanged : ∀ w, P w → P (w.putLiving w.toLivingWorld.changed)) (hw : P w)
    (hwrites : ∀ w', event.Writes w w' → P w') : Leaves P event.perform w := by
  cases event with
  | hydrateRespawnState p state =>
    show Leaves P (void _) w
    rw [leaves_void]
    show Leaves (fun l => P (w.putLiving l)) (Living.hydratePlayerRespawnState p state) _
    simp only [Living.hydratePlayerRespawnState, Living.requirePlayer, Living.playerRespawnState,
      Living.markChanged, leaves_readOr_bind, leaves_ite, leaves_fail, leaves_pure,
      leaves_write_bind]
    refine ⟨fun _ => hw, fun player hplayer => ⟨fun _ => hw, fun hvalid => ⟨fun _ => hw, ?_⟩⟩⟩
    refine fun old hold => ⟨fun _ => hw, fun _ =>
      hchanged (w.putRespawnState p state) (hwrites _ ?_)⟩
    refine .lifecycle ⟨player, hplayer⟩ hold fun halive => ?_
    simpa [halive] using hvalid
  | updateVitals p vitals =>
    show Leaves P (updatePlayerVitals p vitals) w
    unfold updatePlayerVitals
    rw [leaves_ite]
    refine ⟨fun _ => hw, fun _ => ?_⟩
    have hput : Leaves P (replaceEntry (·.playerVitals) GameWorld.putVitals p vitals) w :=
      leaves_replaceEntry p vitals hchanged hw fun old hp hold => hwrites _ (.vitals hp hold)
    exact leaves_void.mpr hput
  | replaceConditions p conditions =>
    exact leaves_void.mpr (leaves_replaceEntry p conditions hchanged hw
      fun old hp _ => hwrites _ (.conditions hp))
  | applyCondition p condition =>
    show Leaves P (void _) w
    simp only [leaves_void, applyPlayerCondition, entryOf, leaves_readOr_bind, leaves_ite,
      leaves_pure, leaves_write_bind]
    refine ⟨fun _ => hw, fun conditions hconditions => ⟨fun _ => hw, fun _ => ?_⟩⟩
    exact hchanged _ (hwrites _ (.condition hconditions))
  | applySpeedCondition p bonus seconds =>
    show Leaves P (void _) w
    simp only [leaves_void, applyPlayerSpeedCondition, Game.requirePlayer, leaves_readOr_bind,
      leaves_ofExcept_bind, leaves_write_bind]
    refine ⟨fun _ => hw, fun player hplayer => ⟨fun _ _ => hw, fun condition _ => ?_⟩⟩
    exact hchanged _ (hwrites _ (.haste ⟨player, hplayer⟩))
  | awardExperience p raw policy gains =>
    show Leaves P (void _) w
    simp only [leaves_void, awardPlayerExperienceWithVocationGains, Game.requirePlayer,
      Game.playerVitals, leaves_readOr_bind, leaves_ite, leaves_write_bind, leaves_pure]
    refine ⟨fun _ => hw, fun vitals hvitals => ⟨fun _ => hw, fun player hplayer => ?_⟩⟩
    have hexperience := hwrites (w.putPlayer p (advancedPlayer player policy raw))
      (.experience hplayer)
    refine ⟨fun hgained => ?_, fun _ => ⟨fun _ => hchanged _ hexperience, fun _ => hexperience⟩⟩
    have hlevels := hwrites ((w.putPlayer p (advancedPlayer player policy raw)).putVitals p
      (gains.apply vitals ((advancedPlayer player policy raw).level - player.level)))
      (.levels _ hplayer hvitals (Nat.lt_of_sub_pos hgained))
    exact ⟨fun _ => hchanged _ hlevels, fun _ => hlevels⟩
  | recordFrag p =>
    show Leaves P (void _) w
    simp only [leaves_void, recordPlayerFrag, leaves_read_bind, leaves_write_bind]
    exact hchanged _ (hwrites _ (.frag _))

end Overwrite

end ForgottenEngine
