import ForgottenEngine.DeadPlayers

/-!
# God mode

A player in god mode loses no health to attacks: `applyDamageToKnownTarget` returns before it
writes.  The condition ticks subtract for themselves and do not ask.  So an operation that deals
damage spares such a player unless it is a tick of his own conditions that has something to take
(`godModeSpared_iff`).
-/

namespace ForgottenEngine

open Fallible Game

/-- The operations that deal damage, to players or to creatures. -/
def GameEvent.DealsDamage : GameEvent → Prop
  | upkeep (.conditions _ _) | upkeep (.conditionsWithDeath _ _ _ _) | upkeep (.damage _ _ _)
  | upkeep (.damageKnownTarget _ _) | upkeep (.meleeDamage _ _ _) | upkeep (.combat _)
  | upkeep (.combatWithDeath _ _) | upkeep (.spellCast _) | creature (.strike _ _ _) | creature (.meleeDamage _ _ _) => True
  | _ => False

/-- The player lost no health and did not die. -/
structure Spared (p : ℕ) (w w' : GameWorld) : Prop where
  health : ∀ vitals, w.playerVitals[p]? = some vitals →
    ∃ vitals', w'.playerVitals[p]? = some vitals' ∧ vitals.health ≤ vitals'.health
  alive : w'.Dead p → w.Dead p

/-- The player lives, and within the elapsed seconds his conditions ask for some of his health. -/
structure Drains (w : GameWorld) (p elapsedSeconds : ℕ) (vitals : PlayerVitals)
    (conditions : PlayerConditions) : Prop where
  vitals_eq : w.playerVitals[p]? = some vitals
  conditions_eq : w.playerConditions[p]? = some conditions
  alive : w.Alive p
  elapsed : 0 < elapsedSeconds
  healthy : 0 < vitals.health
  asked : 0 < conditions.requestedDamage (min elapsedSeconds maxRegenerationElapsedSeconds)

/-- Some conditions of the player drain him. -/
def Drained (w : GameWorld) (p elapsedSeconds : ℕ) : Prop :=
  ∃ vitals conditions, Drains w p elapsedSeconds vitals conditions

/-- The conditions drain him, and he has a temple to return to should he die of it. -/
def DrainedSafely (w : GameWorld) (p townId : ℕ) (worldMap : WorldMap) (elapsedSeconds : ℕ) : Prop :=
  ∃ vitals conditions, Drains w p elapsedSeconds vitals conditions ∧
    (vitals.health ≤
        conditions.requestedDamage (min elapsedSeconds maxRegenerationElapsedSeconds) →
      townId ≠ 0 ∧ worldMap.templePositionForTown townId ≠ none)

/-- The event lets conditions of the player take health. -/
def TicksOn (w : GameWorld) (p : ℕ) : GameEvent → Prop
  | .upkeep (.conditions q elapsedSeconds) => q = p ∧ Drained w p elapsedSeconds
  | .upkeep (.conditionsWithDeath q townId worldMap elapsedSeconds) =>
    q = p ∧ DrainedSafely w p townId worldMap elapsedSeconds
  | _ => False

/-! ### What the attacks leave -/

/-- The player is in god mode, as healthy as before and as alive. -/
structure Shielded (p : ℕ) (w w' : GameWorld) : Prop where
  god : p ∈ w'.playerGodMode
  health : w'.playerVitals[p]?.map PlayerVitals.health = w.playerVitals[p]?.map PlayerVitals.health
  lifecycle : w'.playerRespawnStates[p]? = w.playerRespawnStates[p]?

namespace Shielded

variable {p : ℕ} {w : GameWorld}

theorem refl (hgod : p ∈ w.playerGodMode) : Shielded p w w := ⟨hgod, rfl, rfl⟩

theorem spared {w' : GameWorld} (h : Shielded p w w') : Spared p w w' where
  health := by
    intro vitals hvitals
    have hhealth := h.health
    rw [hvitals] at hhealth
    obtain ⟨vitals', hvitals', heq⟩ := Option.map_eq_some_iff.mp hhealth
    exact ⟨vitals', hvitals', le_of_eq heq.symm⟩
  alive := by
    rintro ⟨state, hstate, hdead⟩
    exact ⟨state, h.lifecycle.symm.trans hstate, hdead⟩

/-- A write beside the player's health, lifecycle and flags. -/
theorem beside {u v : GameWorld} (h : Shielded p w u) (hgod : v.playerGodMode = u.playerGodMode)
    (hvitals : v.playerVitals[p]?.map PlayerVitals.health =
      u.playerVitals[p]?.map PlayerVitals.health)
    (hlifecycle : v.playerRespawnStates[p]? = u.playerRespawnStates[p]?) : Shielded p w v :=
  ⟨hgod ▸ h.god, hvitals.trans h.health, hlifecycle.trans h.lifecycle⟩

/-- Vitals of another player, or the same health. -/
theorem putVitals {u : GameWorld} (h : Shielded p w u) {q : ℕ} {old new : PlayerVitals}
    (hold : u.playerVitals[q]? = some old) (hsame : q = p → new.health = old.health) :
    Shielded p w (u.putVitals q new) := by
  refine h.beside rfl ?_ rfl
  simp only [GameWorld.putVitals, Std.ExtTreeMap.getElem?_insert, Std.LawfulEqCmp.compare_eq_iff_eq]
  split
  · rename_i heq
    rw [← heq, hold, Option.map_some, Option.map_some, hsame heq]
  · rfl

theorem stays_changed : Stays (Shielded p w) Game.markChanged := fun _ h => h.beside rfl rfl rfl

/-- **Nothing is taken from a player in god mode.** -/
theorem damage_eq {u : GameWorld} (hgod : p ∈ u.playerGodMode) (damage : ℕ) :
    applyDamageToKnownTarget p damage u =
      (.ok (0, (u.playerVitals[p]?.map PlayerVitals.health).getD 0), u) := by
  simp only [applyDamageToKnownTarget, bind_apply, read_apply, id, hgod, if_true, pure_apply]

theorem stays_damage (q damage : ℕ) : Stays (Shielded p w) (applyDamageToKnownTarget q damage) := by
  intro u hu
  by_cases hq : q ∈ u.playerGodMode
  · rw [Leaves, damage_eq hq]
    exact hu
  · simp only [applyDamageToKnownTarget, Game.playerVitals, leaves_read_bind, leaves_ite,
      leaves_pure, leaves_readOr_bind, leaves_write_bind, id]
    refine ⟨fun _ => hu, fun _ => ⟨fun _ => hu, fun vitals hvitals => hu.putVitals hvitals ?_⟩⟩
    intro heq
    exact absurd hu.god (heq ▸ hq)

/-- Another player may die. -/
theorem stays_death {q : ℕ} (hq : q ≠ p) (townId : ℕ) (worldMap : WorldMap) :
    Stays (Shielded p w) (living (Living.applyPlayerDeath q townId worldMap)) := by
  apply Robust.stays_living
  intro rest l hl
  have hl : Shielded p w (rest.putLiving l) := hl
  simp only [Living.applyPlayerDeath, Living.playerRespawnState, Living.requirePlayer,
    Living.clearPlayerInteractionReferences, Living.markChanged, leaves_readOr_bind,
    leaves_ofOption_bind, leaves_read_bind, leaves_ite, leaves_write_bind, leaves_pure]
  refine ⟨fun _ => hl, fun player _ => ⟨fun _ => hl, fun state _ => ⟨fun _ => hl, fun _ => ?_⟩⟩⟩
  refine ⟨fun _ => hl, fun temple _ => ⟨fun _ => hl, fun vitals hvitals => ?_⟩⟩
  have hhurt : Shielded p w ((rest.putLiving l).putVitals q { vitals with health := 0 }) :=
    hl.putVitals hvitals fun heq => absurd heq hq
  refine ⟨fun _ => hhurt, fun conditions _ => ?_⟩
  have hdead : Shielded p w ((rest.putLiving l).putRespawnState q
      ⟨true, some temple, some l.tick, false⟩) := by
    refine hl.beside rfl rfl ?_
    simp [GameWorld.putRespawnState, GameWorld.putLiving, Std.ExtTreeMap.getElem?_insert, hq]
  exact ⟨hl.god, hhurt.health, hdead.lifecycle⟩

theorem stays_applyPlayerDamage (attacker target damage : ℕ) :
    Stays (Shielded p w) (applyPlayerDamage attacker target damage) := by
  refine .ite (ReadOnly.fail _).stays (.bind (ReadOnly.readOr _ _).stays fun _ => ?_)
  refine .ite (ReadOnly.fail _).stays (.bind (ReadOnly.readOr _ _).stays fun _ => ?_)
  refine .bind (stays_damage target damage) fun _ => ?_
  exact .ite (.bind stays_changed fun _ => .pure _) (.pure _)

theorem stays_combat (event : PlayerCombatEvent) :
    Stays (Shielded p w) (applyPlayerCombatEvent event) := by
  have hcooled (n : ℕ) : Stays (Shielded p w)
      (write (GameWorld.putCombatCooldown · event.attackerId n) : GameM Unit) :=
    .write fun _ hu => hu.beside rfl rfl rfl
  refine .ite (ReadOnly.fail _).stays (.ite (ReadOnly.fail _).stays ?_)
  refine .bind (ReadOnly.readOr _ _).stays fun _ => .ite (ReadOnly.fail _).stays ?_
  refine .bind (ReadOnly.readOr _ _).stays fun _ => .bind (ReadOnly.readOr _ _).stays fun _ => ?_
  refine .ite (ReadOnly.fail _).stays (.bind (ReadOnly.readOr _ _).stays fun _ => ?_)
  refine .bind (ReadOnly.read _).stays fun _ => .ite (ReadOnly.fail _).stays ?_
  refine .ite (ReadOnly.fail _).stays (.bind (ReadOnly.readOr _ _).stays fun _ => ?_)
  refine .ite (ReadOnly.fail _).stays (.bind (ReadOnly.readOr _ _).stays fun _ => ?_)
  refine .bind (stays_damage _ _) fun _ => .bind (hcooled _) fun _ => ?_
  exact .bind stays_changed fun _ => .pure _

/-- Who dies of an attack was not in god mode. -/
theorem stays_combatWithDeath (event : PlayerCombatEvent) (worldMap : WorldMap) :
    Stays (Shielded p w) (applyPlayerCombatEventWithDeath event worldMap) := by
  intro u hu
  simp only [applyPlayerCombatEventWithDeath, Game.playerVitals, entryOf, leaves_readOr_bind,
    leaves_ite, leaves_fail]
  refine ⟨fun _ => hu, fun _ _ => ⟨fun _ => hu, fun townId _ => ⟨fun _ => hu, fun _ => ?_⟩⟩⟩
  refine ⟨fun _ => hu, fun _ => ?_⟩
  have hcombat := stays_combat (p := p) (w := w) event u hu
  refine .bind (fun e t hrun => ?_) fun outcome t hrun => ?_
  · rwa [Leaves, hrun] at hcombat
  · rw [Leaves, hrun] at hcombat
    obtain ⟨-, htarget, -⟩ := Robust.applyPlayerCombatEvent_eq_ok hrun
    have hne : event.targetId ≠ p := by
      intro heq
      exact htarget (heq ▸ hu.god)
    have hvitals {β : Type} (k : PlayerVitals → β) : Stays (Shielded p w) (do
        let vitals ← Game.playerVitals event.targetId
        (pure (k vitals) : GameM β)) := .bind (ReadOnly.readOr _ _).stays fun _ => .pure _
    have hrest : Stays (Shielded p w) (do
        let death ← living (Living.applyPlayerDeath event.targetId townId worldMap)
        let vitals ← Game.playerVitals event.targetId
        (pure (outcome, vitals, some death) : GameM _)) :=
      .bind (stays_death hne townId worldMap) fun _ => hvitals _
    have hfrag : Stays (Shielded p w) (recordPlayerFrag event.attackerId) :=
      .bind (ReadOnly.read _).stays fun _ => .bind (.write fun _ hv => hv.beside rfl rfl rfl) fun _ =>
        .bind stays_changed fun _ => .pure _
    exact Stays.ite (.ite (.bind hfrag fun _ => hrest) hrest) (hvitals _) t hcombat

theorem stays_spellCast (event : PlayerSpellCastEvent) :
    Stays (Shielded p w) (applyPlayerSpellCastEvent event) := by
  intro u hu
  simp only [applyPlayerSpellCastEvent, Game.playerVitals, Game.playerRespawnState, entryOf,
    leaves_readOr_bind, leaves_read_bind, leaves_ite, leaves_fail, leaves_write_bind]
  refine ⟨fun _ => hu, fun _ => ⟨fun _ => hu, fun _ _ => ⟨fun _ => hu, fun _ => ?_⟩⟩⟩
  refine ⟨fun _ => hu, fun _ _ => ⟨fun _ => hu, fun _ => ⟨fun _ => hu, fun vitals hvitals => ?_⟩⟩⟩
  refine ⟨fun _ => hu, fun _ => ?_⟩
  have hspent : Shielded p w (u.putVitals _ { vitals with mana := vitals.mana - event.manaCost }) :=
    hu.putVitals hvitals fun _ => rfl
  exact hspent.beside rfl rfl rfl

/-! ### Creatures -/

theorem stays_clear (id : ℕ) :
    Stays (Shielded p w) (living (Living.clearStaticCreatureTarget id)) := by
  apply Robust.stays_living
  intro rest
  refine .bind (ReadOnly.readOr _ _).stays fun _ => .bind ?_ fun _ => .ite ?_ (.pure _)
  · exact .bind (ReadOnly.readOr _ _).stays fun _ => .write fun _ hl => hl.beside rfl rfl rfl
  · exact .write fun _ hl => hl.beside rfl rfl rfl

theorem stays_strikeTarget (id target : ℕ) (r : StaticCreatureRuntime) (damage : ℕ)
    (worldMap : WorldMap) :
    Stays (Shielded p w) (strikeTarget id target r damage worldMap) := by
  have hput (f : GameWorld → StaticCreatureRuntime) :
      Stays (Shielded p w) (write fun u : GameWorld => u.putCreature id (f u) : GameM Unit) :=
    .write fun _ hu => hu.beside rfl rfl rfl
  have hcooled : Stays (Shielded p w) (write (cooledDown id r) : GameM Unit) := by
    apply Stays.write
    intro u hu
    unfold cooledDown
    split
    · exact hu.beside rfl rfl rfl
    · exact hu
  have htemple (lethal : Bool) : ReadOnly (requireTemple target worldMap lethal) :=
    .ite (.bind (.readOr _ _) fun _ => .bind (.ofOption _ _) fun _ => .pure _) (.pure _)
  have hend (x : StaticCreatureTargetAttackOutcome) (applied : ℕ)
      (deathState : Option PlayerRespawnState) : Stays (Shielded p w) (do
      if deathState.isSome then living (Living.clearStaticCreatureTarget id)
      if 0 < applied then Game.markChanged
      write (cooledDown id r)
      (pure x : GameM _)) := by
    have hlast : Stays (Shielded p w) (do
        write (cooledDown id r)
        (pure x : GameM _)) := .bind hcooled fun _ => .pure x
    have hmark : Stays (Shielded p w) (do
        if 0 < applied then Game.markChanged
        write (cooledDown id r)
        (pure x : GameM _)) := .ite (.bind stays_changed fun _ => hlast) hlast
    exact .ite (.bind (stays_clear id) fun _ => hmark) hmark
  refine .bind (hput _) fun _ => .bind (ReadOnly.readOr _ _).stays fun vitals => ?_
  refine .bind (ReadOnly.readOr _ _).stays fun defense => .bind (htemple _).stays fun townId => ?_
  by_cases htarget : target = p
  · -- nothing is applied, so nobody dies of it
    intro u hu
    have hnone : townId.filter (fun _ => decide
        ((u.playerVitals[target]?.map PlayerVitals.health).getD 0 = 0 ∧ 0 < 0)) = none := by
      cases townId with
      | none => rfl
      | some town => simp
    rw [Leaves, bind_of_ok (damage_eq (htarget ▸ hu.god) _)]
    show Leaves (Shielded p w) (dieIn target worldMap _ >>= _) u
    rw [hnone]
    exact hend _ 0 none u hu
  · refine .bind (stays_damage target _) fun outcome => .bind ?_ fun deathState => hend _ _ _
    cases townId.filter fun _ => decide (outcome.2 = 0 ∧ 0 < outcome.1) with
    | none => exact .pure none
    | some town => exact .bind (stays_death htarget town worldMap) fun _ => .pure _

theorem stays_strike (id damage : ℕ) (worldMap : WorldMap) :
    Stays (Shielded p w) (applyStaticCreatureTargetDamage id damage worldMap) := by
  have hclear : Stays (Shielded p w) (do
      living (Living.clearStaticCreatureTarget id)
      (pure .noTarget : GameM StaticCreatureTargetAttackOutcome)) :=
    .bind (stays_clear id) fun _ => .pure _
  refine .bind (ReadOnly.readOr _ _).stays fun r => .bind (ReadOnly.read _).stays fun u => ?_
  refine .ite (ReadOnly.fail _).stays (.ite (.pure _) (.ite hclear ?_))
  split
  · exact .pure _
  · split
    · exact hclear
    · exact .ite (.pure _) (stays_strikeTarget id _ r damage worldMap)

theorem stays_deactivate (id : ℕ) :
    Stays (Shielded p w) (living (Living.deactivateStaticCreature id)) := by
  apply Robust.stays_living
  intro rest l hl
  simp only [Living.deactivateStaticCreature, Living.markChanged, leaves_readOr_bind,
    leaves_read_bind, leaves_write_bind, leaves_ite, leaves_pure]
  refine ⟨fun _ => hl, fun r _ => ⟨fun _ => ⟨fun _ => ?_, fun _ => ?_⟩, fun _ => ⟨fun _ => ?_, fun _ => ?_⟩⟩⟩
  all_goals exact hl.beside rfl rfl rfl

theorem stays_meleeOnCreature (attacker id damage : ℕ) :
    Stays (Shielded p w) (applyStaticCreatureMeleeDamage attacker id damage) := by
  have hput (r : StaticCreatureRuntime) :
      Stays (Shielded p w) (write (GameWorld.putCreature · id r) : GameM Unit) :=
    .write fun _ hu => hu.beside rfl rfl rfl
  have hcooled (n : ℕ) :
      Stays (Shielded p w) (write (GameWorld.putCombatCooldown · attacker n) : GameM Unit) :=
    .write fun _ hu => hu.beside rfl rfl rfl
  refine .ite (ReadOnly.fail _).stays (.bind (ReadOnly.readOr _ _).stays fun _ => ?_)
  refine .bind (ReadOnly.readOr _ _).stays fun _ => .ite (ReadOnly.fail _).stays ?_
  refine .ite (ReadOnly.fail _).stays (.ite (ReadOnly.fail _).stays ?_)
  refine .bind (ReadOnly.readOr _ _).stays fun _ => .bind (ReadOnly.read _).stays fun _ => ?_
  refine .ite (ReadOnly.fail _).stays (.ite (.pure _) ?_)
  refine .bind (hput _) fun _ => .bind (hcooled _) fun _ => .ite ?_ ?_
  · exact .bind (stays_deactivate id) fun _ => .pure _
  · exact .bind stays_changed fun _ => .pure _

end Shielded

/-! ### The condition ticks -/

theorem Spared.refl (p : ℕ) (w : GameWorld) : Spared p w w :=
  ⟨fun vitals hvitals => ⟨vitals, hvitals, le_rfl⟩, fun hdead => hdead⟩

/-- The player lost health. -/
def Lowered (p : ℕ) (w w' : GameWorld) : Prop :=
  ∃ vitals vitals', w.playerVitals[p]? = some vitals ∧ w'.playerVitals[p]? = some vitals' ∧
    vitals'.health < vitals.health

section Conditions

variable {p : ℕ} {w : GameWorld}

theorem Lowered.not_spared {w' : GameWorld} (h : Lowered p w w') : ¬Spared p w w' := by
  intro hspared
  obtain ⟨vitals, vitals', hvitals, hvitals', hless⟩ := h
  obtain ⟨found, hfound, hle⟩ := hspared.health vitals hvitals
  rw [hvitals'] at hfound
  cases hfound
  omega

theorem pendingDamage_eq {elapsed : ℕ} {vitals : PlayerVitals} {conditions : PlayerConditions}
    (hvitals : w.playerVitals[p]? = some vitals)
    (hconditions : w.playerConditions[p]? = some conditions) :
    pendingPlayerConditionDamage p elapsed w =
      (.ok (min (conditions.requestedDamage elapsed) vitals.health), w) := by
  simp only [pendingPlayerConditionDamage, Game.playerVitals, entryOf, bind_apply,
    readOr_of_some (f := fun u : GameWorld => u.playerVitals[p]?) _ hvitals,
    readOr_of_some (f := fun u : GameWorld => u.playerConditions[p]?) _ hconditions, pure_apply]

theorem Shielded.stays_conditions {q : ℕ} (hq : q ≠ p) (elapsed : ℕ) :
    Stays (Shielded p w) (applyPlayerConditions q elapsed) := by
  intro u hu
  simp only [applyPlayerConditions, Game.playerVitals, Game.playerRespawnState, leaves_readOr_bind,
    leaves_ite, leaves_pure]
  refine ⟨fun _ => hu, fun vitals hvitals => ⟨fun _ => hu, fun _ _ => ⟨fun _ => hu, fun _ => ?_⟩⟩⟩
  refine Robust.leaves_readOnly_bind (Robust.readOnly_pendingDamage q _) hu fun damage _ => ?_
  simp only [entryOf, leaves_readOr_bind, leaves_ite, leaves_pure, leaves_write_bind]
  refine ⟨fun _ => hu, fun conditions _ => ⟨fun _ => hu, fun _ => ?_⟩⟩
  have hrun : Shielded p w (u.putConditions q
      (conditions.remaining (min elapsed maxRegenerationElapsedSeconds))) := hu.beside rfl rfl rfl
  have hhurt : Shielded p w (GameWorld.putVitals _ q { vitals with health := vitals.health - damage }) :=
    hrun.putVitals hvitals fun heq => absurd heq hq
  exact ⟨fun _ => ⟨fun _ => hhurt.beside rfl rfl rfl, fun _ => hhurt⟩,
    fun _ => ⟨fun _ => hrun.beside rfl rfl rfl, fun _ => hrun⟩⟩

/-- What both ticks begin with: only the conditions of somebody alive go on. -/
theorem leaves_tick {β : Type} {Q : GameWorld → Prop} {elapsed : ℕ} {still : PlayerVitals → β}
    {k : PlayerVitals → ℕ → GameM β} (hkept : ¬Drained w p elapsed → Q w)
    (hk : ∀ vitals (conditions : PlayerConditions), w.playerVitals[p]? = some vitals →
      w.playerConditions[p]? = some conditions → w.Alive p → Leaves Q (k vitals
        (min (conditions.requestedDamage (min elapsed maxRegenerationElapsedSeconds))
          vitals.health)) w) : Leaves Q (do
    let vitals ← Game.playerVitals p
    let state ← Game.playerRespawnState p
    if state.dead then pure (still vitals)
    else
      let damage ← pendingPlayerConditionDamage p (min elapsed maxRegenerationElapsedSeconds)
      k vitals damage) w := by
  simp only [Game.playerVitals, Game.playerRespawnState, leaves_readOr_bind, leaves_ite,
    leaves_pure]
  refine ⟨fun hnone => hkept ?_, fun vitals hvitals => ⟨fun hnone => hkept ?_,
    fun state hstate => ⟨fun hdead => hkept ?_, fun hlives => ?_⟩⟩⟩
  · rintro ⟨vitals, conditions, h⟩
    simp [h.vitals_eq] at hnone
  · rintro ⟨vitals, conditions, h⟩
    obtain ⟨state, hstate, -⟩ := h.alive
    simp [hstate] at hnone
  · rintro ⟨vitals, conditions, h⟩
    obtain ⟨found, hfound, hfalse⟩ := h.alive
    rw [hstate] at hfound
    cases hfound
    simp [hfalse] at hdead
  · cases hconditions : w.playerConditions[p]? with
    | none =>
      have hsame : Q w := by
        refine hkept ?_
        rintro ⟨vitals, conditions, h⟩
        simp [h.conditions_eq] at hconditions
      have hpending : pendingPlayerConditionDamage p (min elapsed maxRegenerationElapsedSeconds) w =
          (.error (.unknownPlayer p), w) := by
        simp [pendingPlayerConditionDamage, Game.playerVitals, entryOf, bind_apply,
          readOr_of_some (f := fun u : GameWorld => u.playerVitals[p]?) _ hvitals,
          readOr_of_none (f := fun u : GameWorld => u.playerConditions[p]?) _ hconditions]
      rwa [Leaves, bind_of_error hpending]
    | some conditions =>
      exact Leaves.bind_of_ok (pendingDamage_eq hvitals hconditions)
        (hk vitals conditions hvitals hconditions ⟨state, hstate, by simpa using hlives⟩)

/-- A tick lowers the health of a player whose conditions drain him, and else spares him. -/
structure Ticked (p elapsed : ℕ) (w w' : GameWorld) : Prop where
  lowered : Drained w p elapsed → Lowered p w w'
  spared : ¬Drained w p elapsed → Spared p w w'

theorem Ticked.unchanged {elapsed : ℕ} (h : ¬Drained w p elapsed) : Ticked p elapsed w w :=
  ⟨fun hdrained => absurd hdrained h, fun _ => .refl p w⟩

theorem leaves_conditions (p elapsed : ℕ) (w : GameWorld) :
    Leaves (Ticked p elapsed w) (applyPlayerConditions p elapsed) w := by
  refine leaves_tick .unchanged fun vitals conditions hvitals hconditions halive => ?_
  simp only [entryOf, leaves_readOr_bind, hconditions, leaves_ite, leaves_pure, leaves_write_bind,
    Option.some.injEq, reduceCtorEq, false_implies, true_and]
  intro found hfound
  cases hfound
  refine ⟨fun hidle => .unchanged ?_, fun hruns => ⟨fun htaken => ?_, fun hnothing => ?_⟩⟩
  · rintro ⟨found, conditions', h⟩
    rw [h.conditions_eq] at hconditions
    cases hconditions
    rcases hidle with hidle | rfl
    · have helapsed := h.elapsed
      rw [maxRegenerationElapsedSeconds] at hidle
      omega
    · have hasked := h.asked
      rw [show PlayerConditions.requestedDamage ∅ _ = 0 from rfl] at hasked
      omega
  · -- what is taken was asked for, and is there
    rw [Nat.lt_min] at htaken
    have hdrained : Drained w p elapsed :=
      ⟨vitals, conditions, hvitals, hconditions, halive, by omega, htaken.2, htaken.1⟩
    have hlowered {n : ℕ} (hn : 0 < n) {u : GameWorld} (hu : u.playerVitals[p]? =
        some { vitals with health := vitals.health - n }) : Ticked p elapsed w u :=
      ⟨fun _ => ⟨vitals, _, hvitals, hu, Nat.sub_lt htaken.2 hn⟩, fun hnot => absurd hdrained hnot⟩
    have hput (u : GameWorld) (x : PlayerVitals) : (u.putVitals p x).playerVitals[p]? = some x := by
      simp [GameWorld.putVitals]
    exact ⟨fun _ => hlowered (Nat.lt_min.mpr htaken) (hput _ _),
      fun _ => hlowered (Nat.lt_min.mpr htaken) (hput _ _)⟩
  · have hnot : ¬Drained w p elapsed := by
      rintro ⟨found, conditions', h⟩
      rw [h.conditions_eq] at hconditions
      rw [h.vitals_eq] at hvitals
      cases hconditions
      cases hvitals
      exact hnothing (Nat.lt_min.mpr ⟨h.asked, h.healthy⟩)
    have hspared {u : GameWorld} (hu : u.playerVitals = w.playerVitals)
        (hstates : u.playerRespawnStates = w.playerRespawnStates) : Ticked p elapsed w u := by
      refine ⟨fun hdrained => absurd hdrained hnot, fun _ => ⟨fun old hold => ?_, ?_⟩⟩
      · exact ⟨old, hu ▸ hold, le_rfl⟩
      · rintro ⟨found, hfound, hdead⟩
        exact ⟨found, hstates ▸ hfound, hdead⟩
    exact ⟨fun _ => hspared rfl rfl, fun _ => hspared rfl rfl⟩

/-- What the conditions take, they drain. -/
theorem drained_of_applied {elapsed : ℕ} {outcome : PlayerConditionOutcome} {t : GameWorld}
    (h : applyPlayerConditions p elapsed w = (.ok outcome, t)) (happlied : 0 < outcome.appliedDamage) :
    Drained w p elapsed := by
  simp only [applyPlayerConditions, Game.playerVitals, Game.playerRespawnState, bind_eq_ok,
    readOr_eq_ok] at h
  obtain ⟨vitals, _, ⟨hvitals, rfl⟩, state, _, ⟨hstate, rfl⟩, h⟩ := h
  split at h
  · cases h
    cases happlied
  · rename_i hlives
    simp only [bind_eq_ok, entryOf, readOr_eq_ok] at h
    obtain ⟨damage, u, hpending, conditions, _, ⟨hconditions, rfl⟩, h⟩ := h
    have hread := (Robust.readOnly_pendingDamage p _).state_eq hpending
    subst hread
    rw [pendingDamage_eq hvitals hconditions] at hpending
    cases hpending
    split at h
    · cases h
      cases happlied
    · rename_i hruns
      have hdamage : outcome.appliedDamage = min (PlayerConditions.requestedDamage conditions
          (min elapsed maxRegenerationElapsedSeconds)) vitals.health := by
        split at h <;> split at h <;> cases h <;> rfl
      rw [hdamage, Nat.lt_min] at happlied
      exact ⟨vitals, conditions, hvitals, hconditions, ⟨state, hstate, by simpa using hlives⟩,
        by omega, happlied.2, happlied.1⟩

/-- Once lowered, a death lowers him no less. -/
theorem Lowered.stays_death (p townId : ℕ) (worldMap : WorldMap) :
    Stays (Lowered p w) (living (Living.applyPlayerDeath p townId worldMap)) := by
  apply Robust.stays_living
  intro rest l hl
  have hl : Lowered p w (rest.putLiving l) := hl
  simp only [Living.applyPlayerDeath, Living.playerRespawnState, Living.requirePlayer,
    Living.clearPlayerInteractionReferences, Living.markChanged, leaves_readOr_bind,
    leaves_ofOption_bind, leaves_read_bind, leaves_ite, leaves_write_bind, leaves_pure]
  have hzero {u : GameWorld} {vitals : PlayerVitals} (hu : u.playerVitals =
      l.playerVitals.insert p { vitals with health := 0 }) : Lowered p w u := by
    obtain ⟨old, new, hold, -, hless⟩ := hl
    exact ⟨old, { vitals with health := 0 }, hold, by simp [hu], by show 0 < old.health; omega⟩
  refine ⟨fun _ => hl, fun player _ => ⟨fun _ => hl, fun state _ => ⟨fun _ => hl, fun _ => ?_⟩⟩⟩
  refine ⟨fun _ => hl, fun temple _ => ⟨fun _ => hl, fun vitals hvitals => ?_⟩⟩
  exact ⟨fun _ => hzero rfl, fun conditions _ => hzero rfl⟩

theorem Ticked.spared_iff {elapsed : ℕ} {w' : GameWorld} (h : Ticked p elapsed w w') :
    Spared p w w' ↔ ¬Drained w p elapsed :=
  ⟨fun hspared hdrained => (h.lowered hdrained).not_spared hspared, h.spared⟩

theorem drains_min {elapsed : ℕ} {vitals : PlayerVitals} {conditions : PlayerConditions} :
    Drains w p (min elapsed maxRegenerationElapsedSeconds) vitals conditions ↔
      Drains w p elapsed vitals conditions := by
  constructor
  · intro h
    have helapsed := h.elapsed
    have hasked := h.asked
    rw [min_assoc, min_self] at hasked
    exact ⟨h.vitals_eq, h.conditions_eq, h.alive, by omega, h.healthy, hasked⟩
  · intro h
    have helapsed := h.elapsed
    have hasked := h.asked
    refine ⟨h.vitals_eq, h.conditions_eq, h.alive, ?_, h.healthy, by rwa [min_assoc, min_self]⟩
    rw [maxRegenerationElapsedSeconds]
    omega

theorem leaves_conditionsWithDeath (p townId : ℕ) (worldMap : WorldMap) (elapsed : ℕ)
    (w : GameWorld) : Leaves (fun t => Spared p w t ↔ ¬DrainedSafely w p townId worldMap elapsed)
      (applyPlayerConditionsWithDeath p townId worldMap elapsed) w := by
  have hkept (h : ¬DrainedSafely w p townId worldMap elapsed) :
      Spared p w w ↔ ¬DrainedSafely w p townId worldMap elapsed := ⟨fun _ => h, fun _ => .refl p w⟩
  have hdrained : DrainedSafely w p townId worldMap elapsed → Drained w p elapsed := by
    rintro ⟨vitals, conditions, hdrains, -⟩
    exact ⟨vitals, conditions, hdrains⟩
  refine leaves_tick (fun h => hkept (mt hdrained h))
    fun vitals conditions hvitals hconditions halive => ?_
  have hlethal {asked health : ℕ} : (decide (0 < min asked health ∧ health ≤ min asked health) =
      true) ↔ 0 < health ∧ health ≤ asked := by
    simp only [decide_eq_true_eq]
    omega
  simp only [leaves_ite, leaves_fail, hlethal]
  have hthese {vitals' : PlayerVitals} {conditions' : PlayerConditions}
      (h : Drains w p elapsed vitals' conditions') : vitals' = vitals ∧ conditions' = conditions :=
    ⟨Option.some.inj (h.vitals_eq.symm.trans hvitals),
      Option.some.inj (h.conditions_eq.symm.trans hconditions)⟩
  refine ⟨fun hnowhere => hkept ?_, fun htown => ⟨fun hunknown => hkept ?_, fun htemple => ?_⟩⟩
  · obtain ⟨hdies, htown⟩ := hnowhere
    rintro ⟨vitals', conditions', hdrains, hsafe⟩
    obtain ⟨rfl, rfl⟩ := hthese hdrains
    exact (hsafe hdies.2).1 htown
  · obtain ⟨hdies, htemple⟩ := hunknown
    rintro ⟨vitals', conditions', hdrains, hsafe⟩
    obtain ⟨rfl, rfl⟩ := hthese hdrains
    exact (hsafe hdies.2).2 htemple
  · -- the death he may die has its temple
    have hsafely : DrainedSafely w p townId worldMap elapsed ↔
        Drained w p (min elapsed maxRegenerationElapsedSeconds) := by
      constructor
      · rintro ⟨vitals', conditions', hdrains, -⟩
        exact ⟨vitals', conditions', drains_min.mpr hdrains⟩
      · rintro ⟨vitals', conditions', hdrains⟩
        obtain ⟨rfl, rfl⟩ := hthese (drains_min.mp hdrains)
        refine ⟨vitals', conditions', drains_min.mp hdrains, fun hdies => ⟨fun hzero => ?_,
          fun hnone => ?_⟩⟩
        · exact htown ⟨⟨hdrains.healthy, hdies⟩, hzero⟩
        · exact htemple ⟨⟨hdrains.healthy, hdies⟩, hnone⟩
    have hticked := leaves_conditions p (min elapsed maxRegenerationElapsedSeconds) w
    refine .bind (fun e t hrun => ?_) fun outcome t hrun => ?_
    · rw [Leaves, hrun] at hticked
      rw [hsafely]
      exact hticked.spared_iff
    · rw [Leaves, hrun] at hticked
      rw [hsafely]
      by_cases hdrained : Drained w p (min elapsed maxRegenerationElapsedSeconds)
      · have hlowered : Stays (Lowered p w) (do
            let death ← living (Living.applyPlayerDeath p townId worldMap)
            (pure (outcome, some death) : GameM _)) :=
          .bind (Lowered.stays_death p townId worldMap) fun _ => .pure _
        have hend : Stays (Lowered p w) (if 0 < outcome.appliedDamage ∧ outcome.remainingHealth = 0
            then do
              let death ← living (Living.applyPlayerDeath p townId worldMap)
              (pure (outcome, some death) : GameM _)
            else pure (outcome, none)) := .ite hlowered (.pure _)
        refine (hend t (hticked.lowered hdrained)).mono fun u hu => ?_
        exact ⟨fun hspared => absurd hspared hu.not_spared, fun hnot => absurd hdrained hnot⟩
      · have hnone : ¬(0 < outcome.appliedDamage ∧ outcome.remainingHealth = 0) :=
          fun h => hdrained (drained_of_applied hrun h.1)
        rw [if_neg hnone, leaves_pure]
        exact hticked.spared_iff

end Conditions

theorem Shielded.stays_conditionsWithDeath {p q : ℕ} {w : GameWorld} (hq : q ≠ p) (townId : ℕ)
    (worldMap : WorldMap) (elapsed : ℕ) :
    Stays (Shielded p w) (applyPlayerConditionsWithDeath q townId worldMap elapsed) := by
  refine .bind (ReadOnly.readOr _ _).stays fun vitals => ?_
  refine .bind (ReadOnly.readOr _ _).stays fun state => .ite (.pure _) ?_
  refine .bind (Robust.readOnly_pendingDamage q _).stays fun pending => ?_
  refine .ite (ReadOnly.fail _).stays (.ite (ReadOnly.fail _).stays ?_)
  refine .bind (stays_conditions hq _) fun outcome => .ite ?_ (.pure _)
  exact .bind (stays_death hq townId worldMap) fun _ => .pure _

/-- **A player in god mode is spared by exactly the events that do not tick on him.** -/
theorem godModeSpared_iff (toLowercase : String → String) {w : GameWorld} {p : ℕ}
    (hgod : p ∈ w.playerGodMode) {event : GameEvent} (hdeals : event.DealsDamage) :
    Spared p w (event.step toLowercase w) ↔ ¬TicksOn w p event := by
  change Leaves (fun w' => Spared p w w' ↔ ¬TicksOn w p event) (event.perform toLowercase) w
  have hspared {α : Type} {m : GameM α} (hm : Stays (Shielded p w) m) :
      Leaves (Spared p w) (void m) w := leaves_void.mpr ((hm w (.refl hgod)).mono fun _ h => h.spared)
  have hnever {α : Type} {m : GameM α} (hm : Stays (Shielded p w) m) {c : Prop} (hc : ¬c) :
      Leaves (fun w' => Spared p w w' ↔ ¬c) (void m) w :=
    (hspared hm).mono fun _ h => iff_of_true h hc
  cases event with
  | addPlayer p vitals progression => exact hdeals.elim
  | removePlayer p => exact hdeals.elim
  | inventory event => exact hdeals.elim
  | player event => exact hdeals.elim
  | overwrite event => exact hdeals.elim
  | party event => exact hdeals.elim
  | creature event =>
    cases event with
    | strike id damage worldMap => exact hnever (Shielded.stays_strike id damage worldMap) not_false
    | meleeDamage attacker id damage =>
      exact hnever (Shielded.stays_meleeOnCreature attacker id damage) not_false
    | _ => exact hdeals.elim
  | upkeep event =>
    cases event with
    | conditions q elapsed =>
      by_cases hq : q = p
      · subst hq
        refine leaves_void.mpr ((leaves_conditions q elapsed w).mono fun w' h => ?_)
        simp only [TicksOn, true_and]
        exact h.spared_iff
      · exact hnever (Shielded.stays_conditions hq elapsed) fun hticks => hq hticks.1
    | conditionsWithDeath q townId worldMap elapsed =>
      by_cases hq : q = p
      · subst hq
        refine leaves_void.mpr ((leaves_conditionsWithDeath q townId worldMap elapsed w).mono ?_)
        intro w' h
        simpa only [TicksOn, true_and] using h
      · exact hnever (Shielded.stays_conditionsWithDeath hq townId worldMap elapsed)
          fun hticks => hq hticks.1
    | damage attacker target n =>
      exact hnever (Shielded.stays_applyPlayerDamage attacker target n) not_false
    | damageKnownTarget target n => exact hnever (Shielded.stays_damage target n) not_false
    | meleeDamage attacker target n =>
      have hmelee : Stays (Shielded p w) (applyPlayerMeleeDamage attacker target n) :=
        .bind (ReadOnly.readOr _ _).stays fun _ => .bind (ReadOnly.readOr _ _).stays fun _ =>
          .ite (ReadOnly.fail _).stays (Shielded.stays_applyPlayerDamage attacker target n)
      exact hnever hmelee not_false
    | combat event => exact hnever (Shielded.stays_combat event) not_false
    | combatWithDeath event worldMap =>
      exact hnever (Shielded.stays_combatWithDeath event worldMap) not_false
    | spellCast event => exact hnever (Shielded.stays_spellCast event) not_false
    | _ => exact hdeals.elim

/-- A knight in god mode is poisoned. -/
def knightPoisoned : List GameEvent :=
  [knightEnters 7 100, .upkeep (.setGodMode 7 true),
    .overwrite (.applyCondition 7 ⟨.poison, 1, 5, 0, 10, 0⟩)]

theorem godModeSpared_iff_combat :
    Spared 7 (knightPoisoned.foldl (GameEvent.step id) .empty)
        (GameEvent.step id (knightPoisoned.foldl (GameEvent.step id) .empty)
          (.upkeep (.damageKnownTarget 7 100))) ↔
      ¬TicksOn (knightPoisoned.foldl (GameEvent.step id) .empty) 7
        (.upkeep (.damageKnownTarget 7 100)) :=
  godModeSpared_iff id (by decide +kernel) trivial

/-- **Poison hurts a player in god mode.** -/
theorem poison_godMode : ¬∀ (events : List GameEvent) (p : ℕ) (event : GameEvent),
    p ∈ (events.foldl (GameEvent.step id) .empty).playerGodMode → event.DealsDamage →
      Spared p (events.foldl (GameEvent.step id) .empty)
        (event.step id (events.foldl (GameEvent.step id) .empty)) := by
  intro h
  have hspared := h knightPoisoned 7 (.upkeep (.conditions 7 1)) (by decide +kernel) trivial
  have hbefore : (knightPoisoned.foldl (GameEvent.step id) .empty).playerVitals[7]?.map
      (fun vitals => vitals.health) = some 150 := by decide +kernel
  have hafter : (GameEvent.step id (knightPoisoned.foldl (GameEvent.step id) .empty)
      (.upkeep (.conditions 7 1))).playerVitals[7]?.map (fun vitals => vitals.health) =
        some 145 := by decide +kernel
  obtain ⟨vitals, hvitals, hfull⟩ := Option.map_eq_some_iff.mp hbefore
  obtain ⟨vitals', hvitals', hle⟩ := hspared.health vitals hvitals
  rw [hvitals'] at hafter
  obtain hless : vitals'.health = 145 := Option.some.inj hafter
  omega

end ForgottenEngine
