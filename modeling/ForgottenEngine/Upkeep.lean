import ForgottenEngine.GameEvents

/-!
# The upkeep of players stays within its guards

The operations on one player's values, one lemma each: a property that is `Robust` survives it.

* `Books` lemmas — the tables only this layer has get entries for known players;
* `stays_upkeep` — **a robust property survives** every upkeep event.
-/

namespace ForgottenEngine

open Fallible

theorem Game.mem_setFlag {flags : BTreeSet ℕ} {p q : ℕ} {enabled : Bool}
    (h : q ∈ Game.setFlag flags p enabled) : q ∈ flags ∨ p = q := by
  unfold Game.setFlag at h
  split at h
  · rw [OrderedMap.set_mem_insert] at h
    exact h.symm
  · rw [OrderedMap.set_mem_erase] at h
    exact .inl h.2

namespace GameWorld

variable {w w' : GameWorld} {p : ℕ}

/-- A write that makes at most an entry for one known player. -/
theorem Books.of_entry (hliving : w'.toLivingWorld = w.toLivingWorld) (hparty : w'.party = w.party)
    (hnoted : ∀ q, w'.Noted q → w.Noted q ∨ p = q) (hp : w.Noted p ∨ w.IsRegistered p) :
    w.Books w' where
  living := hliving
  party := hparty
  noted := by
    intro q hq
    rcases hnoted q hq with hq | rfl
    · exact .inl hq
    · exact hp

section Entries

variable (hp : w.Noted p ∨ w.IsRegistered p)
include hp

theorem books_putProgression (x : PlayerProgression) : w.Books (w.putProgression p x) :=
  .of_entry rfl rfl (fun q hq => by simp [Noted, putProgression] at hq ⊢; grind) hp

theorem books_putAttempts (x : PlayerProgressionAttempts) : w.Books (w.putAttempts p x) :=
  .of_entry rfl rfl (fun q hq => by simp [Noted, putAttempts] at hq ⊢; grind) hp

theorem books_putTown (x : ℕ) : w.Books { w with playerTowns := w.playerTowns.insert p x } :=
  .of_entry rfl rfl (fun q hq => by simp [Noted] at hq ⊢; grind) hp

theorem books_putSchedule (x : PlayerRegenerationSchedule) : w.Books
    { w with playerRegenerationSchedules := w.playerRegenerationSchedules.insert p x } :=
  .of_entry rfl rfl (fun q hq => by simp [Noted] at hq ⊢; grind) hp

theorem books_putFood (x : PlayerFoodWindow) :
    w.Books { w with playerFoodWindows := w.playerFoodWindows.insert p x } :=
  .of_entry rfl rfl (fun q hq => by simp [Noted] at hq ⊢; grind) hp

theorem books_setGodMode (enabled : Bool) :
    w.Books { w with playerGodMode := Game.setFlag w.playerGodMode p enabled } := by
  refine .of_entry rfl rfl (fun q hq => ?_) hp
  have hflag := @Game.mem_setFlag w.playerGodMode p q enabled
  simp only [Noted] at hq ⊢
  grind

theorem books_setInvisible (enabled : Bool) :
    w.Books { w with playerInvisible := Game.setFlag w.playerInvisible p enabled } := by
  refine .of_entry rfl rfl (fun q hq => ?_) hp
  have hflag := @Game.mem_setFlag w.playerInvisible p q enabled
  simp only [Noted] at hq ⊢
  grind

theorem books_putDefense (x : PlayerCombatDefense) :
    w.Books { w with playerCombatDefenses := w.playerCombatDefenses.insert p x } :=
  .of_entry rfl rfl (fun q hq => by simp [Noted] at hq ⊢; grind) hp

theorem books_putFightMode (x : PlayerFightModeState) :
    w.Books { w with playerFightModes := w.playerFightModes.insert p x } :=
  .of_entry rfl rfl (fun q hq => by simp [Noted] at hq ⊢; grind) hp

theorem books_putCombatCooldown (x : ℕ) : w.Books (w.putCombatCooldown p x) :=
  .of_entry rfl rfl (fun q hq => by simp [Noted, putCombatCooldown] at hq ⊢; grind) hp

theorem books_putSpellCooldown (x : ℕ) : w.Books (w.putSpellCooldown p x) :=
  .of_entry rfl rfl (fun q hq => by simp [Noted, putSpellCooldown] at hq ⊢; grind) hp

theorem books_putFrags (x : ℕ) : w.Books { w with playerFrags := w.playerFrags.insert p x } :=
  .of_entry rfl rfl (fun q hq => by simp [Noted] at hq ⊢; grind) hp

end Entries

/-- Somebody who has an entry is noted. -/
theorem mem_of_getElem? {α : Type} {m : BTreeMap ℕ α} {x : α} (h : m[p]? = some x) : p ∈ m := by
  rw [Std.ExtTreeMap.mem_iff_isSome_getElem?, h]
  rfl

theorem Books.refl (w : GameWorld) : w.Books w := ⟨rfl, rfl, fun _ h => .inl h⟩

/-- An update of a window that is there. -/
theorem books_feed (w : GameWorld) (p : ℕ) (f : PlayerFoodWindow → ℕ × PlayerFoodWindow) :
    w.Books (w.putFoodWindow p ((w.playerFoodWindows[p]?.map f).map Prod.snd)) := by
  cases hwindow : w.playerFoodWindows[p]? with
  | none => exact .refl w
  | some window => exact books_putFood (.inl (by simp [Noted, mem_of_getElem? hwindow])) _

end GameWorld

namespace Robust

open Game

variable {P : GameWorld → Prop} (h : Robust P)
include h

theorem stays_changed : Stays P Game.markChanged := fun w hw => h.changed w hw

/-- A replacement stays where its write stays. -/
theorem stays_replaceEntry {α : Type} [DecidableEq α] {table : GameWorld → BTreeMap ℕ α}
    {put : GameWorld → ℕ → α → GameWorld} (p : ℕ) (value : α)
    (hput : ∀ w, w.IsRegistered p → P w → P (put w p value)) :
    Stays P (replaceEntry table put p value) := by
  intro w hw
  simp only [replaceEntry, Game.requirePlayer, entryOf, leaves_readOr_bind, leaves_ite, leaves_pure,
    leaves_write_bind]
  refine ⟨fun _ => hw, fun player hplayer => ⟨fun _ => hw, fun _ _ => ⟨fun _ => hw, fun _ => ?_⟩⟩⟩
  exact h.changed _ (hput w ⟨player, hplayer⟩ hw)

theorem stays_grantPlayerFoodWindow (p seconds : ℕ) : Stays P (grantPlayerFoodWindow p seconds) := by
  intro w hw
  simp only [grantPlayerFoodWindow, Game.requirePlayer, leaves_ite, leaves_fail, leaves_readOr_bind,
    leaves_read_bind, leaves_pure, leaves_write_bind]
  refine ⟨fun _ => hw, fun _ => ⟨fun _ => hw, fun player hplayer => ⟨fun _ => hw, fun _ => ?_⟩⟩⟩
  exact h.changed _ (h.books _ _ (GameWorld.books_putFood (.inr ⟨player, hplayer⟩) _) hw)

theorem stays_setPlayerGodMode (p : ℕ) (enabled : Bool) : Stays P (setPlayerGodMode p enabled) := by
  intro w hw
  simp only [setPlayerGodMode, Game.requirePlayer, leaves_readOr_bind, leaves_write_bind]
  refine ⟨fun _ => hw, fun player hplayer => ?_⟩
  exact h.changed _ (h.books _ _ (GameWorld.books_setGodMode (.inr ⟨player, hplayer⟩) _) hw)

theorem stays_setPlayerInvisible (p : ℕ) (enabled : Bool) :
    Stays P (setPlayerInvisible p enabled) := by
  intro w hw
  simp only [setPlayerInvisible, Game.requirePlayer, leaves_readOr_bind, leaves_write_bind]
  refine ⟨fun _ => hw, fun player hplayer => ?_⟩
  exact h.changed _ (h.books _ _ (GameWorld.books_setInvisible (.inr ⟨player, hplayer⟩) _) hw)

theorem stays_applyPlayerRegeneration (p : ℕ) (rules : PlayerRegenerationRules) (elapsed : ℕ) :
    Stays P (applyPlayerRegeneration p rules elapsed) := by
  intro w hw
  simp only [applyPlayerRegeneration, Game.playerVitals, Game.playerRespawnState, entryOf,
    leaves_readOr_bind, leaves_ite, leaves_pure, leaves_write_bind, leaves_read_bind]
  refine ⟨fun _ => hw, fun vitals hvitals => ⟨fun _ => hw, fun state hstate => ⟨fun _ => hw, ?_⟩⟩⟩
  refine fun hlives => ⟨fun _ => hw, fun schedule hschedule => ?_⟩
  have halive : w.Alive p := ⟨state, hstate, by simpa using fun hdead => hlives (.inl hdead)⟩
  have hnoted : w.Noted p := by simp [GameWorld.Noted, GameWorld.mem_of_getElem? hschedule]
  have hscheduled (x : PlayerRegenerationSchedule) :=
    h.books _ _ (GameWorld.books_putSchedule (.inl hnoted) x) hw
  have hfed (x : PlayerRegenerationSchedule) (f : PlayerFoodWindow → ℕ × PlayerFoodWindow) :=
    h.books _ _ (GameWorld.books_feed _ p f) (hscheduled x)
  refine ⟨fun _ => h.changed _ ?_, fun _ => hfed _ _⟩
  exact h.vitals _ p vitals _ hvitals (.inr halive) (hfed _ _)

theorem stays_applyPlayerSkillTries (p : ℕ) (skill : PlayerSkill) (tries : ℕ)
    (rules : PlayerProgressionRules) : Stays P (applyPlayerSkillTries p skill tries rules) := by
  intro w hw
  simp only [applyPlayerSkillTries, entryOf, leaves_readOr_bind, leaves_ite, leaves_pure,
    leaves_write_bind]
  refine ⟨fun _ => hw, fun progression hprogression => ⟨fun _ => hw, fun attempts hattempts => ?_⟩⟩
  have hnoted : w.Noted p := by simp [GameWorld.Noted, GameWorld.mem_of_getElem? hprogression]
  have hskills (x : PlayerProgression) :=
    h.books _ _ (GameWorld.books_putProgression (.inl hnoted) x) hw
  have hnoted' (x : PlayerProgression) : (w.putProgression p x).Noted p := by
    simp [GameWorld.Noted, GameWorld.putProgression]
  refine ⟨fun _ => h.changed _ ?_, fun _ => hw⟩
  exact h.books _ _ (GameWorld.books_putAttempts (.inl (hnoted' _)) _) (hskills _)

theorem stays_applyPlayerMagicMana (p mana : ℕ) (rules : PlayerProgressionRules) :
    Stays P (applyPlayerMagicMana p mana rules) := by
  intro w hw
  simp only [applyPlayerMagicMana, Game.playerVitals, entryOf, leaves_readOr_bind, leaves_ite,
    leaves_pure, leaves_write_bind]
  refine ⟨fun _ => hw, fun attempts hattempts => ⟨fun _ => hw, fun vitals hvitals => ?_⟩⟩
  have hnoted : w.Noted p := by simp [GameWorld.Noted, GameWorld.mem_of_getElem? hattempts]
  have hmagic (x : ℕ) := h.vitals w p vitals { vitals with magicLevel := x } hvitals
    (.inl le_rfl) hw
  refine ⟨fun _ => h.changed _ (h.books _ _ (GameWorld.books_putAttempts (.inl ?_) _) (hmagic _)),
    fun _ => hw⟩
  exact hnoted

theorem stays_applyFixedPercentDeathLoss (p percent : ℕ) (rules : PlayerProgressionRules) :
    Stays P (applyFixedPercentDeathLoss p percent rules) := by
  intro w hw
  simp only [applyFixedPercentDeathLoss, Game.playerVitals, Game.playerRespawnState,
    Game.requirePlayer, entryOf, leaves_readOr_bind, leaves_ite, leaves_fail, leaves_write_bind]
  refine ⟨fun _ => hw, fun _ => ⟨fun _ => hw, fun state hstate => ⟨fun _ => hw, fun _ => ?_⟩⟩⟩
  refine ⟨fun _ => hw, fun _ => ⟨fun _ => hw, fun player hplayer => ⟨fun _ => hw, ?_⟩⟩⟩
  refine fun progression hprogression => ⟨fun _ => hw, fun attempts hattempts => ⟨fun _ => hw, ?_⟩⟩
  intro vitals hvitals
  have hlowered (x : Player) (hx : x.position = player.position ∧ x.id = player.id) :=
    h.player w p player x hplayer (.inl hx.1) hx.2 hw
  have hnoted : w.Noted p := by simp [GameWorld.Noted, GameWorld.mem_of_getElem? hattempts]
  have hskills (x : Player) (hx : x.position = player.position ∧ x.id = player.id) (y : PlayerProgression) :=
    h.books _ _ (GameWorld.books_putProgression (w := w.putPlayer p x) (.inl hnoted) y)
      (hlowered x hx)
  have htries (x : Player) (hx : x.position = player.position ∧ x.id = player.id) (y : PlayerProgression)
      (z : PlayerProgressionAttempts) :=
    h.books _ _ (GameWorld.books_putAttempts (w := (w.putPlayer p x).putProgression p y) (p := p)
      (.inl (by simp [GameWorld.Noted, GameWorld.putProgression])) z) (hskills x hx y)
  refine h.changed _ (h.lifecycle _ p state _ hstate rfl ?_)
  refine h.vitals _ p vitals _ hvitals (.inl le_rfl) (htries _ ?_ _ _)
  exact ⟨rfl, rfl⟩

/-! #### Conditions and combat -/

omit h in
/-- What the damage of conditions is computed from is only read. -/
theorem readOnly_pendingDamage (p elapsed : ℕ) : ReadOnly (pendingPlayerConditionDamage p elapsed) :=
  .bind (.readOr _ _) fun _ => .bind (.readOr _ _) fun _ => .pure _

omit h in
/-- An operation that only reads, in front of the rest. -/
theorem leaves_readOnly_bind {α β : Type} {m : GameM α} {k : α → GameM β} {w : GameWorld}
    (hm : ReadOnly m) (hw : P w) (hk : ∀ a, m w = (.ok a, w) → Leaves P (k a) w) :
    Leaves P (m >>= k) w := by
  refine .bind (fun e t hrun => ?_) fun a t hrun => ?_
  · rwa [hm.state_eq hrun]
  · have ht := hm.state_eq hrun
    subst ht
    exact hk a hrun

theorem stays_applyPlayerConditions (p elapsed : ℕ) : Stays P (applyPlayerConditions p elapsed) := by
  intro w hw
  simp only [applyPlayerConditions, Game.playerVitals, Game.playerRespawnState, leaves_readOr_bind,
    leaves_ite, leaves_pure]
  refine ⟨fun _ => hw, fun vitals hvitals => ⟨fun _ => hw, fun state hstate => ⟨fun _ => hw, ?_⟩⟩⟩
  refine fun hlives => leaves_readOnly_bind (readOnly_pendingDamage p _) hw fun damage _ => ?_
  simp only [entryOf, leaves_readOr_bind, leaves_ite, leaves_pure, leaves_write_bind]
  refine ⟨fun _ => hw, fun conditions hconditions => ⟨fun _ => hw, fun _ => ?_⟩⟩
  have halive : w.Alive p := ⟨state, hstate, by simpa using hlives⟩
  have hrun := h.conditions w p conditions
    (PlayerConditions.remaining conditions (min elapsed maxRegenerationElapsedSeconds))
    hconditions halive hw
  have hhurt := h.vitals (w.putConditions p _) p vitals
    { vitals with health := vitals.health - damage } hvitals (.inl (Nat.sub_le _ _)) hrun
  exact ⟨fun _ => ⟨fun _ => h.changed _ hhurt, fun _ => hhurt⟩,
    fun _ => ⟨fun _ => h.changed _ hrun, fun _ => hrun⟩⟩

theorem stays_applyPlayerConditionsWithDeath (p townId : ℕ) (worldMap : WorldMap) (elapsed : ℕ) :
    Stays P (applyPlayerConditionsWithDeath p townId worldMap elapsed) := by
  refine .bind (ReadOnly.readOr _ _).stays fun vitals => ?_
  refine .bind (ReadOnly.readOr _ _).stays fun state => .ite (.pure _) ?_
  refine .bind (readOnly_pendingDamage p _).stays fun pending => ?_
  refine .ite (ReadOnly.fail _).stays (.ite (ReadOnly.fail _).stays ?_)
  refine .bind (h.stays_applyPlayerConditions p _) fun outcome => .ite ?_ (.pure _)
  have hdeath := stays_living fun rest => h.stays_applyPlayerDeath rest p townId worldMap
  exact .bind hdeath fun _ => .pure _

theorem stays_applyDamageToKnownTarget (p damage : ℕ) :
    Stays P (applyDamageToKnownTarget p damage) := by
  intro w hw
  simp only [applyDamageToKnownTarget, Game.playerVitals, leaves_read_bind, leaves_ite, leaves_pure,
    leaves_readOr_bind, leaves_write_bind, id]
  refine ⟨fun _ => hw, fun _ => ⟨fun _ => hw, fun vitals hvitals => ?_⟩⟩
  exact h.vitals w p vitals _ hvitals (.inl (Nat.sub_le _ _)) hw

theorem stays_applyPlayerDamage (attacker target damage : ℕ) :
    Stays P (applyPlayerDamage attacker target damage) := by
  refine .ite (ReadOnly.fail _).stays (.bind (ReadOnly.readOr _ _).stays fun state => ?_)
  refine .ite (ReadOnly.fail _).stays (.bind (ReadOnly.readOr _ _).stays fun _ => ?_)
  refine .bind (h.stays_applyDamageToKnownTarget target damage) fun outcome => ?_
  exact .ite (.bind h.stays_changed fun _ => .pure _) (.pure _)

theorem stays_applyPlayerMeleeDamage (attacker target damage : ℕ) :
    Stays P (applyPlayerMeleeDamage attacker target damage) := by
  refine .bind (ReadOnly.readOr _ _).stays fun _ => .bind (ReadOnly.readOr _ _).stays fun _ => ?_
  exact .ite (ReadOnly.fail _).stays (h.stays_applyPlayerDamage attacker target damage)

omit h in
/-- Damage writes vitals only. -/
theorem keeps_applyDamageToKnownTarget {γ : Type} {f : GameWorld → γ}
    (hf : ∀ w p v, f (GameWorld.putVitals w p v) = f w) (p damage : ℕ) :
    Keeps f (applyDamageToKnownTarget p damage) := by
  refine .bind (ReadOnly.read _).keeps fun w => .ite (.pure _) ?_
  exact .bind (ReadOnly.readOr _ _).keeps fun _ => .bind (.write fun _ => hf _ _ _) fun _ => .pure _

theorem stays_applyPlayerCombatEvent (event : PlayerCombatEvent) :
    Stays P (applyPlayerCombatEvent event) := by
  intro w hw
  simp only [applyPlayerCombatEvent, Game.playerVitals, Game.playerRespawnState, Game.requirePlayer,
    entryOf, leaves_readOr_bind, leaves_read_bind, leaves_ite, leaves_fail, id]
  refine ⟨fun _ => hw, fun _ => ⟨fun _ => hw, fun _ => ⟨fun _ => hw, fun state _ => ?_⟩⟩⟩
  refine ⟨fun _ => hw, fun _ => ⟨fun _ => hw, fun attacker _ => ⟨fun _ => hw, fun target _ => ?_⟩⟩⟩
  refine ⟨fun _ => hw, fun _ => ⟨fun _ => hw, fun vitals _ => ⟨fun _ => hw, fun _ => ?_⟩⟩⟩
  refine ⟨fun _ => hw, fun _ => ⟨fun _ => hw, fun cooldown hcooldown => ⟨fun _ => hw, fun _ => ?_⟩⟩⟩
  refine ⟨fun _ => hw, fun defense _ => ?_⟩
  have hstays := h.stays_applyDamageToKnownTarget event.targetId
    (defense.mitigatePhysical event.requestedDamage) w hw
  have hkeep := keeps_applyDamageToKnownTarget (f := GameWorld.playerCombatCooldowns)
    (fun _ _ _ => rfl) event.targetId (defense.mitigatePhysical event.requestedDamage) w
  refine .bind (fun e t hrun => ?_) fun outcome t hrun => ?_
  · rwa [Leaves, hrun] at hstays
  · rw [Leaves, hrun] at hstays
    rw [hrun] at hkeep
    have hnoted : t.Noted event.attackerId := by
      simp [GameWorld.Noted, show t.playerCombatCooldowns = w.playerCombatCooldowns from hkeep,
        GameWorld.mem_of_getElem? hcooldown]
    exact h.changed _ (h.books _ _ (GameWorld.books_putCombatCooldown (.inl hnoted) _) hstays)

theorem stays_applyPlayerSpellCastEvent (event : PlayerSpellCastEvent) :
    Stays P (applyPlayerSpellCastEvent event) := by
  intro w hw
  simp only [applyPlayerSpellCastEvent, Game.playerVitals, Game.playerRespawnState, entryOf,
    leaves_readOr_bind, leaves_read_bind, leaves_ite, leaves_fail, leaves_write_bind]
  refine ⟨fun _ => hw, fun _ => ⟨fun _ => hw, fun state _ => ⟨fun _ => hw, fun _ => ?_⟩⟩⟩
  refine ⟨fun _ => hw, fun cooldown hcooldown => ⟨fun _ => hw, fun _ => ⟨fun _ => hw, ?_⟩⟩⟩
  refine fun vitals hvitals => ⟨fun _ => hw, fun _ => ?_⟩
  have hnoted : w.Noted event.casterId := by
    simp [GameWorld.Noted, GameWorld.mem_of_getElem? hcooldown]
  have hspent := h.vitals w event.casterId vitals
    { vitals with mana := vitals.mana - event.manaCost } hvitals (.inl le_rfl) hw
  refine h.changed _ (h.books _ _ (GameWorld.books_putSpellCooldown (.inl ?_) _) hspent)
  exact hnoted

omit h in
/-- A combat event that is carried out has looked up its attacker, and its target is neither in
god mode nor dead before it. -/
theorem applyPlayerCombatEvent_eq_ok {event : PlayerCombatEvent} {w t : GameWorld}
    {outcome : PlayerCombatEventOutcome}
    (hrun : applyPlayerCombatEvent event w = (.ok outcome, t)) :
    w.IsRegistered event.attackerId ∧ event.targetId ∉ w.playerGodMode ∧
      ∃ mitigated remaining u, applyDamageToKnownTarget event.targetId mitigated w =
          (.ok (outcome.damage.appliedDamage, remaining), u) ∧
        t = (u.putCombatCooldown event.attackerId outcome.nextAttackTick).putLiving
          (u.putCombatCooldown event.attackerId outcome.nextAttackTick).toLivingWorld.changed := by
  simp only [applyPlayerCombatEvent, Game.playerVitals, Game.playerRespawnState, Game.requirePlayer,
    entryOf, bind_eq_ok, readOr_eq_ok, guard_eq_ok] at hrun
  obtain ⟨-, -, _, _, ⟨-, rfl⟩, -, attacker, _, ⟨hattacker, rfl⟩, _, _, ⟨-, rfl⟩, -, _, _, ⟨-, rfl⟩, _,
    _, hread, -, hgod, _, _, ⟨-, rfl⟩, -, defense, _, ⟨-, rfl⟩, ⟨applied, remaining⟩, u, hdamage, _, _,
    hwrite, _, _, hchanged, hend⟩ := hrun
  cases hread
  cases hwrite
  cases hchanged
  cases hend
  exact ⟨⟨attacker, hattacker⟩, fun h => hgod (.inl h), _, remaining, u, hdamage, rfl⟩

theorem stays_applyPlayerCombatEventWithDeath (event : PlayerCombatEvent) (worldMap : WorldMap) :
    Stays P (applyPlayerCombatEventWithDeath event worldMap) := by
  intro w hw
  simp only [applyPlayerCombatEventWithDeath, Game.playerVitals, entryOf, leaves_readOr_bind,
    leaves_ite, leaves_fail]
  refine ⟨fun _ => hw, fun before _ => ⟨fun _ => hw, fun townId _ => ⟨fun _ => hw, fun _ => ?_⟩⟩⟩
  refine ⟨fun _ => hw, fun _ => ?_⟩
  have hcombat := h.stays_applyPlayerCombatEvent event w hw
  refine .bind (fun e t hrun => ?_) fun outcome t hrun => ?_
  · rwa [Leaves, hrun] at hcombat
  · rw [Leaves, hrun] at hcombat
    have hdeath : Stays P (living (Living.applyPlayerDeath event.targetId townId worldMap)) :=
      stays_living fun rest => h.stays_applyPlayerDeath rest event.targetId townId worldMap
    have hvitals {β : Type} (k : PlayerVitals → β) : Stays P (do
        let vitals ← Game.playerVitals event.targetId
        (pure (k vitals) : GameM β)) := .bind (ReadOnly.readOr _ _).stays fun _ => .pure _
    rw [leaves_ite]
    refine ⟨fun _ => ?_, fun _ => hvitals _ t hcombat⟩
    have hrest : Stays P (do
        let death ← living (Living.applyPlayerDeath event.targetId townId worldMap)
        let vitals ← Game.playerVitals event.targetId
        (pure (outcome, vitals, some death) : GameM _)) := .bind hdeath fun _ => hvitals _
    rw [leaves_ite]
    refine ⟨fun _ => ?_, fun _ => hrest t hcombat⟩
    -- the frag is the attacker's, who was looked up
    obtain ⟨hregistered, -, mitigated, remaining, u, hdamage, rfl⟩ := applyPlayerCombatEvent_eq_ok hrun
    have hplayers := (keeps_applyDamageToKnownTarget (f := fun w => w.players) (fun _ _ _ => rfl)
      event.targetId mitigated).eq hdamage
    have hstill : u.IsRegistered event.attackerId := by
      obtain ⟨attacker, hattacker⟩ := hregistered
      exact ⟨attacker, by rw [hplayers]; exact hattacker⟩
    refine hrest _ (h.changed _ (h.books _ _ (GameWorld.books_putFrags (.inr ?_) _) hcombat))
    exact hstill

/-- **A robust property survives** whatever happens to the values of one player with the guards
the source has for it. -/
theorem stays_upkeep (event : UpkeepEvent) : Stays P event.perform := by
  have hvoid {α : Type} {m : GameM α} (hm : Stays P m) : Stays P (void m) :=
    fun w hw => leaves_void.mpr (hm w hw)
  cases event with
  | grantFoodWindow p n => exact hvoid (h.stays_grantPlayerFoodWindow p n)
  | setGodMode p b => exact hvoid (h.stays_setPlayerGodMode p b)
  | setInvisible p b => exact hvoid (h.stays_setPlayerInvisible p b)
  | replaceTown p t =>
    exact hvoid (h.stays_replaceEntry p t fun w hp hw =>
      h.books _ _ (GameWorld.books_putTown (.inr hp) t) hw)
  | replaceProgression p x =>
    exact hvoid (h.stays_replaceEntry p x fun w hp hw =>
      h.books _ _ (GameWorld.books_putProgression (.inr hp) x) hw)
  | replaceAttempts p x =>
    exact hvoid (h.stays_replaceEntry p x fun w hp hw =>
      h.books _ _ (GameWorld.books_putAttempts (.inr hp) x) hw)
  | replaceFightMode p x =>
    exact hvoid (h.stays_replaceEntry p x fun w hp hw =>
      h.books _ _ (GameWorld.books_putFightMode (.inr hp) x) hw)
  | replaceCombatDefense p x =>
    refine hvoid (.bind (ReadOnly.readOr _ _).stays fun _ => .ite (ReadOnly.fail _).stays ?_)
    exact h.stays_replaceEntry p x fun w hp hw =>
      h.books _ _ (GameWorld.books_putDefense (.inr hp) x) hw
  | regeneration p rules n => exact hvoid (h.stays_applyPlayerRegeneration p rules n)
  | skillTries p skill n rules => exact hvoid (h.stays_applyPlayerSkillTries p skill n rules)
  | magicMana p n rules => exact hvoid (h.stays_applyPlayerMagicMana p n rules)
  | deathLoss p n rules => exact hvoid (h.stays_applyFixedPercentDeathLoss p n rules)
  | conditions p n => exact hvoid (h.stays_applyPlayerConditions p n)
  | conditionsWithDeath p t m n => exact hvoid (h.stays_applyPlayerConditionsWithDeath p t m n)
  | damage a t n => exact hvoid (h.stays_applyPlayerDamage a t n)
  | damageKnownTarget t n => exact hvoid (h.stays_applyDamageToKnownTarget t n)
  | meleeDamage a t n => exact hvoid (h.stays_applyPlayerMeleeDamage a t n)
  | combat e => exact hvoid (h.stays_applyPlayerCombatEvent e)
  | combatWithDeath e m => exact hvoid (h.stays_applyPlayerCombatEventWithDeath e m)
  | spellCast e => exact hvoid (h.stays_applyPlayerSpellCastEvent e)

end Robust

end ForgottenEngine
