import ForgottenEngine.DeadPlayers
import ForgottenEngine.LoginHydration

/-!
# The loss of a death

A player dies under the lock of the world, by a blow, a rune, a creature or a condition.  The loss
comes later: the handler that has dealt the blow looks up the rules of the vocation, takes the loss
from the player in the world, reads what is left of him part by part, and stores it.  Meanwhile
other handlers save what they have read of him before, his session may end, and a relog reads the
rows and enters him again.

`Lifetime` is one character beside all these.  Beside it stand three counts for the statement: the
deaths, the losses taken in the world, and how many of them each part of him holds, in the world,
in the rows and in every copy.

* `Lifetime.Sound` — what is in the world holds every loss, and so do the rows once the loss is
  stored;
* `lossExactlyOnce` — **one loss for each death**, in every run in which he leaves only behind the
  storing of his loss and no older copy is stored or entered.
-/

namespace ForgottenEngine

open Fallible Game

/-! ### How a life goes on -/

/-- A death takes something from the part. -/
def CharacterPart.bearsLoss : CharacterPart → Bool
  | experience | vitals | progression | attempts => true
  | position | respawnState | equipment | containers => false

namespace PlayerRespawnState

/-- Dead, and the loss has not been taken. -/
def owesLoss (state : PlayerRespawnState) : Bool := state.dead && !state.lossApplied

end PlayerRespawnState

/-- The same life, or the death of somebody who lived. -/
def LifeGoesOn (before after : Option PlayerRespawnState) : Prop :=
  after = before ∨ (∃ state, before = some state ∧ state.dead = false) ∧
    after.any (·.owesLoss) = true

/-- What a blow leaves alone, but for the vitals and the life of who is hit. -/
def GameWorld.bodies (w : GameWorld) := (w.players, w.playerRespawnStates, w.playerProgressions,
  w.playerProgressionAttempts)

/-- The life of the player has gone on, and nobody's experience or skills have changed. -/
structure LivesOn (p : ℕ) (w₀ w : GameWorld) : Prop where
  life : LifeGoesOn w₀.playerRespawnStates[p]? w.playerRespawnStates[p]?
  players : w.players = w₀.players
  progressions : w.playerProgressions = w₀.playerProgressions
  attempts : w.playerProgressionAttempts = w₀.playerProgressionAttempts

section Lives

variable {p : ℕ} {w₀ : GameWorld}

theorem LivesOn.refl (p : ℕ) (w : GameWorld) : LivesOn p w w := ⟨.inl rfl, rfl, rfl, rfl⟩

theorem stays_livesOn {α : Type} {m : GameM α} (h : Keeps GameWorld.bodies m) :
    Stays (LivesOn p w₀) m := by
  refine h.stays fun w w' hsame hw => ?_
  simp only [GameWorld.bodies, Prod.mk.injEq] at hsame
  obtain ⟨hplayers, hlives, hprogressions, hattempts⟩ := hsame
  refine ⟨?_, hplayers.trans hw.players, hprogressions.trans hw.progressions,
    hattempts.trans hw.attempts⟩
  rw [hlives]
  exact hw.life

/-- **A death** happens to somebody who lives, and his loss has not been taken. -/
theorem stays_livesOn_death (q townId : ℕ) (worldMap : WorldMap) :
    Stays (LivesOn p w₀) (living (Living.applyPlayerDeath q townId worldMap)) := by
  apply Robust.stays_living
  intro rest l hl
  simp only [Living.applyPlayerDeath, Living.playerRespawnState, Living.requirePlayer,
    Living.clearPlayerInteractionReferences, Living.markChanged, leaves_readOr_bind,
    leaves_ofOption_bind, leaves_read_bind, leaves_ite, leaves_write_bind, leaves_pure]
  refine ⟨fun _ => hl, fun player _ => ⟨fun _ => hl, fun state hstate => ⟨fun _ => hl, ?_⟩⟩⟩
  refine fun halive => ⟨fun _ => hl, fun temple _ => ⟨fun _ => ⟨hl.1, hl.2, hl.3, hl.4⟩, ?_⟩⟩
  refine fun vitals _ => ⟨fun _ => ⟨hl.1, hl.2, hl.3, hl.4⟩, fun conditions _ => ?_⟩
  refine ⟨?_, hl.players, hl.progressions, hl.attempts⟩
  show LifeGoesOn w₀.playerRespawnStates[p]? (l.playerRespawnStates.insert q _)[p]?
  by_cases hp : q = p
  · subst hp
    refine .inr ⟨?_, ?_⟩
    · rcases hl.life with hsame | ⟨hbefore, -⟩
      · have hsame : l.playerRespawnStates[q]? = w₀.playerRespawnStates[q]? := hsame
        exact ⟨state, hsame.symm.trans hstate, by simpa using halive⟩
      · exact hbefore
    · rw [Std.ExtTreeMap.getElem?_insert_self]
      rfl
  · rw [Std.ExtTreeMap.getElem?_insert, if_neg (by simpa using hp)]
    exact hl.life

/-! Nothing else of a blow, a condition or the strike of a creature is about lives. -/

theorem keepsLives_markChanged :
    Keeps GameWorld.bodies Game.markChanged := fun _ => rfl

theorem keepsLives_frag (killerId : ℕ) :
    Keeps GameWorld.bodies (recordPlayerFrag killerId) := by
  refine .bind (ReadOnly.read _).keeps fun total => .bind (.write fun _ => rfl) fun _ => ?_
  exact .bind keepsLives_markChanged fun _ => .pure _

theorem keepsLives_combat (event : PlayerCombatEvent) :
    Keeps GameWorld.bodies (applyPlayerCombatEvent event) := by
  refine .ite (.fail _) (.ite (.fail _) (.bind (ReadOnly.readOr _ _).keeps fun state => ?_))
  refine .ite (.fail _) (.bind (ReadOnly.readOr _ _).keeps fun attacker => ?_)
  refine .bind (ReadOnly.readOr _ _).keeps fun target => .ite (.fail _) ?_
  refine .bind (ReadOnly.readOr _ _).keeps fun vitals => .bind (ReadOnly.read _).keeps fun w => ?_
  refine .ite (.fail _) (.ite (.fail _) (.bind (ReadOnly.readOr _ _).keeps fun cooldown => ?_))
  refine .ite (.fail _) (.bind (ReadOnly.readOr _ _).keeps fun defense => ?_)
  refine .bind (Robust.keeps_applyDamageToKnownTarget (fun _ _ _ => rfl) _ _) fun outcome => ?_
  exact .bind (.write fun _ => rfl) fun _ => .bind keepsLives_markChanged fun _ => .pure _

theorem keepsLives_conditions (q elapsedSeconds : ℕ) :
    Keeps GameWorld.bodies (applyPlayerConditions q elapsedSeconds) := by
  refine .bind (ReadOnly.readOr _ _).keeps fun vitals => ?_
  refine .bind (ReadOnly.readOr _ _).keeps fun state => .ite (.pure _) ?_
  refine .bind (Robust.readOnly_pendingDamage q _).keeps fun damage => ?_
  refine .bind (ReadOnly.readOr _ _).keeps fun conditions => .ite (.pure _) ?_
  refine .bind (.write fun _ => rfl) fun _ => ?_
  have hmark : Keeps GameWorld.bodies
      (do
        if 0 < damage ∨ conditions.expired (min elapsedSeconds maxRegenerationElapsedSeconds) ≠ []
          then Game.markChanged
        return ⟨q, damage, vitals.health - damage,
          min (conditions.expired (min elapsedSeconds maxRegenerationElapsedSeconds)).length
            u8Max⟩ : GameM PlayerConditionOutcome) :=
    .ite (.bind keepsLives_markChanged fun _ => .pure _) (.pure _)
  exact .ite (.bind (.write fun _ => rfl) fun _ => hmark) hmark

theorem keepsLives_clearTarget (creatureId : ℕ) :
    Keeps GameWorld.bodies (living (Living.clearStaticCreatureTarget creatureId)) := by
  have hliving : Keeps (fun l : LivingWorld => (l.players, l.playerRespawnStates))
      (Living.clearStaticCreatureTarget creatureId) := by
    refine .bind (ReadOnly.readOr _ _).keeps fun runtime => ?_
    refine .bind (.bind (ReadOnly.readOr _ _).keeps fun _ => .write fun _ => rfl) fun _ => ?_
    exact .ite (.write fun _ => rfl) (.pure _)
  intro w
  have hsame := hliving w.toLivingWorld
  simp only [Prod.mk.injEq] at hsame
  obtain ⟨hplayers, hlives⟩ := hsame
  show (_, _, _, _) = (_, _, _, _)
  exact congrArg₂ (fun x y => (x, y, w.playerProgressions, w.playerProgressionAttempts)) hplayers hlives

theorem stays_livesOn_combat (event : PlayerCombatEvent) (worldMap : WorldMap) :
    Stays (LivesOn p w₀) (applyPlayerCombatEventWithDeath event worldMap) := by
  refine .bind (ReadOnly.readOr _ _).stays fun vitals => ?_
  refine .bind (ReadOnly.readOr _ _).stays fun townId => ?_
  refine .ite (ReadOnly.fail _).stays (.ite (ReadOnly.fail _).stays ?_)
  refine .bind (stays_livesOn (keepsLives_combat event)) fun outcome => ?_
  have hdeath : Stays (LivesOn p w₀) (do
      let death ← living (Living.applyPlayerDeath event.targetId townId worldMap)
      let vitals ← Game.playerVitals event.targetId
      return (outcome, vitals, some death)) :=
    .bind (stays_livesOn_death _ _ _) fun _ => .bind (ReadOnly.readOr _ _).stays fun _ => .pure _
  refine .ite (.ite ?_ hdeath) (.bind (ReadOnly.readOr _ _).stays fun _ => .pure _)
  exact .bind (stays_livesOn (keepsLives_frag _)) fun _ => hdeath

theorem stays_livesOn_conditions (q townId : ℕ) (worldMap : WorldMap) (elapsedSeconds : ℕ) :
    Stays (LivesOn p w₀) (applyPlayerConditionsWithDeath q townId worldMap elapsedSeconds) := by
  refine .bind (ReadOnly.readOr _ _).stays fun vitals => ?_
  refine .bind (ReadOnly.readOr _ _).stays fun state => .ite (.pure _) ?_
  refine .bind (Robust.readOnly_pendingDamage q _).stays fun pending => ?_
  refine .ite (ReadOnly.fail _).stays (.ite (ReadOnly.fail _).stays ?_)
  refine .bind (stays_livesOn (keepsLives_conditions q _)) fun outcome => .ite ?_ (.pure _)
  exact .bind (stays_livesOn_death _ _ _) fun _ => .pure _

theorem stays_livesOn_strikeTarget (creatureId q : ℕ) (runtime : StaticCreatureRuntime)
    (damage : ℕ) (worldMap : WorldMap) :
    Stays (LivesOn p w₀) (strikeTarget creatureId q runtime damage worldMap) := by
  refine .bind (.write fun _ hw => ⟨hw.1, hw.2, hw.3, hw.4⟩) fun _ => ?_
  refine .bind (ReadOnly.readOr _ _).stays fun vitals => ?_
  refine .bind (ReadOnly.readOr _ _).stays fun defense => ?_
  have htemple : ∀ lethal, ReadOnly (requireTemple q worldMap lethal) := fun lethal =>
    .ite (.bind (.readOr _ _) fun _ => .bind (.ofOption _ _) fun _ => .pure _) (.pure _)
  refine .bind (htemple _).stays fun townId => ?_
  refine .bind (stays_livesOn (Robust.keeps_applyDamageToKnownTarget (fun _ _ _ => rfl) _ _))
    fun outcome => ?_
  have hdies : ∀ town, Stays (LivesOn p w₀) (dieIn q worldMap town) := by
    intro town
    cases town with
    | none => exact .pure _
    | some townId => exact .bind (stays_livesOn_death _ _ _) fun _ => .pure _
  refine .bind (hdies _) fun death => ?_
  have hcooldown : Stays (LivesOn p w₀)
      (write (cooledDown creatureId runtime) : GameM Unit) := by
    refine .write fun w hw => ?_
    unfold cooledDown
    split
    · exact ⟨hw.1, hw.2, hw.3, hw.4⟩
    · exact hw
  have hrest : Stays (LivesOn p w₀) (do
      if 0 < outcome.1 then Game.markChanged
      write (cooledDown creatureId runtime)
      return StaticCreatureTargetAttackOutcome.applied creatureId q
        (runtime.directMeleeDamageRange.elim damage fun range =>
          declaredDamage range runtime.directMeleeDamageSequence)
        outcome.1 outcome.2 death) :=
    .ite (.bind (stays_livesOn keepsLives_markChanged) fun _ => .bind hcooldown fun _ => .pure _)
      (.bind hcooldown fun _ => .pure _)
  exact .ite (.bind (stays_livesOn (keepsLives_clearTarget creatureId)) fun _ => hrest) hrest

theorem stays_livesOn_strike (creatureId damage : ℕ) (worldMap : WorldMap) :
    Stays (LivesOn p w₀) (applyStaticCreatureTargetDamage creatureId damage worldMap) := by
  have hclears : Stays (LivesOn p w₀) (do
      living (Living.clearStaticCreatureTarget creatureId)
      return StaticCreatureTargetAttackOutcome.noTarget) :=
    .bind (stays_livesOn (keepsLives_clearTarget creatureId)) fun _ => .pure _
  refine .bind (ReadOnly.readOr _ _).stays fun runtime => .bind (ReadOnly.read _).stays fun w => ?_
  refine .ite (ReadOnly.fail _).stays (.ite (.pure _) (.ite hclears ?_))
  split
  · exact .pure _
  · split
    · exact hclears
    · exact .ite (.pure _) (stays_livesOn_strikeTarget _ _ _ _ _)

/-- The player has vitals. -/
def HasVitals (p : ℕ) (w : GameWorld) : Prop := w.playerVitals[p]?.isSome = true

theorem hasVitals_insert {w w' : GameWorld} {q : ℕ} {vitals : PlayerVitals}
    (h : w'.playerVitals = w.playerVitals.insert q vitals) (hw : HasVitals p w) : HasVitals p w' := by
  unfold HasVitals at hw ⊢
  rw [h, Std.ExtTreeMap.getElem?_insert]
  split
  · rfl
  · exact hw

theorem robust_hasVitals : Robust (HasVitals p) where
  changed _ hw := hw
  tick _ _ hw := hw
  inventory _ _ _ hw := hw
  player _ _ _ _ _ _ _ hw := hw
  vitals _ _ _ _ _ _ hw := hasVitals_insert rfl hw
  conditions _ _ _ _ _ _ hw := hw
  lifecycle _ _ _ _ _ _ hw := hw
  died _ _ _ _ _ _ _ _ hw := hw
  respawned _ _ _ _ _ _ _ _ _ hw := hasVitals_insert rfl hw
  intent _ _ _ _ _ hw := hw
  books _ w' hbooks hw := by
    have hvitals : w'.playerVitals = _ := congrArg (·.playerVitals) hbooks.living
    unfold HasVitals
    rw [hvitals]
    exact hw

theorem robustEdits_hasVitals : RobustEdits (HasVitals p) where
  narrowed _ _ _ hw := hw
  edited _ _ _ _ _ _ hw := hw
  moved _ _ _ _ _ _ _ _ hw := hw
  deactivated _ _ _ _ hw := hw

end Lives

/-! ### The loss in the world -/

/-- The world knows the parts of the player that a death takes from. -/
def HasEntries (p : ℕ) (w : GameWorld) : Prop :=
  ∀ part : CharacterPart, part.bearsLoss = true → (w.character p part).isSome = true

section Loss

variable {p percent : ℕ} {rules : PlayerProgressionRules} {w w' : GameWorld}

/-- The loss is taken whole or not at all. -/
theorem atomic_loss : Atomic (applyFixedPercentDeathLoss p percent rules) := by
  refine .ite (ReadOnly.fail _).atomic (.bind (.readOr _ _) fun state => ?_)
  refine .ite (ReadOnly.fail _).atomic (.ite (ReadOnly.fail _).atomic ?_)
  refine .bind (.readOr _ _) fun player => .bind (.readOr _ _) fun progression => ?_
  refine .bind (.readOr _ _) fun attempts => .bind (.readOr _ _) fun vitals => Succeeds.atomic ?_
  refine .bind (.write _) fun _ => .bind (.write _) fun _ => .bind (.write _) fun _ => ?_
  exact .bind (.write _) fun _ => .bind (.write _) fun _ => .bind (fun _ => ⟨(), rfl⟩) fun _ => .pure _

/-- **The loss is taken once**: from a dead player who owes it, and then it is applied. -/
theorem loss_eq_ok {outcome : PlayerDeathLossOutcome}
    (h : applyFixedPercentDeathLoss p percent rules w = (.ok outcome, w')) :
    (∃ state, w.playerRespawnStates[p]? = some state ∧ state.dead = true ∧
      state.lossApplied = false ∧
      w'.playerRespawnStates[p]? = some { state with lossApplied := true }) ∧
    w'.IsRegistered p ∧ HasEntries p w' := by
  simp only [applyFixedPercentDeathLoss, Game.playerRespawnState, Game.requirePlayer, entryOf,
    Game.playerVitals, guard_eq_ok, bind_eq_ok, readOr_eq_ok, write_apply, pure_apply,
    Prod.mk.injEq, Except.ok.injEq] at h
  obtain ⟨-, state, _, ⟨hstate, rfl⟩, hdead, happlied, player, _, ⟨hplayer, rfl⟩, progression, _,
    ⟨hprogression, rfl⟩, attempts, _, ⟨hattempts, rfl⟩, vitals, _, ⟨hvitals, rfl⟩, _, _, ⟨-, rfl⟩,
    _, _, ⟨-, rfl⟩, _, _, ⟨-, rfl⟩, _, _, ⟨-, rfl⟩, _, _, ⟨-, rfl⟩, _, _, hmark, -, rfl⟩ := h
  have hmarked := congrArg Prod.snd hmark
  subst hmarked
  refine ⟨⟨state, hstate, by simpa using hdead, by simpa using happlied, ?_⟩, ?_, ?_⟩
  · exact Std.ExtTreeMap.getElem?_insert_self
  · exact ⟨_, Std.ExtTreeMap.getElem?_insert_self⟩
  · intro part hbears
    cases part with
    | experience =>
      exact Option.isSome_map.trans
        (Option.isSome_iff_exists.mpr ⟨_, Std.ExtTreeMap.getElem?_insert_self⟩)
    | vitals =>
      exact Option.isSome_iff_exists.mpr ⟨_, Std.ExtTreeMap.getElem?_insert_self⟩
    | progression =>
      exact Option.isSome_iff_exists.mpr ⟨_, Std.ExtTreeMap.getElem?_insert_self⟩
    | attempts =>
      exact Option.isSome_iff_exists.mpr ⟨_, Std.ExtTreeMap.getElem?_insert_self⟩
    | _ => cases hbears

end Loss

/-! ### What a relog enters, and what is gone behind a session -/

section Enters

variable {p : ℕ} {w w' : GameWorld}

theorem addPlayer_entries {player : Player} {vitals : PlayerVitals}
    {progression : PlayerProgression}
    (h : addPlayerWithVitalsAndProgression player vitals progression w = (.ok (), w')) :
    w.players[player.id]? = none ∧ w'.IsRegistered player.id ∧
      w'.playerRespawnStates[player.id]? = some {} ∧ HasEntries player.id w' := by
  simp only [addPlayerWithVitalsAndProgression, bind_eq_ok, write_apply, Prod.mk.injEq] at h
  obtain ⟨_, _, hliving, -, rfl⟩ := h
  obtain ⟨l, hpart, rfl⟩ := living_eq_ok.mp hliving
  simp only [Living.addPlayerWithVitals, Living.markChanged, guard_eq_ok, bind_eq_ok, read_apply,
    write_apply, Prod.mk.injEq, Except.ok.injEq] at hpart
  obtain ⟨-, -, _, _, ⟨rfl, rfl⟩, _, _, ⟨rfl, rfl⟩, _, _, ⟨rfl, rfl⟩, hnew, -, -, _, _,
    ⟨-, rfl⟩, -, rfl⟩ := hpart
  refine ⟨by simpa using hnew, ⟨player, Std.ExtTreeMap.getElem?_insert_self⟩,
    Std.ExtTreeMap.getElem?_insert_self, fun part hbears => ?_⟩
  cases part with
  | experience =>
    exact Option.isSome_map.trans
      (Option.isSome_iff_exists.mpr ⟨player, Std.ExtTreeMap.getElem?_insert_self⟩)
  | vitals => exact Option.isSome_iff_exists.mpr ⟨vitals, Std.ExtTreeMap.getElem?_insert_self⟩
  | progression =>
    exact Option.isSome_iff_exists.mpr ⟨progression, Std.ExtTreeMap.getElem?_insert_self⟩
  | attempts => exact Option.isSome_iff_exists.mpr ⟨{}, Std.ExtTreeMap.getElem?_insert_self⟩
  | _ => cases hbears

theorem isRegistered_step (toLowercase : String → String) {event : GameEvent}
    (hstays : event.ComesOrGoes = false) (q : ℕ) :
    (event.step toLowercase w).IsRegistered q ↔ w.IsRegistered q := by
  have hroster : Roster w.players.size w.IsRegistered w := ⟨rfl, fun _ => Iff.rfl⟩
  exact (hroster.step toLowercase hstays).2 q

/-- The attempts are refused for somebody unknown, and then nothing changes. -/
theorem replaceAttempts_error {attempts : PlayerProgressionAttempts} {e : CoreError}
    (h : GameEvent.perform id (.upkeep (.replaceAttempts p attempts)) w = (.error e, w')) :
    w' = w ∧ (w.players[p]? = none ∨ w.playerProgressionAttempts[p]? = none) := by
  have hreplaces : ∀ current, Succeeds (if current = attempts then (pure false : GameM Bool)
      else do
        write fun w : GameWorld => w.putAttempts p attempts
        Game.markChanged
        return true) := by
    intro current
    split
    · exact .pure _
    · exact .bind (.write _) fun _ => .bind (fun _ => ⟨(), rfl⟩) fun _ => .pure _
  have hatomic : Atomic (void (replacePlayerProgressionAttempts p attempts)) :=
    .bind_succeeds (.bind (.readOr _ _) fun _ => .bind (.readOr _ _) fun current =>
      (hreplaces current).atomic) fun _ => .pure _
  refine ⟨hatomic _ _ _ h, ?_⟩
  by_contra hboth
  rw [not_or] at hboth
  obtain ⟨player, hplayer⟩ := Option.ne_none_iff_exists'.mp hboth.1
  obtain ⟨current, hcurrent⟩ := Option.ne_none_iff_exists'.mp hboth.2
  obtain ⟨b, hb⟩ := hreplaces current w
  have hrun : replacePlayerProgressionAttempts p attempts w = _ :=
    (bind_of_ok (readOr_of_some (f := fun w : GameWorld => w.players[p]?) _ hplayer)).trans
      (bind_of_ok (readOr_of_some (f := fun w : GameWorld => w.playerProgressionAttempts[p]?) _
        hcurrent))
  have hfirst := congrArg Prod.fst h
  have hok : (void (replacePlayerProgressionAttempts p attempts) w).1 = .ok () := by
    unfold void
    rw [bind_apply, hrun]
    rcases hinner : (if current = attempts then (pure false : GameM Bool)
      else do
        write fun w : GameWorld => w.putAttempts p attempts
        Game.markChanged
        return true) w with ⟨e | b, t⟩
    · rw [hinner] at hb
      cases hb
    · rfl
  rw [show (void (replacePlayerProgressionAttempts p attempts) w).1 = .error e from hfirst] at hok
  cases hok

/-- The life is entered whole or not at all. -/
theorem atomic_hydratePlayerRespawnState (state : PlayerRespawnState) :
    Atomic (Living.hydratePlayerRespawnState p state) := by
  refine .bind (.readOr _ _) fun _ => .ite (ReadOnly.fail _).atomic (.bind (.readOr _ _) fun _ => ?_)
  exact .ite (ReadOnly.pure _).atomic
    (Succeeds.bind (.write _) fun _ => .bind (.write _) fun _ => .pure _).atomic

/-- Who leaves is out of the world. -/
theorem removePlayer_cases :
    (GameEvent.removePlayer p).step id w = w ∨
      ¬((GameEvent.removePlayer p).step id w).IsRegistered p ∧
        ((GameEvent.removePlayer p).step id w).playerRespawnStates[p]? = none := by
  have hleaves : Leaves (fun w' : GameWorld => w' = w ∨
      ¬w'.IsRegistered p ∧ w'.playerRespawnStates[p]? = none) (void (Game.removePlayer p)) w := by
    rw [leaves_void]
    refine .bind (fun e t hrun => ?_) fun _ t hrun => ?_
    · exact .inl (atomic_living (Living.atomic_removePlayer p) _ _ _ hrun)
    · right
      obtain ⟨l, hpart, rfl⟩ := living_eq_ok.mp hrun
      simp only [Living.removePlayer, Living.requirePlayer,
        Living.clearPlayerInteractionReferences, Living.markChanged, bind_eq_ok, readOr_eq_ok,
        write_apply, pure_apply, Prod.mk.injEq, Except.ok.injEq] at hpart
      obtain ⟨player, _, ⟨-, rfl⟩, _, _, ⟨-, rfl⟩, _, _, ⟨-, rfl⟩, _, _, ⟨-, rfl⟩, _, _,
        ⟨-, rfl⟩, -, rfl⟩ := hpart
      refine ⟨?_, Std.ExtTreeMap.getElem?_erase_self⟩
      rintro ⟨_, hplayer⟩
      have hgone : (w.players.erase p)[p]? = none := Std.ExtTreeMap.getElem?_erase_self
      rw [show (w.players.erase p)[p]? = some _ from hplayer] at hgone
      cases hgone
  exact hleaves

end Enters

/-! ### The rows, and copies of them -/

/-- Rows of a character, and how many losses each part of them holds. -/
structure CountedRows where
  rows : CharacterRows
  losses : CharacterPart → ℕ

/-- A part that a handler has read in the world, to save it later. -/
structure SavedPart where
  part : CharacterPart
  value : part.Value
  losses : ℕ

/-- The rows with one part written. -/
def CharacterRows.put (rows : CharacterRows) : (part : CharacterPart) → part.Value → CharacterRows
  | .position, value => { rows with position := value }
  | .experience, value =>
    { rows with level := value.1, experience := value.2.1, skillPoints := value.2.2 }
  | .vitals, value => { rows with vitals := value }
  | .progression, value => { rows with progression := value }
  | .attempts, value => { rows with progressionAttempts := value }
  | .respawnState, value => { rows with respawnState := value }
  | .equipment, value => { rows with equipment := value }
  | .containers, value => { rows with containers := value }

/-- What the transaction of a loss writes. -/
def CharacterRows.withFixedDeathLoss (rows snapshot : CharacterRows) : CharacterRows :=
  { rows with
    level := snapshot.level
    experience := snapshot.experience
    vitals := snapshot.vitals
    progression := snapshot.progression
    progressionAttempts := snapshot.progressionAttempts
    respawnState := snapshot.respawnState }

/-- What is still to be read of a player whose loss has been taken. -/
inductive SnapshotStep where
  | character
  | progression
  | attempts
  | respawnState
  | store
deriving DecidableEq, Repr

/-- The snapshot has the part. -/
def SnapshotStep.taken (part : CharacterPart) : SnapshotStep → Bool
  | character => false
  | progression => part = .experience || part = .vitals
  | attempts => part = .experience || part = .vitals || part = .progression
  | respawnState | store => part.bearsLoss

/-- What a handler is about to do on the death of the character. -/
inductive LossWork where
  | idle
  /-- The heartbeat has hit him and looks whether he is dead. -/
  | hit
  /-- The handler has seen that he is dead, and looks up the rules of his vocation. -/
  | defeated
  | ruled (rules : PlayerProgressionRules)
  /-- The loss has been taken in the world and is not in the rows. -/
  | storing (due : SnapshotStep) (snapshot : CountedRows)

def LossWork.isStoring : LossWork → Bool
  | storing .. => true
  | _ => false

/-- The steps of a relog that are about his life and his losses. -/
inductive RelogStep where
  | readCharacter
  | readDeadCharacter
  | storeRespawned
  | readRespawned
  | register
  | progressionAttempts
  | respawnState
deriving DecidableEq, Repr

/-! ### The system -/

/-- One character, with the handlers at work on his death, the saves on their way and the relogs. -/
structure Lifetime where
  world : GameWorld
  stored : CountedRows
  handlers : ℕ → LossWork
  saves : ℕ → Option SavedPart
  relogs : ℕ → Option (RelogStep × CountedRows)
  deaths : ℕ
  losses : ℕ
  worldLosses : CharacterPart → ℕ

/-- Something in the world that leaves his life alone and takes no part of him away. -/
def GameEvent.SparesLife (p : ℕ) (toLowercase : String → String) (event : GameEvent) : Prop :=
  event.ComesOrGoes = false ∧
    ∀ w, (event.step toLowercase w).playerRespawnStates[p]? = w.playerRespawnStates[p]? ∧
      (HasEntries p w → HasEntries p (event.step toLowercase w))

inductive LossTurn (p : ℕ) where
  /-- A blow of a selected player; a defeat is followed by the loss. -/
  | melee (handler : ℕ) (event : PlayerCombatEvent) (worldMap : WorldMap)
  /-- A rune or a shot; nothing follows. -/
  | rune (event : PlayerCombatEvent) (worldMap : WorldMap)
  | conditions (handler townId : ℕ) (worldMap : WorldMap) (elapsedSeconds : ℕ)
  /-- The strike of a creature in the pass of the heartbeat. -/
  | strike (handler creatureId damage : ℕ) (worldMap : WorldMap)
  | work (handler : ℕ)
  /-- The handler ends with an error of another operation. -/
  | fails (handler : ℕ)
  | reads (save : ℕ) (part : CharacterPart)
  | saves (save : ℕ)
  | logsIn (relog : ℕ)
  | relog (relog : ℕ)
  /-- A session of the character ends. -/
  | leave
  | other (toLowercase : String → String) (event : GameEvent)
      (spares : event.SparesLife p toLowercase)

namespace Lifetime

variable (login : NativeLogin) (percent : ℕ)
  (progressionRules : ℕ → Option PlayerProgressionRules)

/-- His life in the world. -/
def life (r : Lifetime) : Option PlayerRespawnState :=
  r.world.playerRespawnStates[login.player.id]?

/-- The world has gone on; a death is counted. -/
def inWorld (r : Lifetime) (world : GameWorld) : Lifetime :=
  let after := world.playerRespawnStates[login.player.id]?
  { r with
    world
    deaths := r.deaths + if !(r.life login).any (·.dead) && after.any (·.dead) then 1 else 0 }

def setHandler (r : Lifetime) (handler : ℕ) (work : LossWork) : Lifetime :=
  { r with handlers := Function.update r.handlers handler work }

/-- One more part of the snapshot. -/
def snapshotStep (r : Lifetime) (snapshot : CountedRows) : SnapshotStep → LossWork
  | .character =>
    match r.world.players[login.player.id]?, r.world.playerVitals[login.player.id]? with
    | some player, some vitals => .storing .progression
      ⟨{ snapshot.rows with level := player.level, experience := player.experience, vitals },
        fun part => if part = .experience || part = .vitals then r.worldLosses part
          else snapshot.losses part⟩
    | _, _ => .idle
  | .progression =>
    match r.world.playerProgressions[login.player.id]? with
    | some progression => .storing .attempts ⟨{ snapshot.rows with progression },
        Function.update snapshot.losses .progression (r.worldLosses .progression)⟩
    | none => .idle
  | .attempts =>
    match r.world.playerProgressionAttempts[login.player.id]? with
    | some attempts => .storing .respawnState
      ⟨{ snapshot.rows with progressionAttempts := attempts },
        Function.update snapshot.losses .attempts (r.worldLosses .attempts)⟩
    | none => .idle
  | .respawnState =>
    match r.life login with
    | some state => .storing .store ⟨{ snapshot.rows with respawnState := state }, snapshot.losses⟩
    | none => .idle
  | .store => .idle

/-- The next step of a handler; a failing one ends its work. -/
def workStep (r : Lifetime) (handler : ℕ) : LossWork → Lifetime
  | .idle => r
  | .hit => r.setHandler handler (if (r.life login).any (·.dead) then .defeated else .idle)
  | .defeated =>
    let rules := r.world.playerProgressions[login.player.id]?.bind fun progression =>
      progressionRules progression.vocation
    r.setHandler handler (rules.elim .idle .ruled)
  | .ruled rules =>
    match applyFixedPercentDeathLoss login.player.id percent rules r.world with
    | (.ok _, world) =>
      { (r.inWorld login world).setHandler handler (.storing .character ⟨r.stored.rows, fun _ => 0⟩)
        with
        losses := r.losses + 1
        worldLosses := fun part => r.worldLosses part + if part.bearsLoss then 1 else 0 }
    | (.error _, world) => (r.inWorld login world).setHandler handler .idle
  | .storing .store snapshot =>
    -- The transaction wants a dead player whose loss has been applied.
    if !snapshot.rows.respawnState.dead || !snapshot.rows.respawnState.lossApplied then
      r.setHandler handler .idle
    else { r.setHandler handler .idle with
      stored := ⟨r.stored.rows.withFixedDeathLoss snapshot.rows, fun part =>
        if part.bearsLoss then snapshot.losses part else r.stored.losses part⟩ }
  | .storing due snapshot => r.setHandler handler (r.snapshotStep login snapshot due)

/-- A step of a relog in the world enters what the relog has read. -/
def enters (r : Lifetime) (relog : ℕ) (next : Option RelogStep) (step : LoginStep)
    (copy : CountedRows) (event : GameEvent) : Lifetime :=
  match event.perform id r.world with
  | (.ok _, world) => { r with
      world
      worldLosses := fun part => if part.enteredAt = step then copy.losses part else r.worldLosses part
      relogs := Function.update r.relogs relog (next.map (·, copy)) }
  | (.error _, world) => { r with world, relogs := Function.update r.relogs relog none }

def relogStep (r : Lifetime) (relog : ℕ) (copy : CountedRows) : RelogStep → Lifetime
  | .readCharacter => { r with relogs := Function.update r.relogs relog (some
      (if r.stored.rows.respawnState.dead then .readDeadCharacter else .register, r.stored)) }
  | .readDeadCharacter => { r with
      relogs := Function.update r.relogs relog (some (.storeRespawned, r.stored)) }
  | .storeRespawned =>
    match respawnPersistedNativePlayerForRelog (login.hydratedFrom copy.rows) with
    | .ok (position, vitals) => { r with
        stored := ⟨{ r.stored.rows with position, vitals, respawnState := {} },
          Function.update r.stored.losses .vitals (copy.losses .vitals)⟩
        relogs := Function.update r.relogs relog (some (.readRespawned, copy)) }
    | .error _ => { r with relogs := Function.update r.relogs relog none }
  | .readRespawned => { r with
      relogs := Function.update r.relogs relog (some (.register, r.stored)) }
  | .register =>
    let entering := login.hydratedFrom copy.rows
    match Shared.availablePosition r.world login.worldMap copy.rows.position with
    | some position => r.enters relog (some .progressionAttempts) .register copy
        (.addPlayer { entering.player with position } copy.rows.vitals copy.rows.progression)
    | none => { r with relogs := Function.update r.relogs relog none }
  | .progressionAttempts => r.enters relog (some .respawnState) .progressionAttempts copy
      (.upkeep (.replaceAttempts login.player.id copy.rows.progressionAttempts))
  | .respawnState => r.enters relog none .respawnState copy
      (.overwrite (.hydrateRespawnState login.player.id copy.rows.respawnState))

attribute [grind =] relogStep

/-- A handler that works on something else takes no new blow. -/
def free (r : Lifetime) (handler : ℕ) : Bool :=
  match r.handlers handler with
  | .idle | .hit => true
  | _ => false

def step (r : Lifetime) : LossTurn login.player.id → Lifetime
  | .melee handler event worldMap =>
    if !r.free handler then r
    else
      match applyPlayerCombatEventWithDeath event worldMap r.world with
      | (.ok (outcome, _, some _), world) => (r.inWorld login world).setHandler handler
          (if event.targetId = login.player.id ∧ outcome.damage.appliedDamage ≠ 0 then .defeated
            else .idle)
      | (_, world) => r.inWorld login world
  | .rune event worldMap => r.inWorld login (applyPlayerCombatEventWithDeath event worldMap r.world).2
  | .conditions handler townId worldMap elapsedSeconds =>
    if !r.free handler then r
    else
      match applyPlayerConditionsWithDeath login.player.id townId worldMap elapsedSeconds r.world with
      | (.ok (outcome, some _), world) => (r.inWorld login world).setHandler handler
          (if 0 < outcome.appliedDamage then .defeated else .idle)
      | (_, world) => r.inWorld login world
  | .strike handler creatureId damage worldMap =>
    if !r.free handler then r
    else
      match applyStaticCreatureTargetDamage creatureId damage worldMap r.world with
      | (.ok (.applied _ target _ applied _ _), world) =>
        if target = login.player.id ∧ 0 < applied then
          (r.inWorld login world).setHandler handler .hit
        else r.inWorld login world
      | (_, world) => r.inWorld login world
  | .work handler => r.workStep login percent progressionRules handler (r.handlers handler)
  | .fails handler => r.setHandler handler .idle
  | .reads save part => { r with
      saves := Function.update r.saves save
        ((r.world.character login.player.id part).map fun value => ⟨part, value, r.worldLosses part⟩) }
  | .saves save =>
    match r.saves save with
    | some saved => { r with
        stored := ⟨r.stored.rows.put saved.part saved.value,
          Function.update r.stored.losses saved.part saved.losses⟩
        saves := Function.update r.saves save none }
    | none => r
  | .logsIn relog =>
    if (r.relogs relog).isSome then r
    else { r with relogs := Function.update r.relogs relog (some (.readCharacter, r.stored)) }
  | .relog relog =>
    match r.relogs relog with
    | some (due, copy) => r.relogStep login relog copy due
    | none => r
  | .leave => r.inWorld login ((GameEvent.removePlayer login.player.id).step id r.world)
  | .other toLowercase event _ => r.inWorld login (event.step toLowercase r.world)

/-! ### When it goes well -/

/-- What a relog stores or enters is no older than the last loss, and nobody dies before he has been
entered. -/
def EntersLatest (r : Lifetime) (copy : CountedRows) : RelogStep → Prop
  | .storeRespawned => copy.losses .vitals = r.losses
  | .register => ∀ part : CharacterPart, part.bearsLoss = true → part.enteredAt = .register →
      copy.losses part = r.losses
  | .progressionAttempts => copy.losses .attempts = r.losses
  | .respawnState => (r.life login).any (·.dead) = false ∧ copy.rows.respawnState.dead = false
  | .readCharacter | .readDeadCharacter | .readRespawned => True

/-- A relog has registered him and has not entered his attempts yet. -/
def entersAttempts (r : Lifetime) : Prop := ∃ relog copy,
  r.relogs relog = some (.progressionAttempts, copy)

/-- He leaves and the handler ends only behind the storing of the loss, and no copy from before the
last loss is stored or entered. -/
def Orderly (r : Lifetime) : LossTurn login.player.id → Prop
  | .work handler => ∀ snapshot, r.handlers handler = .storing .attempts snapshot → ¬r.entersAttempts
  | .fails handler => (r.handlers handler).isStoring = false
  | .saves save => ∀ saved, r.saves save = some saved → saved.part.bearsLoss = true →
      saved.losses = r.losses
  | .relog relog => ∀ due copy, r.relogs relog = some (due, copy) → r.EntersLatest login copy due
  | .leave => (r.life login).any (·.owesLoss) = false ∧
      ∀ handler, (r.handlers handler).isStoring = false
  | _ => True

/-- One loss for each death but the last, whose loss is still owed while he is dead; when he is
alive again, or out of the world, every part of him holds them all. -/
structure LossExactlyOnce (r : Lifetime) : Prop where
  owed : (r.life login).any (·.owesLoss) = true → r.losses + 1 = r.deaths
  taken : (r.life login).any (·.owesLoss) = false → r.losses = r.deaths
  alive : ∀ state, r.life login = some state → state.dead = false →
    ∀ part : CharacterPart, part.bearsLoss = true → (part = .attempts → ¬r.entersAttempts) →
      r.worldLosses part = r.deaths
  away : r.life login = none → ∀ part : CharacterPart, part.bearsLoss = true →
    r.stored.losses part = r.deaths

/-- What holds at every point of an orderly run. -/
structure Sound (r : Lifetime) : Prop where
  registered : r.world.IsRegistered login.player.id ↔ (r.life login).isSome = true
  entries : (r.life login).isSome = true → HasEntries login.player.id r.world
  counted : r.losses + (if (r.life login).any (·.owesLoss) then 1 else 0) = r.deaths
  storing : ∀ handler due snapshot, r.handlers handler = .storing due snapshot →
    (∃ state, r.life login = some state ∧ state.dead = true ∧ state.lossApplied = true) ∧
      (∀ part : CharacterPart, due.taken part = true → snapshot.losses part = r.losses) ∧
      (due = .store → snapshot.rows.respawnState.dead = true ∧
        snapshot.rows.respawnState.lossApplied = true)
  single : ∀ handler handler', (r.handlers handler).isStoring = true →
    (r.handlers handler').isStoring = true → handler = handler'
  inWorld : (r.life login).isSome = true → ∀ part : CharacterPart, part.bearsLoss = true →
    (part = .attempts → ¬r.entersAttempts) → r.worldLosses part = r.losses
  stored : (∀ handler, (r.handlers handler).isStoring = false) →
    ∀ part : CharacterPart, part.bearsLoss = true → r.stored.losses part = r.losses

/-- He plays or is out of the world, nobody has died yet, and nothing is on its way. -/
structure Starts (r : Lifetime) : Prop where
  registered : r.world.IsRegistered login.player.id ↔ (r.life login).isSome = true
  entries : (r.life login).isSome = true → HasEntries login.player.id r.world
  alive : (r.life login).any (·.dead) = false
  handlers : ∀ handler, r.handlers handler = .idle
  relogs : ∀ relog, r.relogs relog = none
  deaths : r.deaths = 0
  losses : r.losses = 0
  worldLosses : ∀ part, r.worldLosses part = 0
  storedLosses : ∀ part, r.stored.losses part = 0

/-! ### One step -/

section Steps

variable {login : NativeLogin} {percent : ℕ}
  {progressionRules : ℕ → Option PlayerProgressionRules} {r : Lifetime}

theorem Starts.sound (h : r.Starts login) : r.Sound login where
  registered := h.registered
  entries := h.entries
  counted := by
    have howes : (r.life login).any (·.owesLoss) = false := by
      have halive := h.alive
      cases hlife : r.life login with
      | none => rfl
      | some state =>
        rw [hlife] at halive
        have hdead : state.dead = false := halive
        simp [PlayerRespawnState.owesLoss, hdead]
    rw [howes, h.deaths, h.losses]
    rfl
  storing := fun handler due snapshot hstoring => by
    rw [h.handlers handler] at hstoring
    cases hstoring
  single := fun handler _ hstoring _ => by
    rw [h.handlers handler] at hstoring
    cases hstoring
  inWorld := fun _ part _ _ => (h.worldLosses part).trans h.losses.symm
  stored := fun _ part _ => (h.storedLosses part).trans h.losses.symm

theorem Sound.once (h : r.Sound login) : r.LossExactlyOnce login where
  owed howed := by
    have hcounted := h.counted
    rw [howed] at hcounted
    exact hcounted
  taken htaken := by
    have hcounted := h.counted
    rw [htaken] at hcounted
    exact hcounted
  alive state hlife halive part hbears hentered := by
    have hcounted := h.counted
    have howes : (r.life login).any (·.owesLoss) = false := by
      rw [hlife]
      simp [PlayerRespawnState.owesLoss, halive]
    rw [howes] at hcounted
    rw [h.inWorld (by rw [hlife]; rfl) part hbears hentered]
    exact hcounted
  away hlife part hbears := by
    have hcounted := h.counted
    rw [hlife] at hcounted
    have hidle : ∀ handler, (r.handlers handler).isStoring = false := by
      intro handler
      cases hwork : r.handlers handler with
      | storing due snapshot =>
        obtain ⟨⟨state, hstate, -⟩, -, -⟩ := h.storing handler due snapshot hwork
        rw [hlife] at hstate
        cases hstate
      | _ => rfl
    rw [h.stored hidle part hbears]
    exact hcounted

theorem any_owesLoss_imp {life : Option PlayerRespawnState} (h : life.any (·.owesLoss) = true) :
    ∃ state, life = some state ∧ state.dead = true ∧ state.lossApplied = false := by
  cases life with
  | none => cases h
  | some state =>
    have howes : (state.dead && !state.lossApplied) = true := h
    simp only [Bool.and_eq_true, Bool.not_eq_true'] at howes
    exact ⟨state, rfl, howes⟩

/-- **His life goes on**, and a death is counted. -/
theorem Sound.goesOn (h : r.Sound login) {w : GameWorld}
    (hlife : LifeGoesOn (r.life login) w.playerRespawnStates[login.player.id]?)
    (hregistered : w.IsRegistered login.player.id ↔ r.world.IsRegistered login.player.id)
    (hentries : HasEntries login.player.id r.world → HasEntries login.player.id w) :
    (r.inWorld login w).Sound login := by
  have hsome : w.playerRespawnStates[login.player.id]?.isSome = (r.life login).isSome := by
    rcases hlife with hsame | ⟨⟨state, hbefore, -⟩, howes⟩
    · rw [hsame]
    · obtain ⟨state', hafter, -⟩ := any_owesLoss_imp howes
      rw [hbefore, hafter]
      rfl
  refine ⟨?_, fun hnow => hentries (h.entries (hsome ▸ hnow)), ?_, ?_, h.single,
    fun hnow => h.inWorld (hsome ▸ hnow), h.stored⟩
  · show w.IsRegistered _ ↔ w.playerRespawnStates[login.player.id]?.isSome = true
    rw [hregistered, hsome]
    exact h.registered
  · have hcounted := h.counted
    show r.losses + (if w.playerRespawnStates[login.player.id]?.any (·.owesLoss) then 1 else 0) =
      r.deaths + if !(r.life login).any (·.dead) &&
        w.playerRespawnStates[login.player.id]?.any (·.dead) then 1 else 0
    rcases hlife with hsame | ⟨⟨state, hbefore, halive⟩, howes⟩
    · rw [hsame]
      simpa using hcounted
    · obtain ⟨state', hafter, hdead, -⟩ := any_owesLoss_imp howes
      rw [hbefore] at hcounted
      rw [howes, hbefore, hafter]
      simp [PlayerRespawnState.owesLoss, halive] at hcounted
      simp [halive, hdead, hcounted]
  · intro handler due snapshot hstoring
    obtain ⟨⟨state, hstate, hdead, happlied⟩, hlosses⟩ := h.storing handler due snapshot hstoring
    refine ⟨⟨state, ?_, hdead, happlied⟩, hlosses⟩
    rcases hlife with hsame | ⟨⟨state', hbefore, halive⟩, -⟩
    · exact hsame.trans hstate
    · rw [hstate] at hbefore
      cases hbefore
      rw [hdead] at halive
      cases halive

/-- A blow, a condition or a strike. -/
theorem Sound.livesOn (h : r.Sound login) {w : GameWorld}
    (hlives : LivesOn login.player.id r.world w)
    (hvitals : HasVitals login.player.id r.world → HasVitals login.player.id w) :
    (r.inWorld login w).Sound login := by
  refine h.goesOn hlives.life ?_ fun hentries part hbears => ?_
  · unfold GameWorld.IsRegistered
    rw [hlives.players]
  · have hentry := hentries part hbears
    cases part with
    | experience =>
      show (w.players[login.player.id]?.map _).isSome = true
      rw [hlives.players]
      exact hentry
    | vitals => exact hvitals hentry
    | progression =>
      show w.playerProgressions[login.player.id]?.isSome = true
      rw [hlives.progressions]
      exact hentry
    | attempts =>
      show w.playerProgressionAttempts[login.player.id]?.isSome = true
      rw [hlives.attempts]
      exact hentry
    | _ => cases hbears

/-- A handler that is not storing goes on to something else. -/
theorem Sound.setHandler (h : r.Sound login) {handler : ℕ} {work : LossWork}
    (hold : (r.handlers handler).isStoring = false) (hnew : work.isStoring = false) :
    (r.setHandler handler work).Sound login := by
  have hsame : ∀ handler', ((r.setHandler handler work).handlers handler').isStoring =
      (r.handlers handler').isStoring := by
    intro handler'
    show (Function.update r.handlers handler work handler').isStoring = _
    by_cases heq : handler' = handler
    · subst heq
      rw [Function.update_self, hold, hnew]
    · rw [Function.update_of_ne heq]
  refine ⟨h.registered, h.entries, h.counted, ?_, ?_, h.inWorld, ?_⟩
  · intro handler' due snapshot hstoring
    have heq : handler' ≠ handler := by
      rintro rfl
      have hstoring : Function.update r.handlers handler' work handler' = _ := hstoring
      rw [Function.update_self] at hstoring
      rw [hstoring] at hnew
      cases hnew
    have hstoring : Function.update r.handlers handler work handler' = _ := hstoring
    rw [Function.update_of_ne heq] at hstoring
    exact h.storing handler' due snapshot hstoring
  · intro a b ha hb
    rw [hsame] at ha hb
    exact h.single a b ha hb
  · intro hidle
    refine h.stored fun handler' => ?_
    rw [← hsame]
    exact hidle handler'

/-- An operation that hits somebody. -/
theorem Sound.struck (h : r.Sound login) {α : Type} {m : GameM α}
    (hlives : Stays (LivesOn login.player.id r.world) m)
    (hvitals : Stays (HasVitals login.player.id) m) {result : Except CoreError α} {w : GameWorld}
    (hrun : m r.world = (result, w)) : (r.inWorld login w).Sound login := by
  have hw : w = (m r.world).2 := by rw [hrun]
  subst hw
  exact h.livesOn (hlives _ (.refl _ _)) fun hhas => hvitals _ hhas

theorem not_storing_of_free {handler : ℕ} (h : ¬(!r.free handler) = true) :
    (r.handlers handler).isStoring = false := by
  unfold free at h
  cases hwork : r.handlers handler with
  | storing due snapshot =>
    rw [hwork] at h
    exact absurd rfl h
  | _ => rfl

theorem Sound.melee (h : r.Sound login) (handler : ℕ) (event : PlayerCombatEvent)
    (worldMap : WorldMap) :
    (r.step login percent progressionRules (.melee handler event worldMap)).Sound login := by
  have hstruck := @Sound.struck login r h _ (applyPlayerCombatEventWithDeath event worldMap)
    (stays_livesOn_combat event worldMap)
    (robust_hasVitals.stays_applyPlayerCombatEventWithDeath event worldMap)
  unfold Lifetime.step
  simp only
  split
  · exact h
  · next hfree =>
    split
    · next hrun =>
      refine (hstruck hrun).setHandler (not_storing_of_free hfree) ?_
      split <;> rfl
    · next hrun => exact hstruck hrun

theorem Sound.conditions (h : r.Sound login) (handler townId : ℕ) (worldMap : WorldMap)
    (elapsedSeconds : ℕ) :
    (r.step login percent progressionRules
      (.conditions handler townId worldMap elapsedSeconds)).Sound login := by
  have hstruck := @Sound.struck login r h _
    (applyPlayerConditionsWithDeath login.player.id townId worldMap elapsedSeconds)
    (stays_livesOn_conditions _ _ _ _)
    (robust_hasVitals.stays_applyPlayerConditionsWithDeath _ _ _ _)
  unfold Lifetime.step
  simp only
  split
  · exact h
  · next hfree =>
    split
    · next hrun =>
      refine (hstruck hrun).setHandler (not_storing_of_free hfree) ?_
      split <;> rfl
    · next hrun => exact hstruck hrun

theorem Sound.strike (h : r.Sound login) (handler creatureId damage : ℕ) (worldMap : WorldMap) :
    (r.step login percent progressionRules
      (.strike handler creatureId damage worldMap)).Sound login := by
  have hstruck := @Sound.struck login r h _
    (applyStaticCreatureTargetDamage creatureId damage worldMap)
    (stays_livesOn_strike _ _ _)
    (robustEdits_hasVitals.stays_applyStaticCreatureTargetDamage robust_hasVitals _ _ _)
  unfold Lifetime.step
  simp only
  split
  · exact h
  · next hfree =>
    split
    · next hrun =>
      split
      · exact (hstruck hrun).setHandler (not_storing_of_free hfree) rfl
      · exact hstruck hrun
    · next hrun => exact hstruck hrun

/-! #### The work of a handler -/

/-- A handler goes on with its snapshot. -/
theorem Sound.storesOn (h : r.Sound login) {handler : ℕ} {due due' : SnapshotStep}
    {snapshot snapshot' : CountedRows} (hwork : r.handlers handler = .storing due snapshot)
    (htaken : ∀ part : CharacterPart, due'.taken part = true → snapshot'.losses part = r.losses)
    (hstate : due' = .store → snapshot'.rows.respawnState.dead = true ∧
      snapshot'.rows.respawnState.lossApplied = true) :
    (r.setHandler handler (.storing due' snapshot')).Sound login := by
  have hsame : ∀ handler', ((r.setHandler handler (.storing due' snapshot')).handlers
      handler').isStoring = (r.handlers handler').isStoring := by
    intro handler'
    show (Function.update r.handlers handler _ handler').isStoring = _
    by_cases heq : handler' = handler
    · subst heq
      rw [Function.update_self, hwork]
      rfl
    · rw [Function.update_of_ne heq]
  refine ⟨h.registered, h.entries, h.counted, fun handler' at_ taken hstoring => ?_,
    fun a b ha hb => ?_, h.inWorld, fun hidle => h.stored fun handler' => ?_⟩
  · have hstoring : Function.update r.handlers handler _ handler' = _ := hstoring
    by_cases heq : handler' = handler
    · subst heq
      rw [Function.update_self] at hstoring
      cases hstoring
      exact ⟨(h.storing handler' due snapshot hwork).1, htaken, hstate⟩
    · rw [Function.update_of_ne heq] at hstoring
      exact h.storing handler' at_ taken hstoring
  · rw [hsame] at ha hb
    exact h.single a b ha hb
  · rw [← hsame]
    exact hidle handler'

/-- What a handler reads behind the loss has it. -/
theorem Sound.snapshots (h : r.Sound login) {handler : ℕ} {due : SnapshotStep}
    {snapshot : CountedRows} (hwork : r.handlers handler = .storing due snapshot)
    (hdue : due ≠ .store) (hentered : due = .attempts → ¬r.entersAttempts) :
    (r.setHandler handler (r.snapshotStep login snapshot due)).Sound login := by
  obtain ⟨⟨state, hlife, hdead, happlied⟩, htaken, -⟩ := h.storing handler due snapshot hwork
  have hsome : (r.life login).isSome = true := by rw [hlife]; rfl
  have hentries := h.entries hsome
  cases due with
  | character =>
    obtain ⟨player, hplayer⟩ := (h.registered.mpr hsome)
    obtain ⟨vitals, hvitals⟩ := Option.isSome_iff_exists.mp (hentries .vitals rfl)
    have hvitals : r.world.playerVitals[login.player.id]? = some vitals := hvitals
    simp only [snapshotStep, hplayer, hvitals]
    refine h.storesOn hwork (fun part hpart => ?_) nofun
    refine (if_pos hpart).trans (h.inWorld hsome part ?_ ?_)
    · cases part <;> first | rfl | cases hpart
    · rintro rfl
      cases hpart
  | progression =>
    obtain ⟨progression, hprogression⟩ := Option.isSome_iff_exists.mp (hentries .progression rfl)
    have hprogression : r.world.playerProgressions[login.player.id]? = some progression :=
      hprogression
    simp only [snapshotStep, hprogression]
    refine h.storesOn hwork (fun part hpart => ?_) nofun
    by_cases heq : part = .progression
    · subst heq
      simp only [Function.update_self]
      exact h.inWorld hsome _ rfl fun heq _ => nomatch heq
    · refine (Function.update_of_ne heq _ _).trans (htaken part ?_)
      cases part <;> first | rfl | exact absurd rfl heq | cases hpart
  | attempts =>
    obtain ⟨attempts, hattempts⟩ := Option.isSome_iff_exists.mp (hentries .attempts rfl)
    have hattempts : r.world.playerProgressionAttempts[login.player.id]? = some attempts :=
      hattempts
    simp only [snapshotStep, hattempts]
    refine h.storesOn hwork (fun part hpart => ?_) nofun
    by_cases heq : part = .attempts
    · subst heq
      simp only [Function.update_self]
      exact h.inWorld hsome _ rfl fun _ => hentered rfl
    · refine (Function.update_of_ne heq _ _).trans (htaken part ?_)
      cases part <;> first | rfl | exact absurd rfl heq | cases hpart
  | respawnState =>
    simp only [snapshotStep, hlife]
    exact h.storesOn hwork htaken fun _ => ⟨hdead, happlied⟩
  | store => exact absurd rfl hdue

/-- **The loss is taken**, of a death that owes it. -/
theorem Sound.takesLoss (h : r.Sound login) {handler : ℕ} {rules : PlayerProgressionRules}
    (hwork : r.handlers handler = .ruled rules) :
    (r.workStep login percent progressionRules handler (.ruled rules)).Sound login := by
  simp only [workStep]
  split
  · next outcome w hrun =>
    obtain ⟨⟨state, hbefore, hdead, hnot, hafter⟩, hregistered, hentries⟩ := loss_eq_ok hrun
    have hlife : r.life login = some state := hbefore
    have howed : (r.life login).any (·.owesLoss) = true := by
      rw [hlife]
      simp [PlayerRespawnState.owesLoss, hdead, hnot]
    have hnobody : ∀ handler', (r.handlers handler').isStoring = false := by
      intro handler'
      cases hother : r.handlers handler' with
      | storing due snapshot =>
        obtain ⟨⟨state', hstate', -, happlied⟩, -, -⟩ := h.storing handler' due snapshot hother
        rw [hlife] at hstate'
        cases hstate'
        rw [hnot] at happlied
        cases happlied
      | _ => rfl
    have honly : ∀ handler' work, Function.update r.handlers handler
        (.storing .character ⟨r.stored.rows, fun _ => 0⟩) handler' = work →
        work.isStoring = true → handler' = handler := by
      intro handler' work hnow hstores
      by_contra hne
      rw [Function.update_of_ne hne] at hnow
      rw [← hnow, hnobody handler'] at hstores
      cases hstores
    refine ⟨⟨fun _ => ?_, fun _ => hregistered⟩, fun _ => hentries, ?_, ?_, ?_, ?_, ?_⟩
    · show w.playerRespawnStates[login.player.id]?.isSome = true
      rw [hafter]
      rfl
    · have hcounted := h.counted
      rw [howed] at hcounted
      show r.losses + 1 + (if w.playerRespawnStates[login.player.id]?.any (·.owesLoss) then 1 else 0) =
        r.deaths + if !(r.life login).any (·.dead) &&
          w.playerRespawnStates[login.player.id]?.any (·.dead) then 1 else 0
      rw [hafter, hlife]
      simpa [PlayerRespawnState.owesLoss, hdead] using hcounted
    · intro handler' due snapshot hstoring
      have hstoring : Function.update r.handlers handler _ handler' = _ := hstoring
      have heq := honly handler' _ hstoring rfl
      subst heq
      rw [Function.update_self] at hstoring
      cases hstoring
      refine ⟨⟨_, hafter, hdead, rfl⟩, ?_, nofun⟩
      intro part hpart
      cases hpart
    · intro a b ha hb
      rw [honly a _ rfl ha, honly b _ rfl hb]
    · intro _ part hbears hentered
      show r.worldLosses part + (if part.bearsLoss then 1 else 0) = r.losses + 1
      rw [if_pos hbears, h.inWorld (by rw [hlife]; rfl) part hbears hentered]
    · intro hidle
      have hstores := hidle handler
      have hnow : (Function.update r.handlers handler
          (LossWork.storing .character ⟨r.stored.rows, fun _ => 0⟩) handler).isStoring = false :=
        hstores
      rw [Function.update_self] at hnow
      cases hnow
  · next hrun =>
    rw [atomic_loss _ _ _ hrun]
    have hsame : (r.inWorld login r.world).Sound login :=
      h.livesOn (.refl _ _) id
    exact hsame.setHandler (show (r.handlers handler).isStoring = false by rw [hwork]; rfl) rfl

/-- **The rows hold the loss** when it is stored. -/
theorem Sound.stores (h : r.Sound login) {handler : ℕ} {snapshot : CountedRows}
    (hwork : r.handlers handler = .storing .store snapshot) :
    (r.workStep login percent progressionRules handler (.storing .store snapshot)).Sound login := by
  obtain ⟨-, htaken, hstate⟩ := h.storing handler .store snapshot hwork
  obtain ⟨hdead, happlied⟩ := hstate rfl
  have hidle : ∀ handler', ((r.setHandler handler .idle).handlers handler').isStoring = false := by
    intro handler'
    show (Function.update r.handlers handler .idle handler').isStoring = false
    by_cases heq : handler' = handler
    · subst heq
      rw [Function.update_self]
      rfl
    · rw [Function.update_of_ne heq]
      by_contra hstores
      exact heq (h.single handler' handler (by simpa using hstores) (by rw [hwork]; rfl))
  simp only [workStep]
  rw [if_neg (by simp [hdead, happlied])]
  refine ⟨h.registered, h.entries, h.counted, fun handler' due at_ hstoring => ?_,
    fun a b ha _ => ?_, h.inWorld, fun _ part hbears => ?_⟩
  · have hnot := hidle handler'
    rw [show (r.setHandler handler .idle).handlers handler' = _ from hstoring] at hnot
    cases hnot
  · have hnot := hidle a
    rw [show ((r.setHandler handler .idle).handlers a).isStoring = true from ha] at hnot
    cases hnot
  · show (if part.bearsLoss then snapshot.losses part else r.stored.losses part) = r.losses
    rw [if_pos hbears]
    exact htaken part hbears

theorem Sound.work (h : r.Sound login) (handler : ℕ)
    (hok : r.Orderly login (.work handler)) :
    (r.step login percent progressionRules (.work handler)).Sound login := by
  show (r.workStep login percent progressionRules handler (r.handlers handler)).Sound login
  cases hwork : r.handlers handler with
  | idle => exact h
  | hit =>
    refine h.setHandler (by rw [hwork]; rfl) ?_
    split <;> rfl
  | defeated =>
    simp only [workStep]
    refine h.setHandler (by rw [hwork]; rfl) ?_
    cases r.world.playerProgressions[login.player.id]?.bind _ <;> rfl
  | ruled rules => exact h.takesLoss hwork
  | storing due snapshot =>
    cases due with
    | store => exact h.stores hwork
    | attempts => exact h.snapshots hwork nofun fun _ => hok snapshot hwork
    | character => exact h.snapshots hwork nofun nofun
    | progression => exact h.snapshots hwork nofun nofun
    | respawnState => exact h.snapshots hwork nofun nofun

/-! #### A relog, and the end of a session -/

/-- Another step of a relog than the one behind the registration. -/
theorem entersAttempts_update {relog : ℕ} {due : Option (RelogStep × CountedRows)}
    (hother : ∀ copy, r.relogs relog ≠ some (.progressionAttempts, copy))
    (h : r.entersAttempts) :
    ({ r with relogs := Function.update r.relogs relog due } : Lifetime).entersAttempts := by
  obtain ⟨relog', copy, hdue⟩ := h
  refine ⟨relog', copy, ?_⟩
  have hne : relog' ≠ relog := by
    rintro rfl
    exact hother copy hdue
  exact (Function.update_of_ne hne _ _).trans hdue

/-- A relog goes on with something it has read. -/
theorem Sound.relogs (h : r.Sound login) {relog : ℕ} {due : Option (RelogStep × CountedRows)}
    (hother : ∀ copy, r.relogs relog ≠ some (.progressionAttempts, copy)) :
    ({ r with relogs := Function.update r.relogs relog due } : Lifetime).Sound login :=
  ⟨h.registered, h.entries, h.counted, h.storing, h.single,
    fun hsome part hbears hentered => h.inWorld hsome part hbears fun heq hin =>
      hentered heq (entersAttempts_update hother hin), h.stored⟩

theorem Sound.not_storing (h : r.Sound login) (halive : (r.life login).any (·.dead) = false)
    (handler : ℕ) : (r.handlers handler).isStoring = false := by
  cases hwork : r.handlers handler with
  | storing due snapshot =>
    obtain ⟨⟨state, hstate, hdead, -⟩, -, -⟩ := h.storing handler due snapshot hwork
    rw [hstate] at halive
    rw [show state.dead = false from halive] at hdead
    cases hdead
  | _ => rfl

theorem any_owesLoss_of_alive {life : Option PlayerRespawnState} (h : life.any (·.dead) = false) :
    life.any (·.owesLoss) = false := by
  cases life with
  | none => rfl
  | some state =>
    simp [PlayerRespawnState.owesLoss, show state.dead = false from h]

/-- What a relog enters, into his life as it is or as somebody who is not dead. -/
theorem Sound.entersWith (h : r.Sound login) {relog : ℕ} {next : Option RelogStep}
    {step : LoginStep} {copy : CountedRows} {world : GameWorld}
    (hlife : world.playerRespawnStates[login.player.id]? = r.life login ∨
      (r.life login).any (·.dead) = false ∧
        world.playerRespawnStates[login.player.id]?.any (·.dead) = false)
    (hregistered : world.IsRegistered login.player.id ↔
      world.playerRespawnStates[login.player.id]?.isSome = true)
    (hentries : world.playerRespawnStates[login.player.id]?.isSome = true →
      HasEntries login.player.id world)
    (hlosses : world.playerRespawnStates[login.player.id]?.isSome = true →
      ∀ part : CharacterPart, part.bearsLoss = true →
        (part = .attempts → ¬({ r with
          relogs := Function.update r.relogs relog (next.map (·, copy)) } : Lifetime).entersAttempts) →
        if part.enteredAt = step then copy.losses part = r.losses
        else r.worldLosses part = r.losses) :
    ({ r with
      world
      worldLosses := fun part => if part.enteredAt = step then copy.losses part else r.worldLosses part
      relogs := Function.update r.relogs relog (next.map (·, copy)) } : Lifetime).Sound login := by
  refine ⟨hregistered, hentries, ?_, fun handler due snapshot hstoring => ?_, h.single,
    fun hsome part hbears hentered => ?_, h.stored⟩
  · have hcounted := h.counted
    show r.losses + (if world.playerRespawnStates[login.player.id]?.any (·.owesLoss) then 1 else 0) =
      r.deaths
    rcases hlife with hsame | ⟨hbefore, hafter⟩
    · rw [hsame]
      exact hcounted
    · rw [any_owesLoss_of_alive hbefore] at hcounted
      rw [any_owesLoss_of_alive hafter]
      exact hcounted
  · rcases hlife with hsame | ⟨hbefore, -⟩
    · obtain ⟨⟨state, hstate, hdead⟩, htaken⟩ := h.storing handler due snapshot hstoring
      exact ⟨⟨state, hsame.trans hstate, hdead⟩, htaken⟩
    · have hnot := h.not_storing hbefore handler
      rw [show r.handlers handler = _ from hstoring] at hnot
      cases hnot
  · have hcount := hlosses hsome part hbears hentered
    show (if part.enteredAt = step then copy.losses part else r.worldLosses part) = r.losses
    split at hcount
    · next hnow =>
      rw [if_pos hnow]
      exact hcount
    · next hother =>
      rw [if_neg hother]
      exact hcount

/-- The registration of somebody who is out of the world. -/
theorem Sound.register (h : r.Sound login) {relog : ℕ} {copy : CountedRows}
    (hdue : r.relogs relog = some (.register, copy))
    (hlatest : r.EntersLatest login copy .register) :
    (r.relogStep login relog copy .register).Sound login := by
  have hother : ∀ copy', r.relogs relog ≠ some (.progressionAttempts, copy') := by
    intro copy' heq
    rw [hdue] at heq
    cases heq
  simp only [relogStep]
  split
  · next position _ =>
    unfold enters
    split
    · next _ world hrun =>
      obtain ⟨hnew, hregistered, hlife, hentries⟩ := addPlayer_entries hrun
      have hbefore : r.life login = none := by
        rw [← Option.not_isSome_iff_eq_none, ← h.registered]
        rintro ⟨player, hplayer⟩
        rw [show r.world.players[login.player.id]? = none from hnew] at hplayer
        cases hplayer
      have hlife : world.playerRespawnStates[login.player.id]? = some {} := hlife
      refine h.entersWith (.inr ⟨by rw [hbefore]; rfl, by rw [hlife]; rfl⟩)
        ⟨fun _ => by rw [hlife]; rfl, fun _ => hregistered⟩ (fun _ => hentries)
        fun _ part hbears hattempts => ?_
      split
      · next hnow => exact hlatest part hbears hnow
      · next hnot =>
        cases part with
        | attempts => exact absurd ⟨relog, copy, Function.update_self ..⟩ (hattempts rfl)
        | _ => first | exact absurd rfl hnot | cases hbears
    · next _ world hrun =>
      have hsame : world = r.world := by
        rcases addPlayer_cases { (login.hydratedFrom copy.rows).player with position }
          copy.rows.vitals copy.rows.progression r.world with ⟨_, herror⟩ | ⟨_, hok, -⟩
        · exact (congrArg Prod.snd hrun).symm.trans (congrArg Prod.snd herror)
        · cases hrun.symm.trans hok
      rw [hsame]
      exact h.relogs hother
  · exact h.relogs hother

/-- The attempts, behind the registration. -/
theorem Sound.progressionAttempts (h : r.Sound login) {relog : ℕ} {copy : CountedRows}
    (hlatest : r.EntersLatest login copy .progressionAttempts) :
    (r.relogStep login relog copy .progressionAttempts).Sound login := by
  simp only [relogStep]
  unfold enters
  split
  · next world hrun =>
    have henters : ∀ part, _ = _ := enters_attempts hrun
    have hregistered : world.IsRegistered login.player.id ↔ r.world.IsRegistered login.player.id := by
      have hworld := congrArg Prod.snd hrun
      rw [← show _ = world from hworld]
      exact isRegistered_step id rfl _
    have hlife : world.playerRespawnStates[login.player.id]? = r.life login := henters .respawnState
    refine h.entersWith (.inl hlife) (by rw [hregistered, hlife]; exact h.registered)
      (fun hsome part hbears => ?_) fun hsome part hbears hattempts => ?_
    · rw [henters part]
      split
      · cases part <;> rfl
      · exact h.entries (hlife ▸ hsome) part hbears
    · split
      · next hnow =>
        cases part with
        | attempts => exact hlatest
        | _ => cases hnow
      · next hnot =>
        refine h.inWorld (hlife ▸ hsome) part hbears fun heq => ?_
        subst heq
        exact absurd rfl hnot
  · next world hrun =>
    obtain ⟨rfl, hunknown⟩ := replaceAttempts_error hrun
    have hgone : ¬(r.life login).isSome = true := by
      intro hsome
      rcases hunknown with hplayer | hattempts
      · obtain ⟨player, hthere⟩ := h.registered.mpr hsome
        rw [hplayer] at hthere
        cases hthere
      · have hthere : r.world.playerProgressionAttempts[login.player.id]?.isSome = true :=
          h.entries hsome .attempts rfl
        rw [hattempts] at hthere
        cases hthere
    exact ⟨h.registered, h.entries, h.counted, h.storing, h.single,
      fun hsome => absurd hsome hgone, h.stored⟩

/-- The life, of somebody who has not died behind his registration. -/
theorem Sound.respawnState (h : r.Sound login) {relog : ℕ} {copy : CountedRows}
    (hdue : r.relogs relog = some (.respawnState, copy))
    (hlatest : r.EntersLatest login copy .respawnState) :
    (r.relogStep login relog copy .respawnState).Sound login := by
  simp only [relogStep]
  unfold enters
  split
  · next world hrun =>
    have henters : ∀ part, _ = _ := enters_respawnState hrun
    have hregistered : world.IsRegistered login.player.id ↔ r.world.IsRegistered login.player.id := by
      have hworld := congrArg Prod.snd hrun
      rw [← show _ = world from hworld]
      exact isRegistered_step id rfl _
    have hlife : world.playerRespawnStates[login.player.id]? = some copy.rows.respawnState :=
      henters .respawnState
    have hsome : (r.life login).isSome = true := by
      obtain ⟨_, hvoid⟩ := void_eq_ok.mp hrun
      obtain ⟨l, hliving, -⟩ := living_eq_ok.mp hvoid
      simp only [Living.hydratePlayerRespawnState, Living.requirePlayer, bind_eq_ok,
        readOr_eq_ok] at hliving
      obtain ⟨player, _, ⟨hplayer, -⟩, -⟩ := hliving
      exact h.registered.mp ⟨player, hplayer⟩
    refine h.entersWith (.inr ⟨hlatest.1, by rw [hlife]; exact hlatest.2⟩)
      (by rw [hregistered, hlife]; exact h.registered.trans ⟨fun _ => rfl, fun _ => hsome⟩)
      (fun _ part hbears => ?_) fun _ part hbears hattempts => ?_
    · rw [henters part]
      split
      · cases part <;> rfl
      · exact h.entries hsome part hbears
    · split
      · next hnow =>
        cases part with
        | respawnState => cases hbears
        | _ => cases hnow
      · refine h.inWorld hsome part hbears fun heq hin => hattempts heq ?_
        refine entersAttempts_update (fun copy' hnow => ?_) hin
        rw [hdue] at hnow
        cases hnow
  · next world hrun =>
    have hsame : world = r.world := by
      have hatomic : Atomic (void (living (Living.hydratePlayerRespawnState login.player.id
          copy.rows.respawnState))) :=
        .bind_succeeds (atomic_living (atomic_hydratePlayerRespawnState _)) fun _ => .pure _
      exact hatomic _ _ _ hrun
    rw [hsame]
    refine h.relogs fun copy' heq => ?_
    rw [hdue] at heq
    cases heq

theorem Sound.relog (h : r.Sound login) (relog : ℕ) (hok : r.Orderly login (.relog relog)) :
    (r.step login percent progressionRules (.relog relog)).Sound login := by
  unfold Lifetime.step
  simp only
  split
  · next due copy hdue =>
    have hlatest := hok due copy hdue
    have hother : due ≠ .progressionAttempts →
        ∀ copy', r.relogs relog ≠ some (.progressionAttempts, copy') := by
      intro hne copy' heq
      rw [hdue] at heq
      cases heq
      exact hne rfl
    cases due with
    | readCharacter | readDeadCharacter | readRespawned => exact h.relogs (hother nofun)
    | register => exact h.register hdue hlatest
    | progressionAttempts => exact h.progressionAttempts hlatest
    | respawnState => exact h.respawnState hdue hlatest
    | storeRespawned =>
      simp only [relogStep]
      split
      · have hrelogs := @Sound.relogs login r h relog (some (.readRespawned, copy)) (hother nofun)
        refine ⟨hrelogs.registered, hrelogs.entries, hrelogs.counted, hrelogs.storing,
          hrelogs.single, hrelogs.inWorld, fun hidle part hbears => ?_⟩
        show Function.update r.stored.losses .vitals (copy.losses .vitals) part = r.losses
        by_cases heq : part = .vitals
        · subst heq
          rw [Function.update_self]
          exact hlatest
        · rw [Function.update_of_ne heq]
          exact h.stored hidle part hbears
      · exact h.relogs (hother nofun)
  · exact h

/-- The session ends. -/
theorem Sound.leave (h : r.Sound login) (hok : r.Orderly login .leave) :
    (r.step login percent progressionRules .leave).Sound login := by
  obtain ⟨howes, hidle⟩ := hok
  have hcases := @removePlayer_cases login.player.id r.world
  show (r.inWorld login ((GameEvent.removePlayer login.player.id).step id r.world)).Sound login
  generalize (GameEvent.removePlayer login.player.id).step id r.world = w at hcases ⊢
  rcases hcases with rfl | ⟨hgone, hlife⟩
  · exact h.livesOn (.refl _ _) id
  · have hnone : ¬((r.inWorld login w).life login).isSome = true := by
      rw [show (r.inWorld login w).life login = none from hlife]
      exact Bool.false_ne_true
    refine ⟨⟨fun hin => absurd hin hgone, fun hsome => absurd hsome hnone⟩,
      fun hsome => absurd hsome hnone, ?_, fun handler due snapshot hstoring => ?_, h.single,
      fun hsome => absurd hsome hnone, h.stored⟩
    · have hcounted := h.counted
      rw [howes] at hcounted
      show r.losses + (if w.playerRespawnStates[login.player.id]?.any (·.owesLoss) then 1 else 0) =
        r.deaths + if !(r.life login).any (·.dead) &&
          w.playerRespawnStates[login.player.id]?.any (·.dead) then 1 else 0
      rw [hlife]
      simpa using hcounted
    · have hnot := hidle handler
      rw [show r.handlers handler = _ from hstoring] at hnot
      cases hnot

/-- **One step of anybody.** -/
theorem Sound.step (h : r.Sound login) (turn : LossTurn login.player.id)
    (hok : r.Orderly login turn) :
    (r.step login percent progressionRules turn).Sound login := by
  cases turn with
  | melee handler event worldMap => exact h.melee handler event worldMap
  | rune event worldMap =>
    exact h.struck (stays_livesOn_combat event worldMap)
      (robust_hasVitals.stays_applyPlayerCombatEventWithDeath event worldMap) rfl
  | conditions handler townId worldMap elapsedSeconds => exact h.conditions _ _ _ _
  | strike handler creatureId damage worldMap => exact h.strike _ _ _ _
  | work handler => exact h.work handler hok
  | fails handler => exact h.setHandler hok rfl
  | reads save part =>
    exact ⟨h.registered, h.entries, h.counted, h.storing, h.single, h.inWorld, h.stored⟩
  | saves save =>
    unfold Lifetime.step
    simp only
    split
    · next saved hsaved =>
      refine ⟨h.registered, h.entries, h.counted, h.storing, h.single, h.inWorld,
        fun hidle part hbears => ?_⟩
      show Function.update r.stored.losses saved.part saved.losses part = r.losses
      by_cases heq : part = saved.part
      · subst heq
        rw [Function.update_self]
        exact hok saved hsaved hbears
      · rw [Function.update_of_ne heq]
        exact h.stored hidle part hbears
    · exact h
  | logsIn relog =>
    unfold Lifetime.step
    simp only
    split
    · exact h
    · next hfree =>
      refine h.relogs fun copy heq => hfree ?_
      rw [heq]
      rfl
  | relog relog => exact h.relog relog hok
  | leave => exact h.leave hok
  | other toLowercase event spares =>
    obtain ⟨hstays, hspares⟩ := spares
    obtain ⟨hlife, hentries⟩ := hspares r.world
    exact h.goesOn (.inl hlife) (isRegistered_step toLowercase hstays _) hentries

end Steps

end Lifetime

open Lifetime

/-- **One loss for each death**, in every run in which he leaves only behind the storing of his loss
and no older copy is stored or entered. -/
theorem lossExactlyOnce (login : NativeLogin) (percent : ℕ)
    (progressionRules : ℕ → Option PlayerProgressionRules) {start r : Lifetime}
    (hstart : start.Starts login)
    (h : Reaches (Lifetime.step login percent progressionRules) (Lifetime.Orderly login) start r) :
    r.LossExactlyOnce login :=
  have hsound : r.Sound login := h.invariant (P := Lifetime.Sound login)
    (fun _ turn hr hok => hr.step turn hok) hstart.sound
  hsound.once

/-! ### The death of a knight -/

/-- The vocations need a hundred tries and a hundred mana for every level. -/
def knightRules : ℕ → Option PlayerProgressionRules := fun _ => some ⟨fun _ _ => 100, fun _ => 100⟩

/-- The knight plays beside another one, and nobody has died yet. -/
def knightPlays : Lifetime where
  world := [knightEnters 7 100, knightEnters 8 101, .upkeep (.replaceTown 7 1)].foldl
    (GameEvent.step id) .empty
  stored := ⟨knightRows .empty, fun _ => 0⟩
  handlers := fun _ => .idle
  saves := fun _ => none
  relogs := fun _ => none
  deaths := 0
  losses := 0
  worldLosses := fun _ => 0

theorem starts_knightPlays : knightPlays.Starts knightLogin where
  registered := ⟨fun _ => by decide +kernel, fun _ =>
    ⟨⟨7, 1, "Knight", ⟨100, 100, 7⟩, 1, 0, 0⟩, by decide +kernel⟩⟩
  entries := fun _ part hbears => by
    cases part with
    | experience | vitals | progression | attempts => decide +kernel
    | _ => cases hbears
  alive := by decide +kernel
  handlers := fun _ => rfl
  relogs := fun _ => rfl
  deaths := rfl
  losses := rfl
  worldLosses := fun _ => rfl
  storedLosses := fun _ => rfl

/-- The other knight kills him. -/
def slays : LossTurn 7 := .melee 0 ⟨8, 7, .adjacentMelee, .physical, 200, 2⟩ templeMap

/-- The work of a handler is in order where nobody logs in. -/
theorem meets_work {login : NativeLogin} {percent : ℕ}
    {progressionRules : ℕ → Option PlayerProgressionRules} {r : Lifetime}
    (hrelogs : r.relogs = fun _ => none) (n : ℕ) :
    Meets (Lifetime.step login percent progressionRules) (Lifetime.Orderly login) r
      (List.replicate n (.work 0)) := by
  induction n generalizing r with
  | zero => trivial
  | succ n ih =>
    refine ⟨fun _ _ ⟨relog, copy, hdue⟩ => ?_, ih ?_⟩
    · rw [hrelogs] at hdue
      cases hdue
    · show (r.workStep login percent progressionRules 0 (r.handlers 0)).relogs = _
      cases r.handlers 0 with
      | storing due snapshot =>
        cases due with
        | store =>
          simp only [workStep]
          split <;> exact hrelogs
        | _ => exact hrelogs
      | ruled rules =>
        simp only [workStep]
        split <;> exact hrelogs
      | _ => exact hrelogs

def knightSlain (turns : List (LossTurn 7)) : Lifetime :=
  turns.foldl (Lifetime.step knightLogin 10 knightRules) knightPlays

theorem lossExactlyOnce_slain :
    knightPlays.Starts knightLogin ∧
      (knightSlain (slays :: List.replicate 7 (.work 0))).losses = 1 ∧
      (knightSlain (slays :: List.replicate 7 (.work 0))).LossExactlyOnce knightLogin := by
  have hslain : ((knightPlays.step knightLogin 10 knightRules slays).relogs = fun _ => none) := by
    unfold Lifetime.step
    simp only [slays]
    split
    · rfl
    · split <;> rfl
  exact ⟨starts_knightPlays, by decide +kernel, lossExactlyOnce knightLogin 10 knightRules
    starts_knightPlays (.foldl .start ⟨trivial, meets_work hslain 7⟩)⟩

/-- His session ends before the handler takes the loss, and he is back. -/
def escapes : List (LossTurn 7) :=
  [slays, .leave] ++ List.replicate 3 (.work 0) ++ [.logsIn 0] ++ List.replicate 4 (.relog 0)

/-- **A death without a loss**, and he lives. -/
theorem escapes_withoutLoss :
    knightPlays.Starts knightLogin ∧ (knightSlain escapes).deaths = 1 ∧
      (knightSlain escapes).losses = 0 ∧
      ((knightSlain escapes).life knightLogin).map PlayerRespawnState.dead = some false ∧
      (knightSlain escapes).worldLosses .experience = 0 ∧
      ¬(knightSlain escapes).LossExactlyOnce knightLogin := by
  have hdeaths : (knightSlain escapes).deaths = 1 := by decide +kernel
  have hlosses : (knightSlain escapes).losses = 0 := by decide +kernel
  have howes : ((knightSlain escapes).life knightLogin).any (·.owesLoss) = false := by
    decide +kernel
  refine ⟨starts_knightPlays, hdeaths, hlosses, by decide +kernel, by decide +kernel, fun honce => ?_⟩
  have htaken := honce.taken howes
  rw [hdeaths, hlosses] at htaken
  cases htaken

end ForgottenEngine
