import ForgottenEngine.DeadPlayers

/-!
# Strikes of creatures that are turned down

A creature that strikes deals the next value of its declared range, and the value counts as dealt
before anything is known of the target: the operation may still be turned down when the hit would
kill and the town of the target has no temple.

* `strikeTarget_eq_error` — where a strike fails, and what it has written by then;
* `strike_atomic_iff` — **when a refused strike leaves the world as it was**;
* `strike_spendsValue` — the strike that is refused and has used up a value of the range.
-/

namespace ForgottenEngine

open Fallible Game

variable {w : GameWorld} {creatureId targetId damage : ℕ} {worldMap : WorldMap}
  {r : StaticCreatureRuntime}

/-- The creature is about to hit the player. -/
structure Strikes (w : GameWorld) (creatureId : ℕ) (r : StaticCreatureRuntime) (targetId : ℕ) :
    Prop where
  lookup : w.staticCreatures[creatureId]? = some r
  active : r.active = true
  due : r.nextMeleeDueTick ≤ w.tick
  monster : r.isNpc = false
  target : r.targetPlayerId = some targetId
  living : Living.isLiving w.toLivingWorld targetId = true
  adjacent : ∃ player, w.players[targetId]? = some player ∧
    r.entity.position.isAdjacentTo player.position = true

/-- The value of the next hit: the next one of the declared range, if there is one. -/
def nextDamage (r : StaticCreatureRuntime) (fallbackDamage : ℕ) : ℕ :=
  r.directMeleeDamageRange.elim fallbackDamage fun range =>
    declaredDamage range r.directMeleeDamageSequence

/-- What armour leaves of the hit is enough to kill. -/
def WouldKill (w : GameWorld) (targetId damage : ℕ) : Prop :=
  ∃ vitals defense, w.playerVitals[targetId]? = some vitals ∧
    w.playerCombatDefenses[targetId]? = some defense ∧ 0 < vitals.health ∧
    vitals.health ≤ defense.mitigatePhysical damage

/-- The target's town, if it has one, has no temple. -/
def NoTemple (w : GameWorld) (targetId : ℕ) (worldMap : WorldMap) : Prop :=
  ∀ town, w.playerTowns[targetId]? = some town → worldMap.templePositionForTown town = none

/-- The hit is turned down before it does any damage. -/
def TurnedDown (w : GameWorld) (targetId damage : ℕ) (worldMap : WorldMap) : Prop :=
  w.playerVitals[targetId]? = none ∨ w.playerCombatDefenses[targetId]? = none ∨
    WouldKill w targetId damage ∧ NoTemple w targetId worldMap

/-- The hit kills, but the world has no lifecycle or no conditions of the target. -/
def BreaksOff (w : GameWorld) (targetId damage : ℕ) (worldMap : WorldMap) : Prop :=
  WouldKill w targetId damage ∧ ¬NoTemple w targetId worldMap ∧ targetId ∉ w.playerGodMode ∧
    (w.playerRespawnStates[targetId]? = none ∨ w.playerConditions[targetId]? = none)

theorem TurnedDown.not_breaksOff (h : TurnedDown w targetId damage worldMap) :
    ¬BreaksOff w targetId damage worldMap := by
  intro hbreaks
  obtain ⟨⟨vitals, defense, hvitals, hdefense, -⟩, htemple, -⟩ := hbreaks
  rcases h with hnone | hnone | hturned
  · rw [hvitals] at hnone
    cases hnone
  · rw [hdefense] at hnone
    cases hnone
  · exact htemple hturned.2

/-- The strike uses up a value of the declared range. -/
def SpendsValue (r : StaticCreatureRuntime) : Prop :=
  r.directMeleeDamageRange.isSome = true ∧ r.directMeleeDamageSequence ≠ u64Max

/-- The creature after the value is dealt. -/
def afterValue (r : StaticCreatureRuntime) : StaticCreatureRuntime :=
  if r.directMeleeDamageRange.isSome then
    { r with directMeleeDamageSequence := saturatingAdd r.directMeleeDamageSequence 1 } else r

theorem afterValue_eq_self_iff : afterValue r = r ↔ ¬SpendsValue r := by
  unfold afterValue SpendsValue saturatingAdd
  split
  · rename_i hrange
    constructor
    · intro heq hspends
      have hsequence := congrArg StaticCreatureRuntime.directMeleeDamageSequence heq
      dsimp only at hsequence
      omega
    · intro hkept
      have hsequence : r.directMeleeDamageSequence = u64Max := by
        by_contra hne
        exact hkept ⟨hrange, hne⟩
      rw [hsequence]
      ext <;> simp [hsequence]
  · rename_i hrange
    exact ⟨fun _ hspends => hrange hspends.1, fun _ => rfl⟩

theorem putCreature_eq_self_iff {c : StaticCreatureRuntime}
    (hr : w.staticCreatures[creatureId]? = some r) : w.putCreature creatureId c = w ↔ c = r := by
  constructor
  · intro heq
    have hlookup := congrArg (fun w : GameWorld => w.staticCreatures[creatureId]?) heq
    simp only [GameWorld.putCreature, Std.ExtTreeMap.getElem?_insert_self, hr] at hlookup
    exact Option.some.inj hlookup
  · intro heq
    have hsame : w.staticCreatures.insert creatureId c = w.staticCreatures := by
      refine Std.ExtTreeMap.ext_getElem? fun id => ?_
      rw [Std.ExtTreeMap.getElem?_insert]
      split
      · rename_i hid
        rw [← compare_eq_iff_eq.mp hid, hr, heq]
      · rfl
    unfold GameWorld.putCreature
    rw [hsame]

/-! ### One hit -/

theorem succeedsAt_living {α : Type} {m : LivingM α} {u : GameWorld}
    (h : SucceedsAt m u.toLivingWorld) : SucceedsAt (living m) u := by
  obtain ⟨a, l, hrun⟩ := h
  exact ⟨a, u.putLiving l, living_eq_ok.mpr ⟨l, hrun, rfl⟩⟩

theorem living_of_error {α : Type} {m : LivingM α} {u : GameWorld} {e : CoreError} {l : LivingWorld}
    (h : m u.toLivingWorld = (.error e, l)) : living m u = (.error e, u.putLiving l) := by
  rw [living, zoom, h]

/-- The target of a creature that is there can be cleared. -/
theorem clearTarget_ok {u : GameWorld} {c : StaticCreatureRuntime}
    (hc : u.staticCreatures[creatureId]? = some c) :
    SucceedsAt (living (Living.clearStaticCreatureTarget creatureId)) u := by
  have hread : (readOr (fun l : LivingWorld => l.staticCreatures[creatureId]?)
      (.unknownStaticCreature creatureId) : LivingM StaticCreatureRuntime) u.toLivingWorld =
        (.ok c, u.toLivingWorld) := readOr_of_some _ hc
  refine succeedsAt_living (.bind ⟨c, _, hread⟩ fun c' l hrun => ?_)
  obtain ⟨-, rfl⟩ := readOr_eq_ok.mp hrun
  refine .bind (.bind ⟨c, _, hread⟩ fun _ _ _ => (Succeeds.write _).succeedsAt _) fun _ l _ => ?_
  exact .ite (fun _ => ⟨(), _, rfl⟩) fun _ => ⟨(), _, rfl⟩

/-- Behind the death, nothing fails any more. -/
theorem endStrike_ok {u : GameWorld} {c : StaticCreatureRuntime}
    (hc : u.staticCreatures[creatureId]? = some c) (deathState : Option PlayerRespawnState)
    (applied : ℕ) (outcome : StaticCreatureTargetAttackOutcome) : SucceedsAt (do
      if deathState.isSome then living (Living.clearStaticCreatureTarget creatureId)
      if 0 < applied then markChanged
      write fun w : GameWorld => match w.staticCreatures[creatureId]?, r.meleeCooldownTicks with
        | some current, some cooldownTicks => w.putCreature creatureId
            { current with nextMeleeDueTick := saturatingAdd w.tick cooldownTicks }
        | _, _ => w
      return outcome : GameM StaticCreatureTargetAttackOutcome) u := by
  have hlast (u : GameWorld) : SucceedsAt (do
      write fun w : GameWorld => match w.staticCreatures[creatureId]?, r.meleeCooldownTicks with
        | some current, some cooldownTicks => w.putCreature creatureId
            { current with nextMeleeDueTick := saturatingAdd w.tick cooldownTicks }
        | _, _ => w
      return outcome : GameM StaticCreatureTargetAttackOutcome) u := ⟨_, _, rfl⟩
  have hend (u : GameWorld) : SucceedsAt (do
      if 0 < applied then markChanged
      write fun w : GameWorld => match w.staticCreatures[creatureId]?, r.meleeCooldownTicks with
        | some current, some cooldownTicks => w.putCreature creatureId
            { current with nextMeleeDueTick := saturatingAdd w.tick cooldownTicks }
        | _, _ => w
      return outcome : GameM StaticCreatureTargetAttackOutcome) u :=
    .ite (fun _ => .bind ⟨(), _, rfl⟩ fun _ t _ => hlast t) fun _ => hlast u
  exact .ite (fun _ => .bind (clearTarget_ok hc) fun _ t _ => hend t) fun _ => hend u

theorem damage_apply {u : GameWorld} {vitals : PlayerVitals}
    (hvitals : u.playerVitals[targetId]? = some vitals) :
    applyDamageToKnownTarget targetId damage u =
      if targetId ∈ u.playerGodMode then (.ok (0, vitals.health), u)
      else (.ok (min damage vitals.health, vitals.health - min damage vitals.health),
        u.putVitals targetId { vitals with health := vitals.health - min damage vitals.health }) := by
  unfold applyDamageToKnownTarget playerVitals
  rw [bind_of_ok (read_apply id u)]
  by_cases hgod : targetId ∈ u.playerGodMode
  · rw [id, if_pos hgod, if_pos hgod, hvitals]
    rfl
  · rw [id, if_neg hgod, if_neg hgod,
      bind_of_ok (readOr_of_some (f := fun u : GameWorld => u.playerVitals[targetId]?) _ hvitals)]
    rfl

/-- The death of a living player: it breaks off when a table has no entry of him. -/
theorem death_cases {l : LivingWorld} {player : Player} {vitals : PlayerVitals} {town : ℕ}
    {temple : Position} (hplayer : l.players[targetId]? = some player)
    (hliving : Living.isLiving l targetId = true)
    (hvitals : l.playerVitals[targetId]? = some vitals)
    (htemple : worldMap.templePositionForTown town = some temple) :
    ((l.playerRespawnStates[targetId]? = none ∨ l.playerConditions[targetId]? = none) ∧
      ∃ e l', Living.applyPlayerDeath targetId town worldMap l = (.error e, l') ∧
        (l' = l ∨ l' = l.putVitals targetId { vitals with health := 0 })) ∨
    (¬(l.playerRespawnStates[targetId]? = none ∨ l.playerConditions[targetId]? = none) ∧
      SucceedsAt (Living.applyPlayerDeath targetId town worldMap) l) := by
  unfold Living.applyPlayerDeath Living.requirePlayer Living.playerRespawnState SucceedsAt
  rw [bind_of_ok (readOr_of_some (f := fun l : LivingWorld => l.players[targetId]?) _ hplayer)]
  cases hstate : l.playerRespawnStates[targetId]? with
  | none =>
    left
    refine ⟨.inl rfl, _, l, bind_of_error (readOr_of_none _ hstate), .inl rfl⟩
  | some state =>
    have halive : ¬state.dead = true := by simpa [Living.isLiving, hstate] using hliving
    rw [bind_of_ok (readOr_of_some (f := fun l : LivingWorld => l.playerRespawnStates[targetId]?) _
      hstate), if_neg halive, htemple]
    rw [bind_of_ok (show ofOption (some temple) _ l = (.ok temple, l) from rfl)]
    rw [bind_of_ok (readOr_of_some (f := fun l : LivingWorld => l.playerVitals[targetId]?) _ hvitals),
      bind_of_ok (write_apply _ l)]
    cases hconditions : l.playerConditions[targetId]? with
    | none =>
      left
      exact ⟨.inr rfl, _, _, bind_of_error (readOr_of_none _ hconditions), .inr rfl⟩
    | some conditions =>
      right
      refine ⟨by simp, SucceedsAt.bind ⟨conditions, _, readOr_of_some _ hconditions⟩
        fun _ _ _ => ?_⟩
      exact (Succeeds.bind (.write _) fun _ => .bind (fun l => ⟨l.tick, rfl⟩) fun _ =>
        .bind (.write _) fun _ => .bind (.write _) fun _ => .bind (.write _) fun _ =>
          .pure _).succeedsAt _

/-- A hit up to the death of the target; what is behind it goes through. -/
theorem strikeTarget_eq (creatureId targetId : ℕ) (r : StaticCreatureRuntime) (fallbackDamage : ℕ)
    (worldMap : WorldMap) :
    ∃ finish : ℕ × ℕ → Option PlayerRespawnState → GameM StaticCreatureTargetAttackOutcome,
      strikeTarget creatureId targetId r fallbackDamage worldMap = (do
        write (·.putCreature creatureId (afterValue r))
        let vitals ← playerVitals targetId
        let defense ← entryOf GameWorld.playerCombatDefenses targetId
        let mitigated := defense.mitigatePhysical (nextDamage r fallbackDamage)
        let town ← requireTemple targetId worldMap
          (decide (0 < vitals.health ∧ vitals.health ≤ mitigated))
        let hit ← applyDamageToKnownTarget targetId mitigated
        let death ← dieIn targetId worldMap (town.filter fun _ => hit.2 = 0 ∧ 0 < hit.1)
        finish hit death) ∧
      ∀ hit death u c, u.staticCreatures[creatureId]? = some c → SucceedsAt (finish hit death) u :=
  ⟨_, rfl, fun hit death _ _ hc => endStrike_ok hc death hit.1 _⟩

section Deal

variable {u : GameWorld} {player : Player} {vitals : PlayerVitals} {defense : PlayerCombatDefense}
  {finish : ℕ × ℕ → Option PlayerRespawnState → GameM StaticCreatureTargetAttackOutcome}

/-- Without a death the hit goes through. -/
theorem spared_ok (hvitals : u.playerVitals[targetId]? = some vitals)
    (hfinish : ∀ hit death u', u'.staticCreatures = u.staticCreatures →
      SucceedsAt (finish hit death) u') {town : Option ℕ} {mitigated : ℕ}
    (hspared : town = none ∨ 0 < vitals.health ∧ targetId ∈ u.playerGodMode) :
    SucceedsAt (do
      let hit ← applyDamageToKnownTarget targetId mitigated
      let death ← dieIn targetId worldMap (town.filter fun _ => hit.2 = 0 ∧ 0 < hit.1)
      finish hit death) u := by
  have hkeeps : Keeps (fun w : GameWorld => w.staticCreatures)
      (applyDamageToKnownTarget targetId mitigated) :=
    Robust.keeps_applyDamageToKnownTarget (fun _ _ _ => rfl) _ _
  have hdamage := @damage_apply _ mitigated u vitals hvitals
  have hdeal : ∃ hit u', applyDamageToKnownTarget targetId mitigated u = (.ok hit, u') ∧
      town.filter (fun _ => decide (hit.2 = 0 ∧ 0 < hit.1)) = none := by
    rw [hdamage]
    rcases hspared with hnone | ⟨hhealth, hgod⟩
    · split
      · exact ⟨_, _, rfl, by rw [hnone]; rfl⟩
      · exact ⟨_, _, rfl, by rw [hnone]; rfl⟩
    · rw [if_pos hgod]
      exact ⟨_, _, rfl, by simp⟩
  obtain ⟨hit, u', hrun, hnone⟩ := hdeal
  rw [SucceedsAt, bind_of_ok hrun, hnone]
  have hkept : u'.staticCreatures = u.staticCreatures := by
    have := hkeeps u
    rwa [hrun] at this
  exact hfinish hit none u' hkept

/-- What becomes of a hit, once the target's health and armour are known. -/
theorem deal_cases (hplayer : u.players[targetId]? = some player)
    (hliving : Living.isLiving u.toLivingWorld targetId = true)
    (hvitals : u.playerVitals[targetId]? = some vitals)
    (hdefense : u.playerCombatDefenses[targetId]? = some defense)
    (hfinish : ∀ hit death u', u'.staticCreatures = u.staticCreatures →
      SucceedsAt (finish hit death) u') {deal : GameM StaticCreatureTargetAttackOutcome}
    (hdeal : deal = do
      let town ← requireTemple targetId worldMap
        (decide (0 < vitals.health ∧ vitals.health ≤ defense.mitigatePhysical damage))
      let hit ← applyDamageToKnownTarget targetId (defense.mitigatePhysical damage)
      let death ← dieIn targetId worldMap (town.filter fun _ => hit.2 = 0 ∧ 0 < hit.1)
      finish hit death) :
    (WouldKill u targetId damage ∧ NoTemple u targetId worldMap ∧ ∃ e, deal u = (.error e, u)) ∨
    (BreaksOff u targetId damage worldMap ∧ ∃ e u', deal u = (.error e, u') ∧
      u'.playerVitals[targetId]? ≠ u.playerVitals[targetId]?) ∨
    (¬(WouldKill u targetId damage ∧ NoTemple u targetId worldMap) ∧
      ¬BreaksOff u targetId damage worldMap ∧ SucceedsAt deal u) := by
  have hkills : WouldKill u targetId damage ↔
      0 < vitals.health ∧ vitals.health ≤ defense.mitigatePhysical damage := by
    constructor
    · intro h
      obtain ⟨vitals', defense', hvitals', hdefense', hhit⟩ := h
      obtain rfl := Option.some.inj (hvitals.symm.trans hvitals')
      obtain rfl := Option.some.inj (hdefense.symm.trans hdefense')
      exact hhit
    · intro hhit
      exact ⟨vitals, defense, hvitals, hdefense, hhit⟩
  by_cases hhit : 0 < vitals.health ∧ vitals.health ≤ defense.mitigatePhysical damage
  · rw [decide_eq_true hhit] at hdeal
    have hwould := hkills.mpr hhit
    cases htown : u.playerTowns[targetId]? with
    | none =>
      left
      have hnone : NoTemple u targetId worldMap := by
        intro town h
        rw [htown] at h
        cases h
      refine ⟨hwould, hnone, .unknownPlayer targetId, ?_⟩
      rw [hdeal]
      exact bind_of_error (bind_of_error (readOr_of_none _ htown))
    | some town =>
      have hread : entryOf GameWorld.playerTowns targetId u = (.ok town, u) :=
        readOr_of_some _ htown
      cases htemple : worldMap.templePositionForTown town with
      | none =>
        left
        have hnone : NoTemple u targetId worldMap := by
          intro town' h
          rw [htown] at h
          rwa [← Option.some.inj h]
        refine ⟨hwould, hnone, .unknownTown town, ?_⟩
        rw [hdeal]
        refine bind_of_error ?_
        rw [requireTemple, if_pos rfl, bind_of_ok hread, htemple]
        rfl
      | some temple =>
        right
        have hnotTurned : ¬NoTemple u targetId worldMap := by
          intro h
          rw [h town htown] at htemple
          cases htemple
        have hrequire : requireTemple targetId worldMap true u = (.ok (some town), u) := by
          rw [requireTemple, if_pos rfl, bind_of_ok hread, htemple]
          rfl
        rw [SucceedsAt, hdeal, bind_of_ok hrequire]
        by_cases hgod : targetId ∈ u.playerGodMode
        · right
          exact ⟨fun h => hnotTurned h.2, fun h => h.2.2.1 hgod,
            spared_ok hvitals hfinish (.inr ⟨hhit.1, hgod⟩)⟩
        · have hdamage : applyDamageToKnownTarget targetId (defense.mitigatePhysical damage) u =
              (.ok (vitals.health, 0), u.putVitals targetId { vitals with health := 0 }) := by
            rw [damage_apply hvitals, if_neg hgod, Nat.min_eq_right hhit.2, Nat.sub_self]
          have hdead : (u.putVitals targetId { vitals with health := 0 }).playerVitals[targetId]? =
              some { vitals with health := 0 } := Std.ExtTreeMap.getElem?_insert_self
          have hdies : (some town).filter (fun _ => decide (0 = 0 ∧ 0 < vitals.health)) =
              some town := by simp [hhit.1]
          rw [bind_of_ok hdamage, hdies]
          rcases death_cases
            (l := (u.putVitals targetId { vitals with health := 0 }).toLivingWorld)
            hplayer hliving hdead htemple with ⟨hmissing, e, l', hrun, hl'⟩ | ⟨hthere, hrun⟩
          · left
            refine ⟨⟨hwould, hnotTurned, hgod, hmissing⟩, e, _,
              bind_of_error (bind_of_error (living_of_error hrun)), ?_⟩
            -- the health is gone, whether or not the death wrote it once more
            have hzero : l'.playerVitals[targetId]? = some { vitals with health := 0 } := by
              rcases hl' with rfl | rfl
              · exact hdead
              · exact Std.ExtTreeMap.getElem?_insert_self
            intro hsame
            have hlost := (show _ = l'.playerVitals[targetId]? from rfl).symm.trans hsame
            rw [hzero, hvitals] at hlost
            have hhealth := congrArg PlayerVitals.health (Option.some.inj hlost)
            exact absurd hhit.1 (Nat.not_lt.mpr hhealth.symm.le)
          · right
            refine ⟨fun h => hnotTurned h.2, fun h => hthere h.2.2.2, ?_⟩
            refine SucceedsAt.bind (SucceedsAt.bind (succeedsAt_living hrun) fun death u' _ =>
              ⟨some death, u', rfl⟩) fun death u' hdeath => hfinish _ death u' ?_
            have hkept := (show Keeps (fun w : GameWorld => w.staticCreatures)
              (dieIn targetId worldMap (some town)) from
                .bind (RobustEdits.keeps_applyPlayerDeath _ _ _) fun _ => .pure _)
              (u.putVitals targetId { vitals with health := 0 })
            rwa [hdeath] at hkept
  · right; right
    rw [decide_eq_false hhit] at hdeal
    refine ⟨fun h => hhit (hkills.mp h.1), fun h => hhit (hkills.mp h.1), ?_⟩
    rw [SucceedsAt, hdeal, bind_of_ok (show requireTemple targetId worldMap false u = (.ok none, u)
      from rfl)]
    exact spared_ok hvitals hfinish (.inl rfl)

/-- **One hit**: turned down with nothing but the value of the range spent, broken off when the
target has lost its health already, or carried to its end. -/
theorem strikeTarget_cases (creatureId : ℕ) (r : StaticCreatureRuntime) (fallbackDamage : ℕ)
    (worldMap : WorldMap) (hplayer : w.players[targetId]? = some player)
    (hliving : Living.isLiving w.toLivingWorld targetId = true) :
    (TurnedDown w targetId (nextDamage r fallbackDamage) worldMap ∧
      ∃ e, strikeTarget creatureId targetId r fallbackDamage worldMap w =
        (.error e, w.putCreature creatureId (afterValue r))) ∨
    (BreaksOff w targetId (nextDamage r fallbackDamage) worldMap ∧
      ∃ e w', strikeTarget creatureId targetId r fallbackDamage worldMap w = (.error e, w') ∧
        w'.playerVitals[targetId]? ≠ w.playerVitals[targetId]?) ∨
    (¬TurnedDown w targetId (nextDamage r fallbackDamage) worldMap ∧
      ¬BreaksOff w targetId (nextDamage r fallbackDamage) worldMap ∧
      SucceedsAt (strikeTarget creatureId targetId r fallbackDamage worldMap) w) := by
  obtain ⟨finish, heq, hfinish⟩ := strikeTarget_eq creatureId targetId r fallbackDamage worldMap
  rw [SucceedsAt, heq, bind_of_ok (write_apply _ w)]
  cases hvitals : w.playerVitals[targetId]? with
  | none => exact .inl ⟨.inl hvitals, _, bind_of_error (readOr_of_none _ hvitals)⟩
  | some vitals =>
    have hread : playerVitals targetId (w.putCreature creatureId (afterValue r)) =
        (.ok vitals, w.putCreature creatureId (afterValue r)) := readOr_of_some _ hvitals
    rw [bind_of_ok hread]
    cases hdefense : w.playerCombatDefenses[targetId]? with
    | none => exact .inl ⟨.inr (.inl hdefense), _, bind_of_error (readOr_of_none _ hdefense)⟩
    | some defense =>
      have hread : entryOf GameWorld.playerCombatDefenses targetId
          (w.putCreature creatureId (afterValue r)) =
            (.ok defense, w.putCreature creatureId (afterValue r)) := readOr_of_some _ hdefense
      rw [bind_of_ok hread]
      have hthere (hit : ℕ × ℕ) (death : Option PlayerRespawnState) (u' : GameWorld)
          (hkept : u'.staticCreatures = (w.putCreature creatureId (afterValue r)).staticCreatures) :
          SucceedsAt (finish hit death) u' := by
        refine hfinish hit death u' (afterValue r) ?_
        rw [hkept]
        exact Std.ExtTreeMap.getElem?_insert_self
      rcases deal_cases (u := w.putCreature creatureId (afterValue r)) hplayer hliving hvitals
        hdefense hthere rfl with ⟨hwould, hnone, e, hrun⟩ | ⟨hbreaks, e, w', hrun, hlost⟩ |
          ⟨hnotTurned, hnotBreaks, hok⟩
      · exact .inl ⟨.inr (.inr ⟨hwould, hnone⟩), e, hrun⟩
      · exact .inr (.inl ⟨hbreaks, e, w', hrun, hvitals ▸ hlost⟩)
      · refine .inr (.inr ⟨fun hturned => ?_, hnotBreaks, hok⟩)
        rcases hturned with hnone | hnone | hturned
        · rw [hvitals] at hnone
          cases hnone
        · rw [hdefense] at hnone
          cases hnone
        · exact hnotTurned hturned

end Deal

/-! ### The strike -/

/-- The strike spoils: it is turned down behind a spent value, or breaks off in the death. -/
def Spoils (w : GameWorld) (creatureId fallbackDamage : ℕ) (worldMap : WorldMap) : Prop :=
  ∃ r targetId, Strikes w creatureId r targetId ∧
    (SpendsValue r ∧ TurnedDown w targetId (nextDamage r fallbackDamage) worldMap ∨
      BreaksOff w targetId (nextDamage r fallbackDamage) worldMap)

/-- Whatever does not come to a hit leaves the world as it was when it is refused. -/
theorem atomicAt_of_not_strikes {fallbackDamage : ℕ}
    (h : ∀ r targetId, ¬Strikes w creatureId r targetId) :
    AtomicAt (applyStaticCreatureTargetDamage creatureId fallbackDamage worldMap) w := by
  have hclear : Atomic (do
      living (Living.clearStaticCreatureTarget creatureId)
      return .noTarget : GameM StaticCreatureTargetAttackOutcome) := by
    refine Atomic.bind_succeeds (atomic_living ?_) fun _ => .pure _
    refine .bind (.readOr _ _) fun c => Atomic.bind_succeeds ?_ fun _ => ?_
    · exact .bind (.readOr _ _) fun _ => (Succeeds.write _).atomic
    · split
      · exact .write _
      · exact .pure _
  refine .bind (.readOr _ _) fun r hr => .bind (.read _) fun u hu => ?_
  obtain ⟨hr, -⟩ := readOr_eq_ok.mp hr
  cases hu
  refine .ite (fun _ => (ReadOnly.fail _).atomicAt w) fun hactive => ?_
  refine .ite (fun _ => (ReadOnly.pure _).atomicAt w) fun hdue => ?_
  refine .ite (fun _ => hclear w) fun hmonster => ?_
  split
  · exact (ReadOnly.pure _).atomicAt w
  · rename_i targetId htarget
    split
    · exact hclear w
    · rename_i target hfound
      obtain ⟨hplayer, hliving⟩ := Option.filter_eq_some_iff.mp hfound
      refine .ite (fun _ => (ReadOnly.pure _).atomicAt w) fun hadjacent => ?_
      exact absurd ⟨hr, by simpa using hactive, Nat.le_of_not_lt hdue, by simpa using hmonster,
        htarget, hliving, target, hplayer, by simpa using hadjacent⟩ (h r targetId)

theorem apply_of_strikes {fallbackDamage : ℕ} (h : Strikes w creatureId r targetId) :
    applyStaticCreatureTargetDamage creatureId fallbackDamage worldMap w =
      strikeTarget creatureId targetId r fallbackDamage worldMap w := by
  obtain ⟨player, hplayer, hadjacent⟩ := h.adjacent
  have hread : (readOr (fun w : GameWorld => w.staticCreatures[creatureId]?)
      (.unknownStaticCreature creatureId) : GameM StaticCreatureRuntime) w = (.ok r, w) :=
    readOr_of_some _ h.lookup
  have hfound : w.players[targetId]?.filter
      (fun _ => Living.isLiving w.toLivingWorld targetId) = some player :=
    Option.filter_eq_some_iff.mpr ⟨hplayer, h.living⟩
  unfold applyStaticCreatureTargetDamage
  rw [bind_of_ok hread, bind_of_ok (read_apply id w), if_neg (by simp [h.active]), id,
    if_neg (Nat.not_lt.mpr h.due), if_neg (by simp [h.monster]), h.target]
  simp only [hfound]
  rw [if_neg (by simp [hadjacent])]

theorem Strikes.unique {r' : StaticCreatureRuntime} {targetId' : ℕ}
    (h : Strikes w creatureId r targetId) (h' : Strikes w creatureId r' targetId') :
    r' = r ∧ targetId' = targetId := by
  obtain rfl := Option.some.inj (h.lookup.symm.trans h'.lookup)
  exact ⟨rfl, Option.some.inj (h'.target.symm.trans h.target)⟩

/-- **A refused strike leaves the world as it was exactly when it does not spoil**: it does so when
the hit is turned down and the range has a value to spend, or when the target's death breaks off. -/
theorem strike_atomic_iff (w : GameWorld) (creatureId fallbackDamage : ℕ) (worldMap : WorldMap) :
    AtomicAt (applyStaticCreatureTargetDamage creatureId fallbackDamage worldMap) w ↔
      ¬Spoils w creatureId fallbackDamage worldMap := by
  by_cases hstrikes : ∃ r targetId, Strikes w creatureId r targetId
  · obtain ⟨r, targetId, h⟩ := hstrikes
    have hspoils : Spoils w creatureId fallbackDamage worldMap ↔
        SpendsValue r ∧ TurnedDown w targetId (nextDamage r fallbackDamage) worldMap ∨
          BreaksOff w targetId (nextDamage r fallbackDamage) worldMap := by
      constructor
      · intro hspoils
        obtain ⟨r', targetId', h', hspoils⟩ := hspoils
        obtain ⟨rfl, rfl⟩ := h.unique h'
        exact hspoils
      · intro hspoils
        exact ⟨r, targetId, h, hspoils⟩
    obtain ⟨player, hplayer, -⟩ := h.adjacent
    rw [AtomicAt, apply_of_strikes h, hspoils]
    rcases strikeTarget_cases creatureId r fallbackDamage worldMap hplayer h.living with
      ⟨hturned, e, hrun⟩ | ⟨hbreaks, e, w', hrun, hlost⟩ | ⟨hnotTurned, hnotBreaks, a, w', hrun⟩
    · have hkept : w.putCreature creatureId (afterValue r) = w ↔ ¬SpendsValue r := by
        rw [putCreature_eq_self_iff h.lookup, afterValue_eq_self_iff]
      constructor
      · intro hatomic hspoils
        rcases hspoils with ⟨hspends, -⟩ | hbreaks
        · exact hkept.mp (hatomic e _ hrun) hspends
        · exact hturned.not_breaksOff hbreaks
      · intro hnot e' w' hrun'
        rw [hrun] at hrun'
        cases hrun'
        exact hkept.mpr fun hspends => hnot (.inl ⟨hspends, hturned⟩)
    · constructor
      · intro hatomic
        obtain rfl := hatomic e w' hrun
        exact absurd rfl hlost
      · intro hnot
        exact absurd (.inr hbreaks) hnot
    · constructor
      · intro _ hspoils
        rcases hspoils with ⟨-, hturned⟩ | hbreaks
        · exact hnotTurned hturned
        · exact hnotBreaks hbreaks
      · intro _ e' w'' hrun'
        rw [hrun] at hrun'
        cases hrun'
  · have hnone : ∀ r targetId, ¬Strikes w creatureId r targetId := fun r targetId h =>
      hstrikes ⟨r, targetId, h⟩
    refine ⟨fun _ hspoils => ?_, fun _ => atomicAt_of_not_strikes hnone⟩
    obtain ⟨r, targetId, h, -⟩ := hspoils
    exact hnone r targetId h

/-- A rat that deals nine or ten. -/
def deadlyRat : FeTfsStaticSpawnCollection :=
  { entities := [importedRat 1 ⟨100, 100, 7⟩]
    directMeleeDamageRanges := (∅ : BTreeMap ℕ _).insert 1 ⟨9, 10⟩ }

/-- A weak knight of no town enters beside the rat, and the rat turns to him. -/
def ratTurns : List GameEvent :=
  [.creature (.install deadlyRat), knightEnters 7 101,
    .overwrite (.updateVitals 7 { health := 5, maxHealth := 5 }), .creature (.selectTarget 1 1)]

/-- **The refused strike has used up a value**: the knight's town has no temple, the hit is turned
down, and the next one deals ten. -/
theorem strike_spendsValue : ¬∀ (events : List GameEvent) (creatureId fallbackDamage : ℕ)
    (worldMap : WorldMap), AtomicAt
      (applyStaticCreatureTargetDamage creatureId fallbackDamage worldMap)
      (events.foldl (GameEvent.step id) .empty) := by
  intro h
  have hrefused : (applyStaticCreatureTargetDamage 1 1 templeMap
      (ratTurns.foldl (GameEvent.step id) .empty)).1.isOk = false := by decide +kernel
  have hbefore : (ratTurns.foldl (GameEvent.step id) .empty).staticCreatures[1]?.map
      (·.directMeleeDamageSequence) = some 0 := by decide +kernel
  have hafter : (applyStaticCreatureTargetDamage 1 1 templeMap
      (ratTurns.foldl (GameEvent.step id) .empty)).2.staticCreatures[1]?.map
        (·.directMeleeDamageSequence) = some 1 := by decide +kernel
  have hatomic := h ratTurns 1 1 templeMap
  generalize ratTurns.foldl (GameEvent.step id) .empty = w at hrefused hbefore hafter hatomic
  rcases hrun : applyStaticCreatureTargetDamage 1 1 templeMap w with ⟨e | a, w'⟩
  · rw [hrun, hatomic e w' hrun, hbefore] at hafter
    cases hafter
  · rw [hrun] at hrefused
    cases hrefused

end ForgottenEngine
