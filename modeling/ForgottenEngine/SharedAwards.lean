import ForgottenEngine.Database
import ForgottenEngine.Overwrites
import ForgottenEngine.Library.Relations

/-!
# Sharing the experience of a defeat

The experience of a defeated creature goes to the player who defeated it, or to the whole party
when its rules let it share.  The awards are made in a copy of the world, one recipient after the
other; then the database takes all of them in one transaction; then the copy becomes the world.

What SQLite does is not known beforehand: it may refuse to open the transaction, to carry out any
of its statements, or to commit.

* `updateBatch_eq_ok` — a batch that goes through has stored every update, and nothing else;
* `awardRecipients_shared` — what the awards make of the copy;
* `award_allOrNothing` — **every recipient gets a share in the world and in the database, or nobody
  gets one**.
-/

namespace ForgottenEngine

open Fallible Game

/-! ### The rows -/

/-- `as i64` on a 64-bit value. -/
def asI64 (n : ℕ) : ℤ := if n ≤ i64Max then n else (n : ℤ) - (u64Max + 1)

/-- The columns of a player that an award writes. -/
structure ExperienceColumns where
  level : ℕ
  experience : ℤ
  vitals : PlayerVitals
deriving DecidableEq

structure PlayerExperienceVitalsUpdate where
  playerId : ℕ
  level : ℕ
  experience : ℕ
  vitals : PlayerVitals
deriving DecidableEq, Repr

def PlayerExperienceVitalsUpdate.columns (self : PlayerExperienceVitalsUpdate) :
    ExperienceColumns :=
  ⟨self.level, asI64 self.experience, self.vitals⟩

inductive AwardError where
  | core (error : CoreError)
  | invalidConfiguration (message : String)
  | sqlite
  | invalidPlayerVitals
  | duplicatePlayerExperienceUpdate (playerId : ℕ)
  | unknownPlayer (playerId : ℕ)
deriving DecidableEq

abbrev ExperienceRows := BTreeMap ℕ ExperienceColumns

/-- The checks in front of the transaction. -/
def checkUpdates : List PlayerExperienceVitalsUpdate → List ℕ → Except AwardError Unit
  | [], _ => .ok ()
  | update :: updates, seenPlayerIds =>
    if ¬update.vitals.isValid then .error .invalidPlayerVitals
    else if update.playerId ∈ seenPlayerIds then
      .error (.duplicatePlayerExperienceUpdate update.playerId)
    else checkUpdates updates (update.playerId :: seenPlayerIds)

/-- `UPDATE players SET …  WHERE id = …`, which has to affect a row. -/
def updateExperienceRow (executes : Bool) (update : PlayerExperienceVitalsUpdate) :
    Fallible AwardError ExperienceRows Unit := do
  if ¬executes then fail .sqlite
  else
    let rows ← read id
    if rows[update.playerId]? = none then fail (.unknownPlayer update.playerId)
    else write fun rows => rows.insert update.playerId update.columns

def executeUpdates (sqlite : SqliteOutcome) :
    ℕ → List PlayerExperienceVitalsUpdate → Fallible AwardError ExperienceRows Unit
  | _, [] => pure ()
  | statement, update :: updates => do
    updateExperienceRow (sqlite.executes statement) update
    executeUpdates sqlite (statement + 1) updates

def updatePlayerExperienceAndVitalsBatch (sqlite : SqliteOutcome)
    (updates : List PlayerExperienceVitalsUpdate) : Fallible AwardError ExperienceRows Unit := do
  ofExcept (checkUpdates updates [])
  committed sqlite .sqlite (executeUpdates sqlite 0 updates)

/-! ### The award -/

namespace Game

/-- The members of a party that shares, in the order of their ids; none when it does not. -/
def partySharedExperienceRecipients (playerId : ℕ) (rules : PartySharedExperienceRules) :
    GameM (Option (List ℕ)) := do
  ensurePartyPlayerExists playerId
  let w ← read id
  match w.party.playerPartyLeader playerId with
  | none => return none
  | some leaderId => do
    let state ← partySharedExperienceState leaderId rules
    if state.eligibility ≠ .eligible then return none
    else return some ((w.party.memberIds leaderId ++ [leaderId]).insertionSort (· ≤ ·))

/-- The gains of a vocation; without an entry there are none. -/
def gainsOf (gains : Option (BTreeMap ℕ VocationLevelUpGains)) (vocation : ℕ) :
    VocationLevelUpGains :=
  (gains.bind fun entries => entries[vocation]?).getD {}

/-- The awards of all recipients, one after the other. -/
def awardRecipients (rawExperience : ℕ) (policy : ExperienceAwardPolicy)
    (gains : Option (BTreeMap ℕ VocationLevelUpGains)) :
    List ℕ → GameM (List PlayerExperienceAwardOutcome)
  | [] => return []
  | recipientId :: recipientIds => do
    let progression ← entryOf GameWorld.playerProgressions recipientId
    let outcome ← awardPlayerExperienceWithVocationGains recipientId rawExperience policy
      (gainsOf gains progression.vocation)
    let outcomes ← awardRecipients rawExperience policy gains recipientIds
    return outcome :: outcomes

end Game

/-- The world and the database around an award, with the rewards of the installed creatures. -/
structure AwardState where
  world : GameWorld
  rows : ExperienceRows
  experienceRewards : BTreeMap ℕ ℕ
  vitalsEpoch : ℕ

/-- What an award is given. -/
structure AwardRequest where
  playerId : ℕ
  creatureId : ℕ
  policy : Option ExperienceAwardPolicy
  vocationLevelUpGains : Option (BTreeMap ℕ VocationLevelUpGains)
  partySharedExperienceRules : Option Game.PartySharedExperienceRules

abbrev AwardM (α : Type) := Fallible AwardError AwardState α

/-- A method on a copy of the world: its result and the copy. -/
def staged {α : Type} (method : GameM α) : AwardM (α × GameWorld) := fun s =>
  match method s.world with
  | (.ok a, w) => (.ok (a, w), s)
  | (.error e, _) => (.error (.core e), s)

def AwardRequest.recipientIds (self : AwardRequest) : GameM (List ℕ) :=
  match self.partySharedExperienceRules with
  | none => return [self.playerId]
  | some rules => do
    let recipients ← Game.partySharedExperienceRecipients self.playerId rules
    return recipients.getD [self.playerId]

def Game.PlayerExperienceAwardOutcome.update (self : PlayerExperienceAwardOutcome) :
    PlayerExperienceVitalsUpdate :=
  ⟨self.playerId, self.level, self.experience, self.vitals⟩

/-- The awards of the copy in the database, and the copy as the world. -/
def persistAwards (sqlite : SqliteOutcome) (outcomes : List PlayerExperienceAwardOutcome)
    (stagedWorld : GameWorld) (outcome : PlayerExperienceAwardOutcome) :
    AwardM (Option PlayerExperienceAwardOutcome) := do
  zoom AwardState.rows (fun s rows => { s with rows })
    (updatePlayerExperienceAndVitalsBatch sqlite (outcomes.map (·.update)))
  write fun s => { s with world := stagedWorld }
  if outcomes.any fun outcome => 0 < outcome.gainedLevels then
    write fun s => { s with vitalsEpoch := s.vitalsEpoch + 1 }
  return some outcome

def applyAndPersistNativeStaticDefeatExperience (sqlite : SqliteOutcome) (request : AwardRequest) :
    AwardM (Option PlayerExperienceAwardOutcome) :=
  match request.policy with
  | none => return none
  | some policy => do
    let rawExperience ← readOr (·.experienceRewards[request.creatureId]?)
      (.core (.unknownStaticCreature request.creatureId))
    if rawExperience = 0 then return none
    else
      let (recipientIds, _) ← staged request.recipientIds
      let (outcomes, stagedWorld) ← staged
        (Game.awardRecipients rawExperience policy request.vocationLevelUpGains recipientIds)
      match outcomes.find? fun outcome => outcome.playerId = request.playerId with
      | none => fail (.invalidConfiguration
          "shared experience recipient selection omitted the defeating player")
      | some outcome =>
        if outcome.awardedExperience = 0 then return none
        else persistAwards sqlite outcomes stagedWorld outcome

/-! ### The batch -/

section Batch

variable {sqlite : SqliteOutcome} {updates : List PlayerExperienceVitalsUpdate}
  {rows rows' : ExperienceRows}

/-- Accepted updates are for different players, and for none seen before. -/
theorem checkUpdates_eq_ok {seen : List ℕ} (h : checkUpdates updates seen = .ok ()) :
    (updates.map (·.playerId)).Nodup ∧ ∀ u ∈ updates, u.playerId ∉ seen := by
  induction updates generalizing seen with
  | nil => exact ⟨List.nodup_nil, by simp⟩
  | cons u updates ih =>
    unfold checkUpdates at h
    split_ifs at h with hvalid hseen
    obtain ⟨hnodup, hfresh⟩ := ih h
    refine ⟨?_, ?_⟩
    · rw [List.map_cons, List.nodup_cons]
      refine ⟨fun hmem => ?_, hnodup⟩
      obtain ⟨v, hv, hsame⟩ := List.mem_map.mp hmem
      exact hfresh v hv (hsame ▸ List.mem_cons_self)
    · intro v hv
      rcases List.mem_cons.mp hv with rfl | hv
      · exact hseen
      · exact fun hmem => hfresh v hv (List.mem_cons_of_mem _ hmem)

theorem updateExperienceRow_eq_ok {executes : Bool} {update : PlayerExperienceVitalsUpdate}
    (h : updateExperienceRow executes update rows = (.ok (), rows')) :
    rows' = rows.insert update.playerId update.columns := by
  unfold updateExperienceRow at h
  by_cases hexecutes : executes = true
  · rw [if_neg (not_not_intro hexecutes)] at h
    have hread : (read id : Fallible AwardError ExperienceRows ExperienceRows) rows =
        (.ok rows, rows) := rfl
    rw [bind_of_ok hread] at h
    by_cases hrow : rows[update.playerId]? = none
    · rw [if_pos hrow] at h
      cases h
    · rw [if_neg hrow] at h
      cases h
      rfl
  · rw [if_pos hexecutes] at h
    cases h

theorem executeUpdates_eq_ok {statement : ℕ}
    (h : executeUpdates sqlite statement updates rows = (.ok (), rows')) :
    rows' = updates.foldl (fun rows u => rows.insert u.playerId u.columns) rows := by
  induction updates generalizing statement rows with
  | nil =>
    cases h
    rfl
  | cons u updates ih =>
    obtain ⟨_, t, hfirst, hrest⟩ := bind_eq_ok.mp h
    rw [updateExperienceRow_eq_ok hfirst] at hrest
    rw [List.foldl_cons]
    exact ih hrest

/-- A batch that goes through has stored every update, and nothing else. -/
theorem updateBatch_eq_ok
    (h : updatePlayerExperienceAndVitalsBatch sqlite updates rows = (.ok (), rows')) :
    (updates.map (·.playerId)).Nodup ∧
      (∀ u ∈ updates, rows'[u.playerId]? = some u.columns) ∧
      ∀ p ∉ updates.map (·.playerId), rows'[p]? = rows[p]? := by
  unfold updatePlayerExperienceAndVitalsBatch at h
  cases hcheck : checkUpdates updates [] with
  | error e =>
    rw [hcheck] at h
    cases h
  | ok u =>
    rw [hcheck, bind_of_ok (ofExcept_apply _ _)] at h
    obtain ⟨-, -, hrun⟩ := committed_eq_ok.mp h
    obtain ⟨hnodup, -⟩ := checkUpdates_eq_ok hcheck
    rw [executeUpdates_eq_ok hrun]
    refine ⟨hnodup, fun u hu => ?_, fun p hp => ?_⟩
    · exact OrderedMap.lookup_foldl_of_mem (List.pairwise_map.mp hnodup) hu _
    · refine OrderedMap.lookup_foldl_of_ne (fun u hu hsame => hp ?_) _
      exact hsame ▸ List.mem_map_of_mem hu

/-- A batch that does not go through stores nothing. -/
theorem updateBatch_atomic :
    Atomic (updatePlayerExperienceAndVitalsBatch sqlite updates) :=
  .bind (ReadOnly.ofExcept _) fun _ => committed_atomic _ _ _

end Batch

/-! ### The shares -/

/-- Vitals of sixteen bits, as the engine has them. -/
structure PlayerVitals.IsNarrow (self : PlayerVitals) : Prop where
  health : self.health ≤ u16Max
  maxHealth : self.maxHealth ≤ u16Max
  mana : self.mana ≤ u16Max
  maxMana : self.maxMana ≤ u16Max
  capacity : self.capacity ≤ u16Max

/-- Without a new level nothing is gained. -/
theorem VocationLevelUpGains.apply_zero (gains : VocationLevelUpGains) {vitals : PlayerVitals}
    (h : vitals.IsNarrow) : gains.apply vitals 0 = vitals := by
  obtain ⟨hhealth, hmaxHealth, hmana, hmaxMana, hcapacity⟩ := h
  simp [VocationLevelUpGains.apply, VocationLevelUpGains.scaledAmount, hhealth, hmaxHealth, hmana,
    hmaxMana, hcapacity]

section Shares

variable {rawExperience : ℕ} {policy : ExperienceAwardPolicy}
  {gains : Option (BTreeMap ℕ VocationLevelUpGains)} {w w' : GameWorld} {p : ℕ}

/-- A player who has got a share, and what is reported of it. -/
structure Shared (rawExperience : ℕ) (policy : ExperienceAwardPolicy)
    (gains : Option (BTreeMap ℕ VocationLevelUpGains)) (w w' : GameWorld)
    (outcome : PlayerExperienceAwardOutcome) (player : Player) (vitals : PlayerVitals)
    (progression : PlayerProgression) : Prop where
  player_before : w.players[outcome.playerId]? = some player
  vitals_before : w.playerVitals[outcome.playerId]? = some vitals
  progression_before : w.playerProgressions[outcome.playerId]? = some progression
  player_after : w'.players[outcome.playerId]? = some (advancedPlayer player policy rawExperience)
  vitals_after : w'.playerVitals[outcome.playerId]? =
    some (if 0 < (advancedPlayer player policy rawExperience).level - player.level then
      (gainsOf gains progression.vocation).apply vitals
        ((advancedPlayer player policy rawExperience).level - player.level) else vitals)
  level : outcome.level = (advancedPlayer player policy rawExperience).level
  experience : outcome.experience = (advancedPlayer player policy rawExperience).experience
  vitals : outcome.vitals = (gainsOf gains progression.vocation).apply vitals
    ((advancedPlayer player policy rawExperience).level - player.level)

/-- Nothing has changed for a player. -/
def SameStanding (w w' : GameWorld) (p : ℕ) : Prop :=
  w'.players[p]? = w.players[p]? ∧ w'.playerVitals[p]? = w.playerVitals[p]?

/-- What one award reports. -/
def awardOutcome (rawExperience : ℕ) (policy : ExperienceAwardPolicy) (gains : VocationLevelUpGains)
    (p : ℕ) (player : Player) (vitals : PlayerVitals) : PlayerExperienceAwardOutcome :=
  let advanced := advancedPlayer player policy rawExperience
  ⟨p, rawExperience, policy.awardFor player.level rawExperience, advanced.experience,
    advanced.level, advanced.level - player.level, gains.apply vitals (advanced.level - player.level)⟩

/-- The world one award leaves, but for the revision. -/
def awardedWorld (w : GameWorld) (outcome : PlayerExperienceAwardOutcome) (advanced : Player) :
    GameWorld :=
  let w := w.putPlayer outcome.playerId advanced
  if 0 < outcome.gainedLevels then w.putVitals outcome.playerId outcome.vitals else w

theorem award_run (rawExperience : ℕ) (policy : ExperienceAwardPolicy)
    (gains : VocationLevelUpGains) {player : Player} {vitals : PlayerVitals}
    (hplayer : w.players[p]? = some player) (hvitals : w.playerVitals[p]? = some vitals) :
    awardPlayerExperienceWithVocationGains p rawExperience policy gains w =
      (.ok (awardOutcome rawExperience policy gains p player vitals),
        let w := awardedWorld w (awardOutcome rawExperience policy gains p player vitals)
          (advancedPlayer player policy rawExperience)
        if 0 < policy.awardFor player.level rawExperience then (markChanged w).2 else w) := by
  have hread : playerVitals p w = (.ok vitals, w) := readOr_of_some _ hvitals
  have hrequire : requirePlayer p w = (.ok player, w) := readOr_of_some _ hplayer
  unfold awardPlayerExperienceWithVocationGains
  rw [bind_of_ok hread, bind_of_ok hrequire]
  by_cases hawarded : 0 < policy.awardFor player.level rawExperience
  · simp only [awardOutcome, awardedWorld, advancedPlayer, if_pos hawarded]
    split
    · rfl
    · rfl
  · simp only [awardOutcome, awardedWorld, advancedPlayer, if_neg hawarded]
    split
    · rfl
    · rfl

/-- One award. -/
theorem award_shared {progression : PlayerProgression} {outcome : PlayerExperienceAwardOutcome}
    (hprogression : w.playerProgressions[p]? = some progression)
    (h : awardPlayerExperienceWithVocationGains p rawExperience policy
      (gainsOf gains progression.vocation) w = (.ok outcome, w')) :
    outcome.playerId = p ∧
      (∃ player vitals,
        Shared rawExperience policy gains w w' outcome player vitals progression) ∧
      w'.playerProgressions = w.playerProgressions ∧ ∀ q ≠ p, SameStanding w w' q := by
  cases hvitals : w.playerVitals[p]? with
  | none =>
    have hread : playerVitals p w = (.error (.unknownPlayer p), w) := readOr_of_none _ hvitals
    unfold awardPlayerExperienceWithVocationGains at h
    rw [bind_of_error hread] at h
    cases h
  | some vitals =>
    cases hplayer : w.players[p]? with
    | none =>
      have hread : playerVitals p w = (.ok vitals, w) := readOr_of_some _ hvitals
      have hrequire : requirePlayer p w = (.error (.unknownPlayer p), w) :=
        readOr_of_none _ hplayer
      unfold awardPlayerExperienceWithVocationGains at h
      rw [bind_of_ok hread, bind_of_error hrequire] at h
      cases h
    | some player =>
      rw [award_run rawExperience policy _ hplayer hvitals, Prod.mk.injEq, Except.ok.injEq] at h
      obtain ⟨rfl, hworld⟩ := h
      have hmarked : w'.players = w.players.insert p (advancedPlayer player policy rawExperience) ∧
          w'.playerVitals = (awardedWorld w (awardOutcome rawExperience policy
            (gainsOf gains progression.vocation) p player vitals)
            (advancedPlayer player policy rawExperience)).playerVitals ∧
          w'.playerProgressions = w.playerProgressions := by
        rw [← hworld]
        unfold awardedWorld
        dsimp only
        split_ifs
        · exact ⟨rfl, rfl, rfl⟩
        · exact ⟨rfl, rfl, rfl⟩
        · exact ⟨rfl, rfl, rfl⟩
        · exact ⟨rfl, rfl, rfl⟩
      obtain ⟨hplayers, hraised, hkept⟩ := hmarked
      have hafter : w'.playerVitals =
          if 0 < (advancedPlayer player policy rawExperience).level - player.level then
            w.playerVitals.insert p ((gainsOf gains progression.vocation).apply vitals
              ((advancedPlayer player policy rawExperience).level - player.level))
          else w.playerVitals := by
        rw [hraised, awardedWorld]
        exact apply_ite (fun w : GameWorld => w.playerVitals) _ _ _
      refine ⟨rfl, ⟨player, vitals, hplayer, hvitals, hprogression, ?_, ?_, rfl, rfl, rfl⟩, hkept,
        fun q hq => ⟨?_, ?_⟩⟩
      · rw [hplayers]
        exact Std.ExtTreeMap.getElem?_insert_self
      · rw [hafter]
        split
        · exact Std.ExtTreeMap.getElem?_insert_self
        · exact hvitals
      · rw [hplayers, Std.ExtTreeMap.getElem?_insert, if_neg (by simpa using Ne.symm hq)]
      · rw [hafter]
        split
        · rw [Std.ExtTreeMap.getElem?_insert, if_neg (by simpa using Ne.symm hq)]
        · rfl

/-- **The awards of all recipients**: each gets a share of the world they start from, and nobody
else changes. -/
theorem awardRecipients_shared {recipientIds : List ℕ}
    {outcomes : List PlayerExperienceAwardOutcome}
    (h : awardRecipients rawExperience policy gains recipientIds w = (.ok outcomes, w')) :
    outcomes.map (·.playerId) = recipientIds ∧
      (recipientIds.Nodup → ∀ outcome ∈ outcomes, ∃ player vitals progression,
        Shared rawExperience policy gains w w' outcome player vitals progression) ∧
      w'.playerProgressions = w.playerProgressions ∧
      ∀ q ∉ recipientIds, SameStanding w w' q := by
  induction recipientIds generalizing w outcomes with
  | nil =>
    cases h
    exact ⟨rfl, fun _ _ h => absurd h List.not_mem_nil, rfl, fun _ _ => ⟨rfl, rfl⟩⟩
  | cons p recipientIds ih =>
    rw [awardRecipients] at h
    obtain ⟨progression, w₀, hread, hawards⟩ := bind_eq_ok.mp h
    obtain ⟨hprogression, rfl⟩ := readOr_eq_ok.mp hread
    obtain ⟨first, w₁, hfirst, hlater⟩ := bind_eq_ok.mp hawards
    obtain ⟨rest, w₂, hrest, hreturn⟩ := bind_eq_ok.mp hlater
    cases hreturn
    obtain ⟨rfl, ⟨player, vitals, hshared⟩, hkept, hothers⟩ := award_shared hprogression hfirst
    obtain ⟨hids, hall, hkept', hothers'⟩ := ih hrest
    refine ⟨by rw [List.map_cons, hids], ?_, hkept'.trans hkept, ?_⟩
    · intro hnodup outcome houtcome
      obtain ⟨hnew, hnodup⟩ := List.nodup_cons.mp hnodup
      rcases List.mem_cons.mp houtcome with rfl | houtcome
      · -- the later awards are for others
        obtain ⟨hplayers, hvitals⟩ := hothers' _ hnew
        exact ⟨player, vitals, progression, hshared.player_before, hshared.vitals_before,
          hshared.progression_before, hplayers.trans hshared.player_after,
          hvitals.trans hshared.vitals_after, hshared.level, hshared.experience, hshared.vitals⟩
      · obtain ⟨player', vitals', progression', hlater⟩ := hall hnodup outcome houtcome
        have hne : outcome.playerId ≠ first.playerId := by
          intro hsame
          refine hnew ?_
          rw [← hids, ← hsame]
          exact List.mem_map_of_mem houtcome
        obtain ⟨hplayers, hvitals⟩ := hothers _ hne
        exact ⟨player', vitals', progression', hplayers.symm.trans hlater.player_before,
          hvitals.symm.trans hlater.vitals_before, hkept ▸ hlater.progression_before,
          hlater.player_after, hlater.vitals_after, hlater.level, hlater.experience, hlater.vitals⟩
    · intro q hq
      rw [List.mem_cons, not_or] at hq
      obtain ⟨hplayers, hvitals⟩ := hothers q hq.1
      obtain ⟨hplayers', hvitals'⟩ := hothers' q hq.2
      exact ⟨hplayers'.trans hplayers, hvitals'.trans hvitals⟩

end Shares

/-! ### All or nothing -/

/-- A player has got a share in the world, and it is stored. -/
def GotShare (rawExperience : ℕ) (policy : ExperienceAwardPolicy)
    (gains : Option (BTreeMap ℕ VocationLevelUpGains)) (s t : AwardState) (p : ℕ) : Prop :=
  ∃ player vitals progression, ∃ outcome : PlayerExperienceAwardOutcome, outcome.playerId = p ∧
    Shared rawExperience policy gains s.world t.world outcome player vitals progression ∧
    t.rows[p]? = (t.world.players[p]?.bind fun player => t.world.playerVitals[p]?.map fun vitals =>
      ⟨player.level, asI64 player.experience, vitals⟩)

theorem staged_cases {α : Type} (method : GameM α) (s : AwardState) :
    (∃ e, staged method s = (.error e, s)) ∨
      ∃ a w, method s.world = (.ok a, w) ∧ staged method s = (.ok (a, w), s) := by
  unfold staged
  rcases method s.world with ⟨e | a, w⟩
  · exact .inl ⟨_, rfl⟩
  · exact .inr ⟨a, w, rfl, rfl⟩

/-- The batch goes through and the copy becomes the world, or nothing happens. -/
theorem persistAwards_cases (sqlite : SqliteOutcome) (outcomes : List PlayerExperienceAwardOutcome)
    (w : GameWorld) (outcome : PlayerExperienceAwardOutcome) (s : AwardState) :
    (persistAwards sqlite outcomes w outcome s).2 = s ∨
      ∃ rows t, updatePlayerExperienceAndVitalsBatch sqlite (outcomes.map (·.update)) s.rows =
          (.ok (), rows) ∧
        t.world = w ∧ t.rows = rows ∧
        persistAwards sqlite outcomes w outcome s = (.ok (some outcome), t) := by
  rcases hrun : updatePlayerExperienceAndVitalsBatch sqlite (outcomes.map (·.update)) s.rows with
    ⟨e | u, rows⟩
  · left
    have hkept : rows = s.rows := updateBatch_atomic _ _ _ hrun
    have hzoom : zoom AwardState.rows (fun s rows => { s with rows })
        (updatePlayerExperienceAndVitalsBatch sqlite (outcomes.map (·.update))) s =
        (.error e, s) := by
      simp only [zoom, hrun, hkept]
    unfold persistAwards
    rw [bind_of_error hzoom]
  · right
    have hzoom : zoom AwardState.rows (fun s rows => { s with rows })
        (updatePlayerExperienceAndVitalsBatch sqlite (outcomes.map (·.update))) s =
        (.ok (), { s with rows }) := by
      simp only [zoom, hrun]
    unfold persistAwards
    rw [bind_of_ok hzoom]
    by_cases hraised : outcomes.any fun outcome => 0 < outcome.gainedLevels
    · simp only [hraised, if_true]
      refine ⟨rows, _, hrun, ?_, ?_, rfl⟩
      · rfl
      · rfl
    · simp only [hraised]
      refine ⟨rows, _, hrun, ?_, ?_, rfl⟩
      · rfl
      · rfl

/-- A share of the world that is also in the batch. -/
theorem gotShare_of_stored {rawExperience : ℕ} {policy : ExperienceAwardPolicy}
    {gains : Option (BTreeMap ℕ VocationLevelUpGains)} {s t : AwardState}
    {outcome : PlayerExperienceAwardOutcome} {player : Player} {vitals : PlayerVitals}
    {progression : PlayerProgression} (hnarrow : vitals.IsNarrow)
    (hshared : Shared rawExperience policy gains s.world t.world outcome player vitals progression)
    (hstored : t.rows[outcome.playerId]? = some outcome.update.columns) :
    GotShare rawExperience policy gains s t outcome.playerId := by
  refine ⟨player, vitals, progression, outcome, rfl, hshared, ?_⟩
  have hvitals : outcome.vitals =
      if 0 < (advancedPlayer player policy rawExperience).level - player.level then
        (gainsOf gains progression.vocation).apply vitals
          ((advancedPlayer player policy rawExperience).level - player.level) else vitals := by
    rw [hshared.vitals]
    split
    · rfl
    · next hlevel => rw [Nat.eq_zero_of_not_pos hlevel, VocationLevelUpGains.apply_zero _ hnarrow]
  rw [hstored, hshared.player_after, hshared.vitals_after, ← hvitals]
  simp only [PlayerExperienceAwardOutcome.update, PlayerExperienceVitalsUpdate.columns,
    Option.bind_some, Option.map_some, hshared.level, hshared.experience]

/-- **All or nothing**: either nothing has changed, in the world or in the database, or every
recipient has got a share that is stored and equal to the one in the world, and nobody else has
changed. -/
theorem award_allOrNothing (sqlite : SqliteOutcome) (request : AwardRequest) (s : AwardState)
    (hwidth : ∀ (p : ℕ) (vitals : PlayerVitals), s.world.playerVitals[p]? = some vitals →
      vitals.IsNarrow) :
    (applyAndPersistNativeStaticDefeatExperience sqlite request s).2 = s ∨
      ∃ policy rawExperience recipientIds outcome t,
        request.policy = some policy ∧
        s.experienceRewards[request.creatureId]? = some rawExperience ∧
        (request.recipientIds s.world).1 = .ok recipientIds ∧
        applyAndPersistNativeStaticDefeatExperience sqlite request s = (.ok (some outcome), t) ∧
        (∀ p ∈ recipientIds, GotShare rawExperience policy request.vocationLevelUpGains s t p) ∧
        ∀ p ∉ recipientIds, SameStanding s.world t.world p ∧ t.rows[p]? = s.rows[p]? := by
  cases hpolicy : request.policy with
  | none =>
    left
    simp only [applyAndPersistNativeStaticDefeatExperience, hpolicy]
    rfl
  | some policy =>
  cases hreward : s.experienceRewards[request.creatureId]? with
  | none =>
    left
    have hread : (readOr (·.experienceRewards[request.creatureId]?)
        (.core (.unknownStaticCreature request.creatureId)) : AwardM ℕ) s =
        (.error (.core (.unknownStaticCreature request.creatureId)), s) := readOr_of_none _ hreward
    simp only [applyAndPersistNativeStaticDefeatExperience, hpolicy]
    rw [bind_of_error hread]
  | some rawExperience =>
  have hread : (readOr (·.experienceRewards[request.creatureId]?)
      (.core (.unknownStaticCreature request.creatureId)) : AwardM ℕ) s =
      (.ok rawExperience, s) := readOr_of_some _ hreward
  simp only [applyAndPersistNativeStaticDefeatExperience, hpolicy]
  rw [bind_of_ok hread]
  by_cases hraw : rawExperience = 0
  · left
    rw [if_pos hraw]
    rfl
  rw [if_neg hraw]
  rcases staged_cases request.recipientIds s with ⟨e, hstaged⟩ | ⟨recipientIds, w₀, hids, hstaged⟩
  · left
    rw [bind_of_error hstaged]
  rw [bind_of_ok hstaged]
  rcases staged_cases (awardRecipients rawExperience policy request.vocationLevelUpGains
    recipientIds) s with ⟨e, hawards⟩ | ⟨outcomes, w, hrun, hawards⟩
  · left
    rw [bind_of_error hawards]
  simp only [bind_of_ok hawards]
  cases hown : outcomes.find? fun outcome => outcome.playerId = request.playerId with
  | none =>
    left
    rfl
  | some outcome =>
  by_cases hnothing : outcome.awardedExperience = 0
  · left
    simp only [hnothing, if_true]
    rfl
  simp only [hnothing, if_false]
  rcases persistAwards_cases sqlite outcomes w outcome s with
    hkept | ⟨rows, t, hbatch, rfl, rfl, ht⟩
  · exact .inl hkept
  · right
    obtain ⟨hnodup, hstored, hunchanged⟩ := updateBatch_eq_ok hbatch
    have hsame : (outcomes.map (·.update)).map (·.playerId) = outcomes.map (·.playerId) := by
      rw [List.map_map]
      rfl
    obtain ⟨hrecipients, hshares, -, hothers⟩ := awardRecipients_shared hrun
    rw [hsame, hrecipients] at hnodup hunchanged
    refine ⟨policy, rawExperience, recipientIds, outcome, t, rfl, rfl, by rw [hids], ht, ?_, ?_⟩
    · intro p hp
      rw [← hrecipients] at hp
      obtain ⟨share, hshare, rfl⟩ := List.mem_map.mp hp
      obtain ⟨player, vitals, progression, hshared⟩ := hshares hnodup share hshare
      exact gotShare_of_stored (hwidth _ _ hshared.vitals_before) hshared
        (hstored _ (List.mem_map_of_mem hshare))
    · exact fun p hp => ⟨hothers p hp, hunchanged p hp⟩

/-- A hunter in the world and in the database. -/
def hunterState : AwardState where
  world := { GameWorld.empty with
    players := (∅ : BTreeMap ℕ Player).insert 7 ⟨7, 1, "Hunter", ⟨100, 100, 7⟩, 1, 0, 0⟩
    playerVitals := (∅ : BTreeMap ℕ PlayerVitals).insert 7 {}
    playerProgressions := (∅ : BTreeMap ℕ PlayerProgression).insert 7 {} }
  rows := (∅ : BTreeMap ℕ ExperienceColumns).insert 7 ⟨1, 0, {}⟩
  experienceRewards := (∅ : BTreeMap ℕ ℕ).insert 2 500
  vitalsEpoch := 0

/-- The hunter defeats a creature. -/
def hunterRequest : AwardRequest := ⟨7, 2, some ⟨1, []⟩, none, none⟩

theorem award_hunterState :
    ∃ outcome t, applyAndPersistNativeStaticDefeatExperience ⟨true, fun _ => true, true⟩
        hunterRequest hunterState = (.ok (some outcome), t) ∧
      GotShare 500 ⟨1, []⟩ none hunterState t 7 := by
  have hwidth (p : ℕ) (vitals : PlayerVitals)
      (h : hunterState.world.playerVitals[p]? = some vitals) : vitals.IsNarrow := by
    simp only [hunterState, Std.ExtTreeMap.getElem?_insert] at h
    split at h
    · cases h
      exact ⟨by decide, by decide, by decide, by decide, by decide⟩
    · simp at h
  rcases award_allOrNothing ⟨true, fun _ => true, true⟩ hunterRequest hunterState hwidth with
    hsame | ⟨policy, raw, ids, outcome, t, hpolicy, hraw, hids, hrun, hall, -⟩
  · -- the hunter has gained a level
    have hepoch := congrArg AwardState.vitalsEpoch hsame
    have hraised : (applyAndPersistNativeStaticDefeatExperience ⟨true, fun _ => true, true⟩
        hunterRequest hunterState).2.vitalsEpoch = 1 := by decide +kernel
    rw [hraised] at hepoch
    cases hepoch
  · have hreward : hunterState.experienceRewards[hunterRequest.creatureId]? = some 500 :=
      Std.ExtTreeMap.getElem?_insert_self
    rw [hreward] at hraw
    cases hpolicy
    cases hraw
    cases hids
    exact ⟨outcome, t, hrun, hall 7 (List.mem_singleton_self 7)⟩

end ForgottenEngine
