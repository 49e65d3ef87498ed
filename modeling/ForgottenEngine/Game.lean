import ForgottenEngine.CreatureMoves
import ForgottenEngine.Party
import ForgottenEngine.Progression
import ForgottenEngine.WorldEvents

/-!
# The whole world

`GameWorld` is `WorldState` of the source with every table: the inventories and trades of
`WorldState`, what moves and dies in `LivingWorld`, the parties, and the remaining tables that
carry one value for each player.  The methods of the parts run on the whole through `living` and
`inventory`; those that span several parts are defined here and in `PlayerLife`.

This module has the registration of players and the party methods.
-/

namespace ForgottenEngine

open Fallible

structure GameWorld extends LivingWorld where
  playerProgressions : BTreeMap ℕ PlayerProgression
  playerProgressionAttempts : BTreeMap ℕ PlayerProgressionAttempts
  playerTowns : BTreeMap ℕ ℕ
  playerRegenerationSchedules : BTreeMap ℕ PlayerRegenerationSchedule
  playerFoodWindows : BTreeMap ℕ PlayerFoodWindow
  playerGodMode : BTreeSet ℕ
  playerInvisible : BTreeSet ℕ
  playerCombatDefenses : BTreeMap ℕ PlayerCombatDefense
  playerFightModes : BTreeMap ℕ PlayerFightModeState
  playerCombatCooldowns : BTreeMap ℕ PlayerCombatCooldown
  playerSpellCooldowns : BTreeMap ℕ PlayerSpellCooldown
  playerFrags : BTreeMap ℕ ℕ
  party : PartyTables

/-- A method on the whole world. -/
abbrev GameM (α : Type) := Fallible CoreError GameWorld α

namespace GameWorld

def empty : GameWorld :=
  ⟨.empty, ∅, ∅, ∅, ∅, ∅, ∅, ∅, ∅, ∅, ∅, ∅, ∅, .empty⟩

instance : Inhabited GameWorld := ⟨empty⟩

def putLiving (w : GameWorld) (l : LivingWorld) : GameWorld := { w with toLivingWorld := l }

def putInventory (w : GameWorld) (s : WorldState) : GameWorld := { w with toWorldState := s }

def putParty (w : GameWorld) (party : PartyTables) : GameWorld := { w with party }

/-- The player is in the world. -/
def IsRegistered (w : GameWorld) (playerId : ℕ) : Prop := ∃ player, w.players[playerId]? = some player

end GameWorld

namespace Game

/-- A method of the living world. -/
def living {α : Type} (method : LivingM α) : GameM α :=
  zoom GameWorld.toLivingWorld GameWorld.putLiving method

/-- A method of the inventories and trades. -/
def inventory {α : Type} (method : WorldM α) : GameM α :=
  zoom (fun w : GameWorld => w.toWorldState) GameWorld.putInventory method

def markChanged : GameM Unit := living Living.markChanged

def requirePlayer (playerId : ℕ) : GameM Player :=
  readOr (·.players[playerId]?) (.unknownPlayer playerId)

def playerVitals (playerId : ℕ) : GameM PlayerVitals :=
  readOr (·.playerVitals[playerId]?) (.unknownPlayer playerId)

def playerRespawnState (playerId : ℕ) : GameM PlayerRespawnState :=
  readOr (·.playerRespawnStates[playerId]?) (.unknownPlayer playerId)

/-! ### Registration -/

def addPlayerWithVitalsAndProgression (player : Player) (vitals : PlayerVitals)
    (progression : PlayerProgression) : GameM Unit := do
  living (Living.addPlayerWithVitals player vitals)
  write fun w => { w with
    playerProgressions := w.playerProgressions.insert player.id progression
    playerProgressionAttempts := w.playerProgressionAttempts.insert player.id {}
    playerTowns := w.playerTowns.insert player.id 0
    playerRegenerationSchedules := w.playerRegenerationSchedules.insert player.id {}
    playerCombatDefenses := w.playerCombatDefenses.insert player.id {}
    playerFightModes := w.playerFightModes.insert player.id {}
    playerCombatCooldowns := w.playerCombatCooldowns.insert player.id {}
    playerSpellCooldowns := w.playerSpellCooldowns.insert player.id {} }

/-- Food windows, the two operator flags, frags and an open trade stay behind. -/
def removePlayer (playerId : ℕ) : GameM Player := do
  let player ← living (Living.removePlayer playerId)
  write fun w => { w with
    playerProgressions := w.playerProgressions.erase playerId
    playerProgressionAttempts := w.playerProgressionAttempts.erase playerId
    playerTowns := w.playerTowns.erase playerId
    playerRegenerationSchedules := w.playerRegenerationSchedules.erase playerId
    playerCombatDefenses := w.playerCombatDefenses.erase playerId
    playerFightModes := w.playerFightModes.erase playerId
    playerCombatCooldowns := w.playerCombatCooldowns.erase playerId
    playerSpellCooldowns := w.playerSpellCooldowns.erase playerId
    party := w.party.clearPlayerPartyState playerId }
  return player

/-! ### Parties -/

def ensurePartyPlayerExists (playerId : ℕ) : GameM Unit := do
  let _ ← requirePlayer playerId

/-- One operation on the party tables. -/
def onParty (operation : PartyTables → Except CoreError PartyTables) : GameM Unit := do
  let current ← read GameWorld.party
  let party ← ofExcept (operation current)
  write (·.putParty party)

/-- The form most party methods have: two known players, one operation, one revision. -/
def betweenPlayers (playerId otherId : ℕ)
    (operation : PartyTables → Except CoreError PartyTables) : GameM Unit := do
  ensurePartyPlayerExists playerId
  ensurePartyPlayerExists otherId
  onParty operation
  markChanged

def inviteToParty (leaderId inviteeId : ℕ) : GameM Unit :=
  betweenPlayers leaderId inviteeId (·.invite leaderId inviteeId)

def acceptPartyInvitation (inviteeId leaderId : ℕ) : GameM Unit :=
  betweenPlayers inviteeId leaderId (·.accept inviteeId leaderId)

def transferPartyLeadership (leaderId newLeaderId : ℕ) : GameM Unit :=
  betweenPlayers leaderId newLeaderId (·.transferLeadership leaderId newLeaderId)

def revokePartyInvitation (leaderId inviteeId : ℕ) : GameM Unit :=
  betweenPlayers leaderId inviteeId (·.revoke leaderId inviteeId)

def leaveParty (playerId : ℕ) : GameM Unit := do
  ensurePartyPlayerExists playerId
  onParty (·.leaveParty playerId)
  markChanged

/-- Check one member of a snapshot. -/
def admitRestoredMember (_ : Unit) (memberId : ℕ) : GameM Unit := do
  ensurePartyPlayerExists memberId
  let party ← read GameWorld.party
  if party.isAffiliated memberId then
    fail (.invalidPartySnapshot "member already holds live party state")
  else pure ()

/-- Restore a stored party; invitations the members hold stay. -/
def restorePartySnapshot (leaderId : ℕ) (members : List ℕ) : GameM Unit := do
  if ¬members.Nodup then fail (.invalidPartySnapshot "party snapshot contains duplicate members")
  else if leaderId ∈ members then
    fail (.invalidPartySnapshot "party snapshot members must not list the leader")
  else
    ensurePartyPlayerExists leaderId
    let party ← read GameWorld.party
    if party.isAffiliated leaderId then
      fail (.invalidPartySnapshot "leader already holds live party state")
    else
      let unique := members.insertionSort (· ≤ ·)
      unique.foldlM admitRestoredMember ()
      write fun w => w.putParty (w.party.attach leaderId unique)

/-- Attach a player to a live party; an invitation of that party stays. -/
def addExistingPartyMember (leaderId playerId : ℕ) : GameM Unit := do
  if playerId = leaderId then
    fail (.invalidPartySnapshot "leader cannot be added as a member of itself")
  else
    ensurePartyPlayerExists leaderId
    ensurePartyPlayerExists playerId
    let party ← read GameWorld.party
    if leaderId ∉ party.leaders then fail (.playerNotInParty leaderId)
    else if party.isAffiliated playerId then fail (.playerNotInPartyFree playerId)
    else write fun w => w.putParty (w.party.attach leaderId [playerId])

/-! ### Shared experience -/

structure PartySharedExperienceRules where
  maximumRange : ℕ := 30
  maximumFloorDelta : ℕ := 1
  activityWindowTicks : ℕ := 60
deriving DecidableEq, Repr

inductive PartySharedExperienceEligibility where
  | notRequested | eligible | emptyParty | levelSpreadTooLarge | tooFarAway | memberInactive
deriving DecidableEq, Repr

structure PartySharedExperienceState where
  requested : Bool
  eligibility : PartySharedExperienceEligibility
deriving DecidableEq, Repr

/-- Why one participant keeps the party from sharing. -/
def participantRefusal (w : GameWorld) (rules : PartySharedExperienceRules) (minimumLevel : ℕ)
    (leader : Player) (participantId : ℕ) : Option PartySharedExperienceEligibility :=
  match w.players[participantId]? with
  | none => some .levelSpreadTooLarge
  | some participant =>
    let range := max (Position.absDiff participant.position.x leader.position.x)
      (Position.absDiff participant.position.y leader.position.y)
    let active := w.party.sharedExperienceActivityTicks[participantId]?.any fun tick =>
      w.tick - tick ≤ rules.activityWindowTicks
    if participant.level < minimumLevel then some .levelSpreadTooLarge
    else if rules.maximumRange < range ∨ rules.maximumFloorDelta <
        Position.absDiff participant.position.z leader.position.z then some .tooFarAway
    else if ¬active then some .memberInactive
    else none

/-- Whether a requested party of these members may share. -/
def sharingEligibility (w : GameWorld) (leaderId : ℕ) (memberIds : List ℕ)
    (rules : PartySharedExperienceRules) : PartySharedExperienceEligibility :=
  let participantIds := leaderId :: memberIds
  let highestLevel :=
    (participantIds.filterMap fun id => w.players[id]?.map Player.level).foldl max 0
  let minimumLevel := min (min (highestLevel * 2) u32Max + 2) u32Max / 3
  match w.players[leaderId]? with
  | none => .levelSpreadTooLarge
  | some leader =>
    (participantIds.findSome? (participantRefusal w rules minimumLevel leader)).getD .eligible

def partySharedExperienceState (leaderId : ℕ) (rules : PartySharedExperienceRules) :
    GameM PartySharedExperienceState := do
  ensurePartyPlayerExists leaderId
  let w ← read id
  if leaderId ∉ w.party.leaders then fail (.playerNotInParty leaderId)
  else if leaderId ∉ w.party.sharedExperienceRequested then return ⟨false, .notRequested⟩
  else if w.party.memberIds leaderId = [] then return ⟨true, .emptyParty⟩
  else return ⟨true, sharingEligibility w leaderId (w.party.memberIds leaderId) rules⟩

def setPartySharedExperienceRequested (leaderId : ℕ) (requested : Bool)
    (rules : PartySharedExperienceRules) : GameM PartySharedExperienceState := do
  ensurePartyPlayerExists leaderId
  let party ← read GameWorld.party
  if leaderId ∉ party.leaders then fail (.playerNotInParty leaderId)
  else
    let requests := party.sharedExperienceRequested
    write fun w => w.putParty { w.party with
      sharedExperienceRequested :=
        if requested then requests.insert leaderId else requests.erase leaderId }
    if requested ≠ decide (leaderId ∈ requests) then markChanged
    partySharedExperienceState leaderId rules

def recordPartySharedExperienceActivity (playerId : ℕ) : GameM Unit := do
  ensurePartyPlayerExists playerId
  let w ← read id
  if w.party.playerPartyLeader playerId = none then fail (.playerNotInParty playerId)
  else
    let ticks := w.party.sharedExperienceActivityTicks
    write (·.putParty { w.party with
      sharedExperienceActivityTicks := ticks.insert playerId w.tick })
    if ticks[playerId]? ≠ some w.tick then markChanged

end Game

end ForgottenEngine
