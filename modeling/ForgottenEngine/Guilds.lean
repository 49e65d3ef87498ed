import ForgottenEngine.Creatures
import ForgottenEngine.Library.Relations
import ForgottenEngine.Library.Run

/-!
# Guilds

The guild tables of the database and the operations that write them.  Every operation is one
transaction; a refused one leaves the tables as they are.

The uniqueness constraints of the schema are part of the types of the tables: a player is a member
of one guild, and the levels and the names of the ranks of a guild are different.  Everything else a
guild relies on is up to the operations.
-/

namespace ForgottenEngine

open Fallible

/-! ### Tables -/

structure GuildRecord where
  id : ℕ
  name : String
  ownerPlayerId : ℕ
  motd : String
deriving DecidableEq, Repr

structure GuildRankRecord where
  id : ℕ
  guildId : ℕ
  name : String
  level : ℕ
deriving DecidableEq, Repr

structure GuildMembershipRecord where
  playerId : ℕ
  guildId : ℕ
  rankId : ℕ
  nick : String
deriving DecidableEq, Repr

structure GuildInvitationRecord where
  playerId : ℕ
  guildId : ℕ
deriving DecidableEq, Repr

/-- `id PRIMARY KEY, name UNIQUE, owner_player_id UNIQUE` -/
def GuildRecord.clashes (a b : GuildRecord) : Bool :=
  a.id = b.id ∨ a.name = b.name ∨ a.ownerPlayerId = b.ownerPlayerId

/-- `id PRIMARY KEY, UNIQUE (guild_id, level), UNIQUE (guild_id, name)` -/
def GuildRankRecord.clashes (a b : GuildRankRecord) : Bool :=
  a.id = b.id ∨ a.guildId = b.guildId ∧ (a.level = b.level ∨ a.name = b.name)

/-- `player_id PRIMARY KEY` -/
def GuildMembershipRecord.clashes (a b : GuildMembershipRecord) : Bool := a.playerId = b.playerId

/-- `PRIMARY KEY (player_id, guild_id)` -/
def GuildInvitationRecord.clashes (a b : GuildInvitationRecord) : Bool := a = b

/-- The players, and the four tables of the guilds. -/
structure GuildDatabase where
  players : List ℕ
  guilds : Rows GuildRecord GuildRecord.clashes
  guildRanks : Rows GuildRankRecord GuildRankRecord.clashes
  guildMembership : Rows GuildMembershipRecord GuildMembershipRecord.clashes
  guildInvitations : Rows GuildInvitationRecord GuildInvitationRecord.clashes

/-- The variants of `PersistenceError` these operations return. -/
inductive GuildError where
  | unknownPlayer (playerId : ℕ)
  | unknownGuild (guildId : ℕ)
  | invalidGuildRecord (message : String)
  | guildOwnerAlreadyMember (playerId : ℕ)
  | guildMemberAlreadyAssigned (playerId : ℕ)
  | unknownGuildMember (guildId playerId : ℕ)
  | guildOwnerCannotLeave (guildId playerId : ℕ)
  | guildOwnershipTargetNotMember (guildId playerId : ℕ)
  | guildInviteeAlreadyMember (guildId playerId : ℕ)
  | duplicateGuildInvitation (guildId playerId : ℕ)
  | unknownGuildInvitation (guildId playerId : ℕ)
  | guildInvitationCapExceeded (guildId : ℕ)
  | guildRankOutsideGuild (guildId rankId : ℕ)
  | guildRankCapExceeded (guildId : ℕ)
  | guildRankInUse (guildId rankId : ℕ)
  | duplicateGuildRank (guildId : ℕ)
  | sql
deriving DecidableEq, Repr

def maxGuildNameBytes : ℕ := 64

def maxGuildMotdBytes : ℕ := 255

def maxGuildNickBytes : ℕ := 15

def maxGuildRankNameBytes : ℕ := 64

def maxGuildRanksPerGuild : ℕ := 20

def maxGuildInvitationsPerGuild : ℕ := 20

abbrev GuildM (α : Type) := Fallible GuildError GuildDatabase α

namespace Guild

open GuildError

/-! ### Checks and statements -/

/-- A text that may not be blank. -/
def validatedText (label value : String) (maxBytes : ℕ) : GuildM Unit :=
  if (trim value).isEmpty ∨ maxBytes < value.utf8ByteSize then
    fail (.invalidGuildRecord s!"{label} must be nonempty and at most {maxBytes} bytes")
  else pure ()

/-- A text that may be blank. -/
def validatedNote (label value : String) (maxBytes : ℕ) : GuildM Unit :=
  if maxBytes < value.utf8ByteSize then
    fail (.invalidGuildRecord s!"{label} exceeds {maxBytes} bytes")
  else pure ()

def validatedGuildName (value : String) : GuildM Unit :=
  validatedText "guild name" value maxGuildNameBytes

def validatedGuildRankName (value : String) : GuildM Unit :=
  validatedText "guild rank name" value maxGuildRankNameBytes

def validatedGuildMotd (value : String) : GuildM Unit :=
  validatedNote "guild motd" value maxGuildMotdBytes

def validatedGuildNick (value : String) : GuildM Unit :=
  validatedNote "guild nick" value maxGuildNickBytes

def ensurePlayerExists (playerId : ℕ) : GuildM Unit :=
  require (fun s => playerId ∈ s.players) (.unknownPlayer playerId)

def ensureGuildExists (guildId : ℕ) : GuildM Unit :=
  require (fun s => s.guilds.existsWhere (·.id = guildId)) (.unknownGuild guildId)

def guildById (guildId : ℕ) : GuildM GuildRecord :=
  readOr (fun s => s.guilds.find? (·.id = guildId)) (.unknownGuild guildId)

def memberByPlayer (playerId : ℕ) (error : GuildError) : GuildM GuildMembershipRecord :=
  readOr (fun s => s.guildMembership.find? (·.playerId = playerId)) error

def rankById (guildId rankId : ℕ) : GuildM GuildRankRecord :=
  readOr (fun s => s.guildRanks.find? (·.id = rankId)) (.guildRankOutsideGuild guildId rankId)

/-- The rank of a guild at a level that has to exist. -/
def requiredRank (guildId level : ℕ) (label : String) : GuildM GuildRankRecord :=
  readOr (fun s => s.guildRanks.find? fun rank => rank.guildId = guildId ∧ rank.level = level)
    (.invalidGuildRecord s!"guild is missing its required {label} rank")

def isMember (playerId : ℕ) (s : GuildDatabase) : Bool :=
  s.guildMembership.existsWhere (·.playerId = playerId)

def isInvited (guildId playerId : ℕ) (s : GuildDatabase) : Bool :=
  s.guildInvitations.existsWhere fun i => i.guildId = guildId ∧ i.playerId = playerId

def insertGuild (row : GuildRecord) : GuildM Unit :=
  execute (fun s => (s.guilds.insert row).map fun guilds => { s with guilds }) .sql

def updateGuild (guildId : ℕ) (f : GuildRecord → GuildRecord) : GuildM Unit :=
  execute (fun s => (s.guilds.update (·.id = guildId) f).map fun guilds => { s with guilds }) .sql

def insertRank (row : GuildRankRecord) : GuildM Unit :=
  execute (fun s => (s.guildRanks.insert row).map fun guildRanks => { s with guildRanks }) .sql

def updateRank (rankId : ℕ) (f : GuildRankRecord → GuildRankRecord) : GuildM Unit :=
  execute (fun s => (s.guildRanks.update (·.id = rankId) f).map fun guildRanks =>
    { s with guildRanks }) .sql

def insertMember (row : GuildMembershipRecord) : GuildM Unit :=
  execute (fun s => (s.guildMembership.insert row).map fun guildMembership =>
    { s with guildMembership }) .sql

def updateMember (playerId : ℕ) (f : GuildMembershipRecord → GuildMembershipRecord) : GuildM Unit :=
  execute (fun s => (s.guildMembership.update (·.playerId = playerId) f).map fun guildMembership =>
    { s with guildMembership }) .sql

def insertInvitation (row : GuildInvitationRecord) : GuildM Unit :=
  execute (fun s => (s.guildInvitations.insert row).map fun guildInvitations =>
    { s with guildInvitations }) .sql

def deleteInvitations (p : GuildInvitationRecord → Bool) : GuildM Unit :=
  write fun s => { s with guildInvitations := s.guildInvitations.delete p }

def deleteMembers (p : GuildMembershipRecord → Bool) : GuildM Unit :=
  write fun s => { s with guildMembership := s.guildMembership.delete p }

def deleteRanks (p : GuildRankRecord → Bool) : GuildM Unit :=
  write fun s => { s with guildRanks := s.guildRanks.delete p }

/-- A new rank under the next identifier. -/
def newRank (guildId : ℕ) (name : String) (level : ℕ) : GuildM GuildRankRecord := do
  let id ← read fun s => s.guildRanks.nextRowid GuildRankRecord.id
  insertRank ⟨id, guildId, name, level⟩
  return ⟨id, guildId, name, level⟩

/-! ### Operations -/

/-- Found a guild with its three ranks and its owner as the leader.  The invitations of the owner
stay. -/
def createGuild (ownerPlayerId : ℕ) (name motd : String) : GuildM GuildRecord := transaction do
  ensurePlayerExists ownerPlayerId
  validatedGuildName name
  validatedGuildMotd motd
  require (fun s => !isMember ownerPlayerId s) (.guildOwnerAlreadyMember ownerPlayerId)
  let guildId ← read fun s => s.guilds.nextRowid GuildRecord.id
  insertGuild ⟨guildId, name, ownerPlayerId, motd⟩
  let leader ← newRank guildId "the Leader" 3
  let _ ← newRank guildId "a Vice-Leader" 2
  let _ ← newRank guildId "a Member" 1
  insertMember ⟨ownerPlayerId, guildId, leader.id, ""⟩
  return ⟨guildId, name, ownerPlayerId, motd⟩

def updateGuildMotd (guildId : ℕ) (motd : String) : GuildM GuildRecord := transaction do
  validatedGuildMotd motd
  let guild ← guildById guildId
  updateGuild guildId fun guild => { guild with motd }
  return { guild with motd }

/-- Store a member at the member rank, and drop the invitations of the player. -/
def joinAtMemberRank (guildId playerId : ℕ) : GuildM GuildMembershipRecord := do
  let memberRank ← requiredRank guildId 1 "member"
  insertMember ⟨playerId, guildId, memberRank.id, ""⟩
  deleteInvitations (·.playerId = playerId)
  return ⟨playerId, guildId, memberRank.id, ""⟩

def addGuildMember (guildId playerId : ℕ) : GuildM GuildMembershipRecord := transaction do
  ensurePlayerExists playerId
  ensureGuildExists guildId
  require (fun s => !isMember playerId s) (.guildMemberAlreadyAssigned playerId)
  joinAtMemberRank guildId playerId

def invitePlayerToGuild (guildId playerId : ℕ) : GuildM GuildInvitationRecord := transaction do
  ensurePlayerExists playerId
  ensureGuildExists guildId
  require (fun s => !isMember playerId s) (.guildInviteeAlreadyMember guildId playerId)
  require (fun s => !isInvited guildId playerId s) (.duplicateGuildInvitation guildId playerId)
  require (fun s => decide (s.guildInvitations.countWhere (·.guildId = guildId) <
    maxGuildInvitationsPerGuild)) (.guildInvitationCapExceeded guildId)
  insertInvitation ⟨playerId, guildId⟩
  return ⟨playerId, guildId⟩

def revokeGuildInvitation (guildId playerId : ℕ) : GuildM Unit := transaction do
  ensurePlayerExists playerId
  ensureGuildExists guildId
  require (isInvited guildId playerId) (.unknownGuildInvitation guildId playerId)
  deleteInvitations fun i => i.guildId = guildId ∧ i.playerId = playerId

def acceptGuildInvitation (guildId playerId : ℕ) : GuildM GuildMembershipRecord := transaction do
  ensurePlayerExists playerId
  ensureGuildExists guildId
  require (fun s => !isMember playerId s) (.guildMemberAlreadyAssigned playerId)
  require (isInvited guildId playerId) (.unknownGuildInvitation guildId playerId)
  joinAtMemberRank guildId playerId

def deleteGuild (guildId : ℕ) : GuildM GuildRecord := transaction do
  let guild ← guildById guildId
  deleteInvitations (·.guildId = guildId)
  deleteMembers (·.guildId = guildId)
  deleteRanks (·.guildId = guildId)
  write fun s => { s with guilds := s.guilds.delete (·.id = guildId) }
  return guild

def transferGuildOwnership (guildId newOwnerPlayerId : ℕ) : GuildM GuildRecord := transaction do
  ensurePlayerExists newOwnerPlayerId
  let guild ← guildById guildId
  if guild.ownerPlayerId = newOwnerPlayerId then return guild
  else
    let newOwner ← memberByPlayer newOwnerPlayerId
      (.guildOwnershipTargetNotMember guildId newOwnerPlayerId)
    require (fun _ => newOwner.guildId = guildId)
      (.guildOwnershipTargetNotMember guildId newOwnerPlayerId)
    let currentOwner ← memberByPlayer guild.ownerPlayerId
      (.invalidGuildRecord "guild owner is missing its required membership")
    require (fun _ => currentOwner.guildId = guildId)
      (.invalidGuildRecord "guild owner membership belongs to another guild")
    let leaderRank ← requiredRank guildId 3 "leader"
    let viceLeaderRank ← requiredRank guildId 2 "vice-leader"
    updateMember newOwnerPlayerId fun member => { member with rankId := leaderRank.id }
    updateMember guild.ownerPlayerId fun member => { member with rankId := viceLeaderRank.id }
    updateGuild guildId fun guild => { guild with ownerPlayerId := newOwnerPlayerId }
    return { guild with ownerPlayerId := newOwnerPlayerId }

def removeGuildMember (guildId playerId : ℕ) : GuildM Unit := transaction do
  let guild ← guildById guildId
  require (fun _ => guild.ownerPlayerId ≠ playerId) (.guildOwnerCannotLeave guildId playerId)
  let member ← memberByPlayer playerId (.unknownGuildMember guildId playerId)
  require (fun _ => member.guildId = guildId) (.unknownGuildMember guildId playerId)
  deleteMembers (·.playerId = playerId)

/-- Give a member a rank of its guild, whichever it is. -/
def assignGuildMemberRank (guildId playerId rankId : ℕ) : GuildM GuildMembershipRecord :=
  transaction do
    ensureGuildExists guildId
    let member ← memberByPlayer playerId (.unknownGuildMember guildId playerId)
    require (fun _ => member.guildId = guildId) (.unknownGuildMember guildId playerId)
    let rank ← rankById guildId rankId
    require (fun _ => rank.guildId = guildId) (.guildRankOutsideGuild guildId rankId)
    updateMember playerId fun member => { member with rankId }
    return { member with rankId }

def updateGuildMemberNick (guildId playerId : ℕ) (nick : String) : GuildM GuildMembershipRecord :=
  transaction do
    validatedGuildNick nick
    let member ← memberByPlayer playerId (.unknownGuildMember guildId playerId)
    require (fun _ => member.guildId = guildId) (.unknownGuildMember guildId playerId)
    updateMember playerId fun member => { member with nick }
    return { member with nick }

def addGuildRank (guildId : ℕ) (name : String) (level : ℕ) : GuildM GuildRankRecord :=
  transaction do
    validatedGuildRankName name
    require (fun _ => level ≠ 0)
      (.invalidGuildRecord "guild rank level must be between 1 and 255")
    ensureGuildExists guildId
    require (fun s => decide (s.guildRanks.countWhere (·.guildId = guildId) <
      maxGuildRanksPerGuild)) (.guildRankCapExceeded guildId)
    require (fun s => !s.guildRanks.existsWhere fun rank =>
      rank.guildId = guildId ∧ (rank.name = name ∨ rank.level = level)) (.duplicateGuildRank guildId)
    newRank guildId name level

def renameGuildRank (guildId rankId : ℕ) (name : String) : GuildM GuildRankRecord := transaction do
  validatedGuildRankName name
  ensureGuildExists guildId
  let rank ← rankById guildId rankId
  require (fun _ => rank.guildId = guildId) (.guildRankOutsideGuild guildId rankId)
  require (fun s => !s.guildRanks.existsWhere fun other =>
    other.guildId = guildId ∧ other.name = name ∧ other.id ≠ rankId) (.duplicateGuildRank guildId)
  updateRank rankId fun rank => { rank with name }
  return { rank with name }

def removeGuildRank (guildId rankId : ℕ) : GuildM Unit := transaction do
  ensureGuildExists guildId
  let rank ← rankById guildId rankId
  require (fun _ => rank.guildId = guildId) (.guildRankOutsideGuild guildId rankId)
  require (fun _ => ¬(1 ≤ rank.level ∧ rank.level ≤ 3))
    (.invalidGuildRecord "guild required rank levels cannot be deleted")
  require (fun s => !s.guildMembership.existsWhere (·.rankId = rankId))
    (.guildRankInUse guildId rankId)
  deleteRanks (·.id = rankId)

end Guild

/-! ### Runs -/

/-- One operation with its arguments. -/
inductive GuildOperation where
  | create (ownerPlayerId : ℕ) (name motd : String)
  | updateMotd (guildId : ℕ) (motd : String)
  | addMember (guildId playerId : ℕ)
  | invite (guildId playerId : ℕ)
  | revokeInvitation (guildId playerId : ℕ)
  | acceptInvitation (guildId playerId : ℕ)
  | delete (guildId : ℕ)
  | transferOwnership (guildId newOwnerPlayerId : ℕ)
  | removeMember (guildId playerId : ℕ)
  | assignMemberRank (guildId playerId rankId : ℕ)
  | updateMemberNick (guildId playerId : ℕ) (nick : String)
  | addRank (guildId : ℕ) (name : String) (level : ℕ)
  | renameRank (guildId rankId : ℕ) (name : String)
  | removeRank (guildId rankId : ℕ)

namespace GuildOperation

open Guild

def perform : GuildOperation → GuildM Unit
  | create owner name motd => do let _ ← createGuild owner name motd
  | updateMotd guildId motd => do let _ ← updateGuildMotd guildId motd
  | addMember guildId playerId => do let _ ← addGuildMember guildId playerId
  | invite guildId playerId => do let _ ← invitePlayerToGuild guildId playerId
  | revokeInvitation guildId playerId => revokeGuildInvitation guildId playerId
  | acceptInvitation guildId playerId => do let _ ← acceptGuildInvitation guildId playerId
  | delete guildId => do let _ ← deleteGuild guildId
  | transferOwnership guildId newOwner => do let _ ← transferGuildOwnership guildId newOwner
  | removeMember guildId playerId => removeGuildMember guildId playerId
  | assignMemberRank guildId playerId rankId => do
    let _ ← assignGuildMemberRank guildId playerId rankId
  | updateMemberNick guildId playerId nick => do
    let _ ← updateGuildMemberNick guildId playerId nick
  | addRank guildId name level => do let _ ← addGuildRank guildId name level
  | renameRank guildId rankId name => do let _ ← renameGuildRank guildId rankId name
  | removeRank guildId rankId => removeGuildRank guildId rankId

/-- One step of a run; a refused operation is a step as well. -/
def step (db : GuildDatabase) (op : GuildOperation) : GuildDatabase := (op.perform db).2

end GuildOperation

/-- Players, and no guild. -/
def GuildDatabase.fresh (players : List ℕ) : GuildDatabase :=
  ⟨players, .empty, .empty, .empty, .empty⟩

end ForgottenEngine
