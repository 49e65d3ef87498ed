import ForgottenEngine.Library.ByteCodec
import ForgottenEngine.Presentation

/-!
# The game actions of a classic client

* `NativeOtClientGameAction` — what a client asks for;
* `decodeNativeOtclientGameAction` — the decoder, one arm for each opcode, with the checks of the
  number of bytes left that stand in front of the reads;
* `layout` — the canonical bytes of an action: its opcode, then its fields in the order in which the
  decoder reads them;
* `InRange` — the values that have a layout: a path and texts within their bounds, and an opcode, a
  direction or a talk request that the kind of action can carry;
* `readFields_fields` — **the arms undo the layout**, but for the two whose check counts more bytes
  than the arm reads;
* `decodes_iff_not_overCounted` — so those two actions are the ones that are never decoded, and
  what is accepted is used up.
-/

namespace ForgottenEngine

open Fallible ByteCodec

/-! ### Opcodes -/

section Opcodes

@[match_pattern] abbrev nativeOtclientEnterGame : UInt8 := 0x0f
@[match_pattern] abbrev nativeOtclientLeaveGame : UInt8 := 0x14
@[match_pattern] abbrev nativeOtclientClientPing : UInt8 := 0x1d
@[match_pattern] abbrev nativeOtclientClientPingBack : UInt8 := 0x1e
@[match_pattern] abbrev nativeOtclientClientAutoWalk : UInt8 := 0x64
@[match_pattern] abbrev nativeOtclientClientWalkNorth : UInt8 := 0x65
@[match_pattern] abbrev nativeOtclientClientWalkEast : UInt8 := 0x66
@[match_pattern] abbrev nativeOtclientClientWalkSouth : UInt8 := 0x67
@[match_pattern] abbrev nativeOtclientClientWalkWest : UInt8 := 0x68
@[match_pattern] abbrev nativeOtclientClientStop : UInt8 := 0x69
@[match_pattern] abbrev nativeOtclientClientWalkNorthEast : UInt8 := 0x6a
@[match_pattern] abbrev nativeOtclientClientWalkSouthEast : UInt8 := 0x6b
@[match_pattern] abbrev nativeOtclientClientWalkSouthWest : UInt8 := 0x6c
@[match_pattern] abbrev nativeOtclientClientWalkNorthWest : UInt8 := 0x6d
@[match_pattern] abbrev nativeOtclientClientTurnNorth : UInt8 := 0x6f
@[match_pattern] abbrev nativeOtclientClientTurnEast : UInt8 := 0x70
@[match_pattern] abbrev nativeOtclientClientTurnSouth : UInt8 := 0x71
@[match_pattern] abbrev nativeOtclientClientTurnWest : UInt8 := 0x72
@[match_pattern] abbrev nativeOtclientClientThrowItem : UInt8 := 0x78
@[match_pattern] abbrev nativeOtclientClientBuyItem : UInt8 := 0x7a
@[match_pattern] abbrev nativeOtclientClientSellItem : UInt8 := 0x7b
@[match_pattern] abbrev nativeOtclientClientCloseNpcTrade : UInt8 := 0x7c
@[match_pattern] abbrev nativeOtclientClientRequestTrade : UInt8 := 0x7d
@[match_pattern] abbrev nativeOtclientClientAcceptTrade : UInt8 := 0x7f
@[match_pattern] abbrev nativeOtclientClientRejectTrade : UInt8 := 0x80
@[match_pattern] abbrev nativeOtclientClientUseItem : UInt8 := 0x82
@[match_pattern] abbrev nativeOtclientClientUseItemEx : UInt8 := 0x83
@[match_pattern] abbrev nativeOtclientClientUseItemOnCreature : UInt8 := 0x84
@[match_pattern] abbrev nativeOtclientClientRotateItem : UInt8 := 0x85
@[match_pattern] abbrev nativeOtclientClientCloseContainer : UInt8 := 0x87
@[match_pattern] abbrev nativeOtclientClientUpArrowContainer : UInt8 := 0x88
@[match_pattern] abbrev nativeOtclientClientLookMap : UInt8 := 0x8c
@[match_pattern] abbrev nativeOtclientClientLookCreature : UInt8 := 0x8d
@[match_pattern] abbrev nativeOtclientClientTalk : UInt8 := 0x96
@[match_pattern] abbrev nativeOtclientClientRequestChannels : UInt8 := 0x97
@[match_pattern] abbrev nativeOtclientClientJoinChannel : UInt8 := 0x98
@[match_pattern] abbrev nativeOtclientClientLeaveChannel : UInt8 := 0x99
@[match_pattern] abbrev nativeOtclientClientChangeFightModes : UInt8 := 0xa0
@[match_pattern] abbrev nativeOtclientClientSelectTarget : UInt8 := 0xa1
@[match_pattern] abbrev nativeOtclientClientSelectFollow : UInt8 := 0xa2
@[match_pattern] abbrev nativeOtclientClientInviteToParty : UInt8 := 0xa3
@[match_pattern] abbrev nativeOtclientClientJoinParty : UInt8 := 0xa4
@[match_pattern] abbrev nativeOtclientClientRevokePartyInvitation : UInt8 := 0xa5
@[match_pattern] abbrev nativeOtclientClientPassPartyLeadership : UInt8 := 0xa6
@[match_pattern] abbrev nativeOtclientClientLeaveParty : UInt8 := 0xa7
@[match_pattern] abbrev nativeOtclientClientSharePartyExperience : UInt8 := 0xa8
@[match_pattern] abbrev nativeOtclientClientCancelAttackAndFollow : UInt8 := 0xbe
@[match_pattern] abbrev nativeOtclientClientUpdateContainer : UInt8 := 0xca
@[match_pattern] abbrev nativeOtclientClientRequestOutfit : UInt8 := 0xd2
@[match_pattern] abbrev nativeOtclientClientChangeOutfit : UInt8 := 0xd3
@[match_pattern] abbrev nativeOtclientClientAddVip : UInt8 := 0xdc
@[match_pattern] abbrev nativeOtclientClientRemoveVip : UInt8 := 0xdd
@[match_pattern] abbrev nativeOtclientClientEditVip : UInt8 := 0xde
@[match_pattern] abbrev nativeOtclientClientRequestQuestLog : UInt8 := 0xf0
@[match_pattern] abbrev nativeOtclientClientRequestQuestLine : UInt8 := 0xf1

end Opcodes

def nativeOtclientMaxIgnoredInteractionBytes : ℕ := 512

/-! ### Actions -/

structure NativeOtClientPosition where
  x : UInt16
  y : UInt16
  z : UInt8
deriving DecidableEq, Repr

structure NativeOtClientClassicOutfit where
  lookType : UInt8
  head : UInt8
  body : UInt8
  legs : UInt8
  feet : UInt8
deriving DecidableEq, Repr

inductive NativeOtClientAutoWalkDirection where
  | east | northEast | north | northWest | west | southWest | south | southEast
deriving DecidableEq, Repr

inductive NativeOtClientFightMode where
  | attack | balanced | defense
deriving DecidableEq, Repr

structure NativeOtClientFightModeRequest where
  mode : NativeOtClientFightMode
  chase : Bool
  secure : Bool
deriving DecidableEq, Repr

structure NativeOtClientTalkRequest where
  mode : UInt8
  channelId : Option UInt16
  recipient : Option String
  message : String
deriving DecidableEq, Repr

inductive NativeOtClientGameAction where
  | enterGame
  | leaveGame
  | ping
  | pingBack
  | stop
  | autoWalk (path : List NativeOtClientAutoWalkDirection)
  | talk (request : NativeOtClientTalkRequest)
  | throwItem (sourcePosition : NativeOtClientPosition) (sourceClientThingId : UInt16)
      (sourceStackPosition : UInt8) (targetPosition : NativeOtClientPosition) (count : UInt8)
  | useItem (position : NativeOtClientPosition) (clientThingId : UInt16) (stackPosition : UInt8)
      (index : UInt8)
  | useItemEx (sourcePosition : NativeOtClientPosition) (sourceClientThingId : UInt16)
      (sourceStackPosition : UInt8) (targetPosition : NativeOtClientPosition)
      (targetClientThingId : UInt16) (targetStackPosition : UInt8)
  | useItemOnCreature (sourcePosition : NativeOtClientPosition) (sourceClientThingId : UInt16)
      (sourceStackPosition : UInt8) (targetCreatureId : UInt32)
  | rotateItem (position : NativeOtClientPosition) (clientThingId : UInt16) (stackPosition : UInt8)
  | lookMap (position : NativeOtClientPosition) (thingId : UInt16) (stackPosition : UInt8)
  | lookCreature (creatureId : UInt32)
  | requestTrade (position : NativeOtClientPosition) (clientThingId : UInt16)
      (stackPosition : UInt8) (targetCreatureId : UInt32)
  | acceptTrade
  | rejectTrade
  | npcBuy (clientThingId : UInt16) (subtype : UInt8) (amount : UInt8) (ignoreCapacity : Bool)
      (buyWithBackpack : Bool)
  | npcSell (clientThingId : UInt16) (subtype : UInt8) (amount : UInt8) (ignoreEquipped : Bool)
  | npcTradeClose
  | requestOutfit
  | requestQuestLog
  | requestQuestLine (questId : UInt16)
  | requestChannels
  | joinChannel (channelId : UInt16)
  | leaveChannel (channelId : UInt16)
  | addVip (name : String)
  | removeVip (playerId : UInt32)
  | editVip (targetPlayerId : UInt32) (description : String) (icon : UInt32) (notify : Bool)
  | changeOutfit (outfit : NativeOtClientClassicOutfit)
  | closeContainer (containerId : UInt8)
  | upArrowContainer (containerId : UInt8)
  | updateContainer (containerId : UInt8)
  | selectTarget (creatureId : UInt32)
  | selectFollow (creatureId : UInt32)
  | partyInvite (playerId : UInt32)
  | partyJoin (playerId : UInt32)
  | partyRevokeInvitation (playerId : UInt32)
  | partyPassLeadership (playerId : UInt32)
  | partyLeave
  | partySharedExperience (active : Bool)
  | cancelAttackAndFollow
  | ignoredInteraction (opcode : UInt8)
  | turn (direction : CardinalDirection)
  | changeFightModes (request : NativeOtClientFightModeRequest)
  | cardinalMove (direction : CardinalDirection)
  | diagonalMove (direction : NativeOtClientAutoWalkDirection)
deriving DecidableEq, Repr

namespace CardinalDirection

def fromClientOpcode : UInt8 → Option CardinalDirection
  | nativeOtclientClientWalkNorth => some .north
  | nativeOtclientClientWalkEast => some .east
  | nativeOtclientClientWalkSouth => some .south
  | nativeOtclientClientWalkWest => some .west
  | _ => none

def fromTurnOpcode : UInt8 → Option CardinalDirection
  | nativeOtclientClientTurnNorth => some .north
  | nativeOtclientClientTurnEast => some .east
  | nativeOtclientClientTurnSouth => some .south
  | nativeOtclientClientTurnWest => some .west
  | _ => none

end CardinalDirection

namespace NativeOtClientAutoWalkDirection

def fromDirectDiagonalOpcode : UInt8 → Option NativeOtClientAutoWalkDirection
  | nativeOtclientClientWalkNorthEast => some .northEast
  | nativeOtclientClientWalkSouthEast => some .southEast
  | nativeOtclientClientWalkSouthWest => some .southWest
  | nativeOtclientClientWalkNorthWest => some .northWest
  | _ => none

def fromNativeByte : UInt8 → Option NativeOtClientAutoWalkDirection
  | 1 => some .east
  | 2 => some .northEast
  | 3 => some .north
  | 4 => some .northWest
  | 5 => some .west
  | 6 => some .southWest
  | 7 => some .south
  | 8 => some .southEast
  | _ => none

end NativeOtClientAutoWalkDirection

def NativeOtClientFightMode.fromClassicValue : UInt8 → NativeOtClientFightMode
  | 1 => .attack
  | 2 => .balanced
  | _ => .defense

/-! ### The decoder -/

abbrev Reader (α : Type) : Type := ByteCodec.Reader ProtocolError α

def faults : Faults ProtocolError := ⟨.truncated, .stringTooLong, .invalidString⟩

namespace Reader

def byte : Reader UInt8 := ByteCodec.byte faults
def u16 : Reader UInt16 := ByteCodec.u16 faults
def u32 : Reader UInt32 := ByteCodec.u32 faults
def string (max : ℕ) : Reader String := ByteCodec.string faults max

/-- The position record, written out at every place in the source. -/
def position : Reader NativeOtClientPosition := do
  let x ← u16
  let y ← u16
  let z ← byte
  pure ⟨x, y, z⟩

/-- `!= 0`. -/
def flag : Reader Bool := do
  let value ← byte
  pure (value != 0)

/-- A byte that may only be zero or one. -/
def strictFlag : Reader Bool := do
  match ← byte with
  | 0 => pure false
  | 1 => pure true
  | _ => fail .invalidNativeGameRequest

/-- `if reader.remaining() != length` in front of the reads. -/
def guarded {α : Type} (length : ℕ) (m : Reader α) : Reader α :=
  exactly length .invalidNativeGameRequest m

end Reader

def isNativeOtclientCompatibilityInteraction (opcode : UInt8) : Bool :=
  opcode = 0x77 || (0x86 ≤ opcode && opcode ≤ 0x8b) || (0x97 ≤ opcode && opcode ≤ 0x9f) ||
    (0xa3 ≤ opcode && opcode ≤ 0xad) || opcode = 0xca

namespace NativeOtClientGameAction

open Reader

/-- The steps of an automatic walk. -/
def readPath : ℕ → Reader (List NativeOtClientAutoWalkDirection)
  | 0 => pure []
  | length + 1 => do
    let value ← byte
    let direction ← ofOption (NativeOtClientAutoWalkDirection.fromNativeByte value)
      .invalidNativeGameRequest
    let path ← readPath length
    pure (direction :: path)

def readAutoWalk : Reader NativeOtClientGameAction := do
  let length ← byte
  if 64 < length.toNat then fail .invalidNativeGameRequest
  else do
    let path ← readPath length.toNat
    pure (.autoWalk path)

def readTalk : Reader NativeOtClientGameAction := do
  let mode ← byte
  if mode = 4 ∨ mode = 5 ∨ mode = 11 then do
    let recipient ← string maxLoginStringBytes
    let message ← string maxLoginStringBytes
    pure (.talk ⟨mode, none, some recipient, message⟩)
  else if mode = 6 ∨ mode = 7 ∨ mode = 8 ∨ mode = 10 ∨ mode = 12 then do
    let channelId ← u16
    let message ← string maxLoginStringBytes
    pure (.talk ⟨mode, some channelId, none, message⟩)
  else do
    let message ← string maxLoginStringBytes
    pure (.talk ⟨mode, none, none, message⟩)

def readPartySharedExperience : Reader NativeOtClientGameAction := do
  let active ← strictFlag
  let reserved ← byte
  if reserved ≠ 0 then fail .invalidNativeGameRequest else pure (.partySharedExperience active)

/-- An opcode no other arm takes. -/
def readOther (opcode : UInt8) : Reader NativeOtClientGameAction :=
  if isNativeOtclientCompatibilityInteraction opcode then do
    let remaining ← read List.length
    if nativeOtclientMaxIgnoredInteractionBytes < remaining then fail .invalidNativeGameRequest
    else do
      let _ ← take faults remaining
      pure (.ignoredInteraction opcode)
  else ofOption
    (((CardinalDirection.fromClientOpcode opcode).map .cardinalMove).orElse fun _ =>
      ((NativeOtClientAutoWalkDirection.fromDirectDiagonalOpcode opcode).map
        .diagonalMove).orElse fun _ => (CardinalDirection.fromTurnOpcode opcode).map .turn)
    .invalidNativeGameRequest

/-- The arms of the decoder. -/
def readFields : UInt8 → Reader NativeOtClientGameAction
  | nativeOtclientEnterGame => pure .enterGame
  | nativeOtclientLeaveGame => pure .leaveGame
  | nativeOtclientClientPing => pure .ping
  | nativeOtclientClientPingBack => pure .pingBack
  | nativeOtclientClientStop => pure .stop
  | nativeOtclientClientCancelAttackAndFollow => pure .cancelAttackAndFollow
  | nativeOtclientClientAutoWalk => readAutoWalk
  | nativeOtclientClientThrowItem => guarded 14 do
    let sourcePosition ← position
    let sourceClientThingId ← u16
    let sourceStackPosition ← byte
    let targetPosition ← position
    let count ← byte
    pure (.throwItem sourcePosition sourceClientThingId sourceStackPosition targetPosition count)
  | nativeOtclientClientUseItem => guarded 9 do
    let itemPosition ← position
    let clientThingId ← u16
    let stackPosition ← byte
    let index ← byte
    pure (.useItem itemPosition clientThingId stackPosition index)
  | nativeOtclientClientUseItemEx => guarded 16 do
    let sourcePosition ← position
    let sourceClientThingId ← u16
    let sourceStackPosition ← byte
    let targetPosition ← position
    let targetClientThingId ← u16
    let targetStackPosition ← byte
    pure (.useItemEx sourcePosition sourceClientThingId sourceStackPosition targetPosition
      targetClientThingId targetStackPosition)
  | nativeOtclientClientUseItemOnCreature => guarded 12 do
    let sourcePosition ← position
    let sourceClientThingId ← u16
    let sourceStackPosition ← byte
    let targetCreatureId ← u32
    pure (.useItemOnCreature sourcePosition sourceClientThingId sourceStackPosition
      targetCreatureId)
  | nativeOtclientClientRotateItem => guarded 8 do
    let itemPosition ← position
    let clientThingId ← u16
    let stackPosition ← byte
    pure (.rotateItem itemPosition clientThingId stackPosition)
  | nativeOtclientClientLookMap => guarded 8 do
    let mapPosition ← position
    let thingId ← u16
    let stackPosition ← byte
    pure (.lookMap mapPosition thingId stackPosition)
  | nativeOtclientClientLookCreature => guarded 4 do
    let creatureId ← u32
    pure (.lookCreature creatureId)
  | nativeOtclientClientRequestTrade => guarded 15 do
    let itemPosition ← position
    let clientThingId ← u16
    let stackPosition ← byte
    let targetCreatureId ← u32
    pure (.requestTrade itemPosition clientThingId stackPosition targetCreatureId)
  | nativeOtclientClientAcceptTrade => guarded 0 (pure .acceptTrade)
  | nativeOtclientClientBuyItem => guarded 7 do
    let clientThingId ← u16
    let subtype ← byte
    let amount ← byte
    let ignoreCapacity ← flag
    let buyWithBackpack ← flag
    pure (.npcBuy clientThingId subtype amount ignoreCapacity buyWithBackpack)
  | nativeOtclientClientSellItem => guarded 5 do
    let clientThingId ← u16
    let subtype ← byte
    let amount ← byte
    let ignoreEquipped ← flag
    pure (.npcSell clientThingId subtype amount ignoreEquipped)
  | nativeOtclientClientCloseNpcTrade => guarded 0 (pure .npcTradeClose)
  | nativeOtclientClientRejectTrade => guarded 0 (pure .rejectTrade)
  | nativeOtclientClientChangeOutfit => guarded 5 do
    let lookType ← byte
    let head ← byte
    let body ← byte
    let legs ← byte
    let feet ← byte
    pure (.changeOutfit ⟨lookType, head, body, legs, feet⟩)
  | nativeOtclientClientCloseContainer => do
    let containerId ← byte
    pure (.closeContainer containerId)
  | nativeOtclientClientUpArrowContainer => do
    let containerId ← byte
    pure (.upArrowContainer containerId)
  | nativeOtclientClientUpdateContainer => do
    let containerId ← byte
    pure (.updateContainer containerId)
  | nativeOtclientClientRequestOutfit => pure .requestOutfit
  | nativeOtclientClientRequestQuestLog => pure .requestQuestLog
  | nativeOtclientClientRequestQuestLine => guarded 2 do
    let questId ← u16
    pure (.requestQuestLine questId)
  | nativeOtclientClientRequestChannels => pure .requestChannels
  | nativeOtclientClientJoinChannel => do
    let channelId ← u16
    pure (.joinChannel channelId)
  | nativeOtclientClientLeaveChannel => do
    let channelId ← u16
    pure (.leaveChannel channelId)
  | nativeOtclientClientAddVip => do
    let name ← string maxLoginStringBytes
    pure (.addVip name)
  | nativeOtclientClientRemoveVip => do
    let playerId ← u32
    pure (.removeVip playerId)
  | nativeOtclientClientEditVip => do
    let targetPlayerId ← u32
    let description ← string maxLoginStringBytes
    let icon ← u32
    let notify ← strictFlag
    pure (.editVip targetPlayerId description icon notify)
  | nativeOtclientClientTalk => readTalk
  | nativeOtclientClientChangeFightModes => do
    let mode ← byte
    let chase ← flag
    let secure ← flag
    pure (.changeFightModes ⟨NativeOtClientFightMode.fromClassicValue mode, chase, secure⟩)
  | nativeOtclientClientSelectTarget => do
    let creatureId ← u32
    pure (.selectTarget creatureId)
  | nativeOtclientClientSelectFollow => do
    let creatureId ← u32
    pure (.selectFollow creatureId)
  | nativeOtclientClientInviteToParty => do
    let playerId ← u32
    pure (.partyInvite playerId)
  | nativeOtclientClientJoinParty => do
    let playerId ← u32
    pure (.partyJoin playerId)
  | nativeOtclientClientRevokePartyInvitation => do
    let playerId ← u32
    pure (.partyRevokeInvitation playerId)
  | nativeOtclientClientPassPartyLeadership => do
    let playerId ← u32
    pure (.partyPassLeadership playerId)
  | nativeOtclientClientLeaveParty => pure .partyLeave
  | nativeOtclientClientSharePartyExperience => readPartySharedExperience
  | opcode => readOther opcode

/-- The whole payload: the opcode, the fields of its arm, and nothing behind them. -/
def readPayload : Reader NativeOtClientGameAction :=
  complete .invalidNativeGameRequest do
    let opcode ← byte
    readFields opcode

end NativeOtClientGameAction

def decodeNativeOtclientGameAction (frame : List UInt8) (profile : NativeOtClientProfile) :
    Except ProtocolError NativeOtClientGameAction :=
  if ¬profile.supportsCurrentNativeFoundation then .error .unsupportedNativeClientProfile
  else (NativeOtClientGameAction.readPayload frame).1

/-! ### The canonical layout -/

def NativeOtClientPosition.bytes (self : NativeOtClientPosition) : List UInt8 :=
  u16Bytes self.x ++ (u16Bytes self.y ++ [self.z])

def flagByte (flag : Bool) : UInt8 := if flag then 1 else 0

def NativeOtClientAutoWalkDirection.nativeByte : NativeOtClientAutoWalkDirection → UInt8
  | .east => 1
  | .northEast => 2
  | .north => 3
  | .northWest => 4
  | .west => 5
  | .southWest => 6
  | .south => 7
  | .southEast => 8

def NativeOtClientFightMode.classicValue : NativeOtClientFightMode → UInt8
  | .attack => 1
  | .balanced => 2
  | .defense => 3

namespace NativeOtClientGameAction

def opcode : NativeOtClientGameAction → UInt8
  | .enterGame => nativeOtclientEnterGame
  | .leaveGame => nativeOtclientLeaveGame
  | .ping => nativeOtclientClientPing
  | .pingBack => nativeOtclientClientPingBack
  | .stop => nativeOtclientClientStop
  | .autoWalk .. => nativeOtclientClientAutoWalk
  | .talk .. => nativeOtclientClientTalk
  | .throwItem .. => nativeOtclientClientThrowItem
  | .useItem .. => nativeOtclientClientUseItem
  | .useItemEx .. => nativeOtclientClientUseItemEx
  | .useItemOnCreature .. => nativeOtclientClientUseItemOnCreature
  | .rotateItem .. => nativeOtclientClientRotateItem
  | .lookMap .. => nativeOtclientClientLookMap
  | .lookCreature .. => nativeOtclientClientLookCreature
  | .requestTrade .. => nativeOtclientClientRequestTrade
  | .acceptTrade => nativeOtclientClientAcceptTrade
  | .rejectTrade => nativeOtclientClientRejectTrade
  | .npcBuy .. => nativeOtclientClientBuyItem
  | .npcSell .. => nativeOtclientClientSellItem
  | .npcTradeClose => nativeOtclientClientCloseNpcTrade
  | .requestOutfit => nativeOtclientClientRequestOutfit
  | .requestQuestLog => nativeOtclientClientRequestQuestLog
  | .requestQuestLine .. => nativeOtclientClientRequestQuestLine
  | .requestChannels => nativeOtclientClientRequestChannels
  | .joinChannel .. => nativeOtclientClientJoinChannel
  | .leaveChannel .. => nativeOtclientClientLeaveChannel
  | .addVip .. => nativeOtclientClientAddVip
  | .removeVip .. => nativeOtclientClientRemoveVip
  | .editVip .. => nativeOtclientClientEditVip
  | .changeOutfit .. => nativeOtclientClientChangeOutfit
  | .closeContainer .. => nativeOtclientClientCloseContainer
  | .upArrowContainer .. => nativeOtclientClientUpArrowContainer
  | .updateContainer .. => nativeOtclientClientUpdateContainer
  | .selectTarget .. => nativeOtclientClientSelectTarget
  | .selectFollow .. => nativeOtclientClientSelectFollow
  | .partyInvite .. => nativeOtclientClientInviteToParty
  | .partyJoin .. => nativeOtclientClientJoinParty
  | .partyRevokeInvitation .. => nativeOtclientClientRevokePartyInvitation
  | .partyPassLeadership .. => nativeOtclientClientPassPartyLeadership
  | .partyLeave => nativeOtclientClientLeaveParty
  | .partySharedExperience .. => nativeOtclientClientSharePartyExperience
  | .cancelAttackAndFollow => nativeOtclientClientCancelAttackAndFollow
  | .ignoredInteraction opcode => opcode
  | .turn .north => nativeOtclientClientTurnNorth
  | .turn .east => nativeOtclientClientTurnEast
  | .turn .south => nativeOtclientClientTurnSouth
  | .turn .west => nativeOtclientClientTurnWest
  | .changeFightModes .. => nativeOtclientClientChangeFightModes
  | .cardinalMove .north => nativeOtclientClientWalkNorth
  | .cardinalMove .east => nativeOtclientClientWalkEast
  | .cardinalMove .south => nativeOtclientClientWalkSouth
  | .cardinalMove .west => nativeOtclientClientWalkWest
  | .diagonalMove .northEast => nativeOtclientClientWalkNorthEast
  | .diagonalMove .southEast => nativeOtclientClientWalkSouthEast
  | .diagonalMove .southWest => nativeOtclientClientWalkSouthWest
  | .diagonalMove _ => nativeOtclientClientWalkNorthWest

/-- The fields behind the opcode, in the order in which the decoder reads them. -/
def fields : NativeOtClientGameAction → List UInt8
  | .autoWalk path => UInt8.ofNat path.length :: path.map (·.nativeByte)
  | .talk request => request.mode :: (request.recipient.elim [] stringBytes ++
      (request.channelId.elim [] u16Bytes ++ stringBytes request.message))
  | .throwItem sourcePosition sourceClientThingId sourceStackPosition targetPosition count =>
    sourcePosition.bytes ++ (u16Bytes sourceClientThingId ++ ([sourceStackPosition] ++
      (targetPosition.bytes ++ [count])))
  | .useItem position clientThingId stackPosition index =>
    position.bytes ++ (u16Bytes clientThingId ++ ([stackPosition] ++ [index]))
  | .useItemEx sourcePosition sourceClientThingId sourceStackPosition targetPosition
      targetClientThingId targetStackPosition =>
    sourcePosition.bytes ++ (u16Bytes sourceClientThingId ++ ([sourceStackPosition] ++
      (targetPosition.bytes ++ (u16Bytes targetClientThingId ++ [targetStackPosition]))))
  | .useItemOnCreature sourcePosition sourceClientThingId sourceStackPosition targetCreatureId =>
    sourcePosition.bytes ++ (u16Bytes sourceClientThingId ++ ([sourceStackPosition] ++
      u32Bytes targetCreatureId))
  | .rotateItem position clientThingId stackPosition =>
    position.bytes ++ (u16Bytes clientThingId ++ [stackPosition])
  | .lookMap position thingId stackPosition =>
    position.bytes ++ (u16Bytes thingId ++ [stackPosition])
  | .lookCreature creatureId => u32Bytes creatureId
  | .requestTrade position clientThingId stackPosition targetCreatureId =>
    position.bytes ++ (u16Bytes clientThingId ++ ([stackPosition] ++ u32Bytes targetCreatureId))
  | .npcBuy clientThingId subtype amount ignoreCapacity buyWithBackpack =>
    u16Bytes clientThingId ++ ([subtype] ++ ([amount] ++ ([flagByte ignoreCapacity] ++
      [flagByte buyWithBackpack])))
  | .npcSell clientThingId subtype amount ignoreEquipped =>
    u16Bytes clientThingId ++ ([subtype] ++ ([amount] ++ [flagByte ignoreEquipped]))
  | .requestQuestLine questId => u16Bytes questId
  | .joinChannel channelId => u16Bytes channelId
  | .leaveChannel channelId => u16Bytes channelId
  | .addVip name => stringBytes name
  | .removeVip playerId => u32Bytes playerId
  | .editVip targetPlayerId description icon notify =>
    u32Bytes targetPlayerId ++ (stringBytes description ++ (u32Bytes icon ++ [flagByte notify]))
  | .changeOutfit outfit =>
    [outfit.lookType] ++ ([outfit.head] ++ ([outfit.body] ++ ([outfit.legs] ++ [outfit.feet])))
  | .closeContainer containerId => [containerId]
  | .upArrowContainer containerId => [containerId]
  | .updateContainer containerId => [containerId]
  | .selectTarget creatureId => u32Bytes creatureId
  | .selectFollow creatureId => u32Bytes creatureId
  | .partyInvite playerId => u32Bytes playerId
  | .partyJoin playerId => u32Bytes playerId
  | .partyRevokeInvitation playerId => u32Bytes playerId
  | .partyPassLeadership playerId => u32Bytes playerId
  | .partySharedExperience active => [flagByte active] ++ [0]
  | .changeFightModes request =>
    [request.mode.classicValue] ++ ([flagByte request.chase] ++ [flagByte request.secure])
  | _ => []

def layout (action : NativeOtClientGameAction) : List UInt8 := action.opcode :: action.fields

/-- A text the decoder takes. -/
def TextFits (text : String) : Prop := (utf8Bytes text).length ≤ maxLoginStringBytes

/-- A talk request with the fields of its mode. -/
def TalkFits (request : NativeOtClientTalkRequest) : Prop :=
  if request.mode = 4 ∨ request.mode = 5 ∨ request.mode = 11 then
    request.channelId = none ∧ ∃ recipient, request.recipient = some recipient ∧ TextFits recipient
  else if request.mode = 6 ∨ request.mode = 7 ∨ request.mode = 8 ∨ request.mode = 10 ∨
      request.mode = 12 then
    request.recipient = none ∧ ∃ channelId, request.channelId = some channelId
  else request.channelId = none ∧ request.recipient = none

/-- An opcode that is only ever ignored: no action of another kind has it. -/
def OnlyIgnored (opcode : UInt8) : Prop :=
  isNativeOtclientCompatibilityInteraction opcode ∧
    ∀ action : NativeOtClientGameAction, action.opcode = opcode →
      action = .ignoredInteraction opcode

/-- The values that have a layout. -/
def InRange : NativeOtClientGameAction → Prop
  | .autoWalk path => path.length ≤ 64
  | .talk request => TalkFits request ∧ TextFits request.message
  | .addVip name => TextFits name
  | .editVip _ description _ _ => TextFits description
  | .ignoredInteraction opcode => OnlyIgnored opcode
  | .diagonalMove direction => direction = .northEast ∨ direction = .southEast ∨
      direction = .southWest ∨ direction = .northWest
  | _ => True

/-- The actions whose arm checks for more bytes than it reads. -/
def OverCounted : NativeOtClientGameAction → Prop
  | .requestTrade .. => True
  | .npcBuy .. => True
  | _ => False

/-! ### The arms undo the layout -/

open Reader

theorem reads_position (position : NativeOtClientPosition) :
    Reads Reader.position position.bytes position :=
  .bind (reads_u16 position.x) (.bind (reads_u16 position.y) (.map (reads_byte position.z)))

theorem reads_flag (value : Bool) : Reads flag [flagByte value] value := by
  intro rest
  cases value <;> rfl

theorem reads_strictFlag (value : Bool) : Reads strictFlag [flagByte value] value := by
  intro rest
  cases value <;> rfl

theorem reads_text {text : String} (h : TextFits text) :
    Reads (Reader.string maxLoginStringBytes) (stringBytes text) text :=
  reads_string (by decide) text h

@[simp] theorem length_positionBytes (position : NativeOtClientPosition) :
    position.bytes.length = 5 := rfl

/-- An arm whose check counts the bytes of the layout. -/
theorem guarded_of_reads {m : Reader NativeOtClientGameAction} {xs : List UInt8}
    {action : NativeOtClientGameAction} {length : ℕ} (hm : Reads m xs action)
    (hlength : xs.length = length) : guarded length m xs = (.ok action, []) := by
  subst hlength
  exact hm.exactly _

theorem reads_path (path : List NativeOtClientAutoWalkDirection) :
    Reads (readPath path.length) (path.map (·.nativeByte)) path := by
  induction path with
  | nil => exact .pure []
  | cons direction path ih =>
    have hdirection : NativeOtClientAutoWalkDirection.fromNativeByte direction.nativeByte =
        some direction := by cases direction <;> rfl
    have hstep : Reads (ofOption (NativeOtClientAutoWalkDirection.fromNativeByte
        direction.nativeByte) ProtocolError.invalidNativeGameRequest) [] direction := by
      intro rest
      rw [hdirection]
      rfl
    exact .bind (reads_byte direction.nativeByte) (.bind hstep (.map ih))

theorem reads_autoWalk (path : List NativeOtClientAutoWalkDirection) (h : path.length ≤ 64) :
    Reads readAutoWalk (NativeOtClientGameAction.autoWalk path).fields (.autoWalk path) := by
  have hlength : (UInt8.ofNat path.length).toNat = path.length := by
    rw [UInt8.toNat_ofNat']
    exact Nat.mod_eq_of_lt (by omega)
  refine .bind (p := [UInt8.ofNat path.length]) (reads_byte (UInt8.ofNat path.length)) ?_
  rw [hlength, if_neg (by omega)]
  exact .map (reads_path path)

theorem reads_talk (request : NativeOtClientTalkRequest) (h : TalkFits request)
    (hmessage : TextFits request.message) :
    Reads readTalk (NativeOtClientGameAction.talk request).fields (.talk request) := by
  obtain ⟨mode, channelId, recipient, message⟩ := request
  refine .bind (p := [mode]) (reads_byte mode) ?_
  unfold TalkFits at h
  simp only at h hmessage
  split at h
  case isTrue hmode =>
    obtain ⟨rfl, recipient, rfl, hrecipient⟩ := h
    rw [if_pos hmode]
    show Reads _ (stringBytes recipient ++ stringBytes message) _
    exact .bind (reads_text hrecipient) (.map (reads_text hmessage))
  case isFalse hmode =>
    rw [if_neg hmode]
    split at h
    case isTrue hchannel =>
      obtain ⟨rfl, channelId, rfl⟩ := h
      rw [if_pos hchannel]
      show Reads _ (u16Bytes channelId ++ stringBytes message) _
      exact .bind (reads_u16 channelId) (.map (reads_text hmessage))
    case isFalse hchannel =>
      obtain ⟨rfl, rfl⟩ := h
      rw [if_neg hchannel]
      show Reads _ (stringBytes message) _
      exact .map (reads_text hmessage)

theorem reads_partySharedExperience (active : Bool) :
    Reads readPartySharedExperience (NativeOtClientGameAction.partySharedExperience active).fields
      (.partySharedExperience active) := by
  refine .bind (reads_strictFlag active) ?_
  intro rest
  rfl

theorem reads_editVip (targetPlayerId : UInt32) (description : String) (icon : UInt32)
    (notify : Bool) (h : TextFits description) :
    Reads (readFields nativeOtclientClientEditVip)
      (NativeOtClientGameAction.editVip targetPlayerId description icon notify).fields
      (.editVip targetPlayerId description icon notify) :=
  .bind (reads_u32 targetPlayerId) (.bind (reads_text h) (.bind (reads_u32 icon)
    (.map (reads_strictFlag notify))))

theorem fromClassicValue_classicValue (mode : NativeOtClientFightMode) :
    NativeOtClientFightMode.fromClassicValue mode.classicValue = mode := by
  cases mode <;> rfl

theorem reads_changeFightModes (request : NativeOtClientFightModeRequest) :
    Reads (readFields nativeOtclientClientChangeFightModes)
      (NativeOtClientGameAction.changeFightModes request).fields (.changeFightModes request) := by
  refine .bind (reads_byte request.mode.classicValue) ?_
  rw [fromClassicValue_classicValue]
  exact .bind (reads_flag request.chase) (.map (reads_flag request.secure))

/-- The arms with an opcode of their own come before the one that ignores. -/
theorem readFields_of_onlyIgnored {opcode : UInt8} (h : OnlyIgnored opcode) :
    readFields opcode = readOther opcode := by
  obtain ⟨hcompatible, honly⟩ := h
  unfold readFields
  split
  -- an arm in front is of an opcode that is not ignored, or of one that another action has
  all_goals first
    | exact absurd hcompatible (by decide)
    | cases honly (.closeContainer 0) rfl
    | cases honly (.upArrowContainer 0) rfl
    | cases honly (.updateContainer 0) rfl
    | cases honly .requestChannels rfl
    | cases honly (.joinChannel 0) rfl
    | cases honly (.leaveChannel 0) rfl
    | cases honly (.partyInvite 0) rfl
    | cases honly (.partyJoin 0) rfl
    | cases honly (.partyRevokeInvitation 0) rfl
    | cases honly (.partyPassLeadership 0) rfl
    | cases honly .partyLeave rfl
    | cases honly (.partySharedExperience false) rfl
    | rfl

theorem readFields_ignoredInteraction {opcode : UInt8} (h : OnlyIgnored opcode) :
    readFields opcode [] = (.ok (.ignoredInteraction opcode), []) := by
  rw [readFields_of_onlyIgnored h, readOther, if_pos h.1]
  rfl

/-- **The arms undo the layout**, one case for each kind of action. -/
theorem readFields_fields (action : NativeOtClientGameAction) (h : action.InRange)
    (hcount : ¬action.OverCounted) :
    readFields action.opcode action.fields = (.ok action, []) := by
  cases action with
  | enterGame => rfl
  | leaveGame => rfl
  | ping => rfl
  | pingBack => rfl
  | stop => rfl
  | autoWalk path => exact (reads_autoWalk path h).apply
  | talk request => exact (reads_talk request h.1 h.2).apply
  | throwItem sourcePosition sourceClientThingId sourceStackPosition targetPosition count =>
    exact guarded_of_reads (.bind (reads_position sourcePosition) (.bind (reads_u16 _)
      (.bind (reads_byte _) (.bind (reads_position targetPosition) (.map (reads_byte count)))))) rfl
  | useItem position clientThingId stackPosition index =>
    exact guarded_of_reads (.bind (reads_position position) (.bind (reads_u16 clientThingId)
      (.bind (reads_byte stackPosition) (.map (reads_byte index))))) rfl
  | useItemEx sourcePosition sourceClientThingId sourceStackPosition targetPosition
      targetClientThingId targetStackPosition =>
    exact guarded_of_reads (.bind (reads_position sourcePosition) (.bind (reads_u16 _)
      (.bind (reads_byte _) (.bind (reads_position targetPosition) (.bind (reads_u16 _)
        (.map (reads_byte targetStackPosition))))))) rfl
  | useItemOnCreature sourcePosition sourceClientThingId sourceStackPosition targetCreatureId =>
    exact guarded_of_reads (.bind (reads_position sourcePosition) (.bind (reads_u16 _)
      (.bind (reads_byte _) (.map (reads_u32 targetCreatureId))))) rfl
  | rotateItem position clientThingId stackPosition =>
    exact guarded_of_reads (.bind (reads_position position) (.bind (reads_u16 clientThingId)
      (.map (reads_byte stackPosition)))) rfl
  | lookMap position thingId stackPosition =>
    exact guarded_of_reads (.bind (reads_position position) (.bind (reads_u16 thingId)
      (.map (reads_byte stackPosition)))) rfl
  | lookCreature creatureId => exact guarded_of_reads (.map (reads_u32 creatureId)) rfl
  | requestTrade => exact absurd trivial hcount
  | acceptTrade => rfl
  | rejectTrade => rfl
  | npcBuy => exact absurd trivial hcount
  | npcSell clientThingId subtype amount ignoreEquipped =>
    exact guarded_of_reads (.bind (reads_u16 clientThingId) (.bind (reads_byte subtype)
      (.bind (reads_byte amount) (.map (reads_flag ignoreEquipped))))) rfl
  | npcTradeClose => rfl
  | requestOutfit => rfl
  | requestQuestLog => rfl
  | requestQuestLine questId => exact guarded_of_reads (.map (reads_u16 questId)) rfl
  | requestChannels => rfl
  | joinChannel channelId => exact (Reads.map (reads_u16 channelId)).apply
  | leaveChannel channelId => exact (Reads.map (reads_u16 channelId)).apply
  | addVip name => exact (Reads.map (reads_text h)).apply
  | removeVip playerId => exact (Reads.map (reads_u32 playerId)).apply
  | editVip targetPlayerId description icon notify =>
    exact (reads_editVip targetPlayerId description icon notify h).apply
  | changeOutfit outfit =>
    exact guarded_of_reads (.bind (reads_byte outfit.lookType) (.bind (reads_byte outfit.head)
      (.bind (reads_byte outfit.body) (.bind (reads_byte outfit.legs)
        (.map (reads_byte outfit.feet)))))) rfl
  | closeContainer containerId => exact (Reads.map (reads_byte containerId)).apply
  | upArrowContainer containerId => exact (Reads.map (reads_byte containerId)).apply
  | updateContainer containerId => exact (Reads.map (reads_byte containerId)).apply
  | selectTarget creatureId => exact (Reads.map (reads_u32 creatureId)).apply
  | selectFollow creatureId => exact (Reads.map (reads_u32 creatureId)).apply
  | partyInvite playerId => exact (Reads.map (reads_u32 playerId)).apply
  | partyJoin playerId => exact (Reads.map (reads_u32 playerId)).apply
  | partyRevokeInvitation playerId => exact (Reads.map (reads_u32 playerId)).apply
  | partyPassLeadership playerId => exact (Reads.map (reads_u32 playerId)).apply
  | partyLeave => rfl
  | partySharedExperience active => exact (reads_partySharedExperience active).apply
  | cancelAttackAndFollow => rfl
  | ignoredInteraction opcode => exact readFields_ignoredInteraction h
  | turn direction => cases direction <;> rfl
  | changeFightModes request => exact (reads_changeFightModes request).apply
  | cardinalMove direction => cases direction <;> rfl
  | diagonalMove direction => rcases h with rfl | rfl | rfl | rfl <;> rfl

/-- A check that counts more bytes than the arm reads refuses the layout. -/
theorem readFields_of_overCounted (action : NativeOtClientGameAction) (h : action.OverCounted) :
    readFields action.opcode action.fields = (.error .invalidNativeGameRequest, action.fields) := by
  cases action with
  | requestTrade => exact exactly_of_length_ne _ (show 12 ≠ 15 by decide)
  | npcBuy => exact exactly_of_length_ne _ (show 6 ≠ 7 by decide)
  | _ => exact h.elim

theorem readPayload_layout (action : NativeOtClientGameAction) :
    readPayload action.layout = complete .invalidNativeGameRequest (readFields action.opcode)
      action.fields := rfl

end NativeOtClientGameAction

/-- The decoder gives the value back from its canonical layout. -/
def Decodes (profile : NativeOtClientProfile) (action : NativeOtClientGameAction) : Prop :=
  decodeNativeOtclientGameAction action.layout profile = .ok action

theorem decode_of_supported {profile : NativeOtClientProfile}
    (hprofile : profile.supportsCurrentNativeFoundation) (frame : List UInt8) :
    decodeNativeOtclientGameAction frame profile =
      (NativeOtClientGameAction.readPayload frame).1 := by
  rw [decodeNativeOtclientGameAction, if_neg (not_not_intro hprofile)]

/-- **The actions that cannot be decoded are the two whose arm counts too many bytes.**  An accepted
payload is read to its end. -/
theorem decodes_iff_not_overCounted (profile : NativeOtClientProfile)
    (hprofile : profile.supportsCurrentNativeFoundation) :
    (∀ action : NativeOtClientGameAction, action.InRange →
      (Decodes profile action ↔ ¬action.OverCounted)) ∧
    ∀ (frame : List UInt8) (action : NativeOtClientGameAction),
      decodeNativeOtclientGameAction frame profile = .ok action →
        (NativeOtClientGameAction.readPayload frame).2 = [] := by
  constructor
  · intro action hrange
    rw [Decodes, decode_of_supported hprofile, NativeOtClientGameAction.readPayload_layout]
    constructor
    · intro h hcount
      rw [complete_of_error (action.readFields_of_overCounted hcount)] at h
      cases h
    · intro hcount
      rw [complete_of_ok (action.readFields_fields hrange hcount)]
  · intro frame action h
    rw [decode_of_supported hprofile] at h
    have haccepted : NativeOtClientGameAction.readPayload frame =
        (.ok action, (NativeOtClientGameAction.readPayload frame).2) := Prod.ext h rfl
    exact (complete_eq_ok.mp haccepted).2

/-- The profile of an unmodified client. -/
def classic740Profile : NativeOtClientProfile := ⟨740, true, false, false, false, 128⟩

/-- A private message is decoded, and the request to leave the game is read to its end. -/
theorem decodes_iff_not_overCounted_classic740 :
    Decodes classic740Profile (.talk ⟨4, none, some "Bob", "hi"⟩) ∧
      (NativeOtClientGameAction.readPayload [nativeOtclientLeaveGame]).2 = [] := by
  have h := decodes_iff_not_overCounted classic740Profile (by decide)
  have hrange : (NativeOtClientGameAction.talk ⟨4, none, some "Bob", "hi"⟩).InRange := by
    refine ⟨⟨rfl, "Bob", rfl, ?_⟩, ?_⟩
    · show (utf8Bytes "Bob").length ≤ 128
      decide
    · show (utf8Bytes "hi").length ≤ 128
      decide
  exact ⟨(h.1 _ hrange).mpr not_false, h.2 _ .leaveGame rfl⟩

/-- Offering a backpack to another player. -/
theorem requestTrade_not_decoded :
    (NativeOtClientGameAction.requestTrade ⟨65535, 3, 0⟩ 1988 0 0x10000001).InRange ∧
      decodeNativeOtclientGameAction
        (NativeOtClientGameAction.requestTrade ⟨65535, 3, 0⟩ 1988 0 0x10000001).layout
        classic740Profile = .error .invalidNativeGameRequest :=
  ⟨trivial, rfl⟩

end ForgottenEngine
