import ForgottenEngine.FrameStreams
import ForgottenEngine.Guilds
import ForgottenEngine.Library.Multicast
import ForgottenEngine.MovingSession

/-!
# Chat between the sessions

Every session has a bounded queue of chat events in a shared table.  Whoever talks looks at the
world under one lock, and hands its event out under the lock of the table; the other sessions drain
their queues and go away while it does.

* `chat_in_order` — **every session gets its events in the order in which they were published**,
  each at most once, and only those that are for its player;
* `chat_complete` — it gets all of them, as long as its queue has room when they are handed out;
* `chat_fails_iff` — no talk of a player makes another session fail; an announcement of the console
  that is too long with the name in front does;
* `chat_of_configured` — a session is shown no channel that is not configured, that of its guild
  included.
-/

namespace ForgottenEngine

open ByteCodec Multicast

/-! ### Texts -/

def nativeOtclientMaxChatTextBytes : ℕ := 255

/-- `split_whitespace` -/
def splitWhitespace (message : String) : List (List Char) :=
  (message.toList.splitOnP isWhitespace).filter (· ≠ [])

/-- The words of a message, with one blank between them. -/
def chatBody (message : String) : List Char := [' '].intercalate (splitWhitespace message)

/-- The characters that fit behind `used` bytes. -/
def cutAt (max : ℕ) : ℕ → List Char → List Char
  | _, [] => []
  | used, c :: cs => if max < used + c.utf8Size then [] else c :: cutAt max (used + c.utf8Size) cs

def truncateNativeChatText (message : List Char) : String :=
  String.ofList (cutAt nativeOtclientMaxChatTextBytes 0 message)

theorem utf8ByteSize_cons (c : Char) (cs : List Char) :
    (String.ofList (c :: cs)).utf8ByteSize = c.utf8Size + (String.ofList cs).utf8ByteSize := by
  have hsplit : String.ofList (c :: cs) = String.ofList [c] ++ String.ofList cs := by
    rw [← String.ofList_append]
    rfl
  rw [hsplit, String.utf8ByteSize_append]
  simp

theorem utf8ByteSize_cutAt {max used : ℕ} (h : used ≤ max) (cs : List Char) :
    used + (String.ofList (cutAt max used cs)).utf8ByteSize ≤ max := by
  induction cs generalizing used with
  | nil => simpa [cutAt] using h
  | cons c cs ih =>
    rw [cutAt]
    split
    · simpa using h
    · next hc =>
      rw [utf8ByteSize_cons, ← Nat.add_assoc]
      exact ih (not_lt.mp hc)

theorem utf8ByteSize_truncate (message : List Char) :
    (truncateNativeChatText message).utf8ByteSize ≤ nativeOtclientMaxChatTextBytes := by
  have h := utf8ByteSize_cutAt (Nat.zero_le nativeOtclientMaxChatTextBytes) message
  rwa [Nat.zero_add] at h

theorem truncate_ne_empty {message : List Char} (h : message ≠ []) :
    truncateNativeChatText message ≠ "" := by
  cases message with
  | nil => exact absurd rfl h
  | cons c cs =>
    have hsize : ¬nativeOtclientMaxChatTextBytes < 0 + c.utf8Size := by
      have := c.utf8Size_le_four
      unfold nativeOtclientMaxChatTextBytes
      omega
    rw [truncateNativeChatText, cutAt, if_neg hsize]
    intro heq
    have hlist := congrArg String.toList heq
    rw [String.toList_ofList] at hlist
    cases hlist

/-! ### Events -/

def nativeOtclientSharedChatQueueCapacity : ℕ := 64

def nativeClassicWhisperRangeTiles : ℕ := 1

def nativeClassicYellRangeTiles : ℕ := 18

def nativeGuildChatChannelId : UInt16 := 0x00F1

def nativeOtclientMessageSay : UInt8 := 1

def nativeOtclientMessageWhisper : UInt8 := 2

def nativeOtclientMessageYell : UInt8 := 3

def nativeOtclientMessageGmBroadcast : UInt8 := 9

structure SharedPublicChatEvent where
  speakerName : String
  speakerPosition : NativeOtClientPosition
  channelId : Option UInt16
  isPrivate : Bool
  talkMode : UInt8
  text : String
deriving DecidableEq, Repr

/-- Whom an event is for. -/
inductive ChatAudience where
  | everyone
  | near (senderId : ℕ) (position : Position) (listenerPositions : BTreeMap ℕ Position)
      (rangeTiles : ℕ)
  | named (recipientName : String)
  | members (memberIds : List ℕ)

namespace ChatAudience

def admits : ChatAudience → ℕ → SharedChatRecipient → Bool
  | everyone, _, _ => true
  | near senderId position listenerPositions rangeTiles, recipientId, _ =>
    recipientId = senderId || (listenerPositions[recipientId]?).any fun listener =>
      listener.z = position.z && Position.absDiff listener.x position.x ≤ rangeTiles &&
        Position.absDiff listener.y position.y ≤ rangeTiles
  | named recipientName, _, recipient => recipient.playerName = recipientName
  | members memberIds, recipientId, _ => recipientId ∈ memberIds

/-- The recipients that are tried, one after the other. -/
def recipients (table : BTreeMap ℕ SharedChatRecipient) : ChatAudience → List ℕ
  | named recipientName =>
    ((table.toList.find? fun e => e.2.playerName = recipientName).map Prod.fst).toList
  | members memberIds => memberIds
  | audience => (table.toList.filter fun e => audience.admits e.1 e.2).map Prod.fst

end ChatAudience

/-- The public channels of the configuration, by their identifiers. -/
structure LegacyPublicChannelCatalog where
  ids : Finset UInt16
  nonzero : 0 ∉ ids

structure ChatPublication where
  event : SharedPublicChatEvent
  audience : ChatAudience

/-! ### The operations of the shared world, up to the lock of the table -/

namespace SharedChat

/-- What a player of the world says, unless nothing is left of it. -/
def speak (w : GameWorld) (senderId : ℕ) (message : String)
    (publication : Player → String → ChatPublication) :
    Except HostError (Option ChatPublication) :=
  match w.players[senderId]? with
  | none => .error (.core (.unknownPlayer senderId))
  | some sender =>
    if chatBody message = [] then .ok none
    else .ok (some (publication sender (truncateNativeChatText (chatBody message))))

def playerPositions (w : GameWorld) : BTreeMap ℕ Position := w.players.map fun _ p => p.position

def broadcastChat (w : GameWorld) (senderId : ℕ) (message : String) (channelId : Option UInt16) :
    Except HostError (Option ChatPublication) :=
  speak w senderId message fun sender text =>
    { event := ⟨sender.name, nativePosition sender.position, channelId, false,
        nativeOtclientMessageSay, text⟩
      audience := .everyone }

def broadcastPublicChat (w : GameWorld) (senderId : ℕ) (message : String) :
    Except HostError (Option ChatPublication) := broadcastChat w senderId message none

def broadcastConfiguredPublicChannelChat (w : GameWorld) (senderId : ℕ) (channelId : UInt16)
    (message : String) : Except HostError (Option ChatPublication) :=
  broadcastChat w senderId message (some channelId)

def broadcastRangedChat (w : GameWorld) (senderId : ℕ) (message : String) (rangeTiles : ℕ) :
    Except HostError (Option ChatPublication) :=
  speak w senderId message fun sender text =>
    { event := ⟨sender.name, nativePosition sender.position, none, false,
        if rangeTiles ≤ nativeClassicWhisperRangeTiles then nativeOtclientMessageWhisper
        else nativeOtclientMessageYell, text⟩
      audience := .near senderId sender.position (playerPositions w) rangeTiles }

def broadcastWhisperChat (w : GameWorld) (senderId : ℕ) (message : String) :
    Except HostError (Option ChatPublication) :=
  broadcastRangedChat w senderId message nativeClassicWhisperRangeTiles

def broadcastYellChat (w : GameWorld) (senderId : ℕ) (message : String) :
    Except HostError (Option ChatPublication) :=
  broadcastRangedChat w senderId message nativeClassicYellRangeTiles

def sendPrivateChat (w : GameWorld) (senderId : ℕ) (recipientName message : String) :
    Except HostError (Option ChatPublication) :=
  speak w senderId message fun sender text =>
    { event := ⟨sender.name, nativePosition sender.position, none, true,
        nativeOtclientMessageSay, text⟩
      audience := .named recipientName }

def broadcastGuildChat (w : GameWorld) (senderId : ℕ) (message : String) (memberIds : List ℕ) :
    Except HostError (Option ChatPublication) :=
  speak w senderId message fun sender text =>
    { event := ⟨sender.name, nativePosition sender.position, some nativeGuildChatChannelId, false,
        nativeOtclientMessageSay, text⟩
      audience := .members memberIds }

def broadcastConsoleMessage (speakerName message : String) : Option ChatPublication :=
  if chatBody message = [] then none
  else some
    { event := ⟨speakerName, ⟨0, 0, 0⟩, none, false, nativeOtclientMessageGmBroadcast,
        truncateNativeChatText (chatBody message)⟩
      audience := .everyone }

/-! ### The talk of a session -/

def guildMembership (database : GuildDatabase) (playerId : ℕ) : Option GuildMembershipRecord :=
  database.guildMembership.rows.find? fun record => record.playerId = playerId

def guildMemberIds (database : GuildDatabase) (guildId : ℕ) : List ℕ :=
  ((database.guildMembership.rows.filter fun record => record.guildId = guildId).take 500).map
    GuildMembershipRecord.playerId

/-- Where a talk goes.  Other threads may write to the database between the two lookups.  A talk
that goes nowhere leaves a line in the diagnostics. -/
def applyNativeChatRouting (catalog : LegacyPublicChannelCatalog)
    (openPublicChannelIds : Finset UInt16) (database later : GuildDatabase) (w : GameWorld)
    (characterId : ℕ) (request : NativeOtClientTalkRequest) :
    Except HostError (Option ChatPublication) :=
  if request.mode = 5 then
    match request.recipient with
    | none => .ok none
    | some recipientName => sendPrivateChat w characterId recipientName request.message
  else if request.mode = 7 then
    match request.channelId with
    | none => .ok none
    | some channelId =>
      if channelId ∉ openPublicChannelIds ∨ channelId ∉ catalog.ids then .ok none
      else broadcastConfiguredPublicChannelChat w characterId channelId request.message
  else if request.mode = 2 then broadcastWhisperChat w characterId request.message
  else if request.mode = 3 then broadcastYellChat w characterId request.message
  else if request.channelId = some nativeGuildChatChannelId then
    match guildMembership database characterId with
    | none => .ok none
    | some record =>
      broadcastGuildChat w characterId request.message (guildMemberIds later record.guildId)
  else if request.channelId.isSome ∨ request.recipient.isSome then .ok none
  else if request.mode = nativeOtclientMessageSay then
    broadcastPublicChat w characterId request.message
  else .ok none

end SharedChat

/-! ### The records -/

/-- The checks in front of a talk record, and the record. -/
def encodeNativeOtclientTalk (profile : NativeOtClientProfile) (fixedBytes : ℕ)
    (speakerName text : String) (addressed : Bool) (fields : List UInt8) :
    Except ProtocolError Frame :=
  if ¬profile.supportsClassic740InventoryRecords then .error .unsupportedNativeClientProfile
  else if speakerName = "" ∨ addressed = false ∨ text = "" ∨
      nativeOtclientMaxChatTextBytes < text.utf8ByteSize then
    .error (.stringTooLong text.utf8ByteSize)
  else if maxFrameSize < speakerName.utf8ByteSize + text.utf8ByteSize + fixedBytes then
    .error (.stringTooLong (speakerName.utf8ByteSize + text.utf8ByteSize))
  else .ok (0xaa :: stringBytes speakerName ++ fields ++ stringBytes text)

def encodeNativeOtclientPublicSay (profile : NativeOtClientProfile) (speakerName : String)
    (speakerPosition : NativeOtClientPosition) (text : String) : Except ProtocolError Frame :=
  encodeNativeOtclientTalk profile 8 speakerName text true
    (nativeOtclientMessageSay :: speakerPosition.bytes)

def encodeNativeOtclientPositionedTalk (profile : NativeOtClientProfile) (mode : UInt8)
    (speakerName : String) (speakerPosition : NativeOtClientPosition) (text : String) :
    Except ProtocolError Frame :=
  encodeNativeOtclientTalk profile 8 speakerName text true (mode :: speakerPosition.bytes)

def encodeNativeOtclientPublicChannelSay (profile : NativeOtClientProfile) (speakerName : String)
    (channelId : UInt16) (text : String) : Except ProtocolError Frame :=
  encodeNativeOtclientTalk profile 7 speakerName text (channelId ≠ 0) (7 :: u16Bytes channelId)

def encodeNativeOtclientPrivateMessageFrom (profile : NativeOtClientProfile)
    (speakerName text : String) : Except ProtocolError Frame :=
  encodeNativeOtclientTalk profile 6 speakerName text true [4]

def encodeNativeOtclientGameAnnouncement (profile : NativeOtClientProfile) (message : String) :
    Except ProtocolError Frame :=
  if ¬profile.supportsClassic740InventoryRecords then .error .unsupportedNativeClientProfile
  else if message = "" ∨ nativeOtclientMaxChatTextBytes < message.utf8ByteSize then
    .error (.stringTooLong message.utf8ByteSize)
  else .ok (0xb4 :: 0x13 :: stringBytes message)

/-- What a session is sent for an event, unless it has not opened the channel. -/
def chatRecord (profile : NativeOtClientProfile) (openPublicChannelIds : Finset UInt16)
    (event : SharedPublicChatEvent) : Except ProtocolError (Option Frame) :=
  if event.isPrivate then
    (encodeNativeOtclientPrivateMessageFrom profile event.speakerName event.text).map some
  else
    match event.channelId with
    | some channelId =>
      if channelId ∉ openPublicChannelIds then .ok none
      else (encodeNativeOtclientPublicChannelSay profile event.speakerName channelId
        event.text).map some
    | none =>
      if event.talkMode = nativeOtclientMessageWhisper ∨
          event.talkMode = nativeOtclientMessageYell then
        (encodeNativeOtclientPositionedTalk profile event.talkMode event.speakerName
          event.speakerPosition event.text).map some
      else if event.talkMode = nativeOtclientMessageGmBroadcast then
        (encodeNativeOtclientGameAnnouncement profile
          (event.speakerName ++ ": " ++ event.text)).map some
      else
        (encodeNativeOtclientPublicSay profile event.speakerName event.speakerPosition
          event.text).map some

/-- The record on the wire. -/
def writtenChat (profile : NativeOtClientProfile) (openPublicChannelIds : Finset UInt16)
    (event : SharedPublicChatEvent) : Except ProtocolError (Option (List UInt8)) := do
  match ← chatRecord profile openPublicChannelIds event with
  | none => return none
  | some record => return some (← encode record)

/-! ### The sessions -/

/-- A session by the endpoint of its queue. -/
structure ChatSession where
  openPublicChannelIds : Finset UInt16
  /-- the events it has been sent -/
  shown : List SharedPublicChatEvent
  /-- a drain has failed -/
  failed : Bool

structure ChatState where
  hub : Hub ℕ SharedChatRecipient SharedPublicChatEvent ChatPublication
  sessions : ℕ → ChatSession

def ChatState.start : ChatState where
  hub := .empty
  sessions _ := ⟨∅, [], false⟩

inductive ChatStep where
  | register (playerId : ℕ) (playerName : String)
  | unregister (playerId : ℕ)
  | talk (endpoint : ℕ) (database later : GuildDatabase) (w : GameWorld) (characterId : ℕ)
      (request : NativeOtClientTalkRequest)
  | console (speakerName message : String)
  /-- the talk that has the lock tries its next recipient -/
  | deliver
  /-- one turn of the loop of `drain_shared_public_chat` -/
  | drain (endpoint : ℕ)
  | close (endpoint : ℕ)
  | join (endpoint : ℕ) (channelId : UInt16)
  | leave (endpoint : ℕ) (channelId : UInt16)

namespace ChatState

variable (profile : NativeOtClientProfile) (catalog : LegacyPublicChannelCatalog)
  (others : SharedNativeWorld)

/-- The lock of the table is free. -/
def isFree (s : ChatState) : Bool := s.hub.sending.isNone

def withSession (s : ChatState) (endpoint : ℕ) (session : ChatSession) : ChatState :=
  { s with sessions := Function.update s.sessions endpoint session }

def registerPublicChatRecipient (s : ChatState) (playerId : ℕ) (playerName : String) :
    ChatState :=
  let recipient : SharedChatRecipient := ⟨playerName, s.hub.subscriptions.length⟩
  match (Shared.registerPublicChatRecipient playerId recipient
      { others with chatRecipients := s.hub.table }).1 with
  | .ok _ => { s with hub := s.hub.subscribe playerId recipient }
  | .error _ => s

def publish (s : ChatState) (publication : Option ChatPublication) : ChatState :=
  match publication with
  | none => s
  | some publication =>
    { s with hub := s.hub.publish publication (publication.audience.recipients s.hub.table) }

def drainSharedPublicChat (s : ChatState) (endpoint : ℕ) : ChatState :=
  match s.hub.channels.pending endpoint with
  | [] => s
  | event :: _ =>
    let session := s.sessions endpoint
    let s := { s with hub := s.hub.receive endpoint }
    match writtenChat profile session.openPublicChannelIds event with
    | .error _ =>
      { s with hub := s.hub.close endpoint }.withSession endpoint { session with failed := true }
    | .ok none => s
    | .ok (some _) => s.withSession endpoint { session with shown := session.shown ++ [event] }

/-- One step of one thread; a thread that waits for the lock of the table does nothing. -/
def step (s : ChatState) : ChatStep → ChatState
  | .register playerId playerName =>
    if s.isFree then s.registerPublicChatRecipient others playerId playerName else s
  | .unregister playerId => if s.isFree then { s with hub := s.hub.unsubscribe playerId } else s
  | .talk endpoint database later w characterId request =>
    if s.isFree then
      match SharedChat.applyNativeChatRouting catalog
          (s.sessions endpoint).openPublicChannelIds database later w characterId request with
      | .ok publication => s.publish publication
      | .error _ => s
    else s
  | .console speakerName message =>
    if s.isFree then s.publish (SharedChat.broadcastConsoleMessage speakerName message) else s
  | .deliver =>
    let hub := s.hub.deliver nativeOtclientSharedChatQueueCapacity SharedChatRecipient.sender
      ChatPublication.event
    { s with hub }
  | .drain endpoint => s.drainSharedPublicChat profile endpoint
  | .close endpoint => { s with hub := s.hub.close endpoint }
  | .join endpoint channelId =>
    if channelId ∈ catalog.ids then
      s.withSession endpoint { s.sessions endpoint with
        openPublicChannelIds := insert channelId (s.sessions endpoint).openPublicChannelIds }
    else s
  | .leave endpoint channelId =>
    s.withSession endpoint { s.sessions endpoint with
      openPublicChannelIds := (s.sessions endpoint).openPublicChannelIds.erase channelId }

end ChatState

/-! ### What is published -/

namespace ChatAudience

/-- A list of members names nobody twice. -/
def IsSet (audience : ChatAudience) : Prop :=
  match audience with
  | members memberIds => memberIds.Nodup
  | _ => True

theorem nodup_recipients {audience : ChatAudience} (h : audience.IsSet)
    (table : BTreeMap ℕ SharedChatRecipient) : (audience.recipients table).Nodup := by
  have hfilter : ∀ keep : ℕ × SharedChatRecipient → Bool,
      ((table.toList.filter keep).map Prod.fst).Nodup := fun keep =>
    (OrderedMap.nodup_keys table).sublist (List.filter_sublist.map Prod.fst)
  cases audience with
  | everyone => exact hfilter _
  | near => exact hfilter _
  | members memberIds => exact h
  | named recipientName =>
    show ((table.toList.find? _).map Prod.fst).toList.Nodup
    cases table.toList.find? fun e => e.2.playerName = recipientName with
    | none => exact List.nodup_nil
    | some e => exact List.nodup_singleton _

theorem mem_filter_keys {table : BTreeMap ℕ SharedChatRecipient}
    {keep : ℕ × SharedChatRecipient → Bool} {k : ℕ} {x : SharedChatRecipient}
    (hx : table[k]? = some x) :
    k ∈ (table.toList.filter keep).map Prod.fst ↔ keep (k, x) = true := by
  constructor
  · intro hk
    obtain ⟨⟨k', y⟩, hmem, hk'⟩ := List.mem_map.mp hk
    subst hk'
    obtain ⟨hmem, hkeep⟩ := List.mem_filter.mp hmem
    rw [Std.ExtTreeMap.mem_toList_iff_getElem?_eq_some] at hmem
    rw [hx] at hmem
    cases hmem
    exact hkeep
  · intro hkeep
    exact List.mem_map.mpr ⟨(k, x), List.mem_filter.mpr
      ⟨Std.ExtTreeMap.mem_toList_iff_getElem?_eq_some.mpr hx, hkeep⟩, rfl⟩

/-- Who is tried is meant. -/
theorem admits_of_mem {audience : ChatAudience} {table : BTreeMap ℕ SharedChatRecipient} {k : ℕ}
    {x : SharedChatRecipient} (hk : k ∈ audience.recipients table) (hx : table[k]? = some x) :
    audience.admits k x = true := by
  cases audience with
  | everyone => rfl
  | near => exact (mem_filter_keys hx).mp hk
  | members memberIds => exact decide_eq_true hk
  | named recipientName =>
    obtain ⟨⟨k', y⟩, hfind, rfl⟩ := Option.map_eq_some_iff.mp (Option.mem_toList.mp hk)
    have hmem := List.mem_of_find?_eq_some hfind
    have hfound := List.find?_some hfind
    rw [Std.ExtTreeMap.mem_toList_iff_getElem?_eq_some, hx] at hmem
    cases hmem
    exact hfound

/-- Nobody shares a name. -/
def UniqueNames (table : BTreeMap ℕ SharedChatRecipient) : Prop :=
  ∀ (k : ℕ) x (j : ℕ) y, table[k]? = some x → table[j]? = some y →
    SharedChatRecipient.playerName x = SharedChatRecipient.playerName y → k = j

/-- Who is meant is tried. -/
theorem mem_recipients {audience : ChatAudience} {table : BTreeMap ℕ SharedChatRecipient}
    (hnames : UniqueNames table) {k : ℕ} {x : SharedChatRecipient} (hx : table[k]? = some x) :
    k ∈ audience.recipients table ↔ audience.admits k x = true := by
  constructor
  · intro hk
    exact admits_of_mem hk hx
  · intro hadmits
    cases audience with
    | everyone => exact (mem_filter_keys hx).mpr rfl
    | near => exact (mem_filter_keys hx).mpr hadmits
    | members memberIds => exact of_decide_eq_true hadmits
    | named recipientName =>
      have hname : x.playerName = recipientName := of_decide_eq_true hadmits
      show k ∈ ((table.toList.find? fun e => e.2.playerName = recipientName).map Prod.fst).toList
      cases hfind : table.toList.find? fun e => e.2.playerName = recipientName with
      | none =>
        have hnone := List.find?_eq_none.mp hfind (k, x)
          (Std.ExtTreeMap.mem_toList_iff_getElem?_eq_some.mpr hx)
        exact absurd (decide_eq_true hname) hnone
      | some e =>
        have hmem := List.mem_of_find?_eq_some hfind
        rw [Std.ExtTreeMap.mem_toList_iff_getElem?_eq_some] at hmem
        have hfound : e.2.playerName = recipientName := by
          simpa using List.find?_some hfind
        have hk := hnames k x e.1 e.2 hx hmem (hname.trans hfound.symm)
        subst hk
        exact Option.mem_toList.mpr rfl

theorem length_recipients_named (table : BTreeMap ℕ SharedChatRecipient) (name : String) :
    ((named name).recipients table).length ≤ 1 := by
  show ((table.toList.find? _).map Prod.fst).toList.length ≤ 1
  cases table.toList.find? fun e => e.2.playerName = name with
  | none => exact Nat.zero_le _
  | some e => exact le_rfl

end ChatAudience

/-- What a player of the world has said. -/
structure SpokenBy (w : GameWorld) (senderId : ℕ) (p : ChatPublication) : Prop where
  speaker : ∃ sender, w.players[senderId]? = some sender ∧ p.event.speakerName = sender.name
  text : p.event.text ≠ "" ∧ p.event.text.utf8ByteSize ≤ nativeOtclientMaxChatTextBytes
  mode : p.event.talkMode ≠ nativeOtclientMessageGmBroadcast
  channel : p.event.channelId ≠ some 0
  alone : p.event.isPrivate = true → p.event.channelId = none
  members : p.audience.IsSet

namespace SharedChat

theorem speak_eq_some {w : GameWorld} {senderId : ℕ} {message : String}
    {publication : Player → String → ChatPublication} {p : ChatPublication}
    (h : speak w senderId message publication = .ok (some p)) : ∃ sender,
    w.players[senderId]? = some sender ∧ chatBody message ≠ [] ∧
      p = publication sender (truncateNativeChatText (chatBody message)) := by
  unfold speak at h
  split at h
  · cases h
  · next sender hsender =>
    split_ifs at h with hbody
    · cases h
    · cases h
      exact ⟨sender, hsender, hbody, rfl⟩

theorem nodup_guildMemberIds (database : GuildDatabase) (guildId : ℕ) :
    (guildMemberIds database guildId).Nodup := by
  have hrows : (database.guildMembership.rows.map GuildMembershipRecord.playerId).Nodup := by
    rw [List.Nodup, List.pairwise_map]
    refine database.guildMembership.apart.imp fun hclash heq => ?_
    rw [GuildMembershipRecord.clashes, decide_eq_false_iff_not] at hclash
    exact hclash heq
  exact hrows.sublist (((List.take_sublist _ _).trans List.filter_sublist).map _)

theorem say_ne_gmBroadcast : nativeOtclientMessageSay ≠ nativeOtclientMessageGmBroadcast := by
  decide

theorem guild_ne_zero : some nativeGuildChatChannelId ≠ some 0 := by decide

theorem spokenBy_broadcastChat {w : GameWorld} {senderId : ℕ} {message : String}
    {channelId : Option UInt16} {p : ChatPublication} (hchannel : channelId ≠ some 0)
    (h : broadcastChat w senderId message channelId = .ok (some p)) : SpokenBy w senderId p := by
  obtain ⟨sender, hsender, hbody, rfl⟩ := speak_eq_some h
  exact ⟨⟨sender, hsender, rfl⟩, ⟨truncate_ne_empty hbody, utf8ByteSize_truncate _⟩,
    say_ne_gmBroadcast, hchannel, (fun hprivate => by cases hprivate), trivial⟩

theorem spokenBy_broadcastRangedChat {w : GameWorld} {senderId : ℕ} {message : String}
    {rangeTiles : ℕ} {p : ChatPublication}
    (h : broadcastRangedChat w senderId message rangeTiles = .ok (some p)) :
    SpokenBy w senderId p := by
  obtain ⟨sender, hsender, hbody, rfl⟩ := speak_eq_some h
  refine ⟨⟨sender, hsender, rfl⟩, ⟨truncate_ne_empty hbody, utf8ByteSize_truncate _⟩, ?_,
    (fun hchannel => by cases hchannel), (fun hprivate => by cases hprivate), trivial⟩
  show (if rangeTiles ≤ nativeClassicWhisperRangeTiles then nativeOtclientMessageWhisper
    else nativeOtclientMessageYell) ≠ nativeOtclientMessageGmBroadcast
  split <;> decide

theorem spokenBy_sendPrivateChat {w : GameWorld} {senderId : ℕ} {recipientName message : String}
    {p : ChatPublication} (h : sendPrivateChat w senderId recipientName message = .ok (some p)) :
    SpokenBy w senderId p := by
  obtain ⟨sender, hsender, hbody, rfl⟩ := speak_eq_some h
  exact ⟨⟨sender, hsender, rfl⟩, ⟨truncate_ne_empty hbody, utf8ByteSize_truncate _⟩,
    say_ne_gmBroadcast, (fun hchannel => by cases hchannel), (fun _ => rfl), trivial⟩

theorem spokenBy_broadcastGuildChat {w : GameWorld} {senderId : ℕ} {message : String}
    {memberIds : List ℕ} (hids : memberIds.Nodup) {p : ChatPublication}
    (h : broadcastGuildChat w senderId message memberIds = .ok (some p)) :
    SpokenBy w senderId p := by
  obtain ⟨sender, hsender, hbody, rfl⟩ := speak_eq_some h
  exact ⟨⟨sender, hsender, rfl⟩, ⟨truncate_ne_empty hbody, utf8ByteSize_truncate _⟩,
    say_ne_gmBroadcast, guild_ne_zero, (fun hprivate => by cases hprivate), hids⟩

theorem spokenBy_routing {catalog : LegacyPublicChannelCatalog}
    {openPublicChannelIds : Finset UInt16} {database later : GuildDatabase} {w : GameWorld}
    {characterId : ℕ} {request : NativeOtClientTalkRequest} {p : ChatPublication}
    (h : applyNativeChatRouting catalog openPublicChannelIds database later w characterId request =
      .ok (some p)) : SpokenBy w characterId p := by
  unfold applyNativeChatRouting at h
  split_ifs at h with hprivate hchannel hwhisper hyell hguild hother hsay
  · split at h
    · cases h
    · exact spokenBy_sendPrivateChat h
  · split at h
    · cases h
    · next channelId _ =>
      split_ifs at h with hclosed
      · cases h
      · have hne : some channelId ≠ some 0 := by
          intro heq
          cases heq
          exact hclosed (.inr catalog.nonzero)
        exact spokenBy_broadcastChat hne h
  · exact spokenBy_broadcastRangedChat h
  · exact spokenBy_broadcastRangedChat h
  · split at h
    · cases h
    · exact spokenBy_broadcastGuildChat (nodup_guildMemberIds _ _) h
  · cases h
  · exact spokenBy_broadcastChat (fun hchannel => by cases hchannel) h
  · cases h

end SharedChat

/-! ### What holds in every run -/

namespace ChatState

variable {profile : NativeOtClientProfile} {catalog : LegacyPublicChannelCatalog}
  {others : SharedNativeWorld} {s : ChatState} {got : ℕ → List ℕ}

abbrev Addressed (p : ChatPublication) (playerId : ℕ) (recipient : SharedChatRecipient) : Prop :=
  p.audience.admits playerId recipient = true

structure Sound (s : ChatState) (got : ℕ → List ℕ) : Prop where
  queues : Multicast.Sound nativeOtclientSharedChatQueueCapacity SharedChatRecipient.sender
    ChatPublication.event Addressed s.hub got
  names : ChatAudience.UniqueNames s.hub.table
  narrow : ∀ p keys name, (p, keys) ∈ s.hub.log → p.audience = .named name → keys.length ≤ 1

theorem sound_start : Sound .start fun _ => [] where
  queues := .of_empty
  names k x j y hx := by simp [start, Hub.empty] at hx
  narrow p keys name hp := by cases hp

/-- A registration is refused, or nobody has the name or the identifier. -/
theorem register_cases (others : SharedNativeWorld) (s : ChatState) (playerId : ℕ)
    (playerName : String) :
    s.registerPublicChatRecipient others playerId playerName = s ∨
      (∀ (k : ℕ) x, s.hub.table[k]? = some x → x.playerName ≠ playerName) ∧
        s.hub.table[playerId]? = none ∧
        s.registerPublicChatRecipient others playerId playerName =
          { s with hub := s.hub.subscribe playerId ⟨playerName, s.hub.subscriptions.length⟩ } := by
  simp only [registerPublicChatRecipient]
  split
  · next hok =>
    right
    unfold Shared.registerPublicChatRecipient at hok
    split_ifs at hok with hempty
    · cases hok
    · rw [Fallible.bind_of_ok (Fallible.read_apply _ _)] at hok
      split_ifs at hok with hnames hid
      · cases hok
      · cases hok
      · refine ⟨fun k x hx heq => hnames ?_, by simpa using hid, rfl⟩
        rw [List.any_eq_true]
        exact ⟨(k, x), Std.ExtTreeMap.mem_toList_iff_getElem?_eq_some.mpr hx, by simpa using heq⟩
  · exact .inl rfl

theorem Sound.register (h : Sound s got) (hfree : s.hub.sending = none) (playerId : ℕ)
    (playerName : String) :
    Sound (s.registerPublicChatRecipient others playerId playerName) got := by
  rcases register_cases others s playerId playerName with heq | ⟨hnames, -, heq⟩
  · rw [heq]
    exact h
  · rw [heq]
    refine ⟨h.queues.subscribe hfree rfl, ?_, h.narrow⟩
    intro k x j y hx hy hname
    have hx : (s.hub.table.insert playerId _)[k]? = some x := hx
    have hy : (s.hub.table.insert playerId _)[j]? = some y := hy
    rw [Std.ExtTreeMap.getElem?_insert] at hx hy
    split at hx
    · next hk =>
      split at hy
      · next hj =>
        have hk : playerId = k := Std.LawfulEqOrd.eq_of_compare hk
        have hj : playerId = j := Std.LawfulEqOrd.eq_of_compare hj
        exact hk.symm.trans hj
      · cases hx
        exact absurd hname.symm (hnames j y hy)
    · split at hy
      · cases hy
        exact absurd hname (hnames k x hx)
      · exact h.names k x j y hx hy hname

theorem Sound.publish (h : Sound s got) {p : ChatPublication} (hp : p.audience.IsSet) :
    Sound (s.publish (some p)) got where
  queues := h.queues.publish (ChatAudience.nodup_recipients hp _)
    fun _ hk _ hx => ChatAudience.admits_of_mem hk hx
  names := h.names
  narrow q keys name hq hname := by
    rcases List.mem_append.mp hq with hold | hnew
    · exact h.narrow q keys name hold hname
    · cases List.mem_singleton.mp hnew
      rw [hname]
      exact ChatAudience.length_recipients_named _ _

theorem Sound.deliver (h : Sound s got) {hub : Hub ℕ SharedChatRecipient SharedPublicChatEvent
    ChatPublication} (hhub : Delivered nativeOtclientSharedChatQueueCapacity
      SharedChatRecipient.sender ChatPublication.event s.hub hub) :
    ∃ got', Sound { s with hub } got' := by
  obtain ⟨got', hqueues⟩ := h.queues.deliver hhub
  refine ⟨got', hqueues, fun k x j y hx hy => ?_, fun p keys name hp => ?_⟩
  · exact h.names k x j y (hhub.subscribed hx) (hhub.subscribed hy)
  · have hp : (p, keys) ∈ hub.log := hp
    rw [hhub.log_eq] at hp
    exact h.narrow p keys name hp

theorem Sound.receive (h : Sound s got) (endpoint : ℕ) :
    Sound { s with hub := s.hub.receive endpoint } got :=
  ⟨h.queues.receive endpoint, h.names, h.narrow⟩

theorem Sound.close (h : Sound s got) (endpoint : ℕ) :
    ∃ got', Sound { s with hub := s.hub.close endpoint } got' :=
  ⟨_, h.queues.close endpoint, h.names, h.narrow⟩

theorem Sound.withSession (h : Sound s got) (endpoint : ℕ) (session : ChatSession) :
    Sound (s.withSession endpoint session) got := ⟨h.queues, h.names, h.narrow⟩

/-- **What one step keeps.** -/
theorem Sound.step (h : Sound s got) (e : ChatStep) :
    ∃ got', Sound (s.step profile catalog others e) got' := by
  have hfree : s.isFree = true → s.hub.sending = none := fun hs => by
    simpa [isFree] using hs
  cases e with
  | register playerId playerName =>
    simp only [ChatState.step]
    split
    · next hs => exact ⟨got, h.register (hfree hs) playerId playerName⟩
    · exact ⟨got, h⟩
  | unregister playerId =>
    simp only [ChatState.step]
    split
    · next hs =>
      refine ⟨got, h.queues.unsubscribe (hfree hs) playerId, fun k x j y hx hy => ?_, h.narrow⟩
      have hold : ∀ (k : ℕ) x, (s.hub.table.erase playerId)[k]? = some x →
          s.hub.table[k]? = some x := by
        intro k x hx
        rw [Std.ExtTreeMap.getElem?_erase] at hx
        split at hx
        · cases hx
        · exact hx
      exact h.names k x j y (hold k x hx) (hold j y hy)
    · exact ⟨got, h⟩
  | talk endpoint database later w characterId request =>
    simp only [ChatState.step]
    split
    · split
      · next publication hrouted =>
        cases publication with
        | none => exact ⟨got, h⟩
        | some p => exact ⟨got, h.publish (SharedChat.spokenBy_routing hrouted).members⟩
      · exact ⟨got, h⟩
    · exact ⟨got, h⟩
  | console speakerName message =>
    simp only [ChatState.step]
    split
    · unfold SharedChat.broadcastConsoleMessage
      split
      · exact ⟨got, h⟩
      · exact ⟨got, h.publish trivial⟩
    · exact ⟨got, h⟩
  | deliver => exact h.deliver (delivered _ _ _ s.hub)
  | drain endpoint =>
    simp only [ChatState.step, drainSharedPublicChat]
    split
    · exact ⟨got, h⟩
    · split
      · obtain ⟨got', hclosed⟩ := (h.receive endpoint).close endpoint
        exact ⟨got', hclosed.withSession _ _⟩
      · exact ⟨got, h.receive endpoint⟩
      · exact ⟨got, (h.receive endpoint).withSession _ _⟩
  | close endpoint => exact h.close endpoint
  | join endpoint channelId =>
    simp only [ChatState.step]
    split
    · exact ⟨got, h.withSession _ _⟩
    · exact ⟨got, h⟩
  | leave endpoint channelId => exact ⟨got, h.withSession _ _⟩

theorem sound_run (profile : NativeOtClientProfile) (catalog : LegacyPublicChannelCatalog)
    (others : SharedNativeWorld) (steps : List ChatStep) :
    ∃ got, Sound (steps.foldl (ChatState.step profile catalog others) .start) got := by
  have hrun : ∀ (s : ChatState) got, Sound s got →
      ∃ got', Sound (steps.foldl (ChatState.step profile catalog others) s) got' := by
    induction steps with
    | nil => exact fun s got h => ⟨got, h⟩
    | cons e steps ih =>
      intro s got h
      obtain ⟨got', h'⟩ := h.step e
      exact ih _ got' h'
  exact hrun _ _ sound_start

end ChatState

/-- **Every session gets its events in the order of their publication**, each at most once; each is
for its player, and a private one reaches nobody else. -/
theorem chat_in_order (profile : NativeOtClientProfile) (catalog : LegacyPublicChannelCatalog)
    (others : SharedNativeWorld) (steps : List ChatStep) :
    let s := steps.foldl (ChatState.step profile catalog others) .start
    ∃ got : ℕ → List ℕ, ∀ e,
      (s.hub.channels.pending e).length ≤ nativeOtclientSharedChatQueueCapacity ∧
      (got e).Pairwise (· < ·) ∧
      List.Forall₂ (fun i event => ∃ p keys k x, s.hub.log[i]? = some (p, keys) ∧ p.event = event ∧
        s.hub.subscriptions[e]? = some (k, x) ∧ p.audience.admits k x = true ∧
        ∀ name, p.audience = .named name → ∀ e', i ∈ got e' → e' = e)
        (got e) (s.hub.channels.seen e) := by
  intro s
  obtain ⟨got, h⟩ := ChatState.sound_run profile catalog others steps
  refine ⟨got, fun e => ⟨h.queues.bounded e, h.queues.ordered e, ?_⟩⟩
  refine (List.forall₂_and_left _ _).mpr ⟨fun i hi => hi, h.queues.events e⟩ |>.imp ?_
  intro i event hevent
  obtain ⟨hi, p, keys, hlog, hp⟩ := hevent
  obtain ⟨p', keys', k, x, hlog', hsubscription, hk, hadmits⟩ := h.queues.addressed e i hi
  rw [hlog] at hlog'
  cases hlog'
  refine ⟨p, keys, k, x, hlog, hp, hsubscription, hadmits, fun name hname e' hi' => ?_⟩
  obtain ⟨p'', keys'', k', x', hlog'', hsubscription', hk', -⟩ := h.queues.addressed e' i hi'
  rw [hlog] at hlog''
  cases hlog''
  have hnarrow := h.narrow p keys name (List.mem_of_getElem? hlog) hname
  have hkeys : k' = k := by
    match keys, hnarrow, hk, hk' with
    | [key], _, hk, hk' =>
      rw [List.mem_singleton.mp hk, List.mem_singleton.mp hk']
  subst hkeys
  exact h.queues.once i e' e k' x' x hi' hi hsubscription' hsubscription

/-! ### Nothing is lost while there is room -/

namespace ChatState

variable {profile : NativeOtClientProfile} {catalog : LegacyPublicChannelCatalog}
  {others : SharedNativeWorld} {s : ChatState} {playerId : ℕ} {recipient : SharedChatRecipient}
  {start : ℕ} {before : List SharedPublicChatEvent}

/-- The step leaves the recipient alone: it is not unregistered, its session does not end, and an
event that is offered to it finds room. -/
def Spares (profile : NativeOtClientProfile) (playerId : ℕ) (recipient : SharedChatRecipient)
    (s : ChatState) : ChatStep → Prop
  | .unregister p => p ≠ playerId
  | .close endpoint => recipient.sender ≠ endpoint
  | .deliver => HasRoom nativeOtclientSharedChatQueueCapacity SharedChatRecipient.sender playerId
      recipient s.hub
  | .drain endpoint => recipient.sender = endpoint → ∀ event events,
      s.hub.channels.pending endpoint = event :: events → ∃ written,
        writtenChat profile (s.sessions endpoint).openPublicChannelIds event = .ok written
  | _ => True

/-- The recipient has got all that was published for it since `start`. -/
structure Listening (playerId : ℕ) (recipient : SharedChatRecipient) (start : ℕ)
    (before : List SharedPublicChatEvent) (s : ChatState) : Prop where
  sound : ∃ got, Sound s got
  complete : Complete SharedChatRecipient.sender ChatPublication.event start playerId recipient
    before s.hub
  meant : ∀ entry ∈ s.hub.log.drop start,
    (playerId ∈ entry.2 ↔ entry.1.audience.admits playerId recipient = true)

theorem Listening.publish (h : Listening playerId recipient start before s)
    (hfree : s.hub.sending = none) {p : ChatPublication} (hp : p.audience.IsSet) :
    Listening playerId recipient start before (s.publish (some p)) := by
  obtain ⟨got, hsound⟩ := h.sound
  refine ⟨⟨got, hsound.publish hp⟩, h.complete.publish hfree _ _, ?_⟩
  intro entry hentry
  have hentry : entry ∈ (s.hub.log ++ [(p, p.audience.recipients s.hub.table)]).drop start := hentry
  rw [List.drop_append_of_le_length h.complete.started] at hentry
  rcases List.mem_append.mp hentry with hold | hnew
  · exact h.meant entry hold
  · rw [List.mem_singleton.mp hnew]
    exact ChatAudience.mem_recipients hsound.names h.complete.subscribed

theorem Listening.step (h : Listening playerId recipient start before s) (e : ChatStep)
    (he : s.Spares profile playerId recipient e) :
    Listening playerId recipient start before (s.step profile catalog others e) := by
  obtain ⟨got, hsound⟩ := h.sound
  have hnext : ∃ got', Sound (s.step profile catalog others e) got' := hsound.step e
  have hfree : s.isFree = true → s.hub.sending = none := fun hs => by
    simpa [isFree] using hs
  cases e with
  | register p name =>
    refine ⟨hnext, ?_, ?_⟩
    · simp only [ChatState.step]
      split
      · rcases register_cases others s p name with heq | ⟨-, hnone, heq⟩
        · rw [heq]
          exact h.complete
        · rw [heq]
          refine h.complete.subscribe (fun hp => ?_) _
          rw [hp, h.complete.subscribed] at hnone
          cases hnone
      · exact h.complete
    · simp only [ChatState.step]
      split
      · rcases register_cases others s p name with heq | ⟨-, -, heq⟩
        · rw [heq]
          exact h.meant
        · rw [heq]
          exact h.meant
      · exact h.meant
  | unregister p =>
    refine ⟨hnext, ?_, ?_⟩
    · simp only [ChatState.step]
      split
      · exact h.complete.unsubscribe he
      · exact h.complete
    · simp only [ChatState.step]
      split
      · exact h.meant
      · exact h.meant
  | talk endpoint database later w characterId request =>
    simp only [ChatState.step]
    split
    · next hs =>
      split
      · next publication hrouted =>
        cases publication with
        | none => exact h
        | some p => exact h.publish (hfree hs) (SharedChat.spokenBy_routing hrouted).members
      · exact h
    · exact h
  | console speakerName message =>
    simp only [ChatState.step]
    split
    · next hs =>
      unfold SharedChat.broadcastConsoleMessage
      split
      · exact h
      · exact h.publish (hfree hs) trivial
    · exact h
  | deliver =>
    have hdelivered := delivered nativeOtclientSharedChatQueueCapacity SharedChatRecipient.sender
      ChatPublication.event s.hub
    refine ⟨hnext, h.complete.deliver hsound.queues he hdelivered, ?_⟩
    simp only [ChatState.step]
    rw [hdelivered.log_eq]
    exact h.meant
  | drain endpoint =>
    simp only [ChatState.step, drainSharedPublicChat] at hnext ⊢
    split
    · exact h
    · next event events hpending =>
      simp only [hpending] at hnext
      split
      · next error hwritten =>
        refine ⟨?_, ?_, h.meant⟩
        · simpa only [hwritten] using hnext
        · refine (h.complete.receive endpoint).close fun hsender => ?_
          obtain ⟨written, hok⟩ := he hsender event events hpending
          rw [hwritten] at hok
          cases hok
      · exact ⟨⟨got, hsound.receive endpoint⟩, h.complete.receive endpoint, h.meant⟩
      · exact ⟨⟨got, (hsound.receive endpoint).withSession _ _⟩, h.complete.receive endpoint,
          h.meant⟩
  | close endpoint => exact ⟨hnext, h.complete.close he, h.meant⟩
  | join endpoint channelId =>
    simp only [ChatState.step]
    split
    · exact ⟨⟨got, hsound.withSession _ _⟩, h.complete, h.meant⟩
    · exact h
  | leave endpoint channelId => exact ⟨⟨got, hsound.withSession _ _⟩, h.complete, h.meant⟩

end ChatState

/-- **No event for a player is lost**, from any point of a run on, as long as the queue of the
player has room when events are offered to it. -/
theorem chat_complete (profile : NativeOtClientProfile) (catalog : LegacyPublicChannelCatalog)
    (others : SharedNativeWorld) (steps : List ChatStep) (s₀ : ChatState)
    (hs₀ : steps.foldl (ChatState.step profile catalog others) .start = s₀)
    (playerId : ℕ) (recipient : SharedChatRecipient)
    (hregistered : s₀.hub.table[playerId]? = some recipient)
    (hopen : s₀.hub.channels.closed recipient.sender = false) (hfree : s₀.hub.sending = none)
    (s : ChatState) (hrun : Reaches (ChatState.step profile catalog others)
      (ChatState.Spares profile playerId recipient) s₀ s) (hdone : s.hub.sending = none) :
    s.hub.channels.seen recipient.sender = s₀.hub.channels.seen recipient.sender ++
      ((s.hub.log.drop s₀.hub.log.length).filter fun entry =>
        entry.1.audience.admits playerId recipient).map fun entry => entry.1.event := by
  have hstart : ChatState.Listening playerId recipient s₀.hub.log.length
      (s₀.hub.channels.seen recipient.sender) s₀ := by
    refine ⟨?_, Complete.start_of hregistered hopen hfree, ?_⟩
    · rw [← hs₀]
      exact ChatState.sound_run profile catalog others steps
    · rw [List.drop_length]
      intro entry hentry
      cases hentry
  have hend := hrun.invariant (fun _ e h he => h.step e he) hstart
  rw [hend.complete.seen_eq hdone, Hub.due]
  congr 2
  apply List.filter_congr
  intro entry hentry
  rw [Bool.eq_iff_iff, decide_eq_true_eq]
  exact hend.meant entry hentry

/-- No public channels. -/
def noChannels : LegacyPublicChannelCatalog := ⟨∅, Finset.notMem_empty 0⟩

/-- The Knight comes, with an endpoint of its own. -/
def knightListens : ChatState :=
  [ChatStep.register 7 "Knight"].foldl
    (ChatState.step classic740Profile noChannels knightLeaves.shared) .start

/-- An announcement to whoever is there. -/
def announcement (text : String) : List ChatStep := [.console "Console" text, .deliver, .deliver]

theorem knightListens_hears : ((announcement " hello  world ").foldl
      (ChatState.step classic740Profile noChannels knightLeaves.shared)
      knightListens).hub.channels.seen 0 =
    [⟨"Console", ⟨0, 0, 0⟩, none, false, 9, "hello world"⟩] := by
  have hroom : Meets (ChatState.step classic740Profile noChannels knightLeaves.shared)
      (ChatState.Spares classic740Profile 7 ⟨"Knight", 0⟩) knightListens
      (announcement " hello  world ") :=
    ⟨trivial, fun _ _ _ => by decide +kernel, fun _ _ _ => by decide +kernel, trivial⟩
  rw [chat_complete classic740Profile noChannels knightLeaves.shared [.register 7 "Knight"]
    knightListens rfl 7 ⟨"Knight", 0⟩ (by decide +kernel) (by decide +kernel) (by decide +kernel) _
    (Reaches.start.foldl hroom) (by decide +kernel)]
  decide +kernel

/-! ### What the sessions are sent -/

namespace SharedPublicChatEvent

def IsAnnouncement (event : SharedPublicChatEvent) : Prop :=
  event.talkMode = nativeOtclientMessageGmBroadcast

/-- The announcement does not fit behind the name of its speaker. -/
def TooLong (event : SharedPublicChatEvent) : Prop :=
  event.IsAnnouncement ∧
    nativeOtclientMaxChatTextBytes < (event.speakerName ++ ": " ++ event.text).utf8ByteSize

/-- What is published by whomever. -/
structure Shape (event : SharedPublicChatEvent) : Prop where
  text : event.text ≠ "" ∧ event.text.utf8ByteSize ≤ nativeOtclientMaxChatTextBytes
  channel : event.channelId ≠ some 0
  alone : event.isPrivate = true → event.channelId = none
  announced : event.IsAnnouncement → event.isPrivate = false ∧ event.channelId = none

end SharedPublicChatEvent

open SharedPublicChatEvent

/-- The longest name that a player can be created with. -/
def maxPlayerNameBytes : ℕ := 32

/-- The name of a player: the world has none without, and the database none that is longer. -/
def NameFits (name : String) : Prop := name ≠ "" ∧ name.utf8ByteSize ≤ maxPlayerNameBytes

theorem length_utf8Bytes (s : String) : (utf8Bytes s).length = s.utf8ByteSize := rfl

theorem length_stringBytes_le (s : String) : (stringBytes s).length ≤ s.utf8ByteSize + 2 := by
  rw [stringBytes, List.length_append, length_toLE, List.length_take, length_utf8Bytes]
  omega

section Records

variable {profile : NativeOtClientProfile}

/-- A record that passes its checks fits into a frame. -/
theorem encodeNativeOtclientTalk_ok
    (hprofile : profile.supportsClassic740InventoryRecords = true) {fixedBytes : ℕ}
    (hfixed : fixedBytes ≤ 8) {speakerName text : String} (hname : NameFits speakerName)
    (htext : text ≠ "" ∧ text.utf8ByteSize ≤ nativeOtclientMaxChatTextBytes) {fields : List UInt8}
    (hfields : fields.length ≤ 6) : ∃ record, FrameFits record ∧
    encodeNativeOtclientTalk profile fixedBytes speakerName text true fields = .ok record := by
  have hsize : speakerName.utf8ByteSize ≤ 32 := hname.2
  have hlong : text.utf8ByteSize ≤ 255 := htext.2
  have hchecked : ¬(speakerName = "" ∨ true = false ∨ text = "" ∨
      nativeOtclientMaxChatTextBytes < text.utf8ByteSize) := by
    rw [not_or, not_or, not_or, not_lt]
    exact ⟨hname.1, by decide, htext.1, htext.2⟩
  have hroom : ¬maxFrameSize < speakerName.utf8ByteSize + text.utf8ByteSize + fixedBytes := by
    unfold maxFrameSize
    omega
  refine ⟨0xaa :: stringBytes speakerName ++ fields ++ stringBytes text, ?_, ?_⟩
  · have hspeaker := length_stringBytes_le speakerName
    have hspoken := length_stringBytes_le text
    unfold FrameFits maxFrameSize
    simp only [List.length_cons, List.length_append, List.cons_append]
    omega
  · rw [encodeNativeOtclientTalk, if_neg (by simp [hprofile]), if_neg hchecked, if_neg hroom]

/-- The text of an announcement decides alone. -/
theorem encodeNativeOtclientGameAnnouncement_ok
    (hprofile : profile.supportsClassic740InventoryRecords = true) {message : String}
    (hne : message ≠ "") (hlong : message.utf8ByteSize ≤ nativeOtclientMaxChatTextBytes) :
    ∃ record, FrameFits record ∧
      encodeNativeOtclientGameAnnouncement profile message = .ok record := by
  have hchecked : ¬(message = "" ∨ nativeOtclientMaxChatTextBytes < message.utf8ByteSize) := by
    rw [not_or, not_lt]
    exact ⟨hne, hlong⟩
  refine ⟨0xb4 :: 0x13 :: stringBytes message, ?_, ?_⟩
  · have hmessage := length_stringBytes_le message
    have hlong : message.utf8ByteSize ≤ 255 := hlong
    unfold FrameFits maxFrameSize
    simp only [List.length_cons]
    omega
  · rw [encodeNativeOtclientGameAnnouncement, if_neg (by simp [hprofile]), if_neg hchecked]

theorem writtenChat_of_fits {openPublicChannelIds : Finset UInt16}
    {event : SharedPublicChatEvent} {record : Frame} (hfits : FrameFits record)
    (h : chatRecord profile openPublicChannelIds event = .ok (some record)) :
    writtenChat profile openPublicChannelIds event = .ok (some (wire record)) := by
  rw [writtenChat, h]
  show (do return some (← encode record)) = _
  rw [encode_eq_ok.mpr ⟨hfits, rfl⟩]
  rfl

/-- A talk is passed over, or sent in one of the records of a talk. -/
theorem chatRecord_talk (openPublicChannelIds : Finset UInt16) {event : SharedPublicChatEvent}
    (hzero : event.channelId ≠ some 0) (hnot : ¬event.IsAnnouncement) :
    chatRecord profile openPublicChannelIds event = .ok none ∨
      ∃ fixedBytes fields, fixedBytes ≤ 8 ∧ fields.length ≤ 6 ∧
        chatRecord profile openPublicChannelIds event =
          (encodeNativeOtclientTalk profile fixedBytes event.speakerName event.text true
            fields).map some := by
  have hposition : ∀ mode : UInt8, (mode :: event.speakerPosition.bytes).length ≤ 6 := by
    intro mode
    simp [NativeOtClientPosition.bytes]
  cases hprivate : event.isPrivate with
  | true =>
    refine .inr ⟨6, [4], by decide, by decide, ?_⟩
    rw [chatRecord, if_pos hprivate]
    rfl
  | false =>
    have hpublic : ¬event.isPrivate = true := by simp [hprivate]
    cases hchannel : event.channelId with
    | some channelId =>
      by_cases hopen : channelId ∈ openPublicChannelIds
      · have hne : channelId ≠ 0 := fun heq => hzero (by rw [hchannel, heq])
        refine .inr ⟨7, 7 :: u16Bytes channelId, by decide, ?_, ?_⟩
        · rw [List.length_cons, length_u16Bytes]
          omega
        · rw [chatRecord, if_neg hpublic, hchannel]
          simp only [hopen, not_true, if_false]
          rw [encodeNativeOtclientPublicChannelSay, decide_eq_true hne]
      · left
        rw [chatRecord, if_neg hpublic, hchannel]
        simp only [hopen, not_false_iff, if_true]
    | none =>
      have hmode : event.talkMode ≠ nativeOtclientMessageGmBroadcast := hnot
      by_cases hranged : event.talkMode = nativeOtclientMessageWhisper ∨
          event.talkMode = nativeOtclientMessageYell
      · refine .inr ⟨8, event.talkMode :: event.speakerPosition.bytes, le_rfl, hposition _, ?_⟩
        rw [chatRecord, if_neg hpublic, hchannel]
        simp only [hranged, if_true]
        rfl
      · refine .inr ⟨8, nativeOtclientMessageSay :: event.speakerPosition.bytes, le_rfl,
          hposition _, ?_⟩
        rw [chatRecord, if_neg hpublic, hchannel]
        simp only [hranged, hmode, if_false]
        rfl

/-- **Only an announcement that is too long cannot be sent.** -/
theorem writtenChat_error_iff (hprofile : profile.supportsClassic740InventoryRecords = true)
    (openPublicChannelIds : Finset UInt16) {event : SharedPublicChatEvent} (h : event.Shape)
    (hname : ¬event.IsAnnouncement → NameFits event.speakerName) :
    (∃ error, writtenChat profile openPublicChannelIds event = .error error) ↔ event.TooLong := by
  by_cases hannouncement : event.IsAnnouncement
  · obtain ⟨hprivate, hchannel⟩ := h.announced hannouncement
    have hrecord : chatRecord profile openPublicChannelIds event =
        (encodeNativeOtclientGameAnnouncement profile
          (event.speakerName ++ ": " ++ event.text)).map some := by
      have hmode : event.talkMode = nativeOtclientMessageGmBroadcast := hannouncement
      rw [chatRecord, hprivate, hchannel, hmode]
      rfl
    by_cases hlong :
        nativeOtclientMaxChatTextBytes < (event.speakerName ++ ": " ++ event.text).utf8ByteSize
    · refine ⟨fun _ => ⟨hannouncement, hlong⟩, fun _ => ?_⟩
      have herror : encodeNativeOtclientGameAnnouncement profile
          (event.speakerName ++ ": " ++ event.text) =
          .error (.stringTooLong (event.speakerName ++ ": " ++ event.text).utf8ByteSize) := by
        rw [encodeNativeOtclientGameAnnouncement, if_neg (by simp [hprofile]),
          if_pos (.inr hlong)]
      rw [writtenChat, hrecord, herror]
      exact ⟨_, rfl⟩
    · have hne : event.speakerName ++ ": " ++ event.text ≠ "" := by
        intro heq
        have hsize := congrArg String.utf8ByteSize heq
        rw [String.utf8ByteSize_append, String.utf8ByteSize_append] at hsize
        have hcolon : (": " : String).utf8ByteSize = 2 := by decide
        have hnone : ("" : String).utf8ByteSize = 0 := by decide
        omega
      obtain ⟨record, hfits, hok⟩ :=
        encodeNativeOtclientGameAnnouncement_ok hprofile hne (not_lt.mp hlong)
      constructor
      · intro herror
        obtain ⟨error, herror⟩ := herror
        rw [hok] at hrecord
        rw [writtenChat_of_fits hfits hrecord] at herror
        cases herror
      · intro htoolong
        exact absurd htoolong.2 hlong
  · have hfits := hname hannouncement
    have hnot : ¬event.TooLong := fun htoolong => hannouncement htoolong.1
    refine ⟨fun herror => ?_, fun htoolong => absurd htoolong hnot⟩
    obtain ⟨error, herror⟩ := herror
    exfalso
    rcases chatRecord_talk openPublicChannelIds h.channel hannouncement with
      hskip | ⟨fixedBytes, fields, hfixed, hfields, hrecord⟩
    · rw [writtenChat, hskip] at herror
      cases herror
    · obtain ⟨record, hframe, hok⟩ :=
        encodeNativeOtclientTalk_ok hprofile hfixed hfits h.text hfields
      rw [hok] at hrecord
      rw [writtenChat_of_fits hframe hrecord] at herror
      cases herror

end Records

theorem SpokenBy.shape {w : GameWorld} {senderId : ℕ} {p : ChatPublication}
    (h : SpokenBy w senderId p) : p.event.Shape where
  text := h.text
  channel := h.channel
  alone := h.alone
  announced hannouncement := absurd hannouncement h.mode

theorem shape_broadcastConsoleMessage {speakerName message : String} {p : ChatPublication}
    (h : SharedChat.broadcastConsoleMessage speakerName message = some p) :
    p.event.Shape ∧ p.event.IsAnnouncement := by
  unfold SharedChat.broadcastConsoleMessage at h
  split_ifs at h with hbody
  cases h
  exact ⟨⟨⟨truncate_ne_empty hbody, utf8ByteSize_truncate _⟩, (fun hzero => by cases hzero),
    (fun hprivate => by cases hprivate), fun _ => ⟨rfl, rfl⟩⟩, rfl⟩

namespace ChatState

variable {profile : NativeOtClientProfile} {catalog : LegacyPublicChannelCatalog}
  {others : SharedNativeWorld}

section Drain

variable {s : ChatState} {endpoint : ℕ} {event : SharedPublicChatEvent}
  {events : List SharedPublicChatEvent}

theorem drain_nothing (h : s.hub.channels.pending endpoint = []) :
    s.drainSharedPublicChat profile endpoint = s := by
  simp only [drainSharedPublicChat, h]

theorem drain_failed (h : s.hub.channels.pending endpoint = event :: events) {error : ProtocolError}
    (herror : writtenChat profile (s.sessions endpoint).openPublicChannelIds event = .error error) :
    s.drainSharedPublicChat profile endpoint =
      { s with hub := (s.hub.receive endpoint).close endpoint }.withSession endpoint
        { s.sessions endpoint with failed := true } := by
  simp only [drainSharedPublicChat, h, herror]

theorem drain_skipped (h : s.hub.channels.pending endpoint = event :: events)
    (hskip : writtenChat profile (s.sessions endpoint).openPublicChannelIds event = .ok none) :
    s.drainSharedPublicChat profile endpoint = { s with hub := s.hub.receive endpoint } := by
  simp only [drainSharedPublicChat, h, hskip]

theorem drain_shown (h : s.hub.channels.pending endpoint = event :: events) {bytes : List UInt8}
    (hok : writtenChat profile (s.sessions endpoint).openPublicChannelIds event =
      .ok (some bytes)) : s.drainSharedPublicChat profile endpoint =
      { s with hub := s.hub.receive endpoint }.withSession endpoint
        { s.sessions endpoint with shown := (s.sessions endpoint).shown ++ [event] } := by
  simp only [drainSharedPublicChat, h, hok]

end Drain

/-- Only a talk or an announcement is published. -/
theorem log_step (profile : NativeOtClientProfile) (catalog : LegacyPublicChannelCatalog)
    (others : SharedNativeWorld) (s : ChatState) (e : ChatStep) :
    (s.step profile catalog others e).hub.log = s.hub.log ∨ ∃ p keys,
      (s.step profile catalog others e).hub.log = s.hub.log ++ [(p, keys)] ∧
        ((∃ endpoint database later w characterId request,
          e = .talk endpoint database later w characterId request ∧ SpokenBy w characterId p) ∨
          ∃ speakerName message,
            SharedChat.broadcastConsoleMessage speakerName message = some p) := by
  cases e with
  | register playerId playerName =>
    left
    simp only [ChatState.step]
    split
    · rcases register_cases others s playerId playerName with heq | ⟨-, -, heq⟩
      · rw [heq]
      · rw [heq]
        rfl
    · rfl
  | unregister =>
    left
    simp only [ChatState.step]
    split <;> rfl
  | talk endpoint database later w characterId request =>
    simp only [ChatState.step]
    split
    · split
      · next publication hrouted =>
        cases publication with
        | none => exact .inl rfl
        | some p => exact .inr ⟨p, _, rfl, .inl ⟨endpoint, database, later, w, characterId, request,
            rfl, SharedChat.spokenBy_routing hrouted⟩⟩
      · exact .inl rfl
    · exact .inl rfl
  | console speakerName message =>
    simp only [ChatState.step]
    split
    · cases hp : SharedChat.broadcastConsoleMessage speakerName message with
      | none => exact .inl rfl
      | some p => exact .inr ⟨p, _, rfl, .inr ⟨speakerName, message, hp⟩⟩
    · exact .inl rfl
  | deliver => exact .inl (delivered _ _ _ s.hub).log_eq
  | drain endpoint =>
    left
    simp only [ChatState.step, drainSharedPublicChat]
    split
    · rfl
    · split <;> rfl
  | close => exact .inl rfl
  | join =>
    left
    simp only [ChatState.step]
    split <;> rfl
  | leave => exact .inl rfl

/-- All that is published has its shape. -/
def Shaped (s : ChatState) : Prop := ∀ p keys, (p, keys) ∈ s.hub.log → p.event.Shape

theorem Shaped.step {s : ChatState} (h : s.Shaped) (e : ChatStep) :
    (s.step profile catalog others e).Shaped := by
  intro p keys hp
  rcases log_step profile catalog others s e with heq | ⟨q, qkeys, heq, hq⟩
  · rw [heq] at hp
    exact h p keys hp
  · rw [heq] at hp
    rcases List.mem_append.mp hp with hold | hnew
    · exact h p keys hold
    · cases List.mem_singleton.mp hnew
      rcases hq with ⟨_, _, _, w, characterId, _, -, hspoken⟩ | ⟨_, _, hconsole⟩
      · exact hspoken.shape
      · exact (shape_broadcastConsoleMessage hconsole).1

/-- Who talks has a name that fits. -/
def NamesFit (_ : ChatState) : ChatStep → Prop
  | .talk _ _ _ w characterId _ => ∀ sender, w.players[characterId]? = some sender →
      NameFits sender.name
  | _ => True

/-- All speakers but those of announcements have a name that fits. -/
def Named (s : ChatState) : Prop :=
  ∀ p keys, (p, keys) ∈ s.hub.log → ¬p.event.IsAnnouncement → NameFits p.event.speakerName

theorem Named.step {s : ChatState} (h : s.Named) (e : ChatStep) (he : s.NamesFit e) :
    (s.step profile catalog others e).Named := by
  intro p keys hp hnot
  rcases log_step profile catalog others s e with heq | ⟨q, qkeys, heq, hq⟩
  · rw [heq] at hp
    exact h p keys hp hnot
  · rw [heq] at hp
    rcases List.mem_append.mp hp with hold | hnew
    · exact h p keys hold hnot
    · cases List.mem_singleton.mp hnew
      rcases hq with ⟨_, _, _, w, characterId, _, rfl, hspoken⟩ | ⟨_, _, hconsole⟩
      · obtain ⟨sender, hsender, hname⟩ := hspoken.speaker
        rw [hname]
        exact he sender hsender
      · exact absurd (shape_broadcastConsoleMessage hconsole).2 hnot

end ChatState

/-- **A session fails in a turn of its drain exactly when it has failed before, or the next event
is an announcement that is too long behind the name of its speaker.** -/
theorem chat_fails_iff (profile : NativeOtClientProfile)
    (hprofile : profile.supportsClassic740InventoryRecords = true)
    (catalog : LegacyPublicChannelCatalog) (others : SharedNativeWorld) (s : ChatState)
    (hrun : Reaches (ChatState.step profile catalog others) ChatState.NamesFit .start s)
    (endpoint : ℕ) :
    ((s.step profile catalog others (.drain endpoint)).sessions endpoint).failed = true ↔
      (s.sessions endpoint).failed = true ∨ ∃ event events,
        s.hub.channels.pending endpoint = event :: events ∧ event.TooLong := by
  have hsound : ∃ got, ChatState.Sound s got :=
    hrun.invariant (P := fun s => ∃ got, ChatState.Sound s got)
      (fun _ e h _ => h.elim fun _ h => h.step e) ⟨_, ChatState.sound_start⟩
  have hshaped : s.Shaped :=
    hrun.invariant (fun _ e h _ => h.step e) fun p keys hp => by cases hp
  have hnamed : s.Named :=
    hrun.invariant (fun _ e h he => h.step e he) fun p keys hp => by cases hp
  obtain ⟨got, hsound⟩ := hsound
  have hstep : s.step profile catalog others (.drain endpoint) =
      s.drainSharedPublicChat profile endpoint := rfl
  rw [hstep]
  cases hpending : s.hub.channels.pending endpoint with
  | nil =>
    rw [ChatState.drain_nothing hpending]
    simp
  | cons event events =>
    have hseen : event ∈ s.hub.channels.seen endpoint := by
      rw [Channels.seen, hpending]
      exact List.mem_append_right _ List.mem_cons_self
    obtain ⟨p, keys, hp, hevent⟩ := hsound.queues.published hseen
    have hiff := writtenChat_error_iff hprofile (s.sessions endpoint).openPublicChannelIds
      (hevent ▸ hshaped p keys hp) (hevent ▸ hnamed p keys hp)
    have hnext : (∃ event' events', event :: events = event' :: events' ∧ event'.TooLong) ↔
        event.TooLong := by simp
    rw [hnext, ← hiff]
    cases hwritten : writtenChat profile (s.sessions endpoint).openPublicChannelIds event with
    | error error =>
      rw [ChatState.drain_failed hpending hwritten]
      simp [ChatState.withSession]
    | ok written =>
      cases written with
      | none =>
        rw [ChatState.drain_skipped hpending hwritten]
        simp
      | some bytes =>
        rw [ChatState.drain_shown hpending hwritten]
        simp [ChatState.withSession]

/-- A text of 247 characters. -/
def longText : String := String.ofList (List.replicate 247 'x')

theorem longAnnouncement_fails : ((((ChatStep.register 7 "Knight" :: announcement longText).foldl
    (ChatState.step classic740Profile noChannels knightLeaves.shared) .start).step
      classic740Profile noChannels knightLeaves.shared (.drain 0)).sessions 0).failed = true := by
  have hnames : Meets (ChatState.step classic740Profile noChannels knightLeaves.shared)
      ChatState.NamesFit .start (.register 7 "Knight" :: announcement longText) :=
    ⟨trivial, trivial, trivial, trivial, trivial⟩
  refine (chat_fails_iff classic740Profile (by decide) noChannels knightLeaves.shared _
    (Reaches.start.foldl hnames) 0).mpr (.inr ?_)
  refine ⟨⟨"Console", ⟨0, 0, 0⟩, none, false, 9, longText⟩, [], ?_, ?_, ?_⟩
  · decide +kernel
  · rfl
  · decide +kernel

/-! ### Channels -/

theorem mem_open_of_written {profile : NativeOtClientProfile} {openPublicChannelIds : Finset UInt16}
    {event : SharedPublicChatEvent} {channelId : UInt16} {bytes : List UInt8}
    (hchannel : event.channelId = some channelId) (hprivate : event.isPrivate = false)
    (h : writtenChat profile openPublicChannelIds event = .ok (some bytes)) :
    channelId ∈ openPublicChannelIds := by
  by_contra hclosed
  have hskip : chatRecord profile openPublicChannelIds event = .ok none := by
    rw [chatRecord, hprivate, hchannel]
    simp only [Bool.false_eq_true, if_false, hclosed, not_false_iff, if_true]
  rw [writtenChat, hskip] at h
  cases h

namespace ChatState

variable {profile : NativeOtClientProfile} {catalog : LegacyPublicChannelCatalog}
  {others : SharedNativeWorld}

/-- A session has opened, and was shown, configured channels only. -/
structure OfConfigured (catalog : LegacyPublicChannelCatalog) (session : ChatSession) : Prop where
  opened : session.openPublicChannelIds ⊆ catalog.ids
  shown : ∀ event ∈ session.shown, ∀ channelId, event.channelId = some channelId →
    channelId ∈ catalog.ids

/-- All sessions have. -/
def Configured (catalog : LegacyPublicChannelCatalog) (s : ChatState) : Prop :=
  ∀ endpoint, OfConfigured catalog (s.sessions endpoint)

theorem Configured.withSession {s : ChatState} (h : s.Configured catalog) {endpoint : ℕ}
    {session : ChatSession} (hsession : OfConfigured catalog session) :
    (s.withSession endpoint session).Configured catalog := by
  intro e
  show OfConfigured catalog (Function.update s.sessions endpoint session e)
  by_cases he : e = endpoint
  · subst he
    rw [Function.update_self]
    exact hsession
  · rw [Function.update_of_ne he]
    exact h e

theorem Configured.drain {s : ChatState} (h : s.Configured catalog) {got : ℕ → List ℕ}
    (hsound : Sound s got) (hshaped : s.Shaped) (endpoint : ℕ) :
    (s.drainSharedPublicChat profile endpoint).Configured catalog := by
  have hsession := h endpoint
  cases hpending : s.hub.channels.pending endpoint with
  | nil =>
    rw [drain_nothing hpending]
    exact h
  | cons event events =>
    cases hwritten : writtenChat profile (s.sessions endpoint).openPublicChannelIds event with
    | error error =>
      rw [drain_failed hpending hwritten]
      exact Configured.withSession (s := { s with hub := _ }) h ⟨hsession.opened, hsession.shown⟩
    | ok written =>
      cases written with
      | none =>
        rw [drain_skipped hpending hwritten]
        exact h
      | some bytes =>
        rw [drain_shown hpending hwritten]
        refine Configured.withSession (s := { s with hub := _ }) h ⟨hsession.opened, ?_⟩
        intro shown hshown channelId hchannel
        rcases List.mem_append.mp hshown with hold | hnew
        · exact hsession.shown shown hold channelId hchannel
        · obtain rfl := List.mem_singleton.mp hnew
          have hseen : shown ∈ s.hub.channels.seen endpoint := by
            rw [Channels.seen, hpending]
            exact List.mem_append_right _ List.mem_cons_self
          obtain ⟨p, keys, hp, rfl⟩ := hsound.queues.published hseen
          have hprivate : p.event.isPrivate = false := by
            cases hprivate : p.event.isPrivate with
            | false => rfl
            | true =>
              rw [(hshaped p keys hp).alone hprivate] at hchannel
              cases hchannel
          exact hsession.opened (mem_open_of_written hchannel hprivate hwritten)

theorem Configured.step {s : ChatState} (h : s.Configured catalog) {got : ℕ → List ℕ}
    (hsound : Sound s got) (hshaped : s.Shaped) (e : ChatStep) :
    (s.step profile catalog others e).Configured catalog := by
  cases e with
  | register playerId playerName =>
    simp only [ChatState.step]
    split
    · rcases register_cases others s playerId playerName with heq | ⟨-, -, heq⟩
      · rw [heq]
        exact h
      · rw [heq]
        exact h
    · exact h
  | unregister =>
    simp only [ChatState.step]
    split
    · exact h
    · exact h
  | talk =>
    simp only [ChatState.step]
    split
    · split
      · next publication _ =>
        cases publication with
        | none => exact h
        | some p => exact h
      · exact h
    · exact h
  | console speakerName message =>
    simp only [ChatState.step]
    split
    · cases SharedChat.broadcastConsoleMessage speakerName message with
      | none => exact h
      | some p => exact h
    · exact h
  | deliver => exact h
  | drain endpoint => exact h.drain hsound hshaped endpoint
  | close => exact h
  | join endpoint channelId =>
    simp only [ChatState.step]
    split
    · next hchannel =>
      refine h.withSession ⟨?_, (h endpoint).shown⟩
      exact Finset.insert_subset hchannel (h endpoint).opened
    · exact h
  | leave endpoint channelId =>
    exact h.withSession ⟨(Finset.erase_subset _ _).trans (h endpoint).opened, (h endpoint).shown⟩

end ChatState

/-- **A session is shown the channels of the configuration only**: what the members of a guild say
to each other it is not, unless the channel of the guilds is configured as a public one. -/
theorem chat_of_configured (profile : NativeOtClientProfile) (catalog : LegacyPublicChannelCatalog)
    (others : SharedNativeWorld) (steps : List ChatStep) (endpoint : ℕ) :
    ∀ event ∈ ((steps.foldl (ChatState.step profile catalog others) .start).sessions
      endpoint).shown, ∀ channelId, event.channelId = some channelId → channelId ∈ catalog.ids := by
  have hrun : ∀ (s : ChatState) got, ChatState.Sound s got → s.Shaped → s.Configured catalog →
      (steps.foldl (ChatState.step profile catalog others) s).Configured catalog := by
    induction steps with
    | nil => exact fun s got _ _ h => h
    | cons e steps ih =>
      intro s got hsound hshaped h
      obtain ⟨got', hsound'⟩ := hsound.step e
      exact ih _ got' hsound' (hshaped.step e) (h.step hsound hshaped e)
  refine (hrun .start _ ChatState.sound_start (fun p keys hp => by cases hp) fun e => ?_) endpoint
    |>.shown
  exact ⟨Finset.empty_subset _, fun event hevent => by cases hevent⟩

/-- The channel of the traders is configured. -/
def tradeChannel : LegacyPublicChannelCatalog := ⟨{5}, by decide⟩

/-- The Knight opens the channel, and is shown what he says there. -/
def knightTrades : List ChatStep :=
  [.register 7 "Knight", .join 0 5,
    .talk 0 (.fresh [7]) (.fresh [7]) knightLeaves.shared.world 7 ⟨7, some 5, none, "sell torch"⟩,
    .deliver, .deliver, .drain 0]

theorem knightTrades_configured :
    ((knightTrades.foldl (ChatState.step classic740Profile tradeChannel knightLeaves.shared)
      .start).sessions 0).shown =
        [⟨"Knight", ⟨100, 100, 7⟩, some 5, false, 1, "sell torch"⟩] ∧ 5 ∈ tradeChannel.ids := by
  have hshown : ((knightTrades.foldl (ChatState.step classic740Profile tradeChannel
      knightLeaves.shared) .start).sessions 0).shown =
        [⟨"Knight", ⟨100, 100, 7⟩, some 5, false, 1, "sell torch"⟩] := by decide +kernel
  refine ⟨hshown, ?_⟩
  refine chat_of_configured classic740Profile tradeChannel knightLeaves.shared knightTrades 0
    ⟨"Knight", ⟨100, 100, 7⟩, some 5, false, 1, "sell torch"⟩ ?_ 5 rfl
  rw [hshown]
  exact List.mem_singleton_self _

end ForgottenEngine
