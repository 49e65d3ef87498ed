import ForgottenEngine.ClientActions
import ForgottenEngine.Creatures

/-!
# The record of a creature the client does not know

Three writers make it: one for the player of the session, one for the other players and one for
the creatures of the world.

* `unknownPlayer`, `unknownVisiblePlayer`, `unknownStaticEntity` — the writers;
* `readUnknownCreature` — the reader of the client: remove id, id, name, health, direction, outfit,
  light, speed, skull and shield, where an outfit of look type zero is drawn as an item;
* `consumed_iff_keepsLayout` — the record of the player is read to its end, that of a creature
  when its look type is not zero, that of another player never;
* `no_common_reader` — so no reader at all consumes the records of every writer.
-/

namespace ForgottenEngine

open Fallible ByteCodec

def nativeOtclientUnknownCreature : UInt16 := 0x0061

/-! ### What the writers are given -/

/-- What the client is told about the world it enters. -/
structure NativeOtClientEmptyWorldSnapshot where
  playerId : UInt32
  playerName : String
  playerPosition : NativeOtClientPosition
  groundThingId : UInt16
  playerLookType : UInt8
  playerDirection : UInt8
  playerSpeed : UInt16
  serverBeat : UInt16
deriving DecidableEq, Repr

/-- Another player in sight. -/
structure NativeOtClientVisiblePlayer where
  playerId : UInt32
  name : String
  position : NativeOtClientPosition
  healthPercent : UInt8
  outfit : NativeOtClientClassicOutfit
  direction : UInt8
  speed : UInt16
deriving DecidableEq, Repr

/-- A creature of the world with what it looks like. -/
structure DrawnStaticEntity extends FeTfsStaticEntity where
  lookType : UInt8
  head : UInt8
  body : UInt8
  legs : UInt8
  feet : UInt8
  addons : UInt8
  speed : UInt16
deriving DecidableEq, Repr

/-! ### The writers -/

def writeNativeOtclientClassicOutfit (outfit : NativeOtClientClassicOutfit) : List UInt8 :=
  [outfit.lookType, outfit.head, outfit.body, outfit.legs, outfit.feet]

/-- The part all writers share: the marker, the id to remove, the id, the name, the health and
the direction. -/
def unknownCreatureHead (id : UInt32) (name : String) (healthPercent direction : UInt8) :
    List UInt8 :=
  u16Bytes nativeOtclientUnknownCreature ++ (u32Bytes 0 ++ (u32Bytes id ++ (stringBytes name ++
    ([healthPercent] ++ [direction]))))

def writeNativeOtclientUnknownPlayer (snapshot : NativeOtClientEmptyWorldSnapshot) : List UInt8 :=
  unknownCreatureHead snapshot.playerId snapshot.playerName 100 snapshot.playerDirection ++
    ([snapshot.playerLookType] ++
      (if snapshot.playerLookType = 0 then u16Bytes 0 else [0, 0, 0, 0]) ++
      ([0, 0] ++ (u16Bytes snapshot.playerSpeed ++ [0, 0])))

def writeNativeOtclientUnknownVisiblePlayer (player : NativeOtClientVisiblePlayer) : List UInt8 :=
  unknownCreatureHead player.playerId player.name player.healthPercent player.direction ++
    ((if player.outfit.lookType = 0 then u16Bytes 0
      else writeNativeOtclientClassicOutfit player.outfit ++ [0]) ++
      (u16Bytes player.speed ++ [0, 0]))

def writeNativeOtclientUnknownStaticEntity (entity : DrawnStaticEntity) : List UInt8 :=
  unknownCreatureHead (UInt32.ofNat entity.id) entity.name (UInt8.ofNat entity.healthPercent)
      (UInt8.ofNat entity.direction) ++
    ([entity.lookType, entity.head, entity.body, entity.legs, entity.feet, entity.addons, 0] ++
      (u16Bytes entity.speed ++ [0, 0]))

/-- A record by the writer that makes it. -/
inductive CreatureRecord where
  | player (snapshot : NativeOtClientEmptyWorldSnapshot)
  | visiblePlayer (other : NativeOtClientVisiblePlayer)
  | staticEntity (entity : DrawnStaticEntity)
deriving DecidableEq

def CreatureRecord.bytes : CreatureRecord → List UInt8
  | .player snapshot => writeNativeOtclientUnknownPlayer snapshot
  | .visiblePlayer other => writeNativeOtclientUnknownVisiblePlayer other
  | .staticEntity entity => writeNativeOtclientUnknownStaticEntity entity

/-! ### The reader -/

/-- What the client draws: an item, or a creature in colours. -/
inductive ClassicAppearance where
  | item (clientThingId : UInt16)
  | outfit (lookType head body legs feet : UInt8)
deriving DecidableEq, Repr

/-- A creature as the client reads it; the name is what bytes it is told. -/
structure UnknownCreature where
  removeId : UInt32
  id : UInt32
  name : List UInt8
  healthPercent : UInt8
  direction : UInt8
  appearance : ClassicAppearance
  lightLevel : UInt8
  lightColor : UInt8
  speed : UInt16
  skull : UInt8
  shield : UInt8
deriving DecidableEq, Repr

namespace UnknownCreature

open Reader

def readAppearance : Reader ClassicAppearance := do
  let lookType ← byte
  if lookType = 0 then do
    let clientThingId ← u16
    pure (.item clientThingId)
  else do
    let head ← byte
    let body ← byte
    let legs ← byte
    let feet ← byte
    pure (.outfit lookType head body legs feet)

/-- From the appearance on. -/
def readBody (removeId id : UInt32) (name : List UInt8) (healthPercent direction : UInt8) :
    Reader UnknownCreature := do
  let appearance ← readAppearance
  let lightLevel ← byte
  let lightColor ← byte
  let speed ← u16
  let skull ← byte
  let shield ← byte
  pure ⟨removeId, id, name, healthPercent, direction, appearance, lightLevel, lightColor, speed,
    skull, shield⟩

/-- From behind the marker on. -/
def readRecord : Reader UnknownCreature := do
  let removeId ← u32
  let id ← u32
  let name ← blob faults
  let healthPercent ← byte
  let direction ← byte
  readBody removeId id name healthPercent direction

end UnknownCreature

/-- The reader of a record, marker included. -/
def readUnknownCreature : Reader UnknownCreature := do
  let marker ← Reader.u16
  if marker ≠ nativeOtclientUnknownCreature then fail .invalidNativeGameRequest
  else UnknownCreature.readRecord

/-! ### What the reader makes of the records -/

/-- What the client is told of a name. -/
def toldName (name : String) : List UInt8 := (utf8Bytes name).take 65535

/-- The writers agree up to the direction. -/
theorem readUnknownCreature_head (id : UInt32) (name : String) (healthPercent direction : UInt8)
    (rest : List UInt8) :
    readUnknownCreature (unknownCreatureHead id name healthPercent direction ++ rest) =
      UnknownCreature.readBody 0 id (toldName name) healthPercent direction rest := by
  have hmarker : Reads Reader.u16 (u16Bytes nativeOtclientUnknownCreature) _ := reads_u16 _
  have hremove : Reads Reader.u32 (u32Bytes 0) 0 := reads_u32 0
  have hid : Reads Reader.u32 (u32Bytes id) id := reads_u32 id
  have hname : Reads (blob faults) (stringBytes name) (toldName name) := reads_blob name
  unfold unknownCreatureHead readUnknownCreature
  simp only [List.append_assoc]
  rw [hmarker.seq, if_neg (not_not_intro rfl), UnknownCreature.readRecord, hremove.seq, hid.seq,
    hname.seq]
  rfl

/-- An outfit in colours. -/
theorem reads_appearance_outfit {lookType : UInt8} (h : lookType ≠ 0)
    (head body legs feet : UInt8) :
    Reads UnknownCreature.readAppearance [lookType, head, body, legs, feet]
      (.outfit lookType head body legs feet) := by
  refine .bind (p := [lookType]) (q := [head, body, legs, feet]) (reads_byte lookType) ?_
  rw [if_neg h]
  exact fun _ => rfl

/-- The layout of an outfit in colours, with its light. -/
theorem reads_body_outfit (removeId id : UInt32) (name : List UInt8)
    (healthPercent direction : UInt8) {lookType : UInt8} (h : lookType ≠ 0)
    (head body legs feet lightLevel lightColor : UInt8) (speed : UInt16) (skull shield : UInt8) :
    Reads (UnknownCreature.readBody removeId id name healthPercent direction)
      ([lookType, head, body, legs, feet, lightLevel, lightColor] ++
        (u16Bytes speed ++ [skull, shield]))
      ⟨removeId, id, name, healthPercent, direction, .outfit lookType head body legs feet,
        lightLevel, lightColor, speed, skull, shield⟩ := by
  exact .bind (p := [lookType, head, body, legs, feet])
    (reads_appearance_outfit h head body legs feet)
    (.bind (p := [lightLevel]) (reads_byte lightLevel)
      (.bind (p := [lightColor]) (reads_byte lightColor)
        (.bind (reads_u16 speed) fun _ => rfl)))

/-- The layout of a creature drawn as an item, with its light. -/
theorem reads_body_item (removeId id : UInt32) (name : List UInt8)
    (healthPercent direction : UInt8) (clientThingId : UInt16) (lightLevel lightColor : UInt8)
    (speed : UInt16) (skull shield : UInt8) :
    Reads (UnknownCreature.readBody removeId id name healthPercent direction)
      ([0] ++ u16Bytes clientThingId ++ ([lightLevel, lightColor] ++
        (u16Bytes speed ++ [skull, shield])))
      ⟨removeId, id, name, healthPercent, direction, .item clientThingId, lightLevel, lightColor,
        speed, skull, shield⟩ := by
  have happearance : Reads UnknownCreature.readAppearance ([0] ++ u16Bytes clientThingId)
      (.item clientThingId) :=
    .bind (reads_byte 0) (.map (reads_u16 clientThingId))
  exact .bind happearance (.bind (p := [lightLevel]) (reads_byte lightLevel)
    (.bind (p := [lightColor]) (reads_byte lightColor) (.bind (reads_u16 speed) fun _ => rfl)))

/-- A reader of the body is a reader of the record. -/
theorem reads_of_body {id : UInt32} {name : String} {healthPercent direction : UInt8}
    {bytes : List UInt8} {creature : UnknownCreature}
    (h : Reads (UnknownCreature.readBody 0 id (toldName name) healthPercent direction) bytes
      creature) :
    Reads readUnknownCreature (unknownCreatureHead id name healthPercent direction ++ bytes)
      creature := by
  intro rest
  rw [List.append_assoc, readUnknownCreature_head]
  exact h rest

/-- What a record is to tell the client; the addons of a creature stand where its light is read. -/
def CreatureRecord.told : CreatureRecord → UnknownCreature
  | .player snapshot =>
    ⟨0, snapshot.playerId, toldName snapshot.playerName, 100, snapshot.playerDirection,
      if snapshot.playerLookType = 0 then .item 0 else .outfit snapshot.playerLookType 0 0 0 0,
      0, 0, snapshot.playerSpeed, 0, 0⟩
  | .visiblePlayer other =>
    ⟨0, other.playerId, toldName other.name, other.healthPercent, other.direction,
      if other.outfit.lookType = 0 then .item 0
      else .outfit other.outfit.lookType other.outfit.head other.outfit.body other.outfit.legs
        other.outfit.feet,
      0, 0, other.speed, 0, 0⟩
  | .staticEntity entity =>
    ⟨0, UInt32.ofNat entity.id, toldName entity.name, UInt8.ofNat entity.healthPercent,
      UInt8.ofNat entity.direction,
      .outfit entity.lookType entity.head entity.body entity.legs entity.feet, entity.addons, 0,
      entity.speed, 0, 0⟩

theorem reads_unknownPlayer (snapshot : NativeOtClientEmptyWorldSnapshot) :
    Reads readUnknownCreature (writeNativeOtclientUnknownPlayer snapshot)
      (CreatureRecord.player snapshot).told := by
  simp only [CreatureRecord.told]
  refine reads_of_body ?_
  by_cases h : snapshot.playerLookType = 0
  · rw [if_pos h, if_pos h, h]
    exact reads_body_item _ _ _ _ _ 0 0 0 snapshot.playerSpeed 0 0
  · rw [if_neg h, if_neg h]
    exact reads_body_outfit _ _ _ _ _ h 0 0 0 0 0 0 snapshot.playerSpeed 0 0

theorem reads_unknownStaticEntity (entity : DrawnStaticEntity) (h : entity.lookType ≠ 0) :
    Reads readUnknownCreature (writeNativeOtclientUnknownStaticEntity entity)
      (CreatureRecord.staticEntity entity).told :=
  reads_of_body (reads_body_outfit _ _ _ _ _ h entity.head entity.body entity.legs entity.feet
    entity.addons 0 entity.speed 0 0)

/-! ### Where the layouts differ -/

/-- The reader reads the record, and ends where the record ends. -/
def CreatureRecord.Consumed (record : CreatureRecord) : Prop :=
  ∃ creature, Reads readUnknownCreature record.bytes creature

/-- The records in the layout of the client. -/
def CreatureRecord.KeepsLayout : CreatureRecord → Prop
  | .player _ => True
  | .visiblePlayer _ => False
  | .staticEntity entity => entity.lookType ≠ 0

theorem reads_told {record : CreatureRecord} (h : record.KeepsLayout) :
    Reads readUnknownCreature record.bytes record.told := by
  cases record with
  | player snapshot => exact reads_unknownPlayer snapshot
  | visiblePlayer other => exact h.elim
  | staticEntity entity => exact reads_unknownStaticEntity entity h

/-- The record of another player is one byte short, or three: what is behind it is read with it. -/
theorem readUnknownCreature_visiblePlayer (player : NativeOtClientVisiblePlayer)
    (creature : UnknownCreature) (rest : List UInt8) :
    readUnknownCreature (writeNativeOtclientUnknownVisiblePlayer player ++ rest) ≠
      (.ok creature, rest) := by
  intro h
  rw [writeNativeOtclientUnknownVisiblePlayer, List.append_assoc, readUnknownCreature_head] at h
  by_cases hlook : player.outfit.lookType = 0
  · rw [if_pos hlook] at h
    -- the four zeros and the speed are taken for the item, the light and half of a speed
    match rest with
    | [] => cases h
    | [_] => cases h
    | [_, _] => cases h
    | _ :: _ :: _ :: rest => cases h
  · rw [if_neg hlook] at h
    have happearance := reads_appearance_outfit hlook player.outfit.head player.outfit.body
      player.outfit.legs player.outfit.feet
    have hbytes : writeNativeOtclientClassicOutfit player.outfit ++ [0] ++
        (u16Bytes player.speed ++ [0, 0]) ++ rest =
        [player.outfit.lookType, player.outfit.head, player.outfit.body, player.outfit.legs,
          player.outfit.feet] ++ ([0] ++ (u16Bytes player.speed ++ [0, 0]) ++ rest) := rfl
    rw [hbytes, UnknownCreature.readBody, happearance.seq] at h
    match rest with
    | [] => cases h
    | _ :: rest => cases h

/-- A creature of look type zero has colours where an item is read: two bytes of its record are
left. -/
theorem readUnknownCreature_staticEntity {entity : DrawnStaticEntity}
    (hlook : entity.lookType = 0) (creature : UnknownCreature) (rest : List UInt8) :
    readUnknownCreature (writeNativeOtclientUnknownStaticEntity entity ++ rest) ≠
      (.ok creature, rest) := by
  intro h
  rw [writeNativeOtclientUnknownStaticEntity, List.append_assoc, readUnknownCreature_head,
    hlook] at h
  have hlength : rest.length + 2 = rest.length := congrArg (fun r => r.2.length) h
  omega

/-- A record that is read to its end is in the layout, whatever stands behind it. -/
theorem keepsLayout_of_read {record : CreatureRecord} {creature : UnknownCreature}
    {rest : List UInt8} (h : readUnknownCreature (record.bytes ++ rest) = (.ok creature, rest)) :
    record.KeepsLayout := by
  cases record with
  | player snapshot => trivial
  | visiblePlayer other => exact readUnknownCreature_visiblePlayer other creature rest h
  | staticEntity entity =>
    exact fun hlook => readUnknownCreature_staticEntity hlook creature rest h

/-- **The layouts of the writers**: a record is consumed exactly when its writer keeps the layout
for what it is given. -/
theorem consumed_iff_keepsLayout (record : CreatureRecord) :
    record.Consumed ↔ record.KeepsLayout := by
  constructor
  · intro h
    obtain ⟨creature, h⟩ := h
    exact keepsLayout_of_read (h [])
  · intro h
    exact ⟨record.told, reads_told h⟩

/-- **No reader consumes what all the writers make**: the record of another player can be the
beginning of that of the player. -/
theorem no_common_reader :
    ¬∃ m : Reader UnknownCreature, ∀ record : CreatureRecord, ∃ a, Reads m record.bytes a := by
  intro h
  obtain ⟨m, hm⟩ := h
  obtain ⟨a, ha⟩ := hm (.player ⟨0x10000001, "Bob", ⟨100, 100, 7⟩, 102, 128, 2, 1, 50⟩)
  obtain ⟨b, hb⟩ := hm (.visiblePlayer ⟨0x10000001, "Bob", ⟨100, 100, 7⟩, 100,
    ⟨128, 0, 0, 0, 0⟩, 2, 256⟩)
  have hbytes : (CreatureRecord.player
      ⟨0x10000001, "Bob", ⟨100, 100, 7⟩, 102, 128, 2, 1, 50⟩).bytes =
        (CreatureRecord.visiblePlayer ⟨0x10000001, "Bob", ⟨100, 100, 7⟩, 100, ⟨128, 0, 0, 0, 0⟩, 2,
          256⟩).bytes ++ [0] := by
    decide +kernel
  have hwhole := ha.apply
  rw [hbytes, hb [0]] at hwhole
  cases hwhole

end ForgottenEngine
