import ForgottenEngine.CreatureRecords
import ForgottenEngine.WorldMap

/-!
# The viewport a client is sent

A viewport is a header and then the cells of eight floors, eighteen by fourteen tiles each.  A cell
is written as the things on it and a marker that ends the tile.

* `encodeCell` — the things of one cell: its ground, up to eight items, the creatures and the other
  players on it, and in its own cell the player.  A thing is left out when it does not leave two
  bytes for this marker and four for each cell that follows;
* `encodeNativeOtclientMapViewport`, `encodeNativeOtclientMapStep` — the whole viewport, and the row
  or column that a step uncovers;
* `Writes` — what an operation of the writer does: it writes a part of what it is to write, all of
  it when nothing is left out, and does not use up what is reserved;
* `encodeCells_spec` — **every cell has its ground and its marker**, whatever is left out, and the
  frame is never too long.
-/

namespace ForgottenEngine

open ByteCodec

def nativeOtclientTileEnd : ℕ := 0xff00

def nativeOtclientClassicMapWidth : ℕ := 18

def nativeOtclientClassicMapHeight : ℕ := 14

def nativeOtclientClassicSurfaceFloors : ℕ := 8

def nativeOtclientMaxExtraTileItems : ℕ := 8

def nativeOtclientMaxStaticEntitiesPerViewport : ℕ := 32

def nativeOtclientMaxSharedPlayersPerViewport : ℕ := 32

def nativeOtclientPlayerIdStart : ℕ := 0x10000000

def nativeOtclientPlayerIdEnd : ℕ := 0x40000000

/-! ### The writer -/

/-- What is written of a cell. -/
inductive MapRecord where
  | thing (id : ℕ)
  | creature (record : CreatureRecord)
  | tileEnd
deriving DecidableEq

def MapRecord.bytes : MapRecord → List UInt8
  | .thing id => toLE 2 id
  | .creature record => record.bytes
  | .tileEnd => toLE 2 nativeOtclientTileEnd

/-- The bytes of some records. -/
def recordBytes (records : List MapRecord) : List UInt8 := records.flatMap MapRecord.bytes

/-- The writer, with the counts of the encoder around it.  `leftOut` notes whether a record was
left out; nothing reads it. -/
structure MapWriter where
  header : List UInt8
  cells : List (List MapRecord)
  cell : List MapRecord
  staticEntityCount : ℕ
  visiblePlayerCount : ℕ
  leftOut : Bool

namespace MapWriter

def start (header : List UInt8) : MapWriter := ⟨header, [], [], 0, 0, false⟩

def bytes (self : MapWriter) : List UInt8 :=
  self.header ++ recordBytes (self.cells.flatten ++ self.cell)

def len (self : MapWriter) : ℕ := self.bytes.length

def push (self : MapWriter) (record : MapRecord) : MapWriter :=
  { self with cell := self.cell ++ [record] }

def leaveOut (self : MapWriter) : MapWriter := { self with leftOut := true }

/-- `writer.u16(NATIVE_OTCLIENT_TILE_END)`. -/
def endTile (self : MapWriter) : MapWriter :=
  { self with cells := self.cells ++ [self.cell ++ [.tileEnd]], cell := [] }

end MapWriter

def nativeMapRecordFitsBudget (writer : MapWriter) (recordBytes remainingCells : ℕ) : Prop :=
  writer.len + recordBytes + 2 + remainingCells * 4 ≤ maxFrameSize

instance (writer : MapWriter) (recordBytes remainingCells : ℕ) :
    Decidable (nativeMapRecordFitsBudget writer recordBytes remainingCells) :=
  inferInstanceAs (Decidable (_ ≤ _))

/-- A record that is written if it fits. -/
def offer (remainingCells : ℕ) (record : MapRecord) (writer : MapWriter) : MapWriter :=
  if nativeMapRecordFitsBudget writer record.bytes.length remainingCells then writer.push record
  else writer.leaveOut

/-- The ground of a cell, when it has one. -/
def writeGround (remainingCells groundThingId : ℕ) (writer : MapWriter) : MapWriter :=
  if groundThingId = 0 then writer else offer remainingCells (.thing groundThingId) writer

/-- The loop over the items: an item without an id is passed over, the first that does not fit ends
the loop. -/
def writeItems (remainingCells : ℕ) : List WorldMapItem → MapWriter → MapWriter
  | [], writer => writer
  | item :: items, writer =>
    let thingId := item.clientThingId.getD item.serverId
    if thingId = 0 then writeItems remainingCells items writer
    else if nativeMapRecordFitsBudget writer 2 remainingCells then
      writeItems remainingCells items (writer.push (.thing thingId))
    else writer.leaveOut

/-- The loop over the creatures of a cell. -/
def writeStaticEntities (remainingCells : ℕ) : List DrawnStaticEntity → MapWriter → MapWriter
  | [], writer => writer
  | entity :: entities, writer =>
    let record := CreatureRecord.staticEntity entity
    if nativeOtclientMaxStaticEntitiesPerViewport ≤ writer.staticEntityCount then writer.leaveOut
    else if nativeMapRecordFitsBudget writer record.bytes.length remainingCells then
      writeStaticEntities remainingCells entities
        { writer.push (.creature record) with staticEntityCount := writer.staticEntityCount + 1 }
    else writer.leaveOut

/-- The loop over the other players of a cell. -/
def writeVisiblePlayers (remainingCells : ℕ) :
    List NativeOtClientVisiblePlayer → MapWriter → MapWriter
  | [], writer => writer
  | player :: players, writer =>
    let record := CreatureRecord.visiblePlayer player
    if nativeOtclientMaxSharedPlayersPerViewport ≤ writer.visiblePlayerCount then writer.leaveOut
    else if nativeMapRecordFitsBudget writer record.bytes.length remainingCells then
      writeVisiblePlayers remainingCells players
        { writer.push (.creature record) with
          visiblePlayerCount := writer.visiblePlayerCount + 1 }
    else writer.leaveOut

/-! ### What is drawn -/

/-- What the encoders are given. -/
structure MapView where
  snapshot : NativeOtClientEmptyWorldSnapshot
  worldMap : WorldMap
  staticSpawns : Option (List DrawnStaticEntity)
  visiblePlayers : Option (List NativeOtClientVisiblePlayer)

namespace MapView

def assetFree (self : MapView) : Bool :=
  self.snapshot.groundThingId = 0 && self.snapshot.playerLookType = 0

def groundThingId (self : MapView) (position : Position) : ℕ :=
  (((self.worldMap.tile position).map WorldMapTile.groundThingId).filter (· ≠ 0)).getD
    self.snapshot.groundThingId.toNat

/-- The items above the ground that are drawn. -/
def extraItems (self : MapView) (position : Position) : List WorldMapItem :=
  (((self.worldMap.tileItemsAt position).getD []).drop 1).take nativeOtclientMaxExtraTileItems

def staticEntitiesAt (self : MapView) (position : Position) : List DrawnStaticEntity :=
  (self.staticSpawns.getD []).filter fun entity => entity.position = position

def visiblePlayersAt (self : MapView) (position : Position) : List NativeOtClientVisiblePlayer :=
  (self.visiblePlayers.getD []).filter fun player =>
    player.position.x.toNat = position.x ∧ player.position.y.toNat = position.y ∧
      player.position.z.toNat = position.z

/-- Who is drawn in the viewport: the player is not one of the others. -/
def showsOthers (self : MapView) (player : NativeOtClientVisiblePlayer) : Bool :=
  player.playerId ≠ self.snapshot.playerId

end MapView

/-- A cell of a window: the tile it shows, and whether it is that of the player. -/
structure WindowCell where
  position : Position
  isPlayerTile : Bool
deriving DecidableEq, Repr

/-- The other players of a cell; the encoders differ in which ones they draw. -/
def writeOtherPlayers (view : MapView) (shows : NativeOtClientVisiblePlayer → Bool)
    (remainingCells : ℕ) (position : Position) (writer : MapWriter) : MapWriter :=
  if view.assetFree then writer
  else writeVisiblePlayers remainingCells ((view.visiblePlayersAt position).filter shows) writer

/-- The player, in its own cell. -/
def writePlayer (view : MapView) (remainingCells : ℕ) (cell : WindowCell) (writer : MapWriter) :
    MapWriter :=
  if cell.isPlayerTile && !view.assetFree then
    offer remainingCells (.creature (.player view.snapshot)) writer
  else writer

/-- What is above the ground of a cell. -/
def writeAbove (view : MapView) (shows : NativeOtClientVisiblePlayer → Bool) (remainingCells : ℕ)
    (cell : WindowCell) (writer : MapWriter) : MapWriter :=
  let writer := writeItems remainingCells (view.extraItems cell.position) writer
  let writer := writeStaticEntities remainingCells (view.staticEntitiesAt cell.position) writer
  let writer := writeOtherPlayers view shows remainingCells cell.position writer
  writePlayer view remainingCells cell writer

/-- One cell of a frame of `totalCells`. -/
def encodeCell (view : MapView) (shows : NativeOtClientVisiblePlayer → Bool) (totalCells : ℕ)
    (cell : WindowCell) (writer : MapWriter) : MapWriter :=
  let remainingCells := totalCells - (writer.cells.length + 1)
  let writer := writeGround remainingCells (view.groundThingId cell.position) writer
  let writer := writeAbove view shows remainingCells cell writer
  writer.endTile

def encodeCells (view : MapView) (shows : NativeOtClientVisiblePlayer → Bool) (totalCells : ℕ)
    (cells : List WindowCell) (writer : MapWriter) : MapWriter :=
  cells.foldl (fun writer cell => encodeCell view shows totalCells cell writer) writer

/-! ### The encoders -/

/-- `saturating_add_signed`, with the offset from the first cell of the window. -/
def windowCoordinate (camera before offset : ℕ) : ℕ := min (camera + offset - before) u16Max

def centerX : ℕ := nativeOtclientClassicMapWidth / 2 - 1

def centerY : ℕ := nativeOtclientClassicMapHeight / 2 - 1

/-- The tile a cell of the window shows. -/
def windowPosition (camera : NativeOtClientPosition) (x y z : ℕ) : Position :=
  ⟨windowCoordinate camera.x.toNat centerX x, windowCoordinate camera.y.toNat centerY y, z⟩

/-- The floors, from the lowest one up. -/
def surfaceFloors : List ℕ := (List.range nativeOtclientClassicSurfaceFloors).reverse

def viewportWindow (camera : NativeOtClientPosition) : List WindowCell :=
  surfaceFloors.flatMap fun z =>
    (List.range nativeOtclientClassicMapWidth).flatMap fun x =>
      (List.range nativeOtclientClassicMapHeight).map fun y =>
        ⟨windowPosition camera x y z, z = camera.z.toNat && x = centerX && y = centerY⟩

/-- The row or column at the edge the player moves towards. -/
def stepWindow (camera : NativeOtClientPosition) (direction : CardinalDirection) :
    List WindowCell :=
  let edge (z : ℕ) : List Position :=
    match direction with
    | .north => (List.range nativeOtclientClassicMapWidth).map fun x => windowPosition camera x 0 z
    | .east => (List.range nativeOtclientClassicMapHeight).map fun y =>
        windowPosition camera (nativeOtclientClassicMapWidth - 1) y z
    | .south => (List.range nativeOtclientClassicMapWidth).map fun x =>
        windowPosition camera x (nativeOtclientClassicMapHeight - 1) z
    | .west => (List.range nativeOtclientClassicMapHeight).map fun y => windowPosition camera 0 y z
  surfaceFloors.flatMap fun z => (edge z).map fun position => ⟨position, false⟩

def validateNativeEmptyWorldSnapshot (profile : NativeOtClientProfile)
    (snapshot : NativeOtClientEmptyWorldSnapshot) : Except ProtocolError Unit :=
  if ¬profile.supportsCurrentNativeFoundation ∨
      ¬(nativeOtclientPlayerIdStart ≤ snapshot.playerId.toNat ∧
        snapshot.playerId.toNat < nativeOtclientPlayerIdEnd) ∨
      nativeOtclientClassicSurfaceFloors ≤ snapshot.playerPosition.z.toNat ∨
      3 < snapshot.playerDirection ∨ snapshot.playerSpeed = 0 ∨ snapshot.serverBeat = 0 ∨
      maxLoginStringBytes < (utf8Bytes snapshot.playerName).length then
    .error .unsupportedNativeClientProfile
  else .ok ()

/-- The frame, when it is not too long. -/
def finishFrame (writer : MapWriter) : Except ProtocolError (List UInt8) :=
  if maxFrameSize < writer.len then .error (.invalidLength writer.len) else .ok writer.bytes

def viewportHeader (camera : NativeOtClientPosition) : List UInt8 := 0x64 :: camera.bytes

/-- The writer at the end of the viewport. -/
def viewportWriter (view : MapView) : MapWriter :=
  encodeCells view view.showsOthers
    (nativeOtclientClassicMapWidth * nativeOtclientClassicMapHeight *
      nativeOtclientClassicSurfaceFloors)
    (viewportWindow view.snapshot.playerPosition)
    (.start (viewportHeader view.snapshot.playerPosition))

def encodeNativeOtclientMapViewport (profile : NativeOtClientProfile) (view : MapView) :
    Except ProtocolError (List UInt8) := do
  validateNativeEmptyWorldSnapshot profile view.snapshot
  finishFrame (viewportWriter view)

def stepOpcode : CardinalDirection → UInt8
  | .north => 0x65
  | .east => 0x66
  | .south => 0x67
  | .west => 0x68

/-- The writer at the end of a step; no player is passed over. -/
def stepWriter (view : MapView) (direction : CardinalDirection) : MapWriter :=
  encodeCells view (fun _ => true) (stepWindow view.snapshot.playerPosition direction).length
    (stepWindow view.snapshot.playerPosition direction) (.start [stepOpcode direction])

def encodeNativeOtclientMapStep (profile : NativeOtClientProfile) (view : MapView)
    (direction : CardinalDirection) : Except ProtocolError (List UInt8) := do
  validateNativeEmptyWorldSnapshot profile view.snapshot
  finishFrame (stepWriter view direction)

/-! ### What the writer does -/

theorem recordBytes_append (r s : List MapRecord) :
    recordBytes (r ++ s) = recordBytes r ++ recordBytes s := List.flatMap_append

namespace MapWriter

@[simp] theorem len_push (writer : MapWriter) (record : MapRecord) :
    (writer.push record).len = writer.len + record.bytes.length := by
  simp only [len, bytes, push, recordBytes, List.flatMap_append, List.length_append,
    List.flatMap_cons, List.flatMap_nil, List.append_nil]
  omega

@[simp] theorem len_endTile (writer : MapWriter) : writer.endTile.len = writer.len + 2 := by
  have htile : MapRecord.tileEnd.bytes.length = 2 := length_toLE 2 _
  simp only [len, bytes, endTile, recordBytes, List.flatten_append, List.flatMap_append,
    List.length_append, List.flatten_cons, List.flatten_nil, List.append_nil, List.flatMap_cons,
    List.flatMap_nil, htile]
  omega

@[simp] theorem len_leaveOut (writer : MapWriter) : writer.leaveOut.len = writer.len := rfl

/-- Room for the marker of this cell and for a ground and a marker in each cell behind it. -/
def Reserves (writer : MapWriter) (remainingCells : ℕ) : Prop :=
  writer.len + 2 + remainingCells * 4 ≤ maxFrameSize

end MapWriter

open MapWriter

/-- An operation that is to write `plan` in the cell: it writes a part of it, in its order, and the
whole when nothing is left out; it keeps the reserve. -/
structure Writes (remainingCells : ℕ) (plan : List MapRecord) (w w' : MapWriter) : Prop where
  header_eq : w'.header = w.header
  cells_eq : w'.cells = w.cells
  written : ∃ records, records.Sublist plan ∧ w'.cell = w.cell ++ records ∧
    (w'.leftOut = false → records = plan)
  leftOut : w.leftOut = true → w'.leftOut = true
  reserves : w.Reserves remainingCells → w'.Reserves remainingCells

namespace Writes

variable {remainingCells : ℕ} {plan plan' : List MapRecord} {w w' w'' : MapWriter}

theorem refl (remainingCells : ℕ) (w : MapWriter) : Writes remainingCells [] w w where
  header_eq := rfl
  cells_eq := rfl
  written := ⟨[], .slnil, (List.append_nil _).symm, fun _ => rfl⟩
  leftOut := id
  reserves := id

theorem trans (h : Writes remainingCells plan w w') (h' : Writes remainingCells plan' w' w'') :
    Writes remainingCells (plan ++ plan') w w'' where
  header_eq := h'.header_eq.trans h.header_eq
  cells_eq := h'.cells_eq.trans h.cells_eq
  written := by
    obtain ⟨r, hr, hcell, hwhole⟩ := h.written
    obtain ⟨r', hr', hcell', hwhole'⟩ := h'.written
    refine ⟨r ++ r', hr.append hr', ?_, ?_⟩
    · rw [hcell', hcell, List.append_assoc]
    · intro hleft
      have hbefore : w'.leftOut = false := by
        cases hw : w'.leftOut with
        | false => rfl
        | true => rw [h'.leftOut hw] at hleft; cases hleft
      rw [hwhole hbefore, hwhole' hleft]
  leftOut := fun hw => h'.leftOut (h.leftOut hw)
  reserves := fun hw => h'.reserves (h.reserves hw)

/-- Leaving out what is to be written. -/
theorem leaveOut (plan : List MapRecord) : Writes remainingCells plan w w.leaveOut where
  header_eq := rfl
  cells_eq := rfl
  written := ⟨[], List.nil_sublist plan, (List.append_nil _).symm, fun h => nomatch h⟩
  leftOut := fun _ => rfl
  reserves := id

/-- Writing a record that fits. -/
theorem push {r : MapRecord} (h : nativeMapRecordFitsBudget w r.bytes.length remainingCells) :
    Writes remainingCells [r] w (w.push r) where
  header_eq := rfl
  cells_eq := rfl
  written := ⟨[r], List.Sublist.refl _, rfl, fun _ => rfl⟩
  leftOut := id
  reserves := fun _ => by
    unfold Reserves
    rw [len_push]
    exact h

/-- The counts are of no account. -/
theorem recount (h : Writes remainingCells plan w w') (staticEntityCount visiblePlayerCount : ℕ) :
    Writes remainingCells plan w
      { w' with
        staticEntityCount := staticEntityCount
        visiblePlayerCount := visiblePlayerCount } where
  header_eq := h.header_eq
  cells_eq := h.cells_eq
  written := h.written
  leftOut := h.leftOut
  reserves := h.reserves

end Writes

theorem writes_offer (remainingCells : ℕ) (record : MapRecord) (w : MapWriter) :
    Writes remainingCells [record] w (offer remainingCells record w) := by
  unfold offer
  split
  · exact .push ‹_›
  · exact .leaveOut _

/-- The records of some items. -/
def itemRecords (items : List WorldMapItem) : List MapRecord :=
  ((items.map fun item => item.clientThingId.getD item.serverId).filter (· ≠ 0)).map .thing

theorem writes_writeItems (remainingCells : ℕ) (items : List WorldMapItem) (w : MapWriter) :
    Writes remainingCells (itemRecords items) w (writeItems remainingCells items w) := by
  induction items generalizing w with
  | nil => exact .refl _ w
  | cons item items ih =>
    simp only [writeItems]
    by_cases hid : item.clientThingId.getD item.serverId = 0
    · have hplan : itemRecords (item :: items) = itemRecords items := by
        simp [itemRecords, hid]
      rw [if_pos hid, hplan]
      exact ih w
    · have hplan : itemRecords (item :: items) =
          [.thing (item.clientThingId.getD item.serverId)] ++ itemRecords items := by
        simp [itemRecords, hid]
      rw [if_neg hid]
      split
      · rw [hplan]
        exact (Writes.push ‹_›).trans (ih _)
      · exact .leaveOut _

def staticEntityRecords (entities : List DrawnStaticEntity) : List MapRecord :=
  entities.map fun entity => .creature (.staticEntity entity)

theorem writes_writeStaticEntities (remainingCells : ℕ) (entities : List DrawnStaticEntity)
    (w : MapWriter) :
    Writes remainingCells (staticEntityRecords entities) w
      (writeStaticEntities remainingCells entities w) := by
  induction entities generalizing w with
  | nil => exact .refl _ w
  | cons entity entities ih =>
    simp only [writeStaticEntities]
    split
    · exact .leaveOut _
    · split
      · exact ((Writes.push (r := .creature (.staticEntity entity)) ‹_›).recount _ _).trans
          (ih _)
      · exact .leaveOut _

def visiblePlayerRecords (players : List NativeOtClientVisiblePlayer) : List MapRecord :=
  players.map fun player => .creature (.visiblePlayer player)

theorem writes_writeVisiblePlayers (remainingCells : ℕ)
    (players : List NativeOtClientVisiblePlayer) (w : MapWriter) :
    Writes remainingCells (visiblePlayerRecords players) w
      (writeVisiblePlayers remainingCells players w) := by
  induction players generalizing w with
  | nil => exact .refl _ w
  | cons player players ih =>
    simp only [writeVisiblePlayers]
    split
    · exact .leaveOut _
    · split
      · exact ((Writes.push (r := .creature (.visiblePlayer player)) ‹_›).recount _ _).trans
          (ih _)
      · exact .leaveOut _

/-! ### One cell -/

namespace MapView

/-- The ground of a cell. -/
def ground (self : MapView) (position : Position) : List MapRecord :=
  if self.groundThingId position = 0 then [] else [.thing (self.groundThingId position)]

/-- What is to be written of a cell above its ground. -/
def optional (self : MapView) (shows : NativeOtClientVisiblePlayer → Bool) (cell : WindowCell) :
    List MapRecord :=
  itemRecords (self.extraItems cell.position) ++
    (staticEntityRecords (self.staticEntitiesAt cell.position) ++
      ((if self.assetFree then []
        else visiblePlayerRecords ((self.visiblePlayersAt cell.position).filter shows)) ++
        if cell.isPlayerTile && !self.assetFree then [.creature (.player self.snapshot)] else []))

/-- A cell as it is written: its ground, some of what is above it, and its marker. -/
def CellWritten (self : MapView) (shows : NativeOtClientVisiblePlayer → Bool) (cell : WindowCell)
    (records : List MapRecord) : Prop :=
  ∃ above, above.Sublist (self.optional shows cell) ∧
    records = self.ground cell.position ++ (above ++ [.tileEnd])

/-- A cell with all that is to be written of it. -/
def wholeCell (self : MapView) (shows : NativeOtClientVisiblePlayer → Bool) (cell : WindowCell) :
    List MapRecord :=
  self.ground cell.position ++ (self.optional shows cell ++ [.tileEnd])

end MapView

/-- The things of a whole cell, kind by kind. -/
theorem forall_mem_things (view : MapView) (shows : NativeOtClientVisiblePlayer → Bool)
    (cell : WindowCell) (P : MapRecord → Prop) :
    (∀ record ∈ view.ground cell.position ++ view.optional shows cell, P record) ↔
      (view.groundThingId cell.position ≠ 0 → P (.thing (view.groundThingId cell.position))) ∧
      (∀ item ∈ view.extraItems cell.position, item.clientThingId.getD item.serverId ≠ 0 →
        P (.thing (item.clientThingId.getD item.serverId))) ∧
      (∀ entity ∈ view.staticEntitiesAt cell.position, P (.creature (.staticEntity entity))) ∧
      (view.assetFree = false → ∀ player ∈ view.visiblePlayersAt cell.position,
        shows player = true → P (.creature (.visiblePlayer player))) ∧
      (cell.isPlayerTile = true → view.assetFree = false →
        P (.creature (.player view.snapshot))) := by
  have hground : (∀ r ∈ view.ground cell.position, P r) ↔
      (view.groundThingId cell.position ≠ 0 → P (.thing (view.groundThingId cell.position))) := by
    unfold MapView.ground
    split <;> simp [*]
  have hitems : (∀ r ∈ itemRecords (view.extraItems cell.position), P r) ↔
      ∀ item ∈ view.extraItems cell.position, item.clientThingId.getD item.serverId ≠ 0 →
        P (.thing (item.clientThingId.getD item.serverId)) := by
    simp only [itemRecords, List.forall_mem_map, List.forall_mem_filter, decide_eq_true_eq]
  have hstatics : (∀ r ∈ staticEntityRecords (view.staticEntitiesAt cell.position), P r) ↔
      ∀ entity ∈ view.staticEntitiesAt cell.position, P (.creature (.staticEntity entity)) := by
    simp only [staticEntityRecords, List.forall_mem_map]
  have hplayers : (∀ r ∈ (if view.assetFree then [] else visiblePlayerRecords
      ((view.visiblePlayersAt cell.position).filter shows)), P r) ↔
      (view.assetFree = false → ∀ player ∈ view.visiblePlayersAt cell.position,
        shows player = true → P (.creature (.visiblePlayer player))) := by
    cases view.assetFree
    · simp only [visiblePlayerRecords, Bool.false_eq_true, if_false, List.forall_mem_map,
        List.forall_mem_filter, forall_const]
    · simp
  have hplayer : (∀ r ∈ (if cell.isPlayerTile && !view.assetFree then
      [MapRecord.creature (.player view.snapshot)] else []), P r) ↔
      (cell.isPlayerTile = true → view.assetFree = false →
        P (.creature (.player view.snapshot))) := by
    cases cell.isPlayerTile <;> cases view.assetFree <;> simp
  unfold MapView.optional
  simp only [List.forall_mem_append, hground, hitems, hstatics, hplayers, hplayer]

theorem mem_wholeCell {view : MapView} {shows : NativeOtClientVisiblePlayer → Bool}
    {cell : WindowCell} {record : MapRecord} :
    record ∈ view.wholeCell shows cell ↔
      record ∈ view.ground cell.position ++ view.optional shows cell ∨ record = .tileEnd := by
  simp only [MapView.wholeCell, List.mem_append, List.mem_singleton, or_assoc]

theorem ne_tileEnd_of_mem {view : MapView} {shows : NativeOtClientVisiblePlayer → Bool}
    {cell : WindowCell} {record : MapRecord}
    (h : record ∈ view.ground cell.position ++ view.optional shows cell) : record ≠ .tileEnd :=
  (forall_mem_things view shows cell (· ≠ .tileEnd)).mpr
    ⟨fun _ => nofun, fun _ _ _ => nofun, fun _ _ => nofun, fun _ _ _ _ => nofun,
      fun _ _ => nofun⟩ record h

variable {view : MapView} {shows : NativeOtClientVisiblePlayer → Bool}

/-- There is always room for the ground. -/
theorem writeGround_eq (position : Position) {remainingCells : ℕ} {w : MapWriter}
    (hroom : w.len + (remainingCells + 1) * 4 ≤ maxFrameSize) (hcell : w.cell = []) :
    writeGround remainingCells (view.groundThingId position) w =
      { w with cell := view.ground position } := by
  have hbytes : (MapRecord.thing (view.groundThingId position)).bytes.length = 2 :=
    length_toLE 2 _
  unfold writeGround MapView.ground
  split
  · rw [← hcell]
  · have hfits : nativeMapRecordFitsBudget w 2 remainingCells := by
      unfold nativeMapRecordFitsBudget
      omega
    rw [offer, hbytes, if_pos hfits, MapWriter.push, hcell, List.nil_append]

theorem length_ground_bytes (view : MapView) (position : Position) :
    (recordBytes (view.ground position)).length ≤ 2 := by
  unfold MapView.ground
  split
  · exact Nat.zero_le 2
  · exact Nat.le_refl 2

/-- The ground leaves the reserve. -/
theorem reserves_ground {remainingCells : ℕ} {position : Position} {w : MapWriter}
    (hroom : w.len + (remainingCells + 1) * 4 ≤ maxFrameSize) (hcell : w.cell = []) :
    MapWriter.Reserves { w with cell := view.ground position } remainingCells := by
  have hlen : MapWriter.len { w with cell := view.ground position } =
      w.len + (recordBytes (view.ground position)).length := by
    simp only [MapWriter.len, MapWriter.bytes, hcell, List.append_nil, recordBytes_append,
      List.length_append]
    omega
  have hground := length_ground_bytes view position
  unfold MapWriter.Reserves
  omega

theorem writes_writeOtherPlayers (remainingCells : ℕ) (position : Position) (w : MapWriter) :
    Writes remainingCells (if view.assetFree then []
      else visiblePlayerRecords ((view.visiblePlayersAt position).filter shows)) w
      (writeOtherPlayers view shows remainingCells position w) := by
  unfold writeOtherPlayers
  split
  · exact .refl _ w
  · exact writes_writeVisiblePlayers _ _ w

theorem writes_writePlayer (remainingCells : ℕ) (cell : WindowCell) (w : MapWriter) :
    Writes remainingCells
      (if cell.isPlayerTile && !view.assetFree then [.creature (.player view.snapshot)] else []) w
      (writePlayer view remainingCells cell w) := by
  unfold writePlayer
  split
  · exact writes_offer _ _ w
  · exact .refl _ w

theorem writes_writeAbove (remainingCells : ℕ) (cell : WindowCell) (w : MapWriter) :
    Writes remainingCells (view.optional shows cell) w
      (writeAbove view shows remainingCells cell w) :=
  (writes_writeItems _ _ w).trans ((writes_writeStaticEntities _ _ _).trans
    ((writes_writeOtherPlayers _ _ _).trans (writes_writePlayer _ _ _)))

/-- The state of the writer between two cells of a frame of `totalCells`: what is reserved for the
cells to come is left. -/
structure Between (totalCells : ℕ) (w : MapWriter) : Prop where
  cell_eq : w.cell = []
  room : w.len + (totalCells - w.cells.length) * 4 ≤ maxFrameSize

theorem encodeCell_spec (cell : WindowCell) {totalCells : ℕ} {w : MapWriter}
    (hw : Between totalCells w) (hlt : w.cells.length < totalCells) :
    ∃ records, (encodeCell view shows totalCells cell w).cells = w.cells ++ [records] ∧
      view.CellWritten shows cell records ∧
      ((encodeCell view shows totalCells cell w).leftOut = false →
        w.leftOut = false ∧ records = view.wholeCell shows cell) ∧
      (encodeCell view shows totalCells cell w).header = w.header ∧
      Between totalCells (encodeCell view shows totalCells cell w) := by
  obtain ⟨remainingCells, hremaining⟩ : ∃ n, totalCells - (w.cells.length + 1) = n := ⟨_, rfl⟩
  have hroom : w.len + (remainingCells + 1) * 4 ≤ maxFrameSize := by
    have hcount : totalCells - w.cells.length = remainingCells + 1 := by omega
    rw [← hcount]
    exact hw.room
  have hground : writeGround remainingCells (view.groundThingId cell.position) w =
      { w with cell := view.ground cell.position } := writeGround_eq cell.position hroom hw.cell_eq
  have hwrites : Writes remainingCells (view.optional shows cell)
      { w with cell := view.ground cell.position } _ := writes_writeAbove remainingCells cell _
  have hcell' : encodeCell view shows totalCells cell w =
      (writeAbove view shows remainingCells cell
        { w with cell := view.ground cell.position }).endTile := by
    rw [encodeCell, hremaining, hground]
  rw [hcell']
  obtain ⟨above, habove, hcell, hwhole⟩ := hwrites.written
  have hreserve := hwrites.reserves (reserves_ground hroom hw.cell_eq)
  refine ⟨view.ground cell.position ++ (above ++ [.tileEnd]), ?_, ⟨above, habove, rfl⟩, ?_,
    hwrites.header_eq, rfl, ?_⟩
  · rw [MapWriter.endTile, hcell, hwrites.cells_eq, List.append_assoc]
  · intro hleft
    refine ⟨?_, ?_⟩
    · cases hleftOut : w.leftOut with
      | false => rfl
      | true => exact nomatch (hwrites.leftOut hleftOut).symm.trans hleft
    · rw [hwhole hleft]
      rfl
  · have hcount : totalCells - (w.cells.length + 1) = remainingCells := hremaining
    rw [len_endTile, MapWriter.endTile, hwrites.cells_eq, List.length_append]
    show _ + 2 + (totalCells - (w.cells.length + 1)) * 4 ≤ maxFrameSize
    rw [hcount]
    exact hreserve

theorem writes_writeGround (remainingCells : ℕ) (position : Position) (w : MapWriter) :
    Writes remainingCells (view.ground position) w
      (writeGround remainingCells (view.groundThingId position) w) := by
  unfold writeGround MapView.ground
  split
  · exact .refl _ w
  · exact writes_offer _ _ w

/-! ### A whole frame -/

theorem encodeCells_append (totalCells : ℕ) (before after : List WindowCell) (w : MapWriter) :
    encodeCells view shows totalCells (before ++ after) w =
      encodeCells view shows totalCells after (encodeCells view shows totalCells before w) :=
  List.foldl_append

/-- What is written of some cells stays. -/
theorem cells_prefix (totalCells : ℕ) (cells : List WindowCell) (w : MapWriter) :
    w.cells <+: (encodeCells view shows totalCells cells w).cells := by
  induction cells generalizing w with
  | nil => exact List.prefix_refl _
  | cons cell cells ih =>
    refine List.IsPrefix.trans ?_ (ih (encodeCell view shows totalCells cell w))
    have hcells : (writeAbove view shows (totalCells - (w.cells.length + 1)) cell
        (writeGround (totalCells - (w.cells.length + 1)) (view.groundThingId cell.position)
          w)).cells = w.cells :=
      ((writes_writeGround _ cell.position w).trans (writes_writeAbove _ cell _)).cells_eq
    rw [encodeCell, MapWriter.endTile, hcells]
    exact List.prefix_append _ _

/-- **The cells of a frame**, in the order of the window: each has its ground, some of what is above
it, and its marker; all of it when nothing is left out.  The reserve is never used up. -/
theorem encodeCells_spec {totalCells : ℕ} (cells : List WindowCell) {w : MapWriter}
    (hw : Between totalCells w) (hcount : w.cells.length + cells.length ≤ totalCells) :
    ∃ written, (encodeCells view shows totalCells cells w).cells = w.cells ++ written ∧
      List.Forall₂ (view.CellWritten shows) cells written ∧
      ((encodeCells view shows totalCells cells w).leftOut = false →
        w.leftOut = false ∧ written = cells.map (view.wholeCell shows)) ∧
      (encodeCells view shows totalCells cells w).header = w.header ∧
      Between totalCells (encodeCells view shows totalCells cells w) := by
  induction cells generalizing w with
  | nil =>
    exact ⟨[], (List.append_nil _).symm, .nil, fun h => ⟨h, rfl⟩, rfl, hw⟩
  | cons cell cells ih =>
    rw [List.length_cons] at hcount
    obtain ⟨records, hcells, hrecords, hwhole, hheader, hbetween⟩ :
        ∃ records, (encodeCell view shows totalCells cell w).cells = w.cells ++ [records] ∧ _ :=
      encodeCell_spec cell hw (by omega)
    have hcount' : (encodeCell view shows totalCells cell w).cells.length + cells.length ≤
        totalCells := by
      rw [hcells, List.length_append, List.length_singleton]
      omega
    obtain ⟨written, hcells', hwritten, hwhole', hheader', hbetween'⟩ := ih hbetween hcount'
    refine ⟨records :: written, ?_, .cons hrecords hwritten, ?_, hheader'.trans hheader, hbetween'⟩
    · show (encodeCells view shows totalCells cells _).cells = _
      rw [hcells', hcells, List.append_assoc]
      rfl
    · intro hleft
      obtain ⟨hbefore, hrest⟩ := hwhole' hleft
      obtain ⟨hleftOut, hcell⟩ := hwhole hbefore
      exact ⟨hleftOut, by rw [hrest, hcell, List.map_cons]⟩

theorem between_start {header : List UInt8} {totalCells : ℕ}
    (h : header.length + totalCells * 4 ≤ maxFrameSize) : Between totalCells (.start header) := by
  refine ⟨rfl, ?_⟩
  have hlen : (MapWriter.start header).len = header.length := by
    show (header ++ []).length = _
    rw [List.append_nil]
  rw [hlen]
  exact h

/-- Every second part of a pairing has a first part. -/
theorem exists_of_forall₂ {α β : Type} {R : α → β → Prop} {as : List α} {bs : List β}
    (h : List.Forall₂ R as bs) {b : β} (hb : b ∈ bs) : ∃ a ∈ as, R a b := by
  induction h with
  | nil => cases hb
  | cons hab _ ih =>
    rcases List.mem_cons.mp hb with rfl | hlater
    · exact ⟨_, List.mem_cons_self .., hab⟩
    · obtain ⟨a, ha, hR⟩ := ih hlater
      exact ⟨a, List.mem_cons_of_mem _ ha, hR⟩

/-- A frame, as the writer holds it at its end. -/
structure FrameWritten (view : MapView) (shows : NativeOtClientVisiblePlayer → Bool)
    (window : List WindowCell) (header : List UInt8) (w : MapWriter) : Prop where
  cells : List.Forall₂ (view.CellWritten shows) window w.cells
  whole : w.leftOut = false → w.cells = window.map (view.wholeCell shows)
  bytes_eq : w.bytes = header ++ recordBytes w.cells.flatten
  fits : w.len ≤ maxFrameSize

theorem frameWritten (view : MapView) (shows : NativeOtClientVisiblePlayer → Bool)
    (window : List WindowCell) (header : List UInt8)
    (h : header.length + window.length * 4 ≤ maxFrameSize) :
    FrameWritten view shows window header
      (encodeCells view shows window.length window (.start header)) := by
  have hstart := between_start h
  obtain ⟨written, hcells, hwritten, hwhole, hheader, hbetween⟩ :=
    encodeCells_spec window hstart (Nat.zero_add _).le
  have hcells' : (encodeCells view shows window.length window (.start header)).cells = written :=
    hcells
  constructor
  · rw [hcells']
    exact hwritten
  · intro hleft
    rw [hcells']
    exact (hwhole hleft).2
  · rw [MapWriter.bytes, hheader, hbetween.cell_eq, List.append_nil]
    rfl
  · have hroom := hbetween.room
    omega

theorem length_viewportWindow (camera : NativeOtClientPosition) :
    (viewportWindow camera).length = nativeOtclientClassicMapWidth *
      nativeOtclientClassicMapHeight * nativeOtclientClassicSurfaceFloors := by
  simp [viewportWindow, surfaceFloors, nativeOtclientClassicMapWidth,
    nativeOtclientClassicMapHeight, nativeOtclientClassicSurfaceFloors, List.length_flatMap]

theorem length_stepWindow_le (camera : NativeOtClientPosition) (direction : CardinalDirection) :
    (stepWindow camera direction).length ≤ 144 := by
  cases direction <;>
    simp [stepWindow, surfaceFloors, nativeOtclientClassicMapWidth,
      nativeOtclientClassicMapHeight, nativeOtclientClassicSurfaceFloors, List.length_flatMap]

theorem frameWritten_viewport (view : MapView) :
    FrameWritten view view.showsOthers (viewportWindow view.snapshot.playerPosition)
      (viewportHeader view.snapshot.playerPosition) (viewportWriter view) := by
  have h := frameWritten view view.showsOthers (viewportWindow view.snapshot.playerPosition)
    (viewportHeader view.snapshot.playerPosition)
  rw [length_viewportWindow] at h
  exact h (show 6 + 2016 * 4 ≤ 8192 by decide)

/-- The first cells of the viewport. -/
theorem viewport_prefix (view : MapView) {before after : List WindowCell}
    (h : viewportWindow view.snapshot.playerPosition = before ++ after) :
    (encodeCells view view.showsOthers (nativeOtclientClassicMapWidth *
      nativeOtclientClassicMapHeight * nativeOtclientClassicSurfaceFloors) before
        (.start (viewportHeader view.snapshot.playerPosition))).cells <+:
      (viewportWriter view).cells := by
  rw [viewportWriter, h, encodeCells_append]
  exact cells_prefix _ after _

theorem frameWritten_step (view : MapView) (direction : CardinalDirection) :
    FrameWritten view (fun _ => true) (stepWindow view.snapshot.playerPosition direction)
      [stepOpcode direction] (stepWriter view direction) := by
  refine frameWritten view _ _ _ ?_
  have hlength := length_stepWindow_le view.snapshot.playerPosition direction
  show 1 + _ ≤ 8192
  omega

theorem finishFrame_of_fits {w : MapWriter} (h : w.len ≤ maxFrameSize) :
    finishFrame w = .ok w.bytes := by
  rw [finishFrame, if_neg (by omega)]

end ForgottenEngine
