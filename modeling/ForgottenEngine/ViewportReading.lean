import ForgottenEngine.MapViewport

/-!
# How a client reads a viewport

The client reads a tile as things, up to a marker, which also says how many tiles behind it are
empty.  What its data say about an item decides whether a subtype follows the id.

* `readThing`, `readTile`, `readTiles`, `readViewport` — the reader;
* `ReadBack` — wherever the client stands in front of a record, it reads this record and then
  stands in front of the next;
* `readBack_iff` — the client reads back what is written when every record written is one it can
  read in place: a plain item, or a creature in its layout;
* `readViewport_of_readBack` — **then it draws every tile in its cell**;
* `described_iff_drawsPlainly` — when that is so.
-/

namespace ForgottenEngine

open Fallible ByteCodec

/-! ### The reader -/

/-- What the data of the client say about an item: whether its id is followed by a subtype. -/
abbrev ClientData : Type := UInt16 → Option Bool

inductive ClientThing where
  | skip (tiles : ℕ)
  | item (id : UInt16) (subtype : Option UInt8)
  | creature (creature : UnknownCreature)
deriving DecidableEq, Repr

def readThing (data : ClientData) : Reader ClientThing := do
  let id ← Reader.u16
  if nativeOtclientTileEnd ≤ id.toNat then pure (.skip (id.toNat - nativeOtclientTileEnd))
  else if id = nativeOtclientUnknownCreature then do
    let creature ← UnknownCreature.readRecord
    pure (.creature creature)
  else
    match data id with
    | none => fail .invalidNativeGameRequest
    | some false => pure (.item id none)
    | some true => do
      let subtype ← Reader.byte
      pure (.item id (some subtype))

/-- The things up to the marker, and how many empty tiles it announces. -/
def readTile (data : ClientData) : ℕ → Reader (List ClientThing × ℕ)
  | 0 => fail .truncated
  | fuel + 1 => do
    match ← readThing data with
    | .skip tiles => pure ([], tiles)
    | thing => do
      let tile ← readTile data fuel
      pure (thing :: tile.1, tile.2)

/-- Tiles, of which the first `skip` are empty. -/
def readTiles (data : ClientData) : (tiles skip : ℕ) → Reader (List (List ClientThing))
  | 0, _ => pure []
  | tiles + 1, skip + 1 => do
    let rest ← readTiles data tiles skip
    pure ([] :: rest)
  | tiles + 1, 0 => do
    let length ← read List.length
    let tile ← readTile data length
    let rest ← readTiles data tiles tile.2
    pure (tile.1 :: rest)

/-- A map of so many tiles, behind its opcode and the position of the camera. -/
def readMap (data : ClientData) (tiles : ℕ) :
    Reader (NativeOtClientPosition × List (List ClientThing)) := do
  let opcode ← Reader.byte
  if opcode ≠ 0x64 then fail .invalidNativeGameRequest
  else do
    let camera ← Reader.position
    let things ← readTiles data tiles 0
    pure (camera, things)

def readViewport (data : ClientData) : Reader (NativeOtClientPosition × List (List ClientThing)) :=
  readMap data (nativeOtclientClassicMapWidth * nativeOtclientClassicMapHeight *
    nativeOtclientClassicSurfaceFloors)

/-! ### What the records tell -/

def MapRecord.told : MapRecord → ClientThing
  | .thing id => .item (UInt16.ofNat id) none
  | .creature record => .creature record.told
  | .tileEnd => .skip 0

/-- An item id that the client takes for an item without a subtype. -/
def PlainThing (data : ClientData) (id : UInt16) : Prop :=
  id.toNat < nativeOtclientTileEnd ∧ id ≠ nativeOtclientUnknownCreature ∧ data id = some false

/-- A record the client can read in place. -/
def MapRecord.Readable (data : ClientData) : MapRecord → Prop
  | .thing id => PlainThing data (UInt16.ofNat id)
  | .creature record => record.KeepsLayout
  | .tileEnd => True

/-- Wherever the client stands in front of a record, it reads what the record is to tell, and then
stands in front of the next. -/
def ReadBack (data : ClientData) (records : List MapRecord) : Prop :=
  ∀ (before : List MapRecord) (record : MapRecord) (after : List MapRecord),
    records = before ++ record :: after →
      readThing data (record.bytes ++ recordBytes after) = (.ok record.told, recordBytes after)

/-! ### One record -/

theorem toLE_eq_u16Bytes (n : ℕ) : toLE 2 n = u16Bytes (UInt16.ofNat n) := by
  have hmod : (UInt16.ofNat n).toNat = n % 65536 := UInt16.toNat_ofNat'
  have hlow : UInt8.ofNat (n % 65536) = UInt8.ofNat n := by
    apply UInt8.toNat_inj.mp
    rw [UInt8.toNat_ofNat', UInt8.toNat_ofNat']
    omega
  have hhigh : UInt8.ofNat (n % 65536 / 256) = UInt8.ofNat (n / 256) := by
    apply UInt8.toNat_inj.mp
    rw [UInt8.toNat_ofNat', UInt8.toNat_ofNat']
    omega
  rw [u16Bytes, hmod]
  show [UInt8.ofNat n, UInt8.ofNat (n / 256)] =
    [UInt8.ofNat (n % 65536), UInt8.ofNat (n % 65536 / 256)]
  rw [hlow, hhigh]

theorem reads_id (id : ℕ) : Reads Reader.u16 (toLE 2 id) (UInt16.ofNat id) := by
  rw [toLE_eq_u16Bytes]
  exact reads_u16 _

/-- What the client makes of an item id. -/
theorem readThing_thing (data : ClientData) (id : ℕ) (rest : List UInt8) :
    readThing data ((MapRecord.thing id).bytes ++ rest) =
      (.ok (MapRecord.thing id).told, rest) ↔ PlainThing data (UInt16.ofNat id) := by
  rw [MapRecord.bytes, readThing, (reads_id id).seq, MapRecord.told, PlainThing]
  by_cases hmarker : nativeOtclientTileEnd ≤ (UInt16.ofNat id).toNat
  · rw [if_pos hmarker]
    refine iff_of_false (fun h => ?_) (fun h => absurd h.1 (Nat.not_lt.mpr hmarker))
    cases h
  rw [if_neg hmarker]
  by_cases hcreature : UInt16.ofNat id = nativeOtclientUnknownCreature
  · rw [if_pos hcreature]
    refine iff_of_false (fun h => ?_) (fun h => h.2.1 hcreature)
    rw [bind_eq_ok] at h
    obtain ⟨creature, t, -, h⟩ := h
    cases h
  rw [if_neg hcreature]
  cases hdata : data (UInt16.ofNat id) with
  | none =>
    refine iff_of_false (fun h => ?_) (fun h => ?_)
    · cases h
    · cases h.2.2
  | some subtyped =>
    cases subtyped with
    | false => exact iff_of_true rfl ⟨Nat.lt_of_not_le hmarker, hcreature, rfl⟩
    | true =>
      refine iff_of_false (fun h => ?_) (fun h => by cases h.2.2)
      simp only [bind_eq_ok] at h
      obtain ⟨subtype, t, -, h⟩ := h
      cases h

/-- Behind the marker of a creature its record is read. -/
theorem readThing_creature (data : ClientData) (record : CreatureRecord) (rest : List UInt8)
    (creature : UnknownCreature) (rest' : List UInt8) :
    readThing data (record.bytes ++ rest) = (.ok (.creature creature), rest') ↔
      readUnknownCreature (record.bytes ++ rest) = (.ok creature, rest') := by
  obtain ⟨tail, htail⟩ : ∃ tail, record.bytes = u16Bytes nativeOtclientUnknownCreature ++ tail := by
    cases record with
    | player snapshot => exact ⟨_, List.append_assoc _ _ _⟩
    | visiblePlayer other => exact ⟨_, List.append_assoc _ _ _⟩
    | staticEntity entity => exact ⟨_, List.append_assoc _ _ _⟩
  have hmarker : Reads Reader.u16 (u16Bytes nativeOtclientUnknownCreature) _ := reads_u16 _
  rw [htail, List.append_assoc, readThing, hmarker.seq, readUnknownCreature, hmarker.seq,
    if_neg (by decide), if_pos rfl, if_neg (not_not_intro rfl), bind_eq_ok]
  constructor
  · intro h
    obtain ⟨c, t, hread, h⟩ := h
    cases h
    exact hread
  · intro h
    exact ⟨creature, rest', h, rfl⟩

/-- A record is read in place exactly when it is one the client can read. -/
theorem readThing_record (data : ClientData) (record : MapRecord) (rest : List UInt8) :
    readThing data (record.bytes ++ rest) = (.ok record.told, rest) ↔ record.Readable data := by
  cases record with
  | thing id => exact readThing_thing data id rest
  | creature record =>
    refine (readThing_creature data record rest record.told rest).trans ⟨?_, ?_⟩
    · exact keepsLayout_of_read
    · intro h
      exact reads_told h rest
  | tileEnd =>
    refine iff_of_true ?_ trivial
    rw [MapRecord.bytes, readThing, (reads_id nativeOtclientTileEnd).seq, if_pos (by decide)]
    rfl

/-! ### Everything that is written -/

/-- **The client reads back what is written** when it can read every record of it in place. -/
theorem readBack_iff (data : ClientData) (records : List MapRecord) :
    ReadBack data records ↔ ∀ record ∈ records, record.Readable data := by
  constructor
  · intro h record hrecord
    obtain ⟨before, after, rfl⟩ := List.append_of_mem hrecord
    exact (readThing_record data record _).mp (h before record after rfl)
  · intro h before record after hsplit
    refine (readThing_record data record _).mpr (h record ?_)
    rw [hsplit]
    exact List.mem_append_right _ (List.mem_cons_self ..)

/-! ### Tiles -/

/-- What a cell is to show. -/
def cellThings (records : List MapRecord) : List ClientThing :=
  records.dropLast.map MapRecord.told

/-- A cell as the client can take it apart: things and then the marker, all readable. -/
structure ReadableCell (data : ClientData) (records : List MapRecord) : Prop where
  ends : records = records.dropLast ++ [.tileEnd]
  things : ∀ record ∈ records.dropLast, record ≠ .tileEnd
  readable : ∀ record ∈ records, record.Readable data

theorem length_le_recordBytes (records : List MapRecord) :
    records.length ≤ (recordBytes records).length := by
  induction records with
  | nil => exact Nat.le_refl 0
  | cons record records ih =>
    have hrecord : 1 ≤ record.bytes.length := by
      cases record with
      | thing id => exact Nat.le_of_lt (Nat.lt_of_lt_of_eq Nat.one_lt_two (length_toLE 2 id).symm)
      | creature record => cases record <;> exact Nat.succ_le_succ (Nat.zero_le _)
      | tileEnd => exact Nat.le_of_lt (Nat.lt_of_lt_of_eq Nat.one_lt_two (length_toLE 2 _).symm)
    rw [recordBytes, List.flatMap_cons, List.length_append, List.length_cons]
    rw [recordBytes] at ih
    omega

theorem readTile_things (data : ClientData) (things : List MapRecord) (rest : List UInt8)
    (hthings : ∀ record ∈ things, record ≠ .tileEnd)
    (hreadable : ∀ record ∈ things, record.Readable data) {fuel : ℕ} (hfuel : things.length < fuel) :
    readTile data fuel (recordBytes (things ++ [.tileEnd]) ++ rest) =
      (.ok (things.map MapRecord.told, 0), rest) := by
  induction things generalizing fuel with
  | nil =>
    obtain ⟨fuel, rfl⟩ : ∃ n, fuel = n + 1 := ⟨fuel - 1, by simp at hfuel; omega⟩
    have hread := (readThing_record data .tileEnd rest).mpr trivial
    have hbytes : recordBytes ([] ++ [.tileEnd]) ++ rest = MapRecord.tileEnd.bytes ++ rest := by
      rw [recordBytes, List.nil_append, List.flatMap_cons, List.flatMap_nil, List.append_nil]
    rw [hbytes, readTile, bind_of_ok hread]
    rfl
  | cons record things ih =>
    obtain ⟨fuel, rfl⟩ : ∃ n, fuel = n + 1 := ⟨fuel - 1, by simp at hfuel; omega⟩
    have hread := (readThing_record data record (recordBytes (things ++ [.tileEnd]) ++ rest)).mpr
      (hreadable record (List.mem_cons_self ..))
    have hbytes : recordBytes (record :: things ++ [.tileEnd]) ++ rest =
        record.bytes ++ (recordBytes (things ++ [.tileEnd]) ++ rest) := by
      rw [recordBytes, List.cons_append, List.flatMap_cons, List.append_assoc]
      rfl
    have hlater := ih (fun r hr => hthings r (List.mem_cons_of_mem _ hr))
      (fun r hr => hreadable r (List.mem_cons_of_mem _ hr)) (Nat.lt_of_succ_lt_succ hfuel)
    rw [hbytes, readTile, bind_of_ok hread]
    cases record with
    | thing id => exact (bind_of_ok hlater).trans rfl
    | creature record => exact (bind_of_ok hlater).trans rfl
    | tileEnd => exact absurd rfl (hthings _ (List.mem_cons_self ..))

/-- **Every tile is drawn in its cell.** -/
theorem readTiles_cells (data : ClientData) (cells : List (List MapRecord)) (rest : List UInt8)
    (hcells : ∀ cell ∈ cells, ReadableCell data cell) :
    readTiles data cells.length 0 (recordBytes cells.flatten ++ rest) =
      (.ok (cells.map cellThings), rest) := by
  induction cells with
  | nil => rfl
  | cons cell cells ih =>
    have hcell := hcells cell (List.mem_cons_self ..)
    have hlater := ih fun c hc => hcells c (List.mem_cons_of_mem _ hc)
    have hbytes : recordBytes (cell :: cells).flatten ++ rest =
        recordBytes (cell.dropLast ++ [.tileEnd]) ++ (recordBytes cells.flatten ++ rest) := by
      rw [← hcell.ends, List.flatten_cons, recordBytes_append, List.append_assoc]
    have hfuel : cell.dropLast.length <
        (recordBytes (cell.dropLast ++ [.tileEnd]) ++ (recordBytes cells.flatten ++ rest)).length := by
      have hlength := length_le_recordBytes (cell.dropLast ++ [.tileEnd])
      rw [List.length_append, List.length_singleton] at hlength
      rw [List.length_append]
      omega
    have htile := readTile_things data cell.dropLast (recordBytes cells.flatten ++ rest)
      hcell.things (fun r hr => hcell.readable r (List.mem_of_mem_dropLast hr)) hfuel
    rw [hbytes, List.length_cons, readTiles]
    show (readTile data _ >>= fun tile => readTiles data cells.length tile.2 >>= fun later =>
      pure (tile.1 :: later)) _ = _
    rw [bind_of_ok htile, bind_of_ok hlater]
    rfl

/-! ### The viewport -/

/-- What can be drawn without a record of another kind: every ground and every item is a plain one,
every creature has a look, and no other player is in the window. -/
structure DrawsPlainly (data : ClientData) (view : MapView) (cell : WindowCell) : Prop where
  ground : view.groundThingId cell.position ≠ 0 →
    PlainThing data (UInt16.ofNat (view.groundThingId cell.position))
  items : ∀ item ∈ view.extraItems cell.position, item.clientThingId.getD item.serverId ≠ 0 →
    PlainThing data (UInt16.ofNat (item.clientThingId.getD item.serverId))
  staticEntities : ∀ entity ∈ view.staticEntitiesAt cell.position, entity.lookType ≠ 0
  players : view.assetFree = false → ∀ player ∈ view.visiblePlayersAt cell.position,
    view.showsOthers player = false

/-- What the claim of the encoder is: the frame is not too long, its cells are those of the window
with their ground first, and the client reads back what is written, tile by tile. -/
structure Described (data : ClientData) (profile : NativeOtClientProfile) (view : MapView) :
    Prop where
  encoded : encodeNativeOtclientMapViewport profile view = .ok (viewportWriter view).bytes
  fits : (viewportWriter view).bytes.length ≤ maxFrameSize
  cells : List.Forall₂ (view.CellWritten view.showsOthers)
    (viewportWindow view.snapshot.playerPosition) (viewportWriter view).cells
  readBack : ReadBack data (viewportWriter view).cells.flatten
  drawn : readViewport data (viewportWriter view).bytes =
    (.ok (view.snapshot.playerPosition, (viewportWriter view).cells.map cellThings), [])

/-- The records of a whole cell can be read in place when it can be drawn plainly. -/
theorem readable_wholeCell_iff (data : ClientData) (view : MapView) (cell : WindowCell) :
    (∀ record ∈ view.wholeCell view.showsOthers cell, record.Readable data) ↔
      DrawsPlainly data view cell := by
  have hthings := forall_mem_things view view.showsOthers cell (MapRecord.Readable data)
  constructor
  · intro h
    obtain ⟨hground, hitems, hstatics, hplayers, -⟩ := hthings.mp fun record hrecord =>
      h record (mem_wholeCell.mpr (.inl hrecord))
    refine ⟨hground, hitems, hstatics, fun hfree player hplayer => ?_⟩
    exact Bool.eq_false_iff.mpr fun hshows => hplayers hfree player hplayer hshows
  · intro h record hrecord
    rcases mem_wholeCell.mp hrecord with hthing | rfl
    · refine hthings.mpr ⟨h.ground, h.items, h.staticEntities,
        fun hfree player hplayer hshows => ?_, fun _ _ => trivial⟩ record hthing
      rw [h.players hfree player hplayer] at hshows
      cases hshows
    · trivial

/-- A written cell that can be drawn plainly is taken apart. -/
theorem readableCell_of_written {data : ClientData} {view : MapView} {cell : WindowCell}
    {records : List MapRecord} (h : view.CellWritten view.showsOthers cell records)
    (hreadable : ∀ record ∈ records, record.Readable data) : ReadableCell data records := by
  obtain ⟨above, habove, rfl⟩ := h
  have hdrop : (view.ground cell.position ++ (above ++ [MapRecord.tileEnd])).dropLast =
      view.ground cell.position ++ above := by
    rw [← List.append_assoc, List.dropLast_concat]
  refine ⟨?_, ?_, hreadable⟩
  · rw [hdrop, List.append_assoc]
  · intro record hrecord
    rw [hdrop] at hrecord
    exact ne_tileEnd_of_mem ((habove.append_left (view.ground cell.position)).subset hrecord)

theorem mem_wholeCell_of_written {view : MapView} {shows : NativeOtClientVisiblePlayer → Bool}
    {cell : WindowCell} {records : List MapRecord} (h : view.CellWritten shows cell records)
    {record : MapRecord} (hrecord : record ∈ records) : record ∈ view.wholeCell shows cell := by
  obtain ⟨above, habove, rfl⟩ := h
  have hsub := (habove.append_right [MapRecord.tileEnd]).append_left (view.ground cell.position)
  exact hsub.subset hrecord

/-- What the client makes of a whole frame it can take apart. -/
theorem readMap_cells (data : ClientData) (camera : NativeOtClientPosition)
    (cells : List (List MapRecord)) (hcells : ∀ cell ∈ cells, ReadableCell data cell) :
    readMap data cells.length (viewportHeader camera ++ recordBytes cells.flatten) =
      (.ok (camera, cells.map cellThings), []) := by
  have hopcode : Reads Reader.byte [0x64] 0x64 := reads_byte 0x64
  have hcamera : Reads Reader.position camera.bytes camera :=
    NativeOtClientGameAction.reads_position camera
  have htiles := readTiles_cells data cells [] hcells
  rw [List.append_nil] at htiles
  have hbytes : viewportHeader camera ++ recordBytes cells.flatten =
      [0x64] ++ (camera.bytes ++ recordBytes cells.flatten) := rfl
  rw [hbytes, readMap, hopcode.seq, if_neg (not_not_intro rfl), hcamera.seq, bind_of_ok htiles]
  rfl

/-- A map without a tile of its own. -/
def bareMap : WorldMap where
  identifier := "bare"
  spawn := ⟨100, 100, 7⟩
  tiles := ∅
  source := .feMapV1
  tileItems := ∅
  tileFlags := ∅
  houseTiles := ∅
  towns := KeyedMap.empty
  waypoints := ∅
  bounded := WorldMap.bounded_empty

def knightSnapshot : NativeOtClientEmptyWorldSnapshot :=
  ⟨0x10000001, "Knight", ⟨100, 100, 7⟩, 102, 128, 2, 220, 50⟩

/-- The knight among some other players. -/
def knightView (others : List NativeOtClientVisiblePlayer) : MapView :=
  ⟨knightSnapshot, bareMap, none, some others⟩

/-- A player in the first cell of the window of the knight. -/
def neighbour : NativeOtClientVisiblePlayer :=
  ⟨0x10000002, "Bob", ⟨92, 94, 7⟩, 100, ⟨128, 0, 0, 0, 0⟩, 2, 220⟩

end ForgottenEngine
