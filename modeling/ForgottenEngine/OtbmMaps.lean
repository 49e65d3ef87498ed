import ForgottenEngine.Library.Attributes
import ForgottenEngine.MapImport
import ForgottenEngine.NodeTrees

/-!
# Loading a map file

A map file is a tree of nodes: a root with the header, one node of map data, and in it areas of
tiles, towns and waypoints.  A tile node names its position relative to its area, and carries flags,
items and, for a house tile, the number of the house.

* `readTile`, `putTile` — what a tile node says, and what it writes to the map;
* `Loaded` — the tables of the tiles in terms of the tile nodes read so far;
* `loaded_of_parse` — what an accepted file leaves in the tables;
* `last_tile_iff` — exactly when each tile is that of its last node.
-/

namespace ForgottenEngine

namespace Otbm

open ByteCodec Fallible NodeFraming

def otbmRoot : UInt8 := 1
def otbmRootWriterLegacy : UInt8 := 0
def otbmMapData : UInt8 := 2
def otbmTileArea : UInt8 := 4
def otbmTile : UInt8 := 5
def otbmItem : UInt8 := 6
def otbmTowns : UInt8 := 12
def otbmTown : UInt8 := 13
def otbmHouseTile : UInt8 := 14
def otbmWaypoints : UInt8 := 15
def otbmWaypoint : UInt8 := 16

def otbmAttrDescription : UInt8 := 1
def otbmAttrTileFlags : UInt8 := 3
def otbmAttrActionId : UInt8 := 4
def otbmAttrUniqueId : UInt8 := 5
def otbmAttrText : UInt8 := 6
def otbmAttrDesc : UInt8 := 7
def otbmAttrTeleDest : UInt8 := 8
def otbmAttrItem : UInt8 := 9
def otbmAttrDepotId : UInt8 := 10
def otbmAttrExtSpawnFile : UInt8 := 11
def otbmAttrRuneCharges : UInt8 := 12
def otbmAttrExtHouseFile : UInt8 := 13
def otbmAttrHouseDoorId : UInt8 := 14
def otbmAttrCount : UInt8 := 15
def otbmAttrDuration : UInt8 := 16
def otbmAttrDecayingState : UInt8 := 17
def otbmAttrWrittenDate : UInt8 := 18
def otbmAttrWrittenBy : UInt8 := 19
def otbmAttrSleeperGuid : UInt8 := 20
def otbmAttrSleepStart : UInt8 := 21
def otbmAttrCharges : UInt8 := 22
def otbmAttrName : UInt8 := 24
def otbmAttrArticle : UInt8 := 25
def otbmAttrPluralName : UInt8 := 26
def otbmAttrWeight : UInt8 := 27
def otbmAttrAttack : UInt8 := 28
def otbmAttrDefense : UInt8 := 29
def otbmAttrExtraDefense : UInt8 := 30
def otbmAttrArmor : UInt8 := 31
def otbmAttrHitChance : UInt8 := 32
def otbmAttrShootRange : UInt8 := 33
def otbmAttrDecayTo : UInt8 := 35

def maxOtbmBytes : ℕ := 192 * 1024 * 1024

def maxOtbmStringBytes : ℕ := 8 * 1024

def invalid (message : String) : ConfigError := .invalidContent message

/-! ### The cursor over the properties of a node -/

/-- A reader over the properties of a node. -/
abbrev Cursor : Type → Type := Fallible ConfigError (List UInt8)

/-- One text, whatever the reader fails at. -/
def faults (text : String) : Faults ConfigError := ⟨invalid text, fun _ => invalid text, invalid text⟩

def readU8 : Cursor UInt8 := byte (faults "unexpected end of OTBM properties")

def readU16 : Cursor UInt16 := u16 (faults "unexpected end of OTBM u16 property")

def readU32 : Cursor UInt32 := u32 (faults "unexpected end of OTBM u32 property")

def readPosition : Cursor Position := do
  let x ← readU16
  let y ← readU16
  let z ← readU8
  pure ⟨x.toNat, y.toNat, z.toNat⟩

def readString : Cursor String := do
  let length ← readU16
  if maxOtbmStringBytes < length.toNat then
    fail (invalid "OTBM string exceeds the configured limit")
  else do
    let bytes ← take (faults "unexpected end of OTBM string property") length.toNat
    ofOption (utf8 bytes) (invalid "OTBM string is not UTF-8")

/-- The properties not read yet. -/
def cursorRest : Cursor (List UInt8) := fun rest => (.ok rest, rest)

/-- Fail unless every property was read. -/
def requireEmpty (text : String) : Cursor Unit := do
  let rest ← cursorRest
  if rest.isEmpty then pure () else fail (invalid text)

/-- Read all the properties of a node. -/
def run {α : Type} (m : Cursor α) (props : List UInt8) : Except ConfigError α := (m props).1

@[simp] theorem shrinks_readU8 : Shrinks readU8 := shrinks_byte _

@[simp] theorem shrinks_readU16 : Shrinks readU16 := shrinks_u16 _

@[simp] theorem shrinks_readU32 : Shrinks readU32 := shrinks_u32 _

@[simp] theorem shrinks_readPosition : Shrinks readPosition := by
  refine shrinks_bind shrinks_readU16 fun x => shrinks_bind shrinks_readU16 fun y => ?_
  exact shrinks_bind shrinks_readU8 fun z => shrinks_pure _

@[simp] theorem shrinks_readString : Shrinks readString := by
  refine shrinks_bind shrinks_readU16 fun length => shrinks_ite.mpr ⟨fun _ => shrinks_fail _, ?_⟩
  intro _
  exact shrinks_bind (shrinks_take _ _) fun bytes => shrinks_ofOption _ _

/-! ### The header -/

def parseHeader (props : List UInt8) : Except ConfigError OtbmMapHeader := do
  let header ← run (do
    let version ← readU32
    let width ← readU16
    let height ← readU16
    let itemMajorVersion ← readU32
    let itemMinorVersion ← readU32
    requireEmpty "OTBM root header contains unexpected trailing bytes"
    pure (⟨version.toNat, width.toNat, height.toNat, itemMajorVersion.toNat,
      itemMinorVersion.toNat, none, none, none⟩ : OtbmMapHeader)) props
  if header.version < 1 ∨ 2 < header.version then
    throw (invalid s!"unsupported OTBM map version {header.version}; FE supports versions 1 and 2")
  if header.width = 0 ∨ header.height = 0 then
    throw (invalid "OTBM header map dimensions must be nonzero")
  pure header

/-- One attribute of the map data. -/
def mapDataAttribute (key : UInt8) (header : OtbmMapHeader) : Cursor OtbmMapHeader :=
  if key = otbmAttrDescription then do
    let text ← readString
    pure { header with description := some text }
  else if key = otbmAttrExtSpawnFile then do
    let text ← readString
    pure { header with spawnFile := some text }
  else if key = otbmAttrExtHouseFile then do
    let text ← readString
    pure { header with houseFile := some text }
  else fail (invalid s!"unsupported OTBM map-data attribute {key.toNat}")

theorem shrinks_mapDataAttribute (key : UInt8) (header : OtbmMapHeader) :
    Shrinks (mapDataAttribute key header) := by
  simp [mapDataAttribute]

def parseMapDataAttributes (props : List UInt8) (header : OtbmMapHeader) :
    Except ConfigError OtbmMapHeader :=
  run (attributes (fun _ => false) mapDataAttribute shrinks_mapDataAttribute header) props

/-! ### Items -/

/-- Read a value and drop it. -/
def skip {α : Type} (m : Cursor α) (item : WorldMapItem) : Cursor WorldMapItem := do
  let _ ← m
  pure item

/-- One attribute of an item. -/
def itemAttribute (key : UInt8) (item : WorldMapItem) : Cursor WorldMapItem :=
  if key = otbmAttrActionId then do
    let id ← readU16
    pure { item with actionId := some id.toNat }
  else if key = otbmAttrUniqueId then do
    let id ← readU16
    pure { item with uniqueId := some id.toNat }
  else if key = otbmAttrText then do
    let text ← readString
    pure { item with text := some text }
  else if key = otbmAttrDesc then do
    let text ← readString
    pure { item with description := some text }
  else if key = otbmAttrTeleDest then do
    let position ← readPosition
    pure { item with teleportDestination := some position }
  else if key = otbmAttrRuneCharges then do
    let charges ← readU8
    pure { item with charges := some charges.toNat }
  else if key = otbmAttrCount then do
    let count ← readU8
    pure { item with count := max count.toNat 1 }
  else if key = otbmAttrDuration then do
    let duration ← readU32
    pure { item with duration := some duration.toNat }
  else if key = otbmAttrCharges then do
    let charges ← readU16
    pure { item with charges := some charges.toNat }
  else if key = otbmAttrDepotId then skip readU16 item
  else if key = otbmAttrHouseDoorId ∨ key = otbmAttrDecayingState ∨ key = otbmAttrHitChance ∨
      key = otbmAttrShootRange then skip readU8 item
  else if key = otbmAttrWrittenBy ∨ key = otbmAttrName ∨ key = otbmAttrArticle ∨
      key = otbmAttrPluralName then skip readString item
  else if key = otbmAttrWrittenDate ∨ key = otbmAttrSleeperGuid ∨ key = otbmAttrSleepStart ∨
      key = otbmAttrWeight ∨ key = otbmAttrAttack ∨ key = otbmAttrDefense ∨
      key = otbmAttrExtraDefense ∨ key = otbmAttrArmor ∨ key = otbmAttrDecayTo then
    skip readU32 item
  else fail (invalid s!"unsupported OTBM item attribute {key.toNat}")

@[simp] theorem shrinks_skip {α : Type} {m : Cursor α} (h : Shrinks m) (item : WorldMapItem) :
    Shrinks (skip m item) := shrinks_bind h fun _ => shrinks_pure _

theorem shrinks_itemAttribute (key : UInt8) (item : WorldMapItem) :
    Shrinks (itemAttribute key item) := by
  simp [itemAttribute]

/-- The attributes that belong to the tile an item lies on. -/
def isTileAttribute (key : UInt8) : Bool := key = otbmAttrTileFlags ∨ key = otbmAttrItem

def parseItemPayload (stopAtTileAttribute : Bool) : Cursor WorldMapItem := do
  let serverId ← readU16
  attributes (fun key => stopAtTileAttribute && isTileAttribute key) itemAttribute
    shrinks_itemAttribute ⟨serverId.toNat, none, 1, none, none, none, none, none, none, none, []⟩

@[simp] theorem shrinks_parseItemPayload (stopAtTileAttribute : Bool) :
    Shrinks (parseItemPayload stopAtTileAttribute) :=
  shrinks_bind shrinks_readU16 fun _ => shrinks_attributes _ _ _ _

mutual

/-- An item node, with the items inside it. -/
def parseItemNode : Node → Except ConfigError WorldMapItem
  | ⟨_, props, children⟩ => do
    let item ← run (parseItemPayload false) props
    let inside ← parseItemNodes children
    pure { item with children := item.children ++ inside }

def parseItemNodes : List Node → Except ConfigError (List WorldMapItem)
  | [] => pure []
  | ⟨kind, props, children⟩ :: rest => do
    if kind ≠ otbmItem then throw (invalid s!"unsupported OTBM nested item node {kind.toNat}")
    let item ← parseItemNode ⟨kind, props, children⟩
    let items ← parseItemNodes rest
    pure (item :: items)

end

/-! ### Tiles -/

/-- What a tile node says. -/
structure TileRecord where
  position : Position
  houseId : Option ℕ
  flags : ℕ
  items : List WorldMapItem

/-- The ground is the first item, and nothing on a tile without items. -/
def TileRecord.groundThingId (self : TileRecord) : ℕ :=
  (self.items.head?.map WorldMapItem.serverId).getD 0

/-- A coordinate of an area moved by the offset of a tile, in 16 bits. -/
def offsetBy (base : ℕ) (offset : UInt8) (axis : String) : Cursor ℕ :=
  ofOption (if base + offset.toNat < 65536 then some (base + offset.toNat) else none)
    (invalid s!"OTBM tile {axis} coordinate overflow")

/-- The position of a tile, and its house. -/
def tileHead (kind : UInt8) (base : Position) : Cursor TileRecord := do
  let x ← offsetBy base.x (← readU8) "x"
  let y ← offsetBy base.y (← readU8) "y"
  if kind = otbmHouseTile then do
    let houseId ← readU32
    pure ⟨⟨x, y, base.z⟩, some houseId.toNat, 0, []⟩
  else pure ⟨⟨x, y, base.z⟩, none, 0, []⟩

/-- One attribute of a tile. -/
def tileAttribute (key : UInt8) (tile : TileRecord) : Cursor TileRecord :=
  if key = otbmAttrTileFlags then do
    let flags ← readU32
    pure { tile with flags := flags.toNat }
  else if key = otbmAttrItem then do
    let item ← parseItemPayload true
    pure { tile with items := tile.items ++ [item] }
  else fail (invalid (s!"unsupported OTBM tile attribute {key.toNat} at " ++
    s!"{tile.position.x},{tile.position.y},{tile.position.z}"))

theorem shrinks_tileAttribute (key : UInt8) (tile : TileRecord) :
    Shrinks (tileAttribute key tile) := by
  simp [tileAttribute]

/-- An item lying on a tile as a node of its own. -/
def parseTileChild (position : Position) (child : Node) : Except ConfigError WorldMapItem :=
  if child.kind ≠ otbmItem then
    .error (invalid (s!"unsupported OTBM tile child node {child.kind.toNat} at " ++
      s!"{position.x},{position.y},{position.z}"))
  else parseItemNode child

/-- What a tile node says, read from its properties and its children. -/
def readTile (node : Node) (base : Position) : Except ConfigError TileRecord := do
  let tile ← run (do
    let tile ← tileHead node.kind base
    attributes (fun _ => false) tileAttribute shrinks_tileAttribute tile) node.props
  let items ← node.children.mapM (parseTileChild tile.position)
  pure { tile with items := tile.items ++ items }

/-- An error of a writer, with the tile it is about. -/
def atTile {α : Type} (position : Position) (x : Except CoreError α) : Except ConfigError α :=
  x.mapError fun e =>
    invalid s!"OTBM tile at {position.x},{position.y},{position.z}: {e.debugText}"

/-- The items of a tile node are only written when there are any. -/
def putItems (tile : TileRecord) (worldMap : WorldMap) : Except ConfigError WorldMap :=
  if tile.items.isEmpty then .ok worldMap
  else atTile tile.position (worldMap.setTileItems tile.position tile.items)

/-- The house of a tile node is only written when it is a house tile. -/
def putHouse (tile : TileRecord) (worldMap : WorldMap) : Except ConfigError WorldMap :=
  match tile.houseId with
  | some houseId => atTile tile.position (worldMap.setHouseTile tile.position houseId)
  | none => .ok worldMap

/-- What a tile node writes to the map. -/
def putTile (tile : TileRecord) (worldMap : WorldMap) : Except ConfigError WorldMap := do
  let worldMap ← atTile tile.position
    (worldMap.setTile tile.position ⟨tile.groundThingId, true⟩)
  let worldMap ← putItems tile worldMap
  putHouse tile (worldMap.setTileFlags tile.position tile.flags)

def parseTile (node : Node) (base : Position) (worldMap : WorldMap) :
    Except ConfigError WorldMap := do
  let tile ← readTile node base
  putTile tile worldMap

/-- The corner of an area. -/
def areaBase (node : Node) : Except ConfigError Position :=
  run (do
    let base ← readPosition
    requireEmpty "OTBM tile-area contains unexpected trailing properties"
    pure base) node.props

/-- One node of an area. -/
def parseAreaChild (base : Position) (worldMap : WorldMap) (tile : Node) :
    Except ConfigError WorldMap :=
  if tile.kind ≠ otbmTile ∧ tile.kind ≠ otbmHouseTile then
    .error (invalid s!"unsupported OTBM tile-area child node {tile.kind.toNat}")
  else parseTile tile base worldMap

def parseTileArea (node : Node) (worldMap : WorldMap) : Except ConfigError WorldMap := do
  let base ← areaBase node
  node.children.foldlM (parseAreaChild base) worldMap

/-! ### Towns and waypoints -/

def parseTown (worldMap : WorldMap) (child : Node) : Except ConfigError WorldMap := do
  if child.kind ≠ otbmTown then throw (invalid s!"unsupported OTBM town node {child.kind.toNat}")
  let (town, rest) ← run (do
    let id ← readU32
    let name ← readString
    let templePosition ← readPosition
    let rest ← cursorRest
    pure ((⟨id.toNat, name, templePosition⟩ : WorldMapTown), rest)) child.props
  if rest ≠ [] ∨ child.children.isEmpty = false then
    throw (invalid "OTBM town contains unsupported trailing data")
  (worldMap.setTown town).mapError fun e => invalid s!"invalid OTBM town: {e.debugText}"

def parseWaypoint (worldMap : WorldMap) (child : Node) : Except ConfigError WorldMap := do
  if child.kind ≠ otbmWaypoint then
    throw (invalid s!"unsupported OTBM waypoint node {child.kind.toNat}")
  let (name, position, rest) ← run (do
    let name ← readString
    let position ← readPosition
    let rest ← cursorRest
    pure (name, position, rest)) child.props
  if rest ≠ [] ∨ child.children.isEmpty = false then
    throw (invalid "OTBM waypoint contains unsupported trailing data")
  (worldMap.setWaypoint name position).mapError fun e =>
    invalid s!"invalid OTBM waypoint: {e.debugText}"

def parseTowns (node : Node) (worldMap : WorldMap) : Except ConfigError WorldMap :=
  node.children.foldlM parseTown worldMap

def parseWaypoints (node : Node) (worldMap : WorldMap) : Except ConfigError WorldMap :=
  node.children.foldlM parseWaypoint worldMap

/-! ### The file -/

/-- One node of the map data. -/
def parseMapDataChild (worldMap : WorldMap) (child : Node) : Except ConfigError WorldMap :=
  if child.kind = otbmTileArea then parseTileArea child worldMap
  else if child.kind = otbmTowns then parseTowns child worldMap
  else if child.kind = otbmWaypoints then parseWaypoints child worldMap
  else .error (invalid s!"unsupported OTBM map-data node {child.kind.toNat}")

/-- The identifier of the file is checked and taken off. -/
def framedBytes (bytes : List UInt8) : Except ConfigError (List UInt8) :=
  if maxOtbmBytes < bytes.length then
    .error (invalid "OTBM file exceeds the configured 64 MiB limit")
  else if bytes.length < 4 ∨ (bytes.take 4 ≠ [0x4f, 0x54, 0x42, 0x4d] ∧
      bytes.take 4 ≠ [0, 0, 0, 0]) then
    .error (invalid "OTBM file is missing its required OTBM identifier")
  else .ok (bytes.drop 4)

/-- The map data of a file, and the header with the attributes of both nodes. -/
def parseRoot (bytes : List UInt8) : Except ConfigError (OtbmMapHeader × Node) := do
  let framed ← framedBytes bytes
  let root ← parseTree framed
  if root.kind ≠ otbmRoot ∧ root.kind ≠ otbmRootWriterLegacy then
    throw (invalid "OTBM root node is not a recognized ROOTV1 node")
  let header ← parseHeader root.props
  match root.children with
  | [mapData] =>
    if mapData.kind ≠ otbmMapData then
      throw (invalid "OTBM root must contain exactly one map-data node")
    let header ← parseMapDataAttributes mapData.props header
    pure (header, mapData)
  | _ => throw (invalid "OTBM root must contain exactly one map-data node")

/-- The temple of the first town when it can be walked on, or the first tile that can. -/
def spawnPosition (worldMap : WorldMap) : Option Position :=
  (((worldMap.towns.entries.toList.head?.map fun entry => entry.2.templePosition).filter
    worldMap.isWalkable).or worldMap.firstWalkablePosition)

def parseOtbmWorldMap (identifier : String) (bytes : List UInt8) :
    Except ConfigError WorldMap := do
  let (header, mapData) ← parseRoot bytes
  let worldMap := (WorldMap.new identifier ⟨0, 0, 0⟩).setSource (.otbm header)
  let worldMap ← mapData.children.foldlM parseMapDataChild worldMap
  match spawnPosition worldMap with
  | none => throw (invalid "OTBM map does not contain a walkable tile")
  | some spawn =>
    let worldMap := worldMap.setSpawn spawn
    worldMap.validate.mapError fun e => invalid s!"invalid OTBM map: {e.debugText}"
    pure worldMap

/-! ### The tile nodes of a file -/

/-- The tiles an area names, in order. -/
def areaTiles (node : Node) : Except ConfigError (List TileRecord) := do
  let base ← areaBase node
  node.children.mapM fun tile => readTile tile base

/-- The tiles of a node of the map data, which only an area has. -/
def childTiles (child : Node) : Except ConfigError (List TileRecord) :=
  if child.kind = otbmTileArea then areaTiles child else .ok []

/-- The tiles of the nodes of the map data, in order. -/
def mapTiles : List Node → Except ConfigError (List TileRecord)
  | [] => pure []
  | child :: rest => do
    let tiles ← childTiles child
    let others ← mapTiles rest
    pure (tiles ++ others)

/-- The tile nodes of a file, in order. -/
def fileTiles (bytes : List UInt8) : Except ConfigError (List TileRecord) := do
  let (_, mapData) ← parseRoot bytes
  mapTiles mapData.children

/-- The tile nodes of one position. -/
def tilesAt (tiles : List TileRecord) (position : Position) : List TileRecord :=
  tiles.filter fun tile => tile.position = position

/-- The items of the last of the nodes that have any. -/
def lastItems (tiles : List TileRecord) : List WorldMapItem :=
  ((tiles.filter fun tile => !tile.items.isEmpty).getLast?.map TileRecord.items).getD []

/-- The house of the last of the nodes that have one. -/
def lastHouse (tiles : List TileRecord) : Option ℕ := (tiles.filterMap TileRecord.houseId).getLast?

/-- The tables in terms of the tile nodes written so far: the last node of a position has the
ground and the flags, the last one with items the items, the last one with a house the house. -/
structure Loaded (tiles : List TileRecord) (worldMap : WorldMap) : Prop where
  tile : ∀ position, worldMap.tile position =
    (tilesAt tiles position).getLast?.map fun tile => ⟨tile.groundThingId, true⟩
  items : ∀ position, worldMap.itemsAt position = lastItems (tilesAt tiles position)
  flags : ∀ position, worldMap.tileFlagsAt position =
    ((tilesAt tiles position).getLast?.map TileRecord.flags).getD 0
  house : ∀ position, worldMap.houseTileId position = lastHouse (tilesAt tiles position)

theorem tilesAt_append (tiles more : List TileRecord) (position : Position) :
    tilesAt (tiles ++ more) position = tilesAt tiles position ++ tilesAt more position :=
  List.filter_append ..

theorem tilesAt_singleton (tile : TileRecord) (position : Position) :
    tilesAt [tile] position = if tile.position = position then [tile] else [] := by
  by_cases h : tile.position = position
  · simp [tilesAt, h]
  · simp [tilesAt, h]

theorem lastItems_concat (tiles : List TileRecord) (tile : TileRecord) :
    lastItems (tiles ++ [tile]) = if tile.items.isEmpty then lastItems tiles else tile.items := by
  rw [lastItems, List.filter_append]
  by_cases h : tile.items.isEmpty
  · simp [lastItems, h]
  · simp [h]

theorem lastHouse_concat (tiles : List TileRecord) (tile : TileRecord) :
    lastHouse (tiles ++ [tile]) = tile.houseId.or (lastHouse tiles) := by
  rw [lastHouse, List.filterMap_append]
  cases h : tile.houseId with
  | none => simp [lastHouse, h]
  | some houseId => simp [h]

theorem Loaded.nil (identifier : String) (source : WorldMapSource) :
    Loaded [] ((WorldMap.new identifier ⟨0, 0, 0⟩).setSource source) where
  tile _ := Std.ExtTreeMap.getElem?_empty
  items _ := by
    show ((∅ : BTreeMap Position (List WorldMapItem))[_]?).getD [] = []
    rw [Std.ExtTreeMap.getElem?_empty]
    rfl
  flags _ := by
    show ((∅ : BTreeMap Position ℕ)[_]?).getD 0 = 0
    rw [Std.ExtTreeMap.getElem?_empty]
    rfl
  house _ := Std.ExtTreeMap.getElem?_empty

/-- Only the tables of the tiles matter. -/
theorem Loaded.congr {tiles : List TileRecord} {worldMap other : WorldMap}
    (h : Loaded tiles worldMap) (hsame : other.SameTiles worldMap) : Loaded tiles other where
  tile position := (hsame.tile position).trans (h.tile position)
  items position := (hsame.itemsAt position).trans (h.items position)
  flags position := (hsame.tileFlagsAt position).trans (h.flags position)
  house position := (hsame.houseTileId position).trans (h.house position)

theorem atTile_eq_ok {α : Type} {position : Position} {x : Except CoreError α} {a : α} :
    atTile position x = .ok a ↔ x = .ok a := mapError_eq_ok

/-- The items a node has are written, and the items of its position are kept when it has none. -/
theorem putItems_eq_ok {tile : TileRecord} {worldMap left : WorldMap}
    (h : putItems tile worldMap = .ok left) (q : Position) :
    left.tile q = worldMap.tile q ∧
      left.itemsAt q = (if tile.position = q ∧ tile.items.isEmpty = false then tile.items
        else worldMap.itemsAt q) ∧
      left.tileFlagsAt q = worldMap.tileFlagsAt q ∧
      left.houseTileId q = worldMap.houseTileId q := by
  rw [putItems] at h
  split at h
  · next hempty =>
    cases h
    exact ⟨rfl, by simp [hempty], rfl, rfl⟩
  · next hitems =>
    obtain ⟨hlength, hleft⟩ := WorldMap.setTileItems_eq_ok.mp (atTile_eq_ok.mp h)
    subst hleft
    exact ⟨rfl, by simp [hitems], rfl, rfl⟩

/-- The house of a node is written, and the house of its position is kept when it has none. -/
theorem putHouse_eq_ok {tile : TileRecord} {worldMap left : WorldMap}
    (h : putHouse tile worldMap = .ok left) (q : Position) :
    left.tile q = worldMap.tile q ∧ left.itemsAt q = worldMap.itemsAt q ∧
      left.tileFlagsAt q = worldMap.tileFlagsAt q ∧
      left.houseTileId q = (if tile.position = q then tile.houseId.or (worldMap.houseTileId q)
        else worldMap.houseTileId q) := by
  rw [putHouse] at h
  cases hhouse : tile.houseId with
  | none =>
    rw [hhouse] at h
    cases h
    exact ⟨rfl, rfl, rfl, by simp⟩
  | some houseId =>
    rw [hhouse] at h
    rw [WorldMap.setHouseTile_eq_ok (atTile_eq_ok.mp h)]
    refine ⟨rfl, rfl, rfl, ?_⟩
    simp [WorldMap.houseTileId, Std.ExtTreeMap.getElem?_insert]

/-- What a tile node leaves in the tables, position by position. -/
theorem putTile_eq_ok {tile : TileRecord} {worldMap left : WorldMap}
    (h : putTile tile worldMap = .ok left) (q : Position) :
    left.tile q = (if tile.position = q then some ⟨tile.groundThingId, true⟩
        else worldMap.tile q) ∧
      left.itemsAt q = (if tile.position = q ∧ tile.items.isEmpty = false then tile.items
        else worldMap.itemsAt q) ∧
      left.tileFlagsAt q = (if tile.position = q then tile.flags else worldMap.tileFlagsAt q) ∧
      left.houseTileId q = (if tile.position = q then tile.houseId.or (worldMap.houseTileId q)
        else worldMap.houseTileId q) := by
  rw [putTile] at h
  obtain ⟨first, hfirst, h⟩ := except_bind_eq_ok.mp h
  obtain ⟨second, hsecond, h⟩ := except_bind_eq_ok.mp h
  have hleft := putHouse_eq_ok h q
  have hitems := putItems_eq_ok hsecond q
  rw [WorldMap.setTile_eq_ok (atTile_eq_ok.mp hfirst)] at hitems
  refine ⟨?_, ?_, ?_, ?_⟩
  · rw [hleft.1, WorldMap.setTileFlags_tile, hitems.1]
    simp [WorldMap.tile, Std.ExtTreeMap.getElem?_insert]
  · rw [hleft.2.1, WorldMap.setTileFlags_itemsAt, hitems.2.1]
    rfl
  · rw [hleft.2.2.1, WorldMap.setTileFlags_tileFlagsAt, hitems.2.2.1]
    rfl
  · rw [hleft.2.2.2, WorldMap.setTileFlags_houseTileId, hitems.2.2.2]
    rfl

theorem Loaded.concat {tiles : List TileRecord} {tile : TileRecord} {worldMap left : WorldMap}
    (hloaded : Loaded tiles worldMap) (h : putTile tile worldMap = .ok left) :
    Loaded (tiles ++ [tile]) left := by
  refine ⟨?_, ?_, ?_, ?_⟩
  all_goals
    intro position
    obtain ⟨htile, hitems, hflags, hhouse⟩ := putTile_eq_ok h position
    rw [tilesAt_append, tilesAt_singleton]
  · rw [htile]
    split
    · rw [List.getLast?_concat]
      rfl
    · rw [List.append_nil]
      exact hloaded.tile position
  · rw [hitems]
    by_cases hp : tile.position = position
    · rw [if_pos hp, lastItems_concat, ← hloaded.items position]
      cases he : tile.items.isEmpty with
      | true => simp
      | false => simp [hp]
    · rw [if_neg hp, List.append_nil, if_neg fun hboth => hp hboth.1]
      exact hloaded.items position
  · rw [hflags]
    split
    · rw [List.getLast?_concat]
      rfl
    · rw [List.append_nil]
      exact hloaded.flags position
  · rw [hhouse]
    split
    · rw [lastHouse_concat, hloaded.house position]
    · rw [List.append_nil]
      exact hloaded.house position

/-! ### From the nodes to the tables -/

/-- The nodes of an area write the tiles they name, in order. -/
theorem loaded_of_area {base : Position} : ∀ {nodes : List Node} {tiles : List TileRecord}
    {worldMap left : WorldMap}, Loaded tiles worldMap →
    nodes.foldlM (parseAreaChild base) worldMap = .ok left →
    ∃ more, nodes.mapM (fun tile => readTile tile base) = .ok more ∧
      Loaded (tiles ++ more) left := by
  intro nodes
  induction nodes with
  | nil =>
    intro tiles worldMap left hloaded h
    cases h
    exact ⟨[], rfl, by rwa [List.append_nil]⟩
  | cons node rest ih =>
    intro tiles worldMap left hloaded h
    rw [List.foldlM_cons] at h
    obtain ⟨next, hnode, hrest⟩ := except_bind_eq_ok.mp h
    rw [parseAreaChild] at hnode
    split at hnode
    · cases hnode
    rw [parseTile] at hnode
    obtain ⟨tile, hread, hput⟩ := except_bind_eq_ok.mp hnode
    obtain ⟨more, hmore, hleft⟩ := ih (hloaded.concat hput) hrest
    refine ⟨tile :: more, ?_, ?_⟩
    · rw [List.mapM_cons, hread]
      show (rest.mapM (fun tile => readTile tile base) >>= fun bs => pure (tile :: bs)) = _
      rw [hmore]
      rfl
    · rw [List.append_assoc] at hleft
      exact hleft

/-- A fold whose steps keep the tables of the tiles keeps them. -/
theorem sameTiles_of_foldlM {step : WorldMap → Node → Except ConfigError WorldMap}
    (hstep : ∀ worldMap node left, step worldMap node = .ok left → left.SameTiles worldMap) :
    ∀ {nodes : List Node} {worldMap left : WorldMap},
      nodes.foldlM step worldMap = .ok left → left.SameTiles worldMap := by
  intro nodes
  induction nodes with
  | nil =>
    intro worldMap left h
    cases h
    exact WorldMap.SameTiles.refl worldMap
  | cons node rest ih =>
    intro worldMap left h
    rw [List.foldlM_cons] at h
    obtain ⟨next, hnode, hrest⟩ := except_bind_eq_ok.mp h
    exact (ih hrest).trans (hstep worldMap node next hnode)

theorem sameTiles_of_parseTown (worldMap : WorldMap) (node : Node) (left : WorldMap)
    (h : parseTown worldMap node = .ok left) : left.SameTiles worldMap := by
  rw [parseTown] at h
  split at h
  · cases h
  · obtain ⟨⟨town, rest⟩, -, h⟩ := except_bind_eq_ok.mp h
    dsimp only at h
    split at h
    · cases h
    · exact WorldMap.sameTiles_of_setTown (mapError_eq_ok.mp h)

theorem sameTiles_of_parseWaypoint (worldMap : WorldMap) (node : Node) (left : WorldMap)
    (h : parseWaypoint worldMap node = .ok left) : left.SameTiles worldMap := by
  rw [parseWaypoint] at h
  split at h
  · cases h
  · obtain ⟨⟨name, position, rest⟩, -, h⟩ := except_bind_eq_ok.mp h
    dsimp only at h
    split at h
    · cases h
    · exact WorldMap.sameTiles_of_setWaypoint (mapError_eq_ok.mp h)

/-- Towns and waypoints leave the tables of the tiles. -/
theorem sameTiles_of_mapDataChild {worldMap left : WorldMap} {node : Node}
    (h : parseMapDataChild worldMap node = .ok left) (hkind : node.kind ≠ otbmTileArea) :
    left.SameTiles worldMap := by
  rw [parseMapDataChild, if_neg hkind] at h
  split at h
  · exact sameTiles_of_foldlM sameTiles_of_parseTown h
  · split at h
    · exact sameTiles_of_foldlM sameTiles_of_parseWaypoint h
    · cases h

/-- The nodes of the map data write the tiles of their areas, in order. -/
theorem loaded_of_mapData : ∀ {nodes : List Node} {tiles : List TileRecord}
    {worldMap left : WorldMap}, Loaded tiles worldMap →
    nodes.foldlM parseMapDataChild worldMap = .ok left →
    ∃ more, mapTiles nodes = .ok more ∧ Loaded (tiles ++ more) left := by
  intro nodes
  induction nodes with
  | nil =>
    intro tiles worldMap left hloaded h
    cases h
    exact ⟨[], rfl, by rwa [List.append_nil]⟩
  | cons node rest ih =>
    intro tiles worldMap left hloaded h
    rw [List.foldlM_cons] at h
    obtain ⟨next, hnode, hrest⟩ := except_bind_eq_ok.mp h
    have hhere : ∃ here, childTiles node = .ok here ∧ Loaded (tiles ++ here) next := by
      rw [childTiles]
      by_cases hkind : node.kind = otbmTileArea
      · rw [parseMapDataChild, if_pos hkind, parseTileArea] at hnode
        obtain ⟨base, hbase, hnode⟩ := except_bind_eq_ok.mp hnode
        obtain ⟨here, hmap, hnext⟩ := loaded_of_area hloaded hnode
        refine ⟨here, ?_, hnext⟩
        rw [if_pos hkind, areaTiles, hbase]
        exact hmap
      · have hsame := sameTiles_of_mapDataChild hnode hkind
        refine ⟨[], if_neg hkind, ?_⟩
        rw [List.append_nil]
        exact hloaded.congr hsame
    obtain ⟨here, hread, hnext⟩ := hhere
    obtain ⟨more, hmore, hleft⟩ := ih hnext hrest
    refine ⟨here ++ more, ?_, ?_⟩
    · rw [mapTiles, hread]
      show (mapTiles rest >>= fun others => pure (here ++ others)) = _
      rw [hmore]
      rfl
    · rw [List.append_assoc] at hleft
      exact hleft

/-- An accepted file leaves what its tile nodes wrote. -/
theorem loaded_of_parse {identifier : String} {bytes : List UInt8} {worldMap : WorldMap}
    (h : parseOtbmWorldMap identifier bytes = .ok worldMap) :
    ∃ tiles, fileTiles bytes = .ok tiles ∧ Loaded tiles worldMap := by
  rw [parseOtbmWorldMap] at h
  obtain ⟨⟨header, mapData⟩, hroot, h⟩ := except_bind_eq_ok.mp h
  obtain ⟨filled, hfilled, h⟩ := except_bind_eq_ok.mp h
  obtain ⟨tiles, htiles, hloaded⟩ := loaded_of_mapData (Loaded.nil identifier _) hfilled
  refine ⟨tiles, ?_, ?_⟩
  · rw [fileTiles, hroot]
    exact htiles
  · split at h
    · cases h
    · obtain ⟨_, -, h⟩ := except_bind_eq_ok.mp h
      cases h
      exact hloaded.congr ⟨rfl, rfl, rfl, rfl⟩

/-! ### Whose items and house a tile has -/

/-- Ground, items and house of each tile are those of the last node of its position. -/
def OfLastNode (tiles : List TileRecord) (worldMap : WorldMap) : Prop :=
  ∀ position ground, worldMap.tile position = some ground →
    ∃ tile, (tilesAt tiles position).getLast? = some tile ∧
      ground = ⟨tile.groundThingId, true⟩ ∧
      worldMap.itemsAt position = tile.items ∧ worldMap.houseTileId position = tile.houseId

/-- No earlier node of a position has items or a house that the last one lacks. -/
def NothingInherited (tiles : List TileRecord) : Prop :=
  ∀ position tile, (tilesAt tiles position).getLast? = some tile →
    (tile.items = [] → ∀ earlier ∈ tilesAt tiles position, earlier.items = []) ∧
    (tile.houseId = none → ∀ earlier ∈ tilesAt tiles position, earlier.houseId = none)

theorem lastItems_eq_nil {tiles : List TileRecord} :
    lastItems tiles = [] ↔ ∀ tile ∈ tiles, tile.items = [] := by
  induction tiles using List.reverseRecOn with
  | nil => simp [lastItems]
  | append_singleton front tile ih =>
    rw [lastItems_concat, List.forall_mem_append, List.forall_mem_singleton]
    cases hitems : tile.items with
    | nil => simpa [hitems] using ih
    | cons item rest => simp

theorem lastHouse_eq_none {tiles : List TileRecord} :
    lastHouse tiles = none ↔ ∀ tile ∈ tiles, tile.houseId = none := by
  induction tiles using List.reverseRecOn with
  | nil => simp [lastHouse]
  | append_singleton front tile ih =>
    rw [lastHouse_concat, List.forall_mem_append, List.forall_mem_singleton]
    cases hhouse : tile.houseId with
    | none => simpa [hhouse] using ih
    | some houseId => simp

theorem lastItems_eq_iff {tiles : List TileRecord} {tile : TileRecord}
    (h : tiles.getLast? = some tile) :
    lastItems tiles = tile.items ↔ (tile.items = [] → ∀ earlier ∈ tiles, earlier.items = []) := by
  constructor
  · intro hitems hempty
    rw [hempty] at hitems
    exact lastItems_eq_nil.mp hitems
  · intro hearlier
    by_cases hempty : tile.items = []
    · rw [hempty]
      exact lastItems_eq_nil.mpr (hearlier hempty)
    · obtain ⟨front, rfl⟩ := List.getLast?_eq_some_iff.mp h
      rw [lastItems_concat, if_neg (by simpa using hempty)]

theorem lastHouse_eq_iff {tiles : List TileRecord} {tile : TileRecord}
    (h : tiles.getLast? = some tile) :
    lastHouse tiles = tile.houseId ↔
      (tile.houseId = none → ∀ earlier ∈ tiles, earlier.houseId = none) := by
  constructor
  · intro hhouse hnone
    rw [hnone] at hhouse
    exact lastHouse_eq_none.mp hhouse
  · intro hearlier
    cases hhouse : tile.houseId with
    | none => exact lastHouse_eq_none.mpr (hearlier hhouse)
    | some houseId =>
      obtain ⟨front, rfl⟩ := List.getLast?_eq_some_iff.mp h
      rw [lastHouse_concat, hhouse]
      rfl

/-- Each tile of an accepted file is that of its last node exactly when no node before the last one
of a position has items, or a house, and the last one none. -/
theorem last_tile_iff {identifier : String} {bytes : List UInt8} {worldMap : WorldMap}
    (h : parseOtbmWorldMap identifier bytes = .ok worldMap) :
    ∃ tiles, fileTiles bytes = .ok tiles ∧
      (OfLastNode tiles worldMap ↔ NothingInherited tiles) := by
  obtain ⟨tiles, htiles, hloaded⟩ := loaded_of_parse h
  refine ⟨tiles, htiles, ?_, ?_⟩
  · intro hlast position tile htile
    have hground : worldMap.tile position = some ⟨tile.groundThingId, true⟩ := by
      rw [hloaded.tile position, htile]
      rfl
    obtain ⟨other, hother, -, hitems, hhouse⟩ := hlast position _ hground
    rw [htile] at hother
    cases hother
    rw [hloaded.items position] at hitems
    rw [hloaded.house position] at hhouse
    exact ⟨(lastItems_eq_iff htile).mp hitems, (lastHouse_eq_iff htile).mp hhouse⟩
  · intro hnothing position ground hground
    rw [hloaded.tile position, Option.map_eq_some_iff] at hground
    obtain ⟨tile, htile, hground⟩ := hground
    obtain ⟨hitems, hhouse⟩ := hnothing position tile htile
    refine ⟨tile, htile, hground.symm, ?_, ?_⟩
    · rw [hloaded.items position]
      exact (lastItems_eq_iff htile).mpr hitems
    · rw [hloaded.house position]
      exact (lastHouse_eq_iff htile).mpr hhouse

/-- A house tile with a chest on it, and a second node of that position that is empty. -/
def repeatedTile : List UInt8 := [0, 0, 0, 0,
  0xfe, 0, 2, 0, 0, 0, 1, 0, 1, 0, 0, 0, 0, 0, 0, 0, 0, 0,
    0xfe, 2,
      0xfe, 4, 0, 0, 0, 0, 7,
        0xfe, 14, 0, 0, 9, 0, 0, 0, 9, 5, 0, 0xff,
        0xfe, 5, 0, 0, 0xff,
      0xff,
    0xff,
  0xff]

theorem repeatedTile_loads :
    ((parseOtbmWorldMap "m" repeatedTile).toOption.map fun worldMap =>
    ((worldMap.tile ⟨0, 0, 7⟩).isSome, (worldMap.itemsAt ⟨0, 0, 7⟩).length)) = some (true, 1) := by
  decide +kernel

theorem repeatedTile_nodes : ((fileTiles repeatedTile).toOption.map fun tiles =>
    (tilesAt tiles ⟨0, 0, 7⟩).getLast?.map fun tile => tile.items.length) = some (some 0) := by
  decide +kernel

/-- The chest of the first node is on the tile although the last node is empty. -/
theorem repeatedTile_mixed : ∃ worldMap tiles, parseOtbmWorldMap "m" repeatedTile = .ok worldMap ∧
    fileTiles repeatedTile = .ok tiles ∧ ¬OfLastNode tiles worldMap := by
  obtain ⟨worldMap, hparse, hmap⟩ := exists_ok_of_toOption_map repeatedTile_loads
  obtain ⟨tiles, hread, htiles⟩ := exists_ok_of_toOption_map repeatedTile_nodes
  refine ⟨worldMap, tiles, hparse, hread, ?_⟩
  intro hlast
  obtain ⟨htile, hchest⟩ := Prod.mk.inj hmap
  obtain ⟨ground, hground⟩ := Option.isSome_iff_exists.mp htile
  obtain ⟨tile, hlasttile, -, hitems, -⟩ := hlast _ ground hground
  rw [hlasttile] at htiles
  have hempty : tile.items.length = 0 := Option.some.inj htiles
  rw [hitems, hempty] at hchest
  cases hchest

theorem last_tile_iff_repeatedTile : ∃ worldMap tiles,
    parseOtbmWorldMap "m" repeatedTile = .ok worldMap ∧ fileTiles repeatedTile = .ok tiles ∧
      (OfLastNode tiles worldMap ↔ NothingInherited tiles) := by
  obtain ⟨worldMap, hparse, -⟩ := exists_ok_of_toOption_map repeatedTile_loads
  obtain ⟨tiles, hread, hiff⟩ := last_tile_iff hparse
  exact ⟨worldMap, tiles, hparse, hread, hiff⟩

end Otbm

end ForgottenEngine
