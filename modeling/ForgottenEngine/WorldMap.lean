import ForgottenEngine.Item
import ForgottenEngine.Library.Indices

/-!
# The imported map

A `WorldMap` holds the tiles an operator imports, the ordered items that lie on them and the
tables around them.  Its tile items never exceed `maxWorldMapItemsPerTile`: the one writer,
`setTileItems`, refuses more, and the type keeps it.

* `sourceRevision` — the fingerprint of the whole map content: FNV-1a over a byte stream
  (`sourceBytes`) in which item counts take part;
* `applySourceItemRemovals` — the recovery primitive: remove a journal of source items, each
  named by revision, tile and index, after checking the whole journal against the map.

`itemsAt` is what a tile shows; every write is described by what it does to `itemsAt`.
-/

namespace ForgottenEngine

def maxWorldMapItemsPerTile : ℕ := 64

def u32Max : ℕ := 4294967295

structure WorldMapTile where
  groundThingId : ℕ
  walkable : Bool
deriving DecidableEq, Repr

/-- One item lying on a tile; `children` are the items inside a bag or a corpse. -/
@[ext]
structure WorldMapItem where
  serverId : ℕ
  clientThingId : Option ℕ
  count : ℕ
  actionId : Option ℕ
  uniqueId : Option ℕ
  text : Option String
  description : Option String
  teleportDestination : Option Position
  duration : Option ℕ
  charges : Option ℕ
  children : List WorldMapItem
deriving Repr, Inhabited

namespace WorldMapItem

mutual

/-- Structural equality, children included. -/
def decEq : (a b : WorldMapItem) → Decidable (a = b)
  | ⟨s, t, n, a, u, x, d, p, r, c, cs⟩, ⟨s', t', n', a', u', x', d', p', r', c', cs'⟩ =>
    match decEqChildren cs cs' with
    | isTrue h =>
      if hrest : s = s' ∧ t = t' ∧ n = n' ∧ a = a' ∧ u = u' ∧ x = x' ∧ d = d' ∧ p = p' ∧ r = r' ∧
          c = c' then
        isTrue (by
          obtain ⟨rfl, rfl, rfl, rfl, rfl, rfl, rfl, rfl, rfl, rfl⟩ := hrest
          rw [h])
      else
        isFalse (by rintro ⟨⟩; exact hrest ⟨rfl, rfl, rfl, rfl, rfl, rfl, rfl, rfl, rfl, rfl⟩)
    | isFalse h => isFalse (by rintro ⟨⟩; exact h rfl)

def decEqChildren : (a b : List WorldMapItem) → Decidable (a = b)
  | [], [] => isTrue rfl
  | [], _ :: _ => isFalse (by rintro ⟨⟩)
  | _ :: _, [] => isFalse (by rintro ⟨⟩)
  | x :: xs, y :: ys =>
    match decEq x y, decEqChildren xs ys with
    | isTrue h, isTrue hs => isTrue (by rw [h, hs])
    | isFalse h, _ => isFalse (by rintro ⟨⟩; exact h rfl)
    | _, isFalse hs => isFalse (by rintro ⟨⟩; exact hs rfl)

end

instance : DecidableEq WorldMapItem := decEq

end WorldMapItem

structure OtbmMapHeader where
  version : ℕ
  width : ℕ
  height : ℕ
  itemMajorVersion : ℕ
  itemMinorVersion : ℕ
  description : Option String
  spawnFile : Option String
  houseFile : Option String
deriving DecidableEq, Repr

inductive WorldMapSource where
  | feMapV1
  | otbm (header : OtbmMapHeader)
deriving DecidableEq, Repr

structure WorldMapTown where
  id : ℕ
  name : String
  templePosition : Position
deriving DecidableEq, Repr

/-- One top-level item of one revision of the map. -/
structure WorldMapItemSourceIdentity where
  mapRevision : ℕ
  position : Position
  itemIndex : ℕ
deriving DecidableEq, Repr

namespace WorldMapItemSourceIdentity

/-- By revision, then by tile, then by index. -/
instance : Ord WorldMapItemSourceIdentity where
  compare := compareLex (compareOn mapRevision) (compareLex (compareOn position)
    (compareOn itemIndex))

instance : Std.TransOrd WorldMapItemSourceIdentity :=
  inferInstanceAs (Std.TransCmp (compareLex (compareOn mapRevision)
    (compareLex (compareOn position) (compareOn itemIndex))))

instance : Std.LawfulEqOrd WorldMapItemSourceIdentity where
  eq_of_compare {a b} h := by
    obtain ⟨r, p, i⟩ := a
    obtain ⟨r', p', i'⟩ := b
    have hparts : compare r r' = .eq ∧ compare p p' = .eq ∧ compare i i' = .eq := by
      change compareLex _ _ _ _ = .eq at h
      simpa only [compareLex_eq_eq, compareOn] using h
    rw [Nat.compare_eq_eq.mp hparts.1, Std.LawfulEqOrd.eq_of_compare hparts.2.1,
      Nat.compare_eq_eq.mp hparts.2.2]

end WorldMapItemSourceIdentity

@[ext]
structure WorldMap where
  identifier : String
  spawn : Position
  tiles : BTreeMap Position WorldMapTile
  source : WorldMapSource
  tileItems : BTreeMap Position (List WorldMapItem)
  tileFlags : BTreeMap Position ℕ
  houseTiles : BTreeMap Position ℕ
  towns : KeyedMap ℕ WorldMapTown WorldMapTown.id
  waypoints : BTreeMap String Position
  bounded : ∀ (position : Position) (items : List WorldMapItem),
    tileItems[position]? = some items → items.length ≤ maxWorldMapItemsPerTile

theorem WorldMap.bounded_empty (position : Position) (items : List WorldMapItem)
    (h : (∅ : BTreeMap Position (List WorldMapItem))[position]? = some items) :
    items.length ≤ maxWorldMapItemsPerTile := by
  rw [Std.ExtTreeMap.getElem?_empty] at h
  cases h

/-! ### The fingerprint -/

namespace StableMapHasher

def offsetBasis : ℕ := 0xcbf29ce484222325

def prime : ℕ := 0x00000100000001b3

/-- One step of FNV-1a on 64 bits. -/
def byte (state value : ℕ) : ℕ := (state ^^^ value) * prime % 2 ^ 64

/-- Hash a whole byte stream. -/
def hash (bytes : List ℕ) : ℕ := bytes.foldl byte offsetBasis

def flag (value : Bool) : List ℕ := [value.toNat]

def u16 (value : ℕ) : List ℕ := [value % 256, value / 256 % 256]

def u32 (value : ℕ) : List ℕ :=
  [value % 256, value / 256 % 256, value / 65536 % 256, value / 16777216 % 256]

/-- A length, saturating at 32 bits. -/
def length (value : ℕ) : List ℕ := u32 (min value u32Max)

def string (value : String) : List ℕ :=
  length value.utf8ByteSize ++ value.toUTF8.toList.map UInt8.toNat

def optional {α : Type} (encode : α → List ℕ) (value : Option α) : List ℕ :=
  flag value.isSome ++ value.elim [] encode

def position (value : Position) : List ℕ := u16 value.x ++ u16 value.y ++ [value.z]

mutual

def worldMapItem : WorldMapItem → List ℕ
  | ⟨serverId, clientThingId, count, actionId, uniqueId, text, description, teleportDestination,
      duration, charges, children⟩ =>
    u16 serverId ++ optional u16 clientThingId ++ [count] ++ optional u16 actionId ++
      optional u16 uniqueId ++ optional string text ++ optional string description ++
      optional position teleportDestination ++ optional u32 duration ++ optional u16 charges ++
      length children.length ++ worldMapItems children

def worldMapItems : List WorldMapItem → List ℕ
  | [] => []
  | item :: rest => worldMapItem item ++ worldMapItems rest

end

def mapSource : WorldMapSource → List ℕ
  | .feMapV1 => [0]
  | .otbm header =>
    [1] ++ u32 header.version ++ u16 header.width ++ u16 header.height ++
      u32 header.itemMajorVersion ++ u32 header.itemMinorVersion ++
      optional string header.description ++ optional string header.spawnFile ++
      optional string header.houseFile

/-- A table: how many entries, then the entries in key order. -/
def table {κ ν : Type} [Ord κ] [Std.TransOrd κ] (entry : κ → ν → List ℕ) (m : BTreeMap κ ν) :
    List ℕ :=
  length m.size ++ m.toList.flatMap fun e => entry e.1 e.2

end StableMapHasher

namespace WorldMap

open StableMapHasher

def tileEntry (position : Position) (tile : WorldMapTile) : List ℕ :=
  StableMapHasher.position position ++ u16 tile.groundThingId ++ flag tile.walkable

def tileItemsEntry (position : Position) (items : List WorldMapItem) : List ℕ :=
  StableMapHasher.position position ++ StableMapHasher.length items.length ++ worldMapItems items

def tileNumberEntry (position : Position) (number : ℕ) : List ℕ :=
  StableMapHasher.position position ++ u32 number

def townEntry (id : ℕ) (town : WorldMapTown) : List ℕ :=
  u32 id ++ string town.name ++ StableMapHasher.position town.templePosition

def waypointEntry (name : String) (position : Position) : List ℕ :=
  string name ++ StableMapHasher.position position

/-- The byte stream of the complete map content. -/
def sourceBytes (self : WorldMap) : List ℕ :=
  string self.identifier ++ StableMapHasher.position self.spawn ++ mapSource self.source ++
    table tileEntry self.tiles ++ table tileItemsEntry self.tileItems ++
    table tileNumberEntry self.tileFlags ++ table tileNumberEntry self.houseTiles ++
    table townEntry self.towns.entries ++ table waypointEntry self.waypoints

/-- The fingerprint of the complete map content. -/
def sourceRevision (self : WorldMap) : ℕ := hash self.sourceBytes

/-! ### Tiles and their items -/

def tile (self : WorldMap) (position : Position) : Option WorldMapTile := self.tiles[position]?

def isWalkable (self : WorldMap) (position : Position) : Bool :=
  (self.tile position).elim false WorldMapTile.walkable

/-- The items of a tile that has an item list. -/
def tileItemsAt (self : WorldMap) (position : Position) : Option (List WorldMapItem) :=
  self.tileItems[position]?

/-- The items of a tile; none for a tile without an item list. -/
def itemsAt (self : WorldMap) (position : Position) : List WorldMapItem :=
  (self.tileItemsAt position).getD []

/-- Write the item list of a tile. -/
def putTileItems (self : WorldMap) (position : Position) (items : List WorldMapItem)
    (hitems : items.length ≤ maxWorldMapItemsPerTile) : WorldMap :=
  { self with
    tileItems := self.tileItems.insert position items
    bounded := by
      intro p xs h
      rw [Std.ExtTreeMap.getElem?_insert] at h
      split at h
      · cases h; exact hitems
      · exact self.bounded p xs h }

def setTileItems (self : WorldMap) (position : Position) (items : List WorldMapItem) :
    Except CoreError WorldMap :=
  if hitems : items.length ≤ maxWorldMapItemsPerTile then
    .ok (self.putTileItems position items hitems)
  else .error (.mapTileItemLimit maxWorldMapItemsPerTile)

def templePositionForTown (self : WorldMap) (townId : ℕ) : Option Position :=
  (self.towns.get? townId).map WorldMapTown.templePosition

/-- The identity of an existing top-level item; an index beyond 8 bits has none. -/
def sourceItemIdentity (self : WorldMap) (position : Position) (itemIndex : ℕ) :
    Option WorldMapItemSourceIdentity := do
  let items ← self.tileItemsAt position
  let _ ← items[itemIndex]?
  if 255 < itemIndex then none
  else some ⟨self.sourceRevision, position, itemIndex⟩

/-! ### Removing source items -/

/-- Check one identity of a journal, and note its index under its tile. -/
def admitRemoval (self : WorldMap) (revision : ℕ) (byPosition : BTreeMap Position (List ℕ))
    (removal : WorldMapItemSourceIdentity) : Except CoreError (BTreeMap Position (List ℕ)) :=
  if removal.mapRevision ≠ revision then
    .error (.invalidMap "map-item journal source revision does not match the loaded map")
  else
    match self.tileItemsAt removal.position with
    | none => .error (.invalidMap "map-item journal references a missing tile item list")
    | some items =>
      if items.length ≤ removal.itemIndex then
        .error (.invalidMap "map-item journal references a missing ordered source item")
      else
        let indices := byPosition[removal.position]?.getD []
        if removal.itemIndex ∈ indices then
          .error (.invalidMap "map-item journal repeats one source item identity")
        else .ok (byPosition.insert removal.position (indices ++ [removal.itemIndex]))

theorem itemsAt_length (m : WorldMap) (p : Position) :
    (m.itemsAt p).length ≤ maxWorldMapItemsPerTile := by
  cases h : m.tileItems[p]? with
  | none => simp [itemsAt, tileItemsAt, h]
  | some items =>
    have hlen := m.bounded p items h
    simpa [itemsAt, tileItemsAt, h] using hlen

/-- The items of a tile, entry by entry. -/
theorem itemsAt_getElem? (m : WorldMap) (p : Position) (i : ℕ) :
    (m.itemsAt p)[i]? = (m.tileItemsAt p).bind (·[i]?) := by
  unfold itemsAt
  cases m.tileItemsAt p <;> simp

theorem itemsAt_eq {m : WorldMap} {p : Position} {items : List WorldMapItem}
    (h : m.tileItemsAt p = some items) : m.itemsAt p = items := by
  rw [itemsAt, h, Option.getD_some]

theorem sourceItemIdentity_eq_some {m : WorldMap} {p : Position} {i : ℕ}
    {identity : WorldMapItemSourceIdentity} :
    m.sourceItemIdentity p i = some identity ↔
      (∃ item, (m.itemsAt p)[i]? = some item) ∧ i ≤ 255 ∧
        identity = ⟨m.sourceRevision, p, i⟩ := by
  simp only [sourceItemIdentity, Option.bind_eq_bind, Option.bind_eq_some_iff, itemsAt_getElem?]
  constructor
  · rintro ⟨items, hitems, item, hitem, h⟩
    split at h
    · cases h
    · cases h
      exact ⟨⟨item, items, hitems, hitem⟩, by omega, rfl⟩
  · rintro ⟨⟨item, items, hitems, hitem⟩, hle, rfl⟩
    exact ⟨items, hitems, item, hitem, if_neg (by omega)⟩

theorem setTileItems_eq_ok {m m' : WorldMap} {p : Position} {items : List WorldMapItem} :
    m.setTileItems p items = .ok m' ↔
      ∃ h : items.length ≤ maxWorldMapItemsPerTile, m' = m.putTileItems p items h := by
  unfold setTileItems
  split
  · rename_i h
    simp [h, eq_comm]
  · rename_i h
    simp [h]

@[simp] theorem putTileItems_tileItemsAt (m : WorldMap) (p q : Position)
    (items : List WorldMapItem) (h : items.length ≤ maxWorldMapItemsPerTile) :
    (m.putTileItems p items h).tileItemsAt q = if p = q then some items else m.tileItemsAt q := by
  simp [putTileItems, tileItemsAt, Std.ExtTreeMap.getElem?_insert]

@[simp] theorem putTileItems_itemsAt (m : WorldMap) (p q : Position)
    (items : List WorldMapItem) (h : items.length ≤ maxWorldMapItemsPerTile) :
    (m.putTileItems p items h).itemsAt q = if p = q then items else m.itemsAt q := by
  simp only [itemsAt, putTileItems_tileItemsAt]
  split <;> rfl

@[simp] theorem putTileItems_tile (m : WorldMap) (p q : Position)
    (items : List WorldMapItem) (h : items.length ≤ maxWorldMapItemsPerTile) :
    (m.putTileItems p items h).tile q = m.tile q := rfl

/-- Remove the noted indices of one tile, the largest first. -/
def removeTileItems (self : WorldMap) (entry : Position × List ℕ) : Except CoreError WorldMap :=
  match h : self.tileItemsAt entry.1 with
  | none => .error (.invalidMap "map-item journal references a missing tile item list")
  | some items => .ok (self.putTileItems entry.1 (Indices.removeIndices items entry.2)
      (le_trans (Indices.length_removeIndices_le items entry.2) (self.bounded entry.1 items h)))

/-- Remove a journal of source items, after checking all of it. -/
def applySourceItemRemovals (self : WorldMap) (removals : List WorldMapItemSourceIdentity) :
    Except CoreError WorldMap := do
  let revision := self.sourceRevision
  let byPosition ← removals.foldlM (self.admitRemoval revision) ∅
  byPosition.toList.foldlM removeTileItems self

end WorldMap

end ForgottenEngine
