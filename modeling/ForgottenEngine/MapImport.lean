import ForgottenEngine.Creatures
import ForgottenEngine.WorldMap

/-!
# Filling an imported map

The writers a loader fills a `WorldMap` with, and the check it ends with.  Each table has its own
writer, with its own limit.

* `setTile`, `setTileFlags`, `setHouseTile`, `setTown`, `setWaypoint` — the writers, with what each
  leaves in the tables of the tiles;
* `validate` — what a loaded map must be.
-/

namespace ForgottenEngine

def maxWorldMapTiles : ℕ := 16000000

def maxWorldMapTowns : ℕ := 8192

def maxWorldMapWaypoints : ℕ := 8192

/-- The text of an error of the writers below; none of their messages has anything to escape. -/
def CoreError.debugText : CoreError → String
  | .mapTileLimit limit => s!"MapTileLimit({limit})"
  | .mapTileItemLimit limit => s!"MapTileItemLimit({limit})"
  | .mapTownLimit limit => s!"MapTownLimit({limit})"
  | .mapWaypointLimit limit => s!"MapWaypointLimit({limit})"
  | .invalidMap message => s!"InvalidMap(\"{message}\")"
  | _ => ""

namespace WorldMap

/-- `WorldMap::new`. -/
def new (identifier : String) (spawn : Position) : WorldMap where
  identifier := identifier
  spawn := spawn
  tiles := ∅
  source := .feMapV1
  tileItems := ∅
  tileFlags := ∅
  houseTiles := ∅
  towns := KeyedMap.empty
  waypoints := ∅
  bounded := WorldMap.bounded_empty

def setSource (self : WorldMap) (source : WorldMapSource) : WorldMap :=
  { self with source := source }

def setSpawn (self : WorldMap) (spawn : Position) : WorldMap := { self with spawn := spawn }

def setTile (self : WorldMap) (position : Position) (tile : WorldMapTile) :
    Except CoreError WorldMap :=
  if self.tiles[position]? = none ∧ maxWorldMapTiles ≤ self.tiles.size then
    .error (.mapTileLimit maxWorldMapTiles)
  else .ok { self with tiles := self.tiles.insert position tile }

def setTileFlags (self : WorldMap) (position : Position) (flags : ℕ) : WorldMap :=
  if flags = 0 then { self with tileFlags := self.tileFlags.erase position }
  else { self with tileFlags := self.tileFlags.insert position flags }

def setHouseTile (self : WorldMap) (position : Position) (houseId : ℕ) :
    Except CoreError WorldMap :=
  if houseId = 0 then .error (.invalidMap "house IDs must be nonzero")
  else .ok { self with houseTiles := self.houseTiles.insert position houseId }

def houseTileId (self : WorldMap) (position : Position) : Option ℕ := self.houseTiles[position]?

/-- `WorldMap::tile_flags`. -/
def tileFlagsAt (self : WorldMap) (position : Position) : ℕ := self.tileFlags[position]?.getD 0

def setTown (self : WorldMap) (town : WorldMapTown) : Except CoreError WorldMap :=
  if town.id = 0 ∨ (trim town.name).isEmpty then
    .error (.invalidMap "town IDs must be nonzero and town names cannot be empty")
  else if self.towns.get? town.id = none ∧ maxWorldMapTowns ≤ self.towns.size then
    .error (.mapTownLimit maxWorldMapTowns)
  else .ok { self with towns := self.towns.insert town }

def setWaypoint (self : WorldMap) (name : String) (position : Position) :
    Except CoreError WorldMap :=
  if (trim name).isEmpty then .error (.invalidMap "waypoint names cannot be empty")
  else if self.waypoints[name]? = none ∧ maxWorldMapWaypoints ≤ self.waypoints.size then
    .error (.mapWaypointLimit maxWorldMapWaypoints)
  else .ok { self with waypoints := self.waypoints.insert name position }

def firstWalkablePosition (self : WorldMap) : Option Position :=
  (self.tiles.toList.find? fun entry => entry.2.walkable).map Prod.fst

/-- The first key of a table that is no tile. -/
def missingTile {ν : Type} (self : WorldMap) (table : BTreeMap Position ν) : Option Position :=
  table.keys.find? fun position => (self.tile position).isNone

/-- A table may only speak of tiles. -/
def requireTiles {ν : Type} (self : WorldMap) (table : BTreeMap Position ν) (subject : String) :
    Except CoreError Unit :=
  (self.missingTile table).elim (.ok ()) fun position =>
    .error (.invalidMap s!"{subject} missing tile at {position.x},{position.y},{position.z}")

/-- The header of an imported map file. -/
def checkSource : WorldMapSource → Except CoreError Unit
  | .feMapV1 => .ok ()
  | .otbm header =>
    if header.version < 1 ∨ 2 < header.version ∨ header.width = 0 ∨ header.height = 0 then
      .error (.invalidMap "OTBM source metadata has an unsupported version or empty dimensions")
    else .ok ()

def validate (self : WorldMap) : Except CoreError Unit := do
  if (trim self.identifier).isEmpty then throw (.invalidMap "map identifier cannot be empty")
  if self.tiles.isEmpty then throw (.invalidMap "map must contain at least one tile")
  if self.isWalkable self.spawn = false then
    throw (.invalidMap "map spawn must reference a walkable tile")
  self.requireTiles self.tileItems "tile item stack references"
  self.requireTiles self.tileFlags "tile flags reference"
  self.requireTiles self.houseTiles "house tile references"
  checkSource self.source

/-! ### What the writers leave -/

theorem setTile_eq_ok {self left : WorldMap} {position : Position} {tile : WorldMapTile}
    (h : self.setTile position tile = .ok left) :
    left = { self with tiles := self.tiles.insert position tile } := by
  rw [setTile] at h
  split at h
  · cases h
  · exact (Except.ok.inj h).symm

theorem setHouseTile_eq_ok {self left : WorldMap} {position : Position} {houseId : ℕ}
    (h : self.setHouseTile position houseId = .ok left) :
    left = { self with houseTiles := self.houseTiles.insert position houseId } := by
  rw [setHouseTile] at h
  split at h
  · cases h
  · exact (Except.ok.inj h).symm

@[simp] theorem setTileFlags_tileFlagsAt (self : WorldMap) (position q : Position) (flags : ℕ) :
    (self.setTileFlags position flags).tileFlagsAt q =
      if position = q then flags else self.tileFlagsAt q := by
  rw [setTileFlags]
  split
  · next hzero =>
    by_cases h : position = q <;> simp [tileFlagsAt, Std.ExtTreeMap.getElem?_erase, h, hzero]
  · by_cases h : position = q <;> simp [tileFlagsAt, Std.ExtTreeMap.getElem?_insert, h]

@[simp] theorem setTileFlags_tile (self : WorldMap) (position q : Position) (flags : ℕ) :
    (self.setTileFlags position flags).tile q = self.tile q := by
  rw [setTileFlags]
  split <;> rfl

@[simp] theorem setTileFlags_itemsAt (self : WorldMap) (position q : Position) (flags : ℕ) :
    (self.setTileFlags position flags).itemsAt q = self.itemsAt q := by
  rw [setTileFlags]
  split <;> rfl

@[simp] theorem setTileFlags_houseTileId (self : WorldMap) (position q : Position) (flags : ℕ) :
    (self.setTileFlags position flags).houseTileId q = self.houseTileId q := by
  rw [setTileFlags]
  split <;> rfl

/-- The tables of the tiles are those of `other`. -/
def SameTiles (self other : WorldMap) : Prop :=
  self.tiles = other.tiles ∧ self.tileItems = other.tileItems ∧
    self.tileFlags = other.tileFlags ∧ self.houseTiles = other.houseTiles

theorem SameTiles.trans {a b c : WorldMap} (h : a.SameTiles b) (h' : b.SameTiles c) :
    a.SameTiles c :=
  ⟨h.1.trans h'.1, h.2.1.trans h'.2.1, h.2.2.1.trans h'.2.2.1, h.2.2.2.trans h'.2.2.2⟩

namespace SameTiles

variable {self other : WorldMap}

theorem refl (self : WorldMap) : self.SameTiles self := ⟨rfl, rfl, rfl, rfl⟩

theorem tile (h : self.SameTiles other) (position : Position) :
    self.tile position = other.tile position := by
  rw [WorldMap.tile, h.1]
  rfl

theorem itemsAt (h : self.SameTiles other) (position : Position) :
    self.itemsAt position = other.itemsAt position := by
  rw [WorldMap.itemsAt, tileItemsAt, h.2.1]
  rfl

theorem tileFlagsAt (h : self.SameTiles other) (position : Position) :
    self.tileFlagsAt position = other.tileFlagsAt position := by
  rw [WorldMap.tileFlagsAt, h.2.2.1]
  rfl

theorem houseTileId (h : self.SameTiles other) (position : Position) :
    self.houseTileId position = other.houseTileId position := by
  rw [WorldMap.houseTileId, h.2.2.2]
  rfl

end SameTiles

theorem sameTiles_of_setTown {self left : WorldMap} {town : WorldMapTown}
    (h : self.setTown town = .ok left) : left.SameTiles self := by
  rw [setTown] at h
  split at h
  · cases h
  split at h
  · cases h
  · cases h
    exact ⟨rfl, rfl, rfl, rfl⟩

theorem sameTiles_of_setWaypoint {self left : WorldMap} {name : String} {position : Position}
    (h : self.setWaypoint name position = .ok left) : left.SameTiles self := by
  rw [setWaypoint] at h
  split at h
  · cases h
  split at h
  · cases h
  · cases h
    exact ⟨rfl, rfl, rfl, rfl⟩

end WorldMap

end ForgottenEngine
