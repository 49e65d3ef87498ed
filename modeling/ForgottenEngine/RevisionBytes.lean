import ForgottenEngine.WorldMap
import ForgottenEngine.Library.Unambiguous

/-!
# The byte stream behind the revision of a map

`source_revision` hashes one byte stream made of the whole map.  Numbers are written at the width of
their type, optional values behind a flag, and strings, lists and tables behind their length in four
bytes.  A length beyond four bytes is written as the largest one.

* `unambiguous_worldMapItem` — an item with all that lies inside it can be told from its bytes;
* `sourceBytes_ne` — maps whose lengths fit four bytes are told apart by their streams;
* `longNames_collide` — a name of four gigabytes runs into the fields behind it.
-/

namespace ForgottenEngine

/-! ### The widths of the types, and lengths that fit -/

/-- The coordinates are within their types. -/
def Position.Typed (self : Position) : Prop := self.x < 65536 ∧ self.y < 65536 ∧ self.z < 256

/-- The length of the text fits four bytes. -/
def ShortText (text : String) : Prop := text.utf8ByteSize ≤ u32Max

instance (text : String) : Decidable (ShortText text) :=
  inferInstanceAs (Decidable (text.utf8ByteSize ≤ u32Max))

namespace WorldMapItem

mutual

/-- The numbers of an item, and of the items inside it, are within their types. -/
def Typed : WorldMapItem → Prop
  | ⟨serverId, clientThingId, count, actionId, uniqueId, _, _, teleportDestination, duration,
      charges, children⟩ =>
    serverId < 65536 ∧ (∀ id ∈ clientThingId, id < 65536) ∧ count < 256 ∧
      (∀ id ∈ actionId, id < 65536) ∧ (∀ id ∈ uniqueId, id < 65536) ∧
      (∀ position ∈ teleportDestination, position.Typed) ∧
      (∀ seconds ∈ duration, seconds < 4294967296) ∧ (∀ n ∈ charges, n < 65536) ∧
      TypedAll children

def TypedAll : List WorldMapItem → Prop
  | [] => True
  | item :: rest => item.Typed ∧ TypedAll rest

end

mutual

/-- The lengths in an item, and in the items inside it, fit four bytes. -/
def Short : WorldMapItem → Prop
  | ⟨_, _, _, _, _, text, description, _, _, _, children⟩ =>
    (∀ t ∈ text, ShortText t) ∧ (∀ t ∈ description, ShortText t) ∧ children.length ≤ u32Max ∧
      ShortAll children

def ShortAll : List WorldMapItem → Prop
  | [] => True
  | item :: rest => item.Short ∧ ShortAll rest

end

theorem typedAll_of_forall {items : List WorldMapItem} (h : ∀ item ∈ items, item.Typed) :
    TypedAll items := by
  induction items with
  | nil => trivial
  | cons item rest ih =>
    exact ⟨h item List.mem_cons_self, ih fun other hmem => h other (List.mem_cons_of_mem _ hmem)⟩

theorem shortAll_of_forall {items : List WorldMapItem} (h : ∀ item ∈ items, item.Short) :
    ShortAll items := by
  induction items with
  | nil => trivial
  | cons item rest ih =>
    exact ⟨h item List.mem_cons_self, ih fun other hmem => h other (List.mem_cons_of_mem _ hmem)⟩

end WorldMapItem

def WorldMapSource.Typed : WorldMapSource → Prop
  | .feMapV1 => True
  | .otbm header => header.version < 4294967296 ∧ header.width < 65536 ∧ header.height < 65536 ∧
      header.itemMajorVersion < 4294967296 ∧ header.itemMinorVersion < 4294967296

def WorldMapSource.Short : WorldMapSource → Prop
  | .feMapV1 => True
  | .otbm header => (∀ t ∈ header.description, ShortText t) ∧
      (∀ t ∈ header.spawnFile, ShortText t) ∧ ∀ t ∈ header.houseFile, ShortText t

namespace WorldMap

/-- Every number of the map is within its type. -/
structure Typed (m : WorldMap) : Prop where
  spawn : m.spawn.Typed
  source : m.source.Typed
  tiles : ∀ e ∈ m.tiles.toList, e.1.Typed ∧ e.2.groundThingId < 65536
  tileItems : ∀ e ∈ m.tileItems.toList, e.1.Typed ∧ ∀ item ∈ e.2, item.Typed
  tileFlags : ∀ e ∈ m.tileFlags.toList, e.1.Typed ∧ e.2 < 4294967296
  houseTiles : ∀ e ∈ m.houseTiles.toList, e.1.Typed ∧ e.2 < 4294967296
  towns : ∀ e ∈ m.towns.entries.toList, e.1 < 4294967296 ∧ e.2.templePosition.Typed
  waypoints : ∀ e ∈ m.waypoints.toList, e.2.Typed

/-- Every length of the map fits four bytes. -/
structure Short (m : WorldMap) : Prop where
  identifier : ShortText m.identifier
  source : m.source.Short
  tiles : m.tiles.size ≤ u32Max
  tileItems : m.tileItems.size ≤ u32Max
  items : ∀ e ∈ m.tileItems.toList, ∀ item ∈ e.2, item.Short
  tileFlags : m.tileFlags.size ≤ u32Max
  houseTiles : m.houseTiles.size ≤ u32Max
  towns : m.towns.entries.size ≤ u32Max
  townNames : ∀ e ∈ m.towns.entries.toList, ShortText e.2.name
  waypoints : m.waypoints.size ≤ u32Max
  waypointNames : ∀ e ∈ m.waypoints.toList, ShortText e.1

end WorldMap

/-! ### The parts of the stream -/

namespace StableMapHasher

theorem unambiguous_flag : Unambiguous (fun _ : Bool => True) flag := by
  apply Unambiguous.of_length 1 (fun _ => rfl)
  intro a b _ _ h
  cases a <;> cases b <;> first | rfl | exact absurd h (by decide)

/-- A field of one byte. -/
theorem unambiguous_one : Unambiguous (fun _ : ℕ => True) fun value => [value] := by
  apply Unambiguous.of_length 1 (fun _ => rfl)
  intro a b _ _ h
  exact (List.cons.inj h).1

theorem unambiguous_u16 : Unambiguous (· < 65536) u16 := by
  apply Unambiguous.of_length 2 (fun _ => rfl)
  intro a b ha hb h
  simp only [u16, List.cons.injEq, and_true] at h
  omega

theorem unambiguous_u32 : Unambiguous (· < 4294967296) u32 := by
  apply Unambiguous.of_length 4 (fun _ => rfl)
  intro a b ha hb h
  simp only [u32, List.cons.injEq, and_true] at h
  omega

/-- A length that fits is written as it is. -/
theorem unambiguous_length : Unambiguous (· ≤ u32Max) length := by
  intro a b ha hb r s h
  rw [length, length, min_eq_left ha, min_eq_left hb] at h
  exact unambiguous_u32 (Nat.lt_succ_of_le ha) (Nat.lt_succ_of_le hb) h

theorem toList_loop (bytes : ByteArray) (i : ℕ) (read : List UInt8) :
    ByteArray.toList.loop bytes i read = read.reverse ++ bytes.data.toList.drop i := by
  fun_induction ByteArray.toList.loop bytes i read with
  | case1 i read hlt ih =>
    have hlength : i < bytes.data.toList.length := hlt
    have hat : bytes.get! i = bytes.data.toList[i] := by
      rw [ByteArray.get!, getElem!_pos bytes.data i hlt]
      rfl
    rw [ih, List.reverse_cons, List.append_assoc, hat, List.drop_eq_getElem_cons hlength]
    rfl
  | case2 i read hge =>
    have hlength : bytes.data.toList.length ≤ i := Nat.le_of_not_lt hge
    rw [List.drop_of_length_le hlength, List.append_nil]

theorem toList_eq_data (bytes : ByteArray) : bytes.toList = bytes.data.toList :=
  toList_loop bytes 0 []

/-- The bytes of a text. -/
def textBytes (value : String) : List ℕ := value.toUTF8.toList.map UInt8.toNat

theorem length_textBytes (value : String) : (textBytes value).length = value.utf8ByteSize := by
  rw [textBytes, List.length_map, toList_eq_data]
  rfl

theorem textBytes_injective : Function.Injective textBytes := by
  intro a b h
  have hbytes := List.map_injective_iff.mpr (fun x y => UInt8.toNat_inj.mp) h
  rw [toList_eq_data, toList_eq_data] at hbytes
  exact String.toByteArray_inj.mp (ByteArray.ext (Array.toList_inj.mp hbytes))

theorem unambiguous_string : Unambiguous ShortText string := by
  intro a b ha hb r s h
  have hsplit : length a.utf8ByteSize ++ (textBytes a ++ r) =
      length b.utf8ByteSize ++ (textBytes b ++ s) := by
    rw [← List.append_assoc, ← List.append_assoc]
    exact h
  obtain ⟨hsize, hbehind⟩ := unambiguous_length ha hb hsplit
  have hlength : (textBytes a).length = (textBytes b).length := by
    rw [length_textBytes, length_textBytes, hsize]
  obtain ⟨hbytes, hrest⟩ := List.append_inj hbehind hlength
  exact ⟨textBytes_injective hbytes, hrest⟩

theorem unambiguous_position : Unambiguous Position.Typed position := by
  rintro ⟨x, y, z⟩ ⟨x', y', z'⟩ ha hb r s h
  simp only [position, List.append_assoc] at h
  obtain ⟨rfl, hbehindX⟩ := unambiguous_u16 ha.1 hb.1 h
  obtain ⟨rfl, hbehindY⟩ := unambiguous_u16 ha.2.1 hb.2.1 hbehindX
  obtain ⟨rfl, hrest⟩ := unambiguous_one trivial trivial hbehindY
  exact ⟨rfl, hrest⟩

theorem unambiguous_optional {α : Type} {P : α → Prop} {encode : α → List ℕ}
    (h : Unambiguous P encode) : Unambiguous (fun x : Option α => ∀ a ∈ x, P a) (optional encode) :=
  Unambiguous.option unambiguous_flag h

mutual

/-- An item, and all that lies inside it, can be told from its bytes. -/
theorem unambiguous_worldMapItem : (a b : WorldMapItem) → a.Typed → b.Typed → a.Short → b.Short →
    (r s : List ℕ) → worldMapItem a ++ r = worldMapItem b ++ s → a = b ∧ r = s
  | ⟨serverId, clientThingId, count, actionId, uniqueId, text, description, teleportDestination,
      duration, charges, children⟩,
    ⟨serverId', clientThingId', count', actionId', uniqueId', text', description',
      teleportDestination', duration', charges', children'⟩, ha, hb, hashort, hbshort, r, s, h => by
    simp only [worldMapItem, List.append_assoc] at h
    obtain ⟨haId, haThing, haCount, haAction, haUnique, haTeleport, haDuration, haCharges,
      haChildren⟩ := ha
    obtain ⟨hbId, hbThing, hbCount, hbAction, hbUnique, hbTeleport, hbDuration, hbCharges,
      hbChildren⟩ := hb
    obtain ⟨haText, haDescription, haLength, haShort⟩ := hashort
    obtain ⟨hbText, hbDescription, hbLength, hbShort⟩ := hbshort
    obtain ⟨rfl, h1⟩ := unambiguous_u16 haId hbId h
    obtain ⟨rfl, h2⟩ := unambiguous_optional unambiguous_u16 haThing hbThing h1
    obtain ⟨rfl, h3⟩ := unambiguous_one trivial trivial h2
    obtain ⟨rfl, h4⟩ := unambiguous_optional unambiguous_u16 haAction hbAction h3
    obtain ⟨rfl, h5⟩ := unambiguous_optional unambiguous_u16 haUnique hbUnique h4
    obtain ⟨rfl, h6⟩ := unambiguous_optional unambiguous_string haText hbText h5
    obtain ⟨rfl, h7⟩ := unambiguous_optional unambiguous_string haDescription hbDescription h6
    obtain ⟨rfl, h8⟩ := unambiguous_optional unambiguous_position haTeleport hbTeleport h7
    obtain ⟨rfl, h9⟩ := unambiguous_optional unambiguous_u32 haDuration hbDuration h8
    obtain ⟨rfl, h10⟩ := unambiguous_optional unambiguous_u16 haCharges hbCharges h9
    obtain ⟨hlength, h11⟩ := unambiguous_length haLength hbLength h10
    obtain ⟨rfl, h12⟩ := unambiguous_worldMapItems children children' hlength haChildren hbChildren
      haShort hbShort r s h11
    exact ⟨rfl, h12⟩

theorem unambiguous_worldMapItems : (xs ys : List WorldMapItem) → xs.length = ys.length →
    WorldMapItem.TypedAll xs → WorldMapItem.TypedAll ys → WorldMapItem.ShortAll xs →
    WorldMapItem.ShortAll ys → (r s : List ℕ) → worldMapItems xs ++ r = worldMapItems ys ++ s →
    xs = ys ∧ r = s
  | [], [], _, _, _, _, _, r, s, h => ⟨rfl, h⟩
  | [], _ :: _, hlength, _, _, _, _, _, _, _ => absurd hlength.symm (Nat.succ_ne_zero _)
  | _ :: _, [], hlength, _, _, _, _, _, _, _ => absurd hlength (Nat.succ_ne_zero _)
  | x :: xs, y :: ys, hlength, hxs, hys, hxshort, hyshort, r, s, h => by
    simp only [worldMapItems, List.append_assoc] at h
    obtain ⟨rfl, hbehind⟩ := unambiguous_worldMapItem x y hxs.1 hys.1 hxshort.1 hyshort.1 _ _ h
    obtain ⟨rfl, hrest⟩ := unambiguous_worldMapItems xs ys (Nat.succ.inj hlength) hxs.2 hys.2
      hxshort.2 hyshort.2 r s hbehind
    exact ⟨rfl, hrest⟩

end

theorem unambiguous_mapSource :
    Unambiguous (fun source : WorldMapSource => source.Typed ∧ source.Short) mapSource := by
  intro a b ha hb r s h
  cases a with
  | feMapV1 =>
    cases b with
    | feMapV1 =>
      obtain ⟨-, hrest⟩ := unambiguous_one trivial trivial h
      exact ⟨rfl, hrest⟩
    | otbm header =>
      simp only [mapSource, List.append_assoc] at h
      obtain ⟨htag, -⟩ := unambiguous_one trivial trivial h
      exact absurd htag (by decide)
  | otbm header =>
    cases b with
    | feMapV1 =>
      simp only [mapSource, List.append_assoc] at h
      obtain ⟨htag, -⟩ := unambiguous_one trivial trivial h
      exact absurd htag (by decide)
    | otbm other =>
      simp only [mapSource, List.append_assoc] at h
      obtain ⟨⟨haVersion, haWidth, haHeight, haMajor, haMinor⟩, haText, haSpawn, haHouse⟩ := ha
      obtain ⟨⟨hbVersion, hbWidth, hbHeight, hbMajor, hbMinor⟩, hbText, hbSpawn, hbHouse⟩ := hb
      obtain ⟨-, h1⟩ := unambiguous_one trivial trivial h
      obtain ⟨hversion, h2⟩ := unambiguous_u32 haVersion hbVersion h1
      obtain ⟨hwidth, h3⟩ := unambiguous_u16 haWidth hbWidth h2
      obtain ⟨hheight, h4⟩ := unambiguous_u16 haHeight hbHeight h3
      obtain ⟨hmajor, h5⟩ := unambiguous_u32 haMajor hbMajor h4
      obtain ⟨hminor, h6⟩ := unambiguous_u32 haMinor hbMinor h5
      obtain ⟨htext, h7⟩ := unambiguous_optional unambiguous_string haText hbText h6
      obtain ⟨hspawn, h8⟩ := unambiguous_optional unambiguous_string haSpawn hbSpawn h7
      obtain ⟨hhouse, h9⟩ := unambiguous_optional unambiguous_string haHouse hbHouse h8
      refine ⟨?_, h9⟩
      cases header
      cases other
      rw [WorldMapSource.otbm.injEq, OtbmMapHeader.mk.injEq]
      exact ⟨hversion, hwidth, hheight, hmajor, hminor, htext, hspawn, hhouse⟩

/-- A table can be told from its bytes when each of its entries can. -/
theorem unambiguous_table {κ ν : Type} [Ord κ] [Std.TransOrd κ] {entry : κ → ν → List ℕ}
    {P : κ × ν → Prop} (h : Unambiguous P fun e => entry e.1 e.2) :
    Unambiguous (fun m : BTreeMap κ ν => m.size ≤ u32Max ∧ ∀ e ∈ m.toList, P e) (table entry) := by
  intro a b ha hb r s heq
  have hlist := Unambiguous.list unambiguous_length h
  rw [table, table, ← Std.ExtTreeMap.length_toList, ← Std.ExtTreeMap.length_toList] at heq
  obtain ⟨hsame, hrest⟩ := hlist
    ⟨by rw [Std.ExtTreeMap.length_toList]; exact ha.1, ha.2⟩
    ⟨by rw [Std.ExtTreeMap.length_toList]; exact hb.1, hb.2⟩ heq
  exact ⟨Std.ExtTreeMap.toList_inj.mp hsame, hrest⟩

end StableMapHasher

/-! ### The stream of a map -/

namespace WorldMap

open StableMapHasher

theorem unambiguous_tileEntry : Unambiguous
    (fun e : Position × WorldMapTile => e.1.Typed ∧ e.2.groundThingId < 65536)
    fun e => tileEntry e.1 e.2 := by
  rintro ⟨p, ground, walkable⟩ ⟨p', ground', walkable'⟩ ⟨hap, hag⟩ ⟨hbp, hbg⟩ r s h
  simp only [tileEntry, List.append_assoc] at h
  obtain ⟨rfl, h1⟩ := unambiguous_position hap hbp h
  obtain ⟨rfl, h2⟩ := unambiguous_u16 hag hbg h1
  obtain ⟨rfl, h3⟩ := unambiguous_flag trivial trivial h2
  exact ⟨rfl, h3⟩

theorem unambiguous_tileItemsEntry : Unambiguous
    (fun e : Position × List WorldMapItem => e.1.Typed ∧ e.2.length ≤ u32Max ∧
      (∀ item ∈ e.2, item.Typed) ∧ ∀ item ∈ e.2, item.Short)
    fun e => tileItemsEntry e.1 e.2 := by
  rintro ⟨p, items⟩ ⟨p', items'⟩ ⟨hap, haLength, haTyped, haShort⟩ ⟨hbp, hbLength, hbTyped, hbShort⟩
    r s h
  simp only [tileItemsEntry, List.append_assoc] at h
  obtain ⟨rfl, h1⟩ := unambiguous_position hap hbp h
  obtain ⟨hlength, h2⟩ := unambiguous_length haLength hbLength h1
  obtain ⟨rfl, h3⟩ := unambiguous_worldMapItems items items' hlength
    (WorldMapItem.typedAll_of_forall haTyped) (WorldMapItem.typedAll_of_forall hbTyped)
    (WorldMapItem.shortAll_of_forall haShort) (WorldMapItem.shortAll_of_forall hbShort) r s h2
  exact ⟨rfl, h3⟩

theorem unambiguous_tileNumberEntry : Unambiguous
    (fun e : Position × ℕ => e.1.Typed ∧ e.2 < 4294967296) fun e => tileNumberEntry e.1 e.2 :=
  Unambiguous.seq unambiguous_position unambiguous_u32

/-- The identity a town is stored under is its own. -/
theorem unambiguous_townEntry : Unambiguous
    (fun e : ℕ × WorldMapTown => e.1 < 4294967296 ∧ e.2.templePosition.Typed ∧
      ShortText e.2.name ∧ e.2.id = e.1)
    fun e => townEntry e.1 e.2 := by
  rintro ⟨k, id, name, temple⟩ ⟨k', id', name', temple'⟩ ⟨hak, haTemple, haName, hakey⟩
    ⟨hbk, hbTemple, hbName, hbkey⟩ r s h
  have haid : id = k := hakey
  have hbid : id' = k' := hbkey
  subst haid hbid
  simp only [townEntry, List.append_assoc] at h
  obtain ⟨rfl, h1⟩ := unambiguous_u32 hak hbk h
  obtain ⟨rfl, h2⟩ := unambiguous_string haName hbName h1
  obtain ⟨rfl, h3⟩ := unambiguous_position haTemple hbTemple h2
  exact ⟨rfl, h3⟩

theorem unambiguous_waypointEntry : Unambiguous
    (fun e : String × Position => ShortText e.1 ∧ e.2.Typed) fun e => waypointEntry e.1 e.2 :=
  Unambiguous.seq unambiguous_string unambiguous_position

/-- Maps whose lengths fit four bytes, and that have the same stream, are the same. -/
theorem eq_of_sourceBytes_eq {a b : WorldMap} (ha : a.Typed) (hb : b.Typed) (hashort : a.Short)
    (hbshort : b.Short) (h : a.sourceBytes = b.sourceBytes) : a = b := by
  have htown (m : WorldMap) : ∀ e ∈ m.towns.entries.toList, e.2.id = e.1 := by
    intro e he
    exact m.towns.keyed e.1 e.2 (Std.ExtTreeMap.mem_toList_iff_getElem?_eq_some.mp he)
  have hbounded (m : WorldMap) : ∀ e ∈ m.tileItems.toList, e.2.length ≤ u32Max := by
    intro e he
    have hat := m.bounded e.1 e.2 (Std.ExtTreeMap.mem_toList_iff_getElem?_eq_some.mp he)
    exact le_trans hat (by decide)
  rw [← List.append_nil a.sourceBytes, ← List.append_nil b.sourceBytes] at h
  simp only [sourceBytes, List.append_assoc] at h
  obtain ⟨hidentifier, h1⟩ := unambiguous_string hashort.identifier hbshort.identifier h
  obtain ⟨hspawn, h2⟩ := unambiguous_position ha.spawn hb.spawn h1
  obtain ⟨hsource, h3⟩ := unambiguous_mapSource ⟨ha.source, hashort.source⟩
    ⟨hb.source, hbshort.source⟩ h2
  obtain ⟨htiles, h4⟩ := unambiguous_table unambiguous_tileEntry ⟨hashort.tiles, ha.tiles⟩
    ⟨hbshort.tiles, hb.tiles⟩ h3
  obtain ⟨hitems, h5⟩ := unambiguous_table unambiguous_tileItemsEntry
    ⟨hashort.tileItems, fun e he => ⟨(ha.tileItems e he).1, hbounded a e he,
      (ha.tileItems e he).2, hashort.items e he⟩⟩
    ⟨hbshort.tileItems, fun e he => ⟨(hb.tileItems e he).1, hbounded b e he,
      (hb.tileItems e he).2, hbshort.items e he⟩⟩ h4
  obtain ⟨hflags, h6⟩ := unambiguous_table unambiguous_tileNumberEntry
    ⟨hashort.tileFlags, ha.tileFlags⟩ ⟨hbshort.tileFlags, hb.tileFlags⟩ h5
  obtain ⟨hhouses, h7⟩ := unambiguous_table unambiguous_tileNumberEntry
    ⟨hashort.houseTiles, ha.houseTiles⟩ ⟨hbshort.houseTiles, hb.houseTiles⟩ h6
  obtain ⟨htowns, h8⟩ := unambiguous_table unambiguous_townEntry
    ⟨hashort.towns, fun e he => ⟨(ha.towns e he).1, (ha.towns e he).2, hashort.townNames e he,
      htown a e he⟩⟩
    ⟨hbshort.towns, fun e he => ⟨(hb.towns e he).1, (hb.towns e he).2, hbshort.townNames e he,
      htown b e he⟩⟩ h7
  obtain ⟨hwaypoints, -⟩ := unambiguous_table unambiguous_waypointEntry
    ⟨hashort.waypoints, fun e he => ⟨hashort.waypointNames e he, ha.waypoints e he⟩⟩
    ⟨hbshort.waypoints, fun e he => ⟨hbshort.waypointNames e he, hb.waypoints e he⟩⟩ h8
  have htownsKeyed : a.towns = b.towns := by
    cases hat : a.towns
    cases hbt : b.towns
    rw [hat, hbt] at htowns
    rw [KeyedMap.mk.injEq]
    exact htowns
  ext1
  all_goals assumption

/-- **The stream tells maps apart.**  Different maps whose strings, lists and tables all have lengths
that fit four bytes have different byte streams. -/
theorem sourceBytes_ne {a b : WorldMap} (ha : a.Typed) (hb : b.Typed) (hashort : a.Short)
    (hbshort : b.Short) (hne : a ≠ b) : a.sourceBytes ≠ b.sourceBytes :=
  fun h => hne (eq_of_sourceBytes_eq ha hb hashort hbshort h)

/-- A map of a name, a spawn at the origin and waypoints. -/
def named (name : String) (waypoints : BTreeMap String Position) : WorldMap where
  identifier := name
  spawn := ⟨0, 0, 0⟩
  tiles := ∅
  source := .feMapV1
  tileItems := ∅
  tileFlags := ∅
  houseTiles := ∅
  towns := KeyedMap.empty
  waypoints := waypoints
  bounded := WorldMap.bounded_empty

theorem forall_none {κ ν : Type} [Ord κ] [Std.TransOrd κ] {P : κ × ν → Prop} :
    ∀ e ∈ (∅ : BTreeMap κ ν).toList, P e := by
  rw [OrderedMap.toList_none]
  intro e he
  cases he

theorem size_none {κ ν : Type} [Ord κ] [Std.TransOrd κ] : (∅ : BTreeMap κ ν).size ≤ u32Max := by
  rw [Std.ExtTreeMap.size_empty]
  exact Nat.zero_le _

theorem typed_named (name : String) : (named name ∅).Typed := by
  have hspawn : (named name ∅).spawn.Typed := by
    show 0 < 65536 ∧ 0 < 65536 ∧ 0 < 256
    omega
  exact ⟨hspawn, trivial, forall_none, forall_none, forall_none, forall_none, forall_none,
    forall_none⟩

theorem short_named {name : String} (h : ShortText name) : (named name ∅).Short :=
  ⟨h, trivial, size_none, size_none, forall_none, size_none, size_none, size_none, forall_none,
    size_none, forall_none⟩

/-- A name and a longer one that begins like it. -/
theorem sourceBytes_ne_names : (named "Rookgaard" ∅).sourceBytes ≠ (named "Rook" ∅).sourceBytes :=
  sourceBytes_ne (typed_named "Rookgaard") (typed_named "Rook") (short_named (by decide))
    (short_named (by decide)) fun h => absurd (congrArg WorldMap.identifier h) (by decide)

/-! ### Lengths beyond four bytes -/

/-- A name of a single repeated letter. -/
def longName (n : ℕ) : String := String.ofList (List.replicate n 'a')

/-- Text that reads like a spawn, a source and the tables up to the name of a waypoint. -/
def fieldText : String :=
  String.ofList (List.replicate 26 '\x00' ++ ['\x01', '\x00', '\x00', '\x00', '\x19', '\x00', '\x00',
    '\x00'])

/-- A name of 25 zero bytes. -/
def zeroName : String := String.ofList (List.replicate 25 '\x00')

theorem textBytes_append (s t : String) : textBytes (s ++ t) = textBytes s ++ textBytes t := by
  rw [textBytes, textBytes, textBytes, toList_eq_data, toList_eq_data, toList_eq_data,
    ← List.map_append]
  rfl

theorem utf8ByteSize_longName (n : ℕ) : (longName n).utf8ByteSize = n := by
  induction n with
  | zero => rfl
  | succ n ih =>
    have hlast : (String.ofList ['a']).utf8ByteSize = 1 := rfl
    rw [longName, List.replicate_succ', String.ofList_append, String.utf8ByteSize_append, hlast]
    show (longName n).utf8ByteSize + 1 = n + 1
    rw [ih]

/-- A text whose length does not fit is written behind the largest length. -/
theorem string_long {text : String} (h : u32Max ≤ text.utf8ByteSize) :
    string text = u32 u32Max ++ textBytes text := by
  rw [string, StableMapHasher.length, min_eq_right h]
  rfl

theorem table_empty {κ ν : Type} [Ord κ] [Std.TransOrd κ] (entry : κ → ν → List ℕ) :
    table entry ∅ = [0, 0, 0, 0] := by
  rw [table, Std.ExtTreeMap.size_empty, OrderedMap.toList_none]
  rfl

theorem table_singleton {κ ν : Type} [Ord κ] [Std.TransOrd κ] [Std.LawfulEqOrd κ]
    (entry : κ → ν → List ℕ) (k : κ) (v : ν) :
    table entry ((∅ : BTreeMap κ ν).insert k v) = [1, 0, 0, 0] ++ entry k v := by
  have hat : ((∅ : BTreeMap κ ν).insert k v)[k]? = some v := Std.ExtTreeMap.getElem?_insert_self
  have hlist : ((∅ : BTreeMap κ ν).insert k v).toList = [(k, v)] := by
    have hperm := OrderedMap.toList_perm_of_getElem? hat
    rw [OrderedMap.erase_insert_self, Std.ExtTreeMap.erase_empty, OrderedMap.toList_none]
      at hperm
    exact List.perm_singleton.mp hperm
  rw [table, ← Std.ExtTreeMap.length_toList, hlist]
  have hone : StableMapHasher.length 1 = [1, 0, 0, 0] := by decide
  show StableMapHasher.length 1 ++ (entry k v ++ []) = [1, 0, 0, 0] ++ entry k v
  rw [List.append_nil, hone]

theorem textBytes_fieldText :
    textBytes fieldText = List.replicate 26 0 ++ [1, 0, 0, 0, 25, 0, 0, 0] := by
  rw [textBytes, toList_eq_data]
  rfl

theorem string_zeroName : string zeroName = [25, 0, 0, 0] ++ List.replicate 25 0 := by
  have hbytes : textBytes zeroName = List.replicate 25 0 := by
    rw [textBytes, toList_eq_data]
    rfl
  show StableMapHasher.length zeroName.utf8ByteSize ++ textBytes zeroName = _
  rw [hbytes]
  rfl

/-- The end of a long name passes for the fields behind a shorter one. -/
theorem sourceBytes_longName {name : String} (h : u32Max ≤ name.utf8ByteSize) :
    (named (name ++ fieldText) ∅).sourceBytes =
      (named name ((∅ : BTreeMap String Position).insert zeroName ⟨0, 0, 0⟩)).sourceBytes := by
  have hlonger : u32Max ≤ (name ++ fieldText).utf8ByteSize := by
    rw [String.utf8ByteSize_append]
    omega
  have hwaypoint : waypointEntry zeroName ⟨0, 0, 0⟩ = [25, 0, 0, 0] ++ List.replicate 30 0 := by
    rw [waypointEntry, string_zeroName]
    rfl
  simp only [sourceBytes, named, KeyedMap.empty, table_empty, table_singleton, string_long h,
    string_long hlonger, textBytes_append, textBytes_fieldText, hwaypoint, List.append_assoc]
  rfl

/-- Two maps whose names end in different places, with one byte stream. -/
theorem longNames_collide :
    (named (longName 4294967295 ++ fieldText) ∅).sourceBytes =
        (named (longName 4294967295)
          ((∅ : BTreeMap String Position).insert zeroName ⟨0, 0, 0⟩)).sourceBytes ∧
      named (longName 4294967295 ++ fieldText) ∅ ≠
        named (longName 4294967295) ((∅ : BTreeMap String Position).insert zeroName ⟨0, 0, 0⟩) := by
  refine ⟨sourceBytes_longName (le_of_eq (utf8ByteSize_longName u32Max).symm), ?_⟩
  intro heq
  have hwaypoints := congrArg (fun m => m.waypoints[zeroName]?) heq
  have hnone : (named (longName 4294967295 ++ fieldText) ∅).waypoints[zeroName]? = none :=
    Std.ExtTreeMap.getElem?_empty
  have hsome : (named (longName 4294967295)
      ((∅ : BTreeMap String Position).insert zeroName ⟨0, 0, 0⟩)).waypoints[zeroName]? =
        some ⟨0, 0, 0⟩ := Std.ExtTreeMap.getElem?_insert_self
  exact Option.some_ne_none _ (hsome.symm.trans (hwaypoints.symm.trans hnone))

end WorldMap

end ForgottenEngine
