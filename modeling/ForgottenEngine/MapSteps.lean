import ForgottenEngine.ViewportCreatures

/-!
# The row or column a step uncovers

* `OnEdge` — the cells of the window at the edge the player moves towards;
* `stepWindow_eq` — the cells of a step are the cells of the viewport on that edge, in its order;
* `stepCells_eq_edge` — **a step writes those cells as the viewport writes them**, as long as
  neither leaves anything out;
* `mem_stepWindow_iff` — and they show the tiles that the step brings into the window, while that
  edge is inside the limits of the coordinates;
* `mapStep_uncovers` — both, about the frames of the encoders.
-/

namespace ForgottenEngine

open ByteCodec

/-- The offsets at the edge the player moves towards. -/
def OnEdge (direction : CardinalDirection) (offset : ℕ × ℕ × ℕ) : Bool :=
  match direction with
  | .north => offset.2.2 = 0
  | .east => offset.2.1 = nativeOtclientClassicMapWidth - 1
  | .south => offset.2.2 = nativeOtclientClassicMapHeight - 1
  | .west => offset.2.1 = 0

/-- The offsets of a step, in its order. -/
def stepOffsets (direction : CardinalDirection) : List (ℕ × ℕ × ℕ) :=
  surfaceFloors.flatMap fun z =>
    match direction with
    | .north => (List.range nativeOtclientClassicMapWidth).map fun x => (z, x, 0)
    | .east => (List.range nativeOtclientClassicMapHeight).map fun y =>
        (z, nativeOtclientClassicMapWidth - 1, y)
    | .south => (List.range nativeOtclientClassicMapWidth).map fun x =>
        (z, x, nativeOtclientClassicMapHeight - 1)
    | .west => (List.range nativeOtclientClassicMapHeight).map fun y => (z, 0, y)

theorem stepOffsets_eq (direction : CardinalDirection) :
    stepOffsets direction = viewportOffsets.filter (OnEdge direction) := by
  cases direction <;> decide +kernel

/-- The cells of a step are those of the viewport on the edge; the player is on none of them. -/
theorem stepWindow_eq (camera : NativeOtClientPosition) (direction : CardinalDirection) :
    stepWindow camera direction =
      (viewportOffsets.filter (OnEdge direction)).map (cellAt camera) := by
  rw [← stepOffsets_eq]
  cases direction <;>
    simp [stepWindow, stepOffsets, cellAt, List.map_flatMap, List.map_map, Function.comp_def,
      centerX, centerY, nativeOtclientClassicMapWidth, nativeOtclientClassicMapHeight]

/-! ### The same cells -/

/-- The part of some cells of the viewport that lies on the edge. -/
def edgeCells {α : Type} (direction : CardinalDirection) (cells : List α) : List α :=
  ((viewportOffsets.zip cells).filter fun cell => OnEdge direction cell.1).map Prod.snd

/-- The edge of a list of cells made from the offsets. -/
theorem edgeCells_map {α : Type} (direction : CardinalDirection) (f : ℕ × ℕ × ℕ → α) :
    edgeCells direction (viewportOffsets.map f) =
      (viewportOffsets.filter (OnEdge direction)).map f := by
  unfold edgeCells
  generalize viewportOffsets = offsets
  induction offsets with
  | nil => rfl
  | cons offset offsets ih =>
    rw [List.map_cons, List.zip_cons_cons, List.filter_cons, List.filter_cons]
    cases hedge : OnEdge direction offset with
    | true => simp only [if_true, List.map_cons, ih]
    | false => simpa using ih

/-- Where no listed player is the own one, a step draws whom the viewport draws. -/
theorem wholeCell_congr {view : MapView} {shows shows' : NativeOtClientVisiblePlayer → Bool}
    {cell : WindowCell}
    (h : view.assetFree = false → ∀ player ∈ view.visiblePlayersAt cell.position,
      shows player = shows' player) : view.wholeCell shows cell = view.wholeCell shows' cell := by
  unfold MapView.wholeCell MapView.optional
  cases hfree : view.assetFree with
  | true => rfl
  | false => rw [List.filter_congr (h hfree)]

/-- **A step writes its cells as the viewport does**, as long as neither leaves anything out and
the player is not listed among the others. -/
theorem stepCells_eq_edge (view : MapView) (direction : CardinalDirection)
    (hviewport : (viewportWriter view).leftOut = false)
    (hstep : (stepWriter view direction).leftOut = false)
    (hothers : ∀ player ∈ view.visiblePlayers.getD [], player.playerId ≠ view.snapshot.playerId) :
    (stepWriter view direction).cells = edgeCells direction (viewportWriter view).cells := by
  rw [(frameWritten_viewport view).whole hviewport, (frameWritten_step view direction).whole hstep,
    viewportWindow_eq, stepWindow_eq, List.map_map, List.map_map, edgeCells_map]
  refine List.map_congr_left fun offset _ => wholeCell_congr fun _ player hplayer => ?_
  exact (decide_eq_true (hothers player (List.mem_filter.mp hplayer).1)).symm

/-! ### The same tiles -/

/-- A step of one tile. -/
def StepsTo (old : NativeOtClientPosition) (direction : CardinalDirection)
    (new : NativeOtClientPosition) : Prop :=
  match direction with
  | .north => new.x = old.x ∧ new.y.toNat + 1 = old.y.toNat
  | .east => old.x.toNat + 1 = new.x.toNat ∧ new.y = old.y
  | .south => new.x = old.x ∧ old.y.toNat + 1 = new.y.toNat
  | .west => new.x.toNat + 1 = old.x.toNat ∧ new.y = old.y

/-- The edge the player moves towards is inside the limits of the coordinates. -/
def EdgeInside (camera : NativeOtClientPosition) (direction : CardinalDirection) : Prop :=
  match direction with
  | .north => centerY ≤ camera.y.toNat
  | .east => camera.x.toNat + (nativeOtclientClassicMapWidth - 1 - centerX) ≤ u16Max
  | .south => camera.y.toNat + (nativeOtclientClassicMapHeight - 1 - centerY) ≤ u16Max
  | .west => centerX ≤ camera.x.toNat

/-- The tiles a list of cells shows. -/
def tilesOf (cells : List WindowCell) : List Position := cells.map WindowCell.position

theorem mem_tilesOf_viewportWindow {camera : NativeOtClientPosition} {tile : Position} :
    tile ∈ tilesOf (viewportWindow camera) ↔ ∃ z x y, (z < 8 ∧ x < 18 ∧ y < 14) ∧
      windowPosition camera x y z = tile := by
  rw [tilesOf, viewportWindow_eq, List.map_map, List.mem_map]
  constructor
  · intro h
    obtain ⟨⟨z, x, y⟩, hoffset, htile⟩ := h
    exact ⟨z, x, y, mem_viewportOffsets.mp hoffset, htile⟩
  · intro h
    obtain ⟨z, x, y, hoffset, htile⟩ := h
    exact ⟨(z, x, y), mem_viewportOffsets.mpr hoffset, htile⟩

theorem mem_tilesOf_stepWindow {camera : NativeOtClientPosition} {direction : CardinalDirection}
    {tile : Position} :
    tile ∈ tilesOf (stepWindow camera direction) ↔ ∃ z x y, (z < 8 ∧ x < 18 ∧ y < 14) ∧
      OnEdge direction (z, x, y) = true ∧ windowPosition camera x y z = tile := by
  rw [tilesOf, stepWindow_eq, List.map_map, List.mem_map]
  constructor
  · intro h
    obtain ⟨⟨z, x, y⟩, hoffset, htile⟩ := h
    obtain ⟨hmem, hedge⟩ := List.mem_filter.mp hoffset
    exact ⟨z, x, y, mem_viewportOffsets.mp hmem, hedge, htile⟩
  · intro h
    obtain ⟨z, x, y, hoffset, hedge, htile⟩ := h
    exact ⟨(z, x, y), List.mem_filter.mpr ⟨mem_viewportOffsets.mpr hoffset, hedge⟩, htile⟩

/-- An offset that is not on the edge shows a tile of the old window too. -/
theorem mem_old_of_not_onEdge {old new : NativeOtClientPosition} {direction : CardinalDirection}
    {z x y : ℕ} (hstep : StepsTo old direction new) (hoffset : z < 8 ∧ x < 18 ∧ y < 14)
    (hedge : ¬OnEdge direction (z, x, y) = true) :
    windowPosition new x y z ∈ tilesOf (viewportWindow old) := by
  have hwidth : nativeOtclientClassicMapWidth = 18 := rfl
  have hheight : nativeOtclientClassicMapHeight = 14 := rfl
  rw [mem_tilesOf_viewportWindow]
  cases direction with
  | north =>
    simp only [OnEdge, decide_eq_true_eq] at hedge
    obtain ⟨hx, hy⟩ := hstep
    refine ⟨z, x, y - 1, by omega, ?_⟩
    simp only [windowPosition, windowCoordinate, Position.mk.injEq, hx, true_and, and_true]
    omega
  | east =>
    simp only [OnEdge, decide_eq_true_eq, hwidth] at hedge
    obtain ⟨hx, hy⟩ := hstep
    refine ⟨z, x + 1, y, by omega, ?_⟩
    simp only [windowPosition, windowCoordinate, Position.mk.injEq, hy, and_true]
    omega
  | south =>
    simp only [OnEdge, decide_eq_true_eq, hheight] at hedge
    obtain ⟨hx, hy⟩ := hstep
    refine ⟨z, x, y + 1, by omega, ?_⟩
    simp only [windowPosition, windowCoordinate, Position.mk.injEq, hx, true_and, and_true]
    omega
  | west =>
    simp only [OnEdge, decide_eq_true_eq] at hedge
    obtain ⟨hx, hy⟩ := hstep
    refine ⟨z, x - 1, y, by omega, ?_⟩
    simp only [windowPosition, windowCoordinate, Position.mk.injEq, hy, and_true]
    omega

/-- An offset on the edge shows no tile of the old window, while the edge is inside the limits. -/
theorem not_mem_old_of_onEdge {old new : NativeOtClientPosition} {direction : CardinalDirection}
    {z x y : ℕ} (hstep : StepsTo old direction new) (hinside : EdgeInside new direction)
    (hedge : OnEdge direction (z, x, y) = true) :
    windowPosition new x y z ∉ tilesOf (viewportWindow old) := by
  have hwidth : nativeOtclientClassicMapWidth = 18 := rfl
  have hheight : nativeOtclientClassicMapHeight = 14 := rfl
  have hcenterX : centerX = 8 := rfl
  have hcenterY : centerY = 6 := rfl
  have hmax : u16Max = 65535 := rfl
  have hx := new.x.toNat_lt
  have hy := new.y.toNat_lt
  rw [mem_tilesOf_viewportWindow]
  intro hold
  obtain ⟨z', x', y', hoffset, heq⟩ := hold
  simp only [windowPosition, windowCoordinate, Position.mk.injEq, hcenterX, hcenterY, hmax] at heq
  cases direction <;>
    simp only [StepsTo, EdgeInside, OnEdge, hcenterX, hcenterY, hmax, hwidth, hheight,
      decide_eq_true_eq] at hstep hinside hedge <;>
    omega

/-- **The tiles of a step are the tiles it brings into the window.** -/
theorem mem_stepWindow_iff {old new : NativeOtClientPosition} {direction : CardinalDirection}
    (hstep : StepsTo old direction new) (hinside : EdgeInside new direction) (tile : Position) :
    tile ∈ tilesOf (stepWindow new direction) ↔
      tile ∈ tilesOf (viewportWindow new) ∧ tile ∉ tilesOf (viewportWindow old) := by
  rw [mem_tilesOf_stepWindow, mem_tilesOf_viewportWindow]
  constructor
  · intro h
    obtain ⟨z, x, y, hoffset, hedge, rfl⟩ := h
    exact ⟨⟨z, x, y, hoffset, rfl⟩, not_mem_old_of_onEdge hstep hinside hedge⟩
  · intro h
    obtain ⟨⟨z, x, y, hoffset, rfl⟩, hold⟩ := h
    refine ⟨z, x, y, hoffset, ?_, rfl⟩
    by_contra hedge
    exact hold (mem_old_of_not_onEdge hstep hoffset hedge)

/-- The tiles of a step are those of the viewport on the edge, in its order. -/
theorem tilesOf_stepWindow (camera : NativeOtClientPosition) (direction : CardinalDirection) :
    tilesOf (stepWindow camera direction) =
      edgeCells direction (tilesOf (viewportWindow camera)) := by
  rw [tilesOf, tilesOf, stepWindow_eq, viewportWindow_eq, List.map_map, List.map_map, edgeCells_map]

/-- **A step shows the row or column that comes into view.**  Its frame holds a cell for each tile
on the edge of the viewport, in the order of the viewport and with what the viewport holds there,
when neither leaves anything out; these are the tiles that come into view, as long as the edge is
inside the limits. -/
theorem mapStep_uncovers (profile : NativeOtClientProfile) (view : MapView)
    (direction : CardinalDirection)
    (hvalid : validateNativeEmptyWorldSnapshot profile view.snapshot = .ok ()) :
    encodeNativeOtclientMapStep profile view direction =
        .ok (stepOpcode direction :: recordBytes (stepWriter view direction).cells.flatten) ∧
      encodeNativeOtclientMapViewport profile view =
        .ok (viewportHeader view.snapshot.playerPosition ++
          recordBytes (viewportWriter view).cells.flatten) ∧
      tilesOf (stepWindow view.snapshot.playerPosition direction) =
        edgeCells direction (tilesOf (viewportWindow view.snapshot.playerPosition)) ∧
      ((viewportWriter view).leftOut = false → (stepWriter view direction).leftOut = false →
        (∀ player ∈ view.visiblePlayers.getD [], player.playerId ≠ view.snapshot.playerId) →
        (stepWriter view direction).cells = edgeCells direction (viewportWriter view).cells) ∧
      (∀ old, StepsTo old direction view.snapshot.playerPosition →
        EdgeInside view.snapshot.playerPosition direction → ∀ tile,
        tile ∈ tilesOf (stepWindow view.snapshot.playerPosition direction) ↔
          tile ∈ tilesOf (viewportWindow view.snapshot.playerPosition) ∧
            tile ∉ tilesOf (viewportWindow old)) := by
  refine ⟨?_, ?_, tilesOf_stepWindow _ direction, stepCells_eq_edge view direction, ?_⟩
  · have hframe := frameWritten_step view direction
    rw [encodeNativeOtclientMapStep, hvalid, finishFrame_of_fits hframe.fits, hframe.bytes_eq]
    generalize recordBytes (stepWriter view direction).cells.flatten = frame
    rfl
  · have hframe := frameWritten_viewport view
    rw [encodeNativeOtclientMapViewport, hvalid, finishFrame_of_fits hframe.fits, hframe.bytes_eq]
    generalize viewportHeader view.snapshot.playerPosition ++
      recordBytes (viewportWriter view).cells.flatten = frame
    rfl
  · intro old hstep hinside tile
    exact mem_stepWindow_iff hstep hinside tile

/-- A knight alone that came from the south. -/
theorem mapStep_uncovers_knight :
    encodeNativeOtclientMapStep classic740Profile (knightView []) .north =
        .ok (0x65 :: recordBytes (stepWriter (knightView []) .north).cells.flatten) ∧
      ∀ tile, tile ∈ tilesOf (stepWindow ⟨100, 100, 7⟩ .north) ↔
        tile ∈ tilesOf (viewportWindow ⟨100, 100, 7⟩) ∧
          tile ∉ tilesOf (viewportWindow ⟨100, 101, 7⟩) := by
  obtain ⟨hframe, -, -, -, htiles⟩ :=
    mapStep_uncovers classic740Profile (knightView []) .north (by decide +kernel)
  exact ⟨hframe, htiles ⟨100, 101, 7⟩ ⟨rfl, rfl⟩ (show 6 ≤ 100 by decide)⟩

/-! ### At the limit of the map, and at the limit of the creatures -/

/-- Without assets, a cell on bare ground shows its creatures. -/
theorem encodeCell_assetFree {view : MapView} {shows : NativeOtClientVisiblePlayer → Bool}
    {cell : WindowCell} (totalCells : ℕ) (w : MapWriter) (hfree : view.assetFree = true)
    (hground : view.groundThingId cell.position = 0) (hitems : view.extraItems cell.position = []) :
    encodeCell view shows totalCells cell w =
      (writeStaticEntities (totalCells - (w.cells.length + 1)) (view.staticEntitiesAt cell.position)
        w).endTile := by
  simp [encodeCell, writeGround, writeAbove, hground, hitems, writeItems, writeOtherPlayers,
    writePlayer, hfree]

/-- Cells with nothing to draw. -/
theorem encodeCells_bare {view : MapView} {shows : NativeOtClientVisiblePlayer → Bool}
    {cells : List WindowCell} {w : MapWriter} (totalCells : ℕ) (hfree : view.assetFree = true)
    (hbare : ∀ cell ∈ cells, view.groundThingId cell.position = 0 ∧
      view.extraItems cell.position = [] ∧ view.staticEntitiesAt cell.position = [])
    (hcell : w.cell = []) :
    encodeCells view shows totalCells cells w =
      { w with cells := w.cells ++ List.replicate cells.length [.tileEnd] } := by
  induction cells generalizing w with
  | nil => simp [encodeCells]
  | cons cell cells ih =>
    obtain ⟨hground, hitems, hentities⟩ := hbare cell List.mem_cons_self
    have hfirst : encodeCell view shows totalCells cell w =
        { w with cells := w.cells ++ [[.tileEnd]] } := by
      rw [encodeCell_assetFree totalCells w hfree hground hitems, hentities, writeStaticEntities,
        MapWriter.endTile, hcell]
      rfl
    have hrest := ih (w := encodeCell view shows totalCells cell w)
      (fun cell hmem => hbare cell (List.mem_cons_of_mem _ hmem)) (by rw [hfirst, hcell])
    rw [show encodeCells view shows totalCells (cell :: cells) w =
      encodeCells view shows totalCells cells (encodeCell view shows totalCells cell w) from rfl,
      hrest, hfirst, List.length_cons, List.replicate_succ]
    simp [List.append_assoc]

/-- Creatures that are all written: no more than may be drawn, and the frame has room for each. -/
theorem writeStaticEntities_all {remainingCells size : ℕ} {entities : List DrawnStaticEntity}
    {w : MapWriter}
    (hcount : w.staticEntityCount + entities.length ≤ nativeOtclientMaxStaticEntitiesPerViewport)
    (hsize : ∀ e ∈ entities, (CreatureRecord.staticEntity e).bytes.length = size)
    (hroom : w.len + entities.length * size + 2 + remainingCells * 4 ≤ maxFrameSize) :
    writeStaticEntities remainingCells entities w =
      { w with
        cell := w.cell ++ entities.map fun e => .creature (.staticEntity e)
        staticEntityCount := w.staticEntityCount + entities.length } := by
  induction entities generalizing w with
  | nil => simp [writeStaticEntities]
  | cons e entities ih =>
    rw [List.length_cons] at hcount hroom
    have hfirst : (CreatureRecord.staticEntity e).bytes.length = size :=
      hsize e List.mem_cons_self
    have hopen : ¬nativeOtclientMaxStaticEntitiesPerViewport ≤ w.staticEntityCount := by omega
    have hfits : nativeMapRecordFitsBudget w (CreatureRecord.staticEntity e).bytes.length
        remainingCells := by
      unfold nativeMapRecordFitsBudget
      rw [hfirst]
      rw [Nat.add_one_mul] at hroom
      omega
    have hlen : (w.push (.creature (.staticEntity e))).len = w.len + size := by
      rw [MapWriter.len_push]
      exact congrArg (w.len + ·) hfirst
    have hrest := @ih { w.push (.creature (.staticEntity e)) with
        staticEntityCount := w.staticEntityCount + 1 }
      (by show w.staticEntityCount + 1 + entities.length ≤ _; omega)
      (fun e he => hsize e (List.mem_cons_of_mem _ he))
      (by
        show (w.push (.creature (.staticEntity e))).len + entities.length * size + 2 +
          remainingCells * 4 ≤ maxFrameSize
        rw [Nat.add_one_mul] at hroom
        omega)
    simp only [writeStaticEntities]
    rw [if_neg hopen, if_pos hfits, hrest]
    simp [MapWriter.push, Nat.add_comm, Nat.add_left_comm]

/-- All cells of the viewport. -/
def viewportCells : ℕ :=
  nativeOtclientClassicMapWidth * nativeOtclientClassicMapHeight *
    nativeOtclientClassicSurfaceFloors

/-- The cells of the viewport up to one of them. -/
theorem viewport_prefix_cell (view : MapView) {before after : List WindowCell} {cell : WindowCell}
    (h : viewportWindow view.snapshot.playerPosition = before ++ [cell] ++ after) :
    (encodeCell view view.showsOthers viewportCells cell
      (encodeCells view view.showsOthers viewportCells before
        (.start (viewportHeader view.snapshot.playerPosition)))).cells <+:
      (viewportWriter view).cells := by
  have hprefix := viewport_prefix view h
  rw [encodeCells_append] at hprefix
  exact hprefix

/-- The tile of thirty-two rats, and that of the one on the northern edge. -/
def crowdTile : Position := ⟨104, 107, 6⟩

def edgeTile : Position := ⟨105, 94, 6⟩

/-- Thirty-two rats inside the window and one on its northern edge; no assets. -/
def ratsView : MapView :=
  ⟨{ knightSnapshot with groundThingId := 0, playerLookType := 0 }, bareMap,
    some ((List.range 33).map fun id =>
      drawnRat id (if id = 32 then edgeTile else crowdTile)), none⟩

def edgeRat : CreatureRecord := .staticEntity (drawnRat 32 edgeTile)

/-- The cells of the viewport before the crowd. -/
def cellsBeforeCrowd : List WindowCell := (viewportWindow ⟨100, 100, 7⟩).take 433

theorem viewportWindow_ratsView :
    viewportWindow ratsView.snapshot.playerPosition =
      (cellsBeforeCrowd ++ [⟨crowdTile, false⟩]) ++ [⟨edgeTile, false⟩] ++
      (viewportWindow ratsView.snapshot.playerPosition).drop 435 := by
  decide +kernel

theorem bare_cellsBeforeCrowd (cell : WindowCell) (h : cell ∈ cellsBeforeCrowd) :
    ratsView.groundThingId cell.position = 0 ∧ ratsView.extraItems cell.position = [] ∧
      ratsView.staticEntitiesAt cell.position = [] := by
  have hfree : ∀ cell ∈ cellsBeforeCrowd, cell.position ≠ crowdTile ∧ cell.position ≠ edgeTile := by
    decide +kernel
  refine ⟨?_, ?_, ?_⟩
  · simp [MapView.groundThingId, WorldMap.tile, ratsView, bareMap]
  · simp [MapView.extraItems, WorldMap.tileItemsAt, ratsView, bareMap]
  · rw [MapView.staticEntitiesAt, List.filter_eq_nil_iff]
    intro rat hrat
    obtain ⟨id, -, rfl⟩ := List.mem_map.mp hrat
    obtain ⟨hcrowd, hedge⟩ := hfree cell h
    by_cases hid : id = 32
    · simpa [drawnRat, hid] using Ne.symm hedge
    · simpa [drawnRat, hid] using Ne.symm hcrowd

/-- The writer of the viewport before the cell on the edge. -/
def edgeWriter : MapWriter :=
  encodeCells ratsView ratsView.showsOthers viewportCells (cellsBeforeCrowd ++ [⟨crowdTile, false⟩])
    (.start (viewportHeader ratsView.snapshot.playerPosition))

/-- The thirty-two rats. -/
def crowd : List DrawnStaticEntity := (List.range 32).map fun id => drawnRat id crowdTile

/-- The crowd is written, all of it. -/
theorem edgeWriter_eq :
    edgeWriter =
      { MapWriter.start (viewportHeader ⟨100, 100, 7⟩) with
        cells := List.replicate 433 [.tileEnd] ++
          [crowd.map (fun e => .creature (.staticEntity e)) ++ [.tileEnd]]
        staticEntityCount := 32 } := by
  have hlength : cellsBeforeCrowd.length = 433 := by decide +kernel
  have hcrowd : ratsView.staticEntitiesAt crowdTile = crowd := by decide +kernel
  have hbytes : ∀ e ∈ crowd, (CreatureRecord.staticEntity e).bytes.length = 28 := by
    decide +kernel
  have hlen : (MapWriter.mk (viewportHeader ⟨100, 100, 7⟩) (List.replicate 433 [.tileEnd]) [] 0 0
      false).len = 872 := by decide +kernel
  have hwritten := @writeStaticEntities_all (viewportCells - (433 + 1)) 28 crowd
    ⟨viewportHeader ⟨100, 100, 7⟩, List.replicate 433 [.tileEnd], [], 0, 0, false⟩ (by decide)
    hbytes (by rw [hlen]; decide)
  have hcells : (List.replicate 433 [MapRecord.tileEnd]).length = 433 := List.length_replicate
  rw [edgeWriter, encodeCells_append, encodeCells_bare viewportCells rfl bare_cellsBeforeCrowd
    rfl, hlength]
  generalize List.replicate 433 [MapRecord.tileEnd] = cells at *
  show encodeCell ratsView ratsView.showsOthers viewportCells ⟨crowdTile, false⟩
    ⟨viewportHeader ⟨100, 100, 7⟩, cells, [], 0, 0, false⟩ = _
  rw [encodeCell_assetFree viewportCells _ rfl rfl rfl, hcrowd, hcells, hwritten]
  rfl

/-- The writer behind that cell. -/
def edgeCellWriter : MapWriter :=
  encodeCell ratsView ratsView.showsOthers viewportCells ⟨edgeTile, false⟩ edgeWriter

/-- There is room for the rat on the edge, but thirty-two are drawn. -/
theorem edgeRat_leftOut :
    nativeMapRecordFitsBudget edgeWriter edgeRat.bytes.length (viewportCells - 435) ∧
      edgeWriter.leftOut = false ∧
      edgeCellWriter.cells[434]? = some [.tileEnd] := by
  rw [edgeCellWriter, edgeWriter_eq]
  decide +kernel

/-- At the limit of the coordinates a step shows a tile that was in view; and a step draws the rat
on the edge, which the viewport leaves out though there is room for it. -/
theorem mapStep_differs :
    (StepsTo ⟨100, 4, 7⟩ .north ⟨100, 3, 7⟩ ∧
        (⟨100, 0, 7⟩ : Position) ∈ tilesOf (stepWindow ⟨100, 3, 7⟩ .north) ∧
        (⟨100, 0, 7⟩ : Position) ∈ tilesOf (viewportWindow ⟨100, 4, 7⟩)) ∧
      (viewportWindow ⟨100, 100, 7⟩)[434]? = some ⟨edgeTile, false⟩ ∧
      (stepWindow ⟨100, 100, 7⟩ .north)[31]? = some ⟨edgeTile, false⟩ ∧
      nativeMapRecordFitsBudget edgeWriter edgeRat.bytes.length (viewportCells - 435) ∧
      (viewportWriter ratsView).cells[434]? = some [.tileEnd] ∧
      (stepWriter ratsView .north).cells[31]? = some [.creature edgeRat, .tileEnd] := by
  obtain ⟨hfits, -, hcell⟩ := edgeRat_leftOut
  refine ⟨⟨⟨rfl, rfl⟩, by decide +kernel, by decide +kernel⟩, by decide +kernel, by decide +kernel,
    hfits, ?_, by decide +kernel⟩
  have hprefix : edgeCellWriter.cells <+: (viewportWriter ratsView).cells :=
    viewport_prefix_cell ratsView viewportWindow_ratsView
  generalize edgeCellWriter.cells = before at hprefix hcell
  obtain ⟨later, hlater⟩ := hprefix
  rw [← hlater, List.getElem?_append_left (List.getElem?_eq_some_iff.mp hcell).1]
  exact hcell

end ForgottenEngine
