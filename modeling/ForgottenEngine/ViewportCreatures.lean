import ForgottenEngine.ViewportReading

/-!
# The creatures of a viewport

* `viewportWindow_eq` — the cells of the window by their offsets; the tile of the player is the
  one in the middle of its floor;
* `position_of_mem_written` — **a creature is written in a cell that shows its own tile**;
* `count_player` — the record of the player is written once when it still fits in front of the
  marker of its cell, and otherwise not at all;
* `viewport_creatures` — and every other creature at most once, while the window does not reach over
  the limits of the coordinates, where one tile is shown in many cells.
-/

namespace ForgottenEngine

open ByteCodec

/-! ### The window by offsets -/

/-- Floor, column and row of the cells, in the order in which they are written. -/
def viewportOffsets : List (ℕ × ℕ × ℕ) :=
  surfaceFloors.product ((List.range nativeOtclientClassicMapWidth).product
    (List.range nativeOtclientClassicMapHeight))

def cellAt (camera : NativeOtClientPosition) (offset : ℕ × ℕ × ℕ) : WindowCell where
  position := windowPosition camera offset.2.1 offset.2.2 offset.1
  isPlayerTile := offset.1 = camera.z.toNat && offset.2.1 = centerX && offset.2.2 = centerY

theorem viewportWindow_eq (camera : NativeOtClientPosition) :
    viewportWindow camera = viewportOffsets.map (cellAt camera) := by
  simp only [viewportWindow, viewportOffsets, List.product, List.map_flatMap, List.map_map]
  rfl

theorem nodup_viewportOffsets : viewportOffsets.Nodup :=
  .product (List.nodup_reverse.mpr List.nodup_range) (.product List.nodup_range List.nodup_range)

theorem mem_viewportOffsets {z x y : ℕ} :
    (z, x, y) ∈ viewportOffsets ↔ z < nativeOtclientClassicSurfaceFloors ∧
      x < nativeOtclientClassicMapWidth ∧ y < nativeOtclientClassicMapHeight := by
  simp [viewportOffsets, surfaceFloors]

/-- The offset of the player. -/
def playerOffset (camera : NativeOtClientPosition) : ℕ × ℕ × ℕ :=
  (camera.z.toNat, centerX, centerY)

theorem isPlayerTile_iff (camera : NativeOtClientPosition) (offset : ℕ × ℕ × ℕ) :
    (cellAt camera offset).isPlayerTile = true ↔ offset = playerOffset camera := by
  obtain ⟨z, x, y⟩ := offset
  simp [cellAt, playerOffset, and_assoc]

def NativeOtClientPosition.tile (self : NativeOtClientPosition) : Position :=
  ⟨self.x.toNat, self.y.toNat, self.z.toNat⟩

/-- The cell of the player shows the tile it stands on. -/
theorem position_playerOffset (camera : NativeOtClientPosition) :
    (cellAt camera (playerOffset camera)).position = camera.tile := by
  have hx := camera.x.toNat_lt
  have hy := camera.y.toNat_lt
  have hcoordinate : ∀ n center : ℕ, n < 65536 → windowCoordinate n center center = n := by
    intro n center hn
    unfold windowCoordinate
    have : u16Max = 65535 := rfl
    omega
  show Position.mk (windowCoordinate camera.x.toNat centerX centerX)
    (windowCoordinate camera.y.toNat centerY centerY) camera.z.toNat = _
  rw [hcoordinate _ _ hx, hcoordinate _ _ hy]
  rfl

/-- The window, split at the cell of the player. -/
theorem viewportWindow_split {camera : NativeOtClientPosition}
    (hz : camera.z.toNat < nativeOtclientClassicSurfaceFloors) :
    ∃ after, viewportWindow camera =
      (viewportWindow camera).takeWhile (fun cell => !cell.isPlayerTile) ++
        cellAt camera (playerOffset camera) :: after ∧
      (∀ cell ∈ (viewportWindow camera).takeWhile (fun cell => !cell.isPlayerTile),
        cell.isPlayerTile = false) ∧
      ∀ cell ∈ after, cell.isPlayerTile = false := by
  have hmem : playerOffset camera ∈ viewportOffsets :=
    mem_viewportOffsets.mpr ⟨hz, by decide, by decide⟩
  obtain ⟨before, after, hsplit⟩ := List.append_of_mem hmem
  have hnodup := nodup_viewportOffsets
  rw [hsplit] at hnodup
  have hbefore : ∀ offset ∈ before, (cellAt camera offset).isPlayerTile = false := by
    intro offset hoffset
    refine Bool.eq_false_iff.mpr fun h => ?_
    rw [isPlayerTile_iff] at h
    subst h
    exact (List.nodup_append.mp hnodup).2.2 _ hoffset _ (List.mem_cons_self ..) rfl
  have hafter : ∀ offset ∈ after, (cellAt camera offset).isPlayerTile = false := by
    intro offset hoffset
    refine Bool.eq_false_iff.mpr fun h => ?_
    rw [isPlayerTile_iff] at h
    subst h
    exact (List.nodup_cons.mp (List.nodup_append.mp hnodup).2.1).1 hoffset
  have hwindow : viewportWindow camera = before.map (cellAt camera) ++
      cellAt camera (playerOffset camera) :: after.map (cellAt camera) := by
    rw [viewportWindow_eq, hsplit, List.map_append, List.map_cons]
  have hplayer : (cellAt camera (playerOffset camera)).isPlayerTile = true :=
    (isPlayerTile_iff camera _).mpr rfl
  have htake : (viewportWindow camera).takeWhile (fun cell => !cell.isPlayerTile) =
      before.map (cellAt camera) := by
    rw [hwindow, List.takeWhile_append_of_pos, List.takeWhile_cons_of_neg, List.append_nil]
    · simp [hplayer]
    · intro cell hcell
      obtain ⟨offset, hoffset, rfl⟩ := List.mem_map.mp hcell
      simp [hbefore offset hoffset]
  refine ⟨after.map (cellAt camera), ?_, ?_, ?_⟩
  · rw [htake]
    exact hwindow
  · rw [htake]
    intro cell hcell
    obtain ⟨offset, hoffset, rfl⟩ := List.mem_map.mp hcell
    exact hbefore offset hoffset
  · intro cell hcell
    obtain ⟨offset, hoffset, rfl⟩ := List.mem_map.mp hcell
    exact hafter offset hoffset

/-! ### Where creatures are written -/

/-- The tile a creature stands on. -/
def CreatureRecord.position : CreatureRecord → Position
  | .player snapshot => snapshot.playerPosition.tile
  | .visiblePlayer other => other.position.tile
  | .staticEntity entity => entity.position

variable {view : MapView} {shows : NativeOtClientVisiblePlayer → Bool}

/-- The creatures of a whole cell stand on its tile; the player only where its tile is. -/
theorem creature_of_mem_things {cell : WindowCell} {record : CreatureRecord}
    (h : .creature record ∈ view.ground cell.position ++ view.optional shows cell) :
    (record = .player view.snapshot ∧ cell.isPlayerTile = true) ∨
      record.position = cell.position := by
  have hall := (forall_mem_things view shows cell fun r => ∀ c, r = .creature c →
    (c = .player view.snapshot ∧ cell.isPlayerTile = true) ∨ c.position = cell.position).mpr
  refine hall ⟨fun _ => nofun, fun _ _ _ => nofun, ?_, ?_, ?_⟩ _ h record rfl
  · intro entity hentity c hc
    cases hc
    exact .inr (of_decide_eq_true (List.mem_filter.mp hentity).2)
  · intro _ other hother _ c hc
    cases hc
    obtain ⟨hx, hy, hz⟩ := of_decide_eq_true (List.mem_filter.mp hother).2
    exact .inr (Position.mk.injEq .. ▸ ⟨hx, hy, hz⟩)
  · intro hplayer _ c hc
    cases hc
    exact .inl ⟨rfl, hplayer⟩

/-- **A creature is written in a cell that shows its own tile.** -/
theorem position_of_mem_written {cell : WindowCell} {records : List MapRecord}
    (hcell : cell ∈ viewportWindow view.snapshot.playerPosition)
    (h : view.CellWritten shows cell records) {record : CreatureRecord}
    (hrecord : .creature record ∈ records) : record.position = cell.position := by
  rcases mem_wholeCell.mp (mem_wholeCell_of_written h hrecord) with hthing | hend
  · rcases creature_of_mem_things hthing with ⟨rfl, hplayer⟩ | hposition
    · rw [viewportWindow_eq] at hcell
      obtain ⟨offset, -, rfl⟩ := List.mem_map.mp hcell
      rw [isPlayerTile_iff] at hplayer
      rw [hplayer, position_playerOffset]
      rfl
    · exact hposition
  · cases hend

/-- The player is not in the cell of another tile, and in no cell without assets. -/
theorem player_not_mem_things {c : WindowCell}
    (h : c.isPlayerTile = false ∨ view.assetFree = true) :
    .creature (.player view.snapshot) ∉ view.ground c.position ++ view.optional shows c := by
  intro hmem
  have hall := (forall_mem_things view shows c (· ≠ .creature (.player view.snapshot))).mpr
  refine hall ⟨fun _ => nofun, fun _ _ _ => nofun, fun _ _ => nofun, fun _ _ _ _ => nofun,
    fun hplayer hfree => ?_⟩ _ hmem rfl
  rw [hplayer, hfree] at h
  simp at h

theorem count_player_of_other {window : List WindowCell} {written : List (List MapRecord)}
    (h : List.Forall₂ (view.CellWritten shows) window written)
    (hother : ∀ cell ∈ window, cell.isPlayerTile = false ∨ view.assetFree = true) :
    written.flatten.count (.creature (.player view.snapshot)) = 0 := by
  refine List.count_eq_zero.mpr fun hmem => ?_
  obtain ⟨records, hrecords, hrecord⟩ := List.mem_flatten.mp hmem
  obtain ⟨cell, hcell, hwritten⟩ := exists_of_forall₂ h hrecords
  rcases mem_wholeCell.mp (mem_wholeCell_of_written hwritten hrecord) with hthing | hend
  · exact player_not_mem_things (hother cell hcell) hthing
  · cases hend

/-! ### The player -/

namespace MapView

/-- The cells that are written before that of the player. -/
def cellsBefore (self : MapView) : List WindowCell :=
  (viewportWindow self.snapshot.playerPosition).takeWhile fun cell => !cell.isPlayerTile

def viewportCells : ℕ :=
  nativeOtclientClassicMapWidth * nativeOtclientClassicMapHeight *
    nativeOtclientClassicSurfaceFloors

/-- The cells behind that of the player. -/
def remainingCells (self : MapView) : ℕ := viewportCells - (self.cellsBefore.length + 1)

/-- The writer when the record of the player is next. -/
def writerAtPlayer (self : MapView) : MapWriter :=
  let writer := encodeCells self self.showsOthers viewportCells self.cellsBefore
    (.start (viewportHeader self.snapshot.playerPosition))
  let position := self.snapshot.playerPosition.tile
  writeAbove self self.showsOthers self.remainingCells ⟨position, false⟩
    (writeGround self.remainingCells (self.groundThingId position) writer)

/-- The record of the player still fits. -/
def PlayerFits (self : MapView) : Prop :=
  nativeMapRecordFitsBudget self.writerAtPlayer
    (MapRecord.creature (.player self.snapshot)).bytes.length self.remainingCells

instance (self : MapView) : Decidable self.PlayerFits :=
  inferInstanceAs (Decidable (nativeMapRecordFitsBudget _ _ _))

end MapView

/-- The cell of the player: what another cell of its tile has, and then its record if it fits. -/
theorem encodeCell_player (hfree : view.assetFree = false) (totalCells : ℕ) (position : Position)
    (w : MapWriter) :
    encodeCell view shows totalCells ⟨position, true⟩ w =
      (offer (totalCells - (w.cells.length + 1)) (.creature (.player view.snapshot))
        (writeAbove view shows (totalCells - (w.cells.length + 1)) ⟨position, false⟩
          (writeGround (totalCells - (w.cells.length + 1)) (view.groundThingId position)
            w))).endTile := by
  unfold encodeCell writeAbove writePlayer
  simp [hfree]

/-- What the writer holds of the cell of the player before its record: nothing of the player. -/
theorem count_player_writeAbove (view : MapView) (shows : NativeOtClientVisiblePlayer → Bool)
    (remainingCells : ℕ) (position : Position) {w : MapWriter} (hcell : w.cell = []) :
    (writeAbove view shows remainingCells ⟨position, false⟩
      (writeGround remainingCells (view.groundThingId position) w)).cell.count
        (.creature (.player view.snapshot)) = 0 := by
  have hwrites : Writes remainingCells (view.ground position ++ view.optional shows
      ⟨position, false⟩) w _ :=
    (writes_writeGround remainingCells position w).trans (writes_writeAbove remainingCells _ _)
  obtain ⟨records, hrecords, hwritten, -⟩ := hwrites.written
  rw [hwritten, hcell, List.nil_append]
  exact List.count_eq_zero.mpr fun hmem =>
    player_not_mem_things (c := ⟨position, false⟩) (.inl rfl) (hrecords.subset hmem)

theorem cells_writeAbove (view : MapView) (shows : NativeOtClientVisiblePlayer → Bool)
    (remainingCells : ℕ) (cell : WindowCell) (w : MapWriter) :
    (writeAbove view shows remainingCells cell
      (writeGround remainingCells (view.groundThingId cell.position) w)).cells = w.cells :=
  ((writes_writeGround remainingCells cell.position w).trans
    (writes_writeAbove remainingCells cell _)).cells_eq

/-- The cells of other tiles do not count. -/
theorem count_player_encodeCells {totalCells : ℕ} {cells : List WindowCell} {w : MapWriter}
    (hw : Between totalCells w) (hcount : w.cells.length + cells.length ≤ totalCells)
    (hother : ∀ cell ∈ cells, cell.isPlayerTile = false) :
    (encodeCells view shows totalCells cells w).cells.flatten.count
        (.creature (.player view.snapshot)) =
      w.cells.flatten.count (.creature (.player view.snapshot)) := by
  obtain ⟨written, hcells, hwritten, -⟩ : ∃ written,
      (encodeCells view shows totalCells cells w).cells = w.cells ++ written ∧ _ :=
    encodeCells_spec cells hw hcount
  rw [hcells, List.flatten_append, List.count_append,
    count_player_of_other hwritten fun cell hcell => .inl (hother cell hcell), Nat.add_zero]

/-- The cell of the player counts when the record fits. -/
theorem count_player_encodeCell (view : MapView) (shows : NativeOtClientVisiblePlayer → Bool)
    (hfree : view.assetFree = false) (totalCells : ℕ) (position : Position) {w : MapWriter}
    (hcell : w.cell = []) :
    (encodeCell view shows totalCells ⟨position, true⟩ w).cells.flatten.count
        (.creature (.player view.snapshot)) =
      w.cells.flatten.count (.creature (.player view.snapshot)) +
        if nativeMapRecordFitsBudget (writeAbove view shows (totalCells - (w.cells.length + 1))
            ⟨position, false⟩ (writeGround (totalCells - (w.cells.length + 1))
              (view.groundThingId position) w))
          (MapRecord.creature (.player view.snapshot)).bytes.length
          (totalCells - (w.cells.length + 1))
        then 1 else 0 := by
  have hnone := count_player_writeAbove view shows (totalCells - (w.cells.length + 1)) position hcell
  have hcells := cells_writeAbove view shows (totalCells - (w.cells.length + 1)) ⟨position, false⟩ w
  rw [encodeCell_player hfree]
  simp only at hcells
  generalize writeAbove view shows (totalCells - (w.cells.length + 1)) ⟨position, false⟩
    (writeGround (totalCells - (w.cells.length + 1)) (view.groundThingId position) w) = w'
    at hnone hcells ⊢
  unfold offer
  by_cases hfits : nativeMapRecordFitsBudget w'
      (MapRecord.creature (.player view.snapshot)).bytes.length (totalCells - (w.cells.length + 1))
  · rw [if_pos hfits, if_pos hfits]
    simp [MapWriter.endTile, MapWriter.push, hcells, List.count_append, hnone]
  · rw [if_neg hfits, if_neg hfits]
    simp [MapWriter.endTile, MapWriter.leaveOut, hcells, List.count_append, hnone]

/-- A frame with one cell of the player. -/
theorem count_player_split (view : MapView) (shows : NativeOtClientVisiblePlayer → Bool)
    (hfree : view.assetFree = false) {totalCells : ℕ} {before after : List WindowCell}
    (position : Position) {w : MapWriter}
    (hw : Between totalCells w) (hcells : w.cells = [])
    (hcount : before.length + (after.length + 1) ≤ totalCells)
    (hbefore : ∀ cell ∈ before, cell.isPlayerTile = false)
    (hafter : ∀ cell ∈ after, cell.isPlayerTile = false) :
    (encodeCells view shows totalCells (before ++ ⟨position, true⟩ :: after) w).cells.flatten.count
        (.creature (.player view.snapshot)) =
      if nativeMapRecordFitsBudget (writeAbove view shows (totalCells - (before.length + 1))
            ⟨position, false⟩ (writeGround (totalCells - (before.length + 1))
              (view.groundThingId position) (encodeCells view shows totalCells before w)))
          (MapRecord.creature (.player view.snapshot)).bytes.length
          (totalCells - (before.length + 1))
        then 1 else 0 := by
  have hroom : w.cells.length + before.length ≤ totalCells := by
    rw [hcells, List.length_nil]
    omega
  obtain ⟨written, hwritten, hall, -, -, hbetween⟩ : ∃ written,
      (encodeCells view shows totalCells before w).cells = w.cells ++ written ∧ _ :=
    encodeCells_spec before hw hroom
  have hlength : (encodeCells view shows totalCells before w).cells.length = before.length := by
    rw [hwritten, hcells, List.nil_append, hall.length_eq]
  have hnone : (encodeCells view shows totalCells before w).cells.flatten.count
      (.creature (.player view.snapshot)) = 0 := by
    rw [count_player_encodeCells hw hroom hbefore, hcells]
    rfl
  obtain ⟨records, hplayer, -, -, -, hbetween'⟩ : ∃ records, (encodeCell view shows totalCells
      ⟨position, true⟩ (encodeCells view shows totalCells before w)).cells = _ ++ [records] ∧ _ :=
    encodeCell_spec ⟨position, true⟩ hbetween (by omega)
  have hroom' : (encodeCell view shows totalCells ⟨position, true⟩
      (encodeCells view shows totalCells before w)).cells.length + after.length ≤ totalCells := by
    rw [hplayer, List.length_append, hlength, List.length_singleton]
    omega
  have hcell := count_player_encodeCell view shows hfree totalCells position hbetween.cell_eq
  rw [encodeCells_append]
  show (encodeCells view shows totalCells after (encodeCell view shows totalCells ⟨position, true⟩
    _)).cells.flatten.count _ = _
  rw [count_player_encodeCells hbetween' hroom' hafter, hcell, hnone, Nat.zero_add, hlength]

/-- **The record of the player**: once if it fits, and otherwise not at all. -/
theorem count_player (view : MapView)
    (hz : view.snapshot.playerPosition.z.toNat < nativeOtclientClassicSurfaceFloors) :
    (viewportWriter view).cells.flatten.count (.creature (.player view.snapshot)) =
      if view.assetFree = false ∧ view.PlayerFits then 1 else 0 := by
  cases hfree : view.assetFree with
  | true =>
    rw [if_neg (fun h => nomatch h.1)]
    exact count_player_of_other (frameWritten_viewport view).cells fun _ _ => .inr hfree
  | false =>
    obtain ⟨after, hwindow, hbefore, hafter⟩ := viewportWindow_split hz
    have hlength := length_viewportWindow view.snapshot.playerPosition
    rw [hwindow, List.length_append, List.length_cons] at hlength
    have hplayer : cellAt view.snapshot.playerPosition (playerOffset view.snapshot.playerPosition) =
        ⟨view.snapshot.playerPosition.tile, true⟩ := by
      have htile := (isPlayerTile_iff view.snapshot.playerPosition _).mpr rfl
      rw [← position_playerOffset, ← htile]
    rw [hplayer] at hwindow
    have hstart : Between MapView.viewportCells (.start (viewportHeader
        view.snapshot.playerPosition)) := between_start (show 6 + 2016 * 4 ≤ 8192 by decide)
    have hcount := count_player_split view view.showsOthers hfree view.snapshot.playerPosition.tile
      hstart rfl hlength.le hbefore hafter
    rw [← hwindow] at hcount
    refine hcount.trans ?_
    simp only [true_and]
    rfl

/-! ### The others -/

/-- Counting what only the cells of one key hold, and each at most once. -/
theorem count_flatten_le_one {α κ ρ : Type} [DecidableEq ρ] {R : α → List ρ → Prop} (key : α → κ)
    (k : κ) (x : ρ) {cells : List α} {written : List (List ρ)} (h : List.Forall₂ R cells written)
    (hnodup : (cells.map key).Nodup)
    (hone : ∀ cell ∈ cells, ∀ records, R cell records → records.count x ≤ 1)
    (hother : ∀ cell ∈ cells, ∀ records, R cell records → x ∈ records → key cell = k) :
    written.flatten.count x ≤ 1 := by
  induction h with
  | nil => exact Nat.zero_le 1
  | @cons cell records cells written hcell hrest ih =>
    rw [List.map_cons, List.nodup_cons] at hnodup
    rw [List.flatten_cons, List.count_append]
    have hlater := ih hnodup.2 (fun c hc => hone c (List.mem_cons_of_mem _ hc))
      fun c hc => hother c (List.mem_cons_of_mem _ hc)
    by_cases hx : x ∈ records
    · have hnone : written.flatten.count x = 0 := by
        refine List.count_eq_zero.mpr fun hmem => ?_
        obtain ⟨records', hrecords', hx'⟩ := List.mem_flatten.mp hmem
        obtain ⟨cell', hcell', hR⟩ := exists_of_forall₂ hrest hrecords'
        have hkey' := hother cell' (List.mem_cons_of_mem _ hcell') records' hR hx'
        have hkey := hother cell (List.mem_cons_self ..) records hcell hx
        exact hnodup.1 (List.mem_map.mpr ⟨cell', hcell', hkey'.trans hkey.symm⟩)
      have := hone cell (List.mem_cons_self ..) records hcell
      omega
    · rw [List.count_eq_zero.mpr hx]
      omega

/-- The window does not reach over the limits of the coordinates. -/
def NativeOtClientPosition.InsideLimits (self : NativeOtClientPosition) : Prop :=
  centerX ≤ self.x.toNat ∧ self.x.toNat + (nativeOtclientClassicMapWidth - 1 - centerX) ≤ u16Max ∧
    centerY ≤ self.y.toNat ∧ self.y.toNat + (nativeOtclientClassicMapHeight - 1 - centerY) ≤ u16Max

instance (camera : NativeOtClientPosition) : Decidable camera.InsideLimits :=
  inferInstanceAs (Decidable (_ ∧ _))

/-- Inside the limits no two cells show the same tile. -/
theorem nodup_positions {camera : NativeOtClientPosition} (h : camera.InsideLimits) :
    ((viewportWindow camera).map WindowCell.position).Nodup := by
  rw [viewportWindow_eq, List.map_map]
  refine List.Nodup.map_on ?_ nodup_viewportOffsets
  rintro ⟨z, x, y⟩ hoffset ⟨z', x', y'⟩ hoffset' heq
  obtain ⟨-, hx, hy⟩ := mem_viewportOffsets.mp hoffset
  obtain ⟨-, hx', hy'⟩ := mem_viewportOffsets.mp hoffset'
  obtain ⟨hxmin, hxmax, hymin, hymax⟩ := h
  simp only [Function.comp_apply, cellAt, windowPosition, windowCoordinate, Position.mk.injEq] at heq
  have hcenterX : centerX = 8 := rfl
  have hcenterY : centerY = 6 := rfl
  have hmax : u16Max = 65535 := rfl
  have hwidth : nativeOtclientClassicMapWidth = 18 := rfl
  have hheight : nativeOtclientClassicMapHeight = 14 := rfl
  rw [hcenterX, hcenterY, hmax] at *
  rw [hwidth] at hx hx' hxmax
  rw [hheight] at hy hy' hymax
  obtain ⟨hcolumn, hrow, rfl⟩ := heq
  have hxx : x = x' := by omega
  have hyy : y = y' := by omega
  rw [hxx, hyy]

/-- The creatures of a whole cell, each once. -/
theorem count_wholeCell_le_one (hstatics : (view.staticSpawns.getD []).Nodup)
    (hplayers : (view.visiblePlayers.getD []).Nodup) (cell : WindowCell)
    (record : CreatureRecord) : (view.wholeCell shows cell).count (.creature record) ≤ 1 := by
  have hground : (view.ground cell.position).count (.creature record) = 0 := by
    refine List.count_eq_zero.mpr fun hmem => ?_
    unfold MapView.ground at hmem
    split at hmem <;> simp at hmem
  have hitems : (itemRecords (view.extraItems cell.position)).count (.creature record) = 0 := by
    refine List.count_eq_zero.mpr fun hmem => ?_
    simp [itemRecords] at hmem
  have hstatics' : (staticEntityRecords (view.staticEntitiesAt cell.position)).Nodup := by
    refine (hstatics.filter _).map fun a b h => ?_
    cases h
    rfl
  have hplayers' : (if view.assetFree then [] else visiblePlayerRecords
      ((view.visiblePlayersAt cell.position).filter shows)).Nodup := by
    split
    · exact List.nodup_nil
    · refine ((hplayers.filter _).filter _).map fun a b h => ?_
      cases h
      rfl
  have hplayer' : (if cell.isPlayerTile && !view.assetFree then
      [MapRecord.creature (.player view.snapshot)] else []).Nodup := by
    split
    · exact List.nodup_singleton _
    · exact List.nodup_nil
  have hstatic := List.nodup_iff_count_le_one.mp hstatics' (.creature record)
  have hvisible := List.nodup_iff_count_le_one.mp hplayers' (.creature record)
  have hown := List.nodup_iff_count_le_one.mp hplayer' (.creature record)
  have hend : [MapRecord.tileEnd].count (.creature record) = 0 := rfl
  unfold MapView.wholeCell MapView.optional
  simp only [List.count_append, hground, hitems, hend]
  cases record with
  | player snapshot =>
    rw [List.count_eq_zero.mpr (by simp [staticEntityRecords]),
      List.count_eq_zero.mpr (by split <;> simp [visiblePlayerRecords])]
    omega
  | visiblePlayer other =>
    rw [List.count_eq_zero.mpr (by simp [staticEntityRecords])]
    have hnone : (if cell.isPlayerTile && !view.assetFree then
        [MapRecord.creature (.player view.snapshot)] else []).count
          (.creature (.visiblePlayer other)) = 0 :=
      List.count_eq_zero.mpr (by split <;> simp)
    omega
  | staticEntity entity =>
    have hnone : (if view.assetFree then [] else visiblePlayerRecords
        ((view.visiblePlayersAt cell.position).filter shows)).count
          (.creature (.staticEntity entity)) = 0 :=
      List.count_eq_zero.mpr (by split <;> simp [visiblePlayerRecords])
    have hnone' : (if cell.isPlayerTile && !view.assetFree then
        [MapRecord.creature (.player view.snapshot)] else []).count
          (.creature (.staticEntity entity)) = 0 :=
      List.count_eq_zero.mpr (by split <;> simp)
    omega

/-- **Inside the limits every creature is written at most once.** -/
theorem count_creature_le_one (hlimits : view.snapshot.playerPosition.InsideLimits)
    (hstatics : (view.staticSpawns.getD []).Nodup)
    (hplayers : (view.visiblePlayers.getD []).Nodup) (record : CreatureRecord) :
    (viewportWriter view).cells.flatten.count (.creature record) ≤ 1 := by
  have hcells := (frameWritten_viewport view).cells
  generalize (viewportWriter view).cells = written at hcells ⊢
  refine count_flatten_le_one WindowCell.position record.position (.creature record) hcells
    (nodup_positions hlimits) ?_ ?_
  · intro cell _ records hwritten
    obtain ⟨above, habove, rfl⟩ := hwritten
    have hsub := (habove.append_right [MapRecord.tileEnd]).append_left (view.ground cell.position)
    exact (hsub.count_le _).trans (count_wholeCell_le_one hstatics hplayers cell record)
  · intro cell hcell records hwritten hmem
    exact (position_of_mem_written hcell hwritten hmem).symm

theorem onSurface_of_valid {profile : NativeOtClientProfile} {snapshot : NativeOtClientEmptyWorldSnapshot}
    (h : validateNativeEmptyWorldSnapshot profile snapshot = .ok ()) :
    snapshot.playerPosition.z.toNat < nativeOtclientClassicSurfaceFloors := by
  by_contra hz
  rw [validateNativeEmptyWorldSnapshot, if_pos (.inr (.inr (.inl (Nat.le_of_not_lt hz))))] at h
  cases h

def drawnRat (id : ℕ) (position : Position) : DrawnStaticEntity :=
  ⟨⟨id, "Rat", position, 100, 2⟩, 21, 0, 0, 0, 0, 0, 134⟩

/-- No assets at all. -/
def assetFreeView : MapView :=
  ⟨{ knightSnapshot with groundThingId := 0, playerLookType := 0 }, bareMap, none, none⟩

/-- The knight at the western limit of the coordinates, with a rat on the last column. -/
def limitView : MapView :=
  ⟨{ knightSnapshot with playerPosition := ⟨3, 100, 7⟩ }, bareMap, some [drawnRat 7 ⟨0, 94, 7⟩],
    none⟩

/-- Thirteen rats on the tile of the knight, on a map without ground. -/
def crowdedView : MapView :=
  ⟨{ knightSnapshot with groundThingId := 0 }, bareMap,
    some ((List.range 13).map fun id => drawnRat id ⟨100, 100, 7⟩), none⟩

end ForgottenEngine
