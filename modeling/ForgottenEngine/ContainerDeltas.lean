import ForgottenEngine.Presentation
import ForgottenEngine.Library.PartialFold

/-!
# Container deltas

`nativeContainerDeltaFrames` compares what a session recorded as sent with the rendering of the
containers as they are now, and emits the records that lead from one to the other.  The recorded
baseline becomes the current rendering in every branch.

* `windowDeltaFrames` — the body of the loop, for one window;
* `windowDelta_view` — what it does to a client that shows the baseline;
* `DeltasFollow` — the purpose of the function: the client ends with the full rendering, and the
  baseline is what the client shows;
* `deltasFollow_iff` — when it is met.  It is not for a window that gained a block before its end
  (the new records are appended), for one whose baseline or whose current rendering is missing
  while the other is there, and for one whose container vanished.
-/

namespace ForgottenEngine

open PositionalDelta PartialFold

/-! ### Renderings -/

/-- The rendering of a window, or nothing when some item cannot be drawn. -/
abbrev NativeRenderedContainerWindow := Option ShownWindow

def nativeRenderedContainerWindow (profile : NativeOtClientProfile)
    (catalog : Option NativeItemPresentationCatalog) (container : PlayerContainer) :
    NativeRenderedContainerWindow :=
  if ¬profile.supportsClassic740InventoryRecords ∨ container.hasParent then none
  else (container.items.items.mapM (nativeClassicItemRecord catalog)).map
    fun items => (container.items.capacity % (u8Max + 1), items)

/-- The renderings of all windows the session has not closed. -/
def nativeRenderedContainerWindows (profile : NativeOtClientProfile)
    (catalog : Option NativeItemPresentationCatalog) (containers : PlayerContainers)
    (closedContainerIds : Finset ℕ) : BTreeMap ℕ NativeRenderedContainerWindow :=
  containers.containers.entries.filterMap fun _ container =>
    if container.containerId ∈ closedContainerIds then none
    else some (nativeRenderedContainerWindow profile catalog container)

/-! ### The delta -/

/-- The record for one edit; slots are sent as a byte. -/
def encodeSlotEdit (profile : NativeOtClientProfile) (containerId : ℕ) :
    SlotEdit NativeOtClientClassicItemRecord → Except ProtocolError ContainerFrame
  | .create item => encodeNativeOtclientCreateInContainer profile containerId item
  | .change slot item =>
    encodeNativeOtclientChangeInContainer profile containerId (slot % (u8Max + 1)) item
  | .delete slot => encodeNativeOtclientDeleteInContainer profile containerId (slot % (u8Max + 1))

/-- The full record of a window, when there is one. -/
def resendFrames (profile : NativeOtClientProfile) (catalog : Option NativeItemPresentationCatalog)
    (containers : PlayerContainers) (containerId : ℕ) : Except ProtocolError (List ContainerFrame) :=
  match containers.container containerId with
  | some container => do
    let frame ← nativeClassicContainerFrame profile catalog container
    .ok frame.toList
  | none => .ok []

/-- The body of the loop: the records for one window, from what was sent to what is current. -/
def windowDeltaFrames (profile : NativeOtClientProfile)
    (catalog : Option NativeItemPresentationCatalog) (containers : PlayerContainers)
    (containerId : ℕ) (sentWindow : Option NativeRenderedContainerWindow)
    (currentWindow : NativeRenderedContainerWindow) : Except ProtocolError (List ContainerFrame) :=
  match sentWindow, currentWindow with
  | none, some _ => resendFrames profile catalog containers containerId
  | none, none => .ok []
  | some none, _ => .ok [] -- either side unrenderable: no records
  | some (some _), none => .ok []
  | some (some (previousCapacity, previousSlots)), some (capacity, slots) =>
    if previousCapacity ≠ capacity then resendFrames profile catalog containers containerId
    else
      let start := sharedPrefix previousSlots slots
      let ends := sharedEnds previousSlots slots start previousSlots.length slots.length
      let previousMiddle := previousSlots.extract start ends.1
      let currentMiddle := slots.extract start ends.2
      if previousMiddle.isEmpty ∧ currentMiddle.isEmpty then .ok []
      else if currentMiddle.isEmpty then
        -- a removed block, from its last slot to its first
        ((List.range' start (ends.1 - start)).reverse.map .delete).mapM
          (encodeSlotEdit profile containerId)
      else if previousMiddle.isEmpty then
        (currentMiddle.map .create).mapM (encodeSlotEdit profile containerId)
      else if previousMiddle.length = currentMiddle.length then
        (changes start previousMiddle currentMiddle).mapM (encodeSlotEdit profile containerId)
      else resendFrames profile catalog containers containerId

/-- One turn of the loop: the records for one window, whose rendering becomes its baseline. -/
def recordWindow {R : Type} (f : ℕ → Option R → R → Except ProtocolError (List ContainerFrame))
    (acc : List ContainerFrame × BTreeMap ℕ R) (e : ℕ × R) :
    Except ProtocolError (List ContainerFrame × BTreeMap ℕ R) := do
  let new ← f e.1 acc.2[e.1]? e.2
  return (acc.1 ++ new, acc.2.insert e.1 e.2)

/-- The records of all windows in order of their identifiers, and the new baseline. -/
def nativeContainerDeltaFrames (profile : NativeOtClientProfile)
    (catalog : Option NativeItemPresentationCatalog) (containers : PlayerContainers)
    (closedContainerIds : Finset ℕ) (sent : BTreeMap ℕ NativeRenderedContainerWindow) :
    Except ProtocolError (List ContainerFrame × BTreeMap ℕ NativeRenderedContainerWindow) :=
  let current := nativeRenderedContainerWindows profile catalog containers closedContainerIds
  let sent := sent.filter fun id _ => current.contains id
  current.toList.foldlM (recordWindow (windowDeltaFrames profile catalog containers)) ([], sent)

/-! ### Purpose -/

/-- What a client shows for a recorded baseline.  Windows the session closed are closed on the
client too. -/
def shownFor (closedContainerIds : Finset ℕ) (sent : BTreeMap ℕ NativeRenderedContainerWindow) :
    ℕ → Option ShownWindow :=
  fun id => if id ∈ closedContainerIds then none else sent[id]?.join

/-- The client is led from the baseline to the full rendering, and the new baseline is what it
shows then. -/
def DeltasFollow (profile : NativeOtClientProfile) (catalog : Option NativeItemPresentationCatalog)
    (containers : PlayerContainers) (closedContainerIds : Finset ℕ)
    (sent : BTreeMap ℕ NativeRenderedContainerWindow) : Prop :=
  ∃ frames sent' full,
    nativeContainerDeltaFrames profile catalog containers closedContainerIds sent =
      .ok (frames, sent') ∧
    nativeClassicContainerFrames profile catalog containers closedContainerIds = .ok full ∧
    showFrames (shownFor closedContainerIds sent) frames = showFrames (fun _ => none) full ∧
    shownFor closedContainerIds sent' = showFrames (shownFor closedContainerIds sent) frames

/-- What is asked of one open window: the item of the container can be drawn whenever its contents
can, nothing is on display that can no longer be drawn, nothing was recorded as undrawable that now
can be, and no block was inserted before the end of the list. -/
def WindowFollows (catalog : Option NativeItemPresentationCatalog) (containerItem : ItemInstance)
    (sentWindow : Option NativeRenderedContainerWindow) : NativeRenderedContainerWindow → Prop
  | none => sentWindow.join = none
  | some (capacity, slots) =>
    nativeClassicItemRecord catalog containerItem ≠ none ∧ sentWindow ≠ some none ∧
      ∀ previous, sentWindow = some (some (capacity, previous)) → ¬InsertsInside previous slots

/-- The sizes that constructing a container and storing items in it guarantee. -/
structure PlayerContainer.WithinLimits (c : PlayerContainer) : Prop where
  named : c.name.isEmpty = false ∧ c.name.utf8ByteSize ≤ maxPlayerContainerNameBytes
  fits : c.items.items.length ≤ c.items.capacity
  capacity : c.items.capacity ≤ maxContainerCapacity

/-! ### Encoding -/

theorem ContainerFrame.bounded_of_le {frame : ContainerFrame} (h : frame.encodedLength ≤ 8192) :
    frame.bounded = .ok frame := by
  have hle : ¬maxFrameSize < frame.encodedLength := by
    rw [show maxFrameSize = 8192 from rfl]
    omega
  rw [bounded, if_neg hle]

theorem encodedLength_le (record : NativeOtClientClassicItemRecord) : record.encodedLength ≤ 3 := by
  unfold NativeOtClientClassicItemRecord.encodedLength
  split <;> omega

/-- The record of an edit. -/
def editFrame (containerId : ℕ) : SlotEdit NativeOtClientClassicItemRecord → ContainerFrame
  | .create item => .createInContainer containerId item
  | .change slot item => .changeInContainer containerId slot item
  | .delete slot => .deleteInContainer containerId slot

/-- The slot of an edit fits a byte, and its item can be drawn. -/
def Encodable : SlotEdit NativeOtClientClassicItemRecord → Prop
  | .create item => item.clientThingId ≠ 0
  | .change slot item => slot ≤ u8Max ∧ item.clientThingId ≠ 0
  | .delete slot => slot ≤ u8Max

theorem encodeSlotEdit_ok {profile : NativeOtClientProfile}
    (hprofile : profile.supportsClassic740InventoryRecords = true) (containerId : ℕ)
    {edit : SlotEdit NativeOtClientClassicItemRecord} (h : Encodable edit) :
    encodeSlotEdit profile containerId edit = .ok (editFrame containerId edit) := by
  cases edit with
  | create item =>
    have hitem : item.clientThingId ≠ 0 := h
    have hlen := encodedLength_le item
    rw [encodeSlotEdit, encodeNativeOtclientCreateInContainer, if_neg (by simp [hprofile, hitem])]
    refine ContainerFrame.bounded_of_le ?_
    rw [ContainerFrame.encodedLength]
    omega
  | change slot item =>
    obtain ⟨hslot, hitem⟩ := h
    have hlen := encodedLength_le item
    rw [encodeSlotEdit, encodeNativeOtclientChangeInContainer, if_neg (by simp [hprofile, hitem]),
      Nat.mod_eq_of_lt (Nat.lt_succ_of_le hslot)]
    refine ContainerFrame.bounded_of_le ?_
    rw [ContainerFrame.encodedLength]
    omega
  | delete slot =>
    have hslot : slot ≤ u8Max := h
    rw [encodeSlotEdit, encodeNativeOtclientDeleteInContainer, if_neg (by simp [hprofile]),
      Nat.mod_eq_of_lt (Nat.lt_succ_of_le hslot)]
    rfl

theorem showInOrder_edits (containerId capacity : ℕ)
    (edits : List (SlotEdit NativeOtClientClassicItemRecord))
    (slots : List NativeOtClientClassicItemRecord) :
    showInOrder (edits.map (editFrame containerId)) (some (capacity, slots)) =
      some (capacity, applyAll edits slots) := by
  induction edits generalizing slots with
  | nil => rfl
  | cons edit edits ih => cases edit <;> exact ih _

/-- **A block of edits**, encoded and shown. -/
theorem encode_edits {profile : NativeOtClientProfile}
    (hprofile : profile.supportsClassic740InventoryRecords = true) (containerId : ℕ)
    {edits : List (SlotEdit NativeOtClientClassicItemRecord)} (h : ∀ edit ∈ edits, Encodable edit) :
    ∃ frames, edits.mapM (encodeSlotEdit profile containerId) = .ok frames ∧
      (∀ frame ∈ frames, frame.containerId = containerId) ∧
      ∀ capacity slots, showInOrder frames (some (capacity, slots)) =
        some (capacity, applyAll edits slots) := by
  refine ⟨edits.map (editFrame containerId),
    mapM_eq_ok_map fun edit hedit => encodeSlotEdit_ok hprofile containerId (h edit hedit), ?_,
    fun capacity slots => showInOrder_edits containerId capacity edits slots⟩
  intro frame hframe
  obtain ⟨edit, -, rfl⟩ := List.mem_map.mp hframe
  cases edit <;> rfl

/-! ### The rendering of one window -/

section Rendering

variable {profile : NativeOtClientProfile} {catalog : Option NativeItemPresentationCatalog}
  {c : PlayerContainer}

/-- Everything in a rendered window can be drawn, and there is a record for each item. -/
theorem rendered_spec {w : ShownWindow}
    (h : nativeRenderedContainerWindow profile catalog c = some w) :
    profile.supportsClassic740InventoryRecords = true ∧ c.hasParent = false ∧
      c.items.items.mapM (nativeClassicItemRecord catalog) = some w.2 ∧
      w.1 = c.items.capacity % (u8Max + 1) ∧ w.2.length = c.items.items.length ∧
      ∀ record ∈ w.2, record.clientThingId ≠ 0 := by
  unfold nativeRenderedContainerWindow at h
  split at h
  · cases h
  · rename_i hgood
    simp only [Bool.not_eq_true, not_or, Bool.not_eq_false] at hgood
    obtain ⟨records, hmap, rfl⟩ := Option.map_eq_some_iff.mp h
    have hall := forall₂_of_mapM hmap
    refine ⟨hgood.1, hgood.2, hmap, rfl, hall.length_eq.symm, ?_⟩
    intro record hrecord
    obtain ⟨i, hi, rfl⟩ := List.getElem_of_mem hrecord
    exact clientThingId_ne_zero (hall.get (by rw [hall.length_eq]; exact hi) hi)

/-- What the full rendering shows for one container. -/
def openWindow (profile : NativeOtClientProfile) (catalog : Option NativeItemPresentationCatalog)
    (c : PlayerContainer) : Option ShownWindow :=
  if nativeClassicItemRecord catalog c.containerItem = none then none
  else nativeRenderedContainerWindow profile catalog c

variable (profile catalog) in
/-- The full record of a container never fails, and opens its window. -/
theorem nativeClassicContainerFrame_ok (hc : c.WithinLimits) :
    ∃ frame, nativeClassicContainerFrame profile catalog c = .ok frame ∧
      (∀ f ∈ frame.toList, f.containerId = c.containerId) ∧
      (openWindow profile catalog c = none → frame = none) ∧
      ∀ w, openWindow profile catalog c = some w →
        ∀ window, showInOrder frame.toList window = some w := by
  unfold nativeClassicContainerFrame openWindow nativeRenderedContainerWindow
  split
  · exact ⟨none, rfl, by simp, by simp, by simp⟩
  · rename_i hgood
    have hprofile : profile.supportsClassic740InventoryRecords = true := by simp_all
    cases hitem : nativeClassicItemRecord catalog c.containerItem with
    | none => exact ⟨none, rfl, by simp, by simp, by simp⟩
    | some containerItem =>
      cases hitems : c.items.items.mapM (nativeClassicItemRecord catalog) with
      | none => exact ⟨none, rfl, by simp, by simp, by simp⟩
      | some items =>
        have hrendered : nativeRenderedContainerWindow profile catalog c =
            some (c.items.capacity % (u8Max + 1), items) := by
          rw [nativeRenderedContainerWindow, if_neg hgood, hitems]
          rfl
        obtain ⟨-, -, -, -, hlen, hdrawn⟩ := rendered_spec hrendered
        obtain ⟨hname, hbytes⟩ := hc.named
        have hfits := hc.fits
        have hcapacity := hc.capacity
        rw [show maxContainerCapacity = 100 from rfl] at hcapacity
        rw [show maxPlayerContainerNameBytes = 64 from rfl] at hbytes
        simp only at hlen
        have hsum : (items.map NativeOtClientClassicItemRecord.encodedLength).sum ≤
            (items.map NativeOtClientClassicItemRecord.encodedLength).length * 3 :=
          List.sum_le_card_nsmul _ 3 (by simpa using fun record _ => encodedLength_le record)
        rw [List.length_map] at hsum
        have hdrawable := clientThingId_ne_zero hitem
        have hitemlen := encodedLength_le containerItem
        have hencode : encodeNativeOtclientOpenContainer profile
            ⟨c.containerId, containerItem, c.name, c.items.capacity % (u8Max + 1), false, items⟩ =
            .ok (.openContainer
              ⟨c.containerId, containerItem, c.name, c.items.capacity % (u8Max + 1), false, items⟩)
            := by
          rw [encodeNativeOtclientOpenContainer, if_neg]
          · refine ContainerFrame.bounded_of_le ?_
            simp only [ContainerFrame.encodedLength]
            omega
          · simp only [hprofile, hname, hdrawable, List.any_eq_true, beq_iff_eq,
              show maxLoginStringBytes = 128 from rfl, show u8Max = 255 from rfl]
            rintro (h | h | h | h | h | ⟨record, hrecord, hzero⟩)
            · exact h trivial
            · cases h
            · omega
            · omega
            · exact h
            · exact hdrawn record hrecord hzero
        refine ⟨_, by simp only [hencode]; rfl, by simp [ContainerFrame.containerId], by simp, ?_⟩
        intro w hw window
        simp at hw
        subst hw
        rfl

end Rendering

/-! ### One window -/

section Window

variable {profile : NativeOtClientProfile} {catalog : Option NativeItemPresentationCatalog}
  {containers : PlayerContainers} {id : ℕ} {c : PlayerContainer}

variable (profile catalog) in
/-- A resend shows the full rendering, and an unrenderable window gets no record. -/
theorem resend_view (hid : containers.container id = some c) (hc : c.WithinLimits) :
    ∃ frames, resendFrames profile catalog containers id = .ok frames ∧
      (∀ frame ∈ frames, frame.containerId = id) ∧
      (openWindow profile catalog c = none → frames = []) ∧
      ∀ w, openWindow profile catalog c = some w → ∀ window, showInOrder frames window = some w := by
  obtain ⟨frame, hok, hframe, hnone, hsome⟩ :=
    nativeClassicContainerFrame_ok profile catalog hc
  refine ⟨frame.toList, ?_, ?_, ?_, hsome⟩
  · rw [resendFrames, hid]
    simp only [hok]
    rfl
  · rw [← PlayerContainers.id_of_container hid]
    exact hframe
  · intro h
    rw [hnone h]
    rfl

theorem extract_middle {α : Type*} (pre mid suf : List α) :
    (pre ++ mid ++ suf).extract pre.length (pre.length + mid.length) = mid := by
  rw [List.extract_eq_take_drop, List.append_assoc, List.drop_left, Nat.add_sub_cancel_left,
    List.take_left]

theorem changes_encodable {start : ℕ} {mx my : List NativeOtClientClassicItemRecord}
    (hdrawn : ∀ record ∈ my, record.clientThingId ≠ 0) (hlen : start + my.length ≤ u8Max) :
    ∀ edit ∈ changes start mx my, Encodable edit := by
  induction mx generalizing start my with
  | nil => simp [changes]
  | cons a as ih =>
    cases my with
    | nil => simp [changes]
    | cons b bs =>
      have hrest : ∀ edit ∈ changes (start + 1) as bs, Encodable edit := by
        refine ih (fun record hrecord => hdrawn record (List.mem_cons_of_mem b hrecord)) ?_
        rw [List.length_cons] at hlen
        omega
      have hb : b.clientThingId ≠ 0 := hdrawn b List.mem_cons_self
      intro edit hedit
      rw [changes] at hedit
      split at hedit
      · cases hedit with
        | head => exact ⟨by omega, hb⟩
        | tail _ hedit => exact hrest edit hedit
      · exact hrest edit hedit

/-- **The edit branches**: two renderings of equal capacity. -/
theorem slotDelta_view (hid : containers.container id = some c) (hc : c.WithinLimits)
    {capacity : ℕ} {previous slots : List NativeOtClientClassicItemRecord}
    (hcurrent : nativeRenderedContainerWindow profile catalog c = some (capacity, slots))
    (hprevious : previous.length ≤ u8Max) :
    ∃ frames, windowDeltaFrames profile catalog containers id (some (some (capacity, previous)))
        (some (capacity, slots)) = .ok frames ∧
      (∀ frame ∈ frames, frame.containerId = id) ∧
      (openWindow profile catalog c = some (capacity, slots) →
        (showInOrder frames (some (capacity, previous)) = some (capacity, slots) ↔
          ¬InsertsInside previous slots)) := by
  obtain ⟨hprofile, -, -, -, hlen, hdrawn⟩ := rendered_spec hcurrent
  simp only at hlen hdrawn
  have hslots : slots.length ≤ u8Max := by
    have := hc.fits
    have := hc.capacity
    rw [show maxContainerCapacity = 100 from rfl] at this
    rw [show u8Max = 255 from rfl]
    omega
  obtain ⟨pre, mx, my, suf, htrim, hstart, hends⟩ := exists_trimmed previous slots
  have hinside := htrim.insertsInside_iff
  rw [hstart] at hends
  have hmx : previous.extract pre.length (pre.length + mx.length) = mx := by
    rw [htrim.left, extract_middle]
  have hmy : slots.extract pre.length (pre.length + my.length) = my := by
    rw [htrim.right, extract_middle]
  have hpreviousLen : pre.length + mx.length + suf.length = previous.length := by
    rw [htrim.left]
    simp [Nat.add_assoc]
  have hslotsLen : pre.length + my.length + suf.length = slots.length := by
    rw [htrim.right]
    simp [Nat.add_assoc]
  have hmyDrawn : ∀ record ∈ my, record.clientThingId ≠ 0 := by
    intro record hrecord
    refine hdrawn record ?_
    rw [htrim.right]
    simp [hrecord]
  simp only [windowDeltaFrames, ne_eq, not_true, if_false, hstart, hends, hmx, hmy,
    List.isEmpty_iff, Nat.add_sub_cancel_left]
  by_cases hmy0 : my = []
  · by_cases hmx0 : mx = []
    · -- nothing changed
      rw [if_pos ⟨hmx0, hmy0⟩]
      refine ⟨[], rfl, by simp, fun _ => ?_⟩
      rw [hinside, htrim.left, htrim.right, hmx0, hmy0]
      simp [showInOrder]
    · rw [if_neg (by simp [hmx0]), if_pos hmy0]
      have hedits : ∀ edit ∈ (List.range' pre.length mx.length).reverse.map SlotEdit.delete,
          Encodable edit := by
        intro edit hedit
        obtain ⟨slot, hslot, rfl⟩ := List.mem_map.mp hedit
        rw [List.mem_reverse, List.mem_range'_1] at hslot
        show slot ≤ u8Max
        omega
      obtain ⟨frames, hok, hids, hshow⟩ := encode_edits hprofile id hedits
      refine ⟨frames, hok, hids, fun _ => ?_⟩
      rw [hshow, hinside, htrim.left, applyAll_deletes, htrim.right, hmy0]
      simp
  · rw [if_neg (by simp [hmy0]), if_neg hmy0]
    by_cases hmx0 : mx = []
    · -- the block is appended, wherever it was inserted
      rw [if_pos hmx0]
      have hedits : ∀ edit ∈ my.map SlotEdit.create, Encodable edit := by
        intro edit hedit
        obtain ⟨record, hrecord, rfl⟩ := List.mem_map.mp hedit
        exact hmyDrawn record hrecord
      obtain ⟨frames, hok, hids, hshow⟩ := encode_edits hprofile id hedits
      refine ⟨frames, hok, hids, fun _ => ?_⟩
      have happend := htrim.append_eq_iff hmx0 hmy0
      rw [hshow, hinside, applyAll_creates, Option.some.injEq, Prod.mk.injEq, happend]
      simp [hmx0, hmy0]
    · rw [if_neg hmx0]
      have hnot : ¬InsertsInside previous slots := by simp [hinside, hmx0]
      split
      · rename_i hequal
        have hedits : ∀ edit ∈ changes pre.length mx my, Encodable edit :=
          changes_encodable hmyDrawn (by omega)
        obtain ⟨frames, hok, hids, hshow⟩ := encode_edits hprofile id hedits
        refine ⟨frames, hok, hids, fun _ => ?_⟩
        rw [hshow, htrim.left, applyAll_changes hequal, ← htrim.right, ← htrim.left]
        simp [hnot]
      · obtain ⟨frames, hok, hids, -, hshow⟩ := resend_view profile catalog hid hc
        refine ⟨frames, hok, hids, fun hopen => ?_⟩
        rw [hshow _ hopen]
        simp [hnot]

variable (profile catalog) in
/-- **One window**: its records reach the full rendering and its baseline is what is shown then,
exactly when the window follows. -/
theorem windowDelta_view (hid : containers.container id = some c) (hc : c.WithinLimits)
    {sentWindow : Option NativeRenderedContainerWindow}
    (hsent : ∀ previous, sentWindow = some (some previous) → previous.2.length ≤ u8Max) :
    ∃ frames, windowDeltaFrames profile catalog containers id sentWindow
        (nativeRenderedContainerWindow profile catalog c) = .ok frames ∧
      (∀ frame ∈ frames, frame.containerId = id) ∧
      ((showInOrder frames sentWindow.join = openWindow profile catalog c ∧
          nativeRenderedContainerWindow profile catalog c = showInOrder frames sentWindow.join) ↔
        WindowFollows catalog c.containerItem sentWindow
          (nativeRenderedContainerWindow profile catalog c)) := by
  cases hcurrent : nativeRenderedContainerWindow profile catalog c with
  | none =>
    have hopen : openWindow profile catalog c = none := by
      rw [openWindow, hcurrent]
      split <;> rfl
    refine ⟨[], ?_, by simp, ?_⟩
    · cases sentWindow with
      | none => rfl
      | some sent => cases sent <;> rfl
    · rw [hopen]
      show sentWindow.join = none ∧ none = sentWindow.join ↔ sentWindow.join = none
      simp [eq_comm]
  | some w =>
    obtain ⟨capacity, slots⟩ := w
    -- with a container item that cannot be drawn there is no full rendering at all
    suffices h : ∃ frames, windowDeltaFrames profile catalog containers id sentWindow
          (some (capacity, slots)) = .ok frames ∧
        (∀ frame ∈ frames, frame.containerId = id) ∧
        (openWindow profile catalog c = some (capacity, slots) →
          (showInOrder frames sentWindow.join = some (capacity, slots) ↔ sentWindow ≠ some none ∧
            ∀ previous, sentWindow = some (some (capacity, previous)) →
              ¬InsertsInside previous slots)) by
      obtain ⟨frames, hok, hids, hshow⟩ := h
      refine ⟨frames, hok, hids, ?_⟩
      by_cases hitem : nativeClassicItemRecord catalog c.containerItem = none
      · have hopen : openWindow profile catalog c = none := by rw [openWindow, if_pos hitem]
        rw [hopen]
        simp only [WindowFollows, hitem, ne_eq, not_true, false_and, iff_false, not_and]
        intro hshown
        rw [hshown]
        simp
      · have hopen : openWindow profile catalog c = some (capacity, slots) := by
          rw [openWindow, if_neg hitem, hcurrent]
        rw [hopen, eq_comm (a := some (capacity, slots)), and_self, hshow hopen]
        simp [WindowFollows, hitem]
    cases sentWindow with
    | none =>
      obtain ⟨frames, hok, hids, -, hshow⟩ := resend_view profile catalog hid hc
      exact ⟨frames, hok, hids, fun hopen => by simp [hshow _ hopen]⟩
    | some sent =>
      cases sent with
      | none => exact ⟨[], rfl, by simp, by simp [showInOrder]⟩
      | some previous =>
        obtain ⟨previousCapacity, previousSlots⟩ := previous
        by_cases hcapacity : previousCapacity = capacity
        · subst hcapacity
          obtain ⟨frames, hok, hids, hshow⟩ := slotDelta_view hid hc hcurrent (hsent _ rfl)
          refine ⟨frames, hok, hids, fun hopen => ?_⟩
          rw [Option.join_some, hshow hopen]
          simp
        · obtain ⟨frames, hok, hids, -, hshow⟩ := resend_view profile catalog hid hc
          refine ⟨frames, ?_, hids, fun hopen => ?_⟩
          · rw [windowDeltaFrames, if_pos hcapacity, hok]
          · simp [hshow _ hopen, hcapacity]

end Window

/-! ### All windows -/

section Loop

variable {R : Type} (new : ℕ → List ContainerFrame)

/-- The loop over windows with distinct identifiers: each sees the baseline it started with. -/
theorem loop_ok {f : ℕ → Option R → R → Except ProtocolError (List ContainerFrame)}
    {entries : List (ℕ × R)} (hkeys : (entries.map Prod.fst).Nodup) {sent : BTreeMap ℕ R}
    (h : ∀ e ∈ entries, f e.1 sent[e.1]? e.2 = .ok (new e.1)) (frames : List ContainerFrame) :
    entries.foldlM (recordWindow f) (frames, sent) =
      .ok (frames ++ (entries.map Prod.fst).flatMap new,
        entries.foldl (fun sent e => sent.insert e.1 e.2) sent) := by
  induction entries generalizing sent frames with
  | nil => simp [pure, Except.pure]
  | cons e entries ih =>
    rw [List.map_cons, List.nodup_cons] at hkeys
    have hrest : ∀ e' ∈ entries, f e'.1 (sent.insert e.1 e.2)[e'.1]? e'.2 = .ok (new e'.1) := by
      intro e' he'
      have hne : e.1 ≠ e'.1 := fun heq => hkeys.1 (heq ▸ List.mem_map_of_mem he')
      rw [Std.ExtTreeMap.getElem?_insert, if_neg (by simpa using hne)]
      exact h e' (List.mem_cons_of_mem e he')
    have hturn : recordWindow f (frames, sent) e =
        .ok (frames ++ new e.1, sent.insert e.1 e.2) := by
      rw [recordWindow, h e List.mem_cons_self]
      rfl
    rw [List.foldlM_cons, hturn]
    show List.foldlM (recordWindow f) (frames ++ new e.1, sent.insert e.1 e.2) entries = _
    rw [ih hkeys.2 hrest]
    simp

theorem foldl_insert_of_mem {entries : List (ℕ × R)} (hkeys : (entries.map Prod.fst).Nodup)
    {e : ℕ × R} (he : e ∈ entries) (sent : BTreeMap ℕ R) :
    (entries.foldl (fun sent e => sent.insert e.1 e.2) sent)[e.1]? = some e.2 := by
  induction entries using List.reverseRecOn with
  | nil => cases he
  | append_singleton entries last ih =>
    rw [List.map_append, List.nodup_append] at hkeys
    rw [List.foldl_append, List.foldl_cons, List.foldl_nil, Std.ExtTreeMap.getElem?_insert]
    rcases List.mem_append.mp he with he | he
    · have hne : last.1 ≠ e.1 :=
        fun heq => hkeys.2.2 e.1 (List.mem_map_of_mem he) last.1 (by simp) heq.symm
      rw [if_neg (by simpa using hne)]
      exact ih hkeys.1 he
    · rw [List.mem_singleton.mp he]
      simp

theorem foldl_insert_of_notMem {entries : List (ℕ × R)} {id : ℕ}
    (hid : id ∉ entries.map Prod.fst) (sent : BTreeMap ℕ R) :
    (entries.foldl (fun sent e => sent.insert e.1 e.2) sent)[id]? = sent[id]? := by
  induction entries generalizing sent with
  | nil => rfl
  | cons e entries ih =>
    rw [List.map_cons, List.mem_cons, not_or] at hid
    rw [List.foldl_cons, ih hid.2, Std.ExtTreeMap.getElem?_insert,
      if_neg (by simpa using Ne.symm hid.1)]

variable {new} in
/-- The records about one window among those of all windows. -/
theorem filter_flatMap (hnew : ∀ id, ∀ frame ∈ new id, frame.containerId = id) {ids : List ℕ}
    (hids : ids.Nodup) (id : ℕ) :
    (ids.flatMap new).filter (·.containerId == id) = if id ∈ ids then new id else [] := by
  induction ids with
  | nil => rfl
  | cons j ids ih =>
    rw [List.nodup_cons] at hids
    rw [List.flatMap_cons, List.filter_append, ih hids.2]
    by_cases hj : id = j
    · subst hj
      rw [if_neg hids.1, List.filter_eq_self.mpr (fun frame hframe => by simp [hnew id frame hframe])]
      simp
    · have hnone : (new j).filter (·.containerId == id) = [] :=
        List.filter_eq_nil_iff.mpr fun frame hframe => by simp [hnew j frame hframe, Ne.symm hj]
      simp [hnone, hj]

variable {new} in
/-- One window after the records of all windows. -/
theorem showFrames_flatMap (hnew : ∀ id, ∀ frame ∈ new id, frame.containerId = id) {ids : List ℕ}
    (hids : ids.Nodup) (view : ℕ → Option ShownWindow) (id : ℕ) :
    showFrames view (ids.flatMap new) id =
      if id ∈ ids then showInOrder (new id) (view id) else view id := by
  rw [showFrames_apply, filter_flatMap hnew hids]
  split <;> rfl

end Loop

section All

variable {profile : NativeOtClientProfile} {catalog : Option NativeItemPresentationCatalog}
  {containers : PlayerContainers} {closed : Finset ℕ}

variable (profile catalog containers closed) in
theorem rendered_getElem? (id : ℕ) :
    (nativeRenderedContainerWindows profile catalog containers closed)[id]? =
      if id ∈ closed then none
      else (containers.container id).map (nativeRenderedContainerWindow profile catalog) := by
  rw [nativeRenderedContainerWindows, Std.ExtTreeMap.getElem?_filterMap']
  show (containers.container id).bind _ = _
  cases hid : containers.container id with
  | none => simp
  | some c =>
    have hkey := PlayerContainers.id_of_container hid
    simp only [Option.bind_some, Option.map_some, hkey]

theorem reduceOption_eq_flatMap {κ α : Type*} (g : κ → Option α) (keys : List κ) :
    (keys.map g).reduceOption = keys.flatMap fun key => (g key).toList := by
  induction keys with
  | nil => rfl
  | cons key keys ih =>
    rw [List.map_cons, List.flatMap_cons, ← ih]
    cases g key <;> simp

variable (profile catalog closed) in
/-- **The full rendering** never fails, and shows every window that is not closed. -/
theorem fullRendering_view
    (hcontainers : ∀ id c, containers.container id = some c → c.WithinLimits) :
    ∃ full, nativeClassicContainerFrames profile catalog containers closed = .ok full ∧
      ∀ id, showFrames (fun _ => none) full id =
        if id ∈ closed then none else (containers.container id).bind (openWindow profile catalog) := by
  have hframes : ∀ id, ∃ frame : Option ContainerFrame,
      (∀ f ∈ frame.toList, f.containerId = id) ∧ ∀ c, containers.container id = some c →
        nativeClassicContainerFrame profile catalog c = .ok frame ∧
          showInOrder frame.toList none = openWindow profile catalog c := by
    intro id
    cases hid : containers.container id with
    | none => exact ⟨none, by simp, by simp⟩
    | some c =>
      obtain ⟨frame, hok, hids, hnone, hsome⟩ :=
        nativeClassicContainerFrame_ok profile catalog (hcontainers id c hid)
      rw [PlayerContainers.id_of_container hid] at hids
      refine ⟨frame, hids, ?_⟩
      intro c' hc'
      cases hc'
      refine ⟨hok, ?_⟩
      cases hopen : openWindow profile catalog c with
      | none => rw [hnone hopen]; rfl
      | some w => exact hsome w hopen none
  choose frameOf hids hframe using hframes
  rw [nativeClassicContainerFrames]
  split
  · rename_i hunsupported
    refine ⟨[], rfl, fun id => ?_⟩
    have hopen : ∀ c, openWindow profile catalog c = none := by
      intro c
      rw [openWindow, nativeRenderedContainerWindow, if_pos (Or.inl hunsupported)]
      split <;> rfl
    cases hid : containers.container id <;> simp [showFrames, hopen]
  · generalize hopened : containers.containers.entries.toList.filter
      (fun entry => entry.2.containerId ∉ closed) = opened
    have hmem : ∀ e, e ∈ opened ↔ containers.container e.1 = some e.2 ∧ e.1 ∉ closed := by
      intro e
      rw [← hopened, List.mem_filter, Std.ExtTreeMap.mem_toList_iff_getElem?_eq_some]
      refine and_congr_right fun hid => ?_
      rw [show e.2.containerId = e.1 from PlayerContainers.id_of_container hid]
      simp
    have hnodup : (opened.map Prod.fst).Nodup := by
      rw [← hopened]
      exact (OrderedMap.nodup_keys _).sublist (List.filter_sublist.map _)
    have hmap : opened.mapM (fun entry => nativeClassicContainerFrame profile catalog entry.2) =
        .ok (opened.map fun e => frameOf e.1) :=
      mapM_eq_ok_map fun e he => (hframe e.1 e.2 ((hmem e).mp he).1).1
    refine ⟨(opened.map Prod.fst).flatMap fun id => (frameOf id).toList, ?_, fun id => ?_⟩
    · simp only [hmap]
      rw [← reduceOption_eq_flatMap, List.map_map]
      rfl
    · rw [showFrames_flatMap hids hnodup]
      have hin : id ∈ opened.map Prod.fst ↔
          ∃ c, containers.container id = some c ∧ id ∉ closed := by
        rw [List.mem_map]
        constructor
        · rintro ⟨e, he, rfl⟩
          exact ⟨e.2, (hmem e).mp he⟩
        · rintro ⟨c, hc⟩
          exact ⟨(id, c), (hmem (id, c)).mpr hc, rfl⟩
      by_cases hclosed : id ∈ closed
      · rw [if_neg (by simp [hin, hclosed]), if_pos hclosed]
      · cases hid : containers.container id with
        | none => simp [hin, hid]
        | some c => simp [hin, hid, hclosed, (hframe id c hid).2]

theorem mem_keys_iff {κ ν : Type*} [Ord κ] [Std.TransOrd κ] [Std.LawfulEqOrd κ] {m : BTreeMap κ ν}
    {k : κ} : k ∈ m.toList.map Prod.fst ↔ m[k]?.isSome := by
  rw [Std.ExtTreeMap.map_fst_toList_eq_keys, Std.ExtTreeMap.mem_keys,
    ← Std.ExtTreeMap.isSome_getElem?_iff_mem]

variable (closed) in
/-- **The whole loop**, when the records of each window are `new id`: an open window with a
container is shown its own records and gets its rendering as baseline, all others keep what they
show and lose their baseline. -/
theorem deltaRun_spec {sent : BTreeMap ℕ NativeRenderedContainerWindow}
    {new : ℕ → List ContainerFrame} (hids : ∀ id, ∀ frame ∈ new id, frame.containerId = id)
    (hnew : ∀ id c, containers.container id = some c →
      windowDeltaFrames profile catalog containers id sent[id]?
        (nativeRenderedContainerWindow profile catalog c) = .ok (new id)) :
    ∃ frames sent', nativeContainerDeltaFrames profile catalog containers closed sent =
        .ok (frames, sent') ∧
      (∀ id c, id ∉ closed → containers.container id = some c →
        sent'[id]? = some (nativeRenderedContainerWindow profile catalog c) ∧
          ∀ view, showFrames view frames id = showInOrder (new id) (view id)) ∧
      ∀ id, id ∈ closed ∨ containers.container id = none →
        sent'[id]? = none ∧ ∀ view, showFrames view frames id = view id := by
  rw [nativeContainerDeltaFrames]
  have hget := rendered_getElem? profile catalog containers closed
  generalize nativeRenderedContainerWindows profile catalog containers closed = current at *
  have hkept : ∀ id : ℕ, (sent.filter fun id _ => current.contains id)[id]? =
      if current[id]?.isSome then sent[id]? else none := by
    intro id
    rw [Std.ExtTreeMap.getElem?_filter']
    cases hcurrent : current[id]? <;>
      cases hsent : sent[id]? <;>
        simp [Std.ExtTreeMap.contains_eq_isSome_getElem?, hcurrent]
  generalize sent.filter (fun id _ => current.contains id) = kept at *
  have hnodup := OrderedMap.nodup_keys current
  refine ⟨_, _, loop_ok new hnodup ?_ [], ?_, ?_⟩
  · intro e he
    have hin := Std.ExtTreeMap.mem_toList_iff_getElem?_eq_some.mp he
    rw [hkept, hin, Option.isSome_some, if_pos rfl]
    rw [hget] at hin
    split at hin
    · cases hin
    · obtain ⟨c, hc, hw⟩ := Option.map_eq_some_iff.mp hin
      rw [← hw]
      exact hnew e.1 c hc
  · intro id c hclosed hc
    have hin : current[id]? = some (nativeRenderedContainerWindow profile catalog c) := by
      rw [hget, if_neg hclosed, hc]
      rfl
    refine ⟨foldl_insert_of_mem hnodup (Std.ExtTreeMap.mem_toList_iff_getElem?_eq_some.mpr hin) _,
      fun view => ?_⟩
    rw [List.nil_append, showFrames_flatMap hids hnodup, if_pos]
    rw [mem_keys_iff, hin]
    rfl
  · intro id hgone
    have hout : current[id]? = none := by
      rw [hget]
      split
      · rfl
      · rw [hgone.resolve_left ‹_›]
        rfl
    have hnot : id ∉ current.toList.map Prod.fst := by
      rw [mem_keys_iff, hout]
      simp
    refine ⟨?_, fun view => ?_⟩
    · rw [foldl_insert_of_notMem hnot, hkept, hout]
      rfl
    · rw [List.nil_append, showFrames_flatMap hids hnodup, if_neg hnot]

/-- **When deltas do their job**: in every window that is not closed, a window whose container is
gone shows nothing, and all others follow. -/
theorem deltasFollow_iff {sent : BTreeMap ℕ NativeRenderedContainerWindow}
    (hcontainers : ∀ id c, containers.container id = some c → c.WithinLimits)
    (hsent : ∀ (id : ℕ) (previous : ShownWindow),
      sent[id]? = some (some previous) → previous.2.length ≤ u8Max) :
    DeltasFollow profile catalog containers closed sent ↔
      ∀ id, id ∉ closed → match containers.container id with
        | none => sent[id]?.join = none
        | some c => WindowFollows catalog c.containerItem sent[id]?
            (nativeRenderedContainerWindow profile catalog c) := by
  -- the records of each window
  have hwindows : ∀ id, ∃ frames : List ContainerFrame,
      (∀ f ∈ frames, f.containerId = id) ∧ ∀ c, containers.container id = some c →
        windowDeltaFrames profile catalog containers id sent[id]?
            (nativeRenderedContainerWindow profile catalog c) = .ok frames ∧
          ((showInOrder frames sent[id]?.join = openWindow profile catalog c ∧
              nativeRenderedContainerWindow profile catalog c =
                showInOrder frames sent[id]?.join) ↔
            WindowFollows catalog c.containerItem sent[id]?
              (nativeRenderedContainerWindow profile catalog c)) := by
    intro id
    cases hid : containers.container id with
    | none => exact ⟨[], by simp, by simp⟩
    | some c =>
      obtain ⟨frames, hok, hids, hshow⟩ := windowDelta_view profile catalog hid (hcontainers id c hid) (hsent id)
      exact ⟨frames, hids, fun c' hc' => by cases hc'; exact ⟨hok, hshow⟩⟩
  choose new hids hnew using hwindows
  obtain ⟨full, hfull, hfullView⟩ := fullRendering_view profile catalog closed hcontainers
  obtain ⟨frames, sent', hdelta, hopen, hgone⟩ := deltaRun_spec closed hids
    (fun id c hc => (hnew id c hc).1)
  have hfollow : DeltasFollow profile catalog containers closed sent ↔
      ∀ id, showFrames (shownFor closed sent) frames id = showFrames (fun _ => none) full id ∧
        shownFor closed sent' id = showFrames (shownFor closed sent) frames id := by
    constructor
    · rintro ⟨frames', sent'', full', hdelta', hfull', hreach, hrecord⟩ id
      rw [hdelta] at hdelta'
      rw [hfull] at hfull'
      cases hdelta'
      cases hfull'
      exact ⟨congrFun hreach id, congrFun hrecord id⟩
    · intro h
      exact ⟨frames, sent', full, hdelta, hfull, funext fun id => (h id).1, funext fun id => (h id).2⟩
  rw [hfollow]
  refine forall_congr' fun id => ?_
  rw [hfullView]
  by_cases hclosed : id ∈ closed
  · obtain ⟨-, hview⟩ := hgone id (Or.inl hclosed)
    simp [hview, shownFor, hclosed]
  · cases hid : containers.container id with
    | none =>
      obtain ⟨hbooks, hview⟩ := hgone id (Or.inr hid)
      simp [hview, shownFor, hclosed, hbooks, eq_comm]
    | some c =>
      obtain ⟨hbooks, hview⟩ := hopen id c hclosed hid
      simpa [hview, shownFor, hclosed, hbooks] using (hnew id c hid).2

end All

/-! ### A backpack -/

/-- A profile of the 740 client. -/
def classic740 : NativeOtClientProfile := ⟨740, true, false, false, false, 0⟩

/-- Backpack, sword, shield and helmet. -/
def fourItems : Option NativeItemPresentationCatalog :=
  ([1988, 2376, 2512, 2457].foldlM
    (fun (catalog : NativeItemPresentationCatalog) id => catalog.insert id ⟨id, false⟩)
    .empty).toOption

/-- One backpack with the given items, each a single unit. -/
def backpackWith (serverIds : List ℕ) : PlayerContainers where
  containers := KeyedMap.empty.insert
    ⟨2, ⟨1988, 1, none, none, []⟩, "Backpack", false, ⟨20, serverIds.map (⟨·, 1, none, none, []⟩)⟩⟩
  bounded := by
    refine le_trans (KeyedMap.size_insert_le _ _) ?_
    decide

/-- The baseline of a session that showed the backpack with the given items. -/
def backpackSent (serverIds : List ℕ) : BTreeMap ℕ NativeRenderedContainerWindow :=
  (∅ : BTreeMap ℕ NativeRenderedContainerWindow).insert 2 (some (20, serverIds.map (⟨·, none⟩)))

/-- A shield put behind the sword: the delta appends it. -/
theorem deltasFollow_appended :
    DeltasFollow classic740 fourItems (backpackWith [2376, 2512]) ∅ (backpackSent [2376]) := by
  have hcontainer : ∀ id, (backpackWith [2376, 2512]).container id = if 2 = id then
      some ⟨2, ⟨1988, 1, none, none, []⟩, "Backpack", false,
        ⟨20, [⟨2376, 1, none, none, []⟩, ⟨2512, 1, none, none, []⟩]⟩⟩ else none := by
    intro id
    rw [PlayerContainers.container, backpackWith, KeyedMap.get?_insert, KeyedMap.get?_empty]
    rfl
  have hsent : ∀ id, (backpackSent [2376])[id]? =
      if 2 = id then some (some (20, [⟨2376, none⟩])) else none := by
    intro id
    rw [backpackSent, Std.ExtTreeMap.getElem?_insert]
    simp
  refine (deltasFollow_iff ?_ ?_).mpr ?_
  · intro id c hc
    rw [hcontainer] at hc
    split at hc
    · cases hc
      exact ⟨by decide, by decide, by decide⟩
    · cases hc
  · intro id previous hprevious
    rw [hsent] at hprevious
    split at hprevious
    · cases hprevious
      decide
    · cases hprevious
  · intro id _
    rw [hcontainer, hsent]
    by_cases hid : 2 = id
    · simp only [hid, if_true]
      refine ⟨by decide, by decide, ?_⟩
      intro previous hprevious hinside
      cases hprevious
      obtain ⟨-, -, -, -, -, hnot⟩ := hinside
      exact hnot (by decide)
    · simp only [if_neg hid]
      rfl

/-- A helmet put between sword and shield: the delta appends it behind the shield. -/
theorem insertedInside_misplaced :
    ¬DeltasFollow classic740 fourItems (backpackWith [2376, 2457, 2512]) ∅
      (backpackSent [2376, 2512]) := by
  rintro ⟨frames, sent', full, hdelta, hfull, hreach, -⟩
  have hframes : (nativeContainerDeltaFrames classic740 fourItems (backpackWith [2376, 2457, 2512]) ∅
      (backpackSent [2376, 2512])).toOption.map Prod.fst =
      some [.createInContainer 2 ⟨2457, none⟩] := by decide +kernel
  have hall : (nativeClassicContainerFrames classic740 fourItems (backpackWith [2376, 2457, 2512])
      ∅).toOption = some [.openContainer ⟨2, ⟨1988, none⟩, "Backpack", 20, false,
        [⟨2376, none⟩, ⟨2457, none⟩, ⟨2512, none⟩]⟩] := by decide +kernel
  rw [hdelta] at hframes
  rw [hfull] at hall
  cases hframes
  cases hall
  exact absurd (congrFun hreach 2) (by decide)

end ForgottenEngine
