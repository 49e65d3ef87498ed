import ForgottenEngine.Container
import ForgottenEngine.Library.PositionalDelta

/-!
# What a classic client is told about containers

* the client profile, and the catalog that maps server ids to what the client can draw.  A
  catalog cannot hold a zero client id: the field `nonzero` is what its `insert` checks;
* `ContainerFrame` — the records about container windows, with the encoders that refuse some;
* `nativeClassicContainerFrames` — the full rendering of a player's containers;
* `showFrames` — what a client shows after some records: an `OpenContainer` replaces the window,
  the slot records edit the list of a window that is open (`CreateInContainer` carries no slot and
  appends, `DeleteInContainer` shifts the remainder).

`showFrames_apply`: what is shown in one window depends on the records about that window alone.
-/

namespace ForgottenEngine

open PositionalDelta

/-! ### Profiles -/

inductive NativeOtClientFoundation where
  | plainClassic740 | plainClassic760 | classic800RequiresRsaXtea | unsupported
deriving DecidableEq, Repr

def maxFrameSize : ℕ := 8 * 1024

def maxLoginStringBytes : ℕ := 128

structure NativeOtClientProfile where
  protocolVersion : ℕ
  numericAccountIds : Bool
  loginPacketEncryption : Bool
  protocolChecksum : Bool
  challengeOnLogin : Bool
  maxPaddingBytes : ℕ
deriving DecidableEq, Repr

namespace NativeOtClientProfile

def foundation (self : NativeOtClientProfile) : NativeOtClientFoundation :=
  if self.protocolVersion = 0 ∨ ¬self.numericAccountIds ∨ maxFrameSize < self.maxPaddingBytes then
    .unsupported
  else if (self.protocolVersion = 740 ∨ self.protocolVersion = 760) ∧
      ¬self.loginPacketEncryption ∧ ¬self.protocolChecksum ∧ ¬self.challengeOnLogin then
    if self.protocolVersion = 740 then .plainClassic740 else .plainClassic760
  else if self.protocolVersion = 800 then .classic800RequiresRsaXtea
  else .unsupported

def supportsCurrentNativeFoundation (self : NativeOtClientProfile) : Bool :=
  self.foundation = .plainClassic740 || self.foundation = .plainClassic760

def supportsClassic740InventoryRecords (self : NativeOtClientProfile) : Bool :=
  self.supportsCurrentNativeFoundation &&
    (self.protocolVersion == 740 || self.protocolVersion == 760)

end NativeOtClientProfile

/-! ### The item catalog -/

structure NativeItemPresentation where
  clientThingId : ℕ
  requiresClassic740Subtype : Bool
deriving DecidableEq, Repr

/-- What the client can draw, by server id. -/
structure NativeItemPresentationCatalog where
  entries : BTreeMap ℕ NativeItemPresentation
  nonzero : ∀ (serverId : ℕ) (presentation : NativeItemPresentation),
    entries[serverId]? = some presentation → presentation.clientThingId ≠ 0

namespace NativeItemPresentationCatalog

def empty : NativeItemPresentationCatalog := ⟨∅, by simp⟩

def insert (self : NativeItemPresentationCatalog) (serverId : ℕ)
    (presentation : NativeItemPresentation) : Except CoreError NativeItemPresentationCatalog :=
  if serverId = 0 then .error (.invalidItemId serverId)
  else if h : presentation.clientThingId = 0 then .error (.invalidClientThingId serverId)
  else if self.entries.contains serverId then .error (.duplicateItemPresentation serverId)
  else .ok {
    entries := self.entries.insert serverId presentation
    nonzero := by
      intro k p hk
      rw [Std.ExtTreeMap.getElem?_insert] at hk
      split at hk
      · cases hk; exact h
      · exact self.nonzero k p hk }

def presentation (self : NativeItemPresentationCatalog) (serverId : ℕ) :
    Option NativeItemPresentation := self.entries[serverId]?

end NativeItemPresentationCatalog

/-- One item as the client is told about it. -/
structure NativeOtClientClassicItemRecord where
  clientThingId : ℕ
  subtype : Option ℕ
deriving DecidableEq, Repr

def nativeClassicItemRecord (catalog : Option NativeItemPresentationCatalog) (item : ItemInstance) :
    Option NativeOtClientClassicItemRecord := do
  let catalog ← catalog
  let presentation ← catalog.presentation item.serverId
  some ⟨presentation.clientThingId,
    if presentation.requiresClassic740Subtype then some (min item.count u8Max) else none⟩

theorem clientThingId_ne_zero {catalog : Option NativeItemPresentationCatalog} {item : ItemInstance}
    {record : NativeOtClientClassicItemRecord}
    (h : nativeClassicItemRecord catalog item = some record) : record.clientThingId ≠ 0 := by
  cases catalog with
  | none => cases h
  | some catalog =>
    cases hp : catalog.presentation item.serverId with
    | none => simp [nativeClassicItemRecord, hp] at h
    | some presentation =>
      simp only [nativeClassicItemRecord, Option.bind_eq_bind, Option.bind_some, hp,
        Option.some.injEq] at h
      subst h
      exact catalog.nonzero _ _ hp

/-! ### The records and their encoders -/

structure NativeOtClientClassicOpenContainer where
  containerId : ℕ
  containerItem : NativeOtClientClassicItemRecord
  name : String
  capacity : ℕ
  hasParent : Bool
  items : List NativeOtClientClassicItemRecord
deriving DecidableEq, Repr

inductive ProtocolError where
  | unsupportedNativeClientProfile
  | invalidLength (length : ℕ)
  | lengthMismatch (declared actual : ℕ)
  | truncated
  | invalidXteaLength (length : ℕ)
  | invalidNativeGameRequest
  | stringTooLong (length : ℕ)
  | invalidString
deriving DecidableEq, Repr

/-- The records about container windows. -/
inductive ContainerFrame where
  | openContainer (container : NativeOtClientClassicOpenContainer)
  | createInContainer (containerId : ℕ) (item : NativeOtClientClassicItemRecord)
  | changeInContainer (containerId slot : ℕ) (item : NativeOtClientClassicItemRecord)
  | deleteInContainer (containerId slot : ℕ)
deriving DecidableEq, Repr

/-- Bytes of an item record: the thing id, and the subtype when there is one. -/
def NativeOtClientClassicItemRecord.encodedLength (item : NativeOtClientClassicItemRecord) : ℕ :=
  2 + if item.subtype.isSome then 1 else 0

/-- Bytes of a record about containers, opcode included. -/
def ContainerFrame.encodedLength : ContainerFrame → ℕ
  | .openContainer c =>
    1 + 1 + c.containerItem.encodedLength + (2 + c.name.utf8ByteSize) + 1 + 1 + 1 +
      (c.items.map NativeOtClientClassicItemRecord.encodedLength).sum
  | .createInContainer _ item => 1 + 1 + item.encodedLength
  | .changeInContainer _ _ item => 1 + 1 + 1 + item.encodedLength
  | .deleteInContainer _ _ => 1 + 1 + 1

/-- A record is sent unless it is longer than a frame may be. -/
def ContainerFrame.bounded (frame : ContainerFrame) : Except ProtocolError ContainerFrame :=
  if maxFrameSize < frame.encodedLength then .error (.invalidLength frame.encodedLength)
  else .ok frame

def encodeNativeOtclientOpenContainer (profile : NativeOtClientProfile)
    (container : NativeOtClientClassicOpenContainer) : Except ProtocolError ContainerFrame :=
  if ¬profile.supportsClassic740InventoryRecords ∨ container.name.isEmpty ∨
      maxLoginStringBytes < container.name.utf8ByteSize ∨ u8Max < container.items.length ∨
      container.containerItem.clientThingId = 0 ∨
      container.items.any (·.clientThingId == 0) then
    .error .unsupportedNativeClientProfile
  else (ContainerFrame.openContainer container).bounded

def encodeNativeOtclientCreateInContainer (profile : NativeOtClientProfile) (containerId : ℕ)
    (item : NativeOtClientClassicItemRecord) : Except ProtocolError ContainerFrame :=
  if ¬profile.supportsClassic740InventoryRecords ∨ item.clientThingId = 0 then
    .error .unsupportedNativeClientProfile
  else (ContainerFrame.createInContainer containerId item).bounded

def encodeNativeOtclientChangeInContainer (profile : NativeOtClientProfile) (containerId slot : ℕ)
    (item : NativeOtClientClassicItemRecord) : Except ProtocolError ContainerFrame :=
  if ¬profile.supportsClassic740InventoryRecords ∨ item.clientThingId = 0 then
    .error .unsupportedNativeClientProfile
  else (ContainerFrame.changeInContainer containerId slot item).bounded

def encodeNativeOtclientDeleteInContainer (profile : NativeOtClientProfile)
    (containerId slot : ℕ) : Except ProtocolError ContainerFrame :=
  if ¬profile.supportsClassic740InventoryRecords then .error .unsupportedNativeClientProfile
  else .ok (.deleteInContainer containerId slot)

/-! ### The full rendering -/

/-- The record that opens one window; windows with a parent, and windows the catalog cannot draw
whole, have none. -/
def nativeClassicContainerFrame (profile : NativeOtClientProfile)
    (catalog : Option NativeItemPresentationCatalog) (container : PlayerContainer) :
    Except ProtocolError (Option ContainerFrame) :=
  if ¬profile.supportsClassic740InventoryRecords ∨ container.hasParent then .ok none
  else
    match nativeClassicItemRecord catalog container.containerItem with
    | none => .ok none
    | some containerItem =>
      match container.items.items.mapM (nativeClassicItemRecord catalog) with
      | none => .ok none
      | some items => do
        let frame ← encodeNativeOtclientOpenContainer profile {
          containerId := container.containerId
          containerItem
          name := container.name
          capacity := container.items.capacity % (u8Max + 1)
          hasParent := false
          items }
        .ok (some frame)

/-- The records that open all windows the session has not closed. -/
def nativeClassicContainerFrames (profile : NativeOtClientProfile)
    (catalog : Option NativeItemPresentationCatalog) (containers : PlayerContainers)
    (closedContainerIds : Finset ℕ) : Except ProtocolError (List ContainerFrame) :=
  if ¬profile.supportsClassic740InventoryRecords then .ok []
  else do
    let opened := containers.containers.entries.toList.filter
      fun entry => entry.2.containerId ∉ closedContainerIds
    let frames ← opened.mapM fun entry => nativeClassicContainerFrame profile catalog entry.2
    .ok frames.reduceOption

/-! ### What a client shows -/

/-- An open window: its capacity and the items it lists. -/
abbrev ShownWindow := ℕ × List NativeOtClientClassicItemRecord

/-- The window a record is about. -/
def ContainerFrame.containerId : ContainerFrame → ℕ
  | .openContainer container => container.containerId
  | .createInContainer containerId _ => containerId
  | .changeInContainer containerId _ _ => containerId
  | .deleteInContainer containerId _ => containerId

/-- What a record makes of the window it is about. -/
def ContainerFrame.showIn : ContainerFrame → Option ShownWindow → Option ShownWindow
  | .openContainer container, _ => some (container.capacity, container.items)
  | .createInContainer _ item, window =>
    window.map fun w => (w.1, SlotEdit.apply (.create item) w.2)
  | .changeInContainer _ slot item, window =>
    window.map fun w => (w.1, SlotEdit.apply (.change slot item) w.2)
  | .deleteInContainer _ slot, window =>
    window.map fun w => (w.1, SlotEdit.apply (.delete slot) w.2)

/-- One window after some records about it. -/
def showInOrder (frames : List ContainerFrame) (window : Option ShownWindow) : Option ShownWindow :=
  frames.foldl (fun window frame => frame.showIn window) window

/-- All windows after one record. -/
def showFrame (view : ℕ → Option ShownWindow) (frame : ContainerFrame) : ℕ → Option ShownWindow :=
  Function.update view frame.containerId (frame.showIn (view frame.containerId))

/-- All windows after some records, in order. -/
def showFrames (view : ℕ → Option ShownWindow) (frames : List ContainerFrame) :
    ℕ → Option ShownWindow := frames.foldl showFrame view

/-- **Windows are independent.** -/
theorem showFrames_apply (view : ℕ → Option ShownWindow) (frames : List ContainerFrame) (id : ℕ) :
    showFrames view frames id =
      showInOrder (frames.filter (·.containerId == id)) (view id) := by
  induction frames generalizing view with
  | nil => rfl
  | cons frame frames ih =>
    show showFrames (showFrame view frame) frames id = _
    rw [ih]
    by_cases hid : frame.containerId = id
    · subst hid
      simp [showFrame, showInOrder]
    · have hkeep : showFrame view frame id = view id :=
        Function.update_of_ne (Ne.symm hid) _ _
      simp [hkeep, hid]

end ForgottenEngine
