import ForgottenEngine.ItemTotals
import ForgottenEngine.ThrowItems
import ForgottenEngine.InventoryFrame
import ForgottenEngine.Library.Teams

/-!
# Throws among throws

Many sessions handle throws at once, and the heartbeat takes decayed items off the map.  A throw is
no single step: it reads, decides, moves and saves, each under the locks of its own call.

* `MovesItems` — what a step of one player's throw leaves of the rest: the inventories of the
  others, and no more of anything than before;
* `Host.obeys_applyNativeThrowItem` — every step of a throw is of this kind, whatever the others do
  in between with their own inventories and the map;
* `throws_never_multiply` — **in any interleaving nothing is multiplied**, as long as no stack of
  several units has something inside.
-/

namespace ForgottenEngine

open Fallible

/-! ### What is promised -/

/-- No inventory has a stack of several units with something inside. -/
def HostState.NoFilledStacks (s : HostState) : Prop :=
  ∀ p, ForgottenEngine.NoFilledStacks (s.world.equipmentOf p) (s.world.containersOf p)

/-- The inventory of a player has not changed. -/
structure SameInventory (p : ℕ) (s t : HostState) : Prop where
  equipment : t.world.playerEquipments[p]? = s.world.playerEquipments[p]?
  containers : t.world.playerContainers[p]? = s.world.playerContainers[p]?

/-- A step of a player: nobody else's inventory changes, and there is no more of anything. -/
structure MovesItems (p : ℕ) (s t : HostState) : Prop where
  others : WorldState.OthersKeep p s.world.toWorldState t.world.toWorldState
  items : s.NoFilledStacks → t.itemIds ≤ s.itemIds

/-- Only registered players have an inventory. -/
def HostState.Orderly (s : HostState) : Prop := s.world.HoldersRegistered

section Steps

variable {p : ℕ} {s t u : HostState}

theorem SameInventory.refl (p : ℕ) (s : HostState) : SameInventory p s s := ⟨rfl, rfl⟩

theorem SameInventory.trans (h : SameInventory p s t) (h' : SameInventory p t u) :
    SameInventory p s u :=
  ⟨h'.equipment.trans h.equipment, h'.containers.trans h.containers⟩

theorem MovesItems.refl (p : ℕ) (s : HostState) : MovesItems p s s :=
  ⟨.refl p _, fun _ => le_refl _⟩

theorem MovesItems.sameInventory {q : ℕ} (h : MovesItems p s t) (hq : q ≠ p) :
    SameInventory q s t :=
  ⟨h.others.equipments q hq, h.others.containers q hq⟩

/-- A step with an orderly world before it. -/
def StepFine (p : ℕ) (s t : HostState) : Prop := t.Orderly ∧ MovesItems p s t

theorem StepFine.refl (hs : s.Orderly) : StepFine p s s := ⟨hs, .refl p s⟩

/-- The inventory of the player as the tables have it. -/
theorem HostState.NoFilledStacks.of_tables (h : s.NoFilledStacks) {e : PlayerEquipment}
    {cs : PlayerContainers} (he : s.world.playerEquipments[p]? = some e)
    (hcs : s.world.playerContainers[p]? = some cs) : ForgottenEngine.NoFilledStacks e cs := by
  have hp := h p
  rwa [WorldState.equipmentOf_eq he, WorldState.containersOf_eq hcs] at hp

theorem InventoryFrame.holdersRegistered {w w' : WorldState} (h : InventoryFrame w w')
    (hw : w.HoldersRegistered) : w'.HoldersRegistered := by
  have hall (q : ℕ) (hq : w'.Holds q) : w'.players[q]?.isSome := by
    rw [h.players]
    rcases h.holders q hq with (⟨e, he⟩ | ⟨cs, hcs⟩) | ⟨player, hplayer⟩
    · exact hw.equipped q (by rw [he]; rfl)
    · exact hw.stored q (by rw [hcs]; rfl)
    · rw [hplayer]
      rfl
  constructor
  · intro q hq
    exact hall q (.inl (Option.isSome_iff_exists.mp hq))
  · intro q hq
    exact hall q (.inr (Option.isSome_iff_exists.mp hq))

/-- Both halves of an inventory are written, by an operation that makes no units. -/
theorem stepFine_of_written (hs : s.Orderly) {e e' : PlayerEquipment} {cs' : PlayerContainers}
    (he : s.world.playerEquipments[p]? = some e)
    (hwritten : WorldState.InventoryWritten p e' cs' s.world.toWorldState t.world.toWorldState)
    (hitems : s.NoFilledStacks → t.itemIds ≤ s.itemIds) : StepFine p s t := by
  refine ⟨hs.written ?_ hwritten, hwritten.othersKeep, hitems⟩
  exact hs.equipped p (by rw [he]; rfl)

end Steps

namespace Host

open Procedure (Obeys)

section Operations

variable {p : ℕ} {s : HostState}

/-! ### Single operations -/

theorem onWorld_snd {α : Type} (m : WorldM α) (s : HostState) : (onWorld m s).2 =
    { s with world := { s.world with toWorldState := (m s.world.toWorldState).2 } } := by
  unfold onWorld
  rcases m s.world.toWorldState with ⟨e | a, w⟩ <;> rfl

theorem noted_snd {α : Type} (m : HostM α) (s : HostState) : (noted m s).2 = (m s).2 := by
  unfold noted
  rcases m s with ⟨(_ | error) | a, t⟩
  · rfl
  · cases error <;> rfl
  · rfl

theorem persist_world (save : EngineDatabase → Except PersistenceError EngineDatabase)
    (s : HostState) : (persist save s).2.world = s.world := by
  rcases persist_cases save s with ⟨e, hrun⟩ | ⟨database, -, hrun⟩ <;> rw [hrun]

/-- A save leaves the world and the map alone. -/
theorem stepFine_persist (hs : s.Orderly)
    (save : EngineDatabase → Except PersistenceError EngineDatabase) :
    StepFine p s (persist save s).2 := by
  rcases persist_cases save s with ⟨e, hrun⟩ | ⟨database, -, hrun⟩
  · rw [hrun]
    exact .refl hs
  · rw [hrun]
    exact ⟨hs, ⟨fun _ _ => rfl, fun _ _ => rfl⟩, fun _ => le_refl _⟩

/-- A refusal that strands nothing. -/
theorem refused_same {w w' : WorldState} {transfer : InventoryTransfer} {error : CoreError}
    (hno : ¬∃ id i j dst cs, transfer = .contentItemToContainer id i j dst ∧
      w.playerContainers[p]? = some cs ∧ InventoryTransfer.StrandsContent cs id i j dst)
    (hrun : transfer.perform p w = (.error error, w')) : w' = w := by
  by_cases hcontent : ∃ id i j dst, transfer = .contentItemToContainer id i j dst
  · obtain ⟨id, i, j, dst, rfl⟩ := hcontent
    exact InventoryTransfer.contentItemToContainer_error
      (fun cs hcs hstrand => hno ⟨id, i, j, dst, cs, rfl, hcs, hstrand⟩) hrun
  · have hatomic := InventoryTransfer.atomic_perform (p := p) (t := transfer)
      fun id i j dst heq => hcontent ⟨id, i, j, dst, heq⟩
    exact hatomic w error w' hrun

/-- **A transfer inside the inventory**, accepted or refused. -/
theorem stepFine_perform (hs : s.Orderly) {transfer : InventoryTransfer}
    (hplain : ∀ plan, transfer ≠ .genericMove plan) :
    StepFine p s (onWorld (transfer.perform p) s).2 := by
  have hframe := (InventoryTransfer.frame p transfer s.world.toWorldState).holdersRegistered hs
  rw [onWorld_snd]
  refine ⟨hframe, ?_⟩
  rcases hrun : transfer.perform p s.world.toWorldState with ⟨error | r, w'⟩
  · show MovesItems p s { s with world := { s.world with toWorldState := w' } }
    by_cases hstrand : ∃ id i j dst cs, transfer = .contentItemToContainer id i j dst ∧
        s.world.playerContainers[p]? = some cs ∧ InventoryTransfer.StrandsContent cs id i j dst
    · -- the one refusal that has written loses an item
      obtain ⟨id, i, j, dst, cs, rfl, hcs, c, x, items, target, hc, hx, htarget, hparent⟩ := hstrand
      have hlost := InventoryTransfer.contentItemToContainer_strands hcs hc hx htarget hparent
      rw [hrun] at hlost
      cases hlost
      have hothers : WorldState.OthersKeep p s.world.toWorldState
          (s.world.putContainers p (cs.setItems id items)) :=
        ⟨fun _ _ => rfl, fun q hq => by simp [Ne.symm hq]⟩
      refine ⟨hothers, fun _ => itemIds_le hothers ?_⟩
      have htake := PlayerContainers.units_take hc (ItemContainer.units_takeContent hx)
      have hfewer : (cs.setItems id items).units ≤ cs.units := by
        rw [← htake]
        exact Multiset.le_add_right _ _
      apply add_le_add_left
      show (s.world.putContainers p (cs.setItems id items)).heldIds p ≤ s.world.heldIds p
      have hput : (s.world.putContainers p (cs.setItems id items)).containersOf p =
          cs.setItems id items := by simp [WorldState.containersOf]
      unfold WorldState.heldIds
      rw [WorldState.containersOf_eq hcs, hput]
      exact Multiset.map_le_map (add_le_add_right hfewer _)
    · have hsame : w' = s.world.toWorldState := refused_same hstrand hrun
      rw [hsame]
      exact .refl p s
  · show MovesItems p s { s with world := { s.world with toWorldState := w' } }
    obtain ⟨e, cs, ht, hupdate⟩ := InventoryTransfer.perform_transferred hrun
    refine ⟨hupdate.othersKeep, fun hwhole => itemIds_le hupdate.othersKeep ?_⟩
    apply add_le_add_left
    show w'.heldIds p ≤ s.world.heldIds p
    unfold WorldState.heldIds
    rw [hupdate.equipment, hupdate.containers]
    exact Multiset.map_le_map ((Multiset.le_add_right _ _).trans
      (transferred_le ht (hwhole p) hplain))

/-- An operation on the map that changes nothing when it fails. -/
theorem stepFine_noted {α : Type} {m : HostM α} (hs : s.Orderly) (hatomic : AtomicAt m s)
    (hok : ∀ a t, m s = (.ok a, t) → StepFine p s t) : StepFine p s (noted m s).2 := by
  rw [noted_snd]
  rcases hrun : m s with ⟨error | a, t⟩
  · rw [hatomic error t hrun]
    exact .refl hs
  · exact hok a t hrun

theorem stepFine_drop (hs : s.Orderly) (source : PlayerGroundDropSource) (target : Position)
    (n : ℕ) (weights : Option (BTreeMap ℕ ℕ)) :
    StepFine p s (noted (movePlayerStackToGround p source target n weights) s).2 := by
  apply stepFine_noted hs (movePlayerStackToGround_atomic source target n weights)
  intro out t hrun
  obtain ⟨e, cs, e', cs', nextMap, hdrop⟩ := movePlayerStackToGround_eq_ok hrun
  exact stepFine_of_written hs hdrop.equipment hdrop.written fun hwhole =>
    hdrop.itemIds_le (hwhole.of_tables hdrop.equipment hdrop.containers)

theorem stepFine_pickup (hs : s.Orderly) (position : Position) (itemIndex : ℕ)
    (childIndex : Option ℕ) (n : ℕ) (destination : PlayerGroundDropSource)
    (weights : Option (BTreeMap ℕ ℕ)) :
    StepFine p s (noted (moveRuntimeItemToInventory p position itemIndex childIndex n destination
      weights) s).2 := by
  apply stepFine_noted hs (moveRuntimeItemToInventory_atomic hs _ _ _ _ _ _)
  intro out t hrun
  obtain ⟨items, recordIndex, mapItem, take, e, cs, e', cs', nextMap, htaken⟩ :=
    moveRuntimeItemToInventory_eq_ok hs hrun
  exact stepFine_of_written hs htaken.equipment htaken.written fun _ => htaken.itemIds_le

theorem stepFine_takeToContainer (hs : s.Orderly) (position : Position) (k n id : ℕ) :
    StepFine p s (noted (moveSourceItemStackToTopLevelContainer p position k n id) s).2 := by
  apply stepFine_noted hs (moveSourceItemStackToTopLevelContainer_atomic hs)
  intro out t hrun
  obtain ⟨index, runtimeItem, e, cs, e', cs', htaken⟩ :=
    moveSourceItemStackToTopLevelContainer_eq_ok hs hrun
  exact stepFine_of_written hs htaken.equipment htaken.written fun _ => htaken.itemIds_le

theorem stepFine_takeToEquipment (hs : s.Orderly) (position : Position) (k n : ℕ)
    (slot : EquipmentSlot) :
    StepFine p s (noted (moveSourceItemStackToEquipment p position k n slot) s).2 := by
  apply stepFine_noted hs (moveSourceItemStackToEquipment_atomic hs)
  intro out t hrun
  obtain ⟨index, runtimeItem, e, cs, e', cs', htaken⟩ :=
    moveSourceItemStackToEquipment_eq_ok hs hrun
  exact stepFine_of_written hs htaken.equipment htaken.written fun _ => htaken.itemIds_le

/-- A stack goes from one slot to an empty one. -/
theorem units_movedSlot {e : PlayerEquipment} {a b : EquipmentSlot} {x : ItemInstance}
    (hx : e.item a = some x) (hb : e.item b = none) :
    ((e.without a).equip b x).2.units = e.units := by
  have hequip := PlayerEquipment.units_equip (e.without a) b x
  have hnone : (e.without a).item b = none := by simp [hb]
  rw [hnone, Option.elim_none, add_zero] at hequip
  rw [hequip, PlayerEquipment.units_without hx, add_comm]

/-- **The slots are replaced** by ones with the same units. -/
theorem stepFine_replaceEquipment (hs : s.Orderly) {e e' : PlayerEquipment}
    (he : s.world.playerEquipments[p]? = some e) (hunits : e'.units = e.units) :
    StepFine p s (onWorld (World.replacePlayerEquipment p e') s).2 := by
  rw [onWorld_snd]
  cases hplayer : s.world.players[p]? with
  | none => exact absurd (hs.equipped p (by rw [he]; rfl)) (by simp [hplayer])
  | some player =>
    unfold World.replacePlayerEquipment
    rw [bind_of_ok (World.requirePlayer_eq_ok.mpr ⟨hplayer, rfl⟩),
      bind_of_ok (World.playerEquipment_eq_ok.mpr ⟨he, rfl⟩)]
    split
    · exact .refl hs
    · show StepFine p s
        { s with world := { s.world with toWorldState := (s.world.putEquipment p e').markChanged } }
      have hothers : WorldState.OthersKeep p s.world.toWorldState
          (s.world.putEquipment p e').markChanged :=
        ⟨fun q hq => by simp [Ne.symm hq], fun _ _ => rfl⟩
      refine ⟨?_, hothers, fun _ => itemIds_le hothers ?_⟩
      · exact ((InventoryFrame.refl _).putEquipment e' ⟨player, hplayer⟩).changed.holdersRegistered
          hs
      · apply add_le_add_left
        show (s.world.putEquipment p e').heldIds p ≤ s.world.heldIds p
        have hput : (s.world.putEquipment p e').equipmentOf p = e' := by
          simp [WorldState.equipmentOf]
        unfold WorldState.heldIds
        rw [WorldState.equipmentOf_eq he, hput, hunits]
        exact le_refl _

end Operations

/-! ### Handlers -/

/-- Every step of the handler is fine, whatever the others have done with their inventories. -/
def Fine (p : ℕ) {α : Type} (handler : Handler α) : Prop :=
  ∀ s, Obeys HostState.Orderly (SameInventory p) (MovesItems p) handler s

section Handlers

variable {p : ℕ} {α β : Type}

theorem Fine.pure (a : α) : Fine p (Pure.pure a : Handler α) := fun _ => trivial

theorem Fine.bind {handler : Handler α} {k : α → Handler β} (h : Fine p handler)
    (hk : ∀ a, Fine p (k a)) : Fine p (handler >>= k) :=
  fun s => (h s).bind fun a t => hk a t

theorem Fine.map {handler : Handler α} (h : Fine p handler) (f : α → β) :
    Fine p (f <$> handler) :=
  h.bind fun a => .pure (f a)

theorem Fine.ite {c : Prop} [Decidable c] {handler other : Handler α} (h : Fine p handler)
    (h' : Fine p other) : Fine p (if c then handler else other) :=
  fun s => (h s).ite (h' s)

theorem Fine.atomic {m : HostM α} (h : ∀ s, s.Orderly → StepFine p s (m s).2) :
    Fine p (Procedure.atomic m) :=
  fun _ => .atomic fun t _ ht => h t ht

theorem Fine.read {m : HostM α} (hm : ReadOnly m) : Fine p (Procedure.atomic m) :=
  .atomic fun s hs => by
    rw [hm s]
    exact .refl hs

theorem fine_saveInventory : Fine p (saveInventory p) :=
  .bind (.read (.readOr _ _)) fun _ => .bind (.read (.readOr _ _)) fun _ =>
    .atomic fun _ hs => stepFine_persist hs _

theorem fine_transferAndSave {transfer : InventoryTransfer}
    (hplain : ∀ plan, transfer ≠ .genericMove plan) : Fine p (transferAndSave p transfer) :=
  .bind (.atomic fun _ hs => stepFine_perform hs hplain) fun _ =>
    .bind fine_saveInventory fun _ => .pure _

theorem fine_refuseOverweightIntake {session : ThrowSession} (incoming : List (ℕ × ℕ)) :
    Fine p (refuseOverweightIntake session incoming) := by
  apply Fine.map
  unfold checkNativeCarryCapacity
  split
  · exact .pure _
  · exact .bind (.read (.readOr _ _)) fun _ => .bind (.read (.readOr _ _)) fun _ =>
      .bind (.read (.readOr _ _)) fun _ => .pure _

theorem fine_firstHandled {handlers : List (Handler SessionActionOutcome)}
    (h : ∀ handler ∈ handlers, Fine p handler) : Fine p (firstHandled handlers) := by
  induction handlers with
  | nil => exact .pure _
  | cons handler handlers ih =>
    refine .bind (h handler List.mem_cons_self) fun outcome => ?_
    cases outcome with
    | handled => exact .pure _
    | unhandled => exact ih fun other hother => h other (List.mem_cons_of_mem _ hother)

end Handlers

section Throws

variable (session : ThrowSession) (catalog : NativeItemPresentationCatalog)
  (request : ThrowItemRequest)

theorem readOnly_addressedStack (p : ℕ) (source : PlayerGroundDropSource) :
    ReadOnly (addressedStack p source) := by
  cases source <;> exact .read _

theorem fine_groundDrop :
    Fine session.characterId (applyNativeThrowItemGroundDrop session catalog request) := by
  unfold applyNativeThrowItemGroundDrop
  refine .ite (.pure _) ?_
  split
  · exact .pure _
  · exact .bind (.read (readOnly_addressedStack _ _)) fun _ => .ite (.pure _)
      (.bind (.atomic fun _ hs => stepFine_drop hs _ _ _ _) fun _ => .pure _)

theorem fine_runtimePickup :
    Fine session.characterId (applyNativeThrowItemRuntimePickup session catalog request) := by
  refine .ite (.pure _) (.bind (.read (.read _)) fun runtimePickup => ?_)
  split
  · exact .pure _
  · refine .ite (.pure _) (.bind (fine_refuseOverweightIntake _) fun refused => ?_)
    refine .ite (.pure _) ?_
    split
    · exact .pure _
    · exact .bind (.atomic fun _ hs => stepFine_pickup hs _ _ _ _ _ _) fun _ => .pure _

theorem fine_mapSource :
    Fine session.characterId (applyNativeThrowItemMapSource session catalog request) := by
  unfold applyNativeThrowItemMapSource
  refine .ite (.pure _) ?_
  split
  · exact .pure _
  · refine .bind (.read (.read _)) fun mapSnapshot => .bind (.read (.read _)) fun found => ?_
    split
    · exact .pure _
    · refine .bind (fine_refuseOverweightIntake _) fun refused => .ite (.pure _) ?_
      split
      · exact .ite (.pure _)
          (.bind (.atomic fun _ hs => stepFine_takeToContainer hs _ _ _ _) fun _ => .pure _)
      · exact .ite (.pure _)
          (.bind (.atomic fun _ hs => stepFine_takeToEquipment hs _ _ _ _) fun _ => .pure _)
      · exact .pure _

theorem fine_corpseTake (containerId : ℕ) :
    Fine session.characterId (applyNativeThrowItemCorpseTake session request containerId) := by
  unfold applyNativeThrowItemCorpseTake
  split
  · exact .pure _
  · split
    · exact .pure _
    · refine .bind (.read (.read _)) fun corpse => .bind ?_ fun refused => ?_
      · unfold refuseLoot
        split
        · exact .pure _
        · exact fine_refuseOverweightIntake _
      · exact .ite (.pure _)
          (.bind (.atomic fun _ hs => stepFine_pickup hs _ _ _ _ _ _) fun _ => .pure _)

theorem fine_containerToContainer (containerId itemIndex : ℕ) : Fine session.characterId
    (applyNativeThrowItemContainerToContainer session catalog request containerId itemIndex) := by
  unfold applyNativeThrowItemContainerToContainer
  split
  · exact .pure _
  · split
    · exact fine_transferAndSave fun plan => by simp
    · refine .bind (.read (.readOr _ _)) fun containers => ?_
      split
      · refine .ite (.pure _) (.ite (.pure _) ?_)
        exact .bind (.atomic fun _ hs => stepFine_perform hs fun plan => by simp) fun _ =>
          .bind (.read (.readOr _ _)) fun _ =>
          .bind (.atomic fun _ hs => stepFine_persist hs _) fun _ => .pure _
      · exact .pure _

theorem fine_containerToEquipment (equipment : PlayerEquipment) (item : ItemInstance)
    (containerId itemIndex : ℕ) (targetSlot : EquipmentSlot) : Fine session.characterId
    (containerToEquipment session request equipment item containerId itemIndex targetSlot) := by
  unfold containerToEquipment
  split
  · exact .ite (fine_transferAndSave fun plan => by simp)
      (.ite (fine_transferAndSave fun plan => by simp) (.pure _))
  · exact .ite (fine_transferAndSave fun plan => by simp)
      (.ite (.pure _) (fine_transferAndSave fun plan => by simp))

theorem fine_applyContainerToEquipment (containerId itemIndex : ℕ) : Fine session.characterId
    (applyNativeThrowItemContainerToEquipment session catalog request containerId itemIndex) := by
  unfold applyNativeThrowItemContainerToEquipment
  split
  · exact .pure _
  · split
    · exact fine_transferAndSave fun plan => by simp
    · refine .bind (.read (.readOr _ _)) fun equipment =>
        .bind (.read (.readOr _ _)) fun containers => ?_
      split
      · exact .pure _
      · refine .ite (.pure _) ?_
        split
        · exact .pure _
        · exact fine_containerToEquipment session request equipment _ containerId itemIndex _

theorem fine_equipmentToContainer (item : ItemInstance) (sourceSlot : EquipmentSlot)
    (containerId : ℕ) : Fine session.characterId
      (equipmentToContainer session request item sourceSlot containerId) := by
  refine .bind (.read (.readOr _ _)) fun containers => ?_
  split
  · exact .pure _
  · refine .ite (.pure _) ?_
    split
    · exact .ite (fine_transferAndSave fun plan => by simp) (.pure _)
    · exact .ite (.pure _) (fine_transferAndSave fun plan => by simp)

/-- **Between two slots**: what has been read is still there, since nobody else touches it. -/
theorem obeys_equipmentToEquipment {s : HostState} {equipment : PlayerEquipment}
    {item : ItemInstance} {sourceSlot : EquipmentSlot}
    (he : s.world.playerEquipments[session.characterId]? = some equipment)
    (hitem : equipment.item sourceSlot = some item) (targetSlot : EquipmentSlot) :
    Obeys HostState.Orderly (SameInventory session.characterId) (MovesItems session.characterId)
      (equipmentToEquipment session request equipment item sourceSlot targetSlot) s := by
  unfold equipmentToEquipment
  split
  · trivial
  · split
    · refine Fine.ite (.pure _) ?_ s
      exact .bind (.atomic fun _ hs => stepFine_perform hs fun plan => by simp) fun _ =>
        .bind (.read (.readOr _ _)) fun _ =>
        .bind (.atomic fun _ hs => stepFine_persist hs _) fun _ => .pure _
    · next hempty =>
      rw [Option.not_isSome_iff_eq_none] at hempty
      apply Obeys.atomic_bind
      intro t hst ht
      have hsave := stepFine_persist (p := session.characterId) ht
        (·.replacePlayerEquipment session.characterId
          ((equipment.without sourceSlot).equip targetSlot item).2)
      refine ⟨hsave.1, hsave.2, fun _ _ => ?_⟩
      apply Obeys.atomic_bind
      intro u htu hu
      have hsaved : (persist (·.replacePlayerEquipment session.characterId
          ((equipment.without sourceSlot).equip targetSlot item).2) t).2.world = t.world :=
        persist_world _ t
      have hu' : u.world.playerEquipments[session.characterId]? = some equipment := by
        rw [htu.equipment, hsaved, hst.equipment, he]
      have hpublish := stepFine_replaceEquipment hu hu' (units_movedSlot hitem hempty)
      exact ⟨hpublish.1, hpublish.2, fun _ _ => trivial⟩

theorem fine_equipmentSource :
    Fine session.characterId (applyNativeThrowItemEquipmentSource session catalog request) := by
  unfold applyNativeThrowItemEquipmentSource
  split
  · exact .pure _
  · intro s
    refine Obeys.read_bind (MovesItems.refl _) (.readOr _ _) fun equipment t _ hread => ?_
    have he := (playerEquipment_eq_ok.mp hread).1
    split
    · trivial
    · next item hitem =>
      obtain ⟨hitem, -⟩ := Option.filter_eq_some_iff.mp hitem
      split
      · exact obeys_equipmentToEquipment session request he hitem _
      · exact fine_equipmentToContainer session request item _ _ t
      · trivial

/-- **Every step of a throw is fine.** -/
theorem fine_applyNativeThrowItem :
    Fine session.characterId (applyNativeThrowItem session request) := by
  unfold applyNativeThrowItem
  split
  · exact .pure _
  · refine .ite (.pure _) (fine_firstHandled fun handler hhandler => ?_)
    simp only [throwHandlers, List.mem_append, List.mem_singleton] at hhandler
    rcases hhandler with ((rfl | hground) | hwindow) | rfl
    · exact fine_groundDrop session _ request
    · split at hground
      · rcases List.mem_pair.mp hground with rfl | rfl
        · exact fine_runtimePickup session _ request
        · exact fine_mapSource session _ request
      · cases hground
    · split at hwindow
      · simp only [List.mem_cons, List.not_mem_nil, or_false] at hwindow
        rcases hwindow with rfl | rfl | rfl
        · exact fine_corpseTake session request _
        · exact fine_containerToContainer session _ request _ _
        · exact fine_applyContainerToEquipment session _ request _ _
      · cases hwindow
    · exact fine_equipmentSource session _ request

end Throws

end Host

/-! ### Runs -/

section Runs

variable {ι : Type} {player : ι → ℕ}

/-- The sessions of the players and the heartbeat. -/
inductive MayDo (player : ι → ℕ) : Option ι → Handler Unit → Prop
  | throw {i : ι} {session : ThrowSession} (request : ThrowItemRequest) :
      session.characterId = player i → MayDo player (some i) (Host.throwItem session request)
  | expire (nowTick : ℕ) : MayDo player none (Host.expireItems nowTick)

/-- What they rely on. -/
def Relies (player : ι → ℕ) : Option ι → HostState → HostState → Prop
  | some i => SameInventory (player i)
  | none => fun _ _ => True

/-- What they promise. -/
def Promises (player : ι → ℕ) : Option ι → HostState → HostState → Prop
  | some i => MovesItems (player i)
  | none => fun s t => t.world = s.world ∧ t.itemIds ≤ s.itemIds

theorem compact_of_injective (hplayer : Function.Injective player) :
    Procedure.Compact (Relies player) (Promises player) where
  refl i s := by
    cases i with
    | some i => exact .refl _ s
    | none => trivial
  trans i s t u h h' := by
    cases i with
    | some i => exact SameInventory.trans h h'
    | none => trivial
  fair i j s t hij h := by
    cases j with
    | none => trivial
    | some j =>
      cases i with
      | some i => exact MovesItems.sameInventory h fun heq => hij (by rw [hplayer heq])
      | none => exact ⟨by rw [h.1], by rw [h.1]⟩

theorem obeys_mayDo {i : Option ι} {turn : Handler Unit} (h : MayDo player i turn)
    (s : HostState) : Procedure.Obeys HostState.Orderly (Relies player i) (Promises player i) turn
      s := by
  cases h with
  | @throw i session request hsession =>
    show Procedure.Obeys HostState.Orderly (SameInventory (player i)) (MovesItems (player i)) _ s
    rw [← hsession]
    exact Host.Fine.bind (Host.fine_applyNativeThrowItem session request) (fun _ => .pure _) s
  | expire nowTick =>
    apply Procedure.Obeys.atomic_bind
    intro t _ ht
    rcases hrun : Host.removeExpiredRuntimeItems nowTick t with ⟨error | positions, u⟩
    · rw [Host.removeExpiredRuntimeItems_atomic nowTick error u hrun]
      exact ⟨ht, ⟨rfl, le_refl _⟩, fun _ _ => trivial⟩
    · obtain ⟨hworld, hitems⟩ := itemIds_le_of_expired hrun
      refine ⟨?_, ⟨hworld, hitems⟩, fun _ _ => trivial⟩
      show u.world.HoldersRegistered
      rw [hworld]
      exact ht

/-- Kept promises, in states without filled stacks. -/
theorem itemIds_le_of_promises {s t : HostState}
    (h : Relation.ReflTransGen (fun s t => s.NoFilledStacks ∧ ∃ i, Promises player i s t) s t) :
    t.itemIds ≤ s.itemIds ∧ ∀ q, q ∉ Set.range player → SameInventory q s t := by
  induction h with
  | refl => exact ⟨le_refl _, fun q _ => .refl q s⟩
  | tail _ hstep ih =>
    obtain ⟨hwhole, i, hpromise⟩ := hstep
    obtain ⟨hitems, hothers⟩ := ih
    cases i with
    | some i =>
      refine ⟨(MovesItems.items hpromise hwhole).trans hitems, fun q hq => ?_⟩
      exact (hothers q hq).trans
        (MovesItems.sameInventory hpromise fun heq => hq ⟨i, heq.symm⟩)
    | none =>
      refine ⟨hpromise.2.trans hitems, fun q hq => (hothers q hq).trans ?_⟩
      exact ⟨by rw [hpromise.1], by rw [hpromise.1]⟩

/-- **Nothing is multiplied**, in whatever order the steps of all throws and of the decay come, and
nobody's inventory changes but those of the players who throw. -/
theorem throws_never_multiply [DecidableEq ι] (hplayer : Function.Injective player)
    {c c' : Procedure.Team (Option ι) Refusal HostState Unit}
    (hidle : ∀ i, (c.1 i).isDone = true) (horderly : c.2.Orderly)
    (h : Relation.ReflTransGen
      (fun c c' => Procedure.TeamStep (MayDo player) c c' ∧ c.2.NoFilledStacks) c c') :
    c'.2.itemIds ≤ c.2.itemIds ∧ ∀ q, q ∉ Set.range player → SameInventory q c.2 c'.2 := by
  have hobeys : c.Obeys HostState.Orderly (Relies player) (Promises player) :=
    Procedure.Team.obeys_of_idle horderly hidle
  obtain ⟨hpromises, -⟩ := Procedure.promises_of_teamSteps (compact_of_injective hplayer)
    (fun _ _ hmay s => obeys_mayDo hmay s) hobeys h
  exact itemIds_le_of_promises hpromises

end Runs

/-! ### A bag on the grass -/

/-- The player with the bag on the back stands on the only tile. -/
def bagOnGrass : HostState where
  world := { (Host.bagOnBack []).world with
    players := (∅ : BTreeMap ℕ Player).insert 1 ⟨1, 1, "Knight", ⟨100, 94, 7⟩, 8, 4200, 0⟩ }
  map := .new grassMap
  database := InventorySave.onePlayerDatabase

theorem bagOnGrass_orderly : bagOnGrass.Orderly where
  equipped p hp := by
    have hholders : (Host.bagOnBack []).world.HoldersRegistered := Host.bagOnBack_holders
    have hholder := hholders.equipped p hp
    simpa [bagOnGrass, Host.bagOnBack] using hholder
  stored p hp := by
    have hholders : (Host.bagOnBack []).world.HoldersRegistered := Host.bagOnBack_holders
    have hholder := hholders.stored p hp
    simpa [bagOnGrass, Host.bagOnBack] using hholder

theorem bagOnGrass_whole : bagOnGrass.NoFilledStacks := by
  intro p x hx hcount
  rcases hx with ⟨slot, hslot⟩ | ⟨id, c, hc, -⟩
  · have hbag : x = Host.bag [] := by
      by_cases hp : p = 1
      · subst hp
        have hitem : (PlayerEquipment.empty.equip .backpack (Host.bag [])).2.item slot = some x :=
          hslot
        rw [PlayerEquipment.item_equip] at hitem
        split at hitem
        · exact (Option.some.inj hitem).symm
        · cases hitem
      · have hnone : bagOnGrass.world.playerEquipments[p]? = none := by
          simp [bagOnGrass, Host.bagOnBack, Ne.symm hp]
        unfold WorldState.equipmentOf at hslot
        rw [hnone] at hslot
        cases hslot
    rw [hbag]
    rfl
  · have hempty : bagOnGrass.world.containersOf p = .empty := by
      by_cases hp : p = 1
      · subst hp
        rfl
      · simp [WorldState.containersOf, bagOnGrass, Host.bagOnBack, Ne.symm hp]
    rw [hempty] at hc
    cases hc

/-- A session of the player that knows what a bag looks like. -/
def bagSession : ThrowSession where
  characterId := 1
  itemPresentationCatalog :=
    (NativeItemPresentationCatalog.empty.insert 1987 ⟨1987, false⟩).toOption
  itemWeightByServerId := none
  itemSlotTypesByServerId := none
  observedDead := false
  closedContainerIds := ∅
  openContentWindows := ∅
  openCorpseWindows := ∅

/-- The bag goes from the back to the ground. -/
def bagThrow : ThrowItemRequest := ⟨⟨0xffff, 3, 0⟩, 1987, 0, ⟨100, 94, 7⟩, 1⟩

theorem bagThrow_through :
    Procedure.Through HostState.NoFilledStacks (Host.throwItem bagSession bagThrow) bagOnGrass :=
  And.intro bagOnGrass_whole (And.intro bagOnGrass_whole trivial)

theorem throws_never_multiply_bag :
    (Host.movePlayerStackToGround 1 (.equipmentSlot .backpack) ⟨100, 94, 7⟩ 1 none
      bagOnGrass).2.itemIds ≤ bagOnGrass.itemIds := by
  have hmay : MayDo (fun _ : Unit => 1) (some ()) (Host.throwItem bagSession bagThrow) :=
    .throw bagThrow rfl
  have hrun := throws_never_multiply (fun _ _ _ => rfl)
    (c := (fun _ => .done (.ok ()), bagOnGrass)) (fun _ => rfl) bagOnGrass_orderly
    ((Relation.ReflTransGen.single ⟨.begin (some ()) rfl hmay, bagOnGrass_whole⟩).trans
      (Procedure.teamSteps_of_through (some ()) bagThrow_through _))
  rw [← Host.noted_snd]
  exact hrun.1

end ForgottenEngine
