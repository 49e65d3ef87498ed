import ForgottenEngine.TransferEffects

/-!
# Refused transfers

A refused transfer is meant to leave the world alone.  Twelve of the thirteen transfers do, for
one reason: they work on local copies and store them after the last check, so each is a sequence
of reading steps in front of steps that cannot fail.

`moveContentItemToContainer` stores its containers once before it refuses a nested target, and
the content item is then gone.  `perform_atomic_iff` is the exact condition.
-/

namespace ForgottenEngine

open Fallible World WorldState

namespace InventoryTransfer

section Atomic

variable {α : Type} (p : ℕ) (e : PlayerEquipment) (cs : PlayerContainers) (a : α)

/-- The three ways a transfer ends. -/
theorem succeeds_storeBoth : Succeeds (do
    storeEquipment p e
    storeContainers p cs
    World.markChanged
    return a : WorldM α) :=
  .bind (.write _) fun _ => .bind (.write _) fun _ => .bind (.write _) fun _ => .pure a

theorem succeeds_storeEquipment : Succeeds (do
    storeEquipment p e
    World.markChanged
    return a : WorldM α) :=
  .bind (.write _) fun _ => .bind (.write _) fun _ => .pure a

theorem succeeds_storeContainers : Succeeds (do
    storeContainers p cs
    World.markChanged
    return a : WorldM α) :=
  .bind (.write _) fun _ => .bind (.write _) fun _ => .pure a

end Atomic

theorem readOnly_playerEquipment (p : ℕ) : ReadOnly (World.playerEquipment p) := .readOr _ _

theorem readOnly_playerContainers (p : ℕ) : ReadOnly (World.playerContainers p) := .readOr _ _

theorem atomic_moveEquipmentItemToContainer (p : ℕ) (slot : EquipmentSlot) (id : ℕ) :
    Atomic (moveEquipmentItemToContainer p slot id) := by
  refine .bind (readOnly_playerEquipment p) fun e => ?_
  refine .bind (readOnly_playerContainers p) fun cs => ?_
  refine .bind (.ofOption _ _) fun out => ?_
  refine .bind (.ofOption _ _) fun found => ?_
  refine .bind (.ofExcept _) fun items => ?_
  refine .bind (.ofExcept _) fun stored => ?_
  exact (succeeds_storeBoth _ _ _ _).atomic

theorem atomic_moveContainerItemToEquipment (p id i : ℕ) (slot : EquipmentSlot) :
    Atomic (moveContainerItemToEquipment p id i slot) := by
  refine .bind (readOnly_playerEquipment p) fun e => ?_
  split
  · exact (ReadOnly.fail _).atomic
  · refine .bind (readOnly_playerContainers p) fun cs => ?_
    refine .bind (.ofOption _ _) fun found => ?_
    refine .bind (.ofOption _ _) fun out => ?_
    refine .bind (.ofExcept _) fun stored => ?_
    exact (succeeds_storeBoth _ _ _ _).atomic

theorem atomic_moveContentItemToEquipment (p id i j : ℕ) (slot : EquipmentSlot) :
    Atomic (moveContentItemToEquipment p id i j slot) := by
  refine .bind (readOnly_playerEquipment p) fun e => ?_
  split
  · exact (ReadOnly.fail _).atomic
  · refine .bind (readOnly_playerContainers p) fun cs => ?_
    refine .bind (.ofOption _ _) fun found => ?_
    refine .bind (.ofOption _ _) fun out => ?_
    refine .bind (.ofExcept _) fun stored => ?_
    exact (succeeds_storeBoth _ _ _ _).atomic

theorem atomic_swapContainerItemWithEquipment (p id i : ℕ) (slot : EquipmentSlot) :
    Atomic (World.swapContainerItemWithEquipment p id i slot) := by
  refine .bind (readOnly_playerEquipment p) fun e => ?_
  refine .bind (.ofOption _ _) fun out => ?_
  refine .bind (readOnly_playerContainers p) fun cs => ?_
  refine .bind (.ofOption _ _) fun found => ?_
  refine .bind (.ofOption _ _) fun item => ?_
  refine .bind (.ofExcept _) fun stored => ?_
  exact (succeeds_storeBoth _ _ _ _).atomic

theorem atomic_swapEquipmentItems (p : ℕ) (a b : EquipmentSlot) :
    Atomic (World.swapEquipmentItems p a b) := by
  unfold World.swapEquipmentItems
  split
  · exact (ReadOnly.fail _).atomic
  · refine .bind (readOnly_playerEquipment p) fun e => ?_
    refine .bind (.ofOption _ _) fun out => ?_
    refine .bind (.ofOption _ _) fun out' => ?_
    exact (succeeds_storeEquipment _ _ _).atomic

theorem atomic_consumePlayerEquipmentItemUnit (p : ℕ) (slot : EquipmentSlot) :
    Atomic (consumePlayerEquipmentItemUnit p slot) := by
  refine .bind (readOnly_playerEquipment p) fun e => ?_
  split
  · exact (Succeeds.pure _).atomic
  · exact (succeeds_storeEquipment _ _ _).atomic

theorem atomic_consumePlayerContainerItemUnit (p id i : ℕ) :
    Atomic (consumePlayerContainerItemUnit p id i) := by
  refine .bind (readOnly_playerContainers p) fun cs => ?_
  refine .bind (.ofOption _ _) fun found => ?_
  simp only
  split
  · exact (Succeeds.pure _).atomic
  · refine .bind (.ofExcept _) fun stored => ?_
    exact (succeeds_storeContainers _ _ _).atomic

theorem atomic_moveEquipmentStackToContainer (p : ℕ) (slot : EquipmentSlot) (id n : ℕ) :
    Atomic (moveEquipmentStackToContainer p slot id n) := by
  refine .bind (readOnly_playerEquipment p) fun e => ?_
  refine .bind (.ofOption _ _) fun out => ?_
  refine .bind (.ofExcept _) fun split => ?_
  refine .bind (readOnly_playerContainers p) fun cs => ?_
  refine .bind (.ofOption _ _) fun found => ?_
  refine .bind (.ofExcept _) fun merged => ?_
  refine .bind (.ofExcept _) fun stored => ?_
  exact (succeeds_storeBoth _ _ _ _).atomic

theorem atomic_moveContainerStackToEquipment (p id i : ℕ) (slot : EquipmentSlot) (n : ℕ) :
    Atomic (moveContainerStackToEquipment p id i slot n) := by
  refine .bind (readOnly_playerEquipment p) fun e => ?_
  refine .bind (readOnly_playerContainers p) fun cs => ?_
  refine .bind (.ofOption _ _) fun found => ?_
  refine .bind (.ofOption _ _) fun out => ?_
  refine .bind (.ofExcept _) fun split => ?_
  refine .bind (.ofExcept _) fun placed => ?_
  refine .bind (.ofExcept _) fun stored => ?_
  exact (succeeds_storeBoth _ _ _ _).atomic

theorem atomic_moveContainerStackToContainer (p a i b n : ℕ) :
    Atomic (moveContainerStackToContainer p a i b n) := by
  unfold moveContainerStackToContainer
  split
  · exact (ReadOnly.fail _).atomic
  · refine .bind (readOnly_playerContainers p) fun cs => ?_
    refine .bind (.ofOption _ _) fun found => ?_
    refine .bind (.ofOption _ _) fun found' => ?_
    refine .bind (.ofOption _ _) fun out => ?_
    refine .bind (.ofExcept _) fun split => ?_
    refine .bind (.ofExcept _) fun merged => ?_
    refine .bind (.ofExcept _) fun stored => ?_
    refine .bind (.ofExcept _) fun stored' => ?_
    exact (succeeds_storeContainers _ _ _).atomic

theorem atomic_takePlayerStackForGroundDrop (p : ℕ) (source : PlayerGroundDropSource) (n : ℕ) :
    Atomic (takePlayerStackForGroundDrop p source n) := by
  refine .bind (readOnly_playerEquipment p) fun e => ?_
  refine .bind (readOnly_playerContainers p) fun cs => ?_
  refine .bind (.ofExcept _) fun out => ?_
  cases source with
  | equipmentSlot slot => exact (succeeds_storeBoth _ _ _ _).atomic
  | containerItem id i => exact (succeeds_storeContainers _ _ _).atomic
  | containerContent id i j => exact (succeeds_storeContainers _ _ _).atomic

theorem atomic_executeGenericInventoryMove (p : ℕ) (plan : GenericInventoryMove) :
    Atomic (executeGenericInventoryMove p plan) := by
  refine .bind (.readOr _ _) fun player => ?_
  simp only
  split
  · exact (ReadOnly.fail _).atomic
  · refine .bind (readOnly_playerEquipment p) fun e => ?_
    refine .bind (readOnly_playerContainers p) fun cs => ?_
    refine .bind (.ofExcept _) fun detached => ?_
    refine .bind (.ofExcept _) fun placed => ?_
    exact (succeeds_storeBoth _ _ _ _).atomic

/-- The content item resolves and the target window exists and is nested. -/
def StrandsContent (cs : PlayerContainers) (id i j dst : ℕ) : Prop :=
  ∃ c x items t, cs.container id = some c ∧ c.items.takeContent i j = some (x, items) ∧
    cs.container dst = some t ∧ t.hasParent = true

variable {w w' : WorldState} {p : ℕ}

/-- **Every transfer but one is atomic.** -/
theorem atomic_perform {t : InventoryTransfer}
    (ht : ∀ id i j dst, t ≠ contentItemToContainer id i j dst) : Atomic (t.perform p) := by
  have hend {α : Type} {m : WorldM α} (f : α → Option ItemInstance) (hm : Atomic m) :
      Atomic (m >>= fun a => (pure (f a) : WorldM (Option ItemInstance))) :=
    hm.bind_succeeds fun a => .pure (f a)
  cases t with
  | equipmentItemToContainer slot id => exact hend _ (atomic_moveEquipmentItemToContainer p slot id)
  | containerItemToEquipment id i slot =>
    exact hend _ (atomic_moveContainerItemToEquipment p id i slot)
  | contentItemToEquipment id i j slot =>
    exact hend _ (atomic_moveContentItemToEquipment p id i j slot)
  | contentItemToContainer id i j dst => exact absurd rfl (ht id i j dst)
  | swapContainerItemWithEquipment id i slot =>
    exact hend _ (atomic_swapContainerItemWithEquipment p id i slot)
  | swapEquipmentItems a b => exact hend _ (atomic_swapEquipmentItems p a b)
  | consumeEquipmentItemUnit slot => exact hend _ (atomic_consumePlayerEquipmentItemUnit p slot)
  | consumeContainerItemUnit id i => exact hend _ (atomic_consumePlayerContainerItemUnit p id i)
  | equipmentStackToContainer slot id n =>
    exact hend _ (atomic_moveEquipmentStackToContainer p slot id n)
  | containerStackToEquipment id i slot n =>
    exact hend _ (atomic_moveContainerStackToEquipment p id i slot n)
  | containerStackToContainer a i b n =>
    exact hend _ (atomic_moveContainerStackToContainer p a i b n)
  | groundDrop source n => exact hend _ (atomic_takePlayerStackForGroundDrop p source n)
  | genericMove plan => exact hend _ (atomic_executeGenericInventoryMove p plan)

/-- The table in which the content item is gone is another table. -/
theorem setItems_takeContent_ne {cs : PlayerContainers} {id i j : ℕ} {c : PlayerContainer}
    {x : ItemInstance} {items : ItemContainer} (hc : cs.container id = some c)
    (hx : c.items.takeContent i j = some (x, items)) : cs.setItems id items ≠ cs := by
  obtain ⟨y, y', hy, htake, rfl⟩ := ItemContainer.takeContent_eq_some.mp hx
  obtain ⟨hj, rfl⟩ := ItemInstance.takeContent_eq_some.mp htake
  have hi : i < c.items.items.length := (List.getElem?_eq_some_iff.mp hy).1
  have hlt : j < y.contents.length := (List.getElem?_eq_some_iff.mp hj).1
  intro heq
  have hwindow : (cs.setItems id (c.items.setItem i
      { y with contents := y.contents.eraseIdx j })).container id = some c := by rw [heq, hc]
  rw [PlayerContainers.container_setItems, if_pos rfl, hc] at hwindow
  have hitems : (c.items.setItem i { y with contents := y.contents.eraseIdx j }).items =
      c.items.items := congrArg (fun c : PlayerContainer => c.items.items)
        (Option.some.inj hwindow)
  have hget : some { y with contents := y.contents.eraseIdx j } = some y := by
    rw [← hy, ← hitems]
    simp [ItemContainer.setItem, hi]
  have hlen := congrArg (fun o : Option ItemInstance => (o.elim [] (·.contents)).length) hget
  simp only [Option.elim_some, List.length_eraseIdx_of_lt hlt] at hlen
  omega

/-- **A nested target** is refused after the containers without the content item are stored. -/
theorem contentItemToContainer_strands {cs : PlayerContainers} {id i j dst : ℕ} {c t : PlayerContainer}
    {x : ItemInstance} {items : ItemContainer} (hcs : w.playerContainers[p]? = some cs)
    (hc : cs.container id = some c) (hx : c.items.takeContent i j = some (x, items))
    (ht : cs.container dst = some t) (hparent : t.hasParent = true) :
    (contentItemToContainer id i j dst).perform p w =
      (.error (.unknownPlayerContainer p dst), w.putContainers p (cs.setItems id items)) := by
  obtain ⟨t', ht', hparent'⟩ : ∃ t', (cs.setItems id items).container dst = some t' ∧
      t'.hasParent = true := by
    rw [PlayerContainers.container_setItems, ht]
    split
    · exact ⟨_, rfl, hparent⟩
    · exact ⟨t, rfl, hparent⟩
  have hback : ((cs.setItems id items).without dst).insert t' = .ok (none, cs.setItems id items) := by
    have hput := PlayerContainers.insert_without ht' t'.items
    rwa [PlayerContainers.setItems_self ht'] at hput
  have hrun : moveContentItemToContainer p id i j dst w =
      (.error (.unknownPlayerContainer p dst), w.putContainers p (cs.setItems id items)) := by
    unfold moveContentItemToContainer
    rw [bind_of_ok (playerContainers_eq_ok.mpr ⟨hcs, rfl⟩)]
    rw [bind_of_ok (ofOption_eq_ok.mpr ⟨PlayerContainers.remove_eq_some.mpr ⟨hc, rfl⟩, rfl⟩)]
    dsimp only
    rw [bind_of_ok (ofOption_eq_ok.mpr ⟨hx, rfl⟩)]
    simp only [PlayerContainers.insert_without hc]
    rw [bind_of_ok (ofExcept_apply _ w)]
    dsimp only
    rw [bind_of_ok (ofOption_eq_ok.mpr ⟨PlayerContainers.remove_eq_some.mpr ⟨ht', rfl⟩, rfl⟩)]
    simp only [hparent', if_true, hback]
    rfl
  exact bind_of_error hrun

/-- Otherwise a refusal comes before the store. -/
theorem contentItemToContainer_error {id i j dst : ℕ} {e : CoreError}
    (hno : ∀ cs, w.playerContainers[p]? = some cs → ¬StrandsContent cs id i j dst)
    (h : (contentItemToContainer id i j dst).perform p w = (.error e, w')) : w' = w := by
  have hrun : moveContentItemToContainer p id i j dst w = (.error e, w') := by
    rcases bind_eq_error.mp h with h | ⟨_, _, -, h⟩
    · exact h
    · cases h
  unfold moveContentItemToContainer at hrun
  cases hcs : w.playerContainers[p]? with
  | none =>
    rw [bind_of_error (playerContainers_of_none hcs)] at hrun
    cases hrun
    rfl
  | some cs =>
    rw [bind_of_ok (playerContainers_eq_ok.mpr ⟨hcs, rfl⟩)] at hrun
    have hno := hno cs hcs
    cases hc : cs.container id with
    | none =>
      simp only [PlayerContainers.remove, hc, Option.map_none] at hrun
      cases hrun
      rfl
    | some c =>
      rw [bind_of_ok (ofOption_eq_ok.mpr ⟨PlayerContainers.remove_eq_some.mpr ⟨hc, rfl⟩, rfl⟩)]
        at hrun
      dsimp only at hrun
      cases hx : c.items.takeContent i j with
      | none =>
        simp only [hx] at hrun
        cases hrun
        rfl
      | some out =>
        rw [bind_of_ok (ofOption_eq_ok.mpr ⟨hx, rfl⟩)] at hrun
        simp only [PlayerContainers.insert_without hc] at hrun
        rw [bind_of_ok (ofExcept_apply _ w)] at hrun
        dsimp only at hrun
        cases ht' : (cs.setItems id out.2).container dst with
        | none =>
          simp only [PlayerContainers.remove, ht', Option.map_none] at hrun
          cases hrun
          rfl
        | some t' =>
          have hroot : t'.hasParent = false := by
            rw [PlayerContainers.container_setItems] at ht'
            by_contra hparent
            rw [Bool.not_eq_false] at hparent
            cases ht : cs.container dst with
            | none =>
              rw [ht] at ht'
              split at ht' <;> cases ht'
            | some t =>
              refine hno ⟨c, out.1, out.2, t, hc, hx, ht, ?_⟩
              rw [ht] at ht'
              split at ht' <;> cases ht' <;> exact hparent
          rw [bind_of_ok (ofOption_eq_ok.mpr
            ⟨PlayerContainers.remove_eq_some.mpr ⟨ht', rfl⟩, rfl⟩)] at hrun
          simp only [hroot, Bool.false_eq_true, if_false] at hrun
          refine Atomic.bind (.ofExcept _) (fun merged => ?_) w e w' hrun
          refine .bind (.ofExcept _) fun stored => ?_
          exact (Succeeds.bind (.write _) fun _ => .write _).atomic

/-- **A refused transfer leaves the world as it was, exactly when it does not strand a content
item.** -/
theorem perform_atomic_iff (w : WorldState) (p : ℕ) (t : InventoryTransfer) :
    (∀ e w', t.perform p w = (.error e, w') → w' = w) ↔
      ∀ id i j dst, t = .contentItemToContainer id i j dst →
        ∀ cs, w.playerContainers[p]? = some cs → ¬StrandsContent cs id i j dst := by
  constructor
  · intro h id i j dst ht cs hcs hstrand
    subst ht
    obtain ⟨c, x, items, target, hc, hx, htarget, hparent⟩ := hstrand
    have hrun := contentItemToContainer_strands hcs hc hx htarget hparent
    have hsame := congrArg (fun w : WorldState => w.playerContainers[p]?) (h _ _ hrun)
    simp only [putContainers_get, if_true, hcs] at hsame
    exact setItems_takeContent_ne hc hx (Option.some.inj hsame)
  · intro h e w' hrun
    by_cases ht : ∃ id i j dst, t = .contentItemToContainer id i j dst
    · obtain ⟨id, i, j, dst, rfl⟩ := ht
      exact contentItemToContainer_error (h id i j dst rfl) hrun
    · refine atomic_perform (fun id i j dst heq => ht ⟨id, i, j, dst, heq⟩) w e w' hrun

/-- A bag with a coin in window 0, and a nested window 1. -/
def nestedTarget : PlayerContainers :=
  (PlayerContainers.empty.putBack ⟨0, ⟨1987, 1, none, none, []⟩, "bag", false,
    ⟨8, [⟨1987, 1, none, none, [⟨2148, 1, none, none, []⟩]⟩]⟩⟩).putBack
      ⟨1, ⟨1987, 1, none, none, []⟩, "bag", true, ⟨8, []⟩⟩

/-- **The coin is lost**: moving it to the nested window fails, and it is in no window. -/
theorem nestedTarget_loses : ¬∀ (w : WorldState) (p : ℕ) (t : InventoryTransfer) (e : CoreError)
    (w' : WorldState), t.perform p w = (.error e, w') → w' = w := by
  intro h
  have hrun : (contentItemToContainer 0 0 0 1).perform 1 (WorldState.empty.putContainers 1 nestedTarget)
      = (.error (.unknownPlayerContainer 1 1), (WorldState.empty.putContainers 1 nestedTarget).putContainers
        1 (nestedTarget.setItems 0 ⟨8, [⟨1987, 1, none, none, []⟩]⟩)) :=
    contentItemToContainer_strands (by simp) rfl rfl rfl rfl
  have hsame := congrArg
    (fun w : WorldState => ((w.containersOf 1).container 0).map (·.items.items)) (h _ _ _ _ _ hrun)
  exact absurd hsame (by decide)

end InventoryTransfer

end ForgottenEngine
