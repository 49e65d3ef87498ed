import ForgottenEngine.GenericMove

/-!
# What an accepted transfer does to the two inventories

`InventoryTransfer` lists the public transfer methods with their arguments, the generic move
included, and `perform` runs one of them.  `Transferred` is the same family read as a relation on
the two inventories of the player: which lookups an accepted transfer rests on, and which
equipment and containers it leaves.  It has one rule for each way a method succeeds and says
nothing about errors, tables or revisions.

* `InventoryUpdate` — what else an accepted method may touch: no other player, no player record,
  no trade;
* `perform_transferred` — **the methods refine the relation**: an accepted method is a
  `Transferred` step on its player's inventories.
-/

namespace ForgottenEngine

/-- The public inventory transfers. -/
inductive InventoryTransfer where
  | equipmentItemToContainer (fromSlot : EquipmentSlot) (containerId : ℕ)
  | containerItemToEquipment (containerId itemIndex : ℕ) (toSlot : EquipmentSlot)
  | contentItemToEquipment (containerId itemIndex contentIndex : ℕ) (toSlot : EquipmentSlot)
  | contentItemToContainer (containerId itemIndex contentIndex toContainerId : ℕ)
  | swapContainerItemWithEquipment (containerId itemIndex : ℕ) (toSlot : EquipmentSlot)
  | swapEquipmentItems (fromSlot toSlot : EquipmentSlot)
  | consumeEquipmentItemUnit (slot : EquipmentSlot)
  | consumeContainerItemUnit (containerId itemIndex : ℕ)
  | equipmentStackToContainer (fromSlot : EquipmentSlot) (containerId count : ℕ)
  | containerStackToEquipment (containerId itemIndex : ℕ) (toSlot : EquipmentSlot) (count : ℕ)
  | containerStackToContainer (fromContainerId itemIndex toContainerId count : ℕ)
  | groundDrop (source : PlayerGroundDropSource) (count : ℕ)
  | genericMove (plan : GenericInventoryMove)
deriving DecidableEq

namespace InventoryTransfer

open World

/-- Run one transfer; the result is the stack a ground drop hands to its caller. -/
def perform (playerId : ℕ) : InventoryTransfer → WorldM (Option ItemInstance)
  | equipmentItemToContainer fromSlot containerId => do
    let _ ← moveEquipmentItemToContainer playerId fromSlot containerId
    return none
  | containerItemToEquipment containerId itemIndex toSlot => do
    let _ ← moveContainerItemToEquipment playerId containerId itemIndex toSlot
    return none
  | contentItemToEquipment containerId itemIndex contentIndex toSlot => do
    let _ ← moveContentItemToEquipment playerId containerId itemIndex contentIndex toSlot
    return none
  | contentItemToContainer containerId itemIndex contentIndex toContainerId => do
    moveContentItemToContainer playerId containerId itemIndex contentIndex toContainerId
    return none
  | swapContainerItemWithEquipment containerId itemIndex toSlot => do
    let _ ← World.swapContainerItemWithEquipment playerId containerId itemIndex toSlot
    return none
  | swapEquipmentItems fromSlot toSlot => do
    let _ ← World.swapEquipmentItems playerId fromSlot toSlot
    return none
  | consumeEquipmentItemUnit slot => do
    let _ ← consumePlayerEquipmentItemUnit playerId slot
    return none
  | consumeContainerItemUnit containerId itemIndex => do
    let _ ← consumePlayerContainerItemUnit playerId containerId itemIndex
    return none
  | equipmentStackToContainer fromSlot containerId count => do
    let _ ← moveEquipmentStackToContainer playerId fromSlot containerId count
    return none
  | containerStackToEquipment containerId itemIndex toSlot count => do
    let _ ← moveContainerStackToEquipment playerId containerId itemIndex toSlot count
    return none
  | containerStackToContainer fromContainerId itemIndex toContainerId count => do
    let _ ← moveContainerStackToContainer playerId fromContainerId itemIndex toContainerId count
    return none
  | groundDrop source count => do
    let out ← takePlayerStackForGroundDrop playerId source count
    return some out.movedItem
  | genericMove plan => do
    let _ ← executeGenericInventoryMove playerId plan
    return none

attribute [grind =] perform

/-- The relation behind the methods: equipment and containers before, the transfer, the stack
handed to the caller, equipment and containers after. -/
inductive Transferred (e : PlayerEquipment) (cs : PlayerContainers) :
    InventoryTransfer → Option ItemInstance → PlayerEquipment → PlayerContainers → Prop
  | equipmentItemToContainer {slot id x c items} :
      e.item slot = some x → cs.container id = some c → c.items.insert x = .ok items →
      Transferred e cs (.equipmentItemToContainer slot id) none (e.without slot)
        (cs.setItems id items)
  | containerItemToEquipment {id i slot c x items} :
      e.item slot = none → cs.container id = some c → c.items.remove i = some (x, items) →
      Transferred e cs (.containerItemToEquipment id i slot) none (e.equip slot x).2
        (cs.setItems id items)
  | contentItemToEquipment {id i j slot c x items} :
      e.item slot = none → cs.container id = some c → c.items.takeContent i j = some (x, items) →
      Transferred e cs (.contentItemToEquipment id i j slot) none (e.equip slot x).2
        (cs.setItems id items)
  | contentItemToContainer {id i j dst c x items t d items'} :
      cs.container id = some c → c.items.takeContent i j = some (x, items) →
      (cs.setItems id items).container dst = some t → t.hasParent = false →
      t.items.mergeOrInsertStack x = .ok (d, items') →
      Transferred e cs (.contentItemToContainer id i j dst) none e
        ((cs.setItems id items).setItems dst items')
  | swapContainerItemWithEquipment {id i slot y c x items} :
      e.item slot = some y → cs.container id = some c → c.items.remove i = some (x, items) →
      Transferred e cs (.swapContainerItemWithEquipment id i slot) none
        ((e.without slot).equip slot x).2 (cs.setItems id (items.insertAt i y))
  | swapEquipmentItems {a b x y} :
      a ≠ b → e.item a = some x → e.item b = some y →
      Transferred e cs (.swapEquipmentItems a b) none
        (((((e.without a).without b).equip a y).2).equip b x).2 cs
  | consumeEquipmentNothing {slot} :
      e.item slot = none → Transferred e cs (.consumeEquipmentItemUnit slot) none e cs
  | consumeEquipmentUnit {slot x} :
      e.item slot = some x → 1 < x.count →
      Transferred e cs (.consumeEquipmentItemUnit slot) none
        (e.equip slot { x with count := x.count - 1 }).2 cs
  | consumeEquipmentLast {slot x} :
      e.item slot = some x → ¬1 < x.count →
      Transferred e cs (.consumeEquipmentItemUnit slot) none (e.without slot) cs
  | consumeContainerNothing {id i c} :
      cs.container id = some c → c.items.consumeItemUnit i = none →
      Transferred e cs (.consumeContainerItemUnit id i) none e cs
  | consumeContainerUnit {id i c items} :
      cs.container id = some c → c.items.consumeItemUnit i = some items →
      Transferred e cs (.consumeContainerItemUnit id i) none e (cs.setItems id items)
  | equipmentStackToContainer {slot id n x rest moved c d items} :
      e.item slot = some x → x.splitOff n = .ok (rest, moved) → cs.container id = some c →
      c.items.mergeOrInsertStack moved = .ok (d, items) →
      Transferred e cs (.equipmentStackToContainer slot id n) none
        ((e.without slot).keepRest slot rest) (cs.setItems id items)
  | containerStackToEquipment {id i slot n c x items rest moved d e'} :
      cs.container id = some c → c.items.remove i = some (x, items) →
      x.splitOff n = .ok (rest, moved) → e.placeStack slot moved = .ok (d, e') →
      Transferred e cs (.containerStackToEquipment id i slot n) none e'
        (cs.setItems id (items.keepRest i rest))
  | containerStackToContainer {a i b n ca cb x items rest moved d items'} :
      a ≠ b → cs.container a = some ca → cs.container b = some cb →
      ca.items.remove i = some (x, items) → x.splitOff n = .ok (rest, moved) →
      cb.items.mergeOrInsertStack moved = .ok (d, items') →
      Transferred e cs (.containerStackToContainer a i b n) none e
        ((cs.setItems a (items.keepRest i rest)).setItems b items')
  | dropEquipment {slot n x rest moved} :
      e.item slot = some x → x.splitOff n = .ok (rest, moved) →
      Transferred e cs (.groundDrop (.equipmentSlot slot) n) (some moved)
        ((e.without slot).keepRest slot rest) cs
  | dropContainerItem {id i n c x items rest moved} :
      cs.container id = some c → c.items.remove i = some (x, items) →
      x.splitOff n = .ok (rest, moved) →
      Transferred e cs (.groundDrop (.containerItem id i) n) (some moved) e
        (cs.setItems id (items.keepRest i rest))
  | dropContainerContent {id i j n c x items rest moved} :
      cs.container id = some c → c.items.takeContent i j = some (x, items) →
      x.splitOff n = .ok (rest, moved) →
      Transferred e cs (.groundDrop (.containerContent id i j) n) (some moved) e
        (cs.setItems id items)
  | genericMove {p plan x n e₁ cs₁ placement e₂ cs₂} :
      plan.sameSlot = none →
      detachMovedItem p plan.sourceKind plan.sourceCount e cs = .ok (x, n, e₁, cs₁) →
      placeMovedItem p plan.sourceKind plan.target x e₁ cs₁ = .ok (placement, e₂, cs₂) →
      Transferred e cs (.genericMove plan) none e₂ cs₂

end InventoryTransfer

namespace WorldState

/-- `w'` is `w` with other inventories for `playerId` and another revision. -/
structure InventoryUpdate (w : WorldState) (playerId : ℕ) (e : PlayerEquipment)
    (cs : PlayerContainers) (w' : WorldState) : Prop where
  equipment : w'.equipmentOf playerId = e
  containers : w'.containersOf playerId = cs
  otherEquipment : ∀ q, q ≠ playerId → w'.playerEquipments[q]? = w.playerEquipments[q]?
  otherContainers : ∀ q, q ≠ playerId → w'.playerContainers[q]? = w.playerContainers[q]?
  players : w'.players = w.players
  respawn : w'.playerRespawnStates = w.playerRespawnStates
  trades : w'.activeTrades = w.activeTrades
  tick : w'.tick = w.tick

theorem InventoryUpdate.refl (w : WorldState) (p : ℕ) :
    w.InventoryUpdate p (w.equipmentOf p) (w.containersOf p) w := by
  constructor <;> simp

theorem InventoryUpdate.commit (w : WorldState) (p : ℕ) (e : PlayerEquipment)
    (cs : PlayerContainers) : w.InventoryUpdate p e cs (w.commit p e cs) := by
  constructor <;> intros <;>
    simp_all [WorldState.commit, equipmentOf, containersOf, putEquipment_get, putContainers_get,
      eq_comm] <;> rfl

theorem InventoryUpdate.equipmentOnly (w : WorldState) (p : ℕ) (e : PlayerEquipment) :
    w.InventoryUpdate p e (w.containersOf p) (w.putEquipment p e).markChanged := by
  constructor <;> intros <;> simp_all [equipmentOf, containersOf, eq_comm] <;> rfl

theorem InventoryUpdate.containersOnly (w : WorldState) (p : ℕ) (cs : PlayerContainers) :
    w.InventoryUpdate p (w.equipmentOf p) cs (w.putContainers p cs).markChanged := by
  constructor <;> intros <;> simp_all [equipmentOf, containersOf, eq_comm] <;> rfl

end WorldState

namespace InventoryTransfer

open Fallible World WorldState

/-- What is claimed of an accepted transfer: a `Transferred` step on the inventories of the
player, and no other change. -/
def Accepted (p : ℕ) (w : WorldState) (t : InventoryTransfer) (r : Option ItemInstance)
    (w' : WorldState) : Prop :=
  ∃ e cs, Transferred (w.equipmentOf p) (w.containersOf p) t r e cs ∧ w.InventoryUpdate p e cs w'

variable {w w' : WorldState} {p : ℕ} {r : Option ItemInstance}

theorem perform_equipmentItemToContainer {slot : EquipmentSlot} {id : ℕ}
    (h : (equipmentItemToContainer slot id).perform p w = (.ok r, w')) :
    Accepted p w (equipmentItemToContainer slot id) r w' := by
  simp [perform, moveEquipmentItemToContainer] at h
  obtain ⟨⟨e, he, cs, hcs, x, hx, c, hc, items, hins, o, cs', hput, rfl⟩, rfl⟩ := h
  rw [PlayerContainers.insert_without hc] at hput
  cases hput
  refine ⟨_, _, ?_, .commit w p _ _⟩
  rw [equipmentOf_eq he, containersOf_eq hcs]
  exact .equipmentItemToContainer hx hc hins

theorem perform_containerItemToEquipment {id i : ℕ} {slot : EquipmentSlot}
    (h : (containerItemToEquipment id i slot).perform p w = (.ok r, w')) :
    Accepted p w (containerItemToEquipment id i slot) r w' := by
  simp [perform, moveContainerItemToEquipment] at h
  obtain ⟨⟨e, he, hslot, cs, hcs, c, hc, x, hx, o, cs', hput, rfl⟩, rfl⟩ := h
  rw [PlayerContainers.insert_without hc] at hput
  cases hput
  refine ⟨_, _, ?_, .commit w p _ _⟩
  rw [equipmentOf_eq he, containersOf_eq hcs]
  exact .containerItemToEquipment hslot hc (ItemContainer.remove_eq_some.mpr ⟨hx, rfl⟩)

theorem perform_contentItemToEquipment {id i j : ℕ} {slot : EquipmentSlot}
    (h : (contentItemToEquipment id i j slot).perform p w = (.ok r, w')) :
    Accepted p w (contentItemToEquipment id i j slot) r w' := by
  simp [perform, moveContentItemToEquipment] at h
  obtain ⟨⟨e, he, hslot, cs, hcs, c, hc, x, items, hx, o, cs', hput, rfl⟩, rfl⟩ := h
  rw [PlayerContainers.insert_without hc] at hput
  cases hput
  refine ⟨_, _, ?_, .commit w p _ _⟩
  rw [equipmentOf_eq he, containersOf_eq hcs]
  exact .contentItemToEquipment hslot hc hx

theorem perform_contentItemToContainer {id i j dst : ℕ}
    (h : (contentItemToContainer id i j dst).perform p w = (.ok r, w')) :
    Accepted p w (contentItemToContainer id i j dst) r w' := by
  simp [perform, moveContentItemToContainer] at h
  obtain ⟨⟨_, cs, hcs, c, hc, x, items, hx, o, cs', hput, t, ht, h⟩, rfl⟩ := h
  rw [PlayerContainers.insert_without hc] at hput
  cases hput
  split at h
  · simp at h
  · rename_i hroot
    simp at h
    obtain ⟨d, n, items', hmerge, o', cs₂, hput, rfl⟩ := h
    rw [PlayerContainers.insert_without ht] at hput
    cases hput
    refine ⟨_, _, ?_, .containersOnly w p _⟩
    rw [containersOf_eq hcs]
    exact .contentItemToContainer hc hx ht (by simpa using hroot) hmerge

theorem perform_swapContainerItemWithEquipment {id i : ℕ} {slot : EquipmentSlot}
    (h : (swapContainerItemWithEquipment id i slot).perform p w = (.ok r, w')) :
    Accepted p w (swapContainerItemWithEquipment id i slot) r w' := by
  simp [perform, World.swapContainerItemWithEquipment] at h
  obtain ⟨⟨e, he, y, hy, cs, hcs, c, hc, x, hx, o, cs', hput, rfl⟩, rfl⟩ := h
  rw [PlayerContainers.insert_without hc] at hput
  cases hput
  refine ⟨_, _, ?_, .commit w p _ _⟩
  rw [equipmentOf_eq he, containersOf_eq hcs]
  exact .swapContainerItemWithEquipment hy hc (ItemContainer.remove_eq_some.mpr ⟨hx, rfl⟩)

theorem perform_swapEquipmentItems {a b : EquipmentSlot}
    (h : (swapEquipmentItems a b).perform p w = (.ok r, w')) :
    Accepted p w (swapEquipmentItems a b) r w' := by
  simp [perform, World.swapEquipmentItems] at h
  obtain ⟨⟨hab, e, he, x, hx, y, hy, rfl⟩, rfl⟩ := h
  refine ⟨_, _, ?_, .equipmentOnly w p _⟩
  rw [equipmentOf_eq he]
  exact .swapEquipmentItems hab hx hy.2

theorem perform_consumeEquipmentItemUnit {slot : EquipmentSlot}
    (h : (consumeEquipmentItemUnit slot).perform p w = (.ok r, w')) :
    Accepted p w (consumeEquipmentItemUnit slot) r w' := by
  simp only [perform, consumePlayerEquipmentItemUnit, bind_eq_ok, playerEquipment_eq_ok,
    pure_apply, Prod.mk.injEq, Except.ok.injEq] at h
  obtain ⟨_, _, ⟨e, _, ⟨he, rfl⟩, h⟩, rfl, rfl⟩ := h
  cases hslot : e.item slot with
  | none =>
    simp [hslot] at h
    obtain ⟨-, rfl⟩ := h
    refine ⟨_, _, .consumeEquipmentNothing ?_, .refl _ p⟩
    rw [equipmentOf_eq he, hslot]
  | some x =>
    simp [hslot] at h
    obtain ⟨-, rfl⟩ := h
    refine ⟨_, _, ?_, .equipmentOnly _ p _⟩
    rw [equipmentOf_eq he]
    by_cases hx : 1 < x.count
    · rw [if_pos hx]; exact .consumeEquipmentUnit hslot hx
    · rw [if_neg hx]; exact .consumeEquipmentLast hslot hx

theorem perform_consumeContainerItemUnit {id i : ℕ}
    (h : (consumeContainerItemUnit id i).perform p w = (.ok r, w')) :
    Accepted p w (consumeContainerItemUnit id i) r w' := by
  simp only [perform, consumePlayerContainerItemUnit, bind_eq_ok, playerContainers_eq_ok,
    ofOption_eq_ok, pure_apply, Prod.mk.injEq, Except.ok.injEq] at h
  obtain ⟨_, _, ⟨cs, _, ⟨hcs, rfl⟩, ⟨c, cs'⟩, _, ⟨hremove, rfl⟩, h⟩, rfl, rfl⟩ := h
  obtain ⟨hc, rfl⟩ := PlayerContainers.remove_eq_some.mp hremove
  cases hcons : c.items.consumeItemUnit i with
  | none =>
    simp [hcons] at h
    obtain ⟨-, rfl⟩ := h
    refine ⟨_, _, ?_, .refl _ p⟩
    rw [containersOf_eq hcs]
    exact .consumeContainerNothing hc hcons
  | some items =>
    simp [hcons, PlayerContainers.insert_without hc] at h
    obtain ⟨-, rfl⟩ := h
    refine ⟨_, _, ?_, .containersOnly _ p _⟩
    rw [containersOf_eq hcs]
    exact .consumeContainerUnit hc hcons

theorem perform_equipmentStackToContainer {slot : EquipmentSlot} {id n : ℕ}
    (h : (equipmentStackToContainer slot id n).perform p w = (.ok r, w')) :
    Accepted p w (equipmentStackToContainer slot id n) r w' := by
  simp [perform, moveEquipmentStackToContainer] at h
  obtain ⟨⟨e, he, x, hx, rest, moved, hsplit, cs, hcs, c, hc, d, k, items, hmerge, o, cs', hput,
    rfl⟩, rfl⟩ := h
  rw [PlayerContainers.insert_without hc] at hput
  cases hput
  refine ⟨_, _, ?_, .commit w p _ _⟩
  rw [equipmentOf_eq he, containersOf_eq hcs]
  exact .equipmentStackToContainer hx hsplit hc hmerge

theorem perform_containerStackToEquipment {id i n : ℕ} {slot : EquipmentSlot}
    (h : (containerStackToEquipment id i slot n).perform p w = (.ok r, w')) :
    Accepted p w (containerStackToEquipment id i slot n) r w' := by
  simp [perform, moveContainerStackToEquipment] at h
  obtain ⟨⟨e, he, cs, hcs, c, hc, x, hx, rest, moved, hsplit, k, e', hplace, o, cs', hput,
    rfl⟩, rfl⟩ := h
  rw [PlayerContainers.insert_without hc] at hput
  cases hput
  refine ⟨_, _, ?_, .commit w p _ _⟩
  rw [equipmentOf_eq he, containersOf_eq hcs]
  exact .containerStackToEquipment hc (ItemContainer.remove_eq_some.mpr ⟨hx, rfl⟩) hsplit hplace

theorem perform_containerStackToContainer {a i b n : ℕ}
    (h : (containerStackToContainer a i b n).perform p w = (.ok r, w')) :
    Accepted p w (containerStackToContainer a i b n) r w' := by
  simp [perform, moveContainerStackToContainer] at h
  obtain ⟨⟨hab, cs, hcs, ca, ha, cb, hb, x, hx, rest, moved, hsplit, d, k, items', hmerge, o, cs₁,
    hput, o', cs₂, hput', rfl⟩, rfl⟩ := h
  rw [PlayerContainers.container_without, if_neg hab] at hb
  rw [PlayerContainers.insert_without_without hab ha] at hput
  cases hput
  rw [PlayerContainers.insert_without (by simpa [hab] using hb)] at hput'
  cases hput'
  refine ⟨_, _, ?_, .containersOnly w p _⟩
  rw [containersOf_eq hcs]
  exact .containerStackToContainer hab ha hb (ItemContainer.remove_eq_some.mpr ⟨hx, rfl⟩) hsplit
    hmerge

/-- What the local copies of a ground drop hold at its end. -/
theorem prepareGroundDrop_transferred {source : PlayerGroundDropSource} {n : ℕ}
    {e e' : PlayerEquipment} {cs cs' : PlayerContainers} {moved : ItemInstance} {k : Option ℕ}
    (h : prepareGroundDrop p source n e cs = .ok (moved, k, e', cs')) :
    Transferred e cs (.groundDrop source n) (some moved) e' cs' := by
  cases source with
  | equipmentSlot slot =>
    cases hx : e.item slot with
    | none => simp [prepareGroundDrop, PlayerEquipment.unequip, hx, bind, Except.bind] at h
    | some x =>
      simp [prepareGroundDrop, PlayerEquipment.unequip, hx, except_bind_eq_ok] at h
      obtain ⟨rest, hsplit, -, rfl, rfl⟩ := h
      exact .dropEquipment hx hsplit
  | containerItem id i =>
    cases hc : cs.container id with
    | none => simp [prepareGroundDrop, PlayerContainers.remove, hc, bind, Except.bind] at h
    | some c =>
      cases hx : c.items.remove i with
      | none => simp [prepareGroundDrop, PlayerContainers.remove, hc, hx, bind, Except.bind] at h
      | some out =>
        simp [prepareGroundDrop, PlayerContainers.remove, hc, hx, except_bind_eq_ok,
          PlayerContainers.insert_without hc] at h
        obtain ⟨x, items, rfl, rest, hsplit, rfl, -, rfl⟩ := h
        exact .dropContainerItem hc hx hsplit
  | containerContent id i j =>
    cases hc : cs.container id with
    | none => simp [prepareGroundDrop, PlayerContainers.remove, hc, bind, Except.bind] at h
    | some c =>
      cases hx : c.items.takeContent i j with
      | none => simp [prepareGroundDrop, PlayerContainers.remove, hc, hx, bind, Except.bind] at h
      | some out =>
        simp [prepareGroundDrop, PlayerContainers.remove, hc, hx, except_bind_eq_ok,
          PlayerContainers.insert_without hc] at h
        obtain ⟨x, items, rfl, ⟨rest, hsplit⟩, rfl, -, rfl⟩ := h
        exact .dropContainerContent hc hx hsplit

theorem perform_groundDrop {source : PlayerGroundDropSource} {n : ℕ}
    (h : (groundDrop source n).perform p w = (.ok r, w')) :
    Accepted p w (groundDrop source n) r w' := by
  simp only [perform, takePlayerStackForGroundDrop, bind_eq_ok, playerEquipment_eq_ok,
    playerContainers_eq_ok, ofExcept_apply, pure_apply, Prod.mk.injEq, Except.ok.injEq] at h
  obtain ⟨out, _, ⟨e, _, ⟨he, rfl⟩, cs, _, ⟨hcs, rfl⟩, ⟨moved, k, e', cs'⟩, _, ⟨hprep, rfl⟩, h⟩,
    rfl, rfl⟩ := h
  have ht := prepareGroundDrop_transferred hprep
  rw [← equipmentOf_eq he, ← containersOf_eq hcs] at ht
  cases source with
  | equipmentSlot slot =>
    simp at h
    obtain ⟨rfl, rfl⟩ := h
    exact ⟨_, _, ht, .commit _ p _ _⟩
  | containerItem id i =>
    simp at h
    obtain ⟨rfl, rfl⟩ := h
    cases ht with
    | dropContainerItem hc hx hsplit =>
      exact ⟨_, _, .dropContainerItem hc hx hsplit, .containersOnly _ p _⟩
  | containerContent id i j =>
    simp at h
    obtain ⟨rfl, rfl⟩ := h
    cases ht with
    | dropContainerContent hc hx hsplit =>
      exact ⟨_, _, .dropContainerContent hc hx hsplit, .containersOnly _ p _⟩

theorem perform_genericMove {plan : GenericInventoryMove}
    (h : (genericMove plan).perform p w = (.ok r, w')) :
    Accepted p w (genericMove plan) r w' := by
  cases hsame : plan.sameSlot with
  | some slot => simp [perform, executeGenericInventoryMove, hsame] at h
  | none =>
    simp [perform, executeGenericInventoryMove, hsame] at h
    obtain ⟨⟨_, e, he, cs, hcs, x, n, e₁, cs₁, hdet, place, e₂, cs₂, hplace, rfl⟩,
      rfl⟩ := h
    refine ⟨_, _, ?_, .commit w p _ _⟩
    rw [equipmentOf_eq he, containersOf_eq hcs]
    exact .genericMove hsame hdet hplace

/-- **The methods refine the relation.** -/
theorem perform_transferred {t : InventoryTransfer} (h : t.perform p w = (.ok r, w')) :
    Accepted p w t r w' := by
  cases t with
  | equipmentItemToContainer => exact perform_equipmentItemToContainer h
  | containerItemToEquipment => exact perform_containerItemToEquipment h
  | contentItemToEquipment => exact perform_contentItemToEquipment h
  | contentItemToContainer => exact perform_contentItemToContainer h
  | swapContainerItemWithEquipment => exact perform_swapContainerItemWithEquipment h
  | swapEquipmentItems => exact perform_swapEquipmentItems h
  | consumeEquipmentItemUnit => exact perform_consumeEquipmentItemUnit h
  | consumeContainerItemUnit => exact perform_consumeContainerItemUnit h
  | equipmentStackToContainer => exact perform_equipmentStackToContainer h
  | containerStackToEquipment => exact perform_containerStackToEquipment h
  | containerStackToContainer => exact perform_containerStackToContainer h
  | groundDrop => exact perform_groundDrop h
  | genericMove => exact perform_genericMove h

end InventoryTransfer

end ForgottenEngine
