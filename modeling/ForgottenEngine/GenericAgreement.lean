import ForgottenEngine.TransferOutcomes
import ForgottenEngine.TradeSessions

/-!
# The generic move against the specialised ones

The generic move is documented as the primitive every public transfer resolves to.  `genericPlan`
is the plan that describes a specialised move, and the two *agree* on a player of a world when both
are refused, or both are accepted and leave the same equipment and containers.

They are separate implementations.  `agrees_iff` says for each specialised move exactly on which
inventories they agree.  The differences are

* the generic move asks for a registered player and both inventories, and moves no empty stack;
* from equipment to a container it merges where the specialised move appends;
* a swap with a container item puts the displaced item at the end of the container instead of the
  freed position;
* a swap of two slots loses the displaced item, and is accepted with an empty target;
* a part of a stack cannot be merged into an occupied slot;
* source and target may be the same container;
* there is no plan for a content item.
-/

namespace ForgottenEngine

open World WorldState

namespace InventoryTransfer

/-- The plan with the same source, count and destination. -/
def genericPlan : InventoryTransfer → Option GenericInventoryMove
  | equipmentItemToContainer slot id => some ⟨.equipment slot, none, .container id⟩
  | containerItemToEquipment id i slot => some ⟨.container id i, none, .equipment slot false⟩
  | swapContainerItemWithEquipment id i slot => some ⟨.container id i, none, .equipment slot true⟩
  | swapEquipmentItems a b => some ⟨.equipment a, none, .equipment b true⟩
  | equipmentStackToContainer slot id n => some ⟨.equipment slot, some n, .container id⟩
  | containerStackToEquipment id i slot n => some ⟨.container id i, some n, .equipment slot false⟩
  | containerStackToContainer a i b n => some ⟨.container a i, some n, .container b⟩
  | _ => none

/-- A plan corresponds to the move, and both have the same outcome. -/
def Agrees (w : WorldState) (p : ℕ) (t : InventoryTransfer) : Prop :=
  ∃ plan, genericPlan t = some plan ∧ outcome w p t = outcome w p (.genericMove plan)

/-- The generic move would take the whole stack of this player. -/
def MovesWhole (w : WorldState) (p : ℕ) (x : ItemInstance) : Prop :=
  (w.players[p]?).isSome = true ∧ 0 < x.count

/-- The inventories on which a specialised move and its plan agree. -/
def AgreesWhen (w : WorldState) (p : ℕ) : InventoryTransfer → Prop
  | equipmentItemToContainer slot id =>
    ∀ e, w.playerEquipments[p]? = some e → ∀ cs, w.playerContainers[p]? = some cs →
      ∀ x, e.item slot = some x → ∀ c, cs.container id = some c →
        if c.items.holdsStackOf x then
          c.items.isFull = true ∧ ¬(MovesWhole w p x ∧ c.items.hasRoomFor x = true)
        else c.items.isFull = true ∨ MovesWhole w p x
  | containerItemToEquipment id i slot =>
    ∀ e, w.playerEquipments[p]? = some e → ∀ cs, w.playerContainers[p]? = some cs →
      ∀ c, cs.container id = some c → ∀ x items, c.items.remove i = some (x, items) →
        e.item slot = none → MovesWhole w p x
  | swapContainerItemWithEquipment id i slot =>
    ∀ e, w.playerEquipments[p]? = some e → ∀ cs, w.playerContainers[p]? = some cs →
      ∀ c, cs.container id = some c → ∀ x items, c.items.remove i = some (x, items) →
        match e.item slot with
        | none => ¬MovesWhole w p x
        | some y => MovesWhole w p x ∧ items.isFull = false ∧ ∀ z ∈ items.items.drop i, z = y
  | swapEquipmentItems a b =>
    a ≠ b → ∀ e, w.playerEquipments[p]? = some e → ∀ x, e.item a = some x →
      e.item b = none ∧ ¬(MovesWhole w p x ∧ (w.playerContainers[p]?).isSome = true)
  | equipmentStackToContainer slot id n =>
    ∀ e, w.playerEquipments[p]? = some e → ∀ cs, w.playerContainers[p]? = some cs →
      ∀ x, e.item slot = some x → ∀ c, cs.container id = some c → 0 < n → n ≤ x.count →
        c.items.takesIn { x with count := n } = true → (w.players[p]?).isSome = true
  | containerStackToEquipment id i slot n =>
    ∀ e, w.playerEquipments[p]? = some e → ∀ cs, w.playerContainers[p]? = some cs →
      ∀ c, cs.container id = some c → ∀ x items, c.items.remove i = some (x, items) →
        0 < n → n ≤ x.count →
          match e.item slot with
          | none => (w.players[p]?).isSome = true
          | some y => ¬(y.kind = x.kind ∧ y.count + n ≤ maxItemStackCount)
  | containerStackToContainer a i b n =>
    ∀ cs, w.playerContainers[p]? = some cs → ∀ ca, cs.container a = some ca →
      ∀ x items, ca.items.remove i = some (x, items) → 0 < n → n ≤ x.count →
        if a = b then
          ¬((w.players[p]?).isSome = true ∧ (w.playerEquipments[p]?).isSome = true ∧
            (items.keepRest i { x with count := x.count - n }).takesIn { x with count := n } = true)
        else
          ∀ cb, cs.container b = some cb → cb.items.takesIn { x with count := n } = true →
            (w.players[p]?).isSome = true ∧ (w.playerEquipments[p]?).isSome = true
  | _ => False

variable {w : WorldState} {p : ℕ}

/-! ### What decides each comparison -/

theorem mergeOrInsertStack_toOption_eq_none {c : ItemContainer} {x : ItemInstance} :
    (c.mergeOrInsertStack x).toOption = none ↔ c.takesIn x = false := by
  rw [← Bool.not_eq_true, ← ItemContainer.mergeOrInsertStack_isOk]
  cases c.mergeOrInsertStack x <;> simp [Except.toOption]

theorem takesIn_eq (c : ItemContainer) (x : ItemInstance) :
    c.takesIn x = (c.mergeOrInsertStack x).toOption.isSome := by
  have hnone := mergeOrInsertStack_toOption_eq_none (c := c) (x := x)
  cases hm : (c.mergeOrInsertStack x).toOption with
  | none => rw [hnone.mp hm]; rfl
  | some out =>
    rw [hm] at hnone
    simpa using hnone

theorem insert_toOption (c : ItemContainer) (x : ItemInstance) : (c.insert x).toOption =
    if c.isFull then none else some { c with items := c.items ++ [x] } := by
  unfold ItemContainer.insert ItemContainer.isFull
  by_cases hfull : c.capacity ≤ c.items.length
  · simp [hfull, Except.toOption]
  · simp [hfull, Except.toOption]

/-- Without a compatible stack, storing is appending. -/
theorem mergeOrInsertStack_fresh {c : ItemContainer} {x : ItemInstance}
    (h : c.holdsStackOf x = false) :
    (c.mergeOrInsertStack x).toOption.map Prod.snd = (c.insert x).toOption := by
  have htakes : c.takesIn x = !c.isFull := by rw [ItemContainer.takesIn, h]; rfl
  rw [insert_toOption]
  cases hm : c.mergeOrInsertStack x with
  | error err =>
    have hnone : (c.mergeOrInsertStack x).toOption = none := by rw [hm]; rfl
    rw [mergeOrInsertStack_toOption_eq_none, htakes] at hnone
    simp at hnone
    simp [hnone, Except.toOption]
  | ok out =>
    rcases ItemContainer.mergeOrInsertStack_eq_ok hm with ⟨i, y, hi, hk, -⟩ | ⟨-, hlt, -, hc'⟩
    · have hstack : c.holdsStackOf x = true :=
        ItemContainer.holdsStackOf_iff.mpr ⟨y, List.mem_of_getElem? hi, hk⟩
      rw [h] at hstack
      cases hstack
    · have hroom : c.isFull = false := by simpa [ItemContainer.isFull] using hlt
      simp [hroom, Except.toOption, hc']

/-- With a compatible stack, storing adds no entry. -/
theorem length_mergeOrInsertStack {c items : ItemContainer} {x : ItemInstance} {d : ℕ × ℕ}
    (h : c.holdsStackOf x = true) (hm : c.mergeOrInsertStack x = .ok (d, items)) :
    items.items.length = c.items.length := by
  rcases ItemContainer.mergeOrInsertStack_eq_ok hm with ⟨i, y, -, -, -, -, rfl⟩ | ⟨hfresh, -⟩
  · simp [ItemContainer.setItem]
  · obtain ⟨y, hy, hk⟩ := ItemContainer.holdsStackOf_iff.mp h
    exact absurd hk (hfresh y hy)

theorem setItems_inj {cs : PlayerContainers} {id : ℕ} {c : PlayerContainer} {a b : ItemContainer}
    (hc : cs.container id = some c) : cs.setItems id a = cs.setItems id b ↔ a = b := by
  constructor
  · intro h
    have hget := congrArg (fun cs : PlayerContainers => (cs.container id).map (·.items)) h
    simpa [hc] using hget
  · intro h
    rw [h]

theorem splitOff_whole (x : ItemInstance) : (x.splitOff x.count).toOption =
    if 0 < x.count then some ({ x with count := 0 }, x) else none := by
  rw [splitOff_toOption]
  cases x
  simp

/-- Appending an item is inserting it before others exactly when the others are equal to it. -/
theorem append_eq_insertIdx_iff {α : Type} (m : List α) (y : α) {i : ℕ} (hi : i ≤ m.length) :
    m ++ [y] = m.insertIdx i y ↔ ∀ z ∈ m.drop i, z = y := by
  induction m generalizing i with
  | nil =>
    have h0 : i = 0 := by simpa using hi
    subst h0
    simp
  | cons z m ih =>
    cases i with
    | zero =>
      have hrest := ih (Nat.zero_le _)
      simp only [List.insertIdx_zero, List.drop_zero] at hrest ⊢
      rw [List.cons_append, List.cons.injEq, List.forall_mem_cons, ← hrest]
      refine and_congr_right fun hz => ?_
      rw [hz]
    | succ i =>
      have hle : i ≤ m.length := by simpa using hi
      rw [List.cons_append, List.insertIdx_succ_cons, List.cons.injEq, List.drop_succ_cons, ← ih hle]
      exact and_iff_right rfl

/-- Appending and storing an item come to the same thing unless a compatible stack gets in the
way. -/
theorem insert_eq_merge_iff (c : ItemContainer) (x : ItemInstance) :
    (c.insert x).toOption = (c.mergeOrInsertStack x).toOption.map Prod.snd ↔
      (c.holdsStackOf x = true → c.isFull = true ∧ c.hasRoomFor x = false) := by
  cases hstack : c.holdsStackOf x with
  | false => simp [mergeOrInsertStack_fresh hstack]
  | true =>
    have htakes : c.takesIn x = c.hasRoomFor x := by rw [ItemContainer.takesIn, hstack]; rfl
    simp only [forall_true_left, insert_toOption, ← htakes]
    cases hm : c.mergeOrInsertStack x with
    | error err =>
      have hnone := mergeOrInsertStack_toOption_eq_none (c := c) (x := x)
      rw [hm] at hnone
      have hroom : c.takesIn x = false := hnone.mp rfl
      cases c.isFull <;> simp [hroom, Except.toOption]
    | ok out =>
      have hroom : c.takesIn x = true := ItemContainer.mergeOrInsertStack_isOk.mp ⟨out, hm⟩
      have hlen := length_mergeOrInsertStack hstack hm
      have hne : (⟨c.capacity, c.items ++ [x]⟩ : ItemContainer) ≠ out.2 := by
        intro heq
        rw [← heq] at hlen
        simp at hlen
      cases c.isFull <;> simp [hroom, Except.toOption, hne]

/-- Two lookups of the same thing agree when they do so for what is found. -/
theorem bind_eq_iff {α β : Type} {o : Option α} {f g : α → Option β} {P : α → Prop}
    (h : ∀ a, o = some a → (f a = g a ↔ P a)) : o.bind f = o.bind g ↔ ∀ a, o = some a → P a := by
  cases o with
  | none => simp
  | some a => simpa using h a rfl

/-- The same for a lookup of a pair. -/
theorem bind_eq_iff₂ {α β γ : Type} {o : Option (α × β)} {f g : α × β → Option γ} {P : α → β → Prop}
    (h : ∀ a b, o = some (a, b) → (f (a, b) = g (a, b) ↔ P a b)) :
    o.bind f = o.bind g ↔ ∀ a b, o = some (a, b) → P a b := by
  rw [bind_eq_iff (P := fun out => P out.1 out.2) fun out hout => h out.1 out.2 hout]
  exact Prod.forall

/-- Taking a whole stack, when the generic move does it. -/
theorem bind_whole {α : Type} {x : ItemInstance} (h : MovesWhole w p x)
    (k : ItemInstance × ItemInstance → Option α) :
    ((w.players[p]?).bind fun _ => (x.splitOff x.count).toOption.bind k) =
      k ({ x with count := 0 }, x) := by
  obtain ⟨player, hplayer⟩ := Option.isSome_iff_exists.mp h.1
  rw [hplayer, splitOff_whole, if_pos h.2]
  rfl

theorem bind_whole_none {α : Type} {x : ItemInstance} (h : ¬MovesWhole w p x)
    (k : ItemInstance × ItemInstance → Option α) :
    ((w.players[p]?).bind fun _ => (x.splitOff x.count).toOption.bind k) = none := by
  cases hplayer : w.players[p]? with
  | none => rfl
  | some player =>
    have hcount : ¬0 < x.count := fun hpos => h ⟨by rw [hplayer]; rfl, hpos⟩
    rw [splitOff_whole, if_neg hcount]
    rfl

/-- Taking `n` units, for both kinds of move. -/
theorem bind_part_iff {α : Type} {x : ItemInstance} {n : ℕ}
    {f g : ItemInstance × ItemInstance → Option α} {P : Prop}
    (h : 0 < n → n ≤ x.count → (f ({ x with count := x.count - n }, { x with count := n }) =
      g ({ x with count := x.count - n }, { x with count := n }) ↔ P)) :
    (x.splitOff n).toOption.bind f = (x.splitOff n).toOption.bind g ↔ (0 < n → n ≤ x.count → P) := by
  rw [splitOff_toOption]
  by_cases hn : 0 < n ∧ n ≤ x.count
  · rw [if_pos hn]
    simpa [hn.1, hn.2] using h hn.1 hn.2
  · rw [if_neg hn]
    simp only [Option.bind_none, true_iff]
    intro hpos hle
    exact absurd ⟨hpos, hle⟩ hn

/-! ### From equipment to a container -/

theorem agrees_equipmentItemToContainer (slot : EquipmentSlot) (id : ℕ) :
    outcome w p (.equipmentItemToContainer slot id) =
        outcome w p (.genericMove ⟨.equipment slot, none, .container id⟩) ↔
      AgreesWhen w p (.equipmentItemToContainer slot id) := by
  rw [outcome_equipmentItemToContainer, outcome_generic_toContainer]
  refine bind_eq_iff fun e _ => bind_eq_iff fun cs _ => bind_eq_iff fun x _ => bind_eq_iff fun c hc => ?_
  simp only [Option.getD_none, Option.bind_eq_bind]
  by_cases hgo : MovesWhole w p x
  · rw [bind_whole hgo]
    have hinj : Function.Injective fun items => (e.without slot, cs.setItems id items) := by
      intro a b hab
      exact (setItems_inj hc).mp (congrArg Prod.snd hab)
    have hstore : ((c.items.mergeOrInsertStack x).toOption.bind fun m =>
        some ((e.without slot).keepRest slot { x with count := 0 }, cs.setItems id m.2)) =
        ((c.items.mergeOrInsertStack x).toOption.map Prod.snd).map
          fun items => (e.without slot, cs.setItems id items) := by
      rw [keepRest_of_zero _ _ rfl]
      cases (c.items.mergeOrInsertStack x).toOption <;> rfl
    have happend : ((c.items.insert x).toOption.bind fun items =>
        some (e.without slot, cs.setItems id items)) =
        (c.items.insert x).toOption.map fun items => (e.without slot, cs.setItems id items) := by
      cases (c.items.insert x).toOption <;> rfl
    rw [hstore, happend, (Option.map_injective hinj).eq_iff, insert_eq_merge_iff]
    cases c.items.holdsStackOf x <;> simp [hgo]
  · rw [bind_whole_none hgo, insert_toOption]
    cases c.items.isFull <;> simp [hgo]

theorem agrees_equipmentStackToContainer (slot : EquipmentSlot) (id n : ℕ) :
    outcome w p (.equipmentStackToContainer slot id n) =
        outcome w p (.genericMove ⟨.equipment slot, some n, .container id⟩) ↔
      AgreesWhen w p (.equipmentStackToContainer slot id n) := by
  rw [outcome_equipmentStackToContainer, outcome_generic_toContainer]
  refine bind_eq_iff fun e _ => bind_eq_iff fun cs _ => bind_eq_iff fun x _ => bind_eq_iff fun c hc => ?_
  simp only [Option.getD_some, Option.bind_eq_bind]
  rw [Option.bind_comm (w.players[p]?)]
  refine bind_part_iff fun _ _ => ?_
  cases hplayer : w.players[p]? with
  | some player => simp
  | none =>
    simp only [Option.bind_none, Option.isSome_none, Bool.false_eq_true]
    rw [imp_false, Bool.not_eq_true, ← mergeOrInsertStack_toOption_eq_none]
    cases (c.items.mergeOrInsertStack { x with count := n }).toOption <;> simp

/-! ### From a container to equipment -/

theorem placeStack_toOption_eq_none {e : PlayerEquipment} {slot : EquipmentSlot}
    {y m : ItemInstance} (h : e.item slot = some y) :
    (e.placeStack slot m).toOption = none ↔
      ¬(y.kind = m.kind ∧ y.count + m.count ≤ maxItemStackCount) := by
  have hmerge : (∃ z, y.mergeStack m = .ok z) ↔
      y.kind = m.kind ∧ y.count + m.count ≤ maxItemStackCount := by
    constructor
    · intro hz
      obtain ⟨z, hz⟩ := hz
      obtain ⟨hk, hc, -⟩ := ItemInstance.mergeStack_eq_ok.mp hz
      exact ⟨hk, hc⟩
    · intro hkc
      exact ⟨_, ItemInstance.mergeStack_eq_ok.mpr ⟨hkc.1, hkc.2, rfl⟩⟩
  rw [← hmerge]
  simp only [PlayerEquipment.placeStack, h]
  cases hm : y.mergeStack m <;> simp [bind, Except.bind, Except.toOption]

theorem agrees_containerItemToEquipment (id i : ℕ) (slot : EquipmentSlot) :
    outcome w p (.containerItemToEquipment id i slot) =
        outcome w p (.genericMove ⟨.container id i, none, .equipment slot false⟩) ↔
      AgreesWhen w p (.containerItemToEquipment id i slot) := by
  rw [outcome_containerItemToEquipment, outcome_generic_toEquipment]
  refine bind_eq_iff fun e _ => bind_eq_iff fun cs _ => bind_eq_iff fun c hc => bind_eq_iff₂ fun x items hx => ?_
  simp only [Option.getD_none, Option.bind_eq_bind]
  by_cases hgo : MovesWhole w p x
  · rw [bind_whole hgo, items_keepRest_of_zero _ _ rfl]
    cases e.item slot <;> simp [hgo]
  · rw [bind_whole_none hgo]
    cases e.item slot <;> simp [hgo]

theorem agrees_swapContainerItemWithEquipment (id i : ℕ) (slot : EquipmentSlot) :
    outcome w p (.swapContainerItemWithEquipment id i slot) =
        outcome w p (.genericMove ⟨.container id i, none, .equipment slot true⟩) ↔
      AgreesWhen w p (.swapContainerItemWithEquipment id i slot) := by
  rw [outcome_swapContainerItemWithEquipment, outcome_generic_toEquipment]
  refine bind_eq_iff fun e _ => bind_eq_iff fun cs _ => bind_eq_iff fun c hc => bind_eq_iff₂ fun x items hx => ?_
  obtain ⟨hi, hitems⟩ := ItemContainer.remove_eq_some.mp hx
  have hlt : i < c.items.items.length := (List.getElem?_eq_some_iff.mp hi).1
  have hle : i ≤ items.items.length := by
    rw [hitems, List.length_eraseIdx_of_lt hlt]
    omega
  simp only [Option.getD_none, Option.bind_eq_bind]
  by_cases hgo : MovesWhole w p x
  · rw [bind_whole hgo, items_keepRest_of_zero _ _ rfl]
    cases hslot : e.item slot with
    | none => simp [hgo]
    | some y =>
      have hsame : cs.setItems id (items.insertAt i y) =
          cs.setItems id { items with items := items.items ++ [y] } ↔
          ∀ z ∈ items.items.drop i, z = y := by
        rw [setItems_inj hc, ← append_eq_insertIdx_iff _ _ hle, ItemContainer.insertAt,
          ItemContainer.mk.injEq, eq_comm (a := items.items ++ [y])]
        simp
      simp only [Option.bind_some, insert_toOption, if_true]
      cases hfull : items.isFull
      · simpa [hgo] using hsame
      · simp [hgo]
  · rw [bind_whole_none hgo]
    cases e.item slot <;> simp [hgo]

theorem agrees_containerStackToEquipment (id i n : ℕ) (slot : EquipmentSlot) :
    outcome w p (.containerStackToEquipment id i slot n) =
        outcome w p (.genericMove ⟨.container id i, some n, .equipment slot false⟩) ↔
      AgreesWhen w p (.containerStackToEquipment id i slot n) := by
  rw [outcome_containerStackToEquipment, outcome_generic_toEquipment]
  refine bind_eq_iff fun e _ => bind_eq_iff fun cs _ => bind_eq_iff fun c hc => bind_eq_iff₂ fun x items hx => ?_
  simp only [Option.getD_some, Option.bind_eq_bind]
  rw [Option.bind_comm (w.players[p]?)]
  refine bind_part_iff fun _ _ => ?_
  cases hslot : e.item slot with
  | none =>
    have hplace (m : ItemInstance) : (e.placeStack slot m).toOption =
        some (m.count, (e.equip slot m).2) := by
      rw [PlayerEquipment.placeStack, hslot]
      rfl
    rw [hplace]
    cases w.players[p]? <;> simp
  | some y =>
    have hplace : (e.placeStack slot { x with count := n }).toOption = none ↔
        ¬(y.kind = x.kind ∧ y.count + n ≤ maxItemStackCount) := placeStack_toOption_eq_none hslot
    simp only [Bool.false_eq_true, if_false, Option.bind_fun_none]
    rw [← hplace]
    cases (e.placeStack slot { x with count := n }).toOption <;> simp

/-! ### Between two slots, between two containers -/

theorem agrees_swapEquipmentItems (a b : EquipmentSlot) :
    outcome w p (.swapEquipmentItems a b) =
        outcome w p (.genericMove ⟨.equipment a, none, .equipment b true⟩) ↔
      AgreesWhen w p (.swapEquipmentItems a b) := by
  by_cases hab : a = b
  · subst hab
    rw [outcome_generic_sameSlot]
    have hsame : outcome w p (.swapEquipmentItems a a) = none := by
      simp [outcome, perform, World.swapEquipmentItems]
    simp [hsame, AgreesWhen]
  · rw [outcome_swapEquipmentItems hab, outcome_generic_betweenSlots w p hab]
    simp only [AgreesWhen, ne_eq, hab, not_false_iff, forall_true_left]
    refine bind_eq_iff fun e _ => bind_eq_iff fun x _ => ?_
    simp only [Option.getD_none, Option.bind_eq_bind]
    have hrest : (e.without a).keepRest a { x with count := 0 } = e.without a :=
      keepRest_of_zero _ _ rfl
    by_cases hgo : MovesWhole w p x
    · simp only [bind_whole hgo, hrest]
      cases hy : e.item b with
      | none => cases w.playerContainers[p]? <;> simp [hgo]
      | some y =>
        cases w.playerContainers[p]? with
        | none => simp
        | some cs =>
          have hne : (((((e.without a).without b).equip a y).2).equip b x).2 ≠
              ((e.without a).equip b x).2 := by
            intro heq
            have hslot := congrArg (fun e : PlayerEquipment => e.item a) heq
            simp [Ne.symm hab] at hslot
          simp [hne]
    · simp only [bind_whole_none hgo, Option.bind_fun_none]
      cases e.item b <;> simp [hgo]

theorem agrees_containerStackToContainer (a i b n : ℕ) :
    outcome w p (.containerStackToContainer a i b n) =
        outcome w p (.genericMove ⟨.container a i, some n, .container b⟩) ↔
      AgreesWhen w p (.containerStackToContainer a i b n) := by
  rw [outcome_containerStackToContainer, outcome_generic_betweenContainers]
  refine bind_eq_iff fun cs _ => bind_eq_iff fun ca ha => bind_eq_iff₂ fun x items hx => ?_
  simp only [Option.getD_some, Option.bind_eq_bind]
  refine bind_part_iff fun _ _ => ?_
  by_cases hab : a = b
  · subst hab
    have hwindow : (cs.setItems a (items.keepRest i { x with count := x.count - n })).container a =
        some { ca with items := items.keepRest i { x with count := x.count - n } } := by
      rw [PlayerContainers.container_setItems, if_pos rfl, ha]
      rfl
    rw [if_pos rfl, if_pos rfl, hwindow, takesIn_eq]
    dsimp only [Option.bind_some]
    cases w.playerEquipments[p]? <;> cases w.players[p]? <;>
      cases ((items.keepRest i { x with count := x.count - n }).mergeOrInsertStack
        { x with count := n }).toOption <;> simp
  · have hb : (cs.setItems a (items.keepRest i { x with count := x.count - n })).container b =
        cs.container b := by rw [PlayerContainers.container_setItems, if_neg hab]
    rw [if_neg hab, if_neg hab, hb]
    cases hcb : cs.container b with
    | none => cases w.playerEquipments[p]? <;> cases w.players[p]? <;> simp
    | some cb =>
      have hforall (P : PlayerContainer → Prop) : (∀ c, some cb = some c → P c) ↔ P cb := by simp
      rw [hforall, takesIn_eq]
      dsimp only [Option.bind_some]
      cases he : w.playerEquipments[p]? with
      | none =>
        cases (cb.items.mergeOrInsertStack { x with count := n }).toOption <;> simp
      | some e =>
        cases w.players[p]? <;>
          cases (cb.items.mergeOrInsertStack { x with count := n }).toOption <;>
            simp [equipmentOf_eq he]

/-! ### All of them -/

/-- **A specialised move and the generic move that describes it agree exactly on these
inventories.** -/
theorem agrees_iff (w : WorldState) (p : ℕ) (t : InventoryTransfer) :
    Agrees w p t ↔ AgreesWhen w p t := by
  have hplan {plan : GenericInventoryMove} (h : genericPlan t = some plan) :
      Agrees w p t ↔ outcome w p t = outcome w p (.genericMove plan) := by
    simp [Agrees, h]
  cases t with
  | equipmentItemToContainer slot id =>
    rw [hplan rfl]
    exact agrees_equipmentItemToContainer slot id
  | containerItemToEquipment id i slot =>
    rw [hplan rfl]
    exact agrees_containerItemToEquipment id i slot
  | swapContainerItemWithEquipment id i slot =>
    rw [hplan rfl]
    exact agrees_swapContainerItemWithEquipment id i slot
  | swapEquipmentItems a b =>
    rw [hplan rfl]
    exact agrees_swapEquipmentItems a b
  | equipmentStackToContainer slot id n =>
    rw [hplan rfl]
    exact agrees_equipmentStackToContainer slot id n
  | containerStackToEquipment id i slot n =>
    rw [hplan rfl]
    exact agrees_containerStackToEquipment id i n slot
  | containerStackToContainer a i b n =>
    rw [hplan rfl]
    exact agrees_containerStackToContainer a i b n
  | contentItemToEquipment | contentItemToContainer | consumeEquipmentItemUnit
  | consumeContainerItemUnit | groundDrop | genericMove =>
    simp [Agrees, genericPlan, AgreesWhen]

/-- A registered player with a sword in each hand. -/
def twoSwords : WorldState :=
  (threePlayers.putContainers 1 .empty).putEquipment 1
    ((PlayerEquipment.empty.equip .rightHand ⟨2400, 1, none, none, []⟩).2.equip .leftHand
      ⟨2376, 1, none, none, []⟩).2

/-- **A sword is lost**: the specialised swap exchanges the swords, the generic one leaves only one
of them. -/
theorem twoSwords_disagree : ¬∀ (w : WorldState) (p : ℕ) (t : InventoryTransfer),
    (genericPlan t).isSome = true → Agrees w p t := by
  intro h
  obtain ⟨plan, hplan, hsame⟩ := h twoSwords 1 (.swapEquipmentItems .rightHand .leftHand) rfl
  cases hplan
  have hslot := congrArg (fun o : Option (PlayerEquipment × PlayerContainers) =>
    o.bind fun inventories => inventories.1.item .rightHand) hsame
  exact absurd hslot (by decide)

end InventoryTransfer

end ForgottenEngine
