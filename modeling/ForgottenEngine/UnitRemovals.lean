import ForgottenEngine.DeadPlayers
import ForgottenEngine.InventorySaves
import ForgottenEngine.Library.Rounds
import ForgottenEngine.MapEffects
import ForgottenEngine.UnitPlacement

/-!
# Taking units away

A script that removes an item and a player who sells one gather the units in the same way: from the
ten slots in a fixed order, then from the windows, and in a window always from the first stack of
the item.  A stack that is used up goes away, and with it whatever is inside.

On the list of everything that is carried, in this order, the gathering is `drained`:

* `drained_units` — what goes away are the units that were asked for and the insides of the stacks
  that are used up;
* `mem_usedUp` — which stacks these are;
* `drainItems_eq`, `drainSlots_spec`, `rebuild_spec` — the loops of the source do this;
* `removeItemsFromPlayer_iff` — **exactly when a removal takes nothing but the units**.
-/

namespace ForgottenEngine

open Fallible ItemInstance

/-! ### The list of what is carried -/

section Lists

/-- Take up to `remaining` units of an item out of a list: how many are missing, and what stays. -/
def drained (serverId : ℕ) : ℕ → List ItemInstance → ℕ × List ItemInstance
  | remaining, [] => (remaining, [])
  | remaining, x :: xs =>
    if x.serverId = serverId ∧ 0 < remaining then
      let take := min remaining x.count
      let rest := drained serverId (remaining - take) xs
      (rest.1, if x.count - take = 0 then rest.2 else { x with count := x.count - take } :: rest.2)
    else
      let rest := drained serverId remaining xs
      (rest.1, x :: rest.2)

/-- The stacks that are used up on the way. -/
def usedUp (serverId : ℕ) : ℕ → List ItemInstance → List ItemInstance
  | _, [] => []
  | remaining, x :: xs =>
    if x.serverId = serverId ∧ 0 < remaining then
      let take := min remaining x.count
      (if x.count - take = 0 then [x] else []) ++ usedUp serverId (remaining - take) xs
    else usedUp serverId remaining xs

/-- How many units of an item lie in a list, not counting those inside other items. -/
def amount (serverId : ℕ) (xs : List ItemInstance) : ℕ :=
  (xs.map fun x => if x.serverId = serverId then x.count else 0).sum

variable {serverId remaining : ℕ} {x : ItemInstance} {xs ys : List ItemInstance}

theorem drained_zero (serverId : ℕ) (xs : List ItemInstance) : drained serverId 0 xs = (0, xs) := by
  induction xs with
  | nil => rfl
  | cons x xs ih =>
    rw [drained, if_neg fun h => absurd h.2 (Nat.lt_irrefl 0), ih]

theorem drained_append (serverId remaining : ℕ) (xs ys : List ItemInstance) :
    drained serverId remaining (xs ++ ys) =
      ((drained serverId (drained serverId remaining xs).1 ys).1,
        (drained serverId remaining xs).2 ++
          (drained serverId (drained serverId remaining xs).1 ys).2) := by
  induction xs generalizing remaining with
  | nil => rfl
  | cons x xs ih =>
    rw [List.cons_append, drained, drained]
    by_cases h : x.serverId = serverId ∧ 0 < remaining
    · simp only [if_pos h, ih]
      split
      · rfl
      · rfl
    · simp only [if_neg h, ih]
      rfl

/-- Units are missing when more are asked for than there are. -/
theorem drained_fst (serverId remaining : ℕ) (xs : List ItemInstance) :
    (drained serverId remaining xs).1 = remaining - amount serverId xs := by
  induction xs generalizing remaining with
  | nil => rfl
  | cons x xs ih =>
    have hamount : amount serverId (x :: xs) =
        (if x.serverId = serverId then x.count else 0) + amount serverId xs := rfl
    rw [drained, hamount]
    by_cases h : x.serverId = serverId ∧ 0 < remaining
    · simp only [if_pos h, if_pos h.1, ih]
      omega
    · simp only [if_neg h, ih]
      split
      · rename_i hid
        have hzero : remaining = 0 := by
          by_contra hne
          exact h ⟨hid, Nat.pos_of_ne_zero hne⟩
        omega
      · omega

/-- Every other item is where it was. -/
theorem drained_others (serverId remaining : ℕ) (xs : List ItemInstance) :
    ((drained serverId remaining xs).2.filter fun x => x.serverId ≠ serverId) =
      xs.filter fun x => x.serverId ≠ serverId := by
  induction xs generalizing remaining with
  | nil => rfl
  | cons x xs ih =>
    rw [drained]
    by_cases h : x.serverId = serverId ∧ 0 < remaining
    · simp only [if_pos h]
      rw [List.filter_cons_of_neg (a := x) (by simpa using h.1),
        ← ih (remaining - min remaining x.count)]
      split
      · rfl
      · rw [List.filter_cons_of_neg (by simpa using h.1)]
    · simp only [if_neg h, List.filter_cons, ih]

/-- **What goes away**: the units that are taken, and the insides of the stacks that are used up. -/
theorem drained_units (serverId remaining : ℕ) (xs : List ItemInstance) :
    ∃ taken : Multiset ItemKind,
      Multiset.card taken = remaining - (drained serverId remaining xs).1 ∧
      (∀ kind ∈ taken, kind.serverId = serverId) ∧
      unitsOf xs = unitsOf (drained serverId remaining xs).2 + taken +
        ((usedUp serverId remaining xs).map contentUnits).sum := by
  induction xs generalizing remaining with
  | nil => exact ⟨0, by simp [drained], by simp, by simp [drained, usedUp]⟩
  | cons x xs ih =>
    rw [drained, usedUp]
    by_cases h : x.serverId = serverId ∧ 0 < remaining
    · simp only [if_pos h]
      obtain ⟨taken, hcard, hkinds, hunits⟩ := ih (remaining - min remaining x.count)
      have hfst := drained_fst serverId (remaining - min remaining x.count) xs
      refine ⟨Multiset.replicate (min remaining x.count) x.kind + taken, ?_, ?_, ?_⟩
      · rw [Multiset.card_add, Multiset.card_replicate, hcard]
        omega
      · intro kind hkind
        rcases Multiset.mem_add.mp hkind with hx | htaken
        · rw [Multiset.eq_of_mem_replicate hx]
          exact h.1
        · exact hkinds kind htaken
      · rw [unitsOf_cons, hunits, units_eq x]
        by_cases hgone : x.count - min remaining x.count = 0
        · have hall : x.count = min remaining x.count := by omega
          rw [if_pos hgone, if_pos hgone, ← hall, List.map_append, List.sum_append,
            List.map_singleton, List.sum_singleton]
          abel
        · have hsplit : Multiset.replicate x.count x.kind =
              Multiset.replicate (x.count - min remaining x.count) x.kind +
                Multiset.replicate (min remaining x.count) x.kind := by
            rw [← Multiset.replicate_add]
            congr 1
            omega
          have hkept : ({ x with count := x.count - min remaining x.count } : ItemInstance).units =
              Multiset.replicate (x.count - min remaining x.count) x.kind + x.contentUnits := by
            rw [units_eq]
            rfl
          rw [if_neg hgone, if_neg hgone, unitsOf_cons, hkept, List.nil_append, hsplit]
          abel
    · simp only [if_neg h]
      obtain ⟨taken, hcard, hkinds, hunits⟩ := ih remaining
      refine ⟨taken, hcard, hkinds, ?_⟩
      rw [unitsOf_cons, unitsOf_cons, hunits]
      abel

/-- The stack is used up: the stacks of the item before it do not suffice, and with it they do not
exceed what is asked for. -/
def UsesUp (serverId count : ℕ) (carried : List ItemInstance) (x : ItemInstance) : Prop :=
  x.serverId = serverId ∧ ∃ before behind, carried = before ++ x :: behind ∧
    amount serverId before < count ∧ amount serverId before + x.count ≤ count

/-- **Which stacks are used up.** -/
theorem mem_usedUp : x ∈ usedUp serverId remaining xs ↔ UsesUp serverId remaining xs x := by
  induction xs generalizing remaining with
  | nil => simp [usedUp, UsesUp]
  | cons y ys ih =>
    -- a stack further on is used up by what the first one leaves to be taken
    have hnext (take : ℕ) (htake : (if y.serverId = serverId then y.count else 0) = take ∨
        remaining ≤ (if y.serverId = serverId then y.count else 0) ∧ take = remaining) :
        (UsesUp serverId (remaining - take) ys x ↔ x.serverId = serverId ∧ ∃ before behind,
          ys = before ++ x :: behind ∧ amount serverId (y :: before) < remaining ∧
            amount serverId (y :: before) + x.count ≤ remaining) := by
      unfold UsesUp
      refine and_congr_right fun _ => exists_congr fun before => exists_congr fun behind =>
        and_congr_right fun _ => ?_
      have hamount : amount serverId (y :: before) =
        (if y.serverId = serverId then y.count else 0) + amount serverId before := rfl
      rw [hamount]
      constructor
      · intro h
        omega
      · intro h
        omega
    have hcons : UsesUp serverId remaining (y :: ys) x ↔
        (x = y ∧ y.serverId = serverId ∧ 0 < remaining ∧ y.count ≤ remaining) ∨
        (x.serverId = serverId ∧ ∃ before behind, ys = before ++ x :: behind ∧
          amount serverId (y :: before) < remaining ∧
          amount serverId (y :: before) + x.count ≤ remaining) := by
      unfold UsesUp
      constructor
      · rintro ⟨hid, before, behind, hsplit, hlt, hle⟩
        cases before with
        | nil =>
          obtain ⟨rfl, rfl⟩ := List.cons.inj hsplit
          have hzero : amount serverId [] = 0 := rfl
          rw [hzero] at hlt hle
          exact .inl ⟨rfl, hid, hlt, by omega⟩
        | cons z before =>
          obtain ⟨rfl, rfl⟩ := List.cons.inj hsplit
          exact .inr ⟨hid, before, behind, rfl, hlt, hle⟩
      · rintro (⟨rfl, hid, hlt, hle⟩ | ⟨hid, before, behind, rfl, hlt, hle⟩)
        · have hzero : amount serverId [] = 0 := rfl
          exact ⟨hid, [], ys, rfl, hzero ▸ hlt, by rw [hzero]; omega⟩
        · exact ⟨hid, y :: before, behind, rfl, hlt, hle⟩
    rw [usedUp, hcons]
    by_cases h : y.serverId = serverId ∧ 0 < remaining
    · have hafter := hnext (min remaining y.count) (by rw [if_pos h.1]; omega)
      rw [if_pos h, List.mem_append, ih, hafter]
      refine or_congr_left ?_
      by_cases hgone : y.count - min remaining y.count = 0
      · rw [if_pos hgone, List.mem_singleton]
        exact ⟨fun hx => ⟨hx, h.1, h.2, by omega⟩, fun hx => hx.1⟩
      · rw [if_neg hgone]
        exact ⟨fun hx => absurd hx List.not_mem_nil, fun hx => absurd hx.2.2.2 (by omega)⟩
    · have hfirst : ¬(x = y ∧ y.serverId = serverId ∧ 0 < remaining ∧ y.count ≤ remaining) :=
        fun hx => h ⟨hx.2.1, hx.2.2.1⟩
      rw [if_neg h, ih, or_iff_right hfirst]
      by_cases hid : y.serverId = serverId
      · have hzero : remaining = 0 := by
          by_contra hne
          exact h ⟨hid, Nat.pos_of_ne_zero hne⟩
        have hafter := hnext 0 (.inr ⟨by omega, hzero.symm⟩)
        rw [Nat.sub_zero] at hafter
        exact hafter
      · have hafter := hnext 0 (.inl (if_neg hid))
        rw [Nat.sub_zero] at hafter
        exact hafter

theorem drained_none (h : ∀ y ∈ xs, y.serverId ≠ serverId) :
    drained serverId remaining xs = (remaining, xs) := by
  induction xs with
  | nil => rfl
  | cons y ys ih =>
    rw [drained, if_neg fun hy => h y List.mem_cons_self hy.1,
      ih fun z hz => h z (List.mem_cons_of_mem y hz)]

/-- A list with `n` units less in one of its stacks. -/
def lessUnits (before : List ItemInstance) (x : ItemInstance) (n : ℕ)
    (behind : List ItemInstance) : List ItemInstance :=
  if x.count - n = 0 then before ++ behind
  else before ++ { x with count := x.count - n } :: behind

/-- One stack after the other, the first of the item each time. -/
theorem drained_round {before behind : List ItemInstance}
    (hbefore : ∀ y ∈ before, y.serverId ≠ serverId) (hx : x.serverId = serverId)
    (hmissing : 0 < remaining) :
    drained serverId remaining (before ++ x :: behind) =
      drained serverId (remaining - min remaining x.count)
        (lessUnits before x (min remaining x.count) behind) := by
  rw [drained_append, drained_none hbefore, drained, if_pos ⟨hx, hmissing⟩, lessUnits]
  dsimp only
  split
  · rw [drained_append, drained_none hbefore]
  · have hdone : remaining - min remaining x.count = 0 := by omega
    rw [hdone, drained_zero, drained_zero]

end Lists

/-! ### The loop over one window -/

/-- One round: the first stack of the item gives what it has, up to what is missing. -/
def drainRound (serverId : ℕ) (state : ℕ × ItemContainer) :
    (ℕ × ItemContainer) ⊕ (ℕ × ItemContainer) :=
  if state.1 = 0 then .inr state
  else
    match state.2.items.findIdx? fun item => item.serverId = serverId with
    | none => .inr state
    | some index =>
      match state.2.item index with
      | none => .inr state
      | some item =>
        let take := min state.1 item.count
        .inl (state.1 - take, (state.2.takeItemUnits index take).2)

def drainSize (state : ℕ × ItemContainer) : ℕ := state.1 + state.2.items.length

section Windows

variable {serverId : ℕ} {state next : ℕ × ItemContainer}

theorem items_takeItemUnits {c : ItemContainer} {i n : ℕ} {x : ItemInstance}
    (hx : c.items[i]? = some x) (hn : n ≤ x.count) :
    (c.takeItemUnits i n).2 =
      { c with items := lessUnits (c.items.take i) x n (c.items.drop (i + 1)) } := by
  have hlt : i < c.items.length := (List.getElem?_eq_some_iff.mp hx).1
  unfold ItemContainer.takeItemUnits lessUnits
  rw [hx]
  simp only [min_eq_right hn, ItemContainer.setItem]
  by_cases hgone : x.count - n = 0
  · rw [if_pos hgone, if_pos hgone, List.eraseIdx_set_eq, List.eraseIdx_eq_take_drop_succ]
  · rw [if_neg hgone, if_neg hgone, List.set_eq_take_append_cons_drop, if_pos hlt]

/-- What one round does to the stacks. -/
theorem drainRound_next (h : drainRound serverId state = .inl next) :
    ∃ before x behind, state.2.items = before ++ x :: behind ∧
      (∀ y ∈ before, y.serverId ≠ serverId) ∧ x.serverId = serverId ∧ 0 < state.1 ∧
      next = (state.1 - min state.1 x.count,
        { state.2 with items := lessUnits before x (min state.1 x.count) behind }) := by
  unfold drainRound at h
  split at h
  · cases h
  · rename_i hmissing
    split at h
    · cases h
    · rename_i index hindex
      obtain ⟨hlt, hx, hfirst⟩ := List.findIdx?_eq_some_iff_getElem.mp hindex
      have hget : state.2.items[index]? = some state.2.items[index] := List.getElem?_eq_getElem hlt
      split at h
      · rename_i hnone
        exact absurd (hget.symm.trans hnone) (by simp)
      · rename_i item hitem
        cases Option.some.inj (hget.symm.trans hitem)
        cases h
        refine ⟨state.2.items.take index, state.2.items[index], state.2.items.drop (index + 1),
          ?_, ?_, by simpa using hx, Nat.pos_of_ne_zero hmissing, ?_⟩
        · rw [List.cons_getElem_drop_succ, List.take_append_drop]
        · intro y hy
          obtain ⟨j, hj, rfl⟩ := List.mem_iff_getElem.mp hy
          have hjlt : j < index := lt_of_lt_of_le hj (List.length_take_le index state.2.items)
          rw [List.getElem_take]
          simpa using hfirst j hjlt
        · rw [items_takeItemUnits hget (min_le_right _ _)]

theorem drainRound_less (s t : ℕ × ItemContainer) (h : drainRound serverId s = .inl t) :
    drainSize t < drainSize s := by
  obtain ⟨before, x, behind, hsplit, -, -, hmissing, rfl⟩ := drainRound_next h
  unfold drainSize lessUnits
  rw [hsplit]
  dsimp only
  split
  · simp only [List.length_append, List.length_cons]
    omega
  · simp only [List.length_append, List.length_cons]
    omega

theorem drainRound_stop (h : drainRound serverId state = .inr next) :
    next = state ∧ drained serverId state.1 state.2.items = (state.1, state.2.items) := by
  unfold drainRound at h
  split at h
  · rename_i hzero
    cases h
    refine ⟨rfl, ?_⟩
    rw [hzero, drained_zero]
  · split at h
    · rename_i hnone
      cases h
      refine ⟨rfl, drained_none fun y hy => ?_⟩
      simpa using List.findIdx?_eq_none_iff.mp hnone y hy
    · rename_i index hindex
      obtain ⟨hlt, -, -⟩ := List.findIdx?_eq_some_iff_getElem.mp hindex
      split at h
      · rename_i hitem
        exact absurd ((List.getElem?_eq_getElem hlt).symm.trans hitem) (by simp)
      · cases h

/-- The `while` loop over one window. -/
def drainItems (serverId remaining : ℕ) (items : ItemContainer) : ℕ × ItemContainer :=
  Rounds.loop (drainRound serverId) drainSize drainRound_less (remaining, items)

/-- **The loop over a window** drains the list of its items. -/
theorem drainItems_eq (serverId remaining : ℕ) (items : ItemContainer) :
    drainItems serverId remaining items = ((drained serverId remaining items.items).1,
      { items with items := (drained serverId remaining items.items).2 }) := by
  let whole (state : ℕ × ItemContainer) : ℕ × ItemContainer :=
    ((drained serverId state.1 state.2.items).1,
      { state.2 with items := (drained serverId state.1 state.2.items).2 })
  obtain ⟨n, hrun⟩ := @Rounds.endsIn_loop _ _ (drainRound serverId) drainSize drainRound_less
    (remaining, items)
  refine Rounds.EndsIn.result (I := fun state => whole state = whole (remaining, items))
    (Q := fun result => result = whole (remaining, items)) ?_ ?_ hrun rfl
  · intro s t hs hnext
    obtain ⟨before, x, behind, hsplit, hbefore, hx, hmissing, rfl⟩ := drainRound_next hnext
    rw [← hs]
    dsimp only [whole]
    rw [hsplit, drained_round hbefore hx hmissing]
  · intro s r hs hstop
    obtain ⟨rfl, hdone⟩ := drainRound_stop hstop
    rw [← hs]
    dsimp only [whole]
    rw [hdone]

end Windows

/-! ### The loop over the slots -/

/-- Take up to so many units out of one slot. -/
def drainSlot (serverId : ℕ) (state : ℕ × PlayerEquipment) (slot : EquipmentSlot) :
    ℕ × PlayerEquipment :=
  if state.1 = 0 then state
  else
    match state.2.item slot with
    | none => state
    | some item =>
      if item.serverId ≠ serverId then state
      else
        let take := min state.1 item.count
        (state.1 - take,
          if 0 < item.count - take then
            (state.2.equip slot { item with count := item.count - take }).2
          else state.2.without slot)

section Slots

variable {serverId : ℕ} {state : ℕ × PlayerEquipment} {slot : EquipmentSlot}
  {slots : List EquipmentSlot} {e e' : PlayerEquipment}

/-- The slot as a list of at most one item. -/
def slotItems (e : PlayerEquipment) (slots : List EquipmentSlot) : List ItemInstance :=
  slots.filterMap e.item

theorem slotItems_congr (h : ∀ slot ∈ slots, e.item slot = e'.item slot) :
    slotItems e slots = slotItems e' slots := List.filterMap_congr h

/-- One slot: it is drained as a list, and the others stay. -/
theorem drainSlot_spec (serverId : ℕ) (state : ℕ × PlayerEquipment) (slot : EquipmentSlot) :
    (drainSlot serverId state slot).1 =
        (drained serverId state.1 (slotItems state.2 [slot])).1 ∧
      slotItems (drainSlot serverId state slot).2 [slot] =
        (drained serverId state.1 (slotItems state.2 [slot])).2 ∧
      ∀ j, j ≠ slot → (drainSlot serverId state slot).2.item j = state.2.item j := by
  obtain ⟨remaining, e⟩ := state
  unfold drainSlot slotItems
  by_cases hdone : remaining = 0
  · rw [if_pos hdone]
    dsimp only
    rw [hdone, drained_zero]
    exact ⟨rfl, rfl, fun _ _ => rfl⟩
  · rw [if_neg hdone]
    dsimp only
    cases hitem : e.item slot with
    | none =>
      have hnone : List.filterMap e.item [slot] = [] := by simp [hitem]
      rw [hnone]
      exact ⟨rfl, rfl, fun _ _ => rfl⟩
    | some item =>
      have hone : List.filterMap e.item [slot] = [item] := by simp [hitem]
      dsimp only
      rw [hone]
      by_cases hid : item.serverId = serverId
      · have hdrained : drained serverId remaining [item] = (remaining - min remaining item.count,
            lessUnits [] item (min remaining item.count) []) := by
          rw [drained, if_pos ⟨hid, Nat.pos_of_ne_zero hdone⟩]
          rfl
        rw [if_neg (not_not_intro hid), hdrained]
        unfold lessUnits
        by_cases hgone : item.count - min remaining item.count = 0
        · refine ⟨rfl, by simp [hgone], fun j hj => ?_⟩
          simp [hgone, Ne.symm hj]
        · refine ⟨rfl, by simp [hgone, Nat.pos_of_ne_zero hgone], fun j hj => ?_⟩
          simp [Nat.pos_of_ne_zero hgone, Ne.symm hj]
      · rw [if_pos hid, drained_none (by simpa using hid)]
        exact ⟨rfl, hone, fun _ _ => rfl⟩

/-- **The loop over the slots** drains the list of their items. -/
theorem drainSlots_spec (serverId : ℕ) (slots : List EquipmentSlot) (hnodup : slots.Nodup)
    (state : ℕ × PlayerEquipment) :
    (slots.foldl (drainSlot serverId) state).1 =
        (drained serverId state.1 (slotItems state.2 slots)).1 ∧
      slotItems (slots.foldl (drainSlot serverId) state).2 slots =
        (drained serverId state.1 (slotItems state.2 slots)).2 ∧
      ∀ j ∉ slots, (slots.foldl (drainSlot serverId) state).2.item j = state.2.item j := by
  induction slots generalizing state with
  | nil => exact ⟨rfl, rfl, fun _ _ => rfl⟩
  | cons slot slots ih =>
    obtain ⟨hfresh, hnodup⟩ := List.nodup_cons.mp hnodup
    obtain ⟨hfirst, hslot, hothers⟩ := drainSlot_spec serverId state slot
    obtain ⟨hrest, hslots, hlater⟩ := ih hnodup (drainSlot serverId state slot)
    have hcons (e : PlayerEquipment) :
        slotItems e (slot :: slots) = slotItems e [slot] ++ slotItems e slots := by
      unfold slotItems
      rw [← List.filterMap_append, List.singleton_append]
    have hsame : slotItems (drainSlot serverId state slot).2 slots = slotItems state.2 slots :=
      slotItems_congr fun j hj => hothers j fun heq => hfresh (heq ▸ hj)
    rw [hfirst, hsame] at hrest hslots
    rw [List.foldl_cons, hcons state.2, drained_append, hcons]
    refine ⟨hrest, ?_, ?_⟩
    · have hkept : slotItems (slots.foldl (drainSlot serverId) (drainSlot serverId state slot)).2
          [slot] = slotItems (drainSlot serverId state slot).2 [slot] :=
        slotItems_congr fun j hj => hlater j (List.mem_singleton.mp hj ▸ hfresh)
      rw [hkept, hslot, hslots]
    · intro j hj
      rw [hlater j fun h => hj (List.mem_cons_of_mem slot h),
        hothers j fun h => hj (h ▸ List.mem_cons_self)]

theorem item_foldl_without (slots : List EquipmentSlot) (e : PlayerEquipment)
    (j : EquipmentSlot) :
    (slots.foldl PlayerEquipment.without e).item j = if j ∈ slots then none else e.item j := by
  induction slots generalizing e with
  | nil => simp
  | cons slot slots ih =>
    rw [List.foldl_cons, ih, PlayerEquipment.item_without]
    by_cases hj : j ∈ slots
    · rw [if_pos hj, if_pos (List.mem_cons_of_mem slot hj)]
    · by_cases heq : slot = j
      · rw [if_neg hj, if_pos heq, if_pos (heq ▸ List.mem_cons_self)]
      · rw [if_neg hj, if_neg heq, if_neg]
        intro h
        rcases List.mem_cons.mp h with h | h
        · exact heq h.symm
        · exact hj h

/-- The units in some slots, and those in the others. -/
theorem units_slotItems (slots : List EquipmentSlot) (hnodup : slots.Nodup)
    (e : PlayerEquipment) :
    e.units = unitsOf (slotItems e slots) + (slots.foldl PlayerEquipment.without e).units := by
  induction slots generalizing e with
  | nil => simp [slotItems]
  | cons slot slots ih =>
    obtain ⟨hfresh, hnodup⟩ := List.nodup_cons.mp hnodup
    have hsame : slotItems (e.without slot) slots = slotItems e slots := by
      refine slotItems_congr fun j hj => ?_
      rw [PlayerEquipment.item_without, if_neg]
      rintro rfl
      exact hfresh hj
    rw [List.foldl_cons]
    have hrest := ih hnodup (e.without slot)
    rw [hsame] at hrest
    cases hitem : e.item slot with
    | none =>
      have hself : e.without slot = e := by
        refine PlayerEquipment.ext_item fun j => ?_
        rw [PlayerEquipment.item_without]
        split
        · rename_i heq
          rw [← heq, hitem]
        · rfl
      have hnone : slotItems e (slot :: slots) = slotItems e slots := by
        unfold slotItems
        rw [List.filterMap_cons_none hitem]
      rw [hnone]
      rw [hself] at hrest ⊢
      exact hrest
    | some item =>
      have hsome : slotItems e (slot :: slots) = item :: slotItems e slots := by
        unfold slotItems
        rw [List.filterMap_cons_some hitem]
      rw [PlayerEquipment.units_without hitem, hrest, hsome, unitsOf_cons, add_assoc]

theorem nodup_equipmentSlots : equipmentSlots.Nodup := by decide

theorem mem_equipmentSlots (slot : EquipmentSlot) : slot ∈ equipmentSlots := by
  cases slot <;> decide

/-- All units of the equipment lie in the ten slots. -/
theorem units_equipmentSlots (e : PlayerEquipment) :
    e.units = unitsOf (slotItems e equipmentSlots) := by
  have hempty : equipmentSlots.foldl PlayerEquipment.without e = .empty := by
    refine PlayerEquipment.ext_item fun j => ?_
    rw [item_foldl_without, if_pos (mem_equipmentSlots j)]
    rfl
  rw [units_slotItems equipmentSlots nodup_equipmentSlots e, hempty]
  exact add_zero _

end Slots

/-! ### The loop over the windows -/

section Rebuilding

variable {S : Type} {cs built : PlayerContainers} {c : PlayerContainer}

/-- The windows edited in turn, with the state handed from one to the next. -/
def editAll (edit : S → ItemContainer → S × ItemContainer) :
    S → List (ℕ × PlayerContainer) → S × List (ℕ × PlayerContainer)
  | state, [] => (state, [])
  | state, entry :: rest =>
    let edited := edit state entry.2.items
    let after := editAll edit edited.1 rest
    (after.1, (entry.1, { entry.2 with items := edited.2 }) :: after.2)

/-- All items of some windows. -/
def windowItems (entries : List (ℕ × PlayerContainer)) : List ItemInstance :=
  entries.flatMap fun entry => entry.2.items.items

theorem units_windowItems (cs : PlayerContainers) :
    cs.units = unitsOf (windowItems cs.containers.entries.toList) := by
  show (cs.containers.entries.toList.map fun entry => entry.2.items.units).sum = _
  induction cs.containers.entries.toList with
  | nil => rfl
  | cons entry rest ih =>
    unfold windowItems at ih ⊢
    rw [List.map_cons, List.sum_cons, List.flatMap_cons, unitsOf_append, ih]
    rfl

/-- A window under a new identifier adds its units. -/
theorem units_insert_fresh {out : Option PlayerContainer × PlayerContainers}
    (h : built.insert c = .ok out) (hfresh : built.container c.containerId = none) :
    out.2.units = built.units + unitsOf c.items.items := by
  have hsum := OrderedMap.sumValues_insert built.containers.entries c.containerId c
    fun c => c.items.units
  rw [OrderedMap.erase_of_getElem?_none hfresh, add_comm] at hsum
  unfold PlayerContainers.units PlayerContainers.total KeyedMap.sumValues
  rw [PlayerContainers.insert_eq_ok h]
  exact hsum

theorem rebuild_entries (edit : S → ItemContainer → S × ItemContainer)
    (entries : List (ℕ × PlayerContainer)) (hnodup : (entries.map Prod.fst).Nodup)
    (hkeys : ∀ entry ∈ entries, entry.2.containerId = entry.1) (state : S)
    (built : PlayerContainers) (hfresh : ∀ entry ∈ entries, built.container entry.1 = none)
    (hroom : built.len + entries.length ≤ maxPlayerContainers) :
    ∃ cs', entries.foldlM (fun (built : S × PlayerContainers) entry => do
        let edited := edit built.1 entry.2.items
        let (_, next) ← built.2.insert { entry.2 with items := edited.2 }
        Except.ok (edited.1, next)) (state, built) = .ok ((editAll edit state entries).1, cs') ∧
      cs'.units = built.units + unitsOf (windowItems (editAll edit state entries).2) ∧
      (∀ entry ∈ (editAll edit state entries).2, cs'.container entry.1 = some entry.2) ∧
      ∀ id ∉ entries.map Prod.fst, cs'.container id = built.container id := by
  induction entries generalizing state built with
  | nil =>
    exact ⟨built, rfl, (add_zero _).symm, fun _ h => absurd h List.not_mem_nil, fun _ _ => rfl⟩
  | cons entry rest ih =>
    obtain ⟨hnew, hnodup⟩ := List.nodup_cons.mp hnodup
    have hkey := hkeys entry List.mem_cons_self
    rw [List.length_cons] at hroom
    let window : PlayerContainer := { entry.2 with items := (edit state entry.2.items).2 }
    have hwindow : window.containerId = entry.1 := hkey
    obtain ⟨out, hout⟩ := PlayerContainers.exists_insert window (show built.len < _ by omega)
    have hcontainer := PlayerContainers.container_insert hout
    have hlen := PlayerContainers.len_insert hout
    have hnone : built.container window.containerId = none := by
      rw [hwindow]
      exact hfresh entry List.mem_cons_self
    obtain ⟨cs', hrun, hunits, hwritten, hothers⟩ := ih hnodup
      (fun e he => hkeys e (List.mem_cons_of_mem entry he)) (edit state entry.2.items).1 out.2
      (fun e he => by
        rw [hcontainer, hwindow, if_neg]
        · exact hfresh e (List.mem_cons_of_mem entry he)
        · intro heq
          exact hnew (heq ▸ List.mem_map_of_mem he)) (by omega)
    refine ⟨cs', ?_, ?_, ?_, ?_⟩
    · rw [List.foldlM_cons]
      simp only [show built.insert { entry.2 with items := (edit state entry.2.items).2 } = .ok out
        from hout, bind, Except.bind] at hrun ⊢
      exact hrun
    · rw [hunits, units_insert_fresh hout hnone]
      show _ = built.units + unitsOf (window.items.items ++ windowItems _)
      rw [unitsOf_append, add_assoc]
    · intro e he
      rcases List.mem_cons.mp he with rfl | he
      · rw [hothers entry.1 hnew, hcontainer, if_pos hwindow]
      · exact hwritten e he
    · intro id hid
      rw [List.map_cons, List.mem_cons, not_or] at hid
      rw [hothers id hid.2, hcontainer, if_neg]
      rw [hwindow]
      exact fun heq => hid.1 heq.symm

/-- **Building the windows anew** never fails, and every window is the edited one. -/
theorem rebuild_spec (edit : S → ItemContainer → S × ItemContainer) (state : S)
    (cs : PlayerContainers) :
    ∃ cs', rebuildContainers edit state cs =
        .ok ((editAll edit state cs.containers.entries.toList).1, cs') ∧
      cs'.units = unitsOf (windowItems (editAll edit state cs.containers.entries.toList).2) ∧
      (∀ entry ∈ (editAll edit state cs.containers.entries.toList).2,
        cs'.container entry.1 = some entry.2) ∧
      ∀ id, cs.container id = none → cs'.container id = none := by
  have hentry (entry : ℕ × PlayerContainer) (he : entry ∈ cs.containers.entries.toList) :
      cs.container entry.1 = some entry.2 := Std.ExtTreeMap.mem_toList_iff_getElem?_eq_some.mp he
  have hlength : cs.containers.entries.toList.length ≤ maxPlayerContainers := by
    rw [Std.ExtTreeMap.length_toList]
    exact cs.bounded
  have hroom : PlayerContainers.empty.len + cs.containers.entries.toList.length ≤
      maxPlayerContainers := by
    rw [show PlayerContainers.empty.len = 0 from rfl, Nat.zero_add]
    exact hlength
  obtain ⟨cs', hrun, hunits, hwritten, hothers⟩ := rebuild_entries edit
    cs.containers.entries.toList (OrderedMap.nodup_keys cs.containers.entries)
    (fun entry he => PlayerContainers.id_of_container (hentry entry he)) state .empty
    (fun _ _ => rfl) hroom
  refine ⟨cs', hrun, ?_, hwritten, fun id hid => ?_⟩
  · rw [hunits]
    exact zero_add _
  · rw [hothers]
    · rfl
    · intro hmem
      obtain ⟨entry, he, rfl⟩ := List.mem_map.mp hmem
      rw [hentry entry he] at hid
      cases hid

end Rebuilding

/-! ### Gathering -/

/-- Gather units of an item from the slots, and what is missing then from the windows: how many are
missing in the end, and what is left. -/
def gatherUnits (serverId count : ℕ) (equipment : PlayerEquipment) (containers : PlayerContainers) :
    Except CoreError (ℕ × PlayerEquipment × PlayerContainers) :=
  let slots := equipmentSlots.foldl (drainSlot serverId) (count, equipment)
  if 0 < slots.1 then do
    let (remaining, containers) ← rebuildContainers (drainItems serverId) slots.1 containers
    .ok (remaining, slots.2, containers)
  else .ok (slots.1, slots.2, containers)

/-- What a player carries, in the order in which it is gathered. -/
def carriedItems (e : PlayerEquipment) (cs : PlayerContainers) : List ItemInstance :=
  slotItems e equipmentSlots ++ windowItems cs.containers.entries.toList

/-- The window has the same other items, each with what is inside, in the same order. -/
structure SameOthers (serverId : ℕ) (c c' : PlayerContainer) : Prop where
  window : c' = { c with items := c'.items }
  capacity : c'.items.capacity = c.items.capacity
  others : (c'.items.items.filter fun x => x.serverId ≠ serverId) =
    c.items.items.filter fun x => x.serverId ≠ serverId

/-- Every item of another kind is where it was. -/
structure KeepsOthers (serverId : ℕ) (e e' : PlayerEquipment) (cs cs' : PlayerContainers) :
    Prop where
  slots : ∀ slot x, x.serverId ≠ serverId → (e'.item slot = some x ↔ e.item slot = some x)
  windows : ∀ id, Option.Rel (SameOthers serverId) (cs.container id) (cs'.container id)

section Gathering

variable {serverId count : ℕ} {e e' : PlayerEquipment} {cs cs' : PlayerContainers}

theorem SameOthers.refl (serverId : ℕ) (c : PlayerContainer) : SameOthers serverId c c :=
  ⟨rfl, rfl, rfl⟩

theorem drainSlot_others (state : ℕ × PlayerEquipment) (slot j : EquipmentSlot) {x : ItemInstance}
    (hx : x.serverId ≠ serverId) :
    (drainSlot serverId state slot).2.item j = some x ↔ state.2.item j = some x := by
  by_cases hj : j = slot
  · subst hj
    unfold drainSlot
    split
    · rfl
    · cases hitem : state.2.item j with
      | none => simp [hitem]
      | some item =>
        dsimp only
        by_cases hid : item.serverId = serverId
        · have hne : item ≠ x := fun heq => hx (heq ▸ hid)
          rw [if_neg (not_not_intro hid)]
          split
          · rw [PlayerEquipment.item_equip, if_pos rfl]
            simp only [Option.some.injEq, hne, iff_false]
            rintro rfl
            exact hx hid
          · rw [PlayerEquipment.item_without, if_pos rfl]
            simp [hne]
        · rw [if_pos hid, hitem]
  · rw [(drainSlot_spec serverId state slot).2.2 j hj]

theorem drainSlots_others (slots : List EquipmentSlot) (state : ℕ × PlayerEquipment)
    (j : EquipmentSlot) {x : ItemInstance} (hx : x.serverId ≠ serverId) :
    (slots.foldl (drainSlot serverId) state).2.item j = some x ↔ state.2.item j = some x := by
  induction slots generalizing state with
  | nil => rfl
  | cons slot slots ih => rw [List.foldl_cons, ih, drainSlot_others state slot j hx]

/-- The windows one after the other are drained as one list. -/
theorem editAll_drainItems (serverId remaining : ℕ) (entries : List (ℕ × PlayerContainer)) :
    (editAll (drainItems serverId) remaining entries).1 =
        (drained serverId remaining (windowItems entries)).1 ∧
      windowItems (editAll (drainItems serverId) remaining entries).2 =
        (drained serverId remaining (windowItems entries)).2 ∧
      ∀ entry ∈ entries, ∃ c', (entry.1, c') ∈ (editAll (drainItems serverId) remaining entries).2 ∧
        SameOthers serverId entry.2 c' := by
  induction entries generalizing remaining with
  | nil => exact ⟨rfl, rfl, fun _ h => absurd h List.not_mem_nil⟩
  | cons entry rest ih =>
    obtain ⟨hfst, hsnd, hsame⟩ := ih (drained serverId remaining entry.2.items.items).1
    have hcons : windowItems (entry :: rest) = entry.2.items.items ++ windowItems rest := rfl
    rw [hcons, drained_append]
    dsimp only [editAll]
    rw [drainItems_eq]
    refine ⟨hfst, ?_, ?_⟩
    · show _ ++ windowItems _ = _
      rw [hsnd]
    · intro other hother
      rcases List.mem_cons.mp hother with rfl | hother
      · exact ⟨_, List.mem_cons_self, rfl, rfl, drained_others serverId remaining _⟩
      · obtain ⟨c', hc', hkept⟩ := hsame other hother
        exact ⟨c', List.mem_cons_of_mem _ hc', hkept⟩

/-- **What gathering leaves.** -/
theorem gatherUnits_spec (serverId count : ℕ) (e : PlayerEquipment) (cs : PlayerContainers) :
    ∃ e' cs', gatherUnits serverId count e cs =
        .ok (count - amount serverId (carriedItems e cs), e', cs') ∧
      KeepsOthers serverId e e' cs cs' ∧
      e'.units + cs'.units = unitsOf (drained serverId count (carriedItems e cs)).2 := by
  obtain ⟨hmissing, hslots, -⟩ :=
    drainSlots_spec serverId equipmentSlots nodup_equipmentSlots (count, e)
  have hothers (slot : EquipmentSlot) (x : ItemInstance) (hx : x.serverId ≠ serverId) :=
    drainSlots_others equipmentSlots (count, e) slot hx
  have hall : count - amount serverId (carriedItems e cs) =
      (drained serverId (drained serverId count (slotItems e equipmentSlots)).1
        (windowItems cs.containers.entries.toList)).1 := by
    rw [← drained_fst]
    unfold carriedItems
    rw [drained_append]
  have hunits (cs' : PlayerContainers) (hcs' : cs'.units = unitsOf (drained serverId
      (drained serverId count (slotItems e equipmentSlots)).1
        (windowItems cs.containers.entries.toList)).2) :
      (equipmentSlots.foldl (drainSlot serverId) (count, e)).2.units + cs'.units =
        unitsOf (drained serverId count (carriedItems e cs)).2 := by
    unfold carriedItems
    rw [drained_append, unitsOf_append, ← hslots, ← hcs', units_equipmentSlots]
  unfold gatherUnits
  dsimp only at hmissing ⊢
  rw [hmissing, hall]
  by_cases hmore : 0 < (drained serverId count (slotItems e equipmentSlots)).1
  · obtain ⟨hfst, hsnd, hsame⟩ := editAll_drainItems serverId
      (drained serverId count (slotItems e equipmentSlots)).1 cs.containers.entries.toList
    obtain ⟨cs', hrun, hcs', hwritten, hnone⟩ := rebuild_spec (drainItems serverId)
      (drained serverId count (slotItems e equipmentSlots)).1 cs
    refine ⟨_, cs', ?_, ⟨hothers, fun id => ?_⟩, hunits cs' (by rw [hcs', hsnd])⟩
    · rw [if_pos hmore, hrun, hfst]
      rfl
    · cases hc : cs.container id with
      | none =>
        rw [hnone id hc]
        exact .none
      | some c =>
        obtain ⟨c', hmem, hkept⟩ :=
          hsame (id, c) (Std.ExtTreeMap.mem_toList_iff_getElem?_eq_some.mpr hc)
        rw [hwritten (id, c') hmem]
        exact .some hkept
  · have hzero : (drained serverId count (slotItems e equipmentSlots)).1 = 0 := by omega
    refine ⟨_, cs, ?_, ⟨hothers, fun id => ?_⟩, hunits cs ?_⟩
    · rw [if_neg hmore, hzero, drained_zero]
    · cases cs.container id with
      | none => exact .none
      | some c => exact .some (SameOthers.refl serverId c)
    · rw [hzero, drained_zero]
      exact units_windowItems cs

/-- Exactly so many units of an item are gone, and every other item is where it was. -/
structure TakenAway (serverId count : ℕ) (e e' : PlayerEquipment) (cs cs' : PlayerContainers) :
    Prop where
  units : ∃ taken : Multiset ItemKind, Multiset.card taken = count ∧
    (∀ kind ∈ taken, kind.serverId = serverId) ∧ e.units + cs.units = e'.units + cs'.units + taken
  others : KeepsOthers serverId e e' cs cs'

/-- **When exactly the units are gone**: nothing is inside the stacks that are used up. -/
theorem takenAway_iff (hrun : gatherUnits serverId count e cs = .ok (0, e', cs')) :
    TakenAway serverId count e e' cs cs' ↔
      ∀ x, UsesUp serverId count (carriedItems e cs) x → x.contentUnits = 0 := by
  obtain ⟨e₁, cs₁, hspec, hothers, hleft⟩ := gatherUnits_spec serverId count e cs
  rw [hrun] at hspec
  simp only [Except.ok.injEq, Prod.mk.injEq] at hspec
  obtain ⟨hnone, rfl, rfl⟩ := hspec
  obtain ⟨taken, hcard, hkinds, hunits⟩ := drained_units serverId count (carriedItems e cs)
  rw [drained_fst, ← hnone, Nat.sub_zero] at hcard
  have hbefore : e.units + cs.units = unitsOf (carriedItems e cs) := by
    unfold carriedItems
    rw [unitsOf_append, ← units_equipmentSlots, ← units_windowItems]
  rw [hunits, ← hleft] at hbefore
  have hinside : ((usedUp serverId count (carriedItems e cs)).map contentUnits).sum = 0 ↔
      ∀ x, UsesUp serverId count (carriedItems e cs) x → x.contentUnits = 0 := by
    rw [List.sum_eq_zero_iff]
    constructor
    · intro h x hx
      exact h _ (List.mem_map_of_mem (mem_usedUp.mpr hx))
    · intro h units hmem
      obtain ⟨x, hx, rfl⟩ := List.mem_map.mp hmem
      exact h x (mem_usedUp.mp hx)
  rw [← hinside]
  constructor
  · intro h
    obtain ⟨gone, hgone, -, heq⟩ := h.units
    rw [hbefore, add_assoc] at heq
    have hsame := congrArg Multiset.card (add_left_cancel heq)
    rw [Multiset.card_add, hcard, hgone] at hsame
    exact Multiset.card_eq_zero.mp (by omega)
  · intro h
    refine ⟨⟨taken, hcard, hkinds, ?_⟩, hothers⟩
    rw [hbefore, h, add_zero]

end Gathering

/-! ### Removal by a script -/

/-- How a removal ends, unless it fails; `text` is what the caller is told. -/
inductive RemovalReply where
  | notOnline
  | notEnough
  | removed (count serverId : ℕ)
deriving DecidableEq, Repr

def RemovalReply.text : RemovalReply → String
  | .notOnline => "Target is not online."
  | .notEnough => "You do not carry enough of that item."
  | .removed count serverId => s!"Removed {count} x item {serverId}."

namespace Host

open Procedure (atomic)

def hasPlayer (playerId : ℕ) : HostM Bool :=
  read fun s => s.world.players.toList.any fun entry => entry.2.id = playerId

def removeItemsFromPlayer (playerId serverId count : ℕ) : Handler RemovalReply := do
  let online ← atomic (hasPlayer playerId)
  if ¬online then return .notOnline
  else
    let equipment ← atomic (playerEquipment playerId)
    let containers ← atomic (playerContainers playerId)
    let (remaining, equipment, containers) ←
      orCore (gatherUnits serverId count equipment containers)
    if 0 < remaining then return .notEnough
    else
      atomic (persist (·.replacePlayerEquipment playerId equipment))
      atomic (persist (·.replacePlayerContainers playerId containers))
      let _ ← atomic (onWorld (World.replacePlayerEquipment playerId equipment))
      let _ ← atomic (onWorld (World.replacePlayerContainers playerId containers))
      return .removed count serverId

/-! ### What a removal should do -/

/-- An accepted removal has taken exactly the units away from the player, and nothing from anybody
else; any other leaves the world and the database as they were. -/
def RemovesOrFails (p serverId count : ℕ) (s : HostState)
    (out : Except Refusal RemovalReply × HostState) : Prop :=
  match out.1 with
  | .ok (.removed _ _) => ∃ e e' cs cs', s.world.playerEquipments[p]? = some e ∧
      s.world.playerContainers[p]? = some cs ∧ TakenAway serverId count e e' cs cs' ∧
      WorldState.InventoryWritten p e' cs' s.world.toWorldState out.2.world.toWorldState
  | _ => out.2 = s

/-- The removal goes through, for a player with this inventory. -/
structure Accepts (p serverId count : ℕ) (s : HostState) (e : PlayerEquipment)
    (cs : PlayerContainers) : Prop where
  online : ∃ entry ∈ s.world.players.toList, entry.2.id = p
  equipment : s.world.playerEquipments[p]? = some e
  containers : s.world.playerContainers[p]? = some cs
  enough : count ≤ amount serverId (carriedItems e cs)
  stored : s.database.ensurePlayerExists p = .ok ()

/-- The removal goes through and uses up a stack that has something inside. -/
def SpillsInsides (p serverId count : ℕ) (s : HostState) : Prop :=
  ∃ e cs, Accepts p serverId count s e cs ∧
    ∃ x, UsesUp serverId count (carriedItems e cs) x ∧ x.contentUnits ≠ 0

section Removal

variable {p serverId count : ℕ} {s : HostState} {e : PlayerEquipment} {cs : PlayerContainers}

/-- A saved inventory is published in two steps. -/
theorem publishInventory (hw : s.world.HoldersRegistered)
    (he : s.world.playerEquipments[p]? = some e) (hcs : s.world.playerContainers[p]? = some cs)
    (e' : PlayerEquipment) (cs' : PlayerContainers) :
    ∃ b₁ b₂ t w', onWorld (World.replacePlayerEquipment p e') s = (.ok b₁, t) ∧
      onWorld (World.replacePlayerContainers p cs') t =
        (.ok b₂, { s with world := { s.world with toWorldState := w' } }) ∧
      WorldState.InventoryWritten p e' cs' s.world.toWorldState w' := by
  have hp : s.world.players[p]?.isSome := hw.equipped p (by rw [he]; rfl)
  obtain ⟨b₁, w₁, hrun₁, hw₁⟩ := WorldState.replaceEquipment_written hp (by rw [he]; rfl) hcs e'
  have hp₁ : w₁.players[p]?.isSome := by rw [hw₁.players]; exact hp
  have hcs₁ : w₁.playerContainers[p]?.isSome := by rw [hw₁.containers]; simp
  have he₁ : w₁.playerEquipments[p]? = some e' := by rw [hw₁.equipments]; simp
  obtain ⟨b₂, w₂, hrun₂, hw₂⟩ := WorldState.replaceContainers_written hp₁ hcs₁ he₁ cs'
  refine ⟨b₁, b₂, _, w₂, onWorld_of_ok hrun₁,
    onWorld_of_ok (s := { s with world := { s.world with toWorldState := w₁ } }) hrun₂,
    by rw [hw₂.players, hw₁.players], ?_, ?_⟩
  · rw [hw₂.equipments, WorldState.insert_same he₁, hw₁.equipments]
  · rw [hw₂.containers, hw₁.containers, WorldState.insert_same hcs]

/-- The two saves of an inventory go through when the player is stored. -/
theorem saves_of_stored (hstored : s.database.ensurePlayerExists p = .ok ())
    (e' : PlayerEquipment) (cs' : PlayerContainers) :
    ∃ db₁ db₂, persist (·.replacePlayerEquipment p e') s = (.ok (), { s with database := db₁ }) ∧
      persist (·.replacePlayerContainers p cs') { s with database := db₁ } =
        (.ok (), { s with database := db₂ }) := by
  obtain ⟨db₁, hdb₁⟩ := EngineDatabase.exists_replacePlayerEquipment hstored e'
  obtain ⟨_, -, hwrite⟩ := except_bind_eq_ok.mp hdb₁
  obtain ⟨-, table, htable⟩ := EngineDatabase.writeEquipment_eq_ok hwrite
  have hstored₁ : db₁.ensurePlayerExists p = .ok () := by
    rw [htable]
    exact hstored
  obtain ⟨db₂, hdb₂⟩ := EngineDatabase.exists_replacePlayerContainers hstored₁ cs'
  exact ⟨db₁, db₂, persist_eq_ok.mpr ⟨db₁, hdb₁, rfl⟩, persist_eq_ok.mpr ⟨db₂, hdb₂, rfl⟩⟩

/-- **How a removal ends.** -/
theorem removeItemsFromPlayer_cases (hw : s.world.HoldersRegistered) :
    ((∀ e cs, ¬Accepts p serverId count s e cs) ∧
      (∀ n id, ((removeItemsFromPlayer p serverId count).run s).1 ≠ .ok (.removed n id)) ∧
      ((removeItemsFromPlayer p serverId count).run s).2 = s) ∨
    ∃ e cs e' cs' db w', Accepts p serverId count s e cs ∧
      gatherUnits serverId count e cs = .ok (0, e', cs') ∧
      WorldState.InventoryWritten p e' cs' s.world.toWorldState w' ∧
      (removeItemsFromPlayer p serverId count).run s = (.ok (.removed count serverId),
        { s with world := { s.world with toWorldState := w' }, database := db }) := by
  unfold removeItemsFromPlayer
  simp only [Procedure.run_bind, Procedure.run_atomic]
  rw [bind_of_ok (show hasPlayer p s = (.ok _, s) from rfl)]
  by_cases honline : ∃ entry ∈ s.world.players.toList, entry.2.id = p
  · have hany : (s.world.players.toList.any fun entry => entry.2.id = p) = true := by
      simpa using honline
    rw [if_neg (by simpa using hany)]
    simp only [Procedure.run_bind, Procedure.run_atomic]
    cases he : s.world.playerEquipments[p]? with
    | none =>
      have hread : playerEquipment p s = (.error _, s) := readOr_of_none _ he
      rw [bind_of_error hread]
      refine .inl ⟨fun e cs h => ?_, fun _ _ h => (by cases h), rfl⟩
      exact absurd (he.symm.trans h.equipment) (by simp)
    | some e =>
      have hread : playerEquipment p s = (.ok e, s) := readOr_of_some _ he
      rw [bind_of_ok hread]
      cases hcs : s.world.playerContainers[p]? with
      | none =>
        have hread : playerContainers p s = (.error _, s) := readOr_of_none _ hcs
        rw [bind_of_error hread]
        refine .inl ⟨fun e cs h => ?_, fun _ _ h => (by cases h), rfl⟩
        exact absurd (hcs.symm.trans h.containers) (by simp)
      | some cs =>
        have hread : playerContainers p s = (.ok cs, s) := readOr_of_some _ hcs
        rw [bind_of_ok hread]
        obtain ⟨e', cs', hgather, -, -⟩ := gatherUnits_spec serverId count e cs
        have hgathered : (orCore (gatherUnits serverId count e cs)).run s =
            (.ok (count - amount serverId (carriedItems e cs), e', cs'), s) := by
          rw [hgather]
          rfl
        rw [bind_of_ok hgathered]
        dsimp only
        -- the inventory of an accepted removal is the one that was read
        have hunique (e₁ : PlayerEquipment) (cs₁ : PlayerContainers)
            (h : Accepts p serverId count s e₁ cs₁) : e₁ = e ∧ cs₁ = cs :=
          ⟨Option.some.inj (h.equipment.symm.trans he),
            Option.some.inj (h.containers.symm.trans hcs)⟩
        by_cases hmissing : 0 < count - amount serverId (carriedItems e cs)
        · rw [if_pos hmissing]
          refine .inl ⟨fun e₁ cs₁ h => ?_, fun _ _ h => (by cases h), rfl⟩
          obtain ⟨rfl, rfl⟩ := hunique e₁ cs₁ h
          have henough := h.enough
          omega
        · rw [if_neg hmissing]
          simp only [Procedure.run_bind, Procedure.run_atomic]
          cases hstored : s.database.ensurePlayerExists p with
          | error error =>
            have hsave : s.database.replacePlayerEquipment p e' = .error error := by
              unfold EngineDatabase.replacePlayerEquipment
              rw [hstored]
              rfl
            rcases persist_cases (·.replacePlayerEquipment p e') s with ⟨r, hr⟩ | ⟨db, hok, -⟩
            · rw [bind_of_error hr]
              refine .inl ⟨fun e₁ cs₁ h => ?_, fun _ _ h => (by cases h), rfl⟩
              exact absurd (hstored.symm.trans h.stored) (by simp)
            · exact absurd (hsave.symm.trans hok) (by simp)
          | ok _ =>
            obtain ⟨db₁, db₂, hsave₁, hsave₂⟩ := saves_of_stored hstored e' cs'
            obtain ⟨b₁, b₂, t, w', hstep₁, hstep₂, hwritten⟩ :=
              publishInventory (s := { s with database := db₂ }) hw he hcs e' cs'
            rw [bind_of_ok hsave₁, bind_of_ok hsave₂, bind_of_ok hstep₁, bind_of_ok hstep₂]
            have hzero : count - amount serverId (carriedItems e cs) = 0 := by omega
            exact .inr ⟨e, cs, e', cs', db₂, w', ⟨honline, he, hcs, by omega, hstored⟩,
              hzero ▸ hgather, hwritten, rfl⟩
  · have hany : ¬(s.world.players.toList.any fun entry => entry.2.id = p) = true := by
      simpa using honline
    rw [if_pos hany]
    exact .inl ⟨fun e cs h => honline h.online, fun _ _ h => (by cases h), rfl⟩

/-- An accepted removal takes exactly the units when nothing is inside the stacks it uses up. -/
theorem removesOrFails_accepted (hw : s.world.HoldersRegistered)
    (haccepts : Accepts p serverId count s e cs) :
    RemovesOrFails p serverId count s ((removeItemsFromPlayer p serverId count).run s) ↔
      ∀ x, UsesUp serverId count (carriedItems e cs) x → x.contentUnits = 0 := by
  rcases removeItemsFromPlayer_cases (p := p) (s := s) hw with
    ⟨hrefused, -, -⟩ | ⟨e₀, cs₀, e', cs', db, w', h₀, hgather, hwritten, hrun⟩
  · exact absurd haccepts (hrefused e cs)
  · cases Option.some.inj (h₀.equipment.symm.trans haccepts.equipment)
    cases Option.some.inj (h₀.containers.symm.trans haccepts.containers)
    rw [hrun, ← takenAway_iff hgather]
    constructor
    · rintro ⟨e₁, e₂, cs₁, cs₂, he₁, hcs₁, htaken, hwritten₂⟩
      cases Option.some.inj (he₁.symm.trans haccepts.equipment)
      cases Option.some.inj (hcs₁.symm.trans haccepts.containers)
      have hequipment := hwritten.equipmentOf.symm.trans hwritten₂.equipmentOf
      have hcontainers := hwritten.containersOf.symm.trans hwritten₂.containersOf
      rw [hequipment, hcontainers]
      exact htaken
    · intro htaken
      exact ⟨e, e', cs, cs', haccepts.equipment, haccepts.containers, htaken, hwritten⟩

/-- **A removal takes exactly the units, or fails and changes nothing**, unless it goes through and
uses up a stack that has something inside. -/
theorem removeItemsFromPlayer_iff (hw : s.world.HoldersRegistered) :
    RemovesOrFails p serverId count s ((removeItemsFromPlayer p serverId count).run s) ↔
      ¬SpillsInsides p serverId count s := by
  by_cases haccepts : ∃ e cs, Accepts p serverId count s e cs
  · obtain ⟨e, cs, haccepts⟩ := haccepts
    rw [removesOrFails_accepted hw haccepts]
    constructor
    · rintro hnone ⟨e₁, cs₁, h₁, x, hused, hinside⟩
      cases Option.some.inj (h₁.equipment.symm.trans haccepts.equipment)
      cases Option.some.inj (h₁.containers.symm.trans haccepts.containers)
      exact hinside (hnone x hused)
    · intro hspills x hused
      by_contra hinside
      exact hspills ⟨e, cs, haccepts, x, hused, hinside⟩
  · have hnone : ¬SpillsInsides p serverId count s := fun ⟨e, cs, h, _⟩ => haccepts ⟨e, cs, h⟩
    refine iff_of_true ?_ hnone
    rcases @removeItemsFromPlayer_cases p serverId count s hw with
      ⟨-, hreply, hsame⟩ | ⟨e, cs, -, -, -, -, h, -⟩
    · unfold RemovesOrFails
      split
      · rename_i n id hremoved
        exact absurd hremoved (hreply n id)
      · exact hsame
    · exact absurd ⟨e, cs, h⟩ haccepts

end Removal

/-! ### A bag on the back -/

def coin : ItemInstance := ⟨2148, 1, none, none, []⟩

def bag (inside : List ItemInstance) : ItemInstance := ⟨1987, 1, none, none, inside⟩

/-- A bag in the backpack slot of a player in an otherwise empty world. -/
def bagOnBack (inside : List ItemInstance) : HostState where
  world := { LivingWorld.empty with
    players := (∅ : BTreeMap ℕ Player).insert 1 ⟨1, 1, "Knight", ⟨100, 100, 7⟩, 8, 4200, 0⟩
    playerEquipments := (∅ : BTreeMap ℕ PlayerEquipment).insert 1
      (PlayerEquipment.empty.equip .backpack (bag inside)).2
    playerContainers := (∅ : BTreeMap ℕ PlayerContainers).insert 1 .empty }
  map := .new templeMap
  database := InventorySave.onePlayerDatabase

section Bag

variable {inside : List ItemInstance}

theorem bagOnBack_holders : (bagOnBack inside).world.HoldersRegistered := by
  constructor
  · intro p hp
    by_cases h : p = 1
    · subst h
      rfl
    · rw [show (bagOnBack inside).world.playerEquipments[p]? = none by
        simp [bagOnBack, Ne.symm h]] at hp
      cases hp
  · intro p hp
    by_cases h : p = 1
    · subst h
      rfl
    · rw [show (bagOnBack inside).world.playerContainers[p]? = none by
        simp [bagOnBack, Ne.symm h]] at hp
      cases hp

theorem bagOnBack_carried :
    carriedItems (PlayerEquipment.empty.equip .backpack (bag inside)).2 .empty = [bag inside] := rfl

theorem bagOnBack_accepts : Accepts 1 1987 1 (bagOnBack inside)
    (PlayerEquipment.empty.equip .backpack (bag inside)).2 .empty := by
  refine ⟨⟨(1, _), List.mem_singleton.mpr rfl, rfl⟩, rfl, rfl, ?_, rfl⟩
  rw [bagOnBack_carried]
  exact le_rfl

/-- An empty bag is taken as it should be. -/
theorem removeItemsFromPlayer_emptyBag : RemovesOrFails 1 1987 1 (bagOnBack [])
    ((removeItemsFromPlayer 1 1987 1).run (bagOnBack [])) := by
  refine (removeItemsFromPlayer_iff bagOnBack_holders).mpr ?_
  rintro ⟨e, cs, h, x, hused, hinside⟩
  have he : e = (PlayerEquipment.empty.equip .backpack (bag [])).2 :=
    Option.some.inj (h.equipment.symm.trans bagOnBack_accepts.equipment)
  have hcs : cs = .empty := Option.some.inj (h.containers.symm.trans bagOnBack_accepts.containers)
  rw [he, hcs, bagOnBack_carried] at hused
  obtain ⟨-, before, behind, hsplit, -, -⟩ := hused
  have hx : x ∈ [bag []] := by
    rw [hsplit]
    exact List.mem_append_right before List.mem_cons_self
  rw [List.mem_singleton.mp hx] at hinside
  exact hinside unitsOf_nil

/-- **The coin in the bag goes with the bag.** -/
theorem removedBag_spills : ¬∀ (p serverId count : ℕ) (s : HostState),
    s.world.HoldersRegistered →
      RemovesOrFails p serverId count s ((removeItemsFromPlayer p serverId count).run s) := by
  intro h
  have hbag := h 1 1987 1 (bagOnBack [coin]) bagOnBack_holders
  have hempty := (removesOrFails_accepted bagOnBack_holders (@bagOnBack_accepts [coin])).mp hbag
  rw [bagOnBack_carried] at hempty
  have hused : UsesUp 1987 1 [bag [coin]] (bag [coin]) := by
    refine ⟨rfl, [], [], rfl, ?_, ?_⟩
    · decide
    · decide
  have hone : (bag [coin]).contentUnits = {coin.kind} := by
    simp [contentUnits, bag, coin, units_eq]
  rw [hempty _ hused] at hone
  exact Multiset.singleton_ne_zero _ hone.symm

end Bag

end Host

end ForgottenEngine
