import ForgottenEngine.BankServices
import ForgottenEngine.ItemBounds

/-!
# Putting single units into the windows

A bought item and an item given by an operator arrive unit by unit.  Each unit is offered to the
windows in turn and goes into the first that takes it in.

A window with stacks of the kind takes a unit only into these, and refuses it when they are full,
whatever entries are free; a window without them needs a free entry.  `unitRoom` counts what a
window takes in this way before it refuses, and the windows together take exactly the sum.

* `placeStack_spec` — what one round over the windows does;
* `placed_unitRoom`, `placed_units` — a unit that is taken in uses up one of the room;
* `insertUnitsIntoContainers_placed` — the windows after, and how many units are left over.
-/

namespace ForgottenEngine

/-! ### Inserting units -/

/-- Put one unit into the first window that takes it. -/
def placeUnit (item : ItemInstance) : List ℕ → PlayerContainers → Bool × PlayerContainers
  | [], containers => (false, containers)
  | id :: ids, containers =>
    match containers.remove id with
    | none => placeUnit item ids containers
    | some (container, rest) =>
      match container.items.mergeOrInsertStack item with
      | .ok (_, items) => (true, rest.putBack { container with items })
      | .error _ =>
        match rest.insert container with
        | .ok (_, containers) => placeUnit item ids containers
        | .error _ => (false, rest)

/-- The windows with the units, and how many units found no place. -/
def insertUnitsIntoContainers (itemId : ℕ) : (count : ℕ) → PlayerContainers → PlayerContainers × ℕ
  | 0, containers => (containers, 0)
  | count + 1, containers =>
    match ItemInstance.new itemId 1 with
    | .error _ => (containers, 0)
    | .ok item =>
      let (placed, containers) := placeUnit item containers.ids containers
      let (containers, unplaced) := insertUnitsIntoContainers itemId count containers
      (containers, unplaced + if placed then 0 else 1)

/-! ### Room for units -/

namespace ItemContainer

/-- What a stack of the kind lacks to be full. -/
def lacking (kind : ItemKind) (x : ItemInstance) : ℕ :=
  if x.kind = kind then maxItemStackCount - x.count else 0

/-- How many single units of a kind the container takes in, one after the other. -/
def unitRoom (c : ItemContainer) (kind : ItemKind) : ℕ :=
  if ∃ y ∈ c.items, y.kind = kind then (c.items.map (lacking kind)).sum
  else if c.items.length < c.capacity then maxItemStackCount else 0

/-- From one content of a container to another: the entries stay within the capacity, if they
were, and every stack that is new stays within the stack limit. -/
structure Fills (c c' : ItemContainer) : Prop where
  capacity : c'.capacity = c.capacity
  length : c'.items.length ≤ max c.items.length c.capacity
  counts : ∀ x ∈ c'.items, x ∈ c.items ∨ x.count ≤ maxItemStackCount

variable {c c' c'' : ItemContainer} {x : ItemInstance} {d : ℕ × ℕ}

theorem Fills.refl (c : ItemContainer) : c.Fills c := ⟨rfl, le_max_left _ _, fun _ hx => .inl hx⟩

theorem Fills.trans (h : c.Fills c') (h' : c'.Fills c'') : c.Fills c'' := by
  refine ⟨h'.capacity.trans h.capacity, ?_, ?_⟩
  · have hfirst := h.length
    have hsecond := h'.length
    rw [h.capacity] at hsecond
    omega
  · intro x hx
    rcases h'.counts x hx with hmem | hle
    · exact h.counts x hmem
    · exact .inr hle

theorem lacking_of_kind {y : ItemInstance} {kind : ItemKind} (h : y.kind = kind) :
    lacking kind y = maxItemStackCount - y.count := if_pos h

/-- **A unit is taken in** exactly while there is room. -/
theorem takesIn_unit (hx : x.count = 1) : c.takesIn x = true ↔ 0 < c.unitRoom x.kind := by
  unfold takesIn unitRoom
  by_cases hstack : ∃ y ∈ c.items, y.kind = x.kind
  · rw [if_pos (holdsStackOf_iff.mpr hstack), if_pos hstack, Nat.pos_iff_ne_zero, Ne,
      List.sum_eq_zero_iff]
    unfold hasRoomFor
    rw [List.any_eq_true]
    constructor
    · rintro ⟨y, hy, hroom⟩ hzero
      obtain ⟨hkind, hcount⟩ := mergesWith_iff.mp hroom
      have hfull := hzero _ (List.mem_map_of_mem hy)
      rw [lacking_of_kind hkind] at hfull
      omega
    · intro hsome
      push Not at hsome
      obtain ⟨n, hn, hpos⟩ := hsome
      obtain ⟨y, hy, rfl⟩ := List.mem_map.mp hn
      refine ⟨y, hy, mergesWith_iff.mpr ?_⟩
      unfold lacking at hpos
      split at hpos
      · rename_i hkind
        exact ⟨hkind, by omega⟩
      · exact absurd rfl hpos
  · rw [if_neg (fun h => hstack (holdsStackOf_iff.mp h)), if_neg hstack]
    have hlimit : 0 < maxItemStackCount := by decide
    unfold isFull
    by_cases hroom : c.items.length < c.capacity
    · simp [hroom, hlimit]
    · simp [hroom]

/-- A unit that is taken in uses up one of the room. -/
theorem unitRoom_mergeOrInsertStack (hx : x.count = 1)
    (h : c.mergeOrInsertStack x = .ok (d, c')) : c'.unitRoom x.kind + 1 = c.unitRoom x.kind := by
  rcases mergeOrInsertStack_eq_ok h with ⟨i, y, hi, hk, hc, -, rfl⟩ | ⟨hfresh, hlt, -, rfl⟩
  · have hold : ∃ z ∈ c.items, z.kind = x.kind := ⟨y, List.mem_of_getElem? hi, hk⟩
    have hnew : ∃ z ∈ (c.setItem i { y with count := y.count + x.count }).items,
        z.kind = x.kind :=
      ⟨_, List.mem_set (List.getElem?_eq_some_iff.mp hi).1 _, hk⟩
    have hsum := Indices.sum_map_set (lacking x.kind) { y with count := y.count + x.count } hi
    rw [lacking_of_kind hk, lacking_of_kind (show ItemInstance.kind
      { y with count := y.count + x.count } = x.kind from hk)] at hsum
    unfold unitRoom
    rw [if_pos hold, if_pos hnew]
    show ((c.items.set i _).map _).sum + 1 = _
    simp only at hsum
    omega
  · have hold : ¬∃ z ∈ c.items, z.kind = x.kind := fun ⟨z, hz, hkind⟩ => hfresh z hz hkind
    have hzero : (c.items.map (lacking x.kind)).sum = 0 := by
      refine List.sum_eq_zero fun n hn => ?_
      obtain ⟨z, hz, rfl⟩ := List.mem_map.mp hn
      exact if_neg (hfresh z hz)
    unfold unitRoom
    rw [if_neg hold, if_pos hlt, if_pos ⟨x, by simp, rfl⟩]
    show ((c.items ++ [x]).map _).sum + 1 = _
    rw [List.map_append, List.sum_append, hzero, List.map_singleton, List.sum_singleton,
      lacking_of_kind rfl, hx]
    decide

theorem fills_mergeOrInsertStack (hx : x.count ≤ maxItemStackCount)
    (h : c.mergeOrInsertStack x = .ok (d, c')) : c.Fills c' := by
  rcases mergeOrInsertStack_eq_ok h with ⟨i, y, hi, hk, hc, -, rfl⟩ | ⟨hfresh, hlt, -, rfl⟩
  · refine ⟨rfl, ?_, ?_⟩
    · show (c.items.set i _).length ≤ _
      rw [List.length_set]
      exact le_max_left _ _
    · intro z hz
      rcases List.mem_or_eq_of_mem_set hz with hold | rfl
      · exact .inl hold
      · exact .inr hc
  · refine ⟨rfl, ?_, ?_⟩
    · show (c.items ++ [x]).length ≤ _
      rw [List.length_append, List.length_singleton]
      exact le_trans hlt (le_max_right _ _)
    · intro z hz
      rcases List.mem_append.mp hz with hold | hnew
      · exact .inl hold
      · rw [List.mem_singleton.mp hnew]
        exact .inr hx

end ItemContainer

/-! ### One unit over the windows -/

namespace PlayerContainers

/-- How many single units of a kind the accepted windows take in, one after the other. -/
def unitRoom (cs : PlayerContainers) (accepts : PlayerContainer → Bool) (kind : ItemKind) : ℕ :=
  cs.containers.sumValues fun c => if accepts c then c.items.unitRoom kind else 0

/-- The windows are the same, and only their entries have been filled. -/
def Fills (cs cs' : PlayerContainers) : Prop :=
  ∀ id, Option.Rel (fun c c' => c' = { c with items := c'.items } ∧ c.items.Fills c'.items)
    (cs.container id) (cs'.container id)

variable {cs cs' cs'' : PlayerContainers} {accepts : PlayerContainer → Bool} {x : ItemInstance}
  {ids : List ℕ} {id : ℕ} {c : PlayerContainer} {d : ℕ × ℕ} {items : ItemContainer}

theorem Fills.refl (cs : PlayerContainers) : cs.Fills cs := by
  intro id
  cases cs.container id with
  | none => exact .none
  | some c => exact .some ⟨rfl, ItemContainer.Fills.refl c.items⟩

theorem Fills.trans (h : cs.Fills cs') (h' : cs'.Fills cs'') : cs.Fills cs'' := by
  intro id
  have hfirst := h id
  have hsecond := h' id
  generalize cs.container id = a at hfirst ⊢
  generalize cs'.container id = b at hfirst hsecond
  generalize cs''.container id = c at hsecond ⊢
  cases hfirst with
  | none =>
    cases hsecond
    exact .none
  | some hfirst =>
    cases hsecond with
    | some hsecond =>
      refine .some ⟨?_, hfirst.2.trans hsecond.2⟩
      rw [hsecond.1, hfirst.1]

/-- **One item offered to the windows**: the first accepted window that takes it in is written, and
nothing changes when there is none. -/
theorem placeStack_spec (accepts : PlayerContainer → Bool) (x : ItemInstance) (ids : List ℕ)
    (cs : PlayerContainers) :
    (∃ id c d items, cs.container id = some c ∧ accepts c = true ∧
      c.items.mergeOrInsertStack x = .ok (d, items) ∧
      placeStack accepts x ids cs = .ok (true, cs.setItems id items)) ∨
    (∀ id ∈ ids, ∀ c, cs.container id = some c → accepts c = true →
      c.items.takesIn x = false) ∧ placeStack accepts x ids cs = .ok (false, cs) := by
  induction ids with
  | nil => exact .inr ⟨fun id hid => absurd hid List.not_mem_nil, rfl⟩
  | cons id ids ih =>
    cases hc : cs.container id with
    | none =>
      have hrun : placeStack accepts x (id :: ids) cs = placeStack accepts x ids cs := by
        rw [placeStack, remove, hc]
        rfl
      rw [hrun]
      refine ih.imp_right fun h => ⟨?_, h.2⟩
      intro j hj c hjc
      rcases List.mem_cons.mp hj with rfl | hj
      · rw [hc] at hjc
        cases hjc
      · exact h.1 j hj c hjc
    | some c =>
      have hremove : cs.remove id = some (c, cs.without id) := remove_eq_some.mpr ⟨hc, rfl⟩
      have hback : (cs.without id).insert c = .ok (none, cs) := by
        have hwrite := insert_without hc c.items
        rw [setItems_self hc] at hwrite
        exact hwrite
      -- a window that is not accepted, or does not take the item in, is put back
      have hpass (hnone : (if accepts c then (c.items.mergeOrInsertStack x).toOption else none) =
          none) : placeStack accepts x (id :: ids) cs = placeStack accepts x ids cs := by
        rw [placeStack, hremove]
        simp only [hnone, hback, bind, Except.bind]
      have hrest (hrefuses : accepts c = true → c.items.takesIn x = false)
          (h : ∀ j ∈ ids, ∀ c, cs.container j = some c → accepts c = true →
            c.items.takesIn x = false) (j : ℕ) (hj : j ∈ id :: ids) (c' : PlayerContainer)
          (hjc : cs.container j = some c') (haccepts : accepts c' = true) :
          c'.items.takesIn x = false := by
        rcases List.mem_cons.mp hj with rfl | hj
        · rw [hc] at hjc
          cases hjc
          exact hrefuses haccepts
        · exact h j hj c' hjc haccepts
      by_cases haccepts : accepts c = true
      · cases hmerge : c.items.mergeOrInsertStack x with
        | ok out =>
          refine .inl ⟨id, c, out.1, out.2, hc, haccepts, hmerge, ?_⟩
          rw [placeStack, hremove]
          simp only [haccepts, if_true, hmerge, Except.toOption, insert_without hc, bind,
            Except.bind]
        | error e =>
          have hrefuses : c.items.takesIn x = false := by
            rw [← Bool.not_eq_true, ← ItemContainer.mergeOrInsertStack_isOk]
            rintro ⟨out, hout⟩
            rw [hmerge] at hout
            cases hout
          rw [hpass (by rw [if_pos haccepts, hmerge]; rfl)]
          exact ih.imp_right fun h => ⟨hrest (fun _ => hrefuses) h.1, h.2⟩
      · rw [hpass (if_neg haccepts)]
        exact ih.imp_right fun h => ⟨hrest (fun h => absurd h haccepts) h.1, h.2⟩

/-- The operator's round over the windows is the one of the shops, with every window accepted. -/
theorem placeStack_placeUnit (x : ItemInstance) (ids : List ℕ) (cs : PlayerContainers) :
    placeStack (fun _ => true) x ids cs = .ok (placeUnit x ids cs) := by
  induction ids generalizing cs with
  | nil => rfl
  | cons id ids ih =>
    rw [placeStack, placeUnit]
    cases hremove : cs.remove id with
    | none => exact ih cs
    | some out =>
      obtain ⟨c, rest⟩ := out
      obtain ⟨hc, rfl⟩ := remove_eq_some.mp hremove
      have hback : (cs.without id).insert c = .ok (none, cs) := by
        have hwrite := insert_without hc c.items
        rw [setItems_self hc] at hwrite
        exact hwrite
      cases hmerge : c.items.mergeOrInsertStack x with
      | ok out =>
        simp only [if_true, hmerge, Except.toOption, insert_without hc, putBack_without hc, bind,
          Except.bind]
      | error e =>
        simp only [if_true, hmerge, Except.toOption, hback, bind, Except.bind]
        exact ih cs

/-- A unit that is taken in uses up one of the room. -/
theorem placed_unitRoom (hitems : ∀ c items, accepts { c with items := items } = accepts c)
    (hx : x.count = 1) (hc : cs.container id = some c) (haccepts : accepts c = true)
    (hmerge : c.items.mergeOrInsertStack x = .ok (d, items)) :
    (cs.setItems id items).unitRoom accepts x.kind + 1 = cs.unitRoom accepts x.kind := by
  have hset := KeyedMap.sumValues_modify (g := fun c : PlayerContainer => { c with items })
    (fun _ => rfl) (fun c => if accepts c then c.items.unitRoom x.kind else 0) hc
  have hget := KeyedMap.sumValues_of_get?
    (fun c : PlayerContainer => if accepts c then c.items.unitRoom x.kind else 0) hc
  have hroom := ItemContainer.unitRoom_mergeOrInsertStack hx hmerge
  unfold unitRoom setItems
  rw [hset, hget, hitems, haccepts]
  simp only [if_true]
  omega

theorem placed_units (hx : x.count = 1) (hcontents : x.contents = [])
    (hc : cs.container id = some c) (hmerge : c.items.mergeOrInsertStack x = .ok (d, items)) :
    (cs.setItems id items).units = cs.units + {x.kind} := by
  have hset := units_setItems hc items
  have hunits := ItemContainer.units_mergeOrInsertStack hmerge
  have hnone : x.contentUnits = 0 := by
    unfold ItemInstance.contentUnits
    rw [hcontents, ItemInstance.unitsOf_nil]
  have hone : x.units = {x.kind} := by
    rw [ItemInstance.units_eq, hnone, hx, add_zero, Multiset.replicate_one]
  rw [hnone, ite_self, add_zero, hone] at hunits
  rw [hunits, add_comm c.items.units, ← add_assoc] at hset
  exact add_right_cancel hset

theorem placed_fills (hx : x.count ≤ maxItemStackCount) (hc : cs.container id = some c)
    (hmerge : c.items.mergeOrInsertStack x = .ok (d, items)) : cs.Fills (cs.setItems id items) := by
  intro j
  rw [container_setItems]
  by_cases hj : id = j
  · subst hj
    rw [if_pos rfl, hc]
    exact .some ⟨rfl, ItemContainer.fills_mergeOrInsertStack hx hmerge⟩
  · rw [if_neg hj]
    exact Fills.refl cs j

theorem unitRoom_eq_zero (hx : x.count = 1)
    (h : ∀ id ∈ cs.ids, ∀ c, cs.container id = some c → accepts c = true →
      c.items.takesIn x = false) : cs.unitRoom accepts x.kind = 0 := by
  unfold unitRoom KeyedMap.sumValues OrderedMap.sumValues
  refine List.sum_eq_zero fun n hn => ?_
  obtain ⟨entry, hentry, rfl⟩ := List.mem_map.mp hn
  have hc : cs.container entry.1 = some entry.2 :=
    Std.ExtTreeMap.mem_toList_iff_getElem?_eq_some.mp hentry
  dsimp only
  split
  · rename_i haccepts
    have hrefuses := h entry.1 (mem_ids.mpr ⟨entry.2, hc⟩) entry.2 hc haccepts
    rw [← Bool.not_eq_true, ItemContainer.takesIn_unit hx] at hrefuses
    omega
  · rfl

/-- So many units of a kind have been put into the accepted windows. -/
structure Placed (accepts : PlayerContainer → Bool) (kind : ItemKind) (n : ℕ)
    (cs cs' : PlayerContainers) : Prop where
  units : cs'.units = cs.units + Multiset.replicate n kind
  room : cs'.unitRoom accepts kind + n = cs.unitRoom accepts kind
  fills : cs.Fills cs'

variable {kind : ItemKind} {m n : ℕ}

theorem Placed.refl (accepts : PlayerContainer → Bool) (kind : ItemKind) (cs : PlayerContainers) :
    Placed accepts kind 0 cs cs := ⟨by simp, rfl, Fills.refl cs⟩

theorem Placed.trans (h : Placed accepts kind m cs cs') (h' : Placed accepts kind n cs' cs'') :
    Placed accepts kind (n + m) cs cs'' := by
  refine ⟨?_, ?_, h.fills.trans h'.fills⟩
  · rw [h'.units, h.units, add_comm n m, Multiset.replicate_add, add_assoc]
  · rw [← add_assoc, h'.room, h.room]

/-- **One unit over all windows**: taken in while there is room. -/
theorem placeStack_unit (hitems : ∀ c items, accepts { c with items := items } = accepts c)
    (hx : x.count = 1) (hcontents : x.contents = []) :
    (∃ cs', placeStack accepts x cs.ids cs = .ok (true, cs') ∧ Placed accepts x.kind 1 cs cs') ∨
      cs.unitRoom accepts x.kind = 0 ∧ placeStack accepts x cs.ids cs = .ok (false, cs) := by
  rcases placeStack_spec accepts x cs.ids cs with
    ⟨id, c, d, items, hc, haccepts, hmerge, hrun⟩ | ⟨hrefuses, hrun⟩
  · have hlimit : x.count ≤ maxItemStackCount := by rw [hx]; decide
    refine .inl ⟨_, hrun, ?_, placed_unitRoom hitems hx hc haccepts hmerge,
      placed_fills hlimit hc hmerge⟩
    rw [placed_units hx hcontents hc hmerge, Multiset.replicate_one]
  · exact .inr ⟨unitRoom_eq_zero hx hrefuses, hrun⟩

end PlayerContainers

/-! ### The whole count -/

open PlayerContainers

/-- The units that are placed, and none of the rest once there is no room. -/
theorem insertUnits_placed {itemId : ℕ} (hid : itemId ≠ 0) (count : ℕ) (cs : PlayerContainers) :
    ∃ placed ≤ count, Placed (fun _ => true) ⟨itemId, none, none⟩ placed cs
        (insertUnitsIntoContainers itemId count cs).1 ∧
      (insertUnitsIntoContainers itemId count cs).2 = count - placed ∧
      (placed < count → (insertUnitsIntoContainers itemId count cs).1.unitRoom (fun _ => true)
        ⟨itemId, none, none⟩ = 0) := by
  induction count generalizing cs with
  | zero => exact ⟨0, le_rfl, Placed.refl _ _ cs, rfl, fun h => absurd h (Nat.lt_irrefl 0)⟩
  | succ count ih =>
    have hnew : ItemInstance.new itemId 1 = .ok ⟨itemId, 1, none, none, []⟩ := by
      simp [ItemInstance.new, hid, maxItemStackCount]
    have hoffer := placeStack_placeUnit ⟨itemId, 1, none, none, []⟩ cs.ids cs
    rcases @placeStack_unit cs (fun _ => true) ⟨itemId, 1, none, none, []⟩ (fun _ _ => rfl) rfl rfl
      with ⟨cs', hrun, hone⟩ | ⟨hfull, hrun⟩
    · have hout : placeUnit ⟨itemId, 1, none, none, []⟩ cs.ids cs = (true, cs') :=
        Except.ok.inj (hoffer.symm.trans hrun)
      obtain ⟨placed, hle, hplaced, hleft, hroom⟩ := ih cs'
      have hnext : insertUnitsIntoContainers itemId (count + 1) cs =
          insertUnitsIntoContainers itemId count cs' := by
        simp only [insertUnitsIntoContainers, hnew, hout, if_true, Nat.add_zero]
      rw [hnext]
      refine ⟨placed + 1, by omega, hone.trans hplaced, ?_, fun h => hroom (by omega)⟩
      rw [hleft]
      omega
    · have hout : placeUnit ⟨itemId, 1, none, none, []⟩ cs.ids cs = (false, cs) :=
        Except.ok.inj (hoffer.symm.trans hrun)
      obtain ⟨placed, hle, hplaced, hleft, -⟩ := ih cs
      have hnext : insertUnitsIntoContainers itemId (count + 1) cs =
          ((insertUnitsIntoContainers itemId count cs).1,
            (insertUnitsIntoContainers itemId count cs).2 + 1) := by
        simp only [insertUnitsIntoContainers, hnew, hout, Bool.false_eq_true, if_false]
      have hkept := hplaced.room
      rw [show cs.unitRoom (fun _ => true) ⟨itemId, none, none⟩ = 0 from hfull] at hkept
      rw [hnext]
      refine ⟨placed, by omega, hplaced, ?_, fun _ => ?_⟩
      · show (insertUnitsIntoContainers itemId count cs).2 + 1 = count + 1 - placed
        omega
      · show (insertUnitsIntoContainers itemId count cs).1.unitRoom (fun _ => true) _ = 0
        omega

/-- **What is left over** of units of an item is what the windows have no room for; the rest is in
them, and they stay within their capacities and the stack limit. -/
theorem insertUnitsIntoContainers_placed (cs : PlayerContainers) {itemId : ℕ} (hid : itemId ≠ 0)
    (count : ℕ) :
    (insertUnitsIntoContainers itemId count cs).2 =
        count - cs.unitRoom (fun _ => true) ⟨itemId, none, none⟩ ∧
      (insertUnitsIntoContainers itemId count cs).1.units = cs.units +
        Multiset.replicate (count - (insertUnitsIntoContainers itemId count cs).2)
          ⟨itemId, none, none⟩ ∧
      cs.Fills (insertUnitsIntoContainers itemId count cs).1 := by
  obtain ⟨placed, hle, hplaced, hleft, hfull⟩ := insertUnits_placed hid count cs
  have hroom := hplaced.room
  refine ⟨?_, ?_, hplaced.fills⟩
  · by_cases hall : placed < count
    · have hzero := hfull hall
      omega
    · omega
  · rw [hplaced.units, hleft]
    congr 2
    omega

/-- Five coins for a bag with one stack of ninety-eight. -/
theorem insertUnitsIntoContainers_placed_coins :
    (insertUnitsIntoContainers 2148 5 (coinWindows 98)).2 = 3 :=
  (insertUnitsIntoContainers_placed (coinWindows 98) (by decide) 5).1.trans (by decide +kernel)

/-- What free entries and partly filled stacks leave room for together. -/
def PlayerContainers.openRoom (cs : PlayerContainers) (kind : ItemKind) : ℕ :=
  cs.total fun c => (c.items.map (ItemContainer.lacking kind)).sum +
    (c.capacity - c.items.length) * maxItemStackCount

/-- **A full stack keeps the free entries of its window shut**: one coin is refused by a bag with
seven free entries. -/
theorem fullStack_refuses : ¬∀ (cs : PlayerContainers) (itemId count : ℕ),
    itemId ≠ 0 → count ≤ cs.openRoom ⟨itemId, none, none⟩ →
      (insertUnitsIntoContainers itemId count cs).2 = 0 := by
  intro h
  have hroom : 1 ≤ (coinWindows 100).openRoom ⟨2148, none, none⟩ := by decide +kernel
  have hcoin : (insertUnitsIntoContainers 2148 1 (coinWindows 100)).2 = 1 := by decide +kernel
  have hnone := h (coinWindows 100) 2148 1 (by decide) hroom
  omega

end ForgottenEngine
