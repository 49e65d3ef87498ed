import ForgottenEngine.Trade
import ForgottenEngine.Library.PartialFold

/-!
# The three passes of an exchange on the windows of one player

The passes of `executePlayerTrade` touch nothing but the container windows of one player at a
time.  Here each pass is a function on those windows.

* `takeOffered` — the references are taken out one after the other; `takeOffered_gives` says where
  each item lay before anything moved (`origin`), `total_takeOffered` that nothing is lost;
* `restoreAll` — what putting items back makes of a window (`itemsAt_restoreAll`);
* `receive` — the first window that takes an item, and `receiveAll` for a list of items.

Windows are compared by `shape`, everything but the items, and `itemsAt`, the items.
-/

namespace ForgottenEngine

open PartialFold

namespace PlayerContainers

/-! ### Shape and items -/

/-- A window without its items. -/
def shape (cs : PlayerContainers) (id : ℕ) : Option PlayerContainer :=
  (cs.container id).map fun c => { c with items := ⟨c.items.capacity, []⟩ }

/-- The items of a window; none when there is no such window. -/
def itemsAt (cs : PlayerContainers) (id : ℕ) : List ItemInstance :=
  (cs.container id).elim [] fun c => c.items.items

def capacityAt (cs : PlayerContainers) (id : ℕ) : ℕ :=
  (cs.container id).elim 0 fun c => c.items.capacity

/-- The two tables have the same windows, up to the items in them. -/
def SameShape (cs ds : PlayerContainers) : Prop := ∀ id, cs.shape id = ds.shape id

theorem SameShape.refl (cs : PlayerContainers) : cs.SameShape cs := fun _ => rfl

theorem SameShape.trans {cs ds es : PlayerContainers} (h : cs.SameShape ds) (h' : ds.SameShape es) :
    cs.SameShape es := fun id => (h id).trans (h' id)

theorem SameShape.symm {cs ds : PlayerContainers} (h : cs.SameShape ds) : ds.SameShape cs :=
  fun id => (h id).symm

theorem SameShape.capacityAt {cs ds : PlayerContainers} (h : cs.SameShape ds) (id : ℕ) :
    cs.capacityAt id = ds.capacityAt id := by
  have h := h id
  unfold shape at h
  unfold PlayerContainers.capacityAt
  cases hc : cs.container id <;> cases hd : ds.container id <;> simp_all

theorem SameShape.container {cs ds : PlayerContainers} (h : cs.SameShape ds) {id : ℕ}
    {c : PlayerContainer} (hc : cs.container id = some c) : ∃ d, ds.container id = some d := by
  have h := h id
  unfold shape at h
  cases hd : ds.container id with
  | none => simp [hc, hd] at h
  | some d => exact ⟨d, rfl⟩

/-- Windows of one shape with the same items are the same windows. -/
theorem SameShape.eq {cs ds : PlayerContainers} (h : cs.SameShape ds)
    (hitems : ∀ id, cs.itemsAt id = ds.itemsAt id) : cs = ds := by
  apply ext_container
  intro id
  have h := h id
  have hitems := hitems id
  unfold shape at h
  unfold itemsAt at hitems
  cases hc : cs.container id <;> cases hd : ds.container id <;> simp_all
  rename_i c d
  obtain ⟨h1, h2, h3, h4, h5⟩ := h
  exact PlayerContainer.ext h1 h2 h3 h4 (ItemContainer.ext h5 hitems)

/-- Overwriting the items of a window keeps the shape. -/
theorem sameShape_setItems {cs : PlayerContainers} {id : ℕ} {c : PlayerContainer}
    (h : cs.container id = some c) {items : ItemContainer} (hcap : items.capacity = c.items.capacity) :
    (cs.setItems id items).SameShape cs := by
  intro j
  unfold shape
  rw [container_setItems]
  by_cases hj : id = j
  · subst hj
    simp [h, hcap]
  · rw [if_neg hj]

theorem itemsAt_setItems {cs : PlayerContainers} {id : ℕ} {c : PlayerContainer}
    (h : cs.container id = some c) (items : ItemContainer) (j : ℕ) :
    (cs.setItems id items).itemsAt j = if id = j then items.items else cs.itemsAt j := by
  unfold itemsAt
  rw [container_setItems]
  split
  · rename_i hj
    subst hj
    simp [h]
  · rfl

theorem itemsAt_of_container {cs : PlayerContainers} {id : ℕ} {c : PlayerContainer}
    (h : cs.container id = some c) : cs.itemsAt id = c.items.items := by simp [itemsAt, h]

theorem resolve_eq (cs : PlayerContainers) (r : TradeItemReference) :
    cs.resolve r = (cs.itemsAt r.containerId)[r.itemIndex]? := by
  unfold resolve itemsAt
  cases h : cs.container r.containerId <;> simp [ItemContainer.item]

theorem container_of_resolve {cs : PlayerContainers} {r : TradeItemReference} {x : ItemInstance}
    (h : cs.resolve r = some x) :
    ∃ c, cs.container r.containerId = some c ∧ c.items.items[r.itemIndex]? = some x := by
  unfold resolve at h
  cases hc : cs.container r.containerId with
  | none => simp [hc] at h
  | some c => exact ⟨c, rfl, by simpa [hc, ItemContainer.item] using h⟩

/-! ### Taking items out -/

/-- Take the item a reference names out of its window. -/
def takeReference (cs : PlayerContainers) (r : TradeItemReference) :
    Option (ItemInstance × PlayerContainers) := do
  let container ← cs.container r.containerId
  let (item, items) ← container.items.remove r.itemIndex
  some (item, cs.setItems r.containerId items)

theorem takeReference_eq_some {cs cs' : PlayerContainers} {r : TradeItemReference}
    {x : ItemInstance} : cs.takeReference r = some (x, cs') ↔
      ∃ c, cs.container r.containerId = some c ∧ c.items.items[r.itemIndex]? = some x ∧
        cs' = cs.setItems r.containerId
          { c.items with items := c.items.items.eraseIdx r.itemIndex } := by
  unfold takeReference
  simp only [Option.bind_eq_bind, Option.bind_eq_some_iff, Option.some.injEq, Prod.mk.injEq]
  constructor
  · intro h
    obtain ⟨c, hc, ⟨y, items⟩, hrem, rfl, rfl⟩ := h
    obtain ⟨hy, rfl⟩ := ItemContainer.remove_eq_some.mp hrem
    exact ⟨c, hc, hy, rfl⟩
  · intro h
    obtain ⟨c, hc, hx, rfl⟩ := h
    exact ⟨c, hc, (x, _), ItemContainer.remove_eq_some.mpr ⟨hx, rfl⟩, rfl, rfl⟩

theorem takeReference_eq_none {cs : PlayerContainers} {r : TradeItemReference} :
    cs.takeReference r = none ↔ cs.resolve r = none := by
  rw [Option.eq_none_iff_forall_not_mem, Option.eq_none_iff_forall_not_mem]
  constructor
  · intro h x hx
    obtain ⟨c, hc, hget⟩ := container_of_resolve hx
    exact h (x, _) (takeReference_eq_some.mpr ⟨c, hc, hget, rfl⟩)
  · intro h y hy
    obtain ⟨c, hc, hget, -⟩ := takeReference_eq_some.mp hy
    exact h y.1 (by simp [resolve, hc, ItemContainer.item, hget])

/-- One round of the removal loop: the items taken so far, and the windows. -/
def takeNext (taken : List (TradeItemReference × ItemInstance) × PlayerContainers)
    (r : TradeItemReference) : Option (List (TradeItemReference × ItemInstance) × PlayerContainers) :=
  (taken.2.takeReference r).map fun out => (taken.1 ++ [(r, out.1)], out.2)

/-- Take the references out one after the other.  Each is read off the windows as the earlier ones
left them; `none` when one of them names nothing any more. -/
def takeOffered (cs : PlayerContainers) (refs : List TradeItemReference) :
    Option (List (TradeItemReference × ItemInstance) × PlayerContainers) :=
  refs.foldlM takeNext ([], cs)

theorem takeNext_eq_some {taken taken' : List (TradeItemReference × ItemInstance)}
    {cs cs' : PlayerContainers} {r : TradeItemReference} :
    takeNext (taken, cs) r = some (taken', cs') ↔
      ∃ x, cs.takeReference r = some (x, cs') ∧ taken' = taken ++ [(r, x)] := by
  unfold takeNext
  rw [Option.map_eq_some_iff]
  constructor
  · intro h
    obtain ⟨⟨x, ds⟩, hx, heq⟩ := h
    cases heq
    exact ⟨x, hx, rfl⟩
  · intro h
    obtain ⟨x, hx, rfl⟩ := h
    exact ⟨(x, cs'), hx, rfl⟩

/-- What a whole removal keeps, in terms of one removal. -/
theorem foldlM_takeNext_preserves
    {P : List (TradeItemReference × ItemInstance) → PlayerContainers → Prop}
    (hstep : ∀ taken cs r x cs', P taken cs → cs.takeReference r = some (x, cs') →
      P (taken ++ [(r, x)]) cs')
    {taken taken' : List (TradeItemReference × ItemInstance)} {cs cs' : PlayerContainers}
    {refs : List TradeItemReference} (hs : P taken cs)
    (h : refs.foldlM takeNext (taken, cs) = some (taken', cs')) : P taken' cs' := by
  have hfold := foldlM_preserves (f := takeNext) (P := fun s => P s.1 s.2) ?_ hs h
  · exact hfold
  · intro s r t hP hr
    obtain ⟨x, hx, heq⟩ := takeNext_eq_some.mp hr
    rw [heq]
    exact hstep s.1 s.2 r x t.2 hP hx

theorem sameShape_takeReference {cs cs' : PlayerContainers} {r : TradeItemReference}
    {x : ItemInstance} (h : cs.takeReference r = some (x, cs')) : cs'.SameShape cs := by
  obtain ⟨c, hc, -, rfl⟩ := takeReference_eq_some.mp h
  exact sameShape_setItems hc rfl

theorem itemsAt_takeReference {cs cs' : PlayerContainers} {r : TradeItemReference}
    {x : ItemInstance} (h : cs.takeReference r = some (x, cs')) (id : ℕ) :
    cs'.itemsAt id = if r.containerId = id then (cs.itemsAt id).eraseIdx r.itemIndex
      else cs.itemsAt id := by
  obtain ⟨c, hc, -, rfl⟩ := takeReference_eq_some.mp h
  rw [itemsAt_setItems hc]
  split
  · rename_i hid
    rw [← hid, itemsAt_of_container hc]
  · rfl

theorem sameShape_takeOffered {cs cs' : PlayerContainers} {refs : List TradeItemReference}
    {taken : List (TradeItemReference × ItemInstance)}
    (h : cs.takeOffered refs = some (taken, cs')) : cs'.SameShape cs := by
  refine foldlM_takeNext_preserves (P := fun _ ds => ds.SameShape cs) ?_ (.refl cs) h
  intro _ _ r x ds hds hx
  exact (sameShape_takeReference hx).trans hds

/-- A quantity that is summed over the items of a list. -/
theorem sum_eraseIdx {M : Type*} [AddCommMonoid M] (g : ItemInstance → M) {xs : List ItemInstance}
    {i : ℕ} {x : ItemInstance} (h : xs[i]? = some x) :
    (xs.map g).sum = g x + ((xs.eraseIdx i).map g).sum := by
  obtain ⟨hi, rfl⟩ := List.getElem?_eq_some_iff.mp h
  have hperm := (List.getElem_cons_eraseIdx_perm hi).map g
  rw [← hperm.sum_eq]
  simp

/-- The sum of `g` over the items of a container. -/
def itemSum {M : Type*} [AddCommMonoid M] (g : ItemInstance → M) (c : ItemContainer) : M :=
  (c.items.map g).sum

theorem units_eq_total (cs : PlayerContainers) : cs.units = cs.total (itemSum ItemInstance.units) := by
  have h : ItemContainer.units = itemSum ItemInstance.units := by
    funext c
    exact ItemInstance.unitsOf_eq_sum c.items
  rw [units, h]

/-- **Nothing is lost by a removal**: the item taken and what stays add up. -/
theorem total_takeReference {M : Type*} [AddCommMonoid M] [IsRightCancelAdd M]
    (g : ItemInstance → M) {cs cs' : PlayerContainers} {r : TradeItemReference} {x : ItemInstance}
    (h : cs.takeReference r = some (x, cs')) :
    cs.total (itemSum g) = g x + cs'.total (itemSum g) := by
  obtain ⟨c, hc, hx, rfl⟩ := takeReference_eq_some.mp h
  have hset := total_setItems (itemSum g) hc
    { c.items with items := c.items.items.eraseIdx r.itemIndex }
  have hsum : itemSum g c.items =
      g x + itemSum g { c.items with items := c.items.items.eraseIdx r.itemIndex } :=
    sum_eraseIdx g hx
  rw [hsum] at hset
  have hassoc : ∀ a b d : M, a + (b + d) = (b + a) + d := by
    intro a b d
    abel
  rw [hassoc] at hset
  exact (add_right_cancel hset).symm

theorem total_takeOffered {M : Type*} [AddCommMonoid M] [IsRightCancelAdd M] (g : ItemInstance → M)
    {cs cs' : PlayerContainers} {refs : List TradeItemReference}
    {taken : List (TradeItemReference × ItemInstance)}
    (h : cs.takeOffered refs = some (taken, cs')) :
    cs.total (itemSum g) = (taken.map fun e => g e.2).sum + cs'.total (itemSum g) := by
  refine foldlM_takeNext_preserves
    (P := fun taken ds => cs.total (itemSum g) = (taken.map fun e => g e.2).sum + ds.total (itemSum g))
    ?_ (by simp) h
  intro taken ds r x ds' hds hx
  rw [hds, total_takeReference g hx]
  simp [add_assoc]

/-! ### Where an item lay before anything moved -/

/-- The place, before `earlier` was taken out, of what `r` names afterwards. -/
def shiftBack (earlier r : TradeItemReference) : TradeItemReference :=
  if earlier.containerId = r.containerId ∧ earlier.itemIndex ≤ r.itemIndex then
    { r with itemIndex := r.itemIndex + 1 }
  else r

/-- For each reference of a list, where the item it takes lay at the start. -/
def origins : List TradeItemReference → List TradeItemReference
  | [] => []
  | r :: refs => r :: (origins refs).map (shiftBack r)

/-- A removal shifts the positions behind it. -/
theorem resolve_takeReference {cs cs' : PlayerContainers} {q : TradeItemReference} {x : ItemInstance}
    (h : cs.takeReference q = some (x, cs')) (r : TradeItemReference) :
    cs'.resolve r = cs.resolve (shiftBack q r) := by
  rw [resolve_eq, resolve_eq, itemsAt_takeReference h, shiftBack]
  by_cases hid : q.containerId = r.containerId
  · rw [if_pos hid, List.getElem?_eraseIdx]
    by_cases hle : q.itemIndex ≤ r.itemIndex
    · rw [if_neg (by omega), if_pos ⟨hid, hle⟩]
    · rw [if_pos (by omega), if_neg (by simp [hle])]
  · rw [if_neg hid, if_neg (by simp [hid])]

/-- The items a removal gives, in order, are those that lay at the origins of its references. -/
theorem foldlM_takeNext_gives {cs cs' : PlayerContainers} {refs : List TradeItemReference}
    {taken taken' : List (TradeItemReference × ItemInstance)}
    (h : refs.foldlM takeNext (taken, cs) = some (taken', cs')) :
    ∃ new, taken' = taken ++ new ∧ new.map Prod.fst = refs ∧
      new.map (fun e => some e.2) = (origins refs).map cs.resolve := by
  induction refs generalizing taken cs with
  | nil =>
    cases h
    exact ⟨[], by simp, rfl, rfl⟩
  | cons r refs ih =>
    obtain ⟨⟨taken₁, cs₁⟩, hr, hrest⟩ := foldlM_cons_eq_some.mp h
    obtain ⟨x, hx, rfl⟩ := takeNext_eq_some.mp hr
    obtain ⟨new, rfl, hrefs, hgives⟩ := ih hrest
    refine ⟨(r, x) :: new, by simp, by simp [hrefs], ?_⟩
    have hfirst : cs.resolve r = some x := by
      obtain ⟨c, hc, hget, -⟩ := takeReference_eq_some.mp hx
      simp [resolve, hc, ItemContainer.item, hget]
    have hshift : (origins refs).map cs₁.resolve =
        ((origins refs).map (shiftBack r)).map cs.resolve := by
      rw [List.map_map]
      exact List.map_congr_left fun q _ => resolve_takeReference hx q
    simp only [List.map_cons, origins, hfirst, hgives, hshift]

/-- **What the references take**: the items at their origins. -/
theorem takeOffered_gives {cs cs' : PlayerContainers} {refs : List TradeItemReference}
    {taken : List (TradeItemReference × ItemInstance)}
    (h : cs.takeOffered refs = some (taken, cs')) :
    taken.map Prod.fst = refs ∧
      taken.map (fun e => some e.2) = (origins refs).map cs.resolve := by
  obtain ⟨new, hnew, hrefs, hgives⟩ := foldlM_takeNext_gives h
  rw [List.nil_append] at hnew
  rw [hnew]
  exact ⟨hrefs, hgives⟩

/-! ### Putting items back -/

/-- Put removed items back, in the order given. -/
def restoreAll (cs : PlayerContainers) (removed : List (TradeItemReference × ItemInstance)) :
    PlayerContainers :=
  removed.foldl restoreItem cs

/-- The items among `removed` that come from one window. -/
def takenFrom (removed : List (TradeItemReference × ItemInstance)) (id : ℕ) : List ItemInstance :=
  (removed.filter fun e => e.1.containerId = id).map Prod.snd

theorem sameShape_restoreItem (cs : PlayerContainers) (e : TradeItemReference × ItemInstance) :
    (cs.restoreItem e).SameShape cs := by
  unfold restoreItem
  split
  · exact .refl cs
  · rename_i c hc
    split
    · rename_i items hins
      obtain ⟨-, rfl⟩ := ItemContainer.insert_eq_ok.mp hins
      exact sameShape_setItems hc rfl
    · exact .refl cs

theorem itemsAt_restoreItem (cs : PlayerContainers) (e : TradeItemReference × ItemInstance) (id : ℕ) :
    (cs.restoreItem e).itemsAt id =
      if e.1.containerId = id ∧ (cs.itemsAt id).length < cs.capacityAt id then cs.itemsAt id ++ [e.2]
      else cs.itemsAt id := by
  unfold restoreItem
  cases hc : cs.container e.1.containerId with
  | none =>
    by_cases hid : e.1.containerId = id
    · subst hid
      simp [capacityAt, hc]
    · rw [if_neg (by simp [hid])]
  | some c =>
    by_cases hid : e.1.containerId = id
    · subst hid
      have hcap : cs.capacityAt e.1.containerId = c.items.capacity := by simp [capacityAt, hc]
      rw [itemsAt_of_container hc, hcap]
      by_cases hlt : c.items.items.length < c.items.capacity
      · rw [if_pos ⟨rfl, hlt⟩]
        simp only [ItemContainer.insert_eq_ok.mpr ⟨hlt, rfl⟩]
        rw [itemsAt_setItems hc, if_pos rfl]
      · have hfull : c.items.insert e.2 = .error (.containerFull c.items.capacity) := by
          unfold ItemContainer.insert
          rw [if_pos (by omega)]
        rw [if_neg (by simp [hlt])]
        simp only [hfull]
        exact itemsAt_of_container hc
    · rw [if_neg (by simp [hid])]
      simp only
      split
      · rw [itemsAt_setItems hc, if_neg hid]
      · rfl

theorem sameShape_restoreAll (cs : PlayerContainers)
    (removed : List (TradeItemReference × ItemInstance)) : (cs.restoreAll removed).SameShape cs := by
  induction removed generalizing cs with
  | nil => exact .refl cs
  | cons e removed ih => exact (ih (cs.restoreItem e)).trans (sameShape_restoreItem cs e)

/-- **What putting items back makes of a window**: they follow the items that stayed, as far as
the capacity goes. -/
theorem itemsAt_restoreAll (cs : PlayerContainers)
    (removed : List (TradeItemReference × ItemInstance)) (id : ℕ) :
    (cs.restoreAll removed).itemsAt id = cs.itemsAt id ++
      (takenFrom removed id).take (cs.capacityAt id - (cs.itemsAt id).length) := by
  induction removed generalizing cs with
  | nil => simp [restoreAll, takenFrom]
  | cons e removed ih =>
    have hstep : (cs.restoreAll (e :: removed)) = (cs.restoreItem e).restoreAll removed := rfl
    rw [hstep, ih, (sameShape_restoreItem cs e).capacityAt, itemsAt_restoreItem]
    by_cases hid : e.1.containerId = id
    · have htaken : takenFrom (e :: removed) id = e.2 :: takenFrom removed id := by
        simp [takenFrom, hid]
      rw [htaken]
      by_cases hlt : (cs.itemsAt id).length < cs.capacityAt id
      · rw [if_pos ⟨hid, hlt⟩]
        obtain ⟨n, hn⟩ : ∃ n, cs.capacityAt id - (cs.itemsAt id).length = n + 1 :=
          ⟨cs.capacityAt id - (cs.itemsAt id).length - 1, by omega⟩
        have hn' : cs.capacityAt id - (cs.itemsAt id ++ [e.2]).length = n := by
          rw [List.length_append, List.length_singleton]
          omega
        rw [hn, hn', List.take_succ_cons, List.append_assoc]
        rfl
      · rw [if_neg (by simp [hlt])]
        have hzero : cs.capacityAt id - (cs.itemsAt id).length = 0 := by omega
        rw [hzero, List.take_zero, List.take_zero]
    · have htaken : takenFrom (e :: removed) id = takenFrom removed id := by
        simp [takenFrom, hid]
      rw [htaken, if_neg (by simp [hid])]

/-! ### Receiving items -/

/-- The window that takes an item, with its items afterwards: the first one, in the order of
identifiers, in which the item can be merged or inserted. -/
def firstAccepting (cs : PlayerContainers) (item : ItemInstance) : List ℕ → Option (ℕ × ItemContainer)
  | [] => none
  | id :: ids =>
    match (cs.container id).bind fun c => (c.items.mergeOrInsertStack item).toOption with
    | some (_, items) => some (id, items)
    | none => firstAccepting cs item ids

/-- The windows after one delivery; `none` when no window takes the item. -/
def receive (cs : PlayerContainers) (item : ItemInstance) : Option PlayerContainers :=
  (cs.firstAccepting item cs.ids).map fun out => cs.setItems out.1 out.2

/-- The windows after a whole delivery. -/
def receiveAll (cs : PlayerContainers) (items : List ItemInstance) : Option PlayerContainers :=
  items.foldlM receive cs

theorem firstAccepting_eq_some {cs : PlayerContainers} {x : ItemInstance} {ids : List ℕ} {id : ℕ}
    {items : ItemContainer} (h : cs.firstAccepting x ids = some (id, items)) :
    ∃ c d, cs.container id = some c ∧ c.items.mergeOrInsertStack x = .ok (d, items) := by
  induction ids with
  | nil => cases h
  | cons j ids ih =>
    unfold firstAccepting at h
    cases hc : cs.container j with
    | none =>
      simp only [hc, Option.bind_none] at h
      exact ih h
    | some c =>
      cases hm : c.items.mergeOrInsertStack x with
      | error e =>
        simp only [hc, Option.bind_some, hm, Except.toOption] at h
        exact ih h
      | ok out =>
        simp only [hc, Option.bind_some, hm, Except.toOption] at h
        cases h
        exact ⟨c, out.1, hc, hm⟩

theorem putBack_without {cs : PlayerContainers} {id : ℕ} {c : PlayerContainer}
    (h : cs.container id = some c) (items : ItemContainer) :
    (cs.without id).putBack { c with items } = cs.setItems id items := by
  unfold putBack
  rw [insert_without h]

/-- The loop over the windows finds the first one that accepts. -/
theorem placeDelivered_eq (cs : PlayerContainers) (x : ItemInstance) (ids : List ℕ) :
    placeDelivered x ids cs = match cs.firstAccepting x ids with
      | some (id, items) => (true, cs.setItems id items)
      | none => (false, cs) := by
  induction ids with
  | nil => rfl
  | cons j ids ih =>
    unfold placeDelivered firstAccepting
    cases hc : cs.container j with
    | none =>
      simp only [remove, hc, Option.map_none, Option.bind_none]
      exact ih
    | some c =>
      simp only [remove, hc, Option.map_some, Option.bind_some]
      cases hm : c.items.mergeOrInsertStack x with
      | error e =>
        have hback : (cs.without j).putBack c = cs :=
          (putBack_without hc c.items).trans (setItems_self hc)
        simp only [Except.toOption, hback]
        exact ih
      | ok out => simp only [Except.toOption, putBack_without hc]

theorem placeDelivered_ids (cs : PlayerContainers) (x : ItemInstance) :
    placeDelivered x cs.ids cs = match cs.receive x with
      | some cs' => (true, cs')
      | none => (false, cs) := by
  rw [placeDelivered_eq, receive]
  cases cs.firstAccepting x cs.ids <;> rfl

theorem receive_eq_some {cs cs' : PlayerContainers} {x : ItemInstance} (h : cs.receive x = some cs') :
    ∃ id c d items, cs.container id = some c ∧ c.items.mergeOrInsertStack x = .ok (d, items) ∧
      cs.firstAccepting x cs.ids = some (id, items) ∧ cs' = cs.setItems id items := by
  obtain ⟨⟨id, items⟩, hfirst, rfl⟩ := Option.map_eq_some_iff.mp h
  obtain ⟨c, d, hc, hm⟩ := firstAccepting_eq_some hfirst
  exact ⟨id, c, d, items, hc, hm, hfirst, rfl⟩

/-- Neither way of taking a stack in touches the capacity. -/
theorem mergeOrInsertStack_capacity {c c' : ItemContainer} {x : ItemInstance} {d : ℕ × ℕ}
    (h : c.mergeOrInsertStack x = .ok (d, c')) : c'.capacity = c.capacity := by
  rcases ItemContainer.mergeOrInsertStack_eq_ok h with ⟨i, y, -, -, -, -, rfl⟩ | ⟨-, -, -, rfl⟩
  · rfl
  · rfl

theorem sameShape_receive {cs cs' : PlayerContainers} {x : ItemInstance}
    (h : cs.receive x = some cs') : cs'.SameShape cs := by
  obtain ⟨id, c, d, items, hc, hm, -, rfl⟩ := receive_eq_some h
  exact sameShape_setItems hc (mergeOrInsertStack_capacity hm)

theorem sameShape_receiveAll {cs cs' : PlayerContainers} {xs : List ItemInstance}
    (h : cs.receiveAll xs = some cs') : cs'.SameShape cs := by
  refine foldlM_preserves (f := receive) (P := fun ds => ds.SameShape cs) ?_ (.refl cs) h
  intro ds x ds' hds hx
  exact (sameShape_receive hx).trans hds

/-- The number of top-level entries. -/
def entryCount (cs : PlayerContainers) : ℕ := cs.total (itemSum fun _ => 1)

/-- A delivery adds at most one entry. -/
theorem entryCount_receive {cs cs' : PlayerContainers} {x : ItemInstance}
    (h : cs.receive x = some cs') : cs'.entryCount ≤ cs.entryCount + 1 := by
  obtain ⟨id, c, d, items, hc, hm, -, rfl⟩ := receive_eq_some h
  have hset := total_setItems (itemSum fun _ => 1) hc items
  have hle : itemSum (fun _ => 1) items ≤ itemSum (fun _ => 1) c.items + 1 := by
    rcases ItemContainer.mergeOrInsertStack_eq_ok hm with ⟨i, y, -, -, -, -, rfl⟩ | ⟨-, -, -, rfl⟩
    · simp [itemSum, ItemContainer.setItem]
    · simp [itemSum]
  unfold entryCount
  omega

theorem entryCount_receiveAll {cs cs' : PlayerContainers} {xs : List ItemInstance}
    (h : cs.receiveAll xs = some cs') : cs'.entryCount ≤ cs.entryCount + xs.length := by
  induction xs generalizing cs with
  | nil =>
    cases h
    exact Nat.le_refl _
  | cons x xs ih =>
    obtain ⟨ds, hx, hrest⟩ := foldlM_cons_eq_some.mp h
    have h1 := entryCount_receive hx
    have h2 := ih hrest
    rw [List.length_cons]
    omega

/-- The units that merging a delivered item drops: its nested contents, when the window that takes
it already has a stack of its kind. -/
def mergeLoss (cs : PlayerContainers) (x : ItemInstance) : Multiset ItemKind :=
  match cs.firstAccepting x cs.ids with
  | none => 0
  | some (id, _) => if (cs.container id).any (·.items.holdsStackOf x) then x.contentUnits else 0

theorem units_receive {cs cs' : PlayerContainers} {x : ItemInstance} (h : cs.receive x = some cs') :
    cs'.units + cs.mergeLoss x = cs.units + x.units := by
  obtain ⟨id, c, d, items, hc, hm, hfirst, rfl⟩ := receive_eq_some h
  have hset := units_setItems hc items
  have hmerge := ItemContainer.units_mergeOrInsertStack hm
  have hloss : cs.mergeLoss x = if c.items.holdsStackOf x then x.contentUnits else 0 := by
    simp [mergeLoss, hfirst, hc]
  rw [hloss]
  apply add_right_cancel (b := c.items.units)
  calc (cs.setItems id items).units + (if c.items.holdsStackOf x then x.contentUnits else 0)
          + c.items.units
      = ((cs.setItems id items).units + c.items.units)
          + (if c.items.holdsStackOf x then x.contentUnits else 0) := by abel
    _ = cs.units + (items.units + (if c.items.holdsStackOf x then x.contentUnits else 0)) := by
        rw [hset, add_assoc]
    _ = cs.units + x.units + c.items.units := by rw [hmerge]; abel

end PlayerContainers

end ForgottenEngine
