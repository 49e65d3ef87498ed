import ForgottenEngine.TradeEffects
import ForgottenEngine.TradeWindows

/-!
# How an exchange of offers ends

`Exchange` lists the six ways `exchangeOffers` can end, each with the condition on the windows at
the start that leads there and the windows it leaves: a reference that resolves to nothing, a
position that has moved away on either side, a delivery that finds no room on either side, and a
completed exchange.  `exchangeOffers_cases` shows that there is no other way.
-/

namespace ForgottenEngine

open Fallible PartialFold

namespace WorldState

/-- Overwrite the windows of a player who has a table entry. -/
def withContainers (w : WorldState) (p : ℕ) (cs : PlayerContainers) : WorldState :=
  match w.playerContainers[p]? with
  | none => w
  | some _ => w.putContainers p cs

variable {w : WorldState} {p q : ℕ}

theorem withContainers_of_some {cs : PlayerContainers} (h : w.playerContainers[p]? = some cs)
    (ds : PlayerContainers) : w.withContainers p ds = w.putContainers p ds := by
  simp [withContainers, h]

theorem withContainers_of_none (h : w.playerContainers[p]? = none) (ds : PlayerContainers) :
    w.withContainers p ds = w := by simp [withContainers, h]

theorem withContainers_self (w : WorldState) (p : ℕ) : w.withContainers p (w.containersOf p) = w := by
  cases h : w.playerContainers[p]? with
  | none => exact withContainers_of_none h _
  | some cs => rw [withContainers_of_some h, containersOf_eq h, putContainers_self h]

theorem withContainers_withContainers (w : WorldState) (p : ℕ) (cs ds : PlayerContainers) :
    (w.withContainers p cs).withContainers p ds = w.withContainers p ds := by
  cases h : w.playerContainers[p]? with
  | none => rw [withContainers_of_none h]
  | some es =>
    have hget : (w.putContainers p cs).playerContainers[p]? = some cs := by simp
    rw [withContainers_of_some h, withContainers_of_some h, withContainers_of_some hget,
      putContainers_putContainers]

theorem withContainers_get_ne (h : p ≠ q) (cs : PlayerContainers) :
    (w.withContainers p cs).playerContainers[q]? = w.playerContainers[q]? := by
  unfold withContainers
  split
  · rfl
  · simp [h]

theorem withContainers_comm (w : WorldState) (h : p ≠ q) (cs ds : PlayerContainers) :
    (w.withContainers p cs).withContainers q ds = (w.withContainers q ds).withContainers p cs := by
  cases hp : w.playerContainers[p]? with
  | none =>
    have hp' : (w.withContainers q ds).playerContainers[p]? = none := by
      rw [withContainers_get_ne (Ne.symm h), hp]
    rw [withContainers_of_none hp, withContainers_of_none hp']
  | some es =>
    have hp' : (w.withContainers q ds).playerContainers[p]? = some es := by
      rw [withContainers_get_ne (Ne.symm h), hp]
    rw [withContainers_of_some hp, withContainers_of_some hp']
    cases hq : w.playerContainers[q]? with
    | none =>
      have hq' : (w.putContainers p cs).playerContainers[q]? = none := by simp [h, hq]
      rw [withContainers_of_none hq, withContainers_of_none hq']
    | some fs =>
      have hq' : (w.putContainers p cs).playerContainers[q]? = some fs := by simp [h, hq]
      rw [withContainers_of_some hq, withContainers_of_some hq', putContainers_comm w h]

theorem containersOf_withContainers_ne (h : p ≠ q) (cs : PlayerContainers) :
    (w.withContainers p cs).containersOf q = w.containersOf q := by
  unfold containersOf
  rw [withContainers_get_ne h]

/-- Windows of the right shape are read back; a player without an entry has none to begin with. -/
theorem containersOf_withContainers {cs : PlayerContainers} (h : cs.SameShape (w.containersOf p)) :
    (w.withContainers p cs).containersOf p = cs := by
  cases hp : w.playerContainers[p]? with
  | none =>
    have hempty : w.containersOf p = .empty := by simp [containersOf, hp]
    rw [withContainers_of_none hp, hempty]
    rw [hempty] at h
    refine h.symm.eq fun id => ?_
    have hid := h id
    have hnone : PlayerContainers.empty.container id = none := KeyedMap.get?_empty id
    unfold PlayerContainers.shape at hid
    unfold PlayerContainers.itemsAt
    cases hc : cs.container id with
    | none => rw [hnone]
    | some c => simp [hc, hnone] at hid
  | some es => rw [withContainers_of_some hp, containersOf_eq (putContainers_get w p p cs |>.trans (if_pos rfl))]

@[simp] theorem withContainers_equipmentOf (cs : PlayerContainers) :
    (w.withContainers p cs).equipmentOf q = w.equipmentOf q := by
  unfold withContainers
  split <;> rfl

@[simp] theorem withContainers_trades (cs : PlayerContainers) :
    (w.withContainers p cs).activeTrades = w.activeTrades := by
  unfold withContainers
  split <;> rfl

/-- A player whose windows hold something has an entry. -/
theorem exists_of_container {id : ℕ} {c : PlayerContainer}
    (h : (w.containersOf p).container id = some c) :
    ∃ cs, w.playerContainers[p]? = some cs ∧ w.containersOf p = cs := by
  cases hp : w.playerContainers[p]? with
  | none =>
    have hempty : w.containersOf p = .empty := by simp [containersOf, hp]
    have hnone : PlayerContainers.empty.container id = none := KeyedMap.get?_empty id
    rw [hempty, hnone] at h
    cases h
  | some cs => exact ⟨cs, rfl, containersOf_eq hp⟩

end WorldState

namespace World

open WorldState PlayerContainers

variable {w w' : WorldState} {owner : ℕ}

/-! ### Pass 1 -/

/-- The lookup of the first pass. -/
abbrev lookup (owner : ℕ) (r : TradeItemReference) (w : WorldState) : Option ItemInstance :=
  w.playerContainers[owner]?.bind (·.resolve r)

theorem resolve_containersOf (w : WorldState) (owner : ℕ) (r : TradeItemReference) :
    lookup owner r w = (w.containersOf owner).resolve r := by
  unfold lookup containersOf
  cases w.playerContainers[owner]? with
  | none => rfl
  | some cs => rfl

/-- All references name an item at the start. -/
def Resolves (cs : PlayerContainers) (refs : List TradeItemReference) : Prop :=
  ∀ r ∈ refs, ∃ x, cs.resolve r = some x

theorem resolveOffered_of_resolves {refs : List TradeItemReference}
    (h : Resolves (w.containersOf owner) refs) :
    ∃ l, resolveOffered owner refs w = (.ok l, w) ∧ l.map Prod.fst = refs := by
  induction refs with
  | nil => exact ⟨[], rfl, rfl⟩
  | cons r refs ih =>
    obtain ⟨x, hx⟩ := h r List.mem_cons_self
    obtain ⟨l, hl, hrefs⟩ := ih fun q hq => h q (List.mem_cons_of_mem r hq)
    refine ⟨(r, x) :: l, ?_, by rw [List.map_cons, hrefs]⟩
    rw [resolveOffered, bind_of_ok (readOr_of_some (f := lookup owner r) _
      ((resolve_containersOf w owner r).trans hx)), bind_of_ok hl]
    rfl

theorem resolveOffered_of_not_resolves {refs : List TradeItemReference}
    (h : ¬Resolves (w.containersOf owner) refs) :
    ∃ e, resolveOffered owner refs w = (.error e, w) := by
  induction refs with
  | nil => exact absurd (fun r hr => absurd hr List.not_mem_nil) h
  | cons r refs ih =>
    rw [resolveOffered]
    cases hx : (w.containersOf owner).resolve r with
    | none =>
      exact ⟨_, bind_of_error (readOr_of_none (f := lookup owner r) _
        ((resolve_containersOf w owner r).trans hx))⟩
    | some x =>
      rw [bind_of_ok (readOr_of_some (f := lookup owner r) _
        ((resolve_containersOf w owner r).trans hx))]
      have hrest : ¬Resolves (w.containersOf owner) refs := by
        intro hall
        apply h
        intro q hq
        rcases List.mem_cons.mp hq with rfl | hq
        · exact ⟨x, hx⟩
        · exact hall q hq
      obtain ⟨e, he⟩ := ih hrest
      exact ⟨e, bind_of_error he⟩

/-! ### Putting back -/

theorem restoreRemoved_apply (owner : ℕ) (removed : List (TradeItemReference × ItemInstance))
    (w : WorldState) : restoreRemoved owner removed w =
      (.ok (), w.withContainers owner ((w.containersOf owner).restoreAll removed)) := by
  induction removed generalizing w with
  | nil =>
    have hself : w.withContainers owner ((w.containersOf owner).restoreAll []) = w :=
      withContainers_self w owner
    rw [hself]
    rfl
  | cons e removed ih =>
    rw [restoreRemoved, bind_of_ok (read_apply _ w)]
    cases hp : w.playerContainers[owner]? with
    | none =>
      have hnone (cs : PlayerContainers) : w.withContainers owner cs = w :=
        withContainers_of_none hp cs
      show restoreRemoved owner removed w = _
      rw [ih, hnone, hnone]
    | some cs =>
      have hget : (w.putContainers owner (cs.restoreItem e)).playerContainers[owner]? =
          some (cs.restoreItem e) := by simp
      show (storeContainers owner (cs.restoreItem e) >>= fun _ => restoreRemoved owner removed) w = _
      rw [bind_of_ok (storeContainers_apply owner _ w), ih, withContainers_of_some hget,
        withContainers_of_some hp, putContainers_putContainers, containersOf_eq hget,
        containersOf_eq hp]
      rfl

/-! ### Pass 2 -/

/-- The lookup in front of every round of the removal loop. -/
theorem readOr_windows {cs : PlayerContainers} (e : CoreError)
    (h : w.playerContainers[owner]? = some cs) :
    (readOr (fun w : WorldState => w.playerContainers[owner]?) e : WorldM PlayerContainers) w =
      (.ok cs, w) :=
  readOr_of_some (f := fun w : WorldState => w.playerContainers[owner]?) e h

/-- A step of the removal loop that finds its item. -/
theorem removeOffered_cons {removed : List (TradeItemReference × ItemInstance)}
    {r : TradeItemReference} {y x : ItemInstance} {cs' : PlayerContainers}
    (resolved : List (TradeItemReference × ItemInstance))
    (h : (w.containersOf owner).takeReference r = some (x, cs')) :
    removeOffered owner removed ((r, y) :: resolved) w =
      removeOffered owner (removed ++ [(r, x)]) resolved (w.withContainers owner cs') := by
  obtain ⟨c, hc, hx, rfl⟩ := takeReference_eq_some.mp h
  obtain ⟨cs, hp, hcs⟩ := exists_of_container hc
  rw [hcs] at hc ⊢
  rw [removeOffered, bind_of_ok (readOr_windows _ hp)]
  simp only [hc, Fallible.bind_of_ok (ofOption_some c _ w),
    ItemContainer.remove_eq_some.mpr ⟨hx, rfl⟩]
  rw [bind_of_ok (storeContainers_apply owner _ w), withContainers_of_some hp]

/-- A step of the removal loop whose position has moved away. -/
theorem removeOffered_blocked {removed : List (TradeItemReference × ItemInstance)}
    {r : TradeItemReference} {y : ItemInstance} {c : PlayerContainer}
    (resolved : List (TradeItemReference × ItemInstance))
    (hc : (w.containersOf owner).container r.containerId = some c)
    (h : (w.containersOf owner).takeReference r = none) :
    removeOffered owner removed ((r, y) :: resolved) w = (.error (missing owner r),
      w.withContainers owner ((w.containersOf owner).restoreAll removed.reverse)) := by
  obtain ⟨cs, hp, hcs⟩ := exists_of_container hc
  rw [takeReference_eq_none] at h
  have hremove : c.items.remove r.itemIndex = none := by
    rw [ItemContainer.remove_eq_none]
    simpa [resolve, hc, ItemContainer.item] using h
  rw [removeOffered, bind_of_ok (readOr_windows _ hp), ← hcs]
  simp only [hc, Fallible.bind_of_ok (ofOption_some c _ w), hremove]
  rw [bind_of_ok (restoreRemoved_apply owner _ w)]
  rfl

theorem removeOffered_of_some {removed taken : List (TradeItemReference × ItemInstance)}
    {resolved : List (TradeItemReference × ItemInstance)} {cs' : PlayerContainers}
    (h : (resolved.map Prod.fst).foldlM takeNext (removed, w.containersOf owner) =
      some (taken, cs')) :
    removeOffered owner removed resolved w = (.ok taken, w.withContainers owner cs') := by
  induction resolved generalizing removed w with
  | nil =>
    cases h
    rw [withContainers_self]
    rfl
  | cons e resolved ih =>
    rw [List.map_cons] at h
    obtain ⟨⟨removed₁, cs₁⟩, hr, hrest⟩ := foldlM_cons_eq_some.mp h
    obtain ⟨x, hx, rfl⟩ := takeNext_eq_some.mp hr
    have hshape : (w.withContainers owner cs₁).containersOf owner = cs₁ :=
      containersOf_withContainers (sameShape_takeReference hx)
    rw [show e = (e.1, e.2) from rfl, removeOffered_cons resolved hx, ih (by rw [hshape]; exact hrest),
      withContainers_withContainers]

/-- **A removal that is blocked** puts back what it had taken. -/
theorem removeOffered_of_none {removed : List (TradeItemReference × ItemInstance)}
    {resolved : List (TradeItemReference × ItemInstance)}
    (hwin : ∀ e ∈ resolved, ∃ c, (w.containersOf owner).container e.1.containerId = some c)
    (h : (resolved.map Prod.fst).foldlM takeNext (removed, w.containersOf owner) = none) :
    ∃ pre r post taken cs', resolved.map Prod.fst = pre ++ r :: post ∧
      pre.foldlM takeNext (removed, w.containersOf owner) = some (taken, cs') ∧
      cs'.takeReference r = none ∧
      removeOffered owner removed resolved w = (.error (missing owner r),
        w.withContainers owner (cs'.restoreAll taken.reverse)) := by
  induction resolved generalizing removed w with
  | nil => cases h
  | cons e resolved ih =>
    obtain ⟨c, hc⟩ := hwin e List.mem_cons_self
    cases hx : (w.containersOf owner).takeReference e.1 with
    | none =>
      exact ⟨[], e.1, resolved.map Prod.fst, removed, _, rfl, rfl, hx,
        removeOffered_blocked resolved hc hx⟩
    | some out =>
      obtain ⟨x, cs₁⟩ := out
      have hshape := sameShape_takeReference hx
      have hread : (w.withContainers owner cs₁).containersOf owner = cs₁ :=
        containersOf_withContainers hshape
      have hnext : takeNext (removed, w.containersOf owner) e.1 =
          some (removed ++ [(e.1, x)], cs₁) := takeNext_eq_some.mpr ⟨x, hx, rfl⟩
      have hrest : (resolved.map Prod.fst).foldlM takeNext
          (removed ++ [(e.1, x)], (w.withContainers owner cs₁).containersOf owner) = none := by
        rw [List.map_cons, List.foldlM_cons, hnext] at h
        rw [hread]
        exact h
      have hwin' : ∀ e ∈ resolved, ∃ c,
          ((w.withContainers owner cs₁).containersOf owner).container e.1.containerId = some c := by
        intro q hq
        obtain ⟨d, hd⟩ := hwin q (List.mem_cons_of_mem e hq)
        rw [hread]
        exact hshape.symm.container hd
      obtain ⟨pre, r, post, taken, cs', hrefs, hpre, hr, hrun⟩ := ih hwin' hrest
      refine ⟨e.1 :: pre, r, post, taken, cs', by rw [List.map_cons, hrefs]; rfl, ?_, hr, ?_⟩
      · rw [hread] at hpre
        exact foldlM_cons_eq_some.mpr ⟨_, hnext, hpre⟩
      · rw [show e = (e.1, e.2) from rfl, removeOffered_cons resolved hx, hrun,
          withContainers_withContainers]

/-! ### Pass 3 -/

/-- One delivery. -/
theorem deliver_cons {x : ItemInstance} {cs' : PlayerContainers} (xs : List ItemInstance)
    (h : (w.containersOf owner).receive x = some cs') :
    deliver owner (x :: xs) w = deliver owner xs (w.withContainers owner cs') := by
  obtain ⟨id, c, d, items, hc, -, -, -⟩ := receive_eq_some h
  obtain ⟨cs, hp, hcs⟩ := exists_of_container hc
  rw [hcs] at h
  have hplace : placeDelivered x cs.ids cs = (true, cs') := by rw [placeDelivered_ids, h]
  rw [deliver, bind_of_ok (read_apply _ w)]
  simp only [hp, hplace]
  rw [bind_of_ok (storeContainers_apply owner _ w), withContainers_of_some hp]
  rfl

theorem deliver_stuck {x : ItemInstance} (xs : List ItemInstance)
    (h : (w.containersOf owner).receive x = none) :
    deliver owner (x :: xs) w = (.error (noSpace owner), w) := by
  rw [deliver, bind_of_ok (read_apply _ w)]
  cases hp : w.playerContainers[owner]? with
  | none => rfl
  | some cs =>
    rw [containersOf_eq hp] at h
    have hplace : placeDelivered x cs.ids cs = (false, cs) := by rw [placeDelivered_ids, h]
    simp only [hplace]
    rw [bind_of_ok (storeContainers_apply owner _ w), putContainers_self hp]
    rfl

theorem deliver_of_some {xs : List ItemInstance} {cs' : PlayerContainers}
    (h : (w.containersOf owner).receiveAll xs = some cs') :
    deliver owner xs w = (.ok (), w.withContainers owner cs') := by
  induction xs generalizing w with
  | nil =>
    cases h
    rw [withContainers_self]
    rfl
  | cons x xs ih =>
    obtain ⟨cs₁, hx, hrest⟩ := foldlM_cons_eq_some.mp h
    have hread : (w.withContainers owner cs₁).containersOf owner = cs₁ :=
      containersOf_withContainers (sameShape_receive hx)
    rw [deliver_cons xs hx, ih (by rw [hread]; exact hrest), withContainers_withContainers]

theorem deliver_of_stuck {pre : List ItemInstance} (post : List ItemInstance) {x : ItemInstance}
    {cs' : PlayerContainers} (hpre : (w.containersOf owner).receiveAll pre = some cs') (hx : cs'.receive x = none) :
    deliver owner (pre ++ x :: post) w =
      (.error (noSpace owner), w.withContainers owner cs') := by
  induction pre generalizing w with
  | nil =>
    cases hpre
    rw [withContainers_self]
    exact deliver_stuck post hx
  | cons y pre ih =>
    obtain ⟨cs₁, hy, hrest⟩ := foldlM_cons_eq_some.mp hpre
    have hread : (w.withContainers owner cs₁).containersOf owner = cs₁ :=
      containersOf_withContainers (sameShape_receive hy)
    rw [List.cons_append, deliver_cons _ hy, ih (by rw [hread]; exact hrest),
      withContainers_withContainers]

/-! ### The whole exchange -/

/-- The ways an exchange ends: its result and the world it leaves. -/
inductive Exchange (w : WorldState) (s : PlayerTradeSession) :
    Except CoreError (List ItemInstance × List ItemInstance) → WorldState → Prop
  /-- A reference names nothing at the start. -/
  | unresolved {e} :
      ¬(Resolves (w.containersOf s.initiator) s.initiatorItems ∧
        Resolves (w.containersOf s.counterparty) s.counterpartyItems) →
      Exchange w s (.error e) w
  /-- A position of the initiator has moved away. -/
  | initiatorBlocked {pre r post taken cs'} :
      Resolves (w.containersOf s.initiator) s.initiatorItems →
      Resolves (w.containersOf s.counterparty) s.counterpartyItems →
      s.initiatorItems = pre ++ r :: post →
      (w.containersOf s.initiator).takeOffered pre = some (taken, cs') →
      cs'.takeReference r = none →
      Exchange w s (.error (missing s.initiator r))
        (w.withContainers s.initiator (cs'.restoreAll taken.reverse))
  /-- A position of the counterparty has moved away. -/
  | counterpartyBlocked {taken cs' pre r post taken' ds'} :
      Resolves (w.containersOf s.initiator) s.initiatorItems →
      Resolves (w.containersOf s.counterparty) s.counterpartyItems →
      (w.containersOf s.initiator).takeOffered s.initiatorItems = some (taken, cs') →
      s.counterpartyItems = pre ++ r :: post →
      (w.containersOf s.counterparty).takeOffered pre = some (taken', ds') →
      ds'.takeReference r = none →
      Exchange w s (.error (missing s.counterparty r))
        ((w.withContainers s.initiator (cs'.restoreAll taken.reverse)).withContainers
          s.counterparty (ds'.restoreAll taken'.reverse))
  /-- No window of the initiator takes `x`. -/
  | initiatorFull {taken cs' taken' ds' pre x post cs''} :
      Resolves (w.containersOf s.initiator) s.initiatorItems →
      Resolves (w.containersOf s.counterparty) s.counterpartyItems →
      (w.containersOf s.initiator).takeOffered s.initiatorItems = some (taken, cs') →
      (w.containersOf s.counterparty).takeOffered s.counterpartyItems = some (taken', ds') →
      taken'.map Prod.snd = pre ++ x :: post →
      cs'.receiveAll pre = some cs'' → cs''.receive x = none →
      Exchange w s (.error (noSpace s.initiator))
        ((w.withContainers s.initiator cs'').withContainers s.counterparty ds')
  /-- No window of the counterparty takes `x`. -/
  | counterpartyFull {taken cs' taken' ds' cs'' pre x post ds''} :
      Resolves (w.containersOf s.initiator) s.initiatorItems →
      Resolves (w.containersOf s.counterparty) s.counterpartyItems →
      (w.containersOf s.initiator).takeOffered s.initiatorItems = some (taken, cs') →
      (w.containersOf s.counterparty).takeOffered s.counterpartyItems = some (taken', ds') →
      cs'.receiveAll (taken'.map Prod.snd) = some cs'' →
      taken.map Prod.snd = pre ++ x :: post →
      ds'.receiveAll pre = some ds'' → ds''.receive x = none →
      Exchange w s (.error (noSpace s.counterparty))
        ((w.withContainers s.initiator cs'').withContainers s.counterparty ds'')
  /-- Both deliveries go through. -/
  | exchanged {taken cs' taken' ds' cs'' ds''} :
      Resolves (w.containersOf s.initiator) s.initiatorItems →
      Resolves (w.containersOf s.counterparty) s.counterpartyItems →
      (w.containersOf s.initiator).takeOffered s.initiatorItems = some (taken, cs') →
      (w.containersOf s.counterparty).takeOffered s.counterpartyItems = some (taken', ds') →
      cs'.receiveAll (taken'.map Prod.snd) = some cs'' →
      ds'.receiveAll (taken.map Prod.snd) = some ds'' →
      Exchange w s (.ok (taken.map Prod.snd, taken'.map Prod.snd))
        ((w.withContainers s.initiator cs'').withContainers s.counterparty ds'')

section Cases

variable {s : PlayerTradeSession}

/-- The windows of the references exist. -/
theorem windows_of_resolves {cs : PlayerContainers} {refs : List TradeItemReference}
    {l : List (TradeItemReference × ItemInstance)} (h : Resolves cs refs)
    (hl : l.map Prod.fst = refs) : ∀ e ∈ l, ∃ c, cs.container e.1.containerId = some c := by
  intro e he
  have hmem : e.1 ∈ refs := hl ▸ List.mem_map_of_mem he
  obtain ⟨x, hx⟩ := h e.1 hmem
  obtain ⟨c, hc, -⟩ := container_of_resolve hx
  exact ⟨c, hc⟩

/-- The passes after the two removals. -/
theorem exchange_deliver {taken taken' : List (TradeItemReference × ItemInstance)}
    {cs' ds' : PlayerContainers}
    (hres : Resolves (w.containersOf s.initiator) s.initiatorItems)
    (hres' : Resolves (w.containersOf s.counterparty) s.counterpartyItems)
    (htake : (w.containersOf s.initiator).takeOffered s.initiatorItems = some (taken, cs'))
    (htake' : (w.containersOf s.counterparty).takeOffered s.counterpartyItems = some (taken', ds')) :
    ∃ r w', (do
        deliver s.initiator (taken'.map Prod.snd)
        deliver s.counterparty (taken.map Prod.snd)
        return (taken.map Prod.snd, taken'.map Prod.snd))
          ((w.withContainers s.initiator cs').withContainers s.counterparty ds') = (r, w') ∧
      Exchange w s r w' := by
  have hne : s.initiator ≠ s.counterparty := s.distinct
  have hshape : cs'.SameShape (w.containersOf s.initiator) := sameShape_takeOffered htake
  have hshape' : ds'.SameShape (w.containersOf s.counterparty) := sameShape_takeOffered htake'
  have hread : ((w.withContainers s.initiator cs').withContainers s.counterparty ds').containersOf
      s.initiator = cs' := by
    rw [containersOf_withContainers_ne (Ne.symm hne), containersOf_withContainers hshape]
  have hput (es : PlayerContainers) :
      ((w.withContainers s.initiator cs').withContainers s.counterparty ds').withContainers
        s.initiator es = (w.withContainers s.initiator es).withContainers s.counterparty ds' := by
    rw [← withContainers_comm _ hne, withContainers_withContainers]
  cases hrec : cs'.receiveAll (taken'.map Prod.snd) with
  | none =>
    obtain ⟨pre, x, post, cs'', hsplit, hpre, hx⟩ := foldlM_eq_none_iff.mp hrec
    have hdel := deliver_of_stuck post (hread ▸ hpre) hx
    rw [← hsplit, hput] at hdel
    exact ⟨_, _, bind_of_error hdel, .initiatorFull hres hres' htake htake' hsplit hpre hx⟩
  | some cs'' =>
    have hdel := deliver_of_some (hread ▸ hrec)
    rw [hput] at hdel
    rw [bind_of_ok hdel]
    have hread' : ((w.withContainers s.initiator cs'').withContainers s.counterparty
        ds').containersOf s.counterparty = ds' := by
      rw [containersOf_withContainers]
      rw [containersOf_withContainers_ne hne]
      exact hshape'
    cases hrec' : ds'.receiveAll (taken.map Prod.snd) with
    | none =>
      obtain ⟨pre, x, post, ds'', hsplit, hpre, hx⟩ := foldlM_eq_none_iff.mp hrec'
      have hdel' := deliver_of_stuck post (hread' ▸ hpre) hx
      rw [← hsplit, withContainers_withContainers] at hdel'
      exact ⟨_, _, bind_of_error hdel',
        .counterpartyFull hres hres' htake htake' hrec hsplit hpre hx⟩
    | some ds'' =>
      have hdel' := deliver_of_some (hread' ▸ hrec')
      rw [withContainers_withContainers] at hdel'
      exact ⟨_, _, bind_of_ok hdel', .exchanged hres hres' htake htake' hrec hrec'⟩

/-- The passes after the initiator's removal. -/
theorem exchange_remove {taken : List (TradeItemReference × ItemInstance)} {cs' : PlayerContainers}
    {resolved' : List (TradeItemReference × ItemInstance)}
    (hres : Resolves (w.containersOf s.initiator) s.initiatorItems)
    (hres' : Resolves (w.containersOf s.counterparty) s.counterpartyItems)
    (hrefs' : resolved'.map Prod.fst = s.counterpartyItems)
    (htake : (w.containersOf s.initiator).takeOffered s.initiatorItems = some (taken, cs')) :
    ∃ r w', (do
        let counterpartyRemoved ← onError (removeOffered s.counterparty [] resolved')
          (restoreRemoved s.initiator taken.reverse)
        deliver s.initiator (counterpartyRemoved.map Prod.snd)
        deliver s.counterparty (taken.map Prod.snd)
        return (taken.map Prod.snd, counterpartyRemoved.map Prod.snd))
          (w.withContainers s.initiator cs') = (r, w') ∧
      Exchange w s r w' := by
  have hne : s.initiator ≠ s.counterparty := s.distinct
  have hshape : cs'.SameShape (w.containersOf s.initiator) := sameShape_takeOffered htake
  have hread : (w.withContainers s.initiator cs').containersOf s.counterparty =
      w.containersOf s.counterparty := containersOf_withContainers_ne hne cs'
  cases htake' : (w.containersOf s.counterparty).takeOffered s.counterpartyItems with
  | none =>
    rw [takeOffered, ← hrefs', ← hread] at htake'
    have hwin := windows_of_resolves (hread.symm ▸ hres') hrefs'
    obtain ⟨pre, r, post, taken', ds', hsplit, hpre, hr, hrun⟩ :=
      removeOffered_of_none hwin htake'
    have hback : ((w.withContainers s.initiator cs').withContainers s.counterparty
        (ds'.restoreAll taken'.reverse)).containersOf s.initiator = cs' := by
      rw [containersOf_withContainers_ne (Ne.symm hne), containersOf_withContainers hshape]
    have hput (es : PlayerContainers) : ((w.withContainers s.initiator cs').withContainers
        s.counterparty (ds'.restoreAll taken'.reverse)).withContainers s.initiator es =
        (w.withContainers s.initiator es).withContainers s.counterparty
          (ds'.restoreAll taken'.reverse) := by
      rw [← withContainers_comm _ hne, withContainers_withContainers]
    have hend := onError_of_error (restoreRemoved s.initiator taken.reverse) hrun
    rw [restoreRemoved_apply, hback, hput] at hend
    rw [hread] at hpre
    exact ⟨_, _, bind_of_error hend,
      .counterpartyBlocked hres hres' htake (hrefs'.symm.trans hsplit) hpre hr⟩
  | some out =>
    obtain ⟨taken', ds'⟩ := out
    have hfold : (resolved'.map Prod.fst).foldlM takeNext
        ([], (w.withContainers s.initiator cs').containersOf s.counterparty) =
        some (taken', ds') := by
      rw [hrefs', hread]
      exact htake'
    have hrun := onError_eq_ok (c := restoreRemoved s.initiator taken.reverse) |>.mpr
      (removeOffered_of_some hfold)
    rw [bind_of_ok hrun]
    exact exchange_deliver hres hres' htake htake'

/-- **There is no other way for an exchange to end.** -/
theorem exchangeOffers_cases (w : WorldState) (s : PlayerTradeSession) :
    ∃ r w', exchangeOffers s w = (r, w') ∧ Exchange w s r w' := by
  unfold exchangeOffers
  by_cases hres : Resolves (w.containersOf s.initiator) s.initiatorItems
  · obtain ⟨resolved, hpass, hrefs⟩ := resolveOffered_of_resolves hres
    rw [bind_of_ok hpass]
    by_cases hres' : Resolves (w.containersOf s.counterparty) s.counterpartyItems
    · obtain ⟨resolved', hpass', hrefs'⟩ := resolveOffered_of_resolves hres'
      rw [bind_of_ok hpass']
      cases htake : (w.containersOf s.initiator).takeOffered s.initiatorItems with
      | none =>
        rw [takeOffered, ← hrefs] at htake
        obtain ⟨pre, r, post, taken, cs', hsplit, hpre, hr, hrun⟩ :=
          removeOffered_of_none (windows_of_resolves hres hrefs) htake
        exact ⟨_, _, bind_of_error hrun,
          .initiatorBlocked hres hres' (hrefs.symm.trans hsplit) hpre hr⟩
      | some out =>
        obtain ⟨taken, cs'⟩ := out
        have hfold : (resolved.map Prod.fst).foldlM takeNext ([], w.containersOf s.initiator) =
            some (taken, cs') := by
          rw [hrefs]
          exact htake
        rw [bind_of_ok (removeOffered_of_some hfold)]
        exact exchange_remove hres hres' hrefs' htake
    · obtain ⟨e, he⟩ := resolveOffered_of_not_resolves hres'
      exact ⟨_, _, bind_of_error he, .unresolved fun h => hres' h.2⟩
  · obtain ⟨e, he⟩ := resolveOffered_of_not_resolves hres
    exact ⟨_, _, bind_of_error he, .unresolved fun h => hres h.1⟩

end Cases

end World

end ForgottenEngine
