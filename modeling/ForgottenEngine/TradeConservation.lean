import ForgottenEngine.TradeExchange
import ForgottenEngine.TradeSessions

/-!
# What an execution gives, and what it keeps

Two results about one execution of an accepted trade, each with the exact condition on the windows
and offers at the start.

* **Given as staged** (`givesAsStaged_iff`): a side gives the items its references resolved to if
  and only if every reference, with the positions shifted by the references before it, still names
  an equal item.
* **Conservation** (`conservesItems_iff`): an execution keeps everybody's items accounted for if
  and only if the exchange is `Safe`: a blocked removal finds windows that read the same when the
  removed items are appended again, and a completed one delivers everything, merges no filled bag
  and takes what was staged.
-/

namespace ForgottenEngine

open Fallible PartialFold World WorldState PlayerContainers

/-! ### Which exchanges complete -/

section Completes

variable {w w' : WorldState} {s : PlayerTradeSession} {gi gc : List ItemInstance}

theorem takeOffered_eq_none_iff {cs : PlayerContainers} {refs : List TradeItemReference} :
    cs.takeOffered refs = none ↔ ∃ pre r post taken cs', refs = pre ++ r :: post ∧
      cs.takeOffered pre = some (taken, cs') ∧ cs'.takeReference r = none := by
  unfold takeOffered
  rw [foldlM_eq_none_iff]
  constructor
  · intro h
    obtain ⟨pre, r, post, ⟨taken, cs'⟩, hsplit, hpre, hr⟩ := h
    exact ⟨pre, r, post, taken, cs', hsplit, hpre, Option.map_eq_none_iff.mp hr⟩
  · intro h
    obtain ⟨pre, r, post, taken, cs', hsplit, hpre, hr⟩ := h
    exact ⟨pre, r, post, (taken, cs'), hsplit, hpre, Option.map_eq_none_iff.mpr hr⟩

theorem receiveAll_eq_none_iff {cs : PlayerContainers} {xs : List ItemInstance} :
    cs.receiveAll xs = none ↔ ∃ pre x post cs', xs = pre ++ x :: post ∧
      cs.receiveAll pre = some cs' ∧ cs'.receive x = none := foldlM_eq_none_iff

/-- An accepted exchange goes through: every reference names an item, also after the ones before
it have been taken out, and every item finds a window. -/
structure Completes (w : WorldState) (s : PlayerTradeSession) : Prop where
  accepted : s.bothAccepted = true
  resolves : Resolves (w.containersOf s.initiator) s.initiatorItems
  resolves' : Resolves (w.containersOf s.counterparty) s.counterpartyItems
  goesThrough : ∃ taken cs' taken' ds',
    (w.containersOf s.initiator).takeOffered s.initiatorItems = some (taken, cs') ∧
    (w.containersOf s.counterparty).takeOffered s.counterpartyItems = some (taken', ds') ∧
    (∃ cs'', cs'.receiveAll (taken'.map Prod.snd) = some cs'') ∧
    ∃ ds'', ds'.receiveAll (taken.map Prod.snd) = some ds''

/-- The result and the end of an exchange that went through. -/
theorem exchange_of_ok (h : exchangeOffers s w = (.ok (gi, gc), w')) :
    Exchange w s (.ok (gi, gc)) w' := by
  obtain ⟨r, w₁, hrun, hex⟩ := exchangeOffers_cases w s
  rw [h] at hrun
  cases hrun
  exact hex

/-- **When an execution returns `Ok`.** -/
theorem executePlayerTrade_ok_iff {p : ℕ} : (∃ x w', executePlayerTrade p w = (.ok x, w')) ↔
    ∃ s, w.playerTrade p = some s ∧ Completes w s := by
  constructor
  · intro h
    obtain ⟨x, w', h⟩ := h
    obtain ⟨s, gi, gc, w₁, hs, hacc, hrun, -, -⟩ := executePlayerTrade_eq_ok.mp h
    have hex := exchange_of_ok hrun
    cases hex with
    | exchanged hres hres' htake htake' hrec hrec' =>
      exact ⟨s, hs, hacc, hres, hres', _, _, _, _, htake, htake', ⟨_, hrec⟩, ⟨_, hrec'⟩⟩
  · intro h
    obtain ⟨s, hs, hacc, hres, hres', taken, cs', taken', ds', htake, htake', ⟨cs'', hrec⟩,
      ⟨ds'', hrec'⟩⟩ := h
    obtain ⟨r, w₁, hrun, hex⟩ := exchangeOffers_cases w s
    cases hex with
    | unresolved h => exact absurd ⟨hres, hres'⟩ h
    | initiatorBlocked _ _ hsplit hpre hr =>
      have hnone := takeOffered_eq_none_iff.mpr ⟨_, _, _, _, _, hsplit, hpre, hr⟩
      rw [htake] at hnone
      cases hnone
    | counterpartyBlocked _ _ _ hsplit hpre hr =>
      have hnone := takeOffered_eq_none_iff.mpr ⟨_, _, _, _, _, hsplit, hpre, hr⟩
      rw [htake'] at hnone
      cases hnone
    | initiatorFull _ _ h1 h2 hsplit hpre hx =>
      rw [htake] at h1
      rw [htake'] at h2
      cases h1
      cases h2
      have hnone := receiveAll_eq_none_iff.mpr ⟨_, _, _, _, hsplit, hpre, hx⟩
      rw [hrec] at hnone
      cases hnone
    | counterpartyFull _ _ h1 h2 _ hsplit hpre hx =>
      rw [htake] at h1
      rw [htake'] at h2
      cases h1
      cases h2
      have hnone := receiveAll_eq_none_iff.mpr ⟨_, _, _, _, hsplit, hpre, hx⟩
      rw [hrec'] at hnone
      cases hnone
    | exchanged =>
      exact ⟨_, _, executePlayerTrade_eq_ok.mpr ⟨s, _, _, _, hs, hacc, hrun, rfl, rfl⟩⟩

end Completes

/-! ### Given as staged -/

/-- The items an execution reports are those the windows of the other side received. -/
def DeliversReport (w : WorldState) (s : PlayerTradeSession) (x : PlayerTradeExecution)
    (w' : WorldState) : Prop :=
  ∃ taken cs' taken' ds',
    (w.containersOf s.initiator).takeOffered s.initiatorItems = some (taken, cs') ∧
    (w.containersOf s.counterparty).takeOffered s.counterpartyItems = some (taken', ds') ∧
    cs'.receiveAll x.counterpartyGave = some (w'.containersOf s.initiator) ∧
    ds'.receiveAll x.initiatorGave = some (w'.containersOf s.counterparty)

/-- Whatever an execution of `p` returns, each side gives, and the other side receives, the items
its references resolved to. -/
def GivesAsStaged (w : WorldState) (p : ℕ) : Prop :=
  ∀ s x w', w.playerTrade p = some s → s.initiatorItems.Nodup → s.counterpartyItems.Nodup →
    executePlayerTrade p w = (.ok x, w') →
      x.initiatorGave.map some = s.initiatorItems.map (w.containersOf s.initiator).resolve ∧
      x.counterpartyGave.map some =
        s.counterpartyItems.map (w.containersOf s.counterparty).resolve ∧
      DeliversReport w s x w'

/-- Each reference, shifted by the ones before it, still names an equal item. -/
def Unshifted (cs : PlayerContainers) (refs : List TradeItemReference) : Prop :=
  (origins refs).map cs.resolve = refs.map cs.resolve

/-- The execution and the exchange it rests on. -/
theorem execution_exchanged {w w' : WorldState} {p : ℕ} {s : PlayerTradeSession}
    {x : PlayerTradeExecution} (hs : w.playerTrade p = some s)
    (h : executePlayerTrade p w = (.ok x, w')) :
    ∃ w₁, Exchange w s (.ok (x.initiatorGave, x.counterpartyGave)) w₁ ∧ w' = closeTrade s w₁ := by
  obtain ⟨s', gi, gc, w₁, hs', hacc, hrun, rfl, rfl⟩ := executePlayerTrade_eq_ok.mp h
  rw [hs] at hs'
  cases hs'
  exact ⟨w₁, exchange_of_ok hrun, rfl⟩

theorem closeTrade_containersOf (s : PlayerTradeSession) (w : WorldState) (q : ℕ) :
    (closeTrade s w).containersOf q = w.containersOf q := rfl

theorem closeTrade_equipmentOf (s : PlayerTradeSession) (w : WorldState) (q : ℕ) :
    (closeTrade s w).equipmentOf q = w.equipmentOf q := rfl

/-- The windows of the two sides in the world of a completed or broken exchange. -/
theorem containersOf_both {w : WorldState} {s : PlayerTradeSession} {cs ds : PlayerContainers}
    (hcs : cs.SameShape (w.containersOf s.initiator))
    (hds : ds.SameShape (w.containersOf s.counterparty)) :
    ((w.withContainers s.initiator cs).withContainers s.counterparty ds).containersOf s.initiator =
        cs ∧
      ((w.withContainers s.initiator cs).withContainers s.counterparty ds).containersOf
        s.counterparty = ds := by
  have hne : s.initiator ≠ s.counterparty := s.distinct
  constructor
  · rw [containersOf_withContainers_ne (Ne.symm hne), containersOf_withContainers hcs]
  · rw [containersOf_withContainers]
    rw [containersOf_withContainers_ne hne]
    exact hds

/-- What the two sides of a completed exchange gave, by origin. -/
theorem exchange_gives {w w₁ : WorldState} {s : PlayerTradeSession} {gi gc : List ItemInstance}
    (h : Exchange w s (.ok (gi, gc)) w₁) :
    gi.map some = (origins s.initiatorItems).map (w.containersOf s.initiator).resolve ∧
      gc.map some = (origins s.counterpartyItems).map (w.containersOf s.counterparty).resolve := by
  cases h with
  | exchanged _ _ htake htake' _ _ =>
    constructor
    · rw [← (takeOffered_gives htake).2, List.map_map]
      rfl
    · rw [← (takeOffered_gives htake').2, List.map_map]
      rfl

/-- What is reported is what is delivered. -/
theorem delivers_report {w w' : WorldState} {p : ℕ} {s : PlayerTradeSession}
    {x : PlayerTradeExecution} (hs : w.playerTrade p = some s)
    (h : executePlayerTrade p w = (.ok x, w')) : DeliversReport w s x w' := by
  obtain ⟨w₁, hex, rfl⟩ := execution_exchanged hs h
  generalize hgi : x.initiatorGave = gi at hex
  generalize hgc : x.counterpartyGave = gc at hex
  cases hex with
  | exchanged _ _ htake htake' hrec hrec' =>
    obtain ⟨hi, hc⟩ := containersOf_both (w := w)
      ((sameShape_receiveAll hrec).trans (sameShape_takeOffered htake))
      ((sameShape_receiveAll hrec').trans (sameShape_takeOffered htake'))
    refine ⟨_, _, _, _, htake, htake', ?_, ?_⟩
    · rw [hgc, closeTrade_containersOf, hi]
      exact hrec
    · rw [hgi, closeTrade_containersOf, hc]
      exact hrec'

/-- **Given as staged, exactly when no reference is shifted onto another item.** -/
theorem givesAsStaged_iff (w : WorldState) (p : ℕ) :
    GivesAsStaged w p ↔ ∀ s, w.playerTrade p = some s → s.initiatorItems.Nodup →
      s.counterpartyItems.Nodup → Completes w s →
      Unshifted (w.containersOf s.initiator) s.initiatorItems ∧
        Unshifted (w.containersOf s.counterparty) s.counterpartyItems := by
  constructor
  · intro h s hs hnd hnd' hcomp
    obtain ⟨x, w', hrun⟩ := executePlayerTrade_ok_iff.mpr ⟨s, hs, hcomp⟩
    obtain ⟨hi, hc, -⟩ := h s x w' hs hnd hnd' hrun
    obtain ⟨w₁, hex, -⟩ := execution_exchanged hs hrun
    obtain ⟨hgi, hgc⟩ := exchange_gives hex
    exact ⟨hgi.symm.trans hi, hgc.symm.trans hc⟩
  · intro h s x w' hs hnd hnd' hrun
    obtain ⟨s', hs', hcomp⟩ := executePlayerTrade_ok_iff.mp ⟨x, w', hrun⟩
    rw [hs] at hs'
    cases hs'
    obtain ⟨hi, hc⟩ := h s hs hnd hnd' hcomp
    obtain ⟨w₁, hex, -⟩ := execution_exchanged hs hrun
    obtain ⟨hgi, hgc⟩ := exchange_gives hex
    exact ⟨hgi.trans hi, hgc.trans hc, delivers_report hs hrun⟩

/-- One window of the given capacity with the given items. -/
def oneWindow (capacity : ℕ) (items : List ItemInstance) : PlayerContainers :=
  PlayerContainers.empty.putBack
    ⟨0, ⟨1987, 1, none, none, []⟩, "bag", false, ⟨capacity, items⟩⟩

/-- Players 1 and 2 with the given windows, player 1 having opened a trade with player 2 and
staged `refs`, and both having accepted. -/
def acceptedTrade (mine theirs : PlayerContainers) (refs : List TradeItemReference) : WorldState :=
  let operations : List TradeOperation :=
    .openTrade 1 2 :: refs.map (TradeOperation.stage 1) ++ [.accept 2, .accept 1]
  operations.foldl TradeOperation.step
    ((threePlayers.putContainers 1 mine).putContainers 2 theirs)

/-- Sword, shield and rope, of which the sword and the shield are staged. -/
def shiftedTrade : WorldState :=
  acceptedTrade (oneWindow 10 [⟨2400, 1, none, none, []⟩, ⟨2512, 1, none, none, []⟩,
    ⟨2120, 1, none, none, []⟩]) (oneWindow 10 []) [⟨0, 0⟩, ⟨0, 1⟩]

theorem shiftedTrade_session : shiftedTrade.playerTrade 1 =
    some ⟨1, 2, [⟨0, 0⟩, ⟨0, 1⟩], [], true, true, 0, by decide⟩ := by decide

theorem shiftedTrade_result : (executePlayerTrade 1 shiftedTrade).1.toOption = some
    ⟨1, 2, [⟨2400, 1, none, none, []⟩, ⟨2120, 1, none, none, []⟩], []⟩ := by decide

theorem shiftedTrade_staged : [(⟨0, 0⟩ : TradeItemReference), ⟨0, 1⟩].map
    (shiftedTrade.containersOf 1).resolve =
      [some ⟨2400, 1, none, none, []⟩, some ⟨2512, 1, none, none, []⟩] := by decide

/-- **The rope is given for the shield**: taking the sword out moves the shield to position 0 and
the rope to position 1. -/
theorem shiftedTrade_givesOther : ¬GivesAsStaged shiftedTrade 1 := by
  intro h
  rcases hrun : executePlayerTrade 1 shiftedTrade with ⟨e | x, w'⟩
  · have hres := shiftedTrade_result
    rw [hrun] at hres
    cases hres
  · have hres := shiftedTrade_result
    rw [hrun] at hres
    cases hres
    have hgave := (h _ _ w' shiftedTrade_session (by decide) (by decide) hrun).1
    rw [shiftedTrade_staged] at hgave
    exact absurd hgave (by decide)

/-! ### Conservation -/

/-- The units of the items staged by references, by item id. -/
def stagedIds (cs : PlayerContainers) (refs : List TradeItemReference) : Multiset ℕ :=
  (ItemInstance.unitsOf (refs.filterMap cs.resolve)).map ItemKind.serverId

/-- Both participants hold what they held. -/
def Untouched (w w' : WorldState) (s : PlayerTradeSession) : Prop :=
  ∀ q, s.involves q → w'.equipmentOf q = w.equipmentOf q ∧ w'.containersOf q = w.containersOf q

/-- The two participants hold the same together, and each gained what the other staged and lost
what it staged itself. -/
structure Swapped (w w' : WorldState) (s : PlayerTradeSession) : Prop where
  together : heldIds w' s.initiator + heldIds w' s.counterparty =
    heldIds w s.initiator + heldIds w s.counterparty
  initiator : heldIds w' s.initiator + stagedIds (w.containersOf s.initiator) s.initiatorItems =
    heldIds w s.initiator + stagedIds (w.containersOf s.counterparty) s.counterpartyItems
  counterparty :
    heldIds w' s.counterparty + stagedIds (w.containersOf s.counterparty) s.counterpartyItems =
      heldIds w s.counterparty + stagedIds (w.containersOf s.initiator) s.initiatorItems

/-- An execution by `p` swaps the offers, or fails and touches nothing. -/
def ConservesItems (w : WorldState) (p : ℕ) : Prop :=
  ∀ s, w.playerTrade p = some s →
    match executePlayerTrade p w with
    | (.ok _, w') => Swapped w w' s
    | (.error _, w') => Untouched w w' s

/-- The references can be taken out up to `pre`, and not further. -/
def BlockedAt (cs : PlayerContainers) (refs pre : List TradeItemReference) : Prop :=
  ∃ r post taken cs', refs = pre ++ r :: post ∧ cs.takeOffered pre = some (taken, cs') ∧
    cs'.takeReference r = none

/-- In every window the items that stay, followed by those taken out, the last one first and as
far as the capacity goes, read the same as before. -/
def Respells (cs : PlayerContainers) (refs : List TradeItemReference) : Prop :=
  ∀ taken cs', cs.takeOffered refs = some (taken, cs') → ∀ id,
    cs'.itemsAt id ++ (takenFrom taken id).reverse.take (cs.capacityAt id - (cs'.itemsAt id).length)
      = cs.itemsAt id

/-- Every item finds a window, and none that is merged into a stack has contents. -/
def ReceivesWhole : PlayerContainers → List ItemInstance → Prop
  | _, [] => True
  | cs, x :: xs => ∃ cs', cs.receive x = some cs' ∧ cs.mergeLoss x = 0 ∧ ReceivesWhole cs' xs

/-- The offers and windows of a session for which an execution keeps everything accounted for. -/
structure Safe (w : WorldState) (s : PlayerTradeSession) : Prop where
  /-- A blocked removal of the initiator's. -/
  initiatorBlocked : ∀ pre, BlockedAt (w.containersOf s.initiator) s.initiatorItems pre →
    Respells (w.containersOf s.initiator) pre
  /-- A blocked removal of the counterparty's, after that of the initiator. -/
  counterpartyBlocked : ∀ taken cs' pre,
    (w.containersOf s.initiator).takeOffered s.initiatorItems = some (taken, cs') →
    BlockedAt (w.containersOf s.counterparty) s.counterpartyItems pre →
      Respells (w.containersOf s.initiator) s.initiatorItems ∧
      Respells (w.containersOf s.counterparty) pre
  /-- Two removals that go through. -/
  delivered : ∀ taken cs' taken' ds',
    (w.containersOf s.initiator).takeOffered s.initiatorItems = some (taken, cs') →
    (w.containersOf s.counterparty).takeOffered s.counterpartyItems = some (taken', ds') →
      ReceivesWhole cs' (taken'.map Prod.snd) ∧ ReceivesWhole ds' (taken.map Prod.snd) ∧
      stagedIds (w.containersOf s.initiator) s.initiatorItems +
          (ItemInstance.unitsOf (taken'.map Prod.snd)).map ItemKind.serverId =
        (ItemInstance.unitsOf (taken.map Prod.snd)).map ItemKind.serverId +
          stagedIds (w.containersOf s.counterparty) s.counterpartyItems

section Conservation

variable {w w' : WorldState} {s : PlayerTradeSession}

/-- The items come back to their places exactly when the windows respell. -/
theorem restoreAll_eq_iff {cs cs' : PlayerContainers} {refs : List TradeItemReference}
    {taken : List (TradeItemReference × ItemInstance)}
    (h : cs.takeOffered refs = some (taken, cs')) :
    cs'.restoreAll taken.reverse = cs ↔ Respells cs refs := by
  have hshape : cs'.SameShape cs := sameShape_takeOffered h
  have hitems (id : ℕ) : (cs'.restoreAll taken.reverse).itemsAt id = cs'.itemsAt id ++
      (takenFrom taken id).reverse.take (cs.capacityAt id - (cs'.itemsAt id).length) := by
    rw [itemsAt_restoreAll, hshape.capacityAt]
    simp only [takenFrom, List.filter_reverse, List.map_reverse]
  constructor
  · intro heq taken₁ cs₁ h₁ id
    rw [h] at h₁
    cases h₁
    rw [← hitems, heq]
  · intro hspell
    refine ((sameShape_restoreAll cs' _).trans hshape).eq fun id => ?_
    rw [hitems]
    exact hspell taken cs' h id

/-- Two worlds that differ in the windows of the participants only. -/
theorem untouched_withContainers {cs ds : PlayerContainers}
    (hcs : cs.SameShape (w.containersOf s.initiator))
    (hds : ds.SameShape (w.containersOf s.counterparty)) :
    Untouched w ((w.withContainers s.initiator cs).withContainers s.counterparty ds) s ↔
      cs = w.containersOf s.initiator ∧ ds = w.containersOf s.counterparty := by
  obtain ⟨hi, hc⟩ := containersOf_both hcs hds
  constructor
  · intro h
    exact ⟨hi.symm.trans (h _ (.inl rfl)).2, hc.symm.trans (h _ (.inr rfl)).2⟩
  · intro h q hq
    refine ⟨by simp, ?_⟩
    rcases hq with rfl | rfl
    · rw [hi, h.1]
    · rw [hc, h.2]

theorem untouched_withContainers_initiator {cs : PlayerContainers}
    (hcs : cs.SameShape (w.containersOf s.initiator)) :
    Untouched w (w.withContainers s.initiator cs) s ↔ cs = w.containersOf s.initiator := by
  constructor
  · intro h
    exact (containersOf_withContainers hcs).symm.trans (h _ (.inl rfl)).2
  · intro h q _
    rw [h, withContainers_self]
    exact ⟨rfl, rfl⟩

/-- A removal takes one entry for each reference. -/
theorem entryCount_takeOffered {cs cs' : PlayerContainers} {refs : List TradeItemReference}
    {taken : List (TradeItemReference × ItemInstance)}
    (h : cs.takeOffered refs = some (taken, cs')) :
    cs.entryCount = taken.length + cs'.entryCount := by
  have htotal := total_takeOffered (fun _ => 1) h
  simpa [entryCount] using htotal

/-- The units lost by merging filled bags, over a whole delivery. -/
def deliveryLoss : PlayerContainers → List ItemInstance → Multiset ItemKind
  | _, [] => 0
  | cs, x :: xs => cs.mergeLoss x + ((cs.receive x).elim 0 fun cs' => deliveryLoss cs' xs)

theorem units_receiveAll {cs cs' : PlayerContainers} {xs : List ItemInstance}
    (h : cs.receiveAll xs = some cs') :
    cs'.units + deliveryLoss cs xs = cs.units + ItemInstance.unitsOf xs := by
  induction xs generalizing cs with
  | nil =>
    cases h
    simp [deliveryLoss]
  | cons x xs ih =>
    obtain ⟨ds, hx, hrest⟩ := foldlM_cons_eq_some.mp h
    have hone := units_receive hx
    have hmany := ih hrest
    simp only [deliveryLoss, hx, Option.elim_some, ItemInstance.unitsOf_cons]
    calc cs'.units + (cs.mergeLoss x + deliveryLoss ds xs)
        = (cs'.units + deliveryLoss ds xs) + cs.mergeLoss x := by abel
      _ = (ds.units + cs.mergeLoss x) + ItemInstance.unitsOf xs := by rw [hmany]; abel
      _ = cs.units + (x.units + ItemInstance.unitsOf xs) := by rw [hone]; abel

theorem receivesWhole_iff {cs : PlayerContainers} {xs : List ItemInstance} :
    ReceivesWhole cs xs ↔ (∃ cs', cs.receiveAll xs = some cs') ∧ deliveryLoss cs xs = 0 := by
  induction xs generalizing cs with
  | nil => simp [ReceivesWhole, deliveryLoss, receiveAll]
  | cons x xs ih =>
    unfold ReceivesWhole
    constructor
    · intro h
      obtain ⟨ds, hx, hzero, hrest⟩ := h
      obtain ⟨⟨cs', hall⟩, hloss⟩ := ih.mp hrest
      exact ⟨⟨cs', foldlM_cons_eq_some.mpr ⟨ds, hx, hall⟩⟩, by simp [deliveryLoss, hx, hzero, hloss]⟩
    · intro h
      obtain ⟨⟨cs', hall⟩, hloss⟩ := h
      obtain ⟨ds, hx, hrest⟩ := foldlM_cons_eq_some.mp hall
      simp only [deliveryLoss, hx, Option.elim_some] at hloss
      obtain ⟨hzero, hmany⟩ := add_eq_zero.mp hloss
      exact ⟨ds, hx, hzero, ih.mpr ⟨⟨cs', hrest⟩, hmany⟩⟩

/-- A delivery that stops leaves the receiver short of entries. -/
theorem not_receivesWhole_of_stuck {cs cs' : PlayerContainers} {pre post : List ItemInstance}
    {x : ItemInstance} (hpre : cs.receiveAll pre = some cs') (hx : cs'.receive x = none) :
    ¬ReceivesWhole cs (pre ++ x :: post) := by
  intro h
  obtain ⟨⟨ds, hall⟩, -⟩ := receivesWhole_iff.mp h
  have hnone := receiveAll_eq_none_iff.mpr ⟨pre, x, post, cs', rfl, hpre, hx⟩
  rw [hall] at hnone
  cases hnone

/-! #### The condition, case by case -/

/-- A removal that goes through is blocked nowhere. -/
theorem not_blockedAt_of_taken {cs cs' : PlayerContainers} {refs pre : List TradeItemReference}
    {taken : List (TradeItemReference × ItemInstance)}
    (h : cs.takeOffered refs = some (taken, cs')) : ¬BlockedAt cs refs pre := by
  intro hb
  obtain ⟨r, post, taken₁, cs₁, hsplit, hpre, hr⟩ := hb
  have hnone := takeOffered_eq_none_iff.mpr ⟨pre, r, post, taken₁, cs₁, hsplit, hpre, hr⟩
  rw [h] at hnone
  cases hnone

/-- A removal is blocked at one place only. -/
theorem blockedAt_unique {cs : PlayerContainers} {refs pre pre' : List TradeItemReference}
    (h : BlockedAt cs refs pre) (h' : BlockedAt cs refs pre') : pre = pre' := by
  obtain ⟨r, post, taken, cs', hsplit, hpre, hr⟩ := h
  obtain ⟨r', post', taken', cs'', hsplit', hpre', hr'⟩ := h'
  exact stop_unique (hsplit.symm.trans hsplit') hpre (Option.map_eq_none_iff.mpr hr) hpre'
    (Option.map_eq_none_iff.mpr hr')

theorem taken_ne_of_blockedAt {cs : PlayerContainers} {refs pre : List TradeItemReference}
    (h : BlockedAt cs refs pre) {out : List (TradeItemReference × ItemInstance) × PlayerContainers} :
    cs.takeOffered refs ≠ some out := by
  intro htake
  have hout : cs.takeOffered refs = some (out.1, out.2) := htake
  exact not_blockedAt_of_taken hout h

theorem safe_iff_of_initiatorBlocked {pre : List TradeItemReference}
    (hb : BlockedAt (w.containersOf s.initiator) s.initiatorItems pre) :
    Safe w s ↔ Respells (w.containersOf s.initiator) pre := by
  constructor
  · intro h
    exact h.initiatorBlocked pre hb
  · intro h
    refine ⟨fun pre' hb' => ?_, fun _ _ _ htake => ?_, fun _ _ _ _ htake => ?_⟩
    · rw [← blockedAt_unique hb hb']
      exact h
    · exact absurd htake (taken_ne_of_blockedAt hb)
    · exact absurd htake (taken_ne_of_blockedAt hb)

theorem safe_iff_of_counterpartyBlocked {pre : List TradeItemReference}
    {taken : List (TradeItemReference × ItemInstance)} {cs' : PlayerContainers}
    (htake : (w.containersOf s.initiator).takeOffered s.initiatorItems = some (taken, cs'))
    (hb : BlockedAt (w.containersOf s.counterparty) s.counterpartyItems pre) :
    Safe w s ↔ Respells (w.containersOf s.initiator) s.initiatorItems ∧
      Respells (w.containersOf s.counterparty) pre := by
  constructor
  · intro h
    exact h.counterpartyBlocked taken cs' pre htake hb
  · intro h
    refine ⟨fun pre' hb' => ?_, fun _ _ pre' _ hb' => ?_, fun _ _ _ _ _ htake' => ?_⟩
    · exact absurd hb' (not_blockedAt_of_taken htake)
    · rw [← blockedAt_unique hb hb']
      exact h
    · exact absurd htake' (taken_ne_of_blockedAt hb)

theorem safe_iff_of_taken {taken taken' : List (TradeItemReference × ItemInstance)}
    {cs' ds' : PlayerContainers}
    (htake : (w.containersOf s.initiator).takeOffered s.initiatorItems = some (taken, cs'))
    (htake' : (w.containersOf s.counterparty).takeOffered s.counterpartyItems = some (taken', ds')) :
    Safe w s ↔ ReceivesWhole cs' (taken'.map Prod.snd) ∧ ReceivesWhole ds' (taken.map Prod.snd) ∧
      stagedIds (w.containersOf s.initiator) s.initiatorItems +
          (ItemInstance.unitsOf (taken'.map Prod.snd)).map ItemKind.serverId =
        (ItemInstance.unitsOf (taken.map Prod.snd)).map ItemKind.serverId +
          stagedIds (w.containersOf s.counterparty) s.counterpartyItems := by
  constructor
  · intro h
    exact h.delivered taken cs' taken' ds' htake htake'
  · intro h
    refine ⟨fun pre' hb' => ?_, fun _ _ pre' _ hb' => ?_, fun _ _ _ _ h1 h2 => ?_⟩
    · exact absurd hb' (not_blockedAt_of_taken htake)
    · exact absurd hb' (not_blockedAt_of_taken htake')
    · rw [htake] at h1
      rw [htake'] at h2
      cases h1
      cases h2
      exact h

/-- The units of a removal: what is taken and what stays. -/
theorem units_takeOffered {cs cs' : PlayerContainers} {refs : List TradeItemReference}
    {taken : List (TradeItemReference × ItemInstance)}
    (h : cs.takeOffered refs = some (taken, cs')) :
    cs.units = ItemInstance.unitsOf (taken.map Prod.snd) + cs'.units := by
  have htotal := total_takeOffered ItemInstance.units h
  rw [units_eq_total, units_eq_total, htotal, ItemInstance.unitsOf_eq_sum, List.map_map]
  rfl

/-- The books of an exchange: `A`, `B` the holdings before, `E`, `F` between removal and delivery,
`C`, `D` after; `T`, `U` what was taken, `S`, `R` what was staged, `L`, `M` what was lost. -/
theorem books_iff {A B C D E F T U S R L M : Multiset ℕ}
    (hA : A = T + E) (hB : B = U + F) (hC : C + L = E + U) (hD : D + M = F + T) :
    (C + D = A + B ∧ C + S = A + R ∧ D + R = B + S) ↔ L = 0 ∧ M = 0 ∧ S + U = T + R := by
  have hcount (X Y : Multiset ℕ) : X = Y ↔ ∀ a, X.count a = Y.count a := Multiset.ext
  simp only [hcount, Multiset.count_add, Multiset.count_zero] at hA hB hC hD ⊢
  constructor
  · intro h
    obtain ⟨htotal, hown, -⟩ := h
    refine ⟨fun a => ?_, fun a => ?_, fun a => ?_⟩ <;>
    · have h1 := hA a
      have h2 := hB a
      have h3 := hC a
      have h4 := hD a
      have h5 := htotal a
      have h6 := hown a
      omega
  · intro h
    obtain ⟨hL, hL', hS⟩ := h
    refine ⟨fun a => ?_, fun a => ?_, fun a => ?_⟩ <;>
    · have h1 := hA a
      have h2 := hB a
      have h3 := hC a
      have h4 := hD a
      have h5 := hL a
      have h6 := hL' a
      have h7 := hS a
      omega

/-- **A completed exchange** swaps the offers exactly when nothing is lost by a merge and what was
taken is what was staged. -/
theorem swapped_iff {taken taken' : List (TradeItemReference × ItemInstance)}
    {cs' ds' cs'' ds'' : PlayerContainers}
    (htake : (w.containersOf s.initiator).takeOffered s.initiatorItems = some (taken, cs'))
    (htake' : (w.containersOf s.counterparty).takeOffered s.counterpartyItems = some (taken', ds'))
    (hrec : cs'.receiveAll (taken'.map Prod.snd) = some cs'')
    (hrec' : ds'.receiveAll (taken.map Prod.snd) = some ds'') :
    Swapped w (closeTrade s
        ((w.withContainers s.initiator cs'').withContainers s.counterparty ds'')) s ↔
      deliveryLoss cs' (taken'.map Prod.snd) = 0 ∧ deliveryLoss ds' (taken.map Prod.snd) = 0 ∧
      stagedIds (w.containersOf s.initiator) s.initiatorItems +
          (ItemInstance.unitsOf (taken'.map Prod.snd)).map ItemKind.serverId =
        (ItemInstance.unitsOf (taken.map Prod.snd)).map ItemKind.serverId +
          stagedIds (w.containersOf s.counterparty) s.counterpartyItems := by
  obtain ⟨hi, hc⟩ := containersOf_both (w := w)
    ((sameShape_receiveAll hrec).trans (sameShape_takeOffered htake))
    ((sameShape_receiveAll hrec').trans (sameShape_takeOffered htake'))
  let ids (M : Multiset ItemKind) : Multiset ℕ := M.map ItemKind.serverId
  have hadd (M N : Multiset ItemKind) : ids (M + N) = ids M + ids N := Multiset.map_add _ M N
  have hzero (M : Multiset ItemKind) : M = 0 ↔ ids M = 0 := Multiset.map_eq_zero.symm
  have hbefore (q : ℕ) : heldIds w q = ids (w.equipmentOf q).units + ids (w.containersOf q).units :=
    hadd _ _
  have hafter (q : ℕ) (es : PlayerContainers)
      (hes : ((w.withContainers s.initiator cs'').withContainers s.counterparty ds'').containersOf q
        = es) : heldIds (closeTrade s
          ((w.withContainers s.initiator cs'').withContainers s.counterparty ds'')) q =
        ids (w.equipmentOf q).units + ids es.units := by
    rw [heldIds, closeTrade_containersOf, closeTrade_equipmentOf, hes]
    simp only [withContainers_equipmentOf]
    exact hadd _ _
  have hbooks := books_iff (A := heldIds w s.initiator) (B := heldIds w s.counterparty)
    (C := ids (w.equipmentOf s.initiator).units + ids cs''.units)
    (D := ids (w.equipmentOf s.counterparty).units + ids ds''.units)
    (E := ids (w.equipmentOf s.initiator).units + ids cs'.units)
    (F := ids (w.equipmentOf s.counterparty).units + ids ds'.units)
    (T := ids (ItemInstance.unitsOf (taken.map Prod.snd)))
    (U := ids (ItemInstance.unitsOf (taken'.map Prod.snd)))
    (S := stagedIds (w.containersOf s.initiator) s.initiatorItems)
    (R := stagedIds (w.containersOf s.counterparty) s.counterpartyItems)
    (L := ids (deliveryLoss cs' (taken'.map Prod.snd)))
    (M := ids (deliveryLoss ds' (taken.map Prod.snd)))
    (by rw [hbefore, units_takeOffered htake, hadd]; abel)
    (by rw [hbefore, units_takeOffered htake', hadd]; abel)
    (by rw [add_assoc, ← hadd, units_receiveAll hrec, hadd, add_assoc])
    (by rw [add_assoc, ← hadd, units_receiveAll hrec', hadd, add_assoc])
  rw [hzero, hzero, ← hbooks, ← hafter _ _ hi, ← hafter _ _ hc]
  constructor
  · intro h
    exact ⟨h.together, h.initiator, h.counterparty⟩
  · intro h
    exact ⟨h.1, h.2.1, h.2.2⟩

end Conservation

/-- **Conservation, exactly when the exchange is safe.** -/
theorem conservesItems_iff (w : WorldState) (p : ℕ) :
    ConservesItems w p ↔ ∀ s, w.playerTrade p = some s → s.bothAccepted = true →
      Resolves (w.containersOf s.initiator) s.initiatorItems →
      Resolves (w.containersOf s.counterparty) s.counterpartyItems → Safe w s := by
  refine forall_congr' fun s => forall_congr' fun hs => ?_
  by_cases hacc : s.bothAccepted = true
  · obtain ⟨r, w₁, hrun, hex⟩ := exchangeOffers_cases w s
    rw [executePlayerTrade_apply hs hacc, hrun]
    cases hex with
    | unresolved hres =>
      exact iff_of_true (fun q _ => ⟨rfl, rfl⟩) fun _ h h' => absurd ⟨h, h'⟩ hres
    | @initiatorBlocked pre r post taken cs' hres hres' hsplit hpre hr =>
      have hb : BlockedAt (w.containersOf s.initiator) s.initiatorItems pre :=
        ⟨r, post, taken, cs', hsplit, hpre, hr⟩
      simp only [hacc, hres, hres', forall_const]
      rw [safe_iff_of_initiatorBlocked hb, ← restoreAll_eq_iff hpre]
      exact untouched_withContainers_initiator
        ((sameShape_restoreAll cs' _).trans (sameShape_takeOffered hpre))
    | @counterpartyBlocked taken cs' pre r post taken' ds' hres hres' htake hsplit hpre hr =>
      have hb : BlockedAt (w.containersOf s.counterparty) s.counterpartyItems pre :=
        ⟨r, post, taken', ds', hsplit, hpre, hr⟩
      simp only [hacc, hres, hres', forall_const]
      rw [safe_iff_of_counterpartyBlocked htake hb, ← restoreAll_eq_iff htake,
        ← restoreAll_eq_iff hpre]
      exact untouched_withContainers
        ((sameShape_restoreAll cs' _).trans (sameShape_takeOffered htake))
        ((sameShape_restoreAll ds' _).trans (sameShape_takeOffered hpre))
    | @initiatorFull taken cs' taken' ds' pre x post cs'' hres hres' htake htake' hsplit hpre hx =>
      simp only [hacc, hres, hres', forall_const]
      rw [safe_iff_of_taken htake htake', hsplit]
      refine iff_of_false (fun h => ?_) fun h => not_receivesWhole_of_stuck hpre hx h.1
      obtain ⟨hi, hc⟩ := (untouched_withContainers
        ((sameShape_receiveAll hpre).trans (sameShape_takeOffered htake))
        (sameShape_takeOffered htake')).mp h
      have hreceived := entryCount_receiveAll hpre
      have htaken := entryCount_takeOffered htake
      have htaken' := entryCount_takeOffered htake'
      have hlen : taken'.length = pre.length + (post.length + 1) := by
        simpa using congrArg List.length hsplit
      rw [← hc] at htaken'
      omega
    | @counterpartyFull taken cs' taken' ds' cs'' pre x post ds'' hres hres' htake htake' hrec hsplit
        hpre hx =>
      simp only [hacc, hres, hres', forall_const]
      rw [safe_iff_of_taken htake htake', hsplit]
      refine iff_of_false (fun h => ?_) fun h => not_receivesWhole_of_stuck hpre hx h.2.1
      obtain ⟨hi, hc⟩ := (untouched_withContainers
        ((sameShape_receiveAll hrec).trans (sameShape_takeOffered htake))
        ((sameShape_receiveAll hpre).trans (sameShape_takeOffered htake'))).mp h
      have hreceived := entryCount_receiveAll hrec
      have hreceived' := entryCount_receiveAll hpre
      have htaken := entryCount_takeOffered htake
      have htaken' := entryCount_takeOffered htake'
      have hlen : taken.length = pre.length + (post.length + 1) := by
        simpa using congrArg List.length hsplit
      rw [List.length_map] at hreceived
      rw [← hi] at htaken
      rw [← hc] at htaken'
      omega
    | exchanged hres hres' htake htake' hrec hrec' =>
      simp only [hacc, hres, hres', forall_const]
      rw [safe_iff_of_taken htake htake', receivesWhole_iff, receivesWhole_iff]
      refine (swapped_iff htake htake' hrec hrec').trans ?_
      simp only [hrec, hrec', Option.some.injEq, exists_eq', true_and]
  · have hrefused : executePlayerTrade p w = (.error (.noActiveTrade p), w) := by
      refine executePlayerTrade_refused fun s' hs' => ?_
      rw [hs] at hs'
      cases hs'
      simpa using hacc
    rw [hrefused]
    exact iff_of_true (fun q _ => ⟨rfl, rfl⟩) fun h => absurd h hacc

/-- A sword staged for a player whose only window is full. -/
def undeliverableTrade : WorldState :=
  acceptedTrade (oneWindow 10 [⟨2400, 1, none, none, []⟩])
    (oneWindow 1 [⟨2120, 1, none, none, []⟩]) [⟨0, 0⟩]

theorem undeliverableTrade_session : undeliverableTrade.playerTrade 1 =
    some ⟨1, 2, [⟨0, 0⟩], [], true, true, 0, by decide⟩ := by decide

theorem undeliverableTrade_result :
    (executePlayerTrade 1 undeliverableTrade).1.toOption = none ∧
      (undeliverableTrade.containersOf 1).itemsAt 0 = [⟨2400, 1, none, none, []⟩] ∧
      ((executePlayerTrade 1 undeliverableTrade).2.containersOf 1).itemsAt 0 = [] := by decide

/-- **A sword is lost**: the delivery fails, and the sword is in nobody's windows. -/
theorem undeliverableTrade_loses : ¬ConservesItems undeliverableTrade 1 := by
  intro h
  have h := h _ undeliverableTrade_session
  obtain ⟨hres, hbefore, hafter⟩ := undeliverableTrade_result
  rcases hrun : executePlayerTrade 1 undeliverableTrade with ⟨e | x, w'⟩
  · rw [hrun] at h hafter
    have hsame := (h 1 (.inl rfl)).2
    simp only [hsame, hbefore] at hafter
    cases hafter
  · rw [hrun] at hres
    cases hres

end ForgottenEngine
