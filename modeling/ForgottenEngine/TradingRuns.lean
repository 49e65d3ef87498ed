import ForgottenEngine.ShopServices
import ForgottenEngine.Library.Market

/-!
# Trading with the bank and the shops

For a player with a bank account and an inventory the bank and the shops are dealers.  The bank
takes the three coins for what they are worth and hands out gold coins; a shop quotes the prices of
its first entry for an item.

* `Host.Ends` — how a handler ends: it fails and changes nothing, or this holds of what it returns;
* `bank_word_exact`, `shop_word_exact` — **bank and shops do what they report**: coins for gold of
  the account, or one item at the price of its first entry, saved and published; every other way
  out changes nothing;
* `Host.service_traded` — whatever a player says to the bank or a shop is a chain of trades at these
  quotes on the player's own account;
* `trading_never_enriches` — **over any run of such messages nobody gets richer**, when no dealer
  pays more for an item than another one asks.
-/

namespace ForgottenEngine

open Fallible Market

/-! ### The dealers -/

/-- What the bank and the shops of the catalogue quote for one unit of an item. -/
def DeclarativeShopCatalog.quotes (catalog : DeclarativeShopCatalog) : Quotes ℕ where
  bids serverId := {bid | nativeCoinValue serverId = some bid ∨ ∃ name shop entry,
    catalog.byNpcName name = some shop ∧ shop.entry serverId = some entry ∧
      entry.sellPriceGold = some bid}
  asks serverId := {ask | serverId = goldCoinServerId ∧ ask = 1 ∨ ∃ name shop entry,
    catalog.byNpcName name = some shop ∧ shop.entry serverId = some entry ∧
      entry.buyPriceGold = some ask}

/-- The bank account of a player, and everything the player carries, by item. -/
def HostState.account (s : HostState) (p : ℕ) : Account ℕ :=
  ⟨s.database.bankBalances[p]?.getD 0, s.world.heldIds p⟩

/-- The balances fit into their column. -/
def HostState.BalancesFit (s : HostState) : Prop :=
  ∀ p balance : ℕ, s.database.bankBalances[p]? = some balance → balance ≤ i64Max

/-- The player has traded, and nobody else's account has changed. -/
structure Traded (quotes : Quotes ℕ) (p : ℕ) (s s' : HostState) : Prop where
  own : Trades quotes (s.account p) (s'.account p)
  others : ∀ q, q ≠ p → s'.account q = s.account q
  holders : s'.world.HoldersRegistered
  fit : s'.BalancesFit

/-! ### Units by item -/

/-- The units of some items, without what is inside them. -/
def ownIds (items : List ItemInstance) : Multiset ℕ :=
  (items.map fun x => Multiset.replicate x.count x.serverId).sum

theorem ids_unitsOf (items : List ItemInstance) :
    (ItemInstance.unitsOf items).map ItemKind.serverId = ownIds items +
      ((items.map ItemInstance.contentUnits).sum).map ItemKind.serverId := by
  induction items with
  | nil => rfl
  | cons x items ih =>
    have hx : (ItemInstance.units x).map ItemKind.serverId =
        Multiset.replicate x.count x.serverId + x.contentUnits.map ItemKind.serverId := by
      rw [ItemInstance.units_eq, Multiset.map_add, Multiset.map_replicate]
      rfl
    rw [ItemInstance.unitsOf_cons, Multiset.map_add, hx, ih]
    simp only [ownIds, List.map_cons, List.sum_cons, Multiset.map_add]
    abel

/-! ### Taking coins out -/

/-- The stacks that the bank takes. -/
def coinStacks (items : List ItemInstance) : List ItemInstance :=
  items.filter fun x => (stackValue x).isSome

def besidesCoins (items : List ItemInstance) : List ItemInstance :=
  items.filter fun x => (stackValue x).isNone

/-- What it gives for all of them. -/
def coinsValue (items : List ItemInstance) : ℕ := (items.filterMap stackValue).sum

theorem coinsValue_append (xs ys : List ItemInstance) :
    coinsValue (xs ++ ys) = coinsValue xs + coinsValue ys := by
  simp [coinsValue]

theorem besidesCoins_append (xs ys : List ItemInstance) :
    besidesCoins (xs ++ ys) = besidesCoins xs ++ besidesCoins ys := List.filter_append xs ys

theorem coinsValue_coinStacks (items : List ItemInstance) :
    coinsValue items = coinsValue (coinStacks items) := by
  unfold coinsValue coinStacks
  rw [List.filterMap_filter]
  congr 1
  apply List.filterMap_congr
  intro x _
  cases stackValue x <;> rfl

theorem unitsOf_besidesCoins (items : List ItemInstance) :
    ItemInstance.unitsOf items =
      ItemInstance.unitsOf (besidesCoins items) + ItemInstance.unitsOf (coinStacks items) := by
  induction items with
  | nil => rfl
  | cons x items ih =>
    unfold besidesCoins coinStacks at ih ⊢
    cases hx : stackValue x with
    | none =>
      rw [List.filter_cons_of_pos (by simp [hx]), List.filter_cons_of_neg (by simp [hx]),
        ItemInstance.unitsOf_cons, ItemInstance.unitsOf_cons, ih, add_assoc]
    | some value =>
      rw [List.filter_cons_of_neg (by simp [hx]), List.filter_cons_of_pos (by simp [hx]),
        ItemInstance.unitsOf_cons, ItemInstance.unitsOf_cons, ih, add_left_comm]

/-- One slot is rid of its coins, and the others stay. -/
theorem stripSlot_spec (state : ℕ × PlayerEquipment) (slot : EquipmentSlot) :
    (stripSlot state slot).1 = state.1 + coinsValue (slotItems state.2 [slot]) ∧
      (stripSlot state slot).2.item slot =
        (state.2.item slot).filter (fun x => (stackValue x).isNone) ∧
      ∀ j, j ≠ slot → (stripSlot state slot).2.item j = state.2.item j := by
  unfold stripSlot slotItems coinsValue
  cases hitem : state.2.item slot with
  | none => simp [hitem]
  | some item =>
    cases hvalue : stackValue item with
    | none => simp [hitem, hvalue, Option.filter]
    | some value =>
      refine ⟨by simp [hitem, hvalue], by simp [hvalue, Option.filter], fun j hj => ?_⟩
      simp [hvalue, Ne.symm hj]

/-- **The loop over the slots** takes the coins out of them. -/
theorem stripSlots_spec (slots : List EquipmentSlot) (hnodup : slots.Nodup)
    (state : ℕ × PlayerEquipment) :
    (slots.foldl stripSlot state).1 = state.1 + coinsValue (slotItems state.2 slots) ∧
      (∀ j ∈ slots, (slots.foldl stripSlot state).2.item j =
        (state.2.item j).filter fun x => (stackValue x).isNone) ∧
      ∀ j ∉ slots, (slots.foldl stripSlot state).2.item j = state.2.item j := by
  induction slots generalizing state with
  | nil => exact ⟨rfl, fun _ h => absurd h List.not_mem_nil, fun _ _ => rfl⟩
  | cons slot slots ih =>
    obtain ⟨hfresh, hnodup⟩ := List.nodup_cons.mp hnodup
    obtain ⟨hfirst, hslot, hothers⟩ := stripSlot_spec state slot
    obtain ⟨hrest, hslots, hlater⟩ := ih hnodup (stripSlot state slot)
    have hsame : slotItems (stripSlot state slot).2 slots = slotItems state.2 slots :=
      slotItems_congr fun j hj => hothers j fun heq => hfresh (heq ▸ hj)
    have hcons : slotItems state.2 (slot :: slots) =
        slotItems state.2 [slot] ++ slotItems state.2 slots := by
      unfold slotItems
      rw [← List.filterMap_append, List.singleton_append]
    rw [List.foldl_cons]
    refine ⟨?_, fun j hj => ?_, fun j hj => ?_⟩
    · rw [hrest, hfirst, hsame, hcons, coinsValue_append, add_assoc]
    · rcases List.mem_cons.mp hj with rfl | hj
      · rw [hlater j hfresh, hslot]
      · rw [hslots j hj, hothers j fun heq => hfresh (heq ▸ hj)]
    · rw [hlater j fun h => hj (List.mem_cons_of_mem slot h),
        hothers j fun h => hj (h ▸ List.mem_cons_self)]

/-- The first items of a container, from the last of them down. -/
theorem foldl_stripIndex (n d : ℕ) (c : ItemContainer) (hn : n ≤ c.items.length) :
    (List.range n).reverse.foldl stripIndex (d, c) = (d + coinsValue (c.items.take n),
      { c with items := besidesCoins (c.items.take n) ++ c.items.drop n }) := by
  induction n generalizing d c with
  | zero => rfl
  | succ n ih =>
    have hlt : n < c.items.length := hn
    have hitem : c.item n = some c.items[n] := List.getElem?_eq_getElem hlt
    have htake : c.items.take (n + 1) = c.items.take n ++ [c.items[n]] :=
      (List.take_append_getElem hlt).symm
    rw [List.range_succ, List.reverse_append, List.reverse_singleton, List.singleton_append,
      List.foldl_cons, htake, coinsValue_append, besidesCoins_append]
    cases hvalue : stackValue c.items[n] with
    | none =>
      have hstep : stripIndex (d, c) n = (d, c) := by
        simp [stripIndex, hitem, hvalue]
      rw [hstep, ih d c hlt.le, List.drop_eq_getElem_cons hlt]
      simp [coinsValue, besidesCoins, hvalue]
    | some value =>
      have hstep : stripIndex (d, c) n = (d + value, { c with items := c.items.eraseIdx n }) := by
        simp [stripIndex, hitem, hvalue]
      have hshort : n ≤ (c.items.eraseIdx n).length := by
        rw [List.length_eraseIdx_of_lt hlt]
        omega
      have hsplit : c.items.eraseIdx n = c.items.take n ++ c.items.drop (n + 1) :=
        List.eraseIdx_eq_take_drop_succ _ _
      have hlength : (c.items.take n).length = n := by
        rw [List.length_take, min_eq_left hlt.le]
      have hfirst : (c.items.eraseIdx n).take n = c.items.take n := by
        rw [hsplit, List.take_left' hlength]
      have hlast : (c.items.eraseIdx n).drop n = c.items.drop (n + 1) := by
        rw [hsplit, List.drop_left' hlength]
      rw [hstep, ih _ _ hshort, hfirst, hlast]
      simp [coinsValue, besidesCoins, hvalue]
      omega

/-- **The loop over a container** takes the coins out of it. -/
theorem stripItems_eq (d : ℕ) (c : ItemContainer) :
    stripItems d c = (d + coinsValue c.items, { c with items := besidesCoins c.items }) := by
  unfold stripItems
  rw [foldl_stripIndex _ _ _ le_rfl, List.take_length, List.drop_length, List.append_nil]

def PlayerContainer.withoutCoins (c : PlayerContainer) : PlayerContainer :=
  { c with items := { c.items with items := besidesCoins c.items.items } }

theorem editAll_stripItems (d : ℕ) (entries : List (ℕ × PlayerContainer)) :
    editAll stripItems d entries = (d + coinsValue (windowItems entries),
      entries.map fun entry => (entry.1, entry.2.withoutCoins)) := by
  induction entries generalizing d with
  | nil => rfl
  | cons entry entries ih =>
    have hcons : windowItems (entry :: entries) = entry.2.items.items ++ windowItems entries := rfl
    dsimp only [editAll]
    rw [stripItems_eq, ih, hcons, coinsValue_append, add_assoc]
    rfl

/-- The coin stacks have gone from the slots and the windows, and nothing else. -/
structure CoinsTaken (e e' : PlayerEquipment) (cs cs' : PlayerContainers) : Prop where
  slots : ∀ slot, e'.item slot = (e.item slot).filter fun x => (stackValue x).isNone
  windows : ∀ id, cs'.container id = (cs.container id).map PlayerContainer.withoutCoins

theorem CoinsTaken.carried {e e' : PlayerEquipment} {cs cs' : PlayerContainers}
    (h : CoinsTaken e e' cs cs') : carriedItems e' cs' = besidesCoins (carriedItems e cs) := by
  have hslots : slotItems e' equipmentSlots = besidesCoins (slotItems e equipmentSlots) := by
    unfold slotItems besidesCoins
    rw [List.filter_filterMap]
    exact List.filterMap_congr fun slot _ => h.slots slot
  have hentries : cs'.containers.entries =
      cs.containers.entries.map fun _ c => c.withoutCoins := by
    apply Std.ExtTreeMap.ext_getElem?
    intro id
    rw [Std.ExtTreeMap.getElem?_map]
    exact h.windows id
  have hwindows : windowItems cs'.containers.entries.toList =
      besidesCoins (windowItems cs.containers.entries.toList) := by
    rw [hentries, Std.ExtTreeMap.toList_map]
    unfold windowItems besidesCoins
    rw [List.flatMap_map, List.filter_flatMap]
    rfl
  unfold carriedItems
  rw [hslots, hwindows, besidesCoins_append]

theorem units_carriedItems (e : PlayerEquipment) (cs : PlayerContainers) :
    e.units + cs.units = ItemInstance.unitsOf (carriedItems e cs) := by
  unfold carriedItems
  rw [ItemInstance.unitsOf_append, ← units_equipmentSlots, ← units_windowItems]

/-- **What a deposit takes**: all coin stacks, for what they are worth. -/
theorem depositAll_takes (e : PlayerEquipment) (cs : PlayerContainers) :
    ∃ cs', rebuildContainers stripItems (equipmentSlots.foldl stripSlot (0, e)).1 cs =
        .ok (coinsValue (carriedItems e cs), cs') ∧
      CoinsTaken e (equipmentSlots.foldl stripSlot (0, e)).2 cs cs' := by
  obtain ⟨hvalue, hslots, -⟩ := stripSlots_spec equipmentSlots nodup_equipmentSlots (0, e)
  obtain ⟨cs', hrun, -, hwritten, hnone⟩ := rebuild_spec stripItems
    (equipmentSlots.foldl stripSlot (0, e)).1 cs
  rw [editAll_stripItems] at hrun hwritten
  refine ⟨cs', ?_, fun slot => hslots slot (mem_equipmentSlots slot), fun id => ?_⟩
  · rw [hrun, hvalue, carriedItems, coinsValue_append, Nat.zero_add]
  · cases hc : cs.container id with
    | none => exact hnone id hc
    | some c =>
      have hmem : (id, c) ∈ cs.containers.entries.toList :=
        Std.ExtTreeMap.mem_toList_iff_getElem?_eq_some.mpr hc
      exact hwritten _ (List.mem_map_of_mem hmem)

/-! ### The four trades -/

section Trades

variable {catalog : DeclarativeShopCatalog} {before after : Multiset ItemKind} {gold : ℕ}

/-- What the bank pays for stacks of coins, when the sum is in range. -/
theorem sum_stackValue {sold : List ItemInstance}
    (hcoins : ∀ x ∈ sold, ∃ value, nativeCoinValue x.serverId = some value)
    (hsum : (sold.filterMap stackValue).sum < u64Max) :
    (sold.filterMap stackValue).sum =
      (sold.map fun x => x.count * (nativeCoinValue x.serverId).getD 0).sum := by
  induction sold with
  | nil => rfl
  | cons x sold ih =>
    obtain ⟨value, hvalue⟩ := hcoins x List.mem_cons_self
    have hx : stackValue x = some (min (value * x.count) u64Max) := by
      unfold stackValue
      rw [hvalue]
      rfl
    rw [List.filterMap_cons_some hx, List.sum_cons] at hsum ⊢
    rw [ih (fun y hy => hcoins y (List.mem_cons_of_mem x hy)) (by omega), List.map_cons,
      List.sum_cons, hvalue, Option.getD_some, Nat.mul_comm x.count]
    omega

/-- A deposit. -/
theorem CoinsTaken.trades {e e' : PlayerEquipment} {cs cs' : PlayerContainers}
    (h : CoinsTaken e e' cs cs') (hfits : gold + coinsValue (carriedItems e cs) ≤ i64Max) :
    Trades catalog.quotes ⟨gold, (e.units + cs.units).map ItemKind.serverId⟩
      ⟨gold + coinsValue (carriedItems e cs), (e'.units + cs'.units).map ItemKind.serverId⟩ := by
  have hcoins : ∀ x ∈ coinStacks (carriedItems e cs), ∃ value,
      nativeCoinValue x.serverId = some value := by
    intro x hx
    have hvalue : (stackValue x).isSome = true := (List.mem_filter.mp hx).2
    rw [stackValue, Option.isSome_map] at hvalue
    exact Option.isSome_iff_exists.mp hvalue
  have hsum : coinsValue (carriedItems e cs) = ((coinStacks (carriedItems e cs)).map fun x =>
      x.count * (nativeCoinValue x.serverId).getD 0).sum := by
    rw [coinsValue_coinStacks] at hfits ⊢
    refine sum_stackValue hcoins ?_
    unfold coinsValue i64Max at hfits
    unfold u64Max
    omega
  have hbids : ∀ x ∈ coinStacks (carriedItems e cs), (nativeCoinValue x.serverId).getD 0 ∈
      catalog.quotes.bids x.serverId := by
    intro x hx
    obtain ⟨value, hvalue⟩ := hcoins x hx
    rw [hvalue]
    exact .inl hvalue
  have hsell := Trades.sell_all _ ItemInstance.serverId ItemInstance.count hbids gold
    ((e'.units + cs'.units).map ItemKind.serverId)
  rw [units_carriedItems, unitsOf_besidesCoins, ← h.carried, ← units_carriedItems,
    Multiset.map_add, ids_unitsOf, ← add_assoc, hsum, add_comm gold]
  exact hsell.head .lose

/-- Stacks of one item that are put into the windows. -/
theorem placeStacks_units {accepts : PlayerContainer → Bool} {serverId : ℕ} {counts : List ℕ}
    {cs cs' : PlayerContainers} (h : placeStacks accepts serverId counts cs = .ok (some cs')) :
    cs'.units = cs.units + Multiset.replicate counts.sum ⟨serverId, none, none⟩ := by
  induction counts generalizing cs with
  | nil =>
    cases h
    simp
  | cons count counts ih =>
    obtain ⟨item, hitem, h⟩ := except_bind_eq_ok.mp h
    obtain ⟨hid, hcount, rfl⟩ : serverId ≠ 0 ∧ (1 ≤ count ∧ count ≤ maxItemStackCount) ∧
        item = ⟨serverId, count, none, none, []⟩ := by
      unfold ItemInstance.new at hitem
      split_ifs at hitem with hid hcount
      cases hitem
      exact ⟨hid, hcount, rfl⟩
    obtain ⟨out, hout, h⟩ := except_bind_eq_ok.mp h
    rcases PlayerContainers.placeStack_spec accepts ⟨serverId, count, none, none, []⟩ cs.ids cs with
      ⟨id, c, d, items, hc, -, hmerge, hrun⟩ | ⟨-, hrun⟩
    · cases hrun.symm.trans hout
      have hset := PlayerContainers.units_setItems hc items
      have hunits := ItemContainer.units_mergeOrInsertStack hmerge
      have hnone : (⟨serverId, count, none, none, []⟩ : ItemInstance).contentUnits = 0 := by
        unfold ItemInstance.contentUnits
        rw [ItemInstance.unitsOf_nil]
      have hone : (⟨serverId, count, none, none, []⟩ : ItemInstance).units =
          Multiset.replicate count ⟨serverId, none, none⟩ := by
        rw [ItemInstance.units_eq, hnone, add_zero]
        rfl
      rw [hnone, ite_self, add_zero, hone] at hunits
      rw [hunits, add_comm c.items.units, ← add_assoc] at hset
      rw [ih h, add_right_cancel hset, List.sum_cons, Multiset.replicate_add, add_assoc]
    · cases hrun.symm.trans hout
      cases h

/-- Single units that are put into the windows. -/
theorem placeUnits_placed {serverId count : ℕ} {cs cs' : PlayerContainers}
    (h : placeStacks isTopLevel serverId (List.replicate count 1) cs = .ok (some cs')) :
    PlayerContainers.Placed isTopLevel ⟨serverId, none, none⟩ count cs cs' := by
  induction count generalizing cs with
  | zero =>
    cases h
    exact .refl _ _ _
  | succ count ih =>
    rw [List.replicate_succ] at h
    obtain ⟨item, hitem, h⟩ := except_bind_eq_ok.mp h
    obtain ⟨out, hout, h⟩ := except_bind_eq_ok.mp h
    have hone : item = ⟨serverId, 1, none, none, []⟩ := by
      unfold ItemInstance.new at hitem
      split_ifs at hitem
      cases hitem
      rfl
    subst hone
    rcases @PlayerContainers.placeStack_unit cs isTopLevel ⟨serverId, 1, none, none, []⟩
        (fun _ _ => rfl) rfl rfl with ⟨mid, hrun, hplaced⟩ | ⟨-, hrun⟩
    · cases hrun.symm.trans hout
      exact hplaced.trans (ih h)
    · cases hrun.symm.trans hout
      cases h

/-- What has been gathered: units of the item, and what was inside the stacks that are used up. -/
structure Gathered (serverId count : ℕ) (e e' : PlayerEquipment) (cs cs' : PlayerContainers) :
    Prop where
  others : KeepsOthers serverId e e' cs cs'
  units : ∃ taken : Multiset ItemKind, Multiset.card taken = count ∧
    (∀ kind ∈ taken, kind.serverId = serverId) ∧ e.units + cs.units = e'.units + cs'.units +
      taken + ((usedUp serverId count (carriedItems e cs)).map ItemInstance.contentUnits).sum

theorem gathered_of_gatherUnits {serverId count : ℕ} {e e' : PlayerEquipment}
    {cs cs' : PlayerContainers} (hgather : gatherUnits serverId count e cs = .ok (0, e', cs')) :
    Gathered serverId count e e' cs cs' := by
  obtain ⟨e₁, cs₁, hspec, hothers, hleft⟩ := gatherUnits_spec serverId count e cs
  rw [hgather] at hspec
  simp only [Except.ok.injEq, Prod.mk.injEq] at hspec
  obtain ⟨hnone, rfl, rfl⟩ := hspec
  obtain ⟨taken, hcard, hkinds, hunits⟩ := drained_units serverId count (carriedItems e cs)
  rw [drained_fst, ← hnone, Nat.sub_zero] at hcard
  exact ⟨hothers, taken, hcard, hkinds, by rw [units_carriedItems, hunits, hleft]⟩

theorem ids_replicate (n serverId : ℕ) :
    (Multiset.replicate n (⟨serverId, none, none⟩ : ItemKind)).map ItemKind.serverId =
      Multiset.replicate n serverId := Multiset.map_replicate _ _ _

/-- Units of one item for so much gold each. -/
theorem trades_of_placed {serverId n ask paid : ℕ} (hask : ask ∈ catalog.quotes.asks serverId)
    (hpaid : paid = n * ask) (hgold : paid ≤ gold)
    (hunits : after = before + Multiset.replicate n ⟨serverId, none, none⟩) :
    Trades catalog.quotes ⟨gold, before.map ItemKind.serverId⟩
      ⟨gold - paid, after.map ItemKind.serverId⟩ := by
  have hsplit : gold = n * ask + (gold - paid) := by omega
  rw [hunits, Multiset.map_add, ids_replicate]
  have htrade : Trade catalog.quotes ⟨n * ask + (gold - paid), before.map ItemKind.serverId⟩
      ⟨gold - paid, before.map ItemKind.serverId + Multiset.replicate n serverId⟩ := .buy hask
  rw [← hsplit] at htrade
  exact .single htrade

theorem sum_withdrawChunks {room amount : ℕ} {chunks : List ℕ}
    (h : withdrawChunks room amount = some chunks) : chunks.sum = amount := by
  induction room generalizing amount chunks with
  | zero =>
    cases amount with
    | zero =>
      cases h
      rfl
    | succ amount => cases h
  | succ room ih =>
    cases amount with
    | zero =>
      cases h
      rfl
    | succ amount =>
      obtain ⟨rest, hrest, rfl⟩ := Option.map_eq_some_iff.mp h
      rw [List.sum_cons, ih hrest]
      omega

/-- A withdrawal is too large for its stacks. -/
theorem withdrawChunks_eq_none {room amount : ℕ} :
    withdrawChunks room amount = none ↔ room * maxItemStackCount < amount := by
  induction room generalizing amount with
  | zero =>
    cases amount with
    | zero => simp [withdrawChunks]
    | succ amount => simp [withdrawChunks]
  | succ room ih =>
    cases amount with
    | zero => simp [withdrawChunks]
    | succ amount =>
      rw [withdrawChunks, Option.map_eq_none_iff, ih]
      unfold maxItemStackCount
      omega

/-- What is gathered and sold. -/
theorem Gathered.trades {serverId count bid : ℕ} {e e' : PlayerEquipment}
    {cs cs' : PlayerContainers} (h : Gathered serverId count e e' cs cs')
    (hbid : bid ∈ catalog.quotes.bids serverId) :
    Trades catalog.quotes ⟨gold, (e.units + cs.units).map ItemKind.serverId⟩
      ⟨count * bid + gold, (e'.units + cs'.units).map ItemKind.serverId⟩ := by
  obtain ⟨taken, hcard, hkinds, hunits⟩ := h.units
  have hids : taken.map ItemKind.serverId = Multiset.replicate count serverId := by
    rw [Multiset.eq_replicate]
    refine ⟨by rw [Multiset.card_map, hcard], fun id hid => ?_⟩
    obtain ⟨kind, hkind, rfl⟩ := Multiset.mem_map.mp hid
    exact hkinds kind hkind
  rw [hunits, Multiset.map_add, Multiset.map_add, hids]
  exact Relation.ReflTransGen.head .lose (.single (.sell hbid))

end Trades

/-! ### How a handler ends -/

namespace Host

open Procedure (atomic)

/-- An operation fails and changes nothing, or this holds of its outcome and its state. -/
structure Ends {α : Type} (Q : α → HostState → Prop) (m : HostM α) (s : HostState) : Prop where
  ok : ∀ {a t}, m s = (.ok a, t) → Q a t
  error : ∀ {e t}, m s = (.error e, t) → t = s

section Ending

variable {α β : Type} {Q : α → HostState → Prop} {s s' : HostState}

theorem Ends.of_ok {m : HostM α} {a : α} {t : HostState} (h : m s = (.ok a, t)) (hQ : Q a t) :
    Ends Q m s := by
  constructor
  · intro a' t' h'
    cases h.symm.trans h'
    exact hQ
  · intro e' t' h'
    cases h.symm.trans h'

theorem Ends.of_error {m : HostM α} {e : Refusal} (h : m s = (.error e, s)) : Ends Q m s := by
  constructor
  · intro a' t' h'
    cases h.symm.trans h'
  · intro e' t' h'
    cases h.symm.trans h'
    rfl

theorem Ends.pure {a : α} (h : Q a s) : Ends Q (Pure.pure a : HostM α) s := .of_ok rfl h

theorem Ends.bind {R : β → HostState → Prop} {m : HostM α} {f : α → HostM β} (hm : ReadOnly m)
    (hf : ∀ a, m s = (.ok a, s) → Ends R (f a) s) : Ends R (m >>= f) s := by
  have hstate := hm s
  rcases hrun : m s with ⟨e | a, t⟩
  · rw [hrun] at hstate
    obtain rfl : t = s := hstate
    exact .of_error (bind_of_error hrun)
  · rw [hrun] at hstate
    obtain rfl : t = s := hstate
    have hrest := hf a hrun
    exact ⟨fun h => hrest.ok ((bind_of_ok hrun).symm.trans h),
      fun h => hrest.error ((bind_of_ok hrun).symm.trans h)⟩

theorem Ends.map {f : β → α} {h : Handler β} (hh : Ends (fun b => Q (f b)) h.run s) :
    Ends Q (f <$> h).run s := by
  show Ends Q (h >>= fun b => Pure.pure (f b)).run s
  rw [Procedure.run_bind]
  rcases hrun : h.run s with ⟨e | b, t⟩
  · obtain rfl := hh.error hrun
    exact .of_error (bind_of_error hrun)
  · exact .of_ok (bind_of_ok hrun) (hh.ok hrun)

theorem Ends.weaken {R : α → HostState → Prop} {m : HostM α} (h : Ends Q m s)
    (hweak : ∀ a t, Q a t → R a t) : Ends R m s :=
  ⟨fun hrun => hweak _ _ (h.ok hrun), h.error⟩

/-! ### The reads -/

variable {p balance : ℕ} {e e' : PlayerEquipment} {cs cs' : PlayerContainers}

theorem run_orCore_eq_ok {x : Except CoreError α} {a : α} (h : (orCore x).run s = (.ok a, s)) :
    x = .ok a := by
  cases x with
  | error e => cases h
  | ok b =>
    cases h
    rfl

theorem readOnly_orCore (x : Except CoreError α) : ReadOnly (orCore x).run := .ofExcept _

theorem Ends.orCore {x : Except CoreError β} {f : β → Handler α}
    (hf : ∀ b, x = .ok b → Ends Q (f b).run s) : Ends Q (Host.orCore x >>= f).run s := by
  rw [Procedure.run_bind]
  exact .bind (readOnly_orCore x) fun b hb => hf b (run_orCore_eq_ok hb)

theorem playerBankBalance_eq_ok (h : playerBankBalance p s = (.ok balance, s)) :
    s.database.bankBalances[p]? = some balance := (readOr_eq_ok.mp h).1

theorem readOnly_playerAndVitals (p : ℕ) : ReadOnly (playerAndVitals p) :=
  .bind (.readOr _ _) fun _ => .bind (.readOr _ _) fun _ => .pure _

theorem readOnly_nativeBankOfficerNearby (p : ℕ) : ReadOnly (nativeBankOfficerNearby p).run := by
  unfold nativeBankOfficerNearby
  simp only [Procedure.run_bind, Procedure.run_atomic]
  exact .bind (readOnly_playerAndVitals p) fun _ => .bind (.read _) fun _ => .pure _

theorem readOnly_checkNativeCarryCapacity (p : ℕ) (incoming : List (ℕ × ℕ))
    (weights : Option (BTreeMap ℕ ℕ)) :
    ReadOnly (checkNativeCarryCapacity p incoming weights).run := by
  unfold checkNativeCarryCapacity
  cases weights with
  | none => exact .pure _
  | some weights =>
    simp only [Procedure.run_bind, Procedure.run_atomic]
    exact .bind (.readOr _ _) fun _ => .bind (.readOr _ _) fun _ => .bind (.readOr _ _) fun _ =>
      .pure _

/-! ### The commit -/

/-- The inventory and the balance of a player have been saved and published. -/
structure Committed (p : ℕ) (e : PlayerEquipment) (cs : PlayerContainers) (balance : ℕ)
    (s s' : HostState) : Prop where
  saved : s.database.replacePlayerInventoryAndBankBalance p e cs balance = .ok s'.database
  written : WorldState.InventoryWritten p e cs s.world.toWorldState s'.world.toWorldState

theorem writeInventory_balances {db db' : EngineDatabase} (h : db.writeInventory p e cs = .ok db') :
    db'.bankBalances = db.bankBalances := by
  obtain ⟨mid, hmid, h⟩ := except_bind_eq_ok.mp h
  obtain ⟨-, table, rfl⟩ := EngineDatabase.writeEquipment_eq_ok hmid
  obtain ⟨-, -, containers, items, rfl⟩ := EngineDatabase.writeContainers_eq_ok h
  rfl

theorem Committed.balances (h : Committed p e cs balance s s') : balance ≤ i64Max ∧
    s'.database.bankBalances = s.database.bankBalances.insert p balance := by
  obtain ⟨-, -, hsave⟩ := except_bind_eq_ok.mp h.saved
  split_ifs at hsave with hlarge
  obtain ⟨mid, hmid, hsave⟩ := except_bind_eq_ok.mp hsave
  refine ⟨not_lt.mp hlarge, ?_⟩
  rw [← Except.ok.inj hsave]
  show mid.bankBalances.insert p balance = _
  rw [writeInventory_balances hmid]

/-- **A commit** is refused as a whole or goes through as a whole. -/
theorem commit_ends (hw : s.world.HoldersRegistered)
    (he : s.world.playerEquipments[p]? = some e) (hcs : s.world.playerContainers[p]? = some cs)
    {a : α} (hQ : ∀ t, Committed p e' cs' balance s t → Q a t) :
    Ends Q (do (commitInventoryAndBalance p e' cs' balance).run; Pure.pure a) s := by
  unfold commitInventoryAndBalance
  simp only [Procedure.run_bind, Procedure.run_atomic]
  rcases persist_cases (·.replacePlayerInventoryAndBankBalance p e' cs' balance) s with
    ⟨r, hr⟩ | ⟨db, hsave, hok⟩
  · exact .of_error (bind_of_error (bind_of_error hr))
  · obtain ⟨b₁, b₂, t, w', hstep₁, hstep₂, hwritten⟩ :=
      publishInventory (s := { s with database := db }) hw he hcs e' cs'
    have hcommit : (do
        persist (·.replacePlayerInventoryAndBankBalance p e' cs' balance)
        let _ ← onWorld (World.replacePlayerEquipment p e')
        let _ ← onWorld (World.replacePlayerContainers p cs')
        (Pure.pure () : Handler Unit).run : HostM Unit) s =
          (.ok (), ⟨{ s.world with toWorldState := w' }, s.map, db⟩) := by
      rw [bind_of_ok hok, bind_of_ok hstep₁, bind_of_ok hstep₂]
      rfl
    exact .of_ok (bind_of_ok hcommit) (hQ _ ⟨hsave, hwritten⟩)

/-! ### The bank -/

/-- The first active NPC near the player. -/
def FirstNearby (p : ℕ) (s : HostState) (npc : FeTfsStaticEntity) : Prop :=
  ∃ player entities npcIds, s.world.players[p]? = some player ∧
    activeStaticSpawns s = (.ok (entities, npcIds), s) ∧
      entities.find? (isNearbyNpc player npcIds) = some npc

theorem playerAndVitals_eq_ok {found : Player × PlayerVitals}
    (h : playerAndVitals p s = (.ok found, s)) : s.world.players[p]? = some found.1 := by
  obtain ⟨player, t, hplayer, hrest⟩ := bind_eq_ok.mp h
  obtain ⟨vitals, u, -, hdone⟩ := bind_eq_ok.mp hrest
  cases hdone
  exact (requirePlayer_eq_ok.mp hplayer).1

theorem nativeBankOfficerNearby_eq_ok (h : (nativeBankOfficerNearby p).run s = (.ok true, s)) :
    ∃ npc, FirstNearby p s npc := by
  unfold nativeBankOfficerNearby at h
  simp only [Procedure.run_bind, Procedure.run_atomic] at h
  obtain ⟨found, t, hfound, hrest⟩ := bind_eq_ok.mp h
  obtain rfl : t = s := by
    have hstate := readOnly_playerAndVitals p s
    rwa [hfound] at hstate
  obtain ⟨spawns, u, hspawns, hdone⟩ := bind_eq_ok.mp hrest
  cases hspawns
  have hany := (Prod.ext_iff.mp hdone).1
  obtain ⟨npc, hnpc⟩ := List.find?_isSome.mpr (List.any_eq_true.mp (Except.ok.inj hany))
    |> Option.isSome_iff_exists.mp
  exact ⟨npc, _, _, _, playerAndVitals_eq_ok hfound, rfl, hnpc⟩

/-- What the bank answers to a keyword, and what it has done by then. -/
inductive BankSays (p : ℕ) (s : HostState) : BankKeyword → String → HostState → Prop
  | balance {balance : ℕ} : s.database.bankBalances[p]? = some balance →
      BankSays p s .balance s!"Your account balance is {balance} gold." s
  | noCoins {e : PlayerEquipment} {cs : PlayerContainers} :
      s.world.playerEquipments[p]? = some e → s.world.playerContainers[p]? = some cs →
      coinsValue (carriedItems e cs) = 0 →
      BankSays p s .depositAll "You have no coins to deposit." s
  | deposited {e e' : PlayerEquipment} {cs cs' : PlayerContainers} {balance : ℕ} {s' : HostState} :
      s.world.playerEquipments[p]? = some e → s.world.playerContainers[p]? = some cs →
      s.database.bankBalances[p]? = some balance → 0 < coinsValue (carriedItems e cs) →
      CoinsTaken e e' cs cs' →
      Committed p e' cs' (balance + coinsValue (carriedItems e cs)) s s' →
      BankSays p s .depositAll s!"You deposited {coinsValue (carriedItems e cs)} gold." s'
  | tooPoor {balance amount : ℕ} : s.database.bankBalances[p]? = some balance → balance < amount →
      BankSays p s (.withdraw amount) "You do not have enough gold on your account." s
  | tooMuch {amount : ℕ} : maxWithdrawChunks * maxItemStackCount < amount →
      BankSays p s (.withdraw amount) "You cannot withdraw that much at once." s
  | noRoom {cs : PlayerContainers} {amount : ℕ} {chunks : List ℕ} :
      s.world.playerContainers[p]? = some cs →
      withdrawChunks maxWithdrawChunks amount = some chunks →
      placeStacks isTopLevel goldCoinServerId chunks cs = .ok none →
      BankSays p s (.withdraw amount) "You need a container with free space to withdraw." s
  | withdrawn {e : PlayerEquipment} {cs cs' : PlayerContainers} {balance amount : ℕ}
      {s' : HostState} : s.world.playerEquipments[p]? = some e →
      s.world.playerContainers[p]? = some cs → s.database.bankBalances[p]? = some balance →
      amount ≤ balance →
      cs'.units = cs.units + Multiset.replicate amount ⟨goldCoinServerId, none, none⟩ →
      Committed p e cs' (balance - amount) s s' →
      BankSays p s (.withdraw amount) s!"You withdrew {amount} gold." s'

/-- What the bank says to a message, if it is one of its own. -/
def BankAnswers (p : ℕ) (message : String) (s : HostState) (reply : Option String)
    (s' : HostState) : Prop :=
  match reply with
  | none => s' = s
  | some reply => ∃ keyword, bankKeyword message = some keyword ∧ (∃ npc, FirstNearby p s npc) ∧
      BankSays p s keyword reply s'

theorem depositAll_ends (hw : s.world.HoldersRegistered)
    (he : s.world.playerEquipments[p]? = some e) (hcs : s.world.playerContainers[p]? = some cs) :
    Ends (BankSays p s .depositAll) (depositAll p e cs).run s := by
  obtain ⟨cs', hrebuild, htaken⟩ := depositAll_takes e cs
  unfold depositAll
  apply Ends.orCore
  intro built hbuilt
  cases hrebuild.symm.trans hbuilt
  dsimp only
  split
  · next hnone => exact .pure (.noCoins he hcs hnone)
  · next hsome =>
    simp only [Procedure.run_bind, Procedure.run_atomic]
    refine .bind (.readOr _ _) fun old hold => commit_ends hw he hcs fun t ht => ?_
    -- a balance that is saved has not been saturated
    have hexact : saturatingAdd old (coinsValue (carriedItems e cs)) =
        old + coinsValue (carriedItems e cs) := by
      have hbound := ht.balances.1
      unfold saturatingAdd i64Max u64Max at *
      omega
    rw [hexact] at ht
    exact .deposited he hcs (playerBankBalance_eq_ok hold) (Nat.pos_of_ne_zero hsome) htaken ht

theorem withdraw_ends (hw : s.world.HoldersRegistered)
    (he : s.world.playerEquipments[p]? = some e) (hcs : s.world.playerContainers[p]? = some cs)
    (amount : ℕ) : Ends (BankSays p s (.withdraw amount)) (withdraw p e cs amount).run s := by
  unfold withdraw
  simp only [Procedure.run_bind, Procedure.run_atomic]
  refine .bind (.readOr _ _) fun old hold => ?_
  have hold := playerBankBalance_eq_ok hold
  split
  · next hpoor => exact .pure (.tooPoor hold hpoor)
  · next henough =>
    split
    · next hmuch => exact .pure (.tooMuch (withdrawChunks_eq_none.mp hmuch))
    · next chunks hchunks =>
      apply Ends.orCore
      intro placed hplaced
      cases placed with
      | none => exact .pure (.noRoom hcs hchunks hplaced)
      | some cs' =>
        have hunits := placeStacks_units hplaced
        rw [sum_withdrawChunks hchunks] at hunits
        simp only [Procedure.run_bind]
        exact commit_ends hw he hcs fun t ht =>
          .withdrawn he hcs hold (not_lt.mp henough) hunits ht

/-- **How a word to the bank ends.** -/
theorem bank_ends (hw : s.world.HoldersRegistered) (p : ℕ) (message : String) :
    Ends (BankAnswers p message s) (handleNativeBankKeyword p message).run s := by
  unfold handleNativeBankKeyword
  split
  · exact .pure rfl
  · next keyword hkeyword =>
    rw [Procedure.run_bind]
    refine .bind (readOnly_nativeBankOfficerNearby p) fun nearby hnearby => ?_
    split
    · exact .pure rfl
    · next hnear =>
      rw [not_not] at hnear
      rw [hnear] at hnearby
      have hnpc := nativeBankOfficerNearby_eq_ok hnearby
      simp only [Procedure.run_bind, Procedure.run_atomic]
      refine .bind (.readOr _ _) fun e he => .bind (.readOr _ _) fun cs hcs => ?_
      have he := (playerEquipment_eq_ok.mp he).1
      have hcs := (playerContainers_eq_ok.mp hcs).1
      cases keyword with
      | balance =>
        simp only [Procedure.run_bind, Procedure.run_atomic]
        exact .bind (.readOr _ _) fun _ hold =>
          .pure ⟨_, hkeyword, hnpc, .balance (playerBankBalance_eq_ok hold)⟩
      | depositAll =>
        exact .map ((depositAll_ends hw he hcs).weaken fun _ _ h => ⟨_, hkeyword, hnpc, h⟩)
      | withdraw amount =>
        exact .map ((withdraw_ends hw he hcs amount).weaken fun _ _ h => ⟨_, hkeyword, hnpc, h⟩)

/-! ### The shops -/

/-- What was traded in a shop of the catalogue, one item at the price of its first entry. -/
inductive ShopTrade (catalog : DeclarativeShopCatalog) (p : ℕ) (npcName : String)
    (serverId count : ℕ) (s s' : HostState) : ShopVerb → Prop
  | bought {shop : DeclarativeNpcShop} {entry : DeclarativeShopEntry} {price : ℕ}
      {e : PlayerEquipment} {cs cs' : PlayerContainers} {balance : ℕ} :
      catalog.byNpcName npcName = some shop → shop.entry serverId = some entry →
      entry.buyPriceGold = some price → 1 ≤ count ∧ count ≤ 100 →
      s.world.playerEquipments[p]? = some e → s.world.playerContainers[p]? = some cs →
      s.database.bankBalances[p]? = some balance → count * price ≤ balance →
      PlayerContainers.Placed isTopLevel ⟨serverId, none, none⟩ count cs cs' →
      Committed p e cs' (balance - count * price) s s' →
      ShopTrade catalog p npcName serverId count s s' .buy
  | sold {shop : DeclarativeNpcShop} {entry : DeclarativeShopEntry} {price : ℕ}
      {e e' : PlayerEquipment} {cs cs' : PlayerContainers} {balance : ℕ} :
      catalog.byNpcName npcName = some shop → shop.entry serverId = some entry →
      entry.sellPriceGold = some price → 1 ≤ count ∧ count ≤ 100 →
      s.world.playerEquipments[p]? = some e → s.world.playerContainers[p]? = some cs →
      s.database.bankBalances[p]? = some balance → Gathered serverId count e e' cs cs' →
      Committed p e' cs' (balance + count * price) s s' →
      ShopTrade catalog p npcName serverId count s s' .sell

/-- An outcome that names a shop stands for the trade that was ordered there, any other one for
nothing. -/
def ShopSays (catalog : DeclarativeShopCatalog) (p : ℕ) (npcName : String) (verb : ShopVerb)
    (order : Option (ℕ × ℕ)) (s : HostState) (outcome : ShopKeywordOutcome) (s' : HostState) :
    Prop :=
  match outcome.tradedNpcName with
  | some name => name = npcName ∧ ∃ serverId count, order = some (serverId, count) ∧
      ShopTrade catalog p npcName serverId count s s' verb
  | none => s' = s

variable {catalog : DeclarativeShopCatalog} {npcName : String} {shop : DeclarativeNpcShop}
  {entry : DeclarativeShopEntry} {serverId count : ℕ} {verb : ShopVerb} {order : Option (ℕ × ℕ)}

theorem ends_shopReply (reply : String) :
    Ends (ShopSays catalog p npcName verb order s) (shopReply reply).run s :=
  .pure rfl

theorem buyUnits_ends (hw : s.world.HoldersRegistered) (hfit : s.BalancesFit)
    (he : s.world.playerEquipments[p]? = some e) (hcs : s.world.playerContainers[p]? = some cs)
    (hshop : catalog.byNpcName npcName = some shop) (hentry : shop.entry serverId = some entry)
    (hcount : 1 ≤ count ∧ count ≤ 100) (weights : Option (BTreeMap ℕ ℕ)) :
    Ends (ShopSays catalog p npcName .buy (some (serverId, count)) s)
      (buyUnits p npcName entry serverId count weights e cs).run s := by
  unfold buyUnits
  cases hprice : entry.buyPriceGold with
  | none => exact ends_shopReply _
  | some price =>
    simp only [Procedure.run_bind, Procedure.run_atomic]
    refine .bind (.readOr _ _) fun old hold => ?_
    have hold := playerBankBalance_eq_ok hold
    split
    · exact ends_shopReply _
    · next henough =>
      apply Ends.orCore
      intro placed hplaced
      cases placed with
      | none => exact ends_shopReply _
      | some cs' =>
        rw [Procedure.run_bind]
        refine .bind (readOnly_checkNativeCarryCapacity p _ weights) fun refusal _ => ?_
        cases refusal with
        | some refusal => exact ends_shopReply _
        | none =>
          have hbound := hfit p old hold
          -- a saturated price is more than any balance
          have hpaid : saturatingMul price count = count * price := by
            unfold saturatingMul i64Max u64Max at *
            rw [Nat.mul_comm count]
            omega
          rw [hpaid] at henough ⊢
          simp only [Procedure.run_bind]
          apply commit_ends hw he hcs
          intro t ht
          exact ⟨rfl, _, _, rfl, .bought hshop hentry hprice hcount he hcs hold
            (not_lt.mp henough) (placeUnits_placed hplaced) ht⟩

theorem sellUnits_ends (hw : s.world.HoldersRegistered)
    (he : s.world.playerEquipments[p]? = some e) (hcs : s.world.playerContainers[p]? = some cs)
    (hshop : catalog.byNpcName npcName = some shop) (hentry : shop.entry serverId = some entry)
    (hcount : 1 ≤ count ∧ count ≤ 100) :
    Ends (ShopSays catalog p npcName .sell (some (serverId, count)) s)
      (sellUnits p npcName entry serverId count e cs).run s := by
  unfold sellUnits
  cases hprice : entry.sellPriceGold with
  | none => exact ends_shopReply _
  | some price =>
    apply Ends.orCore
    intro gathered hgather
    obtain ⟨remaining, e', cs'⟩ := gathered
    dsimp only
    split
    · exact ends_shopReply _
    · next hnone =>
      have hzero : remaining = 0 := by omega
      subst hzero
      simp only [Procedure.run_bind, Procedure.run_atomic]
      refine .bind (.readOr _ _) fun old hold => commit_ends hw he hcs fun t ht => ?_
      -- a balance that is saved has not been saturated
      have hexact : saturatingAdd old (saturatingMul price count) = old + count * price := by
        have hbound := ht.balances.1
        unfold saturatingAdd saturatingMul i64Max u64Max at *
        rw [Nat.mul_comm count]
        omega
      rw [hexact] at ht
      exact ⟨rfl, _, _, rfl, .sold hshop hentry hprice hcount he hcs
        (playerBankBalance_eq_ok hold) (gathered_of_gatherUnits hgather) ht⟩

theorem serveOrder_ends (hw : s.world.HoldersRegistered) (hfit : s.BalancesFit) (p : ℕ)
    (hshop : catalog.byNpcName npcName = some shop) (verb : ShopVerb) (words : List (List Char))
    (weights : Option (BTreeMap ℕ ℕ)) :
    Ends (ShopSays catalog p npcName verb (shopOrder words) s)
      (serveOrder p npcName shop verb words weights).run s := by
  unfold serveOrder
  split
  · exact ends_shopReply _
  · next serverId count horder =>
    split
    · exact ends_shopReply _
    · next hcount =>
      split
      · exact ends_shopReply _
      · next entry hentry =>
        rw [horder]
        simp only [Procedure.run_bind, Procedure.run_atomic]
        refine .bind (.readOr _ _) fun e he => .bind (.readOr _ _) fun cs hcs => ?_
        have he := (playerEquipment_eq_ok.mp he).1
        have hcs := (playerContainers_eq_ok.mp hcs).1
        have hcount := not_or.mp hcount
        cases verb with
        | buy => exact buyUnits_ends hw hfit he hcs hshop hentry (by omega) weights
        | sell => exact sellUnits_ends hw he hcs hshop hentry (by omega)

/-- The words of a message. -/
def shopWords (message : String) : List (List Char) :=
  splitWhitespace (String.ofList (normalizedMessage message))

/-- What an outcome of the shops says of a message. -/
def ShopsSay (catalog : DeclarativeShopCatalog) (p : ℕ) (message : String) (s : HostState)
    (outcome : Option ShopKeywordOutcome) (s' : HostState) : Prop :=
  match outcome with
  | none => s' = s
  | some outcome => ∃ npc verb, FirstNearby p s npc ∧
      (shopWords message).head?.bind shopVerb = some verb ∧
      ShopSays catalog p npc.name verb (shopOrder (shopWords message).tail) s outcome s'

/-- **How a word to a shop ends.** -/
theorem shop_ends (hw : s.world.HoldersRegistered) (hfit : s.BalancesFit) (p : ℕ)
    (message : String) (weights : Option (BTreeMap ℕ ℕ)) :
    Ends (ShopsSay catalog p message s) (handleNativeShopKeyword p message catalog weights).run
      s := by
  unfold handleNativeShopKeyword
  dsimp only
  split
  · exact .pure rfl
  · next verb hverb =>
    simp only [Procedure.run_bind, Procedure.run_atomic]
    refine .bind (readOnly_playerAndVitals p) fun found hfound =>
      .bind (.read _) fun spawns hspawns => ?_
    split
    · exact .pure rfl
    · next npc hnpc =>
      split
      · exact .pure rfl
      · next shop hshop =>
        have hnear : FirstNearby p s npc :=
          ⟨_, _, _, playerAndVitals_eq_ok hfound, hspawns, hnpc⟩
        apply Ends.map
        apply (serveOrder_ends hw hfit p hshop verb (shopWords message).tail weights).weaken
        intro outcome t h
        exact ⟨npc, verb, hnear, hverb, h⟩

/-! ### Accounts -/

theorem heldIds_of_written {w w' : WorldState} (h : w.InventoryWritten p e cs w') :
    w'.heldIds p = (e.units + cs.units).map ItemKind.serverId := by
  rw [WorldState.heldIds, h.equipmentOf, h.containersOf]

theorem account_eq (he : s.world.playerEquipments[p]? = some e)
    (hcs : s.world.playerContainers[p]? = some cs)
    (hbalance : s.database.bankBalances[p]? = some balance) :
    s.account p = ⟨balance, (e.units + cs.units).map ItemKind.serverId⟩ := by
  simp [HostState.account, WorldState.heldIds, WorldState.equipmentOf, WorldState.containersOf, he,
    hcs, hbalance]

/-- A commit concerns one account. -/
theorem Committed.traded {quotes : Quotes ℕ} (hw : s.world.HoldersRegistered)
    (hfit : s.BalancesFit) (he : (s.world.playerEquipments[p]?).isSome)
    (h : Committed p e' cs' balance s s')
    (hown : Trades quotes (s.account p)
      ⟨balance, (e'.units + cs'.units).map ItemKind.serverId⟩) : Traded quotes p s s' := by
  obtain ⟨hbound, hinsert⟩ := h.balances
  constructor
  · have hafter : s'.account p = ⟨balance, (e'.units + cs'.units).map ItemKind.serverId⟩ := by
      rw [HostState.account, heldIds_of_written h.written, hinsert]
      simp
    rwa [hafter]
  · intro q hq
    simp [HostState.account, WorldState.heldIds, WorldState.equipmentOf, WorldState.containersOf,
      h.written.equipments, h.written.containers, hinsert, Std.ExtTreeMap.getElem?_insert,
      Ne.symm hq]
  · exact hw.written (hw.equipped p he) h.written
  · intro q b hb
    rw [hinsert, Std.ExtTreeMap.getElem?_insert] at hb
    split at hb
    · cases hb
      exact hbound
    · exact hfit q b hb

theorem Traded.refl {quotes : Quotes ℕ} (hw : s.world.HoldersRegistered) (hfit : s.BalancesFit) :
    Traded quotes p s s := ⟨.refl, fun _ _ => rfl, hw, hfit⟩

theorem BankSays.traded (hw : s.world.HoldersRegistered) (hfit : s.BalancesFit)
    {keyword : BankKeyword} {reply : String} (h : BankSays p s keyword reply s') :
    Traded catalog.quotes p s s' := by
  cases h with
  | deposited he hcs hbalance _ htaken h =>
    refine h.traded hw hfit (by rw [he]; rfl) ?_
    rw [account_eq he hcs hbalance]
    exact htaken.trades h.balances.1
  | withdrawn he hcs hbalance henough hunits h =>
    refine h.traded hw hfit (by rw [he]; rfl) ?_
    rw [account_eq he hcs hbalance]
    exact trades_of_placed (.inl ⟨rfl, rfl⟩) (Nat.mul_one _).symm henough
      (by rw [hunits, add_assoc])
  | balance => exact Traded.refl hw hfit
  | noCoins => exact Traded.refl hw hfit
  | tooPoor => exact Traded.refl hw hfit
  | tooMuch => exact Traded.refl hw hfit
  | noRoom => exact Traded.refl hw hfit

theorem ShopTrade.traded (hw : s.world.HoldersRegistered) (hfit : s.BalancesFit)
    (h : ShopTrade catalog p npcName serverId count s s' verb) : Traded catalog.quotes p s s' := by
  cases h with
  | bought hshop hentry hprice _ he hcs hbalance henough hplaced h =>
    refine h.traded hw hfit (by rw [he]; rfl) ?_
    rw [account_eq he hcs hbalance]
    exact trades_of_placed (.inr ⟨npcName, _, _, hshop, hentry, hprice⟩) rfl henough
      (by rw [hplaced.units, add_assoc])
  | sold hshop hentry hprice _ he hcs hbalance hgathered h =>
    refine h.traded hw hfit (by rw [he]; rfl) ?_
    rw [account_eq he hcs hbalance, Nat.add_comm]
    exact hgathered.trades (.inr ⟨npcName, _, _, hshop, hentry, hprice⟩)

theorem ShopSays.traded (hw : s.world.HoldersRegistered) (hfit : s.BalancesFit)
    {outcome : ShopKeywordOutcome} (h : ShopSays catalog p npcName verb order s outcome s') :
    Traded catalog.quotes p s s' := by
  unfold ShopSays at h
  split at h
  · obtain ⟨-, _, _, -, htrade⟩ := h
    exact htrade.traded hw hfit
  · subst h
    exact Traded.refl hw hfit

theorem Traded.trans {quotes : Quotes ℕ} {t : HostState} (h : Traded quotes p s s')
    (h' : Traded quotes p s' t) : Traded quotes p s t :=
  ⟨h.own.trans h'.own, fun q hq => (h'.others q hq).trans (h.others q hq), h'.holders, h'.fit⟩

/-- A handler that trades when it succeeds. -/
theorem Ends.traded {quotes : Quotes ℕ} {m : HostM α} (hw : s.world.HoldersRegistered)
    (hfit : s.BalancesFit) (h : Ends (fun _ t => Traded quotes p s t) m s) :
    Traded quotes p s (m s).2 := by
  rcases hrun : m s with ⟨e | a, t⟩
  · rw [h.error hrun]
    exact Traded.refl hw hfit
  · exact h.ok hrun

theorem shop_traded (hw : s.world.HoldersRegistered) (hfit : s.BalancesFit) (p : ℕ)
    (message : String) (weights : Option (BTreeMap ℕ ℕ)) :
    Ends (fun _ t => Traded catalog.quotes p s t)
      (Option.map ShopKeywordOutcome.reply <$>
        handleNativeShopKeyword p message catalog weights).run s := by
  apply Ends.map
  apply (shop_ends hw hfit p message weights).weaken
  intro outcome t h
  cases outcome with
  | none =>
    obtain rfl : t = s := h
    exact Traded.refl hw hfit
  | some outcome =>
    obtain ⟨npc, verb, -, -, hsays⟩ := h
    exact ShopSays.traded hw hfit hsays

/-- **What is said to the bank or a shop** is a chain of trades on the player's own account. -/
theorem service_traded (hw : s.world.HoldersRegistered) (hfit : s.BalancesFit) (p : ℕ)
    (message : String) (weights : Option (BTreeMap ℕ ℕ)) :
    Traded catalog.quotes p s ((handleServiceKeyword p message catalog weights).run s).2 := by
  have hbank := bank_ends hw p message
  unfold handleServiceKeyword
  rw [Procedure.run_bind]
  rcases hrun : (handleNativeBankKeyword p message).run s with ⟨e | reply, t⟩
  · rw [bind_of_error hrun, hbank.error hrun]
    exact Traded.refl hw hfit
  · rw [bind_of_ok hrun]
    cases reply with
    | some reply =>
      obtain ⟨keyword, -, -, hsays⟩ := hbank.ok hrun
      exact hsays.traded hw hfit
    | none =>
      obtain rfl : t = s := hbank.ok hrun
      exact (shop_traded hw hfit p message weights).traded hw hfit

end Ending

end Host

/-! ### Requests -/

/-- What a client asks a bank or a shop for. -/
inductive ServiceRequest where
  | say (playerId : ℕ) (message : String)
  | window (playerId : ℕ) (verb : ShopVerb) (serverId amount : ℕ)
deriving DecidableEq, Repr

def ServiceRequest.playerId : ServiceRequest → ℕ
  | say playerId _ => playerId
  | window playerId _ _ _ => playerId

section Requests

variable (catalog : DeclarativeShopCatalog) (weights : Option (BTreeMap ℕ ℕ))

/-- The state behind a request. -/
def HostState.serve (s : HostState) : ServiceRequest → HostState
  | .say playerId message => ((Host.handleServiceKeyword playerId message catalog weights).run s).2
  | .window playerId verb serverId amount =>
    ((Option.map ShopKeywordOutcome.reply <$> Host.handleNativeShopKeyword playerId
      (windowMessage verb serverId amount) catalog weights).run s).2

variable {catalog weights} {s : HostState}

/-- One request. -/
theorem serve_traded (hw : s.world.HoldersRegistered) (hfit : s.BalancesFit)
    (request : ServiceRequest) :
    Traded catalog.quotes request.playerId s (s.serve catalog weights request) := by
  cases request with
  | say playerId message => exact Host.service_traded hw hfit playerId message weights
  | window playerId verb serverId amount =>
    exact (Host.shop_traded hw hfit playerId _ weights).traded hw hfit

/-- **Any number of requests**, of any players: on every account trades, and nothing else. -/
theorem serveAll_trades (requests : List ServiceRequest) (hw : s.world.HoldersRegistered)
    (hfit : s.BalancesFit) (p : ℕ) :
    Trades catalog.quotes (s.account p)
      ((requests.foldl (HostState.serve catalog weights) s).account p) := by
  induction requests generalizing s with
  | nil => exact .refl
  | cons request requests ih =>
    have htraded : Traded catalog.quotes request.playerId s (s.serve catalog weights request) :=
      serve_traded hw hfit request
    have hrest := ih htraded.holders htraded.fit
    by_cases hp : p = request.playerId
    · subst hp
      exact htraded.own.trans hrest
    · rwa [htraded.others p hp] at hrest

end Requests

/-! ### Balanced catalogues -/

/-- The first entry for each item of a shop. -/
def DeclarativeNpcShop.quoted (shop : DeclarativeNpcShop) : List DeclarativeShopEntry :=
  shop.entries.filter fun entry => shop.entry entry.serverId = some entry

/-- What the shops pay for an item. -/
def DeclarativeShopCatalog.sellPrices (catalog : DeclarativeShopCatalog) (serverId : ℕ) : List ℕ :=
  catalog.shops.toList.filterMap fun shop =>
    (shop.2.entry serverId).bind DeclarativeShopEntry.sellPriceGold

/-- The most that the bank or a shop pays for an item. -/
def DeclarativeShopCatalog.bestPrice (catalog : DeclarativeShopCatalog) (serverId : ℕ) : ℕ :=
  (catalog.sellPrices serverId).foldr max ((nativeCoinValue serverId).getD 0)

/-- No shop asks less for an item than another one, or the bank, pays for it. -/
def DeclarativeShopCatalog.isBalanced (catalog : DeclarativeShopCatalog) : Bool :=
  catalog.bestPrice goldCoinServerId ≤ 1 &&
    catalog.shops.toList.all fun shop => shop.2.quoted.all fun entry =>
      entry.buyPriceGold.all fun price => catalog.bestPrice entry.serverId ≤ price

section Balanced

variable {catalog : DeclarativeShopCatalog}

theorem le_foldr_max {start n : ℕ} {ns : List ℕ} (h : n = start ∨ n ∈ ns) :
    n ≤ ns.foldr max start := by
  induction ns with
  | nil => exact (h.resolve_right List.not_mem_nil).le
  | cons m ns ih =>
    rw [List.foldr_cons]
    rcases h with h | h
    · exact (ih (.inl h)).trans (le_max_right _ _)
    · rcases List.mem_cons.mp h with rfl | h
      · exact le_max_left _ _
      · exact (ih (.inr h)).trans (le_max_right _ _)

theorem entry_serverId {shop : DeclarativeNpcShop} {entry : DeclarativeShopEntry} {serverId : ℕ}
    (h : shop.entry serverId = some entry) : entry.serverId = serverId := by
  simpa using List.find?_some h

/-- The best prices are fair in a balanced catalogue. -/
theorem fair_bestPrice (h : catalog.isBalanced) : Fair catalog.quotes catalog.bestPrice := by
  obtain ⟨hgold, hshops⟩ := Bool.and_eq_true_iff.mp h
  constructor
  · intro serverId bid hbid
    apply le_foldr_max
    rcases hbid with hcoin | ⟨name, shop, entry, hshop, hentry, hprice⟩
    · rw [hcoin]
      exact .inl rfl
    · refine .inr (List.mem_filterMap.mpr ⟨(name, shop),
        Std.ExtTreeMap.mem_toList_iff_getElem?_eq_some.mpr hshop, ?_⟩)
      show (shop.entry serverId).bind _ = _
      rw [hentry, Option.bind_some, hprice]
  · intro serverId ask hask
    rcases hask with ⟨rfl, rfl⟩ | ⟨name, shop, entry, hshop, hentry, hprice⟩
    · simpa using hgold
    · have hid := entry_serverId hentry
      have hall := List.all_eq_true.mp hshops (name, shop)
        (Std.ExtTreeMap.mem_toList_iff_getElem?_eq_some.mpr hshop)
      have hquoted : entry ∈ shop.quoted := by
        refine List.mem_filter.mpr ⟨List.mem_of_find?_eq_some hentry, ?_⟩
        rw [hid, hentry]
        simp
      have hone := List.all_eq_true.mp hall entry hquoted
      rw [hprice, hid] at hone
      simpa using hone

/-- **Nobody gets richer** by what they say to the bank and the shops of a balanced catalogue. -/
theorem trading_never_enriches {s : HostState} (hbalanced : catalog.isBalanced)
    (hw : s.world.HoldersRegistered) (hfit : s.BalancesFit) (weights : Option (BTreeMap ℕ ℕ))
    (requests : List ServiceRequest) (p : ℕ) :
    ((requests.foldl (HostState.serve catalog weights) s).account p).wealth catalog.bestPrice ≤
      (s.account p).wealth catalog.bestPrice :=
  (serveAll_trades requests hw hfit p).wealth_le (fair_bestPrice hbalanced)

/-- **What a word to the bank does**: what its reply reports, and nothing on any other way out. -/
theorem bank_word_exact {s t : HostState} {p : ℕ} {message : String}
    {result : Except Refusal (Option String)} (hw : s.world.HoldersRegistered)
    (h : (Host.handleNativeBankKeyword p message).run s = (result, t)) :
    match result with
    | .ok reply => Host.BankAnswers p message s reply t
    | .error _ => t = s := by
  have hends : Host.Ends (Host.BankAnswers p message s)
      (Host.handleNativeBankKeyword p message).run s := Host.bank_ends hw p message
  cases result with
  | ok reply => exact hends.ok h
  | error e => exact hends.error h

end Balanced

/-! ### A market stall -/

section Stall

/-- A trader who sells torches for two gold pieces and takes them back for one. -/
def torchShop : DeclarativeShopCatalog :=
  ⟨(∅ : BTreeMap String DeclarativeNpcShop).insert "Rashid" ⟨"Rashid", [⟨2050, some 2, some 1⟩]⟩⟩

/-- A player with coins in a bag stands next to the trader. -/
def marketStall : HostState where
  world := { LivingWorld.empty with
    players := (∅ : BTreeMap ℕ Player).insert 1 ⟨1, 1, "Knight", ⟨100, 100, 7⟩, 8, 4200, 0⟩
    playerEquipments := (∅ : BTreeMap ℕ PlayerEquipment).insert 1 .empty
    playerContainers := (∅ : BTreeMap ℕ PlayerContainers).insert 1 (coinWindows 98)
    playerVitals := (∅ : BTreeMap ℕ PlayerVitals).insert 1 {}
    staticCreatures := (∅ : BTreeMap ℕ StaticCreatureRuntime).insert 7
      (Living.installedRuntime ⟨[], ∅, ∅, ∅, {7}, ∅⟩ 0 ⟨7, "Rashid", ⟨101, 100, 7⟩, 100, 2⟩) }
  map := .new templeMap
  database := { InventorySave.onePlayerDatabase with
    bankBalances := (∅ : BTreeMap ℕ ℕ).insert 1 500 }

theorem marketStall_holders : marketStall.world.HoldersRegistered := by
  constructor
  · intro p hp
    by_cases h : p = 1
    · subst h
      rfl
    · simp [marketStall, Ne.symm h] at hp
  · intro p hp
    by_cases h : p = 1
    · subst h
      rfl
    · simp [marketStall, Ne.symm h] at hp

theorem marketStall_fits : marketStall.BalancesFit := by
  intro p balance h
  simp only [marketStall, Std.ExtTreeMap.getElem?_insert] at h
  split at h
  · cases h
    decide
  · simp at h

/-- The coins go to the bank and from there to the trader. -/
theorem trading_never_enriches_stall :
    (([.say 1 "deposit all", .window 1 .buy 2050 3, .say 1 "sell 2050 1"].foldl
      (HostState.serve torchShop none) marketStall).account 1).wealth torchShop.bestPrice ≤
      (marketStall.account 1).wealth torchShop.bestPrice :=
  trading_never_enriches rfl marketStall_holders marketStall_fits none _ 1

theorem marketStall_buys :
    ((Host.handleNativeShopKeyword 1 "buy 2050 1" torchShop none).run marketStall).1.toOption =
      some (some ⟨"You bought 1 for 2 gold.", some "Rashid"⟩) := by
  decide +kernel

theorem eq_of_toOption {ε σ α : Type} {out : Except ε α × σ} {a : α}
    (h : out.1.toOption = some a) : out = (.ok a, out.2) := by
  rcases out with ⟨e | b, t⟩
  · cases h
  · cases h
    rfl

theorem marketStall_pays :
    ((Host.handleNativeBankKeyword 1 "withdraw 2").run marketStall).1.toOption =
      some (some "You withdrew 2 gold.") := by
  decide +kernel

/-- Some gold is withdrawn. -/
theorem bank_word_gold : Host.BankAnswers 1 "withdraw 2" marketStall
    (some "You withdrew 2 gold.")
    ((Host.handleNativeBankKeyword 1 "withdraw 2").run marketStall).2 :=
  bank_word_exact marketStall_holders (eq_of_toOption marketStall_pays)

end Stall

end ForgottenEngine
