import ForgottenEngine.Trade
import ForgottenEngine.Library.Run

/-!
# What the trade operations do to the table of open trades

`TradeOperation` lists the six methods with their arguments.  `TableChange` says, once for each
method, under which conditions it is accepted and which table it leaves; every result about
sessions below is a case analysis on it.

* `perform_ok` — an accepted operation is a `TableChange`;
* `perform_error` — a refused operation leaves the table as it was;
* `keeps_trades_*` — the passes of an execution never look at the table.
-/

namespace ForgottenEngine

open Fallible

namespace WorldState

/-! ### Lookup of a session -/

theorem playerTrade_eq_some {w : WorldState} {p : ℕ} {s : PlayerTradeSession}
    (h : w.playerTrade p = some s) :
    w.activeTrades.get? s.initiator = some s ∧ s.involves p := by
  unfold playerTrade at h
  split at h
  · rename_i session hget
    cases h
    have hp : s.initiator = p := KeyedMap.key_of_get? hget
    exact ⟨by rw [hp]; exact hget, .inl hp⟩
  · obtain ⟨hcp, hget⟩ := KeyedMap.find?_eq_some h
    exact ⟨hget, .inr (by simpa using hcp)⟩

/-- What `open_player_trade` checks before it stores a session. -/
structure Admits (w : WorldState) (initiator counterparty : ℕ) : Prop where
  distinct : initiator ≠ counterparty
  registered : ∀ p, p = initiator ∨ p = counterparty → ∃ x, w.players[p]? = some x
  alive : ∀ p, p = initiator ∨ p = counterparty →
    (w.playerRespawnStates[p]?).any (·.dead) = false
  noSession : ∀ p, p = initiator ∨ p = counterparty → w.activeTrades.get? p = none

end WorldState

namespace World

variable {w w' : WorldState}

/-- Writing to a session goes through the same lookup as reading it. -/
theorem activeTradeEntry_eq (p : ℕ) (w : WorldState) :
    activeTradeEntry p w = ofOption (w.playerTrade p) (.noActiveTrade p) w := by
  simp only [activeTradeEntry, WorldState.playerTrade, bind_of_ok (read_apply _ w)]
  cases hget : w.activeTrades.get? p with
  | some s => rfl
  | none =>
    cases hfind : w.activeTrades.find? (·.counterparty == p) with
    | none => rfl
    | some s =>
      obtain ⟨-, hkey⟩ := KeyedMap.find?_eq_some hfind
      simp [Fallible.bind_apply, hkey]

theorem readOnly_activeTradeEntry (p : ℕ) : ReadOnly (activeTradeEntry p) := fun w => by
  rw [activeTradeEntry_eq]; rfl

@[simp] theorem activeTradeEntry_eq_ok {p : ℕ} {s : PlayerTradeSession} :
    activeTradeEntry p w = (.ok s, w') ↔ w.playerTrade p = some s ∧ w' = w := by
  rw [activeTradeEntry_eq, ofOption_eq_ok]

@[simp] theorem storeTrade_apply (s : PlayerTradeSession) (w : WorldState) :
    storeTrade s w = (.ok (), w.putTrades (w.activeTrades.insert s)) := rfl

@[simp] theorem eraseTrade_apply (k : ℕ) (w : WorldState) :
    eraseTrade k w = (.ok (), w.putTrades (w.activeTrades.erase k)) := rfl

/-- A participant passes: registered, and not marked dead. -/
@[simp] theorem requireTrader_eq_ok {p : ℕ} {u : Unit} :
    requireTrader p w = (.ok u, w') ↔
      (∃ x, w.players[p]? = some x) ∧ (w.playerRespawnStates[p]?).any (·.dead) = false ∧ w' = w := by
  simp only [requireTrader, bind_eq_ok, requirePlayer_eq_ok, read_apply, Prod.mk.injEq,
    Except.ok.injEq]
  constructor
  · rintro ⟨x, _, ⟨hx, rfl⟩, _, _, ⟨rfl, rfl⟩, h⟩
    rw [guard_eq_ok] at h
    obtain ⟨halive, h⟩ := h
    cases h
    exact ⟨⟨x, hx⟩, by simpa using halive, rfl⟩
  · rintro ⟨⟨x, hx⟩, halive, rfl⟩
    exact ⟨x, _, ⟨hx, rfl⟩, _, _, ⟨rfl, rfl⟩, by simp [halive]⟩

theorem readOnly_requireTrader (p : ℕ) : ReadOnly (requireTrader p) := by
  refine .bind (.readOr _ _) fun _ => .bind (.read _) fun respawn => ?_
  split
  · exact .fail _
  · exact fun _ => rfl

/-- **When a trade opens**, and the table it leaves. -/
theorem openPlayerTrade_eq_ok {a b : ℕ} {s : PlayerTradeSession} :
    openPlayerTrade a b w = (.ok s, w') ↔
      ∃ h : a ≠ b, w.Admits a b ∧ s = ⟨a, b, [], [], false, false, w.tick, h⟩ ∧
        w' = w.putTrades (w.activeTrades.insert s) := by
  unfold openPlayerTrade
  split
  · rename_i hab
    simp [hab]
  · rename_i hab
    have hget (t : TradeTable) (x : PlayerTradeSession) (hx : x.initiator = a) :
        (t.insert x).get? a = some x := by simp [KeyedMap.get?_insert, hx]
    simp only [bind_eq_ok, requireTrader_eq_ok, read_apply, guard_eq_ok, storeTrade_apply,
      readOr_eq_ok, Prod.mk.injEq, Except.ok.injEq]
    constructor
    · rintro ⟨_, _, ⟨ha, ha', rfl⟩, _, _, ⟨hb, hb', rfl⟩, _, _, ⟨rfl, rfl⟩, hfree, _, _,
        ⟨rfl, rfl⟩, _, _, ⟨-, rfl⟩, hs, rfl⟩
      simp only [not_or, Bool.not_eq_true, Option.isSome_eq_false_iff, Option.isNone_iff_eq_none]
        at hfree
      rw [WorldState.putTrades_trades, hget _ _ rfl] at hs
      cases hs
      refine ⟨hab, ⟨hab, ?_, ?_, ?_⟩, rfl, rfl⟩ <;> rintro p (rfl | rfl)
      exacts [ha, hb, ha', hb', hfree.1, hfree.2]
    · rintro ⟨-, hadm, rfl, rfl⟩
      refine ⟨(), w, ⟨hadm.registered a (.inl rfl), hadm.alive a (.inl rfl), rfl⟩,
        (), w, ⟨hadm.registered b (.inr rfl), hadm.alive b (.inr rfl), rfl⟩,
        _, _, ⟨rfl, rfl⟩, ?_, _, _, ⟨rfl, rfl⟩, (), _, ⟨trivial, rfl⟩, hget _ _ rfl, rfl⟩
      simp [hadm.noSession a (.inl rfl), hadm.noSession b (.inr rfl)]

/-! ### The passes of an execution keep the table -/

/-- The part of the world the three passes may write is the container table. -/
theorem keeps_storeContainers {γ : Type} {f : WorldState → γ}
    (hf : ∀ w p cs, f (w.putContainers p cs) = f w) (p : ℕ) (cs : PlayerContainers) :
    Keeps f (storeContainers p cs) := .write fun w => hf w p cs

section Frame

variable {γ : Type} {f : WorldState → γ} (hf : ∀ w p cs, f (w.putContainers p cs) = f w)
include hf

theorem keeps_restoreRemoved (owner : ℕ) (removed : List (TradeItemReference × ItemInstance)) :
    Keeps f (restoreRemoved owner removed) := by
  induction removed with
  | nil => exact .pure ()
  | cons x rest ih =>
    refine .bind (ReadOnly.read _).keeps fun containers => ?_
    cases containers with
    | none => exact .bind (.pure ()) fun _ => ih
    | some cs => exact .bind (keeps_storeContainers hf _ _) fun _ => ih

theorem keeps_removeOffered (owner : ℕ) (resolved : List (TradeItemReference × ItemInstance)) :
    ∀ removed, Keeps f (removeOffered owner removed resolved) := by
  induction resolved with
  | nil => exact fun removed => .pure removed
  | cons x resolved ih =>
    intro removed
    refine .bind (ReadOnly.readOr _ _).keeps fun containers => ?_
    refine .bind (ReadOnly.ofOption _ _).keeps fun container => ?_
    split
    · exact .bind (keeps_storeContainers hf _ _) fun _ => ih _
    · exact .bind (keeps_restoreRemoved hf _ _) fun _ => .fail _

theorem keeps_deliver (owner : ℕ) (items : List ItemInstance) : Keeps f (deliver owner items) := by
  induction items with
  | nil => exact .pure ()
  | cons x items ih =>
    refine .bind (ReadOnly.read _).keeps fun containers => ?_
    cases containers with
    | none => exact .fail _
    | some cs =>
      refine .bind (keeps_storeContainers hf _ _) fun _ => ?_
      split
      · exact ih
      · exact .fail _

omit hf in
theorem readOnly_resolveOffered (owner : ℕ) (refs : List TradeItemReference) :
    ReadOnly (resolveOffered owner refs) := by
  induction refs with
  | nil => exact fun _ => rfl
  | cons r refs ih =>
    exact .bind (.readOr _ _) fun item => .bind ih fun _ => fun _ => rfl

theorem keeps_exchangeOffers (session : PlayerTradeSession) : Keeps f (exchangeOffers session) := by
  refine .bind (readOnly_resolveOffered _ _).keeps fun _ => ?_
  refine .bind (readOnly_resolveOffered _ _).keeps fun _ => ?_
  refine .bind (keeps_removeOffered hf _ _ _) fun _ => ?_
  refine .bind (.onError (keeps_removeOffered hf _ _ _) (keeps_restoreRemoved hf _ _)) fun _ => ?_
  refine .bind (keeps_deliver hf _ _) fun _ => ?_
  exact .bind (keeps_deliver hf _ _) fun _ => .pure _

end Frame

/-! ### What an execution amounts to -/

/-- The end of an execution: the trade of both participants closed, one revision. -/
def closeTrade (session : PlayerTradeSession) (w : WorldState) : WorldState :=
  (w.putTrades ((w.activeTrades.erase session.initiator).erase session.counterparty)).markChanged

theorem executePlayerTrade_refused {p : ℕ}
    (h : ∀ s, w.playerTrade p = some s → s.bothAccepted = false) :
    executePlayerTrade p w = (.error (.noActiveTrade p), w) := by
  unfold executePlayerTrade
  cases hs : w.playerTrade p with
  | none => rw [bind_of_error (readOr_of_none (f := fun w : WorldState => w.playerTrade p) _ hs)]
  | some s =>
    rw [bind_of_ok (readOr_of_some (f := fun w : WorldState => w.playerTrade p) _ hs)]
    simp [h s hs]

/-- An accepted trade exchanges the offers and closes, or stops where the exchange stops. -/
theorem executePlayerTrade_apply {p : ℕ} {s : PlayerTradeSession} (hs : w.playerTrade p = some s)
    (hacc : s.bothAccepted = true) :
    executePlayerTrade p w = match exchangeOffers s w with
      | (.ok (gi, gc), w₁) => (.ok ⟨s.initiator, s.counterparty, gi, gc⟩, closeTrade s w₁)
      | (.error e, w₁) => (.error e, w₁) := by
  unfold executePlayerTrade
  rw [bind_of_ok (readOr_of_some (f := fun w : WorldState => w.playerTrade p) _ hs)]
  simp only [hacc, not_true, if_false]
  rcases hex : exchangeOffers s w with ⟨e | ⟨gi, gc⟩, w₁⟩
  · rw [bind_of_error hex]
  · rw [bind_of_ok hex]; rfl

theorem executePlayerTrade_eq_ok {p : ℕ} {x : PlayerTradeExecution} :
    executePlayerTrade p w = (.ok x, w') ↔ ∃ s gi gc w₁, w.playerTrade p = some s ∧
      s.bothAccepted = true ∧ exchangeOffers s w = (.ok (gi, gc), w₁) ∧
      x = ⟨s.initiator, s.counterparty, gi, gc⟩ ∧ w' = closeTrade s w₁ := by
  constructor
  · intro h
    simp [executePlayerTrade] at h
    obtain ⟨s, hs, hacc, gi, gc, w₁, hex, rfl, rfl⟩ := h
    exact ⟨s, gi, gc, w₁, hs, hacc, hex, rfl, rfl⟩
  · rintro ⟨s, gi, gc, w₁, hs, hacc, hex, rfl, rfl⟩
    rw [executePlayerTrade_apply hs hacc, hex]

end World

/-! ### The operations -/

inductive TradeOperation where
  | openTrade (initiator counterparty : ℕ)
  | stage (playerId : ℕ) (reference : TradeItemReference)
  | unstage (playerId : ℕ) (reference : TradeItemReference)
  | accept (playerId : ℕ)
  | cancel (playerId : ℕ)
  | execute (playerId : ℕ)
deriving DecidableEq

namespace TradeOperation

open World

/-- Run one operation. -/
def perform : TradeOperation → WorldM Unit
  | openTrade initiator counterparty => do let _ ← openPlayerTrade initiator counterparty
  | stage playerId reference => do let _ ← stageTradeItem playerId reference
  | unstage playerId reference => unstageTradeItem playerId reference
  | accept playerId => do let _ ← acceptPlayerTrade playerId
  | cancel playerId => do let _ ← cancelPlayerTrade playerId
  | execute playerId => do let _ ← executePlayerTrade playerId

/-- The table an accepted operation leaves. -/
inductive TableChange (w : WorldState) : TradeOperation → TradeTable → Prop
  | opened {a b} (h : a ≠ b) : w.Admits a b →
      TableChange w (.openTrade a b) (w.activeTrades.insert ⟨a, b, [], [], false, false, w.tick, h⟩)
  | staged {p r s} : w.playerTrade p = some s → (s.sideItems p).length < maxTradeItemsPerSide →
      r ∉ s.sideItems p →
      TableChange w (.stage p r) (w.activeTrades.insert (s.changeOffer p (s.sideItems p ++ [r])))
  | unstaged {p r s i} : w.playerTrade p = some s → (s.sideItems p).findIdx? (· == r) = some i →
      TableChange w (.unstage p r)
        (w.activeTrades.insert (s.changeOffer p ((s.sideItems p).eraseIdx i)))
  | accepted {p s} : w.playerTrade p = some s →
      TableChange w (.accept p) (w.activeTrades.insert (s.acceptBy p))
  | cancelled {p s} : w.playerTrade p = some s →
      TableChange w (.cancel p) (w.activeTrades.erase s.initiator)
  | nothingCancelled {p} : w.playerTrade p = none → TableChange w (.cancel p) w.activeTrades
  | executed {p s} : w.playerTrade p = some s → s.bothAccepted = true →
      TableChange w (.execute p) ((w.activeTrades.erase s.initiator).erase s.counterparty)

variable {w w' : WorldState}

theorem perform_ok {op : TradeOperation} {u : Unit} (h : op.perform w = (.ok u, w')) :
    TableChange w op w'.activeTrades := by
  cases op with
  | openTrade a b =>
    simp only [perform, bind_eq_ok, openPlayerTrade_eq_ok] at h
    obtain ⟨_, _, ⟨hab, hadm, rfl, rfl⟩, h⟩ := h
    cases h
    exact .opened hab hadm
  | stage p r =>
    simp [perform, stageTradeItem] at h
    obtain ⟨s, hs, hlen, hdup, rfl⟩ := h
    exact .staged hs hlen hdup
  | unstage p r =>
    simp [perform, unstageTradeItem] at h
    obtain ⟨s, hs, h⟩ := h
    cases hfind : (s.sideItems p).findIdx? (· == r) with
    | none => simp [hfind] at h
    | some i =>
      simp [hfind] at h
      subst h
      exact .unstaged hs hfind
  | accept p =>
    simp only [perform, acceptPlayerTrade, bind_eq_ok, activeTradeEntry_eq_ok,
      storeTrade_apply] at h
    obtain ⟨_, _, ⟨s, _, ⟨hs, rfl⟩, _, _, hw, h⟩, h'⟩ := h
    cases hw; cases h; cases h'
    exact .accepted hs
  | cancel p =>
    simp only [perform, bind_eq_ok] at h
    obtain ⟨_, _, h, hend⟩ := h
    cases hend
    unfold cancelPlayerTrade at h
    simp only [bind_of_ok (read_apply _ w)] at h
    cases hget : w.activeTrades.get? p with
    | some s =>
      have hkey : s.initiator = p := KeyedMap.key_of_get? hget
      have hs : w.playerTrade p = some s := by simp [WorldState.playerTrade, hget]
      simp [hget, hkey] at h
      obtain ⟨-, rfl⟩ := h
      have ht : TableChange w (cancel p) (w.activeTrades.erase s.initiator) := .cancelled hs
      rwa [hkey] at ht
    | none =>
      cases hfind : w.activeTrades.find? (·.counterparty == p) with
      | none =>
        simp [hget, hfind] at h
        obtain ⟨-, rfl⟩ := h
        exact .nothingCancelled (by simp [WorldState.playerTrade, hget, hfind])
      | some s =>
        simp [hget, hfind] at h
        obtain ⟨-, rfl⟩ := h
        exact .cancelled (by simp [WorldState.playerTrade, hget, hfind])
  | execute p =>
    simp only [perform, bind_eq_ok, executePlayerTrade_eq_ok] at h
    obtain ⟨_, _, ⟨s, gi, gc, w₁, hs, hacc, hex, -, rfl⟩, h⟩ := h
    cases h
    have hkeep := (keeps_exchangeOffers (f := WorldState.activeTrades)
      (fun _ _ _ => rfl) s).eq hex
    have ht : TableChange w (execute p) ((w.activeTrades.erase s.initiator).erase s.counterparty) :=
      .executed hs hacc
    simpa [closeTrade, hkeep] using ht

/-! ### Refusals -/

theorem atomic_openTrade (a b : ℕ) : Atomic (openTrade a b).perform := by
  refine .bind_succeeds (m := openPlayerTrade a b) ?_ fun _ => .pure ()
  unfold openPlayerTrade
  split
  · exact (ReadOnly.fail _).atomic
  · refine .bind (readOnly_requireTrader a) fun _ => .bind (readOnly_requireTrader b) fun _ =>
      .bind (.read _) fun trades => ?_
    split
    · exact (ReadOnly.fail _).atomic
    · refine .bind (.read _) fun tick w e w' h => ?_
      simp [bind_eq_error, readOr, KeyedMap.get?_insert] at h

theorem atomic_stage (p : ℕ) (r : TradeItemReference) : Atomic (stage p r).perform := by
  refine .bind_succeeds (m := stageTradeItem p r) ?_ fun _ => .pure ()
  refine .bind (readOnly_activeTradeEntry p) fun s => ?_
  simp only
  split
  · exact (ReadOnly.fail _).atomic
  · split
    · exact (ReadOnly.fail _).atomic
    · exact (Succeeds.bind (.write _) fun _ => .pure _).atomic

theorem atomic_unstage (p : ℕ) (r : TradeItemReference) : Atomic (unstage p r).perform := by
  refine .bind (readOnly_activeTradeEntry p) fun s => ?_
  simp only
  split
  · exact (ReadOnly.fail _).atomic
  · exact (Succeeds.write _).atomic

theorem atomic_accept (p : ℕ) : Atomic (accept p).perform := by
  refine .bind_succeeds (m := acceptPlayerTrade p) ?_ fun _ => .pure ()
  exact .bind (readOnly_activeTradeEntry p) fun s =>
    (Succeeds.bind (.write _) fun _ => .pure _).atomic

theorem atomic_cancel (p : ℕ) : Atomic (cancel p).perform := by
  refine .bind_succeeds (m := cancelPlayerTrade p) ?_ fun _ => .pure ()
  refine .bind (.read _) fun trades => ?_
  split
  · exact (Succeeds.bind (.write _) fun _ => .pure _).atomic
  · split
    · exact (Succeeds.pure _).atomic
    · exact (Succeeds.bind (.write _) fun _ => .pure _).atomic

/-- A refused execution has not reached its last three steps. -/
theorem execute_error_trades {p : ℕ} {e : CoreError} (h : (execute p).perform w = (.error e, w')) :
    w'.activeTrades = w.activeTrades := by
  have h' : executePlayerTrade p w = (.error e, w') := by
    rcases bind_eq_error.mp h with h | ⟨_, _, -, h⟩
    · exact h
    · cases h
  by_cases hacc : ∃ s, w.playerTrade p = some s ∧ s.bothAccepted = true
  · obtain ⟨s, hs, hacc⟩ := hacc
    rw [executePlayerTrade_apply hs hacc] at h'
    rcases hex : exchangeOffers s w with ⟨e | ⟨gi, gc⟩, w₁⟩ <;> rw [hex] at h' <;> cases h'
    exact (keeps_exchangeOffers (f := WorldState.activeTrades) (fun _ _ _ => rfl) s).eq hex
  · rw [executePlayerTrade_refused fun s hs => by
      simpa using fun hs' => hacc ⟨s, hs, hs'⟩] at h'
    cases h'
    rfl

/-- **A refused operation leaves the table as it was.** -/
theorem perform_error {op : TradeOperation} {e : CoreError} (h : op.perform w = (.error e, w')) :
    w'.activeTrades = w.activeTrades := by
  cases op with
  | openTrade a b => rw [atomic_openTrade a b _ _ _ h]
  | stage p r => rw [atomic_stage p r _ _ _ h]
  | unstage p r => rw [atomic_unstage p r _ _ _ h]
  | accept p => rw [atomic_accept p _ _ _ h]
  | cancel p => rw [atomic_cancel p _ _ _ h]
  | execute p => exact execute_error_trades h

end TradeOperation

end ForgottenEngine
