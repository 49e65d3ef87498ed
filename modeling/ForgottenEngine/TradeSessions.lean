import ForgottenEngine.TradeEffects

/-!
# Runs of trade operations: who trades with whom, and who agreed to what

Two properties of every run of the six operations, by any players in any order.

* **One session each.**  Sessions are stored under the initiator, and `openPlayerTrade` looks both
  players up as initiators only.  A player who is the counterparty of an open trade can therefore
  enter a second one.  `oneSessionEach_of_opensFree`: as long as no trade is opened with such a
  player, everybody takes part in at most one session.
* **Fresh consent.**  A change of an offer is meant to reset both acceptances.  The counterparty's
  own changes leave the counterparty's flag set.  `freshConsent_of_noStaleChange`: as long as no
  counterparty changes an offer it has accepted, both flags of a session stand for acceptances
  younger than its last change.

And one of every single cancellation: it is meant to close the caller's session and to name the
other side.  `cancelsOwn_iff`: it does so for exactly the players who are no counterparty.
-/

namespace ForgottenEngine

open World WorldState

namespace TradeOperation

/-- One step of a run; a refused operation is a step as well. -/
def step (w : WorldState) (op : TradeOperation) : WorldState := (op.perform w).2

/-- What a step does to the table. -/
theorem step_trades (w : WorldState) (op : TradeOperation) :
    (step w op).activeTrades = w.activeTrades ∨ TableChange w op (step w op).activeTrades := by
  unfold step
  rcases h : op.perform w with ⟨e | u, w'⟩
  · exact .inl (perform_error h)
  · exact .inr (perform_ok h)

end TradeOperation

open TradeOperation

namespace WorldState

def WithoutTrades (w : WorldState) : Prop := ∀ k, w.activeTrades.get? k = none

/-- Every player takes part in at most one open session. -/
def OneSessionEach (w : WorldState) : Prop :=
  ∀ p k l s t, w.activeTrades.get? k = some s → w.activeTrades.get? l = some t →
    s.involves p → t.involves p → s = t

/-- A trade that opens does so with players who are not the counterparty of an open session. -/
def OpensFree (w : WorldState) (op : TradeOperation) : Prop :=
  ∀ a b, op = .openTrade a b → w.Admits a b →
    ∀ k s, w.activeTrades.get? k = some s → s.counterparty ≠ a ∧ s.counterparty ≠ b

end WorldState

/-! ### One session each -/

section OneSession

variable {w : WorldState} {op : TradeOperation}

/-- A session that takes the place of the one under its key, with the same two players. -/
theorem oneSessionEach_insert {w' : WorldState} {s s' : PlayerTradeSession}
    (h : w.OneSessionEach) (hs : w.activeTrades.get? s.initiator = some s)
    (hi : s'.initiator = s.initiator) (hc : s'.counterparty = s.counterparty)
    (ht : w'.activeTrades = w.activeTrades.insert s') : w'.OneSessionEach := by
  have hold : ∀ k t, w'.activeTrades.get? k = some t → ∃ u, w.activeTrades.get? k = some u ∧
      (∀ p, t.involves p ↔ u.involves p) ∧ (t = s' ∧ u = s ∨ t = u ∧ k ≠ s.initiator) := by
    intro k t hk
    rw [ht, KeyedMap.get?_insert, hi] at hk
    split at hk
    · rename_i hkey
      cases hk
      refine ⟨s, hkey ▸ hs, fun p => ?_, .inl ⟨rfl, rfl⟩⟩
      rw [PlayerTradeSession.involves, PlayerTradeSession.involves, hi, hc]
    · rename_i hkey
      exact ⟨t, hk, fun p => Iff.rfl, .inr ⟨rfl, Ne.symm hkey⟩⟩
  intro p k l t u hk hl hpt hpu
  obtain ⟨t₀, hk₀, hinv, hcase⟩ := hold k t hk
  obtain ⟨u₀, hl₀, hinv', hcase'⟩ := hold l u hl
  have heq : t₀ = u₀ := h p k l t₀ u₀ hk₀ hl₀ ((hinv p).mp hpt) ((hinv' p).mp hpu)
  have hkl : k = l := by
    rw [← KeyedMap.key_of_get? hk₀, ← KeyedMap.key_of_get? hl₀, heq]
  subst hkl
  rw [hk] at hl
  exact Option.some.inj hl

theorem oneSessionEach_erase {w' : WorldState} (h : w.OneSessionEach)
    (hsub : ∀ k s, w'.activeTrades.get? k = some s → w.activeTrades.get? k = some s) :
    w'.OneSessionEach := fun p k l s t hk hl => h p k l s t (hsub k s hk) (hsub l t hl)

/-- **What an opening keeps.** -/
theorem oneSessionEach_open {w' : WorldState} {s : PlayerTradeSession} (h : w.OneSessionEach)
    (hfree : ∀ k t, w.activeTrades.get? k = some t →
      ¬t.involves s.initiator ∧ ¬t.involves s.counterparty)
    (ht : w'.activeTrades = w.activeTrades.insert s) : w'.OneSessionEach := by
  have hnew : ∀ k t p, w.activeTrades.get? k = some t → t.involves p → s.involves p → False := by
    rintro k t p hk hp (rfl | rfl)
    exacts [(hfree k t hk).1 hp, (hfree k t hk).2 hp]
  intro p k l t u hk hl hpt hpu
  rw [ht, KeyedMap.get?_insert] at hk hl
  split at hk <;> split at hl
  · rw [← Option.some.inj hk, ← Option.some.inj hl]
  · cases hk; exact (hnew l u p hl hpu hpt).elim
  · cases hl; exact (hnew k t p hk hpt hpu).elim
  · exact h p k l t u hk hl hpt hpu

theorem get?_erase_some {t : TradeTable} {k j : ℕ} {s : PlayerTradeSession}
    (h : (t.erase j).get? k = some s) : t.get? k = some s := by
  rw [KeyedMap.get?_erase] at h
  split at h
  · cases h
  · exact h

/-- **Step lemma.**  An operation that opens no trade with a counterparty keeps the sessions
apart. -/
theorem oneSessionEach_step (h : w.OneSessionEach) (hop : w.OpensFree op) :
    (step w op).OneSessionEach := by
  rcases step_trades w op with hsame | hchange
  · intro p k l s t
    rw [hsame]
    exact h p k l s t
  · generalize htable : (step w op).activeTrades = table at hchange
    cases hchange with
    | opened hab hadm =>
      refine oneSessionEach_open h (fun k t hk => ?_) htable
      have hcp := hop _ _ rfl hadm k t hk
      have hkey : t.initiator = k := KeyedMap.key_of_get? hk
      have hinit : ∀ p, w.activeTrades.get? p = none → t.initiator ≠ p := by
        rintro p hp rfl
        rw [hkey, hk] at hp
        cases hp
      exact ⟨not_or.mpr ⟨hinit _ (hadm.noSession _ (.inl rfl)), hcp.1⟩,
        not_or.mpr ⟨hinit _ (hadm.noSession _ (.inr rfl)), hcp.2⟩⟩
    | staged hs => exact oneSessionEach_insert h (playerTrade_eq_some hs).1 (by simp) (by simp) htable
    | unstaged hs =>
      exact oneSessionEach_insert h (playerTrade_eq_some hs).1 (by simp) (by simp) htable
    | accepted hs =>
      exact oneSessionEach_insert h (playerTrade_eq_some hs).1 (by simp) (by simp) htable
    | cancelled =>
      exact oneSessionEach_erase h fun k s hk => get?_erase_some (htable ▸ hk)
    | nothingCancelled => exact oneSessionEach_erase h fun k s hk => htable ▸ hk
    | executed =>
      exact oneSessionEach_erase h fun k s hk => get?_erase_some (get?_erase_some (htable ▸ hk))

end OneSession

/-- Three registered players without trades. -/
def threePlayers : WorldState :=
  { WorldState.empty with
    players := Std.ExtTreeMap.ofList
      ([1, 2, 3].map fun id => (id, (⟨id, id, "", ⟨100, 100, 7⟩, 8, 0, 0⟩ : Player))) }

/-- A trade offered to player 2, who then offers one to player 3. -/
def chainedTrades : List TradeOperation := [.openTrade 1 2, .openTrade 2 3]

theorem threePlayers_withoutTrades : threePlayers.WithoutTrades := fun _ => KeyedMap.get?_empty _

theorem chainedTrades_first : (chainedTrades.foldl step threePlayers).activeTrades.get? 1 =
    some ⟨1, 2, [], [], false, false, 0, by decide⟩ := by decide

theorem chainedTrades_second : (chainedTrades.foldl step threePlayers).activeTrades.get? 2 =
    some ⟨2, 3, [], [], false, false, 0, by decide⟩ := by decide

/-- The other side of a session. -/
def PlayerTradeSession.partnerOf (self : PlayerTradeSession) (playerId : ℕ) : ℕ :=
  if self.initiator = playerId then self.counterparty else self.initiator

/-- A cancellation by the player closes the session the player takes part in, no other, and returns
the other side; it does nothing for a player without a session. -/
structure WorldState.CancelsOwn (w : WorldState) (p : ℕ) : Prop where
  closes (k : ℕ) (s : PlayerTradeSession) : w.activeTrades.get? k = some s → s.involves p →
    cancelPlayerTrade p w = (.ok (some (s.partnerOf p)), w.putTrades (w.activeTrades.erase k))
  nothing : (∀ k s, w.activeTrades.get? k = some s → ¬s.involves p) →
    cancelPlayerTrade p w = (.ok none, w)

section Cancelling

open Fallible

variable {w : WorldState} {p : ℕ} {s : PlayerTradeSession}

/-- An initiator closes the session stored under its id, and learns the counterparty. -/
theorem cancel_own (h : w.activeTrades.get? p = some s) :
    cancelPlayerTrade p w =
      (.ok (some s.counterparty), w.putTrades (w.activeTrades.erase p)) := by
  have hinit : s.initiator = p := KeyedMap.key_of_get? h
  unfold cancelPlayerTrade
  rw [bind_of_ok (read_apply _ w)]
  simp only [h, hinit, if_true]
  rfl

/-- A mere counterparty closes the session that is found, and learns its own id. -/
theorem cancel_counterparty (h : w.activeTrades.get? p = none)
    (hs : w.activeTrades.find? (·.counterparty == p) = some s) :
    cancelPlayerTrade p w =
      (.ok (some p), w.putTrades (w.activeTrades.erase s.initiator)) := by
  unfold cancelPlayerTrade
  rw [bind_of_ok (read_apply _ w)]
  simp only [h, hs]
  rfl

theorem cancel_nothing (h : w.activeTrades.get? p = none)
    (hs : w.activeTrades.find? (·.counterparty == p) = none) :
    cancelPlayerTrade p w = (.ok none, w) := by
  unfold cancelPlayerTrade
  rw [bind_of_ok (read_apply _ w)]
  simp only [h, hs]
  rfl

/-- **Who can cancel.**  A player who is the counterparty of an open session is told its own id, or
closes another session; everybody else is served. -/
theorem cancelsOwn_iff (w : WorldState) (p : ℕ) :
    w.CancelsOwn p ↔ ∀ k s, w.activeTrades.get? k = some s → s.counterparty ≠ p := by
  constructor
  · intro h k s hs hcp
    have hkey : s.initiator = k := KeyedMap.key_of_get? hs
    have hne : s.initiator ≠ p := fun heq => s.distinct (heq.trans hcp.symm)
    have hrun := h.closes k s hs (.inr hcp)
    have hpartner : s.partnerOf p = s.initiator := if_neg hne
    rw [hpartner] at hrun
    cases hown : w.activeTrades.get? p with
    | some t =>
      -- The session stored under the player's own id goes, and `s` stays.
      rw [cancel_own hown] at hrun
      have hstays : (w.activeTrades.erase k).get? p = some t := by
        rw [KeyedMap.get?_erase, if_neg (by rw [← hkey]; exact hne), hown]
      have hgone : (w.activeTrades.erase p).get? p = none := by
        rw [KeyedMap.get?_erase, if_pos rfl]
      have htable : w.activeTrades.erase p = w.activeTrades.erase k :=
        congrArg (fun out => WorldState.activeTrades out.2) hrun
      rw [htable, hstays] at hgone
      cases hgone
    | none =>
      cases hfound : w.activeTrades.find? (·.counterparty == p) with
      | none =>
        rw [cancel_nothing hown hfound] at hrun
        cases hrun
      | some t =>
        rw [cancel_counterparty hown hfound] at hrun
        injection hrun with hresult
        injection hresult with hresult
        exact hne (Option.some.inj hresult).symm
  · intro h
    constructor
    · intro k s hs hinv
      have hkey : s.initiator = k := KeyedMap.key_of_get? hs
      have hinit : s.initiator = p := hinv.resolve_right (h k s hs)
      have hown : w.activeTrades.get? p = some s := by rw [← hinit, hkey]; exact hs
      have hpartner : s.partnerOf p = s.counterparty := if_pos hinit
      rw [cancel_own hown, hpartner, ← hkey, hinit]
    · intro hfree
      have hown : w.activeTrades.get? p = none := by
        cases hs : w.activeTrades.get? p with
        | none => rfl
        | some s => exact absurd (.inl (KeyedMap.key_of_get? hs)) (hfree p s hs)
      refine cancel_nothing hown (KeyedMap.find?_eq_none.mpr fun k s hs => ?_)
      exact beq_false_of_ne (h k s hs)

end Cancelling

/-- **The counterparty is told its own id**: player 2 cancels the trade player 1 has opened. -/
theorem cancelsOwn_fails_counterparty : ¬∀ (w₀ w : WorldState) (p : ℕ), w₀.WithoutTrades →
    Reaches step (fun _ _ => True) w₀ w → w.CancelsOwn p := by
  intro h
  have hopen : (step threePlayers (.openTrade 1 2)).activeTrades.get? 1 =
      some ⟨1, 2, [], [], false, false, 0, by decide⟩ := by decide
  have hcancel := (h threePlayers _ 2 threePlayers_withoutTrades
    (.next (.openTrade 1 2) .start trivial)).closes 1 _ hopen (.inr rfl)
  have htold : (cancelPlayerTrade 2 (step threePlayers (.openTrade 1 2))).1 = .ok (some 2) := by
    rfl
  rw [hcancel] at htold
  exact absurd htold (by decide)

/-! ### Fresh consent -/

/-- What happened to an open session. -/
inductive TradeEvent where
  | changed
  | accepted (playerId : ℕ)
deriving DecidableEq

/-- For each open session, under its initiator, its events since it was opened, the latest
first. -/
abbrev TradeLog := ℕ → List TradeEvent

/-- An operation of `p` that was accepted leaves `event` in the log of its session. -/
def TradeLog.push (log : TradeLog) (w : WorldState) (p : ℕ) (event : TradeEvent) : TradeLog :=
  match w.playerTrade p with
  | some s => Function.update log s.initiator (event :: log s.initiator)
  | none => log

/-- The log after an accepted operation. -/
def TradeLog.record (log : TradeLog) (w : WorldState) : TradeOperation → TradeLog
  | .openTrade initiator _ => Function.update log initiator []
  | .stage p _ => log.push w p .changed
  | .unstage p _ => log.push w p .changed
  | .accept p => log.push w p (.accepted p)
  | .cancel _ => log
  | .execute _ => log

/-- A step of the world together with its log; a refused operation is no event. -/
def loggedStep (h : WorldState × TradeLog) (op : TradeOperation) : WorldState × TradeLog :=
  match op.perform h.1 with
  | (.ok _, w') => (w', h.2.record h.1 op)
  | (.error _, w') => (w', h.2)

/-- The latest acceptance of `p` is younger than the latest change. -/
def acceptedSinceChange (p : ℕ) (events : List TradeEvent) : Prop :=
  .accepted p ∈ events.takeWhile (· ≠ .changed)

instance (p : ℕ) (events : List TradeEvent) : Decidable (acceptedSinceChange p events) :=
  inferInstanceAs (Decidable (_ ∈ _))

/-- Both flags of a session stand for acceptances younger than the last change. -/
def FreshConsent (h : WorldState × TradeLog) : Prop :=
  ∀ k s, h.1.activeTrades.get? k = some s → s.bothAccepted = true →
    acceptedSinceChange s.initiator (h.2 k) ∧ acceptedSinceChange s.counterparty (h.2 k)

/-- `op` is an operation of `p` that changes an offer of the session `s`. -/
inductive ChangesOffer (w : WorldState) : TradeOperation → ℕ → PlayerTradeSession → Prop
  | stage {p r s} : w.playerTrade p = some s → (s.sideItems p).length < maxTradeItemsPerSide →
      r ∉ s.sideItems p → ChangesOffer w (.stage p r) p s
  | unstage {p r s} : w.playerTrade p = some s → r ∈ s.sideItems p →
      ChangesOffer w (.unstage p r) p s

/-- No counterparty changes its offer while its own acceptance stands. -/
def NoStaleChange (h : WorldState × TradeLog) (op : TradeOperation) : Prop :=
  ∀ p s, ChangesOffer h.1 op p s → s.initiator ≠ p → s.counterpartyAccepted = false

/-- The invariant behind fresh consent: each flag for itself. -/
def FlagsFresh (h : WorldState × TradeLog) : Prop :=
  ∀ k s, h.1.activeTrades.get? k = some s →
    (s.initiatorAccepted = true → acceptedSinceChange s.initiator (h.2 k)) ∧
    (s.counterpartyAccepted = true → acceptedSinceChange s.counterparty (h.2 k))

theorem acceptedSinceChange_push (p q : ℕ) (events : List TradeEvent) :
    acceptedSinceChange p (.accepted q :: events) ↔ p = q ∨ acceptedSinceChange p events := by
  simp [acceptedSinceChange]

theorem TradeLog.push_eq {log : TradeLog} {w : WorldState} {p : ℕ} {s : PlayerTradeSession}
    (hs : w.playerTrade p = some s) (event : TradeEvent) (k : ℕ) :
    log.push w p event k = if k = s.initiator then event :: log s.initiator else log k := by
  simp [push, hs, Function.update_apply]

section FreshConsent

variable {w w' : WorldState} {log log' : TradeLog} {op : TradeOperation} {s : PlayerTradeSession}

/-- The session under `s.initiator` becomes `s'`; its log becomes `events`. -/
theorem flagsFresh_insert {s' : PlayerTradeSession} (h : FlagsFresh (w, log))
    (ht : w'.activeTrades = w.activeTrades.insert s')
    (hlog : ∀ k, k ≠ s'.initiator → log' k = log k)
    (hnew : (s'.initiatorAccepted = true → acceptedSinceChange s'.initiator (log' s'.initiator)) ∧
      (s'.counterpartyAccepted = true →
        acceptedSinceChange s'.counterparty (log' s'.initiator))) :
    FlagsFresh (w', log') := by
  intro k t hk
  simp only at hk ⊢
  rw [ht, KeyedMap.get?_insert] at hk
  split at hk
  · rename_i hkey
    cases hk
    subst hkey
    exact hnew
  · rename_i hkey
    rw [hlog k (Ne.symm hkey)]
    exact h k t hk

theorem flagsFresh_subset (h : FlagsFresh (w, log))
    (hsub : ∀ k t, w'.activeTrades.get? k = some t → w.activeTrades.get? k = some t) :
    FlagsFresh (w', log) := fun k t hk => h k t (hsub k t hk)

/-- A change of an offer leaves at most the flag of a counterparty who made it. -/
theorem changeOffer_flags (p : ℕ) (items : List TradeItemReference) :
    (s.changeOffer p items).initiatorAccepted = false ∧
      ((s.changeOffer p items).counterpartyAccepted = true →
        s.initiator ≠ p ∧ s.counterpartyAccepted = true) := by
  unfold PlayerTradeSession.changeOffer
  split <;> simp_all

theorem flagsFresh_changeOffer {p : ℕ} (items : List TradeItemReference) (h : FlagsFresh (w, log))
    (hs : w.playerTrade p = some s) (hstale : s.initiator ≠ p → s.counterpartyAccepted = false)
    (ht : w'.activeTrades = w.activeTrades.insert (s.changeOffer p items)) :
    FlagsFresh (w', log.push w p .changed) := by
  refine flagsFresh_insert h ht (fun k hk => ?_) ⟨fun hinit => ?_, fun hcp => ?_⟩
  · rw [TradeLog.push_eq hs, if_neg (by simpa using hk)]
  · rw [(changeOffer_flags p items).1] at hinit
    cases hinit
  · obtain ⟨hne, hacc⟩ := (changeOffer_flags p items).2 hcp
    rw [hstale hne] at hacc
    cases hacc

theorem flagsFresh_acceptBy {p : ℕ} (h : FlagsFresh (w, log)) (hs : w.playerTrade p = some s)
    (ht : w'.activeTrades = w.activeTrades.insert (s.acceptBy p)) :
    FlagsFresh (w', log.push w p (.accepted p)) := by
  obtain ⟨hget, hinv⟩ := playerTrade_eq_some hs
  obtain ⟨hinit, hcp⟩ := h s.initiator s hget
  refine flagsFresh_insert h ht (fun k hk => ?_) ?_
  · rw [TradeLog.push_eq hs, if_neg (by simpa using hk)]
  · rw [PlayerTradeSession.acceptBy_initiator, PlayerTradeSession.acceptBy_counterparty,
      TradeLog.push_eq hs, if_pos rfl, acceptedSinceChange_push, acceptedSinceChange_push]
    unfold PlayerTradeSession.acceptBy
    split
    · rename_i hp
      exact ⟨fun _ => .inl hp, fun hacc => .inr (hcp hacc)⟩
    · rename_i hp
      exact ⟨fun hacc => .inr (hinit hacc), fun _ => .inl (hinv.resolve_left hp)⟩

/-- **Step lemma.** -/
theorem flagsFresh_step {h : WorldState × TradeLog} (hfresh : FlagsFresh h)
    (hop : NoStaleChange h op) : FlagsFresh (loggedStep h op) := by
  obtain ⟨w, log⟩ := h
  unfold loggedStep
  rcases hperf : op.perform w with ⟨e | u, w'⟩
  · exact flagsFresh_subset hfresh fun k t hk => perform_error hperf ▸ hk
  · have hchange := perform_ok hperf
    simp only
    generalize htable : w'.activeTrades = table at hchange
    cases hchange with
    | opened hab hadm =>
      refine flagsFresh_insert hfresh htable (fun k hk => ?_) ⟨fun hf => ?_, fun hf => ?_⟩
      · exact Function.update_of_ne hk _ _
      · cases hf
      · cases hf
    | staged hs hlen hdup =>
      exact flagsFresh_changeOffer _ hfresh hs (hop _ _ (.stage hs hlen hdup)) htable
    | unstaged hs hi =>
      refine flagsFresh_changeOffer _ hfresh hs (hop _ _ (.unstage hs ?_)) htable
      obtain ⟨hlt, hr, -⟩ := List.findIdx?_eq_some_iff_getElem.mp hi
      exact (by simpa using hr : _ = _) ▸ List.getElem_mem hlt
    | accepted hs => exact flagsFresh_acceptBy hfresh hs htable
    | cancelled => exact flagsFresh_subset hfresh fun k t hk => get?_erase_some (htable ▸ hk)
    | nothingCancelled => exact flagsFresh_subset hfresh fun k t hk => htable ▸ hk
    | executed =>
      exact flagsFresh_subset hfresh fun k t hk => get?_erase_some (get?_erase_some (htable ▸ hk))

/-- **Nobody is bound to an offer that changed after they accepted it**, in every run from a
world without trades in which no counterparty changes an offer while its own acceptance stands. -/
theorem freshConsent_of_noStaleChange {w₀ : WorldState} {log₀ : TradeLog} {h : WorldState × TradeLog}
    (h₀ : w₀.WithoutTrades) (hrun : Reaches loggedStep NoStaleChange (w₀, log₀) h) :
    FreshConsent h := by
  have hflags : FlagsFresh h := by
    refine hrun.invariant (fun _ _ hf hop => flagsFresh_step hf hop) ?_
    intro k s hk
    rw [h₀ k] at hk
    cases hk
  intro k s hk hboth
  simp only [PlayerTradeSession.bothAccepted, Bool.and_eq_true] at hboth
  exact ⟨(hflags k s hk).1 hboth.1, (hflags k s hk).2 hboth.2⟩

end FreshConsent

/-- The counterparty accepts, changes its offer, and the initiator accepts. -/
def staleTrade : List TradeOperation :=
  [.openTrade 1 2, .accept 2, .stage 2 ⟨0, 0⟩, .accept 1]

theorem staleTrade_session :
    (staleTrade.foldl loggedStep (threePlayers, fun _ => [])).1.activeTrades.get? 1 =
      some ⟨1, 2, [], [⟨0, 0⟩], true, true, 0, by decide⟩ := by decide

theorem staleTrade_log : (staleTrade.foldl loggedStep (threePlayers, fun _ => [])).2 1 =
    [.accepted 1, .changed, .accepted 2] := by decide

/-- **Bound to a changed offer**: the acceptance of player 2 is older than the change. -/
theorem staleTrade_stale : ¬∀ (w₀ : WorldState) (log₀ : TradeLog) (h : WorldState × TradeLog),
    w₀.WithoutTrades → Reaches loggedStep (fun _ _ => True) (w₀, log₀) h → FreshConsent h := by
  intro h
  have hfresh := h threePlayers (fun _ => []) _ threePlayers_withoutTrades
    (Reaches.start.foldl (meets_of_forall (fun _ _ => trivial) _ staleTrade))
  have hstale := (hfresh 1 _ staleTrade_session rfl).2
  rw [staleTrade_log] at hstale
  exact absurd hstale (by decide)

/-- The initiator changes its offer, and both accept. -/
def freshTrade : List TradeOperation := [.openTrade 1 2, .stage 1 ⟨0, 0⟩, .accept 2, .accept 1]

/-- The run theorem at that run. -/
theorem freshConsent_of_noStaleChange_freshTrade : threePlayers.WithoutTrades ∧
    FreshConsent (freshTrade.foldl loggedStep (threePlayers, fun _ => [])) ∧
    (freshTrade.foldl loggedStep (threePlayers, fun _ => [])).1.activeTrades.get? 1 =
      some ⟨1, 2, [⟨0, 0⟩], [], true, true, 0, by decide⟩ := by
  have hopen : (loggedStep (threePlayers, fun _ => []) (.openTrade 1 2)).1.playerTrade 1 =
      some ⟨1, 2, [], [], false, false, 0, by decide⟩ := by decide
  have hmeets : Meets loggedStep NoStaleChange (threePlayers, fun _ => []) freshTrade := by
    refine ⟨?_, ?_, ?_, ?_, trivial⟩
    · rintro p s ⟨⟩
    · rintro p s h hp
      cases h with
      | stage hs =>
        rw [hopen] at hs
        cases hs
        exact absurd rfl hp
    · rintro p s ⟨⟩
    · rintro p s ⟨⟩
  exact ⟨threePlayers_withoutTrades,
    freshConsent_of_noStaleChange threePlayers_withoutTrades (.foldl .start hmeets), by decide⟩

end ForgottenEngine
