import ForgottenEngine.TradeConservation
import ForgottenEngine.WorldEvents

/-!
# Nobody receives something other than what was on offer

A run of arbitrary world events, with a record of what each participant of an open trade saw when
accepting: the items the references of the other side resolved to.  An execution that returns
`Ok` closes a deal, and the deal is *as accepted* when each side gives what the other one saw.

The code keeps positions, not items.  `deals_asAccepted_of_undisturbed`: in every run whose steps
leave the items at accepted positions where they are, and whose executions shift no reference onto
another item, all deals are as accepted.  The invariant `Seen` says that what a standing acceptance
saw is what the positions hold now.
-/

namespace ForgottenEngine

open Fallible World WorldState

/-- What the two participants of a session saw at their last acceptance: the items behind the
references of the other side. -/
structure AcceptedOffers where
  byInitiator : Option (List (Option ItemInstance))
  byCounterparty : Option (List (Option ItemInstance))
deriving DecidableEq

/-- A successful execution, with what the two participants had seen. -/
structure Deal where
  execution : PlayerTradeExecution
  seen : AcceptedOffers
deriving DecidableEq

/-- Each side gives exactly what the other one saw. -/
def Deal.AsAccepted (d : Deal) : Prop :=
  d.seen.byCounterparty = some (d.execution.initiatorGave.map some) ∧
    d.seen.byInitiator = some (d.execution.counterpartyGave.map some)

instance (d : Deal) : Decidable d.AsAccepted := inferInstanceAs (Decidable (_ ∧ _))

/-- A world, what was seen in each open session (under its initiator), and the deals so far. -/
structure TradeBooks where
  world : WorldState
  seen : ℕ → AcceptedOffers
  deals : List Deal

namespace WorldState

/-- The items of the initiator's offer, as they are now. -/
def initiatorOffer (w : WorldState) (s : PlayerTradeSession) : List (Option ItemInstance) :=
  s.initiatorItems.map (w.containersOf s.initiator).resolve

/-- The items of the counterparty's offer, as they are now. -/
def counterpartyOffer (w : WorldState) (s : PlayerTradeSession) : List (Option ItemInstance) :=
  s.counterpartyItems.map (w.containersOf s.counterparty).resolve

end WorldState

namespace TradeBooks

/-- An acceptance by `p` sees the offer of the other side. -/
def see (b : TradeBooks) (p : ℕ) : ℕ → AcceptedOffers :=
  match b.world.playerTrade p with
  | none => b.seen
  | some s =>
    Function.update b.seen s.initiator
      (if s.initiator = p then
        { b.seen s.initiator with byInitiator := some (b.world.counterpartyOffer s) }
      else { b.seen s.initiator with byCounterparty := some (b.world.initiatorOffer s) })

/-- What an accepted event adds to the books. -/
def record (b : TradeBooks) : WorldEvent → TradeBooks
  | .trade (.openTrade initiator _) =>
    { b with seen := Function.update b.seen initiator ⟨none, none⟩ }
  | .trade (.accept p) => { b with seen := b.see p }
  | .trade (.execute p) =>
    match executePlayerTrade p b.world with
    | (.ok x, _) => { b with deals := ⟨x, b.seen x.initiator⟩ :: b.deals }
    | (.error _, _) => b
  | _ => b

/-- A step of the world together with the books; a refused event adds nothing to them. -/
def step (b : TradeBooks) (ev : WorldEvent) : TradeBooks :=
  match ev.perform b.world with
  | (.ok _, w') => { b.record ev with world := w' }
  | (.error _, w') => { b with world := w' }

/-- The event leaves the items at the positions of every accepted offer where they are, and an
execution shifts no reference onto another item. -/
structure Undisturbed (b : TradeBooks) (ev : WorldEvent) : Prop where
  staged : ∀ k s, b.world.activeTrades.get? k = some s →
    (b.step ev).world.activeTrades.get? k = some s →
      (s.counterpartyAccepted = true →
        (b.step ev).world.initiatorOffer s = b.world.initiatorOffer s) ∧
      (s.initiatorAccepted = true →
        (b.step ev).world.counterpartyOffer s = b.world.counterpartyOffer s)
  executed : ∀ p s, ev = .trade (.execute p) → b.world.playerTrade p = some s →
    Completes b.world s → Unshifted (b.world.containersOf s.initiator) s.initiatorItems ∧
      Unshifted (b.world.containersOf s.counterparty) s.counterpartyItems

/-- A standing acceptance saw what the positions hold now. -/
def Seen (b : TradeBooks) : Prop :=
  ∀ k s, b.world.activeTrades.get? k = some s →
    (s.counterpartyAccepted = true →
      (b.seen k).byCounterparty = some (b.world.initiatorOffer s)) ∧
    (s.initiatorAccepted = true →
      (b.seen k).byInitiator = some (b.world.counterpartyOffer s))

theorem step_of_ok {b : TradeBooks} {ev : WorldEvent} {u : Unit} {w' : WorldState}
    (h : ev.perform b.world = (.ok u, w')) : b.step ev = { b.record ev with world := w' } := by
  unfold step
  rw [h]

theorem step_of_error {b : TradeBooks} {ev : WorldEvent} {e : CoreError} {w' : WorldState}
    (h : ev.perform b.world = (.error e, w')) : b.step ev = { b with world := w' } := by
  unfold step
  rw [h]

section Steps

variable {b : TradeBooks} {ev : WorldEvent} {w' : WorldState}

/-- Offers only depend on the containers. -/
theorem offers_congr {w w' : WorldState} (h : w'.playerContainers = w.playerContainers)
    (s : PlayerTradeSession) :
    w'.initiatorOffer s = w.initiatorOffer s ∧ w'.counterpartyOffer s = w.counterpartyOffer s := by
  unfold initiatorOffer counterpartyOffer containersOf
  rw [h]
  exact ⟨rfl, rfl⟩

/-- **A step that leaves the sessions alone**, or closes some of them. -/
theorem seen_of_subset {b' : TradeBooks} (h : b.Seen) (hund : b.Undisturbed ev)
    (hworld : b'.world = (b.step ev).world) (hseen : b'.seen = b.seen)
    (hsub : ∀ k s, b'.world.activeTrades.get? k = some s →
      b.world.activeTrades.get? k = some s) : b'.Seen := by
  intro k s hk
  have hold := hsub k s hk
  obtain ⟨hcp, hinit⟩ := hund.staged k s hold (hworld ▸ hk)
  rw [hseen, hworld]
  constructor
  · intro hacc
    rw [(h k s hold).1 hacc, hcp hacc]
  · intro hacc
    rw [(h k s hold).2 hacc, hinit hacc]

/-- **A step that rewrites one session** and touches no containers: `hnew` is what it says of the
new session. -/
theorem seen_of_insert {b' : TradeBooks} {s : PlayerTradeSession} (h : b.Seen)
    (hcont : b'.world.playerContainers = b.world.playerContainers)
    (htable : b'.world.activeTrades = b.world.activeTrades.insert s)
    (hseen : ∀ k, k ≠ s.initiator → b'.seen k = b.seen k)
    (hnew : (s.counterpartyAccepted = true →
        (b'.seen s.initiator).byCounterparty = some (b.world.initiatorOffer s)) ∧
      (s.initiatorAccepted = true →
        (b'.seen s.initiator).byInitiator = some (b.world.counterpartyOffer s))) : b'.Seen := by
  intro k t hk
  obtain ⟨hinit, hcp⟩ := offers_congr hcont t
  rw [hinit, hcp]
  rw [htable, KeyedMap.get?_insert] at hk
  split at hk
  · rename_i hkey
    cases hk
    subst hkey
    exact hnew
  · rename_i hkey
    rw [hseen k (Ne.symm hkey)]
    exact h k t hk

/-- A changed offer: the flag of the side that has to look at it is down. -/
theorem seen_changeOffer {p : ℕ} {s : PlayerTradeSession} (h : b.Seen)
    (hs : b.world.playerTrade p = some s) (items : List TradeItemReference) :
    ((s.changeOffer p items).counterpartyAccepted = true →
      (b.seen s.initiator).byCounterparty = some (b.world.initiatorOffer (s.changeOffer p items))) ∧
    ((s.changeOffer p items).initiatorAccepted = true →
      (b.seen s.initiator).byInitiator =
        some (b.world.counterpartyOffer (s.changeOffer p items))) := by
  obtain ⟨hget, -⟩ := playerTrade_eq_some hs
  unfold PlayerTradeSession.changeOffer
  split
  · exact ⟨fun hacc => (by cases hacc), fun hacc => (by cases hacc)⟩
  · exact ⟨fun hacc => (h _ s hget).1 hacc, fun hacc => (by cases hacc)⟩

/-- The record of an acceptance, under the session's own initiator and elsewhere. -/
theorem see_eq {p : ℕ} {s : PlayerTradeSession} (hs : b.world.playerTrade p = some s) (k : ℕ) :
    b.see p k = if k = s.initiator then
      (if s.initiator = p then
        { b.seen s.initiator with byInitiator := some (b.world.counterpartyOffer s) }
      else { b.seen s.initiator with byCounterparty := some (b.world.initiatorOffer s) })
    else b.seen k := by
  unfold see
  rw [hs]
  exact Function.update_apply _ _ _ _

theorem seen_acceptBy {p : ℕ} {s : PlayerTradeSession} (h : b.Seen)
    (hs : b.world.playerTrade p = some s) :
    ((s.acceptBy p).counterpartyAccepted = true →
      (b.see p s.initiator).byCounterparty = some (b.world.initiatorOffer (s.acceptBy p))) ∧
    ((s.acceptBy p).initiatorAccepted = true →
      (b.see p s.initiator).byInitiator = some (b.world.counterpartyOffer (s.acceptBy p))) := by
  obtain ⟨hget, -⟩ := playerTrade_eq_some hs
  rw [see_eq hs, if_pos rfl]
  unfold PlayerTradeSession.acceptBy
  split
  · exact ⟨fun hacc => (h _ s hget).1 hacc, fun _ => rfl⟩
  · exact ⟨fun _ => rfl, fun hacc => (h _ s hget).2 hacc⟩

/-- What the books of a trade operation that opens, changes, accepts or cancels look like. -/
theorem seen_trade {op : TradeOperation} (h : b.Seen) (hund : b.Undisturbed (.trade op))
    (hrun : op.perform b.world = (.ok (), w')) : (b.step (.trade op)).Seen := by
  have hstep : b.step (.trade op) = { b.record (.trade op) with world := w' } := step_of_ok hrun
  have hworld : (b.step (.trade op)).world = w' := by rw [hstep]
  have hcont (hne : ∀ p, op ≠ .execute p) :
      (b.step (.trade op)).world.playerContainers = b.world.playerContainers := by
    rw [hworld]
    exact (TradeOperation.perform_containers hne).eq hrun
  have hchange := TradeOperation.perform_ok hrun
  generalize htable : w'.activeTrades = table at hchange
  rw [← hworld] at htable
  cases hchange with
  | opened hab hadm =>
    refine seen_of_insert h (hcont fun _ => by simp) htable (fun k hk => ?_)
      ⟨fun hacc => (by cases hacc), fun hacc => (by cases hacc)⟩
    rw [hstep]
    exact Function.update_of_ne hk _ _
  | staged hs hlen hdup =>
    rename_i p r s
    have hseen : (b.step (.trade (.stage p r))).seen = b.seen := by rw [hstep]; rfl
    refine seen_of_insert h (hcont fun _ => by simp) htable (fun k _ => by rw [hseen]) ?_
    rw [hseen, PlayerTradeSession.changeOffer_initiator]
    exact seen_changeOffer h hs _
  | unstaged hs hi =>
    rename_i p r s i
    have hseen : (b.step (.trade (.unstage p r))).seen = b.seen := by rw [hstep]; rfl
    refine seen_of_insert h (hcont fun _ => by simp) htable (fun k _ => by rw [hseen]) ?_
    rw [hseen, PlayerTradeSession.changeOffer_initiator]
    exact seen_changeOffer h hs _
  | accepted hs =>
    rename_i p s
    have hseen : (b.step (.trade (.accept p))).seen = b.see p := by rw [hstep]; rfl
    refine seen_of_insert h (hcont fun _ => by simp) htable (fun k hk => ?_) ?_
    · rw [PlayerTradeSession.acceptBy_initiator] at hk
      rw [hseen, see_eq hs, if_neg hk]
    · rw [hseen, PlayerTradeSession.acceptBy_initiator]
      exact seen_acceptBy h hs
  | cancelled =>
    refine seen_of_subset h hund rfl (by rw [hstep]; rfl) fun k s hk => ?_
    exact get?_erase_some (htable ▸ hk)
  | nothingCancelled =>
    exact seen_of_subset h hund rfl (by rw [hstep]; rfl) fun k s hk => htable ▸ hk
  | executed =>
    refine seen_of_subset h hund rfl ?_ fun k s hk => ?_
    · rw [hstep]
      simp only [record]
      split <;> rfl
    · exact get?_erase_some (get?_erase_some (htable ▸ hk))

/-- **Step lemma**: an undisturbed step keeps what was seen true. -/
theorem seen_step (h : b.Seen) (hund : b.Undisturbed ev) : (b.step ev).Seen := by
  by_cases htrade : ∃ op, ev = .trade op
  · obtain ⟨op, rfl⟩ := htrade
    rcases hrun : op.perform b.world with ⟨e | u, w'⟩
    · have hstep : b.step (.trade op) = { b with world := w' } := step_of_error hrun
      refine seen_of_subset h hund rfl (by rw [hstep]) fun k s hk => ?_
      rw [hstep] at hk
      exact TradeOperation.perform_error hrun ▸ hk
    · exact seen_trade h hund hrun
  · have hkeep : (ev.perform b.world).2.activeTrades = b.world.activeTrades :=
      WorldEvent.perform_trades (fun op heq => htrade ⟨op, heq⟩) b.world
    rcases hrun : ev.perform b.world with ⟨e | u, w'⟩ <;> rw [hrun] at hkeep
    · refine seen_of_subset h hund rfl (by rw [step_of_error hrun]) fun k s hk => ?_
      rw [step_of_error hrun] at hk
      exact hkeep ▸ hk
    · have hseen : (b.step ev).seen = b.seen := by
        rw [step_of_ok hrun]
        cases ev with
        | trade op => exact absurd ⟨op, rfl⟩ htrade
        | transfer | replaceEquipment | replaceContainers | replaceContainersQuiet | remove => rfl
      refine seen_of_subset h hund rfl hseen fun k s hk => ?_
      rw [step_of_ok hrun] at hk
      exact hkeep ▸ hk

/-- **The deal of an execution** whose two acceptances saw what the positions hold. -/
theorem deal_asAccepted {p : ℕ} {x : PlayerTradeExecution} (h : b.Seen)
    (hund : b.Undisturbed (.trade (.execute p)))
    (hrun : executePlayerTrade p b.world = (.ok x, w')) :
    (⟨x, b.seen x.initiator⟩ : Deal).AsAccepted := by
  obtain ⟨s, hs, hcomp⟩ := executePlayerTrade_ok_iff.mp ⟨x, w', hrun⟩
  obtain ⟨s', gi, gc, w₁, hs', hacc, -, hx, -⟩ := executePlayerTrade_eq_ok.mp hrun
  rw [hs] at hs'
  cases hs'
  obtain ⟨w₁, hex, -⟩ := execution_exchanged hs hrun
  obtain ⟨hgi, hgc⟩ := exchange_gives hex
  obtain ⟨hunsh, hunsh'⟩ := hund.executed p s rfl hs hcomp
  obtain ⟨hget, -⟩ := playerTrade_eq_some hs
  simp only [PlayerTradeSession.bothAccepted, Bool.and_eq_true] at hacc
  have hkey : x.initiator = s.initiator := by rw [hx]
  constructor
  · rw [hgi, hunsh, hkey]
    exact (h _ s hget).1 hacc.2
  · rw [hgc, hunsh', hkey]
    exact (h _ s hget).2 hacc.1

/-- The deals of a step are the deals before it and that of an execution. -/
theorem mem_deals_step {d : Deal} (hd : d ∈ (b.step ev).deals) :
    d ∈ b.deals ∨ ∃ p x w', ev = .trade (.execute p) ∧
      executePlayerTrade p b.world = (.ok x, w') ∧ d = ⟨x, b.seen x.initiator⟩ := by
  rcases hrun : ev.perform b.world with ⟨e | u, w'⟩
  · rw [step_of_error hrun] at hd
    exact .inl hd
  · rw [step_of_ok hrun] at hd
    cases ev with
    | trade op =>
      cases op with
      | execute p =>
        simp only [record] at hd
        rcases hexec : executePlayerTrade p b.world with ⟨e | x, w₁⟩ <;> rw [hexec] at hd
        · exact .inl hd
        · rcases List.mem_cons.mp hd with hnew | hold
          · exact .inr ⟨p, x, w₁, rfl, hexec, hnew⟩
          · exact .inl hold
      | openTrade | stage | unstage | accept | cancel => exact .inl hd
    | transfer | replaceEquipment | replaceContainers | replaceContainersQuiet | remove =>
      exact .inl hd

/-- **Everybody gets what he accepted**, in every run of arbitrary events from a world without
trades in which accepted offers stay undisturbed. -/
theorem dealsAsAccepted_of_undisturbed {w₀ : WorldState} {seen₀ : ℕ → AcceptedOffers}
    (h₀ : w₀.WithoutTrades) (hrun : Reaches step Undisturbed ⟨w₀, seen₀, []⟩ b) :
    ∀ d ∈ b.deals, d.AsAccepted := by
  have hinv : b.Seen ∧ ∀ d ∈ b.deals, d.AsAccepted := by
    refine hrun.invariant (P := fun b => b.Seen ∧ ∀ d ∈ b.deals, d.AsAccepted) ?_ ⟨?_, ?_⟩
    · intro b ev hb hund
      refine ⟨seen_step hb.1 hund, fun d hd => ?_⟩
      rcases mem_deals_step hd with hold | ⟨p, x, w', rfl, hexec, rfl⟩
      · exact hb.2 d hold
      · exact deal_asAccepted hb.1 hund hexec
    · intro k s hk
      rw [h₀ k] at hk
      cases hk
    · intro d hd
      cases hd
  exact hinv.2

end Steps

/-! ### Two runs -/

/-- Only executions and inventory changes can disturb an offer. -/
theorem undisturbed_of_noExecute {op : TradeOperation} (h : ∀ p, op ≠ .execute p) (b : TradeBooks) :
    b.Undisturbed (.trade op) where
  staged := by
    intro k s _ _
    have hcont : (b.step (.trade op)).world.playerContainers = b.world.playerContainers := by
      rcases hrun : op.perform b.world with ⟨e | u, w'⟩
      · have hstep : b.step (.trade op) = { b with world := w' } := step_of_error hrun
        rw [hstep]
        exact (TradeOperation.perform_containers h).eq hrun
      · have hstep : b.step (.trade op) = { b.record (.trade op) with world := w' } :=
          step_of_ok hrun
        rw [hstep]
        exact (TradeOperation.perform_containers h).eq hrun
    exact ⟨fun _ => (offers_congr hcont s).1, fun _ => (offers_congr hcont s).2⟩
  executed := by
    intro p s hop
    cases hop
    exact absurd rfl (h p)

/-- Sword and rope in window 0 of player 1, who also has an empty window 1; an empty window for
player 2. -/
def swordAndRope : TradeBooks where
  world := (threePlayers.putContainers 1
    ((oneWindow 10 [⟨2400, 1, none, none, []⟩, ⟨2120, 1, none, none, []⟩]).putBack
      ⟨1, ⟨1987, 1, none, none, []⟩, "bag", false, ⟨10, []⟩⟩)).putContainers 2 (oneWindow 10 [])
  seen _ := ⟨none, none⟩
  deals := []

theorem swordAndRope_withoutTrades : swordAndRope.world.WithoutTrades :=
  fun _ => KeyedMap.get?_empty _

/-- The sword is staged and accepted; it is moved to window 1, and the trade executed. -/
def swappedAway : List WorldEvent :=
  [.trade (.openTrade 1 2), .trade (.stage 1 ⟨0, 0⟩), .trade (.accept 2),
    .transfer 1 (.containerStackToContainer 0 0 1 1), .trade (.accept 1), .trade (.execute 1)]

theorem swappedAway_deals : (swappedAway.foldl step swordAndRope).deals =
    [⟨⟨1, 2, [⟨2120, 1, none, none, []⟩], []⟩,
      ⟨some [], some [some ⟨2400, 1, none, none, []⟩]⟩⟩] := by decide

/-- **The rope for the sword**: player 2 accepts the sword at position 0 and receives the rope that
lies there after the sword has been moved. -/
theorem swappedAway_givesOther : ¬∀ (w₀ : WorldState) (seen₀ : ℕ → AcceptedOffers) (b : TradeBooks),
    w₀.WithoutTrades → Reaches step (fun _ _ => True) ⟨w₀, seen₀, []⟩ b →
      ∀ d ∈ b.deals, d.AsAccepted := by
  intro h
  have hrun : Reaches step (fun _ _ => True) swordAndRope (swappedAway.foldl step swordAndRope) :=
    Reaches.start.foldl (meets_of_forall (fun _ _ => trivial) swordAndRope swappedAway)
  have hdeals := h swordAndRope.world swordAndRope.seen _ swordAndRope_withoutTrades hrun
  rw [swappedAway_deals] at hdeals
  exact absurd (hdeals _ (List.mem_singleton.mpr rfl)) (by decide)

/-- The sword is staged, both accept, and the trade is executed. -/
def soldAsSeen : List WorldEvent :=
  [.trade (.openTrade 1 2), .trade (.stage 1 ⟨0, 0⟩), .trade (.accept 2), .trade (.accept 1)]

theorem soldAsSeen_session : (soldAsSeen.foldl step swordAndRope).world.playerTrade 1 =
    some ⟨1, 2, [⟨0, 0⟩], [], true, true, 0, by decide⟩ := by decide

theorem soldAsSeen_closed :
    ((soldAsSeen.foldl step swordAndRope).step (.trade (.execute 1))).world.activeTrades.entries =
      ∅ := by decide

/-- The run theorem at that run. -/
theorem dealsAsAccepted_of_undisturbed_sold : swordAndRope.world.WithoutTrades ∧
    ∀ d ∈ ((soldAsSeen.foldl step swordAndRope).step (.trade (.execute 1))).deals,
      d.AsAccepted := by
  have hmeets : Meets step Undisturbed swordAndRope soldAsSeen := by
    refine ⟨undisturbed_of_noExecute ?_ _, undisturbed_of_noExecute ?_ _,
      undisturbed_of_noExecute ?_ _, undisturbed_of_noExecute ?_ _, trivial⟩ <;> simp
  have hexec : (soldAsSeen.foldl step swordAndRope).Undisturbed (.trade (.execute 1)) := by
    constructor
    · intro k s _ hk
      rw [KeyedMap.get?, soldAsSeen_closed] at hk
      simp at hk
    · intro p s hop hs _
      cases hop
      have hsession := soldAsSeen_session
      rw [hs] at hsession
      cases hsession
      constructor <;> (unfold Unshifted; decide)
  have hrun : Reaches step Undisturbed swordAndRope (soldAsSeen.foldl step swordAndRope) :=
    Reaches.start.foldl hmeets
  exact ⟨swordAndRope_withoutTrades,
    dealsAsAccepted_of_undisturbed swordAndRope_withoutTrades (.next _ hrun hexec)⟩

end TradeBooks

end ForgottenEngine
