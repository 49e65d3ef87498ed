import ForgottenEngine.World

/-!
# Trade sessions

The trade methods of the world state.  One record per trade, stored under the initiator; both
sides reach it through the same lookup.

* opening, staging, unstaging, accepting and cancelling only touch the table of open trades;
* `executePlayerTrade` resolves the staged references of both sides, takes the items out one
  after the other, puts each into the first window of the other side that takes it, and closes
  the trade.  Its three passes are the three closures of the source.

A staged item is a **position**.  A removal shifts every position behind it, so the second pass
may take something else than the first pass has resolved, and it may run off the end of a window.
-/

namespace ForgottenEngine

/-- The most items one side may stage. -/
def maxTradeItemsPerSide : ℕ := 20

/-- What an executed trade reports: who traded with whom, and what each side gave. -/
structure PlayerTradeExecution where
  initiator : ℕ
  counterparty : ℕ
  initiatorGave : List ItemInstance
  counterpartyGave : List ItemInstance
deriving DecidableEq

namespace PlayerTradeSession

/-- The offer of one participant. -/
def sideItems (self : PlayerTradeSession) (playerId : ℕ) : List TradeItemReference :=
  if self.initiator = playerId then self.initiatorItems else self.counterpartyItems

/-- Replace the offer of one participant and reset acceptances.  The flag of the other side is
reset, and in both branches the initiator's: a counterparty keeps its own. -/
def changeOffer (self : PlayerTradeSession) (playerId : ℕ) (items : List TradeItemReference) :
    PlayerTradeSession :=
  if self.initiator = playerId then
    { self with
      initiatorItems := items
      counterpartyAccepted := false
      initiatorAccepted := false }
  else { self with counterpartyItems := items, initiatorAccepted := false }

/-- Set the acceptance flag of one participant. -/
def acceptBy (self : PlayerTradeSession) (playerId : ℕ) : PlayerTradeSession :=
  if self.initiator = playerId then { self with initiatorAccepted := true }
  else { self with counterpartyAccepted := true }

/-- Both flags are set. -/
def bothAccepted (self : PlayerTradeSession) : Bool :=
  self.initiatorAccepted && self.counterpartyAccepted

/-- The player is one of the two sides. -/
def involves (self : PlayerTradeSession) (playerId : ℕ) : Prop :=
  self.initiator = playerId ∨ self.counterparty = playerId

instance (self : PlayerTradeSession) (playerId : ℕ) : Decidable (self.involves playerId) :=
  inferInstanceAs (Decidable (_ ∨ _))

@[simp] theorem changeOffer_initiator (s : PlayerTradeSession) (p : ℕ)
    (items : List TradeItemReference) : (s.changeOffer p items).initiator = s.initiator := by
  unfold changeOffer; split <;> rfl

@[simp] theorem changeOffer_counterparty (s : PlayerTradeSession) (p : ℕ)
    (items : List TradeItemReference) : (s.changeOffer p items).counterparty = s.counterparty := by
  unfold changeOffer; split <;> rfl

@[simp] theorem acceptBy_initiator (s : PlayerTradeSession) (p : ℕ) :
    (s.acceptBy p).initiator = s.initiator := by
  unfold acceptBy; split <;> rfl

@[simp] theorem acceptBy_counterparty (s : PlayerTradeSession) (p : ℕ) :
    (s.acceptBy p).counterparty = s.counterparty := by
  unfold acceptBy; split <;> rfl

end PlayerTradeSession

namespace PlayerContainers

/-- The item a staged reference names. -/
def resolve (self : PlayerContainers) (reference : TradeItemReference) : Option ItemInstance := do
  let container ← self.container reference.containerId
  container.items.item reference.itemIndex

/-- Append a removed item to the window it came from; a refusal is ignored. -/
def restoreItem (self : PlayerContainers) (removed : TradeItemReference × ItemInstance) :
    PlayerContainers :=
  match self.container removed.1.containerId with
  | none => self
  | some container =>
    match container.items.insert removed.2 with
    | .ok items => self.setItems removed.1.containerId items
    | .error _ => self

/-- Offer an item to the windows in turn: the first that takes it keeps it. -/
def placeDelivered (item : ItemInstance) : List ℕ → PlayerContainers → Bool × PlayerContainers
  | [], self => (false, self)
  | containerId :: containerIds, self =>
    match self.remove containerId with
    | none => placeDelivered item containerIds self
    | some (container, rest) =>
      match container.items.mergeOrInsertStack item with
      | .ok (_, items) => (true, rest.putBack { container with items })
      | .error _ => placeDelivered item containerIds (rest.putBack container)

end PlayerContainers

namespace WorldState

/-- The session a player takes part in: its own, else the first one it is the counterparty of. -/
def playerTrade (self : WorldState) (playerId : ℕ) : Option PlayerTradeSession :=
  match self.activeTrades.get? playerId with
  | some session => some session
  | none => self.activeTrades.find? (·.counterparty == playerId)

end WorldState

namespace World

open Fallible

/-- Write a session back under its initiator. -/
def storeTrade (session : PlayerTradeSession) : WorldM Unit :=
  write fun w => w.putTrades (w.activeTrades.insert session)

def eraseTrade (initiator : ℕ) : WorldM Unit :=
  write fun w => w.putTrades (w.activeTrades.erase initiator)

/-- What `openPlayerTrade` asks of each participant. -/
def requireTrader (playerId : ℕ) : WorldM Unit := do
  let _ ← requirePlayer playerId
  let respawn ← read (·.playerRespawnStates[playerId]?)
  if respawn.any (·.dead) then fail (.playerIsDead playerId)

/-- Open a session.  A participant is only looked up as an initiator of another one. -/
def openPlayerTrade (initiator counterparty : ℕ) : WorldM PlayerTradeSession :=
  if h : initiator = counterparty then fail .tradeWithSelf
  else do
    requireTrader initiator
    requireTrader counterparty
    let trades ← read (·.activeTrades)
    if (trades.get? initiator).isSome ∨ (trades.get? counterparty).isSome then
      fail (.playerAlreadyTrading initiator)
    else
      let tickOpened ← read (·.tick)
      storeTrade ⟨initiator, counterparty, [], [], false, false, tickOpened, h⟩
      readOr (·.activeTrades.get? initiator) (.unknownPlayer initiator)

/-- The session `active_trade_entry_mut` hands out for writing. -/
def activeTradeEntry (playerId : ℕ) : WorldM PlayerTradeSession := do
  let trades ← read (·.activeTrades)
  match trades.get? playerId with
  | some session => pure session
  | none =>
    let initiator ← ofOption
      ((trades.find? (·.counterparty == playerId)).map (·.initiator)) (.noActiveTrade playerId)
    ofOption (trades.get? initiator) (.noActiveTrade playerId)

/-- Add a reference to the player's offer; returns the length of the offer. -/
def stageTradeItem (playerId : ℕ) (reference : TradeItemReference) : WorldM ℕ := do
  let session ← activeTradeEntry playerId
  let sideItems := session.sideItems playerId
  if maxTradeItemsPerSide ≤ sideItems.length then fail (.tradeItemLimit maxTradeItemsPerSide)
  else if reference ∈ sideItems then fail .duplicateTradeItem
  else
    storeTrade (session.changeOffer playerId (sideItems ++ [reference]))
    return (sideItems ++ [reference]).length

/-- Take a reference out of the player's offer. -/
def unstageTradeItem (playerId : ℕ) (reference : TradeItemReference) : WorldM Unit := do
  let session ← activeTradeEntry playerId
  let sideItems := session.sideItems playerId
  match sideItems.findIdx? (· == reference) with
  | none => fail .unknownTradeItem
  | some position => storeTrade (session.changeOffer playerId (sideItems.eraseIdx position))

/-- Record the player's acceptance; `true` when both sides have now accepted. -/
def acceptPlayerTrade (playerId : ℕ) : WorldM Bool := do
  let session ← activeTradeEntry playerId
  storeTrade (session.acceptBy playerId)
  return (session.acceptBy playerId).bothAccepted

/-- Close the player's session, if there is one.  The player returned is the counterparty, also
when it is the counterparty who cancels. -/
def cancelPlayerTrade (playerId : ℕ) : WorldM (Option ℕ) := do
  let trades ← read (·.activeTrades)
  match trades.get? playerId with
  | some session =>
    let (key, other) :=
      if session.initiator = playerId then (playerId, session.counterparty)
      else (session.initiator, playerId)
    eraseTrade key
    return some other
  | none =>
    match trades.find? (·.counterparty == playerId) with
    | none => return none
    | some session =>
      eraseTrade session.initiator
      return some playerId

/-! ### Execution -/

/-- The refusal for a reference that does not resolve. -/
def missing (owner : ℕ) (reference : TradeItemReference) : CoreError :=
  .tradeItemMissing owner reference.containerId reference.itemIndex

/-- Pass 1: the items the references of one side name, before anything moves. -/
def resolveOffered (owner : ℕ) : List TradeItemReference →
    WorldM (List (TradeItemReference × ItemInstance))
  | [] => pure []
  | reference :: refs => do
    let item ← readOr (fun w => w.playerContainers[owner]?.bind (·.resolve reference))
      (missing owner reference)
    let resolved ← resolveOffered owner refs
    return (reference, item) :: resolved

/-- Put removed items back, in the order given. -/
def restoreRemoved (owner : ℕ) : List (TradeItemReference × ItemInstance) → WorldM Unit
  | [] => pure ()
  | removed :: rest => do
    match ← read (·.playerContainers[owner]?) with
    | none => pure ()
    | some containers => storeContainers owner (containers.restoreItem removed)
    restoreRemoved owner rest

/-- Pass 2: take the resolved references out of the windows, one after the other.  A position
that no longer exists puts the items taken so far back, the last one first, and fails. -/
def removeOffered (owner : ℕ) (removed : List (TradeItemReference × ItemInstance)) :
    List (TradeItemReference × ItemInstance) → WorldM (List (TradeItemReference × ItemInstance))
  | [] => pure removed
  | (reference, _) :: resolved => do
    let containers ← readOr (·.playerContainers[owner]?) (missing owner reference)
    let container ← ofOption (containers.container reference.containerId) (missing owner reference)
    match container.items.remove reference.itemIndex with
    | some (item, items) => do
      storeContainers owner (containers.setItems reference.containerId items)
      removeOffered owner (removed ++ [(reference, item)]) resolved
    | none => do
      restoreRemoved owner removed.reverse
      fail (missing owner reference)

/-- The refusal of a delivery. -/
def noSpace (owner : ℕ) : CoreError :=
  .tradeValidationFailed s!"player {owner} has no space for a traded item"

/-- Pass 3: deliver the items to one side.  An item that finds no window ends the pass where it
stands. -/
def deliver (owner : ℕ) : List ItemInstance → WorldM Unit
  | [] => pure ()
  | item :: items => do
    match ← read (·.playerContainers[owner]?) with
    | none => fail (noSpace owner)
    | some containers =>
      let (placed, containers) := containers.placeDelivered item containers.ids
      storeContainers owner containers
      if placed then deliver owner items else fail (noSpace owner)

/-- The three passes over the offers of a session; returns what the initiator and what the
counterparty gave. -/
def exchangeOffers (session : PlayerTradeSession) :
    WorldM (List ItemInstance × List ItemInstance) := do
  let initiatorResolved ← resolveOffered session.initiator session.initiatorItems
  let counterpartyResolved ← resolveOffered session.counterparty session.counterpartyItems
  let initiatorRemoved ← removeOffered session.initiator [] initiatorResolved
  let counterpartyRemoved ← onError
    (removeOffered session.counterparty [] counterpartyResolved)
    (restoreRemoved session.initiator initiatorRemoved.reverse)
  deliver session.initiator (counterpartyRemoved.map Prod.snd)
  deliver session.counterparty (initiatorRemoved.map Prod.snd)
  return (initiatorRemoved.map Prod.snd, counterpartyRemoved.map Prod.snd)

def executePlayerTrade (playerId : ℕ) : WorldM PlayerTradeExecution := do
  let session ← readOr (·.playerTrade playerId) (.noActiveTrade playerId)
  if ¬session.bothAccepted then fail (.noActiveTrade playerId)
  else
    let (initiatorGave, counterpartyGave) ← exchangeOffers session
    eraseTrade session.initiator
    eraseTrade session.counterparty
    markChanged
    return ⟨session.initiator, session.counterparty, initiatorGave, counterpartyGave⟩

end World

end ForgottenEngine
