import ForgottenEngine.SharedChat
import ForgottenEngine.UnitRemovals

/-!
# Shops by keyword

A player next to an active NPC who keeps a shop says "buy <item> <count>" or "sell <item> <count>".
What is bought comes in single units into the top-level windows, what is sold is gathered from the
slots and the windows; gold only moves on the bank account.  The trade window of the client goes
the same way: it puts the message together itself.

What is said goes to the bank first, and to the shop when the bank has no use for it.
-/

namespace ForgottenEngine

open Fallible

/-! ### Catalogues -/

structure DeclarativeShopEntry where
  serverId : ℕ
  buyPriceGold : Option ℕ
  sellPriceGold : Option ℕ
deriving DecidableEq, Repr

structure DeclarativeNpcShop where
  npcName : String
  entries : List DeclarativeShopEntry
deriving DecidableEq, Repr

/-- The entry of an item; a second one is never found. -/
def DeclarativeNpcShop.entry (self : DeclarativeNpcShop) (serverId : ℕ) :
    Option DeclarativeShopEntry :=
  self.entries.find? fun entry => entry.serverId = serverId

structure DeclarativeShopCatalog where
  shops : BTreeMap String DeclarativeNpcShop

def DeclarativeShopCatalog.byNpcName (self : DeclarativeShopCatalog) (npcName : String) :
    Option DeclarativeNpcShop :=
  self.shops[npcName]?

/-! ### Messages -/

inductive ShopVerb where
  | buy
  | sell
deriving DecidableEq, Repr

def shopVerb (word : List Char) : Option ShopVerb :=
  if word = "buy".toList then some .buy else if word = "sell".toList then some .sell else none

/-- The item and the count behind the verb. -/
def shopOrder (words : List (List Char)) : Option (ℕ × ℕ) := do
  let serverId ← (words[0]?.bind (parseUnsigned u16Max)).filter (· ≠ 0)
  let count ← words[1]?.bind (parseUnsigned u64Max)
  return (serverId, count)

/-- What the trade window says for the player. -/
def windowMessage (verb : ShopVerb) (serverId amount : ℕ) : String :=
  match verb with
  | .buy => s!"buy {serverId} {amount}"
  | .sell => s!"sell {serverId} {amount}"

/-- The chat reply, and the shop in which something was traded. -/
structure ShopKeywordOutcome where
  reply : String
  tradedNpcName : Option String
deriving DecidableEq, Repr

/-! ### The handler -/

namespace Host

open Procedure (atomic)

/-- The reply to an order that would be too heavy. -/
def checkNativeCarryCapacity (playerId : ℕ) (incoming : List (ℕ × ℕ))
    (weights : Option (BTreeMap ℕ ℕ)) : Handler (Option String) :=
  match weights with
  | none => return none
  | some weights => do
    let vitals ← atomic (readOr (fun s => s.world.playerVitals[playerId]?)
      (.failed (.core (.unknownPlayer playerId))))
    let equipment ← atomic (playerEquipment playerId)
    let containers ← atomic (playerContainers playerId)
    let carried := incoming.foldl (fun carried (serverId, count) =>
      saturatingAdd carried (saturatingMul (weights[serverId]?.getD 0) count))
      (nativeCarriedWeight weights equipment containers)
    return if saturatingMul vitals.capacity 100 < carried then some "You cannot carry that item."
      else none

def shopReply (reply : String) : Handler ShopKeywordOutcome := return ⟨reply, none⟩

/-- The outcome of a trade that went through. -/
def shopTraded (reply npcName : String) : Handler ShopKeywordOutcome := return ⟨reply, some npcName⟩

def buyUnits (playerId : ℕ) (npcName : String) (entry : DeclarativeShopEntry)
    (serverId count : ℕ) (weights : Option (BTreeMap ℕ ℕ)) (equipment : PlayerEquipment)
    (containers : PlayerContainers) : Handler ShopKeywordOutcome :=
  match entry.buyPriceGold with
  | none => shopReply "I do not sell that item."
  | some price => do
    let total := saturatingMul price count
    let balance ← atomic (playerBankBalance playerId)
    if balance < total then shopReply "You do not have enough gold on your account."
    else
      match ← orCore (placeStacks isTopLevel serverId (List.replicate count 1) containers) with
      | none => shopReply "You need a container with free space to buy."
      | some staged =>
        match ← checkNativeCarryCapacity playerId [(serverId, min count u16Max)] weights with
        | some refusal => shopReply refusal
        | none =>
          commitInventoryAndBalance playerId equipment staged (balance - total)
          shopTraded s!"You bought {count} for {total} gold." npcName

def sellUnits (playerId : ℕ) (npcName : String) (entry : DeclarativeShopEntry)
    (serverId count : ℕ) (equipment : PlayerEquipment) (containers : PlayerContainers) :
    Handler ShopKeywordOutcome :=
  match entry.sellPriceGold with
  | none => shopReply "I do not buy that item."
  | some unitPrice => do
    let (remaining, equipment, containers) ←
      orCore (gatherUnits serverId count equipment containers)
    if 0 < remaining then shopReply "You do not carry enough of that item."
    else
      let total := saturatingMul unitPrice count
      let balance ← atomic (playerBankBalance playerId)
      commitInventoryAndBalance playerId equipment containers (saturatingAdd balance total)
      shopTraded s!"You sold {count} for {total} gold." npcName

/-- What a shop answers to the words behind the verb. -/
def serveOrder (playerId : ℕ) (npcName : String) (shop : DeclarativeNpcShop) (verb : ShopVerb)
    (words : List (List Char)) (weights : Option (BTreeMap ℕ ℕ)) : Handler ShopKeywordOutcome :=
  match shopOrder words with
  | none => shopReply "Usage: buy <item-id> <count> or sell <item-id> <count>."
  | some (serverId, count) =>
    if count = 0 ∨ 100 < count then shopReply "You must trade between 1 and 100 at once."
    else
      match shop.entry serverId with
      | none => shopReply "I do not trade that item."
      | some entry => do
        let equipment ← atomic (playerEquipment playerId)
        let containers ← atomic (playerContainers playerId)
        match verb with
        | .buy => buyUnits playerId npcName entry serverId count weights equipment containers
        | .sell => sellUnits playerId npcName entry serverId count equipment containers

/-- The outcome, or `none` when the message is none of a shop's. -/
def handleNativeShopKeyword (playerId : ℕ) (message : String)
    (shopCatalog : DeclarativeShopCatalog) (weights : Option (BTreeMap ℕ ℕ)) :
    Handler (Option ShopKeywordOutcome) :=
  let words := splitWhitespace (String.ofList (normalizedMessage message))
  match words.head?.bind shopVerb with
  | none => return none
  | some verb => do
    let (player, _) ← atomic (playerAndVitals playerId)
    let (entities, npcIds) ← atomic activeStaticSpawns
    match entities.find? (isNearbyNpc player npcIds) with
    | none => return none
    | some npc =>
      match shopCatalog.byNpcName npc.name with
      | none => return none
      | some shop => some <$> serveOrder playerId npc.name shop verb words.tail weights

/-- What is said to the bank, or else to a shop. -/
def handleServiceKeyword (playerId : ℕ) (message : String) (shopCatalog : DeclarativeShopCatalog)
    (weights : Option (BTreeMap ℕ ℕ)) : Handler (Option String) := do
  match ← handleNativeBankKeyword playerId message with
  | some reply => return some reply
  | none =>
    let outcome ← handleNativeShopKeyword playerId message shopCatalog weights
    return outcome.map ShopKeywordOutcome.reply

end Host

end ForgottenEngine
