import ForgottenEngine.MapTransfers
import ForgottenEngine.Library.Procedure

/-!
# Banking by keyword

A player next to an active NPC says "balance", "deposit all" or "withdraw <n>".  The handler reads
the inventory of the player, works on the copies, saves them with the new balance in one
transaction and publishes them.

The shared world is locked once for each read and for each write, so the handler is a `Procedure`;
its meaning without interference is `run`.
-/

namespace ForgottenEngine

open Fallible

/-! ### Texts -/

/-- `char::to_ascii_lowercase` -/
def toAsciiLowercase (c : Char) : Char :=
  if 65 ≤ c.toNat ∧ c.toNat ≤ 90 then Char.ofNat (c.toNat + 32) else c

/-- `message.trim().to_ascii_lowercase()` -/
def normalizedMessage (message : String) : List Char :=
  (trim message).toList.map toAsciiLowercase

/-- `text.strip_prefix(start)` -/
def stripPrefix (start text : List Char) : Option (List Char) :=
  if start.isPrefixOf text then some (text.drop start.length) else none

/-- The number of some decimal digits. -/
def digitsValue (text : List Char) : Option ℕ :=
  text.foldlM (fun value c =>
    if 48 ≤ c.toNat ∧ c.toNat ≤ 57 then some (value * 10 + (c.toNat - 48)) else none) 0

/-- `str::parse` for the unsigned integers up to `bound`: digits, with a plus sign or without. -/
def parseUnsigned (bound : ℕ) (text : List Char) : Option ℕ :=
  let digits := match text with
    | '+' :: rest => rest
    | text => text
  if digits = [] then none else (digitsValue digits).filter (· ≤ bound)

/-! ### Coins -/

def nativeCurrencyCoins : List (ℕ × ℕ) := [(2148, 1), (2152, 100), (2160, 10000)]

def nativeCoinValue (serverId : ℕ) : Option ℕ :=
  (nativeCurrencyCoins.find? fun coin => coin.1 = serverId).map Prod.snd

def goldCoinServerId : ℕ := 2148

def nativeBankNpcRangeTiles : ℕ := 2

/-- What a stack of coins is worth; other items are worth nothing. -/
def stackValue (item : ItemInstance) : Option ℕ :=
  (nativeCoinValue item.serverId).map fun value => min (value * item.count) u64Max

def equipmentSlots : List EquipmentSlot :=
  [.head, .neck, .backpack, .armor, .rightHand, .leftHand, .legs, .feet, .ring, .ammo]

/-- Take the coins out of one slot. -/
def stripSlot (state : ℕ × PlayerEquipment) (slot : EquipmentSlot) : ℕ × PlayerEquipment :=
  match (state.2.item slot).bind stackValue with
  | some value => (state.1 + value, state.2.without slot)
  | none => state

/-- Take the coins at one index out of a container. -/
def stripIndex (state : ℕ × ItemContainer) (index : ℕ) : ℕ × ItemContainer :=
  match (state.2.item index).bind stackValue with
  | some value => (state.1 + value, { state.2 with items := state.2.items.eraseIdx index })
  | none => state

/-- Take the coins out of a container, from its last index down. -/
def stripItems (deposited : ℕ) (items : ItemContainer) : ℕ × ItemContainer :=
  (List.range items.items.length).reverse.foldl stripIndex (deposited, items)

/-- Build the windows anew, each edited in turn. -/
def rebuildContainers {S : Type} (edit : S → ItemContainer → S × ItemContainer) (state : S)
    (containers : PlayerContainers) : Except CoreError (S × PlayerContainers) :=
  containers.containers.entries.toList.foldlM (fun built entry => do
    let edited := edit built.1 entry.2.items
    let (_, next) ← built.2.insert { entry.2 with items := edited.2 }
    .ok (edited.1, next)) (state, .empty)

/-- The stacks of a withdrawal; `none` when it needs more than `room` of them. -/
def withdrawChunks : (room remaining : ℕ) → Option (List ℕ)
  | _, 0 => some []
  | 0, _ + 1 => none
  | room + 1, remaining + 1 =>
    let chunk := min (remaining + 1) maxItemStackCount
    (withdrawChunks room (remaining + 1 - chunk)).map (chunk :: ·)

def maxWithdrawChunks : ℕ := 256

/-- Put a stack into the first of some windows that accepts it. -/
def placeStack (accepts : PlayerContainer → Bool) (item : ItemInstance) :
    List ℕ → PlayerContainers → Except CoreError (Bool × PlayerContainers)
  | [], containers => .ok (false, containers)
  | id :: ids, containers =>
    match containers.remove id with
    | none => placeStack accepts item ids containers
    | some (container, rest) =>
      match if accepts container then (container.items.mergeOrInsertStack item).toOption
        else none with
      | some (_, items) => do
        let (_, containers) ← rest.insert { container with items }
        .ok (true, containers)
      | none => do
        let (_, containers) ← rest.insert container
        placeStack accepts item ids containers

/-- Put stacks of one kind into the windows; `none` when one of them does not fit. -/
def placeStacks (accepts : PlayerContainer → Bool) (serverId : ℕ) :
    List ℕ → PlayerContainers → Except CoreError (Option PlayerContainers)
  | [], containers => .ok (some containers)
  | count :: counts, containers => do
    let item ← ItemInstance.new serverId count
    let (placed, containers) ← placeStack accepts item containers.ids containers
    if placed then placeStacks accepts serverId counts containers else .ok none

def isTopLevel (container : PlayerContainer) : Bool := !container.hasParent

/-! ### The handler -/

/-- A handler of a session. -/
abbrev Handler (α : Type) := Procedure Refusal HostState α

namespace Host

open Procedure (atomic)

def playerAndVitals (playerId : ℕ) : HostM (Player × PlayerVitals) := do
  let player ← requirePlayer playerId
  let vitals ← readOr (fun s => s.world.playerVitals[playerId]?)
    (.failed (.core (.unknownPlayer playerId)))
  return (player, vitals)

/-- The entities of the active creatures, and which of them are NPCs. -/
def activeStaticSpawns : HostM (List FeTfsStaticEntity × List ℕ) :=
  read fun s =>
    let active := s.world.staticCreatures.toList.filter fun entry => entry.2.active
    (active.map fun entry => { entry.2.entity with healthPercent := entry.2.healthPercent },
      (active.filter fun entry => entry.2.isNpc).map Prod.fst)

def isNearbyNpc (player : Player) (npcIds : List ℕ) (entity : FeTfsStaticEntity) : Bool :=
  entity.id ∈ npcIds ∧ entity.position.z = player.position.z ∧
    Position.absDiff entity.position.x player.position.x ≤ nativeBankNpcRangeTiles ∧
    Position.absDiff entity.position.y player.position.y ≤ nativeBankNpcRangeTiles

def nativeBankOfficerNearby (playerId : ℕ) : Handler Bool := do
  let (player, _) ← atomic (playerAndVitals playerId)
  let (entities, npcIds) ← atomic activeStaticSpawns
  return entities.any (isNearbyNpc player npcIds)

def playerBankBalance (playerId : ℕ) : HostM ℕ :=
  readOr (fun s => s.database.bankBalances[playerId]?)
    (.failed (.persistence (.unknownPlayer playerId)))

/-- `map_err(HostError::Core)?` -/
def orCore {α : Type} (value : Except CoreError α) : Handler α :=
  .ofExcept (value.mapError fun error => .failed (.core error))

/-- Save the inventory and the balance, then publish the inventory. -/
def commitInventoryAndBalance (playerId : ℕ) (equipment : PlayerEquipment)
    (containers : PlayerContainers) (balance : ℕ) : Handler Unit := do
  atomic (persist (·.replacePlayerInventoryAndBankBalance playerId equipment containers balance))
  let _ ← atomic (onWorld (World.replacePlayerEquipment playerId equipment))
  let _ ← atomic (onWorld (World.replacePlayerContainers playerId containers))
  return ()

def depositAll (playerId : ℕ) (equipment : PlayerEquipment) (containers : PlayerContainers) :
    Handler String := do
  let (deposited, equipment) := equipmentSlots.foldl stripSlot (0, equipment)
  let (deposited, containers) ← orCore (rebuildContainers stripItems deposited containers)
  if deposited = 0 then return "You have no coins to deposit."
  else
    let balance ← atomic (playerBankBalance playerId)
    commitInventoryAndBalance playerId equipment containers (saturatingAdd balance deposited)
    return s!"You deposited {deposited} gold."

def withdraw (playerId : ℕ) (equipment : PlayerEquipment) (containers : PlayerContainers)
    (amount : ℕ) : Handler String := do
  let balance ← atomic (playerBankBalance playerId)
  if balance < amount then return "You do not have enough gold on your account."
  else
    match withdrawChunks maxWithdrawChunks amount with
    | none => return "You cannot withdraw that much at once."
    | some chunks =>
      match ← orCore (placeStacks isTopLevel goldCoinServerId chunks containers) with
      | none => return "You need a container with free space to withdraw."
      | some containers =>
        commitInventoryAndBalance playerId equipment containers (balance - amount)
        return s!"You withdrew {amount} gold."

/-- What is asked of the bank. -/
inductive BankKeyword where
  | balance
  | depositAll
  | withdraw (amount : ℕ)
deriving DecidableEq, Repr

/-- The keyword of a message, if it is one. -/
def bankKeyword (message : String) : Option BankKeyword :=
  let normalized := normalizedMessage message
  if normalized = "balance".toList then some .balance
  else if normalized = "deposit all".toList then some .depositAll
  else
    (((stripPrefix "withdraw ".toList normalized).bind fun amount =>
      parseUnsigned u64Max (trim (String.ofList amount)).toList).filter (0 < ·)).map .withdraw

/-- The reply, or `none` when the message is none of the bank's. -/
def handleNativeBankKeyword (playerId : ℕ) (message : String) : Handler (Option String) :=
  match bankKeyword message with
  | none => return none
  | some keyword => do
    let nearby ← nativeBankOfficerNearby playerId
    if ¬nearby then return none
    else
      let equipment ← atomic (playerEquipment playerId)
      let containers ← atomic (playerContainers playerId)
      match keyword with
      | .balance =>
        let balance ← atomic (playerBankBalance playerId)
        return some s!"Your account balance is {balance} gold."
      | .depositAll => some <$> depositAll playerId equipment containers
      | .withdraw amount => some <$> withdraw playerId equipment containers amount

end Host

end ForgottenEngine
