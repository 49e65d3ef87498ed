import ForgottenEngine.Container

/-!
# The authoritative world state

The tables of `WorldState` that inventory and trade operations read and write, and the accessors
the operations are built from.  A method of the world that takes `&mut self` is a `WorldM`: it
ends in a result or in an error, and in both cases in the world it leaves behind.
-/

namespace ForgottenEngine

structure Player where
  id : ℕ
  accountId : ℕ
  name : String
  position : Position
  level : ℕ
  experience : ℕ
  skillPoints : ℕ
deriving DecidableEq, Repr, Inhabited

/-- The in-memory lifecycle of a player who has died. -/
structure PlayerRespawnState where
  dead : Bool := false
  respawnAt : Option Position := none
  deathTime : Option ℕ := none
  lossApplied : Bool := false
deriving DecidableEq, Repr, Inhabited

/-- A staged item: a position in one of the owner's windows. -/
structure TradeItemReference where
  containerId : ℕ
  itemIndex : ℕ
deriving DecidableEq, Repr

/-- One open trade.  Only `openPlayerTrade` makes sessions, and it refuses a trade with oneself:
the type keeps that. -/
@[ext]
structure PlayerTradeSession where
  initiator : ℕ
  counterparty : ℕ
  initiatorItems : List TradeItemReference
  counterpartyItems : List TradeItemReference
  initiatorAccepted : Bool
  counterpartyAccepted : Bool
  tickOpened : ℕ
  distinct : initiator ≠ counterparty
deriving DecidableEq

/-- The open trades, each stored once under its initiator. -/
abbrev TradeTable := KeyedMap ℕ PlayerTradeSession PlayerTradeSession.initiator

@[ext]
structure WorldState where
  players : BTreeMap ℕ Player
  playerRespawnStates : BTreeMap ℕ PlayerRespawnState
  playerEquipments : BTreeMap ℕ PlayerEquipment
  playerContainers : BTreeMap ℕ PlayerContainers
  activeTrades : TradeTable
  tick : ℕ
  revision : ℕ

def u64Max : ℕ := 18446744073709551615

namespace WorldState

def empty : WorldState := ⟨∅, ∅, ∅, ∅, .empty, 0, 0⟩

instance : Inhabited WorldState := ⟨empty⟩

/-- Advance the revision, saturating at the 64-bit bound. -/
def markChanged (w : WorldState) : WorldState := { w with revision := min (w.revision + 1) u64Max }

def putEquipment (w : WorldState) (playerId : ℕ) (equipment : PlayerEquipment) : WorldState :=
  { w with playerEquipments := w.playerEquipments.insert playerId equipment }

def putContainers (w : WorldState) (playerId : ℕ) (containers : PlayerContainers) : WorldState :=
  { w with playerContainers := w.playerContainers.insert playerId containers }

def putTrades (w : WorldState) (trades : TradeTable) : WorldState := { w with activeTrades := trades }

/-- The equipment of a player; nothing for a player without a table entry. -/
def equipmentOf (w : WorldState) (playerId : ℕ) : PlayerEquipment :=
  w.playerEquipments[playerId]?.getD .empty

/-- The container windows of a player; none for a player without a table entry. -/
def containersOf (w : WorldState) (playerId : ℕ) : PlayerContainers :=
  w.playerContainers[playerId]?.getD .empty

/-- What a player holds, in single units by item id, nested contents included. -/
def heldIds (w : WorldState) (playerId : ℕ) : Multiset ℕ :=
  ((w.equipmentOf playerId).units + (w.containersOf playerId).units).map ItemKind.serverId

/-- The commit at the end of an accepted transfer: both inventories and one revision. -/
def commit (w : WorldState) (playerId : ℕ) (equipment : PlayerEquipment)
    (containers : PlayerContainers) : WorldState :=
  ((w.putEquipment playerId equipment).putContainers playerId containers).markChanged

section Lookups

variable (w : WorldState) (p q : ℕ) (e : PlayerEquipment) (cs : PlayerContainers) (t : TradeTable)

@[simp] theorem markChanged_players : w.markChanged.players = w.players := rfl
@[simp] theorem markChanged_equipments : w.markChanged.playerEquipments = w.playerEquipments := rfl
@[simp] theorem markChanged_containers : w.markChanged.playerContainers = w.playerContainers := rfl
@[simp] theorem markChanged_trades : w.markChanged.activeTrades = w.activeTrades := rfl
@[simp] theorem putEquipment_players : (w.putEquipment p e).players = w.players := rfl
@[simp] theorem putEquipment_containers :
    (w.putEquipment p e).playerContainers = w.playerContainers := rfl
@[simp] theorem putEquipment_trades : (w.putEquipment p e).activeTrades = w.activeTrades := rfl
@[simp] theorem putContainers_players : (w.putContainers p cs).players = w.players := rfl
@[simp] theorem putContainers_equipments :
    (w.putContainers p cs).playerEquipments = w.playerEquipments := rfl
@[simp] theorem putContainers_trades : (w.putContainers p cs).activeTrades = w.activeTrades := rfl
@[simp] theorem putTrades_players : (w.putTrades t).players = w.players := rfl
@[simp] theorem putTrades_equipments : (w.putTrades t).playerEquipments = w.playerEquipments := rfl
@[simp] theorem putTrades_containers : (w.putTrades t).playerContainers = w.playerContainers := rfl
@[simp] theorem putTrades_trades : (w.putTrades t).activeTrades = t := rfl

@[simp] theorem putEquipment_get : (w.putEquipment p e).playerEquipments[q]? =
    if p = q then some e else w.playerEquipments[q]? := by
  simp [putEquipment, Std.ExtTreeMap.getElem?_insert]

@[simp] theorem putContainers_get : (w.putContainers p cs).playerContainers[q]? =
    if p = q then some cs else w.playerContainers[q]? := by
  simp [putContainers, Std.ExtTreeMap.getElem?_insert]

end Lookups

theorem equipmentOf_eq {w : WorldState} {p : ℕ} {e : PlayerEquipment}
    (h : w.playerEquipments[p]? = some e) : w.equipmentOf p = e := by simp [equipmentOf, h]

theorem containersOf_eq {w : WorldState} {p : ℕ} {cs : PlayerContainers}
    (h : w.playerContainers[p]? = some cs) : w.containersOf p = cs := by simp [containersOf, h]

theorem putContainers_self {w : WorldState} {p : ℕ} {cs : PlayerContainers}
    (h : w.playerContainers[p]? = some cs) : w.putContainers p cs = w := by
  have hmap : w.playerContainers.insert p cs = w.playerContainers := by
    apply Std.ExtTreeMap.ext_getElem?
    intro q
    rw [Std.ExtTreeMap.getElem?_insert]
    by_cases hq : p = q
    · subst hq; simp [h]
    · simp [hq]
  unfold putContainers
  rw [hmap]

theorem putContainers_putContainers (w : WorldState) (p : ℕ) (cs ds : PlayerContainers) :
    (w.putContainers p cs).putContainers p ds = w.putContainers p ds := by
  have hmap : (w.playerContainers.insert p cs).insert p ds = w.playerContainers.insert p ds := by
    apply Std.ExtTreeMap.ext_getElem?
    intro q
    simp only [Std.ExtTreeMap.getElem?_insert]
    split <;> rfl
  unfold putContainers
  simp only [hmap]

theorem putContainers_comm (w : WorldState) {p q : ℕ} (hpq : p ≠ q) (cs ds : PlayerContainers) :
    (w.putContainers p cs).putContainers q ds = (w.putContainers q ds).putContainers p cs := by
  have hmap : (w.playerContainers.insert p cs).insert q ds =
      (w.playerContainers.insert q ds).insert p cs := by
    apply Std.ExtTreeMap.ext_getElem?
    intro j
    simp only [Std.ExtTreeMap.getElem?_insert, Std.LawfulEqCmp.compare_eq_iff_eq]
    by_cases hp : p = j
    · subst hp; simp [Ne.symm hpq]
    · simp [hp]
  unfold putContainers
  simp only [hmap]

end WorldState

/-- A method on the world. -/
abbrev WorldM (α : Type) := Fallible CoreError WorldState α

namespace World

open Fallible

def playerEquipment (playerId : ℕ) : WorldM PlayerEquipment :=
  readOr (·.playerEquipments[playerId]?) (.unknownPlayer playerId)

def playerContainers (playerId : ℕ) : WorldM PlayerContainers :=
  readOr (·.playerContainers[playerId]?) (.unknownPlayer playerId)

def storeEquipment (playerId : ℕ) (equipment : PlayerEquipment) : WorldM Unit :=
  write (·.putEquipment playerId equipment)

def storeContainers (playerId : ℕ) (containers : PlayerContainers) : WorldM Unit :=
  write (·.putContainers playerId containers)

def markChanged : WorldM Unit := write WorldState.markChanged

/-- Refuse a player who is not registered. -/
def requirePlayer (playerId : ℕ) : WorldM Player :=
  readOr (·.players[playerId]?) (.unknownPlayer playerId)

@[simp] theorem playerEquipment_eq_ok {p : ℕ} {w w' : WorldState} {e : PlayerEquipment} :
    playerEquipment p w = (.ok e, w') ↔ w.playerEquipments[p]? = some e ∧ w' = w :=
  readOr_eq_ok

@[simp] theorem requirePlayer_eq_ok {p : ℕ} {w w' : WorldState} {x : Player} :
    requirePlayer p w = (.ok x, w') ↔ w.players[p]? = some x ∧ w' = w :=
  readOr_eq_ok

@[simp] theorem storeEquipment_apply (p : ℕ) (e : PlayerEquipment) (w : WorldState) :
    storeEquipment p e w = (.ok (), w.putEquipment p e) := rfl

@[simp] theorem storeContainers_apply (p : ℕ) (cs : PlayerContainers) (w : WorldState) :
    storeContainers p cs w = (.ok (), w.putContainers p cs) := rfl

@[simp] theorem markChanged_apply (w : WorldState) :
    World.markChanged w = (.ok (), w.markChanged) := rfl

@[simp] theorem playerContainers_eq_ok {p : ℕ} {w w' : WorldState} {cs : PlayerContainers} :
    playerContainers p w = (.ok cs, w') ↔ w.playerContainers[p]? = some cs ∧ w' = w :=
  readOr_eq_ok

theorem playerContainers_of_none {p : ℕ} {w : WorldState} (h : w.playerContainers[p]? = none) :
    playerContainers p w = (.error (.unknownPlayer p), w) :=
  readOr_of_none (f := fun w : WorldState => w.playerContainers[p]?) _ h

end World

end ForgottenEngine
