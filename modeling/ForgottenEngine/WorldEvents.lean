import ForgottenEngine.TransferAtomicity
import ForgottenEngine.TradeExchange

/-!
# Everything that happens to inventories and trades

`WorldEvent` is one step of the world as far as inventories and trades can see it: a trade
operation, a transfer, the replacement of an inventory as a whole, or the removal of a player.
Pickups, the shop and the bank reach an inventory through the replacements.

* `perform_trades` — only trade operations touch the table of open trades;
* `perform_containers` — of the trade operations only an execution touches containers.
-/

namespace ForgottenEngine

open Fallible

/-! ### Replacing an inventory, removing a player -/

instance : DecidableEq (BTreeMap ℕ PlayerContainer) := instDecidableEqOfLawfulBEq

instance : DecidableEq PlayerContainers := fun a b =>
  decidable_of_iff (a.containers.entries = b.containers.entries)
    ⟨fun h => PlayerContainers.ext (KeyedMap.ext h), fun h => by rw [h]⟩

instance : DecidableEq (BTreeMap EquipmentSlot ItemInstance) := instDecidableEqOfLawfulBEq

instance : DecidableEq PlayerEquipment := fun a b =>
  decidable_of_iff (a.items = b.items) ⟨PlayerEquipment.ext, fun h => by rw [h]⟩

namespace World

def replacePlayerEquipment (playerId : ℕ) (equipment : PlayerEquipment) : WorldM Bool := do
  let _ ← requirePlayer playerId
  let current ← playerEquipment playerId
  if current = equipment then return false
  else
    storeEquipment playerId equipment
    markChanged
    return true

def replacePlayerContainers (playerId : ℕ) (containers : PlayerContainers) : WorldM Bool := do
  let _ ← requirePlayer playerId
  let current ← playerContainers playerId
  if current = containers then return false
  else
    storeContainers playerId containers
    markChanged
    return true

/-- The replacement that does not advance the revision. -/
def replacePlayerContainersQuiet (playerId : ℕ) (containers : PlayerContainers) : WorldM Bool := do
  let _ ← requirePlayer playerId
  let current ← playerContainers playerId
  if current = containers then return false
  else
    storeContainers playerId containers
    return true

section Replacements

variable {w : WorldState} {p : ℕ} {player : Player}

theorem replacePlayerEquipment_run {e : PlayerEquipment} (hplayer : w.players[p]? = some player)
    (he : w.playerEquipments[p]? = some e) (e' : PlayerEquipment) :
    replacePlayerEquipment p e' w = if e = e' then (.ok false, w) else
      (.ok true, (w.putEquipment p e').markChanged) := by
  unfold replacePlayerEquipment
  rw [bind_of_ok (requirePlayer_eq_ok.mpr ⟨hplayer, rfl⟩),
    bind_of_ok (playerEquipment_eq_ok.mpr ⟨he, rfl⟩)]
  split
  · rfl
  · rfl

theorem replacePlayerContainers_run {cs : PlayerContainers} (hplayer : w.players[p]? = some player)
    (hcs : w.playerContainers[p]? = some cs) (cs' : PlayerContainers) :
    replacePlayerContainers p cs' w = if cs = cs' then (.ok false, w) else
      (.ok true, (w.putContainers p cs').markChanged) := by
  unfold replacePlayerContainers
  rw [bind_of_ok (requirePlayer_eq_ok.mpr ⟨hplayer, rfl⟩),
    bind_of_ok (playerContainers_eq_ok.mpr ⟨hcs, rfl⟩)]
  split
  · rfl
  · rfl

end Replacements

/-- Take a player out of the world.  An open trade of the player stays in the table. -/
def removePlayer (playerId : ℕ) : WorldM Player := do
  let player ← requirePlayer playerId
  write fun w => { w with
    players := w.players.erase playerId
    playerRespawnStates := w.playerRespawnStates.erase playerId
    playerEquipments := w.playerEquipments.erase playerId
    playerContainers := w.playerContainers.erase playerId }
  markChanged
  return player

end World

/-! ### Events -/

/-- One step of the world. -/
inductive WorldEvent where
  | trade (operation : TradeOperation)
  | transfer (playerId : ℕ) (transfer : InventoryTransfer)
  | replaceEquipment (playerId : ℕ) (equipment : PlayerEquipment)
  | replaceContainers (playerId : ℕ) (containers : PlayerContainers)
  | replaceContainersQuiet (playerId : ℕ) (containers : PlayerContainers)
  | remove (playerId : ℕ)

namespace WorldEvent

open World WorldState

def perform : WorldEvent → WorldM Unit
  | trade operation => operation.perform
  | transfer playerId t => do let _ ← t.perform playerId
  | replaceEquipment playerId equipment => do let _ ← replacePlayerEquipment playerId equipment
  | replaceContainers playerId containers => do let _ ← replacePlayerContainers playerId containers
  | replaceContainersQuiet playerId containers => do
    let _ ← replacePlayerContainersQuiet playerId containers
  | remove playerId => do let _ ← removePlayer playerId

variable {w w' : WorldState}

theorem keeps_replacePlayerEquipment (p : ℕ) (e : PlayerEquipment) :
    Keeps activeTrades (replacePlayerEquipment p e) := by
  refine .bind (ReadOnly.readOr _ _).keeps fun _ => ?_
  refine .bind (ReadOnly.readOr _ _).keeps fun current => ?_
  split
  · exact .pure false
  · exact .bind (.write fun _ => rfl) fun _ => .bind (.write fun _ => rfl) fun _ => .pure true

theorem keeps_replacePlayerContainers (p : ℕ) (cs : PlayerContainers) :
    Keeps activeTrades (replacePlayerContainers p cs) := by
  refine .bind (ReadOnly.readOr _ _).keeps fun _ => ?_
  refine .bind (ReadOnly.readOr _ _).keeps fun current => ?_
  split
  · exact .pure false
  · exact .bind (.write fun _ => rfl) fun _ => .bind (.write fun _ => rfl) fun _ => .pure true

theorem keeps_replacePlayerContainersQuiet (p : ℕ) (cs : PlayerContainers) :
    Keeps activeTrades (replacePlayerContainersQuiet p cs) := by
  refine .bind (ReadOnly.readOr _ _).keeps fun _ => ?_
  refine .bind (ReadOnly.readOr _ _).keeps fun current => ?_
  split
  · exact .pure false
  · exact .bind (.write fun _ => rfl) fun _ => .pure true

theorem keeps_removePlayer (p : ℕ) : Keeps activeTrades (removePlayer p) := by
  refine .bind (ReadOnly.readOr _ _).keeps fun player => ?_
  exact .bind (.write fun _ => rfl) fun _ => .bind (.write fun _ => rfl) fun _ => .pure player

/-- A transfer, accepted or refused, leaves the trades alone. -/
theorem keeps_transfer (p : ℕ) (t : InventoryTransfer) : Keeps activeTrades (t.perform p) := by
  intro w
  rcases hrun : t.perform p w with ⟨e | r, w'⟩
  · by_cases ht : ∃ id i j dst, t = .contentItemToContainer id i j dst
    · obtain ⟨id, i, j, dst, rfl⟩ := ht
      by_cases hstrand : ∃ cs, w.playerContainers[p]? = some cs ∧
          InventoryTransfer.StrandsContent cs id i j dst
      · obtain ⟨cs, hcs, c, x, items, target, hc, hx, htarget, hparent⟩ := hstrand
        have hlost := InventoryTransfer.contentItemToContainer_strands hcs hc hx htarget hparent
        rw [hrun] at hlost
        cases hlost
        rfl
      · have hno := fun cs hcs hs => hstrand ⟨cs, hcs, hs⟩
        rw [InventoryTransfer.contentItemToContainer_error hno hrun]
    · have hatomic := InventoryTransfer.atomic_perform (p := p) (t := t)
        fun id i j dst heq => ht ⟨id, i, j, dst, heq⟩
      rw [hatomic w e w' hrun]
  · obtain ⟨e, cs, -, hupdate⟩ := InventoryTransfer.perform_transferred hrun
    exact hupdate.trades

/-- **Only trade operations touch the table of open trades.** -/
theorem perform_trades {ev : WorldEvent} (h : ∀ op, ev ≠ trade op) (w : WorldState) :
    (ev.perform w).2.activeTrades = w.activeTrades := by
  have hend {α : Type} {m : WorldM α} (hm : Keeps activeTrades m) :
      Keeps activeTrades (m >>= fun _ => (pure () : WorldM Unit)) := hm.bind fun _ => .pure ()
  cases ev with
  | trade op => exact absurd rfl (h op)
  | transfer p t => exact hend (keeps_transfer p t) w
  | replaceEquipment p e => exact hend (keeps_replacePlayerEquipment p e) w
  | replaceContainers p cs => exact hend (keeps_replacePlayerContainers p cs) w
  | replaceContainersQuiet p cs => exact hend (keeps_replacePlayerContainersQuiet p cs) w
  | remove p => exact hend (keeps_removePlayer p) w

end WorldEvent

/-! ### Which trade operations touch containers -/

namespace TradeOperation

open World

variable {γ : Type} {f : WorldState → γ}

theorem keeps_requireTrader (p : ℕ) : Keeps f (requireTrader p) := (readOnly_requireTrader p).keeps

/-- **Only an execution touches anything but the table of trades.** -/
theorem perform_keeps (hf : ∀ w trades, f (w.putTrades trades) = f w) {op : TradeOperation}
    (h : ∀ p, op ≠ execute p) : Keeps f op.perform := by
  cases op with
  | openTrade a b =>
    refine .bind ?_ fun _ => .pure ()
    unfold openPlayerTrade
    split
    · exact .fail _
    · refine .bind (keeps_requireTrader a) fun _ => .bind (keeps_requireTrader b) fun _ => ?_
      refine .bind (ReadOnly.read _).keeps fun trades => ?_
      split
      · exact .fail _
      · refine .bind (ReadOnly.read _).keeps fun tick => ?_
        exact .bind (.write fun _ => hf _ _) fun _ => (ReadOnly.readOr _ _).keeps
  | stage p r =>
    refine .bind ?_ fun _ => .pure ()
    refine .bind (readOnly_activeTradeEntry p).keeps fun s => ?_
    simp only
    split
    · exact .fail _
    · split
      · exact .fail _
      · exact .bind (.write fun _ => hf _ _) fun _ => .pure _
  | unstage p r =>
    refine .bind (readOnly_activeTradeEntry p).keeps fun s => ?_
    simp only
    split
    · exact .fail _
    · exact .write fun _ => hf _ _
  | accept p =>
    refine .bind ?_ fun _ => .pure ()
    refine .bind (readOnly_activeTradeEntry p).keeps fun s => ?_
    exact .bind (.write fun _ => hf _ _) fun _ => .pure _
  | cancel p =>
    refine .bind ?_ fun _ => .pure ()
    refine .bind (ReadOnly.read _).keeps fun trades => ?_
    split
    · exact .bind (.write fun _ => hf _ _) fun _ => .pure _
    · split
      · exact .pure _
      · exact .bind (.write fun _ => hf _ _) fun _ => .pure _
  | execute p => exact absurd rfl (h p)

theorem perform_containers {op : TradeOperation} (h : ∀ p, op ≠ execute p) :
    Keeps WorldState.playerContainers op.perform := perform_keeps (fun _ _ => rfl) h

/-- No trade operation touches equipment. -/
theorem perform_equipments (op : TradeOperation) : Keeps WorldState.playerEquipments op.perform := by
  by_cases h : ∃ p, op = execute p
  · obtain ⟨p, rfl⟩ := h
    refine .bind ?_ fun _ => .pure ()
    refine .bind (ReadOnly.readOr _ _).keeps fun session => ?_
    split
    · exact .fail _
    · refine .bind (keeps_exchangeOffers (fun _ _ _ => rfl) session) fun out => ?_
      refine .bind (.write fun _ => rfl) fun _ => .bind (.write fun _ => rfl) fun _ => ?_
      exact .bind (.write fun _ => rfl) fun _ => .pure _
  · exact perform_keeps (fun _ _ => rfl) fun p heq => h ⟨p, heq⟩

end TradeOperation

end ForgottenEngine
