import ForgottenEngine.WorldEvents

/-!
# What inventories and trades leave alone

An `InventoryEvent` moves items, and opens, changes and ends trades.  It registers nobody and
removes nobody, nobody dies of it, and it makes entries for registered players only.

* `InventoryEvent.frame` — every event, accepted or refused, is an `InventoryFrame` step.
-/

namespace ForgottenEngine

open Fallible

/-- Throw the result away. -/
def void {ε σ α : Type} (m : Fallible ε σ α) : Fallible ε σ Unit := do let _ ← m

@[simp] theorem leaves_void {ε σ α : Type} {Q : σ → Prop} {m : Fallible ε σ α} {s : σ} :
    Leaves Q (void m) s ↔ Leaves Q m s := by
  simp only [Leaves, void, bind_apply]
  rcases m s with ⟨e | a, t⟩ <;> rfl

/-- Trades and the inventories of registered players. -/
inductive InventoryEvent where
  | trade (operation : TradeOperation)
  | transfer (playerId : ℕ) (transfer : InventoryTransfer)
  | replaceEquipment (playerId : ℕ) (equipment : PlayerEquipment)
  | replaceContainers (playerId : ℕ) (containers : PlayerContainers)
  | replaceContainersQuiet (playerId : ℕ) (containers : PlayerContainers)

def InventoryEvent.perform : InventoryEvent → WorldM Unit
  | trade operation => operation.perform
  | transfer playerId t => void (t.perform playerId)
  | replaceEquipment playerId equipment => void (World.replacePlayerEquipment playerId equipment)
  | replaceContainers playerId containers => void (World.replacePlayerContainers playerId containers)
  | replaceContainersQuiet playerId containers =>
    void (World.replacePlayerContainersQuiet playerId containers)

namespace WorldState

/-- The player is in the world. -/
def IsRegistered (w : WorldState) (playerId : ℕ) : Prop := ∃ player, w.players[playerId]? = some player

/-- The player has an inventory. -/
def Holds (w : WorldState) (playerId : ℕ) : Prop :=
  (∃ e, w.playerEquipments[playerId]? = some e) ∨ ∃ cs, w.playerContainers[playerId]? = some cs

/-- An open trade is the player's. -/
def Trades (w : WorldState) (playerId : ℕ) : Prop :=
  ∃ k s, w.activeTrades.get? k = some s ∧ s.involves playerId

end WorldState

/-- What an event on inventories and trades leaves of the rest. -/
structure InventoryFrame (w w' : WorldState) : Prop where
  players : w'.players = w.players
  respawn : w'.playerRespawnStates = w.playerRespawnStates
  tick : w'.tick = w.tick
  holders : ∀ p, w'.Holds p → w.Holds p ∨ w.IsRegistered p
  traders : ∀ p, w'.Trades p → w.Trades p ∨ w.IsRegistered p

namespace InventoryFrame

variable {w w' : WorldState} {p : ℕ}

theorem refl (w : WorldState) : InventoryFrame w w :=
  ⟨rfl, rfl, rfl, fun _ h => .inl h, fun _ h => .inl h⟩

theorem changed (h : InventoryFrame w w') : InventoryFrame w w'.markChanged :=
  ⟨h.players, h.respawn, h.tick, h.holders, h.traders⟩

/-- A write of containers for somebody who has some. -/
theorem putContainers (h : InventoryFrame w w') {old : PlayerContainers} (cs : PlayerContainers)
    (hold : w'.playerContainers[p]? = some old) : InventoryFrame w (w'.putContainers p cs) where
  players := h.players
  respawn := h.respawn
  tick := h.tick
  holders := by
    intro q hq
    refine h.holders q ?_
    rcases hq with hq | ⟨cs', hq⟩
    · exact .inl hq
    · rw [WorldState.putContainers_get] at hq
      split at hq
      · rename_i heq
        exact .inr ⟨old, heq ▸ hold⟩
      · exact .inr ⟨cs', hq⟩
  traders := h.traders

/-- A write of equipment for somebody registered. -/
theorem putEquipment (h : InventoryFrame w w') (e : PlayerEquipment) (hp : w.IsRegistered p) :
    InventoryFrame w (w'.putEquipment p e) where
  players := h.players
  respawn := h.respawn
  tick := h.tick
  holders := by
    intro q hq
    rcases hq with ⟨e', hq⟩ | hq
    · rw [WorldState.putEquipment_get] at hq
      split at hq
      · rename_i heq
        exact .inr (heq ▸ hp)
      · exact h.holders q (.inl ⟨e', hq⟩)
    · exact h.holders q (.inr hq)
  traders := h.traders

/-- An accepted transfer of somebody who has an inventory or is registered. -/
theorem of_update {e : PlayerEquipment} {cs : PlayerContainers} (h : w.InventoryUpdate p e cs w')
    (hp : w.Holds p ∨ w.IsRegistered p) : InventoryFrame w w' where
  players := h.players
  respawn := h.respawn
  tick := h.tick
  holders := by
    intro q hq
    by_cases heq : q = p
    · rwa [heq]
    · unfold WorldState.Holds at hq
      rw [h.otherEquipment q heq, h.otherContainers q heq] at hq
      exact .inl hq
  traders := by
    intro q hq
    unfold WorldState.Trades at hq
    rw [h.trades] at hq
    exact .inl hq

end InventoryFrame

/-! ### Transfers -/

namespace InventoryTransfer

open World

variable {w w' : WorldState} {p : ℕ}

/-- A run that begins with a lookup has found it. -/
theorem found {α β : Type} {f : WorldState → Option α} {e : CoreError} {k : α → WorldM β} {b : β}
    (h : (readOr f e >>= k) w = (.ok b, w')) : ∃ a, f w = some a := by
  rw [bind_eq_ok] at h
  obtain ⟨a, t, ha, -⟩ := h
  exact ⟨a, (readOr_eq_ok.mp ha).1⟩

/-- A transfer looks up the player or one of the inventories before anything else. -/
theorem perform_known {t : InventoryTransfer} {r : Option ItemInstance}
    (h : t.perform p w = (.ok r, w')) : w.Holds p ∨ w.IsRegistered p := by
  cases t <;> obtain ⟨_, _, h, -⟩ := bind_eq_ok.mp h
  case swapEquipmentItems => exact .inl (.inl (found (guard_eq_ok.mp h).2))
  case containerStackToContainer => exact .inl (.inr (found (guard_eq_ok.mp h).2))
  all_goals
    first
    | exact .inl (.inl (found h))
    | exact .inl (.inr (found h))
    | exact .inr (found h)

theorem frame (p : ℕ) (t : InventoryTransfer) (w : WorldState) :
    InventoryFrame w (t.perform p w).2 := by
  rcases hrun : t.perform p w with ⟨e | r, w'⟩
  · by_cases ht : ∃ id i j dst, t = .contentItemToContainer id i j dst
    · obtain ⟨id, i, j, dst, rfl⟩ := ht
      by_cases hstrand : ∃ cs, w.playerContainers[p]? = some cs ∧ StrandsContent cs id i j dst
      · -- the one refusal that has written: the opened container is stored
        obtain ⟨cs, hcs, c, x, items, target, hc, hx, htarget, hparent⟩ := hstrand
        have hlost := contentItemToContainer_strands hcs hc hx htarget hparent
        rw [hrun] at hlost
        cases hlost
        exact (InventoryFrame.refl w).putContainers _ hcs
      · have hno := fun cs hcs hs => hstrand ⟨cs, hcs, hs⟩
        rw [contentItemToContainer_error hno hrun]
        exact .refl w
    · have hatomic := atomic_perform (p := p) (t := t)
        fun id i j dst heq => ht ⟨id, i, j, dst, heq⟩
      rw [hatomic w e w' hrun]
      exact .refl w
  · obtain ⟨e, cs, -, hupdate⟩ := perform_transferred hrun
    exact .of_update hupdate (perform_known hrun)

end InventoryTransfer

/-! ### Trades -/

namespace World

/-- A property that an operation and its cleanup keep is kept by both together. -/
theorem stays_onError {α : Type} {P : WorldState → Prop} {m : WorldM α} {c : WorldM Unit}
    (hm : Stays P m) (hc : Stays P c) : Stays P (onError m c) := by
  intro w hw
  have h : P (m w).2 := hm w hw
  unfold Leaves onError
  rcases hrun : m w with ⟨e | a, t⟩ <;> rw [hrun] at h
  · exact hc t h
  · exact h

section Stays

variable {P : WorldState → Prop}
  (hP : ∀ w p cs old, w.playerContainers[p]? = some old → P w → P (w.putContainers p cs))
include hP

theorem stays_restoreRemoved (owner : ℕ) (removed : List (TradeItemReference × ItemInstance)) :
    Stays P (restoreRemoved owner removed) := by
  induction removed with
  | nil => exact .pure ()
  | cons x rest ih =>
    intro w hw
    show Leaves P (_ >>= _) w
    rw [leaves_read_bind]
    cases hcs : w.playerContainers[owner]? with
    | none => exact ih w hw
    | some cs => exact ih _ (hP w owner _ cs hcs hw)

theorem stays_removeOffered (owner : ℕ) (resolved : List (TradeItemReference × ItemInstance)) :
    ∀ removed, Stays P (removeOffered owner removed resolved) := by
  induction resolved with
  | nil => exact fun removed => .pure removed
  | cons x resolved ih =>
    intro removed w hw
    show Leaves P (_ >>= _) w
    rw [leaves_readOr_bind]
    refine ⟨fun _ => hw, fun cs hcs => ?_⟩
    rw [leaves_ofOption_bind]
    refine ⟨fun _ => hw, fun container _ => ?_⟩
    split
    · exact ih _ _ (hP w owner _ cs hcs hw)
    · exact Stays.bind (stays_restoreRemoved hP owner _) (fun _ => (ReadOnly.fail _).stays) w hw

theorem stays_deliver (owner : ℕ) (items : List ItemInstance) : Stays P (deliver owner items) := by
  induction items with
  | nil => exact .pure ()
  | cons x items ih =>
    intro w hw
    show Leaves P (_ >>= _) w
    rw [leaves_read_bind]
    cases hcs : w.playerContainers[owner]? with
    | none => exact hw
    | some cs =>
      have hw' := hP w owner (cs.placeDelivered x cs.ids).2 cs hcs hw
      show Leaves P (if (cs.placeDelivered x cs.ids).1 then _ else _) _
      rw [leaves_ite]
      exact ⟨fun _ => ih _ hw', fun _ => hw'⟩

theorem stays_exchangeOffers (session : PlayerTradeSession) :
    Stays P (exchangeOffers session) := by
  refine .bind (readOnly_resolveOffered _ _).stays fun _ => ?_
  refine .bind (readOnly_resolveOffered _ _).stays fun _ => ?_
  refine .bind (stays_removeOffered hP _ _ _) fun removed => ?_
  refine .bind ?_ fun _ => ?_
  · exact stays_onError (stays_removeOffered hP _ _ _) (stays_restoreRemoved hP _ _)
  · exact .bind (stays_deliver hP _ _) fun _ => .bind (stays_deliver hP _ _) fun _ => .pure _

end Stays

end World

namespace TradeOperation

open World

variable {w w' : WorldState}

/-- The trades a change of the table leaves are between players who traded before, or who are
registered. -/
theorem TableChange.traders {op : TradeOperation} {trades : TradeTable}
    (h : TableChange w op trades) {k p : ℕ} {s : PlayerTradeSession}
    (hs : trades.get? k = some s) (hp : s.involves p) : w.Trades p ∨ w.IsRegistered p := by
  have hkept {x : PlayerTradeSession} (hx : w.activeTrades.get? k = some x)
      (hinv : x.involves p) : w.Trades p ∨ w.IsRegistered p := .inl ⟨k, x, hx, hinv⟩
  -- a session written back has the parties it had
  have hstored {x y : PlayerTradeSession} {q : ℕ} (hx : w.playerTrade q = some x)
      (hparties : y.involves p ↔ x.involves p)
      (hs : (w.activeTrades.insert y).get? k = some s) : w.Trades p ∨ w.IsRegistered p := by
    rw [KeyedMap.get?_insert] at hs
    split at hs
    · cases hs
      exact .inl ⟨_, x, (WorldState.playerTrade_eq_some hx).1, hparties.mp hp⟩
    · exact hkept hs hp
  have herased {i : ℕ} {m : TradeTable} (hm : (m.erase i).get? k = some s) : m.get? k = some s := by
    rw [KeyedMap.get?_erase] at hm
    split at hm
    · cases hm
    · exact hm
  cases h with
  | opened hab hadm =>
    rw [KeyedMap.get?_insert] at hs
    split at hs
    · cases hs
      exact .inr (hadm.registered p (hp.imp Eq.symm Eq.symm))
    · exact hkept hs hp
  | staged hx => exact hstored hx (by simp [PlayerTradeSession.involves]) hs
  | unstaged hx => exact hstored hx (by simp [PlayerTradeSession.involves]) hs
  | accepted hx => exact hstored hx (by simp [PlayerTradeSession.involves]) hs
  | cancelled => exact hkept (herased hs) hp
  | nothingCancelled => exact hkept hs hp
  | executed => exact hkept (herased (herased hs)) hp

theorem traders_perform (op : TradeOperation) (w : WorldState) {p : ℕ}
    (h : (op.perform w).2.Trades p) : w.Trades p ∨ w.IsRegistered p := by
  rcases hrun : op.perform w with ⟨e | u, w'⟩ <;> rw [hrun] at h
  · have hsame := perform_error hrun
    unfold WorldState.Trades at h
    rw [show (Except.error e, w').2.activeTrades = w.activeTrades from hsame] at h
    exact .inl h
  · obtain ⟨k, s, hs, hp⟩ := h
    exact (perform_ok hrun).traders hs hp

/-- Containers are written for somebody who has some. -/
theorem holders_perform (op : TradeOperation) (w : WorldState) :
    Leaves (fun w' => ∀ p, w'.Holds p → w.Holds p) op.perform w := by
  by_cases hexec : ∃ p, op = execute p
  · obtain ⟨p, rfl⟩ := hexec
    have hput (w' : WorldState) (q : ℕ) (cs old : PlayerContainers)
        (hold : w'.playerContainers[q]? = some old) (hw' : ∀ p, w'.Holds p → w.Holds p) :
        ∀ p, (w'.putContainers q cs).Holds p → w.Holds p := by
      intro r hr
      refine hw' r ?_
      rcases hr with hr | ⟨cs', hr⟩
      · exact .inl hr
      · rw [WorldState.putContainers_get] at hr
        split at hr
        · rename_i heq
          exact .inr ⟨old, heq ▸ hold⟩
        · exact .inr ⟨cs', hr⟩
    have hstays : Stays (fun w' => ∀ p, w'.Holds p → w.Holds p) (execute p).perform := by
      refine .bind ?_ fun _ => .pure ()
      refine .bind (ReadOnly.readOr _ _).stays fun session => ?_
      split
      · exact (ReadOnly.fail _).stays
      · refine .bind (stays_exchangeOffers hput session) fun _ => ?_
        exact fun w' hw' => hw'
    exact hstays w fun _ h => h
  · have hne : ∀ p, op ≠ execute p := fun p heq => hexec ⟨p, heq⟩
    have hkeep := perform_keeps (f := fun w => (w.playerEquipments, w.playerContainers))
      (fun _ _ => rfl) hne w
    obtain ⟨hequipments, hcontainers⟩ := Prod.mk.inj hkeep
    intro p h
    unfold WorldState.Holds at h ⊢
    rwa [hequipments, hcontainers] at h

theorem frame (op : TradeOperation) (w : WorldState) : InventoryFrame w (op.perform w).2 := by
  have hkeep {γ : Type} {f : WorldState → γ} (htrades : ∀ w trades, f (w.putTrades trades) = f w)
      (hcontainers : ∀ w p cs, f (w.putContainers p cs) = f w)
      (hchanged : ∀ w, f w.markChanged = f w) : Keeps f op.perform := by
    by_cases hexec : ∃ p, op = execute p
    · obtain ⟨p, rfl⟩ := hexec
      refine .bind ?_ fun _ => .pure ()
      refine .bind (ReadOnly.readOr _ _).keeps fun session => ?_
      split
      · exact .fail _
      · refine .bind (keeps_exchangeOffers hcontainers session) fun _ => ?_
        refine .bind (.write fun _ => htrades _ _) fun _ => ?_
        refine .bind (.write fun _ => htrades _ _) fun _ => ?_
        exact .bind (.write fun _ => hchanged _) fun _ => .pure _
    · exact perform_keeps htrades fun p heq => hexec ⟨p, heq⟩
  exact {
    players := hkeep (f := WorldState.players) (fun _ _ => rfl) (fun _ _ _ => rfl) (fun _ => rfl) w
    respawn := hkeep (f := WorldState.playerRespawnStates) (fun _ _ => rfl) (fun _ _ _ => rfl)
      (fun _ => rfl) w
    tick := hkeep (f := WorldState.tick) (fun _ _ => rfl) (fun _ _ _ => rfl) (fun _ => rfl) w
    holders := fun p h => .inl (holders_perform op w p h)
    traders := fun _ h => traders_perform op w h }

end TradeOperation

/-! ### All events -/

namespace InventoryEvent

open World

/-- **What every event on inventories and trades leaves alone.** -/
theorem frame (event : InventoryEvent) (w : WorldState) : InventoryFrame w (event.perform w).2 := by
  cases event with
  | trade op => exact op.frame w
  | transfer p t =>
    show Leaves (InventoryFrame w) (void _) w
    rw [leaves_void]
    exact t.frame p w
  | replaceEquipment p e =>
    show Leaves (InventoryFrame w) (void _) w
    simp only [leaves_void, replacePlayerEquipment, World.requirePlayer, playerEquipment,
      storeEquipment, World.markChanged, leaves_readOr_bind, leaves_ite, leaves_write_bind,
      leaves_pure]
    refine ⟨fun _ => .refl w, fun player hplayer => ⟨fun _ => .refl w, fun _ _ => ?_⟩⟩
    exact ⟨fun _ => .refl w, fun _ => ((InventoryFrame.refl w).putEquipment e ⟨player, hplayer⟩).changed⟩
  | replaceContainers p cs =>
    show Leaves (InventoryFrame w) (void _) w
    simp only [leaves_void, replacePlayerContainers, World.requirePlayer, playerContainers,
      storeContainers, World.markChanged, leaves_readOr_bind, leaves_ite, leaves_write_bind,
      leaves_pure]
    refine ⟨fun _ => .refl w, fun _ _ => ⟨fun _ => .refl w, fun old hold => ?_⟩⟩
    exact ⟨fun _ => .refl w, fun _ => ((InventoryFrame.refl w).putContainers cs hold).changed⟩
  | replaceContainersQuiet p cs =>
    show Leaves (InventoryFrame w) (void _) w
    simp only [leaves_void, replacePlayerContainersQuiet, World.requirePlayer, playerContainers,
      storeContainers, leaves_readOr_bind, leaves_ite, leaves_write_bind, leaves_pure]
    refine ⟨fun _ => .refl w, fun _ _ => ⟨fun _ => .refl w, fun old hold => ?_⟩⟩
    exact ⟨fun _ => .refl w, fun _ => (InventoryFrame.refl w).putContainers cs hold⟩

end InventoryEvent

end ForgottenEngine
