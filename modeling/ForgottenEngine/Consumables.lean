import ForgottenEngine.ClientActions
import ForgottenEngine.MapViewport
import ForgottenEngine.PlayerLife
import ForgottenEngine.WorldEvents
import ForgottenEngine.SharedMap
import ForgottenEngine.InventorySaves

/-!
# Eating and drinking

A client uses an item it owns: one in an equipment slot, or one in an open container.  An item with
a declared effect is used up by one unit, and the player is fed or healed.

The equipment is written to the shared world and to the database, the containers only to the
database.  So a unit eaten from a container is still there.

* `applyNativeOwnedConsumableUse` — one request of a client;
* `consumeUnit_slot`, `consumeUnit_content` — what the removal writes, for each kind of source;
* `updatePlayerVitals_spec`, `keeps_publishVitals` — what the effect writes.
-/

namespace ForgottenEngine

open Fallible

/-! ### What is consumed -/

/-- A declared effect; food opens a window of so many seconds. -/
structure ConsumableEffect where
  health : ℕ
  mana : ℕ
  regenerationSeconds : ℕ
deriving DecidableEq, Repr

/-- The vitals with what the effect restores, up to their maxima. -/
def ConsumableEffect.applyTo (effect : ConsumableEffect) (vitals : PlayerVitals) : PlayerVitals :=
  { vitals with
    health := if 0 < effect.health then
      min (min (vitals.health + effect.health) u16Max) vitals.maxHealth else vitals.health
    mana := if 0 < effect.mana then
      min (min (vitals.mana + effect.mana) u16Max) vitals.maxMana else vitals.mana }

/-- Where the consumed item is: the source keeps a slot and a container reference, one of them
empty. -/
inductive ConsumablePlace where
  | slot (slot : EquipmentSlot)
  | content (containerId childIndex : ℕ)
deriving DecidableEq

structure ConsumableSource where
  serverId : ℕ
  place : ConsumablePlace
deriving DecidableEq

/-- The item a position of the client stands for: bit 6 of `y` tells a container, by its number in
the low bits and the index in `z`, from a slot. -/
def consumableSource (w : GameWorld) (characterId : ℕ) (position : NativeOtClientPosition) :
    Option ConsumableSource :=
  if position.x ≠ 0xffff then none
  else if position.y &&& 0x40 = 0 then do
    let slot ← EquipmentSlot.fromCode position.y.toUInt8.toNat
    let equipment ← w.playerEquipments[characterId]?
    let item ← equipment.item slot
    some ⟨item.serverId, .slot slot⟩
  else do
    let containerId := (position.y &&& 0x0f).toNat
    let containers ← w.playerContainers[characterId]?
    let container ← containers.container containerId
    let item ← container.items.item position.z.toNat
    some ⟨item.serverId, .content containerId position.z.toNat⟩

/-- The equipment with one unit less in a slot. -/
def PlayerEquipment.withoutUnit (self : PlayerEquipment) (slot : EquipmentSlot) :
    PlayerEquipment :=
  match self.item slot with
  | none => self
  | some item =>
    if 1 < item.count then (self.equip slot { item with count := item.count - 1 }).2
    else self.without slot

/-! ### The session -/

inductive ConsumableFrame where
  | statusMessage (text : String)
  | creatureHealth (creatureId health maxHealth : ℕ)
deriving DecidableEq

inductive ConsumerError where
  | host (error : HostError)
  | invalidPlayerVitals
  /-- A frame that could not be encoded or written. -/
  | client
deriving DecidableEq

/-- What the session knows.  `writeFrame` encodes a frame for the client and writes it. -/
structure ConsumerContext where
  characterId : ℕ
  observedDead : Bool
  consumableEffects : Option (BTreeMap ℕ ConsumableEffect)
  writeFrame : ConsumableFrame → Except ConsumerError Unit

/-- The shared world with its epochs, the inventory tables, and the vitals in the rows of the
players. -/
structure ConsumerState where
  world : GameWorld
  equipmentEpoch : ℕ
  vitalsEpoch : ℕ
  observedVitalsEpoch : ℕ
  database : EngineDatabase
  storedVitals : BTreeMap ℕ PlayerVitals

abbrev ConsumerM (α : Type) := Fallible ConsumerError ConsumerState α

/-- How a request ends, by the outcome it logs; all but the first are `Handled`. -/
inductive ConsumableUse where
  | unhandled
  | deferredWhileDead
  | tooFull
  /-- The container or the item is not there any more. -/
  | vanished
  | consumed
deriving DecidableEq

def nativePlayerId (characterId : ℕ) : Except HostError ℕ :=
  if nativeOtclientPlayerIdEnd ≤ nativeOtclientPlayerIdStart + characterId then
    .error (.invalidConfiguration "character ID exceeds the native player-ID range")
  else .ok (nativeOtclientPlayerIdStart + characterId)

namespace Consumer

/-- A method of the shared world under its lock. -/
def onWorld {α : Type} (method : GameM α) : ConsumerM α := fun s =>
  ((method s.world).1.mapError fun error => .host (.core error),
    { s with world := (method s.world).2 })

def unknownPlayer (ctx : ConsumerContext) : ConsumerError :=
  .host (.core (.unknownPlayer ctx.characterId))

/-- One transaction of the database. -/
def persist (save : EngineDatabase → Except PersistenceError EngineDatabase) : ConsumerM Unit := do
  let database ← read ConsumerState.database
  let database ← ofExcept ((save database).mapError fun error => .host (.persistence error))
  write fun s => { s with database }

/-- `update_player_vitals` of the database. -/
def updateStoredVitals (characterId : ℕ) (vitals : PlayerVitals) : ConsumerM Unit := do
  if ¬vitals.isValid then fail .invalidPlayerVitals
  else
    let _ ← readOr (·.storedVitals[characterId]?)
      (.host (.persistence (.unknownPlayer characterId)))
    write fun s => { s with storedVitals := s.storedVitals.insert characterId vitals }

/-- The food window of an effect that opens one: granted, unless the player is full. -/
def grantFood (ctx : ConsumerContext) (effect : ConsumableEffect) : ConsumerM Bool :=
  if 0 < effect.regenerationSeconds then
    onWorld (Game.grantPlayerFoodWindow ctx.characterId effect.regenerationSeconds)
  else return true

/-- Use up one unit of the item; `false` when it is not there. -/
def consumeUnit (ctx : ConsumerContext) : ConsumablePlace → ConsumerM Bool
  | .slot slot => do
    let equipment ← readOr (·.world.playerEquipments[ctx.characterId]?) (unknownPlayer ctx)
    let equipment := equipment.withoutUnit slot
    let changed ← onWorld (Game.inventory (World.replacePlayerEquipment ctx.characterId equipment))
    if changed then write fun s => { s with equipmentEpoch := s.equipmentEpoch + 1 }
    persist (·.replacePlayerEquipment ctx.characterId equipment)
    return true
  | .content containerId childIndex => do
    let containers ← readOr (·.world.playerContainers[ctx.characterId]?) (unknownPlayer ctx)
    match containers.remove containerId with
    | none => return false
    | some (container, rest) =>
      match container.items.consumeItemUnit childIndex with
      | none => return false
      | some items => do
        let (_, containers) ← ofExcept ((rest.insert { container with items }).mapError
          fun error => .host (.core error))
        persist (·.replacePlayerContainers ctx.characterId containers)
        return true

/-- Vitals that are in the world are stored, and the client is told. -/
def publishVitals (ctx : ConsumerContext) (vitals : PlayerVitals) : ConsumerM Unit := do
  write fun s => { s with vitalsEpoch := s.vitalsEpoch + 1 }
  updateStoredVitals ctx.characterId vitals
  let selfNativeId ← ofExcept ((nativePlayerId ctx.characterId).mapError .host)
  ofExcept (ctx.writeFrame (.creatureHealth selfNativeId vitals.health vitals.maxHealth))
  write fun s => { s with observedVitalsEpoch := s.vitalsEpoch }

/-- One unit is used up, then its effect is given. -/
def consume (ctx : ConsumerContext) (place : ConsumablePlace) (effect : ConsumableEffect) :
    ConsumerM ConsumableUse := do
  let vitals ← readOr (·.world.playerVitals[ctx.characterId]?) (unknownPlayer ctx)
  let removed ← consumeUnit ctx place
  if ¬removed then return .vanished
  else
    let vitals := effect.applyTo vitals
    onWorld (Game.updatePlayerVitals ctx.characterId vitals)
    publishVitals ctx vitals
    return .consumed

/-- What the position stands for, if it has a declared effect. -/
def consumable (ctx : ConsumerContext) (position : NativeOtClientPosition) (w : GameWorld) :
    Option (ConsumablePlace × ConsumableEffect) := do
  let source ← consumableSource w ctx.characterId position
  let effects ← ctx.consumableEffects
  let effect ← effects[source.serverId]?
  some (source.place, effect)

def applyNativeOwnedConsumableUse (ctx : ConsumerContext) (position : NativeOtClientPosition) :
    ConsumerM ConsumableUse := do
  if position.x ≠ 0xffff then return .unhandled
  else if ctx.observedDead then return .deferredWhileDead
  else
    let target ← read fun s => consumable ctx position s.world
    match target with
    | none => return .unhandled
    | some (place, effect) => do
      let granted ← grantFood ctx effect
      if ¬granted then
        ofExcept (ctx.writeFrame (.statusMessage "You are full."))
        return .tooFull
      else consume ctx place effect

/-! ### The vitals -/

/-- The parts of the world that the effects leave alone. -/
def belongings (w : GameWorld) :=
  (w.players, w.playerEquipments, w.playerContainers, w.playerFoodWindows, w.tick)

section Vitals

variable {ctx : ConsumerContext} {s : ConsumerState} {vitals current : PlayerVitals}

theorem updatePlayerVitals_spec {w : GameWorld} {p : ℕ} (hplayer : w.IsRegistered p)
    (hvitals : w.playerVitals[p]? = some current) :
    ((Game.updatePlayerVitals p vitals w).1 = .ok () ↔ vitals.isValid = true) ∧
    (Game.updatePlayerVitals p vitals w).2.playerVitals[p]? =
      some (if vitals.isValid then vitals else current) ∧
    belongings (Game.updatePlayerVitals p vitals w).2 = belongings w := by
  unfold Game.updatePlayerVitals
  by_cases hvalid : vitals.isValid = true
  · rw [if_neg (not_not_intro hvalid), if_pos hvalid, bind_apply,
      Game.replaceEntry_run hplayer hvitals]
    by_cases hsame : current = vitals
    · rw [if_pos hsame]
      subst hsame
      exact ⟨by simp [hvalid], hvitals, rfl⟩
    · rw [if_neg hsame]
      refine ⟨by simp [hvalid], ?_, rfl⟩
      show (w.playerVitals.insert p vitals)[p]? = some vitals
      simp
  · rw [if_pos hvalid, if_neg hvalid]
    exact ⟨by simp [hvalid], hvitals, rfl⟩

theorem updatePlayerVitals_unregistered {w : GameWorld} {p : ℕ} (hplayer : ¬w.IsRegistered p) :
    (Game.updatePlayerVitals p vitals w).1 ≠ .ok () ∧
      (Game.updatePlayerVitals p vitals w).2 = w := by
  have hnone : w.players[p]? = none := by
    cases hp : w.players[p]? with
    | none => rfl
    | some player => exact absurd ⟨player, hp⟩ hplayer
  have hrequire : Game.requirePlayer p w = (.error (.unknownPlayer p), w) :=
    readOr_of_none _ hnone
  unfold Game.updatePlayerVitals
  split
  · simp
  · unfold Game.replaceEntry
    rw [bind_of_error (bind_of_error hrequire)]
    simp

/-- The state but for the stored vitals and the epochs. -/
def kept (s : ConsumerState) := (s.world, s.database)

theorem keeps_publishVitals : Keeps kept (publishVitals ctx vitals) := by
  refine Keeps.bind (Keeps.write fun _ => rfl) fun _ => Keeps.bind ?_ fun _ => ?_
  · exact Keeps.ite (Keeps.fail _)
      (Keeps.bind (ReadOnly.readOr _ _).keeps fun _ => Keeps.write fun _ => rfl)
  · exact Keeps.bind (ReadOnly.ofExcept _).keeps fun _ =>
      Keeps.bind (ReadOnly.ofExcept _).keeps fun _ => Keeps.write fun _ => rfl

end Vitals

/-! ### The removal -/

section Removal

variable {ctx : ConsumerContext} {s : ConsumerState} {slot : EquipmentSlot} {id index : ℕ}
  {e : PlayerEquipment} {cs : PlayerContainers} {c : PlayerContainer} {item : ItemInstance}

/-- The stack with one unit less; nothing is left of a last unit. -/
def lessOne (item : ItemInstance) : Option ItemInstance :=
  if 1 < item.count then some { item with count := item.count - 1 } else none

theorem item_withoutUnit (h : e.item slot = some item) (other : EquipmentSlot) :
    (e.withoutUnit slot).item other = if slot = other then lessOne item else e.item other := by
  unfold PlayerEquipment.withoutUnit lessOne
  rw [h]
  dsimp only
  by_cases hcount : 1 < item.count
  · rw [if_pos hcount, if_pos hcount]
    exact PlayerEquipment.item_equip e slot _ other
  · rw [if_neg hcount, if_neg hcount]
    exact PlayerEquipment.item_without e slot other

/-- The parts of the world beside the equipment. -/
def besides (w : GameWorld) :=
  (w.players, w.playerContainers, w.playerVitals, w.playerFoodWindows, w.tick)

theorem replacePlayerEquipment_spec {w : GameWorld} {p : ℕ} (hplayer : w.IsRegistered p)
    (he : w.playerEquipments[p]? = some e) (e' : PlayerEquipment) :
    ∃ changed w', Game.inventory (World.replacePlayerEquipment p e') w = (.ok changed, w') ∧
      w'.playerEquipments[p]? = some e' ∧ besides w' = besides w := by
  obtain ⟨player, hplayer⟩ := hplayer
  unfold Game.inventory zoom
  rw [World.replacePlayerEquipment_run hplayer he]
  by_cases hsame : e = e'
  · rw [if_pos hsame]
    exact ⟨false, w, rfl, hsame ▸ he, rfl⟩
  · rw [if_neg hsame]
    refine ⟨true, _, rfl, ?_, rfl⟩
    show (w.playerEquipments.insert p e')[p]? = some e'
    simp

theorem persist_of_ok {save : EngineDatabase → Except PersistenceError EngineDatabase}
    {database : EngineDatabase} (h : save s.database = .ok database) :
    persist save s = (.ok (), { s with database }) := by
  unfold persist
  rw [bind_apply, read_apply]
  dsimp only
  rw [h]
  rfl

theorem persist_of_error {save : EngineDatabase → Except PersistenceError EngineDatabase}
    {error : PersistenceError} (h : save s.database = .error error) :
    persist save s = (.error (.host (.persistence error)), s) := by
  unfold persist
  rw [bind_apply, read_apply]
  dsimp only
  rw [h]
  rfl

/-- **A unit of a slot** is gone from the world before the database is asked. -/
theorem consumeUnit_slot (slot : EquipmentSlot) (hplayer : s.world.IsRegistered ctx.characterId)
    (he : s.world.playerEquipments[ctx.characterId]? = some e) :
    ∃ t : ConsumerState,
      t.world.playerEquipments[ctx.characterId]? = some (e.withoutUnit slot) ∧
      besides t.world = besides s.world ∧ t.database = s.database ∧
      t.storedVitals = s.storedVitals ∧
      (∀ database, s.database.replacePlayerEquipment ctx.characterId (e.withoutUnit slot) =
        .ok database → consumeUnit ctx (.slot slot) s = (.ok true, { t with database })) ∧
      ∀ error, s.database.replacePlayerEquipment ctx.characterId (e.withoutUnit slot) =
        .error error →
          consumeUnit ctx (.slot slot) s = (.error (.host (.persistence error)), t) := by
  obtain ⟨changed, w', hreplace, he', hbesides⟩ :=
    replacePlayerEquipment_spec hplayer he (e.withoutUnit slot)
  let t : ConsumerState := { s with
    world := w'
    equipmentEpoch := if changed then s.equipmentEpoch + 1 else s.equipmentEpoch }
  have hread : readOr (·.world.playerEquipments[ctx.characterId]?) (unknownPlayer ctx) s =
      (.ok e, s) := readOr_of_some _ he
  have hworld : onWorld (Game.inventory (World.replacePlayerEquipment ctx.characterId
      (e.withoutUnit slot))) s = (.ok changed, { s with world := w' }) := by
    unfold onWorld
    rw [hreplace]
    rfl
  have hrun : consumeUnit ctx (.slot slot) s =
      (persist (·.replacePlayerEquipment ctx.characterId (e.withoutUnit slot)) >>=
        fun _ => pure true) t := by
    dsimp only [consumeUnit]
    rw [bind_of_ok hread, bind_of_ok hworld]
    cases changed with
    | true => rfl
    | false => rfl
  refine ⟨t, he', hbesides, rfl, rfl, fun database h => ?_, fun error h => ?_⟩
  · rw [hrun, bind_of_ok (persist_of_ok h)]
    rfl
  · rw [hrun, bind_of_error (persist_of_error h)]

theorem consumeUnit_unregistered (slot : EquipmentSlot)
    (hplayer : ¬s.world.IsRegistered ctx.characterId) :
    (∀ removed, (consumeUnit ctx (.slot slot) s).1 ≠ .ok removed) ∧
      (consumeUnit ctx (.slot slot) s).2.world = s.world := by
  have hnone : s.world.players[ctx.characterId]? = none := by
    cases hp : s.world.players[ctx.characterId]? with
    | none => rfl
    | some player => exact absurd ⟨player, hp⟩ hplayer
  cases he : s.world.playerEquipments[ctx.characterId]? with
  | none =>
    have hread : readOr (·.world.playerEquipments[ctx.characterId]?) (unknownPlayer ctx) s =
        (.error (unknownPlayer ctx), s) := readOr_of_none _ he
    dsimp only [consumeUnit]
    rw [bind_of_error hread]
    simp
  | some e =>
    have hread : readOr (·.world.playerEquipments[ctx.characterId]?) (unknownPlayer ctx) s =
        (.ok e, s) := readOr_of_some _ he
    have hrequire : World.requirePlayer ctx.characterId s.world.toWorldState =
        (.error (.unknownPlayer ctx.characterId), s.world.toWorldState) := readOr_of_none _ hnone
    have hworld : onWorld (Game.inventory (World.replacePlayerEquipment ctx.characterId
        (e.withoutUnit slot))) s = (.error (unknownPlayer ctx), s) := by
      unfold onWorld Game.inventory zoom World.replacePlayerEquipment
      rw [bind_of_error hrequire]
      rfl
    dsimp only [consumeUnit]
    rw [bind_of_ok hread, bind_of_error hworld]
    simp

/-- **A unit of a container** is gone from the database only. -/
theorem consumeUnit_content (hcs : s.world.playerContainers[ctx.characterId]? = some cs)
    (hc : cs.container id = some c) (hitem : c.items.items[index]? = some item) :
    ∃ cs',
      (∀ database, s.database.replacePlayerContainers ctx.characterId cs' = .ok database →
        consumeUnit ctx (.content id index) s = (.ok true, { s with database })) ∧
      ∀ error, s.database.replacePlayerContainers ctx.characterId cs' = .error error →
        consumeUnit ctx (.content id index) s = (.error (.host (.persistence error)), s) := by
  have hread : readOr (·.world.playerContainers[ctx.characterId]?) (unknownPlayer ctx) s =
      (.ok cs, s) := readOr_of_some _ hcs
  have hremove : cs.remove id = some (c, cs.without id) :=
    PlayerContainers.remove_eq_some.mpr ⟨hc, rfl⟩
  obtain ⟨items, hitems⟩ : ∃ items, c.items.consumeItemUnit index = some items := by
    unfold ItemContainer.consumeItemUnit
    rw [hitem]
    exact ⟨_, rfl⟩
  have hrun : consumeUnit ctx (.content id index) s =
      (persist (·.replacePlayerContainers ctx.characterId (cs.setItems id items)) >>=
        fun _ => pure true) s := by
    dsimp only [consumeUnit]
    rw [bind_of_ok hread, hremove]
    dsimp only
    rw [hitems]
    dsimp only
    rw [PlayerContainers.insert_without hc]
    rfl
  refine ⟨cs.setItems id items, fun database h => ?_, fun error h => ?_⟩
  · rw [hrun, bind_of_ok (persist_of_ok h)]
    rfl
  · rw [hrun, bind_of_error (persist_of_error h)]

end Removal

end Consumer

end ForgottenEngine
