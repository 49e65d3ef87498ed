import ForgottenEngine.Consumables

/-!
# The unit, the store and the effect

An accepted consumption should take one unit off the stack in the shared world, store the inventory
of the shared world, and grant its effect for a unit only.  A unit of a container never leaves the
shared world, so this holds of no consumption from a container.

* `consume_slot`, `consume_content` — a consumption by a player in the world, for each kind of
  source;
* `grantFood_hungry`, `grantFood_refused` — the gate in front of food;
* `accounts_iff` — **exactly when the unit, the stored inventory and the effect agree**;
* `cherry_staysInBag` — an accepted cherry that is still in the bag.
-/

namespace ForgottenEngine

open Fallible

namespace Consumer

/-! ### What a consumption should do -/

/-- From one world to the other the player's inventory has lost one unit of the stack at the place,
and nothing else. -/
def RemovedUnit (p : ℕ) : ConsumablePlace → GameWorld → GameWorld → Prop
  | .slot slot, w, w' => ∃ e e' item, w.playerEquipments[p]? = some e ∧
      w'.playerEquipments[p]? = some e' ∧ e.item slot = some item ∧
      e'.item slot = lessOne item ∧ (∀ other, other ≠ slot → e'.item other = e.item other) ∧
      w'.playerContainers[p]? = w.playerContainers[p]?
  | .content id index, w, w' => ∃ cs c item, w.playerContainers[p]? = some cs ∧
      cs.container id = some c ∧ c.items.items[index]? = some item ∧
      w'.playerContainers[p]? = some (cs.setItems id { c.items with
        items := (lessOne item).elim (c.items.items.eraseIdx index) (c.items.items.set index) }) ∧
      w'.playerEquipments[p]? = w.playerEquipments[p]?

/-- A food window is open. -/
def Fed (p : ℕ) (w : GameWorld) : Prop :=
  ∃ window, w.playerFoodWindows[p]? = some window ∧ w.tick < window.untilTick

/-- The player has become fed, or has other vitals. -/
def Granted (p : ℕ) (w w' : GameWorld) : Prop :=
  Fed p w' ∧ ¬Fed p w ∨ w'.playerVitals[p]? ≠ w.playerVitals[p]?

/-- What is loaded from the database is the inventory of the shared world. -/
def StoredAsShared (p : ℕ) (s : ConsumerState) : Prop :=
  ∃ e cs, s.world.playerEquipments[p]? = some e ∧ s.world.playerContainers[p]? = some cs ∧
    s.database.loadPlayerEquipment p = .ok e ∧ s.database.loadPlayerContainers p = .ok cs

/-- What should hold of the result of a request: an accepted consumption has removed the unit and
stored the inventory, and no request has granted an effect without removing the unit. -/
def AccountsFor (p : ℕ) (place : ConsumablePlace) (s : ConsumerState)
    (out : Except ConsumerError ConsumableUse × ConsumerState) : Prop :=
  (out.1 = .ok .consumed → RemovedUnit p place s.world out.2.world ∧ StoredAsShared p out.2) ∧
    (Granted p s.world out.2.world → RemovedUnit p place s.world out.2.world)

def Accounts (ctx : ConsumerContext) (position : NativeOtClientPosition) (s : ConsumerState) :
    Prop :=
  ∀ place effect, consumable ctx position s.world = some (place, effect) →
    AccountsFor ctx.characterId place s (applyNativeOwnedConsumableUse ctx position s)

/-! ### When it does not -/

/-- The effect opens a food window. -/
def Feeds (effect : ConsumableEffect) (w : GameWorld) : Prop :=
  0 < effect.regenerationSeconds ∧ w.tick < u64Max

/-- The request is taken up: by a living player, for an item with a declared effect; and food by a
player in the world who is not full. -/
structure TakesUp (ctx : ConsumerContext) (position : NativeOtClientPosition) (w : GameWorld)
    (place : ConsumablePlace) (effect : ConsumableEffect) : Prop where
  alive : ctx.observedDead = false
  known : consumable ctx position w = some (place, effect)
  hungry : 0 < effect.regenerationSeconds →
    w.IsRegistered ctx.characterId ∧ ¬Fed ctx.characterId w

/-- The new vitals get into the world. -/
structure Revives (ctx : ConsumerContext) (effect : ConsumableEffect) (s : ConsumerState)
    (vitals : PlayerVitals) : Prop where
  registered : s.world.IsRegistered ctx.characterId
  before : s.world.playerVitals[ctx.characterId]? = some vitals
  valid : (effect.applyTo vitals).isValid = true
  saved : s.database.ensurePlayerExists ctx.characterId = .ok ()

/-- The new vitals are stored too, and the client is told. -/
structure Tells (ctx : ConsumerContext) (s : ConsumerState) (vitals : PlayerVitals) : Prop where
  stored : ∃ row, s.storedVitals[ctx.characterId]? = some row
  told : ∃ id, nativePlayerId ctx.characterId = .ok id ∧
    ctx.writeFrame (.creatureHealth id vitals.health vitals.maxHealth) = .ok ()

/-- What is left of the equipment comes back from the database, and so do the containers. -/
def Reloads (p : ℕ) (slot : EquipmentSlot) (s : ConsumerState) : Prop :=
  (∀ e, s.world.playerEquipments[p]? = some e → ∀ other item,
    (e.withoutUnit slot).item other = some item → item.FitsRow ∧ item.contents = []) ∧
  ∃ cs, s.world.playerContainers[p]? = some cs ∧ s.database.loadPlayerContainers p = .ok cs

/-- From a container: whatever is granted or accepted.  From a slot: food for a player without
vitals, and a consumption that is accepted while something does not come back from the database. -/
def SpoilsAt (ctx : ConsumerContext) (effect : ConsumableEffect) (s : ConsumerState) :
    ConsumablePlace → Prop
  | .content _ _ => Feeds effect s.world ∨ ∃ vitals, Revives ctx effect s vitals ∧
      (effect.applyTo vitals ≠ vitals ∨ Tells ctx s (effect.applyTo vitals))
  | .slot slot => Feeds effect s.world ∧ s.world.playerVitals[ctx.characterId]? = none ∨
      (∃ vitals, Revives ctx effect s vitals ∧ Tells ctx s (effect.applyTo vitals)) ∧
        ¬Reloads ctx.characterId slot s

def Spoils (ctx : ConsumerContext) (position : NativeOtClientPosition) (s : ConsumerState) :
    Prop :=
  ∃ place effect, TakesUp ctx position s.world place effect ∧ SpoilsAt ctx effect s place

/-! ### Removal and effect together -/

section Consumption

variable {ctx : ConsumerContext} {s t : ConsumerState} {slot : EquipmentSlot} {id index : ℕ}
  {e : PlayerEquipment} {cs : PlayerContainers} {c : PlayerContainer} {item : ItemInstance}
  {place : ConsumablePlace} {effect : ConsumableEffect} {vitals : PlayerVitals}

/-- All goes well when the row of the player is there and the client can be told. -/
theorem publishVitals_ok (hvalid : vitals.isValid = true) :
    (publishVitals ctx vitals s).1 = .ok () ↔ Tells ctx s vitals := by
  rw [fst_eq_ok]
  unfold publishVitals updateStoredVitals
  rw [if_neg (not_not_intro hvalid)]
  simp only [bind_eq_ok, write_apply, ofExcept_apply, readOr_eq_ok, Prod.mk.injEq]
  constructor
  · intro h
    obtain ⟨_, _, _, ⟨-, rfl⟩, _, _, ⟨stored, _, ⟨hstored, rfl⟩, -, rfl⟩, id, _, ⟨hid, rfl⟩, _, _,
      ⟨htold, rfl⟩, -, rfl⟩ := h
    exact ⟨⟨stored, hstored⟩, id, mapError_eq_ok.mp hid, htold⟩
  · rintro ⟨⟨stored, hstored⟩, id, hid, htold⟩
    exact ⟨_, (), _, ⟨trivial, rfl⟩, (), _, ⟨stored, _, ⟨hstored, rfl⟩, trivial, rfl⟩, id, _,
      ⟨mapError_eq_ok.mpr hid, rfl⟩, (), _, ⟨htold, rfl⟩, trivial, rfl⟩

theorem tells_congr (h : t.storedVitals = s.storedVitals) : Tells ctx t vitals ↔ Tells ctx s vitals :=
  ⟨fun ⟨hstored, htold⟩ => ⟨h ▸ hstored, htold⟩, fun ⟨hstored, htold⟩ => ⟨h ▸ hstored, htold⟩⟩

theorem lessOne_ne (item : ItemInstance) : lessOne item ≠ some item := by
  unfold lessOne
  split
  · intro h
    have hcount := congrArg ItemInstance.count (Option.some.inj h)
    simp only at hcount
    omega
  · intro h
    cases h

/-- One unit less is another list of items. -/
theorem lessOne_items_ne {items : List ItemInstance} (hitem : items[index]? = some item) :
    (lessOne item).elim (items.eraseIdx index) (items.set index) ≠ items := by
  intro heq
  cases hless : lessOne item with
  | none =>
    rw [hless] at heq
    have hlength := congrArg List.length heq
    obtain ⟨hindex, -⟩ := List.getElem?_eq_some_iff.mp hitem
    rw [Option.elim_none, List.length_eraseIdx_of_lt hindex] at hlength
    omega
  | some rest =>
    rw [hless] at heq
    have hget := congrArg (fun items => items[index]?) heq
    obtain ⟨hindex, -⟩ := List.getElem?_eq_some_iff.mp hitem
    simp only [Option.elim_some, List.getElem?_set_self hindex, hitem, Option.some.injEq] at hget
    exact lessOne_ne item (hless.trans (congrArg some hget))

/-- Without vitals nothing is used up. -/
theorem consume_of_no_vitals (hvitals : s.world.playerVitals[ctx.characterId]? = none) :
    (consume ctx place effect s).1 ≠ .ok .consumed ∧ (consume ctx place effect s).2 = s := by
  have hread : readOr (·.world.playerVitals[ctx.characterId]?) (unknownPlayer ctx) s =
      (.error (unknownPlayer ctx), s) := readOr_of_none _ hvitals
  unfold consume
  rw [bind_of_error hread]
  simp

theorem consume_of_error {err : ConsumerError}
    (hvitals : s.world.playerVitals[ctx.characterId]? = some vitals)
    (hfailed : (consumeUnit ctx place s).1 = .error err) :
    (consume ctx place effect s).1 = .error err ∧
      (consume ctx place effect s).2 = (consumeUnit ctx place s).2 := by
  have hread : readOr (·.world.playerVitals[ctx.characterId]?) (unknownPlayer ctx) s =
      (.ok vitals, s) := readOr_of_some _ hvitals
  have hrun : consumeUnit ctx place s = (.error err, (consumeUnit ctx place s).2) :=
    Prod.ext hfailed rfl
  unfold consume
  rw [bind_of_ok hread, bind_of_error hrun]
  exact ⟨rfl, rfl⟩

/-- After the removal. -/
theorem consume_of_removed (hvitals : s.world.playerVitals[ctx.characterId]? = some vitals)
    (hremoved : consumeUnit ctx place s = (.ok true, t))
    (hplayer : t.world.IsRegistered ctx.characterId)
    (hsame : t.world.playerVitals[ctx.characterId]? = some vitals) :
    ((consume ctx place effect s).1 = .ok .consumed ↔
      (effect.applyTo vitals).isValid = true ∧ Tells ctx t (effect.applyTo vitals)) ∧
    belongings (consume ctx place effect s).2.world = belongings t.world ∧
    (consume ctx place effect s).2.world.playerVitals[ctx.characterId]? =
      some (if (effect.applyTo vitals).isValid then effect.applyTo vitals else vitals) ∧
    (consume ctx place effect s).2.database = t.database := by
  have hread : readOr (·.world.playerVitals[ctx.characterId]?) (unknownPlayer ctx) s =
      (.ok vitals, s) := readOr_of_some _ hvitals
  obtain ⟨hok, hafter, hbelongings⟩ :=
    @updatePlayerVitals_spec (effect.applyTo vitals) vitals _ _ hplayer hsame
  let u : ConsumerState := { t with
    world := (Game.updatePlayerVitals ctx.characterId (effect.applyTo vitals) t.world).2 }
  have hrun : consume ctx place effect s = (onWorld (Game.updatePlayerVitals ctx.characterId
      (effect.applyTo vitals)) >>= fun _ => publishVitals ctx (effect.applyTo vitals) >>= fun _ =>
        pure .consumed) t := by
    unfold consume
    rw [bind_of_ok hread, bind_of_ok hremoved]
    rfl
  by_cases hvalid : (effect.applyTo vitals).isValid = true
  · have hworld : onWorld (Game.updatePlayerVitals ctx.characterId (effect.applyTo vitals)) t =
        (.ok (), u) := by
      unfold onWorld
      rw [hok.mpr hvalid]
      rfl
    have hkept := @keeps_publishVitals ctx (effect.applyTo vitals) u
    have htells := (@publishVitals_ok ctx u (effect.applyTo vitals) hvalid).trans
      (tells_congr (show u.storedVitals = t.storedVitals from rfl))
    rw [hrun, bind_of_ok hworld, bind_apply]
    cases hpublish : publishVitals ctx (effect.applyTo vitals) u with
    | mk result v =>
      rw [hpublish] at hkept htells
      obtain ⟨hworld', hdatabase⟩ := Prod.mk.inj hkept
      cases result with
      | ok _ =>
        dsimp only [pure_apply]
        refine ⟨⟨fun _ => ⟨hvalid, htells.mp rfl⟩, fun _ => rfl⟩, ?_, ?_, hdatabase⟩
        · rw [hworld']
          exact hbelongings
        · rw [hworld']
          exact hafter
      | error err =>
        dsimp only
        refine ⟨⟨fun h => (by cases h), fun h => ?_⟩, ?_, ?_, hdatabase⟩
        · exact absurd (htells.mpr h.2) (by simp)
        · rw [hworld']
          exact hbelongings
        · rw [hworld']
          exact hafter
  · cases hresult : (Game.updatePlayerVitals ctx.characterId (effect.applyTo vitals) t.world).1 with
    | ok _ => exact absurd (hok.mp hresult) hvalid
    | error err =>
      have hworld : onWorld (Game.updatePlayerVitals ctx.characterId (effect.applyTo vitals)) t =
          (.error (.host (.core err)), u) := by
        unfold onWorld
        rw [hresult]
        rfl
      rw [hrun, bind_of_error hworld]
      exact ⟨⟨fun h => (by cases h), fun h => absurd h.1 hvalid⟩, hbelongings, hafter, rfl⟩

/-- A consumption from a slot, by a player in the world. -/
theorem consume_slot (hplayer : s.world.IsRegistered ctx.characterId)
    (hvitals : s.world.playerVitals[ctx.characterId]? = some vitals)
    (he : s.world.playerEquipments[ctx.characterId]? = some e) (hitem : e.item slot = some item) :
    RemovedUnit ctx.characterId (.slot slot) s.world (consume ctx (.slot slot) effect s).2.world ∧
    ((consume ctx (.slot slot) effect s).1 = .ok .consumed ↔
      Revives ctx effect s vitals ∧ Tells ctx s (effect.applyTo vitals)) ∧
    ((consume ctx (.slot slot) effect s).1 = .ok .consumed →
      (StoredAsShared ctx.characterId (consume ctx (.slot slot) effect s).2 ↔
        Reloads ctx.characterId slot s)) := by
  obtain ⟨t, he', hbesides, hdatabase, hstored, hsaved, hfailed⟩ := consumeUnit_slot slot hplayer he
  simp only [besides, Prod.mk.injEq] at hbesides
  obtain ⟨hplayers, hcontainers, hvitals', -, -⟩ := hbesides
  have hremoved {w' : GameWorld} (hw : w'.playerEquipments = t.world.playerEquipments)
      (hw' : w'.playerContainers = t.world.playerContainers) :
      RemovedUnit ctx.characterId (.slot slot) s.world w' := by
    refine ⟨e, e.withoutUnit slot, item, he, hw ▸ he', hitem, ?_, fun other hother => ?_, ?_⟩
    · rw [item_withoutUnit hitem, if_pos rfl]
    · rw [item_withoutUnit hitem, if_neg (Ne.symm hother)]
    · rw [hw', hcontainers]
  cases hsave : s.database.replacePlayerEquipment ctx.characterId (e.withoutUnit slot) with
  | error err =>
    obtain ⟨hresult, hstate⟩ := @consume_of_error _ _ _ effect _ _ hvitals
      (congrArg Prod.fst (hfailed err hsave))
    rw [hresult, hstate, hfailed err hsave]
    refine ⟨hremoved rfl rfl, ⟨fun h => (by cases h), fun h => ?_⟩, fun h => (by cases h)⟩
    obtain ⟨db', hdb'⟩ := EngineDatabase.exists_replacePlayerEquipment h.1.saved (e.withoutUnit slot)
    rw [hsave] at hdb'
    cases hdb'
  | ok database =>
    have hregistered : t.world.IsRegistered ctx.characterId := by
      unfold GameWorld.IsRegistered
      rw [hplayers]
      exact hplayer
    obtain ⟨haccepted, hbelongings, -, hafter⟩ := @consume_of_removed ctx s { t with database }
      (.slot slot) effect vitals hvitals (hsaved database hsave) hregistered (hvitals' ▸ hvitals)
    have htells : Tells ctx { t with database } (effect.applyTo vitals) ↔
        Tells ctx s (effect.applyTo vitals) := tells_congr hstored
    simp only [belongings, Prod.mk.injEq] at hbelongings
    obtain ⟨-, hequipments, hcontainers', -, -⟩ := hbelongings
    obtain ⟨_, hknown, hwrite⟩ := except_bind_eq_ok.mp hsave
    obtain ⟨hrows, table, rfl⟩ := EngineDatabase.writeEquipment_eq_ok hwrite
    refine ⟨hremoved hequipments hcontainers', ?_, fun _ => ?_⟩
    · rw [haccepted, htells]
      exact ⟨fun h => ⟨⟨hplayer, hvitals, h.1, hknown⟩, h.2⟩, fun h => ⟨h.1.valid, h.2⟩⟩
    · have hequipment := @EngineDatabase.loadPlayerEquipment_iff ctx.characterId
        { s.database with playerEquipment := table } _ hknown hrows
      unfold StoredAsShared Reloads
      rw [hafter, hequipments, hcontainers', hcontainers]
      constructor
      · rintro ⟨e', cs, hworld, hcs, hload, hloads⟩
        cases he'.symm.trans hworld
        refine ⟨fun e₀ he₀ => ?_, cs, hcs, hloads⟩
        cases he.symm.trans he₀
        exact hequipment.mp hload
      · rintro ⟨hfits, cs, hcs, hloads⟩
        exact ⟨e.withoutUnit slot, cs, he', hcs, hequipment.mpr (hfits e he), hloads⟩

/-- A consumption from a container. -/
theorem consume_content (hplayer : s.world.IsRegistered ctx.characterId)
    (hvitals : s.world.playerVitals[ctx.characterId]? = some vitals)
    (hcs : s.world.playerContainers[ctx.characterId]? = some cs)
    (hc : cs.container id = some c) (hitem : c.items.items[index]? = some item) :
    belongings (consume ctx (.content id index) effect s).2.world = belongings s.world ∧
    ((consume ctx (.content id index) effect s).1 = .ok .consumed ↔
      Revives ctx effect s vitals ∧ Tells ctx s (effect.applyTo vitals)) ∧
    ((consume ctx (.content id index) effect s).2.world.playerVitals[ctx.characterId]? ≠
        some vitals ↔ Revives ctx effect s vitals ∧ effect.applyTo vitals ≠ vitals) := by
  obtain ⟨cs', hsaved, hfailed⟩ := @consumeUnit_content ctx s id index cs c item hcs hc hitem
  cases hsave : s.database.replacePlayerContainers ctx.characterId cs' with
  | error err =>
    obtain ⟨hresult, hstate⟩ := @consume_of_error _ _ _ effect _ _ hvitals
      (congrArg Prod.fst (hfailed err hsave))
    have hrefused : ¬Revives ctx effect s vitals := by
      intro h
      obtain ⟨db', hdb'⟩ := EngineDatabase.exists_replacePlayerContainers h.saved cs'
      rw [hsave] at hdb'
      cases hdb'
    rw [hresult, hstate, hfailed err hsave]
    exact ⟨rfl, ⟨fun h => (by cases h), fun h => absurd h.1 hrefused⟩,
      ⟨fun h => absurd hvitals h, fun h => absurd h.1 hrefused⟩⟩
  | ok database =>
    obtain ⟨haccepted, hbelongings, hafter, -⟩ := @consume_of_removed ctx s { s with database }
      (.content id index) effect vitals hvitals (hsaved database hsave) hplayer hvitals
    obtain ⟨_, hknown, -⟩ := except_bind_eq_ok.mp hsave
    have htells : Tells ctx { s with database } (effect.applyTo vitals) ↔
        Tells ctx s (effect.applyTo vitals) := tells_congr rfl
    refine ⟨hbelongings, ?_, ?_⟩
    · rw [haccepted, htells]
      exact ⟨fun h => ⟨⟨hplayer, hvitals, h.1, hknown⟩, h.2⟩, fun h => ⟨h.1.valid, h.2⟩⟩
    · rw [hafter]
      by_cases hvalid : (effect.applyTo vitals).isValid = true
      · rw [if_pos hvalid]
        exact ⟨fun h => ⟨⟨hplayer, hvitals, hvalid, hknown⟩, fun heq => h (congrArg some heq)⟩,
          fun h heq => h.2 (Option.some.inj heq)⟩
      · rw [if_neg hvalid]
        exact ⟨fun h => absurd rfl h, fun h => absurd h.1.valid hvalid⟩

theorem keeps_consumeUnit_content : Keeps ConsumerState.world (consumeUnit ctx (.content id index)) := by
  dsimp only [consumeUnit]
  refine Keeps.bind (ReadOnly.readOr _ _).keeps fun containers => ?_
  cases containers.remove id with
  | none => exact Keeps.pure _
  | some removed =>
    obtain ⟨container, rest⟩ := removed
    dsimp only
    cases container.items.consumeItemUnit index with
    | none => exact Keeps.pure _
    | some items =>
      refine Keeps.bind (ReadOnly.ofExcept _).keeps fun _ => Keeps.bind ?_ fun _ => Keeps.pure _
      exact Keeps.bind (ReadOnly.read _).keeps fun _ =>
        Keeps.bind (ReadOnly.ofExcept _).keeps fun _ => Keeps.write fun _ => rfl

/-- Nothing happens in the world for a player who is not in it. -/
theorem consume_unregistered (hplayer : ¬s.world.IsRegistered ctx.characterId) :
    (consume ctx place effect s).1 ≠ .ok .consumed ∧
      (consume ctx place effect s).2.world = s.world := by
  have hworld : (consumeUnit ctx place s).2.world = s.world := by
    cases place with
    | slot slot => exact (consumeUnit_unregistered slot hplayer).2
    | content id index => exact keeps_consumeUnit_content s
  cases hvitals : s.world.playerVitals[ctx.characterId]? with
  | none =>
    obtain ⟨hresult, hstate⟩ := @consume_of_no_vitals _ _ place effect hvitals
    exact ⟨hresult, congrArg ConsumerState.world hstate⟩
  | some vitals =>
    cases hrun : consumeUnit ctx place s with
    | mk result t =>
      rw [hrun] at hworld
      cases result with
      | error err =>
        obtain ⟨hresult, hstate⟩ := @consume_of_error _ _ _ effect _ _ hvitals
          (congrArg Prod.fst hrun)
        rw [hresult, hstate, hrun]
        exact ⟨by simp, hworld⟩
      | ok removed =>
        have hread : readOr (·.world.playerVitals[ctx.characterId]?) (unknownPlayer ctx) s =
            (.ok vitals, s) := readOr_of_some _ hvitals
        unfold consume
        rw [bind_of_ok hread, bind_of_ok hrun]
        cases removed with
        | false => exact ⟨by simp, hworld⟩
        | true =>
          rw [← hworld] at hplayer
          obtain ⟨hresult, hsame⟩ :=
            @updatePlayerVitals_unregistered (effect.applyTo vitals) _ _ hplayer
          cases hupdate : (Game.updatePlayerVitals ctx.characterId (effect.applyTo vitals)
              t.world).1 with
          | ok _ => exact absurd hupdate hresult
          | error err =>
            have hfails : onWorld (Game.updatePlayerVitals ctx.characterId
                (effect.applyTo vitals)) t = (.error (.host (.core err)), t) := by
              unfold onWorld
              rw [hupdate, hsame]
              rfl
            simp only [not_true_eq_false, if_false]
            rw [bind_of_error hfails]
            exact ⟨by simp, hworld⟩

end Consumption

/-! ### The food window -/

section Food

variable {ctx : ConsumerContext} {s : ConsumerState} {effect : ConsumableEffect}

/-- What the gate for food leaves alone. -/
def untouched (s : ConsumerState) :=
  (s.world.players, s.world.playerEquipments, s.world.playerContainers, s.world.playerVitals,
    s.world.tick, s.database, s.storedVitals)

theorem not_fed {p : ℕ} {w : GameWorld} (h : ¬Fed p w) :
    (w.playerFoodWindows[p]?.any fun window => w.tick < window.untilTick) = false := by
  cases hwindow : w.playerFoodWindows[p]? with
  | none => rfl
  | some window =>
    by_cases hopen : w.tick < window.untilTick
    · exact absurd ⟨window, hwindow, hopen⟩ h
    · simpa using hopen

/-- **The gate lets through** whoever is hungry, and feeds whom the effect feeds. -/
theorem grantFood_hungry (hungry : 0 < effect.regenerationSeconds →
      s.world.IsRegistered ctx.characterId ∧ ¬Fed ctx.characterId s.world) :
    ∃ t, grantFood ctx effect s = (.ok true, t) ∧ untouched t = untouched s ∧
      (Fed ctx.characterId t.world ∧ ¬Fed ctx.characterId s.world ↔ Feeds effect s.world) := by
  unfold grantFood
  by_cases hfood : 0 < effect.regenerationSeconds
  · obtain ⟨⟨player, hplayer⟩, hhungry⟩ := hungry hfood
    have hrequire : Game.requirePlayer ctx.characterId s.world = (.ok player, s.world) :=
      readOr_of_some _ hplayer
    let fed : GameWorld := { s.world with
      playerFoodWindows := s.world.playerFoodWindows.insert ctx.characterId
        ⟨saturatingAdd s.world.tick effect.regenerationSeconds, 0⟩ }
    have hgrant : Game.grantPlayerFoodWindow ctx.characterId effect.regenerationSeconds s.world =
        (.ok true, (Game.markChanged fed).2) := by
      unfold Game.grantPlayerFoodWindow
      rw [if_neg (Nat.pos_iff_ne_zero.mp hfood), bind_of_ok hrequire, bind_apply, read_apply]
      dsimp only [id]
      rw [not_fed hhungry]
      rfl
    rw [if_pos hfood]
    refine ⟨{ s with world := (Game.markChanged fed).2 }, ?_, rfl, ?_⟩
    · unfold onWorld
      rw [hgrant]
      rfl
    · have hopen : Fed ctx.characterId (Game.markChanged fed).2 ↔
          s.world.tick < saturatingAdd s.world.tick effect.regenerationSeconds := by
        have hwindow : (Game.markChanged fed).2.playerFoodWindows[ctx.characterId]? =
            some ⟨saturatingAdd s.world.tick effect.regenerationSeconds, 0⟩ := by
          show (s.world.playerFoodWindows.insert ctx.characterId _)[ctx.characterId]? = _
          simp
        unfold Fed
        rw [hwindow]
        constructor
        · rintro ⟨window, heq, hless⟩
          cases heq
          exact hless
        · intro hless
          exact ⟨_, rfl, hless⟩
      dsimp only
      rw [hopen]
      unfold saturatingAdd Feeds
      constructor
      · intro h
        exact ⟨hfood, by omega⟩
      · intro h
        exact ⟨by omega, hhungry⟩
  · rw [if_neg hfood]
    exact ⟨s, rfl, rfl, fun h => absurd h.1 h.2, fun h => absurd h.1 hfood⟩

/-- Nobody else gets through. -/
theorem grantFood_refused (hfood : 0 < effect.regenerationSeconds)
    (hrefused : ¬(s.world.IsRegistered ctx.characterId ∧ ¬Fed ctx.characterId s.world)) :
    (grantFood ctx effect s).1 ≠ .ok true ∧ (grantFood ctx effect s).2.world = s.world := by
  have hgate : grantFood ctx effect = onWorld (Game.grantPlayerFoodWindow ctx.characterId
      effect.regenerationSeconds) := if_pos hfood
  have hworld : (Game.grantPlayerFoodWindow ctx.characterId effect.regenerationSeconds
      s.world).1 ≠ .ok true ∧
        (Game.grantPlayerFoodWindow ctx.characterId effect.regenerationSeconds s.world).2 =
          s.world := by
    unfold Game.grantPlayerFoodWindow
    rw [if_neg (Nat.pos_iff_ne_zero.mp hfood)]
    cases hplayer : s.world.players[ctx.characterId]? with
    | none =>
      have hrequire : Game.requirePlayer ctx.characterId s.world =
          (.error (.unknownPlayer ctx.characterId), s.world) := readOr_of_none _ hplayer
      rw [bind_of_error hrequire]
      simp
    | some player =>
      have hrequire : Game.requirePlayer ctx.characterId s.world = (.ok player, s.world) :=
        readOr_of_some _ hplayer
      obtain ⟨window, hwindow, hopen⟩ :=
        not_not.mp fun hhungry => hrefused ⟨⟨player, hplayer⟩, hhungry⟩
      rw [bind_of_ok hrequire, bind_apply, read_apply]
      dsimp only [id]
      rw [hwindow, Option.any_some, if_pos (decide_eq_true hopen)]
      simp
  rw [hgate]
  refine ⟨fun h => hworld.1 ?_, hworld.2⟩
  exact mapError_eq_ok.mp h

end Food

/-! ### The whole request -/

section Request

variable {ctx : ConsumerContext} {position : NativeOtClientPosition} {s : ConsumerState}
  {place : ConsumablePlace} {effect : ConsumableEffect}

/-- What the position stands for is there. -/
theorem consumable_eq_some {w : GameWorld} (h : consumable ctx position w = some (place, effect)) :
    position.x = 0xffff ∧ match place with
      | .slot slot => ∃ e item, w.playerEquipments[ctx.characterId]? = some e ∧
          e.item slot = some item
      | .content id index => ∃ cs c item, w.playerContainers[ctx.characterId]? = some cs ∧
          cs.container id = some c ∧ c.items.items[index]? = some item := by
  obtain ⟨source, hsource, h⟩ := Option.bind_eq_some_iff.mp h
  obtain ⟨effects, -, h⟩ := Option.bind_eq_some_iff.mp h
  obtain ⟨_, -, heq⟩ := Option.bind_eq_some_iff.mp h
  cases heq
  unfold consumableSource at hsource
  split at hsource
  · cases hsource
  · rename_i hx
    refine ⟨not_not.mp hx, ?_⟩
    split at hsource
    · obtain ⟨slot, -, h⟩ := Option.bind_eq_some_iff.mp hsource
      obtain ⟨e, he, h⟩ := Option.bind_eq_some_iff.mp h
      obtain ⟨item, hitem, heq⟩ := Option.bind_eq_some_iff.mp h
      cases heq
      exact ⟨e, item, he, hitem⟩
    · obtain ⟨cs, hcs, h⟩ := Option.bind_eq_some_iff.mp hsource
      obtain ⟨c, hc, h⟩ := Option.bind_eq_some_iff.mp h
      obtain ⟨item, hitem, heq⟩ := Option.bind_eq_some_iff.mp h
      cases heq
      exact ⟨cs, c, item, hcs, hc, hitem⟩

/-- Behind the first two checks. -/
theorem use_of_consumable (hknown : consumable ctx position s.world = some (place, effect))
    (halive : ctx.observedDead = false) :
    applyNativeOwnedConsumableUse ctx position s = (do
      let granted ← grantFood ctx effect
      if ¬granted then
        ofExcept (ctx.writeFrame (.statusMessage "You are full."))
        return ConsumableUse.tooFull
      else consume ctx place effect) s := by
  unfold applyNativeOwnedConsumableUse
  rw [if_neg (not_not_intro (consumable_eq_some hknown).1), halive]
  simp only [Bool.false_eq_true, if_false]
  rw [bind_apply, read_apply]
  dsimp only
  rw [hknown]

/-- A request that is not taken up changes nothing in the world. -/
theorem use_refused (hknown : consumable ctx position s.world = some (place, effect))
    (hrefused : ¬TakesUp ctx position s.world place effect) :
    (applyNativeOwnedConsumableUse ctx position s).1 ≠ .ok .consumed ∧
      (applyNativeOwnedConsumableUse ctx position s).2.world = s.world := by
  cases hdead : ctx.observedDead with
  | true =>
    unfold applyNativeOwnedConsumableUse
    rw [if_neg (not_not_intro (consumable_eq_some hknown).1), hdead]
    simp
  | false =>
    have hgate : ¬(0 < effect.regenerationSeconds →
        s.world.IsRegistered ctx.characterId ∧ ¬Fed ctx.characterId s.world) :=
      fun hungry => hrefused ⟨hdead, hknown, hungry⟩
    obtain ⟨hfood, hnot⟩ := Classical.not_imp.mp hgate
    obtain ⟨hresult, hworld⟩ := grantFood_refused hfood hnot
    rw [use_of_consumable hknown hdead, bind_apply]
    cases hgrant : grantFood ctx effect s with
    | mk result t =>
      rw [hgrant] at hresult hworld
      cases result with
      | error err => exact ⟨by simp, hworld⟩
      | ok granted =>
        cases granted with
        | true => exact absurd rfl hresult
        | false =>
          dsimp only
          rw [if_pos Bool.false_ne_true, bind_apply, ofExcept_apply]
          cases ctx.writeFrame (.statusMessage "You are full.") with
          | error err => exact ⟨by simp, hworld⟩
          | ok _ => exact ⟨by simp, hworld⟩

/-- A request that is taken up is a consumption behind the gate. -/
theorem use_takesUp (h : TakesUp ctx position s.world place effect) :
    ∃ t, applyNativeOwnedConsumableUse ctx position s = consume ctx place effect t ∧
      untouched t = untouched s ∧
      (Fed ctx.characterId t.world ∧ ¬Fed ctx.characterId s.world ↔ Feeds effect s.world) := by
  obtain ⟨t, hgrant, huntouched, hfed⟩ := grantFood_hungry h.hungry
  refine ⟨t, ?_, huntouched, hfed⟩
  rw [use_of_consumable h.known h.alive, bind_of_ok hgrant]
  rfl

/-! ### When the books are right -/

theorem accountsFor_of_same {p : ℕ} {out : Except ConsumerError ConsumableUse × ConsumerState}
    (hresult : out.1 ≠ .ok .consumed) (hworld : out.2.world = s.world) :
    AccountsFor p place s out := by
  refine ⟨fun h => absurd h hresult, fun h => ?_⟩
  rw [hworld] at h
  rcases h with h | h
  · exact absurd h.1 h.2
  · exact absurd rfl h

/-- The containers of the world are never written, so no unit is removed there. -/
theorem not_removedUnit_content {p id index : ℕ} {w w' : GameWorld}
    (hsame : w'.playerContainers = w.playerContainers) :
    ¬RemovedUnit p (.content id index) w w' := by
  rintro ⟨cs, c, item, hcs, hc, hitem, hafter, _⟩
  rw [hsame, hcs] at hafter
  have hwindow := congrArg (fun cs => cs.container id) (Option.some.inj hafter)
  simp only [PlayerContainers.container_setItems, if_true, hc, Option.map_some,
    Option.some.injEq] at hwindow
  have hitems := congrArg (fun c => c.items.items) hwindow
  exact lessOne_items_ne hitem hitems.symm

section Gate

variable {t : ConsumerState} {vitals : PlayerVitals} {slot : EquipmentSlot} {id index : ℕ}
  {e : PlayerEquipment} {cs : PlayerContainers} {c : PlayerContainer} {item : ItemInstance}

/-! The gate changes nothing the conditions are about. -/

theorem isRegistered_congr {p : ℕ} (h : untouched t = untouched s) :
    t.world.IsRegistered p ↔ s.world.IsRegistered p := by
  unfold GameWorld.IsRegistered
  rw [(Prod.mk.inj h).1]

theorem revives_congr (h : untouched t = untouched s) :
    Revives ctx effect t vitals ↔ Revives ctx effect s vitals := by
  have hplayer := @isRegistered_congr s t ctx.characterId h
  simp only [untouched, Prod.mk.injEq] at h
  obtain ⟨-, -, -, hvitals, -, hdatabase, -⟩ := h
  constructor
  · rintro ⟨hregistered, hbefore, hvalid, hsaved⟩
    exact ⟨hplayer.mp hregistered, hvitals ▸ hbefore, hvalid, hdatabase ▸ hsaved⟩
  · rintro ⟨hregistered, hbefore, hvalid, hsaved⟩
    exact ⟨hplayer.mpr hregistered, hvitals ▸ hbefore, hvalid, hdatabase ▸ hsaved⟩

/-- What a request grants is a food window from the gate, or new vitals. -/
theorem granted_iff {p : ℕ} {w' : GameWorld} (h : untouched t = untouched s)
    (hsame : belongings w' = belongings t.world)
    (hfed : Fed p t.world ∧ ¬Fed p s.world ↔ Feeds effect s.world) :
    Granted p s.world w' ↔ Feeds effect s.world ∨ w'.playerVitals[p]? ≠ t.world.playerVitals[p]? := by
  simp only [untouched, Prod.mk.injEq] at h
  simp only [belongings, Prod.mk.injEq] at hsame
  obtain ⟨-, -, -, hvitals, -, -, -⟩ := h
  obtain ⟨-, -, -, hwindows, htick⟩ := hsame
  have hfed' : Fed p w' ↔ Fed p t.world := by
    unfold Fed
    rw [hwindows, htick]
  unfold Granted
  rw [hfed', hfed, hvitals]

theorem accountsFor_slot (h : TakesUp ctx position s.world (.slot slot) effect)
    (huntouched : untouched t = untouched s)
    (hfed : Fed ctx.characterId t.world ∧ ¬Fed ctx.characterId s.world ↔ Feeds effect s.world)
    (he : s.world.playerEquipments[ctx.characterId]? = some e) (hitem : e.item slot = some item) :
    AccountsFor ctx.characterId (.slot slot) s (consume ctx (.slot slot) effect t) ↔
      ¬SpoilsAt ctx effect s (.slot slot) := by
  have hplayer := @isRegistered_congr s t ctx.characterId huntouched
  have hrevives (vitals : PlayerVitals) := @revives_congr ctx s effect t vitals huntouched
  have hgranted {w' : GameWorld} (hsame : belongings w' = belongings t.world) :=
    @granted_iff _ _ _ ctx.characterId w' huntouched hsame hfed
  simp only [untouched, Prod.mk.injEq] at huntouched
  obtain ⟨hplayers, hequipments, hcontainers, hvitals, htick, hdatabase, hstored⟩ := huntouched
  have hnot : ¬RemovedUnit ctx.characterId (.slot slot) s.world t.world := by
    rintro ⟨e₁, e₂, item', he₁, he₂, hitem₁, hitem₂, _⟩
    rw [hequipments, he₁] at he₂
    cases he₂
    exact lessOne_ne item' (hitem₂.symm.trans hitem₁)
  cases hbefore : s.world.playerVitals[ctx.characterId]? with
  | none =>
    obtain ⟨hresult, hstate⟩ := @consume_of_no_vitals ctx t (.slot slot) effect (hvitals ▸ hbefore)
    constructor
    · intro haccounts hspoils
      rcases hspoils with ⟨hfeeds, -⟩ | ⟨⟨vitals, hrevives, -⟩, -⟩
      · have hremoves := haccounts.2
        rw [hstate] at hremoves
        exact hnot (hremoves ((hgranted rfl).mpr (.inl hfeeds)))
      · have hsome := hrevives.before
        rw [hbefore] at hsome
        cases hsome
    · intro hspoils
      refine ⟨fun haccepted => absurd haccepted hresult, fun hgrants => ?_⟩
      rw [hstate] at hgrants
      rcases (hgranted rfl).mp hgrants with hfeeds | hchanged
      · exact absurd (.inl ⟨hfeeds, hbefore⟩) hspoils
      · exact absurd rfl hchanged
  | some vitals =>
    by_cases hregistered : s.world.IsRegistered ctx.characterId
    · obtain ⟨hremoved, haccepted, hreloads⟩ := @consume_slot ctx t slot e item effect vitals
        (hplayer.mpr hregistered) (hvitals ▸ hbefore) (hequipments ▸ he) hitem
      have hremoved : RemovedUnit ctx.characterId (.slot slot) s.world
          (consume ctx (.slot slot) effect t).2.world := by
        dsimp only [RemovedUnit] at hremoved ⊢
        rw [← hequipments, ← hcontainers]
        exact hremoved
      have hreload : Reloads ctx.characterId slot t ↔ Reloads ctx.characterId slot s := by
        unfold Reloads
        rw [hequipments, hcontainers, hdatabase]
      rw [hrevives, tells_congr hstored] at haccepted
      constructor
      · intro haccounts hspoils
        rcases hspoils with ⟨-, hnone⟩ | ⟨⟨vitals', hrevives', htells⟩, hlost⟩
        · rw [hbefore] at hnone
          cases hnone
        · have hsame := hrevives'.before
          rw [hbefore] at hsame
          cases hsame
          have hdone := haccepted.mpr ⟨hrevives', htells⟩
          exact hlost (hreload.mp ((hreloads hdone).mp (haccounts.1 hdone).2))
      · intro hspoils
        refine ⟨fun hdone => ⟨hremoved, (hreloads hdone).mpr (hreload.mpr ?_)⟩, fun _ => hremoved⟩
        by_contra hlost
        exact hspoils (.inr ⟨⟨vitals, haccepted.mp hdone⟩, hlost⟩)
    · obtain ⟨hresult, hworld⟩ := @consume_unregistered ctx t (.slot slot) effect
        (fun hr => hregistered (hplayer.mp hr))
      constructor
      · intro _ hspoils
        rcases hspoils with ⟨-, hnone⟩ | ⟨⟨vitals', hrevives', -⟩, -⟩
        · rw [hbefore] at hnone
          cases hnone
        · exact hregistered hrevives'.registered
      · intro _
        refine ⟨fun haccepted => absurd haccepted hresult, fun hgrants => ?_⟩
        rw [hworld] at hgrants
        rcases (hgranted rfl).mp hgrants with hfeeds | hchanged
        · exact absurd (h.hungry hfeeds.1).1 hregistered
        · exact absurd rfl hchanged

theorem accountsFor_content
    (huntouched : untouched t = untouched s)
    (hfed : Fed ctx.characterId t.world ∧ ¬Fed ctx.characterId s.world ↔ Feeds effect s.world)
    (hcs : s.world.playerContainers[ctx.characterId]? = some cs) (hc : cs.container id = some c)
    (hitem : c.items.items[index]? = some item) :
    AccountsFor ctx.characterId (.content id index) s (consume ctx (.content id index) effect t) ↔
      ¬SpoilsAt ctx effect s (.content id index) := by
  have hplayer := @isRegistered_congr s t ctx.characterId huntouched
  have hrevives (vitals : PlayerVitals) := @revives_congr ctx s effect t vitals huntouched
  have hgranted {w' : GameWorld} (hsame : belongings w' = belongings t.world) :=
    @granted_iff _ _ _ ctx.characterId w' huntouched hsame hfed
  simp only [untouched, Prod.mk.injEq] at huntouched
  obtain ⟨hplayers, hequipments, hcontainers, hvitals, htick, hdatabase, hstored⟩ := huntouched
  have hnot {w' : GameWorld} (hsame : belongings w' = belongings t.world) :
      ¬RemovedUnit ctx.characterId (.content id index) s.world w' := by
    simp only [belongings, Prod.mk.injEq] at hsame
    exact not_removedUnit_content (hsame.2.2.1.trans hcontainers)
  have hspoils (out : Except ConsumerError ConsumableUse × ConsumerState)
      (hsame : belongings out.2.world = belongings t.world) :
      AccountsFor ctx.characterId (.content id index) s out ↔ ¬(out.1 = .ok .consumed ∨
        Feeds effect s.world ∨ out.2.world.playerVitals[ctx.characterId]? ≠
          t.world.playerVitals[ctx.characterId]?) := by
    rw [← hgranted hsame, not_or]
    constructor
    · intro haccounts
      exact ⟨fun h => hnot hsame (haccounts.1 h).1, fun h => hnot hsame (haccounts.2 h)⟩
    · intro h
      exact ⟨fun haccepted => absurd haccepted h.1, fun hgrants => absurd hgrants h.2⟩
  have hnever {vitals : PlayerVitals} (hrefused : ¬s.world.IsRegistered ctx.characterId ∨
      s.world.playerVitals[ctx.characterId]? = none) : ¬Revives ctx effect s vitals := by
    intro hrevives
    rcases hrefused with hunregistered | hnone
    · exact hunregistered hrevives.registered
    · have hsome := hrevives.before
      rw [hnone] at hsome
      cases hsome
  by_cases hrefused : ¬s.world.IsRegistered ctx.characterId ∨
      s.world.playerVitals[ctx.characterId]? = none
  · have hdone : (consume ctx (.content id index) effect t).1 ≠ .ok .consumed ∧
        (consume ctx (.content id index) effect t).2.world = t.world := by
      rcases hrefused with hunregistered | hnone
      · exact consume_unregistered fun hr => hunregistered (hplayer.mp hr)
      · obtain ⟨hresult, hstate⟩ :=
          @consume_of_no_vitals ctx t (.content id index) effect (hvitals ▸ hnone)
        exact ⟨hresult, congrArg ConsumerState.world hstate⟩
    rw [hspoils _ (congrArg belongings hdone.2), hdone.2]
    refine not_congr ⟨fun h => ?_, fun h => ?_⟩
    · rcases h with haccepted | hfeeds | hchanged
      · exact absurd haccepted hdone.1
      · exact .inl hfeeds
      · exact absurd rfl hchanged
    · rcases h with hfeeds | ⟨vitals, hrevives', -⟩
      · exact .inr (.inl hfeeds)
      · exact absurd hrevives' (hnever hrefused)
  · obtain ⟨hregistered, hsome⟩ := not_or.mp hrefused
    obtain ⟨vitals, hbefore⟩ := Option.ne_none_iff_exists'.mp hsome
    obtain ⟨hbelongings, haccepted, hchanged⟩ := @consume_content ctx t id index cs c item effect
      vitals (hplayer.mpr (not_not.mp hregistered)) (hvitals ▸ hbefore) (hcontainers ▸ hcs) hc hitem
    rw [hrevives, tells_congr hstored] at haccepted
    rw [hrevives] at hchanged
    rw [hspoils _ hbelongings, haccepted, hvitals, hbefore, hchanged]
    refine not_congr ⟨fun h => ?_, fun h => ?_⟩
    · rcases h with haccepted | hfeeds | hchanged
      · exact .inr ⟨vitals, haccepted.1, .inr haccepted.2⟩
      · exact .inl hfeeds
      · exact .inr ⟨vitals, hchanged.1, .inl hchanged.2⟩
    · rcases h with hfeeds | ⟨vitals', hrevives', hspoilt⟩
      · exact .inr (.inl hfeeds)
      · have hsame := hrevives'.before
        rw [hbefore] at hsame
        cases hsame
        rcases hspoilt with hother | htells
        · exact .inr (.inr ⟨hrevives', hother⟩)
        · exact .inl ⟨hrevives', htells⟩

end Gate

/-- **The books are right exactly when nothing spoils them.** -/
theorem accounts_iff (ctx : ConsumerContext) (position : NativeOtClientPosition)
    (s : ConsumerState) : Accounts ctx position s ↔ ¬Spoils ctx position s := by
  cases hknown : consumable ctx position s.world with
  | none =>
    refine ⟨fun _ hspoils => ?_, fun _ place effect h => ?_⟩
    · obtain ⟨place, effect, htakes, -⟩ := hspoils
      rw [htakes.known] at hknown
      cases hknown
    · rw [hknown] at h
      cases h
  | some target =>
    obtain ⟨place, effect⟩ := target
    have haccounts : Accounts ctx position s ↔ AccountsFor ctx.characterId place s
        (applyNativeOwnedConsumableUse ctx position s) := by
      refine ⟨fun h => h place effect hknown, fun h place' effect' hknown' => ?_⟩
      cases hknown.symm.trans hknown'
      exact h
    rw [haccounts]
    by_cases htakes : TakesUp ctx position s.world place effect
    · have hspoils : Spoils ctx position s ↔ SpoilsAt ctx effect s place := by
        refine ⟨fun ⟨place', effect', htakes', h⟩ => ?_, fun h => ⟨place, effect, htakes, h⟩⟩
        cases hknown.symm.trans htakes'.known
        exact h
      obtain ⟨t, hrun, huntouched, hfed⟩ := use_takesUp htakes
      rw [hspoils, hrun]
      have hplace := (consumable_eq_some hknown).2
      cases place with
      | slot slot =>
        obtain ⟨e, item, he, hitem⟩ := hplace
        exact accountsFor_slot htakes huntouched hfed he hitem
      | content id index =>
        obtain ⟨cs, c, item, hcs, hc, hitem⟩ := hplace
        exact accountsFor_content huntouched hfed hcs hc hitem
    · obtain ⟨hresult, hworld⟩ := use_refused hknown htakes
      refine ⟨fun _ hspoils => ?_, fun _ => accountsFor_of_same hresult hworld⟩
      obtain ⟨place', effect', htakes', -⟩ := hspoils
      cases hknown.symm.trans htakes'.known
      exact htakes htakes'

end Request

/-! ### A cherry from a bag -/

/-- A window with two cherries. -/
def cherryBag : PlayerContainer :=
  ⟨0, ⟨1987, 1, none, none, []⟩, "bag", false, ⟨8, [⟨2679, 2, none, none, []⟩]⟩⟩

def cherryWindows : PlayerContainers := PlayerContainers.empty.putBack cherryBag

def cherryWorld : GameWorld :=
  { GameWorld.empty with
    players := (∅ : BTreeMap ℕ Player).insert 1 ⟨1, 1, "Eater", ⟨100, 100, 7⟩, 1, 0, 0⟩
    playerVitals := (∅ : BTreeMap ℕ PlayerVitals).insert 1 { health := 100 }
    playerEquipments := (∅ : BTreeMap ℕ PlayerEquipment).insert 1 .empty
    playerContainers := (∅ : BTreeMap ℕ PlayerContainers).insert 1 cherryWindows }

/-- The player is in the world as the database has it. -/
def cherryState : ConsumerState where
  world := cherryWorld
  equipmentEpoch := 0
  vitalsEpoch := 0
  observedVitalsEpoch := 0
  database := ((InventorySave.onePlayerDatabase.replacePlayerContainers 1 cherryWindows).toOption).getD
    InventorySave.onePlayerDatabase
  storedVitals := (∅ : BTreeMap ℕ PlayerVitals).insert 1 { health := 100 }

/-- A cherry heals five points. -/
def cherryContext : ConsumerContext where
  characterId := 1
  observedDead := false
  consumableEffects := some ((∅ : BTreeMap ℕ ConsumableEffect).insert 2679 ⟨5, 0, 0⟩)
  writeFrame _ := .ok ()

/-- The first item of container 0. -/
def cherryPosition : NativeOtClientPosition := ⟨0xffff, 0x40, 0⟩

/-- **The cherry is still there**: accepted, eaten in the database, and not in the world. -/
theorem cherry_staysInBag : ¬∀ (ctx : ConsumerContext) (position : NativeOtClientPosition)
    (s : ConsumerState), Accounts ctx position s := by
  intro hall
  have hknown : consumable cherryContext cherryPosition cherryState.world =
      some (.content 0 0, ⟨5, 0, 0⟩) := by decide +kernel
  have haccepted : (applyNativeOwnedConsumableUse cherryContext cherryPosition cherryState).1 =
      .ok .consumed := by decide +kernel
  have hremoved := ((hall _ _ _ _ _ hknown).1 haccepted).1
  have hsame : (applyNativeOwnedConsumableUse cherryContext cherryPosition
      cherryState).2.world.playerContainers = cherryState.world.playerContainers := by
    rfl
  exact not_removedUnit_content hsame hremoved

end Consumer

end ForgottenEngine
