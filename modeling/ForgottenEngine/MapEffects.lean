import ForgottenEngine.MapTransfers
import ForgottenEngine.TransferEffects

/-!
# What the map operations do

One lemma per operation: what an accepted call leaves behind, as a new `HostState` in terms of
the old one.  And one fact for all of them: a refused call leaves the state as it was.

The second needs the world to be consistent.  A source take publishes the map before it replaces
the inventory, so an inventory that could not be replaced would leave the map ahead of the rest.
It can be replaced whenever inventories belong to registered players only
(`WorldState.HoldersRegistered`), which every operation of the world keeps.
-/

namespace ForgottenEngine

open Fallible

/-! ### Registration -/

/-- The inventory tables hold an entry for exactly the registered players. -/
structure WorldState.Registered (w : WorldState) : Prop where
  equipped (p : ℕ) : w.playerEquipments[p]?.isSome = w.players[p]?.isSome
  stored (p : ℕ) : w.playerContainers[p]?.isSome = w.players[p]?.isSome

/-- Only registered players have an entry in the inventory tables. -/
structure WorldState.HoldersRegistered (w : WorldState) : Prop where
  equipped (p : ℕ) : w.playerEquipments[p]?.isSome → w.players[p]?.isSome
  stored (p : ℕ) : w.playerContainers[p]?.isSome → w.players[p]?.isSome

/-- `w'` is `w` with the inventory of player `p` replaced. -/
structure WorldState.InventoryWritten (p : ℕ) (e : PlayerEquipment) (cs : PlayerContainers)
    (w w' : WorldState) : Prop where
  players : w'.players = w.players
  equipments : w'.playerEquipments = w.playerEquipments.insert p e
  containers : w'.playerContainers = w.playerContainers.insert p cs

namespace WorldState

variable {w w' : WorldState} {p : ℕ} {e : PlayerEquipment} {cs : PlayerContainers}

theorem insert_same {ν : Type} {m : BTreeMap ℕ ν} {v : ν} (h : m[p]? = some v) :
    m.insert p v = m := by
  apply Std.ExtTreeMap.ext_getElem?
  intro q
  rw [Std.ExtTreeMap.getElem?_insert]
  by_cases hq : p = q
  · subst hq; simp [h]
  · simp [hq]

theorem Registered.holders (hw : w.Registered) : w.HoldersRegistered where
  equipped p h := (hw.equipped p).symm.trans h
  stored p h := (hw.stored p).symm.trans h

theorem Registered.written (hw : w.Registered) (hp : w.players[p]?.isSome)
    (h : InventoryWritten p e cs w w') : w'.Registered := by
  constructor
  · intro q
    rw [h.players, h.equipments, Std.ExtTreeMap.getElem?_insert, ← hw.equipped q]
    by_cases hq : p = q
    · subst hq
      simpa [hw.equipped] using hp
    · simp [hq]
  · intro q
    rw [h.players, h.containers, Std.ExtTreeMap.getElem?_insert, ← hw.stored q]
    by_cases hq : p = q
    · subst hq
      simpa [hw.stored] using hp
    · simp [hq]

theorem HoldersRegistered.written (hw : w.HoldersRegistered) (hp : w.players[p]?.isSome)
    (h : InventoryWritten p e cs w w') : w'.HoldersRegistered := by
  constructor
  · intro q hq
    rw [h.equipments, Std.ExtTreeMap.getElem?_insert] at hq
    rw [h.players]
    split at hq
    · rename_i heq
      rwa [← Std.LawfulEqCmp.compare_eq_iff_eq.mp heq]
    · exact hw.equipped q hq
  · intro q hq
    rw [h.containers, Std.ExtTreeMap.getElem?_insert] at hq
    rw [h.players]
    split at hq
    · rename_i heq
      rwa [← Std.LawfulEqCmp.compare_eq_iff_eq.mp heq]
    · exact hw.stored q hq

theorem InventoryWritten.equipmentOf (h : InventoryWritten p e cs w w') : w'.equipmentOf p = e := by
  simp [WorldState.equipmentOf, h.equipments]

theorem InventoryWritten.containersOf (h : InventoryWritten p e cs w w') :
    w'.containersOf p = cs := by
  simp [WorldState.containersOf, h.containers]

/-- The replacement of the equipment of a registered player. -/
theorem replaceEquipment_written {cs₀ : PlayerContainers} (hp : w.players[p]?.isSome)
    (he : w.playerEquipments[p]?.isSome) (hcs : w.playerContainers[p]? = some cs₀)
    (e : PlayerEquipment) :
    ∃ b w', World.replacePlayerEquipment p e w = (.ok b, w') ∧ InventoryWritten p e cs₀ w w' := by
  obtain ⟨player, hplayer⟩ := Option.isSome_iff_exists.mp hp
  obtain ⟨e₀, he₀⟩ := Option.isSome_iff_exists.mp he
  unfold World.replacePlayerEquipment
  rw [bind_of_ok (World.requirePlayer_eq_ok.mpr ⟨hplayer, rfl⟩),
    bind_of_ok (World.playerEquipment_eq_ok.mpr ⟨he₀, rfl⟩)]
  by_cases hsame : e₀ = e
  · subst hsame
    refine ⟨false, w, by simp, rfl, (insert_same he₀).symm, (insert_same hcs).symm⟩
  · rw [if_neg hsame]
    exact ⟨true, _, rfl, rfl, rfl, (insert_same hcs).symm⟩

/-- The replacement of the windows of a registered player. -/
theorem replaceContainers_written {e₀ : PlayerEquipment} (hp : w.players[p]?.isSome)
    (hcs : w.playerContainers[p]?.isSome) (he : w.playerEquipments[p]? = some e₀)
    (cs : PlayerContainers) :
    ∃ b w', World.replacePlayerContainers p cs w = (.ok b, w') ∧ InventoryWritten p e₀ cs w w' := by
  obtain ⟨player, hplayer⟩ := Option.isSome_iff_exists.mp hp
  obtain ⟨cs₀, hcs₀⟩ := Option.isSome_iff_exists.mp hcs
  unfold World.replacePlayerContainers
  rw [bind_of_ok (World.requirePlayer_eq_ok.mpr ⟨hplayer, rfl⟩),
    bind_of_ok (World.playerContainers_eq_ok.mpr ⟨hcs₀, rfl⟩)]
  by_cases hsame : cs₀ = cs
  · subst hsame
    refine ⟨false, w, by simp, rfl, (insert_same he).symm, (insert_same hcs₀).symm⟩
  · rw [if_neg hsame]
    exact ⟨true, _, rfl, rfl, (insert_same he).symm, rfl⟩

theorem containers_of_replaceEquipment {b : Bool}
    (h : World.replacePlayerEquipment p e w = (.ok b, w')) :
    w'.playerContainers = w.playerContainers := by
  simp only [World.replacePlayerEquipment, bind_eq_ok, World.requirePlayer_eq_ok,
    World.playerEquipment_eq_ok] at h
  obtain ⟨_, _, ⟨-, rfl⟩, _, _, ⟨-, rfl⟩, h⟩ := h
  split at h
  · cases h
    rfl
  · cases h
    rfl

theorem equipments_of_replaceContainers {b : Bool}
    (h : World.replacePlayerContainers p cs w = (.ok b, w')) :
    w'.playerEquipments = w.playerEquipments := by
  simp only [World.replacePlayerContainers, bind_eq_ok, World.requirePlayer_eq_ok,
    World.playerContainers_eq_ok] at h
  obtain ⟨_, _, ⟨-, rfl⟩, _, _, ⟨-, rfl⟩, h⟩ := h
  split at h
  · cases h
    rfl
  · cases h
    rfl

end WorldState

namespace Host

open WorldState

variable {s s' : HostState} {α : Type} {p : ℕ}

/-! ### The steps operations are built from -/

@[simp] theorem ofExcept_eq_ok {x : Except Refusal α} {a : α} :
    (ofExcept x : HostM α) s = (.ok a, s') ↔ x = .ok a ∧ s' = s := by
  simp [eq_comm]

@[simp] theorem read_eq_ok {f : HostState → α} {a : α} :
    (read f : HostM α) s = (.ok a, s') ↔ f s = a ∧ s' = s := by
  simp [eq_comm]

@[simp] theorem core_eq_ok {x : Except CoreError α} {a : α} :
    core x s = (.ok a, s') ↔ x = .ok a ∧ s' = s := by
  simp only [core, ofExcept_eq_ok, mapError_eq_ok]

@[simp] theorem orConfiguration_eq_ok {x : Option α} {message : String} {a : α} :
    orConfiguration x message s = (.ok a, s') ↔ x = some a ∧ s' = s := by
  simp [orConfiguration]

@[simp] theorem requirePlayer_eq_ok {player : Player} :
    requirePlayer p s = (.ok player, s') ↔ s.world.players[p]? = some player ∧ s' = s :=
  readOr_eq_ok

@[simp] theorem playerEquipment_eq_ok {e : PlayerEquipment} :
    playerEquipment p s = (.ok e, s') ↔ s.world.playerEquipments[p]? = some e ∧ s' = s :=
  readOr_eq_ok

@[simp] theorem playerContainers_eq_ok {cs : PlayerContainers} :
    playerContainers p s = (.ok cs, s') ↔ s.world.playerContainers[p]? = some cs ∧ s' = s :=
  readOr_eq_ok

@[simp] theorem tileItems_eq_ok {position : Position} {items : List WorldMapItem} :
    tileItems position s = (.ok items, s') ↔ s.map.map.tileItemsAt position = some items ∧ s' = s :=
  readOr_eq_ok

@[simp] theorem stage_eq_ok {refuse : CoreError → Refusal} {m : WorldM α} {a : α}
    {staged : WorldState} :
    stage refuse m s = (.ok (a, staged), s') ↔
      m s.world.toWorldState = (.ok a, staged) ∧ s' = s := by
  unfold stage
  rcases m s.world.toWorldState with ⟨e | b, w⟩ <;> simp [eq_comm]

@[simp] theorem stagedInventory_eq_ok {staged : WorldState} {e : PlayerEquipment}
    {cs : PlayerContainers} :
    stagedInventory p staged s = (.ok (e, cs), s') ↔
      staged.playerEquipments[p]? = some e ∧ staged.playerContainers[p]? = some cs ∧ s' = s := by
  simp only [stagedInventory, bind_eq_ok, ofOption_eq_ok, pure_apply, Prod.mk.injEq, Except.ok.injEq]
  constructor
  · rintro ⟨_, _, ⟨he, rfl⟩, _, _, ⟨hcs, rfl⟩, ⟨rfl, rfl⟩, rfl⟩
    exact ⟨he, hcs, rfl⟩
  · rintro ⟨he, hcs, rfl⟩
    exact ⟨e, s', ⟨he, rfl⟩, cs, s', ⟨hcs, rfl⟩, ⟨rfl, rfl⟩, rfl⟩

@[simp] theorem nextOrdinal_eq_ok {position : Position} {ordinal : ℕ} :
    nextOrdinal position s = (.ok ordinal, s') ↔
      s.map.runtimeCount position ≤ u8Max ∧ ordinal = s.map.runtimeCount position ∧ s' = s := by
  simp only [nextOrdinal, failCore, bind_eq_ok, read_eq_ok, guard_eq_ok, pure_apply, Prod.mk.injEq,
    Except.ok.injEq]
  constructor
  · rintro ⟨_, _, ⟨rfl, rfl⟩, hle, rfl, rfl⟩
    exact ⟨by omega, rfl, rfl⟩
  · rintro ⟨hle, rfl, rfl⟩
    exact ⟨_, s', ⟨rfl, rfl⟩, by omega, rfl, rfl⟩

theorem readOnly_stage (refuse : CoreError → Refusal) (m : WorldM α) :
    ReadOnly (stage refuse m) := by
  intro s
  unfold stage
  rcases m s.world.toWorldState with ⟨e | a, w⟩ <;> rfl

theorem readOnly_core (x : Except CoreError α) : ReadOnly (core x) := .ofExcept _

theorem readOnly_orConfiguration (x : Option α) (message : String) :
    ReadOnly (orConfiguration x message) := .ofOption _ _

theorem readOnly_stagedInventory (staged : WorldState) : ReadOnly (stagedInventory p staged) :=
  .bind (.ofOption _ _) fun _ => .bind (.ofOption _ _) fun _ => .pure _

theorem readOnly_nextOrdinal (position : Position) : ReadOnly (nextOrdinal position) :=
  .bind (.read _) fun _ => .ite (.fail _) (.pure _)

theorem readOnly_checkCarriedWeight (weights : Option (BTreeMap ℕ ℕ)) (e : PlayerEquipment)
    (cs : PlayerContainers) : ReadOnly (checkCarriedWeight p weights e cs) := by
  cases weights with
  | none => exact .pure ()
  | some weights => exact .bind (.readOr _ _) fun _ => .ite (.fail _) (.pure ())

/-! ### Commits -/

/-- A save fails, and nothing changed, or it succeeds. -/
theorem persist_cases (save : EngineDatabase → Except PersistenceError EngineDatabase)
    (s : HostState) :
    (∃ e, persist save s = (.error e, s)) ∨
      ∃ database, save s.database = .ok database ∧
        persist save s = (.ok (), { s with database }) := by
  unfold persist
  rw [bind_of_ok (read_apply HostState.database s)]
  cases h : save s.database with
  | error e =>
    left
    exact ⟨.failed (.persistence e), bind_of_error rfl⟩
  | ok database =>
    right
    exact ⟨database, rfl, bind_of_ok rfl⟩

theorem persist_eq_ok {save : EngineDatabase → Except PersistenceError EngineDatabase} {u : Unit} :
    persist save s = (.ok u, s') ↔
      ∃ database, save s.database = .ok database ∧ s' = { s with database } := by
  rcases persist_cases save s with ⟨e, h⟩ | ⟨database, hsave, h⟩
  · have hnone : ∀ database, save s.database ≠ .ok database := by
      intro database hok
      rw [persist, bind_of_ok (read_apply HostState.database s), hok] at h
      cases h
    rw [h]
    simp [hnone]
  · rw [h, hsave]
    simp [eq_comm]

theorem persist_atomic (save : EngineDatabase → Except PersistenceError EngineDatabase)
    (s : HostState) : AtomicAt (persist save) s := by
  intro r t h
  rcases persist_cases save s with ⟨r', hr⟩ | ⟨_, _, hok⟩
  · rw [hr] at h
    cases h
    rfl
  · rw [hok] at h
    cases h

theorem onWorld_of_ok {m : WorldM α} {a : α} {w : WorldState}
    (h : m s.world.toWorldState = (.ok a, w)) :
    onWorld m s = (.ok a, { s with world := { s.world with toWorldState := w } }) := by
  unfold onWorld
  rw [h]

/-- **A runtime move is committed as a whole or not at all.** -/
theorem commitRuntimeMove_cases {e₀ : PlayerEquipment} {cs₀ : PlayerContainers}
    (hp : s.world.players[p]?.isSome) (he₀ : s.world.playerEquipments[p]? = some e₀)
    (hcs₀ : s.world.playerContainers[p]? = some cs₀) (e : PlayerEquipment) (cs : PlayerContainers) (nextMap : WorldMap)
    (nextRegistry : List RuntimeMapItemRecord) :
    (∃ r, commitRuntimeMove p e cs nextMap nextRegistry s = (.error r, s)) ∨
      ∃ database w', s.database.replacePlayerInventoryAndRuntimeMapItems p e cs
          s.map.sourceRevision nextRegistry = .ok database ∧
        InventoryWritten p e cs s.world.toWorldState w' ∧
        commitRuntimeMove p e cs nextMap nextRegistry s = (.ok (), {
          world := { s.world with toWorldState := w' }
          map := { s.map with
            map := nextMap, runtimeTileItems := nextRegistry, revision := s.map.revision + 1 }
          database }) := by
  unfold commitRuntimeMove
  rw [bind_of_ok (read_apply _ s)]
  rcases persist_cases (fun database => database.replacePlayerInventoryAndRuntimeMapItems p e cs
      s.map.sourceRevision nextRegistry) s with ⟨r, hr⟩ | ⟨database, hsave, hok⟩
  · exact .inl ⟨r, bind_of_error hr⟩
  · right
    have he : s.world.playerEquipments[p]?.isSome := by rw [he₀]; rfl
    obtain ⟨b, w₁, hrun₁, hw₁⟩ := replaceEquipment_written hp he hcs₀ e
    have hp₁ : w₁.players[p]?.isSome := by rw [hw₁.players]; exact hp
    have hcs₁ : w₁.playerContainers[p]?.isSome := by rw [hw₁.containers]; simp
    have he₁ : w₁.playerEquipments[p]? = some e := by rw [hw₁.equipments]; simp
    obtain ⟨b', w₂, hrun₂, hw₂⟩ := replaceContainers_written hp₁ hcs₁ he₁ cs
    have hwritten : InventoryWritten p e cs s.world.toWorldState w₂ := by
      refine ⟨by rw [hw₂.players, hw₁.players], ?_, ?_⟩
      · rw [hw₂.equipments, insert_same he₁, hw₁.equipments]
      · rw [hw₂.containers, hw₁.containers, insert_same hcs₀]
    refine ⟨database, w₂, hsave, hwritten, ?_⟩
    have hstep₁ := onWorld_of_ok (s := { s with database }) hrun₁
    have hstep₂ := onWorld_of_ok
      (s := ⟨{ s.world with toWorldState := w₁ }, s.map, database⟩) hrun₂
    exact (bind_of_ok hok).trans ((bind_of_ok hstep₁).trans (bind_of_ok hstep₂))

theorem commitRuntimeMove_atomic {e₀ : PlayerEquipment} {cs₀ : PlayerContainers}
    (hp : s.world.players[p]?.isSome) (he₀ : s.world.playerEquipments[p]? = some e₀)
    (hcs₀ : s.world.playerContainers[p]? = some cs₀) (e : PlayerEquipment) (cs : PlayerContainers) (nextMap : WorldMap)
    (nextRegistry : List RuntimeMapItemRecord) :
    AtomicAt (commitRuntimeMove p e cs nextMap nextRegistry) s := by
  intro r t h
  rcases commitRuntimeMove_cases hp he₀ hcs₀ e cs nextMap nextRegistry with ⟨r', hr⟩ | ⟨_, _, _, _, hok⟩
  · rw [hr] at h
    cases h
    rfl
  · rw [hok] at h
    cases h

end Host

/-! ### Drops -/

/-- What an accepted drop leaves behind: the stack `moved` has left the inventory `e`, `cs`, and
lies on the tile as the last entry of its list and of the registry. -/
structure GroundDropped (p : ℕ) (source : PlayerGroundDropSource) (target : Position) (n : ℕ)
    (s s' : HostState) (e : PlayerEquipment) (cs : PlayerContainers) (moved : ItemInstance)
    (e' : PlayerEquipment) (cs' : PlayerContainers) (nextMap : WorldMap) : Prop where
  tile : ∃ tile, s.map.map.tile target = some tile
  near : ∃ player, s.world.players[p]? = some player ∧ player.position.isWithinOneStep target
  equipment : s.world.playerEquipments[p]? = some e
  containers : s.world.playerContainers[p]? = some cs
  taken : InventoryTransfer.Transferred e cs (.groundDrop source n) (some moved) e' cs'
  ordinal : s.map.runtimeCount target ≤ u8Max
  count : 0 < n ∧ moved.count ≤ u8Max
  room : s.map.map.setTileItems target (s.map.map.itemsAt target ++
    [plainMapItem moved.serverId moved.count []]) = .ok nextMap
  map : s'.map = { s.map with
    map := nextMap
    runtimeTileItems := s.map.runtimeTileItems ++
      [⟨target, s.map.runtimeCount target, moved.serverId, moved.count, [], none⟩]
    revision := s.map.revision + 1 }
  saved : s.database.replacePlayerInventoryAndRuntimeMapItems p e' cs' s.map.sourceRevision
    s'.map.runtimeTileItems = .ok s'.database
  written : WorldState.InventoryWritten p e' cs' s.world.toWorldState s'.world.toWorldState

namespace Host

open WorldState World InventoryTransfer

variable {s s' : HostState} {p : ℕ}

/-- What the staged world of a drop holds for the player. -/
theorem takeForDrop_staged {source : PlayerGroundDropSource} {n : ℕ} {w staged : WorldState}
    {out : PlayerGroundDropOutcome}
    (h : takePlayerStackForGroundDrop p source n w = (.ok out, staged)) :
    ∃ e cs e' cs', w.playerEquipments[p]? = some e ∧ w.playerContainers[p]? = some cs ∧
      Transferred e cs (.groundDrop source n) (some out.movedItem) e' cs' ∧
      staged.playerEquipments[p]? = some e' ∧ staged.playerContainers[p]? = some cs' := by
  simp only [takePlayerStackForGroundDrop, bind_eq_ok, World.playerEquipment_eq_ok,
    World.playerContainers_eq_ok, Fallible.ofExcept_apply, Prod.mk.injEq] at h
  obtain ⟨e, _, ⟨he, rfl⟩, cs, _, ⟨hcs, rfl⟩, ⟨moved, k, e', cs'⟩, _, ⟨hprep, rfl⟩, h⟩ := h
  have ht := prepareGroundDrop_transferred hprep
  refine ⟨e, cs, e', cs', he, hcs, ?_⟩
  cases source with
  | equipmentSlot slot =>
    simp at h
    obtain ⟨rfl, rfl⟩ := h
    exact ⟨ht, by simp, by simp⟩
  | containerItem id i =>
    simp at h
    obtain ⟨rfl, rfl⟩ := h
    cases ht with
    | dropContainerItem hc hx hsplit =>
      exact ⟨.dropContainerItem hc hx hsplit, by simpa using he, by simp⟩
  | containerContent id i j =>
    simp at h
    obtain ⟨rfl, rfl⟩ := h
    cases ht with
    | dropContainerContent hc hx hsplit =>
      exact ⟨.dropContainerContent hc hx hsplit, by simpa using he, by simp⟩

/-- **What an accepted drop does.** -/
theorem movePlayerStackToGround_eq_ok {source : PlayerGroundDropSource} {target : Position} {n : ℕ} {weights : Option (BTreeMap ℕ ℕ)} {out : PlayerGroundDropOutcome}
    (h : movePlayerStackToGround p source target n weights s = (.ok out, s')) :
    ∃ e cs e' cs' nextMap,
      GroundDropped p source target n s s' e cs out.movedItem e' cs' nextMap := by
  simp only [movePlayerStackToGround, bind_eq_ok, read_eq_ok, ofOption_eq_ok, guard_eq_ok,
    requirePlayer_eq_ok] at h
  obtain ⟨_, _, ⟨rfl, rfl⟩, tile, _, ⟨htile, rfl⟩, -, player, _, ⟨hplayer, rfl⟩, hnear, hfull,
    hcount, ⟨o, staged⟩, _, hstage, h⟩ := h
  obtain ⟨htake, rfl⟩ := stage_eq_ok.mp hstage
  simp only [nextOrdinal_eq_ok, core_eq_ok] at h
  obtain ⟨_, _, ⟨hord, rfl, rfl⟩, hbound, nextMap, _, ⟨hroom, rfl⟩, ⟨e', cs'⟩, _, hinv, _, t, hgate,
    _, u, hcommit, hout⟩ := h
  obtain ⟨he', hcs', rfl⟩ := stagedInventory_eq_ok.mp hinv
  obtain rfl := (readOnly_checkCarriedWeight weights e' cs').state_eq hgate
  obtain ⟨rfl, rfl⟩ : out = o ∧ s' = u := by
    simpa [eq_comm] using hout
  obtain ⟨e, cs, e₁, cs₁, he, hcs, ht, he₁, hcs₁⟩ := takeForDrop_staged htake
  obtain rfl : e' = e₁ := Option.some.inj (he'.symm.trans he₁)
  obtain rfl : cs' = cs₁ := Option.some.inj (hcs'.symm.trans hcs₁)
  rcases commitRuntimeMove_cases (Option.isSome_iff_exists.mpr ⟨player, hplayer⟩) he hcs e' cs'
    nextMap _ with ⟨r, hr⟩ | ⟨database, w', hsave, hwritten, hok⟩
  · rw [hr] at hcommit
    cases hcommit
  · rw [hok] at hcommit
    cases hcommit
    exact ⟨e, cs, e', cs', nextMap, {
      tile := ⟨tile, htile⟩
      near := ⟨player, hplayer, by simpa using hnear⟩
      equipment := he
      containers := hcs
      taken := ht
      ordinal := hord
      count := by omega
      room := hroom
      map := rfl
      saved := hsave
      written := hwritten }⟩

theorem movePlayerStackToGround_atomic (source : PlayerGroundDropSource)
    (target : Position) (n : ℕ) (weights : Option (BTreeMap ℕ ℕ)) :
    AtomicAt (movePlayerStackToGround p source target n weights) s := by
  refine .bind (.read _) fun self _ => .bind (.ofOption _ _) fun tile _ =>
    .ite (fun _ => (ReadOnly.fail _).atomicAt s) fun _ =>
    .bind (.readOr _ _) fun player hplayer => ?_
  have hp : s.world.players[p]?.isSome :=
    Option.isSome_iff_exists.mpr ⟨player, (requirePlayer_eq_ok.mp hplayer).1⟩
  refine .ite (fun _ => (ReadOnly.fail _).atomicAt s) fun _ =>
    .ite (fun _ => (ReadOnly.fail _).atomicAt s) fun _ =>
    .ite (fun _ => (ReadOnly.fail _).atomicAt s) fun _ =>
    .bind (readOnly_stage _ _) fun ⟨out, staged⟩ hstage =>
    .bind (readOnly_nextOrdinal target) fun ordinal _ =>
    .ite (fun _ => (ReadOnly.fail _).atomicAt s) fun _ =>
    .bind (readOnly_core _) fun nextMap _ => .bind (readOnly_stagedInventory _) fun inventory _ =>
    .bind (readOnly_checkCarriedWeight _ _ _) fun _ _ => ?_
  obtain ⟨e, cs, _, _, he, hcs, -⟩ := takeForDrop_staged (stage_eq_ok.mp hstage).1
  exact .bind_succeeds (commitRuntimeMove_atomic hp he hcs _ _ _ _) fun _ t _ => ⟨_, t, rfl⟩

end Host

/-! ### Pickups -/

/-- How a destination takes the stack in. -/
inductive Admitted (e : PlayerEquipment) (cs : PlayerContainers) (moved : ItemInstance) :
    PlayerGroundDropSource → PlayerEquipment → PlayerContainers → Prop
  | equipped {slot n e'} : e.placeStack slot moved = .ok (n, e') →
      Admitted e cs moved (.equipmentSlot slot) e' cs
  | stored {id i c d items} : cs.container id = some c → c.hasParent = false →
      c.items.mergeOrInsertStack moved = .ok (d, items) →
      Admitted e cs moved (.containerItem id i) e (cs.setItems id items)
  | nowhere {id i j} : Admitted e cs moved (.containerContent id i j) e cs

/-- What an accepted pickup leaves behind: `take` has left the runtime item `mapItem`, and `moved`
is in the inventory. -/
structure RuntimeTaken (p : ℕ) (position : Position) (itemIndex : ℕ) (childIndex : Option ℕ)
    (n : ℕ) (destination : PlayerGroundDropSource) (s s' : HostState) (items : List WorldMapItem)
    (recordIndex : ℕ) (mapItem : WorldMapItem) (take : RuntimeTake) (moved : ItemInstance)
    (e : PlayerEquipment) (cs : PlayerContainers) (e' : PlayerEquipment) (cs' : PlayerContainers)
    (nextMap : WorldMap) : Prop where
  count : 0 < n ∧ n ≤ u8Max
  tile : s.map.map.tileItemsAt position = some items
  tail : s.map.runtimeTailStart position ≤ itemIndex
  record : (s.map.runtimeTileItems.findIdx? fun record => record.position = position ∧
    record.ordinal = itemIndex - s.map.runtimeTailStart position) = some recordIndex
  item : items[itemIndex]? = some mapItem
  took : mapItem.takeRuntime childIndex n = some take
  stack : ItemInstance.new take.moved.serverId take.moved.count = .ok moved
  equipment : s.world.playerEquipments[p]? = some e
  containers : s.world.playerContainers[p]? = some cs
  admitted : Admitted e cs moved destination e' cs'
  registry : take.nextRegistry s.map.runtimeTileItems recordIndex position
    (itemIndex - s.map.runtimeTailStart position) childIndex = .ok s'.map.runtimeTileItems
  room : s.map.map.setTileItems position (take.nextItems items itemIndex mapItem) = .ok nextMap
  map : s'.map = { s.map with
    map := nextMap
    runtimeTileItems := s'.map.runtimeTileItems
    revision := s.map.revision + 1 }
  saved : s.database.replacePlayerInventoryAndRuntimeMapItems p e' cs' s.map.sourceRevision
    s'.map.runtimeTileItems = .ok s'.database
  written : WorldState.InventoryWritten p e' cs' s.world.toWorldState s'.world.toWorldState

namespace Host

open WorldState World InventoryTransfer

variable {s s' : HostState} {p : ℕ}

theorem readOnly_admitTaken (moved : ItemInstance) (destination : PlayerGroundDropSource) :
    ReadOnly (admitTaken p moved destination) := by
  cases destination with
  | equipmentSlot slot =>
    exact .bind (.readOr _ _) fun _ => .bind (.ofExcept _) fun _ =>
      .bind (readOnly_stage _ _) fun _ => .pure _
  | containerItem id i =>
    exact .bind (.readOr _ _) fun _ => .bind (.ofOption _ _) fun _ => .ite (.fail _)
      (.bind (.ofExcept _) fun _ => .bind (readOnly_core _) fun _ =>
        .bind (readOnly_stage _ _) fun _ => .pure _)
  | containerContent id i j => exact .read _

/-- **How a taken stack is admitted.** -/
theorem admitTaken_eq_ok (hw : s.world.HoldersRegistered) {moved : ItemInstance}
    {destination : PlayerGroundDropSource} {staged : WorldState} {e' : PlayerEquipment}
    {cs' : PlayerContainers} (h : admitTaken p moved destination s = (.ok staged, s))
    (he' : staged.playerEquipments[p]? = some e') (hcs' : staged.playerContainers[p]? = some cs') :
    s.world.players[p]?.isSome ∧ ∃ e cs, s.world.playerEquipments[p]? = some e ∧
      s.world.playerContainers[p]? = some cs ∧ Admitted e cs moved destination e' cs' := by
  cases destination with
  | equipmentSlot slot =>
    simp only [admitTaken, bind_eq_ok, playerEquipment_eq_ok, ofExcept_eq_ok, mapError_eq_ok] at h
    obtain ⟨e, _, ⟨he, rfl⟩, ⟨n, e₁⟩, _, ⟨hplace, rfl⟩, ⟨b, w⟩, t, hstage, hout⟩ := h
    obtain ⟨hrun, rfl⟩ := stage_eq_ok.mp hstage
    obtain rfl : staged = w := by simpa [eq_comm] using hout
    have hp := hw.equipped p (by rw [he]; rfl)
    have hcs := hcs'
    rw [containers_of_replaceEquipment hrun] at hcs
    obtain ⟨b', w', hrun', hwritten⟩ :=
      replaceEquipment_written hp (by rw [he]; rfl) hcs e₁
    rw [hrun] at hrun'
    cases hrun'
    obtain rfl : e' = e₁ := by simpa [hwritten.equipments, eq_comm] using he'
    exact ⟨hp, e, cs', he, hcs, .equipped hplace⟩
  | containerItem id i =>
    simp only [admitTaken, bind_eq_ok, playerContainers_eq_ok, ofOption_eq_ok] at h
    obtain ⟨cs, _, ⟨hcs, rfl⟩, ⟨c, rest⟩, _, ⟨hremove, rfl⟩, h⟩ := h
    obtain ⟨hc, rfl⟩ := PlayerContainers.remove_eq_some.mp hremove
    simp only [guard_eq_ok, bind_eq_ok, ofExcept_eq_ok, mapError_eq_ok, core_eq_ok,
      PlayerContainers.insert_without hc] at h
    obtain ⟨hparent, ⟨d, items⟩, _, ⟨hmerge, rfl⟩, ⟨o, cs₁⟩, _, ⟨hins, rfl⟩, ⟨b, w⟩, t, hstage,
      hout⟩ := h
    obtain ⟨hrun, rfl⟩ := stage_eq_ok.mp hstage
    obtain rfl : staged = w := by simpa [eq_comm] using hout
    cases hins
    have hp := hw.stored p (by rw [hcs]; rfl)
    have he := he'
    rw [equipments_of_replaceContainers hrun] at he
    obtain ⟨b', w', hrun', hwritten⟩ :=
      replaceContainers_written hp (by rw [hcs]; rfl) he (cs.setItems id items)
    rw [hrun] at hrun'
    cases hrun'
    obtain rfl : cs' = cs.setItems id items := by
      simpa [hwritten.containers, eq_comm] using hcs'
    exact ⟨hp, e', cs, he, hcs, .stored hc (by simpa using hparent) hmerge⟩
  | containerContent id i j =>
    obtain ⟨rfl, -⟩ : s.world.toWorldState = staged ∧ s = s := by
      simpa [admitTaken] using h
    exact ⟨hw.equipped p (by rw [he']; rfl), e', cs', he', hcs', .nowhere⟩

/-- **What an accepted pickup does.** -/
theorem moveRuntimeItemToInventory_eq_ok (hw : s.world.HoldersRegistered) {position : Position}
    {itemIndex : ℕ} {childIndex : Option ℕ} {n : ℕ} {destination : PlayerGroundDropSource}
    {weights : Option (BTreeMap ℕ ℕ)} {out : PlayerGroundDropOutcome}
    (h : moveRuntimeItemToInventory p position itemIndex childIndex n destination weights s =
      (.ok out, s')) :
    ∃ items recordIndex mapItem take e cs e' cs' nextMap,
      RuntimeTaken p position itemIndex childIndex n destination s s' items recordIndex mapItem
        take out.movedItem e cs e' cs' nextMap := by
  simp only [moveRuntimeItemToInventory, guard_eq_ok, bind_eq_ok, read_eq_ok, ofOption_eq_ok,
    core_eq_ok] at h
  obtain ⟨hcount, _, _, ⟨rfl, rfl⟩, items, _, ⟨hitems, rfl⟩, hrange, -, recordIndex, _,
    ⟨hrecord, rfl⟩, mapItem, _, ⟨hitem, rfl⟩, take, _, ⟨htake, rfl⟩, moved, _, ⟨hmoved, rfl⟩,
    staged, t, hadmit, nextRegistry, _, hreg, nextMap, _, ⟨hroom, rfl⟩, ⟨e', cs'⟩, _, hinv, _, v,
    hgate, _, u, hcommit, hout⟩ := h
  obtain rfl := (readOnly_admitTaken moved destination).state_eq hadmit
  obtain ⟨hreg, rfl⟩ := ofExcept_eq_ok.mp hreg
  obtain ⟨he', hcs', rfl⟩ := stagedInventory_eq_ok.mp hinv
  obtain rfl := (readOnly_checkCarriedWeight weights e' cs').state_eq hgate
  obtain ⟨rfl, rfl⟩ : out = ⟨p, destination, moved, take.sourceRemainingCount⟩ ∧ s' = u := by
    simpa [eq_comm] using hout
  obtain ⟨hp, e, cs, he, hcs, hadmitted⟩ := admitTaken_eq_ok hw hadmit he' hcs'
  rcases commitRuntimeMove_cases hp he hcs e' cs' nextMap nextRegistry with
    ⟨r, hr⟩ | ⟨database, w', hsave, hwritten, hok⟩
  · rw [hr] at hcommit
    cases hcommit
  · rw [hok] at hcommit
    cases hcommit
    exact ⟨items, recordIndex, mapItem, take, e, cs, e', cs', nextMap, {
      count := by omega
      tile := hitems
      tail := by omega
      record := hrecord
      item := hitem
      took := htake
      stack := hmoved
      equipment := he
      containers := hcs
      admitted := hadmitted
      registry := mapError_eq_ok.mp hreg
      room := hroom
      map := rfl
      saved := hsave
      written := hwritten }⟩

theorem moveRuntimeItemToInventory_atomic (hw : s.world.HoldersRegistered) (position : Position)
    (itemIndex : ℕ) (childIndex : Option ℕ) (n : ℕ) (destination : PlayerGroundDropSource)
    (weights : Option (BTreeMap ℕ ℕ)) :
    AtomicAt (moveRuntimeItemToInventory p position itemIndex childIndex n destination weights)
      s := by
  refine .ite (fun _ => (ReadOnly.fail _).atomicAt s) fun _ => .bind (.read _) fun self _ =>
    .bind (.ofOption _ _) fun items _ => .ite (fun _ => (ReadOnly.fail _).atomicAt s) fun _ =>
    .ite (fun _ => (ReadOnly.fail _).atomicAt s) fun _ => .bind (.ofOption _ _) fun recordIndex _ =>
    .bind (.ofOption _ _) fun mapItem _ => .bind (.ofOption _ _) fun take _ =>
    .bind (readOnly_core _) fun moved _ => .bind (readOnly_admitTaken _ _) fun staged hadmit =>
    .bind (.ofExcept _) fun nextRegistry _ => .bind (readOnly_core _) fun nextMap _ =>
    .bind (readOnly_stagedInventory _) fun ⟨e', cs'⟩ hinv =>
    .bind (readOnly_checkCarriedWeight _ _ _) fun _ _ => ?_
  obtain ⟨he', hcs', -⟩ := stagedInventory_eq_ok.mp hinv
  obtain ⟨hp, e, cs, he, hcs, -⟩ := admitTaken_eq_ok hw hadmit he' hcs'
  exact .bind_succeeds (commitRuntimeMove_atomic hp he hcs _ _ _ _) fun _ t _ => ⟨_, t, rfl⟩

end Host

/-! ### Takes of source items -/

/-- The indices of a tile after one entry is dropped; a tile without indices has no entry. -/
def SharedNativeMap.indicesWithout (m : SharedNativeMap) (position : Position)
    (indices : List ℕ) (k : ℕ) : BTreeMap Position (List ℕ) :=
  if indices.eraseIdx k = [] then m.sourceItemIndices.erase position
  else m.sourceItemIndices.insert position (indices.eraseIdx k)

/-- What a take of `requested` of `runtimeItem.count` units does to the tables of the map. -/
inductive SourceChange (m : SharedNativeMap) (position : Position) (k index : ℕ)
    (runtimeItem : WorldMapItem) (requested : ℕ) : SharedNativeMap → Prop
  | whole {nextMap indices overrides} : requested = runtimeItem.count →
      m.sourceItemIndices[position]? = some indices →
      m.map.setTileItems position ((m.map.itemsAt position).eraseIdx k) = .ok nextMap →
      (overrides = m.sourceItemCountOverrides ∧
          (m.source.itemsAt position)[index]? = some runtimeItem ∨
        overrides = m.sourceItemCountOverrides.erase ⟨m.sourceRevision, position, index⟩) →
      SourceChange m position k index runtimeItem requested { m with
        map := nextMap
        sourceItemIndices := m.indicesWithout position indices k
        removedSourceItems := m.removedSourceItems.insert ⟨m.sourceRevision, position, index⟩
        sourceItemCountOverrides := overrides
        revision := m.revision + 1 }
  | part {nextMap} : requested < runtimeItem.count →
      m.map.setTileItems position ((m.map.itemsAt position).modify k
        fun item => { item with count := runtimeItem.count - requested }) = .ok nextMap →
      SourceChange m position k index runtimeItem requested { m with
        map := nextMap
        sourceItemCountOverrides := m.sourceItemCountOverrides.insert
          ⟨m.sourceRevision, position, index⟩ (runtimeItem.count - requested)
        revision := m.revision + 1 }

/-- What an accepted source take leaves behind. -/
structure SourceTaken (p : ℕ) (position : Position) (k requested : ℕ)
    (destination : PlayerGroundDropSource) (s s' : HostState) (index : ℕ)
    (runtimeItem : WorldMapItem) (item : ItemInstance) (e : PlayerEquipment)
    (cs : PlayerContainers) (e' : PlayerEquipment) (cs' : PlayerContainers) : Prop where
  indexed : (s.map.sourceItemIndices[position]?.bind (·[k]?)) = some index
  bound : ∃ sourceItem, (s.map.source.itemsAt position)[index]? = some sourceItem
  runtime : (s.map.map.itemsAt position)[k]? = some runtimeItem
  present : ⟨s.map.sourceRevision, position, index⟩ ∉ s.map.removedSourceItems
  units : 0 < requested ∧ requested ≤ runtimeItem.count ∧ runtimeItem.count ≤ maxItemStackCount
  plain : runtimeItem.children = []
  moved : item = ⟨runtimeItem.serverId, requested, runtimeItem.actionId, runtimeItem.uniqueId, []⟩
  equipment : s.world.playerEquipments[p]? = some e
  containers : s.world.playerContainers[p]? = some cs
  admitted : Admitted e cs item destination e' cs'
  map : SourceChange s.map position k index runtimeItem requested s'.map
  saved : (s.database.replacePlayerInventoryAndMapItemRemovalJournal p e' cs'
        s'.map.removalJournal = .ok s'.database ∧
      s'.map.sourceItemCountOverrides = s.map.sourceItemCountOverrides) ∨
    s.database.replacePlayerInventoryAndMapItemState p e' cs' s'.map.removalJournal
      s'.map.countOverrides = .ok s'.database
  written : WorldState.InventoryWritten p e' cs' s.world.toWorldState s'.world.toWorldState

namespace Host

open WorldState World

variable {s s' : HostState} {p : ℕ} {position : Position} {k : ℕ}

/-! #### The checks -/

@[simp] theorem checkNotRemoved_eq_ok {identity : WorldMapItemSourceIdentity} {u : Unit} :
    checkNotRemoved identity s = (.ok u, s') ↔
      identity ∉ s.map.removedSourceItems ∧ s' = s := by
  simp only [checkNotRemoved, bind_eq_ok, read_eq_ok, guard_eq_ok, pure_apply, Prod.mk.injEq,
    true_and]
  constructor
  · rintro ⟨_, _, ⟨rfl, rfl⟩, hnot, rfl⟩
    exact ⟨hnot, rfl⟩
  · rintro ⟨hnot, rfl⟩
    exact ⟨_, _, ⟨rfl, rfl⟩, hnot, rfl⟩

theorem itemNew_eq_ok {serverId count : ℕ} {x : ItemInstance} :
    ItemInstance.new serverId count = .ok x ↔
      serverId ≠ 0 ∧ (1 ≤ count ∧ count ≤ maxItemStackCount) ∧
        x = ⟨serverId, count, none, none, []⟩ := by
  unfold ItemInstance.new
  split
  · simp [*]
  · split
    · simp only [reduceCtorEq, false_iff]
      intro h
      exact ‹¬(_ ∧ _)› h.2.1
    · rename_i h0 hcount
      have hcount : 1 ≤ count ∧ count ≤ maxItemStackCount := not_not.mp hcount
      simp [h0, hcount, eq_comm]

/-- The inventory form of a plain map item. -/
theorem plainSource_eq_ok {item : WorldMapItem} {x : ItemInstance} :
    plainSourceMapItemToInventoryItem item s = (.ok x, s') →
      s' = s ∧ item.children = [] ∧ item.count ≤ maxItemStackCount ∧
        x = ⟨item.serverId, item.count, item.actionId, item.uniqueId, []⟩ := by
  intro h
  simp only [plainSourceMapItemToInventoryItem, guard_eq_ok, bind_eq_ok, core_eq_ok] at h
  obtain ⟨hplain, y, _, ⟨hnew, rfl⟩, hout⟩ := h
  obtain ⟨-, hcount, rfl⟩ := itemNew_eq_ok.mp hnew
  obtain ⟨rfl, rfl⟩ : x = _ ∧ s' = _ := by simpa [eq_comm] using hout
  have hchildren : item.children = [] := by
    by_contra hne
    exact hplain (.inl hne)
  exact ⟨rfl, hchildren, hcount.2, rfl⟩

theorem resolveSourceItem_eq_ok {runtimeItem : WorldMapItem}
    {identity : WorldMapItemSourceIdentity}
    (h : resolveSourceItem position k s = (.ok (runtimeItem, identity), s')) :
    s' = s ∧ (s.map.map.itemsAt position)[k]? = some runtimeItem ∧
      ∃ index, (s.map.sourceItemIndices[position]?.bind (·[k]?)) = some index ∧
        (∃ sourceItem, (s.map.source.itemsAt position)[index]? = some sourceItem) ∧
        identity = ⟨s.map.sourceRevision, position, index⟩ := by
  simp only [resolveSourceItem, bind_eq_ok, read_eq_ok, ofOption_eq_ok, orConfiguration_eq_ok] at h
  obtain ⟨_, _, ⟨rfl, rfl⟩, item, _, ⟨hitem, rfl⟩, index, _, ⟨hindex, rfl⟩, id, _, ⟨hid, rfl⟩,
    hout⟩ := h
  obtain ⟨⟨rfl, rfl⟩, rfl⟩ : (runtimeItem = item ∧ identity = id) ∧ s' = _ := by
    simpa [eq_comm] using hout
  obtain ⟨hbound, -, rfl⟩ := WorldMap.sourceItemIdentity_eq_some.mp hid
  exact ⟨rfl, hitem, index, hindex, hbound, rfl⟩

theorem resolveWhole_eq_ok {item : ItemInstance} {identity : WorldMapItemSourceIdentity}
    (h : resolveWhole position k s = (.ok (item, identity), s')) :
    s' = s ∧ ∃ index runtimeItem, (s.map.map.itemsAt position)[k]? = some runtimeItem ∧
      (s.map.sourceItemIndices[position]?.bind (·[k]?)) = some index ∧
      (s.map.source.itemsAt position)[index]? = some runtimeItem ∧
      identity = ⟨s.map.sourceRevision, position, index⟩ ∧
      runtimeItem.children = [] ∧ runtimeItem.count ≤ maxItemStackCount ∧
      0 < runtimeItem.count ∧
      item = ⟨runtimeItem.serverId, runtimeItem.count, runtimeItem.actionId,
        runtimeItem.uniqueId, []⟩ := by
  simp only [resolveWhole, bind_eq_ok] at h
  obtain ⟨⟨runtimeItem, id⟩, t, hresolve, h⟩ := h
  obtain ⟨rfl, hitem, index, hindex, -, rfl⟩ := resolveSourceItem_eq_ok hresolve
  simp only [bind_eq_ok, read_eq_ok, guard_eq_ok] at h
  obtain ⟨_, _, ⟨rfl, rfl⟩, hsame, x, u, hplain, hout⟩ := h
  obtain ⟨rfl, hchildren, hcount, rfl⟩ := plainSource_eq_ok hplain
  obtain ⟨⟨rfl, rfl⟩, rfl⟩ : (item = _ ∧ identity = _) ∧ s' = _ := by
    simpa [eq_comm] using hout
  have hpos : 0 < runtimeItem.count := by
    simp only [plainSourceMapItemToInventoryItem, guard_eq_ok, bind_eq_ok, core_eq_ok] at hplain
    obtain ⟨-, y, _, ⟨hnew, -⟩, -⟩ := hplain
    exact (itemNew_eq_ok.mp hnew).2.1.1
  exact ⟨rfl, index, runtimeItem, hitem, hindex, not_not.mp hsame, rfl, hchildren, hcount, hpos,
    rfl⟩

theorem resolveStack_eq_ok {requested available : ℕ} {item : ItemInstance}
    {identity : WorldMapItemSourceIdentity}
    (h : resolveStack position k requested s = (.ok (item, identity, available), s')) :
    s' = s ∧ ∃ index runtimeItem, (s.map.map.itemsAt position)[k]? = some runtimeItem ∧
      (s.map.sourceItemIndices[position]?.bind (·[k]?)) = some index ∧
      (∃ sourceItem, (s.map.source.itemsAt position)[index]? = some sourceItem) ∧
      identity = ⟨s.map.sourceRevision, position, index⟩ ∧ identity ∉ s.map.removedSourceItems ∧
      runtimeItem.children = [] ∧ runtimeItem.count ≤ maxItemStackCount ∧
      available = runtimeItem.count ∧ 0 < requested ∧ requested ≤ available ∧
      item = ⟨runtimeItem.serverId, requested, runtimeItem.actionId, runtimeItem.uniqueId, []⟩ := by
  simp only [resolveStack, bind_eq_ok] at h
  obtain ⟨⟨runtimeItem, id⟩, t, hresolve, h⟩ := h
  obtain ⟨rfl, hitem, index, hindex, hbound, rfl⟩ := resolveSourceItem_eq_ok hresolve
  simp only [bind_eq_ok, read_eq_ok, guard_eq_ok, orConfiguration_eq_ok, checkNotRemoved_eq_ok,
    failCore] at h
  obtain ⟨_, _, ⟨rfl, rfl⟩, sourceItem, _, ⟨-, rfl⟩, -, _, _, ⟨hnot, rfl⟩, hcount, x, u, hplain,
    hout⟩ := h
  obtain ⟨rfl, hchildren, hmax, rfl⟩ := plainSource_eq_ok hplain
  obtain ⟨⟨rfl, rfl, rfl⟩, rfl⟩ : (item = _ ∧ identity = _ ∧ available = _) ∧ s' = _ := by
    simpa [eq_comm] using hout
  exact ⟨rfl, index, runtimeItem, hitem, hindex, hbound, rfl, hnot, hchildren, hmax, rfl,
    by omega, by omega, rfl⟩

theorem storeInTopLevelContainer_eq_ok {cs cs' : PlayerContainers} {id : ℕ} {x : ItemInstance}
    (e : PlayerEquipment) (h : storeInTopLevelContainer cs id x s = (.ok cs', s')) :
    s' = s ∧ Admitted e cs x (.containerItem id 0) e cs' := by
  simp only [storeInTopLevelContainer, bind_eq_ok, orConfiguration_eq_ok] at h
  obtain ⟨⟨c, rest⟩, _, ⟨hremove, rfl⟩, h⟩ := h
  obtain ⟨hc, rfl⟩ := PlayerContainers.remove_eq_some.mp hremove
  simp only [guard_eq_ok, bind_eq_ok, core_eq_ok, PlayerContainers.insert_without hc] at h
  obtain ⟨hparent, ⟨d, items⟩, _, ⟨hmerge, rfl⟩, ⟨o, cs₁⟩, _, ⟨hins, rfl⟩, hout⟩ := h
  cases hins
  obtain ⟨rfl, rfl⟩ : cs' = _ ∧ s' = _ := by simpa [eq_comm] using hout
  exact ⟨rfl, .stored hc (by simpa using hparent) hmerge⟩

theorem readOnly_resolveSourceItem : ReadOnly (resolveSourceItem position k) :=
  .bind (.read _) fun _ => .bind (.ofOption _ _) fun _ =>
    .bind (readOnly_orConfiguration _ _) fun _ => .bind (readOnly_orConfiguration _ _) fun _ =>
      .pure _

theorem readOnly_plainSource (item : WorldMapItem) :
    ReadOnly (plainSourceMapItemToInventoryItem item) :=
  .ite (.fail _) (.bind (readOnly_core _) fun _ => .pure _)

theorem readOnly_checkNotRemoved (identity : WorldMapItemSourceIdentity) :
    ReadOnly (checkNotRemoved identity) :=
  .bind (.read _) fun _ => .ite (.fail _) (.pure ())

theorem readOnly_resolveWhole : ReadOnly (resolveWhole position k) :=
  .bind readOnly_resolveSourceItem fun _ => .bind (.read _) fun _ =>
    .ite (.fail _) (.bind (readOnly_plainSource _) fun _ => .pure _)

theorem readOnly_resolveStack (requested : ℕ) : ReadOnly (resolveStack position k requested) :=
  .bind readOnly_resolveSourceItem fun _ => .bind (.read _) fun _ =>
    .bind (readOnly_orConfiguration _ _) fun _ => .ite (.fail _)
      (.bind (readOnly_checkNotRemoved _) fun _ => .ite (.fail _)
        (.bind (readOnly_plainSource _) fun _ => .pure _))

theorem readOnly_storeInTopLevelContainer (cs : PlayerContainers) (id : ℕ) (x : ItemInstance) :
    ReadOnly (storeInTopLevelContainer cs id x) :=
  .bind (readOnly_orConfiguration _ _) fun _ => .ite (.fail _)
    (.bind (readOnly_core _) fun _ => .bind (readOnly_core _) fun _ => .pure _)

theorem readOnly_stageWhole (identity : WorldMapItemSourceIdentity) :
    ReadOnly (stageWhole position k identity) :=
  .bind (.read _) fun _ => .bind (.readOr _ _) fun _ => .bind (readOnly_core _) fun _ => .pure _

theorem readOnly_stageStack (requested available : ℕ) (identity : WorldMapItemSourceIdentity) :
    ReadOnly (stageStack position k requested available identity) :=
  .bind (.read _) fun _ => .bind (.readOr _ _) fun _ =>
    .ite (.bind (readOnly_core _) fun _ => .pure _)
      (.ite (.fail _) (.bind (readOnly_core _) fun _ => .pure _))

/-! #### The commit -/

theorem dropSourceIndex_of_some {indices : List ℕ}
    (h : s.map.sourceItemIndices[position]? = some indices) :
    dropSourceIndex position k s = (.ok (), { s with map := { s.map with
      sourceItemIndices := s.map.indicesWithout position indices k } }) := by
  have hread := readOr_of_some (f := fun s : HostState => s.map.sourceItemIndices[position]?)
    (Refusal.failed (.invalidConfiguration "validated source index list disappeared")) h
  exact bind_of_ok hread

/-- **A source take is committed as a whole or not at all**, when the inventory can be replaced
and, for a whole item, the tile has source indices. -/
theorem commitSourceTake_cases (take : SourceTake) (whole : Bool)
    (save : EngineDatabase → Except PersistenceError EngineDatabase) {replace : WorldM Bool}
    {e' : PlayerEquipment} {cs' : PlayerContainers} {indices : List ℕ}
    (hreplace : ∃ b w', replace s.world.toWorldState = (.ok b, w') ∧
      InventoryWritten p e' cs' s.world.toWorldState w')
    (hindices : s.map.sourceItemIndices[position]? = some indices) :
    (∃ r, commitSourceTake position k take whole save replace s = (.error r, s)) ∨
      ∃ database w' revision, save s.database = .ok database ∧
        InventoryWritten p e' cs' s.world.toWorldState w' ∧
        commitSourceTake position k take whole save replace s = (.ok revision, {
          world := { s.world with toWorldState := w' }
          map := { s.map with
            map := take.map
            sourceItemIndices :=
              if whole then s.map.indicesWithout position indices k else s.map.sourceItemIndices
            removedSourceItems := take.removed
            sourceItemCountOverrides := take.overrides
            revision := s.map.revision + 1 }
          database }) := by
  unfold commitSourceTake
  rcases persist_cases save s with ⟨r, hr⟩ | ⟨database, hsave, hok⟩
  · exact .inl ⟨r, bind_of_error hr⟩
  · obtain ⟨b, w', hrun, hwritten⟩ := hreplace
    refine .inr ⟨database, w', s.map.revision + 1, hsave, hwritten, ?_⟩
    have hstep := onWorld_of_ok
      (s := ⟨s.world, { s.map with map := take.map }, database⟩) hrun
    refine (bind_of_ok hok).trans ((bind_of_ok rfl).trans ((bind_of_ok hstep).trans ?_))
    cases whole with
    | false => rfl
    | true =>
      have hdrop : dropSourceIndex position k
          ⟨{ s.world with toWorldState := w' }, { s.map with map := take.map }, database⟩ =
          (.ok (), ⟨{ s.world with toWorldState := w' }, { s.map with
            map := take.map
            sourceItemIndices := s.map.indicesWithout position indices k }, database⟩) :=
        dropSourceIndex_of_some hindices
      exact (bind_of_ok hdrop).trans rfl

theorem commitSourceTake_atomic (take : SourceTake) (whole : Bool)
    (save : EngineDatabase → Except PersistenceError EngineDatabase) {replace : WorldM Bool}
    {e' : PlayerEquipment} {cs' : PlayerContainers} {indices : List ℕ}
    (hreplace : ∃ b w', replace s.world.toWorldState = (.ok b, w') ∧
      InventoryWritten p e' cs' s.world.toWorldState w')
    (hindices : s.map.sourceItemIndices[position]? = some indices) :
    AtomicAt (commitSourceTake position k take whole save replace) s := by
  intro r t h
  rcases commitSourceTake_cases take whole save hreplace hindices with ⟨r', hr⟩ | ⟨_, _, _, _, _, hok⟩
  · rw [hr] at h
    cases h
    rfl
  · rw [hok] at h
    cases h

/-- The replacement at the end of a take into a slot. -/
theorem replaceEquipment_runs (hw : s.world.HoldersRegistered) {e : PlayerEquipment}
    {cs : PlayerContainers} (he : s.world.playerEquipments[p]? = some e)
    (hcs : s.world.playerContainers[p]? = some cs) (e' : PlayerEquipment) :
    ∃ b w', replacePlayerEquipment p e' s.world.toWorldState = (.ok b, w') ∧
      InventoryWritten p e' cs s.world.toWorldState w' :=
  replaceEquipment_written (hw.equipped p (by rw [he]; rfl)) (by rw [he]; rfl) hcs e'

/-- The replacement at the end of a take into a window. -/
theorem replaceContainers_runs (hw : s.world.HoldersRegistered) {e : PlayerEquipment}
    {cs : PlayerContainers} (he : s.world.playerEquipments[p]? = some e)
    (hcs : s.world.playerContainers[p]? = some cs) (cs' : PlayerContainers) :
    ∃ b w', replacePlayerContainers p cs' s.world.toWorldState = (.ok b, w') ∧
      InventoryWritten p e cs' s.world.toWorldState w' :=
  replaceContainers_written (hw.equipped p (by rw [he]; rfl)) (by rw [hcs]; rfl) he cs'

/-! #### The four takes -/

theorem stageWhole_eq_ok {identity : WorldMapItemSourceIdentity} {take : SourceTake}
    (h : stageWhole position k identity s = (.ok take, s')) :
    s' = s ∧ ∃ nextMap,
      s.map.map.setTileItems position ((s.map.map.itemsAt position).eraseIdx k) = .ok nextMap ∧
      take = ⟨nextMap, s.map.removedSourceItems.insert identity,
        s.map.sourceItemCountOverrides⟩ := by
  simp only [stageWhole, bind_eq_ok, read_eq_ok, tileItems_eq_ok, core_eq_ok] at h
  obtain ⟨_, _, ⟨rfl, rfl⟩, items, _, ⟨hitems, rfl⟩, nextMap, _, ⟨hroom, rfl⟩, hout⟩ := h
  obtain ⟨rfl, rfl⟩ : take = _ ∧ s' = _ := by simpa [eq_comm] using hout
  rw [← WorldMap.itemsAt_eq hitems] at hroom
  exact ⟨rfl, nextMap, hroom, rfl⟩

theorem stageStack_eq_ok {requested available : ℕ} {identity : WorldMapItemSourceIdentity}
    {take : SourceTake}
    (h : stageStack position k requested available identity s = (.ok take, s')) :
    s' = s ∧ ∃ nextMap,
      (requested = available ∧
        s.map.map.setTileItems position ((s.map.map.itemsAt position).eraseIdx k) = .ok nextMap ∧
        take = ⟨nextMap, s.map.removedSourceItems.insert identity,
          s.map.sourceItemCountOverrides.erase identity⟩) ∨
      (requested ≠ available ∧
        s.map.map.setTileItems position ((s.map.map.itemsAt position).modify k
          fun item => { item with count := available - requested }) = .ok nextMap ∧
        take = ⟨nextMap, s.map.removedSourceItems,
          s.map.sourceItemCountOverrides.insert identity (available - requested)⟩) := by
  simp only [stageStack, bind_eq_ok, read_eq_ok, tileItems_eq_ok] at h
  obtain ⟨_, _, ⟨rfl, rfl⟩, items, _, ⟨hitems, rfl⟩, h⟩ := h
  rw [← WorldMap.itemsAt_eq hitems] at h
  split at h
  · rename_i hall
    simp only [bind_eq_ok, core_eq_ok] at h
    obtain ⟨nextMap, _, ⟨hroom, rfl⟩, hout⟩ := h
    obtain ⟨rfl, rfl⟩ : take = _ ∧ s' = _ := by simpa [eq_comm] using hout
    exact ⟨rfl, nextMap, .inl ⟨hall, hroom, rfl⟩⟩
  · rename_i hpart
    simp only [failCore, guard_eq_ok, bind_eq_ok, core_eq_ok] at h
    obtain ⟨-, nextMap, _, ⟨hroom, rfl⟩, hout⟩ := h
    obtain ⟨rfl, rfl⟩ : take = _ ∧ s' = _ := by simpa [eq_comm] using hout
    exact ⟨rfl, nextMap, .inr ⟨hpart, hroom, rfl⟩⟩

theorem exists_indices {m : SharedNativeMap} {index : ℕ}
    (h : (m.sourceItemIndices[position]?.bind (·[k]?)) = some index) :
    ∃ indices, m.sourceItemIndices[position]? = some indices ∧ indices[k]? = some index :=
  Option.bind_eq_some_iff.mp h

variable {e : PlayerEquipment} {cs : PlayerContainers} {e' : PlayerEquipment}
  {cs' : PlayerContainers} {destination : PlayerGroundDropSource} {replace : WorldM Bool}

/-- The take of a whole item, from its checks on. -/
theorem wholeTaken {identity : WorldMapItemSourceIdentity} {item : ItemInstance}
    {take : SourceTake} {revision : ℕ}
    (hresolve : resolveWhole position k s = (.ok (item, identity), s))
    (he : s.world.playerEquipments[p]? = some e) (hcs : s.world.playerContainers[p]? = some cs)
    (hpresent : identity ∉ s.map.removedSourceItems) (hadmitted : Admitted e cs item destination e' cs')
    (hstage : stageWhole position k identity s = (.ok take, s))
    (hreplace : ∃ b w', replace s.world.toWorldState = (.ok b, w') ∧
      InventoryWritten p e' cs' s.world.toWorldState w')
    (hcommit : commitSourceTake position k take true
      (fun database => database.replacePlayerInventoryAndMapItemRemovalJournal p e' cs'
        (takeJournal s.map take)) replace s = (.ok revision, s')) :
    ∃ index runtimeItem, SourceTaken p position k runtimeItem.count destination s s' index
      runtimeItem item e cs e' cs' := by
  obtain ⟨-, index, runtimeItem, hitem, hindex, hsource, rfl, hplain, hmax, hpos, hmoved⟩ :=
    resolveWhole_eq_ok hresolve
  obtain ⟨indices, hindices, -⟩ := exists_indices hindex
  obtain ⟨-, nextMap, hroom, rfl⟩ := stageWhole_eq_ok hstage
  rcases commitSourceTake_cases _ _ _ hreplace hindices with
    ⟨r, hr⟩ | ⟨database, w', rev, hsave, hwritten, hok⟩
  · rw [hr] at hcommit
    cases hcommit
  · rw [hok] at hcommit
    cases hcommit
    exact ⟨index, runtimeItem, {
      indexed := hindex
      bound := ⟨runtimeItem, hsource⟩
      runtime := hitem
      present := hpresent
      units := ⟨hpos, le_refl _, hmax⟩
      plain := hplain
      moved := hmoved
      equipment := he
      containers := hcs
      admitted := hadmitted
      map := .whole rfl hindices hroom (.inl ⟨rfl, hsource⟩)
      saved := .inl ⟨hsave, rfl⟩
      written := hwritten }⟩

/-- The take of a part, from its checks on. -/
theorem stackTaken {identity : WorldMapItemSourceIdentity} {item : ItemInstance}
    {requested available : ℕ} {take : SourceTake} {revision : ℕ}
    (hresolve : resolveStack position k requested s = (.ok (item, identity, available), s))
    (he : s.world.playerEquipments[p]? = some e) (hcs : s.world.playerContainers[p]? = some cs)
    (hadmitted : Admitted e cs item destination e' cs')
    (hstage : stageStack position k requested available identity s = (.ok take, s))
    (hreplace : ∃ b w', replace s.world.toWorldState = (.ok b, w') ∧
      InventoryWritten p e' cs' s.world.toWorldState w')
    (hcommit : commitSourceTake position k take (requested = available)
      (fun database => database.replacePlayerInventoryAndMapItemState p e' cs'
        (takeJournal s.map take) (SharedNativeMap.overrideRecords take.overrides)) replace s =
      (.ok revision, s')) :
    ∃ index runtimeItem, SourceTaken p position k requested destination s s' index runtimeItem
      item e cs e' cs' := by
  obtain ⟨-, index, runtimeItem, hitem, hindex, hbound, rfl, hpresent, hplain, hmax, rfl, hpos,
    hle, hmoved⟩ := resolveStack_eq_ok hresolve
  obtain ⟨indices, hindices, -⟩ := exists_indices hindex
  obtain ⟨-, nextMap, hstage⟩ := stageStack_eq_ok hstage
  rcases commitSourceTake_cases _ _ _ hreplace hindices with
    ⟨r, hr⟩ | ⟨database, w', rev, hsave, hwritten, hok⟩
  · rw [hr] at hcommit
    cases hcommit
  · rw [hok] at hcommit
    have hchange : SourceChange s.map position k index runtimeItem requested s'.map := by
      cases hcommit
      rcases hstage with ⟨hall, hroom, rfl⟩ | ⟨hpart, hroom, rfl⟩
      · rw [if_pos (decide_eq_true hall)]
        exact .whole hall hindices hroom (.inr rfl)
      · rw [if_neg (by simpa using hpart)]
        exact .part (by omega) hroom
    cases hcommit
    exact ⟨index, runtimeItem, {
      indexed := hindex
      bound := hbound
      runtime := hitem
      present := hpresent
      units := ⟨hpos, hle, hmax⟩
      plain := hplain
      moved := hmoved
      equipment := he
      containers := hcs
      admitted := hadmitted
      map := hchange
      saved := .inr hsave
      written := hwritten }⟩

variable {slot : EquipmentSlot} {id requested : ℕ} {out : SourceMapItemTransferOutcome}

theorem moveSourceItemToEmptyEquipment_eq_ok (hw : s.world.HoldersRegistered)
    (h : moveSourceItemToEmptyEquipment p position k slot s = (.ok out, s')) :
    ∃ n index runtimeItem e cs e' cs', SourceTaken p position k n (.equipmentSlot slot) s s' index
      runtimeItem out.item e cs e' cs' := by
  simp only [moveSourceItemToEmptyEquipment, bind_eq_ok, read_eq_ok] at h
  obtain ⟨_, _, ⟨rfl, rfl⟩, ⟨item, identity⟩, _, hresolve, h⟩ := h
  obtain rfl := readOnly_resolveWhole.state_eq hresolve
  simp only [playerEquipment_eq_ok, core_eq_ok] at h
  obtain ⟨e, _, ⟨he, rfl⟩, ⟨n, e'⟩, _, ⟨hplace, rfl⟩, h⟩ := h
  simp only [playerContainers_eq_ok, checkNotRemoved_eq_ok] at h
  obtain ⟨cs, _, ⟨hcs, rfl⟩, _, _, ⟨hpresent, rfl⟩, take, _, hstage, revision, u, hcommit, hout⟩ := h
  obtain rfl := (readOnly_stageWhole identity).state_eq hstage
  obtain ⟨rfl, rfl⟩ : out = _ ∧ s' = u := by simpa [eq_comm] using hout
  obtain ⟨index, runtimeItem, htaken⟩ := wholeTaken hresolve he hcs hpresent (.equipped hplace)
    hstage (replaceEquipment_runs hw he hcs e') hcommit
  exact ⟨_, index, runtimeItem, e, cs, e', cs, htaken⟩

theorem moveSourceItemStackToEquipment_eq_ok (hw : s.world.HoldersRegistered)
    (h : moveSourceItemStackToEquipment p position k requested slot s = (.ok out, s')) :
    ∃ index runtimeItem e cs e' cs', SourceTaken p position k requested (.equipmentSlot slot) s s'
      index runtimeItem out.item e cs e' cs' := by
  simp only [moveSourceItemStackToEquipment, bind_eq_ok, read_eq_ok] at h
  obtain ⟨_, _, ⟨rfl, rfl⟩, ⟨item, identity, available⟩, _, hresolve, h⟩ := h
  obtain rfl := (readOnly_resolveStack requested).state_eq hresolve
  simp only [playerEquipment_eq_ok, core_eq_ok] at h
  obtain ⟨e, _, ⟨he, rfl⟩, ⟨n, e'⟩, _, ⟨hplace, rfl⟩, h⟩ := h
  simp only [playerContainers_eq_ok] at h
  obtain ⟨cs, _, ⟨hcs, rfl⟩, take, _, hstage, revision, u, hcommit, hout⟩ := h
  obtain rfl := (readOnly_stageStack requested available identity).state_eq hstage
  obtain ⟨rfl, rfl⟩ : out = _ ∧ s' = u := by simpa [eq_comm] using hout
  obtain ⟨index, runtimeItem, htaken⟩ := stackTaken hresolve he hcs (.equipped hplace) hstage
    (replaceEquipment_runs hw he hcs e') hcommit
  exact ⟨index, runtimeItem, e, cs, e', cs, htaken⟩

theorem moveSourceItemToTopLevelContainer_eq_ok (hw : s.world.HoldersRegistered)
    (h : moveSourceItemToTopLevelContainer p position k id s = (.ok out, s')) :
    ∃ n index runtimeItem e cs e' cs', SourceTaken p position k n (.containerItem id 0) s s' index
      runtimeItem out.item e cs e' cs' := by
  simp only [moveSourceItemToTopLevelContainer, bind_eq_ok, read_eq_ok] at h
  obtain ⟨_, _, ⟨rfl, rfl⟩, ⟨item, identity⟩, _, hresolve, h⟩ := h
  obtain rfl := readOnly_resolveWhole.state_eq hresolve
  simp only [checkNotRemoved_eq_ok, playerEquipment_eq_ok, playerContainers_eq_ok] at h
  obtain ⟨_, _, ⟨hpresent, rfl⟩, e, _, ⟨he, rfl⟩, cs, _, ⟨hcs, rfl⟩, cs', _, hstore, take, _, hstage,
    revision, u, hcommit, hout⟩ := h
  obtain ⟨rfl, hadmitted⟩ := storeInTopLevelContainer_eq_ok e hstore
  obtain rfl := (readOnly_stageWhole identity).state_eq hstage
  obtain ⟨rfl, rfl⟩ : out = _ ∧ s' = u := by simpa [eq_comm] using hout
  obtain ⟨index, runtimeItem, htaken⟩ := wholeTaken hresolve he hcs hpresent hadmitted
    hstage (replaceContainers_runs hw he hcs cs') hcommit
  exact ⟨_, index, runtimeItem, e, cs, e, cs', htaken⟩

theorem moveSourceItemStackToTopLevelContainer_eq_ok (hw : s.world.HoldersRegistered)
    (h : moveSourceItemStackToTopLevelContainer p position k requested id s = (.ok out, s')) :
    ∃ index runtimeItem e cs e' cs', SourceTaken p position k requested (.containerItem id 0) s s'
      index runtimeItem out.item e cs e' cs' := by
  simp only [moveSourceItemStackToTopLevelContainer, bind_eq_ok, read_eq_ok] at h
  obtain ⟨_, _, ⟨rfl, rfl⟩, ⟨item, identity, available⟩, _, hresolve, h⟩ := h
  obtain rfl := (readOnly_resolveStack requested).state_eq hresolve
  simp only [playerEquipment_eq_ok, playerContainers_eq_ok] at h
  obtain ⟨e, _, ⟨he, rfl⟩, cs, _, ⟨hcs, rfl⟩, cs', _, hstore, take, _, hstage, revision, u, hcommit,
    hout⟩ := h
  obtain ⟨rfl, hadmitted⟩ := storeInTopLevelContainer_eq_ok e hstore
  obtain rfl := (readOnly_stageStack requested available identity).state_eq hstage
  obtain ⟨rfl, rfl⟩ : out = _ ∧ s' = u := by simpa [eq_comm] using hout
  obtain ⟨index, runtimeItem, htaken⟩ := stackTaken hresolve he hcs hadmitted hstage
    (replaceContainers_runs hw he hcs cs') hcommit
  exact ⟨index, runtimeItem, e, cs, e, cs', htaken⟩

/-! #### Refused takes -/

theorem moveSourceItemToEmptyEquipment_atomic (hw : s.world.HoldersRegistered) :
    AtomicAt (moveSourceItemToEmptyEquipment p position k slot) s := by
  refine .bind (.read _) fun self _ => .bind readOnly_resolveWhole fun ⟨item, identity⟩ hresolve =>
    .bind (.readOr _ _) fun e he => .bind (readOnly_core _) fun ⟨n, e'⟩ _ =>
    .bind (.readOr _ _) fun cs hcs => .bind (readOnly_checkNotRemoved _) fun _ _ =>
    .bind (readOnly_stageWhole _) fun take _ => ?_
  obtain ⟨-, index, _, -, hindex, -⟩ := resolveWhole_eq_ok hresolve
  obtain ⟨indices, hindices, -⟩ := exists_indices hindex
  have hrun := replaceEquipment_runs hw (playerEquipment_eq_ok.mp he).1
    (playerContainers_eq_ok.mp hcs).1 e'
  exact .bind_succeeds (commitSourceTake_atomic _ _ _ hrun hindices) fun _ t _ => ⟨_, t, rfl⟩

theorem moveSourceItemStackToEquipment_atomic (hw : s.world.HoldersRegistered) :
    AtomicAt (moveSourceItemStackToEquipment p position k requested slot) s := by
  refine .bind (.read _) fun self _ =>
    .bind (readOnly_resolveStack requested) fun ⟨item, identity, available⟩ hresolve =>
    .bind (.readOr _ _) fun e he => .bind (readOnly_core _) fun ⟨n, e'⟩ _ =>
    .bind (.readOr _ _) fun cs hcs => .bind (readOnly_stageStack _ _ _) fun take _ => ?_
  obtain ⟨-, index, _, -, hindex, -⟩ := resolveStack_eq_ok hresolve
  obtain ⟨indices, hindices, -⟩ := exists_indices hindex
  have hrun := replaceEquipment_runs hw (playerEquipment_eq_ok.mp he).1
    (playerContainers_eq_ok.mp hcs).1 e'
  exact .bind_succeeds (commitSourceTake_atomic _ _ _ hrun hindices) fun _ t _ => ⟨_, t, rfl⟩

theorem moveSourceItemToTopLevelContainer_atomic (hw : s.world.HoldersRegistered) :
    AtomicAt (moveSourceItemToTopLevelContainer p position k id) s := by
  refine .bind (.read _) fun self _ => .bind readOnly_resolveWhole fun ⟨item, identity⟩ hresolve =>
    .bind (readOnly_checkNotRemoved _) fun _ _ => .bind (.readOr _ _) fun e he =>
    .bind (.readOr _ _) fun cs hcs => .bind (readOnly_storeInTopLevelContainer _ _ _) fun cs' _ =>
    .bind (readOnly_stageWhole _) fun take _ => ?_
  obtain ⟨-, index, _, -, hindex, -⟩ := resolveWhole_eq_ok hresolve
  obtain ⟨indices, hindices, -⟩ := exists_indices hindex
  have hrun := replaceContainers_runs hw (playerEquipment_eq_ok.mp he).1
    (playerContainers_eq_ok.mp hcs).1 cs'
  exact .bind_succeeds (commitSourceTake_atomic _ _ _ hrun hindices) fun _ t _ => ⟨_, t, rfl⟩

theorem moveSourceItemStackToTopLevelContainer_atomic (hw : s.world.HoldersRegistered) :
    AtomicAt (moveSourceItemStackToTopLevelContainer p position k requested id) s := by
  refine .bind (.read _) fun self _ =>
    .bind (readOnly_resolveStack requested) fun ⟨item, identity, available⟩ hresolve =>
    .bind (.readOr _ _) fun e he => .bind (.readOr _ _) fun cs hcs =>
    .bind (readOnly_storeInTopLevelContainer _ _ _) fun cs' _ =>
    .bind (readOnly_stageStack _ _ _) fun take _ => ?_
  obtain ⟨-, index, _, -, hindex, -⟩ := resolveStack_eq_ok hresolve
  obtain ⟨indices, hindices, -⟩ := exists_indices hindex
  have hrun := replaceContainers_runs hw (playerEquipment_eq_ok.mp he).1
    (playerContainers_eq_ok.mp hcs).1 cs'
  exact .bind_succeeds (commitSourceTake_atomic _ _ _ hrun hindices) fun _ t _ => ⟨_, t, rfl⟩

/-! ### Placing and expiring -/

/-- **What placing a runtime item does.** -/
theorem addRuntimeTileItem_eq_ok {item : WorldMapItem} {despawnTick : Option ℕ} {revision : ℕ}
    (h : addRuntimeTileItem position item despawnTick s = (.ok revision, s')) :
    ∃ record nextMap, s.map.runtimeCount position ≤ u8Max ∧
      runtimeWorldMapItemToRecord position (s.map.runtimeCount position) item despawnTick =
        some record ∧
      s.map.map.setTileItems position (s.map.map.itemsAt position ++ [item]) = .ok nextMap ∧
      s'.map = { s.map with
        map := nextMap
        runtimeTileItems := s.map.runtimeTileItems ++ [record]
        revision := s.map.revision + 1 } ∧
      s.database.replaceRuntimeMapItems s.map.sourceRevision s'.map.runtimeTileItems =
        .ok s'.database ∧
      s'.world = s.world := by
  simp only [addRuntimeTileItem, bind_eq_ok, read_eq_ok, guard_eq_ok, nextOrdinal_eq_ok,
    ofOption_eq_ok, core_eq_ok, persist_eq_ok] at h
  obtain ⟨_, _, ⟨rfl, rfl⟩, -, -, _, _, ⟨hord, rfl, rfl⟩, record, _, ⟨hrecord, rfl⟩, nextMap, _,
    ⟨hroom, rfl⟩, _, _, ⟨database, hsave, rfl⟩, _, u, hpublish, hout⟩ := h
  obtain ⟨-, rfl⟩ : revision = _ ∧ s' = u := by simpa [eq_comm] using hout
  cases hpublish
  exact ⟨record, nextMap, hord, hrecord, hroom, rfl, hsave, rfl⟩

theorem addRuntimeTileItem_atomic (item : WorldMapItem) (despawnTick : Option ℕ) :
    AtomicAt (addRuntimeTileItem position item despawnTick) s := by
  refine .bind (.read _) fun self _ => .ite (fun _ => (ReadOnly.fail _).atomicAt s) fun _ =>
    .ite (fun _ => (ReadOnly.fail _).atomicAt s) fun _ => .bind (readOnly_nextOrdinal _) fun _ _ =>
    .bind (.ofOption _ _) fun record _ => .bind (readOnly_core _) fun nextMap _ => ?_
  exact .bind_succeeds (persist_atomic _ s) fun _ t _ => ⟨_, _, rfl⟩

/-- **What an expiry does**: nothing, or the due items are gone from the registry and from their
tiles. -/
theorem removeExpiredRuntimeItems_eq_ok {nowTick : ℕ} {positions : List Position}
    (h : removeExpiredRuntimeItems nowTick s = (.ok positions, s')) :
    s' = s ∨ ∃ nextMap,
      (s.map.expiredPositions nowTick).foldlM (s.map.expireTile nowTick) s.map.map = .ok nextMap ∧
      s'.map = { s.map with
        map := nextMap
        runtimeTileItems := s.map.runtimeTileItems.filter fun record => !record.isDue nowTick
        revision := s.map.revision + 1 } ∧
      s.database.replaceRuntimeMapItems s.map.sourceRevision s'.map.runtimeTileItems =
        .ok s'.database ∧
      s'.world = s.world := by
  simp only [removeExpiredRuntimeItems, bind_eq_ok, read_eq_ok] at h
  obtain ⟨_, _, ⟨rfl, rfl⟩, h⟩ := h
  split at h
  · left
    obtain ⟨-, rfl⟩ : positions = [] ∧ s' = _ := by simpa [eq_comm] using h
    rfl
  · right
    simp only [bind_eq_ok, core_eq_ok, persist_eq_ok, Indices.eraseIdx_indicesWhere] at h
    obtain ⟨nextMap, _, ⟨hexpire, rfl⟩, _, _, ⟨database, hsave, rfl⟩, _, u, hpublish, hout⟩ := h
    obtain ⟨-, rfl⟩ : positions = _ ∧ s' = u := by simpa [eq_comm] using hout
    cases hpublish
    exact ⟨nextMap, hexpire, rfl, hsave, rfl⟩

theorem removeExpiredRuntimeItems_atomic (nowTick : ℕ) :
    AtomicAt (removeExpiredRuntimeItems nowTick) s := by
  refine .bind (.read _) fun self _ => .ite (fun _ => (ReadOnly.pure _).atomicAt s) fun _ =>
    .bind (readOnly_core _) fun nextMap _ => ?_
  exact .bind_succeeds (persist_atomic _ s) fun _ t _ => ⟨_, _, rfl⟩

end Host

end ForgottenEngine
