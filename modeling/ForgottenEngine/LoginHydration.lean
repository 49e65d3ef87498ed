import ForgottenEngine.SessionTurnover
import ForgottenEngine.UnitPlacement

/-!
# A login that reads first and registers later

A login reads the rows of its character, one table after the other, and enters what it has read
into the shared world, one table after the other.  Meanwhile the old session of the character may
still be about, the heartbeat saves what it has read before, and an operator gives items to whom it
finds online or offline.

`Relog` is such a login beside all these, over the turnover of the two sessions.  `latest` is kept
beside it for the statement: every part of the character as it was last changed, in the world by
anybody but the login, or in the rows by a gift or by the login itself.

* `Relog.Sound` — what the login carries, and what it has entered, is the latest;
* `hydrated_latest` — **a login that nobody disturbs ends with the latest state in the world**.
-/

namespace ForgottenEngine

open Fallible Game

/-! ### What is known of a character -/

inductive CharacterPart where
  | position | experience | vitals | progression | attempts | respawnState | equipment | containers
deriving DecidableEq, Repr

namespace CharacterPart

/-- The experience is the level, the experience and the skill points. -/
abbrev Value : CharacterPart → Type
  | position => Position
  | experience => ℕ × ℕ × ℕ
  | vitals => PlayerVitals
  | progression => PlayerProgression
  | attempts => PlayerProgressionAttempts
  | respawnState => PlayerRespawnState
  | equipment => PlayerEquipment
  | containers => PlayerContainers

instance : (part : CharacterPart) → DecidableEq part.Value
  | position => inferInstanceAs (DecidableEq Position)
  | experience => inferInstanceAs (DecidableEq (ℕ × ℕ × ℕ))
  | vitals => inferInstanceAs (DecidableEq PlayerVitals)
  | progression => inferInstanceAs (DecidableEq PlayerProgression)
  | attempts => inferInstanceAs (DecidableEq PlayerProgressionAttempts)
  | respawnState => inferInstanceAs (DecidableEq PlayerRespawnState)
  | equipment => inferInstanceAs (DecidableEq PlayerEquipment)
  | containers => inferInstanceAs (DecidableEq PlayerContainers)

/-- The row of the character itself holds the part. -/
def inRow : CharacterPart → Bool
  | equipment | containers => false
  | _ => true

/-- The step of a login that enters the part into the world. -/
def enteredAt : CharacterPart → LoginStep
  | position | experience | vitals | progression => .register
  | attempts => .progressionAttempts
  | respawnState => .respawnState
  | equipment => .equipment
  | containers => .containers

end CharacterPart

def CharacterPart.all : List CharacterPart :=
  [.position, .experience, .vitals, .progression, .attempts, .respawnState, .equipment, .containers]

theorem CharacterPart.mem_all (part : CharacterPart) : part ∈ all := by
  cases part <;> decide

instance {P : CharacterPart → Prop} [DecidablePred P] : Decidable (∀ part, P part) :=
  decidable_of_iff (∀ part ∈ CharacterPart.all, P part)
    ⟨fun h part => h part part.mem_all, fun h part _ => h part⟩

/-- What is known of a character, part by part. -/
abbrev CharacterState := (part : CharacterPart) → Option part.Value

/-- What the world holds of a player. -/
def GameWorld.character (w : GameWorld) (playerId : ℕ) : CharacterState
  | .position => w.players[playerId]?.map Player.position
  | .experience => w.players[playerId]?.map fun p => (p.level, p.experience, p.skillPoints)
  | .vitals => w.playerVitals[playerId]?
  | .progression => w.playerProgressions[playerId]?
  | .attempts => w.playerProgressionAttempts[playerId]?
  | .respawnState => w.playerRespawnStates[playerId]?
  | .equipment => w.playerEquipments[playerId]?
  | .containers => w.playerContainers[playerId]?

/-- What the database holds of a character. -/
structure CharacterRows where
  position : Position
  level : ℕ
  experience : ℕ
  skillPoints : ℕ
  vitals : PlayerVitals
  progression : PlayerProgression
  progressionAttempts : PlayerProgressionAttempts
  townId : ℕ
  respawnState : PlayerRespawnState
  equipment : PlayerEquipment
  containers : PlayerContainers
  conditions : PlayerConditions

namespace CharacterRows

def character (rows : CharacterRows) : CharacterState
  | .position => some rows.position
  | .experience => some (rows.level, rows.experience, rows.skillPoints)
  | .vitals => some rows.vitals
  | .progression => some rows.progression
  | .attempts => some rows.progressionAttempts
  | .respawnState => some rows.respawnState
  | .equipment => some rows.equipment
  | .containers => some rows.containers

/-- The row of the character itself, read into an older copy. -/
def withRow (copy rows : CharacterRows) : CharacterRows :=
  { rows with
    equipment := copy.equipment
    containers := copy.containers
    conditions := copy.conditions }

end CharacterRows

/-- The login with what it has read. -/
def NativeLogin.hydratedFrom (login : NativeLogin) (rows : CharacterRows) : NativeLogin :=
  { login with
    player := { login.player with
      position := rows.position
      level := rows.level
      experience := rows.experience
      skillPoints := rows.skillPoints }
    vitals := rows.vitals
    progression := rows.progression
    progressionAttempts := rows.progressionAttempts
    townId := rows.townId
    respawnState := rows.respawnState
    equipment := rows.equipment
    containers := rows.containers
    conditions := rows.conditions }

/-! ### Items given by an operator -/

/-- Where a gift is. -/
inductive Gift where
  | looked (itemId count : ℕ) (online : Bool)
  | staged (online : Bool) (containers : PlayerContainers)
  /-- To an online player, and not in the world yet. -/
  | stored (containers : PlayerContainers)

/-! ### The steps in front of the world -/

/-- The work of a login in the database. -/
inductive HydrationStep where
  | readCharacter
  | readDeadCharacter
  | storeRespawned
  | readRespawned
  | readEquipment
  | readContainers
  | readConditions
  | storePosition
  | provisionStarterBackpack
deriving DecidableEq, Repr

namespace HydrationStep

/-- The login has a copy of the part when the step is due. -/
def copied (part : CharacterPart) : HydrationStep → Bool
  | readCharacter | readDeadCharacter | readRespawned => false
  | storeRespawned | readEquipment => part.inRow
  | readContainers => part.inRow || part = .equipment
  | readConditions | storePosition | provisionStarterBackpack => true

/-- The step makes the copy of the part that the login goes on with. -/
def copies (dead : Bool) (part : CharacterPart) : HydrationStep → Bool
  | readCharacter => !dead && part.inRow
  | readDeadCharacter | readRespawned => part.inRow
  | readEquipment => part = .equipment
  | readContainers => part = .containers
  | _ => false

/-- The step comes before the registration. -/
def beforeWorld : HydrationStep → Bool
  | storePosition | provisionStarterBackpack => false
  | _ => true

end HydrationStep

def nativeStarterBackpackItemId : ℕ := 2854

def nativeStarterBackpackCapacity : ℕ := 20

/-- The windows of a character with nothing but the starter backpack. -/
def starterBackpack : Except CoreError PlayerContainers := do
  let item ← ItemInstance.new nativeStarterBackpackItemId 1
  let backpack ← PlayerContainer.new 0 item "Backpack" false nativeStarterBackpackCapacity
  let (_, staged) ← PlayerContainers.empty.insert backpack
  return staged

/-- The respawn of a stored dead character, in a world of its own. -/
def respawnAlone (login : NativeLogin) : GameM (Position × PlayerVitals) := do
  addPlayerWithVitalsAndProgression { login.player with accountId := 0 } login.vitals
    login.progression
  let _ ← replacePlayerTown login.player.id login.townId
  let _ ← living (Living.hydratePlayerRespawnState login.player.id login.respawnState)
  living (Living.respawnPlayer login.player.id)

def respawnPersistedNativePlayerForRelog (login : NativeLogin) :
    Except HostError (Position × PlayerVitals) :=
  match (respawnAlone login .empty).1 with
  | .error error => .error (.core error)
  | .ok (position, vitals) =>
    if login.worldMap.isWalkable position then .ok (position, vitals)
    else .error (.invalidConfiguration ("native temple respawn destination is missing or not " ++
      "walkable in the selected world map"))

/-! ### The system -/

def NewSession.logsIn : NewSession → Bool
  | loggingIn _ => true
  | _ => false

/-- A login beside everything that touches its character. -/
structure Relog where
  turnover : Turnover
  rows : CharacterRows
  /-- What the login has read. -/
  copy : CharacterRows
  /-- The work in the database in front of the next step in the world. -/
  due : Option HydrationStep
  /-- Where the registration has put the player. -/
  placed : Option Position
  /-- What the autosave has read in the world. -/
  saving : Option (Position × PlayerVitals)
  gifts : ℕ → Option Gift
  latest : CharacterState

inductive RelogTurn where
  | login (connected : ℕ → Bool)
  /-- The old session is torn down. -/
  | leave (connected : ℕ → Bool)
  /-- Anything in the world, by the old session or anybody else. -/
  | other (toLowercase : String → String) (event : GameEvent) (stays : event.ComesOrGoes = false)
  /-- A handler of the old session saves something. -/
  | save (rows : CharacterRows)
  | autosaveReads
  | autosavePosition
  | autosaveVitals
  | operatorGives (request itemId count : ℕ)
  | gift (request : ℕ)

/-- What has changed is the latest there is. -/
def CharacterState.follow (latest before after : CharacterState) : CharacterState := fun part =>
  if after part = before part then latest part else after part

/-- Some parts are new. -/
def CharacterState.renew (latest : CharacterState) (parts : CharacterPart → Bool)
    (new : CharacterState) : CharacterState := fun part =>
  if parts part then new part else latest part

namespace Relog

section Step

variable (login : NativeLogin) (announced : Bool)

/-- The world event, followed by `latest`. -/
def inWorld (r : Relog) (toLowercase : String → String) (event : GameEvent) : Relog :=
  let world := event.step toLowercase r.turnover.shared.world
  { r with
    turnover := { r.turnover with shared := { r.turnover.shared with world } }
    latest := r.latest.follow (r.turnover.shared.world.character login.player.id)
      (world.character login.player.id) }

/-- One step of the login in the database. -/
def stepHydration (r : Relog) : HydrationStep → Relog
  | .readCharacter => { r with
      copy := r.copy.withRow r.rows
      due := some (if r.rows.respawnState.dead then .readDeadCharacter else .readEquipment) }
  | .readDeadCharacter => { r with
      copy := r.copy.withRow r.rows
      due := some .storeRespawned }
  | .storeRespawned =>
    match respawnPersistedNativePlayerForRelog (login.hydratedFrom r.copy) with
    | .ok (position, vitals) =>
      let rows := { r.rows with position, vitals, respawnState := {} }
      { r with
        rows
        latest := r.latest.renew (fun part => part = .position || part = .vitals ||
          part = .respawnState) rows.character
        due := some .readRespawned }
    | .error _ => { r with turnover := { r.turnover with new := .gone }, due := none }
  | .readRespawned => { r with
      copy := r.copy.withRow r.rows
      due := some .readEquipment }
  | .readEquipment => { r with
      copy := { r.copy with equipment := r.rows.equipment }
      due := some .readContainers }
  | .readContainers => { r with
      copy := { r.copy with containers := r.rows.containers }
      due := some .readConditions }
  | .readConditions => { r with
      copy := { r.copy with conditions := r.rows.conditions }
      due := none }
  | .storePosition => { r with
      rows := { r.rows with
        position := (r.placed.filter (· ≠ r.copy.position)).getD r.rows.position }
      due := none }
  | .provisionStarterBackpack =>
    if r.rows.containers.len ≠ 0 then { r with due := none }
    else
      match starterBackpack with
      | .ok containers =>
        let rows := { r.rows with containers }
        { r with rows, latest := r.latest.renew (· = .containers) rows.character, due := none }
      | .error _ => { r with
          turnover := { r.turnover with new := .tearingDown .unregisterPublicChatRecipient }
          due := none }

/-- The work in the database in front of a step in the world. -/
def workBefore : NewSession → Option HydrationStep
  | .loggingIn .findForOutfit => some .storePosition
  | .loggingIn .findForFacing => some .provisionStarterBackpack
  | _ => none

/-- One step of the login in the world.  Only another tile than the stored one is news. -/
def stepWorld (r : Relog) (connected : ℕ → Bool) : Relog :=
  let turnover := r.turnover.step (login.hydratedFrom r.copy) announced (.new connected)
  let character := turnover.shared.world.character login.player.id
  let registers : Bool := r.turnover.new = .loggingIn .register
  let moved : Bool := registers && turnover.new = .loggingIn .equipment &&
    character .position ≠ some r.copy.position
  { r with
    turnover
    due := workBefore turnover.new
    placed := if registers then character .position else r.placed
    latest := r.latest.renew (fun part => moved && part = .position) character }

/-- One step of an operator. -/
def stepGift (r : Relog) (request : ℕ) : Gift → Relog
  | .looked itemId count online =>
    let found := if online then r.turnover.shared.world.playerContainers[login.player.id]?
      else some r.rows.containers
    let staged := (found.map (insertUnitsIntoContainers itemId count)).filter (·.2 = 0)
    { r with gifts := Function.update r.gifts request (staged.map fun s => .staged online s.1) }
  | .staged online containers =>
    let rows := { r.rows with containers }
    { r with
      rows
      latest := r.latest.renew (fun part => !online && part = .containers) rows.character
      gifts := Function.update r.gifts request (if online then some (.stored containers) else none) }
  | .stored containers =>
    { r.inWorld login id (.inventory (.replaceContainers login.player.id containers)) with
      gifts := Function.update r.gifts request none }

def step (r : Relog) : RelogTurn → Relog
  | .login connected => r.due.elim (r.stepWorld login announced connected) (r.stepHydration login)
  | .leave connected => { r with
      turnover := r.turnover.step (login.hydratedFrom r.copy) announced (.old connected) }
  | .other toLowercase event _ => r.inWorld login toLowercase event
  | .save rows => { r with rows }
  | .autosaveReads =>
    let world := r.turnover.shared.world
    match world.players[login.player.id]?, world.playerVitals[login.player.id]? with
    | some player, some vitals => { r with saving := some (player.position, vitals) }
    | _, _ => r
  | .autosavePosition => { r with
      rows := r.saving.elim r.rows fun saved => { r.rows with position := saved.1 } }
  | .autosaveVitals => { r with
      rows := r.saving.elim r.rows fun saved => { r.rows with vitals := saved.2 } }
  | .operatorGives request itemId count =>
    let online := (r.turnover.shared.world.players[login.player.id]?).isSome
    if itemId = 0 ∨ count = 0 ∨ (r.gifts request).isSome then r
    else { r with gifts := Function.update r.gifts request (some (.looked itemId count online)) }
  | .gift request => (r.gifts request).elim r (r.stepGift login request)

end Step

/-- The login has a copy of the part that it has not entered into the world yet. -/
def carries (r : Relog) (part : CharacterPart) : Bool :=
  match r.turnover.new with
  | .loggingIn due =>
    r.due.elim true (HydrationStep.copied part) && !part.enteredAt.before due
  | _ => false

/-- What the due step copies is the latest, and no windows are made for a character without any. -/
def CopiesLatest (r : Relog) : Option HydrationStep → Prop
  | none => True
  | some step =>
    (∀ part, step.copies r.rows.respawnState.dead part = true →
      r.rows.character part = r.latest part) ∧
    (step = .provisionStarterBackpack → r.rows.containers.len ≠ 0)

/-- The world event changes nothing that the login carries. -/
def KeepsCarried (login : NativeLogin) (r : Relog) (toLowercase : String → String)
    (event : GameEvent) : Prop :=
  ∀ part, r.carries part = true →
    (event.step toLowercase r.turnover.shared.world).character login.player.id part =
      r.turnover.shared.world.character login.player.id part

/-- A gift to an offline player is stored before the login copies the windows. -/
def GiftInTime (login : NativeLogin) (r : Relog) : Option Gift → Prop
  | some (.staged false _) =>
    r.turnover.new.logsIn = true → r.due.elim true (HydrationStep.copied .containers) = false
  | some (.stored containers) =>
    r.KeepsCarried login id (.inventory (.replaceContainers login.player.id containers))
  | _ => True

/-- The login copies what is the latest, and what it carries nobody changes. -/
def Undisturbed (login : NativeLogin) (r : Relog) : RelogTurn → Prop
  | .login _ => r.CopiesLatest r.due
  | .other toLowercase event _ => r.KeepsCarried login toLowercase event
  | .gift request => r.GiftInTime login (r.gifts request)
  | _ => True

section Decide

variable (login : NativeLogin) (r : Relog)

instance : (due : Option HydrationStep) → Decidable (r.CopiesLatest due)
  | none => inferInstanceAs (Decidable True)
  | some _ => inferInstanceAs (Decidable (_ ∧ _))

instance (toLowercase : String → String) (event : GameEvent) :
    Decidable (r.KeepsCarried login toLowercase event) :=
  inferInstanceAs (Decidable (∀ _, _ → _))

instance : (gift : Option Gift) → Decidable (r.GiftInTime login gift)
  | some (.staged false _) => inferInstanceAs (Decidable (_ = true → _ = false))
  | some (.stored _) => inferInstanceAs (Decidable (KeepsCarried ..))
  | some (.staged true _) | some (.looked ..) | none => inferInstanceAs (Decidable True)

instance : (turn : RelogTurn) → Decidable (r.Undisturbed login turn)
  | .login _ => inferInstanceAs (Decidable (CopiesLatest ..))
  | .other .. => inferInstanceAs (Decidable (KeepsCarried ..))
  | .gift _ => inferInstanceAs (Decidable (GiftInTime ..))
  | .leave _ | .save _ | .autosaveReads | .autosavePosition | .autosaveVitals
  | .operatorGives .. => inferInstanceAs (Decidable True)

end Decide

/-- The old session still runs, what the world holds is the latest, and the login begins. -/
structure Starts (p : ℕ) (r : Relog) : Prop where
  turnover : r.turnover.Starts p
  due : r.due = some .readCharacter
  latest : r.latest = r.turnover.shared.world.character p

end Relog

/-! ### What a login enters into the world -/

section Entered

variable {w w' : GameWorld} {p : ℕ}

/-- The steps that enter none of the parts. -/
def entersNothing (step : LoginStep) : Bool :=
  step ∉ [.register, .progressionAttempts, .respawnState, .equipment, .containers]

theorem enteredAt_ne {step : LoginStep} (h : entersNothing step = true) (part : CharacterPart) :
    part.enteredAt ≠ step := by
  rintro rfl
  cases part <;> cases h

/-- A step that enters one part, and no other. -/
def Enters (step : LoginStep) (rows : CharacterRows) (p : ℕ) (w w' : GameWorld) : Prop :=
  ∀ part, w'.character p part =
    if part.enteredAt = step then rows.character part else w.character p part

/-- A step that enters none of the parts. -/
theorem enters_of_eq {step : LoginStep} {rows : CharacterRows}
    (hnone : entersNothing step = true) (h : w'.character p = w.character p) :
    Enters step rows p w w' := by
  intro part
  rw [if_neg (enteredAt_ne hnone part), h]

theorem void_eq_ok {α : Type} {m : GameM α} :
    void m w = (.ok (), w') ↔ ∃ a, m w = (.ok a, w') := by
  unfold void
  rw [bind_apply]
  rcases m w with ⟨e | a, t⟩
  · simp
  · simp

theorem inventory_eq_ok {α : Type} {m : WorldM α} {a : α} :
    Game.inventory m w = (.ok a, w') ↔
      ∃ s, m w.toWorldState = (.ok a, s) ∧ w' = w.putInventory s := by
  simp only [Game.inventory, zoom, Prod.mk.injEq]
  constructor
  · rintro ⟨hresult, hstate⟩
    exact ⟨_, Prod.ext hresult rfl, hstate.symm⟩
  · rintro ⟨s, hrun, rfl⟩
    rw [hrun]
    exact ⟨rfl, rfl⟩

/-- An accepted replacement leaves the value it is about. -/
theorem replaceEntry_eq_ok {α : Type} [DecidableEq α] {table : GameWorld → BTreeMap ℕ α}
    {put : GameWorld → ℕ → α → GameWorld} {value : α} {b : Bool}
    (h : replaceEntry table put p value w = (.ok b, w')) :
    w' = w ∧ (table w)[p]? = some value ∨
      w' = (put w p value).putLiving (put w p value).toLivingWorld.changed := by
  simp only [replaceEntry, Game.requirePlayer, entryOf, bind_eq_ok, readOr_eq_ok] at h
  obtain ⟨_, _, ⟨-, rfl⟩, current, _, ⟨hcurrent, rfl⟩, h⟩ := h
  split at h
  · next heq =>
    cases h
    exact .inl ⟨rfl, heq ▸ hcurrent⟩
  · right
    simp only [bind_eq_ok, write_apply, Prod.mk.injEq] at h
    obtain ⟨_, _, ⟨-, rfl⟩, _, _, hmark, h⟩ := h
    cases h
    exact (congrArg Prod.snd hmark).symm

/-- The value is there already. -/
theorem enters_self {step : LoginStep} {rows : CharacterRows}
    (h : ∀ part : CharacterPart, part.enteredAt = step → w.character p part = rows.character part) :
    Enters step rows p w w := by
  intro part
  split
  · next heq => exact h part heq
  · rfl

theorem enters_equipment {rows : CharacterRows}
    (h : GameEvent.perform id (.inventory (.replaceEquipment p rows.equipment)) w = (.ok (), w')) :
    Enters .equipment rows p w w' := by
  obtain ⟨s, hrun, rfl⟩ := inventory_eq_ok.mp h
  have hrun : void (World.replacePlayerEquipment p rows.equipment) w.toWorldState = (.ok (), s) :=
    hrun
  simp only [void, World.replacePlayerEquipment, bind_eq_ok, World.requirePlayer_eq_ok,
    World.playerEquipment_eq_ok] at hrun
  obtain ⟨_, _, ⟨_, _, ⟨-, rfl⟩, current, _, ⟨hcurrent, rfl⟩, hrun⟩, hend⟩ := hrun
  cases hend
  split at hrun
  · next heq =>
    cases hrun
    refine enters_self fun part hpart => ?_
    cases part with
    | equipment => exact hcurrent.trans (congrArg some heq)
    | _ => cases hpart
  · simp only [bind_eq_ok, World.storeEquipment_apply, World.markChanged_apply, Prod.mk.injEq]
      at hrun
    obtain ⟨_, _, ⟨-, rfl⟩, _, _, ⟨-, rfl⟩, hrun⟩ := hrun
    cases hrun
    intro part
    cases part with
    | equipment => exact Std.ExtTreeMap.getElem?_insert_self
    | _ => rfl

theorem enters_containers {rows : CharacterRows}
    (h : GameEvent.perform id (.inventory (.replaceContainers p rows.containers)) w = (.ok (), w')) :
    Enters .containers rows p w w' := by
  obtain ⟨s, hrun, rfl⟩ := inventory_eq_ok.mp h
  have hrun : void (World.replacePlayerContainers p rows.containers) w.toWorldState = (.ok (), s) :=
    hrun
  simp only [void, World.replacePlayerContainers, bind_eq_ok, World.requirePlayer_eq_ok,
    World.playerContainers, readOr_eq_ok] at hrun
  obtain ⟨_, _, ⟨_, _, ⟨-, rfl⟩, current, _, ⟨hcurrent, rfl⟩, hrun⟩, hend⟩ := hrun
  cases hend
  split at hrun
  · next heq =>
    cases hrun
    refine enters_self fun part hpart => ?_
    cases part with
    | containers => exact hcurrent.trans (congrArg some heq)
    | _ => cases hpart
  · simp only [bind_eq_ok, World.storeContainers_apply, World.markChanged_apply, Prod.mk.injEq]
      at hrun
    obtain ⟨_, _, ⟨-, rfl⟩, _, _, ⟨-, rfl⟩, hrun⟩ := hrun
    cases hrun
    intro part
    cases part with
    | containers => exact Std.ExtTreeMap.getElem?_insert_self
    | _ => rfl

theorem enters_attempts {rows : CharacterRows}
    (h : GameEvent.perform id (.upkeep (.replaceAttempts p rows.progressionAttempts)) w =
      (.ok (), w')) : Enters .progressionAttempts rows p w w' := by
  obtain ⟨b, hrun⟩ := void_eq_ok.mp h
  rcases replaceEntry_eq_ok hrun with ⟨rfl, hthere⟩ | rfl
  · refine enters_self fun part hpart => ?_
    cases part with
    | attempts => exact hthere
    | _ => cases hpart
  · intro part
    cases part with
    | attempts => exact Std.ExtTreeMap.getElem?_insert_self
    | _ => rfl

theorem enters_respawnState {rows : CharacterRows}
    (h : GameEvent.perform id (.overwrite (.hydrateRespawnState p rows.respawnState)) w =
      (.ok (), w')) : Enters .respawnState rows p w w' := by
  obtain ⟨b, hrun⟩ := void_eq_ok.mp h
  obtain ⟨l, hliving, rfl⟩ := living_eq_ok.mp hrun
  simp only [Living.hydratePlayerRespawnState, Living.requirePlayer, Living.playerRespawnState,
    bind_eq_ok, readOr_eq_ok, guard_eq_ok] at hliving
  obtain ⟨_, _, ⟨-, rfl⟩, -, current, _, ⟨hcurrent, rfl⟩, hliving⟩ := hliving
  split at hliving
  · next heq =>
    cases hliving
    refine enters_self fun part hpart => ?_
    cases part with
    | respawnState => exact hcurrent.trans (congrArg some heq)
    | _ => cases hpart
  · simp only [Living.markChanged, bind_eq_ok, write_apply, Prod.mk.injEq] at hliving
    obtain ⟨_, _, ⟨-, rfl⟩, _, _, ⟨-, rfl⟩, hliving⟩ := hliving
    cases hliving
    intro part
    cases part with
    | respawnState => exact Std.ExtTreeMap.getElem?_insert_self
    | _ => rfl

/-- The town, the conditions and the defense are none of the parts. -/
theorem enters_entry {α : Type} [DecidableEq α] {table : GameWorld → BTreeMap ℕ α}
    {put : GameWorld → ℕ → α → GameWorld} {value : α} {step : LoginStep} {rows : CharacterRows}
    (hnone : entersNothing step = true)
    (hput : ∀ w : GameWorld, (put w p value).character p = w.character p)
    (h : void (replaceEntry table put p value) w = (.ok (), w')) : Enters step rows p w w' := by
  obtain ⟨b, hrun⟩ := void_eq_ok.mp h
  refine enters_of_eq hnone ?_
  rcases replaceEntry_eq_ok hrun with ⟨rfl, -⟩ | rfl
  · rfl
  · rw [← hput w]
    funext part
    cases part <;> rfl

theorem onGame_eq_ok {α : Type} {operation : GameM α} {s s' : SharedNativeWorld} {a : α} :
    Shared.onGame operation s = (.ok a, s') ↔
      ∃ w, operation s.world = (.ok a, w) ∧ s' = { s with world := w } := by
  unfold Shared.onGame
  rcases operation s.world with ⟨e | b, w⟩
  · simp [Except.mapError]
  · simp [Except.mapError, eq_comm]

theorem world_chatRecipient {recipient : SharedChatRecipient} {s : SharedNativeWorld} :
    (Shared.registerPublicChatRecipient p recipient s).2.world = s.world := by
  unfold Shared.registerPublicChatRecipient
  split
  · rfl
  · rw [bind_of_ok (read_apply _ s)]
    split
    · rfl
    · split <;> rfl

theorem world_vipRecipient {recipient : SharedVipPresenceRecipient} {s : SharedNativeWorld} :
    (Shared.registerVipPresenceRecipient p recipient s).2.world = s.world := by
  unfold Shared.registerVipPresenceRecipient
  rw [bind_of_ok (read_apply _ s)]
  split <;> rfl

/-- A party operation is about the parties. -/
theorem character_party (event : PartyEvent) :
    ((GameEvent.party event).step id w).character p = w.character p := by
  have hleaves : Leaves (fun w' : GameWorld => w'.character p = w.character p) event.perform w := by
    refine leaves_party (P := fun w' => w'.character p = w.character p) (fun w' hw => ?_) rfl event
      fun _ _ => ?_
    · rw [← hw]
      funext part
      cases part <;> rfl
    · funext part
      cases part <;> rfl
  exact hleaves

/-- **Every step behind the registration** enters the part it is about, and no other. -/
theorem enters_step {login : NativeLogin} {rows : CharacterRows} {s s' : SharedNativeWorld}
    {due : LoginStep} (hdue : due ≠ .register)
    (h : due.perform (login.hydratedFrom rows) s = (.ok (), s')) :
    Enters due rows login.player.id s.world s'.world := by
  cases due with
  | register => exact absurd rfl hdue
  | equipment =>
    obtain ⟨w, hrun, rfl⟩ := onGame_eq_ok.mp h
    exact enters_equipment hrun
  | containers =>
    obtain ⟨w, hrun, rfl⟩ := onGame_eq_ok.mp h
    exact enters_containers hrun
  | progressionAttempts =>
    obtain ⟨w, hrun, rfl⟩ := onGame_eq_ok.mp h
    exact enters_attempts hrun
  | respawnState =>
    obtain ⟨w, hrun, rfl⟩ := onGame_eq_ok.mp h
    exact enters_respawnState hrun
  | town =>
    obtain ⟨w, hrun, rfl⟩ := onGame_eq_ok.mp h
    exact enters_entry rfl (fun w => by funext part; cases part <;> rfl) hrun
  | conditions =>
    obtain ⟨w, hrun, rfl⟩ := onGame_eq_ok.mp h
    exact enters_entry rfl (fun w => by funext part; cases part <;> rfl) hrun
  | armorDefense =>
    obtain ⟨w, hrun, rfl⟩ := onGame_eq_ok.mp h
    obtain ⟨b, hrun⟩ := void_eq_ok.mp hrun
    simp only [replacePlayerCombatDefense, Game.requirePlayer, bind_eq_ok, readOr_eq_ok,
      guard_eq_ok] at hrun
    obtain ⟨_, _, ⟨-, rfl⟩, -, hrun⟩ := hrun
    exact enters_entry rfl (fun w => by funext part; cases part <;> rfl)
      (void_eq_ok.mpr ⟨b, hrun⟩)
  | findForOutfit | findForFacing =>
    obtain ⟨w, hrun, rfl⟩ := onGame_eq_ok.mp h
    have hreads : ReadOnly (void (Game.requirePlayer login.player.id)) :=
      .bind (.readOr _ _) fun _ => .pure _
    have hsame := hreads s.world
    rw [show void (Game.requirePlayer login.player.id) s.world = _ from hrun] at hsame
    exact enters_of_eq rfl (by rw [show w = s.world from hsame])
  | party =>
    cases h
    refine enters_of_eq rfl ?_
    show (login.party.elim s.world _).character _ = _
    cases login.party with
    | none => rfl
    | some event => exact character_party event
  | chatRecipient =>
    have hworld := congrArg (fun run => run.2.world) h
    refine enters_of_eq rfl ?_
    rw [show s'.world = s.world from hworld.symm.trans world_chatRecipient]
  | vipRecipient =>
    have hworld := congrArg (fun run => run.2.world) h
    refine enters_of_eq rfl ?_
    rw [show s'.world = s.world from hworld.symm.trans world_vipRecipient]
  | outfit | facing =>
    cases h
    exact enters_of_eq rfl rfl

/-- **The registration** enters the row, at the position it finds. -/
theorem enters_register {login : NativeLogin} {rows : CharacterRows} {s s' : SharedNativeWorld}
    (h : LoginStep.register.perform (login.hydratedFrom rows) s = (.ok (), s'))
    {part : CharacterPart} (hpart : part.enteredAt = .register) (hmoves : part ≠ .position) :
    s'.world.character login.player.id part = rows.character part := by
  simp only [LoginStep.perform, Shared.registerPlayerAtAvailablePosition, bind_eq_ok,
    readOr_eq_ok, write_apply, Prod.mk.injEq, onGame_eq_ok] at h
  obtain ⟨position, _, ⟨-, rfl⟩, _, _, ⟨w, hadd, rfl⟩, -, rfl⟩ := h
  simp only [addPlayerWithVitalsAndProgression, bind_eq_ok, write_apply, Prod.mk.injEq] at hadd
  obtain ⟨_, _, hliving, -, rfl⟩ := hadd
  obtain ⟨l, hadded, rfl⟩ := living_eq_ok.mp hliving
  simp only [Living.addPlayerWithVitals, Living.markChanged, guard_eq_ok, bind_eq_ok, read_apply,
    write_apply, Prod.mk.injEq, Except.ok.injEq] at hadded
  obtain ⟨-, -, _, _, ⟨rfl, rfl⟩, _, _, ⟨rfl, rfl⟩, _, _, ⟨rfl, rfl⟩, -, -, -, _, _,
    ⟨-, rfl⟩, -, rfl⟩ := hadded
  cases part with
  | position => exact absurd rfl hmoves
  | experience =>
    exact congrArg (Option.map _) Std.ExtTreeMap.getElem?_insert_self
  | vitals => exact Std.ExtTreeMap.getElem?_insert_self
  | progression => exact Std.ExtTreeMap.getElem?_insert_self
  | _ => cases hpart

end Entered

/-! ### What the login carries is the latest -/

namespace Relog

/-- What holds at every point of a login that nobody disturbs. -/
structure Sound (login : NativeLogin) (r : Relog) : Prop where
  turnover : r.turnover.Sound login.player.id
  phase : ∀ step, r.due = some step → step.beforeWorld = true →
    r.turnover.new = .loggingIn .register
  carried : ∀ part, r.carries part = true → r.copy.character part = r.latest part
  entered : ∀ due part, r.turnover.new = .loggingIn due → part.enteredAt.before due = true →
    r.turnover.shared.world.character login.player.id part = r.latest part

section Steps

variable {login : NativeLogin} {announced : Bool} {r : Relog}

theorem carries_iff {part : CharacterPart} : r.carries part = true ↔
    ∃ due, r.turnover.new = .loggingIn due ∧ part.enteredAt.before due = false ∧
      r.due.elim true (HydrationStep.copied part) = true := by
  unfold carries
  cases hnew : r.turnover.new with
  | loggingIn due => simp [and_comm]
  | playing => simp
  | tearingDown due => simp
  | gone => simp

theorem beforeWorld_of_copied {part : CharacterPart} {step : HydrationStep}
    (h : step.copied part = false) : step.beforeWorld = true := by
  cases step <;> first | rfl | cases h

/-- Something has been entered, so the work in front of the world is done. -/
theorem Sound.copied_of_entered (h : r.Sound login) {due : LoginStep} {part : CharacterPart}
    (hnew : r.turnover.new = .loggingIn due) (hentered : part.enteredAt.before due = true)
    (part' : CharacterPart) : r.due.elim true (HydrationStep.copied part') = true := by
  cases hdue : r.due with
  | none => rfl
  | some step =>
    by_contra hcopied
    have hregister := h.phase step hdue (beforeWorld_of_copied (by simpa using hcopied))
    rw [hnew] at hregister
    cases hregister
    cases part <;> cases hentered

/-- Steps that are about the rows, the autosave and the gifts. -/
theorem Sound.of_same (h : r.Sound login) {r' : Relog} (hturnover : r'.turnover = r.turnover)
    (hdue : r'.due = r.due) (hcopy : r'.copy = r.copy) (hlatest : r'.latest = r.latest) :
    r'.Sound login := by
  constructor
  · rw [hturnover]
    exact h.turnover
  · rw [hturnover, hdue]
    exact h.phase
  · unfold carries
    rw [hturnover, hdue, hcopy, hlatest]
    exact h.carried
  · rw [hturnover, hlatest]
    exact h.entered

/-- Anything in the world that keeps what the login carries. -/
theorem Sound.inWorld (h : r.Sound login) (toLowercase : String → String) {event : GameEvent}
    (hstays : event.ComesOrGoes = false)
    (hkeeps : r.KeepsCarried login toLowercase event) :
    (r.inWorld login toLowercase event).Sound login := by
  refine ⟨@Turnover.Sound.step login false _ h.turnover (.other toLowercase event hstays), h.phase,
    fun part hcarries => ?_, fun due part hnew hentered => ?_⟩
  · show r.copy.character part = CharacterState.follow _ _ _ part
    unfold CharacterState.follow
    rw [if_pos (hkeeps part hcarries)]
    exact h.carried part hcarries
  · show _ = CharacterState.follow _ _ _ part
    unfold CharacterState.follow
    split
    · next hsame => exact hsame.trans (h.entered due part hnew hentered)
    · rfl

/-- The old session takes nothing from a login that has entered the world. -/
theorem Sound.leave (h : r.Sound login) (connected : ℕ → Bool) :
    (r.step login announced (.leave connected)).Sound login := by
  have hsound := @Turnover.Sound.step (login.hydratedFrom r.copy) announced _ h.turnover
    (.old connected)
  cases hold : r.turnover.old with
  | none =>
    refine h.of_same ?_ rfl rfl rfl
    show r.turnover.step (login.hydratedFrom r.copy) announced (.old connected) = r.turnover
    unfold Turnover.step
    rw [hold]
    rfl
  | some due =>
    have hstep : r.turnover.step (login.hydratedFrom r.copy) announced (.old connected) =
        r.turnover.stepOld (login.hydratedFrom r.copy) announced due connected := by
      unfold Turnover.step
      rw [hold]
      rfl
    refine ⟨hsound, fun step hdue hbefore => ?_, fun part hcarries => ?_,
      fun at_ part hnew hentered => ?_⟩
    · show (Turnover.step _ _ _ _).new = _
      rw [hstep]
      exact h.phase step hdue hbefore
    · refine h.carried part ?_
      rw [carries_iff] at hcarries ⊢
      obtain ⟨at_, hnew, hrest⟩ := hcarries
      refine ⟨at_, ?_, hrest⟩
      rw [← hnew]
      show r.turnover.new = (Turnover.step _ _ _ _).new
      rw [hstep]
      rfl
    · have hnow : r.turnover.new = .loggingIn at_ := by
        rw [← hnew]
        show r.turnover.new = (Turnover.step _ _ _ _).new
        rw [hstep]
        rfl
      have hpast : due.precedesRemoval = false := by
        refine h.turnover.old_past ?_ due hold
        rw [hnow]
        refine ⟨?_, nofun⟩
        rintro ⟨⟩
        cases part <;> cases hentered
      have hclears : TeardownClears due r.turnover.shared
          (r.turnover.stepOld (login.hydratedFrom r.copy) announced due connected).shared :=
        teardownClears due
      show (Turnover.step _ _ _ _).shared.world.character _ _ = _
      rw [hstep, hclears.world (by rintro rfl; cases hpast)]
      exact h.entered at_ part hnow hentered

theorem Sound.gift (h : r.Sound login) (request : ℕ)
    (hok : Undisturbed login r (.gift request)) :
    (r.step login announced (.gift request)).Sound login := by
  show ((r.gifts request).elim r _).Sound login
  cases hgift : r.gifts request with
  | none => exact h
  | some gift =>
    have hok : r.GiftInTime login (r.gifts request) := hok
    rw [hgift] at hok
    cases gift with
    | looked itemId count online => exact h.of_same rfl rfl rfl rfl
    | stored containers =>
      have hin : (r.inWorld login id
          (.inventory (.replaceContainers login.player.id containers))).Sound login :=
        h.inWorld id rfl hok
      exact hin.of_same rfl rfl rfl rfl
    | staged online containers =>
      cases online with
      | true => exact h.of_same rfl rfl rfl rfl
      | false =>
        have hother : ∀ part, (part = .containers → False) →
            (r.stepGift login request (.staged false containers)).latest part = r.latest part := by
          intro part hpart
          exact if_neg (by simpa using hpart)
        refine ⟨h.turnover, h.phase, fun part hcarries => ?_, fun due part hnew hentered => ?_⟩
        · show r.copy.character part = (r.stepGift login request (.staged false containers)).latest part
          rw [hother part]
          · exact h.carried part hcarries
          · rintro rfl
            have hcarries : r.carries .containers = true := hcarries
            obtain ⟨due, hnew, -, hcopied⟩ := carries_iff.mp hcarries
            have hnot := hok (by rw [hnew]; rfl)
            rw [hcopied] at hnot
            cases hnot
        · show _ = (r.stepGift login request (.staged false containers)).latest part
          rw [hother part]
          · exact h.entered due part hnew hentered
          · rintro rfl
            have hnew : r.turnover.new = .loggingIn due := hnew
            have hnot := hok (by rw [hnew]; rfl)
            rw [h.copied_of_entered hnew hentered] at hnot
            cases hnot

/-- A step that reads: what is copied behind it was copied before it, or is copied by it. -/
theorem Sound.reads (h : r.Sound login) {step : HydrationStep} (hdue : r.due = some step)
    (hbefore : step.beforeWorld = true) {copy : CharacterRows} {due' : Option HydrationStep}
    (hcopied : ∀ part, due'.elim true (HydrationStep.copied part) = true →
      copy.character part = r.rows.character part ∧
          step.copies r.rows.respawnState.dead part = true ∨
        copy.character part = r.copy.character part ∧ step.copied part = true)
    (hok : ∀ part, step.copies r.rows.respawnState.dead part = true →
      r.rows.character part = r.latest part) :
    ({ r with copy := copy, due := due' } : Relog).Sound login := by
  refine ⟨h.turnover, fun _ _ _ => h.phase step hdue hbefore, fun part hcarries => ?_, h.entered⟩
  obtain ⟨due, hnew, hnot, hhas⟩ := carries_iff.mp hcarries
  rcases hcopied part hhas with ⟨hnow, hcopies⟩ | ⟨hsame, hbefore⟩
  · exact hnow.trans (hok part hcopies)
  · refine hsame.trans (h.carried part (carries_iff.mpr ⟨due, hnew, hnot, ?_⟩))
    rw [hdue]
    exact hbefore

theorem Sound.storeRespawned (h : r.Sound login) (hdue : r.due = some .storeRespawned) :
    (r.stepHydration login .storeRespawned).Sound login := by
  have hregister := h.phase _ hdue rfl
  simp only [Relog.stepHydration]
  split
  · refine ⟨h.turnover, fun _ _ _ => hregister, fun part hcarries => ?_, fun due part hnew hin => ?_⟩
    · obtain ⟨_, -, -, hcopied⟩ := carries_iff.mp hcarries
      cases hcopied
    · rw [show r.turnover.new = .loggingIn due from hnew] at hregister
      cases hregister
      cases part <;> cases hin
  · refine ⟨⟨?_, ?_, nofun, nofun, nofun⟩, nofun, fun part hcarries => ?_, nofun⟩
    · have hcount := h.turnover.count
      rw [hregister] at hcount
      exact hcount
    · intro due hold hprecedes
      exact ⟨(h.turnover.present due hold hprecedes).1, .inr rfl⟩
    · cases hcarries

theorem Sound.stepHydration (h : r.Sound login) {step : HydrationStep} (hdue : r.due = some step)
    (hok : r.CopiesLatest (some step)) : (r.stepHydration login step).Sound login := by
  obtain ⟨hcurrent, hprovided⟩ := hok
  cases step with
  | readCharacter =>
    refine h.reads hdue rfl (fun part hhas => ?_) hcurrent
    cases hdead : r.rows.respawnState.dead with
    | true =>
      rw [hdead] at hhas
      cases hhas
    | false =>
      rw [hdead] at hhas
      left
      cases part <;> first | exact ⟨rfl, rfl⟩ | cases hhas
  | readDeadCharacter =>
    refine h.reads hdue rfl (fun part hhas => .inl ?_) hcurrent
    cases part <;> first | exact ⟨rfl, rfl⟩ | cases hhas
  | storeRespawned => exact h.storeRespawned hdue
  | readRespawned =>
    refine h.reads hdue rfl (fun part hhas => .inl ?_) hcurrent
    cases part <;> first | exact ⟨rfl, rfl⟩ | cases hhas
  | readEquipment =>
    refine h.reads hdue rfl (fun part hhas => ?_) hcurrent
    cases part <;> first | exact .inl ⟨rfl, rfl⟩ | exact .inr ⟨rfl, rfl⟩ | cases hhas
  | readContainers =>
    refine h.reads hdue rfl (fun part _ => ?_) hcurrent
    cases part <;> first | exact .inl ⟨rfl, rfl⟩ | exact .inr ⟨rfl, rfl⟩
  | readConditions =>
    refine h.reads hdue rfl (fun part _ => .inr ?_) hcurrent
    cases part <;> exact ⟨rfl, rfl⟩
  | storePosition =>
    refine ⟨h.turnover, nofun, fun part hcarries => ?_, h.entered⟩
    obtain ⟨due, hnew, hnot, -⟩ := carries_iff.mp hcarries
    exact h.carried part (carries_iff.mpr ⟨due, hnew, hnot, by rw [hdue]; rfl⟩)
  | provisionStarterBackpack =>
    simp only [Relog.stepHydration]
    rw [if_pos (hprovided rfl)]
    refine ⟨h.turnover, nofun, fun part hcarries => ?_, h.entered⟩
    obtain ⟨due, hnew, hnot, -⟩ := carries_iff.mp hcarries
    exact h.carried part (carries_iff.mpr ⟨due, hnew, hnot, by rw [hdue]; rfl⟩)

theorem phase_workBefore {new : NewSession} {step : HydrationStep}
    (h : workBefore new = some step) : step.beforeWorld = false := by
  unfold workBefore at h
  split at h <;> cases h <;> rfl

/-- What is due after a step comes after it in the order. -/
theorem before_next {due next : LoginStep} (h : due.next = some next) (part : CharacterPart) :
    part.enteredAt.before next = true ↔ part.enteredAt.before due = true ∨ part.enteredAt = due := by
  cases due <;> cases h <;> cases part <;> decide

/-- An accepted step enters the part it is about as the login carries it. -/
theorem Sound.enters (h : r.Sound login) (hdue : r.due = none) {due : LoginStep}
    (hnew : r.turnover.new = .loggingIn due) {shared : SharedNativeWorld}
    (hrun : due.perform (login.hydratedFrom r.copy) r.turnover.shared = (.ok (), shared))
    {part : CharacterPart} (hmoves : ¬(due = .register ∧ part = .position))
    (hin : part.enteredAt.before due = true ∨ part.enteredAt = due) :
    shared.world.character login.player.id part = r.latest part := by
  have hcarried : part.enteredAt = due → r.copy.character part = r.latest part := by
    intro hnow
    refine h.carried part (carries_iff.mpr ⟨due, hnew, ?_, by rw [hdue]; rfl⟩)
    rw [hnow]
    exact decide_eq_false (lt_irrefl _)
  by_cases hregister : due = .register
  · subst hregister
    have hnow : part.enteredAt = .register := by
      rcases hin with hin | hin
      · cases part <;> cases hin
      · exact hin
    rw [enters_register hrun hnow fun hpart => hmoves ⟨rfl, hpart⟩]
    exact hcarried hnow
  · have henters := enters_step hregister hrun part
    rw [henters]
    split
    · next hnow => exact hcarried hnow
    · next hother => exact h.entered due part hnew (hin.resolve_right hother)

/-- What the login has done in the world with a step of its own. -/
theorem turnover_stepWorld {due : LoginStep} (hnew : r.turnover.new = .loggingIn due)
    (connected : ℕ → Bool) {result : Except HostError Unit} {shared : SharedNativeWorld}
    (hrun : due.perform (login.hydratedFrom r.copy) r.turnover.shared = (result, shared)) :
    (r.stepWorld login announced connected).turnover =
      ⟨shared, r.turnover.old, Turnover.afterLogin due result⟩ := by
  show r.turnover.step (login.hydratedFrom r.copy) announced (.new connected) = _
  unfold Turnover.step
  rw [hnew]
  simp only
  rw [Turnover.stepLogin_eq, hrun]

theorem afterLogin_error {due : LoginStep} {e : HostError} (due' : LoginStep) :
    Turnover.afterLogin due (.error e) ≠ .loggingIn due' := by
  intro heq
  unfold Turnover.afterLogin at heq
  simp only at heq
  split at heq <;> cases heq

theorem next_of_afterLogin {due due' : LoginStep} {u : Unit}
    (h : Turnover.afterLogin due (.ok u) = .loggingIn due') : due.next = some due' := by
  unfold Turnover.afterLogin at h
  simp only at h
  cases hnext : due.next with
  | none =>
    rw [hnext] at h
    cases h
  | some due =>
    rw [hnext] at h
    cases h
    rfl

/-- Only the registration on another tile is news. -/
theorem latest_stepWorld (connected : ℕ → Bool) {part : CharacterPart}
    (h : ¬(r.turnover.new = .loggingIn .register ∧ part = .position)) :
    (r.stepWorld login announced connected).latest part = r.latest part := by
  refine if_neg fun hmoved => h ?_
  simp only [Bool.and_eq_true, decide_eq_true_eq] at hmoved
  exact ⟨hmoved.1.1.1, hmoved.2⟩

/-- The position is the latest one, whether the stored tile was free or not. -/
theorem Sound.position_registered (h : r.Sound login) (hdue : r.due = none)
    (hnew : r.turnover.new = .loggingIn .register) (connected : ℕ → Bool) {u : Unit}
    {shared : SharedNativeWorld}
    (hrun : LoginStep.register.perform (login.hydratedFrom r.copy) r.turnover.shared =
      (.ok u, shared)) :
    shared.world.character login.player.id .position =
      (r.stepWorld login announced connected).latest .position := by
  have hturnover : r.turnover.step (login.hydratedFrom r.copy) announced (.new connected) =
      ⟨shared, r.turnover.old, .loggingIn .equipment⟩ :=
    @turnover_stepWorld login announced r _ hnew connected _ _ hrun
  have hcarried := h.carried .position (carries_iff.mpr ⟨.register, hnew, rfl, by rw [hdue]; rfl⟩)
  simp only [Relog.stepWorld, CharacterState.renew, hturnover, hnew]
  by_cases hsame : shared.world.character login.player.id .position = some r.copy.position
  · rw [if_neg (by simp [hsame]), hsame]
    exact hcarried
  · rw [if_pos (by simp [hsame])]

/-- A login that is over carries nothing. -/
theorem sound_of_over {r' : Relog} (hsound : r'.turnover.Sound login.player.id)
    (hphase : ∀ step, r'.due = some step → step.beforeWorld = false)
    (hover : ∀ due, r'.turnover.new ≠ .loggingIn due) : r'.Sound login := by
  refine ⟨hsound, fun step hdue hbefore => ?_, fun part hcarries => ?_,
    fun due part hnew _ => absurd hnew (hover due)⟩
  · rw [hphase step hdue] at hbefore
    cases hbefore
  · obtain ⟨due, hnew, -⟩ := carries_iff.mp hcarries
    exact absurd hnew (hover due)

/-- An accepted step of a login. -/
theorem Sound.stepWorld_ok (h : r.Sound login) (hdue : r.due = none) {due : LoginStep}
    (hnew : r.turnover.new = .loggingIn due) (connected : ℕ → Bool) {shared : SharedNativeWorld}
    (hrun : due.perform (login.hydratedFrom r.copy) r.turnover.shared = (.ok (), shared)) :
    (r.stepWorld login announced connected).Sound login := by
  have hturnover : (r.stepWorld login announced connected).turnover =
      ⟨shared, r.turnover.old, Turnover.afterLogin due (.ok ())⟩ :=
    turnover_stepWorld hnew connected hrun
  have hsound := @Turnover.Sound.step (login.hydratedFrom r.copy) announced _ h.turnover
    (.new connected)
  refine ⟨hsound, fun step hwork hbefore => ?_, fun part hcarries => ?_,
    fun due' part hnew' hin => ?_⟩
  · rw [phase_workBefore hwork] at hbefore
    cases hbefore
  · -- What is still carried was carried before.
    obtain ⟨due', hnew', hnot, -⟩ := carries_iff.mp hcarries
    rw [hturnover] at hnew'
    have hnext := next_of_afterLogin (u := ()) hnew'
    have hbefore : ¬(part.enteredAt.before due = true ∨ part.enteredAt = due) := by
      rw [← before_next hnext part, hnot]
      exact Bool.false_ne_true
    rw [not_or] at hbefore
    rw [latest_stepWorld]
    · exact h.carried part (carries_iff.mpr
        ⟨due, hnew, by simpa using hbefore.1, by rw [hdue]; rfl⟩)
    · rintro ⟨hregister, rfl⟩
      rw [hnew] at hregister
      cases hregister
      exact hbefore.2 rfl
  · rw [hturnover] at hnew' ⊢
    have hin := (before_next (next_of_afterLogin (u := ()) hnew') part).mp hin
    by_cases hmoves : due = .register ∧ part = .position
    · obtain ⟨rfl, rfl⟩ := hmoves
      exact h.position_registered hdue hnew connected hrun
    · rw [latest_stepWorld]
      · exact h.enters hdue hnew hrun hmoves hin
      · rintro ⟨hregister, hpart⟩
        rw [hnew] at hregister
        exact hmoves ⟨NewSession.loggingIn.inj hregister, hpart⟩

/-- **A step of the login in the world** enters what the login carries. -/
theorem Sound.stepWorld (h : r.Sound login) (hdue : r.due = none) (connected : ℕ → Bool) :
    (r.stepWorld login announced connected).Sound login := by
  have hsound := @Turnover.Sound.step (login.hydratedFrom r.copy) announced _ h.turnover
    (.new connected)
  have hphase : ∀ step, (r.stepWorld login announced connected).due = some step →
      step.beforeWorld = false := fun step hwork => phase_workBefore hwork
  cases hnew : r.turnover.new with
  | loggingIn due =>
    rcases hrun : due.perform (login.hydratedFrom r.copy) r.turnover.shared with ⟨e | u, shared⟩
    · refine sound_of_over hsound hphase fun due' => ?_
      rw [turnover_stepWorld hnew connected hrun]
      exact afterLogin_error (e := e) due'
    · exact h.stepWorld_ok hdue hnew connected hrun
  | tearingDown due =>
    refine sound_of_over hsound hphase fun due' => ?_
    show (r.turnover.step (login.hydratedFrom r.copy) announced (.new connected)).new ≠ _
    unfold Turnover.step
    rw [hnew]
    simp only [Turnover.stepTeardown]
    cases due.after _ <;> nofun
  | playing =>
    refine sound_of_over hsound hphase fun due' => ?_
    show (r.turnover.step (login.hydratedFrom r.copy) announced (.new connected)).new ≠ _
    unfold Turnover.step
    rw [hnew]
    simp only
    rw [hnew]
    nofun
  | gone =>
    refine sound_of_over hsound hphase fun due' => ?_
    show (r.turnover.step (login.hydratedFrom r.copy) announced (.new connected)).new ≠ _
    unfold Turnover.step
    rw [hnew]
    simp only
    rw [hnew]
    nofun

/-- **One step of anybody** keeps it so. -/
theorem Sound.step (h : r.Sound login) (turn : RelogTurn) (hok : r.Undisturbed login turn) :
    (r.step login announced turn).Sound login := by
  cases turn with
  | login connected =>
    show (r.due.elim (r.stepWorld login announced connected) (r.stepHydration login)).Sound login
    cases hdue : r.due with
    | none => exact h.stepWorld hdue connected
    | some step =>
      have hok : r.CopiesLatest r.due := hok
      rw [hdue] at hok
      exact h.stepHydration hdue hok
  | leave connected => exact h.leave connected
  | other toLowercase event stays => exact h.inWorld toLowercase stays hok
  | save rows => exact h.of_same rfl rfl rfl rfl
  | autosaveReads =>
    unfold Relog.step
    simp only
    split
    · exact h.of_same rfl rfl rfl rfl
    · exact h
  | autosavePosition => exact h.of_same rfl rfl rfl rfl
  | autosaveVitals => exact h.of_same rfl rfl rfl rfl
  | operatorGives request itemId count =>
    unfold Relog.step
    simp only
    split
    · exact h
    · exact h.of_same rfl rfl rfl rfl
  | gift request => exact h.gift request hok

theorem Starts.sound (h : r.Starts login.player.id) : r.Sound login := by
  refine ⟨h.turnover.sound, fun _ _ _ => h.turnover.new, fun part hcarries => ?_,
    fun due part hnew hin => ?_⟩
  · obtain ⟨_, -, -, hcopied⟩ := carries_iff.mp hcarries
    rw [h.due] at hcopied
    cases hcopied
  · rw [h.turnover.new] at hnew
    cases hnew
    cases part <;> cases hin

end Steps

end Relog

open Relog

/-- **A login that nobody disturbs ends with the latest state in the world.** -/
theorem hydrated_latest (login : NativeLogin) (announced : Bool) {start r : Relog}
    (hstart : start.Starts login.player.id)
    (h : Reaches (Relog.step login announced) (Relog.Undisturbed login) start r)
    (hdue : r.due = none) (hnew : r.turnover.new = .loggingIn .facing) (connected : ℕ → Bool) :
    (r.step login announced (.login connected)).turnover.new = .playing ∧
      ∀ part, (r.step login announced (.login connected)).turnover.shared.world.character
          login.player.id part =
        (r.step login announced (.login connected)).latest part := by
  have hsound : r.Sound login := h.invariant (P := Relog.Sound login)
    (fun _ turn hr hok => hr.step turn hok) hstart.sound
  have hstep : r.step login announced (.login connected) =
      r.stepWorld login announced connected := by
    unfold Relog.step
    rw [hdue]
    rfl
  rw [hstep, turnover_stepWorld hnew connected rfl]
  refine ⟨rfl, fun part => ?_⟩
  rw [latest_stepWorld]
  · exact hsound.entered .facing part hnew (by cases part <;> rfl)
  · rintro ⟨hregister, -⟩
    rw [hnew] at hregister
    cases hregister

/-! ### Relogs of a knight -/

def backpackWindows : PlayerContainers := starterBackpack.toOption.getD .empty

def knightRows (containers : PlayerContainers) : CharacterRows where
  position := ⟨100, 100, 7⟩
  level := 1
  experience := 0
  skillPoints := 0
  vitals := {}
  progression := {}
  progressionAttempts := {}
  townId := 0
  respawnState := {}
  equipment := .empty
  containers := containers
  conditions := ∅

/-- The knight logs in while his old session still runs. -/
def knightReturns (containers : PlayerContainers) : Relog where
  turnover := { knightLeaves with shared := { knightLeaves.shared with
    world := (GameEvent.inventory (.replaceContainers 7 containers)).step id
      knightLeaves.shared.world } }
  rows := knightRows containers
  copy := knightRows containers
  due := some .readCharacter
  placed := none
  saving := none
  gifts := fun _ => none
  latest := ((GameEvent.inventory (.replaceContainers 7 containers)).step id
    knightLeaves.shared.world).character 7

theorem starts_knightReturns : (knightReturns backpackWindows).Starts 7 := by
  refine ⟨⟨rfl, rfl, ⟨⟨7, 1, "Knight", ⟨100, 100, 7⟩, 1, 0, 0⟩, ?_⟩, ?_⟩, rfl, rfl⟩
  · decide +kernel
  · decide +kernel

/-- The login reads, the old session leaves, and the login goes on to its last step. -/
def quietRelog : List RelogTurn :=
  List.replicate 4 (.login fun _ => true) ++ List.replicate 5 (.leave fun _ => true) ++
    List.replicate 16 (.login fun _ => true)

def afterRelog (containers : PlayerContainers) (turns : List RelogTurn) : Relog :=
  turns.foldl (Relog.step knightLogin true) (knightReturns containers)

theorem hydrated_latest_quiet :
    let r := afterRelog backpackWindows quietRelog
    (knightReturns backpackWindows).Starts 7 ∧
      (r.step knightLogin true (.login fun _ => true)).turnover.new = .playing ∧
      ∀ part, (r.step knightLogin true (.login fun _ => true)).turnover.shared.world.character
          7 part =
        (r.step knightLogin true (.login fun _ => true)).latest part := by
  intro r
  have hmeets : Meets (Relog.step knightLogin true) (Relog.Undisturbed knightLogin)
      (knightReturns backpackWindows) quietRelog := by decide +kernel
  exact ⟨starts_knightReturns, hydrated_latest knightLogin true starts_knightReturns
    (.foldl .start hmeets) (by decide +kernel) (by decide +kernel) fun _ => true⟩

/-- A gift to the knight, who is just offline. -/
def giftRelog : List RelogTurn :=
  List.replicate 4 (.login fun _ => true) ++ List.replicate 5 (.leave fun _ => true) ++
    [.operatorGives 0 2160 1, .gift 0, .gift 0] ++ List.replicate 17 (.login fun _ => true)

/-- A step of the old session behind the reads of the login, saved at once. -/
def movedRelog : List RelogTurn :=
  List.replicate 4 (.login fun _ => true) ++
    [.other id (.player (.teleport 7 ⟨101, 100, 7⟩)) rfl,
      .save { knightRows backpackWindows with position := ⟨101, 100, 7⟩ }] ++
    List.replicate 5 (.leave fun _ => true) ++ List.replicate 17 (.login fun _ => true)

/-- The session plays on with windows in the world that are not the latest, stored ones. -/
def LosesWindows (r : Relog) : Prop :=
  r.turnover.new = .playing ∧ r.turnover.shared.world.character 7 .containers ≠ r.latest .containers ∧
    r.rows.character .containers = r.latest .containers

/-- **Three relogs that bring back an earlier state**: without the gift, without the backpack that
has just been provisioned, and on the tile the knight has left. -/
theorem relog_staleStates :
    LosesWindows (afterRelog backpackWindows giftRelog) ∧
      LosesWindows (afterRelog .empty (quietRelog ++ [.login fun _ => true])) ∧
      (afterRelog backpackWindows movedRelog).turnover.new = .playing ∧
      (afterRelog backpackWindows movedRelog).turnover.shared.world.character 7 .position =
        some ⟨100, 100, 7⟩ ∧
      (afterRelog backpackWindows movedRelog).latest .position = some ⟨101, 100, 7⟩ := by
  unfold LosesWindows
  decide +kernel

end ForgottenEngine
