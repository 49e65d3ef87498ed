import ForgottenEngine.PlayerTraces
import ForgottenEngine.SharedMap
import ForgottenEngine.ClientActions

/-!
# One session goes, the next one comes

A session that ends clears six shared tables, which know it by the player only, one after the
other.  Meanwhile the same character may log in again.  `Turnover` is one such teardown beside one
such login, with every step under its own lock, and whatever else happens in the world.

* `Turnover.Sound` — what holds at every point of every run: before the removal from the world the
  new session registers nothing, and after it only the outfit and the facing are left to be cleared;
* `turnover_keeps_iff` — **a step of the teardown takes something from the new session exactly when
  it clears an outfit or a facing that the new session has stored already**, and the online count is
  that of the players once both sessions are through.
-/

namespace ForgottenEngine

open Fallible Game

/-! ### The players of the world -/

/-- The world has `n` players, the known ones. -/
def Roster (n : ℕ) (known : ℕ → Prop) (w : GameWorld) : Prop :=
  w.players.size = n ∧ ∀ p, w.IsRegistered p ↔ known p

/-- The event is a registration or a removal. -/
def GameEvent.ComesOrGoes : GameEvent → Bool
  | .addPlayer .. => true
  | .removePlayer _ => true
  | _ => false

namespace Roster

variable {n : ℕ} {known : ℕ → Prop} {w : GameWorld}

theorem of_players {w' : GameWorld} (h : Roster n known w) (hplayers : w'.players = w.players) :
    Roster n known w' := by
  unfold Roster GameWorld.IsRegistered
  rw [hplayers]
  exact h

theorem putPlayer (h : Roster n known w) {p : ℕ} {old : Player} (hold : w.players[p]? = some old)
    (new : Player) : Roster n known (w.putPlayer p new) := by
  have hmem : w.players.contains p = true := by
    rw [Std.ExtTreeMap.contains_eq_isSome_getElem?, hold]
    rfl
  constructor
  · show (w.players.insert p new).size = n
    rw [Std.ExtTreeMap.size_insert, if_pos hmem]
    exact h.1
  · intro q
    rw [← h.2 q]
    simp only [GameWorld.IsRegistered, GameWorld.putPlayer, Std.ExtTreeMap.getElem?_insert,
      Std.LawfulEqCmp.compare_eq_iff_eq]
    split
    · next heq =>
      subst heq
      simp [hold]
    · exact Iff.rfl

theorem robust : Robust (Roster n known) where
  changed _ hw := of_players hw rfl
  tick _ _ hw := of_players hw rfl
  inventory _ _ hframe hw := of_players hw hframe.players
  player _ _ _ new hold _ _ hw := putPlayer hw hold new
  vitals _ _ _ _ _ _ hw := of_players hw rfl
  conditions _ _ _ _ _ _ hw := of_players hw rfl
  lifecycle _ _ _ _ _ _ hw := of_players hw rfl
  died _ _ _ _ _ _ _ _ hw := of_players hw rfl
  respawned w p player vitals _ _ _ _ hold hw := by
    obtain ⟨old, hold, -⟩ := hold
    have hvitals : Roster n known (w.putVitals p vitals) := of_players hw rfl
    exact of_players (putPlayer hvitals hold player) rfl
  intent _ _ _ _ _ hw := of_players hw rfl
  books w w' hbooks hw := by
    have hplayers : w'.players = w.players := by rw [hbooks.living]
    exact of_players hw hplayers

theorem robustEdits : RobustEdits (Roster n known) where
  narrowed _ _ _ hw := of_players hw rfl
  edited _ _ _ _ _ _ hw := of_players hw rfl
  moved _ _ _ _ _ _ _ _ hw := of_players hw rfl
  deactivated _ _ _ _ hw := of_players hw rfl

theorem robustRegistry : RobustRegistry (Roster n known) where
  rewritten _ _ _ _ _ _ hw := of_players hw rfl

/-- **Only a registration or a removal** changes who is in the world. -/
theorem step (toLowercase : String → String) {event : GameEvent} (hstays : event.ComesOrGoes = false)
    (hw : Roster n known w) : Roster n known (event.step toLowercase w) := by
  have hrobust : Robust (Roster n known) := robust
  have hchanged := hrobust.changed
  show Leaves (Roster n known) (event.perform toLowercase) w
  cases event with
  | addPlayer => cases hstays
  | removePlayer => cases hstays
  | inventory e => exact robust.stays_inventory e w hw
  | player e => exact robust.stays_player e w hw
  | upkeep e => exact robust.stays_upkeep e w hw
  | overwrite e =>
    refine leaves_overwrite e hchanged hw fun w' hwrites => ?_
    cases hwrites with
    | experience hplayer => exact putPlayer hw hplayer _
    | levels n hplayer => exact of_players (putPlayer hw hplayer _) rfl
    | _ => exact of_players hw rfl
  | creature e =>
    by_cases hedits : e.EditsOnly
    · exact robustEdits.stays_edits robust toLowercase hedits w hw
    · exact robustRegistry.stays_registry robust toLowercase hedits w hw
  | party e => exact leaves_party hchanged hw e fun _ _ => of_players hw rfl

end Roster

/-! ### The shared world of the host -/

/-- A recipient by its name and its channel. -/
structure SharedChatRecipient where
  playerName : String
  sender : ℕ
deriving DecidableEq, Repr

structure SharedVipPresenceRecipient where
  watchedPlayerIds : Finset ℕ
  sender : ℕ
deriving DecidableEq

/-- The tables of the host that know a player by the identifier. -/
structure SharedNativeWorld where
  world : GameWorld
  playerOutfits : BTreeMap ℕ NativeOtClientClassicOutfit
  playerDirections : BTreeMap ℕ ℕ
  onlinePlayers : UInt64
  chatRecipients : BTreeMap ℕ SharedChatRecipient
  vipPresenceRecipients : BTreeMap ℕ SharedVipPresenceRecipient

abbrev SharedM (α : Type) := Fallible HostError SharedNativeWorld α

namespace Shared

open HostError

/-- An operation of the world, under its lock. -/
def onGame {α : Type} (operation : GameM α) : SharedM α := fun s =>
  ((operation s.world).1.mapError .core, { s with world := (operation s.world).2 })

/-- The stored position, the spawn, or the first tile that is walkable and free. -/
def availablePosition (w : GameWorld) (worldMap : WorldMap) (position : Position) :
    Option Position :=
  let free (position : Position) : Bool := worldMap.isWalkable position &&
    !w.isStaticCreatureOccupied position && !w.isPlayerOccupied position
  ([position, worldMap.spawn].find? free).or ((worldMap.tiles.toList.map Prod.fst).find? free)

def registerPlayerAtAvailablePosition (player : Player) (vitals : PlayerVitals)
    (progression : PlayerProgression) (worldMap : WorldMap) : SharedM Unit := do
  let position ← readOr (fun s => availablePosition s.world worldMap player.position)
    (.invalidConfiguration
      "native map has no walkable tile unoccupied by a player or static creature")
  onGame (addPlayerWithVitalsAndProgression { player with position } vitals progression)
  write fun s => { s with onlinePlayers := s.onlinePlayers + 1 }

def registerPublicChatRecipient (playerId : ℕ) (recipient : SharedChatRecipient) :
    SharedM Unit := do
  if recipient.playerName = "" then
    fail (.invalidConfiguration "shared chat recipient name must not be empty")
  else
    let recipients ← read SharedNativeWorld.chatRecipients
    if recipients.toList.any fun e => e.2.playerName = recipient.playerName then
      fail (.invalidConfiguration "shared chat recipient already registered for player name")
    else if recipients[playerId]?.isSome then
      fail (.invalidConfiguration "shared chat recipient already registered for player")
    else write fun s => { s with chatRecipients := s.chatRecipients.insert playerId recipient }

def registerVipPresenceRecipient (playerId : ℕ) (recipient : SharedVipPresenceRecipient) :
    SharedM Unit := do
  let recipients ← read SharedNativeWorld.vipPresenceRecipients
  if recipients[playerId]?.isSome then
    fail (.invalidConfiguration "VIP presence recipient already registered for player")
  else write fun s => { s with
    vipPresenceRecipients := s.vipPresenceRecipients.insert playerId recipient }

/-- The recipients that watch the player and whose channel is closed are dropped. -/
def publishVipPresence (playerId : ℕ) (connected : ℕ → Bool) : SharedM Unit :=
  if u32Max < playerId then
    fail (.invalidConfiguration "VIP presence target does not fit classic ID")
  else if playerId = 0 then pure ()
  else write fun s => { s with
    vipPresenceRecipients := s.vipPresenceRecipients.filter fun id recipient =>
      id = playerId || playerId ∉ recipient.watchedPlayerIds || connected recipient.sender }

end Shared

/-! ### The login -/

/-- What a login has read from the database, and the channels it opens. -/
structure NativeLogin where
  player : Player
  vitals : PlayerVitals
  progression : PlayerProgression
  worldMap : WorldMap
  equipment : PlayerEquipment
  containers : PlayerContainers
  progressionAttempts : PlayerProgressionAttempts
  townId : ℕ
  conditions : PlayerConditions
  respawnState : PlayerRespawnState
  /-- How the persisted party is entered, when it is. -/
  party : Option PartyEvent
  armorDefense : PlayerCombatDefense
  chatRecipient : SharedChatRecipient
  vipRecipient : SharedVipPresenceRecipient
  outfit : NativeOtClientClassicOutfit
  facing : ℕ

/-- The steps of a login, each under its own lock. -/
inductive LoginStep where
  | register
  | equipment
  | containers
  | progressionAttempts
  | town
  | conditions
  | respawnState
  | party
  | armorDefense
  | chatRecipient
  | vipRecipient
  | findForOutfit
  | outfit
  | findForFacing
  | facing
deriving DecidableEq, Repr

namespace LoginStep

def next : LoginStep → Option LoginStep
  | register => some equipment
  | equipment => some containers
  | containers => some progressionAttempts
  | progressionAttempts => some town
  | town => some conditions
  | conditions => some respawnState
  | respawnState => some party
  | party => some armorDefense
  | armorDefense => some chatRecipient
  | chatRecipient => some vipRecipient
  | vipRecipient => some findForOutfit
  | findForOutfit => some outfit
  | outfit => some findForFacing
  | findForFacing => some facing
  | facing => none

/-- The guard that tears the session down exists behind the registration. -/
def guarded : LoginStep → Bool
  | register | equipment | containers | progressionAttempts | town | conditions
  | respawnState => false
  | _ => true

/-- The step is due before the other one. -/
def before (a b : LoginStep) : Bool := a.ctorIdx < b.ctorIdx

open Shared in
def perform (login : NativeLogin) : LoginStep → SharedM Unit
  | register => registerPlayerAtAvailablePosition login.player login.vitals login.progression
      login.worldMap
  | equipment => onGame (GameEvent.perform id
      (.inventory (.replaceEquipment login.player.id login.equipment)))
  | containers => onGame (GameEvent.perform id
      (.inventory (.replaceContainers login.player.id login.containers)))
  | progressionAttempts => onGame (GameEvent.perform id
      (.upkeep (.replaceAttempts login.player.id login.progressionAttempts)))
  | town => onGame (GameEvent.perform id (.upkeep (.replaceTown login.player.id login.townId)))
  | conditions => onGame (GameEvent.perform id
      (.overwrite (.replaceConditions login.player.id login.conditions)))
  | respawnState => onGame (GameEvent.perform id
      (.overwrite (.hydrateRespawnState login.player.id login.respawnState)))
  | party => write fun s => { s with -- A failure is only reported.
      world := login.party.elim s.world fun event => GameEvent.step id s.world (.party event) }
  | armorDefense => onGame (GameEvent.perform id
      (.upkeep (.replaceCombatDefense login.player.id login.armorDefense)))
  | chatRecipient => registerPublicChatRecipient login.player.id login.chatRecipient
  | vipRecipient => registerVipPresenceRecipient login.player.id login.vipRecipient
  | findForOutfit => onGame (void (Game.requirePlayer login.player.id))
  | outfit => write fun s => { s with
      playerOutfits := s.playerOutfits.insert login.player.id login.outfit }
  | findForFacing => onGame (void (Game.requirePlayer login.player.id))
  | facing => write fun s => { s with
      playerDirections := s.playerDirections.insert login.player.id login.facing }

end LoginStep

/-! ### The teardown -/

/-- The steps of the guard when it is dropped, each under its own lock. -/
inductive TeardownStep where
  | unregisterPublicChatRecipient
  | publishVipPresence
  | unregisterVipPresenceRecipient
  | removePlayer
  | countDown
  | removeOutfit
  | removeDirection
deriving DecidableEq, Repr

namespace TeardownStep

def next : TeardownStep → Option TeardownStep
  | unregisterPublicChatRecipient => some publishVipPresence
  | publishVipPresence => some unregisterVipPresenceRecipient
  | unregisterVipPresenceRecipient => some removePlayer
  | removePlayer => some countDown
  | countDown => some removeOutfit
  | removeOutfit => some removeDirection
  | removeDirection => none

/-- The player is still in the world. -/
def precedesRemoval : TeardownStep → Bool
  | unregisterPublicChatRecipient | publishVipPresence | unregisterVipPresenceRecipient
  | removePlayer => true
  | countDown | removeOutfit | removeDirection => false

/-- `announced` says that the session has announced the player, `connected` which channels are
open. -/
def perform (playerId : ℕ) (announced : Bool) (connected : ℕ → Bool) : TeardownStep → SharedM Unit
  | unregisterPublicChatRecipient => write fun s => { s with
      chatRecipients := s.chatRecipients.erase playerId }
  | publishVipPresence =>
    if announced then Shared.publishVipPresence playerId connected else pure ()
  | unregisterVipPresenceRecipient => write fun s => { s with
      vipPresenceRecipients := s.vipPresenceRecipients.erase playerId }
  | removePlayer => Shared.onGame (void (Game.removePlayer playerId))
  | countDown => write fun s => { s with onlinePlayers := s.onlinePlayers - 1 }
  | removeOutfit => write fun s => { s with playerOutfits := s.playerOutfits.erase playerId }
  | removeDirection => write fun s => { s with
      playerDirections := s.playerDirections.erase playerId }

/-- Only a failed removal from the world ends the teardown early. -/
def after (due : TeardownStep) (result : Except HostError Unit) : Option TeardownStep :=
  match due, result with
  | removePlayer, .error _ => none
  | due, _ => due.next

end TeardownStep

/-! ### The two sessions -/

/-- Where the new session is.  A login that fails behind the guard is torn down as well. -/
inductive NewSession where
  | loggingIn (due : LoginStep)
  | playing
  | tearingDown (due : TeardownStep)
  | gone
deriving DecidableEq, Repr

/-- The session has taken the step, and nothing of it back. -/
def NewSession.hasTaken (step : LoginStep) : NewSession → Bool
  | loggingIn due => step.before due
  | playing => true
  | _ => false

/-- The player of the session is in the world. -/
def NewSession.inWorld : NewSession → Bool
  | loggingIn due => due ≠ .register
  | playing => true
  | tearingDown due => due.precedesRemoval
  | gone => false

def NewSession.teardown : NewSession → Option TeardownStep
  | tearingDown due => some due
  | _ => none

/-- The teardown of the old session beside the login of the new one. -/
structure Turnover where
  shared : SharedNativeWorld
  old : Option TeardownStep
  new : NewSession

inductive Turn where
  | old (connected : ℕ → Bool)
  | new (connected : ℕ → Bool)
  /-- Anything in the world but somebody coming or going. -/
  | other (toLowercase : String → String) (event : GameEvent) (stays : event.ComesOrGoes = false)

namespace Turnover

section Step

variable (login : NativeLogin) (announced : Bool)

def stepOld (r : Turnover) (due : TeardownStep) (connected : ℕ → Bool) : Turnover :=
  let run := due.perform login.player.id announced connected r.shared
  { r with shared := run.2, old := due.after run.1 }

def stepLogin (r : Turnover) (due : LoginStep) : Turnover :=
  match due.perform login r.shared with
  | (.ok _, shared) => { r with shared, new := due.next.elim .playing .loggingIn }
  | (.error _, shared) => { r with
      shared
      new := if due.guarded then .tearingDown .unregisterPublicChatRecipient else .gone }

/-- The session was never announced. -/
def stepTeardown (r : Turnover) (due : TeardownStep) (connected : ℕ → Bool) : Turnover :=
  let run := due.perform login.player.id false connected r.shared
  { r with shared := run.2, new := (due.after run.1).elim .gone .tearingDown }

def step (r : Turnover) : Turn → Turnover
  | .old connected => r.old.elim r fun due => r.stepOld login announced due connected
  | .new connected =>
    match r.new with
    | .loggingIn due => r.stepLogin login due
    | .tearingDown due => r.stepTeardown login due connected
    | .playing | .gone => r
  | .other toLowercase event _ => { r with
      shared := { r.shared with world := event.step toLowercase r.shared.world } }

end Step

/-- The old session has still to be counted down. -/
def owed (due : Option TeardownStep) : UInt64 := if due = some .countDown then 1 else 0

/-- What holds at every point of a turnover. -/
structure Sound (p : ℕ) (r : Turnover) : Prop where
  count : r.shared.onlinePlayers =
    UInt64.ofNat r.shared.world.players.size + owed r.old + owed r.new.teardown
  present : ∀ due, r.old = some due → due.precedesRemoval = true →
    r.shared.world.IsRegistered p ∧ (r.new = .loggingIn .register ∨ r.new = .gone)
  entered : r.new.inWorld = true → r.shared.world.IsRegistered p
  outfit : r.new.hasTaken .outfit = true → r.old = some .countDown ∨ r.old = some .removeOutfit →
    r.shared.playerOutfits[p]?.isSome
  facing : r.new.hasTaken .facing = true → r.old.isSome → r.shared.playerDirections[p]?.isSome

end Turnover

/-! ### What the steps do -/

section Steps

variable {s : SharedNativeWorld} {login : NativeLogin} {announced : Bool} {connected : ℕ → Bool}

theorem addPlayer_cases (player : Player) (vitals : PlayerVitals)
    (progression : PlayerProgression) (w : GameWorld) :
    (∃ e, addPlayerWithVitalsAndProgression player vitals progression w = (.error e, w)) ∨
      ∃ w', addPlayerWithVitalsAndProgression player vitals progression w = (.ok (), w') ∧
        w.players[player.id]? = none ∧ w'.players = w.players.insert player.id player := by
  rcases hrun : addPlayerWithVitalsAndProgression player vitals progression w with ⟨e | u, w'⟩
  · left
    have hatomic : Atomic (addPlayerWithVitalsAndProgression player vitals progression) :=
      .bind_succeeds (atomic_living (Living.atomic_addPlayerWithVitals player vitals))
        fun _ => .write _
    exact ⟨e, by rw [hatomic w e w' hrun]⟩
  · right
    refine ⟨w', rfl, ?_⟩
    simp only [addPlayerWithVitalsAndProgression, bind_eq_ok, write_apply, Prod.mk.injEq] at hrun
    obtain ⟨_, _, hliving, -, rfl⟩ := hrun
    obtain ⟨l, hpart, rfl⟩ := living_eq_ok.mp hliving
    simp only [Living.addPlayerWithVitals, Living.markChanged, guard_eq_ok, bind_eq_ok, read_apply,
      write_apply, Prod.mk.injEq, Except.ok.injEq] at hpart
    obtain ⟨-, -, _, _, ⟨rfl, rfl⟩, _, _, ⟨rfl, rfl⟩, _, _, ⟨rfl, rfl⟩, hnew, -, -, _, _,
      ⟨-, rfl⟩, -, rfl⟩ := hpart
    exact ⟨by simpa using hnew, rfl⟩

theorem onGame_of_ok {α : Type} {operation : GameM α} {a : α} {w : GameWorld}
    (h : operation s.world = (.ok a, w)) :
    Shared.onGame operation s = (.ok a, { s with world := w }) := by
  unfold Shared.onGame
  rw [h]
  rfl

theorem onGame_of_error {α : Type} {operation : GameM α} {e : CoreError} {w : GameWorld}
    (h : operation s.world = (.error e, w)) :
    Shared.onGame operation s = (.error (.core e), { s with world := w }) := by
  unfold Shared.onGame
  rw [h]
  rfl

/-- A registration is refused and changes nothing, or the player is new. -/
theorem register_cases :
    (∃ e, LoginStep.perform login .register s = (.error e, s)) ∨
      ∃ w placed, LoginStep.perform login .register s = (.ok (), { s with
          world := w
          onlinePlayers := s.onlinePlayers + 1 }) ∧ s.world.players[login.player.id]? = none ∧
        w.players = s.world.players.insert login.player.id placed := by
  rcases hposition : Shared.availablePosition s.world login.worldMap login.player.position with
    _ | position
  · left
    exact ⟨_, bind_of_error (by rw [readOr, hposition]; rfl)⟩
  · have hread := readOr_of_some (s := s) (f := fun s : SharedNativeWorld =>
      Shared.availablePosition s.world login.worldMap login.player.position)
      (HostError.invalidConfiguration
        "native map has no walkable tile unoccupied by a player or static creature") hposition
    rcases addPlayer_cases { login.player with position } login.vitals login.progression s.world
      with ⟨e, h⟩ | ⟨w', h, hnew, hplayers⟩
    · left
      exact ⟨_, (bind_of_ok hread).trans (bind_of_error (onGame_of_error h))⟩
    · right
      exact ⟨w', _, (bind_of_ok hread).trans (bind_of_ok (onGame_of_ok h)), hnew, hplayers⟩

/-- The removal of a registered player. -/
theorem removePlayer_registered (announced : Bool) (connected : ℕ → Bool) {p : ℕ}
    (hp : s.world.IsRegistered p) :
    ∃ w, TeardownStep.perform p announced connected .removePlayer s =
      (.ok (), { s with world := w }) ∧ w.players = s.world.players.erase p := by
  obtain ⟨player, hplayer⟩ := hp
  exact ⟨_, onGame_of_ok (by
    simp only [void, Game.removePlayer, Game.living, zoom, Living.removePlayer,
      Living.requirePlayer, bind_apply, readOr, hplayer]
    rfl), rfl⟩

/-- **A step of the login behind the registration** keeps the players and the count, and of the
outfits and the facings it writes what it is about. -/
structure LoginKeeps (p : ℕ) (due : LoginStep) (s s' : SharedNativeWorld) : Prop where
  roster : ∀ n known, Roster n known s.world → Roster n known s'.world
  count : s'.onlinePlayers = s.onlinePlayers
  outfits : if due = .outfit then s'.playerOutfits[p]?.isSome = true
    else s'.playerOutfits = s.playerOutfits
  directions : if due = .facing then s'.playerDirections[p]?.isSome = true
    else s'.playerDirections = s.playerDirections

theorem loginKeeps_event {event : GameEvent} {p : ℕ} {due : LoginStep}
    (h : event.ComesOrGoes = false) (hdue : due ≠ .outfit ∧ due ≠ .facing) :
    LoginKeeps p due s (Shared.onGame (event.perform id) s).2 where
  roster _ _ hs := Roster.step id h hs
  count := rfl
  outfits := by rw [if_neg hdue.1]; rfl
  directions := by rw [if_neg hdue.2]; rfl

theorem loginKeeps_find {p : ℕ} {due : LoginStep} (hdue : due ≠ .outfit ∧ due ≠ .facing) :
    LoginKeeps p due s (Shared.onGame (void (Game.requirePlayer p)) s).2 where
  roster n known hs := by
    have hreads : ReadOnly (void (Game.requirePlayer p)) := .bind (.readOr _ _) fun _ => .pure _
    show Roster n known (void (Game.requirePlayer p) s.world).2
    rw [hreads s.world]
    exact hs
  count := rfl
  outfits := by rw [if_neg hdue.1]; rfl
  directions := by rw [if_neg hdue.2]; rfl

theorem loginKeeps {due : LoginStep} (hdue : due ≠ .register) :
    LoginKeeps login.player.id due s (due.perform login s).2 := by
  cases due with
  | register => exact absurd rfl hdue
  | equipment => exact loginKeeps_event rfl (by decide)
  | containers => exact loginKeeps_event rfl (by decide)
  | progressionAttempts => exact loginKeeps_event rfl (by decide)
  | town => exact loginKeeps_event rfl (by decide)
  | conditions => exact loginKeeps_event rfl (by decide)
  | respawnState => exact loginKeeps_event rfl (by decide)
  | armorDefense => exact loginKeeps_event rfl (by decide)
  | findForOutfit => exact loginKeeps_find (by decide)
  | findForFacing => exact loginKeeps_find (by decide)
  | party =>
    refine ⟨fun n known hs => ?_, rfl, rfl, rfl⟩
    show Roster n known (login.party.elim s.world _)
    cases login.party with
    | none => exact hs
    | some event => exact Roster.step id rfl hs
  | chatRecipient =>
    simp only [LoginStep.perform, Shared.registerPublicChatRecipient]
    split
    · exact ⟨fun _ _ hs => hs, rfl, rfl, rfl⟩
    · rw [bind_of_ok (read_apply _ s)]
      split
      · exact ⟨fun _ _ hs => hs, rfl, rfl, rfl⟩
      · split
        · exact ⟨fun _ _ hs => hs, rfl, rfl, rfl⟩
        · exact ⟨fun _ _ hs => hs, rfl, rfl, rfl⟩
  | vipRecipient =>
    simp only [LoginStep.perform, Shared.registerVipPresenceRecipient]
    rw [bind_of_ok (read_apply _ s)]
    split
    · exact ⟨fun _ _ hs => hs, rfl, rfl, rfl⟩
    · exact ⟨fun _ _ hs => hs, rfl, rfl, rfl⟩
  | outfit =>
    refine ⟨fun _ _ hs => hs, rfl, ?_, rfl⟩
    simp [LoginStep.perform]
  | facing =>
    refine ⟨fun _ _ hs => hs, rfl, rfl, ?_⟩
    simp [LoginStep.perform]

/-- **A step of the teardown** clears the table it is about, and no other one. -/
structure TeardownClears (due : TeardownStep) (s s' : SharedNativeWorld) : Prop where
  world : due ≠ .removePlayer → s'.world = s.world
  count : s'.onlinePlayers = s.onlinePlayers - if due = .countDown then 1 else 0
  chat : due.precedesRemoval = false → s'.chatRecipients = s.chatRecipients
  vip : due.precedesRemoval = false → s'.vipPresenceRecipients = s.vipPresenceRecipients
  outfits : due ≠ .removeOutfit → s'.playerOutfits = s.playerOutfits
  directions : due ≠ .removeDirection → s'.playerDirections = s.playerDirections

theorem teardownClears {p : ℕ} (due : TeardownStep) :
    TeardownClears due s (due.perform p announced connected s).2 := by
  have hzero : s.onlinePlayers = s.onlinePlayers - 0 := by simp
  cases due with
  | unregisterPublicChatRecipient =>
    exact ⟨fun _ => rfl, hzero, fun h => (by cases h), fun h => (by cases h), fun _ => rfl, fun _ => rfl⟩
  | publishVipPresence =>
    simp only [TeardownStep.perform, Shared.publishVipPresence]
    refine ⟨fun _ => ?_, ?_, fun h => (by cases h), fun h => (by cases h), fun _ => ?_, fun _ => ?_⟩
    all_goals
      split
      · split
        · first | rfl | exact hzero
        · split <;> first | rfl | exact hzero
      · first | rfl | exact hzero
  | unregisterVipPresenceRecipient =>
    exact ⟨fun _ => rfl, hzero, fun h => (by cases h), fun h => (by cases h), fun _ => rfl, fun _ => rfl⟩
  | removePlayer =>
    exact ⟨fun h => absurd rfl h, hzero, fun h => (by cases h), fun h => (by cases h), fun _ => rfl,
      fun _ => rfl⟩
  | countDown => exact ⟨fun _ => rfl, rfl, fun _ => rfl, fun _ => rfl, fun _ => rfl, fun _ => rfl⟩
  | removeOutfit =>
    exact ⟨fun _ => rfl, hzero, fun _ => rfl, fun _ => rfl, fun h => absurd rfl h, fun _ => rfl⟩
  | removeDirection =>
    exact ⟨fun _ => rfl, hzero, fun _ => rfl, fun _ => rfl, fun _ => rfl, fun h => absurd rfl h⟩

/-- A step that is not the removal goes on to the next one. -/
theorem after_eq_next {due : TeardownStep} (h : due ≠ .removePlayer)
    (result : Except HostError Unit) : due.after result = due.next := by
  cases due <;> first | rfl | exact absurd rfl h

end Steps

/-! ### Soundness -/

namespace Turnover

theorem ofNat_size_insert {m : BTreeMap ℕ Player} {p : ℕ} (h : m[p]? = none) (player : Player) :
    UInt64.ofNat (m.insert p player).size = UInt64.ofNat m.size + 1 := by
  have hnot : m.contains p = false := by
    rw [Std.ExtTreeMap.contains_eq_isSome_getElem?, h]
    rfl
  rw [Std.ExtTreeMap.size_insert, hnot, if_neg Bool.false_ne_true, UInt64.ofNat_add]
  rfl

theorem ofNat_size_erase {m : BTreeMap ℕ Player} {p : ℕ} {player : Player}
    (h : m[p]? = some player) : UInt64.ofNat m.size = UInt64.ofNat (m.erase p).size + 1 := by
  have hmem : m.contains p = true := by
    rw [Std.ExtTreeMap.contains_eq_isSome_getElem?, h]
    rfl
  have hpos : 0 < m.size := by
    by_contra hzero
    have hempty : m = ∅ := Std.ExtTreeMap.eq_empty_iff_size_eq_zero.mpr (by omega)
    rw [hempty] at hmem
    simp at hmem
  rw [Std.ExtTreeMap.size_erase, if_pos hmem]
  have hsize : m.size = m.size - 1 + 1 := by omega
  conv_lhs => rw [hsize]
  rw [UInt64.ofNat_add]
  rfl

variable {login : NativeLogin} {announced : Bool} {r : Turnover}

/-- The old session takes a step that is not the removal. -/
theorem Sound.stepOld_of_ne (h : r.Sound login.player.id) {due : TeardownStep}
    (hdue : r.old = some due) (hne : due ≠ .removePlayer) (connected : ℕ → Bool) :
    (r.stepOld login announced due connected).Sound login.player.id := by
  let run := due.perform login.player.id announced connected r.shared
  have hclears : TeardownClears due r.shared run.2 := teardownClears due
  have hworld : run.2.world = r.shared.world := hclears.world hne
  have hnext : due.after run.1 = due.next := after_eq_next hne run.1
  constructor
  · show run.2.onlinePlayers =
      UInt64.ofNat run.2.world.players.size + owed (due.after run.1) + owed r.new.teardown
    have hcount := h.count
    rw [hdue] at hcount
    rw [hclears.count, hworld, hnext, hcount]
    cases due with
    | removePlayer => exact absurd rfl hne
    | countDown =>
      show UInt64.ofNat _ + 1 + owed _ - 1 = UInt64.ofNat _ + 0 + owed _
      grind
    | _ =>
      show UInt64.ofNat _ + 0 + owed _ - 0 = UInt64.ofNat _ + 0 + owed _
      grind
  · intro due' hdue' hprecedes
    have hnow : due.precedesRemoval = true := by
      rw [show due.after run.1 = some due' from hdue'] at hnext
      cases due <;> cases hnext <;> first | rfl | cases hprecedes
    show run.2.world.IsRegistered login.player.id ∧ _
    rw [hworld]
    exact h.present due hdue hnow
  · intro hin
    show run.2.world.IsRegistered login.player.id
    rw [hworld]
    exact h.entered hin
  · intro htaken hdue'
    have hnow : due = .countDown := by
      rw [show (r.stepOld login announced due connected).old = due.next from hnext] at hdue'
      cases due with
      | countDown => rfl
      | removePlayer => exact absurd rfl hne
      | _ => rcases hdue' with h | h <;> cases h
    show run.2.playerOutfits[_]?.isSome
    rw [hclears.outfits (by rw [hnow]; decide)]
    exact h.outfit htaken (.inl (by rw [hdue, hnow]))
  · intro htaken hdue'
    have hnow : due ≠ .removeDirection := by
      rintro rfl
      rw [show (r.stepOld login announced .removeDirection connected).old = none from hnext] at hdue'
      cases hdue'
    show run.2.playerDirections[_]?.isSome
    rw [hclears.directions hnow]
    exact h.facing htaken (by rw [hdue]; rfl)

/-- The old session leaves the world, and the new one has not entered it. -/
theorem Sound.stepOld_removePlayer (h : r.Sound login.player.id)
    (hdue : r.old = some .removePlayer) (connected : ℕ → Bool) :
    (r.stepOld login announced .removePlayer connected).Sound login.player.id := by
  obtain ⟨hregistered, hnew⟩ := h.present _ hdue rfl
  obtain ⟨player, hplayer⟩ := hregistered
  obtain ⟨w, hrun, hplayers⟩ := removePlayer_registered announced connected ⟨player, hplayer⟩
  have houtside : r.new.inWorld = false ∧ r.new.hasTaken .outfit = false ∧
      r.new.hasTaken .facing = false ∧ owed r.new.teardown = 0 := by
    rcases hnew with hnew | hnew <;> rw [hnew] <;> exact ⟨rfl, rfl, rfl, rfl⟩
  have hstep : r.stepOld login announced .removePlayer connected =
      { r with shared := { r.shared with world := w }, old := some .countDown } := by
    unfold Turnover.stepOld
    rw [hrun]
    rfl
  rw [hstep]
  constructor
  · have hcount := h.count
    rw [hdue, ofNat_size_erase hplayer] at hcount
    show r.shared.onlinePlayers = UInt64.ofNat w.players.size + 1 + owed r.new.teardown
    rw [hcount, hplayers]
    show _ + 1 + 0 + _ = _ + 1 + _
    grind
  · intro due hdue' hprecedes
    cases hdue'
    cases hprecedes
  · intro hin
    rw [houtside.1] at hin
    cases hin
  · intro htaken
    rw [houtside.2.1] at htaken
    cases htaken
  · intro htaken
    rw [houtside.2.2.1] at htaken
    cases htaken

theorem Sound.stepOld (h : r.Sound login.player.id) {due : TeardownStep} (hdue : r.old = some due)
    (connected : ℕ → Bool) : (r.stepOld login announced due connected).Sound login.player.id := by
  by_cases hne : due = .removePlayer
  · subst hne
    exact h.stepOld_removePlayer hdue connected
  · exact h.stepOld_of_ne hdue hne connected

/-- Once the new session has entered the world, the old one is through with the removal. -/
theorem Sound.old_past (h : r.Sound login.player.id)
    (hnew : r.new ≠ .loggingIn .register ∧ r.new ≠ .gone) (due : TeardownStep)
    (hdue : r.old = some due) : due.precedesRemoval = false := by
  by_contra hprecedes
  obtain ⟨-, hnow⟩ := h.present due hdue (by simpa using hprecedes)
  rcases hnow with hnow | hnow
  · exact hnew.1 hnow
  · exact hnew.2 hnow

/-- The new session comes into the world, or goes. -/
theorem Sound.stepLogin_register (h : r.Sound login.player.id) (hnew : r.new = .loggingIn .register) :
    (r.stepLogin login .register).Sound login.player.id := by
  rcases @register_cases r.shared login with
    ⟨e, hrun⟩ | ⟨w, placed, hrun, hfree, hplayers⟩
  · have hstep : r.stepLogin login .register = { r with new := .gone } := by
      unfold Turnover.stepLogin
      rw [hrun]
      rfl
    rw [hstep]
    have hcount := h.count
    rw [hnew] at hcount
    refine ⟨hcount, fun due hdue hprecedes => ?_, fun hin => ?_, fun htaken => ?_, fun htaken => ?_⟩
    · exact ⟨(h.present due hdue hprecedes).1, .inr rfl⟩
    · cases hin
    · cases htaken
    · cases htaken
  · have hstep : r.stepLogin login .register = { r with
        shared := { r.shared with world := w, onlinePlayers := r.shared.onlinePlayers + 1 }
        new := .loggingIn .equipment } := by
      unfold Turnover.stepLogin
      rw [hrun]
      rfl
    have hregistered : w.IsRegistered login.player.id := by
      refine ⟨placed, ?_⟩
      rw [hplayers]
      simp
    rw [hstep]
    refine ⟨?_, fun due hdue hprecedes => ?_, fun _ => hregistered, fun htaken => ?_, fun htaken => ?_⟩
    · have hcount := h.count
      rw [hnew] at hcount
      show r.shared.onlinePlayers + 1 = UInt64.ofNat w.players.size + owed r.old + 0
      rw [hcount, hplayers, ofNat_size_insert hfree]
      show _ + _ + 0 + 1 = _
      grind
    · -- The player would still be in the world.
      obtain ⟨player, hplayer⟩ := (h.present due hdue hprecedes).1
      rw [hfree] at hplayer
      cases hplayer
    · cases htaken
    · cases htaken

/-- Where a login is after a step. -/
def afterLogin (due : LoginStep) (result : Except HostError Unit) : NewSession :=
  match result with
  | .ok _ => due.next.elim .playing .loggingIn
  | .error _ => if due.guarded then .tearingDown .unregisterPublicChatRecipient else .gone

theorem stepLogin_eq (due : LoginStep) : r.stepLogin login due = { r with
    shared := (due.perform login r.shared).2
    new := afterLogin due (due.perform login r.shared).1 } := by
  unfold Turnover.stepLogin
  rcases due.perform login r.shared with ⟨e | u, s⟩ <;> rfl

theorem owed_afterLogin (due : LoginStep) (result : Except HostError Unit) :
    owed (afterLogin due result).teardown = 0 := by
  cases result with
  | ok u => cases due <;> rfl
  | error e => cases due <;> rfl

/-- What has been taken after the step was taken before it, or is this step. -/
theorem hasTaken_afterLogin {due step : LoginStep} {result : Except HostError Unit}
    (h : (afterLogin due result).hasTaken step = true) :
    (NewSession.loggingIn due).hasTaken step = true ∨ due = step := by
  cases result with
  | ok u => cases due <;> cases step <;> first | exact .inl rfl | exact .inr rfl | cases h
  | error e =>
    unfold afterLogin at h
    simp only at h
    split at h <;> cases h

/-- A later step of the login. -/
theorem Sound.stepLogin_of_ne (h : r.Sound login.player.id) {due : LoginStep}
    (hnew : r.new = .loggingIn due) (hne : due ≠ .register) :
    (r.stepLogin login due).Sound login.player.id := by
  have hkeeps : LoginKeeps login.player.id due r.shared (due.perform login r.shared).2 :=
    loginKeeps hne
  have hin : r.new.inWorld = true := by
    rw [hnew]
    exact decide_eq_true hne
  have hpast : r.new ≠ .loggingIn .register ∧ r.new ≠ .gone := by
    rw [hnew]
    exact ⟨fun heq => hne (NewSession.loggingIn.inj heq), nofun⟩
  have hregistered := h.entered hin
  have hroster := hkeeps.roster _ _ ⟨rfl, fun _ => Iff.rfl⟩
  rw [stepLogin_eq]
  constructor
  · have hcount := h.count
    rw [hnew] at hcount
    show (due.perform login r.shared).2.onlinePlayers = _ + _ + owed _
    rw [hkeeps.count, hcount, hroster.1, owed_afterLogin]
    rfl
  · intro due' hdue' hprecedes
    rw [h.old_past hpast due' hdue'] at hprecedes
    cases hprecedes
  · intro _
    exact (hroster.2 _).mpr hregistered
  · intro htaken hold
    have houtfits := hkeeps.outfits
    split at houtfits
    · exact houtfits
    · next hother =>
      show (due.perform login r.shared).2.playerOutfits[_]?.isSome
      rw [houtfits]
      have hbefore := (hasTaken_afterLogin htaken).resolve_right hother
      exact h.outfit (by rw [hnew]; exact hbefore) hold
  · intro htaken hold
    have hdirections := hkeeps.directions
    split at hdirections
    · exact hdirections
    · next hother =>
      show (due.perform login r.shared).2.playerDirections[_]?.isSome
      rw [hdirections]
      have hbefore := (hasTaken_afterLogin htaken).resolve_right hother
      exact h.facing (by rw [hnew]; exact hbefore) hold

theorem Sound.stepLogin (h : r.Sound login.player.id) {due : LoginStep}
    (hnew : r.new = .loggingIn due) : (r.stepLogin login due).Sound login.player.id := by
  by_cases hne : due = .register
  · subst hne
    exact h.stepLogin_register hnew
  · exact h.stepLogin_of_ne hnew hne

theorem stepTeardown_of_ne {due : TeardownStep} (hne : due ≠ .removePlayer)
    (connected : ℕ → Bool) : r.stepTeardown login due connected = { r with
      shared := (due.perform login.player.id false connected r.shared).2
      new := due.next.elim .gone .tearingDown } := by
  unfold Turnover.stepTeardown
  simp only [after_eq_next hne]

/-- The new session is torn down. -/
theorem Sound.stepTeardown (h : r.Sound login.player.id) {due : TeardownStep}
    (hnew : r.new = .tearingDown due) (connected : ℕ → Bool) :
    (r.stepTeardown login due connected).Sound login.player.id := by
  have hpast := h.old_past (by rw [hnew]; exact ⟨nofun, nofun⟩)
  have hcount := h.count
  rw [hnew] at hcount
  by_cases hne : due = .removePlayer
  · subst hne
    obtain ⟨player, hplayer⟩ := h.entered (by rw [hnew]; rfl)
    obtain ⟨w, hrun, hplayers⟩ := removePlayer_registered false connected ⟨player, hplayer⟩
    have hstep : r.stepTeardown login .removePlayer connected =
        { r with shared := { r.shared with world := w }, new := .tearingDown .countDown } := by
      unfold Turnover.stepTeardown
      rw [hrun]
      rfl
    rw [hstep]
    refine ⟨?_, fun due hdue hprecedes => ?_, nofun, nofun, nofun⟩
    · rw [ofNat_size_erase hplayer] at hcount
      show r.shared.onlinePlayers = UInt64.ofNat w.players.size + owed r.old + 1
      rw [hcount, hplayers]
      show _ + 1 + _ + 0 = _ + _ + 1
      grind
    · rw [hpast due hdue] at hprecedes
      cases hprecedes
  · have hclears : TeardownClears due r.shared
        (due.perform login.player.id false connected r.shared).2 := teardownClears due
    rw [stepTeardown_of_ne hne]
    refine ⟨?_, fun due hdue hprecedes => ?_, fun hin => ?_, fun htaken => ?_, fun htaken => ?_⟩
    · show (due.perform login.player.id false connected r.shared).2.onlinePlayers = _
      rw [hclears.count, hclears.world hne, hcount]
      cases due with
      | removePlayer => exact absurd rfl hne
      | countDown =>
        show _ + _ + 1 - 1 = _ + _ + 0
        grind
      | _ =>
        show _ + _ + 0 - 0 = _ + _ + 0
        grind
    · rw [hpast due hdue] at hprecedes
      cases hprecedes
    · show (due.perform login.player.id false connected r.shared).2.world.IsRegistered _
      rw [hclears.world hne]
      refine h.entered ?_
      rw [hnew]
      cases due <;> first | rfl | exact absurd rfl hne | cases hin
    · cases due <;> cases htaken
    · cases due <;> cases htaken

/-- **One step of either session, or of anything else**, keeps the turnover sound. -/
theorem Sound.step (h : r.Sound login.player.id) (turn : Turn) :
    (r.step login announced turn).Sound login.player.id := by
  cases turn with
  | old connected =>
    unfold Turnover.step
    rcases hold : r.old with _ | due
    · exact h
    · exact h.stepOld hold connected
  | new connected =>
    unfold Turnover.step
    rcases hnew : r.new with due | _ | due | _
    · exact h.stepLogin hnew
    · exact h
    · exact h.stepTeardown hnew connected
    · exact h
  | other toLowercase event stays =>
    have hroster := Roster.step toLowercase (w := r.shared.world) stays ⟨rfl, fun _ => Iff.rfl⟩
    refine ⟨?_, fun due hdue hprecedes => ?_, fun hin => ?_, h.outfit, h.facing⟩
    · show r.shared.onlinePlayers = UInt64.ofNat (event.step _ _).players.size + _ + _
      rw [hroster.1]
      exact h.count
    · obtain ⟨hregistered, hnew⟩ := h.present due hdue hprecedes
      exact ⟨(hroster.2 _).mpr hregistered, hnew⟩
    · exact (hroster.2 _).mpr (h.entered hin)

/-- The old session ends while its player is in the world, and the new one has done nothing. -/
structure Starts (p : ℕ) (r : Turnover) : Prop where
  old : r.old = some .unregisterPublicChatRecipient
  new : r.new = .loggingIn .register
  registered : r.shared.world.IsRegistered p
  count : r.shared.onlinePlayers = UInt64.ofNat r.shared.world.players.size

theorem Starts.sound (h : r.Starts login.player.id) : r.Sound login.player.id := by
  refine ⟨?_, fun _ _ _ => ⟨h.registered, .inl h.new⟩, fun hin => ?_, fun htaken => ?_,
    fun htaken => ?_⟩
  · rw [h.count, h.old, h.new]
    show _ = _ + 0 + 0
    grind
  · rw [h.new] at hin
    cases hin
  · rw [h.new] at htaken
    cases htaken
  · rw [h.new] at htaken
    cases htaken

/-- Both sessions are through. -/
def Finished (r : Turnover) : Prop := r.old = none ∧ (r.new = .playing ∨ r.new = .gone)

/-- Nothing the new session has registered is removed or changed. -/
structure KeepsNew (p : ℕ) (new : NewSession) (before after : SharedNativeWorld) : Prop where
  world : new.hasTaken .register = true → after.world = before.world
  chat : new.hasTaken .chatRecipient = true →
    after.chatRecipients[p]? = before.chatRecipients[p]?
  vip : new.hasTaken .vipRecipient = true →
    after.vipPresenceRecipients[p]? = before.vipPresenceRecipients[p]?
  outfit : new.hasTaken .outfit = true → after.playerOutfits[p]? = before.playerOutfits[p]?
  facing : new.hasTaken .facing = true → after.playerDirections[p]? = before.playerDirections[p]?

/-- The step clears what the new session has stored already. -/
def Overtaken (new : NewSession) (due : TeardownStep) : Prop :=
  due = .removeOutfit ∧ new.hasTaken .outfit = true ∨
    due = .removeDirection ∧ new.hasTaken .facing = true

/-- The new session has taken nothing before the old one has left the world. -/
theorem Sound.nothingTaken (h : r.Sound login.player.id) {due : TeardownStep}
    (hdue : r.old = some due) (hprecedes : due.precedesRemoval = true) (step : LoginStep) :
    r.new.hasTaken step = false := by
  obtain ⟨-, hnew | hnew⟩ := h.present due hdue hprecedes
  · rw [hnew]
    cases step <;> rfl
  · rw [hnew]
    rfl

/-- **A step of the teardown keeps what the new session has registered**, or it is overtaken. -/
theorem Sound.keepsNew_iff (h : r.Sound login.player.id) {due : TeardownStep}
    (hdue : r.old = some due) (connected : ℕ → Bool) :
    KeepsNew login.player.id r.new r.shared (r.stepOld login announced due connected).shared ↔
      ¬Overtaken r.new due := by
  have hclears : TeardownClears due r.shared (r.stepOld login announced due connected).shared :=
    teardownClears due
  by_cases hprecedes : due.precedesRemoval = true
  · have hnothing := h.nothingTaken hdue hprecedes
    constructor
    · intro _ hover
      rcases hover with ⟨-, htaken⟩ | ⟨-, htaken⟩
      · rw [hnothing] at htaken
        cases htaken
      · rw [hnothing] at htaken
        cases htaken
    · intro _
      constructor <;> (intro htaken; rw [hnothing] at htaken; cases htaken)
  · have hpast : due.precedesRemoval = false := by simpa using hprecedes
    have hne : due ≠ .removePlayer := by
      rintro rfl
      cases hpast
    constructor
    · intro hkeeps hover
      rcases hover with ⟨rfl, htaken⟩ | ⟨rfl, htaken⟩
      · have hstored := h.outfit htaken (.inr hdue)
        rw [← hkeeps.outfit htaken] at hstored
        revert hstored
        simp [Turnover.stepOld, TeardownStep.perform]
      · have hstored := h.facing htaken (by rw [hdue]; rfl)
        rw [← hkeeps.facing htaken] at hstored
        revert hstored
        simp [Turnover.stepOld, TeardownStep.perform]
    · intro hover
      refine ⟨fun _ => hclears.world hne, fun _ => by rw [hclears.chat hpast],
        fun _ => by rw [hclears.vip hpast], fun htaken => ?_, fun htaken => ?_⟩
      · rw [hclears.outfits fun heq => hover (.inl ⟨heq, htaken⟩)]
      · rw [hclears.directions fun heq => hover (.inr ⟨heq, htaken⟩)]

end Turnover

open Turnover

/-- **A teardown takes from the new session exactly the outfit and the facing it comes too late
for**, and in the end the count is right. -/
theorem turnover_keeps_iff (login : NativeLogin) (announced : Bool) {start r : Turnover}
    (hstart : start.Starts login.player.id)
    (h : Reaches (Turnover.step login announced) (fun _ _ => True) start r) :
    (∀ due connected, r.old = some due →
      (KeepsNew login.player.id r.new r.shared (r.stepOld login announced due connected).shared ↔
        ¬Overtaken r.new due)) ∧
      (r.Finished → r.shared.onlinePlayers = UInt64.ofNat r.shared.world.players.size) := by
  have hsound : r.Sound login.player.id := h.invariant (P := Sound login.player.id)
    (fun _ turn hr _ => hr.step turn) hstart.sound
  refine ⟨fun due connected hdue => hsound.keepsNew_iff hdue connected, fun ⟨hold, hnew⟩ => ?_⟩
  have hcount := hsound.count
  have hnobody : owed r.old = 0 ∧ owed r.new.teardown = 0 := by
    rw [hold]
    rcases hnew with hnew | hnew <;> rw [hnew] <;> exact ⟨rfl, rfl⟩
  rw [hcount, hnobody.1, hnobody.2]
  grind

/-! ### A fast relog -/

/-- A meadow of one tile. -/
def meadowMap : WorldMap where
  identifier := "meadow"
  spawn := ⟨100, 100, 7⟩
  tiles := (∅ : BTreeMap Position WorldMapTile).insert ⟨100, 100, 7⟩ ⟨102, true⟩
  source := .feMapV1
  tileItems := ∅
  tileFlags := ∅
  houseTiles := ∅
  towns := KeyedMap.empty
  waypoints := ∅
  bounded := WorldMap.bounded_empty

/-- The knight comes back. -/
def knightLogin : NativeLogin where
  player := ⟨7, 1, "Knight", ⟨100, 100, 7⟩, 1, 0, 0⟩
  vitals := {}
  progression := {}
  worldMap := meadowMap
  equipment := .empty
  containers := .empty
  progressionAttempts := {}
  townId := 1
  conditions := ⟨∅⟩
  respawnState := {}
  party := none
  armorDefense := {}
  chatRecipient := ⟨"Knight", 2⟩
  vipRecipient := ⟨∅, 2⟩
  outfit := ⟨128, 78, 69, 58, 76⟩
  facing := 2

/-- While the session he has left is about to be torn down. -/
def knightLeaves : Turnover where
  shared :=
    { world := (knightEnters 7 100).step id .empty
      playerOutfits := (∅ : BTreeMap ℕ NativeOtClientClassicOutfit).insert 7 ⟨128, 0, 0, 0, 0⟩
      playerDirections := (∅ : BTreeMap ℕ ℕ).insert 7 0
      onlinePlayers := 1
      chatRecipients := (∅ : BTreeMap ℕ SharedChatRecipient).insert 7 ⟨"Knight", 1⟩
      vipPresenceRecipients := (∅ : BTreeMap ℕ SharedVipPresenceRecipient).insert 7 ⟨∅, 1⟩ }
  old := some .unregisterPublicChatRecipient
  new := .loggingIn .register

theorem starts_knightLeaves : knightLeaves.Starts 7 := by
  refine ⟨rfl, rfl, ⟨⟨7, 1, "Knight", ⟨100, 100, 7⟩, 1, 0, 0⟩, ?_⟩, ?_⟩
  · decide +kernel
  · decide +kernel

/-- The old session leaves the world and is counted down, and the new one logs in. -/
def fastRelog : List Turn :=
  List.replicate 5 (.old fun _ => true) ++ List.replicate 15 (.new fun _ => true)

theorem turnover_keeps_iff_relog :
    knightLeaves.Starts 7 ∧
      (∀ due connected, (fastRelog.foldl (Turnover.step knightLogin true) knightLeaves).old =
          some due →
        (KeepsNew 7 (fastRelog.foldl (Turnover.step knightLogin true) knightLeaves).new
            (fastRelog.foldl (Turnover.step knightLogin true) knightLeaves).shared
            ((fastRelog.foldl (Turnover.step knightLogin true) knightLeaves).stepOld knightLogin
              true due connected).shared ↔
          ¬Overtaken (fastRelog.foldl (Turnover.step knightLogin true) knightLeaves).new due)) :=
  ⟨starts_knightLeaves,
    (turnover_keeps_iff knightLogin true starts_knightLeaves (.foldl .start (meets_of_forall (fun _ _ => trivial) _ _))).1⟩

/-- **The relog is through, and loses its outfit and its facing.** -/
theorem relog_takes :
    let r := fastRelog.foldl (Turnover.step knightLogin true) knightLeaves
    let late := [Turn.old fun _ => true, Turn.old fun _ => true].foldl
      (Turnover.step knightLogin true) r
    knightLeaves.Starts 7 ∧ r.new = .playing ∧ r.old = some .removeOutfit ∧
      ¬KeepsNew 7 r.new r.shared
        (r.stepOld knightLogin true .removeOutfit fun _ => true).shared ∧
      late.Finished ∧ late.shared.playerOutfits[7]? = none ∧
      late.shared.playerDirections[7]? = none := by
  intro r late
  have hnew : r.new = .playing := by decide +kernel
  have hlost : (r.stepOld knightLogin true .removeOutfit fun _ => true).shared.playerOutfits[7]? ≠
      r.shared.playerOutfits[7]? := by decide +kernel
  refine ⟨starts_knightLeaves, hnew, by decide +kernel, fun hkeeps => ?_,
    ⟨by decide +kernel, .inl (by decide +kernel)⟩, by decide +kernel, by decide +kernel⟩
  refine hlost (hkeeps.outfit ?_)
  rw [hnew]
  rfl

end ForgottenEngine
