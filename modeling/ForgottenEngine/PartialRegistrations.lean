import ForgottenEngine.LoginHydration

/-!
# A registration in seven sections

A registration takes the world lock seven times: for the player with the vitals and the
progression, and then for each of the other stored parts of the character.  The guard that would
remove the player again exists only behind the last section.

* `register_enters` — what the first section enters when it is not refused;
* `registration_leavesBehind` — an error behind the first section leaves the player in the world;
* `registration_allOrNothing_iff` — **a registration is all or nothing exactly when it is refused,
  or when the later sections have nothing to enter**.
-/

namespace ForgottenEngine

open Fallible Game

/-! ### The registration -/

/-- The sections of a registration, each under its own lock. -/
def registrationSections : List LoginStep :=
  [.register, .equipment, .containers, .progressionAttempts, .town, .conditions, .respawnState]

namespace Shared

/-- The registration of a player with everything that is stored of the character. -/
def registerPlayerWithHydration (login : NativeLogin) : SharedM Unit :=
  registrationSections.forM (LoginStep.perform login)

/-- The states in which the sections hand the world to the other threads: one behind each section,
up to the first that fails. -/
def releases (login : NativeLogin) : List LoginStep → SharedNativeWorld → List SharedNativeWorld
  | [], _ => []
  | due :: sections, s =>
    match due.perform login s with
    | (.ok _, t) => t :: releases login sections t
    | (.error _, t) => [t]

end Shared

/-! ### All or nothing -/

/-- Every stored part of the character is in the world. -/
structure Hydrated (login : NativeLogin) (w : GameWorld) : Prop where
  vitals : w.playerVitals[login.player.id]? = some login.vitals
  progression : w.playerProgressions[login.player.id]? = some login.progression
  equipment : w.playerEquipments[login.player.id]? = some login.equipment
  containers : w.playerContainers[login.player.id]? = some login.containers
  attempts : w.playerProgressionAttempts[login.player.id]? = some login.progressionAttempts
  town : w.playerTowns[login.player.id]? = some login.townId
  conditions : w.playerConditions[login.player.id]? = some login.conditions
  respawnState : w.playerRespawnStates[login.player.id]? = some login.respawnState

/-- Nothing of the registration is left. -/
structure RolledBack (login : NativeLogin) (s t : SharedNativeWorld) : Prop where
  gone : t.world.IsRegistered login.player.id → s.world.IsRegistered login.player.id
  others : ∀ p ≠ login.player.id, t.world.players[p]? = s.world.players[p]?
  online : t.onlinePlayers = s.onlinePlayers
  relog : (LoginStep.register.perform login t).1 =
      .error (.core (.duplicatePlayer login.player.id)) →
    (LoginStep.register.perform login s).1 = .error (.core (.duplicatePlayer login.player.id))

/-- An error leaves nothing behind, and nobody sees a part of the character without the rest. -/
structure AllOrNothing (login : NativeLogin) (s : SharedNativeWorld) : Prop where
  rolledBack : ∀ e t, Shared.registerPlayerWithHydration login s = (.error e, t) →
    RolledBack login s t
  unseen : ∀ t ∈ Shared.releases login registrationSections s,
    t.world.IsRegistered login.player.id →
      s.world.IsRegistered login.player.id ∨ Hydrated login t.world

/-! ### The first section -/

/-- The first section takes no player: there is no free tile, the name is empty, the vitals are
invalid, or the character is registered. -/
def RegistrationRefused (login : NativeLogin) (w : GameWorld) : Prop :=
  Shared.availablePosition w login.worldMap login.player.position = none ∨
    (trim login.player.name).isEmpty = true ∨ login.vitals.isValid = false ∨
      w.IsRegistered login.player.id

/-- The character without what the later sections enter. -/
def NativeLogin.plain (login : NativeLogin) : NativeLogin :=
  { login with
    equipment := .empty
    containers := .empty
    progressionAttempts := {}
    townId := 0
    conditions := ∅
    respawnState := {} }

section Register

variable {login : NativeLogin} {s : SharedNativeWorld} {w : GameWorld}

theorem availablePosition_free {worldMap : WorldMap} {stored position : Position}
    (h : Shared.availablePosition w worldMap stored = some position) :
    w.isPlayerOccupied position = false ∧ w.isStaticCreatureOccupied position = false := by
  have hfree (positions : List Position)
      (hfind : positions.find? (fun position => worldMap.isWalkable position &&
        !w.isStaticCreatureOccupied position && !w.isPlayerOccupied position) = some position) :
      w.isPlayerOccupied position = false ∧ w.isStaticCreatureOccupied position = false := by
    have hfound := List.find?_some hfind
    simp only [Bool.and_eq_true, Bool.not_eq_true'] at hfound
    exact ⟨hfound.2, hfound.1.2⟩
  rcases Option.or_eq_some_iff.mp h with hfind | ⟨-, hfind⟩
  · exact hfree _ hfind
  · exact hfree _ hfind

/-- A new player comes in with the vitals and the progression, and with nothing else. -/
theorem addPlayer_run {player : Player} (hid : player.id = login.player.id)
    (hname : (trim player.name).isEmpty = false) (hvitals : login.vitals.isValid = true)
    (hnew : w.players[player.id]? = none) (hplayer : w.isPlayerOccupied player.position = false)
    (hcreature : w.isStaticCreatureOccupied player.position = false) :
    ∃ w', addPlayerWithVitalsAndProgression player login.vitals login.progression w =
        (.ok (), w') ∧ w'.IsRegistered login.player.id ∧ Hydrated login.plain w' := by
  have hliving : ∃ l, Living.addPlayerWithVitals player login.vitals w.toLivingWorld = (.ok (), l) ∧
      l.players[player.id]? = some player ∧ l.playerVitals[player.id]? = some login.vitals ∧
      l.playerEquipments[player.id]? = some .empty ∧
      l.playerContainers[player.id]? = some .empty ∧ l.playerConditions[player.id]? = some ∅ ∧
      l.playerRespawnStates[player.id]? = some {} := by
    unfold Living.addPlayerWithVitals
    rw [if_neg (by simp [hname]), if_neg (not_not_intro hvitals), bind_of_ok (read_apply _ _),
      bind_of_ok (read_apply _ _), bind_of_ok (read_apply _ _), if_neg (by simp [hnew]),
      if_neg (by simp [hplayer]), if_neg (by simp [hcreature])]
    refine ⟨_, rfl, ?_, ?_, ?_, ?_, ?_, ?_⟩
    all_goals exact Std.ExtTreeMap.getElem?_insert_self
  obtain ⟨l, hrun, hentered, hvitalsEntry, hequipment, hcontainers, hconditions, hrespawn⟩ :=
    hliving
  have hgame : living (Living.addPlayerWithVitals player login.vitals) w =
      (.ok (), w.putLiving l) :=
    living_eq_ok.mpr ⟨l, hrun, rfl⟩
  unfold addPlayerWithVitalsAndProgression
  rw [bind_of_ok hgame]
  refine ⟨_, rfl, ⟨player, ?_⟩, ?_⟩
  · rw [← hid]
    exact hentered
  · have hkey : login.plain.player.id = player.id := hid.symm
    constructor
    all_goals rw [hkey]
    · exact hvitalsEntry
    · exact Std.ExtTreeMap.getElem?_insert_self
    · exact hequipment
    · exact hcontainers
    · exact Std.ExtTreeMap.getElem?_insert_self
    · exact Std.ExtTreeMap.getElem?_insert_self
    · exact hconditions
    · exact hrespawn

/-- Who has come in has a name and valid vitals. -/
theorem addPlayer_valid {player : Player} {w' : GameWorld}
    (h : addPlayerWithVitalsAndProgression player login.vitals login.progression w = (.ok (), w')) :
    (trim player.name).isEmpty = false ∧ login.vitals.isValid = true := by
  unfold addPlayerWithVitalsAndProgression at h
  obtain ⟨_, _, hliving, -⟩ := bind_eq_ok.mp h
  obtain ⟨l, hrun, -⟩ := living_eq_ok.mp hliving
  unfold Living.addPlayerWithVitals at hrun
  obtain ⟨hname, hrun⟩ := guard_eq_ok.mp hrun
  obtain ⟨hvitals, -⟩ := guard_eq_ok.mp hrun
  exact ⟨Bool.eq_false_iff.mpr hname, not_not.mp hvitals⟩

theorem register_refused (h : RegistrationRefused login s.world) :
    ∃ e, LoginStep.perform login .register s = (.error e, s) := by
  rcases @register_cases s login with hrefused | ⟨w, placed, hrun, hnew, -⟩
  · exact hrefused
  obtain ⟨position, _, hread, hrest⟩ := bind_eq_ok.mp hrun
  obtain ⟨hposition, rfl⟩ := readOr_eq_ok.mp hread
  obtain ⟨_, _, hgame, -⟩ := bind_eq_ok.mp hrest
  obtain ⟨w', hadd, -⟩ := onGame_eq_ok.mp hgame
  obtain ⟨hname, hvitals⟩ := addPlayer_valid hadd
  rcases h with hplace | hempty | hinvalid | ⟨player, hregistered⟩
  · rw [hplace] at hposition
    cases hposition
  · rw [show (trim login.player.name).isEmpty = false from hname] at hempty
    cases hempty
  · rw [hvitals] at hinvalid
    cases hinvalid
  · rw [hnew] at hregistered
    cases hregistered

theorem register_enters (h : ¬RegistrationRefused login s.world) :
    ∃ w, LoginStep.perform login .register s =
        (.ok (), { s with world := w, onlinePlayers := s.onlinePlayers + 1 }) ∧
      w.IsRegistered login.player.id ∧ Hydrated login.plain w := by
  simp only [RegistrationRefused, not_or] at h
  obtain ⟨hplace, hname, hvitals, hnew⟩ := h
  obtain ⟨position, hposition⟩ := Option.ne_none_iff_exists'.mp hplace
  obtain ⟨hplayer, hcreature⟩ := availablePosition_free hposition
  have hnone : s.world.players[login.player.id]? = none := by
    cases hplayers : s.world.players[login.player.id]? with
    | none => rfl
    | some player => exact absurd ⟨player, hplayers⟩ hnew
  obtain ⟨w, hrun, hregistered, hhydrated⟩ := @addPlayer_run login s.world
    { login.player with position } rfl (by simpa using hname) (by simpa using hvitals) hnone hplayer
    hcreature
  refine ⟨w, ?_, hregistered, hhydrated⟩
  have hread : readOr (fun s : SharedNativeWorld =>
      Shared.availablePosition s.world login.worldMap login.player.position)
      (HostError.invalidConfiguration
        "native map has no walkable tile unoccupied by a player or static creature") s =
      (.ok position, s) := readOr_of_some _ hposition
  exact (bind_of_ok hread).trans (bind_of_ok (onGame_of_ok hrun))

end Register

/-! ### The later sections -/

/-- A section behind the first one. -/
def LoginStep.hydrates (due : LoginStep) : Bool := due ≠ .register && !due.guarded

/-- A dead state with its temple and its time, or the state of the living. -/
def AcceptableRespawn (state : PlayerRespawnState) : Prop :=
  if state.dead then state.respawnAt.isSome ∧ state.deathTime.isSome else state = {}

section Sections

variable {login current : NativeLogin} {s : SharedNativeWorld} {w : GameWorld}

theorem void_of_ok {ε σ α : Type} {m : Fallible ε σ α} {a : α} {t u : σ} (h : m t = (.ok a, u)) :
    void m t = (.ok (), u) :=
  bind_of_ok h

theorem onGame_void {α : Type} {operation : GameM α} {a : α}
    (h : operation s.world = (.ok a, w)) :
    Shared.onGame (void operation) s = (.ok (), { s with world := w }) :=
  onGame_of_ok (void_of_ok h)

/-- What a section that goes through leaves. -/
structure WentThrough (login current : NativeLogin) (s t : SharedNativeWorld) : Prop where
  players : t.world.players = s.world.players
  online : t.onlinePlayers = s.onlinePlayers
  hydrated : ∃ next : NativeLogin, next.player.id = login.player.id ∧ Hydrated next t.world
  idle : current = login → t = s

/-- One entry of the player is replaced. -/
theorem entry_section {α : Type} [DecidableEq α] {table : GameWorld → BTreeMap ℕ α}
    {put : GameWorld → ℕ → α → GameWorld} {old value : α} (next : NativeLogin)
    (hregistered : s.world.IsRegistered login.player.id) (h : Hydrated current s.world)
    (hid : current.player.id = login.player.id)
    (hentry : (table s.world)[login.player.id]? = some old)
    (hplayers : (put s.world login.player.id value).players = s.world.players)
    (hnext : next.player.id = login.player.id)
    (hput : Hydrated next (markChanged (put s.world login.player.id value)).2)
    (hsame : current = login → old = value) :
    ∃ t, Shared.onGame (void (replaceEntry table put login.player.id value)) s = (.ok (), t) ∧
      WentThrough login current s t := by
  have hrun := @replaceEntry_run _ _ table put _ value _ _ hregistered hentry
  by_cases heq : old = value
  · rw [if_pos heq] at hrun
    exact ⟨s, onGame_void hrun, ⟨rfl, rfl, ⟨current, hid, h⟩, fun _ => rfl⟩⟩
  · rw [if_neg heq] at hrun
    exact ⟨_, onGame_void hrun, ⟨hplayers, rfl, ⟨next, hnext, hput⟩,
      fun hcurrent => absurd (hsame hcurrent) heq⟩⟩

theorem onGame_inventory {event : InventoryEvent} {l : WorldState}
    (h : event.perform s.world.toWorldState = (.ok (), l)) :
    Shared.onGame (GameEvent.perform id (.inventory event)) s =
      (.ok (), { s with world := s.world.putInventory l }) :=
  onGame_of_ok (inventory_eq_ok.mpr ⟨l, h, rfl⟩)

theorem equipment_section (hregistered : s.world.IsRegistered login.player.id)
    (h : Hydrated current s.world) (hid : current.player.id = login.player.id) :
    ∃ t, LoginStep.perform login .equipment s = (.ok (), t) ∧ WentThrough login current s t := by
  obtain ⟨player, hplayer⟩ := hregistered
  have hentry := h.equipment
  rw [hid] at hentry
  have hrun := World.replacePlayerEquipment_run hplayer hentry login.equipment
  by_cases heq : current.equipment = login.equipment
  · rw [if_pos heq] at hrun
    exact ⟨s, onGame_inventory (void_of_ok hrun), ⟨rfl, rfl, ⟨current, hid, h⟩, fun _ => rfl⟩⟩
  · rw [if_neg heq] at hrun
    refine ⟨_, onGame_inventory (void_of_ok hrun), ⟨rfl, rfl,
      ⟨{ current with equipment := login.equipment }, hid, { h with equipment := ?_ }⟩,
      fun hsame => absurd (congrArg NativeLogin.equipment hsame) heq⟩⟩
    show _[current.player.id]? = _
    rw [hid]
    exact Std.ExtTreeMap.getElem?_insert_self

theorem containers_section (hregistered : s.world.IsRegistered login.player.id)
    (h : Hydrated current s.world) (hid : current.player.id = login.player.id) :
    ∃ t, LoginStep.perform login .containers s = (.ok (), t) ∧ WentThrough login current s t := by
  obtain ⟨player, hplayer⟩ := hregistered
  have hentry := h.containers
  rw [hid] at hentry
  have hrun := World.replacePlayerContainers_run hplayer hentry login.containers
  by_cases heq : current.containers = login.containers
  · rw [if_pos heq] at hrun
    exact ⟨s, onGame_inventory (void_of_ok hrun), ⟨rfl, rfl, ⟨current, hid, h⟩, fun _ => rfl⟩⟩
  · rw [if_neg heq] at hrun
    refine ⟨_, onGame_inventory (void_of_ok hrun), ⟨rfl, rfl,
      ⟨{ current with containers := login.containers }, hid, { h with containers := ?_ }⟩,
      fun hsame => absurd (congrArg NativeLogin.containers hsame) heq⟩⟩
    show _[current.player.id]? = _
    rw [hid]
    exact Std.ExtTreeMap.getElem?_insert_self

/-- The respawn state is entered when it is acceptable, and refused otherwise. -/
theorem respawnState_section (hregistered : s.world.IsRegistered login.player.id)
    (h : Hydrated current s.world) (hid : current.player.id = login.player.id) :
    AcceptableRespawn login.respawnState ∧
        (∃ t, LoginStep.perform login .respawnState s = (.ok (), t) ∧
          WentThrough login current s t) ∨
      ¬AcceptableRespawn login.respawnState ∧
        ∃ e, LoginStep.perform login .respawnState s = (.error e, s) := by
  obtain ⟨player, hplayer⟩ := hregistered
  have hentry := h.respawnState
  rw [hid] at hentry
  have hrequire : Living.requirePlayer login.player.id s.world.toLivingWorld =
      (.ok player, s.world.toLivingWorld) := readOr_of_some _ hplayer
  have hread : Living.playerRespawnState login.player.id s.world.toLivingWorld =
      (.ok current.respawnState, s.world.toLivingWorld) := readOr_of_some _ hentry
  by_cases hstate : AcceptableRespawn login.respawnState
  · refine .inl ⟨hstate, ?_⟩
    have hrun : Living.hydratePlayerRespawnState login.player.id login.respawnState
        s.world.toLivingWorld = if current.respawnState = login.respawnState then
          (.ok false, s.world.toLivingWorld) else
        (.ok true, (s.world.toLivingWorld.putRespawnState login.player.id
          login.respawnState).changed) := by
      unfold Living.hydratePlayerRespawnState
      unfold AcceptableRespawn at hstate
      rw [bind_of_ok hrequire, if_neg (not_not_intro hstate), bind_of_ok hread]
      split
      · rfl
      · rfl
    by_cases heq : current.respawnState = login.respawnState
    · rw [if_pos heq] at hrun
      exact ⟨s, onGame_void (living_eq_ok.mpr ⟨_, hrun, rfl⟩),
        ⟨rfl, rfl, ⟨current, hid, h⟩, fun _ => rfl⟩⟩
    · rw [if_neg heq] at hrun
      refine ⟨_, onGame_void (living_eq_ok.mpr ⟨_, hrun, rfl⟩), ⟨rfl, rfl,
        ⟨{ current with respawnState := login.respawnState }, hid, { h with respawnState := ?_ }⟩,
        fun hsame => absurd (congrArg NativeLogin.respawnState hsame) heq⟩⟩
      show _[current.player.id]? = _
      rw [hid]
      exact Std.ExtTreeMap.getElem?_insert_self
  · refine .inr ⟨hstate, .core (.invalidPlayerRespawnState login.player.id), ?_⟩
    have hrun : Living.hydratePlayerRespawnState login.player.id login.respawnState
        s.world.toLivingWorld =
          (.error (.invalidPlayerRespawnState login.player.id), s.world.toLivingWorld) := by
      unfold Living.hydratePlayerRespawnState
      unfold AcceptableRespawn at hstate
      rw [bind_of_ok hrequire, if_pos hstate]
      rfl
    have hgame : living (Living.hydratePlayerRespawnState login.player.id login.respawnState)
        s.world = (.error (.invalidPlayerRespawnState login.player.id), s.world) := by
      unfold living zoom
      rw [hrun]
      rfl
    exact onGame_of_error (bind_of_error hgame)

/-- **A later section** goes through; only the last one asks for something. -/
theorem section_cases {due : LoginStep} (hdue : due.hydrates = true)
    (hregistered : s.world.IsRegistered login.player.id) (h : Hydrated current s.world)
    (hid : current.player.id = login.player.id) :
    (due = .respawnState → AcceptableRespawn login.respawnState) ∧
        (∃ t, due.perform login s = (.ok (), t) ∧ WentThrough login current s t) ∨
      (due = .respawnState ∧ ¬AcceptableRespawn login.respawnState) ∧
        ∃ e, due.perform login s = (.error e, s) := by
  cases due with
  | equipment => exact .inl ⟨fun h => (by cases h), equipment_section hregistered h hid⟩
  | containers => exact .inl ⟨fun h => (by cases h), containers_section hregistered h hid⟩
  | progressionAttempts =>
    have hentry := h.attempts
    rw [hid] at hentry
    refine .inl ⟨fun h => (by cases h), entry_section
      { current with progressionAttempts := login.progressionAttempts } hregistered h hid hentry rfl
      hid { h with attempts := ?_ } fun hsame => congrArg NativeLogin.progressionAttempts hsame⟩
    show _[current.player.id]? = _
    rw [hid]
    exact Std.ExtTreeMap.getElem?_insert_self
  | town =>
    have hentry := h.town
    rw [hid] at hentry
    refine .inl ⟨fun h => (by cases h), entry_section
      { current with townId := login.townId } hregistered h hid hentry rfl hid
      { h with town := ?_ } fun hsame => congrArg NativeLogin.townId hsame⟩
    show _[current.player.id]? = _
    rw [hid]
    exact Std.ExtTreeMap.getElem?_insert_self
  | conditions =>
    have hentry := h.conditions
    rw [hid] at hentry
    refine .inl ⟨fun h => (by cases h), entry_section
      { current with conditions := login.conditions } hregistered h hid hentry rfl hid
      { h with conditions := ?_ } fun hsame => congrArg NativeLogin.conditions hsame⟩
    show _[current.player.id]? = _
    rw [hid]
    exact Std.ExtTreeMap.getElem?_insert_self
  | respawnState =>
    rcases respawnState_section hregistered h hid with ⟨hstate, hrun⟩ | ⟨hstate, hrun⟩
    · exact .inl ⟨fun _ => hstate, hrun⟩
    · exact .inr ⟨⟨rfl, hstate⟩, hrun⟩
  | _ => cases hdue

theorem sections_cons (due : LoginStep) (sections : List LoginStep) :
    (due :: sections).forM (LoginStep.perform login) =
      (due.perform login >>= fun _ => sections.forM (LoginStep.perform login)) := rfl

/-- **The later sections in a row**: they go through, or the respawn state is refused. -/
theorem sections_cases {sections : List LoginStep} (hall : ∀ due ∈ sections, due.hydrates = true)
    (hregistered : s.world.IsRegistered login.player.id) (h : Hydrated current s.world)
    (hid : current.player.id = login.player.id) :
    ∃ t, t.world.players = s.world.players ∧ t.onlinePlayers = s.onlinePlayers ∧
      ((.respawnState ∈ sections → AcceptableRespawn login.respawnState) ∧
          sections.forM (LoginStep.perform login) s = (.ok (), t) ∨
        (.respawnState ∈ sections ∧ ¬AcceptableRespawn login.respawnState) ∧
          ∃ e, sections.forM (LoginStep.perform login) s = (.error e, t)) := by
  induction sections generalizing s current with
  | nil => exact ⟨s, rfl, rfl, .inl ⟨fun h => absurd h List.not_mem_nil, rfl⟩⟩
  | cons due sections ih =>
    rw [sections_cons]
    rcases section_cases (hall due List.mem_cons_self) hregistered h hid with
      ⟨hstate, t, hrun, hthrough⟩ | ⟨⟨rfl, hstate⟩, e, hrun⟩
    · rw [bind_of_ok hrun]
      obtain ⟨next, hnext, hnextHydrated⟩ := hthrough.hydrated
      have hthere : t.world.IsRegistered login.player.id := by
        unfold GameWorld.IsRegistered
        rw [hthrough.players]
        exact hregistered
      obtain ⟨u, hplayers, honline, hend⟩ :=
        ih (fun due hdue => hall due (List.mem_cons_of_mem _ hdue)) hthere hnextHydrated hnext
      refine ⟨u, hplayers.trans hthrough.players, honline.trans hthrough.online, ?_⟩
      rcases hend with ⟨hrest, hok⟩ | ⟨⟨hmem, hrefused⟩, herror⟩
      · refine .inl ⟨fun hmem => ?_, hok⟩
        rcases List.mem_cons.mp hmem with rfl | hmem
        · exact hstate rfl
        · exact hrest hmem
      · exact .inr ⟨⟨List.mem_cons_of_mem _ hmem, hrefused⟩, herror⟩
    · rw [bind_of_error hrun]
      exact ⟨s, rfl, rfl, .inr ⟨⟨List.mem_cons_self, hstate⟩, e, rfl⟩⟩

/-- Sections with nothing to enter show the others what was there before. -/
theorem releases_idle {sections : List LoginStep} (hall : ∀ due ∈ sections, due.hydrates = true)
    (hregistered : s.world.IsRegistered login.player.id) (h : Hydrated login s.world) :
    ∀ t ∈ Shared.releases login sections s, t = s := by
  induction sections with
  | nil => exact fun t ht => absurd ht List.not_mem_nil
  | cons due sections ih =>
    have ih := ih fun due hdue => hall due (List.mem_cons_of_mem _ hdue)
    unfold Shared.releases
    rcases section_cases (hall due List.mem_cons_self) hregistered h rfl with
      ⟨-, t, hrun, hthrough⟩ | ⟨-, e, hrun⟩
    · rw [hrun, hthrough.idle rfl]
      intro u hu
      rcases List.mem_cons.mp hu with rfl | hu
      · rfl
      · exact ih u hu
    · rw [hrun]
      exact fun u hu => List.mem_singleton.mp hu

end Sections

/-! ### The whole registration -/

section Registration

variable {login : NativeLogin} {s : SharedNativeWorld}

theorem registerPlayerWithHydration_eq :
    Shared.registerPlayerWithHydration login = LoginStep.perform login .register >>= fun _ =>
      registrationSections.tail.forM (LoginStep.perform login) :=
  sections_cons .register _

theorem hydrates_tail : ∀ due ∈ registrationSections.tail, due.hydrates = true := by decide

/-- **How a registration ends**: it is refused and nothing has changed, or the player is in the
world, whether the other parts have been entered or not. -/
theorem registration_cases (login : NativeLogin) (s : SharedNativeWorld) :
    (RegistrationRefused login s.world ∧
        ∃ e, Shared.registerPlayerWithHydration login s = (.error e, s)) ∨
      ¬RegistrationRefused login s.world ∧ ∃ t, t.world.IsRegistered login.player.id ∧
        t.onlinePlayers = s.onlinePlayers + 1 ∧
          (AcceptableRespawn login.respawnState ∧
              Shared.registerPlayerWithHydration login s = (.ok (), t) ∨
            ¬AcceptableRespawn login.respawnState ∧
              ∃ e, Shared.registerPlayerWithHydration login s = (.error e, t)) := by
  rw [registerPlayerWithHydration_eq]
  by_cases hrefused : RegistrationRefused login s.world
  · obtain ⟨e, hrun⟩ := register_refused hrefused
    exact .inl ⟨hrefused, e, bind_of_error hrun⟩
  · obtain ⟨w, hrun, hregistered, hhydrated⟩ := register_enters hrefused
    rw [bind_of_ok hrun]
    obtain ⟨t, hplayers, honline, hend⟩ := @sections_cases login _
      { s with world := w, onlinePlayers := s.onlinePlayers + 1 } _ hydrates_tail hregistered
      hhydrated rfl
    refine .inr ⟨hrefused, t, ?_, honline, ?_⟩
    · unfold GameWorld.IsRegistered
      rw [hplayers]
      exact hregistered
    · rcases hend with ⟨hstate, hok⟩ | ⟨⟨-, hstate⟩, herror⟩
      · exact .inl ⟨hstate (by decide), hok⟩
      · exact .inr ⟨hstate, herror⟩

/-- **An error behind the first section leaves the player in the world.** -/
theorem registration_leavesBehind (hentered : ¬RegistrationRefused login s.world)
    (hstate : ¬AcceptableRespawn login.respawnState) :
    ∃ e t, Shared.registerPlayerWithHydration login s = (.error e, t) ∧ ¬RolledBack login s t := by
  rcases registration_cases login s with ⟨hrefused, -⟩ | ⟨-, t, hregistered, -, hend⟩
  · exact absurd hrefused hentered
  · rcases hend with ⟨hacceptable, -⟩ | ⟨-, e, herror⟩
    · exact absurd hacceptable hstate
    · refine ⟨e, t, herror, fun hrolled => hentered ?_⟩
      exact .inr (.inr (.inr (hrolled.gone hregistered)))

/-- Who has been registered and is whole has nothing beside what the first section enters. -/
theorem eq_plain_of_hydrated {w : GameWorld} (h : Hydrated login w)
    (hplain : Hydrated login.plain w) : login = login.plain := by
  have hequipment := Option.some.inj (h.equipment.symm.trans hplain.equipment)
  have hcontainers := Option.some.inj (h.containers.symm.trans hplain.containers)
  have hattempts := Option.some.inj (h.attempts.symm.trans hplain.attempts)
  have htown := Option.some.inj (h.town.symm.trans hplain.town)
  have hconditions := Option.some.inj (h.conditions.symm.trans hplain.conditions)
  have hrespawn := Option.some.inj (h.respawnState.symm.trans hplain.respawnState)
  cases login
  simp only [NativeLogin.plain] at *
  subst hequipment hcontainers hattempts htown hconditions hrespawn
  rfl

/-- What the first section has entered is seen without the rest. -/
theorem not_allOrNothing (hentered : ¬RegistrationRefused login s.world)
    (hstored : login ≠ login.plain) : ¬AllOrNothing login s := by
  intro h
  obtain ⟨w, hrun, hregistered, hhydrated⟩ := register_enters hentered
  have hreleased : { s with world := w, onlinePlayers := s.onlinePlayers + 1 } ∈
      Shared.releases login registrationSections s := by
    unfold registrationSections Shared.releases
    rw [hrun]
    exact List.mem_cons_self
  rcases h.unseen _ hreleased hregistered with hbefore | hwhole
  · exact hentered (.inr (.inr (.inr hbefore)))
  · exact hstored (eq_plain_of_hydrated hwhole hhydrated)

/-- **A registration is all or nothing** exactly when the first section refuses it, or the later
ones have nothing to enter. -/
theorem registration_allOrNothing_iff (login : NativeLogin) (s : SharedNativeWorld) :
    AllOrNothing login s ↔ RegistrationRefused login s.world ∨ login = login.plain := by
  constructor
  · intro h
    by_contra hneither
    obtain ⟨hentered, hstored⟩ := not_or.mp hneither
    exact not_allOrNothing hentered hstored h
  · intro h
    by_cases hrefused : RegistrationRefused login s.world
    · obtain ⟨e, hrun⟩ := register_refused hrefused
      constructor
      · intro e' t herror
        rw [registerPlayerWithHydration_eq, bind_of_error hrun] at herror
        cases herror
        exact ⟨id, fun _ _ => rfl, rfl, id⟩
      · intro t ht hregistered
        unfold registrationSections Shared.releases at ht
        rw [hrun] at ht
        obtain rfl := List.mem_singleton.mp ht
        exact .inl hregistered
    · obtain hplain := h.resolve_left hrefused
      obtain ⟨w, hrun, hregistered, hhydrated⟩ := register_enters hrefused
      rw [← hplain] at hhydrated
      constructor
      · intro e t herror
        rcases registration_cases login s with ⟨h, -⟩ | ⟨-, u, -, -, ⟨-, hok⟩ | ⟨hstate, -⟩⟩
        · exact absurd h hrefused
        · rw [hok] at herror
          cases herror
        · refine absurd ?_ hstate
          rw [hplain]
          simp [AcceptableRespawn, NativeLogin.plain]
      · intro t ht _
        unfold registrationSections Shared.releases at ht
        rw [hrun] at ht
        rcases List.mem_cons.mp ht with rfl | ht
        · exact .inr hhydrated
        · have hsame := releases_idle
            (s := { s with world := w, onlinePlayers := s.onlinePlayers + 1 }) hydrates_tail
            hregistered hhydrated t ht
          rw [hsame]
          exact .inr hhydrated

/-- **The knight has a home town**, and is in the world without it for a moment. -/
theorem knight_withoutTown :
    ¬∀ (login : NativeLogin) (s : SharedNativeWorld), AllOrNothing login s := by
  intro h
  refine @not_allOrNothing knightLogin ⟨.empty, ∅, ∅, 0, ∅, ∅⟩ ?_ ?_ (h _ _)
  · rintro (hplace | hname | hvitals | ⟨player, hregistered⟩)
    · revert hplace
      decide +kernel
    · revert hname
      decide +kernel
    · revert hvitals
      decide +kernel
    · have hnone : (GameWorld.empty).players[(7 : ℕ)]? = none := rfl
      have hsome : (GameWorld.empty).players[(7 : ℕ)]? = some player := hregistered
      rw [hnone] at hsome
      cases hsome
  · intro hplain
    exact absurd (congrArg NativeLogin.townId hplain) (by decide)

end Registration

end ForgottenEngine
