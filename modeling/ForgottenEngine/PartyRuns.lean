import ForgottenEngine.PartyInvariants
import ForgottenEngine.Registration
import ForgottenEngine.Library.Run

/-!
# Parties over whole runs

Between the party operations players come, move, fight, trade and go.  A property that is about
the parties and the registration of players (`AboutParties`) survives all of that, so only the
party operations and a removal have to be looked at:

* `leaves_party` — a party operation leaves the tables as they were, or as `PartyEvent.Does` says;
* `partiesSound` — **every reachable world has sound parties**;
* `neverLone` — no party is left to its leader alone, in runs where nobody leaves a single member
  behind and no party is restored without members;
* `neverInvitedToOwn` — nobody is invited to his own party, in runs where nobody is attached to a party
  whose invitation he holds.
-/

namespace ForgottenEngine

open Fallible

/-! ### What an accepted party operation does -/

/-- The tables after an accepted party operation. -/
inductive PartyEvent.Does (w : GameWorld) : PartyEvent → PartyTables → Prop
  | invite {l p t'} : w.IsRegistered l → w.IsRegistered p → w.party.invite l p = .ok t' →
      Does w (.invite l p) t'
  | accept {p l t'} : w.IsRegistered p → w.party.accept p l = .ok t' → Does w (.accept p l) t'
  | leave {p t'} : w.party.leave p = some t' → Does w (.leave p) t'
  | transfer {l n t'} : w.party.transferLeadership l n = .ok t' → Does w (.transfer l n) t'
  | revoke {l p t'} : w.party.revoke l p = .ok t' → Does w (.revoke l p) t'
  | restore {l members unique} : (∀ m, m ∈ unique ↔ m ∈ members) → l ∉ members →
      w.IsRegistered l → ¬w.party.isAffiliated l →
      (∀ m ∈ unique, w.IsRegistered m ∧ ¬w.party.isAffiliated m) →
      Does w (.restore l members) (w.party.attach l unique)
  | addExistingMember {l p} : p ≠ l → w.IsRegistered p → l ∈ w.party.leaders →
      ¬w.party.isAffiliated p → Does w (.addExistingMember l p) (w.party.attach l [p])
  | requestSharing {l requested rules requests} :
      (∀ k, k ∈ requests → k ∈ w.party.sharedExperienceRequested ∨ k ∈ w.party.leaders) →
      Does w (.requestSharing l requested rules)
        { w.party with sharedExperienceRequested := requests }
  | recordActivity {p} : w.IsRegistered p → Does w (.recordActivity p) { w.party with
      sharedExperienceActivityTicks := w.party.sharedExperienceActivityTicks.insert p w.tick }

theorem readOnly_ensured (p : ℕ) : ReadOnly (Game.ensurePartyPlayerExists p) :=
  .bind (.readOr _ _) fun _ => .pure _

theorem registered_of_ensured {p : ℕ} {u : Unit} {w : GameWorld}
    (h : Game.ensurePartyPlayerExists p w = (.ok u, w)) : w.IsRegistered p := by
  simp only [Game.ensurePartyPlayerExists, Game.requirePlayer, bind_eq_ok, readOr_eq_ok] at h
  obtain ⟨player, _, ⟨hplayer, -⟩, -⟩ := h
  exact ⟨player, hplayer⟩

section Party

variable {P : GameWorld → Prop} {w : GameWorld}
  (hchanged : ∀ w : GameWorld, P w → P (w.putLiving w.toLivingWorld.changed)) (hw : P w)
include hchanged hw

theorem leaves_onParty (operation : PartyTables → Except CoreError PartyTables)
    (hput : ∀ t', operation w.party = .ok t' → P (w.putParty t')) :
    Leaves P (do Game.onParty operation; Game.markChanged) w := by
  have hrun : Leaves P (Game.onParty operation) w := by
    simp only [Game.onParty, leaves_read_bind, leaves_ofExcept_bind, leaves_write]
    exact ⟨fun _ _ => hw, hput⟩
  refine .bind (fun e t h => ?_) fun _ t h => ?_
  · rwa [Leaves, h] at hrun
  · rw [Leaves, h] at hrun
    exact hchanged t hrun

theorem leaves_betweenPlayers {p q : ℕ} (operation : PartyTables → Except CoreError PartyTables)
    (hput : ∀ t', w.IsRegistered p → w.IsRegistered q → operation w.party = .ok t' →
      P (w.putParty t')) : Leaves P (Game.betweenPlayers p q operation) w := by
  refine Robust.leaves_readOnly_bind (readOnly_ensured p) hw fun _ hp => ?_
  refine Robust.leaves_readOnly_bind (readOnly_ensured q) hw fun _ hq => ?_
  exact leaves_onParty hchanged hw operation fun t' =>
    hput t' (registered_of_ensured hp) (registered_of_ensured hq)

omit hchanged hw in
theorem readOnly_partySharedExperienceState (l : ℕ) (rules : Game.PartySharedExperienceRules) :
    ReadOnly (Game.partySharedExperienceState l rules) := by
  refine .bind (.bind (.readOr _ _) fun _ => .pure _) fun _ => .bind (.read _) fun w => ?_
  exact .ite (.fail _) (.ite (.pure _) (.ite (.pure _) (.pure _)))

omit hchanged hw in
theorem readOnly_admitRestoredMember (u : Unit) (m : ℕ) : ReadOnly (Game.admitRestoredMember u m) := by
  refine .bind (.bind (.readOr _ _) fun _ => .pure _) fun _ => .bind (.read _) fun _ => ?_
  exact .ite (.fail _) (.pure _)

omit hchanged hw in
/-- The members of a snapshot are looked up one after the other; nothing is written. -/
theorem readOnly_admitted (members : List ℕ) :
    ReadOnly (members.foldlM Game.admitRestoredMember ()) := by
  induction members with
  | nil => exact .pure ()
  | cons m members ih =>
    rw [List.foldlM_cons]
    exact .bind (readOnly_admitRestoredMember () m) fun _ => ih

omit hchanged hw in
theorem admitted_eq_ok {members : List ℕ} {u : Unit}
    (h : members.foldlM Game.admitRestoredMember () w = (.ok u, w)) :
    ∀ m ∈ members, w.IsRegistered m ∧ ¬w.party.isAffiliated m := by
  induction members with
  | nil => simp
  | cons m members ih =>
    rw [List.foldlM_cons, bind_eq_ok] at h
    obtain ⟨_, t, hfirst, hrest⟩ := h
    have ht := (readOnly_admitRestoredMember () m).state_eq hfirst
    subst ht
    simp only [Game.admitRestoredMember, Game.ensurePartyPlayerExists, Game.requirePlayer,
      bind_eq_ok, readOr_eq_ok, read_apply, guard_eq_ok, pure_apply, Prod.mk.injEq] at hfirst
    obtain ⟨_, _, ⟨player, _, ⟨hplayer, rfl⟩, -, rfl⟩, party, _, ⟨hparty, rfl⟩, hfree, -⟩ := hfirst
    cases hparty
    intro q hq
    rcases List.mem_cons.mp hq with rfl | hq
    · exact ⟨⟨player, hplayer⟩, hfree⟩
    · exact ih hrest q hq

/-- **A party operation leaves the tables as they were, or does what it says.** -/
theorem leaves_party (event : PartyEvent) (hdoes : ∀ t', event.Does w t' → P (w.putParty t')) :
    Leaves P event.perform w := by
  cases event with
  | invite l p =>
    exact leaves_betweenPlayers hchanged hw _ fun t' hl hp hok => hdoes t' (.invite hl hp hok)
  | accept p l =>
    exact leaves_betweenPlayers hchanged hw _ fun t' hp _ hok => hdoes t' (.accept hp hok)
  | leave p =>
    refine Robust.leaves_readOnly_bind (readOnly_ensured _) hw fun _ _ => ?_
    refine leaves_onParty hchanged hw _ fun t' hok => hdoes t' (.leave ?_)
    unfold PartyTables.leaveParty at hok
    cases hleave : w.party.leave p with
    | none =>
      rw [hleave] at hok
      cases hok
    | some after =>
      rw [hleave] at hok
      exact congrArg some (Except.ok.inj hok)
  | transfer l n =>
    exact leaves_betweenPlayers hchanged hw _ fun t' _ _ hok => hdoes t' (.transfer hok)
  | revoke l p =>
    exact leaves_betweenPlayers hchanged hw _ fun t' _ _ hok => hdoes t' (.revoke hok)
  | restore l members =>
    show Leaves P (Game.restorePartySnapshot l members) w
    unfold Game.restorePartySnapshot
    simp only [leaves_ite, leaves_fail]
    refine ⟨fun _ => hw, fun _ => ⟨fun _ => hw, fun hself => ?_⟩⟩
    refine Robust.leaves_readOnly_bind (readOnly_ensured _) hw fun _ hl => ?_
    simp only [leaves_read_bind, leaves_ite, leaves_fail]
    refine ⟨fun _ => hw, fun hfree => ?_⟩
    refine Robust.leaves_readOnly_bind (readOnly_admitted _) hw fun _ hall => ?_
    refine hdoes _ (.restore (fun m => List.mem_insertionSort _) hself (registered_of_ensured hl) ?_
      (admitted_eq_ok hall))
    simpa using hfree
  | addExistingMember l p =>
    show Leaves P (Game.addExistingPartyMember l p) w
    unfold Game.addExistingPartyMember
    simp only [leaves_ite, leaves_fail]
    refine ⟨fun _ => hw, fun hne => ?_⟩
    refine Robust.leaves_readOnly_bind (readOnly_ensured _) hw fun _ _ => ?_
    refine Robust.leaves_readOnly_bind (readOnly_ensured _) hw fun _ hp => ?_
    simp only [leaves_read_bind, leaves_ite, leaves_fail, leaves_write]
    refine ⟨fun _ => hw, fun hleader => ⟨fun _ => hw, fun hfree => ?_⟩⟩
    refine hdoes _ (.addExistingMember hne (registered_of_ensured hp) (not_not.mp hleader) ?_)
    simpa using hfree
  | requestSharing l requested rules =>
    refine leaves_void.mpr ?_
    show Leaves P (Game.setPartySharedExperienceRequested l requested rules) w
    unfold Game.setPartySharedExperienceRequested
    refine Robust.leaves_readOnly_bind (readOnly_ensured _) hw fun _ _ => ?_
    simp only [leaves_read_bind, leaves_ite, leaves_fail, leaves_write_bind]
    refine ⟨fun _ => hw, fun hleader => ?_⟩
    have hput := hdoes { w.party with
      sharedExperienceRequested := if requested then w.party.sharedExperienceRequested.insert l
        else w.party.sharedExperienceRequested.erase l } (.requestSharing fun k hk => ?_)
    · have hstate : Stays P (Game.partySharedExperienceState l rules) :=
        (readOnly_partySharedExperienceState l rules).stays
      have hmarked : Stays P Game.markChanged := fun w hw => hchanged w hw
      exact ⟨fun _ => Stays.bind hmarked (fun _ => hstate) _ hput, fun _ => hstate _ hput⟩
    · split at hk
      · rcases OrderedMap.set_mem_insert.mp hk with rfl | hk
        · exact .inr (not_not.mp hleader)
        · exact .inl hk
      · exact .inl (OrderedMap.set_mem_erase.mp hk).2
  | recordActivity p =>
    show Leaves P (Game.recordPartySharedExperienceActivity p) w
    unfold Game.recordPartySharedExperienceActivity
    refine Robust.leaves_readOnly_bind (readOnly_ensured _) hw fun _ hp => ?_
    simp only [leaves_read_bind, leaves_ite, leaves_fail, leaves_write_bind, leaves_pure, id]
    refine ⟨fun _ => hw, fun _ => ?_⟩
    have hput := hdoes _ (.recordActivity (registered_of_ensured hp))
    exact ⟨fun _ => hchanged _ hput, fun _ => hput⟩

end Party

/-! ### Everything else -/

/-- `P` is about the parties, and about who is registered. -/
def AboutParties (P : GameWorld → Prop) : Prop :=
  ∀ w w' : GameWorld, w'.party = w.party → (∀ p, w.IsRegistered p → w'.IsRegistered p) →
    P w → P w'

namespace AboutParties

variable {P : GameWorld → Prop} (h : AboutParties P)
include h

/-- A write beside the parties and the players. -/
theorem beside {w w' : GameWorld} (hw : P w) (hparty : w'.party = w.party)
    (hplayers : w'.players = w.players) : P w' := by
  refine h w w' hparty (fun p hp => ?_) hw
  unfold GameWorld.IsRegistered
  rw [hplayers]
  exact hp

theorem putPlayer {w : GameWorld} (p : ℕ) (player : Player) (hw : P w) : P (w.putPlayer p player) := by
  refine h w _ rfl (fun q hq => ?_) hw
  simp only [GameWorld.IsRegistered, GameWorld.putPlayer, Std.ExtTreeMap.getElem?_insert]
  split
  · exact ⟨player, rfl⟩
  · exact hq

theorem robust : Robust P where
  changed := fun _ hw => h.beside hw rfl rfl
  tick := fun _ _ hw => h.beside hw rfl rfl
  inventory := fun _ _ hframe hw => h.beside hw rfl hframe.players
  player := fun _ p _ new _ _ _ hw => h.putPlayer p new hw
  vitals := fun _ _ _ _ _ _ hw => h.beside hw rfl rfl
  conditions := fun _ _ _ _ _ _ hw => h.beside hw rfl rfl
  lifecycle := fun _ _ _ _ _ _ hw => h.beside hw rfl rfl
  died := fun _ _ _ _ _ _ _ _ hw => h.beside hw rfl rfl
  respawned := fun w p player vitals _ _ _ _ _ hw =>
    h.beside (h.putPlayer p player (show P (w.putVitals p vitals) from h.beside hw rfl rfl)) rfl rfl
  intent := fun _ _ _ _ _ hw => h.beside hw rfl rfl
  books := fun _ _ hbooks hw =>
    h.beside hw hbooks.party (congrArg (fun l : LivingWorld => l.players) hbooks.living)

theorem robustEdits : RobustEdits P where
  narrowed := fun _ _ _ hw => h.beside hw rfl rfl
  edited := fun _ _ _ _ _ _ hw => h.beside hw rfl rfl
  moved := fun _ _ _ _ _ _ _ _ hw => h.beside hw rfl rfl
  deactivated := fun _ _ _ _ hw => h.beside hw rfl rfl

theorem robustRegistry : RobustRegistry P :=
  ⟨fun _ _ _ _ _ _ hw => h.beside hw rfl rfl⟩

theorem stays_overwrite (event : OverwriteEvent) : Stays P event.perform := by
  refine fun w hw => leaves_overwrite event h.robust.changed hw fun w' hwrites => ?_
  cases hwrites with
  | experience => exact h.putPlayer _ _ hw
  | levels =>
    exact h.beside (h.putPlayer _ _ hw) rfl rfl
  | lifecycle | vitals | conditions | condition | haste | frag => exact h.beside hw rfl rfl

/-- **Only removals and party operations count.** -/
theorem step (toLowercase : String → String) {w : GameWorld} {event : GameEvent} (hw : P w)
    (hremoved : ∀ p, event = .removePlayer p → w.IsRegistered p → P (w.removed p))
    (hparty : ∀ e t', event = .party e → e.Does w t' → P (w.putParty t')) :
    P (event.step toLowercase w) := by
  have hchanged := h.robust.changed
  show Leaves P (event.perform toLowercase) w
  cases event with
  | addPlayer player vitals progression =>
    refine leaves_addPlayer hchanged hw fun _ _ => h w _ rfl (fun p hp => ?_) hw
    exact GameWorld.isRegistered_added.mpr (.inr hp)
  | removePlayer p => exact leaves_void.mpr (leaves_removePlayer hchanged hw (hremoved p rfl))
  | inventory e => exact h.robust.stays_inventory e w hw
  | player e => exact h.robust.stays_player e w hw
  | upkeep e => exact h.robust.stays_upkeep e w hw
  | overwrite e => exact h.stays_overwrite e w hw
  | creature e =>
    by_cases hedits : e.EditsOnly
    · exact h.robustEdits.stays_edits h.robust toLowercase hedits w hw
    · exact h.robustRegistry.stays_registry h.robust toLowercase hedits w hw
  | party e => exact leaves_party hchanged hw e fun t' => hparty e t' rfl

end AboutParties

/-! ### Sound parties -/

/-- The parties are sound for the players who are in the world. -/
def PartiesSound (w : GameWorld) : Prop := w.party.Sound w.IsRegistered

theorem aboutParties_sound : AboutParties PartiesSound := by
  intro w w' hparty hregistered hw
  unfold PartiesSound
  rw [hparty]
  exact PartyTables.Sound.mono hw hregistered

theorem PartiesSound.removed {w : GameWorld} (hw : PartiesSound w) (p : ℕ) :
    PartiesSound (w.removed p) := by
  have hcleared := PartyTables.Sound.clearPlayerPartyState hw p
  have habsent := PartyTables.Sound.absent_clearPlayerPartyState hw p
  refine (hcleared.forget habsent).mono fun q hq => ?_
  exact GameWorld.isRegistered_removed.mpr hq

/-- One party operation. -/
theorem PartiesSound.does {w : GameWorld} (hw : PartiesSound w) {event : PartyEvent}
    {t' : PartyTables} (h : event.Does w t') : PartiesSound (w.putParty t') := by
  show PartyTables.Sound w.IsRegistered t'
  have hw : PartyTables.Sound w.IsRegistered w.party := hw
  cases h with
  | invite hl hp hok => exact hw.invite hl hp hok
  | accept hp hok => exact hw.accept hp hok
  | leave hok => exact hw.leave hok
  | transfer hok => exact hw.transferLeadership hok
  | revoke hok => exact hw.revoke hok
  | restore hsame hself hl hfree hall =>
    rw [PartyTables.isAffiliated_iff, not_or, not_exists] at hfree
    refine hw.attach hl hfree.2 (fun hmem => hself ((hsame _).mp hmem)) fun m hm => ?_
    obtain ⟨hknown, hfree⟩ := hall m hm
    rw [PartyTables.isAffiliated_iff, not_or] at hfree
    exact ⟨hknown, hfree.1⟩
  | addExistingMember hne hp hl hfree =>
    rw [PartyTables.isAffiliated_iff, not_or] at hfree
    refine hw.attach (hw.knownLeaders _ hl) (fun k => hw.apart _ k hl) ?_ fun m hm => ?_
    · rw [List.mem_singleton]
      exact Ne.symm hne
    · rw [List.mem_singleton.mp hm]
      exact ⟨hp, hfree.1⟩
  | requestSharing hlive =>
    exact hw.requests fun k hk => (hlive k hk).elim (hw.requested k) id
  | recordActivity hp =>
    refine hw.ticks fun q tick hq => ?_
    simp only [Std.ExtTreeMap.getElem?_insert, Std.LawfulEqCmp.compare_eq_iff_eq] at hq
    split at hq
    · rename_i heq
      exact heq ▸ hp
    · exact hw.knownActive q tick hq

theorem PartiesSound.step (toLowercase : String → String) {w : GameWorld} (hw : PartiesSound w)
    (event : GameEvent) : PartiesSound (event.step toLowercase w) :=
  aboutParties_sound.step toLowercase hw (fun p _ _ => hw.removed p) fun _ _ _ h => hw.does h

theorem partiesSound_empty : PartiesSound .empty := PartyTables.Sound.empty

/-- **Parties are sound after every run**: leaders and members are different players, every
membership, invitation and request names a live leader, and everybody is registered. -/
theorem partiesSound (toLowercase : String → String) (events : List GameEvent) :
    (events.foldl (GameEvent.step toLowercase) .empty).party.Sound
      (events.foldl (GameEvent.step toLowercase) .empty).IsRegistered := by
  have hrun : Reaches (GameEvent.step toLowercase) (fun _ _ => True) .empty
      (events.foldl (GameEvent.step toLowercase) .empty) :=
    Reaches.foldl .start (meets_of_forall (fun _ _ => trivial) _ events)
  exact hrun.invariant (P := PartiesSound) (fun w event hw _ => hw.step toLowercase event)
    partiesSound_empty

/-! ### Parties that are not empty -/

/-- Nobody leaves a single member behind, and no party is restored without members. -/
def KeepsCompany (w : GameWorld) : GameEvent → Prop
  | .removePlayer p | .party (.leave p) => ¬w.party.LeavesOneBehind p
  | .party (.restore _ members) => members ≠ []
  | _ => True

/-- Sound parties, and somebody beside every leader. -/
structure Accompanied (w : GameWorld) : Prop where
  sound : PartiesSound w
  company : ∀ l, ¬w.party.Lone l

theorem aboutParties_accompanied : AboutParties Accompanied := by
  intro w w' hparty hregistered hw
  refine ⟨aboutParties_sound w w' hparty hregistered hw.sound, ?_⟩
  rw [hparty]
  exact hw.company

theorem Accompanied.does {w : GameWorld} (hw : Accompanied w) {event : PartyEvent}
    (hok : KeepsCompany w (.party event)) {t' : PartyTables} (h : event.Does w t') :
    Accompanied (w.putParty t') := by
  refine ⟨hw.sound.does h, fun l hl => hw.company l ?_⟩
  have hl : t'.Lone l := hl
  cases h with
  | invite _ _ hdone => exact PartyTables.lone_invite hdone hl
  | accept _ hdone => exact PartyTables.lone_accept hdone hl
  | leave hdone => exact PartyTables.lone_leave hok hdone hl
  | transfer hdone => exact PartyTables.lone_transferLeadership hw.sound hdone hl
  | revoke hdone => exact PartyTables.lone_revoke hdone hl
  | restore hsame _ _ _ hall =>
    refine PartyTables.lone_attach ?_ (fun m hm k hk => ?_) hl
    · obtain ⟨m, hm⟩ := List.exists_mem_of_ne_nil _ hok
      exact List.ne_nil_of_mem ((hsame m).mpr hm)
    · exact (hall m hm).2 (PartyTables.isAffiliated_iff.mpr (.inr ⟨k, hk⟩))
  | addExistingMember _ _ _ hfree =>
    refine PartyTables.lone_attach (by simp) (fun m hm k hk => ?_) hl
    rw [List.mem_singleton.mp hm] at hk
    exact hfree (PartyTables.isAffiliated_iff.mpr (.inr ⟨k, hk⟩))
  | requestSharing => exact hl
  | recordActivity => exact hl

theorem Accompanied.step (toLowercase : String → String) {w : GameWorld} (hw : Accompanied w)
    {event : GameEvent} (hok : KeepsCompany w event) : Accompanied (event.step toLowercase w) := by
  refine aboutParties_accompanied.step toLowercase hw (fun p hevent _ => ?_) fun e t' hevent h => ?_
  · subst hevent
    refine ⟨hw.sound.removed p, fun l hl => ?_⟩
    exact hw.company l (PartyTables.lone_clearPlayerPartyState hok hl)
  · subst hevent
    exact hw.does hok h

/-- **A live party is never empty**, in every run in which nobody leaves a single member behind
and no party is restored without members. -/
theorem neverLone (toLowercase : String → String) {w : GameWorld}
    (h : Reaches (GameEvent.step toLowercase) KeepsCompany .empty w) : ∀ l ∈ w.party.leaders,
      (∃ p, p ≠ l ∧ w.party.MemberOf p l) ∨ ∃ p, w.party.Invited p l := by
  have hw := h.invariant (P := Accompanied) (fun _ _ hw hok => hw.step toLowercase hok)
    ⟨partiesSound_empty, fun l hl => absurd hl.1 (by simp [GameWorld.empty, PartyTables.empty])⟩
  intro l hl
  by_contra hnobody
  rw [not_or, not_exists, not_exists] at hnobody
  refine hw.company l ⟨hl, fun p => ⟨fun hp => ?_, hnobody.2 p⟩⟩
  refine hnobody.1 p ⟨?_, hp⟩
  rintro rfl
  exact hw.sound.apart p p hl hp

/-- A knight who enters the world. -/
def knightEnters (id x : ℕ) : GameEvent :=
  .addPlayer ⟨id, 1, "Knight", ⟨x, 100, 7⟩, 1, 0, 0⟩ {} {}

/-- A leader goes while somebody is still invited. -/
def leaderLeavesInvited : List GameEvent :=
  [knightEnters 7 100, knightEnters 8 101, knightEnters 9 102, .party (.invite 7 8),
    .party (.accept 8 7), .party (.invite 7 9), .party (.leave 7)]

theorem neverLone_leaderLeavesInvited :
    (∃ p, p ≠ 8 ∧ (leaderLeavesInvited.foldl (GameEvent.step id) .empty).party.MemberOf p 8) ∨
      ∃ p, (leaderLeavesInvited.foldl (GameEvent.step id) .empty).party.Invited p 8 :=
  neverLone id (w := leaderLeavesInvited.foldl (GameEvent.step id) .empty)
    (Reaches.foldl .start ⟨trivial, trivial, trivial, trivial, trivial, trivial,
      show ¬_ by decide +kernel, trivial⟩) 8 (by decide +kernel)

/-- **A party of one.**  The leader of a party of two leaves, and the other leads nobody. -/
theorem leaderLeaves_lone : ¬∀ events : List GameEvent,
    ∀ l ∈ (events.foldl (GameEvent.step id) .empty).party.leaders,
      (∃ p, p ≠ l ∧ (events.foldl (GameEvent.step id) .empty).party.MemberOf p l) ∨
        ∃ p, (events.foldl (GameEvent.step id) .empty).party.Invited p l := by
  intro h
  let run : List GameEvent := [knightEnters 7 100, knightEnters 8 101, .party (.invite 7 8),
    .party (.accept 8 7), .party (.leave 7)]
  have hmembers : (run.foldl (GameEvent.step id) .empty).party.memberIds 8 = [] := by
    decide +kernel
  have hinvited : ¬(run.foldl (GameEvent.step id) .empty).party.hasInvitations 8 := by
    decide +kernel
  have hdeserted := PartyTables.deserted_iff.mp ⟨hmembers, hinvited⟩
  rcases h run 8 (by decide +kernel) with ⟨p, -, hp⟩ | ⟨p, hp⟩
  · exact (hdeserted p).1 hp
  · exact (hdeserted p).2 hp

/-! ### Invitations of one's own party -/

instance (t : PartyTables) (p l : ℕ) : Decidable (t.Invited p l) :=
  decidable_of_iff _ (PartyTables.mem_inviting p l)

/-- Nobody is attached to a party whose invitation he holds. -/
def AttachesUninvited (w : GameWorld) : GameEvent → Prop
  | .party (.addExistingMember l p) => ¬w.party.Invited p l
  | _ => True

/-- Sound parties, and nobody is invited to his own. -/
structure Uninvited (w : GameWorld) : Prop where
  sound : PartiesSound w
  settled : w.party.Settled

theorem aboutParties_uninvited : AboutParties Uninvited := by
  intro w w' hparty hregistered hw
  refine ⟨aboutParties_sound w w' hparty hregistered hw.sound, ?_⟩
  rw [hparty]
  exact hw.settled

theorem Uninvited.does {w : GameWorld} (hw : Uninvited w) {event : PartyEvent}
    (hok : AttachesUninvited w (.party event)) {t' : PartyTables} (h : event.Does w t') :
    Uninvited (w.putParty t') := by
  refine ⟨hw.sound.does h, ?_⟩
  show t'.Settled
  cases h with
  | invite _ _ hdone => exact hw.settled.invite hdone
  | accept _ hdone => exact hw.settled.accept hdone
  | leave hdone => exact hw.settled.leave hw.sound hdone
  | transfer hdone => exact hw.settled.transferLeadership hw.sound hdone
  | revoke hdone => exact hw.settled.revoke hdone
  | restore _ _ _ hfree _ =>
    -- a player without a party has invited nobody
    rw [PartyTables.isAffiliated_iff, not_or] at hfree
    exact hw.settled.attach fun m _ hm => hfree.1 (PartyTables.Sound.issued hw.sound m _ hm)
  | addExistingMember =>
    refine hw.settled.attach fun m hm => ?_
    rw [List.mem_singleton.mp hm]
    exact hok
  | requestSharing => exact hw.settled.mono (fun _ _ hm => hm) fun _ _ hi => hi
  | recordActivity => exact hw.settled.mono (fun _ _ hm => hm) fun _ _ hi => hi

theorem Uninvited.step (toLowercase : String → String) {w : GameWorld} (hw : Uninvited w)
    {event : GameEvent} (hok : AttachesUninvited w event) : Uninvited (event.step toLowercase w) := by
  refine aboutParties_uninvited.step toLowercase hw (fun p hevent _ => ?_) fun e t' hevent h => ?_
  · exact ⟨hw.sound.removed p, hw.settled.clearPlayerPartyState hw.sound p⟩
  · subst hevent
    exact hw.does hok h

/-- **Nobody holds an invitation of the party he is in**, and nobody one of his own, in every run
in which nobody is attached to a party whose invitation he holds. -/
theorem neverInvitedToOwn (toLowercase : String → String) {w : GameWorld}
    (h : Reaches (GameEvent.step toLowercase) AttachesUninvited .empty w) :
    (∀ p l, w.party.playerPartyLeader p = some l → ¬w.party.Invited p l) ∧
      ∀ p, ¬w.party.Invited p p := by
  have hw := h.invariant (P := Uninvited) (fun _ _ hw hok => hw.step toLowercase hok)
    ⟨partiesSound_empty, PartyTables.Settled.empty⟩
  refine ⟨fun p l hl => ?_, hw.settled.own⟩
  unfold PartyTables.playerPartyLeader at hl
  split at hl
  · cases hl
    exact hw.settled.own p
  · exact hw.settled.inside p l hl

/-- Somebody without an invitation is attached to a live party. -/
def attachedUninvited : List GameEvent :=
  [knightEnters 7 100, knightEnters 8 101, knightEnters 9 102, .party (.invite 7 8),
    .party (.addExistingMember 7 9), .party (.transfer 7 9)]

theorem neverInvitedToOwn_attachedUninvited :
    (∀ p l, (attachedUninvited.foldl (GameEvent.step id) .empty).party.playerPartyLeader p = some l →
      ¬(attachedUninvited.foldl (GameEvent.step id) .empty).party.Invited p l) ∧
      ∀ p, ¬(attachedUninvited.foldl (GameEvent.step id) .empty).party.Invited p p :=
  neverInvitedToOwn id (Reaches.foldl .start ⟨trivial, trivial, trivial, trivial,
    show ¬_ by decide +kernel, trivial, trivial⟩)

/-- **An invitation of his own.**  An invited player is attached to the party without accepting,
and later leads it. -/
theorem attachedInvited_unsettled : ¬∀ events : List GameEvent,
    (∀ p l, (events.foldl (GameEvent.step id) .empty).party.playerPartyLeader p = some l →
      ¬(events.foldl (GameEvent.step id) .empty).party.Invited p l) ∧
      ∀ p, ¬(events.foldl (GameEvent.step id) .empty).party.Invited p p := by
  intro h
  let run : List GameEvent := [knightEnters 7 100, knightEnters 8 101, .party (.invite 7 8),
    .party (.addExistingMember 7 8), .party (.transfer 7 8)]
  have hown : (run.foldl (GameEvent.step id) .empty).party.Invited 8 8 := by decide +kernel
  exact (h run).2 8 hown

end ForgottenEngine
