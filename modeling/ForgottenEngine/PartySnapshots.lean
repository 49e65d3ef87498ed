import ForgottenEngine.PartyRuns

/-!
# Stored parties

A snapshot is the list of the live parties, each with its members in ascending order.  A restore
takes one party at a time, looks at everybody in it and writes last.

* `PartlyRestored` — the tables in the middle of a restore;
* `partySnapshots_restored` — **the parties of every reachable world come back** in a world with the
  same players and no parties, and a refused restore changes nothing.
-/

namespace ForgottenEngine

open Fallible Game

/-- Every live party by its leader, with its members. -/
def GameWorld.partySnapshots (w : GameWorld) : List (ℕ × List ℕ) :=
  w.party.leaders.toList.map fun leader => (leader, w.party.memberIds leader)

/-- Restore stored parties one after the other, up to a refused one. -/
def restorePartySnapshots (snapshots : List (ℕ × List ℕ)) : GameM Unit :=
  snapshots.foldlM (fun _ snapshot => Game.restorePartySnapshot snapshot.1 snapshot.2) ()

section Restore

variable {w : GameWorld}

/-! ### One party -/

theorem atomic_restorePartySnapshot (leaderId : ℕ) (members : List ℕ) :
    Atomic (Game.restorePartySnapshot leaderId members) := by
  unfold Game.restorePartySnapshot
  refine .ite (ReadOnly.fail _).atomic (.ite (ReadOnly.fail _).atomic ?_)
  refine .bind (readOnly_ensured _) fun _ => .bind (.read _) fun _ => ?_
  refine .ite (ReadOnly.fail _).atomic (.bind (readOnly_admitted _) fun _ => ?_)
  exact (Succeeds.write _).atomic

theorem ensured_of_registered {p : ℕ} (h : w.IsRegistered p) :
    Game.ensurePartyPlayerExists p w = (.ok (), w) := by
  obtain ⟨player, hplayer⟩ := h
  exact bind_of_ok (readOr_of_some (f := fun w : GameWorld => w.players[p]?) _ hplayer)

theorem admitted_of_free {members : List ℕ}
    (h : ∀ m ∈ members, w.IsRegistered m ∧ w.party.isAffiliated m = false) :
    members.foldlM Game.admitRestoredMember () w = (.ok (), w) := by
  induction members with
  | nil => rfl
  | cons m members ih =>
    obtain ⟨hknown, hfree⟩ := h m List.mem_cons_self
    have hadmit : Game.admitRestoredMember () m w = (.ok (), w) := by
      unfold Game.admitRestoredMember
      rw [bind_of_ok (ensured_of_registered hknown), bind_of_ok (read_apply _ w), hfree]
      rfl
    rw [List.foldlM_cons]
    exact (bind_of_ok hadmit).trans (ih fun q hq => h q (List.mem_cons_of_mem _ hq))

/-- A party of registered players who are in no other one is restored. -/
theorem restorePartySnapshot_ok {leaderId : ℕ} {members : List ℕ} (hnodup : members.Nodup)
    (hself : leaderId ∉ members) (hleader : w.IsRegistered leaderId)
    (hfree : w.party.isAffiliated leaderId = false)
    (hmembers : ∀ m ∈ members, w.IsRegistered m ∧ w.party.isAffiliated m = false) :
    Game.restorePartySnapshot leaderId members w =
      (.ok (), w.putParty (w.party.attach leaderId (members.insertionSort (· ≤ ·)))) := by
  have hadmitted : (members.insertionSort (· ≤ ·)).foldlM Game.admitRestoredMember () w =
      (.ok (), w) :=
    admitted_of_free fun m hm => hmembers m ((List.mem_insertionSort _).mp hm)
  unfold Game.restorePartySnapshot
  rw [if_neg (not_not.mpr hnodup), if_neg hself, bind_of_ok (ensured_of_registered hleader),
    bind_of_ok (read_apply _ w), hfree]
  exact bind_of_ok hadmitted

/-! ### All parties -/

namespace PartyTables

/-- The tables with some of the parties of `old` restored into `fresh`. -/
structure PartlyRestored (old fresh : PartyTables) (done : List ℕ) (t : PartyTables) : Prop where
  leaders : ∀ l, l ∈ t.leaders ↔ l ∈ done
  members : ∀ p l, t.MemberOf p l ↔ l ∈ done ∧ old.MemberOf p l
  invitations : t.invitations = fresh.invitations
  requests : t.sharedExperienceRequested = fresh.sharedExperienceRequested
  ticks : t.sharedExperienceActivityTicks = fresh.sharedExperienceActivityTicks

variable {old fresh t : PartyTables} {done : List ℕ} {registered : ℕ → Prop} {l : ℕ}

/-- Who belongs to a party that is not restored yet is in none. -/
theorem PartlyRestored.free (h : PartlyRestored old fresh done t) (hold : old.Sound registered)
    (hdone : ∀ k ∈ done, k ∈ old.leaders) (hl : l ∈ old.leaders) (hnew : l ∉ done) :
    t.isAffiliated l = false ∧ ∀ m, old.MemberOf m l → t.isAffiliated m = false := by
  refine ⟨?_, fun m hm => ?_⟩
  · by_contra haffiliated
    have haffiliated : t.isAffiliated l = true := by simpa using haffiliated
    rcases isAffiliated_iff.mp haffiliated with hleads | ⟨k, hmember⟩
    · exact hnew ((h.leaders l).mp hleads)
    · exact hold.apart l k hl ((h.members l k).mp hmember).2
  · by_contra haffiliated
    have haffiliated : t.isAffiliated m = true := by simpa using haffiliated
    rcases isAffiliated_iff.mp haffiliated with hleads | ⟨k, hmember⟩
    · exact hold.apart m l (hdone m ((h.leaders m).mp hleads)) hm
    · obtain ⟨hk, hmember⟩ := (h.members m k).mp hmember
      exact hnew (hm.unique hmember ▸ hk)

theorem PartlyRestored.next (h : PartlyRestored old fresh done t) (l : ℕ) {members : List ℕ}
    (hmembers : ∀ p, p ∈ members ↔ old.MemberOf p l) :
    PartlyRestored old fresh (l :: done) (t.attach l members) := by
  refine ⟨fun k => ?_, fun p k => ?_, h.invitations, h.requests, h.ticks⟩
  · rw [mem_leaders_attach, h.leaders, List.mem_cons]
  · rw [memberOf_attach, h.members, List.mem_cons, hmembers]
    constructor
    · rintro (⟨hp, rfl⟩ | ⟨-, hk, hp⟩)
      · exact ⟨.inl rfl, hp⟩
      · exact ⟨.inr hk, hp⟩
    · rintro ⟨rfl | hk, hp⟩
      · exact .inl ⟨hp, rfl⟩
      · by_cases hl : old.MemberOf p l
        · exact .inl ⟨hl, hp.unique hl⟩
        · exact .inr ⟨hl, hk, hp⟩

end PartyTables

theorem restored_all {old fresh t : PartyTables} {done todo : List ℕ} {w : GameWorld}
    (hold : old.Sound w.IsRegistered) (h : PartyTables.PartlyRestored old fresh done t)
    (hdone : ∀ k ∈ done, k ∈ old.leaders) (htodo : ∀ k ∈ todo, k ∈ old.leaders)
    (hnodup : todo.Nodup) (hapart : ∀ k ∈ todo, k ∉ done) :
    ∃ t', restorePartySnapshots (todo.map fun l => (l, old.memberIds l)) (w.putParty t) =
        (.ok (), w.putParty t') ∧
      PartyTables.PartlyRestored old fresh (todo.reverse ++ done) t' := by
  induction todo generalizing t done with
  | nil => exact ⟨t, rfl, h⟩
  | cons l todo ih =>
    have hl := htodo l List.mem_cons_self
    obtain ⟨hfree, hfrees⟩ := h.free hold hdone hl (hapart l List.mem_cons_self)
    have hone := restorePartySnapshot_ok (w := w.putParty t) (old.nodup_memberIds l)
      (fun hself => hold.apart l l hl (PartyTables.mem_memberIds.mp hself)) (hold.knownLeaders l hl)
      hfree fun m hm => ⟨hold.knownMembers m l (PartyTables.mem_memberIds.mp hm),
        hfrees m (PartyTables.mem_memberIds.mp hm)⟩
    have hnext := h.next l fun p => (List.mem_insertionSort (· ≤ ·)).trans
      (PartyTables.mem_memberIds (t := old) (p := p) (l := l))
    obtain ⟨t', hrest, hall⟩ := ih hnext
      (fun k hk => (List.mem_cons.mp hk).elim (fun heq => heq ▸ hl) (hdone k))
      (fun k hk => htodo k (List.mem_cons_of_mem _ hk)) (List.nodup_cons.mp hnodup).2
      fun k hk hin => by
        rcases List.mem_cons.mp hin with rfl | hin
        · exact (List.nodup_cons.mp hnodup).1 hk
        · exact hapart k (List.mem_cons_of_mem _ hk) hin
    refine ⟨t', ?_, ?_⟩
    · unfold restorePartySnapshots at hrest ⊢
      rw [List.map_cons, List.foldlM_cons]
      exact (bind_of_ok hone).trans hrest
    · rwa [List.reverse_cons, List.append_assoc, List.singleton_append]

/-- Where a refused restore of many parties stops. -/
theorem restorePartySnapshots_error {snapshots : List (ℕ × List ℕ)} {w w' : GameWorld}
    {e : CoreError} (h : restorePartySnapshots snapshots w = (.error e, w')) :
    ∃ done refused rest, snapshots = done ++ refused :: rest ∧
      restorePartySnapshots done w = (.ok (), w') ∧
      Game.restorePartySnapshot refused.1 refused.2 w' = (.error e, w') := by
  induction snapshots generalizing w with
  | nil => cases h
  | cons snapshot snapshots ih =>
    unfold restorePartySnapshots at h
    rw [List.foldlM_cons, bind_eq_error] at h
    rcases h with hrefused | ⟨_, t, hfirst, hrest⟩
    · have hsame := atomic_restorePartySnapshot _ _ _ _ _ hrefused
      subst hsame
      exact ⟨[], snapshot, snapshots, rfl, rfl, hrefused⟩
    · obtain ⟨done, refused, rest, rfl, hdone, hrefused⟩ := ih hrest
      refine ⟨snapshot :: done, refused, rest, rfl, ?_, hrefused⟩
      unfold restorePartySnapshots at hdone ⊢
      rw [List.foldlM_cons]
      exact (bind_of_ok hfirst).trans hdone

end Restore

/-- **The parties of every reachable world come back** in a world with the same players and no
parties, without invitations and requests, and a refused restore changes nothing. -/
theorem partySnapshots_restored (toLowercase : String → String) (events : List GameEvent)
    (fresh : GameWorld)
    (hplayers : ∀ p, (events.foldl (GameEvent.step toLowercase) .empty).IsRegistered p ↔
      fresh.IsRegistered p)
    (hleaders : fresh.party.leaders = ∅) (hmembers : fresh.party.memberships = ∅) :
    let w := events.foldl (GameEvent.step toLowercase) .empty
    (∃ t, restorePartySnapshots w.partySnapshots fresh = (.ok (), fresh.putParty t) ∧
      t.leaders = w.party.leaders ∧ t.memberships = w.party.memberships ∧
      t.invitations = fresh.party.invitations ∧
      t.sharedExperienceRequested = fresh.party.sharedExperienceRequested ∧
      t.sharedExperienceActivityTicks = fresh.party.sharedExperienceActivityTicks) ∧
    ∀ snapshots before e after, restorePartySnapshots snapshots before = (.error e, after) →
      ∃ done refused rest, snapshots = done ++ refused :: rest ∧
        restorePartySnapshots done before = (.ok (), after) ∧
        Game.restorePartySnapshot refused.1 refused.2 after = (.error e, after) := by
  intro w
  refine ⟨?_, fun snapshots before e after h => restorePartySnapshots_error h⟩
  have hsound : w.party.Sound fresh.IsRegistered :=
    (partiesSound toLowercase events).mono fun p hp => (hplayers p).mp hp
  have hstart : PartyTables.PartlyRestored w.party fresh.party [] fresh.party := by
    refine ⟨fun l => ?_, fun p l => ?_, rfl, rfl, rfl⟩
    · rw [hleaders]
      simp
    · unfold PartyTables.MemberOf
      rw [hmembers]
      simp
  have hnodup : w.party.leaders.toList.Nodup :=
    Std.ExtTreeSet.distinct_toList.imp fun hne heq => hne (by simp [heq])
  obtain ⟨t, hrun, hall⟩ := @restored_all w.party fresh.party fresh.party [] w.party.leaders.toList fresh
    hsound hstart (by simp) (fun k hk => Std.ExtTreeSet.mem_toList.mp hk) hnodup (by simp)
  refine ⟨t, hrun, ?_, ?_, hall.invitations, hall.requests, hall.ticks⟩
  · refine Std.ExtTreeSet.ext_mem fun l => ?_
    rw [hall.leaders]
    simp
  · refine Std.ExtTreeMap.ext_getElem? fun p => ?_
    refine Option.ext fun l => ?_
    have hmember := hall.members p l
    unfold PartyTables.MemberOf at hmember
    rw [hmember]
    refine ⟨fun h => h.2, fun h => ⟨?_, h⟩⟩
    have hleads := hsound.led p l h
    simpa using hleads

/-- A knight has a member, and has invited a third one. -/
def companyInvites : List GameEvent :=
  [knightEnters 7 100, knightEnters 8 101, knightEnters 9 102, .party (.invite 7 8),
    .party (.accept 8 7), .party (.invite 7 9)]

/-- The same knights behind a restart. -/
def companyReturns : GameWorld :=
  (companyInvites.foldl (GameEvent.step id) .empty).putParty .empty

theorem partySnapshots_restored_company : ∃ t,
    restorePartySnapshots (companyInvites.foldl (GameEvent.step id) .empty).partySnapshots
        companyReturns = (.ok (), companyReturns.putParty t) ∧
      t.leaders = (companyInvites.foldl (GameEvent.step id) .empty).party.leaders ∧
      t.memberships = (companyInvites.foldl (GameEvent.step id) .empty).party.memberships := by
  obtain ⟨⟨t, hrun, hleaders, hmemberships, -⟩, -⟩ :=
    partySnapshots_restored id companyInvites companyReturns (fun _ => Iff.rfl) rfl rfl
  exact ⟨t, hrun, hleaders, hmemberships⟩

/-- **An invitation does not come back.** -/
theorem invitation_notRestored :
    let w := companyInvites.foldl (GameEvent.step id) .empty
    let restored := (restorePartySnapshots w.partySnapshots companyReturns).2
    restored.party.playerPartyLeader 8 = some 7 ∧ w.party.hasInvitations 7 = true ∧
      restored.party.hasInvitations 7 = false ∧
      restored.party.invitations ≠ w.party.invitations := by
  intro w restored
  have hinvited : w.party.hasInvitations 7 = true := by decide +kernel
  have hnobody : restored.party.hasInvitations 7 = false := by decide +kernel
  refine ⟨by decide +kernel, hinvited, hnobody, fun hsame => ?_⟩
  unfold PartyTables.hasInvitations at hinvited hnobody
  rw [hsame, hinvited] at hnobody
  cases hnobody

end ForgottenEngine
