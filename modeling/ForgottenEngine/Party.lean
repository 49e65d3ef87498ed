import ForgottenEngine.Item
import ForgottenEngine.Library.OrderedMap

/-!
# Parties

The five session-local tables of the parties, and what the party operations do to them:

* `disbandParty`, `disbandPartyIfEmpty` — the end of a party;
* `removePartyLeader` — the lowest member takes the place of a leader who leaves;
* `transferLeadership` — the leader changes places with a member;
* `clearPlayerPartyState` — a player logs out.

Behind each operation stand the lemmas that say who leads, who belongs to whom and who holds whose
invitation afterwards.  The proofs about runs use these and never look into the tables.
-/

namespace ForgottenEngine

structure PartyTables where
  leaders : BTreeSet ℕ
  /-- The leader of each member. -/
  memberships : BTreeMap ℕ ℕ
  /-- The leaders whose invitation each player holds. -/
  invitations : BTreeMap ℕ (BTreeSet ℕ)
  sharedExperienceRequested : BTreeSet ℕ
  sharedExperienceActivityTicks : BTreeMap ℕ ℕ

namespace PartyTables

def empty : PartyTables := ⟨∅, ∅, ∅, ∅, ∅⟩

/-- The members of a party without their leader, in ascending order. -/
def memberIds (self : PartyTables) (leaderId : ℕ) : List ℕ :=
  (self.memberships.toList.filter fun e => e.2 = leaderId).map Prod.fst

def hasInvitations (self : PartyTables) (leaderId : ℕ) : Bool :=
  self.invitations.toList.any fun e => leaderId ∈ e.2

/-- The player leads a party or belongs to one. -/
def isAffiliated (self : PartyTables) (playerId : ℕ) : Bool :=
  playerId ∈ self.leaders ∨ self.memberships[playerId]?.isSome

/-- The leader the player follows: the player's own id for a leader. -/
def playerPartyLeader (self : PartyTables) (playerId : ℕ) : Option ℕ :=
  if playerId ∈ self.leaders then some playerId else self.memberships[playerId]?

/-- Exchange one id for another in a set that has it. -/
def rekey (ids : BTreeSet ℕ) (oldId newId : ℕ) : BTreeSet ℕ :=
  if oldId ∈ ids then (ids.erase oldId).insert newId else ids

/-- The party changes its leader: every table that names the old one names the new one. -/
def changeLeader (self : PartyTables) (leaderId newLeaderId : ℕ) : PartyTables :=
  { self with
    leaders := (self.leaders.erase leaderId).insert newLeaderId
    sharedExperienceRequested := rekey self.sharedExperienceRequested leaderId newLeaderId
    memberships := (self.memberships.erase newLeaderId).map fun _ memberLeaderId =>
      if memberLeaderId = leaderId then newLeaderId else memberLeaderId
    invitations := self.invitations.map fun _ leaders => rekey leaders leaderId newLeaderId }

def disbandParty (self : PartyTables) (leaderId : ℕ) : PartyTables where
  leaders := self.leaders.erase leaderId
  sharedExperienceRequested := self.sharedExperienceRequested.erase leaderId
  sharedExperienceActivityTicks := (self.memberIds leaderId).foldl Std.ExtTreeMap.erase
    (self.sharedExperienceActivityTicks.erase leaderId)
  memberships := self.memberships.filter fun _ memberLeaderId => memberLeaderId ≠ leaderId
  invitations := (self.invitations.map fun _ leaders => leaders.erase leaderId).filter
    fun _ leaders => !leaders.isEmpty

def disbandPartyIfEmpty (self : PartyTables) (leaderId : ℕ) : PartyTables :=
  if leaderId ∈ self.leaders ∧ self.memberIds leaderId = [] ∧ ¬self.hasInvitations leaderId then
    self.disbandParty leaderId
  else self

/-- A leader leaves; without members the party ends. -/
def removePartyLeader (self : PartyTables) (leaderId : ℕ) : PartyTables :=
  match (self.memberIds leaderId).head? with
  | none => self.disbandParty leaderId
  | some newLeaderId => self.changeLeader leaderId newLeaderId

/-- A member leaves. -/
def removePartyMember (self : PartyTables) (playerId leaderId : ℕ) : PartyTables :=
  ({ self with memberships := self.memberships.erase playerId }).disbandPartyIfEmpty leaderId

/-- A player leaves the party, when there is one to leave. -/
def leave (self : PartyTables) (playerId : ℕ) : Option PartyTables :=
  if playerId ∈ self.leaders then some (self.removePartyLeader playerId)
  else self.memberships[playerId]?.map (self.removePartyMember playerId)

/-- A player drops every invitation. -/
def dropInvitations (self : PartyTables) (playerId : ℕ) : PartyTables :=
  (self.invitations[playerId]?.getD ∅).toList.foldl disbandPartyIfEmpty
    { self with invitations := self.invitations.erase playerId }

/-- A player logs out. -/
def clearPlayerPartyState (self : PartyTables) (playerId : ℕ) : PartyTables :=
  let inactive := { self with
    sharedExperienceActivityTicks := self.sharedExperienceActivityTicks.erase playerId }
  ((inactive.leave playerId).getD inactive).dropInvitations playerId

/-! ### The operations that players ask for -/

def invite (self : PartyTables) (leaderId inviteeId : ℕ) : Except CoreError PartyTables :=
  let leaders := self.invitations[inviteeId]?.getD ∅
  if leaderId = inviteeId then .error (.selfInteractionNotAllowed leaderId)
  else if self.memberships[leaderId]?.isSome then .error (.playerAlreadyInParty leaderId)
  else if self.isAffiliated inviteeId then .error (.playerAlreadyInParty inviteeId)
  else if leaderId ∈ leaders then .error (.duplicatePartyInvitation leaderId inviteeId)
  else .ok { self with
    invitations := self.invitations.insert inviteeId (leaders.insert leaderId)
    leaders := self.leaders.insert leaderId }

/-- The invited player joins, and the invitations of the other parties lapse. -/
def accept (self : PartyTables) (inviteeId leaderId : ℕ) : Except CoreError PartyTables :=
  let invitingLeaders := self.invitations[inviteeId]?.getD ∅
  if leaderId ∉ invitingLeaders then .error (.partyInvitationNotFound leaderId inviteeId)
  else if self.isAffiliated inviteeId then .error (.playerAlreadyInParty inviteeId)
  else if leaderId ∉ self.leaders then .error (.playerNotInParty leaderId)
  else .ok ((invitingLeaders.toList.filter (· ≠ leaderId)).foldl disbandPartyIfEmpty { self with
    invitations := self.invitations.erase inviteeId
    memberships := self.memberships.insert inviteeId leaderId })

def leaveParty (self : PartyTables) (playerId : ℕ) : Except CoreError PartyTables :=
  (self.leave playerId).elim (.error (.playerNotInParty playerId)) .ok

def transferLeadership (self : PartyTables) (leaderId newLeaderId : ℕ) :
    Except CoreError PartyTables :=
  if leaderId = newLeaderId then .error (.selfInteractionNotAllowed leaderId)
  else if leaderId ∉ self.leaders then .error (.playerNotInParty leaderId)
  else if self.memberships[newLeaderId]? ≠ some leaderId then
    .error (.partyLeadershipTargetNotMember leaderId newLeaderId)
  else
    let changed := self.changeLeader leaderId newLeaderId
    .ok { changed with memberships := changed.memberships.insert leaderId newLeaderId }

def revoke (self : PartyTables) (leaderId inviteeId : ℕ) : Except CoreError PartyTables :=
  let invitations := self.invitations[inviteeId]?.getD ∅
  if leaderId ∉ self.leaders then .error (.playerNotInParty leaderId)
  else if leaderId ∉ invitations then .error (.partyInvitationNotFound leaderId inviteeId)
  else .ok (({ self with
    invitations := if (invitations.erase leaderId).isEmpty then self.invitations.erase inviteeId
      else self.invitations.insert inviteeId (invitations.erase leaderId) }).disbandPartyIfEmpty
        leaderId)

/-- Attach members to a leader; the callers have checked all of them. -/
def attach (self : PartyTables) (leaderId : ℕ) (members : List ℕ) : PartyTables :=
  { self with
    memberships := members.foldl (fun memberships member => memberships.insert member leaderId)
      self.memberships
    leaders := self.leaders.insert leaderId }

/-! ### Who leads, who belongs to whom, who holds whose invitation -/

/-- The player belongs to the party of the leader. -/
def MemberOf (self : PartyTables) (playerId leaderId : ℕ) : Prop :=
  self.memberships[playerId]? = some leaderId

/-- The player holds an invitation of the leader. -/
def Invited (self : PartyTables) (playerId leaderId : ℕ) : Prop :=
  ∃ leaders, self.invitations[playerId]? = some leaders ∧ leaderId ∈ leaders

/-- The party has nobody but its leader, and nobody is invited. -/
def Deserted (self : PartyTables) (leaderId : ℕ) : Prop :=
  ∀ playerId, ¬self.MemberOf playerId leaderId ∧ ¬self.Invited playerId leaderId

variable {t : PartyTables} {p q k l n : ℕ}

theorem mem_memberIds : p ∈ t.memberIds l ↔ t.MemberOf p l := by
  simp [memberIds, MemberOf, Std.ExtTreeMap.mem_toList_iff_getElem?_eq_some]

theorem hasInvitations_iff : t.hasInvitations l = true ↔ ∃ p, t.Invited p l := by
  simp only [hasInvitations, Invited, List.any_eq_true, Prod.exists, decide_eq_true_eq,
    Std.ExtTreeMap.mem_toList_iff_getElem?_eq_some]

theorem deserted_iff : t.memberIds l = [] ∧ ¬t.hasInvitations l ↔ t.Deserted l := by
  rw [List.eq_nil_iff_forall_not_mem, hasInvitations_iff, Deserted]
  simp only [mem_memberIds, not_exists, forall_and]

theorem mem_inviting (p l : ℕ) :
    l ∈ (t.invitations[p]?.getD ∅ : BTreeSet ℕ) ↔ t.Invited p l := by
  unfold Invited
  cases t.invitations[p]? with
  | none => simp
  | some leaders => simp

theorem isAffiliated_iff : t.isAffiliated p = true ↔ p ∈ t.leaders ∨ ∃ l, t.MemberOf p l := by
  simp only [isAffiliated, MemberOf, Option.isSome_iff_exists, decide_eq_true_eq]

theorem mem_rekey {ids : BTreeSet ℕ} {x oldId newId : ℕ} :
    x ∈ rekey ids oldId newId ↔ (x ∈ ids ∧ x ≠ oldId) ∨ (oldId ∈ ids ∧ x = newId) := by
  unfold rekey
  split
  · rw [OrderedMap.set_mem_insert, OrderedMap.set_mem_erase]
    grind
  · grind

/-! #### The end of a party -/

@[simp] theorem mem_leaders_disbandParty :
    p ∈ (t.disbandParty l).leaders ↔ p ∈ t.leaders ∧ p ≠ l := by
  rw [disbandParty, OrderedMap.set_mem_erase, and_comm, ne_comm]

@[simp] theorem mem_requested_disbandParty : p ∈ (t.disbandParty l).sharedExperienceRequested ↔
    p ∈ t.sharedExperienceRequested ∧ p ≠ l := by
  rw [disbandParty, OrderedMap.set_mem_erase, and_comm, ne_comm]

@[simp] theorem memberOf_disbandParty :
    (t.disbandParty l).MemberOf p k ↔ t.MemberOf p k ∧ k ≠ l := by
  simp only [disbandParty, MemberOf, OrderedMap.getElem?_filter_eq_some, decide_eq_true_eq]

theorem invitations_disbandParty {leaders : BTreeSet ℕ} :
    (t.disbandParty l).invitations[p]? = some leaders ↔
      ∃ before, t.invitations[p]? = some before ∧ leaders = before.erase l ∧
        leaders.isEmpty = false := by
  simp only [disbandParty, OrderedMap.getElem?_filter_eq_some, Std.ExtTreeMap.getElem?_map,
    Option.map_eq_some_iff, Bool.not_eq_true']
  constructor
  · rintro ⟨⟨before, h, rfl⟩, hne⟩
    exact ⟨before, h, rfl, hne⟩
  · rintro ⟨before, h, rfl, hne⟩
    exact ⟨⟨before, h, rfl⟩, hne⟩

@[simp] theorem invited_disbandParty :
    (t.disbandParty l).Invited p k ↔ t.Invited p k ∧ k ≠ l := by
  simp only [Invited, invitations_disbandParty]
  constructor
  · rintro ⟨_, ⟨before, h, rfl, -⟩, hk⟩
    rw [OrderedMap.set_mem_erase] at hk
    exact ⟨⟨before, h, hk.2⟩, Ne.symm hk.1⟩
  · rintro ⟨⟨before, h, hk⟩, hne⟩
    have hmem : k ∈ before.erase l := OrderedMap.set_mem_erase.mpr ⟨Ne.symm hne, hk⟩
    refine ⟨_, ⟨before, h, rfl, ?_⟩, hmem⟩
    rw [Bool.eq_false_iff, ne_eq, Std.ExtTreeSet.isEmpty_iff]
    intro hempty
    rw [hempty] at hmem
    simp at hmem

theorem ticks_foldl_erase {ticks : BTreeMap ℕ ℕ} {ids : List ℕ} {tick : ℕ}
    (h : (ids.foldl Std.ExtTreeMap.erase ticks)[p]? = some tick) : ticks[p]? = some tick := by
  induction ids generalizing ticks with
  | nil => exact h
  | cons id ids ih =>
    have h := ih h
    rw [Std.ExtTreeMap.getElem?_erase] at h
    split at h
    · cases h
    · exact h

theorem ticks_disbandParty {tick : ℕ}
    (h : (t.disbandParty l).sharedExperienceActivityTicks[p]? = some tick) :
    t.sharedExperienceActivityTicks[p]? = some tick := by
  have h := ticks_foldl_erase h
  rw [Std.ExtTreeMap.getElem?_erase] at h
  split at h
  · cases h
  · exact h

/-! #### Parties that may have been deserted -/

theorem disbandPartyIfEmpty_eq (t : PartyTables) (l : ℕ) [Decidable (t.Deserted l)] :
    t.disbandPartyIfEmpty l = if l ∈ t.leaders ∧ t.Deserted l then t.disbandParty l else t := by
  unfold disbandPartyIfEmpty
  simp only [deserted_iff]

@[simp] theorem memberOf_disbandPartyIfEmpty :
    (t.disbandPartyIfEmpty l).MemberOf p k ↔ t.MemberOf p k := by
  classical
  rw [disbandPartyIfEmpty_eq]
  split
  · rename_i h
    rw [memberOf_disbandParty]
    refine and_iff_left_of_imp fun hmember heq => ?_
    exact (h.2 p).1 (heq ▸ hmember)
  · rfl

@[simp] theorem invited_disbandPartyIfEmpty :
    (t.disbandPartyIfEmpty l).Invited p k ↔ t.Invited p k := by
  classical
  rw [disbandPartyIfEmpty_eq]
  split
  · rename_i h
    rw [invited_disbandParty]
    refine and_iff_left_of_imp fun hinvited heq => ?_
    exact (h.2 p).2 (heq ▸ hinvited)
  · rfl

@[simp] theorem deserted_disbandPartyIfEmpty :
    (t.disbandPartyIfEmpty l).Deserted k ↔ t.Deserted k := by
  simp only [Deserted, memberOf_disbandPartyIfEmpty, invited_disbandPartyIfEmpty]

@[simp] theorem mem_leaders_disbandPartyIfEmpty :
    p ∈ (t.disbandPartyIfEmpty l).leaders ↔ p ∈ t.leaders ∧ ¬(p = l ∧ t.Deserted l) := by
  classical
  rw [disbandPartyIfEmpty_eq]
  split
  · rename_i h
    rw [mem_leaders_disbandParty]
    simp [h.2]
  · rename_i h
    refine (and_iff_left_of_imp fun hp => ?_).symm
    rintro ⟨heq, hdeserted⟩
    exact h ⟨heq ▸ hp, hdeserted⟩

theorem invitations_disbandPartyIfEmpty {leaders : BTreeSet ℕ}
    (h : (t.disbandPartyIfEmpty l).invitations[p]? = some leaders) :
    ∃ before, t.invitations[p]? = some before := by
  unfold disbandPartyIfEmpty at h
  split at h
  · obtain ⟨before, hbefore, -⟩ := invitations_disbandParty.mp h
    exact ⟨before, hbefore⟩
  · exact ⟨leaders, h⟩

theorem ticks_disbandPartyIfEmpty {tick : ℕ}
    (h : (t.disbandPartyIfEmpty l).sharedExperienceActivityTicks[p]? = some tick) :
    t.sharedExperienceActivityTicks[p]? = some tick := by
  unfold disbandPartyIfEmpty at h
  split at h
  · exact ticks_disbandParty h
  · exact h

/-! #### A change of leaders -/

@[simp] theorem mem_leaders_changeLeader :
    p ∈ (t.changeLeader l n).leaders ↔ p = n ∨ (p ∈ t.leaders ∧ p ≠ l) := by
  rw [changeLeader, OrderedMap.set_mem_insert, OrderedMap.set_mem_erase, and_comm, ne_comm,
    eq_comm]

@[simp] theorem mem_requested_changeLeader : p ∈ (t.changeLeader l n).sharedExperienceRequested ↔
    (p ∈ t.sharedExperienceRequested ∧ p ≠ l) ∨ (l ∈ t.sharedExperienceRequested ∧ p = n) :=
  mem_rekey

@[simp] theorem memberOf_changeLeader : (t.changeLeader l n).MemberOf p k ↔
    p ≠ n ∧ ((t.MemberOf p k ∧ k ≠ l) ∨ (t.MemberOf p l ∧ k = n)) := by
  simp only [changeLeader, MemberOf, Std.ExtTreeMap.getElem?_map, Std.ExtTreeMap.getElem?_erase,
    Std.LawfulEqCmp.compare_eq_iff_eq, Option.map_eq_some_iff]
  by_cases hp : n = p
  · simp [hp]
  · simp only [hp, if_false]
    grind

theorem invitations_changeLeader {leaders : BTreeSet ℕ} :
    (t.changeLeader l n).invitations[p]? = some leaders ↔
      ∃ before, t.invitations[p]? = some before ∧ rekey before l n = leaders := by
  simp only [changeLeader, Std.ExtTreeMap.getElem?_map, Option.map_eq_some_iff]

@[simp] theorem invited_changeLeader : (t.changeLeader l n).Invited p k ↔
    (t.Invited p k ∧ k ≠ l) ∨ (t.Invited p l ∧ k = n) := by
  simp only [Invited, invitations_changeLeader]
  constructor
  · rintro ⟨_, ⟨before, h, rfl⟩, hk⟩
    rcases mem_rekey.mp hk with ⟨hk, hne⟩ | ⟨hl, rfl⟩
    · exact .inl ⟨⟨before, h, hk⟩, hne⟩
    · exact .inr ⟨⟨before, h, hl⟩, rfl⟩
  · rintro (⟨⟨before, h, hk⟩, hne⟩ | ⟨⟨before, h, hl⟩, rfl⟩)
    · exact ⟨_, ⟨before, h, rfl⟩, mem_rekey.mpr (.inl ⟨hk, hne⟩)⟩
    · exact ⟨_, ⟨before, h, rfl⟩, mem_rekey.mpr (.inr ⟨hl, rfl⟩)⟩

/-- A leader who leaves makes room for a member, or ends a party without members. -/
theorem removePartyLeader_cases (t : PartyTables) (l : ℕ) :
    (∃ n, t.MemberOf n l ∧ t.removePartyLeader l = t.changeLeader l n) ∨
      ((∀ p, ¬t.MemberOf p l) ∧ t.removePartyLeader l = t.disbandParty l) := by
  unfold removePartyLeader
  cases hhead : (t.memberIds l).head? with
  | none =>
    right
    refine ⟨fun p hp => ?_, rfl⟩
    rw [List.head?_eq_none_iff] at hhead
    have hmem := mem_memberIds.mpr hp
    rw [hhead] at hmem
    cases hmem
  | some n => exact .inl ⟨n, mem_memberIds.mp (List.mem_of_head? hhead), rfl⟩

end PartyTables

end ForgottenEngine
