import ForgottenEngine.Party

/-!
# What every party operation keeps

Three statements about the five party tables, and what each operation does to them:

* `Sound` — leaders and members are different players, memberships, invitations and requests name
  live leaders, and everybody is registered;
* `Lone` — a leader whose party is nobody else's concern: no member and no invitation.  The
  operations that take something away from a party ask for this afterwards, and a lemma of each
  says which leaders they leave alone;
* `Settled` — nobody is invited to the party he is in, and nobody by himself.
-/

namespace ForgottenEngine

namespace PartyTables

/-- The party tables agree with each other and with the registration of players. -/
structure Sound (registered : ℕ → Prop) (t : PartyTables) : Prop where
  apart : ∀ p l, p ∈ t.leaders → ¬t.MemberOf p l
  led : ∀ p l, t.MemberOf p l → l ∈ t.leaders
  issued : ∀ p l, t.Invited p l → l ∈ t.leaders
  requested : ∀ l, l ∈ t.sharedExperienceRequested → l ∈ t.leaders
  knownLeaders : ∀ l, l ∈ t.leaders → registered l
  knownMembers : ∀ p l, t.MemberOf p l → registered p
  knownInvitees : ∀ (p : ℕ) leaders, t.invitations[p]? = some leaders → registered p
  knownActive : ∀ (p : ℕ) tick, t.sharedExperienceActivityTicks[p]? = some tick → registered p

/-- A live party that has nobody but its leader. -/
def Lone (t : PartyTables) (l : ℕ) : Prop := l ∈ t.leaders ∧ t.Deserted l

/-- Nobody holds an invitation of the party he is in, and nobody one of his own. -/
structure Settled (t : PartyTables) : Prop where
  inside : ∀ p l, t.MemberOf p l → ¬t.Invited p l
  own : ∀ p, ¬t.Invited p p

/-- The player is in none of the tables. -/
structure Absent (t : PartyTables) (p : ℕ) : Prop where
  leader : p ∉ t.leaders
  member : ∀ l, ¬t.MemberOf p l
  invitee : t.invitations[p]? = none
  active : t.sharedExperienceActivityTicks[p]? = none

variable {registered : ℕ → Prop} {t t' : PartyTables} {p q k l n : ℕ}

/-! ### Single writes -/

@[simp] theorem memberOf_insert (t : PartyTables) (q l : ℕ) :
    ({ t with memberships := t.memberships.insert q l } : PartyTables).MemberOf p k ↔
      (p = q ∧ k = l) ∨ (p ≠ q ∧ t.MemberOf p k) := by
  simp only [MemberOf, Std.ExtTreeMap.getElem?_insert, Std.LawfulEqCmp.compare_eq_iff_eq]
  split
  · grind
  · grind

@[simp] theorem memberOf_erase (t : PartyTables) (q : ℕ) :
    ({ t with memberships := t.memberships.erase q } : PartyTables).MemberOf p k ↔
      p ≠ q ∧ t.MemberOf p k := by
  simp only [MemberOf, Std.ExtTreeMap.getElem?_erase, Std.LawfulEqCmp.compare_eq_iff_eq]
  split
  · grind
  · grind

@[simp] theorem invited_insert (t : PartyTables) (q : ℕ) (leaders : BTreeSet ℕ) :
    ({ t with invitations := t.invitations.insert q leaders } : PartyTables).Invited p k ↔
      (p = q ∧ k ∈ leaders) ∨ (p ≠ q ∧ t.Invited p k) := by
  simp only [Invited, Std.ExtTreeMap.getElem?_insert, Std.LawfulEqCmp.compare_eq_iff_eq]
  split
  · simp_all
  · grind

@[simp] theorem invited_erase (t : PartyTables) (q : ℕ) :
    ({ t with invitations := t.invitations.erase q } : PartyTables).Invited p k ↔
      p ≠ q ∧ t.Invited p k := by
  simp only [Invited, Std.ExtTreeMap.getElem?_erase, Std.LawfulEqCmp.compare_eq_iff_eq]
  split
  · simp_all
  · grind

@[simp] theorem memberOf_attach (t : PartyTables) (l : ℕ) (members : List ℕ) :
    (t.attach l members).MemberOf p k ↔
      (p ∈ members ∧ k = l) ∨ (p ∉ members ∧ t.MemberOf p k) := by
  have hfold (memberships : BTreeMap ℕ ℕ) :
      (members.foldl (fun memberships member => memberships.insert member l) memberships)[p]? =
        if p ∈ members then some l else memberships[p]? := by
    induction members generalizing memberships with
    | nil => simp
    | cons member members ih =>
      simp only [List.foldl_cons, ih, Std.ExtTreeMap.getElem?_insert,
        Std.LawfulEqCmp.compare_eq_iff_eq, List.mem_cons]
      grind
  simp only [attach, MemberOf, hfold]
  split
  · simp_all [eq_comm]
  · simp_all

@[simp] theorem invited_attach (t : PartyTables) (l : ℕ) (members : List ℕ) :
    (t.attach l members).Invited p k ↔ t.Invited p k := Iff.rfl

@[simp] theorem mem_leaders_attach (t : PartyTables) (l : ℕ) (members : List ℕ) :
    p ∈ (t.attach l members).leaders ↔ p = l ∨ p ∈ t.leaders := by
  rw [attach, OrderedMap.set_mem_insert, eq_comm]

/-- A player belongs to one party. -/
theorem MemberOf.unique (h : t.MemberOf p l) (h' : t.MemberOf p k) : l = k :=
  Option.some.inj (h.symm.trans h')

/-! ### When an operation is carried out -/

theorem invite_eq_ok (h : t.invite l p = .ok t') :
    l ≠ p ∧ (∀ k, ¬t.MemberOf l k) ∧ p ∉ t.leaders ∧ (∀ k, ¬t.MemberOf p k) ∧ t' = { t with
      invitations := t.invitations.insert p ((t.invitations[p]?.getD ∅).insert l)
      leaders := t.leaders.insert l } := by
  unfold invite at h
  simp only at h
  split at h
  · cases h
  · rename_i hne
    split at h
    · cases h
    · rename_i hmember
      split at h
      · cases h
      · rename_i hfree
        split at h
        · cases h
        · cases h
          rw [isAffiliated_iff, not_or, not_exists] at hfree
          refine ⟨hne, fun k hk => hmember ?_, hfree.1, hfree.2, rfl⟩
          rw [show t.memberships[l]? = some k from hk]
          rfl

theorem accept_eq_ok (h : t.accept p l = .ok t') :
    t.Invited p l ∧ p ∉ t.leaders ∧ (∀ k, ¬t.MemberOf p k) ∧ l ∈ t.leaders ∧
      t' = ((t.invitations[p]?.getD ∅).toList.filter (· ≠ l)).foldl disbandPartyIfEmpty { t with
        invitations := t.invitations.erase p
        memberships := t.memberships.insert p l } := by
  unfold accept at h
  simp only at h
  split at h
  · cases h
  · rename_i hinvited
    rw [not_not, mem_inviting] at hinvited
    split at h
    · cases h
    · rename_i hfree
      rw [isAffiliated_iff, not_or, not_exists] at hfree
      split at h
      · cases h
      · rename_i hleader
        cases h
        exact ⟨hinvited, hfree.1, hfree.2, not_not.mp hleader, rfl⟩

theorem transferLeadership_eq_ok (h : t.transferLeadership l n = .ok t') :
    l ≠ n ∧ l ∈ t.leaders ∧ t.MemberOf n l ∧ t' = { t.changeLeader l n with
      memberships := (t.changeLeader l n).memberships.insert l n } := by
  unfold transferLeadership at h
  simp only at h
  split at h
  · cases h
  · rename_i hne
    split at h
    · cases h
    · rename_i hleader
      split at h
      · cases h
      · rename_i hmember
        cases h
        exact ⟨hne, not_not.mp hleader, not_not.mp hmember, rfl⟩

/-- The invitation of a leader is taken back. -/
def withoutInvitation (t : PartyTables) (l p : ℕ) : PartyTables :=
  { t with invitations := if ((t.invitations[p]?.getD ∅).erase l).isEmpty then t.invitations.erase p
      else t.invitations.insert p ((t.invitations[p]?.getD ∅).erase l) }

theorem revoke_eq_ok (h : t.revoke l p = .ok t') :
    l ∈ t.leaders ∧ t.Invited p l ∧ t' = (t.withoutInvitation l p).disbandPartyIfEmpty l := by
  unfold revoke at h
  simp only at h
  split at h
  · cases h
  · rename_i hleader
    split at h
    · cases h
    · rename_i hinvited
      cases h
      rw [not_not, mem_inviting] at hinvited
      exact ⟨not_not.mp hleader, hinvited, rfl⟩

@[simp] theorem memberOf_withoutInvitation :
    (t.withoutInvitation l q).MemberOf p k ↔ t.MemberOf p k := Iff.rfl

@[simp] theorem invited_withoutInvitation :
    (t.withoutInvitation l q).Invited p k ↔ t.Invited p k ∧ ¬(p = q ∧ k = l) := by
  have hmem : k ∈ (t.invitations[q]?.getD ∅).erase l ↔ l ≠ k ∧ t.Invited q k := by
    rw [OrderedMap.set_mem_erase, mem_inviting]
  by_cases hempty : ((t.invitations[q]?.getD ∅).erase l).isEmpty
  · have hnone : ¬(l ≠ k ∧ t.Invited q k) := by
      rw [← hmem, Std.ExtTreeSet.isEmpty_iff.mp hempty]
      simp
    rw [withoutInvitation, if_pos hempty, invited_erase]
    grind
  · rw [withoutInvitation, if_neg hempty, invited_insert, hmem]
    grind

/-- Who leaves is a leader, a member of some party, or nobody. -/
theorem leave_cases (h : t.leave p = some t') :
    (p ∈ t.leaders ∧ t' = t.removePartyLeader p) ∨
      ∃ l, t.MemberOf p l ∧ t' = t.removePartyMember p l := by
  unfold leave at h
  split at h
  · rename_i hleader
    cases h
    exact .inl ⟨hleader, rfl⟩
  · obtain ⟨l, hl, rfl⟩ := Option.map_eq_some_iff.mp h
    exact .inr ⟨l, hl, rfl⟩

/-- Leaving adds nobody to the active. -/
theorem ticks_leave {tick : ℕ} (h : t.leave p = some t')
    (htick : t'.sharedExperienceActivityTicks[q]? = some tick) :
    t.sharedExperienceActivityTicks[q]? = some tick := by
  rcases leave_cases h with ⟨-, rfl⟩ | ⟨l, -, rfl⟩
  · rcases removePartyLeader_cases t p with ⟨n, -, heq⟩ | ⟨-, heq⟩
    · rw [heq] at htick
      exact htick
    · rw [heq] at htick
      exact ticks_disbandParty htick
  · have hbefore := ticks_disbandPartyIfEmpty htick
    exact hbefore

/-- A property that every disbanding keeps. -/
theorem foldl_disbandPartyIfEmpty {P : PartyTables → Prop}
    (hstep : ∀ t l, P t → P (t.disbandPartyIfEmpty l)) (ids : List ℕ) (h : P t) :
    P (ids.foldl disbandPartyIfEmpty t) := by
  induction ids generalizing t with
  | nil => exact h
  | cons id ids ih => exact ih (hstep t id h)

/-! ### The tables stay sound -/

namespace Sound

theorem empty : Sound registered .empty where
  apart := by simp [PartyTables.empty, MemberOf]
  led := by simp [PartyTables.empty, MemberOf]
  issued := by simp [PartyTables.empty, Invited]
  requested := by simp [PartyTables.empty]
  knownLeaders := by simp [PartyTables.empty]
  knownMembers := by simp [PartyTables.empty, MemberOf]
  knownInvitees := by simp [PartyTables.empty]
  knownActive := by simp [PartyTables.empty]

theorem mono {registered' : ℕ → Prop} (h : Sound registered t)
    (hmono : ∀ p, registered p → registered' p) : Sound registered' t where
  apart := h.apart
  led := h.led
  issued := h.issued
  requested := h.requested
  knownLeaders := fun l hl => hmono l (h.knownLeaders l hl)
  knownMembers := fun p l hp => hmono p (h.knownMembers p l hp)
  knownInvitees := fun p s hp => hmono p (h.knownInvitees p s hp)
  knownActive := fun p tick hp => hmono p (h.knownActive p tick hp)

/-- A player who is in none of the tables may be forgotten. -/
theorem forget (h : Sound registered t) (hp : t.Absent p) :
    Sound (fun q => registered q ∧ q ≠ p) t where
  apart := h.apart
  led := h.led
  issued := h.issued
  requested := h.requested
  knownLeaders := by
    intro l hl
    refine ⟨h.knownLeaders l hl, ?_⟩
    rintro rfl
    exact hp.leader hl
  knownMembers := by
    intro q l hq
    refine ⟨h.knownMembers q l hq, ?_⟩
    rintro rfl
    exact hp.member l hq
  knownInvitees := by
    intro q s hq
    refine ⟨h.knownInvitees q s hq, ?_⟩
    rintro rfl
    rw [hp.invitee] at hq
    cases hq
  knownActive := by
    intro q tick hq
    refine ⟨h.knownActive q tick hq, ?_⟩
    rintro rfl
    rw [hp.active] at hq
    cases hq

theorem disbandParty (h : Sound registered t) (l : ℕ) : Sound registered (t.disbandParty l) where
  apart := by
    intro p k hp hk
    rw [mem_leaders_disbandParty] at hp
    rw [memberOf_disbandParty] at hk
    exact h.apart p k hp.1 hk.1
  led := by
    intro p k hk
    rw [memberOf_disbandParty] at hk
    exact mem_leaders_disbandParty.mpr ⟨h.led p k hk.1, hk.2⟩
  issued := by
    intro p k hk
    rw [invited_disbandParty] at hk
    exact mem_leaders_disbandParty.mpr ⟨h.issued p k hk.1, hk.2⟩
  requested := by
    intro k hk
    rw [mem_requested_disbandParty] at hk
    exact mem_leaders_disbandParty.mpr ⟨h.requested k hk.1, hk.2⟩
  knownLeaders := fun k hk => h.knownLeaders k (mem_leaders_disbandParty.mp hk).1
  knownMembers := fun p k hk => h.knownMembers p k (memberOf_disbandParty.mp hk).1
  knownInvitees := by
    intro p s hs
    obtain ⟨before, hbefore, -⟩ := invitations_disbandParty.mp hs
    exact h.knownInvitees p before hbefore
  knownActive := fun p tick hp => h.knownActive p tick (ticks_disbandParty hp)

theorem disbandPartyIfEmpty (h : Sound registered t) (l : ℕ) :
    Sound registered (t.disbandPartyIfEmpty l) := by
  unfold PartyTables.disbandPartyIfEmpty
  split
  · exact h.disbandParty l
  · exact h

theorem changeLeader (h : Sound registered t) (hn : t.MemberOf n l) :
    Sound registered (t.changeLeader l n) where
  apart := by
    intro p k hp hk
    rw [mem_leaders_changeLeader] at hp
    rw [memberOf_changeLeader] at hk
    rcases hp with hp | ⟨hp, -⟩
    · exact hk.1 hp
    · rcases hk.2 with hk | hk
      · exact h.apart p k hp hk.1
      · exact h.apart p l hp hk.1
  led := by
    intro p k hk
    rw [memberOf_changeLeader] at hk
    rw [mem_leaders_changeLeader]
    rcases hk.2 with hk | hk
    · exact .inr ⟨h.led p k hk.1, hk.2⟩
    · exact .inl hk.2
  issued := by
    intro p k hk
    rw [invited_changeLeader] at hk
    rw [mem_leaders_changeLeader]
    rcases hk with hk | hk
    · exact .inr ⟨h.issued p k hk.1, hk.2⟩
    · exact .inl hk.2
  requested := by
    intro k hk
    rw [mem_requested_changeLeader] at hk
    rw [mem_leaders_changeLeader]
    rcases hk with hk | hk
    · exact .inr ⟨h.requested k hk.1, hk.2⟩
    · exact .inl hk.2
  knownLeaders := by
    intro k hk
    rcases mem_leaders_changeLeader.mp hk with rfl | hk
    · exact h.knownMembers k l hn
    · exact h.knownLeaders k hk.1
  knownMembers := by
    intro p k hk
    rcases (memberOf_changeLeader.mp hk).2 with hk | hk
    · exact h.knownMembers p k hk.1
    · exact h.knownMembers p l hk.1
  knownInvitees := by
    intro p s hs
    obtain ⟨before, hbefore, -⟩ := invitations_changeLeader.mp hs
    exact h.knownInvitees p before hbefore
  knownActive := h.knownActive

theorem removePartyLeader (h : Sound registered t) (l : ℕ) :
    Sound registered (t.removePartyLeader l) := by
  rcases removePartyLeader_cases t l with ⟨n, hn, heq⟩ | ⟨-, heq⟩
  · rw [heq]
    exact h.changeLeader hn
  · rw [heq]
    exact h.disbandParty l

/-- A player outside of every party becomes a member. -/
theorem join (h : Sound registered t) (hq : q ∉ t.leaders) (hl : l ∈ t.leaders)
    (hknown : registered q) : Sound registered { t with memberships := t.memberships.insert q l } where
  apart := by
    intro p k hp hk
    rcases (memberOf_insert t q l).mp hk with ⟨rfl, -⟩ | ⟨-, hk⟩
    · exact hq hp
    · exact h.apart p k hp hk
  led := by
    intro p k hk
    rcases (memberOf_insert t q l).mp hk with ⟨-, rfl⟩ | ⟨-, hk⟩
    · exact hl
    · exact h.led p k hk
  issued := h.issued
  requested := h.requested
  knownLeaders := h.knownLeaders
  knownMembers := by
    intro p k hk
    rcases (memberOf_insert t q l).mp hk with ⟨rfl, -⟩ | ⟨-, hk⟩
    · exact hknown
    · exact h.knownMembers p k hk
  knownInvitees := h.knownInvitees
  knownActive := h.knownActive

theorem removeMember (h : Sound registered t) (q : ℕ) :
    Sound registered { t with memberships := t.memberships.erase q } where
  apart := fun p k hp hk => h.apart p k hp ((memberOf_erase t q).mp hk).2
  led := fun p k hk => h.led p k ((memberOf_erase t q).mp hk).2
  issued := h.issued
  requested := h.requested
  knownLeaders := h.knownLeaders
  knownMembers := fun p k hk => h.knownMembers p k ((memberOf_erase t q).mp hk).2
  knownInvitees := h.knownInvitees
  knownActive := h.knownActive

/-- Invitations that are left over name the leaders they named before. -/
theorem invitations (h : Sound registered t) {invitations : BTreeMap ℕ (BTreeSet ℕ)}
    (hissued : ∀ p k, ({ t with invitations } : PartyTables).Invited p k → k ∈ t.leaders)
    (hknown : ∀ (p : ℕ) s, invitations[p]? = some s → registered p) :
    Sound registered { t with invitations } where
  apart := h.apart
  led := h.led
  issued := hissued
  requested := h.requested
  knownLeaders := h.knownLeaders
  knownMembers := h.knownMembers
  knownInvitees := hknown
  knownActive := h.knownActive

theorem eraseInvitations (h : Sound registered t) (p : ℕ) :
    Sound registered { t with invitations := t.invitations.erase p } := by
  refine h.invitations (fun q k hk => h.issued q k ((invited_erase t p).mp hk).2) fun q s hs => ?_
  rw [Std.ExtTreeMap.getElem?_erase] at hs
  split at hs
  · cases hs
  · exact h.knownInvitees q s hs

theorem ticks (h : Sound registered t) {ticks : BTreeMap ℕ ℕ}
    (hknown : ∀ (p : ℕ) tick, ticks[p]? = some tick → registered p) :
    Sound registered { t with sharedExperienceActivityTicks := ticks } where
  apart := h.apart
  led := h.led
  issued := h.issued
  requested := h.requested
  knownLeaders := h.knownLeaders
  knownMembers := h.knownMembers
  knownInvitees := h.knownInvitees
  knownActive := hknown

theorem requests (h : Sound registered t) {requests : BTreeSet ℕ}
    (hlive : ∀ l, l ∈ requests → l ∈ t.leaders) :
    Sound registered { t with sharedExperienceRequested := requests } where
  apart := h.apart
  led := h.led
  issued := h.issued
  requested := hlive
  knownLeaders := h.knownLeaders
  knownMembers := h.knownMembers
  knownInvitees := h.knownInvitees
  knownActive := h.knownActive

/-- A player outside of every party becomes a leader. -/
theorem lead (h : Sound registered t) (hl : ∀ k, ¬t.MemberOf l k) (hknown : registered l) :
    Sound registered { t with leaders := t.leaders.insert l } where
  apart := by
    intro p k hp hk
    rcases OrderedMap.set_mem_insert.mp hp with rfl | hp
    · exact hl k hk
    · exact h.apart p k hp hk
  led := fun p k hk => OrderedMap.set_mem_insert.mpr (.inr (h.led p k hk))
  issued := fun p k hk => OrderedMap.set_mem_insert.mpr (.inr (h.issued p k hk))
  requested := fun k hk => OrderedMap.set_mem_insert.mpr (.inr (h.requested k hk))
  knownLeaders := by
    intro k hk
    rcases OrderedMap.set_mem_insert.mp hk with rfl | hk
    · exact hknown
    · exact h.knownLeaders k hk
  knownMembers := h.knownMembers
  knownInvitees := h.knownInvitees
  knownActive := h.knownActive

theorem invite (h : Sound registered t) (hl : registered l) (hp : registered p)
    (hok : t.invite l p = .ok t') : Sound registered t' := by
  obtain ⟨-, hmember, -, -, rfl⟩ := invite_eq_ok hok
  refine (h.lead hmember hl).invitations (fun q k hk => ?_) fun q s hs => ?_
  · rcases (invited_insert t p _).mp hk with ⟨-, hk⟩ | ⟨-, hk⟩
    · rcases OrderedMap.set_mem_insert.mp hk with rfl | hk
      · exact OrderedMap.set_mem_insert.mpr (.inl rfl)
      · exact OrderedMap.set_mem_insert.mpr (.inr (h.issued p k ((mem_inviting p k).mp hk)))
    · exact OrderedMap.set_mem_insert.mpr (.inr (h.issued q k hk))
  · simp only [Std.ExtTreeMap.getElem?_insert, Std.LawfulEqCmp.compare_eq_iff_eq] at hs
    split at hs
    · rename_i heq
      exact heq ▸ hp
    · exact h.knownInvitees q s hs

theorem accept (h : Sound registered t) (hp : registered p) (hok : t.accept p l = .ok t') :
    Sound registered t' := by
  obtain ⟨-, hfree, -, hl, rfl⟩ := accept_eq_ok hok
  have hdone := (h.eraseInvitations p).join (q := p) (l := l) hfree hl hp
  exact foldl_disbandPartyIfEmpty (fun _ k h => h.disbandPartyIfEmpty k) _ hdone

theorem leave (h : Sound registered t) (hok : t.leave p = some t') : Sound registered t' := by
  rcases leave_cases hok with ⟨-, rfl⟩ | ⟨l, -, rfl⟩
  · exact h.removePartyLeader p
  · exact (h.removeMember p).disbandPartyIfEmpty l

theorem transferLeadership (h : Sound registered t) (hok : t.transferLeadership l n = .ok t') :
    Sound registered t' := by
  obtain ⟨hne, hl, hn, rfl⟩ := transferLeadership_eq_ok hok
  refine (h.changeLeader hn).join (q := l) (l := n) ?_ ?_ (h.knownLeaders l hl)
  · simp [hne]
  · simp

theorem revoke (h : Sound registered t) (hok : t.revoke l p = .ok t') : Sound registered t' := by
  obtain ⟨-, ⟨before, hbefore, -⟩, rfl⟩ := revoke_eq_ok hok
  refine Sound.disbandPartyIfEmpty ?_ l
  refine h.invitations (fun q k hk => h.issued q k (invited_withoutInvitation.mp hk).1)
    fun q s hs => ?_
  split at hs
  · rw [Std.ExtTreeMap.getElem?_erase] at hs
    split at hs
    · cases hs
    · exact h.knownInvitees q s hs
  · simp only [Std.ExtTreeMap.getElem?_insert, Std.LawfulEqCmp.compare_eq_iff_eq] at hs
    split at hs
    · rename_i heq
      exact heq ▸ h.knownInvitees p before hbefore
    · exact h.knownInvitees q s hs

theorem attach (h : Sound registered t) {members : List ℕ} (hl : registered l)
    (hmember : ∀ k, ¬t.MemberOf l k) (hself : l ∉ members)
    (hfree : ∀ m ∈ members, registered m ∧ m ∉ t.leaders) :
    Sound registered (t.attach l members) where
  apart := by
    intro p k hp hk
    rw [mem_leaders_attach] at hp
    rw [memberOf_attach] at hk
    rcases hk with ⟨hmem, -⟩ | ⟨-, hk⟩
    · rcases hp with rfl | hp
      · exact hself hmem
      · exact (hfree p hmem).2 hp
    · rcases hp with rfl | hp
      · exact hmember k hk
      · exact h.apart p k hp hk
  led := by
    intro p k hk
    rw [mem_leaders_attach]
    rcases (memberOf_attach t l members).mp hk with ⟨-, rfl⟩ | ⟨-, hk⟩
    · exact .inl rfl
    · exact .inr (h.led p k hk)
  issued := fun p k hk => (mem_leaders_attach t l members).mpr (.inr (h.issued p k hk))
  requested := fun k hk => (mem_leaders_attach t l members).mpr (.inr (h.requested k hk))
  knownLeaders := by
    intro k hk
    rcases (mem_leaders_attach t l members).mp hk with rfl | hk
    · exact hl
    · exact h.knownLeaders k hk
  knownMembers := by
    intro p k hk
    rcases (memberOf_attach t l members).mp hk with ⟨hmem, -⟩ | ⟨-, hk⟩
    · exact (hfree p hmem).1
    · exact h.knownMembers p k hk
  knownInvitees := h.knownInvitees
  knownActive := h.knownActive

/-- What a logout begins with. -/
theorem inactive (h : Sound registered t) (p : ℕ) : Sound registered { t with
    sharedExperienceActivityTicks := t.sharedExperienceActivityTicks.erase p } := by
  refine h.ticks fun q tick hq => ?_
  rw [Std.ExtTreeMap.getElem?_erase] at hq
  split at hq
  · cases hq
  · exact h.knownActive q tick hq

/-- What a logout goes on with: the player leaves his party, if he has one. -/
theorem leaveAny (h : Sound registered t) (p : ℕ) : Sound registered ((t.leave p).getD t) := by
  cases hleave : t.leave p with
  | none => exact h
  | some t' => exact h.leave hleave

theorem dropInvitations (h : Sound registered t) (p : ℕ) :
    Sound registered (t.dropInvitations p) :=
  foldl_disbandPartyIfEmpty (fun _ k h => h.disbandPartyIfEmpty k) _ (h.eraseInvitations p)

theorem clearPlayerPartyState (h : Sound registered t) (p : ℕ) :
    Sound registered (t.clearPlayerPartyState p) :=
  ((h.inactive p).leaveAny p).dropInvitations p

/-- Who leaves his party is in none afterwards. -/
theorem outside_leaveAny (h : Sound registered t) (p : ℕ) :
    p ∉ ((t.leave p).getD t).leaders ∧ ∀ l, ¬((t.leave p).getD t).MemberOf p l := by
  cases hleave : t.leave p with
  | none =>
    unfold PartyTables.leave at hleave
    split at hleave
    · cases hleave
    · rename_i hleader
      refine ⟨hleader, fun l hl => ?_⟩
      rw [show t.memberships[p]? = some l from hl] at hleave
      cases hleave
  | some t' =>
    rw [Option.getD_some]
    rcases leave_cases hleave with ⟨hp, rfl⟩ | ⟨l, hl, rfl⟩
    · rcases removePartyLeader_cases t p with ⟨n, hn, heq⟩ | ⟨-, heq⟩
      · rw [heq]
        refine ⟨fun hmem => ?_, fun l hl => ?_⟩
        · rcases mem_leaders_changeLeader.mp hmem with rfl | ⟨-, hne⟩
          · exact h.apart p p hp hn
          · exact hne rfl
        · rcases (memberOf_changeLeader.mp hl).2 with hl | hl
          · exact h.apart p l hp hl.1
          · exact h.apart p p hp hl.1
      · rw [heq]
        refine ⟨fun hmem => (mem_leaders_disbandParty.mp hmem).2 rfl, fun l hl => ?_⟩
        exact h.apart p l hp (memberOf_disbandParty.mp hl).1
    · refine ⟨fun hmem => ?_, fun k hk => ?_⟩
      · exact h.apart p l (mem_leaders_disbandPartyIfEmpty.mp hmem).1 hl
      · exact ((memberOf_erase t p).mp (memberOf_disbandPartyIfEmpty.mp hk)).1 rfl

/-- **A player who logs out is in none of the party tables.** -/
theorem absent_clearPlayerPartyState (h : Sound registered t) (p : ℕ) :
    (t.clearPlayerPartyState p).Absent p := by
  have hinactive := h.inactive p
  obtain ⟨hleader, hmember⟩ := hinactive.outside_leaveAny p
  have hticks : ({ t with sharedExperienceActivityTicks :=
      t.sharedExperienceActivityTicks.erase p } : PartyTables).sharedExperienceActivityTicks[p]? =
        none := by simp
  generalize ht : ({ t with sharedExperienceActivityTicks :=
    t.sharedExperienceActivityTicks.erase p } : PartyTables) = idle at hleader hmember hticks
  have hleft : ((idle.leave p).getD idle).sharedExperienceActivityTicks[p]? = none := by
    rw [Option.eq_none_iff_forall_not_mem] at hticks ⊢
    intro tick htick
    cases hleave : idle.leave p with
    | none =>
      rw [hleave] at htick
      exact hticks tick htick
    | some t' =>
      rw [hleave] at htick
      exact hticks tick (ticks_leave hleave htick)
  have hout : ({ (idle.leave p).getD idle with
      invitations := ((idle.leave p).getD idle).invitations.erase p } : PartyTables).Absent p :=
    ⟨hleader, hmember, by simp, hleft⟩
  unfold PartyTables.clearPlayerPartyState
  rw [ht]
  refine foldl_disbandPartyIfEmpty (P := fun t => t.Absent p) (fun t l hp => ?_) _ hout
  refine ⟨fun hmem => ?_, fun k hk => ?_, ?_, ?_⟩
  · exact hp.leader (mem_leaders_disbandPartyIfEmpty.mp hmem).1
  · exact hp.member k (memberOf_disbandPartyIfEmpty.mp hk)
  · rw [Option.eq_none_iff_forall_not_mem]
    intro leaders hleaders
    obtain ⟨before, hbefore⟩ := invitations_disbandPartyIfEmpty hleaders
    rw [hp.invitee] at hbefore
    cases hbefore
  · rw [Option.eq_none_iff_forall_not_mem]
    intro tick htick
    have hbefore := ticks_disbandPartyIfEmpty htick
    rw [hp.active] at hbefore
    cases hbefore

end Sound

/-! ### Parties that nobody is left in -/

/-- A leader who leaves would leave a single member behind, and nobody invited. -/
def LeavesOneBehind (t : PartyTables) (l : ℕ) : Prop :=
  l ∈ t.leaders ∧ (t.memberIds l).length = 1 ∧ ¬t.hasInvitations l

instance (t : PartyTables) (l : ℕ) : Decidable (t.LeavesOneBehind l) :=
  inferInstanceAs (Decidable (_ ∧ _ ∧ _))

theorem nodup_memberIds (t : PartyTables) (l : ℕ) : (t.memberIds l).Nodup :=
  (OrderedMap.nodup_keys t.memberships).sublist (List.filter_sublist.map Prod.fst)

/-- The members beside one of them. -/
theorem other_member (hn : t.MemberOf n l) (h : (t.memberIds l).length ≠ 1) :
    ∃ q, q ≠ n ∧ t.MemberOf q l := by
  have hnodup := nodup_memberIds t l
  have hmem := mem_memberIds.mpr hn
  by_contra hnone
  have hall : ∀ q ∈ t.memberIds l, q = n := by
    intro q hq
    by_contra hne
    exact hnone ⟨q, hne, mem_memberIds.mp hq⟩
  rw [List.eq_replicate_of_mem hall, List.nodup_replicate] at hnodup
  have hpos := List.length_pos_of_mem hmem
  omega

@[simp] theorem lone_disbandPartyIfEmpty :
    (t.disbandPartyIfEmpty l).Lone k ↔ t.Lone k ∧ k ≠ l := by
  simp only [Lone, mem_leaders_disbandPartyIfEmpty, deserted_disbandPartyIfEmpty]
  grind

/-- The leaders asked about are not left alone. -/
@[simp] theorem lone_foldl (ids : List ℕ) :
    (ids.foldl disbandPartyIfEmpty t).Lone k ↔ t.Lone k ∧ k ∉ ids := by
  induction ids generalizing t with
  | nil => simp
  | cons id ids ih =>
    rw [List.foldl_cons, ih, lone_disbandPartyIfEmpty, List.mem_cons, not_or, and_assoc]

theorem lone_disbandParty (h : (t.disbandParty l).Lone k) : t.Lone k := by
  obtain ⟨hk, hdeserted⟩ := h
  rw [mem_leaders_disbandParty] at hk
  refine ⟨hk.1, fun q => ?_⟩
  have hq := hdeserted q
  rw [memberOf_disbandParty, invited_disbandParty] at hq
  exact ⟨fun hm => hq.1 ⟨hm, hk.2⟩, fun hi => hq.2 ⟨hi, hk.2⟩⟩

/-- The new leader is alone when the party has no other member and nobody is invited. -/
theorem lone_changeLeader (hn : t.MemberOf n l) (h : (t.changeLeader l n).Lone k) :
    t.Lone k ∨ (k = n ∧ (∀ q, q ≠ n → ¬t.MemberOf q l) ∧ ∀ q, ¬t.Invited q l) := by
  obtain ⟨hk, hdeserted⟩ := h
  by_cases hkn : k = n
  · subst hkn
    refine .inr ⟨rfl, fun q hne hq => ?_, fun q hq => ?_⟩
    · exact (hdeserted q).1 (memberOf_changeLeader.mpr ⟨hne, .inr ⟨hq, rfl⟩⟩)
    · exact (hdeserted q).2 (invited_changeLeader.mpr (.inr ⟨hq, rfl⟩))
  · obtain ⟨hleader, hne⟩ := (mem_leaders_changeLeader.mp hk).resolve_left hkn
    refine .inl ⟨hleader, fun q => ⟨fun hq => ?_, fun hq => ?_⟩⟩
    · have hqn : q ≠ n := by
        rintro rfl
        exact hne (hq.unique hn)
      exact (hdeserted q).1 (memberOf_changeLeader.mpr ⟨hqn, .inl ⟨hq, hne⟩⟩)
    · exact (hdeserted q).2 (invited_changeLeader.mpr (.inl ⟨hq, hne⟩))

theorem lone_invite (hok : t.invite l p = .ok t') (h : t'.Lone k) : t.Lone k := by
  obtain ⟨-, -, -, -, rfl⟩ := invite_eq_ok hok
  obtain ⟨hk, hdeserted⟩ := h
  have hinvited : ∀ q, (t.Invited q k ∨ (q = p ∧ k = l)) → False := by
    intro q hq
    refine (hdeserted q).2 ((invited_insert t p _).mpr ?_)
    rw [OrderedMap.set_mem_insert, mem_inviting]
    by_cases hqp : q = p
    · subst hqp
      rcases hq with hq | ⟨-, rfl⟩
      · exact .inl ⟨rfl, .inr hq⟩
      · exact .inl ⟨rfl, .inl rfl⟩
    · exact .inr ⟨hqp, hq.resolve_right fun hand => hqp hand.1⟩
  rcases OrderedMap.set_mem_insert.mp hk with rfl | hk
  · exact (hinvited p (.inr ⟨rfl, rfl⟩)).elim
  · exact ⟨hk, fun q => ⟨(hdeserted q).1, fun hq => hinvited q (.inl hq)⟩⟩

theorem lone_accept (hok : t.accept p l = .ok t') (h : t'.Lone k) : t.Lone k := by
  obtain ⟨-, -, hfree, -, rfl⟩ := accept_eq_ok hok
  rw [lone_foldl, List.mem_filter, Std.ExtTreeSet.mem_toList, mem_inviting] at h
  obtain ⟨⟨hk, hdeserted⟩, hasked⟩ := h
  have hkl : k ≠ l := by
    rintro rfl
    exact (hdeserted p).1 ((memberOf_insert t p k).mpr (.inl ⟨rfl, rfl⟩))
  refine ⟨hk, fun q => ⟨fun hq => ?_, fun hq => ?_⟩⟩
  · have hqp : q ≠ p := by
      rintro rfl
      exact hfree k hq
    exact (hdeserted q).1 ((memberOf_insert t p l).mpr (.inr ⟨hqp, hq⟩))
  · by_cases hqp : q = p
    · exact hasked ⟨hqp ▸ hq, by simpa using hkl⟩
    · exact (hdeserted q).2 ((invited_erase t p).mpr ⟨hqp, hq⟩)

/-- **A leader who leaves one member behind leaves him alone**; nobody else who leaves does. -/
theorem lone_leave (hbehind : ¬t.LeavesOneBehind p) (hok : t.leave p = some t')
    (h : t'.Lone k) : t.Lone k := by
  rcases leave_cases hok with ⟨hp, rfl⟩ | ⟨l, hl, rfl⟩
  · rcases removePartyLeader_cases t p with ⟨n, hn, heq⟩ | ⟨-, heq⟩
    · rw [heq] at h
      rcases lone_changeLeader hn h with h | ⟨rfl, hmembers, hinvited⟩
      · exact h
      · refine absurd ⟨hp, ?_, fun hany => ?_⟩ hbehind
        · by_contra hlength
          obtain ⟨q, hne, hq⟩ := other_member hn hlength
          exact hmembers q hne hq
        · obtain ⟨q, hq⟩ := hasInvitations_iff.mp hany
          exact hinvited q hq
    · rw [heq] at h
      exact lone_disbandParty h
  · rw [removePartyMember, lone_disbandPartyIfEmpty] at h
    obtain ⟨⟨hk, hdeserted⟩, hne⟩ := h
    refine ⟨hk, fun q => ⟨fun hq => ?_, (hdeserted q).2⟩⟩
    have hqp : q ≠ p := by
      rintro rfl
      exact hne (hq.unique hl)
    exact (hdeserted q).1 ((memberOf_erase t p).mpr ⟨hqp, hq⟩)

theorem lone_transferLeadership (hsound : Sound registered t)
    (hok : t.transferLeadership l n = .ok t') (h : t'.Lone k) : t.Lone k := by
  obtain ⟨-, hl, hn, rfl⟩ := transferLeadership_eq_ok hok
  obtain ⟨hk, hdeserted⟩ := h
  have hkn : k ≠ n := by
    rintro rfl
    exact (hdeserted l).1 ((memberOf_insert _ l k).mpr (.inl ⟨rfl, rfl⟩))
  have hbefore : (t.changeLeader l n).Lone k := by
    refine ⟨hk, fun q => ⟨fun hq => ?_, (hdeserted q).2⟩⟩
    have hql : q ≠ l := by
      rintro rfl
      rcases (memberOf_changeLeader.mp hq).2 with hq | hq
      · exact hsound.apart q k hl hq.1
      · exact hkn hq.2
    exact (hdeserted q).1 ((memberOf_insert _ l n).mpr (.inr ⟨hql, hq⟩))
  exact (lone_changeLeader hn hbefore).resolve_right fun hand => hkn hand.1

theorem lone_revoke (hok : t.revoke l p = .ok t') (h : t'.Lone k) : t.Lone k := by
  obtain ⟨-, -, rfl⟩ := revoke_eq_ok hok
  rw [lone_disbandPartyIfEmpty] at h
  obtain ⟨⟨hk, hdeserted⟩, hne⟩ := h
  refine ⟨hk, fun q => ⟨(hdeserted q).1, fun hq => ?_⟩⟩
  exact (hdeserted q).2 (invited_withoutInvitation.mpr ⟨hq, fun hand => hne hand.2⟩)

/-- Attaching somebody leaves nobody alone. -/
theorem lone_attach {members : List ℕ} (hsome : members ≠ [])
    (hfree : ∀ m ∈ members, ∀ k, ¬t.MemberOf m k) (h : (t.attach l members).Lone k) :
    t.Lone k := by
  obtain ⟨hk, hdeserted⟩ := h
  obtain ⟨m, hm⟩ := List.exists_mem_of_ne_nil members hsome
  rcases (mem_leaders_attach t l members).mp hk with rfl | hk
  · exact absurd ((memberOf_attach t k members).mpr (.inl ⟨hm, rfl⟩)) (hdeserted m).1
  · refine ⟨hk, fun q => ⟨fun hq => ?_, (hdeserted q).2⟩⟩
    have hout : q ∉ members := fun hmem => hfree q hmem k hq
    exact (hdeserted q).1 ((memberOf_attach t l members).mpr (.inr ⟨hout, hq⟩))

theorem lone_dropInvitations (h : (t.dropInvitations p).Lone k) : t.Lone k := by
  rw [dropInvitations, lone_foldl, Std.ExtTreeSet.mem_toList, mem_inviting] at h
  obtain ⟨⟨hk, hdeserted⟩, hasked⟩ := h
  refine ⟨hk, fun q => ⟨(hdeserted q).1, fun hq => ?_⟩⟩
  by_cases hqp : q = p
  · exact hasked (hqp ▸ hq)
  · exact (hdeserted q).2 ((invited_erase t p).mpr ⟨hqp, hq⟩)

theorem lone_clearPlayerPartyState (hbehind : ¬t.LeavesOneBehind p)
    (h : (t.clearPlayerPartyState p).Lone k) : t.Lone k := by
  have h := lone_dropInvitations h
  generalize hidle : ({ t with sharedExperienceActivityTicks :=
    t.sharedExperienceActivityTicks.erase p } : PartyTables) = idle at h
  have hsame : idle.Lone k → t.Lone k := by
    rw [← hidle]
    exact id
  have hbehind' : ¬idle.LeavesOneBehind p := by
    rw [← hidle]
    exact hbehind
  cases hleave : idle.leave p with
  | none =>
    rw [hleave] at h
    exact hsame h
  | some t' =>
    rw [hleave] at h
    exact hsame (lone_leave hbehind' hleave h)

/-! ### Invitations from outside -/

namespace Settled

theorem empty : Settled .empty where
  inside := by simp [PartyTables.empty, MemberOf]
  own := by simp [PartyTables.empty, Invited]

/-- Fewer members and fewer invitations. -/
theorem mono (h : Settled t) (hmember : ∀ p l, t'.MemberOf p l → t.MemberOf p l)
    (hinvited : ∀ p l, t'.Invited p l → t.Invited p l) : Settled t' where
  inside := fun p l hm hi => h.inside p l (hmember p l hm) (hinvited p l hi)
  own := fun p hi => h.own p (hinvited p p hi)

theorem disbandPartyIfEmpty (h : Settled t) (l : ℕ) : Settled (t.disbandPartyIfEmpty l) :=
  h.mono (fun _ _ hm => memberOf_disbandPartyIfEmpty.mp hm)
    fun _ _ hi => invited_disbandPartyIfEmpty.mp hi

/-- A member of the party was not invited to it, and a member invites nobody. -/
theorem changeLeader (h : Settled t) (hsound : Sound registered t) (hn : t.MemberOf n l) :
    Settled (t.changeLeader l n) where
  inside := by
    intro p k hm hi
    rw [memberOf_changeLeader] at hm
    rw [invited_changeLeader] at hi
    rcases hm.2 with ⟨hm, hkl⟩ | ⟨hm, hkn⟩
    · rcases hi with ⟨hi, -⟩ | ⟨-, hkn⟩
      · exact h.inside p k hm hi
      · exact hsound.apart k l (hkn ▸ hsound.led p k hm) (hkn ▸ hn)
    · rcases hi with ⟨hi, -⟩ | ⟨hi, -⟩
      · exact hsound.apart n l (hkn ▸ hsound.issued p k hi) hn
      · exact h.inside p l hm hi
  own := by
    intro p hown
    rcases invited_changeLeader.mp hown with ⟨hi, -⟩ | ⟨hi, rfl⟩
    · exact h.own p hi
    · exact h.inside p l hn hi

theorem invite (h : Settled t) (hok : t.invite l p = .ok t') : Settled t' := by
  obtain ⟨hne, -, -, hfree, rfl⟩ := invite_eq_ok hok
  have hinvited (q k : ℕ) : ({ t with
      invitations := t.invitations.insert p ((t.invitations[p]?.getD ∅).insert l) } :
        PartyTables).Invited q k → t.Invited q k ∨ (q = p ∧ k = l) := by
    intro hi
    rcases (invited_insert t p _).mp hi with ⟨rfl, hk⟩ | ⟨-, hi⟩
    · rw [OrderedMap.set_mem_insert, mem_inviting] at hk
      rcases hk with rfl | hk
      · exact .inr ⟨rfl, rfl⟩
      · exact .inl hk
    · exact .inl hi
  refine ⟨fun q k hm hi => ?_, fun q hi => ?_⟩
  · rcases hinvited q k hi with hi | ⟨rfl, rfl⟩
    · exact h.inside q k hm hi
    · exact hfree k hm
  · rcases hinvited q q hi with hi | ⟨rfl, rfl⟩
    · exact h.own q hi
    · exact hne rfl

theorem accept (h : Settled t) (hok : t.accept p l = .ok t') : Settled t' := by
  obtain ⟨-, -, -, -, rfl⟩ := accept_eq_ok hok
  refine foldl_disbandPartyIfEmpty (fun _ k h => h.disbandPartyIfEmpty k) _ ⟨?_, ?_⟩
  · intro q k hm hi
    have hi := (invited_erase t p).mp hi
    rcases (memberOf_insert t p l).mp hm with ⟨rfl, -⟩ | ⟨-, hm⟩
    · exact hi.1 rfl
    · exact h.inside q k hm hi.2
  · intro q hi
    exact h.own q ((invited_erase t p).mp hi).2

theorem leave (h : Settled t) (hsound : Sound registered t) (hok : t.leave p = some t') :
    Settled t' := by
  rcases leave_cases hok with ⟨-, rfl⟩ | ⟨l, -, rfl⟩
  · rcases removePartyLeader_cases t p with ⟨n, hn, heq⟩ | ⟨-, heq⟩
    · rw [heq]
      exact h.changeLeader hsound hn
    · rw [heq]
      exact h.mono (fun _ _ hm => (memberOf_disbandParty.mp hm).1)
        fun _ _ hi => (invited_disbandParty.mp hi).1
  · refine Settled.disbandPartyIfEmpty ?_ l
    exact h.mono (fun _ _ hm => ((memberOf_erase t p).mp hm).2) fun _ _ hi => hi

theorem transferLeadership (h : Settled t) (hsound : Sound registered t)
    (hok : t.transferLeadership l n = .ok t') : Settled t' := by
  obtain ⟨-, -, hn, rfl⟩ := transferLeadership_eq_ok hok
  have hchanged := h.changeLeader hsound hn
  refine ⟨fun q k hm hi => ?_, hchanged.own⟩
  rcases (memberOf_insert _ l n).mp hm with ⟨rfl, rfl⟩ | ⟨-, hm⟩
  · -- the leader who steps down: neither his own invitation nor one of a member
    rcases invited_changeLeader.mp hi with ⟨hi, -⟩ | ⟨hi, -⟩
    · exact hsound.apart k q (hsound.issued q k hi) hn
    · exact h.own q hi
  · exact hchanged.inside q k hm hi

theorem revoke (h : Settled t) (hok : t.revoke l p = .ok t') : Settled t' := by
  obtain ⟨-, -, rfl⟩ := revoke_eq_ok hok
  refine Settled.disbandPartyIfEmpty ?_ l
  exact h.mono (fun _ _ hm => hm) fun _ _ hi => (invited_withoutInvitation.mp hi).1

/-- **Attached members must not hold the leader's invitation.** -/
theorem attach (h : Settled t) {members : List ℕ} (hfree : ∀ m ∈ members, ¬t.Invited m l) :
    Settled (t.attach l members) where
  inside := by
    intro q k hm hi
    rcases (memberOf_attach t l members).mp hm with ⟨hq, rfl⟩ | ⟨-, hm⟩
    · exact hfree q hq hi
    · exact h.inside q k hm hi
  own := h.own

theorem clearPlayerPartyState (h : Settled t) (hsound : Sound registered t) (p : ℕ) :
    Settled (t.clearPlayerPartyState p) := by
  have hidle : Settled { t with sharedExperienceActivityTicks :=
      t.sharedExperienceActivityTicks.erase p } := h.mono (fun _ _ hm => hm) fun _ _ hi => hi
  have hsound' := hsound.inactive p
  unfold PartyTables.clearPlayerPartyState
  generalize ({ t with sharedExperienceActivityTicks :=
    t.sharedExperienceActivityTicks.erase p } : PartyTables) = idle at hidle hsound'
  refine foldl_disbandPartyIfEmpty (fun _ k h => h.disbandPartyIfEmpty k) _ ?_
  refine mono (t := (idle.leave p).getD idle) ?_ (fun _ _ hm => hm)
    fun _ _ hi => ((invited_erase _ p).mp hi).2
  cases hleave : idle.leave p with
  | none => exact hidle
  | some t' => exact hidle.leave hsound' hleave

end Settled

end PartyTables

end ForgottenEngine
