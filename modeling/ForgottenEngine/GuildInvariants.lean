import ForgottenEngine.Guilds

/-!
# What holds of every guild

A dozen operations write the four guild tables, and each restores another part of one invariant,
`Sound`: every member has a rank of its own guild, every guild its three ranks and its owner as the
only leader, and no member is invited anywhere.

Two operations can break it.  A guild may be founded by a player who is invited to another one, and
a rank may be given to whoever is a member.  `guildsConsistent`: in every run in which founders are
not invited, and only the owner is given the leader's rank and never another one, the guilds stay
consistent.
-/

namespace ForgottenEngine

open Fallible Guild

namespace GuildDatabase

/-- What a guild relies on. -/
structure Sound (db : GuildDatabase) : Prop where
  rankOfGuild : ∀ r ∈ db.guildRanks, ∃ g ∈ db.guilds, g.id = r.guildId
  memberOfGuild : ∀ m ∈ db.guildMembership, ∃ g ∈ db.guilds, g.id = m.guildId
  invitedToGuild : ∀ i ∈ db.guildInvitations, ∃ g ∈ db.guilds, g.id = i.guildId
  memberRank : ∀ m ∈ db.guildMembership,
    ∃ r ∈ db.guildRanks, r.id = m.rankId ∧ r.guildId = m.guildId
  baseRanks : ∀ g ∈ db.guilds, ∀ level, 1 ≤ level → level ≤ 3 →
    ∃ r ∈ db.guildRanks, r.guildId = g.id ∧ r.level = level
  rankBound : ∀ guildId, db.guildRanks.countWhere (·.guildId = guildId) ≤ maxGuildRanksPerGuild
  invitationBound : ∀ guildId,
    db.guildInvitations.countWhere (·.guildId = guildId) ≤ maxGuildInvitationsPerGuild
  ownerLeads : ∀ g ∈ db.guilds, ∃ m ∈ db.guildMembership, m.playerId = g.ownerPlayerId ∧
    m.guildId = g.id ∧ ∃ r ∈ db.guildRanks, r.id = m.rankId ∧ r.level = 3
  onlyOwnerLeads : ∀ m ∈ db.guildMembership, ∀ r ∈ db.guildRanks, r.id = m.rankId → r.level = 3 →
    ∀ g ∈ db.guilds, g.id = m.guildId → g.ownerPlayerId = m.playerId
  uninvited : ∀ m ∈ db.guildMembership, ∀ i ∈ db.guildInvitations, i.playerId ≠ m.playerId

/-- The member holds a rank of its guild, at the level. -/
def HoldsLevel (db : GuildDatabase) (m : GuildMembershipRecord) (level : ℕ) : Prop :=
  ∃ r ∈ db.guildRanks, r.id = m.rankId ∧ r.guildId = m.guildId ∧ r.level = level

/-- What is promised of the guilds. -/
structure Consistent (db : GuildDatabase) : Prop where
  memberRank : ∀ m ∈ db.guildMembership,
    ∃ r ∈ db.guildRanks, r.id = m.rankId ∧ r.guildId = m.guildId
  baseRanks : ∀ g ∈ db.guilds, ∀ level, 1 ≤ level → level ≤ 3 →
    ∃ r ∈ db.guildRanks, r.guildId = g.id ∧ r.level = level
  ranksDistinct : ∀ a ∈ db.guildRanks, ∀ b ∈ db.guildRanks, a.guildId = b.guildId →
    a.name = b.name ∨ a.level = b.level → a = b
  rankBound : ∀ guildId, db.guildRanks.countWhere (·.guildId = guildId) ≤ maxGuildRanksPerGuild
  invitationBound : ∀ guildId,
    db.guildInvitations.countWhere (·.guildId = guildId) ≤ maxGuildInvitationsPerGuild
  ownerLeads : ∀ g ∈ db.guilds, ∃ m ∈ db.guildMembership, m.playerId = g.ownerPlayerId ∧
    m.guildId = g.id ∧ db.HoldsLevel m 3
  onlyOwnerLeads : ∀ m ∈ db.guildMembership, db.HoldsLevel m 3 →
    ∀ g ∈ db.guilds, g.id = m.guildId → g.ownerPlayerId = m.playerId
  oneGuild : ∀ a ∈ db.guildMembership, ∀ b ∈ db.guildMembership, a.playerId = b.playerId → a = b
  uninvited : ∀ m ∈ db.guildMembership, ∀ i ∈ db.guildInvitations, i.playerId ≠ m.playerId

/-! ### Keys -/

section Keys

variable {db : GuildDatabase}

theorem guild_eq {a b : GuildRecord} (ha : a ∈ db.guilds) (hb : b ∈ db.guilds) (h : a.id = b.id) :
    a = b := by
  refine Rows.eq_of_clash (fun a b => ?_) ha hb ?_
  · simp only [GuildRecord.clashes, eq_comm]
  · simp [GuildRecord.clashes, h]

theorem rank_eq {a b : GuildRankRecord} (ha : a ∈ db.guildRanks) (hb : b ∈ db.guildRanks)
    (h : a.id = b.id ∨ a.guildId = b.guildId ∧ (a.level = b.level ∨ a.name = b.name)) : a = b := by
  refine Rows.eq_of_clash (fun a b => ?_) ha hb ?_
  · simp only [GuildRankRecord.clashes, eq_comm]
  · simpa [GuildRankRecord.clashes] using h

theorem member_eq {a b : GuildMembershipRecord} (ha : a ∈ db.guildMembership)
    (hb : b ∈ db.guildMembership) (h : a.playerId = b.playerId) : a = b := by
  refine Rows.eq_of_clash (fun a b => ?_) ha hb ?_
  · simp only [GuildMembershipRecord.clashes, eq_comm]
  · simp [GuildMembershipRecord.clashes, h]

theorem Sound.consistent (h : db.Sound) : db.Consistent where
  memberRank := h.memberRank
  baseRanks := h.baseRanks
  ranksDistinct a ha b hb hguild hsame := rank_eq ha hb (.inr ⟨hguild, hsame.symm⟩)
  rankBound := h.rankBound
  invitationBound := h.invitationBound
  ownerLeads := by
    intro g hg
    obtain ⟨m, hm, howner, hguild, r, hr, hid, hlevel⟩ := h.ownerLeads g hg
    obtain ⟨r', hr', hid', hguild'⟩ := h.memberRank m hm
    have hsame : r = r' := rank_eq hr hr' (.inl (hid.trans hid'.symm))
    exact ⟨m, hm, howner, hguild, r, hr, hid, by rw [hsame]; exact hguild', hlevel⟩
  onlyOwnerLeads := by
    rintro m hm ⟨r, hr, hid, _, hlevel⟩
    exact h.onlyOwnerLeads m hm r hr hid hlevel
  oneGuild a ha b hb := member_eq ha hb
  uninvited := h.uninvited

theorem sound_fresh (players : List ℕ) : (GuildDatabase.fresh players).Sound where
  rankOfGuild r hr := absurd hr (Rows.not_mem_empty r)
  memberOfGuild m hm := absurd hm (Rows.not_mem_empty m)
  invitedToGuild i hi := absurd hi (Rows.not_mem_empty i)
  memberRank m hm := absurd hm (Rows.not_mem_empty m)
  baseRanks g hg := absurd hg (Rows.not_mem_empty g)
  rankBound _ := Nat.zero_le _
  invitationBound _ := Nat.zero_le _
  ownerLeads g hg := absurd hg (Rows.not_mem_empty g)
  onlyOwnerLeads m hm := absurd hm (Rows.not_mem_empty m)
  uninvited m hm := absurd hm (Rows.not_mem_empty m)

end Keys

end GuildDatabase

open GuildDatabase

namespace Guild

variable {db db' : GuildDatabase} {guildId playerId : ℕ}

/-! ### Members -/

theorem isMember_false : isMember playerId db = false ↔
    ∀ m ∈ db.guildMembership, m.playerId ≠ playerId := by
  unfold isMember
  rw [Rows.existsWhere_false]
  simp

/-- **A player joins**: without an invitation left, and at a rank that is not the leader's. -/
theorem sound_join {m : GuildMembershipRecord} (h : db.Sound)
    (hfree : ∀ m ∈ db.guildMembership, m.playerId ≠ playerId)
    (hguild : ∃ g ∈ db.guilds, g.id = guildId)
    (hrun : joinAtMemberRank guildId playerId db = (.ok m, db')) : db'.Sound := by
  simp only [joinAtMemberRank, requiredRank, insertMember, deleteInvitations, bind_eq_ok,
    readOr_eq_ok, execute_eq_ok, Option.map_eq_some_iff, write_apply, pure_apply,
    Prod.mk.injEq] at hrun
  obtain ⟨rank, db, ⟨hrank, rfl⟩, _, _, ⟨t, hinsert, rfl⟩, _, _, ⟨-, rfl⟩, -, rfl⟩ := hrun
  obtain ⟨hmem, hlevel⟩ := Rows.find?_mem hrank
  simp only [decide_eq_true_eq] at hlevel
  have hmembers (a : GuildMembershipRecord) := Rows.mem_insert (a := a) hinsert
  have hsame : ∀ r ∈ db.guildRanks, r.id = rank.id → r = rank :=
    fun r hr hid => rank_eq hr hmem (.inl hid)
  constructor
  · exact h.rankOfGuild
  · grind [h.memberOfGuild]
  · grind [h.invitedToGuild, Rows.mem_delete]
  · grind [h.memberRank]
  · exact h.baseRanks
  · exact h.rankBound
  · intro id
    exact le_trans (Rows.countWhere_delete_le _ _ _) (h.invitationBound id)
  · grind [h.ownerLeads]
  · grind [h.onlyOwnerLeads]
  · grind [h.uninvited, Rows.mem_delete]

/-- **Members leave**, and the guilds keep their owners. -/
theorem sound_deleteMembers {p : GuildMembershipRecord → Bool} (h : db.Sound)
    (howners : ∀ g ∈ db.guilds, ∀ m ∈ db.guildMembership, m.playerId = g.ownerPlayerId →
      p m = false) :
    ({ db with guildMembership := db.guildMembership.delete p }).Sound := by
  constructor
  · exact h.rankOfGuild
  · grind [h.memberOfGuild, Rows.mem_delete]
  · exact h.invitedToGuild
  · grind [h.memberRank, Rows.mem_delete]
  · exact h.baseRanks
  · exact h.rankBound
  · exact h.invitationBound
  · grind [h.ownerLeads, Rows.mem_delete]
  · grind [h.onlyOwnerLeads, Rows.mem_delete]
  · grind [h.uninvited, Rows.mem_delete]

/-- **Members get other ranks** of their guilds, and the owner alone the leader's. -/
theorem sound_updateMember {f : GuildMembershipRecord → GuildMembershipRecord}
    {t : Rows GuildMembershipRecord GuildMembershipRecord.clashes} (h : db.Sound)
    (ht : db.guildMembership.update (·.playerId = playerId) f = some t)
    (hplayer : ∀ m, (f m).playerId = m.playerId) (hguild : ∀ m, (f m).guildId = m.guildId)
    (hrank : ∀ m ∈ db.guildMembership, m.playerId = playerId →
      ∃ r ∈ db.guildRanks, r.id = (f m).rankId ∧ r.guildId = m.guildId ∧
        ∀ g ∈ db.guilds, g.id = m.guildId → (g.ownerPlayerId = playerId ↔ r.level = 3)) :
    ({ db with guildMembership := t }).Sound := by
  have hmembers (a : GuildMembershipRecord) := Rows.mem_update (a := a) ht
  have hranks : ∀ r ∈ db.guildRanks, ∀ r' ∈ db.guildRanks, r.id = r'.id → r = r' :=
    fun r hr r' hr' hid => rank_eq hr hr' (.inl hid)
  constructor
  · exact h.rankOfGuild
  · grind [h.memberOfGuild]
  · exact h.invitedToGuild
  · grind [h.memberRank]
  · exact h.baseRanks
  · exact h.rankBound
  · exact h.invitationBound
  · intro g hg
    obtain ⟨m, hm, howner, hid, r, hr, hrid, hlevel⟩ := h.ownerLeads g hg
    by_cases hp : m.playerId = playerId
    · obtain ⟨r', hr', hrid', -, hlead⟩ := hrank m hm hp
      refine ⟨f m, (hmembers _).mpr ⟨m, hm, by simp [hp]⟩, by rw [hplayer, howner],
        by rw [hguild, hid], r', hr', hrid', ?_⟩
      exact (hlead g hg hid.symm).mp (howner.symm.trans hp)
    · exact ⟨m, (hmembers _).mpr ⟨m, hm, by simp [hp]⟩, howner, hid, r, hr, hrid, hlevel⟩
  · grind [h.onlyOwnerLeads]
  · grind [h.uninvited]

theorem addGuildMember_sound {m : GuildMembershipRecord} (h : db.Sound)
    (hrun : addGuildMember guildId playerId db = (.ok m, db')) : db'.Sound := by
  simp only [addGuildMember, transaction_eq_ok, ensurePlayerExists, ensureGuildExists, bind_eq_ok,
    require_eq_ok, Bool.not_eq_true'] at hrun
  obtain ⟨_, _, ⟨-, rfl⟩, _, _, ⟨hguild, rfl⟩, _, db, ⟨hfree, rfl⟩, hjoin⟩ := hrun
  have hexists : ∃ g ∈ db.guilds, g.id = guildId := by
    simpa using Rows.existsWhere_iff.mp hguild
  exact sound_join h (isMember_false.mp hfree) hexists hjoin

theorem acceptGuildInvitation_sound {m : GuildMembershipRecord} (h : db.Sound)
    (hrun : acceptGuildInvitation guildId playerId db = (.ok m, db')) : db'.Sound := by
  simp only [acceptGuildInvitation, transaction_eq_ok, ensurePlayerExists, ensureGuildExists,
    bind_eq_ok, require_eq_ok, Bool.not_eq_true'] at hrun
  obtain ⟨_, _, ⟨-, rfl⟩, _, _, ⟨hguild, rfl⟩, _, _, ⟨hfree, rfl⟩, _, db, ⟨-, rfl⟩, hjoin⟩ := hrun
  have hexists : ∃ g ∈ db.guilds, g.id = guildId := by
    simpa using Rows.existsWhere_iff.mp hguild
  exact sound_join h (isMember_false.mp hfree) hexists hjoin

theorem removeGuildMember_sound {u : Unit} (h : db.Sound)
    (hrun : removeGuildMember guildId playerId db = (.ok u, db')) : db'.Sound := by
  simp only [removeGuildMember, transaction_eq_ok, guildById, memberByPlayer, deleteMembers,
    bind_eq_ok, require_eq_ok, readOr_eq_ok, write_apply, Prod.mk.injEq,
    decide_eq_true_eq] at hrun
  obtain ⟨guild, _, ⟨hguild, rfl⟩, _, _, ⟨hnot, rfl⟩, member, _, ⟨hmember, rfl⟩, _, db,
    ⟨hown, rfl⟩, -, rfl⟩ := hrun
  obtain ⟨hg, hid⟩ := Rows.find?_mem hguild
  obtain ⟨hm, hp⟩ := Rows.find?_mem hmember
  simp only [decide_eq_true_eq] at hid hp
  refine sound_deleteMembers h fun g hg' m hm' howner => ?_
  -- An owner is a member of the guild it owns, and a player of one guild only.
  obtain ⟨o, ho, hoplayer, hoguild, -⟩ := h.ownerLeads g hg'
  by_contra hout
  simp only [decide_eq_false_iff_not, not_not] at hout
  have hsame : o = member := member_eq ho hm (by rw [hoplayer, ← howner, hout, hp])
  have hguilds : g = guild := guild_eq hg' hg (by rw [← hoguild, hsame, hown, hid])
  exact hnot (by rw [← hguilds, ← howner, hout])

theorem assignGuildMemberRank_sound {rankId : ℕ} {m : GuildMembershipRecord} (h : db.Sound)
    (hleader : ∀ m ∈ db.guildMembership, m.playerId = playerId → m.guildId = guildId →
      ∀ g ∈ db.guilds, g.id = guildId → ∀ r ∈ db.guildRanks, r.id = rankId → r.guildId = guildId →
      (g.ownerPlayerId = playerId ↔ r.level = 3))
    (hrun : assignGuildMemberRank guildId playerId rankId db = (.ok m, db')) : db'.Sound := by
  simp only [assignGuildMemberRank, transaction_eq_ok, ensureGuildExists, memberByPlayer, rankById,
    updateMember, bind_eq_ok, require_eq_ok, readOr_eq_ok, execute_eq_ok, Option.map_eq_some_iff,
    pure_apply, Prod.mk.injEq, decide_eq_true_eq] at hrun
  obtain ⟨_, _, ⟨-, rfl⟩, member, _, ⟨hmember, rfl⟩, _, _, ⟨hown, rfl⟩, rank, _, ⟨hrank, rfl⟩,
    _, db, ⟨hrankOwn, rfl⟩, _, _, ⟨t, ht, rfl⟩, -, rfl⟩ := hrun
  obtain ⟨hm, hp⟩ := Rows.find?_mem hmember
  obtain ⟨hr, hid⟩ := Rows.find?_mem hrank
  simp only [decide_eq_true_eq] at hp hid
  refine sound_updateMember h ht (fun _ => rfl) (fun _ => rfl) fun m' hm' hp' => ?_
  have hsame : m' = member := member_eq hm' hm (hp'.trans hp.symm)
  refine ⟨rank, hr, hid, by rw [hsame, hown, hrankOwn], fun g hg hgid => ?_⟩
  exact hleader member hm hp hown g hg (by rw [hgid, hsame, hown]) rank hr hid hrankOwn

theorem updateGuildMemberNick_sound {nick : String} {m : GuildMembershipRecord} (h : db.Sound)
    (hrun : updateGuildMemberNick guildId playerId nick db = (.ok m, db')) : db'.Sound := by
  simp only [updateGuildMemberNick, transaction_eq_ok, validatedGuildNick, validatedNote,
    memberByPlayer, updateMember, bind_eq_ok, guard_eq_ok, require_eq_ok, readOr_eq_ok,
    execute_eq_ok, Option.map_eq_some_iff, pure_apply, Prod.mk.injEq, decide_eq_true_eq] at hrun
  obtain ⟨_, _, ⟨-, -, rfl⟩, member, _, ⟨hmember, rfl⟩, _, db, ⟨-, rfl⟩, _, _, ⟨t, ht, rfl⟩, -,
    rfl⟩ := hrun
  refine sound_updateMember h ht (fun _ => rfl) (fun _ => rfl) fun m' hm' hp' => ?_
  obtain ⟨r, hr, hid, hguild⟩ := h.memberRank m' hm'
  refine ⟨r, hr, hid, hguild, fun g hg hgid => ⟨fun howner => ?_, fun hlevel => ?_⟩⟩
  · obtain ⟨o, ho, hoplayer, -, r', hr', hid', hlevel'⟩ := h.ownerLeads g hg
    have hsame : o = m' := member_eq ho hm' (by rw [hoplayer, howner, hp'])
    have hranks : r' = r := rank_eq hr' hr (.inl (by rw [hid', hsame, hid]))
    rw [← hranks, hlevel']
  · rw [h.onlyOwnerLeads m' hm' r hr hid hlevel g hg hgid, hp']

/-- **The ownership passes on**: of two members of a guild, the old owner gets a lower rank, and the
new owner the leader's. -/
theorem sound_handover {t : Rows GuildMembershipRecord GuildMembershipRecord.clashes}
    {gs : Rows GuildRecord GuildRecord.clashes} {guild : GuildRecord}
    {new old : GuildMembershipRecord} {leader vice : GuildRankRecord} (h : db.Sound)
    (hg : guild ∈ db.guilds) (hn : new ∈ db.guildMembership) (ho : old ∈ db.guildMembership)
    (hl : leader ∈ db.guildRanks) (hv : vice ∈ db.guildRanks)
    (hother : guild.ownerPlayerId ≠ new.playerId) (hop : old.playerId = guild.ownerPlayerId)
    (hnewOwn : new.guildId = guild.id) (holdOwn : old.guildId = guild.id)
    (hleader : leader.guildId = guild.id ∧ leader.level = 3)
    (hvice : vice.guildId = guild.id ∧ vice.level = 2)
    (hmembers : ∀ a, a ∈ t ↔ ∃ b ∈ db.guildMembership, a = { b with
      rankId := if b.playerId = guild.ownerPlayerId then vice.id
        else if b.playerId = new.playerId then leader.id else b.rankId })
    (hguilds : ∀ a, a ∈ gs ↔ ∃ b ∈ db.guilds, a = { b with
      ownerPlayerId := if b.id = guild.id then new.playerId else b.ownerPlayerId }) :
    ({ db with guildMembership := t, guilds := gs }).Sound := by
  -- The two players whose ranks change are members of this guild and of no other.
  have hnewOnly : ∀ m ∈ db.guildMembership, m.playerId = new.playerId → m = new :=
    fun m hm hp => member_eq hm hn hp
  have holdOnly : ∀ m ∈ db.guildMembership, m.playerId = guild.ownerPlayerId → m = old :=
    fun m hm hp => member_eq hm ho (hp.trans hop.symm)
  have hranks : ∀ r ∈ db.guildRanks, ∀ r' ∈ db.guildRanks, r.id = r'.id → r = r' :=
    fun r hr r' hr' hid => rank_eq hr hr' (.inl hid)
  have hguildOnly : ∀ g ∈ db.guilds, g.id = guild.id → g = guild :=
    fun g hg' hid => guild_eq hg' hg hid
  have hstays : ∀ g ∈ db.guilds, ∃ g' ∈ gs, g'.id = g.id :=
    fun g hg' => ⟨_, (hguilds _).mpr ⟨g, hg', rfl⟩, rfl⟩
  have hranked : ∀ m ∈ db.guildMembership, { m with
      rankId := if m.playerId = guild.ownerPlayerId then vice.id
        else if m.playerId = new.playerId then leader.id else m.rankId } ∈ t :=
    fun m hm => (hmembers _).mpr ⟨m, hm, rfl⟩
  constructor
  · grind [h.rankOfGuild]
  · grind [h.memberOfGuild]
  · grind [h.invitedToGuild]
  · grind [h.memberRank]
  · grind [h.baseRanks]
  · exact h.rankBound
  · exact h.invitationBound
  · intro g' hg'
    obtain ⟨g, hold, rfl⟩ := (hguilds _).mp hg'
    by_cases hid : g.id = guild.id
    · exact ⟨_, hranked new hn, by simp [hid], hnewOwn.trans hid.symm, leader, hl,
        by simp [Ne.symm hother], hleader.2⟩
    · obtain ⟨m, hm, howner, hmguild, r, hr, hrid, hlevel⟩ := h.ownerLeads g hold
      have hnotNew : m.playerId ≠ new.playerId := by grind
      have hnotOld : m.playerId ≠ guild.ownerPlayerId := by grind
      exact ⟨_, hranked m hm, by simp [hid, howner], hmguild, r, hr,
        by simp [hnotNew, hnotOld, hrid], hlevel⟩
  · grind [h.onlyOwnerLeads]
  · grind [h.uninvited]

theorem transferGuildOwnership_sound {guild : GuildRecord} (h : db.Sound)
    (hrun : transferGuildOwnership guildId playerId db = (.ok guild, db')) : db'.Sound := by
  simp only [transferGuildOwnership, transaction_eq_ok, ensurePlayerExists, guildById, bind_eq_ok,
    require_eq_ok, readOr_eq_ok] at hrun
  obtain ⟨_, _, ⟨-, rfl⟩, guild, db, ⟨hguild, rfl⟩, hrun⟩ := hrun
  split at hrun
  · cases hrun
    exact h
  · rename_i hother
    simp only [memberByPlayer, requiredRank, updateMember, updateGuild, bind_eq_ok, require_eq_ok,
      readOr_eq_ok, execute_eq_ok, Option.map_eq_some_iff, pure_apply, Prod.mk.injEq,
      decide_eq_true_eq] at hrun
    obtain ⟨new, _, ⟨hnew, rfl⟩, _, _, ⟨hnewOwn, rfl⟩, old, _, ⟨hold, rfl⟩, _, _, ⟨holdOwn, rfl⟩,
      leader, _, ⟨hleader, rfl⟩, vice, db, ⟨hvice, rfl⟩, _, _, ⟨t₁, ht₁, rfl⟩, _, _,
      ⟨t₂, ht₂, rfl⟩, _, _, ⟨gs, hgs, rfl⟩, -, rfl⟩ := hrun
    obtain ⟨hg, hgid⟩ := Rows.find?_mem hguild
    obtain ⟨hn, hnp⟩ := Rows.find?_mem hnew
    obtain ⟨ho, hop⟩ := Rows.find?_mem hold
    obtain ⟨hl, hlead⟩ := Rows.find?_mem hleader
    obtain ⟨hv, hvl⟩ := Rows.find?_mem hvice
    simp only [decide_eq_true_eq] at hgid hnp hop hlead hvl
    subst hgid
    subst hnp
    show ({ db with guildMembership := t₂, guilds := gs }).Sound
    refine sound_handover h hg hn ho hl hv hother hop hnewOwn holdOwn hlead hvl ?_ ?_
    · intro a
      rw [Rows.mem_update_update ht₁ ht₂]
      refine exists_congr fun b => and_congr_right fun _ => ?_
      rw [exists_eq_left, @eq_comm _ a]
      by_cases hnew : b.playerId = new.playerId
      · simp [hnew, Ne.symm hother]
      · by_cases hold : b.playerId = guild.ownerPlayerId <;> simp [hnew, hold, hother]
    · intro a
      rw [Rows.mem_update hgs]
      refine exists_congr fun b => and_congr_right fun _ => ?_
      rw [eq_comm]
      by_cases hid : b.id = guild.id <;> simp [hid]

/-! ### Invitations -/

theorem sound_deleteInvitations (p : GuildInvitationRecord → Bool) (h : db.Sound) :
    ({ db with guildInvitations := db.guildInvitations.delete p }).Sound := by
  constructor
  · exact h.rankOfGuild
  · exact h.memberOfGuild
  · grind [h.invitedToGuild, Rows.mem_delete]
  · exact h.memberRank
  · exact h.baseRanks
  · exact h.rankBound
  · intro id
    exact le_trans (Rows.countWhere_delete_le _ _ _) (h.invitationBound id)
  · exact h.ownerLeads
  · exact h.onlyOwnerLeads
  · grind [h.uninvited, Rows.mem_delete]

theorem revokeGuildInvitation_sound {u : Unit} (h : db.Sound)
    (hrun : revokeGuildInvitation guildId playerId db = (.ok u, db')) : db'.Sound := by
  simp only [revokeGuildInvitation, transaction_eq_ok, ensurePlayerExists, ensureGuildExists,
    deleteInvitations, bind_eq_ok, require_eq_ok, write_apply, Prod.mk.injEq] at hrun
  obtain ⟨_, _, ⟨-, rfl⟩, _, _, ⟨-, rfl⟩, _, db, ⟨-, rfl⟩, -, rfl⟩ := hrun
  exact sound_deleteInvitations _ h

/-- **A player is invited** who is no member, to a guild with room for the invitation. -/
theorem invitePlayerToGuild_sound {i : GuildInvitationRecord} (h : db.Sound)
    (hrun : invitePlayerToGuild guildId playerId db = (.ok i, db')) : db'.Sound := by
  simp only [invitePlayerToGuild, transaction_eq_ok, ensurePlayerExists, ensureGuildExists,
    insertInvitation, bind_eq_ok, require_eq_ok, execute_eq_ok, Option.map_eq_some_iff, pure_apply,
    Prod.mk.injEq, Bool.not_eq_true', decide_eq_true_eq] at hrun
  obtain ⟨_, _, ⟨-, rfl⟩, _, _, ⟨hguild, rfl⟩, _, _, ⟨hfree, rfl⟩, _, _, ⟨-, rfl⟩, _, db,
    ⟨hroom, rfl⟩, _, _, ⟨t, ht, rfl⟩, -, rfl⟩ := hrun
  have hexists : ∃ g ∈ db.guilds, g.id = guildId := by
    simpa using Rows.existsWhere_iff.mp hguild
  have hnone := isMember_false.mp hfree
  have hinvited (a : GuildInvitationRecord) := Rows.mem_insert (a := a) ht
  constructor
  · exact h.rankOfGuild
  · exact h.memberOfGuild
  · grind [h.invitedToGuild]
  · exact h.memberRank
  · exact h.baseRanks
  · exact h.rankBound
  · intro id
    have hbound := h.invitationBound id
    show t.countWhere _ ≤ _
    rw [Rows.countWhere_insert _ ht]
    by_cases hid : guildId = id
    · subst hid
      simp only [decide_true, if_true]
      omega
    · simp only [hid, decide_false, Bool.false_eq_true, if_false]
      omega
  · exact h.ownerLeads
  · exact h.onlyOwnerLeads
  · grind [h.uninvited]

/-! ### Ranks -/

/-- **A rank is added** that no member holds yet. -/
theorem sound_insertRank {rank : GuildRankRecord}
    {t : Rows GuildRankRecord GuildRankRecord.clashes} (h : db.Sound)
    (ht : db.guildRanks.insert rank = some t) (hguild : ∃ g ∈ db.guilds, g.id = rank.guildId)
    (hroom : db.guildRanks.countWhere (·.guildId = rank.guildId) < maxGuildRanksPerGuild)
    (hnew : ∀ r ∈ db.guildRanks, r.id ≠ rank.id) : ({ db with guildRanks := t }).Sound := by
  have hranks (a : GuildRankRecord) := Rows.mem_insert (a := a) ht
  constructor
  · grind [h.rankOfGuild]
  · exact h.memberOfGuild
  · exact h.invitedToGuild
  · grind [h.memberRank]
  · grind [h.baseRanks]
  · intro id
    have hbound := h.rankBound id
    show t.countWhere _ ≤ _
    rw [Rows.countWhere_insert _ ht]
    by_cases hid : rank.guildId = id
    · subst hid
      simp only [decide_true, if_true]
      omega
    · simp only [hid, decide_false, Bool.false_eq_true, if_false]
      omega
  · exact h.invitationBound
  · grind [h.ownerLeads]
  · -- A member with the new rank would have had it before.
    intro m hm r hr hid hlevel g hg hgid
    obtain ⟨r', hr', hid', -⟩ := h.memberRank m hm
    rcases (hranks r).mp hr with hold | rfl
    · exact h.onlyOwnerLeads m hm r hold hid hlevel g hg hgid
    · exact absurd (hid'.trans hid.symm) (hnew r' hr')
  · exact h.uninvited

theorem addGuildRank_sound {name : String} {level : ℕ} {r : GuildRankRecord} (h : db.Sound)
    (hrun : addGuildRank guildId name level db = (.ok r, db')) : db'.Sound := by
  simp only [addGuildRank, transaction_eq_ok, validatedGuildRankName, validatedText, newRank,
    insertRank, ensureGuildExists, bind_eq_ok, guard_eq_ok, require_eq_ok, read_apply,
    execute_eq_ok, Option.map_eq_some_iff, pure_apply, Prod.mk.injEq, Except.ok.injEq,
    decide_eq_true_eq] at hrun
  obtain ⟨_, _, ⟨-, -, rfl⟩, _, _, ⟨-, rfl⟩, _, _, ⟨hguild, rfl⟩, _, _, ⟨hroom, rfl⟩, _, db,
    ⟨-, rfl⟩, _, _, ⟨rfl, rfl⟩, _, _, ⟨t, ht, rfl⟩, -, rfl⟩ := hrun
  have hexists : ∃ g ∈ db.guilds, g.id = guildId := by
    simpa using Rows.existsWhere_iff.mp hguild
  exact sound_insertRank h ht hexists hroom fun r hr => (Rows.lt_nextRowid hr).ne

theorem renameGuildRank_sound {rankId : ℕ} {name : String} {r : GuildRankRecord} (h : db.Sound)
    (hrun : renameGuildRank guildId rankId name db = (.ok r, db')) : db'.Sound := by
  simp only [renameGuildRank, transaction_eq_ok, validatedGuildRankName, validatedText, rankById,
    updateRank, ensureGuildExists, bind_eq_ok, guard_eq_ok, require_eq_ok, readOr_eq_ok,
    execute_eq_ok, Option.map_eq_some_iff, pure_apply, Prod.mk.injEq] at hrun
  obtain ⟨_, _, ⟨-, -, rfl⟩, _, _, ⟨-, rfl⟩, rank, _, ⟨-, rfl⟩, _, _, ⟨-, rfl⟩, _, db, ⟨-, rfl⟩,
    _, _, ⟨t, ht, rfl⟩, -, rfl⟩ := hrun
  -- A rename keeps everything but the name.
  have hback : ∀ a ∈ t, ∃ b ∈ db.guildRanks, b.id = a.id ∧ b.guildId = a.guildId ∧
      b.level = a.level := by
    intro a ha
    obtain ⟨b, hb, hba⟩ := (Rows.mem_update ht).mp ha
    exact ⟨b, hb, by grind⟩
  have hforth : ∀ b ∈ db.guildRanks, ∃ a ∈ t, a.id = b.id ∧ a.guildId = b.guildId ∧
      a.level = b.level := by
    intro b hb
    exact ⟨_, (Rows.mem_update ht).mpr ⟨b, hb, rfl⟩, by grind⟩
  constructor
  · grind [h.rankOfGuild]
  · exact h.memberOfGuild
  · exact h.invitedToGuild
  · grind [h.memberRank]
  · grind [h.baseRanks]
  · intro id
    show t.countWhere _ ≤ _
    rw [Rows.countWhere_update ht fun _ => rfl]
    exact h.rankBound id
  · exact h.invitationBound
  · grind [h.ownerLeads]
  · grind [h.onlyOwnerLeads]
  · exact h.uninvited

/-- **A rank is removed** that no member holds and that is none of the three. -/
theorem removeGuildRank_sound {rankId : ℕ} {u : Unit} (h : db.Sound)
    (hrun : removeGuildRank guildId rankId db = (.ok u, db')) : db'.Sound := by
  simp only [removeGuildRank, transaction_eq_ok, rankById, deleteRanks, ensureGuildExists,
    bind_eq_ok, require_eq_ok, readOr_eq_ok, write_apply, Prod.mk.injEq, decide_eq_true_eq,
    Bool.not_eq_true'] at hrun
  obtain ⟨_, _, ⟨-, rfl⟩, rank, _, ⟨hrank, rfl⟩, _, _, ⟨-, rfl⟩, _, _, ⟨hlevel, rfl⟩, _, db,
    ⟨hunused, rfl⟩, -, rfl⟩ := hrun
  obtain ⟨hr, hid⟩ := Rows.find?_mem hrank
  simp only [decide_eq_true_eq] at hid
  have hfree : ∀ m ∈ db.guildMembership, m.rankId ≠ rankId := by
    simpa using Rows.existsWhere_false.mp hunused
  have honly : ∀ r ∈ db.guildRanks, r.id = rankId → r = rank :=
    fun r hr' hid' => rank_eq hr' hr (.inl (hid'.trans hid.symm))
  constructor
  · grind [h.rankOfGuild, Rows.mem_delete]
  · exact h.memberOfGuild
  · exact h.invitedToGuild
  · grind [h.memberRank, Rows.mem_delete]
  · grind [h.baseRanks, Rows.mem_delete]
  · intro id
    exact le_trans (Rows.countWhere_delete_le _ _ _) (h.rankBound id)
  · exact h.invitationBound
  · grind [h.ownerLeads, Rows.mem_delete]
  · grind [h.onlyOwnerLeads, Rows.mem_delete]
  · exact h.uninvited

/-! ### Guilds -/

theorem updateGuildMotd_sound {motd : String} {guild : GuildRecord} (h : db.Sound)
    (hrun : updateGuildMotd guildId motd db = (.ok guild, db')) : db'.Sound := by
  simp only [updateGuildMotd, transaction_eq_ok, validatedGuildMotd, validatedNote, guildById,
    updateGuild, bind_eq_ok, guard_eq_ok, readOr_eq_ok, execute_eq_ok, Option.map_eq_some_iff,
    pure_apply, Prod.mk.injEq] at hrun
  obtain ⟨_, _, ⟨-, -, rfl⟩, _, db, ⟨-, rfl⟩, _, _, ⟨t, ht, rfl⟩, -, rfl⟩ := hrun
  have hback : ∀ a ∈ t, ∃ b ∈ db.guilds, b.id = a.id ∧ b.ownerPlayerId = a.ownerPlayerId := by
    intro a ha
    obtain ⟨b, hb, hba⟩ := (Rows.mem_update ht).mp ha
    exact ⟨b, hb, by grind⟩
  have hforth : ∀ b ∈ db.guilds, ∃ a ∈ t, a.id = b.id := by
    intro b hb
    exact ⟨_, (Rows.mem_update ht).mpr ⟨b, hb, rfl⟩, by grind⟩
  constructor
  · grind [h.rankOfGuild]
  · grind [h.memberOfGuild]
  · grind [h.invitedToGuild]
  · exact h.memberRank
  · grind [h.baseRanks]
  · exact h.rankBound
  · exact h.invitationBound
  · grind [h.ownerLeads]
  · grind [h.onlyOwnerLeads]
  · exact h.uninvited

/-- **A guild is deleted** with everything that belongs to it. -/
theorem deleteGuild_sound {guild : GuildRecord} (h : db.Sound)
    (hrun : deleteGuild guildId db = (.ok guild, db')) : db'.Sound := by
  simp only [deleteGuild, transaction_eq_ok, guildById, deleteInvitations, deleteMembers,
    deleteRanks, bind_eq_ok, readOr_eq_ok, write_apply, pure_apply, Prod.mk.injEq] at hrun
  obtain ⟨_, db, ⟨-, rfl⟩, _, _, ⟨-, rfl⟩, _, _, ⟨-, rfl⟩, _, _, ⟨-, rfl⟩, _, _, ⟨-, rfl⟩, -,
    rfl⟩ := hrun
  have hranks : ∀ r ∈ db.guildRanks, ∀ r' ∈ db.guildRanks, r.id = r'.id → r = r' :=
    fun r hr r' hr' hid => rank_eq hr hr' (.inl hid)
  constructor
  · grind [h.rankOfGuild, Rows.mem_delete]
  · grind [h.memberOfGuild, Rows.mem_delete]
  · grind [h.invitedToGuild, Rows.mem_delete]
  · grind [h.memberRank, Rows.mem_delete]
  · grind [h.baseRanks, Rows.mem_delete]
  · intro id
    exact le_trans (Rows.countWhere_delete_le _ _ _) (h.rankBound id)
  · intro id
    exact le_trans (Rows.countWhere_delete_le _ _ _) (h.invitationBound id)
  · grind [h.ownerLeads, h.memberRank, Rows.mem_delete]
  · grind [h.onlyOwnerLeads, Rows.mem_delete]
  · grind [h.uninvited, Rows.mem_delete]

/-- **A guild is founded** under a new identifier, by a player who is not invited. -/
theorem sound_found {gs : Rows GuildRecord GuildRecord.clashes}
    {rs : Rows GuildRankRecord GuildRankRecord.clashes}
    {ms : Rows GuildMembershipRecord GuildMembershipRecord.clashes} {guild : GuildRecord}
    {leader vice member : GuildRankRecord} (h : db.Sound)
    (huninvited : ∀ i ∈ db.guildInvitations, i.playerId ≠ guild.ownerPlayerId)
    (hnew : ∀ g ∈ db.guilds, g.id ≠ guild.id)
    (hleader : leader.guildId = guild.id ∧ leader.level = 3)
    (hvice : vice.guildId = guild.id ∧ vice.level = 2)
    (hmember : member.guildId = guild.id ∧ member.level = 1)
    (hfresh : ∀ r ∈ db.guildRanks, r.id ≠ leader.id ∧ r.id ≠ vice.id ∧ r.id ≠ member.id)
    (hguilds : ∀ a, a ∈ gs ↔ a ∈ db.guilds ∨ a = guild)
    (hranks : ∀ a, a ∈ rs ↔ a ∈ db.guildRanks ∨ a = leader ∨ a = vice ∨ a = member)
    (hcount : ∀ id, rs.countWhere (·.guildId = id) =
      db.guildRanks.countWhere (·.guildId = id) + if guild.id = id then 3 else 0)
    (hmembers : ∀ a, a ∈ ms ↔ a ∈ db.guildMembership ∨
      a = ⟨guild.ownerPlayerId, guild.id, leader.id, ""⟩) :
    ({ db with guilds := gs, guildRanks := rs, guildMembership := ms }).Sound := by
  constructor
  · grind [h.rankOfGuild]
  · grind [h.memberOfGuild]
  · grind [h.invitedToGuild]
  · grind [h.memberRank]
  · intro g hg level hlow hhigh
    rcases (hguilds g).mp hg with hold | rfl
    · obtain ⟨r, hr, hrguild, hrlevel⟩ := h.baseRanks g hold level hlow hhigh
      exact ⟨r, (hranks r).mpr (.inl hr), hrguild, hrlevel⟩
    · have hlevels : level = 3 ∨ level = 2 ∨ level = 1 := by omega
      rcases hlevels with rfl | rfl | rfl
      · exact ⟨leader, (hranks _).mpr (.inr (.inl rfl)), hleader⟩
      · exact ⟨vice, (hranks _).mpr (.inr (.inr (.inl rfl))), hvice⟩
      · exact ⟨member, (hranks _).mpr (.inr (.inr (.inr rfl))), hmember⟩
  · intro id
    show rs.countWhere _ ≤ _
    rw [hcount]
    have hbound := h.rankBound id
    by_cases hid : guild.id = id
    · -- No rank names the identifier yet.
      have hnone : db.guildRanks.countWhere (·.guildId = id) = 0 := by
        refine Rows.countWhere_eq_zero fun r hr => decide_eq_false fun hrid => ?_
        obtain ⟨g, hg, hgid⟩ := h.rankOfGuild r hr
        exact hnew g hg (by rw [hgid, hrid, hid])
      rw [hnone, if_pos hid]
      decide
    · rw [if_neg hid]
      exact hbound
  · exact h.invitationBound
  · intro g hg
    rcases (hguilds g).mp hg with hold | rfl
    · obtain ⟨m, hm, howner, hguild, r, hr, hid, hlevel⟩ := h.ownerLeads g hold
      exact ⟨m, (hmembers m).mpr (.inl hm), howner, hguild, r, (hranks r).mpr (.inl hr), hid, hlevel⟩
    · exact ⟨_, (hmembers _).mpr (.inr rfl), rfl, rfl, leader, (hranks _).mpr (.inr (.inl rfl)),
        rfl, hleader.2⟩
  · grind [h.onlyOwnerLeads, h.memberRank, h.memberOfGuild]
  · grind [h.uninvited]

/-- A new rank, under an identifier no rank has. -/
theorem newRank_spec {name : String} {level : ℕ} {a : GuildRankRecord}
    (h : newRank guildId name level db = (.ok a, db')) :
    (a.guildId = guildId ∧ a.level = level) ∧ (∀ r ∈ db.guildRanks, r.id ≠ a.id) ∧
      ∃ rs, db' = { db with guildRanks := rs } ∧ (∀ r, r ∈ rs ↔ r ∈ db.guildRanks ∨ r = a) ∧
        ∀ id, rs.countWhere (·.guildId = id) =
          db.guildRanks.countWhere (·.guildId = id) + if guildId = id then 1 else 0 := by
  simp only [newRank, insertRank, bind_eq_ok, read_apply, execute_eq_ok, Option.map_eq_some_iff,
    pure_apply, Prod.mk.injEq, Except.ok.injEq] at h
  obtain ⟨_, db, ⟨rfl, rfl⟩, _, _, ⟨rs, hrs, rfl⟩, rfl, rfl⟩ := h
  refine ⟨⟨rfl, rfl⟩, fun r hr => (Rows.lt_nextRowid hr).ne, rs, rfl, fun r => Rows.mem_insert hrs,
    fun id => ?_⟩
  rw [Rows.countWhere_insert _ hrs]
  simp

/-- Three new ranks, one after the other. -/
theorem newRanks_spec {name₁ name₂ name₃ : String} {l₁ l₂ l₃ : ℕ} {a b c : GuildRankRecord}
    {t₁ t₂ : GuildDatabase} (ha : newRank guildId name₁ l₁ db = (.ok a, t₁))
    (hb : newRank guildId name₂ l₂ t₁ = (.ok b, t₂))
    (hc : newRank guildId name₃ l₃ t₂ = (.ok c, db')) :
    (a.guildId = guildId ∧ a.level = l₁) ∧ (b.guildId = guildId ∧ b.level = l₂) ∧
      (c.guildId = guildId ∧ c.level = l₃) ∧
      (∀ r ∈ db.guildRanks, r.id ≠ a.id ∧ r.id ≠ b.id ∧ r.id ≠ c.id) ∧
      ∃ rs, db' = { db with guildRanks := rs } ∧
        (∀ r, r ∈ rs ↔ r ∈ db.guildRanks ∨ r = a ∨ r = b ∨ r = c) ∧
        ∀ id, rs.countWhere (·.guildId = id) =
          db.guildRanks.countWhere (·.guildId = id) + if guildId = id then 3 else 0 := by
  obtain ⟨hplaceA, hnewA, rs₁, rfl, hmem₁, hcount₁⟩ := newRank_spec ha
  obtain ⟨hplaceB, hnewB, rs₂, rfl, hmem₂, hcount₂⟩ := newRank_spec hb
  obtain ⟨hplaceC, hnewC, rs₃, rfl, hmem₃, hcount₃⟩ := newRank_spec hc
  refine ⟨hplaceA, hplaceB, hplaceC, fun r hr => ⟨hnewA r hr, hnewB r ?_, hnewC r ?_⟩, rs₃, rfl,
    fun r => ?_, fun id => ?_⟩
  · exact (hmem₁ r).mpr (.inl hr)
  · exact (hmem₂ r).mpr (.inl ((hmem₁ r).mpr (.inl hr)))
  · rw [hmem₃, hmem₂, hmem₁, or_assoc, or_assoc]
  · rw [hcount₃, hcount₂, hcount₁]
    split <;> omega

theorem createGuild_sound {owner : ℕ} {name motd : String} {guild : GuildRecord} (h : db.Sound)
    (huninvited : ∀ i ∈ db.guildInvitations, i.playerId ≠ owner)
    (hrun : createGuild owner name motd db = (.ok guild, db')) : db'.Sound := by
  simp only [createGuild, transaction_eq_ok, ensurePlayerExists, validatedGuildName, validatedText,
    validatedGuildMotd, validatedNote, insertGuild, insertMember, bind_eq_ok, guard_eq_ok,
    require_eq_ok, read_apply, execute_eq_ok, Option.map_eq_some_iff, pure_apply, Prod.mk.injEq,
    Except.ok.injEq] at hrun
  obtain ⟨_, _, ⟨-, rfl⟩, _, _, ⟨-, -, rfl⟩, _, _, ⟨-, -, rfl⟩, _, db, ⟨-, rfl⟩, _, _, ⟨rfl, rfl⟩,
    _, _, ⟨gs, hgs, rfl⟩, leader, _, hleader, vice, _, hvice, member, _, hmember, _, _,
    ⟨ms, hms, rfl⟩, rfl, rfl⟩ := hrun
  obtain ⟨hplaceL, hplaceV, hplaceM, hfresh, rs, rfl, hranks, hcount⟩ :=
    newRanks_spec hleader hvice hmember
  have hguilds : ∀ a, a ∈ gs ↔ a ∈ db.guilds ∨
      a = ⟨db.guilds.nextRowid GuildRecord.id, name, owner, motd⟩ := fun a => Rows.mem_insert hgs
  have hmembers : ∀ a, a ∈ ms ↔ a ∈ db.guildMembership ∨
      a = ⟨owner, db.guilds.nextRowid GuildRecord.id, leader.id, ""⟩ := fun a => Rows.mem_insert hms
  show ({ db with guilds := gs, guildRanks := rs, guildMembership := ms }).Sound
  exact sound_found h huninvited (fun g hg => (Rows.lt_nextRowid hg).ne) hplaceL hplaceV hplaceM
    hfresh hguilds hranks hcount hmembers

end Guild

/-! ### Runs -/

/-- The checks of a new guild pass. -/
structure MayFound (db : GuildDatabase) (owner : ℕ) (name motd : String) : Prop where
  player : owner ∈ db.players
  named : (trim name).isEmpty = false ∧ name.utf8ByteSize ≤ maxGuildNameBytes
  message : motd.utf8ByteSize ≤ maxGuildMotdBytes
  unassigned : ∀ m ∈ db.guildMembership, m.playerId ≠ owner
  unused : ∀ g ∈ db.guilds, g.name ≠ name

theorem Guild.createGuild_mayFound {db db' : GuildDatabase} {owner : ℕ} {name motd : String}
    {guild : GuildRecord} (hrun : createGuild owner name motd db = (.ok guild, db')) :
    MayFound db owner name motd := by
  simp only [createGuild, transaction_eq_ok, ensurePlayerExists, validatedGuildName, validatedText,
    validatedGuildMotd, validatedNote, insertGuild, bind_eq_ok, guard_eq_ok, require_eq_ok,
    read_apply, execute_eq_ok, Option.map_eq_some_iff, pure_apply, Prod.mk.injEq, Except.ok.injEq,
    Bool.not_eq_true', decide_eq_true_eq] at hrun
  obtain ⟨_, _, ⟨hplayer, rfl⟩, _, _, ⟨hname, -, rfl⟩, _, _, ⟨hmotd, -, rfl⟩, _, db, ⟨hfree, rfl⟩, _, _,
    ⟨rfl, rfl⟩, _, _, ⟨gs, hgs, rfl⟩, -⟩ := hrun
  rw [not_or, Bool.not_eq_true, not_lt] at hname
  refine ⟨hplayer, hname, not_lt.mp hmotd, isMember_false.mp hfree, fun g hg hsame => ?_⟩
  have happart := Rows.insert_apart hgs hg
  simp [GuildRecord.clashes, hsame] at happart

/-- What the guilds rely on the callers for. -/
structure KeepsLeaders (db : GuildDatabase) (op : GuildOperation) : Prop where
  /-- Whoever founds a guild is not invited to another. -/
  founder : ∀ owner name motd, op = .create owner name motd → MayFound db owner name motd →
    ∀ i ∈ db.guildInvitations, i.playerId ≠ owner
  /-- The leader's rank is given to the owner, and the owner gets no other. -/
  ranks : ∀ guildId playerId rankId, op = .assignMemberRank guildId playerId rankId →
    ∀ m ∈ db.guildMembership, m.playerId = playerId → m.guildId = guildId →
      ∀ g ∈ db.guilds, g.id = guildId → ∀ r ∈ db.guildRanks, r.id = rankId → r.guildId = guildId →
        (g.ownerPlayerId = playerId ↔ r.level = 3)

/-- An operation that is refused has written nothing. -/
theorem GuildOperation.perform_atomic (op : GuildOperation) : Atomic op.perform := by
  cases op with
  | revokeInvitation | removeMember | removeRank => exact transaction_atomic _
  | _ => exact Atomic.bind_succeeds (transaction_atomic _) fun _ => Succeeds.pure _

theorem GuildOperation.discard_eq_ok {α : Type} {m : GuildM α} {db db' : GuildDatabase} {u : Unit}
    (h : (do let _ ← m : GuildM Unit) db = (.ok u, db')) : ∃ a, m db = (.ok a, db') := by
  simp only [bind_eq_ok, pure_apply, Prod.mk.injEq] at h
  obtain ⟨a, _, hm, -, rfl⟩ := h
  exact ⟨a, hm⟩

/-- An operation that is accepted keeps the guilds sound. -/
theorem GuildOperation.perform_sound {db db' : GuildDatabase} {op : GuildOperation} {u : Unit}
    (h : db.Sound) (hkeeps : KeepsLeaders db op) (hrun : op.perform db = (.ok u, db')) :
    db'.Sound := by
  cases op with
  | create owner name motd =>
    obtain ⟨_, hrun⟩ := discard_eq_ok hrun
    exact createGuild_sound h (hkeeps.founder _ _ _ rfl (createGuild_mayFound hrun)) hrun
  | updateMotd =>
    obtain ⟨_, hrun⟩ := discard_eq_ok hrun
    exact updateGuildMotd_sound h hrun
  | addMember =>
    obtain ⟨_, hrun⟩ := discard_eq_ok hrun
    exact addGuildMember_sound h hrun
  | invite =>
    obtain ⟨_, hrun⟩ := discard_eq_ok hrun
    exact invitePlayerToGuild_sound h hrun
  | revokeInvitation => exact revokeGuildInvitation_sound h hrun
  | acceptInvitation =>
    obtain ⟨_, hrun⟩ := discard_eq_ok hrun
    exact acceptGuildInvitation_sound h hrun
  | delete =>
    obtain ⟨_, hrun⟩ := discard_eq_ok hrun
    exact deleteGuild_sound h hrun
  | transferOwnership =>
    obtain ⟨_, hrun⟩ := discard_eq_ok hrun
    exact transferGuildOwnership_sound h hrun
  | removeMember => exact removeGuildMember_sound h hrun
  | assignMemberRank guildId playerId rankId =>
    obtain ⟨_, hrun⟩ := discard_eq_ok hrun
    exact assignGuildMemberRank_sound h (hkeeps.ranks _ _ _ rfl) hrun
  | updateMemberNick =>
    obtain ⟨_, hrun⟩ := discard_eq_ok hrun
    exact updateGuildMemberNick_sound h hrun
  | addRank =>
    rw [perform] at hrun
    obtain ⟨_, hrun⟩ := discard_eq_ok hrun
    exact addGuildRank_sound h hrun
  | renameRank =>
    rw [perform] at hrun
    obtain ⟨_, hrun⟩ := discard_eq_ok hrun
    exact renameGuildRank_sound h hrun
  | removeRank => exact removeGuildRank_sound h hrun

/-- **One operation** keeps the guilds sound, accepted or refused. -/
theorem GuildOperation.step_sound {db : GuildDatabase} {op : GuildOperation} (h : db.Sound)
    (hkeeps : KeepsLeaders db op) : (op.step db).Sound := by
  unfold step
  rcases hrun : op.perform db with ⟨e | u, db'⟩
  · have hsame : db' = db := op.perform_atomic db e db' hrun
    rw [hsame]
    exact h
  · exact perform_sound h hkeeps hrun

/-- **Every run in which the leaders are kept** leaves the guilds consistent. -/
theorem guildsConsistent (players : List ℕ) {db : GuildDatabase}
    (hrun : Reaches GuildOperation.step KeepsLeaders (GuildDatabase.fresh players) db) :
    db.Consistent := by
  have hsound : db.Sound := hrun.invariant (P := GuildDatabase.Sound)
    (fun _ _ => GuildOperation.step_sound) (sound_fresh players)
  exact hsound.consistent

/-- Player 1 founds a guild, takes player 2 in and passes the guild on. -/
def handedOver : List GuildOperation :=
  [.create 1 "Alpha" "", .invite 1 2, .acceptInvitation 1 2, .transferOwnership 1 2]

theorem guildsConsistent_handedOver :
    (handedOver.foldl GuildOperation.step (GuildDatabase.fresh [1, 2])).Consistent := by
  refine guildsConsistent [1, 2]
    (Reaches.start.foldl ⟨⟨?_, ?_⟩, ⟨?_, ?_⟩, ⟨?_, ?_⟩, ⟨?_, ?_⟩, trivial⟩)
  · intro _ _ _ _ _ i hi
    exact absurd hi (Rows.not_mem_empty i)
  all_goals intro _ _ _ hop; cases hop

/-- Player 2 is invited by one guild and founds another. -/
def foundedByInvited : List GuildOperation :=
  [.create 1 "Alpha" "", .invite 1 2, .create 2 "Beta" ""]

/-- The rank of the leader is given to a member who does not own the guild. -/
def secondLeader : List GuildOperation :=
  [.create 1 "Alpha" "", .addMember 1 2, .assignMemberRank 1 2 1]

/-- The guilds after a run of two players. -/
def guildsOfTwo (run : List GuildOperation) : GuildDatabase :=
  run.foldl GuildOperation.step (GuildDatabase.fresh [1, 2])

/-- After the one run a member is invited to another guild, after the other a guild has two
leaders. -/
theorem guilds_inconsistent :
    ¬(guildsOfTwo foundedByInvited).Consistent ∧ ¬(guildsOfTwo secondLeader).Consistent := by
  constructor
  · intro h
    have hmember : ⟨2, 2, 4, ""⟩ ∈ (guildsOfTwo foundedByInvited).guildMembership.rows := by
      decide +kernel
    have hinvited : ⟨2, 1⟩ ∈ (guildsOfTwo foundedByInvited).guildInvitations.rows := by
      decide +kernel
    exact h.uninvited _ hmember _ hinvited rfl
  · intro h
    have hmember : ⟨2, 1, 1, ""⟩ ∈ (guildsOfTwo secondLeader).guildMembership.rows := by
      decide +kernel
    have hleader : ⟨1, 1, "the Leader", 3⟩ ∈ (guildsOfTwo secondLeader).guildRanks.rows := by
      decide +kernel
    have hguild : ⟨1, "Alpha", 1, ""⟩ ∈ (guildsOfTwo secondLeader).guilds.rows := by
      decide +kernel
    have howner := h.onlyOwnerLeads _ hmember ⟨_, hleader, rfl, rfl, rfl⟩ _ hguild rfl
    cases howner

end ForgottenEngine
