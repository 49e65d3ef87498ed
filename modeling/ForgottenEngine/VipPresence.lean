import ForgottenEngine.Library.Multicast
import ForgottenEngine.Library.Run
import ForgottenEngine.SessionTurnover

/-!
# Who is online on the lists of the others

A session that comes reads for every player on its list whether that player is in the world, and is
told about the comings and goings since it registered for them.  A player is announced some time
after entering the world, and withdrawn some time before leaving it.

* `Watching` — what one list knows about one player, from the registration on;
* `vip_view_iff` — **a list shows a player rightly, exactly when the player has come or gone since,
  or the entry was read neither between entering and announcement nor between withdrawal and
  leaving**.
-/

namespace ForgottenEngine

open Multicast

def nativeOtclientSharedVipQueueCapacity : ℕ := 64

structure SharedVipPresenceEvent where
  targetPlayerId : ℕ
  online : Bool
deriving DecidableEq, Repr

/-- How far the session of a player is. -/
inductive PresencePhase where
  | absent
  /-- in the world -/
  | entered
  | announced
  /-- still in the world -/
  | withdrawn
deriving DecidableEq, Repr

structure VipState where
  hub : Hub ℕ SharedVipPresenceRecipient SharedVipPresenceEvent SharedVipPresenceEvent
  phase : ℕ → PresencePhase
  /-- Where a player was when the entry was read, by the endpoint of the reader. -/
  entries : ℕ → ℕ → Option PresencePhase

inductive VipStep where
  | enter (playerId : ℕ)
  | register (playerId : ℕ) (watchedPlayerIds : Finset ℕ)
  | readEntry (endpoint targetPlayerId : ℕ)
  | announce (playerId : ℕ)
  | withdraw (playerId : ℕ)
  | unregister (playerId : ℕ)
  | remove (playerId : ℕ)
  /-- the publication that has the lock tries its next recipient -/
  | deliver
  /-- one turn of the loop of `drain_shared_vip_presence` -/
  | receive (endpoint : ℕ)
  | close (endpoint : ℕ)

namespace VipState

def start : VipState where
  hub := .empty
  phase _ := .absent
  entries _ _ := none

/-- The recipient is told about the player. -/
def Watches (targetPlayerId playerId : ℕ) (recipient : SharedVipPresenceRecipient) : Prop :=
  playerId ≠ targetPlayerId ∧ targetPlayerId ∈ recipient.watchedPlayerIds

instance (targetPlayerId playerId : ℕ) (recipient : SharedVipPresenceRecipient) :
    Decidable (Watches targetPlayerId playerId recipient) := inferInstanceAs (Decidable (_ ∧ _))

def recipients (table : BTreeMap ℕ SharedVipPresenceRecipient) (targetPlayerId : ℕ) : List ℕ :=
  (table.toList.filter fun e => Watches targetPlayerId e.1 e.2).map Prod.fst

variable (others : SharedNativeWorld)

/-- The lock of the table is free. -/
def isFree (s : VipState) : Bool := s.hub.sending.isNone

def registerVipPresenceRecipient (s : VipState) (playerId : ℕ) (watchedPlayerIds : Finset ℕ) :
    VipState :=
  let recipient : SharedVipPresenceRecipient := ⟨watchedPlayerIds, s.hub.subscriptions.length⟩
  match (Shared.registerVipPresenceRecipient playerId recipient
      { others with vipPresenceRecipients := s.hub.table }).1 with
  | .ok _ => { s with hub := s.hub.subscribe playerId recipient }
  | .error _ => s

/-- The event takes the lock. -/
def publish (s : VipState) (event : SharedVipPresenceEvent) : VipState :=
  { s with hub := s.hub.publish event (recipients s.hub.table event.targetPlayerId) }

/-- `publish_vip_presence`, which fails for a player without a classic identifier. -/
def publishVipPresence (s : VipState) (targetPlayerId : ℕ) (online : Bool) : Option VipState :=
  if u32Max < targetPlayerId then none
  else if targetPlayerId = 0 then some s
  else some (s.publish ⟨targetPlayerId, online⟩)

def withPhase (s : VipState) (playerId : ℕ) (phase : PresencePhase) : VipState :=
  { s with phase := Function.update s.phase playerId phase }

/-- `player(..).is_some()` for an entry of the list. -/
def withEntry (s : VipState) (endpoint targetPlayerId : ℕ) : VipState :=
  let phase := some (s.phase targetPlayerId)
  let entries := Function.update (s.entries endpoint) targetPlayerId phase
  { s with entries := Function.update s.entries endpoint entries }

/-- One step of one thread; a thread that waits for the lock of the table does nothing. -/
def step (s : VipState) : VipStep → VipState
  | .enter playerId => if s.phase playerId = .absent then s.withPhase playerId .entered else s
  | .register playerId watchedPlayerIds =>
    if s.isFree then s.registerVipPresenceRecipient others playerId watchedPlayerIds else s
  | .readEntry endpoint targetPlayerId =>
    if endpoint < s.hub.subscriptions.length then s.withEntry endpoint targetPlayerId else s
  | .announce playerId =>
    if s.isFree ∧ s.phase playerId = .entered then
      match s.publishVipPresence playerId true with
      | some s => s.withPhase playerId .announced
      | none => s
    else s
  | .withdraw playerId =>
    if s.isFree ∧ s.phase playerId = .announced then
      ((s.publishVipPresence playerId false).getD s).withPhase playerId .withdrawn
    else s
  | .unregister playerId => if s.isFree then { s with hub := s.hub.unsubscribe playerId } else s
  | .remove playerId =>
    if s.phase playerId = .entered ∨ s.phase playerId = .withdrawn then
      s.withPhase playerId .absent
    else s
  | .deliver =>
    { s with hub := s.hub.deliver nativeOtclientSharedVipQueueCapacity (·.sender) id }
  | .receive endpoint => { s with hub := s.hub.receive endpoint }
  | .close endpoint =>
    if endpoint < s.hub.subscriptions.length then { s with hub := s.hub.close endpoint } else s

/-- Whether a list shows a player as online, once the queue is drained: the entry counts until
something is told about the player. -/
def shows (s : VipState) (endpoint targetPlayerId : ℕ) : Bool :=
  match ((s.hub.channels.seen endpoint).filter fun event =>
      event.targetPlayerId = targetPlayerId).getLast? with
  | some event => event.online
  | none => (s.entries endpoint targetPlayerId).any fun phase => phase ≠ .absent

/-! ### What holds in every run -/

variable {others} {s : VipState} {got : ℕ → List ℕ}

abbrev Told (event : SharedVipPresenceEvent) (playerId : ℕ)
    (recipient : SharedVipPresenceRecipient) : Prop :=
  Watches event.targetPlayerId playerId recipient

theorem mem_recipients {table : BTreeMap ℕ SharedVipPresenceRecipient} {targetPlayerId k : ℕ}
    {x : SharedVipPresenceRecipient} (hx : table[k]? = some x) :
    k ∈ recipients table targetPlayerId ↔ Watches targetPlayerId k x := by
  unfold recipients
  constructor
  · intro hk
    obtain ⟨⟨k', y⟩, hmem, hk'⟩ := List.mem_map.mp hk
    subst hk'
    obtain ⟨hmem, hwatches⟩ := List.mem_filter.mp hmem
    rw [Std.ExtTreeMap.mem_toList_iff_getElem?_eq_some, hx] at hmem
    cases hmem
    exact of_decide_eq_true hwatches
  · intro hwatches
    exact List.mem_map.mpr ⟨(k, x), List.mem_filter.mpr
      ⟨Std.ExtTreeMap.mem_toList_iff_getElem?_eq_some.mpr hx, decide_eq_true hwatches⟩, rfl⟩

structure Sound (s : VipState) (got : ℕ → List ℕ) : Prop where
  queues : Multicast.Sound nativeOtclientSharedVipQueueCapacity SharedVipPresenceRecipient.sender id
    Told s.hub got
  fresh : ∀ e, s.hub.subscriptions.length ≤ e →
    s.entries e = (fun _ => none) ∧ s.hub.channels.closed e = false

theorem sound_start : Sound .start fun _ => [] where
  queues := .of_empty
  fresh _ _ := ⟨rfl, rfl⟩

/-- A registration is refused, or the identifier is new. -/
theorem register_cases (others : SharedNativeWorld) (s : VipState) (playerId : ℕ)
    (watchedPlayerIds : Finset ℕ) :
    s.registerVipPresenceRecipient others playerId watchedPlayerIds = s ∧
        (s.hub.table[playerId]?).isSome ∨
      s.hub.table[playerId]? = none ∧
        s.registerVipPresenceRecipient others playerId watchedPlayerIds =
          let recipient := ⟨watchedPlayerIds, s.hub.subscriptions.length⟩
          { s with hub := s.hub.subscribe playerId recipient } := by
  cases hid : s.hub.table[playerId]? with
  | some x =>
    have hmem : playerId ∈ s.hub.table := by
      rw [Std.ExtTreeMap.mem_iff_isSome_getElem?, hid]
      rfl
    refine .inl ⟨?_, rfl⟩
    simp [registerVipPresenceRecipient, Shared.registerVipPresenceRecipient,
      Fallible.bind_of_ok (Fallible.read_apply _ _), hmem, Fallible.fail]
  | none =>
    have hmem : playerId ∉ s.hub.table := by
      rw [Std.ExtTreeMap.mem_iff_isSome_getElem?, hid]
      exact Bool.false_ne_true
    refine .inr ⟨rfl, ?_⟩
    simp [registerVipPresenceRecipient, Shared.registerVipPresenceRecipient,
      Fallible.bind_of_ok (Fallible.read_apply _ _), hmem, Fallible.write]

theorem Sound.register (h : Sound s got) (hfree : s.hub.sending = none) (playerId : ℕ)
    (watchedPlayerIds : Finset ℕ) :
    Sound (s.registerVipPresenceRecipient others playerId watchedPlayerIds) got := by
  rcases register_cases others s playerId watchedPlayerIds with ⟨heq, -⟩ | ⟨-, heq⟩
  · rw [heq]
    exact h
  · rw [heq]
    have hx : SharedVipPresenceRecipient.sender ⟨watchedPlayerIds, s.hub.subscriptions.length⟩ =
        s.hub.subscriptions.length := rfl
    refine ⟨h.queues.subscribe hfree hx, fun e he => h.fresh e ?_⟩
    have he : (s.hub.subscriptions ++ [_]).length ≤ e := he
    rw [List.length_append] at he
    omega

theorem Sound.publish (h : Sound s got) (event : SharedVipPresenceEvent) :
    Sound (s.publish event) got where
  queues := h.queues.publish
    ((OrderedMap.nodup_keys s.hub.table).sublist (List.filter_sublist.map Prod.fst))
    fun _ hk _ hx => (mem_recipients hx).mp hk
  fresh := h.fresh

theorem Sound.publishVipPresence (h : Sound s got) {targetPlayerId : ℕ} {online : Bool}
    {s' : VipState} (hs' : s.publishVipPresence targetPlayerId online = some s') :
    Sound s' got := by
  unfold VipState.publishVipPresence at hs'
  split_ifs at hs' with hlarge hzero
  · cases hs'
    exact h
  · cases hs'
    exact h.publish _

theorem Sound.withPhase (h : Sound s got) (playerId : ℕ) (phase : PresencePhase) :
    Sound (s.withPhase playerId phase) got := ⟨h.queues, h.fresh⟩

theorem Sound.step (h : Sound s got) (e : VipStep) : ∃ got', Sound (s.step others e) got' := by
  have hfree : s.isFree = true → s.hub.sending = none := fun hs => by
    simpa [isFree] using hs
  cases e with
  | enter playerId =>
    simp only [VipState.step]
    split
    · exact ⟨got, h.withPhase _ _⟩
    · exact ⟨got, h⟩
  | register playerId watchedPlayerIds =>
    simp only [VipState.step]
    split
    · next hs => exact ⟨got, h.register (hfree hs) _ _⟩
    · exact ⟨got, h⟩
  | readEntry endpoint targetPlayerId =>
    simp only [VipState.step]
    split
    · next hlt =>
      refine ⟨got, h.queues, fun e he => ?_⟩
      have he : s.hub.subscriptions.length ≤ e := he
      have hne : e ≠ endpoint := by omega
      show Function.update s.entries endpoint _ e = _ ∧ _
      rw [Function.update_of_ne hne]
      exact h.fresh e he
    · exact ⟨got, h⟩
  | announce playerId =>
    simp only [VipState.step]
    split
    · split
      · next s' hs' => exact ⟨got, (h.publishVipPresence hs').withPhase _ _⟩
      · exact ⟨got, h⟩
    · exact ⟨got, h⟩
  | withdraw playerId =>
    simp only [VipState.step]
    split
    · cases hs' : s.publishVipPresence playerId false with
      | none => exact ⟨got, h.withPhase _ _⟩
      | some s' => exact ⟨got, (h.publishVipPresence hs').withPhase _ _⟩
    · exact ⟨got, h⟩
  | unregister playerId =>
    simp only [VipState.step]
    split
    · next hs => exact ⟨got, h.queues.unsubscribe (hfree hs) playerId, h.fresh⟩
    · exact ⟨got, h⟩
  | remove playerId =>
    simp only [VipState.step]
    split
    · exact ⟨got, h.withPhase _ _⟩
    · exact ⟨got, h⟩
  | deliver =>
    have hdelivered := delivered nativeOtclientSharedVipQueueCapacity
      SharedVipPresenceRecipient.sender id s.hub
    obtain ⟨got', hqueues⟩ := h.queues.deliver hdelivered
    refine ⟨got', hqueues, fun e he => ?_⟩
    have he : (s.hub.deliver _ _ id).subscriptions.length ≤ e := he
    rw [hdelivered.subscriptions_eq] at he
    show s.entries e = _ ∧ (s.hub.deliver _ _ id).channels.closed e = _
    rw [hdelivered.closed_eq]
    exact h.fresh e he
  | receive endpoint =>
    refine ⟨got, h.queues.receive endpoint, fun e he => ?_⟩
    show s.entries e = _ ∧ (s.hub.channels.tryRecv endpoint).closed e = _
    rw [Channels.closed_tryRecv]
    exact h.fresh e he
  | close endpoint =>
    simp only [VipState.step]
    split
    · next hlt =>
      refine ⟨_, h.queues.close endpoint, fun e he => ?_⟩
      have he : s.hub.subscriptions.length ≤ e := he
      have hne : e ≠ endpoint := by omega
      show s.entries e = _ ∧ Function.update s.hub.channels.closed endpoint true e = _
      rw [Function.update_of_ne hne]
      exact h.fresh e he
    · exact ⟨got, h⟩

theorem sound_run (others : SharedNativeWorld) (steps : List VipStep) :
    ∃ got, Sound (steps.foldl (VipState.step others) .start) got := by
  have hrun : ∀ (s : VipState) got, Sound s got →
      ∃ got', Sound (steps.foldl (VipState.step others) s) got' := by
    induction steps with
    | nil => exact fun s got h => ⟨got, h⟩
    | cons e steps ih =>
      intro s got h
      obtain ⟨got', h'⟩ := h.step e
      exact ih _ got' h'
  exact hrun _ _ sound_start

/-! ### One player on one list -/

/-- What was published about a player since a place in the log. -/
def about (s : VipState) (start targetPlayerId : ℕ) : List SharedVipPresenceEvent :=
  ((s.hub.log.drop start).map Prod.fst).filter fun event => event.targetPlayerId = targetPlayerId

/-- The step leaves the recipient alone: it is not unregistered, its session does not end, and an
event that is offered to it finds room. -/
def Spares (playerId : ℕ) (recipient : SharedVipPresenceRecipient) (s : VipState) : VipStep → Prop
  | .unregister p => p ≠ playerId
  | .close endpoint => recipient.sender ≠ endpoint
  | .deliver => HasRoom nativeOtclientSharedVipQueueCapacity SharedVipPresenceRecipient.sender
      playerId recipient s.hub
  | _ => True

variable {playerId targetPlayerId start : ℕ} {recipient : SharedVipPresenceRecipient}

structure Watching (playerId : ℕ) (recipient : SharedVipPresenceRecipient)
    (targetPlayerId start : ℕ) (s : VipState) : Prop where
  sound : ∃ got, Sound s got
  complete : Complete SharedVipPresenceRecipient.sender id start playerId recipient [] s.hub
  meant : ∀ entry ∈ s.hub.log.drop start, entry.1.targetPlayerId = targetPlayerId →
    playerId ∈ entry.2
  /-- the last word on the player is where the player is now -/
  last : ∀ event, (s.about start targetPlayerId).getLast? = some event →
    (event.online = true ↔ s.phase targetPlayerId = .announced)
  /-- as long as nothing is said, the entry is as good as when it was read -/
  quiet : s.about start targetPlayerId = [] → ∀ phase,
    s.entries recipient.sender targetPlayerId = some phase →
    (phase = .announced ↔ s.phase targetPlayerId = .announced)

namespace Watching

/-- What changes neither the log nor whether the player is announced. -/
theorem of_hub (h : Watching playerId recipient targetPlayerId start s) {hub : Hub ℕ
    SharedVipPresenceRecipient SharedVipPresenceEvent SharedVipPresenceEvent}
    (hsound : ∃ got, Sound { s with hub } got) (hlog : hub.log = s.hub.log)
    (hcomplete : Complete SharedVipPresenceRecipient.sender id start playerId recipient [] hub) :
    Watching playerId recipient targetPlayerId start { s with hub } where
  sound := hsound
  complete := hcomplete
  meant := by
    show ∀ entry ∈ hub.log.drop start, _
    rw [hlog]
    exact h.meant
  last := by
    show ∀ event, (((hub.log.drop start).map Prod.fst).filter _).getLast? = some event → _
    rw [hlog]
    exact h.last
  quiet := by
    show (((hub.log.drop start).map Prod.fst).filter _) = [] → _
    rw [hlog]
    exact h.quiet

theorem withPhase (h : Watching playerId recipient targetPlayerId start s) {p : ℕ}
    {phase : PresencePhase}
    (hphase : p = targetPlayerId → (phase = .announced ↔ s.phase targetPlayerId = .announced)) :
    Watching playerId recipient targetPlayerId start (s.withPhase p phase) := by
  have hsame : (s.withPhase p phase).phase targetPlayerId = .announced ↔
      s.phase targetPlayerId = .announced := by
    show Function.update s.phase p phase targetPlayerId = .announced ↔ _
    by_cases hp : targetPlayerId = p
    · subst hp
      rw [Function.update_self]
      exact hphase rfl
    · rw [Function.update_of_ne hp]
  obtain ⟨got, hsound⟩ := h.sound
  exact ⟨⟨got, hsound.withPhase _ _⟩, h.complete, h.meant,
    fun event hevent => (h.last event hevent).trans hsame.symm,
    fun hquiet ph hph => (h.quiet hquiet ph hph).trans hsame.symm⟩

/-- **A player is announced or withdrawn**: the list hears of it. -/
theorem publish (h : Watching playerId recipient targetPlayerId start s)
    (hfree : s.hub.sending = none) (hwatched : targetPlayerId ∈ recipient.watchedPlayerIds)
    (hother : playerId ≠ targetPlayerId) (p : ℕ) {online : Bool} {phase : PresencePhase}
    (hphase : online = true ↔ phase = .announced) :
    Watching playerId recipient targetPlayerId start
      ((s.publish ⟨p, online⟩).withPhase p phase) := by
  obtain ⟨got, hsound⟩ := h.sound
  have hlog : (s.publish ⟨p, online⟩).hub.log.drop start =
      s.hub.log.drop start ++ [(⟨p, online⟩, recipients s.hub.table p)] :=
    List.drop_append_of_le_length h.complete.started
  have hmeant : ∀ entry ∈ (s.publish ⟨p, online⟩).hub.log.drop start,
      entry.1.targetPlayerId = targetPlayerId → playerId ∈ entry.2 := by
    intro entry hentry htarget
    rw [hlog] at hentry
    rcases List.mem_append.mp hentry with hold | hnew
    · exact h.meant entry hold htarget
    · rw [List.mem_singleton.mp hnew] at htarget ⊢
      rw [show p = targetPlayerId from htarget]
      exact (mem_recipients h.complete.subscribed).mpr ⟨hother, hwatched⟩
  have hcomplete := h.complete.publish hfree ⟨p, online⟩ (recipients s.hub.table p)
  by_cases hp : p = targetPlayerId
  · subst hp
    have habout : (s.publish ⟨p, online⟩).about start p = s.about start p ++ [⟨p, online⟩] := by
      unfold about
      rw [hlog]
      simp
    refine ⟨⟨got, (hsound.publish _).withPhase _ _⟩, hcomplete, hmeant, ?_, ?_⟩
    · intro event hevent
      have hevent : ((s.publish ⟨p, online⟩).about start p).getLast? = some event := hevent
      rw [habout, List.getLast?_concat] at hevent
      cases hevent
      show online = true ↔ Function.update s.phase p phase p = .announced
      rw [Function.update_self]
      exact hphase
    · intro hquiet
      have hquiet : (s.publish ⟨p, online⟩).about start p = [] := hquiet
      rw [habout] at hquiet
      exact absurd hquiet (List.append_ne_nil_of_right_ne_nil _ (List.cons_ne_nil _ _))
  · have habout : (s.publish ⟨p, online⟩).about start targetPlayerId =
        s.about start targetPlayerId := by
      unfold about
      rw [hlog]
      simp [hp]
    have hpublished : Watching playerId recipient targetPlayerId start
        (s.publish ⟨p, online⟩) := by
      refine ⟨⟨got, hsound.publish _⟩, hcomplete, hmeant, ?_, ?_⟩
      · rw [habout]
        exact h.last
      · rw [habout]
        exact h.quiet
    exact hpublished.withPhase fun heq => absurd heq hp

theorem step (h : Watching playerId recipient targetPlayerId start s)
    (hwatched : targetPlayerId ∈ recipient.watchedPlayerIds) (hother : playerId ≠ targetPlayerId)
    (hnumber : 0 < targetPlayerId ∧ targetPlayerId ≤ u32Max) (e : VipStep)
    (he : s.Spares playerId recipient e) :
    Watching playerId recipient targetPlayerId start (s.step others e) := by
  obtain ⟨got, hsound⟩ := h.sound
  have hnext : ∃ got', Sound (s.step others e) got' := hsound.step e
  have hfree : s.isFree = true → s.hub.sending = none := fun hs => by
    simpa [isFree] using hs
  cases e with
  | enter p =>
    simp only [VipState.step]
    split
    · next hp =>
      refine h.withPhase fun heq => ?_
      subst heq
      simp [hp]
    · exact h
  | register p watchedPlayerIds =>
    simp only [VipState.step] at hnext ⊢
    split
    · next hs =>
      rw [if_pos hs] at hnext
      rcases register_cases others s p watchedPlayerIds with ⟨heq, -⟩ | ⟨hnone, heq⟩
      · rw [heq]
        exact h
      · rw [heq] at hnext ⊢
        refine h.of_hub hnext rfl (h.complete.subscribe (fun hp => ?_) _)
        rw [hp, h.complete.subscribed] at hnone
        cases hnone
    · exact h
  | readEntry endpoint p =>
    simp only [VipState.step] at hnext ⊢
    split
    · next hlt =>
      rw [if_pos hlt] at hnext
      refine ⟨hnext, h.complete, h.meant, h.last, fun hquiet phase hphase => ?_⟩
      by_cases hread : recipient.sender = endpoint ∧ targetPlayerId = p
      · obtain ⟨rfl, rfl⟩ := hread
        simp only [withEntry, Function.update_self, Option.some.injEq] at hphase
        rw [← hphase]
        exact Iff.rfl
      · refine h.quiet hquiet phase ?_
        rw [← hphase]
        show _ = Function.update s.entries endpoint _ recipient.sender targetPlayerId
        by_cases hsender : recipient.sender = endpoint
        · rw [hsender, Function.update_self]
          exact (Function.update_of_ne (fun heq => hread ⟨hsender, heq⟩) _ _).symm
        · rw [Function.update_of_ne hsender]
    · exact h
  | announce p =>
    simp only [VipState.step]
    split
    · next hs =>
      unfold publishVipPresence
      by_cases hlarge : u32Max < p
      · rw [if_pos hlarge]
        exact h
      · rw [if_neg hlarge]
        by_cases hzero : p = 0
        · rw [if_pos hzero]
          exact h.withPhase fun heq => by omega
        · rw [if_neg hzero]
          exact h.publish (hfree hs.1) hwatched hother p (by simp)
    · exact h
  | withdraw p =>
    simp only [VipState.step]
    split
    · next hs =>
      unfold publishVipPresence
      by_cases hlarge : u32Max < p
      · rw [if_pos hlarge]
        exact h.withPhase fun heq => by omega
      · rw [if_neg hlarge]
        by_cases hzero : p = 0
        · rw [if_pos hzero]
          exact h.withPhase fun heq => by omega
        · rw [if_neg hzero]
          exact h.publish (hfree hs.1) hwatched hother p (by simp)
    · exact h
  | unregister p =>
    simp only [VipState.step] at hnext ⊢
    split
    · next hs =>
      rw [if_pos hs] at hnext
      exact h.of_hub hnext rfl (h.complete.unsubscribe he)
    · exact h
  | remove p =>
    simp only [VipState.step]
    split
    · next hp =>
      refine h.withPhase fun heq => ?_
      subst heq
      rcases hp with hp | hp <;> simp [hp]
    · exact h
  | deliver =>
    have hdelivered := delivered nativeOtclientSharedVipQueueCapacity
      SharedVipPresenceRecipient.sender id s.hub
    exact h.of_hub hnext hdelivered.log_eq (h.complete.deliver hsound.queues he hdelivered)
  | receive endpoint => exact h.of_hub hnext rfl (h.complete.receive endpoint)
  | close endpoint =>
    simp only [VipState.step] at hnext ⊢
    split
    · next hlt =>
      rw [if_pos hlt] at hnext
      exact h.of_hub hnext rfl (h.complete.close he)
    · exact h

/-- What came through about the player is what was published. -/
theorem filter_seen (h : Watching playerId recipient targetPlayerId start s)
    (hdone : s.hub.sending = none) :
    (s.hub.channels.seen recipient.sender).filter (fun event =>
      event.targetPlayerId = targetPlayerId) = s.about start targetPlayerId := by
  rw [h.complete.seen_eq hdone, List.nil_append]
  unfold Hub.due about
  rw [List.filter_map, List.filter_map, List.filter_filter]
  congr 1
  apply List.filter_congr
  intro entry hentry
  by_cases htarget : entry.1.targetPlayerId = targetPlayerId
  · simp [htarget, h.meant entry hentry htarget]
  · simp [htarget]

end Watching

end VipState

/-- **A list shows a player rightly, exactly when** the player has come or gone since the session
registered, or the entry was read neither between entering and announcement nor between withdrawal
and leaving. -/
theorem vip_view_iff (others : SharedNativeWorld) (steps : List VipStep) (s₀ : VipState)
    (hs₀ : steps.foldl (VipState.step others) .start = s₀) (hfree : s₀.isFree = true)
    (playerId : ℕ) (hnew : s₀.hub.table[playerId]? = none) (watchedPlayerIds : Finset ℕ)
    (targetPlayerId : ℕ) (hwatched : targetPlayerId ∈ watchedPlayerIds)
    (hnumber : 0 < targetPlayerId ∧ targetPlayerId ≤ u32Max) (hother : playerId ≠ targetPlayerId)
    (s : VipState) (hrun : Reaches (VipState.step others)
      (VipState.Spares playerId ⟨watchedPlayerIds, s₀.hub.subscriptions.length⟩)
      (s₀.step others (.register playerId watchedPlayerIds)) s) (hdone : s.isFree = true)
    (phase : PresencePhase)
    (hentry : s.entries s₀.hub.subscriptions.length targetPlayerId = some phase) :
    s.shows s₀.hub.subscriptions.length targetPlayerId =
        decide (s.phase targetPlayerId = .announced) ↔
      s.about s₀.hub.log.length targetPlayerId ≠ [] ∨ phase = .absent ∨ phase = .announced := by
  have hfree' : s₀.hub.sending = none := by
    simpa [VipState.isFree] using hfree
  have hdone' : s.hub.sending = none := by
    simpa [VipState.isFree] using hdone
  obtain ⟨got, hsound⟩ := VipState.sound_run others steps
  rw [hs₀] at hsound
  have hstart : VipState.Watching playerId ⟨watchedPlayerIds, s₀.hub.subscriptions.length⟩
      targetPlayerId s₀.hub.log.length (s₀.step others (.register playerId watchedPlayerIds)) := by
    have hsound' : VipState.Sound
        (s₀.registerVipPresenceRecipient others playerId watchedPlayerIds) got :=
      hsound.register hfree' playerId watchedPlayerIds
    simp only [VipState.step, if_pos hfree]
    rcases VipState.register_cases others s₀ playerId watchedPlayerIds with ⟨-, hold⟩ | ⟨-, heq⟩
    · rw [hnew] at hold
      cases hold
    · rw [heq] at hsound' ⊢
      have hclosed := (hsound.fresh _ le_rfl).2
      have hseen := hsound.queues.seen_eq_nil le_rfl
      have hcomplete : Complete SharedVipPresenceRecipient.sender id s₀.hub.log.length playerId
          ⟨watchedPlayerIds, s₀.hub.subscriptions.length⟩ (s₀.hub.channels.seen _)
          (s₀.hub.subscribe playerId ⟨watchedPlayerIds, s₀.hub.subscriptions.length⟩) :=
        Complete.start_of
          (s := s₀.hub.subscribe playerId ⟨watchedPlayerIds, s₀.hub.subscriptions.length⟩)
          Std.ExtTreeMap.getElem?_insert_self hclosed hfree'
      rw [hseen] at hcomplete
      have hnothing : s₀.hub.log.drop s₀.hub.log.length = [] := List.drop_length
      refine ⟨⟨got, hsound'⟩, hcomplete, ?_, ?_, ?_⟩
      · intro entry hentry
        have hentry : entry ∈ s₀.hub.log.drop s₀.hub.log.length := hentry
        rw [hnothing] at hentry
        cases hentry
      · intro event hevent
        have hevent : (((s₀.hub.log.drop s₀.hub.log.length).map Prod.fst).filter
          _).getLast? = some event := hevent
        rw [hnothing] at hevent
        cases hevent
      · intro _ read hread
        have hread : s₀.entries s₀.hub.subscriptions.length targetPlayerId = some read := hread
        rw [(hsound.fresh _ le_rfl).1] at hread
        cases hread
  have hend := hrun.invariant (fun _ e h he => h.step hwatched hother hnumber e he) hstart
  unfold VipState.shows
  rw [hend.filter_seen hdone']
  cases hlast : (s.about s₀.hub.log.length targetPlayerId).getLast? with
  | some event =>
    have hsome : s.about s₀.hub.log.length targetPlayerId ≠ [] := fun hnil => by
      rw [hnil] at hlast
      cases hlast
    have hshown : event.online = decide (s.phase targetPlayerId = .announced) := by
      rw [Bool.eq_iff_iff, decide_eq_true_eq]
      exact hend.last event hlast
    exact iff_of_true hshown (.inl hsome)
  | none =>
    have hnil : s.about s₀.hub.log.length targetPlayerId = [] :=
      List.getLast?_eq_none_iff.mp hlast
    have hquiet := hend.quiet hnil phase hentry
    simp only [hentry, hnil, ne_eq, not_true_eq_false, false_or, ← hquiet]
    cases phase <;> simp

/-- A player is withdrawn, but still in the world. -/
def leaving : VipState :=
  [VipStep.enter 8, .announce 8, .deliver, .withdraw 8, .deliver].foldl
    (VipState.step knightLeaves.shared) .start

/-- A session comes just then, and the player leaves. -/
def staleEntry : VipState :=
  [VipStep.readEntry 0 8, .remove 8].foldl (VipState.step knightLeaves.shared)
    (leaving.step knightLeaves.shared (.register 7 {8}))

theorem staleEntry_shown : staleEntry.phase 8 = .absent ∧ staleEntry.shows 0 8 = true := by
  have hspared : Meets (VipState.step knightLeaves.shared) (VipState.Spares 7 ⟨{8}, 0⟩)
      (leaving.step knightLeaves.shared (.register 7 {8})) [VipStep.readEntry 0 8, .remove 8] :=
    ⟨trivial, trivial, trivial⟩
  have hview := vip_view_iff knightLeaves.shared
    [VipStep.enter 8, .announce 8, .deliver, .withdraw 8, .deliver] leaving rfl (by decide +kernel)
    7 (by decide +kernel) {8} 8 (by decide) (by decide) (by decide) staleEntry
    (Reaches.start.foldl hspared) (by decide +kernel) .withdrawn (by decide +kernel)
  have habsent : staleEntry.phase 8 = .absent := by decide +kernel
  have hquiet : staleEntry.about leaving.hub.log.length 8 = [] := by decide +kernel
  have hwrong : ¬ staleEntry.shows 0 8 = decide (staleEntry.phase 8 = .announced) := fun heq => by
    rcases hview.mp heq with hsaid | hread | hread
    · exact hsaid hquiet
    · cases hread
    · cases hread
  rw [habsent] at hwrong
  exact ⟨habsent, by simpa using hwrong⟩

end ForgottenEngine
