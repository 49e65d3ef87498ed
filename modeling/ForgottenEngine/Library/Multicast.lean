import ForgottenEngine.Library.OrderedMap

/-!
# Publishing to bounded queues under one lock

Subscribers stand in a table under keys, each with a bounded queue.  A publication takes the lock
of the table, offers its event to one subscriber after the other without waiting, and gives the lock
back.  The receiving ends need no lock: they take events, or go, between any two offers.

* `Sound` — what holds at every point of every run, for the publications that each queue got;
* `Delivered` — the cases of one offer, from which the rest follows;
* `Complete` — a subscriber whose queue has room whenever it counts gets all that is for it.
-/

namespace Multicast

/-- What `try_send` tells. -/
inductive SendOutcome where
  | sent
  | full
  | disconnected
deriving DecidableEq, Repr

/-- The queues by their endpoints: what waits, what was taken, and whether the receiver is gone. -/
structure Channels (ε : Type*) where
  pending : ℕ → List ε
  taken : ℕ → List ε
  closed : ℕ → Bool

namespace Channels

variable {ε : Type*}

def empty : Channels ε where
  pending _ := []
  taken _ := []
  closed _ := false

def push (c : Channels ε) (endpoint : ℕ) (event : ε) : Channels ε :=
  { c with pending := Function.update c.pending endpoint (c.pending endpoint ++ [event]) }

def trySend (capacity : ℕ) (c : Channels ε) (endpoint : ℕ) (event : ε) :
    SendOutcome × Channels ε :=
  if c.closed endpoint then (.disconnected, c)
  else if capacity ≤ (c.pending endpoint).length then (.full, c)
  else (.sent, c.push endpoint event)

def tryRecv (c : Channels ε) (endpoint : ℕ) : Channels ε :=
  match c.pending endpoint with
  | [] => c
  | event :: events => { c with
      pending := Function.update c.pending endpoint events
      taken := Function.update c.taken endpoint (c.taken endpoint ++ [event]) }

/-- The receiver goes, and with it what waits. -/
def close (c : Channels ε) (endpoint : ℕ) : Channels ε where
  pending := Function.update c.pending endpoint []
  taken := c.taken
  closed := Function.update c.closed endpoint true

/-- All that came through. -/
def seen (c : Channels ε) (endpoint : ℕ) : List ε := c.taken endpoint ++ c.pending endpoint

theorem seen_push_self (c : Channels ε) (endpoint : ℕ) (event : ε) :
    (c.push endpoint event).seen endpoint = c.seen endpoint ++ [event] := by
  simp [seen, push]

theorem seen_push_of_ne (c : Channels ε) {endpoint e : ℕ} (event : ε) (h : e ≠ endpoint) :
    (c.push endpoint event).seen e = c.seen e := by
  simp [seen, push, h]

theorem seen_tryRecv (c : Channels ε) (endpoint e : ℕ) :
    (c.tryRecv endpoint).seen e = c.seen e := by
  unfold tryRecv
  split
  · rfl
  · next event events hpending =>
    by_cases he : e = endpoint
    · subst he
      simp [seen, hpending]
    · simp [seen, he]

theorem closed_tryRecv (c : Channels ε) (endpoint : ℕ) :
    (c.tryRecv endpoint).closed = c.closed := by
  unfold tryRecv
  split <;> rfl

theorem length_tryRecv_le (c : Channels ε) (endpoint e : ℕ) :
    ((c.tryRecv endpoint).pending e).length ≤ (c.pending e).length := by
  unfold tryRecv
  split
  · exact le_rfl
  · next event events hpending =>
    by_cases he : e = endpoint
    · subst he
      simp [hpending]
    · simp [he]

end Channels

/-- A table of subscribers.  The number of a subscription is the endpoint it reads from. -/
structure Hub (κ σ ε π : Type*) [Ord κ] where
  table : BTreeMap κ σ
  subscriptions : List (κ × σ)
  channels : Channels ε
  /-- The publications, each with its keys, in the order in which they took the lock. -/
  log : List (π × List κ)
  /-- The publication that has the lock, and the keys that it has still to serve. -/
  sending : Option (π × List κ)

namespace Hub

variable {κ σ ε π : Type*} [Ord κ] [Std.TransOrd κ]

def empty : Hub κ σ ε π where
  table := ∅
  subscriptions := []
  channels := .empty
  log := []
  sending := none

def subscribe (s : Hub κ σ ε π) (key : κ) (subscriber : σ) : Hub κ σ ε π :=
  { s with
    table := s.table.insert key subscriber
    subscriptions := s.subscriptions ++ [(key, subscriber)] }

def unsubscribe (s : Hub κ σ ε π) (key : κ) : Hub κ σ ε π := { s with table := s.table.erase key }

/-- A publication takes the lock. -/
def publish (s : Hub κ σ ε π) (publication : π) (keys : List κ) : Hub κ σ ε π :=
  { s with log := s.log ++ [(publication, keys)], sending := some (publication, keys) }

/-- The next offer of the publication that has the lock, or its end. -/
def deliver (capacity : ℕ) (endpoint : σ → ℕ) (event : π → ε) (s : Hub κ σ ε π) : Hub κ σ ε π :=
  match s.sending with
  | none => s
  | some (_, []) => { s with sending := none }
  | some (publication, key :: keys) =>
    match s.table[key]? with
    | none => { s with sending := some (publication, keys) }
    | some subscriber =>
      match s.channels.trySend capacity (endpoint subscriber) (event publication) with
      | (.disconnected, channels) =>
        { s with channels, table := s.table.erase key, sending := some (publication, keys) }
      | (_, channels) => { s with channels, sending := some (publication, keys) }

def receive (s : Hub κ σ ε π) (endpoint : ℕ) : Hub κ σ ε π :=
  { s with channels := s.channels.tryRecv endpoint }

def close (s : Hub κ σ ε π) (endpoint : ℕ) : Hub κ σ ε π :=
  { s with channels := s.channels.close endpoint }

end Hub

variable {κ σ ε π : Type*} [Ord κ] [Std.TransOrd κ] {capacity : ℕ} {endpoint : σ → ℕ}
  {event : π → ε}

/-- The cases of one offer. -/
inductive Delivered (capacity : ℕ) (endpoint : σ → ℕ) (event : π → ε) (s : Hub κ σ ε π) :
    Hub κ σ ε π → Prop
  | idle : s.sending = none → Delivered capacity endpoint event s s
  | done {p : π} : s.sending = some (p, []) →
      Delivered capacity endpoint event s { s with sending := none }
  | absent {p : π} {key : κ} {keys : List κ} : s.sending = some (p, key :: keys) →
      s.table[key]? = none →
      Delivered capacity endpoint event s { s with sending := some (p, keys) }
  | closed {p : π} {key : κ} {keys : List κ} {x : σ} : s.sending = some (p, key :: keys) →
      s.table[key]? = some x → s.channels.closed (endpoint x) = true →
      Delivered capacity endpoint event s
        { s with table := s.table.erase key, sending := some (p, keys) }
  | full {p : π} {key : κ} {keys : List κ} {x : σ} : s.sending = some (p, key :: keys) →
      s.table[key]? = some x → s.channels.closed (endpoint x) = false →
      capacity ≤ (s.channels.pending (endpoint x)).length →
      Delivered capacity endpoint event s { s with sending := some (p, keys) }
  | sent {p : π} {key : κ} {keys : List κ} {x : σ} : s.sending = some (p, key :: keys) →
      s.table[key]? = some x → s.channels.closed (endpoint x) = false →
      (s.channels.pending (endpoint x)).length < capacity →
      Delivered capacity endpoint event s { s with
        channels := s.channels.push (endpoint x) (event p), sending := some (p, keys) }

theorem delivered (capacity : ℕ) (endpoint : σ → ℕ) (event : π → ε) (s : Hub κ σ ε π) :
    Delivered capacity endpoint event s (s.deliver capacity endpoint event) := by
  unfold Hub.deliver
  split
  · next h => exact .idle h
  · next h => exact .done h
  · next p key keys h =>
    split
    · next hx => exact .absent h hx
    · next x hx =>
      unfold Channels.trySend
      by_cases hclosed : s.channels.closed (endpoint x) = true
      · rw [if_pos hclosed]
        exact .closed h hx hclosed
      · have hopen : s.channels.closed (endpoint x) = false := by simpa using hclosed
        rw [if_neg hclosed]
        by_cases hfull : capacity ≤ (s.channels.pending (endpoint x)).length
        · rw [if_pos hfull]
          exact .full h hx hopen hfull
        · rw [if_neg hfull]
          exact .sent h hx hopen (not_le.mp hfull)

theorem Delivered.log_eq {s s' : Hub κ σ ε π} (h : Delivered capacity endpoint event s s') :
    s'.log = s.log := by
  cases h <;> rfl

theorem Delivered.subscriptions_eq {s s' : Hub κ σ ε π}
    (h : Delivered capacity endpoint event s s') : s'.subscriptions = s.subscriptions := by
  cases h <;> rfl

theorem Delivered.closed_eq {s s' : Hub κ σ ε π} (h : Delivered capacity endpoint event s s') :
    s'.channels.closed = s.channels.closed := by
  cases h <;> rfl

/-- An offer puts nobody into the table. -/
theorem Delivered.subscribed {s s' : Hub κ σ ε π} (h : Delivered capacity endpoint event s s')
    {k : κ} {x : σ} (hx : s'.table[k]? = some x) : s.table[k]? = some x := by
  cases h with
  | @closed p key keys y =>
    have hx : (s.table.erase key)[k]? = some x := hx
    rw [Std.ExtTreeMap.getElem?_erase] at hx
    split at hx
    · cases hx
    · exact hx
  | _ => exact hx

/-! ### What a queue gets -/

/-- The queue of an endpoint got the publications at the places `got endpoint` of the log. -/
structure Sound (capacity : ℕ) (endpoint : σ → ℕ) (event : π → ε) (addresses : π → κ → σ → Prop)
    (s : Hub κ σ ε π) (got : ℕ → List ℕ) : Prop where
  numbered : ∀ k x, s.table[k]? = some x → s.subscriptions[endpoint x]? = some (k, x)
  bounded : ∀ e, (s.channels.pending e).length ≤ capacity
  /-- in the order of the log, and each at most once -/
  ordered : ∀ e, (got e).Pairwise (· < ·)
  events : ∀ e, List.Forall₂ (fun i ev => ∃ p keys, s.log[i]? = some (p, keys) ∧ event p = ev)
    (got e) (s.channels.seen e)
  addressed : ∀ e, ∀ i ∈ got e, ∃ p keys k x, s.log[i]? = some (p, keys) ∧
    s.subscriptions[e]? = some (k, x) ∧ k ∈ keys ∧ addresses p k x
  /-- only one of the queues that were ever subscribed under a key -/
  once : ∀ i e e' k x x', i ∈ got e → i ∈ got e' → s.subscriptions[e]? = some (k, x) →
    s.subscriptions[e']? = some (k, x') → e = e'
  /-- the publication with the lock is the last one, and what it got was under a served key -/
  current : ∀ p keys, s.sending = some (p, keys) → ∃ served,
    s.log.getLast? = some (p, served ++ keys) ∧ (served ++ keys).Nodup ∧
    (∀ e, s.log.length - 1 ∈ got e → ∃ k x, s.subscriptions[e]? = some (k, x) ∧ k ∈ served) ∧
    ∀ k ∈ keys, ∀ x, s.table[k]? = some x → addresses p k x

namespace Sound

variable {addresses : π → κ → σ → Prop} {s : Hub κ σ ε π} {got : ℕ → List ℕ}

theorem lt_length (h : Sound capacity endpoint event addresses s got) {i e : ℕ} (hi : i ∈ got e) :
    i < s.log.length := by
  obtain ⟨p, keys, -, -, hlog, -⟩ := h.addressed e i hi
  exact (List.getElem?_eq_some_iff.mp hlog).1

theorem lt_subscriptions (h : Sound capacity endpoint event addresses s got) {i e : ℕ}
    (hi : i ∈ got e) : e < s.subscriptions.length := by
  obtain ⟨p, keys, k, x, -, hsubscription, -⟩ := h.addressed e i hi
  exact (List.getElem?_eq_some_iff.mp hsubscription).1

/-- A queue that nobody has subscribed yet is empty. -/
theorem seen_eq_nil (h : Sound capacity endpoint event addresses s got) {e : ℕ}
    (he : s.subscriptions.length ≤ e) : s.channels.seen e = [] := by
  have hgot : got e = [] := List.eq_nil_iff_forall_not_mem.mpr fun i hi => by
    have hlt := h.lt_subscriptions hi
    omega
  have hevents := h.events e
  rw [hgot] at hevents
  exact List.forall₂_nil_left_iff.mp hevents

/-- What is in the queues was published. -/
theorem published (h : Sound capacity endpoint event addresses s got) {e : ℕ} {ev : ε}
    (hev : ev ∈ s.channels.seen e) : ∃ p keys, (p, keys) ∈ s.log ∧ event p = ev := by
  obtain ⟨n, hn, rfl⟩ := List.getElem_of_mem hev
  obtain ⟨hlength, hevents⟩ := List.forall₂_iff_get.mp (h.events e)
  obtain ⟨p, keys, hlog, hp⟩ := hevents n (hlength ▸ hn) hn
  exact ⟨p, keys, List.mem_of_getElem? hlog, hp⟩

theorem of_empty :
    Sound capacity endpoint event addresses (Hub.empty : Hub κ σ ε π) fun _ => [] where
  numbered k x hx := by simp [Hub.empty] at hx
  bounded e := Nat.zero_le _
  ordered e := .nil
  events e := .nil
  addressed e i hi := by cases hi
  once i e e' k x x' hi := by cases hi
  current p keys hsending := by cases hsending

/-- Nobody publishes while the table changes. -/
theorem subscribe [Std.LawfulEqOrd κ] (h : Sound capacity endpoint event addresses s got)
    (hfree : s.sending = none) {key : κ} {x : σ} (hx : endpoint x = s.subscriptions.length) :
    Sound capacity endpoint event addresses (s.subscribe key x) got where
  numbered k y hy := by
    show (s.subscriptions ++ [(key, x)])[endpoint y]? = some (k, y)
    have hy : (s.table.insert key x)[k]? = some y := hy
    rw [Std.ExtTreeMap.getElem?_insert] at hy
    split at hy
    · next hk =>
      cases hy
      rw [hx, List.getElem?_concat_length, Std.LawfulEqOrd.eq_of_compare hk]
    · have hold := h.numbered k y hy
      rw [List.getElem?_append_left (List.getElem?_eq_some_iff.mp hold).1]
      exact hold
  bounded := h.bounded
  ordered := h.ordered
  events := h.events
  addressed e i hi := by
    obtain ⟨p, keys, k, y, hlog, hsubscription, hmem, haddr⟩ := h.addressed e i hi
    refine ⟨p, keys, k, y, hlog, ?_, hmem, haddr⟩
    show (s.subscriptions ++ [(key, x)])[e]? = _
    rw [List.getElem?_append_left (h.lt_subscriptions hi)]
    exact hsubscription
  once i e e' k y y' hi hi' he he' := by
    have he : (s.subscriptions ++ [(key, x)])[e]? = some (k, y) := he
    have he' : (s.subscriptions ++ [(key, x)])[e']? = some (k, y') := he'
    rw [List.getElem?_append_left (h.lt_subscriptions hi)] at he
    rw [List.getElem?_append_left (h.lt_subscriptions hi')] at he'
    exact h.once i e e' k y y' hi hi' he he'
  current p keys hsending := by
    have hsending : s.sending = some (p, keys) := hsending
    rw [hfree] at hsending
    cases hsending

theorem unsubscribe (h : Sound capacity endpoint event addresses s got) (hfree : s.sending = none)
    (key : κ) : Sound capacity endpoint event addresses (s.unsubscribe key) got where
  numbered k x hx := by
    have hx : (s.table.erase key)[k]? = some x := hx
    rw [Std.ExtTreeMap.getElem?_erase] at hx
    split at hx
    · cases hx
    · exact h.numbered k x hx
  bounded := h.bounded
  ordered := h.ordered
  events := h.events
  addressed := h.addressed
  once := h.once
  current p keys hsending := by
    have hsending : s.sending = some (p, keys) := hsending
    rw [hfree] at hsending
    cases hsending

theorem publish (h : Sound capacity endpoint event addresses s got) {p : π} {keys : List κ}
    (hnodup : keys.Nodup) (haddresses : ∀ k ∈ keys, ∀ x, s.table[k]? = some x → addresses p k x) :
    Sound capacity endpoint event addresses (s.publish p keys) got where
  numbered := h.numbered
  bounded := h.bounded
  ordered := h.ordered
  events e := by
    refine (h.events e).imp fun i ev hi => ?_
    obtain ⟨q, qkeys, hlog, hev⟩ := hi
    refine ⟨q, qkeys, ?_, hev⟩
    show (s.log ++ [(p, keys)])[i]? = _
    rw [List.getElem?_append_left (List.getElem?_eq_some_iff.mp hlog).1]
    exact hlog
  addressed e i hi := by
    obtain ⟨q, qkeys, k, x, hlog, hrest⟩ := h.addressed e i hi
    refine ⟨q, qkeys, k, x, ?_, hrest⟩
    show (s.log ++ [(p, keys)])[i]? = _
    rw [List.getElem?_append_left (List.getElem?_eq_some_iff.mp hlog).1]
    exact hlog
  once := h.once
  current q qkeys hsending := by
    cases hsending
    refine ⟨[], by simp [Hub.publish], hnodup, ?_, haddresses⟩
    intro e he
    have hlt := h.lt_length he
    simp [Hub.publish] at hlt

theorem receive (h : Sound capacity endpoint event addresses s got) (e : ℕ) :
    Sound capacity endpoint event addresses (s.receive e) got where
  numbered := h.numbered
  bounded e' := (Channels.length_tryRecv_le _ _ _).trans (h.bounded e')
  ordered := h.ordered
  events e' := by
    show List.Forall₂ _ _ ((s.channels.tryRecv e).seen e')
    rw [Channels.seen_tryRecv]
    exact h.events e'
  addressed := h.addressed
  once := h.once
  current := h.current

/-- What waited is lost. -/
theorem close (h : Sound capacity endpoint event addresses s got) (e : ℕ) :
    Sound capacity endpoint event addresses (s.close e)
      (Function.update got e ((got e).take (s.channels.taken e).length)) := by
  have hsub : ∀ e' i, i ∈ Function.update got e ((got e).take (s.channels.taken e).length) e' →
      i ∈ got e' := by
    intro e' i hi
    by_cases he : e' = e
    · subst he
      rw [Function.update_self] at hi
      exact List.mem_of_mem_take hi
    · rwa [Function.update_of_ne he] at hi
  exact {
    numbered := h.numbered
    bounded := fun e' => by
      show (Function.update s.channels.pending e [] e').length ≤ capacity
      by_cases he : e' = e
      · subst he
        rw [Function.update_self]
        exact Nat.zero_le _
      · rw [Function.update_of_ne he]
        exact h.bounded e'
    ordered := fun e' => by
      by_cases he : e' = e
      · subst he
        rw [Function.update_self]
        exact (h.ordered e').sublist (List.take_sublist _ _)
      · rw [Function.update_of_ne he]
        exact h.ordered e'
    events := fun e' => by
      show List.Forall₂ _ _ (s.channels.taken e' ++ Function.update s.channels.pending e [] e')
      by_cases he : e' = e
      · subst he
        have htake := List.forall₂_take (s.channels.taken e').length (h.events e')
        rw [Channels.seen, List.take_left] at htake
        rw [Function.update_self, Function.update_self, List.append_nil]
        exact htake
      · rw [Function.update_of_ne he, Function.update_of_ne he]
        exact h.events e'
    addressed := fun e' i hi => h.addressed e' i (hsub e' i hi)
    once := fun i e₁ e₂ k x x' hi hi' => h.once i e₁ e₂ k x x' (hsub e₁ i hi) (hsub e₂ i hi')
    current := fun p keys hsending => by
      obtain ⟨served, hlast, hnodup, hserved, haddresses⟩ := h.current p keys hsending
      exact ⟨served, hlast, hnodup, fun e' hi => hserved e' (hsub e' _ hi), haddresses⟩ }

/-- A key that is served without an event. -/
theorem pass (h : Sound capacity endpoint event addresses s got) {p : π} {key : κ} {keys : List κ}
    (hsending : s.sending = some (p, key :: keys)) :
    Sound capacity endpoint event addresses { s with sending := some (p, keys) } got where
  numbered := h.numbered
  bounded := h.bounded
  ordered := h.ordered
  events := h.events
  addressed := h.addressed
  once := h.once
  current q qkeys hq := by
    cases hq
    obtain ⟨served, hlast, hnodup, hserved, haddresses⟩ := h.current _ _ hsending
    refine ⟨served ++ [key], by simpa using hlast, by simpa using hnodup, ?_, ?_⟩
    · intro e he
      obtain ⟨k, x, hsubscription, hk⟩ := hserved e he
      exact ⟨k, x, hsubscription, List.mem_append_left _ hk⟩
    · intro k hk
      exact haddresses k (List.mem_cons_of_mem _ hk)

/-- A dead subscriber goes out of the table. -/
theorem drop (h : Sound capacity endpoint event addresses s got) {p : π} {key : κ} {keys : List κ}
    (hsending : s.sending = some (p, key :: keys)) : Sound capacity endpoint event addresses
      { s with table := s.table.erase key, sending := some (p, keys) } got where
  numbered k x hx := by
    have hx : (s.table.erase key)[k]? = some x := hx
    rw [Std.ExtTreeMap.getElem?_erase] at hx
    split at hx
    · cases hx
    · exact h.numbered k x hx
  bounded := h.bounded
  ordered := h.ordered
  events := h.events
  addressed := h.addressed
  once := h.once
  current q qkeys hq := by
    obtain ⟨served, hlast, hnodup, hserved, haddresses⟩ := (h.pass hsending).current q qkeys hq
    refine ⟨served, hlast, hnodup, hserved, ?_⟩
    intro k hk x hx
    have hx : (s.table.erase key)[k]? = some x := hx
    rw [Std.ExtTreeMap.getElem?_erase] at hx
    split at hx
    · cases hx
    · exact haddresses k hk x hx

/-- **One event goes into one queue.** -/
theorem send (h : Sound capacity endpoint event addresses s got) {p : π} {key : κ} {keys : List κ}
    {x : σ} (hsending : s.sending = some (p, key :: keys)) (hx : s.table[key]? = some x)
    (hroom : (s.channels.pending (endpoint x)).length < capacity) :
    Sound capacity endpoint event addresses
      { s with
        channels := s.channels.push (endpoint x) (event p), sending := some (p, keys) }
      (Function.update got (endpoint x) (got (endpoint x) ++ [s.log.length - 1])) := by
  obtain ⟨served, hlast, hnodup, hserved, haddresses⟩ := h.current _ _ hsending
  have hsubscription := h.numbered key x hx
  -- the last publication is in nobody's queue under this key
  have hfresh : ∀ e k y, s.log.length - 1 ∈ got e → s.subscriptions[e]? = some (k, y) →
      k ≠ key := by
    intro e k y hi he hk
    obtain ⟨k', y', he', hk'⟩ := hserved e hi
    rw [he] at he'
    cases he'
    subst hk
    exact List.disjoint_of_nodup_append hnodup hk' List.mem_cons_self
  have hlog : s.log[s.log.length - 1]? = some (p, served ++ key :: keys) := by
    rw [← List.getLast?_eq_getElem?]
    exact hlast
  have hcases : ∀ e i, i ∈ Function.update got (endpoint x)
      (got (endpoint x) ++ [s.log.length - 1]) e →
      i ∈ got e ∨ (e = endpoint x ∧ i = s.log.length - 1) := by
    intro e i hi
    by_cases he : e = endpoint x
    · subst he
      rw [Function.update_self, List.mem_append, List.mem_singleton] at hi
      exact hi.imp_right fun hi => ⟨rfl, hi⟩
    · rw [Function.update_of_ne he] at hi
      exact .inl hi
  exact {
    numbered := h.numbered
    bounded := fun e => by
      show (Function.update s.channels.pending (endpoint x) _ e).length ≤ capacity
      by_cases he : e = endpoint x
      · subst he
        rw [Function.update_self, List.length_append]
        exact hroom
      · rw [Function.update_of_ne he]
        exact h.bounded e
    ordered := fun e => by
      by_cases he : e = endpoint x
      · subst he
        rw [Function.update_self, List.pairwise_append]
        refine ⟨h.ordered _, List.pairwise_singleton _ _, fun i hi j hj => ?_⟩
        rw [List.mem_singleton] at hj
        have hlt := h.lt_length hi
        have hne : i ≠ s.log.length - 1 := by
          intro heq
          subst heq
          exact hfresh _ _ _ hi hsubscription rfl
        omega
      · rw [Function.update_of_ne he]
        exact h.ordered e
    events := fun e => by
      show List.Forall₂ _ _ ((s.channels.push (endpoint x) (event p)).seen e)
      by_cases he : e = endpoint x
      · subst he
        rw [Function.update_self, Channels.seen_push_self]
        exact List.rel_append (h.events _) (.cons ⟨p, _, hlog, rfl⟩ .nil)
      · rw [Function.update_of_ne he, Channels.seen_push_of_ne _ _ he]
        exact h.events e
    addressed := fun e i hi => by
      rcases hcases e i hi with hold | ⟨rfl, rfl⟩
      · exact h.addressed e i hold
      · exact ⟨p, _, key, x, hlog, hsubscription, List.mem_append_right _ List.mem_cons_self,
          haddresses key List.mem_cons_self x hx⟩
    once := fun i e e' k y y' hi hi' he he' => by
      rcases hcases e i hi with hold | ⟨rfl, rfl⟩
      · rcases hcases e' i hi' with hold' | ⟨rfl, rfl⟩
        · exact h.once i e e' k y y' hold hold' he he'
        · rw [hsubscription] at he'
          cases he'
          exact absurd rfl (hfresh e _ _ hold he)
      · rcases hcases e' _ hi' with hold' | ⟨rfl, -⟩
        · rw [hsubscription] at he
          cases he
          exact absurd rfl (hfresh e' _ _ hold' he')
        · rfl
    current := fun q qkeys hq => by
      cases hq
      refine ⟨served ++ [key], by simpa using hlast, by simpa using hnodup, ?_, ?_⟩
      · intro e hi
        rcases hcases e _ hi with hold | ⟨rfl, -⟩
        · obtain ⟨k, y, he, hk⟩ := hserved e hold
          exact ⟨k, y, he, List.mem_append_left _ hk⟩
        · exact ⟨key, x, hsubscription, List.mem_append_right _ List.mem_cons_self⟩
      · intro k hk
        exact haddresses k (List.mem_cons_of_mem _ hk) }

theorem deliver (h : Sound capacity endpoint event addresses s got) {s' : Hub κ σ ε π}
    (hs' : Delivered capacity endpoint event s s') :
    ∃ got', Sound capacity endpoint event addresses s' got' := by
  cases hs' with
  | idle => exact ⟨got, h⟩
  | done =>
    exact ⟨got, h.numbered, h.bounded, h.ordered, h.events, h.addressed, h.once,
      fun p keys hsending => by cases hsending⟩
  | absent hsending => exact ⟨got, h.pass hsending⟩
  | closed hsending => exact ⟨got, h.drop hsending⟩
  | full hsending => exact ⟨got, h.pass hsending⟩
  | sent hsending hx _ hroom => exact ⟨_, h.send hsending hx hroom⟩

end Sound

/-! ### Nothing is lost -/

section Complete

variable [DecidableEq κ]

/-- What the publication with the lock has still for a key. -/
def Hub.waiting (event : π → ε) (s : Hub κ σ ε π) (key : κ) : List ε :=
  match s.sending with
  | some (p, keys) => if key ∈ keys then [event p] else []
  | none => []

/-- The events for a key since a place in the log. -/
def Hub.due (event : π → ε) (s : Hub κ σ ε π) (start : ℕ) (key : κ) : List ε :=
  ((s.log.drop start).filter fun entry => key ∈ entry.2).map fun entry => event entry.1

/-- Behind `before`, the queue of a subscriber got all that was for its key, but for what the
publication with the lock has still to offer. -/
structure Complete (endpoint : σ → ℕ) (event : π → ε) (start : ℕ) (key : κ) (x : σ)
    (before : List ε) (s : Hub κ σ ε π) : Prop where
  subscribed : s.table[key]? = some x
  connected : s.channels.closed (endpoint x) = false
  started : start ≤ s.log.length
  all : s.channels.seen (endpoint x) ++ s.waiting event key = before ++ s.due event start key

/-- The offer, if it is one to this key, finds room. -/
def HasRoom (capacity : ℕ) (endpoint : σ → ℕ) (key : κ) (x : σ) (s : Hub κ σ ε π) : Prop :=
  ∀ p keys, s.sending = some (p, key :: keys) →
    (s.channels.pending (endpoint x)).length < capacity

namespace Complete

variable {addresses : π → κ → σ → Prop} {s : Hub κ σ ε π} {got : ℕ → List ℕ} {start : ℕ} {key : κ}
  {x : σ} {before : List ε}

/-- It begins with any state in which nobody publishes. -/
theorem start_of (hx : s.table[key]? = some x) (hopen : s.channels.closed (endpoint x) = false)
    (hfree : s.sending = none) : Complete endpoint event s.log.length key x
      (s.channels.seen (endpoint x)) s where
  subscribed := hx
  connected := hopen
  started := le_rfl
  all := by simp [Hub.waiting, Hub.due, hfree]

/-- Once the lock is free again. -/
theorem seen_eq (h : Complete endpoint event start key x before s) (hfree : s.sending = none) :
    s.channels.seen (endpoint x) = before ++ s.due event start key := by
  have hall := h.all
  simpa [Hub.waiting, hfree] using hall

theorem subscribe [Std.LawfulEqOrd κ] (h : Complete endpoint event start key x before s)
    {key' : κ} (hkey : key' ≠ key) (x' : σ) : Complete endpoint event start key x before
      (s.subscribe key' x') where
  subscribed := by
    show (s.table.insert key' x')[key]? = some x
    rw [Std.ExtTreeMap.getElem?_insert, if_neg fun heq => hkey (Std.LawfulEqOrd.eq_of_compare heq)]
    exact h.subscribed
  connected := h.connected
  started := h.started
  all := h.all

theorem unsubscribe [Std.LawfulEqOrd κ] (h : Complete endpoint event start key x before s)
    {key' : κ} (hkey : key' ≠ key) :
    Complete endpoint event start key x before (s.unsubscribe key') where
  subscribed := by
    show (s.table.erase key')[key]? = some x
    rw [Std.ExtTreeMap.getElem?_erase, if_neg fun heq => hkey (Std.LawfulEqOrd.eq_of_compare heq)]
    exact h.subscribed
  connected := h.connected
  started := h.started
  all := h.all

theorem publish (h : Complete endpoint event start key x before s) (hfree : s.sending = none)
    (p : π) (keys : List κ) :
    Complete endpoint event start key x before (s.publish p keys) where
  subscribed := h.subscribed
  connected := h.connected
  started := by
    show start ≤ (s.log ++ [(p, keys)]).length
    rw [List.length_append]
    exact h.started.trans (Nat.le_add_right _ _)
  all := by
    show s.channels.seen (endpoint x) ++ (if key ∈ keys then [event p] else []) =
      before ++ (((s.log ++ [(p, keys)]).drop start).filter fun entry => key ∈ entry.2).map
        fun entry => event entry.1
    rw [h.seen_eq hfree, List.drop_append_of_le_length h.started, List.filter_append,
      List.map_append, List.append_assoc]
    by_cases hmem : key ∈ keys
    · simp [Hub.due, hmem]
    · simp [Hub.due, hmem]

theorem receive (h : Complete endpoint event start key x before s) (e : ℕ) :
    Complete endpoint event start key x before (s.receive e) where
  subscribed := h.subscribed
  connected := by
    show (s.channels.tryRecv e).closed _ = false
    rw [Channels.closed_tryRecv]
    exact h.connected
  started := h.started
  all := by
    show (s.channels.tryRecv e).seen _ ++ _ = _
    rw [Channels.seen_tryRecv]
    exact h.all

theorem close (h : Complete endpoint event start key x before s) {e : ℕ} (he : endpoint x ≠ e) :
    Complete endpoint event start key x before (s.close e) where
  subscribed := h.subscribed
  connected := by
    show Function.update s.channels.closed e true _ = false
    rw [Function.update_of_ne he]
    exact h.connected
  started := h.started
  all := by
    show (s.channels.taken _ ++ Function.update s.channels.pending e [] _) ++ _ = _
    rw [Function.update_of_ne he]
    exact h.all

omit [Std.TransOrd κ] in
/-- The rest of the publication, when a key has been served that is not this one. -/
theorem waiting_tail {p : π} {key' : κ} {keys : List κ}
    (hsending : s.sending = some (p, key' :: keys)) (hkey : key' ≠ key) {s' : Hub κ σ ε π}
    (hs' : s'.sending = some (p, keys)) : s'.waiting event key = s.waiting event key := by
  simp [Hub.waiting, hsending, hs', Ne.symm hkey]

theorem deliver [Std.LawfulEqOrd κ] (h : Complete endpoint event start key x before s)
    (hsound : Sound capacity endpoint event addresses s got)
    (hroom : HasRoom capacity endpoint key x s) {s' : Hub κ σ ε π}
    (hs' : Delivered capacity endpoint event s s') :
    Complete endpoint event start key x before s' := by
  cases hs' with
  | idle => exact h
  | done hsending =>
    refine ⟨h.subscribed, h.connected, h.started, ?_⟩
    have hall := h.all
    simp only [Hub.waiting, hsending, List.not_mem_nil, if_false] at hall
    exact hall
  | @absent p key' keys hsending hnone =>
    have hkey : key' ≠ key := fun heq => by
      rw [heq, h.subscribed] at hnone
      cases hnone
    refine ⟨h.subscribed, h.connected, h.started, ?_⟩
    rw [waiting_tail hsending hkey rfl]
    exact h.all
  | @closed p key' keys y hsending hy hclosed =>
    have hkey : key' ≠ key := fun heq => by
      rw [heq, h.subscribed] at hy
      cases hy
      rw [h.connected] at hclosed
      cases hclosed
    refine ⟨?_, h.connected, h.started, ?_⟩
    · exact (h.unsubscribe hkey).subscribed
    · rw [waiting_tail hsending hkey rfl]
      exact h.all
  | @full p key' keys y hsending hy _ hfull =>
    have hkey : key' ≠ key := fun heq => by
      subst heq
      rw [h.subscribed] at hy
      cases hy
      exact absurd (hroom p keys hsending) (not_lt.mpr hfull)
    refine ⟨h.subscribed, h.connected, h.started, ?_⟩
    rw [waiting_tail hsending hkey rfl]
    exact h.all
  | @sent p key' keys y hsending hy =>
    refine ⟨h.subscribed, h.connected, h.started, ?_⟩
    show (s.channels.push (endpoint y) (event p)).seen (endpoint x) ++ _ = _
    by_cases hkey : key' = key
    · subst hkey
      rw [h.subscribed] at hy
      cases hy
      obtain ⟨served, -, hnodup, -⟩ := hsound.current _ _ hsending
      have hout : key' ∉ keys := (List.nodup_cons.mp (List.nodup_append.mp hnodup).2.1).1
      have hall := h.all
      rw [Channels.seen_push_self]
      simpa [Hub.waiting, hsending, hout, Hub.due] using hall
    · have hne : endpoint x ≠ endpoint y := fun heq => by
        have hsub := hsound.numbered _ _ h.subscribed
        rw [heq, hsound.numbered _ _ hy] at hsub
        cases hsub
        exact hkey rfl
      rw [Channels.seen_push_of_ne _ _ hne, waiting_tail hsending hkey rfl]
      exact h.all

end Complete

end Complete

end Multicast
