import ForgottenEngine.Library.PartialFold
import ForgottenEngine.Library.Rounds

/-!
# Bounded breadth-first search

From a start a search goes along labelled edges over free nodes, one queue entry a round, and stops
at the first goal it looks at.  An entry knows the label its path began with, and the length of the
path; entries at the bound are not expanded.

* `Maze` — the edges out of a node in the order they are looked at, the free nodes and the goals;
* `Maze.Searched` — the invariant: the queue is sorted and within one step of its head, every entry
  stands for a path, and what is behind the queue has been expanded;
* `Maze.search_correct` — **the search ends, and returns the first label of a shortest path** to
  another node that is a goal, or nothing when no such path is within the bound.
-/

namespace BreadthFirst

open Rounds

/-- A node to expand, the label its path began with and the length of the path. -/
structure Entry (α δ : Type*) where
  node : α
  first : Option δ
  distance : ℕ

/-- Where to search: every label is among the edges that are looked at. -/
structure Maze (α δ : Type*) where
  step : α → δ → Option α
  free : α → Bool
  goal : α → Bool
  order : List δ
  complete : ∀ label, label ∈ order

namespace Maze

variable {α δ : Type*} (m : Maze α δ)

/-- Along the labels, over free nodes. -/
def walk : α → List δ → Option α
  | a, [] => some a
  | a, label :: labels => (m.step a label).bind fun b => if m.free b then walk b labels else none

/-- The labels lead from the start to another node that is a goal. -/
def Leads (source : α) (bound : ℕ) (labels : List δ) : Prop :=
  labels.length ≤ bound ∧ ∃ b, m.walk source labels = some b ∧ b ≠ source ∧ m.goal b = true

/-- The first label of a shortest path, or nothing if there is no path. -/
def Correct (source : α) (bound : ℕ) : Option δ → Prop
  | none => ∀ labels, ¬m.Leads source bound labels
  | some label => ∃ rest, m.Leads source bound (label :: rest) ∧
      ∀ labels, m.Leads source bound labels → (label :: rest).length ≤ labels.length

theorem walk_concat (a : α) (labels : List δ) (label : δ) :
    m.walk a (labels ++ [label]) = (m.walk a labels).bind fun b =>
      (m.step b label).bind fun c => if m.free c then some c else none := by
  induction labels generalizing a with
  | nil =>
    show (m.step a label).bind _ = _
    rfl
  | cons first labels ih =>
    show (m.step a first).bind _ = ((m.step a first).bind _).bind _
    cases m.step a first with
    | none => rfl
    | some b =>
      show (if m.free b then m.walk b (labels ++ [label]) else none) =
        (if m.free b then m.walk b labels else none).bind _
      split
      · exact ih b
      · rfl

/-! ### The invariant -/

/-- `done` has been expanded, `queue` has not. -/
structure Searched (source : α) (bound : ℕ) (done queue : List (Entry α δ)) (visited : Finset α) :
    Prop where
  start : ⟨source, none, 0⟩ ∈ done ++ queue
  sorted : (done ++ queue).Pairwise fun a b => a.distance ≤ b.distance
  close : ∀ head rest, queue = head :: rest → ∀ entry ∈ rest, entry.distance ≤ head.distance + 1
  reached : ∀ entry ∈ done ++ queue, ∃ labels, m.walk source labels = some entry.node ∧
    labels.length = entry.distance ∧ labels.head? = entry.first
  source_mem : source ∈ visited
  visited : ∀ b ∈ visited, m.free b = true → b ≠ source → ∃ entry ∈ done ++ queue, entry.node = b
  expanded : ∀ entry ∈ done, entry.distance < bound → ∀ label b, m.step entry.node label = some b →
    m.free b = true → ∃ next ∈ done ++ queue, next.node = b ∧ next.distance ≤ entry.distance + 1
  quiet : ∀ entry ∈ done ++ queue, entry.node ≠ source → m.goal entry.node = false

variable {m} {source : α} {bound : ℕ} {done queue : List (Entry α δ)} {visited : Finset α}

theorem searched_start (m : Maze α δ) (source : α) (bound : ℕ) :
    m.Searched source bound [] [⟨source, none, 0⟩] {source} where
  start := by simp
  sorted := by simp
  close head rest heq := by
    cases heq
    simp
  reached entry hentry := by
    rw [List.nil_append, List.mem_singleton] at hentry
    subst hentry
    exact ⟨[], rfl, rfl, rfl⟩
  source_mem := Finset.mem_singleton_self _
  visited b hb _ hne := absurd (Finset.mem_singleton.mp hb) hne
  expanded entry hentry := absurd hentry List.not_mem_nil
  quiet entry hentry hne := by
    rw [List.nil_append, List.mem_singleton] at hentry
    rw [hentry] at hne
    exact absurd rfl hne

/-- A short path ends where the search has been: its last node but one is behind the queue. -/
theorem Searched.entry_of_walk (h : m.Searched source bound done queue visited) {labels : List δ}
    {b : α} (hwalk : m.walk source labels = some b) (hbound : labels.length ≤ bound)
    (hqueue : ∀ entry ∈ queue, labels.length ≤ entry.distance) :
    ∃ entry ∈ done ++ queue, entry.node = b ∧ entry.distance ≤ labels.length := by
  induction labels using List.reverseRecOn generalizing b with
  | nil =>
    cases hwalk
    exact ⟨_, h.start, rfl, Nat.le_refl 0⟩
  | append_singleton labels label ih =>
    rw [List.length_append, List.length_singleton] at hbound hqueue ⊢
    rw [walk_concat, Option.bind_eq_some_iff] at hwalk
    obtain ⟨a, ha, hwalk⟩ := hwalk
    rw [Option.bind_eq_some_iff] at hwalk
    obtain ⟨c, hstep, hfree⟩ := hwalk
    rw [Option.ite_none_right_eq_some, Option.some.injEq] at hfree
    obtain ⟨hfree, rfl⟩ := hfree
    obtain ⟨entry, hentry, rfl, hdistance⟩ := ih ha (Nat.le_of_succ_le hbound)
      fun entry hentry => Nat.le_of_succ_le (hqueue entry hentry)
    have hdone : entry ∈ done := by
      rcases List.mem_append.mp hentry with hdone | hin
      · exact hdone
      · exact absurd (hqueue entry hin) (by omega)
    obtain ⟨next, hnext, hnode, hnear⟩ := h.expanded entry hdone (by omega) label c hstep hfree
    exact ⟨next, hnext, hnode, by omega⟩

/-- **Nothing nearer than the queue is a goal.** -/
theorem Searched.length_lt_of_leads (h : m.Searched source bound done queue visited)
    {labels : List δ} (hleads : m.Leads source bound labels) :
    ∃ entry ∈ queue, entry.distance < labels.length := by
  obtain ⟨hbound, b, hwalk, hne, hgoal⟩ := hleads
  by_contra hnone
  obtain ⟨entry, hentry, rfl, -⟩ := h.entry_of_walk hwalk hbound fun entry hentry => by
    by_contra hless
    exact hnone ⟨entry, hentry, Nat.lt_of_not_le hless⟩
  rw [h.quiet entry hentry hne] at hgoal
  cases hgoal

/-- The entry at the head goes behind the queue, once its edges have been looked at. -/
theorem Searched.pop {entry : Entry α δ} (h : m.Searched source bound done (entry :: queue) visited)
    (hlooked : entry.distance < bound → ∀ label b, m.step entry.node label = some b →
      m.free b = true → ∃ next ∈ done ++ entry :: queue, next.node = b ∧
        next.distance ≤ entry.distance + 1) :
    m.Searched source bound (done ++ [entry]) queue visited := by
  have happend : done ++ [entry] ++ queue = done ++ entry :: queue := by simp
  refine ⟨happend ▸ h.start, happend ▸ h.sorted, fun head rest heq other hother => ?_,
    happend ▸ h.reached, h.source_mem, happend ▸ h.visited, fun other hother => ?_,
    happend ▸ h.quiet⟩
  · have hhead := h.close entry queue rfl other (heq ▸ List.mem_cons_of_mem _ hother)
    have hsorted := (List.pairwise_append.mp h.sorted).2.1
    have hmem : head ∈ queue := by
      rw [heq]
      exact List.mem_cons_self
    have hle := List.rel_of_pairwise_cons hsorted hmem
    omega
  · rw [happend]
    rcases List.mem_append.mp hother with hother | hother
    · exact h.expanded other hother
    · rw [List.mem_singleton.mp hother]
      exact hlooked

/-- Everything the search knows of is within one step of the head of the queue. -/
theorem Searched.near {entry : Entry α δ}
    (h : m.Searched source bound done (entry :: queue) visited) :
    ∀ other ∈ done ++ entry :: queue, other.distance ≤ entry.distance + 1 := by
  intro other hother
  rcases List.mem_append.mp hother with hdone | hqueue
  · exact Nat.le_succ_of_le ((List.pairwise_append.mp h.sorted).2.2 other hdone entry
      List.mem_cons_self)
  · rcases List.mem_cons.mp hqueue with rfl | hqueue
    · exact Nat.le_succ _
    · exact h.close entry queue rfl other hqueue

/-- A free node that was looked at before has an entry. -/
theorem Searched.entry_of_visited (h : m.Searched source bound done queue visited) {b : α}
    (hb : b ∈ visited) (hfree : m.free b = true) : ∃ entry ∈ done ++ queue, entry.node = b := by
  by_cases hsource : b = source
  · exact ⟨_, h.start, hsource.symm⟩
  · exact h.visited b hb hfree hsource

/-- **A goal that is looked at ends a shortest path.** -/
theorem Searched.found {entry : Entry α δ}
    (h : m.Searched source bound done (entry :: queue) visited) (hbound : entry.distance < bound)
    {label : δ} {b : α} (hstep : m.step entry.node label = some b) (hnew : b ∉ visited)
    (hfree : m.free b = true) (hgoal : m.goal b = true) :
    m.Correct source bound (some (entry.first.getD label)) := by
  obtain ⟨labels, hwalk, hlength, hfirst⟩ := h.reached entry (by simp)
  obtain ⟨rest, hrest⟩ : ∃ rest, labels ++ [label] = entry.first.getD label :: rest := by
    rw [← hfirst]
    cases labels with
    | nil => exact ⟨[], rfl⟩
    | cons first labels => exact ⟨labels ++ [label], rfl⟩
  refine ⟨rest, ?_, fun other hother => ?_⟩
  · rw [← hrest]
    refine ⟨by simp [hlength, hbound], b, ?_, fun heq => hnew (heq ▸ h.source_mem), hgoal⟩
    rw [walk_concat, hwalk, Option.bind_some, hstep, Option.bind_some, if_pos hfree]
  · obtain ⟨nearest, hnearest, hless⟩ := h.length_lt_of_leads hother
    have hle : entry.distance ≤ nearest.distance := by
      rcases List.mem_cons.mp hnearest with rfl | hqueue
      · exact Nat.le_refl _
      · exact List.rel_of_pairwise_cons (List.pairwise_append.mp h.sorted).2.1 hqueue
    rw [← hrest, List.length_append, List.length_singleton, hlength]
    omega

variable [DecidableEq α]

/-! ### The search -/

variable (m)

/-- Look along one edge; a goal ends the search with the label its path began with. -/
def look (entry : Entry α δ) (state : Finset α × List (Entry α δ)) (label : δ) :
    Except δ (Finset α × List (Entry α δ)) :=
  match m.step entry.node label with
  | none => .ok state
  | some b =>
    let visited := insert b state.1
    if b ∈ state.1 ∨ ¬m.free b then .ok (visited, state.2)
    else
      let first := entry.first.getD label
      if m.goal b then .error first
      else .ok (visited, state.2 ++ [⟨b, some first, entry.distance + 1⟩])

/-- One round of the search, over the nodes looked at and the queue. -/
def round (bound : ℕ) : Finset α × List (Entry α δ) →
    (Finset α × List (Entry α δ)) ⊕ Option δ
  | (_, []) => .inr none
  | (visited, entry :: queue) =>
    if bound ≤ entry.distance then .inl (visited, queue)
    else match m.order.foldlM (m.look entry) (visited, queue) with
      | .error label => .inr (some label)
      | .ok state => .inl state

variable {m}

/-- A node that was looked at before, or is not free. -/
theorem Searched.see (h : m.Searched source bound done queue visited) {b : α}
    (hold : b ∈ visited ∨ m.free b = false) :
    m.Searched source bound done queue (insert b visited) :=
  { h with
    source_mem := Finset.mem_insert_of_mem h.source_mem
    visited := by
      intro c hc hfree hne
      rcases Finset.mem_insert.mp hc with rfl | hc
      · rcases hold with hold | hnot
        · exact h.visited c hold hfree hne
        · rw [hnot] at hfree
          cases hfree
      · exact h.visited c hc hfree hne }

/-- A free node that was not looked at before goes into the queue. -/
theorem Searched.push {entry : Entry α δ}
    (h : m.Searched source bound done (entry :: queue) visited) {label : δ} {b : α}
    (hstep : m.step entry.node label = some b) (hnew : b ∉ visited) (hfree : m.free b = true)
    (hgoal : m.goal b = false) :
    m.Searched source bound done
      (entry :: (queue ++ [⟨b, some (entry.first.getD label), entry.distance + 1⟩]))
      (insert b visited) := by
  have happend (new : Entry α δ) : done ++ entry :: (queue ++ [new]) =
      (done ++ entry :: queue) ++ [new] := by simp
  have hkeep {new other : Entry α δ} (hother : other ∈ done ++ entry :: queue) :
      other ∈ (done ++ entry :: queue) ++ [new] := List.mem_append_left _ hother
  constructor
  · rw [happend]
    exact hkeep h.start
  · rw [happend]
    refine List.pairwise_append.mpr ⟨h.sorted, List.pairwise_singleton _ _, ?_⟩
    intro other hother new hmem
    rw [List.mem_singleton.mp hmem]
    exact h.near other hother
  · intro head rest heq other hother
    cases heq
    rcases List.mem_append.mp hother with hother | hmem
    · exact h.close entry queue rfl other hother
    · rw [List.mem_singleton.mp hmem]
  · rw [happend]
    intro other hother
    rcases List.mem_append.mp hother with hother | hmem
    · exact h.reached other hother
    · rw [List.mem_singleton.mp hmem]
      obtain ⟨labels, hwalk, hlength, hfirst⟩ := h.reached entry (by simp)
      refine ⟨labels ++ [label], ?_, by simp [hlength], ?_⟩
      · rw [walk_concat, hwalk, Option.bind_some, hstep, Option.bind_some, if_pos hfree]
      · rw [List.head?_append, hfirst]
        cases entry.first with
        | none => rfl
        | some first => rfl
  · exact Finset.mem_insert_of_mem h.source_mem
  · rw [happend]
    intro c hc hfree' hne
    rcases Finset.mem_insert.mp hc with rfl | hc
    · exact ⟨_, List.mem_append_right _ (List.mem_singleton_self _), rfl⟩
    · obtain ⟨other, hother, hnode⟩ := h.visited c hc hfree' hne
      exact ⟨other, hkeep hother, hnode⟩
  · rw [happend]
    intro other hother hbound label' c hstep' hfree'
    obtain ⟨next, hnext, hnode, hnear⟩ := h.expanded other hother hbound label' c hstep' hfree'
    exact ⟨next, hkeep hnext, hnode, hnear⟩
  · rw [happend]
    intro other hother hne
    rcases List.mem_append.mp hother with hother | hmem
    · exact h.quiet other hother hne
    · rw [List.mem_singleton.mp hmem]
      exact hgoal

/-- In the middle of a round: the edges with the labels `looked` have been looked at, and the queue
and the nodes of `space` not looked at are at most `size`. -/
structure Looking (m : Maze α δ) (source : α) (bound : ℕ) (space : Finset α)
    (done : List (Entry α δ)) (entry : Entry α δ) (size : ℕ) (looked : List δ)
    (state : Finset α × List (Entry α δ)) : Prop where
  searched : m.Searched source bound done (entry :: state.2) state.1
  looked : ∀ label ∈ looked, ∀ b, m.step entry.node label = some b → m.free b = true →
    ∃ next ∈ done ++ entry :: state.2, next.node = b ∧ next.distance ≤ entry.distance + 1
  size : state.2.length + (space \ state.1).card ≤ size

variable {space : Finset α} {entry : Entry α δ} {size : ℕ}

/-- **One edge.** -/
theorem Looking.next (hspace : ∀ labels b, labels.length ≤ bound →
      m.walk source labels = some b → b ∈ space) (hbound : entry.distance < bound)
    {looked : List δ} {state state' : Finset α × List (Entry α δ)}
    (h : m.Looking source bound space done entry size looked state) {label : δ}
    (hlook : m.look entry state label = .ok state') :
    m.Looking source bound space done entry size (looked ++ [label]) state' := by
  obtain ⟨visited, queue⟩ := state
  unfold look at hlook
  cases hstep : m.step entry.node label with
  | none =>
    rw [hstep] at hlook
    cases hlook
    refine ⟨h.searched, fun label' hlabel b hb => ?_, h.size⟩
    rcases List.mem_append.mp hlabel with hlabel | hlabel
    · exact h.looked label' hlabel b hb
    · rw [List.mem_singleton.mp hlabel, hstep] at hb
      cases hb
  | some b =>
    rw [hstep] at hlook
    simp only at hlook
    split at hlook
    · rename_i hold
      cases hlook
      have hold : b ∈ visited ∨ m.free b = false := by simpa using hold
      refine ⟨h.searched.see hold, fun label' hlabel c hc hfree => ?_, ?_⟩
      · rcases List.mem_append.mp hlabel with hlabel | hlabel
        · exact h.looked label' hlabel c hc hfree
        · rw [List.mem_singleton.mp hlabel, hstep] at hc
          cases hc
          have hvisited : b ∈ visited := by simpa [hfree] using hold
          obtain ⟨next, hnext, hnode⟩ := h.searched.entry_of_visited hvisited hfree
          exact ⟨next, hnext, hnode, h.searched.near next hnext⟩
      · have hless := Finset.card_le_card (Finset.sdiff_subset_sdiff (Finset.Subset.refl space)
          (Finset.subset_insert b visited))
        exact (Nat.add_le_add_left hless _).trans h.size
    · rename_i hnew
      simp only [not_or, not_not] at hnew
      split at hlook
      · cases hlook
      · rename_i hgoal
        cases hlook
        have hgoal : m.goal b = false := by simpa using hgoal
        have hkeep {next new : Entry α δ} (hnext : next ∈ done ++ entry :: queue) :
            next ∈ done ++ entry :: (queue ++ [new]) := by
          rw [← List.cons_append, ← List.append_assoc]
          exact List.mem_append_left _ hnext
        refine ⟨h.searched.push hstep hnew.1 hnew.2 hgoal, fun label' hlabel c hc hfree => ?_, ?_⟩
        · rcases List.mem_append.mp hlabel with hlabel | hlabel
          · obtain ⟨next, hnext, hnode, hnear⟩ := h.looked label' hlabel c hc hfree
            exact ⟨next, hkeep hnext, hnode, hnear⟩
          · rw [List.mem_singleton.mp hlabel, hstep] at hc
            cases hc
            exact ⟨⟨b, some (entry.first.getD label), entry.distance + 1⟩, by simp, rfl,
              Nat.le_refl _⟩
        · obtain ⟨labels, hwalk, hlength, -⟩ := h.searched.reached entry (by simp)
          have hmem : b ∈ space := by
            refine hspace (labels ++ [label]) b (by simp [hlength, hbound]) ?_
            rw [walk_concat, hwalk, Option.bind_some, hstep, Option.bind_some, if_pos hnew.2]
          have hcard : (space \ insert b visited).card + 1 = (space \ visited).card := by
            rw [Finset.sdiff_insert]
            exact Finset.card_erase_add_one (Finset.mem_sdiff.mpr ⟨hmem, hnew.1⟩)
          have hsize := h.size
          simp only [List.length_append, List.length_singleton] at hsize ⊢
          omega

/-- **One round**: the search goes on with less before it, or has its result. -/
theorem Searched.round (hspace : ∀ labels b, labels.length ≤ bound →
      m.walk source labels = some b → b ∈ space)
    (h : m.Searched source bound done queue visited) :
    (∀ state, m.round bound (visited, queue) = .inl state →
      (∃ done', m.Searched source bound done' state.2 state.1) ∧
        state.2.length + (space \ state.1).card < queue.length + (space \ visited).card) ∧
    ∀ result, m.round bound (visited, queue) = .inr result → m.Correct source bound result := by
  cases queue with
  | nil =>
    refine ⟨fun state hround => (by cases hround), fun result hround => ?_⟩
    cases hround
    intro labels hleads
    obtain ⟨entry, hentry, -⟩ := h.length_lt_of_leads hleads
    exact List.not_mem_nil hentry
  | cons entry queue =>
    simp only [Maze.round]
    by_cases hbound : bound ≤ entry.distance
    · rw [if_pos hbound]
      refine ⟨fun state hround => ?_, fun result hround => by cases hround⟩
      cases hround
      exact ⟨⟨_, h.pop fun hless => absurd hless (Nat.not_lt.mpr hbound)⟩,
        by simp only [List.length_cons]; omega⟩
    · rw [if_neg hbound]
      have hbound := Nat.lt_of_not_le hbound
      have hedges := PartialFold.foldlM_either
        (I := m.Looking source bound space done entry (queue.length + (space \ visited).card))
        (Q := fun label => m.Correct source bound (some label))
        (fun pre state label state' hpre hlook => Looking.next hspace hbound hpre hlook)
        (fun pre state label first hpre hlook => ?_)
        (s := (visited, queue)) ⟨h, by simp, Nat.le_refl _⟩ m.order
      · cases hfold : m.order.foldlM (m.look entry) (visited, queue) with
        | error label =>
          refine ⟨fun state hround => (by cases hround), fun result hround => ?_⟩
          cases hround
          exact hedges.2 label hfold
        | ok state =>
          refine ⟨fun state' hround => ?_, fun result hround => by cases hround⟩
          cases hround
          have hlooked := hedges.1 state hfold
          refine ⟨⟨_, hlooked.searched.pop fun _ label => hlooked.looked label (m.complete label)⟩,
            ?_⟩
          have hsize := hlooked.size
          simp only [List.length_cons]
          omega
      · unfold look at hlook
        cases hstep : m.step entry.node label with
        | none =>
          rw [hstep] at hlook
          cases hlook
        | some b =>
          rw [hstep] at hlook
          simp only at hlook
          split at hlook
          · cases hlook
          · rename_i hnew
            simp only [not_or, not_not] at hnew
            split at hlook
            · rename_i hgoal
              cases hlook
              exact hpre.searched.found hbound hstep hnew.1 hnew.2 hgoal
            · cases hlook

/-- **The search ends and is right**, within as many rounds as there are nodes in reach. -/
theorem search_correct (m : Maze α δ) (source : α) (bound : ℕ) (space : Finset α)
    (hspace : ∀ labels b, labels.length ≤ bound → m.walk source labels = some b → b ∈ space) :
    ∃ n result, n ≤ space.card + 1 ∧
      EndsIn (m.round bound) n ({source}, [⟨source, none, 0⟩]) result ∧
        m.Correct source bound result := by
  let Inv (state : Finset α × List (Entry α δ)) : Prop :=
    ∃ done, m.Searched source bound done state.2 state.1
  have hstart : Inv ({source}, [⟨source, none, 0⟩]) := ⟨[], searched_start m source bound⟩
  obtain ⟨n, result, hn, hrun⟩ := @exists_endsIn _ _ (m.round bound) Inv
    (fun state => state.2.length + (space \ state.1).card)
    (fun state state' hstate hround => by
      obtain ⟨done, hdone⟩ := hstate
      exact (hdone.round hspace).1 state' hround) _ hstart
  refine ⟨n, result, ?_, hrun, ?_⟩
  · have hmem : source ∈ space := hspace [] source (Nat.zero_le _) rfl
    have hcard := Finset.card_erase_add_one hmem
    simp only [List.length_singleton, Finset.sdiff_singleton_eq_erase] at hn
    omega
  · refine hrun.result (I := Inv) (fun state state' hstate hround => ?_)
      (fun state result hstate hround => ?_) hstart
    · obtain ⟨done, hdone⟩ := hstate
      exact ((hdone.round hspace).1 state' hround).1
    · obtain ⟨done, hdone⟩ := hstate
      exact (hdone.round hspace).2 result hround

end Maze

end BreadthFirst
