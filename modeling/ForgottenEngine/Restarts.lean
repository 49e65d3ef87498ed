import ForgottenEngine.MapRuns

/-!
# Restarts of the server

A server runs, stops and starts again, any number of times.  What it starts from is the source map
and the database; the map it shows is rebuilt from them.

* `restart` — what a server does with the tables of the database before anybody logs in;
* `Lives` — the states a server with this source map can be in, over all its lives;
* `Lives.tables_agree` — in all of them every tile shows its source items that are left, with the
  items of the registry on top;
* `Lives.restart_cases` — a server that starts again shows what it showed before, or does not start;
  and it starts exactly when the map is `Restorable`.
-/

namespace ForgottenEngine

namespace TransferServer

/-- Read the tables of the map, and rebuild it from the source. -/
def restart (s : TransferServer) : Except HostError TransferServer := do
  let journal ← s.database.loadMapItemRemovalJournal.mapError HostError.persistence
  let countOverrides ← s.database.loadMapItemCountOverrides.mapError HostError.persistence
  let runtimeItems ← s.database.loadRuntimeMapItems.mapError HostError.persistence
  let map ← (SharedNativeMap.recoverCompleteMapItemState s.map.source journal countOverrides
    runtimeItems).mapError HostError.core
  .ok (start map s.database)

/-- The states of a server with this source map: it is set up with empty tables; the game goes on;
the map is changed; other tables are written; the server stops and starts again. -/
inductive Lives (toLowercase : String → String) (source : WorldMap) : TransferServer → Prop
  | setUp {database : EngineDatabase} : database.mapItemRemovalJournal = [] →
      database.mapItemCountOverrides = [] → database.runtimeMapItems = [] →
      Lives toLowercase source (start (.new source) database)
  | game {s : TransferServer} (event : GameEvent) : Lives toLowercase source s →
      Lives toLowercase source (s.step toLowercase (.game event))
  | change {s : TransferServer} (change : MapChange) : Lives toLowercase source s →
      change.Sound s.map → Lives toLowercase source (s.step toLowercase (.change change))
  | save {s : TransferServer} (database : EngineDatabase) : Lives toLowercase source s →
      s.database.SameMapTables database →
      Lives toLowercase source (s.step toLowercase (.save database))
  | restarted {s s' : TransferServer} : Lives toLowercase source s → s.restart = .ok s' →
      Lives toLowercase source s'

variable {toLowercase : String → String} {source map : WorldMap} {s s' : TransferServer}

/-- A map that was just loaded. -/
theorem agrees_new (source : WorldMap) : (SharedNativeMap.new source).Agrees := by
  have hindexed : ∀ q, (SharedNativeMap.new source).Indexed q :=
    SharedNativeMap.indexed_surviving rfl
  refine ⟨hindexed, fun q => ⟨rfl, ?_⟩, ?_, ?_, fun record h => (List.not_mem_nil h).elim,
    Nat.zero_le _⟩
  · have hpart : (SharedNativeMap.new source).sourcePart q = (source.itemsAt q).map some := by
      have hall : (SharedNativeMap.new source).indicesAt q =
          List.range (source.itemsAt q).length := by
        rw [hindexed q]
        apply List.filter_eq_self.mpr
        intro i _
        simp [SharedNativeMap.new]
      unfold SharedNativeMap.sourcePart
      rw [hall]
      apply List.ext_getElem
      · simp
      · intro i hi _
        simp [SharedNativeMap.liveItem, SharedNativeMap.new]
    rw [hpart]
    simp [SharedNativeMap.new, recordsAt]
  · intro identity h
    exact absurd h Std.ExtTreeSet.not_mem_empty
  · intro identity count h
    simp [SharedNativeMap.new] at h

/-- A restart of a server that kept its tables. -/
theorem restart_of_kept (hs : s.host.Kept) :
    (∃ s', s.restart = .ok s' ∧ s.map.Restorable ∧ s.map.Rebuilt s'.map ∧
        s' = start s'.map s.database) ∨
      (∃ e, s.restart = .error e) ∧ ¬s.map.Restorable := by
  obtain ⟨journal, overrides, runtime, hjournal, hoverrides, hruntime, hstored⟩ :=
    hs.holds.load hs.agrees
  have hjournal : s.database.loadMapItemRemovalJournal = .ok journal := hjournal
  have hoverrides : s.database.loadMapItemCountOverrides = .ok overrides := hoverrides
  have hruntime : s.database.loadRuntimeMapItems = .ok runtime := hruntime
  unfold restart
  rcases hs.agrees.recover_cases hstored with ⟨m', hok, hrestorable, hrebuilt⟩ | ⟨⟨e, herror⟩, hnot⟩
  · have hok : SharedNativeMap.recoverCompleteMapItemState s.map.source journal overrides runtime =
        .ok m' := hok
    refine .inl ⟨start m' s.database, ?_, hrestorable, hrebuilt, rfl⟩
    simp only [hjournal, hoverrides, hruntime, hok, Except.mapError, bind, Except.bind]
  · have herror : SharedNativeMap.recoverCompleteMapItemState s.map.source journal overrides
        runtime = .error e := herror
    refine .inr ⟨⟨.core e, ?_⟩, hnot⟩
    simp only [hjournal, hoverrides, hruntime, herror, Except.mapError, bind, Except.bind]

/-- The tables a rebuilt map leaves in the database are its own. -/
theorem kept_rebuilt (hs : s.host.Kept) (hrebuilt : s.map.Rebuilt s'.map)
    (hs' : s' = start s'.map s.database) : s'.host.Kept := by
  have hdatabase : s'.database = s.database := by rw [hs', start]
  have hrevision : s'.map.sourceRevision = s.map.sourceRevision :=
    congrArg WorldMap.sourceRevision hrebuilt.source
  refine ⟨hrebuilt.agrees hs.agrees, ?_, ?_, ?_⟩
  · show s'.database.mapItemRemovalJournal.Perm s'.map.removedSourceItems.toList
    rw [hdatabase, hrebuilt.removed]
    exact hs.holds.journal
  · show s'.database.mapItemCountOverrides.Perm s'.map.countOverrides
    rw [hdatabase, SharedNativeMap.countOverrides, hrebuilt.overrides]
    exact hs.holds.overrides
  · show s'.database.runtimeMapItems.Perm
      (s'.map.runtimeTileItems.map fun record => (s'.map.sourceRevision, record))
    rw [hdatabase, hrevision]
    exact hs.holds.registry.trans (hrebuilt.registry.symm.map _)

namespace Lives

/-- What holds of every state of a server. -/
theorem invariant (h : Lives toLowercase source s) :
    s.host.Kept ∧ s.host.world.HoldersRegistered ∧ s.map.source = source := by
  induction h with
  | @setUp database hjournal hoverrides hregistry =>
    refine ⟨⟨agrees_new source, ?_, ?_, ?_⟩, ?_, rfl⟩
    · show database.mapItemRemovalJournal.Perm _
      rw [hjournal]
      exact List.Perm.refl _
    · show database.mapItemCountOverrides.Perm _
      rw [hoverrides]
      exact List.Perm.refl _
    · show database.runtimeMapItems.Perm _
      rw [hregistry]
      exact List.Perm.refl _
    · exact holdersRegistered toLowercase []
  | game event _ ih =>
    obtain ⟨hkept, hholders, hsource⟩ := ih
    exact ⟨⟨hkept.agrees, hkept.holds⟩, step_holders toLowercase hholders (.game event), hsource⟩
  | @change s change _ hsound ih =>
    obtain ⟨hkept, hholders, hsource⟩ := ih
    obtain ⟨hafter, hsame⟩ := MapChange.perform_kept hholders hkept hsound
    exact ⟨hafter, step_holders toLowercase hholders (.change change), hsame.trans hsource⟩
  | save database _ hsame ih =>
    obtain ⟨hkept, hholders, hsource⟩ := ih
    refine ⟨⟨hkept.agrees, ?_, ?_, ?_⟩, hholders, hsource⟩
    · show database.mapItemRemovalJournal.Perm _
      rw [hsame.journal]
      exact hkept.holds.journal
    · show database.mapItemCountOverrides.Perm _
      rw [hsame.overrides]
      exact hkept.holds.overrides
    · show database.runtimeMapItems.Perm _
      rw [hsame.registry]
      exact hkept.holds.registry
  | @restarted s s' _ hrun ih =>
    obtain ⟨hkept, hholders, hsource⟩ := ih
    rcases restart_of_kept hkept with ⟨t, ht, -, hrebuilt, hstart⟩ | ⟨⟨e, he⟩, -⟩
    · cases hrun.symm.trans ht
      refine ⟨kept_rebuilt hkept hrebuilt hstart, ?_, hrebuilt.source.trans hsource⟩
      rw [hstart]
      exact holdersRegistered toLowercase []
    · rw [he] at hrun
      cases hrun

/-- **In every state of a server** every tile shows its source items that are left, with the items
of the registry on top, and finds each of them in its tables. -/
theorem tables_agree (h : Lives toLowercase source s) (q : Position) :
    s.map.Aligned q ∧ s.map.Indexed q :=
  ⟨h.invariant.1.agrees.aligned q, h.invariant.1.agrees.indexed q⟩

/-- **A server that starts again** shows what it showed before, or does not start; it starts exactly
when its journal can be read back, and its registry lies on tiles of the source. -/
theorem restart_cases (h : Lives toLowercase source s) :
    (∀ s', s.restart = .ok s' → s.map.Rebuilt s'.map) ∧
      ((∃ s', s.restart = .ok s') ↔ s.map.Restorable) := by
  rcases restart_of_kept h.invariant.1 with ⟨t, ht, hrestorable, hrebuilt, -⟩ | ⟨⟨e, he⟩, hnot⟩
  · refine ⟨fun s' hs' => ?_, fun _ => hrestorable, fun _ => ⟨t, ht⟩⟩
    cases ht.symm.trans hs'
    exact hrebuilt
  · refine ⟨fun s' hs' => ?_, fun hsome => ?_, fun hrestorable => absurd hrestorable hnot⟩
    · rw [he] at hs'
      cases hs'
    · obtain ⟨s', hs'⟩ := hsome
      rw [he] at hs'
      cases hs'

end Lives

/-- Five coins and a torch on the ground. -/
def coinsMap : WorldMap where
  identifier := "coins"
  spawn := ⟨100, 100, 7⟩
  tiles := (∅ : BTreeMap Position WorldMapTile).insert ⟨100, 99, 7⟩ ⟨102, true⟩
  source := .feMapV1
  tileItems := (∅ : BTreeMap Position (List WorldMapItem)).insert ⟨100, 99, 7⟩
    [plainMapItem 2148 5 [], plainMapItem 2050 1 []]
  tileFlags := ∅
  houseTiles := ∅
  towns := KeyedMap.empty
  waypoints := ∅
  bounded := by
    intro position items h
    rw [Std.ExtTreeMap.getElem?_insert] at h
    split at h
    · cases h
      decide
    · simp at h

/-- A knight takes two of the coins, and then the torch. -/
def knightTakes : List MapChange :=
  [.equipStack 1 ⟨100, 99, 7⟩ 0 2 .rightHand, .equip 1 ⟨100, 99, 7⟩ 1 .leftHand]

/-- The server of a knight who took the first things. -/
def knightTook (changes : List MapChange) : TransferServer :=
  changes.foldl (fun s change => s.step id (.change change))
    ((start (.new coinsMap) InventorySave.onePlayerDatabase).step id (.game (knightEnters 1 100)))

theorem lives_knightTook {changes : List MapChange}
    (hsound : ∀ m, ∀ change ∈ changes, change.Sound m) :
    Lives id coinsMap (knightTook changes) := by
  have hstart : Lives id coinsMap ((start (.new coinsMap)
      InventorySave.onePlayerDatabase).step id (.game (knightEnters 1 100))) :=
    .game _ (.setUp rfl rfl rfl)
  unfold knightTook
  revert hstart
  generalize (start (.new coinsMap) InventorySave.onePlayerDatabase).step id
    (.game (knightEnters 1 100)) = s
  intro hs
  induction changes generalizing s with
  | nil => exact hs
  | cons change changes ih =>
    exact ih (fun m c hc => hsound m c (List.mem_cons_of_mem change hc)) _
      (.change change hs (hsound _ _ List.mem_cons_self))

theorem sound_knightTakes (m : SharedNativeMap) : ∀ change ∈ knightTakes, change.Sound m := by
  intro change hchange
  simp only [knightTakes, List.mem_cons, List.not_mem_nil, or_false] at hchange
  rcases hchange with rfl | rfl
  · trivial
  · trivial

/-- Three coins are left, and the map shows them. -/
theorem tables_agree_knight :
    ((knightTook knightTakes).map.Aligned ⟨100, 99, 7⟩ ∧
      (knightTook knightTakes).map.Indexed ⟨100, 99, 7⟩) ∧
    (knightTook knightTakes).map.map.itemsAt ⟨100, 99, 7⟩ = [plainMapItem 2148 3 []] :=
  ⟨Lives.tables_agree (lives_knightTook sound_knightTakes) ⟨100, 99, 7⟩, by decide +kernel⟩

/-- After either take the server starts again, after both of them it does not: three coins are
another revision than five. -/
theorem restart_knight :
    (knightTook (knightTakes.take 1)).map.Restorable ∧
      (knightTook (knightTakes.drop 1)).map.Restorable ∧
      ¬(knightTook knightTakes).map.Restorable := by
  have hrestarts {changes : List MapChange} (hsound : ∀ m, ∀ change ∈ changes, change.Sound m)
      (hok : (knightTook changes).restart.isOk = true) : (knightTook changes).map.Restorable := by
    refine (Lives.restart_cases (lives_knightTook hsound)).2.mp ?_
    cases hrun : (knightTook changes).restart with
    | ok s' => exact ⟨s', rfl⟩
    | error e =>
      rw [hrun] at hok
      cases hok
  refine ⟨hrestarts (fun m c hc => sound_knightTakes m c (List.mem_of_mem_take hc))
    (by decide +kernel), hrestarts (fun m c hc => sound_knightTakes m c (List.mem_of_mem_drop hc))
    (by decide +kernel), fun hrestorable => ?_⟩
  obtain ⟨s', hs'⟩ := (Lives.restart_cases (lives_knightTook sound_knightTakes)).2.mpr hrestorable
  have hfails : (knightTook knightTakes).restart.isOk = false := by decide +kernel
  rw [hs'] at hfails
  cases hfails

end TransferServer

end ForgottenEngine
