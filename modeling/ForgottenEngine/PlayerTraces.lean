import ForgottenEngine.PartyRuns

/-!
# Who is mentioned in the tables

`MentionsOnly known w` says that every table with an entry for a player, and every reference to a
player, mentions known players only.  Every operation keeps this for the registered players but
two: a removal forgets neither the food window, nor the operator flags, nor the frags, nor an open
trade, and a frag is recorded for whoever is named.  In runs without these two
(`LeavesNoTrace`) every table mentions registered players only.
-/

namespace ForgottenEngine

open Fallible

/-- Everybody the tables mention is known. -/
structure MentionsOnly (known : ℕ → Prop) (w : GameWorld) : Prop where
  noted : ∀ p, w.Noted p → known p
  holds : ∀ p, w.toWorldState.Holds p → known p
  trades : ∀ p, w.toWorldState.Trades p → known p
  vitals : ∀ (p : ℕ) vitals, w.playerVitals[p]? = some vitals → known p
  conditions : ∀ (p : ℕ) conditions, w.playerConditions[p]? = some conditions → known p
  lifecycle : ∀ (p : ℕ) state, w.playerRespawnStates[p]? = some state → known p
  intents : ∀ (p : ℕ) intent, w.playerInteractions[p]? = some intent → known p
  pursued : ∀ p q, w.Pursues p q → known q
  targets : ∀ (id : ℕ) runtime q, w.staticCreatures[id]? = some runtime →
    runtime.targetPlayerId = some q → known q
  parties : w.party.Sound known

/-- An entry after writing one entry. -/
theorem known_of_insert {α : Type} {known : ℕ → Prop} {table : BTreeMap ℕ α} {p : ℕ} {x : α}
    (h : ∀ (q : ℕ) y, table[q]? = some y → known q) (hp : known p) :
    ∀ (q : ℕ) y, (table.insert p x)[q]? = some y → known q := by
  intro q y hy
  simp only [Std.ExtTreeMap.getElem?_insert, Std.LawfulEqCmp.compare_eq_iff_eq] at hy
  split at hy
  · rename_i heq
    exact heq ▸ hp
  · exact h q y hy

/-- An entry after erasing one entry. -/
theorem known_of_erase {α : Type} {known : ℕ → Prop} {table : BTreeMap ℕ α} {p : ℕ}
    (h : ∀ (q : ℕ) y, table[q]? = some y → known q) :
    ∀ (q : ℕ) y, (table.erase p)[q]? = some y → known q ∧ q ≠ p := by
  intro q y hy
  simp only [Std.ExtTreeMap.getElem?_erase, Std.LawfulEqCmp.compare_eq_iff_eq] at hy
  split at hy
  · cases hy
  · rename_i hne
    exact ⟨h q y hy, Ne.symm hne⟩

namespace MentionsOnly

variable {known known' : ℕ → Prop} {w : GameWorld}

theorem mono (h : MentionsOnly known w) (hmono : ∀ p, known p → known' p) :
    MentionsOnly known' w where
  noted := fun p hp => hmono p (h.noted p hp)
  holds := fun p hp => hmono p (h.holds p hp)
  trades := fun p hp => hmono p (h.trades p hp)
  vitals := fun p v hv => hmono p (h.vitals p v hv)
  conditions := fun p c hc => hmono p (h.conditions p c hc)
  lifecycle := fun p s hs => hmono p (h.lifecycle p s hs)
  intents := fun p i hi => hmono p (h.intents p i hi)
  pursued := fun p q hq => hmono q (h.pursued p q hq)
  targets := fun id r q hr hq => hmono q (h.targets id r q hr hq)
  parties := h.parties.mono hmono

/-- Intents that lost some of their references. -/
theorem narrowed (h : MentionsOnly known w) {intents : BTreeMap ℕ PlayerInteractionIntent}
    (hnarrows : Narrows w.playerInteractions intents) :
    MentionsOnly known (w.putInteractions intents) :=
  { h with
    intents := by
      intro p intent hintent
      obtain ⟨old, hold, -⟩ := hnarrows p intent hintent
      exact h.intents p old hold
    pursued := by
      rintro p q ⟨intent, hintent, hq⟩
      obtain ⟨old, hold, htarget, hfollow⟩ := hnarrows p intent hintent
      exact h.pursued p q ⟨old, hold, hq.imp (htarget q) (hfollow q)⟩ }

/-- Creatures without a new target. -/
theorem retargeted (h : MentionsOnly known w) {creatures : BTreeMap ℕ StaticCreatureRuntime}
    (htargets : ∀ (id : ℕ) r' q, creatures[id]? = some r' → r'.targetPlayerId = some q →
      known q ∨ ∃ (j : ℕ) (r : StaticCreatureRuntime), w.staticCreatures[j]? = some r ∧
        r.targetPlayerId = some q)
    (index : Finset Position) :
    MentionsOnly known { w with staticCreatures := creatures, staticOccupiedPositions := index } :=
  { h with
    targets := by
      intro id r' q hr' hq
      rcases htargets id r' q hr' hq with hknown | ⟨j, r, hr, hq'⟩
      · exact hknown
      · exact h.targets j r q hr hq' }

theorem putCreature (h : MentionsOnly known w) {id : ℕ} {r : StaticCreatureRuntime}
    (htarget : ∀ q, r.targetPlayerId = some q →
      known q ∨ ∃ old, w.staticCreatures[id]? = some old ∧ old.targetPlayerId = some q)
    (index : Finset Position) : MentionsOnly known { w with
      staticCreatures := w.staticCreatures.insert id r
      staticOccupiedPositions := index } := by
  refine h.retargeted (fun j r' q hr' hq => ?_) index
  simp only [Std.ExtTreeMap.getElem?_insert, Std.LawfulEqCmp.compare_eq_iff_eq] at hr'
  split at hr'
  · cases hr'
    exact (htarget q hq).imp (fun hknown => hknown) fun ⟨old, hold⟩ => ⟨_, old, hold⟩
  · exact .inr ⟨j, r', hr', hq⟩

theorem putVitals (h : MentionsOnly known w) {p : ℕ} (hp : known p) (v : PlayerVitals) :
    MentionsOnly known (w.putVitals p v) :=
  { h with vitals := known_of_insert h.vitals hp }

theorem putConditions (h : MentionsOnly known w) {p : ℕ} (hp : known p) (c : PlayerConditions) :
    MentionsOnly known (w.putConditions p c) :=
  { h with conditions := known_of_insert h.conditions hp }

theorem putRespawnState (h : MentionsOnly known w) {p : ℕ} (hp : known p)
    (state : PlayerRespawnState) : MentionsOnly known (w.putRespawnState p state) :=
  { h with lifecycle := known_of_insert h.lifecycle hp }

/-- Only the tables of this layer differ. -/
theorem of_living (h : MentionsOnly known w) {w' : GameWorld}
    (hliving : w'.toLivingWorld = w.toLivingWorld) (hnoted : ∀ p, w'.Noted p → known p)
    (hparty : w'.party.Sound known) : MentionsOnly known w' := by
  obtain ⟨l⟩ := w'
  cases hliving
  exact { h with noted := hnoted, parties := hparty }

/-- A world in which the players of the tables are the registered ones. -/
def Registered (w : GameWorld) : Prop := MentionsOnly w.IsRegistered w

theorem registered_putPlayer (h : Registered w) (p : ℕ) (player : Player) :
    Registered (w.putPlayer p player) := by
  have hmono : ∀ q, w.IsRegistered q → (w.putPlayer p player).IsRegistered q := by
    intro q hq
    simp only [GameWorld.IsRegistered, GameWorld.putPlayer, Std.ExtTreeMap.getElem?_insert]
    split
    · exact ⟨player, rfl⟩
    · exact hq
  have h' := MentionsOnly.mono h hmono
  exact { h' with }

theorem robust : Robust Registered where
  changed := fun w hw => { (show MentionsOnly w.IsRegistered w from hw) with }
  tick := fun w _ hw => { (show MentionsOnly w.IsRegistered w from hw) with }
  inventory := by
    intro w s hframe hw
    have hw : MentionsOnly w.IsRegistered w := hw
    have hmono : ∀ p, w.IsRegistered p → (w.putInventory s).IsRegistered p := by
      rintro p ⟨player, hplayer⟩
      refine ⟨player, ?_⟩
      show s.players[p]? = some player
      rw [hframe.players]
      exact hplayer
    have h' := hw.mono hmono
    exact { h' with
      holds := fun p hp => (hframe.holders p hp).elim (h'.holds p) (hmono p)
      trades := fun p hp => (hframe.traders p hp).elim (h'.trades p) (hmono p)
      lifecycle := fun p state hstate =>
        h'.lifecycle p state ((congrArg (fun m => m[p]?) hframe.respawn).symm.trans hstate) }
  player := fun w p _ new _ _ _ hw => registered_putPlayer hw p new
  vitals := fun w p old new hold _ hw => MentionsOnly.putVitals hw (hw.vitals p old hold) new
  conditions := fun w p old new hold _ hw =>
    MentionsOnly.putConditions hw (hw.conditions p old hold) new
  lifecycle := fun w p old new hold _ hw =>
    MentionsOnly.putRespawnState hw (hw.lifecycle p old hold) new
  died := by
    intro w p state _ hp _ _ _ hw
    have hdead := MentionsOnly.putRespawnState hw hp state
    refine hdead.narrowed (narrows_filterMap _ fun old intent hmap => ?_)
    simp only [Option.ite_none_right_eq_some, Option.some.injEq] at hmap
    obtain ⟨-, rfl⟩ := hmap
    refine ⟨fun q hq => ?_, fun q hq => ?_⟩
    · simp only [Living.withoutReferences] at hq
      split at hq
      · cases hq
      · exact hq
    · simp only [Living.withoutReferences] at hq
      split at hq
      · cases hq
      · exact hq
  respawned := by
    intro w p player vitals hp _ _ _ _ hw
    have hhealed : Registered (w.putVitals p vitals) := MentionsOnly.putVitals hw hp vitals
    have hmoved := registered_putPlayer hhealed p player
    exact MentionsOnly.putRespawnState hmoved ⟨player, by simp [GameWorld.putPlayer]⟩ {}
  intent := by
    intro w p intent hp hrefs hw
    have hw : MentionsOnly w.IsRegistered w := hw
    have hlookup (q : ℕ) (i : PlayerInteractionIntent)
        (hi : (w.putIntent p intent).playerInteractions[q]? = some i) :
        w.playerInteractions[q]? = some i ∨ (q = p ∧ i = intent) := by
      simp only [GameWorld.putIntent] at hi
      split at hi
      · rw [Std.ExtTreeMap.getElem?_erase] at hi
        split at hi
        · cases hi
        · exact .inl hi
      · simp only [Std.ExtTreeMap.getElem?_insert, Std.LawfulEqCmp.compare_eq_iff_eq] at hi
        split at hi
        · rename_i heq
          cases hi
          exact .inr ⟨heq.symm, rfl⟩
        · exact .inl hi
    exact { hw with
      intents := by
        intro q i hi
        rcases hlookup q i hi with hi | ⟨rfl, rfl⟩
        · exact hw.intents q i hi
        · exact hp
      pursued := by
        rintro q k ⟨i, hi, hk⟩
        rcases hlookup q i hi with hi | ⟨rfl, rfl⟩
        · exact hw.pursued q k ⟨i, hi, hk⟩
        · exact (hrefs k hk).elim (hw.pursued q k) fun hknown => hknown.1 }
  books := by
    intro w w' hbooks hw
    have hw : MentionsOnly w.IsRegistered w := hw
    have hmono : ∀ p, w.IsRegistered p → w'.IsRegistered p := by
      intro p hp
      unfold GameWorld.IsRegistered
      rw [hbooks.living]
      exact hp
    have h' := hw.mono hmono
    refine h'.of_living hbooks.living (fun p hp => ?_) ?_
    · exact (hbooks.noted p hp).elim (h'.noted p) (hmono p)
    · rw [hbooks.party]
      exact h'.parties

theorem robustEdits : RobustEdits Registered where
  narrowed := fun w intents hnarrows hw => MentionsOnly.narrowed hw hnarrows
  edited := by
    intro w id r r' hr hedited hw
    refine MentionsOnly.putCreature hw (fun q hq => ?_) w.staticOccupiedPositions
    rcases hedited.target q hq with hq | ⟨hknown, -⟩
    · exact .inr ⟨r, hr, hq⟩
    · exact .inl hknown
  moved := by
    intro w id r destination hr _ _ _ hw
    refine MentionsOnly.putCreature
      (r := { r with entity := { r.entity with position := destination } }) hw (fun q hq => ?_) _
    exact .inr ⟨r, hr, hq⟩
  deactivated := by
    intro w id r hr hw
    refine MentionsOnly.putCreature hw (fun q hq => ?_) _
    unfold deactivatedRuntime at hq
    split at hq
    · cases hq
    · cases hq

theorem robustRegistry : RobustRegistry Registered := by
  refine ⟨fun w creatures index intents htargets hnarrows hw => ?_⟩
  have hcreatures := @MentionsOnly.retargeted _ _ hw creatures (fun id r' q hr' hq => ?_) index
  · exact MentionsOnly.narrowed hcreatures hnarrows
  · rcases htargets id r' hr' with hnone | ⟨r, hr, hsame⟩
    · rw [hnone] at hq
      cases hq
    · exact .inr ⟨id, r, hr, hsame.symm.trans hq⟩

/-! ### Writes without guards, registration and removal -/

/-- A frag is recorded for a registered player only; the removed player has no food window, no
operator flag, no frag and no open trade. -/
def LeavesNoTrace (w : GameWorld) : GameEvent → Prop
  | .removePlayer p => w.playerFoodWindows[p]? = none ∧ p ∉ w.playerGodMode ∧
      p ∉ w.playerInvisible ∧ w.playerFrags[p]? = none ∧ ¬w.toWorldState.Trades p
  | .overwrite (.recordFrag p) => w.IsRegistered p
  | _ => True

theorem overwritten {w w' : GameWorld} {event : OverwriteEvent}
    (hok : LeavesNoTrace w (.overwrite event)) (hw : Registered w) (h : event.Writes w w') :
    Registered w' := by
  have hw : MentionsOnly w.IsRegistered w := hw
  cases h with
  | lifecycle hp => exact hw.putRespawnState hp _
  | vitals hp => exact hw.putVitals hp _
  | conditions hp => exact hw.putConditions hp _
  | condition hc => exact hw.putConditions (hw.conditions _ _ hc) _
  | haste hp => exact hw.putConditions hp _
  | experience => exact registered_putPlayer hw _ _
  | levels n hplayer =>
    exact MentionsOnly.putVitals (registered_putPlayer hw _ _)
      ⟨_, Std.ExtTreeMap.getElem?_insert_self⟩ _
  | frag n =>
    have hbooks := GameWorld.books_putFrags (w := w) (.inr hok) n
    exact robust.books w _ hbooks hw

theorem added {w : GameWorld} (hw : Registered w) (player : Player) (vitals : PlayerVitals)
    (progression : PlayerProgression) : Registered (w.added player vitals progression) := by
  have hmono : ∀ p, w.IsRegistered p → (w.added player vitals progression).IsRegistered p :=
    fun p hp => GameWorld.isRegistered_added.mpr (.inr hp)
  have hnew : (w.added player vitals progression).IsRegistered player.id :=
    GameWorld.isRegistered_added.mpr (.inl rfl)
  have h := MentionsOnly.mono hw hmono
  exact { h with
    noted := by
      intro p hp
      have hor : w.Noted p ∨ player.id = p := by
        simp only [GameWorld.Noted, GameWorld.added, Std.ExtTreeMap.mem_insert,
          Std.LawfulEqCmp.compare_eq_iff_eq] at hp ⊢
        tauto
      rcases hor with hp | rfl
      · exact h.noted p hp
      · exact hnew
    holds := by
      intro p hp
      rcases hp with ⟨e, he⟩ | ⟨cs, hcs⟩
      · exact known_of_insert (fun q y hy => h.holds q (.inl ⟨y, hy⟩)) hnew p e he
      · exact known_of_insert (fun q y hy => h.holds q (.inr ⟨y, hy⟩)) hnew p cs hcs
    vitals := known_of_insert h.vitals hnew
    conditions := known_of_insert h.conditions hnew
    lifecycle := known_of_insert h.lifecycle hnew }

theorem removed {w : GameWorld} {p : ℕ} (hok : LeavesNoTrace w (.removePlayer p))
    (hw : Registered w) : Registered (w.removed p) := by
  have hw : MentionsOnly w.IsRegistered w := hw
  obtain ⟨hfood, hgod, hinvisible, hfrags, htrades⟩ := hok
  suffices h : MentionsOnly (fun q => w.IsRegistered q ∧ q ≠ p) (w.removed p) from
    h.mono fun q hq => GameWorld.isRegistered_removed.mpr hq
  have hnone {α : Type} {table : BTreeMap ℕ α} (hp : table[p]? = none) : p ∉ table := by
    rw [Std.ExtTreeMap.mem_iff_isSome_getElem?, hp]
    simp
  have hintents := known_of_erase hw.intents (p := p)
  exact
    { noted := by
        intro q hq
        have hor : w.Noted q ∧ q ≠ p := by
          have hfood := hnone hfood
          have hfrags := hnone hfrags
          simp only [GameWorld.Noted, GameWorld.removed, Std.ExtTreeMap.mem_erase, ne_eq,
            Std.LawfulEqCmp.compare_eq_iff_eq] at hq ⊢
          grind
        exact ⟨hw.noted q hor.1, hor.2⟩
      holds := by
        intro q hq
        rcases hq with ⟨e, he⟩ | ⟨cs, hcs⟩
        · exact known_of_erase (fun k y hy => hw.holds k (.inl ⟨y, hy⟩)) q e he
        · exact known_of_erase (fun k y hy => hw.holds k (.inr ⟨y, hy⟩)) q cs hcs
      trades := by
        intro q hq
        refine ⟨hw.trades q hq, ?_⟩
        rintro rfl
        exact htrades hq
      vitals := known_of_erase hw.vitals
      conditions := known_of_erase hw.conditions
      lifecycle := known_of_erase hw.lifecycle
      intents := by
        intro q intent hintent
        obtain ⟨old, hold, -⟩ := OrderedMap.getElem?_filterMap_eq_some.mp hintent
        exact hintents q old hold
      pursued := by
        rintro q k ⟨intent, hintent, hk⟩
        obtain ⟨old, hold, hmap⟩ := OrderedMap.getElem?_filterMap_eq_some.mp hintent
        simp only [Option.ite_none_right_eq_some, Option.some.injEq] at hmap
        obtain ⟨-, rfl⟩ := hmap
        have hold' : w.playerInteractions[q]? = some old := by
          rw [Std.ExtTreeMap.getElem?_erase] at hold
          split at hold
          · cases hold
          · exact hold
        have hrefs : (old.targetPlayerId = some k ∨ old.followPlayerId = some k) ∧ k ≠ p := by
          simp only [Living.withoutReferences] at hk
          grind
        exact ⟨hw.pursued q k ⟨old, hold', hrefs.1⟩, hrefs.2⟩
      targets := by
        intro id runtime q hr hq
        simp only [GameWorld.removed, Std.ExtTreeMap.getElem?_map, Option.map_eq_some_iff] at hr
        obtain ⟨old, hold, rfl⟩ := hr
        unfold GameWorld.withoutTarget at hq
        split at hq
        · cases hq
        · rename_i hne
          refine ⟨hw.targets id old q hold hq, ?_⟩
          rintro rfl
          exact hne hq
      parties := (hw.parties.clearPlayerPartyState p).forget
        (hw.parties.absent_clearPlayerPartyState p) }

theorem does {w : GameWorld} (hw : Registered w) {event : PartyEvent} {t' : PartyTables}
    (h : event.Does w t') : Registered (w.putParty t') := by
  have hw : MentionsOnly w.IsRegistered w := hw
  exact { hw with parties := PartiesSound.does hw.parties h }

theorem step (toLowercase : String → String) {w : GameWorld} (hw : Registered w)
    {event : GameEvent} (hok : LeavesNoTrace w event) : Registered (event.step toLowercase w) := by
  have hchanged := robust.changed
  show Leaves Registered (event.perform toLowercase) w
  cases event with
  | addPlayer player vitals progression =>
    exact leaves_addPlayer hchanged hw fun _ _ => added hw player vitals progression
  | removePlayer p =>
    exact leaves_void.mpr (leaves_removePlayer hchanged hw fun _ => removed hok hw)
  | inventory e => exact robust.stays_inventory e w hw
  | player e => exact robust.stays_player e w hw
  | upkeep e => exact robust.stays_upkeep e w hw
  | overwrite e => exact leaves_overwrite e hchanged hw fun w' hwrites => overwritten hok hw hwrites
  | creature e =>
    by_cases hedits : e.EditsOnly
    · exact robustEdits.stays_edits robust toLowercase hedits w hw
    · exact robustRegistry.stays_registry robust toLowercase hedits w hw
  | party e => exact leaves_party hchanged hw e fun t' => does hw

theorem registered_empty : Registered .empty where
  noted := by simp [GameWorld.Noted, GameWorld.empty]
  holds := by simp [WorldState.Holds, GameWorld.empty, LivingWorld.empty, WorldState.empty]
  trades := by
    rintro p ⟨k, s, hs, -⟩
    simp [GameWorld.empty, LivingWorld.empty, WorldState.empty, KeyedMap.get?, KeyedMap.empty] at hs
  vitals := by simp [GameWorld.empty, LivingWorld.empty]
  conditions := by simp [GameWorld.empty, LivingWorld.empty]
  lifecycle := by simp [GameWorld.empty, LivingWorld.empty, WorldState.empty]
  intents := by simp [GameWorld.empty, LivingWorld.empty]
  pursued := by simp [GameWorld.Pursues, GameWorld.empty, LivingWorld.empty]
  targets := by simp [GameWorld.empty, LivingWorld.empty]
  parties := PartyTables.Sound.empty

end MentionsOnly

/-- **Every table mentions registered players only**, in every run in which no removed player has
a food window, an operator flag, a frag or an open trade, and frags are recorded for registered
players. -/
theorem mentionsRegisteredOnly (toLowercase : String → String) {w : GameWorld}
    (h : Reaches (GameEvent.step toLowercase) MentionsOnly.LeavesNoTrace .empty w) :
    MentionsOnly w.IsRegistered w :=
  h.invariant (P := MentionsOnly.Registered)
    (fun _ _ hw hok => MentionsOnly.step toLowercase hw hok) MentionsOnly.registered_empty

/-- A knight comes, invites another one, and goes. -/
def knightGoes : List GameEvent :=
  [knightEnters 7 100, knightEnters 8 101, .party (.invite 7 8), .player (.setTarget 8 (some 7)),
    .removePlayer 7]

theorem mentionsRegisteredOnly_knightGoes :
    MentionsOnly (knightGoes.foldl (GameEvent.step id) .empty).IsRegistered
      (knightGoes.foldl (GameEvent.step id) .empty) := by
  refine mentionsRegisteredOnly id (Reaches.foldl .start
    ⟨trivial, trivial, trivial, trivial, ⟨by decide +kernel, by decide +kernel, by decide +kernel,
      by decide +kernel, ?_⟩, trivial⟩)
  rintro ⟨k, s, hs, -⟩
  have hnone : KeyedMap.get? (κ := ℕ) (ν := PlayerTradeSession) .empty k = some s := hs
  simp [KeyedMap.get?, KeyedMap.empty] at hnone

/-- **A trace.**  A knight in god mode goes, and the flag waits for the next one of that id. -/
theorem godModeGoes_mentioned : ¬∀ events : List GameEvent,
    MentionsOnly (events.foldl (GameEvent.step id) .empty).IsRegistered
      (events.foldl (GameEvent.step id) .empty) := by
  intro h
  let run : List GameEvent := [knightEnters 7 100, .upkeep (.setGodMode 7 true), .removePlayer 7]
  have hflag : 7 ∈ (run.foldl (GameEvent.step id) .empty).playerGodMode := by decide +kernel
  have hgone : (run.foldl (GameEvent.step id) .empty).players[7]? = none := by decide +kernel
  obtain ⟨player, hplayer⟩ := (h run).noted 7 (by simp [GameWorld.Noted, hflag])
  rw [hgone] at hplayer
  cases hplayer

end ForgottenEngine
