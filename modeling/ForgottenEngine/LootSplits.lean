import ForgottenEngine.InventorySaves
import ForgottenEngine.LootRolls
import ForgottenEngine.MapAlignment
import ForgottenEngine.MapSnapshots
import ForgottenEngine.UnitPlacement

/-!
# The loot of a defeated creature

A defeated creature leaves a corpse.  In a party each rolled stack goes to the next member whose
windows have room for all of it, and what nobody takes is put into the corpse.

The corpse keeps at most 255 units of a stack, and it is not placed at all on a tile that is full or
when the registry is full.  An error on the way drops the stacks that are not handed out yet.

* `offerStack_cases`, `splitStack_cases` — one attempt, and the attempts of one stack;
* `splitLoot_accounts` — the loop over the stacks: who got which, what is left, what is lost;
* `loot_kept_iff` — **every stack ends up with a member or in the corpse exactly when `LootFits`**;
* `coins_cut` — a stack of three hundred coins leaves forty-five of them behind.
-/

namespace ForgottenEngine

open Fallible

namespace Host

/-! ### Handing out the stacks -/

/-- A member takes a stack when the windows have room for all of it. -/
def offerStack (stack : ℕ × ℕ) (member : ℕ) : HostM Bool := do
  let containers ← playerContainers member
  let (staged, unplaced) := insertUnitsIntoContainers stack.1 stack.2 containers
  if 0 < unplaced then return false
  else
    let _ ← onWorld (World.replacePlayerContainers member staged)
    persist (·.replacePlayerContainers member staged)
    return true

/-- The member an attempt is made with. -/
def turn (targets : List ℕ) (cursor attempt : ℕ) : ℕ :=
  targets.getD ((cursor + attempt) % targets.length) 0

/-- The attempts to hand out one stack; where the next stack starts, if somebody took this one. -/
def splitStack (targets : List ℕ) (cursor : ℕ) (stack : ℕ × ℕ) : List ℕ → HostM (Option ℕ)
  | [] => return none
  | attempt :: attempts => do
    let placed ← offerStack stack (turn targets cursor attempt)
    if placed then return some ((cursor + attempt + 1) % targets.length)
    else splitStack targets cursor stack attempts

/-- Hand out the stacks, and report what nobody took. -/
def splitLoot (targets : List ℕ) : ℕ → List (ℕ × ℕ) → HostM (List (ℕ × ℕ))
  | _, [] => return []
  | cursor, stack :: items => do
    match ← splitStack targets cursor stack (List.range targets.length) with
    | some next => splitLoot targets next items
    | none =>
      let leftovers ← splitLoot targets cursor items
      return stack :: leftovers

end Host

structure DefeatCorpseRequest where
  creatureId : UInt32
  seed : UInt64
  corpseServerId : ℕ
  corpseDespawnSeconds : ℕ
  lootSplitTargets : List ℕ

def StaticCreatureLootRoll.stacks (roll : StaticCreatureLootRoll) : List (ℕ × ℕ) :=
  roll.items.map fun item => (item.1.toNat, item.2.toNat)

/-- When a corpse despawns; `none` where the addition leaves the 64-bit range. -/
def corpseDespawnTick (tick seconds : ℕ) : Option (Option ℕ) :=
  if seconds = 0 then some none
  else if u64Max < tick + seconds then none
  else some (some (tick + seconds))

namespace Host

/-- Share the loot and leave the corpse with the rest. -/
def leaveCorpse (request : DefeatCorpseRequest) (items : List (ℕ × ℕ)) (position : Position)
    (despawnTick : Option ℕ) : HostM Position := do
  let leftovers ← if request.lootSplitTargets = [] then pure items
    else splitLoot request.lootSplitTargets 0 items
  let _ ← spawnCorpse position request.corpseServerId leftovers despawnTick
  return position

/-- What a defeat does to the host, beside the registry of the creatures with their loot; `none`
where the program panics. -/
def spawnNativeStaticDefeatCorpse (creatures : LootedCreatures) (request : DefeatCorpseRequest)
    (s : HostState) : Option (Except Refusal Position × HostState) := do
  match ← creatures.rollDefeatedStaticCreatureLoot request.creatureId request.seed with
  | .error e => return (.error (.failed (.core e)), s)
  | .ok roll =>
    match creatures[request.creatureId]? with
    | none => return (.error .declined, s)
    | some runtime =>
      let despawnTick ← corpseDespawnTick s.world.tick request.corpseDespawnSeconds
      return leaveCorpse request roll.stacks runtime.entity.position despawnTick s

end Host

/-! ### Who gets what -/

def stackUnits (stack : ℕ × ℕ) : Multiset ItemKind :=
  Multiset.replicate stack.2 ⟨stack.1, none, none⟩

/-- How many units the stacks have together. -/
def stackTotal (items : List (ℕ × ℕ)) : ℕ := (items.map Prod.snd).sum

/-- Stacks with the member that took each, if one did. -/
abbrev Shares := List ((ℕ × ℕ) × Option ℕ)

namespace Shares

/-- What a member was given. -/
def handed (shares : Shares) (p : ℕ) : Multiset ItemKind :=
  (shares.map fun share => if share.2 = some p then stackUnits share.1 else 0).sum

/-- What nobody was given. -/
def unclaimed (shares : Shares) : List (ℕ × ℕ) :=
  (shares.filter fun share => share.2 = none).map Prod.fst

end Shares

/-- The stacks have been handed out as recorded, and nothing else has changed in the windows. -/
structure SharedOut (targets : List ℕ) (shares : Shares) (s t : HostState) : Prop where
  members : ∀ share ∈ shares, ∀ p ∈ share.2, p ∈ targets
  units : ∀ p, (t.world.containersOf p).units = (s.world.containersOf p).units + shares.handed p

/-- A corpse with whole stacks. -/
def fullCorpse (corpseServerId : ℕ) (items : List (ℕ × ℕ)) : WorldMapItem :=
  plainMapItem corpseServerId 1 (items.map fun stack => plainMapItem stack.1 stack.2 [])

/-- Every stack is with one of the members, or in the corpse, with its full count. -/
def KeepsLoot (targets : List ℕ) (corpseServerId : ℕ) (position : Position) (items : List (ℕ × ℕ))
    (s t : HostState) : Prop :=
  ∃ shares : Shares, shares.map Prod.fst = items ∧ SharedOut targets shares s t ∧
    (shares.unclaimed = [] ∧ t.map.map = s.map.map ∨
      s.map.map.setTileItems position
        (s.map.map.itemsAt position ++ [fullCorpse corpseServerId shares.unclaimed]) =
          .ok t.map.map)

/-! ### What decides about the loot -/

/-- What stays while the stacks are handed out: who is in the world, who is stored, and the map. -/
structure LootSetting where
  present : ℕ → Prop
  stored : ℕ → Prop
  map : SharedNativeMap

def HostState.lootSetting (s : HostState) : LootSetting where
  present p := s.world.players[p]? ≠ none
  stored p := s.database.ensurePlayerExists p = .ok ()
  map := s.map

/-- The windows of all players. -/
abbrev Windows := BTreeMap ℕ PlayerContainers

/-- The windows of the player have no room for the whole stack. -/
def Refuses (stack : ℕ × ℕ) (windows : Windows) (p : ℕ) : Prop :=
  ∃ containers, windows[p]? = some containers ∧
    containers.unitRoom (fun _ => true) ⟨stack.1, none, none⟩ < stack.2

/-- The player is in the world, and the windows have room for the whole stack. -/
def Takes (stack : ℕ × ℕ) (setting : LootSetting) (windows : Windows) (p : ℕ) : Prop :=
  setting.present p ∧ ∃ containers, windows[p]? = some containers ∧
    stack.2 ≤ containers.unitRoom (fun _ => true) ⟨stack.1, none, none⟩

/-- The windows with the stack in those of the player. -/
def Windows.fill (windows : Windows) (stack : ℕ × ℕ) (p : ℕ) : Windows :=
  windows.insert p (insertUnitsIntoContainers stack.1 stack.2 (windows[p]?.getD .empty)).1

/-- The first of the attempts that does not meet a refusal meets a member that takes the stack; or
all of them meet refusals. -/
inductive Asked (targets : List ℕ) (cursor : ℕ) (stack : ℕ × ℕ) (setting : LootSetting)
    (windows : Windows) : List ℕ → Option ℕ → Prop
  | nobody : Asked targets cursor stack setting windows [] none
  | refused {attempt : ℕ} {attempts : List ℕ} {taker : Option ℕ} :
    Refuses stack windows (Host.turn targets cursor attempt) →
    Asked targets cursor stack setting windows attempts taker →
    Asked targets cursor stack setting windows (attempt :: attempts) taker
  | taken {attempt : ℕ} {attempts : List ℕ} :
    Takes stack setting windows (Host.turn targets cursor attempt) →
    Asked targets cursor stack setting windows (attempt :: attempts) (some attempt)

/-- A corpse with these stacks can be placed. -/
structure CorpseFits (corpseServerId : ℕ) (position : Position) (despawnTick : Option ℕ)
    (items : List (ℕ × ℕ)) (m : SharedNativeMap) : Prop where
  tile : (m.map.itemsAt position).length + 1 ≤ maxWorldMapItemsPerTile
  registry : m.runtimeTileItems.length < maxRuntimeMapItems
  ordinal : m.runtimeCount position ≤ u8Max
  record : ∃ record, runtimeWorldMapItemToRecord position (m.runtimeCount position)
      (Host.corpseItem corpseServerId items) despawnTick = some record ∧
    EngineDatabase.validateRuntimeMapItemRecords (m.runtimeTileItems ++ [record]) = .ok ()

/-- The loot finds its places: every stack goes to a member that is stored, or has at most 255 units
for the corpse; and the corpse can be placed, or is not needed.  The recursion follows the windows
as they fill up. -/
def LootFits (setting : LootSetting) (targets : List ℕ) (corpseServerId : ℕ) (position : Position)
    (despawnTick : Option ℕ) : ℕ → List (ℕ × ℕ) → List (ℕ × ℕ) → Windows → Prop
  | _, left, [], _ => left = [] ∨ CorpseFits corpseServerId position despawnTick left setting.map
  | cursor, left, stack :: items, windows =>
    Asked targets cursor stack setting windows (List.range targets.length) none ∧
        stack.2 ≤ u8Max ∧ LootFits setting targets corpseServerId position despawnTick cursor
          (left ++ [stack]) items windows ∨
      ∃ attempt, Asked targets cursor stack setting windows (List.range targets.length)
          (some attempt) ∧
        -- after the last stack nothing is left to be lost
        (items = [] ∧ left = [] ∨
          setting.stored (Host.turn targets cursor attempt) ∧
            LootFits setting targets corpseServerId position despawnTick
              ((cursor + attempt + 1) % targets.length) left items
              (windows.fill stack (Host.turn targets cursor attempt)))

/-! ### One stack -/

/-- A player was given a stack, and nothing else has changed in the windows. -/
structure Given (stack : ℕ × ℕ) (p : ℕ) (s t : HostState) : Prop where
  setting : t.lootSetting = s.lootSetting
  windows : t.world.playerContainers = Windows.fill s.world.playerContainers stack p
  units : ∀ q, (t.world.containersOf q).units =
    (s.world.containersOf q).units + if some p = some q then stackUnits stack else 0

theorem Given.map {stack : ℕ × ℕ} {p : ℕ} {s t : HostState} (h : Given stack p s t) :
    t.map = s.map :=
  congrArg LootSetting.map h.setting

section Attempts

variable {targets : List ℕ} {cursor : ℕ} {stack : ℕ × ℕ} {setting : LootSetting}
  {windows : Windows} {p : ℕ}

theorem not_takes_of_refuses (h : Refuses stack windows p) : ¬Takes stack setting windows p := by
  rintro ⟨-, containers, hcontainers, hroom⟩
  obtain ⟨found, hfound, hless⟩ := h
  obtain rfl : containers = found := Option.some.inj (hcontainers.symm.trans hfound)
  exact absurd hroom (not_le.mpr hless)

/-- At most one of the attempts is the one that counts. -/
theorem Asked.unique {attempts : List ℕ} {taker taker' : Option ℕ}
    (h : Asked targets cursor stack setting windows attempts taker)
    (h' : Asked targets cursor stack setting windows attempts taker') : taker = taker' := by
  induction h with
  | nobody =>
    cases h'
    rfl
  | refused hrefuses _ ih =>
    cases h' with
    | refused _ h' => exact ih h'
    | taken htakes => exact absurd htakes (not_takes_of_refuses hrefuses)
  | taken htakes =>
    cases h' with
    | refused hrefuses _ => exact absurd htakes (not_takes_of_refuses hrefuses)
    | taken _ => rfl

section Rounds

variable (corpseServerId : ℕ) (position : Position) (despawnTick : Option ℕ)
  (left items : List (ℕ × ℕ))

/-- Nobody takes the stack. -/
theorem lootFits_passed_iff
    (hasked : Asked targets cursor stack setting windows (List.range targets.length) none) :
    LootFits setting targets corpseServerId position despawnTick cursor left (stack :: items)
        windows ↔
      stack.2 ≤ u8Max ∧ LootFits setting targets corpseServerId position despawnTick cursor
        (left ++ [stack]) items windows := by
  constructor
  · rintro (⟨-, h⟩ | ⟨attempt, hother, -⟩)
    · exact h
    · cases hasked.unique hother
  · exact fun h => .inl ⟨hasked, h⟩

/-- A member takes the stack. -/
theorem lootFits_taken_iff {attempt : ℕ} (hasked :
      Asked targets cursor stack setting windows (List.range targets.length) (some attempt)) :
    LootFits setting targets corpseServerId position despawnTick cursor left (stack :: items)
        windows ↔
      items = [] ∧ left = [] ∨ setting.stored (Host.turn targets cursor attempt) ∧
        LootFits setting targets corpseServerId position despawnTick
          ((cursor + attempt + 1) % targets.length) left items
          (windows.fill stack (Host.turn targets cursor attempt)) := by
  constructor
  · rintro (⟨hother, -⟩ | ⟨other, hother, h⟩)
    · cases hasked.unique hother
    · cases hasked.unique hother
      exact h
  · exact fun h => .inr ⟨attempt, hasked, h⟩

/-- Somebody could not be asked. -/
theorem not_lootFits_of_nobody
    (hnobody : ∀ taker, ¬Asked targets cursor stack setting windows (List.range targets.length)
      taker) :
    ¬LootFits setting targets corpseServerId position despawnTick cursor left (stack :: items)
      windows := by
  rintro (⟨hasked, -⟩ | ⟨attempt, hasked, -⟩)
  · exact hnobody _ hasked
  · exact hnobody _ hasked

end Rounds

end Attempts

/-- A save of windows leaves the players that are stored. -/
theorem ensurePlayerExists_replacePlayerContainers {database database' : EngineDatabase} {p : ℕ}
    {cs : PlayerContainers} (h : database.replacePlayerContainers p cs = .ok database') (q : ℕ) :
    database'.ensurePlayerExists q = database.ensurePlayerExists q := by
  obtain ⟨_, -, h⟩ := except_bind_eq_ok.mp h
  obtain ⟨_, -, h⟩ := except_bind_eq_ok.mp h
  obtain ⟨_, -, h⟩ := except_bind_eq_ok.mp h
  cases h
  rfl

/-- The replacement of the windows of a registered player. -/
theorem replaceContainers_run {w : WorldState} {p : ℕ} {player : Player} {cs : PlayerContainers}
    (hplayer : w.players[p]? = some player) (hcs : w.playerContainers[p]? = some cs)
    (cs' : PlayerContainers) :
    ∃ b w', World.replacePlayerContainers p cs' w = (.ok b, w') ∧ w'.players = w.players ∧
      w'.playerContainers = w.playerContainers.insert p cs' := by
  rw [World.replacePlayerContainers_run hplayer hcs]
  by_cases hsame : cs = cs'
  · rw [if_pos hsame]
    exact ⟨false, w, rfl, rfl, (WorldState.insert_same (hsame ▸ hcs)).symm⟩
  · rw [if_neg hsame]
    exact ⟨true, _, rfl, rfl, rfl⟩

namespace Host

theorem onWorld_of_error {α : Type} {m : WorldM α} {e : CoreError} {s : HostState} {w : WorldState}
    (h : m s.world.toWorldState = (.error e, w)) :
    onWorld m s = (.error (.failed (.core e)),
      { s with world := { s.world with toWorldState := w } }) := by
  unfold onWorld
  rw [h]

/-- The windows with the units of a stack, written into the world. -/
theorem given_of_written {s : HostState} {p : ℕ} {cs : PlayerContainers} {w : WorldState}
    {stack : ℕ × ℕ} {database : EngineDatabase} (hcs : s.world.playerContainers[p]? = some cs)
    (hunits : (insertUnitsIntoContainers stack.1 stack.2 cs).1.units = cs.units + stackUnits stack)
    (hplayers : w.players = s.world.players)
    (hwritten : w.playerContainers = s.world.playerContainers.insert p
      (insertUnitsIntoContainers stack.1 stack.2 cs).1)
    (hstored : ∀ q, database.ensurePlayerExists q = s.database.ensurePlayerExists q) :
    Given stack p s { s with world := { s.world with toWorldState := w }, database } := by
  refine ⟨?_, ?_, fun q => ?_⟩
  · simp only [HostState.lootSetting, hplayers, hstored]
  · show w.playerContainers = _
    rw [hwritten, Windows.fill, hcs, Option.getD_some]
  · show ((w.playerContainers[q]?.getD .empty).units) =
      ((s.world.playerContainers[q]?.getD .empty).units) + _
    rw [hwritten, Std.ExtTreeMap.getElem?_insert]
    by_cases hq : p = q
    · subst hq
      simp [hcs, hunits]
    · simp [hq]

/-- **One attempt**: refused, or the stack goes to the member as a whole, or an error. -/
theorem offerStack_cases {stack : ℕ × ℕ} (hid : stack.1 ≠ 0) (p : ℕ) (s : HostState) :
    (Refuses stack s.world.playerContainers p ∧ offerStack stack p s = (.ok false, s)) ∨
      (Takes stack s.lootSetting s.world.playerContainers p ∧ ∃ t, Given stack p s t ∧
        (s.lootSetting.stored p ∧ offerStack stack p s = (.ok true, t) ∨
          ¬s.lootSetting.stored p ∧ ∃ e, offerStack stack p s = (.error e, t))) ∨
      ¬Refuses stack s.world.playerContainers p ∧
        ¬Takes stack s.lootSetting s.world.playerContainers p ∧
          ∃ e, offerStack stack p s = (.error e, s) := by
  unfold offerStack
  cases hcs : s.world.playerContainers[p]? with
  | none =>
    have hread : playerContainers p s = (.error (.failed (.core (.unknownPlayer p))), s) :=
      readOr_of_none _ hcs
    refine .inr (.inr ⟨?_, ?_, _, bind_of_error hread⟩)
    · rintro ⟨cs, hsome, -⟩
      rw [hcs] at hsome
      cases hsome
    · rintro ⟨-, cs, hsome, -⟩
      rw [hcs] at hsome
      cases hsome
  | some cs =>
  have hread : playerContainers p s = (.ok cs, s) := readOr_of_some _ hcs
  obtain ⟨hleft, hunits, -⟩ := insertUnitsIntoContainers_placed cs hid stack.2
  rw [bind_of_ok hread]
  by_cases hroom : stack.2 ≤ cs.unitRoom (fun _ => true) ⟨stack.1, none, none⟩
  swap
  · have hsome : 0 < (insertUnitsIntoContainers stack.1 stack.2 cs).2 := by omega
    exact .inl ⟨⟨cs, hcs, not_le.mp hroom⟩, by simp only [if_pos hsome]; rfl⟩
  have hnone : (insertUnitsIntoContainers stack.1 stack.2 cs).2 = 0 := by omega
  rw [hnone, Nat.sub_zero] at hunits
  have hnone' : ¬0 < (insertUnitsIntoContainers stack.1 stack.2 cs).2 := by omega
  have hnot : ¬Refuses stack s.world.playerContainers p := by
    rintro ⟨found, hfound, hless⟩
    obtain rfl : cs = found := Option.some.inj (hcs.symm.trans hfound)
    omega
  simp only [if_neg hnone']
  cases hplayer : s.world.players[p]? with
  | none =>
    have hrequire : World.requirePlayer p s.world.toWorldState =
        (.error (.unknownPlayer p), s.world.toWorldState) := readOr_of_none _ hplayer
    refine .inr (.inr ⟨hnot, fun htakes => htakes.1 hplayer, _,
      bind_of_error (onWorld_of_error (bind_of_error hrequire))⟩)
  | some player =>
  obtain ⟨b, w, hrun, hplayers, hwritten⟩ := replaceContainers_run hplayer hcs
    (insertUnitsIntoContainers stack.1 stack.2 cs).1
  have hpresent : s.world.players[p]? ≠ none := by rw [hplayer]; exact Option.some_ne_none _
  have htakes : Takes stack s.lootSetting s.world.playerContainers p := ⟨hpresent, cs, hcs, hroom⟩
  rw [bind_of_ok (onWorld_of_ok hrun)]
  by_cases hstored : s.database.ensurePlayerExists p = .ok ()
  · obtain ⟨database, hsave⟩ := EngineDatabase.exists_replacePlayerContainers hstored
      (insertUnitsIntoContainers stack.1 stack.2 cs).1
    have hpersist : persist (·.replacePlayerContainers p
        (insertUnitsIntoContainers stack.1 stack.2 cs).1)
        { s with world := { s.world with toWorldState := w } } = (.ok (), _) :=
      persist_eq_ok.mpr ⟨database, hsave, rfl⟩
    rw [bind_of_ok hpersist]
    have hgiven := given_of_written hcs hunits hplayers hwritten
      (ensurePlayerExists_replacePlayerContainers hsave)
    exact .inr (.inl ⟨htakes, _, hgiven, .inl ⟨hstored, rfl⟩⟩)
  · rcases persist_cases (·.replacePlayerContainers p
        (insertUnitsIntoContainers stack.1 stack.2 cs).1)
        { s with world := { s.world with toWorldState := w } } with
      ⟨e, hpersist⟩ | ⟨database, hsave, -⟩
    · rw [bind_of_error hpersist]
      have hgiven := given_of_written hcs hunits hplayers hwritten fun _ => rfl
      exact .inr (.inl ⟨htakes, _, hgiven, .inr ⟨hstored, e, rfl⟩⟩)
    · obtain ⟨_, hexists, -⟩ := except_bind_eq_ok.mp hsave
      exact absurd hexists hstored

/-- **The attempts of one stack.** -/
theorem splitStack_cases (targets : List ℕ) (cursor : ℕ) {stack : ℕ × ℕ} (hid : stack.1 ≠ 0)
    (attempts : List ℕ) (s : HostState) :
    (Asked targets cursor stack s.lootSetting s.world.playerContainers attempts none ∧
        splitStack targets cursor stack attempts s = (.ok none, s)) ∨
      (∃ attempt ∈ attempts,
        Asked targets cursor stack s.lootSetting s.world.playerContainers attempts (some attempt) ∧
        ∃ t, Given stack (turn targets cursor attempt) s t ∧
          (s.lootSetting.stored (turn targets cursor attempt) ∧
              splitStack targets cursor stack attempts s =
                (.ok (some ((cursor + attempt + 1) % targets.length)), t) ∨
            ¬s.lootSetting.stored (turn targets cursor attempt) ∧
              ∃ e, splitStack targets cursor stack attempts s = (.error e, t))) ∨
      (∀ taker, ¬Asked targets cursor stack s.lootSetting s.world.playerContainers attempts taker) ∧
        ∃ e, splitStack targets cursor stack attempts s = (.error e, s) := by
  induction attempts with
  | nil => exact .inl ⟨.nobody, rfl⟩
  | cons attempt attempts ih =>
    rcases offerStack_cases hid (turn targets cursor attempt) s with
      ⟨hrefuses, hrun⟩ | ⟨htakes, t, hgiven, hend⟩ | ⟨hnot, hnot', e, hrun⟩
    · have hnext : splitStack targets cursor stack (attempt :: attempts) s =
          splitStack targets cursor stack attempts s := by
        rw [splitStack, bind_of_ok hrun]
        rfl
      rw [hnext]
      rcases ih with ⟨hasked, hrest⟩ | ⟨other, hmem, hasked, hrest⟩ | ⟨hnobody, hrest⟩
      · exact .inl ⟨.refused hrefuses hasked, hrest⟩
      · exact .inr (.inl ⟨other, List.mem_cons_of_mem _ hmem, .refused hrefuses hasked, hrest⟩)
      · refine .inr (.inr ⟨fun taker hasked => ?_, hrest⟩)
        cases hasked with
        | refused _ hasked => exact hnobody taker hasked
        | taken htakes => exact not_takes_of_refuses hrefuses htakes
    · refine .inr (.inl ⟨attempt, List.mem_cons_self, .taken htakes, t, hgiven, ?_⟩)
      rcases hend with ⟨hstored, hrun⟩ | ⟨hstored, e, hrun⟩
      · refine .inl ⟨hstored, ?_⟩
        rw [splitStack, bind_of_ok hrun]
        rfl
      · refine .inr ⟨hstored, e, ?_⟩
        rw [splitStack, bind_of_error hrun]
    · refine .inr (.inr ⟨fun taker hasked => ?_, e, ?_⟩)
      · cases hasked with
        | refused hrefuses _ => exact hnot hrefuses
        | taken htakes => exact hnot' htakes
      · rw [splitStack, bind_of_error hrun]

end Host

/-! ### All stacks -/

namespace Shares

variable {shares : Shares} {stack : ℕ × ℕ} {taker : Option ℕ}

theorem handed_cons (p : ℕ) : handed ((stack, taker) :: shares) p =
    (if taker = some p then stackUnits stack else 0) + shares.handed p := rfl

theorem unclaimed_none : unclaimed ((stack, none) :: shares) = stack :: shares.unclaimed := rfl

theorem unclaimed_some (p : ℕ) : unclaimed ((stack, some p) :: shares) = shares.unclaimed := rfl

/-- The units of the stacks are with the members, or unclaimed. -/
theorem handed_total {targets : List ℕ} (hmembers : ∀ share ∈ shares, ∀ p ∈ share.2, p ∈ targets) :
    (∑ p ∈ targets.toFinset, (shares.handed p).card) + stackTotal shares.unclaimed =
      stackTotal (shares.map Prod.fst) := by
  induction shares with
  | nil => simp [handed, unclaimed, stackTotal]
  | cons share shares ih =>
    obtain ⟨stack, taker⟩ := share
    have hrest := ih fun share hshare => hmembers share (List.mem_cons_of_mem _ hshare)
    simp only [handed_cons, Multiset.card_add, Finset.sum_add_distrib, List.map_cons]
    have htotal : stackTotal (stack :: shares.map Prod.fst) =
        stack.2 + stackTotal (shares.map Prod.fst) := rfl
    rw [htotal]
    cases taker with
    | none =>
      have hself : stackTotal (unclaimed ((stack, none) :: shares)) =
          stack.2 + stackTotal (unclaimed shares) := rfl
      simp only [hself, reduceCtorEq, if_false, Multiset.card_zero, Finset.sum_const_zero]
      omega
    | some q =>
      have hq : q ∈ targets := hmembers (stack, some q) List.mem_cons_self q rfl
      have hone : (∑ p ∈ targets.toFinset,
          (if some q = some p then stackUnits stack else 0).card) = stack.2 := by
        rw [Finset.sum_eq_single q]
        · simp [stackUnits]
        · intro p _ hne
          simp [Ne.symm hne]
        · intro hnot
          exact absurd (List.mem_toFinset.mpr hq) hnot
      rw [hone, unclaimed_some]
      omega

end Shares

/-- What has become of the stacks: shares, and those an error has dropped. -/
structure Accounted (targets : List ℕ) (items : List (ℕ × ℕ)) (shares : Shares)
    (lost : List (ℕ × ℕ)) (s t : HostState) : Prop where
  accounts : shares.map Prod.fst ++ lost = items
  shared : SharedOut targets shares s t
  map : t.map = s.map

section Account

variable {targets : List ℕ} {items lost : List (ℕ × ℕ)} {shares shares' : Shares}
  {s t u : HostState} {stack : ℕ × ℕ} {p : ℕ}

theorem SharedOut.refl (targets : List ℕ) (s : HostState) : SharedOut targets [] s s :=
  ⟨fun _ h => absurd h List.not_mem_nil, fun _ => (add_zero _).symm⟩

/-- A stack nobody took. -/
theorem Accounted.passed (h : Accounted targets items shares lost s t) (stack : ℕ × ℕ) :
    Accounted targets (stack :: items) ((stack, none) :: shares) lost s t := by
  refine ⟨by rw [List.map_cons, List.cons_append, h.accounts], ⟨?_, fun q => ?_⟩, h.map⟩
  · intro share hshare q hq
    rcases List.mem_cons.mp hshare with rfl | hshare
    · cases hq
    · exact h.shared.members share hshare q hq
  · rw [h.shared.units, Shares.handed_cons, if_neg (by simp), zero_add]

/-- A stack a member took. -/
theorem Accounted.taken (hp : p ∈ targets) (hgiven : Given stack p s t)
    (h : Accounted targets items shares lost t u) :
    Accounted targets (stack :: items) ((stack, some p) :: shares) lost s u := by
  refine ⟨by rw [List.map_cons, List.cons_append, h.accounts], ⟨?_, fun q => ?_⟩,
    h.map.trans hgiven.map⟩
  · intro share hshare q hq
    rcases List.mem_cons.mp hshare with rfl | hshare
    · cases hq
      exact hp
    · exact h.shared.members share hshare q hq
  · rw [h.shared.units, hgiven.units, Shares.handed_cons, add_assoc]

/-- **Two accounts of the same change**: what one calls unclaimed, the other calls unclaimed or
lost. -/
theorem SharedOut.total_eq (h : SharedOut targets shares s t) (h' : SharedOut targets shares' s t)
    (hstacks : shares.map Prod.fst ++ lost = items) (hstacks' : shares'.map Prod.fst = items) :
    stackTotal shares'.unclaimed = stackTotal shares.unclaimed + stackTotal lost := by
  have hsame (p : ℕ) : shares.handed p = shares'.handed p :=
    add_left_cancel ((h.units p).symm.trans (h'.units p))
  have htotal := Shares.handed_total h.members
  have htotal' := Shares.handed_total h'.members
  have hsplit : stackTotal (shares.map Prod.fst) + stackTotal lost = stackTotal items := by
    rw [← hstacks, stackTotal, stackTotal, stackTotal, List.map_append, List.sum_append]
  simp only [hsame] at htotal
  rw [hstacks'] at htotal'
  omega

end Account

theorem stackTotal_eq_zero {items : List (ℕ × ℕ)} (hcounts : ∀ stack ∈ items, stack.2 ≠ 0)
    (h : stackTotal items = 0) : items = [] := by
  cases items with
  | nil => rfl
  | cons stack items =>
    have hstack := hcounts stack List.mem_cons_self
    have hsum : stack.2 + stackTotal items = 0 := h
    omega

/-- Stacks that are cut at a bound keep their total only when none is cut. -/
theorem le_of_sum_min {items : List (ℕ × ℕ)} {bound : ℕ}
    (h : stackTotal items = (items.map fun stack => min stack.2 bound).sum) :
    ∀ stack ∈ items, stack.2 ≤ bound := by
  have hle (items : List (ℕ × ℕ)) :
      (items.map fun stack => min stack.2 bound).sum ≤ stackTotal items :=
    List.sum_le_sum fun stack _ => min_le_left stack.2 bound
  induction items with
  | nil => exact fun stack hstack => absurd hstack List.not_mem_nil
  | cons stack items ih =>
    have hrest := hle items
    have hsum : stack.2 + stackTotal items =
        min stack.2 bound + (items.map fun stack => min stack.2 bound).sum := h
    have hfirst : min stack.2 bound ≤ stack.2 := min_le_left _ _
    intro other hother
    rcases List.mem_cons.mp hother with rfl | hother
    · omega
    · exact ih (by omega) other hother

/-- Something new on a tile is seen there. -/
theorem setTileItems_ne {m m' : WorldMap} {position : Position} {item : WorldMapItem}
    (h : m.setTileItems position (m.itemsAt position ++ [item]) = .ok m') : m' ≠ m := by
  rintro rfl
  have hitems := SharedNativeMap.setTileItems_itemsAt h position
  rw [if_pos rfl] at hitems
  exact absurd (congrArg List.length hitems) (by simp)

/-- Without a corpse every stack has to be with a member. -/
theorem Accounted.keepsLoot_iff {targets : List ℕ} {items lost : List (ℕ × ℕ)} {shares : Shares}
    {s t : HostState} (h : Accounted targets items shares lost s t)
    (hcounts : ∀ stack ∈ items, stack.2 ≠ 0) {corpseServerId : ℕ} {position : Position} :
    KeepsLoot targets corpseServerId position items s t ↔ shares.unclaimed = [] ∧ lost = [] := by
  have hunclaimed : ∀ stack ∈ shares.unclaimed, stack.2 ≠ 0 := by
    intro stack hstack
    obtain ⟨share, hshare, rfl⟩ := List.mem_map.mp hstack
    refine hcounts _ ?_
    rw [← h.accounts]
    exact List.mem_append_left _ (List.mem_map_of_mem (List.mem_filter.mp hshare).1)
  have hlost : ∀ stack ∈ lost, stack.2 ≠ 0 := by
    intro stack hstack
    refine hcounts _ ?_
    rw [← h.accounts]
    exact List.mem_append_right _ hstack
  have hmap : t.map.map = s.map.map := congrArg SharedNativeMap.map h.map
  constructor
  · rintro ⟨shares', hstacks', hshared', ⟨hnone, -⟩ | hplaced⟩
    · have htotal := h.shared.total_eq hshared' h.accounts hstacks'
      rw [hnone] at htotal
      have hzero : stackTotal [] = 0 := rfl
      exact ⟨stackTotal_eq_zero hunclaimed (by omega), stackTotal_eq_zero hlost (by omega)⟩
    · exact absurd hmap (setTileItems_ne hplaced)
  · rintro ⟨hnone, rfl⟩
    exact ⟨shares, by simpa using h.accounts, h.shared, .inl ⟨hnone, hmap⟩⟩

namespace Host

section Loop

variable {targets : List ℕ} {cursor : ℕ} {corpseServerId : ℕ} {position : Position}
  {despawnTick : Option ℕ}

theorem turn_mem {attempt : ℕ} (h : attempt ∈ List.range targets.length) :
    turn targets cursor attempt ∈ targets := by
  have hpos : 0 < targets.length := lt_of_le_of_lt (Nat.zero_le _) (List.mem_range.mp h)
  unfold turn
  rw [List.getD_eq_getElem _ _ (Nat.mod_lt _ hpos)]
  exact List.getElem_mem _

section Round

variable {stack : ℕ × ℕ} {items : List (ℕ × ℕ)} {s t : HostState}

theorem splitLoot_passed
    (h : splitStack targets cursor stack (List.range targets.length) s = (.ok none, t)) :
    splitLoot targets cursor (stack :: items) s =
      (splitLoot targets cursor items >>= fun leftovers => pure (stack :: leftovers)) t :=
  bind_of_ok h

theorem splitLoot_taken {next : ℕ}
    (h : splitStack targets cursor stack (List.range targets.length) s = (.ok (some next), t)) :
    splitLoot targets cursor (stack :: items) s = splitLoot targets next items t :=
  bind_of_ok h

theorem splitLoot_error {e : Refusal}
    (h : splitStack targets cursor stack (List.range targets.length) s = (.error e, t)) :
    splitLoot targets cursor (stack :: items) s = (.error e, t) :=
  bind_of_error h

end Round

/-- **The loop over the stacks**: everything is accounted for, and `LootFits` says how it ends. -/
theorem splitLoot_accounts (targets : List ℕ) (corpseServerId : ℕ) (position : Position)
    (despawnTick : Option ℕ) {items : List (ℕ × ℕ)} (hids : ∀ stack ∈ items, stack.1 ≠ 0)
    (cursor : ℕ) (s : HostState) :
    ∃ shares lost, Accounted targets items shares lost s (splitLoot targets cursor items s).2 ∧
      (lost = [] ∧ (splitLoot targets cursor items s).1 = .ok shares.unclaimed ∧
          (∀ left, LootFits s.lootSetting targets corpseServerId position despawnTick cursor left
              items s.world.playerContainers ↔
            (∀ stack ∈ shares.unclaimed, stack.2 ≤ u8Max) ∧ (left ++ shares.unclaimed = [] ∨
              CorpseFits corpseServerId position despawnTick (left ++ shares.unclaimed) s.map)) ∨
        (∃ e, (splitLoot targets cursor items s).1 = .error e) ∧
          ∀ left, LootFits s.lootSetting targets corpseServerId position despawnTick cursor left
              items s.world.playerContainers ↔
            left = [] ∧ shares.unclaimed = [] ∧ lost = []) := by
  induction items generalizing cursor s with
  | nil =>
    refine ⟨[], [], ⟨rfl, .refl _ _, rfl⟩, .inl ⟨rfl, rfl, fun left => ?_⟩⟩
    simp [LootFits, Shares.unclaimed, HostState.lootSetting]
  | cons stack items ih =>
    have ih := ih fun stack hstack => hids stack (List.mem_cons_of_mem _ hstack)
    rcases splitStack_cases targets cursor (hids stack List.mem_cons_self)
        (List.range targets.length) s with
      ⟨hasked, hrun⟩ | ⟨attempt, hmem, hasked, t, hgiven, hend⟩ | ⟨hnobody, e, hrun⟩
    · -- nobody takes the stack
      rw [splitLoot_passed hrun]
      obtain ⟨shares, lost, hacc, hend⟩ := ih cursor s
      have hfits (left : List (ℕ × ℕ)) :=
        lootFits_passed_iff corpseServerId position despawnTick left items hasked
      rcases hend with ⟨rfl, hrest, hiff⟩ | ⟨⟨e, hrest⟩, hiff⟩
      · have hrest' : splitLoot targets cursor items s =
            (.ok shares.unclaimed, (splitLoot targets cursor items s).2) := Prod.ext hrest rfl
        have hrun' := bind_of_ok hrest' (f := fun leftovers =>
          (pure (stack :: leftovers) : HostM (List (ℕ × ℕ))))
        refine ⟨(stack, none) :: shares, [], ?_, .inl ⟨rfl, ?_, fun left => ?_⟩⟩
        · rw [hrun']
          exact hacc.passed stack
        · rw [hrun']
          rfl
        · rw [hfits, hiff, Shares.unclaimed_none, List.append_assoc, List.singleton_append,
            List.forall_mem_cons, and_assoc]
      · have hrest' : splitLoot targets cursor items s =
            (.error e, (splitLoot targets cursor items s).2) := Prod.ext hrest rfl
        have hrun' := bind_of_error hrest' (f := fun leftovers =>
          (pure (stack :: leftovers) : HostM (List (ℕ × ℕ))))
        refine ⟨(stack, none) :: shares, lost, ?_, .inr ⟨⟨e, ?_⟩, fun left => ?_⟩⟩
        · rw [hrun']
          exact hacc.passed stack
        · rw [hrun']
        · rw [hfits, hiff, Shares.unclaimed_none]
          simp
    · have hfits (left : List (ℕ × ℕ)) :=
        lootFits_taken_iff corpseServerId position despawnTick left items hasked
      rcases hend with ⟨hstored, hrun⟩ | ⟨hstored, e, hrun⟩
      · -- a member takes it, and the loop goes on
        rw [splitLoot_taken hrun]
        obtain ⟨shares, lost, hacc, hend⟩ := ih ((cursor + attempt + 1) % targets.length) t
        have hfits' (left : List (ℕ × ℕ)) :
            LootFits s.lootSetting targets corpseServerId position despawnTick cursor left
              (stack :: items) s.world.playerContainers ↔
              LootFits t.lootSetting targets corpseServerId position despawnTick
                ((cursor + attempt + 1) % targets.length) left items
                t.world.playerContainers := by
          rw [hfits, hgiven.setting, hgiven.windows]
          constructor
          · rintro (⟨rfl, rfl⟩ | ⟨-, h⟩)
            · exact .inl rfl
            · exact h
          · exact fun h => .inr ⟨hstored, h⟩
        refine ⟨(stack, some (turn targets cursor attempt)) :: shares, lost,
          .taken (turn_mem hmem) hgiven hacc, ?_⟩
        simp only [hfits', Shares.unclaimed_some, ← hgiven.map]
        exact hend
      · -- the member has it, but is not stored
        rw [splitLoot_error hrun]
        have hone :
            Accounted targets [stack] [(stack, some (turn targets cursor attempt))] [] s t :=
          .taken (turn_mem hmem) hgiven ⟨rfl, .refl _ _, rfl⟩
        refine ⟨[(stack, some (turn targets cursor attempt))], items, ⟨rfl, hone.shared, hone.map⟩,
          .inr ⟨⟨e, rfl⟩, fun left => ?_⟩⟩
        rw [hfits]
        constructor
        · rintro (⟨hitems, hleft⟩ | ⟨hother, -⟩)
          · exact ⟨hleft, rfl, hitems⟩
          · exact absurd hother hstored
        · rintro ⟨hleft, -, hitems⟩
          exact .inl ⟨hitems, hleft⟩
    · -- somebody could not be asked
      rw [splitLoot_error hrun]
      refine ⟨[], stack :: items, ⟨rfl, .refl _ _, rfl⟩, .inr ⟨⟨e, rfl⟩, fun left => ?_⟩⟩
      refine ⟨fun hfits => absurd hfits (not_lootFits_of_nobody _ _ _ _ _ hnobody), ?_⟩
      rintro ⟨-, -, h⟩
      cases h

end Loop

end Host

/-! ### The corpse -/

namespace Host

variable {corpseServerId : ℕ} {position : Position} {despawnTick : Option ℕ}
  {items : List (ℕ × ℕ)} {s t : HostState}

/-- A placed corpse was one that fits. -/
theorem corpseFits_of_spawned {revision : ℕ}
    (h : spawnCorpse position corpseServerId items despawnTick s = (.ok revision, t)) :
    CorpseFits corpseServerId position despawnTick items s.map ∧ t.world = s.world ∧
      s.map.map.setTileItems position
        (s.map.map.itemsAt position ++ [corpseItem corpseServerId items]) = .ok t.map.map := by
  obtain ⟨record, nextMap, hordinal, hrecord, hroom, hmap, hsave, hworld⟩ :=
    addRuntimeTileItem_eq_ok h
  obtain ⟨hlength, -⟩ := WorldMap.setTileItems_eq_ok.mp hroom
  obtain ⟨_, hvalid, -⟩ := except_bind_eq_ok.mp hsave
  rw [hmap] at hvalid
  have hregistry : s.map.runtimeTileItems.length < maxRuntimeMapItems := by
    by_contra hfull
    have hlong : maxRuntimeMapItems < (s.map.runtimeTileItems ++ [record]).length := by
      rw [List.length_append, List.length_singleton]
      omega
    unfold EngineDatabase.validateRuntimeMapItemRecords at hvalid
    rw [if_pos hlong] at hvalid
    cases hvalid
  refine ⟨⟨?_, hregistry, hordinal, record, hrecord, hvalid⟩, hworld, by rw [hmap]; exact hroom⟩
  simpa using hlength

/-- **The corpse** is placed exactly when it fits, and nothing happens otherwise. -/
theorem spawnCorpse_cases (corpseServerId : ℕ) (position : Position) (despawnTick : Option ℕ)
    (items : List (ℕ × ℕ)) (s : HostState) :
    (CorpseFits corpseServerId position despawnTick items s.map ∧
      ∃ revision t, spawnCorpse position corpseServerId items despawnTick s = (.ok revision, t) ∧
        t.world = s.world ∧ s.map.map.setTileItems position
          (s.map.map.itemsAt position ++ [corpseItem corpseServerId items]) = .ok t.map.map) ∨
      ¬CorpseFits corpseServerId position despawnTick items s.map ∧
        ∃ e, spawnCorpse position corpseServerId items despawnTick s = (.error e, s) := by
  rcases hrun : spawnCorpse position corpseServerId items despawnTick s with ⟨e | revision, t⟩
  · obtain rfl : t = s := addRuntimeTileItem_atomic _ _ _ _ hrun
    refine .inr ⟨fun hfits => ?_, e, rfl⟩
    obtain ⟨record, hrecord, hvalid⟩ := hfits.record
    have hlength : (t.map.map.itemsAt position ++ [corpseItem corpseServerId items]).length ≤
        maxWorldMapItemsPerTile := by simpa using hfits.tile
    have hroom : t.map.map.setTileItems position
        (t.map.map.itemsAt position ++ [corpseItem corpseServerId items]) =
          .ok (t.map.map.putTileItems position _ hlength) :=
      WorldMap.setTileItems_eq_ok.mpr ⟨hlength, rfl⟩
    have hsave : t.database.replaceRuntimeMapItems t.map.sourceRevision
        (t.map.runtimeTileItems ++ [record]) = .ok { t.database with
          runtimeMapItems := (t.map.runtimeTileItems ++ [record]).map fun item =>
            (t.map.sourceRevision, item) } := by
      unfold EngineDatabase.replaceRuntimeMapItems
      rw [hvalid]
      rfl
    have hordinal : nextOrdinal position t = (.ok (t.map.runtimeCount position), t) :=
      nextOrdinal_eq_ok.mpr ⟨hfits.ordinal, rfl, rfl⟩
    unfold spawnCorpse addRuntimeTileItem at hrun
    rw [bind_of_ok (read_apply _ _), if_neg (not_lt.mpr hfits.tile),
      if_neg (not_le.mpr hfits.registry), bind_of_ok hordinal, hrecord,
      bind_of_ok (ofOption_some _ _ _), bind_of_ok (core_eq_ok.mpr ⟨hroom, rfl⟩),
      bind_of_ok ((persist_eq_ok (u := ())).mpr ⟨_, hsave, rfl⟩)] at hrun
    cases hrun
  · obtain ⟨hfits, hworld, hmap⟩ := corpseFits_of_spawned hrun
    exact .inl ⟨hfits, revision, t, rfl, hworld, hmap⟩

theorem corpseItem_eq_fullCorpse (h : ∀ stack ∈ items, stack.2 ≤ u8Max) :
    corpseItem corpseServerId items = fullCorpse corpseServerId items := by
  have hchildren : (items.map fun loot => plainMapItem loot.1 (min loot.2 u8Max) []) =
      items.map fun stack => plainMapItem stack.1 stack.2 [] :=
    List.map_congr_left fun stack hstack => by rw [Nat.min_eq_left (h stack hstack)]
  rw [corpseItem, fullCorpse, hchildren]

/-- What one corpse holds of these stacks is what another holds of those. -/
theorem total_of_corpse_eq {others : List (ℕ × ℕ)}
    (h : fullCorpse corpseServerId others = corpseItem corpseServerId items) :
    stackTotal others = (items.map fun stack => min stack.2 u8Max).sum := by
  have hchildren := congrArg WorldMapItem.children h
  have hcounts := congrArg (fun children => (children.map WorldMapItem.count).sum) hchildren
  simpa [fullCorpse, corpseItem, plainMapItem, Function.comp_def, stackTotal] using hcounts

theorem splitLoot_nobody (cursor : ℕ) (items : List (ℕ × ℕ)) :
    splitLoot [] cursor items = pure items := by
  induction items with
  | nil => rfl
  | cons stack items ih =>
    show (splitLoot [] cursor items >>= fun leftovers => pure (stack :: leftovers)) = _
    rw [ih]
    rfl

theorem leaveCorpse_eq (request : DefeatCorpseRequest) (items : List (ℕ × ℕ))
    (position : Position) (despawnTick : Option ℕ) :
    leaveCorpse request items position despawnTick =
      (splitLoot request.lootSplitTargets 0 items >>= fun leftovers =>
        spawnCorpse position request.corpseServerId leftovers despawnTick >>= fun _ =>
          pure position) := by
  unfold leaveCorpse
  by_cases hnobody : request.lootSplitTargets = []
  · rw [if_pos hnobody, hnobody, splitLoot_nobody]
  · rw [if_neg hnobody]

/-- **The loot of one defeat** finds its places exactly when `LootFits`. -/
theorem leaveCorpse_keeps_iff (request : DefeatCorpseRequest) (position : Position)
    (despawnTick : Option ℕ) (hids : ∀ stack ∈ items, stack.1 ≠ 0)
    (hcounts : ∀ stack ∈ items, stack.2 ≠ 0) (s : HostState) :
    KeepsLoot request.lootSplitTargets request.corpseServerId position items s
        (leaveCorpse request items position despawnTick s).2 ↔
      LootFits s.lootSetting request.lootSplitTargets request.corpseServerId position despawnTick 0
        [] items s.world.playerContainers := by
  obtain ⟨shares, lost, hacc, hend⟩ := splitLoot_accounts request.lootSplitTargets
    request.corpseServerId position despawnTick hids 0 s
  rcases hrun : splitLoot request.lootSplitTargets 0 items s with ⟨r, t⟩
  rw [hrun] at hacc hend
  rcases hend with ⟨rfl, hok, hfits⟩ | ⟨⟨e, herror⟩, hfits⟩
  · obtain rfl : r = .ok shares.unclaimed := hok
    rw [leaveCorpse_eq, bind_of_ok hrun, hfits, List.nil_append, ← hacc.map]
    rcases spawnCorpse_cases request.corpseServerId position despawnTick shares.unclaimed t with
      ⟨hcorpse, revision, u, hspawned, hworld, hplaced⟩ | ⟨hcorpse, e, hrefused⟩
    · rw [bind_of_ok hspawned]
      have hplaced' : s.map.map.setTileItems position (s.map.map.itemsAt position ++
          [corpseItem request.corpseServerId shares.unclaimed]) = .ok u.map.map := by
        rw [← hacc.map]
        exact hplaced
      have hshared : SharedOut request.lootSplitTargets shares s u :=
        ⟨hacc.shared.members, fun p => by rw [hworld]; exact hacc.shared.units p⟩
      constructor
      · rintro ⟨shares', hstacks', hshared', hplaces⟩
        refine ⟨?_, .inr hcorpse⟩
        have htotal := hshared.total_eq hshared' hacc.accounts hstacks'
        rcases hplaces with ⟨-, hmap⟩ | hother
        · exact absurd hmap (setTileItems_ne hplaced')
        · have hsame := (SharedNativeMap.setTileItems_itemsAt hother position).symm.trans
            (SharedNativeMap.setTileItems_itemsAt hplaced' position)
          rw [if_pos rfl, if_pos rfl, List.append_cancel_left_eq, List.singleton_inj] at hsame
          have hcut := total_of_corpse_eq hsame
          have hzero : stackTotal [] = 0 := rfl
          exact le_of_sum_min (by omega)
      · rintro ⟨hwhole, -⟩
        refine ⟨shares, by simpa using hacc.accounts, hshared, .inr ?_⟩
        rw [← corpseItem_eq_fullCorpse hwhole]
        exact hplaced'
    · rw [bind_of_error hrefused]
      refine (hacc.keepsLoot_iff hcounts).trans ⟨?_, ?_⟩
      · rintro ⟨hnone, -⟩
        rw [hnone]
        exact ⟨fun _ h => absurd h List.not_mem_nil, .inl rfl⟩
      · rintro ⟨-, hnone | hother⟩
        · exact ⟨hnone, rfl⟩
        · exact absurd hother hcorpse
  · obtain rfl : r = .error e := herror
    rw [leaveCorpse_eq, bind_of_error hrun, hfits]
    refine (hacc.keepsLoot_iff hcounts).trans ?_
    simp

end Host

/-! ### Defeats -/

/-- The stacks of a roll have items and counts. -/
theorem stacks_of_roll {creatures : LootedCreatures} {id : UInt32} {seed : UInt64}
    {runtime : LootedCreature} {roll : StaticCreatureLootRoll}
    (hruntime : creatures[id]? = some runtime)
    (hroll : creatures.rollDefeatedStaticCreatureLoot id seed = some (.ok roll)) :
    ∀ stack ∈ roll.stacks, stack.1 ≠ 0 ∧ stack.2 ≠ 0 := by
  obtain ⟨roll', hroll', -, hpicks⟩ := LootedCreatures.rollDefeated_picks hruntime seed
  obtain rfl : roll = roll' := by
    rw [hroll] at hroll'
    exact Except.ok.inj (Option.some.inj hroll')
  intro stack hstack
  obtain ⟨item, hitem, rfl⟩ := List.mem_map.mp hstack
  obtain ⟨entry, hentry, hyields⟩ := hpicks.mem hitem
  have hvalid := runtime.loot.valid entry hentry
  simp only [StaticCreatureLootEntry.isValid, decide_eq_true_eq] at hvalid
  obtain ⟨hid, -, hmin, -⟩ := hyields
  constructor
  · intro hzero
    exact hvalid.1 (hid ▸ UInt16.toNat_inj.mp hzero)
  · intro hzero
    have hle := UInt16.le_iff_toNat_le.mp hmin
    exact hvalid.2.1 (UInt16.toNat_inj.mp (by simpa using le_antisymm (by omega) (Nat.zero_le _)))

/-- **Every rolled stack ends up with a member or in the corpse, with its full count**, exactly when
there is nothing to hand out, or the despawn tick stays within 64 bits and the loot fits. -/
theorem loot_kept_iff (creatures : LootedCreatures) (request : DefeatCorpseRequest) (s : HostState)
    {runtime : LootedCreature} {roll : StaticCreatureLootRoll}
    (hruntime : creatures[request.creatureId]? = some runtime)
    (hroll : creatures.rollDefeatedStaticCreatureLoot request.creatureId request.seed =
      some (.ok roll)) :
    KeepsLoot request.lootSplitTargets request.corpseServerId runtime.entity.position roll.stacks s
        ((Host.spawnNativeStaticDefeatCorpse creatures request s).elim s Prod.snd) ↔
      roll.stacks = [] ∨
        ∃ despawnTick, corpseDespawnTick s.world.tick request.corpseDespawnSeconds =
            some despawnTick ∧
          LootFits s.lootSetting request.lootSplitTargets request.corpseServerId
            runtime.entity.position despawnTick 0 [] roll.stacks s.world.playerContainers := by
  have hstacks := stacks_of_roll hruntime hroll
  unfold Host.spawnNativeStaticDefeatCorpse
  rw [hroll]
  simp only [Option.bind_eq_bind, Option.bind_some, hruntime]
  cases htick : corpseDespawnTick s.world.tick request.corpseDespawnSeconds with
  | none =>
    -- the program panics, and hands nothing out
    have hnothing : Accounted request.lootSplitTargets roll.stacks [] roll.stacks s s :=
      ⟨rfl, .refl _ _, rfl⟩
    refine (hnothing.keepsLoot_iff fun stack hstack => (hstacks stack hstack).2).trans ⟨?_, ?_⟩
    · exact fun h => .inl h.2
    · rintro (hnone | ⟨_, h, -⟩)
      · exact ⟨rfl, hnone⟩
      · cases h
  | some despawnTick =>
    have hkeeps := Host.leaveCorpse_keeps_iff request runtime.entity.position despawnTick
      (fun stack hstack => (hstacks stack hstack).1)
      (fun stack hstack => (hstacks stack hstack).2) s
    refine hkeeps.trans ⟨fun hfits => .inr ⟨despawnTick, rfl, hfits⟩, ?_⟩
    rintro (hnone | ⟨other, hother, hfits⟩)
    · rw [hnone]
      exact .inl rfl
    · cases hother
      exact hfits

/-! ### Five coins and three hundred -/

/-- A table that always drops the same coins. -/
def fixedCoins (coins : UInt16) (h : coins ≠ 0) : LootTable where
  entries := [⟨2148, lootChanceScale, coins, coins⟩]
  length_le := Nat.succ_le_succ (Nat.zero_le 31)
  valid := by
    intro entry hentry
    obtain rfl := List.mem_singleton.mp hentry
    simp [StaticCreatureLootEntry.isValid, h]

def coinRats (coins : UInt16) (h : coins ≠ 0) : LootedCreatures :=
  (∅ : LootedCreatures).insert 0x40000001
    { LootedCreatures.coinBearer with
      loot := fixedCoins coins h
      npc_loot := fun hnpc => absurd hnpc (by decide) }

theorem coinRats_roll (coins : UInt16) (h : coins ≠ 0) (seed : UInt64) :
    (coinRats coins h).rollDefeatedStaticCreatureLoot 0x40000001 seed =
      some (.ok ⟨0x40000001, [(2148, coins)]⟩) := by
  obtain ⟨roll, hroll, hid, picks, hpicks, hitems⟩ := LootedCreatures.rollDefeated_picks
    (show (coinRats coins h)[(0x40000001 : UInt32)]? = some _ from
      Std.ExtTreeMap.getElem?_insert_self) seed
  cases hpicks with
  | @cons _ pick _ _ hpick hrest =>
    cases hrest
    cases pick with
    | none => exact absurd (show (100000 : UInt32) < lootChanceScale from hpick) (by decide)
    | some pick =>
      obtain ⟨hitem, -, hmin, hmax⟩ := hpick
      have hcoins : pick = (2148, coins) := Prod.ext hitem (UInt16.le_antisymm hmax hmin)
      have hlist : roll.items = [(2148, coins)] := by
        rw [hitems, hcoins]
        rfl
      rw [hroll, ← hid, ← hlist]

/-- A tile nobody stands on, in a world without players. -/
def lair : HostState := ⟨LivingWorld.empty, .new grassMap, InventorySave.onePlayerDatabase⟩

/-- **Three hundred coins do not fit into the corpse**: it keeps 255 of them. -/
theorem coins_cut :
    ¬∀ (creatures : LootedCreatures) (request : DefeatCorpseRequest) (s : HostState)
      (runtime : LootedCreature) (roll : StaticCreatureLootRoll),
      creatures[request.creatureId]? = some runtime →
      creatures.rollDefeatedStaticCreatureLoot request.creatureId request.seed =
        some (.ok roll) →
      KeepsLoot request.lootSplitTargets request.corpseServerId runtime.entity.position
        roll.stacks s
        ((Host.spawnNativeStaticDefeatCorpse creatures request s).elim s Prod.snd) := by
  intro h
  have hkeeps := h (coinRats 300 (by decide)) ⟨0x40000001, 42, 3000, 0, []⟩ lair _ _
    Std.ExtTreeMap.getElem?_insert_self (coinRats_roll 300 (by decide) 42)
  have hrun : Host.spawnNativeStaticDefeatCorpse (coinRats 300 (by decide))
      ⟨0x40000001, 42, 3000, 0, []⟩ lair =
        some (Host.leaveCorpse ⟨0x40000001, 42, 3000, 0, []⟩ [(2148, 300)] ⟨100, 100, 7⟩ none
          lair) := by
    unfold Host.spawnNativeStaticDefeatCorpse
    rw [coinRats_roll]
    rfl
  rw [hrun] at hkeeps
  have hfits := (@Host.leaveCorpse_keeps_iff [(2148, 300)] _ _ _ (by decide) (by decide) lair).mp
    hkeeps
  rcases hfits with ⟨-, hwhole, -⟩ | ⟨attempt, hasked, -⟩
  · exact absurd hwhole (by decide)
  · cases hasked

/-- Five coins are in the corpse. -/
theorem loot_kept_iff_coins :
    KeepsLoot [] 3000 ⟨100, 100, 7⟩ [(2148, 5)] lair
      ((Host.spawnNativeStaticDefeatCorpse (coinRats 5 (by decide)) ⟨0x40000001, 42, 3000, 0, []⟩
        lair).elim lair Prod.snd) := by
  refine (loot_kept_iff (coinRats 5 (by decide)) ⟨0x40000001, 42, 3000, 0, []⟩ lair
    Std.ExtTreeMap.getElem?_insert_self (coinRats_roll 5 (by decide) 42)).mpr
    (.inr ⟨none, rfl, .inl ⟨.nobody, by decide, .inr ?_⟩⟩)
  exact ⟨by decide +kernel, by decide +kernel, by decide +kernel, _, rfl, by decide +kernel⟩

end ForgottenEngine
