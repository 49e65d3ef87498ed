import ForgottenEngine.Creatures
import ForgottenEngine.Library.CheckedWord

/-!
# Loot of static creatures

Each monster may carry a table of loot.  A roll walks the table once, advancing a linear
congruential generator that starts at the seed, the identity and the tile of the creature.  The
arithmetic that panics in the program when it leaves its range is `none` here.

* `LootTable` — a table the import has accepted, with what the import checks;
* `rollEntry_picks`, `rollEntries_picks` — what one round of the loop and the whole loop leave, from
  any state of the generator;
* `rolls_pick` — every roll returns, and what it returns is picked from the table entry by entry.
-/

namespace ForgottenEngine

open CheckedWord

def lootChanceScale : UInt32 := 100000

def maxStaticLootEntries : ℕ := 32

structure StaticCreatureLootEntry where
  itemId : UInt16
  chance : UInt32
  minCount : UInt16
  maxCount : UInt16
deriving DecidableEq, Repr

/-- What `with_loot_tables` asks of each entry. -/
def StaticCreatureLootEntry.isValid (entry : StaticCreatureLootEntry) : Bool :=
  entry.itemId ≠ 0 ∧ entry.minCount ≠ 0 ∧ entry.minCount ≤ entry.maxCount

/-- A table `with_loot_tables` has accepted. -/
structure LootTable where
  entries : List StaticCreatureLootEntry
  length_le : entries.length ≤ maxStaticLootEntries
  valid : ∀ entry ∈ entries, entry.isValid

/-- The checks `with_loot_tables` makes of the table of one monster. -/
def LootTable.new (loot : List StaticCreatureLootEntry) : Except CoreError LootTable :=
  if hlength : loot.length ≤ maxStaticLootEntries then
    if hvalid : ∀ entry ∈ loot, entry.isValid then .ok ⟨loot, hlength, hvalid⟩
    else .error .unknownStaticCreatureSchedule
  else .error .unknownStaticCreatureSchedule

/-- An installed creature with its loot; the import refuses a table for an NPC. -/
structure LootedCreature extends StaticCreatureRuntime where
  loot : LootTable
  npc_loot : isNpc = true → loot.entries = []

structure StaticCreatureLootRoll where
  creatureId : UInt32
  items : List (UInt16 × UInt16)
deriving DecidableEq, Repr

/-! ### The roll -/

/-- One step of the generator. -/
def nextLootState (state : UInt64) : UInt64 := state * 6364136223846793005 + 1442695040888963407

/-- `u16::try_from` with a default. -/
def u16TryFromOr (count : UInt64) (default : UInt16) : UInt16 :=
  if count.toNat < UInt16.size then count.toUInt16 else default

/-- One round of the loop over the table: the items so far, and the state of the generator. -/
def rollEntry (rolled : List (UInt16 × UInt16) × UInt64) (entry : StaticCreatureLootEntry) :
    Option (List (UInt16 × UInt16) × UInt64) := do
  let state := nextLootState rolled.2
  let roll ← checkedRem (state >>> 33) (max lootChanceScale 1).toUInt64
  if roll < (min entry.chance lootChanceScale).toUInt64 then
    let difference ← checkedSub entry.maxCount.toUInt64 entry.minCount.toUInt64
    let span ← checkedAdd difference 1
    let state := nextLootState state
    let offset ← checkedRem (state >>> 33) span
    let count ← checkedAdd entry.minCount.toUInt64 offset
    return (rolled.1 ++ [(entry.itemId, u16TryFromOr count entry.maxCount)], state)
  else
    return (rolled.1, state)

def rollEntries (loot : List StaticCreatureLootEntry) (rolled : List (UInt16 × UInt16) × UInt64) :
    Option (List (UInt16 × UInt16) × UInt64) :=
  loot.foldlM rollEntry rolled

/-- Where the generator starts. -/
def initialLootState (creature : LootedCreature) (id : UInt32) (seed : UInt64) : UInt64 :=
  seed ^^^ (id.toUInt64 <<< 32) ^^^ UInt64.ofNat creature.entity.position.x ^^^
    (UInt64.ofNat creature.entity.position.y <<< 16)

/-- The installed creatures of a world. -/
abbrev LootedCreatures := BTreeMap UInt32 LootedCreature

namespace LootedCreatures

/-- The roll of a creature that was just defeated. -/
def rollDefeatedStaticCreatureLoot (self : LootedCreatures) (id : UInt32) (seed : UInt64) :
    Option (Except CoreError StaticCreatureLootRoll) :=
  match self[id]? with
  | none => some (.error (.unknownStaticCreature id.toNat))
  | some runtime =>
    if runtime.isNpc ∨ runtime.loot.entries.isEmpty then some (.ok ⟨id, []⟩)
    else do
      let rolled ← rollEntries runtime.loot.entries ([], initialLootState runtime id seed)
      return .ok ⟨id, rolled.1⟩

/-- The roll of an active creature; an inactive one yields nothing. -/
def rollStaticCreatureLoot (self : LootedCreatures) (id : UInt32) (seed : UInt64) :
    Option (Except CoreError StaticCreatureLootRoll) :=
  match self[id]? with
  | none => some (.error (.unknownStaticCreature id.toNat))
  | some runtime =>
    if runtime.active = false then some (.ok ⟨id, []⟩)
    else self.rollDefeatedStaticCreatureLoot id seed

end LootedCreatures

/-! ### What a roll picks -/

/-- What the roll may make of one entry: nothing, unless its chance is full, or its item with a
count within its bounds, unless its chance is zero. -/
def StaticCreatureLootEntry.MayYield (entry : StaticCreatureLootEntry) :
    Option (UInt16 × UInt16) → Prop
  | none => entry.chance < lootChanceScale
  | some (itemId, count) =>
    itemId = entry.itemId ∧ 0 < entry.chance ∧ entry.minCount ≤ count ∧ count ≤ entry.maxCount

/-- The items are picked from the table: one decision an entry, in the order of the table. -/
def PicksFrom (loot : List StaticCreatureLootEntry) (items : List (UInt16 × UInt16)) : Prop :=
  ∃ picks : List (Option (UInt16 × UInt16)),
    List.Forall₂ StaticCreatureLootEntry.MayYield loot picks ∧ items = picks.reduceOption

theorem PicksFrom.nil : PicksFrom [] [] := ⟨[], .nil, rfl⟩

theorem PicksFrom.cons {entry : StaticCreatureLootEntry} {loot : List StaticCreatureLootEntry}
    {pick : Option (UInt16 × UInt16)} {items : List (UInt16 × UInt16)} (hpick : entry.MayYield pick)
    (h : PicksFrom loot items) : PicksFrom (entry :: loot) (pick.toList ++ items) := by
  obtain ⟨picks, hpicks, rfl⟩ := h
  refine ⟨pick :: picks, .cons hpick hpicks, ?_⟩
  cases pick with
  | none => rfl
  | some p => rfl

/-- What is picked is a subsequence of the table. -/
theorem PicksFrom.sublist {loot : List StaticCreatureLootEntry} {items : List (UInt16 × UInt16)}
    (h : PicksFrom loot items) : (items.map Prod.fst).Sublist (loot.map (·.itemId)) := by
  obtain ⟨picks, hpicks, rfl⟩ := h
  induction hpicks with
  | nil => exact .slnil
  | @cons entry pick loot picks hpick hpicks ih =>
    cases pick with
    | none => exact ih.cons _
    | some p =>
      have hitem : p.1 = entry.itemId := hpick.1
      show (p.1 :: picks.reduceOption.map Prod.fst).Sublist (entry.itemId :: loot.map (·.itemId))
      rw [hitem]
      exact ih.cons_cons _

/-- What is picked is what some entry may yield. -/
theorem PicksFrom.mem {loot : List StaticCreatureLootEntry} {items : List (UInt16 × UInt16)}
    (h : PicksFrom loot items) {item : UInt16 × UInt16} (hitem : item ∈ items) :
    ∃ entry ∈ loot, entry.MayYield (some item) := by
  obtain ⟨picks, hpicks, rfl⟩ := h
  rw [List.reduceOption_mem_iff] at hitem
  induction hpicks with
  | nil => cases hitem
  | @cons entry pick loot picks hpick hpicks ih =>
    rcases List.mem_cons.mp hitem with rfl | hitem
    · exact ⟨entry, List.mem_cons_self, hpick⟩
    · obtain ⟨found, hfound, hyields⟩ := ih hitem
      exact ⟨found, List.mem_cons_of_mem _ hfound, hyields⟩

/-- The rolled count of a drop stays within the bounds of its entry. -/
theorem rolledCount_bounds (entry : StaticCreatureLootEntry) (hvalid : entry.isValid)
    (random : UInt64) :
    ∃ difference span offset count,
      checkedSub entry.maxCount.toUInt64 entry.minCount.toUInt64 = some difference ∧
      checkedAdd difference 1 = some span ∧ checkedRem random span = some offset ∧
      checkedAdd entry.minCount.toUInt64 offset = some count ∧
      entry.minCount ≤ u16TryFromOr count entry.maxCount ∧
      u16TryFromOr count entry.maxCount ≤ entry.maxCount := by
  have hmin : entry.minCount.toUInt64.toNat = entry.minCount.toNat :=
    UInt16.toNat_toUInt64 entry.minCount
  have hmax : entry.maxCount.toUInt64.toNat = entry.maxCount.toNat :=
    UInt16.toNat_toUInt64 entry.maxCount
  have hle : entry.minCount.toNat ≤ entry.maxCount.toNat := by
    simp only [StaticCreatureLootEntry.isValid, decide_eq_true_eq] at hvalid
    exact UInt16.le_iff_toNat_le.mp hvalid.2.2
  have hlt : entry.maxCount.toNat < UInt16.size := UInt16.toNat_lt_size entry.maxCount
  have hsize : UInt16.size + 1 < UInt64.size := by decide
  obtain ⟨difference, hdifference, hd⟩ := checkedSub_of_le (a := entry.maxCount.toUInt64)
    (b := entry.minCount.toUInt64) (by omega)
  have hone : (1 : UInt64).toNat = 1 := rfl
  obtain ⟨span, hspan, hs⟩ := checkedAdd_of_lt (a := difference) (b := 1) (by omega)
  obtain ⟨offset, hoffset, ho⟩ := checkedRem_of_pos (a := random) (b := span) (by omega)
  obtain ⟨count, hcount, hc⟩ := checkedAdd_of_lt (a := entry.minCount.toUInt64) (b := offset)
    (by omega)
  -- The count is at most the upper bound, so the conversion never takes its default.
  have hfits : u16TryFromOr count entry.maxCount = count.toUInt16 := if_pos (by omega)
  have hvalue : count.toUInt16.toNat = count.toNat := by
    rw [UInt64.toNat_toUInt16]
    exact Nat.mod_eq_of_lt (show count.toNat < UInt16.size by omega)
  refine ⟨difference, span, offset, count, hdifference, hspan, hoffset, hcount, ?_, ?_⟩
  · rw [hfits, UInt16.le_iff_toNat_le]
    omega
  · rw [hfits, UInt16.le_iff_toNat_le]
    omega

/-- One round of the loop returns, and adds what the entry may yield. -/
theorem rollEntry_picks (entry : StaticCreatureLootEntry) (hvalid : entry.isValid)
    (items : List (UInt16 × UInt16)) (state : UInt64) :
    ∃ pick next, rollEntry (items, state) entry = some (items ++ pick.toList, next) ∧
      entry.MayYield pick := by
  have hscale : (max lootChanceScale 1).toUInt64.toNat = 100000 := by decide
  obtain ⟨roll, hroll, hbelow⟩ := checkedRem_of_pos (a := nextLootState state >>> 33)
    (b := (max lootChanceScale 1).toUInt64) (by omega)
  have hchance : (min entry.chance lootChanceScale).toUInt64.toNat =
      min entry.chance.toNat 100000 := by
    rw [UInt32.toNat_toUInt64]
    show (if entry.chance ≤ lootChanceScale then entry.chance else lootChanceScale).toNat = _
    rw [apply_ite UInt32.toNat, min_def]
    rfl
  simp only [rollEntry, hroll, Option.bind_eq_bind, Option.bind_some]
  by_cases hdrop : roll < (min entry.chance lootChanceScale).toUInt64
  · obtain ⟨difference, span, offset, count, hdifference, hspan, hoffset, hcount, hlower, hupper⟩ :=
      rolledCount_bounds entry hvalid (nextLootState (nextLootState state) >>> 33)
    rw [if_pos hdrop, hdifference, Option.bind_some, hspan, Option.bind_some, hoffset,
      Option.bind_some, hcount, Option.bind_some]
    refine ⟨some (entry.itemId, u16TryFromOr count entry.maxCount), _, rfl, rfl, ?_, hlower,
      hupper⟩
    have hlt := UInt64.lt_iff_toNat_lt.mp hdrop
    show (0 : UInt32) < entry.chance
    rw [UInt32.lt_iff_toNat_lt]
    show 0 < entry.chance.toNat
    omega
  · rw [if_neg hdrop]
    refine ⟨none, _, by rw [Option.toList_none, List.append_nil]; rfl, ?_⟩
    have hge : (min entry.chance lootChanceScale).toUInt64.toNat ≤ roll.toNat :=
      Nat.not_lt.mp fun hlt => hdrop (UInt64.lt_iff_toNat_lt.mpr hlt)
    show entry.chance < lootChanceScale
    rw [UInt32.lt_iff_toNat_lt]
    show entry.chance.toNat < 100000
    omega

/-- The loop returns from every state of the generator, and adds items picked from the table. -/
theorem rollEntries_picks (loot : List StaticCreatureLootEntry)
    (hvalid : ∀ entry ∈ loot, entry.isValid) (items : List (UInt16 × UInt16)) (state : UInt64) :
    ∃ picked next, rollEntries loot (items, state) = some (items ++ picked, next) ∧
      PicksFrom loot picked := by
  induction loot generalizing items state with
  | nil => exact ⟨[], state, by rw [List.append_nil]; rfl, .nil⟩
  | cons entry loot ih =>
    have hentry : entry.isValid := hvalid entry List.mem_cons_self
    have hrest : ∀ e ∈ loot, e.isValid := fun e he => hvalid e (List.mem_cons_of_mem entry he)
    obtain ⟨pick, next, hround, hpick⟩ := rollEntry_picks entry hentry items state
    obtain ⟨picked, last, hrun, hpicked⟩ := ih hrest (items ++ pick.toList) next
    refine ⟨pick.toList ++ picked, last, ?_, hpicked.cons hpick⟩
    rw [rollEntries, List.foldlM_cons, hround, ← List.append_assoc]
    exact hrun

namespace LootedCreatures

/-- Every roll of a defeated creature returns items picked from its table. -/
theorem rollDefeated_picks {creatures : LootedCreatures} {id : UInt32} {runtime : LootedCreature}
    (h : creatures[id]? = some runtime) (seed : UInt64) :
    ∃ roll, creatures.rollDefeatedStaticCreatureLoot id seed = some (.ok roll) ∧
      roll.creatureId = id ∧ PicksFrom runtime.loot.entries roll.items := by
  have heq : creatures.rollDefeatedStaticCreatureLoot id seed =
      if runtime.isNpc ∨ runtime.loot.entries.isEmpty then some (.ok ⟨id, []⟩)
      else do
        let rolled ← rollEntries runtime.loot.entries ([], initialLootState runtime id seed)
        return .ok ⟨id, rolled.1⟩ := by
    rw [rollDefeatedStaticCreatureLoot, h]
  rw [heq]
  by_cases hnone : runtime.isNpc ∨ runtime.loot.entries.isEmpty
  · -- Nothing is rolled for a creature without a table.
    have hempty : runtime.loot.entries = [] := by
      cases hnone with
      | inl hnpc => exact runtime.npc_loot hnpc
      | inr hloot => exact List.isEmpty_iff.mp hloot
    rw [if_pos hnone, hempty]
    exact ⟨⟨id, []⟩, rfl, rfl, .nil⟩
  · rw [if_neg hnone]
    obtain ⟨picked, next, hrun, hpicked⟩ := rollEntries_picks runtime.loot.entries
      runtime.loot.valid [] (initialLootState runtime id seed)
    rw [hrun]
    exact ⟨⟨id, picked⟩, rfl, rfl, hpicked⟩

/-- **Every roll returns, and picks from the table.**  No arithmetic panics; the roll of a creature
decides each entry of its table once, in order, with a count within the bounds of the entry, always
for a full chance and never for a zero one.  An inactive creature rolls only as a defeated one. -/
theorem rolls_pick (creatures : LootedCreatures) (id : UInt32) (seed : UInt64) :
    (creatures.rollStaticCreatureLoot id seed).isSome ∧
      (creatures.rollDefeatedStaticCreatureLoot id seed).isSome ∧
      ∀ runtime, creatures[id]? = some runtime →
        ∃ roll, creatures.rollDefeatedStaticCreatureLoot id seed = some (.ok roll) ∧
          roll.creatureId = id ∧ PicksFrom runtime.loot.entries roll.items ∧
          (roll.items.map Prod.fst).Sublist (runtime.loot.entries.map (·.itemId)) ∧
          creatures.rollStaticCreatureLoot id seed =
            some (.ok (if runtime.active then roll else ⟨id, []⟩)) := by
  cases hruntime : creatures[id]? with
  | none =>
    rw [rollStaticCreatureLoot, rollDefeatedStaticCreatureLoot, hruntime]
    exact ⟨rfl, rfl, fun _ h => nomatch h⟩
  | some runtime =>
    obtain ⟨roll, hroll, hid, hpicks⟩ := rollDefeated_picks hruntime seed
    have hactive : creatures.rollStaticCreatureLoot id seed =
        some (.ok (if runtime.active then roll else ⟨id, []⟩)) := by
      rw [rollStaticCreatureLoot, hruntime]
      show (if runtime.active = false then some (.ok ⟨id, []⟩)
        else creatures.rollDefeatedStaticCreatureLoot id seed) = _
      by_cases h : runtime.active
      · rw [if_neg (by rw [h]; decide), if_pos h, hroll]
      · rw [if_pos (Bool.eq_false_iff.mpr h), if_neg h]
    refine ⟨by rw [hactive]; rfl, by rw [hroll]; rfl, ?_⟩
    intro other hother
    cases hother
    exact ⟨roll, hroll, hid, hpicks, hpicks.sublist, hactive⟩

/-- Coins that always drop, and meat that never does. -/
def coinsAndMeat : LootTable :=
  ⟨[⟨2148, 100000, 2, 5⟩, ⟨2666, 0, 1, 1⟩], by decide, by decide⟩

def coinBearer : LootedCreature where
  toStaticCreatureRuntime := Living.installedRuntime ⟨[], ∅, ∅, ∅, ∅, ∅⟩ 0
    ⟨0x40000001, "Rat", ⟨100, 100, 7⟩, 100, 2⟩
  loot := coinsAndMeat
  npc_loot := by decide

def coinBearers : LootedCreatures := (∅ : LootedCreatures).insert 0x40000001 coinBearer

/-- Its roll is the coins alone, between two and five of them. -/
theorem rolls_pick_coins :
    ∃ count : UInt16, 2 ≤ count ∧ count ≤ 5 ∧
      coinBearers.rollDefeatedStaticCreatureLoot 0x40000001 42 =
        some (.ok ⟨0x40000001, [(2148, count)]⟩) := by
  have hbearer : coinBearers[(0x40000001 : UInt32)]? = some coinBearer :=
    Std.ExtTreeMap.getElem?_insert_self
  obtain ⟨roll, hroll, hid, ⟨picks, hpicks, hitems⟩, -, -⟩ :=
    (rolls_pick coinBearers 0x40000001 42).2.2 coinBearer hbearer
  cases hpicks with
  | @cons _ coins _ _ hcoins hrest =>
    cases hrest with
    | @cons _ meat _ _ hmeat hnil =>
      cases hnil
      cases coins with
      | none =>
        have hfull : (100000 : UInt32) < lootChanceScale := hcoins
        exact absurd hfull (by decide)
      | some coins =>
        cases meat with
        | some meat =>
          have hzero : (0 : UInt32) < 0 := hmeat.2.1
          exact absurd hzero (by decide)
        | none =>
          refine ⟨coins.2, hcoins.2.2.1, hcoins.2.2.2, ?_⟩
          have hcoin : coins = (2148, coins.2) := Prod.ext hcoins.1 rfl
          rw [hroll]
          congr 2
          cases roll
          rw [StaticCreatureLootRoll.mk.injEq]
          exact ⟨hid, hitems.trans (by rw [hcoin]; rfl)⟩

end LootedCreatures

end ForgottenEngine
