import ForgottenEngine.Library.Fallible
import ForgottenEngine.Library.Indices
import ForgottenEngine.Position

/-!
# Item instances, and what they are made of

`ItemInstance` is the bounded runtime item of the core crate: a server id, a stack count, two
optional script ids and the nested contents of a bag.  The operations below follow the source
one by one; a method that writes through `&mut self` returns the new value, and a method that
fails leaves `self` alone, so its error carries no item.

The second half says what an item is worth to its owner.  `units` flattens an item to the bag of
its single units, nested contents included, each unit tagged with the kind that decides whether
two stacks may merge.  A split copies the nested contents of the stack into both halves
(`units_splitOff`) and a merge forgets those of the incoming stack (`units_mergeStack`): every
conservation result further up rests on these two equations.
-/

namespace ForgottenEngine

/-- The fixed equipment locations of a player. -/
inductive EquipmentSlot where
  | head | neck | backpack | armor | rightHand | leftHand | legs | feet | ring | ammo
deriving DecidableEq, Repr

/-- The refusals of the core operations modelled here. -/
inductive CoreError where
  | invalidContainerCapacity (capacity : ℕ)
  | invalidContainerName (length : ℕ)
  | tooManyPlayerContainers (limit : ℕ)
  | containerFull (capacity : ℕ)
  | invalidItemContentDepth
  | invalidItemId (serverId : ℕ)
  | emptyEquipmentSlot (playerId : ℕ) (slot : EquipmentSlot)
  | occupiedEquipmentSlot (playerId : ℕ) (slot : EquipmentSlot)
  | unknownPlayerContainer (playerId containerId : ℕ)
  | unknownPlayerContainerItem (playerId containerId itemIndex : ℕ)
  | invalidItemStackCount (count : ℕ)
  | invalidItemTransferCount (requested available : ℕ)
  | incompatibleItemStacks
  | samePlayerContainerTransfer (playerId containerId : ℕ)
  | sameEquipmentSlotTransfer (playerId : ℕ) (slot : EquipmentSlot)
  | itemStackCountOverflow (existing incoming : ℕ)
  | tradeWithSelf
  | playerAlreadyTrading (playerId : ℕ)
  | noActiveTrade (playerId : ℕ)
  | tradeItemLimit (limit : ℕ)
  | duplicateTradeItem
  | unknownTradeItem
  | tradeItemMissing (playerId containerId itemIndex : ℕ)
  | tradeValidationFailed (message : String)
  | unknownPlayer (playerId : ℕ)
  | playerIsDead (playerId : ℕ)
  | invalidClientThingId (serverId : ℕ)
  | duplicateItemPresentation (serverId : ℕ)
  | duplicatePlayer (playerId : ℕ)
  | emptyPlayerName
  | invalidMovement (origin destination : Position)
  | mapBoundary (position : Position)
  | mapTileLimit (limit : ℕ)
  | mapTileItemLimit (limit : ℕ)
  | mapTownLimit (limit : ℕ)
  | mapWaypointLimit (limit : ℕ)
  | staticSpawnLimit (limit : ℕ)
  | duplicateStaticSpawnId (id : ℕ)
  | emptyStaticSpawnName
  | unknownEntityName (name : String)
  | spawnPositionRejected (position : Position)
  | dynamicSpawnLimit (limit : ℕ)
  | invalidStaticCreatureHealthPercent (percent : ℕ)
  | invalidStaticCreatureReactivationDelay (id remainingSeconds intervalSeconds : ℕ)
  | invalidStaticCreatureMeleeCooldownDelay (id remainingTicks cooldownTicks : ℕ)
  | unknownStaticCreatureSchedule
  | staticCreatureOccupiesPosition (position : Position)
  | playerOccupiesStaticCreaturePosition (position : Position)
  | playerOccupiesPosition (position : Position)
  | unknownStaticCreature (id : ℕ)
  | inactiveStaticCreature (id : ℕ)
  | staticCreatureMovementBlocked (position : Position)
  | invalidMap (message : String)
  | selfInteractionNotAllowed (playerId : ℕ)
  | invalidPlayerVitals (playerId : ℕ)
  | unknownTown (townId : ℕ)
  | invalidPlayerRespawnState (playerId : ℕ)
  | selectedPlayerIsDead (playerId : ℕ)
  | playerIsNotDead (playerId : ℕ)
  | missingRespawnPosition (playerId : ℕ)
  | unknownMapItem (position : Position) (stackIndex expectedServerId : ℕ)
  | invalidItemUseIntent
  | itemUseOutOfRange (playerId : ℕ) (origin destination : Position)
  | missingMapTile (position : Position)
  | invalidStaticCreatureTargetRange (range : ℕ)
  | staticNpcNotAttackable (id : ℕ)
  | playerNotInParty (playerId : ℕ)
  | playerAlreadyInParty (playerId : ℕ)
  | playerNotInPartyFree (playerId : ℕ)
  | partyInvitationNotFound (leaderId inviteeId : ℕ)
  | duplicatePartyInvitation (leaderId inviteeId : ℕ)
  | partyLeadershipTargetNotMember (leaderId newLeaderId : ℕ)
  | invalidPartySnapshot (message : String)
  | playerTownUnassigned (playerId : ℕ)
  | deathLossAlreadyApplied (playerId : ℕ)
  | invalidFixedDeathLossPercent (percent : ℕ)
  | invalidRegenerationInterval
  | invalidPlayerCondition
  | invalidCombatEvent
  | invalidCombatDefense
  | invalidSpellCastEvent
  | combatOutOfRange (attackerId targetId : ℕ)
  | staticCreatureCombatOutOfRange (attackerId targetId : ℕ)
  | targetAlreadyDefeated (playerId : ℕ)
  | combatCooldownActive (attackerId currentTick nextAttackTick : ℕ)
  | spellCooldownActive (casterId currentTick nextCastTick : ℕ)
  | insufficientMana (playerId requiredMana availableMana : ℕ)
deriving DecidableEq, Repr

def maxItemStackCount : ℕ := 100

/-- The largest value of the 16-bit counters. -/
def u16Max : ℕ := 65535

def u8Max : ℕ := 255

/-- A bounded runtime instance of an item type; `contents` are the items inside a bag. -/
@[ext]
structure ItemInstance where
  serverId : ℕ
  count : ℕ
  actionId : Option ℕ
  uniqueId : Option ℕ
  contents : List ItemInstance
deriving Repr, Inhabited

namespace ItemInstance

mutual

/-- Structural equality, nested contents included. -/
def decEq : (a b : ItemInstance) → Decidable (a = b)
  | ⟨s, n, a, u, cs⟩, ⟨s', n', a', u', cs'⟩ =>
    match decEqContents cs cs' with
    | isTrue h =>
      if hrest : s = s' ∧ n = n' ∧ a = a' ∧ u = u' then
        isTrue (by obtain ⟨rfl, rfl, rfl, rfl⟩ := hrest; rw [h])
      else
        isFalse (by rintro ⟨⟩; exact hrest ⟨rfl, rfl, rfl, rfl⟩)
    | isFalse h => isFalse (by rintro ⟨⟩; exact h rfl)

def decEqContents : (a b : List ItemInstance) → Decidable (a = b)
  | [], [] => isTrue rfl
  | [], _ :: _ => isFalse (by rintro ⟨⟩)
  | _ :: _, [] => isFalse (by rintro ⟨⟩)
  | x :: xs, y :: ys =>
    match decEq x y, decEqContents xs ys with
    | isTrue h, isTrue hs => isTrue (by rw [h, hs])
    | isFalse h, _ => isFalse (by rintro ⟨⟩; exact h rfl)
    | _, isFalse hs => isFalse (by rintro ⟨⟩; exact hs rfl)

end

instance : DecidableEq ItemInstance := decEq

/-! ### The operations of the source -/

def maxContentDepth : ℕ := 1

def maxContentSlots : ℕ := 20

/-- A fresh instance, refused for a zero id and for a count outside `1..=100`. -/
def new (serverId count : ℕ) : Except CoreError ItemInstance :=
  if serverId = 0 then .error (.invalidItemId serverId)
  else if ¬(1 ≤ count ∧ count ≤ maxItemStackCount) then .error (.invalidItemStackCount count)
  else .ok ⟨serverId, count, none, none, []⟩

mutual

/-- Height of the content subtree, saturating at the 8-bit bound. -/
def contentDepth : ItemInstance → ℕ
  | ⟨_, _, _, _, contents⟩ => contentDepthOf contents

def contentDepthOf : List ItemInstance → ℕ
  | [] => 0
  | child :: rest => max (min (contentDepth child + 1) 255) (contentDepthOf rest)

end

/-- Append one item to the direct contents. -/
def insertContent (self item : ItemInstance) : Except CoreError ItemInstance :=
  if item.serverId = 0 then .error (.invalidItemId item.serverId)
  else if maxContentSlots ≤ self.contents.length then .error (.containerFull maxContentSlots)
  else if maxContentDepth ≤ item.contentDepth then .error .invalidItemContentDepth
  else .ok { self with contents := self.contents ++ [item] }

/-- Remove one direct content item: the item, and the instance without it. -/
def takeContent (self : ItemInstance) (index : ℕ) : Option (ItemInstance × ItemInstance) :=
  self.contents[index]?.map fun item =>
    (item, { self with contents := self.contents.eraseIdx index })

/-- Same type and same script ids; the nested contents are not compared. -/
def isStackCompatibleWith (self other : ItemInstance) : Bool :=
  self.serverId == other.serverId && self.actionId == other.actionId &&
    self.uniqueId == other.uniqueId

/-- Split `count` units off: what stays in `self`, and the split, which clones the contents. -/
def splitOff (self : ItemInstance) (count : ℕ) : Except CoreError (ItemInstance × ItemInstance) :=
  if count = 0 ∨ self.count < count then .error (.invalidItemTransferCount count self.count)
  else
    let self := { self with count := self.count - count }
    .ok (self, { self with count := count })

/-- Add the units of a compatible stack; the contents of the incoming stack are not looked at. -/
def mergeStack (self incoming : ItemInstance) : Except CoreError ItemInstance :=
  if ¬self.isStackCompatibleWith incoming then .error .incompatibleItemStacks
  else if u16Max < self.count + incoming.count then
    .error (.itemStackCountOverflow self.count incoming.count)
  else if maxItemStackCount < self.count + incoming.count then
    .error (.itemStackCountOverflow self.count incoming.count)
  else .ok { self with count := self.count + incoming.count }

end ItemInstance

/-! ### Units -/

/-- What decides whether two stacks may merge. -/
structure ItemKind where
  serverId : ℕ
  actionId : Option ℕ
  uniqueId : Option ℕ
deriving DecidableEq, Repr

namespace ItemInstance

def kind (x : ItemInstance) : ItemKind := ⟨x.serverId, x.actionId, x.uniqueId⟩

mutual

/-- The single units of an item: one per count, and those of the nested contents. -/
def units : ItemInstance → Multiset ItemKind
  | ⟨serverId, count, actionId, uniqueId, contents⟩ =>
    Multiset.replicate count ⟨serverId, actionId, uniqueId⟩ + unitsOf contents

/-- The units of a list of items. -/
def unitsOf : List ItemInstance → Multiset ItemKind
  | [] => 0
  | x :: xs => units x + unitsOf xs

end

/-- The units nested inside an item. -/
def contentUnits (x : ItemInstance) : Multiset ItemKind := unitsOf x.contents

@[simp] theorem unitsOf_nil : unitsOf [] = 0 := by rw [unitsOf]

@[simp] theorem unitsOf_cons (x : ItemInstance) (xs : List ItemInstance) :
    unitsOf (x :: xs) = x.units + unitsOf xs := by rw [unitsOf]

theorem unitsOf_eq_sum (xs : List ItemInstance) : unitsOf xs = (xs.map units).sum := by
  induction xs with
  | nil => simp
  | cons x xs ih => simp [ih]

theorem units_eq (x : ItemInstance) :
    x.units = Multiset.replicate x.count x.kind + x.contentUnits := by
  cases x
  rw [units]
  rfl

@[simp] theorem unitsOf_append (xs ys : List ItemInstance) :
    unitsOf (xs ++ ys) = unitsOf xs + unitsOf ys := by
  simp [unitsOf_eq_sum]

theorem unitsOf_perm {xs ys : List ItemInstance} (h : xs.Perm ys) : unitsOf xs = unitsOf ys := by
  rw [unitsOf_eq_sum, unitsOf_eq_sum, (h.map units).sum_eq]

/-- Taking the item at an index out of a list takes its units out. -/
theorem unitsOf_eraseIdx {xs : List ItemInstance} {i : ℕ} {x : ItemInstance}
    (h : xs[i]? = some x) : unitsOf xs = x.units + unitsOf (xs.eraseIdx i) := by
  obtain ⟨hi, rfl⟩ := List.getElem?_eq_some_iff.mp h
  rw [← unitsOf_cons, unitsOf_perm (List.getElem_cons_eraseIdx_perm hi)]

theorem unitsOf_insertIdx {xs : List ItemInstance} {i : ℕ} (x : ItemInstance)
    (h : i ≤ xs.length) : unitsOf (xs.insertIdx i x) = x.units + unitsOf xs := by
  rw [← unitsOf_cons, unitsOf_perm (List.perm_insertIdx x xs h)]

/-- Overwriting one item exchanges its units. -/
theorem unitsOf_set {xs : List ItemInstance} {i : ℕ} {x : ItemInstance} (y : ItemInstance)
    (h : xs[i]? = some x) : unitsOf (xs.set i y) + x.units = unitsOf xs + y.units := by
  rw [unitsOf_eq_sum, unitsOf_eq_sum]
  exact Indices.sum_map_set units y h

/-! ### What the operations do -/

@[simp] theorem isStackCompatibleWith_iff (x y : ItemInstance) :
    x.isStackCompatibleWith y = true ↔ x.kind = y.kind := by
  simp [isStackCompatibleWith, kind, and_assoc]

theorem splitOff_eq_ok {x rest split : ItemInstance} {n : ℕ} :
    x.splitOff n = .ok (rest, split) ↔
      0 < n ∧ n ≤ x.count ∧ rest = { x with count := x.count - n } ∧
        split = { x with count := n } := by
  unfold splitOff
  split
  · rename_i hbad
    simp only [reduceCtorEq, false_iff]
    rintro ⟨h0, hle, -⟩
    omega
  · rename_i hgood
    have h0 : 0 < n ∧ n ≤ x.count := by omega
    simp [h0, eq_comm]

theorem mergeStack_eq_ok {x y z : ItemInstance} :
    x.mergeStack y = .ok z ↔
      x.kind = y.kind ∧ x.count + y.count ≤ maxItemStackCount ∧
        z = { x with count := x.count + y.count } := by
  unfold mergeStack
  by_cases hk : x.kind = y.kind
  · simp only [isStackCompatibleWith_iff, hk, not_true, if_false, true_and]
    have hle : maxItemStackCount ≤ u16Max := by decide
    split
    · simp; omega
    · split
      · simp; omega
      · simp [eq_comm]; omega
  · simp [hk]

theorem takeContent_eq_some {x rest item : ItemInstance} {i : ℕ} :
    x.takeContent i = some (item, rest) ↔
      x.contents[i]? = some item ∧ rest = { x with contents := x.contents.eraseIdx i } := by
  simp only [takeContent, Option.map_eq_some_iff, Prod.mk.injEq]
  constructor
  · rintro ⟨_, h, rfl, rfl⟩; exact ⟨h, rfl⟩
  · rintro ⟨h, rfl⟩; exact ⟨item, h, rfl, rfl⟩

/-- **A split clones the contents**: both halves together hold the units of the stack and, once
more, everything nested in it. -/
theorem units_splitOff {x rest split : ItemInstance} {n : ℕ} (h : x.splitOff n = .ok (rest, split)) :
    rest.units + split.units = x.units + x.contentUnits := by
  obtain ⟨-, hle, rfl, rfl⟩ := splitOff_eq_ok.mp h
  have hn : x.count = (x.count - n) + n := by omega
  simp only [units_eq, kind, contentUnits]
  conv_rhs => rw [hn, Multiset.replicate_add]
  abel

/-- **A merge forgets the contents** of the incoming stack. -/
theorem units_mergeStack {x y z : ItemInstance} (h : x.mergeStack y = .ok z) :
    z.units + y.contentUnits = x.units + y.units := by
  obtain ⟨hk, -, rfl⟩ := mergeStack_eq_ok.mp h
  have hz : (⟨x.serverId, x.count + y.count, x.actionId, x.uniqueId, x.contents⟩ :
      ItemInstance).units = Multiset.replicate (x.count + y.count) x.kind + x.contentUnits := by
    rw [units_eq]; rfl
  rw [hz, units_eq x, units_eq y, ← hk, Multiset.replicate_add]
  abel

theorem units_takeContent {x rest item : ItemInstance} {i : ℕ}
    (h : x.takeContent i = some (item, rest)) : x.units = item.units + rest.units := by
  obtain ⟨hi, rfl⟩ := takeContent_eq_some.mp h
  rw [units_eq, units_eq ⟨_, _, _, _, _⟩]
  simp only [contentUnits, kind]
  rw [unitsOf_eraseIdx hi]
  abel

/-- A bag and a sword: splitting the bag stack doubles what is inside. -/
example : (ItemInstance.mk 1987 2 none none [⟨2400, 1, none, none, []⟩]).splitOff 1 =
    .ok (⟨1987, 1, none, none, [⟨2400, 1, none, none, []⟩]⟩,
      ⟨1987, 1, none, none, [⟨2400, 1, none, none, []⟩]⟩) := by decide

end ItemInstance

end ForgottenEngine
