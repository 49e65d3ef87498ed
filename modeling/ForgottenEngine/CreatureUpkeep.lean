import ForgottenEngine.Upkeep

/-!
# What creature operations write

Creatures move, die, lose health, choose targets and strike.  Each of these writes one entry of the
registry, and only a death and a step refresh the index of occupied tiles.  `RobustEdits P` says
that `P` survives these writes; with `Robust P` it then survives every such operation.

* `stays_edits` — **a robust property survives** the creature events of this kind;
* `leaves_install`, `leaves_spawn`, `leaves_despawn`, `leaves_sweep`, `leaves_restore` — the
  events that write the registry as a whole, each by what it leaves;
* `stays_registry` — **a property that does not look at creatures survives** these events too.
-/

namespace ForgottenEngine

open Fallible

/-- Intents are dropped, or lose some of the references they had. -/
def Narrows (before after : BTreeMap ℕ PlayerInteractionIntent) : Prop :=
  ∀ (p : ℕ) intent, after[p]? = some intent → ∃ old, before[p]? = some old ∧
    (∀ q, intent.targetPlayerId = some q → old.targetPlayerId = some q) ∧
    (∀ q, intent.followPlayerId = some q → old.followPlayerId = some q)

/-- A creature with another health, another target or another turn to strike. -/
structure Edited (w : GameWorld) (r r' : StaticCreatureRuntime) : Prop where
  same : r' = { r with
    healthPercent := r'.healthPercent
    nextMeleeDueTick := r'.nextMeleeDueTick
    directMeleeDamageSequence := r'.directMeleeDamageSequence
    targetPlayerId := r'.targetPlayerId }
  health : r'.healthPercent = r.healthPercent ∨ (r.active = true ∧
    (r'.healthPercent ≤ 100 ∨ r'.healthPercent ≤ r.healthPercent))
  target : ∀ q, r'.targetPlayerId = some q →
    r.targetPlayerId = some q ∨ (w.IsRegistered q ∧ ¬w.Dead q)
  melee : r'.nextMeleeDueTick = r.nextMeleeDueTick ∨ (r.active = true ∧
    ∃ cooldown, r.meleeCooldownTicks = some cooldown ∧
      r'.nextMeleeDueTick = saturatingAdd w.tick cooldown)
  sequence : r'.directMeleeDamageSequence = r.directMeleeDamageSequence ∨
    r'.directMeleeDamageSequence = saturatingAdd r.directMeleeDamageSequence 1

/-- A creature made inactive where it stands. -/
def deactivatedRuntime (tick : ℕ) (r : StaticCreatureRuntime) : StaticCreatureRuntime :=
  if r.active then
    { r with
      active := false
      targetPlayerId := none
      inactiveSinceTick := some tick
      reactivationDueTick := if 0 < r.respawnIntervalSeconds then
        some (saturatingAdd tick r.respawnIntervalSeconds) else none }
  else { r with active := false, targetPlayerId := none }

namespace GameWorld

/-- Another registry, and the index that belongs to it. -/
def putRegistry (w : GameWorld) (creatures : BTreeMap ℕ StaticCreatureRuntime) : GameWorld :=
  w.putLiving (w.toLivingWorld.putCreatures creatures).refreshStaticCreatureOccupancy

def putInteractions (w : GameWorld) (intents : BTreeMap ℕ PlayerInteractionIntent) : GameWorld :=
  w.putLiving (w.toLivingWorld.putInteractions intents)

end GameWorld

/-- `P` survives the writes of single creatures. -/
structure RobustEdits (P : GameWorld → Prop) : Prop where
  narrowed : ∀ (w : GameWorld) (intents : BTreeMap ℕ PlayerInteractionIntent),
    Narrows w.playerInteractions intents → P w → P (w.putInteractions intents)
  edited : ∀ (w : GameWorld) (id : ℕ) (r r' : StaticCreatureRuntime),
    w.staticCreatures[id]? = some r → Edited w r r' → P w → P (w.putCreature id r')
  moved : ∀ (w : GameWorld) (id : ℕ) (r : StaticCreatureRuntime) (destination : Position),
    w.staticCreatures[id]? = some r → r.active = true →
    (∀ (p : ℕ) (player : Player), w.players[p]? = some player → player.position ≠ destination) →
    (∀ (j : ℕ) (b : StaticCreatureRuntime), j ≠ id → w.staticCreatures[j]? = some b →
      b.active = true → b.entity.position ≠ destination) → P w →
    P (w.putRegistry (w.staticCreatures.insert id
      { r with entity := { r.entity with position := destination } }))
  deactivated : ∀ (w : GameWorld) (id : ℕ) (r : StaticCreatureRuntime),
    w.staticCreatures[id]? = some r → P w →
    P (w.putRegistry (w.staticCreatures.insert id (deactivatedRuntime w.tick r)))

/-- Intents through a function that takes references away. -/
theorem narrows_filterMap (before : BTreeMap ℕ PlayerInteractionIntent)
    {f : PlayerInteractionIntent → Option PlayerInteractionIntent}
    (hf : ∀ old intent, f old = some intent →
      (∀ q, intent.targetPlayerId = some q → old.targetPlayerId = some q) ∧
      (∀ q, intent.followPlayerId = some q → old.followPlayerId = some q)) :
    Narrows before (before.filterMap fun _ intent => f intent) := by
  intro p intent hintent
  obtain ⟨old, hold, hmap⟩ := OrderedMap.getElem?_filterMap_eq_some.mp hintent
  exact ⟨old, hold, hf old intent hmap⟩

namespace RobustEdits

open Living

variable {P : GameWorld → Prop} (he : RobustEdits P) (h : Robust P) (rest : GameWorld)
include he h

theorem stays_deactivateStaticCreature (id : ℕ) :
    Stays (fun l => P (rest.putLiving l)) (deactivateStaticCreature id) := by
  intro l hl
  simp only [deactivateStaticCreature, Living.markChanged, leaves_readOr_bind, leaves_read_bind,
    leaves_write_bind]
  refine ⟨fun _ => hl, fun r hr => ?_⟩
  have hdown := he.deactivated (rest.putLiving l) id r hr hl
  cases hactive : r.active with
  | true =>
    simp only [deactivatedRuntime, hactive, if_true] at hdown
    refine h.changed _ (he.narrowed _ _ (narrows_filterMap _ fun old intent hmap => ?_) hdown)
    simp only [Option.ite_none_right_eq_some, Option.some.injEq] at hmap
    obtain ⟨-, rfl⟩ := hmap
    split
    · exact ⟨fun _ hq => hq, fun _ hq => hq⟩
    · exact ⟨fun _ hq => hq, fun _ hq => hq⟩
  | false =>
    simp only [deactivatedRuntime, hactive] at hdown
    exact hdown

theorem stays_moveStaticCreatureCardinal (id : ℕ) (direction : CardinalDirection)
    (worldMap : WorldMap) :
    Stays (fun l => P (rest.putLiving l)) (moveStaticCreatureCardinal id direction worldMap) := by
  intro l hl
  simp only [moveStaticCreatureCardinal, Living.markChanged, leaves_ite, leaves_fail,
    leaves_readOr_bind, leaves_ofExcept_bind, leaves_read_bind, leaves_write_bind, leaves_pure]
  refine ⟨fun _ => hl, fun r hr => ⟨fun _ => hl, fun hactive => ⟨fun _ _ => hl, ?_⟩⟩⟩
  refine fun destination _ => ⟨fun _ => hl, fun _ => ⟨fun _ => hl, fun hplayer => ⟨fun _ => hl, ?_⟩⟩⟩
  intro hother
  rw [isPlayerOccupied_iff] at hplayer
  refine h.changed _ (he.moved (rest.putLiving l) id r destination hr (by simpa using hactive)
    ?_ ?_ hl)
  · intro p player hp hpos
    exact hplayer ⟨p, player, hp, hpos⟩
  · intro j b hj hb hactive hpos
    refine hother (List.any_eq_true.mpr ⟨(j, b), ?_, ?_⟩)
    · exact Std.ExtTreeMap.mem_toList_iff_getElem?_eq_some.mpr hb
    · exact decide_eq_true ⟨hj, hactive, hpos⟩

theorem stays_applyStaticCreaturePolicy (policy : StaticCreatureDecisionPolicy)
    (worldMap : WorldMap) :
    Stays (fun l => P (rest.putLiving l)) (applyStaticCreaturePolicy policy worldMap) := by
  refine .bind (ReadOnly.read _).stays fun batch => .bind (.foldlM (fun _ decision => ?_) _ _)
    fun _ => .pure _
  exact .bind (he.stays_moveStaticCreatureCardinal h rest _ _ worldMap) fun _ => .pure ()

omit h in
/-- A creature that loses its target. -/
theorem untargeted {w : GameWorld} {id : ℕ} {r : StaticCreatureRuntime}
    (hr : w.staticCreatures[id]? = some r) (hw : P w) :
    P (w.putCreature id { r with targetPlayerId := none }) :=
  he.edited w id r _ hr ⟨rfl, .inl rfl, (fun _ hq => by cases hq), .inl rfl, .inl rfl⟩ hw

theorem stays_clearStaticCreatureTarget (id : ℕ) :
    Stays (fun l => P (rest.putLiving l)) (clearStaticCreatureTarget id) := by
  intro l hl
  simp only [clearStaticCreatureTarget, putCreatureTarget, Living.markChanged, leaves_readOr_bind]
  refine ⟨fun _ => hl, fun r hr => ?_⟩
  have hcleared := he.untargeted (w := rest.putLiving l) hr hl
  refine .bind (fun e t hrun => ?_) fun _ t hrun => ?_
  · rcases bind_eq_error.mp hrun with hnone | ⟨_, _, _, hwrite⟩
    · rwa [(ReadOnly.readOr _ _).state_eq hnone]
    · cases hwrite
  · simp only [bind_eq_ok, readOr_eq_ok] at hrun
    obtain ⟨r', _, ⟨hr', rfl⟩, hwrite⟩ := hrun
    cases hwrite
    have heq : r' = r := Option.some.inj (hr'.symm.trans hr)
    subst heq
    rw [leaves_ite]
    exact ⟨fun _ => h.changed _ hcleared, fun _ => hcleared⟩

theorem stays_setStaticCreatureHealthPercent (id percent : ℕ) :
    Stays (fun l => P (rest.putLiving l)) (setStaticCreatureHealthPercent id percent) := by
  intro l hl
  simp only [setStaticCreatureHealthPercent, Living.markChanged, leaves_ite, leaves_fail,
    leaves_readOr_bind, leaves_pure, leaves_write_bind]
  refine ⟨fun _ => hl, fun hpercent => ⟨fun _ => hl, fun r hr => ⟨fun _ => hl, fun hactive => ?_⟩⟩⟩
  refine ⟨fun _ => hl, fun _ => h.changed _ (he.edited (rest.putLiving l) id r _ hr ?_ hl)⟩
  exact ⟨rfl, .inr ⟨by simpa using hactive, .inl (Nat.le_of_not_lt hpercent)⟩, fun _ hq => .inl hq,
    .inl rfl, .inl rfl⟩

theorem stays_stepStaticCreatureTowardTarget (id : ℕ) (worldMap : WorldMap) (steps : ℕ) :
    Stays (fun l => P (rest.putLiving l))
      (stepStaticCreatureTowardTargetWithDetour id worldMap steps) := by
  have hdirect (source : Position) (directions : List CardinalDirection) :
      ReadOnly (directDirection id worldMap source directions) := by
    induction directions with
    | nil => exact .pure none
    | cons direction directions ih =>
      refine .bind (.ofExcept _) fun _ => .bind (.read _) fun _ => .bind (.read _) fun _ => ?_
      exact .ite ih (.pure _)
  have hput : Stays (fun l => P (rest.putLiving l)) (putCreatureTarget id none) := by
    intro l hl
    simp only [putCreatureTarget, leaves_readOr_bind, leaves_write]
    exact ⟨fun _ => hl, fun r hr => he.untargeted (w := rest.putLiving l) hr hl⟩
  refine .bind (ReadOnly.readOr _ _).stays fun r => .ite (ReadOnly.fail _).stays (.ite ?_ ?_)
  · exact .bind (he.stays_clearStaticCreatureTarget h rest id) fun _ => .pure _
  · split
    · exact .pure _
    · refine .bind (ReadOnly.read _).stays fun target => ?_
      split
      · exact .bind hput fun _ => .bind (h.stays_markChanged rest) fun _ => .pure _
      · refine .ite (.pure _) (.ite (.pure _) (.bind (hdirect _ _).stays fun direct => ?_))
        refine .bind (ReadOnly.read _).stays fun detour => ?_
        split
        · exact .pure _
        · exact .bind (he.stays_moveStaticCreatureCardinal h rest id _ worldMap) fun _ => .pure _

end RobustEdits

/-! ### Targets and strikes -/

namespace Game

/-- The nearest candidate is a candidate. -/
theorem nearest_mem {candidates : List (ℕ × ℕ)} {q : ℕ} (h : nearest candidates = some q) :
    ∃ distance, (distance, q) ∈ candidates := by
  cases candidates with
  | nil => cases h
  | cons candidate rest =>
    have hfold (others : List (ℕ × ℕ)) (best : ℕ × ℕ) : others.foldl (fun best other =>
        if other.1 < best.1 ∨ other.1 = best.1 ∧ other.2 < best.2 then other else best) best
          ∈ best :: others := by
      induction others generalizing best with
      | nil => simp
      | cons other others ih =>
        rw [List.foldl_cons]
        split
        · exact List.mem_cons_of_mem _ (ih other)
        · rcases List.mem_cons.mp (ih best) with hbest | hothers
          · rw [hbest]
            exact List.mem_cons_self
          · exact List.mem_cons_of_mem _ (List.mem_cons_of_mem _ hothers)
    cases h
    exact ⟨_, hfold rest candidate⟩

/-- A creature turns to registered players only, and not to dead ones. -/
theorem target_known {w : GameWorld} {position : Position} {maxRange q : ℕ}
    (h : nearest (w.players.toList.filterMap (isTargetable w position maxRange)) = some q) :
    w.IsRegistered q ∧ ¬w.Dead q := by
  obtain ⟨distance, hmem⟩ := nearest_mem h
  obtain ⟨⟨p, player⟩, hplayer, htarget⟩ := List.mem_filterMap.mp hmem
  simp only [isTargetable, Option.ite_none_right_eq_some, Option.some.injEq, Prod.mk.injEq] at htarget
  obtain ⟨⟨-, -, -, hliving, -⟩, -, rfl⟩ := htarget
  refine ⟨⟨player, Std.ExtTreeMap.mem_toList_iff_getElem?_eq_some.mp hplayer⟩, ?_⟩
  rintro ⟨state, hstate, hdead⟩
  have hstate' : w.toLivingWorld.playerRespawnStates[p]? = some state := hstate
  simp [Living.isLiving, hstate', hdead] at hliving

end Game

namespace RobustEdits

open Game

variable {P : GameWorld → Prop} (he : RobustEdits P) (h : Robust P)
include he h

theorem stays_selectStaticCreatureTarget (id maxRange : ℕ) :
    Stays P (selectStaticCreatureTarget id maxRange) := by
  intro w hw
  simp only [selectStaticCreatureTarget, leaves_ite, leaves_fail, leaves_readOr_bind,
    leaves_read_bind, leaves_write_bind, leaves_pure]
  refine ⟨fun _ => hw, fun _ => ⟨fun _ => hw, fun r hr => ⟨fun _ => hw, fun hactive => ?_⟩⟩⟩
  refine ⟨fun _ => ?_, fun _ => ?_⟩
  · have hclear : Stays P (living (Living.clearStaticCreatureTarget id)) :=
      Robust.stays_living fun rest => he.stays_clearStaticCreatureTarget h rest id
    exact Stays.bind hclear (fun _ => .pure none) w hw
  · generalize htarget : nearest
      (w.players.toList.filterMap (isTargetable w r.entity.position maxRange)) = target
    have hturned := he.edited w id r { r with targetPlayerId := target } hr
      ⟨rfl, .inl rfl, fun q hq => .inr (target_known (htarget.trans hq)), .inl rfl, .inl rfl⟩ hw
    exact ⟨fun _ => h.changed _ hturned, fun _ => hturned⟩

/-- The creature is there, and still the one that strikes. -/
def Striking (id : ℕ) (r : StaticCreatureRuntime) (w : GameWorld) : Prop :=
  ∃ c, w.staticCreatures[id]? = some c ∧ c.active = r.active ∧
    c.meleeCooldownTicks = r.meleeCooldownTicks

omit he h in
theorem stays_striking {α : Type} {id : ℕ} {r : StaticCreatureRuntime} {m : GameM α}
    (hm : Keeps (fun w : GameWorld => w.staticCreatures) m) : Stays (Striking id r) m := by
  refine hm.stays fun w w' hsame hw => ?_
  have hsame : w'.staticCreatures = w.staticCreatures := hsame
  unfold Striking
  rwa [hsame]

omit he h in
theorem stays_and {α : Type} {Q R : GameWorld → Prop} {m : GameM α} (hQ : Stays Q m)
    (hR : Stays R m) : Stays (fun w => Q w ∧ R w) m := fun w hw => ⟨hQ w hw.1, hR w hw.2⟩

omit he h in
theorem keeps_applyPlayerDeath (p townId : ℕ) (worldMap : WorldMap) :
    Keeps (fun w : GameWorld => w.staticCreatures)
      (living (Living.applyPlayerDeath p townId worldMap)) := by
  refine .zoom_of (g := fun l : LivingWorld => l.staticCreatures) (fun _ => rfl) (fun _ _ => rfl) ?_
  refine .bind (ReadOnly.readOr _ _).keeps fun _ => .bind (ReadOnly.readOr _ _).keeps fun state => ?_
  refine .ite (.pure _) (.bind (ReadOnly.ofOption _ _).keeps fun _ => ?_)
  refine .bind (ReadOnly.readOr _ _).keeps fun _ => .bind (.write fun _ => rfl) fun _ => ?_
  refine .bind (ReadOnly.readOr _ _).keeps fun _ => .bind (.write fun _ => rfl) fun _ => ?_
  refine .bind (ReadOnly.read _).keeps fun _ => .bind (.write fun _ => rfl) fun _ => ?_
  exact .bind (.write fun _ => rfl) fun _ => .bind (.write fun _ => rfl) fun _ => .pure _

omit he h in
theorem striking_putCreature {w : GameWorld} {id : ℕ} {r c : StaticCreatureRuntime}
    (hactive : c.active = r.active) (hcooldown : c.meleeCooldownTicks = r.meleeCooldownTicks) :
    Striking id r (w.putCreature id c) :=
  ⟨c, by simp [GameWorld.putCreature], hactive, hcooldown⟩

omit he h in
theorem stays_striking_clear (id : ℕ) (r : StaticCreatureRuntime) :
    Stays (Striking id r) (living (Living.clearStaticCreatureTarget id)) := by
  apply Robust.stays_living
  intro rest l hl
  obtain ⟨c, hc, hactive, hcooldown⟩ := hl
  have hc : l.staticCreatures[id]? = some c := hc
  have hcleared : Striking id r (rest.putLiving
      (l.putCreatures (l.staticCreatures.insert id { c with targetPlayerId := none }))) :=
    ⟨{ c with targetPlayerId := none }, by simp [GameWorld.putLiving, LivingWorld.putCreatures],
      hactive, hcooldown⟩
  simp only [Living.clearStaticCreatureTarget, Living.putCreatureTarget, Living.markChanged,
    leaves_readOr_bind]
  refine ⟨fun hnone => ?_, fun c' hc' => ?_⟩
  · rw [hc] at hnone
    cases hnone
  · obtain rfl := Option.some.inj (hc.symm.trans hc')
    have hput : (readOr (fun l : LivingWorld => l.staticCreatures[id]?)
        (.unknownStaticCreature id) >>= fun runtime => write fun l : LivingWorld =>
          l.putCreatures (l.staticCreatures.insert id { runtime with targetPlayerId := none })) l =
        ((.ok (), l.putCreatures
          (l.staticCreatures.insert id { c with targetPlayerId := none })) :
          Except CoreError Unit × LivingWorld) := by
      rw [bind_of_ok (readOr_of_some (f := fun l : LivingWorld => l.staticCreatures[id]?) _ hc)]
      rfl
    rw [Leaves, bind_of_ok hput]
    split
    · exact hcleared
    · exact hcleared

theorem stays_strikeTarget (id target : ℕ) (r : StaticCreatureRuntime) (damage : ℕ)
    (worldMap : WorldMap) {w : GameWorld} (hr : w.staticCreatures[id]? = some r)
    (hactive : r.active = true) (hw : P w) :
    Leaves P (strikeTarget id target r damage worldMap) w := by
  -- from the first write on, the creature is there and keeps its activity and its cooldown
  have hboth {α : Type} {m : GameM α} (hP : Stays P m)
      (hkeep : Keeps (fun w : GameWorld => w.staticCreatures) m) :
      Stays (fun w => P w ∧ Striking id r w) m := stays_and hP (stays_striking hkeep)
  have hread {α : Type} {m : GameM α} (hm : ReadOnly m) :
      Stays (fun w => P w ∧ Striking id r w) m := hm.stays
  have htemple (lethal : Bool) : ReadOnly (requireTemple target worldMap lethal) :=
    .ite (.bind (.readOr _ _) fun _ => .bind (.ofOption _ _) fun _ => .pure _) (.pure _)
  have hdie (town : Option ℕ) : Stays (fun w => P w ∧ Striking id r w)
      (dieIn target worldMap town) := by
    cases town with
    | none => exact .pure none
    | some townId =>
      exact .bind (hboth (Robust.stays_living fun rest => h.stays_applyPlayerDeath rest _ _ _)
        (keeps_applyPlayerDeath _ _ _)) fun _ => .pure _
  have hclear : Stays (fun w => P w ∧ Striking id r w)
      (living (Living.clearStaticCreatureTarget id)) :=
    stays_and (Robust.stays_living fun rest => he.stays_clearStaticCreatureTarget h rest id)
      (stays_striking_clear id r)
  have hchanged : Stays (fun w => P w ∧ Striking id r w) Game.markChanged :=
    hboth h.stays_changed fun _ => rfl
  have hcooled (w : GameWorld) (hw : P w ∧ Striking id r w) :
      (fun w => P w ∧ Striking id r w) (cooledDown id r w) := by
    obtain ⟨hP, c, hc, hcactive, hccooldown⟩ := hw
    unfold cooledDown
    rw [hc]
    cases hticks : r.meleeCooldownTicks with
    | none => exact ⟨hP, c, hc, hcactive, hccooldown⟩
    | some ticks =>
      refine ⟨he.edited w id c _ hc ?_ hP, striking_putCreature hcactive hccooldown⟩
      exact ⟨rfl, .inl rfl, fun _ hq => .inl hq,
        .inr ⟨hcactive.trans hactive, ticks, hccooldown.trans hticks, rfl⟩, .inl rfl⟩
  suffices hall : Leaves (fun w => P w ∧ Striking id r w)
      (strikeTarget id target r damage worldMap) w from hall.mono fun _ hboth => hboth.1
  have hstruck : Edited w r (if r.directMeleeDamageRange.isSome then
      { r with directMeleeDamageSequence := saturatingAdd r.directMeleeDamageSequence 1 }
      else r) := by
    split
    · exact ⟨rfl, .inl rfl, fun _ hq => .inl hq, .inl rfl, .inr rfl⟩
    · exact ⟨rfl, .inl rfl, fun _ hq => .inl hq, .inl rfl, .inl rfl⟩
  have hfirst := he.edited w id r _ hr hstruck hw
  show Leaves _ (write _ >>= _) w
  rw [leaves_write_bind]
  refine Stays.bind (hread (.readOr _ _)) (fun vitals => ?_) _
    ⟨hfirst, striking_putCreature (by split <;> rfl) (by split <;> rfl)⟩
  refine .bind (hread (.readOr _ _)) fun defense => .bind (hread (htemple _)) fun townId => ?_
  refine .bind (hboth (h.stays_applyDamageToKnownTarget _ _)
    (Robust.keeps_applyDamageToKnownTarget (fun _ _ _ => rfl) _ _)) fun outcome => ?_
  have hend {x : StaticCreatureTargetAttackOutcome} : Stays (fun w => P w ∧ Striking id r w) (do
      write (cooledDown id r)
      (pure x : GameM _)) := fun w hw => hcooled w hw
  have hmark {x : StaticCreatureTargetAttackOutcome} : Stays (fun w => P w ∧ Striking id r w) (do
      if 0 < outcome.1 then Game.markChanged
      write (cooledDown id r)
      (pure x : GameM _)) := .ite (.bind hchanged fun _ => hend) hend
  exact .bind (hdie _) fun deathState => .ite (.bind hclear fun _ => hmark) hmark

theorem stays_applyStaticCreatureTargetDamage (id damage : ℕ) (worldMap : WorldMap) :
    Stays P (applyStaticCreatureTargetDamage id damage worldMap) := by
  intro w hw
  simp only [applyStaticCreatureTargetDamage, leaves_readOr_bind, leaves_read_bind, leaves_ite,
    leaves_fail, leaves_pure, id_eq]
  have hclear : Stays P (do
      living (Living.clearStaticCreatureTarget id)
      (pure .noTarget : GameM StaticCreatureTargetAttackOutcome)) :=
    .bind (Robust.stays_living fun rest => he.stays_clearStaticCreatureTarget h rest id)
      fun _ => .pure _
  refine ⟨fun _ => hw, fun r hr => ⟨fun _ => hw, fun hactive => ⟨fun _ => hw, fun _ => ?_⟩⟩⟩
  refine ⟨fun _ => hclear w hw, fun _ => ?_⟩
  split
  · exact hw
  · split
    · exact hclear w hw
    · rw [leaves_ite]
      refine ⟨fun _ => hw, fun _ => ?_⟩
      exact he.stays_strikeTarget h id _ r damage worldMap hr (by simpa using hactive) hw

theorem stays_applyStaticCreatureMeleeDamage (attacker id damage : ℕ) :
    Stays P (applyStaticCreatureMeleeDamage attacker id damage) := by
  intro w hw
  simp only [applyStaticCreatureMeleeDamage, Game.requirePlayer, entryOf, leaves_readOr_bind,
    leaves_read_bind, leaves_ite, leaves_fail, leaves_pure, leaves_write_bind]
  refine ⟨fun _ => hw, fun _ => ⟨fun _ => hw, fun player hplayer => ⟨fun _ => hw, fun r hr => ?_⟩⟩⟩
  refine ⟨fun _ => hw, fun hactive => ⟨fun _ => hw, fun _ => ⟨fun _ => hw, fun _ => ?_⟩⟩⟩
  refine ⟨fun _ => hw, fun cooldown hcooldown => ⟨fun _ => hw, fun _ => ⟨fun _ => hw, fun _ => ?_⟩⟩⟩
  have hhurt := he.edited w id r { r with
    healthPercent := r.healthPercent - min r.healthPercent (min damage 100) } hr
    ⟨rfl, .inr ⟨by simpa using hactive, .inr (Nat.sub_le _ _)⟩, fun _ hq => .inl hq, .inl rfl,
      .inl rfl⟩ hw
  have hspent := h.books _ _ (GameWorld.books_putCombatCooldown (w := w.putCreature id _)
    (.inr ⟨player, hplayer⟩) (saturatingAdd w.tick 1)) hhurt
  have hdown : Stays P (living (Living.deactivateStaticCreature id)) :=
    Robust.stays_living fun rest => he.stays_deactivateStaticCreature h rest id
  exact ⟨fun _ => Stays.bind hdown (fun _ => .pure _) _ hspent, fun _ => h.changed _ hspent⟩

end RobustEdits

/-- The event writes single creatures only. -/
def CreatureEvent.EditsOnly : CreatureEvent → Prop
  | install _ | spawn _ _ _ | despawn _ | restore _ | reset | reactivateDue => False
  | _ => True

/-- **A robust property survives** every event that writes single creatures. -/
theorem RobustEdits.stays_edits {P : GameWorld → Prop} (he : RobustEdits P) (h : Robust P)
    (toLowercase : String → String) {event : CreatureEvent} (hevent : event.EditsOnly) :
    Stays P (event.perform toLowercase) := by
  have hvoid {α : Type} {m : GameM α} (hm : Stays P m) : Stays P (void m) :=
    fun w hw => leaves_void.mpr (hm w hw)
  have hliving {α : Type} {m : LivingM α}
      (hm : ∀ rest : GameWorld, Stays (fun l => P (rest.putLiving l)) m) :
      Stays P (void (Game.living m)) := hvoid (Robust.stays_living hm)
  cases event with
  | deactivate id => exact hliving fun rest => he.stays_deactivateStaticCreature h rest id
  | move id d m => exact hliving fun rest => he.stays_moveStaticCreatureCardinal h rest id d m
  | applyPolicy policy m =>
    exact hliving fun rest => he.stays_applyStaticCreaturePolicy h rest policy m
  | stepTowardTarget id m n =>
    exact hliving fun rest => he.stays_stepStaticCreatureTowardTarget h rest id m n
  | setHealthPercent id n =>
    exact hliving fun rest => he.stays_setStaticCreatureHealthPercent h rest id n
  | selectTarget id n => exact hvoid (he.stays_selectStaticCreatureTarget h id n)
  | strike id n m => exact hvoid (he.stays_applyStaticCreatureTargetDamage h id n m)
  | meleeDamage a id n => exact hvoid (he.stays_applyStaticCreatureMeleeDamage h a id n)
  | install _ | spawn _ _ _ | despawn _ | restore _ | reset | reactivateDue => exact hevent.elim

/-! ### Events that write the registry as a whole -/

namespace Living

variable {Q : LivingWorld → Prop} {l : LivingWorld}

theorem leaves_install {collection : FeTfsStaticSpawnCollection} (hl : Q l)
    (hput : ∀ creatures, Installed l collection collection.entities creatures →
      Q (l.putCreatures creatures).refreshStaticCreatureOccupancy.changed) :
    Leaves Q (installStaticCreatures collection) l := by
  simp only [installStaticCreatures, Living.markChanged, leaves_ite, leaves_fail, leaves_read_bind,
    leaves_ofExcept_bind, leaves_write_bind, leaves_write]
  exact ⟨fun _ => hl, fun _ => ⟨fun _ _ => hl, fun creatures h => hput creatures (installed_of_ok h)⟩⟩

/-- The slot of a summon is free and above the base. -/
theorem leaves_spawn {toLowercase : String → String} {name : String} {position : Position}
    {direction : ℕ} (hl : Q l)
    (hput : ∀ (slot id : ℕ) (template : StaticCreatureRuntime) (spawnPosition : Position),
      dynamicIdBase ≤ slot → l.staticCreatures[slot]? = none →
      l.staticCreatures[id]? = some template → l.isPlayerOccupied spawnPosition = false →
      l.hasActiveAt spawnPosition = false →
      Q (l.putCreatures (l.staticCreatures.insert slot
        (summonedRuntime template l.tick slot spawnPosition direction))).refreshStaticCreatureOccupancy.changed) :
    Leaves Q (spawnDynamicEntity toLowercase name position direction) l := by
  simp only [spawnDynamicEntity, Living.markChanged, leaves_ite, leaves_fail, leaves_ofOption_bind,
    leaves_read_bind, leaves_write_bind, leaves_pure]
  refine ⟨fun _ => hl, fun _ => ⟨fun _ => hl, fun _ => ⟨fun _ => hl, fun template htemplate => ?_⟩⟩⟩
  refine ⟨fun _ => hl, fun spawnPosition hfree => ⟨fun _ => hl, fun slot hslot => ?_⟩⟩
  have hfree := List.find?_some hfree
  simp only [decide_eq_true_eq, Bool.or_eq_true, not_or, Bool.not_eq_true] at hfree
  have hnew := List.find?_some hslot
  have hbase := (List.mem_range'_1.mp (List.mem_of_find?_eq_some hslot)).1
  have hmem := Std.ExtTreeMap.mem_toList_iff_getElem?_eq_some.mp (List.mem_of_find?_eq_some htemplate)
  exact hput slot template.1 template.2 spawnPosition hbase (by simpa using hnew) hmem hfree.1 hfree.2

theorem leaves_despawn {id : ℕ} (hl : Q l)
    (hput : dynamicIdBase ≤ id →
      Q (l.putCreatures (l.staticCreatures.erase id)).refreshStaticCreatureOccupancy.changed) :
    Leaves Q (despawnDynamicEntity id) l := by
  simp only [despawnDynamicEntity, Living.markChanged, leaves_ite, leaves_fail, leaves_readOr_bind,
    leaves_write_bind, leaves_write]
  exact ⟨fun _ => hl, fun h => ⟨fun _ => hl, fun _ _ => hput (Nat.le_of_not_lt h)⟩⟩

theorem leaves_sweep {rules : LivingWorld → ReactivationRules}
    (hchanged : ∀ l : LivingWorld, Q l → Q l.changed)
    (hput : Q (l.putCreatures (sweepCreatures (rules l) l).creatures).refreshStaticCreatureOccupancy) :
    Leaves Q (reactivateCreatures rules) l := by
  simp only [reactivateCreatures, Living.markChanged, leaves_read_bind, leaves_write_bind,
    leaves_ite, leaves_pure]
  exact ⟨fun _ => hchanged _ hput, fun _ => hput⟩

/-- What a sweep did to one creature. -/
inductive Swept (rules : ReactivationRules) (l : LivingWorld) (r : StaticCreatureRuntime) :
    StaticCreatureRuntime → Prop
  | kept : Swept rules l r r
  | deferred : r.active = false → rules.due r = true →
      Swept rules l r { r with reactivationDueTick := rules.rearmed r }
  | revived : r.active = false → rules.due r = true → rules.playerBlocks r = false →
      r.spawnPosition ∉ l.staticOccupiedPositions →
      Swept rules l r (reactivatedRuntime l.tick r)

/-- What a sweep has done after some of the creatures. -/
structure SweptAll (rules : ReactivationRules) (l : LivingWorld) (sweep : ReactivationSweep) :
    Prop where
  listed : ∀ position, position ∈ l.staticOccupiedPositions → position ∈ sweep.activePositions
  some_of_some : ∀ (id : ℕ) (r : StaticCreatureRuntime), l.staticCreatures[id]? = some r →
    ∃ r', sweep.creatures[id]? = some r' ∧ Swept rules l r r'
  none_of_none : ∀ id : ℕ, l.staticCreatures[id]? = none → sweep.creatures[id]? = none

/-- The turn of one creature. -/
theorem SweptAll.insert {rules : ReactivationRules} {sweep : ReactivationSweep}
    (h : SweptAll rules l sweep) {id : ℕ} {r r' : StaticCreatureRuntime}
    (hr : l.staticCreatures[id]? = some r) (hswept : Swept rules l r r')
    {positions : Finset Position} (hpositions : sweep.activePositions ⊆ positions)
    (summary : StaticCreatureResetSummary) :
    SweptAll rules l ⟨sweep.creatures.insert id r', positions, summary⟩ where
  listed := fun position hp => hpositions (h.listed position hp)
  some_of_some := by
    intro j b hb
    simp only [Std.ExtTreeMap.getElem?_insert, Std.LawfulEqCmp.compare_eq_iff_eq]
    by_cases hj : id = j
    · subst hj
      obtain rfl := Option.some.inj (hr.symm.trans hb)
      exact ⟨r', by simp, hswept⟩
    · simpa [hj] using h.some_of_some j b hb
  none_of_none := by
    intro j hj
    have hne : ¬id = j := by
      intro heq
      rw [heq, hj] at hr
      cases hr
    simpa [Std.ExtTreeMap.getElem?_insert, hne] using h.none_of_none j hj

/-- **A sweep goes through the creatures one by one**, and adds or removes none. -/
theorem sweptAll (rules : ReactivationRules) (l : LivingWorld) :
    SweptAll rules l (sweepCreatures rules l) := by
  refine PartialFold.foldl_prefix
    (I := fun pre sweep => (∀ e ∈ pre, l.staticCreatures[e.1]? = some e.2) → SweptAll rules l sweep)
    (fun pre sweep entry hpre hknown => ?_) _
    (fun _ => ⟨fun _ hp => hp, fun id r hr => ⟨r, hr, .kept⟩, fun _ hnone => hnone⟩)
    fun e he => Std.ExtTreeMap.mem_toList_iff_getElem?_eq_some.mp he
  have hsweep := hpre fun e he => hknown e (List.mem_append_left _ he)
  obtain ⟨id, r⟩ := entry
  have hr : l.staticCreatures[id]? = some r := hknown (id, r) (by simp)
  unfold sweepRound
  simp only
  split
  · exact hsweep
  · rename_i hskip
    simp only [not_or, Bool.not_eq_true, Bool.not_eq_false] at hskip
    obtain ⟨hinactive, hdue⟩ := hskip
    split
    · exact hsweep.insert hr (.deferred hinactive hdue) (Finset.Subset.refl _) _
    · rename_i hplayer
      split
      · exact hsweep.insert hr (.deferred hinactive hdue) (Finset.Subset.refl _) _
      · rename_i hfree
        refine hsweep.insert hr (.revived hinactive hdue (by simpa using hplayer) ?_)
          (Finset.subset_insert _ _) _
        exact fun hp => hfree (hsweep.listed _ hp)

theorem swept_of_getElem? {rules : ReactivationRules} {id : ℕ} {r' : StaticCreatureRuntime}
    (h : (sweepCreatures rules l).creatures[id]? = some r') :
    ∃ r, l.staticCreatures[id]? = some r ∧ Swept rules l r r' := by
  cases hr : l.staticCreatures[id]? with
  | none =>
    rw [(sweptAll rules l).none_of_none id hr] at h
    cases h
  | some r =>
    obtain ⟨r'', hr'', hswept⟩ := (sweptAll rules l).some_of_some id r hr
    obtain rfl := Option.some.inj (hr''.symm.trans h)
    exact ⟨r, rfl, hswept⟩

/-! ### Restoring a snapshot -/

/-- What the writing loop has done after records of different creatures. -/
structure RestoredAll (tick : ℕ) (creatures : BTreeMap ℕ StaticCreatureRuntime)
    (known : List StaticCreatureRuntimeSnapshot) (after : BTreeMap ℕ StaticCreatureRuntime) :
    Prop where
  untouched : ∀ id : ℕ, id ∉ known.map (·.id) → after[id]? = creatures[id]?
  written : ∀ record ∈ known, after[record.id]? =
    creatures[record.id]?.map (restoredRuntime tick record)

theorem restoredAll (tick : ℕ) (creatures : BTreeMap ℕ StaticCreatureRuntime)
    {known : List StaticCreatureRuntimeSnapshot} (hnodup : (known.map (·.id)).Nodup) :
    RestoredAll tick creatures known (known.foldl (restoreRecord tick) (false, creatures)).2 := by
  refine PartialFold.foldl_prefix
    (I := fun pre (state : Bool × BTreeMap ℕ StaticCreatureRuntime) =>
      (pre.map (·.id)).Nodup → RestoredAll tick creatures pre state.2)
    (fun pre state record hpre hnodup => ?_) known (fun _ => ⟨fun _ _ => rfl, by simp⟩) hnodup
  rw [List.map_append] at hnodup
  have hnew : record.id ∉ pre.map (·.id) := by
    intro hmem
    exact (List.nodup_append.mp hnodup).2.2 record.id hmem record.id (by simp) rfl
  have hdone := hpre hnodup.of_append_left
  have hold := hdone.untouched record.id hnew
  have hlookup (id : ℕ) : (restoreRecord tick state record).2[id]? = if record.id = id then
      creatures[record.id]?.map (restoredRuntime tick record) else state.2[id]? := by
    cases hr : creatures[record.id]? with
    | none =>
      simp only [restoreRecord, hold, hr]
      split
      · rename_i heq
        rw [← heq, hold, hr]
        rfl
      · rfl
    | some r =>
      simp only [restoreRecord, hold, hr]
      simp [Std.ExtTreeMap.getElem?_insert]
  refine ⟨fun id hid => ?_, fun other hother => ?_⟩
  · have hne : ¬record.id = id := fun heq => hid (by simp [heq])
    rw [hlookup, if_neg hne]
    exact hdone.untouched id fun hmem => hid (by simp [hmem])
  · rcases List.mem_append.mp hother with hother | hother
    · have hne : ¬record.id = other.id := fun heq => hnew (heq ▸ List.mem_map_of_mem hother)
      rw [hlookup, if_neg hne]
      exact hdone.written other hother
    · rw [List.mem_singleton.mp hother, hlookup, if_pos rfl]

/-- A record that was not refused fits the creature it names. -/
structure Fits (l : LivingWorld) (record : StaticCreatureRuntimeSnapshot)
    (r : StaticCreatureRuntime) : Prop where
  lookup : l.staticCreatures[record.id]? = some r
  placed : record.position ≠ unplacedOrigin
  health : record.healthPercent ≤ 100
  timing : timingRefusal record r = none

theorem fits_of_planned {records : List StaticCreatureRuntimeSnapshot} {plan : RestorePlan}
    (h : records.foldlM (planRecord l) {} = .ok plan) :
    ∀ record ∈ plan.known, record ∈ records ∧ ∃ r, Fits l record r := by
  refine PartialFold.foldlM_ok_prefix
    (I := fun pre plan => ∀ record ∈ plan.known, record ∈ pre ∧ ∃ r, Fits l record r)
    (fun pre plan record plan' hpre hstep => ?_) (by simp) h
  have hkeep : ∀ other ∈ plan.known, other ∈ pre ++ [record] ∧ ∃ r, Fits l other r :=
    fun other hother => ⟨List.mem_append_left _ (hpre other hother).1, (hpre other hother).2⟩
  simp only [planRecord] at hstep
  split at hstep
  · cases hstep
  · split at hstep
    · cases hstep
      exact hkeep
    · rename_i hplaced
      split at hstep
      · cases hstep
      · rename_i hhealth
        cases hr : l.staticCreatures[record.id]? with
        | none =>
          rw [hr] at hstep
          cases hstep
          exact hkeep
        | some r =>
          rw [hr] at hstep
          simp only at hstep
          split at hstep
          · cases hstep
          · rename_i htiming
            cases hstep
            intro other hother
            rcases List.mem_append.mp hother with hother | hother
            · exact hkeep other hother
            · rw [List.mem_singleton.mp hother]
              exact ⟨by simp, r, hr, hplaced, Nat.le_of_not_lt hhealth, htiming⟩

/-- What a restore has done to the registry: records of different creatures, each of which fits. -/
structure RestoredFrom (l : LivingWorld) (records : List StaticCreatureRuntimeSnapshot)
    (after : BTreeMap ℕ StaticCreatureRuntime) : Prop where
  lookup : ∀ (id : ℕ) (r' : StaticCreatureRuntime), after[id]? = some r' →
    l.staticCreatures[id]? = some r' ∨ ∃ record ∈ records, ∃ r, record.id = id ∧ Fits l record r ∧
      r' = restoredRuntime l.tick record r
  present : ∀ (id : ℕ) (r : StaticCreatureRuntime), l.staticCreatures[id]? = some r →
    ∃ r', after[id]? = some r'

theorem restoredFrom {records : List StaticCreatureRuntimeSnapshot} {plan : RestorePlan}
    (h : records.foldlM (planRecord l) {} = .ok plan) :
    RestoredFrom l records (plan.known.foldl (restoreRecord l.tick) (false, l.staticCreatures)).2 := by
  have hall := restoredAll l.tick l.staticCreatures (nodup_of_planned h)
  refine ⟨fun id r' hr' => ?_, fun id r hr => ?_⟩
  · by_cases hmem : id ∈ plan.known.map (·.id)
    · obtain ⟨record, hrecord, rfl⟩ := List.mem_map.mp hmem
      obtain ⟨hin, r, hfits⟩ := fits_of_planned h record hrecord
      rw [hall.written record hrecord, hfits.lookup] at hr'
      exact .inr ⟨record, hin, r, rfl, hfits, (Option.some.inj hr').symm⟩
    · rw [hall.untouched id hmem] at hr'
      exact .inl hr'
  · by_cases hmem : id ∈ plan.known.map (·.id)
    · obtain ⟨record, hrecord, rfl⟩ := List.mem_map.mp hmem
      exact ⟨_, (hall.written record hrecord).trans (congrArg _ hr)⟩
    · exact ⟨r, (hall.untouched id hmem).trans hr⟩

/-- A restore that changes no stance may leave the index as it is. -/
theorem leaves_restore {records : List StaticCreatureRuntimeSnapshot} (hl : Q l)
    (hput : ∀ (creatures : BTreeMap ℕ StaticCreatureRuntime)
      (intents : BTreeMap ℕ PlayerInteractionIntent), RestoredFrom l records creatures →
      Narrows l.playerInteractions intents →
      Q ((l.putCreatures creatures).refreshStaticCreatureOccupancy.putInteractions intents).changed)
    (hsame : ∀ creatures, RestoredFrom l records creatures →
      SameStances l.staticCreatures creatures → Q (l.putCreatures creatures)) :
    Leaves Q (restoreStaticCreatureRuntime records) l := by
  simp only [restoreStaticCreatureRuntime, Living.markChanged, leaves_read_bind,
    leaves_ofExcept_bind, leaves_write_bind, leaves_ite, leaves_pure]
  refine ⟨fun _ _ => hl, fun plan hplan => ⟨fun _ _ => hl, fun _ _ => ⟨fun _ => ?_, fun hsame' => ?_⟩⟩⟩
  · refine hput _ _ (restoredFrom hplan) fun p intent hintent => ?_
    exact ⟨intent, (OrderedMap.getElem?_filter_eq_some.mp hintent).1, fun _ hq => hq, fun _ hq => hq⟩
  · refine hsame _ (restoredFrom hplan) ((restored_foldl _ _ _).unchanged ?_)
    simpa using hsame'

end Living

/-- When a reset revives, and what it does to the rest. -/
def Living.resetRules (l : LivingWorld) : ReactivationRules where
  due := fun _ => true
  playerBlocks := fun runtime => l.isPlayerOccupied runtime.spawnPosition
  rearmed := StaticCreatureRuntime.reactivationDueTick

/-- When the schedule revives, and what it does to the rest. -/
def Living.dueRules (l : LivingWorld) : ReactivationRules where
  due := fun runtime => runtime.reactivationDueTick.any fun due => due ≤ l.tick
  playerBlocks := fun runtime => l.isPlayerOccupied runtime.spawnPosition ||
    runtime.monsterSpawnArea.any fun area =>
      l.players.toList.any fun e => area.contains e.2.position
  rearmed := fun runtime => some (saturatingAdd l.tick runtime.respawnIntervalSeconds)

/-- What an accepted event writes that writes the registry as a whole, but for the revision. -/
inductive CreatureEvent.Rewrites (w : GameWorld) : CreatureEvent → GameWorld → Prop
  | installed {collection creatures} :
      Living.Installed w.toLivingWorld collection collection.entities creatures →
      Rewrites w (.install collection) (w.putRegistry creatures)
  | spawned {name position direction spawnPosition} {slot id : ℕ} {template : StaticCreatureRuntime} :
      dynamicIdBase ≤ slot →
      w.staticCreatures[slot]? = none → w.staticCreatures[id]? = some template →
      w.toLivingWorld.isPlayerOccupied spawnPosition = false →
      w.toLivingWorld.hasActiveAt spawnPosition = false →
      Rewrites w (.spawn name position direction) (w.putRegistry (w.staticCreatures.insert slot
        (Living.summonedRuntime template w.tick slot spawnPosition direction)))
  | despawned {id} : dynamicIdBase ≤ id →
      Rewrites w (.despawn id) (w.putRegistry (w.staticCreatures.erase id))
  | restored {records creatures intents} : Living.RestoredFrom w.toLivingWorld records creatures →
      Narrows w.playerInteractions intents →
      Rewrites w (.restore records) ((w.putRegistry creatures).putInteractions intents)
  | undisturbed {records creatures} : Living.RestoredFrom w.toLivingWorld records creatures →
      SameStances w.staticCreatures creatures →
      Rewrites w (.restore records) { w with staticCreatures := creatures }
  | reset : Rewrites w .reset (w.putRegistry
      (Living.sweepCreatures (Living.resetRules w.toLivingWorld) w.toLivingWorld).creatures)
  | reactivated : Rewrites w .reactivateDue (w.putRegistry
      (Living.sweepCreatures (Living.dueRules w.toLivingWorld) w.toLivingWorld).creatures)

/-- **An event that writes the registry as a whole leaves what its writes leave.** -/
theorem leaves_registry {P : GameWorld → Prop} {w : GameWorld} (toLowercase : String → String)
    {event : CreatureEvent} (hevent : ¬event.EditsOnly)
    (hchanged : ∀ w, P w → P (w.putLiving w.toLivingWorld.changed)) (hw : P w)
    (hwrites : ∀ w', event.Rewrites w w' → P w') : Leaves P (event.perform toLowercase) w := by
  cases event with
  | install collection =>
    exact Living.leaves_install (Q := fun l => P (w.putLiving l)) hw fun creatures hinstalled =>
      hchanged (w.putRegistry creatures) (hwrites _ (.installed hinstalled))
  | spawn name position direction =>
    refine leaves_void.mpr (Living.leaves_spawn (Q := fun l => P (w.putLiving l)) hw ?_)
    intro slot id template spawnPosition hbase hnew htemplate hplayer hactive
    exact hchanged (w.putRegistry _) (hwrites _ (.spawned hbase hnew htemplate hplayer hactive))
  | despawn id =>
    exact Living.leaves_despawn (Q := fun l => P (w.putLiving l)) hw fun hbase =>
      hchanged (w.putRegistry _) (hwrites _ (.despawned hbase))
  | restore records =>
    refine leaves_void.mpr (Living.leaves_restore (Q := fun l => P (w.putLiving l)) hw ?_ ?_)
    · intro creatures intents hrestored hnarrows
      exact hchanged ((w.putRegistry creatures).putInteractions intents)
        (hwrites _ (.restored hrestored hnarrows))
    · intro creatures hrestored hsame
      exact hwrites _ (.undisturbed hrestored hsame)
  | reset =>
    exact leaves_void.mpr (Living.leaves_sweep (Q := fun l => P (w.putLiving l))
      (fun l hl => hchanged (w.putLiving l) hl) (hwrites _ .reset))
  | reactivateDue =>
    exact leaves_void.mpr (Living.leaves_sweep (Q := fun l => P (w.putLiving l))
      (fun l hl => hchanged (w.putLiving l) hl) (hwrites _ .reactivated))
  | deactivate _ | move _ _ _ | applyPolicy _ _ | stepTowardTarget _ _ _ | setHealthPercent _ _
  | selectTarget _ _ | strike _ _ _ | meleeDamage _ _ _ => exact absurd trivial hevent

/-! ### Properties that do not look at creatures -/

/-- No creature has a target that it did not have before. -/
def KeepsTargets (before after : BTreeMap ℕ StaticCreatureRuntime) : Prop :=
  ∀ (id : ℕ) r', after[id]? = some r' → r'.targetPlayerId = none ∨
    ∃ r, before[id]? = some r ∧ r'.targetPlayerId = r.targetPlayerId

/-- `P` survives any write of the registry that gives nobody a new target. -/
structure RobustRegistry (P : GameWorld → Prop) : Prop where
  rewritten : ∀ (w : GameWorld) (creatures : BTreeMap ℕ StaticCreatureRuntime)
    (index : Finset Position) (intents : BTreeMap ℕ PlayerInteractionIntent),
    KeepsTargets w.staticCreatures creatures → Narrows w.playerInteractions intents → P w →
    P { w with
      staticCreatures := creatures
      staticOccupiedPositions := index
      playerInteractions := intents }

theorem narrows_refl (intents : BTreeMap ℕ PlayerInteractionIntent) : Narrows intents intents :=
  fun _ intent hintent => ⟨intent, hintent, fun _ hq => hq, fun _ hq => hq⟩

theorem Living.RestoredFrom.keepsTargets {l : LivingWorld}
    {records : List StaticCreatureRuntimeSnapshot} {after : BTreeMap ℕ StaticCreatureRuntime}
    (h : Living.RestoredFrom l records after) : KeepsTargets l.staticCreatures after := by
  intro id r' hr'
  rcases h.lookup id r' hr' with hsame | ⟨record, -, r, -, -, rfl⟩
  · exact .inr ⟨r', hsame, rfl⟩
  · exact .inl rfl

theorem Living.keepsTargets_sweep (rules : ReactivationRules) (l : LivingWorld) :
    KeepsTargets l.staticCreatures (sweepCreatures rules l).creatures := by
  intro id r' hr'
  obtain ⟨r, hr, hswept⟩ := swept_of_getElem? hr'
  refine .inr ⟨r, hr, ?_⟩
  cases hswept with
  | kept => rfl
  | deferred => rfl
  | revived => rfl

/-- **A property that does not look at creatures survives** the events that write the registry as
a whole. -/
theorem RobustRegistry.stays_registry {P : GameWorld → Prop} (hr : RobustRegistry P)
    (h : Robust P) (toLowercase : String → String) {event : CreatureEvent}
    (hevent : ¬event.EditsOnly) : Stays P (event.perform toLowercase) := by
  intro w hw
  have hput {creatures : BTreeMap ℕ StaticCreatureRuntime}
      (htargets : KeepsTargets w.staticCreatures creatures) : P (w.putRegistry creatures) :=
    hr.rewritten w creatures _ w.playerInteractions htargets (narrows_refl _) hw
  refine leaves_registry toLowercase hevent h.changed hw fun w' hwrites => ?_
  cases hwrites with
  | installed hinstalled =>
    refine hput fun id r' hr' => .inl ?_
    obtain ⟨entity, -, -, rfl⟩ := (hinstalled.lookup id r').mp hr'
    rfl
  | spawned =>
    refine hput fun j r' hr' => ?_
    rw [Std.ExtTreeMap.getElem?_insert] at hr'
    split at hr'
    · cases hr'
      exact .inl rfl
    · exact .inr ⟨r', hr', rfl⟩
  | despawned =>
    refine hput fun j r' hr' => ?_
    rw [Std.ExtTreeMap.getElem?_erase] at hr'
    split at hr'
    · cases hr'
    · exact .inr ⟨r', hr', rfl⟩
  | @restored records creatures intents hrestored hnarrows =>
    exact hr.rewritten w creatures _ intents hrestored.keepsTargets hnarrows hw
  | undisturbed hrestored =>
    exact hr.rewritten w _ _ _ hrestored.keepsTargets (narrows_refl _) hw
  | reset => exact hput (Living.keepsTargets_sweep _ _)
  | reactivated => exact hput (Living.keepsTargets_sweep _ _)

end ForgottenEngine
