import ForgottenEngine.DeadPlayers

/-!
# What a level brings to stay

An award raises the maximum health, the maximum mana and the capacity by the gains of the levels it
makes.  A death loss takes levels away and leaves the maxima as they are.

* `raise_raise` — the gains of two stretches of levels are the gains of both together;
* `limitsFollowLevel` — **the maxima follow from the initial values and the level** in every run in
  which no level is lost above the initial level and none is gained below it.
-/

namespace ForgottenEngine

open Fallible Game

/-- The values of a player that only levels raise. -/
@[ext]
structure VitalLimits where
  maxHealth : ℕ
  maxMana : ℕ
  capacity : ℕ
deriving DecidableEq, Repr

def PlayerVitals.limits (self : PlayerVitals) : VitalLimits :=
  ⟨self.maxHealth, self.maxMana, self.capacity⟩

namespace VocationLevelUpGains

variable (gains : VocationLevelUpGains)

/-- The maxima with the gains of so many levels. -/
def raise (limits : VitalLimits) (levels : ℕ) : VitalLimits where
  maxHealth := min (limits.maxHealth + scaledAmount gains.health levels) u16Max
  maxMana := min (limits.maxMana + scaledAmount gains.mana levels) u16Max
  capacity := min (limits.capacity + scaledAmount gains.capacity levels) u16Max

/-- The maxima at a level, of a player who had `limits` at `initialLevel`. -/
def limitsAt (limits : VitalLimits) (initialLevel level : ℕ) : VitalLimits :=
  if initialLevel < level then gains.raise limits (level - initialLevel) else limits

theorem limits_apply (vitals : PlayerVitals) (levels : ℕ) :
    (gains.apply vitals levels).limits = gains.raise vitals.limits levels := rfl

/-- Saturation does not tell two stretches from one. -/
theorem saturating_twice (value amount m n : ℕ) :
    min (min (value + scaledAmount amount m) u16Max + scaledAmount amount n) u16Max =
      min (value + scaledAmount amount (m + n)) u16Max := by
  unfold scaledAmount
  rw [Nat.mul_add]
  omega

theorem raise_raise (limits : VitalLimits) (m n : ℕ) :
    gains.raise (gains.raise limits m) n = gains.raise limits (m + n) := by
  unfold raise
  ext
  · exact saturating_twice _ _ m n
  · exact saturating_twice _ _ m n
  · exact saturating_twice _ _ m n

end VocationLevelUpGains

/-- A level is gained at or above the initial level, and lost at or below it. -/
def Unbroken (initialLevel level level' : ℕ) : Prop :=
  (level < level' → initialLevel ≤ level) ∧ (level' < level → level ≤ initialLevel)

/-- **One change of the level.** -/
theorem VocationLevelUpGains.limitsAt_next (gains : VocationLevelUpGains) (limits : VitalLimits)
    {initialLevel level level' : ℕ} (h : Unbroken initialLevel level level') :
    gains.limitsAt limits initialLevel level' =
      if level < level' then gains.raise (gains.limitsAt limits initialLevel level) (level' - level)
      else gains.limitsAt limits initialLevel level := by
  obtain ⟨hgained, hlost⟩ := h
  unfold limitsAt
  by_cases hup : level < level'
  · have hinitial := hgained hup
    rw [if_pos hup, if_pos (by omega)]
    by_cases habove : initialLevel < level
    · rw [if_pos habove, gains.raise_raise]
      congr 1
      omega
    · rw [if_neg habove]
      congr 1
      omega
  · rw [if_neg hup]
    by_cases hdown : level' < level
    · have hinitial := hlost hdown
      rw [if_neg (by omega), if_neg (by omega)]
    · have heq : level' = level := by omega
      rw [heq]

/-- A player after a death loss of so many percent. -/
def lossyPlayer (player : Player) (percent : ℕ) : Player :=
  let experience := player.experience - fixedPercentOf player.experience percent
  { player with experience, level := levelForExperience experience }

namespace GameWorld

/-- The world accepts a death loss of the player. -/
def LossDue (w : GameWorld) (p percent : ℕ) : Prop :=
  1 ≤ percent ∧ percent ≤ 100 ∧ ∃ state, w.playerRespawnStates[p]? = some state ∧
    state.dead = true ∧ state.lossApplied = false

/-- The level of a player and what levels raised. -/
def standing (w : GameWorld) (p : ℕ) : Option (ℕ × VitalLimits) :=
  w.players[p]?.bind fun player => w.playerVitals[p]?.map fun vitals => (player.level, vitals.limits)

end GameWorld

/-- Awards bring the gains of the vocation, and awards and losses do not break the path of the
level; whatever is neither of them, nor a respawn, leaves level and maxima alone. -/
def GameEvent.SteadyLevels (toLowercase : String → String) (gains : VocationLevelUpGains)
    (p initialLevel : ℕ) (w : GameWorld) : GameEvent → Prop
  | .overwrite (.awardExperience q raw policy gains') => q = p → gains' = gains ∧
      ∀ player, w.players[p]? = some player →
        Unbroken initialLevel player.level (advancedPlayer player policy raw).level
  | .upkeep (.deathLoss q percent _) => q = p → w.LossDue p percent →
      ∀ player, w.players[p]? = some player → (lossyPlayer player percent).level ≤ player.level ∧
        Unbroken initialLevel player.level (lossyPlayer player percent).level
  | .player (.respawn _) => True
  | event => (event.step toLowercase w).standing p = w.standing p

/-- The maxima of the player are those of the level. -/
def LimitsFollow (gains : VocationLevelUpGains) (p initialLevel : ℕ) (limits : VitalLimits)
    (w : GameWorld) : Prop :=
  ∃ level, w.standing p = some (level, gains.limitsAt limits initialLevel level)

namespace LimitsFollow

variable {gains : VocationLevelUpGains} {p initialLevel : ℕ} {limits : VitalLimits} {w : GameWorld}

theorem of_standing (hw : LimitsFollow gains p initialLevel limits w) {w' : GameWorld}
    (hsame : w'.standing p = w.standing p) : LimitsFollow gains p initialLevel limits w' := by
  unfold LimitsFollow
  rwa [hsame]

/-- The player and his vitals behind a standing. -/
theorem entries (hw : LimitsFollow gains p initialLevel limits w) :
    ∃ player vitals, w.players[p]? = some player ∧ w.playerVitals[p]? = some vitals ∧
      vitals.limits = gains.limitsAt limits initialLevel player.level := by
  obtain ⟨level, hstanding⟩ := hw
  simp only [GameWorld.standing, Option.bind_eq_some_iff, Option.map_eq_some_iff,
    Prod.mk.injEq] at hstanding
  obtain ⟨player, hplayer, vitals, hvitals, rfl, hlimits⟩ := hstanding
  exact ⟨player, vitals, hplayer, hvitals, hlimits⟩

/-- A player and vitals that belong together. -/
theorem of_entries {player : Player} {vitals : PlayerVitals} (hplayer : w.players[p]? = some player)
    (hvitals : w.playerVitals[p]? = some vitals)
    (hlimits : vitals.limits = gains.limitsAt limits initialLevel player.level) :
    LimitsFollow gains p initialLevel limits w :=
  ⟨player.level, by simp [GameWorld.standing, hplayer, hvitals, hlimits]⟩

/-- What is written for another player. -/
theorem standing_of_ne {w w' : GameWorld} {q : ℕ} (hne : ¬q = p)
    (hplayers : ∀ k : ℕ, ¬q = k → w'.players[k]? = w.players[k]?)
    (hvitals : ∀ k : ℕ, ¬q = k → w'.playerVitals[k]? = w.playerVitals[k]?) :
    w'.standing p = w.standing p := by
  unfold GameWorld.standing
  rw [hplayers p hne, hvitals p hne]

theorem award (hw : LimitsFollow gains p initialLevel limits w) {q raw : ℕ}
    {policy : ExperienceAwardPolicy} {gains' : VocationLevelUpGains}
    (hok : q = p → gains' = gains ∧ ∀ player, w.players[p]? = some player →
      Unbroken initialLevel player.level (advancedPlayer player policy raw).level) :
    Leaves (LimitsFollow gains p initialLevel limits)
      (awardPlayerExperienceWithVocationGains q raw policy gains') w := by
  simp only [awardPlayerExperienceWithVocationGains, Game.playerVitals, Game.requirePlayer,
    Game.markChanged, leaves_readOr_bind, leaves_write_bind, leaves_ite, leaves_pure]
  refine ⟨fun _ => hw, fun vitals hvitals => ⟨fun _ => hw, fun player hplayer => ?_⟩⟩
  have hentries (k : ℕ) (hne : ¬q = k) (x : Player) (v : PlayerVitals) :
      (w.players.insert q x)[k]? = w.players[k]? ∧
        (w.playerVitals.insert q v)[k]? = w.playerVitals[k]? := by
    simp [Std.ExtTreeMap.getElem?_insert, hne]
  have hgained (hlevel : player.level < (advancedPlayer player policy raw).level) :
      LimitsFollow gains p initialLevel limits
        ((w.putPlayer q (advancedPlayer player policy raw)).putVitals q (gains'.apply vitals
          ((advancedPlayer player policy raw).level - player.level))) := by
    by_cases hq : q = p
    · subst hq
      obtain ⟨rfl, hpath⟩ := hok rfl
      obtain ⟨found, vitals', hfound, hvitals', hlimits⟩ := hw.entries
      obtain rfl := Option.some.inj (hplayer.symm.trans hfound)
      obtain rfl := Option.some.inj (hvitals.symm.trans hvitals')
      refine of_entries Std.ExtTreeMap.getElem?_insert_self Std.ExtTreeMap.getElem?_insert_self ?_
      rw [gains'.limits_apply, hlimits, gains'.limitsAt_next limits (hpath player hplayer),
        if_pos hlevel]
    · exact hw.of_standing (standing_of_ne hq (fun k hk => (hentries k hk _ vitals).1)
        fun k hk => (hentries k hk player _).2)
  have hkept (hlevel : ¬player.level < (advancedPlayer player policy raw).level) :
      LimitsFollow gains p initialLevel limits
        (w.putPlayer q (advancedPlayer player policy raw)) := by
    by_cases hq : q = p
    · subst hq
      obtain ⟨rfl, hpath⟩ := hok rfl
      obtain ⟨found, vitals', hfound, hvitals', hlimits⟩ := hw.entries
      obtain rfl := Option.some.inj (hplayer.symm.trans hfound)
      refine of_entries Std.ExtTreeMap.getElem?_insert_self hvitals' ?_
      rw [hlimits, gains'.limitsAt_next limits (hpath player hplayer), if_neg hlevel]
    · exact hw.of_standing (standing_of_ne hq (fun k hk => (hentries k hk _ vitals).1)
        fun _ _ => rfl)
  refine ⟨fun h => ?_, fun h => ?_⟩
  · have hdone := hgained (Nat.lt_of_sub_pos h)
    exact ⟨fun _ => hdone, fun _ => hdone⟩
  · have hdone := hkept fun hlevel => h (Nat.sub_pos_of_lt hlevel)
    exact ⟨fun _ => hdone, fun _ => hdone⟩

theorem deathLoss (hw : LimitsFollow gains p initialLevel limits w) {q percent : ℕ}
    {rules : PlayerProgressionRules}
    (hok : q = p → w.LossDue p percent → ∀ player, w.players[p]? = some player →
      (lossyPlayer player percent).level ≤ player.level ∧
        Unbroken initialLevel player.level (lossyPlayer player percent).level) :
    Leaves (LimitsFollow gains p initialLevel limits)
      (applyFixedPercentDeathLoss q percent rules) w := by
  simp only [applyFixedPercentDeathLoss, Game.playerVitals, Game.requirePlayer, entryOf,
    Game.playerRespawnState, Game.markChanged, leaves_readOr_bind, leaves_write_bind, leaves_ite,
    leaves_fail]
  refine ⟨fun _ => hw, fun hpercent => ⟨fun _ => hw, fun state hstate => ⟨fun _ => hw, ?_⟩⟩⟩
  refine fun hdead => ⟨fun _ => hw, fun happlied => ⟨fun _ => hw, fun player hplayer => ?_⟩⟩
  refine ⟨fun _ => hw, fun _ _ => ⟨fun _ => hw, fun _ _ => ⟨fun _ => hw, fun vitals hvitals => ?_⟩⟩⟩
  have hentries (k : ℕ) (hne : ¬q = k) (x : Player) (v : PlayerVitals) :
      (w.players.insert q x)[k]? = w.players[k]? ∧
        (w.playerVitals.insert q v)[k]? = w.playerVitals[k]? := by
    simp [Std.ExtTreeMap.getElem?_insert, hne]
  by_cases hq : q = p
  · subst hq
    have hdue : w.LossDue q percent := by
      have hrange := of_not_not hpercent
      exact ⟨hrange.1, hrange.2, state, hstate, of_not_not hdead, by simpa using happlied⟩
    obtain ⟨hdown, hpath⟩ := hok rfl hdue player hplayer
    obtain ⟨found, vitals', hfound, hvitals', hlimits⟩ := hw.entries
    obtain rfl := Option.some.inj (hplayer.symm.trans hfound)
    obtain rfl := Option.some.inj (hvitals.symm.trans hvitals')
    refine @of_entries _ _ _ _ _ (lossyPlayer player percent) _ Std.ExtTreeMap.getElem?_insert_self
      Std.ExtTreeMap.getElem?_insert_self ?_
    rw [gains.limitsAt_next limits hpath, if_neg (Nat.not_lt.mpr hdown)]
    exact hlimits
  · exact hw.of_standing (standing_of_ne hq (fun k hk => (hentries k hk _ vitals).1)
      fun k hk => (hentries k hk player _).2)

theorem respawn (hw : LimitsFollow gains p initialLevel limits w) (q : ℕ) :
    Leaves (LimitsFollow gains p initialLevel limits) (living (Living.respawnPlayer q)) w := by
  show Leaves (fun l => LimitsFollow gains p initialLevel limits (w.putLiving l))
    (Living.respawnPlayer q) w.toLivingWorld
  simp only [Living.respawnPlayer, Living.playerRespawnState, Living.requirePlayer,
    Living.markChanged, leaves_readOr_bind, leaves_ofOption_bind, leaves_read_bind, leaves_ite,
    leaves_fail, leaves_write_bind, leaves_pure]
  refine ⟨fun _ => hw, fun player hplayer => ⟨fun _ => hw, fun _ _ => ⟨fun _ => hw, fun _ => ?_⟩⟩⟩
  refine ⟨fun _ => hw, fun position _ => ⟨fun _ => hw, fun _ => ⟨fun _ => hw, fun _ => ?_⟩⟩⟩
  refine ⟨fun _ => hw, fun vitals hvitals => ⟨fun hnone => ?_, fun found hfound => ?_⟩⟩
  · have hsome : w.players[q]? = none := hnone
    exact absurd (hplayer.symm.trans hsome) (by simp)
  · have hfound : w.players[q]? = some found := hfound
    have hvitals : w.playerVitals[q]? = some vitals := hvitals
    refine hw.of_standing ?_
    show ((w.players.insert q _)[p]?.bind fun player =>
      (w.playerVitals.insert q _)[p]?.map fun vitals => (player.level, vitals.limits)) = w.standing p
    simp only [Std.ExtTreeMap.getElem?_insert, Std.LawfulEqCmp.compare_eq_iff_eq]
    split
    · rename_i heq
      subst heq
      simp [GameWorld.standing, hfound, hvitals, PlayerVitals.limits]
    · rfl

/-- **One step.** -/
theorem step (toLowercase : String → String) (hw : LimitsFollow gains p initialLevel limits w)
    {event : GameEvent} (hok : event.SteadyLevels toLowercase gains p initialLevel w) :
    LimitsFollow gains p initialLevel limits (event.step toLowercase w) := by
  have hbeside (h : (event.step toLowercase w).standing p = w.standing p) :
      LimitsFollow gains p initialLevel limits (event.step toLowercase w) := hw.of_standing h
  cases event with
  | overwrite e =>
    cases e with
    | awardExperience q raw policy gains' => exact leaves_void.mpr (hw.award hok)
    | _ => exact hbeside hok
  | upkeep e =>
    cases e with
    | deathLoss q percent rules => exact leaves_void.mpr (hw.deathLoss hok)
    | _ => exact hbeside hok
  | player e =>
    cases e with
    | respawn q =>
      have hback : Leaves (fun l => LimitsFollow gains p initialLevel limits (w.putLiving l))
          (void (Living.respawnPlayer q)) w.toLivingWorld := leaves_void.mpr (hw.respawn q)
      exact hback
    | _ => exact hbeside hok
  | addPlayer | removePlayer | inventory | creature | party => exact hbeside hok

end LimitsFollow

/-- **The maxima follow from the initial values and the level**, in every run in which no level is
lost above the initial level and none is gained below it. -/
theorem limitsFollowLevel (toLowercase : String → String) (gains : VocationLevelUpGains)
    {start w : GameWorld} {p : ℕ} {player : Player} {vitals : PlayerVitals}
    (hplayer : start.players[p]? = some player) (hvitals : start.playerVitals[p]? = some vitals)
    (h : Reaches (GameEvent.step toLowercase)
      (fun w event => event.SteadyLevels toLowercase gains p player.level w) start w) :
    ∃ player' vitals', w.players[p]? = some player' ∧ w.playerVitals[p]? = some vitals' ∧
      vitals'.limits = gains.limitsAt vitals.limits player.level player'.level := by
  have hstart : LimitsFollow gains p player.level vitals.limits start := by
    refine .of_entries hplayer hvitals ?_
    rw [VocationLevelUpGains.limitsAt, if_neg (Nat.lt_irrefl _)]
  exact (h.invariant (P := LimitsFollow gains p player.level vitals.limits)
    (fun _ _ hw hok => hw.step toLowercase hok) hstart).entries

/-- A knight who has just entered. -/
def knightEntered : GameWorld := (knightEnters 7 100).step id .empty

/-- Requirements no test below looks at. -/
def noRequirements : PlayerProgressionRules := ⟨fun _ _ => 1, fun _ => 1⟩

/-- The knight dies, loses all experience, and is back. -/
def knightFalls : List GameEvent :=
  [.player (.death 7 1 templeMap), .upkeep (.deathLoss 7 100 noRequirements), .player (.respawn 7)]

theorem limitsFollowLevel_levelGained : ∃ player' vitals',
    ([levelGained 7].foldl (GameEvent.step id) knightEntered).players[7]? = some player' ∧
    ([levelGained 7].foldl (GameEvent.step id) knightEntered).playerVitals[7]? = some vitals' ∧
    vitals'.limits = VocationLevelUpGains.limitsAt { health := 5 } ⟨150, 50, 40000⟩ 1 player'.level := by
  have hplayer : knightEntered.players[7]? = some ⟨7, 1, "Knight", ⟨100, 100, 7⟩, 1, 0, 0⟩ := by
    decide +kernel
  have hvitals : knightEntered.playerVitals[7]? = some ({} : PlayerVitals) := by decide +kernel
  have hrun (h : (levelGained 7).SteadyLevels id { health := 5 } 7 1 knightEntered) :
      Reaches (GameEvent.step id) (fun w event => event.SteadyLevels id { health := 5 } 7 1 w)
        knightEntered ([levelGained 7].foldl (GameEvent.step id) knightEntered) :=
    .foldl .start ⟨h, trivial⟩
  refine limitsFollowLevel id { health := 5 } hplayer hvitals (hrun fun _ => ?_)
  refine ⟨rfl, fun player hfound => ?_⟩
  obtain rfl := Option.some.inj (hplayer.symm.trans hfound)
  exact ⟨fun _ => Nat.le_refl 1, fun hlost => absurd hlost (by decide +kernel)⟩

/-- **Lost and regained, a level counts twice.**  Both runs end at level two. -/
theorem levelRegained_raises : ¬∃ follows : VitalLimits → ℕ → ℕ → VitalLimits,
    ∀ events : List GameEvent, (∀ event ∈ events, event = levelGained 7 ∨ event ∈ knightFalls) →
      ∀ level limits, (events.foldl (GameEvent.step id) knightEntered).standing 7 = some (level, limits) →
        limits = follows ⟨150, 50, 40000⟩ 1 level := by
  rintro ⟨follows, hfollows⟩
  have honce := hfollows [levelGained 7] (by simp) 2 ⟨155, 50, 40000⟩ (by decide +kernel)
  have htwice := hfollows (levelGained 7 :: knightFalls ++ [levelGained 7]) (by simp; tauto)
    2 ⟨160, 50, 40000⟩ (by decide +kernel)
  rw [← honce] at htwice
  exact absurd htwice (by decide)

end ForgottenEngine
