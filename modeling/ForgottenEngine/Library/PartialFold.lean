import Mathlib

/-!
# Folding a partial step over a list

A loop that applies a step to one element after the other and gives up at the first element the
step refuses.  `List.foldlM` in `Option` is that loop; what later files need of it is where it
stopped, and what its steps preserve.

* `foldlM_eq_none_iff` — a loop that gave up did so at one element, after a prefix that went
  through;
* `stop_unique` — it stops at one place only;
* `foldlM_preserves` — what every step keeps, a whole loop keeps;
* `foldlM_ok_prefix`, `foldl_prefix` — what every step carries from a prefix of the list to the
  next longer one, the loop carries to the whole list; `foldlM_total_prefix` — with it the loop goes
  through, when every round does;
* `foldlM_either` — the same for a loop that may fail, with what its failure means;
* `mapM_eq_ok_map`, `forall₂_of_mapM` — the same for a loop that collects one result for each
  element.
-/

namespace PartialFold

variable {σ α : Type*} {f : σ → α → Option σ}

theorem foldlM_cons_eq_some {s t : σ} {x : α} {xs : List α} :
    (x :: xs).foldlM f s = some t ↔ ∃ u, f s x = some u ∧ xs.foldlM f u = some t := by
  rw [List.foldlM_cons, Option.bind_eq_bind, Option.bind_eq_some_iff]

/-- **Where a loop gives up.** -/
theorem foldlM_eq_none_iff {s : σ} {xs : List α} :
    xs.foldlM f s = none ↔
      ∃ pre x post t, xs = pre ++ x :: post ∧ pre.foldlM f s = some t ∧ f t x = none := by
  induction xs generalizing s with
  | nil => simp
  | cons x xs ih =>
    rw [List.foldlM_cons, Option.bind_eq_bind, Option.bind_eq_none_iff]
    constructor
    · intro h
      cases hx : f s x with
      | none => exact ⟨[], x, xs, s, rfl, rfl, hx⟩
      | some u =>
        obtain ⟨pre, y, post, t, heq, hpre, hy⟩ := ih.mp (h u hx)
        exact ⟨x :: pre, y, post, t, by rw [heq]; rfl, foldlM_cons_eq_some.mpr ⟨u, hx, hpre⟩, hy⟩
    · intro h u hx
      obtain ⟨pre, y, post, t, heq, hpre, hy⟩ := h
      cases pre with
      | nil =>
        cases heq
        cases hpre
        rw [hx] at hy
        cases hy
      | cons z pre =>
        cases heq
        obtain ⟨v, hv, hpre⟩ := foldlM_cons_eq_some.mp hpre
        rw [hx] at hv
        cases hv
        exact ih.mpr ⟨pre, y, post, t, rfl, hpre, hy⟩

/-- What every step keeps, the loop keeps. -/
theorem foldlM_preserves {P : σ → Prop} (hstep : ∀ s x t, P s → f s x = some t → P t)
    {s t : σ} {xs : List α} (hs : P s) (h : xs.foldlM f s = some t) : P t := by
  induction xs generalizing s with
  | nil => cases h; exact hs
  | cons x xs ih =>
    obtain ⟨u, hx, hrest⟩ := foldlM_cons_eq_some.mp h
    exact ih (hstep s x u hs hx) hrest

/-- A loop stops at one place only. -/
theorem stop_unique {s t t' : σ} {x x' : α} {pre post pre' post' : List α}
    (heq : pre ++ x :: post = pre' ++ x' :: post')
    (hpre : pre.foldlM f s = some t) (hx : f t x = none)
    (hpre' : pre'.foldlM f s = some t') (hx' : f t' x' = none) : pre = pre' := by
  induction pre generalizing pre' s with
  | nil =>
    cases hpre
    cases pre' with
    | nil => rfl
    | cons y pre' =>
      cases heq
      obtain ⟨u, hu, -⟩ := foldlM_cons_eq_some.mp hpre'
      rw [hx] at hu
      cases hu
  | cons z pre ih =>
    obtain ⟨u, hu, hpre⟩ := foldlM_cons_eq_some.mp hpre
    cases pre' with
    | nil =>
      cases hpre'
      cases heq
      rw [hx'] at hu
      cases hu
    | cons y pre' =>
      simp only [List.cons_append, List.cons.injEq] at heq
      obtain ⟨rfl, heq⟩ := heq
      obtain ⟨u', hu', hpre'⟩ := foldlM_cons_eq_some.mp hpre'
      rw [hu] at hu'
      cases hu'
      rw [ih heq hpre hpre']

/-! ### Invariants that speak of what was read so far -/

/-- A loop that may fail, and an invariant that mentions the elements read so far. -/
theorem foldlM_ok_prefix {ε : Type*} {f : σ → α → Except ε σ} {I : List α → σ → Prop}
    (hstep : ∀ pre s x t, I pre s → f s x = .ok t → I (pre ++ [x]) t)
    {s t : σ} {xs : List α} (hs : I [] s) (h : xs.foldlM f s = .ok t) : I xs t := by
  have hrun : ∀ (rest pre : List α) (u : σ), I pre u → rest.foldlM f u = .ok t →
      I (pre ++ rest) t := by
    intro rest
    induction rest with
    | nil =>
      intro pre u hu hrest
      cases hrest
      simpa using hu
    | cons x rest ih =>
      intro pre u hu hrest
      rw [List.foldlM_cons] at hrest
      cases hx : f u x with
      | error e => rw [hx] at hrest; cases hrest
      | ok v =>
        rw [hx] at hrest
        simpa using ih (pre ++ [x]) v (hstep pre u x v hu hx) hrest
  simpa using hrun xs [] s hs h

/-- A loop goes through when every round does that the invariant leads to. -/
theorem foldlM_total_prefix {ε : Type*} {f : σ → α → Except ε σ} {I : List α → σ → Prop}
    {xs : List α} (hstep : ∀ pre x s, pre ++ [x] <+: xs → I pre s →
      ∃ t, f s x = .ok t ∧ I (pre ++ [x]) t)
    {s : σ} (hs : I [] s) : ∃ t, xs.foldlM f s = .ok t ∧ I xs t := by
  have hrun : ∀ (rest pre : List α) (u : σ), pre ++ rest = xs → I pre u →
      ∃ t, rest.foldlM f u = .ok t ∧ I xs t := by
    intro rest
    induction rest with
    | nil =>
      intro pre u heq hu
      rw [List.append_nil] at heq
      subst heq
      exact ⟨u, rfl, hu⟩
    | cons x rest ih =>
      intro pre u heq hu
      have heq' : pre ++ [x] ++ rest = xs := by simpa using heq
      obtain ⟨v, hx, hv⟩ := hstep pre x u ⟨rest, heq'⟩ hu
      obtain ⟨t, hrest, ht⟩ := ih (pre ++ [x]) v heq' hv
      exact ⟨t, by rw [List.foldlM_cons, hx]; exact hrest, ht⟩
  exact hrun xs [] s rfl hs

/-- The same for a loop that cannot fail. -/
theorem foldl_prefix {f : σ → α → σ} {I : List α → σ → Prop}
    (hstep : ∀ pre s x, I pre s → I (pre ++ [x]) (f s x)) {s : σ} (xs : List α) (hs : I [] s) :
    I xs (xs.foldl f s) := by
  have hrun : ∀ (rest pre : List α) (u : σ), I pre u → I (pre ++ rest) (rest.foldl f u) := by
    intro rest
    induction rest with
    | nil => intro pre u hu; simpa using hu
    | cons x rest ih =>
      intro pre u hu
      simpa using ih (pre ++ [x]) (f u x) (hstep pre u x hu)
  simpa using hrun xs [] s hs

/-! ### Mapping a partial function -/

theorem mapM_eq_ok_map {ε β : Type*} {f : α → Except ε β} {g : α → β} {xs : List α}
    (h : ∀ x ∈ xs, f x = .ok (g x)) : xs.mapM f = .ok (xs.map g) := by
  induction xs with
  | nil => rfl
  | cons x xs ih =>
    have hx : f x = .ok (g x) := h x List.mem_cons_self
    rw [List.mapM_cons, hx, ih fun y hy => h y (List.mem_cons_of_mem x hy)]
    rfl

/-- A partial function that is defined on a whole list, entry by entry. -/
theorem forall₂_of_mapM {β : Type*} {f : α → Option β} {xs : List α} {ys : List β}
    (h : xs.mapM f = some ys) : List.Forall₂ (fun x y => f x = some y) xs ys := by
  induction xs generalizing ys with
  | nil => cases h; exact .nil
  | cons x xs ih =>
    rw [List.mapM_cons, Option.bind_eq_bind, Option.bind_eq_some_iff] at h
    obtain ⟨y, hy, h⟩ := h
    rw [Option.bind_eq_bind, Option.bind_eq_some_iff] at h
    obtain ⟨ys', hys, h⟩ := h
    cases h
    exact .cons hy (ih hys)

/-- What a loop that may fail keeps, and what its failure means. -/
theorem foldlM_either {ε : Type*} {f : σ → α → Except ε σ} {I : List α → σ → Prop}
    {Q : ε → Prop} (hok : ∀ pre s x t, I pre s → f s x = .ok t → I (pre ++ [x]) t)
    (herror : ∀ pre s x e, I pre s → f s x = .error e → Q e) {s : σ} (hs : I [] s) (xs : List α) :
    (∀ t, xs.foldlM f s = .ok t → I xs t) ∧ ∀ e, xs.foldlM f s = .error e → Q e := by
  have hrun : ∀ (rest pre : List α) (u : σ), I pre u →
      (∀ t, rest.foldlM f u = .ok t → I (pre ++ rest) t) ∧
        ∀ e, rest.foldlM f u = .error e → Q e := by
    intro rest
    induction rest with
    | nil =>
      intro pre u hu
      refine ⟨fun t ht => ?_, fun e he => by cases he⟩
      cases ht
      simpa using hu
    | cons x rest ih =>
      intro pre u hu
      rw [List.foldlM_cons]
      cases hx : f u x with
      | error e =>
        refine ⟨fun t ht => (by cases ht), fun e' he => ?_⟩
        cases he
        exact herror pre u x e hu hx
      | ok v =>
        have hrest := ih (pre ++ [x]) v (hok pre u x v hu hx)
        rw [List.append_assoc, List.singleton_append] at hrest
        exact hrest
  simpa using hrun xs [] s hs

end PartialFold
