import Mathlib

/-!
# Fallible operations on a mutable state

A method of the program that takes `&mut self` and returns a `Result` may have written to the
state before it fails.  `Fallible ε σ α` is that meaning: from a state, a result **and** a state,
whatever the result is.  An early return keeps the state as it stands.

* `bind_eq_ok`, `bind_eq_error` — inversion of a sequence, for results and for errors;
* `ReadOnly`, `Succeeds`, `Atomic` — the three properties error handling is about: the state is
  never written, the operation never fails, a failure leaves the state as it was; `SucceedsAt` and
  `AtomicAt` say the latter two of one state;
* `Atomic.bind` and `Succeeds.bind` — the rules that compose them.  An operation that only reads
  until its last check, and afterwards only does what cannot fail, is atomic;
* `zoom` — an operation on a part of the state as an operation on the whole;
* `Keeps` — the frame property: a part of the state no step of the operation changes;
* `Leaves`, `Stays` — what holds of the state an operation leaves behind, whatever its result; the
  simp set of `Leaves` turns an operation into its verification condition;
* `view` — what is seen of an accepted run from outside: a part of the state it ends in.  Its simp
  set turns an operation into an `Option` expression over the starting state.
-/

/-- From a state, a result or an error, and in both cases the state reached. -/
def Fallible (ε σ α : Type) : Type := σ → Except ε α × σ

namespace Fallible

variable {ε σ α β : Type}

/-- A sequence runs the second part on the result of the first; an error of the first part ends
it where it stands. -/
instance : Monad (Fallible ε σ) where
  pure a := fun s => (.ok a, s)
  bind m f := fun s =>
    match m s with
    | (.ok a, t) => f a t
    | (.error e, t) => (.error e, t)

/-- Fail with `e`. -/
def fail (e : ε) : Fallible ε σ α := fun s => (.error e, s)

/-- Look at the state. -/
def read (f : σ → α) : Fallible ε σ α := fun s => (.ok (f s), s)

/-- Change the state. -/
def write (f : σ → σ) : Fallible ε σ Unit := fun s => (.ok (), f s)

/-- A computation that does not touch the state, with its own error. -/
def ofExcept (x : Except ε α) : Fallible ε σ α := fun s => (x, s)

/-- `ok_or`. -/
def ofOption (x : Option α) (e : ε) : Fallible ε σ α := fun s => (x.elim (.error e) .ok, s)

/-- A lookup in the state, failing with `e` when it finds nothing. -/
def readOr (f : σ → Option α) (e : ε) : Fallible ε σ α := fun s => ((f s).elim (.error e) .ok, s)

/-- Run `cleanup` when `m` fails, and fail with the error of `m`. -/
def onError (m : Fallible ε σ α) (cleanup : Fallible ε σ Unit) : Fallible ε σ α := fun s =>
  match m s with
  | (.ok a, t) => (.ok a, t)
  | (.error e, t) => (.error e, (cleanup t).2)

/-- Run an operation on a part of the state. -/
def zoom {τ : Type} (get : σ → τ) (put : σ → τ → σ) (m : Fallible ε τ α) : Fallible ε σ α :=
  fun s => ((m (get s)).1, put s (m (get s)).2)

/-! ### Evaluation -/

@[simp] theorem pure_apply (a : α) (s : σ) : (Pure.pure a : Fallible ε σ α) s = (.ok a, s) := rfl

@[simp] theorem fail_apply (e : ε) (s : σ) : (fail e : Fallible ε σ α) s = (.error e, s) := rfl

@[simp] theorem read_apply (f : σ → α) (s : σ) :
    (read f : Fallible ε σ α) s = (.ok (f s), s) := rfl

@[simp] theorem write_apply (f : σ → σ) (s : σ) :
    (write f : Fallible ε σ Unit) s = (.ok (), f s) := rfl

@[simp] theorem ofExcept_apply (x : Except ε α) (s : σ) :
    (ofExcept x : Fallible ε σ α) s = (x, s) := rfl

@[simp] theorem ofOption_some (a : α) (e : ε) (s : σ) :
    (ofOption (some a) e : Fallible ε σ α) s = (.ok a, s) := rfl

@[simp] theorem ofOption_none (e : ε) (s : σ) :
    (ofOption none e : Fallible ε σ α) s = (.error e, s) := rfl

@[simp] theorem ofOption_eq_ok {x : Option α} {e : ε} {s t : σ} {a : α} :
    (ofOption x e : Fallible ε σ α) s = (.ok a, t) ↔ x = some a ∧ t = s := by
  cases x <;> simp [ofOption, eq_comm]

@[simp] theorem readOr_eq_ok {f : σ → Option α} {e : ε} {s t : σ} {a : α} :
    (readOr f e : Fallible ε σ α) s = (.ok a, t) ↔ f s = some a ∧ t = s := by
  cases h : f s <;> simp [readOr, h, eq_comm]

theorem readOr_of_some {f : σ → Option α} {s : σ} {a : α} (e : ε) (h : f s = some a) :
    (readOr f e : Fallible ε σ α) s = (.ok a, s) := readOr_eq_ok.mpr ⟨h, rfl⟩

theorem readOr_of_none {f : σ → Option α} {s : σ} (e : ε) (h : f s = none) :
    (readOr f e : Fallible ε σ α) s = (.error e, s) := by simp [readOr, h]

/-- A guard in front of an operation. -/
@[simp] theorem guard_eq_ok {c : Prop} [Decidable c] {e : ε} {m : Fallible ε σ α} {s t : σ} {a : α} :
    (if c then fail e else m) s = (.ok a, t) ↔ ¬c ∧ m s = (.ok a, t) := by
  by_cases h : c <;> simp [h]

theorem bind_apply (m : Fallible ε σ α) (f : α → Fallible ε σ β) (s : σ) :
    (m >>= f) s = match m s with
      | (.ok a, t) => f a t
      | (.error e, t) => (.error e, t) := rfl

theorem bind_of_ok {m : Fallible ε σ α} {f : α → Fallible ε σ β} {s t : σ} {a : α}
    (h : m s = (.ok a, t)) : (m >>= f) s = f a t := by rw [bind_apply, h]

theorem bind_of_error {m : Fallible ε σ α} {f : α → Fallible ε σ β} {s t : σ} {e : ε}
    (h : m s = (.error e, t)) : (m >>= f) s = (.error e, t) := by rw [bind_apply, h]

@[simp] theorem bind_eq_ok {m : Fallible ε σ α} {f : α → Fallible ε σ β} {s u : σ} {b : β} :
    (m >>= f) s = (.ok b, u) ↔ ∃ a t, m s = (.ok a, t) ∧ f a t = (.ok b, u) := by
  rw [bind_apply]
  rcases m s with ⟨e | a, t⟩ <;> simp

theorem bind_eq_error {m : Fallible ε σ α} {f : α → Fallible ε σ β} {s u : σ} {e : ε} :
    (m >>= f) s = (.error e, u) ↔
      m s = (.error e, u) ∨ ∃ a t, m s = (.ok a, t) ∧ f a t = (.error e, u) := by
  rw [bind_apply]
  rcases m s with ⟨e | a, t⟩ <;> simp

@[simp] theorem onError_eq_ok {m : Fallible ε σ α} {c : Fallible ε σ Unit} {s t : σ} {a : α} :
    onError m c s = (.ok a, t) ↔ m s = (.ok a, t) := by
  unfold onError
  rcases m s with ⟨e | b, u⟩ <;> simp

theorem onError_of_error {m : Fallible ε σ α} {s t : σ} {e : ε} (c : Fallible ε σ Unit)
    (h : m s = (.error e, t)) : onError m c s = (.error e, (c t).2) := by
  unfold onError; rw [h]

/-- A loop, one round longer. -/
theorem foldlM_concat_of_ok {γ : Type} {k : β → γ → Fallible ε σ β} {xs : List γ} {b c : β}
    {s t : σ} (h : xs.foldlM k b s = (.ok c, t)) (x : γ) :
    (xs ++ [x]).foldlM k b s = k c x t := by
  induction xs generalizing b s with
  | nil =>
    cases h
    rw [List.nil_append, List.foldlM_cons, bind_apply]
    rcases k c x t with ⟨e | a, u⟩ <;> rfl
  | cons y ys ih =>
    rw [List.foldlM_cons, bind_eq_ok] at h
    obtain ⟨a, u, hy, hys⟩ := h
    rw [List.cons_append, List.foldlM_cons, bind_of_ok hy]
    exact ih hys

/-- **A loop goes through** when every round does that an invariant of the part behind it leads
to. -/
theorem foldlM_total {γ : Type} {k : β → γ → Fallible ε σ β} {I : List γ → β → σ → Prop}
    {xs : List γ} (hstep : ∀ pre x b s, pre ++ [x] <+: xs → I pre b s →
      ∃ c t, k b x s = (.ok c, t) ∧ I (pre ++ [x]) c t)
    {b : β} {s : σ} (hs : I [] b s) : ∃ c t, xs.foldlM k b s = (.ok c, t) ∧ I xs c t := by
  have hrun : ∀ (rest pre : List γ) (b : β) (s : σ), pre ++ rest = xs → I pre b s →
      ∃ c t, rest.foldlM k b s = (.ok c, t) ∧ I xs c t := by
    intro rest
    induction rest with
    | nil =>
      intro pre b s heq hs
      rw [List.append_nil] at heq
      subst heq
      exact ⟨b, s, rfl, hs⟩
    | cons x rest ih =>
      intro pre b s heq hs
      have heq' : pre ++ [x] ++ rest = xs := by simpa using heq
      obtain ⟨c, t, hx, ht⟩ := hstep pre x b s ⟨rest, heq'⟩ hs
      obtain ⟨d, u, hrest, hu⟩ := ih (pre ++ [x]) c t heq' ht
      exact ⟨d, u, by rw [List.foldlM_cons, bind_of_ok hx, hrest], hu⟩
  exact hrun xs [] b s rfl hs

theorem fst_eq_ok {m : Fallible ε σ α} {s : σ} {a : α} :
    (m s).1 = .ok a ↔ ∃ t, m s = (.ok a, t) :=
  ⟨fun h => ⟨_, Prod.ext h rfl⟩, fun ⟨_, h⟩ => by rw [h]⟩

@[simp] theorem mapError_eq_ok {ε' : Type} {x : Except ε α} {f : ε → ε'} {a : α} :
    x.mapError f = .ok a ↔ x = .ok a := by
  cases x <;> simp [Except.mapError]

theorem except_bind_eq_ok {x : Except ε α} {f : α → Except ε β} {b : β} :
    (x >>= f) = .ok b ↔ ∃ a, x = .ok a ∧ f a = .ok b := by
  cases x <;> simp [Bind.bind, Except.bind]

/-- A list is mapped when every element is. -/
theorem exists_mapM_eq_ok {ε α β : Type} {f : α → Except ε β} {xs : List α} :
    (∃ ys, xs.mapM f = .ok ys) ↔ ∀ x ∈ xs, ∃ y, f x = .ok y := by
  induction xs with
  | nil => exact ⟨fun _ => nofun, fun _ => ⟨[], rfl⟩⟩
  | cons x xs ih =>
    rw [List.forall_mem_cons, ← ih]
    simp only [List.mapM_cons, except_bind_eq_ok]
    constructor
    · intro h
      obtain ⟨_, y, hy, ys, hys, -⟩ := h
      exact ⟨⟨y, hy⟩, ys, hys⟩
    · intro h
      obtain ⟨⟨y, hy⟩, ys, hys⟩ := h
      exact ⟨y :: ys, y, hy, ys, hys, rfl⟩

theorem exists_ok_of_toOption_map {ε α β : Type} {x : Except ε α} {f : α → β} {b : β}
    (h : x.toOption.map f = some b) : ∃ a, x = .ok a ∧ f a = b := by
  cases x with
  | ok a => exact ⟨a, rfl, Option.some.inj h⟩
  | error e => cases h

/-- Checks of every entry that go through. -/
theorem forM_eq_ok {ε α : Type} {f : α → Except ε Unit} {xs : List α} :
    xs.forM f = .ok () ↔ ∀ x ∈ xs, f x = .ok () := by
  induction xs with
  | nil => exact ⟨fun _ _ h => absurd h List.not_mem_nil, fun _ => rfl⟩
  | cons x xs ih =>
    rw [List.forall_mem_cons, ← ih]
    show (f x >>= fun _ => xs.forM f) = .ok () ↔ _
    cases f x with
    | error e => simp [bind, Except.bind]
    | ok u => simp [bind, Except.bind]

/-! ### Operations that leave the state alone, and operations that do so when they fail -/

/-- The operation never writes. -/
def ReadOnly (m : Fallible ε σ α) : Prop := ∀ s, (m s).2 = s

/-- The operation never fails. -/
def Succeeds (m : Fallible ε σ α) : Prop := ∀ s, ∃ a, (m s).1 = .ok a

/-- A failure leaves the state as it was. -/
def Atomic (m : Fallible ε σ α) : Prop := ∀ s e t, m s = (.error e, t) → t = s

theorem ReadOnly.fail (e : ε) : ReadOnly (fail e : Fallible ε σ α) := fun _ => rfl

theorem ReadOnly.read (f : σ → α) : ReadOnly (read f : Fallible ε σ α) := fun _ => rfl

theorem ReadOnly.readOr (f : σ → Option α) (e : ε) : ReadOnly (readOr f e : Fallible ε σ α) :=
  fun _ => rfl

theorem ReadOnly.ofExcept (x : Except ε α) : ReadOnly (ofExcept x : Fallible ε σ α) := fun _ => rfl

theorem ReadOnly.ofOption (x : Option α) (e : ε) : ReadOnly (ofOption x e : Fallible ε σ α) :=
  fun _ => rfl

theorem ReadOnly.bind {m : Fallible ε σ α} {f : α → Fallible ε σ β} (hm : ReadOnly m)
    (hf : ∀ a, ReadOnly (f a)) : ReadOnly (m >>= f) := by
  intro s
  have h := hm s
  rw [bind_apply]
  rcases hms : m s with ⟨e | a, t⟩ <;> rw [hms] at h <;> simp only at h ⊢
  · exact h
  · rw [hf a t, h]

theorem ReadOnly.atomic {m : Fallible ε σ α} (h : ReadOnly m) : Atomic m := by
  intro s e t hm
  have := h s
  rwa [hm] at this

theorem Succeeds.pure (a : α) : Succeeds (Pure.pure a : Fallible ε σ α) := fun _ => ⟨a, rfl⟩

theorem Succeeds.write (f : σ → σ) : Succeeds (write f : Fallible ε σ Unit) := fun _ => ⟨(), rfl⟩

theorem Succeeds.bind {m : Fallible ε σ α} {f : α → Fallible ε σ β} (hm : Succeeds m)
    (hf : ∀ a, Succeeds (f a)) : Succeeds (m >>= f) := by
  intro s
  obtain ⟨a, ha⟩ := hm s
  rcases hms : m s with ⟨r, t⟩
  rw [hms] at ha
  simp only at ha
  subst ha
  rw [bind_of_ok hms]
  exact hf a t

theorem Succeeds.atomic {m : Fallible ε σ α} (h : Succeeds m) : Atomic m := by
  intro s e t hm
  obtain ⟨a, ha⟩ := h s
  rw [hm] at ha
  cases ha

/-- **Checks first, then an atomic rest.**  A step that does not write may be put in front of an
atomic operation. -/
theorem Atomic.bind {m : Fallible ε σ α} {f : α → Fallible ε σ β} (hm : ReadOnly m)
    (hf : ∀ a, Atomic (f a)) : Atomic (m >>= f) := by
  intro s e u h
  rcases bind_eq_error.mp h with h | ⟨a, t, hma, h⟩
  · exact hm.atomic s e u h
  · have hts : t = s := by have := hm s; rwa [hma] at this
    rw [hf a t e u h, hts]

/-- An atomic operation may be followed by what cannot fail. -/
theorem Atomic.bind_succeeds {m : Fallible ε σ α} {f : α → Fallible ε σ β} (hm : Atomic m)
    (hf : ∀ a, Succeeds (f a)) : Atomic (m >>= f) := by
  intro s e u h
  rcases bind_eq_error.mp h with h | ⟨a, t, -, h⟩
  · exact hm s e u h
  · obtain ⟨b, hb⟩ := hf a t
    rw [h] at hb
    cases hb

theorem Atomic.ite {c : Prop} [Decidable c] {m n : Fallible ε σ α} (hm : Atomic m)
    (hn : Atomic n) : Atomic (if c then m else n) := by
  split
  · exact hm
  · exact hn

/-- The operation goes through from this state. -/
def SucceedsAt (m : Fallible ε σ α) (s : σ) : Prop := ∃ a t, m s = (.ok a, t)

theorem Succeeds.succeedsAt {m : Fallible ε σ α} (h : Succeeds m) (s : σ) : SucceedsAt m s := by
  obtain ⟨a, ha⟩ := h s
  exact ⟨a, (m s).2, Prod.ext ha rfl⟩

theorem SucceedsAt.bind {m : Fallible ε σ α} {f : α → Fallible ε σ β} {s : σ} (hm : SucceedsAt m s)
    (hf : ∀ a t, m s = (.ok a, t) → SucceedsAt (f a) t) : SucceedsAt (m >>= f) s := by
  obtain ⟨a, t, hrun⟩ := hm
  rw [SucceedsAt, bind_of_ok hrun]
  exact hf a t hrun

theorem SucceedsAt.ite {c : Prop} [Decidable c] {m n : Fallible ε σ α} {s : σ}
    (hm : c → SucceedsAt m s) (hn : ¬c → SucceedsAt n s) : SucceedsAt (if c then m else n) s := by
  split
  · exact hm ‹_›
  · exact hn ‹_›

/-- A failure from this state leaves the state as it was. -/
def AtomicAt (m : Fallible ε σ α) (s : σ) : Prop := ∀ e t, m s = (.error e, t) → t = s

theorem ReadOnly.atomicAt {m : Fallible ε σ α} (h : ReadOnly m) (s : σ) : AtomicAt m s :=
  h.atomic s

/-- A step that does not write may be put in front, and what it found may be used behind it. -/
theorem AtomicAt.bind {m : Fallible ε σ α} {f : α → Fallible ε σ β} {s : σ} (hm : ReadOnly m)
    (hf : ∀ a, m s = (.ok a, s) → AtomicAt (f a) s) : AtomicAt (m >>= f) s := by
  intro e u h
  rcases bind_eq_error.mp h with h | ⟨a, t, hma, hfa⟩
  · exact hm.atomic s e u h
  · have hts : t = s := by have := hm s; rwa [hma] at this
    subst hts
    exact hf a hma e u hfa

/-- An atomic operation whose results the rest accepts without failing. -/
theorem AtomicAt.bind_succeeds {m : Fallible ε σ α} {f : α → Fallible ε σ β} {s : σ}
    (hm : AtomicAt m s) (hf : ∀ a t, m s = (.ok a, t) → ∃ b u, f a t = (.ok b, u)) :
    AtomicAt (m >>= f) s := by
  intro e u h
  rcases bind_eq_error.mp h with h | ⟨a, t, hma, h⟩
  · exact hm e u h
  · obtain ⟨b, v, hb⟩ := hf a t hma
    rw [h] at hb
    cases hb

theorem AtomicAt.ite {c : Prop} [Decidable c] {m n : Fallible ε σ α} {s : σ}
    (hm : c → AtomicAt m s) (hn : ¬c → AtomicAt n s) : AtomicAt (if c then m else n) s := by
  split
  · exact hm ‹_›
  · exact hn ‹_›

theorem ReadOnly.pure (a : α) : ReadOnly (Pure.pure a : Fallible ε σ α) := fun _ => rfl

theorem ReadOnly.ite {c : Prop} [Decidable c] {m n : Fallible ε σ α} (hm : ReadOnly m)
    (hn : ReadOnly n) : ReadOnly (if c then m else n) := by
  split
  · exact hm
  · exact hn

/-- What a step that does not write returns, it returns in the same state. -/
theorem ReadOnly.state_eq {m : Fallible ε σ α} (h : ReadOnly m) {s t : σ} {r : Except ε α}
    (hm : m s = (r, t)) : t = s := by
  have := h s
  rwa [hm] at this

/-! ### What an operation keeps -/

/-- The operation never changes `f` of the state, whether it fails or not. -/
def Keeps {γ : Type} (f : σ → γ) (m : Fallible ε σ α) : Prop := ∀ s, f (m s).2 = f s

variable {γ : Type} {f : σ → γ}

theorem Keeps.eq {m : Fallible ε σ α} (h : Keeps f m) {s t : σ} {r : Except ε α}
    (hm : m s = (r, t)) : f t = f s := by
  have := h s
  rwa [hm] at this

theorem ReadOnly.keeps {m : Fallible ε σ α} (h : ReadOnly m) : Keeps f m := fun s =>
  congrArg f (h s)

theorem Keeps.pure (a : α) : Keeps f (Pure.pure a : Fallible ε σ α) := fun _ => rfl

theorem Keeps.fail (e : ε) : Keeps f (fail e : Fallible ε σ α) := fun _ => rfl

theorem Keeps.write {g : σ → σ} (h : ∀ s, f (g s) = f s) :
    Keeps f (write g : Fallible ε σ Unit) := h

theorem Keeps.bind {m : Fallible ε σ α} {k : α → Fallible ε σ β} (hm : Keeps f m)
    (hk : ∀ a, Keeps f (k a)) : Keeps f (m >>= k) := by
  intro s
  have h := hm s
  rw [bind_apply]
  rcases hms : m s with ⟨e | a, t⟩ <;> rw [hms] at h <;> simp only at h ⊢
  · exact h
  · rw [hk _ t, h]

theorem Keeps.onError {m : Fallible ε σ α} {c : Fallible ε σ Unit} (hm : Keeps f m)
    (hc : Keeps f c) : Keeps f (onError m c) := by
  intro s
  have h := hm s
  unfold Fallible.onError
  rcases hms : m s with ⟨e | a, t⟩ <;> rw [hms] at h <;> simp only at h ⊢
  · rw [hc t, h]
  · exact h

theorem Keeps.ite {c : Prop} [Decidable c] {m n : Fallible ε σ α} (hm : Keeps f m)
    (hn : Keeps f n) : Keeps f (if c then m else n) := by
  split
  · exact hm
  · exact hn

theorem Keeps.foldlM {γ' : Type} {k : β → γ' → Fallible ε σ β} (hk : ∀ b c, Keeps f (k b c))
    (cs : List γ') (b : β) : Keeps f (cs.foldlM k b) := by
  induction cs generalizing b with
  | nil => exact .pure b
  | cons c cs ih =>
    rw [List.foldlM_cons]
    exact .bind (hk b c) fun b' => ih b'

/-- An operation on a part keeps what no write of that part changes. -/
theorem Keeps.zoom {τ : Type} {get : σ → τ} {put : σ → τ → σ} {m : Fallible ε τ α}
    (h : ∀ s t, f (put s t) = f s) : Keeps f (zoom get put m) := fun s => h s _

/-- Of what can be seen of the part, an operation on the part keeps what it keeps of the part. -/
theorem Keeps.zoom_of {τ : Type} {get : σ → τ} {put : σ → τ → σ} {m : Fallible ε τ α} {g : τ → γ}
    (hget : ∀ s, f s = g (get s)) (hput : ∀ s t, get (put s t) = t) (hm : Keeps g m) :
    Keeps f (Fallible.zoom get put m) := by
  intro s
  have hpart : f (Fallible.zoom get put m s).2 = g (m (get s)).2 := by
    rw [hget]
    exact congrArg g (hput s _)
  rw [hpart, hm, hget]

/-! ### What holds of the state left behind -/

/-- `Q` holds of the state the operation leaves behind, whether it fails or not. -/
def Leaves (Q : σ → Prop) (m : Fallible ε σ α) (s : σ) : Prop := Q (m s).2

/-- The operation never takes the state out of `P`. -/
def Stays (P : σ → Prop) (m : Fallible ε σ α) : Prop := ∀ s, P s → Leaves P m s

section Leaves

variable {P Q : σ → Prop} {s : σ}

@[simp] theorem leaves_pure (a : α) : Leaves Q (Pure.pure a : Fallible ε σ α) s ↔ Q s := Iff.rfl

@[simp] theorem leaves_fail (e : ε) : Leaves Q (fail e : Fallible ε σ α) s ↔ Q s := Iff.rfl

@[simp] theorem leaves_write (f : σ → σ) :
    Leaves Q (write f : Fallible ε σ Unit) s ↔ Q (f s) := Iff.rfl

@[simp] theorem leaves_write_bind (f : σ → σ) (k : Unit → Fallible ε σ β) :
    Leaves Q (write f >>= k) s ↔ Leaves Q (k ()) (f s) := Iff.rfl

@[simp] theorem leaves_read_bind (f : σ → α) (k : α → Fallible ε σ β) :
    Leaves Q (read f >>= k) s ↔ Leaves Q (k (f s)) s := Iff.rfl

@[simp] theorem leaves_readOr_bind (f : σ → Option α) (e : ε) (k : α → Fallible ε σ β) :
    Leaves Q (readOr f e >>= k) s ↔ (f s = none → Q s) ∧ ∀ a, f s = some a → Leaves Q (k a) s := by
  simp only [Leaves, bind_apply, readOr]
  cases f s <;> simp

@[simp] theorem leaves_ofExcept_bind (x : Except ε α) (k : α → Fallible ε σ β) :
    Leaves Q (ofExcept x >>= k) s ↔
      (∀ e, x = .error e → Q s) ∧ ∀ a, x = .ok a → Leaves Q (k a) s := by
  simp only [Leaves, bind_apply, ofExcept]
  cases x <;> simp

@[simp] theorem leaves_ofOption_bind (x : Option α) (e : ε) (k : α → Fallible ε σ β) :
    Leaves Q (ofOption x e >>= k) s ↔ (x = none → Q s) ∧ ∀ a, x = some a → Leaves Q (k a) s := by
  simp only [Leaves, bind_apply, ofOption]
  cases x <;> simp

@[simp] theorem leaves_ite {c : Prop} [Decidable c] (m n : Fallible ε σ α) :
    Leaves Q (if c then m else n) s ↔ (c → Leaves Q m s) ∧ (¬c → Leaves Q n s) := by
  split <;> simp [*]

@[simp] theorem leaves_zoom {τ : Type} (get : σ → τ) (put : σ → τ → σ) (m : Fallible ε τ α) :
    Leaves Q (zoom get put m) s ↔ Leaves (fun t => Q (put s t)) m (get s) := Iff.rfl

theorem Leaves.mono {m : Fallible ε σ α} (hPQ : ∀ t, P t → Q t) (h : Leaves P m s) :
    Leaves Q m s := hPQ _ h

/-- A sequence leaves `Q` when its first part leaves what its second part needs. -/
theorem Leaves.bind {m : Fallible ε σ α} {k : α → Fallible ε σ β}
    (herror : ∀ e t, m s = (.error e, t) → Q t)
    (hok : ∀ a t, m s = (.ok a, t) → Leaves Q (k a) t) : Leaves Q (m >>= k) s := by
  rw [Leaves, bind_apply]
  rcases hms : m s with ⟨e | a, t⟩
  · exact herror e t hms
  · exact hok a t hms

theorem Leaves.bind_of_ok {m : Fallible ε σ α} {k : α → Fallible ε σ β} {a : α}
    (hm : m s = (.ok a, t)) (hk : Leaves Q (k a) t) : Leaves Q (m >>= k) s := by
  rwa [Leaves, Fallible.bind_of_ok hm]

theorem ReadOnly.stays {m : Fallible ε σ α} (h : ReadOnly m) : Stays P m := by
  intro s hs
  rw [Leaves, h s]
  exact hs

theorem Stays.pure (a : α) : Stays P (Pure.pure a : Fallible ε σ α) := fun _ hs => hs

theorem Stays.write {f : σ → σ} (hf : ∀ s, P s → P (f s)) :
    Stays P (write f : Fallible ε σ Unit) := hf

theorem Stays.ite {c : Prop} [Decidable c] {m n : Fallible ε σ α} (hm : Stays P m)
    (hn : Stays P n) : Stays P (if c then m else n) := by
  split
  · exact hm
  · exact hn

/-- A property of what an operation keeps is not lost. -/
theorem Keeps.stays {m : Fallible ε σ α} {f : σ → β} (h : Keeps f m)
    (hP : ∀ s t, f t = f s → P s → P t) : Stays P m := fun s hs => hP s _ (h s) hs

theorem Stays.bind {m : Fallible ε σ α} {k : α → Fallible ε σ β} (hm : Stays P m)
    (hk : ∀ a, Stays P (k a)) : Stays P (m >>= k) := by
  intro s hs
  have h : P (m s).2 := hm s hs
  rw [Leaves, bind_apply]
  rcases hms : m s with ⟨e | a, t⟩ <;> rw [hms] at h <;> simp only at h ⊢
  · exact h
  · exact hk a t h

/-- A loop stays where each of its rounds stays. -/
theorem Stays.foldlM {γ : Type} {k : β → γ → Fallible ε σ β} (hk : ∀ b c, Stays P (k b c))
    (cs : List γ) (b : β) : Stays P (cs.foldlM k b) := by
  induction cs generalizing b with
  | nil => exact .pure b
  | cons c cs ih =>
    rw [List.foldlM_cons]
    exact .bind (hk b c) fun b' => ih b'

end Leaves

/-! ### What is seen of an accepted run -/

/-- `g` of the state an accepted run ends in; nothing of a refused one. -/
def view (g : σ → γ) (m : Fallible ε σ α) (s : σ) : Option γ :=
  match m s with
  | (.ok _, t) => some (g t)
  | (.error _, _) => none

section View

variable {g : σ → γ} {s : σ}

@[simp] theorem view_pure (a : α) : view g (Pure.pure a : Fallible ε σ α) s = some (g s) := rfl

@[simp] theorem view_fail (e : ε) : view g (fail e : Fallible ε σ α) s = none := rfl

@[simp] theorem view_write (f : σ → σ) : view g (write f : Fallible ε σ Unit) s = some (g (f s)) :=
  rfl

@[simp] theorem view_write_bind (f : σ → σ) (k : Unit → Fallible ε σ β) :
    view g (write f >>= k) s = view g (k ()) (f s) := rfl

@[simp] theorem view_readOr_bind (f : σ → Option α) (e : ε) (k : α → Fallible ε σ β) :
    view g (readOr f e >>= k) s = (f s).bind fun a => view g (k a) s := by
  simp only [view, bind_apply, readOr]
  cases f s <;> rfl

@[simp] theorem view_ofOption_bind (x : Option α) (e : ε) (k : α → Fallible ε σ β) :
    view g (ofOption x e >>= k) s = x.bind fun a => view g (k a) s := by
  cases x <;> rfl

@[simp] theorem view_ofExcept_bind (x : Except ε α) (k : α → Fallible ε σ β) :
    view g (ofExcept x >>= k) s = x.toOption.bind fun a => view g (k a) s := by
  cases x <;> rfl

/-- Throwing the result away is not seen. -/
@[simp] theorem view_bind_pure (m : Fallible ε σ α) (f : α → β) :
    view g (m >>= fun a => (Pure.pure (f a) : Fallible ε σ β)) s = view g m s := by
  simp only [view, bind_apply]
  rcases m s with ⟨e | a, t⟩ <;> rfl

@[simp] theorem view_guard {c : Prop} [Decidable c] (e : ε) (m : Fallible ε σ α) :
    view g (if c then fail e else m) s = if c then none else view g m s := by
  split <;> rfl

end View

end Fallible
