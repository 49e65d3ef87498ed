import ForgottenEngine.Library.ByteCodec

/-!
# Attributes until the input ends

A block of attributes is read one after the other: a byte that says which one comes, then what
belongs to it.  The loop ends with the input, or in front of a byte it stops at.

* `Shrinks` — a reader never puts bytes back; the simp set proves it of a reader from its parts;
* `attributes` — the loop, which ends because each attribute takes its first byte off.
-/

namespace ByteCodec

open Fallible

variable {ε α β : Type}

/-- What the reader leaves is no longer than what it was given. -/
def Shrinks (m : Fallible ε (List UInt8) α) : Prop := ∀ bytes, (m bytes).2.length ≤ bytes.length

@[simp] theorem shrinks_pure (a : α) : Shrinks (Pure.pure a : Fallible ε (List UInt8) α) := fun _ => le_refl _

@[simp] theorem shrinks_fail (e : ε) : Shrinks (fail e : Fallible ε (List UInt8) α) := fun _ => le_refl _

@[simp] theorem shrinks_ofOption (x : Option α) (e : ε) :
    Shrinks (ofOption x e : Fallible ε (List UInt8) α) := fun _ => le_refl _

@[simp] theorem shrinks_bind {m : Fallible ε (List UInt8) α} {f : α → Fallible ε (List UInt8) β} (hm : Shrinks m)
    (hf : ∀ a, Shrinks (f a)) : Shrinks (m >>= f) := by
  intro bytes
  have hfirst := hm bytes
  rw [bind_apply]
  rcases hrun : m bytes with ⟨result, rest⟩
  rw [hrun] at hfirst
  cases result with
  | ok a => exact le_trans (hf a rest) hfirst
  | error e => exact hfirst

@[simp] theorem shrinks_ite {c : Prop} [Decidable c] {m m' : Fallible ε (List UInt8) α} :
    Shrinks (if c then m else m') ↔ (c → Shrinks m) ∧ (¬c → Shrinks m') := by
  by_cases h : c
  · rw [if_pos h]
    exact ⟨fun hm => ⟨fun _ => hm, fun hnot => absurd h hnot⟩, fun hboth => hboth.1 h⟩
  · rw [if_neg h]
    exact ⟨fun hm => ⟨fun hc => absurd hc h, fun _ => hm⟩, fun hboth => hboth.2 h⟩

section Readers

variable (faults : Faults ε)

@[simp] theorem shrinks_byte : Shrinks (byte faults) := by
  intro bytes
  cases bytes with
  | nil => exact le_refl _
  | cons b rest => exact Nat.le_succ _

@[simp] theorem shrinks_take (length : ℕ) : Shrinks (take faults length) := by
  intro bytes
  rw [take]
  split
  · exact le_trans (le_of_eq List.length_drop) (Nat.sub_le _ _)
  · exact le_refl _

@[simp] theorem shrinks_u16 : Shrinks (u16 faults) :=
  shrinks_bind (shrinks_bind (shrinks_take faults 2) fun _ => shrinks_pure _)
    fun _ => shrinks_pure _

@[simp] theorem shrinks_u32 : Shrinks (u32 faults) :=
  shrinks_bind (shrinks_bind (shrinks_take faults 4) fun _ => shrinks_pure _)
    fun _ => shrinks_pure _

end Readers

/-! ### The loop -/

/-- Read attributes until the input ends, or in front of a byte that `stop` accepts. -/
def attributes (stop : UInt8 → Bool) (body : UInt8 → α → Reader ε α)
    (hbody : ∀ key a, Shrinks (body key a)) (a : α) (bytes : List UInt8) :
    Except ε α × List UInt8 :=
  match bytes with
  | [] => (.ok a, [])
  | key :: rest =>
    if stop key then (.ok a, key :: rest)
    else
      match _hrun : body key a rest with
      | (.ok next, behind) => attributes stop body hbody next behind
      | (.error e, behind) => (.error e, behind)
termination_by bytes.length
decreasing_by
  have hless := hbody key a rest
  rw [_hrun] at hless
  exact Nat.lt_succ_of_le hless

@[simp] theorem shrinks_attributes (stop : UInt8 → Bool) (body : UInt8 → α → Reader ε α)
    (hbody : ∀ key a, Shrinks (body key a)) (a : α) :
    Shrinks (attributes stop body hbody a : Reader ε α) := by
  intro bytes
  induction hlength : bytes.length using Nat.strong_induction_on generalizing a bytes with
  | _ n ih =>
    cases bytes with
    | nil =>
      rw [attributes]
      exact le_of_eq hlength
    | cons key rest =>
      rw [attributes]
      split
      · exact le_of_eq hlength
      · have hless := hbody key a rest
        rcases hrun : body key a rest with ⟨result, behind⟩
        rw [hrun] at hless
        rw [List.length_cons] at hlength
        have hbehind : behind.length ≤ rest.length := hless
        cases result with
        | ok a' =>
          have hrest := ih behind.length (by omega) a' behind rfl
          exact le_trans hrest (by omega)
        | error e => 
          show behind.length ≤ n
          omega

end ByteCodec
