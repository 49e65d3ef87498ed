import Mathlib

/-!
# Numbers as text in a base

A number is written in a base of at most sixteen, with zeros in front up to a width, and read back
with a bound on the result.

* `digitsValue_toDigits` — the digits of a number have its value;
* `parse_print` — **what is written is read back**.
-/

namespace Radix

/-- The value of a digit, of either case. -/
def digitOf (base : ℕ) (c : Char) : Option ℕ :=
  let value :=
    if 48 ≤ c.toNat ∧ c.toNat ≤ 57 then some (c.toNat - 48)
    else if 97 ≤ c.toNat ∧ c.toNat ≤ 122 then some (c.toNat - 87)
    else if 65 ≤ c.toNat ∧ c.toNat ≤ 90 then some (c.toNat - 55)
    else none
  value.filter (· < base)

def digitsValue (base value : ℕ) (text : List Char) : Option ℕ :=
  text.foldlM (fun value c => (digitOf base c).map (value * base + ·)) value

def print (base width n : ℕ) : List Char := (Nat.toDigits base n).leftpad width '0'

/-- Digits, with a plus sign in front or without. -/
def parse (base bound : ℕ) (text : List Char) : Option ℕ :=
  let digits := match text with
    | '+' :: rest => rest
    | text => text
  if digits = [] then none else (digitsValue base 0 digits).filter (· ≤ bound)

theorem digitOf_digitChar {base d : ℕ} (hbase : base ≤ 16) (h : d < base) :
    digitOf base d.digitChar = some d := by
  have hvalue : ∀ e < 16, digitOf 16 e.digitChar = some e := by decide
  have hsixteen := hvalue d (by omega)
  unfold digitOf at hsixteen ⊢
  rw [Option.filter_eq_some_iff] at hsixteen ⊢
  exact ⟨hsixteen.1, by simpa using h⟩

theorem digitsValue_append (base value : ℕ) (front back : List Char) :
    digitsValue base value (front ++ back) =
      (digitsValue base value front).bind fun value => digitsValue base value back :=
  List.foldlM_append

/-- The digits of a number have its value. -/
theorem digitsValue_toDigits {base : ℕ} (hone : 1 < base) (hbase : base ≤ 16) (n : ℕ) :
    digitsValue base 0 (Nat.toDigits base n) = some n := by
  induction n using Nat.strong_induction_on with
  | _ n ih =>
    by_cases hsmall : n < base
    · rw [Nat.toDigits_of_lt_base hsmall]
      simp [digitsValue, digitOf_digitChar hbase hsmall]
    · rw [Nat.toDigits_of_base_le hone (not_lt.mp hsmall), digitsValue_append,
        ih (n / base) (Nat.div_lt_self (by omega) hone)]
      have hlast := digitOf_digitChar hbase (Nat.mod_lt n (by omega : 0 < base))
      have hsplit : n / base * base + n % base = n := by
        rw [Nat.mul_comm]
        exact Nat.div_add_mod n base
      simp [digitsValue, hlast, hsplit]

/-- Zeros in front do not count. -/
theorem digitsValue_replicate {base : ℕ} (hone : 1 < base) (k : ℕ) :
    digitsValue base 0 (List.replicate k '0') = some 0 := by
  have hzero : digitOf base '0' = some 0 := by
    simp only [digitOf, Option.filter_eq_some_iff]
    exact ⟨by decide, by simpa using Nat.lt_of_succ_lt hone⟩
  induction k with
  | zero => rfl
  | succ k ih =>
    unfold digitsValue at ih ⊢
    rw [List.replicate_succ, List.foldlM_cons, hzero]
    simpa using ih

theorem digitsValue_print {base : ℕ} (hone : 1 < base) (hbase : base ≤ 16) (width n : ℕ) :
    digitsValue base 0 (print base width n) = some n := by
  unfold print List.leftpad
  rw [digitsValue_append, digitsValue_replicate hone]
  exact digitsValue_toDigits hone hbase n

/-- **What is written is read back.** -/
theorem parse_print {base bound n : ℕ} (hone : 1 < base) (hbase : base ≤ 16) (width : ℕ)
    (hn : n ≤ bound) : parse base bound (print base width n) = some n := by
  have hvalue := digitsValue_print hone hbase width n
  have hplain : (match print base width n with
      | '+' :: rest => rest
      | text => text) = print base width n := by
    split
    · next rest heq =>
      -- a plus sign is no digit
      rw [heq] at hvalue
      simp [digitsValue, digitOf] at hvalue
    · rfl
  have hdigits : print base width n ≠ [] := by
    unfold print List.leftpad
    intro hnil
    exact Nat.toDigits_ne_nil (List.append_eq_nil_iff.mp hnil).2
  unfold parse
  simp only [hplain, if_neg hdigits, hvalue]
  simpa using hn

end Radix
