import Mathlib.Data.Nat.Notation
import Mathlib.Data.List.TakeWhile
import Mathlib.Tactic.Common
import Mathlib.Algebra.Group.Nat.Defs

/-!
# Decimal numbers of a fixed width

A number written with a fixed number of digits, as the fields of a date are, and the digits that a
reader takes from the beginning of a text.
-/

namespace Decimal

/-! ## Writing -/

/-- The last `width` decimal digits of a number. -/
def padded : ℕ → ℕ → List Char
  | 0, _ => []
  | width + 1, n => padded width (n / 10) ++ [Nat.digitChar (n % 10)]

@[simp] lemma padded_zero_right (width : ℕ) : padded width 0 = List.replicate width '0' := by
  induction width with
  | zero => rfl
  | succ width ih =>
    rw [padded, Nat.zero_div, ih, List.replicate_succ']
    rfl

@[simp] lemma length_padded (width n : ℕ) : (padded width n).length = width := by
  induction width generalizing n with
  | zero => rfl
  | succ width ih => rw [padded, List.length_append, ih, List.length_singleton]

lemma isDigit_of_mem_padded {width n : ℕ} {c : Char} (h : c ∈ padded width n) :
    c.isDigit = true := by
  induction width generalizing n with
  | zero => cases h
  | succ width ih =>
    rw [padded, List.mem_append, List.mem_singleton] at h
    rcases h with h | rfl
    · exact ih h
    · rw [Nat.isDigit_digitChar, decide_eq_true_eq]
      exact Nat.mod_lt n (by decide)

/-- The digits of a number that is not too wide, with zeros in front. -/
lemma replicate_append_toDigits {width n : ℕ} (hpos : 0 < width) (h : n < 10 ^ width) :
    List.replicate (width - (Nat.toDigits 10 n).length) '0' ++ Nat.toDigits 10 n =
      padded width n := by
  induction width generalizing n with
  | zero => omega
  | succ width ih =>
    by_cases hn : n < 10
    · rw [padded, Nat.div_eq_of_lt hn, padded_zero_right, Nat.mod_eq_of_lt hn,
        Nat.toDigits_of_lt_base hn]
      rfl
    · have hten : 10 ≤ n := by omega
      have hwidth : 0 < width := by
        rcases Nat.eq_zero_or_pos width with rfl | hwidth
        · omega
        · exact hwidth
      have hdiv : n / 10 < 10 ^ width := by
        rw [Nat.pow_succ] at h
        omega
      rw [padded, ← ih hwidth hdiv, Nat.toDigits_of_base_le (by decide) hten, List.length_append,
        List.length_singleton, Nat.add_sub_add_right, List.append_assoc]

/-- The digits behind a place are those of the remainder. -/
lemma padded_mod (width n : ℕ) : padded width (n % 10 ^ width) = padded width n := by
  induction width generalizing n with
  | zero => rfl
  | succ width ih =>
    have hdiv : n % 10 ^ (width + 1) / 10 = n / 10 % 10 ^ width := by
      rw [Nat.pow_succ', Nat.mod_mul_right_div_self]
    have hmod : n % 10 ^ (width + 1) % 10 = n % 10 := by
      rw [Nat.pow_succ', Nat.mod_mul_right_mod]
    rw [padded, padded, hdiv, hmod, ih]

/-- The digits in front of a place are those of the quotient. -/
lemma toDigits_div_append_padded {width n : ℕ} (h : 10 ^ width ≤ n) :
    Nat.toDigits 10 (n / 10 ^ width) ++ padded width n = Nat.toDigits 10 n := by
  induction width generalizing n with
  | zero => rw [Nat.pow_zero, Nat.div_one, padded, List.append_nil]
  | succ width ih =>
    rw [Nat.pow_succ'] at h
    have hten : 10 ≤ n := (Nat.le_mul_of_pos_right 10 (Nat.pow_pos (by decide))).trans h
    rw [padded, Nat.pow_succ', ← Nat.div_div_eq_div_mul, ← List.append_assoc,
      ih ((Nat.le_div_iff_mul_le (by decide)).mpr (by rwa [Nat.mul_comm])),
      ← Nat.toDigits_of_base_le (by decide) hten]

/-- Digits of a fixed width denote the number they were made of. -/
lemma ofDigitChars_padded {width n : ℕ} (h : n < 10 ^ width) :
    Nat.ofDigitChars 10 (padded width n) 0 = n := by
  rcases Nat.eq_zero_or_pos width with rfl | hpos
  · have : n = 0 := by omega
    subst this
    rfl
  · rw [← replicate_append_toDigits hpos h, Nat.ofDigitChars_append,
      Nat.ofDigitChars_replicate_zero, Nat.mul_zero, Nat.ofDigitChars_ten_toDigits]

/-! ## Reading -/

/-- Taking digits stops before a text that does not go on with one. -/
lemma takeWhile_isDigit_append {digits rest : List Char} (hdigits : ∀ c ∈ digits, c.isDigit = true)
    (hrest : ∀ c ∈ rest.head?, c.isDigit = false) :
    (digits ++ rest).takeWhile Char.isDigit = digits := by
  rw [List.takeWhile_append_of_pos hdigits]
  cases rest with
  | nil => simp
  | cons c rest =>
    have hc : ¬ c.isDigit = true := by simp [hrest c rfl]
    rw [List.takeWhile_cons_of_neg hc, List.append_nil]

/-- Without its last digits a number is a tenth at most. -/
lemma ofDigitChars_take_le {digits : List Char} {k : ℕ} (h : k < digits.length) :
    10 * Nat.ofDigitChars 10 (digits.take k) 0 ≤ Nat.ofDigitChars 10 digits 0 := by
  have hpow : 10 ≤ 10 ^ (digits.drop k).length := by
    apply Nat.le_self_pow
    rw [List.length_drop]
    omega
  calc 10 * Nat.ofDigitChars 10 (digits.take k) 0
      ≤ 10 ^ (digits.drop k).length * Nat.ofDigitChars 10 (digits.take k) 0 :=
        Nat.mul_le_mul_right _ hpow
    _ ≤ Nat.ofDigitChars 10 (digits.drop k) (Nat.ofDigitChars 10 (digits.take k) 0) := by
        rw [@Nat.ofDigitChars_eq_ofDigitChars_zero (digits.drop k)]
        exact Nat.le_add_right _ _
    _ = Nat.ofDigitChars 10 digits 0 := by rw [← Nat.ofDigitChars_append, List.take_append_drop]

end Decimal
