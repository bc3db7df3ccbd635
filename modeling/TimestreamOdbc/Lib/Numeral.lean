import TimestreamOdbc.Lib.Decimal
import Mathlib.Algebra.Field.Rat
import Mathlib.Algebra.Order.Ring.Unbundled.Rat
import Mathlib.Tactic.FieldSimp
import Mathlib.Tactic.Ring

/-!
# Decimal numerals

A numeral is a sign, digits, a point with more digits, and an exponent; all but the first digits can be
missing.  It denotes a rational number.
-/

/-! ## Digits around a point -/

namespace Decimal

/-- The number denoted by the digits in front of a point and those behind it. -/
def pointValue (whole fraction : List Char) : ℚ :=
  Nat.ofDigitChars 10 whole 0 + Nat.ofDigitChars 10 fraction 0 / 10 ^ fraction.length

/-- Without the point the digits denote the number times a power of ten. -/
lemma pointValue_eq (whole fraction : List Char) :
    pointValue whole fraction =
      Nat.ofDigitChars 10 (whole ++ fraction) 0 / 10 ^ fraction.length := by
  rw [pointValue, Nat.ofDigitChars_append,
    @Nat.ofDigitChars_eq_ofDigitChars_zero fraction (Nat.ofDigitChars 10 whole 0)]
  have hpow : (10 : ℚ) ^ fraction.length ≠ 0 := pow_ne_zero _ (by norm_num)
  push_cast
  field_simp

/-- Zeros behind the last digit of a fraction do not change the number. -/
lemma pointValue_append_zeros (whole fraction : List Char) (zeros : ℕ) :
    pointValue whole (fraction ++ List.replicate zeros '0') = pointValue whole fraction := by
  have hpow (n : ℕ) : (10 : ℚ) ^ n ≠ 0 := pow_ne_zero _ (by norm_num)
  rw [pointValue, pointValue, Nat.ofDigitChars_append, Nat.ofDigitChars_replicate_zero,
    List.length_append, List.length_replicate, pow_add]
  push_cast
  field_simp

end Decimal

/-! ## Numerals -/

namespace Numeral

/-- What can stand in front of digits. -/
inductive Sign where
  | none
  | plus
  | minus
  deriving DecidableEq, Repr

/-- The text of a sign. -/
def Sign.text : Sign → List Char
  | .none => []
  | .plus => ['+']
  | .minus => ['-']

/-- What a sign does to a number. -/
def Sign.factor : Sign → ℤ
  | .none => 1
  | .plus => 1
  | .minus => -1

/-- An exponent. -/
structure Exponent where
  mark : Char
  sign : Sign
  digits : List Char
  isMark : mark = 'e' ∨ mark = 'E'
  isDigit : ∀ c ∈ digits, c.isDigit = true

/-- The text of an exponent. -/
def Exponent.text (e : Exponent) : List Char := e.mark :: e.sign.text ++ e.digits

/-- The number denoted by an exponent. -/
def Exponent.value (e : Exponent) : ℤ := e.sign.factor * Nat.ofDigitChars 10 e.digits 0

end Numeral

/-- A decimal numeral. -/
structure Numeral where
  sign : Numeral.Sign
  whole : List Char
  fraction : Option (List Char)
  exponent : Option Numeral.Exponent
  isDigit : ∀ c ∈ whole ++ fraction.getD [], c.isDigit = true

namespace Numeral

/-- The text behind the sign. -/
def unsigned (n : Numeral) : List Char :=
  n.whole ++ (n.fraction.elim [] ('.' :: ·) ++ n.exponent.elim [] Exponent.text)

/-- The text of a numeral. -/
def text (n : Numeral) : List Char := n.sign.text ++ n.unsigned

/-- The exponent, which is 0 when it is missing. -/
def exponentValue (n : Numeral) : ℤ := n.exponent.elim 0 Exponent.value

/-- The number denoted by a numeral. -/
def value (n : Numeral) : ℚ :=
  n.sign.factor * Decimal.pointValue n.whole (n.fraction.getD []) * 10 ^ n.exponentValue

/-- Behind the sign there is a digit, a point or the mark of an exponent. -/
lemma head_unsigned (n : Numeral) {c : Char} (h : c ∈ n.unsigned.head?) :
    c.isDigit = true ∨ c = '.' ∨ c = 'e' ∨ c = 'E' := by
  have hdigit := n.isDigit
  rw [unsigned] at h
  cases hwhole : n.whole with
  | cons d whole =>
    rw [hwhole] at h hdigit
    obtain rfl : d = c := by simpa using h
    exact .inl (hdigit d (by simp))
  | nil =>
    rw [hwhole] at h
    cases hfraction : n.fraction with
    | some fraction =>
      rw [hfraction] at h
      exact .inr (.inl (by simpa using h.symm))
    | none =>
      rw [hfraction] at h
      cases hexponent : n.exponent with
      | none => simp [hexponent] at h
      | some e =>
        rw [hexponent] at h
        obtain rfl : e.mark = c := by simpa [Exponent.text] using h
        exact .inr (.inr e.isMark)

/-- The number of a numeral as an integer times a power of ten. -/
lemma value_eq (n : Numeral) :
    n.value = (n.sign.factor * Nat.ofDigitChars 10 (n.whole ++ n.fraction.getD []) 0 : ℤ) *
      10 ^ (n.exponentValue - (n.fraction.getD []).length) := by
  rw [value, Decimal.pointValue_eq, zpow_sub₀ (by norm_num), zpow_natCast]
  push_cast
  ring

/-- A numeral without an exponent denotes its digits. -/
lemma value_of_exponent_eq_none {n : Numeral} (h : n.exponent = none) {fraction : List Char}
    (hfraction : n.fraction.getD [] = fraction) :
    n.value = n.sign.factor * Decimal.pointValue n.whole fraction := by
  rw [value, exponentValue, h, hfraction, Option.elim_none, zpow_zero, mul_one]

end Numeral
