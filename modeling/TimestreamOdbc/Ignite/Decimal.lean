import TimestreamOdbc.Ignite.Bytes
import Mathlib.Data.Rat.Floor

/-!
# Decimals

`Decimal` of `decimal.cpp`: an unscaled integer with a scale of 32 bits.  `SetScale` leaves its result
alone when there is nothing to scale.
-/

namespace TimestreamOdbc.Ignite

/-! ## Numbers -/

/-- A `Decimal`: an integer divided by a power of ten. -/
structure Decimal where
  scale : ℤ
  magnitude : BigInteger
  deriving DecidableEq, Repr

/-- A result in 32 bits. -/
def int32Result (n : ℤ) : Option ℤ := if -2 ^ 31 ≤ n ∧ n < 2 ^ 31 then some n else none

lemma int32Result_eq {n : ℤ} (hle : -2 ^ 31 ≤ n) (hlt : n < 2 ^ 31) : int32Result n = some n :=
  if_pos ⟨hle, hlt⟩

/-- A rational number rounded to 0. -/
def truncate (q : ℚ) : ℤ := if q < 0 then ⌈q⌉ else ⌊q⌋

/-- A fraction is rounded as truncating division does. -/
lemma truncate_div (a : ℤ) {b : ℕ} (hb : 0 < b) : truncate (a / b) = a.tdiv b := by
  have hpos : (0 : ℚ) < b := by exact_mod_cast hb
  have hneg : ((a : ℚ) / b < 0) ↔ a < 0 := by
    rw [div_lt_iff₀ hpos, zero_mul]
    exact Int.cast_lt_zero
  rw [truncate]
  by_cases ha : a < 0
  · rw [if_pos (hneg.mpr ha), Rat.ceil_intCast_div_natCast,
      ← Int.tdiv_eq_ediv_of_nonneg (by omega), Int.neg_tdiv, Int.neg_neg]
  · rw [if_neg (mt hneg.mp ha), Rat.floor_intCast_div_natCast,
      Int.tdiv_eq_ediv_of_nonneg (not_lt.mp ha)]

namespace Decimal

/-- A decimal as its class keeps it, with a scale of 32 bits. -/
structure WellFormed (d : Decimal) : Prop where
  magnitude : d.magnitude.WellFormed
  le_scale : -2 ^ 31 ≤ d.scale
  scale_lt : d.scale < 2 ^ 31

/-- The number of a decimal. -/
def toRat (d : Decimal) : ℚ := d.magnitude.value * 10 ^ (-d.scale)

/-- The integer that is left of a decimal. -/
def trunc (d : Decimal) : ℤ := truncate d.toRat

/-! ## Scaling -/

/-- The decimal of the default constructor. -/
def zero : Decimal := ⟨0, BigInteger.ofInt64 0⟩

/-- `SetScale`.  When the scale is the wanted one the result is not assigned. -/
def setScale (d : Decimal) (newScale : ℤ) (res : Decimal) : Option Decimal :=
  if d.scale = newScale then some res
  else
    (int32Result (d.scale - newScale)).bind fun diff =>
      if 0 < diff then
        (BigInteger.getPowerOfTen diff).bind fun adjustment =>
          (BigInteger.divideValues d.magnitude adjustment).map fun r => ⟨newScale, r.1⟩
      else
        (int32Result (-diff)).bind fun diff =>
          (BigInteger.getPowerOfTen diff).map fun adjustment =>
            ⟨newScale, d.magnitude.multiply adjustment⟩

/-- `ToInt64`. -/
def toInt64 (d : Decimal) : Option ℤ :=
  if d.scale = 0 then some d.magnitude.toInt64
  else (d.setScale 0 zero).map fun zeroScaled => zeroScaled.magnitude.toInt64

/-- A power of ten as a big integer. -/
def tenPower (n : ℕ) : BigInteger := ⟨1, Nat.digits (2 ^ 32) (10 ^ n)⟩

lemma tenPower_spec (n : ℕ) : (tenPower n).WellFormed ∧ (tenPower n).magnitude = 10 ^ n :=
  ⟨⟨.inl rfl, LongDivision.canonical_digits (by decide) _⟩, Nat.ofDigits_digits _ _⟩

lemma tenPower_value (n : ℕ) : (tenPower n).value = (10 ^ n : ℕ) := by
  rw [BigInteger.value, (tenPower_spec n).2]
  exact Int.one_mul _

lemma tenPower_mag_ne (n : ℕ) : (tenPower n).mag ≠ [] := by
  have hpos : 0 < 10 ^ n := Nat.pow_pos (by decide)
  change Nat.digits (2 ^ 32) (10 ^ n) ≠ []
  exact Nat.digits_ne_nil_iff_ne_zero.mpr hpos.ne'

lemma getPowerOfTen_eq (n : ℕ) : BigInteger.getPowerOfTen n = some (tenPower n) := by
  obtain ⟨x, hx, hwell, hsign, hmag⟩ := BigInteger.getPowerOfTen_spec n
  obtain ⟨sign, mag⟩ := x
  obtain rfl : sign = 1 := hsign
  rw [hx, tenPower, ← hmag, BigInteger.magnitude, hwell.canonical.digits_ofDigits (by decide)]

section SetScale

variable {d : Decimal}

/-- Digits behind the point are divided off. -/
lemma setScale_of_pos (h : d.WellFormed) (hscale : 0 < d.scale) :
    d.setScale 0 zero = (BigInteger.divideValues d.magnitude (tenPower d.scale.toNat)).map
      fun r => ⟨0, r.1⟩ := by
  have hdiff : int32Result (d.scale - 0) = some d.scale := by
    rw [Int.sub_zero]
    exact int32Result_eq h.le_scale h.scale_lt
  have hpower := getPowerOfTen_eq d.scale.toNat
  rw [Int.toNat_of_nonneg hscale.le] at hpower
  rw [setScale, if_neg hscale.ne', hdiff, Option.bind_some, if_pos hscale, hpower,
    Option.bind_some]

/-- Zeros that the scale stands for are multiplied in. -/
lemma setScale_of_neg (hle : -2 ^ 31 < d.scale) (hscale : d.scale < 0) :
    d.setScale 0 zero = some ⟨0, d.magnitude.multiply (tenPower (-d.scale).toNat)⟩ := by
  have hdiff : int32Result (d.scale - 0) = some d.scale := by
    rw [Int.sub_zero]
    exact int32Result_eq hle.le (by omega)
  have hpower := getPowerOfTen_eq (-d.scale).toNat
  rw [Int.toNat_of_nonneg (by omega)] at hpower
  rw [setScale, if_neg hscale.ne, hdiff, Option.bind_some, if_neg hscale.not_gt,
    int32Result_eq (by omega) (by omega), Option.bind_some, hpower, Option.map_some]

/-- The lowest scale has no negative. -/
lemma setScale_of_eq (hscale : d.scale = -2 ^ 31) : d.setScale 0 zero = none := by
  rw [setScale, hscale]
  rfl

/-- The integer that is left, by truncating division. -/
lemma trunc_of_pos (hscale : 0 < d.scale) :
    d.trunc = d.magnitude.value.tdiv (10 ^ d.scale.toNat : ℕ) := by
  rw [← truncate_div _ (Nat.pow_pos (by decide)), trunc, toRat, zpow_neg, div_eq_mul_inv,
    Nat.cast_pow, Nat.cast_ofNat, ← zpow_natCast, Int.toNat_of_nonneg hscale.le]

/-- The integer that is there, by multiplication. -/
lemma trunc_of_nonpos (hscale : d.scale ≤ 0) :
    d.trunc = d.magnitude.value * (10 ^ (-d.scale).toNat : ℕ) := by
  have hpow : (10 : ℚ) ^ (-d.scale) = 10 ^ (-d.scale).toNat := by
    rw [← zpow_natCast, Int.toNat_of_nonneg (by omega)]
  have hrat : d.toRat = ((d.magnitude.value * (10 ^ (-d.scale).toNat : ℕ) : ℤ) : ℚ) / (1 : ℕ) := by
    rw [toRat, hpow]
    push_cast
    ring
  rw [trunc, hrat, truncate_div _ Nat.one_pos, Int.natCast_one, Int.tdiv_one]

end SetScale

end Decimal

end TimestreamOdbc.Ignite
