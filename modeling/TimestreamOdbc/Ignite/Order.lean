import TimestreamOdbc.Ignite.Decimal
import Mathlib.Algebra.Order.Ring.Rat

/-!
# Comparison of big integers and decimals

`Compare` of both classes, on which their relational operators rest.  A zero of a big integer can have
the sign -1, which the comparison of big integers sees and that of decimals does not.
-/

namespace TimestreamOdbc

/-! ## Three-way comparison -/

section ThreeWay

variable {α β : Type} [LinearOrder α] [LinearOrder β]

/-- The result of a comparison: -1, 0 or 1. -/
def threeWay (a b : α) : ℤ := if a < b then -1 else if b < a then 1 else 0

/-- It does not see a strictly monotone function. -/
lemma threeWay_of_strictMono {f : α → β} (hf : StrictMono f) (a b : α) :
    threeWay (f a) (f b) = threeWay a b := by
  simp only [threeWay, hf.lt_iff_lt]

/-- A strictly antitone one turns it around. -/
lemma threeWay_of_strictAnti {f : α → β} (hf : StrictAnti f) (a b : α) :
    threeWay (f a) (f b) = -threeWay a b := by
  simp only [threeWay, hf.lt_iff_gt]
  rcases lt_trichotomy a b with h | rfl | h
  · rw [if_neg h.not_gt, if_pos h, if_pos h]
    rfl
  · simp
  · rw [if_pos h, if_neg h.not_gt, if_pos h]

lemma threeWay_of_lt {a b : α} (h : a < b) : threeWay a b = -1 := if_pos h

lemma threeWay_of_gt {a b : α} (h : b < a) : threeWay a b = 1 := by
  rw [threeWay, if_neg h.not_gt, if_pos h]

lemma threeWay_self (a : α) : threeWay a a = 0 := by simp [threeWay]

end ThreeWay

namespace BigInteger

/-! ## Big integers -/

/-- `Compare`. What it returns for a greater magnitude is the sign, unless that is ignored. -/
def compare (x other : BigInteger) (ignoreSign : Bool) : ℤ :=
  if !ignoreSign ∧ x.sign ≠ other.sign then (if other.sign < x.sign then 1 else -1)
  else (if ignoreSign then 1 else x.sign) * compareMagnitude x.mag other.mag

section Compare

variable {x y : BigInteger}

/-- Magnitudes are compared as numbers. -/
lemma compareMagnitude_eq (hx : x.WellFormed) (hy : y.WellFormed) :
    compareMagnitude x.mag y.mag = threeWay x.magnitude y.magnitude := by
  rw [compareMagnitude_spec hx.canonical hy.canonical]
  change (if x.magnitude = y.magnitude then 0 else if y.magnitude < x.magnitude then 1 else -1) = _
  rcases lt_trichotomy x.magnitude y.magnitude with h | h | h
  · rw [if_neg h.ne, if_neg h.not_gt, threeWay_of_lt h]
  · rw [if_pos h, h, threeWay_self]
  · rw [if_neg h.ne', if_pos h, threeWay_of_gt h]

/-- A magnitude is empty when the number is 0. -/
lemma mag_eq_nil_iff (hx : x.WellFormed) : x.mag = [] ↔ x.magnitude = 0 :=
  (hx.canonical.ofDigits_eq_zero_iff (by decide)).symm

/-- Of two numbers that are not both zero, the comparison is that of the integers. -/
lemma compare_eq (hx : x.WellFormed) (hy : y.WellFormed)
    (hzero : x.mag = [] → y.mag = [] → x.sign = y.sign) :
    x.compare y false = threeWay x.value y.value := by
  have hmagnitude := compareMagnitude_eq hx hy
  unfold compare
  rw [mag_eq_nil_iff hx, mag_eq_nil_iff hy] at hzero
  rcases hx.sign with hsign | hsign <;> rcases hy.sign with hsign' | hsign' <;>
    simp only [hsign, hsign', value, hmagnitude, Bool.not_false, true_and, ne_eq, not_true_eq_false,
      Bool.false_eq_true, if_false, Int.one_mul, Int.neg_one_mul] at hzero ⊢
  · exact (threeWay_of_strictMono Nat.strictMono_cast _ _).symm
  · rw [if_pos (by decide), if_pos (by decide), threeWay_of_gt]
    by_contra hle
    exact absurd (hzero (by omega) (by omega)) (by decide)
  · rw [if_pos (by decide), if_neg (by decide), threeWay_of_lt]
    by_contra hle
    exact absurd (hzero (by omega) (by omega)) (by decide)
  · have hanti : StrictAnti fun n : ℕ => -(n : ℤ) := fun a b h => by
      simpa using h
    exact (threeWay_of_strictAnti hanti _ _).symm

/-- The comparison is that of the integers, unless both are zero and their signs differ. -/
lemma compare_eq_iff (hx : x.WellFormed) (hy : y.WellFormed) :
    x.compare y false = threeWay x.value y.value ↔ (x.mag = [] → y.mag = [] → x.sign = y.sign) := by
  refine ⟨fun h hnil hnil' => ?_, compare_eq hx hy⟩
  by_contra hne
  have hvalue : x.value = y.value := by
    rw [value, value, (mag_eq_nil_iff hx).mp hnil, (mag_eq_nil_iff hy).mp hnil']
    simp
  rw [hvalue, threeWay_self, compare, if_pos ⟨rfl, hne⟩] at h
  split at h <;> cases h

end Compare

end BigInteger

namespace Ignite.Decimal

/-! ## Decimals -/

/-- `IsZero`. -/
def isZero (d : Decimal) : Bool := d.magnitude.mag = []

/-- `Compare`: the decimal of the lower scale is scaled to the other one. -/
def compare (d other : Decimal) : Option ℤ :=
  if d.isZero ∧ other.isZero then some 0
  else if d.scale = other.scale then some (d.magnitude.compare other.magnitude false)
  else if other.scale < d.scale then
    (other.setScale d.scale zero).map fun scaled => d.magnitude.compare scaled.magnitude false
  else
    (d.setScale other.scale zero).map fun scaled => scaled.magnitude.compare other.magnitude false

section Compare

variable {d other : Decimal}

/-- A decimal is scaled up if the difference of the scales has 32 bits. -/
lemma setScale_of_lt {newScale : ℤ} (h : d.scale < newScale) (res : Decimal) :
    d.setScale newScale res =
      if newScale - d.scale < 2 ^ 31 then
        some ⟨newScale, d.magnitude.multiply (tenPower (newScale - d.scale).toNat)⟩
      else none := by
  have hpower := getPowerOfTen_eq (newScale - d.scale).toNat
  rw [Int.toNat_of_nonneg (by omega)] at hpower
  rw [setScale, if_neg h.ne]
  by_cases hfits : newScale - d.scale < 2 ^ 31
  · rw [if_pos hfits, int32Result_eq (by omega) (by omega), Option.bind_some, if_neg (by omega),
      Int.neg_sub, int32Result_eq (by omega) hfits, Option.bind_some, hpower, Option.map_some]
  · rw [if_neg hfits]
    by_cases hlow : newScale - d.scale = 2 ^ 31
    · rw [int32Result_eq (by omega) (by omega), Option.bind_some, if_neg (by omega), Int.neg_sub,
        hlow]
      rfl
    · rw [int32Result, if_neg (by omega)]
      rfl

/-- What a decimal is scaled up to: the same number, zero where it was. -/
lemma scaledUp (h : d.WellFormed) (n : ℕ) :
    (d.magnitude.multiply (tenPower n)).WellFormed ∧
      ((d.magnitude.multiply (tenPower n)).mag = [] ↔ d.isZero) ∧
      d.toRat = (d.magnitude.multiply (tenPower n)).value * 10 ^ (-(d.scale + n)) := by
  obtain ⟨hten, htenmagnitude⟩ := tenPower_spec n
  obtain ⟨hwell, hmagnitude⟩ := BigInteger.multiply_spec h.magnitude hten
  have hpos : 10 ^ n ≠ 0 := pow_ne_zero n (by decide)
  refine ⟨hwell, ?_, ?_⟩
  · rw [BigInteger.mag_eq_nil_iff hwell, hmagnitude, htenmagnitude, isZero, decide_eq_true_eq,
      BigInteger.mag_eq_nil_iff h.magnitude]
    exact mul_eq_zero_iff_right hpos
  · have hvalue : (d.magnitude.multiply (tenPower n)).value = d.magnitude.value * (10 ^ n : ℕ) := by
      rw [BigInteger.value, hmagnitude, htenmagnitude, BigInteger.value, BigInteger.multiply]
      change d.magnitude.sign * 1 * _ = _
      push_cast
      ring
    rw [toRat, hvalue, neg_add, zpow_add₀ (by norm_num), zpow_neg _ (n : ℤ), zpow_natCast]
    push_cast
    field_simp

/-- Integers of one scale are compared as the decimals are. -/
lemma threeWay_scaled (a b : ℤ) (scale : ℤ) :
    threeWay ((a : ℚ) * 10 ^ (-scale)) (b * 10 ^ (-scale)) = threeWay a b := by
  have hpos : (0 : ℚ) < 10 ^ (-scale) := zpow_pos (by norm_num) _
  have hmono : StrictMono fun v : ℤ => (v : ℚ) * 10 ^ (-scale) := fun v w h =>
    mul_lt_mul_of_pos_right (Int.cast_lt.mpr h) hpos
  exact threeWay_of_strictMono hmono a b

/-- The comparison of decimals is that of the numbers they stand for, whatever the signs of their zeros,
exactly when both are zero or the difference of their scales has 32 bits; otherwise it overflows. -/
theorem decimalCompare_iff (hd : d.WellFormed) (hother : other.WellFormed) :
    d.compare other = some (threeWay d.toRat other.toRat) ↔
      (d.isZero ∧ other.isZero) ∨ |d.scale - other.scale| < 2 ^ 31 := by
  have hzero : ∀ {e : Decimal}, e.WellFormed → e.isZero → e.toRat = 0 := by
    intro e he hnil
    rw [isZero, decide_eq_true_eq, BigInteger.mag_eq_nil_iff he.magnitude] at hnil
    rw [toRat, BigInteger.value, hnil]
    simp
  unfold compare
  by_cases hboth : d.isZero ∧ other.isZero
  · rw [if_pos hboth, hzero hd hboth.1, hzero hother hboth.2, threeWay_self]
    exact iff_of_true rfl (.inl hboth)
  rw [if_neg hboth]
  simp only [hboth, false_or]
  rcases lt_trichotomy d.scale other.scale with hlt | heq | hgt
  · obtain ⟨n, hn⟩ := Int.eq_ofNat_of_zero_le (sub_nonneg.mpr hlt.le)
    obtain ⟨hwell, hnil, hrat⟩ := scaledUp hd n
    have hscale : d.scale + n = other.scale := by omega
    have habs : |d.scale - other.scale| = n := by
      rw [abs_sub_comm, hn, Nat.abs_cast]
    rw [if_neg hlt.ne, if_neg hlt.not_gt, setScale_of_lt hlt, habs, hn, Int.toNat_natCast]
    by_cases hfits : (n : ℤ) < 2 ^ 31
    · rw [if_pos hfits, Option.map_some, hrat, hscale, toRat, threeWay_scaled]
      refine iff_of_true (congrArg some (BigInteger.compare_eq hwell hother.magnitude ?_)) hfits
      exact fun h h' => absurd ⟨hnil.mp h, decide_eq_true h'⟩ hboth
    · rw [if_neg hfits]
      exact iff_of_false (by simp) hfits
  · rw [if_pos heq, heq, sub_self, abs_zero, toRat, toRat, heq, threeWay_scaled]
    refine iff_of_true (congrArg some (BigInteger.compare_eq hd.magnitude hother.magnitude ?_))
      (by decide)
    exact fun h h' => absurd ⟨decide_eq_true h, decide_eq_true h'⟩ hboth
  · obtain ⟨n, hn⟩ := Int.eq_ofNat_of_zero_le (sub_nonneg.mpr hgt.le)
    obtain ⟨hwell, hnil, hrat⟩ := scaledUp hother n
    have hscale : other.scale + n = d.scale := by omega
    have habs : |d.scale - other.scale| = n := by
      rw [hn, Nat.abs_cast]
    rw [if_neg hgt.ne', if_pos hgt, setScale_of_lt hgt, habs, hn, Int.toNat_natCast]
    by_cases hfits : (n : ℤ) < 2 ^ 31
    · rw [if_pos hfits, Option.map_some, hrat, hscale, toRat, threeWay_scaled]
      refine iff_of_true (congrArg some (BigInteger.compare_eq hd.magnitude hwell ?_)) hfits
      exact fun h h' => absurd ⟨decide_eq_true h, hnil.mp h'⟩ hboth
    · rw [if_neg hfits]
      exact iff_of_false (by simp) hfits

/-- 1.50 and 1.5 are equal. -/
theorem decimalCompare_trailingZero :
    compare ⟨2, BigInteger.ofInt64 150⟩ ⟨1, BigInteger.ofInt64 15⟩ =
      some (threeWay (toRat ⟨2, BigInteger.ofInt64 150⟩) (toRat ⟨1, BigInteger.ofInt64 15⟩)) :=
  (decimalCompare_iff
    ⟨(BigInteger.ofInt64_spec (show (150 : ℤ).natAbs < 2 ^ 64 by decide)).1, by decide, by decide⟩
    ⟨(BigInteger.ofInt64_spec (show (15 : ℤ).natAbs < 2 ^ 64 by decide)).1, by decide, by decide⟩).mpr
      (.inr (by decide))

end Compare

end Ignite.Decimal

end TimestreamOdbc
