import TimestreamOdbc.Ignite.Powers
import TimestreamOdbc.Lib.Decimal
import TimestreamOdbc.Utils

/-!
# Big integers as texts

The output operator of `big_integer.h`, which divides by `10 ^ 19` until nothing is left and writes the
remainders from the last one on.  The divisor has two words, so that no estimate of a digit is too large
and the text is that of the number.
-/

namespace TimestreamOdbc

namespace BigInteger

open LongDivision

/-! ## Writing -/

/-- `maxUintTenPower`. -/
def maxUintTenPower : BigInteger := ofUint64 (10 ^ 19)

/-- A sign below 0 is reversed. -/
def positive (x : BigInteger) : BigInteger := { x with sign := if x.sign < 0 then -x.sign else x.sign }

/-- `ToInt64` of a remainder, cast to 64 bits without a sign. -/
def toUint64 (x : BigInteger) : ℕ := (x.toInt64 % 2 ^ 64).toNat

/-- The loop of the output operator: the remainders, the first one first.  It gives nothing when the
loop does not end within its fuel. -/
def remainders : ℕ → BigInteger → Option (List ℕ)
  | 0, _ => none
  | fuel + 1, left =>
    if left.mag = [] then some []
    else
      (divideValues left maxUintTenPower).bind fun r =>
        (remainders fuel r.1).map (r.2.toUint64 :: ·)

/-- A number in a field of a width that is filled with zeros. -/
def filled (width n : ℕ) : Text :=
  List.replicate (width - (Nat.toDigits 10 n).length) '0' ++ Nat.toDigits 10 n

/-- The remainders as the text writes them: the last one as it is, and the others with 19 digits. -/
def remaindersText (vals : List ℕ) : Text :=
  match vals.reverse with
  | [] => []
  | last :: rest => Nat.toDigits 10 last ++ rest.flatMap (filled 19)

/-- The output operator.  The first division is made before the loop, and its results lose their signs. -/
def write (val : BigInteger) : Option Text :=
  if val.mag = [] then some ['0']
  else
    (divideValues val maxUintTenPower).bind fun r =>
      (remainders (r.1.positive.magnitude + 1) r.1.positive).map fun vals =>
        (if val.sign < 0 then ['-'] else []) ++ remaindersText (r.2.positive.toUint64 :: vals)

/-! ## The text of a number -/

/-- The divisor. -/
lemma maxUintTenPower_spec :
    maxUintTenPower.WellFormed ∧ maxUintTenPower.sign = 1 ∧
      maxUintTenPower.magnitude = 10 ^ 19 :=
  ofUint64_spec (by decide)

/-- The estimates of a divisor of two words are exact. -/
lemma estimatesExact_of_length_eq_two {u v : List ℕ} (hv : Canonical (2 ^ 32) v)
    (h : v.length = 2) : EstimatesExact u v := by
  intro i _
  have hne : v ≠ [] := List.length_pos_iff.mp (by omega)
  have hpos : 0 < Nat.ofDigits (2 ^ 32) v * 2 ^ divisorShift v :=
    Nat.mul_pos (Nat.pos_of_ne_zero fun hzero =>
      hne ((hv.ofDigits_eq_zero_iff (by decide)).mp hzero)) (Nat.pow_pos (by decide))
  rw [ExactAt, h]
  exact estimate_two (dividendWindow_lt (by decide) hpos _ i)

/-- Every quotient by `10 ^ 19` is right. -/
lemma quotientCondition_maxUintTenPower (a : BigInteger) : QuotientCondition a maxUintTenPower :=
  .inr (.inr ⟨by decide, .inr ⟨by decide,
    estimatesExact_of_length_eq_two maxUintTenPower_spec.1.canonical rfl⟩⟩)

/-- A number that is not negative gets the sign 1. -/
lemma ofInt64_sign (n : ℕ) : (ofInt64 n).sign = 1 := by
  rw [ofInt64, if_neg (by omega), ofUint64]
  split_ifs <;> rfl

/-- Numbers of the sign 1 have a quotient and a remainder of it. -/
lemma divideValues_sign {a d q r : BigInteger} (ha : a.sign = 1) (hd : d.sign = 1)
    (h : divideValues a d = some (q, r)) : q.sign = 1 ∧ r.sign = 1 := by
  have hone : a.sign * d.sign = 1 := by rw [ha, hd, Int.mul_one]
  have hzero : (ofInt64 0).sign = 1 := ofInt64_sign 0
  rw [divideValues, hone] at h
  split_ifs at h
  · cases h
    exact ⟨ofInt64_sign 1, hzero⟩
  · cases h
    exact ⟨hzero, ha⟩
  · cases h
    exact ⟨rfl, hzero⟩
  · cases h
    rw [Int.one_mul, Int.one_mul]
    exact ⟨ofInt64_sign _, ofInt64_sign _⟩
  · obtain ⟨r', -, heq⟩ := Option.map_eq_some_iff.mp h
    cases heq
    exact ⟨rfl, rfl⟩

/-- A number of 64 bits is read back. -/
lemma toUint64_eq {x : BigInteger} (h : x.WellFormed) (hsign : x.sign = 1)
    (hlt : x.magnitude < 2 ^ 64) : x.toUint64 = x.magnitude := by
  have hlength : x.mag.length ≤ 2 := by
    by_contra hlong
    have hpow := h.canonical.pow_le_ofDigits (by decide) (List.length_pos_iff.mp (by omega))
    have hle : (2 ^ 32) ^ 2 ≤ (2 ^ 32) ^ (x.mag.length - 1) :=
      Nat.pow_le_pow_right (by decide) (by omega)
    exact absurd hlt (not_lt.mpr ((show 2 ^ 64 = (2 ^ 32) ^ 2 by decide).trans_le (hle.trans hpow)))
  have hword (n : ℕ) : x.getMagInt n = x.mag.getD n 0 := by
    rw [getMagInt, List.getD_eq_getElem?_getD, hsign]
    cases hn : x.mag[n]? with
    | none => rfl
    | some w =>
      have hw := h.canonical.lt w (List.mem_of_getElem? hn)
      simp only [Option.getD_some]
      omega
  have hwords : x.getMagInt 1 <<< 32 ||| x.getMagInt 0 = x.magnitude := by
    rw [hword, hword, Nat.or_comm]
    exact lowWords_eq h.canonical.lt hlength
  have hemod : x.toInt64 % 2 ^ 64 = x.magnitude % 2 ^ 64 := by
    unfold toInt64
    simp only [hwords]
    exact Int.bmod_emod
  rw [toUint64, hemod]
  omega

section Divided

variable {a : BigInteger} (ha : a.WellFormed)

include ha

/-- The magnitudes of the quotient by `10 ^ 19` and of the remainder. -/
lemma divideValues_maxUintTenPower :
    ∃ q r, divideValues a maxUintTenPower = some (q, r) ∧ q.WellFormed ∧ r.WellFormed ∧
      q.magnitude = a.magnitude / 10 ^ 19 ∧ r.magnitude = a.magnitude % 10 ^ 19 := by
  obtain ⟨hd, hsign, hmag⟩ := maxUintTenPower_spec
  obtain ⟨q, r, hrun, hq, hr, hqvalue, hrvalue⟩ :=
    divideValues_eq_some ha hd (by decide) (quotientCondition_maxUintTenPower a)
  have hone : a.sign.natAbs = 1 := by rcases ha.sign with h | h <;> rw [h] <;> rfl
  rw [ha.tdiv_eq hd, hsign, hmag, Int.mul_one] at hqvalue
  rw [hsign, hmag, Int.mul_one, ite_self] at hrvalue
  refine ⟨q, r, hrun, hq, hr, ?_, ?_⟩
  · rw [← hq.natAbs_value, hqvalue, Int.natAbs_mul, hone, Nat.one_mul, Int.natAbs_natCast]
  · rw [← hr.natAbs_value, hrvalue, Int.natAbs_mul, hone, Nat.one_mul, Int.natAbs_natCast]

/-- The sign of a number is taken off. -/
lemma positive_spec :
    a.positive.WellFormed ∧ a.positive.sign = 1 ∧ a.positive.magnitude = a.magnitude := by
  have hsign : a.positive.sign = 1 := by
    rcases ha.sign with h | h <;> simp [positive, h]
  exact ⟨⟨.inl hsign, ha.canonical⟩, hsign, rfl⟩

/-- A remainder is read as it is. -/
lemma toUint64_positive (hlt : a.magnitude < 10 ^ 19) : a.positive.toUint64 = a.magnitude := by
  obtain ⟨hwell, hsign, hmag⟩ := positive_spec ha
  rw [toUint64_eq hwell hsign (by rw [hmag]; exact hlt.trans (by decide)), hmag]

/-- The loop finds the digits to the base `10 ^ 19`. -/
lemma remainders_eq (hsign : a.sign = 1) {fuel : ℕ} (hfuel : a.magnitude < fuel) :
    remainders fuel a = some (Nat.digits (10 ^ 19) a.magnitude) := by
  induction fuel generalizing a with
  | zero => omega
  | succ fuel ih =>
    rw [remainders]
    split
    · next hempty =>
      rw [magnitude, hempty, Nat.ofDigits_nil, Nat.digits_zero]
    · next hne =>
      have hpos := ha.magnitude_pos hne
      obtain ⟨q, r, hrun, hq, hr, hqmag, hrmag⟩ := divideValues_maxUintTenPower ha
      obtain ⟨hqsign, hrsign⟩ := divideValues_sign hsign maxUintTenPower_spec.2.1 hrun
      have hlt : r.magnitude < 10 ^ 19 := hrmag ▸ Nat.mod_lt _ (by decide)
      have hless : q.magnitude < fuel := by
        have := Nat.div_lt_self hpos (show 1 < 10 ^ 19 by decide)
        omega
      rw [hrun, Option.bind_some, ih hq hqsign hless, Option.map_some,
        toUint64_eq hr hrsign (hlt.trans (by decide)), hqmag, hrmag,
        ← Nat.digits_def' (by decide) hpos]

end Divided

/-- A remainder is written with its 19 digits. -/
lemma filled_eq {n : ℕ} (h : n < 10 ^ 19) : filled 19 n = Decimal.padded 19 n :=
  Decimal.replicate_append_toDigits (by decide) h

/-- The remainders are written as the digits of the number. -/
lemma remaindersText_digits {n : ℕ} (hpos : 0 < n) :
    remaindersText (Nat.digits (10 ^ 19) n) = Nat.toDigits 10 n := by
  induction n using Nat.strongRecOn with
  | ind n ih =>
    rcases Nat.lt_or_ge n (10 ^ 19) with hlt | hge
    · rw [Nat.digits_of_lt _ _ hpos.ne' hlt, remaindersText]
      simp
    · have hdiv : 0 < n / 10 ^ 19 := Nat.div_pos hge (by decide)
      have ih := ih (n / 10 ^ 19) (Nat.div_lt_self hpos (by decide)) hdiv
      have hne : Nat.digits (10 ^ 19) (n / 10 ^ 19) ≠ [] :=
        Nat.digits_ne_nil_iff_ne_zero.mpr hdiv.ne'
      rw [Nat.digits_def' (by decide) hpos]
      rw [remaindersText] at ih ⊢
      rw [List.reverse_cons]
      cases hreverse : (Nat.digits (10 ^ 19) (n / 10 ^ 19)).reverse with
      | nil => exact absurd (List.reverse_eq_nil_iff.mp hreverse) hne
      | cons last rest =>
        rw [hreverse] at ih
        simp only [List.cons_append, List.flatMap_append, List.flatMap_singleton] at ih ⊢
        rw [← List.append_assoc, ih, filled_eq (Nat.mod_lt n (by decide)), Decimal.padded_mod,
          Decimal.toDigits_div_append_padded hge]

/-- A big integer is written as its sign and the decimal digits of its magnitude. -/
lemma write_eq {a : BigInteger} (ha : a.WellFormed) (hne : a.mag ≠ []) :
    a.write = some ((if a.sign < 0 then ['-'] else []) ++ Nat.toDigits 10 a.magnitude) := by
  have hpos := ha.magnitude_pos hne
  obtain ⟨q, r, hrun, hq, hr, hqmag, hrmag⟩ := divideValues_maxUintTenPower ha
  obtain ⟨hwell, hsign, hmag⟩ := positive_spec hq
  rw [write, if_neg hne, hrun, Option.bind_some,
    remainders_eq hwell hsign (Nat.lt_succ_self _), Option.map_some,
    toUint64_positive hr (hrmag ▸ Nat.mod_lt _ (by decide)), hmag, hqmag, hrmag,
    ← Nat.digits_def' (by decide) hpos, remaindersText_digits hpos]

end BigInteger

end TimestreamOdbc
