import Mathlib.Data.Nat.Digits.Lemmas
import Mathlib.Data.List.DropRight
import Mathlib.Tactic.Ring
import Mathlib.Tactic.Linarith

/-!
# Long division in a base

Numbers are lists of digits in a base `b`, the lowest one first.  A number has one list of digits
without zeros at its end.

Dividing `A` by `D`, digit after digit from the highest one, keeps two things: the quotient of the part
of `A` that was taken into account, and the remainder of it.  The next digit of the quotient is that of
a window of `A`, the remainder followed by one more digit of `A`, divided by `D`.  It is estimated from
the highest digits of the window and of `D`; the estimate is never too small.
-/

namespace LongDivision

/-! ## Lists of digits -/

/-- The digits are below the base, and the highest one is not 0. -/
structure Canonical (b : ℕ) (l : List ℕ) : Prop where
  lt : ∀ w ∈ l, w < b
  getLast_ne : ∀ h : l ≠ [], l.getLast h ≠ 0

variable {b : ℕ}

/-- The empty list is the one of 0. -/
lemma canonical_nil : Canonical b [] := ⟨by simp, fun h => absurd rfl h⟩

/-- The digits of a number are canonical. -/
lemma canonical_digits (hb : 1 < b) (n : ℕ) : Canonical b (Nat.digits b n) :=
  ⟨fun _ hw => Nat.digits_lt_base hb hw,
    fun hne => Nat.getLast_digit_ne_zero b (Nat.digits_ne_nil_iff_ne_zero.mp hne)⟩

/-- The digit at a place. -/
lemma getElem?_eq {l : List ℕ} (hl : ∀ w ∈ l, w < b) {k : ℕ} (hk : k < l.length) :
    l[k]? = some (Nat.ofDigits b l / b ^ k % b) := by
  have hlt : l[k] < b := hl _ (List.getElem_mem hk)
  have hpos : 0 < b := Nat.zero_lt_of_lt hlt
  rw [List.getElem?_eq_getElem hk, Nat.ofDigits_div_pow_eq_ofDigits_drop k hpos l hl,
    List.drop_eq_getElem_cons hk, Nat.ofDigits_cons, Nat.add_mul_mod_self_left,
    Nat.mod_eq_of_lt hlt]

/-- The digits from a place on are those from the next place on, followed by the digit of the place. -/
lemma div_pow_succ_mul_add (b A k : ℕ) : A / b ^ (k + 1) * b + A / b ^ k % b = A / b ^ k := by
  rw [pow_succ, ← Nat.div_div_eq_div_mul, Nat.div_add_mod']

/-- Another digit at a place. -/
lemma ofDigits_set {l : List ℕ} {k w : ℕ} (hk : l[k]? = some w) (w' : ℕ) :
    Nat.ofDigits b (l.set k w') + w * b ^ k = Nat.ofDigits b l + w' * b ^ k := by
  induction l generalizing k with
  | nil => cases hk
  | cons x l ih =>
    cases k with
    | zero =>
      cases hk
      simp only [List.set_cons_zero, Nat.ofDigits_cons]
      ring
    | succ k =>
      have hrest : b * (Nat.ofDigits b (l.set k w') + w * b ^ k) =
          b * (Nat.ofDigits b l + w' * b ^ k) := by rw [ih hk]
      simp only [List.set_cons_succ, Nat.ofDigits_cons, pow_succ]
      linarith

/-- A quotient and a remainder are determined by the number. -/
lemma eq_and_eq_of_mul_add {p x y r s : ℕ} (hr : r < p) (hs : s < p)
    (h : p * x + r = p * y + s) : x = y ∧ r = s := by
  have hp : 0 < p := Nat.zero_lt_of_lt hr
  have hquotient := congrArg (· / p) h
  simp only [Nat.mul_add_div hp, Nat.div_eq_of_lt hr, Nat.div_eq_of_lt hs] at hquotient
  have hxy : x = y := by simpa using hquotient
  subst hxy
  exact ⟨rfl, Nat.add_left_cancel h⟩

/-- Without the zeros at its end a list of digits denotes the same number. -/
lemma ofDigits_rdropWhile (l : List ℕ) :
    Nat.ofDigits b (l.rdropWhile (· = 0)) = Nat.ofDigits b l := by
  induction l using List.reverseRecOn with
  | nil => rfl
  | append_singleton l w ih =>
    by_cases hw : w = 0
    · rw [List.rdropWhile_concat_pos _ _ _ (by simpa using hw), ih, Nat.ofDigits_append, hw]
      simp
    · rw [List.rdropWhile_concat_neg _ _ _ (by simpa using hw)]

/-- Without the zeros at its end a list of digits is canonical. -/
lemma canonical_rdropWhile {l : List ℕ} (h : ∀ w ∈ l, w < b) :
    Canonical b (l.rdropWhile (· = 0)) := by
  refine ⟨fun w hw => h w ((List.rdropWhile_prefix _ l).subset hw), fun hne => ?_⟩
  simpa using List.rdropWhile_last_not (· = 0) l hne

/-- A number that is large enough for the number of its digits has a highest one that is not 0. -/
lemma canonical_of_pow_le (hb : 1 < b) {l : List ℕ} (h : ∀ w ∈ l, w < b)
    (hle : b ^ (l.length - 1) ≤ Nat.ofDigits b l) : Canonical b l := by
  refine ⟨h, fun hne hzero => ?_⟩
  have hlt : Nat.ofDigits b l.dropLast < b ^ l.dropLast.length :=
    Nat.ofDigits_lt_base_pow_length hb fun w hw => h w (List.mem_of_mem_dropLast hw)
  rw [← List.dropLast_append_getLast hne, hzero, Nat.ofDigits_append_zero, List.length_append,
    List.length_singleton, Nat.add_sub_cancel] at hle
  omega

/-- Digits with a carry in front of the highest one, if there is one. -/
lemma canonical_append_carry (hb : 1 < b) {l : List ℕ} {carry : ℕ} (h : ∀ w ∈ l, w < b)
    (hcarry : carry < b) (hle : b ^ (l.length - 1) ≤ Nat.ofDigits b l + carry * b ^ l.length) :
    Canonical b (l ++ if carry = 0 then [] else [carry]) ∧
      Nat.ofDigits b (l ++ if carry = 0 then [] else [carry]) =
        Nat.ofDigits b l + carry * b ^ l.length := by
  split
  · next hzero =>
    rw [hzero, Nat.zero_mul, Nat.add_zero] at hle ⊢
    rw [List.append_nil]
    exact ⟨canonical_of_pow_le hb h hle, rfl⟩
  · next hne =>
    refine ⟨⟨fun w hw => ?_, fun _ => by simpa using hne⟩, ?_⟩
    · rcases List.mem_append.mp hw with hw | hw
      · exact h w hw
      · exact List.mem_singleton.mp hw ▸ hcarry
    · rw [Nat.ofDigits_append, Nat.ofDigits_singleton, Nat.mul_comm carry]

namespace Canonical

variable {l l' : List ℕ}

/-- A canonical list is the list of the digits of its number. -/
lemma digits_ofDigits (hb : 1 < b) (h : Canonical b l) : Nat.digits b (Nat.ofDigits b l) = l :=
  Nat.digits_ofDigits b hb l h.lt h.getLast_ne

/-- The number 0 has the empty list. -/
lemma ofDigits_eq_zero_iff (hb : 1 < b) (h : Canonical b l) : Nat.ofDigits b l = 0 ↔ l = [] := by
  rw [← Nat.digits_eq_nil_iff_eq_zero (b := b), h.digits_ofDigits hb]

/-- A number has one canonical list. -/
lemma ext (hb : 1 < b) (h : Canonical b l) (h' : Canonical b l')
    (heq : Nat.ofDigits b l = Nat.ofDigits b l') : l = l' := by
  rw [← h.digits_ofDigits hb, heq, h'.digits_ofDigits hb]

/-- A number is below the power of the base for the number of its digits. -/
lemma ofDigits_lt (hb : 1 < b) (h : Canonical b l) : Nat.ofDigits b l < b ^ l.length :=
  Nat.ofDigits_lt_base_pow_length hb h.lt

/-- A number with another digit is at least the power of the base for the others. -/
lemma pow_le_ofDigits (hb : 1 < b) (h : Canonical b l) (hne : l ≠ []) :
    b ^ (l.length - 1) ≤ Nat.ofDigits b l := by
  have hpos : 0 < l.length := List.length_pos_iff.mpr hne
  have hmul := Nat.pow_length_le_mul_ofDigits (b := b - 2) hne (h.getLast_ne hne)
  rw [show b - 2 + 2 = b by omega, show l.length = l.length - 1 + 1 by omega, pow_succ'] at hmul
  exact Nat.le_of_mul_le_mul_left hmul (by omega)

/-- More digits make a larger number. -/
lemma ofDigits_lt_of_length_lt (hb : 1 < b) (h : Canonical b l) (h' : Canonical b l')
    (hlt : l.length < l'.length) : Nat.ofDigits b l < Nat.ofDigits b l' := by
  have hne : l' ≠ [] := List.length_pos_iff.mp (by omega)
  calc Nat.ofDigits b l < b ^ l.length := h.ofDigits_lt hb
    _ ≤ b ^ (l'.length - 1) := Nat.pow_le_pow_right (by omega) (by omega)
    _ ≤ Nat.ofDigits b l' := h'.pow_le_ofDigits hb hne

end Canonical

/-! ## Integers -/

/-- The quotient and the remainder with the sign of the dividend are those of truncating division. -/
lemma eq_tdiv_and_eq_tmod_iff {a d q r : ℤ} (hd : d ≠ 0) :
    (a = q * d + r ∧ r.natAbs < d.natAbs ∧ (r = 0 ∨ r.sign = a.sign)) ↔
      q = a.tdiv d ∧ r = a.tmod d := by
  constructor
  · rintro ⟨heq, hlt, hsign⟩
    rcases le_total 0 a with ha | ha
    · have hr : 0 ≤ r := by
        rcases hsign with rfl | hsign
        · rfl
        · rwa [← Int.sign_nonneg_iff, hsign, Int.sign_nonneg_iff]
      have h := (Int.tdiv_tmod_unique ha hd).mpr
        ⟨show r + d * q = a by rw [heq]; ring, hr, by omega⟩
      exact ⟨h.1.symm, h.2.symm⟩
    · have hr : r ≤ 0 := by
        rcases hsign with rfl | hsign
        · rfl
        · rwa [← Int.sign_nonpos_iff, hsign, Int.sign_nonpos_iff]
      have h := (Int.tdiv_tmod_unique' ha hd).mpr
        ⟨show r + d * q = a by rw [heq]; ring, by omega, hr⟩
      exact ⟨h.1.symm, h.2.symm⟩
  · rintro ⟨rfl, rfl⟩
    refine ⟨?_, ?_, ?_⟩
    · rw [Int.mul_comm, Int.mul_tdiv_add_tmod]
    · rw [Int.natAbs_tmod]
      exact Nat.mod_lt _ (Int.natAbs_pos.mpr hd)
    · rcases lt_trichotomy a 0 with ha | rfl | ha
      · have hnonpos : 0 ≤ -(a.tmod d) := by
          rw [← Int.neg_tmod]
          exact Int.tmod_nonneg d (by omega)
        rcases (Int.neg_nonneg.mp hnonpos).lt_or_eq with hr | hr
        · exact .inr ((Int.sign_eq_neg_one_of_neg hr).trans (Int.sign_eq_neg_one_of_neg ha).symm)
        · exact .inl hr
      · exact .inl (Int.zero_tmod d)
      · rcases (Int.tmod_nonneg d ha.le).lt_or_eq with hr | hr
        · exact .inr ((Int.sign_eq_one_of_pos hr).trans (Int.sign_eq_one_of_pos ha).symm)
        · exact .inl hr.symm

/-! ## Windows -/

variable (b) in
/-- The window of `A` at a place, for the divisor `D`: what is left there of the higher digits,
followed by the digit of the place. -/
def dividendWindow (A D i : ℕ) : ℕ := A / b ^ i % (b * D)

/-- The window is the remainder of the higher digits followed by the digit of the place. -/
lemma dividendWindow_eq (A D i : ℕ) :
    dividendWindow b A D i = A / b ^ i % b + b * (A / b ^ (i + 1) % D) := by
  rw [dividendWindow, Nat.mod_mul, Nat.div_div_eq_div_mul, ← pow_succ]

/-- The divisor goes into a window less than `b` times. -/
lemma dividendWindow_lt {D : ℕ} (hb : 0 < b) (hD : 0 < D) (A i : ℕ) : dividendWindow b A D i < b * D :=
  Nat.mod_lt _ (Nat.mul_pos hb hD)

/-- What is left of a window is what is left of the digits from its place on. -/
lemma dividendWindow_mod (A D i : ℕ) : dividendWindow b A D i % D = A / b ^ i % D :=
  Nat.mod_mul_left_mod _ b D

/-- The quotient from a place on is the one of the higher digits, followed by that of the window. -/
lemma div_pow_eq {D : ℕ} (hD : 0 < D) (A i : ℕ) :
    A / D / b ^ i = dividendWindow b A D i / D + b * (A / D / b ^ (i + 1)) := by
  have hswap (k : ℕ) : A / D / b ^ k = A / b ^ k / D := by
    rw [Nat.div_div_eq_div_mul, Nat.mul_comm, ← Nat.div_div_eq_div_mul]
  have hhigh : A / b ^ (i + 1) / D = A / b ^ i / (b * D) := by
    rw [pow_succ, ← Nat.div_div_eq_div_mul, Nat.div_div_eq_div_mul _ b D]
  rw [hswap, hswap, hhigh, dividendWindow]
  conv_lhs => rw [← Nat.div_add_mod (A / b ^ i) (b * D)]
  rw [show b * D * (A / b ^ i / (b * D)) = D * (b * (A / b ^ i / (b * D))) by ring,
    Nat.mul_add_div hD, Nat.add_comm]

/-! ## The estimate of a digit -/

variable (b) in
/-- The estimate of the quotient of a window by a divisor of `n` digits: that of the numbers without
their lowest `n - 2` digits, and no more than the largest digit. -/
def estimate (n W D : ℕ) : ℕ := min (b - 1) (W / b ^ (n - 2) / (D / b ^ (n - 2)))

/-- An estimate is not too small. -/
lemma div_le_estimate {W D n : ℕ} (hb : 0 < b) (hW : W < b * D) (hn : b ^ (n - 2) ≤ D) :
    W / D ≤ estimate b n W D := by
  have hpow : 0 < b ^ (n - 2) := Nat.pow_pos hb
  have hlt : W / D < b := Nat.div_lt_of_lt_mul (by rwa [Nat.mul_comm])
  refine le_min (by omega) ?_
  have hhigh : 0 < D / b ^ (n - 2) := Nat.div_pos hn hpow
  rw [Nat.le_div_iff_mul_le hhigh, Nat.le_div_iff_mul_le hpow]
  calc W / D * (D / b ^ (n - 2)) * b ^ (n - 2)
      = W / D * (D / b ^ (n - 2) * b ^ (n - 2)) := Nat.mul_assoc ..
    _ ≤ W / D * D := Nat.mul_le_mul_left _ (Nat.div_mul_le_self _ _)
    _ ≤ W := Nat.div_mul_le_self _ _

/-- The estimate for a divisor of two digits is exact. -/
lemma estimate_two {W D : ℕ} (hW : W < b * D) : estimate b 2 W D = W / D := by
  have hlt : W / D < b := Nat.div_lt_of_lt_mul (by rwa [Nat.mul_comm])
  rw [estimate, Nat.sub_self, pow_zero, Nat.div_one, Nat.div_one, Nat.min_eq_right (by omega)]

/-! ## Correcting an estimate

A number `qhat` estimates the quotient of the three digits `base * b + u3` by the two digits
`v1 * b + v2`, where `rhat` is what is left of `base` without `qhat` times `v1`. -/

section Correction

variable {base qhat rhat u3 v1 v2 : ℕ}

/-- An estimate that is a digit is too large when its product with the second digit of the divisor is
larger than what is left. -/
lemma lt_iff_estimate_lt (hpos : 0 < v1 * b + v2) (heq : qhat * v1 + rhat = base)
    (hdigit : ¬ b - 1 < qhat) :
    b * rhat + u3 < qhat * v2 ↔ min (b - 1) ((base * b + u3) / (v1 * b + v2)) < qhat := by
  have hwords : base * b + u3 = qhat * v1 * b + (b * rhat + u3) := by
    rw [← heq]
    ring
  have hproduct : qhat * (v1 * b + v2) = qhat * v1 * b + qhat * v2 := by ring
  rw [min_lt_iff, or_iff_right hdigit, Nat.div_lt_iff_lt_mul hpos, hwords, hproduct,
    Nat.add_lt_add_iff_left]

/-- An estimate is not too large when a digit or more is left. -/
lemma le_estimate_of_le (hv2 : v2 < b) (hbase : base ≤ v1 * b + v2) (heq : qhat * v1 + rhat = base)
    (hrhat : b ≤ rhat) : qhat ≤ min (b - 1) ((base * b + u3) / (v1 * b + v2)) := by
  have hdigit : qhat < b := by
    by_contra hlarge
    have hmul : b * v1 ≤ qhat * v1 := Nat.mul_le_mul_right _ (not_lt.mp hlarge)
    rw [Nat.mul_comm] at hmul
    omega
  by_cases hpos : 0 < v1 * b + v2
  · refine le_min (by omega) ((Nat.le_div_iff_mul_le hpos).mpr ?_)
    have hmul : qhat * v2 ≤ rhat * b := Nat.mul_le_mul (by omega) hv2.le
    calc qhat * (v1 * b + v2) = qhat * v1 * b + qhat * v2 := by ring
      _ ≤ qhat * v1 * b + rhat * b + u3 := by omega
      _ = base * b + u3 := by rw [← heq]; ring
  · omega

/-- The quotient of the first digits is not too small. -/
lemma estimate_le_div (hu3 : u3 < b) (hv1 : 0 < v1) :
    min (b - 1) ((base * b + u3) / (v1 * b + v2)) ≤ base / v1 := by
  have hb : 0 < b := Nat.zero_lt_of_lt hu3
  refine (min_le_right _ _).trans ?_
  calc (base * b + u3) / (v1 * b + v2) ≤ (base * b + u3) / (b * v1) :=
        Nat.div_le_div_left (by rw [Nat.mul_comm]; omega) (Nat.mul_pos hb hv1)
    _ = base / v1 := by
        rw [← Nat.div_div_eq_div_mul, Nat.mul_comm base, Nat.mul_add_div hb, Nat.div_eq_of_lt hu3,
          Nat.add_zero]

end Correction

end LongDivision
