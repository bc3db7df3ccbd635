import TimestreamOdbc.Ignite.Division

/-!
# Quotients and remainders of big integers

`Divide` as a function of values, and on objects, of which the results can be the dividend.  The
quotient and the remainder are those of truncating division, unless one of four things happens: the
divisor has a single word and the dividend more than two, an estimate of a digit is too large, the
number of bits of the divisor overflows to 1, or a remainder that is not 0 gets the sign of the quotient
in place of that of the dividend.
-/

namespace TimestreamOdbc

namespace BigInteger

open LongDivision

/-! ## Values -/

/-- `Divide` as a function of the values of its operands: the result and the remainder, or nothing when
the divisor is 0 or the source leaves the behaviour undefined. -/
def divideValues (a d : BigInteger) : Option (BigInteger × BigInteger) :=
  if d.mag = [] then none
  else if compareMagnitude a.mag d.mag = 0 then some (ofInt64 (a.sign * d.sign), ofInt64 0)
  else if compareMagnitude a.mag d.mag = -1 then some (ofInt64 0, a)
  else if d.getBitLength = 1 then some ({ a with sign := a.sign * d.sign }, ofInt64 0)
  else if a.mag.length ≤ 2 then
    some (ofInt64 (a.sign * d.sign * (lowWords a.mag / lowWords d.mag : ℕ)),
      ofInt64 (a.sign * d.sign * (lowWords a.mag % lowWords d.mag : ℕ)))
  else
    (divideWords a.mag d.mag).map fun r =>
      (⟨a.sign * d.sign, normalize r.1⟩, ⟨a.sign * d.sign, normalize r.2⟩)

/-- The objects that the header allows to be the same: each operand and result can be the dividend. The
result and the remainder are different objects. -/
structure AllowedAliasing {ρ : Type} (dividend divisor res : ρ) (rem : Option ρ) : Prop where
  res_divisor : res = divisor → divisor = dividend
  rem_divisor : rem = some divisor → divisor = dividend
  rem_res : rem ≠ some res

section Objects

variable {ρ : Type} [DecidableEq ρ] {heap : ρ → BigInteger} {self divisor res : ρ} {rem : Option ρ}

/-- An object that is not the remainder keeps its value. -/
lemma assignRem_of_ne (x : BigInteger) {ref : ρ} (h : rem ≠ some ref) :
    assignRem heap rem x ref = heap ref := by
  cases rem with
  | none => rfl
  | some rem => exact Function.update_of_ne (fun heq => h (congrArg some heq.symm)) _ _

/-- The remainder gets the value. -/
lemma assignRem_self (x : BigInteger) {ref : ρ} (h : rem = some ref) :
    assignRem heap rem x ref = x := by
  subst h
  exact Function.update_self _ _ _

/-- The objects after an assignment of both results, in either order. -/
structure Assigned (heap heap' : ρ → BigInteger) (res : ρ) (rem : Option ρ) (q r : BigInteger) :
    Prop where
  result : heap' res = q
  remainder : ∀ ref, rem = some ref → heap' ref = r
  frame : ∀ ref, ref ≠ res → rem ≠ some ref → heap' ref = heap ref

/-- The result is assigned before the remainder. -/
lemma assigned_assignRem_update (h : rem ≠ some res) (q r : BigInteger) :
    Assigned heap (assignRem (Function.update heap res q) rem r) res rem q r where
  result := by rw [assignRem_of_ne r h, Function.update_self]
  remainder := fun ref href => assignRem_self r href
  frame := fun ref hres hrem => by rw [assignRem_of_ne r hrem, Function.update_of_ne hres]

/-- The result is assigned after the remainder. -/
lemma assigned_update_assignRem (h : rem ≠ some res) (q r : BigInteger) :
    Assigned heap (Function.update (assignRem heap rem r) res q) res rem q r where
  result := Function.update_self _ _ _
  remainder := fun ref href => by
    rw [Function.update_of_ne (fun heq => h (by rw [href, heq])), assignRem_self r href]
  frame := fun ref hres hrem => by rw [Function.update_of_ne hres, assignRem_of_ne r hrem]

/-- On objects `Divide` assigns what it computes from the values, whichever of the objects are the
dividend. -/
lemma divide_eq (halias : AllowedAliasing self divisor res rem) (hne : (heap divisor).mag ≠ []) :
    match divideValues (heap self) (heap divisor) with
    | none => divide heap self divisor res rem = .undefined
    | some (q, r) => ∃ heap', divide heap self divisor res rem = .done heap' ∧
        Assigned heap heap' res rem q r := by
  unfold divideValues divide
  rw [if_neg hne, if_neg hne]
  by_cases hzero : compareMagnitude (heap self).mag (heap divisor).mag = 0
  · simp only [hzero, if_true]
    exact ⟨_, rfl, assigned_assignRem_update halias.rem_res _ _⟩
  by_cases hless : compareMagnitude (heap self).mag (heap divisor).mag = -1
  · simp only [hless, if_true, if_neg (show ¬ (-1 : ℤ) = 0 by decide)]
    exact ⟨_, rfl, assigned_update_assignRem halias.rem_res _ _⟩
  by_cases hone : (heap divisor).getBitLength = 1
  · simp only [hzero, hless, hone, if_true, if_false]
    -- The signs are read when the result has the value of the dividend already.
    have hself : Function.update heap res (heap self) self = heap self := by
      by_cases heq : self = res
      · rw [← heq, Function.update_self]
      · rw [Function.update_of_ne heq]
    have hdivisor : Function.update heap res (heap self) divisor = heap divisor := by
      by_cases heq : divisor = res
      · rw [← heq, Function.update_self, halias.res_divisor heq.symm]
      · rw [Function.update_of_ne heq]
    rw [hself, hdivisor, Function.update_self, Function.update_idem]
    exact ⟨_, rfl, assigned_assignRem_update halias.rem_res _ _⟩
  by_cases hshort : (heap self).mag.length ≤ 2
  · simp only [hzero, hless, hone, hshort, if_true, if_false]
    exact ⟨_, rfl, assigned_assignRem_update halias.rem_res _ _⟩
  simp only [hzero, hless, hone, hshort, if_false]
  cases hwords : divideWords (heap self).mag (heap divisor).mag with
  | none => rfl
  | some r => exact ⟨_, rfl, assigned_assignRem_update halias.rem_res _ _⟩

end Objects

/-! ## Numbers of one or two words -/

/-- A number of 64 bits as a big integer. -/
lemma ofUint64_spec {val : ℕ} (h : val < 2 ^ 64) :
    (ofUint64 val).WellFormed ∧ (ofUint64 val).sign = 1 ∧ (ofUint64 val).magnitude = val := by
  unfold ofUint64
  by_cases hzero : val = 0
  · subst hzero
    exact ⟨⟨.inl rfl, canonical_nil⟩, rfl, rfl⟩
  rw [if_neg hzero, Nat.shiftRight_eq_div_pow]
  by_cases hhigh : val / 2 ^ 32 = 0
  · have hmod : val % 2 ^ 32 = val := Nat.mod_eq_of_lt (by omega)
    rw [if_pos hhigh, hmod]
    refine ⟨⟨.inl rfl, by simp; omega, by simpa using hzero⟩, rfl, ?_⟩
    exact Nat.ofDigits_singleton ..
  · rw [if_neg hhigh]
    refine ⟨⟨.inl rfl, by simp; omega, by simpa using hhigh⟩, rfl, ?_⟩
    rw [magnitude, Nat.ofDigits_cons, Nat.ofDigits_singleton]
    exact Nat.mod_add_div val (2 ^ 32)

/-- An integer of 64 bits as a big integer. -/
lemma ofInt64_spec {val : ℤ} (h : val.natAbs < 2 ^ 64) :
    (ofInt64 val).WellFormed ∧ (ofInt64 val).value = val := by
  obtain ⟨hwell, hsign, hmagnitude⟩ := ofUint64_spec h
  unfold ofInt64
  split
  · refine ⟨⟨.inr rfl, hwell.canonical⟩, ?_⟩
    rw [value, magnitude]
    change -1 * ((ofUint64 val.natAbs).magnitude : ℤ) = val
    omega
  · refine ⟨hwell, ?_⟩
    rw [value, hsign, hmagnitude]
    omega

/-- Two words are all of a magnitude that has no more. -/
lemma lowWords_eq {mag : List ℕ} (h : ∀ w ∈ mag, w < 2 ^ 32) (hle : mag.length ≤ 2) :
    lowWords mag = Nat.ofDigits (2 ^ 32) mag := by
  have hor {low high : ℕ} (hlow : low < 2 ^ 32) : low ||| high <<< 32 = low + 2 ^ 32 * high := by
    rw [Nat.or_comm, ← Nat.shiftLeft_add_eq_or_of_lt hlow, Nat.shiftLeft_eq]
    ring
  match mag, hle with
  | [], _ => rfl
  | [low], _ => exact (hor (h low (by simp))).trans (by simp)
  | [low, high], _ => exact (hor (h low (by simp))).trans (by simp [Nat.ofDigits_cons])

/-- Zeros at the end of the words of a result do not matter. -/
lemma normalize_spec {mag : List ℕ} (h : ∀ w ∈ mag, w < 2 ^ 32) :
    Canonical (2 ^ 32) (normalize mag) ∧
      Nat.ofDigits (2 ^ 32) (normalize mag) = Nat.ofDigits (2 ^ 32) mag :=
  ⟨canonical_rdropWhile h, ofDigits_rdropWhile mag⟩

/-! ## The quotient and the remainder -/

namespace WellFormed

variable {a d : BigInteger}

/-- The sign of a quotient. -/
lemma sign_mul (ha : a.WellFormed) (hd : d.WellFormed) :
    a.sign * d.sign = 1 ∨ a.sign * d.sign = -1 := by
  rcases ha.sign with ha | ha <;> rcases hd.sign with hd | hd <;> simp [ha, hd]

/-- The magnitude is the absolute value. -/
lemma natAbs_value (ha : a.WellFormed) : a.value.natAbs = a.magnitude := by
  rcases ha.sign with h | h <;> simp [value, h]

/-- The magnitude of 0 is empty. -/
lemma magnitude_pos (hd : d.WellFormed) (hne : d.mag ≠ []) : 0 < d.magnitude :=
  Nat.pos_of_ne_zero fun hzero => hne ((hd.canonical.ofDigits_eq_zero_iff (by decide)).mp hzero)

/-- The quotient has the product of the signs. -/
lemma tdiv_eq (ha : a.WellFormed) (hd : d.WellFormed) :
    a.value.tdiv d.value = a.sign * d.sign * (a.magnitude / d.magnitude : ℕ) := by
  rcases ha.sign with ha | ha <;> rcases hd.sign with hd | hd <;>
    simp [value, ha, hd, Int.neg_tdiv, Int.tdiv_neg]

/-- The remainder has the sign of the dividend. -/
lemma tmod_eq (ha : a.WellFormed) (hd : d.WellFormed) :
    a.value.tmod d.value = a.sign * (a.magnitude % d.magnitude : ℕ) := by
  have hnat : (a.magnitude : ℤ).tmod d.magnitude = (a.magnitude % d.magnitude : ℕ) := rfl
  rcases ha.sign with ha | ha <;> rcases hd.sign with hd | hd <;>
    simp only [value, ha, hd, Int.neg_mul, Int.one_mul, Int.neg_tmod, Int.tmod_neg, hnat]

end WellFormed

/-- When the quotient is right: the divisor is not smaller, or is 1 or -1, or else the number of its bits
does not overflow to 1, and both numbers have at most two words, or the divisor has two or more and the
estimates are exact. -/
def QuotientCondition (a d : BigInteger) : Prop :=
  a.magnitude ≤ d.magnitude ∨ d.magnitude = 1 ∨
    d.getBitLength ≠ 1 ∧
      (a.mag.length ≤ 2 ∨ 2 ≤ d.mag.length ∧ EstimatesExact a.mag d.mag)

/-- The divisor 1 is one bit. -/
lemma getBitLength_eq_one {d : BigInteger} (hd : d.WellFormed) (h : d.magnitude = 1) :
    d.getBitLength = 1 := by
  have hmag : d.mag = [1] := hd.canonical.ext (by decide)
    ⟨by simp, by simp⟩ (h.trans Nat.ofDigits_singleton.symm)
  rw [getBitLength, hmag]
  rfl

section DivideValues

variable {a d : BigInteger} (ha : a.WellFormed) (hd : d.WellFormed) (hne : d.mag ≠ [])

include ha hd hne

/-- When the condition holds the quotient is right, and the remainder is right but for its sign, which
is that of the quotient when the divisor is smaller than the dividend. -/
lemma divideValues_eq_some (h : QuotientCondition a d) :
    ∃ q r, divideValues a d = some (q, r) ∧ q.WellFormed ∧ r.WellFormed ∧
      q.value = a.value.tdiv d.value ∧
      r.value = (if a.magnitude ≤ d.magnitude then a.sign else a.sign * d.sign) *
        (a.magnitude % d.magnitude : ℕ) := by
  have hpos := hd.magnitude_pos hne
  have hcompare := compareMagnitude_spec ha.canonical hd.canonical
  change compareMagnitude a.mag d.mag = if a.magnitude = d.magnitude then 0
    else if d.magnitude < a.magnitude then 1 else -1 at hcompare
  have hsign := ha.sign_mul hd
  have hone : (a.sign * d.sign).natAbs = 1 := by rcases hsign with h | h <;> rw [h] <;> rfl
  have hzero := ofInt64_spec (show (0 : ℤ).natAbs < 2 ^ 64 by decide)
  rw [ha.tdiv_eq hd]
  unfold divideValues
  rw [if_neg hne]
  rcases lt_trichotomy a.magnitude d.magnitude with hlt | heq | hgt
  · rw [if_neg hlt.ne, if_neg hlt.not_gt] at hcompare
    refine ⟨ofInt64 0, a, by simp [hcompare], hzero.1, ha, ?_, ?_⟩
    · rw [hzero.2, Nat.div_eq_of_lt hlt, Int.natCast_zero, Int.mul_zero]
    · rw [if_pos hlt.le, Nat.mod_eq_of_lt hlt]
      rfl
  · rw [if_pos heq] at hcompare
    have hresult := ofInt64_spec (show (a.sign * d.sign).natAbs < 2 ^ 64 by omega)
    refine ⟨_, _, by rw [if_pos hcompare], hresult.1, hzero.1, ?_, ?_⟩
    · rw [hresult.2, heq, Nat.div_self hpos, Int.natCast_one, Int.mul_one]
    · rw [hzero.2, heq, Nat.mod_self, Int.natCast_zero, Int.mul_zero]
  rw [if_neg hgt.ne', if_pos hgt] at hcompare
  rw [if_neg hgt.not_ge, hcompare, if_neg (by decide), if_neg (by decide)]
  by_cases hbits : d.getBitLength = 1
  · have hunit : d.magnitude = 1 := by
      rcases h with h | h | h
      · exact absurd h hgt.not_ge
      · exact h
      · exact absurd hbits h.1
    refine ⟨{ a with sign := a.sign * d.sign }, ofInt64 0, by rw [if_pos hbits],
      ⟨hsign, ha.canonical⟩, hzero.1, ?_, ?_⟩
    · rw [hunit, Nat.div_one]
      rfl
    · rw [hzero.2, hunit, Nat.mod_one, Int.natCast_zero, Int.mul_zero]
  have hwords : a.mag.length ≤ 2 ∨ 2 ≤ d.mag.length ∧ EstimatesExact a.mag d.mag := by
    rcases h with h | h | h
    · exact absurd h hgt.not_ge
    · exact absurd (getBitLength_eq_one hd h) hbits
    · exact h.2
  have hlength : d.mag.length ≤ a.mag.length := by
    by_contra hlonger
    exact absurd (ha.canonical.ofDigits_lt_of_length_lt (by decide) hd.canonical
      (not_le.mp hlonger)) hgt.not_gt
  rw [if_neg hbits]
  by_cases hshort : a.mag.length ≤ 2
  · have hbound : a.magnitude < 2 ^ 64 :=
      (ha.canonical.ofDigits_lt (by decide)).trans_le
        ((Nat.pow_le_pow_right (by decide) hshort).trans (by decide))
    have hvalue {n : ℕ} (hn : n ≤ a.magnitude) :=
      ofInt64_spec (show (a.sign * d.sign * (n : ℤ)).natAbs < 2 ^ 64 by
        rw [Int.natAbs_mul, hone, Nat.one_mul, Int.natAbs_natCast]
        omega)
    rw [if_pos hshort, lowWords_eq ha.canonical.lt hshort,
      lowWords_eq hd.canonical.lt (hlength.trans hshort)]
    have hq := hvalue (Nat.div_le_self a.magnitude d.magnitude)
    have hr := hvalue (Nat.mod_le a.magnitude d.magnitude)
    exact ⟨_, _, rfl, hq.1, hr.1, hq.2, hr.2⟩
  · obtain ⟨htwo, hexact⟩ := hwords.resolve_left hshort
    obtain ⟨q, r, hrun, hqlt, hrlt, hq, hr⟩ :=
      divideWords_eq_some ha.canonical hd.canonical htwo hlength hexact
    obtain ⟨hqwell, hqvalue⟩ := normalize_spec hqlt
    obtain ⟨hrwell, hrvalue⟩ := normalize_spec hrlt
    refine ⟨_, _, by rw [if_neg hshort, hrun]; rfl, ⟨hsign, hqwell⟩, ⟨hsign, hrwell⟩, ?_, ?_⟩
    · rw [value, magnitude, hqvalue, hq]
      rfl
    · rw [value, magnitude, hrvalue, hr]
      rfl

/-- When the condition does not hold the quotient is wrong, if there is one. -/
lemma value_ne_of_divideValues (h : ¬ QuotientCondition a d) {q r : BigInteger}
    (hrun : divideValues a d = some (q, r)) : q.value ≠ a.value.tdiv d.value := by
  have hpos := hd.magnitude_pos hne
  have hcompare := compareMagnitude_spec ha.canonical hd.canonical
  change compareMagnitude a.mag d.mag = if a.magnitude = d.magnitude then 0
    else if d.magnitude < a.magnitude then 1 else -1 at hcompare
  have hone : (a.sign * d.sign).natAbs = 1 := by
    rcases ha.sign_mul hd with h | h <;> rw [h] <;> rfl
  -- It is enough that the magnitude is wrong.
  have hmagnitude {mag : List ℕ} (hq : q = ⟨a.sign * d.sign, mag⟩)
      (hwrong : Nat.ofDigits (2 ^ 32) mag ≠ a.magnitude / d.magnitude) :
      q.value ≠ a.value.tdiv d.value := by
    intro heq
    have habs := congrArg Int.natAbs heq
    rw [ha.tdiv_eq hd, hq, value, Int.natAbs_mul (a.sign * d.sign), hone,
      Int.natAbs_mul (a.sign * d.sign), hone, Nat.one_mul, Nat.one_mul] at habs
    exact hwrong habs
  simp only [QuotientCondition, not_or, not_and, not_le] at h
  obtain ⟨hgt, hunit, hwords⟩ := h
  rw [if_neg hgt.ne', if_pos hgt] at hcompare
  unfold divideValues at hrun
  rw [if_neg hne, hcompare, if_neg (by decide), if_neg (by decide)] at hrun
  by_cases hbits : d.getBitLength = 1
  · rw [if_pos hbits] at hrun
    obtain ⟨rfl, -⟩ := Prod.mk.inj (Option.some.inj hrun)
    refine hmagnitude rfl (Nat.ne_of_gt ?_)
    exact Nat.div_lt_self (hpos.trans hgt) (by omega)
  obtain ⟨hlong, hexact⟩ := hwords hbits
  have hlength : d.mag.length ≤ a.mag.length := by
    by_contra hlonger
    exact absurd (ha.canonical.ofDigits_lt_of_length_lt (by decide) hd.canonical
      (not_le.mp hlonger)) hgt.not_gt
  rw [if_neg hbits, if_neg (by omega)] at hrun
  obtain ⟨⟨q', r'⟩, hdivide, heq⟩ := Option.map_eq_some_iff.mp hrun
  obtain ⟨hq, -⟩ := Prod.mk.inj heq
  by_cases htwo : 2 ≤ d.mag.length
  · refine hmagnitude hq.symm ?_
    rw [normalize, ofDigits_rdropWhile]
    exact ofDigits_ne_of_divideWords ha.canonical hd.canonical htwo hlength (hexact htwo) hdivide
  · have hsingle : d.mag.length = 1 := by
      have := List.length_pos_iff.mpr hne
      omega
    rw [divideWords_of_length_eq_one ha.canonical hd.canonical hsingle hlength] at hdivide
    cases hdivide

/-- The quotient is canonical even when it is wrong. -/
lemma wellFormed_of_divideValues {q r : BigInteger} (hrun : divideValues a d = some (q, r)) :
    q.WellFormed := by
  have hzero := ofInt64_spec (show (0 : ℤ).natAbs < 2 ^ 64 by decide)
  have hsign := ha.sign_mul hd
  have hone : (a.sign * d.sign).natAbs = 1 := by rcases hsign with h | h <;> rw [h] <;> rfl
  rw [divideValues, if_neg hne] at hrun
  split_ifs at hrun with hequal hless hbits hshort
  · cases hrun
    exact (ofInt64_spec (by omega)).1
  · cases hrun
    exact hzero.1
  · cases hrun
    exact ⟨hsign, ha.canonical⟩
  · cases hrun
    refine (ofInt64_spec ?_).1
    rw [Int.natAbs_mul, hone, Nat.one_mul, Int.natAbs_natCast, lowWords_eq ha.canonical.lt hshort]
    have hbound := (ha.canonical.ofDigits_lt (by decide)).trans_le
      ((Nat.pow_le_pow_right (by decide) hshort).trans (show (2 ^ 32) ^ 2 ≤ 2 ^ 64 by decide))
    exact (Nat.div_le_self _ _).trans_lt hbound
  · obtain ⟨⟨q', r'⟩, hwords, heq⟩ := Option.map_eq_some_iff.mp hrun
    obtain ⟨⟨nu, q₁⟩, hloop, hresult⟩ := Option.map_eq_some_iff.mp hwords
    cases heq
    cases hresult
    exact ⟨hsign, canonical_rdropWhile (lt_of_divideLoop (by simp) hloop)⟩

/-- A right quotient that is 0 has the sign 1. -/
lemma sign_of_divideValues (h : QuotientCondition a d) {q r : BigInteger}
    (hrun : divideValues a d = some (q, r)) (hempty : q.mag = []) : q.sign = 1 := by
  by_cases hlt : a.magnitude < d.magnitude
  · have hcompare := compareMagnitude_spec ha.canonical hd.canonical
    change compareMagnitude a.mag d.mag = if a.magnitude = d.magnitude then 0
      else if d.magnitude < a.magnitude then 1 else -1 at hcompare
    rw [if_neg hlt.ne, if_neg hlt.not_gt] at hcompare
    rw [divideValues, if_neg hne, hcompare, if_neg (by decide), if_pos rfl] at hrun
    cases hrun
    rfl
  · obtain ⟨q', r', hrun', -, -, hvalue, -⟩ := divideValues_eq_some ha hd hne h
    obtain ⟨rfl, rfl⟩ := Prod.mk.inj (Option.some.inj (hrun.symm.trans hrun'))
    have hquotient : 0 < a.magnitude / d.magnitude :=
      Nat.div_pos (not_lt.mp hlt) (hd.magnitude_pos hne)
    rw [ha.tdiv_eq hd, value, magnitude, hempty, Nat.ofDigits_nil] at hvalue
    rcases ha.sign_mul hd with hsign | hsign <;> rw [hsign] at hvalue <;> omega

end DivideValues

/-! ## Division on objects -/

/-- The quotient and the remainder of a division: canonical, and with the remainder smaller than the
divisor and zero or of the sign of the dividend. -/
structure Divides (a d q r : BigInteger) : Prop where
  quotient : q.WellFormed
  remainder : r.WellFormed
  eq : a.value = q.value * d.value + r.value
  lt : r.value.natAbs < d.value.natAbs
  sign : r.value = 0 ∨ r.value.sign = a.value.sign

/-- Division truncates. -/
lemma divides_iff {a d q r : BigInteger} (hd : d.WellFormed) (hne : d.mag ≠ []) :
    Divides a d q r ↔ q.WellFormed ∧ r.WellFormed ∧
      q.value = a.value.tdiv d.value ∧ r.value = a.value.tmod d.value := by
  have hnonzero : d.value ≠ 0 := by
    have hpos := hd.magnitude_pos hne
    rw [← hd.natAbs_value] at hpos
    exact Int.natAbs_pos.mp hpos
  rw [← eq_tdiv_and_eq_tmod_iff hnonzero]
  exact ⟨fun ⟨hq, hr, heq, hlt, hsign⟩ => ⟨hq, hr, heq, hlt, hsign⟩,
    fun ⟨hq, hr, heq, hlt, hsign⟩ => ⟨hq, hr, heq, hlt, hsign⟩⟩

/-- Every number of a sign has a big integer. -/
lemma exists_wellFormed {sign : ℤ} (hsign : sign = 1 ∨ sign = -1) (n : ℕ) :
    ∃ x : BigInteger, x.WellFormed ∧ x.value = sign * n := by
  refine ⟨⟨sign, Nat.digits (2 ^ 32) n⟩, ⟨hsign, canonical_digits (by decide) n⟩, ?_⟩
  rw [value, magnitude, Nat.ofDigits_digits]

/-- When division is right: the quotient is, and the divisor is positive if a remainder is wanted that
is not 0, unless the dividend is the smaller one. -/
def DivideCondition (a d : BigInteger) (remainder : Bool) : Prop :=
  QuotientCondition a d ∧
    (remainder = true → a.magnitude ≤ d.magnitude ∨ d.sign = 1 ∨ d.magnitude ∣ a.magnitude)

section Objects

variable {ρ : Type} [DecidableEq ρ]

/-- `Divide` ends, reads no word outside of the magnitudes, and leaves the quotient and the remainder in
their objects; the remainder is any number when it is not wanted. -/
def DividesObjects (heap : ρ → BigInteger) (self divisor res : ρ) (rem : Option ρ) : Prop :=
  ∃ heap' r, divide heap self divisor res rem = .done heap' ∧
    (∀ ref, rem = some ref → heap' ref = r) ∧ Divides (heap self) (heap divisor) (heap' res) r

/-- Of a division of objects, whichever of them are the dividend, the quotient and the remainder are
right exactly when the condition holds. -/
theorem dividesObjects_iff (heap : ρ → BigInteger) {self divisor res : ρ} {rem : Option ρ}
    (halias : AllowedAliasing self divisor res rem) (ha : (heap self).WellFormed)
    (hd : (heap divisor).WellFormed) (hne : (heap divisor).mag ≠ []) :
    DividesObjects heap self divisor res rem ↔
      DivideCondition (heap self) (heap divisor) rem.isSome := by
  have hdivide := divide_eq halias hne
  have hremainder := ha.tmod_eq hd
  constructor
  · rintro ⟨heap', r, hdone, hrem, hdivides⟩
    obtain ⟨-, -, hq, hr⟩ := (divides_iff hd hne).mp hdivides
    cases hvalues : divideValues (heap self) (heap divisor) with
    | none =>
      rw [hvalues] at hdivide
      simp only at hdivide
      rw [hdivide] at hdone
      cases hdone
    | some values =>
      obtain ⟨q, r'⟩ := values
      rw [hvalues] at hdivide
      obtain ⟨heap₁, hdone₁, hassigned⟩ := hdivide
      obtain rfl : heap₁ = heap' := by
        rw [hdone₁] at hdone
        exact DivideOutcome.done.inj hdone
      rw [hassigned.result] at hq
      have hcondition : QuotientCondition (heap self) (heap divisor) := by
        by_contra hcondition
        exact value_ne_of_divideValues ha hd hne hcondition hvalues hq
      refine ⟨hcondition, fun hwanted => ?_⟩
      obtain ⟨ref, hrefeq⟩ := Option.isSome_iff_exists.mp hwanted
      obtain ⟨q₁, r₁, hvalues₁, -, -, -, hr₁⟩ := divideValues_eq_some ha hd hne hcondition
      obtain ⟨rfl, rfl⟩ := Prod.mk.inj (Option.some.inj (hvalues.symm.trans hvalues₁))
      rw [← hrem ref hrefeq, hassigned.remainder ref hrefeq, hr₁, hremainder] at hr
      by_cases hle : (heap self).magnitude ≤ (heap divisor).magnitude
      · exact .inl hle
      rw [if_neg hle] at hr
      rcases hd.sign with hsign | hsign
      · exact .inr (.inl hsign)
      · refine .inr (.inr (Nat.dvd_of_mod_eq_zero ?_))
        rw [hsign] at hr
        rcases ha.sign with hself | hself <;> rw [hself] at hr <;> omega
  · rintro ⟨hcondition, hwanted⟩
    obtain ⟨q, r, hvalues, hqwell, hrwell, hq, hr⟩ := divideValues_eq_some ha hd hne hcondition
    rw [hvalues] at hdivide
    obtain ⟨heap', hdone, hassigned⟩ := hdivide
    cases rem with
    | none =>
      obtain ⟨x, hxwell, hx⟩ := exists_wellFormed ha.sign
        ((heap self).magnitude % (heap divisor).magnitude)
      refine ⟨heap', x, hdone, by simp, (divides_iff hd hne).mpr ⟨?_, hxwell, ?_, ?_⟩⟩
      · rwa [hassigned.result]
      · rwa [hassigned.result]
      · rw [hx, hremainder]
    | some ref =>
      refine ⟨heap', r, hdone, hassigned.remainder,
        (divides_iff hd hne).mpr ⟨?_, hrwell, ?_, ?_⟩⟩
      · rwa [hassigned.result]
      · rwa [hassigned.result]
      · rw [hr, hremainder]
        rcases hwanted rfl with hle | hsign | hdvd
        · rw [if_pos hle]
        · rw [hsign, Int.mul_one, ite_self]
        · rw [Nat.mod_eq_zero_of_dvd hdvd, Int.natCast_zero, Int.mul_zero, Int.mul_zero]

/-- -7 divided by 2, with the quotient in the object of the dividend. -/
theorem dividesObjects_minusSeven :
    DividesObjects (fun ref : ℕ => if ref = 0 then ⟨-1, [7]⟩ else ⟨1, [2]⟩) 0 1 0 (some 2) :=
  (dividesObjects_iff _ ⟨by decide, by decide, by decide⟩
    ⟨.inr rfl, by decide, by decide⟩ ⟨.inl rfl, by decide, by decide⟩ (by decide)).mpr
    ⟨.inr (.inr ⟨by decide, .inl (by decide)⟩), fun _ => .inr (.inl rfl)⟩

/-- `2 ^ 64` divided by 3 is undefined. -/
theorem not_dividesObjects_three :
    ¬ DividesObjects (fun ref : ℕ => if ref = 0 then ⟨1, [0, 0, 1]⟩ else ⟨1, [3]⟩) 0 1 2 none := by
  rintro ⟨heap', r, hdone, -⟩
  have hundefined : divide (fun ref : ℕ => if ref = 0 then (⟨1, [0, 0, 1]⟩ : BigInteger)
      else ⟨1, [3]⟩) 0 1 2 none = .undefined := rfl
  rw [hundefined] at hdone
  cases hdone

end Objects

end BigInteger

end TimestreamOdbc
