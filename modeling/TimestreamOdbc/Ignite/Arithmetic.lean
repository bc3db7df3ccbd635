import TimestreamOdbc.Ignite.Bytes
import TimestreamOdbc.Ignite.DecimalRoundTrip
import TimestreamOdbc.Lib.TransitionSystem

/-!
# Runs of big integer operations

The operations of `BigInteger` on objects, some of which can be the same, and the integers that they
compute.  Three of them are not what their names say of the integers: `Add` adds to the absolute value,
`Pow` gives 0 for negative exponents and for every power of 0, and `Divide` is right under a condition.
-/

namespace TimestreamOdbc

open TransitionSystem

namespace BigInteger

/-! ## Values -/

/-- A number with an empty magnitude is 0. -/
lemma value_eq_zero_iff {x : BigInteger} (h : x.WellFormed) : x.value = 0 ↔ x.mag = [] := by
  rw [← Int.natAbs_eq_zero, h.natAbs_value, magnitude,
    LongDivision.Canonical.ofDigits_eq_zero_iff (by decide) h.canonical]

/-- The sign of a number that is not 0. -/
lemma value_neg_iff {x : BigInteger} (h : x.WellFormed) (hne : x.mag ≠ []) : x.value < 0 ↔ x.sign = -1 := by
  have hpos := h.magnitude_pos hne
  rw [value]
  rcases h.sign with hsign | hsign <;> rw [hsign] <;> omega

/-- The product of the integers. -/
lemma multiply_value {a b : BigInteger} (ha : a.WellFormed) (hb : b.WellFormed) :
    (a.multiply b).WellFormed ∧ (a.multiply b).value = a.value * b.value := by
  obtain ⟨hwell, hmagnitude⟩ := multiply_spec ha hb
  refine ⟨hwell, ?_⟩
  rw [value, hmagnitude, value, value, multiply]
  push_cast
  ring

/-- The loop of `Pow` multiplies with the power, of either sign. -/
lemma powLoop_value {multiplicant res : BigInteger} (hm : multiplicant.WellFormed)
    (hres : res.WellFormed) (mutExp : ℕ) :
    (powLoop multiplicant res mutExp).WellFormed ∧
      (powLoop multiplicant res mutExp).value = res.value * multiplicant.value ^ mutExp := by
  induction mutExp using Nat.strongRecOn generalizing multiplicant res with
  | ind mutExp ih =>
    rw [powLoop]
    split
    · next hzero => exact ⟨hres, by rw [hzero, pow_zero, Int.mul_one]⟩
    · next hpos =>
      have hsquare := multiply_value hm hm
      have hproduct := multiply_value hres hm
      have hstep : (if mutExp % 2 = 1 then res.multiply multiplicant else res).WellFormed ∧
          (if mutExp % 2 = 1 then res.multiply multiplicant else res).value =
            res.value * multiplicant.value ^ (mutExp % 2) := by
        split
        · next hodd => exact ⟨hproduct.1, by rw [hproduct.2, hodd, pow_one]⟩
        · next heven =>
          rw [show mutExp % 2 = 0 by omega, pow_zero, Int.mul_one]
          exact ⟨hres, rfl⟩
      by_cases hlast : mutExp / 2 = 0
      · obtain ⟨hwell, hvalue⟩ := ih (mutExp / 2) (by omega) hm hstep.1
        simp only [hlast, if_true] at hwell hvalue ⊢
        refine ⟨hwell, ?_⟩
        rw [hvalue, hstep.2, pow_zero, Int.mul_one, show mutExp % 2 = mutExp by omega]
      · obtain ⟨hwell, hvalue⟩ := ih (mutExp / 2) (by omega) hsquare.1 hstep.1
        simp only [hlast, if_false] at hwell hvalue ⊢
        refine ⟨hwell, ?_⟩
        rw [hvalue, hstep.2, hsquare.2, ← pow_two, ← pow_mul, Int.mul_assoc, ← pow_add,
          Nat.mod_add_div]

/-- What `Pow` computes. -/
def powValue (v exp : ℤ) : ℤ := if exp < 0 ∨ v = 0 then 0 else v ^ exp.toNat

/-- The powers of 1 and -1. -/
lemma pow_eq_of_natAbs {v : ℤ} (h : v.natAbs = 1) (n : ℕ) :
    v ^ n = if n % 2 = 0 ∧ v < 0 then -v else v ^ (n % 2) := by
  have hv : v = 1 ∨ v = -1 := by omega
  rcases hv with rfl | rfl
  · simp
  · rcases Nat.even_or_odd n with heven | hodd
    · rw [heven.neg_one_pow, if_pos ⟨Nat.even_iff.mp heven, by decide⟩]
      rfl
    · rw [hodd.neg_one_pow, Nat.odd_iff.mp hodd]
      rfl

/-- A power, of a number whose bits can be counted in 32 bits. -/
lemma pow_value {x : BigInteger} (h : x.WellFormed) (hbits : x.magnitude.size < 2 ^ 32) (exp : ℤ) :
    (x.pow exp).WellFormed ∧ (x.pow exp).value = powValue x.value exp := by
  have hlength : x.getBitLength = x.magnitude.size := by
    rw [getBitLength_eq_size h, Nat.mod_eq_of_lt hbits]
  have habs := h.natAbs_value
  unfold pow powValue
  by_cases hneg : exp < 0
  · rw [if_pos hneg, if_pos (.inl hneg)]
    exact ofInt64_spec (by decide)
  rw [if_neg hneg]
  by_cases hzero : x.getBitLength = 0
  · have hvalue : x.value = 0 := by
      rw [hlength, Nat.size_eq_zero] at hzero
      omega
    rw [if_pos hzero, if_pos (.inr hvalue)]
    exact ⟨h, hvalue⟩
  have hne : x.value ≠ 0 := by
    intro hvalue
    rw [hvalue, Int.natAbs_zero] at habs
    rw [hlength, ← habs, Nat.size_zero] at hzero
    exact hzero rfl
  rw [if_neg hzero, if_neg (show ¬ (exp < 0 ∨ x.value = 0) by simp [hneg, hne])]
  by_cases hone : x.getBitLength = 1
  · have hunit : x.value.natAbs = 1 := by
      have hlt := Nat.lt_size_self x.magnitude
      rw [← hlength, hone] at hlt
      omega
    rw [if_pos hone, pow_eq_of_natAbs hunit]
    have hmag : x.mag ≠ [] := fun hnil => hne ((value_eq_zero_iff h).mpr hnil)
    have hsign : x.sign < 0 ↔ x.value < 0 := by
      rw [value_neg_iff h hmag]
      rcases h.sign with hsign | hsign <;> omega
    have heven : exp % 2 = 0 ↔ exp.toNat % 2 = 0 := by omega
    simp only [heven, hsign]
    split
    · refine ⟨⟨?_, h.canonical⟩, ?_⟩
      · rcases h.sign with hsign | hsign <;> rw [hsign] <;> simp
      · exact Int.neg_mul ..
    · next hnot =>
      refine ⟨h, ?_⟩
      rcases Nat.mod_two_eq_zero_or_one exp.toNat with hmod | hmod
      · have hpos : x.value = 1 := by
          have hge : ¬ x.value < 0 := fun hlt => hnot ⟨hmod, hlt⟩
          omega
        rw [hpos, one_pow]
      · rw [hmod, pow_one]
  · rw [if_neg hone]
    obtain ⟨hstart, hstartvalue⟩ := ofInt64_spec (show (1 : ℤ).natAbs < 2 ^ 64 by decide)
    obtain ⟨hwell, hvalue⟩ := powLoop_value h hstart exp.toNat
    exact ⟨hwell, by rw [hvalue, hstartvalue, Int.one_mul]⟩

/-- What `Add` computes: it goes away from 0. -/
def addValue (v : ℤ) (x : ℕ) : ℤ := if v < 0 then v - x else v + x

/-- A sum: the number is added to the absolute value. -/
lemma add_value {value : BigInteger} (h : value.WellFormed) {x : ℕ} (hx : x < 2 ^ 64) :
    ∃ sum, value.add x = some sum ∧ sum.WellFormed ∧ sum.value = addValue value.value x := by
  rcases h.sign with hsign | hsign
  · obtain ⟨sum, hrun, hwell, hsign', hsum⟩ := add_spec h hsign hx
    refine ⟨sum, hrun, hwell, ?_⟩
    rw [BigInteger.value, BigInteger.value, hsign', hsum, hsign, addValue, if_neg (by omega)]
    push_cast
    ring
  by_cases hempty : value.mag = []
  · -- a zero of the sign -1 is replaced
    have hpositive : value.add x = if x = 0 then some value else some (ofUint64 x) := by
      rw [add, if_pos hempty]
    obtain ⟨hwell, hsign', hmagnitude⟩ := ofUint64_spec hx
    have hvalue : value.value = 0 := (value_eq_zero_iff h).mpr hempty
    rw [hpositive, hvalue, addValue, if_neg (show ¬ (0 : ℤ) < 0 by decide)]
    by_cases hzero : x = 0
    · exact ⟨value, by rw [if_pos hzero], h, by rw [hvalue, hzero]; rfl⟩
    · refine ⟨_, by rw [if_neg hzero], hwell, ?_⟩
      rw [BigInteger.value, hsign', hmagnitude, Int.one_mul, Int.zero_add]
  · -- the magnitude grows as that of the positive number, and the sign stays
    obtain ⟨sum, hrun, hwell, hsign', hsum⟩ :=
      @add_spec { value with sign := 1 } ⟨.inl rfl, h.canonical⟩ rfl x hx
    have hneg : value.value < 0 := (value_neg_iff h hempty).mpr hsign
    refine ⟨{ sum with sign := -1 }, ?_, ⟨.inr rfl, hwell.canonical⟩, ?_⟩
    · by_cases hzero : x = 0
      · rw [add, if_pos hzero] at hrun
        obtain rfl := Option.some.inj hrun
        rw [add, if_pos hzero, ← hsign]
      · simp only [add, hzero, hempty, if_false, Option.map_eq_some_iff] at hrun ⊢
        obtain ⟨mag, hmag, rfl⟩ := hrun
        exact ⟨mag, hmag, by rw [← hsign]⟩
    · rw [addValue, if_pos hneg, BigInteger.value, BigInteger.value, hsign]
      change -1 * (sum.magnitude : ℤ) = _
      rw [hsum]
      change -1 * ((value.magnitude + x : ℕ) : ℤ) = _
      push_cast
      ring

/-! ## Operations on objects -/

/-- A call of an operation of `BigInteger` on objects. -/
inductive Operation (ρ : Type) where
  | assignInt64 (self : ρ) (val : ℤ)
  | assignUint64 (self : ρ) (val : ℕ)
  | assign (self val : ρ)
  | swap (self other : ρ)
  | pow (self : ρ) (exp : ℤ)
  | multiply (self other res : ρ)
  | divide (self divisor res : ρ) (rem : Option ρ)
  | add (self : ρ) (x : ℕ)
  | negate (self : ρ)
  | getPowerOfTen (pow : ℤ) (res : ρ)
  deriving DecidableEq, Repr

variable {ρ : Type} [DecidableEq ρ]

/-- The objects after a call; nothing when it throws or its behaviour is undefined. -/
def perform (heap : ρ → BigInteger) : Operation ρ → Option (ρ → BigInteger)
  | .assignInt64 self val => some (Function.update heap self (ofInt64 val))
  | .assignUint64 self val => some (Function.update heap self (ofUint64 val))
  | .assign self val => some (Function.update heap self (heap val))
  | .swap self other => some (Function.update (Function.update heap self (heap other)) other (heap self))
  | .pow self exp => some (Function.update heap self ((heap self).pow exp))
  | .multiply self other res => some (Function.update heap res ((heap self).multiply (heap other)))
  | .divide self divisor res rem =>
    match divide heap self divisor res rem with
    | .done heap => some heap
    | _ => none
  | .add self x => ((heap self).add x).map (Function.update heap self)
  | .negate self => some (Function.update heap self (Ignite.Decimal.negate (heap self)))
  | .getPowerOfTen pow res => (getPowerOfTen pow).map (Function.update heap res)

/-- What a call computes of the integers. -/
def compute (values : ρ → ℤ) : Operation ρ → ρ → ℤ
  | .assignInt64 self val => Function.update values self val
  | .assignUint64 self val => Function.update values self val
  | .assign self val => Function.update values self (values val)
  | .swap self other => Function.update (Function.update values self (values other)) other (values self)
  | .pow self exp => Function.update values self (powValue (values self) exp)
  | .multiply self other res => Function.update values res (values self * values other)
  | .divide self divisor res rem =>
    let divided := Function.update values res ((values self).tdiv (values divisor))
    rem.elim divided fun rem => Function.update divided rem ((values self).tmod (values divisor))
  | .add self x => Function.update values self (addValue (values self) x)
  | .negate self => Function.update values self (-values self)
  | .getPowerOfTen pow res => Function.update values res (10 ^ pow.toNat)

/-- When a call is allowed: its numbers have the size of their types, the least one of 64 bits excepted;
the bits of the base of a power can be counted; a division has a divisor, objects that the header lets be
the same, and is one that is right. -/
def Allowed (heap : ρ → BigInteger) : Operation ρ → Prop
  | .assignInt64 _ val => -2 ^ 63 < val ∧ val < 2 ^ 63
  | .assignUint64 _ val => val < 2 ^ 64
  | .pow self _ => (heap self).magnitude.size < 2 ^ 32
  | .divide self divisor res rem => AllowedAliasing self divisor res rem ∧ (heap divisor).mag ≠ [] ∧
      DivideCondition (heap self) (heap divisor) rem.isSome
  | .add _ x => x < 2 ^ 64
  | .getPowerOfTen pow _ => 0 ≤ pow
  | .assign _ _ | .swap _ _ | .multiply _ _ _ | .negate _ => True

/-- The objects are well-formed, and have the integers. -/
def Represents (heap : ρ → BigInteger) (values : ρ → ℤ) : Prop :=
  ∀ ref, (heap ref).WellFormed ∧ (heap ref).value = values ref

/-- An object is assigned a number. -/
lemma Represents.update {heap : ρ → BigInteger} {values : ρ → ℤ} (h : Represents heap values)
    {x : BigInteger} {v : ℤ} (hx : x.WellFormed ∧ x.value = v) (self : ρ) :
    Represents (Function.update heap self x) (Function.update values self v) := by
  intro ref
  by_cases href : ref = self
  · rw [href, Function.update_self, Function.update_self]
    exact hx
  · rw [Function.update_of_ne href, Function.update_of_ne href]
    exact h ref

/-- A division leaves the quotient and the remainder in their objects, and the others as they are. -/
lemma Represents.divide {heap : ρ → BigInteger} {values : ρ → ℤ} (h : Represents heap values)
    {self divisor res : ρ} {rem : Option ρ} (halias : AllowedAliasing self divisor res rem)
    (hne : (heap divisor).mag ≠ []) (hcondition : DivideCondition (heap self) (heap divisor) rem.isSome) :
    ∃ heap', BigInteger.divide heap self divisor res rem = .done heap' ∧
      Represents heap' (compute values (.divide self divisor res rem)) := by
  obtain ⟨hself, hselfvalue⟩ := h self
  obtain ⟨hdivisor, hdivisorvalue⟩ := h divisor
  obtain ⟨q, r, hvalues, hq, hr, hqvalue, hrvalue⟩ :=
    divideValues_eq_some hself hdivisor hne hcondition.1
  have hdivide := divide_eq halias hne
  rw [hvalues] at hdivide
  obtain ⟨heap', hdone, hassigned⟩ := hdivide
  rw [hselfvalue, hdivisorvalue] at hqvalue
  -- the quotient is assigned first
  have hquotient := h.update ⟨hq, hqvalue⟩ res
  refine ⟨heap', hdone, ?_⟩
  cases rem with
  | none =>
    have heap_eq : heap' = Function.update heap res q := by
      funext ref
      by_cases href : ref = res
      · rw [href, hassigned.result, Function.update_self]
      · rw [hassigned.frame ref href nofun, Function.update_of_ne href]
    rw [heap_eq]
    exact hquotient
  | some rem =>
    have hremvalue : r.value = (values self).tmod (values divisor) := by
      rw [← hselfvalue, ← hdivisorvalue, hself.tmod_eq hdivisor, hrvalue]
      rcases hcondition.2 rfl with hle | hsign | hdvd
      · rw [if_pos hle]
      · rw [hsign, Int.mul_one, ite_self]
      · rw [Nat.mod_eq_zero_of_dvd hdvd, Int.natCast_zero, Int.mul_zero, Int.mul_zero]
    have heap_eq : heap' = Function.update (Function.update heap res q) rem r := by
      funext ref
      by_cases href : ref = rem
      · rw [href, hassigned.remainder rem rfl, Function.update_self]
      · rw [Function.update_of_ne href]
        by_cases hres : ref = res
        · rw [hres, hassigned.result, Function.update_self]
        · rw [hassigned.frame ref hres fun heq => href (Option.some.inj heq).symm,
            Function.update_of_ne hres]
    rw [heap_eq]
    exact hquotient.update ⟨hr, hremvalue⟩ rem

/-- An allowed call is performed, and computes what it computes of the integers. -/
lemma Represents.perform {heap : ρ → BigInteger} {values : ρ → ℤ} {op : Operation ρ}
    (h : Represents heap values) (hallowed : Allowed heap op) :
    ∃ heap', perform heap op = some heap' ∧ Represents heap' (compute values op) := by
  cases op with
  | assignInt64 self val =>
    obtain ⟨hlow, hhigh⟩ : -2 ^ 63 < val ∧ val < 2 ^ 63 := hallowed
    exact ⟨_, rfl, h.update (ofInt64_spec (by omega)) self⟩
  | assignUint64 self val =>
    obtain ⟨hwell, hsign, hmagnitude⟩ := ofUint64_spec hallowed
    refine ⟨_, rfl, h.update ⟨hwell, ?_⟩ self⟩
    rw [value, hsign, hmagnitude, Int.one_mul]
  | assign self val => exact ⟨_, rfl, h.update (h val) self⟩
  | swap self other => exact ⟨_, rfl, (h.update (h other) self).update (h self) other⟩
  | pow self exp =>
    have hpow := pow_value (h self).1 hallowed exp
    rw [(h self).2] at hpow
    exact ⟨_, rfl, h.update hpow self⟩
  | multiply self other res =>
    have hproduct := multiply_value (h self).1 (h other).1
    rw [(h self).2, (h other).2] at hproduct
    exact ⟨_, rfl, h.update hproduct res⟩
  | divide self divisor res rem =>
    obtain ⟨halias, hne, hcondition⟩ := hallowed
    obtain ⟨heap', hdone, hrepresents⟩ := h.divide halias hne hcondition
    exact ⟨heap', by simp only [BigInteger.perform, hdone], hrepresents⟩
  | add self x =>
    obtain ⟨sum, hrun, hsum⟩ := add_value (h self).1 hallowed
    rw [(h self).2] at hsum
    exact ⟨_, by rw [BigInteger.perform, hrun]; rfl, h.update hsum self⟩
  | negate self =>
    have hnegated := Ignite.Decimal.negate_spec (h self).1
    rw [(h self).2] at hnegated
    exact ⟨_, rfl, h.update hnegated self⟩
  | getPowerOfTen pow res =>
    obtain ⟨n, rfl⟩ := Int.eq_ofNat_of_zero_le hallowed
    obtain ⟨x, hrun, hwell, hsign, hmagnitude⟩ := getPowerOfTen_spec n
    refine ⟨_, by rw [BigInteger.perform, hrun]; rfl, h.update ⟨hwell, ?_⟩ res⟩
    rw [value, hsign, hmagnitude, Int.one_mul, Int.toNat_natCast]
    push_cast
    rfl

/-- A run of allowed calls on any objects is performed, keeps all of them well-formed, and computes what
the calls compute of the integers, whichever objects are the same. -/
theorem run_represents {heap : ρ → BigInteger} {values : ρ → ℤ} (h : Represents heap values)
    {ops : List (Operation ρ)} (hallowed : Meets Allowed perform heap ops) :
    ∃ heap', run perform heap ops = some heap' ∧ Represents heap' (ops.foldl compute values) :=
  exists_run_of_meets (fun _ _ _ => Represents.perform) h hallowed

/-- A run with a division whose quotient goes into the object of the dividend. -/
def sampleRun : List (Operation ℕ) :=
  [.assignInt64 0 (-7), .getPowerOfTen 3 1, .multiply 0 1 1, .add 1 5, .negate 0,
    .divide 1 0 1 (some 2)]

/-- -7005 divided by 7. -/
theorem run_represents_sampleRun :
    ∃ heap', run perform (fun _ => ofInt64 0) sampleRun = some heap' ∧
      ((heap' 0).value = 7 ∧ (heap' 1).value = -1000 ∧ (heap' 2).value = -5) ∧
        ∀ ref, (heap' ref).WellFormed := by
  have hzero : Represents (fun _ : ℕ => ofInt64 0) fun _ => 0 := fun _ => ofInt64_spec (by decide)
  have hallowed : Meets Allowed perform (fun _ => ofInt64 0) sampleRun := by
    refine (meets_cons rfl).mpr ⟨⟨by decide, by decide⟩, ?_⟩
    refine (meets_cons rfl).mpr ⟨show (0 : ℤ) ≤ 3 by decide, ?_⟩
    refine (meets_cons rfl).mpr ⟨trivial, ?_⟩
    refine (meets_cons rfl).mpr ⟨show 5 < 2 ^ 64 by decide, ?_⟩
    refine (meets_cons rfl).mpr ⟨trivial, ?_⟩
    refine (meets_cons rfl).mpr ⟨⟨⟨nofun, nofun, nofun⟩, by decide, ?_⟩, trivial⟩
    exact ⟨.inr (.inr ⟨by decide, .inl (by decide)⟩), fun _ => .inr (.inl (by decide))⟩
  obtain ⟨heap', hrun, hrepresents⟩ := run_represents hzero hallowed
  exact ⟨heap', hrun, ⟨(hrepresents 0).2, (hrepresents 1).2, (hrepresents 2).2⟩,
    fun ref => (hrepresents ref).1⟩

end BigInteger

end TimestreamOdbc
