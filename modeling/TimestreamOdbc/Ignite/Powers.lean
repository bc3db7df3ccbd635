import TimestreamOdbc.Ignite.Quotient

/-!
# Sums, products and powers of big integers

The rest of the arithmetic of `big_integer.cpp` that decimals use: `Multiply`, `Pow`, `GetPowerOfTen` and
the two overloads of `Add`, each with the number that it computes.
-/

namespace TimestreamOdbc

namespace BigInteger

open LongDivision

/-! ## Operations -/

/-- The inner loop of `Multiply`: `x` times the words of a magnitude is added to the result.  The last
carry is written over the word behind them. -/
def multiplyRow (x : ℕ) : List ℕ → List ℕ → ℕ → List ℕ
  | _, [], _ => []
  | [], _ :: res, carry => carry :: res
  | a :: as, w :: res, carry =>
    let product := (a * x + w + carry) % 2 ^ 64
    product % 2 ^ 32 :: multiplyRow x as res (product >>> 32)

/-- The outer loop of `Multiply`, over the words of the other factor.  The first word of the result is
not touched again by the rounds that follow. -/
def multiplyRows (mag : List ℕ) : List ℕ → List ℕ → List ℕ
  | [], res => res
  | x :: xs, res =>
    match multiplyRow x mag res 0 with
    | [] => []
    | w :: res => w :: multiplyRows mag xs res

/-- `Multiply`. -/
def multiply (a b : BigInteger) : BigInteger :=
  ⟨a.sign * b.sign,
    normalize (multiplyRows a.mag b.mag (List.replicate (a.mag.length + b.mag.length) 0))⟩

/-- The loop of `Pow`. -/
def powLoop (multiplicant res : BigInteger) (mutExp : ℕ) : BigInteger :=
  if mutExp = 0 then res
  else
    let res := if mutExp % 2 = 1 then res.multiply multiplicant else res
    let multiplicant :=
      if mutExp / 2 = 0 then multiplicant else multiplicant.multiply multiplicant
    powLoop multiplicant res (mutExp / 2)
termination_by mutExp

/-- `Pow`. -/
def pow (x : BigInteger) (exp : ℤ) : BigInteger :=
  if exp < 0 then ofInt64 0
  else if x.getBitLength = 0 then x
  else if x.getBitLength = 1 then
    if exp % 2 = 0 ∧ x.sign < 0 then { x with sign := -x.sign } else x
  else powLoop x (ofInt64 1) exp.toNat

/-- `GetPowerOfTen`, which reads a table up to the last power that has 64 bits.  An assertion excludes
negative powers. -/
def getPowerOfTen (pow : ℤ) : Option BigInteger :=
  if pow < 0 then none
  else if pow < 20 then some (ofUint64 (10 ^ pow.toNat))
  else some ((ofInt64 10).pow pow)

/-- `Add` of a single number to a magnitude: the words and the carry. -/
def addCarry : List ℕ → ℕ → List ℕ × ℕ
  | [], carry => ([], carry % 2 ^ 32)
  | w :: res, carry =>
    if carry = 0 then (w :: res, 0)
    else
      let sum := (w + carry) % 2 ^ 64
      let r := addCarry res (sum >>> 32)
      (sum % 2 ^ 32 :: r.1, r.2)

/-- `Add` of a magnitude. -/
def addMagnitude (mag addend : List ℕ) : Option (List ℕ) :=
  let mag := mag ++ List.replicate (addend.length - mag.length) 0
  (addWords mag addend 0).map fun r =>
    if r.2 = 0 then r.1
    else
      let r' := addCarry (r.1.drop addend.length) r.2
      r.1.take addend.length ++ r'.1 ++ if r'.2 = 0 then [] else [r'.2]

/-- `Add` of a number of 64 bits. -/
def add (value : BigInteger) (x : ℕ) : Option BigInteger :=
  if x = 0 then some value
  else if value.mag = [] then some (ofUint64 x)
  else
    let val := if x >>> 32 = 0 then [x % 2 ^ 32] else [x % 2 ^ 32, x >>> 32]
    (addMagnitude value.mag val).map fun mag => { value with mag }

/-! ## Products -/

/-- One word of a product: two words and the product of two fit into 64 bits. -/
lemma multiplyRow_word {a x w carry : ℕ} (ha : a < 2 ^ 32) (hx : x < 2 ^ 32) (hw : w < 2 ^ 32)
    (hcarry : carry < 2 ^ 32) :
    let product := (a * x + w + carry) % 2 ^ 64
    product % 2 ^ 32 < 2 ^ 32 ∧ product >>> 32 < 2 ^ 32 ∧
      product % 2 ^ 32 + 2 ^ 32 * product >>> 32 = a * x + w + carry := by
  intro product
  have hle : a * x ≤ (2 ^ 32 - 1) * (2 ^ 32 - 1) := Nat.mul_le_mul (by omega) (by omega)
  have hproduct : product = a * x + w + carry := Nat.mod_eq_of_lt (by omega)
  rw [Nat.shiftRight_eq_div_pow, Nat.mod_add_div, hproduct]
  omega

/-- A row of a product, as an equation of numbers.  What is behind the word of the last carry stays. -/
lemma multiplyRow_spec {x : ℕ} (hx : x < 2 ^ 32) {mag low : List ℕ} (hmag : ∀ w ∈ mag, w < 2 ^ 32)
    (hlow : ∀ w ∈ low, w < 2 ^ 32) (hlength : low.length = mag.length) {carry : ℕ}
    (hcarry : carry < 2 ^ 32) (last : ℕ) (rest : List ℕ) :
    ∃ out, multiplyRow x mag (low ++ last :: rest) carry = out ++ rest ∧
      out.length = mag.length + 1 ∧ (∀ w ∈ out, w < 2 ^ 32) ∧
      Nat.ofDigits (2 ^ 32) out =
        Nat.ofDigits (2 ^ 32) low + x * Nat.ofDigits (2 ^ 32) mag + carry := by
  induction mag generalizing low carry with
  | nil =>
    obtain rfl := List.length_eq_zero_iff.mp hlength
    exact ⟨[carry], rfl, rfl, by simpa using hcarry, by simp⟩
  | cons a as ih =>
    obtain ⟨w, low, rfl⟩ := List.exists_cons_of_length_eq_add_one hlength
    obtain ⟨ha, has⟩ := List.forall_mem_cons.mp hmag
    obtain ⟨hw, hlow⟩ := List.forall_mem_cons.mp hlow
    obtain ⟨hlt, hcarry', heq⟩ := multiplyRow_word ha hx hw hcarry
    obtain ⟨out, hrun, hlen, hout, hsum⟩ := ih has hlow (by simpa using hlength) hcarry'
    refine ⟨_ :: out, by rw [List.cons_append, multiplyRow, hrun]; rfl, by simp [hlen],
      List.forall_mem_cons.mpr ⟨hlt, hout⟩, ?_⟩
    have hscaled := congrArg (2 ^ 32 * ·) hsum
    simp only [Nat.mul_add] at hscaled
    rw [Nat.ofDigits_cons, Nat.ofDigits_cons, Nat.ofDigits_cons]
    linarith

/-- The rows of a product, as an equation of numbers. -/
lemma multiplyRows_spec {mag : List ℕ} (hmag : ∀ w ∈ mag, w < 2 ^ 32) {xs low : List ℕ}
    (hxs : ∀ w ∈ xs, w < 2 ^ 32) (hlow : ∀ w ∈ low, w < 2 ^ 32) (hlength : low.length = mag.length) :
    (∀ w ∈ multiplyRows mag xs (low ++ List.replicate xs.length 0), w < 2 ^ 32) ∧
      Nat.ofDigits (2 ^ 32) (multiplyRows mag xs (low ++ List.replicate xs.length 0)) =
        Nat.ofDigits (2 ^ 32) low + Nat.ofDigits (2 ^ 32) mag * Nat.ofDigits (2 ^ 32) xs := by
  induction xs generalizing low with
  | nil => simpa [multiplyRows] using hlow
  | cons x xs ih =>
    obtain ⟨hx, hxs⟩ := List.forall_mem_cons.mp hxs
    obtain ⟨out, hrun, hlen, hout, hsum⟩ := multiplyRow_spec hx hmag hlow hlength
      (show 0 < 2 ^ 32 by decide) 0 (List.replicate xs.length 0)
    obtain ⟨w, out, rfl⟩ := List.exists_cons_of_length_eq_add_one hlen
    obtain ⟨hw, hout⟩ := List.forall_mem_cons.mp hout
    obtain ⟨hlt, heq⟩ := ih hxs hout (by simpa using hlen)
    rw [List.length_cons, List.replicate_succ, multiplyRows, hrun, List.cons_append]
    refine ⟨List.forall_mem_cons.mpr ⟨hw, hlt⟩, ?_⟩
    have hscaled := congrArg (2 ^ 32 * ·) heq
    simp only [Nat.mul_add] at hscaled
    rw [Nat.ofDigits_cons] at hsum
    rw [Nat.ofDigits_cons, Nat.ofDigits_cons, Nat.mul_add]
    linarith

/-- The product of two big integers. -/
lemma multiply_spec {a b : BigInteger} (ha : a.WellFormed) (hb : b.WellFormed) :
    (a.multiply b).WellFormed ∧ (a.multiply b).magnitude = a.magnitude * b.magnitude := by
  have hzeros : ∀ w ∈ List.replicate a.mag.length 0, w < 2 ^ 32 := by simp
  obtain ⟨hlt, heq⟩ := multiplyRows_spec ha.canonical.lt hb.canonical.lt hzeros (by simp)
  rw [List.replicate_append_replicate] at hlt heq
  obtain ⟨hcanonical, hnormalize⟩ := normalize_spec hlt
  refine ⟨⟨ha.sign_mul hb, hcanonical⟩, ?_⟩
  rw [magnitude, multiply, hnormalize, heq, Nat.ofDigits_replicate_zero, Nat.zero_add]
  rfl

/-! ## Powers -/

/-- The loop of `Pow` multiplies with the power. -/
lemma powLoop_spec {multiplicant res : BigInteger} (hm : multiplicant.WellFormed)
    (hres : res.WellFormed) (hsign : multiplicant.sign = 1) (mutExp : ℕ) :
    (powLoop multiplicant res mutExp).WellFormed ∧
      (powLoop multiplicant res mutExp).sign = res.sign ∧
      (powLoop multiplicant res mutExp).magnitude =
        res.magnitude * multiplicant.magnitude ^ mutExp := by
  induction mutExp using Nat.strongRecOn generalizing multiplicant res with
  | ind mutExp ih =>
    rw [powLoop]
    split
    · next hzero => exact ⟨hres, rfl, by rw [hzero, pow_zero, Nat.mul_one]⟩
    · next hpos =>
      have hsquare := multiply_spec hm hm
      have hproduct := multiply_spec hres hm
      have hstep : (if mutExp % 2 = 1 then res.multiply multiplicant else res).WellFormed ∧
          (if mutExp % 2 = 1 then res.multiply multiplicant else res).sign = res.sign ∧
          (if mutExp % 2 = 1 then res.multiply multiplicant else res).magnitude =
            res.magnitude * multiplicant.magnitude ^ (mutExp % 2) := by
        split
        · next hodd =>
          refine ⟨hproduct.1, ?_, by rw [hproduct.2, hodd, pow_one]⟩
          rw [multiply, hsign, Int.mul_one]
        · next heven =>
          rw [show mutExp % 2 = 0 by omega, pow_zero, Nat.mul_one]
          exact ⟨hres, rfl, rfl⟩
      by_cases hlast : mutExp / 2 = 0
      · obtain ⟨hwell, hsign', hmag⟩ := ih (mutExp / 2) (by omega) hm hstep.1 hsign
        simp only [hlast, if_true] at hwell hsign' hmag ⊢
        refine ⟨hwell, hsign'.trans hstep.2.1, ?_⟩
        rw [hmag, hstep.2.2, pow_zero, Nat.mul_one, show mutExp % 2 = mutExp by omega]
      · obtain ⟨hwell, hsign', hmag⟩ := ih (mutExp / 2) (by omega) hsquare.1 hstep.1
          (by rw [multiply, hsign, Int.mul_one])
        simp only [hlast, if_false] at hwell hsign' hmag ⊢
        refine ⟨hwell, hsign'.trans hstep.2.1, ?_⟩
        rw [hmag, hstep.2.2, hsquare.2, ← pow_two, ← pow_mul, Nat.mul_assoc, ← pow_add,
          Nat.mod_add_div]

/-- A power of ten. -/
lemma getPowerOfTen_spec (n : ℕ) :
    ∃ x, getPowerOfTen n = some x ∧ x.WellFormed ∧ x.sign = 1 ∧ x.magnitude = 10 ^ n := by
  rw [getPowerOfTen, if_neg (by omega)]
  by_cases hsmall : n < 20
  · have hlt : 10 ^ n < 2 ^ 64 := (Nat.pow_le_pow_right (by decide) (show n ≤ 19 by omega)).trans_lt
      (by decide)
    exact ⟨_, by rw [if_pos (by omega), Int.toNat_natCast], ofUint64_spec hlt⟩
  · obtain ⟨hten, hsign, hmag⟩ := ofUint64_spec (show 10 < 2 ^ 64 by decide)
    obtain ⟨hone, honesign, honemag⟩ := ofUint64_spec (show 1 < 2 ^ 64 by decide)
    refine ⟨_, by rw [if_neg (by omega)], ?_⟩
    have hpow : (ofInt64 10).pow n = powLoop (ofUint64 10) (ofUint64 1) n := by
      rw [pow, if_neg (by omega), if_neg (by decide), if_neg (by decide), Int.toNat_natCast]
      rfl
    obtain ⟨hwell, hsign', hmag'⟩ := powLoop_spec hten hone hsign n
    rw [hpow]
    exact ⟨hwell, hsign'.trans honesign, by rw [hmag', honemag, hmag, Nat.one_mul]⟩

/-! ## Sums -/

/-- One word of a sum. -/
lemma add_word {n : ℕ} (h : n < 2 ^ 64) :
    n % 2 ^ 64 % 2 ^ 32 + 2 ^ 32 * (n % 2 ^ 64) >>> 32 = n := by
  rw [Nat.shiftRight_eq_div_pow, Nat.mod_add_div, Nat.mod_eq_of_lt h]

/-- A sum of magnitudes, as an equation of numbers. -/
lemma addWords_spec {res a : List ℕ} (hres : ∀ w ∈ res, w < 2 ^ 32) (ha : ∀ w ∈ a, w < 2 ^ 32)
    (hle : a.length ≤ res.length) {carry : ℕ} (hcarry : carry ≤ 1) :
    ∃ out carry', addWords res a carry = some (out, carry') ∧ carry' ≤ 1 ∧
      (∀ w ∈ out, w < 2 ^ 32) ∧ out.length = res.length ∧
      Nat.ofDigits (2 ^ 32) out + carry' * (2 ^ 32) ^ a.length =
        Nat.ofDigits (2 ^ 32) res + Nat.ofDigits (2 ^ 32) a + carry := by
  induction a generalizing res carry with
  | nil =>
    refine ⟨res, carry, ?_, hcarry, hres, rfl, by simp⟩
    rw [addWords, Nat.mod_eq_of_lt (by omega)]
  | cons a as ih =>
    cases res with
    | nil => simp at hle
    | cons w res =>
      obtain ⟨hw, hres⟩ := List.forall_mem_cons.mp hres
      obtain ⟨ha, has⟩ := List.forall_mem_cons.mp ha
      have hword := add_word (show w + a + carry < 2 ^ 64 by omega)
      have hcarry' : ((w + a + carry) % 2 ^ 64) >>> 32 ≤ 1 := by
        rw [Nat.shiftRight_eq_div_pow]
        omega
      obtain ⟨out, carry', hrun, hlast, hout, hlength, hsum⟩ :=
        ih hres has (by simpa using hle) hcarry'
      refine ⟨_, carry', by rw [addWords, hrun]; rfl, hlast,
        List.forall_mem_cons.mpr ⟨Nat.mod_lt _ (by decide), hout⟩, by simp [hlength], ?_⟩
      have hscaled := congrArg (2 ^ 32 * ·) hsum
      simp only [Nat.mul_add] at hscaled
      rw [Nat.ofDigits_cons, Nat.ofDigits_cons, Nat.ofDigits_cons, List.length_cons,
        pow_succ (2 ^ 32) as.length]
      linarith

/-- A carry added to a magnitude, as an equation of numbers. -/
lemma addCarry_spec {res : List ℕ} (hres : ∀ w ∈ res, w < 2 ^ 32) {carry : ℕ}
    (hcarry : carry < 2 ^ 32) :
    (addCarry res carry).2 < 2 ^ 32 ∧ (∀ w ∈ (addCarry res carry).1, w < 2 ^ 32) ∧
      (addCarry res carry).1.length = res.length ∧
      Nat.ofDigits (2 ^ 32) (addCarry res carry).1 +
          (addCarry res carry).2 * (2 ^ 32) ^ res.length =
        Nat.ofDigits (2 ^ 32) res + carry := by
  induction res generalizing carry with
  | nil =>
    simp only [addCarry, Nat.mod_eq_of_lt hcarry]
    simpa using hcarry
  | cons w res ih =>
    rw [addCarry]
    split
    · next hzero => exact ⟨by simp, hres, rfl, by simp [hzero]⟩
    · obtain ⟨hw, hres⟩ := List.forall_mem_cons.mp hres
      have hword := add_word (show w + carry < 2 ^ 64 by omega)
      have hcarry' : ((w + carry) % 2 ^ 64) >>> 32 < 2 ^ 32 := by
        rw [Nat.shiftRight_eq_div_pow]
        omega
      obtain ⟨hlast, hout, hlength, hsum⟩ := ih hres hcarry'
      refine ⟨hlast, List.forall_mem_cons.mpr ⟨Nat.mod_lt _ (by decide), hout⟩,
        by rw [List.length_cons, hlength, List.length_cons], ?_⟩
      have hscaled := congrArg (2 ^ 32 * ·) hsum
      simp only [Nat.mul_add] at hscaled
      rw [Nat.ofDigits_cons, Nat.ofDigits_cons, List.length_cons, pow_succ (2 ^ 32) res.length]
      linarith

/-- The sum of two magnitudes, of which none is 0. -/
lemma addMagnitude_spec {mag addend : List ℕ} (hmag : Canonical (2 ^ 32) mag) (hne : mag ≠ [])
    (haddend : Canonical (2 ^ 32) addend) (hne' : addend ≠ []) :
    ∃ sum, addMagnitude mag addend = some sum ∧ Canonical (2 ^ 32) sum ∧
      Nat.ofDigits (2 ^ 32) sum = Nat.ofDigits (2 ^ 32) mag + Nat.ofDigits (2 ^ 32) addend := by
  set extended := mag ++ List.replicate (addend.length - mag.length) 0 with hextended
  have hlength : extended.length = max mag.length addend.length := by
    rw [hextended, List.length_append, List.length_replicate]
    omega
  have hlt : ∀ w ∈ extended, w < 2 ^ 32 := by
    intro w hw
    rcases List.mem_append.mp hw with hw | hw
    · exact hmag.lt w hw
    · rw [List.eq_of_mem_replicate hw]
      decide
  obtain ⟨out, carry, hrun, hcarry, hout, hlen, hsum⟩ :=
    addWords_spec hlt haddend.lt (by omega) (Nat.zero_le 1)
  rw [hextended, Nat.ofDigits_append_replicate_zero, Nat.add_zero] at hsum
  -- The sum is not smaller than the longer one of the two.
  have hlarge : (2 ^ 32) ^ (out.length - 1) ≤
      Nat.ofDigits (2 ^ 32) mag + Nat.ofDigits (2 ^ 32) addend := by
    rw [hlen, hlength]
    rcases le_total mag.length addend.length with hle | hle
    · rw [max_eq_right hle]
      exact (haddend.pow_le_ofDigits (by decide) hne').trans (Nat.le_add_left _ _)
    · rw [max_eq_left hle]
      exact (hmag.pow_le_ofDigits (by decide) hne).trans (Nat.le_add_right _ _)
  rw [addMagnitude, ← hextended, hrun, Option.map_some]
  by_cases hzero : carry = 0
  · rw [hzero, Nat.zero_mul, Nat.add_zero] at hsum
    exact ⟨_, by rw [if_pos hzero], canonical_of_pow_le (by decide) hout (hlarge.trans hsum.ge), hsum⟩
  · have hdrop : ∀ w ∈ out.drop addend.length, w < 2 ^ 32 := fun w hw =>
      hout w (List.mem_of_mem_drop hw)
    obtain ⟨hlast, hrest, hrestlen, hrestsum⟩ :=
      addCarry_spec hdrop (show carry < 2 ^ 32 by omega)
    set r := addCarry (out.drop addend.length) carry with hr
    have hwords : ∀ w ∈ out.take addend.length ++ r.1, w < 2 ^ 32 := by
      intro w hw
      rcases List.mem_append.mp hw with hw | hw
      · exact hout w (List.mem_of_mem_take hw)
      · exact hrest w hw
    have htake : (out.take addend.length).length = addend.length := by
      rw [List.length_take]
      omega
    have hwordslen : (out.take addend.length ++ r.1).length = out.length := by
      rw [List.length_append, htake, hrestlen, List.length_drop]
      omega
    have htotal : Nat.ofDigits (2 ^ 32) (out.take addend.length ++ r.1) +
        r.2 * (2 ^ 32) ^ out.length =
          Nat.ofDigits (2 ^ 32) mag + Nat.ofDigits (2 ^ 32) addend := by
      have hsplit : Nat.ofDigits (2 ^ 32) out = Nat.ofDigits (2 ^ 32) (out.take addend.length) +
          (2 ^ 32) ^ addend.length * Nat.ofDigits (2 ^ 32) (out.drop addend.length) := by
        nth_rewrite 1 [← List.take_append_drop addend.length out]
        rw [Nat.ofDigits_append, htake]
      have hpow : (2 ^ 32) ^ out.length =
          (2 ^ 32) ^ addend.length * (2 ^ 32) ^ (out.drop addend.length).length := by
        rw [← pow_add, List.length_drop]
        congr 1
        omega
      have hscaled := congrArg ((2 ^ 32) ^ addend.length * ·) hrestsum
      simp only [Nat.mul_add] at hscaled
      rw [Nat.ofDigits_append, htake, hpow]
      linarith
    have hcanonical := canonical_append_carry (by decide) hwords hlast (by rwa [hwordslen, htotal])
    rw [hwordslen, htotal] at hcanonical
    exact ⟨_, by rw [if_neg hzero], hcanonical⟩

/-- The sum of a big integer that is not negative and a number of 64 bits. -/
lemma add_spec {value : BigInteger} (h : value.WellFormed) (hsign : value.sign = 1) {x : ℕ}
    (hx : x < 2 ^ 64) :
    ∃ sum, value.add x = some sum ∧ sum.WellFormed ∧ sum.sign = 1 ∧
      sum.magnitude = value.magnitude + x := by
  obtain ⟨hwell, hsign', hmag⟩ := ofUint64_spec hx
  rw [add]
  by_cases hzero : x = 0
  · exact ⟨value, by rw [if_pos hzero], h, hsign, by rw [hzero, Nat.add_zero]⟩
  by_cases hempty : value.mag = []
  · refine ⟨_, by rw [if_neg hzero, if_pos hempty], hwell, hsign', ?_⟩
    rw [hmag, magnitude, hempty, Nat.ofDigits_nil, Nat.zero_add]
  · have hval : (ofUint64 x).mag =
        if x >>> 32 = 0 then [x % 2 ^ 32] else [x % 2 ^ 32, x >>> 32] := by
      rw [ofUint64, if_neg hzero]
      split <;> rfl
    have hne : (ofUint64 x).mag ≠ [] := by
      rw [hval]
      split <;> simp
    obtain ⟨sum, hrun, hcanonical, hsum⟩ :=
      addMagnitude_spec h.canonical hempty hwell.canonical hne
    refine ⟨{ value with mag := sum }, ?_, ⟨h.sign, hcanonical⟩, hsign, ?_⟩
    · simp only [if_neg hzero, if_neg hempty, ← hval, hrun, Option.map_some]
    · rw [magnitude, hsum]
      exact congrArg (value.magnitude + ·) hmag

end BigInteger

end TimestreamOdbc
