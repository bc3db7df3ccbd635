import TimestreamOdbc.Ignite.BigInteger

/-!
# Words of big integers

What the loops over words compute, as numbers: a shift multiplies or divides by a power of 2, and a
multiplied magnitude is subtracted with a borrow.
-/

namespace TimestreamOdbc

/-! ## Leading zeros -/

/-- The state of the count: the number was shifted by one less than the count, and now has a bit from
`low` on. -/
structure CountedZeros (i low : ℕ) (s : ℕ × ℕ) : Prop where
  shifted : i * 2 ^ (s.1 - 1) = s.2
  pos : 1 ≤ s.1
  le : 2 ^ low ≤ s.2
  lt : s.2 < 2 ^ 32

/-- One step of the count halves the bits in which the first one is looked for. -/
lemma CountedZeros.skipZeros {i bits : ℕ} {s : ℕ × ℕ} (hbits : 2 * bits ≤ 32)
    (h : CountedZeros i (32 - 2 * bits) s) : CountedZeros i (32 - bits) (skipZeros bits s) := by
  obtain ⟨n, w⟩ := s
  obtain ⟨hshifted, hpos, hle, hlt⟩ := h
  simp only at hshifted hpos hle hlt
  have hpow : (2 : ℕ) ^ 32 = 2 ^ (32 - bits) * 2 ^ bits := by rw [← pow_add]; congr 1; omega
  have hlow : (2 : ℕ) ^ (32 - bits) = 2 ^ (32 - 2 * bits) * 2 ^ bits := by
    rw [← pow_add]
    congr 1
    omega
  unfold TimestreamOdbc.skipZeros
  simp only [Nat.shiftRight_eq_div_pow, Nat.shiftLeft_eq]
  by_cases hzero : w / 2 ^ (32 - bits) = 0
  · have hsmall : w < 2 ^ (32 - bits) := by
      rcases Nat.div_eq_zero_iff.mp hzero with h | h
      · exact absurd h (by positivity)
      · exact h
    rw [if_pos hzero]
    refine ⟨?_, by simp only; omega, ?_, ?_⟩
    · simp only
      rw [← hshifted, show n + bits - 1 = n - 1 + bits by omega, pow_add, Nat.mul_assoc]
    · simp only
      rw [hlow]
      exact Nat.mul_le_mul_right _ hle
    · simp only
      rw [hpow]
      exact Nat.mul_lt_mul_of_pos_right hsmall (by positivity)
  · rw [if_neg hzero]
    exact ⟨hshifted, hpos, (Nat.div_pos_iff.mp (Nat.pos_of_ne_zero hzero)).2, hlt⟩

/-- A word that is not 0, shifted by its leading zeros, has its highest bit. -/
lemma numberOfLeadingZerosU32_spec {i : ℕ} (hpos : 0 < i) (hlt : i < 2 ^ 32) :
    2 ^ 31 ≤ i * 2 ^ numberOfLeadingZerosU32 i ∧ i * 2 ^ numberOfLeadingZerosU32 i < 2 ^ 32 := by
  have hstart : CountedZeros i (32 - 2 * 16) (1, i) := ⟨by simp, le_rfl, hpos, hlt⟩
  have h := (((hstart.skipZeros (by decide)).skipZeros (show 2 * 8 ≤ 32 by decide)).skipZeros
    (show 2 * 4 ≤ 32 by decide)).skipZeros (show 2 * 2 ≤ 32 by decide)
  rw [numberOfLeadingZerosU32, if_neg hpos.ne']
  generalize TimestreamOdbc.skipZeros 2 (TimestreamOdbc.skipZeros 4 (TimestreamOdbc.skipZeros 8
    (TimestreamOdbc.skipZeros 16 (1, i)))) = s at h ⊢
  obtain ⟨hshifted, hcount, hle, hbound⟩ := h
  simp only [Nat.shiftRight_eq_div_pow]
  by_cases htop : s.2 < 2 ^ 31
  · have hmul : i * 2 ^ s.1 = 2 * s.2 := by
      rw [← hshifted, show s.1 = s.1 - 1 + 1 by omega, pow_succ, Nat.add_sub_cancel]
      ring
    rw [Nat.div_eq_of_lt htop, Nat.sub_zero, hmul]
    omega
  · rw [show s.2 / 2 ^ 31 = 1 by omega, hshifted]
    omega

/-- A word that is not 0 has at most 31 leading zeros. -/
lemma numberOfLeadingZerosU32_lt {i : ℕ} (hpos : 0 < i) (hlt : i < 2 ^ 32) :
    numberOfLeadingZerosU32 i < 32 := by
  have h := (numberOfLeadingZerosU32_spec hpos hlt).2
  have hle : 2 ^ numberOfLeadingZerosU32 i ≤ i * 2 ^ numberOfLeadingZerosU32 i :=
    Nat.le_mul_of_pos_left _ hpos
  exact (Nat.pow_lt_pow_iff_right (by decide)).mp (hle.trans_lt h)

namespace BigInteger

/-! ## Shifts -/

/-- The bits of two words that meet in one. -/
lemma shiftLeft_or_eq {w previous n : ℕ} (hn : n ≤ 32) (hprevious : previous < 2 ^ 32) :
    ((w <<< n) % 2 ^ 32 ||| previous >>> (32 - n)) =
      w % 2 ^ (32 - n) * 2 ^ n + previous / 2 ^ (32 - n) := by
  have hpow : (2 : ℕ) ^ 32 = 2 ^ (32 - n) * 2 ^ n := by rw [← pow_add]; congr 1; omega
  have hhigh : (w <<< n) % 2 ^ 32 = (w % 2 ^ (32 - n)) <<< n := by
    rw [Nat.shiftLeft_eq, Nat.shiftLeft_eq, hpow, Nat.mul_mod_mul_right]
  have hlow : previous / 2 ^ (32 - n) < 2 ^ n := by
    apply Nat.div_lt_of_lt_mul
    rwa [← hpow]
  rw [hhigh, Nat.shiftRight_eq_div_pow, ← Nat.shiftLeft_add_eq_or_of_lt hlow, Nat.shiftLeft_eq]

/-- A shift to the left multiplies, up to the bits that leave the highest word. -/
lemma ofDigits_shiftLeftWords {n : ℕ} (hn : n ≤ 32) {words : List ℕ} (h : ∀ w ∈ words, w < 2 ^ 32)
    {previous : ℕ} (hprevious : previous < 2 ^ 32) :
    Nat.ofDigits (2 ^ 32) (shiftLeftWords n previous words) +
        words.getLastD previous / 2 ^ (32 - n) * (2 ^ 32) ^ words.length =
      Nat.ofDigits (2 ^ 32) words * 2 ^ n + previous / 2 ^ (32 - n) := by
  induction words generalizing previous with
  | nil => simp [shiftLeftWords]
  | cons w words ih =>
    obtain ⟨hw, hwords⟩ := List.forall_mem_cons.mp h
    have hrest := ih hwords hw
    have hpow : (2 : ℕ) ^ 32 = 2 ^ n * 2 ^ (32 - n) := by rw [← pow_add]; congr 1; omega
    have hsplit : w * 2 ^ n = w % 2 ^ (32 - n) * 2 ^ n + w / 2 ^ (32 - n) * 2 ^ 32 := by
      conv_lhs => rw [← Nat.mod_add_div w (2 ^ (32 - n))]
      rw [hpow]
      ring
    rw [shiftLeftWords, Nat.ofDigits_cons, Nat.ofDigits_cons, shiftLeft_or_eq hn hprevious,
      List.getLastD_cons, List.length_cons, pow_succ (2 ^ 32) words.length, Nat.add_mul, hsplit]
    have hscaled := congrArg (2 ^ 32 * ·) hrest
    simp only [Nat.mul_add] at hscaled
    linarith

/-- A word of a shift to the left is a word. -/
lemma lt_of_mem_shiftLeftWords {n : ℕ} {words : List ℕ} {previous : ℕ}
    (h : ∀ w ∈ words, w < 2 ^ 32) (hprevious : previous < 2 ^ 32) :
    ∀ w ∈ shiftLeftWords n previous words, w < 2 ^ 32 := by
  induction words generalizing previous with
  | nil => simp [shiftLeftWords]
  | cons w words ih =>
    obtain ⟨hw, hwords⟩ := List.forall_mem_cons.mp h
    rw [shiftLeftWords, List.forall_mem_cons]
    refine ⟨?_, ih hwords hw⟩
    refine Nat.or_lt_two_pow (Nat.mod_lt _ (by decide)) ?_
    rw [Nat.shiftRight_eq_div_pow]
    exact (Nat.div_le_self _ _).trans_lt hprevious

/-- A shift keeps the number of words. -/
@[simp] lemma length_shiftLeftWords (n previous : ℕ) (words : List ℕ) :
    (shiftLeftWords n previous words).length = words.length := by
  induction words generalizing previous with
  | nil => rfl
  | cons w words ih => rw [shiftLeftWords, List.length_cons, List.length_cons, ih]

/-- A shift keeps the number of words. -/
@[simp] lemma length_shiftLeft (n : ℕ) (words : List ℕ) :
    (shiftLeft n words).length = words.length := by
  unfold shiftLeft
  split <;> simp

/-- A word of a shift to the left is a word. -/
lemma lt_of_mem_shiftLeft {n : ℕ} {words : List ℕ} (h : ∀ w ∈ words, w < 2 ^ 32) :
    ∀ w ∈ shiftLeft n words, w < 2 ^ 32 := by
  unfold shiftLeft
  split
  · exact h
  · exact lt_of_mem_shiftLeftWords h (by decide)

/-- A shift to the left multiplies, up to the bits that leave the highest word. -/
lemma ofDigits_shiftLeft {n : ℕ} (hn : n < 32) {words : List ℕ} (h : ∀ w ∈ words, w < 2 ^ 32) :
    Nat.ofDigits (2 ^ 32) (shiftLeft n words) +
        words.getLastD 0 / 2 ^ (32 - n) * (2 ^ 32) ^ words.length =
      Nat.ofDigits (2 ^ 32) words * 2 ^ n := by
  unfold shiftLeft
  by_cases hzero : n = 0
  · have hlast : words.getLastD 0 < 2 ^ 32 := by
      cases words with
      | nil => decide
      | cons w words =>
        rw [List.getLastD_cons, ← List.getLast_eq_getLastD (List.cons_ne_nil w words)]
        exact h _ (List.getLast_mem _)
    rw [if_pos hzero, hzero, Nat.sub_zero, Nat.div_eq_of_lt hlast]
    simp
  · rw [if_neg hzero]
    simpa using ofDigits_shiftLeftWords hn.le h (show 0 < 2 ^ 32 by decide)

/-- A shift to the right divides. -/
lemma ofDigits_shiftRightWords {n : ℕ} (hn : n ≤ 32) {words : List ℕ}
    (h : ∀ w ∈ words, w < 2 ^ 32) :
    Nat.ofDigits (2 ^ 32) (shiftRightWords n words) = Nat.ofDigits (2 ^ 32) words / 2 ^ n := by
  induction words using shiftRightWords.induct with
  | case1 => simp [shiftRightWords]
  | case2 w => simp [shiftRightWords, Nat.shiftRight_eq_div_pow]
  | case3 w next words ih =>
    obtain ⟨hw, hwords⟩ := List.forall_mem_cons.mp h
    have hpow : (2 : ℕ) ^ 32 = 2 ^ n * 2 ^ (32 - n) := by rw [← pow_add]; congr 1; omega
    set rest := Nat.ofDigits (2 ^ 32) (next :: words) with hrest
    have hnext : next % 2 ^ n = rest % 2 ^ n := by
      rw [hrest, Nat.ofDigits_cons, hpow, Nat.mul_assoc, Nat.add_mul_mod_self_left]
    have hword : (w >>> n ||| (next <<< (32 - n)) % 2 ^ 32) =
        w / 2 ^ n + next % 2 ^ n * 2 ^ (32 - n) := by
      have hor := shiftLeft_or_eq (w := next) (n := 32 - n) (by omega) hw
      rw [Nat.sub_sub_self hn] at hor
      rw [Nat.or_comm, hor, Nat.add_comm]
    rw [shiftRightWords, Nat.ofDigits_cons, ih hwords, Nat.ofDigits_cons, ← hrest, hword, hnext]
    have hdiv : (w + 2 ^ 32 * rest) / 2 ^ n = w / 2 ^ n + 2 ^ (32 - n) * rest := by
      rw [hpow, Nat.mul_assoc, Nat.add_mul_div_left _ _ (by positivity)]
    rw [hdiv]
    conv_rhs => rw [← Nat.mod_add_div rest (2 ^ n)]
    rw [hpow]
    ring

/-- A word of a shift to the right is a word. -/
lemma lt_of_mem_shiftRightWords {n : ℕ} {words : List ℕ} (h : ∀ w ∈ words, w < 2 ^ 32) :
    ∀ w ∈ shiftRightWords n words, w < 2 ^ 32 := by
  have hshift {w : ℕ} (hw : w < 2 ^ 32) : w >>> n < 2 ^ 32 := by
    rw [Nat.shiftRight_eq_div_pow]
    exact (Nat.div_le_self _ _).trans_lt hw
  induction words using shiftRightWords.induct with
  | case1 => simp [shiftRightWords]
  | case2 w => simpa [shiftRightWords] using hshift (h w (by simp))
  | case3 w next words ih =>
    obtain ⟨hw, hwords⟩ := List.forall_mem_cons.mp h
    rw [shiftRightWords, List.forall_mem_cons]
    exact ⟨Nat.or_lt_two_pow (hshift hw) (Nat.mod_lt _ (by decide)), ih hwords⟩

/-- A shift to the right divides, and gives words. -/
lemma shiftRight_spec {n : ℕ} (hn : n ≤ 32) {words : List ℕ} (h : ∀ w ∈ words, w < 2 ^ 32) :
    Nat.ofDigits (2 ^ 32) (shiftRight n words) = Nat.ofDigits (2 ^ 32) words / 2 ^ n ∧
      ∀ w ∈ shiftRight n words, w < 2 ^ 32 := by
  unfold shiftRight
  by_cases hzero : n = 0
  · rw [if_pos hzero, hzero, pow_zero, Nat.div_one]
    exact ⟨rfl, h⟩
  · rw [if_neg hzero]
    exact ⟨ofDigits_shiftRightWords hn h, lt_of_mem_shiftRightWords h⟩

/-! ## Subtraction -/

/-- One word of the subtraction: the difference in 64 bits is the difference, and the new carry takes
the word of it away. -/
lemma multiplyAndSubstruct_word {w a x carry : ℕ} (hw : w < 2 ^ 32) (ha : a < 2 ^ 32)
    (hx : x < 2 ^ 32) (hcarry : carry ≤ x) :
    let product := a * x % 2 ^ 64
    let difference := ((w : ℤ) - carry - (product % 2 ^ 32 : ℕ)).bmod (2 ^ 64)
    let carry' := (((product >>> 32 : ℕ) : ℤ) - difference / 2 ^ 32) % 2 ^ 64
    (difference % 2 ^ 32).toNat < 2 ^ 32 ∧ carry'.toNat ≤ x ∧
      (difference % 2 ^ 32).toNat + x * a + carry = w + carry'.toNat * 2 ^ 32 := by
  intro product difference carry'
  have hle : a * x ≤ (2 ^ 32 - 1) * (2 ^ 32 - 1) := Nat.mul_le_mul (by omega) (by omega)
  have hproduct : product = a * x := Nat.mod_eq_of_lt (by omega)
  have hdifference : difference = (w : ℤ) - carry - (product % 2 ^ 32 : ℕ) := by
    refine Int.bmod_eq_of_le ?_ ?_ <;> omega
  have hquotient : product >>> 32 = product / 2 ^ 32 := Nat.shiftRight_eq_div_pow ..
  have hbound : product / 2 ^ 32 ≤ x := by
    rw [hproduct]
    exact (Nat.div_le_div_right (Nat.mul_le_mul_right x ha.le)).trans
      (Nat.mul_div_cancel_left x (by decide)).le
  have hcarry' : carry' = (product / 2 ^ 32 : ℕ) - difference / 2 ^ 32 := by
    have : carry' = ((product / 2 ^ 32 : ℕ) - difference / 2 ^ 32) % 2 ^ 64 := by
      simp only [carry', hquotient]
    rw [this]
    exact Int.emod_eq_of_lt (by omega) (by omega)
  have heq : (difference % 2 ^ 32).toNat + x * a + carry = w + carry'.toNat * 2 ^ 32 := by
    rw [Nat.mul_comm x a, ← hproduct]
    omega
  refine ⟨by omega, ?_, heq⟩
  by_contra hgt
  have hmul : (x + 1) * 2 ^ 32 ≤ carry'.toNat * 2 ^ 32 := Nat.mul_le_mul_right _ (by omega)
  have hxa : x * a ≤ x * (2 ^ 32 - 1) := Nat.mul_le_mul_left _ (by omega)
  omega

/-- The subtraction of `x` times `a`, as an equation of numbers.  The words behind those of `a` stay. -/
lemma multiplyAndSubstruct_spec {x : ℕ} (hx : x < 2 ^ 32) {q a : List ℕ}
    (hq : ∀ w ∈ q, w < 2 ^ 32) (ha : ∀ w ∈ a, w < 2 ^ 32) (hle : a.length ≤ q.length) {carry : ℕ}
    (hcarry : carry ≤ x) :
    ∃ out borrow, multiplyAndSubstruct x q a carry = some (out, borrow) ∧ borrow ≤ x ∧
      (∀ w ∈ out, w < 2 ^ 32) ∧ out.length = q.length ∧ out.drop a.length = q.drop a.length ∧
      Nat.ofDigits (2 ^ 32) out + x * Nat.ofDigits (2 ^ 32) a + carry =
        Nat.ofDigits (2 ^ 32) q + borrow * (2 ^ 32) ^ a.length := by
  induction a generalizing q carry with
  | nil =>
    refine ⟨q, carry, ?_, hcarry, hq, rfl, rfl, by simp⟩
    rw [multiplyAndSubstruct, Nat.mod_eq_of_lt (by omega)]
  | cons a as ih =>
    cases q with
    | nil => simp at hle
    | cons w q =>
      obtain ⟨hw, hq⟩ := List.forall_mem_cons.mp hq
      obtain ⟨ha, has⟩ := List.forall_mem_cons.mp ha
      obtain ⟨hword, hcarry', heq⟩ := multiplyAndSubstruct_word hw ha hx hcarry
      obtain ⟨out, borrow, hrun, hborrow, hout, hlength, hdrop, hsum⟩ :=
        ih hq has (by simpa using hle) hcarry'
      refine ⟨_, borrow, by rw [multiplyAndSubstruct, hrun]; rfl, hborrow,
        List.forall_mem_cons.mpr ⟨hword, hout⟩, by simp [hlength], by simpa using hdrop, ?_⟩
      have hscaled := congrArg (2 ^ 32 * ·) hsum
      simp only [Nat.mul_add] at hscaled
      rw [Nat.ofDigits_cons, Nat.ofDigits_cons, Nat.ofDigits_cons, List.length_cons,
        pow_succ (2 ^ 32) as.length]
      linarith

/-! ## Reads -/

/-- A read in range finds the digit of the magnitude at the index. -/
lemma wordAt_eq {mag : List ℕ} (h : ∀ w ∈ mag, w < 2 ^ 32) {index : ℤ} {k : ℕ} (hindex : index = k)
    (hk : k < mag.length) :
    wordAt mag index = some (Nat.ofDigits (2 ^ 32) mag / (2 ^ 32) ^ k % 2 ^ 32) := by
  rw [wordAt, if_pos (by omega), hindex, Int.toNat_natCast, LongDivision.getElem?_eq h hk]

/-- A read at a negative index finds nothing. -/
lemma wordAt_of_neg (mag : List ℕ) {index : ℤ} (h : index < 0) : wordAt mag index = none :=
  if_neg (not_le.mpr h)

/-! ## Comparison -/

/-- The comparison of words, from the highest one on, is that of the numbers. -/
lemma compareWords_spec {ws ws' : List ℕ} (h : ∀ w ∈ ws, w < 2 ^ 32) (h' : ∀ w ∈ ws', w < 2 ^ 32)
    (hlength : ws.length = ws'.length) :
    compareWords ws ws' =
      if Nat.ofDigits (2 ^ 32) ws.reverse = Nat.ofDigits (2 ^ 32) ws'.reverse then 0
      else if Nat.ofDigits (2 ^ 32) ws'.reverse < Nat.ofDigits (2 ^ 32) ws.reverse then 1 else -1 := by
  induction ws generalizing ws' with
  | nil =>
    cases ws' with
    | nil => rfl
    | cons w' ws' => simp at hlength
  | cons w ws ih =>
    cases ws' with
    | nil => simp at hlength
    | cons w' ws' =>
      obtain ⟨hw, hws⟩ := List.forall_mem_cons.mp h
      obtain ⟨hw', hws'⟩ := List.forall_mem_cons.mp h'
      have hlen : ws.length = ws'.length := by simpa using hlength
      have hbound : Nat.ofDigits (2 ^ 32) ws.reverse < (2 ^ 32) ^ ws.length := by
        simpa using Nat.ofDigits_lt_base_pow_length (by decide) (l := ws.reverse)
          (fun x hx => hws x (List.mem_reverse.mp hx))
      have hbound' : Nat.ofDigits (2 ^ 32) ws'.reverse < (2 ^ 32) ^ ws.length := by
        simpa [hlen] using Nat.ofDigits_lt_base_pow_length (by decide) (l := ws'.reverse)
          (fun x hx => hws' x (List.mem_reverse.mp hx))
      rw [compareWords, ih hws hws' hlen]
      simp only [List.reverse_cons, Nat.ofDigits_append, Nat.ofDigits_singleton,
        List.length_reverse, ← hlen]
      generalize (2 ^ 32) ^ ws.length = p at *
      rcases lt_trichotomy w w' with hlt | rfl | hgt
      · have hmul : p * (w + 1) ≤ p * w' := Nat.mul_le_mul_left _ hlt
        rw [Nat.mul_add, Nat.mul_one] at hmul
        rw [if_neg hlt.ne, if_neg (by omega), if_neg (by omega), if_neg (by omega)]
      · simp
      · have hmul : p * (w' + 1) ≤ p * w := Nat.mul_le_mul_left _ hgt
        rw [Nat.mul_add, Nat.mul_one] at hmul
        rw [if_neg hgt.ne', if_pos hgt, if_neg (by omega), if_pos (by omega)]

/-- The comparison of magnitudes is that of the numbers. -/
lemma compareMagnitude_spec {mag mag' : List ℕ} (h : LongDivision.Canonical (2 ^ 32) mag)
    (h' : LongDivision.Canonical (2 ^ 32) mag') :
    compareMagnitude mag mag' =
      if Nat.ofDigits (2 ^ 32) mag = Nat.ofDigits (2 ^ 32) mag' then 0
      else if Nat.ofDigits (2 ^ 32) mag' < Nat.ofDigits (2 ^ 32) mag then 1 else -1 := by
  unfold compareMagnitude
  rcases lt_trichotomy mag.length mag'.length with hlt | heq | hgt
  · have hvalue := h.ofDigits_lt_of_length_lt (by decide) h' hlt
    rw [if_pos hlt.ne, if_neg hlt.not_gt, if_neg hvalue.ne, if_neg hvalue.not_gt]
  · rw [if_neg (not_not.mpr heq), compareWords_spec (fun w hw => h.lt w (List.mem_reverse.mp hw))
      (fun w hw => h'.lt w (List.mem_reverse.mp hw)) (by simpa using heq), List.reverse_reverse,
      List.reverse_reverse]
  · have hvalue := h'.ofDigits_lt_of_length_lt (by decide) h hgt
    rw [if_pos hgt.ne', if_pos hgt, if_neg hvalue.ne', if_pos hvalue]

end BigInteger

end TimestreamOdbc
