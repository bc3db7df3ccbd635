import TimestreamOdbc.Ignite.DecimalText
import TimestreamOdbc.DsnMerge

/-!
# The text round trip of decimals

The input operator reads a numeral as the number it denotes, and the output operator writes a numeral
that denotes the number of the decimal, so that a decimal comes back from its text with its number.
-/

namespace TimestreamOdbc.Ignite

namespace Decimal

/-! ## Reading the digits -/

namespace ReadState

/-- The number that has been read: the magnitude, followed by the digits of the part. -/
def total (s : ReadState) : ℕ := s.mag.magnitude * 10 ^ s.partDigits + s.part

/-- What holds between two rounds of the loop. -/
structure Valid (s : ReadState) : Prop where
  mag : s.mag.WellFormed
  sign : s.mag.sign = 1
  part_lt : s.part < 10 ^ 18
  part_lt_pow : s.part < 10 ^ s.partDigits

/-- Nothing has been read at the start. -/
lemma valid_start : start.Valid where
  mag := (BigInteger.ofInt64_spec (show (0 : ℤ).natAbs < 2 ^ 64 by decide)).1
  sign := rfl
  part_lt := by decide
  part_lt_pow := by decide

variable {s : ReadState}

/-- The part is flushed into the magnitude. -/
lemma flush_eq (hmag : s.mag.WellFormed) (hsign : s.mag.sign = 1) (hpart : s.part < 2 ^ 64) :
    ∃ s', s.flush = some s' ∧ s'.Valid ∧ s'.mag.magnitude = s.total ∧ s'.part = 0 ∧
      s'.partDigits = 0 ∧ s'.scale = s.scale := by
  obtain ⟨pow, hpow, hpowwell, hpowsign, hpowmag⟩ := BigInteger.getPowerOfTen_spec s.partDigits
  obtain ⟨hwell, hproduct⟩ := BigInteger.multiply_spec hmag hpowwell
  have hproductsign : (s.mag.multiply pow).sign = 1 := by
    rw [BigInteger.multiply, hsign, hpowsign, Int.mul_one]
  obtain ⟨sum, hsum, hsumwell, hsumsign, hsummag⟩ := BigInteger.add_spec hwell hproductsign hpart
  refine ⟨⟨0, 0, s.scale, sum⟩, ?_, ⟨hsumwell, hsumsign, show 0 < 10 ^ 18 by decide,
    show 0 < 10 ^ 0 by decide⟩, ?_, rfl, rfl, rfl⟩
  · rw [flush, hpow, Option.bind_some, hsum, Option.map_some]
  · rw [hsummag, hproduct, hpowmag, total]

/-- The end of a round keeps the number. -/
lemma advance_eq (hmag : s.mag.WellFormed) (hsign : s.mag.sign = 1) (hpart : s.part < 2 ^ 64)
    (hpow : s.part < 10 ^ s.partDigits) (hle : -1 ≤ s.scale) (hscale : s.scale + 1 < 2 ^ 31) :
    ∃ s', s.advance = some s' ∧ s'.Valid ∧ s'.total = s.total ∧
      s'.partDigits ≤ s.partDigits ∧ s'.scale = if s.scale < 0 then s.scale else s.scale + 1 := by
  obtain ⟨s', hrun, hvalid, htotal, hdigits, hkept⟩ :
      ∃ s', (if 10 ^ 18 ≤ s.part then s.flush else some s) = some s' ∧ s'.Valid ∧
        s'.total = s.total ∧ s'.partDigits ≤ s.partDigits ∧ s'.scale = s.scale := by
    split
    · obtain ⟨s', hrun, hvalid, hmag', hpart', hdigits, hkept⟩ := flush_eq hmag hsign hpart
      refine ⟨s', hrun, hvalid, ?_, by omega, hkept⟩
      rw [total, hdigits, hpart', pow_zero, Nat.mul_one, Nat.add_zero, hmag']
    · next hsmall => exact ⟨s, rfl, ⟨hmag, hsign, not_le.mp hsmall, hpow⟩, rfl, le_rfl, rfl⟩
  rw [advance, hrun, Option.bind_some, hkept]
  by_cases hpoint : 0 ≤ s.scale
  · rw [if_pos hpoint, int32Result_eq (by omega) hscale]
    exact ⟨_, rfl, ⟨hvalid.mag, hvalid.sign, hvalid.part_lt, hvalid.part_lt_pow⟩, htotal, hdigits,
      by rw [if_neg hpoint.not_gt]⟩
  · rw [if_neg hpoint]
    exact ⟨s', rfl, hvalid, htotal, hdigits, by rw [hkept, if_pos (not_le.mp hpoint)]⟩

/-- After the loop the magnitude is the number. -/
lemma finish_eq (h : s.Valid) :
    ∃ s', s.finish = some s' ∧ s'.mag.WellFormed ∧ s'.mag.sign = 1 ∧
      s'.mag.magnitude = s.total ∧ s'.scale = s.scale := by
  rw [finish]
  split
  · next hzero =>
    have hpart : s.part = 0 := by
      have := h.part_lt_pow
      rw [hzero] at this
      omega
    exact ⟨s, rfl, h.mag, h.sign, by rw [total, hzero, hpart, pow_zero, Nat.mul_one, Nat.add_zero],
      rfl⟩
  · obtain ⟨s', hrun, hvalid, hmag, -, -, hscale⟩ :=
      flush_eq h.mag h.sign (h.part_lt.trans (by decide))
    exact ⟨s', hrun, hvalid.mag, hvalid.sign, hmag, hscale⟩

end ReadState

section ReadNumber

variable {s : ReadState}

/-- A digit is read. -/
lemma readNumber_digit {c : Char} (hc : c.isDigit = true) (h : s.Valid) (hle : -1 ≤ s.scale)
    (hdigits : s.partDigits + 1 < 2 ^ 31) (hscale : s.scale + 1 < 2 ^ 31) (rest : Text) :
    ∃ s', readNumber (c :: rest) s = readNumber rest s' ∧ s'.Valid ∧
      s'.total = 10 * s.total + (c.toNat - '0'.toNat) ∧ s'.partDigits ≤ s.partDigits + 1 ∧
      s'.scale = if s.scale < 0 then s.scale else s.scale + 1 := by
  have hvalue : c.toNat - '0'.toNat < 10 := by
    have hle := (Char.isDigit_iff_toNat.mp hc).2
    rw [show '0'.toNat = 48 from rfl, show '9'.toNat = 57 from rfl] at *
    omega
  have hpart : (s.part * 10 + (c.toNat - '0'.toNat)) % 2 ^ 64 =
      s.part * 10 + (c.toNat - '0'.toNat) := by
    have := h.part_lt
    exact Nat.mod_eq_of_lt (by omega)
  have hpow : s.part * 10 + (c.toNat - '0'.toNat) < 10 ^ (s.partDigits + 1) := by
    have := h.part_lt_pow
    rw [pow_succ]
    omega
  obtain ⟨s', hrun, hvalid, htotal, hdigits', hscale'⟩ := ReadState.advance_eq
    (s := { s with part := s.part * 10 + (c.toNat - '0'.toNat), partDigits := s.partDigits + 1 })
    h.mag h.sign (by have := h.part_lt; simp only; omega) hpow hle hscale
  refine ⟨s', ?_, hvalid, ?_, hdigits', hscale'⟩
  · rw [readNumber, if_pos hc, int32Result_eq (by omega) (by omega), Option.bind_some, hpart, hrun,
      Option.bind_some]
  · rw [htotal, ReadState.total, ReadState.total, pow_succ]
    ring

/-- Digits are read as the number that they make together with what is before them. -/
lemma readNumber_digits {digits : Text} (hall : ∀ c ∈ digits, c.isDigit = true) (h : s.Valid)
    (hle : -1 ≤ s.scale) (hdigits : s.partDigits + digits.length < 2 ^ 31)
    (hscale : s.scale + digits.length < 2 ^ 31) (rest : Text) :
    ∃ s', readNumber (digits ++ rest) s = readNumber rest s' ∧ s'.Valid ∧
      s'.total = Nat.ofDigitChars 10 digits s.total ∧
      s'.partDigits ≤ s.partDigits + digits.length ∧
      s'.scale = if s.scale < 0 then s.scale else s.scale + digits.length := by
  induction digits generalizing s with
  | nil => exact ⟨s, rfl, h, rfl, le_rfl, by simp⟩
  | cons c digits ih =>
    obtain ⟨hc, hall⟩ := List.forall_mem_cons.mp hall
    rw [List.length_cons] at hdigits hscale
    obtain ⟨s₁, hrun, hvalid, htotal, hcount, hkept⟩ :=
      readNumber_digit hc h hle (by omega) (by omega) (digits ++ rest)
    have hnext : -1 ≤ s₁.scale ∧ s₁.scale + digits.length < 2 ^ 31 := by
      rw [hkept]
      split <;> omega
    obtain ⟨s', hrun', hvalid', htotal', hcount', hkept'⟩ :=
      ih hall hvalid hnext.1 (by omega) hnext.2
    refine ⟨s', hrun.trans hrun', hvalid', ?_, ?_, ?_⟩
    · rw [htotal', htotal, Nat.ofDigitChars_cons]
    · rw [List.length_cons]
      omega
    · rw [hkept', hkept, List.length_cons]
      push_cast
      split_ifs <;> omega

/-- A point is read once. -/
lemma readNumber_point (h : s.Valid) (hscale : s.scale < 0) (rest : Text) :
    ∃ s', readNumber ('.' :: rest) s = readNumber rest s' ∧ s'.Valid ∧ s'.total = s.total ∧
      s'.partDigits ≤ s.partDigits ∧ s'.scale = 1 := by
  obtain ⟨s', hrun, hvalid, htotal, hdigits, hscale'⟩ := ReadState.advance_eq
    (s := { s with scale := 0 }) h.mag h.sign (h.part_lt.trans (by decide)) h.part_lt_pow
    (show (-1 : ℤ) ≤ 0 by decide) (show (0 : ℤ) + 1 < 2 ^ 31 by decide)
  refine ⟨s', ?_, hvalid, htotal, hdigits, hscale'⟩
  rw [readNumber, if_neg (by decide), if_pos ⟨rfl, hscale⟩, hrun, Option.bind_some]

/-- The loop ends in front of an exponent and at the end of the text. -/
lemma readNumber_exponent (exponent : Option Numeral.Exponent) :
    readNumber (exponent.elim [] Numeral.Exponent.text) s =
      some (s, exponent.elim [] Numeral.Exponent.text) := by
  cases exponent with
  | none => rfl
  | some e =>
    rw [Option.elim_some, Numeral.Exponent.text, List.cons_append, readNumber]
    rcases e.isMark with h | h <;> rw [h] <;> rfl

end ReadNumber

/-- The loop reads the digits of a numeral and counts those behind the point. -/
lemma readNumber_numeral (n : Numeral) (hlength : n.text.length < 2 ^ 31) :
    ∃ s, readNumber n.unsigned ReadState.start =
        some (s, n.exponent.elim [] Numeral.Exponent.text) ∧ s.Valid ∧
      s.total = Nat.ofDigitChars 10 (n.whole ++ n.fraction.getD []) 0 ∧
      (if s.scale < 0 then 0 else s.scale - 1) = (n.fraction.getD []).length := by
  have hwhole : ∀ c ∈ n.whole, c.isDigit = true := fun c hc => n.isDigit c (by simp [hc])
  have hbound : n.whole.length + (n.fraction.elim [] ('.' :: ·)).length ≤ n.text.length := by
    rw [Numeral.text, Numeral.unsigned]
    simp only [List.length_append]
    omega
  obtain ⟨s₁, hrun₁, hvalid₁, htotal₁, hdigits₁, hscale₁⟩ :=
    readNumber_digits hwhole ReadState.valid_start (le_refl (-1))
      (show 0 + n.whole.length < 2 ^ 31 by omega)
      (show (-1 : ℤ) + n.whole.length < 2 ^ 31 by omega)
      (n.fraction.elim [] ('.' :: ·) ++ n.exponent.elim [] Numeral.Exponent.text)
  rw [show ReadState.start.scale = -1 from rfl, if_pos (by decide)] at hscale₁
  rw [show ReadState.start.total = 0 from rfl] at htotal₁
  rw [show ReadState.start.partDigits = 0 from rfl] at hdigits₁
  rw [Numeral.unsigned, hrun₁]
  cases hfraction : n.fraction with
  | none =>
    rw [Option.elim_none, List.nil_append, readNumber_exponent]
    exact ⟨s₁, rfl, hvalid₁, by simpa using htotal₁, by simp [hscale₁]⟩
  | some fraction =>
    have hall : ∀ c ∈ fraction, c.isDigit = true := fun c hc =>
      n.isDigit c (by simp [hfraction, hc])
    rw [hfraction, Option.elim_some, List.length_cons] at hbound
    obtain ⟨s₂, hrun₂, hvalid₂, htotal₂, hdigits₂, hscale₂⟩ :=
      readNumber_point hvalid₁ (by omega)
        (fraction ++ n.exponent.elim [] Numeral.Exponent.text)
    obtain ⟨s₃, hrun₃, hvalid₃, htotal₃, hdigits₃, hscale₃⟩ :=
      readNumber_digits hall hvalid₂ (by omega) (by omega) (by omega)
        (n.exponent.elim [] Numeral.Exponent.text)
    rw [Option.elim_some, List.cons_append, hrun₂, hrun₃, readNumber_exponent]
    refine ⟨s₃, rfl, hvalid₃, ?_, ?_⟩
    · rw [htotal₃, htotal₂, htotal₁, Option.getD_some, Nat.ofDigitChars_append]
    · rw [hscale₃, if_neg (by omega), if_neg (by omega), Option.getD_some]
      omega

/-! ## Reading a numeral -/

/-- A digit is no white space. -/
lemma isSpace_of_isDigit {c : Char} (hc : c.isDigit = true) : isSpace c = false := by
  by_contra hspace
  simp only [isSpace, Bool.not_eq_false, Bool.or_eq_true, decide_eq_true_eq] at hspace
  rcases hspace with ((((rfl | rfl) | rfl) | rfl) | rfl) | rfl <;> exact absurd hc (by decide)

/-- Nothing is trimmed from a text that does not start with white space. -/
lemma ltrim_of_head {text : Text} (h : ∀ c ∈ text.head?, isSpace c = false) : ltrim text = text := by
  cases text with
  | nil => rfl
  | cons c text => exact List.dropWhile_cons_of_neg (by simp [h c rfl])

/-- An exponent is read as the number it denotes. -/
lemma readExponent_eq {exponent : Option Numeral.Exponent}
    (hle : -2 ^ 31 ≤ exponent.elim 0 Numeral.Exponent.value)
    (hlt : exponent.elim 0 Numeral.Exponent.value < 2 ^ 31) :
    readExponent (exponent.elim [] Numeral.Exponent.text) =
      exponent.elim 0 Numeral.Exponent.value := by
  cases exponent with
  | none => rfl
  | some e =>
    simp only [Option.elim_some] at hle hlt ⊢
    have hdigits : e.digits.takeWhile Char.isDigit = e.digits :=
      List.takeWhile_eq_self_iff.mpr e.isDigit
    have hcast : lexicalCastInt 0 (e.sign.text ++ e.digits) = Int32.ofInt e.value := by
      rw [Numeral.Exponent.value] at hle hlt ⊢
      cases hsign : e.sign with
      | minus =>
        rw [hsign, Numeral.Sign.factor] at hle hlt
        rw [lexicalCastInt, ltrim_of_head (by simp [Numeral.Sign.text]; decide)]
        simp only [Numeral.Sign.text, List.cons_append, List.nil_append, reduceCtorEq, if_false,
          readInt32, hdigits, Numeral.Sign.factor]
        congr 1
        omega
      | plus =>
        rw [hsign, Numeral.Sign.factor] at hle hlt
        rw [lexicalCastInt, ltrim_of_head (by simp [Numeral.Sign.text]; decide)]
        simp only [Numeral.Sign.text, List.cons_append, List.nil_append, reduceCtorEq, if_false,
          readInt32, hdigits, Numeral.Sign.factor]
        congr 1
        omega
      | none =>
        rw [hsign, Numeral.Sign.factor, Int.one_mul] at hle hlt
        rw [Numeral.Sign.text, List.nil_append, Numeral.Sign.factor, Int.one_mul]
        by_cases hne : e.digits = []
        · rw [hne]
          rfl
        · rw [lexicalCastInt_of_allDigits hne (List.all_eq_true.mpr e.isDigit)]
          congr 1
          omega
    have hread : readExponent e.text = (lexicalCastInt 0 (e.sign.text ++ e.digits)).toInt := by
      rw [Numeral.Exponent.text, List.cons_append]
      rcases e.isMark with h | h <;> rw [h] <;> rfl
    rw [hread, hcast, Int32.toInt_ofInt_of_le hle hlt]

/-- A sign is read, and nothing in place of one. -/
lemma readSign_text (n : Numeral) : readSign n.text = (n.sign.factor, n.unsigned) := by
  rw [Numeral.text]
  cases n.sign with
  | minus => rfl
  | plus => rfl
  | none =>
    rw [Numeral.Sign.text, List.nil_append]
    have hhead := @Numeral.head_unsigned n
    cases hunsigned : n.unsigned with
    | nil => rfl
    | cons c rest =>
      have hc := hhead (c := c) (by rw [hunsigned]; rfl)
      unfold readSign
      split
      · next heq =>
        obtain rfl : c = '-' := (List.cons.inj heq).1
        exact absurd hc (by decide)
      · next heq =>
        obtain rfl : c = '+' := (List.cons.inj heq).1
        exact absurd hc (by decide)
      · rfl

/-- A numeral does not start with white space. -/
lemma ltrim_text (n : Numeral) : ltrim n.text = n.text := by
  refine ltrim_of_head fun c hc => ?_
  rw [Numeral.text] at hc
  cases hsign : n.sign with
  | none =>
    rw [hsign] at hc
    rcases n.head_unsigned hc with hdigit | rfl | rfl | rfl
    · exact isSpace_of_isDigit hdigit
    all_goals rfl
  | plus =>
    rw [hsign] at hc
    obtain rfl : '+' = c := by simpa [Numeral.Sign.text] using hc
    rfl
  | minus =>
    rw [hsign] at hc
    obtain rfl : '-' = c := by simpa [Numeral.Sign.text] using hc
    rfl

/-- The negated magnitude. -/
lemma negate_spec {mag : BigInteger} (h : mag.WellFormed) :
    (negate mag).WellFormed ∧ (negate mag).value = -mag.value := by
  rw [negate]
  split
  · next hempty =>
    refine ⟨h, ?_⟩
    rw [BigInteger.value, BigInteger.magnitude, hempty, Nat.ofDigits_nil, Int.natCast_zero,
      Int.mul_zero, Int.neg_zero]
  · refine ⟨⟨?_, h.canonical⟩, ?_⟩
    · rcases h.sign with hsign | hsign
      · exact .inr (by rw [hsign])
      · exact .inl (by rw [hsign, Int.neg_neg])
    · exact Int.neg_mul ..

/-- When a numeral is shorter than `2 ^ 31` characters, and its exponent and the number of its digits
behind the point less the exponent have 32 bits, it is read as the number it denotes. -/
lemma read_text (n : Numeral) (hlength : n.text.length < 2 ^ 31)
    (hexponent : n.exponentValue ∈ Set.Ico (-2 ^ 31) (2 ^ 31))
    (hscale : (n.fraction.getD []).length - n.exponentValue ∈ Set.Ico (-2 ^ 31 : ℤ) (2 ^ 31)) :
    ∃ d, read n.text = some d ∧ d.WellFormed ∧ d.toRat = n.value := by
  obtain ⟨s, hrun, hvalid, htotal, hpoint⟩ := readNumber_numeral n hlength
  obtain ⟨s', hfinish, hwell, hsign, hmag, hkept⟩ := ReadState.finish_eq hvalid
  have hread : readExponent (n.exponent.elim [] Numeral.Exponent.text) = n.exponentValue :=
    readExponent_eq hexponent.1 hexponent.2
  have hvalue : s'.mag.value = Nat.ofDigitChars 10 (n.whole ++ n.fraction.getD []) 0 := by
    rw [BigInteger.value, hsign, hmag, htotal, Int.one_mul]
  rw [read, ltrim_text]
  split
  · next hempty =>
    have hzero : Nat.ofDigitChars 10 (n.whole ++ n.fraction.getD []) 0 = 0 := by
      have hunsigned : n.unsigned = [] := (List.append_eq_nil_iff.mp hempty).2
      have hstart : some (ReadState.start, []) =
          some (s, n.exponent.elim [] Numeral.Exponent.text) := by rwa [hunsigned] at hrun
      obtain ⟨rfl, -⟩ := Prod.mk.inj (Option.some.inj hstart)
      exact htotal.symm
    obtain ⟨hwell, hzerovalue⟩ := BigInteger.ofInt64_spec (show (0 : ℤ).natAbs < 2 ^ 64 by decide)
    refine ⟨_, rfl, ⟨hwell, by decide, by decide⟩, ?_⟩
    rw [n.value_eq, hzero, toRat, hzerovalue]
    simp
  · rw [readSign_text]
    simp only [hrun, Option.bind_some, hfinish, hkept, hpoint, hread,
      int32Result_eq hscale.1 hscale.2, Option.map_some]
    refine ⟨_, rfl, ⟨?_, hscale.1, hscale.2⟩, ?_⟩
    · simp only
      split
      · exact (negate_spec hwell).1
      · exact hwell
    · have hfactor : (if n.sign.factor < 0 then negate s'.mag else s'.mag).value =
          n.sign.factor * Nat.ofDigitChars 10 (n.whole ++ n.fraction.getD []) 0 := by
        cases n.sign with
        | minus =>
          rw [Numeral.Sign.factor, if_pos (by decide), (negate_spec hwell).2, hvalue]
          ring
        | plus => rw [Numeral.Sign.factor, if_neg (by decide), hvalue, Int.one_mul]
        | none => rw [Numeral.Sign.factor, if_neg (by decide), hvalue, Int.one_mul]
      rw [n.value_eq, toRat, hfactor, Int.neg_sub]

/-! ## Writing -/

/-- The zeros at the end of digits are taken off. -/
lemma exists_eq_append_zeros (digits : Text) :
    ∃ k, digits = digits.rdropWhile (· = '0') ++ List.replicate k '0' := by
  have hzeros : digits.rtakeWhile (· = '0') =
      List.replicate (digits.rtakeWhile (· = '0')).length '0' :=
    List.eq_replicate_iff.mpr ⟨rfl, fun c hc => by simpa using List.mem_rtakeWhile_imp hc⟩
  exact ⟨_, by rw [← hzeros, List.rdropWhile_append_rtakeWhile]⟩

/-- The digits that are written in front of the point. -/
def writtenWhole (digits : Text) (scale : ℕ) : Text :=
  if digits.length ≤ scale then ['0'] else digits.take (digits.length - scale)

/-- The digits that are written behind the point: without the zeros at their end. -/
def writtenFraction (digits : Text) (scale : ℕ) : Text :=
  if digits.length ≤ scale then
    List.replicate (scale - digits.length) '0' ++ digits.rdropWhile (· = '0')
  else (digits.rdropWhile (· = '0')).drop (digits.length - scale)

/-- What is written denotes the digits divided by the power of ten. -/
lemma pointValue_written (digits : Text) (scale : ℕ) :
    Decimal.pointValue (writtenWhole digits scale) (writtenFraction digits scale) =
      Nat.ofDigitChars 10 digits 0 / 10 ^ scale := by
  obtain ⟨k, hk⟩ := exists_eq_append_zeros digits
  by_cases hle : digits.length ≤ scale
  · rw [writtenWhole, writtenFraction, if_pos hle, if_pos hle,
      ← Decimal.pointValue_append_zeros _ _ k, List.append_assoc, ← hk,
      Decimal.pointValue_eq, List.singleton_append, Nat.ofDigitChars_cons,
      Nat.ofDigitChars_append, Nat.ofDigitChars_replicate_zero, List.length_append,
      List.length_replicate, Nat.sub_add_cancel hle]
    simp
  · have hdrop : (digits.rdropWhile (· = '0')).drop (digits.length - scale) ++
        List.replicate (k - (digits.length - scale - (digits.rdropWhile (· = '0')).length)) '0' =
          digits.drop (digits.length - scale) := by
      conv_rhs => rw [hk]
      rw [List.drop_append, List.drop_replicate, ← hk]
    rw [writtenWhole, writtenFraction, if_neg hle, if_neg hle,
      ← Decimal.pointValue_append_zeros, hdrop, Decimal.pointValue_eq, List.take_append_drop,
      List.length_drop, Nat.sub_sub_self (not_le.mp hle).le]

/-- The characters that are written around the point are digits. -/
lemma isDigit_written {digits : Text} (h : ∀ c ∈ digits, c.isDigit = true) (scale : ℕ) {c : Char}
    (hc : c ∈ writtenWhole digits scale ++ writtenFraction digits scale) : c.isDigit = true := by
  have htrimmed {c : Char} (hc : c ∈ digits.rdropWhile (· = '0')) : c.isDigit = true :=
    h c ((List.rdropWhile_prefix _ _).subset hc)
  rw [writtenWhole, writtenFraction] at hc
  split at hc
  · rcases List.mem_append.mp hc with hc | hc
    · rw [List.mem_singleton.mp hc]
      rfl
    · rcases List.mem_append.mp hc with hc | hc
      · rw [List.eq_of_mem_replicate hc]
        rfl
      · exact htrimmed hc
  · rcases List.mem_append.mp hc with hc | hc
    · exact h c (List.mem_of_mem_take hc)
    · exact htrimmed (List.mem_of_mem_drop hc)

/-- The point is placed between the two, and is left out when no digits follow it. -/
lemma placePoint_eq {sign : Numeral.Sign} (hsign : sign ≠ .plus) {digits : Text}
    (h : ∀ c ∈ digits, c.isDigit = true) (scale : ℕ) :
    placePoint (sign.text ++ digits) (sign.text ++ digits).length scale =
      sign.text ++ (writtenWhole digits scale ++
        if digits.length ≤ scale ∨ writtenFraction digits scale ≠ [] then
          '.' :: writtenFraction digits scale else []) := by
  have hbegin : (if (sign.text ++ digits).head? = some '-' then 1 else 0) = sign.text.length := by
    cases sign with
    | plus => exact absurd rfl hsign
    | minus => rfl
    | none =>
      rw [if_neg]
      · rfl
      · intro hhead
        exact absurd (h '-' (List.mem_of_mem_head? hhead)) (by decide)
  have hlen : ((digits.rdropWhile (· = '0')).length : ℤ) ≤ digits.length := by
    exact_mod_cast (List.rdropWhile_prefix (· = '0') digits).length_le
  have htake : digits.take (digits.rdropWhile (· = '0')).length = digits.rdropWhile (· = '0') :=
    (List.prefix_iff_eq_take.mp (List.rdropWhile_prefix (· = '0') digits)).symm
  have hdot : ((sign.text ++ digits).length : ℤ) - sign.text.length - scale =
      digits.length - scale := by
    rw [List.length_append]
    omega
  unfold placePoint
  simp only [hbegin, List.take_left, List.drop_left, hdot]
  rw [writtenWhole, writtenFraction]
  by_cases hle : digits.length ≤ scale
  · have hzeros : (-((digits.length : ℤ) - scale)).toNat = scale - digits.length := by omega
    have hcount : ((sign.text.length : ℤ) + (digits.rdropWhile (· = '0')).length - 1 -
        sign.text.length + 1).toNat = (digits.rdropWhile (· = '0')).length := by omega
    rw [if_pos (by omega), hzeros, hcount, htake, if_pos hle, if_pos hle, if_pos (.inl hle)]
    rfl
  · have hwhole : ((digits.length : ℤ) - scale).toNat = digits.length - scale := by omega
    have hafter : (sign.text.length : ℤ) + (digits.rdropWhile (· = '0')).length - 1 -
        (digits.length - scale) - sign.text.length + 1 =
          (digits.rdropWhile (· = '0')).length - (digits.length - scale) := by omega
    have hnat : ((digits.rdropWhile (· = '0')).length - ((digits.length : ℤ) - scale)).toNat =
        (digits.rdropWhile (· = '0')).length - (digits.length - scale) := by omega
    have hempty : (digits.rdropWhile (· = '0')).drop (digits.length - scale) ≠ [] ↔
        (0 : ℤ) < (digits.rdropWhile (· = '0')).length - (digits.length - scale) := by
      rw [Ne, List.drop_eq_nil_iff]
      omega
    rw [if_neg (by omega), hwhole, hafter, hnat, ← List.drop_take, htake, if_neg hle, if_neg hle]
    simp only [hle, false_or, hempty]

/-- The sign that is written. -/
def writtenSign (x : BigInteger) : Numeral.Sign := if x.sign < 0 then .minus else .none

/-- The number with the sign that is written. -/
lemma factor_writtenSign {x : BigInteger} (h : x.WellFormed) :
    (writtenSign x).factor = x.sign := by
  rcases h.sign with hsign | hsign <;> rw [writtenSign, hsign] <;> rfl

/-- A big integer is written as its sign and its digits. -/
lemma magnitude_write_eq {x : BigInteger} (h : x.WellFormed) (hne : x.mag ≠ []) :
    x.write = some ((writtenSign x).text ++ Nat.toDigits 10 x.magnitude) := by
  rw [BigInteger.write_eq h hne, writtenSign]
  split <;> rfl

section Write

variable {d : Decimal} (h : d.WellFormed) (hscale : -2 ^ 31 < d.scale)
  (hsize : ∀ unscaled ∈ d.magnitude.write, unscaled.length < 2 ^ 31)

include h hscale hsize

/-- A decimal is written as a numeral that denotes its number. -/
lemma write_eq :
    ∃ n : Numeral, d.write = some n.text ∧ n.exponent = none ∧ n.value = d.toRat := by
  have hdigit : ∀ c ∈ Nat.toDigits 10 d.magnitude.magnitude, c.isDigit = true := fun c hc =>
    Nat.isDigit_of_mem_toDigits (by decide) (by decide) hc
  rw [write]
  split
  · next hempty =>
    refine ⟨⟨.none, ['0'], none, none, by simp⟩, rfl, rfl, ?_⟩
    have hpoint : Decimal.pointValue ['0'] [] = 0 := by
      rw [Decimal.pointValue_eq, show Nat.ofDigitChars 10 (['0'] ++ []) 0 = 0 from rfl,
        Nat.cast_zero, zero_div]
    refine (Numeral.value_of_exponent_eq_none rfl Option.getD_none).trans ?_
    rw [hpoint, toRat, BigInteger.value, BigInteger.magnitude, hempty]
    simp
  next hne =>
  have hwrite := magnitude_write_eq h.magnitude hne
  split
  · next hle =>
    refine ⟨⟨writtenSign d.magnitude, Nat.toDigits 10 d.magnitude.magnitude ++
      List.replicate (-d.scale).toNat '0', none, none, ?_⟩, ?_, rfl, ?_⟩
    · intro c hc
      rw [Option.getD_none, List.append_nil] at hc
      rcases List.mem_append.mp hc with hc | hc
      · exact hdigit c hc
      · rw [List.eq_of_mem_replicate hc]
        rfl
    · rw [hwrite, Option.bind_some, int32Result_eq (by omega) (by omega), Option.map_some,
        Numeral.text, Numeral.unsigned]
      simp
    · have hpow : (10 : ℚ) ^ (-d.scale) = 10 ^ (-d.scale).toNat := by
        rw [← zpow_natCast, Int.toNat_of_nonneg (by omega)]
      have hpoint : Decimal.pointValue (Nat.toDigits 10 d.magnitude.magnitude ++
          List.replicate (-d.scale).toNat '0') [] =
            (10 ^ (-d.scale).toNat * d.magnitude.magnitude : ℕ) := by
        rw [Decimal.pointValue_eq, List.append_nil, Nat.ofDigitChars_append,
          Nat.ofDigitChars_replicate_zero, Nat.ofDigitChars_ten_toDigits, List.length_nil, pow_zero,
          div_one]
      refine (Numeral.value_of_exponent_eq_none rfl Option.getD_none).trans ?_
      rw [factor_writtenSign h.magnitude, hpoint, toRat, hpow, BigInteger.value]
      push_cast
      ring
  · next hgt =>
    obtain ⟨scale, hscale⟩ := Int.eq_ofNat_of_zero_le (not_le.mp hgt).le
    set digits := Nat.toDigits 10 d.magnitude.magnitude with hdigits
    have hlength := hsize _ hwrite
    have hfraction : (if digits.length ≤ scale ∨ writtenFraction digits scale ≠ [] then
        some (writtenFraction digits scale) else none).getD [] = writtenFraction digits scale := by
      split
      · rfl
      · next hnot =>
        rw [not_or, not_not] at hnot
        rw [hnot.2, Option.getD_none]
    refine ⟨⟨writtenSign d.magnitude, writtenWhole digits scale,
      if digits.length ≤ scale ∨ writtenFraction digits scale ≠ [] then
        some (writtenFraction digits scale) else none, none, ?_⟩, ?_, rfl, ?_⟩
    · rw [hfraction]
      exact fun c hc => isDigit_written hdigit scale hc
    · have hsign : writtenSign d.magnitude ≠ .plus := by
        rw [writtenSign]
        split <;> decide
      rw [hwrite, Option.bind_some, int32Result_eq (by omega) (by omega), Option.map_some, hscale,
        placePoint_eq hsign hdigit, Numeral.text, Numeral.unsigned]
      congr 2
      split <;> simp
    · refine (Numeral.value_of_exponent_eq_none rfl hfraction).trans ?_
      rw [factor_writtenSign h.magnitude, pointValue_written, hdigits,
        Nat.ofDigitChars_ten_toDigits, toRat, hscale, BigInteger.value, zpow_neg, zpow_natCast]
      push_cast
      ring

end Write

/-! ## The round trip -/

/-- A text is read as a decimal of a number. -/
def ReadsAs (text : Text) (number : ℚ) : Prop := ∃ d, read text = some d ∧ d.toRat = number

/-- A decimal is written as a text that is read as its number, and a numeral is read as the number it
denotes, as long as texts are shorter than `2 ^ 31` characters and scales and exponents have 32 bits, the
scale of the written decimal also with the other sign. -/
theorem decimal_text_readsAs :
    (∀ d : Decimal, d.WellFormed → -2 ^ 31 < d.scale →
      (∀ unscaled ∈ d.magnitude.write, unscaled.length < 2 ^ 31) →
      ∃ text, d.write = some text ∧ (text.length < 2 ^ 31 → ReadsAs text d.toRat)) ∧
    ∀ n : Numeral, n.text.length < 2 ^ 31 → n.exponentValue ∈ Set.Ico (-2 ^ 31) (2 ^ 31) →
      (n.fraction.getD []).length - n.exponentValue ∈ Set.Ico (-2 ^ 31 : ℤ) (2 ^ 31) →
      ReadsAs n.text n.value := by
  constructor
  · intro d h hscale hsize
    obtain ⟨n, hwrite, hexponent, hvalue⟩ := write_eq h hscale hsize
    refine ⟨n.text, hwrite, fun hlength => ?_⟩
    have hzero : n.exponentValue = 0 := by rw [Numeral.exponentValue, hexponent, Option.elim_none]
    have hfraction : (n.fraction.getD []).length ≤ n.text.length := by
      rw [Numeral.text, Numeral.unsigned]
      cases n.fraction with
      | none => simp
      | some fraction =>
        simp only [Option.getD_some, Option.elim_some, List.length_append, List.length_cons]
        omega
    obtain ⟨d', hread, -, hrat⟩ := read_text n hlength (by rw [hzero]; decide)
      (by rw [hzero, Set.mem_Ico]; omega)
    exact ⟨d', hread, hrat.trans hvalue⟩
  · intro n hlength hexponent hscale
    obtain ⟨d, hread, -, hrat⟩ := read_text n hlength hexponent hscale
    exact ⟨d, hread, hrat⟩

/-- -15.00 is written and read again, and `2.50e3` is read. -/
theorem decimal_text_readsAs_minusFifteen :
    (∃ text, (⟨2, ⟨-1, [1500]⟩⟩ : Decimal).write = some text ∧
      (text.length < 2 ^ 31 → ReadsAs text (⟨2, ⟨-1, [1500]⟩⟩ : Decimal).toRat)) ∧
    ReadsAs "2.50e3".toList (Numeral.mk .none ['2'] (some ['5', '0'])
      (some ⟨'e', .none, ['3'], .inl rfl, List.all_eq_true.mp rfl⟩)
      (List.all_eq_true.mp rfl)).value :=
  ⟨decimal_text_readsAs.1 ⟨2, ⟨-1, [1500]⟩⟩
      ⟨⟨.inr rfl, by decide, by decide⟩, by decide, by decide⟩ (by decide) (by decide +kernel),
    decimal_text_readsAs.2 (Numeral.mk .none ['2'] (some ['5', '0'])
      (some ⟨'e', .none, ['3'], .inl rfl, List.all_eq_true.mp rfl⟩)
      (List.all_eq_true.mp rfl)) (by decide) (by decide)
      (by decide)⟩

/-- The exponent of `1e2147483648` is cut off, and the lowest scale has no text. -/
theorem not_readsAs_hugeExponent :
    ¬ ReadsAs "1e2147483648".toList (Numeral.mk .none ['1'] none
      (some ⟨'e', .none, "2147483648".toList, .inl rfl, List.all_eq_true.mp rfl⟩)
      (List.all_eq_true.mp rfl)).value ∧
    (⟨-2 ^ 31, ⟨1, [1]⟩⟩ : Decimal).write = none := by
  refine ⟨?_, rfl⟩
  rintro ⟨d, hread, hvalue⟩
  have hcut : read "1e2147483648".toList = some ⟨-2147483647, ⟨1, [1]⟩⟩ := rfl
  obtain rfl := Option.some.inj (hread.symm.trans hcut)
  have hone : (⟨1, [1]⟩ : BigInteger).value = 1 := by decide
  -- The digits denote 1, and the exponents differ.
  have hexponent : Numeral.exponentValue (Numeral.mk .none ['1'] none
      (some ⟨'e', .none, "2147483648".toList, .inl rfl, List.all_eq_true.mp rfl⟩)
      (List.all_eq_true.mp rfl)) = 2147483648 := rfl
  have hpowers : (10 : ℚ) ^ (2147483647 : ℤ) = 10 ^ (2147483648 : ℤ) := by
    rw [toRat, hone, Numeral.value_eq, hexponent] at hvalue
    change ((1 : ℤ) : ℚ) * 10 ^ (2147483647 : ℤ) = ((1 : ℤ) : ℚ) * 10 ^ (2147483648 : ℤ) at hvalue
    rwa [Int.cast_one, one_mul, one_mul] at hvalue
  exact absurd (zpow_right_injective₀ (by norm_num) (by norm_num) hpowers) (by decide)

end Decimal

end TimestreamOdbc.Ignite
