import TimestreamOdbc.App.TimestreamColumn

/-!
# Integer conversions

An integer of a column is read from its text, and a string is read through a stream when the target
is a number.  Both ways a text that is no such number, or one that is too large for the reader,
becomes some number, which is then narrowed to the target.  None of this is reported, so that an
exact conversion needs an integer that fits on every step of the way.
-/

namespace TimestreamOdbc

/-! ## Integer targets -/

namespace OdbcNativeType

/-- The size and the signedness of the C types that are integers. -/
def intLayout : OdbcNativeType → Option (ℕ × Bool)
  | .aiSignedTinyint => some (1, true)
  | .aiBit | .aiUnsignedTinyint => some (1, false)
  | .aiSignedShort => some (2, true)
  | .aiUnsignedShort => some (2, false)
  | .aiSignedLong => some (4, true)
  | .aiUnsignedLong => some (4, false)
  | .aiSignedBigint => some (8, true)
  | .aiUnsignedBigint => some (8, false)
  | _ => none

/-- The C types that hold integers. -/
def IsInteger (type : OdbcNativeType) : Prop := type = .aiNumeric ∨ type.intLayout.isSome

/-- The integers of a C type: 0 and 1 for a bit, and up to 38 digits for `SQL_NUMERIC_STRUCT`. -/
def Holds (type : OdbcNativeType) (n : ℤ) : Prop :=
  match type, type.intLayout with
  | .aiBit, _ => n = 0 ∨ n = 1
  | .aiNumeric, _ => n.natAbs < 10 ^ 38
  | _, some (size, true) => -2 ^ (8 * size - 1) ≤ n ∧ n < 2 ^ (8 * size - 1)
  | _, some (size, false) => 0 ≤ n ∧ n < 2 ^ (8 * size)
  | _, none => False

/-- The integer that a program reads from the target, at its width and signedness. -/
def readBack (type : OdbcNativeType) : Stored → Option ℤ
  | .scalar size bits =>
    match type.intLayout with
    | some (width, signed) =>
      if width = size then
        some (if signed then (bits : ℤ).bmod (2 ^ (8 * size)) else bits)
      else none
    | none => none
  | .numeric _ 0 sign val =>
    if type = .aiNumeric then some (if sign = 0 then -(val : ℤ) else val) else none
  | _ => none

end OdbcNativeType

/-! ## Integer sources -/

/-- The integer that a text is in decimal notation, if it is one. -/
def decimalInteger : Text → Option ℤ
  | [] => none
  | '-' :: digits =>
    if digits ≠ [] ∧ allDigits digits then some (-(Nat.ofDigitChars 10 digits 0 : ℤ)) else none
  | digits => if allDigits digits then some (Nat.ofDigitChars 10 digits 0 : ℤ) else none

/-- The integer that a value of a column is. -/
def ScalarType.integer? : ScalarType → Text → Option ℤ
  | .boolean, value =>
    if value = "true".toList then some 1 else if value = "false".toList then some 0 else none
  | .integer, value | .bigint, value | .varchar, value => decimalInteger value
  | _, _ => none

/-- The values of the columns that are integers, as the service writes them, and any string. -/
def ScalarType.IntegerValue : ScalarType → Text → Prop
  | .boolean, value => value = "true".toList ∨ value = "false".toList
  | .integer, value => ∃ n : ℤ, -2 ^ 31 ≤ n ∧ n < 2 ^ 31 ∧ value = printInt n
  | .bigint, value => ∃ n : ℤ, -2 ^ 63 ≤ n ∧ n < 2 ^ 63 ∧ value = printInt n
  | .varchar, _ => True
  | _, _ => False

/-- What is expected of an integer conversion: a success stores the integer that the source is, and
a source that is none of the target is reported and not stored. -/
structure ConvertsExactly (type : OdbcNativeType) (source : Option ℤ) (put : Put) : Prop where
  exact : put.result = .aiSuccess →
    ∃ n, source = some n ∧ put.stored.bind type.readBack = some n
  reported : (∀ n, source = some n → ¬ type.Holds n) →
    put.result ≠ .aiSuccess ∧ put.stored = none

/-- An integer that fits into what it is read as and into the target: 64 bits for every source, and
a `long` for a `BIGINT`. -/
def Fits (P : ColumnPlatform) (scalarType : ScalarType) (type : OdbcNativeType) (n : ℤ) : Prop :=
  -2 ^ 63 ≤ n ∧ n < 2 ^ 63 ∧
    (scalarType = .bigint → -2 ^ (8 * P.longSize - 1) ≤ n ∧ n < 2 ^ (8 * P.longSize - 1)) ∧
    type.Holds n

/-! ## Putting an integer -/

/-- What is left of an integer in a target. -/
def OdbcNativeType.narrowed (type : OdbcNativeType) (value : ℤ) : ℤ :=
  match type.intLayout with
  | some (width, true) => value.bmod (2 ^ (8 * width))
  | some (width, false) => value % 2 ^ (8 * width)
  | none => value

/-- Nothing is left of 0 but 0. -/
lemma OdbcNativeType.narrowed_zero (type : OdbcNativeType) : type.narrowed 0 = 0 := by
  cases type <;> rfl

/-- What is left of an integer is read back from the target, and every conversion is a success. -/
lemma readBack_putNum {b : ApplicationDataBuffer} (htype : b.type.IsInteger)
    (hbuffer : b.buffer = true) (P : Platform) (size : ℕ) (value : ℤ) :
    ∃ put, b.putNum P size value = some put ∧ put.result = .aiSuccess ∧
      put.stored.bind b.type.readBack = some (b.type.narrowed value) := by
  rcases htype with hnumeric | hlayout
  · have hput : b.putNum P size value = some ⟨.aiSuccess,
        some (.numeric (digitLength value.natAbs) 0 (if value < 0 then 0 else 1) value.natAbs),
        b.resLen sizeOfNumericStruct, b.cellOffset⟩ := by
      simp only [ApplicationDataBuffer.putNum, hnumeric, hbuffer, if_true]
    refine ⟨_, hput, rfl, ?_⟩
    simp only [Option.bind_some, hnumeric, OdbcNativeType.readBack, if_true,
      OdbcNativeType.narrowed, OdbcNativeType.intLayout, Option.some.injEq]
    by_cases hneg : value < 0
    · simp only [hneg, if_true]
      omega
    · simp only [hneg, if_false, Nat.one_ne_zero]
      omega
  · obtain ⟨⟨width, signed⟩, hwidth⟩ := Option.isSome_iff_exists.mp hlayout
    have hput : b.putNum P size value = some (b.putNumToNumBuffer width value) := by
      unfold ApplicationDataBuffer.putNum
      revert hwidth
      generalize b.type = type
      intro hwidth
      cases type <;> simp [OdbcNativeType.intLayout] at hwidth <;> rw [hwidth.1]
    have hpos : (0 : ℤ) < 2 ^ (8 * width) := Int.pow_pos (by decide)
    have hbits : ((value % 2 ^ (8 * width)).toNat : ℤ) = value % 2 ^ (8 * width) :=
      Int.toNat_of_nonneg (Int.emod_nonneg value (by omega))
    have hmod : (value % 2 ^ (8 * width)).bmod (2 ^ (8 * width)) = value.bmod (2 ^ (8 * width)) := by
      have := Int.emod_bmod (x := value) (n := 2 ^ (8 * width))
      push_cast at this
      exact this
    refine ⟨_, hput, rfl, ?_⟩
    simp only [ApplicationDataBuffer.putNumToNumBuffer, hbuffer, if_true, Option.bind_some,
      OdbcNativeType.readBack, OdbcNativeType.narrowed, hwidth, hbits, hmod]
    cases signed <;> rfl

/-- An integer of the target is not changed by the narrowing. -/
lemma narrowed_of_holds {type : OdbcNativeType} {n : ℤ} (h : type.Holds n) :
    type.narrowed n = n := by
  have hbmod (width : ℕ) (hpos : 0 < width) (hlow : -2 ^ (8 * width - 1) ≤ n)
      (hhigh : n < 2 ^ (8 * width - 1)) : n.bmod (2 ^ (8 * width)) = n := by
    have hdouble : 2 ^ (8 * width) = 2 * 2 ^ (8 * width - 1) := by
      rw [← Nat.pow_succ']
      congr 1
      omega
    have hcast : ((2 : ℕ) ^ (8 * width - 1) : ℤ) = 2 ^ (8 * width - 1) := by norm_cast
    rw [hdouble]
    apply Int.bmod_eq_of_le <;> push_cast <;> omega
  cases type with
  | aiBit =>
    rcases h with rfl | rfl <;> rfl
  | aiSignedTinyint => exact hbmod 1 (by decide) h.1 h.2
  | aiSignedShort => exact hbmod 2 (by decide) h.1 h.2
  | aiSignedLong => exact hbmod 4 (by decide) h.1 h.2
  | aiSignedBigint => exact hbmod 8 (by decide) h.1 h.2
  | aiUnsignedTinyint => exact Int.emod_eq_of_lt h.1 h.2
  | aiUnsignedShort => exact Int.emod_eq_of_lt h.1 h.2
  | aiUnsignedLong => exact Int.emod_eq_of_lt h.1 h.2
  | aiUnsignedBigint => exact Int.emod_eq_of_lt h.1 h.2
  | _ => rfl

/-- An integer of more than 64 bits is not what is left of the closest one that has 64. -/
lemma narrowed_clamp_ne {type : OdbcNativeType} {n : ℤ} (h : type.Holds n)
    (hwide : ¬ (-2 ^ 63 ≤ n ∧ n < 2 ^ 63)) :
    type.narrowed (max (-2 ^ 63) (min (2 ^ 63 - 1) n)) ≠ n := by
  cases type with
  | aiUnsignedBigint =>
    have hrange : (0 : ℤ) ≤ n ∧ n < 2 ^ 64 := h
    have hnarrowed : OdbcNativeType.aiUnsignedBigint.narrowed (max (-2 ^ 63) (min (2 ^ 63 - 1) n)) =
        max (-2 ^ 63) (min (2 ^ 63 - 1) n) % 2 ^ 64 := rfl
    rw [hnarrowed]
    omega
  | aiNumeric =>
    have hnarrowed : OdbcNativeType.aiNumeric.narrowed (max (-2 ^ 63) (min (2 ^ 63 - 1) n)) =
        max (-2 ^ 63) (min (2 ^ 63 - 1) n) := rfl
    rw [hnarrowed]
    omega
  | aiBit =>
    have hrange : n = 0 ∨ n = 1 := h
    omega
  | aiSignedTinyint =>
    have hrange : -2 ^ 7 ≤ n ∧ n < 2 ^ 7 := h
    omega
  | aiSignedShort =>
    have hrange : -2 ^ 15 ≤ n ∧ n < 2 ^ 15 := h
    omega
  | aiSignedLong =>
    have hrange : -2 ^ 31 ≤ n ∧ n < 2 ^ 31 := h
    omega
  | aiSignedBigint =>
    have hrange : -2 ^ 63 ≤ n ∧ n < 2 ^ 63 := h
    omega
  | aiUnsignedTinyint =>
    have hrange : 0 ≤ n ∧ n < 2 ^ 8 := h
    omega
  | aiUnsignedShort =>
    have hrange : 0 ≤ n ∧ n < 2 ^ 16 := h
    omega
  | aiUnsignedLong =>
    have hrange : 0 ≤ n ∧ n < 2 ^ 32 := h
    omega
  | _ => exact h.elim

/-! ## Reading an integer -/

/-- What a text that is an integer is made of: a sign and digits. -/
lemma decimalInteger_eq_some {value : Text} {n : ℤ} (h : decimalInteger value = some n) :
    ∃ digits, digits ≠ [] ∧ (∀ c ∈ digits, c.isDigit = true) ∧
      (value = '-' :: digits ∧ n = -(Nat.ofDigitChars 10 digits 0 : ℤ) ∨
        value = digits ∧ n = Nat.ofDigitChars 10 digits 0) := by
  unfold decimalInteger at h
  split at h
  · cases h
  · next digits =>
    split at h
    · next hdigits =>
      exact ⟨digits, hdigits.1, List.all_eq_true.mp hdigits.2, .inl ⟨rfl, (Option.some.inj h).symm⟩⟩
    · cases h
  · next hne _ =>
    split at h
    · next hdigits =>
      exact ⟨value, hne, List.all_eq_true.mp hdigits, .inr ⟨rfl, (Option.some.inj h).symm⟩⟩
    · cases h

/-- Nothing goes on behind a text. -/
lemma endsBefore_nil (length : ℕ) : EndsBefore none length [] := by
  right
  constructor
  · intro w hw
    cases hw
  · intro c hc
    cases hc

/-- A text that is an integer is read as that integer. -/
lemma scanNumber_of_decimalInteger {value : Text} {n : ℤ} (h : decimalInteger value = some n) :
    scanNumber none value = some (n, []) := by
  obtain ⟨digits, hne, hdigits, ⟨rfl, rfl⟩ | ⟨rfl, rfl⟩⟩ := decimalInteger_eq_some h
  · simpa using scanNumber_minus hne hdigits (endsBefore_nil _)
  · simpa using scanNumber_digits hne hdigits (endsBefore_nil _)

/-- A stream reads it as the closest integer of 64 bits. -/
lemma scanInt64_of_decimalInteger {value : Text} {n : ℤ} (h : decimalInteger value = some n) :
    scanInt64 value = max (-2 ^ 63) (min (2 ^ 63 - 1) n) := by
  obtain ⟨digits, hne, hdigits, ⟨rfl, rfl⟩ | ⟨rfl, rfl⟩⟩ := decimalInteger_eq_some h
  · have htake : digits.takeWhile Char.isDigit = digits := List.takeWhile_eq_self_iff.mpr hdigits
    rw [scanInt64, ltrim_cons (by decide)]
    simp only [htake]
    omega
  · obtain ⟨c, digits', rfl⟩ := List.exists_cons_of_ne_nil hne
    have hc := hdigits c List.mem_cons_self
    have htake : (c :: digits').takeWhile Char.isDigit = c :: digits' :=
      List.takeWhile_eq_self_iff.mpr hdigits
    obtain ⟨hminus, hplus⟩ := ne_sign_of_isDigit hc
    rw [scanInt64, ltrim_cons (not_isSpace_of_isDigit hc)]
    split
    · next heq => exact absurd (List.cons.inj heq).1 hminus
    · next heq => exact absurd (List.cons.inj heq).1 hplus
    · rw [htake]
      omega

/-- A printed integer is that integer. -/
lemma decimalInteger_printInt (n : ℤ) : decimalInteger (printInt n) = some n := by
  have hdigits : allDigits (Nat.toDigits 10 n.natAbs) = true := allDigits_toDigits _
  unfold printInt
  split
  · simp only [decimalInteger, ne_eq, Nat.toDigits_ne_nil, not_false_eq_true, hdigits, and_self,
      if_true, Nat.ofDigitChars_ten_toDigits, Option.some.injEq]
    omega
  · obtain ⟨c, digits, hcons⟩ := List.exists_cons_of_ne_nil
      (Nat.toDigits_ne_nil (n := n.natAbs) (b := 10))
    have hc : c.isDigit = true := by
      apply Nat.isDigit_of_mem_toDigits (b := 10) (n := n.natAbs) (by decide) (by decide)
      rw [hcons]
      exact List.mem_cons_self
    have hof : Nat.ofDigitChars 10 (c :: digits) 0 = n.natAbs := by
      rw [← hcons, Nat.ofDigitChars_ten_toDigits]
    rw [hcons] at hdigits ⊢
    unfold decimalInteger
    split
    · next heq => cases heq
    · next heq => exact absurd (List.cons.inj heq).1 (ne_sign_of_isDigit hc).1
    · rw [if_pos hdigits, hof]
      congr 1
      omega

/-! ## The conversions -/

/-- What is read of an integer: the closest one of 64 bits, or 0 of a `BIGINT` that is no `long`. -/
def integerRead (P : ColumnPlatform) (scalarType : ScalarType) (n : ℤ) : ℤ :=
  if scalarType = .bigint ∧ ¬ (-2 ^ (8 * P.longSize - 1) ≤ n ∧ n < 2 ^ (8 * P.longSize - 1)) then 0
  else max (-2 ^ 63) (min (2 ^ 63 - 1) n)

/-- The integer of a column is put as what is read of it. -/
lemma parseScalarType_integer (P : ColumnPlatform) {scalarType : ScalarType} {value : Text}
    (hvalue : scalarType.IntegerValue value) {b : ApplicationDataBuffer}
    (htype : b.type.IsInteger) :
    ∃ size read, parseScalarType P scalarType value b = b.putNum P.toPlatform size read ∧
      ∀ n, scalarType.integer? value = some n → read = integerRead P scalarType n := by
  cases scalarType with
  | boolean =>
    refine ⟨1, _, rfl, ?_⟩
    intro n hn
    rcases hvalue with rfl | rfl
    · obtain rfl : (1 : ℤ) = n := Option.some.inj hn
      rfl
    · obtain rfl : (0 : ℤ) = n := Option.some.inj hn
      rfl
  | integer =>
    refine ⟨4, _, rfl, ?_⟩
    intro n hn
    obtain ⟨m, hlow, hhigh, rfl⟩ := hvalue
    obtain rfl : m = n := Option.some.inj ((decimalInteger_printInt m).symm.trans hn)
    simp only [stringToInt, scanNumber_of_decimalInteger hn, hlow, hhigh, and_self, if_true,
      integerRead, reduceCtorEq, false_and, if_false]
    omega
  | bigint =>
    refine ⟨8, _, rfl, ?_⟩
    intro n hn
    obtain ⟨m, hlow, hhigh, rfl⟩ := hvalue
    obtain rfl : m = n := Option.some.inj ((decimalInteger_printInt m).symm.trans hn)
    simp only [stringToLong, scanNumber_of_decimalInteger hn, integerRead, true_and]
    split
    · omega
    · rfl
  | varchar =>
    refine ⟨8, scanInt64 value, ?_, ?_⟩
    · have hput : b.putString P.toPlatform value = b.putNum P.toPlatform 8 (scanInt64 value) := by
        unfold ApplicationDataBuffer.putString
        rcases htype with hnumeric | hlayout
        · rw [hnumeric]
        · revert hlayout
          generalize b.type = type
          intro hlayout
          cases type <;> first | rfl | cases hlayout
      exact hput
    · intro n hn
      rw [scanInt64_of_decimalInteger hn]
      rfl
  | _ => exact hvalue.elim

end TimestreamOdbc
