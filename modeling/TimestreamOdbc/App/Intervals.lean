import TimestreamOdbc.App.TemporalRoundTrip
import TimestreamOdbc.App.IntegerConversions

/-!
# Intervals

The text of an interval has one sign for the whole of it, and `sscanf` puts the sign on the leading
field.  The formatter, the marker of the structure, the number of seconds and the comparisons read
the fields each in its own way.  All of them agree on the intervals that are not negative, and on
the negative ones that show their sign and nothing else in the leading field.
-/

namespace TimestreamOdbc

/-! ## The operators -/

namespace IntervalYearMonth

/-- `operator==`. -/
def eq (val1 val2 : IntervalYearMonth) : Prop := val1.year = val2.year ∧ val1.month = val2.month

/-- `operator<`. -/
def lt (val1 val2 : IntervalYearMonth) : Prop :=
  val1.year < val2.year ∨ val1.year = val2.year ∧ val1.month < val2.month

end IntervalYearMonth

namespace IntervalDaySecond

/-- `InSeconds`. -/
def inSeconds (value : IntervalDaySecond) : ℤ :=
  ((value.day * 24 + value.hour) * 60 + value.minute) * 60 + value.second

/-- `operator==`. -/
def eq (val1 val2 : IntervalDaySecond) : Prop :=
  val1.fractionNs = val2.fractionNs ∧ val1.inSeconds = val2.inSeconds

/-- `operator<`. -/
def lt (val1 val2 : IntervalDaySecond) : Prop :=
  val1.inSeconds < val2.inSeconds ∨
    val1.inSeconds = val2.inSeconds ∧ val1.fractionNs < val2.fractionNs

end IntervalDaySecond

/-- The operators of both interval types compare two values as two durations compare: `<` and `==`,
and those made of them, `!=` as not `==`, `<=` as `<` or `==`, `>` as not `<=`, and `>=` as not
`<`. -/
structure ComparesAs (lt eq : Prop) (x y : ℤ) : Prop where
  eq_iff : eq ↔ x = y
  ne_iff : ¬ eq ↔ x ≠ y
  lt_iff : lt ↔ x < y
  le_iff : lt ∨ eq ↔ x ≤ y
  gt_iff : ¬ (lt ∨ eq) ↔ y < x
  ge_iff : ¬ lt ↔ y ≤ x

/-- It is enough to compare `<` and `==`. -/
lemma comparesAs_iff {lt eq : Prop} {x y : ℤ} :
    ComparesAs lt eq x y ↔ (lt ↔ x < y) ∧ (eq ↔ x = y) := by
  constructor
  · intro h
    exact ⟨h.lt_iff, h.eq_iff⟩
  · rintro ⟨hlt, heq⟩
    refine ⟨heq, not_congr heq, hlt, ?_, ?_, ?_⟩ <;> rw [hlt] <;> try rw [heq]
    · omega
    · omega
    · omega

/-! ## The texts -/

/-- An interval in the form `y-m`, with a sign in front of a negative one. -/
structure YearMonthLiteral where
  negative : Bool
  year : ℕ
  month : ℕ
  month_lt : month < 12

/-- An interval in the form `d hh:mm:ss.nnnnnnnnn`, with a sign in front of a negative one. -/
structure DaySecondLiteral where
  negative : Bool
  day : ℕ
  time : TimeLiteral

/-- A number with the sign of an interval. -/
def signed (negative : Bool) (n : ℤ) : ℤ := if negative then -n else n

/-- The text of the leading field, with the sign of the interval. -/
def leadingText (negative : Bool) (n : ℕ) : Text :=
  if negative then '-' :: Nat.toDigits 10 n else Nat.toDigits 10 n

/-- The leading field fits into an `int`, and shows its sign. -/
def LeadingFits (negative : Bool) (n : ℕ) : Prop :=
  if negative then 1 ≤ n ∧ n ≤ 2 ^ 31 else n < 2 ^ 31

namespace YearMonthLiteral

/-- The text of an interval. -/
def text (l : YearMonthLiteral) : Text :=
  leadingText l.negative l.year ++ '-' :: Nat.toDigits 10 l.month

/-- The duration in months. -/
def months (l : YearMonthLiteral) : ℤ := signed l.negative (12 * l.year + l.month)

/-- The magnitude of a field. -/
def magnitude (l : YearMonthLiteral) : IntervalField → ℤ
  | .year => l.year
  | .month => l.month
  | .day | .hour | .minute | .second | .fraction => 0

/-- The interval that the text is parsed into. -/
def value (P : ColumnPlatform) (l : YearMonthLiteral) : IntervalYearMonth :=
  .parse P.uninitialised l.text

/-- What is expected of the conversions of an interval: the magnitudes and the marker of a negative
interval, which is `SQL_FALSE`, in a structure, and the text in characters. -/
structure Decodes (P : ColumnPlatform) (l : YearMonthLiteral) : Prop where
  struct : ∀ (b : ApplicationDataBuffer) kind, b.buffer = true → b.type = .aiInterval kind →
    ∃ put, parseScalarType P .intervalYearToMonth l.text b = some put ∧
      put.stored = some (.interval kind (if l.months < 0 then 0 else 1)
        (kind.fields.map fun field => (field, l.magnitude field)))
  characters : ∀ b : ApplicationDataBuffer, b.buffer = true → b.type = .aiChar →
    l.text.length < b.buflen →
      ∃ put, parseScalarType P .intervalYearToMonth l.text b = some put ∧
        put.stored = some (.units 1 (l.text.map Char.toNat ++ [0]))

end YearMonthLiteral

namespace DaySecondLiteral

/-- The text of an interval. -/
def text (l : DaySecondLiteral) : Text := leadingText l.negative l.day ++ ' ' :: l.time.text

/-- The magnitude of the duration in whole seconds. -/
def wholeSeconds (l : DaySecondLiteral) : ℕ :=
  ((l.day * 24 + l.time.hour) * 60 + l.time.minute) * 60 + l.time.second

/-- The duration in nanoseconds. -/
def nanoseconds (l : DaySecondLiteral) : ℤ :=
  signed l.negative (l.wholeSeconds * 10 ^ 9 + l.time.nanosecond)

/-- The magnitude of a field. -/
def magnitude (l : DaySecondLiteral) : IntervalField → ℤ
  | .year | .month => 0
  | .day => l.day
  | .hour => l.time.hour
  | .minute => l.time.minute
  | .second => l.time.second
  | .fraction => l.time.nanosecond

/-- The interval that the text is parsed into. -/
def value (P : ColumnPlatform) (l : DaySecondLiteral) : IntervalDaySecond :=
  .parse P.uninitialised l.text

/-- What is expected of the conversions of an interval, and of its number of seconds. -/
structure Decodes (P : ColumnPlatform) (l : DaySecondLiteral) : Prop where
  struct : ∀ (b : ApplicationDataBuffer) kind, b.buffer = true → b.type = .aiInterval kind →
    ∃ put, parseScalarType P .intervalDayToSecond l.text b = some put ∧
      put.stored = some (.interval kind (if l.nanoseconds < 0 then 0 else 1)
        (kind.fields.map fun field => (field, l.magnitude field)))
  characters : ∀ b : ApplicationDataBuffer, b.buffer = true → b.type = .aiChar →
    l.text.length < b.buflen →
      ∃ put, parseScalarType P .intervalDayToSecond l.text b = some put ∧
        put.stored = some (.units 1 (l.text.map Char.toNat ++ [0]))
  seconds : (l.value P).inSeconds = signed l.negative l.wholeSeconds

end DaySecondLiteral

/-! ## Scanning -/

/-- The leading field is scanned with its sign, if something else than a digit follows. -/
lemma scanNumber_leadingText (negative : Bool) (n : ℕ) (rest : Text)
    (hrest : ∀ c ∈ rest.head?, c.isDigit = false) :
    scanNumber none (leadingText negative n ++ rest) = some (signed negative n, rest) := by
  have hends (length : ℕ) : EndsBefore none length rest := .inr ⟨by simp, hrest⟩
  have hdigits : ∀ c ∈ Nat.toDigits 10 n, c.isDigit = true :=
    fun c hc => Nat.isDigit_of_mem_toDigits (by decide) (by decide) hc
  have hne : Nat.toDigits 10 n ≠ [] := Nat.toDigits_ne_nil
  cases negative
  · simp only [leadingText, signed, Bool.false_eq_true, if_false]
    rw [scanNumber_digits hne hdigits (hends _), Nat.ofDigitChars_ten_toDigits]
  · simp only [leadingText, signed, if_true, List.cons_append]
    rw [scanNumber_minus hne hdigits (hends _), Nat.ofDigitChars_ten_toDigits]

/-- The value of an interval of years and months. -/
lemma YearMonthLiteral.value_eq (P : ColumnPlatform) (l : YearMonthLiteral) :
    l.value P = ⟨scannedInt (signed l.negative l.year), l.month⟩ := by
  have hmonth := l.month_lt
  have hfits : scannedInt l.month = l.month := scannedInt_eq_self_iff.mpr ⟨by omega, by omega⟩
  have hlast : scanNumber none (Nat.toDigits 10 l.month) = some ((l.month : ℤ), []) := by
    have := scanNumber_leadingText false l.month [] (by simp)
    simpa [leadingText, signed] using this
  have hscan : sscanf yearMonthFormat l.text =
      [scannedInt (signed l.negative l.year), (l.month : ℤ)] := by
    unfold yearMonthFormat YearMonthLiteral.text
    rw [sscanf, scanNumber_leadingText _ _ _ (by simp)]
    simp only [sscanf_char]
    rw [sscanf, hlast]
    simp only [hfits, sscanf_nil]
  rw [YearMonthLiteral.value, IntervalYearMonth.parse, hscan]
  rfl

/-- The value of an interval of days to seconds. -/
lemma DaySecondLiteral.value_eq (P : ColumnPlatform) (l : DaySecondLiteral) :
    l.value P = ⟨scannedInt (signed l.negative l.day), l.time.hour, l.time.minute, l.time.second,
      l.time.nanosecond⟩ := by
  have hscan : sscanf daySecondFormat l.text =
      [scannedInt (signed l.negative l.day), (l.time.hour : ℤ), l.time.minute, l.time.second,
        l.time.nanosecond] := by
    unfold daySecondFormat DaySecondLiteral.text
    rw [sscanf, scanNumber_leadingText _ _ _ (by simp)]
    simp only
    rw [sscanf, l.time.ltrim_text, l.time.sscanf_text]
  rw [DaySecondLiteral.value, IntervalDaySecond.parse, hscan]
  rfl

/-! ## Printing -/

/-- The text of a leading field is the integer with its sign. -/
lemma decimalInteger_leadingText (negative : Bool) (n : ℕ) :
    decimalInteger (leadingText negative n) = some (signed negative n) := by
  cases negative
  · have hprint : printInt n = Nat.toDigits 10 n := by
      rw [printInt, if_neg (by omega), Int.natAbs_natCast]
    have := decimalInteger_printInt n
    rw [hprint] at this
    exact this
  · have hdigits : allDigits (Nat.toDigits 10 n) = true := allDigits_toDigits n
    simp [leadingText, signed, decimalInteger, hdigits]

/-- What is scanned of a leading field is printed as it was if and only if it fits and shows its
sign. -/
lemma printInt_scannedInt_eq_iff (negative : Bool) (n : ℕ) :
    printInt (scannedInt (signed negative n)) = leadingText negative n ↔
      LeadingFits negative n := by
  constructor
  · intro h
    have hread := congrArg decimalInteger h
    rw [decimalInteger_printInt, decimalInteger_leadingText] at hread
    have hsame := Option.some.inj hread
    have hbounds := scannedInt_bounds (signed negative n)
    rw [hsame] at h hbounds
    cases negative
    · simp only [signed, Bool.false_eq_true, if_false] at hbounds
      simp only [LeadingFits, Bool.false_eq_true, if_false]
      omega
    · simp only [signed, if_true] at h hbounds
      simp only [LeadingFits, if_true]
      refine ⟨?_, by omega⟩
      by_contra hzero
      obtain rfl : n = 0 := by omega
      revert h
      decide
  · intro h
    cases negative
    · simp only [LeadingFits, Bool.false_eq_true, if_false] at h
      have hfits : scannedInt n = n := scannedInt_eq_self_iff.mpr ⟨by omega, by omega⟩
      simp only [signed, leadingText, Bool.false_eq_true, if_false]
      rw [hfits, printInt, if_neg (by omega), Int.natAbs_natCast]
    · simp only [LeadingFits, if_true] at h
      have hfits : scannedInt (-n) = -n := scannedInt_eq_self_iff.mpr ⟨by omega, by omega⟩
      simp only [signed, leadingText, if_true]
      rw [hfits, printInt, if_pos (by omega), Int.natAbs_neg, Int.natAbs_natCast]

/-- A leading field that fits is scanned as it is. -/
lemma scannedInt_of_leadingFits {negative : Bool} {n : ℕ} (h : LeadingFits negative n) :
    scannedInt (signed negative n) = signed negative n := by
  rw [scannedInt_eq_self_iff]
  cases negative
  · simp only [LeadingFits, Bool.false_eq_true, if_false] at h
    simp only [signed, Bool.false_eq_true, if_false]
    omega
  · simp only [LeadingFits, if_true] at h
    simp only [signed, if_true]
    omega

/-- An `int` is printed with at most 11 characters. -/
lemma length_printInt_le {n : ℤ} (h : -2 ^ 31 ≤ n ∧ n < 2 ^ 31) : (printInt n).length ≤ 11 := by
  have hdigits : (Nat.toDigits 10 n.natAbs).length ≤ 10 := by
    rw [Nat.length_toDigits_le_iff (by decide) (by decide)]
    omega
  unfold printInt
  split
  · rw [List.length_cons]
    omega
  · omega

/-- The text of an interval of years and months is printed as it was if and only if its leading field
is. -/
lemma YearMonthLiteral.printed_eq_text_iff (P : ColumnPlatform) (l : YearMonthLiteral) :
    (TemporalValue.intervalYearMonth (l.value P)).printed = l.text ↔
      LeadingFits l.negative l.year := by
  have hmonth := l.month_lt
  have hprint : printInt l.month = Nat.toDigits 10 l.month := by
    rw [printInt, if_neg (by omega), Int.natAbs_natCast]
  have htext : (l.value P).text =
      printInt (scannedInt (signed l.negative l.year)) ++ '-' :: Nat.toDigits 10 l.month := by
    rw [l.value_eq, IntervalYearMonth.text, hprint]
    simp
  have hlen : (l.value P).text.length ≤ 31 := by
    have hleading := length_printInt_le (scannedInt_bounds (signed l.negative l.year))
    have htwo : (Nat.toDigits 10 l.month).length ≤ 2 := by
      rw [Nat.length_toDigits_le_iff (by decide) (by decide)]
      omega
    rw [htext, List.length_append, List.length_cons]
    omega
  rw [TemporalValue.printed, snprintf, List.take_of_length_le hlen, htext, YearMonthLiteral.text,
    List.append_left_inj, printInt_scannedInt_eq_iff]

/-- The text of an interval of days to seconds is printed as it was if and only if its leading field
is. -/
lemma DaySecondLiteral.printed_eq_text_iff (P : ColumnPlatform) (l : DaySecondLiteral) :
    (TemporalValue.intervalDaySecond (l.value P)).printed = l.text ↔
      LeadingFits l.negative l.day := by
  have hhour := l.time.hour_lt
  have hminute := l.time.minute_lt
  have hsecond := l.time.second_lt
  have htext : (l.value P).text =
      printInt (scannedInt (signed l.negative l.day)) ++ ' ' :: l.time.text := by
    rw [l.value_eq, IntervalDaySecond.text, printZero_natCast (by decide) (by omega),
      printZero_natCast (by decide) (by omega), printZero_natCast (by decide) (by omega),
      printZero_natCast (by decide) l.time.nanosecond_lt, TimeLiteral.text]
    simp
  have hlen : (l.value P).text.length ≤ 31 := by
    have hleading := length_printInt_le (scannedInt_bounds (signed l.negative l.day))
    rw [htext, List.length_append, List.length_cons, TimeLiteral.length_text]
    omega
  rw [TemporalValue.printed, snprintf, List.take_of_length_le hlen, htext, DaySecondLiteral.text,
    List.append_left_inj, printInt_scannedInt_eq_iff]

/-! ## One interval -/

/-- The magnitude of a number with a sign. -/
lemma natAbs_signed (negative : Bool) (n : ℕ) : (signed negative n).natAbs = n := by
  cases negative <;> simp [signed]

/-- The structure of an interval of years and months whose leading field fits. -/
lemma YearMonthLiteral.setIntervalBufferValue_eq (P : ColumnPlatform) {l : YearMonthLiteral}
    (h : LeadingFits l.negative l.year) (kind : IntervalKind) :
    (l.value P).setIntervalBufferValue kind =
      .interval kind (if l.months < 0 then 0 else 1)
        (kind.fields.map fun field => (field, l.magnitude field)) := by
  have hsign : (signed l.negative l.year < 0 ∨ signed l.negative l.year = 0 ∧ (l.month : ℤ) < 0) ↔
      l.months < 0 := by
    unfold LeadingFits at h
    unfold months signed
    split <;> simp_all <;> omega
  have hfields (field : IntervalField) :
      (IntervalYearMonth.mk (signed l.negative l.year) l.month).member field =
        l.magnitude field := by
    cases field <;> simp [IntervalYearMonth.member, magnitude, natAbs_signed]
  rw [l.value_eq, scannedInt_of_leadingFits h, IntervalYearMonth.setIntervalBufferValue]
  simp only [hsign, hfields]

/-- The structure of an interval of days to seconds whose leading field fits. -/
lemma DaySecondLiteral.setIntervalBufferValue_eq (P : ColumnPlatform) {l : DaySecondLiteral}
    (h : LeadingFits l.negative l.day) (kind : IntervalKind) :
    (l.value P).setIntervalBufferValue kind =
      .interval kind (if l.nanoseconds < 0 then 0 else 1)
        (kind.fields.map fun field => (field, l.magnitude field)) := by
  have hsign : (signed l.negative l.day < 0 ∨ signed l.negative l.day = 0 ∧ (l.time.hour : ℤ) < 0 ∨
      signed l.negative l.day = 0 ∧ (l.time.hour : ℤ) = 0 ∧ (l.time.minute : ℤ) < 0 ∨
      signed l.negative l.day = 0 ∧ (l.time.hour : ℤ) = 0 ∧ (l.time.minute : ℤ) = 0 ∧
        (l.time.second : ℤ) < 0 ∨
      signed l.negative l.day = 0 ∧ (l.time.hour : ℤ) = 0 ∧ (l.time.minute : ℤ) = 0 ∧
        (l.time.second : ℤ) = 0 ∧ (l.time.nanosecond : ℤ) < 0) ↔ l.nanoseconds < 0 := by
    unfold LeadingFits at h
    unfold nanoseconds wholeSeconds signed
    cases hnegative : l.negative
    · simp only [Bool.false_eq_true, if_false]
      omega
    · simp only [hnegative, if_true] at h ⊢
      omega
  have hfields (field : IntervalField) :
      (IntervalDaySecond.mk (signed l.negative l.day) l.time.hour l.time.minute l.time.second
        l.time.nanosecond).member field = l.magnitude field := by
    cases field <;> simp [IntervalDaySecond.member, magnitude, natAbs_signed]
  rw [l.value_eq, scannedInt_of_leadingFits h, IntervalDaySecond.setIntervalBufferValue]
  simp only [hsign, hfields]

/-- An interval of years and months is decoded if and only if its leading field fits and shows its
sign. -/
lemma YearMonthLiteral.decodes_iff (P : ColumnPlatform) (l : YearMonthLiteral) :
    l.Decodes P ↔ LeadingFits l.negative l.year := by
  rw [← l.printed_eq_text_iff P]
  have hcharacters := TemporalValue.put_characters_iff P.toPlatform
    (.intervalYearMonth (l.value P)) rfl l.text
  constructor
  · intro h
    exact hcharacters.mp h.characters
  · intro hprinted
    refine ⟨?_, hcharacters.mpr hprinted⟩
    intro b kind hbuffer htype
    have hfits := (l.printed_eq_text_iff P).mp hprinted
    refine ⟨⟨.aiSuccess, some ((l.value P).setIntervalBufferValue kind),
      b.resLen sizeOfIntervalStruct, b.cellOffset⟩, ?_, ?_⟩
    · have hput : b.putIntervalYearMonth P.toPlatform (l.value P) =
          b.putStruct .aiSuccess ((l.value P).setIntervalBufferValue kind) sizeOfIntervalStruct := by
        simp only [ApplicationDataBuffer.putIntervalYearMonth, htype]
      rw [parseScalarType]
      exact hput.trans (if_pos hbuffer)
    · rw [setIntervalBufferValue_eq P hfits]

/-- The number of seconds of an interval whose leading field fits, if and only if a negative interval
has none besides its days. -/
lemma DaySecondLiteral.inSeconds_eq_iff (P : ColumnPlatform) {l : DaySecondLiteral}
    (h : LeadingFits l.negative l.day) :
    (l.value P).inSeconds = signed l.negative l.wholeSeconds ↔
      (l.negative = true → l.time.hour = 0 ∧ l.time.minute = 0 ∧ l.time.second = 0) := by
  rw [l.value_eq, scannedInt_of_leadingFits h, IntervalDaySecond.inSeconds]
  unfold wholeSeconds signed
  cases l.negative
  · simp
  · simp only [if_true, forall_const]
    omega

/-- An interval of days to seconds is decoded if and only if its leading field fits and shows its
sign, and a negative one has no hours, minutes and seconds. -/
lemma DaySecondLiteral.decodes_iff (P : ColumnPlatform) (l : DaySecondLiteral) :
    l.Decodes P ↔ LeadingFits l.negative l.day ∧
      (l.negative = true → l.time.hour = 0 ∧ l.time.minute = 0 ∧ l.time.second = 0) := by
  have hcharacters := TemporalValue.put_characters_iff P.toPlatform
    (.intervalDaySecond (l.value P)) rfl l.text
  constructor
  · intro h
    have hfits := (l.printed_eq_text_iff P).mp (hcharacters.mp h.characters)
    exact ⟨hfits, (l.inSeconds_eq_iff P hfits).mp h.seconds⟩
  · rintro ⟨hfits, hzero⟩
    refine ⟨?_, hcharacters.mpr ((l.printed_eq_text_iff P).mpr hfits),
      (l.inSeconds_eq_iff P hfits).mpr hzero⟩
    intro b kind hbuffer htype
    refine ⟨⟨.aiSuccess, some ((l.value P).setIntervalBufferValue kind),
      b.resLen sizeOfIntervalStruct, b.cellOffset⟩, ?_, ?_⟩
    · have hput : b.putIntervalDaySecond P.toPlatform (l.value P) =
          b.putStruct .aiSuccess ((l.value P).setIntervalBufferValue kind) sizeOfIntervalStruct := by
        simp only [ApplicationDataBuffer.putIntervalDaySecond, htype]
      rw [parseScalarType]
      exact hput.trans (if_pos hbuffer)
    · rw [setIntervalBufferValue_eq P hfits]

/-! ## Two intervals -/

/-- The comparisons of two intervals of years and months agree with those of the durations. -/
def YearMonthLiteral.Compares (P : ColumnPlatform) (l₁ l₂ : YearMonthLiteral) : Prop :=
  ComparesAs ((l₁.value P).lt (l₂.value P)) ((l₁.value P).eq (l₂.value P)) l₁.months l₂.months

/-- The comparisons of two intervals of days to seconds agree with those of the durations. -/
def DaySecondLiteral.Compares (P : ColumnPlatform) (l₁ l₂ : DaySecondLiteral) : Prop :=
  ComparesAs ((l₁.value P).lt (l₂.value P)) ((l₁.value P).eq (l₂.value P)) l₁.nanoseconds
    l₂.nanoseconds

/-- Intervals of years and months whose leading fields fit compare as their durations if and only if
negative ones with the same years have the same months. -/
lemma YearMonthLiteral.compares_iff (P : ColumnPlatform) {l₁ l₂ : YearMonthLiteral}
    (h₁ : LeadingFits l₁.negative l₁.year) (h₂ : LeadingFits l₂.negative l₂.year) :
    l₁.Compares P l₂ ↔ (l₁.negative = true → l₂.negative = true → l₁.year = l₂.year →
      l₁.month = l₂.month) := by
  have hmonth₁ := l₁.month_lt
  have hmonth₂ := l₂.month_lt
  unfold Compares
  rw [comparesAs_iff, l₁.value_eq, l₂.value_eq, scannedInt_of_leadingFits h₁,
    scannedInt_of_leadingFits h₂]
  unfold IntervalYearMonth.lt IntervalYearMonth.eq months signed
  unfold LeadingFits at h₁ h₂
  cases hn₁ : l₁.negative <;> cases hn₂ : l₂.negative <;>
    simp only [hn₁, hn₂, if_true, Bool.false_eq_true, if_false, false_imp_iff, forall_const,
      iff_true] at h₁ h₂ ⊢ <;>
    omega

/-- Intervals of days to seconds that are decoded compare as their durations if and only if negative
ones with the same days have the same nanoseconds. -/
lemma DaySecondLiteral.compares_iff (P : ColumnPlatform) {l₁ l₂ : DaySecondLiteral}
    (h₁ : LeadingFits l₁.negative l₁.day) (h₂ : LeadingFits l₂.negative l₂.day)
    (hzero₁ : l₁.negative = true → l₁.time.hour = 0 ∧ l₁.time.minute = 0 ∧ l₁.time.second = 0)
    (hzero₂ : l₂.negative = true → l₂.time.hour = 0 ∧ l₂.time.minute = 0 ∧ l₂.time.second = 0) :
    l₁.Compares P l₂ ↔ (l₁.negative = true → l₂.negative = true → l₁.day = l₂.day →
      l₁.time.nanosecond = l₂.time.nanosecond) := by
  have hseconds₁ := (l₁.inSeconds_eq_iff P h₁).mpr hzero₁
  have hseconds₂ := (l₂.inSeconds_eq_iff P h₂).mpr hzero₂
  have hfraction₁ : (l₁.value P).fractionNs = l₁.time.nanosecond := by rw [l₁.value_eq]
  have hfraction₂ : (l₂.value P).fractionNs = l₂.time.nanosecond := by rw [l₂.value_eq]
  have hnano₁ := l₁.time.nanosecond_lt
  have hnano₂ := l₂.time.nanosecond_lt
  have hhour₁ := l₁.time.hour_lt
  have hhour₂ := l₂.time.hour_lt
  unfold Compares
  rw [comparesAs_iff]
  unfold IntervalDaySecond.lt IntervalDaySecond.eq nanoseconds
  rw [hseconds₁, hseconds₂, hfraction₁, hfraction₂]
  unfold LeadingFits at h₁ h₂
  unfold wholeSeconds signed
  cases hn₁ : l₁.negative <;> cases hn₂ : l₂.negative <;>
    simp only [hn₁, hn₂, if_true, Bool.false_eq_true, if_false, false_imp_iff, forall_const,
      iff_true] at h₁ h₂ hzero₁ hzero₂ ⊢ <;>
    omega

/-- When the driver decodes two intervals of years and months and compares them. -/
structure YearMonthLiteral.Faithful (l₁ l₂ : YearMonthLiteral) : Prop where
  first : LeadingFits l₁.negative l₁.year
  second : LeadingFits l₂.negative l₂.year
  distinct : l₁.negative = true → l₂.negative = true → l₁.year = l₂.year → l₁.month = l₂.month

/-- An interval of days to seconds shows its sign, and is whole days and nanoseconds if negative. -/
def DaySecondLiteral.Plain (l : DaySecondLiteral) : Prop :=
  LeadingFits l.negative l.day ∧
    (l.negative = true → l.time.hour = 0 ∧ l.time.minute = 0 ∧ l.time.second = 0)

/-- When the driver decodes two intervals of days to seconds and compares them. -/
structure DaySecondLiteral.Faithful (l₁ l₂ : DaySecondLiteral) : Prop where
  first : l₁.Plain
  second : l₂.Plain
  distinct : l₁.negative = true → l₂.negative = true → l₁.day = l₂.day →
    l₁.time.nanosecond = l₂.time.nanosecond

/-- Two intervals are decoded, and compare as their durations do, if and only if their leading fields
fit and show the sign, a negative one has no hours, minutes and seconds, and negative ones with the
same leading field are the same. -/
theorem intervals_decode_iff (P : ColumnPlatform) :
    (∀ l₁ l₂ : YearMonthLiteral,
      l₁.Decodes P ∧ l₂.Decodes P ∧ l₁.Compares P l₂ ↔ l₁.Faithful l₂) ∧
    (∀ l₁ l₂ : DaySecondLiteral,
      l₁.Decodes P ∧ l₂.Decodes P ∧ l₁.Compares P l₂ ↔ l₁.Faithful l₂) := by
  constructor
  · intro l₁ l₂
    rw [l₁.decodes_iff, l₂.decodes_iff]
    constructor
    · rintro ⟨h₁, h₂, hcompares⟩
      exact ⟨h₁, h₂, (YearMonthLiteral.compares_iff P h₁ h₂).mp hcompares⟩
    · rintro ⟨h₁, h₂, hdistinct⟩
      exact ⟨h₁, h₂, (YearMonthLiteral.compares_iff P h₁ h₂).mpr hdistinct⟩
  · intro l₁ l₂
    rw [l₁.decodes_iff, l₂.decodes_iff]
    constructor
    · rintro ⟨h₁, h₂, hcompares⟩
      exact ⟨h₁, h₂, (DaySecondLiteral.compares_iff P h₁.1 h₂.1 h₁.2 h₂.2).mp hcompares⟩
    · rintro ⟨h₁, h₂, hdistinct⟩
      exact ⟨h₁, h₂, (DaySecondLiteral.compares_iff P h₁.1 h₂.1 h₁.2 h₂.2).mpr hdistinct⟩

/-- The interval `-0-5` is decoded as 5 months. -/
theorem not_decodes_minus_five_months :
    ¬ (YearMonthLiteral.mk true 0 5 (by decide)).Decodes sampleColumnPlatform := by
  intro h
  obtain ⟨put, hput, hstored⟩ := h.struct (.new (.aiInterval .yearToMonth) true 28 true)
    .yearToMonth rfl rfl
  have hpositive : parseScalarType sampleColumnPlatform .intervalYearToMonth "-0-5".toList
      (.new (.aiInterval .yearToMonth) true 28 true) =
        some ⟨.aiSuccess, some (.interval .yearToMonth 1 [(.year, 0), (.month, 5)]), some 28, -1⟩ := by
    decide
  have htext : (YearMonthLiteral.mk true 0 5 (by decide)).text = "-0-5".toList := by decide
  rw [htext] at hput
  obtain rfl := Option.some.inj (hput.symm.trans hpositive)
  exact absurd hstored (by decide)

end TimestreamOdbc
