import TimestreamOdbc.App.Calendar

/-!
# Round trips of temporal texts

The text of a timestamp, a date or a time is scanned into its fields, these become seconds, and the
seconds become fields again that are printed or stored in a structure.  Every field comes back, and
every text is printed as it was with one exception: a date prints its year with blanks in front.
-/

namespace TimestreamOdbc

/-! ## The texts -/

/-- A date in the form `yyyy-mm-dd`. -/
structure DateLiteral where
  year : ℕ
  month : ℕ
  day : ℕ
  year_lt : year < 10000
  valid : ValidDate year month day

/-- A time in the form `hh:mm:ss.nnnnnnnnn`. -/
structure TimeLiteral where
  hour : ℕ
  minute : ℕ
  second : ℕ
  nanosecond : ℕ
  valid : ValidTime hour minute second
  nanosecond_lt : nanosecond < 10 ^ 9

/-- A value of a temporal column. The timestamps are those from the year 1000 on. -/
inductive TemporalLiteral where
  | timestamp (date : DateLiteral) (time : TimeLiteral) (year_ge : 1000 ≤ date.year)
  | date (date : DateLiteral)
  | time (time : TimeLiteral)

namespace DateLiteral

/-- The text of a date. -/
def text (d : DateLiteral) : Text :=
  Decimal.padded 4 d.year ++ '-' :: (Decimal.padded 2 d.month ++ '-' :: Decimal.padded 2 d.day)

lemma month_lt (d : DateLiteral) : d.month < 13 := by
  have := d.valid.month_le
  omega

lemma day_lt (d : DateLiteral) : d.day < 32 := by
  have := d.valid.day_le.trans (daysInMonth_le _ _)
  omega

@[simp] lemma length_text (d : DateLiteral) : d.text.length = 10 := by
  simp [text]

/-- A date is scanned into its fields. -/
lemma sscanf_text (d : DateLiteral) (format : List ScanDirective) (rest : Text) :
    sscanf (dateFormat ++ format) (d.text ++ rest) =
      (d.year : ℤ) :: (d.month : ℤ) :: (d.day : ℤ) :: sscanf format rest := by
  have hyear := d.year_lt
  have hmonth := d.month_lt
  have hday := d.day_lt
  simp only [dateFormat, text, List.cons_append, List.nil_append, List.append_assoc]
  rw [sscanf_padded (by decide) (by omega) (by omega), sscanf_char,
    sscanf_padded (by decide) (by omega) (by omega), sscanf_char,
    sscanf_padded (by decide) (by omega) (by omega)]

end DateLiteral

namespace TimeLiteral

/-- The text of a time. -/
def text (t : TimeLiteral) : Text :=
  Decimal.padded 2 t.hour ++ ':' :: (Decimal.padded 2 t.minute ++ ':' ::
    (Decimal.padded 2 t.second ++ '.' :: Decimal.padded 9 t.nanosecond))

lemma hour_lt (t : TimeLiteral) : t.hour < 24 := by
  have := t.valid.hour_lt
  omega

lemma minute_lt (t : TimeLiteral) : t.minute < 60 := by
  have := t.valid.minute_lt
  omega

lemma second_lt (t : TimeLiteral) : t.second < 60 := by
  have := t.valid.second_lt
  omega

@[simp] lemma length_text (t : TimeLiteral) : t.text.length = 18 := by
  simp [text]

/-- A time is scanned into its fields. -/
lemma sscanf_text (t : TimeLiteral) :
    sscanf timeFormat t.text =
      [(t.hour : ℤ), (t.minute : ℤ), (t.second : ℤ), (t.nanosecond : ℤ)] := by
  have hhour := t.hour_lt
  have hminute := t.minute_lt
  have hsecond := t.second_lt
  have hnanosecond := t.nanosecond_lt
  unfold timeFormat text
  rw [sscanf_padded (by decide) (by omega) (by omega), sscanf_char,
    sscanf_padded (by decide) (by omega) (by omega), sscanf_char,
    sscanf_padded (by decide) (by omega) (by omega), sscanf_char,
    ← List.append_nil (Decimal.padded 9 t.nanosecond),
    sscanf_padded (by decide) (by omega) (by omega), sscanf_nil]

/-- White space in front of a time is skipped. -/
lemma ltrim_text (t : TimeLiteral) : ltrim (' ' :: t.text) = t.text := by
  obtain ⟨c, rest, hcons⟩ := List.exists_cons_of_ne_nil (l := t.text) (by
    rw [← List.length_pos_iff, length_text]
    decide)
  have hc : c.isDigit = true := by
    have hmem : c ∈ Decimal.padded 2 t.hour := by
      have hhead : (Decimal.padded 2 t.hour ++ ':' :: (Decimal.padded 2 t.minute ++ ':' ::
          (Decimal.padded 2 t.second ++ '.' :: Decimal.padded 9 t.nanosecond))).head? = some c := by
        have := congrArg List.head? hcons
        exact this
      rw [List.head?_append_of_ne_nil] at hhead
      · exact List.mem_of_head? hhead
      · rw [← List.length_pos_iff, Decimal.length_padded]
        decide
    exact Decimal.isDigit_of_mem_padded hmem
  have hspace : ltrim (' ' :: t.text) = ltrim t.text := List.dropWhile_cons_of_pos (by decide)
  rw [hspace, hcons]
  exact ltrim_cons (not_isSpace_of_isDigit hc)

end TimeLiteral

namespace TemporalLiteral

/-- The text of a value. -/
def text : TemporalLiteral → Text
  | timestamp d t _ => d.text ++ ' ' :: t.text
  | date d => d.text
  | time t => t.text

/-- The type of its column. -/
def scalarType : TemporalLiteral → ScalarType
  | timestamp _ _ _ => .timestamp
  | date _ => .date
  | time _ => .time

/-- The fields of the text in a structure of the application. -/
def struct : TemporalLiteral → OdbcNativeType → Option Stored
  | timestamp d t _, .aiTtimestamp =>
    some (.timestamp d.year d.month d.day t.hour t.minute t.second t.nanosecond)
  | timestamp d _ _, .aiTdate => some (.date d.year d.month d.day)
  | timestamp _ t _, .aiTtime => some (.time t.hour t.minute t.second)
  | date d, .aiTdate => some (.date d.year d.month d.day)
  | date d, .aiTtimestamp => some (.timestamp d.year d.month d.day 0 0 0 0)
  | time t, .aiTtime => some (.time t.hour t.minute t.second)
  | _, _ => none

/-- A round trip of a value: into characters the text comes back, and into a structure its fields,
through every buffer that is there and large enough. -/
structure RoundTrips (P : ColumnPlatform) (literal : TemporalLiteral) : Prop where
  characters : ∀ (outChar : OutChar) (b : ApplicationDataBuffer), b.type = outChar.driverType →
    b.buffer = true → (literal.text.length + 1) * outChar.size P.toPlatform ≤ b.buflen →
      ∃ put, parseScalarType P literal.scalarType literal.text b = some put ∧
        put.result = .aiSuccess ∧ put.stored =
          some (.units (outChar.size P.toPlatform) (literal.text.map Char.toNat ++ [0]))
  fields : ∀ (b : ApplicationDataBuffer) stored, b.buffer = true →
    literal.struct b.type = some stored →
      ∃ put, parseScalarType P literal.scalarType literal.text b = some put ∧
        put.stored = some stored

/-- What its text is parsed into. -/
def value (uninitialised : ℕ → ℤ) : TemporalLiteral → TemporalValue
  | timestamp d t _ => .timestamp (.parse uninitialised (d.text ++ ' ' :: t.text))
  | date d => .date (.parse d.text)
  | time t => .time (.parse uninitialised t.text)

/-- Parsing a text is putting what it is parsed into. -/
lemma parseScalarType_eq_put (P : ColumnPlatform) (literal : TemporalLiteral)
    (b : ApplicationDataBuffer) :
    parseScalarType P literal.scalarType literal.text b =
      (literal.value P.uninitialised).put P.toPlatform b := by
  cases literal <;> rfl

end TemporalLiteral

/-! ## Through the calendar -/

section Calendar

variable (u : ℕ → ℤ) (d : DateLiteral) (t : TimeLiteral)

/-- The fields of a timestamp come back. -/
lemma timestampToCTm_parse :
    timestampToCTm (.parse u (d.text ++ ' ' :: t.text)) =
      ⟨d.year - 1900, d.month - 1, d.day, t.hour, t.minute, t.second⟩ := by
  have hscan : sscanf timestampFormat (d.text ++ ' ' :: t.text) =
      [(d.year : ℤ), d.month, d.day, t.hour, t.minute, t.second, t.nanosecond] := by
    have hyear := d.year_lt
    rw [timestampFormat, d.sscanf_text, sscanf, t.ltrim_text, t.sscanf_text]
  have hyear := d.year_lt
  have hgmtime := igniteGmTime_timegm d.valid t.valid ⟨by omega, by omega⟩
  rw [timestampToCTm, Timestamp.parse, hscan]
  exact (congrArg (Option.getD · Tm.zero) hgmtime)

/-- The fraction of a timestamp is its nanoseconds. -/
lemma fractionNs_parse_timestamp :
    (Timestamp.parse u (d.text ++ ' ' :: t.text)).fractionNs = t.nanosecond := by
  rw [Timestamp.parse, timestampFormat, d.sscanf_text, sscanf, t.ltrim_text, t.sscanf_text]
  rfl

/-- The fields of a date come back. -/
lemma dateToCTm_parse :
    dateToCTm (.parse d.text) = ⟨d.year - 1900, d.month - 1, d.day, 0, 0, 0⟩ := by
  have hscan : sscanf dateFormat d.text = [(d.year : ℤ), d.month, d.day] := by
    have := d.sscanf_text [] []
    rwa [List.append_nil, List.append_nil] at this
  have hyear := d.year_lt
  have hmidnight : ValidTime 0 0 0 := ⟨by decide, by decide, by decide, by decide, by decide, by decide⟩
  have hgmtime := igniteGmTime_timegm d.valid hmidnight ⟨by omega, by omega⟩
  rw [dateToCTm, Date.getSeconds, Date.parse, hscan, Int.mul_tdiv_cancel _ (by decide)]
  exact congrArg (Option.getD · Tm.zero) hgmtime

/-- The fields of a time come back, on the day of the epoch. -/
lemma timeToCTm_parse :
    timeToCTm (.parse u t.text) = ⟨70, 0, 1, t.hour, t.minute, t.second⟩ := by
  have hhour := t.hour_lt
  have hminute := t.minute_lt
  have hsecond := t.second_lt
  have hepoch : ValidDate 1970 1 1 := ⟨by decide, by decide, by decide, by decide⟩
  have hgmtime := igniteGmTime_timegm hepoch t.valid ⟨by decide, by decide⟩
  have hseconds : (((t.hour : ℤ) * 60 + t.minute) * 60 + t.second).bmod (2 ^ 32) =
      timegm ⟨1970 - 1900, 1 - 1, 1, t.hour, t.minute, t.second⟩ := by
    have hdays : daysFromCivil 1970 1 1 = 0 := by decide
    have htimegm : timegm ⟨1970 - 1900, 1 - 1, 1, t.hour, t.minute, t.second⟩ =
        ((daysFromCivil 1970 1 1 * 24 + t.hour) * 60 + t.minute) * 60 + t.second := rfl
    rw [htimegm, hdays, Int.bmod_def]
    split <;> omega
  rw [timeToCTm, Time.parse, t.sscanf_text]
  simp only [List.getD_cons_zero, List.getD_cons_succ]
  rw [hseconds, hgmtime, Option.getD_some]
  rfl

/-- The fraction of a time is its nanoseconds. -/
lemma fractionNs_parse_time : (Time.parse u t.text).fractionNs = t.nanosecond := by
  rw [Time.parse, t.sscanf_text]
  rfl

end Calendar

/-! ## Printing the fields -/

/-- A number of two digits and the like is printed with zeros in front. -/
lemma printZero_natCast {width n : ℕ} (hpos : 0 < width) (h : n < 10 ^ width) :
    printZero width n = Decimal.padded width n := by
  rw [printZero, if_neg (by omega), Int.natAbs_natCast, Decimal.replicate_append_toDigits hpos h]

/-- A year of four digits is printed as it is. -/
lemma printInt_of_four {n : ℕ} (hge : 1000 ≤ n) (hlt : n < 10000) :
    printInt n = Decimal.padded 4 n := by
  have hlen : ¬ (Nat.toDigits 10 n).length ≤ 3 := by
    rw [Nat.length_toDigits_le_iff (by decide) (by decide)]
    omega
  have hpadded : List.replicate (4 - (Nat.toDigits 10 n).length) '0' ++ Nat.toDigits 10 n =
      Decimal.padded 4 n := Decimal.replicate_append_toDigits (by decide) (by omega)
  have hnone : 4 - (Nat.toDigits 10 n).length = 0 := by omega
  rw [printInt, if_neg (by omega), Int.natAbs_natCast, ← hpadded, hnone]
  rfl

/-- Blanks are printed in front of a year of less than four digits. -/
lemma printBlank_head_of_lt {n : ℕ} (hlt : n < 1000) : (printBlank 4 n).head? = some ' ' := by
  have hlen : (printInt n).length ≤ 3 := by
    rw [printInt, if_neg (by omega), Int.natAbs_natCast,
      Nat.length_toDigits_le_iff (by decide) (by decide)]
    omega
  obtain ⟨k, hk⟩ : ∃ k, 4 - (printInt n).length = k + 1 := ⟨3 - (printInt n).length, by omega⟩
  rw [printBlank, hk, List.replicate_succ]
  rfl

/-- The length of a printed year. -/
lemma length_printBlank_four {n : ℕ} (hlt : n < 10000) : (printBlank 4 n).length = 4 := by
  have hlen : (printInt n).length ≤ 4 := by
    rw [printInt, if_neg (by omega), Int.natAbs_natCast,
      Nat.length_toDigits_le_iff (by decide) (by decide)]
    omega
  rw [printBlank, List.length_append, List.length_replicate]
  omega

/-- The text of a date, as it is printed. -/
lemma text_parse_date (d : DateLiteral) :
    (Date.parse d.text).text = printBlank 4 d.year ++ '-' ::
      (Decimal.padded 2 d.month ++ '-' :: Decimal.padded 2 d.day) := by
  have hmonth := d.month_lt
  have hday := d.day_lt
  rw [Date.text, dateToCTm_parse]
  dsimp only
  rw [Int.sub_add_cancel, Int.sub_add_cancel, printZero_natCast (by decide) (by omega),
    printZero_natCast (by decide) (by omega)]
  simp

/-- The text of a time of day, as `strftime` prints it. -/
lemma strftimeTime_eq (t : TimeLiteral) (year month day : ℤ) :
    getTimestampString (strftimeTime ⟨year, month, day, t.hour, t.minute, t.second⟩) t.nanosecond =
      t.text := by
  have hhour := t.hour_lt
  have hminute := t.minute_lt
  have hsecond := t.second_lt
  unfold getTimestampString strftimeTime snprintf
  rw [printZero_natCast (by decide) (by omega), printZero_natCast (by decide) (by omega),
    printZero_natCast (by decide) (by omega), printZero_natCast (by decide) t.nanosecond_lt,
    List.take_of_length_le (by rw [Decimal.length_padded]; decide), TimeLiteral.text]
  simp

/-- The text of a time, as it is printed. -/
lemma text_parse_time (u : ℕ → ℤ) (t : TimeLiteral) : (Time.parse u t.text).text = t.text := by
  rw [Time.text, timeToCTm_parse, fractionNs_parse_time, strftimeTime_eq]

/-- The text of a timestamp, as it is printed. -/
lemma text_parse_timestamp (u : ℕ → ℤ) {d : DateLiteral} (hyear : 1000 ≤ d.year)
    (t : TimeLiteral) :
    (Timestamp.parse u (d.text ++ ' ' :: t.text)).text = d.text ++ ' ' :: t.text := by
  have hmonth := d.month_lt
  have hday := d.day_lt
  have hdate : strftimeDate ⟨d.year - 1900, d.month - 1, d.day, t.hour, t.minute, t.second⟩ =
      d.text ++ [' '] := by
    unfold strftimeDate
    dsimp only
    rw [Int.sub_add_cancel, Int.sub_add_cancel, printInt_of_four hyear d.year_lt,
      printZero_natCast (by decide) (by omega), printZero_natCast (by decide) (by omega),
      DateLiteral.text]
    simp
  rw [Timestamp.text, timestampToCTm_parse, fractionNs_parse_timestamp, hdate]
  have htime := strftimeTime_eq t (d.year - 1900) (d.month - 1) d.day
  unfold getTimestampString at htime ⊢
  rw [List.append_assoc, htime, List.append_assoc]
  rfl

/-- A printed text is copied into wide characters to its end when there is room for it. -/
lemma copyStringToBuffer_of_le (P : Platform) {text : Text} (hprinted : IsPrinted text)
    (hne : text ≠ []) {buflen : ℕ} (hbuflen : (text.length + 1) * P.sqlWcharSize ≤ buflen) :
    copyStringToBuffer P text buflen =
      ⟨text.length * P.sqlWcharSize, false, some (text.map Char.toNat ++ [0])⟩ := by
  have hpos : 0 < text.length := List.length_pos_iff.mpr hne
  have htwo : 2 * P.sqlWcharSize ≤ (text.length + 1) * P.sqlWcharSize :=
    Nat.mul_le_mul_right _ (by omega)
  have hroom : text.length + 1 ≤ buflen / P.sqlWcharSize :=
    (Nat.le_div_iff_mul_le P.sqlWcharSize_pos).mpr hbuflen
  have hcopied := copyUtf8String_encode_sqlWchar hprinted.nul_notMem (hprinted.unitFits _)
    (htwo.trans hbuflen)
  have hmin : min text.length (buflen / P.sqlWcharSize - 1) = text.length := by omega
  have hnot : ¬ buflen / P.sqlWcharSize - 1 < text.length := by omega
  rw [List.take_of_length_le (by omega), hmin, decide_eq_false hnot] at hcopied
  exact Option.some.inj hcopied

namespace TemporalValue

/-- Into characters a temporal value is put as the text that is printed. -/
lemma put_characters (P : Platform) {value : TemporalValue}
    (hlen : value.valLen = value.printed.length + 1) (outChar : OutChar) {b : ApplicationDataBuffer}
    (htype : b.type = outChar.driverType) (hbuffer : b.buffer = true)
    (hbuflen : (value.printed.length + 1) * outChar.size P ≤ b.buflen) :
    ∃ put, value.put P b = some put ∧ put.result = .aiSuccess ∧
      put.stored = some (.units (outChar.size P) (value.printed.map Char.toNat ++ [0])) := by
  have hprinted := value.isPrinted_printed
  rcases outChar with _ | _
  · simp only [OutChar.size_char, Nat.mul_one] at hbuflen ⊢
    refine ⟨_, value.put_of_aiChar P htype, ?_⟩
    have hroom : ¬ b.buflen < value.valLen := by omega
    have hcopy : strncpy value.printed (min value.valLen b.buflen) =
        value.printed.map Char.toNat ++ [0] := by
      have hmin : min value.valLen b.buflen = value.printed.length + 1 := by omega
      rw [strncpy, hmin, List.take_of_length_le (by omega), Nat.add_sub_cancel_left]
      rfl
    unfold ApplicationDataBuffer.putCharText
    simp only [hbuffer, hroom, hcopy, Bool.not_true, Bool.false_eq_true, if_false, and_self]
  · simp only [OutChar.size_sqlWchar] at hbuflen ⊢
    refine ⟨_, value.put_of_aiWchar P htype, ?_⟩
    have hcopy := copyStringToBuffer_of_le P hprinted value.printed_ne_nil hbuflen
    have hresult : (b.putWcharText P value.printed value.valLen).result = .aiSuccess := by
      simp [ApplicationDataBuffer.putWcharText, hbuffer, hcopy]
    have hwide : ¬ b.buflen < value.valLen := by
      have : value.printed.length + 1 ≤ (value.printed.length + 1) * P.sqlWcharSize :=
        Nat.le_mul_of_pos_right _ P.sqlWcharSize_pos
      omega
    constructor
    · unfold wcharResult
      split
      · rw [if_neg hwide]
      · exact hresult
    · simp [ApplicationDataBuffer.putWcharText, hbuffer, hcopy]

/-- A text is what every character buffer gets that is large enough for it, if and only if it is
what is printed. -/
lemma put_characters_iff (P : Platform) (value : TemporalValue)
    (hlen : value.valLen = value.printed.length + 1) (text : Text) :
    (∀ b : ApplicationDataBuffer, b.buffer = true → b.type = .aiChar → text.length < b.buflen →
      ∃ put, value.put P b = some put ∧ put.stored = some (.units 1 (text.map Char.toNat ++ [0]))) ↔
      value.printed = text := by
  constructor
  · intro h
    obtain ⟨put, hput, hstored⟩ := h
      (.new .aiChar true (max text.length value.printed.length + 1) true) rfl rfl
      (Nat.lt_succ_of_le (le_max_left _ _))
    obtain ⟨put', hput', -, hstored'⟩ := put_characters P hlen .char
      (b := .new .aiChar true (max text.length value.printed.length + 1) true) rfl rfl
      (by simp [ApplicationDataBuffer.new])
    obtain rfl := Option.some.inj (hput.symm.trans hput')
    have hunits := Option.some.inj (hstored'.symm.trans hstored)
    have hcodes := List.append_cancel_right (Stored.units.inj hunits).2
    exact List.map_injective_iff.mpr (fun _ _ => Char.toNat_inj.mp) hcodes
  · rintro rfl
    intro b hbuffer htype hbuflen
    obtain ⟨put, hput, -, hstored⟩ := put_characters P hlen .char htype hbuffer
      (by simpa using Nat.succ_le_of_lt hbuflen)
    exact ⟨put, hput, hstored⟩

end TemporalValue

/-! ## Storing the fields -/

/-- The conversions to the members of a structure do not change a field. -/
lemma toSmallint_natCast {n : ℕ} (h : n < 2 ^ 15) : toSmallint n = n := by
  rw [toSmallint, Int.bmod_def]
  split <;> omega

@[inherit_doc toSmallint_natCast]
lemma toUsmallint_natCast {n : ℕ} (h : n < 2 ^ 16) : toUsmallint n = n := by
  rw [toUsmallint]
  omega

@[inherit_doc toSmallint_natCast]
lemma toUinteger_natCast {n : ℕ} (h : n < 2 ^ 32) : toUinteger n = n := by
  rw [toUinteger]
  omega

/-- The members of `SQL_DATE_STRUCT`. -/
lemma DateLiteral.dateStruct_eq (d : DateLiteral) (hour minute second : ℤ) :
    Tm.dateStruct ⟨d.year - 1900, d.month - 1, d.day, hour, minute, second⟩ =
      .date d.year d.month d.day := by
  have hyear := d.year_lt
  have hmonth := d.month_lt
  have hday := d.day_lt
  unfold Tm.dateStruct
  dsimp only
  rw [Int.sub_add_cancel, Int.sub_add_cancel, toSmallint_natCast (by omega),
    toUsmallint_natCast (by omega), toUsmallint_natCast (by omega)]

/-- The members of `SQL_TIME_STRUCT`. -/
lemma TimeLiteral.timeStruct_eq (t : TimeLiteral) (year month day : ℤ) :
    Tm.timeStruct ⟨year, month, day, t.hour, t.minute, t.second⟩ =
      .time t.hour t.minute t.second := by
  have hhour := t.hour_lt
  have hminute := t.minute_lt
  have hsecond := t.second_lt
  unfold Tm.timeStruct
  dsimp only
  rw [toUsmallint_natCast (by omega), toUsmallint_natCast (by omega),
    toUsmallint_natCast (by omega)]

/-- The members of `SQL_TIMESTAMP_STRUCT`. -/
lemma DateLiteral.timestampStruct_eq (d : DateLiteral) {hour minute second nanosecond : ℕ}
    (hhour : hour < 24) (hminute : minute < 60) (hsecond : second < 60)
    (hnanosecond : nanosecond < 10 ^ 9) :
    Tm.timestampStruct ⟨d.year - 1900, d.month - 1, d.day, hour, minute, second⟩ nanosecond =
      .timestamp d.year d.month d.day hour minute second nanosecond := by
  have hyear := d.year_lt
  have hmonth := d.month_lt
  have hday := d.day_lt
  unfold Tm.timestampStruct
  dsimp only
  rw [Int.sub_add_cancel, Int.sub_add_cancel, toSmallint_natCast (by omega),
    toUsmallint_natCast (by omega), toUsmallint_natCast (by omega), toUsmallint_natCast (by omega),
    toUsmallint_natCast (by omega), toUsmallint_natCast (by omega), toUinteger_natCast (by omega)]

/-! ## The round trips -/

namespace TemporalLiteral

/-- The texts that are printed as they were: of a date, the year must have four digits without a
leading zero. -/
def PlainYear : TemporalLiteral → Prop
  | timestamp _ _ _ => True
  | date d => 1000 ≤ d.year
  | time _ => True

/-- What is printed of a value is as long as its text. -/
lemma length_printed_value (u : ℕ → ℤ) (literal : TemporalLiteral) :
    (literal.value u).printed.length = literal.text.length := by
  cases literal with
  | timestamp d t hyear =>
    simp only [value, TemporalValue.printed, text, text_parse_timestamp u hyear]
  | date d =>
    simp only [value, TemporalValue.printed, text, text_parse_date, DateLiteral.length_text]
    simp [length_printBlank_four d.year_lt]
  | time t => simp only [value, TemporalValue.printed, text, text_parse_time]

/-- The length that a conversion takes a text to have is its length. -/
lemma valLen_value (u : ℕ → ℤ) (literal : TemporalLiteral) :
    (literal.value u).valLen = literal.text.length + 1 := by
  cases literal <;> simp [value, TemporalValue.valLen, text]

/-- The text is printed as it was if and only if the year needs no zeros in front. -/
lemma printed_value_eq_text_iff (u : ℕ → ℤ) (literal : TemporalLiteral) :
    (literal.value u).printed = literal.text ↔ literal.PlainYear := by
  cases literal with
  | timestamp d t hyear =>
    simp only [value, TemporalValue.printed, text, text_parse_timestamp u hyear, PlainYear]
  | time t => simp only [value, TemporalValue.printed, text, text_parse_time, PlainYear]
  | date d =>
    simp only [value, TemporalValue.printed, text, text_parse_date, PlainYear]
    constructor
    · intro h
      by_contra hlt
      have hblank := printBlank_head_of_lt (n := d.year) (by omega)
      obtain ⟨c, digits, hdigits⟩ := List.exists_cons_of_ne_nil (l := Decimal.padded 4 d.year) (by
        rw [← List.length_pos_iff, Decimal.length_padded]
        decide)
      obtain ⟨blank, rest, hrest⟩ := List.exists_cons_of_ne_nil (l := printBlank 4 d.year) (by
        rw [← List.length_pos_iff, length_printBlank_four d.year_lt]
        decide)
      rw [DateLiteral.text, hdigits, hrest] at h
      rw [hrest] at hblank
      obtain rfl : blank = ' ' := Option.some.inj hblank
      have hc : c.isDigit = true := by
        have hmem : c ∈ Decimal.padded 4 d.year := by
          rw [hdigits]
          exact List.mem_cons_self
        exact Decimal.isDigit_of_mem_padded hmem
      rw [← (List.cons.inj h).1] at hc
      exact absurd hc (by decide)
    · intro hyear
      have hlen : (printInt d.year).length = 4 := by
        rw [printInt_of_four hyear d.year_lt, Decimal.length_padded]
      rw [printBlank, hlen, printInt_of_four hyear d.year_lt, DateLiteral.text]
      rfl

/-- The fields of a text are put into a structure. -/
lemma put_struct (P : Platform) (u : ℕ → ℤ) (literal : TemporalLiteral) {b : ApplicationDataBuffer}
    {stored : Stored} (hbuffer : b.buffer = true) (hstruct : literal.struct b.type = some stored) :
    ∃ put, (literal.value u).put P b = some put ∧ put.stored = some stored := by
  cases literal with
  | timestamp d t hyear =>
    have htm := timestampToCTm_parse u d t
    have hfraction := fractionNs_parse_timestamp u d t
    rcases htype : b.type <;> rw [htype] at hstruct <;> simp only [struct, reduceCtorEq] at hstruct
    · obtain rfl := Option.some.inj hstruct
      refine ⟨⟨.aiFractionalTruncated, _, b.resLen sizeOfDateStruct, b.cellOffset⟩, ?_, rfl⟩
      simp only [value, TemporalValue.put, ApplicationDataBuffer.putTimestamp, htype,
        ApplicationDataBuffer.putStruct, hbuffer, if_true, htm, d.dateStruct_eq]
    · obtain rfl := Option.some.inj hstruct
      refine ⟨⟨.aiFractionalTruncated, _, b.resLen sizeOfTimeStruct, b.cellOffset⟩, ?_, rfl⟩
      simp only [value, TemporalValue.put, ApplicationDataBuffer.putTimestamp, htype,
        ApplicationDataBuffer.putStruct, hbuffer, if_true, htm, t.timeStruct_eq]
    · obtain rfl := Option.some.inj hstruct
      refine ⟨⟨.aiSuccess, _, b.resLen sizeOfTimestampStruct, b.cellOffset⟩, ?_, rfl⟩
      simp only [value, TemporalValue.put, ApplicationDataBuffer.putTimestamp, htype,
        ApplicationDataBuffer.putStruct, hbuffer, if_true, htm, hfraction]
      rw [d.timestampStruct_eq t.hour_lt t.minute_lt t.second_lt t.nanosecond_lt]
  | date d =>
    have htm := dateToCTm_parse d
    rcases htype : b.type <;> rw [htype] at hstruct <;> simp only [struct, reduceCtorEq] at hstruct
    · obtain rfl := Option.some.inj hstruct
      refine ⟨⟨.aiSuccess, _, b.resLen sizeOfDateStruct, b.cellOffset⟩, ?_, rfl⟩
      simp only [value, TemporalValue.put, ApplicationDataBuffer.putDate, htype,
        ApplicationDataBuffer.putStruct, hbuffer, if_true, htm, d.dateStruct_eq]
    · obtain rfl := Option.some.inj hstruct
      refine ⟨⟨.aiSuccess, _, b.resLen sizeOfTimestampStruct, b.cellOffset⟩, ?_, rfl⟩
      simp only [value, TemporalValue.put, ApplicationDataBuffer.putDate, htype,
        ApplicationDataBuffer.putStruct, hbuffer, if_true, htm]
      exact congrArg some (congrArg (Put.mk .aiSuccess · _ _)
        (congrArg some (@DateLiteral.timestampStruct_eq d 0 0 0 0 (by decide) (by decide) (by decide)
          (by decide))))
  | time t =>
    have htm := timeToCTm_parse u t
    rcases htype : b.type <;> rw [htype] at hstruct <;> simp only [struct, reduceCtorEq] at hstruct
    obtain rfl := Option.some.inj hstruct
    refine ⟨⟨.aiVarlenDataTruncated, _, b.resLen sizeOfTimeStruct, b.cellOffset⟩, ?_, rfl⟩
    simp only [value, TemporalValue.put, ApplicationDataBuffer.putTime, htype,
      ApplicationDataBuffer.putStruct, hbuffer, if_true, htm, t.timeStruct_eq]

/-- A value makes the round trip if and only if its year, in a date, has four digits without a
leading zero. -/
theorem roundTrips_iff_plainYear (P : ColumnPlatform) (literal : TemporalLiteral) :
    literal.RoundTrips P ↔ literal.PlainYear := by
  have hvalLen : (literal.value P.uninitialised).valLen =
      (literal.value P.uninitialised).printed.length + 1 := by
    rw [valLen_value, length_printed_value]
  rw [← printed_value_eq_text_iff P.uninitialised]
  constructor
  · intro h
    apply (TemporalValue.put_characters_iff P.toPlatform _ hvalLen literal.text).mp
    intro b hbuffer htype hbuflen
    obtain ⟨put, hput, -, hstored⟩ := h.characters .char b htype hbuffer
      (by simpa using Nat.succ_le_of_lt hbuflen)
    exact ⟨put, (parseScalarType_eq_put P literal b).symm.trans hput, hstored⟩
  · intro hprinted
    constructor
    · intro outChar b htype hbuffer hbuflen
      rw [parseScalarType_eq_put, ← hprinted]
      rw [← hprinted] at hbuflen
      exact TemporalValue.put_characters P.toPlatform hvalLen outChar htype hbuffer hbuflen
    · intro b stored hbuffer hstruct
      rw [parseScalarType_eq_put]
      exact literal.put_struct P.toPlatform P.uninitialised hbuffer hstruct

/-- The last day of the year 999. -/
def endOf999 : DateLiteral where
  year := 999
  month := 12
  day := 31
  year_lt := by decide
  valid := ⟨by decide, by decide, by decide, by decide⟩

/-- The text `0999-12-31` of a date becomes ` 999-12-31`. -/
theorem not_roundTrips_endOf999 :
    ¬ (TemporalLiteral.date endOf999).RoundTrips sampleColumnPlatform := by
  intro h
  obtain ⟨put, hput, -, hstored⟩ := h.characters .char (.new .aiChar true 11 true) rfl rfl (by decide)
  have hprinted : parseScalarType sampleColumnPlatform .date "0999-12-31".toList
      (.new .aiChar true 11 true) = some ⟨.aiSuccess,
        some (.units 1 (" 999-12-31".toList.map Char.toNat ++ [0])), some 10, -1⟩ := by
    decide +kernel
  have htext : (TemporalLiteral.date endOf999).text = "0999-12-31".toList := by decide
  rw [htext] at hput hstored
  obtain rfl := Option.some.inj (hput.symm.trans hprinted)
  exact absurd hstored (by decide)

end TemporalLiteral

end TimestreamOdbc
