import TimestreamOdbc.App.GetTemporal

/-!
# Round trips of temporal values

A value that was put into a buffer of the application comes back from the structures with its fields.
From a text the readers scan no fraction, and they take the length of a wide text, which was counted
in characters, for a number of bytes.
-/

namespace TimestreamOdbc

/-! ## What is claimed of them -/

namespace TemporalValue

/-- The function that reads the values of a kind. There is none for the intervals. -/
def get (P : Platform) (held : Held) (b : ApplicationDataBuffer) : TemporalValue → Option TemporalValue
  | date _ => (b.getDate P held).map date
  | timestamp _ => (b.getTimestamp P held).map timestamp
  | time _ => (b.getTime P held).map time
  | intervalYearMonth _ | intervalDaySecond _ => none

/-- The timestamps of the years 1000 to 9999, the dates on a day boundary, and the times within a
day. -/
def InRange : TemporalValue → Prop
  | timestamp value =>
    1000 ≤ (civilFromDays (value.seconds / 86400)).1 ∧
      (civilFromDays (value.seconds / 86400)).1 ≤ 9999 ∧
      0 ≤ value.fractionNs ∧ value.fractionNs < 10 ^ 9
  | date value =>
    86400000 ∣ value.milliseconds ∧ -2 ^ 63 ≤ value.milliseconds ∧ value.milliseconds < 2 ^ 63
  | time value =>
    0 ≤ value.seconds ∧ value.seconds < 86400 ∧ 0 ≤ value.fractionNs ∧ value.fractionNs < 10 ^ 9
  | intervalYearMonth _ | intervalDaySecond _ => False

/-- A buffer holds a value fully: the structures with all of its fields, and characters when there is
an indicator and room for the text with its terminator. -/
def HeldBy (P : Platform) (b : ApplicationDataBuffer) (value : TemporalValue) : Prop :=
  b.buffer = true ∧
    match b.type, value with
    | .aiTtimestamp, timestamp _ | .aiTtimestamp, date _ | .aiTtimestamp, time _
    | .aiTdate, date _ => True
    | .aiChar, value => b.reslen = true ∧ value.printed.length + 1 ≤ b.buflen
    | .aiWchar, value =>
      b.reslen = true ∧ (value.printed.length + 1) * P.sqlWcharSize ≤ b.buflen
    | _, _ => False

/-- What is put is read back, whatever was behind the pointers before. -/
def ComesBack (P : Platform) (b : ApplicationDataBuffer) (value : TemporalValue) : Prop :=
  ∀ previous : Held, ∃ put, value.put P b = some put ∧
    value.get P (put.held previous) b = some value

/-- The condition for a value. A structure must have room for the year. A time loses its fraction,
and so does a timestamp in characters. In front of the middle of a wide text there must be all of it
that is not zero: the date and the hour of a timestamp, or the three fields or the hour of a time. A
date is beyond that, and its text has four characters for the year. -/
def ComesBackWhen (P : Platform) (type : OdbcNativeType) : TemporalValue → Prop
  | timestamp value =>
    match type with
    | .aiTtimestamp => True
    | .aiWchar => value.fractionNs = 0 ∧ P.sqlWcharSize = 2 ∧ 3600 ∣ value.seconds
    | _ => value.fractionNs = 0
  | date value =>
    let civil := civilFromDays (value.milliseconds / 86400000)
    match type with
    | .aiChar => -999 ≤ civil.1 ∧ civil.1 ≤ 9999
    -- nothing is scanned, and the date of that is the last day of November before the year 0
    | .aiWchar => P.sqlWcharSize = 4 ∧ civil = (-1, 11, 30)
    | _ => -2 ^ 15 ≤ civil.1 ∧ civil.1 < 2 ^ 15
  | time value =>
    match type with
    | .aiWchar => value.fractionNs = 0 ∧ (P.sqlWcharSize = 2 ∨ 3600 ∣ value.seconds)
    | _ => value.fractionNs = 0
  | intervalYearMonth _ | intervalDaySecond _ => False

end TemporalValue

/-! ## Reading back -/

section ReadBack

variable {P : Platform} {b : ApplicationDataBuffer} {value result : TemporalValue}

/-- Whether a value comes back, where something is known of what is behind the pointers. -/
lemma TemporalValue.comesBack_iff_of {Q : Held → Prop}
    (hput : ∀ previous : Held, ∃ put, value.put P b = some put ∧ Q (put.held previous))
    (hget : ∀ held, Q held → value.get P held b = some result) :
    value.ComesBack P b ↔ result = value := by
  constructor
  · intro h
    let previous : Held := ⟨.nullBefore, 0⟩
    obtain ⟨put, hfirst, hheld⟩ := hput previous
    obtain ⟨put', hsecond, hback⟩ := h previous
    obtain rfl := Option.some.inj (hfirst.symm.trans hsecond)
    exact Option.some.inj ((hget _ hheld).symm.trans hback)
  · rintro rfl
    intro previous
    obtain ⟨put, hfirst, hheld⟩ := hput previous
    exact ⟨put, hfirst, hget _ hheld⟩

/-- A value comes back from characters if it is what is scanned from their beginning. -/
lemma TemporalValue.comesBack_characters_iff (outChar : OutChar) (htype : b.type = outChar.driverType)
    (hbuffer : b.buffer = true) (hreslen : b.reslen = true)
    (hlen : value.valLen ≤ value.printed.length + 1) (hlong : 1 < value.valLen)
    (hshort : value.valLen < 2 ^ 31)
    (hbuflen : (value.printed.length + 1) * outChar.size P ≤ b.buflen)
    (hget : ∀ held, b.getInputSize held ≠ 0 →
      b.scannedText P held = some (value.printed.take ((value.valLen - 1) / outChar.size P)) →
      value.get P held b = some result) :
    value.ComesBack P b ↔ result = value := by
  let Q : Held → Prop := fun held => b.getInputSize held ≠ 0 ∧
    b.scannedText P held = some (value.printed.take ((value.valLen - 1) / outChar.size P))
  have hput : ∀ previous : Held, ∃ put, value.put P b = some put ∧ Q (put.held previous) :=
    exists_put_scannedText P outChar htype hbuffer hreslen hlen hlong hshort hbuflen
  exact comesBack_iff_of hput fun held hheld => hget held hheld.1 hheld.2

/-- The broken-down time that is scanned from characters. -/
lemma ApplicationDataBuffer.readDateTime_characters {outChar : OutChar} {held : Held} {text : Text}
    (htype : b.type = outChar.driverType) (hsize : b.getInputSize held ≠ 0)
    (htext : b.scannedText P held = some text) :
    b.readDateTime P held = some (tmOfScanned (sscanf readDateTimeFormat text)) := by
  cases outChar <;> simp [readDateTime, htype, OutChar.driverType, hsize, htext]

/-- A timestamp that is scanned from characters has no fraction. -/
lemma ApplicationDataBuffer.getTimestamp_characters {outChar : OutChar} {held : Held} {text : Text}
    (htype : b.type = outChar.driverType) (hsize : b.getInputSize held ≠ 0)
    (htext : b.scannedText P held = some text) :
    b.getTimestamp P held =
      some ⟨timegm (tmOfScanned (sscanf readDateTimeFormat text)), 0⟩ := by
  rw [getTimestamp, readDateTime_characters htype hsize htext, htype]
  cases outChar <;> rfl

/-- A date that is scanned from characters. -/
lemma ApplicationDataBuffer.getDate_characters {outChar : OutChar} {held : Held} {text : Text}
    (htype : b.type = outChar.driverType) (hsize : b.getInputSize held ≠ 0)
    (htext : b.scannedText P held = some text) :
    b.getDate P held = some ⟨timegm (tmOfScanned (sscanf readDateTimeFormat text)) * 1000⟩ := by
  rw [getDate, readDateTime_characters htype hsize htext, Option.map_some]

/-- A time that is scanned from characters has no fraction. -/
lemma ApplicationDataBuffer.getTime_characters {outChar : OutChar} {held : Held} {text : Text}
    {hour minute second : ℤ} (htype : b.type = outChar.driverType) (hsize : b.getInputSize held ≠ 0)
    (htext : b.scannedText P held = some text)
    (hhour : (sscanf readTimeFormat text).getD 0 0 = hour)
    (hminute : (sscanf readTimeFormat text).getD 1 0 = minute)
    (hsecond : (sscanf readTimeFormat text).getD 2 0 = second) :
    b.getTime P held = some ⟨((hour * 60 + minute) * 60 + second).bmod (2 ^ 32), 0⟩ := by
  have hdays : timegm ⟨70, 0, 1, hour, minute, second⟩ =
      ((daysFromCivil 1970 1 1 * 24 + hour) * 60 + minute) * 60 + second := rfl
  have hepoch : daysFromCivil 1970 1 1 = 0 := by decide
  have htm : b.readTime P held = some ⟨70, 0, 1, hour, minute, second⟩ := by
    subst hhour hminute hsecond
    rw [readTime, htype]
    cases outChar <;> simp [OutChar.driverType, hsize, htext]
  rw [getTime, htm, Option.map_some, hdays, hepoch, Int.zero_mul, Int.zero_add]

end ReadBack

/-! ## Timestamps -/

section Timestamp

variable {P : Platform} {b : ApplicationDataBuffer}

/-- The day of a date and a time of the day. -/
lemma civilFromDays_timegm {year month day hour minute second : ℤ} (hdate : ValidDate year month day)
    (htime : ValidTime hour minute second) :
    civilFromDays (timegm ⟨year - 1900, month - 1, day, hour, minute, second⟩ / 86400) =
      (year, month, day) := by
  obtain ⟨hhour, hhour', hminute, hminute', hsecond, hsecond'⟩ := htime
  have hmonth := hdate.month_pos
  have hmonth' := hdate.month_le
  have hname : (month - 1) % 12 + 1 = month := by omega
  have hshift : year - 1900 + 1900 + (month - 1) / 12 = year := by omega
  have hday : timegm ⟨year - 1900, month - 1, day, hour, minute, second⟩ / 86400 =
      daysFromCivil year month day := by
    unfold timegm
    dsimp only
    rw [hname, hshift]
    omega
  rw [hday, civilFromDays_daysFromCivil hdate]

/-- A timestamp is what its text is parsed into. -/
lemma exists_literals_timestamp {value : Timestamp} (h : (TemporalValue.timestamp value).InRange) :
    ∃ (d : DateLiteral) (t : TimeLiteral), value.text = d.text ++ ' ' :: t.text ∧
      timestampToCTm value = ⟨d.year - 1900, d.month - 1, d.day, t.hour, t.minute, t.second⟩ ∧
      value.seconds = timegm ⟨d.year - 1900, d.month - 1, d.day, t.hour, t.minute, t.second⟩ ∧
      value.fractionNs = t.nanosecond := by
  obtain ⟨seconds, fractionNs⟩ := value
  obtain ⟨hge, hle, hfraction, hfraction'⟩ := h
  obtain ⟨year, month, day, hour, minute, second, hdate, htime, rfl⟩ := exists_timegm seconds
  dsimp only at hge hle hfraction hfraction'
  rw [civilFromDays_timegm hdate htime] at hge hle
  dsimp only at hge hle
  have hdate' := hdate
  have htime' := htime
  obtain ⟨hmonth, hmonth', hday, hday'⟩ := hdate'
  obtain ⟨hhour, hhour', hminute, hminute', hsecond, hsecond'⟩ := htime'
  lift year to ℕ using by omega
  lift month to ℕ using by omega
  lift day to ℕ using by omega
  lift hour to ℕ using hhour
  lift minute to ℕ using hminute
  lift second to ℕ using hsecond
  lift fractionNs to ℕ using hfraction
  let d : DateLiteral := ⟨year, month, day, by omega, hdate⟩
  let t : TimeLiteral := ⟨hour, minute, second, fractionNs, htime, by omega⟩
  have hyear : 1000 ≤ d.year := by exact_mod_cast hge
  have hparse : Timestamp.parse (fun _ => 0) (d.text ++ ' ' :: t.text) =
      ⟨timegm ⟨year - 1900, month - 1, day, hour, minute, second⟩, fractionNs⟩ := by
    rw [Timestamp.parse, timestampFormat, d.sscanf_text, sscanf, t.ltrim_text, t.sscanf_text]
    rfl
  have htext := text_parse_timestamp (fun _ => 0) hyear t
  have htm := timestampToCTm_parse (fun _ => 0) d t
  rw [hparse] at htext htm
  exact ⟨d, t, htext, htm, rfl, rfl⟩

/-- A number behind a blank, in a format. -/
lemma sscanf_space_padded {width n : ℕ} (hwidth : 0 < width) (hn : n < 10 ^ width)
    (hint : n < 2 ^ 31) (format : List ScanDirective) {rest : Text}
    (hrest : ∀ c ∈ rest.head?, c.isDigit = false) :
    sscanf (.space :: .int none :: format) (' ' :: (Decimal.padded width n ++ rest)) =
      (n : ℤ) :: sscanf format rest := by
  have hblank : scanNumber none (' ' :: (Decimal.padded width n ++ rest)) =
      scanNumber none (Decimal.padded width n ++ rest) := scanNumber_blanks none 1 _
  rw [sscanf_space_int, ← sscanf_padded_of_head hwidth hn hint format hrest, sscanf, sscanf, hblank]

/-- A date is scanned with the format of the readers. -/
lemma DateLiteral.sscanf_read (d : DateLiteral) (format : List ScanDirective) {rest : Text}
    (hrest : ∀ c ∈ rest.head?, c.isDigit = false) :
    sscanf (.int none :: .char '-' :: .int none :: .char '-' :: .int none :: format)
        (d.text ++ rest) =
      (d.year : ℤ) :: (d.month : ℤ) :: (d.day : ℤ) :: sscanf format rest := by
  have hyear := d.year_lt
  have hmonth := d.month_lt
  have hday := d.day_lt
  simp only [text, List.cons_append, List.append_assoc]
  rw [sscanf_padded_of_head (by decide) (by omega) (by omega) _ (by simp), sscanf_char,
    sscanf_padded_of_head (by decide) (by omega) (by omega) _ (by simp), sscanf_char,
    sscanf_padded_of_head (by decide) (by omega) (by omega) _ hrest]

/-- A time is scanned with the format of the readers, up to its fraction. -/
lemma TimeLiteral.sscanf_read (t : TimeLiteral) {rest : Text}
    (hrest : ∀ c ∈ rest.head?, c.isDigit = false) :
    sscanf readTimeFormat (Decimal.padded 2 t.hour ++ ':' :: (Decimal.padded 2 t.minute ++
        ':' :: (Decimal.padded 2 t.second ++ rest))) =
      [(t.hour : ℤ), (t.minute : ℤ), (t.second : ℤ)] := by
  have hhour := t.hour_lt
  have hminute := t.minute_lt
  have hsecond := t.second_lt
  rw [readTimeFormat, sscanf_padded_of_head (by decide) (by omega) (by omega) _ (by simp),
    sscanf_char, sscanf_padded_of_head (by decide) (by omega) (by omega) _ (by simp), sscanf_char,
    sscanf_padded_of_head (by decide) (by omega) (by omega) _ hrest, sscanf_nil]

/-- The fields that are scanned from the whole text of a timestamp. -/
lemma tmOfScanned_timestamp (d : DateLiteral) (t : TimeLiteral) :
    tmOfScanned (sscanf readDateTimeFormat (d.text ++ ' ' :: t.text)) =
      ⟨d.year - 1900, d.month - 1, d.day, t.hour, t.minute, t.second⟩ := by
  have hhour := t.hour_lt
  have hminute := t.minute_lt
  have hsecond := t.second_lt
  have htime : sscanf (.space :: readTimeFormat) (' ' :: t.text) =
      [(t.hour : ℤ), (t.minute : ℤ), (t.second : ℤ)] := by
    rw [sscanf, t.ltrim_text, TimeLiteral.text, t.sscanf_read (by simp)]
  have hscan : sscanf readDateTimeFormat (d.text ++ ' ' :: t.text) =
      [(d.year : ℤ), d.month, d.day, t.hour, t.minute, t.second] := by
    rw [readDateTimeFormat, d.sscanf_read _ (by simp)]
    exact congrArg (fun rest => (d.year : ℤ) :: (d.month : ℤ) :: (d.day : ℤ) :: rest) htime
  rw [hscan]
  rfl

/-- The fields in the first 14 characters: those up to the hour. -/
lemma tmOfScanned_take_fourteen (d : DateLiteral) (t : TimeLiteral) :
    tmOfScanned (sscanf readDateTimeFormat ((d.text ++ ' ' :: t.text).take 14)) =
      ⟨d.year - 1900, d.month - 1, d.day, t.hour, 0, 0⟩ := by
  have hhour := t.hour_lt
  have htake : (d.text ++ ' ' :: t.text).take 14 =
      d.text ++ ' ' :: (Decimal.padded 2 t.hour ++ [':']) := by
    have hdate : d.text.take 14 = d.text := List.take_of_length_le (by simp)
    have hdigits : (Decimal.padded 2 t.hour).take 3 = Decimal.padded 2 t.hour :=
      List.take_of_length_le (by simp)
    simp [List.take_append, TimeLiteral.text, hdate, hdigits]
  have hscan : sscanf readDateTimeFormat ((d.text ++ ' ' :: t.text).take 14) =
      [(d.year : ℤ), d.month, d.day, t.hour] := by
    rw [htake, readDateTimeFormat, d.sscanf_read _ (by simp),
      sscanf_space_padded (by decide) (by omega) (by omega) _ (by simp)]
    simp [sscanf, scanNumber, ltrim]
  rw [hscan]
  rfl

/-- The fields in the first 7 characters: the year and the month. -/
lemma tmOfScanned_take_seven (d : DateLiteral) (rest : Text) :
    tmOfScanned (sscanf readDateTimeFormat ((d.text ++ rest).take 7)) =
      ⟨d.year - 1900, d.month - 1, 0, 0, 0, 0⟩ := by
  have hyear := d.year_lt
  have hmonth := d.month_lt
  have htake : (d.text ++ rest).take 7 =
      Decimal.padded 4 d.year ++ '-' :: (Decimal.padded 2 d.month ++ []) := by
    have hdigits : (Decimal.padded 4 d.year).take 7 = Decimal.padded 4 d.year :=
      List.take_of_length_le (by simp)
    simp [List.take_append, DateLiteral.text, hdigits]
  have hscan : sscanf readDateTimeFormat ((d.text ++ rest).take 7) = [(d.year : ℤ), d.month] := by
    rw [htake, readDateTimeFormat,
      sscanf_padded_of_head (by decide) (by omega) (by omega) _ (by simp), sscanf_char,
      sscanf_padded_of_head (by decide) (by omega) (by omega) _ (by simp)]
    rfl
  rw [hscan]
  rfl

/-- A timestamp comes back from characters without a fraction; from wide ones of 2 bytes, those up to
the hour, and from wider ones, none. -/
lemma Timestamp.comesBack_characters_iff {value : Timestamp}
    (hvalue : (TemporalValue.timestamp value).InRange) (outChar : OutChar)
    (htype : b.type = outChar.driverType) (hbuffer : b.buffer = true) (hreslen : b.reslen = true)
    (hbuflen : (value.text.length + 1) * outChar.size P ≤ b.buflen) :
    (TemporalValue.timestamp value).ComesBack P b ↔
      value.fractionNs = 0 ∧ (outChar = .sqlWchar → P.sqlWcharSize = 2 ∧ 3600 ∣ value.seconds) := by
  obtain ⟨d, t, htext, -, hseconds, hfraction⟩ := exists_literals_timestamp hvalue
  have hlength : value.text.length = 29 := by simp [htext]
  -- whatever is scanned, there is no fraction
  have hiff : ∀ tm, tmOfScanned (sscanf readDateTimeFormat (value.text.take (29 / outChar.size P))) =
      tm → ((TemporalValue.timestamp value).ComesBack P b ↔
        timegm tm = value.seconds ∧ value.fractionNs = 0) := by
    rintro tm rfl
    let scanned : Timestamp := ⟨timegm (tmOfScanned (sscanf readDateTimeFormat
      (value.text.take (29 / outChar.size P)))), 0⟩
    have hget : ∀ held, b.getInputSize held ≠ 0 →
        b.scannedText P held = some (value.text.take (29 / outChar.size P)) →
        (TemporalValue.timestamp value).get P held b = some (.timestamp scanned) := by
      intro held hsize hheld
      rw [TemporalValue.get, ApplicationDataBuffer.getTimestamp_characters htype hsize hheld,
        Option.map_some]
    have hvalLen : (TemporalValue.timestamp value).valLen = 30 := rfl
    have hprinted : (TemporalValue.timestamp value).printed = value.text := rfl
    have hback : (TemporalValue.timestamp value).ComesBack P b ↔
        TemporalValue.timestamp scanned = .timestamp value :=
      TemporalValue.comesBack_characters_iff outChar htype hbuffer hreslen
        (by rw [hvalLen, hprinted, hlength]) (by rw [hvalLen]; decide) (by rw [hvalLen]; decide)
        hbuflen hget
    rw [hback, TemporalValue.timestamp.injEq]
    constructor
    · intro h
      exact ⟨congrArg Timestamp.seconds h, (congrArg Timestamp.fractionNs h).symm⟩
    · rintro ⟨hsame, hnone⟩
      exact congrArg₂ Timestamp.mk hsame hnone.symm
  -- the hour and the rest of the seconds
  have hhour : ∀ minute second, timegm ⟨d.year - 1900, d.month - 1, d.day, t.hour, minute, second⟩ =
      timegm ⟨d.year - 1900, d.month - 1, d.day, t.hour, 0, 0⟩ + (minute * 60 + second) := by
    intro minute second
    unfold timegm
    dsimp only
    omega
  have hwhole : 3600 ∣ timegm ⟨d.year - 1900, d.month - 1, d.day, t.hour, 0, 0⟩ := by
    unfold timegm
    dsimp only
    omega
  have hminute := t.minute_lt
  have hsecond := t.second_lt
  rw [htext] at hiff
  rcases outChar with _ | _
  · have htake : (d.text ++ ' ' :: t.text).take 29 = d.text ++ ' ' :: t.text :=
      List.take_of_length_le (by simp)
    have hall := hiff ⟨d.year - 1900, d.month - 1, d.day, t.hour, t.minute, t.second⟩ (by
      rw [OutChar.size_char, Nat.div_one, htake, tmOfScanned_timestamp])
    rw [hall, hseconds]
    simp
  · simp only [forall_const]
    rcases P.sqlWcharSize_eq with hsize | hsize
    · have hpart := hiff ⟨d.year - 1900, d.month - 1, d.day, t.hour, 0, 0⟩ (by
        rw [OutChar.size_sqlWchar, hsize]
        exact tmOfScanned_take_fourteen d t)
      rw [hpart, hseconds, hhour t.minute t.second]
      omega
    · have hpart := hiff ⟨d.year - 1900, d.month - 1, 0, 0, 0, 0⟩ (by
        rw [OutChar.size_sqlWchar, hsize]
        exact tmOfScanned_take_seven d _)
      have hearlier := @timegm_lt_timegm d.year d.month d.day d.month 0 t.hour t.minute t.second
        d.valid (by omega) le_rfl (by have := d.valid.day_pos; omega) (by omega) (by omega)
        (by omega)
      rw [hpart, hseconds]
      omega

/-- A buffer of 30 characters holds a timestamp. -/
lemma heldBy_char {value : Timestamp} (hvalue : (TemporalValue.timestamp value).InRange) :
    (TemporalValue.timestamp value).HeldBy P (.new .aiChar true 30 true) := by
  obtain ⟨d, t, htext, -⟩ := exists_literals_timestamp hvalue
  have hlength : (TemporalValue.timestamp value).printed.length = 29 := by
    simp [TemporalValue.printed, htext]
  refine ⟨rfl, rfl, ?_⟩
  rw [hlength]
  exact le_rfl

end Timestamp

/-! ## Times -/

section Time

variable {P : Platform} {b : ApplicationDataBuffer}

/-- A time is what its text is parsed into. -/
lemma exists_literal_time {value : Time} (h : (TemporalValue.time value).InRange) :
    ∃ t : TimeLiteral, value.text = t.text ∧
      timeToCTm value = ⟨70, 0, 1, t.hour, t.minute, t.second⟩ ∧
      value.seconds = (t.hour * 60 + t.minute) * 60 + t.second ∧ value.fractionNs = t.nanosecond := by
  obtain ⟨seconds, fractionNs⟩ := value
  obtain ⟨hseconds, hseconds', hfraction, hfraction'⟩ := h
  dsimp only at hseconds hseconds' hfraction hfraction'
  lift seconds to ℕ using hseconds
  lift fractionNs to ℕ using hfraction
  let t : TimeLiteral := ⟨seconds / 3600, seconds / 60 % 60, seconds % 60, fractionNs,
    ⟨by omega, by omega, by omega, by omega, by omega, by omega⟩, by omega⟩
  have hsum : ((seconds / 3600 : ℕ) * 60 + (seconds / 60 % 60 : ℕ)) * 60 + (seconds % 60 : ℕ) =
      (seconds : ℤ) := by omega
  have hparse : Time.parse (fun _ => 0) t.text = ⟨seconds, fractionNs⟩ := by
    have hfits : ((((seconds / 3600 : ℕ) : ℤ) * 60 + (seconds / 60 % 60 : ℕ)) * 60 +
        (seconds % 60 : ℕ)).bmod (2 ^ 32) = seconds := by
      rw [hsum, Int.bmod_def]
      split <;> omega
    rw [Time.parse, t.sscanf_text]
    simp only [List.getD_cons_zero, List.getD_cons_succ]
    exact congrArg₂ Time.mk hfits rfl
  have htext := text_parse_time (fun _ => 0) t
  have htm := timeToCTm_parse (fun _ => 0) t
  rw [hparse] at htext htm
  exact ⟨t, htext, htm, hsum.symm, rfl⟩

/-- A time comes back from characters without a fraction; from wide ones of 4 bytes, on the hour. -/
lemma Time.comesBack_characters_iff {value : Time} (hvalue : (TemporalValue.time value).InRange)
    (outChar : OutChar) (htype : b.type = outChar.driverType) (hbuffer : b.buffer = true)
    (hreslen : b.reslen = true) (hbuflen : (value.text.length + 1) * outChar.size P ≤ b.buflen) :
    (TemporalValue.time value).ComesBack P b ↔
      value.fractionNs = 0 ∧
        (outChar = .sqlWchar → P.sqlWcharSize = 2 ∨ 3600 ∣ value.seconds) := by
  obtain ⟨t, htext, -, hseconds, -⟩ := exists_literal_time hvalue
  have hlength : value.text.length = 18 := by simp [htext]
  have hvalLen : (TemporalValue.time value).valLen = 19 := rfl
  have hprinted : (TemporalValue.time value).printed = value.text := rfl
  have hhour := t.hour_lt
  have hminute := t.minute_lt
  have hsecond := t.second_lt
  -- whatever is scanned, there is no fraction
  have hiff : ∀ hour minute second : ℕ, hour < 24 → minute < 60 → second < 60 →
      (sscanf readTimeFormat (value.text.take (18 / outChar.size P))).getD 0 0 = hour →
      (sscanf readTimeFormat (value.text.take (18 / outChar.size P))).getD 1 0 = minute →
      (sscanf readTimeFormat (value.text.take (18 / outChar.size P))).getD 2 0 = second →
      ((TemporalValue.time value).ComesBack P b ↔
        ((hour : ℤ) * 60 + minute) * 60 + second = value.seconds ∧ value.fractionNs = 0) := by
    intro hour minute second hlt hlt' hlt'' hfirst hnext hlast
    let scanned : Time := ⟨(((hour : ℤ) * 60 + minute) * 60 + second).bmod (2 ^ 32), 0⟩
    have hget : ∀ held, b.getInputSize held ≠ 0 →
        b.scannedText P held = some (value.text.take (18 / outChar.size P)) →
        (TemporalValue.time value).get P held b = some (.time scanned) := by
      intro held hsize hheld
      rw [TemporalValue.get, ApplicationDataBuffer.getTime_characters htype hsize hheld hfirst hnext
        hlast, Option.map_some]
    have hback : (TemporalValue.time value).ComesBack P b ↔
        TemporalValue.time scanned = .time value :=
      TemporalValue.comesBack_characters_iff outChar htype hbuffer hreslen
        (by rw [hvalLen, hprinted, hlength]) (by rw [hvalLen]; decide) (by rw [hvalLen]; decide)
        hbuflen hget
    have hfits : (((hour : ℤ) * 60 + minute) * 60 + second).bmod (2 ^ 32) =
        ((hour : ℤ) * 60 + minute) * 60 + second := by
      rw [Int.bmod_def]
      split <;> omega
    have hscanned : scanned = ⟨((hour : ℤ) * 60 + minute) * 60 + second, 0⟩ :=
      congrArg (Time.mk · 0) hfits
    rw [hback, TemporalValue.time.injEq, hscanned]
    constructor
    · intro h
      exact ⟨congrArg Time.seconds h, (congrArg Time.fractionNs h).symm⟩
    · rintro ⟨hsame, hnone⟩
      exact congrArg₂ Time.mk hsame hnone.symm
  have hwhole : ∀ rest : Text, (∀ c ∈ rest.head?, c.isDigit = false) →
      value.text.take (18 / outChar.size P) = Decimal.padded 2 t.hour ++ ':' ::
        (Decimal.padded 2 t.minute ++ ':' :: (Decimal.padded 2 t.second ++ rest)) →
      ((TemporalValue.time value).ComesBack P b ↔ value.fractionNs = 0) := by
    intro rest hrest htake
    have hread := t.sscanf_read hrest
    rw [← htake] at hread
    rw [hiff t.hour t.minute t.second hhour hminute hsecond (by rw [hread]; rfl) (by rw [hread]; rfl)
      (by rw [hread]; rfl), hseconds]
    exact and_iff_right rfl
  rcases outChar with _ | _
  · rw [hwhole ('.' :: Decimal.padded 9 t.nanosecond) (by simp) (by
      rw [OutChar.size_char, Nat.div_one, List.take_of_length_le hlength.le, htext]
      rfl)]
    simp
  · simp only [forall_const]
    rcases P.sqlWcharSize_eq with hsize | hsize
    · have htake : t.text.take 9 = Decimal.padded 2 t.hour ++ ':' ::
          (Decimal.padded 2 t.minute ++ ':' :: (Decimal.padded 2 t.second ++ ['.'])) := by
        simp [TimeLiteral.text, Decimal.padded]
      rw [hwhole ['.'] (by simp) (by
        rw [OutChar.size_sqlWchar, hsize, htext]
        exact htake)]
      simp [hsize]
    · -- the hour and the first digit of the minute
      have htake : t.text.take 4 =
          Decimal.padded 2 t.hour ++ ':' :: (Decimal.padded 1 (t.minute / 10) ++ []) := by
        simp [TimeLiteral.text, Decimal.padded]
      have hread : sscanf readTimeFormat (t.text.take 4) = [(t.hour : ℤ), (t.minute / 10 : ℕ)] := by
        rw [htake, readTimeFormat,
          sscanf_padded_of_head (by decide) (by omega) (by omega) _ (by simp), sscanf_char,
          sscanf_padded_of_head (by decide) (by omega) (by omega) _ (by simp)]
        rfl
      have htaken : value.text.take (18 / OutChar.sqlWchar.size P) = t.text.take 4 := by
        rw [OutChar.size_sqlWchar, hsize, htext]
      rw [hiff t.hour (t.minute / 10) 0 hhour (by omega) (by decide) (by rw [htaken, hread]; rfl)
        (by rw [htaken, hread]; rfl) (by rw [htaken, hread]; rfl), hseconds]
      omega

end Time

/-! ## Dates -/

section Date

variable {P : Platform} {b : ApplicationDataBuffer}

/-- A date is printed with the year in four characters or more. -/
lemma exists_civil_date {value : Date} (h : (TemporalValue.date value).InRange) :
    ∃ (year : ℤ) (month day : ℕ), ValidDate year month day ∧ -10 ^ 9 < year ∧ year < 10 ^ 9 ∧
      civilFromDays (value.milliseconds / 86400000) = (year, (month : ℤ), (day : ℤ)) ∧
      dateToCTm value = ⟨year - 1900, month - 1, day, 0, 0, 0⟩ ∧
      value.milliseconds = timegm ⟨year - 1900, month - 1, day, 0, 0, 0⟩ * 1000 ∧
      value.text = printBlank 4 year ++ '-' ::
        (Decimal.padded 2 month ++ '-' :: Decimal.padded 2 day) := by
  obtain ⟨milliseconds⟩ := value
  obtain ⟨⟨days, hdays⟩, hge, hlt⟩ := h
  dsimp only at hdays hge hlt
  subst hdays
  obtain ⟨year, month, day, hdate, rfl⟩ := exists_daysFromCivil days
  have hyear : -10 ^ 9 < year ∧ year < 10 ^ 9 := by
    have hmonth := hdate.month_pos
    have hmonth' := hdate.month_le
    have hday := hdate.day_pos
    have hday' := hdate.day_le.trans (daysInMonth_le year month)
    unfold daysFromCivil at hge hlt
    dsimp only at hge hlt
    split at hge <;> omega
  have hmonth := hdate.month_pos
  have hmonth' := hdate.month_le
  have hday := hdate.day_pos
  have hday' := hdate.day_le.trans (daysInMonth_le year month)
  lift month to ℕ using by omega
  lift day to ℕ using by omega
  have hmidnight : ValidTime 0 0 0 := ⟨by decide, by decide, by decide, by decide, by decide, by decide⟩
  have htimegm := timegm_midnight hmonth hmonth' year day
  have hcivil := civilFromDays_daysFromCivil hdate
  have hgmtime := igniteGmTime_timegm hdate hmidnight ⟨by omega, by omega⟩
  generalize daysFromCivil year month day = days at hge hlt htimegm hcivil
  have hdiv : 86400000 * days / 86400000 = days := by omega
  have hcut : (86400000 * days).tdiv 1000 = timegm ⟨year - 1900, month - 1, day, 0, 0, 0⟩ := by
    rw [htimegm, show 86400000 * days = days * 86400 * 1000 by omega, Int.mul_tdiv_cancel _ (by decide)]
  have htm : dateToCTm ⟨86400000 * days⟩ = ⟨year - 1900, month - 1, day, 0, 0, 0⟩ := by
    rw [dateToCTm, Date.getSeconds, hcut, hgmtime, Option.getD_some]
  refine ⟨year, month, day, hdate, hyear.1, hyear.2, ?_, htm, ?_, ?_⟩
  · rw [hdiv, hcivil]
  · dsimp only
    rw [htimegm]
    omega
  · rw [Date.text, htm]
    dsimp only
    rw [Int.sub_add_cancel, Int.sub_add_cancel, printZero_natCast (by decide) (by omega),
      printZero_natCast (by decide) (by omega)]
    simp

/-- The fields that are scanned from the whole text of a date. -/
lemma tmOfScanned_date {year : ℤ} {month day : ℕ} (hyear : -10 ^ 9 < year ∧ year < 10 ^ 9)
    (hmonth : month < 100) (hday : day < 100) :
    tmOfScanned (sscanf readDateTimeFormat (printBlank 4 year ++ '-' ::
        (Decimal.padded 2 month ++ '-' :: Decimal.padded 2 day))) =
      ⟨year - 1900, month - 1, day, 0, 0, 0⟩ := by
  have hfits : scannedInt year = year := scannedInt_eq_self_iff.mpr ⟨by omega, by omega⟩
  have hscan : sscanf readDateTimeFormat (printBlank 4 year ++ '-' ::
      (Decimal.padded 2 month ++ '-' :: Decimal.padded 2 day)) = [year, month, day] := by
    rw [readDateTimeFormat, sscanf, scanNumber_printBlank 4 year (by simp)]
    dsimp only
    rw [hfits, sscanf_char, sscanf_padded_of_head (by decide) (by omega) (by omega) _ (by simp),
      sscanf_char, ← List.append_nil (Decimal.padded 2 day),
      sscanf_padded_of_head (by decide) (by omega) (by omega) _ (by simp)]
    rfl
  rw [hscan]
  rfl

/-- The fields that are scanned where the text of a date is cut off behind the year: a part of the
month, and less than the day. -/
lemma exists_tmOfScanned_behind_year {year : ℤ} {month day : ℕ}
    (hyear : -10 ^ 9 < year ∧ year < 10 ^ 9) (hmonth : month < 100) (hday : 0 < day) (hday' : day < 100)
    {k : ℕ} (hk : k < 5) :
    ∃ month' day' : ℕ, month' ≤ month ∧ day' < day ∧
      tmOfScanned (sscanf readDateTimeFormat (printBlank 4 year ++ '-' ::
          (Decimal.padded 2 month ++ '-' :: Decimal.padded 2 day).take k)) =
        ⟨year - 1900, month' - 1, day', 0, 0, 0⟩ := by
  have hfits : scannedInt year = year := scannedInt_eq_self_iff.mpr ⟨by omega, by omega⟩
  have hscan : ∀ rest, sscanf readDateTimeFormat (printBlank 4 year ++ '-' :: rest) =
      year :: sscanf (.int none :: .char '-' :: .int none :: .space :: readTimeFormat) rest := by
    intro rest
    rw [readDateTimeFormat, sscanf, scanNumber_printBlank 4 year (by simp)]
    dsimp only
    rw [hfits, sscanf_char]
    rfl
  rw [hscan]
  obtain rfl | rfl | rfl | rfl | rfl : k = 0 ∨ k = 1 ∨ k = 2 ∨ k = 3 ∨ k = 4 := by omega
  · exact ⟨0, 0, Nat.zero_le _, hday, rfl⟩
  · refine ⟨month / 10, 0, Nat.div_le_self _ _, hday, ?_⟩
    have htake : (Decimal.padded 2 month ++ '-' :: Decimal.padded 2 day).take 1 =
        Decimal.padded 1 (month / 10) ++ [] := by simp [Decimal.padded]
    rw [htake, sscanf_padded_of_head (by decide) (by omega) (by omega) _ (by simp)]
    rfl
  · refine ⟨month, 0, le_rfl, hday, ?_⟩
    have htake : (Decimal.padded 2 month ++ '-' :: Decimal.padded 2 day).take 2 =
        Decimal.padded 2 month ++ [] := by simp [Decimal.padded]
    rw [htake, sscanf_padded_of_head (by decide) (by omega) (by omega) _ (by simp)]
    rfl
  · refine ⟨month, 0, le_rfl, hday, ?_⟩
    have htake : (Decimal.padded 2 month ++ '-' :: Decimal.padded 2 day).take 3 =
        Decimal.padded 2 month ++ ['-'] := by simp [Decimal.padded]
    rw [htake, sscanf_padded_of_head (by decide) (by omega) (by omega) _ (by simp)]
    rfl
  · refine ⟨month, day / 10, le_rfl, by omega, ?_⟩
    have htake : (Decimal.padded 2 month ++ '-' :: Decimal.padded 2 day).take 4 =
        Decimal.padded 2 month ++ '-' :: (Decimal.padded 1 (day / 10) ++ []) := by
      simp [Decimal.padded]
    rw [htake, sscanf_padded_of_head (by decide) (by omega) (by omega) _ (by simp), sscanf_char,
      sscanf_padded_of_head (by decide) (by omega) (by omega) _ (by simp)]
    rfl

/-- The fields that are scanned where the text of a date is cut off in its year. -/
lemma exists_tmOfScanned_in_year {year : ℤ} (hyear : -10 ^ 9 < year ∧ year < 10 ^ 9) (k : ℕ) :
    ∃ n : ℤ, tmOfScanned (sscanf readDateTimeFormat ((printBlank 4 year).take k)) =
        ⟨n - 1900, -1, 0, 0, 0, 0⟩ ∧ (n = year ∨ 10 * n.natAbs ≤ year.natAbs) := by
  obtain ⟨j, i, htake⟩ : ∃ j i, (printBlank 4 year).take k =
      List.replicate i ' ' ++ (printInt year).take j := by
    refine ⟨k - (4 - (printInt year).length), min k (4 - (printInt year).length), ?_⟩
    rw [printBlank, List.take_append, List.length_replicate, List.take_replicate]
  rcases scanNumber_take_printInt year j with hnone | ⟨n, hsome, hn⟩
  · refine ⟨0, ?_, .inr (by simp)⟩
    rw [htake, readDateTimeFormat, sscanf, scanNumber_blanks, hnone]
    rfl
  · refine ⟨n, ?_, hn⟩
    have hfits : scannedInt n = n := scannedInt_eq_self_iff.mpr ⟨by omega, by omega⟩
    rw [htake, readDateTimeFormat, sscanf, scanNumber_blanks, hsome]
    dsimp only
    rw [hfits]
    rfl

/-- The day that is scanned where the text of a date is cut off in its year is another one, unless
nothing is scanned of the year -1. -/
lemma timegm_in_year_iff {n year : ℤ} {month day : ℕ} (hdate : ValidDate year month day)
    (hn : n = year ∨ 10 * n.natAbs ≤ year.natAbs) :
    timegm ⟨n - 1900, -1, 0, 0, 0, 0⟩ = timegm ⟨year - 1900, month - 1, day, 0, 0, 0⟩ ↔
      n = 0 ∧ (year, (month : ℤ), (day : ℤ)) = (-1, 11, 30) := by
  have hmidnight : ValidTime 0 0 0 := ⟨by decide, by decide, by decide, by decide, by decide, by decide⟩
  have hnovember : ValidDate (n - 1) 11 30 := ⟨by decide, by decide, by decide, le_rfl⟩
  rw [timegm_november]
  constructor
  · intro h
    have hsame := (civilFromDays_timegm hnovember hmidnight).symm.trans
      ((congrArg (fun seconds => civilFromDays (seconds / 86400)) h).trans
        (civilFromDays_timegm hdate hmidnight))
    simp only [Prod.mk.injEq] at hsame ⊢
    omega
  · rintro ⟨rfl, h⟩
    simp only [Prod.mk.injEq] at h
    obtain ⟨rfl, hmonth, hday⟩ := h
    rw [hmonth, hday]
    rfl

/-- When a date comes back from characters. -/
lemma Date.comesBack_characters_iff {value : Date} (hvalue : (TemporalValue.date value).InRange)
    (outChar : OutChar) (htype : b.type = outChar.driverType) (hbuffer : b.buffer = true)
    (hreslen : b.reslen = true) (hbuflen : (value.text.length + 1) * outChar.size P ≤ b.buflen) :
    (TemporalValue.date value).ComesBack P b ↔
      (TemporalValue.date value).ComesBackWhen P outChar.driverType := by
  obtain ⟨year, month, day, hdate, hyear, hyear', hcivil, -, hmilliseconds, htext⟩ :=
    exists_civil_date hvalue
  have hmonth := hdate.month_le
  have hday := hdate.day_pos
  have hday' := hdate.day_le.trans (daysInMonth_le year month)
  have hfour : 4 ≤ (printBlank 4 year).length := by
    rw [printBlank, List.length_append, List.length_replicate]
    omega
  have hlength : value.text.length = (printBlank 4 year).length + 6 := by simp [htext]
  have hvalLen : (TemporalValue.date value).valLen = 11 := rfl
  have hprinted : (TemporalValue.date value).printed = value.text := rfl
  have hiff : ∀ tm, tmOfScanned (sscanf readDateTimeFormat (value.text.take (10 / outChar.size P))) =
      tm → ((TemporalValue.date value).ComesBack P b ↔
        timegm tm = timegm ⟨year - 1900, month - 1, day, 0, 0, 0⟩) := by
    rintro tm rfl
    let scanned : Date := ⟨timegm (tmOfScanned (sscanf readDateTimeFormat
      (value.text.take (10 / outChar.size P)))) * 1000⟩
    have hget : ∀ held, b.getInputSize held ≠ 0 →
        b.scannedText P held = some (value.text.take (10 / outChar.size P)) →
        (TemporalValue.date value).get P held b = some (.date scanned) := by
      intro held hsize hheld
      rw [TemporalValue.get, ApplicationDataBuffer.getDate_characters htype hsize hheld,
        Option.map_some]
    have hback : (TemporalValue.date value).ComesBack P b ↔
        TemporalValue.date scanned = .date value :=
      TemporalValue.comesBack_characters_iff outChar htype hbuffer hreslen
        (by rw [hvalLen, hprinted]; omega) (by rw [hvalLen]; decide) (by rw [hvalLen]; decide)
        hbuflen hget
    rw [hback, TemporalValue.date.injEq]
    constructor
    · intro h
      have hsame := (congrArg Date.milliseconds h).trans hmilliseconds
      exact Int.eq_of_mul_eq_mul_right (by decide) hsame
    · intro hsame
      exact congrArg Date.mk ((congrArg (· * 1000) hsame).trans hmilliseconds.symm)
  -- a part of the month or of the day is missing
  have hbehind : ∀ k, 10 / outChar.size P = (printBlank 4 year).length + 1 + k → k < 5 →
      ¬ (TemporalValue.date value).ComesBack P b := by
    intro k hk hlt
    obtain ⟨month', day', hle, hearlier, hscan⟩ :=
      @exists_tmOfScanned_behind_year year month day ⟨hyear, hyear'⟩ (by omega) (by omega) (by omega) k
        hlt
    have htake : value.text.take (10 / outChar.size P) = printBlank 4 year ++ '-' ::
        (Decimal.padded 2 month ++ '-' :: Decimal.padded 2 day).take k := by
      rw [htext, hk, Nat.add_assoc, List.take_append, List.take_of_length_le (Nat.le_add_right _ _),
        Nat.add_sub_cancel_left, Nat.add_comm 1 k, List.take_succ_cons]
    rw [hiff _ (by rw [htake, hscan])]
    exact (timegm_lt_timegm hdate (Int.natCast_nonneg _) (by omega) (by omega) le_rfl le_rfl
      le_rfl).ne
  -- the text is cut off in the year
  have hin : ∀ k, 10 / outChar.size P = k → k ≤ (printBlank 4 year).length →
      ∃ n : ℤ, tmOfScanned (sscanf readDateTimeFormat ((printBlank 4 year).take k)) =
        ⟨n - 1900, -1, 0, 0, 0, 0⟩ ∧ ((TemporalValue.date value).ComesBack P b ↔
          n = 0 ∧ (year, (month : ℤ), (day : ℤ)) = (-1, 11, 30)) := by
    rintro k rfl hle
    obtain ⟨n, hscan, hn⟩ := exists_tmOfScanned_in_year ⟨hyear, hyear'⟩ (10 / outChar.size P)
    refine ⟨n, hscan, ?_⟩
    rw [hiff ⟨n - 1900, -1, 0, 0, 0, 0⟩ (by rw [htext, List.take_append_of_le_length hle, hscan]),
      timegm_in_year_iff hdate hn]
  have hminus : (printBlank 4 (-1)).length = 4 := by decide
  have hwidth : (printBlank 4 year).length = 4 ↔ -999 ≤ year ∧ year ≤ 9999 := by
    rw [← length_printInt_le_four_iff, printBlank, List.length_append, List.length_replicate]
    omega
  rcases outChar with _ | _
  · show _ ↔ -999 ≤ (civilFromDays (value.milliseconds / 86400000)).1 ∧
      (civilFromDays (value.milliseconds / 86400000)).1 ≤ 9999
    rw [hcivil, ← hwidth]
    have hten : 10 / OutChar.char.size P = 10 := by rw [OutChar.size_char]
    rcases Nat.lt_or_ge (printBlank 4 year).length 10 with hlt | hge
    · rcases hfour.eq_or_lt with hwhole | hlong
      · -- the text has ten characters, and all of it is read
        have htake : value.text.take 10 = value.text := List.take_of_length_le (by omega)
        have hscan := @tmOfScanned_date year month day ⟨hyear, hyear'⟩ (by omega) (by omega)
        rw [hiff _ (by rw [hten, htake, htext, hscan])]
        simp [hwhole.symm]
      · have hnot := hbehind (9 - (printBlank 4 year).length) (by rw [hten]; omega) (by omega)
        exact iff_of_false hnot (by omega)
    · obtain ⟨n, -, hback⟩ := hin 10 hten hge
      rw [hback]
      refine iff_of_false ?_ (by omega)
      rintro ⟨-, hnovember⟩
      rw [(Prod.mk.inj hnovember).1, hminus] at hge
      omega
  · show _ ↔ P.sqlWcharSize = 4 ∧ civilFromDays (value.milliseconds / 86400000) = (-1, 11, 30)
    rw [hcivil]
    rcases P.sqlWcharSize_eq with hsize | hsize
    · have hfive : 10 / OutChar.sqlWchar.size P = 5 := by rw [OutChar.size_sqlWchar, hsize]
      refine iff_of_false ?_ (by omega)
      rcases hfour.eq_or_lt with hwhole | hlong
      · exact hbehind 0 (by omega) (by decide)
      · obtain ⟨n, -, hback⟩ := hin 5 hfive hlong
        rw [hback]
        rintro ⟨-, hnovember⟩
        rw [(Prod.mk.inj hnovember).1, hminus] at hlong
        omega
    · have htwo : 10 / OutChar.sqlWchar.size P = 2 := by rw [OutChar.size_sqlWchar, hsize]
      obtain ⟨n, hscan, hback⟩ := hin 2 htwo (by omega)
      rw [hback]
      refine ⟨fun h => ⟨hsize, h.2⟩, fun h => ⟨?_, h.2⟩⟩
      rw [(Prod.mk.inj h.2).1] at hscan
      have hnothing : tmOfScanned (sscanf readDateTimeFormat ((printBlank 4 (-1)).take 2)) =
          ⟨0 - 1900, -1, 0, 0, 0, 0⟩ := by decide
      have hsame := congrArg Tm.tmYear (hscan.symm.trans hnothing)
      dsimp only at hsame
      omega


end Date

/-! ## Structures -/

section Struct

variable {P : Platform} {b : ApplicationDataBuffer}

/-- A timestamp comes back from its structure. -/
lemma Timestamp.comesBack_struct {value : Timestamp} (hvalue : (TemporalValue.timestamp value).InRange)
    (htype : b.type = .aiTtimestamp) (hbuffer : b.buffer = true) :
    (TemporalValue.timestamp value).ComesBack P b := by
  obtain ⟨d, t, -, htm, hseconds, hfraction⟩ := exists_literals_timestamp hvalue
  have hnanosecond := t.nanosecond_lt
  let Q : Held → Prop := fun held =>
    held.data = .timestamp d.year d.month d.day t.hour t.minute t.second t.nanosecond
  have hput : ∀ previous : Held, ∃ put,
      (TemporalValue.timestamp value).put P b = some put ∧ Q (put.held previous) := by
    intro previous
    refine ⟨⟨.aiSuccess,
      some (.timestamp d.year d.month d.day t.hour t.minute t.second t.nanosecond),
      b.resLen sizeOfTimestampStruct, b.cellOffset⟩, ?_, rfl⟩
    simp only [TemporalValue.put, ApplicationDataBuffer.putTimestamp, htype,
      ApplicationDataBuffer.putStruct, hbuffer, if_true, htm, hfraction]
    rw [d.timestampStruct_eq t.hour_lt t.minute_lt t.second_lt t.nanosecond_lt]
  have hget : ∀ held, Q held →
      (TemporalValue.timestamp value).get P held b = some (.timestamp value) := by
    intro held hheld
    have hdata : held.data =
        .timestamp d.year d.month d.day t.hour t.minute t.second t.nanosecond := hheld
    have hfits : (t.nanosecond : ℤ).bmod (2 ^ 32) = t.nanosecond := by
      rw [Int.bmod_def]
      split <;> omega
    simp only [TemporalValue.get, ApplicationDataBuffer.getTimestamp,
      ApplicationDataBuffer.readDateTime, htype, hbuffer, hdata, Option.map_some]
    rw [hfits, ← hseconds, ← hfraction]
  exact (TemporalValue.comesBack_iff_of hput hget).mpr rfl

/-- A time comes back from the structure of a timestamp without a fraction. -/
lemma Time.comesBack_struct_iff {value : Time} (hvalue : (TemporalValue.time value).InRange)
    (htype : b.type = .aiTtimestamp) (hbuffer : b.buffer = true) :
    (TemporalValue.time value).ComesBack P b ↔ value.fractionNs = 0 := by
  obtain ⟨t, -, htm, hseconds, hfraction⟩ := exists_literal_time hvalue
  have hhour := t.hour_lt
  have hminute := t.minute_lt
  have hsecond := t.second_lt
  let Q : Held → Prop := fun held =>
    held.data = .timestamp 1970 1 1 t.hour t.minute t.second t.nanosecond
  have hput : ∀ previous : Held, ∃ put,
      (TemporalValue.time value).put P b = some put ∧ Q (put.held previous) := by
    intro previous
    refine ⟨⟨.aiSuccess, some (.timestamp 1970 1 1 t.hour t.minute t.second t.nanosecond),
      b.resLen sizeOfTimestampStruct, b.cellOffset⟩, ?_, rfl⟩
    have hstruct : Tm.timestampStruct ⟨70, 0, 1, t.hour, t.minute, t.second⟩ t.nanosecond =
        .timestamp 1970 1 1 t.hour t.minute t.second t.nanosecond := by
      have hnanosecond := t.nanosecond_lt
      unfold Tm.timestampStruct
      dsimp only
      rw [toUsmallint_natCast (show t.hour < 2 ^ 16 by omega),
        toUsmallint_natCast (show t.minute < 2 ^ 16 by omega),
        toUsmallint_natCast (show t.second < 2 ^ 16 by omega), toUinteger_natCast (by omega)]
      rfl
    simp only [TemporalValue.put, ApplicationDataBuffer.putTime, htype,
      ApplicationDataBuffer.putStruct, hbuffer, if_true, htm, hfraction, hstruct]
  have hget : ∀ held, Q held →
      (TemporalValue.time value).get P held b = some (.time ⟨value.seconds, 0⟩) := by
    intro held hheld
    have hdata : held.data = .timestamp 1970 1 1 t.hour t.minute t.second t.nanosecond := hheld
    have hfits : (timegm ⟨70, 0, 1, t.hour, t.minute, t.second⟩).bmod (2 ^ 32) = value.seconds := by
      have hepoch : daysFromCivil 1970 1 1 = 0 := by decide
      have hdays : timegm ⟨70, 0, 1, t.hour, t.minute, t.second⟩ =
          ((daysFromCivil 1970 1 1 * 24 + t.hour) * 60 + t.minute) * 60 + t.second := rfl
      rw [hdays, hepoch, hseconds, Int.bmod_def]
      split <;> omega
    simp only [TemporalValue.get, ApplicationDataBuffer.getTime, ApplicationDataBuffer.readTime, htype,
      hbuffer, hdata, Option.map_some, hfits]
  rw [TemporalValue.comesBack_iff_of hput hget, TemporalValue.time.injEq]
  constructor
  · intro h
    exact (congrArg Time.fractionNs h).symm
  · intro hnone
    exact congrArg (Time.mk value.seconds) hnone.symm

/-- A date comes back from a structure that has room for its year. -/
lemma Date.comesBack_struct_iff {value : Date} (hvalue : (TemporalValue.date value).InRange)
    (htype : b.type = .aiTdate ∨ b.type = .aiTtimestamp) (hbuffer : b.buffer = true) :
    (TemporalValue.date value).ComesBack P b ↔
      -2 ^ 15 ≤ (civilFromDays (value.milliseconds / 86400000)).1 ∧
        (civilFromDays (value.milliseconds / 86400000)).1 < 2 ^ 15 := by
  obtain ⟨year, month, day, hdate, -, -, hcivil, htm, hmilliseconds, -⟩ := exists_civil_date hvalue
  have hmonth := hdate.month_le
  have hday := hdate.day_le.trans (daysInMonth_le year month)
  have hdateStruct : (dateToCTm value).dateStruct = .date (toSmallint year) month day := by
    rw [htm]
    unfold Tm.dateStruct
    dsimp only
    rw [Int.sub_add_cancel, Int.sub_add_cancel, toUsmallint_natCast (by omega),
      toUsmallint_natCast (by omega)]
  have htimestampStruct : (dateToCTm value).timestampStruct 0 =
      .timestamp (toSmallint year) month day 0 0 0 0 := by
    rw [htm]
    unfold Tm.timestampStruct
    dsimp only
    rw [Int.sub_add_cancel, Int.sub_add_cancel, toUsmallint_natCast (by omega),
      toUsmallint_natCast (by omega)]
    rfl
  let Q : Held → Prop := fun held => b.readDateTime P held =
    some ⟨toSmallint year - 1900, month - 1, day, 0, 0, 0⟩
  have hput : ∀ previous : Held, ∃ put,
      (TemporalValue.date value).put P b = some put ∧ Q (put.held previous) := by
    intro previous
    rcases htype with htype | htype
    · refine ⟨⟨.aiSuccess, some (.date (toSmallint year) month day), b.resLen sizeOfDateStruct,
        b.cellOffset⟩, ?_, ?_⟩
      · simp only [TemporalValue.put, ApplicationDataBuffer.putDate, htype,
          ApplicationDataBuffer.putStruct, hbuffer, if_true, hdateStruct]
      · simp only [Q, ApplicationDataBuffer.readDateTime, htype, hbuffer, Put.held, Option.getD_some]
    · refine ⟨⟨.aiSuccess, some (.timestamp (toSmallint year) month day 0 0 0 0),
        b.resLen sizeOfTimestampStruct, b.cellOffset⟩, ?_, ?_⟩
      · simp only [TemporalValue.put, ApplicationDataBuffer.putDate, htype,
          ApplicationDataBuffer.putStruct, hbuffer, if_true, htimestampStruct]
      · simp only [Q, ApplicationDataBuffer.readDateTime, htype, hbuffer, Put.held, Option.getD_some]
  have hget : ∀ held, Q held → (TemporalValue.date value).get P held b =
      some (.date ⟨timegm ⟨toSmallint year - 1900, month - 1, day, 0, 0, 0⟩ * 1000⟩) := by
    intro held hheld
    have hread : b.readDateTime P held =
        some ⟨toSmallint year - 1900, month - 1, day, 0, 0, 0⟩ := hheld
    rw [TemporalValue.get, ApplicationDataBuffer.getDate, hread, Option.map_some, Option.map_some]
  have hinjective : timegm ⟨toSmallint year - 1900, month - 1, day, 0, 0, 0⟩ =
      timegm ⟨year - 1900, month - 1, day, 0, 0, 0⟩ ↔ toSmallint year = year := by
    constructor
    · intro h
      rw [timegm_midnight hdate.month_pos hmonth, timegm_midnight hdate.month_pos hmonth] at h
      exact (daysFromCivil_strictMono month day).injective (Int.eq_of_mul_eq_mul_right (by decide) h)
    · intro h
      rw [h]
  have hfits : toSmallint year = year ↔ -2 ^ 15 ≤ year ∧ year < 2 ^ 15 := by
    rw [toSmallint, Int.bmod_def]
    split <;> omega
  rw [TemporalValue.comesBack_iff_of hput hget, TemporalValue.date.injEq, hcivil, ← hfits,
    ← hinjective]
  constructor
  · intro h
    have hsame := (congrArg Date.milliseconds h).trans hmilliseconds
    exact Int.eq_of_mul_eq_mul_right (by decide) hsame
  · intro hsame
    exact congrArg Date.mk ((congrArg (· * 1000) hsame).trans hmilliseconds.symm)

end Struct

/-! ## The round trip -/

/-- A temporal value in a buffer that holds it fully is read back exactly when the condition holds
for it. -/
theorem temporal_comesBack_iff (P : Platform) {value : TemporalValue} (hvalue : value.InRange)
    {b : ApplicationDataBuffer} (hheld : value.HeldBy P b) :
    value.ComesBack P b ↔ value.ComesBackWhen P b.type := by
  obtain ⟨hbuffer, hheld⟩ := hheld
  by_cases hcharacters : ∃ outChar : OutChar, b.type = outChar.driverType
  · obtain ⟨outChar, htype⟩ := hcharacters
    have hroom : b.reslen = true ∧ (value.printed.length + 1) * outChar.size P ≤ b.buflen := by
      rw [htype] at hheld
      cases outChar
      · simpa [OutChar.driverType] using hheld
      · simpa [OutChar.driverType] using hheld
    rw [htype]
    cases value with
    | timestamp value =>
      rw [Timestamp.comesBack_characters_iff hvalue outChar htype hbuffer hroom.1 hroom.2]
      cases outChar <;> simp [TemporalValue.ComesBackWhen, OutChar.driverType]
    | date value => exact Date.comesBack_characters_iff hvalue outChar htype hbuffer hroom.1 hroom.2
    | time value =>
      rw [Time.comesBack_characters_iff hvalue outChar htype hbuffer hroom.1 hroom.2]
      cases outChar <;> simp [TemporalValue.ComesBackWhen, OutChar.driverType]
    | intervalYearMonth value => exact hvalue.elim
    | intervalDaySecond value => exact hvalue.elim
  · have hchar : b.type ≠ .aiChar := fun h => hcharacters ⟨.char, h⟩
    have hwchar : b.type ≠ .aiWchar := fun h => hcharacters ⟨.sqlWchar, h⟩
    cases value with
    | timestamp value =>
      have htype : b.type = .aiTtimestamp := by
        generalize b.type = type at hheld hchar hwchar
        cases type <;> simp_all
      rw [htype]
      exact iff_of_true (Timestamp.comesBack_struct hvalue htype hbuffer) trivial
    | date value =>
      have htype : b.type = .aiTdate ∨ b.type = .aiTtimestamp := by
        generalize b.type = type at hheld hchar hwchar
        cases type <;> simp_all
      rw [Date.comesBack_struct_iff hvalue htype hbuffer]
      rcases htype with htype | htype <;> rw [htype] <;> exact Iff.rfl
    | time value =>
      have htype : b.type = .aiTtimestamp := by
        generalize b.type = type at hheld hchar hwchar
        cases type <;> simp_all
      rw [htype]
      exact Time.comesBack_struct_iff hvalue htype hbuffer
    | intervalYearMonth value => exact hvalue.elim
    | intervalDaySecond value => exact hvalue.elim

/-- A leap day at midnight comes back from characters, and half a second later it does not. -/
theorem temporal_comesBack_leapDay :
    (TemporalValue.timestamp ⟨1709164800, 0⟩).ComesBack samplePlatform (.new .aiChar true 30 true) ∧
      ¬ (TemporalValue.timestamp ⟨1709164800, 500000000⟩).ComesBack samplePlatform
        (.new .aiChar true 30 true) := by
  have hwhole : (TemporalValue.timestamp ⟨1709164800, 0⟩).InRange :=
    ⟨by decide, by decide, by decide, by decide⟩
  have hhalf : (TemporalValue.timestamp ⟨1709164800, 500000000⟩).InRange :=
    ⟨by decide, by decide, by decide, by decide⟩
  refine ⟨(temporal_comesBack_iff samplePlatform hwhole (heldBy_char hwhole)).mpr rfl, ?_⟩
  intro h
  have hnone : (500000000 : ℤ) = 0 :=
    (temporal_comesBack_iff samplePlatform hhalf (heldBy_char hhalf)).mp h
  exact absurd hnone (by decide)

/-- Half a second is lost in characters. -/
theorem not_temporal_comesBack :
    ¬ (∀ (P : Platform) (value : TemporalValue), value.InRange → ∀ b : ApplicationDataBuffer,
      value.HeldBy P b → value.ComesBack P b) := by
  intro h
  have hhalf : (TemporalValue.timestamp ⟨1709164800, 500000000⟩).InRange :=
    ⟨by decide, by decide, by decide, by decide⟩
  have hheld := heldBy_char (P := samplePlatform) hhalf
  have hback := h samplePlatform _ hhalf _ hheld
  rw [Timestamp.comesBack_characters_iff hhalf .char rfl rfl rfl hheld.2.2] at hback
  exact absurd hback.1 (by decide)

end TimestreamOdbc
