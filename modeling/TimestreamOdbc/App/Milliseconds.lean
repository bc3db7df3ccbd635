import TimestreamOdbc.App.Truncation
import TimestreamOdbc.App.TemporalRoundTrip

/-!
# Temporal values made of milliseconds

`Timestamp` and `Time` can be made of a number of milliseconds since the epoch, which is how an
integer is put into a temporal buffer.  The divisions cut off towards zero, so that an instant before
1970 between two seconds gets a negative fraction; and the factors of `Time` are not those of
milliseconds.
-/

namespace TimestreamOdbc

/-! ## Milliseconds and comparisons -/

/-- `Timestamp::GetMilliseconds`, in 64 bits. -/
def Timestamp.getMilliseconds (value : Timestamp) : ℤ :=
  (value.seconds * 1000 + value.fractionNs.tdiv 1000000).bmod (2 ^ 64)

/-- `Time::GetMilliseconds`: the members, and with them the sum, have 32 bits. -/
def Time.getMilliseconds (value : Time) : ℤ :=
  (value.seconds * 1000 + value.fractionNs.tdiv 1000).bmod (2 ^ 32)

/-- The operators of `Timestamp` and `Time` on the seconds and the fractions of two values. -/
inductive Comparison where
  | eq
  | ne
  | lt
  | le
  | gt
  | ge
  deriving DecidableEq, Repr

namespace Comparison

/-- The operators on two integers. -/
def holds (x y : ℤ) : Comparison → Prop
  | eq => x = y
  | ne => x ≠ y
  | lt => x < y
  | le => x ≤ y
  | gt => x > y
  | ge => x ≥ y

/-- The operators as the source has them: the seconds decide, and the fractions where the seconds
are the same. -/
def ofMembers (seconds₁ fraction₁ seconds₂ fraction₂ : ℤ) : Comparison → Prop
  | eq => seconds₁ = seconds₂ ∧ fraction₁ = fraction₂
  | ne => seconds₁ ≠ seconds₂ ∨ fraction₁ ≠ fraction₂
  | lt => seconds₁ < seconds₂ ∨ seconds₁ = seconds₂ ∧ fraction₁ < fraction₂
  | le => seconds₁ < seconds₂ ∨ seconds₁ = seconds₂ ∧ fraction₁ ≤ fraction₂
  | gt => seconds₁ > seconds₂ ∨ seconds₁ = seconds₂ ∧ fraction₁ > fraction₂
  | ge => seconds₁ > seconds₂ ∨ seconds₁ = seconds₂ ∧ fraction₁ ≥ fraction₂

end Comparison

/-- The comparison operators of `Timestamp`. -/
def Timestamp.compare (val1 val2 : Timestamp) : Comparison → Prop :=
  Comparison.ofMembers val1.seconds val1.fractionNs val2.seconds val2.fractionNs

/-- The comparison operators of `Time`. -/
def Time.compare (val1 val2 : Time) : Comparison → Prop :=
  Comparison.ofMembers val1.seconds val1.fractionNs val2.seconds val2.fractionNs

/-! ## Instants -/

/-- The calendar fields of an instant. -/
def instantTm (ms : ℤ) : Tm :=
  let (year, month, day) := civilFromDays (ms / 86400000)
  let second := ms / 1000 % 86400
  ⟨year - 1900, month - 1, day, second / 3600, second / 60 % 60, second % 60⟩

/-- The nanoseconds of an instant behind its second. -/
def instantFraction (ms : ℤ) : ℤ := ms % 1000 * 1000000

/-- The text of an instant: date, time and nine digits. -/
def instantText (ms : ℤ) : Text :=
  getTimestampString (strftimeDate (instantTm ms) ++ strftimeTime (instantTm ms))
    (instantFraction ms)

/-- The text of the time of day of an instant, with nine digits. -/
def instantTimeText (ms : ℤ) : Text :=
  getTimestampString (strftimeTime (instantTm ms)) (instantFraction ms)

/-- A conversion to characters stores a text and its terminator in every buffer that is large
enough. -/
def PutsText (P : Platform) (convert : ApplicationDataBuffer → Option Put) (text : Text) : Prop :=
  ∀ (outChar : OutChar) (b : ApplicationDataBuffer), b.type = outChar.driverType → b.buffer = true →
    (text.length + 1) * outChar.size P ≤ b.buflen → ∃ put rest, convert b = some put ∧
      put.stored = some (.units (outChar.size P) (text.map Char.toNat ++ 0 :: rest))

/-- The timestamp made of a number of milliseconds is that instant, by its getters and in the
buffers of a timestamp and of a text. -/
structure Timestamp.KeepsInstant (P : Platform) (ms : ℤ) : Prop where
  milliseconds : (Timestamp.ofMilliseconds ms).getMilliseconds = ms
  fraction : 0 ≤ (Timestamp.ofMilliseconds ms).fractionNs ∧
    (Timestamp.ofMilliseconds ms).fractionNs < 10 ^ 9
  timestampStruct : ∀ b : ApplicationDataBuffer, b.type = .aiTtimestamp → b.buffer = true →
    ∃ put, b.putNum P 8 ms = some put ∧ put.stored = some (.timestamp ((instantTm ms).tmYear + 1900)
      ((instantTm ms).tmMon + 1) (instantTm ms).tmMday (instantTm ms).tmHour (instantTm ms).tmMin
      (instantTm ms).tmSec (instantFraction ms))
  characters : PutsText P (TemporalValue.put P (.timestamp (.ofMilliseconds ms))) (instantText ms)

/-- The time made of a number of milliseconds is that time of day, by its getters and in the buffers
of a time and of a text. -/
structure Time.KeepsInstant (P : Platform) (ms : ℤ) : Prop where
  milliseconds : (Time.ofMilliseconds ms).getMilliseconds = ms
  fraction : 0 ≤ (Time.ofMilliseconds ms).fractionNs ∧ (Time.ofMilliseconds ms).fractionNs < 10 ^ 9
  timeStruct : ∀ b : ApplicationDataBuffer, b.type = .aiTtime → b.buffer = true →
    ∃ put, b.putNum P 8 ms = some put ∧ put.stored = some (.time (instantTm ms).tmHour
      (instantTm ms).tmMin (instantTm ms).tmSec)
  characters : PutsText P (TemporalValue.put P (.time (.ofMilliseconds ms))) (instantTimeText ms)

/-! ## Cutting off -/

/-- The quotient and the remainder of milliseconds have the sign of the instant. -/
lemma exists_tdiv_tmod (ms : ℤ) :
    ∃ q r : ℤ, ms.tdiv 1000 = q ∧ ms.tmod 1000 = r ∧ ms = 1000 * q + r ∧ -1000 < r ∧ r < 1000 ∧
      (0 ≤ ms → 0 ≤ q ∧ 0 ≤ r) ∧ (ms ≤ 0 → q ≤ 0 ∧ r ≤ 0) := by
  have hsum := Int.mul_tdiv_add_tmod ms 1000
  have hlt := Int.tmod_lt_of_pos ms (b := 1000) (by decide)
  have hgt := Int.lt_tmod_of_pos ms (b := 1000) (by decide)
  refine ⟨_, _, rfl, rfl, hsum.symm, hgt, hlt, ?_, ?_⟩
  · intro hms
    exact ⟨Int.tdiv_nonneg hms (by decide), Int.tmod_nonneg 1000 hms⟩
  · intro hms
    have hr : ms.tmod 1000 ≤ 0 := by
      have := Int.tmod_nonneg 1000 (a := -ms) (by omega)
      rw [Int.neg_tmod] at this
      omega
    exact ⟨by omega, hr⟩

/-- Values that were cut off at whole seconds are ordered as they were. -/
lemma ofMembers_iff {factor : ℤ} (hfactor : 0 < factor) (ms₁ ms₂ : ℤ) (c : Comparison) :
    Comparison.ofMembers (ms₁.tdiv 1000) (ms₁.tmod 1000 * factor) (ms₂.tdiv 1000)
      (ms₂.tmod 1000 * factor) c ↔ c.holds ms₁ ms₂ := by
  obtain ⟨q₁, r₁, hq₁, hr₁, h₁, hlow₁, hhigh₁, hpos₁, hneg₁⟩ := exists_tdiv_tmod ms₁
  obtain ⟨q₂, r₂, hq₂, hr₂, h₂, hlow₂, hhigh₂, hpos₂, hneg₂⟩ := exists_tdiv_tmod ms₂
  rw [hq₁, hr₁, hq₂, hr₂]
  have hlt : r₁ * factor < r₂ * factor ↔ r₁ < r₂ := Int.mul_lt_mul_right hfactor
  have hgt : r₂ * factor < r₁ * factor ↔ r₂ < r₁ := Int.mul_lt_mul_right hfactor
  have hle : r₁ * factor ≤ r₂ * factor ↔ r₁ ≤ r₂ := Int.mul_le_mul_right hfactor
  have hge : r₂ * factor ≤ r₁ * factor ↔ r₂ ≤ r₁ := Int.mul_le_mul_right hfactor
  have heq : r₁ * factor = r₂ * factor ↔ r₁ = r₂ := by omega
  cases c <;> simp only [Comparison.ofMembers, Comparison.holds, ne_eq, gt_iff_lt, ge_iff_le, hlt,
    hgt, hle, hge, heq] <;> omega

/-- Cutting off is rounding down for what is not before the epoch or is a whole second. -/
lemma tdiv_tmod_of_floor {ms : ℤ} (h : 0 ≤ ms ∨ 1000 ∣ ms) :
    ms.tdiv 1000 = ms / 1000 ∧ ms.tmod 1000 = ms % 1000 := by
  rcases h with hms | ⟨k, rfl⟩
  · exact ⟨Int.tdiv_eq_ediv_of_nonneg hms, Int.tmod_eq_emod_of_nonneg hms⟩
  · rw [Int.mul_tdiv_cancel_left _ (by decide), Int.mul_ediv_cancel_left _ (by decide),
      Int.mul_tmod_right, Int.mul_emod_right]
    exact ⟨rfl, rfl⟩

/-! ## The fields of an instant -/

/-- An instant of 64 bits has the fields of a date and of a time of the day, and its year fits an
`int`. -/
lemma exists_instantTm {ms : ℤ} (hms : -2 ^ 63 ≤ ms ∧ ms < 2 ^ 63) :
    ∃ year month day hour minute second, ValidDate year month day ∧
      ValidTime hour minute second ∧
      instantTm ms = ⟨year - 1900, month - 1, day, hour, minute, second⟩ ∧
      igniteGmTime (ms / 1000) = some ⟨year - 1900, month - 1, day, hour, minute, second⟩ := by
  obtain ⟨year, month, day, hdate, hdays⟩ := exists_daysFromCivil (ms / 86400000)
  have hcivil : civilFromDays (ms / 86400000) = (year, month, day) := by
    rw [← hdays, civilFromDays_daysFromCivil hdate]
  have hyear : -2 ^ 31 ≤ year - 1900 ∧ year - 1900 < 2 ^ 31 := by
    have hmonth := hdate.month_pos
    have hmonth' := hdate.month_le
    have hday := hdate.day_pos
    have hday' := hdate.day_le.trans (daysInMonth_le year month)
    unfold daysFromCivil at hdays
    dsimp only at hdays
    split at hdays <;> omega
  refine ⟨year, month, day, ms / 1000 % 86400 / 3600, ms / 1000 % 86400 / 60 % 60,
    ms / 1000 % 86400 % 60, hdate, ⟨by omega, by omega, by omega, by omega, by omega, by omega⟩,
    ?_, ?_⟩
  · rw [instantTm, hcivil]
  · have hday : ms / 1000 / 86400 = ms / 86400000 := by omega
    rw [igniteGmTime, hday, hcivil]
    dsimp only
    rw [if_pos hyear]

/-! ## The text of an instant -/

/-- A number that fits its width is printed in that width. -/
lemma length_printZero {width : ℕ} {n : ℤ} (hpos : 0 < width) (hn : 0 ≤ n) (h : n < 10 ^ width) :
    (printZero width n).length = width := by
  lift n to ℕ using hn
  rw [printZero_natCast hpos (by exact_mod_cast h), Decimal.length_padded]

/-- The numbers that are printed in four characters or less. -/
lemma length_printInt_le_four_iff (n : ℤ) :
    (printInt n).length ≤ 4 ↔ -999 ≤ n ∧ n ≤ 9999 := by
  unfold printInt
  split
  · rw [List.length_cons, Nat.succ_le_succ_iff, Nat.length_toDigits_le_iff (by decide) (by decide)]
    omega
  · rw [Nat.length_toDigits_le_iff (by decide) (by decide)]
    omega

/-- The text of a time of day has 18 characters. -/
lemma length_timeText {year month day hour minute second fraction : ℤ}
    (htime : ValidTime hour minute second) (hfraction : 0 ≤ fraction ∧ fraction < 10 ^ 9) :
    (getTimestampString (strftimeTime ⟨year, month, day, hour, minute, second⟩)
      fraction).length = 18 := by
  obtain ⟨hhour, hhour', hminute, hminute', hsecond, hsecond'⟩ := htime
  have hnine : (printZero 9 fraction).length = 9 :=
    length_printZero (by decide) hfraction.1 hfraction.2
  simp only [getTimestampString, strftimeTime, snprintf, List.length_append, List.length_take,
    List.length_singleton, hnine, length_printZero two_pos hhour (by omega),
    length_printZero two_pos hminute (by omega),
    length_printZero two_pos hsecond (by omega)]
  decide

/-- The text of a date and a time of day has 25 characters behind the year. -/
lemma length_timestampText {year month day hour minute second fraction : ℤ}
    (hdate : ValidDate year month day) (htime : ValidTime hour minute second)
    (hfraction : 0 ≤ fraction ∧ fraction < 10 ^ 9) :
    (getTimestampString
      (strftimeDate ⟨year - 1900, month - 1, day, hour, minute, second⟩ ++
        strftimeTime ⟨year - 1900, month - 1, day, hour, minute, second⟩) fraction).length =
      (printInt year).length + 25 := by
  have hday : day ≤ 31 := hdate.day_le.trans (daysInMonth_le year month)
  obtain ⟨hmonth, hmonth', hday', -⟩ := hdate
  have hrest : (getTimestampString
      (strftimeTime ⟨year - 1900, month - 1, day, hour, minute, second⟩) fraction).length = 18 :=
    length_timeText htime hfraction
  rw [getTimestampString] at hrest ⊢
  rw [List.append_assoc, List.length_append, hrest]
  simp only [strftimeDate, Int.sub_add_cancel, List.length_append, List.length_singleton,
    length_printZero two_pos (show 0 ≤ month by omega) (by omega),
    length_printZero two_pos (show 0 ≤ day by omega) (by omega)]
  omega

/-- A temporal value is put as its text, with the terminator, if and only if the terminator is among
the characters that the conversion copies. -/
lemma putsText_iff (P : Platform) (value : TemporalValue) :
    PutsText P (value.put P) value.printed ↔ value.printed.length < value.valLen := by
  constructor
  · intro h
    by_contra hlong
    obtain ⟨put, rest, hput, hstored⟩ := h .char
      (.new .aiChar true (value.printed.length + 1) true) rfl rfl
      (by simp [ApplicationDataBuffer.new])
    rw [value.put_of_aiChar P rfl] at hput
    obtain rfl := Option.some.inj hput
    have hbuflen : ¬ value.printed.length + 1 < value.valLen := by omega
    have hmin : min value.valLen (value.printed.length + 1) = value.valLen := by omega
    simp only [ApplicationDataBuffer.putCharText, ApplicationDataBuffer.new, Bool.not_true,
      Bool.false_eq_true, if_false, hbuflen, hmin, Option.some.injEq, Stored.units.injEq] at hstored
    have hlength := congrArg List.length hstored.2
    rw [length_strncpy, List.length_append, List.length_map, List.length_cons] at hlength
    omega
  · intro hlen outChar b htype hbuffer hbuflen
    rcases outChar with _ | _
    · simp only [OutChar.size_char, Nat.mul_one] at hbuflen ⊢
      refine ⟨_, List.replicate (min value.valLen b.buflen - value.printed.length - 1) 0,
        value.put_of_aiChar P htype, ?_⟩
      have hfits : value.printed.length < min value.valLen b.buflen := by omega
      have hcopy := strncpy_of_lt hfits
      rw [← List.replicate_succ] at hcopy ⊢
      have hzero : ¬ b.buflen = 0 := by omega
      have hset : ∀ n, (value.printed.map Char.toNat ++ List.replicate n 0).set (b.buflen - 1) 0 =
          value.printed.map Char.toNat ++ List.replicate n 0 := by
        intro n
        rw [List.set_append_right _ _ (by rw [List.length_map]; omega), List.set_replicate_self]
      unfold ApplicationDataBuffer.putCharText
      simp only [hbuffer, Bool.not_true, Bool.false_eq_true, if_false, hzero, hcopy, hset]
      split <;> rfl
    · simp only [OutChar.size_sqlWchar] at hbuflen ⊢
      have hcopy := copyStringToBuffer_of_le P value.isPrinted_printed value.printed_ne_nil hbuflen
      refine ⟨_, [], value.put_of_aiWchar P htype, ?_⟩
      simp [ApplicationDataBuffer.putWcharText, hbuffer, hcopy]

/-! ## Timestamps -/

section Timestamp

variable {P : Platform} {ms : ℤ}

/-- The milliseconds of a timestamp come back, also before the epoch. -/
lemma getMilliseconds_ofMilliseconds_timestamp (hms : -2 ^ 63 ≤ ms ∧ ms < 2 ^ 63) :
    (Timestamp.ofMilliseconds ms).getMilliseconds = ms := by
  have hsum := Int.tdiv_mul_add_tmod ms 1000
  rw [Timestamp.getMilliseconds, Timestamp.ofMilliseconds]
  dsimp only
  rw [Int.mul_tdiv_cancel _ (by decide), hsum, Int.bmod_def]
  split <;> omega

/-- A fraction that is not negative means an instant that is not before the epoch, or a whole
second. -/
lemma fractionNs_nonneg_iff :
    0 ≤ (Timestamp.ofMilliseconds ms).fractionNs ↔ 0 ≤ ms ∨ 1000 ∣ ms := by
  have hfraction : (Timestamp.ofMilliseconds ms).fractionNs = ms.tmod 1000 * 1000000 := rfl
  rw [hfraction]
  constructor
  · intro h
    by_contra hnot
    obtain ⟨q, r, -, hr, hsum, -, -, -, hneg⟩ := exists_tdiv_tmod ms
    rw [hr] at h
    have hsign := hneg (by omega)
    omega
  · intro h
    rw [(tdiv_tmod_of_floor h).2]
    omega

/-- Where the division rounds down, the printed text is that of the instant. -/
lemma text_ofMilliseconds_timestamp (hms : -2 ^ 63 ≤ ms ∧ ms < 2 ^ 63) (h : 0 ≤ ms ∨ 1000 ∣ ms) :
    timestampToCTm (.ofMilliseconds ms) = instantTm ms ∧
      (Timestamp.ofMilliseconds ms).text = instantText ms := by
  obtain ⟨year, month, day, hour, minute, second, -, -, htm, hgmtime⟩ := exists_instantTm hms
  have hctm : timestampToCTm (.ofMilliseconds ms) = instantTm ms := by
    rw [timestampToCTm, Timestamp.ofMilliseconds]
    dsimp only
    rw [(tdiv_tmod_of_floor h).1, hgmtime, htm, Option.getD_some]
  refine ⟨hctm, ?_⟩
  rw [Timestamp.text, hctm, Timestamp.ofMilliseconds, (tdiv_tmod_of_floor h).2]
  rfl

/-- The structure of a timestamp keeps the fields of an instant of up to four digits for the year. -/
lemma timestampStruct_instantTm (hms : -2 ^ 63 ≤ ms ∧ ms < 2 ^ 63)
    (hyear : -999 ≤ (instantTm ms).tmYear + 1900 ∧ (instantTm ms).tmYear + 1900 ≤ 9999) :
    (instantTm ms).timestampStruct (instantFraction ms) =
      .timestamp ((instantTm ms).tmYear + 1900) ((instantTm ms).tmMon + 1) (instantTm ms).tmMday
        (instantTm ms).tmHour (instantTm ms).tmMin (instantTm ms).tmSec (instantFraction ms) := by
  obtain ⟨year, month, day, hour, minute, second, hdate, htime, htm, -⟩ := exists_instantTm hms
  have hday : day ≤ 31 := hdate.day_le.trans (daysInMonth_le year month)
  obtain ⟨hmonth, hmonth', hday', -⟩ := hdate
  obtain ⟨hhour, hhour', hminute, hminute', hsecond, hsecond'⟩ := htime
  have hfraction : 0 ≤ instantFraction ms ∧ instantFraction ms < 10 ^ 9 := by
    unfold instantFraction
    omega
  rw [htm] at hyear ⊢
  dsimp only at hyear
  unfold Tm.timestampStruct toSmallint toUsmallint toUinteger
  dsimp only
  congr 1
  · rw [Int.bmod_def]
    split <;> omega
  all_goals omega

/-- A number of milliseconds keeps its instant in a timestamp if and only if it is not a part of a
second before the epoch and its year is printed in four characters. -/
lemma Timestamp.keepsInstant_iff (hms : -2 ^ 63 ≤ ms ∧ ms < 2 ^ 63) :
    Timestamp.KeepsInstant P ms ↔
      (0 ≤ ms ∨ 1000 ∣ ms) ∧
        -999 ≤ (instantTm ms).tmYear + 1900 ∧ (instantTm ms).tmYear + 1900 ≤ 9999 := by
  obtain ⟨year, month, day, hour, minute, second, hdate, htime, htm, -⟩ := exists_instantTm hms
  have hfraction : 0 ≤ instantFraction ms ∧ instantFraction ms < 10 ^ 9 := by
    unfold instantFraction
    omega
  have hlength : (instantText ms).length = (printInt ((instantTm ms).tmYear + 1900)).length + 25 := by
    rw [instantText, htm, length_timestampText hdate htime hfraction]
    dsimp only
    rw [Int.sub_add_cancel]
  have hputs : 0 ≤ ms ∨ 1000 ∣ ms →
      (PutsText P (TemporalValue.put P (.timestamp (.ofMilliseconds ms))) (instantText ms) ↔
        (printInt ((instantTm ms).tmYear + 1900)).length ≤ 4) := by
    intro hfloor
    have hiff := putsText_iff P (.timestamp (.ofMilliseconds ms))
    have htext : (TemporalValue.timestamp (.ofMilliseconds ms)).printed = instantText ms :=
      (text_ofMilliseconds_timestamp hms hfloor).2
    rw [htext, hlength] at hiff
    rw [hiff]
    have hvalLen : (TemporalValue.timestamp (.ofMilliseconds ms)).valLen = 30 := rfl
    omega
  constructor
  · intro h
    have hfloor := fractionNs_nonneg_iff.mp h.fraction.1
    exact ⟨hfloor, (length_printInt_le_four_iff _).mp ((hputs hfloor).mp h.characters)⟩
  · rintro ⟨hfloor, hyear⟩
    obtain ⟨hctm, -⟩ := text_ofMilliseconds_timestamp hms hfloor
    have hfractionNs : (Timestamp.ofMilliseconds ms).fractionNs = instantFraction ms := by
      rw [instantFraction, ← (tdiv_tmod_of_floor hfloor).2]
      rfl
    refine ⟨getMilliseconds_ofMilliseconds_timestamp hms, ?_, ?_,
      (hputs hfloor).mpr ((length_printInt_le_four_iff _).mpr hyear)⟩
    · rw [hfractionNs]
      exact hfraction
    · intro b htype hbuffer
      refine ⟨⟨.aiSuccess, some ((instantTm ms).timestampStruct (instantFraction ms)),
        b.resLen sizeOfTimestampStruct, b.cellOffset⟩, ?_,
        congrArg some (timestampStruct_instantTm hms hyear)⟩
      simp only [ApplicationDataBuffer.putNum, ApplicationDataBuffer.putTimestamp,
        ApplicationDataBuffer.putStruct, htype, hctm, hfractionNs, hbuffer, if_true]

end Timestamp

/-! ## Times -/

section Time

variable {P : Platform} {ms : ℤ}

/-- The seconds of a day fit 32 bits. -/
lemma seconds_ofMilliseconds_time (hms : 0 ≤ ms ∧ ms < 86400000) :
    (Time.ofMilliseconds ms).seconds = ms / 1000 ∧
      (Time.ofMilliseconds ms).fractionNs = ms % 1000 * 100000 := by
  obtain ⟨hdiv, hmod⟩ := tdiv_tmod_of_floor (.inl hms.1)
  rw [Time.ofMilliseconds, hdiv, hmod, Int.bmod_def]
  refine ⟨?_, rfl⟩
  dsimp only
  split <;> omega

/-- The milliseconds of a time come back as a hundred times as many behind the second. -/
lemma getMilliseconds_ofMilliseconds_time (hms : 0 ≤ ms ∧ ms < 86400000) :
    (Time.ofMilliseconds ms).getMilliseconds = ms / 1000 * 1000 + ms % 1000 * 100 := by
  obtain ⟨hseconds, hfraction⟩ := seconds_ofMilliseconds_time hms
  rw [Time.getMilliseconds, hseconds, hfraction,
    Int.tdiv_eq_ediv_of_nonneg (by omega), Int.bmod_def]
  split <;> omega

/-- A time of a number of milliseconds within a day has the fields of the instant. -/
lemma timeToCTm_ofMilliseconds (hms : 0 ≤ ms ∧ ms < 86400000) :
    timeToCTm (.ofMilliseconds ms) = instantTm ms := by
  obtain ⟨year, month, day, hour, minute, second, -, -, htm, hgmtime⟩ :=
    exists_instantTm (show -2 ^ 63 ≤ ms ∧ ms < 2 ^ 63 by omega)
  rw [timeToCTm, (seconds_ofMilliseconds_time hms).1, hgmtime, htm, Option.getD_some]

/-- A number of milliseconds within a day keeps its instant in a time if and only if it is a whole
second. -/
lemma Time.keepsInstant_iff (hms : 0 ≤ ms ∧ ms < 86400000) :
    Time.KeepsInstant P ms ↔ 1000 ∣ ms := by
  obtain ⟨year, month, day, hour, minute, second, -, htime, htm, -⟩ :=
    exists_instantTm (show -2 ^ 63 ≤ ms ∧ ms < 2 ^ 63 by omega)
  constructor
  · intro h
    have hms' := h.milliseconds
    rw [getMilliseconds_ofMilliseconds_time hms] at hms'
    omega
  · intro hwhole
    have hfraction : instantFraction ms = 0 := by
      unfold instantFraction
      omega
    have hfractionNs : (Time.ofMilliseconds ms).fractionNs = 0 := by
      rw [(seconds_ofMilliseconds_time hms).2]
      omega
    have hctm := timeToCTm_ofMilliseconds hms
    have htext : (TemporalValue.time (.ofMilliseconds ms)).printed = instantTimeText ms := by
      rw [TemporalValue.printed, Time.text, hctm, hfractionNs, instantTimeText, hfraction]
    refine ⟨?_, ?_, ?_, ?_⟩
    · rw [getMilliseconds_ofMilliseconds_time hms]
      omega
    · rw [hfractionNs]
      decide
    · intro b htype hbuffer
      refine ⟨⟨.aiVarlenDataTruncated, some (instantTm ms).timeStruct,
        b.resLen sizeOfTimeStruct, b.cellOffset⟩, ?_, congrArg some ?_⟩
      · simp only [ApplicationDataBuffer.putNum, ApplicationDataBuffer.putTime,
          ApplicationDataBuffer.putStruct, htype, hctm, hbuffer, if_true]
      · obtain ⟨hhour, hhour', hminute, hminute', hsecond, hsecond'⟩ := htime
        rw [htm]
        unfold Tm.timeStruct toUsmallint
        dsimp only
        congr 1
        all_goals omega
    · have hiff := putsText_iff P (.time (.ofMilliseconds ms))
      rw [htext, instantTimeText, htm, hfraction,
        length_timeText htime ⟨le_rfl, by decide⟩] at hiff
      rw [instantTimeText, htm, hfraction]
      exact hiff.mpr (Nat.lt_succ_self 18)

end Time

/-! ## The instants that are kept -/

/-- The values made of numbers of milliseconds keep their instants and are ordered as these: the
timestamps that are not parts of a second before the epoch and have a year of four characters, the
times that are whole seconds. The order is kept by all of them. -/
theorem keepsInstant_ofMilliseconds_iff (P : Platform) {ms : ℤ}
    (hms : -2 ^ 63 ≤ ms ∧ ms < 2 ^ 63) :
    (Timestamp.KeepsInstant P ms ↔
      (0 ≤ ms ∨ 1000 ∣ ms) ∧
        -999 ≤ (instantTm ms).tmYear + 1900 ∧ (instantTm ms).tmYear + 1900 ≤ 9999) ∧
      (∀ ms' c, (Timestamp.ofMilliseconds ms).compare (.ofMilliseconds ms') c ↔ c.holds ms ms') ∧
      (0 ≤ ms ∧ ms < 86400000 →
        (Time.KeepsInstant P ms ↔ 1000 ∣ ms) ∧
          ∀ ms' c, 0 ≤ ms' ∧ ms' < 86400000 →
            ((Time.ofMilliseconds ms).compare (.ofMilliseconds ms') c ↔ c.holds ms ms')) := by
  refine ⟨Timestamp.keepsInstant_iff hms, ?_, ?_⟩
  · intro ms' c
    exact ofMembers_iff (by decide) ms ms' c
  · intro hday
    refine ⟨Time.keepsInstant_iff hday, ?_⟩
    intro ms' c hday'
    have hseconds : ∀ n : ℤ, 0 ≤ n ∧ n < 86400000 →
        Time.ofMilliseconds n = ⟨n.tdiv 1000, n.tmod 1000 * 100000⟩ := by
      intro n hn
      obtain ⟨hdiv, -⟩ := tdiv_tmod_of_floor (.inl hn.1)
      have := (seconds_ofMilliseconds_time hn).1
      rw [← hdiv] at this
      exact congrArg (Time.mk · (n.tmod 1000 * 100000)) this
    rw [Time.compare, hseconds ms hday, hseconds ms' hday']
    exact ofMembers_iff (by decide) ms ms' c

/-- The statement about the milliseconds of the moon landing, and of a quarter past noon. -/
theorem keepsInstant_ofMilliseconds_sample :
    ¬ Timestamp.KeepsInstant samplePlatform (-14182939500) ∧
      Timestamp.KeepsInstant samplePlatform (-14182940000) ∧
      Time.KeepsInstant samplePlatform 44100000 := by
  have hpart := (@keepsInstant_ofMilliseconds_iff samplePlatform (-14182939500) (by decide)).1
  have hwhole := (@keepsInstant_ofMilliseconds_iff samplePlatform (-14182940000) (by decide)).1
  have hday := ((@keepsInstant_ofMilliseconds_iff samplePlatform 44100000 (by decide)).2.2
    (by decide)).1
  exact ⟨fun h => absurd (hpart.mp h) (by decide), hwhole.mpr (by decide), hday.mpr (by decide)⟩

/-- Half a second before the epoch has a negative fraction, and a millisecond of the day counts for a
hundred. -/
theorem not_keepsInstant_ofMilliseconds :
    (Timestamp.ofMilliseconds (-500)).fractionNs = -500000000 ∧
      (Time.ofMilliseconds 1).getMilliseconds = 100 ∧
      ¬ (∀ (P : Platform) (ms : ℤ), -2 ^ 63 ≤ ms ∧ ms < 2 ^ 63 →
        Timestamp.KeepsInstant P ms ∧
          (0 ≤ ms ∧ ms < 86400000 → Time.KeepsInstant P ms)) := by
  refine ⟨by decide, by decide, ?_⟩
  intro h
  have hfraction := (h samplePlatform (-500) (by decide)).1.fraction.1
  exact absurd hfraction (by decide)

end TimestreamOdbc
