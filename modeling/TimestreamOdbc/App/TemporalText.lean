import TimestreamOdbc.Utility

/-!
# Temporal values and their texts

The values of the temporal column types, the broken-down time the C library makes of them, and the
texts the driver prints: `snprintf` with `%d`, `%4d` and `%0nd`, and `strftime` with `%Y`, `%m`,
`%d`, `%H`, `%M` and `%S`.
-/

namespace TimestreamOdbc

/-- `Date`: milliseconds since the epoch. -/
structure Date where
  milliseconds : ℤ
  deriving DecidableEq, Repr

/-- `Timestamp`. -/
structure Timestamp where
  seconds : ℤ
  fractionNs : ℤ
  deriving DecidableEq, Repr

/-- `Time`. -/
structure Time where
  seconds : ℤ
  fractionNs : ℤ
  deriving DecidableEq, Repr

/-- `IntervalYearMonth`. -/
structure IntervalYearMonth where
  year : ℤ
  month : ℤ
  deriving DecidableEq, Repr

/-- `IntervalDaySecond`. -/
structure IntervalDaySecond where
  day : ℤ
  hour : ℤ
  minute : ℤ
  second : ℤ
  fractionNs : ℤ
  deriving DecidableEq, Repr

/-- `Date::GetSeconds`: the division cuts off. -/
def Date.getSeconds (date : Date) : ℤ := date.milliseconds.tdiv 1000

/-! ## Broken-down time -/

/-- The members of `struct tm` that are printed: the year counts from 1900 and the month from 0. -/
structure Tm where
  tmYear : ℤ
  tmMon : ℤ
  tmMday : ℤ
  tmHour : ℤ
  tmMin : ℤ
  tmSec : ℤ
  deriving DecidableEq, Repr

/-- A `struct tm` after `memset`. -/
def Tm.zero : Tm := ⟨0, 0, 0, 0, 0, 0⟩

/-- The date of a day, counted from the epoch, in the proleptic Gregorian calendar: year, month
from 1, and day of the month. Years are counted from March on, so that the leap day is the last day
of a year, in eras of 400 years. -/
def civilFromDays (days : ℤ) : ℤ × ℤ × ℤ :=
  let shifted := days + 719468
  let era := shifted / 146097
  let dayOfEra := shifted % 146097
  let yearOfEra := (dayOfEra - dayOfEra / 1460 + dayOfEra / 36524 - dayOfEra / 146096) / 365
  let dayOfYear := dayOfEra - (365 * yearOfEra + yearOfEra / 4 - yearOfEra / 100)
  let monthFromMarch := (5 * dayOfYear + 2) / 153
  let month := if monthFromMarch < 10 then monthFromMarch + 3 else monthFromMarch - 9
  (yearOfEra + era * 400 + (if month ≤ 2 then 1 else 0), month,
    dayOfYear - (153 * monthFromMarch + 2) / 5 + 1)

/-- `IgniteGmTime`, which is `gmtime_r`; nothing when the year does not fit an `int`. -/
def igniteGmTime (seconds : ℤ) : Option Tm :=
  let (year, month, day) := civilFromDays (seconds / 86400)
  let second := seconds % 86400
  if -2 ^ 31 ≤ year - 1900 ∧ year - 1900 < 2 ^ 31 then
    some ⟨year - 1900, month - 1, day, second / 3600, second / 60 % 60, second % 60⟩
  else none

/-- `DateToCTm`. The milliseconds of 64 bits are too few for a year that does not fit an `int`. -/
def dateToCTm (date : Date) : Tm := (igniteGmTime date.getSeconds).getD .zero

/-- `TimestampToCTm` into a cleared `struct tm`. -/
def timestampToCTm (ts : Timestamp) : Tm := (igniteGmTime ts.seconds).getD .zero

/-- `TimeToCTm` into a cleared `struct tm`. -/
def timeToCTm (time : Time) : Tm := (igniteGmTime time.seconds).getD .zero

example : (civilFromDays 19782, civilFromDays (-1)) = ((2024, 2, 29), (1969, 12, 31)) := by decide

/-! ## Printing -/

/-- `%d`. -/
def printInt (n : ℤ) : Text :=
  if n < 0 then '-' :: Nat.toDigits 10 n.natAbs else Nat.toDigits 10 n.natAbs

/-- `%4d` and the like: blanks on the left up to the width. -/
def printBlank (width : ℕ) (n : ℤ) : Text :=
  List.replicate (width - (printInt n).length) ' ' ++ printInt n

/-- `%02d` and the like: zeros after the sign up to the width. -/
def printZero (width : ℕ) (n : ℤ) : Text :=
  if n < 0 then
    '-' :: (List.replicate (width - 1 - (Nat.toDigits 10 n.natAbs).length) '0' ++
      Nat.toDigits 10 n.natAbs)
  else List.replicate (width - (Nat.toDigits 10 n.natAbs).length) '0' ++ Nat.toDigits 10 n.natAbs

/-- `snprintf` into `char[size]`: what does not fit is cut off. -/
def snprintf (size : ℕ) (text : Text) : Text := text.take (size - 1)

/-- `strftime` with the pattern `%Y-%m-%d `, the date in front of a time. -/
def strftimeDate (tm : Tm) : Text :=
  printInt (tm.tmYear + 1900) ++ ['-'] ++ printZero 2 (tm.tmMon + 1) ++ ['-'] ++
    printZero 2 tm.tmMday ++ [' ']

/-- `strftime` with the pattern `%H:%M:%S.`. -/
def strftimeTime (tm : Tm) : Text :=
  printZero 2 tm.tmHour ++ [':'] ++ printZero 2 tm.tmMin ++ [':'] ++ printZero 2 tm.tmSec ++ ['.']

/-- `GetTimestampString`: the text that `strftime` prints, and the fraction in 16 characters. -/
def getTimestampString (printed : Text) (fraction : ℤ) : Text :=
  printed ++ snprintf 16 (printZero 9 fraction)

/-- The text of a date, as `PutDate` prints it. -/
def Date.text (value : Date) : Text :=
  let tmTime := dateToCTm value
  printBlank 4 (tmTime.tmYear + 1900) ++ ['-'] ++ printZero 2 (tmTime.tmMon + 1) ++ ['-'] ++
    printZero 2 tmTime.tmMday

/-- The text of a timestamp, as `PutTimestamp` prints it. -/
def Timestamp.text (value : Timestamp) : Text :=
  getTimestampString (strftimeDate (timestampToCTm value) ++ strftimeTime (timestampToCTm value))
    value.fractionNs

/-- The text of a time, as `PutTime` prints it. -/
def Time.text (value : Time) : Text :=
  getTimestampString (strftimeTime (timeToCTm value)) value.fractionNs

/-- The text of an interval of years and months, before it is cut off. -/
def IntervalYearMonth.text (value : IntervalYearMonth) : Text :=
  printInt value.year ++ ['-'] ++ printInt value.month

/-- The text of an interval of days to seconds, before it is cut off. -/
def IntervalDaySecond.text (value : IntervalDaySecond) : Text :=
  printInt value.day ++ [' '] ++ printZero 2 value.hour ++ [':'] ++ printZero 2 value.minute ++
    [':'] ++ printZero 2 value.second ++ ['.'] ++ printZero 9 value.fractionNs

/-! ## The characters of a printed text -/

/-- The characters of a printed value: printable ASCII characters. -/
def IsPrinted (text : Text) : Prop := ∀ c ∈ text, 0 < c.toNat ∧ c.toNat < 128

lemma isPrinted_nil : IsPrinted [] := by simp [IsPrinted]

@[simp] lemma isPrinted_append {s t : Text} : IsPrinted (s ++ t) ↔ IsPrinted s ∧ IsPrinted t := by
  unfold IsPrinted
  exact List.forall_mem_append

@[simp] lemma isPrinted_cons {c : Char} {s : Text} :
    IsPrinted (c :: s) ↔ (0 < c.toNat ∧ c.toNat < 128) ∧ IsPrinted s := by
  simp [IsPrinted]

/-- A character that is printed fits into a wide character. -/
lemma IsPrinted.unitFits {text : Text} (h : IsPrinted text) (unitSize : ℕ) :
    ∀ c ∈ text, TimestreamOdbc.unitFits unitSize c = true :=
  fun c hc => unitFits_of_lt (h c hc).2 unitSize

/-- Part of a printed text is a printed text. -/
lemma IsPrinted.of_subset {s t : Text} (ht : IsPrinted t) (h : s ⊆ t) : IsPrinted s :=
  fun c hc => ht c (h hc)

lemma isPrinted_replicate {c : Char} (hc : 0 < c.toNat ∧ c.toNat < 128) (n : ℕ) :
    IsPrinted (List.replicate n c) := by
  intro d hd
  obtain rfl := List.eq_of_mem_replicate hd
  exact hc

lemma isPrinted_toDigits (n : ℕ) : IsPrinted (Nat.toDigits 10 n) := by
  intro c hc
  have hdigit : c.isDigit = true := Nat.isDigit_of_mem_toDigits (by decide) (by decide) hc
  simp only [Char.isDigit, Bool.and_eq_true, decide_eq_true_eq, ge_iff_le, UInt32.le_iff_toNat_le]
    at hdigit
  have hlower : 48 ≤ c.toNat := hdigit.1
  have hupper : c.toNat ≤ 57 := hdigit.2
  omega

lemma isPrinted_printInt (n : ℤ) : IsPrinted (printInt n) := by
  unfold printInt
  split
  · rw [isPrinted_cons]
    exact ⟨by decide, isPrinted_toDigits _⟩
  · exact isPrinted_toDigits _

lemma isPrinted_printBlank (width : ℕ) (n : ℤ) : IsPrinted (printBlank width n) := by
  unfold printBlank
  rw [isPrinted_append]
  exact ⟨isPrinted_replicate (by decide) _, isPrinted_printInt n⟩

lemma isPrinted_printZero (width : ℕ) (n : ℤ) : IsPrinted (printZero width n) := by
  unfold printZero
  split
  · rw [isPrinted_cons, isPrinted_append]
    exact ⟨by decide, isPrinted_replicate (by decide) _, isPrinted_toDigits _⟩
  · rw [isPrinted_append]
    exact ⟨isPrinted_replicate (by decide) _, isPrinted_toDigits _⟩

lemma isPrinted_strftimeDate (tm : Tm) : IsPrinted (strftimeDate tm) := by
  simp [strftimeDate, isPrinted_printInt, isPrinted_printZero, isPrinted_nil]

lemma isPrinted_strftimeTime (tm : Tm) : IsPrinted (strftimeTime tm) := by
  simp [strftimeTime, isPrinted_printZero, isPrinted_nil]

lemma isPrinted_getTimestampString {printed : Text} (h : IsPrinted printed) (fraction : ℤ) :
    IsPrinted (getTimestampString printed fraction) := by
  unfold getTimestampString snprintf
  rw [isPrinted_append]
  exact ⟨h, (isPrinted_printZero 9 fraction).of_subset (List.take_subset _ _)⟩

lemma Date.isPrinted_text (value : Date) : IsPrinted value.text := by
  simp [Date.text, isPrinted_printBlank, isPrinted_printZero]

lemma Timestamp.isPrinted_text (value : Timestamp) : IsPrinted value.text := by
  apply isPrinted_getTimestampString
  rw [isPrinted_append]
  exact ⟨isPrinted_strftimeDate _, isPrinted_strftimeTime _⟩

lemma Time.isPrinted_text (value : Time) : IsPrinted value.text :=
  isPrinted_getTimestampString (isPrinted_strftimeTime _) _

lemma IntervalYearMonth.isPrinted_text (value : IntervalYearMonth) : IsPrinted value.text := by
  simp [IntervalYearMonth.text, isPrinted_printInt]

lemma IntervalDaySecond.isPrinted_text (value : IntervalDaySecond) : IsPrinted value.text := by
  simp [IntervalDaySecond.text, isPrinted_printInt, isPrinted_printZero]

/-- A printed text has no null character. -/
lemma IsPrinted.nul_notMem {text : Text} (h : IsPrinted text) : '\x00' ∉ text := by
  intro hmem
  exact absurd (h _ hmem).1 (by decide)

end TimestreamOdbc
