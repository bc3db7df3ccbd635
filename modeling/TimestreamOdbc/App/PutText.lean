import TimestreamOdbc.App.PutTemporal

/-!
# Putting numbers and strings into application buffers

`PutNum` for the integer types, `PutString`, and the values of all kinds that have a text.
-/

namespace TimestreamOdbc

/-! ## Numbers -/

/-- `DigitLength`, which estimates the number of decimal digits from the number of bits. -/
def digitLength (x : ℕ) : ℕ :=
  if x < 10 then 1
  else
    let r := (Nat.log2 x + 1 + 1) * 1233 / 2 ^ 12
    if r = 20 ∨ x < 10 ^ r then r else r + 1

/-- The bytes of an integer object, the lowest one first. -/
def objectBytes (size : ℕ) (value : ℤ) : List UInt8 :=
  (List.range size).map fun i => (value / 256 ^ i % 256).toNat.toUInt8

/-- The number an extraction into an `int64_t` reads from a text: white space, a sign and digits,
cut off at the bounds of the type, and 0 when there are no digits. -/
def scanInt64 (value : Text) : ℤ :=
  match ltrim value with
  | '-' :: digits =>
    max (-(Nat.ofDigitChars 10 (digits.takeWhile Char.isDigit) 0)) (-2 ^ 63)
  | '+' :: digits => min (Nat.ofDigitChars 10 (digits.takeWhile Char.isDigit) 0) (2 ^ 63 - 1)
  | digits => min (Nat.ofDigitChars 10 (digits.takeWhile Char.isDigit) 0) (2 ^ 63 - 1)

/-- `Timestamp` of a number of milliseconds; the divisions cut off. -/
def Timestamp.ofMilliseconds (ms : ℤ) : Timestamp := ⟨ms.tdiv 1000, ms.tmod 1000 * 1000000⟩

/-- `Time` of a number of milliseconds: the seconds are narrowed to `int32_t`. -/
def Time.ofMilliseconds (ms : ℤ) : Time := ⟨(ms.tdiv 1000).bmod (2 ^ 32), ms.tmod 1000 * 100000⟩

/-- The size of `SQL_NUMERIC_STRUCT`. -/
def sizeOfNumericStruct : ℕ := 19

namespace ApplicationDataBuffer

/-- `PutNumToNumBuffer` for an integer type of the given size. -/
def putNumToNumBuffer (size : ℕ) (value : ℤ) (b : ApplicationDataBuffer) : Put :=
  ⟨.aiSuccess, if b.buffer then some (.scalar size (value % 2 ^ (8 * size)).toNat) else none,
    b.resLen size, b.cellOffset⟩

/-- `PutNumToNumBuffer` for a floating-point type of the given size, from an integer or a text. -/
def putNumToFloatBuffer (stored : Stored) (size : ℕ) (b : ApplicationDataBuffer) : Put :=
  ⟨.aiSuccess, if b.buffer then some stored else none, b.resLen size, b.cellOffset⟩

/-- `PutValToStrBuffer` of an integer. -/
def putValToStrBuffer (P : Platform) (outChar : OutChar) (value : ℤ) (b : ApplicationDataBuffer) :
    Option Put :=
  b.putStrToStrBuffer P outChar (Utf8.encode (printInt value))

/-- `PutNum` of an integer whose type has the given size. -/
def putNum (P : Platform) (size : ℕ) (value : ℤ) (b : ApplicationDataBuffer) : Option Put :=
  match b.type with
  | .aiSignedTinyint | .aiBit | .aiUnsignedTinyint => some (b.putNumToNumBuffer 1 value)
  | .aiSignedShort | .aiUnsignedShort => some (b.putNumToNumBuffer 2 value)
  | .aiSignedLong | .aiUnsignedLong => some (b.putNumToNumBuffer 4 value)
  | .aiSignedBigint | .aiUnsignedBigint => some (b.putNumToNumBuffer 8 value)
  | .aiFloat => some (b.putNumToFloatBuffer (.floating 4 value) 4)
  | .aiDouble => some (b.putNumToFloatBuffer (.floating 8 value) 8)
  | .aiChar => b.putValToStrBuffer P .char value
  | .aiWchar => b.putValToStrBuffer P .sqlWchar value
  | .aiNumeric =>
    let stored := Stored.numeric (digitLength value.natAbs) 0 (if value < 0 then 0 else 1)
      value.natAbs
    some ⟨.aiSuccess, if b.buffer then some stored else none, b.resLen sizeOfNumericStruct,
      b.cellOffset⟩
  | .aiBinary | .aiDefault =>
    let bytes := (objectBytes size value).take b.buflen
    some ⟨if b.buflen < size then .aiVarlenDataTruncated else .aiSuccess,
      if b.buffer then some (.raw bytes) else none, b.resLen size, b.cellOffset⟩
  | .aiTdate => b.putDate P ⟨value⟩
  | .aiTtimestamp => b.putTimestamp P (.ofMilliseconds value)
  | .aiTtime => b.putTime P (.ofMilliseconds value)
  | .aiInterval _ | .aiUnsupported => some b.unsupported

/-! ## Strings -/

/-- `PutString`. -/
def putString (P : Platform) (value : Text) (b : ApplicationDataBuffer) : Option Put :=
  match b.type with
  | .aiSignedTinyint | .aiBit | .aiUnsignedTinyint | .aiSignedShort | .aiUnsignedShort
  | .aiSignedLong | .aiUnsignedLong | .aiSignedBigint | .aiUnsignedBigint | .aiNumeric =>
    b.putNum P 8 (scanInt64 value)
  | .aiFloat => some (b.putNumToFloatBuffer (.floatingOfText 4 value) 4)
  | .aiDouble => some (b.putNumToFloatBuffer (.floatingOfText 8 value) 8)
  | .aiChar | .aiBinary | .aiDefault => b.putStrToStrBuffer P .char (Utf8.encode value)
  | .aiWchar => b.putStrToStrBuffer P .sqlWchar (Utf8.encode value)
  | .aiTdate | .aiTtime | .aiTtimestamp | .aiInterval _ | .aiUnsupported => some b.unsupported

end ApplicationDataBuffer

/-! ## All values with a text -/

/-- A temporal value. -/
inductive TemporalValue where
  | date (value : Date)
  | timestamp (value : Timestamp)
  | time (value : Time)
  | intervalYearMonth (value : IntervalYearMonth)
  | intervalDaySecond (value : IntervalDaySecond)
  deriving DecidableEq, Repr

/-- A value with a text: a string, an integer whose type has a size, a boolean, or a temporal
value. -/
inductive TextValue where
  | string (value : Text)
  | integer (size : ℕ) (value : ℤ)
  | boolean (value : Bool)
  | temporal (value : TemporalValue)
  deriving DecidableEq, Repr

namespace TemporalValue

/-- The text of a temporal value. -/
def text : TemporalValue → Text
  | date value => value.text
  | timestamp value => value.text
  | time value => value.text
  | intervalYearMonth value => value.text
  | intervalDaySecond value => value.text

/-- The part of the text that the conversion prints. -/
def printed : TemporalValue → Text
  | date value => value.text
  | timestamp value => value.text
  | time value => value.text
  | intervalYearMonth value => snprintf 32 value.text
  | intervalDaySecond value => snprintf 32 value.text

/-- The number of characters the conversion takes the text to have, with the terminator. -/
def valLen : TemporalValue → ℕ
  | date _ => 11
  | timestamp _ => 30
  | time _ => 19
  | intervalYearMonth value => (snprintf 32 value.text).length + 1
  | intervalDaySecond value => (snprintf 32 value.text).length + 1

/-- The conversion of a temporal value. -/
def put (P : Platform) : TemporalValue → ApplicationDataBuffer → Option Put
  | date value, b => b.putDate P value
  | timestamp value, b => b.putTimestamp P value
  | time value, b => b.putTime P value
  | intervalYearMonth value, b => b.putIntervalYearMonth P value
  | intervalDaySecond value, b => b.putIntervalDaySecond P value

/-- Into characters every temporal value is copied in the same way. -/
lemma put_of_aiChar (P : Platform) (value : TemporalValue) {b : ApplicationDataBuffer}
    (h : b.type = .aiChar) : value.put P b = some (b.putCharText value.printed value.valLen) := by
  cases value
  · simp only [put, ApplicationDataBuffer.putDate, h, printed, valLen]
  · simp only [put, ApplicationDataBuffer.putTimestamp, h, printed, valLen]
  · simp only [put, ApplicationDataBuffer.putTime, h, printed, valLen]
  · simp only [put, ApplicationDataBuffer.putIntervalYearMonth, h, printed, valLen]
  · simp only [put, ApplicationDataBuffer.putIntervalDaySecond, h, printed, valLen]

/-- The result of a conversion into wide characters: only a date is not asked whether the copy was
cut off. -/
def wcharResult (P : Platform) (value : TemporalValue) (b : ApplicationDataBuffer) :
    ConversionResult :=
  match value with
  | date _ => if b.buflen < value.valLen then .aiVarlenDataTruncated else .aiSuccess
  | _ => (b.putWcharText P value.printed value.valLen).result

/-- Into wide characters every temporal value is copied in the same way. -/
lemma put_of_aiWchar (P : Platform) (value : TemporalValue) {b : ApplicationDataBuffer}
    (h : b.type = .aiWchar) :
    value.put P b = some { b.putWcharText P value.printed value.valLen with
      result := value.wcharResult P b } := by
  cases value
  · simp only [put, ApplicationDataBuffer.putDate, h]
    rfl
  · simp only [put, ApplicationDataBuffer.putTimestamp, h, printed, valLen, wcharResult]
  · simp only [put, ApplicationDataBuffer.putTime, h, printed, valLen, wcharResult]
  · simp only [put, ApplicationDataBuffer.putIntervalYearMonth, h, printed, valLen, wcharResult]
  · simp only [put, ApplicationDataBuffer.putIntervalDaySecond, h, printed, valLen, wcharResult]

lemma isPrinted_text (value : TemporalValue) : IsPrinted value.text := by
  cases value with
  | date value => exact value.isPrinted_text
  | timestamp value => exact value.isPrinted_text
  | time value => exact value.isPrinted_text
  | intervalYearMonth value => exact value.isPrinted_text
  | intervalDaySecond value => exact value.isPrinted_text

/-- What is printed is the beginning of the text. -/
lemma printed_prefix_text (value : TemporalValue) : value.printed <+: value.text := by
  cases value with
  | date value => exact List.prefix_rfl
  | timestamp value => exact List.prefix_rfl
  | time value => exact List.prefix_rfl
  | intervalYearMonth value => exact List.take_prefix _ _
  | intervalDaySecond value => exact List.take_prefix _ _

lemma isPrinted_printed (value : TemporalValue) : IsPrinted value.printed :=
  value.isPrinted_text.of_subset value.printed_prefix_text.subset

lemma text_ne_nil (value : TemporalValue) : value.text ≠ [] := by
  cases value <;>
    simp [text, Date.text, Timestamp.text, Time.text, IntervalYearMonth.text,
      IntervalDaySecond.text, getTimestampString, strftimeDate, strftimeTime]

lemma printed_ne_nil (value : TemporalValue) : value.printed ≠ [] := by
  have hne := value.text_ne_nil
  cases value with
  | date value => exact hne
  | timestamp value => exact hne
  | time value => exact hne
  | intervalYearMonth value => simpa [printed, snprintf, text] using hne
  | intervalDaySecond value => simpa [printed, snprintf, text] using hne

end TemporalValue

namespace TextValue

/-- The text of a value. -/
def text : TextValue → Text
  | string value => value
  | integer _ value => printInt value
  | boolean value => printInt (if value then 1 else 0)
  | temporal value => value.text

/-- The conversion of a value. -/
def put (P : Platform) : TextValue → ApplicationDataBuffer → Option Put
  | string value, b => b.putString P value
  | integer size value, b => b.putNum P size value
  | boolean value, b => b.putNum P 1 (if value then 1 else 0)
  | temporal value, b => value.put P b

/-- Strings, integers and booleans are put as strings into a text. -/
lemma put_eq_putStrToStrBuffer (P : Platform) (outChar : OutChar) {value : TextValue}
    (hvalue : ∀ v, value ≠ .temporal v) {b : ApplicationDataBuffer}
    (h : b.type = outChar.driverType) :
    value.put P b = b.putStrToStrBuffer P outChar (Utf8.encode value.text) := by
  rcases outChar with _ | _ <;> unfold OutChar.driverType at h <;>
  · cases value with
    | string value => simp only [put, ApplicationDataBuffer.putString, h, text]
    | integer size value =>
      simp only [put, ApplicationDataBuffer.putNum, h, text,
        ApplicationDataBuffer.putValToStrBuffer]
    | boolean value =>
      simp only [put, ApplicationDataBuffer.putNum, h, text,
        ApplicationDataBuffer.putValToStrBuffer]
    | temporal value => exact absurd rfl (hvalue value)

end TextValue

end TimestreamOdbc
