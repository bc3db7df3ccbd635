import TimestreamOdbc.App.ApplicationDataBuffer
import TimestreamOdbc.App.TemporalText

/-!
# Putting temporal values into application buffers

`PutDate`, `PutTimestamp`, `PutTime` and the two `PutInterval`.  All of them print the value first
when the buffer is a text, and fill a structure otherwise.  None of them looks at the cell offset.
-/

namespace TimestreamOdbc

/-! ## Copying a printed text -/

/-- `strncpy` of `count` characters: what follows the text is filled with null characters. -/
def strncpy (text : Text) (count : ℕ) : List ℕ :=
  (text.take count).map Char.toNat ++ List.replicate (count - text.length) 0

/-- `CopyStringToBuffer` with a length in bytes, into a buffer that is there. -/
def copyStringToBuffer (P : Platform) (text : Text) (buflen : ℕ) : Copied :=
  copyUtf8StringToWcharString P (Utf8.encode text) true buflen false

namespace ApplicationDataBuffer

/-- The case `AI_CHAR` of the temporal conversions. The number of characters that are copied and
that decide about truncation is `valLen`, which counts the terminator. -/
def putCharText (tmpStr : Text) (valLen : ℕ) (b : ApplicationDataBuffer) : Put :=
  if !b.buffer then ⟨.aiSuccess, none, b.resLen (valLen - 1 : ℕ), b.cellOffset⟩
  else
    let copied := strncpy tmpStr (min valLen b.buflen)
    if b.buflen < valLen then
      -- `buffer[buflen - 1] = 0` is before the buffer when it is empty
      ⟨.aiVarlenDataTruncated,
        some (if b.buflen = 0 then .nullBefore else .units 1 (copied.set (b.buflen - 1) 0)),
        b.resLen (valLen - 1 : ℕ), b.cellOffset⟩
    else ⟨.aiSuccess, some (.units 1 copied), b.resLen (valLen - 1 : ℕ), b.cellOffset⟩

/-- The case `AI_WCHAR` of the temporal conversions; `valLen` counts the terminator. -/
def putWcharText (P : Platform) (tmpStr : Text) (valLen : ℕ) (b : ApplicationDataBuffer) : Put :=
  if !b.buffer then ⟨.aiSuccess, none, b.resLen (valLen - 1 : ℕ), b.cellOffset⟩
  else
    let copied := copyStringToBuffer P tmpStr b.buflen
    ⟨if copied.isTruncated then .aiVarlenDataTruncated else .aiSuccess,
      copied.stored.map (Stored.units P.sqlWcharSize), b.resLen (valLen - 1 : ℕ), b.cellOffset⟩

/-- A copy of a printed text does not look at the cell offset. -/
lemma putCharText_setCellOffset (tmpStr : Text) (valLen : ℕ) (cellOffset : ℤ)
    (b : ApplicationDataBuffer) :
    (b.setCellOffset cellOffset).putCharText tmpStr valLen =
      { b.putCharText tmpStr valLen with cellOffset } := by
  by_cases hbuffer : b.buffer <;> by_cases hlen : b.buflen < valLen <;>
    simp [putCharText, setCellOffset, resLen, hbuffer, hlen]

/-- A copy of a printed text does not look at the cell offset. -/
lemma putWcharText_setCellOffset (P : Platform) (tmpStr : Text) (valLen : ℕ) (cellOffset : ℤ)
    (b : ApplicationDataBuffer) :
    (b.setCellOffset cellOffset).putWcharText P tmpStr valLen =
      { b.putWcharText P tmpStr valLen with cellOffset } := by
  by_cases hbuffer : b.buffer <;> simp [putWcharText, setCellOffset, resLen, hbuffer]

/-- A copy into wide characters either succeeds or reports truncation. -/
lemma result_putWcharText (P : Platform) (tmpStr : Text) (valLen : ℕ) (b : ApplicationDataBuffer) :
    (b.putWcharText P tmpStr valLen).result = .aiSuccess ∨
      (b.putWcharText P tmpStr valLen).result = .aiVarlenDataTruncated := by
  unfold putWcharText
  split
  · exact .inl rfl
  · dsimp only
    split
    · exact .inr rfl
    · exact .inl rfl

/-- A structure is stored without a check whether there is a data pointer; nothing when the call
dies of a null pointer. -/
def putStruct (result : ConversionResult) (stored : Stored) (size : ℕ)
    (b : ApplicationDataBuffer) : Option Put :=
  if b.buffer then some ⟨result, some stored, b.resLen size, b.cellOffset⟩ else none

/-- A conversion that is not supported touches nothing. -/
def unsupported (b : ApplicationDataBuffer) : Put :=
  ⟨.aiUnsupportedConversion, none, none, b.cellOffset⟩

end ApplicationDataBuffer

/-! ## The structures -/

/-- The conversion to `SQLSMALLINT`. -/
def toSmallint (n : ℤ) : ℤ := n.bmod (2 ^ 16)

/-- The conversion to `SQLUSMALLINT`. -/
def toUsmallint (n : ℤ) : ℤ := n % 2 ^ 16

/-- The conversion to `SQLUINTEGER`. -/
def toUinteger (n : ℤ) : ℤ := n % 2 ^ 32

/-- What is stored in a `SQL_DATE_STRUCT`. -/
def Tm.dateStruct (tm : Tm) : Stored :=
  .date (toSmallint (tm.tmYear + 1900)) (toUsmallint (tm.tmMon + 1)) (toUsmallint tm.tmMday)

/-- What is stored in a `SQL_TIME_STRUCT`. -/
def Tm.timeStruct (tm : Tm) : Stored :=
  .time (toUsmallint tm.tmHour) (toUsmallint tm.tmMin) (toUsmallint tm.tmSec)

/-- What is stored in a `SQL_TIMESTAMP_STRUCT`. -/
def Tm.timestampStruct (tm : Tm) (fraction : ℤ) : Stored :=
  .timestamp (toSmallint (tm.tmYear + 1900)) (toUsmallint (tm.tmMon + 1)) (toUsmallint tm.tmMday)
    (toUsmallint tm.tmHour) (toUsmallint tm.tmMin) (toUsmallint tm.tmSec) (toUinteger fraction)

/-- The members of `SQL_INTERVAL_STRUCT` that are written for an interval type. -/
def IntervalKind.fields : IntervalKind → List IntervalField
  | .year => [.year]
  | .month => [.month]
  | .yearToMonth => [.year, .month]
  | .day => [.day]
  | .hour => [.hour]
  | .minute => [.minute]
  | .second => [.second, .fraction]
  | .dayToHour => [.day, .hour]
  | .dayToMinute => [.day, .hour, .minute]
  | .hourToMinute => [.hour, .minute]
  | .hourToSecond => [.hour, .minute, .second, .fraction]
  | .minuteToSecond => [.minute, .second, .fraction]
  | .dayToSecond => [.day, .hour, .minute, .second, .fraction]

/-- The member of an interval of years and months: the days and the times are 0. -/
def IntervalYearMonth.member (value : IntervalYearMonth) : IntervalField → ℤ
  | .year => value.year.natAbs
  | .month => value.month.natAbs
  | .day | .hour | .minute | .second | .fraction => 0

/-- The member of an interval of days to seconds: the years and the months are 0. -/
def IntervalDaySecond.member (value : IntervalDaySecond) : IntervalField → ℤ
  | .year | .month => 0
  | .day => value.day.natAbs
  | .hour => value.hour.natAbs
  | .minute => value.minute.natAbs
  | .second => value.second.natAbs
  | .fraction => value.fractionNs.natAbs

/-- `SetIntervalBufferValue` of an interval of years and months: the sign is `SQL_FALSE` for a
negative value. -/
def IntervalYearMonth.setIntervalBufferValue (value : IntervalYearMonth) (kind : IntervalKind) :
    Stored :=
  let sign := if value.year < 0 ∨ value.year = 0 ∧ value.month < 0 then 0 else 1
  .interval kind sign (kind.fields.map fun field => (field, value.member field))

/-- `SetIntervalBufferValue` of an interval of days to seconds. -/
def IntervalDaySecond.setIntervalBufferValue (value : IntervalDaySecond) (kind : IntervalKind) :
    Stored :=
  let sign :=
    if value.day < 0 ∨ value.day = 0 ∧ value.hour < 0 ∨
      value.day = 0 ∧ value.hour = 0 ∧ value.minute < 0 ∨
      value.day = 0 ∧ value.hour = 0 ∧ value.minute = 0 ∧ value.second < 0 ∨
      value.day = 0 ∧ value.hour = 0 ∧ value.minute = 0 ∧ value.second = 0 ∧ value.fractionNs < 0
    then 0 else 1
  .interval kind sign (kind.fields.map fun field => (field, value.member field))

/-- The sizes of the structures: three, three and seven members of 2 and 4 bytes, and an interval
with its type, its sign and five members of 4 bytes. -/
def sizeOfDateStruct : ℕ := 6

@[inherit_doc sizeOfDateStruct]
def sizeOfTimeStruct : ℕ := 6

@[inherit_doc sizeOfDateStruct]
def sizeOfTimestampStruct : ℕ := 16

@[inherit_doc sizeOfDateStruct]
def sizeOfIntervalStruct : ℕ := 28

/-! ## The conversions -/

namespace ApplicationDataBuffer

/-- `PutDate`. Into wide characters the truncation is decided by comparing the number of characters
with the size of the buffer in bytes, also when there is no buffer. -/
def putDate (P : Platform) (value : Date) (b : ApplicationDataBuffer) : Option Put :=
  let tmTime := dateToCTm value
  -- `sizeof("HHHH-MM-DD") - 1`
  let valLen := 10
  match b.type with
  | .aiChar => some (b.putCharText value.text (valLen + 1))
  | .aiWchar =>
    some { b.putWcharText P value.text (valLen + 1) with
      result := if b.buflen < valLen + 1 then .aiVarlenDataTruncated else .aiSuccess }
  | .aiTdate => b.putStruct .aiSuccess tmTime.dateStruct sizeOfDateStruct
  | .aiTtimestamp => b.putStruct .aiSuccess (tmTime.timestampStruct 0) sizeOfTimestampStruct
  | _ => some b.unsupported

/-- `PutTimestamp`. -/
def putTimestamp (P : Platform) (value : Timestamp) (b : ApplicationDataBuffer) : Option Put :=
  let tmTime := timestampToCTm value
  -- `sizeof("HHHH-MM-DD HH:MM:SS.xxxxxxxxx")`
  let valLen := 30
  match b.type with
  | .aiChar => some (b.putCharText value.text valLen)
  | .aiWchar => some (b.putWcharText P value.text valLen)
  | .aiTdate => b.putStruct .aiFractionalTruncated tmTime.dateStruct sizeOfDateStruct
  | .aiTtime => b.putStruct .aiFractionalTruncated tmTime.timeStruct sizeOfTimeStruct
  | .aiTtimestamp =>
    b.putStruct .aiSuccess (tmTime.timestampStruct value.fractionNs) sizeOfTimestampStruct
  | _ => some b.unsupported

/-- `PutTime`. -/
def putTime (P : Platform) (value : Time) (b : ApplicationDataBuffer) : Option Put :=
  let tmTime := timeToCTm value
  -- `sizeof("HH:MM:SS.xxxxxxxxx")`
  let valLen := 19
  match b.type with
  | .aiChar => some (b.putCharText value.text valLen)
  | .aiWchar => some (b.putWcharText P value.text valLen)
  | .aiTtime => b.putStruct .aiVarlenDataTruncated tmTime.timeStruct sizeOfTimeStruct
  | .aiTtimestamp =>
    b.putStruct .aiSuccess (tmTime.timestampStruct value.fractionNs) sizeOfTimestampStruct
  | _ => some b.unsupported

/-- `PutInterval` of an interval of years and months. The text has room for 31 characters. -/
def putIntervalYearMonth (P : Platform) (value : IntervalYearMonth) (b : ApplicationDataBuffer) :
    Option Put :=
  let tmp := snprintf 32 value.text
  match b.type with
  | .aiChar => some (b.putCharText tmp (tmp.length + 1))
  | .aiWchar => some (b.putWcharText P tmp (tmp.length + 1))
  | .aiInterval kind =>
    b.putStruct .aiSuccess (value.setIntervalBufferValue kind) sizeOfIntervalStruct
  | _ => some b.unsupported

/-- `PutInterval` of an interval of days to seconds. The text has room for 31 characters. -/
def putIntervalDaySecond (P : Platform) (value : IntervalDaySecond) (b : ApplicationDataBuffer) :
    Option Put :=
  let tmp := snprintf 32 value.text
  match b.type with
  | .aiChar => some (b.putCharText tmp (tmp.length + 1))
  | .aiWchar => some (b.putWcharText P tmp (tmp.length + 1))
  | .aiInterval kind =>
    b.putStruct .aiSuccess (value.setIntervalBufferValue kind) sizeOfIntervalStruct
  | _ => some b.unsupported

end ApplicationDataBuffer

end TimestreamOdbc
