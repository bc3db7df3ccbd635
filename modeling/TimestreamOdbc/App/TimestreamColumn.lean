import TimestreamOdbc.App.ColumnBinding
import TimestreamOdbc.App.Scan

/-!
# Columns of a data query

`TimestreamColumn`: what is put into a buffer for a datum of the service.  A scalar is a text, which
is parsed by the scalar type of the column.  Of an array, a row or a time series a text is made, for
which every element goes through a buffer of its own, again by the scalar type of the column.
-/

namespace TimestreamOdbc

/-! ## The platform -/

/-- A floating-point number: the text it was read from, the integer it is truncated to, its sign, the
text a stream prints and the bytes of the object. -/
structure Floating where
  source : Text
  truncated : ℤ
  negative : Bool
  printed : Text
  bytes : List UInt8
  length_bytes : bytes.length = 8

/-- What a column finds on its platform besides: the size of a `long`, `std::stod`, which gives
nothing when it throws, and what is in a variable that was not initialised. -/
structure ColumnPlatform extends Platform where
  longSize : ℕ
  stod : Text → Option Floating
  uninitialised : ℕ → ℤ
  longSize_eq : longSize = 4 ∨ longSize = 8

/-- A platform with a `long` of 8 bytes on which no text is a floating-point number. -/
def sampleColumnPlatform : ColumnPlatform where
  toPlatform := samplePlatform
  longSize := 8
  stod := fun _ => none
  uninitialised := fun _ => 0
  longSize_eq := .inr rfl

/-- The day, counted from the epoch, of a date in the proleptic Gregorian calendar. Years are counted
from March on, in eras of 400 years. -/
def daysFromCivil (year month day : ℤ) : ℤ :=
  let yearFromMarch := if month ≤ 2 then year - 1 else year
  let era := yearFromMarch / 400
  let yearOfEra := yearFromMarch % 400
  let dayOfYear := (153 * ((month + 9) % 12) + 2) / 5 + day - 1
  era * 146097 + (yearOfEra * 365 + yearOfEra / 4 - yearOfEra / 100 + dayOfYear) - 719468

/-- `timegm`: a month outside of the year counts on from its beginning, as do the other members. -/
def timegm (tm : Tm) : ℤ :=
  let days := daysFromCivil (tm.tmYear + 1900 + tm.tmMon / 12) (tm.tmMon % 12 + 1) tm.tmMday
  ((days * 24 + tm.tmHour) * 60 + tm.tmMin) * 60 + tm.tmSec

namespace ApplicationDataBuffer

variable (P : Platform)

/-- `PutDouble`. -/
def putDouble (value : Floating) (b : ApplicationDataBuffer) : Option Put :=
  match b.type with
  | .aiSignedTinyint | .aiBit | .aiUnsignedTinyint => some (b.putNumToNumBuffer 1 value.truncated)
  | .aiSignedShort | .aiUnsignedShort => some (b.putNumToNumBuffer 2 value.truncated)
  | .aiSignedLong | .aiUnsignedLong => some (b.putNumToNumBuffer 4 value.truncated)
  | .aiSignedBigint | .aiUnsignedBigint => some (b.putNumToNumBuffer 8 value.truncated)
  | .aiFloat => some (b.putNumToFloatBuffer (.floatingOfText 4 value.source) 4)
  | .aiDouble => some (b.putNumToFloatBuffer (.floatingOfText 8 value.source) 8)
  | .aiChar => b.putStrToStrBuffer P .char (Utf8.encode value.printed)
  | .aiWchar => b.putStrToStrBuffer P .sqlWchar (Utf8.encode value.printed)
  | .aiNumeric =>
    let stored := Stored.numeric (digitLength value.truncated.natAbs) 0
      (if value.negative then 0 else 1) value.truncated.natAbs
    some ⟨.aiSuccess, if b.buffer then some stored else none, b.resLen sizeOfNumericStruct,
      b.cellOffset⟩
  | .aiBinary | .aiDefault =>
    some ⟨if b.buflen < 8 then .aiVarlenDataTruncated else .aiSuccess,
      if b.buffer then some (.raw (value.bytes.take b.buflen)) else none, b.resLen 8, b.cellOffset⟩
  | .aiTdate => b.putDate P ⟨value.truncated⟩
  | .aiTtimestamp => b.putTimestamp P (.ofMilliseconds value.truncated)
  | .aiTtime => b.putTime P (.ofMilliseconds value.truncated)
  | .aiInterval _ | .aiUnsupported => some b.unsupported

/-- `PutString` of a string that need not be the encoding of a text. A number is read from its
bytes as characters. -/
def putBytes (value : List UInt8) (b : ApplicationDataBuffer) : Option Put :=
  let characters := value.map fun byte => Char.ofNat byte.toNat
  match b.type with
  | .aiSignedTinyint | .aiBit | .aiUnsignedTinyint | .aiSignedShort | .aiUnsignedShort
  | .aiSignedLong | .aiUnsignedLong | .aiSignedBigint | .aiUnsignedBigint | .aiNumeric =>
    b.putNum P 8 (scanInt64 characters)
  | .aiFloat => some (b.putNumToFloatBuffer (.floatingOfText 4 characters) 4)
  | .aiDouble => some (b.putNumToFloatBuffer (.floatingOfText 8 characters) 8)
  | .aiChar | .aiBinary | .aiDefault => b.putStrToStrBuffer P .char value
  | .aiWchar => b.putStrToStrBuffer P .sqlWchar value
  | .aiTdate | .aiTtime | .aiTtimestamp | .aiInterval _ | .aiUnsupported => some b.unsupported

end ApplicationDataBuffer

/-! ## Scalars -/

/-- `"%4d-%2d-%2d"`. -/
def dateFormat : List ScanDirective :=
  [.int (some 4), .char '-', .int (some 2), .char '-', .int (some 2)]

/-- `"%2d:%2d:%2d.%9d"`. -/
def timeFormat : List ScanDirective :=
  [.int (some 2), .char ':', .int (some 2), .char ':', .int (some 2), .char '.', .int (some 9)]

/-- `"%4d-%2d-%2d %2d:%2d:%2d.%9d"`. -/
def timestampFormat : List ScanDirective := dateFormat ++ .space :: timeFormat

/-- `"%d-%d"`. -/
def yearMonthFormat : List ScanDirective := [.int none, .char '-', .int none]

/-- `"%d %2d:%2d:%2d.%9d"`. -/
def daySecondFormat : List ScanDirective := .int none :: .space :: timeFormat

/-- A cleared `struct tm` with the assigned members, and the year and the month shifted. -/
def tmOfScanned (assigned : List ℤ) : Tm where
  tmYear := assigned.getD 0 0 - 1900
  tmMon := assigned.getD 1 0 - 1
  tmMday := assigned.getD 2 0
  tmHour := assigned.getD 3 0
  tmMin := assigned.getD 4 0
  tmSec := assigned.getD 5 0

/-- The timestamp of a text. -/
def Timestamp.parse (uninitialised : ℕ → ℤ) (value : Text) : Timestamp :=
  let assigned := sscanf timestampFormat value
  ⟨timegm (tmOfScanned assigned), assigned.getD 6 (uninitialised 6)⟩

/-- The date of a text. -/
def Date.parse (value : Text) : Date := ⟨timegm (tmOfScanned (sscanf dateFormat value)) * 1000⟩

/-- The time of a text; the seconds are narrowed to an `int32_t`. -/
def Time.parse (uninitialised : ℕ → ℤ) (value : Text) : Time :=
  let assigned := sscanf timeFormat value
  let hour := assigned.getD 0 (uninitialised 0)
  let minute := assigned.getD 1 (uninitialised 1)
  let second := assigned.getD 2 (uninitialised 2)
  ⟨((hour * 60 + minute) * 60 + second).bmod (2 ^ 32), assigned.getD 3 (uninitialised 3)⟩

/-- The interval of years and months of a text. -/
def IntervalYearMonth.parse (uninitialised : ℕ → ℤ) (value : Text) : IntervalYearMonth :=
  let assigned := sscanf yearMonthFormat value
  ⟨assigned.getD 0 (uninitialised 0), assigned.getD 1 (uninitialised 1)⟩

/-- The interval of days to seconds of a text. -/
def IntervalDaySecond.parse (uninitialised : ℕ → ℤ) (value : Text) : IntervalDaySecond :=
  let assigned := sscanf daySecondFormat value
  ⟨assigned.getD 0 (uninitialised 0), assigned.getD 1 (uninitialised 1),
    assigned.getD 2 (uninitialised 2), assigned.getD 3 (uninitialised 3),
    assigned.getD 4 (uninitialised 4)⟩

/-- `ParseScalarType`; nothing when an exception leaves it. -/
def parseScalarType (P : ColumnPlatform) (scalarType : ScalarType) (value : Text)
    (dataBuf : ApplicationDataBuffer) : Option Put :=
  match scalarType with
  | .varchar => dataBuf.putString P.toPlatform value
  | .double => (P.stod value).bind fun number => dataBuf.putDouble P.toPlatform number
  | .boolean => dataBuf.putNum P.toPlatform 1 (if value = "true".toList then 1 else 0)
  | .integer => dataBuf.putNum P.toPlatform 4 (stringToInt value)
  | .bigint => dataBuf.putNum P.toPlatform 8 (stringToLong P.longSize value)
  | .notSet | .unknown => some dataBuf.putNull
  | .timestamp => dataBuf.putTimestamp P.toPlatform (.parse P.uninitialised value)
  | .date => dataBuf.putDate P.toPlatform (.parse value)
  | .time => dataBuf.putTime P.toPlatform (.parse P.uninitialised value)
  | .intervalYearToMonth =>
    dataBuf.putIntervalYearMonth P.toPlatform (.parse P.uninitialised value)
  | .intervalDayToSecond =>
    dataBuf.putIntervalDaySecond P.toPlatform (.parse P.uninitialised value)

/-! ## Composite values -/

/-- `TimeSeriesDataPoint`: the members that have been set. -/
structure TimeSeriesDataPoint (δ : Type) where
  time : Option Text
  value : Option δ

/-- A datum of the service. A row may come without its data, and a datum without any value. -/
inductive Datum where
  | scalar (value : Text)
  | timeSeries (points : List (TimeSeriesDataPoint Datum))
  | array (elements : List Datum)
  | row (data : Option (List Datum))
  | null
  | unset

/-- `BUFFER_SIZE`. -/
def bufferSize : ℕ := 1024

/-- The buffer of one element. -/
def tmpBuf : ApplicationDataBuffer := .new .aiChar true bufferSize true

/-- The characters in a cleared buffer after something was stored, up to the terminator. -/
def storedText : Option Stored → List UInt8
  | some (.units _ units) => cString (units.map Nat.toUInt8)
  | _ => []

/-- The characters in the buffer of an element after a conversion. -/
def Put.bufText (put : Put) : List UInt8 := storedText put.stored

/-- The bytes of an ASCII text of the source. -/
def literal (s : String) : List UInt8 := Utf8.encode s.toList

/-- The loop over the elements, which appends a comma after each, and `pop_back` of the last one. -/
def joinElements (texts : List (List UInt8)) : List UInt8 :=
  (texts.flatMap fun text => text ++ literal ",").dropLast

/-- The loop over the data points, and `pop_back` of the last comma. -/
def joinPoints (points : List (Option Text × List UInt8)) : List UInt8 :=
  (points.flatMap fun (time, text) => literal "\x7btime: " ++ Utf8.encode (time.getD []) ++
    literal ", value: " ++ text ++ literal "\x7d,").dropLast

/-- The text of an array. -/
def arrayText (texts : List (List UInt8)) : List UInt8 :=
  if texts = [] then [] else literal "[" ++ joinElements texts ++ literal "]"

/-- The text of a row. -/
def rowText (texts : List (List UInt8)) : List UInt8 :=
  literal "(" ++ joinElements texts ++ literal ")"

/-- The text of a time series. -/
def timeSeriesText (points : List (Option Text × List UInt8)) : List UInt8 :=
  literal "[" ++ joinPoints points ++ literal "]"

section Parse

variable (P : ColumnPlatform) (scalarType : ScalarType)

mutual

/-- `ParseDatum` with `ParseTimeSeriesType`, `ParseArrayType` and `ParseRowType`; nothing when an
exception leaves it. The results of the conversions of the elements are dropped. -/
def parseDatum : Datum → ApplicationDataBuffer → Option Put
  | .scalar value, dataBuf => parseScalarType P scalarType value dataBuf
  | .timeSeries points, dataBuf =>
    (parsePoints points).bind fun texts => dataBuf.putBytes P.toPlatform (timeSeriesText texts)
  | .array elements, dataBuf =>
    (parseElements elements).bind fun texts => dataBuf.putBytes P.toPlatform (arrayText texts)
  | .row none, dataBuf => some ⟨.aiNoData, none, none, dataBuf.cellOffset⟩
  | .row (some data), dataBuf =>
    (parseElements data).bind fun texts => dataBuf.putBytes P.toPlatform (rowText texts)
  | .null, dataBuf => some { dataBuf.putNull with result := .aiSuccess }
  | .unset, dataBuf => some ⟨.aiFailure, none, none, dataBuf.cellOffset⟩

/-- The texts of the elements of an array or a row. -/
def parseElements : List Datum → Option (List (List UInt8))
  | [] => some []
  | element :: elements =>
    (parseDatum element tmpBuf).bind fun put =>
      (parseElements elements).map fun texts => put.bufText :: texts

/-- The times and the texts of the values of a time series. -/
def parsePoints : List (TimeSeriesDataPoint Datum) → Option (List (Option Text × List UInt8))
  | [] => some []
  | ⟨time, none⟩ :: points => (parsePoints points).map fun texts => (time, []) :: texts
  | ⟨time, some value⟩ :: points =>
    (parseDatum value tmpBuf).bind fun put =>
      (parsePoints points).map fun texts => (time, put.bufText) :: texts

end

end Parse

/-! ## Columns -/

/-- What is used of a `ColumnInfo`: whether its type has been set, and the scalar type of the type,
if that has been set. -/
structure ColumnInfo where
  typeHasBeenSet : Bool
  scalarType : Option ScalarType
  deriving DecidableEq, Repr

/-- The scalar type that `ReadMetadata` gives to a column: a type that is no scalar type is taken for
`VARCHAR`. -/
def ColumnInfo.dataType (columnInfo : ColumnInfo) : ScalarType :=
  columnInfo.scalarType.getD .varchar

/-- `TimestreamColumn::ReadToBuffer`. -/
def readToBuffer (P : ColumnPlatform) (columnInfo : ColumnInfo) (datum : Datum)
    (dataBuf : ApplicationDataBuffer) : Option Put :=
  if columnInfo.typeHasBeenSet then parseDatum P columnInfo.dataType datum dataBuf
  else some ⟨.aiFailure, none, none, dataBuf.cellOffset⟩

/-- A datum as a value that is there or null. -/
def Datum.value? : Datum → Option Datum
  | .null => none
  | datum => some datum

/-- The columns of a data query of the service. -/
def timestreamColumns (P : ColumnPlatform) : TimestreamColumns Datum ColumnInfo where
  typeHasBeenSet := ColumnInfo.typeHasBeenSet
  parseValue := fun columnInfo datum dataBuf => parseDatum P columnInfo.dataType datum dataBuf

/-- Reading a datum is what the model of a data query takes it for. -/
lemma readToBuffer_eq (P : ColumnPlatform) (columnInfo : ColumnInfo) (datum : Datum)
    (dataBuf : ApplicationDataBuffer) :
    readToBuffer P columnInfo datum dataBuf =
      (timestreamColumns P).readToBuffer columnInfo datum.value? dataBuf := by
  unfold readToBuffer TimestreamColumns.readToBuffer timestreamColumns
  cases datum <;> rfl

end TimestreamOdbc
