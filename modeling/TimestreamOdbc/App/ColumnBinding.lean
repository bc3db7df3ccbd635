import TimestreamOdbc.App.PutText
import TimestreamOdbc.Query.DataQuery
import TimestreamOdbc.TypeTraits

/-!
# Bound columns

A buffer that the application bound to a column stays with the statement: the statement moves its
byte and element offsets from row to row, and every conversion leaves its cell offset in it.  What
the conversions did to the application's memory is kept as history, each with the offsets at which
it was done.
-/

namespace TimestreamOdbc

/-! ## Null values -/

/-- `SQL_NULL_DATA`. -/
def sqlNullData : ℤ := -1

namespace ApplicationDataBuffer

/-- `PutNull`. -/
def putNull (b : ApplicationDataBuffer) : Put :=
  ⟨if b.reslen then .aiSuccess else .aiIndicatorNeeded, none, b.resLen sqlNullData, b.cellOffset⟩

end ApplicationDataBuffer

/-- The value of a column of a catalog query, as the conversion that puts it: an optional string, an
optional number of 16 or 32 bits, or null. -/
inductive MetaValue where
  | string (value : Option Text)
  | int16 (value : Option ℤ)
  | int32 (value : Option ℤ)
  | null
  deriving DecidableEq, Repr

/-- `PutString`, `PutInt16`, `PutInt32` of an optional value, and `PutNull`. -/
def MetaValue.put (P : Platform) : MetaValue → ApplicationDataBuffer → Option Put
  | .string (some value), b => b.putString P value
  | .int16 (some value), b => b.putNum P 2 value
  | .int32 (some value), b => b.putNum P 4 value
  | .string none, b | .int16 none, b | .int32 none, b | .null, b => some b.putNull

/-! ## Bindings -/

/-- What one conversion did: the offsets of the buffer and the outcome. -/
structure Written where
  byteOffset : ℕ
  elementOffset : ℕ
  put : Put
  deriving DecidableEq, Repr

/-- An entry of the column bindings: the pointers of the application, the buffer they are given to,
and what was done through it so far. -/
structure ColumnBinding where
  targetValue : Option ℕ
  strLengthOrIndicator : Option ℕ
  buffer : ApplicationDataBuffer
  written : List Written
  deriving DecidableEq, Repr

namespace ColumnBinding

/-- A new binding. -/
def new (driverType : OdbcNativeType) (targetValue : Option ℕ) (bufferLength : ℕ)
    (strLengthOrIndicator : Option ℕ) : ColumnBinding :=
  { targetValue, strLengthOrIndicator
    buffer := .new driverType targetValue.isSome bufferLength strLengthOrIndicator.isSome
    written := [] }

/-- A buffer that is not bound, as a binding of its own. -/
def ofBuffer (buffer : ApplicationDataBuffer) : ColumnBinding :=
  { targetValue := none, strLengthOrIndicator := none, buffer, written := [] }

/-- `SetByteOffset`. -/
def setByteOffset (byteOffset : ℕ) (b : ColumnBinding) : ColumnBinding :=
  { b with buffer := { b.buffer with byteOffset } }

/-- `SetElementOffset`. -/
def setElementOffset (elementOffset : ℕ) (b : ColumnBinding) : ColumnBinding :=
  { b with buffer := { b.buffer with elementOffset } }

/-- A conversion into the buffer is done. -/
def deliver (put : Put) (b : ColumnBinding) : ColumnBinding :=
  { b with
    buffer := b.buffer.setCellOffset put.cellOffset
    written := b.written ++ [⟨b.buffer.byteOffset, b.buffer.elementOffset, put⟩] }

end ColumnBinding

/-- The columns that are bound by the application. -/
abbrev ColumnBindings := ColumnBindingMap ColumnBinding

namespace ColumnBindings

/-- All byte offsets are set. -/
def setByteOffset (byteOffset : ℕ) (columnBindings : ColumnBindings) : ColumnBindings :=
  fun i => (columnBindings i).map (ColumnBinding.setByteOffset byteOffset)

/-- All element offsets are set. -/
def setElementOffset (elementOffset : ℕ) (columnBindings : ColumnBindings) : ColumnBindings :=
  fun i => (columnBindings i).map (ColumnBinding.setElementOffset elementOffset)

end ColumnBindings

/-! ## Converting a datum -/

section ReadToBuffer

variable {δ γ : Type}

/-- What is known about the columns of a data query: whether the type of a column was set, and how a
value of the column that is not null is put into a buffer; nothing when that leaves by an
exception. -/
structure TimestreamColumns (δ γ : Type) where
  typeHasBeenSet : γ → Bool
  parseValue : γ → δ → ApplicationDataBuffer → Option Put

namespace TimestreamColumns

/-- `TimestreamColumn::ParseDatum`: a null datum is put as null, and the result of that is
dropped. -/
def parseDatum (C : TimestreamColumns δ γ) (column : γ) (datum : Option δ)
    (dataBuf : ApplicationDataBuffer) : Option Put :=
  match datum with
  | none => some { dataBuf.putNull with result := .aiSuccess }
  | some value => C.parseValue column value dataBuf

/-- `TimestreamColumn::ReadToBuffer`. -/
def readToBuffer (C : TimestreamColumns δ γ) (column : γ) (datum : Option δ)
    (dataBuf : ApplicationDataBuffer) : Option Put :=
  if C.typeHasBeenSet column then C.parseDatum column datum dataBuf
  else some ⟨.aiFailure, none, none, dataBuf.cellOffset⟩

/-- Reading a datum into a bound column. -/
def readToBinding (C : TimestreamColumns δ γ) (column : γ) (datum : Option δ)
    (b : ColumnBinding) : Option (ConversionResult × ColumnBinding) :=
  (C.readToBuffer column datum b.buffer).map fun put => (put.result, b.deliver put)

end TimestreamColumns

end ReadToBuffer

end TimestreamOdbc
