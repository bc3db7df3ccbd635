import TimestreamOdbc.Statement

/-!
# Descriptors

`Descriptor`: its header and its records, what an application sets in them, and what a copy leaves
of them.  A descriptor points at the connection and at the statement it is recorded for; both are
addresses, and nothing here looks at what is behind them.

A field comes with the value that the code casts the pointer argument to.  The members that the
constructors leave as they were are zero here: none of them is read before it is set.
-/

namespace TimestreamOdbc

/-- The address of a statement. -/
abbrev StatementId := ℕ

/-- The address of a connection. -/
abbrev ConnectionId := ℕ

/-- `DescType`. -/
inductive DescType where
  | ard
  | apd
  | ird
  | ipd
  | unknown
  deriving DecidableEq, Repr

/-- `DescriptorHeader`. -/
structure DescriptorHeader where
  allocType : ℤ
  arraySize : ℕ
  arrayStatusPtr : Option ℕ
  bindOffsetPtr : Option ℕ
  bindType : ℤ
  count : ℤ
  rowsetSize : ℕ
  rowsProcessedPtr : Option ℕ
  deriving DecidableEq, Repr

/-- The header that `memset` leaves. -/
def DescriptorHeader.zero : DescriptorHeader :=
  ⟨0, 0, none, none, 0, 0, 0, none⟩

/-- `DescriptorRecord`, without the fields that nothing sets. -/
structure DescriptorRecord where
  conciseType : ℤ
  dataPtr : Option ℕ
  datetimeIntervalCode : ℤ
  datetimeIntervalPrecision : ℤ
  indicatorPtr : Option ℕ
  length : ℕ
  octetLength : ℤ
  octetLengthPtr : Option ℕ
  precision : ℤ
  scale : ℤ
  type : ℤ
  deriving DecidableEq, Repr

/-- The record that the map makes for a number it does not have yet. -/
def DescriptorRecord.zero : DescriptorRecord :=
  ⟨0, none, 0, 0, none, 0, 0, none, 0, 0, 0⟩

/-- `Descriptor`. -/
structure Descriptor where
  type : DescType
  conn : Option ConnectionId
  stmt : Option StatementId
  header : DescriptorHeader
  records : ℤ → Option DescriptorRecord

/-! ## Codes -/

/-- `SQL_DESC_ALLOC_AUTO`, `SQL_DESC_ALLOC_USER` and `SQL_BIND_BY_COLUMN`. -/
def sqlDescAllocAuto : ℤ := 1
def sqlDescAllocUser : ℤ := 2
def sqlBindByColumn : ℤ := 0

/-- `SQL_NTS` and `SQL_IS_POINTER`. -/
def sqlNts : ℤ := -3
def sqlIsPointer : ℤ := -4

/-- The codes of the date, time and interval types. -/
def sqlCodeDate : ℤ := 1
def sqlCodeTime : ℤ := 2
def sqlCodeTimestamp : ℤ := 3
def sqlCodeYearToMonth : ℤ := 7
def sqlCodeDayToSecond : ℤ := 10

/-- `SQLTypeToString`. -/
def sqlTypeToString (type : ℤ) : String :=
  match [(sqlChar, "SQL_CHAR"), (sqlVarchar, "SQL_VARCHAR"), (sqlLongvarchar, "SQL_LONGVARCHAR"),
    (sqlWchar, "SQL_WCHAR"), (sqlWvarchar, "SQL_WVARCHAR"), (sqlWlongvarchar, "SQL_WLONGVARCHAR"),
    (sqlDecimal, "SQL_DECIMAL"), (sqlNumeric, "SQL_NUMERIC"), (sqlSmallint, "SQL_SMALLINT"),
    (sqlInteger, "SQL_INTEGER"), (sqlReal, "SQL_REAL"), (sqlFloat, "SQL_FLOAT"),
    (sqlDouble, "SQL_DOUBLE"), (sqlBit, "SQL_BIT"), (sqlTinyint, "SQL_TINYINT"),
    (sqlBigint, "SQL_BIGINT"), (sqlTypeDate, "SQL_TYPE_DATE"), (sqlTypeTime, "SQL_TYPE_TIME"),
    (sqlTypeTimestamp, "SQL_TYPE_TIMESTAMP"), (101, "SQL_INTERVAL_YEAR"),
    (102, "SQL_INTERVAL_MONTH"), (103, "SQL_INTERVAL_DAY"), (104, "SQL_INTERVAL_HOUR"),
    (105, "SQL_INTERVAL_MINUTE"), (106, "SQL_INTERVAL_SECOND"),
    (sqlIntervalYearToMonth, "SQL_INTERVAL_YEAR_TO_MONTH"), (108, "SQL_INTERVAL_DAY_TO_HOUR"),
    (109, "SQL_INTERVAL_DAY_TO_MINUTE"), (sqlIntervalDayToSecond, "SQL_INTERVAL_DAY_TO_SECOND"),
    (111, "SQL_INTERVAL_HOUR_TO_MINUTE"), (112, "SQL_INTERVAL_HOUR_TO_SECOND"),
    (113, "SQL_INTERVAL_MINUTE_TO_SECOND"), (sqlDatetime, "SQL_DATETIME"),
    (sqlInterval, "SQL_INTERVAL"), (sqlGuid, "SQL_GUID")].lookup type with
  | some name => name
  | none => toString type

/-- `IntervalCodeToString`. -/
def intervalCodeToString (code : ℤ) : String :=
  match [(sqlCodeDate, "SQL_CODE_DATE"), (sqlCodeTime, "SQL_CODE_TIME"),
    (sqlCodeTimestamp, "SQL_CODE_TIMESTAMP"), (8, "SQL_CODE_DAY_TO_HOUR"),
    (9, "SQL_CODE_DAY_TO_MINUTE"), (sqlCodeDayToSecond, "SQL_CODE_DAY_TO_SECOND"),
    (4, "SQL_CODE_HOUR"), (11, "SQL_CODE_HOUR_TO_MINUTE"), (12, "SQL_CODE_HOUR_TO_SECOND"),
    (5, "SQL_CODE_MINUTE"), (13, "SQL_CODE_MINUTE_TO_SECOND"), (6, "SQL_CODE_SECOND"),
    (sqlCodeYearToMonth, "SQL_CODE_YEAR_TO_MONTH")].lookup code with
  | some name => name
  | none => toString code

/-- A number as the code stores it in a `SQLULEN`. -/
def toSqlUlen (n : ℤ) : ℕ := (n % 2 ^ 64).toNat

/-- A `SQLULEN` as the code stores it in a `SQLLEN`. -/
def toSqlLen (n : ℕ) : ℤ := (BitVec.ofNat 64 n).toInt

/-- A column number as the code stores it in a `SQLSMALLINT`. -/
def toSqlSmallint (n : ℕ) : ℤ := (BitVec.ofNat 16 n).toInt

/-- A record number as the code passes it for a column number. -/
def toColumnIdx (recNum : ℤ) : ℕ := (recNum % 2 ^ 16).toNat

/-! ## Types of a record -/

namespace DescriptorRecord

/-- The types that `IsValidConciseType` and `IsValidType` share. -/
def commonTypes : List ℤ :=
  [sqlChar, sqlVarchar, sqlLongvarchar, sqlWchar, sqlWvarchar, sqlWlongvarchar, sqlDecimal,
    sqlNumeric, sqlSmallint, sqlInteger, sqlReal, sqlFloat, sqlDouble, sqlBit, sqlTinyint,
    sqlBigint]

/-- `IsValidConciseType`. -/
def isValidConciseType (value : ℤ) : Bool :=
  value ∈ commonTypes ++ [sqlTypeDate, sqlTypeTime, sqlTypeTimestamp, sqlIntervalYearToMonth,
    sqlIntervalDayToSecond]

/-- `IsValidType`. -/
def isValidType (value : ℤ) : Bool :=
  value ∈ commonTypes ++ [sqlDatetime, sqlInterval]

/-- `IsValidIntervalCode`. -/
def isValidIntervalCode (record : DescriptorRecord) (value : ℤ) : Bool :=
  if record.type = sqlDatetime then value ∈ [sqlCodeDate, sqlCodeTime, sqlCodeTimestamp]
  else if record.type = sqlInterval then value ∈ [sqlCodeYearToMonth, sqlCodeDayToSecond]
  else false

/-- `SetConciseType`. -/
def setConciseType (value : ℤ) (record : DescriptorRecord) : DescriptorRecord :=
  if value = sqlTypeDate then
    { record with conciseType := value, type := sqlDatetime, datetimeIntervalCode := sqlCodeDate }
  else if value = sqlTypeTime then
    { record with conciseType := value, type := sqlDatetime, datetimeIntervalCode := sqlCodeTime }
  else if value = sqlTypeTimestamp then
    { record with
      conciseType := value, type := sqlDatetime, datetimeIntervalCode := sqlCodeTimestamp }
  else if value = sqlIntervalYearToMonth then
    { record with
      conciseType := value, type := sqlInterval, datetimeIntervalCode := sqlCodeYearToMonth }
  else if value = sqlIntervalDayToSecond then
    { record with
      conciseType := value, type := sqlInterval, datetimeIntervalCode := sqlCodeDayToSecond }
  else { record with conciseType := value, type := value, datetimeIntervalCode := 0 }

/-- `SetDescType`. -/
def setDescType (value : ℤ) (record : DescriptorRecord) : DescriptorRecord :=
  let record := { record with type := value }
  let record :=
    if value ≠ sqlDatetime ∧ value ≠ sqlInterval then
      { record with conciseType := value, datetimeIntervalCode := 0 }
    else record
  if value = sqlChar ∨ value = sqlVarchar then { record with length := 1, precision := 0 }
  else if value = sqlDatetime then
    if record.datetimeIntervalCode = sqlCodeDate ∨ record.datetimeIntervalCode = sqlCodeTime then
      { record with precision := 0 }
    else if record.datetimeIntervalCode = sqlCodeTimestamp then { record with precision := 6 }
    else record
  else if value = sqlDecimal ∨ value = sqlNumeric then { record with scale := 0, precision := 15 }
  else if value = sqlFloat then { record with precision := 6 }
  else if value = sqlInterval then
    if record.datetimeIntervalCode = sqlCodeYearToMonth then { record with precision := 2 }
    else if record.datetimeIntervalCode = sqlCodeDayToSecond then { record with precision := 6 }
    else record
  else record

end DescriptorRecord

/-! ## Setting a field -/

/-- The identifier of a field, with the value it is set to. -/
inductive DescriptorField where
  | header
  | conciseType (value : ℤ)
  | dataPtr (buffer : Option ℕ)
  | datetimeIntervalCode (code : ℤ)
  | datetimeIntervalPrecision (value : ℤ)
  | indicatorPtr (buffer : Option ℕ)
  | octetLengthPtr (buffer : Option ℕ)
  | octetLength (value : ℕ)
  | length (value : ℕ)
  | type (value : ℤ)
  | unsupported (fieldId : ℤ)
  deriving DecidableEq, Repr

/-- A call that fails with a record. -/
def CallReply.error (sqlState : SqlState) (message : String) : CallReply :=
  ⟨.aiError, [statusRecord sqlState message]⟩

/-- A call that succeeds and reports nothing. -/
def CallReply.success : CallReply := ⟨.aiSuccess, []⟩

namespace DescriptorRecord

/-- The switch of `InternalSetField` on the record it is about. -/
def setField (field : DescriptorField) (bufferLen : ℤ) (record : DescriptorRecord) :
    CallReply × DescriptorRecord :=
  match field with
  | .header => (.error .sHY091InvalidDescrFieldId "Invalid descriptor field id", record)
  | .conciseType value =>
    if isValidConciseType value then (.success, record.setConciseType value)
    else (.error .sHY000GeneralError ("Invalid concise type " ++ sqlTypeToString value), record)
  | .dataPtr none => (.success, { record with length := 0, octetLength := 0 })
  | .dataPtr (some buffer) =>
    (.success, { record with
      dataPtr := some buffer, length := toSqlUlen bufferLen, octetLength := bufferLen })
  | .datetimeIntervalCode code =>
    if record.isValidIntervalCode code then (.success, { record with datetimeIntervalCode := code })
    else
      (.error .sHY000GeneralError ("Invalid interval code " ++ intervalCodeToString code ++
        " for type " ++ sqlTypeToString record.type), record)
  | .datetimeIntervalPrecision value =>
    if record.type = sqlInterval then
      (.success, { record with datetimeIntervalPrecision := value })
    else
      (.error .sHY000GeneralError
        "Interval precision could only be set when SQL_DESC_TYPE is set to SQL_INTERVAL", record)
  | .indicatorPtr buffer => (.success, { record with indicatorPtr := buffer })
  | .octetLengthPtr buffer => (.success, { record with octetLengthPtr := buffer })
  | .octetLength value | .length value =>
    if record.conciseType ∈ characterTypes then
      (.success, { record with length := value, octetLength := toSqlLen value })
    else
      (.error .sHY000GeneralError ("SQL_DESC_LENGTH could not be set for fixed length type " ++
        sqlTypeToString record.conciseType), record)
  | .type value =>
    if isValidType value then (.success, record.setDescType value)
    else (.error .sHY000GeneralError ("Invalid type " ++ sqlTypeToString value), record)
  | .unsupported fieldId =>
    (.error .sHY000GeneralError ("Unsupported fieldId " ++ toString fieldId), record)

end DescriptorRecord

namespace Descriptor

/-- The constructor. -/
def new : Descriptor :=
  ⟨.unknown, none, none, .zero, fun _ => none⟩

/-- `InitAppHead`. -/
def initAppHead (implicit : Bool) (d : Descriptor) : Descriptor :=
  { d with header := { d.header with
      allocType := if implicit then sqlDescAllocAuto else sqlDescAllocUser
      arraySize := 1
      arrayStatusPtr := none
      bindOffsetPtr := none
      bindType := sqlBindByColumn
      count := 0 } }

/-- `InitImpHead`. -/
def initImpHead (d : Descriptor) : Descriptor :=
  { d with header := { d.header with
      allocType := sqlDescAllocAuto
      arrayStatusPtr := none
      count := 0
      rowsProcessedPtr := none } }

/-- A record is replaced. -/
def setRecord (recNum : ℤ) (record : DescriptorRecord) (d : Descriptor) : Descriptor :=
  { d with records := Function.update d.records recNum (some record) }

/-- The record of a number, which is made when it is not there. -/
def record (recNum : ℤ) (d : Descriptor) : DescriptorRecord :=
  (d.records recNum).getD .zero

/-- The check of the length argument of `InternalSetField`. -/
def lengthRefused (bufferLen : ℤ) : Bool :=
  bufferLen < 0 ∧ bufferLen ≠ sqlNts ∧ bufferLen ≠ sqlIsPointer

/-- `InternalSetField`, less the unbinding of a column whose data pointer is set to null. -/
def internalSetField (recNum : ℤ) (field : DescriptorField) (bufferLen : ℤ) (d : Descriptor) :
    CallReply × Descriptor :=
  if lengthRefused bufferLen then
    (.error .sHY000GeneralError ("Invalid buffer length " ++ toString bufferLen), d)
  else
    let (reply, record) := (d.record recNum).setField field bufferLen
    (reply, d.setRecord recNum record)

/-- Whether `InternalSetField` unbinds the column of its record number. -/
def unbindsColumn (field : DescriptorField) (bufferLen : ℤ) : Bool :=
  field = .dataPtr none ∧ !lengthRefused bufferLen

/-- `InternalCopyDesc`: what it makes of the destination. The header is not copied. The records of
the destination are cleared before they are copied, so that a descriptor that is copied to itself
has none to copy. -/
def internalCopyDesc (d dst : Descriptor) : CallReply × Descriptor :=
  if dst.type = .ird then
    (.error .sHY016ModifyIrd "Cannot modify an implementation row descriptor", dst)
  else
    let dst := { dst with header := .zero }
    let dst := if d.type = .ard ∨ d.type = .apd then dst.initAppHead true else dst.initImpHead
    (.success,
      { dst with type := d.type, conn := d.conn, stmt := d.stmt, records := d.records })

end Descriptor

end TimestreamOdbc
