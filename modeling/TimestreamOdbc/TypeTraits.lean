import TimestreamOdbc.Utility

/-!
# Type traits

The codes of the SQL data types, the scalar types of the service, and what the driver tells about
them: the functions of `type_traits.cpp` that the catalog queries and the descriptors use.

A code that the application passes can be any 16-bit number, so that codes are integers here.
-/

namespace TimestreamOdbc

/-! ## Codes of SQL types -/

def sqlTypeNull : ℤ := 0
def sqlChar : ℤ := 1
def sqlNumeric : ℤ := 2
def sqlDecimal : ℤ := 3
def sqlInteger : ℤ := 4
def sqlSmallint : ℤ := 5
def sqlFloat : ℤ := 6
def sqlReal : ℤ := 7
def sqlDouble : ℤ := 8
def sqlDatetime : ℤ := 9
def sqlInterval : ℤ := 10
def sqlVarchar : ℤ := 12
def sqlTypeDate : ℤ := 91
def sqlTypeTime : ℤ := 92
def sqlTypeTimestamp : ℤ := 93
def sqlIntervalYearToMonth : ℤ := 107
def sqlIntervalDayToSecond : ℤ := 110
def sqlLongvarchar : ℤ := -1
def sqlBigint : ℤ := -5
def sqlTinyint : ℤ := -6
def sqlBit : ℤ := -7
def sqlWchar : ℤ := -8
def sqlWvarchar : ℤ := -9
def sqlWlongvarchar : ℤ := -10
def sqlGuid : ℤ := -11

/-- The codes of the character types. -/
def characterTypes : List ℤ :=
  [sqlVarchar, sqlWvarchar, sqlChar, sqlWchar, sqlLongvarchar, sqlWlongvarchar]

/-- `TIMESTREAM_SQL_MAX_LENGTH`. -/
def timestreamSqlMaxLength : ℤ := 65532

/-- `SqlTypeColumnSize`. -/
def sqlTypeColumnSize (type : ℤ) : ℤ :=
  if type ∈ characterTypes ++ [sqlDecimal, sqlNumeric] then timestreamSqlMaxLength
  else if type ∈ [sqlBit, sqlTypeNull] then 1
  else if type = sqlTinyint then 3
  else if type = sqlSmallint then 5
  else if type = sqlInteger then 10
  else if type = sqlBigint then 19
  else if type = sqlReal then 7
  else if type ∈ [sqlFloat, sqlDouble] then 15
  else if type = sqlTypeDate then 10
  else if type = sqlTypeTime then 8
  else if type = sqlTypeTimestamp then 19
  else if type = sqlGuid then 36
  else if type = sqlIntervalDayToSecond then 25
  else if type = sqlIntervalYearToMonth then 12
  else 0

/-- `SqlTypeTransferLength`. -/
def sqlTypeTransferLength (type : ℤ) : ℤ :=
  if type ∈ characterTypes ++ [sqlDecimal, sqlNumeric] then timestreamSqlMaxLength
  else if type ∈ [sqlBit, sqlTinyint, sqlTypeNull] then 1
  else if type = sqlSmallint then 2
  else if type = sqlInteger then 4
  else if type = sqlBigint then 8
  else if type ∈ [sqlFloat, sqlReal] then 4
  else if type = sqlDouble then 8
  else if type ∈ [sqlTypeDate, sqlTypeTime] then 6
  else if type = sqlTypeTimestamp then 16
  else if type = sqlGuid then 16
  else if type ∈ [sqlIntervalDayToSecond, sqlIntervalYearToMonth] then 34
  else 0

/-- `SqlTypePrecision`. -/
def sqlTypePrecision (type : ℤ) : ℤ :=
  if type ∈ [sqlDecimal, sqlNumeric] then 15
  else if type = sqlTinyint then 3
  else if type = sqlSmallint then 5
  else if type = sqlInteger then 10
  else if type = sqlBigint then 19
  else if type ∈ [sqlFloat, sqlReal, sqlDouble] then 15
  else if type = sqlTypeTime then 6
  else if type = sqlIntervalDayToSecond then 11
  else if type = sqlIntervalYearToMonth then 9
  else 0

/-- `SqlTypeScale`. -/
def sqlTypeScale (type : ℤ) : ℤ :=
  if type ∈ [sqlDecimal, sqlNumeric, sqlFloat, sqlReal, sqlDouble] then 15 else 0

/-- `SqlTypeNumPrecRadix`. -/
def sqlTypeNumPrecRadix (type : ℤ) : ℤ :=
  if type ∈ [sqlReal, sqlFloat, sqlDouble] then 2
  else if type ∈ [sqlBit, sqlTinyint, sqlSmallint, sqlInteger, sqlBigint] then 10
  else 0

/-- `SqlTypeDecimalDigits`. -/
def sqlTypeDecimalDigits (type : ℤ) : ℤ :=
  if type ∈ [sqlTinyint, sqlSmallint, sqlInteger, sqlBigint] then 0
  else if type = sqlDouble then 15
  else -1

/-- `SqlTypeCharOctetLength`. -/
def sqlTypeCharOctetLength (P : Platform) (type : ℤ) : ℤ :=
  if type ∈ [sqlChar, sqlVarchar, sqlLongvarchar] then timestreamSqlMaxLength
  else if type ∈ [sqlWchar, sqlWvarchar, sqlWlongvarchar] then
    P.sqlWcharSize * timestreamSqlMaxLength
  else 0

/-- `SqlTypeUnsigned` of a type that is there. -/
def sqlTypeUnsigned (type : ℤ) : Bool :=
  type ∉ [sqlBit, sqlTinyint, sqlSmallint, sqlInteger, sqlBigint, sqlReal, sqlFloat, sqlDouble]

/-! ## Scalar types of the service -/

/-- `ScalarType` of the query service. -/
inductive ScalarType where
  | notSet
  | varchar
  | boolean
  | bigint
  | double
  | timestamp
  | date
  | time
  | intervalDayToSecond
  | intervalYearToMonth
  | unknown
  | integer
  deriving DecidableEq, Repr

/-- `BinaryToSqlType`. -/
def binaryToSqlType : ScalarType → ℤ
  | .boolean => sqlBit
  | .integer => sqlInteger
  | .bigint => sqlBigint
  | .double => sqlDouble
  | .date => sqlTypeDate
  | .time => sqlTypeTime
  | .timestamp => sqlTypeTimestamp
  | .intervalDayToSecond => sqlIntervalDayToSecond
  | .intervalYearToMonth => sqlIntervalYearToMonth
  | .varchar | .notSet | .unknown => sqlVarchar

/-- `BinaryTypeToSqlTypeName`. -/
def binaryTypeToSqlTypeName : ScalarType → Text
  | .boolean => "BIT".toList
  | .integer => "INTEGER".toList
  | .bigint => "BIGINT".toList
  | .double => "DOUBLE".toList
  | .date => "DATE".toList
  | .time => "TIME".toList
  | .timestamp => "TIMESTAMP".toList
  | .intervalDayToSecond => "INTERVAL_DAY_TO_SECOND".toList
  | .intervalYearToMonth => "INTERVAL_YEAR_TO_MONTH".toList
  | .varchar => "VARCHAR".toList
  | .notSet => "NOT_SET".toList
  | .unknown => "UNKNOWN".toList

/-- The nullability of a column: `Nullability::Type`, which has the values of the SQL constants. -/
inductive Nullability where
  | noNull
  | nullable
  | nullabilityUnknown
  deriving DecidableEq, Repr

/-- The SQL constant of a nullability. -/
def Nullability.code : Nullability → ℤ
  | .noNull => 0
  | .nullable => 1
  | .nullabilityUnknown => 2

/-- `NullabilityToIsNullable`. -/
def nullabilityToIsNullable : Nullability → Option Text
  | .noNull => some "NO".toList
  | .nullable => some "YES".toList
  | .nullabilityUnknown => none

end TimestreamOdbc
