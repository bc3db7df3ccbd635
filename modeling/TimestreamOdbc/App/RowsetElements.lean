import TimestreamOdbc.App.TimestreamColumn
import Mathlib

/-!
# Elements of a rowset

Where the conversions of a rowset write.  A row has a place in the arrays of the application, which
comes from the offset of the statement and the size `GetElementSize` gives to the type; how much is
written there comes from the conversions.
-/

namespace TimestreamOdbc

/-! ## Binding a column -/

/-- `ToDriverType` of a C type. -/
def toDriverType (type : ℤ) : OdbcNativeType :=
  if type = 1 then .aiChar
  else if type = -8 then .aiWchar
  else if type = -15 ∨ type = 5 then .aiSignedShort
  else if type = -17 then .aiUnsignedShort
  else if type = -16 ∨ type = 4 then .aiSignedLong
  else if type = -18 then .aiUnsignedLong
  else if type = 7 then .aiFloat
  else if type = 8 then .aiDouble
  else if type = -7 then .aiBit
  else if type = -26 ∨ type = -6 then .aiSignedTinyint
  else if type = -28 then .aiUnsignedTinyint
  else if type = -25 then .aiSignedBigint
  else if type = -27 then .aiUnsignedBigint
  else if type = -2 then .aiBinary
  else if type = 9 ∨ type = 91 then .aiTdate
  else if type = 10 ∨ type = 92 then .aiTtime
  else if type = 11 ∨ type = 93 then .aiTtimestamp
  else if type = 2 then .aiNumeric
  else if type = 99 then .aiDefault
  else if type = 101 then .aiInterval .year
  else if type = 102 then .aiInterval .month
  else if type = 103 then .aiInterval .day
  else if type = 104 then .aiInterval .hour
  else if type = 105 then .aiInterval .minute
  else if type = 106 then .aiInterval .second
  else if type = 107 then .aiInterval .yearToMonth
  else if type = 108 then .aiInterval .dayToHour
  else if type = 109 then .aiInterval .dayToMinute
  else if type = 110 then .aiInterval .dayToSecond
  else if type = 111 then .aiInterval .hourToMinute
  else if type = 112 then .aiInterval .hourToSecond
  else if type = 113 then .aiInterval .minuteToSecond
  else .aiUnsupported

/-- What `InternalBindColumn` does to the binding of the column. -/
inductive BindOutcome where
  | rejected (diagnostic : DiagnosticRecord)
  | bound (binding : ColumnBinding)
  | unbound
  deriving DecidableEq

/-- `InternalBindColumn`; the pointers are there or null. -/
def internalBindColumn (targetType : ℤ) (targetValue : Option ℕ) (bufferLength : ℤ)
    (strLengthOrIndicator : Option ℕ) : BindOutcome :=
  let driverType := toDriverType targetType
  if driverType = .aiUnsupported then
    .rejected (statusRecord .sHY003InvalidApplicationBufferType
      "The argument TargetType was not a valid data type.")
  else if bufferLength < 0 ∨
      bufferLength = 0 ∧ (driverType = .aiChar ∨ driverType = .aiWchar) then
    .rejected (statusRecord .sHY090InvalidStringOrBufferLength
      "The value specified for the argument BufferLength was less than 0 or 0 for string types.")
  else if targetValue.isSome ∨ strLengthOrIndicator.isSome then
    .bound (.new driverType targetValue bufferLength.toNat strLengthOrIndicator)
  else .unbound

/-- A buffer that was bound. -/
lemma buffer_of_bound {targetType bufferLength : ℤ} {targetValue strLengthOrIndicator : Option ℕ}
    {binding : ColumnBinding}
    (h : internalBindColumn targetType targetValue bufferLength strLengthOrIndicator =
      .bound binding) :
    binding.buffer = .new (toDriverType targetType) targetValue.isSome bufferLength.toNat
        strLengthOrIndicator.isSome ∧
      0 ≤ bufferLength ∧
      (toDriverType targetType = .aiChar ∨ toDriverType targetType = .aiWchar →
        0 < bufferLength) := by
  unfold internalBindColumn at h
  dsimp only at h
  split_ifs at h with htype hlength hpointers
  obtain rfl := BindOutcome.bound.inj h
  refine ⟨rfl, by omega, ?_⟩
  intro hchars
  by_contra hnot
  exact hlength (.inr ⟨by omega, hchars⟩)

/-! ## The place of a row -/

namespace OdbcNativeType

/-- The size of the C types with a fixed size. -/
def cSize : OdbcNativeType → ℕ
  | .aiSignedTinyint | .aiUnsignedTinyint | .aiBit => 1
  | .aiSignedShort | .aiUnsignedShort => 2
  | .aiSignedLong | .aiUnsignedLong | .aiFloat => 4
  | .aiSignedBigint | .aiUnsignedBigint | .aiDouble => 8
  | .aiTdate => sizeOfDateStruct
  | .aiTtime => sizeOfTimeStruct
  | .aiTtimestamp => sizeOfTimestampStruct
  | .aiNumeric => sizeOfNumericStruct
  | .aiInterval _ => sizeOfIntervalStruct
  | .aiChar | .aiWchar | .aiBinary | .aiDefault | .aiUnsupported => 0

/-- The interval types. -/
def IsInterval (type : OdbcNativeType) : Prop := ∃ kind, type = .aiInterval kind

end OdbcNativeType

namespace ApplicationDataBuffer

/-- `GetElementSize`. -/
def getElementSize (b : ApplicationDataBuffer) : ℕ :=
  match b.type with
  | .aiWchar | .aiChar | .aiBinary => b.buflen
  | .aiSignedShort | .aiUnsignedShort => 2
  | .aiSignedLong | .aiUnsignedLong => 4
  | .aiFloat => 4
  | .aiDouble => 8
  | .aiSignedTinyint | .aiBit | .aiUnsignedTinyint => 1
  | .aiSignedBigint | .aiUnsignedBigint => 8
  | .aiTdate => sizeOfDateStruct
  | .aiTtime => sizeOfTimeStruct
  | .aiTtimestamp => sizeOfTimestampStruct
  | .aiNumeric => sizeOfNumericStruct
  | .aiInterval _ | .aiDefault | .aiUnsupported => 0

/-- The offset `ApplyOffset` adds to a pointer. -/
def applyOffset (elemSize : ℕ) (b : ApplicationDataBuffer) : ℕ :=
  b.byteOffset + elemSize * b.elementOffset

/-- A buffer in a row of a rowset. -/
def inRow (byteOffset row : ℕ) (cellOffset : ℤ) (b : ApplicationDataBuffer) :
    ApplicationDataBuffer :=
  { b with byteOffset, cellOffset, elementOffset := row }

end ApplicationDataBuffer

/-- The first byte of a stored object, and the one behind it, from the data pointer on. -/
def Stored.extent : Stored → ℤ × ℤ
  | .units unitSize codes => (0, unitSize * codes.length)
  | .nullBefore => (-1, 0)
  | .scalar size _ | .floating size _ | .floatingOfText size _ => (0, size)
  | .raw bytes => (0, bytes.length)
  | .numeric .. => (0, sizeOfNumericStruct)
  | .date .. => (0, sizeOfDateStruct)
  | .time .. => (0, sizeOfTimeStruct)
  | .timestamp .. => (0, sizeOfTimestampStruct)
  | .interval .. => (0, sizeOfIntervalStruct)

/-- The bytes that a conversion writes to the data, counted from the pointer that was bound. -/
def ApplicationDataBuffer.writtenData (b : ApplicationDataBuffer) (put : Put) : Set ℤ :=
  {a | ∃ stored, put.stored = some stored ∧
    a ∈ Set.Ico (b.applyOffset b.getElementSize + stored.extent.1)
      (b.applyOffset b.getElementSize + stored.extent.2)}

/-- The bytes that a conversion writes to the indicator, which is a `SqlLen`. -/
def ApplicationDataBuffer.writtenIndicator (sqlLenSize : ℕ) (b : ApplicationDataBuffer)
    (put : Put) : Set ℤ :=
  {a | put.indicator.isSome ∧
    a ∈ Set.Ico (b.applyOffset sqlLenSize : ℤ) (b.applyOffset sqlLenSize + sqlLenSize)}

/-! ## The conversions -/

/-- What is used of a `Decimal`. -/
structure Decimal where
  toInt64 : ℤ
  toDouble : Floating
  printed : Text
  precision : ℕ
  sign : ℕ
  magnitude : ℕ

namespace ApplicationDataBuffer

variable (P : Platform)

/-- `PutFloat`: a `float` differs from the `double` of the same value in its object. -/
def putFloat (value : Floating) (object : List UInt8) (b : ApplicationDataBuffer) : Option Put :=
  match b.type with
  | .aiBinary | .aiDefault =>
    some ⟨if b.buflen < object.length then .aiVarlenDataTruncated else .aiSuccess,
      if b.buffer then some (.raw (object.take b.buflen)) else none, b.resLen object.length,
      b.cellOffset⟩
  | _ => b.putDouble P value

/-- `PutDecimal`. -/
def putDecimal (value : Decimal) (b : ApplicationDataBuffer) : Option Put :=
  match b.type with
  | .aiSignedTinyint | .aiBit | .aiUnsignedTinyint | .aiSignedShort | .aiUnsignedShort
  | .aiSignedLong | .aiUnsignedLong | .aiSignedBigint | .aiUnsignedBigint =>
    (b.putNum P 8 value.toInt64).map fun put => { put with result := .aiFractionalTruncated }
  | .aiFloat | .aiDouble =>
    (b.putDouble P value.toDouble).map fun put => { put with result := .aiFractionalTruncated }
  | .aiChar | .aiWchar => b.putBytes P (Utf8.encode value.printed)
  | .aiNumeric =>
    -- the magnitude has more bytes than `SQL_MAX_NUMERIC_LEN`
    let result := if 256 ^ 16 ≤ value.magnitude then ConversionResult.aiFractionalTruncated
      else .aiSuccess
    b.putStruct result (.numeric value.precision 0 value.sign (value.magnitude % 256 ^ 16))
      sizeOfNumericStruct
  | _ => some b.unsupported

end ApplicationDataBuffer

/-- A value that is put into a buffer. A `float` comes with its object. -/
inductive PutValue where
  | string (value : List UInt8)
  | integer (size : ℕ) (value : ℤ)
  | float (value : Floating) (object : List UInt8) (length_object : object.length = 4)
  | double (value : Floating)
  | decimal (value : Decimal)
  | temporal (value : TemporalValue)
  | null

namespace PutValue

/-- The conversion of a value. -/
def put (P : Platform) : PutValue → ApplicationDataBuffer → Option Put
  | string value, b => b.putBytes P value
  | integer size value, b => b.putNum P size value
  | float value object _, b => b.putFloat P value object
  | double value, b => b.putDouble P value
  | decimal value, b => b.putDecimal P value
  | temporal value, b => value.put P b
  | null, b => some b.putNull

/-- The size of an element of the C type that a value has by default; texts and decimals are
characters. -/
def defaultSize (buflen : ℕ) : PutValue → ℕ
  | string _ | decimal _ => buflen
  | integer size _ => size
  | float .. => 4
  | double _ => 8
  | temporal (.date _) => sizeOfDateStruct
  | temporal (.time _) => sizeOfTimeStruct
  | temporal (.timestamp _) => sizeOfTimestampStruct
  | temporal (.intervalYearMonth _) | temporal (.intervalDaySecond _) => sizeOfIntervalStruct
  | null => 0

end PutValue

/-- The size of an element of an array of the application: the length of the buffer for characters and
bytes, and the size of the C type otherwise. -/
def ApplicationDataBuffer.elementSize (b : ApplicationDataBuffer) (value : PutValue) : ℕ :=
  match b.type with
  | .aiChar | .aiWchar | .aiBinary => b.buflen
  | .aiDefault => value.defaultSize b.buflen
  | type => type.cSize

/-! ## How much is written -/

/-- What is stored is stored in a buffer, and within a number of bytes from the data pointer on. -/
def Put.FitsIn (put : Put) (b : ApplicationDataBuffer) (size : ℕ) : Prop :=
  ∀ stored, put.stored = some stored →
    b.buffer = true ∧ 0 ≤ stored.extent.1 ∧ stored.extent.2 ≤ size

namespace Put.FitsIn

variable {put : Put} {b : ApplicationDataBuffer} {size : ℕ}

lemma of_none (h : put.stored = none) : put.FitsIn b size := by
  intro stored hstored
  exact absurd (h.symm.trans hstored) (by simp)

/-- An object that begins at the data pointer. -/
lemma of_some (object : Stored) (hbuffer : b.buffer = true) (h : put.stored = some object)
    (hfirst : object.extent.1 = 0) (hlast : object.extent.2 ≤ size) : put.FitsIn b size := by
  intro stored hstored
  obtain rfl := Option.some.inj (h.symm.trans hstored)
  exact ⟨hbuffer, hfirst.ge, hlast⟩

/-- An object that is stored if there is a buffer. -/
lemma of_ite {object : Stored} (h : put.stored = if b.buffer then some object else none)
    (hfirst : object.extent.1 = 0) (hlast : object.extent.2 ≤ size) : put.FitsIn b size := by
  by_cases hbuffer : b.buffer = true
  · rw [if_pos hbuffer] at h
    exact of_some object hbuffer h hfirst hlast
  · rw [if_neg hbuffer] at h
    exact of_none h

/-- The bytes may be more. -/
lemma mono {size' : ℕ} (h : put.FitsIn b size) (hle : size ≤ size') : put.FitsIn b size' := by
  intro stored hstored
  obtain ⟨hbuffer, hfirst, hlast⟩ := h stored hstored
  refine ⟨hbuffer, hfirst, hlast.trans ?_⟩
  exact_mod_cast hle

end Put.FitsIn

/-- A copy stays within the length of the buffer. -/
lemma length_of_copyUtf8String {P : Platform} (outChar : OutChar) {inBuffer : List UInt8}
    {outBufferLenBytes : ℕ} {copied : Copied} {units : List ℕ}
    (h : copyUtf8String P outChar inBuffer outBufferLenBytes = some copied)
    (hstored : copied.stored = some units) :
    outChar.size P * units.length ≤ outBufferLenBytes := by
  cases outChar with
  | char =>
    simp only [copyUtf8String, copyUtf8StringToSqlCharString, Bool.not_true, Bool.false_eq_true,
      if_false] at h
    rw [OutChar.size_char, Nat.one_mul]
    split at h
    · split at h
      · obtain rfl := Option.some.inj h
        dsimp only at hstored
        split at hstored
        · obtain rfl := Option.some.inj hstored
          simp only [List.length_append, List.length_map, List.length_take, List.length_singleton]
          omega
        · exact absurd hstored (by simp)
      · obtain rfl := Option.some.inj h
        obtain rfl := Option.some.inj hstored
        simp only [List.length_append, List.length_map, List.length_singleton]
        omega
    · obtain ⟨inString, -, rfl⟩ := Option.map_eq_some_iff.mp h
      dsimp only at hstored
      by_cases hpos : 0 < outBufferLenBytes
      · simp only [hpos, if_true] at hstored
        split at hstored
        · obtain rfl := Option.some.inj hstored
          simp only [List.length_append, List.length_map, List.length_take, List.length_singleton]
          omega
        · exact absurd hstored (by simp)
      · simp only [hpos, if_false, Nat.lt_irrefl] at hstored
        exact absurd hstored (by simp)
  | sqlWchar =>
    obtain rfl := Option.some.inj h
    unfold copyUtf8StringToWcharString at hstored
    split at hstored
    · exact absurd hstored (by simp)
    · dsimp only at hstored
      split at hstored
      · next hdirect =>
        obtain rfl := Option.some.inj hstored
        simp only [Bool.true_and, decide_eq_true_eq] at hdirect
        have hsize := P.sqlWcharSize_pos
        have hroom : 1 ≤ outBufferLenBytes / P.sqlWcharSize :=
          (Nat.one_le_div_iff hsize).mpr hdirect.le
        have hconverted := Utf8.length_convert_le (unitFits P.sqlWcharSize)
          (outBufferLenBytes / P.sqlWcharSize - 1) (cString inBuffer)
        rw [OutChar.size_sqlWchar, Nat.mul_comm]
        refine le_trans (Nat.mul_le_mul_right _ ?_) (Nat.div_mul_le_self _ P.sqlWcharSize)
        simp only [List.length_append, List.length_map, List.length_singleton]
        omega
      · exact absurd hstored (by simp)

section FitsIn

variable {P : Platform} {b : ApplicationDataBuffer} {put : Put}

lemma fitsIn_putStrToStrBuffer {outChar : OutChar} {value : List UInt8}
    (h : b.putStrToStrBuffer P outChar value = some put) : put.FitsIn b b.buflen := by
  obtain ⟨required, -, h⟩ := Option.bind_eq_some_iff.mp h
  split at h
  · obtain rfl := Option.some.inj h
    exact .of_none rfl
  · next hbuffer =>
    dsimp only at h
    split at h
    · obtain rfl := Option.some.inj h
      exact .of_none rfl
    · obtain ⟨copied, hcopied, hput⟩ := Option.map_eq_some_iff.mp h
      have hstored : put.stored = copied.stored.map (Stored.units (outChar.size P)) := by
        rw [← hput]
        split <;> rfl
      rcases hunits : copied.stored with _ | units
      · exact .of_none (by rw [hstored, hunits]; rfl)
      · apply Put.FitsIn.of_some (.units (outChar.size P) units)
        · simpa using hbuffer
        · rw [hstored, hunits]
          rfl
        · rfl
        · have := length_of_copyUtf8String outChar hcopied hunits
          simp only [Stored.extent]
          exact_mod_cast this

lemma fitsIn_putCharText (hpos : 0 < b.buflen) (tmpStr : Text) (valLen : ℕ) :
    (b.putCharText tmpStr valLen).FitsIn b b.buflen := by
  have hlength : (strncpy tmpStr (min valLen b.buflen)).length = min valLen b.buflen := by
    simp only [strncpy, List.length_append, List.length_map, List.length_take,
      List.length_replicate]
    omega
  unfold ApplicationDataBuffer.putCharText
  split
  · exact .of_none rfl
  · next hbuffer =>
    rw [Bool.not_eq_true, Bool.not_eq_false'] at hbuffer
    dsimp only
    split
    · refine .of_some (.units 1 _) hbuffer (congrArg some (if_neg hpos.ne')) rfl ?_
      simp only [Stored.extent, List.length_set, hlength]
      omega
    · refine .of_some (.units 1 _) hbuffer rfl rfl ?_
      simp only [Stored.extent, hlength]
      omega

lemma fitsIn_putWcharText (tmpStr : Text) (valLen : ℕ) :
    (b.putWcharText P tmpStr valLen).FitsIn b b.buflen := by
  unfold ApplicationDataBuffer.putWcharText
  split
  · exact .of_none rfl
  · next hbuffer =>
    rw [Bool.not_eq_true, Bool.not_eq_false'] at hbuffer
    rcases hunits : (copyStringToBuffer P tmpStr b.buflen).stored with _ | units
    · exact .of_none (by simp [hunits])
    · refine .of_some (.units P.sqlWcharSize units) hbuffer (by simp [hunits]) rfl ?_
      have := length_of_copyUtf8String .sqlWchar rfl hunits
      simp only [Stored.extent]
      exact_mod_cast this

lemma fitsIn_unsupported (n : ℕ) : b.unsupported.FitsIn b n := .of_none rfl

/-- The element of a type with a fixed size. -/
lemma elementSize_of_cSize {type : OdbcNativeType} (htype : b.type = type) (hsize : type.cSize ≠ 0)
    (v : PutValue) : b.elementSize v = type.cSize := by
  unfold ApplicationDataBuffer.elementSize
  rw [htype]
  cases type <;> first | rfl | exact absurd rfl hsize

/-- An object with the size of the type stays within an element. -/
lemma fitsIn_of_cSize {type : OdbcNativeType} {stored : Stored} (htype : b.type = type)
    (hstored : put.stored = if b.buffer then some stored else none)
    (hextent : stored.extent = (0, (type.cSize : ℤ))) (hsize : type.cSize ≠ 0) (v : PutValue) :
    put.FitsIn b (b.elementSize v) := by
  rw [elementSize_of_cSize htype hsize]
  apply Put.FitsIn.of_ite hstored
  · rw [hextent]
  · rw [hextent]

/-- A structure of the type of the buffer stays within an element. -/
lemma fitsIn_putStruct {type : OdbcNativeType} {result : ConversionResult} {stored : Stored}
    {size : ℕ} (htype : b.type = type) (h : b.putStruct result stored size = some put)
    (hextent : stored.extent = (0, (type.cSize : ℤ))) (hsize : type.cSize ≠ 0) (v : PutValue) :
    put.FitsIn b (b.elementSize v) := by
  unfold ApplicationDataBuffer.putStruct at h
  split at h
  · next hbuffer =>
    obtain rfl := Option.some.inj h
    exact fitsIn_of_cSize htype (if_pos hbuffer).symm hextent hsize v
  · exact absurd h (by simp)

/-- A temporal value stays within an element. -/
lemma fitsIn_temporal (value : TemporalValue) (hchar : b.type = .aiChar → 0 < b.buflen)
    (h : value.put P b = some put) (v : PutValue) : put.FitsIn b (b.elementSize v) := by
  by_cases hisChar : b.type = .aiChar
  · have hsize : b.elementSize v = b.buflen := by simp only [ApplicationDataBuffer.elementSize, hisChar]
    rw [value.put_of_aiChar P hisChar] at h
    obtain rfl := Option.some.inj h
    rw [hsize]
    exact fitsIn_putCharText (hchar hisChar) _ _
  by_cases hisWchar : b.type = .aiWchar
  · have hsize : b.elementSize v = b.buflen := by
      simp only [ApplicationDataBuffer.elementSize, hisWchar]
    rw [value.put_of_aiWchar P hisWchar] at h
    obtain rfl := Option.some.inj h
    rw [hsize]
    intro stored hstored
    exact fitsIn_putWcharText (P := P) value.printed value.valLen stored hstored
  cases value with
  | date value =>
    simp only [TemporalValue.put, ApplicationDataBuffer.putDate] at h
    split at h
    · exact absurd ‹_› hisChar
    · exact absurd ‹_› hisWchar
    · next htype =>
      exact fitsIn_putStruct htype h rfl (Nat.succ_ne_zero _) v
    · next htype =>
      exact fitsIn_putStruct htype h rfl (Nat.succ_ne_zero _) v
    · obtain rfl := Option.some.inj h
      exact fitsIn_unsupported _
  | timestamp value =>
    simp only [TemporalValue.put, ApplicationDataBuffer.putTimestamp] at h
    split at h
    · exact absurd ‹_› hisChar
    · exact absurd ‹_› hisWchar
    · next htype =>
      exact fitsIn_putStruct htype h rfl (Nat.succ_ne_zero _) v
    · next htype =>
      exact fitsIn_putStruct htype h rfl (Nat.succ_ne_zero _) v
    · next htype =>
      exact fitsIn_putStruct htype h rfl (Nat.succ_ne_zero _) v
    · obtain rfl := Option.some.inj h
      exact fitsIn_unsupported _
  | time value =>
    simp only [TemporalValue.put, ApplicationDataBuffer.putTime] at h
    split at h
    · exact absurd ‹_› hisChar
    · exact absurd ‹_› hisWchar
    · next htype =>
      exact fitsIn_putStruct htype h rfl (Nat.succ_ne_zero _) v
    · next htype =>
      exact fitsIn_putStruct htype h rfl (Nat.succ_ne_zero _) v
    · obtain rfl := Option.some.inj h
      exact fitsIn_unsupported _
  | intervalYearMonth value =>
    simp only [TemporalValue.put, ApplicationDataBuffer.putIntervalYearMonth] at h
    split at h
    · exact absurd ‹_› hisChar
    · exact absurd ‹_› hisWchar
    · next kind htype =>
      exact fitsIn_putStruct htype h rfl (Nat.succ_ne_zero _) v
    · obtain rfl := Option.some.inj h
      exact fitsIn_unsupported _
  | intervalDaySecond value =>
    simp only [TemporalValue.put, ApplicationDataBuffer.putIntervalDaySecond] at h
    split at h
    · exact absurd ‹_› hisChar
    · exact absurd ‹_› hisWchar
    · next kind htype =>
      exact fitsIn_putStruct htype h rfl (Nat.succ_ne_zero _) v
    · obtain rfl := Option.some.inj h
      exact fitsIn_unsupported _

/-- A number that is stored as it is stays within its object and within the buffer. -/
lemma fitsIn_raw {bytes : List UInt8} {n : ℕ}
    (hstored : put.stored = if b.buffer then some (.raw (bytes.take b.buflen)) else none)
    (hlast : min bytes.length b.buflen ≤ n) : put.FitsIn b n := by
  apply Put.FitsIn.of_ite hstored rfl
  simp only [Stored.extent, List.length_take]
  omega

@[simp] lemma length_objectBytes (size : ℕ) (value : ℤ) : (objectBytes size value).length = size := by
  simp [objectBytes]

/-- Buffers of characters and bytes are elements themselves. -/
lemma elementSize_of_buflen (h : b.type = .aiChar ∨ b.type = .aiWchar ∨ b.type = .aiBinary)
    (v : PutValue) : b.elementSize v = b.buflen := by
  rcases h with h | h | h <;> simp only [ApplicationDataBuffer.elementSize, h]

/-- An integer stays within an element. -/
lemma fitsIn_putNum {size : ℕ} {value : ℤ} (hchar : b.type = .aiChar → 0 < b.buflen)
    (h : b.putNum P size value = some put) {v : PutValue}
    (hdefault : b.type = .aiDefault → min size b.buflen ≤ b.elementSize v) :
    put.FitsIn b (b.elementSize v) := by
  rcases htype : b.type with _ | _ | _ | _ | _ | _ | _ | _ | _ | _ | _ | _ | _ | _ | _ | _ | _ | _ |
    kind | _ | _ <;> simp only [ApplicationDataBuffer.putNum, htype] at h
  case aiChar =>
    rw [elementSize_of_buflen (.inl htype)]
    exact fitsIn_putStrToStrBuffer h
  case aiWchar =>
    rw [elementSize_of_buflen (.inr (.inl htype))]
    exact fitsIn_putStrToStrBuffer h
  case aiBinary =>
    obtain rfl := Option.some.inj h
    rw [elementSize_of_buflen (.inr (.inr htype))]
    exact fitsIn_raw rfl (min_le_right _ _)
  case aiDefault =>
    obtain rfl := Option.some.inj h
    apply fitsIn_raw rfl
    rw [length_objectBytes]
    exact hdefault htype
  case aiTdate => exact fitsIn_temporal (.date _) hchar h v
  case aiTtime => exact fitsIn_temporal (.time _) hchar h v
  case aiTtimestamp => exact fitsIn_temporal (.timestamp _) hchar h v
  case aiInterval | aiUnsupported =>
    obtain rfl := Option.some.inj h
    exact fitsIn_unsupported _
  all_goals
    obtain rfl := Option.some.inj h
    exact fitsIn_of_cSize htype rfl rfl (Nat.succ_ne_zero _) v

/-- A `double` stays within an element. -/
lemma fitsIn_putDouble {value : Floating} (hchar : b.type = .aiChar → 0 < b.buflen)
    (h : b.putDouble P value = some put) {v : PutValue}
    (hdefault : b.type = .aiDefault → min 8 b.buflen ≤ b.elementSize v) :
    put.FitsIn b (b.elementSize v) := by
  rcases htype : b.type with _ | _ | _ | _ | _ | _ | _ | _ | _ | _ | _ | _ | _ | _ | _ | _ | _ | _ |
    kind | _ | _ <;> simp only [ApplicationDataBuffer.putDouble, htype] at h
  case aiChar =>
    rw [elementSize_of_buflen (.inl htype)]
    exact fitsIn_putStrToStrBuffer h
  case aiWchar =>
    rw [elementSize_of_buflen (.inr (.inl htype))]
    exact fitsIn_putStrToStrBuffer h
  case aiBinary =>
    obtain rfl := Option.some.inj h
    rw [elementSize_of_buflen (.inr (.inr htype))]
    exact fitsIn_raw rfl (min_le_right _ _)
  case aiDefault =>
    obtain rfl := Option.some.inj h
    apply fitsIn_raw rfl
    rw [value.length_bytes]
    exact hdefault htype
  case aiTdate => exact fitsIn_temporal (.date _) hchar h v
  case aiTtime => exact fitsIn_temporal (.time _) hchar h v
  case aiTtimestamp => exact fitsIn_temporal (.timestamp _) hchar h v
  case aiInterval | aiUnsupported =>
    obtain rfl := Option.some.inj h
    exact fitsIn_unsupported _
  all_goals
    obtain rfl := Option.some.inj h
    exact fitsIn_of_cSize htype rfl rfl (Nat.succ_ne_zero _) v

/-- A string stays within an element. -/
lemma fitsIn_putBytes {value : List UInt8} (hchar : b.type = .aiChar → 0 < b.buflen)
    (h : b.putBytes P value = some put) {v : PutValue}
    (hdefault : b.type = .aiDefault → b.buflen ≤ b.elementSize v) :
    put.FitsIn b (b.elementSize v) := by
  have hnum (n : ℤ) (hput : b.putNum P 8 n = some put) (htype : b.type ≠ .aiDefault) :
      put.FitsIn b (b.elementSize v) := fitsIn_putNum hchar hput (fun h => absurd h htype)
  rcases htype : b.type with _ | _ | _ | _ | _ | _ | _ | _ | _ | _ | _ | _ | _ | _ | _ | _ | _ | _ |
    kind | _ | _ <;> simp only [ApplicationDataBuffer.putBytes, htype] at h
  case aiChar =>
    rw [elementSize_of_buflen (.inl htype)]
    exact fitsIn_putStrToStrBuffer h
  case aiWchar =>
    rw [elementSize_of_buflen (.inr (.inl htype))]
    exact fitsIn_putStrToStrBuffer h
  case aiBinary =>
    rw [elementSize_of_buflen (.inr (.inr htype))]
    exact fitsIn_putStrToStrBuffer h
  case aiDefault =>
    exact (fitsIn_putStrToStrBuffer h).mono (hdefault htype)
  case aiFloat | aiDouble =>
    obtain rfl := Option.some.inj h
    exact fitsIn_of_cSize htype rfl rfl (Nat.succ_ne_zero _) v
  case aiTdate | aiTtime | aiTtimestamp | aiInterval | aiUnsupported =>
    obtain rfl := Option.some.inj h
    exact fitsIn_unsupported _
  all_goals exact hnum _ h (by simp [htype])

/-- The result of a conversion has no influence on what is stored. -/
lemma fitsIn_of_map_result {conversion : Option Put} {result : ConversionResult} {n : ℕ}
    (hconversion : ∀ put, conversion = some put → put.FitsIn b n)
    (h : (conversion.map fun put => { put with result }) = some put) : put.FitsIn b n := by
  obtain ⟨put', hput', rfl⟩ := Option.map_eq_some_iff.mp h
  exact hconversion put' hput'

/-- Into the C type it has by default, every value also stays within the length of the buffer. -/
lemma fitsIn_buflen_of_aiDefault {value : PutValue} (htype : b.type = .aiDefault)
    (h : value.put P b = some put) : put.FitsIn b b.buflen := by
  have hnot : b.type ≠ .aiChar := by simp [htype]
  -- the element of a string has the length of the buffer
  have hsize : b.elementSize (.string []) = b.buflen := by
    simp only [ApplicationDataBuffer.elementSize, htype, PutValue.defaultSize]
  rw [← hsize]
  cases value with
  | string value => exact fitsIn_putBytes (fun h => absurd h hnot) h fun _ => hsize.ge
  | integer size value =>
    exact fitsIn_putNum (fun h => absurd h hnot) h fun _ => (min_le_right _ _).trans hsize.ge
  | float value object hobject =>
    simp only [PutValue.put, ApplicationDataBuffer.putFloat, htype] at h
    obtain rfl := Option.some.inj h
    exact fitsIn_raw rfl ((min_le_right _ _).trans hsize.ge)
  | double value =>
    exact fitsIn_putDouble (fun h => absurd h hnot) h fun _ => (min_le_right _ _).trans hsize.ge
  | decimal value =>
    simp only [PutValue.put, ApplicationDataBuffer.putDecimal, htype] at h
    obtain rfl := Option.some.inj h
    exact fitsIn_unsupported _
  | temporal value => exact fitsIn_temporal value (fun h => absurd h hnot) h _
  | null =>
    obtain rfl := Option.some.inj h
    exact .of_none rfl

/-- Every value stays within an element. -/
theorem fitsIn_put {value : PutValue} (hchar : b.type = .aiChar → 0 < b.buflen)
    (h : value.put P b = some put) : put.FitsIn b (b.elementSize value) := by
  have hsize (htype : b.type = .aiDefault) : b.elementSize value = value.defaultSize b.buflen := by
    simp only [ApplicationDataBuffer.elementSize, htype]
  cases value with
  | string value =>
    exact fitsIn_putBytes hchar h fun htype => (hsize htype).ge
  | integer size value =>
    exact fitsIn_putNum hchar h fun htype => (min_le_left _ _).trans (hsize htype).ge
  | float value object hobject =>
    simp only [PutValue.put, ApplicationDataBuffer.putFloat] at h
    split at h
    · next htype =>
      obtain rfl := Option.some.inj h
      rw [elementSize_of_buflen (.inr (.inr htype))]
      exact fitsIn_raw rfl (min_le_right _ _)
    · next htype =>
      obtain rfl := Option.some.inj h
      apply fitsIn_raw rfl
      rw [hsize htype, hobject]
      exact min_le_left _ _
    · next htype =>
      exact fitsIn_putDouble hchar h fun hdefault => absurd hdefault htype
  | double value =>
    exact fitsIn_putDouble hchar h fun htype => (min_le_left _ _).trans (hsize htype).ge
  | decimal value =>
    have hnum (hput : ((b.putNum P 8 value.toInt64).map fun put =>
        { put with result := .aiFractionalTruncated }) = some put) (htype : b.type ≠ .aiDefault) :=
      fitsIn_of_map_result (n := b.elementSize (.decimal value)) (fun put hput =>
        fitsIn_putNum hchar hput fun h => absurd h htype) hput
    rcases htype : b.type with _ | _ | _ | _ | _ | _ | _ | _ | _ | _ | _ | _ | _ | _ | _ | _ | _ | _ |
      kind | _ | _ <;> simp only [PutValue.put, ApplicationDataBuffer.putDecimal, htype] at h
    case aiChar | aiWchar =>
      exact fitsIn_putBytes hchar h fun hdefault => absurd hdefault (by simp [htype])
    case aiFloat | aiDouble =>
      exact fitsIn_of_map_result (fun put hput => fitsIn_putDouble hchar hput
        fun hdefault => absurd hdefault (by simp [htype])) h
    case aiNumeric => exact fitsIn_putStruct htype h rfl (Nat.succ_ne_zero _) _
    case aiBinary | aiDefault | aiTdate | aiTtime | aiTtimestamp | aiInterval | aiUnsupported =>
      obtain rfl := Option.some.inj h
      exact fitsIn_unsupported _
    all_goals exact hnum h (by simp [htype])
  | temporal value => exact fitsIn_temporal value hchar h _
  | null =>
    obtain rfl := Option.some.inj h
    exact .of_none rfl

end FitsIn

/-! ## The rows of a rowset -/

/-- The place of a row in an array with elements of a size. -/
def window (base size : ℤ) (row : ℕ) : Set ℤ :=
  Set.Ico (base + (row : ℤ) * size) (base + ((row : ℤ) + 1) * size)

/-- Different rows have different places. -/
lemma disjoint_window (base size : ℤ) {row row' : ℕ} (h : row ≠ row') :
    Disjoint (window base size row) (window base size row') := by
  exact Set.pairwise_disjoint_Ico_add_zsmul base size (Int.natCast_inj.not.mpr h)

/-- The conversions of a rowset write every row into its place, the data as well as the indicators,
and no two rows into a common byte. -/
structure RowsApart (P : Platform) (sqlLenSize : ℕ) (b : ApplicationDataBuffer)
    (byteOffset rowsetSize : ℕ) : Prop where
  data : ∀ row < rowsetSize, ∀ cellOffset (value : PutValue) put,
    value.put P (b.inRow byteOffset row cellOffset) = some put →
    (b.inRow byteOffset row cellOffset).writtenData put ⊆
      window byteOffset (b.elementSize value) row
  indicator : ∀ row < rowsetSize, ∀ cellOffset (value : PutValue) put,
    value.put P (b.inRow byteOffset row cellOffset) = some put →
    (b.inRow byteOffset row cellOffset).writtenIndicator sqlLenSize put ⊆
      window byteOffset sqlLenSize row
  disjoint : ∀ row < rowsetSize, ∀ row' < rowsetSize, row ≠ row' →
    ∀ cellOffset cellOffset' (value value' : PutValue) put put',
    value.put P (b.inRow byteOffset row cellOffset) = some put →
    value'.put P (b.inRow byteOffset row' cellOffset') = some put' →
    Disjoint ((b.inRow byteOffset row cellOffset).writtenData put)
        ((b.inRow byteOffset row' cellOffset').writtenData put') ∧
      Disjoint ((b.inRow byteOffset row cellOffset).writtenIndicator sqlLenSize put)
        ((b.inRow byteOffset row' cellOffset').writtenIndicator sqlLenSize put')

section Rows

variable {P : Platform} {b : ApplicationDataBuffer} {put : Put} {byteOffset row : ℕ}
  {cellOffset : ℤ}

/-- The place `GetElementSize` gives to a row is the place of the row when its size is that of an
element, and in the first row. -/
lemma writtenData_subset {size : ℕ} (hsize : row = 0 ∨ b.getElementSize = size)
    (h : put.FitsIn (b.inRow byteOffset row cellOffset) size) :
    (b.inRow byteOffset row cellOffset).writtenData put ⊆ window byteOffset size row := by
  rintro a ⟨stored, hstored, hlow, hhigh⟩
  obtain ⟨-, hfirst, hlast⟩ := h stored hstored
  have hoffset : ((b.inRow byteOffset row cellOffset).applyOffset
      (b.inRow byteOffset row cellOffset).getElementSize : ℤ) = byteOffset + (row : ℤ) * size := by
    have helement : (b.inRow byteOffset row cellOffset).getElementSize = b.getElementSize := rfl
    rw [helement]
    unfold ApplicationDataBuffer.applyOffset ApplicationDataBuffer.inRow
    push_cast
    rcases hsize with rfl | hsize
    · simp
    · rw [hsize, mul_comm]
  rw [hoffset] at hlow hhigh
  constructor
  · omega
  · rw [add_mul, one_mul]
    omega

/-- Indicators are always in their places. -/
lemma writtenIndicator_subset (sqlLenSize : ℕ) :
    (b.inRow byteOffset row cellOffset).writtenIndicator sqlLenSize put ⊆
      window byteOffset sqlLenSize row := by
  rintro a ⟨-, hlow, hhigh⟩
  unfold ApplicationDataBuffer.applyOffset ApplicationDataBuffer.inRow at hlow hhigh
  push_cast at hlow hhigh
  unfold window
  rw [add_mul, one_mul, mul_comm (row : ℤ)]
  constructor <;> omega

/-- The sizes are the same for all types but the intervals and the default one. -/
lemma getElementSize_eq (hinterval : ¬ b.type.IsInterval) (hdefault : b.type ≠ .aiDefault)
    (value : PutValue) : b.getElementSize = b.elementSize value := by
  unfold ApplicationDataBuffer.getElementSize ApplicationDataBuffer.elementSize
  rcases htype : b.type with _ | _ | _ | _ | _ | _ | _ | _ | _ | _ | _ | _ | _ | _ | _ | _ | _ | _ |
    kind | _ | _
  case aiInterval => exact absurd ⟨kind, htype⟩ hinterval
  case aiDefault => exact absurd htype hdefault
  all_goals rfl

/-- Nothing is written to the data where no byte fits. -/
lemma writtenData_eq_empty (h : put.FitsIn b 0) : b.writtenData put = ∅ := by
  apply Set.eq_empty_of_forall_notMem
  rintro a ⟨stored, hstored, hlow, hhigh⟩
  obtain ⟨-, hfirst, hlast⟩ := h stored hstored
  omega

/-- When the rows of a bound column are apart: one row always is, and several rows are if nothing is
bound to the data, or if the type is no interval and the default one only without a buffer. -/
def KeepsRowsApart (driverType : OdbcNativeType) (targetValue : Option ℕ) (bufferLength : ℤ)
    (rowsetSize : ℕ) : Prop :=
  rowsetSize ≤ 1 ∨ targetValue = none ∨
    ¬ driverType.IsInterval ∧ (driverType = .aiDefault → bufferLength = 0)

/-- With several rows to keep apart, nothing is written to the data, or `GetElementSize` gives the size
of an element, whatever the value is. -/
lemma writtenData_of_keepsRowsApart {driverType : OdbcNativeType} {targetValue : Option ℕ}
    {bufferLength : ℤ} {rowsetSize : ℕ} (hb : b.type = driverType)
    (hbuffer : b.buffer = targetValue.isSome) (hbuflen : b.buflen = bufferLength.toNat)
    (hchar : b.type = .aiChar → 0 < b.buflen)
    (h : KeepsRowsApart driverType targetValue bufferLength rowsetSize) (hrows : 1 < rowsetSize)
    {value : PutValue} (hput : value.put P (b.inRow byteOffset row cellOffset) = some put) :
    (b.inRow byteOffset row cellOffset).writtenData put = ∅ ∨
      ∀ v, b.getElementSize = b.elementSize v := by
  have hfits : put.FitsIn (b.inRow byteOffset row cellOffset) (b.elementSize value) :=
    fitsIn_put hchar hput
  rcases h with hone | hnone | ⟨hinterval, hdefault⟩
  · omega
  · -- nothing is stored where there is no buffer
    left
    apply Set.eq_empty_of_forall_notMem
    rintro a ⟨stored, hstored, -⟩
    have hthere : b.buffer = true := (hfits stored hstored).1
    rw [hbuffer, hnone] at hthere
    exact absurd hthere (by simp)
  · by_cases htype : b.type = .aiDefault
    · have hempty : b.buflen = 0 := by
        rw [hbuflen, hdefault (hb ▸ htype)]
        rfl
      have hzero := fitsIn_buflen_of_aiDefault (b := b.inRow byteOffset row cellOffset) htype hput
      have hlength : (b.inRow byteOffset row cellOffset).buflen = 0 := hempty
      rw [hlength] at hzero
      exact .inl (writtenData_eq_empty hzero)
    · rw [← hb] at hinterval
      exact .inr (getElementSize_eq hinterval htype)

/-- A value that is stored in every row at the same place is not stored in the place of the second
row. -/
lemma not_subset_window {size : ℕ} {stored : Stored} (hstride : b.getElementSize = 0)
    (hsize : 0 < size) (hstored : put.stored = some stored) (hfirst : stored.extent.1 = 0)
    (hlast : 0 < stored.extent.2) :
    ¬ (b.inRow byteOffset 1 cellOffset).writtenData put ⊆ window byteOffset size 1 := by
  intro hsubset
  have hoffset : (b.inRow byteOffset 1 cellOffset).applyOffset
      (b.inRow byteOffset 1 cellOffset).getElementSize = byteOffset := by
    have helement : (b.inRow byteOffset 1 cellOffset).getElementSize = b.getElementSize := rfl
    rw [helement, hstride]
    simp [ApplicationDataBuffer.applyOffset, ApplicationDataBuffer.inRow]
  have hmem : (byteOffset : ℤ) ∈ (b.inRow byteOffset 1 cellOffset).writtenData put := by
    refine ⟨stored, hstored, ?_⟩
    rw [hoffset, hfirst]
    constructor <;> omega
  have hlow := (hsubset hmem).1
  omega

end Rows

/-- The rows of a bound column are apart if and only if there is one of them, nothing is bound to the
data, or the type is no interval and the default one only without a buffer. -/
theorem rowsApart_iff (P : Platform) (sqlLenSize : ℕ) {targetType bufferLength : ℤ}
    {targetValue strLengthOrIndicator : Option ℕ} {binding : ColumnBinding}
    (h : internalBindColumn targetType targetValue bufferLength strLengthOrIndicator =
      .bound binding) (byteOffset rowsetSize : ℕ) :
    RowsApart P sqlLenSize binding.buffer byteOffset rowsetSize ↔
      KeepsRowsApart (toDriverType targetType) targetValue bufferLength rowsetSize := by
  obtain ⟨hb, hlength, hchars⟩ := buffer_of_bound h
  have htype : binding.buffer.type = toDriverType targetType := by rw [hb]; rfl
  have hbuffer : binding.buffer.buffer = targetValue.isSome := by rw [hb]; rfl
  have hbuflen : binding.buffer.buflen = bufferLength.toNat := by rw [hb]; rfl
  have hchar : binding.buffer.type = .aiChar → 0 < binding.buffer.buflen := by
    intro hisChar
    have := hchars (.inl (htype ▸ hisChar))
    omega
  generalize binding.buffer = b at htype hbuffer hbuflen hchar
  constructor
  · intro hapart
    by_contra hnot
    simp only [KeepsRowsApart, not_or] at hnot
    obtain ⟨hrows, hsome, hnot⟩ := hnot
    obtain ⟨target, rfl⟩ := Option.ne_none_iff_exists'.mp hsome
    have hthere : b.buffer = true := hbuffer
    by_cases hinterval : (toDriverType targetType).IsInterval
    · -- an interval is stored in every row at the same place
      obtain ⟨kind, hkind⟩ := hinterval
      rw [hkind] at htype
      have hput : (PutValue.temporal (.intervalYearMonth ⟨0, 0⟩)).put P (b.inRow byteOffset 1 (-1)) =
          (b.inRow byteOffset 1 (-1)).putStruct .aiSuccess
            (IntervalYearMonth.setIntervalBufferValue ⟨0, 0⟩ kind) sizeOfIntervalStruct := by
        have : (b.inRow byteOffset 1 (-1)).type = .aiInterval kind := htype
        simp only [PutValue.put, TemporalValue.put, ApplicationDataBuffer.putIntervalYearMonth, this]
      have hsubset := hapart.data 1 (by omega) (-1) _ _ (hput.trans (if_pos hthere))
      refine not_subset_window ?_ ?_ rfl rfl ?_ hsubset
      · simp only [ApplicationDataBuffer.getElementSize, htype]
      · rw [elementSize_of_cSize htype (Nat.succ_ne_zero _)]
        exact Nat.succ_pos _
      · exact Int.natCast_pos.mpr (Nat.succ_pos 27)
    · -- so is a number of one byte, with the default type
      have hdefault : toDriverType targetType = .aiDefault ∧ bufferLength ≠ 0 := by
        by_contra hno
        apply hnot
        refine ⟨hinterval, fun hisDefault => ?_⟩
        by_contra hpos
        exact hno ⟨hisDefault, hpos⟩
      rw [hdefault.1] at htype
      have hpos : 0 < b.buflen := by omega
      have hput : (PutValue.integer 1 0).put P (b.inRow byteOffset 1 (-1)) =
          some ⟨if b.buflen < 1 then .aiVarlenDataTruncated else .aiSuccess,
            some (.raw ((objectBytes 1 0).take b.buflen)),
            (b.inRow byteOffset 1 (-1)).resLen 1, -1⟩ := by
        have hisDefault : (b.inRow byteOffset 1 (-1)).type = .aiDefault := htype
        have hisThere : (b.inRow byteOffset 1 (-1)).buffer = true := hthere
        simp only [PutValue.put, ApplicationDataBuffer.putNum, hisDefault, hisThere, if_true]
        rfl
      have hsubset := hapart.data 1 (by omega) (-1) _ _ hput
      refine not_subset_window ?_ ?_ rfl rfl ?_ hsubset
      · simp only [ApplicationDataBuffer.getElementSize, htype]
      · simp only [ApplicationDataBuffer.elementSize, htype, PutValue.defaultSize]
        exact Nat.one_pos
      · simp only [Stored.extent, List.length_take, length_objectBytes]
        omega
  · intro hkeeps
    refine ⟨?_, fun row _ cellOffset value put _ => writtenIndicator_subset sqlLenSize, ?_⟩
    · intro row hrow cellOffset value put hput
      have hfits : put.FitsIn (b.inRow byteOffset row cellOffset) (b.elementSize value) :=
        fitsIn_put hchar hput
      by_cases hrows : 1 < rowsetSize
      · rcases writtenData_of_keepsRowsApart htype hbuffer hbuflen hchar hkeeps hrows hput with
          hempty | hsize
        · rw [hempty]
          exact Set.empty_subset _
        · exact writtenData_subset (.inr (hsize value)) hfits
      · exact writtenData_subset (.inl (by omega)) hfits
    · intro row hrow row' hrow' hne cellOffset cellOffset' value value' put put' hput hput'
      refine ⟨?_, ?_⟩
      · have hrows : 1 < rowsetSize := by omega
        rcases writtenData_of_keepsRowsApart htype hbuffer hbuflen hchar hkeeps hrows hput with
          hempty | hsize
        · rw [hempty]
          exact Set.empty_disjoint _
        · -- both rows are in the places of elements of the same size
          have hfits : put.FitsIn (b.inRow byteOffset row cellOffset) (b.elementSize value) :=
            fitsIn_put hchar hput
          have hfits' : put'.FitsIn (b.inRow byteOffset row' cellOffset') (b.elementSize value') :=
            fitsIn_put hchar hput'
          have hsame : b.elementSize value' = b.elementSize value :=
            (hsize value').symm.trans (hsize value)
          rw [hsame] at hfits'
          exact (disjoint_window byteOffset (b.elementSize value) hne).mono
            (writtenData_subset (.inr (hsize value)) hfits)
            (writtenData_subset (.inr (hsize value)) hfits')
      · exact (disjoint_window byteOffset sqlLenSize hne).mono
          (writtenIndicator_subset sqlLenSize) (writtenIndicator_subset sqlLenSize)

/-- The rows of a column of `SQL_C_SLONG` are apart. -/
theorem rowsApart_slong :
    RowsApart samplePlatform 8 (.new .aiSignedLong true 4 true) 0 10 := by
  have hbound : internalBindColumn (-16) (some 1000) 4 (some 2000) =
      .bound (.new .aiSignedLong (some 1000) 4 (some 2000)) := by decide
  have hlong : toDriverType (-16) = .aiSignedLong := by decide
  apply (rowsApart_iff samplePlatform 8 hbound 0 10).mpr
  refine .inr (.inr ⟨?_, by decide⟩)
  rw [hlong]
  rintro ⟨kind, hkind⟩
  exact absurd hkind (by simp)

/-- The second row of a column of `SQL_C_INTERVAL_YEAR_TO_MONTH` is written over the first one. -/
theorem not_rowsApart_yearToMonth :
    internalBindColumn 107 (some 1000) 28 (some 2000) =
        .bound (.new (.aiInterval .yearToMonth) (some 1000) 28 (some 2000)) ∧
      ¬ RowsApart samplePlatform 8
        (ColumnBinding.new (.aiInterval .yearToMonth) (some 1000) 28 (some 2000)).buffer 0 2 := by
  refine ⟨by decide, ?_⟩
  intro h
  have hdisjoint := (h.disjoint 0 (by decide) 1 (by decide) (by decide) (-1) (-1)
    (.temporal (.intervalYearMonth ⟨1, 0⟩)) (.temporal (.intervalYearMonth ⟨2, 0⟩)) _ _ rfl rfl).1
  -- the first byte of the array is one of both rows
  apply Set.disjoint_left.mp hdisjoint (show (0 : ℤ) ∈ _ from ⟨_, rfl, by decide, by decide⟩)
  exact ⟨_, rfl, by decide, by decide⟩

end TimestreamOdbc
