import TimestreamOdbc.App.WideCopy
import TimestreamOdbc.App.Truncation
import TimestreamOdbc.Query.MetadataQuery

/-!
# Attributes of result columns

`SQLColAttribute` and `SQLDescribeCol` copy the texts that a column has as attributes, the name among
them, and report lengths: the first in bytes, the second in characters, which it computes from the
bytes that the first one reports.
-/

namespace TimestreamOdbc

/-! ## The attributes of a column -/

/-- `SqlTypeDisplaySize` of a type that is there. -/
def sqlTypeDisplaySize (type : ℤ) : ℤ :=
  if type ∈ characterTypes ++ [sqlDecimal, sqlNumeric] then timestreamSqlMaxLength
  else if type ∈ [sqlBit, sqlTypeNull] then 1
  else if type = sqlTinyint then 4
  else if type = sqlSmallint then 6
  else if type = sqlInteger then 11
  else if type = sqlBigint then 20
  else if type = sqlReal then 14
  else if type ∈ [sqlFloat, sqlDouble] then 24
  else if type = sqlTypeDate then 10
  else if type = sqlTypeTime then 8
  else if type = sqlTypeTimestamp then 20
  else if type = sqlIntervalDayToSecond then 25
  else if type = sqlIntervalYearToMonth then 12
  else if type = sqlGuid then 36
  else 0

/-- The attributes of a column that the driver knows, by their names without `SQL_DESC_` and with
`SQL_COLUMN_`, and all other numbers. -/
inductive ColumnField where
  | label
  | baseColumnName
  | name
  | tableName
  | baseTableName
  | schemaName
  | catalogName
  | literalPrefix
  | literalSuffix
  | typeName
  | localTypeName
  | fixedPrecScale
  | autoUniqueValue
  | caseSensitive
  | conciseType
  | type
  | displaySize
  | length
  | octetLength
  | nullable
  | numPrecRadix
  | precision
  | scale
  | searchable
  | unnamed
  | unsigned
  | updatable
  | columnLength
  | columnPrecision
  | columnScale
  | unknown (id : ℕ)
  deriving DecidableEq, Repr

/-- `ColumnMeta` with the members that are asked for as attributes. -/
structure ResultColumnMeta extends ColumnMeta where
  isAutoIncrement : Text
  precision : Option ℤ
  scale : Option ℤ
  deriving DecidableEq, Repr

namespace ResultColumnMeta

/-- The column that the default constructor makes and `ReadMetadata` gives a name and a type. -/
def readMetadata (columnName : Text) (type : Option ScalarType) : ResultColumnMeta where
  catalogName := none
  schemaName := none
  tableName := none
  columnName := some columnName
  remarks := none
  columnDef := none
  dataType := some (type.getD .varchar)
  nullability := some .nullabilityUnknown
  ordinalPosition := some (-1)
  isAutoIncrement := "NO".toList
  precision := some (-1)
  scale := some (-1)

/-- `GetScalarType`. -/
def getScalarType (column : ResultColumnMeta) : ScalarType := column.dataType.getD .notSet

/-- `GetAttribute` of a text; nothing when it is not found. A text that the column does not have is
empty. -/
def getStringAttribute (column : ResultColumnMeta) : ColumnField → Option Text
  | .label | .baseColumnName | .name => some (column.columnName.getD [])
  | .tableName | .baseTableName => some (column.tableName.getD [])
  | .schemaName => some (column.schemaName.getD [])
  | .catalogName => some (column.catalogName.getD [])
  | .literalPrefix | .literalSuffix =>
    some (if column.getScalarType = .varchar then ['\''] else [])
  | .typeName | .localTypeName => some ((column.dataType.map binaryTypeToSqlTypeName).getD [])
  | .precision | .columnLength | .columnPrecision =>
    (column.precision.filter (· ≠ -1)).map printInt
  | .scale | .columnScale => (column.scale.filter (· ≠ -1)).map printInt
  | _ => none

/-- `GetAttribute` of a number; nothing when it is not found. A number that the column does not have
is -1. -/
def getNumericAttribute (column : ResultColumnMeta) : ColumnField → Option ℤ
  | .fixedPrecScale =>
    some (if (column.precision.filter (· ≠ -1)).isNone ∨
      (column.scale.filter (fun scale => scale ≠ -1 ∧ scale ≠ 0)).isNone then 0 else 1)
  | .autoUniqueValue => some (if column.isAutoIncrement = "YES".toList then 1 else 0)
  | .caseSensitive => some (if column.getScalarType = .varchar then 1 else 0)
  | .conciseType | .type => some ((column.dataType.map binaryToSqlType).getD (-1))
  | .length | .columnLength | .displaySize =>
    some ((column.dataType.map (sqlTypeDisplaySize ∘ binaryToSqlType)).getD (-1))
  | .octetLength =>
    some ((column.dataType.map (sqlTypeTransferLength ∘ binaryToSqlType)).getD (-1))
  | .nullable => some (column.nullability.getD .nullabilityUnknown).code
  | .numPrecRadix =>
    some ((column.dataType.map (sqlTypeNumPrecRadix ∘ binaryToSqlType)).getD (-1))
  | .precision | .columnPrecision =>
    match column.dataType, column.precision.filter (· ≠ -1) with
    | some type, none => some (sqlTypeColumnSize (binaryToSqlType type))
    | _, _ => some (column.precision.getD (-1))
  | .scale | .columnScale =>
    match column.dataType, column.scale.filter (· ≠ -1) with
    | some type, none => some (sqlTypeDecimalDigits (binaryToSqlType type))
    | _, _ => some (column.scale.getD (-1))
  | .searchable => some 2
  | .unnamed => some (if column.columnName.getD [] ≠ [] then 0 else 1)
  | .unsigned =>
    some (if (column.dataType.map (sqlTypeUnsigned ∘ binaryToSqlType)).getD false then 1 else 0)
  | .updatable => some 2
  | _ => none

end ResultColumnMeta

/-! ## The calls -/

/-- The outcome of a call: the result and the records, the characters that are stored in the buffer,
the length and the number that are reported. -/
structure AttributeOutcome where
  result : SqlResult
  records : List DiagnosticRecord
  stored : Option (List ℕ)
  length : Option ℤ
  number : Option ℤ
  deriving DecidableEq, Repr

/-- The conversion of a 16-bit length to `size_t`. -/
def int16ToSizeT (n : ℤ) : ℕ := (n % 2 ^ 64).toNat

/-- `Statement::InternalGetColumnAttribute`, with the metadata that `GetMeta` returns. The pointers
`strbuf`, `reslen` and `numbuf` are there or null. -/
def internalGetColumnAttribute (P : Platform) (columns : Option (List ResultColumnMeta)) (colIdx : ℕ)
    (attrId : ColumnField) (strbuf : Bool) (buflen : ℤ) (reslen numbuf : Bool) : AttributeOutcome :=
  match columns with
  | none => ⟨.aiError, [], none, none, none⟩
  | some columns =>
    match if colIdx < 1 then none else columns[colIdx - 1]? with
    | none =>
      ⟨.aiError, [⟨.sHY000GeneralError, "Column index is out of range.", 0, colIdx⟩], none, none, none⟩
    | some column =>
      let numeric := column.getNumericAttribute attrId
      let number := if numbuf then some (numeric.getD (-1)) else none
      if numbuf ∧ numeric.isSome then ⟨.aiSuccess, [], none, none, number⟩
      else
        match column.getStringAttribute attrId with
        | none =>
          ⟨.aiError, [statusRecord .sHYC00OptionalFeatureNotImplemented "Unknown attribute."],
            none, none, number⟩
        | some out =>
          let copied : Copied :=
            if strbuf then
              Utility.copyStringToBuffer P (Utf8.encode out) true (int16ToSizeT buflen) true
            -- without a buffer the size is that of the string itself
            else ⟨(Utf8.encode out).length, false, none⟩
          ⟨if copied.isTruncated then .aiSuccessWithInfo else .aiSuccess, [], copied.stored,
            if reslen then some ((copied.count : ℤ).bmod (2 ^ 16)) else none, number⟩

/-- The return code of several calls: the first error, or else the first success with
information. -/
def combinedResult (results : List SqlResult) : SqlResult :=
  match results.find? (fun r => r ≠ .aiSuccess ∧ r ≠ .aiSuccessWithInfo) with
  | some r => r
  | none => (results.find? (· ≠ .aiSuccess)).getD .aiSuccess

/-- `SQLDescribeCol`, as far as the name of the column is concerned: its buffer has a length in
characters, which becomes a 16-bit length in bytes, and the length in bytes that is reported becomes
one in characters. -/
def sqlDescribeCol (P : Platform) (columns : Option (List ResultColumnMeta)) (columnNum : ℕ)
    (columnNameBuf : Bool) (columnNameBufLen : ℤ) : AttributeOutcome :=
  let name := internalGetColumnAttribute P columns columnNum .name columnNameBuf
    ((columnNameBufLen * P.sqlWcharSize).bmod (2 ^ 16)) true false
  let others := [ColumnField.type, .precision, .scale, .nullable].map fun attrId =>
    internalGetColumnAttribute P columns columnNum attrId false 0 false true
  { name with
    result := combinedResult (name.result :: others.map AttributeOutcome.result)
    length := some (((int16ToSizeT (name.length.getD 0) / P.sqlWcharSize : ℕ) : ℤ).bmod (2 ^ 16)) }

/-! ## What is claimed of the lengths -/

/-- The two calls that ask for a text: the one without a buffer, the one with a buffer of the given
length in bytes, and the same in characters for the name. All of them report the length of the whole
text, and information is there exactly when the buffer did not get all of it. -/
structure TwoCallIdiom (P : Platform) (columns : List ResultColumnMeta) (colIdx : ℕ)
    (attrId : ColumnField) (value : Text) (buflen : ℕ) : Prop where
  nullBuffer : (internalGetColumnAttribute P (some columns) colIdx attrId false 0 true false).length =
    some (((value.flatMap (wideUnits P.sqlWcharSize)).length * P.sqlWcharSize : ℕ) : ℤ)
  buffer : (internalGetColumnAttribute P (some columns) colIdx attrId true buflen true false).length =
    some (((value.flatMap (wideUnits P.sqlWcharSize)).length * P.sqlWcharSize : ℕ) : ℤ)
  information :
    (internalGetColumnAttribute P (some columns) colIdx attrId true buflen true false).result =
        .aiSuccessWithInfo ↔
      (internalGetColumnAttribute P (some columns) colIdx attrId true buflen true false).stored ≠
        some (value.flatMap (wideUnits P.sqlWcharSize) ++ [0])
  describeNull : (sqlDescribeCol P (some columns) colIdx false 0).length =
    some ((value.flatMap (wideUnits P.sqlWcharSize)).length : ℤ)
  describe : (sqlDescribeCol P (some columns) colIdx true (buflen / P.sqlWcharSize : ℕ)).length =
    some ((value.flatMap (wideUnits P.sqlWcharSize)).length : ℤ)

/-- A call has copied a text into a buffer with room for some characters: it reports the length of
what it copied, with `unit` for a character; it returns information if this is not all of the text, up
to a null character; and if all characters have a form it copied as many as there is room for. -/
def ReportsCopied (P : Platform) (value : Text) (room unit : ℕ) (outcome : AttributeOutcome) : Prop :=
  ∃ part, part <+: beforeNul value ∧ part.length ≤ room ∧
    outcome.stored = some (part.map Char.toNat ++ [0]) ∧
    outcome.length = some ((part.length * unit : ℕ) : ℤ) ∧
    outcome.result = (if part = beforeNul value then .aiSuccess else .aiSuccessWithInfo) ∧
    ((beforeNul value).all (unitFits P.sqlWcharSize) = true → part = (beforeNul value).take room)

/-- A call that was given an empty buffer has nothing to report. -/
def ReportsNothing (outcome : AttributeOutcome) : Prop :=
  outcome.stored = none ∧ outcome.length = some 0 ∧ outcome.result = .aiSuccess

/-! ## Copies of an attribute -/

section Copy

variable {P : Platform} {columns : List ResultColumnMeta} {colIdx : ℕ} {column : ResultColumnMeta}
  {attrId : ColumnField} {value : Text} {numbuf : Bool}

/-- A length that fits 16 bits is not changed. -/
lemma bmod_int16_of_lt {n : ℕ} (h : n < 2 ^ 15) : (n : ℤ).bmod (2 ^ 16) = n := by
  rw [Int.bmod_def]
  split <;> omega

lemma int16ToSizeT_natCast {n : ℕ} (h : n < 2 ^ 15) : int16ToSizeT n = n := by
  unfold int16ToSizeT
  omega

/-- A text that is asked for is copied. -/
lemma internalGetColumnAttribute_string (hidx : 1 ≤ colIdx) (hcolumn : columns[colIdx - 1]? = some column)
    (hvalue : column.getStringAttribute attrId = some value)
    (hnumbuf : numbuf = true → column.getNumericAttribute attrId = none) (buflen : ℤ) :
    internalGetColumnAttribute P (some columns) colIdx attrId true buflen true numbuf =
      let copied := Utility.copyStringToBuffer P (Utf8.encode value) true (int16ToSizeT buflen) true
      ⟨if copied.isTruncated then .aiSuccessWithInfo else .aiSuccess, [], copied.stored,
        some ((copied.count : ℤ).bmod (2 ^ 16)), if numbuf then some (-1) else none⟩ := by
  have hnot : ¬ colIdx < 1 := by omega
  cases numbuf
  · simp [internalGetColumnAttribute, hnot, hcolumn, hvalue]
  · simp [internalGetColumnAttribute, hnot, hcolumn, hvalue, hnumbuf rfl]

/-- What a copy into a buffer of more than one character reports. -/
lemma copyStringToBuffer_inBytes_of_lt {buflen : ℕ} (hlt : P.sqlWcharSize < buflen) :
    Utility.copyStringToBuffer P (Utf8.encode value) true buflen true =
      ⟨(((beforeNul value).take (buflen / P.sqlWcharSize - 1)).takeWhile
          (unitFits P.sqlWcharSize)).length * P.sqlWcharSize,
        decide (Utf8.textStatus (unitFits P.sqlWcharSize) (buflen / P.sqlWcharSize - 1)
          (beforeNul value) ≠ .ok),
        some ((((beforeNul value).take (buflen / P.sqlWcharSize - 1)).takeWhile
          (unitFits P.sqlWcharSize)).map Char.toNat ++ [0])⟩ := by
  have hzero : ¬ buflen = 0 := by omega
  simp only [Utility.copyStringToBuffer, copyUtf8StringToWcharString, if_true, hzero, and_false,
    if_false, hlt, decide_true, Bool.true_and, cString_encode_eq, Utf8.convert_encode]

/-- A conversion is complete exactly when it wrote the whole text. -/
lemma textStatus_eq_ok_iff (fits : Char → Bool) (room : ℕ) (cs : Text) :
    Utf8.textStatus fits room cs = .ok ↔ (cs.take room).takeWhile fits = cs := by
  unfold Utf8.textStatus
  constructor
  · intro h
    split at h
    · next hall =>
      split at h
      · next hlen =>
        rw [List.take_of_length_le hlen] at hall ⊢
        exact List.takeWhile_eq_self_iff.mpr fun c hc => List.all_eq_true.mp hall c hc
      · contradiction
    · contradiction
  · intro h
    have htake : cs.take room = cs := by
      apply (List.take_prefix room cs).eq_of_length_le
      have := (List.takeWhile_prefix fits (l := cs.take room)).length_le
      rwa [h] at this
    rw [htake] at h ⊢
    have hall : cs.all fits = true :=
      List.all_eq_true.mpr fun c hc => List.takeWhile_eq_self_iff.mp h c hc
    have hlen : cs.length ≤ room := by
      rw [← htake]
      exact List.length_take_le room cs
    rw [if_pos hall, if_pos hlen]

/-- What is converted begins the text. -/
lemma takeWhile_take_isPrefix (fits : Char → Bool) (cs : Text) (room : ℕ) :
    (cs.take room).takeWhile fits <+: cs :=
  (List.takeWhile_prefix _).trans (List.take_prefix _ _)

/-- What is converted is not longer than there is room for. -/
lemma length_takeWhile_take_le (fits : Char → Bool) (cs : Text) (room : ℕ) :
    ((cs.take room).takeWhile fits).length ≤ room :=
  (List.takeWhile_prefix fits).length_le.trans (List.length_take_le _ _)

/-- What there is room for is converted if all characters have a form. -/
lemma takeWhile_take_of_all {fits : Char → Bool} {cs : Text} (hall : cs.all fits = true)
    (room : ℕ) : (cs.take room).takeWhile fits = cs.take room := by
  apply List.takeWhile_eq_self_iff.mpr
  intro c hc
  exact List.all_eq_true.mp hall c (List.mem_of_mem_take hc)

/-- The bytes of what fits in front of a terminator fit in the buffer. -/
lemma mul_size_le {count buflen size : ℕ} (h : count ≤ buflen / size - 1) :
    count * size ≤ buflen := by
  have hbytes := Nat.mul_le_mul_right size h
  have hdiv := Nat.div_mul_le_self buflen size
  rw [Nat.sub_mul] at hbytes
  omega

/-- A text that is asked for with a buffer of more than one character is copied, and the length of the
copy reported. -/
lemma reportsCopied_columnAttribute (hidx : 1 ≤ colIdx) (hcolumn : columns[colIdx - 1]? = some column)
    (hvalue : column.getStringAttribute attrId = some value)
    (hnumbuf : numbuf = true → column.getNumericAttribute attrId = none) {buflen : ℕ}
    (hlt : P.sqlWcharSize < buflen) (hint16 : buflen < 2 ^ 15) :
    ReportsCopied P value (buflen / P.sqlWcharSize - 1) P.sqlWcharSize
      (internalGetColumnAttribute P (some columns) colIdx attrId true buflen true numbuf) := by
  rw [internalGetColumnAttribute_string hidx hcolumn hvalue hnumbuf, int16ToSizeT_natCast hint16,
    copyStringToBuffer_inBytes_of_lt hlt]
  dsimp only
  have hroom := length_takeWhile_take_le (unitFits P.sqlWcharSize) (beforeNul value)
    (buflen / P.sqlWcharSize - 1)
  refine ⟨_, takeWhile_take_isPrefix _ _ _, hroom, rfl, ?_, ?_, fun hall =>
    takeWhile_take_of_all hall _⟩
  · exact congrArg some (bmod_int16_of_lt ((mul_size_le hroom).trans_lt hint16))
  · by_cases hok : Utf8.textStatus (unitFits P.sqlWcharSize) (buflen / P.sqlWcharSize - 1)
        (beforeNul value) = .ok
    · rw [if_pos ((textStatus_eq_ok_iff _ _ _).mp hok)]
      simp [hok]
    · rw [if_neg fun h => hok ((textStatus_eq_ok_iff _ _ _).mpr h)]
      simp [hok]

/-- An empty buffer gets nothing. -/
lemma reportsNothing_columnAttribute (hidx : 1 ≤ colIdx) (hcolumn : columns[colIdx - 1]? = some column)
    (hvalue : column.getStringAttribute attrId = some value)
    (hnumbuf : numbuf = true → column.getNumericAttribute attrId = none) :
    ReportsNothing
      (internalGetColumnAttribute P (some columns) colIdx attrId true 0 true numbuf) := by
  have hcopy : Utility.copyStringToBuffer P (Utf8.encode value) true (int16ToSizeT 0) true =
      ⟨0, false, none⟩ := by
    simp [Utility.copyStringToBuffer, copyUtf8StringToWcharString, int16ToSizeT]
  rw [internalGetColumnAttribute_string hidx hcolumn hvalue hnumbuf, hcopy]
  exact ⟨rfl, rfl, rfl⟩

/-- The other attributes that a description of a column asks for are numbers. -/
lemma internalGetColumnAttribute_described (hidx : 1 ≤ colIdx)
    (hcolumn : columns[colIdx - 1]? = some column) :
    ∀ attrId ∈ [ColumnField.type, .precision, .scale, .nullable],
      (internalGetColumnAttribute P (some columns) colIdx attrId false 0 false true).result =
        .aiSuccess := by
  have hnot : ¬ colIdx < 1 := by omega
  have hfound : ∀ attrId ∈ [ColumnField.type, .precision, .scale, .nullable],
      (column.getNumericAttribute attrId).isSome = true := by
    intro attrId hmem
    simp only [List.mem_cons, List.not_mem_nil, or_false] at hmem
    rcases hmem with rfl | rfl | rfl | rfl
    · rfl
    · simp only [ResultColumnMeta.getNumericAttribute]
      split <;> rfl
    · simp only [ResultColumnMeta.getNumericAttribute]
      split <;> rfl
    · rfl
  intro attrId hmem
  simp [internalGetColumnAttribute, hnot, hcolumn, hfound attrId hmem]

/-- A description of a column returns what asking for its name returns, if that is no error. -/
lemma sqlDescribeCol_eq (hidx : 1 ≤ colIdx) (hcolumn : columns[colIdx - 1]? = some column)
    (columnNameBufLen : ℤ) :
    sqlDescribeCol P (some columns) colIdx true columnNameBufLen =
      let name := internalGetColumnAttribute P (some columns) colIdx .name true
        ((columnNameBufLen * P.sqlWcharSize).bmod (2 ^ 16)) true false
      { name with
        length := some
          (((int16ToSizeT (name.length.getD 0) / P.sqlWcharSize : ℕ) : ℤ).bmod (2 ^ 16)) } := by
  have hothers : [ColumnField.type, .precision, .scale, .nullable].map (fun attrId =>
      (internalGetColumnAttribute P (some columns) colIdx attrId false 0 false true).result) =
      [.aiSuccess, .aiSuccess, .aiSuccess, .aiSuccess] := by
    have h := internalGetColumnAttribute_described (P := P) hidx hcolumn
    simp only [List.forall_mem_cons] at h
    obtain ⟨htype, hprecision, hscale, hnullable, -⟩ := h
    simp only [List.map_cons, List.map_nil, htype, hprecision, hscale, hnullable]
  have hname : (internalGetColumnAttribute P (some columns) colIdx .name true
      ((columnNameBufLen * P.sqlWcharSize).bmod (2 ^ 16)) true false).result = .aiSuccess ∨
      (internalGetColumnAttribute P (some columns) colIdx .name true
        ((columnNameBufLen * P.sqlWcharSize).bmod (2 ^ 16)) true false).result =
          .aiSuccessWithInfo := by
    rw [internalGetColumnAttribute_string hidx hcolumn rfl (by simp)]
    dsimp only
    split
    · exact .inr rfl
    · exact .inl rfl
  unfold sqlDescribeCol
  dsimp only
  rw [List.map_map, Function.comp_def, hothers]
  congr 1
  rcases hname with h | h <;> rw [h] <;> rfl

end Copy

/-! ## The lengths -/

/-- A result column with the name `time`. -/
def timeColumn : ResultColumnMeta := .readMetadata ['t', 'i', 'm', 'e'] (some .timestamp)

end TimestreamOdbc
