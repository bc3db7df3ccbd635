import TimestreamOdbc.DescriptorTypes
import TimestreamOdbc.Lib.TransitionSystem

/-!
# Fields of a descriptor that are read

`InternalGetField` beside the calls that set the fields of a descriptor.  A field is read as it was set
last, as long as no call is about it or about a field that hangs together with it; what hangs together is
the type with its codes, and the length in characters with the one in bytes.

A null data pointer is not stored: the pointer that was there is still read.
-/

namespace TimestreamOdbc

open TransitionSystem

/-! ## Fields -/

/-- `DescTypeToString`. -/
def DescType.toText : DescType → String
  | .ard => "ARD"
  | .apd => "APD"
  | .ird => "IRD"
  | .ipd => "IPD"
  | .unknown => "UNKNOWN"

/-- The fields that nothing sets. -/
inductive UnsetField where
  | autoUniqueValue
  | baseColumnName
  | baseTableName
  | caseSensitive
  | catalogName
  | displaySize
  | fixedPrecScale
  | label
  | literalPrefix
  | literalSuffix
  | localTypeName
  | name
  | nullable
  | numPrecRadix
  | parameterType
  | rowver
  | schemaName
  | searchable
  | tableName
  | typeName
  | unnamed
  | unsigned
  | updatable
  deriving DecidableEq, Repr

/-- The fields that `InternalGetField` reads. -/
inductive FieldId where
  | allocType
  | arraySize
  | arrayStatusPtr
  | bindOffsetPtr
  | bindType
  | count
  | rowsProcessedPtr
  | conciseType
  | dataPtr
  | datetimeIntervalCode
  | datetimeIntervalPrecision
  | indicatorPtr
  | length
  | octetLength
  | octetLengthPtr
  | precision
  | scale
  | type
  | unset (field : UnsetField)
  | unsupported (fieldId : ℤ)
  deriving DecidableEq, Repr

/-- A value that is read. -/
inductive FieldValue where
  | number (n : ℤ)
  | pointer (p : Option ℕ)
  deriving DecidableEq, Repr

/-- The kinds of descriptors. -/
def allDescTypes : List DescType := [.ard, .apd, .ird, .ipd, .unknown]

namespace UnsetField

/-- The kinds of descriptors that the field can be read from. -/
def allowedTypes : UnsetField → List DescType
  | .autoUniqueValue | .baseColumnName | .baseTableName | .catalogName | .displaySize | .label
  | .literalPrefix | .literalSuffix | .schemaName | .searchable | .tableName | .updatable => [.ird]
  | .caseSensitive | .fixedPrecScale | .localTypeName | .name | .nullable | .rowver | .typeName
  | .unnamed | .unsigned => [.ird, .ipd]
  | .parameterType => [.ipd]
  | .numPrecRadix => allDescTypes

/-- What is read, as a record is made with zeros. -/
def value : UnsetField → FieldValue
  | .baseColumnName | .baseTableName | .catalogName | .label | .literalPrefix | .literalSuffix
  | .localTypeName | .name | .schemaName | .tableName | .typeName => .pointer none
  | .autoUniqueValue | .caseSensitive | .displaySize | .fixedPrecScale | .nullable | .numPrecRadix
  | .parameterType | .rowver | .searchable | .unnamed | .unsigned | .updatable => .number 0

/-- `FieldIdToString`. -/
def toText : UnsetField → String
  | .autoUniqueValue => "SQL_DESC_AUTO_UNIQUE_VALUE"
  | .baseColumnName => "SQL_DESC_BASE_COLUMN_NAME"
  | .baseTableName => "SQL_DESC_BASE_TABLE_NAME"
  | .caseSensitive => "SQL_DESC_CASE_SENSITIVE"
  | .catalogName => "SQL_DESC_CATALOG_NAME"
  | .displaySize => "SQL_DESC_DISPLAY_SIZE"
  | .fixedPrecScale => "SQL_DESC_FIXED_PREC_SCALE"
  | .label => "SQL_DESC_LABEL"
  | .literalPrefix => "SQL_DESC_LITERAL_PREFIX"
  | .literalSuffix => "SQL_DESC_LITERAL_SUFFIX"
  | .localTypeName => "SQL_DESC_LOCAL_TYPE_NAME"
  | .name => "SQL_DESC_NAME"
  | .nullable => "SQL_DESC_NULLABLE"
  | .numPrecRadix => "SQL_DESC_NUM_PREC_RADIX"
  | .parameterType => "SQL_DESC_PARAMETER_TYPE"
  | .rowver => "SQL_DESC_ROWVER"
  | .schemaName => "SQL_DESC_SCHEMA_NAME"
  | .searchable => "SQL_DESC_SEARCHABLE"
  | .tableName => "SQL_DESC_TABLE_NAME"
  | .typeName => "SQL_DESC_TYPE_NAME"
  | .unnamed => "SQL_DESC_UNNAMED"
  | .unsigned => "SQL_DESC_UNSIGNED"
  | .updatable => "SQL_DESC_UPDATABLE"

end UnsetField

namespace FieldId

/-- The kinds of descriptors that the field can be read from. -/
def allowedTypes : FieldId → List DescType
  | .arraySize | .bindOffsetPtr | .bindType | .dataPtr | .indicatorPtr | .octetLengthPtr => [.ard, .apd]
  | .rowsProcessedPtr => [.ird, .ipd]
  | .allocType | .arrayStatusPtr | .count | .conciseType | .datetimeIntervalCode
  | .datetimeIntervalPrecision | .length | .octetLength | .precision | .scale | .type => allDescTypes
  | .unset field => field.allowedTypes
  | .unsupported _ => []

/-- `FieldIdToString`. -/
def toText : FieldId → String
  | .allocType => "SQL_DESC_ALLOC_TYPE"
  | .arraySize => "SQL_DESC_ARRAY_SIZE"
  | .arrayStatusPtr => "SQL_DESC_ARRAY_STATUS_PTR"
  | .bindOffsetPtr => "SQL_DESC_BIND_OFFSET_PTR"
  | .bindType => "SQL_DESC_BIND_TYPE"
  | .count => "SQL_DESC_COUNT"
  | .rowsProcessedPtr => "SQL_DESC_ROWS_PROCESSED_PTR"
  | .conciseType => "SQL_DESC_CONCISE_TYPE"
  | .dataPtr => "SQL_DESC_DATA_PTR"
  | .datetimeIntervalCode => "SQL_DESC_DATETIME_INTERVAL_CODE"
  | .datetimeIntervalPrecision => "SQL_DESC_DATETIME_INTERVAL_PRECISION"
  | .indicatorPtr => "SQL_DESC_INDICATOR_PTR"
  | .length => "SQL_DESC_LENGTH"
  | .octetLength => "SQL_DESC_OCTET_LENGTH"
  | .octetLengthPtr => "SQL_DESC_OCTET_LENGTH_PTR"
  | .precision => "SQL_DESC_PRECISION"
  | .scale => "SQL_DESC_SCALE"
  | .type => "SQL_DESC_TYPE"
  | .unset field => field.toText
  | .unsupported _ => "UNKNOWN_FIELD_ID"

/-- The text of the error when a field is not read. -/
def refusal (type : DescType) : FieldId → String
  | .unsupported fieldId => "Unsupported fieldId " ++ toString fieldId
  | fieldId =>
    "Current descriptor type " ++ type.toText ++ " is not allowed to get field " ++ fieldId.toText

/-- The value of a field. -/
def value (header : DescriptorHeader) (record : DescriptorRecord) : FieldId → FieldValue
  | .allocType => .number header.allocType
  | .arraySize => .number header.arraySize
  | .arrayStatusPtr => .pointer header.arrayStatusPtr
  | .bindOffsetPtr => .pointer header.bindOffsetPtr
  | .bindType => .number header.bindType
  | .count => .number header.count
  | .rowsProcessedPtr => .pointer header.rowsProcessedPtr
  | .conciseType => .number record.conciseType
  | .dataPtr => .pointer record.dataPtr
  | .datetimeIntervalCode => .number record.datetimeIntervalCode
  | .datetimeIntervalPrecision => .number record.datetimeIntervalPrecision
  | .indicatorPtr => .pointer record.indicatorPtr
  | .length => .number record.length
  | .octetLength => .number record.octetLength
  | .octetLengthPtr => .pointer record.octetLengthPtr
  | .precision => .number record.precision
  | .scale => .number record.scale
  | .type => .number record.type
  | .unset field => field.value
  | .unsupported _ => .number 0

end FieldId

/-! ## Calls -/

/-- `InternalGetField`: the reply, the value that is written, and the descriptor, in which the record is
made if it was not there. -/
def Descriptor.internalGetField (recNum : ℤ) (fieldId : FieldId) (d : Descriptor) :
    (CallReply × Option FieldValue) × Descriptor :=
  (if d.type ∈ fieldId.allowedTypes then
    (.success, some (fieldId.value d.header (d.record recNum)))
  else (.error .sHY000GeneralError (fieldId.refusal d.type), none), d.setRecord recNum (d.record recNum))

/-- A call on a descriptor. -/
inductive DescriptorAccess where
  | call (call : Descriptor.FieldCall)
  | getField (recNum : ℤ) (fieldId : FieldId)
  | copyFrom (src : Descriptor)

/-- The descriptor after a call that returns. -/
def Descriptor.access (d : Descriptor) : DescriptorAccess → Option Descriptor
  | .call call => d.step call
  | .getField recNum fieldId => some (d.internalGetField recNum fieldId).2
  | .copyFrom src => some (src.internalCopyDesc d).2

/-! ## What calls are about -/

namespace DescriptorField

/-- The fields that a type brings with it. -/
def typeChanges (value : ℤ) : List FieldId :=
  (if value ≠ sqlDatetime ∧ value ≠ sqlInterval then [.conciseType, .datetimeIntervalCode] else []) ++
  if value = sqlChar ∨ value = sqlVarchar then [.length, .precision]
  else if value = sqlDecimal ∨ value = sqlNumeric then [.scale, .precision]
  else if value = sqlDatetime ∨ value = sqlInterval ∨ value = sqlFloat then [.precision]
  else []

/-- The fields that setting a field changes. -/
def changes : DescriptorField → List FieldId
  | .header | .unsupported _ => []
  | .conciseType _ => [.conciseType, .type, .datetimeIntervalCode]
  | .dataPtr none => [.length, .octetLength]
  | .dataPtr (some _) => [.dataPtr, .length, .octetLength]
  | .datetimeIntervalCode _ => [.datetimeIntervalCode]
  | .datetimeIntervalPrecision _ => [.datetimeIntervalPrecision]
  | .indicatorPtr _ => [.indicatorPtr]
  | .octetLengthPtr _ => [.octetLengthPtr]
  | .octetLength _ | .length _ => [.length, .octetLength]
  | .type value => .type :: typeChanges value

/-- The field that is set, and its value. -/
def sets : DescriptorField → Option (FieldId × FieldValue)
  | .header | .unsupported _ => none
  | .conciseType value => some (.conciseType, .number value)
  | .dataPtr buffer => some (.dataPtr, .pointer buffer)
  | .datetimeIntervalCode code => some (.datetimeIntervalCode, .number code)
  | .datetimeIntervalPrecision value => some (.datetimeIntervalPrecision, .number value)
  | .indicatorPtr buffer => some (.indicatorPtr, .pointer buffer)
  | .octetLengthPtr buffer => some (.octetLengthPtr, .pointer buffer)
  | .octetLength value => some (.octetLength, .number (toSqlLen value))
  | .length value => some (.length, .number value)
  | .type value => some (.type, .number value)

end DescriptorField

/-- A call is about a field of a record. -/
def DescriptorAccess.Touches (recNum : ℤ) (f : FieldId) (d : Descriptor) : DescriptorAccess → Prop
  | .call (.setField n field bufferLen) =>
    n = recNum ∧ f ∈ field.changes ∧ (d.internalSetField n field bufferLen).1.result ≠ .aiError
  | .call (.bindCol columnIdx ..) => columnIdx = recNum ∨ f = .count
  | .getField .. => False
  | .copyFrom _ => d.type ≠ .ird

/-! ## Records -/

section Record

variable {record : DescriptorRecord} {field : DescriptorField} {f : FieldId} {bufferLen : ℤ}

/-- A field that a type does not bring with it stays. -/
lemma value_setDescType_of_notMem (header : DescriptorHeader) {value : ℤ}
    (hf : f ∉ (DescriptorField.type value).changes) :
    f.value header (record.setDescType value) = f.value header record := by
  simp only [DescriptorField.changes, DescriptorField.typeChanges, List.mem_cons, List.mem_append, not_or] at hf
  obtain ⟨htype, hcodes, hrest⟩ := hf
  unfold DescriptorRecord.setDescType
  extract_lets typed coded
  have hcoded : f.value header coded = f.value header record := by
    dsimp only [coded, typed]
    split at hcodes <;> rename_i hfamily
    · rw [if_pos hfamily]
      cases f <;> first | rfl | simp at hcodes htype
    · rw [if_neg hfamily]
      cases f <;> first | rfl | simp at htype
  -- the rest changes the length, the precision and the scale
  rw [← hcoded]
  clear_value coded
  by_cases hchar : value = sqlChar ∨ value = sqlVarchar
  · rw [if_pos hchar] at hrest ⊢
    cases f <;> first | rfl | simp at hrest
  rw [if_neg hchar] at hrest ⊢
  by_cases hdecimal : value = sqlDecimal ∨ value = sqlNumeric
  · have hdatetime : value ≠ sqlDatetime := by rcases hdecimal with rfl | rfl <;> decide
    rw [if_pos hdecimal] at hrest
    rw [if_neg hdatetime, if_pos hdecimal]
    cases f <;> first | rfl | simp at hrest
  rw [if_neg hdecimal] at hrest
  by_cases hprecision : value = sqlDatetime ∨ value = sqlInterval ∨ value = sqlFloat
  · rw [if_pos hprecision] at hrest
    split_ifs <;> cases f <;> first | rfl | simp at hrest
  · obtain ⟨hdatetime, hinterval, hfloat⟩ := by simpa only [not_or] using hprecision
    rw [if_neg hdatetime, if_neg hdecimal, if_neg hfloat, if_neg hinterval]

/-- A field that does not hang together with the one that is set stays. -/
lemma value_setField_of_notMem (header : DescriptorHeader) (hf : f ∉ field.changes) :
    f.value header (record.setField field bufferLen).2 = f.value header record := by
  cases field with
  | header | unsupported fieldId => rfl
  | dataPtr buffer => cases buffer <;> cases f <;> first | rfl | simp [DescriptorField.changes] at hf
  | indicatorPtr buffer | octetLengthPtr buffer =>
    cases f <;> first | rfl | simp [DescriptorField.changes] at hf
  | datetimeIntervalCode value | datetimeIntervalPrecision value | octetLength value | length value =>
    dsimp only [DescriptorRecord.setField]
    split
    · cases f <;> first | rfl | simp [DescriptorField.changes] at hf
    · rfl
  | conciseType value =>
    dsimp only [DescriptorRecord.setField]
    split
    · unfold DescriptorRecord.setConciseType
      split_ifs <;> cases f <;> first | rfl | simp [DescriptorField.changes] at hf
    · rfl
  | type value =>
    dsimp only [DescriptorRecord.setField]
    split
    · exact value_setDescType_of_notMem header hf
    · rfl

/-- A guarded change that does not fail is made. -/
lemma guard_of_set {p : Prop} [Decidable p] {r r' : DescriptorRecord} {refused : CallReply}
    (hrefused : refused.result = .aiError)
    (hset : (if p then (CallReply.success, r') else (refused, r)).1.result ≠ .aiError) : p := by
  by_contra hp
  rw [if_neg hp] at hset
  exact hset hrefused

/-- The field that is set is read as it is set, unless it is a pointer that is set to null. -/
lemma value_setField (header : DescriptorHeader) {v : FieldValue} (hsets : field.sets = some (f, v))
    (hset : (record.setField field bufferLen).1.result ≠ .aiError) :
    f.value header (record.setField field bufferLen).2 =
      if field = .dataPtr none then .pointer record.dataPtr else v := by
  cases field with
  | header | unsupported fieldId => cases hsets
  | dataPtr buffer =>
    cases hsets
    cases buffer with
    | none => rfl
    | some address => rw [if_neg (by simp)]; rfl
  | indicatorPtr buffer | octetLengthPtr buffer => cases hsets; rfl
  | datetimeIntervalCode value | datetimeIntervalPrecision value | octetLength value | length value =>
    cases hsets
    dsimp only [DescriptorRecord.setField] at hset ⊢
    rw [if_pos (guard_of_set rfl hset)]
    rfl
  | conciseType value =>
    cases hsets
    dsimp only [DescriptorRecord.setField] at hset ⊢
    rw [if_pos (guard_of_set rfl hset), if_neg (by simp)]
    unfold DescriptorRecord.setConciseType
    split_ifs <;> rfl
  | type value =>
    cases hsets
    dsimp only [DescriptorRecord.setField] at hset ⊢
    rw [if_pos (guard_of_set rfl hset), if_neg (by simp)]
    exact congrArg FieldValue.number (DescriptorRecord.setDescType_members value record).1

end Record

/-! ## Calls on a descriptor -/

section Access

variable {d d' : Descriptor} {field : DescriptorField} {f : FieldId} {v : FieldValue} {recNum bufferLen : ℤ}

/-- The record that is replaced is the one that is there. -/
@[simp] lemma record_setRecord_self (record : DescriptorRecord) :
    (d.setRecord recNum record).record recNum = record := by
  rw [Descriptor.record, Descriptor.records_setRecord_self]
  rfl

/-- The record of another number stays. -/
lemma record_setRecord_of_ne {n : ℤ} (hne : recNum ≠ n) (record : DescriptorRecord) :
    (d.setRecord n record).record recNum = d.record recNum := by
  rw [Descriptor.record, Descriptor.records_setRecord_of_ne hne]
  rfl

/-- The other fields are the same for every count. -/
lemma value_count (hf : f ≠ .count) (header : DescriptorHeader) (count : ℤ) (record : DescriptorRecord) :
    f.value { header with count } record = f.value header record := by
  cases f <;> first | rfl | exact absurd rfl hf

/-- Setting a field leaves the fields that it is not about. -/
lemma value_internalSetField {n : ℤ}
    (htouches : ¬ (DescriptorAccess.call (.setField n field bufferLen)).Touches recNum f d) :
    f.value (d.internalSetField n field bufferLen).2.header
        ((d.internalSetField n field bufferLen).2.record recNum) =
      f.value d.header (d.record recNum) := by
  simp only [DescriptorAccess.Touches, Descriptor.internalSetField_eq] at htouches ⊢
  split at htouches <;> rename_i hlength
  · rw [if_pos hlength]
  · rw [if_neg hlength]
    by_cases hn : recNum = n
    · subst hn
      rw [record_setRecord_self]
      by_cases hf : f ∈ field.changes
      · have herror : ((d.record recNum).setField field bufferLen).1.result = .aiError := by
          by_contra hset
          exact htouches ⟨rfl, hf, hset⟩
        rw [DescriptorRecord.eq_of_setField_error herror]
        rfl
      · exact value_setField_of_notMem _ hf
    · rw [record_setRecord_of_ne hn]
      rfl

/-- Reading a field leaves the records as they are read. -/
lemma record_internalGetField (n : ℤ) (fieldId : FieldId) :
    (d.internalGetField n fieldId).2.record recNum = d.record recNum := by
  dsimp only [Descriptor.internalGetField]
  by_cases hn : recNum = n
  · rw [hn, record_setRecord_self]
  · rw [record_setRecord_of_ne hn]

/-- Binding a column leaves the records of the others, and the header but for the count. -/
lemma value_setDescriptorFields {columnIdx : ℕ} (hcolumn : recNum ≠ columnIdx) (hf : f ≠ .count)
    (targetType : ℤ) (targetValue : Option ℕ) (bufferLength : ℤ) (strLengthOrIndicator : Option ℕ) :
    f.value (d.setDescriptorFields columnIdx targetType targetValue bufferLength strLengthOrIndicator).header
        ((d.setDescriptorFields columnIdx targetType targetValue bufferLength
          strLengthOrIndicator).record recNum) =
      f.value d.header (d.record recNum) := by
  unfold Descriptor.setDescriptorFields
  split
  · rw [record_setRecord_of_ne hcolumn]
    exact value_count hf d.header (toSqlSmallint columnIdx) (d.record recNum)
  · rw [record_setRecord_of_ne hcolumn]
    rfl

/-- Binding a column leaves the kind of the descriptor. -/
lemma type_setDescriptorFields (columnIdx : ℕ) (targetType : ℤ) (targetValue : Option ℕ) (bufferLength : ℤ)
    (strLengthOrIndicator : Option ℕ) :
    (d.setDescriptorFields columnIdx targetType targetValue bufferLength strLengthOrIndicator).type =
      d.type := by
  unfold Descriptor.setDescriptorFields
  split <;> rfl

/-- A call that is not about a field leaves it, and the kind of the descriptor. -/
lemma value_access {access : DescriptorAccess} (htouches : ¬ access.Touches recNum f d)
    (hstep : d.access access = some d') :
    d'.type = d.type ∧ f.value d'.header (d'.record recNum) = f.value d.header (d.record recNum) := by
  cases access with
  | getField n fieldId =>
    cases hstep
    rw [record_internalGetField]
    exact ⟨rfl, rfl⟩
  | copyFrom src =>
    cases hstep
    have htype : d.type = .ird := not_not.mp htouches
    rw [Descriptor.internalCopyDesc, if_pos htype]
    exact ⟨rfl, rfl⟩
  | call call =>
    obtain ⟨⟨reply, after⟩, hperform, rfl⟩ := Option.map_eq_some_iff.mp hstep
    cases call with
    | setField n field bufferLen =>
      dsimp only [Descriptor.perform] at hperform
      split at hperform
      · have hafter : (d.internalSetField n field bufferLen).2 = after :=
          congrArg Prod.snd (Option.some.inj hperform)
        subst hafter
        refine ⟨?_, value_internalSetField htouches⟩
        rw [Descriptor.internalSetField_eq]
        split <;> rfl
      · cases hperform
    | bindCol columnIdx targetType targetValue bufferLength strLengthOrIndicator =>
      obtain ⟨hcolumn, hcount⟩ := not_or.mp htouches
      dsimp only [Descriptor.perform] at hperform
      split at hperform
      · split at hperform <;> cases hperform
        · exact ⟨rfl, rfl⟩
        · exact ⟨type_setDescriptorFields .., value_setDescriptorFields (Ne.symm hcolumn) hcount ..⟩
        · exact ⟨rfl, rfl⟩
      · cases hperform

/-- A run of calls that are not about a field leaves it, and the kind of the descriptor. -/
lemma value_run {later : List DescriptorAccess}
    (htouches : Meets (fun d access => ¬ access.Touches recNum f d) Descriptor.access d later)
    (hrun : run Descriptor.access d later = some d') :
    d'.type = d.type ∧ f.value d'.header (d'.record recNum) = f.value d.header (d.record recNum) := by
  refine invariant_run_meets (I := fun e => e.type = d.type ∧
    f.value e.header (e.record recNum) = f.value d.header (d.record recNum)) ?_ htouches ⟨rfl, rfl⟩ hrun
  rintro e access e' haccess ⟨htype, hvalue⟩ hstep
  obtain ⟨htype', hvalue'⟩ := value_access haccess hstep
  exact ⟨htype'.trans htype, hvalue'.trans hvalue⟩

/-- A field that is set is there afterwards, unless it is a pointer that is set to null. -/
lemma value_perform {reply : CallReply} (hsets : field.sets = some (f, v))
    (hset : d.perform (.setField recNum field bufferLen) = some (reply, d'))
    (hreply : reply.result ≠ .aiError) :
    d'.type = d.type ∧ f.value d'.header (d'.record recNum) =
      if field = .dataPtr none then .pointer (d.record recNum).dataPtr else v := by
  dsimp only [Descriptor.perform] at hset
  split at hset
  · rw [Descriptor.internalSetField_eq] at hset
    split at hset
    · cases hset
      exact absurd rfl hreply
    · cases hset
      rw [record_setRecord_self]
      exact ⟨rfl, value_setField _ hsets hreply⟩
  · cases hset

/-- What is read is a value when the kind of the descriptor allows it. -/
lemma internalGetField_eq_success_iff :
    (d.internalGetField recNum f).1 = (.success, some v) ↔
      d.type ∈ f.allowedTypes ∧ f.value d.header (d.record recNum) = v := by
  dsimp only [Descriptor.internalGetField]
  split <;> rename_i htype
  · rw [and_iff_right htype]
    exact ⟨fun h => Option.some.inj (Prod.mk.inj h).2, fun h => by rw [h]⟩
  · exact iff_of_false (fun h => nomatch (Prod.mk.inj h).2) fun h => htype h.1

end Access

/-- A field that was set is read as it was set, after any calls that are not about it, exactly when the
descriptor is of a kind that it can be read from, and a pointer that was set to null was null before. -/
theorem getField_setField_iff {d set d' : Descriptor} {recNum bufferLen : ℤ} {field : DescriptorField}
    {f : FieldId} {v : FieldValue} {reply : CallReply} {later : List DescriptorAccess}
    (hsets : field.sets = some (f, v))
    (hset : d.perform (.setField recNum field bufferLen) = some (reply, set))
    (hreply : reply.result ≠ .aiError)
    (htouches : Meets (fun d access => ¬ access.Touches recNum f d) Descriptor.access set later)
    (hrun : run Descriptor.access set later = some d') :
    (d'.internalGetField recNum f).1 = (.success, some v) ↔
      d.type ∈ f.allowedTypes ∧ (field = .dataPtr none → (d.record recNum).dataPtr = none) := by
  obtain ⟨htype, hvalue⟩ := value_run htouches hrun
  obtain ⟨hset_type, hset_value⟩ := value_perform hsets hset hreply
  rw [internalGetField_eq_success_iff, htype, hset_type, hvalue, hset_value]
  refine and_congr_right fun _ => ?_
  by_cases hnull : field = .dataPtr none
  · subst hnull
    cases hsets
    simp
  · simp [hnull]

/-- A length, a read, and another column. -/
def otherAccesses : List DescriptorAccess :=
  [.call (.setField 1 (.length 20) 0), .getField 3 .length, .call (.bindCol 2 sqlTypeDate (some 100) 6 none)]

/-- None of them is about the concise type. -/
theorem getField_setField_conciseType : ∃ d',
    run Descriptor.access (Descriptor.sampleArd.internalSetField 1 (.conciseType sqlVarchar) 0).2
      otherAccesses = some d' ∧
    (d'.internalGetField 1 .conciseType).1 = (.success, some (.number sqlVarchar)) := by
  have hsuccess : CallReply.success.result ≠ .aiError := by decide
  have hset : Descriptor.sampleArd.perform (.setField 1 (.conciseType sqlVarchar) 0) =
      some (.success, (Descriptor.sampleArd.internalSetField 1 (.conciseType sqlVarchar) 0).2) := rfl
  have htouches : Meets (fun d access => ¬ access.Touches 1 .conciseType d) Descriptor.access
      (Descriptor.sampleArd.internalSetField 1 (.conciseType sqlVarchar) 0).2 otherAccesses := by
    refine ⟨fun h => absurd h.2.1 (by decide), fun _ _ => ⟨id, fun _ _ => ⟨fun h => ?_, fun _ _ => trivial⟩⟩⟩
    rcases h with h | h <;> revert h <;> decide
  exact ⟨_, rfl, (getField_setField_iff rfl hset hsuccess htouches rfl).mpr
    ⟨by decide, fun hnull => nomatch hnull⟩⟩

end TimestreamOdbc
