import TimestreamOdbc.Handles

/-!
# What a descriptor tells about the bindings of a statement

A statement keeps what a fetch uses, a descriptor what the application can read.  What binding a
column, setting an attribute and setting a field make of a descriptor that tells what the statement
has.
-/

namespace TimestreamOdbc

/-- The pointers and the buffer length of a column. -/
structure ColumnPointers where
  data : Option ℕ
  indicator : Option ℕ
  length : ℤ
  deriving DecidableEq, Repr

/-- What a binding has. -/
def ColumnBinding.pointers (b : ColumnBinding) : ColumnPointers :=
  ⟨b.targetValue, b.strLengthOrIndicator, b.buffer.buflen⟩

/-- What a record with a pointer has. -/
def DescriptorRecord.pointers (r : DescriptorRecord) : Option ColumnPointers :=
  if r.dataPtr = none ∧ r.indicatorPtr = none then none
  else some ⟨r.dataPtr, r.indicatorPtr, r.octetLength⟩

/-- What a statement has bound to a column. -/
def Statement.bound {Q : Type} (s : Statement Q) (columnIdx : ℕ) : Option ColumnPointers :=
  (s.columnBindings columnIdx).map ColumnBinding.pointers

/-- What a descriptor has for a column. -/
def Descriptor.bound (d : Descriptor) (columnIdx : ℕ) : Option ColumnPointers :=
  (d.records columnIdx).bind DescriptorRecord.pointers

/-- A descriptor tells what a fetch of the statement will do: it has the pointers and the buffer
length of exactly the columns that are bound, its count is the highest of them, and it has the number
of rows and the offset of the next fetch. -/
structure Mirrors {Q : Type} (s : Statement Q) (d : Descriptor) : Prop where
  columns : ∀ columnIdx < 2 ^ 16, s.bound columnIdx = d.bound columnIdx
  atMost : ∀ columnIdx < 2 ^ 16, s.bound columnIdx ≠ none → (columnIdx : ℤ) ≤ d.header.count
  attained : d.header.count = 0 ∨
    ∃ columnIdx : ℕ, columnIdx < 2 ^ 16 ∧ (columnIdx : ℤ) = d.header.count ∧ s.bound columnIdx ≠ none
  arraySize : d.header.arraySize = s.rowArraySize
  bindOffsetPtr : d.header.bindOffsetPtr = s.columnBindOffset

section Mirrors

variable {Q : Type} {s t : Statement Q} {d d' : Descriptor}

namespace Mirrors

/-- Only the bindings and the members of the fetch count. -/
lemma congr_statement (h : Mirrors s d) (hbindings : t.columnBindings = s.columnBindings)
    (hsize : t.rowArraySize = s.rowArraySize) (hoffset : t.columnBindOffset = s.columnBindOffset) :
    Mirrors t d := by
  have hbound : t.bound = s.bound := by
    funext columnIdx
    rw [Statement.bound, hbindings, Statement.bound]
  refine ⟨?_, ?_, ?_, h.arraySize.trans hsize.symm, h.bindOffsetPtr.trans hoffset.symm⟩
  · rw [hbound]
    exact h.columns
  · rw [hbound]
    exact h.atMost
  · rw [hbound]
    exact h.attained

/-- Only the pointers of the records and three members of the header count. -/
lemma congr_descriptor (h : Mirrors s d) (hbound : ∀ columnIdx < 2 ^ 16, d'.bound columnIdx =
      d.bound columnIdx) (hcount : d'.header.count = d.header.count)
    (hsize : d'.header.arraySize = d.header.arraySize)
    (hoffset : d'.header.bindOffsetPtr = d.header.bindOffsetPtr) : Mirrors s d' := by
  refine ⟨?_, ?_, ?_, hsize.trans h.arraySize, hoffset.trans h.bindOffsetPtr⟩
  · intro columnIdx hlt
    rw [hbound columnIdx hlt]
    exact h.columns columnIdx hlt
  · rw [hcount]
    exact h.atMost
  · rw [hcount]
    exact h.attained

/-- The size of a rowset is set in both places. -/
lemma setArraySize (h : Mirrors s d) (value : ℕ) :
    Mirrors { s with rowArraySize := value }
      { d with header := { d.header with arraySize := value } } :=
  ⟨h.columns, h.atMost, h.attained, rfl, h.bindOffsetPtr⟩

/-- The pointer to the offset is set in both places. -/
lemma setBindOffsetPtr (h : Mirrors s d) (value : Option ℕ) :
    Mirrors { s with columnBindOffset := value }
      { d with header := { d.header with bindOffsetPtr := value } } :=
  ⟨h.columns, h.atMost, h.attained, h.arraySize, rfl⟩

/-- A column is bound in both places. -/
lemma bindColumn (h : Mirrors s d) {columnIdx : ℕ} (hcolumn : columnIdx < 2 ^ 15)
    {targetType bufferLength : ℤ} {targetValue strLengthOrIndicator : Option ℕ}
    {binding : ColumnBinding}
    (hbound : internalBindColumn targetType targetValue bufferLength strLengthOrIndicator =
      .bound binding) :
    Mirrors (s.safeBindColumn columnIdx binding)
      (d.setDescriptorFields columnIdx targetType targetValue bufferLength
        strLengthOrIndicator) := by
  obtain ⟨hpointers, hsome⟩ : binding.pointers = ⟨targetValue, strLengthOrIndicator, bufferLength⟩ ∧
      ¬ (targetValue = none ∧ strLengthOrIndicator = none) := by
    have hlength := (buffer_of_bound hbound).2.1
    unfold internalBindColumn at hbound
    dsimp only at hbound
    split_ifs at hbound with htype hlen hthere
    obtain rfl := BindOutcome.bound.inj hbound
    constructor
    · simp [ColumnBinding.pointers, ColumnBinding.new, ApplicationDataBuffer.new, hlength]
    · rintro ⟨rfl, rfl⟩
      simp at hthere
  have hstatement : ∀ c, (s.safeBindColumn columnIdx binding).bound c =
      if c = columnIdx then some ⟨targetValue, strLengthOrIndicator, bufferLength⟩
      else s.bound c := by
    intro c
    by_cases heq : c = columnIdx
    · subst heq
      simp [Statement.bound, Statement.safeBindColumn, hpointers]
    · simp [Statement.bound, Statement.safeBindColumn, heq]
  have hdescriptor : ∀ c, (d.setDescriptorFields columnIdx targetType targetValue bufferLength
      strLengthOrIndicator).bound c =
      if c = columnIdx then some ⟨targetValue, strLengthOrIndicator, bufferLength⟩
      else d.bound c := by
    intro c
    have hrecords : (d.setDescriptorFields columnIdx targetType targetValue bufferLength
        strLengthOrIndicator).records c =
        if c = columnIdx then
          some ((d.record columnIdx).setBound targetType targetValue bufferLength
            strLengthOrIndicator)
        else d.records c := by
      unfold Descriptor.setDescriptorFields Descriptor.setRecord Descriptor.record
      by_cases heq : c = columnIdx
      · subst heq
        split <;> simp
      · split <;> simp [heq]
    rw [Descriptor.bound, hrecords]
    split
    · simp only [Option.bind_some]
      exact if_neg hsome
    · rfl
  have hcount : (d.setDescriptorFields columnIdx targetType targetValue bufferLength
      strLengthOrIndicator).header.count = max d.header.count columnIdx := by
    have hsmall : toSqlSmallint columnIdx = columnIdx := by
      have hnat : (BitVec.ofNat 16 columnIdx).toNat = columnIdx := by
        rw [BitVec.toNat_ofNat]
        exact Nat.mod_eq_of_lt (by omega)
      unfold toSqlSmallint
      rw [BitVec.toInt_eq_toNat_of_lt (by omega), hnat]
    unfold Descriptor.setDescriptorFields Descriptor.setRecord
    dsimp only
    split
    · change toSqlSmallint columnIdx = _
      rw [hsmall]
      omega
    · omega
  refine ⟨?_, ?_, ?_, ?_, ?_⟩
  · intro c hc
    rw [hstatement, hdescriptor]
    split
    · rfl
    · exact h.columns c hc
  · intro c hc hne
    rw [hcount]
    rw [hstatement] at hne
    split at hne
    · next heq =>
      subst heq
      omega
    · have := h.atMost c hc hne
      omega
  · rw [hcount]
    by_cases hle : (columnIdx : ℤ) ≤ d.header.count
    · rcases h.attained with hzero | ⟨c, hc, hceq, hne⟩
      · exact .inl (by omega)
      · refine .inr ⟨c, hc, by omega, ?_⟩
        rw [hstatement]
        split
        · exact Option.some_ne_none _
        · exact hne
    · refine .inr ⟨columnIdx, by omega, by omega, ?_⟩
      rw [hstatement, if_pos rfl]
      exact Option.some_ne_none _
  · unfold Descriptor.setDescriptorFields Descriptor.setRecord
    dsimp only
    split <;> exact h.arraySize
  · unfold Descriptor.setDescriptorFields Descriptor.setRecord
    dsimp only
    split <;> exact h.bindOffsetPtr

/-- Nothing is unbound when no column is bound. -/
lemma unbindAllColumns (h : Mirrors s d) (hnone : ∀ columnIdx < 2 ^ 16, s.bound columnIdx = none) :
    Mirrors s.safeUnbindAllColumns d := by
  refine ⟨?_, ?_, ?_, h.arraySize, h.bindOffsetPtr⟩
  · intro c hc
    rw [← h.columns c hc, hnone c hc]
    rfl
  · intro c hc hne
    exact absurd rfl hne
  · rcases h.attained with hzero | ⟨c, hc, -, hne⟩
    · exact .inl hzero
    · exact absurd (hnone c hc) hne

/-- A record whose pointers stay is set. -/
lemma setRecord (h : Mirrors s d) {recNum : ℤ} {record : DescriptorRecord}
    (hpointers : 0 ≤ recNum → record.pointers = (d.record recNum).pointers) :
    Mirrors s (d.setRecord recNum record) := by
  refine h.congr_descriptor ?_ rfl rfl rfl
  intro c hc
  unfold Descriptor.bound Descriptor.setRecord
  by_cases heq : (c : ℤ) = recNum
  · subst heq
    dsimp only
    rw [Function.update_self, Option.bind_some, hpointers (by omega)]
    unfold Descriptor.record
    cases d.records c <;> rfl
  · simp [heq]

end Mirrors

end Mirrors

/-! ## Fields that are set to what they are -/

namespace DescriptorRecord

/-- Setting a field keeps the pointers of a record: a pointer is set to what it is, or a length of
a column without pointers. -/
def keepsPointers (field : DescriptorField) (bufferLen : ℤ) (r : DescriptorRecord) : Bool :=
  match field with
  | .dataPtr none => r.pointers.isNone
  | .dataPtr (some buffer) => r.dataPtr = some buffer && r.octetLength = bufferLen
  | .indicatorPtr buffer => r.indicatorPtr = buffer
  | .octetLength value | .length value =>
    r.conciseType ∉ characterTypes || r.pointers.isNone || r.octetLength = toSqlLen value
  | _ => true

variable {r r' : DescriptorRecord}

lemma pointers_eq_none_iff : r.pointers = none ↔ r.dataPtr = none ∧ r.indicatorPtr = none := by
  unfold pointers
  split
  · next h => exact iff_of_true rfl h
  · next h => exact iff_of_false (by simp) h

/-- The pointers are those of three fields. -/
lemma pointers_congr (hdata : r'.dataPtr = r.dataPtr) (hindicator : r'.indicatorPtr = r.indicatorPtr)
    (hlength : r.pointers = none ∨ r'.octetLength = r.octetLength) : r'.pointers = r.pointers := by
  unfold pointers at hlength ⊢
  rw [hdata, hindicator]
  split at hlength
  · next hnone => rw [if_pos hnone, if_pos hnone]
  · rw [hlength.resolve_left (by simp)]

lemma pointers_setConciseType (value : ℤ) : (r.setConciseType value).pointers = r.pointers := by
  unfold setConciseType
  split_ifs <;> rfl

lemma pointers_setDescType (value : ℤ) : (r.setDescType value).pointers = r.pointers := by
  unfold setDescType
  extract_lets typed cleared
  have hcleared : cleared.pointers = r.pointers := by
    dsimp only [cleared, typed]
    split_ifs <;> rfl
  clear_value cleared
  split_ifs <;> exact hcleared

/-- Such a field does keep them. -/
lemma pointers_setField {field : DescriptorField} {bufferLen : ℤ}
    (hkeeps : r.keepsPointers field bufferLen = true) :
    (r.setField field bufferLen).2.pointers = r.pointers := by
  cases field with
  | header | unsupported => rfl
  | octetLengthPtr buffer => rfl
  | conciseType value =>
    simp only [setField]
    split
    · exact pointers_setConciseType value
    · rfl
  | type value =>
    simp only [setField]
    split
    · exact pointers_setDescType value
    · rfl
  | datetimeIntervalCode | datetimeIntervalPrecision =>
    simp only [setField]
    split <;> rfl
  | dataPtr buffer =>
    cases buffer with
    | none => exact pointers_congr rfl rfl (.inl (Option.isNone_iff_eq_none.mp hkeeps))
    | some buffer =>
      obtain ⟨hdata, hlength⟩ : r.dataPtr = some buffer ∧ r.octetLength = bufferLen := by
        simpa [keepsPointers] using hkeeps
      exact pointers_congr hdata.symm rfl (.inr hlength.symm)
  | indicatorPtr buffer =>
    have hindicator : r.indicatorPtr = buffer := of_decide_eq_true hkeeps
    exact pointers_congr rfl hindicator.symm (.inr rfl)
  | octetLength value | length value =>
    simp only [setField]
    split
    · next htype =>
      have hlength : r.pointers = none ∨ r.octetLength = toSqlLen value := by
        simpa [keepsPointers, htype] using hkeeps
      exact pointers_congr rfl rfl (hlength.imp_right Eq.symm)
    · rfl

end DescriptorRecord

end TimestreamOdbc
