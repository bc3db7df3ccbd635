import TimestreamOdbc.Handles

/-!
# Types of descriptor records

A record has its type in three members: the type, the concise type and the code of a date, time or
interval.  Setting one of these fields, or binding a column, writes some of them.
-/

namespace TimestreamOdbc

/-- The members for the type of a record agree: a date, time or interval has a concise type of that
family and the code of the concise type, and any other type is the concise type, without a code. -/
def DescriptorRecord.Consistent (record : DescriptorRecord) : Prop :=
  if record.type = sqlDatetime then
    record.conciseType = 90 + record.datetimeIntervalCode ∧
      1 ≤ record.datetimeIntervalCode ∧ record.datetimeIntervalCode ≤ 3
  else if record.type = sqlInterval then
    record.conciseType = 100 + record.datetimeIntervalCode ∧
      1 ≤ record.datetimeIntervalCode ∧ record.datetimeIntervalCode ≤ 13
  else record.type = record.conciseType ∧ record.datetimeIntervalCode = 0

namespace Descriptor

/-- Every record of a descriptor is consistent. -/
def Consistent (d : Descriptor) : Prop :=
  ∀ recNum record, d.records recNum = some record → record.Consistent

/-! ## Calls on one descriptor -/

/-- A call that sets a field of a descriptor, or binds a column of the statement whose active row
descriptor it is. -/
inductive FieldCall where
  | setField (recNum : ℤ) (field : DescriptorField) (bufferLen : ℤ)
  | bindCol (columnIdx : ℕ) (targetType : ℤ) (targetValue : Option ℕ) (bufferLength : ℤ)
      (strLengthOrIndicator : Option ℕ)
  deriving DecidableEq, Repr

/-- The reply to a call that returns, and what it makes of the descriptor. The column of a data
pointer that is set to null is unbound from the statement, which has to be there. -/
def perform (d : Descriptor) : FieldCall → Option (CallReply × Descriptor)
  | .setField recNum field bufferLen =>
    if -2 ^ 15 ≤ recNum ∧ recNum < 2 ^ 15 ∧ ¬ (unbindsColumn field bufferLen ∧ d.stmt = none) then
      some (d.internalSetField recNum field bufferLen)
    else none
  | .bindCol columnIdx targetType targetValue bufferLength strLengthOrIndicator =>
    if columnIdx < 2 ^ 16 then
      match internalBindColumn targetType targetValue bufferLength strLengthOrIndicator with
      | .rejected diagnostic => some (⟨.aiError, [diagnostic]⟩, d)
      | .bound _ =>
        some (.success, d.setDescriptorFields columnIdx targetType targetValue bufferLength
          strLengthOrIndicator)
      | .unbound => some (.success, d)
    else none

/-- The descriptor after a call that returns. -/
def step (d : Descriptor) (call : FieldCall) : Option Descriptor := (d.perform call).map Prod.snd

/-- A call keeps the records consistent, and changes nothing if it returns an error. -/
def KeepsRecords (d : Descriptor) (call : FieldCall) : Prop :=
  ∀ reply d', d.perform call = some (reply, d') →
    d'.Consistent ∧ (reply.result = .aiError → d' = d)

/-- Whether `SetField` on a record keeps it as it should be: the record is there if the field can not
be set, the code of a date, time or interval is not changed, and the type of one is set only if it is
there already. -/
def setsSafely (d : Descriptor) (recNum : ℤ) : DescriptorField → Bool
  | .header | .unsupported _ => (d.records recNum).isSome
  | .conciseType value => DescriptorRecord.isValidConciseType value ∨ (d.records recNum).isSome
  | .dataPtr _ | .indicatorPtr _ | .octetLengthPtr _ => true
  | .datetimeIntervalCode code =>
    if (d.record recNum).isValidIntervalCode code then
      code = (d.record recNum).datetimeIntervalCode
    else (d.records recNum).isSome
  | .datetimeIntervalPrecision _ =>
    (d.record recNum).type = sqlInterval ∨ (d.records recNum).isSome
  | .octetLength _ | .length _ =>
    (d.record recNum).conciseType ∈ characterTypes ∨ (d.records recNum).isSome
  | .type value =>
    if DescriptorRecord.isValidType value then
      (value = sqlDatetime ∨ value = sqlInterval → (d.record recNum).type = value)
    else (d.records recNum).isSome

/-- The types that binding a column takes for dates, times and intervals. -/
def temporalTypes : List ℤ :=
  [sqlTypeDate, sqlTypeTime, sqlTypeTimestamp, sqlIntervalYearToMonth, sqlIntervalDayToSecond]

/-- Whether a call keeps what it should: what is bound as another type than a date, time or interval
finds no code of one. -/
def isSafe (d : Descriptor) : FieldCall → Bool
  | .setField recNum field bufferLen => lengthRefused bufferLen ∨ d.setsSafely recNum field
  | .bindCol columnIdx targetType targetValue bufferLength strLengthOrIndicator =>
    match internalBindColumn targetType targetValue bufferLength strLengthOrIndicator with
    | .bound _ =>
      targetType ∈ temporalTypes ∨
        (d.record columnIdx).datetimeIntervalCode = 0 ∧
          targetType ≠ sqlDatetime ∧ targetType ≠ sqlInterval
    | _ => true

end Descriptor

/-! ## Records -/

namespace DescriptorRecord

variable {record : DescriptorRecord}

/-- The three members alone count. -/
lemma consistent_congr {record' : DescriptorRecord} (htype : record'.type = record.type)
    (hconcise : record'.conciseType = record.conciseType)
    (hcode : record'.datetimeIntervalCode = record.datetimeIntervalCode) :
    record'.Consistent ↔ record.Consistent := by
  unfold Consistent
  rw [htype, hconcise, hcode]

/-- A new record is consistent. -/
lemma consistent_zero : DescriptorRecord.zero.Consistent := by
  unfold Consistent
  rw [if_neg (by decide), if_neg (by decide)]
  exact ⟨rfl, rfl⟩

/-- The members for the types that binding a column and setting a concise type know. -/
lemma consistent_of_mem (h : (record.type, record.conciseType, record.datetimeIntervalCode) ∈
    [(sqlDatetime, sqlTypeDate, sqlCodeDate), (sqlDatetime, sqlTypeTime, sqlCodeTime),
      (sqlDatetime, sqlTypeTimestamp, sqlCodeTimestamp),
      (sqlInterval, sqlIntervalYearToMonth, sqlCodeYearToMonth),
      (sqlInterval, sqlIntervalDayToSecond, sqlCodeDayToSecond)]) : record.Consistent := by
  simp only [List.mem_cons, List.not_mem_nil, or_false, Prod.mk.injEq] at h
  unfold Consistent
  rcases h with ⟨htype, hconcise, hcode⟩ | ⟨htype, hconcise, hcode⟩ | ⟨htype, hconcise, hcode⟩ |
    ⟨htype, hconcise, hcode⟩ | ⟨htype, hconcise, hcode⟩
  all_goals
    rw [htype, hconcise, hcode]
    decide

/-- A type that can be set is no date, time or interval, or the name of such a family. -/
lemma ne_of_mem_commonTypes {value : ℤ} (h : value ∈ commonTypes) :
    value ≠ sqlDatetime ∧ value ≠ sqlInterval := by
  constructor <;> rintro rfl <;> revert h <;> decide

/-- Setting a valid concise type makes a record consistent. -/
lemma consistent_setConciseType {value : ℤ} (h : isValidConciseType value = true) :
    (record.setConciseType value).Consistent := by
  unfold setConciseType
  split_ifs with hdate htime htimestamp hyear hday
  · subst hdate
    exact consistent_of_mem (.head _)
  · subst htime
    exact consistent_of_mem (.tail _ (.head _))
  · subst htimestamp
    exact consistent_of_mem (.tail _ (.tail _ (.head _)))
  · subst hyear
    exact consistent_of_mem (.tail _ (.tail _ (.tail _ (.head _))))
  · subst hday
    exact consistent_of_mem (.tail _ (.tail _ (.tail _ (.tail _ (.head _)))))
  · have hcommon : value ∈ commonTypes := by
      simp only [isValidConciseType, decide_eq_true_eq, List.mem_append, List.mem_cons, hdate, htime,
        htimestamp, hyear, hday, List.not_mem_nil, or_false] at h
      exact h
    obtain ⟨hdatetime, hinterval⟩ := ne_of_mem_commonTypes hcommon
    unfold Consistent
    rw [if_neg hdatetime, if_neg hinterval]
    exact ⟨rfl, rfl⟩

/-- What setting a type makes of the three members. -/
lemma setDescType_members (value : ℤ) (record : DescriptorRecord) :
    (record.setDescType value).type = value ∧
      (record.setDescType value).conciseType =
        (if value ≠ sqlDatetime ∧ value ≠ sqlInterval then value else record.conciseType) ∧
      (record.setDescType value).datetimeIntervalCode =
        (if value ≠ sqlDatetime ∧ value ≠ sqlInterval then 0 else record.datetimeIntervalCode) := by
  unfold setDescType
  extract_lets typed cleared
  obtain ⟨htype, hconcise, hcode⟩ : cleared.type = value ∧
      cleared.conciseType =
        (if value ≠ sqlDatetime ∧ value ≠ sqlInterval then value else record.conciseType) ∧
      cleared.datetimeIntervalCode =
        (if value ≠ sqlDatetime ∧ value ≠ sqlInterval then 0 else record.datetimeIntervalCode) := by
    dsimp only [cleared, typed]
    split_ifs <;> exact ⟨rfl, rfl, rfl⟩
  -- the rest changes the length, the precision and the scale
  clear_value cleared
  rw [← hconcise, ← hcode]
  split_ifs <;> exact ⟨htype, rfl, rfl⟩

/-- Setting a type keeps a record consistent exactly when a family is set that the type has. -/
lemma consistent_setDescType_iff (h : record.Consistent) (value : ℤ) :
    (record.setDescType value).Consistent ↔
      (value = sqlDatetime ∨ value = sqlInterval → record.type = value) := by
  obtain ⟨htype, hconcise, hcode⟩ := setDescType_members value record
  have hdatetime : sqlDatetime = 9 := rfl
  have hinterval : sqlInterval = 10 := rfl
  unfold Consistent at h ⊢
  rw [htype, hconcise, hcode]
  split_ifs at h ⊢ <;> omega

/-- Setting a valid code keeps a record consistent exactly when it has this code. -/
lemma consistent_setCode_iff (h : record.Consistent) {code : ℤ}
    (hvalid : record.isValidIntervalCode code = true) :
    ({ record with datetimeIntervalCode := code } : DescriptorRecord).Consistent ↔
      code = record.datetimeIntervalCode := by
  unfold isValidIntervalCode at hvalid
  unfold Consistent at h ⊢
  dsimp only
  split_ifs at h hvalid ⊢ with hdatetime hinterval
  · simp only [sqlCodeDate, sqlCodeTime, sqlCodeTimestamp, List.mem_cons, List.not_mem_nil, or_false,
      decide_eq_true_eq] at hvalid
    omega
  · simp only [sqlCodeYearToMonth, sqlCodeDayToSecond, List.mem_cons, List.not_mem_nil, or_false,
      decide_eq_true_eq] at hvalid
    omega

/-- Binding a column makes its record consistent exactly when it is bound as a date, time or interval,
or as another type that is no family and without a code. -/
lemma consistent_setBound_iff (targetType : ℤ) (targetValue : Option ℕ) (bufferLength : ℤ)
    (strLengthOrIndicator : Option ℕ) :
    (record.setBound targetType targetValue bufferLength strLengthOrIndicator).Consistent ↔
      targetType ∈ Descriptor.temporalTypes ∨
        record.datetimeIntervalCode = 0 ∧ targetType ≠ sqlDatetime ∧ targetType ≠ sqlInterval := by
  unfold setBound
  dsimp only
  by_cases hmem : targetType ∈ Descriptor.temporalTypes
  · refine iff_of_true ?_ (.inl hmem)
    simp only [Descriptor.temporalTypes, List.mem_cons, List.not_mem_nil, or_false] at hmem
    rcases hmem with rfl | rfl | rfl | rfl | rfl
    · exact consistent_of_mem (.head _)
    · exact consistent_of_mem (.tail _ (.head _))
    · exact consistent_of_mem (.tail _ (.tail _ (.head _)))
    · exact consistent_of_mem (.tail _ (.tail _ (.tail _ (.head _))))
    · exact consistent_of_mem (.tail _ (.tail _ (.tail _ (.tail _ (.head _)))))
  · rw [or_iff_right hmem]
    simp only [Descriptor.temporalTypes, List.mem_cons, List.not_mem_nil, or_false, not_or] at hmem
    obtain ⟨hdate, htime, htimestamp, hyear, hday⟩ := hmem
    simp only [if_neg hdate, if_neg htime, if_neg htimestamp, if_neg hyear, if_neg hday, Consistent,
      true_and]
    have hdatetime : sqlDatetime = 9 := rfl
    have hinterval : sqlInterval = 10 := rfl
    split_ifs <;> omega

/-- An error leaves the record as it was. -/
lemma eq_of_setField_error {field : DescriptorField} {bufferLen : ℤ}
    (h : (record.setField field bufferLen).1.result = .aiError) :
    (record.setField field bufferLen).2 = record := by
  unfold setField at h ⊢
  cases field with
  | dataPtr buffer => cases buffer <;> cases h
  | indicatorPtr buffer => cases h
  | octetLengthPtr buffer => cases h
  | header => rfl
  | unsupported fieldId => rfl
  | _ =>
    dsimp only at h ⊢
    split at h
    · cases h
    · next hnot => rw [if_neg hnot]

end DescriptorRecord

/-! ## One call -/

namespace Descriptor

section Call

variable {d : Descriptor} {recNum : ℤ} {r : DescriptorRecord}

/-- A record of a consistent descriptor is consistent, and so is the one that is made for a number
without one. -/
lemma Consistent.record (h : d.Consistent) (recNum : ℤ) : (d.record recNum).Consistent := by
  unfold Descriptor.record
  rcases hrecord : d.records recNum with _ | record
  · exact DescriptorRecord.consistent_zero
  · exact h recNum record hrecord

@[simp] lemma records_setRecord_self : (d.setRecord recNum r).records recNum = some r :=
  Function.update_self _ _ _

lemma records_setRecord_of_ne {recNum' : ℤ} (hne : recNum' ≠ recNum) :
    (d.setRecord recNum r).records recNum' = d.records recNum' :=
  Function.update_of_ne hne _ _

/-- Only the record that is replaced counts. -/
lemma consistent_setRecord_iff (h : d.Consistent) :
    (d.setRecord recNum r).Consistent ↔ r.Consistent := by
  constructor
  · intro hset
    exact hset recNum r records_setRecord_self
  · intro hr recNum' r' hsome
    by_cases heq : recNum' = recNum
    · subst heq
      rw [records_setRecord_self] at hsome
      exact Option.some.inj hsome ▸ hr
    · rw [records_setRecord_of_ne heq] at hsome
      exact h recNum' r' hsome

/-- A record is as it was exactly when it was there. -/
lemma setRecord_record_eq_self_iff :
    d.setRecord recNum (d.record recNum) = d ↔ (d.records recNum).isSome = true := by
  constructor
  · intro h
    have hrecords := congrFun (congrArg Descriptor.records h) recNum
    rw [← hrecords, records_setRecord_self]
    rfl
  · intro h
    obtain ⟨record, hrecord⟩ := Option.isSome_iff_exists.mp h
    have hself : some (d.record recNum) = d.records recNum := by
      rw [Descriptor.record, hrecord]
      rfl
    rw [setRecord, hself, Function.update_eq_self]

/-- A field that is set keeps the record consistent if what it is set to does, and one that is refused
if the record is there. -/
lemma guarded_iff {p : Prop} [Decidable p] (hr : r.Consistent) {r' : DescriptorRecord}
    {refused : CallReply} (hrefused : refused.result = .aiError) {present : Bool} :
    ((if p then (CallReply.success, r') else (refused, r)).2.Consistent ∧
      ((if p then (CallReply.success, r') else (refused, r)).1.result = .aiError →
        present = true)) ↔ if p then r'.Consistent else present = true := by
  have hsuccess : CallReply.success.result ≠ .aiError := by decide
  by_cases hp : p
  · rw [if_pos hp, if_pos hp]
    exact and_iff_left fun herror => absurd herror hsuccess
  · rw [if_neg hp, if_neg hp]
    exact ⟨fun h => h.2 hrefused, fun hpresent => ⟨hr, fun _ => hpresent⟩⟩

/-- A guard that suffices is one of two ways to be safe. -/
lemma if_consistent_iff {p : Prop} [Decidable p] (hr : r.Consistent) {present : Bool} :
    (if p then r.Consistent else present = true) ↔ decide (p ∨ present = true) = true := by
  rw [decide_eq_true_eq]
  split_ifs with hp
  · exact iff_of_true hr (.inl hp)
  · exact (or_iff_right hp).symm

/-- Setting a field keeps the record consistent, and the record is there if it fails, exactly when the
field is set safely. -/
lemma setField_iff (h : d.Consistent) (field : DescriptorField) (bufferLen : ℤ) :
    (((d.record recNum).setField field bufferLen).2.Consistent ∧
      (((d.record recNum).setField field bufferLen).1.result = .aiError →
        (d.records recNum).isSome = true)) ↔ d.setsSafely recNum field = true := by
  have hrecord := h.record recNum
  have hsuccess : CallReply.success.result ≠ .aiError := by decide
  cases field with
  | header => exact ⟨fun hset => hset.2 rfl, fun hpresent => ⟨hrecord, fun _ => hpresent⟩⟩
  | unsupported fieldId => exact ⟨fun hset => hset.2 rfl, fun hpresent => ⟨hrecord, fun _ => hpresent⟩⟩
  | dataPtr buffer =>
    cases buffer with
    | none => exact iff_of_true ⟨hrecord, fun herror => absurd herror hsuccess⟩ rfl
    | some buffer => exact iff_of_true ⟨hrecord, fun herror => absurd herror hsuccess⟩ rfl
  | indicatorPtr buffer => exact iff_of_true ⟨hrecord, fun herror => absurd herror hsuccess⟩ rfl
  | octetLengthPtr buffer => exact iff_of_true ⟨hrecord, fun herror => absurd herror hsuccess⟩ rfl
  | conciseType value =>
    refine (guarded_iff hrecord rfl).trans ?_
    by_cases hvalid : DescriptorRecord.isValidConciseType value = true
    · rw [if_pos hvalid]
      exact iff_of_true (DescriptorRecord.consistent_setConciseType hvalid)
        (decide_eq_true (.inl hvalid))
    · rw [if_neg hvalid, setsSafely, decide_eq_true_eq, or_iff_right hvalid]
  | datetimeIntervalCode code =>
    refine (guarded_iff hrecord rfl).trans ?_
    by_cases hvalid : (d.record recNum).isValidIntervalCode code = true
    · rw [if_pos hvalid, DescriptorRecord.consistent_setCode_iff hrecord hvalid, setsSafely,
        if_pos hvalid, decide_eq_true_eq]
    · rw [if_neg hvalid, setsSafely, if_neg hvalid]
  | datetimeIntervalPrecision value =>
    exact (guarded_iff hrecord rfl).trans (if_consistent_iff hrecord)
  | octetLength value => exact (guarded_iff hrecord rfl).trans (if_consistent_iff hrecord)
  | length value => exact (guarded_iff hrecord rfl).trans (if_consistent_iff hrecord)
  | type value =>
    refine (guarded_iff hrecord rfl).trans ?_
    by_cases hvalid : DescriptorRecord.isValidType value = true
    · rw [if_pos hvalid, DescriptorRecord.consistent_setDescType_iff hrecord, setsSafely,
        if_pos hvalid, decide_eq_true_eq]
    · rw [if_neg hvalid, setsSafely, if_neg hvalid]

/-- A field is set in the record of its number. -/
lemma internalSetField_eq (recNum : ℤ) (field : DescriptorField) (bufferLen : ℤ) (d : Descriptor) :
    d.internalSetField recNum field bufferLen =
      if lengthRefused bufferLen then
        (.error .sHY000GeneralError ("Invalid buffer length " ++ toString bufferLen), d)
      else (((d.record recNum).setField field bufferLen).1,
        d.setRecord recNum ((d.record recNum).setField field bufferLen).2) := rfl

/-- A column is bound in the record of its number. -/
lemma consistent_setDescriptorFields_iff (h : d.Consistent) (columnIdx : ℕ) (targetType : ℤ)
    (targetValue : Option ℕ) (bufferLength : ℤ) (strLengthOrIndicator : Option ℕ) :
    (d.setDescriptorFields columnIdx targetType targetValue bufferLength
        strLengthOrIndicator).Consistent ↔
      ((d.record columnIdx).setBound targetType targetValue bufferLength
        strLengthOrIndicator).Consistent := by
  unfold setDescriptorFields
  split
  · exact consistent_setRecord_iff (d := { d with header := { d.header with
      count := toSqlSmallint columnIdx } }) h
  · exact consistent_setRecord_iff h

/-- A call that returns keeps the records of a consistent descriptor exactly when it is safe. -/
lemma keepsRecords_iff (h : d.Consistent) {call : FieldCall} {d' : Descriptor}
    (hstep : d.step call = some d') : d.KeepsRecords call ↔ d.isSafe call = true := by
  obtain ⟨⟨reply, after⟩, hperform, rfl⟩ := Option.map_eq_some_iff.mp hstep
  have hkeeps : d.KeepsRecords call ↔
      after.Consistent ∧ (reply.result = .aiError → after = d) := by
    constructor
    · intro hkeeps
      exact hkeeps reply after hperform
    · rintro hkeeps reply' after' hperform'
      obtain ⟨rfl, rfl⟩ := Prod.mk.inj (Option.some.inj (hperform.symm.trans hperform'))
      exact hkeeps
  rw [hkeeps]
  cases call with
  | setField recNum field bufferLen =>
    dsimp only [perform] at hperform
    split at hperform
    · have hset := Option.some.inj hperform
      dsimp only [isSafe]
      rw [internalSetField_eq] at hset
      by_cases hlength : lengthRefused bufferLen = true
      · rw [if_pos hlength] at hset
        obtain ⟨rfl, rfl⟩ := Prod.mk.inj hset
        exact iff_of_true ⟨h, fun _ => rfl⟩ (decide_eq_true (.inl hlength))
      · rw [if_neg hlength] at hset
        obtain ⟨rfl, rfl⟩ := Prod.mk.inj hset
        simp only [hlength, Bool.false_eq_true, false_or, decide_eq_true_eq]
        rw [consistent_setRecord_iff h, ← setField_iff h field bufferLen]
        refine and_congr_right fun _ => forall_congr' fun herror => ?_
        rw [DescriptorRecord.eq_of_setField_error herror, setRecord_record_eq_self_iff]
    · cases hperform
  | bindCol columnIdx targetType targetValue bufferLength strLengthOrIndicator =>
    dsimp only [perform] at hperform
    dsimp only [isSafe]
    split at hperform
    · generalize internalBindColumn targetType targetValue bufferLength strLengthOrIndicator = outcome
        at hperform ⊢
      cases outcome with
      | rejected diagnostic =>
        obtain ⟨rfl, rfl⟩ := Prod.mk.inj (Option.some.inj hperform)
        exact iff_of_true ⟨h, fun _ => rfl⟩ rfl
      | unbound =>
        obtain ⟨rfl, rfl⟩ := Prod.mk.inj (Option.some.inj hperform)
        exact iff_of_true ⟨h, fun _ => rfl⟩ rfl
      | bound binding =>
        obtain ⟨rfl, rfl⟩ := Prod.mk.inj (Option.some.inj hperform)
        have hsuccess : ¬ CallReply.success.result = .aiError := by decide
        simp only [hsuccess, false_implies, and_true, decide_eq_true_eq]
        rw [consistent_setDescriptorFields_iff h, DescriptorRecord.consistent_setBound_iff]
    · cases hperform

end Call

/-! ## Runs -/

/-- In a run of calls on a consistent descriptor every call keeps the records consistent, and changes
nothing if it returns an error, exactly when every call is safe where it is made. -/
theorem keepsRecords_run_iff {d d' : Descriptor} {calls : List FieldCall} (hd : d.Consistent)
    (hrun : TransitionSystem.run step d calls = some d') :
    TransitionSystem.Meets KeepsRecords step d calls ↔
      TransitionSystem.Meets (fun d call => d.isSafe call = true) step d calls := by
  refine TransitionSystem.meets_iff_of_run (I := Consistent)
    (fun d call d' hd hstep => keepsRecords_iff hd hstep) ?_ hd hrun
  intro d call d' hkeeps _ hstep
  obtain ⟨⟨reply, after⟩, hperform, rfl⟩ := Option.map_eq_some_iff.mp hstep
  exact (hkeeps reply after hperform).1

/-- The row descriptor of a new statement. -/
def sampleArd : Descriptor := { Descriptor.new with type := .ard, stmt := some 7 }.initAppHead true

/-- It has no records. -/
lemma consistent_sampleArd : sampleArd.Consistent := fun _ _ h => by cases h

/-- A column is bound as a date and its concise type is set. -/
theorem keepsRecords_date : TransitionSystem.Meets KeepsRecords step sampleArd
    [.bindCol 1 sqlTypeDate (some 100) 6 none, .setField 1 (.conciseType sqlTypeTime) 0] := by
  refine (keepsRecords_run_iff consistent_sampleArd rfl).mpr ⟨by decide, ?_⟩
  intro d' _
  have hvalid : DescriptorRecord.isValidConciseType sqlTypeTime = true := by decide
  exact ⟨by simp [isSafe, setsSafely, hvalid], fun _ _ => trivial⟩

/-- A type that is set on its own leaves the concise type as it was. -/
theorem not_keepsRecords_type : ¬ ∀ (d d' : Descriptor) (calls : List FieldCall), d.Consistent →
    TransitionSystem.run step d calls = some d' →
      TransitionSystem.Meets KeepsRecords step d calls := by
  intro h
  have hkeeps := (h sampleArd _ [.setField 1 (.type sqlDatetime) 0] consistent_sampleArd rfl).1
  have hconsistent := (hkeeps _ _ rfl).1 1 _ rfl
  exact absurd hconsistent.2.1 (by decide)

end Descriptor

/-! ## The calls of an application -/

namespace Handles

variable {Q : Type} {K : QueryClass Q} {h h' : Handles Q} {reply : CallReply} {desc : DescriptorId}
  {held : HeldDescriptor}

/-- `SQLSetDescField` on a descriptor is the call on it. -/
lemma perform_setDescField (hdesc : h.descriptors desc = some held) {recNum bufferLen : ℤ}
    {field : DescriptorField}
    (hcall : h.perform K (.setDescField desc recNum field bufferLen) = some (.returned reply h')) :
    ∃ d', held.descriptor.perform (.setField recNum field bufferLen) = some (reply, d') ∧
      h'.descriptors desc = some { held with descriptor := d' } := by
  simp only [perform, hdesc, Option.map_some] at hcall
  split at hcall
  · next hbounds =>
    have hset := Option.some.inj hcall
    refine ⟨(held.descriptor.internalSetField recNum field bufferLen).2, ?_⟩
    unfold setDescField at hset
    dsimp only at hset
    split at hset
    · split at hset
      · cases hset
      · next stmt hstmt =>
        split at hset
        · cases hset
        · obtain ⟨rfl, rfl⟩ := HandleOutcome.returned.inj hset
          refine ⟨if_pos ⟨hbounds.1, hbounds.2, ?_⟩, by simp [updateStatement, updateDescriptor, hdesc]⟩
          simp [hstmt]
    · next hkept =>
      obtain ⟨rfl, rfl⟩ := HandleOutcome.returned.inj hset
      refine ⟨if_pos ⟨hbounds.1, hbounds.2, ?_⟩, by simp [updateDescriptor, hdesc]⟩
      simp [hkept]
  · cases hcall

/-- `SQLBindCol` on a statement is the call on its active row descriptor. -/
lemma perform_bindCol {stmt : StatementId} {s : HeldStatement Q}
    (hstmt : h.statements stmt = some s) (hdesc : h.descriptors s.statement.descriptors.ard = some held)
    {columnIdx : ℕ} {targetType bufferLength : ℤ} {targetValue strLengthOrIndicator : Option ℕ}
    (hcall : h.perform K (.bindCol stmt columnIdx targetType targetValue bufferLength
      strLengthOrIndicator) = some (.returned reply h')) :
    ∃ d', held.descriptor.perform (.bindCol columnIdx targetType targetValue bufferLength
        strLengthOrIndicator) = some (reply, d') ∧
      h'.descriptors s.statement.descriptors.ard = some { held with descriptor := d' } := by
  simp only [perform, hstmt, Option.map_some] at hcall
  split at hcall
  · next hbounds =>
    have hset := Option.some.inj hcall
    unfold bindCol at hset
    split at hset
    · next diagnostic houtcome =>
      obtain ⟨rfl, rfl⟩ := HandleOutcome.returned.inj hset
      exact ⟨held.descriptor, by rw [Descriptor.perform, if_pos hbounds, houtcome], hdesc⟩
    · next binding houtcome =>
      rw [hdesc] at hset
      obtain ⟨rfl, rfl⟩ := HandleOutcome.returned.inj hset
      exact ⟨_, by rw [Descriptor.perform, if_pos hbounds, houtcome],
        by simp [updateStatement, updateDescriptor, hdesc]⟩
    · next houtcome =>
      obtain ⟨rfl, rfl⟩ := HandleOutcome.returned.inj hset
      exact ⟨held.descriptor, by rw [Descriptor.perform, if_pos hbounds, houtcome], hdesc⟩
  · cases hcall

end Handles

end TimestreamOdbc
