import TimestreamOdbc.OutputTexts

/-!
# Diagnostics of handles

Environments, connections, statements and descriptors each have a `DiagnosticRecordStorage`.  A driver
function clears the one of its handle, adds records to it and sets its header; `SQLError` reports the
first record that it has not reported before, of the first handle that it is given, and `SQLGetDiagRec`
and `SQLGetDiagField` report any record any number of times.

Since the last clearing of a handle, `SQLError` has reported the records in the order in which they were
added, each of them once.
-/

namespace TimestreamOdbc

/-! ## The storage -/

/-- A `DiagnosticRecord` with its mark. -/
structure StoredRecord where
  record : DiagnosticRecord
  retrieved : Bool
  deriving DecidableEq, Repr

/-- `DiagnosticRecordStorage`. -/
structure DiagnosticRecordStorage where
  rowCount : ℤ
  dynamicFunction : String
  dynamicFunctionCode : ℤ
  result : SqlResult
  rowsAffected : ℤ
  statusRecords : List StoredRecord
  deriving DecidableEq, Repr

namespace DiagnosticRecordStorage

/-- The constructor. -/
def new : DiagnosticRecordStorage :=
  { rowCount := 0, dynamicFunction := "", dynamicFunctionCode := 0, result := .aiSuccess
    rowsAffected := 0, statusRecords := [] }

/-- `SetHeaderRecord`. -/
def setHeaderRecord (result : SqlResult) (s : DiagnosticRecordStorage) : DiagnosticRecordStorage :=
  { s with rowCount := 0, dynamicFunction := "", dynamicFunctionCode := 0, result, rowsAffected := 0 }

/-- `AddStatusRecord`. -/
def addStatusRecord (record : DiagnosticRecord) (s : DiagnosticRecordStorage) :
    DiagnosticRecordStorage :=
  { s with statusRecords := s.statusRecords ++ [⟨record, false⟩] }

/-- `Reset`. -/
def reset (s : DiagnosticRecordStorage) : DiagnosticRecordStorage :=
  { s.setHeaderRecord .aiError with statusRecords := [] }

/-- `GetStatusRecordsNumber`. -/
def getStatusRecordsNumber (s : DiagnosticRecordStorage) : ℕ := s.statusRecords.length

/-- `GetLastNonRetrieved`, which is the first one: its number, from 1 on, or 0. -/
def getLastNonRetrieved (s : DiagnosticRecordStorage) : ℕ :=
  match s.statusRecords.findIdx? fun stored => !stored.retrieved with
  | some i => i + 1
  | none => 0

/-- `MarkRetrieved` of the record with a number. -/
def markRetrieved (recNum : ℕ) (s : DiagnosticRecordStorage) : DiagnosticRecordStorage :=
  { s with statusRecords := s.statusRecords.modify (recNum - 1) fun stored =>
      { stored with retrieved := true } }

/-- The records without their marks. -/
def records (s : DiagnosticRecordStorage) : List DiagnosticRecord :=
  s.statusRecords.map StoredRecord.record

end DiagnosticRecordStorage

/-! ## Fields -/

/-- `DiagnosticField::Type`. -/
inductive DiagnosticField where
  | headerCursorRowCount
  | headerDynamicFunction
  | headerDynamicFunctionCode
  | headerNumber
  | headerReturncode
  | headerRowCount
  | statusClassOrigin
  | statusColumnNumber
  | statusConnectionName
  | statusMessageText
  | statusNative
  | statusRowNumber
  | statusServerName
  | statusSqlstate
  | statusSubclassOrigin
  | unknown
  deriving DecidableEq, Repr

/-- The value that is put into the buffer for a field. -/
inductive DiagnosticValue where
  | int64 (value : ℤ)
  | int32 (value : ℤ)
  | string (value : String)
  deriving DecidableEq, Repr

/-- The number of an `SQLRETURN`. -/
def ReturnCode.code : ReturnCode → ℤ
  | .success => 0
  | .successWithInfo => 1
  | .error => -1
  | .noData => 100
  | .needData => 99
  | .invalidHandle => -2

/-- `GetClassOrigin`. -/
def DiagnosticRecord.getClassOrigin (record : DiagnosticRecord) : String :=
  match record.sqlState.text.toList with
  | 'I' :: 'M' :: _ => "ODBC 3.0"
  | _ => "ISO 9075"

/-- The states with a subclass of ODBC. -/
def odbcSubclasses : List String :=
  ["01S00", "01S01", "01S02", "01S06", "01S07", "07S01", "08S01", "21S01", "21S02", "25S01", "25S02",
    "25S03", "42S01", "42S02", "42S11", "42S12", "42S21", "42S22", "HY024", "HY095", "HY097", "HY098",
    "HY099", "HY100", "HY101", "HY105", "HY107", "HY109", "HY110", "HY111", "HYT00", "HYT01", "IM001",
    "IM002", "IM003", "IM004", "IM005", "IM006", "IM007", "IM008", "IM010", "IM011", "IM012"]

/-- `GetSubclassOrigin`. -/
def DiagnosticRecord.getSubclassOrigin (record : DiagnosticRecord) : String :=
  if record.sqlState.text ∈ odbcSubclasses then "ODBC 3.0" else "ISO 9075"

/-- The value of a field of a record, if it is one. The names of the connection and of the server are
those that all records are made with. -/
def DiagnosticRecord.field (record : DiagnosticRecord) : DiagnosticField → Option DiagnosticValue
  | .statusClassOrigin => some (.string record.getClassOrigin)
  | .statusColumnNumber => some (.int32 record.columnNum)
  | .statusConnectionName => some (.string "")
  | .statusMessageText => some (.string record.message)
  | .statusNative => some (.int32 0)
  | .statusRowNumber => some (.int64 record.rowNum)
  | .statusServerName => some (.string "")
  | .statusSqlstate => some (.string record.sqlState.text)
  | .statusSubclassOrigin => some (.string record.getSubclassOrigin)
  | _ => none

/-- The value of a field of the header, if it is one. -/
def DiagnosticRecordStorage.headerField (s : DiagnosticRecordStorage) :
    DiagnosticField → Option DiagnosticValue
  | .headerCursorRowCount => some (.int64 s.rowCount)
  | .headerDynamicFunction => some (.string s.dynamicFunction)
  | .headerDynamicFunctionCode => some (.int32 s.dynamicFunctionCode)
  | .headerNumber => some (.int32 s.getStatusRecordsNumber)
  | .headerReturncode => some (.int32 s.result.toReturnCode.code)
  | .headerRowCount => some (.int64 s.rowsAffected)
  | _ => none

/-- `GetField`: its result and the value that it puts. -/
def DiagnosticRecordStorage.getField (s : DiagnosticRecordStorage) (recNum : ℤ)
    (field : DiagnosticField) : SqlResult × Option DiagnosticValue :=
  match s.headerField field with
  | some value => (.aiSuccess, some value)
  | none =>
    if recNum < 1 ∨ s.getStatusRecordsNumber < recNum then (.aiNoData, none)
    else
      match (s.records[recNum.toNat - 1]?).bind fun record => record.field field with
      | some value => (.aiSuccess, some value)
      | none => (.aiError, none)

/-- `SQLGetDiagField` of the storage of the object that the handle points to. -/
def sqlGetDiagField (handleType : ℤ) (storage : DiagnosticRecordStorage) (recNum : ℤ)
    (field : DiagnosticField) : ReturnCode × Option DiagnosticValue :=
  -- SQL_HANDLE_ENV, SQL_HANDLE_DBC, SQL_HANDLE_STMT; there is no case for descriptors
  if handleType ∈ [1, 2, 3] then
    let (result, value) := storage.getField recNum field
    (result.toReturnCode, value)
  else (.noData, none)

/-! ## Reports -/

/-- The pointers and the length that `SQLError` is given. -/
structure ErrorBuffers where
  state : Bool
  error : Bool
  msgBuf : Bool
  msgBufLen : ℤ
  msgResLen : Bool
  deriving DecidableEq, Repr

/-- What `SQLError` leaves behind for a record. It is a success even if the message is cut. -/
def errorOutcome (P : Platform) (buffers : ErrorBuffers) (record : DiagnosticRecord) :
    DiagRecOutcome :=
  let copied := Utility.copyStringToBuffer P (Utf8.encode record.message.toList) buffers.msgBuf
    (int16ToSizeT buffers.msgBufLen) false
  ⟨⟨.success, copied.stored, if buffers.msgResLen then some (toSmallint copied.count) else none⟩,
    if buffers.state then
      (Utility.copyStringToBuffer P (Utf8.encode record.sqlState.text.toList) true 6 false).stored
    else none,
    if buffers.error then some 0 else none⟩

/-- The record that `SQLError` takes from a storage, which it marks. -/
def DiagnosticRecordStorage.retrieve (s : DiagnosticRecordStorage) :
    Option DiagnosticRecord × DiagnosticRecordStorage :=
  let recNum := s.getLastNonRetrieved
  if recNum < 1 ∨ s.getStatusRecordsNumber < recNum then (none, s)
  else (s.records[recNum - 1]?, s.markRetrieved recNum)

section Calls

variable {H : Type} [DecidableEq H]

/-- The handle that `SQLError` looks at: the first one that is not null. -/
def errorHandle (env conn stmt : Option H) : Option H := env.or (conn.or stmt)

/-- `SQLError`. -/
def sqlError (P : Platform) (storages : H → DiagnosticRecordStorage) (env conn stmt : Option H)
    (buffers : ErrorBuffers) : DiagRecOutcome × (H → DiagnosticRecordStorage) :=
  match errorHandle env conn stmt with
  | none => (.exited .invalidHandle, storages)
  | some object =>
    match (storages object).retrieve with
    | (none, _) => (.exited .noData, storages)
    | (some record, s) => (errorOutcome P buffers record, Function.update storages object s)

/-- What is done with the storages of objects, by driver functions and by the application. -/
inductive DiagnosticCall (H : Type) where
  | reset (object : H)
  | addStatusRecord (object : H) (record : DiagnosticRecord)
  | setHeaderRecord (object : H) (result : SqlResult)
  | sqlError (env conn stmt : Option H) (buffers : ErrorBuffers)

/-- The storages after a call. -/
def DiagnosticCall.perform (P : Platform) (storages : H → DiagnosticRecordStorage) :
    DiagnosticCall H → H → DiagnosticRecordStorage
  | .reset object => Function.update storages object (storages object).reset
  | .addStatusRecord object record =>
    Function.update storages object ((storages object).addStatusRecord record)
  | .setHeaderRecord object result =>
    Function.update storages object ((storages object).setHeaderRecord result)
  | .sqlError env conn stmt buffers => (TimestreamOdbc.sqlError P storages env conn stmt buffers).2

/-- The object and the record that a call reports. -/
def DiagnosticCall.reported (storages : H → DiagnosticRecordStorage) :
    DiagnosticCall H → Option (H × DiagnosticRecord)
  | .sqlError env conn stmt _ =>
    (errorHandle env conn stmt).bind fun object => (storages object).retrieve.1.map (object, ·)
  | _ => none

/-- What happened to an object since it was cleared last: the records that were added, those that
`SQLError` has reported, and the result that was set. -/
structure DiagnosticHistory where
  added : List DiagnosticRecord
  reported : List DiagnosticRecord
  result : SqlResult
  deriving DecidableEq, Repr

/-- The history of an object after a call, which may have reported a record. -/
def DiagnosticHistory.next (object : H) (h : DiagnosticHistory) (call : DiagnosticCall H)
    (reported : Option (H × DiagnosticRecord)) : DiagnosticHistory :=
  match call with
  | .reset object' => if object' = object then ⟨[], [], .aiError⟩ else h
  | .addStatusRecord object' record =>
    if object' = object then { h with added := h.added ++ [record] } else h
  | .setHeaderRecord object' result => if object' = object then { h with result } else h
  | .sqlError .. =>
    match reported with
    | some (object', record) =>
      if object' = object then { h with reported := h.reported ++ [record] } else h
    | none => h

/-- The storages of all objects, with what happened to each. -/
structure Diagnosed (H : Type) where
  storages : H → DiagnosticRecordStorage
  history : H → DiagnosticHistory

/-- New objects. -/
def Diagnosed.new : Diagnosed H := ⟨fun _ => .new, fun _ => ⟨[], [], .aiSuccess⟩⟩

/-- The storages and the histories after a call. -/
def Diagnosed.step (P : Platform) (s : Diagnosed H) (call : DiagnosticCall H) : Diagnosed H :=
  ⟨call.perform P s.storages,
    fun object => (s.history object).next object call (call.reported s.storages)⟩

/-! ## One storage -/

/-- A storage has the reported records in front, with marks, and those that wait behind them. -/
structure Agrees (s : DiagnosticRecordStorage) (h : DiagnosticHistory)
    (pending : List DiagnosticRecord) : Prop where
  added : h.reported ++ pending = h.added
  statusRecords : s.statusRecords = h.reported.map (⟨·, true⟩) ++ pending.map (⟨·, false⟩)
  header : s = { DiagnosticRecordStorage.new with
    result := h.result, statusRecords := s.statusRecords }

section Agrees

variable {s : DiagnosticRecordStorage} {h : DiagnosticHistory} {pending : List DiagnosticRecord}

/-- The records are those that were added. -/
lemma Agrees.records (hs : Agrees s h pending) : s.records = h.added := by
  rw [DiagnosticRecordStorage.records, hs.statusRecords, ← hs.added]
  simp [Function.comp_def]

/-- The first record without a mark is behind those with one. -/
lemma Agrees.getLastNonRetrieved (hs : Agrees s h pending) :
    s.getLastNonRetrieved = if pending = [] then 0 else h.reported.length + 1 := by
  have hmarked : (h.reported.map (StoredRecord.mk · true)).findIdx? (fun stored => !stored.retrieved) =
      none := by
    simp [List.findIdx?_eq_none_iff]
  rw [DiagnosticRecordStorage.getLastNonRetrieved, hs.statusRecords, List.findIdx?_append, hmarked]
  cases pending with
  | nil => simp
  | cons record rest => simp [List.findIdx?_cons]

/-- The element behind the first ones is changed. -/
lemma modify_append_length {α : Type*} (front : List α) (x : α) (rest : List α) (f : α → α) :
    (front ++ x :: rest).modify front.length f = front ++ f x :: rest := by
  induction front with
  | nil => rfl
  | cons y front ih => rw [List.cons_append, List.length_cons, List.modify_succ_cons, ih]; rfl

/-- What waits is retrieved one by one from the front. -/
lemma Agrees.retrieve (hs : Agrees s h pending) :
    s.retrieve.1 = pending.head? ∧
      Agrees s.retrieve.2 { h with reported := h.reported ++ pending.head?.toList } pending.tail := by
  have hlast := hs.getLastNonRetrieved
  cases pending with
  | nil =>
    have hnone : s.retrieve = (none, s) := by
      simp [DiagnosticRecordStorage.retrieve, hlast]
    rw [hnone]
    exact ⟨rfl, by simpa using hs⟩
  | cons record rest =>
    rw [if_neg (List.cons_ne_nil _ _)] at hlast
    have hnumber : s.getStatusRecordsNumber = h.reported.length + (rest.length + 1) := by
      rw [DiagnosticRecordStorage.getStatusRecordsNumber, hs.statusRecords]
      simp
    have hinside : ¬ (h.reported.length + 1 < 1 ∨
        h.reported.length + (rest.length + 1) < h.reported.length + 1) := by omega
    have hsome : s.retrieve =
        (s.records[h.reported.length]?, s.markRetrieved (h.reported.length + 1)) := by
      rw [DiagnosticRecordStorage.retrieve, hlast, hnumber]
      exact if_neg hinside
    rw [hsome]
    refine ⟨?_, ?_, ?_, ?_⟩
    · rw [hs.records, ← hs.added]
      simp
    · simpa using hs.added
    · have hmark := modify_append_length (h.reported.map (StoredRecord.mk · true)) ⟨record, false⟩
        (rest.map (StoredRecord.mk · false)) fun stored => { stored with retrieved := true }
      rw [List.length_map] at hmark
      simp [DiagnosticRecordStorage.markRetrieved, hs.statusRecords, hmark]
    · rw [DiagnosticRecordStorage.markRetrieved, hs.header]

/-- A field is read as if nothing had been reported. -/
lemma Agrees.getField (hs : Agrees s h pending) (recNum : ℤ) (field : DiagnosticField) :
    s.getField recNum field =
      { DiagnosticRecordStorage.new with
        result := h.result, statusRecords := h.added.map (⟨·, false⟩) }.getField recNum field := by
  set t : DiagnosticRecordStorage :=
    { DiagnosticRecordStorage.new with
      result := h.result, statusRecords := h.added.map (⟨·, false⟩) } with ht
  have hrecords : s.records = t.records := by
    rw [hs.records, DiagnosticRecordStorage.records]
    simp [ht, Function.comp_def]
  have hnumber : s.getStatusRecordsNumber = t.getStatusRecordsNumber := by
    have hlength := congrArg List.length hrecords
    rw [DiagnosticRecordStorage.records, DiagnosticRecordStorage.records, List.length_map,
      List.length_map] at hlength
    exact hlength
  have hheader : s.headerField field = t.headerField field := by
    rw [hs.header] at hnumber ⊢
    cases field with
    | headerNumber => exact congrArg (fun n : ℕ => some (DiagnosticValue.int32 n)) hnumber
    | _ => rfl
  rw [DiagnosticRecordStorage.getField, DiagnosticRecordStorage.getField, hheader, hrecords, hnumber]

end Agrees

/-! ## Runs -/

/-- The record that `SQLError` reports, if there is one, decides what it leaves behind. -/
lemma sqlError_eq (P : Platform) (storages : H → DiagnosticRecordStorage) {env conn stmt : Option H}
    (buffers : ErrorBuffers) {object : H} (hobject : errorHandle env conn stmt = some object) :
    (sqlError P storages env conn stmt buffers).1 =
      (storages object).retrieve.1.elim (.exited .noData) (errorOutcome P buffers) := by
  simp only [sqlError, hobject]
  rcases (storages object).retrieve with ⟨_ | record, s⟩ <;> rfl

/-- A call keeps the storage of each object in agreement with its history. -/
lemma Agrees.step {P : Platform} {s : Diagnosed H} {object : H}
    (hs : ∃ pending, Agrees (s.storages object) (s.history object) pending)
    (call : DiagnosticCall H) :
    ∃ pending, Agrees ((s.step P call).storages object) ((s.step P call).history object) pending := by
  obtain ⟨pending, hs⟩ := hs
  unfold Diagnosed.step
  cases call with
  | reset object' =>
    by_cases hsame : object' = object
    · subst hsame
      refine ⟨[], ?_⟩
      simp only [DiagnosticCall.perform, DiagnosticHistory.next, Function.update_self, if_true]
      exact ⟨rfl, rfl, rfl⟩
    · refine ⟨pending, ?_⟩
      simp only [DiagnosticCall.perform, DiagnosticHistory.next, if_neg hsame,
        Function.update_of_ne (Ne.symm hsame)]
      exact hs
  | addStatusRecord object' record =>
    by_cases hsame : object' = object
    · subst hsame
      refine ⟨pending ++ [record], ?_⟩
      simp only [DiagnosticCall.perform, DiagnosticHistory.next, Function.update_self, if_true]
      refine ⟨?_, ?_, ?_⟩
      · rw [← hs.added, List.append_assoc]
      · rw [DiagnosticRecordStorage.addStatusRecord, hs.statusRecords]
        simp
      · rw [DiagnosticRecordStorage.addStatusRecord, hs.header]
    · refine ⟨pending, ?_⟩
      simp only [DiagnosticCall.perform, DiagnosticHistory.next, if_neg hsame,
        Function.update_of_ne (Ne.symm hsame)]
      exact hs
  | setHeaderRecord object' result =>
    by_cases hsame : object' = object
    · subst hsame
      refine ⟨pending, ?_⟩
      simp only [DiagnosticCall.perform, DiagnosticHistory.next, Function.update_self, if_true]
      exact ⟨hs.added, hs.statusRecords, rfl⟩
    · refine ⟨pending, ?_⟩
      simp only [DiagnosticCall.perform, DiagnosticHistory.next, if_neg hsame,
        Function.update_of_ne (Ne.symm hsame)]
      exact hs
  | sqlError env conn stmt buffers =>
    simp only [DiagnosticCall.perform, DiagnosticHistory.next, DiagnosticCall.reported, sqlError]
    cases hhandle : errorHandle env conn stmt with
    | none => exact ⟨pending, hs⟩
    | some object' =>
      simp only [Option.bind_some]
      by_cases hsame : object' = object
      · subst hsame
        obtain ⟨hfirst, hrest⟩ := hs.retrieve
        rcases hretrieve : (s.storages object').retrieve with ⟨record, storage⟩
        rw [hretrieve] at hfirst hrest
        cases record with
        | none => exact ⟨pending, hs⟩
        | some record =>
          refine ⟨pending.tail, ?_⟩
          simp only [Option.map_some, if_true, Function.update_self]
          rwa [← hfirst] at hrest
      · refine ⟨pending, ?_⟩
        rcases (s.storages object').retrieve with ⟨_ | record, storage⟩
        · exact hs
        · simp only [Option.map_some, if_neg hsame, Function.update_of_ne (Ne.symm hsame)]
          exact hs

/-- After every run of calls, what was reported of an object are the first of the records that were added
since it was cleared, and those that wait are the rest: the next call of `SQLError` that looks at the
object reports the first of them, and says that there are no data only if none waits. The other
functions read all that were added as if none had been reported. -/
theorem reportsInOrder_run (P : Platform) (calls : List (DiagnosticCall H)) (object : H) :
    let s := calls.foldl (Diagnosed.step P) .new
    let h := s.history object
    ∃ pending, h.reported ++ pending = h.added ∧
      (∀ env conn stmt buffers, errorHandle env conn stmt = some object →
        (sqlError P s.storages env conn stmt buffers).1 =
            pending.head?.elim (.exited .noData) (errorOutcome P buffers) ∧
          (s.step P (.sqlError env conn stmt buffers)).history object =
            { h with reported := h.reported ++ pending.head?.toList } ∧
          ∀ other, other ≠ object →
            (s.step P (.sqlError env conn stmt buffers)).storages other = s.storages other) ∧
      (s.storages object).records = h.added ∧
      ∀ recNum field, (s.storages object).getField recNum field =
        { DiagnosticRecordStorage.new with
          result := h.result, statusRecords := h.added.map (⟨·, false⟩) }.getField recNum field := by
  intro s h
  obtain ⟨pending, hs⟩ : ∃ pending, Agrees (s.storages object) (s.history object) pending := by
    refine List.foldlRecOn (motive := fun s : Diagnosed H =>
      ∃ pending, Agrees (s.storages object) (s.history object) pending) calls _ ⟨[], rfl, rfl, rfl⟩ ?_
    exact fun s hs call _ => Agrees.step hs call
  refine ⟨pending, hs.added, fun env conn stmt buffers hobject => ?_, hs.records, hs.getField⟩
  obtain ⟨hfirst, -⟩ := hs.retrieve
  refine ⟨?_, ?_, fun other hother => ?_⟩
  · rw [sqlError_eq P s.storages buffers hobject, hfirst]
  · simp only [Diagnosed.step, DiagnosticHistory.next, DiagnosticCall.reported, hobject,
      Option.bind_some, hfirst]
    cases pending with
    | nil => simp [h]
    | cons record rest => simp [h]
  · simp only [Diagnosed.step, DiagnosticCall.perform, sqlError, hobject]
    rcases (s.storages object).retrieve with ⟨_ | record, storage⟩
    · rfl
    · exact Function.update_of_ne hother _ _

end Calls

end TimestreamOdbc
