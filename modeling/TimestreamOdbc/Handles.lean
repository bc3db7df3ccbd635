import TimestreamOdbc.App.RowsetElements
import TimestreamOdbc.Descriptor
import TimestreamOdbc.Lib.TransitionSystem

/-!
# Handles

The statements and descriptors that an application holds, and the calls that allocate them, set their
attributes and fields, bind columns, copy and free.  A handle is an address.  An allocation takes any
address that is free, also one that was freed before, and statements and descriptors point at each
other by address, so that a pointer to something freed may later be one to something else.

A call gives nothing when the application does not hold the handle it passes, and when a call of the
query does not return.  A call that follows a pointer that is null or freed does not return either:
it is told apart.
-/

namespace TimestreamOdbc

/-- A statement that the application holds, with its connection. -/
structure HeldStatement (Q : Type) where
  connection : ConnectionId
  statement : Statement Q

/-- A descriptor that is there, with the statement whose constructor made it. An explicit descriptor
has none: the application allocated it. -/
structure HeldDescriptor where
  owner : Option StatementId
  descriptor : Descriptor

/-- What is allocated. -/
structure Handles (Q : Type) where
  statements : StatementId → Option (HeldStatement Q)
  descriptors : DescriptorId → Option HeldDescriptor

/-- How a call ends: it returns, or it follows a pointer to nothing. -/
inductive HandleOutcome (Q : Type) where
  | returned (reply : CallReply) (handles : Handles Q)
  | followed

/-- What a call that returns reports. -/
def HandleOutcome.reply? {Q : Type} : HandleOutcome Q → Option CallReply
  | returned reply _ => some reply
  | followed => none

/-- The implicit descriptors of a statement. -/
def StatementDescriptors.implicits (ds : StatementDescriptors) : List DescriptorId :=
  [ds.ardi, ds.apdi, ds.irdi, ds.ipdi]

/-! ## Attributes -/

/-- The identifier of a statement attribute, with the value it is set to. The descriptor of the rows
is set by a call of its own here. -/
inductive StatementAttribute where
  | concurrency (value : ℕ)
  | cursorType (value : ℕ)
  | metadataId (value : ℕ)
  | retrieveData (value : ℕ)
  | paramBindType (value : ℕ)
  | rowsetSize (value : ℕ)
  | rowArraySize (value : ℕ)
  | paramBindOffsetPtr (value : Option ℕ)
  | rowBindOffsetPtr (value : Option ℕ)
  | rowBindType (value : ℕ)
  | rowOperationPtr (value : Option ℕ)
  | rowStatusPtr (value : Option ℕ)
  | rowsFetchedPtr (value : Option ℕ)
  | unsupported (attr : ℤ)
  deriving DecidableEq, Repr

/-- The values that are supported: `SQL_CONCUR_READ_ONLY`, `SQL_CURSOR_FORWARD_ONLY`, `SQL_RD_ON`,
`SQL_PARAM_BIND_BY_COLUMN`, `SQL_BIND_BY_COLUMN`, `SQL_TRUE` and `SQL_FALSE`. -/
def sqlConcurReadOnly : ℕ := 1
def sqlCursorForwardOnly : ℕ := 0
def sqlRdOn : ℕ := 1
def sqlParamBindByColumn : ℕ := 0
def sqlTrue : ℕ := 1
def sqlFalse : ℕ := 0

/-! ## Descriptor fields of a bound column -/

/-- What `SetDescriptorFields` makes of the record of the column. -/
def DescriptorRecord.setBound (targetType : ℤ) (targetValue : Option ℕ) (bufferLength : ℤ)
    (strLengthOrIndicator : Option ℕ) (record : DescriptorRecord) : DescriptorRecord :=
  let record :=
    if targetType = sqlTypeDate then
      { record with
        type := sqlDatetime, conciseType := sqlTypeDate, datetimeIntervalCode := sqlCodeDate }
    else if targetType = sqlTypeTime then
      { record with
        type := sqlDatetime, conciseType := sqlTypeTime, datetimeIntervalCode := sqlCodeTime }
    else if targetType = sqlTypeTimestamp then
      { record with
        type := sqlDatetime, conciseType := sqlTypeTimestamp
        datetimeIntervalCode := sqlCodeTimestamp }
    else if targetType = sqlIntervalYearToMonth then
      { record with
        type := sqlInterval, conciseType := sqlIntervalYearToMonth
        datetimeIntervalCode := sqlCodeYearToMonth }
    else if targetType = sqlIntervalDayToSecond then
      { record with
        type := sqlInterval, conciseType := sqlIntervalDayToSecond
        datetimeIntervalCode := sqlCodeDayToSecond }
    else { record with type := targetType, conciseType := targetType }
  { record with
    length :=
      if targetType ∈ characterTypes then toSqlUlen bufferLength
      else toSqlUlen (sqlTypeTransferLength targetType)
    precision := sqlTypePrecision targetType
    scale := sqlTypeScale targetType
    octetLength := bufferLength
    dataPtr := targetValue
    indicatorPtr := strLengthOrIndicator
    octetLengthPtr := strLengthOrIndicator }

/-- `SetDescriptorFields`. -/
def Descriptor.setDescriptorFields (columnIdx : ℕ) (targetType : ℤ) (targetValue : Option ℕ)
    (bufferLength : ℤ) (strLengthOrIndicator : Option ℕ) (ard : Descriptor) : Descriptor :=
  let ard :=
    if ard.header.count < columnIdx then
      { ard with header := { ard.header with count := toSqlSmallint columnIdx } }
    else ard
  ard.setRecord columnIdx
    ((ard.record columnIdx).setBound targetType targetValue bufferLength strLengthOrIndicator)

namespace Statement

variable {Q : Type}

/-- `SafeBindColumn`. -/
def safeBindColumn (columnIdx : ℕ) (binding : ColumnBinding) (s : Statement Q) : Statement Q :=
  { s with columnBindings := Function.update s.columnBindings columnIdx (some binding) }

/-- `SafeUnbindColumn`. -/
def safeUnbindColumn (columnIdx : ℕ) (s : Statement Q) : Statement Q :=
  { s with columnBindings := Function.update s.columnBindings columnIdx none }

/-- The active row descriptor is replaced. -/
def setArd (ard : DescriptorId) (s : Statement Q) : Statement Q :=
  { s with descriptors := { s.descriptors with ard } }

/-- `RestoreDescriptor`. -/
def restoreDescriptor (type : DescType) (s : Statement Q) : Statement Q :=
  match type with
  | .ard => s.setArd s.descriptors.ardi
  | .ird => { s with descriptors := { s.descriptors with ird := s.descriptors.irdi } }
  | _ => s

end Statement

namespace Handles

variable {Q : Type}

/-- Nothing is allocated. -/
def new : Handles Q := ⟨fun _ => none, fun _ => none⟩

/-- A statement changes. -/
def updateStatement (stmt : StatementId) (f : Statement Q → Statement Q) (h : Handles Q) :
    Handles Q :=
  { h with
    statements := Function.update h.statements stmt
      ((h.statements stmt).map fun held => { held with statement := f held.statement }) }

/-- A descriptor changes. -/
def updateDescriptor (desc : DescriptorId) (f : Descriptor → Descriptor) (h : Handles Q) :
    Handles Q :=
  { h with
    descriptors := Function.update h.descriptors desc
      ((h.descriptors desc).map fun held => { held with descriptor := f held.descriptor }) }

/-- A header that a statement points at is set. -/
def setHeader (desc : DescriptorId) (f : DescriptorHeader → DescriptorHeader) (h : Handles Q) :
    HandleOutcome Q :=
  match h.descriptors desc with
  | none => .followed
  | some _ => .returned .success (h.updateDescriptor desc fun d => { d with header := f d.header })

/-! ## Allocating -/

/-- `SQLAllocStmt`, with the size of a rowset that was set for the statements of the connection. -/
def allocStmt (connection : ConnectionId) (rowsetSize : ℕ) (stmt : StatementId)
    (ardi apdi irdi ipdi : DescriptorId) (h : Handles Q) : Handles Q :=
  let made (type : DescType) : Descriptor := { Descriptor.new with type, stmt := some stmt }
  let ard := (made .ard).initAppHead true
  { statements := Function.update h.statements stmt (some
      { connection
        statement := { Statement.new ⟨ardi, apdi, irdi, ipdi, ardi, irdi⟩ with rowsetSize } })
    descriptors := fun desc =>
      if desc = ardi then
        some ⟨some stmt, { ard with header := { ard.header with rowsetSize } }⟩
      else if desc = apdi then some ⟨some stmt, (made .apd).initAppHead true⟩
      else if desc = irdi then some ⟨some stmt, (made .ird).initImpHead⟩
      else if desc = ipdi then some ⟨some stmt, (made .ipd).initImpHead⟩
      else h.descriptors desc }

/-- `SQLAllocDesc`. -/
def allocDesc (connection : ConnectionId) (desc : DescriptorId) (h : Handles Q) : Handles Q :=
  { h with
    descriptors := Function.update h.descriptors desc (some
      ⟨none, { Descriptor.new with conn := some connection }.initAppHead false⟩) }

/-! ## Setting attributes and fields -/

/-- `InternalSetAttribute`, but for the descriptor of the rows. -/
def setStmtAttr (stmt : StatementId) (s : Statement Q) (h : Handles Q) :
    StatementAttribute → HandleOutcome Q
  | .concurrency value =>
    if value ≠ sqlConcurReadOnly then
      .returned (.error .sHYC00OptionalFeatureNotImplemented "Only read-only cursors are supported")
        h
    else .returned .success h
  | .cursorType value =>
    if value ≠ sqlCursorForwardOnly then
      .returned (.error .sHYC00OptionalFeatureNotImplemented
        "Only forward cursors are currently supported") h
    else .returned .success h
  | .metadataId value =>
    -- the connection keeps it
    if value ≠ sqlTrue ∧ value ≠ sqlFalse then
      .returned (.error .sHY024InvalidAttributeValue "Invalid argument value") h
    else .returned .success h
  | .retrieveData value =>
    if value ≠ sqlRdOn then
      .returned (.error .sHYC00OptionalFeatureNotImplemented
        "SQLFetch can only retrieve data after it positions the cursor") h
    else .returned .success h
  | .paramBindType value =>
    if value ≠ sqlParamBindByColumn then
      .returned (.error .sHYC00OptionalFeatureNotImplemented
        "Only binding by column is currently supported") h
    else .returned .success h
  | .rowsetSize value =>
    (h.updateStatement stmt fun s => { s with rowsetSize := value }).setHeader s.descriptors.ard
      fun header => { header with rowsetSize := value }
  | .rowArraySize value =>
    (h.updateStatement stmt fun s => { s with rowArraySize := value }).setHeader s.descriptors.ard
      fun header => { header with arraySize := value }
  | .paramBindOffsetPtr value =>
    h.setHeader s.descriptors.apdi fun header => { header with bindOffsetPtr := value }
  | .rowBindOffsetPtr value =>
    (h.updateStatement stmt fun s => { s with columnBindOffset := value }).setHeader
      s.descriptors.ard fun header => { header with bindOffsetPtr := value }
  | .rowBindType value =>
    if (value : ℤ) ≠ sqlBindByColumn then
      .returned (.error .sHYC00OptionalFeatureNotImplemented
        "Only binding by column is currently supported") h
    else h.setHeader s.descriptors.ard fun header => { header with bindType := value }
  | .rowOperationPtr value =>
    h.setHeader s.descriptors.ard fun header => { header with arrayStatusPtr := value }
  | .rowStatusPtr value =>
    (h.updateStatement stmt fun s => { s with rowStatuses := value }).setHeader s.descriptors.ird
      fun header => { header with arrayStatusPtr := value }
  | .rowsFetchedPtr value =>
    (h.updateStatement stmt fun s => { s with rowsFetched := value }).setHeader s.descriptors.ird
      fun header => { header with rowsProcessedPtr := value }
  | .unsupported _ =>
    .returned (.error .sHYC00OptionalFeatureNotImplemented
      "Specified attribute is not supported.") h

/-- The check of `InternalSetAttribute` on a descriptor of the rows that is not null. -/
def refuseArd (connection : ConnectionId) (stmt : StatementId) (d : Descriptor) :
    Option CallReply :=
  if d.conn ≠ some connection then
    some (.error .sHY024InvalidAttributeValue
      "Descriptor does not belong to the statement connection.")
  else if d.stmt ≠ none ∧ d.stmt ≠ some stmt then
    some (.error .sHY000GeneralError "Descriptor has been set to another statement.")
  else none

/-- `SetARDDesc`. -/
def setARDDesc (stmt : StatementId) (s : Statement Q) (desc : Option DescriptorId)
    (h : Handles Q) : Handles Q :=
  match desc with
  | none => h.updateStatement stmt (Statement.setArd s.descriptors.ardi)
  | some desc =>
    (h.updateDescriptor desc fun d => { d with type := .ard, stmt := some stmt }).updateStatement
      stmt (Statement.setArd desc)

/-- `InternalSetAttribute` of the descriptor of the rows. -/
def setAppRowDesc (stmt : StatementId) (held : HeldStatement Q) (desc : Option DescriptorId)
    (h : Handles Q) : Option (HandleOutcome Q) :=
  match desc with
  | none => some (.returned .success (h.setARDDesc stmt held.statement none))
  | some desc =>
    (h.descriptors desc).map fun d =>
      match refuseArd held.connection stmt d.descriptor with
      | some reply => .returned reply h
      | none => .returned .success (h.setARDDesc stmt held.statement (some desc))

/-- `InternalBindColumn`. -/
def bindCol (stmt : StatementId) (s : Statement Q) (columnIdx : ℕ) (targetType : ℤ)
    (targetValue : Option ℕ) (bufferLength : ℤ) (strLengthOrIndicator : Option ℕ)
    (h : Handles Q) : HandleOutcome Q :=
  match internalBindColumn targetType targetValue bufferLength strLengthOrIndicator with
  | .rejected diagnostic => .returned ⟨.aiError, [diagnostic]⟩ h
  | .bound binding =>
    match h.descriptors s.descriptors.ard with
    | none => .followed
    | some _ =>
      .returned .success
        ((h.updateStatement stmt (Statement.safeBindColumn columnIdx binding)).updateDescriptor
          s.descriptors.ard (Descriptor.setDescriptorFields columnIdx targetType targetValue
            bufferLength strLengthOrIndicator))
  | .unbound => .returned .success (h.updateStatement stmt (Statement.safeUnbindColumn columnIdx))

/-- `SQLSetDescField`. -/
def setDescField (desc : DescriptorId) (d : Descriptor) (recNum : ℤ) (field : DescriptorField)
    (bufferLen : ℤ) (h : Handles Q) : HandleOutcome Q :=
  let set := d.internalSetField recNum field bufferLen
  let changed := h.updateDescriptor desc fun _ => set.2
  if Descriptor.unbindsColumn field bufferLen then
    match d.stmt with
    | none => .followed
    | some stmt =>
      match h.statements stmt with
      | none => .followed
      | some _ =>
        .returned set.1
          (changed.updateStatement stmt (Statement.safeUnbindColumn (toColumnIdx recNum)))
  else .returned set.1 changed

/-! ## Copying and freeing -/

/-- `SQLCopyDesc`. -/
def copyDesc (src dst : DescriptorId) (d target : Descriptor) (h : Handles Q) : HandleOutcome Q :=
  let d := if src = dst then { d with records := fun _ => none } else d
  let copied := d.internalCopyDesc target
  .returned copied.1 (h.updateDescriptor dst fun _ => copied.2)

/-- `SQLFreeDescriptor`: the descriptor is deregistered and deleted. -/
def freeDesc (desc : DescriptorId) (d : Descriptor) (h : Handles Q) : HandleOutcome Q :=
  match d.stmt with
  | none => .followed
  | some stmt =>
    match h.statements stmt with
    | none => .followed
    | some _ =>
      let restored := h.updateStatement stmt (Statement.restoreDescriptor d.type)
      .returned .success
        { restored with descriptors := Function.update restored.descriptors desc none }

/-- A statement is deleted, and its implicit descriptors with it. -/
def dropStmt (stmt : StatementId) (s : Statement Q) (h : Handles Q) : Handles Q :=
  { statements := Function.update h.statements stmt none
    descriptors := fun desc =>
      if desc ∈ s.descriptors.implicits then none else h.descriptors desc }

/-- `SQLFreeStmt`. -/
def freeStmt (K : QueryClass Q) (stmt : StatementId) (s : Statement Q) (option : ℤ)
    (h : Handles Q) : Option (HandleOutcome Q) :=
  if option = Statement.sqlDrop then some (.returned .success (h.dropStmt stmt s))
  else
    (s.internalFreeResources K option).map fun (reply, s) =>
      .returned reply (h.updateStatement stmt fun _ => s)

end Handles

/-! ## Calls -/

/-- The calls on statements and descriptors. -/
inductive HandleCall where
  | allocStmt (connection : ConnectionId) (rowsetSize : ℕ) (stmt : StatementId)
      (ardi apdi irdi ipdi : DescriptorId)
  | allocDesc (connection : ConnectionId) (desc : DescriptorId)
  | setStmtAttr (stmt : StatementId) (attr : StatementAttribute)
  | setAppRowDesc (stmt : StatementId) (desc : Option DescriptorId)
  | bindCol (stmt : StatementId) (columnIdx : ℕ) (targetType : ℤ) (targetValue : Option ℕ)
      (bufferLength : ℤ) (strLengthOrIndicator : Option ℕ)
  | setDescField (desc : DescriptorId) (recNum : ℤ) (field : DescriptorField) (bufferLen : ℤ)
  | copyDesc (src dst : DescriptorId)
  | freeDesc (desc : DescriptorId)
  | freeStmt (stmt : StatementId) (option : ℤ)
  deriving DecidableEq, Repr

namespace Handles

variable {Q : Type} (K : QueryClass Q)

/-- A call. The number of a column is an unsigned and that of a record a signed 16-bit number. -/
def perform (h : Handles Q) : HandleCall → Option (HandleOutcome Q)
  | .allocStmt connection rowsetSize stmt ardi apdi irdi ipdi =>
    if (h.statements stmt).isNone ∧ [ardi, apdi, irdi, ipdi].Nodup ∧
        ∀ desc ∈ [ardi, apdi, irdi, ipdi], (h.descriptors desc).isNone then
      some (.returned .success (h.allocStmt connection rowsetSize stmt ardi apdi irdi ipdi))
    else none
  | .allocDesc connection desc =>
    if (h.descriptors desc).isNone then some (.returned .success (h.allocDesc connection desc))
    else none
  | .setStmtAttr stmt attr =>
    (h.statements stmt).map fun held => h.setStmtAttr stmt held.statement attr
  | .setAppRowDesc stmt desc => (h.statements stmt).bind fun held => h.setAppRowDesc stmt held desc
  | .bindCol stmt columnIdx targetType targetValue bufferLength strLengthOrIndicator =>
    if columnIdx < 2 ^ 16 then
      (h.statements stmt).map fun held => h.bindCol stmt held.statement columnIdx targetType
        targetValue bufferLength strLengthOrIndicator
    else none
  | .setDescField desc recNum field bufferLen =>
    if -2 ^ 15 ≤ recNum ∧ recNum < 2 ^ 15 then
      (h.descriptors desc).map fun held =>
        h.setDescField desc held.descriptor recNum field bufferLen
    else none
  | .copyDesc src dst =>
    (h.descriptors src).bind fun held =>
      (h.descriptors dst).map fun target => h.copyDesc src dst held.descriptor target.descriptor
  | .freeDesc desc => (h.descriptors desc).map fun held => h.freeDesc desc held.descriptor
  | .freeStmt stmt option =>
    (h.statements stmt).bind fun held => h.freeStmt K stmt held.statement option

/-- The queries of the statements on a sample platform. -/
abbrev sampleClass : QueryClass (Query (InterleavedQuery Unit Unit)) :=
  Query.queryClass InterleavedQuery.queryClass samplePlatform

/-- What is allocated after a call that returns. -/
def step (h : Handles Q) (call : HandleCall) : Option (Handles Q) :=
  match h.perform K call with
  | some (.returned _ h') => some h'
  | _ => none

end Handles

end TimestreamOdbc
