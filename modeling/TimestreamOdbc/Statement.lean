import TimestreamOdbc.GetData
import TimestreamOdbc.Query.QueryClass

/-!
# Statements

The part of `Statement` that executes its current query, fetches from it and closes it, over any
query class.  The descriptors of a statement are named here and live with the connection.

What a call writes through the pointers of the application is part of its reply: the elements of the
row status array and the number of rows fetched.  A call gives nothing when a call of the query does
not return.
-/

namespace TimestreamOdbc

/-- The name of a descriptor: its address. -/
abbrev DescriptorId := ℕ

/-- The descriptors of a statement: the implicit ones and the active ones. -/
structure StatementDescriptors where
  ardi : DescriptorId
  apdi : DescriptorId
  irdi : DescriptorId
  ipdi : DescriptorId
  ard : DescriptorId
  ird : DescriptorId
  deriving DecidableEq, Repr

/-- `Statement`: the column bindings, the current query, the pointers and sizes of the fetch, the
state of `SQLGetData`, and the descriptors. A pointer is an address or null. -/
structure Statement (Q : Type) where
  columnBindings : ColumnBindings
  currentQuery : Option Q
  rowsFetched : Option ℕ
  rowStatuses : Option ℕ
  columnBindOffset : Option ℕ
  cell : CellState
  rowArraySize : ℕ
  rowsetSize : ℕ
  descriptors : StatementDescriptors

/-- The elements of a row status array. -/
inductive RowStatus where
  | success
  | successWithInfo
  | error
  | norow
  deriving DecidableEq, Repr

/-- What a call reports: its result and the records it added. -/
structure CallReply where
  result : SqlResult
  records : List DiagnosticRecord
  deriving DecidableEq, Repr

/-- What a fetch of a rowset reports: its result, the records it added, what it writes to the row
status array from the first element on, and what it leaves in the number of rows fetched. -/
structure RowsetReply where
  result : SqlResult
  records : List DiagnosticRecord
  rowStatuses : List RowStatus
  rowsFetched : Option ℕ
  deriving DecidableEq, Repr

/-- The record of a call that needs an open cursor. -/
def cursorNotOpen : DiagnosticRecord :=
  statusRecord .s24000InvalidCursorState "Cursor is not in the open state."

/-- The record of a fetch in another direction. -/
def onlyFetchNext : DiagnosticRecord :=
  statusRecord .sHYC00OptionalFeatureNotImplemented
    "Only SQL_FETCH_NEXT FetchOrientation type is supported"

/-- `SQL_FETCH_NEXT`. -/
def sqlFetchNext : ℤ := 1

/-! ## The loop over a rowset -/

section Rowset

variable {Q : Type} (K : QueryClass Q)

/-- `SqlResultToRowResult`. -/
def sqlResultToRowResult : SqlResult → RowStatus
  | .aiNoData => .norow
  | .aiSuccess => .success
  | .aiSuccessWithInfo => .successWithInfo
  | _ => .error

/-- The local variables of the loop over a rowset, what was written and recorded so far, and the
members of the statement it changes. -/
structure RowsetLoop (Q : Type) where
  fetched : ℕ
  errors : ℕ
  rowStatuses : List RowStatus
  records : List DiagnosticRecord
  columnBindings : ColumnBindings
  currentQuery : Q

/-- One turn of the loop over a rowset. -/
def RowsetLoop.turn (i : ℕ) (l : RowsetLoop Q) : Option (RowsetLoop Q) :=
  (K.fetchNextRow (l.columnBindings.setElementOffset i) l.currentQuery).map fun (row, query) =>
    { fetched :=
        if row.result = .aiSuccess ∨ row.result = .aiSuccessWithInfo then l.fetched + 1
        else l.fetched
      errors :=
        if row.result = .aiSuccess ∨ row.result = .aiSuccessWithInfo then l.errors
        else if row.result ≠ .aiNoData then l.errors + 1
        else l.errors
      rowStatuses := l.rowStatuses ++ [sqlResultToRowResult row.result]
      records := l.records ++ row.records
      columnBindings := row.columnBindings
      currentQuery := query }

/-- The turns of the loop from element `i` on. -/
def RowsetLoop.turns (i : ℕ) : ℕ → RowsetLoop Q → Option (RowsetLoop Q)
  | 0, l => some l
  | n + 1, l => (l.turn K i).bind (RowsetLoop.turns (i + 1) n)

/-- The result of a fetch after its loop. -/
def RowsetLoop.result (l : RowsetLoop Q) : SqlResult :=
  if 0 < l.fetched then (if l.errors = 0 then .aiSuccess else .aiSuccessWithInfo)
  else if l.errors = 0 then .aiNoData
  else .aiError

/-- The fetch of a rowset of a size, with the byte offsets set to a value first. -/
def fetchRowset (size byteOffset : ℕ) (columnBindings : ColumnBindings) (query : Q) :
    Option (RowsetReply × ColumnBindings × Q) :=
  (RowsetLoop.turns K 0 size ⟨0, 0, [], [], columnBindings.setByteOffset byteOffset, query⟩).map
    fun l => (⟨l.result, l.records, l.rowStatuses, some l.fetched⟩, l.columnBindings,
      l.currentQuery)

end Rowset

namespace Statement

variable {Q : Type} (K : QueryClass Q)

/-- The constructor. -/
def new (descriptors : StatementDescriptors) : Statement Q :=
  { columnBindings := fun _ => none, currentQuery := none, rowsFetched := none
    rowStatuses := none, columnBindOffset := none, cell := ⟨0, 0⟩, rowArraySize := 1
    rowsetSize := 1, descriptors }

/-! ## Fetching -/

/-- `InternalFetchRow`. `memory` is what the application has at an address. -/
def internalFetchRow (memory : ℕ → ℕ) (s : Statement Q) : Option (RowsetReply × Statement Q) :=
  match s.currentQuery with
  | none => some (⟨.aiError, [cursorNotOpen], [], some 0⟩, s)
  | some query =>
    let columnBindOffsetValue := s.columnBindOffset.elim 0 memory
    (fetchRowset K s.rowArraySize columnBindOffsetValue s.columnBindings query).map
      fun (reply, columnBindings, query) =>
        (reply, { s with
          columnBindings, currentQuery := some query
          cell := { s.cell with cellOffset := 0 } })

/-- `InternalFetchScroll`. -/
def internalFetchScroll (orientation : ℤ) (memory : ℕ → ℕ) (s : Statement Q) :
    Option (RowsetReply × Statement Q) :=
  if orientation ≠ sqlFetchNext then some (⟨.aiError, [onlyFetchNext], [], none⟩, s)
  else s.internalFetchRow K memory

/-- `InternalExtendedFetch`. -/
def internalExtendedFetch (orientation : ℤ) (s : Statement Q) :
    Option (RowsetReply × Statement Q) :=
  if orientation ≠ sqlFetchNext then some (⟨.aiError, [onlyFetchNext], [], none⟩, s)
  else
    match s.currentQuery with
    | none => some (⟨.aiError, [cursorNotOpen], [], none⟩, s)
    | some query =>
      (fetchRowset K s.rowsetSize 0 s.columnBindings query).map
        fun (reply, columnBindings, query) =>
          (reply, { s with columnBindings, currentQuery := some query })

/-! ## Reading a cell -/

/-- `InternalGetColumnData`. -/
def internalGetColumnData (columnIdx : ℕ) (buffer : ApplicationDataBuffer) (s : Statement Q) :
    Option (ColumnRead × Statement Q) :=
  match s.currentQuery with
  | none => some (⟨.aiError, [cursorNotOpen], none⟩, s)
  | some query =>
    (K.getColumn columnIdx buffer query).map fun (read, query) =>
      (read, { s with currentQuery := some query })

/-- The cell offset of a buffer after a read. -/
def offsetAfter (read : ColumnRead) (buffer : ApplicationDataBuffer) : ℤ :=
  read.put.elim buffer.cellOffset Put.cellOffset

/-- `SQLGetData`, with the data and the indicator pointer there or not. -/
def getData (colNum : ℕ) (driverType : OdbcNativeType) (targetValue : Bool) (bufferLength : ℕ)
    (strLengthOrIndicator : Bool) (s : Statement Q) : Option (ColumnRead × Statement Q) :=
  let dataBuffer := ApplicationDataBuffer.new driverType targetValue bufferLength
    strLengthOrIndicator
  let started : CellState × ApplicationDataBuffer :=
    if colNum ≠ s.cell.currentColNum then (⟨colNum, 0⟩, dataBuffer.setCellOffset 0)
    else (s.cell, dataBuffer.setCellOffset s.cell.cellOffset)
  (internalGetColumnData K colNum started.2 { s with cell := started.1 }).map fun (read, s) =>
    (read, { s with cell := { s.cell with cellOffset := offsetAfter read started.2 } })

/-! ## Executing -/

/-- The current query is closed and another one takes its place. -/
def replaceQuery (query : Q) (s : Statement Q) : Option (Statement Q) :=
  match s.currentQuery with
  | none => some { s with currentQuery := some query }
  | some old => (K.close old).map fun _ => { s with currentQuery := some query }

/-- `InternalPrepareSqlQuery`, with the data query that is made. -/
def internalPrepareSqlQuery (query : Q) (s : Statement Q) : Option (CallReply × Statement Q) :=
  (s.replaceQuery K query).map fun s => (⟨.aiSuccess, []⟩, s)

/-- The current query is executed. -/
def executeQuery (s : Statement Q) : Option (CallReply × Statement Q) :=
  match s.currentQuery with
  | none => some (⟨.aiError, [statusRecord .sHY010SequenceError "Query is not prepared."]⟩, s)
  | some query =>
    (K.execute query).map fun ((result, records), query) =>
      (⟨result, records⟩, { s with currentQuery := some query })

/-- `InternalExecuteSqlQuery` of the prepared query: an empty result is a success with
information. -/
def internalExecuteSqlQuery (s : Statement Q) : Option (CallReply × Statement Q) :=
  (s.executeQuery K).map fun (reply, s) =>
    if reply.result = .aiNoData then
      (⟨.aiSuccessWithInfo,
        reply.records ++ [statusRecord .s01000GeneralWarning "Query result is empty"]⟩, s)
    else (reply, s)

/-- `InternalExecuteSqlQuery` of a text, with the data query that is made. -/
def internalExecuteSqlText (query : Q) (s : Statement Q) : Option (CallReply × Statement Q) :=
  (s.internalPrepareSqlQuery K query).bind fun (_, s) => s.internalExecuteSqlQuery K

/-- `InternalExecuteGetTablesMetaQuery` and its siblings, with the catalog query that is made. -/
def internalExecuteMetaQuery (query : Q) (s : Statement Q) : Option (CallReply × Statement Q) :=
  (s.replaceQuery K query).bind (executeQuery K)

/-! ## Closing -/

/-- The record of a close without an open cursor. -/
def noCursorWasOpen : DiagnosticRecord :=
  statusRecord .s24000InvalidCursorState "No cursor was open"

/-- `InternalClose`. -/
def internalClose (ignoreErrors : Bool) (s : Statement Q) : Option (CallReply × Statement Q) :=
  match s.currentQuery with
  | none => some (⟨.aiSuccess, []⟩, s)
  | some query =>
    if !K.dataAvailable query then
      some (⟨if ignoreErrors then .aiSuccess else .aiError, [noCursorWasOpen]⟩, s)
    else
      (K.close query).map fun (result, query) =>
        (⟨if ignoreErrors then .aiSuccess else result, []⟩, { s with currentQuery := some query })

/-- The options of `SQLFreeStmt`: `SQL_CLOSE`, `SQL_DROP` and `SQL_UNBIND`. -/
def sqlClose : ℤ := 0
def sqlDrop : ℤ := 1
def sqlUnbind : ℤ := 2

/-- `SafeUnbindAllColumns`. -/
def safeUnbindAllColumns (s : Statement Q) : Statement Q :=
  { s with columnBindings := fun _ => none }

/-- `InternalFreeResources`. -/
def internalFreeResources (option : ℤ) (s : Statement Q) : Option (CallReply × Statement Q) :=
  if option = sqlDrop then
    some (⟨.aiError, [statusRecord .sHY000GeneralError "Deprecated, call SQLFreeHandle instead"]⟩,
      s)
  else if option = sqlClose then s.internalClose K true
  else if option = sqlUnbind then some (⟨.aiSuccess, []⟩, s.safeUnbindAllColumns)
  else some (⟨.aiError, [statusRecord .sHY092OptionTypeOutOfRange
    "The value specified for the argument Option was invalid"]⟩, s)

end Statement

/-! ## Calls -/

/-- The calls of an application on one statement. A query is given by what is made for it. What
`SQLBindCol`, `SQLFreeStmt` with `SQL_UNBIND` and `SQLSetStmtAttr` make of the members that a fetch
uses is one call. -/
inductive StatementCall (Q : Type) where
  | prepare (query : Q)
  | execute
  | execDirect (query : Q)
  | catalog (query : Q)
  | fetch (memory : ℕ → ℕ)
  | fetchScroll (orientation : ℤ) (memory : ℕ → ℕ)
  | extendedFetch (orientation : ℤ)
  | getData (colNum : ℕ) (driverType : OdbcNativeType) (targetValue : Bool) (bufferLength : ℕ)
      (strLengthOrIndicator : Bool)
  | closeCursor
  | freeStmt (option : ℤ)
  | setUp (columnBindings : ColumnBindings) (columnBindOffset : Option ℕ)
      (rowArraySize rowsetSize : ℕ)

/-- What a call reports. -/
inductive StatementReply where
  | call (reply : CallReply)
  | rowset (reply : RowsetReply)
  | read (read : ColumnRead)
  deriving DecidableEq, Repr

/-- The result of a call. -/
def StatementReply.result : StatementReply → SqlResult
  | call r => r.result
  | rowset r => r.result
  | read r => r.result

namespace Statement

variable {Q : Type} (K : QueryClass Q)

/-- A call on a statement. -/
def perform (s : Statement Q) : StatementCall Q → Option (StatementReply × Statement Q)
  | .prepare query => (s.internalPrepareSqlQuery K query).map fun (r, s) => (.call r, s)
  | .execute => (s.internalExecuteSqlQuery K).map fun (r, s) => (.call r, s)
  | .execDirect query => (s.internalExecuteSqlText K query).map fun (r, s) => (.call r, s)
  | .catalog query => (s.internalExecuteMetaQuery K query).map fun (r, s) => (.call r, s)
  | .fetch memory => (s.internalFetchRow K memory).map fun (r, s) => (.rowset r, s)
  | .fetchScroll orientation memory =>
    (s.internalFetchScroll K orientation memory).map fun (r, s) => (.rowset r, s)
  | .extendedFetch orientation =>
    (s.internalExtendedFetch K orientation).map fun (r, s) => (.rowset r, s)
  | .getData colNum driverType targetValue bufferLength strLengthOrIndicator =>
    (s.getData K colNum driverType targetValue bufferLength strLengthOrIndicator).map
      fun (r, s) => (.read r, s)
  | .closeCursor => (s.internalClose K false).map fun (r, s) => (.call r, s)
  | .freeStmt option => (s.internalFreeResources K option).map fun (r, s) => (.call r, s)
  | .setUp columnBindings columnBindOffset rowArraySize rowsetSize =>
    some (.call ⟨.aiSuccess, []⟩,
      { s with columnBindings, columnBindOffset, rowArraySize, rowsetSize })

end Statement

end TimestreamOdbc
