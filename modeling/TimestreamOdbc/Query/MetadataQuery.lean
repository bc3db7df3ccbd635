import TimestreamOdbc.App.ColumnBinding

/-!
# The catalog queries

`TableMetadataQuery`, `ColumnMetadataQuery` and `TypeInfoQuery` collect all their rows when they are
executed and then move an iterator over them.  Each has its own flags and its own small differences:
when the flags are set, what an empty result means, and what happens to an unknown column.

What a listing asks of the service is not modelled here: an execution is given what its checks and
its requests came to.
-/

namespace TimestreamOdbc

/-! ## A cursor over collected rows -/

/-- The members `executed`, `fetched`, `meta` (or `types`) and `cursor`. -/
structure MetaCursor (μ : Type) where
  executed : Bool
  fetched : Bool
  rows : List μ
  cursor : ℕ
  deriving DecidableEq, Repr

/-- What a call of `GetColumn` does: its result, the records it adds and the conversion it makes. -/
structure ColumnRead where
  result : SqlResult
  records : List DiagnosticRecord
  put : Option Put
  deriving DecidableEq, Repr

/-- What a fetch reports: its result, the records it added and the buffers afterwards. -/
structure FetchedRow where
  result : SqlResult
  records : List DiagnosticRecord
  columnBindings : ColumnBindings

/-- The record of a fetch or a read before an execution. -/
def notExecuted : DiagnosticRecord := statusRecord .sHY010SequenceError "Query was not executed."

/-- The record of a read behind the last row. -/
def endOfResultSet : DiagnosticRecord :=
  statusRecord .s24000InvalidCursorState "Cursor has reached end of the result set."

/-- The columns are read into their buffers in ascending order of the bound columns; the results of
the reads are dropped. Nothing when a conversion leaves by an exception. -/
def readBoundColumns (getColumn : ℕ → ApplicationDataBuffer → Option ColumnRead) :
    List ℕ → ColumnBindings → Option (List DiagnosticRecord × ColumnBindings)
  | [], bindings => some ([], bindings)
  | i :: is, bindings =>
    match bindings i with
    | none => readBoundColumns getColumn is bindings
    | some b =>
      (getColumn i b.buffer).bind fun read =>
        (readBoundColumns getColumn is (Function.update bindings i
          (some (read.put.elim b fun put => b.deliver put)))).map fun rest =>
            (read.records ++ rest.1, rest.2)

namespace MetaCursor

variable {μ : Type}

/-- The constructor. -/
def new (rows : List μ) : MetaCursor μ :=
  { executed := false, fetched := false, rows, cursor := rows.length }

/-- Whether the iterator is at the end. -/
def atEnd (c : MetaCursor μ) : Bool := c.cursor = c.rows.length

/-- The row the iterator is on. -/
def currentRow (c : MetaCursor μ) : Option μ := c.rows[c.cursor]?

/-- The step of `FetchNextRow`: the first call stays on the first row. -/
def moved (c : MetaCursor μ) : MetaCursor μ :=
  if !c.fetched then { c with fetched := true }
  else if c.atEnd then c
  else { c with cursor := c.cursor + 1 }

/-- `FetchNextRow`, from the check of `executed` on. -/
def fetchNextRow (getColumn : MetaCursor μ → ℕ → ApplicationDataBuffer → Option ColumnRead)
    (columnBindings : ColumnBindings) (c : MetaCursor μ) : Option (FetchedRow × MetaCursor μ) :=
  if !c.executed then some (⟨.aiError, [notExecuted], columnBindings⟩, c)
  else if c.moved.atEnd then some (⟨.aiNoData, [], columnBindings⟩, c.moved)
  else
    -- the keys of the binding map are of type `uint16_t`
    (readBoundColumns (getColumn c.moved) (List.range 65536) columnBindings).map fun read =>
      (⟨.aiSuccess, read.1, read.2⟩, c.moved)

/-- `GetColumn`, from the check of `executed` on. -/
def getColumn (columnValue : μ → ℕ → Option MetaValue)
    (unknownColumn : SqlResult × List DiagnosticRecord) (P : Platform) (c : MetaCursor μ)
    (columnIdx : ℕ) (buffer : ApplicationDataBuffer) : Option ColumnRead :=
  if !c.executed then some ⟨.aiError, [notExecuted], none⟩
  else
    match c.currentRow with
    | none => some ⟨.aiError, [endOfResultSet], none⟩
    | some row =>
      match columnValue row columnIdx with
      | none => some ⟨unknownColumn.1, unknownColumn.2, none⟩
      | some value => (value.put P buffer).map fun put => ⟨.aiSuccess, [], some put⟩

end MetaCursor

/-- What the checks and requests of an execution came to: its result, its records, and the rows it
collected. -/
structure Listing (μ : Type) where
  result : SqlResult
  records : List DiagnosticRecord
  rows : List μ
  deriving DecidableEq, Repr

/-- A query over a listing: its cursor, what each of its executions will come to, and the number of
executions so far. -/
structure MetadataQuery (μ : Type) where
  state : MetaCursor μ
  makeRequest : ℕ → Listing μ
  requests : ℕ

/-- A new query over a listing. -/
def MetadataQuery.new {μ : Type} (makeRequest : ℕ → Listing μ) : MetadataQuery μ :=
  { state := .new [], makeRequest, requests := 0 }

/-- The end of `Close`: the rows are cleared and the iterator is at their end. -/
def MetadataQuery.closed {μ : Type} (q : MetadataQuery μ) : MetadataQuery μ :=
  { q with state := { q.state with rows := [], cursor := 0, executed := false } }

/-! ## Tables -/

/-- `TableMeta`. -/
structure TableMeta where
  catalogName : Option Text
  schemaName : Option Text
  tableName : Option Text
  tableType : Option Text
  remarks : Option Text
  deriving DecidableEq, Repr

/-- The value of a column of a table's row. -/
def TableMeta.columnValue (row : TableMeta) : ℕ → Option MetaValue
  | 1 => some (.string row.catalogName)
  | 2 => some (.string row.schemaName)
  | 3 => some (.string row.tableName)
  | 4 => some (.string row.tableType)
  | 5 => some (.string row.remarks)
  | _ => none

/-- `TableMetadataQuery`. -/
abbrev TableMetadataQuery := MetadataQuery TableMeta

namespace TableMetadataQuery

/-- `TableMetadataQuery::GetColumn`: an empty result is asked for first, and an unknown column is no
error. -/
def getColumn (P : Platform) (c : MetaCursor TableMeta) (columnIdx : ℕ)
    (buffer : ApplicationDataBuffer) : Option ColumnRead :=
  if c.executed ∧ c.rows = [] then some ⟨.aiNoData, [], none⟩
  else c.getColumn TableMeta.columnValue (.aiSuccess, []) P columnIdx buffer

/-- `TableMetadataQuery::FetchNextRow`: an empty result is asked for before anything is moved. -/
def fetchNextRow (P : Platform) (columnBindings : ColumnBindings) (q : TableMetadataQuery) :
    Option (FetchedRow × TableMetadataQuery) :=
  if q.state.executed ∧ q.state.rows = [] then some (⟨.aiNoData, [], columnBindings⟩, q)
  else (q.state.fetchNextRow (getColumn P) columnBindings).map fun (fetched, state) =>
    (fetched, { q with state })

/-- `TableMetadataQuery::Execute`: both kinds of success set the flags, and only a result with rows
moves the iterator. -/
def execute (q : TableMetadataQuery) :
    (SqlResult × List DiagnosticRecord) × TableMetadataQuery :=
  let q := if q.state.executed then q.closed else q
  let listing := q.makeRequest q.requests
  let state := { q.state with rows := listing.rows }
  let state :=
    if listing.result = .aiSuccess ∨ listing.result = .aiSuccessWithInfo then
      { state with
        executed := true, fetched := false
        cursor := if listing.rows.isEmpty then state.cursor else 0 }
    else state
  ((listing.result, listing.records), { q with state, requests := q.requests + 1 })

/-- `TableMetadataQuery::DataAvailable`. -/
def dataAvailable (q : TableMetadataQuery) : Bool :=
  q.state.executed && !q.state.rows.isEmpty && !q.state.atEnd

end TableMetadataQuery

/-! ## Columns -/

/-- `ColumnMeta`, as far as a column query puts it. -/
structure ColumnMeta where
  catalogName : Option Text
  schemaName : Option Text
  tableName : Option Text
  columnName : Option Text
  remarks : Option Text
  columnDef : Option Text
  dataType : Option ScalarType
  nullability : Option Nullability
  ordinalPosition : Option ℤ
  deriving DecidableEq, Repr

/-- The value of a column of a column's row. A negative number of decimal digits is put as null. -/
def ColumnMeta.columnValue (P : Platform) (row : ColumnMeta) : ℕ → Option MetaValue
  | 1 => some (.string row.catalogName)
  | 2 => some (.string row.schemaName)
  | 3 => some (.string row.tableName)
  | 4 => some (.string row.columnName)
  | 5 => some (.int16 (row.dataType.map binaryToSqlType))
  | 6 => some (.string (row.dataType.map binaryTypeToSqlTypeName))
  | 7 => some (.int32 (row.dataType.map fun type => sqlTypeColumnSize (binaryToSqlType type)))
  | 8 => some (.int32 (row.dataType.map fun type => sqlTypeTransferLength (binaryToSqlType type)))
  | 9 => some (.int16 ((row.dataType.map fun type =>
      sqlTypeDecimalDigits (binaryToSqlType type)).filter (0 ≤ ·)))
  | 10 => some (.int16 ((row.dataType.map fun type =>
      sqlTypeNumPrecRadix (binaryToSqlType type)).filter (0 ≤ ·)))
  | 11 => some (.int32 (row.nullability.map Nullability.code))
  | 12 => some (.string row.remarks)
  | 13 => some (.string row.columnDef)
  | 14 => some (.int16 (row.dataType.map binaryToSqlType))
  | 15 => some .null
  | 16 => some (.int32 (row.dataType.map fun type =>
      sqlTypeCharOctetLength P (binaryToSqlType type)))
  | 17 => some (.int32 row.ordinalPosition)
  | 18 => some (.string (row.nullability.bind nullabilityToIsNullable))
  | _ => none

/-- `ColumnMetadataQuery`. -/
abbrev ColumnMetadataQuery := MetadataQuery ColumnMeta

namespace ColumnMetadataQuery

/-- `ColumnMetadataQuery::GetColumn`: an unknown column is an error. -/
def getColumn (P : Platform) (c : MetaCursor ColumnMeta) (columnIdx : ℕ)
    (buffer : ApplicationDataBuffer) : Option ColumnRead :=
  c.getColumn (ColumnMeta.columnValue P)
    (.aiError, [statusRecord .s07009InvalidDescriptorIndex "Invalid index."]) P columnIdx buffer

/-- `ColumnMetadataQuery::FetchNextRow`. -/
def fetchNextRow (P : Platform) (columnBindings : ColumnBindings) (q : ColumnMetadataQuery) :
    Option (FetchedRow × ColumnMetadataQuery) :=
  (q.state.fetchNextRow (getColumn P) columnBindings).map fun (fetched, state) =>
    (fetched, { q with state })

/-- `ColumnMetadataQuery::Execute`: only a success without information sets the flags. -/
def execute (q : ColumnMetadataQuery) :
    (SqlResult × List DiagnosticRecord) × ColumnMetadataQuery :=
  let q := if q.state.executed then q.closed else q
  let listing := q.makeRequest q.requests
  let state := { q.state with rows := listing.rows }
  let state :=
    if listing.result = .aiSuccess then
      { state with executed := true, fetched := false, cursor := 0 }
    else state
  ((listing.result, listing.records), { q with state, requests := q.requests + 1 })

/-- `ColumnMetadataQuery::DataAvailable`. -/
def dataAvailable (q : ColumnMetadataQuery) : Bool :=
  q.state.executed && !q.state.rows.isEmpty && !q.state.atEnd

end ColumnMetadataQuery

/-! ## Type information -/

/-- `SQL_SEARCHABLE`. -/
def sqlSearchable : ℤ := 3

/-- The value of a column of a type's row. -/
def ScalarType.columnValue (type : ScalarType) : ℕ → Option MetaValue
  | 1 => some (.string (binaryTypeToSqlTypeName type))
  | 2 | 16 => some (.int16 (binaryToSqlType type))
  | 3 => some (.int32 (sqlTypeColumnSize (binaryToSqlType type)))
  | 4 | 5 => some (if type = .varchar then .string ['\''] else .null)
  | 6 => some .null
  | 7 => some (.int32 Nullability.nullabilityUnknown.code)
  | 8 => some (.int16 (some (if type = .varchar then 1 else 0)))
  | 9 => some (.int16 sqlSearchable)
  | 10 => some (.int16 (some (if sqlTypeUnsigned (binaryToSqlType type) then 1 else 0)))
  | 11 | 12 => some (.int16 (some 0))
  | 13 => some .null
  | 14 | 15 => some (.int16 (sqlTypeDecimalDigits (binaryToSqlType type)))
  | 17 => some .null
  | 18 => some (.int32 (sqlTypeNumPrecRadix (binaryToSqlType type)))
  | 19 => some .null
  | _ => none

/-- `TypeInfoQuery`, whose rows are there from the constructor on. -/
structure TypeInfoQuery where
  state : MetaCursor ScalarType
  deriving DecidableEq, Repr

namespace TypeInfoQuery

/-- The types that `SQL_ALL_TYPES` asks for. -/
def allTypes : List ScalarType :=
  [.varchar, .boolean, .bigint, .double, .timestamp, .date, .time, .intervalDayToSecond,
    .intervalYearToMonth, .integer, .notSet, .unknown]

/-- The constructor, with the types. -/
def new (types : List ScalarType) : TypeInfoQuery := { state := .new types }

/-- `TypeInfoQuery::GetColumn`: an unknown column is no error. -/
def getColumn (P : Platform) (c : MetaCursor ScalarType) (columnIdx : ℕ)
    (buffer : ApplicationDataBuffer) : Option ColumnRead :=
  c.getColumn ScalarType.columnValue (.aiSuccess, []) P columnIdx buffer

/-- `TypeInfoQuery::FetchNextRow`. -/
def fetchNextRow (P : Platform) (columnBindings : ColumnBindings) (q : TypeInfoQuery) :
    Option (FetchedRow × TypeInfoQuery) :=
  (q.state.fetchNextRow (getColumn P) columnBindings).map fun (fetched, state) =>
    (fetched, { state })

/-- `TypeInfoQuery::Execute`. -/
def execute (q : TypeInfoQuery) : (SqlResult × List DiagnosticRecord) × TypeInfoQuery :=
  ((.aiSuccess, []), { state := { q.state with cursor := 0, executed := true, fetched := false } })

/-- `TypeInfoQuery::Close`: the types stay. -/
def closed (q : TypeInfoQuery) : TypeInfoQuery :=
  { state := { q.state with cursor := q.state.rows.length, executed := false } }

/-- `TypeInfoQuery::DataAvailable`. -/
def dataAvailable (q : TypeInfoQuery) : Bool := q.state.executed && !q.state.atEnd

end TypeInfoQuery

end TimestreamOdbc
