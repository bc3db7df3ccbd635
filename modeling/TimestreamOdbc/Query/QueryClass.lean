import TimestreamOdbc.Query.MetadataQuery
import TimestreamOdbc.Query.PageWorker
import TimestreamOdbc.Query.SyncQuery

/-!
# The query classes behind a statement

A statement works with its current query through the virtual functions of `Query`.  Here they are a
structure of functions, so that a statement can be modelled once over all classes; a function gives
nothing when the call does not return, because it leaves by an exception or waits for ever.

A data query comes in two forms: with its workers interleaved by a schedule, and with whole
operations.  The catalog functions that the driver does not support share one class.
-/

namespace TimestreamOdbc

open TransitionSystem

/-- The virtual functions of `Query`. -/
structure QueryClass (Q : Type) where
  execute : Q → Option ((SqlResult × List DiagnosticRecord) × Q)
  fetchNextRow : ColumnBindings → Q → Option (FetchedRow × Q)
  getColumn : ℕ → ApplicationDataBuffer → Q → Option (ColumnRead × Q)
  close : Q → Option (SqlResult × Q)
  dataAvailable : Q → Bool

/-! ## Data queries -/

variable {δ γ : Type}

/-- What a data query works with; a datum can be null. -/
structure DataSource (δ γ : Type) where
  sql : String
  maxRowPerPage : Option ℤ
  service : ℕ → QueryRequest → QueryOutcome (Option δ) γ
  cancelQuery : ℕ → String → CancelOutcome
  columns : TimestreamColumns δ γ

/-- The environment of the query, with the bound columns as buffers. -/
def DataSource.env (source : DataSource δ γ) : QueryEnv (Option δ) γ ColumnBinding :=
  { sql := source.sql, maxRowPerPage := source.maxRowPerPage, service := source.service
    cancelQuery := source.cancelQuery, readToBuffer := source.columns.readToBinding }

/-- `DataQuery::GetColumn` into a buffer that is not bound; the conversion that is made into it, if
there is one, is what was done through it. -/
def DataSource.getColumn (source : DataSource δ γ) (columnIdx : ℕ) (buffer : ApplicationDataBuffer)
    (q : DataQuery (Option δ) γ) : Option (ColumnRead × DataQuery (Option δ) γ) :=
  match q.getColumn source.env columnIdx (.ofBuffer buffer) with
  | (none, _) => none
  | (some result, records, b, q) =>
    some (⟨result, records, b.written.head?.map Written.put⟩, q)

/-- The threads of a data query: the main thread, and the workers by their number. -/
inductive Thread where
  | main
  | worker (i : ℕ)
  deriving DecidableEq, Repr

/-- The step of a thread inside an operation. -/
def Thread.action {B : Type} : Thread → Action B
  | main => .main
  | worker i => .worker i

/-- A data query with its workers. After a call is begun, the threads take the steps that the
schedule has for it. -/
structure InterleavedQuery (δ γ : Type) where
  source : DataSource δ γ
  schedule : ℕ → List Thread
  system : System (Option δ) γ ColumnBinding

namespace InterleavedQuery

/-- A call of an operation, which has to end within its schedule. -/
def perform (op : Op ColumnBinding) (q : InterleavedQuery δ γ) :
    Option (Reply (Option δ) γ ColumnBinding × InterleavedQuery δ γ) :=
  (run (System.step q.source.env) q.system
      (.call op :: (q.schedule q.system.returns.length).map Thread.action)).bind fun system =>
    match system.pc with
    | .idle => system.returns.getLast?.map fun r => (r.reply, { q with system })
    | _ => none

/-- `DataQuery::Execute`. -/
def execute (q : InterleavedQuery δ γ) :
    Option ((SqlResult × List DiagnosticRecord) × InterleavedQuery δ γ) :=
  match q.perform .execute with
  | some (.result result records, q) => some ((result, records), q)
  | _ => none

/-- `DataQuery::FetchNextRow`. -/
def fetchNextRow (columnBindings : ColumnBindings) (q : InterleavedQuery δ γ) :
    Option (FetchedRow × InterleavedQuery δ γ) :=
  match q.perform (.fetchNextRow columnBindings) with
  | some (.fetched f, q) => f.result.map fun result => (⟨result, f.records, f.columnBindings⟩, q)
  | _ => none

/-- `DataQuery::GetColumn`. -/
def getColumn (columnIdx : ℕ) (buffer : ApplicationDataBuffer) (q : InterleavedQuery δ γ) :
    Option (ColumnRead × InterleavedQuery δ γ) :=
  (q.source.getColumn columnIdx buffer q.system.query).map fun (read, query) =>
    (read, { q with system := { q.system with query } })

/-- `DataQuery::Close`. -/
def close (q : InterleavedQuery δ γ) : Option (SqlResult × InterleavedQuery δ γ) :=
  match q.perform .close with
  | some (.result result _, q) => some (result, q)
  | _ => none

/-- `DataQuery::DataAvailable`. -/
def dataAvailable (q : InterleavedQuery δ γ) : Bool := q.system.query.dataAvailable

/-- The class of data queries with interleaved workers. -/
def queryClass : QueryClass (InterleavedQuery δ γ) :=
  { execute, fetchNextRow, getColumn, close, dataAvailable }

end InterleavedQuery

/-- A data query of whole operations. An execution sends no more requests than the bound. -/
structure WholeQuery (δ γ : Type) where
  source : DataSource δ γ
  maxRequests : ℕ
  state : SyncQuery (Option δ) γ

namespace WholeQuery

/-- `DataQuery::Execute`. -/
def execute (q : WholeQuery δ γ) :
    Option ((SqlResult × List DiagnosticRecord) × WholeQuery δ γ) :=
  (q.state.execute q.source.env q.maxRequests).map fun (r, state) => (r, { q with state })

/-- `DataQuery::FetchNextRow`. -/
def fetchNextRow (columnBindings : ColumnBindings) (q : WholeQuery δ γ) :
    Option (FetchedRow × WholeQuery δ γ) :=
  (q.state.fetchNextRow q.source.env columnBindings).bind fun (f, state) =>
    f.result.map fun result => (⟨result, f.records, f.columnBindings⟩, { q with state })

/-- `DataQuery::GetColumn`. -/
def getColumn (columnIdx : ℕ) (buffer : ApplicationDataBuffer) (q : WholeQuery δ γ) :
    Option (ColumnRead × WholeQuery δ γ) :=
  (q.source.getColumn columnIdx buffer q.state.query).map fun (read, query) =>
    (read, { q with state := { q.state with query } })

/-- `DataQuery::Close`. -/
def close (q : WholeQuery δ γ) : Option (SqlResult × WholeQuery δ γ) :=
  some (q.state.close.1, { q with state := q.state.close.2 })

/-- `DataQuery::DataAvailable`. -/
def dataAvailable (q : WholeQuery δ γ) : Bool := q.state.query.dataAvailable

/-- The class of data queries of whole operations. -/
def queryClass : QueryClass (WholeQuery δ γ) :=
  { execute, fetchNextRow, getColumn, close, dataAvailable }

/-- A new query over one page of strings. -/
def ofStrings (rows : List (List (Option Text))) : WholeQuery Text ℕ :=
  { source :=
      { sql := "", maxRowPerPage := none, cancelQuery := fun _ _ => .success
        service := scriptedService [⟨"", rows, "", List.range (rows.headD []).length⟩]
        columns :=
          { typeHasBeenSet := fun _ => true
            parseValue := fun _ value dataBuf => dataBuf.putString samplePlatform value } }
    maxRequests := 1, state := .new }

end WholeQuery

/-! ## All queries -/

/-- A query of a statement: a data query, a catalog query, or the query of a catalog function that
is not supported. -/
inductive Query (D : Type) where
  | data (q : D)
  | tables (q : TableMetadataQuery)
  | columns (q : ColumnMetadataQuery)
  | typeInfo (q : TypeInfoQuery)
  | unsupported (functionName : String)

namespace Query

variable {D : Type}

/-- The record of an execution of a function that is not supported. -/
def emptyResultSet (functionName : String) : DiagnosticRecord :=
  statusRecord .s01000GeneralWarning
    (functionName ++ " is not supported. Return empty result set.")

/-- The record of a fetch from a function that is not supported. -/
def noDataReturned (functionName : String) : DiagnosticRecord :=
  statusRecord .s01000GeneralWarning (functionName ++ " is not supported. No data is returned.")

/-- `Execute`. -/
def execute (K : QueryClass D) : Query D → Option ((SqlResult × List DiagnosticRecord) × Query D)
  | data q => (K.execute q).map fun (r, q) => (r, data q)
  | tables q => some (q.execute.1, tables q.execute.2)
  | columns q => some (q.execute.1, columns q.execute.2)
  | typeInfo q => some (q.execute.1, typeInfo q.execute.2)
  | unsupported functionName =>
    some ((.aiSuccessWithInfo, [emptyResultSet functionName]), unsupported functionName)

/-- `FetchNextRow`. -/
def fetchNextRow (K : QueryClass D) (P : Platform) (columnBindings : ColumnBindings) :
    Query D → Option (FetchedRow × Query D)
  | data q => (K.fetchNextRow columnBindings q).map fun (f, q) => (f, data q)
  | tables q => (q.fetchNextRow P columnBindings).map fun (f, q) => (f, tables q)
  | columns q => (q.fetchNextRow P columnBindings).map fun (f, q) => (f, columns q)
  | typeInfo q => (q.fetchNextRow P columnBindings).map fun (f, q) => (f, typeInfo q)
  | unsupported functionName =>
    some (⟨.aiNoData, [noDataReturned functionName], columnBindings⟩, unsupported functionName)

/-- `GetColumn`. -/
def getColumn (K : QueryClass D) (P : Platform) (columnIdx : ℕ) (buffer : ApplicationDataBuffer) :
    Query D → Option (ColumnRead × Query D)
  | data q => (K.getColumn columnIdx buffer q).map fun (r, q) => (r, data q)
  | tables q =>
    (TableMetadataQuery.getColumn P q.state columnIdx buffer).map fun r => (r, tables q)
  | columns q =>
    (ColumnMetadataQuery.getColumn P q.state columnIdx buffer).map fun r => (r, columns q)
  | typeInfo q => (TypeInfoQuery.getColumn P q.state columnIdx buffer).map fun r => (r, typeInfo q)
  | unsupported functionName =>
    some (⟨.aiNoData, [noDataReturned functionName], none⟩, unsupported functionName)

/-- `Close`. -/
def close (K : QueryClass D) : Query D → Option (SqlResult × Query D)
  | data q => (K.close q).map fun (r, q) => (r, data q)
  | tables q => some (.aiSuccess, tables q.closed)
  | columns q => some (.aiSuccess, columns q.closed)
  | typeInfo q => some (.aiSuccess, typeInfo q.closed)
  | unsupported functionName => some (.aiSuccess, unsupported functionName)

/-- `DataAvailable`. -/
def dataAvailable (K : QueryClass D) : Query D → Bool
  | data q => K.dataAvailable q
  | tables q => q.dataAvailable
  | columns q => q.dataAvailable
  | typeInfo q => q.dataAvailable
  | unsupported _ => false

/-- The class of all queries, over a class of data queries. -/
def queryClass (K : QueryClass D) (P : Platform) : QueryClass (Query D) :=
  { execute := execute K, fetchNextRow := fetchNextRow K P, getColumn := getColumn K P
    close := close K, dataAvailable := dataAvailable K }

end Query

end TimestreamOdbc
