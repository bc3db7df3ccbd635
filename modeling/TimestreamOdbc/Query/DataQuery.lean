import TimestreamOdbc.Query.TimestreamCursor
import Mathlib.Data.Int.Notation
import Mathlib.Logic.Function.Basic

/-!
# The data query

`DataQuery` runs one SQL statement against the query service.  `Execute` walks the leading empty
pages itself; the pages after the first one with rows are prefetched one at a time by a worker
thread that leaves its outcome in the queue of the context, and `SwitchCursor` takes it from there
when the cursor reaches the end of the page.

This module has the data of a query and the pieces of its operations between two accesses to what
it shares with the worker.  The pieces are assembled twice: into the interleaving of the main
thread with its workers (`Query.PageWorker`), and into whole operations (`Query.SyncQuery`).

The query service is a parameter.  Its answer may depend on how many requests were sent before,
so that one parameter covers every sequence of answers.
-/

namespace TimestreamOdbc

/-! ## Requests and outcomes -/

/-- `QueryRequest`: the query text, the page size when it was set, and the next token, which is
empty when it was not set. -/
structure QueryRequest where
  queryString : String
  maxRows : Option ℤ
  nextToken : String
  deriving DecidableEq, Repr

/-- `QueryResult`: one page. -/
structure QueryResult (δ γ : Type) where
  queryId : String
  rows : List (List δ)
  nextToken : String
  columnInfo : List γ
  deriving DecidableEq, Repr

/-- The error of a failed request. -/
structure AwsError where
  exceptionName : String
  message : String
  deriving DecidableEq, Repr

/-- `QueryOutcome`: a page or an error. -/
inductive QueryOutcome (δ γ : Type) where
  | success (page : QueryResult δ γ)
  | failure (error : AwsError)
  deriving DecidableEq, Repr

/-- `CancelQueryOutcome`: the cancellation message or an error. -/
inductive CancelOutcome where
  | success
  | failure (error : AwsError)
  deriving DecidableEq, Repr

variable {δ γ B : Type}

/-- `ColumnBindingMap`: the application buffers by column number. -/
abbrev ColumnBindingMap (B : Type) := ℕ → Option B

/-- What a query works with: its SQL text, the page size of the connection's configuration, the
service (which gets the number of requests sent before), its answers to a cancel request (which
gets the number of calls completed before), and the decoding of a datum into a buffer, which gives
nothing when it leaves by an exception. -/
structure QueryEnv (δ γ B : Type) where
  sql : String
  maxRowPerPage : Option ℤ
  service : ℕ → QueryRequest → QueryOutcome δ γ
  cancelQuery : ℕ → String → CancelOutcome
  readToBuffer : γ → δ → B → Option (ConversionResult × B)

/-- The service that answers the `k`-th request with the `k`-th page, whatever it asks for, and
fails after the last page. -/
def scriptedService (pages : List (QueryResult δ γ)) (k : ℕ) (_request : QueryRequest) :
    QueryOutcome δ γ :=
  match pages[k]? with
  | some page => .success page
  | none => .failure { exceptionName := "", message := "" }

/-- A query over scripted pages, with data that every buffer accepts. -/
def scriptedEnv (pages : List (QueryResult ℕ ℕ)) : QueryEnv ℕ ℕ Unit :=
  { sql := "", maxRowPerPage := none, service := scriptedService pages
    cancelQuery := fun _ _ => .success
    readToBuffer := fun _ _ dataBuf => some (.aiSuccess, dataBuf) }

/-- A page of single-column rows. -/
def samplePage (values : List ℕ) (nextToken : String) : QueryResult ℕ ℕ :=
  { queryId := "", rows := values.map fun value => [value], nextToken, columnInfo := [0] }

/-- `DataQueryContext` without its mutex and condition variable. -/
structure DataQueryContext (δ γ : Type) where
  queue : List (QueryOutcome δ γ)
  isClosing : Bool
  deriving DecidableEq, Repr

/-- The members of `DataQuery` other than the thread queue. -/
structure DataQuery (δ γ : Type) where
  resultMetaAvailable : Bool
  resultMeta : List γ
  request : QueryRequest
  result : Option (QueryResult δ γ)
  cursor : Option (TimestreamCursor δ γ)
  context : DataQueryContext δ γ
  hasAsyncFetch : Bool
  rowCounter : ℕ
  deriving DecidableEq, Repr

/-- What a fetch reports: its result (nothing when it left by an exception), the records it added,
the buffers afterwards, and the row it moved the cursor to. -/
structure Fetched (δ B : Type) where
  result : Option SqlResult
  records : List DiagnosticRecord
  columnBindings : ColumnBindingMap B
  row : Option (List δ)

namespace DataQuery

/-- The constructor. -/
def new : DataQuery δ γ :=
  { resultMetaAvailable := false, resultMeta := []
    request := { queryString := "", maxRows := none, nextToken := "" }
    result := none, cursor := none
    context := { queue := [], isClosing := false }
    hasAsyncFetch := false, rowCounter := 0 }

/-- The query with another content of its queue. -/
def withQueue (queue : List (QueryOutcome δ γ)) (q : DataQuery δ γ) : DataQuery δ γ :=
  { q with context := { q.context with queue } }

/-- `request_.SetNextToken`. -/
def setNextToken (q : DataQuery δ γ) (token : String) : DataQuery δ γ :=
  { q with request := { q.request with nextToken := token } }

/-- The end of `InternalClose`, after the workers were joined. -/
def released (q : DataQuery δ γ) : DataQuery δ γ :=
  { q with result := none, cursor := none }

/-- `DataQuery::DataAvailable`. -/
def dataAvailable (q : DataQuery δ γ) : Bool := q.cursor.isSome

/-- Whether the cursor exists and has data, the condition of `RowNumber` and `GetColumn`. -/
def onRow (q : DataQuery δ γ) : Bool := q.cursor.any TimestreamCursor.hasData

/-- The number `DataQuery::RowNumber` returns. -/
def rowNumber (q : DataQuery δ γ) : ℕ :=
  if q.onRow then q.rowCounter else 0

/-! ## Execution -/

/-- The request `MakeRequestExecute` prepares: the query text, and the page size when the
configuration has one. -/
def prepareRequest (env : QueryEnv δ γ B) (request : QueryRequest) : QueryRequest :=
  { request with
    queryString := env.sql
    maxRows := match env.maxRowPerPage with
      | none => request.maxRows
      | some rows => some rows }

/-- `DataQuery::ReadColumnMetadataVector`; the metadata of a column is read from its info. -/
def readColumnMetadataVector (columnInfo : List γ) (q : DataQuery δ γ) : DataQuery δ γ :=
  if columnInfo.isEmpty then { q with resultMeta := [] }
  else { q with resultMeta := columnInfo, resultMetaAvailable := true }

/-- The metadata part of `MakeRequestFetch`. -/
def ensureColumnMetadata (columnInfo : List γ) (q : DataQuery δ γ) : DataQuery δ γ :=
  if q.resultMetaAvailable then q else q.readColumnMetadataVector columnInfo

/-- `DataQuery::MakeRequestFetch`. -/
def makeRequestFetch (q : DataQuery δ γ) :
    SqlResult × List DiagnosticRecord × DataQuery δ γ :=
  match q.result with
  | none => (.aiError, [statusRecord .sHY010SequenceError "result_ is a null pointer"], q)
  | some page =>
    let q := q.ensureColumnMetadata page.columnInfo
    if page.rows.isEmpty then (.aiNoData, [], q)
    else (.aiSuccess, [], { q with cursor := some (.ofRows page.rows) })

/-- What one turn of the loop of `MakeRequestExecute` comes to: a failure, which closes the query;
the end of a result without rows; another turn; or a first page with rows, with a worker to start
when it has a token. -/
inductive ExecuteTurn (δ γ : Type) where
  | failed (record : DiagnosticRecord)
  | empty (q : DataQuery δ γ)
  | again (q : DataQuery δ γ)
  | page (startWorker : Bool) (result : SqlResult) (records : List DiagnosticRecord)
      (q : DataQuery δ γ)

/-- The record `MakeRequestExecute` adds when a request failed. -/
def executeFailure (env : QueryEnv δ γ B) : DiagnosticRecord :=
  statusRecord .sHY000GeneralError
    ("AWS API Failure: Failed to execute query \"" ++ env.sql ++ "\"")

/-- One turn of the loop of `MakeRequestExecute`, after the service answered. -/
def executeTurn (env : QueryEnv δ γ B) (outcome : QueryOutcome δ γ) (q : DataQuery δ γ) :
    ExecuteTurn δ γ :=
  match outcome with
  | .failure _ => .failed (executeFailure env)
  | .success page =>
    let q := { q with result := some page }
    if page.rows.isEmpty then
      if page.nextToken = "" then .empty q else .again (q.setNextToken page.nextToken)
    else
      let q := { q with cursor := some (.ofRows page.rows) }
      if page.nextToken = "" then
        let (result, records, q) := q.makeRequestFetch
        .page false result records q
      else
        let (result, records, q) :=
          { q.setNextToken page.nextToken with hasAsyncFetch := true }.makeRequestFetch
        .page true result records q

/-! ## Fetching -/

/-- `DataQuery::ProcessConversionResult`. -/
def processConversionResult (convRes : ConversionResult) (columnIdx : ℕ) :
    SqlResult × List DiagnosticRecord :=
  let record (sqlState : SqlState) (message : String) : DiagnosticRecord :=
    { sqlState, message, rowNum := 0, columnNum := columnIdx }
  match convRes with
  | .aiSuccess => (.aiSuccess, [])
  | .aiNoData => (.aiNoData, [])
  | .aiVarlenDataTruncated =>
    (.aiSuccessWithInfo, [record .s01004DataTruncated
      "Buffer is too small for the column data. Truncated from the right."])
  | .aiFractionalTruncated =>
    (.aiSuccessWithInfo, [record .s01S07FractionalTruncation
      "Buffer is too small for the column data. Fraction truncated."])
  | .aiIndicatorNeeded =>
    (.aiSuccessWithInfo, [record .s22002IndicatorNeeded
      "Indicator is needed but not suplied for the column buffer."])
  | .aiUnsupportedConversion =>
    (.aiSuccessWithInfo, [record .sHYC00OptionalFeatureNotImplemented
      "Data conversion is not supported."])
  | .aiFailure => (.aiError, [record .s01S01ErrorInRow "Can not retrieve row column."])

/-- The loop of `FetchNextRow` over the columns: every bound column is read into its buffer, and
only an error ends the loop early.  The binding map is keyed by `uint16_t`. -/
def readColumns (readToBuffer : γ → δ → B → Option (ConversionResult × B)) (resultMeta : List γ) :
    List ℕ → TimestreamCursor δ γ → ColumnBindingMap B →
      Fetched δ B × TimestreamCursor δ γ
  | [], cursor, bindings => (⟨some .aiSuccess, [], bindings, cursor.currentRow⟩, cursor)
  | i :: is, cursor, bindings =>
    match bindings (i % 65536) with
    | none => readColumns readToBuffer resultMeta is cursor bindings
    | some dataBuf =>
      match cursor.readColumnToBuffer readToBuffer resultMeta i dataBuf with
      | (none, cursor) => (⟨none, [], bindings, cursor.currentRow⟩, cursor)
      | (some (convRes, dataBuf), cursor) =>
        let bindings := Function.update bindings (i % 65536) (some dataBuf)
        let processed := processConversionResult convRes i
        if processed.1 = .aiError then
          (⟨some .aiError, processed.2, bindings, cursor.currentRow⟩, cursor)
        else
          let rest := readColumns readToBuffer resultMeta is cursor bindings
          ({ rest.1 with records := processed.2 ++ rest.1.records }, rest.2)

/-- The end of `FetchNextRow`, with the cursor on a row: the bound columns are read and the row is
counted unless a column failed. -/
def readRow (env : QueryEnv δ γ B) (columnBindings : ColumnBindingMap B) (q : DataQuery δ γ) :
    Fetched δ B × DataQuery δ γ :=
  match q.cursor with
  | none => (⟨none, [], columnBindings, none⟩, q)
  | some cursor =>
    let (fetched, cursor) := readColumns env.readToBuffer q.resultMeta
      (List.range' 1 q.resultMeta.length) cursor columnBindings
    (fetched, { q with
      cursor := some cursor
      rowCounter := if fetched.result = some .aiSuccess then q.rowCounter + 1 else q.rowCounter })

/-- What the beginning of `FetchNextRow` comes to: the end of the call, a row of the current page,
or a switch to the next page. -/
inductive FetchTurn (δ γ : Type) where
  | noData (records : List DiagnosticRecord) (q : DataQuery δ γ)
  | row (q : DataQuery δ γ)
  | switch (q : DataQuery δ γ)

/-- The beginning of `FetchNextRow`: the cursor is moved, and the flag decides whether the end of
the page is the end of the result. -/
def fetchTurn (q : DataQuery δ γ) : FetchTurn δ γ :=
  match q.cursor with
  | none =>
    .noData [statusRecord .s01000GeneralWarning "Cursor does not point to any data."] q
  | some cursor =>
    let (more, cursor) := cursor.increment
    let q := { q with cursor := some cursor }
    if more then .row q
    else if q.hasAsyncFetch then .switch q
    else .noData [] q

/-- The record `FetchNextRow` adds when `SwitchCursor` did not succeed. -/
def invalidCursorState : DiagnosticRecord :=
  statusRecord .s24000InvalidCursorState "Invalid cursor state."

/-- What `SwitchCursor` makes of the outcome it took from the queue: the call ends, the page is
the last one, or another page has to be prefetched. -/
inductive PageTurn (δ γ : Type) where
  | ends (result : SqlResult) (q : DataQuery δ γ)
  | last (q : DataQuery δ γ)
  | more (token : String) (q : DataQuery δ γ)

/-- `SwitchCursor` after it took an outcome from the queue.  A page without rows ends the call and
leaves the flag `hasAsyncFetch` as it is. -/
def pageTurn (outcome : QueryOutcome δ γ) (q : DataQuery δ γ) : PageTurn δ γ :=
  match outcome with
  | .failure _ => .ends .aiError { q with cursor := none, hasAsyncFetch := false }
  | .success page =>
    let q := { q with result := some page }
    if page.rows.isEmpty then .ends .aiNoData q
    else
      let cursor : TimestreamCursor δ γ := .ofRows page.rows
      let q := { q with cursor := some cursor.increment.2 }
      if page.nextToken = "" then .last { q with hasAsyncFetch := false }
      else .more page.nextToken q

/-! ## The turns by case -/

/-- The query with its cursor before the first row of the first page that has rows. -/
def onFirstPage (page : QueryResult δ γ) (q : DataQuery δ γ) : DataQuery δ γ :=
  { ensureColumnMetadata page.columnInfo { q with result := some page } with
    cursor := some (.ofRows page.rows) }

/-- The query with its cursor on the first row of the page it switched to. -/
def onNextPage (page : QueryResult δ γ) (q : DataQuery δ γ) : DataQuery δ γ :=
  { q with result := some page, cursor := some (TimestreamCursor.ofRows page.rows).moved }

/-- Fetching into a query whose result has rows succeeds. -/
lemma makeRequestFetch_of_rows {q : DataQuery δ γ} {page : QueryResult δ γ}
    (hres : q.result = some page) (hrows : page.rows ≠ []) :
    q.makeRequestFetch = (.aiSuccess, [],
      { ensureColumnMetadata page.columnInfo q with cursor := some (.ofRows page.rows) }) := by
  unfold makeRequestFetch
  rw [hres]
  simp [hrows]

/-- The metadata does not depend on the cursor. -/
lemma ensureColumnMetadata_cursor (columnInfo : List γ) (q : DataQuery δ γ)
    (c c' : Option (TimestreamCursor δ γ)) :
    { ensureColumnMetadata columnInfo { q with cursor := c } with cursor := c' } =
      { ensureColumnMetadata columnInfo q with cursor := c' } := by
  unfold ensureColumnMetadata readColumnMetadataVector
  by_cases havail : q.resultMetaAvailable = true <;>
    by_cases hempty : columnInfo.isEmpty = true <;> simp [havail, hempty]

/-- Metadata that is not there yet is that of the page. -/
lemma resultMeta_onFirstPage {q : DataQuery δ γ} (page : QueryResult δ γ)
    (h : q.resultMetaAvailable = false) : (q.onFirstPage page).resultMeta = page.columnInfo := by
  unfold onFirstPage ensureColumnMetadata readColumnMetadataVector
  cases hinfo : page.columnInfo <;> simp [h]

/-- A failure closes the query. -/
lemma executeTurn_failure (env : QueryEnv δ γ B) (error : AwsError) (q : DataQuery δ γ) :
    q.executeTurn env (.failure error) = .failed (executeFailure env) := rfl

/-- An empty page without a token is the empty result. -/
lemma executeTurn_empty (env : QueryEnv δ γ B) {page : QueryResult δ γ} (q : DataQuery δ γ)
    (hrows : page.rows = []) (htoken : page.nextToken = "") :
    q.executeTurn env (.success page) = .empty { q with result := some page } := by
  simp [executeTurn, hrows, htoken]

/-- An empty page with a token makes the loop go on with the token. -/
lemma executeTurn_again (env : QueryEnv δ γ B) {page : QueryResult δ γ} (q : DataQuery δ γ)
    (hrows : page.rows = []) (htoken : page.nextToken ≠ "") :
    q.executeTurn env (.success page) =
      .again ({ q with result := some page }.setNextToken page.nextToken) := by
  simp [executeTurn, hrows, htoken]

/-- A page with rows and no token is the whole result. -/
lemma executeTurn_page (env : QueryEnv δ γ B) {page : QueryResult δ γ} (q : DataQuery δ γ)
    (hrows : page.rows ≠ []) (htoken : page.nextToken = "") :
    q.executeTurn env (.success page) = .page false .aiSuccess [] (q.onFirstPage page) := by
  have hfetch := makeRequestFetch_of_rows
    (q := { q with result := some page, cursor := some (.ofRows page.rows) }) rfl hrows
  simp only [executeTurn, List.isEmpty_iff, hrows, htoken, if_false, if_true, hfetch]
  rw [onFirstPage, ensureColumnMetadata_cursor page.columnInfo { q with result := some page }]

/-- After a page with rows and a token the next page is prefetched. -/
lemma executeTurn_page_token (env : QueryEnv δ γ B) {page : QueryResult δ γ}
    (q : DataQuery δ γ) (hrows : page.rows ≠ []) (htoken : page.nextToken ≠ "") :
    q.executeTurn env (.success page) = .page true .aiSuccess []
      ({ q.setNextToken page.nextToken with hasAsyncFetch := true }.onFirstPage page) := by
  have hfetch := makeRequestFetch_of_rows
    (q := { q with
      result := some page, cursor := some (.ofRows page.rows)
      request := { q.request with nextToken := page.nextToken }
      hasAsyncFetch := true }) rfl hrows
  simp only [executeTurn, List.isEmpty_iff, hrows, htoken, if_false, setNextToken, hfetch]
  rw [onFirstPage, ensureColumnMetadata_cursor page.columnInfo
    { q with
      request := { q.request with nextToken := page.nextToken }
      hasAsyncFetch := true, result := some page }]

/-- A page without rows ends the fetch. -/
lemma pageTurn_empty {page : QueryResult δ γ} (q : DataQuery δ γ) (hrows : page.rows = []) :
    q.pageTurn (.success page) = .ends .aiNoData { q with result := some page } := by
  simp [pageTurn, hrows]

/-- A page with rows and no token is the last one. -/
lemma pageTurn_last {page : QueryResult δ γ} (q : DataQuery δ γ) (hrows : page.rows ≠ [])
    (htoken : page.nextToken = "") :
    q.pageTurn (.success page) = .last { q.onNextPage page with hasAsyncFetch := false } := by
  simp [pageTurn, hrows, htoken, onNextPage, TimestreamCursor.increment]

/-- After a page with rows and a token another page is prefetched. -/
lemma pageTurn_more {page : QueryResult δ γ} (q : DataQuery δ γ) (hrows : page.rows ≠ [])
    (htoken : page.nextToken ≠ "") :
    q.pageTurn (.success page) = .more page.nextToken (q.onNextPage page) := by
  simp [pageTurn, hrows, htoken, onNextPage, TimestreamCursor.increment]

/-- Without a cursor there is nothing to fetch. -/
lemma fetchTurn_none {q : DataQuery δ γ} (hc : q.cursor = none) :
    q.fetchTurn = .noData
      [statusRecord .s01000GeneralWarning "Cursor does not point to any data."] q := by
  simp [fetchTurn, hc]

/-- Inside a page the fetch reads its next row. -/
lemma fetchTurn_row {q : DataQuery δ γ} {c : TimestreamCursor δ γ} (hc : q.cursor = some c)
    (hmore : c.increment.1 = true) :
    q.fetchTurn = .row { q with cursor := some c.moved } := by
  simp only [fetchTurn, hc, hmore]
  rfl

/-- At the end of a page with a prefetch the cursor is switched. -/
lemma fetchTurn_switch {q : DataQuery δ γ} {c : TimestreamCursor δ γ} (hc : q.cursor = some c)
    (hmore : c.increment.1 = false) (hflag : q.hasAsyncFetch = true) :
    q.fetchTurn = .switch { q with cursor := some c.moved } := by
  simp only [fetchTurn, hc, hmore, hflag]
  rfl

/-- At the end of a page without a prefetch the result has ended. -/
lemma fetchTurn_end {q : DataQuery δ γ} {c : TimestreamCursor δ γ} (hc : q.cursor = some c)
    (hmore : c.increment.1 = false) (hflag : q.hasAsyncFetch = false) :
    q.fetchTurn = .noData [] { q with cursor := some c.moved } := by
  simp only [fetchTurn, hc, hmore, hflag]
  rfl

/-! ## Reading a row -/

/-- Reading columns reports the row the cursor stands on, and does not move the cursor. -/
lemma readColumns_row (readToBuffer : γ → δ → B → Option (ConversionResult × B))
    (resultMeta : List γ) (is : List ℕ) (cursor : TimestreamCursor δ γ)
    (bindings : ColumnBindingMap B) :
    (readColumns readToBuffer resultMeta is cursor bindings).1.row = cursor.currentRow ∧
      ∃ columns, (readColumns readToBuffer resultMeta is cursor bindings).2 =
        { cursor with columns } := by
  induction is generalizing cursor bindings with
  | nil => exact ⟨rfl, cursor.columns, rfl⟩
  | cons i is ih =>
    unfold readColumns
    split
    · exact ih cursor bindings
    · next dataBuf hbuf =>
      obtain ⟨columns, hcolumns⟩ :=
        cursor.readColumnToBuffer_cursor readToBuffer resultMeta i dataBuf
      split
      · next cursor' hread =>
        rw [hread] at hcolumns
        subst hcolumns
        exact ⟨rfl, columns, rfl⟩
      · next convRes dataBuf' cursor' hread =>
        rw [hread] at hcolumns
        subst hcolumns
        dsimp only
        split
        · exact ⟨rfl, columns, rfl⟩
        · obtain ⟨hrow, columns', hcursor⟩ := ih { cursor with columns }
            (Function.update bindings (i % 65536) (some dataBuf'))
          exact ⟨hrow, columns', hcursor⟩

/-- Reading columns never reports the end of the data. -/
lemma readColumns_result_ne_noData (readToBuffer : γ → δ → B → Option (ConversionResult × B))
    (resultMeta : List γ) (is : List ℕ) (cursor : TimestreamCursor δ γ)
    (bindings : ColumnBindingMap B) :
    (readColumns readToBuffer resultMeta is cursor bindings).1.result ≠ some .aiNoData := by
  induction is generalizing cursor bindings with
  | nil => simp [readColumns]
  | cons i is ih =>
    unfold readColumns
    split
    · exact ih cursor bindings
    · split
      · simp
      · dsimp only
        split
        · simp
        · exact ih _ _

/-- Reading a row never reports the end of the data. -/
lemma readRow_result_ne_noData (env : QueryEnv δ γ B) (b : ColumnBindingMap B)
    (q : DataQuery δ γ) : (q.readRow env b).1.result ≠ some .aiNoData := by
  unfold readRow
  split
  · simp
  · exact readColumns_result_ne_noData _ _ _ _ _

/-- Reading a row reports the row the cursor stands on, and does not move the cursor. -/
lemma readRow_row (env : QueryEnv δ γ B) (b : ColumnBindingMap B) {q : DataQuery δ γ}
    {c : TimestreamCursor δ γ} (hc : q.cursor = some c) :
    (q.readRow env b).1.row = c.currentRow ∧
      ∃ columns, (q.readRow env b).2.cursor = some { c with columns } := by
  obtain ⟨hrow, columns, hcursor⟩ := readColumns_row env.readToBuffer q.resultMeta
    (List.range' 1 q.resultMeta.length) c b
  unfold readRow
  rw [hc]
  exact ⟨hrow, columns, congrArg some hcursor⟩

/-- Without bound columns a fetch reads nothing and succeeds. -/
lemma readRow_no_bindings (env : QueryEnv δ γ B) (q : DataQuery δ γ)
    (c : TimestreamCursor δ γ) :
    { q with cursor := some c }.readRow env (fun _ => none) =
      (⟨some .aiSuccess, [], fun _ => none, c.currentRow⟩,
        { q with cursor := some c, rowCounter := q.rowCounter + 1 }) := by
  have hcolumns : ∀ is, readColumns env.readToBuffer q.resultMeta is c (fun _ => none) =
      (⟨some .aiSuccess, [], fun _ => none, c.currentRow⟩, c) := by
    intro is
    induction is with
    | nil => rfl
    | cons i is ih => exact ih
  unfold readRow
  simp only [hcolumns, if_true]

/-! ## What the turns leave alone -/

section Frame

variable (env : QueryEnv δ γ B) (columnBindings : ColumnBindingMap B) (q : DataQuery δ γ)

@[simp] lemma readRow_context : (q.readRow env columnBindings).2.context = q.context := by
  unfold readRow; split <;> rfl

@[simp] lemma readRow_result : (q.readRow env columnBindings).2.result = q.result := by
  unfold readRow; split <;> rfl

@[simp] lemma readRow_request : (q.readRow env columnBindings).2.request = q.request := by
  unfold readRow; split <;> rfl

@[simp] lemma readRow_hasAsyncFetch : (q.readRow env columnBindings).2.hasAsyncFetch = q.hasAsyncFetch := by
  unfold readRow; split <;> rfl

@[simp] lemma readRow_resultMeta : (q.readRow env columnBindings).2.resultMeta = q.resultMeta := by
  unfold readRow; split <;> rfl

@[simp] lemma readRow_resultMetaAvailable : (q.readRow env columnBindings).2.resultMetaAvailable = q.resultMetaAvailable := by
  unfold readRow; split <;> rfl

variable (columnInfo : List γ)

@[simp] lemma readColumnMetadataVector_context :
    (q.readColumnMetadataVector columnInfo).context = q.context := by
  unfold readColumnMetadataVector; split <;> rfl

@[simp] lemma readColumnMetadataVector_result :
    (q.readColumnMetadataVector columnInfo).result = q.result := by
  unfold readColumnMetadataVector; split <;> rfl

@[simp] lemma readColumnMetadataVector_request :
    (q.readColumnMetadataVector columnInfo).request = q.request := by
  unfold readColumnMetadataVector; split <;> rfl

@[simp] lemma readColumnMetadataVector_hasAsyncFetch :
    (q.readColumnMetadataVector columnInfo).hasAsyncFetch = q.hasAsyncFetch := by
  unfold readColumnMetadataVector; split <;> rfl

@[simp] lemma readColumnMetadataVector_cursor :
    (q.readColumnMetadataVector columnInfo).cursor = q.cursor := by
  unfold readColumnMetadataVector; split <;> rfl

@[simp] lemma readColumnMetadataVector_rowCounter :
    (q.readColumnMetadataVector columnInfo).rowCounter = q.rowCounter := by
  unfold readColumnMetadataVector; split <;> rfl

@[simp] lemma ensureColumnMetadata_context :
    (q.ensureColumnMetadata columnInfo).context = q.context := by
  unfold ensureColumnMetadata; split <;> simp

@[simp] lemma ensureColumnMetadata_result :
    (q.ensureColumnMetadata columnInfo).result = q.result := by
  unfold ensureColumnMetadata; split <;> simp

@[simp] lemma ensureColumnMetadata_request :
    (q.ensureColumnMetadata columnInfo).request = q.request := by
  unfold ensureColumnMetadata; split <;> simp

@[simp] lemma ensureColumnMetadata_hasAsyncFetch :
    (q.ensureColumnMetadata columnInfo).hasAsyncFetch = q.hasAsyncFetch := by
  unfold ensureColumnMetadata; split <;> simp

@[simp] lemma ensureColumnMetadata_rowCounter :
    (q.ensureColumnMetadata columnInfo).rowCounter = q.rowCounter := by
  unfold ensureColumnMetadata; split <;> simp

variable (queue : List (QueryOutcome δ γ))

/-- The queue takes no part in reading a row. -/
lemma readRow_withQueue :
    (q.withQueue queue).readRow env columnBindings =
      ((q.readRow env columnBindings).1, (q.readRow env columnBindings).2.withQueue queue) := by
  unfold readRow
  cases hc : q.cursor <;> simp [withQueue, hc]

/-- Putting the queue back changes nothing. -/
@[simp] lemma withQueue_self : q.withQueue q.context.queue = q := rfl

/-- Only the last content counts. -/
@[simp] lemma withQueue_withQueue (queue' : List (QueryOutcome δ γ)) :
    (q.withQueue queue).withQueue queue' = q.withQueue queue' := rfl

end Frame

/-! ## Columns -/

/-- `DataQuery::GetColumn`: the result, the records, the buffer afterwards and the query, whose
cursor may have discovered the column. -/
def getColumn (env : QueryEnv δ γ B) (columnIdx : ℕ) (buffer : B) (q : DataQuery δ γ) :
    Option SqlResult × List DiagnosticRecord × B × DataQuery δ γ :=
  match q.cursor with
  | none =>
    (some .aiNoData,
      [statusRecord .s01000GeneralWarning "Cursor does not point to any data."], buffer, q)
  | some cursor =>
    if !cursor.hasData then
      (some .aiError,
        [statusRecord .s24000InvalidCursorState "Cursor has reached end of the result set."],
        buffer, q)
    else
      match cursor.readColumnToBuffer env.readToBuffer q.resultMeta columnIdx buffer with
      | (none, cursor) => (none, [], buffer, { q with cursor := some cursor })
      | (some (convRes, buffer), cursor) =>
        let (result, records) := processConversionResult convRes columnIdx
        (some result, records, buffer, { q with cursor := some cursor })

end DataQuery

end TimestreamOdbc
