import TimestreamOdbc.Query.DataQuery

/-!
# Whole operations of a data query

The operations of a data query as functions, with the prefetch done at once: starting a worker
puts its outcome into the queue.  `Query.Refinement` shows that a query which is executed once and
then fetched from behaves like this under every interleaving with its workers, which is how the
catalog functions and the statement use it.

The loop of `MakeRequestExecute` over empty pages ends when the service ends it; the fuel bounds
the number of requests.
-/

namespace TimestreamOdbc

variable {δ γ B : Type}

/-- A query whose workers have all finished, and the requests sent so far. -/
structure SyncQuery (δ γ : Type) where
  query : DataQuery δ γ
  sent : List QueryRequest
  deriving DecidableEq, Repr

namespace SyncQuery

/-- A newly constructed query. -/
def new : SyncQuery δ γ := { query := .new, sent := [] }

/-- A request is sent. -/
def send (request : QueryRequest) (s : SyncQuery δ γ) : SyncQuery δ γ :=
  { s with sent := s.sent ++ [request] }

/-- A worker is started on the request and leaves its outcome in the empty queue. -/
def prefetch (env : QueryEnv δ γ B) (s : SyncQuery δ γ) : SyncQuery δ γ :=
  { query := { s.query with
      context := { s.query.context with
        queue := [env.service s.sent.length s.query.request] } }
    sent := s.sent ++ [s.query.request] }

/-- `InternalClose` without a worker to join. -/
def internalClose (s : SyncQuery δ γ) : SyncQuery δ γ :=
  { s with query :=
    { s.query with context := { s.query.context with isClosing := true } }.released }

/-- The loop of `MakeRequestExecute`. -/
def executeLoop (env : QueryEnv δ γ B) :
    ℕ → SyncQuery δ γ → Option ((SqlResult × List DiagnosticRecord) × SyncQuery δ γ)
  | 0, _ => none
  | fuel + 1, s =>
    match s.query.executeTurn env (env.service s.sent.length s.query.request) with
    | .failed record => some ((.aiError, [record]), (s.send s.query.request).internalClose)
    | .empty q => some ((.aiNoData, []), { s.send s.query.request with query := q })
    | .again q => executeLoop env fuel { s.send s.query.request with query := q }
    | .page false result records q =>
      some ((result, records), { s.send s.query.request with query := q })
    | .page true result records q =>
      some ((result, records), prefetch env { s.send s.query.request with query := q })

/-- `MakeRequestExecute`: the request is prepared and the loop entered. -/
def makeRequestExecute (env : QueryEnv δ γ B) (fuel : ℕ) (s : SyncQuery δ γ) :
    Option ((SqlResult × List DiagnosticRecord) × SyncQuery δ γ) :=
  executeLoop env fuel { s with query :=
    { s.query with request := DataQuery.prepareRequest env s.query.request } }

/-- `DataQuery::Execute`. -/
def execute (env : QueryEnv δ γ B) (fuel : ℕ) (s : SyncQuery δ γ) :
    Option ((SqlResult × List DiagnosticRecord) × SyncQuery δ γ) :=
  makeRequestExecute env fuel (if s.query.result.isSome then s.internalClose else s)

/-- A fetch ends by reading the row the cursor was moved to. -/
def finishRow (env : QueryEnv δ γ B) (columnBindings : ColumnBindingMap B) (s : SyncQuery δ γ) :
    Fetched δ B × SyncQuery δ γ :=
  ((s.query.readRow env columnBindings).1,
    { s with query := (s.query.readRow env columnBindings).2 })

/-- The end of a page switch that prefetches another page. -/
def startNext (env : QueryEnv δ γ B) (token : String) (columnBindings : ColumnBindingMap B)
    (s : SyncQuery δ γ) : Fetched δ B × SyncQuery δ γ :=
  (prefetch env { s with query := s.query.setNextToken token }).finishRow env columnBindings

/-- `DataQuery::SwitchCursor` and the rest of the fetch; nothing when the queue is empty, for then
the wait does not end. -/
def switchCursor (env : QueryEnv δ γ B) (columnBindings : ColumnBindingMap B)
    (s : SyncQuery δ γ) : Option (Fetched δ B × SyncQuery δ γ) :=
  match s.query.context.queue with
  | [] => none
  | outcome :: queue =>
    match { s.query with context := { s.query.context with queue } }.pageTurn outcome with
    | .ends result q =>
      some (⟨some result, [DataQuery.invalidCursorState], columnBindings, none⟩,
        { s with query := q })
    | .last q => some ({ s with query := q }.finishRow env columnBindings)
    | .more token q => some ({ s with query := q }.startNext env token columnBindings)

/-- `DataQuery::FetchNextRow`. -/
def fetchNextRow (env : QueryEnv δ γ B) (columnBindings : ColumnBindingMap B)
    (s : SyncQuery δ γ) : Option (Fetched δ B × SyncQuery δ γ) :=
  match s.query.fetchTurn with
  | .noData records q =>
    some (⟨some .aiNoData, records, columnBindings, none⟩, { s with query := q })
  | .row q => some ({ s with query := q }.finishRow env columnBindings)
  | .switch q => switchCursor env columnBindings { s with query := q }

/-- `DataQuery::Close`. -/
def close (s : SyncQuery δ γ) : SqlResult × SyncQuery δ γ := (.aiSuccess, s.internalClose)

/-- What the loop of an execution comes to does not depend on the fuel. -/
lemma executeLoop_unique {env : QueryEnv δ γ B} {n m : ℕ} {s : SyncQuery δ γ}
    {x y : (SqlResult × List DiagnosticRecord) × SyncQuery δ γ}
    (hx : executeLoop env n s = some x) (hy : executeLoop env m s = some y) : x = y := by
  induction n generalizing m s with
  | zero => simp [executeLoop] at hx
  | succ n ih =>
    cases m with
    | zero => simp [executeLoop] at hy
    | succ m =>
      unfold executeLoop at hx hy
      split at hx
      case h_3 q hturn =>
        rw [hturn] at hy
        exact ih hx hy
      all_goals
        next hturn =>
          rw [hturn] at hy
          exact Option.some.inj (hx.symm.trans hy)

/-- A prefetch does not depend on the position, so it may be done before or after the row is
read. -/
lemma finishRow_prefetch (env : QueryEnv δ γ B) (b : ColumnBindingMap B) (q : DataQuery δ γ)
    (sent : List QueryRequest) :
    (prefetch env ⟨q, sent⟩).finishRow env b =
      ((q.readRow env b).1, prefetch env ⟨(q.readRow env b).2, sent⟩) := by
  have h := q.readRow_withQueue env b [env.service sent.length q.request]
  unfold DataQuery.withQueue at h
  simp [finishRow, prefetch, h]

end SyncQuery

end TimestreamOdbc
