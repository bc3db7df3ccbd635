import TimestreamOdbc.Lib.TransitionSystem
import TimestreamOdbc.Query.DataQuery
import Mathlib.Algebra.GroupWithZero.Nat

/-!
# The main thread and its page workers

One data query as a transition system: the main thread, which calls the operations of the query,
and the workers it started and has not joined.  A step of the main thread runs up to its next
access to what it shares with a worker: the outcome queue, the closing flag, the request passed by
reference, and the threads themselves.

The wait of `SwitchCursor` is enabled while the queue holds an outcome, and a join while the
thread has finished.  A worker whose wait condition does not hold when its request is answered is
parked.  Neither `InternalClose` nor the pop in `SwitchCursor` notifies the condition variable, so
a parked worker only goes on by a spurious wake-up; it must not be relied upon, and the invariants
show that no worker is ever parked.

The requests sent, the number of writes to the shared request and the completed calls are kept as
history.
-/

namespace TimestreamOdbc

variable {δ γ B : Type}

/-! ## States -/

/-- `AsyncFetchOnePage`: inside the service call, at the wait with its outcome, waiting there, or
at its end. -/
inductive Worker (δ γ : Type) where
  | calling
  | returned (outcome : QueryOutcome δ γ)
  | parked (outcome : QueryOutcome δ γ)
  | finished
  deriving DecidableEq, Repr

namespace Worker

/-- A worker is in flight until it has finished. -/
def InFlight (w : Worker δ γ) : Prop := w ≠ .finished

/-- A worker waits for the queue to be emptied, or for a close. -/
def Parked (w : Worker δ γ) : Prop := ∃ outcome, w = .parked outcome

end Worker

/-- The operations of a data query. -/
inductive Op (B : Type) where
  | execute
  | fetchNextRow (columnBindings : ColumnBindingMap B)
  | cancel
  | close
  | getMeta
  | destroy

/-- What an operation gives back. -/
inductive Reply (δ γ B : Type) where
  | result (result : SqlResult) (records : List DiagnosticRecord)
  | fetched (fetched : Fetched δ B)
  | columnMeta (columns : Option (List γ)) (records : List DiagnosticRecord)

/-- A completed call: the operation, its reply, and the row number afterwards. -/
structure Return (δ γ B : Type) where
  op : Op B
  reply : Reply δ γ B
  rowNumber : ℕ

/-- What follows an `InternalClose`: the execution goes on, or an operation ends. -/
inductive AfterClose where
  | execute
  | executeFailed (record : DiagnosticRecord)
  | cancel
  | close
  | metaFailed (record : DiagnosticRecord)
  | destroy

/-- Where the main thread stands. -/
inductive Pc (B : Type) where
  | idle
  | closing (next : AfterClose)
  | makeRequestExecute
  | query
  | waitOutcome (columnBindings : ColumnBindingMap B)
  | joinPrevious (token : String) (columnBindings : ColumnBindingMap B)
  | startNext (token : String) (columnBindings : ColumnBindingMap B)
  | metaRequest
  | cancelRequest
  | destroyed

/-- Whether the main thread is inside `InternalClose`. -/
def Pc.IsClosing (pc : Pc B) : Prop := ∃ next, pc = .closing next

/-- A query with its threads, the position of the main thread and the history. -/
structure System (δ γ B : Type) where
  query : DataQuery δ γ
  threads : List (Worker δ γ)
  pc : Pc B
  sent : List QueryRequest
  requestWrites : ℕ
  returns : List (Return δ γ B)

/-- A step is the call of an operation, a step of the main thread, or a step of a worker. -/
inductive Action (B : Type) where
  | call (op : Op B)
  | main
  | worker (i : ℕ)

namespace System

/-- A newly constructed query. -/
def new : System δ γ B :=
  { query := .new, threads := [], pc := .idle, sent := [], requestWrites := 0, returns := [] }

/-! ## Steps -/

/-- The call ends with a reply. -/
def finish (op : Op B) (reply : Reply δ γ B) (s : System δ γ B) : System δ γ B :=
  { s with pc := .idle, returns := s.returns ++ [⟨op, reply, s.query.rowNumber⟩] }

/-- A fetch ends by reading the row the cursor was moved to. -/
def finishRow (env : QueryEnv δ γ B) (columnBindings : ColumnBindingMap B) (s : System δ γ B) :
    System δ γ B :=
  { s with query := (s.query.readRow env columnBindings).2 }.finish
    (.fetchNextRow columnBindings) (.fetched (s.query.readRow env columnBindings).1)

/-- A worker is started on the shared request. -/
def startWorker (s : System δ γ B) : System δ γ B :=
  { s with threads := s.threads ++ [.calling] }

/-- The token of the next page is written to the shared request. -/
def writeToken (token : String) (s : System δ γ B) : System δ γ B :=
  { s with query := s.query.setNextToken token, requestWrites := s.requestWrites + 1 }

/-- The beginning of `InternalClose`: the closing flag is set, without the lock and without a
notification. -/
def beginClose (next : AfterClose) (s : System δ γ B) : System δ γ B :=
  { s with
    query := { s.query with context := { s.query.context with isClosing := true } }
    pc := .closing next }

/-- The end of `InternalClose`, and what follows it. -/
def endClose (next : AfterClose) (s : System δ γ B) : System δ γ B :=
  let s := { s with query := s.query.released }
  match next with
  | .execute => { s with pc := .makeRequestExecute }
  | .executeFailed record => s.finish .execute (.result .aiError [record])
  | .cancel => s.finish .cancel (.result .aiSuccess [])
  | .close => s.finish .close (.result .aiSuccess [])
  | .metaFailed record => s.finish .getMeta (.columnMeta none [record])
  | .destroy => { s with pc := .destroyed }

/-- The beginning of an operation. -/
def call (env : QueryEnv δ γ B) (op : Op B) (s : System δ γ B) : System δ γ B :=
  match op with
  | .execute =>
    if s.query.result.isSome then s.beginClose .execute else { s with pc := .makeRequestExecute }
  | .fetchNextRow columnBindings =>
    match s.query.fetchTurn with
    | .noData records q =>
      { s with query := q }.finish op
        (.fetched ⟨some .aiNoData, records, columnBindings, none⟩)
    | .row q => { s with query := q }.finishRow env columnBindings
    | .switch q => { s with query := q, pc := .waitOutcome columnBindings }
  | .cancel =>
    if s.query.hasAsyncFetch then
      if s.query.result.isSome then { s with pc := .cancelRequest }
      else s.finish op
        (.result .aiError [statusRecord .sHY000GeneralError "query is not executed"])
    else s.beginClose .cancel
  | .close => s.beginClose .close
  | .getMeta =>
    if s.query.resultMetaAvailable then s.finish op (.columnMeta (some s.query.resultMeta) [])
    else { s with pc := .metaRequest }
  | .destroy =>
    if s.query.result.isSome then s.beginClose .destroy else { s with pc := .destroyed }

/-- The answer to the request of `MakeRequestExecute` is taken in. -/
def executeAnswer (env : QueryEnv δ γ B) (outcome : QueryOutcome δ γ) (s : System δ γ B) :
    System δ γ B :=
  let s := { s with sent := s.sent ++ [s.query.request] }
  match s.query.executeTurn env outcome with
  | .failed record => s.beginClose (.executeFailed record)
  | .empty q => { s with query := q }.finish .execute (.result .aiNoData [])
  | .again q => { s with query := q, requestWrites := s.requestWrites + 1 }
  | .page false result records q =>
    { s with query := q }.finish .execute (.result result records)
  | .page true result records q =>
    { s with query := q, requestWrites := s.requestWrites + 1 }.startWorker.finish .execute
      (.result result records)

/-- `SwitchCursor` takes an outcome from the queue, which keeps the others. -/
def switchCursor (env : QueryEnv δ γ B) (columnBindings : ColumnBindingMap B)
    (outcome : QueryOutcome δ γ) (queue : List (QueryOutcome δ γ)) (s : System δ γ B) :
    System δ γ B :=
  match { s.query with context := { s.query.context with queue } }.pageTurn outcome with
  | .ends result q =>
    { s with query := q }.finish (.fetchNextRow columnBindings)
      (.fetched ⟨some result, [DataQuery.invalidCursorState], columnBindings, none⟩)
  | .last q => { s with query := q }.finishRow env columnBindings
  | .more token q => { s with query := q, pc := .joinPrevious token columnBindings }

/-- The request `MakeRequestResultsetMeta` makes of its own. -/
def metaRequest (env : QueryEnv δ γ B) : QueryRequest :=
  { queryString := env.sql, maxRows := none, nextToken := "" }

/-- The answer to the request of `MakeRequestResultsetMeta` is taken in, and `GetMeta` ends. -/
def metaAnswer (env : QueryEnv δ γ B) (outcome : QueryOutcome δ γ) (s : System δ γ B) :
    System δ γ B :=
  let s := { s with sent := s.sent ++ [metaRequest env] }
  match outcome with
  | .failure error =>
    s.beginClose (.metaFailed (statusRecord .sHY000GeneralError
      ("AWS API ERROR: " ++ error.exceptionName ++ ": " ++ error.message ++ " for query "
        ++ env.sql)))
  | .success page =>
    let q := s.query.readColumnMetadataVector page.columnInfo
    { s with query := q }.finish .getMeta
      (.columnMeta (if q.resultMetaAvailable then some q.resultMeta else none) [])

/-- The answer to the cancel request is taken in: only an error that does not say that the query
has ended makes `Cancel` fail, and then nothing is closed. -/
def cancelAnswer (queryId : String) (outcome : CancelOutcome) (s : System δ γ B) :
    System δ γ B :=
  match outcome with
  | .success => s.beginClose .cancel
  | .failure error =>
    if error.exceptionName = "ValidationException" then s.beginClose .cancel
    else s.finish .cancel (.result .aiError [statusRecord .sHY000GeneralError
      ("Query ID: " ++ queryId ++ " can't cancel." ++ error.message)])

/-- A step of the main thread inside an operation. -/
def mainStep (env : QueryEnv δ γ B) (s : System δ γ B) : Option (System δ γ B) :=
  match s.pc with
  | .idle => none
  | .closing next =>
    match s.threads with
    | [] => some (s.endClose next)
    | .finished :: threads => some { s with threads }
    | _ :: _ => none
  | .makeRequestExecute =>
    some { s with
      query := { s.query with request := DataQuery.prepareRequest env s.query.request }
      requestWrites := s.requestWrites + 1
      pc := .query }
  | .query => some (s.executeAnswer env (env.service s.sent.length s.query.request))
  | .waitOutcome columnBindings =>
    match s.query.context.queue with
    | [] => none
    | outcome :: queue => some (s.switchCursor env columnBindings outcome queue)
  | .joinPrevious token columnBindings =>
    match s.threads with
    | [] => some { s with pc := .startNext token columnBindings }
    | .finished :: threads => some { s with threads, pc := .startNext token columnBindings }
    | _ :: _ => none
  | .startNext token columnBindings =>
    some ((s.writeToken token).startWorker.finishRow env columnBindings)
  | .metaRequest => some (s.metaAnswer env (env.service s.sent.length (metaRequest env)))
  | .cancelRequest =>
    s.query.result.map fun page =>
      s.cancelAnswer page.queryId (env.cancelQuery s.returns.length page.queryId)
  | .destroyed => none

/-- A worker that holds the lock with its outcome: it leaves the outcome in an empty queue and
ends, ends without leaving it when the query is closing, and waits otherwise. -/
def deliver (i : ℕ) (outcome : QueryOutcome δ γ) (s : System δ γ B) : System δ γ B :=
  if s.query.context.queue.isEmpty then
    { s with
      query := { s.query with context := { s.query.context with queue := [outcome] } }
      threads := s.threads.set i .finished }
  else if s.query.context.isClosing then { s with threads := s.threads.set i .finished }
  else { s with threads := s.threads.set i (.parked outcome) }

/-- A step of the `i`-th worker. -/
def workerStep (env : QueryEnv δ γ B) (i : ℕ) (s : System δ γ B) : Option (System δ γ B) :=
  match s.threads[i]? with
  | some .calling =>
    some { s with
      threads := s.threads.set i (.returned (env.service s.sent.length s.query.request))
      sent := s.sent ++ [s.query.request] }
  | some (.returned outcome) => some (s.deliver i outcome)
  | some (.parked outcome) =>
    if s.query.context.queue.isEmpty ∨ s.query.context.isClosing then some (s.deliver i outcome)
    else none
  | some .finished => none
  | none => none

/-- The transition system of one data query. -/
def step (env : QueryEnv δ γ B) (s : System δ γ B) (a : Action B) : Option (System δ γ B) :=
  match a with
  | .call op =>
    match s.pc with
    | .idle => some (s.call env op)
    | _ => none
  | .main => s.mainStep env
  | .worker i => s.workerStep env i

/-! ## What a step can do -/

/-- The steps of the system by case, each with its condition and its effect. -/
inductive Step (env : QueryEnv δ γ B) (s : System δ γ B) : Action B → System δ γ B → Prop where
  | executeClose (hpc : s.pc = .idle) (hres : s.query.result ≠ none) :
      Step env s (.call .execute) (s.beginClose .execute)
  | executeStart (hpc : s.pc = .idle) (hres : s.query.result = none) :
      Step env s (.call .execute) { s with pc := .makeRequestExecute }
  | fetchNoCursor (b) (hpc : s.pc = .idle) (hc : s.query.cursor = none) :
      Step env s (.call (.fetchNextRow b)) (s.finish (.fetchNextRow b)
        (.fetched ⟨some .aiNoData,
          [statusRecord .s01000GeneralWarning "Cursor does not point to any data."], b, none⟩))
  | fetchRow (b) (c) (hpc : s.pc = .idle) (hc : s.query.cursor = some c)
      (hmore : c.increment.1 = true) :
      Step env s (.call (.fetchNextRow b))
        ({ s with query := { s.query with cursor := some c.moved } }.finishRow env b)
  | fetchSwitch (b) (c) (hpc : s.pc = .idle) (hc : s.query.cursor = some c)
      (hmore : c.increment.1 = false) (hflag : s.query.hasAsyncFetch = true) :
      Step env s (.call (.fetchNextRow b))
        { s with query := { s.query with cursor := some c.moved }, pc := .waitOutcome b }
  | fetchEnd (b) (c) (hpc : s.pc = .idle) (hc : s.query.cursor = some c)
      (hmore : c.increment.1 = false) (hflag : s.query.hasAsyncFetch = false) :
      Step env s (.call (.fetchNextRow b))
        ({ s with query := { s.query with cursor := some c.moved } }.finish (.fetchNextRow b)
          (.fetched ⟨some .aiNoData, [], b, none⟩))
  | cancelRequest (hpc : s.pc = .idle) (hres : s.query.result ≠ none) :
      Step env s (.call .cancel) { s with pc := .cancelRequest }
  | cancelFail (hpc : s.pc = .idle) (records) :
      Step env s (.call .cancel) (s.finish .cancel (.result .aiError records))
  | cancelClose (hpc : s.pc = .idle) :
      Step env s (.call .cancel) (s.beginClose .cancel)
  | close (hpc : s.pc = .idle) :
      Step env s (.call .close) (s.beginClose .close)
  | metaKnown (hpc : s.pc = .idle) :
      Step env s (.call .getMeta) (s.finish .getMeta (.columnMeta (some s.query.resultMeta) []))
  | metaRequest (hpc : s.pc = .idle) :
      Step env s (.call .getMeta) { s with pc := .metaRequest }
  | destroyClose (hpc : s.pc = .idle) (hres : s.query.result ≠ none) :
      Step env s (.call .destroy) (s.beginClose .destroy)
  | destroy (hpc : s.pc = .idle) (hres : s.query.result = none) :
      Step env s (.call .destroy) { s with pc := .destroyed }
  | closeJoin (next) (threads) (hpc : s.pc = .closing next)
      (hthreads : s.threads = .finished :: threads) :
      Step env s .main { s with threads, pc := .closing next }
  | closeEnd (next) (hpc : s.pc = .closing next) (hthreads : s.threads = []) :
      Step env s .main (s.endClose next)
  | prepare (hpc : s.pc = .makeRequestExecute) :
      Step env s .main { s with
        query := { s.query with request := DataQuery.prepareRequest env s.query.request }
        requestWrites := s.requestWrites + 1
        pc := .query }
  | executeFailed (error) (hpc : s.pc = .query)
      (hans : env.service s.sent.length s.query.request = .failure error) :
      Step env s .main
        ({ s with sent := s.sent ++ [s.query.request] }.beginClose
          (.executeFailed (DataQuery.executeFailure env)))
  | executeEmpty (page) (hpc : s.pc = .query)
      (hans : env.service s.sent.length s.query.request = .success page)
      (hrows : page.rows = []) (htoken : page.nextToken = "") :
      Step env s .main ({ s with
        sent := s.sent ++ [s.query.request]
        query := { s.query with result := some page } }.finish .execute (.result .aiNoData []))
  | executeAgain (page) (hpc : s.pc = .query)
      (hans : env.service s.sent.length s.query.request = .success page)
      (hrows : page.rows = []) (htoken : page.nextToken ≠ "") :
      Step env s .main { s with
        sent := s.sent ++ [s.query.request]
        query := { s.query with result := some page }.setNextToken page.nextToken
        requestWrites := s.requestWrites + 1 }
  | executePage (page) (hpc : s.pc = .query)
      (hans : env.service s.sent.length s.query.request = .success page)
      (hrows : page.rows ≠ []) (htoken : page.nextToken = "") :
      Step env s .main ({ s with
        sent := s.sent ++ [s.query.request]
        query := s.query.onFirstPage page }.finish .execute (.result .aiSuccess []))
  | executePageToken (page) (hpc : s.pc = .query)
      (hans : env.service s.sent.length s.query.request = .success page)
      (hrows : page.rows ≠ []) (htoken : page.nextToken ≠ "") :
      Step env s .main ({ s with
        sent := s.sent ++ [s.query.request]
        query := { s.query.setNextToken page.nextToken with hasAsyncFetch := true }.onFirstPage page
        requestWrites := s.requestWrites + 1 }.startWorker.finish .execute (.result .aiSuccess []))
  | switchFailed (b) (error) (queue) (hpc : s.pc = .waitOutcome b)
      (hqueue : s.query.context.queue = .failure error :: queue) :
      Step env s .main ({ s with
        query := { s.query with
          context := { s.query.context with queue }
          cursor := none, hasAsyncFetch := false } }.finish (.fetchNextRow b)
        (.fetched ⟨some .aiError, [DataQuery.invalidCursorState], b, none⟩))
  | switchEmpty (b) (page) (queue) (hpc : s.pc = .waitOutcome b)
      (hqueue : s.query.context.queue = .success page :: queue) (hrows : page.rows = []) :
      Step env s .main ({ s with
        query := { s.query with
          context := { s.query.context with queue }
          result := some page } }.finish (.fetchNextRow b)
        (.fetched ⟨some .aiNoData, [DataQuery.invalidCursorState], b, none⟩))
  | switchLast (b) (page) (queue) (hpc : s.pc = .waitOutcome b)
      (hqueue : s.query.context.queue = .success page :: queue) (hrows : page.rows ≠ [])
      (htoken : page.nextToken = "") :
      Step env s .main ({ s with
        query := { s.query.onNextPage page with
          context := { s.query.context with queue }
          hasAsyncFetch := false } }.finishRow env b)
  | switchMore (b) (page) (queue) (hpc : s.pc = .waitOutcome b)
      (hqueue : s.query.context.queue = .success page :: queue) (hrows : page.rows ≠ [])
      (htoken : page.nextToken ≠ "") :
      Step env s .main { s with
        query := { s.query.onNextPage page with context := { s.query.context with queue } }
        pc := .joinPrevious page.nextToken b }
  | joinPrevious (b) (token) (threads) (hpc : s.pc = .joinPrevious token b)
      (hthreads : s.threads = .finished :: threads ∨ s.threads = [] ∧ threads = []) :
      Step env s .main { s with threads, pc := .startNext token b }
  | startNext (b) (token) (hpc : s.pc = .startNext token b) :
      Step env s .main ((s.writeToken token).startWorker.finishRow env b)
  | metaFailed (record) (error) (hpc : s.pc = .metaRequest)
      (hans : env.service s.sent.length (metaRequest env) = .failure error) :
      Step env s .main
        ({ s with sent := s.sent ++ [metaRequest env] }.beginClose (.metaFailed record))
  | metaAnswer (columns) (page) (hpc : s.pc = .metaRequest)
      (hans : env.service s.sent.length (metaRequest env) = .success page) :
      Step env s .main ({ s with
        sent := s.sent ++ [metaRequest env]
        query := s.query.readColumnMetadataVector page.columnInfo }.finish .getMeta
        (.columnMeta columns []))
  | cancelAnswerClose (hpc : s.pc = .cancelRequest) :
      Step env s .main (s.beginClose .cancel)
  | cancelAnswerFail (records) (hpc : s.pc = .cancelRequest) :
      Step env s .main (s.finish .cancel (.result .aiError records))
  | answered (i) (hi : s.threads[i]? = some .calling) :
      Step env s (.worker i) { s with
        threads := s.threads.set i (.returned (env.service s.sent.length s.query.request))
        sent := s.sent ++ [s.query.request] }
  | push (i) (outcome)
      (hi : s.threads[i]? = some (.returned outcome) ∨ s.threads[i]? = some (.parked outcome))
      (hqueue : s.query.context.queue = []) :
      Step env s (.worker i) { s with
        query := { s.query with context := { s.query.context with queue := [outcome] } }
        threads := s.threads.set i .finished }
  | drop (i) (outcome)
      (hi : s.threads[i]? = some (.returned outcome) ∨ s.threads[i]? = some (.parked outcome))
      (hqueue : s.query.context.queue ≠ []) (hclosing : s.query.context.isClosing = true) :
      Step env s (.worker i) { s with threads := s.threads.set i .finished }
  | park (i) (outcome) (hi : s.threads[i]? = some (.returned outcome))
      (hqueue : s.query.context.queue ≠ []) (hclosing : s.query.context.isClosing = false) :
      Step env s (.worker i) { s with threads := s.threads.set i (.parked outcome) }

/-- The beginning of an operation is one of the cases. -/
lemma step_of_call (env : QueryEnv δ γ B) (s : System δ γ B) (op : Op B) (hpc : s.pc = .idle) :
    Step env s (.call op) (s.call env op) := by
  cases op with
  | execute =>
    cases hres : s.query.result with
    | none => simpa [call, hres] using Step.executeStart hpc hres
    | some page => simpa [call, hres] using Step.executeClose hpc (by simp [hres])
  | fetchNextRow b =>
    cases hc : s.query.cursor with
    | none =>
      simp only [call, DataQuery.fetchTurn_none hc]
      exact .fetchNoCursor b hpc hc
    | some c =>
      cases hmore : c.increment.1 with
      | true =>
        simp only [call, DataQuery.fetchTurn_row hc hmore]
        exact .fetchRow b c hpc hc hmore
      | false =>
        cases hflag : s.query.hasAsyncFetch with
        | true =>
          simp only [call, DataQuery.fetchTurn_switch hc hmore hflag]
          exact .fetchSwitch b c hpc hc hmore hflag
        | false =>
          simp only [call, DataQuery.fetchTurn_end hc hmore hflag]
          exact .fetchEnd b c hpc hc hmore hflag
  | cancel =>
    cases hflag : s.query.hasAsyncFetch with
    | true =>
      cases hres : s.query.result with
      | none => simpa [call, hflag, hres] using Step.cancelFail hpc _
      | some page => simpa [call, hflag, hres] using Step.cancelRequest hpc (by simp [hres])
    | false => simpa [call, hflag] using Step.cancelClose hpc
  | close => exact .close hpc
  | getMeta =>
    cases havail : s.query.resultMetaAvailable with
    | true => simpa [call, havail] using Step.metaKnown hpc
    | false => simpa [call, havail] using Step.metaRequest hpc
  | destroy =>
    cases hres : s.query.result with
    | none => simpa [call, hres] using Step.destroy hpc hres
    | some page => simpa [call, hres] using Step.destroyClose hpc (by simp [hres])

/-- Taking in the answer to an execution is one of the cases. -/
lemma step_of_executeAnswer (env : QueryEnv δ γ B) (s : System δ γ B) (hpc : s.pc = .query) :
    Step env s .main (s.executeAnswer env (env.service s.sent.length s.query.request)) := by
  cases hans : env.service s.sent.length s.query.request with
  | failure error => exact .executeFailed error hpc hans
  | success page =>
    by_cases hrows : page.rows = []
    · by_cases htoken : page.nextToken = ""
      · simp only [executeAnswer, DataQuery.executeTurn_empty env s.query hrows htoken]
        exact .executeEmpty page hpc hans hrows htoken
      · simp only [executeAnswer, DataQuery.executeTurn_again env s.query hrows htoken]
        exact .executeAgain page hpc hans hrows htoken
    · by_cases htoken : page.nextToken = ""
      · simp only [executeAnswer, DataQuery.executeTurn_page env s.query hrows htoken]
        exact .executePage page hpc hans hrows htoken
      · simp only [executeAnswer, DataQuery.executeTurn_page_token env s.query hrows htoken]
        exact .executePageToken page hpc hans hrows htoken

/-- Taking an outcome from the queue is one of the cases. -/
lemma step_of_switchCursor (env : QueryEnv δ γ B) (s : System δ γ B) (b : ColumnBindingMap B)
    (outcome : QueryOutcome δ γ) (queue : List (QueryOutcome δ γ)) (hpc : s.pc = .waitOutcome b)
    (hqueue : s.query.context.queue = outcome :: queue) :
    Step env s .main (s.switchCursor env b outcome queue) := by
  cases outcome with
  | failure error => exact .switchFailed b error queue hpc hqueue
  | success page =>
    by_cases hrows : page.rows = []
    · simp only [switchCursor, DataQuery.pageTurn_empty _ hrows]
      exact .switchEmpty b page queue hpc hqueue hrows
    · by_cases htoken : page.nextToken = ""
      · simp only [switchCursor, DataQuery.pageTurn_last _ hrows htoken]
        exact .switchLast b page queue hpc hqueue hrows htoken
      · simp only [switchCursor, DataQuery.pageTurn_more _ hrows htoken]
        exact .switchMore b page queue hpc hqueue hrows htoken

/-- A step of the main thread inside an operation is one of the cases. -/
lemma step_of_mainStep {env : QueryEnv δ γ B} {s s' : System δ γ B}
    (h : s.mainStep env = some s') : Step env s .main s' := by
  unfold mainStep at h
  cases hpc : s.pc with
  | idle => simp [hpc] at h
  | destroyed => simp [hpc] at h
  | closing next =>
    simp only [hpc] at h
    split at h
    · next hthreads => cases h; exact .closeEnd next hpc hthreads
    · next threads hthreads => cases h; exact .closeJoin next threads hpc hthreads
    · cases h
  | makeRequestExecute =>
    simp only [hpc, Option.some.injEq] at h
    exact h ▸ .prepare hpc
  | query =>
    simp only [hpc, Option.some.injEq] at h
    exact h ▸ step_of_executeAnswer env s hpc
  | waitOutcome b =>
    simp only [hpc] at h
    split at h
    · cases h
    · next outcome queue hqueue =>
      cases h
      exact step_of_switchCursor env s b outcome queue hpc hqueue
  | joinPrevious token b =>
    simp only [hpc] at h
    split at h
    · next hthreads =>
      cases h
      simpa [hthreads] using Step.joinPrevious b token [] hpc (.inr ⟨hthreads, rfl⟩)
    · next threads hthreads =>
      cases h
      exact .joinPrevious b token threads hpc (.inl hthreads)
    · cases h
  | startNext token b =>
    simp only [hpc, Option.some.injEq] at h
    exact h ▸ .startNext b token hpc
  | metaRequest =>
    simp only [hpc, Option.some.injEq] at h
    cases hans : env.service s.sent.length (System.metaRequest env) with
    | failure error =>
      rw [hans] at h
      exact h ▸ .metaFailed _ error hpc hans
    | success page =>
      rw [hans] at h
      exact h ▸ .metaAnswer _ page hpc hans
  | cancelRequest =>
    simp only [hpc, Option.map_eq_some_iff] at h
    obtain ⟨page, -, rfl⟩ := h
    unfold cancelAnswer
    split
    · exact .cancelAnswerClose hpc
    · split
      · exact .cancelAnswerClose hpc
      · exact .cancelAnswerFail _ hpc

/-- A worker that tries to leave its outcome does one of the cases. -/
lemma step_of_deliver (env : QueryEnv δ γ B) (s : System δ γ B) (i : ℕ)
    (outcome : QueryOutcome δ γ)
    (hi : s.threads[i]? = some (.returned outcome) ∨ s.threads[i]? = some (.parked outcome) ∧
      (s.query.context.queue.isEmpty ∨ s.query.context.isClosing)) :
    Step env s (.worker i) (s.deliver i outcome) := by
  have hi' : s.threads[i]? = some (.returned outcome) ∨ s.threads[i]? = some (.parked outcome) :=
    hi.imp_right And.left
  unfold deliver
  split
  · next hqueue => exact .push i outcome hi' (List.isEmpty_iff.mp hqueue)
  · next hqueue =>
    have hqueue' : s.query.context.queue ≠ [] := fun h => hqueue (List.isEmpty_iff.mpr h)
    split
    · next hclosing => exact .drop i outcome hi' hqueue' hclosing
    · next hclosing =>
      rcases hi with hi | ⟨-, hwake⟩
      · exact .park i outcome hi hqueue' (by simpa using hclosing)
      · exact absurd hwake (by simp [hqueue, hclosing])

/-- Every step is one of the cases. -/
theorem step_of_eq_some {env : QueryEnv δ γ B} {s s' : System δ γ B} {a : Action B}
    (h : step env s a = some s') : Step env s a s' := by
  cases a with
  | call op =>
    cases hpc : s.pc <;> simp only [step, hpc, reduceCtorEq, Option.some.injEq] at h
    exact h ▸ step_of_call env s op hpc
  | main => exact step_of_mainStep h
  | worker i =>
    simp only [step, workerStep] at h
    split at h
    · next hi =>
      cases h
      exact .answered i hi
    · next outcome hi =>
      cases h
      exact step_of_deliver env s i outcome (.inl hi)
    · next outcome hi =>
      split at h
      · next hwake =>
        cases h
        exact step_of_deliver env s i outcome (.inr ⟨hi, hwake⟩)
      · cases h
    · cases h
    · cases h

end System

end TimestreamOdbc
