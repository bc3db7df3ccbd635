import TimestreamOdbc.Query.Refinement

/-!
# Executing a query again

What a second execution of a query shares with the execution of a new one.

`InternalClose` drops the result and the cursor and joins the worker.  It leaves behind the next
token inside the shared request, the content of the queue, the closing flag, the flag
`hasAsyncFetch`, the row counter and the metadata.  The token and the row counter make the
difference: a token, once set, is never cleared, and the counter is never reset.  Without a token
no worker was ever started, and then the queue, the thread queue and the flag are as in a new
query; the closing flag only matters to workers that find a full queue; and the metadata is that of
the first page, which the service answers again.
-/

namespace TimestreamOdbc

open TransitionSystem

variable {δ γ B : Type}

/-! ## Queries that differ in the closing flag only -/

namespace DataQuery

/-- The query with the closing flag set if it was set or `c` is. -/
def orClosing (c : Bool) (q : DataQuery δ γ) : DataQuery δ γ :=
  { q with context := { q.context with isClosing := c || q.context.isClosing } }

/-- A turn of an execution with another query. -/
def ExecuteTurn.map (f : DataQuery δ γ → DataQuery δ γ) : ExecuteTurn δ γ → ExecuteTurn δ γ
  | .failed record => .failed record
  | .empty q => .empty (f q)
  | .again q => .again (f q)
  | .page startWorker result records q => .page startWorker result records (f q)

variable (env : QueryEnv δ γ B) (c : Bool) (q : DataQuery δ γ)

/-- The closing flag takes no part in reading a row. -/
lemma readRow_orClosing (b : ColumnBindingMap B) :
    (q.orClosing c).readRow env b = ((q.readRow env b).1, (q.readRow env b).2.orClosing c) := by
  unfold readRow
  cases hc : q.cursor <;> simp [orClosing, hc]

/-- The closing flag takes no part in the row number. -/
@[simp] lemma rowNumber_orClosing : (q.orClosing c).rowNumber = q.rowNumber := rfl

/-- The closing flag takes no part in the request. -/
@[simp] lemma request_orClosing : (q.orClosing c).request = q.request := rfl

/-- The closing flag takes no part in reading metadata. -/
lemma ensureColumnMetadata_orClosing (columnInfo : List γ) :
    ensureColumnMetadata columnInfo (q.orClosing c) =
      (ensureColumnMetadata columnInfo q).orClosing c := by
  unfold ensureColumnMetadata readColumnMetadataVector
  by_cases havail : q.resultMetaAvailable = true <;>
    by_cases hempty : columnInfo.isEmpty = true <;> simp [orClosing, havail, hempty]

/-- The closing flag takes no part in an execution. -/
lemma executeTurn_orClosing (outcome : QueryOutcome δ γ) :
    (q.orClosing c).executeTurn env outcome =
      (q.executeTurn env outcome).map (orClosing c) := by
  cases outcome with
  | failure error => rfl
  | success page =>
    by_cases hrows : page.rows = []
    · by_cases htoken : page.nextToken = ""
      · rw [executeTurn_empty env _ hrows htoken, executeTurn_empty env _ hrows htoken]
        rfl
      · rw [executeTurn_again env _ hrows htoken, executeTurn_again env _ hrows htoken]
        rfl
    · have hfirst : ∀ q : DataQuery δ γ,
          (q.orClosing c).onFirstPage page = (q.onFirstPage page).orClosing c := by
        intro q
        have h := ensureColumnMetadata_orClosing c { q with result := some page } page.columnInfo
        unfold onFirstPage
        rw [show { q.orClosing c with result := some page } =
          orClosing c { q with result := some page } from rfl, h]
        rfl
      by_cases htoken : page.nextToken = ""
      · rw [executeTurn_page env _ hrows htoken, executeTurn_page env _ hrows htoken, hfirst]
        rfl
      · rw [executeTurn_page_token env _ hrows htoken, executeTurn_page_token env _ hrows htoken]
        exact congrArg (ExecuteTurn.page true .aiSuccess [])
          (hfirst { q.setNextToken page.nextToken with hasAsyncFetch := true })

end DataQuery

namespace System

/-- The state of a query with more history: the closing flag may be set in addition, and other
requests, writes and calls came before. -/
def after (c : Bool) (sent : List QueryRequest) (requestWrites : ℕ) (returns : List (Return δ γ B))
    (s : System δ γ B) : System δ γ B :=
  { query := s.query.orClosing c, threads := s.threads, pc := s.pc, sent := sent ++ s.sent
    requestWrites := requestWrites + s.requestWrites, returns := returns ++ s.returns }

section After

variable {env : QueryEnv δ γ B} {c : Bool} {sent : List QueryRequest} {writes : ℕ}
  {returns : List (Return δ γ B)}

/-- A call ends in the same way after more history. -/
lemma finish_after (op : Op B) (reply : Reply δ γ B) (s : System δ γ B) :
    (s.after c sent writes returns).finish op reply =
      (s.finish op reply).after c sent writes returns := by
  simp [finish, after, List.append_assoc]

/-- A fetch ends on a row in the same way after more history. -/
lemma finishRow_after (b : ColumnBindingMap B) (s : System δ γ B) :
    (s.after c sent writes returns).finishRow env b =
      (s.finishRow env b).after c sent writes returns := by
  have h := DataQuery.readRow_orClosing env c s.query b
  unfold finishRow
  rw [← finish_after, show (s.after c sent writes returns).query = s.query.orClosing c from rfl, h]
  rfl

/-- A fetch begins in the same way after more history. -/
lemma call_after (b : ColumnBindingMap B) (s : System δ γ B) :
    (s.after c sent writes returns).call env (.fetchNextRow b) =
      (s.call env (.fetchNextRow b)).after c sent writes returns := by
  have hcursor : (s.after c sent writes returns).query.cursor = s.query.cursor := rfl
  have hflag : (s.after c sent writes returns).query.hasAsyncFetch = s.query.hasAsyncFetch := rfl
  cases hc : s.query.cursor with
  | none =>
    simp only [call, DataQuery.fetchTurn_none (hcursor.trans hc), DataQuery.fetchTurn_none hc]
    exact finish_after _ _ _
  | some cursor =>
    cases hmore : cursor.increment.1 with
    | true =>
      simp only [call, DataQuery.fetchTurn_row (hcursor.trans hc) hmore,
        DataQuery.fetchTurn_row hc hmore]
      exact finishRow_after b { s with query := { s.query with cursor := some cursor.moved } }
    | false =>
      cases hf : s.query.hasAsyncFetch with
      | true =>
        simp only [call, DataQuery.fetchTurn_switch (hcursor.trans hc) hmore (hflag.trans hf),
          DataQuery.fetchTurn_switch hc hmore hf]
        rfl
      | false =>
        simp only [call, DataQuery.fetchTurn_end (hcursor.trans hc) hmore (hflag.trans hf),
          DataQuery.fetchTurn_end hc hmore hf]
        exact finish_after _ _ { s with query := { s.query with cursor := some cursor.moved } }

/-- The answer to an execution is taken in in the same way after more history. -/
lemma executeAnswer_after (outcome : QueryOutcome δ γ) (s : System δ γ B) :
    (s.after c sent writes returns).executeAnswer env outcome =
      (s.executeAnswer env outcome).after c sent writes returns := by
  have h : (s.after c sent writes returns).query.executeTurn env outcome =
      (s.query.executeTurn env outcome).map (DataQuery.orClosing c) :=
    DataQuery.executeTurn_orClosing env c s.query outcome
  unfold executeAnswer
  dsimp only
  rw [h]
  cases s.query.executeTurn env outcome with
  | failed record =>
    simp [DataQuery.ExecuteTurn.map, beginClose, after, DataQuery.orClosing]
  | empty q => simp [DataQuery.ExecuteTurn.map, finish, after]
  | again q => simp [DataQuery.ExecuteTurn.map, after, DataQuery.orClosing, Nat.add_assoc]
  | page startWorker result records q =>
    cases startWorker with
    | false => simp [DataQuery.ExecuteTurn.map, finish, after]
    | true => simp [DataQuery.ExecuteTurn.map, finish, System.startWorker, after, Nat.add_assoc]

/-- An outcome is taken from the queue in the same way after more history. -/
lemma switchCursor_after (b : ColumnBindingMap B) (outcome : QueryOutcome δ γ)
    (queue : List (QueryOutcome δ γ)) (s : System δ γ B) :
    (s.after c sent writes returns).switchCursor env b outcome queue =
      (s.switchCursor env b outcome queue).after c sent writes returns := by
  cases outcome with
  | failure error =>
    exact finish_after _ _ { s with query := { s.query with
      cursor := none, hasAsyncFetch := false, context := { s.query.context with queue } } }
  | success page =>
    by_cases hrows : page.rows = []
    · simp only [switchCursor, DataQuery.pageTurn_empty _ hrows]
      exact finish_after _ _ { s with query := { s.query with
        result := some page, context := { s.query.context with queue } } }
    · by_cases htoken : page.nextToken = ""
      · simp only [switchCursor, DataQuery.pageTurn_last _ hrows htoken]
        exact finishRow_after b { s with query := { s.query.onNextPage page with
          context := { s.query.context with queue }, hasAsyncFetch := false } }
      · simp only [switchCursor, DataQuery.pageTurn_more _ hrows htoken]
        rfl

/-- A close ends in the same way after more history. -/
lemma endClose_after (next : AfterClose) (s : System δ γ B) :
    (s.after c sent writes returns).endClose next =
      (s.endClose next).after c sent writes returns := by
  cases next with
  | execute | destroy => rfl
  | executeFailed | cancel | close | metaFailed =>
    exact finish_after _ _ { s with query := s.query.released }

/-- A worker is started in the same way after more history. -/
lemma startNext_after (token : String) (s : System δ γ B) :
    ((s.after c sent writes returns).writeToken token).startWorker =
      ((s.writeToken token).startWorker).after c sent writes returns := by
  simp [writeToken, startWorker, after, DataQuery.setNextToken, DataQuery.orClosing, Nat.add_assoc]

/-- The steps of a first run are the same after more history, when the service does not look at
how many requests were sent before. -/
lemma step_after (hservice : ∀ n m request, env.service n request = env.service m request)
    {s : System δ γ B} (h : FirstRun s) {a : Action B}
    (ha : ∀ op, a = .call op → ∃ b, op = .fetchNextRow b) :
    step env (s.after c sent writes returns) a =
      (step env s a).map (after c sent writes returns) := by
  have hpcs := h.pc
  cases a with
  | call op =>
    obtain ⟨b, rfl⟩ := ha op rfl
    have hpc : (s.after c sent writes returns).pc = s.pc := rfl
    simp only [step, hpc]
    split
    · exact congrArg some (call_after b s)
    · rfl
  | main =>
    simp only [step, mainStep]
    rw [show (s.after c sent writes returns).pc = s.pc from rfl]
    cases hpc : s.pc with
    | idle | destroyed => rfl
    | closing next =>
      rw [show (s.after c sent writes returns).threads = s.threads from rfl]
      dsimp only
      rcases s.threads with _ | ⟨w, threads⟩
      · exact congrArg some (endClose_after next s)
      · cases w with
        | finished => simp [after, hpc]
        | calling | returned _ | parked _ => rfl
    | makeRequestExecute =>
      simp [after, DataQuery.orClosing, Nat.add_assoc]
    | query =>
      rw [hservice _ s.sent.length]
      exact congrArg some (executeAnswer_after _ s)
    | waitOutcome b =>
      rw [show (s.after c sent writes returns).query.context.queue = s.query.context.queue from rfl]
      cases s.query.context.queue with
      | nil => rfl
      | cons outcome queue => exact congrArg some (switchCursor_after b outcome queue s)
    | joinPrevious token b =>
      rw [show (s.after c sent writes returns).threads = s.threads from rfl]
      dsimp only
      rcases s.threads with _ | ⟨w, threads⟩
      · rfl
      · cases w with
        | finished | calling | returned _ | parked _ => rfl
    | startNext token b =>
      dsimp only
      rw [startNext_after]
      exact congrArg some (finishRow_after b _)
    | metaRequest | cancelRequest => rw [hpc] at hpcs; exact absurd hpcs id
  | worker i =>
    simp only [step, workerStep]
    rw [show (s.after c sent writes returns).threads = s.threads from rfl]
    cases hi : s.threads[i]? with
    | none => rfl
    | some w =>
      cases w with
      | finished => rfl
      | parked outcome =>
        exact absurd ⟨outcome, rfl⟩ (h.flight.noParked _ (List.mem_of_getElem? hi))
      | calling =>
        dsimp only
        rw [hservice _ s.sent.length]
        simp [after]
      | returned outcome =>
        -- the worker finds an empty queue and does not look at the closing flag
        have hqueue := h.exclusive ⟨_, List.mem_of_getElem? hi, by simp [Worker.InFlight]⟩
        simp [deliver, after, DataQuery.orClosing, hqueue]

end After

/-! ## Queries whose token was never set -/

/-- The request that the execution of a new query sends first. -/
def firstRequest (env : QueryEnv δ γ B) : QueryRequest :=
  { queryString := env.sql, maxRows := env.maxRowPerPage, nextToken := "" }

/-- The service answers the first request with a page that is the whole result. -/
def WholePage (env : QueryEnv δ γ B) (page : QueryResult δ γ) : Prop :=
  env.service 0 (firstRequest env) = .success page ∧ page.rows ≠ [] ∧ page.nextToken = ""

/-- The operations of a history. -/
def HistoryOp : Op B → Prop
  | .execute | .fetchNextRow _ | .cancel | .close => True
  | .getMeta | .destroy => False

/-- The positions of a history during which no page was prefetched. -/
def UntouchedPc : Pc B → Prop
  | .idle | .closing _ | .makeRequestExecute | .query | .cancelRequest | .destroyed => True
  | _ => False

/-- What is left of the history of a query whose token was never set. -/
structure Untouched (env : QueryEnv δ γ B) (s : System δ γ B) : Prop where
  threads : s.threads = []
  queue : s.query.context.queue = []
  flag : s.query.hasAsyncFetch = false
  maxRows : s.query.request.maxRows = none ∨ s.query.request.maxRows = env.maxRowPerPage
  atQuery : s.pc = .query → s.query.request = firstRequest env
  noMeta : s.query.resultMetaAvailable = false → s.query.resultMeta = []
  hasMeta : s.query.resultMetaAvailable = true → ∃ page, WholePage env page ∧
    page.columnInfo ≠ [] ∧ s.query.resultMeta = page.columnInfo
  cursor : s.query.cursor ≠ none → ∃ page, WholePage env page
  counter : s.query.rowCounter ≠ 0 → ∃ page, WholePage env page
  noResult : s.query.result = none → s.query.cursor = none
  pc : UntouchedPc s.pc

/-- The invariant of a history: as long as no token was set nothing else of it is left, and no
page switch goes on without a token. -/
structure Traced (env : QueryEnv δ γ B) (s : System δ γ B) : Prop where
  untouched : s.query.request.nextToken = "" → Untouched env s
  token : ∀ token b, s.pc = .joinPrevious token b ∨ s.pc = .startNext token b → token ≠ ""

/-- A new query has no history. -/
lemma untouched_new (env : QueryEnv δ γ B) : Untouched env (System.new : System δ γ B) where
  threads := rfl
  queue := rfl
  flag := rfl
  maxRows := .inl rfl
  atQuery := by simp [System.new]
  noMeta := fun _ => rfl
  hasMeta := by simp [System.new, DataQuery.new]
  cursor := by simp [System.new, DataQuery.new]
  counter := by simp [System.new, DataQuery.new]
  noResult := fun _ => rfl
  pc := trivial

/-- A new query has no history. -/
lemma traced_new (env : QueryEnv δ γ B) : Traced env (System.new : System δ γ B) where
  untouched := fun _ => untouched_new env
  token := by simp [System.new]

/-- The request prepared without a token is the first one. -/
lemma Untouched.prepareRequest {env : QueryEnv δ γ B} {s : System δ γ B} (h : Untouched env s)
    (htoken : s.query.request.nextToken = "") :
    DataQuery.prepareRequest env s.query.request = firstRequest env := by
  unfold DataQuery.prepareRequest firstRequest
  have hrows := h.maxRows
  cases hmax : env.maxRowPerPage with
  | none =>
    rw [hmax, or_self] at hrows
    simp [htoken, hrows]
  | some rows => simp [htoken]

section History

variable {env : QueryEnv δ γ B} {s s' : System δ γ B}

/-- A step that only moves the main thread, or the cursor of a query that has one. -/
lemma Untouched.moves (h : Untouched env s) (hthreads : s'.threads = s.threads)
    (hqueue : s'.query.context.queue = s.query.context.queue)
    (hflag : s'.query.hasAsyncFetch = s.query.hasAsyncFetch)
    (hrequest : s'.query.request = s.query.request)
    (hmeta : s'.query.resultMeta = s.query.resultMeta)
    (havail : s'.query.resultMetaAvailable = s.query.resultMetaAvailable)
    (hcursor : s'.query.cursor ≠ none → s.query.cursor ≠ none)
    (hcounter : s'.query.rowCounter = s.query.rowCounter ∨ s.query.cursor ≠ none)
    (hresult : s'.query.result = none → s'.query.cursor = none)
    (hpc : UntouchedPc s'.pc) (hquery : s'.pc ≠ .query) : Untouched env s' where
  threads := hthreads.trans h.threads
  queue := hqueue.trans h.queue
  flag := hflag.trans h.flag
  maxRows := hrequest ▸ h.maxRows
  atQuery := fun hq => absurd hq hquery
  noMeta := by rw [hmeta, havail]; exact h.noMeta
  hasMeta := by rw [hmeta, havail]; exact h.hasMeta
  cursor := fun hc => h.cursor (hcursor hc)
  counter := fun hc => by
    rcases hcounter with hcounter | hcounter
    · exact h.counter (hcounter ▸ hc)
    · exact h.cursor hcounter
  noResult := hresult
  pc := hpc

/-- A close begins or a call ends without touching anything else. -/
lemma Untouched.keeps (h : Untouched env s) (hthreads : s'.threads = s.threads)
    (hqueue : s'.query.context.queue = s.query.context.queue)
    (hquery : { s'.query with context := s.query.context } = s.query)
    (hpc : UntouchedPc s'.pc) (hne : s'.pc ≠ .query) : Untouched env s' := by
  have hget : ∀ {α : Type} (f : DataQuery δ γ → α),
      f { s'.query with context := s.query.context } = f s.query := fun f => congrArg f hquery
  have hcursor : s'.query.cursor = s.query.cursor := hget DataQuery.cursor
  have hresult : s'.query.result = s.query.result := hget DataQuery.result
  exact h.moves hthreads hqueue (hget DataQuery.hasAsyncFetch) (hget DataQuery.request)
    (hget DataQuery.resultMeta) (hget DataQuery.resultMetaAvailable) (by rw [hcursor]; exact id)
    (.inl (hget DataQuery.rowCounter)) (by rw [hcursor, hresult]; exact h.noResult) hpc hne

/-- A fetch that reads a row of a query whose token was never set. -/
lemma Untouched.finishRow (h : Untouched env s) {c c' : TimestreamCursor δ γ}
    (hc : s.query.cursor = some c) (b : ColumnBindingMap B) :
    Untouched env ({ s with query := { s.query with cursor := some c' } }.finishRow env b) := by
  have hne : s.query.cursor ≠ none := by simp [hc]
  refine h.moves rfl (by simp) (by simp) (by simp) (by simp [System.finishRow])
    (by simp [System.finishRow]) (fun _ => hne) (.inr hne) (fun hres => ?_) trivial (by simp)
  rw [finishRow_result] at hres
  exact absurd (h.noResult hres) hne

/-- The metadata after the whole result arrived in one page is that of the page, whether it was
read before or not. -/
lemma Untouched.onFirstPage_meta (h : Untouched env s) {page : QueryResult δ γ}
    (hpage : WholePage env page) (hinfo : page.columnInfo ≠ []) :
    (s.query.onFirstPage page).resultMetaAvailable = true ∧
      (s.query.onFirstPage page).resultMeta = page.columnInfo := by
  unfold DataQuery.onFirstPage DataQuery.ensureColumnMetadata DataQuery.readColumnMetadataVector
  cases havail : s.query.resultMetaAvailable with
  | false => simp [hinfo]
  | true =>
    obtain ⟨page', ⟨hans', -, -⟩, -, hmeta⟩ := h.hasMeta havail
    obtain rfl : page = page' := by simpa [hpage.1] using hans'
    simp [hmeta]

/-- Without column information the metadata stays as it was. -/
lemma onFirstPage_meta_nil {q : DataQuery δ γ} {page : QueryResult δ γ}
    (hinfo : page.columnInfo = []) :
    (q.onFirstPage page).resultMetaAvailable = q.resultMetaAvailable ∧
      (q.onFirstPage page).resultMeta =
        if q.resultMetaAvailable then q.resultMeta else [] := by
  unfold DataQuery.onFirstPage DataQuery.ensureColumnMetadata DataQuery.readColumnMetadataVector
  cases q.resultMetaAvailable <;> simp [hinfo]

/-- Every step of a history keeps the invariant. -/
lemma traced_step (hservice : ∀ n m request, env.service n request = env.service m request)
    {a : Action B} (h : Traced env s) (hop : ∀ op, a = .call op → HistoryOp op)
    (hstep : Step env s a s') : Traced env s' := by
  cases hstep with
  | executeClose hpc hres | destroyClose hpc hres =>
    exact ⟨fun ht => (h.untouched ht).keeps rfl rfl rfl trivial (by simp [System.beginClose]),
      by simp [System.beginClose]⟩
  | executeStart hpc hres =>
    exact ⟨fun ht => (h.untouched ht).keeps rfl rfl rfl trivial (by simp), by simp⟩
  | fetchNoCursor b hpc hc =>
    exact ⟨fun ht => (h.untouched ht).keeps rfl rfl rfl trivial (by simp), by simp⟩
  | fetchRow b c hpc hc hmore =>
    exact ⟨fun ht => (h.untouched (by simpa using ht)).finishRow hc b, by simp⟩
  | fetchSwitch b c hpc hc hmore hflag =>
    refine ⟨fun ht => ?_, by simp⟩
    have := (h.untouched ht).flag
    simp [hflag] at this
  | fetchEnd b c hpc hc hmore hflag =>
    refine ⟨fun ht => ?_, by simp⟩
    have hne : s.query.cursor ≠ none := by simp [hc]
    exact (h.untouched ht).moves rfl rfl rfl rfl rfl rfl (fun _ => hne) (.inl rfl)
      (fun hres => absurd ((h.untouched ht).noResult hres) hne) trivial (by simp)
  | cancelRequest hpc hres | cancelFail hpc records =>
    exact ⟨fun ht => (h.untouched ht).keeps rfl rfl rfl trivial (by simp), by simp⟩
  | cancelClose hpc | close hpc =>
    exact ⟨fun ht => (h.untouched ht).keeps rfl rfl rfl trivial (by simp [System.beginClose]),
      by simp [System.beginClose]⟩
  | metaKnown hpc | metaRequest hpc => exact absurd (hop _ rfl) id
  | destroy hpc hres => exact absurd (hop _ rfl) id
  | closeJoin next threads hpc hthreads =>
    refine ⟨fun ht => ?_, by simp⟩
    have := (h.untouched ht).threads
    simp [hthreads] at this
  | closeEnd next hpc hthreads =>
    refine ⟨fun ht => ?_, by cases next <;> simp [System.endClose]⟩
    have htoken : s.query.request.nextToken = "" := by cases next <;> exact ht
    have hu := h.untouched htoken
    cases next <;> exact hu.moves rfl rfl rfl rfl rfl rfl (fun hc => absurd rfl hc) (.inl rfl)
      (fun _ => rfl) trivial (by simp [System.endClose])
  | prepare hpc =>
    refine ⟨fun ht => ?_, by simp⟩
    have htoken : s.query.request.nextToken = "" := ht
    have hu := h.untouched htoken
    exact ⟨hu.threads, hu.queue, hu.flag, by rw [hu.prepareRequest htoken]; exact .inr rfl,
      fun _ => hu.prepareRequest htoken, hu.noMeta, hu.hasMeta, hu.cursor, hu.counter, hu.noResult,
      trivial⟩
  | executeFailed error hpc hans =>
    exact ⟨fun ht => (h.untouched ht).keeps rfl rfl rfl trivial (by simp [System.beginClose]),
      by simp [System.beginClose]⟩
  | executeEmpty page hpc hans hrows htoken =>
    refine ⟨fun ht => ?_, by simp⟩
    have hu := h.untouched ht
    exact hu.moves rfl rfl rfl rfl rfl rfl id (.inl rfl) (fun hres => by cases hres) trivial
      (by simp)
  | executeAgain page hpc hans hrows htoken =>
    exact ⟨fun ht => absurd ht htoken, by simp [hpc]⟩
  | executePage page hpc hans hrows htoken =>
    refine ⟨fun ht => ?_, by simp⟩
    have hu := h.untouched (by simpa [DataQuery.onFirstPage] using ht)
    have hpage : WholePage env page := by
      rw [hu.atQuery hpc, hservice _ 0] at hans
      exact ⟨hans, hrows, htoken⟩
    refine ⟨hu.threads, by simpa [DataQuery.onFirstPage] using hu.queue,
      by simpa [DataQuery.onFirstPage] using hu.flag,
      by simpa [DataQuery.onFirstPage] using hu.maxRows, by simp, fun havail => ?_, fun havail => ?_,
      fun _ => ⟨page, hpage⟩, fun _ => ⟨page, hpage⟩, by simp [DataQuery.onFirstPage], trivial⟩
    · by_cases hinfo : page.columnInfo = []
      · have hm := onFirstPage_meta_nil (q := s.query) hinfo
        have hun : s.query.resultMetaAvailable = false := hm.1 ▸ havail
        simpa [hun] using hm.2
      · have := (hu.onFirstPage_meta hpage hinfo).1
        simp [this] at havail
    · by_cases hinfo : page.columnInfo = []
      · have hm := onFirstPage_meta_nil (q := s.query) hinfo
        have hav : s.query.resultMetaAvailable = true := hm.1 ▸ havail
        have hmeta : (s.query.onFirstPage page).resultMeta = s.query.resultMeta := by
          simpa [hav] using hm.2
        simpa [hmeta] using hu.hasMeta hav
      · exact ⟨page, hpage, hinfo, (hu.onFirstPage_meta hpage hinfo).2⟩
  | executePageToken page hpc hans hrows htoken =>
    refine ⟨fun ht => absurd ht ?_, by simp⟩
    simpa [startWorker, DataQuery.onFirstPage, DataQuery.setNextToken] using htoken
  | switchFailed b error queue hpc hqueue | switchEmpty b page queue hpc hqueue hrows =>
    refine ⟨fun ht => ?_, by simp⟩
    have := (h.untouched ht).pc
    simp [hpc, UntouchedPc] at this
  | switchLast b page queue hpc hqueue hrows htoken =>
    refine ⟨fun ht => ?_, by simp⟩
    have := (h.untouched (by simpa [DataQuery.onNextPage] using ht)).pc
    simp [hpc, UntouchedPc] at this
  | switchMore b page queue hpc hqueue hrows htoken =>
    refine ⟨fun ht => ?_, by rintro token b' (hb | hb) <;> cases hb; exact htoken⟩
    have := (h.untouched ht).pc
    simp [hpc, UntouchedPc] at this
  | joinPrevious b token threads hpc hthreads =>
    refine ⟨fun ht => ?_, by
      rintro token' b' (hb | hb) <;> cases hb; exact h.token token b (.inl hpc)⟩
    have := (h.untouched ht).pc
    simp [hpc, UntouchedPc] at this
  | startNext b token hpc =>
    refine ⟨fun ht => absurd ?_ (h.token token b (.inr hpc)), by simp⟩
    simpa [startWorker, writeToken, DataQuery.setNextToken] using ht
  | metaFailed record error hpc hans =>
    refine ⟨fun ht => ?_, by simp [System.beginClose]⟩
    have := (h.untouched ht).pc
    simp [hpc, UntouchedPc] at this
  | metaAnswer columns page hpc hans =>
    refine ⟨fun ht => ?_, by simp⟩
    have := (h.untouched (by simpa using ht)).pc
    simp [hpc, UntouchedPc] at this
  | cancelAnswerClose hpc =>
    exact ⟨fun ht => (h.untouched ht).keeps rfl rfl rfl trivial (by simp [System.beginClose]),
      by simp [System.beginClose]⟩
  | cancelAnswerFail records hpc =>
    exact ⟨fun ht => (h.untouched ht).keeps rfl rfl rfl trivial (by simp), by simp⟩
  | answered i hi =>
    refine ⟨fun ht => ?_, h.token⟩
    simp [(h.untouched ht).threads] at hi
  | push i outcome hi hqueue =>
    refine ⟨fun ht => ?_, h.token⟩
    simp [(h.untouched ht).threads] at hi
  | drop i outcome hi hqueue hclosing =>
    refine ⟨fun ht => ?_, h.token⟩
    simp [(h.untouched ht).threads] at hi
  | park i outcome hi hqueue hclosing =>
    refine ⟨fun ht => ?_, h.token⟩
    simp [(h.untouched ht).threads] at hi

/-- After every history the query is untouched unless a token was set. -/
lemma traced_run (hservice : ∀ n m request, env.service n request = env.service m request)
    {acts : List (Action B)} (hops : ∀ op, .call op ∈ acts → HistoryOp op)
    (hrun : run (step env) .new acts = some s) : Traced env s := by
  refine invariant_run_of (I := Traced env) (P := fun a => ∀ op, a = .call op → HistoryOp op)
    (fun t a t' ha ht hstep => traced_step hservice ht ha (step_of_eq_some hstep))
    (fun a ha op hop => ?_) (traced_new env) hrun
  exact hops op (hop ▸ ha)

end History

/-! ## Entering the loop of an execution -/

/-- The state in which the execution called in an idle state without workers is about to send its
first request. -/
def loopEntry (env : QueryEnv δ γ B) (s : System δ γ B) : System δ γ B :=
  { s with
    query :=
      { (if s.query.result.isSome then
          { s.query with context := { s.query.context with isClosing := true } }.released
        else s.query) with request := firstRequest env }
    requestWrites := s.requestWrites + 1
    pc := .query }

/-- The state after the first answer to that execution. -/
def answered (env : QueryEnv δ γ B) (s : System δ γ B) : System δ γ B :=
  (s.loopEntry env).executeAnswer env (env.service s.sent.length (firstRequest env))

/-- The steps of the main thread from the call of an execution to its first request. -/
def stepsToLoop (s : System δ γ B) : List (Action B) :=
  if s.query.result.isSome then [.main, .main] else [.main]

section Entry

variable {env : QueryEnv δ γ B} {s s' : System δ γ B}

/-- Without workers only the main thread can bring an operation to its end. -/
lemma main_first_of_no_thread (hthreads : s.threads = []) (hpc : s.pc ≠ .idle)
    {acts : List (Action B)} (hrun : run (step env) s acts = some s') (hidle : s'.pc = .idle) :
    ∃ rest u, acts = .main :: rest ∧ step env s .main = some u ∧
      run (step env) u rest = some s' := by
  cases acts with
  | nil => cases hrun; exact absurd hidle hpc
  | cons a rest =>
    obtain ⟨u, hu, hrest⟩ := run_cons_eq_some.mp hrun
    cases a with
    | main => exact ⟨rest, u, rfl, hu, hrest⟩
    | worker i => simp [step, workerStep, hthreads] at hu
    | call op => cases hp : s.pc <;> simp_all [step]

/-- The call of an execution on an untouched query reaches its first request. -/
lemma Untouched.run_stepsToLoop (h : Untouched env s) (htoken : s.query.request.nextToken = "")
    (hpc : s.pc = .idle) :
    run (step env) s (.call .execute :: s.stepsToLoop) = some (s.loopEntry env) := by
  have hrequest := h.prepareRequest htoken
  cases hres : s.query.result with
  | none =>
    simp [run, step, hpc, call, hres, stepsToLoop, mainStep, loopEntry, hrequest]
  | some page =>
    simp [run, step, hpc, call, hres, stepsToLoop, mainStep, loopEntry, hrequest, beginClose,
      h.threads, endClose, DataQuery.released]

/-- An execution of an untouched query that comes to an end does so after its first answer. -/
lemma Untouched.run_execute (h : Untouched env s) (htoken : s.query.request.nextToken = "")
    (hpc : s.pc = .idle) {acts : List (Action B)} (hidle : s'.pc = .idle) :
    run (step env) s (.call .execute :: acts) = some s' ↔
      ∃ rest, acts = s.stepsToLoop ++ .main :: rest ∧
        run (step env) (s.answered env) rest = some s' := by
  have hloop := h.run_stepsToLoop htoken hpc
  have hanswer : step env (s.loopEntry env) .main = some (s.answered env) := rfl
  obtain ⟨u, hu, hsteps⟩ := run_cons_eq_some.mp hloop
  constructor
  · intro hrun
    obtain ⟨u', hu', hrest⟩ := run_cons_eq_some.mp hrun
    obtain rfl : u = u' := Option.some.inj (hu.symm.trans hu')
    suffices hpre : ∃ rest, acts = s.stepsToLoop ++ rest ∧
        run (step env) (s.loopEntry env) rest = some s' by
      obtain ⟨rest, rfl, hafter⟩ := hpre
      have hthreads : (s.loopEntry env).threads = [] := h.threads
      obtain ⟨rest, v, rfl, hv, hrest⟩ := main_first_of_no_thread hthreads (by simp [loopEntry])
        hafter hidle
      cases hanswer.symm.trans hv
      exact ⟨rest, rfl, hrest⟩
    cases hres : s.query.result with
    | none =>
      have hs : s.stepsToLoop = [.main] := by simp [stepsToLoop, hres]
      obtain rfl : { s with pc := .makeRequestExecute } = u := by
        simpa [step, hpc, call, hres] using hu
      rw [hs] at hsteps ⊢
      obtain ⟨rest, v, rfl, hv, hrest⟩ := main_first_of_no_thread (by exact h.threads) (by simp)
        hrest hidle
      rw [run_cons, hv] at hsteps
      cases hsteps
      exact ⟨rest, rfl, hrest⟩
    | some page =>
      have hs : s.stepsToLoop = [.main, .main] := by simp [stepsToLoop, hres]
      obtain rfl : s.beginClose .execute = u := by
        simpa [step, hpc, call, hres] using hu
      rw [hs] at hsteps ⊢
      obtain ⟨rest, v, rfl, hv, hrest⟩ := main_first_of_no_thread (by exact h.threads)
        (by simp [beginClose]) hrest hidle
      have hv' : v = (s.beginClose .execute).endClose .execute := by
        simpa [step, mainStep, beginClose, h.threads] using hv.symm
      obtain ⟨rest, w, rfl, hw, hrest⟩ := main_first_of_no_thread (by rw [hv']; exact h.threads)
        (by rw [hv']; simp [endClose]) hrest hidle
      rw [run_cons, hv, Option.bind_some, run_cons, hw] at hsteps
      cases hsteps
      exact ⟨rest, rfl, hrest⟩
  · rintro ⟨rest, rfl, hrest⟩
    rw [← List.cons_append, run_append_eq_some]
    exact ⟨_, hloop, run_cons_eq_some.mpr ⟨_, hanswer, hrest⟩⟩

/-- The loop of an execution of an untouched query is entered as that of a new one is, but for the
metadata. -/
lemma Untouched.loopEntry_eq (h : Untouched env s) (hcounter : s.query.rowCounter = 0) :
    s.loopEntry env =
      { (System.new : System δ γ B).loopEntry env with
        query := { ((System.new : System δ γ B).loopEntry env).query with
          resultMeta := s.query.resultMeta
          resultMetaAvailable := s.query.resultMetaAvailable } }.after
        (s.loopEntry env).query.context.isClosing s.sent s.requestWrites s.returns := by
  have hthreads := h.threads
  have hqueue := h.queue
  have hflag := h.flag
  have hcursor := h.noResult
  obtain ⟨⟨avail, resultMeta, request, result, cursor, ⟨queue, closing⟩, flag, counter⟩,
    threads, pc, sent, writes, returns⟩ := s
  dsimp only at hthreads hqueue hflag hcursor hcounter
  subst hthreads hqueue hflag hcounter
  cases result with
  | none =>
    obtain rfl := hcursor rfl
    simp [loopEntry, after, DataQuery.orClosing, System.new, DataQuery.new]
  | some page =>
    simp [loopEntry, after, DataQuery.orClosing, System.new, DataQuery.new, DataQuery.released]

/-- The first answer to an execution of an untouched query leads to the same state as for a new
query, but for what came before. -/
lemma Untouched.answered_eq (hservice : ∀ n m request, env.service n request = env.service m request)
    (h : Untouched env s) (hcounter : s.query.rowCounter = 0) :
    s.answered env = ((System.new : System δ γ B).answered env).after
      (s.loopEntry env).query.context.isClosing s.sent s.requestWrites s.returns := by
  have hentry := h.loopEntry_eq hcounter
  generalize (s.loopEntry env).query.context.isClosing = c at hentry ⊢
  unfold answered
  rw [hservice _ 0, hservice (System.new : System δ γ B).sent.length 0, ← executeAnswer_after]
  cases havail : s.query.resultMetaAvailable with
  | false =>
    rw [hentry, h.noMeta havail, havail]
    rfl
  | true =>
    -- the page answered now is the page whose metadata was read before
    obtain ⟨page, hpage, hinfo, hmeta⟩ := h.hasMeta havail
    rw [hentry, hpage.1, executeAnswer_after, executeAnswer_after]
    congr 1
    simp only [executeAnswer, DataQuery.executeTurn_page env _ hpage.2.1 hpage.2.2]
    simp [DataQuery.onFirstPage, DataQuery.ensureColumnMetadata, havail, hmeta, hinfo,
      DataQuery.readColumnMetadataVector, loopEntry, System.new, DataQuery.new, finish,
      DataQuery.rowNumber, DataQuery.onRow]

end Entry

/-! ## What an execution lets see -/

/-- The operations called by a list of actions. -/
def calledOps (acts : List (Action B)) : List (Op B) :=
  acts.filterMap fun
    | .call op => some op
    | .main | .worker _ => none

/-- An execution called in the state sends this request first. -/
def FirstRequest (env : QueryEnv δ γ B) (s : System δ γ B) (request : QueryRequest) : Prop :=
  ∃ acts u v, NoCalls acts ∧ run (step env) s (.call .execute :: acts) = some u ∧
    u.pc = .makeRequestExecute ∧ step env u .main = some v ∧ request = v.query.request

/-- What the caller sees of a fetch: its result, the row under the cursor and the row number. -/
def Return.observation (r : Return δ γ B) : Option (Option SqlResult × Option (List δ) × ℕ) :=
  match r.reply with
  | .fetched fetched => some (fetched.result, fetched.row, r.rowNumber)
  | .result _ _ | .columnMeta _ _ => none

/-- An execution called in the state and followed by fetches with these bindings, under some
interleaving with the workers, lets see these results, rows and row numbers. -/
def Observes (env : QueryEnv δ γ B) (s : System δ γ B) (bs : List (ColumnBindingMap B))
    (seen : List (Option SqlResult × Option (List δ) × ℕ)) : Prop :=
  ∃ acts s', calledOps acts = bs.map .fetchNextRow ∧
    run (step env) s (.call .execute :: acts) = some s' ∧ s'.pc = .idle ∧
    seen = (s'.returns.drop s.returns.length).filterMap Return.observation

/-- The next execution is as the execution of a new query: it sends the same first request, and
any number of fetches after it see the same. -/
def ReexecutesAsFresh (env : QueryEnv δ γ B) (s : System δ γ B) : Prop :=
  (∀ request, FirstRequest env s request ↔ FirstRequest env .new request) ∧
    ∀ bs seen, Observes env s bs seen ↔ Observes env .new bs seen

section Seen

variable {env : QueryEnv δ γ B} {s s' : System δ γ B}

/-- Until the request of an execution is prepared, the request is that of the call. -/
lemma request_of_execute {acts : List (Action B)} (hacts : NoCalls acts)
    (hrun : run (step env) s (.call .execute :: acts) = some s') (hend : s'.pc = .makeRequestExecute) :
    s'.query.request = s.query.request := by
  obtain ⟨u, hu, hrest⟩ := run_cons_eq_some.mp hrun
  have hinv : s'.pc = .closing .execute ∨ s'.pc = .makeRequestExecute →
      s'.query.request = s.query.request := by
    refine invariant_run_of (P := fun a => ∀ op, a ≠ .call op)
      (I := fun t => t.pc = .closing .execute ∨ t.pc = .makeRequestExecute →
        t.query.request = s.query.request)
      (fun t a v ha ht hv hvpc => ?_) (fun a ha op hop => ?_) (fun _ => ?_) hrest
    · have hstep := step_of_eq_some hv
      cases hstep with
      | closeEnd next hpc hthreads =>
        cases next with
        | execute => exact ht (.inl hpc)
        | _ => simp [endClose] at hvpc
      | executeFailed | metaFailed | cancelAnswerClose => simp [beginClose] at hvpc
      | answered | push | drop | park => exact ht hvpc
      | _ => first | exact absurd rfl (ha _) | simp_all
    · exact hacts op (hop ▸ ha)
    · have hstep := step_of_eq_some hu
      cases hstep <;> rfl
  exact hinv (.inr hend)

/-- The first request of an untouched query is that of a new one. -/
lemma Untouched.firstRequest_iff (h : Untouched env s) (htoken : s.query.request.nextToken = "")
    (hpc : s.pc = .idle) (request : QueryRequest) :
    FirstRequest env s request ↔ request = firstRequest env := by
  constructor
  · rintro ⟨acts, u, v, hacts, hrun, hu, hv, rfl⟩
    have hrequest := request_of_execute hacts hrun hu
    have hstep := step_of_eq_some hv
    cases hstep <;> simp_all
    exact h.prepareRequest htoken
  · rintro rfl
    have hrequest := (h.prepareRequest htoken).symm
    cases hres : s.query.result with
    | none =>
      refine ⟨[], { s with pc := .makeRequestExecute }, _, by simp [NoCalls], ?_, rfl, rfl, hrequest⟩
      simp [step, hpc, call, hres, run]
    | some page =>
      refine ⟨[.main], (s.beginClose .execute).endClose .execute, _, by simp [NoCalls], ?_, rfl, rfl,
        hrequest⟩
      simp [step, hpc, call, hres, mainStep, beginClose, h.threads, run]

/-- The steps to the loop of an execution call no operation. -/
@[simp] lemma calledOps_stepsToLoop (s : System δ γ B) : calledOps s.stepsToLoop = [] := by
  unfold stepsToLoop
  split <;> rfl

/-- What can be seen after an execution of an untouched query is what runs from its first answer
let see. -/
lemma Untouched.observes_iff (h : Untouched env s) (htoken : s.query.request.nextToken = "")
    (hpc : s.pc = .idle) {bs : List (ColumnBindingMap B)}
    {seen : List (Option SqlResult × Option (List δ) × ℕ)} :
    Observes env s bs seen ↔ ∃ acts s', calledOps acts = bs.map .fetchNextRow ∧
      run (step env) (s.answered env) acts = some s' ∧ s'.pc = .idle ∧
      seen = (s'.returns.drop s.returns.length).filterMap Return.observation := by
  constructor
  · rintro ⟨acts, s', hops, hrun, hidle, hseen⟩
    obtain ⟨rest, rfl, hrest⟩ := (h.run_execute htoken hpc hidle).mp hrun
    refine ⟨rest, s', ?_, hrest, hidle, hseen⟩
    simpa [calledOps, ← hops] using (calledOps_stepsToLoop s).symm
  · rintro ⟨acts, s', hops, hrun, hidle, hseen⟩
    refine ⟨s.stepsToLoop ++ .main :: acts, s', ?_, ?_, hidle, hseen⟩
    · simpa [calledOps, ← hops] using calledOps_stepsToLoop s
    · exact (h.run_execute htoken hpc hidle).mpr ⟨acts, rfl, hrun⟩

/-- The first answer to the execution of a new query is in its first run. -/
lemma firstRun_answered_new (env : QueryEnv δ γ B) :
    FirstRun ((System.new : System δ γ B).answered env) := by
  have hcall : ∀ op, Action.main ≠ (.call op : Action B) := by simp
  have hrequest := (untouched_new (B := B) env).prepareRequest rfl
  have hprepare : step env { (System.new : System δ γ B) with pc := .makeRequestExecute } .main =
      some ((System.new : System δ γ B).loopEntry env) := by
    simp only [step, mainStep, hrequest]
    rfl
  have h₁ : FirstRun { (System.new : System δ γ B) with pc := .makeRequestExecute } :=
    firstRun_step firstRun_new (a := .call .execute)
      (fun op hop => by cases hop; exact .inr ⟨rfl, rfl⟩)
      (.executeStart rfl rfl : Step env .new (.call .execute) _)
  have h₂ : FirstRun ((System.new : System δ γ B).loopEntry env) :=
    firstRun_step h₁ (fun op hop => absurd hop (hcall op)) (step_of_eq_some hprepare)
  exact firstRun_step h₂ (fun op hop => absurd hop (hcall op)) (step_of_eq_some (by rfl))

/-- Runs from the first answer that only fetch. -/
lemma call_fetch_of_calledOps {acts : List (Action B)} {bs : List (ColumnBindingMap B)}
    (hops : calledOps acts = bs.map .fetchNextRow) {a : Action B} (ha : a ∈ acts) (op : Op B)
    (hop : a = .call op) : ∃ b, op = .fetchNextRow b := by
  subst hop
  have : op ∈ calledOps acts := by
    unfold calledOps
    rw [List.mem_filterMap]
    exact ⟨_, ha, rfl⟩
  rw [hops, List.mem_map] at this
  obtain ⟨b, -, rfl⟩ := this
  exact ⟨b, rfl⟩

/-- Without a token and with the row counter at its start, an untouched query is executed again as
a new one is. -/
lemma Untouched.reexecutesAsFresh
    (hservice : ∀ n m request, env.service n request = env.service m request)
    (h : Untouched env s) (hpc : s.pc = .idle) (htoken : s.query.request.nextToken = "")
    (hcounter : s.query.rowCounter = 0) : ReexecutesAsFresh env s := by
  have hnew := untouched_new env
  refine ⟨fun request => ?_, fun bs seen => ?_⟩
  · rw [h.firstRequest_iff htoken hpc, hnew.firstRequest_iff rfl rfl]
  · rw [h.observes_iff htoken hpc, hnew.observes_iff rfl rfl]
    refine exists_congr fun acts => ?_
    by_cases hops : calledOps acts = bs.map .fetchNextRow
    swap
    · simp [hops]
    -- the runs after the two first answers are the same, step by step
    have hmap : run (step env) (s.answered env) acts =
        (run (step env) ((System.new : System δ γ B).answered env) acts).map
          (after (s.loopEntry env).query.context.isClosing s.sent s.requestWrites s.returns) := by
      rw [h.answered_eq hservice hcounter]
      refine run_map (I := FirstRun) (P := fun a => ∀ op, a = .call op → ∃ b, op = .fetchNextRow b)
        (fun t a t' ht ha hstep => ?_) (fun t a ht ha => step_after hservice ht ha)
        (firstRun_answered_new env) (fun a ha => call_fetch_of_calledOps hops ha)
      exact firstRun_step ht (fun op hop => .inl (ha op hop)) (step_of_eq_some hstep)
    rw [hmap]
    constructor
    · rintro ⟨s', -, hrun, hidle, hseen⟩
      obtain ⟨t, ht, rfl⟩ := Option.map_eq_some_iff.mp hrun
      refine ⟨t, hops, ht, hidle, ?_⟩
      simpa [after, System.new] using hseen
    · rintro ⟨t, -, hrun, hidle, hseen⟩
      refine ⟨_, hops, Option.map_eq_some_iff.mpr ⟨t, hrun, rfl⟩, hidle, ?_⟩
      simpa [after, System.new] using hseen

/-- An execution whose request already has a token sends it first. -/
lemma FirstRequest.nextToken {request : QueryRequest} (h : FirstRequest env s request) :
    request.nextToken = s.query.request.nextToken := by
  obtain ⟨acts, u, v, hacts, hrun, hu, hv, rfl⟩ := h
  rw [← request_of_execute hacts hrun hu]
  have hstep := step_of_eq_some hv
  cases hstep <;> simp_all [DataQuery.prepareRequest]

/-- Without workers, a single fetch is its call. -/
lemma run_single_fetch (hpc : s.pc = .idle) (hthreads : s.threads = [])
    {b : ColumnBindingMap B} (hpc' : (s.call env (.fetchNextRow b)).pc = .idle)
    (hthreads' : (s.call env (.fetchNextRow b)).threads = []) {acts : List (Action B)}
    (hops : calledOps acts = [.fetchNextRow b]) (hrun : run (step env) s acts = some s') :
    s' = s.call env (.fetchNextRow b) := by
  have hstuck : ∀ t : System δ γ B, t.pc = .idle → t.threads = [] → step env t .main = none ∧
      ∀ i, step env t (.worker i) = none := by
    intro t ht htt
    simp [step, mainStep, workerStep, ht, htt]
  cases acts with
  | nil => simp [calledOps] at hops
  | cons a acts =>
    obtain ⟨u, hu, hrest⟩ := run_cons_eq_some.mp hrun
    cases a with
    | main => simp [(hstuck s hpc hthreads).1] at hu
    | worker i => simp [(hstuck s hpc hthreads).2] at hu
    | call op =>
      obtain ⟨rfl, hnil⟩ : op = .fetchNextRow b ∧ calledOps acts = [] := by
        simpa [calledOps] using hops
      obtain rfl : s.call env (.fetchNextRow b) = u := by simpa [step, hpc] using hu
      cases acts with
      | nil => cases hrest; rfl
      | cons a acts =>
        obtain ⟨v, hv, -⟩ := run_cons_eq_some.mp hrest
        cases a with
        | main => simp [(hstuck _ hpc' hthreads').1] at hv
        | worker i => simp [(hstuck _ hpc' hthreads').2] at hv
        | call op => simp [calledOps] at hnil

/-- The first fetch after the whole result arrived in one page is on its first row, with the row
counter after that of the query. -/
lemma Untouched.observes_first_row
    (hservice : ∀ n m request, env.service n request = env.service m request)
    (h : Untouched env s) (hpc : s.pc = .idle) (htoken : s.query.request.nextToken = "")
    {page : QueryResult δ γ} (hpage : WholePage env page)
    {seen : List (Option SqlResult × Option (List δ) × ℕ)} :
    Observes env s [fun _ => none] seen ↔
      seen = [(some .aiSuccess, page.rows[0]?, s.query.rowCounter + 1)] := by
  obtain ⟨hans, hrows, hnone⟩ := hpage
  rw [h.observes_iff htoken hpc]
  -- after the first answer the cursor is before the first row
  have hanswered : s.answered env = { s.loopEntry env with
      sent := s.sent ++ [firstRequest env]
      query := (s.loopEntry env).query.onFirstPage page }.finish .execute (.result .aiSuccess []) := by
    unfold answered
    rw [hservice _ 0, hans]
    simp only [executeAnswer, DataQuery.executeTurn_page env _ hrows hnone]
    rfl
  have hcounter : (s.answered env).query.rowCounter = s.query.rowCounter := by
    rw [hanswered]
    cases hres : s.query.result <;>
      simp [finish, DataQuery.onFirstPage, loopEntry, hres, DataQuery.released]
  have hreturns : ∃ n, (s.answered env).returns =
      s.returns ++ [⟨.execute, .result .aiSuccess [], n⟩] := ⟨_, by rw [hanswered]; rfl⟩
  have hcursor : (s.answered env).query.cursor = some (.ofRows page.rows) := by
    rw [hanswered]; rfl
  have hidle : (s.answered env).pc = .idle := by rw [hanswered]; rfl
  have hthreads : (s.answered env).threads = [] := by rw [hanswered]; exact h.threads
  have hmore : (TimestreamCursor.ofRows page.rows : TimestreamCursor δ γ).increment.1 = true :=
    decide_eq_true (List.length_pos_iff.mpr hrows)
  generalize s.answered env = t at *
  -- the fetch reads no column
  have hcall : t.call env (.fetchNextRow fun _ => none) =
      { t with query := { t.query with
          cursor := some (TimestreamCursor.ofRows page.rows).moved
          rowCounter := t.query.rowCounter + 1 } }.finish (.fetchNextRow fun _ => none)
        (.fetched ⟨some .aiSuccess, [], fun _ => none, page.rows[0]?⟩) := by
    simp only [call, DataQuery.fetchTurn_row hcursor hmore, System.finishRow,
      DataQuery.readRow_no_bindings]
    rfl
  have honRow : (TimestreamCursor.ofRows page.rows : TimestreamCursor δ γ).moved.hasData = true :=
    hmore
  obtain ⟨n, hreturns⟩ := hreturns
  have hseen : ((t.call env (.fetchNextRow fun _ => none)).returns.drop s.returns.length).filterMap
      Return.observation = [(some .aiSuccess, page.rows[0]?, s.query.rowCounter + 1)] := by
    rw [hcall]
    simp [finish, hreturns, Return.observation, DataQuery.rowNumber, DataQuery.onRow, honRow,
      hcounter, List.filterMap_cons]
  have hidle' : (t.call env (.fetchNextRow fun _ => none)).pc = .idle := by rw [hcall]; rfl
  constructor
  · rintro ⟨acts, s', hops, hrun, -, rfl⟩
    rw [run_single_fetch hidle hthreads hidle' (by rw [hcall]; exact hthreads) hops hrun]
    exact hseen
  · rintro rfl
    exact ⟨[.call (.fetchNextRow fun _ => none)], _, rfl, by simp [run, step, hidle], hidle',
      hseen.symm⟩

/-- A query that is executed as a new one has no token in its request. -/
lemma ReexecutesAsFresh.nextToken (h : ReexecutesAsFresh env s) :
    s.query.request.nextToken = "" := by
  have hnew := ((untouched_new (B := B) env).firstRequest_iff rfl rfl (firstRequest env)).mpr rfl
  rw [← ((h.1 _).mpr hnew).nextToken]
  rfl

/-- An untouched query that is executed as a new one has its row counter at the start. -/
lemma ReexecutesAsFresh.rowCounter
    (hservice : ∀ n m request, env.service n request = env.service m request) (hpc : s.pc = .idle)
    (hu : Untouched env s) (htoken : s.query.request.nextToken = "") (h : ReexecutesAsFresh env s) :
    s.query.rowCounter = 0 := by
  by_contra hne
  obtain ⟨page, hpage⟩ := hu.counter hne
  have hsame := h.2 [fun _ => none]
    [(some .aiSuccess, page.rows[0]?, s.query.rowCounter + 1)]
  rw [hu.observes_first_row hservice hpc htoken hpage,
    (untouched_new env).observes_first_row hservice rfl rfl hpage] at hsame
  have hseen := hsame.mp rfl
  simp only [List.cons.injEq, Prod.mk.injEq, true_and, and_true] at hseen
  exact hne (Nat.succ.inj hseen)

end Seen

/-- After every history, with every service whose answers depend on the request only, the next
execution is as that of a new query exactly when no token was left in the request and no row was
counted. -/
theorem reexecutesAsFresh_iff {env : QueryEnv δ γ B} {s : System δ γ B} {acts : List (Action B)}
    (hservice : ∀ n m request, env.service n request = env.service m request)
    (hops : ∀ op, .call op ∈ acts → HistoryOp op) (hrun : run (step env) .new acts = some s)
    (hidle : s.pc = .idle) :
    ReexecutesAsFresh env s ↔ s.query.request.nextToken = "" ∧ s.query.rowCounter = 0 := by
  have htraced := traced_run hservice hops hrun
  constructor
  · intro h
    have htoken := h.nextToken
    exact ⟨htoken, h.rowCounter hservice hidle (htraced.untouched htoken) htoken⟩
  · rintro ⟨htoken, hcounter⟩
    exact (htraced.untouched htoken).reexecutesAsFresh hservice hidle htoken hcounter

/-- A service whose answers depend on the request only, with a result of two pages. -/
def twoPageEnv : QueryEnv ℕ ℕ Unit :=
  { scriptedEnv [] with
    service := fun _ request =>
      if request.nextToken = "" then .success (samplePage [1] "b") else .success (samplePage [2] "") }

/-- A query whose result is one page and was not fetched from is executed again as a new one. -/
theorem reexecutesAsFresh_unfetched :
    ∃ s, run (step { twoPageEnv with service := fun _ _ => .success (samplePage [1, 2] "") })
        .new [.call .execute, .main, .main] = some s ∧
      ReexecutesAsFresh
        { twoPageEnv with service := fun _ _ => .success (samplePage [1, 2] "") } s :=
  have hrun := fun (s : System ℕ ℕ Unit)
    (hs : run (step { twoPageEnv with service := fun _ _ => .success (samplePage [1, 2] "") })
      .new [.call .execute, .main, .main] = some s) =>
    reexecutesAsFresh_iff (fun _ _ _ => rfl) (by simp [HistoryOp]) hs
  ⟨_, rfl, (hrun _ rfl rfl).mpr ⟨rfl, rfl⟩⟩

/-- A query closed after its first page of two starts its next execution with the token of the
second one. -/
theorem not_reexecutesAsFresh_partly_fetched :
    ∃ s, run (step twoPageEnv) .new [.call .execute, .main, .main, .worker 0, .worker 0,
        .call .close, .main, .main] = some s ∧ s.pc = .idle ∧
      FirstRequest twoPageEnv s { queryString := "", maxRows := none, nextToken := "b" } ∧
      ¬ ReexecutesAsFresh twoPageEnv s :=
  ⟨_, rfl, rfl, ⟨[], _, _, by simp [NoCalls], rfl, rfl, rfl, rfl⟩,
    fun h => absurd h.nextToken (by decide)⟩

end System

end TimestreamOdbc
