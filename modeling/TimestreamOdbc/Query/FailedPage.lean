import TimestreamOdbc.Query.Refinement
import TimestreamOdbc.Query.RowConversion
import TimestreamOdbc.Query.Termination

/-!
# A page that fails

What a new query delivers when the service answers with some pages that have rows and a next token,
and then with an error.  The error arrives one page ahead of the row that is read; it is kept in
the queue until the rows of the page before it have been fetched.

The law has a part about the calls, which are followed through the whole operations of
`Query.SyncQuery`, and a part about the interleaving: from every state, the operation in progress
comes to an end in whatever order the threads take their steps.
-/

namespace TimestreamOdbc

open TransitionSystem

variable {δ γ B : Type}

/-- The service answers the requests from the `n`-th on with the pages, each of which has rows and a
next token, and the request after them with an error. -/
def ServesThenFails (env : QueryEnv δ γ B) : ℕ → List (QueryResult δ γ) → Prop
  | n, [] => ∀ request, ∃ error, env.service n request = .failure error
  | n, page :: pages =>
    (∀ request, env.service n request = .success page) ∧ page.rows ≠ [] ∧ page.nextToken ≠ "" ∧
      ServesThenFails env (n + 1) pages

/-- All rows of the pages, in their order. -/
def allRows (pages : List (QueryResult δ γ)) : List (List δ) :=
  (pages.map QueryResult.rows).flatten

/-- The metadata of a result is that of its first page. -/
def firstColumnInfo : List (QueryResult δ γ) → List γ
  | [] => []
  | page :: _ => page.columnInfo

/-- What the `i`-th fetch has to come to: a row, then the error, then the end of the data. -/
def failedOutcome (rows : List (List δ)) (i : ℕ) : Option SqlResult × Option (List δ) :=
  match rows[i]? with
  | some row => (some .aiSuccess, some row)
  | none => if i = rows.length then (some .aiError, none) else (some .aiNoData, none)

/-- The first fetch of what remains when there is a row. -/
lemma failedOutcome_cons_zero (row : List δ) (rows : List (List δ)) :
    failedOutcome (row :: rows) 0 = (some .aiSuccess, some row) := rfl

/-- The later fetches of what remains when there is a row. -/
lemma failedOutcome_cons_succ (row : List δ) (rows : List (List δ)) (i : ℕ) :
    failedOutcome (row :: rows) (i + 1) = failedOutcome rows i := by
  simp [failedOutcome]

/-- The error comes when no row remains. -/
lemma failedOutcome_nil_zero : failedOutcome ([] : List (List δ)) 0 = (some .aiError, none) := rfl

namespace SyncQuery

/-! ## Whole operations -/

/-- The query stands in a page that is followed by the pages and then by an error; the first of what
follows has been prefetched. -/
structure ServingFailure (env : QueryEnv δ γ B) (resultMeta : List γ) (s : SyncQuery δ γ)
    (c : TimestreamCursor δ γ) (pages : List (QueryResult δ γ)) : Prop where
  cursor : s.query.cursor = some c
  wellPlaced : c.WellPlaced
  columns : c.ColumnsOf resultMeta
  resultMeta : s.query.resultMeta = resultMeta
  flag : s.query.hasAsyncFetch = true
  failure : pages = [] → ∃ error, s.query.context.queue = [.failure error]
  page : ∀ page rest, pages = page :: rest → s.query.context.queue = [.success page] ∧
    page.rows ≠ [] ∧ page.nextToken ≠ "" ∧ ServesThenFails env s.sent.length rest

/-- The query will deliver the rows and then fail. -/
def WillFail (env : QueryEnv δ γ B) (resultMeta : List γ) (s : SyncQuery δ γ)
    (rows : List (List δ)) : Prop :=
  ∃ c pages, ServingFailure env resultMeta s c pages ∧ c.remaining ++ allRows pages = rows

variable {env : QueryEnv δ γ B} {resultMeta : List γ} {accepted : B → Prop} {s : SyncQuery δ γ}
  {b : ColumnBindingMap B}

/-- A fetch that ends on a row whose conversion succeeds. -/
lemma ServingFailure.finishRow {c : TimestreamCursor δ γ} {pages : List (QueryResult δ γ)}
    (h : ServingFailure env resultMeta s c pages) {row : List δ} (hrow : c.currentRow = some row)
    (haccepts : DataQuery.Accepts env.readToBuffer resultMeta accepted row)
    (hbound : DataQuery.AllBound accepted b) :
    (s.finishRow env b).1.result = some .aiSuccess ∧ (s.finishRow env b).1.row = some row ∧
      ∃ c', ServingFailure env resultMeta (s.finishRow env b).2 c' pages ∧
        c'.remaining = c.remaining := by
  obtain ⟨columns, hcolumns, hread⟩ := DataQuery.readRow_eq env b h.cursor
    (by rw [h.resultMeta]; exact h.columns)
  obtain ⟨hsuccess, -⟩ := DataQuery.convertRow_of_accepts haccepts hbound
  rw [h.resultMeta] at hread hcolumns
  rw [hrow] at hread
  refine ⟨?_, ?_, { c with columns }, ?_, rfl⟩
  · rw [SyncQuery.finishRow, hread]
    exact hsuccess
  · rw [SyncQuery.finishRow, hread]
  · refine ⟨?_, h.wellPlaced, hcolumns, ?_, ?_, ?_, ?_⟩
    · rw [SyncQuery.finishRow, hread]
    · simpa [SyncQuery.finishRow] using h.resultMeta
    · simpa [SyncQuery.finishRow] using h.flag
    · simpa [SyncQuery.finishRow] using h.failure
    · simpa [SyncQuery.finishRow] using h.page

/-- What a fetch comes to when the rows and then the error are still to come. -/
def FailureGives (env : QueryEnv δ γ B) (resultMeta : List γ) (f : Fetched δ B)
    (t : SyncQuery δ γ) : List (List δ) → Prop
  | [] => f.result = some .aiError ∧ f.row = none ∧ t.query.cursor = none
  | row :: rows => f.result = some .aiSuccess ∧ f.row = some row ∧ WillFail env resultMeta t rows

/-- A fetch that ends on the first row of what remains. -/
lemma failureGives_finishRow {c : TimestreamCursor δ γ} {pages : List (QueryResult δ γ)}
    (hc : c.WellPlaced) (hmore : c.increment.1 = true)
    (h : ServingFailure env resultMeta s c.moved pages)
    (haccepts : ∀ row ∈ c.remaining ++ allRows pages,
      DataQuery.Accepts env.readToBuffer resultMeta accepted row)
    (hbound : DataQuery.AllBound accepted b) :
    ∃ f t, some (s.finishRow env b) = some (f, t) ∧
      FailureGives env resultMeta f t (c.remaining ++ allRows pages) := by
  obtain ⟨row, hrow, hremaining⟩ := TimestreamCursor.remaining_eq_cons_of_increment hc hmore
  obtain ⟨hsuccess, hfrow, c', hserving, hremaining'⟩ :=
    h.finishRow (b := b) hrow (haccepts row (by simp [hremaining])) hbound
  have hrows : c.remaining ++ allRows pages = row :: (c'.remaining ++ allRows pages) := by
    rw [hremaining, hremaining', List.cons_append]
  rw [hrows]
  exact ⟨_, _, rfl, hsuccess, hfrow, c', pages, hserving, rfl⟩

/-- A fetch on a query that will fail gives the first row of what remains, or the error. -/
lemma fetchNextRow_willFail {rows : List (List δ)} (h : WillFail env resultMeta s rows)
    (haccepts : ∀ row ∈ rows, DataQuery.Accepts env.readToBuffer resultMeta accepted row)
    (hbound : DataQuery.AllBound accepted b) :
    ∃ f t, s.fetchNextRow env b = some (f, t) ∧ FailureGives env resultMeta f t rows := by
  obtain ⟨c, pages, h, rfl⟩ := h
  cases hmore : c.increment.1 with
  | true =>
    rw [fetchNextRow, DataQuery.fetchTurn_row h.cursor hmore]
    refine failureGives_finishRow h.wellPlaced hmore ?_ haccepts hbound
    exact ⟨rfl, h.wellPlaced.moved, h.columns, h.resultMeta, h.flag, h.failure, h.page⟩
  | false =>
    obtain ⟨hnil, -⟩ := TimestreamCursor.remaining_eq_nil_of_increment hmore
    rw [fetchNextRow, DataQuery.fetchTurn_switch h.cursor hmore h.flag]
    rw [hnil, List.nil_append] at haccepts ⊢
    rcases pages with _ | ⟨page, rest⟩
    · obtain ⟨error, hqueue⟩ := h.failure rfl
      simp only [switchCursor, hqueue, DataQuery.pageTurn]
      exact ⟨_, _, rfl, rfl, rfl, rfl⟩
    · obtain ⟨hqueue, hrows, htoken, hrest⟩ := h.page page rest rfl
      simp only [switchCursor, hqueue]
      rw [DataQuery.pageTurn_more _ hrows htoken]
      have hall : allRows (page :: rest) =
          (TimestreamCursor.ofRows page.rows : TimestreamCursor δ γ).remaining ++ allRows rest := rfl
      rw [hall] at haccepts ⊢
      refine failureGives_finishRow (TimestreamCursor.wellPlaced_ofRows page.rows)
        (decide_eq_true (List.length_pos_iff.mpr hrows)) ?_ haccepts hbound
      refine ⟨rfl, (TimestreamCursor.wellPlaced_ofRows page.rows).moved,
        TimestreamCursor.columnsOf_ofRows resultMeta page.rows, h.resultMeta, h.flag, ?_, ?_⟩
      · rintro rfl
        obtain ⟨error, herror⟩ := hrest { s.query.request with nextToken := page.nextToken }
        refine ⟨error, ?_⟩
        simpa [prefetch, DataQuery.setNextToken, DataQuery.onNextPage] using herror
      · rintro page' rest' rfl
        obtain ⟨hans, hrows', htoken', hrest'⟩ := hrest
        refine ⟨?_, hrows', htoken', ?_⟩
        · simp [prefetch, hans]
        · simpa [prefetch] using hrest'

/-- Without a cursor a fetch finds no data and does not look at the queue. -/
lemma fetchNextRow_of_cursor_none (h : s.query.cursor = none) :
    s.fetchNextRow env b = some (⟨some .aiNoData,
      [statusRecord .s01000GeneralWarning "Cursor does not point to any data."], b, none⟩, s) := by
  rw [fetchNextRow, DataQuery.fetchTurn_none h]

/-- The loop of an execution fails when the first answer is an error. -/
lemma executeLoop_fails (hfails : ServesThenFails env s.sent.length []) :
    ∃ t, executeLoop env 1 s = some ((.aiError, [DataQuery.executeFailure env]), t) ∧
      t.query.result = none ∧ t.query.cursor = none := by
  obtain ⟨error, hans⟩ := hfails s.query.request
  refine ⟨(s.send s.query.request).internalClose, ?_, rfl, rfl⟩
  rw [executeLoop, hans, DataQuery.executeTurn_failure]

/-- The loop of an execution on a new query stops at the first page when that has rows. -/
lemma executeLoop_willFail {page : QueryResult δ γ} {pages : List (QueryResult δ γ)}
    (hserves : ServesThenFails env s.sent.length (page :: pages))
    (hmeta : s.query.resultMetaAvailable = false) :
    ∃ t, executeLoop env 1 s = some ((.aiSuccess, []), t) ∧
      WillFail env page.columnInfo t (allRows (page :: pages)) := by
  obtain ⟨hans, hrows, htoken, hrest⟩ := hserves
  have hcolumnInfo : (({ s.query.setNextToken page.nextToken with
      hasAsyncFetch := true } : DataQuery δ γ).onFirstPage page).resultMeta = page.columnInfo :=
    DataQuery.resultMeta_onFirstPage page hmeta
  refine ⟨prefetch env { s.send s.query.request with
    query := { s.query.setNextToken page.nextToken with hasAsyncFetch := true }.onFirstPage page },
    ?_, .ofRows page.rows, pages, ?_, rfl⟩
  · rw [executeLoop, hans, DataQuery.executeTurn_page_token env s.query hrows htoken]
  · refine ⟨rfl, TimestreamCursor.wellPlaced_ofRows page.rows,
      TimestreamCursor.columnsOf_ofRows page.columnInfo page.rows, hcolumnInfo, by simp [prefetch, DataQuery.onFirstPage],
      ?_, ?_⟩
    · rintro rfl
      obtain ⟨error, herror⟩ := hrest { s.query.request with nextToken := page.nextToken }
      refine ⟨error, ?_⟩
      simpa [prefetch, send, DataQuery.onFirstPage, DataQuery.setNextToken] using herror
    · rintro page' rest' rfl
      obtain ⟨hans', hrows', htoken', hrest'⟩ := hrest
      refine ⟨?_, hrows', htoken', ?_⟩
      · simp [prefetch, send, hans']
      · simpa [prefetch, send] using hrest'

end SyncQuery

/-! ## Which operations a run performs -/

/-- The operation in progress. -/
def Pc.op : Pc B → Option (Op B)
  | .idle | .destroyed => none
  | .makeRequestExecute | .query | .closing .execute | .closing (.executeFailed _) => some .execute
  | .waitOutcome b | .joinPrevious _ b | .startNext _ b => some (.fetchNextRow b)
  | .metaRequest | .closing (.metaFailed _) => some .getMeta
  | .cancelRequest | .closing .cancel => some .cancel
  | .closing .close => some .close
  | .closing .destroy => some .destroy

namespace System

/-- All operations called so far are of a kind. -/
structure OpsAre (p : Op B → Prop) (s : System δ γ B) : Prop where
  returned : ∀ r ∈ s.returns, p r.op
  current : ∀ op, s.pc.op = some op → p op

section Ops

variable {env : QueryEnv δ γ B} {p : Op B → Prop} {s s' : System δ γ B}

/-- An operation of the kind ends. -/
lemma OpsAre.finish (h : OpsAre p s) {op : Op B} (hop : p op) {reply : Reply δ γ B}
    {t : System δ γ B} (ht : t.returns = s.returns) : OpsAre p (t.finish op reply) where
  returned := by
    intro r hr
    rw [System.finish, ht] at hr
    rcases List.mem_append.mp hr with hr | hr
    · exact h.returned r hr
    · rw [List.mem_singleton.mp hr]
      exact hop
  current := by simp [System.finish, Pc.op]

/-- An operation of the kind goes on. -/
lemma OpsAre.goOn (h : OpsAre p s) (hreturns : s'.returns = s.returns) {op : Option (Op B)}
    (hpc : s'.pc.op = op) (hop : ∀ op', op = some op' → p op') : OpsAre p s' where
  returned := hreturns ▸ h.returned
  current := by
    intro op' hop'
    exact hop op' (hpc.symm.trans hop')

/-- A close ends, and with it the operation it belongs to. -/
lemma OpsAre.endClose (h : OpsAre p s) {next : AfterClose} (hpc : s.pc = .closing next) :
    OpsAre p (s.endClose next) := by
  have hop := h.current
  rw [hpc] at hop
  rcases next with _ | _ | _ | _ | _ | _
  · exact h.goOn rfl rfl hop
  · exact h.finish (hop _ rfl) rfl
  · exact h.finish (hop _ rfl) rfl
  · exact h.finish (hop _ rfl) rfl
  · exact h.finish (hop _ rfl) rfl
  · refine h.goOn rfl rfl ?_
    intro op' hop'
    cases hop'

/-- Only calls bring in operations. -/
lemma opsAre_step {a : Action B} (h : OpsAre p s) (hcall : ∀ op, a = .call op → p op)
    (hstep : Step env s a s') : OpsAre p s' := by
  have hcur := h.current
  cases hstep with
  | executeClose | executeStart | fetchSwitch | cancelRequest | cancelClose | close | metaRequest
  | destroyClose =>
    refine h.goOn rfl rfl ?_
    intro op hop
    cases hop
    exact hcall _ rfl
  | destroy =>
    refine h.goOn rfl rfl ?_
    intro op hop
    cases hop
  | fetchNoCursor | fetchRow | fetchEnd | cancelFail | metaKnown =>
    exact h.finish (hcall _ rfl) rfl
  | closeEnd next hpc => exact h.endClose hpc
  | closeJoin _ _ hpc | prepare hpc | executeFailed _ hpc | switchMore _ _ _ hpc
  | joinPrevious _ _ _ hpc | metaFailed _ _ hpc | cancelAnswerClose hpc =>
    rw [hpc] at hcur
    exact h.goOn rfl rfl hcur
  | executeEmpty _ hpc | executePage _ hpc | executePageToken _ hpc | switchFailed _ _ _ hpc
  | switchEmpty _ _ _ hpc | switchLast _ _ _ hpc | startNext _ _ hpc | metaAnswer _ _ hpc
  | cancelAnswerFail _ hpc =>
    rw [hpc] at hcur
    exact h.finish (hcur _ rfl) rfl
  | executeAgain | answered | push | drop | park => exact h.goOn rfl rfl hcur

/-- A run performs the operations it calls. -/
lemma opsAre_run {acts : List (Action B)} (h : OpsAre p s)
    (hacts : ∀ op, .call op ∈ acts → p op) (hrun : run (step env) s acts = some s') :
    OpsAre p s' := by
  induction acts generalizing s with
  | nil =>
    cases hrun
    exact h
  | cons a acts ih =>
    obtain ⟨u, ha, hrest⟩ := run_cons_eq_some.mp hrun
    refine ih (opsAre_step h ?_ (step_of_eq_some ha)) ?_ hrest
    · rintro op rfl
      exact hacts op List.mem_cons_self
    · intro op hop
      exact hacts op (List.mem_cons_of_mem _ hop)

end Ops

/-! ## What is pending -/

/-- The outcome is an error, or a page with rows and a next token of which there are some left. -/
def PendingOutcome (k sent : ℕ) : QueryOutcome δ γ → Prop
  | .failure _ => True
  | .success page => page.rows ≠ [] ∧ page.nextToken ≠ "" ∧ sent ≤ k

/-- The outcomes that no fetch has taken yet. -/
def pendingOutcomes (s : System δ γ B) : Set (QueryOutcome δ γ) :=
  {outcome | outcome ∈ s.query.context.queue ∨ .returned outcome ∈ s.threads ∨
    .parked outcome ∈ s.threads}

/-- No request is sent after the one that fails: `k` pages are served before it. -/
structure Served (k : ℕ) (s : System δ γ B) : Prop where
  /-- Outcomes that were not taken are as the service gave them. -/
  outcomes : ∀ outcome ∈ s.pendingOutcomes, PendingOutcome k s.sent.length outcome
  /-- A worker inside its service call asks for a page or for the error. -/
  calling : .calling ∈ s.threads → s.sent.length ≤ k
  /-- A page switch that goes on was given a page. -/
  switching : s.pc.Switches → s.sent.length ≤ k
  /-- An execution sends the first request. -/
  executing : s.pc = .makeRequestExecute ∨ s.pc = .query → s.sent = []

/-- The answers of the service up to the error. -/
lemma pendingOutcome_service {env : QueryEnv δ γ B} {n : ℕ}
    {pages : List (QueryResult δ γ)} (h : ServesThenFails env n pages) {i : ℕ}
    (hi : i ≤ pages.length) (request : QueryRequest) :
    PendingOutcome pages.length (i + 1) (env.service (n + i) request) := by
  induction pages generalizing n i with
  | nil =>
    obtain ⟨error, hans⟩ := h request
    obtain rfl : i = 0 := Nat.le_zero.mp hi
    rw [show n + 0 = n from rfl, hans]
    trivial
  | cons page pages ih =>
    obtain ⟨hans, hrows, htoken, hrest⟩ := h
    rcases i with _ | i
    · rw [show n + 0 = n from rfl, hans]
      exact ⟨hrows, htoken, by simp⟩
    · rw [List.length_cons] at hi
      have := ih hrest (i := i) (by omega)
      rw [Nat.add_right_comm n 1 i] at this
      revert this
      rcases env.service (n + i + 1) request with page' | error
      · rintro ⟨hrows', htoken', hle⟩
        exact ⟨hrows', htoken', by simpa using hle⟩
      · exact id

section Served

variable {env : QueryEnv δ γ B} {pages : List (QueryResult δ γ)} {k : ℕ} {s s' : System δ γ B}

/-- Where the outcomes, the calling workers and the requests stay, so does the bound. -/
lemma Served.same (h : Served k s) (houtcomes : s'.pendingOutcomes ⊆ s.pendingOutcomes)
    (hcalling : .calling ∈ s'.threads → .calling ∈ s.threads) (hsent : s'.sent = s.sent)
    (hswitch : s'.pc.Switches → s'.sent.length ≤ k)
    (hexec : s'.pc = .makeRequestExecute ∨ s'.pc = .query → s'.sent = []) : Served k s' where
  outcomes := fun outcome hout => hsent ▸ h.outcomes outcome (houtcomes hout)
  calling := fun hc => hsent ▸ h.calling (hcalling hc)
  switching := hswitch
  executing := hexec

/-- Without a worker and an outcome only the position counts. -/
lemma Served.of_nothing_pending (hthreads : s.threads = []) (hqueue : s.query.context.queue = [])
    (hswitch : ¬ s.pc.Switches) (hexec : s.pc ≠ .makeRequestExecute ∧ s.pc ≠ .query) :
    Served k s where
  outcomes := by
    rintro outcome (hout | hout | hout)
    · simp [hqueue] at hout
    · simp [hthreads] at hout
    · simp [hthreads] at hout
  calling := by simp [hthreads]
  switching := fun hsw => absurd hsw hswitch
  executing := by
    rintro (hpc | hpc)
    · exact absurd hpc hexec.1
    · exact absurd hpc hexec.2

/-- A worker that was just started may send the request. -/
lemma Served.of_started (hthreads : s.threads = [.calling])
    (hqueue : s.query.context.queue = []) (hpc : s.pc = .idle) (hle : s.sent.length ≤ k) :
    Served k s where
  outcomes := by
    rintro outcome (hout | hout | hout)
    · simp [hqueue] at hout
    · simp [hthreads] at hout
    · simp [hthreads] at hout
  calling := fun _ => hle
  switching := by simp [hpc, Pc.Switches]
  executing := by simp [hpc]

/-- Where a worker steps the main thread neither switches pages nor executes. -/
lemma FirstRun.not_switches (h : FirstRun s) {w : Worker δ γ} (hw : s.threads = [w])
    (hflight : w.InFlight) :
    ¬ s.pc.Switches ∧ ¬ (s.pc = .makeRequestExecute ∨ s.pc = .query) := by
  have hwrites : ¬ s.pc.WritesRequest := by
    intro hwrites
    have := h.flight.noWorker hwrites
    simp [hw] at this
  have hjoins : ¬ s.pc.JoinsPrevious :=
    fun hjoins => hflight ((h.joined hjoins).2 w (by simp [hw]))
  rcases hpc : s.pc <;> simp_all [Pc.Switches, Pc.WritesRequest, Pc.JoinsPrevious]

/-- After a step of a worker that is not inside its service call only the outcomes count. -/
lemma Served.of_worker
    (houtcomes : ∀ outcome ∈ s.pendingOutcomes, PendingOutcome k s.sent.length outcome)
    (hcalling : .calling ∉ s.threads) (hswitch : ¬ s.pc.Switches)
    (hexec : ¬ (s.pc = .makeRequestExecute ∨ s.pc = .query)) : Served k s where
  outcomes := houtcomes
  calling := fun hc => absurd hc hcalling
  switching := fun hsw => absurd hsw hswitch
  executing := fun hpc => absurd hpc hexec

/-- Every step of a first run whose service gives some pages and then an error keeps the bound. -/
lemma served_step (hserves : ServesThenFails env 0 pages) {a : Action B} (hfirst : FirstRun s)
    (h : Served pages.length s) (hcall : ∀ op, a = .call op → ∃ b, op = .fetchNextRow b)
    (hstep : Step env s a s') : Served pages.length s' := by
  have hpcs := hfirst.pc
  have hfirst' := firstRun_step hfirst (fun op hop => .inl (hcall op hop)) hstep
  have hanswer : ∀ {n}, n ≤ pages.length → ∀ request,
      PendingOutcome pages.length (n + 1) (env.service n request) := by
    intro n hn request
    have := pendingOutcome_service hserves hn request
    rwa [Nat.zero_add] at this
  have hexecuted : ∀ {page}, s.pc = .query →
      env.service s.sent.length s.query.request = .success page →
      page.rows ≠ [] ∧ page.nextToken ≠ "" ∧ s.sent.length + 1 ≤ pages.length := by
    intro page hpc hans
    have hsent := h.executing (.inr hpc)
    have := hanswer (n := s.sent.length) (by simp [hsent]) s.query.request
    rwa [hans] at this
  have htaken : ∀ {page queue}, s.query.context.queue = .success page :: queue →
      page.rows ≠ [] ∧ page.nextToken ≠ "" ∧ s.sent.length ≤ pages.length := by
    intro page queue hqueue
    exact h.outcomes (.success page) (.inl (by simp [hqueue]))
  cases hstep with
  | executeClose | executeStart | cancelRequest | cancelFail | cancelClose | close | metaKnown
  | metaRequest | destroyClose | destroy =>
    obtain ⟨b, hb⟩ := hcall _ rfl
    cases hb
  | fetchNoCursor | fetchSwitch | fetchEnd =>
    exact h.same (fun _ => id) id rfl (by simp [Pc.Switches]) (by simp)
  | fetchRow b c =>
    refine h.same (fun outcome hout => ?_) id rfl (by simp [Pc.Switches]) (by simp)
    simpa [pendingOutcomes] using hout
  | closeJoin next threads hpc hthreads =>
    have := hfirst.closing (by simp [hpc])
    simp [hthreads] at this
  | closeEnd next hpc hthreads =>
    rw [hpc] at hpcs
    rcases next with _ | record | _ | _ | _ | _
    · exact absurd hpcs id
    · exact .of_nothing_pending hthreads (hfirst.noThread hthreads) (by simp [endClose, Pc.Switches])
        (by simp [endClose])
    all_goals exact absurd hpcs id
  | prepare hpc =>
    exact h.same (fun _ => id) id rfl (by simp [Pc.Switches])
      (fun _ => h.executing (.inl hpc))
  | executeFailed error hpc hans =>
    have hnone := hfirst.flight.noWorker (by simp [hpc, Pc.WritesRequest])
    exact .of_nothing_pending hnone (hfirst.noThread hnone) (by simp [beginClose, Pc.Switches])
      (by simp [beginClose])
  | executeEmpty page hpc hans hrows => exact absurd hrows (hexecuted hpc hans).1
  | executeAgain page hpc hans hrows => exact absurd hrows (hexecuted hpc hans).1
  | executePage page hpc hans hrows htoken => exact absurd htoken (hexecuted hpc hans).2.1
  | executePageToken page hpc hans =>
    have hnone := hfirst.flight.noWorker (by simp [hpc, Pc.WritesRequest])
    refine .of_started (by simp [startWorker, hnone]) ?_ rfl ?_
    · simpa [startWorker, DataQuery.onFirstPage, DataQuery.setNextToken] using
        hfirst.noThread hnone
    · simpa [startWorker, System.finish] using (hexecuted hpc hans).2.2
  | switchFailed b error queue hpc hqueue =>
    refine h.same (fun outcome hout => hout.imp_left fun hin => ?_) id rfl
      (by simp [Pc.Switches]) (by simp)
    rw [hqueue]
    exact List.mem_cons_of_mem _ hin
  | switchEmpty b page queue hpc hqueue hrows => exact absurd hrows (htaken hqueue).1
  | switchLast b page queue hpc hqueue hrows htoken => exact absurd htoken (htaken hqueue).2.1
  | switchMore b page queue hpc hqueue =>
    refine h.same (fun outcome hout => hout.imp_left fun hin => ?_) id rfl
      (fun _ => (htaken hqueue).2.2) (by simp)
    rw [hqueue]
    exact List.mem_cons_of_mem _ hin
  | joinPrevious b token threads hpc hthreads =>
    have hnil : threads = [] := hfirst'.flight.noWorker trivial
    refine h.same ?_ (by simp [hnil]) rfl (fun _ => h.switching (by simp [hpc, Pc.Switches]))
      (by simp)
    rintro outcome (hout | hout | hout)
    · exact .inl hout
    · simp [hnil] at hout
    · simp [hnil] at hout
  | startNext b token hpc =>
    have hnone := hfirst.flight.noWorker (by simp [hpc, Pc.WritesRequest])
    refine .of_started (by simp [startWorker, writeToken, hnone]) ?_ rfl
      (h.switching (by simp [hpc, Pc.Switches]))
    simpa [startWorker, writeToken, DataQuery.setNextToken] using hfirst.noThread hnone
  | metaFailed _ _ hpc | metaAnswer _ _ hpc | cancelAnswerClose hpc | cancelAnswerFail _ hpc =>
    rw [hpc] at hpcs
    exact absurd hpcs id
  | answered i hi =>
    obtain ⟨rfl, hw⟩ := hfirst.flight.eq_singleton hi
    have hle := h.calling (by simp [hw])
    have hqueue := hfirst.exclusive ⟨.calling, by simp [hw], by simp [Worker.InFlight]⟩
    obtain ⟨hswitch, hexec⟩ := hfirst.not_switches hw (by simp [Worker.InFlight])
    refine .of_worker ?_ (by simp [hw]) hswitch hexec
    rintro outcome (hout | hout | hout)
    · simp [hqueue] at hout
    · have hout : outcome = env.service s.sent.length s.query.request := by
        simpa [hw] using hout
      rw [hout, List.length_append]
      exact hanswer hle s.query.request
    · simp [hw] at hout
  | push i outcome hi hqueue =>
    obtain ⟨w, hget, hflight⟩ := exists_inFlight hi
    obtain ⟨rfl, hw⟩ := hfirst.flight.eq_singleton hget
    obtain ⟨hswitch, hexec⟩ := hfirst.not_switches hw hflight
    refine .of_worker ?_ (by simp [hw]) hswitch hexec
    rintro outcome' (hout | hout | hout)
    · obtain rfl : outcome' = outcome := by simpa using hout
      exact h.outcomes outcome' (.inr (hi.imp List.mem_of_getElem? List.mem_of_getElem?))
    · simp [hw] at hout
    · simp [hw] at hout
  | drop i outcome hi hqueue hclosing =>
    obtain ⟨w, hget, hflight⟩ := exists_inFlight hi
    exact absurd (hfirst.exclusive ⟨w, List.mem_of_getElem? hget, hflight⟩) hqueue
  | park i outcome hi hqueue hclosing =>
    exact absurd
      (hfirst.exclusive ⟨_, List.mem_of_getElem? hi, by simp [Worker.InFlight]⟩) hqueue

end Served

/-! ## Runs that fail -/

/-- What holds at every state of a run whose service gives some pages and then an error. -/
structure FailingRun (k : ℕ) (s : System δ γ B) : Prop where
  first : FirstRun s
  flag : FlagHonest s
  served : Served k s

section FailingRun

variable {env : QueryEnv δ γ B} {pages : List (QueryResult δ γ)} {s s' : System δ γ B}

/-- No page without rows is taken from the queue. -/
lemma FailingRun.takesEmptyPage {k : ℕ} (h : FailingRun k s) (a : Action B) :
    s.takesEmptyPage a = false := by
  unfold System.takesEmptyPage
  split
  · next b page queue hpc hqueue =>
    have := h.served.outcomes (.success page) (.inl (by simp [hqueue]))
    simpa using this.1
  · rfl

/-- No execution takes in a page without rows. -/
lemma FailingRun.not_answersEmptyPage (hserves : ServesThenFails env 0 pages)
    (h : FailingRun pages.length s) : ¬ AnswersEmptyPage env s := by
  rintro ⟨hpc, page, hans, hrows⟩
  have hsent := h.served.executing (.inr hpc)
  have := pendingOutcome_service hserves (Nat.zero_le _) s.query.request
  rw [hsent] at hans
  rw [show env.service (0 + 0) s.query.request = .success page from hans] at this
  exact this.1 hrows

/-- Every step but a call other than a fetch keeps such a run going. -/
lemma failingRun_step (hserves : ServesThenFails env 0 pages) (h : FailingRun pages.length s)
    {a : Action B} (hcall : ∀ op, a = .call op → ∃ b, op = .fetchNextRow b)
    (hstep : Step env s a s') : FailingRun pages.length s' where
  first := firstRun_step h.first (fun op hop => .inl (hcall op hop)) hstep
  flag := flagHonest_step h.flag (h.takesEmptyPage a) hstep
  served := served_step hserves h.first h.served hcall hstep

/-- An execution of a new query begins such a run. -/
lemma failingRun_new_execute (k : ℕ) :
    FailingRun k { (System.new : System δ γ B) with pc := .makeRequestExecute } := by
  refine ⟨.of_no_thread ?_ rfl rfl trivial, ?_, ?_⟩
  · exact .of_no_thread rfl (Nat.zero_le 1) (fun _ => rfl) (by simp [Pc.IsClosing])
      (by simp [Pc.Switches])
  · exact flagHonest_new.moves rfl (by simp [System.new, DataQuery.new]) (by simp [Awaits])
      (by simp [Pc.Switches]) (by simp)
  · refine ⟨?_, ?_, by simp [Pc.Switches], fun _ => rfl⟩
    · rintro outcome (hout | hout | hout) <;> cases hout
    · intro hc
      cases hc

/-- The run lemma. -/
lemma failingRun_run (hserves : ServesThenFails env 0 pages) {acts : List (Action B)}
    (hfetches : ∀ op, .call op ∈ acts → ∃ b, op = .fetchNextRow b)
    (hrun : run (step env) .new (.call .execute :: acts) = some s) :
    FailingRun pages.length s := by
  obtain ⟨u, hu, hrest⟩ := run_cons_eq_some.mp hrun
  obtain rfl : { (System.new : System δ γ B) with pc := .makeRequestExecute } = u :=
    Option.some.inj hu
  refine invariant_run_of (P := fun a => ∀ op, a = .call op → ∃ b, op = .fetchNextRow b)
    (fun s a s' ha h hstep => failingRun_step hserves h ha (step_of_eq_some hstep)) ?_
    (failingRun_new_execute pages.length) hrest
  rintro a ha op rfl
  exact hfetches op ha

/-- Whatever operation is in progress ends, in whatever order the threads take their steps. -/
lemma FailingRun.settles (hserves : ServesThenFails env 0 pages) (h : FailingRun pages.length s) :
    Settles (step env) Action.Internal Ended s := by
  have hlowers : ∀ (s : System δ γ B) a s', FailingRun pages.length s → Action.Internal a →
      step env s a = some s' → FailingRun pages.length s' ∧ weight s' < weight s := by
    intro s a s' h ha hstep
    have hcases := step_of_eq_some hstep
    refine ⟨failingRun_step hserves h ?_ hcases,
      weight_step ha (h.not_answersEmptyPage hserves) hcases⟩
    rintro op rfl
    exact absurd ha id
  apply settles_of_measure hlowers ?_ h
  · intro s h hended
    refine h.first.flight.exists_internal hended ?_ ?_
    · intro hpc
      have hpcs := h.first.pc
      rw [hpc] at hpcs
      exact hpcs
    · rintro ⟨b, hpc⟩
      refine h.flag.producer (h.flag.flag (.inl ⟨b, hpc⟩)) ?_
      simp [hpc, Pc.Switches]

end FailingRun

/-! ## The replies -/

section Replies

variable {env : QueryEnv δ γ B} {resultMeta : List γ} {accepted : B → Prop}

/-- Every fetch without a cursor finds no data and changes nothing. -/
lemma performsAll_of_cursor_none {s t : SyncQuery δ γ} {rs : List (Return δ γ B)}
    (hcursor : s.query.cursor = none) (hops : ∀ r ∈ rs, ∃ b, r.op = .fetchNextRow b)
    (hall : PerformsAll env s rs t) :
    t = s ∧ ∀ r ∈ rs, ∃ f, r.reply = .fetched f ∧ (f.result, f.row) = (some .aiNoData, none) := by
  induction rs with
  | nil => exact ⟨hall.symm, by simp⟩
  | cons r rs ih =>
    obtain ⟨u, hperf, -, hrest⟩ := hall
    obtain ⟨b, hb⟩ := hops r List.mem_cons_self
    rw [hb] at hperf
    obtain ⟨f, hf, hreply⟩ := hperf
    rw [SyncQuery.fetchNextRow_of_cursor_none hcursor, Option.some.injEq, Prod.mk.injEq] at hf
    obtain ⟨rfl, rfl⟩ := hf
    obtain ⟨ht, hnodata⟩ := ih (fun r hr => hops r (List.mem_cons_of_mem _ hr)) hrest
    exact ⟨ht, List.forall_mem_cons.mpr ⟨⟨_, hreply, rfl⟩, hnodata⟩⟩

/-- The fetches of a query that will fail give its rows, the error, and then nothing. -/
lemma performsAll_willFail {s t : SyncQuery δ γ} {rows : List (List δ)}
    {rs : List (Return δ γ B)} (h : SyncQuery.WillFail env resultMeta s rows)
    (haccepts : ∀ row ∈ rows, DataQuery.Accepts env.readToBuffer resultMeta accepted row)
    (hops : ∀ r ∈ rs, ∃ b, r.op = .fetchNextRow b ∧ DataQuery.AllBound accepted b)
    (hall : PerformsAll env s rs t) :
    (∀ (i : ℕ) r, rs[i]? = some r → ∃ f, r.reply = .fetched f ∧
      (f.result, f.row) = failedOutcome rows i) ∧
    (rows.length < rs.length → t.query.cursor = none) := by
  induction rs generalizing s rows with
  | nil => simp
  | cons r rs ih =>
    obtain ⟨u, hperf, -, hrest⟩ := hall
    obtain ⟨b, hb, hbound⟩ := hops r List.mem_cons_self
    rw [hb] at hperf
    obtain ⟨f, hf, hreply⟩ := hperf
    obtain ⟨f', u', hf', hgives⟩ := SyncQuery.fetchNextRow_willFail h haccepts hbound
    rw [hf', Option.some.injEq, Prod.mk.injEq] at hf
    obtain ⟨rfl, rfl⟩ := hf
    have hops' := fun r hr => hops r (List.mem_cons_of_mem _ hr)
    rcases rows with _ | ⟨row, rows⟩
    · obtain ⟨hresult, hrow, hcursor⟩ := hgives
      obtain ⟨rfl, hnodata⟩ := performsAll_of_cursor_none hcursor
        (fun r hr => (hops' r hr).imp fun _ => And.left) hrest
      refine ⟨?_, fun _ => hcursor⟩
      rintro (_ | i) r' hr'
      · obtain rfl := Option.some.inj hr'
        exact ⟨_, hreply, by rw [hresult, hrow, failedOutcome_nil_zero]⟩
      · obtain ⟨f, hf, hout⟩ := hnodata r' (List.mem_of_getElem? hr')
        exact ⟨f, hf, hout⟩
    · obtain ⟨hresult, hrow, hwill⟩ := hgives
      obtain ⟨hout, hend⟩ := ih hwill (fun row hr => haccepts row (List.mem_cons_of_mem _ hr))
        hops' hrest
      refine ⟨?_, fun hlt => hend (by simpa using hlt)⟩
      rintro (_ | i) r' hr'
      · obtain rfl := Option.some.inj hr'
        exact ⟨_, hreply, by rw [hresult, hrow, failedOutcome_cons_zero]⟩
      · rw [failedOutcome_cons_succ]
        exact hout i r' hr'

end Replies

/-! ## The contract -/

/-- The replies of a run that executes a new query and then only fetches are those of the whole
operations, and the fetches among them have the bindings of the calls. -/
lemma performsAll_of_run {env : QueryEnv δ γ B} {accepted : B → Prop} {acts : List (Action B)}
    {s : System δ γ B}
    (hfetches : ∀ op, .call op ∈ acts →
      ∃ b, op = .fetchNextRow b ∧ DataQuery.AllBound accepted b)
    (hrun : run (step env) .new (.call .execute :: acts) = some s) (hidle : s.pc = .idle) :
    ∃ r rs t, s.returns = r :: rs ∧ r.op = .execute ∧
      (∀ r ∈ rs, ∃ b, r.op = .fetchNextRow b ∧ DataQuery.AllBound accepted b) ∧
      Performs env .new .execute r.reply t ∧ PerformsAll env t rs (s.settled env) := by
  obtain ⟨r, rs, hreturns, hop, hops, hall⟩ := first_run_refines env
    (fun op hop => (hfetches op hop).imp fun _ => And.left) hrun hidle
  have hbound : OpsAre (fun op : Op B => ∀ b, op = .fetchNextRow b →
      DataQuery.AllBound accepted b) s := by
    refine opsAre_run (s := .new) ⟨by simp [System.new], by simp [System.new, Pc.op]⟩ ?_ hrun
    rintro op hmem b rfl
    rcases List.mem_cons.mp hmem with hmem | hmem
    · cases hmem
    · obtain ⟨b', hb', hbound⟩ := hfetches _ hmem
      cases hb'
      exact hbound
  rw [hreturns] at hall
  obtain ⟨t, hperf, -, hrest⟩ := hall
  rw [hop] at hperf
  refine ⟨r, rs, t, hreturns, hop, ?_, hperf, hrest⟩
  intro r' hr'
  obtain ⟨b, hb⟩ := hops r' hr'
  refine ⟨b, hb, hbound.returned r' ?_ b hb⟩
  rw [hreturns]
  exact List.mem_cons_of_mem _ hr'

/-- An execution that finds an error at once. -/
lemma performs_execute_fails {env : QueryEnv δ γ B} (hserves : ServesThenFails env 0 [])
    {reply : Reply δ γ B} {t : SyncQuery δ γ} (hperf : Performs env .new .execute reply t) :
    (∃ records, reply = .result .aiError records) ∧ t.query.result = none ∧
      t.query.cursor = none := by
  obtain ⟨fuel, r, hr, rfl⟩ := hperf
  have hstart : ServesThenFails env ({ (SyncQuery.new : SyncQuery δ γ) with query :=
      { DataQuery.new with request :=
        DataQuery.prepareRequest env (DataQuery.new : DataQuery δ γ).request } } :
          SyncQuery δ γ).sent.length [] := hserves
  obtain ⟨t', hloop, hresult, hcursor⟩ := SyncQuery.executeLoop_fails hstart
  have hsame := SyncQuery.executeLoop_unique hr hloop
  rw [Prod.mk.injEq] at hsame
  obtain ⟨rfl, rfl⟩ := hsame
  exact ⟨⟨_, rfl⟩, hresult, hcursor⟩

/-- An execution that finds a page. -/
lemma performs_execute_willFail {env : QueryEnv δ γ B} {page : QueryResult δ γ}
    {pages : List (QueryResult δ γ)} (hserves : ServesThenFails env 0 (page :: pages))
    {reply : Reply δ γ B} {t : SyncQuery δ γ} (hperf : Performs env .new .execute reply t) :
    (∃ records, reply = .result .aiSuccess records) ∧
      SyncQuery.WillFail env page.columnInfo t (allRows (page :: pages)) := by
  obtain ⟨fuel, r, hr, rfl⟩ := hperf
  have hstart : ServesThenFails env ({ (SyncQuery.new : SyncQuery δ γ) with query :=
      { DataQuery.new with request :=
        DataQuery.prepareRequest env (DataQuery.new : DataQuery δ γ).request } } :
          SyncQuery δ γ).sent.length (page :: pages) := hserves
  obtain ⟨t', hloop, hwill⟩ := SyncQuery.executeLoop_willFail hstart rfl
  have hsame := SyncQuery.executeLoop_unique hr hloop
  rw [Prod.mk.injEq] at hsame
  obtain ⟨rfl, rfl⟩ := hsame
  exact ⟨⟨_, rfl⟩, hwill⟩

/-- Without a cursor a fetch returns in the step that calls it. -/
lemma fetch_returns_of_cursor_none (env : QueryEnv δ γ B) {s : System δ γ B} (hpc : s.pc = .idle)
    (hcursor : s.query.cursor = none) (b : ColumnBindingMap B) :
    ∃ t, step env s (.call (.fetchNextRow b)) = some t ∧ t.pc = .idle := by
  refine ⟨s.call env (.fetchNextRow b), by simp [step, hpc], ?_⟩
  simp [call, DataQuery.fetchTurn_none hcursor]

/-- The run that executes, lets the worker find the error, and fetches `n` times. -/
def fetchThroughError (n : ℕ) : List (Action Unit) :=
  [.main, .main, .worker 0, .worker 0, .call (.fetchNextRow fun _ => none),
    .call (.fetchNextRow fun _ => none), .main] ++
    List.replicate n (.call (.fetchNextRow fun _ => none))

end System

end TimestreamOdbc
