import TimestreamOdbc.Query.ListingRows

/-!
# Pages that end with an error

The service may fail at any page.  The pages before that are delivered as if they were all, and the error
is seen by the fetch behind their last row; only an error before the first row is seen by the execution.
-/

namespace TimestreamOdbc

variable {δ γ B : Type}

/-! ## Pages up to an error -/

/-- The service answers the requests from the `n`-th on with the pages and then with the error, if there
is one; otherwise exactly the last page has no next token. -/
def ServesUntil (env : QueryEnv δ γ B) (error : Option AwsError) :
    ℕ → List (QueryResult δ γ) → Prop
  | n, [] => ∀ e ∈ error, ∀ request, env.service n request = .failure e
  | n, page :: pages =>
    (∀ request, env.service n request = .success page) ∧
      (page.nextToken = "" ↔ pages = [] ∧ error = none) ∧ ServesUntil env error (n + 1) pages

namespace SyncQuery

/-- The query stands in a result of which the pages, and the error, are still to be taken. The first of
them was prefetched. -/
structure ServingUntil (env : QueryEnv δ γ B) (error : Option AwsError) (s : SyncQuery δ γ)
    (c : TimestreamCursor δ γ) (pages : List (QueryResult δ γ)) : Prop where
  cursor : s.query.cursor = some c
  wellPlaced : c.WellPlaced
  flag : s.query.hasAsyncFetch = true ↔ ¬ (pages = [] ∧ error = none)
  failure : pages = [] → ∀ e ∈ error, s.query.context.queue = [.failure e]
  page : ∀ page rest, pages = page :: rest → s.query.context.queue = [.success page] ∧
    (page.nextToken = "" ↔ rest = [] ∧ error = none) ∧ ServesUntil env error s.sent.length rest

variable {env : QueryEnv δ γ B} {error : Option AwsError} {s : SyncQuery δ γ}
  {c : TimestreamCursor δ γ} {pages : List (QueryResult δ γ)}

/-- A query before the rows of a page, of which the rest was not asked for yet. -/
lemma servingUntil_of_last {q : DataQuery δ γ} {sent : List QueryRequest} (hcursor : q.cursor = some c)
    (hplaced : c.WellPlaced) (hflag : q.hasAsyncFetch = false) :
    ServingUntil env none ⟨q, sent⟩ c [] where
  cursor := hcursor
  wellPlaced := hplaced
  flag := by simp [hflag]
  failure := by simp
  page := by simp

/-- A query before the rows of a page, of which the next one is prefetched. -/
lemma servingUntil_prefetch {q : DataQuery δ γ} {sent : List QueryRequest}
    (hcursor : q.cursor = some c) (hplaced : c.WellPlaced) (hflag : q.hasAsyncFetch = true)
    (hmore : ¬ (pages = [] ∧ error = none)) (h : ServesUntil env error sent.length pages) :
    ServingUntil env error (prefetch env ⟨q, sent⟩) c pages where
  cursor := hcursor
  wellPlaced := hplaced
  flag := by simpa [prefetch, hflag] using hmore
  failure := by
    rintro rfl e he
    simp [prefetch, h e he]
  page := by
    rintro page rest rfl
    obtain ⟨hans, htoken, hrest⟩ := h
    refine ⟨by simp [prefetch, hans], htoken, ?_⟩
    simpa [prefetch] using hrest

/-- A fetch that ends on a row converts it, and the query still stands in its result. -/
lemma ServingUntil.convertsRow (h : ServingUntil env error s c pages)
    (hcolumns : c.ColumnsOf s.query.resultMeta) (columnBindings : ColumnBindingMap B) :
    ∃ columns, columns <+: s.query.resultMeta ∧
      ServingUntil env error (s.finishRow env columnBindings).2 { c with columns } pages ∧
      (s.finishRow env columnBindings).2.query.resultMeta = s.query.resultMeta ∧
      (s.finishRow env columnBindings).1 =
        ⟨(DataQuery.convertRow env s.query.resultMeta c.currentRow columnBindings).1,
          (DataQuery.convertRow env s.query.resultMeta c.currentRow columnBindings).2.1,
          (DataQuery.convertRow env s.query.resultMeta c.currentRow columnBindings).2.2,
          c.currentRow⟩ := by
  obtain ⟨columns, hcolumns', hread⟩ := DataQuery.readRow_eq env columnBindings h.cursor hcolumns
  refine ⟨columns, hcolumns', ⟨?_, h.wellPlaced, ?_, ?_, ?_⟩, ?_, ?_⟩
  · rw [SyncQuery.finishRow, hread]
  · simpa [SyncQuery.finishRow] using h.flag
  · simpa [SyncQuery.finishRow] using h.failure
  · simpa [SyncQuery.finishRow] using h.page
  · simp [SyncQuery.finishRow]
  · rw [SyncQuery.finishRow, hread]

/-- How a fetch goes on: to the first row that is pending, or to an end that is no success. -/
inductive AdvancesUntil (env : QueryEnv δ γ B) (error : Option AwsError) (b : ColumnBindingMap B)
    (s : SyncQuery δ γ) (c : TimestreamCursor δ γ) (pages : List (QueryResult δ γ)) : Prop
  | row {t : SyncQuery δ γ} {c' : TimestreamCursor δ γ} {pages' : List (QueryResult δ γ)}
      (fetch : s.fetchNextRow env b = some (t.finishRow env b)) (wellPlaced : c'.WellPlaced)
      (more : c'.increment.1 = true) (serving : ServingUntil env error t c'.moved pages')
      (pending : pendingRows c' pages' = pendingRows c pages) (columns : c'.columns <+: c.columns)
      (resultMeta : t.query.resultMeta = s.query.resultMeta)
  | ended {t : SyncQuery δ γ} {result : SqlResult} {records : List DiagnosticRecord}
      (fetch : s.fetchNextRow env b = some (⟨some result, records, b, none⟩, t))
      (failed : result ≠ .aiSuccess) (pending : pendingRows c pages = [])

/-- Every fetch from a query that stands in a result goes on like this. -/
lemma ServingUntil.advances (h : ServingUntil env error s c pages) (b : ColumnBindingMap B) :
    AdvancesUntil env error b s c pages := by
  cases hmore : c.increment.1 with
  | true =>
    refine .row (t := { s with query := { s.query with cursor := some c.moved } }) ?_ h.wellPlaced
      hmore ?_ rfl (List.prefix_refl _) rfl
    · rw [fetchNextRow, DataQuery.fetchTurn_row h.cursor hmore]
    · exact ⟨rfl, h.wellPlaced.moved, h.flag, h.failure, h.page⟩
  | false =>
    obtain ⟨hnil, -⟩ := TimestreamCursor.remaining_eq_nil_of_increment hmore
    have hended : pendingRows c [] = [] := by simp [pendingRows, hnil]
    cases pages with
    | nil =>
      cases error with
      | none =>
        have hflag : s.query.hasAsyncFetch = false := by simpa using h.flag
        have hfetch : s.fetchNextRow env b = some (⟨some .aiNoData, [], b, none⟩,
            { s with query := { s.query with cursor := some c.moved } }) := by
          rw [fetchNextRow, DataQuery.fetchTurn_end h.cursor hmore hflag]
        exact .ended hfetch (by decide) hended
      | some e =>
        have hflag : s.query.hasAsyncFetch = true := h.flag.mpr (by simp)
        have hqueue := h.failure rfl e rfl
        have hfetch : s.fetchNextRow env b =
            some (⟨some .aiError, [DataQuery.invalidCursorState], b, none⟩,
              { s with query := { s.query with
                cursor := none
                hasAsyncFetch := false
                context := { s.query.context with queue := [] } } }) := by
          rw [fetchNextRow, DataQuery.fetchTurn_switch h.cursor hmore hflag]
          simp only [switchCursor, hqueue, DataQuery.pageTurn]
        exact .ended hfetch (by decide) hended
    | cons page rest =>
      have hflag : s.query.hasAsyncFetch = true := h.flag.mpr (by simp)
      obtain ⟨hqueue, htoken, hrest⟩ := h.page page rest rfl
      by_cases hrows : page.rows = []
      · -- a page without rows in the middle
        have hfetch : s.fetchNextRow env b =
            some (⟨some .aiNoData, [DataQuery.invalidCursorState], b, none⟩,
              { s with query := { s.query with
                result := some page
                cursor := some c.moved
                context := { s.query.context with queue := [] } } }) := by
          rw [fetchNextRow, DataQuery.fetchTurn_switch h.cursor hmore hflag]
          simp only [switchCursor, hqueue]
          rw [DataQuery.pageTurn_empty _ hrows]
        exact .ended hfetch (by decide) (pendingRows_of_empty rest hnil hrows)
      · have hfirst := increment_ofRows (γ := γ) hrows
        have hplaced := TimestreamCursor.wellPlaced_ofRows (γ := γ) page.rows
        have hpending := (pendingRows_of_rows rest hnil hrows).symm
        -- the query after the outcome was taken from the queue
        let taken : DataQuery δ γ := { s.query with
          cursor := some c.moved
          context := { s.query.context with queue := [] } }
        by_cases hlast : page.nextToken = ""
        · obtain ⟨rfl, rfl⟩ := htoken.mp hlast
          refine .row (t := { s with
            query := { taken.onNextPage page with hasAsyncFetch := false } }) ?_ hplaced hfirst
            (servingUntil_of_last rfl hplaced.moved rfl) hpending List.nil_prefix rfl
          rw [fetchNextRow, DataQuery.fetchTurn_switch h.cursor hmore hflag]
          simp only [switchCursor, hqueue]
          rw [DataQuery.pageTurn_last _ hrows hlast]
        · have hne : ¬ (rest = [] ∧ error = none) := fun hr => hlast (htoken.mpr hr)
          refine .row (t := prefetch env { s with
            query := (taken.onNextPage page).setNextToken page.nextToken }) ?_ hplaced hfirst
            (servingUntil_prefetch rfl hplaced.moved hflag hne hrest) hpending List.nil_prefix rfl
          rw [fetchNextRow, DataQuery.fetchTurn_switch h.cursor hmore hflag]
          simp only [switchCursor, hqueue]
          rw [DataQuery.pageTurn_more _ hrows hlast]
          rfl

/-- What an execution comes to: the error when it comes before any row, no data when there is no row and
no error, or the first page that has rows. -/
inductive StartsUntil (env : QueryEnv δ γ B) (error : Option AwsError) (s : SyncQuery δ γ)
    (pages : List (QueryResult δ γ)) (r : SqlResult × List DiagnosticRecord) (t : SyncQuery δ γ) :
    Prop
  | empty (result : r = if error = none then (.aiNoData, [])
      else (.aiError, [DataQuery.executeFailure env])) (delivered : deliveredRows pages = [])
  | page {page : QueryResult δ γ} {rest : List (QueryResult δ γ)} (result : r = (.aiSuccess, []))
      (first : pages.dropWhile (·.rows.isEmpty) = page :: rest)
      (delivered : deliveredRows pages = pendingRows (.ofRows page.rows : TimestreamCursor δ γ) rest)
      (serving : ServingUntil env error t (.ofRows page.rows) rest)
      (resultMeta : s.query.resultMetaAvailable = false → t.query.resultMeta = page.columnInfo)

/-- The loop of an execution on a query without a flag comes to this, with a request for each page and
one for the error. -/
lemma executeLoop_startsUntil (hpages : ServesUntil env error s.sent.length pages)
    (hne : ¬ (pages = [] ∧ error = none)) (hflag : s.query.hasAsyncFetch = false) {fuel : ℕ}
    (hfuel : pages.length < fuel) :
    ∃ r t, executeLoop env fuel s = some (r, t) ∧ StartsUntil env error s pages r t := by
  induction pages generalizing s fuel with
  | nil =>
    obtain ⟨fuel, rfl⟩ : ∃ n, fuel = n + 1 := ⟨fuel - 1, by simp at hfuel; omega⟩
    obtain ⟨e, rfl⟩ : ∃ e, error = some e := Option.ne_none_iff_exists'.mp fun hnone => hne ⟨rfl, hnone⟩
    refine ⟨(.aiError, [DataQuery.executeFailure env]), (s.send s.query.request).internalClose, ?_,
      .empty rfl rfl⟩
    rw [executeLoop, hpages e rfl, DataQuery.executeTurn_failure]
  | cons page pages ih =>
    obtain ⟨hans, htoken, hrest⟩ := hpages
    obtain ⟨fuel, rfl⟩ : ∃ n, fuel = n + 1 := ⟨fuel - 1, by simp at hfuel; omega⟩
    have hfuel' : pages.length < fuel := Nat.lt_of_succ_lt_succ hfuel
    by_cases hrows : page.rows = []
    · have hdelivered := deliveredRows_cons_of_empty pages hrows
      by_cases hlast : page.nextToken = ""
      · obtain ⟨rfl, rfl⟩ := htoken.mp hlast
        refine ⟨(.aiNoData, []), { s.send s.query.request with
          query := { s.query with result := some page } }, ?_, .empty rfl hdelivered⟩
        rw [executeLoop, hans, DataQuery.executeTurn_empty env s.query hrows hlast]
      · obtain ⟨r, t, hloop, hstarts⟩ := ih (s := { s.send s.query.request with
          query := { s.query with result := some page }.setNextToken page.nextToken })
          (by simpa [send] using hrest) (fun hr => hlast (htoken.mpr hr)) hflag hfuel'
        refine ⟨r, t, ?_, ?_⟩
        · rw [executeLoop, hans, DataQuery.executeTurn_again env s.query hrows hlast]
          exact hloop
        · cases hstarts with
          | empty hr hnone => exact .empty hr (hdelivered.trans hnone)
          | page hr hfirst hpending hserving hmeta =>
            refine .page hr ?_ (hdelivered.trans hpending) hserving hmeta
            rw [List.dropWhile_cons_of_pos (by simp [hrows])]
            exact hfirst
    · have hdelivered := deliveredRows_cons_of_rows pages hrows
      have hplaced := TimestreamCursor.wellPlaced_ofRows (γ := γ) page.rows
      have hfirst : (page :: pages).dropWhile (·.rows.isEmpty) = page :: pages :=
        List.dropWhile_cons_of_neg (by simpa using hrows)
      by_cases hlast : page.nextToken = ""
      · obtain ⟨rfl, rfl⟩ := htoken.mp hlast
        refine ⟨(.aiSuccess, []), { s.send s.query.request with
          query := s.query.onFirstPage page }, ?_, .page rfl hfirst hdelivered ?_
          (DataQuery.resultMeta_onFirstPage page)⟩
        · rw [executeLoop, hans, DataQuery.executeTurn_page env s.query hrows hlast]
        · exact servingUntil_of_last rfl hplaced (by simp [DataQuery.onFirstPage, hflag])
      · have hmore : ¬ (pages = [] ∧ error = none) := fun hr => hlast (htoken.mpr hr)
        refine ⟨(.aiSuccess, []), prefetch env { s.send s.query.request with
            query := { s.query.setNextToken page.nextToken with
              hasAsyncFetch := true }.onFirstPage page },
          ?_, .page rfl hfirst hdelivered ?_ ?_⟩
        · rw [executeLoop, hans, DataQuery.executeTurn_page_token env s.query hrows hlast]
        · refine servingUntil_prefetch rfl hplaced (by simp [DataQuery.onFirstPage]) hmore ?_
          simpa [send] using hrest
        · exact fun h => DataQuery.resultMeta_onFirstPage page h

end SyncQuery

/-! ## What a data query awaits -/

namespace WholeQuery

variable {q : WholeQuery δ γ} {source : DataSource δ γ} {resultMeta : List γ}
  {row : List (Option δ)} {rows : List (List (Option δ))}

/-- The rows that the next fetches come to, before an end that may be an error. -/
def AwaitsUntil (source : DataSource δ γ) (resultMeta : List γ) (rows : List (List (Option δ)))
    (q : WholeQuery δ γ) : Prop :=
  ∃ error c pages, q.source = source ∧ SyncQuery.ServingUntil source.env error q.state c pages ∧
    c.ColumnsOf resultMeta ∧ q.state.query.resultMeta = resultMeta ∧ pendingRows c pages = rows

/-- Where there is a row, a fetch converts it. -/
lemma AwaitsUntil.fetchNextRow_cons (h : AwaitsUntil source resultMeta (row :: rows) q)
    (columnBindings : ColumnBindings) :
    ∃ q', AwaitsUntil source resultMeta rows q' ∧ q.fetchNextRow columnBindings =
      (DataQuery.convertRow source.env resultMeta (some row) columnBindings).1.map fun result =>
        (⟨result, (DataQuery.convertRow source.env resultMeta (some row) columnBindings).2.1,
          (DataQuery.convertRow source.env resultMeta (some row) columnBindings).2.2⟩, q') := by
  obtain ⟨error, c, pages, rfl, hserving, hcolumns, hmeta, hpending⟩ := h
  cases hserving.advances columnBindings with
  | @row t c' pages' hfetch hplaced hmore hserving' hpending' hdiscovered hmeta' =>
    have hmeta'' : t.query.resultMeta = resultMeta := hmeta'.trans hmeta
    have hcolumns' : c'.moved.ColumnsOf t.query.resultMeta := by
      rw [hmeta'']
      exact hdiscovered.trans hcolumns
    obtain ⟨columns, hcolumns'', hnext, hfinished, hread⟩ :=
      hserving'.convertsRow hcolumns' columnBindings
    obtain ⟨first, hrow, hremaining⟩ :=
      TimestreamCursor.remaining_eq_cons_of_increment hplaced hmore
    have hrows : pendingRows c' pages' = first :: pendingRows c'.moved pages' := by
      rw [pendingRows, pendingRows, hremaining, List.cons_append]
    obtain ⟨rfl, hrest⟩ := List.cons.inj ((hpending'.trans hpending).symm.trans hrows)
    rw [hrow, hmeta''] at hread
    refine ⟨{ q with state := (t.finishRow q.source.env columnBindings).2 },
      ⟨error, { c'.moved with columns }, pages', rfl, hnext, ?_, hfinished.trans hmeta'', ?_⟩, ?_⟩
    · rwa [hmeta''] at hcolumns''
    · rw [hrest]
      rfl
    · unfold WholeQuery.fetchNextRow
      rw [hfetch, Option.bind_some]
      simp only [hread]
  | ended _ _ hnone =>
    rw [hpending] at hnone
    cases hnone

/-- Where there is none, it does not succeed. -/
lemma AwaitsUntil.fetchNextRow_nil (h : AwaitsUntil source resultMeta [] q)
    (columnBindings : ColumnBindings) :
    ∃ result records q', q.fetchNextRow columnBindings =
      some (⟨result, records, columnBindings⟩, q') ∧ result ≠ .aiSuccess := by
  obtain ⟨error, c, pages, rfl, hserving, -, -, hpending⟩ := h
  cases hserving.advances columnBindings with
  | row hfetch hplaced hmore hserving' hpending' =>
    obtain ⟨first, -, hremaining⟩ := TimestreamCursor.remaining_eq_cons_of_increment hplaced hmore
    rw [hpending, pendingRows, hremaining] at hpending'
    cases hpending'
  | @ended t result records hfetch hfailed =>
    refine ⟨result, records, { q with state := t }, ?_, hfailed⟩
    unfold WholeQuery.fetchNextRow
    rw [hfetch]
    rfl

/-- A new data query that is served some pages up to an error is executed to their rows. -/
lemma execute_awaitsUntil {error : Option AwsError} {pages : List (QueryResult (Option δ) γ)}
    (hnew : q.state = .new) (hne : ¬ (pages = [] ∧ error = none))
    (hserves : ServesUntil q.source.env error 0 pages) (hmax : pages.length < q.maxRequests) :
    (deliveredRows pages = [] ∧ ∃ q', q.execute = some (if error = none then (.aiNoData, [])
        else (.aiError, [DataQuery.executeFailure q.source.env]), q')) ∨
      deliveredRows pages ≠ [] ∧ ∃ q', q.execute = some ((.aiSuccess, []), q') ∧
        AwaitsUntil q.source (deliveredColumnInfo pages) (deliveredRows pages) q' := by
  obtain ⟨r, t, hsync, hstarts⟩ :=
    SyncQuery.executeLoop_startsUntil (s := SyncQuery.prepared q.source.env) hserves hne rfl hmax
  have hexecute : q.execute = some (r, { q with state := t }) := by
    have hloop : q.state.execute q.source.env q.maxRequests = some (r, t) := by
      rw [hnew]
      exact hsync
    rw [WholeQuery.execute, hloop]
    rfl
  cases hstarts with
  | empty hr hnone => exact .inl ⟨hnone, _, by rw [hexecute, hr]⟩
  | @page page rest hr hfirst hdelivered hserving hmeta =>
    obtain ⟨hrows, hinfo⟩ := rows_of_first hfirst
    refine .inr ⟨?_, { q with state := t }, by rw [hexecute, hr], error, .ofRows page.rows, rest, rfl,
      hserving, TimestreamCursor.columnsOf_ofRows _ _, ?_, hdelivered.symm⟩
    · rw [hdelivered, pendingRows, TimestreamCursor.remaining_ofRows]
      simp [hrows]
    · rw [hinfo]
      exact hmeta rfl

end WholeQuery

/-! ## The loop over the rows -/

/-- The loop over rows that are converted without an error and without a record ends behind the last of
them, whatever ends it. -/
lemma fetchRows_of_awaitsUntil {ρ σ : Type} {source : DataSource δ γ} {resultMeta : List γ}
    {cells : ρ → List (Option δ)} {next : σ → ρ → σ} {Holds : σ → ColumnBindings → Prop}
    {rows : List ρ}
    (hconvert : ∀ row ∈ rows, ∀ state columnBindings, Holds state columnBindings →
      ∃ columnBindings', DataQuery.convertRow source.env resultMeta (some (cells row))
        columnBindings = (some .aiSuccess, [], columnBindings') ∧
          Holds (next state row) columnBindings')
    {state : σ} {columnBindings : ColumnBindings} (hholds : Holds state columnBindings)
    {q : WholeQuery δ γ} (h : q.AwaitsUntil source resultMeta (rows.map cells)) {fuel : ℕ}
    (hfuel : rows.length < fuel) :
    ∃ records bindings, fetchRows WholeQuery.fetchNextRow fuel columnBindings q =
      some (records, bindings) ∧ List.Forall₂ Holds (statesAfter next state rows) bindings := by
  induction rows generalizing state columnBindings q fuel with
  | nil =>
    obtain ⟨fuel, rfl⟩ : ∃ n, fuel = n + 1 := ⟨fuel - 1, by simp at hfuel; omega⟩
    obtain ⟨result, records, q', hfetch, hfailed⟩ := h.fetchNextRow_nil columnBindings
    refine ⟨records, [], ?_, .nil⟩
    rw [fetchRows, hfetch]
    exact if_neg hfailed
  | cons row rows ih =>
    obtain ⟨fuel, rfl⟩ : ∃ n, fuel = n + 1 := ⟨fuel - 1, by simp at hfuel; omega⟩
    obtain ⟨q', hrest, hfetch⟩ := h.fetchNextRow_cons columnBindings
    obtain ⟨columnBindings', hrow, hnext⟩ :=
      hconvert row List.mem_cons_self state columnBindings hholds
    obtain ⟨records, bindings, hloop, hbindings⟩ :=
      ih (fun row hmem => hconvert row (List.mem_cons_of_mem _ hmem)) hnext hrest
        (Nat.lt_of_succ_lt_succ hfuel)
    refine ⟨records, columnBindings' :: bindings, ?_, .cons hnext hbindings⟩
    rw [hrow] at hfetch
    rw [fetchRows, hfetch]
    simp only [Option.map_some, Option.bind_some, if_true, hloop, List.nil_append]

end TimestreamOdbc
