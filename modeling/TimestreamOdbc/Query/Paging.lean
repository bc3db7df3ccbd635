import TimestreamOdbc.Query.Refinement
import Mathlib.Data.List.TakeWhile

/-!
# What paging delivers

The rows of a paged result that an execution followed by fetches positions on, whatever the
interleaving with the page workers.

The account is exact: at every moment the rows already fetched, followed by the rows still to be
fetched, are the rows of the pages that will ever be taken.  Those are the leading pages without
rows, which the loop of `MakeRequestExecute` skips, and then the pages up to the next page without
rows, at which `SwitchCursor` ends the result whatever follows.
-/

namespace TimestreamOdbc

open TransitionSystem

variable {δ γ B : Type}

/-! ## Paged results -/

/-- The service answers the requests from the `n`-th on with the pages, of which exactly the last
has no next token. -/
def Serves (env : QueryEnv δ γ B) : ℕ → List (QueryResult δ γ) → Prop
  | _, [] => True
  | n, page :: pages =>
    (∀ request, env.service n request = .success page) ∧ (page.nextToken = "" ↔ pages = []) ∧
      Serves env (n + 1) pages

/-- The rows that are fetched from the pages: those of the pages with rows between the leading
pages without rows and the next page without rows. -/
def deliveredRows (pages : List (QueryResult δ γ)) : List (List δ) :=
  ((pages.map QueryResult.rows).dropWhile List.isEmpty |>.takeWhile (!·.isEmpty)).flatten

/-- The rows that are still to be fetched: those of the page of the cursor, and those of the pages
not yet taken up to the next page without rows. -/
def pendingRows (c : TimestreamCursor δ γ) (pages : List (QueryResult δ γ)) : List (List δ) :=
  c.remaining ++ ((pages.map QueryResult.rows).takeWhile (!·.isEmpty)).flatten

/-- Leading pages without rows deliver nothing. -/
lemma deliveredRows_cons_of_empty {page : QueryResult δ γ} (pages : List (QueryResult δ γ))
    (hrows : page.rows = []) : deliveredRows (page :: pages) = deliveredRows pages := by
  simp [deliveredRows, hrows]

/-- From the first page with rows on, what is delivered is what is pending. -/
lemma deliveredRows_cons_of_rows {page : QueryResult δ γ} (pages : List (QueryResult δ γ))
    (hrows : page.rows ≠ []) :
    deliveredRows (page :: pages) = pendingRows (.ofRows page.rows : TimestreamCursor δ γ) pages := by
  simp [deliveredRows, pendingRows, hrows]

/-- A page without rows delivers nothing more. -/
lemma pendingRows_of_empty {c : TimestreamCursor δ γ} {page : QueryResult δ γ}
    (pages : List (QueryResult δ γ)) (hc : c.remaining = []) (hrows : page.rows = []) :
    pendingRows c (page :: pages) = [] := by
  simp [pendingRows, hc, hrows]

/-- At the end of a page the next page with rows is what is pending. -/
lemma pendingRows_of_rows {c : TimestreamCursor δ γ} {page : QueryResult δ γ}
    (pages : List (QueryResult δ γ)) (hc : c.remaining = []) (hrows : page.rows ≠ []) :
    pendingRows c (page :: pages) =
      pendingRows (.ofRows page.rows : TimestreamCursor δ γ) pages := by
  simp [pendingRows, hc, hrows]

namespace SyncQuery

/-- The query stands in a result of which the pages are still to be taken: the flag says whether
there are any, and the first of them has been prefetched. -/
structure Serving (env : QueryEnv δ γ B) (s : SyncQuery δ γ) (c : TimestreamCursor δ γ)
    (pages : List (QueryResult δ γ)) : Prop where
  cursor : s.query.cursor = some c
  wellPlaced : c.WellPlaced
  flag : s.query.hasAsyncFetch = true ↔ pages ≠ []
  queue : ∀ page rest, pages = page :: rest → s.query.context.queue = [.success page] ∧
    (page.nextToken = "" ↔ rest = []) ∧ Serves env s.sent.length rest

/-- A row of the current page is fetched. -/
lemma finishRow_serving {env : QueryEnv δ γ B} {b : ColumnBindingMap B} {s : SyncQuery δ γ}
    {c : TimestreamCursor δ γ} {pages : List (QueryResult δ γ)} (h : Serving env s c pages) :
    (s.finishRow env b).1.result ≠ some .aiNoData ∧
    (s.finishRow env b).1.row = c.currentRow ∧
    ∃ c', Serving env (s.finishRow env b).2 c' pages ∧ c'.remaining = c.remaining := by
  obtain ⟨hrow, columns, hcursor⟩ := DataQuery.readRow_row env b h.cursor
  refine ⟨DataQuery.readRow_result_ne_noData env b _, hrow, { c with columns }, ?_, rfl⟩
  exact ⟨hcursor, h.wellPlaced, by simpa [finishRow] using h.flag,
    by simpa [finishRow] using h.queue⟩

/-- The query will deliver the rows: it has no cursor and there are none, or they are pending. -/
def Delivers (env : QueryEnv δ γ B) (s : SyncQuery δ γ) (rows : List (List δ)) : Prop :=
  s.query.cursor = none ∧ rows = [] ∨
    ∃ c pages, Serving env s c pages ∧ pendingRows c pages = rows

/-- What a fetch gives when the rows are still to be delivered: the first of them, or the end. -/
def FetchGives (env : QueryEnv δ γ B) (f : Fetched δ B) (t : SyncQuery δ γ) :
    List (List δ) → Prop
  | [] => f.result = some .aiNoData ∧ f.row = none
  | row :: rows => f.result ≠ some .aiNoData ∧ f.row = some row ∧ Delivers env t rows

/-- A fetch that ends on the first row of what remains. -/
lemma fetchGives_finishRow {env : QueryEnv δ γ B} {b : ColumnBindingMap B} {s : SyncQuery δ γ}
    {c : TimestreamCursor δ γ} {pages : List (QueryResult δ γ)} (hc : c.WellPlaced)
    (hmore : c.increment.1 = true) (h : Serving env s c.moved pages) :
    ∃ f t, some (s.finishRow env b) = some (f, t) ∧
      FetchGives env f t (pendingRows c pages) := by
  obtain ⟨row, hrow, hremaining⟩ := TimestreamCursor.remaining_eq_cons_of_increment hc hmore
  obtain ⟨hdata, hfrow, c', hserving, hremaining'⟩ := finishRow_serving (b := b) h
  have hpending : pendingRows c pages = row :: pendingRows c' pages := by
    simp [pendingRows, hremaining, hremaining']
  rw [hpending]
  exact ⟨_, _, rfl, hdata, hfrow.trans hrow, .inr ⟨c', pages, hserving, rfl⟩⟩

/-- A new cursor over a page with rows can be moved to its first row. -/
lemma increment_ofRows {rows : List (List δ)} (hrows : rows ≠ []) :
    (TimestreamCursor.ofRows rows : TimestreamCursor δ γ).increment.1 = true :=
  decide_eq_true (List.length_pos_iff.mpr hrows)

/-- How a fetch goes on from a query that stands in a result: it ends on the first row that is pending,
which may be that of another page, or there is none. -/
inductive Advances (env : QueryEnv δ γ B) (b : ColumnBindingMap B) (s : SyncQuery δ γ)
    (c : TimestreamCursor δ γ) (pages : List (QueryResult δ γ)) : Prop
  | row {t : SyncQuery δ γ} {c' : TimestreamCursor δ γ} {pages' : List (QueryResult δ γ)}
      (fetch : s.fetchNextRow env b = some (t.finishRow env b)) (wellPlaced : c'.WellPlaced)
      (more : c'.increment.1 = true) (serving : Serving env t c'.moved pages')
      (pending : pendingRows c' pages' = pendingRows c pages) (columns : c'.columns <+: c.columns)
      (taken : pages' <:+ pages) (resultMeta : t.query.resultMeta = s.query.resultMeta)
      (rowCounter : t.query.rowCounter = s.query.rowCounter)
  | ended {t : SyncQuery δ γ} {records : List DiagnosticRecord}
      (fetch : s.fetchNextRow env b = some (⟨some .aiNoData, records, b, none⟩, t))
      (more : c.increment.1 = false) (pending : pendingRows c pages = [])
      (cursor : t.query.cursor = some c.moved)
      (stopped : t.query.hasAsyncFetch = false ∨ t.query.context.queue = [])
      (resultMeta : t.query.resultMeta = s.query.resultMeta)
      (last : (∀ page ∈ pages, page.rows ≠ []) → Serving env t c.moved [])

/-- Every fetch from a query that stands in a result goes on like this. -/
lemma Serving.advances {env : QueryEnv δ γ B} {s : SyncQuery δ γ} {c : TimestreamCursor δ γ}
    {pages : List (QueryResult δ γ)} (h : Serving env s c pages) (b : ColumnBindingMap B) :
    Advances env b s c pages := by
  cases hmore : c.increment.1 with
  | true =>
    refine .row (t := { s with query := { s.query with cursor := some c.moved } }) ?_ h.wellPlaced
      hmore ?_ rfl (List.prefix_refl _) (List.suffix_refl _) rfl rfl
    · rw [fetchNextRow, DataQuery.fetchTurn_row h.cursor hmore]
    · exact ⟨rfl, h.wellPlaced.moved, h.flag, h.queue⟩
  | false =>
    obtain ⟨hnil, hnil'⟩ := TimestreamCursor.remaining_eq_nil_of_increment hmore
    cases pages with
    | nil =>
      have hflag : s.query.hasAsyncFetch = false := by simpa using h.flag
      have hfetch : s.fetchNextRow env b = some (⟨some .aiNoData, [], b, none⟩,
          { s with query := { s.query with cursor := some c.moved } }) := by
        rw [fetchNextRow, DataQuery.fetchTurn_end h.cursor hmore hflag]
      refine .ended hfetch hmore ?_ rfl (.inl hflag) rfl
        fun _ => ⟨rfl, h.wellPlaced.moved, h.flag, by simp⟩
      simp [pendingRows, hnil]
    | cons page rest =>
      have hflag : s.query.hasAsyncFetch = true := h.flag.mpr (by simp)
      obtain ⟨hqueue, htoken, hrest⟩ := h.queue page rest rfl
      by_cases hrows : page.rows = []
      · -- a page without rows in the middle
        have hfetch : s.fetchNextRow env b =
            some (⟨some .aiNoData, [DataQuery.invalidCursorState], b, none⟩,
              { s with query := { s.query with
                result := some page
                cursor := some c.moved
                context := { s.query.context with queue := [] } } }) := by
          rw [fetchNextRow, DataQuery.fetchTurn_switch h.cursor hmore hflag]
          simp only [switchCursor, hqueue]
          rw [DataQuery.pageTurn_empty _ hrows]
        exact .ended hfetch hmore (pendingRows_of_empty rest hnil hrows) rfl (.inr rfl) rfl
          fun hpages => absurd hrows (hpages page List.mem_cons_self)
      · have hfirst := increment_ofRows (γ := γ) hrows
        have hplaced := TimestreamCursor.wellPlaced_ofRows (γ := γ) page.rows
        have hpending := (pendingRows_of_rows rest hnil hrows).symm
        -- the query after the outcome was taken from the queue
        let taken : DataQuery δ γ := { s.query with
          cursor := some c.moved
          context := { s.query.context with queue := [] } }
        by_cases hlast : page.nextToken = ""
        · obtain rfl := htoken.mp hlast
          refine .row (t := { s with
            query := { taken.onNextPage page with hasAsyncFetch := false } }) ?_ hplaced hfirst ?_
            hpending List.nil_prefix (List.suffix_cons _ _) rfl rfl
          · rw [fetchNextRow, DataQuery.fetchTurn_switch h.cursor hmore hflag]
            simp only [switchCursor, hqueue]
            rw [DataQuery.pageTurn_last _ hrows hlast]
          · exact ⟨rfl, hplaced.moved, by simp, by simp⟩
        · have hne : rest ≠ [] := fun hr => hlast (htoken.mpr hr)
          refine .row (t := prefetch env { s with
            query := (taken.onNextPage page).setNextToken page.nextToken }) ?_ hplaced hfirst ?_
            hpending List.nil_prefix (List.suffix_cons _ _) rfl rfl
          · rw [fetchNextRow, DataQuery.fetchTurn_switch h.cursor hmore hflag]
            simp only [switchCursor, hqueue]
            rw [DataQuery.pageTurn_more _ hrows hlast]
            rfl
          · refine ⟨rfl, hplaced.moved, ?_, ?_⟩
            · simpa [taken, prefetch, DataQuery.setNextToken, DataQuery.onNextPage, hflag] using hne
            · rintro page' rest' rfl
              obtain ⟨hans, htoken', hrest'⟩ := hrest
              refine ⟨?_, htoken', ?_⟩
              · simp [prefetch, hans]
              · simpa [prefetch] using hrest'

/-- A fetch on a query that will deliver rows gives the first of them, or the end. -/
lemma fetchNextRow_delivers {env : QueryEnv δ γ B} (b : ColumnBindingMap B) {s : SyncQuery δ γ}
    {rows : List (List δ)} (h : Delivers env s rows) :
    ∃ f t, s.fetchNextRow env b = some (f, t) ∧ FetchGives env f t rows := by
  rcases h with ⟨hc, rfl⟩ | ⟨c, pages, h, rfl⟩
  · rw [fetchNextRow, DataQuery.fetchTurn_none hc]
    exact ⟨_, _, rfl, rfl, rfl⟩
  cases h.advances b with
  | row hfetch hplaced hmore hserving hpending =>
    rw [hfetch, ← hpending]
    exact fetchGives_finishRow hplaced hmore hserving
  | ended hfetch _ hpending =>
    rw [hpending]
    exact ⟨_, _, hfetch, rfl, rfl⟩

/-- What an execution comes to: no page has rows, or the query stands before the first row of the first
page that has some, whose metadata it takes unless it has metadata already. -/
inductive Starts (env : QueryEnv δ γ B) (s : SyncQuery δ γ) (pages : List (QueryResult δ γ))
    (r : SqlResult × List DiagnosticRecord) (t : SyncQuery δ γ) : Prop
  | empty (result : r = (.aiNoData, [])) (delivered : deliveredRows pages = [])
      (cursor : t.query.cursor = none)
  | page {page : QueryResult δ γ} {rest : List (QueryResult δ γ)} (result : r = (.aiSuccess, []))
      (first : pages.dropWhile (·.rows.isEmpty) = page :: rest)
      (delivered : deliveredRows pages = pendingRows (.ofRows page.rows : TimestreamCursor δ γ) rest)
      (serving : Serving env t (.ofRows page.rows) rest)
      (resultMeta : s.query.resultMetaAvailable = false → t.query.resultMeta = page.columnInfo)
      (rowCounter : t.query.rowCounter = s.query.rowCounter)

/-- The loop of an execution on a query without a cursor and a flag reaches the first page with
rows, or the end of the result. -/
lemma executeLoop_starts {env : QueryEnv δ γ B} {pages : List (QueryResult δ γ)}
    {s : SyncQuery δ γ} (hpages : Serves env s.sent.length pages) (hne : pages ≠ [])
    (hcursor : s.query.cursor = none) (hflag : s.query.hasAsyncFetch = false) {fuel : ℕ}
    (hfuel : pages.length ≤ fuel) :
    ∃ r t, executeLoop env fuel s = some (r, t) ∧ Starts env s pages r t := by
  induction pages generalizing s fuel with
  | nil => exact absurd rfl hne
  | cons page pages ih =>
    obtain ⟨hans, htoken, hrest⟩ := hpages
    obtain ⟨fuel, rfl⟩ : ∃ n, fuel = n + 1 := ⟨fuel - 1, by simp at hfuel; omega⟩
    have hfuel' : pages.length ≤ fuel := Nat.le_of_succ_le_succ hfuel
    by_cases hrows : page.rows = []
    · have hdelivered := deliveredRows_cons_of_empty pages hrows
      by_cases hlast : page.nextToken = ""
      · obtain rfl := htoken.mp hlast
        refine ⟨(.aiNoData, []), { s.send s.query.request with
          query := { s.query with result := some page } }, ?_, .empty rfl hdelivered hcursor⟩
        rw [executeLoop, hans, DataQuery.executeTurn_empty env s.query hrows hlast]
      · obtain ⟨r, t, hloop, hstarts⟩ := ih (s := { s.send s.query.request with
          query := { s.query with result := some page }.setNextToken page.nextToken })
          (by simpa [send] using hrest) (fun hr => hlast (htoken.mpr hr)) hcursor hflag hfuel'
        refine ⟨r, t, ?_, ?_⟩
        · rw [executeLoop, hans, DataQuery.executeTurn_again env s.query hrows hlast]
          exact hloop
        · cases hstarts with
          | empty hr hnone hc => exact .empty hr (hdelivered.trans hnone) hc
          | page hr hfirst hpending hserving hmeta hcounter =>
            refine .page hr ?_ (hdelivered.trans hpending) hserving hmeta hcounter
            rw [List.dropWhile_cons_of_pos (by simp [hrows])]
            exact hfirst
    · have hdelivered := deliveredRows_cons_of_rows pages hrows
      have hplaced := TimestreamCursor.wellPlaced_ofRows (γ := γ) page.rows
      have hfirst : (page :: pages).dropWhile (·.rows.isEmpty) = page :: pages :=
        List.dropWhile_cons_of_neg (by simpa using hrows)
      by_cases hlast : page.nextToken = ""
      · obtain rfl := htoken.mp hlast
        refine ⟨(.aiSuccess, []), { s.send s.query.request with
          query := s.query.onFirstPage page }, ?_,
          .page rfl hfirst hdelivered ?_ (DataQuery.resultMeta_onFirstPage page) ?_⟩
        · rw [executeLoop, hans, DataQuery.executeTurn_page env s.query hrows hlast]
        · exact ⟨rfl, hplaced, by simp [DataQuery.onFirstPage, hflag], by simp⟩
        · simp [DataQuery.onFirstPage]
      · have hmore : pages ≠ [] := fun hr => hlast (htoken.mpr hr)
        refine ⟨(.aiSuccess, []), prefetch env { s.send s.query.request with
            query := { s.query.setNextToken page.nextToken with
              hasAsyncFetch := true }.onFirstPage page },
          ?_, .page rfl hfirst hdelivered ?_ ?_ ?_⟩
        · rw [executeLoop, hans, DataQuery.executeTurn_page_token env s.query hrows hlast]
        · refine ⟨rfl, hplaced, by simpa [prefetch, DataQuery.onFirstPage] using hmore, ?_⟩
          rintro page' rest' rfl
          obtain ⟨hans', htoken', hrest'⟩ := hrest
          refine ⟨?_, htoken', ?_⟩
          · simp [prefetch, send, hans']
          · simpa [prefetch, send] using hrest'
        · exact fun h => DataQuery.resultMeta_onFirstPage page h
        · simp [prefetch, DataQuery.onFirstPage, DataQuery.setNextToken]

/-- It will deliver the rows of the pages. -/
lemma executeLoop_delivers {env : QueryEnv δ γ B} {pages : List (QueryResult δ γ)}
    {s : SyncQuery δ γ} (hpages : Serves env s.sent.length pages) (hne : pages ≠ [])
    (hcursor : s.query.cursor = none) (hflag : s.query.hasAsyncFetch = false) :
    ∃ fuel r t, executeLoop env fuel s = some (r, t) ∧ Delivers env t (deliveredRows pages) := by
  obtain ⟨r, t, hloop, hstarts⟩ := executeLoop_starts hpages hne hcursor hflag le_rfl
  refine ⟨pages.length, r, t, hloop, ?_⟩
  cases hstarts with
  | empty _ hnone hc => exact .inl ⟨hc, hnone⟩
  | page _ _ hdelivered hserving => exact .inr ⟨_, _, hserving, hdelivered.symm⟩

/-- A new query whose request was prepared. -/
def prepared (env : QueryEnv δ γ B) : SyncQuery δ γ :=
  { (new : SyncQuery δ γ) with
    query := { (DataQuery.new : DataQuery δ γ) with
      request := DataQuery.prepareRequest env (DataQuery.new : DataQuery δ γ).request } }

/-- The execution of a new query reaches the first page with rows, or the end of the result. -/
lemma execute_starts {env : QueryEnv δ γ B} {pages : List (QueryResult δ γ)}
    (hpages : Serves env 0 pages) (hne : pages ≠ []) {fuel : ℕ} (hfuel : pages.length ≤ fuel) :
    ∃ r t, execute env fuel .new = some (r, t) ∧ Starts env (prepared env) pages r t :=
  executeLoop_starts (s := prepared env) hpages hne rfl rfl hfuel

end SyncQuery

/-! ## Runs -/

/-- The row a call positioned the cursor on. -/
def Return.row (r : Return δ γ B) : Option (List δ) :=
  match r.reply with
  | .fetched fetched => fetched.row
  | _ => none

/-- The calls end with their first `AI_NO_DATA`. -/
def UntilNoData : List (Return δ γ B) → Prop
  | [] => False
  | r :: rs => if r.isNoData then rs = [] else UntilNoData rs

namespace System

/-- Fetches up to the first `AI_NO_DATA` position on the rows to be delivered, each once. -/
lemma filterMap_row_of_performsAll {env : QueryEnv δ γ B} {rs : List (Return δ γ B)}
    {s t : SyncQuery δ γ} {rows : List (List δ)} (hperf : PerformsAll env s rs t)
    (hops : ∀ r ∈ rs, ∃ b, r.op = .fetchNextRow b) (hend : UntilNoData rs)
    (hdelivers : s.Delivers env rows) : rs.filterMap Return.row = rows := by
  induction rs generalizing s rows with
  | nil => exact absurd hend id
  | cons r rs ih =>
    obtain ⟨u, hr, -, hall⟩ := hperf
    obtain ⟨b, hb⟩ := hops r (by simp)
    rw [hb] at hr
    obtain ⟨f, hfetch, hreply⟩ := hr
    obtain ⟨f', t', hfetch', hgives⟩ := SyncQuery.fetchNextRow_delivers b hdelivers
    obtain ⟨rfl, rfl⟩ : f = f' ∧ u = t' := by simpa [hfetch] using hfetch'
    have hrow : r.row = f.row := by simp [Return.row, hreply]
    have hdata : r.isNoData = decide (f.result = some .aiNoData) := by
      simp [Return.isNoData, hreply]
    unfold UntilNoData at hend
    cases rows with
    | nil =>
      obtain ⟨hres, hnone⟩ := hgives
      rw [hdata, hres] at hend
      simp only [decide_true, if_true] at hend
      simp [hend, hrow, hnone]
    | cons row rows =>
      obtain ⟨hres, hsome, hnext⟩ := hgives
      rw [hdata, decide_eq_false hres, if_neg (by simp)] at hend
      rw [List.filterMap_cons, hrow, hsome,
        ih hall (fun r' hr' => hops r' (List.mem_cons_of_mem _ hr')) hend hnext]

/-- One fetch can be called and brought to its end, and gives what the query delivers. -/
lemma exists_fetch {env : QueryEnv δ γ B} (b : ColumnBindingMap B) {s : System δ γ B}
    {rows : List (List δ)} (h : FirstRun s) (hpc : s.pc = .idle)
    (hdelivers : (s.settled env).Delivers env rows) :
    ∃ acts s' r f, (∀ op, .call op ∈ acts → ∃ b, op = .fetchNextRow b) ∧
      run (step env) s acts = some s' ∧ s'.pc = .idle ∧ FirstRun s' ∧
      s'.returns = s.returns ++ [r] ∧ r.isNoData = decide (f.result = some .aiNoData) ∧
      SyncQuery.FetchGives env f (s'.settled env) rows := by
  obtain ⟨f₀, t₀, hfetch₀, -⟩ := SyncQuery.fetchNextRow_delivers b hdelivers
  have hcall : s.FirstRunCall (.fetchNextRow b) := .inl ⟨b, rfl⟩
  obtain ⟨acts, s', hacts, hrun, hidle⟩ := h.call_completes hpc hcall ⟨f₀, hfetch₀, rfl⟩
  have hfetches : ∀ op, .call op ∈ Action.call (.fetchNextRow b) :: acts →
      ∃ b, op = .fetchNextRow b := by
    intro op hop
    rcases List.mem_cons.mp hop with hop | hop
    · cases hop; exact ⟨b, rfl⟩
    · exact absurd hop (hacts op)
  obtain ⟨rs, hreturns, hperf, -⟩ := h.run_refines hfetches hrun hidle
  obtain ⟨hops, hall⟩ := hperf hpc
  have hlength := h.returns_call hcall hacts hrun hidle
  rw [hreturns, List.length_append, Nat.add_left_cancel_iff, List.length_eq_one_iff] at hlength
  obtain ⟨r, rfl⟩ := hlength
  obtain ⟨u, hr, -, hu⟩ := hall
  obtain ⟨b', hb'⟩ := hops r (by simp)
  rw [hb'] at hr
  obtain ⟨f, hfetch, hreply⟩ := hr
  obtain ⟨f', t', hfetch', hgives⟩ := SyncQuery.fetchNextRow_delivers b' hdelivers
  obtain ⟨rfl, rfl⟩ : f = f' ∧ u = t' := by simpa [hfetch] using hfetch'
  refine ⟨_, s', r, f, hfetches, hrun, hidle, h.of_run hfetches hrun, hreturns, ?_, ?_⟩
  · simp [Return.isNoData, hreply]
  · rw [← show u = s'.settled env from hu]
    exact hgives

/-- From an idle state the fetches can be continued up to `AI_NO_DATA`. -/
lemma exists_untilNoData {env : QueryEnv δ γ B} {s : System δ γ B} {rows : List (List δ)}
    (h : FirstRun s) (hpc : s.pc = .idle) (hdelivers : (s.settled env).Delivers env rows) :
    ∃ acts s' rs, (∀ op, .call op ∈ acts → ∃ b, op = .fetchNextRow b) ∧
      run (step env) s acts = some s' ∧ s'.pc = .idle ∧ s'.returns = s.returns ++ rs ∧
      UntilNoData rs := by
  induction rows generalizing s with
  | nil =>
    obtain ⟨acts, s', r, f, hacts, hrun, hidle, -, hreturns, hdata, hres, -⟩ :=
      exists_fetch (fun _ => none) h hpc hdelivers
    refine ⟨acts, s', [r], hacts, hrun, hidle, hreturns, ?_⟩
    simp [UntilNoData, hdata, hres]
  | cons row rows ih =>
    obtain ⟨acts, s', r, f, hacts, hrun, hidle, hs', hreturns, hdata, hres, -, hnext⟩ :=
      exists_fetch (fun _ => none) h hpc hdelivers
    obtain ⟨acts', t, rs, hacts', hrun', hidle', hreturns', hend⟩ := ih hs' hidle hnext
    refine ⟨acts ++ acts', t, r :: rs, ?_, run_append_eq_some.mpr ⟨s', hrun, hrun'⟩, hidle', ?_, ?_⟩
    · intro op hop
      rcases List.mem_append.mp hop with hop | hop
      · exact hacts op hop
      · exact hacts' op hop
    · rw [hreturns', hreturns]; simp
    · simp [UntilNoData, hdata, hres, hend]

/-! ## The contract -/

/-- An execution followed by fetches up to the first `AI_NO_DATA` positions the cursor on exactly
these rows, in this order, under every interleaving; and such a run exists. -/
def FetchesExactly (env : QueryEnv δ γ B) (rows : List (List δ)) : Prop :=
  (∀ (acts : List (Action B)) (s : System δ γ B),
    (∀ op, .call op ∈ acts → ∃ b, op = .fetchNextRow b) →
    run (step env) .new (.call .execute :: acts) = some s → s.pc = .idle →
    UntilNoData s.returns.tail → s.returns.filterMap Return.row = rows) ∧
  ∃ (acts : List (Action B)) (s : System δ γ B),
    (∀ op, .call op ∈ acts → ∃ b, op = .fetchNextRow b) ∧
    run (step env) .new (.call .execute :: acts) = some s ∧ s.pc = .idle ∧
    UntilNoData s.returns.tail

/-- What is fetched from a paged result. -/
theorem fetchesExactly_deliveredRows {env : QueryEnv δ γ B} {pages : List (QueryResult δ γ)}
    (hne : pages ≠ []) (hpages : Serves env 0 pages) :
    FetchesExactly env (deliveredRows pages) := by
  -- the execution of the whole operation, on the new query
  obtain ⟨fuel, x, t, hloop, hdelivers⟩ := SyncQuery.executeLoop_delivers
    (s := { (SyncQuery.new : SyncQuery δ γ) with query := { DataQuery.new with
      request := DataQuery.prepareRequest env DataQuery.new.request } }) hpages hne rfl rfl
  have hexec : SyncQuery.new.execute env fuel = some (x, t) := hloop
  have hunique : ∀ reply u, Performs env .new .execute reply u →
      u.Delivers env (deliveredRows pages) ∧ ∃ result records, reply = .result result records := by
    rintro reply u ⟨fuel', x', hexec', rfl⟩
    have hloop' := SyncQuery.executeLoop_unique (x := (x, t)) (y := (x', u)) hloop hexec'
    obtain ⟨rfl, rfl⟩ := Prod.mk.inj hloop'
    exact ⟨hdelivers, x.1, x.2, rfl⟩
  refine ⟨fun acts s hacts hrun hidle hend => ?_, ?_⟩
  · obtain ⟨r, rs, hreturns, hop, hops, hall⟩ := first_run_refines env hacts hrun hidle
    rw [hreturns] at hall hend ⊢
    obtain ⟨u, hr, -, hall⟩ := hall
    rw [hop] at hr
    obtain ⟨hu, result, records, hreply⟩ := hunique _ _ hr
    have hrow : r.row = none := by simp [Return.row, hreply]
    rw [List.filterMap_cons, hrow]
    exact filterMap_row_of_performsAll hall hops hend hu
  · have hcall : FirstRunCall (System.new : System δ γ B) .execute := .inr ⟨rfl, rfl⟩
    obtain ⟨acts, s, hacts, hrun, hidle⟩ := firstRun_new.call_completes rfl hcall
      ⟨fuel, x, hexec, rfl⟩
    have hnone : ∀ op, .call op ∈ acts → ∃ b : ColumnBindingMap B, op = .fetchNextRow b :=
      fun op hop => absurd hop (hacts op)
    obtain ⟨r, rs, hreturns, hop, -, hall⟩ := first_run_refines env hnone hrun hidle
    have hlength := firstRun_new.returns_call hcall hacts hrun hidle
    have hsingle : s.returns = [r] := by
      rw [hreturns] at hlength ⊢
      rw [List.eq_nil_of_length_eq_zero (Nat.succ.inj hlength)]
    rw [hsingle] at hall
    obtain ⟨u, hr, -, hu⟩ := hall
    rw [hop] at hr
    have hs : FirstRun s := by
      obtain ⟨v, hv, hrest⟩ := run_cons_eq_some.mp hrun
      exact (firstRun_step firstRun_new (fun op hop => by cases hop; exact hcall)
        (step_of_eq_some hv)).of_run hnone hrest
    have hdelivers' := (hunique _ _ hr).1
    rw [show u = s.settled env from hu] at hdelivers'
    obtain ⟨acts', t', rs', hacts', hrun', hidle', hreturns', hend⟩ :=
      exists_untilNoData hs hidle hdelivers'
    refine ⟨acts ++ acts', t', fun op hop => ?_, ?_, hidle', ?_⟩
    · rcases List.mem_append.mp hop with hop | hop
      · exact hnone op hop
      · exact hacts' op hop
    · exact run_append_eq_some.mpr ⟨s, hrun, hrun'⟩
    · rw [hreturns', hsingle]
      exact hend

/-- The condition under which paging loses nothing: once a page with rows was followed by a page
without rows, no page has rows. -/
def NoRowsAfterGap (pages : List (QueryResult δ γ)) : Prop :=
  ∀ rows ∈ ((pages.map QueryResult.rows).dropWhile List.isEmpty).dropWhile (!·.isEmpty), rows = []

/-- The rows that are fetched are determined by the service. -/
lemma fetchesExactly_iff {env : QueryEnv δ γ B} (pages : List (QueryResult δ γ))
    {rows : List (List δ)} (hne : pages ≠ []) (hpages : Serves env 0 pages) :
    FetchesExactly env rows ↔ rows = deliveredRows pages := by
  have h := fetchesExactly_deliveredRows hne hpages
  constructor
  · rintro ⟨hrows, acts, s, hacts, hrun, hidle, hend⟩
    rw [← hrows acts s hacts hrun hidle hend, h.1 acts s hacts hrun hidle hend]
  · rintro rfl
    exact h

/-- All rows are those delivered followed by those after the first gap. -/
lemma flatten_rows_eq (pages : List (QueryResult δ γ)) :
    (pages.map QueryResult.rows).flatten = deliveredRows pages ++
      (((pages.map QueryResult.rows).dropWhile List.isEmpty).dropWhile (!·.isEmpty)).flatten := by
  have hleading : ((pages.map QueryResult.rows).takeWhile List.isEmpty).flatten = [] :=
    List.flatten_eq_nil_iff.mpr fun rows hrows =>
      List.isEmpty_iff.mp (List.mem_takeWhile_imp hrows)
  have hsplit := List.takeWhile_append_dropWhile (p := List.isEmpty)
    (l := pages.map QueryResult.rows)
  have hsplit' := List.takeWhile_append_dropWhile (p := fun rows => !rows.isEmpty)
    (l := (pages.map QueryResult.rows).dropWhile List.isEmpty)
  conv_lhs => rw [← hsplit, List.flatten_append, hleading, List.nil_append, ← hsplit']
  exact List.flatten_append

/-- Paging delivers the whole result exactly once if and only if no page with rows follows a page
without rows that follows a page with rows. -/
theorem paging_exactly_once_iff {env : QueryEnv δ γ B} (pages : List (QueryResult δ γ))
    (hne : pages ≠ []) (hpages : Serves env 0 pages) :
    FetchesExactly env (pages.map QueryResult.rows).flatten ↔ NoRowsAfterGap pages := by
  rw [fetchesExactly_iff pages hne hpages, flatten_rows_eq, List.append_right_eq_self,
    List.flatten_eq_nil_iff]
  rfl

/-- The contract at two pages with rows between empty pages. -/
theorem paging_exactly_once_two_pages :
    FetchesExactly (scriptedEnv
        [samplePage [] "a", samplePage [1, 2] "b", samplePage [3] "c", samplePage [] ""])
      [[1], [2], [3]] :=
  (paging_exactly_once_iff
      [samplePage [] "a", samplePage [1, 2] "b", samplePage [3] "c", samplePage [] ""]
    (by simp) (by simp [Serves, scriptedEnv, scriptedService, samplePage])).mpr
    (by simp [NoRowsAfterGap, samplePage])

/-- With a page without rows between two pages with rows, the last row is never fetched. -/
theorem not_fetchesExactly_empty_middle_page :
    ¬ FetchesExactly (scriptedEnv [samplePage [1] "a", samplePage [] "b", samplePage [2] ""])
      [[1], [2]] := by
  rw [fetchesExactly_iff [samplePage [1] "a", samplePage [] "b", samplePage [2] ""] (by simp)
     (by simp [Serves, scriptedEnv, scriptedService, samplePage])]
  simp [deliveredRows, samplePage]

end System

end TimestreamOdbc
