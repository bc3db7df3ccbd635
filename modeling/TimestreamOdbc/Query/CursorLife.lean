import TimestreamOdbc.Query.FailedPage
import TimestreamOdbc.Query.QueryClass

/-!
# The cursor after a call

What an execution, a fetch and a close of a data query leave behind under every interleaving with
its workers.  The cursor exists after an execution that found rows, it is lost to a failed page, and
a close takes it away.  Inside a call the position of the main thread says which call it is.
-/

namespace TimestreamOdbc

open TransitionSystem

variable {δ γ B : Type}

namespace System

/-- What the return of a call says about the cursor. -/
def Leaves (s : System δ γ B) (r : Return δ γ B) : Prop :=
  match r.op, r.reply with
  | .execute, .result result _ =>
    result ≠ .aiSuccessWithInfo ∧ (result = .aiSuccess → s.query.cursor.isSome)
  | .fetchNextRow _, .fetched f => s.query.cursor.isSome ∨ f.result = some .aiError ∧ f.row = none
  | .close, .result result records =>
    result = .aiSuccess ∧ records = [] ∧ s.query.cursor = none
  | _, _ => False

/-- A call is in progress, and if it is a fetch the cursor is there; or it has returned. -/
def Performing (op : Op B) (returns : List (Return δ γ B)) (s : System δ γ B) : Prop :=
  s.pc.op = some op ∧ s.returns = returns ∧
      ((∃ b, op = .fetchNextRow b) → s.query.cursor.isSome) ∨
    s.pc = .idle ∧ ∃ r, s.returns = returns ++ [r] ∧ r.op = op ∧ s.Leaves r

section Performing

variable {env : QueryEnv δ γ B} {op : Op B} {returns : List (Return δ γ B)} {s s' : System δ γ B}

/-- The call goes on. -/
lemma Performing.goOn (hpc : s.pc.op = some op) (hreturns : s.returns = returns)
    (hcursor : (∃ b, op = .fetchNextRow b) → s.query.cursor.isSome) : Performing op returns s :=
  .inl ⟨hpc, hreturns, hcursor⟩

/-- The call returns. -/
lemma Performing.finish {reply : Reply δ γ B} (hreturns : s.returns = returns)
    (hleaves : (s.finish op reply).Leaves ⟨op, reply, s.query.rowNumber⟩) :
    Performing op returns (s.finish op reply) := by
  refine .inr ⟨rfl, _, ?_, rfl, hleaves⟩
  rw [← hreturns]
  rfl

/-- A fetch that reads a row keeps the cursor. -/
lemma Performing.finishRow {b : ColumnBindingMap B} (hreturns : s.returns = returns)
    (hcursor : s.query.cursor.isSome) :
    Performing (.fetchNextRow b) returns (s.finishRow env b) := by
  refine .inr ⟨rfl, ⟨.fetchNextRow b, .fetched (s.query.readRow env b).1,
    (s.query.readRow env b).2.rowNumber⟩, ?_, rfl, .inl ?_⟩
  · rw [← hreturns]
    rfl
  · obtain ⟨c, hc⟩ := Option.isSome_iff_exists.mp hcursor
    obtain ⟨-, columns, hread⟩ := s.query.readRow_row env b hc
    simp [System.finishRow, System.finish, hread]

/-- A close ends inside the call. -/
lemma Performing.endClose {next : AfterClose} (hpc : s.pc = .closing next)
    (hop : op = .execute ∨ op = .close) (hcall : s.pc.op = some op) (hreturns : s.returns = returns) :
    Performing op returns (s.endClose next) := by
  rw [hpc] at hcall
  rcases next with _ | record | _ | _ | record | _
  · cases hcall
    exact .goOn rfl hreturns (by simp)
  · cases hcall
    exact .finish hreturns (by simp [Leaves])
  · cases hcall
    rcases hop with hop | hop <;> cases hop
  · cases hcall
    exact .finish hreturns (by simp [Leaves, System.finish, DataQuery.released])
  · cases hcall
    rcases hop with hop | hop <;> cases hop
  · cases hcall
    rcases hop with hop | hop <;> cases hop

/-- A step inside the call or of a worker goes on with the call, or the call returns. -/
lemma performing_step {a : Action B} (ha : a.Internal)
    (hop : op = .execute ∨ op = .close ∨ ∃ b, op = .fetchNextRow b)
    (h : Performing op returns s) (hstep : Step env s a s') : Performing op returns s' := by
  rcases h with ⟨hcall, hreturns, hcursor⟩ | ⟨hidle, r, hreturns, hr, hleaves⟩
  · cases hstep with
    | executeClose | executeStart | fetchNoCursor | fetchRow | fetchSwitch | fetchEnd
    | cancelRequest | cancelFail | cancelClose | close | metaKnown | metaRequest | destroyClose
    | destroy => exact absurd ha id
    | answered | push | drop | park => exact .goOn hcall hreturns hcursor
    | closeJoin next threads hpc hthreads =>
      rw [hpc] at hcall
      exact .goOn hcall hreturns hcursor
    | closeEnd next hpc hthreads =>
      refine .endClose hpc ?_ hcall hreturns
      rcases hop with rfl | rfl | ⟨b, rfl⟩
      · exact .inl rfl
      · exact .inr rfl
      · rw [hpc] at hcall
        rcases next with _ | _ | _ | _ | _ | _ <;> cases hcall
    | prepare hpc | executeFailed _ hpc | executeAgain _ hpc =>
      rw [hpc] at hcall
      cases hcall
      exact .goOn (by simp [Pc.op, hpc, beginClose]) hreturns (by simp)
    | executeEmpty _ hpc =>
      rw [hpc] at hcall
      cases hcall
      exact .finish hreturns (by simp [Leaves])
    | executePage _ hpc | executePageToken _ hpc =>
      rw [hpc] at hcall
      cases hcall
      exact .finish hreturns (by simp [Leaves, System.finish, startWorker, DataQuery.onFirstPage])
    | switchFailed b _ _ hpc =>
      rw [hpc] at hcall
      cases hcall
      exact .finish hreturns (.inr ⟨rfl, rfl⟩)
    | switchEmpty b _ _ hpc =>
      rw [hpc] at hcall
      cases hcall
      exact .finish hreturns (.inl (hcursor ⟨b, rfl⟩))
    | switchLast b _ _ hpc =>
      rw [hpc] at hcall
      cases hcall
      exact .finishRow hreturns (by simp [DataQuery.onNextPage])
    | switchMore b _ _ hpc =>
      rw [hpc] at hcall
      cases hcall
      exact .goOn rfl hreturns (by simp [DataQuery.onNextPage])
    | joinPrevious b _ _ hpc =>
      rw [hpc] at hcall
      cases hcall
      exact .goOn rfl hreturns hcursor
    | startNext b _ hpc =>
      rw [hpc] at hcall
      cases hcall
      exact .finishRow hreturns (hcursor ⟨b, rfl⟩)
    | metaFailed _ _ hpc | metaAnswer _ _ hpc | cancelAnswerClose hpc | cancelAnswerFail _ hpc =>
      rw [hpc] at hcall
      cases hcall
      rcases hop with hop | hop | ⟨b, hop⟩ <;> cases hop
  · cases hstep with
    | answered | push | drop | park => exact .inr ⟨hidle, r, hreturns, hr, hleaves⟩
    | closeJoin _ _ hpc | closeEnd _ hpc | prepare hpc | executeFailed _ hpc | executeEmpty _ hpc
    | executePage _ hpc | executeAgain _ hpc | executePageToken _ hpc | joinPrevious _ _ _ hpc
    | startNext _ _ hpc | switchFailed _ _ _ hpc | switchEmpty _ _ _ hpc | switchLast _ _ _ hpc
    | switchMore _ _ _ hpc | metaFailed _ _ hpc | metaAnswer _ _ hpc | cancelAnswerClose hpc
    | cancelAnswerFail _ hpc =>
      rw [hidle] at hpc
      cases hpc
    | _ => exact absurd ha id

/-- The beginning of an execution, of a close, or of a fetch from a cursor. -/
lemma performing_call
    (hop : op = .execute ∨ op = .close ∨ (∃ b, op = .fetchNextRow b) ∧ s.query.cursor.isSome)
    (hstep : Step env s (.call op) s') : Performing op s.returns s' := by
  rcases hop with rfl | rfl | ⟨⟨b, rfl⟩, hcursor⟩
  · cases hstep with
    | executeClose => exact .goOn rfl rfl (by simp)
    | executeStart => exact .goOn rfl rfl (by simp)
  · cases hstep with
    | close => exact .goOn rfl rfl (by simp)
  · cases hstep with
    | fetchNoCursor b hpc hc => simp [hc] at hcursor
    | fetchRow b c hpc hc hmore => exact .finishRow rfl rfl
    | fetchSwitch b c hpc hc hmore hflag => exact .goOn rfl rfl fun _ => rfl
    | fetchEnd b c hpc hc hmore hflag => exact .finish rfl (.inl rfl)

/-- Between two calls the workers leave the cursor and the returns alone. -/
lemma idle_step {a : Action B} (ha : a.Internal) (hpc : s.pc = .idle) (hstep : Step env s a s') :
    s'.pc = .idle ∧ s'.returns = s.returns ∧ s'.query.cursor = s.query.cursor := by
  cases hstep with
  | answered | push | drop | park => exact ⟨hpc, rfl, rfl⟩
  | closeJoin _ _ h | closeEnd _ h | prepare h | executeFailed _ h | executeEmpty _ h
  | executePage _ h | executeAgain _ h | executePageToken _ h | joinPrevious _ _ _ h
  | startNext _ _ h | switchFailed _ _ _ h | switchEmpty _ _ _ h | switchLast _ _ _ h
  | switchMore _ _ _ h | metaFailed _ _ h | metaAnswer _ _ h | cancelAnswerClose h
  | cancelAnswerFail _ h =>
    rw [hpc] at h
    cases h
  | _ => exact absurd ha id

/-- A run between two calls leaves the cursor and the returns alone. -/
lemma idle_run {acts : List (Action B)} (hacts : ∀ a ∈ acts, a.Internal) (hpc : s.pc = .idle)
    (hrun : run (step env) s acts = some s') :
    s'.pc = .idle ∧ s'.returns = s.returns ∧ s'.query.cursor = s.query.cursor := by
  refine invariant_run_of (I := fun t => t.pc = .idle ∧ t.returns = s.returns ∧
    t.query.cursor = s.query.cursor) ?_ hacts ⟨hpc, rfl, rfl⟩ hrun
  rintro t a t' ha ⟨hpc, hreturns, hcursor⟩ hstep
  obtain ⟨hpc', hreturns', hcursor'⟩ := idle_step ha hpc (step_of_eq_some hstep)
  exact ⟨hpc', hreturns'.trans hreturns, hcursor'.trans hcursor⟩

/-- A call that ran to its end has returned, and its return says what it left. -/
lemma exists_return_of_call {acts : List (Action B)}
    (hop : op = .execute ∨ op = .close ∨ (∃ b, op = .fetchNextRow b) ∧ s.query.cursor.isSome)
    (hacts : ∀ a ∈ acts, a.Internal) (hrun : run (step env) s (.call op :: acts) = some s')
    (hidle : s'.pc = .idle) :
    ∃ r, s'.returns.getLast? = some r ∧ r.op = op ∧ s'.Leaves r := by
  obtain ⟨u, hu, hrest⟩ := run_cons_eq_some.mp hrun
  have hcall := performing_call hop (step_of_eq_some hu)
  have hop' : op = .execute ∨ op = .close ∨ ∃ b, op = .fetchNextRow b := by
    rcases hop with hop | hop | ⟨hop, -⟩
    · exact .inl hop
    · exact .inr (.inl hop)
    · exact .inr (.inr hop)
  have hend : Performing op s.returns s' := by
    refine invariant_run_of ?_ hacts hcall hrest
    intro t a t' ha ht hstep
    exact performing_step ha hop' ht (step_of_eq_some hstep)
  rcases hend with ⟨hcall, -, -⟩ | ⟨-, r, hreturns, hr, hleaves⟩
  · rw [hidle] at hcall
    cases hcall
  · refine ⟨r, ?_, hr, hleaves⟩
    rw [hreturns]
    exact List.getLast?_concat

end Performing

end System

/-! ## Reading a column -/

/-- Which cursor there is plays no part in the order of the workers. -/
lemma System.SingleFlight.withCursor {s : System δ γ B} (h : s.SingleFlight)
    (cursor : Option (TimestreamCursor δ γ)) :
    System.SingleFlight { s with query := { s.query with cursor } } where
  threads_le := h.threads_le
  queue_le := h.queue_le
  noParked := h.noParked
  noWorker := h.noWorker
  noResult := h.noResult
  exclusive := h.exclusive
  noThread := h.noThread
  joined := h.joined
  closing := h.closing
  switching := h.switching

/-- Reading a column neither makes nor loses a cursor. -/
lemma DataQuery.getColumn_cursor (env : QueryEnv δ γ B) (columnIdx : ℕ) (buffer : B)
    (q : DataQuery δ γ) :
    ∃ cursor, (q.getColumn env columnIdx buffer).2.2.2 = { q with cursor } ∧
      cursor.isSome = q.cursor.isSome ∧
      (q.cursor = none → (q.getColumn env columnIdx buffer).2.2.1 = buffer) := by
  unfold getColumn
  split
  · next hc => exact ⟨none, by rw [← hc], by rw [hc], fun _ => rfl⟩
  · next cursor hc =>
    split
    · exact ⟨some cursor, by rw [← hc], by rw [hc], fun _ => rfl⟩
    · split
      · next cursor' _ => exact ⟨some cursor', rfl, by rw [hc]; rfl, by simp [hc]⟩
      · next cursor' _ => exact ⟨some cursor', rfl, by rw [hc]; rfl, by simp [hc]⟩

/-- Reading a column of a data query neither makes nor loses a cursor, and puts nothing without
one. -/
lemma DataSource.getColumn_eq_some (source : DataSource δ γ) {columnIdx : ℕ}
    {buffer : ApplicationDataBuffer} {q q' : DataQuery (Option δ) γ} {read : ColumnRead}
    (h : source.getColumn columnIdx buffer q = some (read, q')) :
    ∃ cursor, q' = { q with cursor } ∧ cursor.isSome = q.cursor.isSome ∧
      (q.cursor.isSome = false → read.put = none) := by
  obtain ⟨cursor, hquery, hsome, hbuffer⟩ :=
    q.getColumn_cursor source.env columnIdx (.ofBuffer buffer)
  unfold getColumn at h
  split at h
  · cases h
  · next result records b q'' hread =>
    cases h
    rw [hread] at hquery hbuffer
    refine ⟨cursor, hquery, hsome, ?_⟩
    intro hnone
    have hb : b = .ofBuffer buffer := hbuffer (by simpa using hnone)
    rw [hb]
    rfl

/-! ## The calls of an interleaved query -/

namespace InterleavedQuery

/-- Between two calls of a query whose workers are in order. -/
structure Ready (q : InterleavedQuery δ γ) : Prop where
  pc : q.system.pc = .idle
  flight : System.SingleFlight q.system

/-- A new query. -/
def new (source : DataSource δ γ) (schedule : ℕ → List Thread) : InterleavedQuery δ γ :=
  { source, schedule, system := .new }

/-- A new query is ready. -/
lemma ready_new (source : DataSource δ γ) (schedule : ℕ → List Thread) :
    (new source schedule).Ready :=
  ⟨rfl, System.singleFlight_new⟩

section Calls

variable {q q' : InterleavedQuery δ γ}

/-- The steps of threads are internal. -/
lemma internal_of_mem_threads {threads : List Thread} {a : Action ColumnBinding}
    (ha : a ∈ threads.map Thread.action) : a.Internal := by
  obtain ⟨thread, -, rfl⟩ := List.mem_map.mp ha
  cases thread <;> trivial

/-- A call is a run of the query up to the end of the call. -/
lemma perform_eq_some {op : Op ColumnBinding} {reply : Reply (Option δ) γ ColumnBinding}
    (h : q.perform op = some (reply, q')) :
    ∃ acts system r, (∀ a ∈ acts, Action.Internal a) ∧
      run (System.step q.source.env) q.system (.call op :: acts) = some system ∧
      system.pc = .idle ∧ system.returns.getLast? = some r ∧ reply = r.reply ∧
      q' = { q with system } := by
  obtain ⟨system, hrun, hend⟩ := Option.bind_eq_some_iff.mp h
  split at hend
  · next hpc =>
    obtain ⟨r, hr, hreply⟩ := Option.map_eq_some_iff.mp hend
    cases hreply
    exact ⟨_, system, r, fun a ha => internal_of_mem_threads ha, hrun, hpc, hr, rfl, rfl⟩
  · cases hend

/-- A query is ready after a call. -/
lemma Ready.perform (h : q.Ready) {op : Op ColumnBinding}
    {reply : Reply (Option δ) γ ColumnBinding} (hperform : q.perform op = some (reply, q')) :
    q'.Ready := by
  obtain ⟨acts, system, r, -, hrun, hpc, -, -, rfl⟩ := perform_eq_some hperform
  refine ⟨hpc, ?_⟩
  apply invariant_run _ h.flight hrun
  intro s a s' hs hstep
  exact System.singleFlight_step hs (System.step_of_eq_some hstep)

/-- After an execution that found rows the cursor is there. -/
lemma Ready.execute (h : q.Ready) {result : SqlResult} {records : List DiagnosticRecord}
    (hexecute : q.execute = some ((result, records), q')) :
    q'.Ready ∧ result ≠ .aiSuccessWithInfo ∧ (result = .aiSuccess → q'.dataAvailable = true) := by
  unfold InterleavedQuery.execute at hexecute
  split at hexecute
  · next result records q' hperform =>
    cases hexecute
    obtain ⟨acts, system, r, hacts, hrun, hpc, hlast, hreply, rfl⟩ := perform_eq_some hperform
    obtain ⟨r', hr', hop, hleaves⟩ := System.exists_return_of_call (.inl rfl) hacts hrun hpc
    cases hlast.symm.trans hr'
    unfold System.Leaves at hleaves
    rw [hop, ← hreply] at hleaves
    exact ⟨h.perform hperform, hleaves⟩
  · cases hexecute

/-- A fetch switches to a page that failed. -/
def takesFailedPage (columnBindings : ColumnBindings) (q : InterleavedQuery δ γ) : Bool :=
  match q.perform (.fetchNextRow columnBindings) with
  | some (.fetched f, _) => f.result = some .aiError && f.row.isNone
  | _ => false

/-- A fetch that does not come to a failed page keeps the cursor. -/
lemma Ready.fetchNextRow (h : q.Ready) {columnBindings : ColumnBindings} {row : FetchedRow}
    (hfetch : q.fetchNextRow columnBindings = some (row, q')) :
    q'.Ready ∧ (q.dataAvailable = true → q.takesFailedPage columnBindings = false →
      q'.dataAvailable = true) := by
  unfold InterleavedQuery.fetchNextRow at hfetch
  split at hfetch
  · next f q' hperform =>
    obtain ⟨result, hresult, hrow⟩ := Option.map_eq_some_iff.mp hfetch
    cases hrow
    refine ⟨h.perform hperform, ?_⟩
    intro hcursor htakes
    simp only [takesFailedPage, hperform] at htakes
    obtain ⟨acts, system, r, hacts, hrun, hpc, hlast, hreply, rfl⟩ := perform_eq_some hperform
    obtain ⟨r', hr', hop, hleaves⟩ :=
      System.exists_return_of_call (.inr (.inr ⟨⟨_, rfl⟩, hcursor⟩)) hacts hrun hpc
    cases hlast.symm.trans hr'
    unfold System.Leaves at hleaves
    rw [hop, ← hreply] at hleaves
    rcases hleaves with hleaves | ⟨hresult, hrow⟩
    · exact hleaves
    · simp [hresult, hrow] at htakes
  · cases hfetch

/-- A fetch without a cursor finds nothing. -/
lemma fetchNextRow_of_not_dataAvailable (hcursor : q.dataAvailable = false)
    {columnBindings : ColumnBindings} {row : FetchedRow}
    (hfetch : q.fetchNextRow columnBindings = some (row, q')) :
    q'.dataAvailable = false ∧ row.result = .aiNoData ∧ row.columnBindings = columnBindings := by
  unfold InterleavedQuery.fetchNextRow at hfetch
  split at hfetch
  · next f q' hperform =>
    obtain ⟨result, hresult, hrow⟩ := Option.map_eq_some_iff.mp hfetch
    cases hrow
    obtain ⟨acts, system, r, hacts, hrun, hpc, hlast, hreply, rfl⟩ := perform_eq_some hperform
    obtain ⟨u, hu, hrest⟩ := run_cons_eq_some.mp hrun
    have hnone : q.system.query.cursor = none := Option.not_isSome_iff_eq_none.mp (by
      simpa [InterleavedQuery.dataAvailable, DataQuery.dataAvailable] using hcursor)
    have hcases := System.step_of_eq_some hu
    cases hcases with
    | fetchNoCursor =>
      obtain ⟨-, hreturns, hcursor'⟩ := System.idle_run hacts rfl hrest
      rw [hreturns] at hlast
      have hr : r = _ := (Option.some.inj (List.getLast?_concat.symm.trans hlast)).symm
      rw [hr] at hreply
      cases hreply
      refine ⟨?_, (Option.some.inj hresult).symm, rfl⟩
      change system.query.cursor.isSome = false
      rw [hcursor']
      simp [System.finish, hnone]
    | fetchRow _ c _ hc | fetchSwitch _ c _ hc | fetchEnd _ c _ hc =>
      rw [hnone] at hc
      cases hc
  · cases hfetch

/-- A close takes the cursor away. -/
lemma Ready.close (h : q.Ready) {result : SqlResult} (hclose : q.close = some (result, q')) :
    q'.Ready ∧ result = .aiSuccess ∧ q'.dataAvailable = false := by
  unfold InterleavedQuery.close at hclose
  split at hclose
  · next result records q' hperform =>
    cases hclose
    obtain ⟨acts, system, r, hacts, hrun, hpc, hlast, hreply, rfl⟩ := perform_eq_some hperform
    obtain ⟨r', hr', hop, hleaves⟩ := System.exists_return_of_call (.inr (.inl rfl)) hacts hrun hpc
    cases hlast.symm.trans hr'
    unfold System.Leaves at hleaves
    rw [hop, ← hreply] at hleaves
    obtain ⟨hresult, -, hcursor⟩ := hleaves
    refine ⟨h.perform hperform, hresult, ?_⟩
    simp [InterleavedQuery.dataAvailable, DataQuery.dataAvailable, hcursor]
  · cases hclose

/-- Every interleaving of a close comes to its end. -/
lemma Ready.settles_close (h : q.Ready) :
    Settles (System.step q.source.env) Action.Internal System.Ended (q.system.call q.source.env .close) := by
  apply h.flight.settles_of_close (.inl rfl)
  simp only [System.step, h.pc]

/-- Reading a column leaves the cursor, and reads nothing without one. -/
lemma Ready.getColumn (h : q.Ready) {columnIdx : ℕ} {buffer : ApplicationDataBuffer}
    {read : ColumnRead} (hread : q.getColumn columnIdx buffer = some (read, q')) :
    q'.Ready ∧ q'.dataAvailable = q.dataAvailable ∧
      (q.dataAvailable = false → read.put = none) := by
  obtain ⟨⟨read, query⟩, hcolumn, hpair⟩ := Option.map_eq_some_iff.mp hread
  cases hpair
  obtain ⟨cursor, rfl, hsome, hput⟩ := q.source.getColumn_eq_some hcolumn
  exact ⟨⟨h.pc, h.flight.withCursor cursor⟩, hsome, hput⟩

end Calls

end InterleavedQuery

end TimestreamOdbc
