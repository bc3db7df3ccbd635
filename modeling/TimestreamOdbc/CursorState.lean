import TimestreamOdbc.Query.OpenCursor
import TimestreamOdbc.Rowset

/-!
# Closing a cursor once

`SQLCloseCursor` asks the current query whether data is available.  A data query answers by whether
it has a cursor, the catalog queries by whether their iterator is on a row, so that a cursor behind
the last row of a catalog query, or over an empty result, counts as closed before it was closed.  In
every run that avoids these states the cursor is open from a successful execution to its close.
-/

namespace TimestreamOdbc

open TransitionSystem

/-! ## Rowsets of exhausted and of open queries -/

section Exhausted

variable {δ γ : Type} {P : Platform}

/-- A loop over an exhausted query finds no row and writes nothing. -/
structure FindsNothing (written : ℕ → List Written)
    (l : RowsetLoop (Query (InterleavedQuery δ γ))) : Prop where
  sound : l.currentQuery.Sound
  exhausted : l.currentQuery.Exhausted
  fetched : l.fetched = 0
  rowStatuses : ∀ status ∈ l.rowStatuses, status ≠ .success ∧ status ≠ .successWithInfo
  bindings : l.columnBindings.written = written

/-- The status of a fetch that found no row. -/
lemma sqlResultToRowResult_of_not_isRow {result : SqlResult} (h : ¬ result.IsRow) :
    sqlResultToRowResult result ≠ .success ∧ sqlResultToRowResult result ≠ .successWithInfo := by
  cases result <;> simp_all [SqlResult.IsRow, sqlResultToRowResult]

/-- A turn over an exhausted query finds no row. -/
lemma FindsNothing.turn {written : ℕ → List Written} {i : ℕ}
    {l l' : RowsetLoop (Query (InterleavedQuery δ γ))} (h : FindsNothing written l)
    (hturn : l.turn (Query.interleaved P) i = some l') : FindsNothing written l' := by
  obtain ⟨⟨row, q'⟩, hrow, rfl⟩ := Option.map_eq_some_iff.mp hturn
  obtain ⟨hsound, -, hnothing⟩ := h.sound.fetchNextRow hrow
  obtain ⟨hexhausted, hresult, hbindings⟩ := hnothing h.exhausted
  refine ⟨hsound, hexhausted, ?_, ?_, ?_⟩
  · exact (if_neg hresult).trans h.fetched
  · intro status hstatus
    rcases List.mem_append.mp hstatus with hstatus | hstatus
    · exact h.rowStatuses status hstatus
    · rw [List.mem_singleton.mp hstatus]
      exact sqlResultToRowResult_of_not_isRow hresult
  · dsimp only
    rw [hbindings, ColumnBindings.written_setElementOffset]
    exact h.bindings

/-- A fetch of a rowset from an exhausted query finds no row. -/
lemma fetchRowset_of_exhausted {size byteOffset : ℕ} {columnBindings columnBindings' : ColumnBindings}
    {q q' : Query (InterleavedQuery δ γ)} {reply : RowsetReply} (hq : q.Sound)
    (hexhausted : q.Exhausted)
    (h : fetchRowset (Query.interleaved P) size byteOffset columnBindings q =
      some (reply, columnBindings', q')) :
    q'.Exhausted ∧ reply.rowsFetched = some 0 ∧ ¬ reply.result.IsRow ∧
      (∀ status ∈ reply.rowStatuses, status ≠ .success ∧ status ≠ .successWithInfo) ∧
      columnBindings'.written = columnBindings.written := by
  obtain ⟨l, hturns, hx⟩ := Option.map_eq_some_iff.mp h
  cases hx
  have hstart : FindsNothing columnBindings.written
      (⟨0, 0, [], [], columnBindings.setByteOffset byteOffset, q⟩ : RowsetLoop _) :=
    ⟨hq, hexhausted, rfl, by simp, ColumnBindings.written_setByteOffset byteOffset columnBindings⟩
  have hend : FindsNothing columnBindings.written l :=
    RowsetLoop.turns_invariant (fun i l l' hl hturn => hl.turn hturn) hstart hturns
  refine ⟨hend.exhausted, congrArg some hend.fetched, ?_, hend.rowStatuses, hend.bindings⟩
  unfold RowsetLoop.result
  rw [hend.fetched]
  split
  · omega
  · split <;> simp [SqlResult.IsRow]

/-- A fetch of a rowset keeps a query sound. -/
lemma sound_fetchRowset {size byteOffset : ℕ} {columnBindings columnBindings' : ColumnBindings}
    {q q' : Query (InterleavedQuery δ γ)} {reply : RowsetReply} (hq : q.Sound)
    (h : fetchRowset (Query.interleaved P) size byteOffset columnBindings q =
      some (reply, columnBindings', q')) : q'.Sound := by
  obtain ⟨l, hturns, hx⟩ := Option.map_eq_some_iff.mp h
  cases hx
  refine RowsetLoop.turns_invariant (J := fun l => l.currentQuery.Sound) ?_ hq hturns
  intro i l l' hl hturn
  obtain ⟨⟨row, q'⟩, hrow, rfl⟩ := Option.map_eq_some_iff.mp hturn
  exact (hl.fetchNextRow hrow).1

/-- The rowset of a fetch takes the cursor away. -/
def rowsetEndsCursor (P : Platform) (size byteOffset : ℕ) (columnBindings : ColumnBindings)
    (q : Query (InterleavedQuery δ γ)) : Bool :=
  RowsetLoop.anyTurn (Query.interleaved P) Query.endsCursor 0 size
    ⟨0, 0, [], [], columnBindings.setByteOffset byteOffset, q⟩

/-- A fetch of a rowset that does not take the cursor away keeps it open. -/
lemma dataAvailable_fetchRowset {size byteOffset : ℕ}
    {columnBindings columnBindings' : ColumnBindings} {q q' : Query (InterleavedQuery δ γ)}
    {reply : RowsetReply} (hq : q.Sound) (hopen : (Query.interleaved P).dataAvailable q = true)
    (hends : rowsetEndsCursor P size byteOffset columnBindings q = false)
    (h : fetchRowset (Query.interleaved P) size byteOffset columnBindings q =
      some (reply, columnBindings', q')) :
    (Query.interleaved P).dataAvailable q' = true := by
  obtain ⟨l, hturns, hx⟩ := Option.map_eq_some_iff.mp h
  cases hx
  have hboth : l.currentQuery.Sound ∧ (Query.interleaved P).dataAvailable l.currentQuery = true := by
    refine RowsetLoop.turns_of_not_anyTurn (I := fun q : Query (InterleavedQuery δ γ) =>
      q.Sound ∧ (Query.interleaved P).dataAvailable q = true) ?_ ⟨hq, hopen⟩ hends hturns
    rintro b q row q' ⟨hq, hopen⟩ hends hrow
    obtain ⟨hsound, hkeeps, -⟩ := hq.fetchNextRow hrow
    exact ⟨hsound, hkeeps hopen hends⟩
  exact hboth.2

end Exhausted

/-! ## Sessions -/

/-- What the last execution or close of a statement came to: the cursor was opened, it was closed, or
neither. -/
inductive CursorPhase where
  | unopened
  | opened
  | closed
  deriving DecidableEq, Repr

/-- A statement with the phase of its cursor as the application sees it. -/
structure CursorSession (δ γ : Type) where
  statement : Statement (Query (InterleavedQuery δ γ))
  phase : CursorPhase

/-- The queries that a call brings in were just constructed. -/
def StatementCall.BringsNew {δ γ : Type} : StatementCall (Query (InterleavedQuery δ γ)) → Prop
  | .prepare query | .execDirect query | .catalog query => query.IsNew
  | _ => True

/-- A reply delivers data: a row was fetched, or a value was put. -/
def StatementReply.Delivers : StatementReply → Prop
  | .call _ => False
  | .rowset r => r.result.IsRow ∨ (∃ n, r.rowsFetched = some (n + 1)) ∨
      ∃ status ∈ r.rowStatuses, status = .success ∨ status = .successWithInfo
  | .read r => r.put ≠ none

namespace CursorSession

variable {δ γ : Type} {P : Platform}

/-- A session with a new statement. -/
def new (descriptors : StatementDescriptors) : CursorSession δ γ :=
  { statement := .new descriptors, phase := .unopened }

/-- The phase after a call. -/
def phaseAfter (s : CursorSession δ γ) (call : StatementCall (Query (InterleavedQuery δ γ)))
    (result : SqlResult) : CursorPhase :=
  match call with
  | .prepare _ => .unopened
  | .execute | .execDirect _ | .catalog _ => if result.IsRow then .opened else .unopened
  | .closeCursor => .closed
  | .freeStmt option => if option = Statement.sqlClose then .closed else s.phase
  | _ => s.phase

/-- A call of a session. -/
def step (P : Platform) (s : CursorSession δ γ)
    (call : StatementCall (Query (InterleavedQuery δ γ))) : Option (CursorSession δ γ) :=
  (s.statement.perform (Query.interleaved P) call).map fun (reply, statement) =>
    ⟨statement, s.phaseAfter call reply.result⟩

/-- An execution of a query comes to a success without opening its cursor. -/
def succeedsUnopened (P : Platform) (query : Query (InterleavedQuery δ γ)) : Bool :=
  match (Query.interleaved P).execute query with
  | some ((result, _), _) =>
    decide (result.IsRow ∨ result = .aiNoData) && !query.opensCursor result
  | none => false

/-- A call that the cursor does not survive: an execution that succeeds without rows, and a fetch
that takes an open cursor away. -/
def losesCursor (P : Platform) (s : CursorSession δ γ)
    (call : StatementCall (Query (InterleavedQuery δ γ))) : Bool :=
  match call with
  | .execDirect query | .catalog query => succeedsUnopened P query
  | .execute => s.statement.currentQuery.any (succeedsUnopened P)
  | .fetch memory =>
    s.phase = .opened && s.statement.currentQuery.any (rowsetEndsCursor P s.statement.rowArraySize
      (s.statement.columnBindOffset.elim 0 memory) s.statement.columnBindings)
  | .fetchScroll orientation memory =>
    orientation = sqlFetchNext && s.phase = .opened && s.statement.currentQuery.any
      (rowsetEndsCursor P s.statement.rowArraySize (s.statement.columnBindOffset.elim 0 memory)
        s.statement.columnBindings)
  | .extendedFetch orientation =>
    orientation = sqlFetchNext && s.phase = .opened && s.statement.currentQuery.any
      (rowsetEndsCursor P s.statement.rowsetSize 0 s.statement.columnBindings)
  | _ => false

/-- The invariant of a session: an opened cursor has data available, and a closed one is
exhausted. -/
structure Consistent (P : Platform) (s : CursorSession δ γ) : Prop where
  sound : ∀ query, s.statement.currentQuery = some query → query.Sound
  opened : s.phase = .opened → ∃ query, s.statement.currentQuery = some query ∧
    (Query.interleaved P).dataAvailable query = true
  closed : s.phase = .closed → ∀ query, s.statement.currentQuery = some query → query.Exhausted

/-- A new session is consistent. -/
lemma consistent_new (descriptors : StatementDescriptors) :
    Consistent P (new descriptors : CursorSession δ γ) where
  sound := fun _ h => absurd h (Option.some_ne_none _).symm
  opened := fun h => absurd h CursorPhase.noConfusion
  closed := fun h => absurd h CursorPhase.noConfusion

section Steps

variable {s t : Statement (Query (InterleavedQuery δ γ))}

/-- The current query of a statement is sound. -/
def SoundStatement (s : Statement (Query (InterleavedQuery δ γ))) : Prop :=
  ∀ query, s.currentQuery = some query → query.Sound

/-- A statement with a sound query is sound. -/
lemma soundStatement_of_eq {query : Query (InterleavedQuery δ γ)} (hquery : query.Sound)
    (h : s.currentQuery = some query) : SoundStatement s := by
  intro query' hquery'
  rw [h] at hquery'
  cases hquery'
  exact hquery

/-- An execution that does not come to a success without rows opens the cursor if it succeeds. -/
lemma opens_executeQuery (hs : SoundStatement s) {reply : CallReply}
    (hloses : s.currentQuery.any (succeedsUnopened P) = false)
    (h : s.executeQuery (Query.interleaved P) = some (reply, t)) :
    SoundStatement t ∧ (reply.result.IsRow ∨ reply.result = .aiNoData →
      ∃ query, t.currentQuery = some query ∧
        (Query.interleaved P).dataAvailable query = true) := by
  rcases Statement.executeQuery_eq_some h with ⟨-, rfl, herror⟩ | ⟨q, q', hq, hq', hexecute⟩
  · refine ⟨hs, ?_⟩
    rw [herror]
    simp [SqlResult.IsRow]
  · obtain ⟨hsound, hopens⟩ := (hs q hq).execute hexecute
    refine ⟨soundStatement_of_eq hsound hq', ?_⟩
    intro hresult
    refine ⟨q', hq', hopens ?_⟩
    simp only [hq, Option.any_some, succeedsUnopened, hexecute] at hloses
    simpa [hresult] using hloses

/-- The execution of a data query opens the cursor too. -/
lemma opens_internalExecuteSqlQuery (hs : SoundStatement s) {reply : CallReply}
    (hloses : s.currentQuery.any (succeedsUnopened P) = false)
    (h : s.internalExecuteSqlQuery (Query.interleaved P) = some (reply, t)) :
    SoundStatement t ∧ (reply.result.IsRow → ∃ query, t.currentQuery = some query ∧
      (Query.interleaved P).dataAvailable query = true) := by
  obtain ⟨⟨reply', t'⟩, hexecute, hx⟩ := Option.map_eq_some_iff.mp h
  obtain ⟨hsound, hopens⟩ := opens_executeQuery hs hloses hexecute
  dsimp only at hx
  split at hx
  · next hresult =>
    cases hx
    exact ⟨hsound, fun _ => hopens (.inr hresult)⟩
  · cases hx
    exact ⟨hsound, fun hresult => hopens (.inl hresult)⟩

/-- A statement whose query was replaced is sound. -/
lemma soundStatement_replaceQuery {query : Query (InterleavedQuery δ γ)} (hquery : query.IsNew)
    (h : s.replaceQuery (Query.interleaved P) query = some t) : SoundStatement t :=
  soundStatement_of_eq (Query.sound_of_isNew hquery) (Statement.replaceQuery_currentQuery h)

/-- After a close the cursor is exhausted and does not count as open. -/
lemma exhausted_internalClose (hs : SoundStatement s) {ignoreErrors : Bool} {reply : CallReply}
    (h : s.internalClose (Query.interleaved P) ignoreErrors = some (reply, t)) :
    SoundStatement t ∧ ∀ query, t.currentQuery = some query →
      query.Exhausted ∧ (Query.interleaved P).dataAvailable query = false := by
  rcases Statement.internalClose_eq_some h with ⟨hnone, rfl, -⟩ |
    ⟨q, hq, ⟨havailable, rfl, -⟩ | ⟨-, result, q', hclose, hq', -⟩⟩
  · refine ⟨hs, ?_⟩
    intro query hquery
    rw [hnone] at hquery
    cases hquery
  · refine ⟨hs, ?_⟩
    intro query hquery
    rw [hq] at hquery
    cases hquery
    exact ⟨Query.exhausted_of_not_dataAvailable (hs q hq) havailable, havailable⟩
  · obtain ⟨hsound, -, hnot⟩ := (hs q hq).close hclose
    refine ⟨soundStatement_of_eq hsound hq', ?_⟩
    intro query hquery
    rw [hq'] at hquery
    cases hquery
    exact ⟨Query.exhausted_of_not_dataAvailable hsound hnot, hnot⟩

end Steps

variable {s t : CursorSession δ γ}

/-- A statement whose cursor counts as neither opened nor closed is consistent when it is sound. -/
lemma consistent_unopened {u : Statement (Query (InterleavedQuery δ γ))} (hu : SoundStatement u) :
    Consistent P ⟨u, .unopened⟩ where
  sound := hu
  opened := fun h => absurd h CursorPhase.noConfusion
  closed := fun h => absurd h CursorPhase.noConfusion

/-- A statement is consistent after an execution that opened the cursor if it succeeded. -/
lemma consistent_execution {u : Statement (Query (InterleavedQuery δ γ))} {result : SqlResult}
    (hu : SoundStatement u)
    (hopens : result.IsRow → ∃ query, u.currentQuery = some query ∧
      (Query.interleaved P).dataAvailable query = true) :
    Consistent P ⟨u, if result.IsRow then .opened else .unopened⟩ := by
  by_cases hresult : result.IsRow
  · rw [if_pos hresult]
    exact ⟨hu, fun _ => hopens hresult, fun h => absurd h CursorPhase.noConfusion⟩
  · rw [if_neg hresult]
    exact consistent_unopened hu

/-- A statement is consistent after a close. -/
lemma consistent_close (hs : s.Consistent P) {ignoreErrors : Bool} {reply : CallReply}
    {u : Statement (Query (InterleavedQuery δ γ))}
    (h : s.statement.internalClose (Query.interleaved P) ignoreErrors = some (reply, u)) :
    Consistent P ⟨u, .closed⟩ := by
  obtain ⟨hsound, hexhausted⟩ := exhausted_internalClose hs.sound h
  exact ⟨hsound, fun h => absurd h CursorPhase.noConfusion,
    fun _ query hquery => (hexhausted query hquery).1⟩

/-- A fetch that does not take an open cursor away keeps a session consistent. -/
lemma Consistent.fetches (hs : s.Consistent P) {size byteOffset : ℕ} {reply : RowsetReply}
    {u : Statement (Query (InterleavedQuery δ γ))}
    (hends : s.phase = .opened → s.statement.currentQuery.any
      (rowsetEndsCursor P size byteOffset s.statement.columnBindings) = false)
    (h : s.statement.FetchesRowset (Query.interleaved P) size byteOffset reply u) :
    Consistent P ⟨u, s.phase⟩ := by
  rcases h with ⟨rfl, -⟩ | ⟨q, q', hq, hq', hrowset⟩
  · exact hs
  · refine ⟨soundStatement_of_eq (sound_fetchRowset (hs.sound q hq) hrowset) hq', ?_, ?_⟩
    · intro hopened
      obtain ⟨query, hquery, hopen⟩ := hs.opened hopened
      rw [hq] at hquery
      cases hquery
      have hends := hends hopened
      rw [hq, Option.any_some] at hends
      exact ⟨q', hq', dataAvailable_fetchRowset (hs.sound q hq) hopen hends hrowset⟩
    · intro hclosed query hquery
      rw [hq'] at hquery
      cases hquery
      exact (fetchRowset_of_exhausted (hs.sound q hq) (hs.closed hclosed q hq) hrowset).1

/-- A read keeps a session consistent. -/
lemma Consistent.getData (hs : s.Consistent P) {colNum : ℕ} {driverType : OdbcNativeType}
    {targetValue : Bool} {bufferLength : ℕ} {strLengthOrIndicator : Bool} {read : ColumnRead}
    {u : Statement (Query (InterleavedQuery δ γ))}
    (h : s.statement.getData (Query.interleaved P) colNum driverType targetValue bufferLength
      strLengthOrIndicator = some (read, u)) : Consistent P ⟨u, s.phase⟩ := by
  obtain ⟨-, ⟨hnone, hnone', -⟩ | ⟨q, q', buffer, hq, hq', hcolumn⟩⟩ :=
    Statement.getData_eq_some h
  · refine ⟨?_, ?_, ?_⟩
    · intro query hquery
      rw [hnone'] at hquery
      cases hquery
    · intro hopened
      obtain ⟨query, hquery, -⟩ := hs.opened hopened
      rw [hnone] at hquery
      cases hquery
    · intro _ query hquery
      rw [hnone'] at hquery
      cases hquery
  · obtain ⟨hsound, hsame, hexhausted⟩ := (hs.sound q hq).getColumn hcolumn
    refine ⟨soundStatement_of_eq hsound hq', ?_, ?_⟩
    · intro hopened
      obtain ⟨query, hquery, hopen⟩ := hs.opened hopened
      rw [hq] at hquery
      cases hquery
      exact ⟨q', hq', hsame.trans hopen⟩
    · intro hclosed query hquery
      rw [hq'] at hquery
      cases hquery
      exact (hexhausted (hs.closed hclosed q hq)).1

/-- Every call that the cursor survives keeps a session consistent. -/
lemma consistent_step (hs : s.Consistent P)
    {call : StatementCall (Query (InterleavedQuery δ γ))} (hnew : call.BringsNew)
    (hloses : s.losesCursor P call = false) (hstep : s.step P call = some t) :
    t.Consistent P := by
  obtain ⟨⟨reply, u⟩, hperform, rfl⟩ := Option.map_eq_some_iff.mp hstep
  cases call with
  | prepare query =>
    obtain ⟨x, hx, hreply⟩ := Option.map_eq_some_iff.mp hperform
    obtain ⟨v, hv, rfl⟩ := Option.map_eq_some_iff.mp hx
    cases hreply
    exact consistent_unopened (soundStatement_replaceQuery hnew hv)
  | execute =>
    obtain ⟨x, hx, hreply⟩ := Option.map_eq_some_iff.mp hperform
    cases hreply
    obtain ⟨hsound, hopens⟩ := opens_internalExecuteSqlQuery hs.sound hloses hx
    exact consistent_execution hsound hopens
  | execDirect query =>
    obtain ⟨x, hx, hreply⟩ := Option.map_eq_some_iff.mp hperform
    obtain ⟨y, hy, hexecute⟩ := Option.bind_eq_some_iff.mp hx
    obtain ⟨v, hv, rfl⟩ := Option.map_eq_some_iff.mp hy
    cases hreply
    have hloses' : v.currentQuery.any (succeedsUnopened P) = false := by
      rw [Statement.replaceQuery_currentQuery hv]
      exact hloses
    obtain ⟨hsound, hopens⟩ := opens_internalExecuteSqlQuery
      (soundStatement_replaceQuery hnew hv) hloses' hexecute
    exact consistent_execution hsound hopens
  | catalog query =>
    obtain ⟨x, hx, hreply⟩ := Option.map_eq_some_iff.mp hperform
    obtain ⟨v, hv, hexecute⟩ := Option.bind_eq_some_iff.mp hx
    cases hreply
    have hloses' : v.currentQuery.any (succeedsUnopened P) = false := by
      rw [Statement.replaceQuery_currentQuery hv]
      exact hloses
    obtain ⟨hsound, hopens⟩ := opens_executeQuery (soundStatement_replaceQuery hnew hv) hloses'
      hexecute
    exact consistent_execution hsound fun hresult => hopens (.inl hresult)
  | fetch memory =>
    obtain ⟨x, hx, hreply⟩ := Option.map_eq_some_iff.mp hperform
    cases hreply
    apply hs.fetches _ (Statement.fetchesRowset_internalFetchRow hx)
    intro hopened
    simpa [losesCursor, hopened] using hloses
  | fetchScroll orientation memory =>
    obtain ⟨x, hx, hreply⟩ := Option.map_eq_some_iff.mp hperform
    cases hreply
    by_cases horientation : orientation = sqlFetchNext
    · apply hs.fetches _ (Statement.fetchesRowset_internalFetchScroll hx)
      intro hopened
      simpa [losesCursor, horientation, hopened] using hloses
    · unfold Statement.internalFetchScroll at hx
      rw [if_pos horientation] at hx
      cases hx
      exact hs
  | extendedFetch orientation =>
    obtain ⟨x, hx, hreply⟩ := Option.map_eq_some_iff.mp hperform
    cases hreply
    by_cases horientation : orientation = sqlFetchNext
    · apply hs.fetches _ (Statement.fetchesRowset_internalExtendedFetch hx)
      intro hopened
      simpa [losesCursor, horientation, hopened] using hloses
    · unfold Statement.internalExtendedFetch at hx
      rw [if_pos horientation] at hx
      cases hx
      exact hs
  | getData colNum driverType targetValue bufferLength strLengthOrIndicator =>
    obtain ⟨x, hx, hreply⟩ := Option.map_eq_some_iff.mp hperform
    cases hreply
    exact hs.getData hx
  | closeCursor =>
    obtain ⟨x, hx, hreply⟩ := Option.map_eq_some_iff.mp hperform
    cases hreply
    exact consistent_close hs hx
  | freeStmt option =>
    obtain ⟨x, hx, hreply⟩ := Option.map_eq_some_iff.mp hperform
    cases hreply
    unfold Statement.internalFreeResources at hx
    dsimp only [phaseAfter]
    split at hx
    · next hdrop =>
      cases hx
      have hclose : option ≠ Statement.sqlClose := by
        rw [hdrop]
        decide
      rw [if_neg hclose]
      exact hs
    · split at hx
      · next hclose =>
        rw [if_pos hclose]
        exact consistent_close hs hx
      · next hclose =>
        rw [if_neg hclose]
        split at hx
        · cases hx
          exact ⟨hs.sound, hs.opened, hs.closed⟩
        · cases hx
          exact hs
  | setUp columnBindings columnBindOffset rowArraySize rowsetSize =>
    cases hperform
    exact ⟨hs.sound, hs.opened, hs.closed⟩

/-- Every run in which the cursor survives its calls keeps a session consistent. -/
lemma consistent_run {descriptors : StatementDescriptors}
    {calls : List (StatementCall (Query (InterleavedQuery δ γ)))}
    (hnew : ∀ call ∈ calls, call.BringsNew)
    (hrun : run (guarded (fun s call => losesCursor P s call = false) (step P)) (new descriptors)
      calls = some s) : s.Consistent P := by
  refine invariant_run_of ?_ hnew (consistent_new descriptors) hrun
  intro s call t hcall hs hstep
  obtain ⟨hloses, hstep⟩ := guarded_eq_some.mp hstep
  exact consistent_step hs hcall hloses hstep

/-- The calls that could deliver data. -/
def Reads : StatementCall (Query (InterleavedQuery δ γ)) → Prop
  | .fetch _ | .fetchScroll _ _ | .extendedFetch _ | .getData _ _ _ _ _ => True
  | _ => False

/-- A fetch of a rowset after a close delivers nothing. -/
lemma Consistent.not_delivers_of_fetches (hs : s.Consistent P) (hclosed : s.phase = .closed)
    {size byteOffset : ℕ} {reply : RowsetReply} {u : Statement (Query (InterleavedQuery δ γ))}
    (h : s.statement.FetchesRowset (Query.interleaved P) size byteOffset reply u) :
    ¬ (StatementReply.rowset reply).Delivers ∧
      u.columnBindings.written = s.statement.columnBindings.written := by
  rcases h with ⟨rfl, hresult, hstatuses, hfetched⟩ | ⟨q, q', hq, -, hrowset⟩
  · refine ⟨?_, rfl⟩
    rintro (hrow | ⟨n, hn⟩ | ⟨status, hstatus, -⟩)
    · simp [SqlResult.IsRow, hresult] at hrow
    · rcases hfetched with hfetched | hfetched <;> simp [hfetched] at hn
    · simp [hstatuses] at hstatus
  · obtain ⟨-, hfetched, hresult, hstatuses, hwritten⟩ :=
      fetchRowset_of_exhausted (hs.sound q hq) (hs.closed hclosed q hq) hrowset
    refine ⟨?_, hwritten⟩
    rintro (hrow | ⟨n, hn⟩ | ⟨status, hstatus, hsuccess⟩)
    · exact hresult hrow
    · simp [hfetched] at hn
    · obtain ⟨h₁, h₂⟩ := hstatuses status hstatus
      rcases hsuccess with hsuccess | hsuccess
      · exact h₁ hsuccess
      · exact h₂ hsuccess

/-- After a close no call delivers data. -/
lemma Consistent.not_delivers (hs : s.Consistent P) (hclosed : s.phase = .closed)
    {call : StatementCall (Query (InterleavedQuery δ γ))} (hreads : Reads call)
    {reply : StatementReply} {u : Statement (Query (InterleavedQuery δ γ))}
    (h : s.statement.perform (Query.interleaved P) call = some (reply, u)) :
    ¬ reply.Delivers ∧ u.columnBindings.written = s.statement.columnBindings.written := by
  cases call with
  | fetch memory =>
    obtain ⟨x, hx, hreply⟩ := Option.map_eq_some_iff.mp h
    cases hreply
    exact hs.not_delivers_of_fetches hclosed (Statement.fetchesRowset_internalFetchRow hx)
  | fetchScroll orientation memory =>
    obtain ⟨x, hx, hreply⟩ := Option.map_eq_some_iff.mp h
    cases hreply
    exact hs.not_delivers_of_fetches hclosed (Statement.fetchesRowset_internalFetchScroll hx)
  | extendedFetch orientation =>
    obtain ⟨x, hx, hreply⟩ := Option.map_eq_some_iff.mp h
    cases hreply
    exact hs.not_delivers_of_fetches hclosed (Statement.fetchesRowset_internalExtendedFetch hx)
  | getData colNum driverType targetValue bufferLength strLengthOrIndicator =>
    obtain ⟨x, hx, hreply⟩ := Option.map_eq_some_iff.mp h
    cases hreply
    obtain ⟨hbindings, ⟨-, -, hput⟩ | ⟨q, q', buffer, hq, -, hcolumn⟩⟩ :=
      Statement.getData_eq_some hx
    · exact ⟨fun hdelivers => hdelivers hput, by rw [hbindings]⟩
    · obtain ⟨-, -, hexhausted⟩ := (hs.sound q hq).getColumn hcolumn
      have hput := (hexhausted (hs.closed hclosed q hq)).2
      exact ⟨fun hdelivers => hdelivers hput, by rw [hbindings]⟩
  | _ => exact absurd hreads id

/-- A close of a query without data available fails. -/
lemma perform_closeCursor_of_not_dataAvailable {u : Statement (Query (InterleavedQuery δ γ))}
    {query : Query (InterleavedQuery δ γ)} (hquery : u.currentQuery = some query)
    (h : (Query.interleaved P).dataAvailable query = false) :
    u.perform (Query.interleaved P) .closeCursor =
      some (.call ⟨.aiError, [Statement.noCursorWasOpen]⟩, u) := by
  simp [Statement.perform, Statement.internalClose, hquery, h]

/-- In every run that avoids executions which succeed without rows, fetches from a catalog query
behind its last row, and pages that failed: once an execution has succeeded `SQLCloseCursor`
succeeds, whatever was fetched and in every interleaving, and then fails with 24000; and after a
close no call delivers data. -/
theorem closeCursor_succeeds_once {descriptors : StatementDescriptors}
    {calls : List (StatementCall (Query (InterleavedQuery δ γ)))}
    (hnew : ∀ call ∈ calls, call.BringsNew)
    (hrun : run (guarded (fun s call => losesCursor P s call = false) (step P)) (new descriptors)
      calls = some s) :
    (s.phase = .opened →
      (∀ reply u, s.statement.perform (Query.interleaved P) .closeCursor = some (reply, u) →
        reply = .call ⟨.aiSuccess, []⟩ ∧ u.perform (Query.interleaved P) .closeCursor =
          some (.call ⟨.aiError, [Statement.noCursorWasOpen]⟩, u)) ∧
      ∀ q, s.statement.currentQuery = some (.data q) →
        Settles (System.step q.source.env) Action.Internal System.Ended
          (q.system.call q.source.env .close)) ∧
    (s.phase = .closed →
      (s.statement.currentQuery.isSome → s.statement.perform (Query.interleaved P) .closeCursor =
        some (.call ⟨.aiError, [Statement.noCursorWasOpen]⟩, s.statement)) ∧
      ∀ call reply u, Reads call →
        s.statement.perform (Query.interleaved P) call = some (reply, u) →
        ¬ reply.Delivers ∧ u.columnBindings.written = s.statement.columnBindings.written) := by
  have hs := consistent_run hnew hrun
  refine ⟨?_, ?_⟩
  · intro hopened
    obtain ⟨query, hquery, hopen⟩ := hs.opened hopened
    refine ⟨?_, ?_⟩
    · intro reply u hperform
      obtain ⟨⟨r, u⟩, hclose, hx⟩ := Option.map_eq_some_iff.mp hperform
      cases hx
      rcases Statement.internalClose_eq_some hclose with ⟨hnone, -⟩ |
        ⟨q, hq, ⟨hnot, -⟩ | ⟨-, result, q', hq', hcurrent, hr⟩⟩
      · rw [hquery] at hnone
        cases hnone
      · rw [hquery] at hq
        cases hq
        rw [hopen] at hnot
        cases hnot
      · obtain ⟨-, rfl, hnot⟩ := (hs.sound q hq).close hq'
        rw [hr]
        exact ⟨rfl, perform_closeCursor_of_not_dataAvailable hcurrent hnot⟩
    · intro q hq
      have hready : q.Ready := hs.sound (.data q) hq
      exact hready.settles_close
  · intro hclosed
    refine ⟨?_, ?_⟩
    · intro hsome
      obtain ⟨query, hquery⟩ := Option.isSome_iff_exists.mp hsome
      exact perform_closeCursor_of_not_dataAvailable hquery
        (Query.not_dataAvailable_of_exhausted (hs.closed hclosed query hquery))
    · intro call reply u hreads hperform
      exact hs.not_delivers hclosed hreads hperform

/-- A data query over one row: its execution takes two steps of the main thread, every other call
takes one. -/
def oneRow : InterleavedQuery Text ℕ :=
  .new (WholeQuery.ofStrings [[some ['a']]]).source fun n =>
    if n = 0 then [.main, .main] else if n = 3 then [.main] else []

/-- The cursor of a data query is open behind the last row, and is closed once. -/
theorem closeCursor_succeeds_once_behind_last_row :
    ∃ (s : CursorSession Text ℕ) (u : Statement (Query (InterleavedQuery Text ℕ))),
      run (guarded (fun s call => losesCursor samplePlatform s call = false) (step samplePlatform))
        (new ⟨0, 1, 2, 3, 0, 2⟩) [.execDirect (.data oneRow), .fetch fun _ => 0, .fetch fun _ => 0] =
          some s ∧
      s.statement.perform (Query.interleaved samplePlatform) .closeCursor =
        some (.call ⟨.aiSuccess, []⟩, u) ∧
      u.perform (Query.interleaved samplePlatform) .closeCursor =
        some (.call ⟨.aiError, [Statement.noCursorWasOpen]⟩, u) := by
  obtain ⟨s, hrun, hopened, u, reply, hclose⟩ : ∃ s : CursorSession Text ℕ,
      run (guarded (fun s call => losesCursor samplePlatform s call = false) (step samplePlatform))
        (new ⟨0, 1, 2, 3, 0, 2⟩) [.execDirect (.data oneRow), .fetch fun _ => 0, .fetch fun _ => 0] =
          some s ∧ s.phase = .opened ∧
      ∃ u reply, s.statement.perform (Query.interleaved samplePlatform) .closeCursor =
        some (reply, u) := ⟨_, rfl, rfl, _, _, rfl⟩
  have hnew : ∀ call ∈ [StatementCall.execDirect (Query.data oneRow), .fetch fun _ => 0,
      .fetch fun _ => 0], call.BringsNew := by
    intro call hcall
    simp only [List.mem_cons, List.not_mem_nil, or_false] at hcall
    rcases hcall with rfl | rfl | rfl
    · exact rfl
    · trivial
    · trivial
  obtain ⟨hreply, hagain⟩ := ((closeCursor_succeeds_once hnew hrun).1 hopened).1 reply u hclose
  rw [hreply] at hclose
  exact ⟨s, u, hrun, hclose, hagain⟩

/-- The cursor over an empty result cannot be closed, although the execution succeeded. -/
theorem closeCursor_fails_on_empty_result :
    ∃ s : CursorSession Text ℕ,
      run (step samplePlatform) (new ⟨0, 1, 2, 3, 0, 2⟩)
        [.execDirect (.data (.new (WholeQuery.ofStrings []).source fun _ => [.main, .main]))] =
          some s ∧
      s.phase = .opened ∧
      (s.statement.perform (Query.interleaved samplePlatform) .closeCursor).map (·.1) =
        some (.call ⟨.aiError, [Statement.noCursorWasOpen]⟩) :=
  ⟨_, rfl, rfl, rfl⟩

end CursorSession

end TimestreamOdbc
