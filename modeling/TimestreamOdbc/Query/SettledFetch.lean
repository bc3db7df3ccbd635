import TimestreamOdbc.Query.OpenCursor
import TimestreamOdbc.Query.Refinement
import TimestreamOdbc.Rowset

/-!
# Fetching from a query whose workers are still running

A data query with its workers, seen as the query of whole operations that it settles to.  Between two
calls of a first run a fetch that comes back reports what the whole query reports, whatever steps the
workers took meanwhile; and so does the fetch of a rowset by a statement.
-/

namespace TimestreamOdbc

open TransitionSystem

variable {δ γ : Type}

/-! ## A fetch of one row -/

/-- The return of a fetch names the fetch. -/
lemma System.op_of_fetch {B : Type} {env : QueryEnv δ γ B} {s s' : System δ γ B}
    {b : ColumnBindingMap B} {acts : List (Action B)} {r : Return δ γ B}
    (hacts : ∀ a ∈ acts, a.Internal)
    (hrun : run (System.step env) s (.call (.fetchNextRow b) :: acts) = some s')
    (hidle : s'.pc = .idle) (hlast : s'.returns.getLast? = some r) : r.op = .fetchNextRow b := by
  cases hcursor : s.query.cursor with
  | some c =>
    have hsome : s.query.cursor.isSome := by
      rw [hcursor]
      rfl
    obtain ⟨r', hr', hop, -⟩ :=
      System.exists_return_of_call (.inr (.inr ⟨⟨b, rfl⟩, hsome⟩)) hacts hrun hidle
    rw [hlast] at hr'
    obtain rfl := Option.some.inj hr'
    exact hop
  | none =>
    obtain ⟨u, hu, hrest⟩ := run_cons_eq_some.mp hrun
    have hcases := System.step_of_eq_some hu
    cases hcases with
    | fetchNoCursor =>
      obtain ⟨-, hreturns, -⟩ := System.idle_run hacts rfl hrest
      rw [hreturns] at hlast
      have hr : r = _ := (Option.some.inj (List.getLast?_concat.symm.trans hlast)).symm
      rw [hr]
    | fetchRow _ c _ hc | fetchSwitch _ c _ hc | fetchEnd _ c _ hc =>
      rw [hcursor] at hc
      cases hc

namespace InterleavedQuery

/-- The query of whole operations that is left when the workers have finished. -/
def settled (maxRequests : ℕ) (q : InterleavedQuery δ γ) : WholeQuery δ γ :=
  { source := q.source, maxRequests, state := q.system.settled q.source.env }

/-- Between two calls of a first run. -/
structure InFirstRun (q : InterleavedQuery δ γ) : Prop where
  pc : q.system.pc = .idle
  firstRun : System.FirstRun q.system

/-- A new query is at the beginning of its first run. -/
lemma inFirstRun_new (source : DataSource δ γ) (schedule : ℕ → List Thread) :
    (new source schedule).InFirstRun :=
  ⟨rfl, System.firstRun_new⟩

/-- A fetch that comes back reports what the settled query reports. -/
lemma InFirstRun.fetchNextRow {q q' : InterleavedQuery δ γ} (h : q.InFirstRun) (maxRequests : ℕ)
    {columnBindings : ColumnBindings} {row : FetchedRow}
    (hfetch : q.fetchNextRow columnBindings = some (row, q')) :
    q'.InFirstRun ∧
      (q.settled maxRequests).fetchNextRow columnBindings = some (row, q'.settled maxRequests) := by
  unfold InterleavedQuery.fetchNextRow at hfetch
  split at hfetch
  · next f q' hperform =>
    obtain ⟨result, hresult, hrow⟩ := Option.map_eq_some_iff.mp hfetch
    cases hrow
    obtain ⟨acts, system, r, hacts, hrun, hpc, hlast, hreply, rfl⟩ := perform_eq_some hperform
    have hcall : System.FirstRunCall q.system (.fetchNextRow columnBindings) := .inl ⟨_, rfl⟩
    have hnone : System.NoCalls acts := fun op hop => hacts _ hop
    have hfetches : ∀ op, Action.call op ∈ .call (.fetchNextRow columnBindings) :: acts →
        ∃ b, op = .fetchNextRow b := by
      intro op hop
      rcases List.mem_cons.mp hop with hop | hop
      · cases hop
        exact ⟨_, rfl⟩
      · exact absurd hop (hnone op)
    refine ⟨⟨hpc, h.firstRun.of_run hfetches hrun⟩, ?_⟩
    obtain ⟨rs, hreturns, hperf, -⟩ := h.firstRun.run_refines hfetches hrun hpc
    have hlength := h.firstRun.returns_call hcall hnone hrun hpc
    rw [hreturns, List.length_append, Nat.add_left_cancel_iff, List.length_eq_one_iff] at hlength
    obtain ⟨r', rfl⟩ := hlength
    rw [hreturns, List.getLast?_concat] at hlast
    obtain rfl := Option.some.inj hlast
    obtain ⟨-, u, hr, -, hu⟩ := hperf h.pc
    have hend : run (System.step q.source.env) q.system
        (.call (.fetchNextRow columnBindings) :: acts) = some system := hrun
    have hop : r'.op = .fetchNextRow columnBindings :=
      System.op_of_fetch hacts hend hpc (by rw [hreturns, List.getLast?_concat])
    rw [hop, ← hreply] at hr
    obtain ⟨f', hf', hx⟩ := hr
    cases hx
    have hu' : u = system.settled q.source.env := hu
    change ((q.system.settled q.source.env).fetchNextRow q.source.env columnBindings).bind _ = _
    rw [hf', Option.bind_some]
    dsimp only
    rw [hresult, hu']
    rfl
  · cases hfetch

end InterleavedQuery

namespace Query

/-- A query with its data query settled. -/
def settled (maxRequests : ℕ) : Query (InterleavedQuery δ γ) → Query (WholeQuery δ γ)
  | data q => data (q.settled maxRequests)
  | tables q => tables q
  | columns q => columns q
  | typeInfo q => typeInfo q
  | unsupported functionName => unsupported functionName

/-- The data query of a query is between two calls of its first run. -/
def InFirstRun : Query (InterleavedQuery δ γ) → Prop
  | data q => q.InFirstRun
  | _ => True

/-- A fetch that comes back reports what the settled query reports. -/
lemma InFirstRun.fetchNextRow {P : Platform} {q q' : Query (InterleavedQuery δ γ)}
    (h : q.InFirstRun) (maxRequests : ℕ) {columnBindings : ColumnBindings} {row : FetchedRow}
    (hfetch : (interleaved P).fetchNextRow columnBindings q = some (row, q')) :
    q'.InFirstRun ∧ (queryClass WholeQuery.queryClass P).fetchNextRow columnBindings
      (q.settled maxRequests) = some (row, q'.settled maxRequests) := by
  cases q with
  | data q =>
    obtain ⟨⟨f, q'⟩, hq, hx⟩ := Option.map_eq_some_iff.mp hfetch
    cases hx
    have hrun : q.InFirstRun := h
    obtain ⟨hrun', hwhole⟩ := hrun.fetchNextRow maxRequests hq
    exact ⟨hrun', congrArg (Option.map _) hwhole⟩
  | tables q =>
    obtain ⟨⟨f, q'⟩, hq, hx⟩ := Option.map_eq_some_iff.mp hfetch
    cases hx
    exact ⟨trivial, congrArg (Option.map _) hq⟩
  | columns q =>
    obtain ⟨⟨f, q'⟩, hq, hx⟩ := Option.map_eq_some_iff.mp hfetch
    cases hx
    exact ⟨trivial, congrArg (Option.map _) hq⟩
  | typeInfo q =>
    obtain ⟨⟨f, q'⟩, hq, hx⟩ := Option.map_eq_some_iff.mp hfetch
    cases hx
    exact ⟨trivial, congrArg (Option.map _) hq⟩
  | unsupported functionName =>
    cases hfetch
    exact ⟨trivial, rfl⟩

end Query

/-! ## A fetch of a rowset -/

namespace RowsetLoop

variable {Q Q' : Type} {K : QueryClass Q} {L : QueryClass Q'}

/-- The loop over a rowset, seen through a function of the query. -/
def view (f : Q → Q') (l : RowsetLoop Q) : RowsetLoop Q' :=
  { fetched := l.fetched, errors := l.errors, rowStatuses := l.rowStatuses, records := l.records
    columnBindings := l.columnBindings, currentQuery := f l.currentQuery }

/-- Where fetches from one query report what those from the other do, so do the loops. -/
lemma turns_view {f : Q → Q'} {I : Q → Prop}
    (hfetch : ∀ q columnBindings row q', I q → K.fetchNextRow columnBindings q = some (row, q') →
      I q' ∧ L.fetchNextRow columnBindings (f q) = some (row, f q'))
    {n i : ℕ} {l l' : RowsetLoop Q} (h : I l.currentQuery) (hturns : turns K i n l = some l') :
    I l'.currentQuery ∧ turns L i n (l.view f) = some (l'.view f) := by
  induction n generalizing i l with
  | zero =>
    cases hturns
    exact ⟨h, rfl⟩
  | succ n ih =>
    obtain ⟨u, hu, hrest⟩ := Option.bind_eq_some_iff.mp hturns
    obtain ⟨⟨row, q'⟩, hrow, rfl⟩ := Option.map_eq_some_iff.mp hu
    obtain ⟨hI, hrow'⟩ := hfetch _ _ row q' h hrow
    obtain ⟨hI', hrest'⟩ := ih (i := i + 1) hI hrest
    refine ⟨hI', Option.bind_eq_some_iff.mpr ⟨_, ?_, hrest'⟩⟩
    exact congrArg (Option.map _) hrow'

end RowsetLoop

namespace Statement

/-- A statement with its query settled. -/
def settled (maxRequests : ℕ) (s : Statement (Query (InterleavedQuery δ γ))) :
    Statement (Query (WholeQuery δ γ)) :=
  { columnBindings := s.columnBindings
    currentQuery := s.currentQuery.map (Query.settled maxRequests)
    rowsFetched := s.rowsFetched, rowStatuses := s.rowStatuses
    columnBindOffset := s.columnBindOffset, cell := s.cell, rowArraySize := s.rowArraySize
    rowsetSize := s.rowsetSize, descriptors := s.descriptors }

/-- The fetch of a rowset that comes back reports what the fetch from the settled query reports. -/
lemma fetchRowset_settled {P : Platform} {size byteOffset : ℕ} {columnBindings : ColumnBindings}
    {q : Query (InterleavedQuery δ γ)} (h : q.InFirstRun) (maxRequests : ℕ) {reply : RowsetReply}
    {columnBindings' : ColumnBindings} {q' : Query (InterleavedQuery δ γ)}
    (hrowset : fetchRowset (Query.interleaved P) size byteOffset columnBindings q =
      some (reply, columnBindings', q')) :
    q'.InFirstRun ∧
      fetchRowset (Query.queryClass WholeQuery.queryClass P) size byteOffset columnBindings
        (q.settled maxRequests) = some (reply, columnBindings', q'.settled maxRequests) := by
  obtain ⟨l', hturns, hx⟩ := Option.map_eq_some_iff.mp hrowset
  cases hx
  obtain ⟨hI, hturns'⟩ := RowsetLoop.turns_view (f := Query.settled maxRequests)
    (L := Query.queryClass WholeQuery.queryClass P)
    (fun q b row q' hq hrow => hq.fetchNextRow maxRequests hrow) h hturns
  exact ⟨hI, congrArg (Option.map _) hturns'⟩

variable {P : Platform} {s t : Statement (Query (InterleavedQuery δ γ))} {reply : RowsetReply}

/-- `SQLFetch` of a statement whose data query is interleaved with its workers reports what it
reports with the data query settled. -/
theorem internalFetchRow_settled (hrun : ∀ q, s.currentQuery = some q → q.InFirstRun)
    (maxRequests : ℕ) {memory : ℕ → ℕ}
    (hfetch : s.internalFetchRow (Query.interleaved P) memory = some (reply, t)) :
    (s.settled maxRequests).internalFetchRow (Query.queryClass WholeQuery.queryClass P) memory =
      some (reply, t.settled maxRequests) := by
  unfold internalFetchRow at hfetch ⊢
  cases hquery : s.currentQuery with
  | none =>
    rw [hquery] at hfetch
    cases hfetch
    simp [settled, hquery]
  | some q =>
    rw [hquery] at hfetch
    obtain ⟨⟨reply, b, q'⟩, hrowset, hx⟩ := Option.map_eq_some_iff.mp hfetch
    cases hx
    obtain ⟨-, hwhole⟩ := fetchRowset_settled (hrun q hquery) maxRequests hrowset
    simp only [settled, hquery, Option.map_some]
    rw [hwhole]
    rfl

/-- So does `SQLExtendedFetch`. -/
theorem internalExtendedFetch_settled (hrun : ∀ q, s.currentQuery = some q → q.InFirstRun)
    (maxRequests : ℕ) {orientation : ℤ}
    (hfetch : s.internalExtendedFetch (Query.interleaved P) orientation = some (reply, t)) :
    (s.settled maxRequests).internalExtendedFetch (Query.queryClass WholeQuery.queryClass P)
      orientation = some (reply, t.settled maxRequests) := by
  unfold internalExtendedFetch at hfetch ⊢
  split at hfetch
  · next horientation =>
    cases hfetch
    rw [if_pos horientation]
  · next horientation =>
    rw [if_neg horientation]
    cases hquery : s.currentQuery with
    | none =>
      rw [hquery] at hfetch
      cases hfetch
      simp [settled, hquery]
    | some q =>
      rw [hquery] at hfetch
      obtain ⟨⟨reply, b, q'⟩, hrowset, hx⟩ := Option.map_eq_some_iff.mp hfetch
      cases hx
      obtain ⟨-, hwhole⟩ := fetchRowset_settled (hrun q hquery) maxRequests hrowset
      simp only [settled, hquery, Option.map_some]
      rw [hwhole]
      rfl

end Statement

end TimestreamOdbc
