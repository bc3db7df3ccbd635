import TimestreamOdbc.Query.RemainingRows
import TimestreamOdbc.Query.SettledFetch

/-!
# The rows of a rowset

A fetch of a rowset takes the first of the rows that remain, as many as the rowset has elements, and
converts each through its own element of every binding.  A row whose conversion fails leaves its
element in error and the others are fetched all the same.  A conversion that leaves by an exception
is another matter: the loop has no handler, and the fetch does not come back.
-/

namespace TimestreamOdbc

/-! ## What a rowset delivers -/

/-- What became of a row of a rowset: the result of its conversion, and what was put through each
binding. -/
structure RowOutcome where
  result : SqlResult
  entries : ℕ → List Written

/-- The row was converted through an element of the bindings. -/
structure RowDelivered (byteOffset elementOffset : ℕ) (columnBindings : ColumnBindings)
    (row : RemainingRow) (o : RowOutcome) : Prop where
  result : o.result = .aiSuccess ∨ o.result = .aiError
  failed : o.result = .aiError ↔ ∃ j, ∃ e ∈ o.entries j, e.put.result = .aiFailure
  unbound : ∀ j, columnBindings j = none → o.entries j = []
  bound : ∀ j b, columnBindings j = some b → ∃ cs, cs <+: row.cells j ∧
    (o.result = .aiSuccess → cs = row.cells j) ∧
    List.Forall₂ (PutAt { b.buffer with byteOffset, elementOffset }) cs (o.entries j)

/-- The result that the outcomes of the rows of a rowset give. -/
def rowsetResult (outcomes : List RowOutcome) : SqlResult :=
  if outcomes = [] then .aiNoData
  else if ∀ o ∈ outcomes, o.result = .aiSuccess then .aiSuccess
  else if ∃ o ∈ outcomes, o.result = .aiSuccess then .aiSuccessWithInfo
  else .aiError

/-- The fetch of a rowset of a size, while rows remain: it takes the first of them and converts each
through its element; the statuses, the count and the result tell what became of them. -/
structure RowsetDelivered (size byteOffset : ℕ) (rows : List RemainingRow)
    (columnBindings : ColumnBindings) (outcomes : List RowOutcome) (reply : RowsetReply)
    (columnBindings' : ColumnBindings) : Prop where
  taken : outcomes.length = min size rows.length
  delivered : ∀ i row o, rows[i]? = some row → outcomes[i]? = some o →
    RowDelivered byteOffset i columnBindings row o
  written : ∀ j, columnBindings'.written j =
    columnBindings.written j ++ (outcomes.map (·.entries j)).flatten
  rowStatuses : reply.rowStatuses =
    outcomes.map (fun o => if o.result = .aiSuccess then .success else .error) ++
      List.replicate (size - rows.length) .norow
  rowsFetched : reply.rowsFetched = some (outcomes.countP (·.result = .aiSuccess))
  result : reply.result = rowsetResult outcomes

namespace RowsetDelivered

variable {size byteOffset : ℕ} {rows : List RemainingRow} {columnBindings columnBindings' : ColumnBindings}
  {outcomes : List RowOutcome} {reply : RowsetReply}

/-- A rowset of which no conversion fails has the rows, and nothing behind them. -/
lemma of_forall_success
    (h : RowsetDelivered size byteOffset rows columnBindings outcomes reply columnBindings')
    (hall : ∀ o ∈ outcomes, o.result = .aiSuccess) :
    reply.rowStatuses = List.replicate (min size rows.length) .success ++
        List.replicate (size - rows.length) .norow ∧
      reply.rowsFetched = some (min size rows.length) := by
  constructor
  · rw [h.rowStatuses]
    congr 1
    rw [List.eq_replicate_iff, List.length_map]
    refine ⟨h.taken, ?_⟩
    intro status hstatus
    obtain ⟨o, ho, rfl⟩ := List.mem_map.mp hstatus
    exact if_pos (hall o ho)
  · have hcount : outcomes.countP (·.result = .aiSuccess) = outcomes.length := by
      rw [List.countP_eq_length]
      intro o ho
      simpa using hall o ho
    rw [h.rowsFetched, hcount, h.taken]

/-- A fetch of at least one row ends without data when none remains. -/
lemma result_eq_aiNoData_iff
    (h : RowsetDelivered size byteOffset rows columnBindings outcomes reply columnBindings')
    (hsize : 0 < size) : reply.result = .aiNoData ↔ rows = [] := by
  have hnil : outcomes = [] ↔ rows = [] := by
    rw [← List.length_eq_zero_iff, ← List.length_eq_zero_iff, h.taken]
    omega
  rw [h.result, ← hnil]
  unfold rowsetResult
  constructor
  · intro hresult
    by_contra hne
    rw [if_neg hne] at hresult
    split at hresult
    · cases hresult
    · split at hresult <;> cases hresult
  · intro hempty
    rw [if_pos hempty]

end RowsetDelivered

/-! ## Bindings at other offsets -/

/-- The bindings of a statement, moved to a byte offset and to some element and cell. -/
def ColumnBindings.MovedTo (byteOffset : ℕ) (columnBindings moved : ColumnBindings) : Prop :=
  (∀ j, columnBindings j = none → moved j = none) ∧
  ∀ j b, columnBindings j = some b → ∃ b' elementOffset cellOffset, moved j = some b' ∧
    b'.buffer = { b.buffer with byteOffset, elementOffset, cellOffset }

namespace ColumnBindings

variable {byteOffset : ℕ} {columnBindings moved : ColumnBindings}

/-- Setting the byte offset moves the bindings. -/
lemma movedTo_setByteOffset (byteOffset : ℕ) (columnBindings : ColumnBindings) :
    columnBindings.MovedTo byteOffset (columnBindings.setByteOffset byteOffset) := by
  constructor
  · intro j hj
    simp [setByteOffset, hj]
  · intro j b hj
    refine ⟨b.setByteOffset byteOffset, b.buffer.elementOffset, b.buffer.cellOffset, ?_, rfl⟩
    simp [setByteOffset, hj]

/-- Setting the element offset moves the bindings on. -/
lemma MovedTo.setElementOffset (h : columnBindings.MovedTo byteOffset moved) (i : ℕ) :
    columnBindings.MovedTo byteOffset (moved.setElementOffset i) := by
  constructor
  · intro j hj
    simp [ColumnBindings.setElementOffset, h.1 j hj]
  · intro j b hj
    obtain ⟨b', elementOffset, cellOffset, hb', hbuffer⟩ := h.2 j b hj
    refine ⟨b'.setElementOffset i, i, cellOffset, ?_, ?_⟩
    · simp [ColumnBindings.setElementOffset, hb']
    · simp [ColumnBinding.setElementOffset, hbuffer]

end ColumnBindings

/-- A row that is converted at an element is delivered there. -/
lemma RowConverted.delivered {cells : ℕ → List Cell} {columnBindings moved : ColumnBindings}
    {byteOffset i : ℕ} {f : FetchedRow} {entries : ℕ → List Written}
    (hmoved : columnBindings.MovedTo byteOffset moved)
    (h : RowConverted cells (moved.setElementOffset i) f entries)
    (convert : ColumnBindings → Option FetchedRow) :
    RowDelivered byteOffset i columnBindings ⟨convert, cells⟩ ⟨f.result, entries⟩ where
  result := h.result
  failed := h.failed
  unbound := by
    intro j hj
    exact (h.unbound j ((hmoved.setElementOffset i).1 j hj)).2
  bound := by
    intro j b hj
    obtain ⟨b', elementOffset, cellOffset, hb', hbuffer⟩ := hmoved.2 j b hj
    have hset : moved.setElementOffset i j = some (b'.setElementOffset i) := by
      simp [ColumnBindings.setElementOffset, hb']
    obtain ⟨b'', cs, -, hprefix, hall, hputs⟩ := h.bound j _ hset
    refine ⟨cs, hprefix, hall, hputs.2.imp ?_⟩
    rintro cell e ⟨hbyte, helement, cellOffset', hcell⟩
    simp only [ColumnBinding.setElementOffset, hbuffer] at hbyte helement hcell
    exact ⟨hbyte, helement, cellOffset', hcell⟩

/-- A row that is converted leaves the bindings where they are. -/
lemma RowConverted.movedTo {cells : ℕ → List Cell} {columnBindings moved : ColumnBindings}
    {byteOffset : ℕ} {f : FetchedRow} {entries : ℕ → List Written}
    (hmoved : columnBindings.MovedTo byteOffset moved) (h : RowConverted cells moved f entries) :
    columnBindings.MovedTo byteOffset f.columnBindings := by
  constructor
  · intro j hj
    exact (h.unbound j (hmoved.1 j hj)).1
  · intro j b hj
    obtain ⟨b', elementOffset, cellOffset, hb', hbuffer⟩ := hmoved.2 j b hj
    obtain ⟨b'', cs, hb'', -, -, ⟨cellOffset', rfl⟩, -⟩ := h.bound j b' hb'
    exact ⟨_, elementOffset, cellOffset', hb'', by simp [ApplicationDataBuffer.setCellOffset, hbuffer]⟩

/-- A row that is converted adds its entries to what was written. -/
lemma RowConverted.written {cells : ℕ → List Cell} {columnBindings : ColumnBindings} {f : FetchedRow}
    {entries : ℕ → List Written} (h : RowConverted cells columnBindings f entries) (j : ℕ) :
    f.columnBindings.written j = columnBindings.written j ++ entries j := by
  unfold ColumnBindings.written
  cases hj : columnBindings j with
  | none =>
    obtain ⟨hnone, hentries⟩ := h.unbound j hj
    simp [hnone, hentries]
  | some b =>
    obtain ⟨b', cs, hb', -, -, ⟨cellOffset, rfl⟩, -⟩ := h.bound j b hj
    simp [hb']

/-! ## The conversions of a rowset -/

/-- The rows are converted one after the other, the first through an element and each of the others
through the next one; nothing when a conversion leaves by an exception. -/
def convertRows : ℕ → List RemainingRow → ColumnBindings → Option ColumnBindings
  | _, [], columnBindings => some columnBindings
  | i, row :: rows, columnBindings =>
    (row.convert (columnBindings.setElementOffset i)).bind fun f =>
      convertRows (i + 1) rows f.columnBindings

namespace RowsetLoop

variable {Q : Type} {K : QueryClass Q} {Remaining : Q → List RemainingRow → Prop}

/-- Where a conversion of the rows leaves by an exception, so does the loop. -/
lemma turns_of_convertRows_eq_none
    (hfirst : ∀ q rows, Remaining q rows → ∀ b, FetchesFirst K Remaining q b rows) {n i : ℕ}
    {rows : List RemainingRow} {l : RowsetLoop Q} (h : Remaining l.currentQuery rows)
    (hnone : convertRows i (rows.take n) l.columnBindings = none) : turns K i n l = none := by
  induction n generalizing i rows l with
  | zero => cases hnone
  | succ n ih =>
    cases rows with
    | nil => cases hnone
    | cons row rows =>
      obtain ⟨-, hthrows, hfetches⟩ := hfirst _ _ h (l.columnBindings.setElementOffset i)
      unfold turns turn
      cases hconvert : row.convert (l.columnBindings.setElementOffset i) with
      | none =>
        rw [hthrows hconvert]
        rfl
      | some f =>
        obtain ⟨q', hfetch, hrest⟩ := hfetches f hconvert
        rw [hfetch]
        rw [List.take_succ_cons, convertRows, hconvert] at hnone
        exact ih hrest hnone

/-- What a loop over a rowset has done to the rows that remained. -/
structure Delivers (Remaining : Q → List RemainingRow → Prop) (byteOffset i n : ℕ)
    (rows : List RemainingRow) (columnBindings : ColumnBindings) (outcomes : List RowOutcome)
    (l l' : RowsetLoop Q) : Prop where
  remaining : Remaining l'.currentQuery (rows.drop n)
  taken : outcomes.length = min n rows.length
  delivered : ∀ k row o, rows[k]? = some row → outcomes[k]? = some o →
    RowDelivered byteOffset (i + k) columnBindings row o
  written : ∀ j, l'.columnBindings.written j =
    l.columnBindings.written j ++ (outcomes.map (·.entries j)).flatten
  rowStatuses : l'.rowStatuses = l.rowStatuses ++
    (outcomes.map (fun o => if o.result = .aiSuccess then .success else .error) ++
      List.replicate (n - rows.length) .norow)
  fetched : l'.fetched = l.fetched + outcomes.countP (·.result = .aiSuccess)
  errors : l'.errors = l.errors + outcomes.countP (·.result = .aiError)
  movedTo : columnBindings.MovedTo byteOffset l'.columnBindings

/-- The loop over a rowset takes the first rows that remain, and converts each through its
element. -/
lemma turns_of_convertRows_eq_some
    (hfirst : ∀ q rows, Remaining q rows → ∀ b, FetchesFirst K Remaining q b rows)
    {byteOffset n i : ℕ} {rows : List RemainingRow} {columnBindings converted : ColumnBindings}
    {l : RowsetLoop Q} (h : Remaining l.currentQuery rows)
    (hmoved : columnBindings.MovedTo byteOffset l.columnBindings)
    (hconvert : convertRows i (rows.take n) l.columnBindings = some converted) :
    ∃ l' outcomes, turns K i n l = some l' ∧
      Delivers Remaining byteOffset i n rows columnBindings outcomes l l' := by
  induction n generalizing i rows l converted with
  | zero =>
    exact ⟨l, [], rfl, h, by simp, by simp, by simp, by simp, by simp, by simp, hmoved⟩
  | succ n ih =>
    cases rows with
    | nil =>
      obtain ⟨records, q', hfetch, hrest⟩ := hfirst _ _ h (l.columnBindings.setElementOffset i)
      let u : RowsetLoop Q := { l with
        rowStatuses := l.rowStatuses ++ [.norow]
        records := l.records ++ records
        columnBindings := l.columnBindings.setElementOffset i
        currentQuery := q' }
      have hturn : l.turn K i = some u := by
        unfold turn
        rw [hfetch]
        simp [u, sqlResultToRowResult]
      obtain ⟨l', outcomes, hturns, hl'⟩ := ih (i := i + 1) (l := u) hrest
        (hmoved.setElementOffset i) (by rw [List.take_nil]; rfl)
      have hnil : outcomes = [] := List.length_eq_zero_iff.mp (by simpa using hl'.taken)
      subst hnil
      refine ⟨l', [], ?_, ?_, by simp, by simp, ?_, ?_, hl'.fetched, hl'.errors, hl'.movedTo⟩
      · rw [turns, hturn]
        exact hturns
      · simpa using hl'.remaining
      · intro j
        simpa [u] using hl'.written j
      · rw [hl'.rowStatuses]
        simp [u, List.replicate_succ]
    | cons row rows =>
      obtain ⟨hplace, -, hfetches⟩ := hfirst _ _ h (l.columnBindings.setElementOffset i)
      rw [List.take_succ_cons, convertRows] at hconvert
      obtain ⟨f, hf, hrows⟩ := Option.bind_eq_some_iff.mp hconvert
      obtain ⟨q', hfetch, hrest⟩ := hfetches f hf
      obtain ⟨entries, hentries⟩ := hplace _ f hf
      let first : RowOutcome := ⟨f.result, entries⟩
      let u : RowsetLoop Q :=
        { fetched := l.fetched + if f.result = .aiSuccess then 1 else 0
          errors := l.errors + if f.result = .aiError then 1 else 0
          rowStatuses := l.rowStatuses ++ [if f.result = .aiSuccess then .success else .error]
          records := l.records ++ f.records
          columnBindings := f.columnBindings
          currentQuery := q' }
      have hturn : l.turn K i = some u := by
        unfold turn
        rw [hfetch]
        rcases hentries.result with hresult | hresult <;>
          simp [u, hresult, sqlResultToRowResult]
      obtain ⟨l', outcomes, hturns, hl'⟩ := ih (i := i + 1) (l := u) hrest
        (hentries.movedTo (hmoved.setElementOffset i)) hrows
      refine ⟨l', first :: outcomes, ?_, hl'.remaining, ?_, ?_, ?_, ?_, ?_, ?_, hl'.movedTo⟩
      · rw [turns, hturn]
        exact hturns
      · rw [List.length_cons, hl'.taken, List.length_cons]
        omega
      · intro k row' o hrow ho
        cases k with
        | zero =>
          obtain rfl := Option.some.inj hrow
          obtain rfl := Option.some.inj ho
          exact hentries.delivered hmoved row.convert
        | succ k =>
          have hk := hl'.delivered k row' o (by simpa using hrow) (by simpa using ho)
          rwa [Nat.add_right_comm] at hk
      · intro j
        have hj := hentries.written j
        rw [ColumnBindings.written_setElementOffset] at hj
        rw [hl'.written j]
        simp [u, first, hj]
      · rw [hl'.rowStatuses]
        simp [u, first]
      · rw [hl'.fetched]
        simp only [u, first, List.countP_cons, decide_eq_true_eq]
        omega
      · rw [hl'.errors]
        simp only [u, first, List.countP_cons, decide_eq_true_eq]
        omega

/-- The result of a loop over a rowset is the one its outcomes give. -/
lemma Delivers.result_eq {byteOffset n : ℕ} {rows : List RemainingRow}
    {columnBindings : ColumnBindings} {outcomes : List RowOutcome} {l l' : RowsetLoop Q}
    (h : Delivers Remaining byteOffset 0 n rows columnBindings outcomes l l')
    (hresult : ∀ o ∈ outcomes, o.result = .aiSuccess ∨ o.result = .aiError)
    (hfetched : l.fetched = 0) (herrors : l.errors = 0) : l'.result = rowsetResult outcomes := by
  have hf : l'.fetched = outcomes.countP (·.result = .aiSuccess) := by
    rw [h.fetched, hfetched, Nat.zero_add]
  have he : l'.errors = outcomes.countP (·.result = .aiError) := by
    rw [h.errors, herrors, Nat.zero_add]
  have hsome : 0 < l'.fetched ↔ ∃ o ∈ outcomes, o.result = .aiSuccess := by
    rw [hf, List.countP_pos_iff]
    simp
  have hall : l'.errors = 0 ↔ ∀ o ∈ outcomes, o.result = .aiSuccess := by
    rw [he, List.countP_eq_zero]
    refine forall₂_congr fun o ho => ?_
    rcases hresult o ho with hr | hr <;> simp [hr]
  unfold result rowsetResult
  simp only [hsome, hall]
  cases outcomes with
  | nil => simp
  | cons o os =>
    by_cases hevery : ∀ o' ∈ o :: os, o'.result = .aiSuccess
    · have hex : ∃ o' ∈ o :: os, o'.result = .aiSuccess :=
        ⟨o, List.mem_cons_self, hevery o List.mem_cons_self⟩
      rw [if_pos hex, if_pos hevery, if_neg (List.cons_ne_nil o os), if_pos hevery]
    · rw [if_neg (List.cons_ne_nil o os)]
      simp only [if_neg hevery]

end RowsetLoop

/-- Every row that was taken has an outcome of one of two results. -/
lemma RowsetLoop.Delivers.result_cases {Q : Type} {Remaining : Q → List RemainingRow → Prop}
    {byteOffset i n : ℕ} {rows : List RemainingRow} {columnBindings : ColumnBindings}
    {outcomes : List RowOutcome} {l l' : RowsetLoop Q}
    (h : Delivers Remaining byteOffset i n rows columnBindings outcomes l l') :
    ∀ o ∈ outcomes, o.result = .aiSuccess ∨ o.result = .aiError := by
  intro o ho
  obtain ⟨k, hk, rfl⟩ := List.mem_iff_getElem.mp ho
  have hlt : k < rows.length := by
    have htaken := h.taken
    omega
  exact (h.delivered k rows[k] outcomes[k] (List.getElem?_eq_getElem hlt)
    (List.getElem?_eq_getElem hk)).result

/-! ## The fetch of a rowset -/

section FetchRowset

variable {Q : Type} {K : QueryClass Q} {Remaining : Q → List RemainingRow → Prop}

/-- The fetch of a rowset does not come back when a conversion leaves by an exception. -/
lemma fetchRowset_eq_none
    (hfirst : ∀ q rows, Remaining q rows → ∀ b, FetchesFirst K Remaining q b rows)
    {q : Q} {rows : List RemainingRow} (h : Remaining q rows) {size byteOffset : ℕ}
    {columnBindings : ColumnBindings}
    (hnone : convertRows 0 (rows.take size) (columnBindings.setByteOffset byteOffset) = none) :
    fetchRowset K size byteOffset columnBindings q = none := by
  have hturns := RowsetLoop.turns_of_convertRows_eq_none (K := K)
    (l := ⟨0, 0, [], [], columnBindings.setByteOffset byteOffset, q⟩) hfirst h hnone
  unfold fetchRowset
  rw [hturns]
  rfl

/-- The fetch of a rowset delivers the rows that remain, if and only if each conversion comes
back. -/
lemma fetchRowset_iff
    (hfirst : ∀ q rows, Remaining q rows → ∀ b, FetchesFirst K Remaining q b rows)
    {q : Q} {rows : List RemainingRow} (h : Remaining q rows) (size byteOffset : ℕ)
    (columnBindings : ColumnBindings) :
    (∃ reply columnBindings' q' outcomes,
      fetchRowset K size byteOffset columnBindings q = some (reply, columnBindings', q') ∧
        Remaining q' (rows.drop size) ∧
        RowsetDelivered size byteOffset rows columnBindings outcomes reply columnBindings') ↔
      (convertRows 0 (rows.take size) (columnBindings.setByteOffset byteOffset)).isSome := by
  let start : RowsetLoop Q := ⟨0, 0, [], [], columnBindings.setByteOffset byteOffset, q⟩
  constructor
  · rintro ⟨reply, columnBindings', q', outcomes, hrowset, -, -⟩
    rw [Option.isSome_iff_ne_none]
    intro hnone
    rw [fetchRowset_eq_none hfirst h hnone] at hrowset
    cases hrowset
  · intro hsome
    obtain ⟨converted, hconvert⟩ := Option.isSome_iff_exists.mp hsome
    obtain ⟨l', outcomes, hturns, hl'⟩ := RowsetLoop.turns_of_convertRows_eq_some (l := start)
      hfirst h (ColumnBindings.movedTo_setByteOffset byteOffset columnBindings) hconvert
    refine ⟨⟨l'.result, l'.records, l'.rowStatuses, some l'.fetched⟩, l'.columnBindings,
      l'.currentQuery, outcomes, ?_, hl'.remaining, hl'.taken, ?_, ?_, ?_, ?_, ?_⟩
    · unfold fetchRowset
      rw [hturns]
      rfl
    · intro k row o hrow ho
      simpa using hl'.delivered k row o hrow ho
    · intro j
      simpa [start] using hl'.written j
    · simpa [start] using hl'.rowStatuses
    · simp [hl'.fetched, start]
    · exact hl'.result_eq hl'.result_cases rfl rfl

/-- The fetch of a rowset that comes back has delivered the rows that remain. -/
lemma fetchRowset_delivers
    (hfirst : ∀ q rows, Remaining q rows → ∀ b, FetchesFirst K Remaining q b rows)
    {q q' : Q} {rows : List RemainingRow} (h : Remaining q rows) {size byteOffset : ℕ}
    {columnBindings columnBindings' : ColumnBindings} {reply : RowsetReply}
    (hrowset : fetchRowset K size byteOffset columnBindings q = some (reply, columnBindings', q')) :
    Remaining q' (rows.drop size) ∧ ∃ outcomes,
      RowsetDelivered size byteOffset rows columnBindings outcomes reply columnBindings' := by
  have hsome : (convertRows 0 (rows.take size) (columnBindings.setByteOffset byteOffset)).isSome := by
    rw [Option.isSome_iff_ne_none]
    intro hnone
    rw [fetchRowset_eq_none hfirst h hnone] at hrowset
    cases hrowset
  obtain ⟨reply₁, b₁, q₁, outcomes, hrowset₁, hremaining, hdelivered⟩ :=
    (fetchRowset_iff hfirst h size byteOffset columnBindings).mpr hsome
  rw [hrowset] at hrowset₁
  cases hrowset₁
  exact ⟨hremaining, outcomes, hdelivered⟩

end FetchRowset

/-! ## The fetches of a statement -/

namespace Statement

variable {δ γ : Type} {P : Platform}

/-- A call that fetches a rowset comes back with the rows that remain. -/
def Fetches (P : Platform) (s : Statement (Query (WholeQuery δ γ))) (size byteOffset : ℕ)
    (rows : List RemainingRow)
    (call : Option (RowsetReply × Statement (Query (WholeQuery δ γ)))) : Prop :=
  ∃ reply t query outcomes, call = some (reply, t) ∧ t.currentQuery = some query ∧
    query.Remaining P (rows.drop size) ∧
    RowsetDelivered size byteOffset rows s.columnBindings outcomes reply t.columnBindings

/-- No conversion of the rows of a rowset leaves by an exception. -/
def Converts (s : Statement (Query (WholeQuery δ γ))) (size byteOffset : ℕ)
    (rows : List RemainingRow) : Prop :=
  (convertRows 0 (rows.take size) (s.columnBindings.setByteOffset byteOffset)).isSome

/-- A call that runs the loop over a rowset comes back with the rows that remain, if and only if each
conversion comes back. -/
lemma fetches_iff {s : Statement (Query (WholeQuery δ γ))} {query : Query (WholeQuery δ γ)}
    {rows : List RemainingRow} (hrows : query.Remaining P rows) (size byteOffset : ℕ)
    (finish : ColumnBindings → Query (WholeQuery δ γ) → Statement (Query (WholeQuery δ γ)))
    (hbindings : ∀ b q, (finish b q).columnBindings = b)
    (hquery : ∀ b q, (finish b q).currentQuery = some q) :
    s.Fetches P size byteOffset rows
        ((fetchRowset (Query.whole P) size byteOffset s.columnBindings query).map
          fun (reply, columnBindings, query) => (reply, finish columnBindings query)) ↔
      s.Converts size byteOffset rows := by
  refine Iff.trans ?_ (fetchRowset_iff (K := Query.whole P)
    (fun _ _ (h : Query.Remaining P _ _) b => h.fetchesFirst b) hrows size byteOffset s.columnBindings)
  constructor
  · rintro ⟨reply, t, query', outcomes, hcall, hquery', hremaining, hdelivered⟩
    obtain ⟨⟨reply, b, q⟩, hrowset, hx⟩ := Option.map_eq_some_iff.mp hcall
    cases hx
    rw [hquery] at hquery'
    rw [hbindings] at hdelivered
    obtain rfl := Option.some.inj hquery'
    exact ⟨reply, b, q, outcomes, hrowset, hremaining, hdelivered⟩
  · rintro ⟨reply, b, q, outcomes, hrowset, hremaining, hdelivered⟩
    refine ⟨reply, finish b q, q, outcomes, ?_, hquery b q, hremaining, ?_⟩
    · rw [hrowset]
      rfl
    · rw [hbindings]
      exact hdelivered

/-- The rowset fetch law: a fetch takes as many of the rows that remain as the rowset has elements,
and delivers each through its own element, if and only if every conversion comes back. -/
theorem rowset_fetch_law_iff (s : Statement (Query (WholeQuery δ γ)))
    (query : Query (WholeQuery δ γ)) (hquery : s.currentQuery = some query)
    (rows : List RemainingRow) (hrows : query.Remaining P rows) (memory : ℕ → ℕ) :
    (s.Fetches P s.rowArraySize (s.columnBindOffset.elim 0 memory) rows
        (s.internalFetchRow (Query.whole P) memory) ↔
      s.Converts s.rowArraySize (s.columnBindOffset.elim 0 memory) rows) ∧
    (s.Fetches P s.rowArraySize (s.columnBindOffset.elim 0 memory) rows
        (s.internalFetchScroll (Query.whole P) sqlFetchNext memory) ↔
      s.Converts s.rowArraySize (s.columnBindOffset.elim 0 memory) rows) ∧
    (s.Fetches P s.rowsetSize 0 rows (s.internalExtendedFetch (Query.whole P) sqlFetchNext) ↔
      s.Converts s.rowsetSize 0 rows) := by
  have hfetch : s.Fetches P s.rowArraySize (s.columnBindOffset.elim 0 memory) rows
        (s.internalFetchRow (Query.whole P) memory) ↔
      s.Converts s.rowArraySize (s.columnBindOffset.elim 0 memory) rows := by
    unfold internalFetchRow
    rw [hquery]
    exact fetches_iff hrows _ _ (fun columnBindings query => { s with
      columnBindings, currentQuery := some query
      cell := { s.cell with cellOffset := 0 } }) (fun _ _ => rfl) (fun _ _ => rfl)
  refine ⟨hfetch, ?_, ?_⟩
  · unfold internalFetchScroll
    rw [if_neg (by simp)]
    exact hfetch
  · unfold internalExtendedFetch
    rw [if_neg (by simp), hquery]
    exact fetches_iff hrows _ _ (fun columnBindings query => { s with
      columnBindings, currentQuery := some query }) (fun _ _ => rfl) (fun _ _ => rfl)

/-- Whatever steps the workers of the data query take, a fetch that comes back has delivered the rows
that remained in the settled query. -/
theorem internalFetchRow_interleaved_delivers {s t : Statement (Query (InterleavedQuery δ γ))}
    {query : Query (InterleavedQuery δ γ)} (hquery : s.currentQuery = some query)
    (hrun : query.InFirstRun) {maxRequests : ℕ} {rows : List RemainingRow}
    (hrows : (query.settled maxRequests).Remaining P rows) {memory : ℕ → ℕ} {reply : RowsetReply}
    (hfetch : s.internalFetchRow (Query.interleaved P) memory = some (reply, t)) :
    ∃ query' outcomes, t.currentQuery = some query' ∧ query'.InFirstRun ∧
      (query'.settled maxRequests).Remaining P (rows.drop s.rowArraySize) ∧
      RowsetDelivered s.rowArraySize (s.columnBindOffset.elim 0 memory) rows s.columnBindings
        outcomes reply t.columnBindings := by
  unfold internalFetchRow at hfetch
  rw [hquery] at hfetch
  obtain ⟨⟨reply, b, query'⟩, hrowset, hx⟩ := Option.map_eq_some_iff.mp hfetch
  cases hx
  obtain ⟨hrun', hwhole⟩ := fetchRowset_settled hrun maxRequests hrowset
  obtain ⟨hremaining, outcomes, hdelivered⟩ := fetchRowset_delivers (K := Query.whole P)
    (fun _ _ (h : Query.Remaining P _ _) b => h.fetchesFirst b) hrows hwhole
  exact ⟨query', outcomes, rfl, hrun', hremaining, hdelivered⟩

/-- A new data query over pages of strings. -/
def stringPages (P : Platform) (pages : List (QueryResult (Option Text) ℕ)) : WholeQuery Text ℕ :=
  { WholeQuery.ofStrings [] with
    source := { (WholeQuery.ofStrings []).source with
      service := scriptedService pages
      columns :=
        { typeHasBeenSet := fun _ => true
          parseValue := fun _ value dataBuf => dataBuf.putString P value } } }

/-- The query after its execution. -/
def executedPages (P : Platform) (pages : List (QueryResult (Option Text) ℕ)) :
    WholeQuery Text ℕ :=
  (stringPages P pages).execute.elim (stringPages P pages) Prod.snd

/-- The rows of pages of strings that all have rows remain after the execution. -/
lemma remaining_executedPages {page : QueryResult (Option Text) ℕ}
    {pages : List (QueryResult (Option Text) ℕ)}
    (hserves : Serves (stringPages P (page :: pages)).source.env 0 (page :: pages))
    (hrows : ∀ page' ∈ page :: pages, page'.rows ≠ []) :
    (executedPages P (page :: pages)).Remaining
      (((page :: pages).map QueryResult.rows).flatten.map
        (dataRow (executedPages P (page :: pages)).source
          (executedPages P (page :: pages)).state.query.resultMeta)) := by
  obtain ⟨q, hexecute, hremaining⟩ :=
    WholeQuery.remaining_execute (q := stringPages P (page :: pages)) rfl Nat.one_pos hserves hrows
  unfold executedPages
  rw [hexecute]
  exact hremaining

/-- A statement that fetches a column of characters from a query, into rowsets of two elements. -/
def fetchingTwo (query : WholeQuery Text ℕ) : Statement (Query (WholeQuery Text ℕ)) :=
  { (new ⟨0, 1, 2, 3, 0, 2⟩ : Statement (Query (WholeQuery Text ℕ))) with
    currentQuery := some (.data query)
    columnBindings := Function.update (fun _ => none) 1 (some (.new .aiChar (some 100) 8 (some 200)))
    rowArraySize := 2 }

/-- Two pages with three rows. -/
def threeRows : List (QueryResult (Option Text) ℕ) :=
  [⟨"", [[some ['a']], [some ['b']]], "t", [0]⟩, ⟨"", [[some ['c']]], "", [0]⟩]

/-- A rowset of two elements takes two of the three rows. -/
theorem rowset_fetch_law_two_of_three :
    (fetchingTwo (executedPages samplePlatform threeRows)).Fetches samplePlatform 2 0
      ([[some ['a']], [some ['b']], [some ['c']]].map
        (dataRow (executedPages samplePlatform threeRows).source [0]))
      ((fetchingTwo (executedPages samplePlatform threeRows)).internalFetchRow
        (Query.whole samplePlatform) fun _ => 0) := by
  have hremaining : (executedPages samplePlatform threeRows).Remaining
      ([[some ['a']], [some ['b']], [some ['c']]].map
        (dataRow (executedPages samplePlatform threeRows).source [0])) :=
    remaining_executedPages (by simp [Serves, stringPages, DataSource.env, scriptedService])
      (by simp)
  exact (rowset_fetch_law_iff (fetchingTwo (executedPages samplePlatform threeRows)) _ rfl _
    hremaining fun _ => 0).1.mpr rfl

/-- A platform with wide characters of two bytes. -/
def ucs2Platform : Platform := { samplePlatform with wcharSize := 2, wcharSize_eq := .inl rfl }

/-- A page of which the second row has a character outside the basic plane. -/
def outsidePlane : List (QueryResult (Option Text) ℕ) :=
  [⟨"", [[some ['a']], [some [Char.ofNat 0x1F600]]], "", [0]⟩]

/-- Where wide characters have two bytes, the fetch of a character outside the basic plane into a
buffer of characters does not come back, and the row before it is not reported either. -/
theorem not_fetches_outside_plane :
    ∃ rows : List RemainingRow, rows.length = 2 ∧
      (executedPages ucs2Platform outsidePlane).Remaining rows ∧
      (fetchingTwo (executedPages ucs2Platform outsidePlane)).internalFetchRow
        (Query.whole ucs2Platform) (fun _ => 0) = none ∧
      ¬ (fetchingTwo (executedPages ucs2Platform outsidePlane)).Fetches ucs2Platform 2 0 rows
        ((fetchingTwo (executedPages ucs2Platform outsidePlane)).internalFetchRow
          (Query.whole ucs2Platform) fun _ => 0) := by
  have hnone : (fetchingTwo (executedPages ucs2Platform outsidePlane)).internalFetchRow
      (Query.whole ucs2Platform) (fun _ => 0) = none := rfl
  refine ⟨_, ?_, remaining_executedPages (by simp [Serves, stringPages, DataSource.env,
    scriptedService]) (by simp), hnone, ?_⟩
  · rfl
  · rintro ⟨reply, t, query, outcomes, hcall, -⟩
    rw [hnone] at hcall
    cases hcall

end Statement

end TimestreamOdbc
