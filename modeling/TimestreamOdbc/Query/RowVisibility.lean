import TimestreamOdbc.Query.RemainingRows

/-!
# The row that a query shows

The cursor of a result is before the first row, on a row, or behind the last one.  Between fetches a
query shows it through `GetColumn` and `RowNumber`.  A data query keeps it as a position, an iterator
and a counter of rows, the catalog queries as an iterator and a flag; none of them tells the place
before the first row from the first row.
-/

namespace TimestreamOdbc

/-! ## The cursor of a result -/

/-- The row that is visible after some fetches, with its number: none before the first fetch and behind
the last row. -/
def visibleRow {ρ : Type} (rows : List ρ) : ℕ → Option (ρ × ℕ)
  | 0 => none
  | n + 1 => rows[n]?.map fun row => (row, n + 1)

/-- What is visible of a row: the columns that are read from it, and what its conversion into bound
columns comes to. -/
structure ShownRow where
  read : ℕ → ApplicationDataBuffer → Option ColumnRead
  convert : ColumnBindings → Option SqlResult

/-- A row of a data query. -/
def shownDataRow {δ γ : Type} (source : DataSource δ γ) (resultMeta : List γ)
    (row : List (Option δ)) : ShownRow where
  read columnIdx buffer :=
    (DataQuery.convertColumn source.columns.readToBinding resultMeta (some row) columnIdx
      (.ofBuffer buffer)).map fun (convRes, b) =>
        ⟨(DataQuery.processConversionResult convRes columnIdx).1,
          (DataQuery.processConversionResult convRes columnIdx).2,
          b.written.head?.map Written.put⟩
  convert columnBindings := (DataQuery.convertRow source.env resultMeta (some row) columnBindings).1

/-- A row of a catalog query. -/
def shownMetaRow {μ : Type} (columnValue : μ → ℕ → Option MetaValue)
    (unknownColumn : SqlResult × List DiagnosticRecord) (P : Platform) (row : μ) : ShownRow where
  read := readMetaColumn columnValue unknownColumn P row
  convert _ := some .aiSuccess

/-- `RowNumber` of the catalog queries. -/
def MetaCursor.rowNumber {μ : Type} (c : MetaCursor μ) : ℕ :=
  if !c.executed || c.atEnd then 0 else c.cursor + 1

/-- Fetches one after the other, each with its own bindings; nothing when one of them does not
return. -/
def fetchAll {Q : Type} (K : QueryClass Q) : List ColumnBindings → Q → Option Q
  | [], q => some q
  | columnBindings :: bs, q =>
    (K.fetchNextRow columnBindings q).bind fun fetched => fetchAll K bs fetched.2

/-- What every fetch preserves holds after more of them. -/
lemma fetchAll_append {Q : Type} {K : QueryClass Q} {Inv : List ColumnBindings → Q → Prop}
    (hstep : ∀ done columnBindings q fetched, Inv done q →
      K.fetchNextRow columnBindings q = some fetched → Inv (done ++ [columnBindings]) fetched.2)
    {bs done : List ColumnBindings} {q q' : Q} (h : Inv done q) (hrun : fetchAll K bs q = some q') :
    Inv (done ++ bs) q' := by
  induction bs generalizing done q with
  | nil =>
    obtain rfl := Option.some.inj hrun
    rwa [List.append_nil]
  | cons columnBindings bs ih =>
    obtain ⟨fetched, hfetch, hrest⟩ := Option.bind_eq_some_iff.mp hrun
    have hnext := ih (hstep done columnBindings q fetched h hfetch) hrest
    rwa [List.append_assoc, List.singleton_append] at hnext

/-- What holds before the first fetch and is preserved by every fetch holds after all of them. -/
lemma fetchAll_induction {Q : Type} {K : QueryClass Q} (Inv : List ColumnBindings → Q → Prop)
    {bs : List ColumnBindings} {q q' : Q} (h : Inv [] q) (hrun : fetchAll K bs q = some q')
    (hstep : ∀ done columnBindings q fetched, Inv done q →
      K.fetchNextRow columnBindings q = some fetched → Inv (done ++ [columnBindings]) fetched.2) :
    Inv bs q' := fetchAll_append hstep h hrun

/-- The row after the paired ones is paired with what is appended. -/
lemma zip_append_singleton {α β : Type} {rows : List α} {bs : List β} {row : α}
    (hrow : rows[bs.length]? = some row) (b : β) :
    rows.zip (bs ++ [b]) = rows.zip bs ++ [(row, b)] := by
  induction bs generalizing rows with
  | nil =>
    cases rows with
    | nil => cases hrow
    | cons first rows =>
      obtain rfl : first = row := by simpa using hrow
      simp
  | cons first bs ih =>
    cases rows with
    | nil => cases hrow
    | cons head rows =>
      have hrest : rows[bs.length]? = some row := by simpa using hrow
      simp [ih hrest]

namespace Query

variable {δ γ : Type}

/-- `RowNumber`. -/
def rowNumber : Query (WholeQuery δ γ) → ℕ
  | data q => q.state.query.rowNumber
  | tables q => q.state.rowNumber
  | columns q => q.state.rowNumber
  | typeInfo q => q.state.rowNumber
  | unsupported _ => 0

/-- A query shows a row when its columns are what `GetColumn` delivers and its number is the row
number; it shows none when `GetColumn` reports an invalid cursor state. -/
def Shows (P : Platform) (q : Query (WholeQuery δ γ)) : Option (ShownRow × ℕ) → Prop
  | some (row, n) =>
    (∀ columnIdx buffer,
      ((whole P).getColumn columnIdx buffer q).map Prod.fst = row.read columnIdx buffer) ∧
    q.rowNumber = n
  | none =>
    (∀ columnIdx buffer, ∃ read, ((whole P).getColumn columnIdx buffer q).map Prod.fst = some read ∧
      read.result = .aiError ∧ read.put = none ∧
        ∃ record ∈ read.records, record.sqlState = .s24000InvalidCursorState) ∧
    q.rowNumber = 0

end Query

/-! ## Catalog queries -/

namespace MetaCursor

variable {μ : Type} {c : MetaCursor μ} {rows : List μ} {n : ℕ}

/-- The cursor of an executed catalog query after a number of fetches. -/
structure Stands (c : MetaCursor μ) (rows : List μ) (n : ℕ) : Prop where
  executed : c.executed = true
  fetched : c.fetched = decide (0 < n)
  collected : c.rows = rows
  cursor : c.cursor = min (n - 1) rows.length

/-- A fetch moves it on. -/
lemma Stands.moved (h : c.Stands rows n) : c.moved.Stands rows (n + 1) := by
  obtain ⟨hexecuted, hfetched, hrows, hcursor⟩ := h
  unfold MetaCursor.moved
  rcases Nat.eq_zero_or_pos n with rfl | hpos
  · have hfalse : c.fetched = false := by simpa using hfetched
    rw [if_pos (by simp [hfalse])]
    exact ⟨hexecuted, by simp, hrows, by simpa using hcursor⟩
  · have htrue : c.fetched = true := by simpa [hpos] using hfetched
    rw [if_neg (by simp [htrue])]
    have hend : c.atEnd = true ↔ c.cursor = rows.length := by
      simp [atEnd, hrows]
    split
    · next hatEnd =>
      have := hend.mp hatEnd
      exact ⟨hexecuted, by simpa using htrue, hrows, by omega⟩
    · next hatEnd =>
      have : c.cursor ≠ rows.length := fun heq => hatEnd (hend.mpr heq)
      exact ⟨hexecuted, by simpa using htrue, hrows, by dsimp only; omega⟩

/-- Every fetch that returns does. -/
lemma Stands.fetchNextRow {readColumn : MetaCursor μ → ℕ → ApplicationDataBuffer → Option ColumnRead}
    {columnBindings : ColumnBindings} {fetched : FetchedRow × MetaCursor μ} (h : c.Stands rows n)
    (hfetch : c.fetchNextRow readColumn columnBindings = some fetched) :
    fetched.2.Stands rows (n + 1) := by
  unfold MetaCursor.fetchNextRow at hfetch
  rw [h.executed] at hfetch
  simp only [Bool.not_true, Bool.false_eq_true, if_false] at hfetch
  split at hfetch
  · obtain rfl := Option.some.inj hfetch
    exact h.moved
  · obtain ⟨read, -, rfl⟩ := Option.map_eq_some_iff.mp hfetch
    exact h.moved

/-- The row it is on. Before the first fetch that is the first one. -/
lemma Stands.currentRow (h : c.Stands rows n) : c.currentRow = rows[n - 1]? := by
  rw [MetaCursor.currentRow, h.collected, h.cursor]
  rcases Nat.lt_or_ge (n - 1) rows.length with hlt | hge
  · rw [Nat.min_eq_left hlt.le]
  · rw [Nat.min_eq_right hge, List.getElem?_eq_none hge, List.getElem?_eq_none le_rfl]

/-- The number of it. -/
lemma Stands.rowNumber (h : c.Stands rows n) :
    c.rowNumber = if n - 1 < rows.length then n - 1 + 1 else 0 := by
  have hend : c.atEnd = decide (rows.length ≤ n - 1) := by
    simp only [atEnd, h.collected, h.cursor]
    congr 1
    simp only [eq_iff_iff]
    omega
  rw [MetaCursor.rowNumber, h.executed, hend, h.cursor]
  by_cases hlt : n - 1 < rows.length
  · rw [if_neg (by simpa using hlt), if_pos hlt, Nat.min_eq_left hlt.le]
  · rw [if_pos (by simpa using hlt), if_neg hlt]

end MetaCursor

/-- What a query with a cursor over collected rows shows after some fetches: the visible row, but for
the time before the first fetch, when it shows the first row, if there is one. -/
lemma shows_of_stands {δ γ μ : Type} {P : Platform} {c : MetaCursor μ} {rows : List μ} {n : ℕ}
    {columnValue : μ → ℕ → Option MetaValue} {unknownColumn : SqlResult × List DiagnosticRecord}
    {q : Query (WholeQuery δ γ)} (h : c.Stands rows n)
    (hcolumn : ∀ columnIdx buffer, ((Query.whole P).getColumn columnIdx buffer q).map Prod.fst =
      c.getColumn columnValue unknownColumn P columnIdx buffer)
    (hnumber : q.rowNumber = c.rowNumber)
    (hzero : ∀ row, columnValue row 0 = none)
    (hunknown : ∀ record ∈ unknownColumn.2, record.sqlState ≠ .s24000InvalidCursorState) :
    q.Shows P (visibleRow (rows.map (shownMetaRow columnValue unknownColumn P)) n) ↔
      rows = [] ∨ n ≠ 0 := by
  have hread : ∀ row, rows[n - 1]? = some row → ∀ columnIdx buffer,
      ((Query.whole P).getColumn columnIdx buffer q).map Prod.fst =
        readMetaColumn columnValue unknownColumn P row columnIdx buffer := by
    intro row hrow columnIdx buffer
    rw [hcolumn, MetaCursor.getColumn_eq h.executed (h.currentRow.trans hrow)]
  have hnone : rows[n - 1]? = none → q.Shows P none := by
    intro hrow
    refine ⟨fun columnIdx buffer => ⟨⟨.aiError, [endOfResultSet], none⟩, ?_, rfl, rfl, endOfResultSet,
      List.mem_singleton_self _, rfl⟩, ?_⟩
    · rw [hcolumn]
      unfold MetaCursor.getColumn
      rw [h.executed, h.currentRow, hrow]
      rfl
    · have hge := List.getElem?_eq_none_iff.mp hrow
      rw [hnumber, h.rowNumber, if_neg (by omega)]
  cases n with
  | zero =>
    cases rows with
    | nil => exact iff_of_true (hnone rfl) (.inl rfl)
    | cons row rows =>
      refine iff_of_false ?_ (by simp)
      rintro ⟨hnothing, -⟩
      obtain ⟨read, hget, -, -, record, hrecord, hstate⟩ :=
        hnothing 0 ⟨.aiChar, false, 0, false, 0, 0, 0⟩
      rw [hread row rfl, readMetaColumn, hzero] at hget
      obtain rfl := Option.some.inj hget
      exact hunknown record hrecord hstate
  | succ n =>
    refine iff_of_true ?_ (.inr (Nat.succ_ne_zero n))
    cases hrow : rows[n]? with
    | none =>
      rw [visibleRow, List.getElem?_map, hrow]
      exact hnone hrow
    | some row =>
      have hlt : n < rows.length := (List.getElem?_eq_some_iff.mp hrow).1
      rw [visibleRow, List.getElem?_map, hrow]
      refine ⟨hread row hrow, ?_⟩
      rw [hnumber, h.rowNumber, Nat.add_sub_cancel, if_pos hlt]

/-! ## Data queries -/

namespace WholeQuery

variable {δ γ : Type} {q : WholeQuery δ γ} {source : DataSource δ γ} {resultMeta : List γ}
  {rows : List (List (Option δ))} {bs : List ColumnBindings}

/-- The rows that were converted without an error, by the bindings they were fetched into. -/
def converted (source : DataSource δ γ) (resultMeta : List γ) (rows : List (List (Option δ)))
    (bs : List ColumnBindings) : ℕ :=
  (rows.zip bs).countP fun fetched =>
    (shownDataRow source resultMeta fetched.1).convert fetched.2 = some .aiSuccess

/-- An executed data query after fetches into some bindings: its result has no rows, its cursor has a
row, or it came to the end. -/
inductive Stands (source : DataSource δ γ) (resultMeta : List γ) (rows : List (List (Option δ)))
    (bs : List ColumnBindings) (q : WholeQuery δ γ) : Prop
  | nothing (empty : rows = []) (cursor : q.state.query.cursor = none)
  | inside {c : TimestreamCursor (Option δ) γ} {pages : List (QueryResult (Option δ) γ)}
      (reads : q.source = source)
      (serving : SyncQuery.Serving source.env q.state c pages) (columns : c.ColumnsOf resultMeta)
      (metadata : q.state.query.resultMeta = resultMeta)
      (pending : pendingRows c pages = rows.drop bs.length) (le : bs.length ≤ rows.length)
      (nonempty : rows ≠ []) (hasData : c.hasData = true) (row : c.currentRow = rows[bs.length - 1]?)
      (rowCounter : q.state.query.rowCounter = converted source resultMeta rows bs)
  | behind {c : TimestreamCursor (Option δ) γ} (cursor : q.state.query.cursor = some c)
      (hasData : c.hasData = false)
      (stopped : q.state.query.hasAsyncFetch = false ∨ q.state.query.context.queue = [])
      (lt : rows.length < bs.length) (nonempty : rows ≠ [])

/-- A fetch that ends on a row. -/
lemma stands_finishRow {columnBindings : ColumnBindings} {s : SyncQuery (Option δ) γ}
    {c : TimestreamCursor (Option δ) γ} {pages : List (QueryResult (Option δ) γ)}
    (hsource : q.source = source) (hplaced : c.WellPlaced) (hmore : c.increment.1 = true)
    (hserving : SyncQuery.Serving source.env s c.moved pages) (hcolumns : c.ColumnsOf resultMeta)
    (hmeta : s.query.resultMeta = resultMeta) (hpending : pendingRows c pages = rows.drop bs.length)
    (hcounter : s.query.rowCounter = converted source resultMeta rows bs) :
    Stands source resultMeta rows (bs ++ [columnBindings])
      { q with state := (s.finishRow source.env columnBindings).2 } := by
  obtain ⟨row, hrow, hremaining⟩ := TimestreamCursor.remaining_eq_cons_of_increment hplaced hmore
  have hdiscovered : c.moved.ColumnsOf s.query.resultMeta := by
    rw [hmeta]
    exact hcolumns
  obtain ⟨columns, hcolumns', hserving', hread⟩ :=
    hserving.convertsRow hdiscovered columnBindings
  rw [hrow] at hread
  have hdrop : rows.drop bs.length = row :: pendingRows c.moved pages := by
    rw [← hpending, pendingRows, pendingRows, hremaining, List.cons_append]
  have hlt : bs.length < rows.length := by
    by_contra hge
    rw [List.drop_eq_nil_of_le (Nat.not_lt.mp hge)] at hdrop
    cases hdrop
  have hget : rows[bs.length]? = some row := by
    have := congrArg List.head? hdrop
    rwa [List.head?_drop] at this
  refine .inside hsource hserving' ?_ ?_ ?_ (by simpa using Nat.succ_le_of_lt hlt)
    (List.ne_nil_of_length_pos (by omega)) hmore ?_ ?_
  · rwa [hmeta] at hcolumns'
  · simpa [SyncQuery.finishRow] using hmeta
  · have hnext := congrArg List.tail hdrop
    rw [List.tail_drop, List.tail_cons] at hnext
    rw [List.length_append, List.length_singleton, hnext]
    rfl
  · rw [List.length_append, List.length_singleton, Nat.add_sub_cancel, hget]
    exact hrow
  · have hconvert : (shownDataRow source resultMeta row).convert columnBindings =
        (DataQuery.convertRow source.env s.query.resultMeta (some row) columnBindings).1 := by
      rw [hmeta]
      rfl
    dsimp only
    rw [SyncQuery.finishRow, hread]
    dsimp only
    rw [hcounter, converted, converted, zip_append_singleton hget, List.countP_append,
      List.countP_singleton, hconvert]
    by_cases hsuccess : (DataQuery.convertRow source.env s.query.resultMeta (some row)
        columnBindings).1 = some .aiSuccess
    · rw [if_pos hsuccess, if_pos (by simpa using hsuccess)]
    · rw [if_neg hsuccess, if_neg (by simpa using hsuccess)]
      rfl

/-- Every fetch that returns keeps the account. -/
lemma Stands.fetchNextRow (h : Stands source resultMeta rows bs q) {columnBindings : ColumnBindings}
    {fetched : FetchedRow × WholeQuery δ γ} (hfetch : q.fetchNextRow columnBindings = some fetched) :
    Stands source resultMeta rows (bs ++ [columnBindings]) fetched.2 := by
  obtain ⟨⟨f, t⟩, hsync, hresult⟩ := Option.bind_eq_some_iff.mp hfetch
  obtain ⟨result, -, rfl⟩ := Option.map_eq_some_iff.mp hresult
  cases h with
  | nothing hempty hcursor =>
    rw [SyncQuery.fetchNextRow, DataQuery.fetchTurn_none hcursor] at hsync
    obtain ⟨-, rfl⟩ := Prod.mk.inj (Option.some.inj hsync)
    exact .nothing hempty hcursor
  | inside hsource hserving hcolumns hmeta hpending hle hsome hdata hrow hcounter =>
    rw [hsource] at hsync
    cases hserving.advances columnBindings with
    | row hnext hplaced hmore hserving' hpending' hdiscovered _ hmeta' hcounter' =>
      obtain ⟨-, rfl⟩ := Prod.mk.inj (Option.some.inj (hnext.symm.trans hsync))
      exact stands_finishRow hsource hplaced hmore hserving' (hdiscovered.trans hcolumns)
        (hmeta'.trans hmeta) (hpending'.trans hpending) (hcounter'.trans hcounter)
    | ended hnext hmore hnone hcursor hstopped =>
      obtain ⟨-, rfl⟩ := Prod.mk.inj (Option.some.inj (hnext.symm.trans hsync))
      have hge : rows.length ≤ bs.length := List.drop_eq_nil_iff.mp (hpending.symm.trans hnone)
      refine .behind hcursor hmore hstopped ?_ hsome
      rw [List.length_append, List.length_singleton]
      omega
  | @behind c hcursor hdata hstopped hlt hsome =>
    have hpos : c.rowVec.length < c.curPos := Nat.not_le.mp (of_decide_eq_false hdata)
    have hmore : c.increment.1 = false := decide_eq_false (by simp [TimestreamCursor.moved]; omega)
    have hlt' : rows.length < (bs ++ [columnBindings]).length := by
      rw [List.length_append]
      omega
    cases hflag : q.state.query.hasAsyncFetch with
    | false =>
      rw [SyncQuery.fetchNextRow, DataQuery.fetchTurn_end hcursor hmore hflag] at hsync
      obtain ⟨-, rfl⟩ := Prod.mk.inj (Option.some.inj hsync)
      exact .behind rfl hmore (.inl hflag) hlt' hsome
    | true =>
      -- nothing will arrive in the queue
      have hqueue : q.state.query.context.queue = [] := hstopped.resolve_left (by simp [hflag])
      rw [SyncQuery.fetchNextRow, DataQuery.fetchTurn_switch hcursor hmore hflag] at hsync
      simp [SyncQuery.switchCursor, hqueue] at hsync

/-- Reading a column of the row under the cursor. -/
lemma getColumn_of_hasData {c : TimestreamCursor (Option δ) γ} (hcursor : q.state.query.cursor = some c)
    (hcolumns : c.ColumnsOf q.state.query.resultMeta) (hdata : c.hasData = true)
    {row : List (Option δ)} (hrow : c.currentRow = some row) (columnIdx : ℕ)
    (buffer : ApplicationDataBuffer) :
    (q.getColumn columnIdx buffer).map Prod.fst =
      (shownDataRow q.source q.state.query.resultMeta row).read columnIdx buffer := by
  obtain ⟨columns, -, hread⟩ :=
    DataQuery.readColumnToBuffer_eq q.source.env.readToBuffer hcolumns columnIdx (.ofBuffer buffer)
  rw [hrow] at hread
  unfold WholeQuery.getColumn DataSource.getColumn DataQuery.getColumn shownDataRow
  rw [hcursor]
  simp only [hdata, Bool.not_true, Bool.false_eq_true, if_false, hread]
  cases hconvert : DataQuery.convertColumn q.source.env.readToBuffer q.state.query.resultMeta
      (some row) columnIdx (.ofBuffer buffer) with
  | none =>
    change none = Option.map _ (DataQuery.convertColumn q.source.env.readToBuffer _ _ _ _)
    rw [hconvert]
    rfl
  | some converted =>
    change some _ = Option.map _ (DataQuery.convertColumn q.source.env.readToBuffer _ _ _ _)
    rw [hconvert]
    rfl

/-- All rows fetched were converted if and only if as many were as fetches were made. -/
lemma converted_eq_length_iff (hle : bs.length ≤ rows.length) :
    converted source resultMeta rows bs = bs.length ↔
      ∀ fetched ∈ rows.zip bs,
        (shownDataRow source resultMeta fetched.1).convert fetched.2 = some .aiSuccess := by
  have hlength : (rows.zip bs).length = bs.length := by
    rw [List.length_zip, Nat.min_eq_right hle]
  rw [converted, ← hlength, List.countP_eq_length]
  simp only [decide_eq_true_eq]

/-- What a data query shows. -/
lemma Stands.shows_iff {P : Platform} (h : Stands source resultMeta rows bs q) :
    (Query.data q).Shows P (visibleRow (rows.map (shownDataRow source resultMeta)) bs.length) ↔
      rows ≠ [] ∧ bs ≠ [] ∧ (bs.length ≤ rows.length → ∀ fetched ∈ rows.zip bs,
        (shownDataRow source resultMeta fetched.1).convert fetched.2 = some .aiSuccess) := by
  have hcolumn : ∀ columnIdx buffer,
      ((Query.whole P).getColumn columnIdx buffer (Query.data q)).map Prod.fst =
        (q.getColumn columnIdx buffer).map Prod.fst := by
    intro columnIdx buffer
    change ((q.getColumn columnIdx buffer).map _).map Prod.fst = _
    rw [Option.map_map]
    rfl
  cases h with
  | nothing hempty hcursor =>
    subst hempty
    refine iff_of_false ?_ (fun h => h.1 rfl)
    have hnone : visibleRow (([] : List (List (Option δ))).map (shownDataRow source resultMeta))
        bs.length = none := by
      cases bs <;> rfl
    rw [hnone]
    rintro ⟨hnothing, -⟩
    obtain ⟨read, hget, -, -, record, hrecord, hstate⟩ :=
      hnothing 0 ⟨.aiChar, false, 0, false, 0, 0, 0⟩
    rw [hcolumn] at hget
    simp only [WholeQuery.getColumn, DataSource.getColumn, DataQuery.getColumn, hcursor,
      Option.map_some, Option.some.injEq] at hget
    subst hget
    obtain rfl := List.mem_singleton.mp hrecord
    cases hstate
  | @inside c pages hsource hserving hcolumns hmeta hpending hle hnonempty hdata hrow hcounter =>
    obtain ⟨row, hget⟩ : ∃ row, rows[bs.length - 1]? = some row := by
      have hpos := List.length_pos_iff.mpr hnonempty
      exact ⟨_, List.getElem?_eq_getElem (by omega)⟩
    have hread : ∀ columnIdx buffer,
        ((Query.whole P).getColumn columnIdx buffer (Query.data q)).map Prod.fst =
          (shownDataRow source resultMeta row).read columnIdx buffer := by
      intro columnIdx buffer
      rw [hcolumn, getColumn_of_hasData hserving.cursor (by rwa [hmeta]) hdata (hrow.trans hget),
        hsource, hmeta]
    have honRow : q.state.query.onRow = true := by
      rw [DataQuery.onRow, hserving.cursor]
      exact hdata
    have hnumber : (Query.data q).rowNumber = converted source resultMeta rows bs := by
      change q.state.query.rowNumber = _
      rw [DataQuery.rowNumber, if_pos honRow, hcounter]
    cases hbs : bs with
    | nil =>
      refine iff_of_false ?_ (fun h => h.2.1 rfl)
      rintro ⟨hnothing, -⟩
      obtain ⟨read, hget', -, -, record, hrecord, hstate⟩ :=
        hnothing 0 ⟨.aiChar, false, 0, false, 0, 0, 0⟩
      rw [hread] at hget'
      -- there is no column 0
      have hfailure : (shownDataRow source resultMeta row).read 0 ⟨.aiChar, false, 0, false, 0, 0, 0⟩ =
          some ⟨.aiError, (DataQuery.processConversionResult .aiFailure 0).2, none⟩ := by
        simp [shownDataRow, DataQuery.convertColumn, ColumnBinding.ofBuffer,
          DataQuery.processConversionResult]
      rw [hfailure] at hget'
      obtain rfl := Option.some.inj hget'
      obtain rfl := List.mem_singleton.mp hrecord
      cases hstate
    | cons first rest =>
      rw [← hbs]
      have hlength : bs.length = rest.length + 1 := by
        rw [hbs, List.length_cons]
      have hget' : rows[rest.length]? = some row := by
        rwa [hlength, Nat.add_sub_cancel] at hget
      have hvisible : visibleRow (rows.map (shownDataRow source resultMeta)) bs.length =
          some (shownDataRow source resultMeta row, bs.length) := by
        rw [hlength, visibleRow, List.getElem?_map, hget']
        rfl
      rw [hvisible]
      constructor
      · rintro ⟨-, hsame⟩
        exact ⟨hnonempty, by simp [hbs],
          fun _ => (converted_eq_length_iff hle).mp (hnumber.symm.trans hsame)⟩
      · rintro ⟨-, -, hall⟩
        exact ⟨hread, hnumber.trans ((converted_eq_length_iff hle).mpr (hall hle))⟩
  | @behind c hcursor hdata hstopped hlt hnonempty =>
    have hne : bs ≠ [] := by
      rintro rfl
      exact absurd hlt (Nat.not_lt_zero _)
    refine iff_of_true ?_ ⟨hnonempty, hne, fun hle => absurd hlt (Nat.not_lt.mpr hle)⟩
    have hvisible : visibleRow (rows.map (shownDataRow source resultMeta)) bs.length = none := by
      cases bs with
      | nil => rfl
      | cons first rest =>
        rw [List.length_cons, visibleRow, List.getElem?_map,
          List.getElem?_eq_none (Nat.lt_succ_iff.mp hlt)]
        rfl
    rw [hvisible]
    refine ⟨fun columnIdx buffer => ?_, ?_⟩
    · refine ⟨⟨.aiError, [endOfResultSet], none⟩, ?_, rfl, rfl, endOfResultSet,
        List.mem_singleton_self _, rfl⟩
      rw [hcolumn]
      simp only [WholeQuery.getColumn, DataSource.getColumn, DataQuery.getColumn, hcursor, hdata,
        Bool.not_false, if_true, Option.map_some]
      rfl
    · change q.state.query.rowNumber = 0
      rw [DataQuery.rowNumber, if_neg]
      rw [DataQuery.onRow, hcursor]
      simp [hdata]

end WholeQuery

/-! ## All query classes -/

/-- The metadata of a result is that of its first page with rows. -/
def deliveredColumnInfo {δ γ : Type} (pages : List (QueryResult δ γ)) : List γ :=
  match pages.dropWhile (·.rows.isEmpty) with
  | [] => []
  | page :: _ => page.columnInfo

/-- It has rows. -/
lemma rows_of_first {δ γ : Type} {pages : List (QueryResult δ γ)} {page : QueryResult δ γ}
    {rest : List (QueryResult δ γ)} (hfirst : pages.dropWhile (·.rows.isEmpty) = page :: rest) :
    page.rows ≠ [] ∧ deliveredColumnInfo pages = page.columnInfo := by
  constructor
  · have h := List.head_dropWhile_not (fun page : QueryResult δ γ => page.rows.isEmpty)
      (by rw [hfirst]; exact List.cons_ne_nil page rest)
    simp only [hfirst, List.head_cons] at h
    simpa using h
  · unfold deliveredColumnInfo
    rw [hfirst]

namespace Query

variable {δ γ : Type}

/-- A new query that was executed, with the rows of its result. -/
inductive Executed (P : Platform) : Query (WholeQuery δ γ) → List ShownRow → Prop
  | data {q q' : WholeQuery δ γ} {r : SqlResult × List DiagnosticRecord}
      {pages : List (QueryResult (Option δ) γ)} (new : q.state = .new) (nonempty : pages ≠ [])
      (serves : Serves q.source.env 0 pages) (executed : q.execute = some (r, q')) :
      Executed P (.data q')
        ((deliveredRows pages).map (shownDataRow q.source (deliveredColumnInfo pages)))
  | tables {makeRequest : ℕ → Listing TableMeta}
      (result : (makeRequest 0).result = .aiSuccess ∨ (makeRequest 0).result = .aiSuccessWithInfo) :
      Executed P (.tables (TableMetadataQuery.execute (.new makeRequest)).2)
        ((makeRequest 0).rows.map (shownMetaRow TableMeta.columnValue (.aiSuccess, []) P))
  | columns {makeRequest : ℕ → Listing ColumnMeta}
      (result : (makeRequest 0).result = .aiSuccess ∨ (makeRequest 0).result = .aiSuccessWithInfo) :
      Executed P (.columns (ColumnMetadataQuery.execute (.new makeRequest)).2)
        ((makeRequest 0).rows.map (shownMetaRow (ColumnMeta.columnValue P)
          (.aiError, [statusRecord .s07009InvalidDescriptorIndex "Invalid index."]) P))
  | typeInfo (types : List ScalarType) :
      Executed P (.typeInfo (TypeInfoQuery.new types).execute.2)
        (types.map (shownMetaRow ScalarType.columnValue (.aiSuccess, []) P))

/-- The condition for an executed query and the bindings of the fetches: there was a fetch, or there is
no row to mistake for a visible one and the class has the record for that; and in a data query that
has not come to the end, all rows were converted without an error. -/
def VisibleWhen (q : Query (WholeQuery δ γ)) (rows : List ShownRow) (bs : List ColumnBindings) :
    Prop :=
  match q with
  | data _ => rows ≠ [] ∧ bs ≠ [] ∧ (bs.length ≤ rows.length →
      ∀ fetched ∈ rows.zip bs, fetched.1.convert fetched.2 = some .aiSuccess)
  | tables _ => rows ≠ [] ∧ bs ≠ []
  | columns q => q.state.executed = true ∧ (rows = [] ∨ bs ≠ [])
  | typeInfo _ => rows = [] ∨ bs ≠ []
  | unsupported _ => True

end Query

namespace WholeQuery

variable {δ γ : Type}

/-- An executed data query before its first fetch. -/
lemma stands_execute {q q' : WholeQuery δ γ} {r : SqlResult × List DiagnosticRecord}
    {pages : List (QueryResult (Option δ) γ)} (hnew : q.state = .new) (hne : pages ≠ [])
    (hserves : Serves q.source.env 0 pages) (hexecute : q.execute = some (r, q')) :
    Stands q.source (deliveredColumnInfo pages) (deliveredRows pages) [] q' := by
  obtain ⟨⟨r', t⟩, hsync, hq'⟩ := Option.map_eq_some_iff.mp hexecute
  obtain ⟨rfl, rfl⟩ := Prod.mk.inj hq'
  rw [hnew] at hsync
  obtain ⟨r, t', hsync', hstarts⟩ :=
    SyncQuery.execute_starts hserves hne (le_refl pages.length)
  obtain ⟨rfl, rfl⟩ := Prod.mk.inj (SyncQuery.executeLoop_unique hsync' hsync)
  cases hstarts with
  | empty _ hnone hcursor => exact .nothing hnone hcursor
  | @page page rest _ hfirst hdelivered hserving hmeta hcounter =>
    obtain ⟨hrows, hinfo⟩ := rows_of_first hfirst
    have hmeta' : t'.query.resultMeta = deliveredColumnInfo pages := by
      rw [hinfo]
      exact hmeta rfl
    have hhead : (deliveredRows pages)[0]? = page.rows[0]? := by
      rw [hdelivered, pendingRows, TimestreamCursor.remaining_ofRows,
        List.getElem?_append_left (List.length_pos_iff.mpr hrows)]
    refine .inside (c := .ofRows page.rows) rfl hserving
      (TimestreamCursor.columnsOf_ofRows _ _) hmeta' hdelivered.symm (Nat.zero_le _) ?_ ?_ ?_ ?_
    · rw [hdelivered, pendingRows, TimestreamCursor.remaining_ofRows]
      simp [hrows]
    · exact decide_eq_true (Nat.zero_le _)
    · exact hhead.symm
    · rw [hcounter, converted, List.zip_nil_right]
      rfl

end WholeQuery

namespace Query

variable {δ γ : Type} {P : Platform}

/-- What an executed query with a cursor over collected rows shows after fetches. -/
lemma shows_iff_of_cursor {μ : Type} (columnValue : μ → ℕ → Option MetaValue)
    (unknownColumn : SqlResult × List DiagnosticRecord)
    (readColumn : MetaCursor μ → ℕ → ApplicationDataBuffer → Option ColumnRead)
    (wrap : MetaCursor μ → Query (WholeQuery δ γ)) {c : MetaCursor μ} {rows : List μ}
    (h : c.Stands rows 0)
    (hfetch : ∀ (c : MetaCursor μ) columnBindings, c.rows = rows →
      (whole P).fetchNextRow columnBindings (wrap c) =
        (c.fetchNextRow readColumn columnBindings).map fun (f, c') => (f, wrap c'))
    (hcolumn : ∀ (c : MetaCursor μ) columnIdx buffer, c.rows = rows →
      ((whole P).getColumn columnIdx buffer (wrap c)).map Prod.fst =
        c.getColumn columnValue unknownColumn P columnIdx buffer)
    (hnumber : ∀ c : MetaCursor μ, (wrap c).rowNumber = c.rowNumber)
    (hzero : ∀ row, columnValue row 0 = none)
    (hunknown : ∀ record ∈ unknownColumn.2, record.sqlState ≠ .s24000InvalidCursorState)
    {bs : List ColumnBindings} {q : Query (WholeQuery δ γ)}
    (hrun : fetchAll (whole P) bs (wrap c) = some q) :
    q.Shows P (visibleRow (rows.map (shownMetaRow columnValue unknownColumn P)) bs.length) ↔
      rows = [] ∨ bs ≠ [] := by
  have hstands : ∃ c', q = wrap c' ∧ c'.Stands rows bs.length := by
    refine fetchAll_induction (fun done q => ∃ c', q = wrap c' ∧ c'.Stands rows done.length)
      ⟨c, rfl, h⟩ hrun ?_
    rintro done columnBindings _ fetched ⟨c', rfl, hc'⟩ hnext
    rw [hfetch c' columnBindings hc'.collected] at hnext
    obtain ⟨⟨f, c''⟩, hc'', rfl⟩ := Option.map_eq_some_iff.mp hnext
    refine ⟨c'', rfl, ?_⟩
    rw [List.length_append]
    exact hc'.fetchNextRow hc''
  obtain ⟨c', rfl, hc'⟩ := hstands
  rw [shows_of_stands hc' (fun columnIdx buffer => hcolumn c' columnIdx buffer hc'.collected)
    (hnumber c') hzero hunknown, ne_eq, List.length_eq_zero_iff]

/-- A fetch from a table query. -/
lemma fetchNextRow_tables (columnBindings : ColumnBindings) (q : TableMetadataQuery) :
    (whole P).fetchNextRow columnBindings (.tables q : Query (WholeQuery δ γ)) =
      (q.fetchNextRow P columnBindings).map fun (f, q) => (f, .tables q) := rfl

/-- A fetch from a column query. -/
lemma fetchNextRow_columns (columnBindings : ColumnBindings) (q : ColumnMetadataQuery) :
    (whole P).fetchNextRow columnBindings (.columns q : Query (WholeQuery δ γ)) =
      (q.fetchNextRow P columnBindings).map fun (f, q) => (f, .columns q) := rfl

/-- A query that never has a row to show. -/
lemma visibleRow_nil {ρ : Type} (n : ℕ) : visibleRow ([] : List ρ) n = none := by
  cases n <;> rfl

/-- What an executed table query shows. -/
lemma shows_tables_iff {makeRequest : ℕ → Listing TableMeta}
    (hresult : (makeRequest 0).result = .aiSuccess ∨ (makeRequest 0).result = .aiSuccessWithInfo)
    {bs : List ColumnBindings} {q : Query (WholeQuery δ γ)}
    (hrun : fetchAll (whole P) bs (.tables (TableMetadataQuery.execute (.new makeRequest)).2) =
      some q) :
    q.Shows P (visibleRow ((makeRequest 0).rows.map
        (shownMetaRow TableMeta.columnValue (.aiSuccess, []) P)) bs.length) ↔
      (makeRequest 0).rows ≠ [] ∧ bs ≠ [] := by
  have hexecute : (TableMetadataQuery.execute (.new makeRequest)).2 =
      ⟨⟨true, false, (makeRequest 0).rows, 0⟩, makeRequest, 1⟩ := by
    simp [TableMetadataQuery.execute, MetadataQuery.new, MetaCursor.new, hresult]
  rw [hexecute] at hrun
  by_cases hempty : (makeRequest 0).rows = []
  · -- `GetColumn` does not say anything about the cursor of a result without rows
    rw [hempty] at hrun ⊢
    have hkeeps : q = .tables ⟨⟨true, false, [], 0⟩, makeRequest, 1⟩ := by
      refine fetchAll_induction (fun _ q => q = .tables ⟨⟨true, false, [], 0⟩, makeRequest, 1⟩)
        rfl hrun ?_
      rintro _ columnBindings _ fetched rfl hnext
      rw [fetchNextRow_tables, TableMetadataQuery.fetchNextRow, if_pos ⟨rfl, rfl⟩] at hnext
      obtain rfl := Option.some.inj hnext
      rfl
    subst hkeeps
    rw [List.map_nil, visibleRow_nil]
    refine iff_of_false ?_ (fun h => h.1 rfl)
    rintro ⟨hnothing, -⟩
    obtain ⟨read, hget, herror, -⟩ := hnothing 0 ⟨.aiChar, false, 0, false, 0, 0, 0⟩
    obtain rfl : (⟨.aiNoData, [], none⟩ : ColumnRead) = read := Option.some.inj hget
    cases herror
  · have hcursor := shows_iff_of_cursor (P := P) TableMeta.columnValue (.aiSuccess, [])
      (TableMetadataQuery.getColumn P) (fun state => .tables ⟨state, makeRequest, 1⟩)
      (c := ⟨true, false, (makeRequest 0).rows, 0⟩) ⟨rfl, rfl, rfl, by simp⟩ ?_ ?_ (fun _ => rfl)
      (fun _ => rfl) (by simp) hrun
    · rw [hcursor]
      simp [hempty]
    · intro c columnBindings hrows
      rw [fetchNextRow_tables, TableMetadataQuery.fetchNextRow,
        if_neg (fun h => hempty (hrows.symm.trans h.2)), Option.map_map]
      rfl
    · intro c columnIdx buffer hrows
      change ((TableMetadataQuery.getColumn P c columnIdx buffer).map _).map _ = _
      rw [TableMetadataQuery.getColumn, if_neg (fun h => hempty (hrows.symm.trans h.2)),
        Option.map_map]
      exact Option.map_id'

/-- What an executed column query shows. -/
lemma shows_columns_iff {makeRequest : ℕ → Listing ColumnMeta} {bs : List ColumnBindings}
    {q : Query (WholeQuery δ γ)}
    (hrun : fetchAll (whole P) bs (.columns (ColumnMetadataQuery.execute (.new makeRequest)).2) =
      some q) :
    q.Shows P (visibleRow ((makeRequest 0).rows.map (shownMetaRow (ColumnMeta.columnValue P)
        (.aiError, [statusRecord .s07009InvalidDescriptorIndex "Invalid index."]) P)) bs.length) ↔
      (ColumnMetadataQuery.execute (.new makeRequest)).2.state.executed = true ∧
        ((makeRequest 0).rows = [] ∨ bs ≠ []) := by
  by_cases hresult : (makeRequest 0).result = .aiSuccess
  · have hexecute : (ColumnMetadataQuery.execute (.new makeRequest)).2 =
        ⟨⟨true, false, (makeRequest 0).rows, 0⟩, makeRequest, 1⟩ := by
      simp [ColumnMetadataQuery.execute, MetadataQuery.new, MetaCursor.new, hresult]
    rw [hexecute] at hrun ⊢
    have hcursor := shows_iff_of_cursor (P := P) (ColumnMeta.columnValue P)
      (.aiError, [statusRecord .s07009InvalidDescriptorIndex "Invalid index."])
      (ColumnMetadataQuery.getColumn P) (fun state => .columns ⟨state, makeRequest, 1⟩)
      (c := ⟨true, false, (makeRequest 0).rows, 0⟩) ⟨rfl, rfl, rfl, by simp⟩ ?_ ?_ (fun _ => rfl)
      (fun _ => rfl) ?_ hrun
    · rw [hcursor]
      simp
    · intro c columnBindings _
      rw [fetchNextRow_columns, ColumnMetadataQuery.fetchNextRow, Option.map_map]
      rfl
    · intro c columnIdx buffer _
      change ((ColumnMetadataQuery.getColumn P c columnIdx buffer).map _).map _ = _
      rw [Option.map_map]
      exact Option.map_id'
    · intro record hrecord
      obtain rfl := List.mem_singleton.mp hrecord
      exact fun h => nomatch h
  · -- the query counts as not executed
    have hexecute : (ColumnMetadataQuery.execute (.new makeRequest)).2 =
        ⟨⟨false, false, (makeRequest 0).rows, 0⟩, makeRequest, 1⟩ := by
      simp [ColumnMetadataQuery.execute, MetadataQuery.new, MetaCursor.new, hresult]
    rw [hexecute] at hrun ⊢
    have hkeeps : q = .columns ⟨⟨false, false, (makeRequest 0).rows, 0⟩, makeRequest, 1⟩ := by
      refine fetchAll_induction (fun _ q =>
        q = .columns ⟨⟨false, false, (makeRequest 0).rows, 0⟩, makeRequest, 1⟩) rfl hrun ?_
      rintro _ columnBindings _ fetched rfl hnext
      simp only [fetchNextRow_columns, ColumnMetadataQuery.fetchNextRow, MetaCursor.fetchNextRow,
        Bool.not_false, if_true, Option.map_some, Option.some.injEq] at hnext
      subst hnext
      rfl
    subst hkeeps
    refine iff_of_false ?_ (fun h => absurd h.1 (by simp))
    intro hshows
    cases hvisible : visibleRow ((makeRequest 0).rows.map (shownMetaRow (ColumnMeta.columnValue P)
        (.aiError, [statusRecord .s07009InvalidDescriptorIndex "Invalid index."]) P)) bs.length with
    | none =>
      rw [hvisible] at hshows
      obtain ⟨read, hget, -, -, record, hrecord, hstate⟩ :=
        hshows.1 0 ⟨.aiChar, false, 0, false, 0, 0, 0⟩
      obtain rfl : (⟨.aiError, [notExecuted], none⟩ : ColumnRead) = read := Option.some.inj hget
      obtain rfl := List.mem_singleton.mp hrecord
      cases hstate
    | some visible =>
      rw [hvisible] at hshows
      have hzero : 0 = visible.2 := hshows.2
      cases bs with
      | nil => cases hvisible
      | cons first rest =>
        obtain ⟨row, -, hrow⟩ := Option.map_eq_some_iff.mp hvisible
        rw [← hrow] at hzero
        cases hzero

/-- What an executed query of types shows. -/
lemma shows_typeInfo_iff {types : List ScalarType} {bs : List ColumnBindings}
    {q : Query (WholeQuery δ γ)}
    (hrun : fetchAll (whole P) bs (.typeInfo (TypeInfoQuery.new types).execute.2) = some q) :
    q.Shows P (visibleRow (types.map (shownMetaRow ScalarType.columnValue (.aiSuccess, []) P))
        bs.length) ↔ types = [] ∨ bs ≠ [] := by
  refine shows_iff_of_cursor _ _ (TypeInfoQuery.getColumn P) (fun state => .typeInfo ⟨state⟩)
    (c := ⟨true, false, types, 0⟩)
    ⟨rfl, rfl, rfl, by simp⟩ ?_ ?_ (fun _ => rfl) (fun _ => rfl) (by simp) hrun
  · intro c columnBindings _
    change (TypeInfoQuery.fetchNextRow P columnBindings ⟨c⟩).map _ = _
    rw [TypeInfoQuery.fetchNextRow, Option.map_map]
    rfl
  · intro c columnIdx buffer _
    change ((TypeInfoQuery.getColumn P c columnIdx buffer).map _).map _ = _
    rw [Option.map_map]
    exact Option.map_id'

/-- What an executed data query shows. -/
lemma shows_data_iff {q q₁ : WholeQuery δ γ} {r : SqlResult × List DiagnosticRecord}
    {pages : List (QueryResult (Option δ) γ)} (hnew : q.state = .new) (hne : pages ≠ [])
    (hserves : Serves q.source.env 0 pages) (hexecute : q.execute = some (r, q₁))
    {bs : List ColumnBindings} {q' : Query (WholeQuery δ γ)}
    (hrun : fetchAll (whole P) bs (.data q₁) = some q') :
    q'.Shows P (visibleRow
        ((deliveredRows pages).map (shownDataRow q.source (deliveredColumnInfo pages))) bs.length) ↔
      deliveredRows pages ≠ [] ∧ bs ≠ [] ∧ (bs.length ≤ (deliveredRows pages).length →
        ∀ fetched ∈ (deliveredRows pages).zip bs,
          (shownDataRow q.source (deliveredColumnInfo pages) fetched.1).convert fetched.2 =
            some .aiSuccess) := by
  have hstands : ∃ q₂, q' = .data q₂ ∧
      WholeQuery.Stands q.source (deliveredColumnInfo pages) (deliveredRows pages) bs q₂ := by
    refine fetchAll_induction (fun done q' => ∃ q₂, q' = .data q₂ ∧
        WholeQuery.Stands q.source (deliveredColumnInfo pages) (deliveredRows pages) done q₂)
      ⟨q₁, rfl, WholeQuery.stands_execute hnew hne hserves hexecute⟩ hrun ?_
    rintro done columnBindings _ fetched ⟨q₂, rfl, hq₂⟩ hnext
    obtain ⟨⟨f, q₃⟩, hfetch, rfl⟩ := Option.map_eq_some_iff.mp hnext
    exact ⟨q₃, rfl, hq₂.fetchNextRow hfetch⟩
  obtain ⟨q₂, rfl, hq₂⟩ := hstands
  exact hq₂.shows_iff

/-- After any fetches from an executed query, it shows the row that is visible exactly when the
condition holds. -/
theorem rowVisibility_iff {q q' : Query (WholeQuery δ γ)} {rows : List ShownRow}
    (hexecuted : Executed P q rows) {bs : List ColumnBindings}
    (hrun : fetchAll (whole P) bs q = some q') :
    q'.Shows P (visibleRow rows bs.length) ↔ VisibleWhen q rows bs := by
  unfold VisibleWhen
  cases hexecuted with
  | data hnew hne hserves hexecute =>
    rw [shows_data_iff hnew hne hserves hexecute hrun]
    simp only [ne_eq, List.map_eq_nil_iff, List.length_map, List.zip_map_left, List.forall_mem_map]
    rfl
  | tables hresult =>
    rw [shows_tables_iff hresult hrun]
    simp only [ne_eq, List.map_eq_nil_iff]
  | columns =>
    rw [shows_columns_iff hrun]
    simp only [ne_eq, List.map_eq_nil_iff]
  | typeInfo =>
    rw [shows_typeInfo_iff hrun]
    simp only [ne_eq, List.map_eq_nil_iff]

/-- The first row of a data query, after a fetch without bindings. -/
theorem rowVisibility_firstRow :
    ∃ q q' : Query (WholeQuery Text ℕ), ∃ rows, Executed samplePlatform q rows ∧
      fetchAll (whole samplePlatform) [fun _ => none] q = some q' ∧
        q'.Shows samplePlatform (visibleRow rows 1) := by
  have hserves : Serves (WholeQuery.ofStrings [[some ['a']]]).source.env 0
      [⟨"", [[some ['a']]], "", [0]⟩] := ⟨fun _ => rfl, by simp, trivial⟩
  have hexecuted := Executed.data (P := samplePlatform) rfl (List.cons_ne_nil _ _) hserves rfl
  refine ⟨_, _, _, hexecuted, rfl, (@rowVisibility_iff Text ℕ samplePlatform _ _ _ hexecuted
    [fun _ => none] rfl).mpr ⟨List.cons_ne_nil _ _, List.cons_ne_nil _ _, ?_⟩⟩
  intro _ fetched hfetched
  obtain rfl := List.mem_singleton.mp hfetched
  rfl

/-- Before any fetch the first type has the row number 1. -/
theorem not_rowVisibility_typeInfo :
    ¬ (Query.typeInfo (TypeInfoQuery.new [.varchar]).execute.2 :
      Query (WholeQuery Text ℕ)).Shows samplePlatform (visibleRow
        ([.varchar].map (shownMetaRow ScalarType.columnValue (.aiSuccess, []) samplePlatform)) 0) := by
  rintro ⟨-, hnumber⟩
  cases hnumber

end Query

end TimestreamOdbc
