import TimestreamOdbc.Query.CursorLife

/-!
# Open and exhausted cursors

When each query class has an open cursor, as `DataAvailable` answers it, and when no row can come out
of a query before its next execution.  A data query has a cursor or not.  A catalog query has an
iterator, and counts as closed as soon as the iterator is behind its last row or there is no row.
-/

namespace TimestreamOdbc

/-- A row is there. -/
def SqlResult.IsRow (result : SqlResult) : Prop :=
  result = .aiSuccess ∨ result = .aiSuccessWithInfo

instance (result : SqlResult) : Decidable result.IsRow :=
  inferInstanceAs (Decidable (_ ∨ _))

/-! ## Cursors of the catalog queries -/

namespace MetaCursor

variable {μ : Type} {c : MetaCursor μ}

/-- Behind the last row the iterator stays. -/
lemma atEnd_moved (h : c.atEnd = true) : c.moved.atEnd = true := by
  unfold moved
  split
  · exact h
  · simp [h]

/-- Behind the last row there is no row. -/
lemma currentRow_of_atEnd (h : c.atEnd = true) : c.currentRow = none := by
  have hlength : c.cursor = c.rows.length := of_decide_eq_true h
  unfold currentRow
  rw [hlength]
  exact List.getElem?_eq_none le_rfl

@[simp] lemma moved_rows : c.moved.rows = c.rows := by
  unfold moved
  split
  · rfl
  · split <;> rfl

@[simp] lemma moved_executed : c.moved.executed = c.executed := by
  unfold moved
  split
  · rfl
  · split <;> rfl

/-- The iterator of an executed query is on a row or at the end. -/
def Placed (c : MetaCursor μ) : Prop := c.executed = true → c.cursor ≤ c.rows.length

/-- A moved iterator is on a row or at the end. -/
lemma Placed.moved (h : c.Placed) : c.moved.Placed := by
  unfold Placed at h ⊢
  rw [moved_executed, moved_rows]
  intro hexecuted
  have hle := h hexecuted
  unfold MetaCursor.moved
  split
  · exact hle
  · split
    · exact hle
    · next hend =>
      have hne : c.cursor ≠ c.rows.length := by simpa [atEnd] using hend
      exact Nat.succ_le_of_lt (lt_of_le_of_ne hle hne)

/-- There is no row, and none is to come. -/
def Exhausted (c : MetaCursor μ) : Prop := c.executed = false ∨ c.atEnd = true

section Fetch

variable {readColumn : MetaCursor μ → ℕ → ApplicationDataBuffer → Option ColumnRead}
  {columnBindings : ColumnBindings} {row : FetchedRow} {c' : MetaCursor μ}

/-- A fetch moves the iterator of an executed query. -/
lemma fetchNextRow_cursor (h : c.fetchNextRow readColumn columnBindings = some (row, c')) :
    c' = if c.executed then c.moved else c := by
  unfold fetchNextRow at h
  by_cases hexecuted : c.executed = true
  · rw [if_pos hexecuted]
    simp only [hexecuted, Bool.not_true, Bool.false_eq_true, if_false] at h
    split at h
    · cases h
      rfl
    · obtain ⟨read, -, hread⟩ := Option.map_eq_some_iff.mp h
      cases hread
      rfl
  · rw [if_neg hexecuted]
    simp only [hexecuted, Bool.not_false, if_true] at h
    cases h
    rfl

/-- After a fetch the iterator is in its place. -/
lemma Placed.fetchNextRow (hc : c.Placed)
    (h : c.fetchNextRow readColumn columnBindings = some (row, c')) : c'.Placed := by
  rw [fetchNextRow_cursor h]
  split
  · exact hc.moved
  · exact hc

/-- An iterator on a row is on a row after a fetch that does not go behind the last one. -/
lemma dataAvailable_fetchNextRow
    (h : c.fetchNextRow readColumn columnBindings = some (row, c'))
    (hopen : (c.executed && !c.rows.isEmpty && !c.atEnd) = true) (hends : c.moved.atEnd = false) :
    (c'.executed && !c'.rows.isEmpty && !c'.atEnd) = true := by
  obtain ⟨hflags, -⟩ := Bool.and_eq_true_iff.mp hopen
  obtain ⟨hexecuted, -⟩ := Bool.and_eq_true_iff.mp hflags
  rw [fetchNextRow_cursor h, if_pos hexecuted, moved_executed, moved_rows, hflags, hends]
  rfl

/-- A fetch from an exhausted cursor finds nothing. -/
lemma Exhausted.fetchNextRow (hc : c.Exhausted)
    (h : c.fetchNextRow readColumn columnBindings = some (row, c')) :
    c'.Exhausted ∧ ¬ row.result.IsRow ∧ row.columnBindings = columnBindings := by
  unfold MetaCursor.fetchNextRow at h
  by_cases hexecuted : c.executed = true
  · rcases hc with hc | hc
    · rw [hexecuted] at hc
      cases hc
    · have hend := atEnd_moved hc
      simp only [hexecuted, Bool.not_true, Bool.false_eq_true, if_false, hend, if_true] at h
      cases h
      exact ⟨.inr hend, by simp [SqlResult.IsRow], rfl⟩
  · simp only [hexecuted, Bool.not_false, if_true] at h
    cases h
    exact ⟨.inl (by simpa using hexecuted), by simp [SqlResult.IsRow], rfl⟩

/-- A read from an exhausted cursor puts nothing. -/
lemma Exhausted.getColumn (hc : c.Exhausted) {columnValue : μ → ℕ → Option MetaValue}
    {unknownColumn : SqlResult × List DiagnosticRecord} {P : Platform} {columnIdx : ℕ}
    {buffer : ApplicationDataBuffer} {read : ColumnRead}
    (h : c.getColumn columnValue unknownColumn P columnIdx buffer = some read) :
    read.put = none := by
  unfold MetaCursor.getColumn at h
  split at h
  · cases h
    rfl
  · next hexecuted =>
    rcases hc with hc | hc
    · simp [hc] at hexecuted
    · rw [currentRow_of_atEnd hc] at h
      cases h
      rfl

end Fetch

end MetaCursor

/-- The close before another execution changes nothing about what the execution comes to. -/
lemma MetadataQuery.makeRequest_closed {μ : Type} (q : MetadataQuery μ) (executed : Bool) :
    (if executed then q.closed else q).makeRequest (if executed then q.closed else q).requests =
      q.makeRequest q.requests := by
  cases executed <;> rfl

/-- An execution of a table query that finds rows moves the iterator to them. -/
lemma TableMetadataQuery.dataAvailable_execute {q : TableMetadataQuery}
    (hresult : q.execute.1.1.IsRow) (hrows : (q.makeRequest q.requests).rows ≠ []) :
    q.execute.2.dataAvailable = true := by
  unfold execute SqlResult.IsRow at hresult
  have hlength : 0 ≠ (q.makeRequest q.requests).rows.length := (List.length_pos_of_ne_nil hrows).ne
  unfold execute dataAvailable MetaCursor.atEnd
  simp only [MetadataQuery.makeRequest_closed] at hresult ⊢
  simp [hresult, hrows, hlength]

/-- An execution of a column query that finds rows moves the iterator to them. -/
lemma ColumnMetadataQuery.dataAvailable_execute {q : ColumnMetadataQuery}
    (hresult : q.execute.1.1 = .aiSuccess) (hrows : (q.makeRequest q.requests).rows ≠ []) :
    q.execute.2.dataAvailable = true := by
  unfold execute at hresult
  have hlength : 0 ≠ (q.makeRequest q.requests).rows.length := (List.length_pos_of_ne_nil hrows).ne
  unfold execute dataAvailable MetaCursor.atEnd
  simp only [MetadataQuery.makeRequest_closed] at hresult ⊢
  simp [hresult, hrows, hlength]

/-- An execution of a column query leaves the iterator in its place. -/
lemma ColumnMetadataQuery.placed_execute (q : ColumnMetadataQuery) : q.execute.2.state.Placed := by
  unfold execute MetaCursor.Placed
  simp only [MetadataQuery.makeRequest_closed]
  split
  · simp
  · cases hexecuted : q.state.executed <;> simp [hexecuted, MetadataQuery.closed]

/-! ## Cursors of all queries -/

namespace Query

variable {δ γ : Type} {P : Platform}

/-- The class of all queries, with interleaved data queries. -/
abbrev interleaved (P : Platform) : QueryClass (Query (InterleavedQuery δ γ)) :=
  queryClass InterleavedQuery.queryClass P

/-- A query that was just constructed. -/
def IsNew : Query (InterleavedQuery δ γ) → Prop
  | data q => q.system = .new
  | tables q => q.state = .new []
  | columns q => q.state = .new []
  | typeInfo q => ∃ types, q = .new types
  | unsupported _ => True

/-- What holds of every query between two calls. -/
def Sound : Query (InterleavedQuery δ γ) → Prop
  | data q => q.Ready
  | columns q => q.state.Placed
  | tables _ | typeInfo _ | unsupported _ => True

/-- There is no row, and none is to come before the next execution. -/
def Exhausted : Query (InterleavedQuery δ γ) → Prop
  | data q => q.dataAvailable = false
  | tables q => q.state.Exhausted ∨ q.state.rows = []
  | columns q => q.state.Exhausted
  | typeInfo q => q.state.Exhausted
  | unsupported _ => True

/-- Whether an execution with a result finds rows and moves the cursor to them. -/
def opensCursor (result : SqlResult) : Query (InterleavedQuery δ γ) → Bool
  | data _ => result = .aiSuccess
  | tables q => result.IsRow ∧ (q.makeRequest q.requests).rows ≠ []
  | columns q => result = .aiSuccess ∧ (q.makeRequest q.requests).rows ≠ []
  | typeInfo q => result = .aiSuccess ∧ q.state.rows ≠ []
  | unsupported _ => false

/-- Whether a fetch takes the cursor away: a data query comes to a page that failed, a catalog query
goes behind its last row. -/
def endsCursor (columnBindings : ColumnBindings) : Query (InterleavedQuery δ γ) → Bool
  | data q => q.takesFailedPage columnBindings
  | tables q => q.state.moved.atEnd
  | columns q => q.state.moved.atEnd
  | typeInfo q => q.state.moved.atEnd
  | unsupported _ => true

/-- Only an execution with a result opens a cursor. -/
lemma isRow_of_opensCursor {result : SqlResult} {q : Query (InterleavedQuery δ γ)}
    (h : q.opensCursor result = true) : result.IsRow := by
  cases q with
  | data q => exact .inl (of_decide_eq_true h)
  | tables q => exact (of_decide_eq_true h).1
  | columns q => exact .inl (of_decide_eq_true h).1
  | typeInfo q => exact .inl (of_decide_eq_true h).1
  | unsupported functionName => cases h

/-- A new query is sound. -/
lemma sound_of_isNew {q : Query (InterleavedQuery δ γ)} (h : q.IsNew) : q.Sound := by
  cases q with
  | data q =>
    have hsystem : q.system = .new := h
    exact ⟨by rw [hsystem]; rfl, by rw [hsystem]; exact System.singleFlight_new⟩
  | columns q =>
    have hstate : q.state = .new [] := h
    intro hexecuted
    rw [hstate] at hexecuted
    cases hexecuted
  | tables q => trivial
  | typeInfo q => trivial
  | unsupported functionName => trivial

/-- A new query has no rows to fetch. -/
lemma exhausted_of_not_dataAvailable {q : Query (InterleavedQuery δ γ)} (hq : q.Sound)
    (h : (interleaved P).dataAvailable q = false) : q.Exhausted := by
  cases q with
  | data q => exact h
  | tables q =>
    have hflags : (q.state.executed && !q.state.rows.isEmpty && !q.state.atEnd) = false := h
    simp only [Bool.and_eq_false_iff, Bool.not_eq_false'] at hflags
    rcases hflags with (hflags | hflags) | hflags
    · exact .inl (.inl hflags)
    · exact .inr (List.isEmpty_iff.mp hflags)
    · exact .inl (.inr hflags)
  | columns q =>
    have hflags : (q.state.executed && !q.state.rows.isEmpty && !q.state.atEnd) = false := h
    have hplaced : q.state.Placed := hq
    simp only [Bool.and_eq_false_iff, Bool.not_eq_false'] at hflags
    rcases hflags with (hflags | hflags) | hflags
    · exact .inl hflags
    · by_cases hexecuted : q.state.executed = true
      · have hrows := List.isEmpty_iff.mp hflags
        have hle := hplaced hexecuted
        simp only [hrows, List.length_nil, Nat.le_zero] at hle
        exact .inr (by simp [MetaCursor.atEnd, hrows, hle])
      · exact .inl (by simpa using hexecuted)
    · exact .inr hflags
  | typeInfo q =>
    have hflags : (q.state.executed && !q.state.atEnd) = false := h
    simp only [Bool.and_eq_false_iff, Bool.not_eq_false'] at hflags
    exact hflags
  | unsupported functionName => trivial

/-- An exhausted query has no data available. -/
lemma not_dataAvailable_of_exhausted {q : Query (InterleavedQuery δ γ)} (h : q.Exhausted) :
    (interleaved P).dataAvailable q = false := by
  cases q with
  | data q => exact h
  | tables q =>
    change (q.state.executed && !q.state.rows.isEmpty && !q.state.atEnd) = false
    rcases h with (h | h) | h <;> simp [h]
  | columns q =>
    change (q.state.executed && !q.state.rows.isEmpty && !q.state.atEnd) = false
    rcases h with h | h <;> simp [h]
  | typeInfo q =>
    change (q.state.executed && !q.state.atEnd) = false
    rcases h with h | h <;> simp [h]
  | unsupported functionName => rfl

section Calls

variable {q q' : Query (InterleavedQuery δ γ)}

/-- An execution that finds rows opens the cursor. -/
lemma Sound.execute (hq : q.Sound) {result : SqlResult} {records : List DiagnosticRecord}
    (h : (interleaved P).execute q = some ((result, records), q')) :
    q'.Sound ∧ (q.opensCursor result = true → (interleaved P).dataAvailable q' = true) := by
  cases q with
  | data q =>
    obtain ⟨⟨⟨result, records⟩, q'⟩, hexecute, hx⟩ := Option.map_eq_some_iff.mp h
    cases hx
    have hready : q.Ready := hq
    obtain ⟨hsound, -, hopen⟩ := hready.execute hexecute
    exact ⟨hsound, fun hopens => hopen (of_decide_eq_true hopens)⟩
  | tables q =>
    cases h
    refine ⟨trivial, ?_⟩
    intro hopens
    obtain ⟨hresult, hrows⟩ := of_decide_eq_true hopens
    exact TableMetadataQuery.dataAvailable_execute hresult hrows
  | columns q =>
    cases h
    refine ⟨ColumnMetadataQuery.placed_execute q, ?_⟩
    intro hopens
    obtain ⟨hresult, hrows⟩ := of_decide_eq_true hopens
    exact ColumnMetadataQuery.dataAvailable_execute hresult hrows
  | typeInfo q =>
    cases h
    refine ⟨trivial, ?_⟩
    intro hopens
    obtain ⟨-, hrows⟩ := of_decide_eq_true hopens
    have hlength : 0 ≠ q.state.rows.length := (List.length_pos_of_ne_nil hrows).ne
    change (true && !decide (0 = q.state.rows.length)) = true
    simp [hlength]
  | unsupported functionName =>
    cases h
    exact ⟨trivial, fun hopens => absurd hopens Bool.false_ne_true⟩

/-- A fetch keeps an open cursor unless it takes it away, and finds nothing in an exhausted one. -/
lemma Sound.fetchNextRow (hq : q.Sound) {columnBindings : ColumnBindings} {row : FetchedRow}
    (h : (interleaved P).fetchNextRow columnBindings q = some (row, q')) :
    q'.Sound ∧
      ((interleaved P).dataAvailable q = true → q.endsCursor columnBindings = false →
        (interleaved P).dataAvailable q' = true) ∧
      (q.Exhausted → q'.Exhausted ∧ ¬ row.result.IsRow ∧ row.columnBindings = columnBindings) := by
  cases q with
  | data q =>
    obtain ⟨⟨row, q'⟩, hfetch, hx⟩ := Option.map_eq_some_iff.mp h
    cases hx
    have hready : q.Ready := hq
    obtain ⟨hsound, hopen⟩ := hready.fetchNextRow hfetch
    refine ⟨hsound, hopen, ?_⟩
    intro hexhausted
    obtain ⟨hnone, hresult, hbindings⟩ :=
      InterleavedQuery.fetchNextRow_of_not_dataAvailable hexhausted hfetch
    exact ⟨hnone, by simp [SqlResult.IsRow, hresult], hbindings⟩
  | tables q =>
    obtain ⟨⟨row, q'⟩, hfetch, hx⟩ := Option.map_eq_some_iff.mp h
    cases hx
    unfold TableMetadataQuery.fetchNextRow at hfetch
    split at hfetch
    · next hempty =>
      cases hfetch
      exact ⟨trivial, fun hopen _ => hopen,
        fun _ => ⟨.inr hempty.2, by simp [SqlResult.IsRow], rfl⟩⟩
    · next hempty =>
      obtain ⟨⟨row, c⟩, hcursor, hx⟩ := Option.map_eq_some_iff.mp hfetch
      cases hx
      refine ⟨trivial, MetaCursor.dataAvailable_fetchNextRow hcursor, ?_⟩
      rintro (hexhausted | hrows)
      · obtain ⟨hc, hrest⟩ := hexhausted.fetchNextRow hcursor
        exact ⟨.inl hc, hrest⟩
      · have hexecuted : q.state.executed = false := by
          simpa [hrows] using hempty
        have hexhausted : q.state.Exhausted := .inl hexecuted
        obtain ⟨hc, hrest⟩ := hexhausted.fetchNextRow hcursor
        exact ⟨.inl hc, hrest⟩
  | columns q =>
    obtain ⟨⟨row, q'⟩, hfetch, hx⟩ := Option.map_eq_some_iff.mp h
    cases hx
    obtain ⟨⟨row, c⟩, hcursor, hx⟩ := Option.map_eq_some_iff.mp hfetch
    cases hx
    have hplaced : q.state.Placed := hq
    refine ⟨hplaced.fetchNextRow hcursor, MetaCursor.dataAvailable_fetchNextRow hcursor, ?_⟩
    intro hexhausted
    exact MetaCursor.Exhausted.fetchNextRow hexhausted hcursor
  | typeInfo q =>
    obtain ⟨⟨row, q'⟩, hfetch, hx⟩ := Option.map_eq_some_iff.mp h
    cases hx
    obtain ⟨⟨row, c⟩, hcursor, hx⟩ := Option.map_eq_some_iff.mp hfetch
    cases hx
    refine ⟨trivial, ?_, ?_⟩
    · intro hopen hends
      have hmoved : q.state.moved.atEnd = false := hends
      obtain ⟨hexecuted, -⟩ := Bool.and_eq_true_iff.mp hopen
      have hc := MetaCursor.fetchNextRow_cursor hcursor
      rw [if_pos hexecuted] at hc
      rw [hc]
      change (q.state.moved.executed && !q.state.moved.atEnd) = true
      simp [hexecuted, hmoved]
    · intro hexhausted
      exact MetaCursor.Exhausted.fetchNextRow hexhausted hcursor
  | unsupported functionName =>
    cases h
    exact ⟨trivial, fun hopen _ => absurd hopen Bool.false_ne_true,
      fun _ => ⟨trivial, by simp [SqlResult.IsRow], rfl⟩⟩

/-- A read of a column leaves the cursor, and puts nothing from an exhausted one. -/
lemma Sound.getColumn (hq : q.Sound) {columnIdx : ℕ} {buffer : ApplicationDataBuffer}
    {read : ColumnRead} (h : (interleaved P).getColumn columnIdx buffer q = some (read, q')) :
    q'.Sound ∧ (interleaved P).dataAvailable q' = (interleaved P).dataAvailable q ∧
      (q.Exhausted → q'.Exhausted ∧ read.put = none) := by
  cases q with
  | data q =>
    obtain ⟨⟨read, q'⟩, hread, hx⟩ := Option.map_eq_some_iff.mp h
    cases hx
    have hready : q.Ready := hq
    obtain ⟨hsound, hsame, hput⟩ := hready.getColumn hread
    exact ⟨hsound, hsame, fun hexhausted => ⟨hsame.trans hexhausted, hput hexhausted⟩⟩
  | tables q =>
    obtain ⟨read, hread, hx⟩ := Option.map_eq_some_iff.mp h
    cases hx
    refine ⟨trivial, rfl, fun hexhausted => ⟨hexhausted, ?_⟩⟩
    unfold TableMetadataQuery.getColumn at hread
    split at hread
    · cases hread
      rfl
    · next hempty =>
      rcases hexhausted with hexhausted | hrows
      · exact hexhausted.getColumn hread
      · have hexecuted : q.state.executed = false := by
          simpa [hrows] using hempty
        exact MetaCursor.Exhausted.getColumn (.inl hexecuted) hread
  | columns q =>
    obtain ⟨read, hread, hx⟩ := Option.map_eq_some_iff.mp h
    cases hx
    exact ⟨hq, rfl, fun hexhausted => ⟨hexhausted, MetaCursor.Exhausted.getColumn hexhausted hread⟩⟩
  | typeInfo q =>
    obtain ⟨read, hread, hx⟩ := Option.map_eq_some_iff.mp h
    cases hx
    exact ⟨hq, rfl, fun hexhausted => ⟨hexhausted, MetaCursor.Exhausted.getColumn hexhausted hread⟩⟩
  | unsupported functionName =>
    cases h
    exact ⟨trivial, rfl, fun _ => ⟨trivial, rfl⟩⟩

/-- A close ends with a cursor that is not open. -/
lemma Sound.close (hq : q.Sound) {result : SqlResult}
    (h : (interleaved P).close q = some (result, q')) :
    q'.Sound ∧ result = .aiSuccess ∧ (interleaved P).dataAvailable q' = false := by
  cases q with
  | data q =>
    obtain ⟨⟨result, q'⟩, hclose, hx⟩ := Option.map_eq_some_iff.mp h
    cases hx
    have hready : q.Ready := hq
    exact hready.close hclose
  | tables q =>
    cases h
    exact ⟨trivial, rfl, rfl⟩
  | columns q =>
    cases h
    exact ⟨fun hexecuted => absurd hexecuted Bool.false_ne_true, rfl, rfl⟩
  | typeInfo q =>
    cases h
    exact ⟨trivial, rfl, rfl⟩
  | unsupported functionName =>
    cases h
    exact ⟨trivial, rfl, rfl⟩

end Calls

end Query

end TimestreamOdbc
