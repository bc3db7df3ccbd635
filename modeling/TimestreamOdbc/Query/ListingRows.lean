import TimestreamOdbc.App.TimestreamColumn
import TimestreamOdbc.Query.RowVisibility

/-!
# Reading the rows of a statement

The catalog functions execute statements of their own and fetch their rows into local arrays, which are
bound without an indicator.  What a data query still awaits is kept apart from what the fetches do to
the bindings, so that the loop over the rows is a fold over them.
-/

namespace TimestreamOdbc

/-! ## What a data query awaits -/

namespace WholeQuery

variable {δ γ : Type} {q : WholeQuery δ γ} {source : DataSource δ γ} {resultMeta : List γ}
  {row : List (Option δ)} {rows : List (List (Option δ))}

/-- The rows that the next fetches come to. -/
def Awaits (source : DataSource δ γ) (resultMeta : List γ) (rows : List (List (Option δ)))
    (q : WholeQuery δ γ) : Prop :=
  ∃ c pages, q.source = source ∧ SyncQuery.Serving source.env q.state c pages ∧
    c.ColumnsOf resultMeta ∧ q.state.query.resultMeta = resultMeta ∧ pendingRows c pages = rows

/-- Where there is a row, a fetch converts it. -/
lemma Awaits.fetchNextRow_cons (h : Awaits source resultMeta (row :: rows) q)
    (columnBindings : ColumnBindings) :
    ∃ q', Awaits source resultMeta rows q' ∧ q.fetchNextRow columnBindings =
      (DataQuery.convertRow source.env resultMeta (some row) columnBindings).1.map fun result =>
        (⟨result, (DataQuery.convertRow source.env resultMeta (some row) columnBindings).2.1,
          (DataQuery.convertRow source.env resultMeta (some row) columnBindings).2.2⟩, q') := by
  obtain ⟨c, pages, rfl, hserving, hcolumns, hmeta, hpending⟩ := h
  cases hserving.advances columnBindings with
  | @row t c' pages' hfetch hplaced hmore hserving' hpending' hdiscovered _ hmeta' =>
    have hmeta'' : t.query.resultMeta = resultMeta := hmeta'.trans hmeta
    have hcolumns' : c'.moved.ColumnsOf t.query.resultMeta := by
      rw [hmeta'']
      exact hdiscovered.trans hcolumns
    obtain ⟨columns, hcolumns'', hnext, hread⟩ := hserving'.convertsRow hcolumns' columnBindings
    obtain ⟨first, hrow, hremaining⟩ :=
      TimestreamCursor.remaining_eq_cons_of_increment hplaced hmore
    have hrows : pendingRows c' pages' = first :: pendingRows c'.moved pages' := by
      rw [pendingRows, pendingRows, hremaining, List.cons_append]
    obtain ⟨rfl, hrest⟩ := List.cons.inj ((hpending'.trans hpending).symm.trans hrows)
    rw [hrow, hmeta''] at hread
    refine ⟨{ q with state := (t.finishRow q.source.env columnBindings).2 },
      ⟨{ c'.moved with columns }, pages', rfl, hnext, ?_, ?_, ?_⟩, ?_⟩
    · rwa [hmeta''] at hcolumns''
    · simpa [SyncQuery.finishRow] using hmeta''
    · rw [hrest]
      rfl
    · unfold WholeQuery.fetchNextRow
      rw [hfetch, Option.bind_some]
      simp only [SyncQuery.finishRow, hread]
  | ended _ _ hnone =>
    rw [hpending] at hnone
    cases hnone

/-- Where there is none, it ends. -/
lemma Awaits.fetchNextRow_nil (h : Awaits source resultMeta [] q) (columnBindings : ColumnBindings) :
    ∃ records q', q.fetchNextRow columnBindings =
      some (⟨.aiNoData, records, columnBindings⟩, q') := by
  obtain ⟨c, pages, rfl, hserving, -, -, hpending⟩ := h
  cases hserving.advances columnBindings with
  | row hfetch hplaced hmore hserving' hpending' =>
    obtain ⟨first, -, hremaining⟩ := TimestreamCursor.remaining_eq_cons_of_increment hplaced hmore
    rw [hpending, pendingRows, hremaining] at hpending'
    cases hpending'
  | @ended t records hfetch =>
    refine ⟨records, { q with state := t }, ?_⟩
    unfold WholeQuery.fetchNextRow
    rw [hfetch]
    rfl

/-- A new data query that is served some pages is executed to their rows. -/
lemma execute_awaits {pages : List (QueryResult (Option δ) γ)} (hnew : q.state = .new)
    (hne : pages ≠ []) (hserves : Serves q.source.env 0 pages) (hmax : pages.length ≤ q.maxRequests) :
    (deliveredRows pages = [] ∧ ∃ q', q.execute = some ((.aiNoData, []), q')) ∨
      deliveredRows pages ≠ [] ∧ ∃ q', q.execute = some ((.aiSuccess, []), q') ∧
        Awaits q.source (deliveredColumnInfo pages) (deliveredRows pages) q' := by
  obtain ⟨r, t, hsync, hstarts⟩ := SyncQuery.execute_starts hserves hne hmax
  have hexecute : q.execute = some (r, { q with state := t }) := by
    rw [WholeQuery.execute, hnew, hsync]
    rfl
  cases hstarts with
  | empty hr hnone => exact .inl ⟨hnone, _, by rw [hexecute, hr]⟩
  | @page page rest hr hfirst hdelivered hserving hmeta _ =>
    obtain ⟨hrows, hinfo⟩ := rows_of_first hfirst
    refine .inr ⟨?_, { q with state := t }, by rw [hexecute, hr], .ofRows page.rows, rest, rfl,
      hserving, TimestreamCursor.columnsOf_ofRows _ _, ?_, hdelivered.symm⟩
    · rw [hdelivered, pendingRows, TimestreamCursor.remaining_ofRows]
      simp [hrows]
    · rw [hinfo]
      exact hmeta rfl

end WholeQuery

/-! ## The loop over the rows -/

/-- The loop `while (FetchNextRow(columnBindings) == AI_SUCCESS)`: the records of its fetches, and the
bindings after each row; nothing when a fetch does not return. -/
def fetchRows {Q : Type} (fetchNextRow : ColumnBindings → Q → Option (FetchedRow × Q)) :
    ℕ → ColumnBindings → Q → Option (List DiagnosticRecord × List ColumnBindings)
  | 0, _, _ => none
  | fuel + 1, columnBindings, q =>
    (fetchNextRow columnBindings q).bind fun (fetched, q) =>
      if fetched.result = .aiSuccess then
        (fetchRows fetchNextRow fuel fetched.columnBindings q).map fun rest =>
          (fetched.records ++ rest.1, fetched.columnBindings :: rest.2)
      else some (fetched.records, [])

/-- The states after each of some rows. -/
def statesAfter {σ ρ : Type} (next : σ → ρ → σ) : σ → List ρ → List σ
  | _, [] => []
  | state, row :: rows => next state row :: statesAfter next (next state row) rows

/-- Every row replaces the state. -/
lemma statesAfter_replace {ρ : Type} (state : ρ) (rows : List ρ) :
    statesAfter (fun _ row => row) state rows = rows := by
  induction rows generalizing state with
  | nil => rfl
  | cons row rows ih => rw [statesAfter, ih]

/-- The loop over rows that are converted without an error and without a record: the bindings hold the
states that the rows lead to. -/
lemma fetchRows_of_awaits {δ γ ρ σ : Type} {source : DataSource δ γ} {resultMeta : List γ}
    {cells : ρ → List (Option δ)} {next : σ → ρ → σ} {Holds : σ → ColumnBindings → Prop}
    {rows : List ρ}
    (hconvert : ∀ row ∈ rows, ∀ state columnBindings, Holds state columnBindings →
      ∃ columnBindings', DataQuery.convertRow source.env resultMeta (some (cells row))
        columnBindings = (some .aiSuccess, [], columnBindings') ∧
          Holds (next state row) columnBindings')
    {state : σ} {columnBindings : ColumnBindings} (hholds : Holds state columnBindings)
    {q : WholeQuery δ γ} (h : q.Awaits source resultMeta (rows.map cells)) {fuel : ℕ}
    (hfuel : rows.length < fuel) :
    ∃ records bindings, fetchRows WholeQuery.fetchNextRow fuel columnBindings q =
      some (records, bindings) ∧ List.Forall₂ Holds (statesAfter next state rows) bindings := by
  induction rows generalizing state columnBindings q fuel with
  | nil =>
    obtain ⟨fuel, rfl⟩ : ∃ n, fuel = n + 1 := ⟨fuel - 1, by simp at hfuel; omega⟩
    obtain ⟨records, q', hfetch⟩ := h.fetchNextRow_nil columnBindings
    refine ⟨records, [], ?_, .nil⟩
    rw [fetchRows, hfetch]
    rfl
  | cons row rows ih =>
    obtain ⟨fuel, rfl⟩ : ∃ n, fuel = n + 1 := ⟨fuel - 1, by simp at hfuel; omega⟩
    obtain ⟨q', hrest, hfetch⟩ := h.fetchNextRow_cons columnBindings
    obtain ⟨columnBindings', hrow, hnext⟩ :=
      hconvert row List.mem_cons_self state columnBindings hholds
    obtain ⟨records, bindings, hloop, hbindings⟩ :=
      ih (fun row hmem => hconvert row (List.mem_cons_of_mem _ hmem)) hnext hrest
        (Nat.lt_of_succ_lt_succ hfuel)
    refine ⟨records, columnBindings' :: bindings, ?_, .cons hnext hbindings⟩
    rw [hrow] at hfetch
    rw [fetchRows, hfetch]
    simp only [Option.map_some, Option.bind_some, if_true, hloop, List.nil_append]

/-! ## Local arrays -/

/-- `STRING_BUFFER_SIZE`. -/
def stringBufferSize : ℕ := 2048

/-- A local array of the size, bound without an indicator. -/
def localArray (type : OdbcNativeType) : ColumnBinding := .new type (some 0) stringBufferSize none

namespace ColumnBinding

/-- What was stored last in the memory of the buffer. -/
def held (b : ColumnBinding) : Option Stored := (b.written.filterMap (·.put.stored)).getLast?

/-- A conversion that stores nothing leaves it. -/
lemma held_deliver (b : ColumnBinding) (put : Put) :
    (b.deliver put).held = put.stored.or b.held := by
  unfold held deliver
  rw [List.filterMap_append]
  cases hstored : put.stored with
  | none => simp [hstored]
  | some stored => simp [hstored]

/-- The text in an array of characters that was cleared: a byte is the character of its code. -/
def charText (b : ColumnBinding) : Text :=
  (storedText b.held).map fun byte => Char.ofNat byte.toNat

/-- A conversion that leaves the cell offset does not change the buffer. -/
lemma buffer_deliver {b : ColumnBinding} {put : Put} (h : put.cellOffset = b.buffer.cellOffset) :
    (b.deliver put).buffer = b.buffer := by
  unfold deliver ApplicationDataBuffer.setCellOffset
  rw [h]

/-- A local array stays one where the cell offset stays. -/
lemma buffer_deliver_local {b : ColumnBinding} {put : Put} {type : OdbcNativeType}
    (h : b.buffer = (localArray type).buffer) (hoffset : put.cellOffset = -1) :
    (b.deliver put).buffer = (localArray type).buffer := by
  have hsame : put.cellOffset = b.buffer.cellOffset := by
    rw [hoffset, h]
    rfl
  rw [buffer_deliver hsame, h]

end ColumnBinding

section Whole

variable {P : Platform} {outChar : OutChar} {text : Text} {b : ApplicationDataBuffer}

/-- A text is put as a whole into a buffer with room for it and the terminator. -/
lemma exists_putStrToStrBuffer_whole (hnul : '\x00' ∉ text) (hrep : ∀ c ∈ text, outChar.represents P c)
    (hansi : outChar = .char → P.ansiStringOnly → ∀ c ∈ text, Utf8.IsAscii c) (hne : text ≠ [])
    (hbuffer : b.buffer = true) (hoffset : b.cellOffset = -1)
    (hroom : (text.length + 1) * outChar.size P ≤ b.buflen) :
    ∃ put, b.putStrToStrBuffer P outChar (Utf8.encode text) = some put ∧ put.result = .aiSuccess ∧
      put.stored = some (.units (outChar.size P) (text.map (outChar.unit P) ++ [0])) ∧
        put.cellOffset = -1 := by
  have hsize := outChar.size_pos P
  have hlength := List.length_pos_iff.mpr hne
  have hencoded : 0 < (Utf8.encode text).length :=
    hlength.trans_le (Utf8.length_le_length_encode text)
  obtain ⟨required, hrequired, hpos⟩ : ∃ required,
      ApplicationDataBuffer.bytesRequired P outChar (Utf8.encode text) = some required ∧
        0 < required := by
    unfold ApplicationDataBuffer.bytesRequired
    by_cases hP : P.ansiStringOnly
    · exact ⟨_, if_pos hP, Nat.mul_pos hencoded hsize⟩
    · have hfits : text.all (unitFits P.wcharSize) = true := by
        apply List.all_eq_true.mpr
        intro c hc
        simpa [OutChar.represents, hP] using (Bool.and_eq_true_iff.mp (hrep c hc)).1
      rw [if_neg hP, fromBytes_encode P hnul, if_pos hfits]
      exact ⟨_, rfl, Nat.mul_pos hlength hsize⟩
  have hcharacters : text.length + 1 ≤ b.buflen / outChar.size P :=
    (Nat.le_div_iff_mul_le hsize).mpr hroom
  have htwo : 2 * outChar.size P ≤ b.buflen := by
    refine le_trans ?_ hroom
    exact Nat.mul_le_mul_right _ (by omega)
  have hcopy := copyUtf8String_encode hnul hrep hansi hne htwo
  have hall : text.take (b.buflen / outChar.size P - 1) = text := List.take_of_length_le (by omega)
  have hfull : ¬ (b.buflen / outChar.size P - 1 < text.length) := by omega
  rw [hall, decide_eq_false hfull] at hcopy
  have hzero : (-1 : ℤ).toNat = 0 := rfl
  have hneg : ¬ (0 : ℤ) ≤ -1 := by decide
  refine ⟨⟨.aiSuccess, some (.units (outChar.size P) (text.map (outChar.unit P) ++ [0])),
    b.resLen (if required ≠ min text.length (b.buflen / outChar.size P - 1) * outChar.size P then
      (required : ℤ) - (min text.length (b.buflen / outChar.size P - 1) * outChar.size P : ℕ)
      else required), -1⟩, ?_, rfl, rfl, rfl⟩
  · unfold ApplicationDataBuffer.putStrToStrBuffer
    simp only [hrequired, Option.bind_some, hbuffer, Bool.not_true, Bool.false_eq_true, if_false,
      hoffset, hzero, Nat.zero_mul, Nat.not_le.mpr hpos, List.drop_zero, hcopy, Option.map_some, hneg,
      Nat.zero_add]

end Whole

end TimestreamOdbc
