import TimestreamOdbc.Lib.TransitionSystem
import TimestreamOdbc.Statement

/-!
# Where `SQLGetData` starts on a new row

The statement keeps one pair of a column and an offset for `SQLGetData`.  `InternalFetchRow` resets
the offset when it moves the cursor, and so does a read of another column; `InternalExtendedFetch`
does not.  A run in which no extended fetch finds an offset reads every cell of a new row from its
beginning.
-/

namespace TimestreamOdbc

open TransitionSystem

variable {Q : Type} (K : QueryClass Q)

namespace Statement

/-- A read of a cell from an offset. -/
def readCell (colNum : ℕ) (cellOffset : ℤ) (driverType : OdbcNativeType) (targetValue : Bool)
    (bufferLength : ℕ) (strLengthOrIndicator : Bool) (s : Statement Q) :
    Option (ColumnRead × Statement Q) :=
  let buffer := (ApplicationDataBuffer.new driverType targetValue bufferLength
    strLengthOrIndicator).setCellOffset cellOffset
  (s.internalGetColumnData K colNum buffer).map fun (read, s) =>
    (read, { s with cell := ⟨colNum, offsetAfter read buffer⟩ })

/-- Reading a column does not look at the state of `SQLGetData`, and keeps it. -/
lemma internalGetColumnData_cell (colNum : ℕ) (buffer : ApplicationDataBuffer) (s : Statement Q)
    (cell : CellState) :
    internalGetColumnData K colNum buffer { s with cell } =
      (s.internalGetColumnData K colNum buffer).map fun (read, s) => (read, { s with cell }) := by
  rcases s with ⟨bindings, query⟩
  cases query with
  | none => rfl
  | some query =>
    simp only [internalGetColumnData, Option.map_map]
    rfl

/-- `SQLGetData` reads from the offset that is kept for the column. -/
lemma getData_eq (colNum : ℕ) (driverType : OdbcNativeType) (targetValue : Bool)
    (bufferLength : ℕ) (strLengthOrIndicator : Bool) (s : Statement Q) :
    s.getData K colNum driverType targetValue bufferLength strLengthOrIndicator =
      s.readCell K colNum (s.cell.offsetOf colNum) driverType targetValue bufferLength
        strLengthOrIndicator := by
  unfold getData readCell CellState.offsetOf
  by_cases h : colNum = s.cell.currentColNum
  · subst h
    simp only [ne_eq, not_true_eq_false, if_false, internalGetColumnData_cell, Option.map_map]
    rfl
  · simp only [ne_eq, h, not_false_eq_true, if_true, internalGetColumnData_cell, Option.map_map]
    rfl

/-- A read leaves the column, and the offset that the read of the cell left in its buffer. -/
lemma getData_cell {colNum : ℕ} {driverType : OdbcNativeType} {targetValue : Bool}
    {bufferLength : ℕ} {strLengthOrIndicator : Bool} {s t : Statement Q} {read : ColumnRead}
    (h : s.getData K colNum driverType targetValue bufferLength strLengthOrIndicator =
      some (read, t)) :
    t.cell = ⟨colNum, offsetAfter read ((ApplicationDataBuffer.new driverType targetValue
      bufferLength strLengthOrIndicator).setCellOffset (s.cell.offsetOf colNum))⟩ := by
  rw [getData_eq] at h
  obtain ⟨x, -, hx⟩ := Option.map_eq_some_iff.mp h
  cases hx
  rfl

/-! ## What the calls do to the state of `SQLGetData` -/

section Cell

variable {K} {s t : Statement Q}

lemma replaceQuery_cell {query : Q} (h : s.replaceQuery K query = some t) : t.cell = s.cell := by
  unfold replaceQuery at h
  split at h
  · cases h
    rfl
  · obtain ⟨-, -, rfl⟩ := Option.map_eq_some_iff.mp h
    rfl

lemma executeQuery_cell {r : CallReply} (h : s.executeQuery K = some (r, t)) :
    t.cell = s.cell := by
  unfold executeQuery at h
  split at h
  · cases h
    rfl
  · obtain ⟨x, -, hx⟩ := Option.map_eq_some_iff.mp h
    cases hx
    rfl

lemma internalExecuteSqlQuery_cell {r : CallReply} (h : s.internalExecuteSqlQuery K = some (r, t)) :
    t.cell = s.cell := by
  obtain ⟨⟨r', t'⟩, hexecute, hx⟩ := Option.map_eq_some_iff.mp h
  have hcell := executeQuery_cell hexecute
  dsimp only at hx
  split at hx <;>
  · cases hx
    exact hcell

lemma internalClose_cell {ignoreErrors : Bool} {r : CallReply}
    (h : s.internalClose K ignoreErrors = some (r, t)) : t.cell = s.cell := by
  unfold internalClose at h
  split at h
  · cases h
    rfl
  · split at h
    · cases h
      rfl
    · obtain ⟨x, -, hx⟩ := Option.map_eq_some_iff.mp h
      cases hx
      rfl

lemma internalFreeResources_cell {option : ℤ} {r : CallReply}
    (h : s.internalFreeResources K option = some (r, t)) : t.cell = s.cell := by
  unfold internalFreeResources at h
  split at h
  · cases h
    rfl
  · split at h
    · exact internalClose_cell h
    · split at h <;>
      · cases h
        rfl

/-- A fetch of a row resets the offset, unless there is no query. -/
lemma internalFetchRow_cell {memory : ℕ → ℕ} {r : RowsetReply}
    (h : s.internalFetchRow K memory = some (r, t)) :
    s.currentQuery = none ∧ t.cell = s.cell ∨ t.cell.cellOffset = 0 := by
  unfold internalFetchRow at h
  split at h
  · next hquery =>
    cases h
    exact .inl ⟨hquery, rfl⟩
  · obtain ⟨x, -, hx⟩ := Option.map_eq_some_iff.mp h
    cases hx
    exact .inr rfl

/-- An extended fetch keeps the column and the offset. -/
lemma internalExtendedFetch_cell {orientation : ℤ} {r : RowsetReply}
    (h : s.internalExtendedFetch K orientation = some (r, t)) : t.cell = s.cell := by
  unfold internalExtendedFetch at h
  split at h
  · cases h
    rfl
  · split at h
    · cases h
      rfl
    · obtain ⟨x, -, hx⟩ := Option.map_eq_some_iff.mp h
      cases hx
      rfl

end Cell

end Statement

/-! ## Sessions -/

/-- A statement and the columns that were read since its cursor was last moved. -/
structure Session (Q : Type) where
  statement : Statement Q
  columnsRead : List ℕ

namespace Session

/-- A session with a new statement. -/
def new (descriptors : StatementDescriptors) : Session Q :=
  { statement := .new descriptors, columnsRead := [] }

/-- The number of rows a call moves the cursor by. -/
def rowsMoved (s : Session Q) : StatementCall Q → ℕ
  | .fetch _ => if s.statement.currentQuery.isSome then s.statement.rowArraySize else 0
  | .fetchScroll orientation _ =>
    if orientation = sqlFetchNext ∧ s.statement.currentQuery.isSome then s.statement.rowArraySize
    else 0
  | .extendedFetch orientation =>
    if orientation = sqlFetchNext ∧ s.statement.currentQuery.isSome then s.statement.rowsetSize
    else 0
  | _ => 0

/-- The columns read since the cursor was last moved, after a call. -/
def columnsReadAfter (s : Session Q) (call : StatementCall Q) : List ℕ :=
  if 0 < s.rowsMoved call then []
  else
    match call with
    | .getData colNum _ _ _ _ => colNum :: s.columnsRead
    | _ => s.columnsRead

/-- A call of a session. -/
def step (s : Session Q) (call : StatementCall Q) : Option (Session Q) :=
  (s.statement.perform K call).map fun (_, statement) =>
    ⟨statement, s.columnsReadAfter call⟩

/-- An extended fetch that moves the cursor while an offset is kept. -/
def keepsOffset (s : Session Q) (call : StatementCall Q) : Bool :=
  match call with
  | .extendedFetch _ => 0 < s.rowsMoved call ∧ s.statement.cell.cellOffset ≠ 0
  | _ => false

/-- A column that was not read since the cursor was last moved has no offset. -/
def StartsCells (s : Session Q) : Prop :=
  ∀ colNum ∉ s.columnsRead, s.statement.cell.offsetOf colNum = 0

/-- The invariant holds when there is no offset at all. -/
lemma startsCells_of_cellOffset {s : Session Q} (h : s.statement.cell.cellOffset = 0) :
    s.StartsCells := by
  intro colNum hcolumn
  unfold CellState.offsetOf
  split
  · rfl
  · exact h

/-- The invariant holds after a read. -/
lemma startsCells_of_read {s : Session Q} {colNum : ℕ} {cellOffset : ℤ}
    (h : s.statement.cell = ⟨colNum, cellOffset⟩) (hread : colNum ∈ s.columnsRead) :
    s.StartsCells := by
  intro other hother
  have hne : other ≠ colNum := by
    rintro rfl
    exact hother hread
  rw [h]
  exact if_pos hne

variable {K}

/-- A call that keeps the state of `SQLGetData` and does not move the cursor keeps the
invariant. -/
lemma StartsCells.same {s t : Session Q} (h : s.StartsCells)
    (hcell : t.statement.cell = s.statement.cell) (hread : t.columnsRead = s.columnsRead) :
    t.StartsCells := by
  intro colNum hcolumn
  rw [hcell]
  rw [hread] at hcolumn
  exact h colNum hcolumn

/-- A fetch of a row keeps the invariant. -/
lemma StartsCells.fetchRow {s : Session Q} (h : s.StartsCells) {memory : ℕ → ℕ} {r : RowsetReply}
    {t : Statement Q} {columns : List ℕ}
    (hfetch : s.statement.internalFetchRow K memory = some (r, t))
    (hcolumns : s.statement.currentQuery = none → columns = s.columnsRead) :
    StartsCells ⟨t, columns⟩ := by
  rcases Statement.internalFetchRow_cell hfetch with ⟨hquery, hcell⟩ | hcell
  · exact h.same hcell (hcolumns hquery)
  · exact startsCells_of_cellOffset hcell

/-- Every call but an extended fetch that moves the cursor away from an offset keeps the
invariant. -/
lemma startsCells_step {s t : Session Q} {call : StatementCall Q} (h : s.StartsCells)
    (hkeeps : s.keepsOffset call = false) (hstep : s.step K call = some t) : t.StartsCells := by
  obtain ⟨⟨reply, statement⟩, hperform, rfl⟩ := Option.map_eq_some_iff.mp hstep
  cases call with
  | prepare query =>
    obtain ⟨x, hx, hreply⟩ := Option.map_eq_some_iff.mp hperform
    obtain ⟨u, hu, rfl⟩ := Option.map_eq_some_iff.mp hx
    cases hreply
    exact h.same (Statement.replaceQuery_cell hu) rfl
  | execute =>
    obtain ⟨x, hx, hreply⟩ := Option.map_eq_some_iff.mp hperform
    cases hreply
    exact h.same (Statement.internalExecuteSqlQuery_cell hx) rfl
  | execDirect query =>
    obtain ⟨x, hx, hreply⟩ := Option.map_eq_some_iff.mp hperform
    obtain ⟨y, hy, hexecute⟩ := Option.bind_eq_some_iff.mp hx
    obtain ⟨u, hu, rfl⟩ := Option.map_eq_some_iff.mp hy
    cases hreply
    have hcell := Statement.internalExecuteSqlQuery_cell hexecute
    exact h.same (hcell.trans (Statement.replaceQuery_cell hu)) rfl
  | catalog query =>
    obtain ⟨x, hx, hreply⟩ := Option.map_eq_some_iff.mp hperform
    obtain ⟨u, hu, hexecute⟩ := Option.bind_eq_some_iff.mp hx
    cases hreply
    have hcell := Statement.executeQuery_cell hexecute
    exact h.same (hcell.trans (Statement.replaceQuery_cell hu)) rfl
  | fetch memory =>
    obtain ⟨x, hx, hreply⟩ := Option.map_eq_some_iff.mp hperform
    cases hreply
    apply h.fetchRow hx
    intro hquery
    simp [columnsReadAfter, rowsMoved, hquery]
  | fetchScroll orientation memory =>
    obtain ⟨x, hx, hreply⟩ := Option.map_eq_some_iff.mp hperform
    cases hreply
    unfold Statement.internalFetchScroll at hx
    split at hx
    · next horientation =>
      cases hx
      have hcolumns : s.columnsReadAfter (.fetchScroll orientation memory) = s.columnsRead := by
        simp [columnsReadAfter, rowsMoved, horientation]
      exact StartsCells.same h rfl hcolumns
    · apply h.fetchRow hx
      intro hquery
      simp [columnsReadAfter, rowsMoved, hquery]
  | extendedFetch orientation =>
    obtain ⟨x, hx, hreply⟩ := Option.map_eq_some_iff.mp hperform
    cases hreply
    have hcell := Statement.internalExtendedFetch_cell hx
    by_cases hmoved : 0 < s.rowsMoved (.extendedFetch orientation)
    · apply startsCells_of_cellOffset
      rw [hcell]
      simpa [keepsOffset, hmoved] using hkeeps
    · exact h.same hcell (if_neg hmoved)
  | getData colNum driverType targetValue bufferLength strLengthOrIndicator =>
    obtain ⟨x, hx, hreply⟩ := Option.map_eq_some_iff.mp hperform
    cases hreply
    apply startsCells_of_read (Statement.getData_cell K hx)
    exact List.mem_cons_self
  | closeCursor =>
    obtain ⟨x, hx, hreply⟩ := Option.map_eq_some_iff.mp hperform
    cases hreply
    exact h.same (Statement.internalClose_cell hx) rfl
  | freeStmt option =>
    obtain ⟨x, hx, hreply⟩ := Option.map_eq_some_iff.mp hperform
    cases hreply
    exact h.same (Statement.internalFreeResources_cell hx) rfl
  | setUp columnBindings columnBindOffset rowArraySize rowsetSize =>
    cases hperform
    exact h.same rfl rfl

/-- An extended fetch that moves the cursor away from an offset breaks the invariant, at the column
that was read last. -/
lemma not_startsCells_of_keepsOffset {s t : Session Q} {call : StatementCall Q}
    (hkeeps : s.keepsOffset call = true) (hstep : s.step K call = some t) : ¬ t.StartsCells := by
  obtain ⟨⟨reply, statement⟩, hperform, rfl⟩ := Option.map_eq_some_iff.mp hstep
  cases call with
  | extendedFetch orientation =>
    obtain ⟨x, hx, hreply⟩ := Option.map_eq_some_iff.mp hperform
    cases hreply
    have hcell := Statement.internalExtendedFetch_cell hx
    obtain ⟨hmoved, hoffset⟩ := of_decide_eq_true hkeeps
    intro h
    apply hoffset
    rw [← hcell, ← h x.2.cell.currentColNum (by simp [columnsReadAfter, hmoved])]
    exact (if_neg (by simp)).symm
  | _ => exact absurd hkeeps Bool.false_ne_true

/-- The invariant holds along every run in which no extended fetch moves the cursor away from an
offset. -/
lemma startsCells_run {descriptors : StatementDescriptors} {calls : List (StatementCall Q)}
    {s : Session Q}
    (hrun : run (guarded (fun s call => keepsOffset s call = false) (step K)) (new descriptors)
      calls = some s) : s.StartsCells := by
  have hnew : (new descriptors : Session Q).StartsCells := startsCells_of_cellOffset rfl
  apply invariant_run _ hnew hrun
  intro s call t hs hstep
  obtain ⟨hkeeps, hstep⟩ := guarded_eq_some.mp hstep
  exact startsCells_step hs hkeeps hstep

/-- In every run in which no extended fetch moves the cursor away from an offset, the first read of
a column after the cursor was moved starts at the beginning of the cell, and a read that follows a
read of the same column starts where that one stopped. -/
theorem getData_starts_and_continues {descriptors : StatementDescriptors}
    {calls : List (StatementCall Q)} {s : Session Q}
    (hrun : run (guarded (fun s call => keepsOffset s call = false) (step K)) (new descriptors)
      calls = some s) (colNum : ℕ) (driverType : OdbcNativeType) (targetValue : Bool)
    (bufferLength : ℕ) (strLengthOrIndicator : Bool) :
    (colNum ∉ s.columnsRead →
      s.statement.getData K colNum driverType targetValue bufferLength strLengthOrIndicator =
        s.statement.readCell K colNum 0 driverType targetValue bufferLength
          strLengthOrIndicator) ∧
    ∀ (read : ColumnRead) (t : Statement Q),
      s.statement.getData K colNum driverType targetValue bufferLength strLengthOrIndicator =
        some (read, t) →
      ∀ driverType' targetValue' bufferLength' strLengthOrIndicator',
        t.getData K colNum driverType' targetValue' bufferLength' strLengthOrIndicator' =
          t.readCell K colNum (Statement.offsetAfter read ((ApplicationDataBuffer.new driverType
            targetValue bufferLength strLengthOrIndicator).setCellOffset
              (s.statement.cell.offsetOf colNum)))
            driverType' targetValue' bufferLength' strLengthOrIndicator' := by
  refine ⟨?_, ?_⟩
  · intro hcolumn
    rw [Statement.getData_eq, startsCells_run hrun colNum hcolumn]
  · intro read t hread driverType' targetValue' bufferLength' strLengthOrIndicator'
    rw [Statement.getData_eq, Statement.getData_cell K hread]
    unfold CellState.offsetOf
    simp only [ne_eq, not_true_eq_false, if_false]

/-- Two rows, of which the cell of the first is read in part. -/
def readInPart : List (StatementCall (WholeQuery Text ℕ)) :=
  [.execDirect (.ofStrings [[some ['a', 'b']], [some ['c', 'd']]]), .fetch fun _ => 0,
    .getData 1 .aiChar true 2 true]

/-- After a fetch the cell of the second row is read from its beginning. -/
theorem getData_starts_second_row :
    ∃ s, run (guarded (fun s call => keepsOffset s call = false) (step WholeQuery.queryClass))
        (new ⟨0, 1, 2, 3, 0, 2⟩) (readInPart ++ [.fetch fun _ => 0]) = some s ∧
      s.statement.getData WholeQuery.queryClass 1 .aiChar true 3 true =
        s.statement.readCell WholeQuery.queryClass 1 0 .aiChar true 3 true := by
  obtain ⟨s, hrun, hread⟩ : ∃ s, run (guarded (fun s call => keepsOffset s call = false)
      (step WholeQuery.queryClass)) (new ⟨0, 1, 2, 3, 0, 2⟩)
        (readInPart ++ [.fetch fun _ => 0]) = some s ∧ s.columnsRead = [] := ⟨_, rfl, rfl⟩
  refine ⟨s, hrun, ?_⟩
  apply (getData_starts_and_continues hrun 1 .aiChar true 3 true).1
  rw [hread]
  exact List.not_mem_nil

/-- After an extended fetch the cell of the second row is read from the offset of the first. -/
theorem not_starts_after_extendedFetch :
    ∃ s, run (step WholeQuery.queryClass) (new ⟨0, 1, 2, 3, 0, 2⟩)
        (readInPart ++ [.extendedFetch 1]) = some s ∧ 1 ∉ s.columnsRead ∧
      (s.statement.getData WholeQuery.queryClass 1 .aiChar true 3 true).map (·.1.put) =
        some (some ⟨.aiSuccess, some (.units 1 [100, 0]), some 2, 2⟩) ∧
      s.statement.getData WholeQuery.queryClass 1 .aiChar true 3 true ≠
        s.statement.readCell WholeQuery.queryClass 1 0 .aiChar true 3 true := by
  refine ⟨_, rfl, List.not_mem_nil, rfl, ?_⟩
  intro h
  have hput := congrArg (Option.map fun x => x.1.put) h
  revert hput
  decide

end Session

end TimestreamOdbc
