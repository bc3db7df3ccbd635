import TimestreamOdbc.Query.DataQuery
import Mathlib.Data.List.Infix

/-!
# Converting the row under the cursor

The loop of `FetchNextRow` over the columns reads through a cursor that discovers its columns on the
way.  Here it is seen as what it does to one row: every bound column is converted from the datum of
the row and the metadata at its position, whatever was discovered before.
-/

namespace TimestreamOdbc

variable {δ γ B : Type}

namespace TimestreamCursor

/-- The discovered columns are the first ones of the metadata. -/
def ColumnsOf (columnMetadataVec : List γ) (c : TimestreamCursor δ γ) : Prop :=
  c.columns <+: columnMetadataVec

/-- A new cursor has discovered nothing. -/
lemma columnsOf_ofRows (columnMetadataVec : List γ) (rows : List (List δ)) :
    (ofRows rows : TimestreamCursor δ γ).ColumnsOf columnMetadataVec := List.nil_prefix

/-- Discovering an existing column adds the missing columns up to it. -/
lemma ColumnsOf.ensureColumnDiscovered {columnMetadataVec : List γ} {c : TimestreamCursor δ γ}
    (h : c.ColumnsOf columnMetadataVec) {columnIdx : ℕ} (hpos : 1 ≤ columnIdx)
    (hle : columnIdx ≤ columnMetadataVec.length) :
    ∃ columns, c.ensureColumnDiscovered columnMetadataVec columnIdx = (true, { c with columns }) ∧
      columns <+: columnMetadataVec ∧ columnIdx ≤ columns.length := by
  have hin : ¬ (columnMetadataVec.length < columnIdx ∨ columnIdx < 1) := by omega
  have hcolumns : c.columns = columnMetadataVec.take c.columns.length :=
    List.prefix_iff_eq_take.mp h
  have hlength : c.columns.length ≤ columnMetadataVec.length := h.length_le
  unfold TimestreamCursor.ensureColumnDiscovered
  rw [if_neg hin]
  split
  · next hall => exact ⟨c.columns, rfl, h, by omega⟩
  · refine ⟨_, rfl, ?_, ?_⟩
    · conv_lhs =>
        arg 1
        rw [hcolumns]
      rw [← List.take_add]
      exact List.take_prefix _ _
    · rw [List.length_append, List.length_take, List.length_drop]
      omega

end TimestreamCursor

namespace DataQuery

/-- The conversion of one column of a row: of its datum, with the metadata at its position. A column
that does not exist fails. -/
def convertColumn (readToBuffer : γ → δ → B → Option (ConversionResult × B)) (resultMeta : List γ)
    (row : Option (List δ)) (columnIdx : ℕ) (dataBuf : B) : Option (ConversionResult × B) :=
  if resultMeta.length < columnIdx ∨ columnIdx < 1 then some (.aiFailure, dataBuf)
  else resultMeta[columnIdx - 1]?.bind fun column =>
    (row.bind fun row => row[columnIdx - 1]?).bind fun datum => readToBuffer column datum dataBuf

/-- Reading a column through the cursor is converting it from the current row. -/
lemma readColumnToBuffer_eq (readToBuffer : γ → δ → B → Option (ConversionResult × B))
    {columnMetadataVec : List γ} {c : TimestreamCursor δ γ} (h : c.ColumnsOf columnMetadataVec)
    (columnIdx : ℕ) (dataBuf : B) :
    ∃ columns, columns <+: columnMetadataVec ∧
      c.readColumnToBuffer readToBuffer columnMetadataVec columnIdx dataBuf =
        (convertColumn readToBuffer columnMetadataVec c.currentRow columnIdx dataBuf,
          { c with columns }) := by
  by_cases hin : columnMetadataVec.length < columnIdx ∨ columnIdx < 1
  · refine ⟨c.columns, h, ?_⟩
    simp only [TimestreamCursor.readColumnToBuffer, TimestreamCursor.ensureColumnDiscovered, hin,
      if_true, convertColumn]
  · have hpos : 1 ≤ columnIdx := by omega
    obtain ⟨columns, hensure, hcolumns, hle⟩ := h.ensureColumnDiscovered hpos (by omega)
    refine ⟨columns, hcolumns, ?_⟩
    have hcolumn : columns[columnIdx - 1]? = columnMetadataVec[columnIdx - 1]? := by
      obtain ⟨rest, rfl⟩ := hcolumns
      rw [List.getElem?_append_left (by omega)]
    simp only [TimestreamCursor.readColumnToBuffer, hensure, hcolumn, convertColumn, hin, if_false]
    rfl

/-- The conversion of the bound columns of a row, as `FetchNextRow` makes it: the result, the
records and the buffers afterwards. -/
def convertColumns (readToBuffer : γ → δ → B → Option (ConversionResult × B)) (resultMeta : List γ)
    (row : Option (List δ)) : List ℕ → ColumnBindingMap B →
      Option SqlResult × List DiagnosticRecord × ColumnBindingMap B
  | [], bindings => (some .aiSuccess, [], bindings)
  | i :: is, bindings =>
    match bindings (i % 65536) with
    | none => convertColumns readToBuffer resultMeta row is bindings
    | some dataBuf =>
      match convertColumn readToBuffer resultMeta row i dataBuf with
      | none => (none, [], bindings)
      | some (convRes, dataBuf) =>
        let bindings := Function.update bindings (i % 65536) (some dataBuf)
        let processed := processConversionResult convRes i
        if processed.1 = .aiError then (some .aiError, processed.2, bindings)
        else
          let rest := convertColumns readToBuffer resultMeta row is bindings
          (rest.1, processed.2 ++ rest.2.1, rest.2.2)

/-- Reading the columns through the cursor is converting the current row, and leaves the cursor on
it. -/
lemma readColumns_eq (readToBuffer : γ → δ → B → Option (ConversionResult × B))
    {resultMeta : List γ} (is : List ℕ) {c : TimestreamCursor δ γ} (h : c.ColumnsOf resultMeta)
    (bindings : ColumnBindingMap B) :
    ∃ columns, columns <+: resultMeta ∧
      readColumns readToBuffer resultMeta is c bindings =
        (⟨(convertColumns readToBuffer resultMeta c.currentRow is bindings).1,
          (convertColumns readToBuffer resultMeta c.currentRow is bindings).2.1,
          (convertColumns readToBuffer resultMeta c.currentRow is bindings).2.2, c.currentRow⟩,
          { c with columns }) := by
  induction is generalizing c bindings with
  | nil => exact ⟨c.columns, h, rfl⟩
  | cons i is ih =>
    unfold readColumns convertColumns
    rcases hbuf : bindings (i % 65536) with _ | dataBuf
    · exact ih h bindings
    · obtain ⟨columns, hcolumns, hread⟩ := readColumnToBuffer_eq readToBuffer h i dataBuf
      simp only [hread]
      rcases convertColumn readToBuffer resultMeta c.currentRow i dataBuf with _ | ⟨convRes, dataBuf'⟩
      · exact ⟨columns, hcolumns, rfl⟩
      · dsimp only
        by_cases herror : (processConversionResult convRes i).1 = .aiError
        · simp only [herror, if_true]
          exact ⟨columns, hcolumns, rfl⟩
        · simp only [herror, if_false]
          obtain ⟨columns', hcolumns', hrest⟩ := ih (c := { c with columns }) hcolumns
            (Function.update bindings (i % 65536) (some dataBuf'))
          refine ⟨columns', hcolumns', ?_⟩
          rw [hrest]
          rfl

/-- The conversion of all bound columns of a row. -/
def convertRow (env : QueryEnv δ γ B) (resultMeta : List γ) (row : Option (List δ))
    (columnBindings : ColumnBindingMap B) :
    Option SqlResult × List DiagnosticRecord × ColumnBindingMap B :=
  convertColumns env.readToBuffer resultMeta row (List.range' 1 resultMeta.length) columnBindings

/-- The end of a fetch converts the row under the cursor and counts it when that succeeded. -/
lemma readRow_eq (env : QueryEnv δ γ B) (columnBindings : ColumnBindingMap B) {q : DataQuery δ γ}
    {c : TimestreamCursor δ γ} (hc : q.cursor = some c) (hcolumns : c.ColumnsOf q.resultMeta) :
    ∃ columns, columns <+: q.resultMeta ∧ q.readRow env columnBindings =
      (⟨(convertRow env q.resultMeta c.currentRow columnBindings).1,
        (convertRow env q.resultMeta c.currentRow columnBindings).2.1,
        (convertRow env q.resultMeta c.currentRow columnBindings).2.2, c.currentRow⟩,
        { q with
          cursor := some { c with columns }
          rowCounter :=
            if (convertRow env q.resultMeta c.currentRow columnBindings).1 = some .aiSuccess then
              q.rowCounter + 1
            else q.rowCounter }) := by
  obtain ⟨columns, hcolumns', hread⟩ := readColumns_eq env.readToBuffer
    (List.range' 1 q.resultMeta.length) hcolumns columnBindings
  refine ⟨columns, hcolumns', ?_⟩
  unfold readRow
  rw [hc]
  simp only [hread]
  rfl

/-! ## Conversions that succeed -/

/-- Every datum of the row can be converted into every buffer of a kind, and leaves a buffer of the
kind. -/
def Accepts (readToBuffer : γ → δ → B → Option (ConversionResult × B)) (resultMeta : List γ)
    (accepted : B → Prop) (row : List δ) : Prop :=
  ∀ (i : ℕ) column, resultMeta[i]? = some column → ∃ datum, row[i]? = some datum ∧
    ∀ dataBuf, accepted dataBuf → ∃ convRes dataBuf',
      readToBuffer column datum dataBuf = some (convRes, dataBuf') ∧ convRes ≠ .aiFailure ∧
        accepted dataBuf'

/-- All bound buffers are of a kind. -/
def AllBound (accepted : B → Prop) (columnBindings : ColumnBindingMap B) : Prop :=
  ∀ i dataBuf, columnBindings i = some dataBuf → accepted dataBuf

/-- Only a failed conversion is an error. -/
lemma processConversionResult_eq_aiError_iff {convRes : ConversionResult} {columnIdx : ℕ} :
    (processConversionResult convRes columnIdx).1 = .aiError ↔ convRes = .aiFailure := by
  cases convRes <;> simp [processConversionResult]

/-- A row that is accepted is converted without an error. -/
lemma convertColumns_of_accepts {readToBuffer : γ → δ → B → Option (ConversionResult × B)}
    {resultMeta : List γ} {accepted : B → Prop} {row : List δ}
    (hrow : Accepts readToBuffer resultMeta accepted row) {is : List ℕ}
    (his : ∀ i ∈ is, 1 ≤ i ∧ i ≤ resultMeta.length) {columnBindings : ColumnBindingMap B}
    (hbound : AllBound accepted columnBindings) :
    (convertColumns readToBuffer resultMeta (some row) is columnBindings).1 = some .aiSuccess ∧
      AllBound accepted
        (convertColumns readToBuffer resultMeta (some row) is columnBindings).2.2 := by
  induction is generalizing columnBindings with
  | nil => exact ⟨rfl, hbound⟩
  | cons i is ih =>
    have his' : ∀ j ∈ is, 1 ≤ j ∧ j ≤ resultMeta.length :=
      fun j hj => his j (List.mem_cons_of_mem _ hj)
    unfold convertColumns
    rcases hbuf : columnBindings (i % 65536) with _ | dataBuf
    · exact ih his' hbound
    · obtain ⟨hpos, hle⟩ := his i List.mem_cons_self
      obtain ⟨column, hcolumn⟩ : ∃ column, resultMeta[i - 1]? = some column :=
        ⟨_, List.getElem?_eq_getElem (by omega)⟩
      obtain ⟨datum, hdatum, hconverts⟩ := hrow (i - 1) column hcolumn
      obtain ⟨convRes, dataBuf', hconvert, hfailure, haccepted⟩ :=
        hconverts dataBuf (hbound _ _ hbuf)
      have hconverted : convertColumn readToBuffer resultMeta (some row) i dataBuf =
          some (convRes, dataBuf') := by
        have hin : ¬ (resultMeta.length < i ∨ i < 1) := by omega
        simp only [convertColumn, hin, if_false, hcolumn, Option.bind_some, hdatum, hconvert]
      have herror : ¬ (processConversionResult convRes i).1 = .aiError := by
        rw [processConversionResult_eq_aiError_iff]
        exact hfailure
      have hbound' : AllBound accepted
          (Function.update columnBindings (i % 65536) (some dataBuf')) := by
        intro j buf hj
        rw [Function.update_apply] at hj
        split at hj
        · obtain rfl := Option.some.inj hj
          exact haccepted
        · exact hbound j buf hj
      simp only [hconverted, herror, if_false]
      exact ih his' hbound'

/-- A row that is accepted is converted without an error. -/
lemma convertRow_of_accepts {env : QueryEnv δ γ B} {resultMeta : List γ} {accepted : B → Prop}
    {row : List δ} (hrow : Accepts env.readToBuffer resultMeta accepted row)
    {columnBindings : ColumnBindingMap B} (hbound : AllBound accepted columnBindings) :
    (convertRow env resultMeta (some row) columnBindings).1 = some .aiSuccess ∧
      AllBound accepted (convertRow env resultMeta (some row) columnBindings).2.2 := by
  apply convertColumns_of_accepts hrow _ hbound
  intro i hi
  rw [List.mem_range'_1] at hi
  omega

end DataQuery

end TimestreamOdbc
