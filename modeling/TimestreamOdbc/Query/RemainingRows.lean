import TimestreamOdbc.Query.OpenCursor
import TimestreamOdbc.Query.Paging
import TimestreamOdbc.Query.RowConversion

/-!
# The rows that a query still has

A row that is still to be fetched is what its conversion does to the bound columns, together with the
cells it has for each of them.  For every query class: which rows remain in a state, and that a fetch
converts the first of them and leaves the others.  A conversion writes each cell through the binding
of its column, at the offsets that the binding has.
-/

namespace TimestreamOdbc

/-! ## Cells put through a binding -/

/-- A cell of a row: how its value is put into a buffer; nothing when that leaves by an exception. -/
abbrev Cell := ApplicationDataBuffer → Option Put

/-- A cell was put at the offsets of a buffer. -/
def PutAt (buffer : ApplicationDataBuffer) (cell : Cell) (e : Written) : Prop :=
  e.byteOffset = buffer.byteOffset ∧ e.elementOffset = buffer.elementOffset ∧
    ∃ cellOffset, cell (buffer.setCellOffset cellOffset) = some e.put

/-- The cells were put through a binding, one after the other. -/
def ColumnBinding.Puts (cells : List Cell) (entries : List Written) (b b' : ColumnBinding) : Prop :=
  (∃ cellOffset, b' = { b with
    buffer := b.buffer.setCellOffset cellOffset, written := b.written ++ entries }) ∧
  List.Forall₂ (PutAt b.buffer) cells entries

namespace ColumnBinding

variable {b b' : ColumnBinding} {cells : List Cell} {entries : List Written}

/-- Nothing was put. -/
lemma Puts.nil (b : ColumnBinding) : b.Puts [] [] b :=
  ⟨⟨b.buffer.cellOffset, by simp [ApplicationDataBuffer.setCellOffset]⟩, .nil⟩

/-- A cell is put first. -/
lemma Puts.cons {cell : Cell} {put : Put} (hcell : cell b.buffer = some put)
    (h : (b.deliver put).Puts cells entries b') :
    b.Puts (cell :: cells) (⟨b.buffer.byteOffset, b.buffer.elementOffset, put⟩ :: entries) b' := by
  obtain ⟨⟨cellOffset, rfl⟩, hentries⟩ := h
  refine ⟨⟨cellOffset, ?_⟩, .cons ⟨rfl, rfl, b.buffer.cellOffset, hcell⟩ hentries⟩
  simp [deliver, ApplicationDataBuffer.setCellOffset]

end ColumnBinding

/-! ## Rows -/

/-- A row that is still to be fetched: its conversion into the bound columns, which gives nothing
when it leaves by an exception, and its cells by the binding they are put through. -/
structure RemainingRow where
  convert : ColumnBindings → Option FetchedRow
  cells : ℕ → List Cell

/-- A row was converted: its cells were put through the bindings in place, all of them or, when one
failed, those up to it. -/
structure RowConverted (cells : ℕ → List Cell) (columnBindings : ColumnBindings) (f : FetchedRow)
    (entries : ℕ → List Written) : Prop where
  result : f.result = .aiSuccess ∨ f.result = .aiError
  failed : f.result = .aiError ↔ ∃ j, ∃ e ∈ entries j, e.put.result = .aiFailure
  unbound : ∀ j, columnBindings j = none → f.columnBindings j = none ∧ entries j = []
  bound : ∀ j b, columnBindings j = some b → ∃ b' cs, f.columnBindings j = some b' ∧
    cs <+: cells j ∧ (f.result = .aiSuccess → cs = cells j) ∧ b.Puts cs (entries j) b'

/-- The conversion of a row writes in place, whenever it returns. -/
def RemainingRow.InPlace (row : RemainingRow) : Prop :=
  ∀ columnBindings f, row.convert columnBindings = some f →
    ∃ entries, RowConverted row.cells columnBindings f entries

section RowConverted

variable {cells : ℕ → List Cell} {columnBindings : ColumnBindings}

/-- A row without cells is converted without doing anything. -/
lemma rowConverted_nil (records : List DiagnosticRecord) :
    RowConverted (fun _ => []) columnBindings ⟨.aiSuccess, records, columnBindings⟩ fun _ => [] where
  result := .inl rfl
  failed := by simp
  unbound := fun _ h => ⟨h, rfl⟩
  bound := fun _ b h => ⟨b, [], h, List.nil_prefix, fun _ => rfl, .nil b⟩

/-- A row whose first cell fails. -/
lemma rowConverted_failed {i : ℕ} {b : ColumnBinding} {cell : Cell} {put : Put}
    (hb : columnBindings i = some b) (hcell : cell b.buffer = some put)
    (hput : put.result = .aiFailure) (records : List DiagnosticRecord) :
    RowConverted (fun j => if j = i then cell :: cells j else cells j) columnBindings
      ⟨.aiError, records, Function.update columnBindings i (some (b.deliver put))⟩
      fun j => if j = i then [⟨b.buffer.byteOffset, b.buffer.elementOffset, put⟩] else [] where
  result := .inr rfl
  failed := by
    refine ⟨fun _ => ⟨i, _, by rw [if_pos rfl]; exact List.mem_singleton_self _, hput⟩, fun _ => rfl⟩
  unbound := by
    intro j hj
    have hne : j ≠ i := by
      rintro rfl
      rw [hb] at hj
      cases hj
    exact ⟨(Function.update_of_ne hne ..).trans hj, if_neg hne⟩
  bound := by
    intro j b' hj
    by_cases hji : j = i
    · subst hji
      rw [hb] at hj
      cases hj
      refine ⟨b.deliver put, [cell], Function.update_self .., ?_, by simp, ?_⟩
      · rw [if_pos rfl]
        exact List.prefix_cons_inj cell |>.mpr List.nil_prefix
      · rw [if_pos rfl]
        exact .cons hcell (.nil _)
    · refine ⟨b', [], (Function.update_of_ne hji ..).trans hj, List.nil_prefix, by simp, ?_⟩
      · rw [if_neg hji]
        exact .nil b'

/-- A row whose first cell is put, and the others after it. -/
lemma RowConverted.cons {i : ℕ} {b : ColumnBinding} {cell : Cell} {put : Put} {f : FetchedRow}
    {entries : ℕ → List Written} (hb : columnBindings i = some b) (hcell : cell b.buffer = some put)
    (hput : put.result ≠ .aiFailure)
    (h : RowConverted cells (Function.update columnBindings i (some (b.deliver put))) f entries)
    (records : List DiagnosticRecord) :
    RowConverted (fun j => if j = i then cell :: cells j else cells j) columnBindings
      { f with records := records }
      fun j =>
        if j = i then ⟨b.buffer.byteOffset, b.buffer.elementOffset, put⟩ :: entries j
        else entries j where
  result := h.result
  failed := by
    refine h.failed.trans ?_
    constructor
    · rintro ⟨j, e, he, hfailure⟩
      refine ⟨j, e, ?_, hfailure⟩
      split
      · exact List.mem_cons_of_mem _ he
      · exact he
    · rintro ⟨j, e, he, hfailure⟩
      split at he
      · rcases List.mem_cons.mp he with rfl | he
        · exact absurd hfailure hput
        · exact ⟨j, e, he, hfailure⟩
      · exact ⟨j, e, he, hfailure⟩
  unbound := by
    intro j hj
    have hne : j ≠ i := by
      rintro rfl
      rw [hb] at hj
      cases hj
    obtain ⟨hnone, hentries⟩ := h.unbound j (by rw [Function.update_of_ne hne, hj])
    exact ⟨hnone, by rw [if_neg hne, hentries]⟩
  bound := by
    intro j b' hj
    by_cases hji : j = i
    · subst hji
      rw [hb] at hj
      cases hj
      obtain ⟨b'', cs, hb'', hprefix, hall, hputs⟩ := h.bound j (b.deliver put)
        (Function.update_self ..)
      refine ⟨b'', cell :: cs, hb'', ?_, ?_, ?_⟩
      · rw [if_pos rfl]
        exact (List.prefix_cons_inj cell).mpr hprefix
      · intro hsuccess
        rw [if_pos rfl, hall hsuccess]
      · rw [if_pos rfl]
        exact .cons hcell hputs
    · obtain ⟨b'', cs, hb'', hprefix, hall, hputs⟩ := h.bound j b'
        (by rw [Function.update_of_ne hji, hj])
      refine ⟨b'', cs, hb'', ?_, ?_, ?_⟩
      · rw [if_neg hji]
        exact hprefix
      · rw [if_neg hji]
        exact hall
      · rw [if_neg hji]
        exact hputs

end RowConverted

/-! ## Rows of a data query -/

section DataRow

variable {δ γ : Type}

/-- The cell of a row in a column, if the row and the metadata have it. -/
def dataCell (C : TimestreamColumns δ γ) (resultMeta : List γ) (row : List (Option δ))
    (columnIdx : ℕ) : Option Cell :=
  resultMeta[columnIdx - 1]?.bind fun column =>
    row[columnIdx - 1]?.map fun datum => C.readToBuffer column datum

/-- The cells that the columns of a list have for a binding; the keys of the binding map are of type
`uint16_t`. -/
def dataCells (C : TimestreamColumns δ γ) (resultMeta : List γ) (row : List (Option δ))
    (is : List ℕ) (j : ℕ) : List Cell :=
  (is.filter (· % 65536 = j)).filterMap (dataCell C resultMeta row)

/-- A row of a data query. -/
def dataRow (source : DataSource δ γ) (resultMeta : List γ) (row : List (Option δ)) :
    RemainingRow where
  convert columnBindings :=
    let converted := DataQuery.convertRow source.env resultMeta (some row) columnBindings
    converted.1.map fun result => ⟨result, converted.2.1, converted.2.2⟩
  cells := dataCells source.columns resultMeta row (List.range' 1 resultMeta.length)

/-- Converting an existing column of a row puts its cell through the binding. -/
lemma convertColumn_readToBinding {C : TimestreamColumns δ γ} {resultMeta : List γ}
    {row : List (Option δ)} {columnIdx : ℕ} (hpos : 1 ≤ columnIdx)
    (hle : columnIdx ≤ resultMeta.length) (b : ColumnBinding) :
    DataQuery.convertColumn C.readToBinding resultMeta (some row) columnIdx b =
      (dataCell C resultMeta row columnIdx).bind fun cell =>
        (cell b.buffer).map fun put => (put.result, b.deliver put) := by
  have hin : ¬ (resultMeta.length < columnIdx ∨ columnIdx < 1) := by omega
  unfold DataQuery.convertColumn dataCell TimestreamColumns.readToBinding
  rw [if_neg hin]
  cases resultMeta[columnIdx - 1]? with
  | none => rfl
  | some column =>
    simp only [Option.bind_some]
    cases row[columnIdx - 1]? with
    | none => rfl
    | some datum => rfl

/-- The columns of a row are converted in place. -/
lemma convertColumns_inPlace {C : TimestreamColumns δ γ} {resultMeta : List γ}
    {row : List (Option δ)} {is : List ℕ} (his : ∀ i ∈ is, 1 ≤ i ∧ i ≤ resultMeta.length)
    {columnBindings columnBindings' : ColumnBindings} {result : SqlResult}
    {records : List DiagnosticRecord}
    (h : DataQuery.convertColumns C.readToBinding resultMeta (some row) is columnBindings =
      (some result, records, columnBindings')) :
    ∃ entries, RowConverted (dataCells C resultMeta row is) columnBindings
      ⟨result, records, columnBindings'⟩ entries := by
  induction is generalizing columnBindings result records columnBindings' with
  | nil =>
    cases h
    exact ⟨_, rowConverted_nil []⟩
  | cons i is ih =>
    have his' : ∀ j ∈ is, 1 ≤ j ∧ j ≤ resultMeta.length :=
      fun j hj => his j (List.mem_cons_of_mem _ hj)
    obtain ⟨hpos, hle⟩ := his i List.mem_cons_self
    unfold DataQuery.convertColumns at h
    split at h
    · next hnone =>
      obtain ⟨entries, hentries⟩ := ih his' h
      refine ⟨entries, hentries.result, hentries.failed, hentries.unbound, ?_⟩
      intro j b hj
      have hne : i % 65536 ≠ j := by
        rintro rfl
        rw [hnone] at hj
        cases hj
      have hcells : dataCells C resultMeta row (i :: is) j = dataCells C resultMeta row is j := by
        simp [dataCells, hne]
      rw [hcells]
      exact hentries.bound j b hj
    · next b hb =>
      rw [convertColumn_readToBinding hpos hle] at h
      split at h
      · cases h
      · next convRes b' hconvert =>
        obtain ⟨cell, hcell, hmap⟩ := Option.bind_eq_some_iff.mp hconvert
        obtain ⟨put, hput, hx⟩ := Option.map_eq_some_iff.mp hmap
        cases hx
        have hcells : dataCells C resultMeta row (i :: is) = fun j =>
            if j = i % 65536 then cell :: dataCells C resultMeta row is j
            else dataCells C resultMeta row is j := by
          funext j
          by_cases hj : j = i % 65536
          · subst hj
            simp [dataCells, hcell]
          · have hne : i % 65536 ≠ j := fun hne => hj hne.symm
            simp [dataCells, hj, hne]
        rw [hcells]
        dsimp only at h
        split at h
        · next herror =>
          cases h
          have hfailure := DataQuery.processConversionResult_eq_aiError_iff.mp herror
          exact ⟨_, rowConverted_failed hb hput hfailure _⟩
        · next herror =>
          have hfailure : put.result ≠ .aiFailure := fun hfailure =>
            herror (DataQuery.processConversionResult_eq_aiError_iff.mpr hfailure)
          obtain ⟨hresult, hx⟩ := Prod.mk.inj h
          obtain ⟨-, rfl⟩ := Prod.mk.inj hx
          obtain ⟨entries, hentries⟩ := ih his' (Prod.ext hresult rfl)
          exact ⟨_, hentries.cons hb hput hfailure records⟩

/-- A row of a data query is converted in place. -/
lemma dataRow_inPlace (source : DataSource δ γ) (resultMeta : List γ) (row : List (Option δ)) :
    (dataRow source resultMeta row).InPlace := by
  intro columnBindings f h
  obtain ⟨result, hresult, rfl⟩ := Option.map_eq_some_iff.mp h
  refine convertColumns_inPlace ?_ (Prod.ext hresult rfl)
  intro i hi
  rw [List.mem_range'_1] at hi
  omega

end DataRow

/-! ## Rows of a catalog query -/

section MetaRow

variable {μ : Type}

/-- `GetColumn` with the iterator on a row. -/
def readMetaColumn (columnValue : μ → ℕ → Option MetaValue)
    (unknownColumn : SqlResult × List DiagnosticRecord) (P : Platform) (row : μ) (columnIdx : ℕ)
    (buffer : ApplicationDataBuffer) : Option ColumnRead :=
  match columnValue row columnIdx with
  | none => some ⟨unknownColumn.1, unknownColumn.2, none⟩
  | some value => (value.put P buffer).map fun put => ⟨.aiSuccess, [], some put⟩

/-- The cell that a row of a catalog query has for a binding among those of a list. -/
def metaCells (columnValue : μ → ℕ → Option MetaValue) (P : Platform) (row : μ) (is : List ℕ)
    (j : ℕ) : List Cell :=
  if j ∈ is then ((columnValue row j).map (MetaValue.put P)).toList else []

/-- A row of a catalog query. -/
def metaRow (columnValue : μ → ℕ → Option MetaValue)
    (unknownColumn : SqlResult × List DiagnosticRecord) (P : Platform) (row : μ) :
    RemainingRow where
  convert columnBindings :=
    (readBoundColumns (readMetaColumn columnValue unknownColumn P row) (List.range 65536)
      columnBindings).map fun read => ⟨.aiSuccess, read.1, read.2⟩
  cells := metaCells columnValue P row (List.range 65536)

/-- Putting a text does not fail: it succeeds, is cut off, or finds nothing left to put. -/
lemma putStrToStrBuffer_ne_aiFailure {P : Platform} {outChar : OutChar} {value : List UInt8}
    {b : ApplicationDataBuffer} {put : Put} (h : b.putStrToStrBuffer P outChar value = some put) :
    put.result ≠ .aiFailure := by
  obtain ⟨required, -, h⟩ := Option.bind_eq_some_iff.mp h
  split at h
  · cases h
    simp
  · simp only at h
    split at h
    · cases h
      simp
    · obtain ⟨copied, -, rfl⟩ := Option.map_eq_some_iff.mp h
      split <;> simp

/-- Putting a structure gives the result it is asked to give. -/
lemma putStruct_result {result : ConversionResult} {stored : Stored} {size : ℕ}
    {b : ApplicationDataBuffer} {put : Put} (h : b.putStruct result stored size = some put) :
    put.result = result := by
  unfold ApplicationDataBuffer.putStruct at h
  split at h
  · cases h
    rfl
  · cases h

/-- Putting a printed text into characters does not fail. -/
lemma putCharText_ne_aiFailure (tmpStr : Text) (valLen : ℕ) (b : ApplicationDataBuffer) :
    (b.putCharText tmpStr valLen).result ≠ .aiFailure := by
  unfold ApplicationDataBuffer.putCharText
  split
  · simp
  · dsimp only
    split <;> simp

/-- Putting a printed text into wide characters does not fail. -/
lemma putWcharText_ne_aiFailure (P : Platform) (tmpStr : Text) (valLen : ℕ)
    (b : ApplicationDataBuffer) : (b.putWcharText P tmpStr valLen).result ≠ .aiFailure := by
  rcases b.result_putWcharText P tmpStr valLen with h | h <;> simp [h]

/-- Putting a date does not fail. -/
lemma putDate_ne_aiFailure {P : Platform} {value : Date} {b : ApplicationDataBuffer} {put : Put}
    (h : b.putDate P value = some put) : put.result ≠ .aiFailure := by
  unfold ApplicationDataBuffer.putDate at h
  simp only at h
  split at h
  · cases h
    exact putCharText_ne_aiFailure _ _ b
  · cases h
    dsimp only
    split <;> simp
  · simp [putStruct_result h]
  · simp [putStruct_result h]
  · cases h
    simp [ApplicationDataBuffer.unsupported]

/-- Putting a timestamp does not fail. -/
lemma putTimestamp_ne_aiFailure {P : Platform} {value : Timestamp} {b : ApplicationDataBuffer}
    {put : Put} (h : b.putTimestamp P value = some put) : put.result ≠ .aiFailure := by
  unfold ApplicationDataBuffer.putTimestamp at h
  simp only at h
  split at h
  · cases h
    exact putCharText_ne_aiFailure _ _ b
  · cases h
    exact putWcharText_ne_aiFailure P _ _ b
  · simp [putStruct_result h]
  · simp [putStruct_result h]
  · simp [putStruct_result h]
  · cases h
    simp [ApplicationDataBuffer.unsupported]

/-- Putting a time does not fail. -/
lemma putTime_ne_aiFailure {P : Platform} {value : Time} {b : ApplicationDataBuffer} {put : Put}
    (h : b.putTime P value = some put) : put.result ≠ .aiFailure := by
  unfold ApplicationDataBuffer.putTime at h
  simp only at h
  split at h
  · cases h
    exact putCharText_ne_aiFailure _ _ b
  · cases h
    exact putWcharText_ne_aiFailure P _ _ b
  · simp [putStruct_result h]
  · simp [putStruct_result h]
  · cases h
    simp [ApplicationDataBuffer.unsupported]

/-- Putting a number does not fail. -/
lemma putNum_ne_aiFailure {P : Platform} {size : ℕ} {value : ℤ} {b : ApplicationDataBuffer}
    {put : Put} (h : b.putNum P size value = some put) : put.result ≠ .aiFailure := by
  unfold ApplicationDataBuffer.putNum at h
  split at h
  case h_12 | h_13 => exact putStrToStrBuffer_ne_aiFailure h
  case h_17 => exact putDate_ne_aiFailure h
  case h_18 => exact putTimestamp_ne_aiFailure h
  case h_19 => exact putTime_ne_aiFailure h
  case h_15 | h_16 =>
    cases h
    dsimp only
    split <;> simp
  all_goals
    cases h
    simp [ApplicationDataBuffer.putNumToNumBuffer, ApplicationDataBuffer.putNumToFloatBuffer,
      ApplicationDataBuffer.unsupported]

/-- Putting a string does not fail. -/
lemma putString_ne_aiFailure {P : Platform} {value : Text} {b : ApplicationDataBuffer} {put : Put}
    (h : b.putString P value = some put) : put.result ≠ .aiFailure := by
  unfold ApplicationDataBuffer.putString at h
  split at h
  case h_13 | h_14 | h_15 | h_16 => exact putStrToStrBuffer_ne_aiFailure h
  case h_11 | h_12 =>
    cases h
    simp [ApplicationDataBuffer.putNumToFloatBuffer]
  case h_17 | h_18 | h_19 | h_20 | h_21 =>
    cases h
    simp [ApplicationDataBuffer.unsupported]
  all_goals exact putNum_ne_aiFailure h

/-- Putting a value of a catalog query does not fail. -/
lemma MetaValue.put_ne_aiFailure {P : Platform} {value : MetaValue} {b : ApplicationDataBuffer}
    {put : Put} (h : value.put P b = some put) : put.result ≠ .aiFailure := by
  have hnull : b.putNull.result ≠ .aiFailure := by
    unfold ApplicationDataBuffer.putNull
    split <;> simp
  rcases value with (_ | value) | (_ | value) | (_ | value) | _
  case string.some => exact putString_ne_aiFailure h
  case int16.some | int32.some => exact putNum_ne_aiFailure h
  all_goals
    cases h
    exact hnull

/-- The bound columns of a row of a catalog query are read in place. -/
lemma readBoundColumns_inPlace {columnValue : μ → ℕ → Option MetaValue}
    {unknownColumn : SqlResult × List DiagnosticRecord} {P : Platform} {row : μ} {is : List ℕ}
    (his : is.Nodup) {columnBindings columnBindings' : ColumnBindings}
    {records : List DiagnosticRecord}
    (h : readBoundColumns (readMetaColumn columnValue unknownColumn P row) is columnBindings =
      some (records, columnBindings')) :
    ∃ entries, RowConverted (metaCells columnValue P row is) columnBindings
      ⟨.aiSuccess, records, columnBindings'⟩ entries := by
  induction is generalizing columnBindings records columnBindings' with
  | nil =>
    cases h
    exact ⟨_, rowConverted_nil []⟩
  | cons i is ih =>
    obtain ⟨hi, his'⟩ := List.nodup_cons.mp his
    unfold readBoundColumns at h
    split at h
    · next hnone =>
      obtain ⟨entries, hentries⟩ := ih his' h
      refine ⟨entries, hentries.result, hentries.failed, hentries.unbound, ?_⟩
      intro j b hj
      have hne : j ≠ i := by
        rintro rfl
        rw [hnone] at hj
        cases hj
      have hcells : metaCells columnValue P row (i :: is) j = metaCells columnValue P row is j := by
        simp [metaCells, hne]
      rw [hcells]
      exact hentries.bound j b hj
    · next b hb =>
      obtain ⟨read, hcolumn, hrest⟩ := Option.bind_eq_some_iff.mp h
      obtain ⟨⟨records', bindings'⟩, hread, hx⟩ := Option.map_eq_some_iff.mp hrest
      cases hx
      unfold readMetaColumn at hcolumn
      split at hcolumn
      · next hvalue =>
        cases hcolumn
        have hsame : Function.update columnBindings i (some b) = columnBindings := by
          rw [← hb]
          exact Function.update_eq_self i columnBindings
        have hcells : metaCells columnValue P row (i :: is) = metaCells columnValue P row is := by
          funext j
          by_cases hj : j = i
          · subst hj
            simp [metaCells, hvalue]
          · simp [metaCells, hj]
        rw [hcells]
        simp only [Option.elim_none, hsame] at hread
        obtain ⟨entries, hentries⟩ := ih his' hread
        exact ⟨entries, hentries.result, hentries.failed, hentries.unbound, hentries.bound⟩
      · next value hvalue =>
        obtain ⟨put, hput, rfl⟩ := Option.map_eq_some_iff.mp hcolumn
        have hcells : metaCells columnValue P row (i :: is) = fun j =>
            if j = i then value.put P :: metaCells columnValue P row is j
            else metaCells columnValue P row is j := by
          funext j
          by_cases hj : j = i
          · subst hj
            simp [metaCells, hvalue, hi]
          · simp [metaCells, hj]
        rw [hcells]
        obtain ⟨entries, hentries⟩ := ih his' hread
        exact ⟨_, hentries.cons hb hput (MetaValue.put_ne_aiFailure hput) _⟩

/-- A row of a catalog query is converted in place. -/
lemma metaRow_inPlace (columnValue : μ → ℕ → Option MetaValue)
    (unknownColumn : SqlResult × List DiagnosticRecord) (P : Platform) (row : μ) :
    (metaRow columnValue unknownColumn P row).InPlace := by
  intro columnBindings f h
  unfold metaRow at h ⊢
  dsimp only at h ⊢
  obtain ⟨⟨records, columnBindings'⟩, hread, rfl⟩ := Option.map_eq_some_iff.mp h
  exact readBoundColumns_inPlace List.nodup_range hread

end MetaRow

/-! ## What remains in a query -/

/-- What a fetch does to a query of which rows remain: the first of them is converted and the others
remain, or there is none and the fetch ends without data. -/
def FetchesFirst {Q : Type} (K : QueryClass Q) (Remaining : Q → List RemainingRow → Prop) (q : Q)
    (columnBindings : ColumnBindings) : List RemainingRow → Prop
  | [] => ∃ records q', K.fetchNextRow columnBindings q =
      some (⟨.aiNoData, records, columnBindings⟩, q') ∧ Remaining q' []
  | row :: rows => row.InPlace ∧
      (row.convert columnBindings = none → K.fetchNextRow columnBindings q = none) ∧
      ∀ f, row.convert columnBindings = some f →
        ∃ q', K.fetchNextRow columnBindings q = some (f, q') ∧ Remaining q' rows

/-- A fetch that ends on a row converts it, and the query still stands in its result. -/
lemma SyncQuery.Serving.convertsRow {δ γ B : Type} {env : QueryEnv δ γ B} {s : SyncQuery δ γ}
    {c : TimestreamCursor δ γ} {pages : List (QueryResult δ γ)} (h : Serving env s c pages)
    (hcolumns : c.ColumnsOf s.query.resultMeta) (columnBindings : ColumnBindingMap B) :
    ∃ columns, columns <+: s.query.resultMeta ∧
      Serving env (s.finishRow env columnBindings).2 { c with columns } pages ∧
      s.query.readRow env columnBindings =
        (⟨(DataQuery.convertRow env s.query.resultMeta c.currentRow columnBindings).1,
          (DataQuery.convertRow env s.query.resultMeta c.currentRow columnBindings).2.1,
          (DataQuery.convertRow env s.query.resultMeta c.currentRow columnBindings).2.2,
          c.currentRow⟩,
          { s.query with
            cursor := some { c with columns }
            rowCounter :=
              if (DataQuery.convertRow env s.query.resultMeta c.currentRow columnBindings).1 =
                some .aiSuccess then s.query.rowCounter + 1
              else s.query.rowCounter }) := by
  obtain ⟨columns, hcolumns', hread⟩ := DataQuery.readRow_eq env columnBindings h.cursor hcolumns
  refine ⟨columns, hcolumns', ⟨?_, h.wellPlaced, ?_, ?_⟩, hread⟩
  · rw [SyncQuery.finishRow, hread]
  · simpa [SyncQuery.finishRow] using h.flag
  · simpa [SyncQuery.finishRow] using h.queue

namespace WholeQuery

variable {δ γ : Type}

/-- The rows that remain in a data query whose pages all have rows: those of the page of its cursor,
and those of the pages that were not taken yet. -/
def Remaining (q : WholeQuery δ γ) (rows : List RemainingRow) : Prop :=
  q.state.query.cursor = none ∧ rows = [] ∨
    ∃ c pages, SyncQuery.Serving q.source.env q.state c pages ∧
      c.ColumnsOf q.state.query.resultMeta ∧ (∀ page ∈ pages, page.rows ≠ []) ∧
      rows = (pendingRows c pages).map (dataRow q.source q.state.query.resultMeta)

/-- A fetch that ends on the first row of what remains. -/
lemma fetchesFirst_finishRow {q : WholeQuery δ γ} {s : SyncQuery (Option δ) γ}
    {c : TimestreamCursor (Option δ) γ} {pages : List (QueryResult (Option δ) γ)}
    (hc : c.WellPlaced) (hmore : c.increment.1 = true)
    (hserving : SyncQuery.Serving q.source.env s c.moved pages)
    (hcolumns : c.ColumnsOf s.query.resultMeta) (hpages : ∀ page ∈ pages, page.rows ≠ [])
    {columnBindings : ColumnBindings}
    (hfetch : q.state.fetchNextRow q.source.env columnBindings =
      some (s.finishRow q.source.env columnBindings)) :
    FetchesFirst queryClass Remaining q columnBindings
      ((pendingRows c pages).map (dataRow q.source s.query.resultMeta)) := by
  obtain ⟨row, hrow, hremaining⟩ := TimestreamCursor.remaining_eq_cons_of_increment hc hmore
  obtain ⟨columns, hcolumns', hserving', hread⟩ := hserving.convertsRow hcolumns columnBindings
  have hpending : pendingRows c pages = row :: pendingRows { c.moved with columns } pages := by
    have hmoved : ({ c.moved with columns } : TimestreamCursor (Option δ) γ).remaining =
        c.moved.remaining := rfl
    rw [pendingRows, pendingRows, hremaining, hmoved, List.cons_append]
  rw [hpending, List.map_cons]
  rw [hrow] at hread
  have hwhole : q.fetchNextRow columnBindings =
      ((dataRow q.source s.query.resultMeta row).convert columnBindings).map fun f =>
        (f, { q with state := (s.finishRow q.source.env columnBindings).2 }) := by
    unfold WholeQuery.fetchNextRow dataRow
    rw [hfetch]
    simp only [Option.bind_some, Option.map_map, SyncQuery.finishRow, hread]
    rfl
  refine ⟨dataRow_inPlace q.source _ row, ?_, ?_⟩
  · intro hnone
    change q.fetchNextRow columnBindings = none
    rw [hwhole, hnone]
    rfl
  · intro f hf
    refine ⟨{ q with state := (s.finishRow q.source.env columnBindings).2 }, ?_, .inr
      ⟨{ c.moved with columns }, pages, hserving', ?_, hpages, ?_⟩⟩
    · change q.fetchNextRow columnBindings = _
      rw [hwhole, hf]
      rfl
    · have hmeta : (s.finishRow q.source.env columnBindings).2.query.resultMeta =
          s.query.resultMeta := by
        simp [SyncQuery.finishRow]
      rw [hmeta]
      exact hcolumns'
    · simp [SyncQuery.finishRow]

/-- A fetch from a data query converts the first row that remains. -/
lemma Remaining.fetchesFirst {q : WholeQuery δ γ} {rows : List RemainingRow} (h : q.Remaining rows)
    (columnBindings : ColumnBindings) : FetchesFirst queryClass Remaining q columnBindings rows := by
  rcases h with ⟨hc, rfl⟩ | ⟨c, pages, h, hcolumns, hpages, rfl⟩
  · refine ⟨[statusRecord .s01000GeneralWarning "Cursor does not point to any data."], q, ?_,
      .inl ⟨hc, rfl⟩⟩
    change q.fetchNextRow columnBindings = _
    rw [WholeQuery.fetchNextRow, SyncQuery.fetchNextRow, DataQuery.fetchTurn_none hc]
    rfl
  cases h.advances columnBindings with
  | row hfetch hplaced hmore hserving hpending hdiscovered htaken hmeta =>
    rw [← hpending, ← hmeta]
    refine fetchesFirst_finishRow hplaced hmore hserving ?_ (fun page hpage =>
      hpages page (htaken.subset hpage)) hfetch
    rw [hmeta]
    exact hdiscovered.trans hcolumns
  | @ended t records hfetch hmore hpending hcursor _ hmeta hlast =>
    rw [hpending]
    obtain ⟨-, hnil⟩ := TimestreamCursor.remaining_eq_nil_of_increment hmore
    refine ⟨records, { q with state := t }, ?_, .inr ⟨c.moved, [], hlast hpages, ?_, by simp, ?_⟩⟩
    · change q.fetchNextRow columnBindings = _
      rw [WholeQuery.fetchNextRow, hfetch]
      rfl
    · change c.moved.ColumnsOf t.query.resultMeta
      rw [hmeta]
      exact hcolumns
    · simp [pendingRows, hnil]

/-- Before the pages of a result that all have rows, the rows of all of them are pending. -/
lemma pendingRows_ofRows_of_forall {page : QueryResult (Option δ) γ}
    {pages : List (QueryResult (Option δ) γ)} (hrows : ∀ page ∈ pages, page.rows ≠ []) :
    pendingRows (TimestreamCursor.ofRows page.rows : TimestreamCursor (Option δ) γ) pages =
      ((page :: pages).map QueryResult.rows).flatten := by
  have hall : (pages.map QueryResult.rows).takeWhile (!·.isEmpty) = pages.map QueryResult.rows := by
    rw [List.takeWhile_eq_self_iff]
    intro rows hmem
    obtain ⟨page', hpage', rfl⟩ := List.mem_map.mp hmem
    simpa using hrows page' hpage'
  rw [pendingRows, hall, List.map_cons, List.flatten_cons]
  rfl

/-- After the execution of a new data query whose pages all have rows, all their rows remain. -/
lemma remaining_execute {q : WholeQuery δ γ} {page : QueryResult (Option δ) γ}
    {pages : List (QueryResult (Option δ) γ)} (hnew : q.state = .new) (hmax : 0 < q.maxRequests)
    (hserves : Serves q.source.env 0 (page :: pages))
    (hrows : ∀ page' ∈ page :: pages, page'.rows ≠ []) :
    ∃ q', q.execute = some ((.aiSuccess, []), q') ∧
      q'.Remaining (((page :: pages).map QueryResult.rows).flatten.map
        (dataRow q'.source q'.state.query.resultMeta)) := by
  obtain ⟨hans, htoken, hrest⟩ := hserves
  have hpage : page.rows ≠ [] := hrows page List.mem_cons_self
  have hpages : ∀ page' ∈ pages, page'.rows ≠ [] :=
    fun page' hpage' => hrows page' (List.mem_cons_of_mem _ hpage')
  have hplaced := TimestreamCursor.wellPlaced_ofRows (γ := γ) page.rows
  rw [← pendingRows_ofRows_of_forall hpages]
  -- the new query, with its request prepared
  let prepared : DataQuery (Option δ) γ := { (DataQuery.new : DataQuery (Option δ) γ) with
    request := DataQuery.prepareRequest q.source.env
      (DataQuery.new : DataQuery (Option δ) γ).request }
  let start : SyncQuery (Option δ) γ := { (SyncQuery.new : SyncQuery (Option δ) γ) with
    query := prepared }
  obtain ⟨fuel, hfuel⟩ := Nat.exists_eq_add_of_lt hmax
  have hloop : q.state.execute q.source.env q.maxRequests =
      SyncQuery.executeLoop q.source.env (fuel + 1) start := by
    rw [hfuel, hnew, Nat.zero_add]
    rfl
  have hans' : q.source.env.service start.sent.length start.query.request = .success page :=
    hans _
  by_cases hlast : page.nextToken = ""
  · obtain rfl := htoken.mp hlast
    refine ⟨{ q with state := { start.send prepared.request with
      query := prepared.onFirstPage page } }, ?_, .inr ⟨.ofRows page.rows, [], ?_, ?_, ?_, rfl⟩⟩
    · rw [WholeQuery.execute, hloop, SyncQuery.executeLoop, hans',
        DataQuery.executeTurn_page _ start.query hpage hlast]
      rfl
    · exact ⟨rfl, hplaced, by simp [DataQuery.onFirstPage, prepared, DataQuery.new], by simp⟩
    · exact TimestreamCursor.columnsOf_ofRows _ page.rows
    · exact hpages
  · have hmore : pages ≠ [] := fun hr => hlast (htoken.mpr hr)
    refine ⟨{ q with state := SyncQuery.prefetch q.source.env { start.send prepared.request with
      query := { prepared.setNextToken page.nextToken with hasAsyncFetch := true }.onFirstPage
        page } }, ?_, .inr ⟨.ofRows page.rows, pages, ?_, ?_, hpages, rfl⟩⟩
    · rw [WholeQuery.execute, hloop, SyncQuery.executeLoop, hans',
        DataQuery.executeTurn_page_token _ start.query hpage hlast]
      rfl
    · refine ⟨rfl, hplaced, by simpa [SyncQuery.prefetch, DataQuery.onFirstPage] using hmore, ?_⟩
      rintro page' rest' rfl
      obtain ⟨hanswer, htoken', hrest'⟩ := hrest
      refine ⟨?_, htoken', ?_⟩
      · simp [SyncQuery.prefetch, SyncQuery.send, SyncQuery.new, start, hanswer]
      · simpa [SyncQuery.prefetch, SyncQuery.send, SyncQuery.new, start] using hrest'
    · exact TimestreamCursor.columnsOf_ofRows _ page.rows

end WholeQuery

namespace MetaCursor

variable {μ : Type} {c : MetaCursor μ}

/-- The collected rows that the next fetches come to. -/
def rowsLeft (c : MetaCursor μ) : List μ := c.rows.drop (if c.fetched then c.cursor + 1 else c.cursor)

/-- Where a row is left, a fetch moves the iterator to it. -/
lemma moved_of_rowsLeft_cons {row : μ} {rest : List μ} (hle : c.cursor ≤ c.rows.length)
    (h : c.rowsLeft = row :: rest) :
    c.moved.atEnd = false ∧ c.moved.currentRow = some row ∧ c.moved.rowsLeft = rest ∧
      c.moved.cursor ≤ c.moved.rows.length := by
  have hlt : (if c.fetched then c.cursor + 1 else c.cursor) < c.rows.length := by
    by_contra hge
    have hnil : c.rowsLeft = [] := List.drop_eq_nil_of_le (Nat.not_lt.mp hge)
    rw [hnil] at h
    cases h
  have hdrop : c.rowsLeft = c.rows[if c.fetched then c.cursor + 1 else c.cursor] ::
      c.rows.drop ((if c.fetched then c.cursor + 1 else c.cursor) + 1) :=
    List.drop_eq_getElem_cons hlt
  rw [hdrop] at h
  obtain ⟨hrow, hrest⟩ := List.cons.inj h
  cases hfetched : c.fetched with
  | false =>
    simp only [hfetched, Bool.false_eq_true, if_false] at hlt hrow hrest
    have hne : c.cursor ≠ c.rows.length := by omega
    refine ⟨?_, ?_, ?_, ?_⟩ <;>
      simp [moved, hfetched, atEnd, currentRow, rowsLeft, hne, hlt, hrow, hrest, hle]
  | true =>
    simp only [hfetched, if_true] at hlt hrow hrest
    have hne : c.cursor ≠ c.rows.length := by omega
    have hne' : c.cursor + 1 ≠ c.rows.length := by omega
    have hle' : c.cursor + 1 ≤ c.rows.length := by omega
    refine ⟨?_, ?_, ?_, ?_⟩ <;>
      simp [moved, hfetched, atEnd, currentRow, rowsLeft, hne, hne', hlt, hrow, hrest, hle']

/-- Where no row is left, a fetch comes to the end. -/
lemma moved_of_rowsLeft_nil (hle : c.cursor ≤ c.rows.length) (h : c.rowsLeft = []) :
    c.moved.atEnd = true ∧ c.moved.rowsLeft = [] ∧ c.moved.cursor ≤ c.moved.rows.length := by
  have hge : c.rows.length ≤ if c.fetched then c.cursor + 1 else c.cursor :=
    List.drop_eq_nil_iff.mp h
  cases hfetched : c.fetched with
  | false =>
    simp only [hfetched, Bool.false_eq_true, if_false] at hge
    have heq : c.cursor = c.rows.length := by omega
    refine ⟨?_, ?_, ?_⟩ <;> simp [moved, hfetched, atEnd, rowsLeft, heq]
  | true =>
    simp only [hfetched, if_true] at hge
    by_cases heq : c.cursor = c.rows.length
    · refine ⟨?_, ?_, ?_⟩ <;> simp [moved, hfetched, atEnd, rowsLeft, heq]
    · have heq' : c.cursor + 1 = c.rows.length := by omega
      refine ⟨?_, ?_, ?_⟩ <;> simp [moved, hfetched, atEnd, rowsLeft, heq, heq']

section Fetch

variable {columnValue : μ → ℕ → Option MetaValue} {unknownColumn : SqlResult × List DiagnosticRecord}
  {P : Platform}

/-- The rows that remain in an executed catalog query. -/
def Remaining (columnValue : μ → ℕ → Option MetaValue)
    (unknownColumn : SqlResult × List DiagnosticRecord) (P : Platform) (c : MetaCursor μ)
    (rows : List RemainingRow) : Prop :=
  c.executed = true ∧ c.cursor ≤ c.rows.length ∧
    rows = c.rowsLeft.map (metaRow columnValue unknownColumn P)

/-- `GetColumn` reads the row that the iterator is on. -/
lemma getColumn_eq {row : μ} (hexecuted : c.executed = true) (hrow : c.currentRow = some row) :
    c.getColumn columnValue unknownColumn P = readMetaColumn columnValue unknownColumn P row := by
  funext columnIdx buffer
  unfold MetaCursor.getColumn readMetaColumn
  rw [hrow, hexecuted]
  rfl

/-- A fetch from an executed catalog query of which no row remains. -/
lemma fetchNextRow_of_rowsLeft_nil {rows : List RemainingRow}
    (h : c.Remaining columnValue unknownColumn P rows) (hleft : c.rowsLeft = [])
    (readColumn : MetaCursor μ → ℕ → ApplicationDataBuffer → Option ColumnRead)
    (columnBindings : ColumnBindings) :
    ∃ c', c.fetchNextRow readColumn columnBindings = some (⟨.aiNoData, [], columnBindings⟩, c') ∧
      c'.Remaining columnValue unknownColumn P [] := by
  obtain ⟨hexecuted, hle, -⟩ := h
  obtain ⟨hend, hleft', hle'⟩ := moved_of_rowsLeft_nil hle hleft
  refine ⟨c.moved, ?_, moved_executed.trans hexecuted, hle', by rw [hleft']; rfl⟩
  simp [MetaCursor.fetchNextRow, hexecuted, hend]

/-- A fetch from an executed catalog query converts the first row that remains. -/
lemma fetchNextRow_of_rowsLeft_cons {rows : List RemainingRow} {row : μ} {rest : List μ}
    (h : c.Remaining columnValue unknownColumn P rows) (hleft : c.rowsLeft = row :: rest)
    {readColumn : MetaCursor μ → ℕ → ApplicationDataBuffer → Option ColumnRead}
    (hread : ∀ c' : MetaCursor μ, c'.executed = true → c'.currentRow = some row →
      readColumn c' = readMetaColumn columnValue unknownColumn P row)
    (columnBindings : ColumnBindings) :
    ∃ c', c.fetchNextRow readColumn columnBindings =
        ((metaRow columnValue unknownColumn P row).convert columnBindings).map (fun f => (f, c')) ∧
      c'.Remaining columnValue unknownColumn P
        (rest.map (metaRow columnValue unknownColumn P)) := by
  obtain ⟨hexecuted, hle, -⟩ := h
  obtain ⟨hend, hrow, hleft', hle'⟩ := moved_of_rowsLeft_cons hle hleft
  have hexecuted' := moved_executed.trans hexecuted
  refine ⟨c.moved, ?_, hexecuted', hle', by rw [hleft']⟩
  unfold MetaCursor.fetchNextRow metaRow
  simp only [hexecuted, hend, Bool.not_true, Bool.false_eq_true, if_false,
    hread c.moved hexecuted' hrow, Option.map_map]
  rfl

end Fetch

end MetaCursor

/-- The check of a table query for an empty result does not matter on a row. -/
lemma TableMetadataQuery.getColumn_eq {P : Platform} {c : MetaCursor TableMeta} {row : TableMeta}
    (hexecuted : c.executed = true) (hrow : c.currentRow = some row) :
    TableMetadataQuery.getColumn P c =
      readMetaColumn TableMeta.columnValue (.aiSuccess, []) P row := by
  have hrows : c.rows ≠ [] := by
    intro hempty
    simp [MetaCursor.currentRow, hempty] at hrow
  rw [← MetaCursor.getColumn_eq hexecuted hrow]
  funext columnIdx buffer
  simp [TableMetadataQuery.getColumn, hrows]

namespace Query

variable {δ γ : Type} {P : Platform}

/-- The class of all queries, with data queries of whole operations. -/
abbrev whole (P : Platform) : QueryClass (Query (WholeQuery δ γ)) :=
  queryClass WholeQuery.queryClass P

/-- The rows that remain in a query. A function that is not supported has none. -/
def Remaining (P : Platform) (q : Query (WholeQuery δ γ)) (rows : List RemainingRow) : Prop :=
  match q with
  | data q => q.Remaining rows
  | tables q => q.state.Remaining TableMeta.columnValue (.aiSuccess, []) P rows
  | columns q => q.state.Remaining (ColumnMeta.columnValue P)
      (.aiError, [statusRecord .s07009InvalidDescriptorIndex "Invalid index."]) P rows
  | typeInfo q => q.state.Remaining ScalarType.columnValue (.aiSuccess, []) P rows
  | unsupported _ => rows = []

/-- A fetch from a query that wraps a cursor over collected rows. -/
lemma fetchesFirst_of_cursor {μ : Type} {c : MetaCursor μ} {columnValue : μ → ℕ → Option MetaValue}
    {unknownColumn : SqlResult × List DiagnosticRecord} {rows : List RemainingRow}
    (h : c.Remaining columnValue unknownColumn P rows)
    {readColumn : MetaCursor μ → ℕ → ApplicationDataBuffer → Option ColumnRead}
    (hread : ∀ (c' : MetaCursor μ) row, c'.executed = true → c'.currentRow = some row →
      readColumn c' = readMetaColumn columnValue unknownColumn P row)
    {columnBindings : ColumnBindings} {q : Query (WholeQuery δ γ)}
    (wrap : MetaCursor μ → Query (WholeQuery δ γ))
    (hwrap : ∀ c' rows, c'.Remaining columnValue unknownColumn P rows → (wrap c').Remaining P rows)
    (hfetch : (whole P).fetchNextRow columnBindings q =
      (c.fetchNextRow readColumn columnBindings).map fun (f, c') => (f, wrap c')) :
    FetchesFirst (whole P) (Query.Remaining P) q columnBindings rows := by
  cases hleft : c.rowsLeft with
  | nil =>
    obtain ⟨c', hc', hrest⟩ :=
      MetaCursor.fetchNextRow_of_rowsLeft_nil h hleft readColumn columnBindings
    have hrows : rows = [] := by
      rw [h.2.2, hleft]
      rfl
    subst hrows
    refine ⟨[], wrap c', ?_, hwrap c' [] hrest⟩
    rw [hfetch, hc']
    rfl
  | cons row rest =>
    obtain ⟨c', hc', hrest⟩ := MetaCursor.fetchNextRow_of_rowsLeft_cons h hleft
      (fun c' => hread c' row) columnBindings
    have hrows : rows = metaRow columnValue unknownColumn P row ::
        rest.map (metaRow columnValue unknownColumn P) := by
      rw [h.2.2, hleft]
      rfl
    subst hrows
    rw [hc', Option.map_map] at hfetch
    refine ⟨metaRow_inPlace columnValue unknownColumn P row, ?_, ?_⟩
    · intro hnone
      rw [hfetch, hnone]
      rfl
    · intro f hf
      refine ⟨wrap c', ?_, hwrap c' _ hrest⟩
      rw [hfetch, hf]
      rfl

/-- A fetch converts the first row that remains, in every class. -/
lemma Remaining.fetchesFirst {q : Query (WholeQuery δ γ)} {rows : List RemainingRow}
    (h : q.Remaining P rows) (columnBindings : ColumnBindings) :
    FetchesFirst (whole P) (Query.Remaining P) q columnBindings rows := by
  cases q with
  | data q =>
    have hq : q.Remaining rows := h
    have hfirst := hq.fetchesFirst columnBindings
    cases rows with
    | nil =>
      obtain ⟨records, q', hfetch, hrest⟩ := hfirst
      exact ⟨records, data q', congrArg (Option.map _) hfetch, hrest⟩
    | cons row rows =>
      obtain ⟨hplace, hthrows, hfetches⟩ := hfirst
      refine ⟨hplace, fun hnone => congrArg (Option.map _) (hthrows hnone), ?_⟩
      intro f hf
      obtain ⟨q', hfetch, hrest⟩ := hfetches f hf
      exact ⟨data q', congrArg (Option.map _) hfetch, hrest⟩
  | tables q =>
    have hq : q.state.Remaining TableMeta.columnValue (.aiSuccess, []) P rows := h
    by_cases hempty : q.state.rows = []
    · have hleft : q.state.rowsLeft = [] := by
        unfold MetaCursor.rowsLeft
        rw [hempty, List.drop_nil]
      have hrows : rows = [] := by
        rw [hq.2.2, hleft]
        rfl
      subst hrows
      refine ⟨[], tables q, ?_, h⟩
      change (q.fetchNextRow P columnBindings).map _ = _
      unfold TableMetadataQuery.fetchNextRow
      rw [if_pos ⟨hq.1, hempty⟩]
      rfl
    · refine fetchesFirst_of_cursor hq (fun _ _ => TableMetadataQuery.getColumn_eq)
        (fun state => tables { q with state }) (fun _ _ hrest => hrest) ?_
      change (q.fetchNextRow P columnBindings).map _ = _
      unfold TableMetadataQuery.fetchNextRow
      rw [if_neg (fun hboth => hempty hboth.2), Option.map_map]
      rfl
  | columns q =>
    refine fetchesFirst_of_cursor h (fun _ _ => MetaCursor.getColumn_eq)
      (fun state => columns { q with state }) (fun _ _ hrest => hrest) ?_
    change (q.fetchNextRow P columnBindings).map _ = _
    unfold ColumnMetadataQuery.fetchNextRow
    rw [Option.map_map]
    rfl
  | typeInfo q =>
    refine fetchesFirst_of_cursor h (fun _ _ => MetaCursor.getColumn_eq)
      (fun state => typeInfo { state }) (fun _ _ hrest => hrest) ?_
    change (q.fetchNextRow P columnBindings).map _ = _
    unfold TypeInfoQuery.fetchNextRow
    rw [Option.map_map]
    rfl
  | unsupported functionName =>
    have hrows : rows = [] := h
    subst hrows
    exact ⟨_, _, rfl, rfl⟩

end Query

end TimestreamOdbc
