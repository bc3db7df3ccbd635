import TimestreamOdbc.RowsetFetch

/-!
# What a fetch tells of its conversions

A conversion reports a result, a fetch of a row folds the results of its columns into one, and the
loop over a rowset folds those into statuses, a count and a return code.  A failed conversion comes
through all of it.  A conversion with a warning leaves a record, if it is made for a data query.
-/

namespace TimestreamOdbc

/-! ## Conversions with a warning -/

/-- The results of a conversion that are a success with information. -/
def ConversionResult.warns : ConversionResult → Bool
  | .aiVarlenDataTruncated | .aiFractionalTruncated | .aiIndicatorNeeded
  | .aiUnsupportedConversion => true
  | _ => false

/-- The states of the records of such conversions. -/
def SqlState.isConversionWarning : SqlState → Bool
  | .s01004DataTruncated | .s01S07FractionalTruncation | .s22002IndicatorNeeded
  | .sHYC00OptionalFeatureNotImplemented => true
  | _ => false

/-- A conversion had something to warn of: its result says so, or it succeeded without storing a
value or an indicator, as a null does where an indicator is needed. -/
def Written.Warned (e : Written) : Prop :=
  e.put.result.warns ∨ e.put.result = .aiSuccess ∧ e.put.stored = none ∧ e.put.indicator = none

/-- The record that a warning leaves, with the number of its column. -/
def Written.Recorded (columnIdx : ℕ) (e : Written) (record : DiagnosticRecord) : Prop :=
  DataQuery.processConversionResult e.put.result columnIdx = (.aiSuccessWithInfo, [record])

/-- A conversion with a warning is a success with information and leaves one record of its state. -/
lemma processConversionResult_of_warns {convRes : ConversionResult} (columnIdx : ℕ)
    (h : convRes.warns = true) :
    ∃ record, DataQuery.processConversionResult convRes columnIdx =
      (.aiSuccessWithInfo, [record]) := by
  cases convRes <;> first | exact ⟨_, rfl⟩ | cases h

/-- A record of a conversion warning is left by a conversion with a warning only. -/
lemma processConversionResult_of_mem {convRes : ConversionResult} {columnIdx : ℕ}
    {record : DiagnosticRecord}
    (hrecord : record ∈ (DataQuery.processConversionResult convRes columnIdx).2)
    (h : record.sqlState.isConversionWarning = true) :
    DataQuery.processConversionResult convRes columnIdx = (.aiSuccessWithInfo, [record]) := by
  cases convRes <;>
    simp only [DataQuery.processConversionResult, List.mem_singleton, List.not_mem_nil] at hrecord <;>
    subst hrecord <;> first | rfl | cases h

/-! ## A fetch of a row -/

/-- What one turn of the loop over a rowset came to: the result and the records of the fetch, and
what was put through each binding. -/
structure TurnOutcome where
  result : SqlResult
  records : List DiagnosticRecord
  entries : ℕ → List Written

namespace TurnOutcome

/-- There was no further row. -/
def AtEnd (o : TurnOutcome) : Prop := o.result = .aiNoData ∧ ∀ j, o.entries j = []

/-- The query could not come to a row. -/
def CursorFailed (o : TurnOutcome) : Prop :=
  o.result = .aiError ∧
    (o.records = [DataQuery.invalidCursorState] ∨ o.records = [notExecuted]) ∧ ∀ j, o.entries j = []

/-- The conversion of a bound column failed. -/
def ConversionFailed (o : TurnOutcome) : Prop :=
  ∃ j, ∃ e ∈ o.entries j, e.put.result = .aiFailure

/-- A row was converted. -/
def Converted (o : TurnOutcome) : Prop :=
  (o.result = .aiSuccess ∨ o.result = .aiError) ∧ (o.result = .aiError ↔ o.ConversionFailed)

/-- The element of the rowset is in error. -/
def Failed (o : TurnOutcome) : Prop := o.CursorFailed ∨ o.ConversionFailed

/-- A row was delivered. -/
def Delivered (o : TurnOutcome) : Prop := o.Converted ∧ ¬ o.ConversionFailed

/-- The conversion of a bound column had something to warn of. -/
def Warned (o : TurnOutcome) : Prop := ∃ j, ∃ e ∈ o.entries j, e.Warned

/-- What a turn reports of the conversions that it makes. -/
structure Reported (reports : Prop) (o : TurnOutcome) : Prop where
  kind : o.AtEnd ∨ o.CursorFailed ∨ o.Converted
  recorded : ∀ record ∈ o.records, record.sqlState.isConversionWarning = true →
    ∃ i, ∃ e ∈ o.entries (i % 65536), e.Recorded i record
  reported : reports → ∀ j, ∀ e ∈ o.entries j, e.put.result.warns = true →
    ∃ i record, i % 65536 = j ∧ e.Recorded i record ∧ record ∈ o.records

/-- Where nothing was put, no conversion failed. -/
lemma not_conversionFailed {o : TurnOutcome} (h : ∀ j, o.entries j = []) : ¬ o.ConversionFailed := by
  rintro ⟨j, e, he, -⟩
  rw [h j] at he
  cases he

/-- The result of a turn tells which of its kinds it is of. -/
lemma Reported.result_cases {reports : Prop} {o : TurnOutcome} (h : o.Reported reports) :
    o.result = .aiNoData ∧ o.AtEnd ∧ ¬ o.Failed ∧ ¬ o.Delivered ∨
      o.result = .aiError ∧ ¬ o.AtEnd ∧ o.Failed ∧ ¬ o.Delivered ∨
      o.result = .aiSuccess ∧ ¬ o.AtEnd ∧ ¬ o.Failed ∧ o.Delivered := by
  have hend : o.AtEnd → o.result = .aiNoData := And.left
  have hcursor : o.CursorFailed → o.result = .aiError := And.left
  have hdelivered : o.Delivered → o.result = .aiSuccess := by
    rintro ⟨⟨hresult, hiff⟩, hnot⟩
    exact hresult.resolve_right fun herror => hnot (hiff.mp herror)
  rcases h.kind with hkind | hkind | hkind
  · refine .inl ⟨hkind.1, hkind, ?_, ?_⟩
    · rintro (hfailed | hfailed)
      · cases hkind.1.symm.trans (hcursor hfailed)
      · exact not_conversionFailed hkind.2 hfailed
    · intro hdel
      cases hkind.1.symm.trans (hdelivered hdel)
  · refine .inr (.inl ⟨hkind.1, ?_, .inl hkind, ?_⟩)
    · intro hatEnd
      cases hkind.1.symm.trans (hend hatEnd)
    · intro hdel
      cases hkind.1.symm.trans (hdelivered hdel)
  · by_cases hfailed : o.ConversionFailed
    · have hresult := hkind.2.mpr hfailed
      refine .inr (.inl ⟨hresult, ?_, .inr hfailed, fun hdel => hdel.2 hfailed⟩)
      intro hatEnd
      cases hresult.symm.trans (hend hatEnd)
    · have hresult := hdelivered ⟨hkind, hfailed⟩
      refine .inr (.inr ⟨hresult, ?_, ?_, hkind, hfailed⟩)
      · intro hatEnd
        cases hresult.symm.trans (hend hatEnd)
      · rintro (hcf | hcf)
        · cases hresult.symm.trans (hcursor hcf)
        · exact hfailed hcf

/-- A turn ended without data if and only if there was no further row. -/
lemma Reported.result_eq_aiNoData_iff {reports : Prop} {o : TurnOutcome} (h : o.Reported reports) :
    o.result = .aiNoData ↔ o.AtEnd := by
  rcases h.result_cases with ⟨hresult, hend, -⟩ | ⟨hresult, hend, -⟩ | ⟨hresult, hend, -⟩ <;>
    simp [hresult, hend]

/-- A turn ended with an error if and only if its element is in error. -/
lemma Reported.result_eq_aiError_iff {reports : Prop} {o : TurnOutcome} (h : o.Reported reports) :
    o.result = .aiError ↔ o.Failed := by
  rcases h.result_cases with ⟨hresult, -, hfailed, -⟩ | ⟨hresult, -, hfailed, -⟩ |
    ⟨hresult, -, hfailed, -⟩ <;> simp [hresult, hfailed]

/-- A turn succeeded if and only if a row was delivered. -/
lemma Reported.result_eq_aiSuccess_iff {reports : Prop} {o : TurnOutcome} (h : o.Reported reports) :
    o.result = .aiSuccess ↔ o.Delivered := by
  rcases h.result_cases with ⟨hresult, -, -, hdel⟩ | ⟨hresult, -, -, hdel⟩ | ⟨hresult, -, -, hdel⟩ <;>
    simp [hresult, hdel]

end TurnOutcome

/-- A fetch of a row reports its conversions; the entries are what it put through the bindings. -/
def FetchedRow.Reports (reports : Prop) (columnBindings : ColumnBindings) (f : FetchedRow) : Prop :=
  ∃ entries, (⟨f.result, f.records, entries⟩ : TurnOutcome).Reported reports ∧
    ∀ j, f.columnBindings.written j = columnBindings.written j ++ entries j

/-- A row was converted, and the fetch reports its conversions. -/
def FetchedRow.ReportsRow (reports : Prop) (columnBindings : ColumnBindings) (f : FetchedRow) : Prop :=
  ∃ entries, (⟨f.result, f.records, entries⟩ : TurnOutcome).Converted ∧
    (⟨f.result, f.records, entries⟩ : TurnOutcome).Reported reports ∧
    ∀ j, f.columnBindings.written j = columnBindings.written j ++ entries j

section FetchedRow

variable {reports : Prop} {columnBindings : ColumnBindings}

/-- A converted row is reported. -/
lemma FetchedRow.ReportsRow.toReports {f : FetchedRow} (h : f.ReportsRow reports columnBindings) :
    f.Reports reports columnBindings := by
  obtain ⟨entries, -, hreported, hwritten⟩ := h
  exact ⟨entries, hreported, hwritten⟩

/-- A fetch that makes no conversion. -/
lemma FetchedRow.reports_of_no_conversion {result : SqlResult} {records : List DiagnosticRecord}
    (hkind : result = .aiNoData ∨
      result = .aiError ∧ (records = [DataQuery.invalidCursorState] ∨ records = [notExecuted]))
    (hrecords : ∀ record ∈ records, record.sqlState.isConversionWarning = false) :
    (⟨result, records, columnBindings⟩ : FetchedRow).Reports reports columnBindings := by
  refine ⟨fun _ => [], ⟨?_, ?_, by simp⟩, by simp⟩
  · rcases hkind with hresult | ⟨hresult, hrecords⟩
    · exact .inl ⟨hresult, fun _ => rfl⟩
    · exact .inr (.inl ⟨hresult, hrecords, fun _ => rfl⟩)
  · intro record hrecord hwarning
    rw [hrecords record hrecord] at hwarning
    cases hwarning

/-- A row without bound columns. -/
lemma FetchedRow.reportsRow_nil :
    (⟨.aiSuccess, [], columnBindings⟩ : FetchedRow).ReportsRow reports columnBindings := by
  have hconverted : (⟨.aiSuccess, [], fun _ => []⟩ : TurnOutcome).Converted :=
    ⟨.inl rfl, by simp [TurnOutcome.ConversionFailed]⟩
  exact ⟨fun _ => [], hconverted, ⟨.inr (.inr hconverted), by simp, by simp⟩, by simp⟩

/-- What is written through the bindings when a conversion is made into one of them. -/
lemma ColumnBindings.written_update_deliver {i : ℕ} {b : ColumnBinding} {put : Put}
    (hb : columnBindings i = some b) (j : ℕ) :
    ColumnBindings.written (Function.update columnBindings i (some (b.deliver put))) j =
      columnBindings.written j ++
        if j = i then [⟨b.buffer.byteOffset, b.buffer.elementOffset, put⟩] else [] := by
  by_cases hj : j = i
  · subst hj
    rw [if_pos rfl]
    simp [written, hb, ColumnBinding.deliver]
  · rw [if_neg hj]
    simp [written, hj]

/-- A row of which a conversion fails, before any other is made. -/
lemma FetchedRow.reportsRow_failed {i : ℕ} {b : ColumnBinding} {put : Put}
    (hb : columnBindings i = some b) (hput : put.result = .aiFailure) (columnIdx : ℕ) :
    (⟨.aiError, (DataQuery.processConversionResult put.result columnIdx).2,
      Function.update columnBindings i (some (b.deliver put))⟩ : FetchedRow).ReportsRow reports
        columnBindings := by
  let e : Written := ⟨b.buffer.byteOffset, b.buffer.elementOffset, put⟩
  have hconverted : (⟨.aiError, (DataQuery.processConversionResult put.result columnIdx).2,
      fun j => if j = i then [e] else []⟩ : TurnOutcome).Converted :=
    ⟨.inr rfl, fun _ => ⟨i, e, by simp, hput⟩, fun _ => rfl⟩
  refine ⟨_, hconverted, ⟨.inr (.inr hconverted), ?_, ?_⟩, ColumnBindings.written_update_deliver hb⟩
  · intro record hrecord hwarning
    rw [hput] at hrecord
    have hfailure := processConversionResult_of_mem hrecord hwarning
    cases congrArg Prod.fst hfailure
  · intro _ j e' he' hwarns
    dsimp only at he'
    split at he'
    · rw [List.mem_singleton.mp he'] at hwarns
      simp only [e, hput] at hwarns
      cases hwarns
    · cases he'

/-- A row of which a conversion is made before the others. -/
lemma FetchedRow.ReportsRow.cons {i : ℕ} {b : ColumnBinding} {put : Put} {f : FetchedRow}
    (hb : columnBindings i = some b) (hput : put.result ≠ .aiFailure)
    (h : f.ReportsRow reports (Function.update columnBindings i (some (b.deliver put))))
    (own : List DiagnosticRecord)
    (hown : ∀ record ∈ own, record.sqlState.isConversionWarning = true →
      ∃ k, k % 65536 = i ∧
        DataQuery.processConversionResult put.result k = (.aiSuccessWithInfo, [record]))
    (hreports : reports → put.result.warns = true → ∃ k, ∃ record ∈ own, k % 65536 = i ∧
      DataQuery.processConversionResult put.result k = (.aiSuccessWithInfo, [record])) :
    (⟨f.result, own ++ f.records, f.columnBindings⟩ : FetchedRow).ReportsRow reports
      columnBindings := by
  obtain ⟨entries, ⟨hresult, hfailed⟩, hreported, hwritten⟩ := h
  let e : Written := ⟨b.buffer.byteOffset, b.buffer.elementOffset, put⟩
  let entries' : ℕ → List Written := fun j => (if j = i then [e] else []) ++ entries j
  have hmem : ∀ j, ∀ e' ∈ entries j, e' ∈ entries' j :=
    fun j e' he' => List.mem_append_right _ he'
  have hfirst : e ∈ entries' i := by
    simp [entries']
  have hcases : ∀ j, ∀ e' ∈ entries' j, j = i ∧ e' = e ∨ e' ∈ entries j := by
    intro j e' he'
    rcases List.mem_append.mp he' with he' | he'
    · split at he'
      · next hj => exact .inl ⟨hj, List.mem_singleton.mp he'⟩
      · cases he'
    · exact .inr he'
  have hconverted : (⟨f.result, own ++ f.records, entries'⟩ : TurnOutcome).Converted := by
    refine ⟨hresult, hfailed.trans ?_⟩
    constructor
    · rintro ⟨j, e', he', hfailure⟩
      exact ⟨j, e', hmem j e' he', hfailure⟩
    · rintro ⟨j, e', he', hfailure⟩
      rcases hcases j e' he' with ⟨-, rfl⟩ | he'
      · exact absurd hfailure hput
      · exact ⟨j, e', he', hfailure⟩
  refine ⟨entries', hconverted, ⟨.inr (.inr hconverted), ?_, ?_⟩, ?_⟩
  · intro record hrecord hwarning
    rcases List.mem_append.mp hrecord with hrecord | hrecord
    · obtain ⟨k, rfl, hk⟩ := hown record hrecord hwarning
      exact ⟨k, e, hfirst, hk⟩
    · obtain ⟨k, e', he', hk⟩ := hreported.recorded record hrecord hwarning
      exact ⟨k, e', hmem _ e' he', hk⟩
  · intro hrep j e' he' hwarns
    rcases hcases j e' he' with ⟨rfl, rfl⟩ | he'
    · obtain ⟨k, record, hrecord, hk, hprocess⟩ := hreports hrep hwarns
      exact ⟨k, record, hk, hprocess, List.mem_append_left _ hrecord⟩
    · obtain ⟨k, record, hk, hprocess, hrecord⟩ := hreported.reported hrep j e' he' hwarns
      exact ⟨k, record, hk, hprocess, List.mem_append_right _ hrecord⟩
  · intro j
    rw [hwritten j, ColumnBindings.written_update_deliver hb, List.append_assoc]

end FetchedRow

/-! ## A fetch from a query -/

section DataQuery

variable {δ γ : Type}

/-- Reading a column of the result into a bound column delivers what its conversion gives. -/
lemma readColumnToBuffer_eq_some {C : TimestreamColumns δ γ} {resultMeta : List γ}
    {c c' : TimestreamCursor (Option δ) γ} {i : ℕ} (hpos : 1 ≤ i) (hle : i ≤ resultMeta.length)
    {b b' : ColumnBinding} {convRes : ConversionResult}
    (h : c.readColumnToBuffer C.readToBinding resultMeta i b = (some (convRes, b'), c')) :
    ∃ put : Put, convRes = put.result ∧ b' = b.deliver put := by
  have hin : ¬ (resultMeta.length < i ∨ i < 1) := by omega
  unfold TimestreamCursor.readColumnToBuffer at h
  split at h
  · next u hdiscover =>
    unfold TimestreamCursor.ensureColumnDiscovered at hdiscover
    rw [if_neg hin] at hdiscover
    split at hdiscover <;> cases hdiscover
  · obtain ⟨hread, -⟩ := Prod.mk.inj h
    obtain ⟨column, -, hread⟩ := Option.bind_eq_some_iff.mp hread
    obtain ⟨datum, -, hread⟩ := Option.bind_eq_some_iff.mp hread
    obtain ⟨put, -, hx⟩ := Option.map_eq_some_iff.mp hread
    obtain ⟨hresult, hbinding⟩ := Prod.mk.inj hx
    exact ⟨put, hresult.symm, hbinding.symm⟩

/-- The bound columns of a row are reported, and each of their warnings leaves its record. -/
lemma readColumns_reportsRow {C : TimestreamColumns δ γ} {resultMeta : List γ} {is : List ℕ}
    (his : ∀ i ∈ is, 1 ≤ i ∧ i ≤ resultMeta.length) {reports : Prop}
    {c : TimestreamCursor (Option δ) γ} {columnBindings : ColumnBindings} {result : SqlResult}
    (h : (DataQuery.readColumns C.readToBinding resultMeta is c columnBindings).1.result =
      some result) :
    FetchedRow.ReportsRow reports columnBindings
      ⟨result, (DataQuery.readColumns C.readToBinding resultMeta is c columnBindings).1.records,
        (DataQuery.readColumns C.readToBinding resultMeta is c columnBindings).1.columnBindings⟩ := by
  induction is generalizing c columnBindings with
  | nil =>
    cases h
    exact FetchedRow.reportsRow_nil
  | cons i is ih =>
    have his' : ∀ j ∈ is, 1 ≤ j ∧ j ≤ resultMeta.length :=
      fun j hj => his j (List.mem_cons_of_mem _ hj)
    obtain ⟨hpos, hle⟩ := his i List.mem_cons_self
    unfold DataQuery.readColumns at h ⊢
    cases hb : columnBindings (i % 65536) with
    | none =>
      simp only [hb] at h ⊢
      exact ih his' h
    | some b =>
      simp only [hb] at h ⊢
      rcases hread : c.readColumnToBuffer C.readToBinding resultMeta i b with ⟨_ | ⟨convRes, b'⟩, c'⟩
      · rw [hread] at h
        cases h
      · obtain ⟨put, rfl, rfl⟩ := readColumnToBuffer_eq_some hpos hle hread
        simp only [hread] at h ⊢
        by_cases herror : (DataQuery.processConversionResult put.result i).1 = .aiError
        · simp only [herror, if_true] at h ⊢
          cases h
          have hfailure := DataQuery.processConversionResult_eq_aiError_iff.mp herror
          exact FetchedRow.reportsRow_failed hb hfailure i
        · simp only [herror, if_false] at h ⊢
          have hfailure : put.result ≠ .aiFailure := fun hfailure =>
            herror (DataQuery.processConversionResult_eq_aiError_iff.mpr hfailure)
          refine FetchedRow.ReportsRow.cons hb hfailure (ih his' h)
            (DataQuery.processConversionResult put.result i).2 ?_ ?_
          · intro record hrecord hwarning
            exact ⟨i, rfl, processConversionResult_of_mem hrecord hwarning⟩
          · intro _ hwarns
            obtain ⟨record, hrecord⟩ := processConversionResult_of_warns i hwarns
            exact ⟨i, record, by simp [hrecord], rfl, hrecord⟩

/-- The row that a fetch ends on is reported. -/
lemma finishRow_reportsRow {C : DataSource δ γ} {s : SyncQuery (Option δ) γ} {reports : Prop}
    {columnBindings : ColumnBindings} {result : SqlResult}
    (h : (s.finishRow C.env columnBindings).1.result = some result) :
    FetchedRow.ReportsRow reports columnBindings
      ⟨result, (s.finishRow C.env columnBindings).1.records,
        (s.finishRow C.env columnBindings).1.columnBindings⟩ := by
  unfold SyncQuery.finishRow DataQuery.readRow at h ⊢
  cases hc : s.query.cursor with
  | none =>
    simp only [hc] at h
    cases h
  | some c =>
    simp only [hc] at h ⊢
    refine readColumns_reportsRow ?_ h
    intro i hi
    rw [List.mem_range'_1] at hi
    omega

/-- A fetch from a data query reports its conversions. -/
lemma WholeQuery.fetchNextRow_reports {reports : Prop} {q q' : WholeQuery δ γ}
    {columnBindings : ColumnBindings} {f : FetchedRow}
    (h : q.fetchNextRow columnBindings = some (f, q')) : f.Reports reports columnBindings := by
  obtain ⟨⟨fetched, s⟩, hfetch, hx⟩ := Option.bind_eq_some_iff.mp h
  obtain ⟨result, hresult, hx⟩ := Option.map_eq_some_iff.mp hx
  cases hx
  -- every end of the call but the two without a row is the reading of a row
  have hrow : ∀ u : SyncQuery (Option δ) γ,
      u.finishRow q.source.env columnBindings = (fetched, s) →
      FetchedRow.Reports reports columnBindings ⟨result, fetched.records, fetched.columnBindings⟩ := by
    intro u hu
    have hresult' : (u.finishRow q.source.env columnBindings).1.result = some result := by
      rw [hu]
      exact hresult
    have hreports : FetchedRow.ReportsRow reports columnBindings _ :=
      finishRow_reportsRow (C := q.source) hresult'
    rw [hu] at hreports
    exact hreports.toReports
  have hended : fetched.columnBindings = columnBindings →
      (result = .aiNoData ∨ result = .aiError ∧ fetched.records = [DataQuery.invalidCursorState]) →
      (∀ record ∈ fetched.records, record.sqlState.isConversionWarning = false) →
      FetchedRow.Reports reports columnBindings ⟨result, fetched.records, fetched.columnBindings⟩ := by
    intro hbindings hkind hrecords
    rw [hbindings]
    exact FetchedRow.reports_of_no_conversion
      (hkind.imp_right fun ⟨hresult, hrecord⟩ => ⟨hresult, .inl hrecord⟩) hrecords
  unfold SyncQuery.fetchNextRow at hfetch
  split at hfetch
  · next records u hturn =>
    cases hfetch
    cases hresult
    refine hended rfl (.inl rfl) ?_
    unfold DataQuery.fetchTurn at hturn
    split at hturn
    · cases hturn
      simp [statusRecord, SqlState.isConversionWarning]
    · dsimp only at hturn
      split at hturn
      · cases hturn
      · split at hturn
        · cases hturn
        · cases hturn
          simp
  · exact hrow _ (Option.some.inj hfetch)
  · unfold SyncQuery.switchCursor at hfetch
    split at hfetch
    · cases hfetch
    · split at hfetch
      · next outcome queue hqueue ended u hturn =>
        cases hfetch
        cases hresult
        refine hended rfl ?_ (by simp [DataQuery.invalidCursorState, statusRecord,
          SqlState.isConversionWarning])
        unfold DataQuery.pageTurn at hturn
        split at hturn
        · cases hturn
          exact .inr ⟨rfl, rfl⟩
        · dsimp only at hturn
          split at hturn
          · cases hturn
            exact .inl rfl
          · split at hturn <;> cases hturn
      · exact hrow _ (Option.some.inj hfetch)
      · exact hrow _ (Option.some.inj hfetch)

end DataQuery

section MetaCursor

variable {μ : Type} {columnValue : μ → ℕ → Option MetaValue}
  {unknownColumn : SqlResult × List DiagnosticRecord} {P : Platform}

/-- A read of a column of a catalog query never reports a failed conversion, and leaves no record of
a warning. -/
def QuietColumn (readColumn : ℕ → ApplicationDataBuffer → Option ColumnRead) : Prop :=
  ∀ i buffer read, readColumn i buffer = some read →
    (∀ record ∈ read.records, record.sqlState.isConversionWarning = false) ∧
    ∀ put, read.put = some put → put.result ≠ .aiFailure

/-- `GetColumn` of a catalog query is such a read. -/
lemma MetaCursor.quietColumn_getColumn (c : MetaCursor μ)
    (hunknown : ∀ record ∈ unknownColumn.2, record.sqlState.isConversionWarning = false) :
    QuietColumn (c.getColumn columnValue unknownColumn P) := by
  intro i buffer read h
  unfold MetaCursor.getColumn at h
  split at h
  · cases h
    simp [notExecuted, statusRecord, SqlState.isConversionWarning]
  · split at h
    · cases h
      simp [endOfResultSet, statusRecord, SqlState.isConversionWarning]
    · split at h
      · cases h
        exact ⟨hunknown, by simp⟩
      · next value hvalue =>
        obtain ⟨put, hput, rfl⟩ := Option.map_eq_some_iff.mp h
        refine ⟨by simp, ?_⟩
        rintro put' hput'
        cases hput'
        exact MetaValue.put_ne_aiFailure hput

/-- The bound columns of a row of a catalog query are reported, without their warnings. -/
lemma readBoundColumns_reportsRow {readColumn : ℕ → ApplicationDataBuffer → Option ColumnRead}
    (hquiet : QuietColumn readColumn) {is : List ℕ} (his : ∀ i ∈ is, i < 65536)
    {columnBindings columnBindings' : ColumnBindings} {records : List DiagnosticRecord}
    (h : readBoundColumns readColumn is columnBindings = some (records, columnBindings')) :
    FetchedRow.ReportsRow False columnBindings ⟨.aiSuccess, records, columnBindings'⟩ := by
  induction is generalizing columnBindings records columnBindings' with
  | nil =>
    cases h
    exact FetchedRow.reportsRow_nil
  | cons i is ih =>
    have his' : ∀ j ∈ is, j < 65536 := fun j hj => his j (List.mem_cons_of_mem _ hj)
    unfold readBoundColumns at h
    split at h
    · exact ih his' h
    · next b hb =>
      obtain ⟨read, hread, hrest⟩ := Option.bind_eq_some_iff.mp h
      obtain ⟨⟨records', bindings'⟩, hothers, hx⟩ := Option.map_eq_some_iff.mp hrest
      cases hx
      obtain ⟨hrecords, hput⟩ := hquiet i b.buffer read hread
      cases hp : read.put with
      | none =>
        have hsame : Function.update columnBindings i (some b) = columnBindings := by
          rw [← hb]
          exact Function.update_eq_self i columnBindings
        rw [hp, Option.elim_none, hsame] at hothers
        obtain ⟨entries, hconverted, hreported, hwritten⟩ := ih his' hothers
        refine ⟨entries, hconverted, ⟨.inr (.inr hconverted), ?_, False.elim⟩, hwritten⟩
        intro record hrecord hwarning
        rcases List.mem_append.mp hrecord with hrecord | hrecord
        · rw [hrecords record hrecord] at hwarning
          cases hwarning
        · exact hreported.recorded record hrecord hwarning
      | some put =>
        rw [hp, Option.elim_some] at hothers
        refine FetchedRow.ReportsRow.cons hb (hput put hp) (ih his' hothers) read.records ?_
          False.elim
        intro record hrecord hwarning
        rw [hrecords record hrecord] at hwarning
        cases hwarning

/-- A fetch from a catalog query reports its conversions, without their warnings. -/
lemma MetaCursor.fetchNextRow_reports {c c' : MetaCursor μ} {f : FetchedRow}
    {readColumn : MetaCursor μ → ℕ → ApplicationDataBuffer → Option ColumnRead}
    (hquiet : ∀ c, QuietColumn (readColumn c)) {columnBindings : ColumnBindings}
    (h : c.fetchNextRow readColumn columnBindings = some (f, c')) :
    f.Reports False columnBindings := by
  unfold MetaCursor.fetchNextRow at h
  split at h
  · cases h
    exact FetchedRow.reports_of_no_conversion (.inr ⟨rfl, .inr rfl⟩)
      (by simp [notExecuted, statusRecord, SqlState.isConversionWarning])
  · split at h
    · cases h
      exact FetchedRow.reports_of_no_conversion (.inl rfl) (by simp)
    · obtain ⟨⟨records, bindings⟩, hread, hx⟩ := Option.map_eq_some_iff.mp h
      cases hx
      refine (readBoundColumns_reportsRow (hquiet c.moved) ?_ hread).toReports
      intro i hi
      exact List.mem_range.mp hi

end MetaCursor

/-- What holds of a fetch without the warnings holds of every fetch that is not asked for them. -/
lemma FetchedRow.Reports.of_not {reports : Prop} {columnBindings : ColumnBindings} {f : FetchedRow}
    (h : f.Reports False columnBindings) (hnot : ¬ reports) : f.Reports reports columnBindings := by
  obtain ⟨entries, hreported, hwritten⟩ := h
  exact ⟨entries, ⟨hreported.kind, hreported.recorded, fun hrep => absurd hrep hnot⟩, hwritten⟩

/-- The query is a data query. -/
def Query.IsData {D : Type} (q : Query D) : Prop := ∃ d, q = .data d

/-- A fetch reports its conversions, a data query their warnings as well, in every class. -/
lemma Query.fetchNextRow_reports {δ γ : Type} {P : Platform} {reports : Prop}
    {q q' : Query (WholeQuery δ γ)} (hdata : reports → q.IsData) {columnBindings : ColumnBindings}
    {f : FetchedRow} (h : (whole P).fetchNextRow columnBindings q = some (f, q')) :
    f.Reports reports columnBindings ∧ (reports → q'.IsData) := by
  have hother : (∀ d, q ≠ data d) → ¬ reports := by
    intro hne hrep
    obtain ⟨d, hd⟩ := hdata hrep
    exact hne d hd
  cases q with
  | data q =>
    obtain ⟨⟨f, q'⟩, hfetch, hx⟩ := Option.map_eq_some_iff.mp h
    cases hx
    exact ⟨WholeQuery.fetchNextRow_reports hfetch, fun _ => ⟨q', rfl⟩⟩
  | tables q =>
    have hnot : ¬ reports := hother (by simp)
    obtain ⟨⟨f, q'⟩, hfetch, hx⟩ := Option.map_eq_some_iff.mp h
    cases hx
    refine ⟨FetchedRow.Reports.of_not ?_ hnot, fun hrep => absurd hrep hnot⟩
    unfold TableMetadataQuery.fetchNextRow at hfetch
    split at hfetch
    · cases hfetch
      exact FetchedRow.reports_of_no_conversion (.inl rfl) (by simp)
    · obtain ⟨⟨f, c⟩, hcursor, hx⟩ := Option.map_eq_some_iff.mp hfetch
      cases hx
      refine MetaCursor.fetchNextRow_reports ?_ hcursor
      intro c i buffer read hread
      unfold TableMetadataQuery.getColumn at hread
      split at hread
      · cases hread
        simp
      · exact c.quietColumn_getColumn (by simp) i buffer read hread
  | columns q =>
    have hnot : ¬ reports := hother (by simp)
    obtain ⟨⟨f, q'⟩, hfetch, hx⟩ := Option.map_eq_some_iff.mp h
    cases hx
    refine ⟨FetchedRow.Reports.of_not ?_ hnot, fun hrep => absurd hrep hnot⟩
    obtain ⟨⟨f, c⟩, hcursor, hx⟩ := Option.map_eq_some_iff.mp hfetch
    cases hx
    refine MetaCursor.fetchNextRow_reports ?_ hcursor
    intro c
    exact c.quietColumn_getColumn (by simp [statusRecord, SqlState.isConversionWarning])
  | typeInfo q =>
    have hnot : ¬ reports := hother (by simp)
    obtain ⟨⟨f, q'⟩, hfetch, hx⟩ := Option.map_eq_some_iff.mp h
    cases hx
    refine ⟨FetchedRow.Reports.of_not ?_ hnot, fun hrep => absurd hrep hnot⟩
    obtain ⟨⟨f, c⟩, hcursor, hx⟩ := Option.map_eq_some_iff.mp hfetch
    cases hx
    refine MetaCursor.fetchNextRow_reports ?_ hcursor
    intro c
    exact c.quietColumn_getColumn (by simp)
  | unsupported functionName =>
    have hnot : ¬ reports := hother (by simp)
    cases h
    refine ⟨FetchedRow.Reports.of_not ?_ hnot, fun hrep => absurd hrep hnot⟩
    exact FetchedRow.reports_of_no_conversion (.inl rfl)
      (by simp [noDataReturned, statusRecord, SqlState.isConversionWarning])

/-! ## A fetch of a rowset -/

section Rowset

variable {Q : Type} {K : QueryClass Q}

/-- The turns of a loop over a rowset are reported, one element each. -/
lemma RowsetLoop.turns_reports {reports : Prop} {I : Q → Prop}
    (hfetch : ∀ q columnBindings f q', I q → K.fetchNextRow columnBindings q = some (f, q') →
      f.Reports reports columnBindings ∧ I q')
    {n i : ℕ} {l l' : RowsetLoop Q} (h : I l.currentQuery) (hturns : turns K i n l = some l') :
    ∃ outcomes : List TurnOutcome, outcomes.length = n ∧ (∀ o ∈ outcomes, o.Reported reports) ∧
      (∀ j, l'.columnBindings.written j =
        l.columnBindings.written j ++ (outcomes.map (·.entries j)).flatten) ∧
      l'.rowStatuses = l.rowStatuses ++ outcomes.map (fun o => sqlResultToRowResult o.result) ∧
      l'.records = l.records ++ (outcomes.map (·.records)).flatten ∧
      l'.fetched = l.fetched + outcomes.countP (·.result = .aiSuccess) ∧
      l'.errors = l.errors + outcomes.countP (·.result = .aiError) := by
  induction n generalizing i l with
  | zero =>
    cases hturns
    exact ⟨[], rfl, by simp, by simp, by simp, by simp, rfl, rfl⟩
  | succ n ih =>
    obtain ⟨u, hu, hrest⟩ := Option.bind_eq_some_iff.mp hturns
    obtain ⟨⟨f, q'⟩, hf, rfl⟩ := Option.map_eq_some_iff.mp hu
    obtain ⟨⟨entries, hreported, hwritten⟩, hI⟩ := hfetch _ _ f q' h hf
    obtain ⟨outcomes, hlength, hall, hw, hstatuses, hrecords, hfetched, herrors⟩ := ih hI hrest
    let first : TurnOutcome := ⟨f.result, f.records, entries⟩
    have hcases : f.result = .aiNoData ∨ f.result = .aiError ∨ f.result = .aiSuccess := by
      rcases hreported.result_cases with hr | hr | hr
      · exact .inl hr.1
      · exact .inr (.inl hr.1)
      · exact .inr (.inr hr.1)
    refine ⟨first :: outcomes, ?_, ?_, ?_, ?_, ?_, ?_, ?_⟩
    · rw [List.length_cons, hlength]
    · intro o ho
      rcases List.mem_cons.mp ho with rfl | ho
      · exact hreported
      · exact hall o ho
    · intro j
      rw [hw j]
      simp [first, hwritten j]
    · rw [hstatuses]
      simp [first]
    · rw [hrecords]
      simp [first]
    · rw [hfetched, List.countP_cons]
      rcases hcases with hr | hr | hr <;> simp [first, hr, Nat.add_assoc, Nat.add_comm]
    · rw [herrors, List.countP_cons]
      rcases hcases with hr | hr | hr <;> simp [first, hr, Nat.add_assoc, Nat.add_comm]

/-- What a fetch of a rowset tells of the conversions that it makes: the statuses and the return code
tell the failures, the records tell the warnings. -/
structure RowsetReported (reports : Prop) (size : ℕ) (columnBindings : ColumnBindings)
    (reply : RowsetReply) (columnBindings' : ColumnBindings) (outcomes : List TurnOutcome) :
    Prop where
  turns : outcomes.length = size
  kind : ∀ o ∈ outcomes, o.AtEnd ∨ o.CursorFailed ∨ o.Converted
  written : ∀ j, columnBindings'.written j =
    columnBindings.written j ++ (outcomes.map (·.entries j)).flatten
  norow : ∀ (i : ℕ) (o : TurnOutcome), outcomes[i]? = some o →
    (reply.rowStatuses[i]? = some .norow ↔ o.AtEnd)
  error : ∀ (i : ℕ) (o : TurnOutcome), outcomes[i]? = some o →
    (reply.rowStatuses[i]? = some .error ↔ o.Failed)
  success : ∀ (i : ℕ) (o : TurnOutcome), outcomes[i]? = some o → o.Delivered → ¬ o.Warned →
    reply.rowStatuses[i]? = some .success
  resultNoData : reply.result = .aiNoData ↔ ∀ o ∈ outcomes, o.AtEnd
  resultError : reply.result = .aiError ↔
    (∃ o ∈ outcomes, o.Failed) ∧ ∀ o ∈ outcomes, ¬ o.Delivered
  resultWithInfo : (∃ o ∈ outcomes, o.Failed) → (∃ o ∈ outcomes, o.Delivered) →
    reply.result = .aiSuccessWithInfo
  resultQuiet : (∀ o ∈ outcomes, o.Delivered → ¬ o.Warned) →
    (reply.result = .aiSuccessWithInfo ↔
      (∃ o ∈ outcomes, o.Failed) ∧ ∃ o ∈ outcomes, o.Delivered)
  warningRecord : ∀ record ∈ reply.records, record.sqlState.isConversionWarning = true →
    ∃ o ∈ outcomes, ∃ i, ∃ e ∈ o.entries (i % 65536), e.Recorded i record
  recorded : reports → ∀ o ∈ outcomes, ∀ j, ∀ e ∈ o.entries j, e.put.result.warns = true →
    ∃ i record, i % 65536 = j ∧ e.Recorded i record ∧ record ∈ reply.records

/-- A fetch of a rowset reports the conversions that it makes. -/
lemma fetchRowset_reports {reports : Prop} {I : Q → Prop}
    (hfetch : ∀ q columnBindings f q', I q → K.fetchNextRow columnBindings q = some (f, q') →
      f.Reports reports columnBindings ∧ I q')
    {size byteOffset : ℕ} {columnBindings columnBindings' : ColumnBindings} {q q' : Q}
    {reply : RowsetReply} (h : I q)
    (hrowset : fetchRowset K size byteOffset columnBindings q = some (reply, columnBindings', q')) :
    ∃ outcomes, RowsetReported reports size columnBindings reply columnBindings' outcomes := by
  obtain ⟨l', hturns, hx⟩ := Option.map_eq_some_iff.mp hrowset
  cases hx
  obtain ⟨outcomes, hlength, hall, hwritten, hstatuses, hrecords, hfetched, herrors⟩ :=
    RowsetLoop.turns_reports (I := I) hfetch h hturns
  have hsome : 0 < l'.fetched ↔ ∃ o ∈ outcomes, o.Delivered := by
    rw [hfetched, Nat.zero_add, List.countP_pos_iff]
    refine exists_congr fun o => and_congr_right fun ho => ?_
    simpa using (hall o ho).result_eq_aiSuccess_iff
  have hfailed : l'.errors ≠ 0 ↔ ∃ o ∈ outcomes, o.Failed := by
    rw [herrors, Nat.zero_add, ← Nat.pos_iff_ne_zero, List.countP_pos_iff]
    refine exists_congr fun o => and_congr_right fun ho => ?_
    simpa using (hall o ho).result_eq_aiError_iff
  have hstatus : ∀ (i : ℕ) (o : TurnOutcome), outcomes[i]? = some o →
      o ∈ outcomes ∧ l'.rowStatuses[i]? = some (sqlResultToRowResult o.result) := by
    intro i o ho
    refine ⟨List.mem_of_getElem? ho, ?_⟩
    rw [hstatuses]
    simp [ho]
  have hend : (∀ o ∈ outcomes, o.AtEnd) ↔
      (¬ ∃ o ∈ outcomes, o.Failed) ∧ ¬ ∃ o ∈ outcomes, o.Delivered := by
    push Not
    rw [← forall₂_and]
    refine forall₂_congr fun o ho => ?_
    rcases (hall o ho).result_cases with ⟨-, hend, hfail, hdel⟩ | ⟨-, hend, hfail, hdel⟩ |
      ⟨-, hend, hfail, hdel⟩ <;> simp [hend, hfail, hdel]
  have hdelivered : (∀ o ∈ outcomes, ¬ o.Delivered) ↔ ¬ ∃ o ∈ outcomes, o.Delivered := by
    push Not
    rfl
  refine ⟨outcomes, hlength, fun o ho => (hall o ho).kind, ?_, ?_, ?_, ?_, ?_, ?_, ?_, ?_, ?_, ?_⟩
  · intro j
    rw [hwritten j, ColumnBindings.written_setByteOffset]
  · intro i o ho
    obtain ⟨hmem, hstatus⟩ := hstatus i o ho
    rw [hstatus]
    rcases (hall o hmem).result_cases with ⟨hr, hend, -⟩ | ⟨hr, hend, -⟩ | ⟨hr, hend, -⟩ <;>
      simp [hr, hend, sqlResultToRowResult]
  · intro i o ho
    obtain ⟨hmem, hstatus⟩ := hstatus i o ho
    rw [hstatus]
    rcases (hall o hmem).result_cases with ⟨hr, -, hfail, -⟩ | ⟨hr, -, hfail, -⟩ |
      ⟨hr, -, hfail, -⟩ <;> simp [hr, hfail, sqlResultToRowResult]
  · intro i o ho hdel _
    obtain ⟨hmem, hstatus⟩ := hstatus i o ho
    rw [hstatus, (hall o hmem).result_eq_aiSuccess_iff.mpr hdel]
    rfl
  · rw [hend, ← hsome, ← hfailed]
    by_cases hdel : 0 < l'.fetched <;> by_cases hfail : l'.errors = 0 <;>
      simp [RowsetLoop.result, hdel, hfail]
  · rw [hdelivered, ← hsome, ← hfailed]
    by_cases hdel : 0 < l'.fetched <;> by_cases hfail : l'.errors = 0 <;>
      simp [RowsetLoop.result, hdel, hfail]
  · rw [← hsome, ← hfailed]
    intro hfail hdel
    dsimp only [RowsetLoop.result]
    rw [if_pos hdel, if_neg hfail]
  · intro _
    rw [← hsome, ← hfailed]
    by_cases hdel : 0 < l'.fetched <;> by_cases hfail : l'.errors = 0 <;>
      simp [RowsetLoop.result, hdel, hfail]
  · intro record hrecord hwarning
    dsimp only at hrecord
    rw [hrecords, List.nil_append] at hrecord
    obtain ⟨records, hmem, hrecord⟩ := List.mem_flatten.mp hrecord
    obtain ⟨o, ho, rfl⟩ := List.mem_map.mp hmem
    obtain ⟨i, e, he, hrec⟩ := (hall o ho).recorded record hrecord hwarning
    exact ⟨o, ho, i, e, he, hrec⟩
  · intro hrep o ho j e he hwarns
    obtain ⟨i, record, hi, hrec, hrecord⟩ := (hall o ho).reported hrep j e he hwarns
    refine ⟨i, record, hi, hrec, ?_⟩
    dsimp only
    rw [hrecords, List.nil_append]
    exact List.mem_flatten.mpr ⟨o.records, List.mem_map.mpr ⟨o, ho, rfl⟩, hrecord⟩

end Rowset

namespace Statement

variable {δ γ : Type} {P : Platform}

/-- A call that runs the loop over a rowset reports the conversions that it makes. -/
lemma reports_of_fetchRowset {s t : Statement (Query (WholeQuery δ γ))}
    {query : Query (WholeQuery δ γ)} {size byteOffset : ℕ} {reply : RowsetReply}
    {g : ColumnBindings → Query (WholeQuery δ γ) → Statement (Query (WholeQuery δ γ))}
    (hbindings : ∀ b q, (g b q).columnBindings = b)
    (h : (fetchRowset (Query.whole P) size byteOffset s.columnBindings query).map
      (fun (reply, columnBindings, query) => (reply, g columnBindings query)) =
        some (reply, t)) :
    ∃ outcomes, RowsetReported query.IsData size s.columnBindings reply t.columnBindings
      outcomes := by
  obtain ⟨⟨reply, b, q⟩, hrowset, hx⟩ := Option.map_eq_some_iff.mp h
  cases hx
  rw [hbindings]
  refine fetchRowset_reports (I := fun q => query.IsData → q.IsData) ?_ id hrowset
  intro q b f q' hdata hfetch
  exact Query.fetchNextRow_reports hdata hfetch

/-- A page with a text that does not fit into the buffer. -/
def longRow : List (QueryResult (Option Text) ℕ) :=
  [⟨"", [[some ['a', 'b', 'c', 'd', 'e', 'f', 'g', 'h']]], "", [0]⟩]

/-- A query over pages of strings of which the type of the column is not set. -/
def untypedPages (pages : List (QueryResult (Option Text) ℕ)) : WholeQuery Text ℕ :=
  { executedPages samplePlatform pages with
    source := { (executedPages samplePlatform pages).source with
      columns := { (executedPages samplePlatform pages).source.columns with
        typeHasBeenSet := fun _ => false } } }

end Statement

end TimestreamOdbc
