import TimestreamOdbc.Query.DescribedColumns

/-!
# The content of a listing of columns

What is meant are the columns with a name that the pattern means, in the order of the tables and of
their descriptions, each with its own texts and its position in its table.  What is collected differs in
the filter, in the positions, in the remarks that are left from other columns, and by tables without
columns.
-/

namespace TimestreamOdbc

open SearchPattern

/-! ## Lists with positions and keys -/

/-- Taking elements with their positions. -/
lemma map_fst_filter_zipIdx {α : Type} (p : α → Bool) (l : List α) (n : ℕ) :
    ((l.zipIdx n).filter fun x => p x.1).map Prod.fst = l.filter p := by
  conv_rhs => rw [← List.zipIdx_map_fst n l, List.filter_map]
  rfl

/-- What a predicate takes is in front if it has the first positions. -/
lemma filter_isPrefix_of_positions {α : Type} {p : α → Bool} {l : List α} {n k : ℕ}
    (h : ((l.zipIdx n).filter fun x => p x.1).map Prod.snd = List.range' n k) : l.filter p <+: l := by
  induction l generalizing n k with
  | nil => exact List.prefix_rfl
  | cons a l ih =>
    rw [List.zipIdx_cons] at h
    by_cases ha : p a = true
    · rw [List.filter_cons_of_pos (by simpa using ha), List.map_cons] at h
      obtain ⟨k, rfl⟩ : ∃ m, k = m + 1 := by
        cases k with
        | zero => cases h
        | succ k => exact ⟨k, rfl⟩
      rw [List.range'_succ] at h
      rw [List.filter_cons_of_pos ha]
      exact (List.prefix_cons_inj a).mpr (ih (List.cons.inj h).2)
    · rw [List.filter_cons_of_neg (by simpa using ha)] at h
      -- nothing else has the first position
      have hnil : l.filter p = [] := by
        cases k with
        | zero =>
          have hzip : (l.zipIdx (n + 1)).filter (fun x => p x.1) = [] := List.map_eq_nil_iff.mp h
          rw [← map_fst_filter_zipIdx p l (n + 1), hzip]
          rfl
        | succ k =>
          have hmem : n ∈ ((l.zipIdx (n + 1)).filter fun x => p x.1).map Prod.snd := by
            rw [h, List.range'_succ]
            exact List.mem_cons_self
          obtain ⟨x, hx, hn⟩ := List.mem_map.mp hmem
          have hle := List.le_snd_of_mem_zipIdx (List.mem_of_mem_filter hx)
          omega
      rw [List.filter_cons_of_neg ha, hnil]
      exact List.nil_prefix

/-- Lists that are put together from parts with a key of their own are equal if the parts are. -/
lemma flatMap_eq_iff_of_key {α β κ : Type} {f g : α → List β} {key : β → κ} {k : α → κ} {l : List α}
    (hnodup : (l.map k).Nodup) (hf : ∀ a, ∀ b ∈ f a, key b = k a)
    (hg : ∀ a, ∀ b ∈ g a, key b = k a) : l.flatMap f = l.flatMap g ↔ ∀ a ∈ l, f a = g a := by
  classical
  induction l with
  | nil => simp
  | cons a l ih =>
    rw [List.map_cons, List.nodup_cons] at hnodup
    have hparts : ∀ h : α → List β, (∀ a, ∀ b ∈ h a, key b = k a) →
        ((a :: l).flatMap h).filter (fun b => key b = k a) = h a := by
      intro h hh
      rw [List.flatMap_cons, List.filter_append, List.filter_eq_self.mpr, List.filter_eq_nil_iff.mpr,
        List.append_nil]
      · intro b hb
        obtain ⟨other, hother, hmem⟩ := List.mem_flatMap.mp hb
        have hkey := hh other b hmem
        simp only [decide_eq_true_eq]
        intro hsame
        exact hnodup.1 (List.mem_map.mpr ⟨other, hother, hkey.symm.trans hsame⟩)
      · intro b hb
        exact decide_eq_true (hh a b hb)
    constructor
    · intro h
      have hfirst : f a = g a := by
        have hfilter := congrArg (List.filter fun b => key b = k a) h
        rwa [hparts f hf, hparts g hg] at hfilter
      rw [List.flatMap_cons, List.flatMap_cons, hfirst] at h
      exact List.forall_mem_cons.mpr ⟨hfirst, (ih hnodup.2).mp (List.append_cancel_left h)⟩
    · intro h
      obtain ⟨hfirst, hrest⟩ := List.forall_mem_cons.mp h
      rw [List.flatMap_cons, List.flatMap_cons, hfirst, (ih hnodup.2).mpr hrest]

/-! ## What is meant -/

/-- A pattern means a name in the sense of ODBC, with a backslash for the escape character. -/
def Means (pattern name : Text) : Prop := Matches (parse '\\' pattern) name

instance (pattern name : Text) : Decidable (Means pattern name) :=
  inferInstanceAs (Decidable (Matches _ _))

/-- The pattern `%` means every name. -/
lemma means_all (name : Text) : Means ['%'] name := matches_anyText name

/-- A pattern without special characters means itself alone. -/
lemma means_iff_of_plain {pattern : Text} (h : ∀ c ∈ pattern, c ≠ '%' ∧ c ≠ '_' ∧ c ≠ '\\')
    (name : Text) : Means pattern name ↔ pattern = name := by
  rw [Means, parse_chars h, matches_chars_iff]

namespace Catalog

/-- The rows that are meant of a table: the columns that the pattern means, each with its own texts and
its position in the description. -/
def describedColumns (C : Catalog) (pattern databaseName tableName : Text)
    (columns : List ColumnDescription) : List ColumnMeta :=
  C.columnMetas databaseName tableName
    (((columns.map ColumnDescription.texts).zipIdx 1).filter fun (texts, _) =>
      Means pattern texts.name)

end Catalog

/-- When the columns of a table are collected as they are meant: it has columns, the pattern means
those that are taken, these are the first ones, and each of them has remarks. -/
structure ShownAsDescribed (pattern : Text) (columns : List ColumnDescription) : Prop where
  described : columns ≠ []
  taken : ∀ column ∈ columns, (Means pattern column.name ↔ Catalog.Takes pattern column.name)
  first : (columns.filter fun column => Means pattern column.name) <+: columns
  remarks : ∀ column ∈ columns, Means pattern column.name → column.remarks.getD [] ≠ []

namespace Catalog

section Table

variable {C : Catalog} {before : ColumnTexts} {pattern databaseName tableName : Text}
  {columns : List ColumnDescription}

/-- The names in the arrays are those of the description. -/
lemma map_name_statesAfter (first : ColumnTexts) (columns : List ColumnDescription) :
    (statesAfter ColumnTexts.next first columns).map ColumnTexts.name =
      columns.map ColumnDescription.name := by
  induction columns generalizing first with
  | nil => rfl
  | cons column columns ih => rw [statesAfter, List.map_cons, List.map_cons, ih]; rfl

/-- Once there are remarks in the array there are some. -/
lemma remarks_of_mem_statesAfter {first texts : ColumnTexts} (hfirst : first.remarks ≠ [])
    (h : texts ∈ statesAfter ColumnTexts.next first columns) : texts.remarks ≠ [] := by
  induction columns generalizing first with
  | nil => cases h
  | cons column columns ih =>
    have hnext : (first.next column).remarks ≠ [] := by
      unfold ColumnTexts.next
      dsimp only
      split
      · exact hfirst
      · next hne => exact hne
    rcases List.mem_cons.mp h with rfl | hmem
    · exact hnext
    · exact ih hnext hmem

/-- Where every column has remarks the arrays have its own texts. -/
lemma statesAfter_of_remarks {first : ColumnTexts}
    (h : ∀ column ∈ columns, column.remarks.getD [] ≠ []) :
    statesAfter ColumnTexts.next first columns = columns.map ColumnDescription.texts := by
  induction columns generalizing first with
  | nil => rfl
  | cons column columns ih =>
    have hnext : first.next column = column.texts := by
      unfold ColumnTexts.next ColumnDescription.texts
      rw [if_neg (h column List.mem_cons_self)]
    rw [statesAfter, hnext, ih fun other hmem => h other (List.mem_cons_of_mem _ hmem)]
    rfl

/-- The states after rows and other rows. -/
lemma exists_statesAfter_append {σ ρ : Type} (next : σ → ρ → σ) (first : σ) (rows others : List ρ) :
    ∃ last, statesAfter next first (rows ++ others) =
      statesAfter next first rows ++ statesAfter next last others := by
  induction rows generalizing first with
  | nil => exact ⟨first, rfl⟩
  | cons row rows ih =>
    obtain ⟨last, hlast⟩ := ih (next first row)
    exact ⟨last, by rw [List.cons_append, statesAfter, hlast]; rfl⟩

/-- The rows of columns, by the texts. -/
lemma exists_columnMeta_iff (C : Catalog) (databaseName tableName : Text)
    (l : List (ColumnTexts × ℕ)) (p : ColumnMeta → Prop) :
    (∃ row ∈ C.columnMetas databaseName tableName l, p row) ↔
      ∃ x ∈ l, p (C.columnMeta databaseName tableName x.1 x.2) := by
  unfold columnMetas
  simp only [List.mem_map, exists_exists_and_eq_and]

/-- The names of the rows that are collected. -/
lemma exists_shown_iff (C : Catalog) (before : ColumnTexts) (pattern databaseName tableName name : Text)
    (columns : List ColumnDescription) :
    (∃ row ∈ C.shownColumns before pattern databaseName tableName columns,
      row.columnName = some name) ↔
      name ∈ columns.map ColumnDescription.name ∧ Takes pattern name := by
  rw [← map_name_statesAfter before.read columns, shownColumns, exists_columnMeta_iff]
  constructor
  · rintro ⟨x, hmem, hname⟩
    obtain ⟨hstate, htakes⟩ := List.mem_filter.mp (List.fst_mem_of_mem_zipIdx hmem)
    obtain rfl := Option.some.inj hname
    exact ⟨List.mem_map_of_mem hstate, of_decide_eq_true htakes⟩
  · rintro ⟨hmem, htakes⟩
    obtain ⟨texts, hstate, rfl⟩ := List.mem_map.mp hmem
    have hfilter : texts ∈ (statesAfter ColumnTexts.next before.read columns).filter fun texts =>
        Takes pattern texts.name := List.mem_filter.mpr ⟨hstate, decide_eq_true htakes⟩
    rw [← List.zipIdx_map_fst 1 (List.filter _ _)] at hfilter
    obtain ⟨x, hx, rfl⟩ := List.mem_map.mp hfilter
    exact ⟨x, hx, rfl⟩

/-- A column that the pattern means has a row among those that are meant. -/
lemma exists_described {column : ColumnDescription} (hmem : column ∈ columns)
    (hmeans : Means pattern column.name) :
    ∃ position, C.columnMeta databaseName tableName column.texts position ∈
      C.describedColumns pattern databaseName tableName columns := by
  have htexts : column.texts ∈ columns.map ColumnDescription.texts := List.mem_map_of_mem hmem
  rw [← List.zipIdx_map_fst 1 (List.map _ _)] at htexts
  obtain ⟨⟨texts, position⟩, hx, hfst⟩ := List.mem_map.mp htexts
  obtain rfl : texts = column.texts := hfst
  exact ⟨position, List.mem_map.mpr
    ⟨_, List.mem_filter.mpr ⟨hx, decide_eq_true hmeans⟩, rfl⟩⟩

/-- The rows that are meant are of such columns. -/
lemma exists_of_mem_described {row : ColumnMeta}
    (h : row ∈ C.describedColumns pattern databaseName tableName columns) :
    ∃ column ∈ columns, Means pattern column.name ∧ row.columnName = some column.name := by
  obtain ⟨⟨texts, position⟩, hx, rfl⟩ := List.mem_map.mp h
  obtain ⟨hzip, hmeans⟩ := List.mem_filter.mp hx
  obtain ⟨column, hmem, htexts⟩ := List.mem_map.mp (List.fst_mem_of_mem_zipIdx hzip)
  obtain rfl : column.texts = texts := htexts
  exact ⟨column, hmem, of_decide_eq_true hmeans, rfl⟩

/-- The positions of the rows that are meant. -/
lemma positions_described (C : Catalog) (pattern databaseName tableName : Text)
    (columns : List ColumnDescription) :
    (C.describedColumns pattern databaseName tableName columns).map ColumnMeta.ordinalPosition =
      (((columns.zipIdx 1).filter fun x => Means pattern x.1.name).map Prod.snd).map
        fun position : ℕ => some (position : ℤ) := by
  unfold describedColumns columnMetas
  rw [List.zipIdx_map, List.filter_map, List.map_map, List.map_map, List.map_map]
  rfl

/-- The positions of rows that are counted. -/
lemma positions_zipIdx (C : Catalog) (databaseName tableName : Text) (l : List ColumnTexts) (n : ℕ) :
    (C.columnMetas databaseName tableName (l.zipIdx n)).map ColumnMeta.ordinalPosition =
      (List.range' n l.length).map fun position : ℕ => some (position : ℤ) := by
  unfold columnMetas
  rw [← List.zipIdx_map_snd n l, List.map_map, List.map_map]
  rfl

/-- What is equal to what is meant, with remarks in the array at first, takes what the pattern means,
in front, with remarks. -/
lemma shownAsDescribed_of_eq (hbefore : before.read.remarks ≠ []) (hne : columns ≠ [])
    (h : C.shownColumns before pattern databaseName tableName columns =
      C.describedColumns pattern databaseName tableName columns) :
    ShownAsDescribed pattern columns where
  described := hne
  taken := by
    intro column hmem
    constructor
    · intro hmeans
      obtain ⟨position, hrow⟩ := @exists_described C pattern databaseName tableName _ _ hmem hmeans
      rw [← h] at hrow
      exact ((exists_shown_iff C before pattern databaseName tableName column.name columns).mp
        ⟨_, hrow, rfl⟩).2
    · intro htakes
      obtain ⟨row, hrow, hname⟩ := (exists_shown_iff C before pattern databaseName tableName
        column.name columns).mpr ⟨List.mem_map_of_mem hmem, htakes⟩
      rw [h] at hrow
      obtain ⟨other, -, hmeans, hother⟩ := exists_of_mem_described hrow
      rw [Option.some.inj (hname.symm.trans hother)]
      exact hmeans
  first := by
    have hpositions := positions_described C pattern databaseName tableName columns
    rw [← h, shownColumns, positions_zipIdx] at hpositions
    have hinjective : Function.Injective fun position : ℕ => some (position : ℤ) := by
      intro n m hnm
      exact Int.ofNat.inj (Option.some.inj hnm)
    exact filter_isPrefix_of_positions (List.map_injective_iff.mpr hinjective hpositions).symm
  remarks := by
    intro column hmem hmeans hnil
    obtain ⟨position, hrow⟩ := @exists_described C pattern databaseName tableName _ _ hmem hmeans
    rw [← h] at hrow
    obtain ⟨x, hx, heq⟩ := List.mem_map.mp hrow
    obtain ⟨hstate, -⟩ := List.mem_filter.mp (List.fst_mem_of_mem_zipIdx hx)
    have hremarks : some x.1.remarks = some (column.remarks.getD []) := congrArg ColumnMeta.remarks heq
    exact remarks_of_mem_statesAfter hbefore hstate ((Option.some.inj hremarks).trans hnil)

/-- What is taken in front with remarks is collected as it is meant. -/
lemma shown_append {front others : List ColumnDescription}
    (hfront : ∀ column ∈ front, Means pattern column.name ∧ Takes pattern column.name ∧
      column.remarks.getD [] ≠ [])
    (hothers : ∀ column ∈ others, ¬ Means pattern column.name ∧ ¬ Takes pattern column.name) :
    C.shownColumns before pattern databaseName tableName (front ++ others) =
      C.describedColumns pattern databaseName tableName (front ++ others) := by
  obtain ⟨last, hstates⟩ := exists_statesAfter_append ColumnTexts.next before.read front others
  rw [statesAfter_of_remarks fun column hmem => (hfront column hmem).2.2] at hstates
  have htaken : (front.map ColumnDescription.texts ++
      statesAfter ColumnTexts.next last others).filter (fun texts => Takes pattern texts.name) =
        front.map ColumnDescription.texts := by
    rw [List.filter_append, List.filter_eq_self.mpr, List.filter_eq_nil_iff.mpr, List.append_nil]
    · intro texts hmem
      obtain ⟨column, hcolumn, hname⟩ := exists_of_mem_statesAfter hmem
      simpa [hname] using (hothers column hcolumn).2
    · intro texts hmem
      obtain ⟨column, hcolumn, rfl⟩ := List.mem_map.mp hmem
      exact decide_eq_true (hfront column hcolumn).2.1
  have hmeant : (((front ++ others).map ColumnDescription.texts).zipIdx 1).filter
      (fun (texts, _) => Means pattern texts.name) =
        (front.map ColumnDescription.texts).zipIdx 1 := by
    rw [List.map_append, List.zipIdx_append, List.filter_append, List.filter_eq_self.mpr,
      List.filter_eq_nil_iff.mpr, List.append_nil]
    · rintro ⟨texts, position⟩ hmem
      obtain ⟨column, hcolumn, rfl⟩ := List.mem_map.mp (List.fst_mem_of_mem_zipIdx hmem)
      have hname : ¬ Means pattern column.texts.name := (hothers column hcolumn).1
      simpa using hname
    · rintro ⟨texts, position⟩ hmem
      obtain ⟨column, hcolumn, rfl⟩ := List.mem_map.mp (List.fst_mem_of_mem_zipIdx hmem)
      exact decide_eq_true (hfront column hcolumn).1
  rw [shownColumns, describedColumns, hstates, htaken, hmeant]

/-- The columns of such a table are collected as they are meant. -/
lemma shown_eq_of_shownAsDescribed (h : ShownAsDescribed pattern columns) :
    C.shownColumns before pattern databaseName tableName columns =
      C.describedColumns pattern databaseName tableName columns := by
  obtain ⟨others, hothers⟩ := h.first
  have hmem : ∀ column ∈ columns.filter (fun column => Means pattern column.name) ++ others,
      column ∈ columns := fun column hcolumn => hothers ▸ hcolumn
  have hmeans : ∀ column ∈ columns.filter (fun column => Means pattern column.name),
      Means pattern column.name := fun column hcolumn => of_decide_eq_true (List.mem_filter.mp hcolumn).2
  have hnone : others.filter (fun column => Means pattern column.name) = [] := by
    have hsplit := congrArg (List.filter fun column => decide (Means pattern column.name)) hothers
    rw [List.filter_append, List.filter_eq_self.mpr fun column hcolumn =>
      decide_eq_true (hmeans column hcolumn)] at hsplit
    exact List.append_right_eq_self.mp hsplit
  have happend := @shown_append C before pattern databaseName tableName
    (columns.filter fun column => Means pattern column.name) others ?_ ?_
  · rwa [hothers] at happend
  · intro column hcolumn
    have hcolumns := hmem column (List.mem_append_left _ hcolumn)
    have hmeant := hmeans column hcolumn
    exact ⟨hmeant, (h.taken column hcolumns).mp hmeant, h.remarks column hcolumns hmeant⟩
  · intro column hcolumn
    have hcolumns := hmem column (List.mem_append_right _ hcolumn)
    have hnot : ¬ Means pattern column.name := by
      have := List.filter_eq_nil_iff.mp hnone column hcolumn
      simpa using this
    exact ⟨hnot, fun htakes => hnot ((h.taken column hcolumns).mpr htakes)⟩

end Table

/-! ## The call -/

/-- The arguments that ask the service: the one for the kind of names that it does not have is null,
empty or `%`, and the patterns of the databases and the tables are not empty. -/
structure Asks (C : Catalog) (given : ColumnArguments) : Prop where
  unsupported : given.tables.unsupported C = none ∨ given.tables.unsupported C = some [] ∨
    given.tables.unsupported C = some ['%']
  database : given.tables.database C ≠ some []
  table : given.table ≠ some []

section Call

variable {C : Catalog} {L : DatabaseListing} {describe : Text × Text → List ColumnDescription}
  {given : ColumnArguments} {before : Text → Text → ColumnTexts}

/-- The query of tables searches by the patterns. -/
lemma getTables_of_asks (h : C.Asks given) :
    C.makeRequestGetTablesMeta false given.tables =
      C.getTablesWithSearchPattern given.table (given.tables.database C) := by
  have htable : given.tables.table ≠ some [] := h.table
  have hschemas : given.tables.allSchemas false = false := by simp [TableArguments.allSchemas, htable]
  have hcatalogs : given.tables.allCatalogs false = false := by
    simp [TableArguments.allCatalogs, htable]
  have hunsupported : ¬ (given.tables.unsupported C ≠ none ∧ given.tables.unsupported C ≠ some [] ∧
      given.tables.unsupported C ≠ some ['%']) := by
    rcases h.unsupported with heq | heq | heq <;> simp [heq]
  have hempty : ¬ (given.tables.database C = some [] ∨ given.tables.table = some []) := by
    simp [h.database, htable]
  rw [makeRequestGetTablesMeta_of_none C false rfl]
  simp only [getTables, Bool.false_eq_true, if_false, hschemas, hcatalogs, ite_self, hunsupported, hempty]
  rfl

/-- A pattern that is not empty is still not when it stands for a null argument. -/
lemma getD_all_ne_nil {argument : Option Text} (h : argument ≠ some []) : argument.getD ['%'] ≠ [] := by
  cases argument with
  | none => exact List.cons_ne_nil _ _
  | some pattern => exact fun hnil => h (congrArg some hnil)

/-- The service is asked by the patterns that stand for null arguments. -/
lemma executeColumns_of_asks (h : C.Asks given) :
    C.executeColumns before false given =
      C.makeRequestGetColumnsMeta before false given given.withPatterns := by
  have hunsupported : ¬ (given.tables.unsupported C ≠ none ∧ given.tables.unsupported C ≠ some [] ∧
      given.tables.unsupported C ≠ some ['%']) := by
    rcases h.unsupported with heq | heq | heq <;> simp [heq]
  have hempty : ¬ (given.withPatterns.tables.database C = some [] ∨
      given.withPatterns.table = some []) := by
    have hdatabase : given.withPatterns.tables.database C =
        some ((given.tables.database C).getD ['%']) := by
      unfold TableArguments.database
      split <;> rfl
    rw [hdatabase, not_or]
    exact ⟨fun heq => getD_all_ne_nil h.database (Option.some.inj heq),
      fun heq => getD_all_ne_nil h.table (Option.some.inj heq)⟩
  simp only [executeColumns, hunsupported, if_false, Bool.false_eq_true, false_and, hempty]

/-- The pairs of a listing have names. -/
lemma isName_pairs (L : DatabaseListing) : ∀ pair ∈ L.pairs, IsName pair.1 ∧ IsName pair.2 := by
  intro pair hmem
  obtain ⟨database, hdatabase, hpair⟩ := List.mem_flatMap.mp hmem
  obtain ⟨table, htable, rfl⟩ := List.mem_map.mp hpair
  exact ⟨L.isName_database database hdatabase, L.isName_table database hdatabase table htable⟩

/-- What the call comes to. -/
lemma exists_executeColumns (hnarrow : NarrowsAscii C.platform.toPlatform) (hasks : C.Asks given)
    (hfinds : C.Finds ((given.tables.database C).getD ['%']) (given.table.getD ['%']) L)
    (hdescribes : C.Describes describe L.pairs) (hfuel : L.pairs.length < C.fuel)
    (before : Text → Text → ColumnTexts) :
    ∃ listing, C.executeColumns before false given = some listing ∧
      listing.rows = (L.pairs.takeWhile fun pair => !(describe pair).isEmpty).flatMap
        (C.shownOf before (given.column.getD ['%']) describe) ∧
      listing.result = if ∃ pair ∈ L.pairs, describe pair = [] then .aiNoData
        else if listing.rows = [] then .aiSuccessWithInfo else .aiSuccess := by
  obtain ⟨records, htables⟩ := exists_getTablesWithSearchPattern hnarrow hfinds
  rw [executeColumns_of_asks hasks, makeRequestGetColumnsMeta, getTables_of_asks hasks, htables]
  simp only [Bool.false_eq_true, if_false, Option.bind_some]
  have hexecuted : ∀ tables : Listing TableMeta,
      (TableMetadataQuery.execute (.new fun _ => tables)).1 = (tables.result, tables.records) :=
    fun _ => rfl
  simp only [hexecuted]
  by_cases hnone : L.pairs = []
  · simp only [hnone, if_true]
    exact ⟨_, rfl, rfl, by simp⟩
  · have hholds : C.HoldsPair ([], []) C.tableBindings := ⟨_, _, rfl, rfl, rfl, rfl, rfl⟩
    have hpairs := @hasPairs_execute C _ records hnone
    obtain ⟨listing, hloop, hrows, hresult⟩ := @exists_columnsOfTables C before
      (given.column.getD ['%']) describe hnarrow _ (isName_pairs L) hdescribes _ hfuel _ _ hholds _
      hpairs ⟨.aiSuccess, records, []⟩
    simp only [hnone, if_false, ne_eq, not_true_eq_false]
    refine ⟨listing, hloop, hrows, ?_⟩
    rw [if_neg hnone] at hresult
    exact hresult

/-- The key of a row: the names of its database and its table. -/
def rowKey (row : ColumnMeta) : Option Text × Option Text :=
  (row.catalogName.or row.schemaName, row.tableName)

/-- It is in all rows of a table. -/
lemma rowKey_columnMetas {databaseName tableName : Text} {l : List (ColumnTexts × ℕ)} {row : ColumnMeta}
    (h : row ∈ C.columnMetas databaseName tableName l) :
    rowKey row = (some databaseName, some tableName) := by
  obtain ⟨x, -, rfl⟩ := List.mem_map.mp h
  unfold rowKey columnMeta
  cases C.databaseAsSchema <;> rfl

/-- The content of a listing of columns is as it is meant, whatever the arrays happen to hold, exactly
when every table is one whose columns are collected as they are described. -/
theorem columnContent_iff (hnarrow : NarrowsAscii C.platform.toPlatform) (hasks : C.Asks given)
    (hfinds : C.Finds ((given.tables.database C).getD ['%']) (given.table.getD ['%']) L)
    (hdescribes : C.Describes describe L.pairs) (hfuel : L.pairs.length < C.fuel) :
    (∀ before, ∃ listing, C.executeColumns before false given = some listing ∧
        (listing.result = .aiSuccess ∨ listing.result = .aiSuccessWithInfo) ∧
        listing.rows = L.pairs.flatMap fun pair => C.describedColumns (given.column.getD ['%'])
          pair.1 pair.2 (describe pair)) ↔
      ∀ pair ∈ L.pairs, ShownAsDescribed (given.column.getD ['%']) (describe pair) := by
  have hkeys : (L.pairs.map fun pair => (some pair.1, some pair.2)).Nodup := by
    refine L.nodup_pairs.map ?_
    rintro ⟨database, table⟩ ⟨database', table'⟩ heq
    simpa using heq
  have hpart : ∀ before, L.pairs.flatMap (C.shownOf before (given.column.getD ['%']) describe) =
      L.pairs.flatMap (fun pair => C.describedColumns (given.column.getD ['%']) pair.1 pair.2
        (describe pair)) ↔ ∀ pair ∈ L.pairs, C.shownOf before (given.column.getD ['%']) describe pair =
          C.describedColumns (given.column.getD ['%']) pair.1 pair.2 (describe pair) := by
    intro before
    refine @flatMap_eq_iff_of_key _ _ _ _ _ rowKey _ _ hkeys ?_ ?_
    · exact fun pair row hrow => rowKey_columnMetas hrow
    · exact fun pair row hrow => rowKey_columnMetas hrow
  constructor
  · intro h
    obtain ⟨listing, hcall, hsuccess, hmeant⟩ := h fun _ _ => ⟨[], [], ['?']⟩
    obtain ⟨listing', hcall', hrows, hresult⟩ :=
      exists_executeColumns hnarrow hasks hfinds hdescribes hfuel fun _ _ => ⟨[], [], ['?']⟩
    obtain rfl := Option.some.inj (hcall.symm.trans hcall')
    have hcolumns : ¬ ∃ pair ∈ L.pairs, describe pair = [] := by
      intro hexists
      rw [if_pos hexists] at hresult
      rcases hsuccess with heq | heq <;> cases hresult.symm.trans heq
    have hall : ∀ pair ∈ L.pairs, describe pair ≠ [] := fun pair hmem hnil => hcolumns ⟨pair, hmem, hnil⟩
    rw [List.takeWhile_eq_self_iff.mpr fun pair hmem => by simpa using hall pair hmem, hmeant] at hrows
    intro pair hmem
    refine shownAsDescribed_of_eq ?_ (hall pair hmem) ((hpart _).mp hrows.symm pair hmem)
    exact List.cons_ne_nil _ _
  · intro h before
    obtain ⟨listing, hcall, hrows, hresult⟩ :=
      exists_executeColumns hnarrow hasks hfinds hdescribes hfuel before
    have hall : ∀ pair ∈ L.pairs, (!(describe pair).isEmpty) = true := fun pair hmem => by
      simpa using (h pair hmem).described
    refine ⟨listing, hcall, ?_, ?_⟩
    · rw [if_neg] at hresult
      · split at hresult
        · exact .inr hresult
        · exact .inl hresult
      · rintro ⟨pair, hmem, hnil⟩
        exact (h pair hmem).described hnil
    · rw [hrows, List.takeWhile_eq_self_iff.mpr hall, hpart]
      exact fun pair hmem => shown_eq_of_shownAsDescribed (h pair hmem)

end Call

/-! ## One table -/

/-- A connection to a service with one table, which it describes by some columns. -/
def ofColumns (columns : List ColumnDescription) : Catalog :=
  { ofListing oneTable 4 with
    service := fun sql =>
      if sql = describeSql "db".toList "T".toList then
        scriptedService [⟨"", columns.map ColumnDescription.row, "", descriptionColumns⟩]
      else serviceOf oneTable sql }

/-- It finds the table. -/
lemma ofColumns_finds (columns : List ColumnDescription) :
    (ofColumns columns).Finds ['%'] ['%'] oneTable := by
  have hservice : ∀ sql, sql ≠ describeSql "db".toList "T".toList →
      (ofColumns columns).service sql = serviceOf oneTable sql := fun sql hne => if_neg hne
  have hfuel : 1 < (ofColumns columns).fuel := Nat.one_lt_succ_succ 2
  refine ⟨answers_page ?_ hfuel, ?_⟩
  · rw [hservice _ (by decide)]
    rfl
  · intro database hmem
    obtain rfl := List.mem_singleton.mp hmem
    refine answers_page ?_ hfuel
    rw [hservice _ (by decide)]
    rfl

/-- It describes the table. -/
lemma ofColumns_describes {columns : List ColumnDescription} (hlength : columns.length < 4)
    (hcolumns : ∀ column ∈ columns, IsDescription samplePlatform column) :
    (ofColumns columns).Describes (fun _ => columns) oneTable.pairs := by
  intro pair hmem
  obtain rfl : pair = ("db".toList, "T".toList) := List.mem_singleton.mp hmem
  have hservice : (ofColumns columns).service (describeSql "db".toList "T".toList) =
      scriptedService [⟨"", columns.map ColumnDescription.row, "", descriptionColumns⟩] := by
    unfold ofColumns
    dsimp only
    rw [if_pos rfl]
  refine ⟨hcolumns, answers_page hservice ?_⟩
  rwa [List.length_map]

/-- A column of the table. -/
def sampleColumn (name : Text) : ColumnDescription :=
  ⟨name, "varchar".toList, some "DIMENSION".toList⟩

/-- It can be described with a name of one letter. -/
lemma isDescription_sampleColumn {c : Char} (h : 0 < c.toNat ∧ c.toNat < 128) :
    IsDescription samplePlatform (sampleColumn [c]) where
  name_ne := List.cons_ne_nil _ _
  nul := by
    intro hmem
    obtain rfl := List.mem_singleton.mp hmem
    exact absurd h.1 (by decide)
  wide := by
    intro d hd
    obtain rfl := List.mem_singleton.mp hd
    exact ⟨unitFits_of_lt h.2 _, unitFits_of_lt h.2 _⟩
  room := by
    change 2 * 4 ≤ 2048
    decide
  bytes := by
    have hascii : IsPrinted [c] := by simpa [IsPrinted] using h
    change (Utf8.encode [c]).length ≤ stringBufferSize
    rw [Utf8.length_encode_of_isAscii hascii.isAscii]
    change 1 ≤ 2048
    decide
  dataType_ne := List.cons_ne_nil _ _
  dataType := by
    change IsPrinted "varchar".toList
    simp [IsPrinted]
  dataType_room := by
    change 7 < 64
    decide
  remarks := by
    change IsPrinted "DIMENSION".toList
    simp [IsPrinted]
  remarks_room := by
    change 9 < 64
    decide

/-- The columns of the table. -/
def sampleColumns : List ColumnDescription := [sampleColumn ['a'], sampleColumn ['b']]

/-- It is described by them. -/
lemma ofColumns_describes_sample :
    (ofColumns sampleColumns).Describes (fun _ => sampleColumns) oneTable.pairs := by
  apply ofColumns_describes (by decide)
  intro column hmem
  rcases List.mem_pair.mp hmem with rfl | rfl
  · exact isDescription_sampleColumn (by decide)
  · exact isDescription_sampleColumn (by decide)

/-- Null arguments but for the column ask the service. -/
lemma asks_column (columns : List ColumnDescription) (column : Option Text) :
    (ofColumns columns).Asks ⟨none, none, none, column⟩ :=
  ⟨.inl rfl, Option.some_ne_none _ ∘ Eq.symm, Option.some_ne_none _ ∘ Eq.symm⟩

/-- The columns of the table are collected as they are described when all are asked for. -/
theorem columnContent_all : ∃ listing,
    (ofColumns sampleColumns).executeColumns (fun _ _ => ⟨[], [], []⟩) false
        ⟨none, none, none, none⟩ = some listing ∧
      (listing.result = .aiSuccess ∨ listing.result = .aiSuccessWithInfo) ∧
      listing.rows = oneTable.pairs.flatMap fun pair =>
        (ofColumns sampleColumns).describedColumns ['%'] pair.1 pair.2 sampleColumns := by
  have hremarks : ∀ column ∈ sampleColumns, column.remarks.getD [] ≠ [] := by
    intro column hmem
    rcases List.mem_pair.mp hmem with rfl | rfl <;> exact List.cons_ne_nil _ _
  refine (@columnContent_iff (ofColumns sampleColumns) oneTable (fun _ => sampleColumns)
    ⟨none, none, none, none⟩ narrowsAscii_samplePlatform (asks_column _ none) (ofColumns_finds _)
    ofColumns_describes_sample (by decide)).mpr ?_ _
  intro pair _
  refine ⟨List.cons_ne_nil _ _, fun column _ => iff_of_true (means_all _) (.inl rfl), ?_,
    fun column hmem _ => hremarks column hmem⟩
  rw [List.filter_eq_self.mpr fun column _ => decide_eq_true (means_all column.name)]

/-- The second column has the position 1 when it alone is asked for. -/
theorem not_columnContent_second :
    ¬ ∀ before, ∃ listing,
      (ofColumns sampleColumns).executeColumns before false ⟨none, none, none, some ['b']⟩ =
          some listing ∧
        (listing.result = .aiSuccess ∨ listing.result = .aiSuccessWithInfo) ∧
        listing.rows = oneTable.pairs.flatMap fun pair =>
          (ofColumns sampleColumns).describedColumns ['b'] pair.1 pair.2 sampleColumns := by
  intro h
  obtain ⟨listing, hcall, -, hmeant⟩ := h fun _ _ => ⟨[], [], []⟩
  obtain ⟨listing', hcall', hrows, -⟩ := @exists_executeColumns (ofColumns sampleColumns) oneTable
    (fun _ => sampleColumns) ⟨none, none, none, some ['b']⟩ narrowsAscii_samplePlatform
    (asks_column _ _) (ofColumns_finds _) ofColumns_describes_sample (by decide) fun _ _ => ⟨[], [], []⟩
  obtain rfl := Option.some.inj (hcall.symm.trans hcall')
  have hpositions := congrArg (List.map ColumnMeta.ordinalPosition) (hmeant.symm.trans hrows)
  exact absurd hpositions (by decide)

end Catalog

end TimestreamOdbc
