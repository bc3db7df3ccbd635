import TimestreamOdbc.Query.ColumnContent
import TimestreamOdbc.Query.EndedPages

/-!
# Listings of a service that fails

Each statement of the catalog functions is answered up to an error, if there is one.  An error before
the first row of a statement ends a listing of tables with an error, and a listing of columns with a
warning or without data; an error behind it only shortens the listing, which succeeds.
-/

namespace TimestreamOdbc

/-! ## Answers -/

/-- What a statement is answered with: the rows that are delivered, and whether an error ends them. -/
structure Answer (ρ : Type) where
  rows : List ρ
  failed : Bool
  deriving DecidableEq, Repr

namespace Answer

/-- The error comes before any row. -/
def Refused {ρ : Type} (a : Answer ρ) : Prop := a.rows = [] ∧ a.failed = true

instance {ρ : Type} [DecidableEq ρ] (a : Answer ρ) : Decidable a.Refused :=
  inferInstanceAs (Decidable (_ ∧ _))

/-- What a listing of names comes to. -/
def result {ρ : Type} [DecidableEq ρ] (a : Answer ρ) : SqlResult :=
  if a.Refused then .aiError else if a.rows = [] then .aiSuccessWithInfo else .aiSuccess

end Answer

namespace Catalog

/-- The service answers a statement with pages from which the rows are delivered, up to an error if it
fails, and the bound is large enough for them. -/
def AnswersUntil (C : Catalog) (sql : Text) (columnInfo : List ColumnInfo)
    (answer : Answer (List (Option Datum))) : Prop :=
  ∃ pages error, ¬ (pages = [] ∧ error = none) ∧ error.isSome = answer.failed ∧
    ServesUntil (C.dataQuery sql).source.env error 0 pages ∧ pages.length < C.fuel ∧
      deliveredRows pages = answer.rows ∧
        (answer.rows ≠ [] → deliveredColumnInfo pages = columnInfo) ∧ answer.rows.length < C.fuel

variable {C : Catalog}

/-- A statement that is answered is executed, unless the error comes before any row, and its rows are
fetched one after the other. -/
lemma AnswersUntil.execute {sql : Text} {columnInfo : List ColumnInfo}
    {answer : Answer (List (Option Datum))} (h : C.AnswersUntil sql columnInfo answer) :
    (answer.rows = [] ∧ ∃ result records q, (C.dataQuery sql).execute = some ((result, records), q) ∧
        result = if answer.failed then .aiError else .aiNoData) ∨
      answer.rows ≠ [] ∧ answer.rows.length < C.fuel ∧ ∃ q,
        (C.dataQuery sql).execute = some ((.aiSuccess, []), q) ∧
          q.AwaitsUntil (C.dataQuery sql).source columnInfo answer.rows := by
  obtain ⟨pages, error, hne, hfailed, hserves, hmax, hrows, hinfo, hfuel⟩ := h
  rcases WholeQuery.execute_awaitsUntil rfl hne hserves hmax with ⟨hnone, q, hexecute⟩ |
    ⟨hsome, q, hexecute, hawaits⟩
  · refine .inl ⟨hrows.symm.trans hnone, ?_⟩
    cases error with
    | none => exact ⟨_, _, q, hexecute, by rw [← hfailed]; rfl⟩
    | some e => exact ⟨_, _, q, hexecute, by rw [← hfailed]; rfl⟩
  · rw [hrows] at hsome hawaits
    rw [hinfo hsome] at hawaits
    exact .inr ⟨hsome, hfuel, q, hexecute, hawaits⟩

/-- The listing of the names that a statement is answered with. -/
lemma exists_showNames (hnarrow : NarrowsAscii C.platform.toPlatform) {sql : Text}
    {names : Answer Text} (hnames : ∀ name ∈ names.rows, IsName name)
    (h : C.AnswersUntil sql [nameColumn] ⟨names.rows.map nameRow, names.failed⟩) (notFound : Text) :
    ∃ listing, C.showNames sql notFound = some listing ∧ listing.rows = names.rows ∧
      listing.result = names.result := by
  unfold showNames Answer.result Answer.Refused
  rcases h.execute with ⟨hnone, result, records, q, hexecute, hresult⟩ |
    ⟨hsome, hfuel, q, hexecute, hawaits⟩
  · have hrows : names.rows = [] := List.map_eq_nil_iff.mp hnone
    rw [hexecute]
    by_cases hfailed : names.failed = true
    · rw [if_pos hfailed] at hresult
      subst hresult
      exact ⟨_, rfl, hrows.symm, by simp [hrows, hfailed]⟩
    · rw [if_neg hfailed] at hresult
      subst hresult
      exact ⟨_, rfl, hrows.symm, by simp [hrows, hfailed]⟩
  · rw [List.length_map] at hfuel
    have hholds : HoldsName [] nameBindings := ⟨_, rfl, rfl, rfl⟩
    obtain ⟨records, bindings, hloop, hbindings⟩ := fetchRows_of_awaitsUntil
      (fun name hmem previous columnBindings =>
        convertRow_nameRow hnarrow rfl (hnames name hmem)) hholds hawaits hfuel
    rw [statesAfter_replace] at hbindings
    have hread : names.rows = bindings.map readName := by
      have heq : List.Forall₂ (· = ·) names.rows (bindings.map readName) :=
        List.forall₂_map_right_iff.mpr (hbindings.imp fun _ _ h => h.readName_eq.symm)
      rwa [List.forall₂_eq_eq_eq] at heq
    have hne : names.rows ≠ [] := fun hnil => hsome (List.map_eq_nil_iff.mpr hnil)
    rw [hexecute]
    simp only [Option.bind_some, hloop, Option.map_some, ← hread]
    exact ⟨_, rfl, rfl, by simp [hne]⟩

end Catalog

/-! ## Tables -/

/-- The answers of a service to the statements of a listing of tables. -/
structure TableAnswers where
  databases : Answer Text
  tables : Text → Answer Text
  isName_database : ∀ database ∈ databases.rows, IsName database
  isName_table : ∀ database ∈ databases.rows, ∀ table ∈ (tables database).rows, IsName table

namespace TableAnswers

/-- The pairs that are listed: those of the databases before the first one whose tables are refused. -/
def pairs (L : TableAnswers) : List (Text × Text) :=
  (L.databases.rows.takeWhile fun database => ¬ (L.tables database).Refused).flatMap fun database =>
    (L.tables database).rows.map fun table => (database, table)

/-- What the listing comes to: an error when a statement is refused, and a warning when there is no
pair. -/
def result (L : TableAnswers) : SqlResult :=
  if L.databases.Refused ∨ ∃ database ∈ L.databases.rows, (L.tables database).Refused then .aiError
  else if L.pairs = [] then .aiSuccessWithInfo else .aiSuccess

end TableAnswers

namespace Catalog

/-- The service answers the statements for two patterns. -/
def FindsUntil (C : Catalog) (databasePattern tablePattern : Text) (L : TableAnswers) : Prop :=
  C.AnswersUntil (showDatabasesSql databasePattern) [nameColumn]
      ⟨L.databases.rows.map nameRow, L.databases.failed⟩ ∧
    ∀ database ∈ L.databases.rows, C.AnswersUntil (showTablesSql database tablePattern) [nameColumn]
      ⟨(L.tables database).rows.map nameRow, (L.tables database).failed⟩

variable {C : Catalog} {L : TableAnswers}

/-- The tables of some databases are listed up to the first one whose tables are refused. -/
lemma exists_tablesOfDatabases_until (hnarrow : NarrowsAscii C.platform.toPlatform)
    {tablePattern : Text} {tables : Text → Answer Text} {databases : List Text}
    (hnames : ∀ database ∈ databases, ∀ table ∈ (tables database).rows, IsName table)
    (h : ∀ database ∈ databases, C.AnswersUntil (showTablesSql database tablePattern) [nameColumn]
      ⟨(tables database).rows.map nameRow, (tables database).failed⟩) :
    ∃ listing, C.tablesOfDatabases tablePattern databases = some listing ∧
      listing.rows = ((databases.takeWhile fun database => ¬ (tables database).Refused).flatMap
        fun database => (tables database).rows.map fun table => (database, table)).map C.pairMeta ∧
      listing.result =
        if ∃ database ∈ databases, (tables database).Refused then .aiError else .aiSuccess := by
  induction databases with
  | nil => exact ⟨_, rfl, rfl, by simp⟩
  | cons database databases ih =>
    obtain ⟨rest, hrest, hrows', hresult'⟩ :=
      ih (fun name hmem => hnames name (List.mem_cons_of_mem _ hmem))
        fun name hmem => h name (List.mem_cons_of_mem _ hmem)
    obtain ⟨listing, hshow, hrows, hresult⟩ := exists_showNames hnarrow
      (hnames database List.mem_cons_self) (h database List.mem_cons_self)
      ("No table is found with pattern '".toList ++ tablePattern ++ "' from database (".toList ++
        database ++ [')'])
    rw [tablesOfDatabases, getMatchedTables, hshow, Option.bind_some]
    by_cases hrefused : (tables database).Refused
    · rw [Answer.result, if_pos hrefused] at hresult
      refine ⟨_, if_pos (by simp [hresult]), ?_, ?_⟩
      · rw [List.takeWhile_cons_of_neg (by simpa using hrefused)]
        rfl
      · rw [if_pos ⟨database, List.mem_cons_self, hrefused⟩]
        exact hresult
    · rw [Answer.result, if_neg hrefused] at hresult
      have hsuccess : ¬ (listing.result ≠ .aiSuccess ∧ listing.result ≠ .aiSuccessWithInfo) := by
        split at hresult <;> simp [hresult]
      rw [if_neg hsuccess, hrest, Option.map_some]
      refine ⟨_, rfl, ?_, ?_⟩
      · rw [List.takeWhile_cons_of_pos (by simpa using hrefused), List.flatMap_cons, List.map_append,
          hrows, hrows', List.map_map]
        rfl
      · simpa [hrefused] using hresult'

/-- What the search by two patterns comes to. -/
lemma exists_getTablesWithSearchPattern_until (hnarrow : NarrowsAscii C.platform.toPlatform)
    {database table : Option Text} (h : C.FindsUntil (database.getD ['%']) (table.getD ['%']) L) :
    ∃ listing, C.getTablesWithSearchPattern table database = some listing ∧
      listing.rows = L.pairs.map C.pairMeta ∧ listing.result = L.result := by
  obtain ⟨hdatabases, htables⟩ := h
  obtain ⟨databases, hshow, hrows, hresult⟩ :=
    exists_showNames hnarrow L.isName_database hdatabases
      ("No database is found with pattern '".toList ++ database.getD ['%'] ++ ['\''])
  unfold getTablesWithSearchPattern getMatchedDatabases TableAnswers.result
  rw [hshow, Option.bind_some]
  unfold Answer.result at hresult
  by_cases hnone : L.databases.rows = []
  · have hpairs : L.pairs = [] := by
      rw [TableAnswers.pairs, hnone]
      rfl
    refine ⟨⟨databases.result, databases.records, []⟩, if_pos ?_, by simp [hpairs], ?_⟩
    · split at hresult
      · simp [hresult]
      · simp [hresult]
    · simp only [hpairs, hnone, List.not_mem_nil, false_and, exists_false, or_false, if_true] at hresult ⊢
      exact hresult
  · have hnot : ¬ L.databases.Refused := fun hrefused => hnone hrefused.1
    rw [if_neg hnot, if_neg hnone] at hresult
    obtain ⟨tables, hloop, hrows', hresult'⟩ :=
      exists_tablesOfDatabases_until hnarrow L.isName_table htables
    rw [if_neg (by simp [hresult]), hrows, hloop, Option.map_some]
    have hpairs : tables.rows = L.pairs.map C.pairMeta := hrows'
    by_cases hrefused : ∃ database ∈ L.databases.rows, (L.tables database).Refused
    · rw [if_pos hrefused] at hresult'
      refine ⟨⟨tables.result, databases.records ++ tables.records, tables.rows⟩, ?_, hpairs, ?_⟩
      · simp [hresult']
      · rw [if_pos (.inr hrefused)]
        exact hresult'
    · rw [if_neg hrefused] at hresult'
      rw [if_neg (not_or.mpr ⟨hnot, hrefused⟩)]
      by_cases hnil : L.pairs = []
      · simp only [hresult', hpairs, hnil, List.map_nil, ne_eq, not_true_eq_false, if_false, if_true]
        exact ⟨_, rfl, rfl, rfl⟩
      · refine ⟨⟨.aiSuccess, databases.records ++ tables.records, tables.rows⟩, ?_, hpairs,
          by simp [hnil]⟩
        simp [hresult', hpairs, hnil]

/-- The arguments that search the service: the one for the kind of names that it does not have is null,
empty or `%`, the patterns are not empty, and a list of table types has the one that there is. -/
structure Searches (C : Catalog) (A : TableArguments) : Prop where
  unsupported : A.unsupported C = none ∨ A.unsupported C = some [] ∨ A.unsupported C = some ['%']
  database : A.database C ≠ some []
  table : A.table ≠ some []
  tableType : A.tableType.all validTableType

/-- The query of tables searches by the patterns. -/
lemma makeRequestGetTablesMeta_of_searches {A : TableArguments} (h : C.Searches A) :
    C.makeRequestGetTablesMeta false A = C.getTablesWithSearchPattern A.table (A.database C) := by
  have htypes : A.allTableTypes = false := by simp [TableArguments.allTableTypes, h.table]
  have hschemas : A.allSchemas false = false := by simp [TableArguments.allSchemas, h.table]
  have hcatalogs : A.allCatalogs false = false := by simp [TableArguments.allCatalogs, h.table]
  have hunsupported : ¬ (A.unsupported C ≠ none ∧ A.unsupported C ≠ some [] ∧
      A.unsupported C ≠ some ['%']) := by
    rcases h.unsupported with heq | heq | heq <;> simp [heq]
  have hempty : ¬ (A.database C = some [] ∨ A.table = some []) := by simp [h.database, h.table]
  rw [makeRequestGetTablesMeta, htypes, if_pos h.tableType]
  simp only [getTables, Bool.false_eq_true, if_false, hschemas, hcatalogs, ite_self, hunsupported,
    hempty]

/-- A listing of tables by patterns has the pairs that are delivered before a statement is refused, and
is an error exactly when one is; an error behind the first row of a statement only shortens it. -/
theorem shortenedTables (hnarrow : NarrowsAscii C.platform.toPlatform) {A : TableArguments}
    (hsearches : C.Searches A)
    (hfinds : C.FindsUntil ((A.database C).getD ['%']) (A.table.getD ['%']) L) :
    ∃ listing, C.makeRequestGetTablesMeta false A = some listing ∧
      listing.rows = L.pairs.map C.pairMeta ∧ listing.result = L.result := by
  rw [makeRequestGetTablesMeta_of_searches hsearches]
  exact exists_getTablesWithSearchPattern_until hnarrow hfinds

/-! ## Columns -/

section Columns

variable {before : Text → Text → ColumnTexts} {column : Text}
  {describe : Text × Text → Answer ColumnDescription}

/-- The service answers the descriptions of some tables. -/
def DescribesUntil (C : Catalog) (describe : Text × Text → Answer ColumnDescription)
    (pairs : List (Text × Text)) : Prop :=
  ∀ pair ∈ pairs,
    (∀ described ∈ (describe pair).rows, IsDescription C.platform.toPlatform described) ∧
    C.AnswersUntil (describeSql pair.1 pair.2) descriptionColumns
      ⟨(describe pair).rows.map ColumnDescription.row, (describe pair).failed⟩

/-- The rows that are collected from what is delivered of the description of a table. -/
def shownUntil (C : Catalog) (before : Text → Text → ColumnTexts) (column : Text)
    (describe : Text × Text → Answer ColumnDescription) (pair : Text × Text) : List ColumnMeta :=
  C.shownOf before column (fun pair => (describe pair).rows) pair

/-- What describing a table comes to: no data when nothing is delivered, with an error or without. -/
lemma exists_columnsOfTable_until (hnarrow : NarrowsAscii C.platform.toPlatform)
    {pair : Text × Text}
    (hcolumns : ∀ described ∈ (describe pair).rows, IsDescription C.platform.toPlatform described)
    (h : C.AnswersUntil (describeSql pair.1 pair.2) descriptionColumns
      ⟨(describe pair).rows.map ColumnDescription.row, (describe pair).failed⟩)
    (rows : List ColumnMeta) :
    ∃ listing, C.makeRequestGetColumnsMetaPerTable (before pair.1 pair.2) column rows pair.1 pair.2 =
        some listing ∧
      listing.rows = rows ++ C.shownUntil before column describe pair ∧
      listing.result = if (describe pair).rows = [] then .aiNoData
        else if listing.rows = [] then .aiSuccessWithInfo else .aiSuccess := by
  unfold makeRequestGetColumnsMetaPerTable
  rcases h.execute with ⟨hnone, result, records, q, hexecute, hresult⟩ |
    ⟨hsome, hfuel, q, hexecute, hawaits⟩
  · have hnil : (describe pair).rows = [] := List.map_eq_nil_iff.mp hnone
    have hfailed : result ≠ .aiSuccess := by
      rw [hresult]
      split <;> decide
    have hshown : C.shownUntil before column describe pair = [] := by
      rw [shownUntil, shownOf, hnil]
      rfl
    rw [hexecute]
    simp only [Option.bind_some, if_pos hfailed]
    exact ⟨_, rfl, by rw [hshown, List.append_nil], by rw [if_pos hnil]⟩
  · have hne : (describe pair).rows ≠ [] := fun hnil => hsome (List.map_eq_nil_iff.mpr hnil)
    rw [List.length_map] at hfuel
    obtain ⟨records, bindings, hloop, hbindings⟩ := fetchRows_of_awaitsUntil
      (fun described hmem _ columnBindings hholds =>
        convertRow_description hnarrow rfl (hcolumns described hmem) hholds)
      (holdsTexts_describeBindings C.platform.toPlatform (before pair.1 pair.2)) hawaits hfuel
    have hshort : ∀ texts ∈
        statesAfter ColumnTexts.next (before pair.1 pair.2).read (describe pair).rows,
        (Utf8.encode texts.name).length ≤ stringBufferSize := by
      intro texts hmem
      obtain ⟨described, hdescribed, hname⟩ := exists_of_mem_statesAfter hmem
      rw [hname]
      exact (hcolumns described hdescribed).bytes
    have hcollect : C.collectColumns (before pair.1 pair.2) column pair.1 pair.2 0 bindings =
        some (C.shownUntil before column describe pair) := by
      have hcounted := @collectColumns_of_holds C (before pair.1 pair.2) column pair.1 pair.2 _ _
        hbindings hshort 0
      rw [Nat.cast_zero, Nat.zero_add] at hcounted
      exact hcounted
    rw [hexecute]
    simp only [Option.bind_some, ne_eq, not_true_eq_false, if_false, hloop, hcollect,
      Option.map_some, hne]
    by_cases hnil : rows ++ C.shownUntil before column describe pair = []
    · exact ⟨_, by rw [if_pos hnil], hnil.symm, by rw [if_pos rfl]⟩
    · exact ⟨_, by rw [if_neg hnil], rfl, by rw [if_neg hnil]⟩

/-- The loop over the tables ends with no data at the first one of whose description nothing is
delivered. -/
lemma exists_columnsOfTables_until (hnarrow : NarrowsAscii C.platform.toPlatform)
    {pairs : List (Text × Text)} (hnames : ∀ pair ∈ pairs, IsName pair.1 ∧ IsName pair.2)
    (h : C.DescribesUntil describe pairs) {fuel : ℕ} (hfuel : pairs.length < fuel)
    {previous : Text × Text} {columnBindings : ColumnBindings}
    (hholds : C.HoldsPair previous columnBindings) {q : TableMetadataQuery} (hq : C.HasPairs pairs q)
    (listing : Listing ColumnMeta) :
    ∃ listing', C.columnsOfTables before column fuel columnBindings q listing = some listing' ∧
      listing'.rows = listing.rows ++
        (pairs.takeWhile fun pair => !(describe pair).rows.isEmpty).flatMap
          (C.shownUntil before column describe) ∧
      listing'.result = if ∃ pair ∈ pairs, (describe pair).rows = [] then .aiNoData
        else if pairs = [] then listing.result
        else if listing'.rows = [] then .aiSuccessWithInfo else .aiSuccess := by
  induction pairs generalizing fuel previous columnBindings q listing with
  | nil =>
    obtain ⟨fuel, rfl⟩ : ∃ n, fuel = n + 1 := ⟨fuel - 1, by simp at hfuel; omega⟩
    obtain ⟨q', hfetch⟩ := hq.fetchNextRow_nil C.platform.toPlatform columnBindings
    refine ⟨_, by rw [columnsOfTables, hfetch]; rfl, by simp, by simp⟩
  | cons pair pairs ih =>
    obtain ⟨fuel, rfl⟩ : ∃ n, fuel = n + 1 := ⟨fuel - 1, by simp at hfuel; omega⟩
    obtain ⟨hdatabase, htable⟩ := hnames pair List.mem_cons_self
    obtain ⟨columnBindings', q', hfetch, hq', hholds'⟩ :=
      hq.fetchNextRow_cons hnarrow hdatabase htable hholds
    obtain ⟨database, table, rfl, -, -, hfirst, hsecond⟩ := id hholds'
    obtain ⟨hdescribed, hanswers⟩ := h pair List.mem_cons_self
    obtain ⟨described, htables, hrows, hresult⟩ := @exists_columnsOfTable_until C before column
      describe hnarrow pair hdescribed hanswers listing.rows
    rw [columnsOfTables, hfetch]
    simp only [Option.bind_some, if_true, boundPair_databaseType, boundPair_three, Option.elim_some,
      hfirst, hsecond, htables]
    by_cases hnone : (describe pair).rows = []
    · rw [if_pos hnone] at hresult
      have hshown : C.shownUntil before column describe pair = [] := by
        rw [shownUntil, shownOf, hnone]
        rfl
      refine ⟨_, if_pos (by simp [hresult]), ?_, ?_⟩
      · rw [List.takeWhile_cons_of_neg (by simp [hnone])]
        simp [hrows, hshown]
      · rw [if_pos ⟨pair, List.mem_cons_self, hnone⟩]
        exact hresult
    · rw [if_neg hnone] at hresult
      obtain ⟨listing', hloop, hrows', hresult'⟩ := ih
        (fun other hmem => hnames other (List.mem_cons_of_mem _ hmem))
        (fun other hmem => h other (List.mem_cons_of_mem _ hmem)) (Nat.lt_of_succ_lt_succ hfuel) hholds'
        hq' { described with records := listing.records ++ [] ++ described.records }
      refine ⟨listing', ?_, ?_, ?_⟩
      · rw [if_neg (by split at hresult <;> simp [hresult]), hloop]
      · rw [hrows', List.takeWhile_cons_of_pos (by simpa using hnone), List.flatMap_cons, hrows,
          List.append_assoc]
      · rw [hresult', if_neg (List.cons_ne_nil _ _)]
        have hothers : (∃ other ∈ pair :: pairs, (describe other).rows = []) ↔
            ∃ other ∈ pairs, (describe other).rows = [] := by
          simp [hnone]
        simp only [hothers]
        split
        · rfl
        · split
          · next hnil =>
            have hsame : listing'.rows = described.rows := by simp [hrows', hnil]
            rw [hsame]
            exact hresult
          · rfl

/-- The pairs that are listed have names. -/
lemma isName_pairsUntil (L : TableAnswers) : ∀ pair ∈ L.pairs, IsName pair.1 ∧ IsName pair.2 := by
  intro pair hmem
  obtain ⟨database, hdatabase, hpair⟩ := List.mem_flatMap.mp hmem
  obtain ⟨table, htable, rfl⟩ := List.mem_map.mp hpair
  have hrow := (List.takeWhile_sublist _).subset hdatabase
  exact ⟨L.isName_database database hrow, L.isName_table database hrow table htable⟩

/-- A listing that succeeds has a pair. -/
lemma TableAnswers.pairs_ne_nil (h : L.result = .aiSuccess) : L.pairs ≠ [] := by
  intro hnil
  rw [TableAnswers.result, if_pos hnil] at h
  split at h <;> cases h

/-- A listing of columns by patterns goes through the tables when their own listing succeeds, and warns
otherwise, also of an error. It has the columns that are delivered before the first description of which
nothing is, and comes to no data when there is one, with an error or without; it is never an error. -/
theorem shortenedColumns (hnarrow : NarrowsAscii C.platform.toPlatform) {given : ColumnArguments}
    (hasks : C.Asks given)
    (hfinds : C.FindsUntil ((given.tables.database C).getD ['%']) (given.table.getD ['%']) L)
    (hdescribes : C.DescribesUntil describe L.pairs) (hfuel : L.pairs.length < C.fuel)
    (before : Text → Text → ColumnTexts) :
    ∃ listing, C.executeColumns before false given = some listing ∧
      (L.result ≠ .aiSuccess → listing.rows = [] ∧ listing.result = .aiSuccessWithInfo) ∧
      (L.result = .aiSuccess →
        listing.rows = (L.pairs.takeWhile fun pair => !(describe pair).rows.isEmpty).flatMap
          (C.shownUntil before (given.column.getD ['%']) describe) ∧
        listing.result = if ∃ pair ∈ L.pairs, (describe pair).rows = [] then .aiNoData
          else if listing.rows = [] then .aiSuccessWithInfo else .aiSuccess) ∧
      listing.result ≠ .aiError := by
  obtain ⟨tables, htables, hpairs, hresult⟩ := exists_getTablesWithSearchPattern_until hnarrow hfinds
  rw [executeColumns_of_asks hasks, makeRequestGetColumnsMeta, getTables_of_asks hasks, htables]
  simp only [Bool.false_eq_true, if_false, Option.bind_some]
  have hexecuted : (TableMetadataQuery.execute (.new fun _ => tables)).1 =
      (tables.result, tables.records) := rfl
  simp only [hexecuted]
  by_cases hsuccess : L.result = .aiSuccess
  · rw [if_neg (by simp [hresult, hsuccess])]
    have hnone := TableAnswers.pairs_ne_nil hsuccess
    have hholds : C.HoldsPair ([], []) C.tableBindings := ⟨_, _, rfl, rfl, rfl, rfl, rfl⟩
    have hq : C.HasPairs L.pairs (TableMetadataQuery.execute (.new fun _ => tables)).2 := by
      have hlisting : tables = ⟨.aiSuccess, tables.records, L.pairs.map C.pairMeta⟩ := by
        rw [← hpairs, ← hsuccess, ← hresult]
      rw [hlisting]
      exact hasPairs_execute hnone
    obtain ⟨listing, hloop, hrows, hlisted⟩ := @exists_columnsOfTables_until C before
      (given.column.getD ['%']) describe hnarrow _ (isName_pairsUntil L) hdescribes _ hfuel _ _
      hholds _ hq ⟨tables.result, tables.records, []⟩
    rw [if_neg hnone] at hlisted
    refine ⟨listing, hloop, fun hne => absurd hsuccess hne, fun _ => ⟨hrows, hlisted⟩, ?_⟩
    rw [hlisted]
    split
    · decide
    · split <;> decide
  · rw [if_pos (by simpa [hresult] using hsuccess)]
    refine ⟨_, rfl, fun _ => ⟨rfl, rfl⟩, fun heq => absurd heq hsuccess, ?_⟩
    intro herror
    cases herror

end Columns

/-! ## One table -/

/-- A page with a next token and an error behind it is an answer that fails. -/
lemma answersUntil_failing {sql : Text} {columnInfo : List ColumnInfo}
    {rows : List (List (Option Datum))} (hne : rows ≠ [])
    (hservice : C.service sql = scriptedService [⟨"", rows, "more", columnInfo⟩])
    (hmax : 1 < C.fuel) (hfuel : rows.length < C.fuel) :
    C.AnswersUntil sql columnInfo ⟨rows, true⟩ := by
  have hanswer : ∀ n request, (C.dataQuery sql).source.env.service n request =
      scriptedService [⟨"", rows, "more", columnInfo⟩] n request := by
    intro n request
    change C.service sql n request = _
    rw [hservice]
  refine ⟨[⟨"", rows, "more", columnInfo⟩], some ⟨"", ""⟩, by simp, rfl,
    ⟨fun request => hanswer 0 request, by simp, ?_⟩, hmax, ?_, ?_, hfuel⟩
  · intro e he request
    obtain rfl := Option.some.inj he
    exact hanswer 1 request
  · simp [deliveredRows, hne]
  · intro _
    simp [deliveredColumnInfo, hne]

/-- A page without one is an answer that does not. -/
lemma answersUntil_page {sql : Text} {columnInfo : List ColumnInfo}
    {rows : List (List (Option Datum))}
    (hservice : C.service sql = scriptedService [⟨"", rows, "", columnInfo⟩])
    (hmax : 1 < C.fuel) (hfuel : rows.length < C.fuel) :
    C.AnswersUntil sql columnInfo ⟨rows, false⟩ := by
  refine ⟨[⟨"", rows, "", columnInfo⟩], none, by simp, rfl, ⟨?_, by simp, by simp [ServesUntil]⟩,
    hmax, ?_, ?_, hfuel⟩
  · intro request
    change C.service sql 0 request = _
    rw [hservice]
    rfl
  · by_cases hrows : rows = [] <;> simp [deliveredRows, hrows]
  · intro hne
    have hne' : rows ≠ [] := hne
    simp [deliveredColumnInfo, hne']

/-- A connection to a service with one database, whose tables and whose columns of a table have a page
before an error. -/
def failingAfterPage : Catalog :=
  { ofListing oneTable 4 with
    service := fun sql =>
      if sql = showTablesSql "db".toList ['%'] then
        scriptedService [⟨"", [nameRow "T".toList], "more", [nameColumn]⟩]
      else if sql = describeSql "db".toList "T".toList then
        scriptedService [⟨"", [(sampleColumn ['a']).row], "more", descriptionColumns⟩]
      else serviceOf oneTable sql }

/-- Its answers. -/
def failingAnswers : TableAnswers where
  databases := ⟨["db".toList], false⟩
  tables := fun _ => ⟨["T".toList], true⟩
  isName_database := oneTable.isName_database
  isName_table := oneTable.isName_table

/-- It answers the listing of the tables. -/
lemma failingAfterPage_finds : failingAfterPage.FindsUntil ['%'] ['%'] failingAnswers := by
  refine ⟨answersUntil_page ?_ (by decide) (by decide), ?_⟩
  · unfold failingAfterPage
    dsimp only
    rw [if_neg (by decide), if_neg (by decide)]
    rfl
  · intro database hmem
    obtain rfl := List.mem_singleton.mp hmem
    refine answersUntil_failing (by simp [failingAnswers]) ?_ (by decide) (by decide)
    unfold failingAfterPage
    dsimp only
    rw [if_pos rfl]
    rfl

/-- It answers the description of the table. -/
lemma failingAfterPage_describes :
    failingAfterPage.DescribesUntil (fun _ => ⟨[sampleColumn ['a']], true⟩) failingAnswers.pairs := by
  intro pair hmem
  obtain rfl : pair = ("db".toList, "T".toList) := List.mem_singleton.mp hmem
  refine ⟨?_, answersUntil_failing (by simp) ?_ (by decide) (by decide)⟩
  · intro described hdescribed
    obtain rfl := List.mem_singleton.mp hdescribed
    exact isDescription_sampleColumn (by decide)
  · unfold failingAfterPage
    dsimp only
    rw [if_neg (by decide), if_pos rfl]
    rfl

/-- The page before the error is the whole listing. -/
theorem shortenedTables_one_page :
    ∃ listing, failingAfterPage.makeRequestGetTablesMeta false ⟨none, none, none, none⟩ = some listing ∧
      listing.rows = [failingAfterPage.pairMeta ("db".toList, "T".toList)] ∧
      listing.result = .aiSuccess :=
  shortenedTables (C := failingAfterPage) (L := failingAnswers) narrowsAscii_samplePlatform
    ⟨.inl rfl, Option.some_ne_none _ ∘ Eq.symm, Option.some_ne_none _ ∘ Eq.symm, rfl⟩
    failingAfterPage_finds

/-- The column before the error is the whole listing. -/
theorem shortenedColumns_one_page :
    ∃ listing, failingAfterPage.executeColumns (fun _ _ => ⟨[], [], []⟩) false
        ⟨none, none, none, none⟩ = some listing ∧
      listing.rows.map ColumnMeta.columnName = [some ['a']] ∧ listing.result = .aiSuccess := by
  obtain ⟨listing, hcall, -, hsuccess, -⟩ := @shortenedColumns failingAfterPage failingAnswers
    (fun _ => ⟨[sampleColumn ['a']], true⟩) narrowsAscii_samplePlatform ⟨none, none, none, none⟩
    ⟨.inl rfl, Option.some_ne_none _ ∘ Eq.symm, Option.some_ne_none _ ∘ Eq.symm⟩
    failingAfterPage_finds failingAfterPage_describes (by decide) fun _ _ => ⟨[], [], []⟩
  obtain ⟨hrows, hresult⟩ := hsuccess (by decide)
  have hlisted : listing.rows.map ColumnMeta.columnName = [some ['a']] := by
    rw [hrows]
    decide
  have hne : listing.rows ≠ [] := by
    intro hnil
    rw [hnil] at hlisted
    cases hlisted
  refine ⟨listing, hcall, hlisted, ?_⟩
  rw [hresult, if_neg (by simp), if_neg hne]

end Catalog

end TimestreamOdbc
