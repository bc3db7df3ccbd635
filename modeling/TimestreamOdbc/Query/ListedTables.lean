import TimestreamOdbc.Query.ColumnListing
import TimestreamOdbc.Query.IdentifiedTables
import TimestreamOdbc.Query.RowVisibility

/-!
# Tables by search patterns

The databases and the tables that the service finds for two patterns are listed pair by pair.  A query
of columns fetches them into two local arrays, one pair after the other.
-/

namespace TimestreamOdbc

namespace Catalog

/-! ## The listing -/

/-- The service finds the databases for a pattern, and their tables for another one. -/
def Finds (C : Catalog) (databasePattern tablePattern : Text) (L : DatabaseListing) : Prop :=
  C.Answers (showDatabasesSql databasePattern) [nameColumn] (L.databases.map nameRow) ∧
    ∀ database ∈ L.databases, C.Answers (showTablesSql database tablePattern) [nameColumn]
      ((L.tables database).map nameRow)

variable {C : Catalog} {L : DatabaseListing}

/-- The row of a pair. -/
def pairMeta (C : Catalog) (pair : Text × Text) : TableMeta := C.tableMeta pair.1 pair.2

/-- The tables of some databases are listed one database after the other. -/
lemma exists_tablesOfDatabases (hnarrow : NarrowsAscii C.platform.toPlatform) {tablePattern : Text}
    {tables : Text → List Text} {databases : List Text}
    (hnames : ∀ database ∈ databases, ∀ table ∈ tables database, IsName table)
    (h : ∀ database ∈ databases, C.Answers (showTablesSql database tablePattern) [nameColumn]
      ((tables database).map nameRow)) :
    ∃ records, C.tablesOfDatabases tablePattern databases = some ⟨.aiSuccess, records,
      (databases.flatMap fun database => (tables database).map fun table => (database, table)).map
        C.pairMeta⟩ := by
  induction databases with
  | nil => exact ⟨[], rfl⟩
  | cons database databases ih =>
    obtain ⟨records, hrest⟩ := ih (fun name hmem => hnames name (List.mem_cons_of_mem _ hmem))
      fun name hmem => h name (List.mem_cons_of_mem _ hmem)
    obtain ⟨listing, hshow, hrows, hresult⟩ := showNames_of_answers hnarrow
      (hnames database List.mem_cons_self) (h database List.mem_cons_self)
      ("No table is found with pattern '".toList ++ tablePattern ++ "' from database (".toList ++
        database ++ [')'])
    have hsuccess : ¬ (listing.result ≠ .aiSuccess ∧ listing.result ≠ .aiSuccessWithInfo) := by
      split at hresult <;> simp [hresult]
    refine ⟨listing.records ++ records, ?_⟩
    simp only [tablesOfDatabases, getMatchedTables, hshow, Option.bind_some, hsuccess, if_false, hrest,
      Option.map_some, hrows, List.flatMap_cons, List.map_append, List.map_map]
    rfl

/-- The tables that the service finds are listed; there is a warning when there are none. -/
lemma exists_getTablesWithSearchPattern (hnarrow : NarrowsAscii C.platform.toPlatform)
    {database table : Option Text} (h : C.Finds (database.getD ['%']) (table.getD ['%']) L) :
    ∃ records, C.getTablesWithSearchPattern table database = some
      ⟨if L.pairs = [] then .aiSuccessWithInfo else .aiSuccess, records, L.pairs.map C.pairMeta⟩ := by
  obtain ⟨hdatabases, htables⟩ := h
  obtain ⟨databases, hshow, hrows, hresult⟩ :=
    showNames_of_answers hnarrow L.isName_database hdatabases
      ("No database is found with pattern '".toList ++ database.getD ['%'] ++ ['\''])
  unfold getTablesWithSearchPattern getMatchedDatabases
  rw [hshow, Option.bind_some]
  split at hresult
  · next hnone =>
    have hpairs : L.pairs = [] := by
      rw [DatabaseListing.pairs, hnone]
      rfl
    exact ⟨databases.records, by simp [hresult.1, hpairs]⟩
  · obtain ⟨records, hloop⟩ := exists_tablesOfDatabases hnarrow L.isName_table htables
    have hpairs : (L.databases.flatMap fun database =>
        (L.tables database).map fun table => (database, table)) = L.pairs := rfl
    rw [if_neg (by simp [hresult]), hrows, hloop, hpairs]
    by_cases hnone : L.pairs = []
    · exact ⟨_, by simp [hnone]; rfl⟩
    · exact ⟨_, by simp [hnone]; rfl⟩

/-! ## Fetching the pairs -/

/-- The bindings with the two arrays. -/
def boundPair (C : Catalog) (database table : ColumnBinding) : ColumnBindings :=
  Function.update (Function.update (fun _ => none) C.databaseType (some database)) 3 (some table)

section BoundPair

variable (C : Catalog) (database table b : ColumnBinding)

lemma databaseType_eq : C.databaseType = 1 ∨ C.databaseType = 2 := by
  unfold databaseType
  split
  · exact .inr rfl
  · exact .inl rfl

@[simp] lemma boundPair_databaseType :
    C.boundPair database table C.databaseType = some database := by
  have hne : C.databaseType ≠ 3 := by rcases C.databaseType_eq with h | h <;> omega
  rw [boundPair, Function.update_of_ne hne, Function.update_self]

@[simp] lemma boundPair_three : C.boundPair database table 3 = some table :=
  Function.update_self ..

lemma boundPair_of_ne {i : ℕ} (hdatabase : i ≠ C.databaseType) (htable : i ≠ 3) :
    C.boundPair database table i = none := by
  rw [boundPair, Function.update_of_ne htable, Function.update_of_ne hdatabase]

@[simp] lemma update_boundPair_databaseType :
    Function.update (C.boundPair database table) C.databaseType (some b) = C.boundPair b table := by
  have hne : C.databaseType ≠ 3 := by rcases C.databaseType_eq with h | h <;> omega
  rw [boundPair, Function.update_comm hne.symm, Function.update_idem, boundPair]

@[simp] lemma update_boundPair_three :
    Function.update (C.boundPair database table) 3 (some b) = C.boundPair database b :=
  Function.update_idem ..

end BoundPair

/-- The bindings have the names of a pair in the arrays. -/
def HoldsPair (C : Catalog) (pair : Text × Text) (columnBindings : ColumnBindings) : Prop :=
  ∃ database table, columnBindings = C.boundPair database table ∧
    database.buffer = (localArray .aiChar).buffer ∧ table.buffer = (localArray .aiChar).buffer ∧
      database.charText = pair.1 ∧ table.charText = pair.2

/-- A name is put into an array that is a local one. -/
lemma exists_deliver_name (hnarrow : NarrowsAscii C.platform.toPlatform) {name : Text}
    (hname : IsName name) {b : ColumnBinding} (hbuffer : b.buffer = (localArray .aiChar).buffer) :
    ∃ put, (MetaValue.string (some name)).put C.platform.toPlatform b.buffer = some put ∧
      (b.deliver put).buffer = (localArray .aiChar).buffer ∧ (b.deliver put).charText = name := by
  obtain ⟨put, hput, -, hstored, hoffset⟩ :=
    exists_put_printed hnarrow hname.isPrinted hname.nonempty hname.short
  refine ⟨put, by rw [hbuffer]; exact hput, ColumnBinding.buffer_deliver_local hbuffer hoffset, ?_⟩
  · apply charText_units hname.isPrinted
    rw [ColumnBinding.held_deliver, hstored, Option.some_or]

/-- The first keys of the binding map. -/
lemma range_keys : List.range 65536 = 0 :: 1 :: 2 :: 3 :: List.range' 4 65532 := by
  rw [List.range_eq_range']
  rfl

/-- No column is read where none is bound. -/
lemma readBoundColumns_of_none {getColumn : ℕ → ApplicationDataBuffer → Option ColumnRead}
    {is : List ℕ} {columnBindings : ColumnBindings} (h : ∀ i ∈ is, columnBindings i = none) :
    readBoundColumns getColumn is columnBindings = some ([], columnBindings) := by
  induction is with
  | nil => rfl
  | cons i is ih =>
    simp only [readBoundColumns, h i List.mem_cons_self]
    exact ih fun j hj => h j (List.mem_cons_of_mem _ hj)

/-- The value of a pair in the column of the databases. -/
lemma columnValue_databaseType (C : Catalog) (pair : Text × Text) :
    (C.pairMeta pair).columnValue C.databaseType = some (.string (some pair.1)) := by
  unfold databaseType pairMeta tableMeta
  cases C.databaseAsSchema <;> rfl

/-- The row of a pair is converted into the two arrays. -/
lemma convert_pairMeta (hnarrow : NarrowsAscii C.platform.toPlatform) {pair previous : Text × Text}
    (hdatabase : IsName pair.1) (htable : IsName pair.2) {columnBindings : ColumnBindings}
    (h : C.HoldsPair previous columnBindings) :
    ∃ columnBindings', (metaRow TableMeta.columnValue (.aiSuccess, []) C.platform.toPlatform
        (C.pairMeta pair)).convert columnBindings = some ⟨.aiSuccess, [], columnBindings'⟩ ∧
      C.HoldsPair pair columnBindings' := by
  obtain ⟨database, table, rfl, hbuffer, hbuffer', -, -⟩ := h
  obtain ⟨put, hput, hnext, htext⟩ := exists_deliver_name hnarrow hdatabase hbuffer
  obtain ⟨put', hput', hnext', htext'⟩ := exists_deliver_name hnarrow htable hbuffer'
  refine ⟨C.boundPair (database.deliver put) (table.deliver put'), ?_, _, _, rfl, hnext, hnext',
    htext, htext'⟩
  have hread : readMetaColumn TableMeta.columnValue (.aiSuccess, []) C.platform.toPlatform
      (C.pairMeta pair) C.databaseType database.buffer = some ⟨.aiSuccess, [], some put⟩ := by
    simp only [readMetaColumn, columnValue_databaseType, hput, Option.map_some]
  have hread' : readMetaColumn TableMeta.columnValue (.aiSuccess, []) C.platform.toPlatform
      (C.pairMeta pair) 3 table.buffer = some ⟨.aiSuccess, [], some put'⟩ := by
    have hvalue : (C.pairMeta pair).columnValue 3 = some (.string (some pair.2)) := rfl
    simp only [readMetaColumn, hvalue, hput', Option.map_some]
  have hrest : readBoundColumns (readMetaColumn TableMeta.columnValue (.aiSuccess, [])
      C.platform.toPlatform (C.pairMeta pair)) (List.range' 4 65532)
        (C.boundPair (database.deliver put) (table.deliver put')) =
          some ([], C.boundPair (database.deliver put) (table.deliver put')) := by
    apply readBoundColumns_of_none
    intro i hi
    have hge : 4 ≤ i := (List.mem_range'_1.mp hi).1
    refine boundPair_of_ne C _ _ ?_ (by omega)
    rcases C.databaseType_eq with h | h <;> omega
  have hzero : C.boundPair database table 0 = none := by
    refine boundPair_of_ne C _ _ ?_ (by omega)
    rcases C.databaseType_eq with h | h <;> omega
  -- of the keys 1 and 2 one is bound
  have hfirst : ∀ is, readBoundColumns (readMetaColumn TableMeta.columnValue (.aiSuccess, [])
      C.platform.toPlatform (C.pairMeta pair)) (1 :: 2 :: is) (C.boundPair database table) =
        (readBoundColumns (readMetaColumn TableMeta.columnValue (.aiSuccess, [])
          C.platform.toPlatform (C.pairMeta pair)) is
            (C.boundPair (database.deliver put) table)).map fun rest => ([] ++ rest.1, rest.2) := by
    intro is
    have hbound := boundPair_databaseType C database table
    have hupdate := update_boundPair_databaseType C database table (database.deliver put)
    rcases C.databaseType_eq with htype | htype
    · have htwo := boundPair_of_ne C (database.deliver put) table (i := 2) (by omega) (by omega)
      rw [htype] at hread hbound hupdate
      simp only [readBoundColumns, hbound, hread, Option.bind_some, Option.elim_some, hupdate, htwo]
    · have hone := boundPair_of_ne C database table (i := 1) (by omega) (by omega)
      rw [htype] at hread hbound hupdate
      simp only [readBoundColumns, hone, hbound, hread, Option.bind_some, Option.elim_some, hupdate]
  have hkeys : readBoundColumns (readMetaColumn TableMeta.columnValue (.aiSuccess, [])
      C.platform.toPlatform (C.pairMeta pair)) (List.range 65536) (C.boundPair database table) =
        some ([], C.boundPair (database.deliver put) (table.deliver put')) := by
    rw [range_keys, readBoundColumns, hzero]
    simp only [hfirst]
    rw [readBoundColumns, boundPair_three]
    simp only [hread', Option.bind_some, Option.elim_some, update_boundPair_three, hrest,
      Option.map_some, List.append_nil]
  unfold metaRow
  dsimp only
  rw [hkeys]
  rfl

/-- A query of tables still has some pairs. -/
def HasPairs (C : Catalog) (pairs : List (Text × Text)) (q : TableMetadataQuery) : Prop :=
  q.state.executed = true ∧ q.state.cursor ≤ q.state.rows.length ∧
    q.state.rowsLeft = pairs.map C.pairMeta

/-- An executed query of tables has the pairs of its listing. -/
lemma hasPairs_execute {pairs : List (Text × Text)} {records : List DiagnosticRecord}
    (hne : pairs ≠ []) :
    C.HasPairs pairs (TableMetadataQuery.execute
      (.new fun _ => ⟨.aiSuccess, records, pairs.map C.pairMeta⟩)).2 := by
  have hsome : (pairs.map C.pairMeta).isEmpty = false := by simpa using hne
  refine ⟨rfl, ?_, ?_⟩
  · simp [TableMetadataQuery.execute, MetadataQuery.new, MetaCursor.new, hsome]
  · simp [TableMetadataQuery.execute, MetadataQuery.new, MetaCursor.new, MetaCursor.rowsLeft, hsome]

/-- Where there is a pair, a fetch reads it. -/
lemma HasPairs.fetchNextRow_cons (hnarrow : NarrowsAscii C.platform.toPlatform)
    {pair previous : Text × Text} {pairs : List (Text × Text)} {q : TableMetadataQuery}
    (h : C.HasPairs (pair :: pairs) q) (hdatabase : IsName pair.1) (htable : IsName pair.2)
    {columnBindings : ColumnBindings} (hholds : C.HoldsPair previous columnBindings) :
    ∃ columnBindings' q', TableMetadataQuery.fetchNextRow C.platform.toPlatform columnBindings q =
        some (⟨.aiSuccess, [], columnBindings'⟩, q') ∧
      C.HasPairs pairs q' ∧ C.HoldsPair pair columnBindings' := by
  obtain ⟨hexecuted, hle, hleft⟩ := h
  have hrows : q.state.rows ≠ [] := by
    intro hnil
    rw [MetaCursor.rowsLeft, hnil, List.drop_nil] at hleft
    cases hleft
  obtain ⟨hend, hrow, hrest, hle'⟩ := MetaCursor.moved_of_rowsLeft_cons hle hleft
  have hexecuted' : q.state.moved.executed = true := MetaCursor.moved_executed.trans hexecuted
  obtain ⟨columnBindings', hconvert, hholds'⟩ := convert_pairMeta hnarrow hdatabase htable hholds
  refine ⟨columnBindings', { q with state := q.state.moved }, ?_, ⟨hexecuted', hle', hrest⟩, hholds'⟩
  unfold metaRow at hconvert
  dsimp only at hconvert
  obtain ⟨read, hread, heq⟩ := Option.map_eq_some_iff.mp hconvert
  unfold TableMetadataQuery.fetchNextRow MetaCursor.fetchNextRow
  rw [if_neg (fun hboth => hrows hboth.2), TableMetadataQuery.getColumn_eq hexecuted' hrow, hread, hexecuted,
    hend]
  simp only [Bool.not_true, Bool.false_eq_true, if_false, Option.map_some, heq]

/-- Where there is none, it comes to the end. -/
lemma HasPairs.fetchNextRow_nil {q : TableMetadataQuery} (h : C.HasPairs [] q) (P : Platform)
    (columnBindings : ColumnBindings) :
    ∃ q', TableMetadataQuery.fetchNextRow P columnBindings q =
      some (⟨.aiNoData, [], columnBindings⟩, q') := by
  obtain ⟨hexecuted, hle, hleft⟩ := h
  unfold TableMetadataQuery.fetchNextRow
  by_cases hrows : q.state.rows = []
  · exact ⟨q, if_pos ⟨hexecuted, hrows⟩⟩
  · obtain ⟨hend, -, -⟩ := MetaCursor.moved_of_rowsLeft_nil hle hleft
    refine ⟨{ q with state := q.state.moved }, ?_⟩
    rw [if_neg (fun hboth => hrows hboth.2), MetaCursor.fetchNextRow, hexecuted, hend]
    rfl

end Catalog

end TimestreamOdbc
