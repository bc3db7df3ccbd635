import TimestreamOdbc.Query.CatalogStatements
import TimestreamOdbc.Query.ListingRows
import TimestreamOdbc.App.ElementBuffer
import TimestreamOdbc.App.GetTemporal

/-!
# Listing the tables

`TableMetadataQuery` lists the databases and the tables of a database by statements of the service,
and compares their names with identifiers or leaves that to the service.  The loops over the rows of a
statement go through a data query of their own.
-/

namespace TimestreamOdbc

/-! ## The statements of a connection -/

/-- What the catalog functions find: the platform, the page size of the configuration, the answers of
the service to each statement, and whether databases are reported as schemas. A statement is given no
more requests and fetches than the bound. -/
structure Catalog where
  platform : ColumnPlatform
  maxRowPerPage : Option ℤ
  service : Text → ℕ → QueryRequest → QueryOutcome (Option Datum) ColumnInfo
  cancelQuery : ℕ → String → CancelOutcome
  databaseAsSchema : Bool
  fuel : ℕ

/-- A warning. -/
def generalWarning (message : Text) : DiagnosticRecord :=
  statusRecord .s01000GeneralWarning (String.ofList message)

/-- `StringUtils::ToUpper`: `::toupper` of the C locale on every character of a C string. -/
def toUpper (s : Text) : Text := (beforeNul s).map Char.toUpper

namespace Catalog

/-- A new data query of a statement. -/
def dataQuery (C : Catalog) (sql : Text) : WholeQuery Datum ColumnInfo where
  source :=
    { sql := String.ofList sql, maxRowPerPage := C.maxRowPerPage, service := C.service sql
      cancelQuery := C.cancelQuery, columns := timestreamColumns C.platform }
  maxRequests := C.fuel
  state := .new

/-- The bindings of `getMatchedDatabases` and `getMatchedTables`: the first column is read into an
array that was cleared. -/
def nameBindings : ColumnBindings := Function.update (fun _ => none) 1 (some (localArray .aiChar))

/-- The name in the array. -/
def readName (columnBindings : ColumnBindings) : Text :=
  (columnBindings 1).elim [] ColumnBinding.charText

/-- What `getMatchedDatabases` and `getMatchedTables` do with their statement and their message;
nothing when that does not return. -/
def showNames (C : Catalog) (sql notFound : Text) : Option (Listing Text) :=
  (C.dataQuery sql).execute.bind fun ((result, records), q) =>
    if result = .aiNoData then some ⟨.aiSuccessWithInfo, records ++ [generalWarning notFound], []⟩
    else if result ≠ .aiSuccess then some ⟨result, records, []⟩
    else
      (fetchRows WholeQuery.fetchNextRow C.fuel nameBindings q).map fun fetched =>
        ⟨.aiSuccess, records ++ fetched.1, fetched.2.map readName⟩

/-- `getMatchedDatabases`. -/
def getMatchedDatabases (C : Catalog) (databasePattern : Text) : Option (Listing Text) :=
  C.showNames (showDatabasesSql databasePattern)
    ("No database is found with pattern '".toList ++ databasePattern ++ ['\''])

/-- `getMatchedTables`. -/
def getMatchedTables (C : Catalog) (databaseName tablePattern : Text) : Option (Listing Text) :=
  C.showNames (showTablesSql databaseName tablePattern)
    ("No table is found with pattern '".toList ++ tablePattern ++ "' from database (".toList ++
      databaseName ++ [')'])

/-- The row of a table. -/
def tableMeta (C : Catalog) (databaseName tableName : Text) : TableMeta where
  catalogName := some (if C.databaseAsSchema then [] else databaseName)
  schemaName := some (if C.databaseAsSchema then databaseName else [])
  tableName := some tableName
  tableType := some "TABLE".toList
  remarks := none

/-- `getAllDatabases`. -/
def getAllDatabases (C : Catalog) : Option (Listing TableMeta) :=
  (C.getMatchedDatabases ['%']).map fun databases =>
    if databases.result ≠ .aiSuccess then ⟨databases.result, databases.records, []⟩
    else ⟨.aiSuccess, databases.records, databases.rows.map fun name => C.tableMeta name []⟩

/-- `getTablesWithIdentifier`. The loop over the databases stops at the first one that matches, the
loop over the tables does not stop. -/
def getTablesWithIdentifier (C : Catalog) (table databaseIdentifier : Text) :
    Option (Listing TableMeta) :=
  (C.getMatchedDatabases ['%']).bind fun databases =>
    if databases.result ≠ .aiSuccess then some ⟨databases.result, databases.records, []⟩
    else
      match databases.rows.find? fun name => toUpper databaseIdentifier = toUpper name with
      | none =>
        some ⟨.aiSuccessWithInfo, databases.records ++
          [generalWarning ("No matched database for ".toList ++ databaseIdentifier)], []⟩
      | some databaseName =>
        (C.getMatchedTables databaseName ['%']).map fun tables =>
          let records := databases.records ++ tables.records
          if tables.result ≠ .aiSuccess ∧ tables.result ≠ .aiSuccessWithInfo then
            ⟨tables.result, records, []⟩
          else
            let found := tables.rows.filter fun name => toUpper table = toUpper name
            let rows := found.map (C.tableMeta databaseName)
            if rows = [] then
              ⟨.aiSuccessWithInfo, records ++ [generalWarning
                ("Empty result set is returned as we could not find tables with ".toList ++
                  databaseName ++ '.' :: table)], []⟩
            else ⟨.aiSuccess, records, rows⟩

/-- The loop of `getTablesWithSearchPattern` over the databases: nothing when a listing does not
return, and no success when one of them has failed. -/
def tablesOfDatabases (C : Catalog) (tablePattern : Text) :
    List Text → Option (Listing TableMeta)
  | [] => some ⟨.aiSuccess, [], []⟩
  | databaseName :: databaseNames =>
    (C.getMatchedTables databaseName tablePattern).bind fun tables =>
      if tables.result ≠ .aiSuccess ∧ tables.result ≠ .aiSuccessWithInfo then
        some ⟨tables.result, tables.records, []⟩
      else
        (C.tablesOfDatabases tablePattern databaseNames).map fun rest =>
          { rest with
            records := tables.records ++ rest.records
            rows := tables.rows.map (C.tableMeta databaseName) ++ rest.rows }

/-- `getTablesWithSearchPattern`. The rows of the databases before one whose listing failed stay. -/
def getTablesWithSearchPattern (C : Catalog) (table databasePattern : Option Text) :
    Option (Listing TableMeta) :=
  (C.getMatchedDatabases (databasePattern.getD ['%'])).bind fun databases =>
    if databases.result ≠ .aiSuccess then some ⟨databases.result, databases.records, []⟩
    else
      (C.tablesOfDatabases (table.getD ['%']) databases.rows).map fun tables =>
        let records := databases.records ++ tables.records
        if tables.result ≠ .aiSuccess then ⟨tables.result, records, tables.rows⟩
        else if tables.rows = [] then
          ⟨.aiSuccessWithInfo, records ++ [generalWarning
            ("Empty result set is returned as we could not find tables for database pattern ".toList ++
              databasePattern.getD ['%'])], []⟩
        else ⟨.aiSuccess, records, tables.rows⟩

end Catalog

/-! ## The arguments -/

/-- The arguments of a query of tables; null is nothing. -/
structure TableArguments where
  catalog : Option Text
  schema : Option Text
  table : Option Text
  tableType : Option Text
  deriving DecidableEq, Repr

namespace TableArguments

/-- `all_catalogs`, which the constructor sets. -/
def allCatalogs (A : TableArguments) (metadataId : Bool) : Bool :=
  !metadataId && (A.catalog = some ['%'] && A.schema = some [] && A.table = some [])

/-- `all_schemas`. -/
def allSchemas (A : TableArguments) (metadataId : Bool) : Bool :=
  !metadataId && (A.schema = some ['%'] && A.catalog = some [] && A.table = some [])

/-- `all_table_types`. -/
def allTableTypes (A : TableArguments) : Bool :=
  A.tableType = some ['%'] && A.catalog = some [] && A.schema = some [] && A.table = some []

/-- The argument for the name of the database. -/
def database (A : TableArguments) (C : Catalog) : Option Text :=
  if C.databaseAsSchema then A.schema else A.catalog

/-- The argument for the kind of names that the service does not have. -/
def unsupported (A : TableArguments) (C : Catalog) : Option Text :=
  if C.databaseAsSchema then A.catalog else A.schema

end TableArguments

namespace Catalog

/-- An empty result with a warning. -/
def emptyListing (message : Text) : Listing TableMeta :=
  ⟨.aiSuccessWithInfo, [generalWarning message], []⟩

/-- `getTables`. The branches for databases as schemas and as catalogs differ in their messages and in
which of the arguments they look at. -/
def getTables (C : Catalog) (metadataId : Bool) (A : TableArguments) : Option (Listing TableMeta) :=
  let kind := if C.databaseAsSchema then "catalog".toList else "schema".toList
  let allDatabases := if C.databaseAsSchema then A.allSchemas metadataId else A.allCatalogs metadataId
  let allUnsupported :=
    if C.databaseAsSchema then A.allCatalogs metadataId else A.allSchemas metadataId
  if metadataId then
    match A.database C, A.table with
    | some databaseIdentifier, some table => C.getTablesWithIdentifier table databaseIdentifier
    | _, _ =>
      some ⟨.aiError, [statusRecord .sHY009InvalidUseOfNullPointer
        ("The SQL_ATTR_METADATA_ID statement attribute is set to SQL_TRUE, and " ++
          (if C.databaseAsSchema then "SchemaName" else "CatalogName") ++
          " or the TableName argument was a null pointer.")], []⟩
  else if allDatabases then C.getAllDatabases
  else if A.unsupported C ≠ none ∧ A.unsupported C ≠ some [] ∧ A.unsupported C ≠ some ['%'] then
    some (emptyListing ("Empty result set is returned as ".toList ++ kind ++ " is set to \"".toList ++
      (A.unsupported C).getD [] ++ "\" and Timestream does not have ".toList ++ kind ++ ['s']))
  else if allUnsupported then
    some (emptyListing ("Empty result set is returned for a list of ".toList ++ kind ++
      "s because Timestream does not have ".toList ++ kind ++ ['s']))
  else if A.database C = some [] ∨ A.table = some [] then
    some (emptyListing ((if C.databaseAsSchema then "Schema".toList else "Catalog".toList) ++
      " and table name should not be empty".toList))
  else C.getTablesWithSearchPattern A.table (A.database C)

/-- `dequote`. -/
def dequote (s : Text) : Text :=
  if 2 ≤ s.length ∧ (s.head? = some '\'' ∧ s.getLast? = some '\'' ∨
      s.head? = some '"' ∧ s.getLast? = some '"') then s.tail.dropLast
  else s

/-- Whether a list of table types has the one that there is. -/
def validTableType (tableType : Text) : Bool :=
  tableType = [] || tableType = ['%'] ||
    (tableType.splitOn ',').any fun singleTableType => dequote (trim singleTableType) = "TABLE".toList

/-- `MakeRequestGetTablesMeta`. -/
def makeRequestGetTablesMeta (C : Catalog) (metadataId : Bool) (A : TableArguments) :
    Option (Listing TableMeta) :=
  if A.allTableTypes then some ⟨.aiSuccess, [], [⟨none, none, none, some "TABLE".toList, none⟩]⟩
  else if A.tableType.all validTableType then C.getTables metadataId A
  else
    some (emptyListing ("Empty result set is returned as tableType is set to \"".toList ++
      A.tableType.getD [] ++ "\" and Timestream only supports \"TABLE\" table type".toList))

/-- Without a list of table types all tables are asked for. -/
lemma makeRequestGetTablesMeta_of_none (C : Catalog) (metadataId : Bool) {A : TableArguments}
    (h : A.tableType = none) : C.makeRequestGetTablesMeta metadataId A = C.getTables metadataId A := by
  have hall : A.allTableTypes = false := by simp [TableArguments.allTableTypes, h]
  rw [makeRequestGetTablesMeta, hall, h]
  rfl

end Catalog

/-! ## What the service lists -/

/-- The column of the names in a listing of databases or tables. -/
def nameColumn : ColumnInfo := ⟨true, some .varchar⟩

/-- The row of a name. -/
def nameRow (name : Text) : List (Option Datum) := [some (.scalar name)]

/-- The names that the service gives to databases and tables have letters, digits, dashes, periods and
underscores, and there is room for them in the arrays. -/
structure IsName (name : Text) : Prop where
  nonempty : name ≠ []
  short : name.length < stringBufferSize
  characters : ∀ c ∈ name, c.isAlphanum ∨ c = '-' ∨ c = '.' ∨ c = '_'

/-- They are printed. -/
lemma IsName.isPrinted {name : Text} (h : IsName name) : IsPrinted name := by
  intro c hc
  rcases h.characters c hc with halphanum | rfl | rfl | rfl
  · have hcode : c.val.toNat = c.toNat := rfl
    simp [Char.isAlphanum, Char.isAlpha, Char.isUpper, Char.isLower, Char.isDigit,
      UInt32.le_iff_toNat_le] at halphanum
    omega
  · decide
  · decide
  · decide

/-- A name in an array that was cleared. -/
lemma charText_units {b : ColumnBinding} {text : Text} (htext : IsPrinted text)
    (hheld : b.held = some (.units 1 (text.map Char.toNat ++ [0]))) : b.charText = text := by
  unfold ColumnBinding.charText
  rw [hheld, ← map_toNat_encode htext.isAscii, storedText_units, map_charOfNat_encode htext]

section Names

variable {P : ColumnPlatform}

/-- A printed text is put as a whole into a local array of characters with room for it. -/
lemma exists_put_printed (hnarrow : NarrowsAscii P.toPlatform) {text : Text} (htext : IsPrinted text)
    (hne : text ≠ []) (hshort : text.length < stringBufferSize) :
    ∃ put, parseScalarType P .varchar text (localArray .aiChar).buffer = some put ∧
      put.result = .aiSuccess ∧ put.stored = some (.units 1 (text.map Char.toNat ++ [0])) ∧
        put.cellOffset = -1 := by
  have hrep : ∀ c ∈ text, OutChar.char.represents P.toPlatform c := by
    intro c hc
    simp [OutChar.represents, unitFits_of_lt (htext c hc).2]
  have hunits : text.map (OutChar.char.unit P.toPlatform) = text.map Char.toNat := by
    apply List.map_congr_left
    intro c hc
    have hascii := hnarrow c (htext.isAscii c hc)
    simp [OutChar.unit, hascii]
  have hroom : (text.length + 1) * OutChar.char.size P.toPlatform ≤
      (localArray .aiChar).buffer.buflen := by
    rw [OutChar.size_char, Nat.mul_one]
    exact hshort
  obtain ⟨put, hput, hresult, hstored, hoffset⟩ := exists_putStrToStrBuffer_whole htext.nul_notMem hrep
    (fun _ _ => htext.isAscii) hne rfl rfl hroom
  refine ⟨put, hput, hresult, ?_, hoffset⟩
  rw [hstored, hunits]
  rfl

/-- The bindings have a name in the array. -/
def HoldsName (name : Text) (columnBindings : ColumnBindings) : Prop :=
  ∃ b, columnBindings = Function.update (fun _ => none) 1 (some b) ∧
    b.buffer = (localArray .aiChar).buffer ∧ b.charText = name

/-- It is the one that is read from them. -/
lemma HoldsName.readName_eq {name : Text} {columnBindings : ColumnBindings}
    (h : HoldsName name columnBindings) : Catalog.readName columnBindings = name := by
  obtain ⟨b, rfl, -, hname⟩ := h
  rw [Catalog.readName, Function.update_self, Option.elim_some, hname]

/-- The row of a name is converted into the array. -/
lemma convertRow_nameRow (hnarrow : NarrowsAscii P.toPlatform) {source : DataSource Datum ColumnInfo}
    (hcolumns : source.columns = timestreamColumns P) {name previous : Text} (hname : IsName name)
    {columnBindings : ColumnBindings} (h : HoldsName previous columnBindings) :
    ∃ columnBindings', DataQuery.convertRow source.env [nameColumn] (some (nameRow name))
      columnBindings = (some .aiSuccess, [], columnBindings') ∧ HoldsName name columnBindings' := by
  obtain ⟨b, rfl, hbuffer, -⟩ := h
  obtain ⟨put, hput, hresult, hstored, hoffset⟩ :=
    exists_put_printed hnarrow hname.isPrinted hname.nonempty hname.short
  have hread : source.env.readToBuffer nameColumn (some (.scalar name)) b =
      some (.aiSuccess, b.deliver put) := by
    simp only [DataSource.env, hcolumns, TimestreamColumns.readToBinding,
      TimestreamColumns.readToBuffer, TimestreamColumns.parseDatum, timestreamColumns, nameColumn,
      ColumnInfo.dataType, Option.getD_some, if_true, parseDatum, hbuffer, hput, Option.map_some,
      hresult]
  refine ⟨Function.update (fun _ => none) 1 (some (b.deliver put)), ?_, _, rfl,
    ColumnBinding.buffer_deliver_local hbuffer hoffset, ?_⟩
  · unfold DataQuery.convertRow
    simp [DataQuery.convertColumns, DataQuery.convertColumn, nameRow, hread,
      DataQuery.processConversionResult]
  · apply charText_units hname.isPrinted
    rw [ColumnBinding.held_deliver, hstored, Option.some_or]

end Names

/-! ## The answers of the service -/

namespace Catalog

/-- The service answers a statement with pages from which the rows are delivered, and the bound is
large enough for them. -/
def Answers (C : Catalog) (sql : Text) (columnInfo : List ColumnInfo)
    (rows : List (List (Option Datum))) : Prop :=
  ∃ pages, pages ≠ [] ∧ Serves (C.dataQuery sql).source.env 0 pages ∧ pages.length ≤ C.fuel ∧
    deliveredRows pages = rows ∧ (rows ≠ [] → deliveredColumnInfo pages = columnInfo) ∧
      rows.length < C.fuel

/-- A statement that is answered is executed, and its rows are fetched one after the other. -/
lemma Answers.execute {C : Catalog} {sql : Text} {columnInfo : List ColumnInfo}
    {rows : List (List (Option Datum))} (h : C.Answers sql columnInfo rows) :
    (rows = [] ∧ ∃ q, (C.dataQuery sql).execute = some ((.aiNoData, []), q)) ∨
      rows ≠ [] ∧ rows.length < C.fuel ∧ ∃ q,
        (C.dataQuery sql).execute = some ((.aiSuccess, []), q) ∧
          q.Awaits (C.dataQuery sql).source columnInfo rows := by
  obtain ⟨pages, hne, hserves, hmax, rfl, hinfo, hfuel⟩ := h
  rcases WholeQuery.execute_awaits rfl hne hserves hmax with ⟨hrows, q, hexecute⟩ |
    ⟨hrows, q, hexecute, hawaits⟩
  · exact .inl ⟨hrows, q, hexecute⟩
  · rw [hinfo hrows] at hawaits
    exact .inr ⟨hrows, hfuel, q, hexecute, hawaits⟩

/-- What a listing of names comes to: a warning when there is none. -/
def ShowsNames (notFound : Text) (names : List Text) (listing : Listing Text) : Prop :=
  listing.rows = names ∧ if names = [] then
    listing.result = .aiSuccessWithInfo ∧ listing.records = [generalWarning notFound]
  else listing.result = .aiSuccess

variable {C : Catalog}

/-- The listing of the names that a statement is answered with. -/
lemma showNames_of_answers (hnarrow : NarrowsAscii C.platform.toPlatform) {sql : Text}
    {names : List Text} (hnames : ∀ name ∈ names, IsName name)
    (h : C.Answers sql [nameColumn] (names.map nameRow)) (notFound : Text) :
    ∃ listing, C.showNames sql notFound = some listing ∧ ShowsNames notFound names listing := by
  unfold showNames
  rcases h.execute with ⟨hnone, q, hexecute⟩ | ⟨hsome, hfuel, q, hexecute, hawaits⟩
  · obtain rfl := List.map_eq_nil_iff.mp hnone
    rw [hexecute]
    exact ⟨_, rfl, rfl, rfl, rfl⟩
  · rw [List.length_map] at hfuel
    have hholds : HoldsName [] nameBindings := ⟨_, rfl, rfl, rfl⟩
    obtain ⟨records, bindings, hloop, hbindings⟩ := fetchRows_of_awaits
      (fun name hmem previous columnBindings =>
        convertRow_nameRow hnarrow rfl (hnames name hmem)) hholds hawaits hfuel
    rw [statesAfter_replace] at hbindings
    have hread : names = bindings.map readName := by
      have heq : List.Forall₂ (· = ·) names (bindings.map readName) :=
        List.forall₂_map_right_iff.mpr (hbindings.imp fun _ _ h => h.readName_eq.symm)
      rwa [List.forall₂_eq_eq_eq] at heq
    have hne : names ≠ [] := fun hnil => hsome (List.map_eq_nil_iff.mpr hnil)
    rw [hexecute]
    simp only [Option.bind_some, hloop, Option.map_some, ← hread]
    exact ⟨_, rfl, rfl, by rw [if_neg hne]⟩

end Catalog

end TimestreamOdbc
