import TimestreamOdbc.App.WideCopy
import TimestreamOdbc.Query.TableListing

/-!
# Listing the columns

`ColumnMetadataQuery` lists the tables through a query of its own, describes each of them by a statement
of the service, and collects the columns with the name that is asked for.  The three arrays into which a
description is read are bound without an indicator and stay from row to row.
-/

namespace TimestreamOdbc

/-- `GetScalarDataType`. -/
def getScalarDataType (dataType : Text) : ScalarType :=
  if dataType = "varchar".toList then .varchar
  else if dataType = "bigint".toList then .bigint
  else if dataType = "double".toList then .double
  else if dataType = "boolean".toList then .boolean
  else if dataType = "timestamp".toList then .timestamp
  else if dataType = "date".toList then .date
  else if dataType = "time".toList then .time
  else if dataType = "integer".toList then .integer
  else if dataType = "interval day to second".toList then .intervalDayToSecond
  else if dataType = "interval year to month".toList then .intervalYearToMonth
  else .unknown

/-- What the arrays of a description were found to hold: the texts in them, of a name, a type and
remarks. -/
structure ColumnTexts where
  name : Text
  dataType : Text
  remarks : Text
  deriving DecidableEq, Repr

namespace Catalog

/-! ## One table -/

/-- The bindings of `MakeRequestGetColumnsMetaPerTable`. The arrays of the type and of the remarks have
64 characters, but are bound with the size of the first one. -/
def describeBindings : ColumnBindings
  | 1 => some (localArray .aiWchar)
  | 2 | 3 => some (localArray .aiChar)
  | _ => none

/-- The text in an array of characters; before anything is stored that is what the array happens to
hold. -/
def textInArray (before : Text) (b : ColumnBinding) : Text :=
  if b.held = none then before else b.charText

/-- `SqlWcharToString` of an array of wide characters; nothing when the conversion throws. -/
def bytesInArray (P : Platform) (before : Text) (sqlStrLen : ℤ) (isLenInBytes : Bool)
    (b : ColumnBinding) : Option (List UInt8) :=
  match b.held with
  | none => some (Utf8.encode before)
  | some (.units _ codes) => Utility.sqlWcharToString P (some codes) sqlStrLen isLenInBytes
  | some _ => none

/-- Whether the column of a row is asked for. -/
def columnMatches (C : Catalog) (before : ColumnTexts) (column : Text)
    (columnBindings : ColumnBindings) : Option Bool :=
  if column = ['%'] then some true
  else
    (columnBindings 1).bind fun b =>
      (bytesInArray C.platform.toPlatform before.name stringBufferSize false b).map fun bytes =>
        Utf8.encode column = bytes

/-- The row of a column: the constructor of `ColumnMeta` with the texts that are read into it. -/
def columnMeta (C : Catalog) (databaseName tableName : Text) (texts : ColumnTexts) (position : ℤ) :
    ColumnMeta where
  catalogName := if C.databaseAsSchema then none else some databaseName
  schemaName := if C.databaseAsSchema then some databaseName else none
  tableName := some tableName
  columnName := some texts.name
  remarks := some texts.remarks
  columnDef := none
  dataType := some (getScalarDataType texts.dataType)
  nullability := some
    (if texts.remarks = "MEASURE_VALUE".toList ∨ texts.remarks = "MULTI".toList then .nullable
      else .noNull)
  ordinalPosition := some position

/-- The texts that `ColumnMeta::Read` reads, with `GetString` of buffers without an indicator. Nothing
when the conversion of the name throws, or cuts a character of it. -/
def readTexts (C : Catalog) (before : ColumnTexts) (columnBindings : ColumnBindings) :
    Option ColumnTexts :=
  (columnBindings 1).bind fun name => (columnBindings 2).bind fun dataType =>
    (columnBindings 3).bind fun remarks =>
      (bytesInArray C.platform.toPlatform before.name Utility.sqlNts true name).bind fun bytes =>
        (Utf8.decode (fun _ => true) (bytes.take stringBufferSize)).map fun columnName =>
          ⟨columnName, (textInArray before.dataType dataType).take stringBufferSize,
            (textInArray before.remarks remarks).take stringBufferSize⟩

/-- What the loop over the rows does after each of them. Only the columns that are asked for are
counted. -/
def collectColumns (C : Catalog) (before : ColumnTexts) (column databaseName tableName : Text) :
    ℤ → List ColumnBindings → Option (List ColumnMeta)
  | _, [] => some []
  | prevPosition, columnBindings :: rest =>
    (C.columnMatches before column columnBindings).bind fun asked =>
      if asked then
        (C.readTexts before columnBindings).bind fun texts =>
          (C.collectColumns before column databaseName tableName (prevPosition + 1) rest).map
            fun rows => C.columnMeta databaseName tableName texts (prevPosition + 1) :: rows
      else C.collectColumns before column databaseName tableName prevPosition rest

/-- `MakeRequestGetColumnsMetaPerTable`, with the rows that were collected so far and with what the
arrays happen to hold; nothing when it does not return. -/
def makeRequestGetColumnsMetaPerTable (C : Catalog) (before : ColumnTexts) (column : Text)
    (rows : List ColumnMeta) (databaseName tableName : Text) : Option (Listing ColumnMeta) :=
  (C.dataQuery (describeSql databaseName tableName)).execute.bind fun ((result, records), q) =>
    if result ≠ .aiSuccess then some ⟨.aiNoData, records, rows⟩
    else
      (fetchRows WholeQuery.fetchNextRow C.fuel describeBindings q).bind fun fetched =>
        (C.collectColumns before column databaseName tableName 0 fetched.2).map fun collected =>
          let rows := rows ++ collected
          if rows = [] then
            ⟨.aiSuccessWithInfo, records ++ fetched.1 ++
              [generalWarning ("No columns with name '".toList ++ column ++ "' found".toList)], []⟩
          else ⟨.aiSuccess, records ++ fetched.1, rows⟩

/-! ## The tables -/

/-- The column of a query of tables in which the databases are reported. -/
def databaseType (C : Catalog) : ℕ := if C.databaseAsSchema then 2 else 1

/-- The bindings of `GetColumnsWithDatabaseSearchPattern`. -/
def tableBindings (C : Catalog) : ColumnBindings :=
  Function.update (Function.update (fun _ => none) C.databaseType (some (localArray .aiChar))) 3
    (some (localArray .aiChar))

/-- The loop of `GetColumnsWithDatabaseSearchPattern` over the tables, which goes on with what has been
collected so far; the arrays happen to hold other texts for every table. -/
def columnsOfTables (C : Catalog) (before : Text → Text → ColumnTexts) (column : Text) :
    ℕ → ColumnBindings → TableMetadataQuery → Listing ColumnMeta → Option (Listing ColumnMeta)
  | 0, _, _, _ => none
  | fuel + 1, columnBindings, q, listing =>
    (TableMetadataQuery.fetchNextRow C.platform.toPlatform columnBindings q).bind fun (fetched, q) =>
      let records := listing.records ++ fetched.records
      if fetched.result = .aiSuccess then
        let databaseName := (fetched.columnBindings C.databaseType).elim [] ColumnBinding.charText
        let tableName := (fetched.columnBindings 3).elim [] ColumnBinding.charText
        (C.makeRequestGetColumnsMetaPerTable (before databaseName tableName) column listing.rows
          databaseName tableName).bind fun described =>
            let listing := { described with records := records ++ described.records }
            if described.result ≠ .aiSuccess ∧ described.result ≠ .aiSuccessWithInfo then some listing
            else C.columnsOfTables before column fuel fetched.columnBindings q listing
      else some { listing with records }

end Catalog

/-! ## The arguments -/

/-- The arguments of a query of columns; null is nothing. -/
structure ColumnArguments where
  catalog : Option Text
  schema : Option Text
  table : Option Text
  column : Option Text
  deriving DecidableEq, Repr

namespace ColumnArguments

/-- The arguments of the query of tables that the constructor makes. -/
def tables (A : ColumnArguments) : TableArguments := ⟨A.catalog, A.schema, A.table, none⟩

/-- The patterns that stand for null arguments. -/
def withPatterns (A : ColumnArguments) : ColumnArguments :=
  ⟨some (A.catalog.getD ['%']), some (A.schema.getD ['%']), some (A.table.getD ['%']),
    some (A.column.getD ['%'])⟩

end ColumnArguments

namespace Catalog

/-- `MakeRequestGetColumnsMeta` with `GetColumnsWithDatabaseSearchPattern`. The query of tables was made
with the arguments as they were given. -/
def makeRequestGetColumnsMeta (C : Catalog) (before : Text → Text → ColumnTexts) (metadataId : Bool)
    (given A : ColumnArguments) : Option (Listing ColumnMeta) :=
  let databasePattern := (A.tables.database C).getD []
  let column := A.column.getD []
  if metadataId then
    C.makeRequestGetColumnsMetaPerTable (before databasePattern (A.table.getD [])) column []
      databasePattern (A.table.getD [])
  else
    (C.makeRequestGetTablesMeta metadataId given.tables).bind fun tables =>
      let executed := TableMetadataQuery.execute (.new fun _ => tables)
      if executed.1.1 ≠ .aiSuccess then
        some ⟨.aiSuccessWithInfo, executed.1.2 ++ [generalWarning
          ("Failed to get table metadata for ".toList ++ databasePattern ++ '.' :: A.table.getD [])], []⟩
      else C.columnsOfTables before column C.fuel C.tableBindings executed.2
        ⟨executed.1.1, executed.1.2, []⟩

/-- An empty result of columns with a warning. -/
def emptyColumns (message : Text) : Listing ColumnMeta :=
  ⟨.aiSuccessWithInfo, [generalWarning message], []⟩

/-- `ColumnMetadataQuery::Execute` of a new query, as far as its result, its records and its rows
go. -/
def executeColumns (C : Catalog) (before : Text → Text → ColumnTexts) (metadataId : Bool)
    (given : ColumnArguments) : Option (Listing ColumnMeta) :=
  let kind := if C.databaseAsSchema then "catalog".toList else "schema".toList
  let unsupported := given.tables.unsupported C
  let A := if metadataId then given else given.withPatterns
  if unsupported ≠ none ∧ unsupported ≠ some [] ∧ unsupported ≠ some ['%'] then
    some (emptyColumns ("Empty result set is returned as ".toList ++ kind ++ " is set to \"".toList ++
      unsupported.getD [] ++ "\" and Timestream does not have ".toList ++ kind ++ ['s']))
  else if metadataId ∧ (given.tables.database C = none ∨ given.table = none ∨ given.column = none) then
    some ⟨.aiError, [statusRecord .sHY009InvalidUseOfNullPointer
      ("SQL_ATTR_METADATA_ID statement attribute was set to SQL_TRUE, and the " ++
        (if C.databaseAsSchema then "SchemaName" else "CatalogName") ++
        ", TableName, or ColumnName argument was a null pointer.")], []⟩
  else if A.tables.database C = some [] ∨ A.table = some [] then
    some (emptyColumns ((if C.databaseAsSchema then "Schema".toList else "Catalog".toList) ++
      " and table name should not be empty.".toList))
  else C.makeRequestGetColumnsMeta before metadataId given A

end Catalog

end TimestreamOdbc
