import TimestreamOdbc.Utils
import TimestreamOdbc.Lib.SqlLexer

/-!
# The statements of the catalog functions

`SQLTables` and `SQLColumns` ask the service by statements into which they splice the names and the
patterns of their arguments, between quotes and as they are.
-/

namespace TimestreamOdbc

open SqlLexer

/-! ## The statements -/

/-- The statement of `getMatchedDatabases`. -/
def showDatabasesSql (databasePattern : Text) : Text :=
  "SHOW DATABASES LIKE '".toList ++ databasePattern ++ ['\'']

/-- The statement of `getMatchedTables`. -/
def showTablesSql (databaseName tablePattern : Text) : Text :=
  "SHOW TABLES FROM \"".toList ++ databaseName ++ "\" LIKE '".toList ++ tablePattern ++ ['\'']

/-- The statement of `MakeRequestGetColumnsMetaPerTable`. -/
def describeSql (databaseName tableName : Text) : Text :=
  "describe \"".toList ++ databaseName ++ "\".\"".toList ++ tableName ++ ['"']

/-! ## What they are meant to be -/

/-- The tokens of a statement that lists databases. -/
def showDatabasesTokens (databasePattern : Text) : List Token :=
  [.word "SHOW".toList, .word "DATABASES".toList, .word "LIKE".toList,
    .quoted .single databasePattern]

/-- The tokens of a statement that lists tables. -/
def showTablesTokens (databaseName tablePattern : Text) : List Token :=
  [.word "SHOW".toList, .word "TABLES".toList, .word "FROM".toList, .quoted .double databaseName,
    .word "LIKE".toList, .quoted .single tablePattern]

/-- The tokens of a statement that describes a table. -/
def describeTokens (databaseName tableName : Text) : List Token :=
  [.word "describe".toList, .quoted .double databaseName, .symbol '.', .quoted .double tableName]

/-! ## What they are -/

/-- The last token of a statement is the text between its last quotes. -/
lemma lexFrom_quoted_end_iff (quote : Quote) (text : Text) :
    lexFrom (.quoted quote []) (text ++ [quote.char]) = some [.quoted quote text] ↔
      quote.char ∉ text := by
  have hend : ([] : Text).head? ≠ some quote.char := by simp
  rw [lexFrom_quoted_iff hend]
  exact and_iff_left rfl

/-- The pattern of databases is the literal of its statement if it has no single quote. -/
lemma lex_showDatabasesSql_iff (databasePattern : Text) :
    lex (showDatabasesSql databasePattern) = some (showDatabasesTokens databasePattern) ↔
      '\'' ∉ databasePattern := by
  have hrun : run .outside "SHOW DATABASES LIKE '".toList =
      ([.word "SHOW".toList, .word "DATABASES".toList, .word "LIKE".toList],
        .quoted .single []) := by decide
  have hsql : showDatabasesSql databasePattern =
      "SHOW DATABASES LIKE '".toList ++ (databasePattern ++ [Quote.single.char]) :=
    List.append_assoc _ _ _
  have htokens : showDatabasesTokens databasePattern =
      [.word "SHOW".toList, .word "DATABASES".toList, .word "LIKE".toList] ++
        [.quoted .single databasePattern] := rfl
  rw [lex, hsql, htokens, lexFrom_append_eq_some_iff hrun, lexFrom_quoted_end_iff]
  rfl

/-- A statement with two texts in it, up to the quote behind the first one. -/
lemma append_between {between inner : Text} {c : Char} (h : between = c :: inner)
    (before first second last : Text) :
    before ++ first ++ between ++ second ++ last =
      before ++ (first ++ c :: (inner ++ (second ++ last))) := by
  subst h
  simp only [List.append_assoc, List.cons_append]

/-- The database is the identifier and the pattern of tables the literal of the statement if the one
has no double quote and the other no single quote. -/
lemma lex_showTablesSql_iff (databaseName tablePattern : Text) :
    lex (showTablesSql databaseName tablePattern) =
        some (showTablesTokens databaseName tablePattern) ↔
      '"' ∉ databaseName ∧ '\'' ∉ tablePattern := by
  have hrun : run .outside "SHOW TABLES FROM \"".toList =
      ([.word "SHOW".toList, .word "TABLES".toList, .word "FROM".toList], .quoted .double []) := by
    decide
  have hlike : run .outside " LIKE '".toList = ([.word "LIKE".toList], .quoted .single []) := by
    decide
  have hsql : showTablesSql databaseName tablePattern =
      "SHOW TABLES FROM \"".toList ++ (databaseName ++
        Quote.double.char :: (" LIKE '".toList ++ (tablePattern ++ [Quote.single.char]))) := by
    have hquote : "\" LIKE '".toList = Quote.double.char :: " LIKE '".toList := by decide
    exact append_between hquote _ _ _ _
  have htokens : showTablesTokens databaseName tablePattern =
      [.word "SHOW".toList, .word "TABLES".toList, .word "FROM".toList] ++
        .quoted .double databaseName ::
          ([.word "LIKE".toList] ++ [.quoted .single tablePattern]) := rfl
  rw [lex, hsql, htokens, lexFrom_append_eq_some_iff hrun,
    lexFrom_quoted_iff (by simp [Quote.char]), lexFrom_append_eq_some_iff hlike,
    lexFrom_quoted_end_iff]
  rfl

/-- The database and the table are the identifiers of the statement if they have no double quote. -/
lemma lex_describeSql_iff (databaseName tableName : Text) :
    lex (describeSql databaseName tableName) = some (describeTokens databaseName tableName) ↔
      '"' ∉ databaseName ∧ '"' ∉ tableName := by
  have hrun : run .outside "describe \"".toList =
      ([.word "describe".toList], .quoted .double []) := by decide
  have hdot : run .outside ".\"".toList = ([.symbol '.'], .quoted .double []) := by decide
  have hsql : describeSql databaseName tableName =
      "describe \"".toList ++ (databaseName ++
        Quote.double.char :: (".\"".toList ++ (tableName ++ [Quote.double.char]))) := by
    have hquote : "\".\"".toList = Quote.double.char :: ".\"".toList := by decide
    exact append_between hquote _ _ _ _
  have htokens : describeTokens databaseName tableName =
      [.word "describe".toList] ++ .quoted .double databaseName ::
        ([.symbol '.'] ++ [.quoted .double tableName]) := rfl
  rw [lex, hsql, htokens, lexFrom_append_eq_some_iff hrun,
    lexFrom_quoted_iff (by simp [Quote.char]), lexFrom_append_eq_some_iff hdot,
    lexFrom_quoted_end_iff]
  rfl

/-- The statements of the catalog functions are what they are meant to be exactly for the arguments
that do not have the quote in them between which they are spliced. -/
theorem catalogStatements_lex_iff (databasePattern databaseName tablePattern tableName : Text) :
    (lex (showDatabasesSql databasePattern) = some (showDatabasesTokens databasePattern) ↔
        '\'' ∉ databasePattern) ∧
      (lex (showTablesSql databaseName tablePattern) =
          some (showTablesTokens databaseName tablePattern) ↔
        '"' ∉ databaseName ∧ '\'' ∉ tablePattern) ∧
      (lex (describeSql databaseName tableName) = some (describeTokens databaseName tableName) ↔
        '"' ∉ databaseName ∧ '"' ∉ tableName) :=
  ⟨lex_showDatabasesSql_iff databasePattern, lex_showTablesSql_iff databaseName tablePattern,
    lex_describeSql_iff databaseName tableName⟩

/-- A pattern with a quote and a comment becomes another literal, and the rest of the statement is
gone. -/
theorem not_catalogStatements_lex :
    lex (showDatabasesSql "a' -- ".toList) = some (showDatabasesTokens ['a']) ∧
      ¬ (∀ databasePattern, lex (showDatabasesSql databasePattern) =
        some (showDatabasesTokens databasePattern)) := by
  have hlex : lex (showDatabasesSql "a' -- ".toList) = some (showDatabasesTokens ['a']) := by decide
  refine ⟨hlex, ?_⟩
  intro h
  have hsame := hlex.symm.trans (h "a' -- ".toList)
  exact absurd (Option.some.inj hsame) (by decide)

end TimestreamOdbc
