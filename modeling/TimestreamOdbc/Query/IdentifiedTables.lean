import TimestreamOdbc.App.CompositeDelivery
import TimestreamOdbc.Query.TableListing
import Mathlib.Data.List.Nodup

/-!
# Tables by identifiers

In identifier mode the names of a database and a table are compared without their case.  Every
database of the listing is one that the identifier may mean, but the search stops at the first one.
-/

namespace TimestreamOdbc

/-! ## Names without their case -/

/-- The upper case of a character. -/
lemma toNat_toUpper (c : Char) :
    c.toUpper.toNat = if 97 ≤ c.toNat ∧ c.toNat ≤ 122 then c.toNat - 32 else c.toNat := by
  have hcode : c.val.toNat = c.toNat := rfl
  have hfirst : 'a'.val.toNat = 97 := rfl
  have hlast : 'z'.val.toNat = 122 := rfl
  unfold Char.toUpper
  simp only [UInt32.le_iff_toNat_le, hcode, hfirst, hlast]
  split
  · have hminus : ('A'.val - 'a'.val).toNat = 2 ^ 32 - 32 := by decide
    rw [Char.toNat, UInt32.toNat_add, hcode]
    omega
  · rfl

/-- The lower case of a character. -/
lemma toNat_toLower (c : Char) :
    c.toLower.toNat = if 65 ≤ c.toNat ∧ c.toNat ≤ 90 then c.toNat + 32 else c.toNat := by
  have hcode : c.val.toNat = c.toNat := rfl
  have hfirst : 'A'.val.toNat = 65 := rfl
  have hlast : 'Z'.val.toNat = 90 := rfl
  unfold Char.toLower
  simp only [ge_iff_le, UInt32.le_iff_toNat_le, hcode, hfirst, hlast]
  split
  · have hplus : ('a'.val - 'A'.val).toNat = 32 := by decide
    rw [Char.toNat, UInt32.toNat_add, hcode]
    omega
  · rfl

/-- Characters with the same upper case have the same lower case. -/
lemma charToUpper_eq_iff {c d : Char} : c.toUpper = d.toUpper ↔ c.toLower = d.toLower := by
  rw [← Char.toNat_inj, ← Char.toNat_inj, toNat_toUpper, toNat_toUpper, toNat_toLower,
    toNat_toLower]
  split_ifs <;> omega

/-- Texts with the same upper case have the same lower case. -/
lemma map_toUpper_eq_iff {s t : Text} :
    s.map Char.toUpper = t.map Char.toUpper ↔ toLower s = toLower t := by
  unfold toLower
  induction s generalizing t with
  | nil => simp
  | cons c s ih =>
    cases t with
    | nil => simp
    | cons d t => simp only [List.map_cons, List.cons.injEq, charToUpper_eq_iff, ih]

/-- Equality of texts without their case. -/
def EqualIgnoreCase (s t : Text) : Prop := toLower s = toLower t

instance (s t : Text) : Decidable (EqualIgnoreCase s t) :=
  inferInstanceAs (Decidable (toLower s = toLower t))

/-- C strings have the same upper case when they are equal without their case. -/
lemma toUpper_eq_iff {s t : Text} (hs : '\x00' ∉ s) (ht : '\x00' ∉ t) :
    toUpper s = toUpper t ↔ EqualIgnoreCase s t := by
  rw [toUpper, toUpper, beforeNul_eq_self_iff.mpr hs, beforeNul_eq_self_iff.mpr ht,
    map_toUpper_eq_iff, EqualIgnoreCase]

/-! ## The tables that are meant -/

/-- A listing of databases, and of the tables of each of them. -/
structure DatabaseListing where
  databases : List Text
  tables : Text → List Text
  nodup_databases : databases.Nodup
  nodup_tables : ∀ database ∈ databases, (tables database).Nodup
  isName_database : ∀ database ∈ databases, IsName database
  isName_table : ∀ database ∈ databases, ∀ table ∈ tables database, IsName table

namespace DatabaseListing

/-- Its pairs of a database and a table, in its order. -/
def pairs (L : DatabaseListing) : List (Text × Text) :=
  L.databases.flatMap fun database => (L.tables database).map fun table => (database, table)

/-- Those with the names that a pair of identifiers means. -/
def identified (L : DatabaseListing) (databaseIdentifier tableIdentifier : Text) :
    List (Text × Text) :=
  L.pairs.filter fun (database, table) =>
    EqualIgnoreCase databaseIdentifier database ∧ EqualIgnoreCase tableIdentifier table

/-- The databases with the name that an identifier means. -/
def matchedDatabases (L : DatabaseListing) (databaseIdentifier : Text) : List Text :=
  L.databases.filter fun database => EqualIgnoreCase databaseIdentifier database

/-- The tables of a database with the name that an identifier means. -/
def matchedTables (L : DatabaseListing) (tableIdentifier database : Text) : List Text :=
  (L.tables database).filter fun table => EqualIgnoreCase tableIdentifier table

variable {L : DatabaseListing}

/-- No pair is there twice. -/
lemma nodup_pairs (L : DatabaseListing) : L.pairs.Nodup := by
  refine List.nodup_flatMap.mpr ⟨?_, ?_⟩
  · intro database hmem
    exact (L.nodup_tables database hmem).map fun _ _ h => (Prod.mk.inj h).2
  · refine L.nodup_databases.imp fun hne => ?_
    intro pair hfirst hsecond
    obtain ⟨table, -, rfl⟩ := List.mem_map.mp hfirst
    obtain ⟨table', -, hpair⟩ := List.mem_map.mp hsecond
    exact hne (Prod.mk.inj hpair).1.symm

/-- The pairs that are meant are those of the databases that are meant. -/
lemma identified_eq (L : DatabaseListing) (databaseIdentifier tableIdentifier : Text) :
    L.identified databaseIdentifier tableIdentifier =
      (L.matchedDatabases databaseIdentifier).flatMap fun database =>
        (L.matchedTables tableIdentifier database).map fun table => (database, table) := by
  unfold identified pairs matchedDatabases matchedTables
  induction L.databases with
  | nil => rfl
  | cons database databases ih =>
    rw [List.flatMap_cons, List.filter_append, ih, List.filter_map]
    by_cases h : EqualIgnoreCase databaseIdentifier database
    · rw [List.filter_cons_of_pos (by simpa using h), List.flatMap_cons]
      congr 2
      apply List.filter_congr
      intro table _
      simp [h]
    · rw [List.filter_cons_of_neg (by simpa using h)]
      simp [h]

/-- Rows of the tables of the first database that is meant. -/
def ofFirstDatabase {ρ : Type} (L : DatabaseListing) (row : Text → Text → ρ)
    (databaseIdentifier tableIdentifier : Text) : List ρ :=
  (L.matchedDatabases databaseIdentifier).head?.elim [] fun database =>
    (L.matchedTables tableIdentifier database).map (row database)

/-- They are the rows of all pairs that are meant if the other databases have none. -/
lemma ofFirstDatabase_eq_iff {ρ : Type} (row : Text → Text → ρ)
    (databaseIdentifier tableIdentifier : Text) :
    L.ofFirstDatabase row databaseIdentifier tableIdentifier =
        (L.identified databaseIdentifier tableIdentifier).map
          (fun (database, table) => row database table) ↔
      ∀ database ∈ (L.matchedDatabases databaseIdentifier).tail,
        ∀ table ∈ L.tables database, ¬ EqualIgnoreCase tableIdentifier table := by
  rw [identified_eq, ofFirstDatabase]
  cases L.matchedDatabases databaseIdentifier with
  | nil => simp
  | cons database databases =>
    have hfirst : ((L.matchedTables tableIdentifier database).map fun table => (database, table)).map
        (fun (database, table) => row database table) =
          (L.matchedTables tableIdentifier database).map (row database) := List.map_map
    rw [List.head?_cons, Option.elim_some, List.tail_cons, List.flatMap_cons, List.map_append, hfirst,
      List.self_eq_append_right, List.map_eq_nil_iff, List.flatMap_eq_nil_iff]
    simp only [List.map_eq_nil_iff, matchedTables, List.filter_eq_nil_iff, decide_eq_true_eq]

end DatabaseListing

/-! ## The tables that are found -/

namespace Catalog

/-- The service lists the databases and their tables. -/
def Lists (C : Catalog) (L : DatabaseListing) : Prop :=
  C.Answers (showDatabasesSql ['%']) [nameColumn] (L.databases.map nameRow) ∧
    ∀ database ∈ L.databases,
      C.Answers (showTablesSql database ['%']) [nameColumn] ((L.tables database).map nameRow)

/-- The listing of the tables that a pair of identifiers means: their pairs in the order of the
listing, and an empty result with a warning exactly when there is none. -/
structure IdentifiesTables (C : Catalog) (L : DatabaseListing)
    (databaseIdentifier tableIdentifier : Text) (listing : Listing TableMeta) : Prop where
  succeeds : listing.result = .aiSuccess ∨ listing.result = .aiSuccessWithInfo
  rows : listing.rows = (L.identified databaseIdentifier tableIdentifier).map
    fun (database, table) => C.tableMeta database table
  empty : (listing.result = .aiSuccessWithInfo ∧ listing.rows = [] ∧
      ∃ record ∈ listing.records, record.sqlState = .s01000GeneralWarning) ↔
    L.identified databaseIdentifier tableIdentifier = []

variable {C : Catalog} {L : DatabaseListing} {databaseIdentifier tableIdentifier : Text}

/-- The names with the upper case of an identifier are those that it means. -/
lemma filter_toUpper {names : List Text} (hnames : ∀ name ∈ names, IsName name) {identifier : Text}
    (hidentifier : '\x00' ∉ identifier) :
    names.filter (fun name => toUpper identifier = toUpper name) =
      names.filter fun name => EqualIgnoreCase identifier name := by
  apply List.filter_congr
  intro name hmem
  have hname := (hnames name hmem).isPrinted.nul_notMem
  exact decide_eq_decide.mpr (toUpper_eq_iff hidentifier hname)

/-- The rows that are found are the tables of the first database that is meant; there is a warning
when there are none. -/
lemma exists_getTablesWithIdentifier (hnarrow : NarrowsAscii C.platform.toPlatform) (h : C.Lists L)
    (hdatabase : '\x00' ∉ databaseIdentifier) (htable : '\x00' ∉ tableIdentifier) :
    ∃ listing, C.getTablesWithIdentifier tableIdentifier databaseIdentifier = some listing ∧
      listing.rows = L.ofFirstDatabase C.tableMeta databaseIdentifier tableIdentifier ∧
      if listing.rows = [] then listing.result = .aiSuccessWithInfo ∧
        ∃ record ∈ listing.records, record.sqlState = .s01000GeneralWarning
      else listing.result = .aiSuccess := by
  obtain ⟨hdatabases, htables⟩ := h
  obtain ⟨databases, hshow, hrows, hresult⟩ :=
    showNames_of_answers hnarrow L.isName_database hdatabases
      ("No database is found with pattern '".toList ++ ['%'] ++ ['\''])
  have hfind : (databases.rows.find? fun name => toUpper databaseIdentifier = toUpper name) =
      (L.matchedDatabases databaseIdentifier).head? := by
    rw [← List.head?_filter, hrows, filter_toUpper L.isName_database hdatabase]
    rfl
  unfold getTablesWithIdentifier getMatchedDatabases DatabaseListing.ofFirstDatabase
  rw [hshow, Option.bind_some, hfind]
  split at hresult
  · next hnone =>
    have hmatched : L.matchedDatabases databaseIdentifier = [] := by
      rw [DatabaseListing.matchedDatabases, hnone, List.filter_nil]
    refine ⟨_, if_pos (by simp [hresult.1]), by rw [hmatched]; rfl, ?_⟩
    rw [if_pos rfl]
    exact ⟨hresult.1, by simp [hresult.2, generalWarning, statusRecord]⟩
  · rw [if_neg (by simp [hresult])]
    rcases hmatched : (L.matchedDatabases databaseIdentifier).head? with _ | database
    · refine ⟨_, rfl, rfl, ?_⟩
      rw [if_pos rfl]
      exact ⟨rfl, _, List.mem_append_right _ (List.mem_singleton_self _), rfl⟩
    · have hmem : database ∈ L.databases :=
        (List.mem_filter.mp (List.mem_of_head? hmatched)).1
      obtain ⟨tables, hshow', hrows', hresult'⟩ := showNames_of_answers hnarrow
        (L.isName_table database hmem) (htables database hmem)
        ("No table is found with pattern '".toList ++ ['%'] ++ "' from database (".toList ++
          database ++ [')'])
      have hfound : (tables.rows.filter fun name => toUpper tableIdentifier = toUpper name) =
          L.matchedTables tableIdentifier database := by
        rw [hrows', filter_toUpper (L.isName_table database hmem) htable]
        rfl
      have hsuccess : ¬ (tables.result ≠ .aiSuccess ∧ tables.result ≠ .aiSuccessWithInfo) := by
        split at hresult' <;> simp [hresult']
      simp only [getMatchedTables, hshow', Option.map_some, hsuccess, if_false, hfound, Option.elim_some]
      refine ⟨_, rfl, ?_, ?_⟩
      · split
        · next hnone => exact hnone.symm
        · rfl
      · split
        · rw [if_pos rfl]
          exact ⟨rfl, _, List.mem_append_right _ (List.mem_singleton_self _), rfl⟩
        · rfl

/-- One page of names. -/
def namePage (names : List Text) : QueryResult (Option Datum) ColumnInfo :=
  ⟨"", names.map nameRow, "", [nameColumn]⟩

/-- A service that answers the statements for a listing with a page each. -/
def serviceOf (L : DatabaseListing) (sql : Text) :
    ℕ → QueryRequest → QueryOutcome (Option Datum) ColumnInfo :=
  scriptedService [namePage (if sql = showDatabasesSql ['%'] then L.databases
    else (L.databases.find? fun database => sql = showTablesSql database ['%']).elim [] L.tables)]

/-- A connection to it. -/
def ofListing (L : DatabaseListing) (fuel : ℕ) : Catalog where
  platform := sampleColumnPlatform
  maxRowPerPage := none
  service := serviceOf L
  cancelQuery := fun _ _ => .success
  databaseAsSchema := false
  fuel := fuel

/-- A page is an answer. -/
lemma answers_page {sql : Text} {columnInfo : List ColumnInfo} {rows : List (List (Option Datum))}
    (hservice : C.service sql = scriptedService [⟨"", rows, "", columnInfo⟩])
    (hfuel : rows.length < C.fuel) : C.Answers sql columnInfo rows := by
  refine ⟨[⟨"", rows, "", columnInfo⟩], List.cons_ne_nil _ _, ⟨?_, by simp, trivial⟩, ?_, ?_, ?_,
    hfuel⟩
  · intro request
    change C.service sql 0 request = _
    rw [hservice]
    rfl
  · exact Nat.zero_lt_of_lt hfuel
  · cases rows with
    | nil => rfl
    | cons row rows => simp [deliveredRows]
  · intro hne
    cases rows with
    | nil => exact absurd rfl hne
    | cons row rows => rfl

/-- The statements for the tables of two databases differ. -/
lemma showTablesSql_injective {database database' : Text}
    (h : showTablesSql database ['%'] = showTablesSql database' ['%']) : database = database' := by
  unfold showTablesSql at h
  have hfront := List.append_cancel_right (List.append_cancel_right (List.append_cancel_right h))
  exact List.append_cancel_left hfront

/-- None of them is the one for the databases. -/
lemma showTablesSql_ne (database : Text) :
    showTablesSql database ['%'] ≠ showDatabasesSql ['%'] := by
  have htables : (showTablesSql database ['%'])[5]? = some 'T' := by
    unfold showTablesSql
    rw [List.append_assoc, List.append_assoc, List.append_assoc,
      List.getElem?_append_left (by decide)]
    decide
  have hdatabases : (showDatabasesSql ['%'])[5]? = some 'D' := by decide
  intro h
  rw [h, hdatabases] at htables
  cases htables

/-- It lists the listing. -/
lemma ofListing_lists (L : DatabaseListing) {fuel : ℕ} (hdatabases : L.databases.length < fuel)
    (htables : ∀ database ∈ L.databases, (L.tables database).length < fuel) :
    (ofListing L fuel).Lists L := by
  refine ⟨answers_page ?_ (by rwa [List.length_map]),
    fun database hmem => answers_page ?_ (by rw [List.length_map]; exact htables database hmem)⟩
  · change serviceOf L _ = _
    rw [serviceOf, if_pos rfl]
    rfl
  · change serviceOf L _ = _
    have hfind : (L.databases.find? fun name =>
        showTablesSql database ['%'] = showTablesSql name ['%']) = some database := by
      have hsome : (L.databases.find? fun name =>
          showTablesSql database ['%'] = showTablesSql name ['%']).isSome := by
        rw [List.find?_isSome]
        exact ⟨database, hmem, decide_eq_true rfl⟩
      obtain ⟨name, hname⟩ := Option.isSome_iff_exists.mp hsome
      have hsame := List.find?_some hname
      rw [hname, showTablesSql_injective (of_decide_eq_true hsame)]
    rw [serviceOf, if_neg (showTablesSql_ne database), hfind]
    rfl

/-- Letters make a name. -/
lemma isName_of_all {name : Text} (hne : name ≠ []) (hshort : name.length < stringBufferSize)
    (hall : name.all Char.isAlphanum = true) : IsName name :=
  ⟨hne, hshort, fun c hc => .inl (List.all_eq_true.mp hall c hc)⟩

/-- A database with one table. -/
def oneTable : DatabaseListing where
  databases := ["db".toList]
  tables := fun _ => ["T".toList]
  nodup_databases := List.nodup_singleton _
  nodup_tables := fun _ _ => List.nodup_singleton _
  isName_database := by
    intro _ hmem
    obtain rfl := List.mem_singleton.mp hmem
    exact isName_of_all (by decide) (by decide) (by decide)
  isName_table := by
    intro _ _ _ hmem
    obtain rfl := List.mem_singleton.mp hmem
    exact isName_of_all (by decide) (by decide) (by decide)

/-- Two databases that differ in case, the second one with a table. -/
def caseVariants : DatabaseListing where
  databases := ["db".toList, "DB".toList]
  tables := fun database => if database = "DB".toList then ["t".toList] else []
  nodup_databases := by decide
  nodup_tables := by
    intro database _
    split
    · exact List.nodup_singleton _
    · exact List.nodup_nil
  isName_database := by
    intro _ hmem
    rcases List.mem_pair.mp hmem with rfl | rfl
    · exact isName_of_all (by decide) (by decide) (by decide)
    · exact isName_of_all (by decide) (by decide) (by decide)
  isName_table := by
    intro _ _ _ hmem
    split at hmem
    · obtain rfl := List.mem_singleton.mp hmem
      exact isName_of_all (by decide) (by decide) (by decide)
    · cases hmem

end Catalog

end TimestreamOdbc
