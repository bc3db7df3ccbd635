import TimestreamOdbc.Lib.SearchPattern
import TimestreamOdbc.Query.ListedTables

/-!
# The columns that are collected

A description of a table has a row for each of its columns, with the name, the type and the remarks.
The rows go through three arrays that stay from one to the next, so that a column without remarks shows
those of a column before it.
-/

namespace TimestreamOdbc

open SearchPattern

/-! ## Descriptions -/

/-- A column in the description of its table. -/
structure ColumnDescription where
  name : Text
  dataType : Text
  remarks : Option Text
  deriving DecidableEq, Repr

namespace ColumnDescription

/-- The texts of it; null remarks are empty. -/
def texts (column : ColumnDescription) : ColumnTexts :=
  ⟨column.name, column.dataType, column.remarks.getD []⟩

/-- The row of it. -/
def row (column : ColumnDescription) : List (Option Datum) :=
  [some (.scalar column.name), some (.scalar column.dataType), column.remarks.map .scalar]

end ColumnDescription

/-- The columns of a description. -/
def descriptionColumns : List ColumnInfo := [nameColumn, nameColumn, nameColumn]

/-- The size of the arrays for a type and for remarks. -/
def shortBufferSize : ℕ := 64

/-- What the service describes a column by: a name with characters that have a wide form, a type and
remarks in ASCII characters, with room for them in the arrays. -/
structure IsDescription (P : Platform) (column : ColumnDescription) : Prop where
  name_ne : column.name ≠ []
  nul : '\x00' ∉ column.name
  wide : ∀ c ∈ column.name, unitFits P.wcharSize c ∧ unitFits P.sqlWcharSize c
  room : (column.name.length + 1) * P.sqlWcharSize ≤ stringBufferSize
  bytes : (Utf8.encode column.name).length ≤ stringBufferSize
  dataType_ne : column.dataType ≠ []
  dataType : IsPrinted column.dataType
  dataType_room : column.dataType.length < shortBufferSize
  remarks : IsPrinted (column.remarks.getD [])
  remarks_room : (column.remarks.getD []).length < shortBufferSize

/-- The texts in the arrays after a row: there are no remarks put when they are null or empty. -/
def ColumnTexts.next (texts : ColumnTexts) (column : ColumnDescription) : ColumnTexts where
  name := column.name
  dataType := column.dataType
  remarks := if column.remarks.getD [] = [] then texts.remarks else column.remarks.getD []

/-- What `GetString` reads of what the arrays happen to hold. -/
def ColumnTexts.read (before : ColumnTexts) : ColumnTexts where
  name := before.name
  dataType := before.dataType.take stringBufferSize
  remarks := before.remarks.take stringBufferSize

/-! ## The arrays -/

namespace Catalog

/-- The bindings with the three arrays. -/
def boundArrays (name dataType remarks : ColumnBinding) : ColumnBindings
  | 1 => some name
  | 2 => some dataType
  | 3 => some remarks
  | _ => none

section BoundArrays

variable (name dataType remarks b : ColumnBinding)

lemma update_boundArrays_one : Function.update (boundArrays name dataType remarks) 1 (some b) =
    boundArrays b dataType remarks := by
  funext i
  match i with
  | 0 | 1 | 2 | 3 | _ + 4 => rfl

lemma update_boundArrays_two : Function.update (boundArrays name dataType remarks) 2 (some b) =
    boundArrays name b remarks := by
  funext i
  match i with
  | 0 | 1 | 2 | 3 | _ + 4 => rfl

lemma update_boundArrays_three : Function.update (boundArrays name dataType remarks) 3 (some b) =
    boundArrays name dataType b := by
  funext i
  match i with
  | 0 | 1 | 2 | 3 | _ + 4 => rfl

end BoundArrays

/-- The bindings have some texts in the arrays. -/
def HoldsTexts (P : Platform) (before texts : ColumnTexts) (columnBindings : ColumnBindings) : Prop :=
  ∃ name dataType remarks, columnBindings = boundArrays name dataType remarks ∧
    name.buffer = (localArray .aiWchar).buffer ∧ dataType.buffer = (localArray .aiChar).buffer ∧
    remarks.buffer = (localArray .aiChar).buffer ∧
    bytesInArray P before.name stringBufferSize false name = some (Utf8.encode texts.name) ∧
    bytesInArray P before.name Utility.sqlNts true name = some (Utf8.encode texts.name) ∧
    (textInArray before.dataType dataType).take stringBufferSize = texts.dataType ∧
    (textInArray before.remarks remarks).take stringBufferSize = texts.remarks

/-- At first they hold what they happen to hold. -/
lemma holdsTexts_describeBindings (P : Platform) (before : ColumnTexts) :
    HoldsTexts P before before.read describeBindings := by
  refine ⟨_, _, _, ?_, rfl, rfl, rfl, rfl, rfl, rfl, rfl⟩
  funext i
  match i with
  | 0 | 1 | 2 | 3 | _ + 4 => rfl

/-! ## A row of a description -/

/-- A column that is put, or has nothing to put, is followed by the others. -/
lemma convertColumns_put {δ γ : Type} {columns : TimestreamColumns δ γ} {resultMeta : List γ}
    {row : List (Option δ)} {i : ℕ} {is : List ℕ} {columnBindings : ColumnBindings} {column : γ}
    {datum : Option δ} {b : ColumnBinding} {put : Put} (hpos : 1 ≤ i) (hlt : i < 65536)
    (hcolumn : resultMeta[i - 1]? = some column) (hdatum : row[i - 1]? = some datum)
    (hb : columnBindings i = some b) (hput : columns.readToBuffer column datum b.buffer = some put)
    (hresult : put.result = .aiSuccess ∨ put.result = .aiNoData) :
    DataQuery.convertColumns columns.readToBinding resultMeta (some row) (i :: is) columnBindings =
      DataQuery.convertColumns columns.readToBinding resultMeta (some row) is
        (Function.update columnBindings i (some (b.deliver put))) := by
  have hlength : i - 1 < resultMeta.length := (List.getElem?_eq_some_iff.mp hcolumn).1
  have hin : ¬ (resultMeta.length < i ∨ i < 1) := by omega
  have hconvert : DataQuery.convertColumn columns.readToBinding resultMeta (some row) i b =
      some (put.result, b.deliver put) := by
    unfold DataQuery.convertColumn TimestreamColumns.readToBinding
    simp only [hin, if_false, hcolumn, hdatum, Option.bind_some, hput, Option.map_some]
  rw [DataQuery.convertColumns, Nat.mod_eq_of_lt hlt, hb]
  simp only [hconvert]
  rcases hresult with hresult | hresult <;>
    simp [hresult, DataQuery.processConversionResult]

section Row

variable {C : Catalog} {P : ColumnPlatform} {column : ColumnDescription}

/-- A name is put into the array of wide characters. -/
lemma exists_read_name (h : IsDescription P.toPlatform column) :
    ∃ put, (timestreamColumns P).readToBuffer nameColumn (some (.scalar column.name))
        (localArray .aiWchar).buffer = some put ∧ put.result = .aiSuccess ∧
      put.stored = some (.units P.sqlWcharSize (column.name.map Char.toNat ++ [0])) ∧
        put.cellOffset = -1 := by
  have hrep : ∀ c ∈ column.name, OutChar.sqlWchar.represents P.toPlatform c := by
    intro c hc
    simp [OutChar.represents, h.wide c hc]
  exact exists_putStrToStrBuffer_whole h.nul hrep (fun heq => by cases heq) h.name_ne rfl rfl h.room

/-- A type, or remarks, are put into an array of characters if they are there. -/
lemma exists_read_chars (hnarrow : NarrowsAscii P.toPlatform) {text : Option Text}
    (htext : IsPrinted (text.getD [])) (hshort : (text.getD []).length < stringBufferSize) :
    ∃ put, (timestreamColumns P).readToBuffer nameColumn (text.map .scalar)
        (localArray .aiChar).buffer = some put ∧
      (put.result = .aiSuccess ∨ put.result = .aiNoData) ∧
      put.stored = (if text.getD [] = [] then none
        else some (.units 1 ((text.getD []).map Char.toNat ++ [0]))) ∧ put.cellOffset = -1 := by
  rcases text with _ | text
  · exact ⟨_, rfl, .inl rfl, rfl, rfl⟩
  · rcases eq_or_ne text [] with rfl | hne
    · refine ⟨⟨.aiNoData, none, none, -1⟩, ?_, .inr rfl, rfl, rfl⟩
      have hrequired : ApplicationDataBuffer.bytesRequired P.toPlatform .char [] = some 0 := by
        unfold ApplicationDataBuffer.bytesRequired
        split <;> rfl
      change ApplicationDataBuffer.putStrToStrBuffer P.toPlatform .char [] _ = _
      unfold ApplicationDataBuffer.putStrToStrBuffer
      rw [hrequired]
      rfl
    · obtain ⟨put, hput, hresult, hstored, hoffset⟩ := exists_put_printed hnarrow htext hne hshort
      refine ⟨put, hput, .inl hresult, ?_, hoffset⟩
      rw [hstored, Option.getD_some, if_neg hne]

/-- A name in the array of wide characters is read as it is. -/
lemma bytesInArray_units (h : IsDescription P.toPlatform column) {b : ColumnBinding}
    (hheld : b.held = some (.units P.sqlWcharSize (column.name.map Char.toNat ++ [0]))) (before : Text)
    {sqlStrLen : ℤ} {isLenInBytes : Bool}
    (hlen : sqlStrLen = Utility.sqlNts ∨ (if isLenInBytes then column.name.length * P.sqlWcharSize
      else column.name.length : ℕ) ≤ sqlStrLen) :
    bytesInArray P.toPlatform before sqlStrLen isLenInBytes b =
      some (Utf8.encode column.name) := by
  unfold bytesInArray
  rw [hheld]
  dsimp only
  rw [sqlWcharToString_codes P.toPlatform h.nul hlen, toBytes_eq_some_iff]
  refine ⟨column.name, ?_, rfl⟩
  apply List.map_congr_left
  intro c hc
  exact (mod_wcharSize_eq_iff P.toPlatform c).mpr (h.wide c hc).1

/-- A text in an array of characters that was put is read as it is, one that was not leaves what was
there. -/
lemma textInArray_deliver {text before : Text} (htext : IsPrinted text)
    (hshort : text.length < stringBufferSize) {b : ColumnBinding} {put : Put}
    (hstored : put.stored = if text = [] then none
      else some (.units 1 (text.map Char.toNat ++ [0]))) :
    (textInArray before (b.deliver put)).take stringBufferSize =
      if text = [] then (textInArray before b).take stringBufferSize else text := by
  have hheld := b.held_deliver put
  rw [hstored] at hheld
  split at hheld
  · next hnil =>
    have hsame : textInArray before (b.deliver put) = textInArray before b := by
      unfold textInArray ColumnBinding.charText
      rw [hheld, Option.none_or]
    rw [if_pos hnil, hsame]
  · next hne =>
    rw [Option.some_or] at hheld
    rw [if_neg hne, textInArray, if_neg (by rw [hheld]; exact Option.some_ne_none _),
      charText_units htext hheld, List.take_of_length_le hshort.le]

/-- A row of a description is converted into the arrays. -/
lemma convertRow_description (hnarrow : NarrowsAscii P.toPlatform)
    {source : DataSource Datum ColumnInfo} (hcolumns : source.columns = timestreamColumns P)
    (h : IsDescription P.toPlatform column) {before texts : ColumnTexts}
    {columnBindings : ColumnBindings} (hholds : HoldsTexts P.toPlatform before texts columnBindings) :
    ∃ columnBindings', DataQuery.convertRow source.env descriptionColumns (some column.row)
        columnBindings = (some .aiSuccess, [], columnBindings') ∧
      HoldsTexts P.toPlatform before (texts.next column) columnBindings' := by
  obtain ⟨name, dataType, remarks, rfl, hname, hdataType, hremarks, -, -, -, htext⟩ := hholds
  have hshort : shortBufferSize ≤ stringBufferSize := by decide
  obtain ⟨put, hput, hresult, hstored, hoffset⟩ := exists_read_name h
  obtain ⟨put', hput', hresult', hstored', hoffset'⟩ :=
    @exists_read_chars _ hnarrow (some column.dataType) h.dataType
      (h.dataType_room.trans_le hshort)
  obtain ⟨put'', hput'', hresult'', hstored'', hoffset''⟩ :=
    exists_read_chars hnarrow h.remarks (h.remarks_room.trans_le hshort)
  rw [← hname] at hput
  rw [← hdataType] at hput'
  rw [← hremarks] at hput''
  have hheld : (name.deliver put).held =
      some (.units P.sqlWcharSize (column.name.map Char.toNat ++ [0])) := by
    rw [ColumnBinding.held_deliver, hstored, Option.some_or]
  have hlength : column.name.length ≤ stringBufferSize :=
    (Utf8.length_le_length_encode _).trans h.bytes
  refine ⟨boundArrays (name.deliver put) (dataType.deliver put') (remarks.deliver put''), ?_,
    _, _, _, rfl, ColumnBinding.buffer_deliver_local hname hoffset,
    ColumnBinding.buffer_deliver_local hdataType hoffset',
    ColumnBinding.buffer_deliver_local hremarks hoffset'', ?_, ?_, ?_, ?_⟩
  · change DataQuery.convertColumns source.columns.readToBinding descriptionColumns (some column.row)
      [1, 2, 3] _ = _
    rw [hcolumns,
      convertColumns_put le_rfl (by decide) rfl rfl rfl hput (.inl hresult), update_boundArrays_one,
      convertColumns_put (by decide) (by decide) rfl rfl rfl hput' hresult', update_boundArrays_two,
      convertColumns_put (by decide) (by decide) rfl rfl rfl hput'' hresult'', update_boundArrays_three]
    rfl
  · exact bytesInArray_units h hheld _ (.inr (Int.ofNat_le.mpr hlength))
  · exact bytesInArray_units h hheld _ (.inl rfl)
  · rw [textInArray_deliver h.dataType (h.dataType_room.trans_le hshort) hstored']
    exact if_neg h.dataType_ne
  · rw [textInArray_deliver h.remarks (h.remarks_room.trans_le hshort) hstored'', htext]
    rfl

end Row

/-! ## The columns of one table -/

/-- Whether the loop over the rows takes a column. -/
def Takes (column name : Text) : Prop := column = ['%'] ∨ column = name

instance (column name : Text) : Decidable (Takes column name) :=
  inferInstanceAs (Decidable (_ ∨ _))

/-- The rows of columns with given positions. -/
def columnMetas (C : Catalog) (databaseName tableName : Text) (columns : List (ColumnTexts × ℕ)) :
    List ColumnMeta :=
  columns.map fun (texts, position) => C.columnMeta databaseName tableName texts position

/-- The rows that are collected from a description: those of the columns that are taken, which are
counted. -/
def shownColumns (C : Catalog) (before : ColumnTexts) (column databaseName tableName : Text)
    (columns : List ColumnDescription) : List ColumnMeta :=
  C.columnMetas databaseName tableName
    (((statesAfter ColumnTexts.next before.read columns).filter fun texts =>
      Takes column texts.name).zipIdx 1)

section Table

variable {C : Catalog} {before : ColumnTexts} {column databaseName tableName : Text}

/-- The filter looks at the name in the array. -/
lemma columnMatches_of_holds {texts : ColumnTexts} {columnBindings : ColumnBindings}
    (h : HoldsTexts C.platform.toPlatform before texts columnBindings) :
    C.columnMatches before column columnBindings = some (decide (Takes column texts.name)) := by
  obtain ⟨name, dataType, remarks, rfl, -, -, -, hbytes, -⟩ := h
  unfold columnMatches Takes
  by_cases hall : column = ['%']
  · simp [hall]
  · have hone : boundArrays name dataType remarks 1 = some name := rfl
    rw [if_neg hall, hone, Option.bind_some, hbytes, Option.map_some]
    simp [hall, encode_injective.eq_iff]

/-- The texts in the arrays are read from them. -/
lemma readTexts_of_holds {texts : ColumnTexts} {columnBindings : ColumnBindings}
    (h : HoldsTexts C.platform.toPlatform before texts columnBindings)
    (hshort : (Utf8.encode texts.name).length ≤ stringBufferSize) :
    C.readTexts before columnBindings = some texts := by
  obtain ⟨name, dataType, remarks, rfl, -, -, -, -, hbytes, hdataType, hremarks⟩ := h
  have hdecode : Utf8.decode (fun _ => true) (Utf8.encode texts.name) = some texts.name := by
    rw [Utf8.decode_encode, if_pos (by simp)]
  simp only [readTexts, boundArrays, Option.bind_some, hbytes, List.take_of_length_le hshort, hdecode,
    Option.map_some, hdataType, hremarks]

/-- The columns that are taken are collected with the texts in the arrays. -/
lemma collectColumns_of_holds {states : List ColumnTexts} {bindings : List ColumnBindings}
    (h : List.Forall₂ (HoldsTexts C.platform.toPlatform before) states bindings)
    (hshort : ∀ texts ∈ states, (Utf8.encode texts.name).length ≤ stringBufferSize) (n : ℕ) :
    C.collectColumns before column databaseName tableName n bindings =
      some (C.columnMetas databaseName tableName
        ((states.filter fun texts => Takes column texts.name).zipIdx (n + 1))) := by
  induction h generalizing n with
  | nil => rfl
  | @cons texts columnBindings states bindings hholds _ ih =>
    have hrest := ih fun texts hmem => hshort texts (List.mem_cons_of_mem _ hmem)
    rw [collectColumns, columnMatches_of_holds hholds, Option.bind_some]
    by_cases htakes : Takes column texts.name
    · have hnext := hrest (n + 1)
      rw [Nat.cast_add, Nat.cast_one] at hnext
      rw [if_pos (decide_eq_true htakes), readTexts_of_holds hholds (hshort texts List.mem_cons_self),
        Option.bind_some, hnext, List.filter_cons_of_pos (by simpa using htakes), List.zipIdx_cons]
      simp [columnMetas]
    · rw [if_neg (by simpa using htakes), hrest, List.filter_cons_of_neg (by simpa using htakes)]

/-- The name in the arrays after a row is that of its column. -/
lemma exists_of_mem_statesAfter {columns : List ColumnDescription} {texts first : ColumnTexts}
    (h : texts ∈ statesAfter ColumnTexts.next first columns) :
    ∃ described ∈ columns, texts.name = described.name := by
  induction columns generalizing first with
  | nil => cases h
  | cons described columns ih =>
    rcases List.mem_cons.mp h with rfl | hmem
    · exact ⟨described, List.mem_cons_self, rfl⟩
    · obtain ⟨other, hother, hname⟩ := ih hmem
      exact ⟨other, List.mem_cons_of_mem _ hother, hname⟩

/-- What describing a table comes to: no data when it has no columns. -/
lemma exists_columnsOfTable (hnarrow : NarrowsAscii C.platform.toPlatform)
    {columns : List ColumnDescription}
    (hcolumns : ∀ described ∈ columns, IsDescription C.platform.toPlatform described)
    (h : C.Answers (describeSql databaseName tableName) descriptionColumns
      (columns.map ColumnDescription.row)) (rows : List ColumnMeta) :
    ∃ listing, C.makeRequestGetColumnsMetaPerTable before column rows databaseName tableName =
        some listing ∧
      listing.rows = rows ++ C.shownColumns before column databaseName tableName columns ∧
      listing.result = if columns = [] then .aiNoData
        else if listing.rows = [] then .aiSuccessWithInfo else .aiSuccess := by
  unfold makeRequestGetColumnsMetaPerTable
  rcases h.execute with ⟨hnone, q, hexecute⟩ | ⟨hsome, hfuel, q, hexecute, hawaits⟩
  · obtain rfl := List.map_eq_nil_iff.mp hnone
    rw [hexecute]
    exact ⟨_, rfl, (List.append_nil rows).symm, rfl⟩
  · have hne : columns ≠ [] := fun hnil => hsome (List.map_eq_nil_iff.mpr hnil)
    rw [List.length_map] at hfuel
    obtain ⟨records, bindings, hloop, hbindings⟩ := fetchRows_of_awaits
      (fun described hmem _ columnBindings hholds =>
        convertRow_description hnarrow rfl (hcolumns described hmem) hholds)
      (holdsTexts_describeBindings C.platform.toPlatform before) hawaits hfuel
    have hshort : ∀ texts ∈ statesAfter ColumnTexts.next before.read columns,
        (Utf8.encode texts.name).length ≤ stringBufferSize := by
      intro texts hmem
      obtain ⟨described, hdescribed, hname⟩ := exists_of_mem_statesAfter hmem
      rw [hname]
      exact (hcolumns described hdescribed).bytes
    have hcollect := @collectColumns_of_holds C before column databaseName tableName _ _ hbindings
      hshort 0
    rw [Nat.cast_zero, Nat.zero_add] at hcollect
    have hshown : C.columnMetas databaseName tableName
        (((statesAfter ColumnTexts.next before.read columns).filter fun texts =>
          Takes column texts.name).zipIdx 1) =
            C.shownColumns before column databaseName tableName columns := rfl
    rw [hexecute]
    simp only [Option.bind_some, ne_eq, not_true_eq_false, if_false, hloop, hcollect, Option.map_some,
      hshown, hne]
    by_cases hnil : rows ++ C.shownColumns before column databaseName tableName columns = []
    · refine ⟨_, by rw [if_pos hnil], hnil.symm, ?_⟩
      rw [if_pos rfl]
    · refine ⟨_, by rw [if_neg hnil], rfl, ?_⟩
      rw [if_neg hnil]

end Table

/-! ## The columns of all tables -/

section Tables

variable {C : Catalog} {before : Text → Text → ColumnTexts} {column : Text}
  {describe : Text × Text → List ColumnDescription}

/-- The service describes some tables. -/
def Describes (C : Catalog) (describe : Text × Text → List ColumnDescription)
    (pairs : List (Text × Text)) : Prop :=
  ∀ pair ∈ pairs, (∀ described ∈ describe pair, IsDescription C.platform.toPlatform described) ∧
    C.Answers (describeSql pair.1 pair.2) descriptionColumns
      ((describe pair).map ColumnDescription.row)

/-- The rows that are collected from the description of a table. -/
def shownOf (C : Catalog) (before : Text → Text → ColumnTexts) (column : Text)
    (describe : Text × Text → List ColumnDescription) (pair : Text × Text) : List ColumnMeta :=
  C.shownColumns (before pair.1 pair.2) column pair.1 pair.2 (describe pair)

/-- What the loop over the tables comes to: it ends with no data at the first table that has no
columns. -/
lemma exists_columnsOfTables (hnarrow : NarrowsAscii C.platform.toPlatform)
    {pairs : List (Text × Text)} (hnames : ∀ pair ∈ pairs, IsName pair.1 ∧ IsName pair.2)
    (h : C.Describes describe pairs) {fuel : ℕ} (hfuel : pairs.length < fuel)
    {previous : Text × Text} {columnBindings : ColumnBindings}
    (hholds : C.HoldsPair previous columnBindings) {q : TableMetadataQuery} (hq : C.HasPairs pairs q)
    (listing : Listing ColumnMeta) :
    ∃ listing', C.columnsOfTables before column fuel columnBindings q listing = some listing' ∧
      listing'.rows = listing.rows ++
        (pairs.takeWhile fun pair => !(describe pair).isEmpty).flatMap
          (C.shownOf before column describe) ∧
      listing'.result = if ∃ pair ∈ pairs, describe pair = [] then .aiNoData
        else if pairs = [] then listing.result
        else if listing'.rows = [] then .aiSuccessWithInfo else .aiSuccess := by
  induction pairs generalizing fuel previous columnBindings q listing with
  | nil =>
    obtain ⟨fuel, rfl⟩ : ∃ n, fuel = n + 1 := ⟨fuel - 1, by simp at hfuel; omega⟩
    obtain ⟨q', hfetch⟩ := hq.fetchNextRow_nil C.platform.toPlatform columnBindings
    refine ⟨_, by rw [columnsOfTables, hfetch]; rfl, by simp, by simp⟩
  | cons pair pairs ih =>
    obtain ⟨fuel, rfl⟩ : ∃ n, fuel = n + 1 := ⟨fuel - 1, by simp at hfuel; omega⟩
    obtain ⟨hdatabase, htable⟩ := hnames pair List.mem_cons_self
    obtain ⟨columnBindings', q', hfetch, hq', hholds'⟩ :=
      hq.fetchNextRow_cons hnarrow hdatabase htable hholds
    obtain ⟨database, table, rfl, -, -, hfirst, hsecond⟩ := id hholds'
    obtain ⟨hdescribed, hanswers⟩ := h pair List.mem_cons_self
    obtain ⟨described, htables, hrows, hresult⟩ := @exists_columnsOfTable C
      (before pair.1 pair.2) column pair.1 pair.2 hnarrow _ hdescribed hanswers listing.rows
    rw [columnsOfTables, hfetch]
    simp only [Option.bind_some, if_true, boundPair_databaseType, boundPair_three, Option.elim_some,
      hfirst, hsecond, htables]
    by_cases hnone : describe pair = []
    · rw [if_pos hnone] at hresult
      have hshown : C.shownColumns (before pair.1 pair.2) column pair.1 pair.2 (describe pair) = [] := by
        rw [hnone]
        rfl
      refine ⟨_, if_pos (by simp [hresult]), ?_, ?_⟩
      · rw [List.takeWhile_cons_of_neg (by simp [hnone])]
        simp [hrows, hshown]
      · rw [if_pos ⟨pair, List.mem_cons_self, hnone⟩]
        exact hresult
    · rw [if_neg hnone] at hresult
      obtain ⟨listing', hloop, hrows', hresult'⟩ := ih
        (fun other hmem => hnames other (List.mem_cons_of_mem _ hmem))
        (fun other hmem => h other (List.mem_cons_of_mem _ hmem)) (Nat.lt_of_succ_lt_succ hfuel) hholds'
        hq' { described with records := listing.records ++ [] ++ described.records }
      refine ⟨listing', ?_, ?_, ?_⟩
      · rw [if_neg (by split at hresult <;> simp [hresult]), hloop]
      · rw [hrows', List.takeWhile_cons_of_pos (by simpa using hnone), List.flatMap_cons, hrows,
          List.append_assoc]
        rfl
      · rw [hresult', if_neg (List.cons_ne_nil _ _)]
        have hothers : (∃ other ∈ pair :: pairs, describe other = []) ↔
            ∃ other ∈ pairs, describe other = [] := by
          simp [hnone]
        simp only [hothers]
        split
        · rfl
        · split
          · next hnil =>
            have hsame : listing'.rows = described.rows := by simp [hrows', hnil]
            rw [hsame]
            exact hresult
          · rfl

end Tables

end Catalog

end TimestreamOdbc
