import TimestreamOdbc.Query.RowConversion
import TimestreamOdbc.Lib.TransitionSystem
import Mathlib.Data.List.Indexes

/-!
# Discovering columns in any order

`EnsureColumnDiscovered` fills the vector of the columns up to the requested one, by a loop that goes
on where the vector ends.  Here the vector holds the column objects themselves, with the index and the
metadata they were built from, and a cursor is followed through any sequence of moves and reads.

The column that is read depends on the index alone: the vector is at every time a beginning of the
one vector of all columns.
-/

namespace TimestreamOdbc

variable {δ γ B : Type}

/-- `TimestreamColumn`: the index, which starts from 0, and the metadata it was built with. -/
structure TimestreamColumn (γ : Type) where
  columnIdx : ℕ
  columnMeta : γ
  deriving DecidableEq, Repr

namespace TimestreamCursor

/-- The loop of `EnsureColumnDiscovered`: so many more columns are built, from `index` on.  An index
behind the end of the metadata, which the source leaves undefined, gives nothing. -/
def discoverColumns (columnMetadataVec : List γ) :
    ℕ → ℕ → List (TimestreamColumn γ) → Option (List (TimestreamColumn γ))
  | 0, _, columns => some columns
  | count + 1, index, columns =>
    columnMetadataVec[index]?.bind fun columnMeta =>
      discoverColumns columnMetadataVec count (index + 1) (columns ++ [⟨index, columnMeta⟩])

/-- `EnsureColumnDiscovered` on a vector of column objects.  The size of the vector is taken into a
variable of 32 bits. -/
def discover (columnMetadataVec : List γ) (columnIdx : UInt32)
    (c : TimestreamCursor δ (TimestreamColumn γ)) :
    Option (Bool × TimestreamCursor δ (TimestreamColumn γ)) :=
  if columnMetadataVec.length < columnIdx.toNat ∨ columnIdx.toNat < 1 then some (false, c)
  else if c.columns.length = columnMetadataVec.length then some (true, c)
  else
    let index := c.columns.length % 2 ^ 32
    (discoverColumns columnMetadataVec (columnIdx.toNat - index) index c.columns).map
      fun columns => (true, { c with columns })

/-- `ReadColumnToBuffer` on a vector of column objects.  What the inner option means is said at
`readColumnToBuffer`; the outer one is empty when the discovery is undefined. -/
def readDiscovered (readToBuffer : TimestreamColumn γ → δ → B → Option (ConversionResult × B))
    (columnMetadataVec : List γ) (columnIdx : UInt32) (dataBuf : B)
    (c : TimestreamCursor δ (TimestreamColumn γ)) :
    Option (Option (ConversionResult × B) × TimestreamCursor δ (TimestreamColumn γ)) :=
  (c.discover columnMetadataVec columnIdx).map fun
    | (false, c) => (some (.aiFailure, dataBuf), c)
    | (true, c) =>
      (c.columns[columnIdx.toNat - 1]?.bind fun column =>
        (c.currentRow.bind fun row => row[columnIdx.toNat - 1]?).bind fun datum =>
          readToBuffer column datum dataBuf, c)

/-- What is done with a cursor: it is moved, or a column is read into a buffer. -/
inductive Access (B : Type) where
  | increment
  | read (columnIdx : UInt32) (dataBuf : B)

/-- One access, for the cursor it leaves behind.  A read that fails, or is undefined at its datum,
does not stop the accesses after it. -/
def access (readToBuffer : TimestreamColumn γ → δ → B → Option (ConversionResult × B))
    (columnMetadataVec : List γ) (c : TimestreamCursor δ (TimestreamColumn γ)) :
    Access B → Option (TimestreamCursor δ (TimestreamColumn γ))
  | .increment => some c.increment.2
  | .read columnIdx dataBuf =>
    (c.readDiscovered readToBuffer columnMetadataVec columnIdx dataBuf).map (·.2)

/-- The columns of all the metadata. -/
def allColumns (columnMetadataVec : List γ) : List (TimestreamColumn γ) :=
  columnMetadataVec.mapIdx TimestreamColumn.mk

/-- There is a column for each metadata. -/
@[simp] lemma length_allColumns (columnMetadataVec : List γ) :
    (allColumns columnMetadataVec).length = columnMetadataVec.length :=
  List.length_mapIdx

/-- The column at an index is built from the index and the metadata there. -/
lemma getElem?_allColumns (columnMetadataVec : List γ) (k : ℕ) :
    (allColumns columnMetadataVec)[k]? = columnMetadataVec[k]?.map (TimestreamColumn.mk k) :=
  List.getElem?_mapIdx

/-- The metadata of all columns is the metadata. -/
lemma map_columnMeta_allColumns (columnMetadataVec : List γ) :
    (allColumns columnMetadataVec).map TimestreamColumn.columnMeta = columnMetadataVec := by
  apply List.ext_getElem?
  intro k
  rw [List.getElem?_map, getElem?_allColumns, Option.map_map]
  exact Option.map_id'

/-- The invariant of the accesses: the discovered columns are the first ones of all columns, and an
index of 32 bits counts them. -/
structure Discovered (columnMetadataVec : List γ) (c : TimestreamCursor δ (TimestreamColumn γ)) :
    Prop where
  isPrefix : c.columns <+: allColumns columnMetadataVec
  length_lt : c.columns.length < 2 ^ 32

/-- A new cursor has discovered nothing. -/
lemma discovered_ofRows (columnMetadataVec : List γ) (rows : List (List δ)) :
    (ofRows rows : TimestreamCursor δ (TimestreamColumn γ)).Discovered columnMetadataVec :=
  ⟨List.nil_prefix, by simp [ofRows]⟩

/-- The loop, started where the beginning of the columns ends, makes the beginning longer. -/
lemma discoverColumns_eq (columnMetadataVec : List γ) (count : ℕ) {index : ℕ}
    (hle : index + count ≤ columnMetadataVec.length) :
    discoverColumns columnMetadataVec count index ((allColumns columnMetadataVec).take index) =
      some ((allColumns columnMetadataVec).take (index + count)) := by
  induction count generalizing index with
  | zero => rfl
  | succ count ih =>
    have hlt : index < columnMetadataVec.length := by omega
    have hnext : (allColumns columnMetadataVec).take index ++ [⟨index, columnMetadataVec[index]⟩] =
        (allColumns columnMetadataVec).take (index + 1) := by
      rw [List.take_add_one, getElem?_allColumns, List.getElem?_eq_getElem hlt]
      rfl
    rw [discoverColumns, List.getElem?_eq_getElem hlt, Option.bind_some, hnext, ih (by omega)]
    congr 2
    omega

/-- Discovering a column in any state: what is returned depends on the index alone, and the vector
becomes a beginning of the columns that reaches up to the requested one. -/
lemma Discovered.discover {columnMetadataVec : List γ}
    {c : TimestreamCursor δ (TimestreamColumn γ)} (h : c.Discovered columnMetadataVec)
    (columnIdx : UInt32) :
    ∃ columns, c.discover columnMetadataVec columnIdx =
        some (decide (1 ≤ columnIdx.toNat ∧ columnIdx.toNat ≤ columnMetadataVec.length),
          { c with columns }) ∧
      ({ c with columns } : TimestreamCursor δ (TimestreamColumn γ)).Discovered columnMetadataVec ∧
      (columnIdx.toNat ≤ columnMetadataVec.length → columnIdx.toNat ≤ columns.length) := by
  have hlength : c.columns.length ≤ columnMetadataVec.length := by
    simpa using h.isPrefix.length_le
  unfold TimestreamCursor.discover
  by_cases hin : columnMetadataVec.length < columnIdx.toNat ∨ columnIdx.toNat < 1
  · refine ⟨c.columns, ?_, h, by omega⟩
    rw [if_pos hin, decide_eq_false (by omega)]
  rw [if_neg hin, decide_eq_true (by omega)]
  by_cases hall : c.columns.length = columnMetadataVec.length
  · exact ⟨c.columns, by rw [if_pos hall], h, by omega⟩
  · have hcolumns : c.columns = (allColumns columnMetadataVec).take c.columns.length :=
      List.prefix_iff_eq_take.mp h.isPrefix
    have hindex : c.columns.length % 2 ^ 32 = c.columns.length := Nat.mod_eq_of_lt h.length_lt
    have hidx := columnIdx.toNat_lt
    have hrun := discoverColumns_eq columnMetadataVec (columnIdx.toNat - c.columns.length)
      (show c.columns.length + (columnIdx.toNat - c.columns.length) ≤ _ by omega)
    rw [← hcolumns] at hrun
    rw [if_neg hall]
    simp only [hindex, hrun, Option.map_some]
    have hnew : ((allColumns columnMetadataVec).take
        (c.columns.length + (columnIdx.toNat - c.columns.length))).length =
          c.columns.length + (columnIdx.toNat - c.columns.length) := by
      rw [List.length_take, length_allColumns]
      omega
    refine ⟨_, rfl, ⟨List.take_prefix _ _, ?_⟩, fun _ => ?_⟩
    · have := h.length_lt
      rw [hnew]
      omega
    · rw [hnew]
      omega
/-- The cursor that keeps of each column its metadata only. -/
def metadataOnly (c : TimestreamCursor δ (TimestreamColumn γ)) : TimestreamCursor δ γ :=
  { c with columns := c.columns.map TimestreamColumn.columnMeta }

/-- Discovering column objects refines discovering metadata. -/
lemma Discovered.metadataOnly_discover {columnMetadataVec : List γ}
    {c : TimestreamCursor δ (TimestreamColumn γ)} (h : c.Discovered columnMetadataVec)
    (columnIdx : UInt32) :
    (c.discover columnMetadataVec columnIdx).map (fun r => (r.1, r.2.metadataOnly)) =
      some (c.metadataOnly.ensureColumnDiscovered columnMetadataVec columnIdx.toNat) := by
  have hcolumns : c.columns = (allColumns columnMetadataVec).take c.columns.length :=
    List.prefix_iff_eq_take.mp h.isPrefix
  have hlength : c.metadataOnly.columns.length = c.columns.length := List.length_map ..
  unfold TimestreamCursor.discover ensureColumnDiscovered
  by_cases hin : columnMetadataVec.length < columnIdx.toNat ∨ columnIdx.toNat < 1
  · rw [if_pos hin, if_pos hin]
    rfl
  rw [if_neg hin, if_neg hin, hlength]
  by_cases hall : c.columns.length = columnMetadataVec.length
  · rw [if_pos hall, if_pos hall]
    rfl
  have hle : c.columns.length ≤ columnMetadataVec.length := by simpa using h.isPrefix.length_le
  have hrun := discoverColumns_eq columnMetadataVec (columnIdx.toNat - c.columns.length)
    (show c.columns.length + (columnIdx.toNat - c.columns.length) ≤ _ by omega)
  rw [← hcolumns] at hrun
  have hold : c.metadataOnly.columns = columnMetadataVec.take c.columns.length := by
    rw [metadataOnly, hcolumns, List.map_take, map_columnMeta_allColumns, ← hcolumns]
  rw [if_neg hall, if_neg hall, hold, ← List.take_add]
  simp only [Nat.mod_eq_of_lt h.length_lt, hrun, Option.map_some]
  rw [metadataOnly, List.map_take, map_columnMeta_allColumns]
  rfl

/-- Reading a column in any state: the datum at its place in the current row is read by the column at
its place among all columns. -/
lemma Discovered.readDiscovered {columnMetadataVec : List γ}
    {c : TimestreamCursor δ (TimestreamColumn γ)} (h : c.Discovered columnMetadataVec)
    (readToBuffer : TimestreamColumn γ → δ → B → Option (ConversionResult × B))
    (columnIdx : UInt32) (dataBuf : B) :
    ∃ columns, c.readDiscovered readToBuffer columnMetadataVec columnIdx dataBuf =
        some (if 1 ≤ columnIdx.toNat ∧ columnIdx.toNat ≤ columnMetadataVec.length then
          columnMetadataVec[columnIdx.toNat - 1]?.bind fun columnMeta =>
            (c.currentRow.bind fun row => row[columnIdx.toNat - 1]?).bind fun datum =>
              readToBuffer ⟨columnIdx.toNat - 1, columnMeta⟩ datum dataBuf
          else some (.aiFailure, dataBuf), { c with columns }) ∧
      ({ c with columns } : TimestreamCursor δ (TimestreamColumn γ)).Discovered
        columnMetadataVec := by
  obtain ⟨columns, hdiscover, hcolumns, hreach⟩ := h.discover columnIdx
  refine ⟨columns, ?_, hcolumns⟩
  rw [TimestreamCursor.readDiscovered, hdiscover, Option.map_some]
  by_cases hin : 1 ≤ columnIdx.toNat ∧ columnIdx.toNat ≤ columnMetadataVec.length
  · have hcolumn : columns[columnIdx.toNat - 1]? =
        columnMetadataVec[columnIdx.toNat - 1]?.map (TimestreamColumn.mk (columnIdx.toNat - 1)) := by
      obtain ⟨rest, hrest⟩ := hcolumns.isPrefix
      have hlt : columnIdx.toNat - 1 < columns.length := by have := hreach hin.2; omega
      rw [← getElem?_allColumns, ← hrest, List.getElem?_append_left hlt]
    rw [decide_eq_true hin, if_pos hin]
    simp only [hcolumn, Option.bind_map]
    rfl
  · rw [decide_eq_false hin, if_neg hin]

/-! ## Any sequence of accesses -/

/-- What the accesses keep: the rows of the page, and the invariants of the position and of the
columns. -/
structure Accessible (columnMetadataVec : List γ) (rowVec : List (List δ))
    (c : TimestreamCursor δ (TimestreamColumn γ)) : Prop where
  rowVec_eq : c.rowVec = rowVec
  wellPlaced : c.WellPlaced
  discovered : c.Discovered columnMetadataVec

/-- An access is always possible, and keeps the invariants. -/
lemma Accessible.access {columnMetadataVec : List γ} {rowVec : List (List δ)}
    {c : TimestreamCursor δ (TimestreamColumn γ)} (h : c.Accessible columnMetadataVec rowVec)
    (readToBuffer : TimestreamColumn γ → δ → B → Option (ConversionResult × B)) (a : Access B) :
    ∃ c', c.access readToBuffer columnMetadataVec a = some c' ∧
      c'.Accessible columnMetadataVec rowVec ∧
      c'.curPos = c.curPos + (match a with | .increment => 1 | .read .. => 0) := by
  cases a with
  | increment =>
    exact ⟨c.moved, rfl, ⟨h.rowVec_eq, h.wellPlaced.moved,
      ⟨h.discovered.isPrefix, h.discovered.length_lt⟩⟩, rfl⟩
  | read columnIdx dataBuf =>
    obtain ⟨columns, hread, hcolumns⟩ :=
      h.discovered.readDiscovered readToBuffer columnIdx dataBuf
    refine ⟨{ c with columns }, ?_, ⟨h.rowVec_eq, h.wellPlaced, hcolumns⟩, rfl⟩
    rw [TimestreamCursor.access, hread]
    rfl

/-- The number of moves among the accesses. -/
def moves (accesses : List (Access B)) : ℕ :=
  accesses.countP fun | .increment => true | .read .. => false

/-- Any sequence of accesses is possible, and keeps the invariants. -/
lemma Accessible.run {columnMetadataVec : List γ} {rowVec : List (List δ)}
    (readToBuffer : TimestreamColumn γ → δ → B → Option (ConversionResult × B))
    (accesses : List (Access B)) {c : TimestreamCursor δ (TimestreamColumn γ)}
    (h : c.Accessible columnMetadataVec rowVec) :
    ∃ c', TransitionSystem.run (TimestreamCursor.access readToBuffer columnMetadataVec) c accesses =
        some c' ∧
      c'.Accessible columnMetadataVec rowVec ∧ c'.curPos = c.curPos + moves accesses := by
  induction accesses generalizing c with
  | nil => exact ⟨c, rfl, h, rfl⟩
  | cons a accesses ih =>
    obtain ⟨c₁, hstep, h₁, hpos₁⟩ := h.access readToBuffer a
    obtain ⟨c₂, hrun, h₂, hpos₂⟩ := ih h₁
    refine ⟨c₂, TransitionSystem.run_cons_eq_some.mpr ⟨c₁, hstep, hrun⟩, h₂, ?_⟩
    rw [hpos₂, hpos₁, moves, moves, List.countP_cons]
    cases a with
    | increment => simp; omega
    | read columnIdx dataBuf => simp

/-- After any sequence of moves and reads of columns, in range or not, through one cursor: the
discovered columns are a beginning of the columns of all the metadata, each with its own index and
metadata; a column is discovered exactly when its index, which starts from 1, is one of a column; and
reading it decodes the datum at its place in the current row by the column of the metadata at the same
place. The current row is the one that was moved to. -/
theorem columns_read_in_any_order
    (readToBuffer : TimestreamColumn γ → δ → B → Option (ConversionResult × B))
    (columnMetadataVec : List γ) (rowVec : List (List δ)) (accesses : List (Access B)) :
    ∃ c, TransitionSystem.run (access readToBuffer columnMetadataVec) (ofRows rowVec) accesses =
        some c ∧
      c.currentRow = rowVec[moves accesses - 1]? ∧
      c.columns.map TimestreamColumn.columnMeta <+: columnMetadataVec ∧
      (∀ (k : ℕ) (column : TimestreamColumn γ), c.columns[k]? = some column →
        column.columnIdx = k ∧ columnMetadataVec[k]? = some column.columnMeta) ∧
      (∀ columnIdx, (c.discover columnMetadataVec columnIdx).map (·.1) =
        some (decide (1 ≤ columnIdx.toNat ∧ columnIdx.toNat ≤ columnMetadataVec.length))) ∧
      ∀ columnIdx dataBuf,
        (c.readDiscovered readToBuffer columnMetadataVec columnIdx dataBuf).map (·.1) =
          some (if 1 ≤ columnIdx.toNat ∧ columnIdx.toNat ≤ columnMetadataVec.length then
            columnMetadataVec[columnIdx.toNat - 1]?.bind fun columnMeta =>
              (rowVec[moves accesses - 1]?.bind fun row => row[columnIdx.toNat - 1]?).bind
                fun datum => readToBuffer ⟨columnIdx.toNat - 1, columnMeta⟩ datum dataBuf
            else some (.aiFailure, dataBuf)) := by
  have hnew : (ofRows rowVec : TimestreamCursor δ (TimestreamColumn γ)).Accessible
      columnMetadataVec rowVec :=
    ⟨rfl, wellPlaced_ofRows rowVec, discovered_ofRows columnMetadataVec rowVec⟩
  obtain ⟨c, hrun, h, hpos⟩ := hnew.run readToBuffer accesses
  have hrow : c.currentRow = rowVec[moves accesses - 1]? := by
    have hiterator := h.wellPlaced
    have hcurPos : c.curPos = moves accesses := by simpa [ofRows] using hpos
    rw [WellPlaced, hcurPos, h.rowVec_eq] at hiterator
    rw [currentRow, h.rowVec_eq, hiterator]
    by_cases hlt : moves accesses - 1 < rowVec.length
    · rw [Nat.min_eq_left hlt.le]
    · rw [Nat.min_eq_right (Nat.le_of_not_lt hlt), List.getElem?_eq_none le_rfl,
        List.getElem?_eq_none (Nat.le_of_not_lt hlt)]
  refine ⟨c, hrun, hrow, ?_, ?_, ?_, ?_⟩
  · rw [← map_columnMeta_allColumns columnMetadataVec]
    exact h.discovered.isPrefix.map _
  · intro k column hcolumn
    have hall : (allColumns columnMetadataVec)[k]? = some column := by
      obtain ⟨rest, hrest⟩ := h.discovered.isPrefix
      rw [← hrest, List.getElem?_append_left (List.getElem?_eq_some_iff.mp hcolumn).1, hcolumn]
    rw [getElem?_allColumns, Option.map_eq_some_iff] at hall
    obtain ⟨columnMeta, hmeta, rfl⟩ := hall
    exact ⟨rfl, hmeta⟩
  · intro columnIdx
    obtain ⟨columns, hdiscover, -⟩ := h.discovered.discover columnIdx
    rw [hdiscover]
    rfl
  · intro columnIdx dataBuf
    obtain ⟨columns, hread, -⟩ := h.discovered.readDiscovered readToBuffer columnIdx dataBuf
    rw [hread, ← hrow]
    rfl

end TimestreamCursor

end TimestreamOdbc
