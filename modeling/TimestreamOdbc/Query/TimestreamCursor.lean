import TimestreamOdbc.CommonTypes
import Mathlib.Data.List.Basic

/-!
# The page cursor

`TimestreamCursor` walks the rows of one page.  The position counts from 1: a new cursor stands
before its first row, `Increment` moves on, and the row iterator follows one position behind so
that position `n` reads row `n - 1`.

The column metadata is a reference to the metadata of the query and is passed to the functions
that read it.  Data (`δ`), column metadata (`γ`) and application buffers (`B`) are arbitrary here;
the decoding of one datum into one buffer is a parameter.
-/

namespace TimestreamOdbc

/-- `TimestreamCursor`: the rows of a page, the row iterator, the position, and the columns
discovered so far.  The source's position is an `int`. -/
structure TimestreamCursor (δ γ : Type) where
  rowVec : List (List δ)
  iterator : ℕ
  curPos : ℕ
  columns : List γ
  deriving DecidableEq, Repr

namespace TimestreamCursor

variable {δ γ B : Type}

/-- A new cursor over the rows of a page, before the first row. -/
def ofRows (rowVec : List (List δ)) : TimestreamCursor δ γ :=
  { rowVec, iterator := 0, curPos := 0, columns := [] }

/-- `TimestreamCursor::HasData`. -/
def hasData (c : TimestreamCursor δ γ) : Bool :=
  decide (c.curPos ≤ c.rowVec.length)

/-- The cursor part of `TimestreamCursor::Increment`: after the first call the iterator moves too,
unless it is at the end. -/
def moved (c : TimestreamCursor δ γ) : TimestreamCursor δ γ :=
  { c with
    iterator := if 0 < c.curPos ∧ c.iterator < c.rowVec.length then c.iterator + 1
      else c.iterator
    curPos := c.curPos + 1 }

/-- `TimestreamCursor::Increment`: the moved cursor, and whether it stands on a row. -/
def increment (c : TimestreamCursor δ γ) : Bool × TimestreamCursor δ γ :=
  (decide (c.moved.curPos ≤ c.moved.rowVec.length), c.moved)

/-- The row the iterator stands on, or nothing when it stands at the end. -/
def currentRow (c : TimestreamCursor δ γ) : Option (List δ) :=
  c.rowVec[c.iterator]?

/-- `TimestreamCursor::EnsureColumnDiscovered`: the columns up to the requested one are built from
the metadata that was not looked at before. -/
def ensureColumnDiscovered (columnMetadataVec : List γ) (columnIdx : ℕ)
    (c : TimestreamCursor δ γ) : Bool × TimestreamCursor δ γ :=
  if columnMetadataVec.length < columnIdx ∨ columnIdx < 1 then (false, c)
  else if c.columns.length = columnMetadataVec.length then (true, c)
  else
    (true, { c with
      columns := c.columns ++
        (columnMetadataVec.drop c.columns.length).take (columnIdx - c.columns.length) })

/-- `TimestreamCursor::ReadColumnToBuffer`.  The decoding `readToBuffer` of a datum gives nothing
when it leaves by an exception; so does an access outside the row or the discovered columns, whose
behaviour the source leaves undefined. -/
def readColumnToBuffer (readToBuffer : γ → δ → B → Option (ConversionResult × B))
    (columnMetadataVec : List γ) (columnIdx : ℕ) (dataBuf : B) (c : TimestreamCursor δ γ) :
    Option (ConversionResult × B) × TimestreamCursor δ γ :=
  match c.ensureColumnDiscovered columnMetadataVec columnIdx with
  | (false, c) => (some (.aiFailure, dataBuf), c)
  | (true, c) =>
    (c.columns[columnIdx - 1]?.bind fun column =>
      (c.currentRow.bind fun row => row[columnIdx - 1]?).bind fun datum =>
        readToBuffer column datum dataBuf, c)

/-- Discovering columns does not move the cursor. -/
lemma ensureColumnDiscovered_cursor (columnMetadataVec : List γ) (columnIdx : ℕ)
    (c : TimestreamCursor δ γ) :
    ∃ columns, (c.ensureColumnDiscovered columnMetadataVec columnIdx).2 = { c with columns } := by
  unfold ensureColumnDiscovered
  split
  · exact ⟨c.columns, rfl⟩
  · split
    · exact ⟨c.columns, rfl⟩
    · exact ⟨_, rfl⟩

/-- Reading a column does not move the cursor. -/
lemma readColumnToBuffer_cursor (readToBuffer : γ → δ → B → Option (ConversionResult × B))
    (columnMetadataVec : List γ) (columnIdx : ℕ) (dataBuf : B) (c : TimestreamCursor δ γ) :
    ∃ columns, (c.readColumnToBuffer readToBuffer columnMetadataVec columnIdx dataBuf).2 =
      { c with columns } := by
  have h := c.ensureColumnDiscovered_cursor columnMetadataVec columnIdx
  unfold readColumnToBuffer
  split
  · next c' hc' => rw [hc'] at h; exact h
  · next c' hc' => rw [hc'] at h; exact h

/-! ## Positions -/

/-- The cursor invariant: the iterator is one position behind, and never past the end. -/
def WellPlaced (c : TimestreamCursor δ γ) : Prop :=
  c.iterator = min (c.curPos - 1) c.rowVec.length

/-- A new cursor is well placed. -/
lemma wellPlaced_ofRows (rows : List (List δ)) : (ofRows rows : TimestreamCursor δ γ).WellPlaced := by
  simp [WellPlaced, ofRows]

/-- Moving keeps a cursor well placed. -/
lemma WellPlaced.moved {c : TimestreamCursor δ γ} (h : c.WellPlaced) : c.moved.WellPlaced := by
  unfold WellPlaced at h ⊢
  simp only [TimestreamCursor.moved]
  split <;> omega

/-- The rows that `Increment` has not visited yet. -/
def remaining (c : TimestreamCursor δ γ) : List (List δ) :=
  c.rowVec.drop c.curPos

/-- The rows of a new cursor all remain. -/
@[simp] lemma remaining_ofRows (rows : List (List δ)) :
    (ofRows rows : TimestreamCursor δ γ).remaining = rows := rfl

/-- When `Increment` succeeds on a well-placed cursor, the row it moves to is the first of the
remaining rows. -/
lemma remaining_eq_cons_of_increment {c : TimestreamCursor δ γ} (hc : c.WellPlaced)
    (h : c.increment.1 = true) :
    ∃ row, c.moved.currentRow = some row ∧ c.remaining = row :: c.moved.remaining := by
  have hlt : c.curPos < c.rowVec.length := of_decide_eq_true h
  have hit : c.moved.iterator = c.curPos := by
    have := hc.moved
    unfold WellPlaced at this
    simp only [moved] at this ⊢
    omega
  refine ⟨c.rowVec[c.curPos], ?_, ?_⟩
  · rw [currentRow, hit]
    exact List.getElem?_eq_getElem hlt
  · exact List.drop_eq_getElem_cons hlt

/-- When `Increment` fails no row remains, before or after. -/
lemma remaining_eq_nil_of_increment {c : TimestreamCursor δ γ} (h : c.increment.1 = false) :
    c.remaining = [] ∧ c.moved.remaining = [] := by
  have hle : c.rowVec.length ≤ c.curPos := Nat.not_lt.mp (of_decide_eq_false h)
  exact ⟨List.drop_eq_nil_of_le hle, List.drop_eq_nil_of_le (Nat.le_succ_of_le hle)⟩

end TimestreamCursor

end TimestreamOdbc
