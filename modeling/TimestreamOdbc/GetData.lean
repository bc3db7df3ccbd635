import TimestreamOdbc.App.ApplicationDataBuffer
import TimestreamOdbc.Query.DataQuery

/-!
# Reading a cell in pieces

`SQLGetData` can be called again and again on one column of the current row, and each call gives
the next piece of a long value.  The statement keeps the column of the last call and the offset in
its cell, in the unit in which the buffer left it.

The result of this module is the exact condition under which the pieces of a text make up the
whole text whatever the sizes of the buffers are.
-/

namespace TimestreamOdbc

/-- What a statement keeps between two calls of `SQLGetData`. -/
structure CellState where
  currentColNum : ℕ
  cellOffset : ℤ
  deriving DecidableEq, Repr

/-- `SQLGetData` on a column whose datum is put into a buffer by `getColumnData`, with the data and
the indicator pointer there or not; nothing when an exception leaves the call. -/
def sqlGetData (getColumnData : ApplicationDataBuffer → Option Put) (colNum : ℕ)
    (driverType : OdbcNativeType) (targetValue : Bool) (bufferLength : ℕ)
    (strLengthOrIndicator : Bool) (s : CellState) : Option (Put × CellState) :=
  let dataBuffer := ApplicationDataBuffer.new driverType targetValue bufferLength
    strLengthOrIndicator
  let started : CellState × ApplicationDataBuffer :=
    if colNum ≠ s.currentColNum then
      ({ currentColNum := colNum, cellOffset := 0 }, dataBuffer.setCellOffset 0)
    else (s, dataBuffer.setCellOffset s.cellOffset)
  (getColumnData started.2).map fun put =>
    (put, { started.1 with cellOffset := put.cellOffset })

/-- The offset in the cell of a column at which a call starts. -/
def CellState.offsetOf (colNum : ℕ) (s : CellState) : ℤ :=
  if colNum ≠ s.currentColNum then 0 else s.cellOffset

/-- A call starts at the offset of its column and leaves the offset of the buffer. -/
lemma sqlGetData_eq (getColumnData : ApplicationDataBuffer → Option Put) (colNum : ℕ)
    (driverType : OdbcNativeType) (targetValue : Bool) (bufferLength : ℕ)
    (strLengthOrIndicator : Bool) (s : CellState) :
    sqlGetData getColumnData colNum driverType targetValue bufferLength strLengthOrIndicator s =
      (getColumnData ((ApplicationDataBuffer.new driverType targetValue bufferLength
        strLengthOrIndicator).setCellOffset (s.offsetOf colNum))).map fun put =>
          (put, ⟨colNum, put.cellOffset⟩) := by
  unfold sqlGetData CellState.offsetOf
  by_cases h : colNum = s.currentColNum <;> simp [h]

/-! ## The pieces of a text -/

/-- The text in a buffer after a call, up to its terminator. The caller clears the buffer before the
call, so that a call that stores nothing leaves the empty text. -/
def Put.piece (put : Put) : List ℕ :=
  match put.stored with
  | some (.units _ units) => units.takeWhile (· ≠ 0)
  | _ => []

/-- The calls a caller makes on one column of the current row, with a buffer of the size that comes
next in each call, until there is no data or a piece is complete. They give the pieces, or nothing
when a call fails or the calls exceed the fuel. -/
def readPieces (P : Platform) (outChar : OutChar) (value : List UInt8) (colNum : ℕ)
    (indicator : Bool) : ℕ → (ℕ → ℕ) → CellState → Option (List (List ℕ))
  | 0, _, _ => none
  | fuel + 1, sizes, s =>
    match sqlGetData (ApplicationDataBuffer.putStrToStrBuffer P outChar value) colNum
        outChar.driverType true (sizes 0) indicator s with
    | none => none
    | some (put, s) =>
      match (DataQuery.processConversionResult put.result colNum).1 with
      | .aiNoData => some []
      | .aiSuccess => some [put.piece]
      | .aiSuccessWithInfo =>
        (readPieces P outChar value colNum indicator fuel (fun k => sizes (k + 1)) s).map
          (put.piece :: ·)
      | _ => none

/-- Whatever the sizes of the buffers are, as long as each has room for a character and the
terminator, the calls come to an end without an exception, and the pieces make up the text. The
first call is on another column than the last one or starts at the beginning of the cell. -/
def ReadsWhole (P : Platform) (outChar : OutChar) (value : Text) : Prop :=
  ∀ (colNum : ℕ) (indicator : Bool) (sizes : ℕ → ℕ) (s : CellState), s.offsetOf colNum = 0 →
    (∀ k, 2 * outChar.size P ≤ sizes k) →
      ∃ fuel pieces,
        readPieces P outChar (Utf8.encode value) colNum indicator fuel sizes s = some pieces ∧
          pieces.flatten = value.map (outChar.unit P)

/-! ## One call -/

section Text

variable {P : Platform} {outChar : OutChar} {cs : Text}

/-- The buffer of a call: at least its length matters. -/
private def callBuffer (outChar : OutChar) (size : ℕ) (indicator : Bool) (offset : ℤ) :
    ApplicationDataBuffer :=
  (ApplicationDataBuffer.new outChar.driverType true size indicator).setCellOffset offset

/-- The text of stored characters that are followed by the terminator. -/
lemma takeWhile_map_unit (hnul : '\x00' ∉ cs) :
    (cs.map (outChar.unit P) ++ [0]).takeWhile (· ≠ 0) = cs.map (outChar.unit P) := by
  rw [List.takeWhile_append_of_pos]
  · simp
  · intro u hu
    obtain ⟨c, hc, rfl⟩ := List.mem_map.mp hu
    simp only [ne_eq, decide_eq_true_eq, OutChar.unit_eq_zero_iff]
    rintro rfl
    exact hnul hc

/-- The computed number of bytes covers the characters of the text. -/
lemma bytesRequired_encode (P : Platform) (outChar : OutChar) (hnul : '\x00' ∉ cs) (hrep : ∀ c ∈ cs, outChar.represents P c) :
    ∃ required, ApplicationDataBuffer.bytesRequired P outChar (Utf8.encode cs) = some required ∧
      cs.length * outChar.size P ≤ required ∧
        required ≤ (Utf8.encode cs).length * outChar.size P := by
  have hle := Utf8.length_le_length_encode cs
  unfold ApplicationDataBuffer.bytesRequired
  by_cases hP : P.ansiStringOnly
  · exact ⟨_, if_pos hP, Nat.mul_le_mul_right _ hle, le_rfl⟩
  · have hfits : cs.all (unitFits P.wcharSize) = true := by
      apply List.all_eq_true.mpr
      intro c hc
      have := hrep c hc
      simp only [OutChar.represents, hP, Bool.false_or, Bool.and_eq_true] at this
      exact this.1
    refine ⟨cs.length * outChar.size P, ?_, le_rfl, Nat.mul_le_mul_right _ hle⟩
    rw [if_neg hP, fromBytes_encode P hnul, if_pos hfits, Option.map_some]

/-- A call that starts behind ASCII characters gives the characters from there on for which there
is room, and says whether they are the last ones. -/
lemma putStrToStrBuffer_encode (indicator : Bool) {k size : ℕ} (hnul : '\x00' ∉ cs)
    (hrep : ∀ c ∈ cs, outChar.represents P c)
    (hansi : outChar = .char → P.ansiStringOnly → ∀ c ∈ cs, Utf8.IsAscii c)
    (hstart : ∀ c ∈ cs.take k, Utf8.IsAscii c) (hk : k < cs.length)
    (hsize : 2 * outChar.size P ≤ size) :
    ∃ put, (callBuffer outChar size indicator k).putStrToStrBuffer P outChar (Utf8.encode cs) =
        some put ∧
      put.piece = ((cs.drop k).take (size / outChar.size P - 1)).map (outChar.unit P) ∧
        if size / outChar.size P - 1 < cs.length - k then
          put.result = .aiVarlenDataTruncated ∧
            put.cellOffset = (k + (size / outChar.size P - 1) : ℕ)
        else put.result = .aiSuccess := by
  obtain ⟨required, hrequired, hlower, -⟩ := bytesRequired_encode P outChar hnul hrep
  have hpos := outChar.size_pos P
  have hroom : 2 ≤ size / outChar.size P := (Nat.le_div_iff_mul_le hpos).mpr hsize
  have hlt : ¬ required ≤ k * outChar.size P := by
    have := (Nat.mul_lt_mul_right hpos).mpr hk
    omega
  have hmem : ∀ c ∈ cs.drop k, c ∈ cs := fun c hc => List.mem_of_mem_drop hc
  have hcopy := copyUtf8String_encode (fun h => hnul (hmem _ h)) (fun c hc => hrep c (hmem c hc))
    (fun h h' c hc => hansi h h' c (hmem c hc)) (by simpa using hk) hsize
  have htake : '\x00' ∉ (cs.drop k).take (size / outChar.size P - 1) := by
    intro h
    exact hnul (hmem _ (List.mem_of_mem_take h))
  unfold ApplicationDataBuffer.putStrToStrBuffer callBuffer
  simp only [hrequired, Option.bind_some, ApplicationDataBuffer.setCellOffset,
    ApplicationDataBuffer.new, Bool.not_true, Bool.false_eq_true, if_false, Int.toNat_natCast, hlt,
    Utf8.drop_encode_of_isAscii hstart, hcopy, Option.map_some, List.length_drop]
  by_cases htrunc : size / outChar.size P - 1 < cs.length - k
  · simp only [htrunc, decide_true, if_true]
    refine ⟨_, rfl, takeWhile_map_unit htake, rfl, ?_⟩
    push_cast
    omega
  · simp only [htrunc, decide_false, if_false, Bool.false_eq_true]
    exact ⟨_, rfl, takeWhile_map_unit htake, rfl⟩

/-! ## All calls -/

variable {colNum : ℕ} {indicator : Bool}

/-- The pieces by the outcome of the first call. -/
lemma readPieces_succ (P : Platform) (outChar : OutChar) (value : List UInt8) (colNum : ℕ)
    (indicator : Bool) (fuel : ℕ) (sizes : ℕ → ℕ) (s : CellState) :
    readPieces P outChar value colNum indicator (fuel + 1) sizes s =
      match (callBuffer outChar (sizes 0) indicator (s.offsetOf colNum)).putStrToStrBuffer P outChar
          value with
      | none => none
      | some put =>
        match (DataQuery.processConversionResult put.result colNum).1 with
        | .aiNoData => some []
        | .aiSuccess => some [put.piece]
        | .aiSuccessWithInfo =>
          (readPieces P outChar value colNum indicator fuel (fun k => sizes (k + 1))
            ⟨colNum, put.cellOffset⟩).map (put.piece :: ·)
        | _ => none := by
  rw [readPieces, sqlGetData_eq]
  unfold callBuffer
  generalize ApplicationDataBuffer.putStrToStrBuffer P outChar value _ = outcome
  rcases outcome with _ | put <;> rfl

/-- The offset a call leaves is the one at which the next call on the column starts. -/
@[simp] lemma offsetOf_mk (colNum : ℕ) (cellOffset : ℤ) :
    (CellState.mk colNum cellOffset).offsetOf colNum = cellOffset := by
  simp [CellState.offsetOf]

/-- From behind ASCII characters on, the calls give the rest of the text. -/
lemma readPieces_drop (indicator : Bool) (hnul : '\x00' ∉ cs) (hrep : ∀ c ∈ cs, outChar.represents P c)
    (hansi : outChar = .char → P.ansiStringOnly → ∀ c ∈ cs, Utf8.IsAscii c)
    (hascii : ∀ c ∈ cs.dropLast, Utf8.IsAscii c) {k : ℕ} (hk : k < cs.length) {sizes : ℕ → ℕ}
    (hsizes : ∀ k, 2 * outChar.size P ≤ sizes k) {s : CellState} (hs : s.offsetOf colNum = k) :
    ∃ fuel pieces, readPieces P outChar (Utf8.encode cs) colNum indicator fuel sizes s =
        some pieces ∧
      pieces.flatten = (cs.drop k).map (outChar.unit P) := by
  -- the characters that are left become fewer with each call
  induction hn : cs.length - k using Nat.strong_induction_on generalizing k sizes s with
  | _ n ih =>
    have hstart : ∀ c ∈ cs.take k, Utf8.IsAscii c := by
      intro c hc
      apply hascii
      rw [List.dropLast_eq_take]
      exact List.take_subset_take_left cs (by omega) hc
    obtain ⟨put, hput, hpiece, hresult⟩ := putStrToStrBuffer_encode indicator hnul
      hrep hansi hstart hk (hsizes 0)
    have hroom : 2 ≤ sizes 0 / outChar.size P :=
      (Nat.le_div_iff_mul_le (outChar.size_pos P)).mpr (hsizes 0)
    split at hresult
    · next hlt =>
      obtain ⟨htrunc, hoffset⟩ := hresult
      have hnext : (CellState.mk colNum put.cellOffset).offsetOf colNum =
          (k + (sizes 0 / outChar.size P - 1) : ℕ) := by
        rw [offsetOf_mk, hoffset]
      obtain ⟨fuel, pieces, hpieces, hflatten⟩ := ih (cs.length - (k + (sizes 0 / outChar.size P - 1)))
        (by omega) (by omega) (fun j => hsizes (j + 1)) hnext rfl
      refine ⟨fuel + 1, put.piece :: pieces, ?_, ?_⟩
      · rw [readPieces_succ, hs, hput]
        simp only [htrunc, DataQuery.processConversionResult, hpieces, Option.map_some]
      · rw [List.flatten_cons, hflatten, hpiece, ← List.map_append, ← List.drop_drop,
          List.take_append_drop]
    · next hge =>
      refine ⟨1, [put.piece], ?_, ?_⟩
      · rw [readPieces_succ, hs, hput]
        simp only [hresult, DataQuery.processConversionResult]
      · rw [List.flatten_singleton, hpiece, List.take_of_length_le (by rw [List.length_drop]; omega)]

/-! ## What the pieces can not contain -/

/-- What the first call gave when the calls came to an end. -/
lemma exists_of_readPieces_eq_some {value : List UInt8} {fuel : ℕ} {sizes : ℕ → ℕ} {s : CellState}
    {pieces : List (List ℕ)}
    (h : readPieces P outChar value colNum indicator fuel sizes s = some pieces) :
    ∃ put, (callBuffer outChar (sizes 0) indicator (s.offsetOf colNum)).putStrToStrBuffer P outChar
        value = some put ∧
      (pieces = [] ∨ pieces = [put.piece] ∧ put.result = .aiSuccess ∨
        ∃ fuel' rest, readPieces P outChar value colNum indicator fuel' (fun k => sizes (k + 1))
            ⟨colNum, put.cellOffset⟩ = some rest ∧ pieces = put.piece :: rest) := by
  rcases fuel with _ | fuel
  · simp [readPieces] at h
  · rw [readPieces_succ] at h
    split at h
    · exact absurd h (by simp)
    · next put hput =>
      refine ⟨put, hput, ?_⟩
      split at h
      · exact .inl (Option.some.inj h).symm
      · next hresult =>
        refine .inr (.inl ⟨(Option.some.inj h).symm, ?_⟩)
        rcases hput : put.result <;>
          simp_all [DataQuery.processConversionResult]
      · obtain ⟨rest, hrest, hcons⟩ := Option.map_eq_some_iff.mp h
        exact .inr (.inr ⟨fuel, rest, hrest, hcons.symm⟩)
      · exact absurd h (by simp)

/-- A property of all units that a call can deliver holds for all units of the pieces. -/
lemma forall_mem_flatten_readPieces {value : List UInt8} {p : ℕ → Prop}
    (hp : ∀ (b : ApplicationDataBuffer) put, b.putStrToStrBuffer P outChar value = some put →
      ∀ u ∈ put.piece, p u) {fuel : ℕ} {sizes : ℕ → ℕ} {s : CellState} {pieces : List (List ℕ)}
    (h : readPieces P outChar value colNum indicator fuel sizes s = some pieces) :
    ∀ u ∈ pieces.flatten, p u := by
  induction pieces generalizing fuel sizes s with
  | nil => simp
  | cons piece pieces ih =>
    obtain ⟨put, hput, hnil | ⟨hone, -⟩ | ⟨fuel', rest, hrest, hcons⟩⟩ :=
      exists_of_readPieces_eq_some h
    · exact absurd hnil (List.cons_ne_nil _ _)
    · rw [hone]
      simpa using hp _ put hput
    · obtain ⟨rfl, rfl⟩ := List.cons.inj hcons
      intro u hu
      rw [List.flatten_cons, List.mem_append] at hu
      rcases hu with hu | hu
      · exact hp _ put hput u hu
      · exact ih hrest u hu

/-- No piece contains the terminator. -/
lemma ne_zero_of_mem_piece {put : Put} {u : ℕ} (hu : u ∈ put.piece) : u ≠ 0 := by
  unfold Put.piece at hu
  split at hu
  · simpa using List.mem_takeWhile_imp hu
  · exact absurd hu List.not_mem_nil

/-- A piece of wide characters has only units that the facet converts to. -/
lemma unitFits_of_mem_piece {b : ApplicationDataBuffer} {value : List UInt8} {put : Put}
    (h : b.putStrToStrBuffer P .sqlWchar value = some put) {u : ℕ} (hu : u ∈ put.piece) :
    ∃ c : Char, c.toNat = u ∧ unitFits P.sqlWcharSize c := by
  have hzero := ne_zero_of_mem_piece hu
  unfold ApplicationDataBuffer.putStrToStrBuffer at h
  obtain ⟨required, -, h⟩ := Option.bind_eq_some_iff.mp h
  split at h
  · obtain rfl := Option.some.inj h
    exact absurd hu List.not_mem_nil
  · dsimp only at h
    split at h
    · obtain rfl := Option.some.inj h
      exact absurd hu List.not_mem_nil
    · obtain ⟨copied, hcopied, hput⟩ := Option.map_eq_some_iff.mp h
      obtain rfl := Option.some.inj hcopied
      have hstored : put.stored = (copyUtf8StringToWcharString P
          (value.drop b.cellOffset.toNat) true b.buflen false).stored.map (.units P.sqlWcharSize) := by
        rw [← hput]
        split <;> rfl
      unfold Put.piece at hu
      rw [hstored] at hu
      rcases hunits : (copyUtf8StringToWcharString P (value.drop b.cellOffset.toNat) true b.buflen
          false).stored with _ | units
      · simp [hunits] at hu
      · rw [hunits] at hu
        exact unitFits_of_mem_stored hunits ((List.takeWhile_sublist _).subset hu) hzero

/-! ## A character in the middle -/

/-- A text with a character before the last one that is not ASCII has a first one. -/
lemma exists_first_not_isAscii (h : ¬ ∀ c ∈ cs.dropLast, Utf8.IsAscii c) :
    ∃ before c after, cs = before ++ c :: after ∧ (∀ d ∈ before, Utf8.IsAscii d) ∧
      ¬ Utf8.IsAscii c ∧ after ≠ [] := by
  induction cs with
  | nil => simp at h
  | cons d cs ih =>
    rcases cs with _ | ⟨e, cs⟩
    · simp at h
    · by_cases hd : Utf8.IsAscii d
      · have hrest : ¬ ∀ c ∈ (e :: cs).dropLast, Utf8.IsAscii c := by
          intro hall
          apply h
          intro c hc
          rw [List.dropLast_cons_cons, List.mem_cons] at hc
          rcases hc with rfl | hc
          · exact hd
          · exact hall c hc
        obtain ⟨before, c, after, heq, hbefore, hc, hafter⟩ := ih hrest
        refine ⟨d :: before, c, after, by rw [heq, List.cons_append], ?_, hc, hafter⟩
        intro c hc
        rcases List.mem_cons.mp hc with rfl | hc
        · exact hd
        · exact hbefore c hc
      · exact ⟨[], d, e :: cs, rfl, by simp, hd, List.cons_ne_nil _ _⟩

/-- The bytes behind an ASCII text and the first byte of the next character. -/
lemma drop_encode_succ {before after : Text} {c : Char} (hbefore : ∀ d ∈ before, Utf8.IsAscii d) :
    (Utf8.encode (before ++ c :: after)).drop (before.length + 1) =
      (String.utf8EncodeChar c).drop 1 ++ Utf8.encode after := by
  have hdrop : (Utf8.encode (before ++ c :: after)).drop before.length =
      String.utf8EncodeChar c ++ Utf8.encode after := by
    rw [Utf8.drop_encode_of_isAscii (by simpa using hbefore), List.drop_left, Utf8.encode_cons]
  have hlen : 1 ≤ (String.utf8EncodeChar c).length := by
    rw [String.length_utf8EncodeChar]
    exact c.utf8Size_pos
  rw [← List.drop_drop, hdrop, List.drop_append_of_le_length hlen]

/-- A size for which the first call on a text stops behind the first character that is not ASCII,
and sizes for which the second call has room for everything. -/
private def splittingSizes (P : Platform) (outChar : OutChar) (before : Text) (length k : ℕ) : ℕ :=
  if k = 0 then (before.length + 2) * outChar.size P else (length + 2) * outChar.size P

/-- The second call does not find the beginning of a character: with narrow characters it throws,
with wide ones it delivers nothing and counts the rest as delivered. -/
lemma putStrToStrBuffer_middle (indicator : Bool) {before after : Text} {c : Char} {size : ℕ}
    (hnul : '\x00' ∉ before ++ c :: after)
    (hrep : ∀ d ∈ before ++ c :: after, outChar.represents P d)
    (hansi : outChar = .char → ¬ P.ansiStringOnly)
    (hbefore : ∀ d ∈ before, Utf8.IsAscii d) (hc : ¬ Utf8.IsAscii c) (hafter : after ≠ [])
    (hsize : 2 * outChar.size P ≤ size) :
    (callBuffer outChar size indicator (before.length + 1 : ℕ)).putStrToStrBuffer P outChar
        (Utf8.encode (before ++ c :: after)) = none ∨
      ∃ put, (callBuffer outChar size indicator (before.length + 1 : ℕ)).putStrToStrBuffer P outChar
          (Utf8.encode (before ++ c :: after)) = some put ∧
        put.result = .aiVarlenDataTruncated ∧ put.piece = [] ∧
          put.cellOffset = (before.length + 1 : ℕ) + (size / outChar.size P : ℕ) - 1 := by
  obtain ⟨required, hrequired, hlower, -⟩ := bytesRequired_encode P outChar hnul hrep
  have hpos := outChar.size_pos P
  have hafterPos := List.length_pos_iff.mpr hafter
  have hlt : ¬ required ≤ (before.length + 1) * outChar.size P := by
    have hlen : before.length + 1 < (before ++ c :: after).length := by
      rw [List.length_append, List.length_cons]
      omega
    have := (Nat.mul_lt_mul_right hpos).mpr hlen
    omega
  have htwo : 1 < c.utf8Size := by
    have h1 := c.utf8Size_pos
    have h2 : c.utf8Size ≠ 1 := hc
    omega
  have hzero : 0 ∉ (String.utf8EncodeChar c).drop 1 ++ Utf8.encode after := by
    intro h
    apply Utf8.zero_notMem_encode hnul
    rw [← drop_encode_succ hbefore] at h
    exact List.mem_of_mem_drop h
  unfold ApplicationDataBuffer.putStrToStrBuffer callBuffer
  simp only [hrequired, Option.bind_some, ApplicationDataBuffer.setCellOffset,
    ApplicationDataBuffer.new, Bool.not_true, Bool.false_eq_true, if_false, Int.toNat_natCast, hlt,
    drop_encode_succ hbefore]
  rcases outChar with _ | _
  · left
    simp only [copyUtf8String, copyUtf8StringToSqlCharString, Bool.not_true, Bool.false_eq_true,
      if_false, hansi rfl, fromBytes, cString_eq_self hzero,
      Utf8.decode_drop_encodeChar Nat.one_pos htwo, Option.map_none]
  · right
    have hroom : 2 ≤ size / P.sqlWcharSize := (Nat.le_div_iff_mul_le hpos).mpr hsize
    obtain ⟨room, hroomEq⟩ : ∃ room, size / P.sqlWcharSize - 1 = room + 1 :=
      ⟨size / P.sqlWcharSize - 2, by omega⟩
    have hsqlPos := P.sqlWcharSize_pos
    have hsize' : 2 * P.sqlWcharSize ≤ size := hsize
    have hsizePos : ¬ size = 0 := by omega
    have hdirect : P.sqlWcharSize < size := by omega
    simp only [copyUtf8String, copyUtf8StringToWcharString, hsizePos, and_false, if_false,
      Bool.true_and, hdirect, decide_true, if_true, cString_eq_self hzero, hroomEq,
      Utf8.convert_drop_encodeChar Nat.one_pos htwo, Option.map_some]
    exact ⟨_, rfl, rfl, rfl, rfl⟩

/-- Behind the end of a text nothing is delivered. -/
lemma readPieces_past_end (hnul : '\x00' ∉ cs) (hrep : ∀ c ∈ cs, outChar.represents P c) {k : ℕ}
    (hk : (Utf8.encode cs).length ≤ k) {fuel : ℕ} {sizes : ℕ → ℕ} {s : CellState}
    (hs : s.offsetOf colNum = k) {pieces : List (List ℕ)}
    (h : readPieces P outChar (Utf8.encode cs) colNum indicator fuel sizes s = some pieces) :
    pieces = [] := by
  rcases fuel with _ | fuel
  · simp [readPieces] at h
  · obtain ⟨required, hrequired, -, hupper⟩ := bytesRequired_encode P outChar hnul hrep
    have hle : required ≤ k * outChar.size P :=
      hupper.trans (Nat.mul_le_mul_right _ hk)
    rw [readPieces_succ, hs] at h
    simp only [ApplicationDataBuffer.putStrToStrBuffer, callBuffer, hrequired, Option.bind_some,
      ApplicationDataBuffer.setCellOffset, ApplicationDataBuffer.new, Bool.not_true,
      Bool.false_eq_true, if_false, Int.toNat_natCast, hle, if_true,
      DataQuery.processConversionResult] at h
    exact (Option.some.inj h).symm

/-- From the middle of a character on, a call with room for everything is the last one to deliver
anything, and it delivers nothing. -/
lemma flatten_readPieces_middle {before after : Text} {c : Char}
    (hnul : '\x00' ∉ before ++ c :: after)
    (hrep : ∀ d ∈ before ++ c :: after, outChar.represents P d)
    (hansi : outChar = .char → ¬ P.ansiStringOnly)
    (hbefore : ∀ d ∈ before, Utf8.IsAscii d) (hc : ¬ Utf8.IsAscii c) (hafter : after ≠ [])
    {fuel : ℕ} {sizes : ℕ → ℕ} {s : CellState} (hs : s.offsetOf colNum = (before.length + 1 : ℕ))
    (hsize : sizes 0 = ((Utf8.encode (before ++ c :: after)).length + 2) * outChar.size P)
    {pieces : List (List ℕ)}
    (h : readPieces P outChar (Utf8.encode (before ++ c :: after)) colNum indicator fuel sizes s =
      some pieces) :
    pieces.flatten = [] := by
  obtain ⟨put, hput, hpieces⟩ := exists_of_readPieces_eq_some h
  rw [hs] at hput
  have hroom : 2 * outChar.size P ≤ sizes 0 := by
    rw [hsize]
    exact Nat.mul_le_mul_right _ (by omega)
  rcases putStrToStrBuffer_middle indicator hnul hrep hansi hbefore hc hafter hroom
    with hnone | ⟨put', hput', -, hempty, hoffset⟩
  · rw [hnone] at hput
    exact absurd hput (by simp)
  · obtain rfl : put = put' := Option.some.inj (hput.symm.trans hput')
    rcases hpieces with rfl | ⟨rfl, -⟩ | ⟨fuel', rest, hrest, rfl⟩
    · rfl
    · rw [List.flatten_singleton, hempty]
    · have hdiv : sizes 0 / outChar.size P = (Utf8.encode (before ++ c :: after)).length + 2 := by
        rw [hsize]
        exact Nat.mul_div_cancel _ (outChar.size_pos P)
      have hnext : (CellState.mk colNum put.cellOffset).offsetOf colNum =
          (before.length + 2 + (Utf8.encode (before ++ c :: after)).length : ℕ) := by
        rw [offsetOf_mk, hoffset, hdiv]
        push_cast
        omega
      rw [readPieces_past_end hnul hrep (by omega) hnext hrest, hempty]
      rfl

/-- A text with a character before the last one that is not ASCII is lost for some sizes. -/
lemma not_readsWhole_of_not_isAscii (hnul : '\x00' ∉ cs)
    (hrep : ∀ c ∈ cs, outChar.represents P c)
    (hansi : outChar = .char → P.ansiStringOnly → ∀ c ∈ cs, Utf8.IsAscii c)
    (h : ¬ ∀ c ∈ cs.dropLast, Utf8.IsAscii c) : ¬ ReadsWhole P outChar cs := by
  intro hwhole
  obtain ⟨before, c, after, rfl, hbefore, hc, hafter⟩ := exists_first_not_isAscii h
  have hnotAnsi : outChar = .char → ¬ P.ansiStringOnly := by
    intro hchar hP
    exact hc (hansi hchar hP c (by simp))
  have hpos := outChar.size_pos P
  have hlength : before.length + 1 < (before ++ c :: after).length := by
    have := List.length_pos_iff.mpr hafter
    rw [List.length_append, List.length_cons]
    omega
  have hsizes : ∀ k, 2 * outChar.size P ≤ splittingSizes P outChar before
      (Utf8.encode (before ++ c :: after)).length k := by
    intro k
    unfold splittingSizes
    split <;> exact Nat.mul_le_mul_right _ (by omega)
  obtain ⟨fuel, pieces, hpieces, hflatten⟩ := hwhole 1 false _ ⟨0, 0⟩ rfl hsizes
  -- the first call delivers the characters up to the one in the middle
  obtain ⟨put, hput, hfirst⟩ := exists_of_readPieces_eq_some hpieces
  have hroom : splittingSizes P outChar before (Utf8.encode (before ++ c :: after)).length 0 /
      outChar.size P - 1 = before.length + 1 := by
    have : splittingSizes P outChar before (Utf8.encode (before ++ c :: after)).length 0 /
        outChar.size P = before.length + 2 := Nat.mul_div_cancel _ hpos
    omega
  obtain ⟨put', hput', hpiece, hresult⟩ := putStrToStrBuffer_encode (k := 0) false hnul hrep hansi (by simp) (by omega) (hsizes 0)
  obtain rfl : put = put' := Option.some.inj (hput.symm.trans hput')
  rw [hroom, List.drop_zero] at hpiece
  rw [hroom, if_pos (by omega)] at hresult
  have hshort : put.piece.length = before.length + 1 := by
    rw [hpiece, List.length_map, List.length_take]
    omega
  have hlen := congrArg List.length hflatten
  rw [List.length_map] at hlen
  rcases hfirst with rfl | ⟨rfl, -⟩ | ⟨fuel', rest, hrest, rfl⟩
  · rw [List.flatten_nil, List.length_nil] at hlen
    omega
  · rw [List.flatten_singleton] at hlen
    omega
  · have hnext : (CellState.mk 1 put.cellOffset).offsetOf 1 = (before.length + 1 : ℕ) := by
      rw [offsetOf_mk, hresult.2, Nat.zero_add]
    have hrestEmpty := flatten_readPieces_middle hnul hrep hnotAnsi hbefore hc hafter hnext rfl hrest
    rw [List.flatten_cons, hrestEmpty, List.append_nil] at hlen
    omega

/-- A text that can not be converted throws at the first call. -/
lemma not_readsWhole_of_not_unitFits (hnul : '\x00' ∉ cs) (hP : ¬ P.ansiStringOnly) {c : Char}
    (hc : c ∈ cs) (hfits : ¬ unitFits P.wcharSize c) : ¬ ReadsWhole P outChar cs := by
  intro hwhole
  obtain ⟨fuel, pieces, hpieces, -⟩ := hwhole 1 false (fun _ => 2 * outChar.size P) ⟨0, 0⟩ rfl
    fun _ => le_rfl
  obtain ⟨put, hput, -⟩ := exists_of_readPieces_eq_some hpieces
  have hall : ¬ cs.all (unitFits P.wcharSize) := by
    intro h
    exact hfits (List.all_eq_true.mp h c hc)
  simp only [ApplicationDataBuffer.putStrToStrBuffer, ApplicationDataBuffer.bytesRequired, hP,
    Bool.false_eq_true, if_false, fromBytes_encode P hnul, hall, Option.map_none,
    Option.bind_none] at hput
  exact absurd hput (by simp)

/-- The empty text ends the calls at once. -/
lemma readsWhole_nil (P : Platform) (outChar : OutChar) : ReadsWhole P outChar [] := by
  intro colNum indicator sizes s hs hsizes
  refine ⟨1, [], ?_, rfl⟩
  obtain ⟨required, hrequired, -, hupper⟩ := bytesRequired_encode P outChar
    (List.not_mem_nil : '\x00' ∉ ([] : Text)) (by simp)
  have hzero : required = 0 := by simpa using hupper
  subst hzero
  rw [readPieces_succ, hs]
  simp only [ApplicationDataBuffer.putStrToStrBuffer, callBuffer, hrequired, Option.bind_some,
    ApplicationDataBuffer.setCellOffset, ApplicationDataBuffer.new, Bool.not_true,
    Bool.false_eq_true, if_false, Nat.zero_le, if_true, DataQuery.processConversionResult]

end Text

/-! ## The law of the pieces -/

/-- Exactly when all characters of a value but the last one are ASCII, no character is null and
none gets lost in a conversion, the pieces of the value make up the whole text for all sizes of
the buffers. -/
theorem readsWhole_iff (P : Platform) (outChar : OutChar) (value : Text)
    (hansi : outChar = .char → P.ansiStringOnly → ∀ c ∈ value, Utf8.IsAscii c) :
    ReadsWhole P outChar value ↔
      '\x00' ∉ value ∧ (∀ c ∈ value.dropLast, Utf8.IsAscii c) ∧
        ∀ c ∈ value, outChar.represents P c := by
  constructor
  · intro hwhole
    obtain ⟨fuel, pieces, hpieces, hflatten⟩ := hwhole 1 false (fun _ => 2 * outChar.size P) ⟨0, 0⟩
      rfl fun _ => le_rfl
    have hnul : '\x00' ∉ value := by
      intro hmem
      have hzero : 0 ∈ pieces.flatten := by
        rw [hflatten]
        exact List.mem_map.mpr ⟨_, hmem, (outChar.unit_eq_zero_iff P _).mpr rfl⟩
      exact forall_mem_flatten_readPieces (fun b put _ u hu => ne_zero_of_mem_piece hu) hpieces 0
        hzero rfl
    have hrep : ∀ c ∈ value, outChar.represents P c := by
      intro c hc
      simp only [OutChar.represents, Bool.and_eq_true, Bool.or_eq_true, decide_eq_true_eq]
      refine ⟨?_, ?_⟩
      · by_contra hfits
        rw [not_or] at hfits
        exact not_readsWhole_of_not_unitFits hnul hfits.1 hc hfits.2 hwhole
      · rcases outChar with _ | _
        · exact .inl rfl
        · right
          have hunit : c.toNat ∈ pieces.flatten := by
            rw [hflatten]
            exact List.mem_map.mpr ⟨c, hc, rfl⟩
          obtain ⟨d, hd, hfits⟩ := forall_mem_flatten_readPieces
            (p := fun u => ∃ d : Char, d.toNat = u ∧ unitFits P.sqlWcharSize d)
            (fun b put hput u hu => unitFits_of_mem_piece hput hu) hpieces _ hunit
          unfold unitFits at hfits ⊢
          rwa [hd] at hfits
    refine ⟨hnul, ?_, hrep⟩
    by_contra hascii
    exact not_readsWhole_of_not_isAscii hnul hrep hansi hascii hwhole
  · rintro ⟨hnul, hascii, hrep⟩
    rcases value with _ | ⟨c, cs⟩
    · exact readsWhole_nil P outChar
    · intro colNum indicator sizes s hs hsizes
      have h := readPieces_drop indicator hnul hrep hansi hascii (k := 0) (by simp)
        hsizes (by simpa using hs)
      simpa using h

theorem readsWhole_accent_last : ReadsWhole samplePlatform .char ['a', 'é'] := by
  apply (readsWhole_iff samplePlatform .char ['a', 'é'] (by simp [samplePlatform])).mpr
  refine ⟨by decide, ?_, ?_⟩
  · simp only [List.dropLast_cons_cons, List.dropLast_singleton, List.forall_mem_singleton]
    decide
  · simp [OutChar.represents, unitFits, samplePlatform]

/-- A buffer of two characters ends the first piece of "éa" behind one byte of the first character,
and the next call throws. -/
theorem not_readsWhole_accent_first : ¬ ReadsWhole samplePlatform .char ['é', 'a'] := by
  apply not_readsWhole_of_not_isAscii
  · decide
  · simp [OutChar.represents, unitFits, samplePlatform]
  · simp [samplePlatform]
  · simp only [List.dropLast_cons_cons, List.dropLast_singleton, List.forall_mem_singleton]
    decide

end TimestreamOdbc
