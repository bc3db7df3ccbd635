import TimestreamOdbc.GetData
import TimestreamOdbc.App.PutText

/-!
# The calls on a column, one after the other

A caller reads a long value with several calls of `SQLGetData` on its column.  The protocol of the
string conversions is: all calls but the last one report truncated data, the last one succeeds, the
next one reports that there is no data, and the pieces make up the text.

The temporal conversions do not follow the protocol, whatever the value and the buffers are.  What
the string conversions write to the indicator on the way is the subject of the second half.
-/

namespace TimestreamOdbc

/-- What the caller of `SQLGetData` gets back. -/
def Put.returned (put : Put) (colNum : ℕ) : SqlResult :=
  (DataQuery.processConversionResult put.result colNum).1

/-- The first calls on one column of the current row, with a buffer of the size that comes next in
each call: their outcomes, and the state of the statement behind them. -/
def readCalls (getColumnData : ApplicationDataBuffer → Option Put) (colNum : ℕ) (outChar : OutChar)
    (indicator : Bool) (sizes : ℕ → ℕ) (s : CellState) : ℕ → Option (List Put × CellState)
  | 0 => some ([], s)
  | n + 1 =>
    (readCalls getColumnData colNum outChar indicator sizes s n).bind fun (puts, t) =>
      (sqlGetData getColumnData colNum outChar.driverType true (sizes n) indicator t).map
        fun (put, t) => (puts ++ [put], t)

/-- The calls deliver the text by the protocol. -/
def DeliversInPieces (getColumnData : ApplicationDataBuffer → Option Put) (outChar : OutChar)
    (units : List ℕ) (colNum : ℕ) (indicator : Bool) (sizes : ℕ → ℕ) (s : CellState) : Prop :=
  ∃ n puts last done t,
    readCalls getColumnData colNum outChar indicator sizes s n = some (puts ++ [last, done], t) ∧
      (∀ put ∈ puts, put.returned colNum = .aiSuccessWithInfo) ∧
      last.returned colNum = .aiSuccess ∧ done.returned colNum = .aiNoData ∧
      (puts ++ [last]).flatMap Put.piece = units

/-- Every outcome is the outcome of one of the calls. -/
lemma exists_of_mem_readCalls {getColumnData : ApplicationDataBuffer → Option Put} {colNum : ℕ}
    {outChar : OutChar} {indicator : Bool} {sizes : ℕ → ℕ} {s : CellState} {n : ℕ}
    {puts : List Put} {t : CellState}
    (h : readCalls getColumnData colNum outChar indicator sizes s n = some (puts, t)) {put : Put}
    (hput : put ∈ puts) :
    ∃ b : ApplicationDataBuffer, b.type = outChar.driverType ∧ getColumnData b = some put := by
  induction n generalizing puts t with
  | zero =>
    obtain ⟨rfl, -⟩ := Prod.mk.inj (Option.some.inj h)
    exact absurd hput List.not_mem_nil
  | succ n ih =>
    obtain ⟨⟨puts', t'⟩, hcalls, hlast⟩ := Option.bind_eq_some_iff.mp h
    obtain ⟨⟨put', t''⟩, hget, heq⟩ := Option.map_eq_some_iff.mp hlast
    obtain ⟨rfl, -⟩ := Prod.mk.inj heq
    rcases List.mem_append.mp hput with hput | hput
    · exact ih hcalls hput
    · rw [sqlGetData_eq] at hget
      obtain ⟨put'', hput'', hmk⟩ := Option.map_eq_some_iff.mp hget
      obtain ⟨rfl, -⟩ := Prod.mk.inj hmk
      obtain rfl := List.mem_singleton.mp hput
      exact ⟨_, rfl, hput''⟩

/-! ## Temporal values -/

namespace TemporalValue

variable {P : Platform} {value : TemporalValue}

/-- The outcome of a conversion up to the cell offset does not depend on the cell offset: every call
delivers the text from its beginning. -/
lemma put_setCellOffset (outChar : OutChar) {b : ApplicationDataBuffer}
    (hb : b.type = outChar.driverType) (cellOffset : ℤ) :
    value.put P (b.setCellOffset cellOffset) =
      (value.put P b).map fun put => { put with cellOffset } := by
  have htype : (b.setCellOffset cellOffset).type = b.type := rfl
  rcases outChar with _ | _
  · rw [put_of_aiChar P value hb, put_of_aiChar P value (htype.trans hb), Option.map_some,
      ApplicationDataBuffer.putCharText_setCellOffset]
  · rw [put_of_aiWchar P value hb, put_of_aiWchar P value (htype.trans hb), Option.map_some]
    have hresult : value.wcharResult P (b.setCellOffset cellOffset) = value.wcharResult P b := by
      unfold wcharResult
      rw [ApplicationDataBuffer.putWcharText_setCellOffset]
      rfl
    rw [hresult, ApplicationDataBuffer.putWcharText_setCellOffset]

/-- A conversion into a text never reports that there is no data. -/
lemma result_put (outChar : OutChar) {b : ApplicationDataBuffer}
    (hb : b.type = outChar.driverType) {put : Put} (h : value.put P b = some put) :
    put.result = .aiSuccess ∨ put.result = .aiVarlenDataTruncated := by
  rcases outChar with _ | _
  · rw [put_of_aiChar P value hb] at h
    obtain rfl := Option.some.inj h
    unfold ApplicationDataBuffer.putCharText
    split
    · exact .inl rfl
    · dsimp only
      split
      · exact .inr rfl
      · exact .inl rfl
  · rw [put_of_aiWchar P value hb] at h
    obtain rfl := Option.some.inj h
    dsimp only
    cases value with
    | date value =>
      unfold wcharResult
      dsimp only
      split
      · exact .inr rfl
      · exact .inl rfl
    | timestamp value => exact ApplicationDataBuffer.result_putWcharText P _ _ b
    | time value => exact ApplicationDataBuffer.result_putWcharText P _ _ b
    | intervalYearMonth value => exact ApplicationDataBuffer.result_putWcharText P _ _ b
    | intervalDaySecond value => exact ApplicationDataBuffer.result_putWcharText P _ _ b

end TemporalValue

/-- Every call on a temporal value gives the same piece in a buffer of the same size, whatever the
calls before it left behind. -/
lemma piece_sqlGetData_temporal (P : Platform) (value : TemporalValue) (outChar : OutChar)
    (colNum : ℕ) (targetValue : Bool) (size : ℕ) (indicator : Bool) (s s' : CellState) :
    (sqlGetData (value.put P) colNum outChar.driverType targetValue size indicator s).map
        (·.1.piece) =
      (sqlGetData (value.put P) colNum outChar.driverType targetValue size indicator s').map
        (·.1.piece) := by
  rw [sqlGetData_eq, sqlGetData_eq, TemporalValue.put_setCellOffset outChar rfl,
    TemporalValue.put_setCellOffset outChar rfl]
  simp only [Option.map_map]
  rfl

/-- Calls that never report that there is no data do not follow the protocol. -/
lemma not_deliversInPieces {getColumnData : ApplicationDataBuffer → Option Put} {outChar : OutChar}
    (h : ∀ b put, b.type = outChar.driverType → getColumnData b = some put →
      put.result = .aiSuccess ∨ put.result = .aiVarlenDataTruncated)
    (units : List ℕ) (colNum : ℕ) (indicator : Bool) (sizes : ℕ → ℕ) (s : CellState) :
    ¬ DeliversInPieces getColumnData outChar units colNum indicator sizes s := by
  rintro ⟨n, puts, last, done, t, hcalls, -, -, hdone, -⟩
  have hmem : done ∈ puts ++ [last, done] := by simp
  obtain ⟨b, hb, hput⟩ := exists_of_mem_readCalls hcalls hmem
  unfold Put.returned at hdone
  rcases h b done hb hput with hresult | hresult
  · rw [hresult] at hdone
    exact absurd hdone (by simp [DataQuery.processConversionResult])
  · rw [hresult] at hdone
    exact absurd hdone (by simp [DataQuery.processConversionResult])

/-- No temporal value is ever delivered by the protocol: the calls never come to the report that
there is no data. -/
theorem not_deliversInPieces_temporal (P : Platform) (value : TemporalValue) (outChar : OutChar)
    (colNum : ℕ) (indicator : Bool) (sizes : ℕ → ℕ) (s : CellState) :
    ¬ DeliversInPieces (value.put P) outChar (value.text.map (outChar.unit P)) colNum indicator
      sizes s := by
  apply not_deliversInPieces
  intro b put hb hput
  exact TemporalValue.result_put outChar hb hput

/-- The date 2024-02-29, read with buffers of five bytes: the second call delivers "2024" again. -/
theorem date_read_twice :
    readCalls ((TemporalValue.date ⟨1709164800000⟩).put samplePlatform) 1 .char true (fun _ => 5)
        ⟨0, 0⟩ 2 =
      some (List.replicate 2 ⟨.aiVarlenDataTruncated,
        some (.units 1 [50, 48, 50, 52, 0]), some 10, 0⟩, ⟨1, 0⟩) ∧
    ¬ DeliversInPieces ((TemporalValue.date ⟨1709164800000⟩).put samplePlatform) .char
      ((TemporalValue.date ⟨1709164800000⟩).text.map (OutChar.char.unit samplePlatform)) 1 true
      (fun _ => 5) ⟨0, 0⟩ := by
  refine ⟨by decide, ?_⟩
  apply not_deliversInPieces
  intro b put hb hput
  exact TemporalValue.result_put .char hb hput

/-! ## Texts -/

section Text

variable {P : Platform} {outChar : OutChar} {cs : Text}

/-- A text whose characters are counted where the bytes of the buffer are computed: it has no null
character, it is ASCII where strings are taken to be ASCII, and every character survives the
conversions. -/
structure Countable (P : Platform) (outChar : OutChar) (cs : Text) : Prop where
  nul : '\x00' ∉ cs
  ansi : P.ansiStringOnly → ∀ c ∈ cs, Utf8.IsAscii c
  represents : ∀ c ∈ cs, outChar.represents P c

/-- A buffer size for which a copy fills the buffer up to the terminator: any number of bytes, and
room for a wide character and the terminator. -/
def FillsUp (P : Platform) (outChar : OutChar) (size : ℕ) : Prop :=
  outChar = .char ∨ 2 * outChar.size P ≤ size

/-- The number of bytes of the whole text is found. -/
lemma Countable.bytesRequired_eq (h : Countable P outChar cs) :
    ApplicationDataBuffer.bytesRequired P outChar (Utf8.encode cs) =
      some (cs.length * outChar.size P) := by
  unfold ApplicationDataBuffer.bytesRequired
  by_cases hP : P.ansiStringOnly
  · rw [if_pos hP, Utf8.length_encode_of_isAscii (h.ansi hP)]
  · have hfits : cs.all (unitFits P.wcharSize) = true := by
      apply List.all_eq_true.mpr
      intro c hc
      have hrep := h.represents c hc
      simp only [OutChar.represents, hP, Bool.false_or, Bool.and_eq_true] at hrep
      exact hrep.1
    rw [if_neg hP, fromBytes_encode P h.nul, if_pos hfits, Option.map_some]

/-- A copy into a buffer of at most one byte only reports that the text was cut off. -/
lemma copyUtf8String_encode_tiny (h : Countable P .char cs) (hne : cs ≠ []) {size : ℕ}
    (hsize : size ≤ 1) :
    ∃ stored, copyUtf8String P .char (Utf8.encode cs) size = some ⟨0, true, stored⟩ ∧
      ∀ units, stored = some units → units = [0] := by
  have hpos : 0 < cs.length := List.length_pos_iff.mpr hne
  have hcount : min cs.length (size - 1) = 0 := by omega
  by_cases hP : P.ansiStringOnly
  · have hle : size ≤ (Utf8.encode cs).length := by
      rw [Utf8.length_encode_of_isAscii (h.ansi hP)]
      omega
    have hzero : size - 1 = 0 := by omega
    refine ⟨if 0 < size then some [0] else none, ?_, ?_⟩
    · simp [copyUtf8String, copyUtf8StringToSqlCharString, hP, cString_encode h.nul, hle, hzero]
    · intro units hunits
      split at hunits
      · exact (Option.some.inj hunits).symm
      · exact absurd hunits (by simp)
  · have hfits : cs.all (unitFits P.wcharSize) = true := by
      apply List.all_eq_true.mpr
      intro c hc
      have hrep := h.represents c hc
      simp only [OutChar.represents, hP, Bool.false_or, Bool.and_eq_true] at hrep
      exact hrep.1
    refine ⟨none, ?_, by simp⟩
    simp [copyUtf8String, copyUtf8StringToSqlCharString, hP, fromBytes_encode P h.nul, hfits,
      hcount, hpos]

/-- A copy fills the buffer up to the terminator, or ends with the text. -/
lemma copyUtf8String_encode_fillsUp (h : Countable P outChar cs) (hne : cs ≠ []) {size : ℕ}
    (hsize : FillsUp P outChar size) :
    ∃ stored, copyUtf8String P outChar (Utf8.encode cs) size =
        some ⟨min cs.length (size / outChar.size P - 1) * outChar.size P,
          decide (size / outChar.size P - 1 < cs.length), stored⟩ ∧
      ∀ result indicator cellOffset,
        (Put.mk result (stored.map (Stored.units (outChar.size P))) indicator cellOffset).piece =
          (cs.take (size / outChar.size P - 1)).map (outChar.unit P) := by
  by_cases hlarge : 2 * outChar.size P ≤ size
  · refine ⟨_, copyUtf8String_encode h.nul h.represents (fun _ hP => h.ansi hP) hne hlarge, ?_⟩
    intro result indicator cellOffset
    apply takeWhile_map_unit
    intro hmem
    exact h.nul (List.mem_of_mem_take hmem)
  · obtain rfl : outChar = .char := hsize.resolve_right hlarge
    simp only [OutChar.size_char, Nat.div_one, Nat.mul_one] at hlarge ⊢
    have hpos : 0 < cs.length := List.length_pos_iff.mpr hne
    have hzero : size - 1 = 0 := by omega
    have htiny : size ≤ 1 := by omega
    obtain ⟨stored, hcopy, hstored⟩ := copyUtf8String_encode_tiny h hne htiny
    refine ⟨stored, ?_, ?_⟩
    · rw [hcopy, hzero]
      simp [hpos]
    · intro result indicator cellOffset
      rw [hzero]
      rcases stored with _ | units
      · rfl
      · rw [hstored units rfl]
        rfl

/-- The end of a countable text is countable. -/
lemma Countable.drop (h : Countable P outChar cs) (k : ℕ) : Countable P outChar (cs.drop k) where
  nul hmem := h.nul (List.mem_of_mem_drop hmem)
  ansi hP c hc := h.ansi hP c (List.mem_of_mem_drop hc)
  represents c hc := h.represents c (List.mem_of_mem_drop hc)

/-- What a call writes to the indicator when it has brought the number of delivered characters to
`delivered`: the bytes that are left, or those of the whole text when nothing is left. -/
def bytesLeft (P : Platform) (outChar : OutChar) (cs : Text) (delivered : ℕ) : ℕ :=
  if delivered < cs.length then (cs.length - delivered) * outChar.size P
  else cs.length * outChar.size P

/-- As long as something is left, it becomes less by the bytes of the characters delivered. -/
lemma bytesLeft_add {delivered count : ℕ} (h : delivered + count < cs.length) :
    bytesLeft P outChar cs (delivered + count) + count * outChar.size P =
      bytesLeft P outChar cs delivered := by
  have hlt : delivered < cs.length := by omega
  rw [bytesLeft, bytesLeft, if_pos h, if_pos hlt, ← Nat.add_mul]
  congr 1
  omega

/-- A call behind the first `k` characters, which are ASCII, delivers as many of the next ones as
there is room for, and writes to the indicator how many bytes are left. -/
lemma putStrToStrBuffer_countable (h : Countable P outChar cs) {b : ApplicationDataBuffer}
    (hbuffer : b.buffer = true) {k : ℕ} (hoffset : b.cellOffset = k) (hk : k < cs.length)
    (hstart : ∀ c ∈ cs.take k, Utf8.IsAscii c) (hsize : FillsUp P outChar b.buflen) :
    ∃ put, b.putStrToStrBuffer P outChar (Utf8.encode cs) = some put ∧
      put.piece = ((cs.drop k).take (b.buflen / outChar.size P - 1)).map (outChar.unit P) ∧
      put.indicator = b.resLen (bytesLeft P outChar cs (k + put.piece.length)) ∧
      if b.buflen / outChar.size P - 1 < cs.length - k then
        put.result = .aiVarlenDataTruncated ∧
          put.cellOffset = k + (b.buflen / outChar.size P : ℕ) - 1
      else put.result = .aiSuccess := by
  have hpos := outChar.size_pos P
  have hlt : ¬ cs.length * outChar.size P ≤ k * outChar.size P := by
    have := (Nat.mul_lt_mul_right hpos).mpr hk
    omega
  obtain ⟨stored, hcopy, hpiece⟩ :=
    copyUtf8String_encode_fillsUp (h.drop k) (by simpa using hk) hsize
  unfold ApplicationDataBuffer.putStrToStrBuffer
  simp only [h.bytesRequired_eq, Option.bind_some, hbuffer, Bool.not_true, Bool.false_eq_true,
    if_false, hoffset, Int.toNat_natCast, hlt, Utf8.drop_encode_of_isAscii hstart, hcopy,
    Option.map_some]
  simp only [List.length_drop] at hpiece ⊢
  generalize hroom : b.buflen / outChar.size P - 1 = room at hpiece ⊢
  have hlength : (((cs.drop k).take room).map (outChar.unit P)).length =
      min room (cs.length - k) := by simp
  -- the bytes delivered up to the end of this call
  have htotal : k * outChar.size P + min (cs.length - k) room * outChar.size P =
      (k + min room (cs.length - k)) * outChar.size P := by
    rw [Nat.min_comm, Nat.add_mul]
  have hremaining : (if cs.length * outChar.size P ≠
        k * outChar.size P + min (cs.length - k) room * outChar.size P then
      ((cs.length * outChar.size P : ℕ) : ℤ) -
        ((k * outChar.size P + min (cs.length - k) room * outChar.size P : ℕ) : ℤ)
      else (cs.length * outChar.size P : ℕ)) =
      (bytesLeft P outChar cs (k + min room (cs.length - k)) : ℕ) := by
    rw [htotal, bytesLeft]
    by_cases hleft : k + min room (cs.length - k) < cs.length
    · have hne : cs.length * outChar.size P ≠ (k + min room (cs.length - k)) * outChar.size P := by
        have := (Nat.mul_lt_mul_right hpos).mpr hleft
        omega
      have hle : (k + min room (cs.length - k)) * outChar.size P ≤ cs.length * outChar.size P :=
        Nat.mul_le_mul_right _ hleft.le
      rw [if_pos hne, if_pos hleft, Nat.sub_mul, Int.ofNat_sub hle]
    · have hall : k + min room (cs.length - k) = cs.length := by omega
      rw [hall]
      simp
  by_cases htrunc : room < cs.length - k
  · simp only [htrunc, decide_true, if_true]
    refine ⟨_, rfl, hpiece _ _ _, ?_, rfl, rfl⟩
    rw [hpiece, hlength, ← hremaining]
  · simp only [htrunc, decide_false, if_false, Bool.false_eq_true]
    refine ⟨_, rfl, hpiece _ _ _, ?_, rfl⟩
    rw [hpiece, hlength, ← hremaining]

/-- A call with a wide buffer of no bytes delivers nothing, and writes how many bytes are left. -/
lemma putStrToStrBuffer_empty (h : Countable P .sqlWchar cs) {b : ApplicationDataBuffer}
    (hbuffer : b.buffer = true) {k : ℕ} (hoffset : b.cellOffset = k) (hk : k < cs.length)
    (hsize : b.buflen = 0) :
    ∃ put, b.putStrToStrBuffer P .sqlWchar (Utf8.encode cs) = some put ∧ put.piece = [] ∧
      put.result = .aiSuccess ∧ put.indicator = b.resLen (bytesLeft P .sqlWchar cs k) := by
  have hlt : k * P.sqlWcharSize < cs.length * P.sqlWcharSize :=
    (Nat.mul_lt_mul_right P.sqlWcharSize_pos).mpr hk
  have hle : ¬ cs.length * P.sqlWcharSize ≤ k * P.sqlWcharSize := by omega
  have hne : cs.length * P.sqlWcharSize ≠ k * P.sqlWcharSize := by omega
  unfold ApplicationDataBuffer.putStrToStrBuffer
  simp only [h.bytesRequired_eq, Option.bind_some, hbuffer, Bool.not_true, Bool.false_eq_true,
    if_false, hoffset, Int.toNat_natCast, OutChar.size_sqlWchar, hle, copyUtf8String,
    copyUtf8StringToWcharString, hsize, and_self, if_true, Option.map_some, Nat.add_zero, hne,
    ne_eq, not_false_eq_true]
  refine ⟨_, rfl, rfl, rfl, ?_⟩
  rw [bytesLeft, if_pos hk, Nat.sub_mul, OutChar.size_sqlWchar, Int.ofNat_sub hlt.le]

/-- Without a data pointer a call writes the bytes of the whole text. -/
lemma putStrToStrBuffer_null (h : Countable P outChar cs) {b : ApplicationDataBuffer}
    (hbuffer : b.buffer = false) :
    b.putStrToStrBuffer P outChar (Utf8.encode cs) =
      some ⟨.aiSuccess, none, b.resLen (cs.length * outChar.size P : ℕ), b.cellOffset⟩ := by
  unfold ApplicationDataBuffer.putStrToStrBuffer
  simp only [h.bytesRequired_eq, Option.bind_some, hbuffer, Bool.not_false, if_true]

/-- A buffer of an earlier piece: it is filled up, and has room for the terminator. -/
def HoldsPiece (P : Platform) (outChar : OutChar) (size : ℕ) : Prop :=
  FillsUp P outChar size ∧ outChar.size P ≤ size

/-- Behind calls that all reported truncated data and delivered ASCII characters, the column is read
on behind the characters delivered, and there are more. -/
lemma offsetOf_readCalls {value : TextValue} (hvalue : ∀ v, value ≠ .temporal v)
    (h : Countable P outChar value.text) (hne : value.text ≠ []) {colNum : ℕ} {indicator : Bool}
    {sizes : ℕ → ℕ} {s t : CellState} (hs : s.offsetOf colNum = 0) {n : ℕ}
    (hsizes : ∀ k < n, HoldsPiece P outChar (sizes k)) {puts : List Put}
    (hcalls : readCalls (value.put P) colNum outChar indicator sizes s n = some (puts, t))
    (htrunc : ∀ put ∈ puts, put.result = .aiVarlenDataTruncated)
    (hascii : ∀ c ∈ value.text.take (puts.flatMap Put.piece).length, Utf8.IsAscii c) :
    t.offsetOf colNum = (puts.flatMap Put.piece).length ∧
      (puts.flatMap Put.piece).length < value.text.length := by
  induction n generalizing puts t with
  | zero =>
    obtain ⟨rfl, rfl⟩ := Prod.mk.inj (Option.some.inj hcalls)
    simpa [hs] using List.length_pos_iff.mpr hne
  | succ n ih =>
    obtain ⟨⟨puts', t'⟩, hcalls', hlast⟩ := Option.bind_eq_some_iff.mp hcalls
    obtain ⟨⟨put, t''⟩, hget, heq⟩ := Option.map_eq_some_iff.mp hlast
    obtain ⟨rfl, rfl⟩ := Prod.mk.inj heq
    have hascii' : ∀ c ∈ value.text.take (puts'.flatMap Put.piece).length, Utf8.IsAscii c := by
      intro c hc
      apply hascii
      refine List.take_subset_take_left _ ?_ hc
      rw [List.flatMap_append, List.length_append]
      omega
    obtain ⟨hoffset, hmore⟩ := ih (fun k hk => hsizes k (by omega)) hcalls'
      (fun put hput => htrunc put (List.mem_append_left _ hput)) hascii'
    rw [sqlGetData_eq, hoffset] at hget
    obtain ⟨put', hput, hmk⟩ := Option.map_eq_some_iff.mp hget
    obtain ⟨rfl, rfl⟩ := Prod.mk.inj hmk
    obtain ⟨hfills, hroom⟩ := hsizes n (Nat.lt_succ_self n)
    rw [value.put_eq_putStrToStrBuffer P outChar hvalue rfl] at hput
    obtain ⟨put'', hput'', hpiece, -, hresult⟩ := putStrToStrBuffer_countable
      (b := (ApplicationDataBuffer.new outChar.driverType true (sizes n) indicator).setCellOffset
        (puts'.flatMap Put.piece).length) h rfl rfl hmore hascii' hfills
    obtain rfl := Option.some.inj (hput.symm.trans hput'')
    have hpos : 1 ≤ sizes n / outChar.size P :=
      (Nat.one_le_div_iff (outChar.size_pos P)).mpr hroom
    have hresult' : put'.result = .aiVarlenDataTruncated := htrunc put' (by simp)
    split at hresult
    · next hlt =>
      change sizes n / outChar.size P - 1 < _ at hlt
      have hlength : put'.piece.length = sizes n / outChar.size P - 1 := by
        rw [hpiece, List.length_map, List.length_take, List.length_drop]
        exact Nat.min_eq_left hlt.le
      rw [offsetOf_mk, hresult.2, List.flatMap_append, List.length_append, List.flatMap_singleton,
        hlength]
      refine ⟨?_, by omega⟩
      change _ + ((sizes n / outChar.size P : ℕ) : ℤ) - 1 = _
      omega
    · rw [hresult] at hresult'
      exact absurd hresult' (by decide)

/-- What the indicator says about a string, an integer or a boolean, after any number of pieces of
ASCII characters that were delivered into buffers with room. Without a data pointer it is the number of bytes of the whole
text. With a buffer it is the number of bytes that are left behind the call, and again that of the
whole text when the call leaves nothing; so it becomes less by the bytes delivered. -/
def IndicatorLaw (P : Platform) (outChar : OutChar) (value : TextValue) : Prop :=
  ∀ (colNum : ℕ) (sizes : ℕ → ℕ) (s : CellState) (n : ℕ) (puts : List Put) (t : CellState),
    s.offsetOf colNum = 0 → (∀ k < n, HoldsPiece P outChar (sizes k)) →
    readCalls (value.put P) colNum outChar true sizes s n = some (puts, t) →
    (∀ put ∈ puts, put.result = .aiVarlenDataTruncated) →
    (∀ c ∈ value.text.take (puts.flatMap Put.piece).length, Utf8.IsAscii c) →
      (∀ size, ∃ put t', sqlGetData (value.put P) colNum outChar.driverType false size true t =
          some (put, t') ∧
        put.indicator = some ((value.text.length * outChar.size P : ℕ) : ℤ)) ∧
      ∀ size, FillsUp P outChar size ∨ size = 0 →
        ∃ put t', sqlGetData (value.put P) colNum outChar.driverType true size true t =
            some (put, t') ∧
          put.indicator =
            some ((bytesLeft P outChar value.text ((puts ++ [put]).flatMap Put.piece).length : ℕ) :
              ℤ) ∧
          (put.result = .aiVarlenDataTruncated →
            bytesLeft P outChar value.text ((puts ++ [put]).flatMap Put.piece).length +
                put.piece.length * outChar.size P =
              bytesLeft P outChar value.text (puts.flatMap Put.piece).length)

/-- The law holds for texts that are countable. -/
lemma indicatorLaw_of_countable {value : TextValue} (hvalue : ∀ v, value ≠ .temporal v)
    (h : Countable P outChar value.text) (hne : value.text ≠ []) : IndicatorLaw P outChar value := by
  intro colNum sizes s n puts t hs hsizes hcalls htrunc hascii
  obtain ⟨hoffset, hmore⟩ := offsetOf_readCalls hvalue h hne hs hsizes hcalls htrunc hascii
  have hput : ∀ (targetValue : Bool) (size : ℕ), value.put P
      ((ApplicationDataBuffer.new outChar.driverType targetValue size true).setCellOffset
        (puts.flatMap Put.piece).length) =
      ((ApplicationDataBuffer.new outChar.driverType targetValue size true).setCellOffset
        (puts.flatMap Put.piece).length).putStrToStrBuffer P outChar (Utf8.encode value.text) :=
    fun targetValue size => value.put_eq_putStrToStrBuffer P outChar hvalue rfl
  constructor
  · intro size
    have hget : sqlGetData (value.put P) colNum outChar.driverType false size true t =
        some (⟨.aiSuccess, none, some (value.text.length * outChar.size P : ℕ),
          (puts.flatMap Put.piece).length⟩, ⟨colNum, (puts.flatMap Put.piece).length⟩) := by
      rw [sqlGetData_eq, hoffset, hput false size, putStrToStrBuffer_null h rfl, Option.map_some]
      rfl
    exact ⟨_, _, hget, rfl⟩
  · intro size hsize
    by_cases hfills : FillsUp P outChar size
    · obtain ⟨put, hget, hpiece, hindicator, hresult⟩ := putStrToStrBuffer_countable
        (b := (ApplicationDataBuffer.new outChar.driverType true size true).setCellOffset
          (puts.flatMap Put.piece).length) h rfl rfl hmore hascii hfills
      refine ⟨put, ⟨colNum, put.cellOffset⟩, ?_, ?_, ?_⟩
      · rw [sqlGetData_eq, hoffset, hput true size, hget, Option.map_some]
      · rw [hindicator, List.flatMap_append, List.length_append, List.flatMap_singleton]
        rfl
      · intro htrunc'
        rw [List.flatMap_append, List.length_append, List.flatMap_singleton]
        apply bytesLeft_add
        split at hresult
        · next hlt =>
          rw [hpiece, List.length_map, List.length_take, List.length_drop]
          omega
        · rw [hresult] at htrunc'
          exact absurd htrunc' (by decide)
    · -- a wide buffer of no bytes
      obtain rfl : size = 0 := hsize.resolve_left hfills
      obtain rfl : outChar = .sqlWchar := by
        rcases outChar with _ | _
        · exact absurd (.inl rfl) hfills
        · rfl
      obtain ⟨put, hget, hpiece, hresult, hindicator⟩ := putStrToStrBuffer_empty
        (b := (ApplicationDataBuffer.new OutChar.sqlWchar.driverType true 0 true).setCellOffset
          (puts.flatMap Put.piece).length) h rfl rfl hmore rfl
      refine ⟨put, ⟨colNum, put.cellOffset⟩, ?_, ?_, ?_⟩
      · rw [sqlGetData_eq, hoffset, hput true 0, hget, Option.map_some]
      · rw [hindicator, List.flatMap_append, List.flatMap_singleton, hpiece, List.append_nil]
        rfl
      · rw [hresult]
        intro htrunc'
        exact absurd htrunc' (by decide)

/-- A temporal value whose text has the length that the conversion assumes has the bytes of the
whole text as its indicator in each call for characters. -/
lemma indicator_put_temporal {value : TemporalValue} (hlength : value.text.length + 1 = value.valLen)
    {b : ApplicationDataBuffer} (hb : b.type = .aiChar) :
    ∃ put, value.put P b = some put ∧ put.indicator = b.resLen value.text.length := by
  refine ⟨_, value.put_of_aiChar P hb, ?_⟩
  unfold ApplicationDataBuffer.putCharText
  rw [← hlength, Nat.add_sub_cancel]
  split
  · rfl
  · dsimp only
    split <;> rfl

end Text

/-- The indicator of the conversions to a text. -/
theorem lengthIndicator (P : Platform) (outChar : OutChar) :
    (∀ value : TextValue, (∀ v, value ≠ .temporal v) → Countable P outChar value.text →
      value.text ≠ [] → IndicatorLaw P outChar value) ∧
    ∀ value : TemporalValue, value.text.length + 1 = value.valLen →
      ∀ b : ApplicationDataBuffer, b.type = .aiChar → b.reslen = true →
        ∃ put, value.put P b = some put ∧ put.indicator = some (value.text.length : ℤ) := by
  constructor
  · intro value hvalue h hne
    exact indicatorLaw_of_countable hvalue h hne
  · intro value hlength b hb hreslen
    obtain ⟨put, hput, hindicator⟩ := indicator_put_temporal (P := P) hlength hb
    refine ⟨put, hput, ?_⟩
    rw [hindicator, ApplicationDataBuffer.resLen, if_pos hreslen]

/-- The law at the text "abcé" in characters, and the indicator of the date of the epoch. -/
theorem lengthIndicator_accent_last :
    IndicatorLaw samplePlatform .sqlWchar (.string ['a', 'b', 'c', 'é']) ∧
      ∃ put, (TemporalValue.date ⟨0⟩).put samplePlatform
          (ApplicationDataBuffer.new .aiChar true 5 true) = some put ∧
        put.indicator = some ((TemporalValue.date ⟨0⟩).text.length : ℤ) := by
  refine ⟨(lengthIndicator samplePlatform .sqlWchar).1 (.string ['a', 'b', 'c', 'é']) ?_ ?_ ?_,
    (lengthIndicator samplePlatform .char).2 (.date ⟨0⟩) ?_ _ rfl rfl⟩
  · simp
  · constructor
    · decide
    · simp [samplePlatform]
    · simp [TextValue.text, OutChar.represents, unitFits, samplePlatform]
  · exact List.cons_ne_nil _ _
  · decide

/-- A buffer of three bytes for "abcdefgh": the indicator is the 6 bytes that are left behind the
call, not the 8 bytes that were to be delivered before it. -/
theorem indicator_behind_call :
    ((TextValue.string ['a', 'b', 'c', 'd', 'e', 'f', 'g', 'h']).put samplePlatform
      (ApplicationDataBuffer.new .aiChar true 3 true)).map Put.indicator = some (some 6) ∧
    (6 : ℤ) ≠ ((TextValue.string ['a', 'b', 'c', 'd', 'e', 'f', 'g', 'h']).text.length *
      OutChar.char.size samplePlatform : ℕ) := by
  decide

end TimestreamOdbc
