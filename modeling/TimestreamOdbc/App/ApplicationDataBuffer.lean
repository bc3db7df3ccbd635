import TimestreamOdbc.CommonTypes
import TimestreamOdbc.Utility
import Mathlib.Data.Int.Notation

/-!
# Application buffers

`ApplicationDataBuffer` describes a buffer of the application: its C type, its length in bytes, and
whether there are a data and an indicator pointer.  The description is separate from the memory
behind it; a conversion says what it stores there.

The cell offset is negative for a buffer that gets every value from its beginning.  A buffer of
`SQLGetData` has the offset of the next piece.
-/

namespace TimestreamOdbc

/-- The interval types of `OdbcNativeType::Type`. -/
inductive IntervalKind where
  | year
  | month
  | day
  | hour
  | minute
  | second
  | yearToMonth
  | dayToHour
  | dayToMinute
  | dayToSecond
  | hourToMinute
  | hourToSecond
  | minuteToSecond
  deriving DecidableEq, Repr

/-- `OdbcNativeType::Type`. -/
inductive OdbcNativeType where
  | aiChar
  | aiWchar
  | aiSignedShort
  | aiUnsignedShort
  | aiSignedLong
  | aiUnsignedLong
  | aiFloat
  | aiDouble
  | aiBit
  | aiSignedTinyint
  | aiUnsignedTinyint
  | aiSignedBigint
  | aiUnsignedBigint
  | aiBinary
  | aiTdate
  | aiTtime
  | aiTtimestamp
  | aiNumeric
  | aiInterval (kind : IntervalKind)
  | aiDefault
  | aiUnsupported
  deriving DecidableEq, Repr

/-- The members of the interval structures. -/
inductive IntervalField where
  | year
  | month
  | day
  | hour
  | minute
  | second
  | fraction
  deriving DecidableEq, Repr

/-- What a conversion stores at the data pointer: code units from the first one on, the bits of a
C number of some size, the bytes of a copied object, or the members of one of the structures. Of an
interval structure it stores the type, the sign and the listed members. A C floating-point number is
named by the integer or the text that it is converted from. A null character can also be stored in
the byte before the buffer. -/
inductive Stored where
  | units (unitSize : ℕ) (units : List ℕ)
  | nullBefore
  | scalar (size : ℕ) (bits : ℕ)
  | floating (size : ℕ) (value : ℤ)
  | floatingOfText (size : ℕ) (value : Text)
  | raw (bytes : List UInt8)
  | numeric (precision scale sign : ℕ) (val : ℕ)
  | date (year month day : ℤ)
  | time (hour minute second : ℤ)
  | timestamp (year month day hour minute second fraction : ℤ)
  | interval (kind : IntervalKind) (sign : ℕ) (fields : List (IntervalField × ℤ))
  deriving DecidableEq, Repr

/-- `ApplicationDataBuffer`: the pointers `buffer` and `reslen` are there or null. A buffer length is
never negative: `SQLBindCol` checks it, and the callers of `SQLGetData` promise it. -/
structure ApplicationDataBuffer where
  type : OdbcNativeType
  buffer : Bool
  buflen : ℕ
  reslen : Bool
  byteOffset : ℕ
  cellOffset : ℤ
  elementOffset : ℕ
  deriving DecidableEq, Repr

/-- The outcome of a conversion: the code it returns, what it stores at the data pointer, what it
writes to the indicator, and the cell offset it leaves. -/
structure Put where
  result : ConversionResult
  stored : Option Stored
  indicator : Option ℤ
  cellOffset : ℤ
  deriving DecidableEq, Repr

/-- The character types `PutStrToStrBuffer` is instantiated with. -/
inductive OutChar where
  | char
  | sqlWchar
  deriving DecidableEq, Repr

/-- The C type of a target of `SQLGetData` whose characters have the given type. -/
def OutChar.driverType : OutChar → OdbcNativeType
  | .char => .aiChar
  | .sqlWchar => .aiWchar

/-- The size of a character. -/
def OutChar.size (P : Platform) : OutChar → ℕ
  | .char => 1
  | .sqlWchar => P.sqlWcharSize

@[simp] lemma OutChar.size_char (P : Platform) : OutChar.char.size P = 1 := rfl

@[simp] lemma OutChar.size_sqlWchar (P : Platform) :
    OutChar.sqlWchar.size P = P.sqlWcharSize := rfl

lemma OutChar.size_pos (P : Platform) (outChar : OutChar) : 0 < outChar.size P := by
  cases outChar
  · exact Nat.one_pos
  · exact P.sqlWcharSize_pos

/-- The copy that fits the character type. -/
def copyUtf8String (P : Platform) (outChar : OutChar) (inBuffer : List UInt8)
    (outBufferLenBytes : ℕ) : Option Copied :=
  match outChar with
  | .char => copyUtf8StringToSqlCharString P inBuffer true outBufferLenBytes false
  | .sqlWchar => some (copyUtf8StringToWcharString P inBuffer true outBufferLenBytes false)

/-- The code unit a character becomes. The bytes of an ASCII text are copied as they are. -/
def OutChar.unit (P : Platform) : OutChar → Char → ℕ
  | .char, c => if P.ansiStringOnly then c.toNat else (P.narrow c).toNat
  | .sqlWchar, c => c.toNat

/-- Whether no conversion on the way of a character fails. -/
def OutChar.represents (P : Platform) (outChar : OutChar) (c : Char) : Bool :=
  (P.ansiStringOnly || unitFits P.wcharSize c) &&
    (outChar = .char || unitFits P.sqlWcharSize c)

namespace ApplicationDataBuffer

/-- The constructor with the members given, for a value from its beginning. -/
def new (type : OdbcNativeType) (buffer : Bool) (buflen : ℕ) (reslen : Bool) :
    ApplicationDataBuffer :=
  { type, buffer, buflen, reslen, byteOffset := 0, cellOffset := -1, elementOffset := 0 }

/-- `SetCellOffset`. -/
def setCellOffset (cellOffset : ℤ) (b : ApplicationDataBuffer) : ApplicationDataBuffer :=
  { b with cellOffset }

/-- What is written to the indicator, if there is one. -/
def resLen (b : ApplicationDataBuffer) (length : ℤ) : Option ℤ :=
  if b.reslen then some length else none

/-- The number of bytes `PutStrToStrBuffer` computes for a value; nothing when the conversion to
wide characters throws. -/
def bytesRequired (P : Platform) (outChar : OutChar) (value : List UInt8) : Option ℕ :=
  if P.ansiStringOnly then some (value.length * outChar.size P)
  else (fromBytes P value).map fun inString => inString.length * outChar.size P

/-- `PutStrToStrBuffer`; nothing when a conversion throws. The offset counts bytes of the value when
it finds the next piece, and characters of the buffer when it is moved on. -/
def putStrToStrBuffer (P : Platform) (outChar : OutChar) (value : List UInt8)
    (b : ApplicationDataBuffer) : Option Put :=
  (bytesRequired P outChar value).bind fun required =>
    if !b.buffer then some ⟨.aiSuccess, none, b.resLen required, b.cellOffset⟩
    else
      -- a negative cell offset is no continuation
      let currentCellOffset := b.cellOffset.toNat
      if required ≤ currentCellOffset * outChar.size P then
        some ⟨.aiNoData, none, none, b.cellOffset⟩
      else
        (copyUtf8String P outChar (value.drop currentCellOffset) b.buflen).map fun copied =>
          let total := currentCellOffset * outChar.size P + copied.count
          let remaining : ℤ := if required ≠ total then (required : ℤ) - total else required
          let stored := copied.stored.map (Stored.units (outChar.size P))
          if copied.isTruncated then
            ⟨.aiVarlenDataTruncated, stored, b.resLen remaining,
              currentCellOffset + (b.buflen / outChar.size P : ℕ) - 1⟩
          else
            ⟨.aiSuccess, stored, b.resLen remaining,
              if 0 ≤ b.cellOffset then (total : ℤ) else b.cellOffset⟩

end ApplicationDataBuffer

/-! ## Copying a text -/

section Copy

variable {P : Platform} {outChar : OutChar} {cs : Text} {outBufferLenBytes : ℕ}

lemma OutChar.unit_char_of_ansi (h : P.ansiStringOnly) : OutChar.char.unit P = Char.toNat := by
  funext c
  exact if_pos h

lemma OutChar.unit_char_of_not_ansi (h : ¬ P.ansiStringOnly) :
    OutChar.char.unit P = fun c => (P.narrow c).toNat := by
  funext c
  exact if_neg h

/-- The null character alone becomes the null unit. -/
lemma OutChar.unit_eq_zero_iff (P : Platform) (outChar : OutChar) (c : Char) :
    outChar.unit P c = 0 ↔ c = '\x00' := by
  rcases outChar with _ | _
  · by_cases h : P.ansiStringOnly
    · rw [OutChar.unit_char_of_ansi h]
      exact toNat_eq_zero_iff
    · rw [OutChar.unit_char_of_not_ansi h, ← P.narrow_eq_zero_iff c]
      constructor
      · intro hzero
        apply UInt8.toNat.inj
        exact hzero
      · intro hzero
        exact congrArg UInt8.toNat hzero
  · exact toNat_eq_zero_iff

/-- The bytes of an ASCII text are the codes of its characters. -/
lemma map_toNat_encode (h : ∀ c ∈ cs, Utf8.IsAscii c) :
    (Utf8.encode cs).map UInt8.toNat = cs.map Char.toNat := by
  induction cs with
  | nil => rfl
  | cons c cs ih =>
    have hc : Utf8.IsAscii c := h c List.mem_cons_self
    have hlt : c.val.toNat < 128 := hc.toNat_lt
    have hcode : c.val.toUInt8.toNat = c.toNat := by
      rw [UInt32.toNat_toUInt8]
      exact Nat.mod_eq_of_lt (by omega)
    rw [Utf8.encode_cons, Utf8.utf8EncodeChar_of_isAscii hc, List.singleton_append, List.map_cons,
      ih fun d hd => h d (List.mem_cons_of_mem _ hd), hcode, List.map_cons]

/-- A text without a null character is a C string. -/
lemma cString_encode (hnul : '\x00' ∉ cs) : cString (Utf8.encode cs) = Utf8.encode cs :=
  cString_eq_self (Utf8.zero_notMem_encode hnul)

/-- Converting a text to wide characters. -/
lemma fromBytes_encode (P : Platform) (hnul : '\x00' ∉ cs) :
    fromBytes P (Utf8.encode cs) = if cs.all (unitFits P.wcharSize) then some cs else none := by
  rw [fromBytes, cString_encode hnul, Utf8.decode_encode]

/-- Copying an ASCII text as it is. -/
lemma copyUtf8String_encode_ansi (hP : P.ansiStringOnly) (hnul : '\x00' ∉ cs)
    (hascii : ∀ c ∈ cs, Utf8.IsAscii c) (hlen : 2 ≤ outBufferLenBytes) :
    copyUtf8String P .char (Utf8.encode cs) outBufferLenBytes =
      some ⟨min cs.length (outBufferLenBytes - 1), decide (outBufferLenBytes - 1 < cs.length),
        some ((cs.take (outBufferLenBytes - 1)).map Char.toNat ++ [0])⟩ := by
  have hpos : 0 < outBufferLenBytes := by omega
  simp only [copyUtf8String, copyUtf8StringToSqlCharString, Bool.not_true, Bool.false_eq_true,
    if_false, hP, hpos, if_true, cString_encode hnul, Utf8.length_encode_of_isAscii hascii,
    List.map_take, map_toNat_encode hascii]
  split
  · next h =>
    have hlt : outBufferLenBytes - 1 < cs.length := by omega
    simp [hlt]
  · next h =>
    have hle : cs.length ≤ outBufferLenBytes - 1 := by omega
    simp [hle, List.take_of_length_le]

/-- Copying a text through wide characters. -/
lemma copyUtf8String_encode_narrow (hP : ¬ P.ansiStringOnly) (hnul : '\x00' ∉ cs)
    (hfits : cs.all (unitFits P.wcharSize)) (hne : cs ≠ []) (hlen : 2 ≤ outBufferLenBytes) :
    copyUtf8String P .char (Utf8.encode cs) outBufferLenBytes =
      some ⟨min cs.length (outBufferLenBytes - 1), decide (outBufferLenBytes - 1 < cs.length),
        some ((cs.take (outBufferLenBytes - 1)).map (fun c => (P.narrow c).toNat) ++ [0])⟩ := by
  have hpos : 0 < outBufferLenBytes := by omega
  have hcount : 0 < min cs.length (outBufferLenBytes - 1) := by
    have := List.length_pos_iff.mpr hne
    omega
  simp only [copyUtf8String, copyUtf8StringToSqlCharString, Bool.not_true, Bool.false_eq_true,
    if_false, hP, hpos, if_true, fromBytes_encode P hnul, hfits, Option.map_some, hcount]
  have htake : cs.take (min cs.length (outBufferLenBytes - 1)) = cs.take (outBufferLenBytes - 1) := by
    rw [Nat.min_comm, ← List.take_eq_take_min]
  have hdecide : (min cs.length (outBufferLenBytes - 1) < cs.length) ↔
      outBufferLenBytes - 1 < cs.length := by omega
  rw [htake, decide_eq_decide.mpr hdecide]

/-- Copying a text into wide characters. -/
lemma copyUtf8String_encode_sqlWchar (hnul : '\x00' ∉ cs)
    (hfits : ∀ c ∈ cs, unitFits P.sqlWcharSize c) (hlen : 2 * P.sqlWcharSize ≤ outBufferLenBytes) :
    copyUtf8String P .sqlWchar (Utf8.encode cs) outBufferLenBytes =
      some ⟨min cs.length (outBufferLenBytes / P.sqlWcharSize - 1) * P.sqlWcharSize,
        decide (outBufferLenBytes / P.sqlWcharSize - 1 < cs.length),
        some ((cs.take (outBufferLenBytes / P.sqlWcharSize - 1)).map Char.toNat ++ [0])⟩ := by
  have hsize := P.sqlWcharSize_pos
  have hzero : ¬ outBufferLenBytes = 0 := by omega
  have hdirect : P.sqlWcharSize < outBufferLenBytes := by omega
  simp only [copyUtf8String, copyUtf8StringToWcharString, hzero, and_false, if_false,
    Bool.true_and, hdirect, decide_true, if_true, cString_encode hnul, Utf8.convert_encode]
  generalize outBufferLenBytes / P.sqlWcharSize - 1 = room
  have htake : (cs.take room).takeWhile (unitFits P.sqlWcharSize) = cs.take room :=
    List.takeWhile_eq_self_iff.mpr fun c hc => hfits c (List.mem_of_mem_take hc)
  have hall : (cs.take room).all (unitFits P.sqlWcharSize) = true :=
    List.all_eq_true.mpr fun c hc => hfits c (List.mem_of_mem_take hc)
  rw [htake, Utf8.textStatus, if_pos hall, List.length_take, Nat.min_comm]
  split
  · next h => simp [h]
  · next h => simp [Nat.lt_of_not_le h]

/-- A copy of a text into a buffer with room for a character and the terminator stores as many
characters as there is room for. -/
lemma copyUtf8String_encode (hnul : '\x00' ∉ cs) (hrep : ∀ c ∈ cs, outChar.represents P c)
    (hansi : outChar = .char → P.ansiStringOnly → ∀ c ∈ cs, Utf8.IsAscii c) (hne : cs ≠ [])
    (hlen : 2 * outChar.size P ≤ outBufferLenBytes) :
    copyUtf8String P outChar (Utf8.encode cs) outBufferLenBytes =
      some ⟨min cs.length (outBufferLenBytes / outChar.size P - 1) * outChar.size P,
        decide (outBufferLenBytes / outChar.size P - 1 < cs.length),
        some ((cs.take (outBufferLenBytes / outChar.size P - 1)).map (outChar.unit P) ++ [0])⟩ := by
  rcases outChar with _ | _
  · simp only [OutChar.size_char, Nat.div_one, Nat.mul_one] at hlen ⊢
    by_cases hP : P.ansiStringOnly
    · rw [copyUtf8String_encode_ansi hP hnul (hansi rfl hP) hlen, OutChar.unit_char_of_ansi hP]
    · have hfits : cs.all (unitFits P.wcharSize) = true := by
        apply List.all_eq_true.mpr
        intro c hc
        simpa [OutChar.represents, hP] using hrep c hc
      rw [copyUtf8String_encode_narrow hP hnul hfits hne hlen, OutChar.unit_char_of_not_ansi hP]
  · have hfits : ∀ c ∈ cs, unitFits P.sqlWcharSize c := by
      intro c hc
      have := hrep c hc
      simp only [OutChar.represents, Bool.and_eq_true, Bool.or_eq_true, decide_eq_true_eq] at this
      simpa using this.2
    exact copyUtf8String_encode_sqlWchar hnul hfits hlen

end Copy

end TimestreamOdbc
