import TimestreamOdbc.App.Milliseconds
import TimestreamOdbc.App.WideCopy

/-!
# Getting temporal values from application buffers

`GetDate`, `GetTimestamp` and `GetTime` read a buffer of the application, as the values of parameters
are read: the members of a structure, or the numbers that `sscanf` finds in a text.
-/

namespace TimestreamOdbc

/-! ## The functions -/

/-- What is behind the pointers of a buffer: the object at the data pointer, and the indicator. -/
structure Held where
  data : Stored
  indicator : ℤ
  deriving DecidableEq, Repr

/-- What is behind the pointers after a conversion. A text is read no further than it was written. -/
def Put.held (put : Put) (previous : Held) : Held where
  data := put.stored.getD previous.data
  indicator := put.indicator.getD previous.indicator

/-- `SqlCharToString` of the bytes from the pointer on, which is null or not. -/
def Utility.sqlCharToString (sqlStr : Option (List UInt8)) (sqlStrLen : ℤ) : List UInt8 :=
  match sqlStr with
  | none => []
  | some bytes =>
    if sqlStrLen = sqlNts then cString bytes
    else if 0 < sqlStrLen then bytes.take sqlStrLen.toNat
    else []

/-- `"%d-%d-%d %d:%d:%d"`. -/
def readDateTimeFormat : List ScanDirective :=
  [.int none, .char '-', .int none, .char '-', .int none, .space, .int none, .char ':', .int none,
    .char ':', .int none]

/-- `"%d:%d:%d"`. -/
def readTimeFormat : List ScanDirective := [.int none, .char ':', .int none, .char ':', .int none]

namespace ApplicationDataBuffer

/-- `IsDataAtExec`: `SQL_LEN_DATA_AT_EXEC` of a length or `SQL_DATA_AT_EXEC` is in the indicator. -/
def isDataAtExec (held : Held) (b : ApplicationDataBuffer) : Bool :=
  let ilen := held.indicator.bmod (2 ^ 32)
  b.reslen && (ilen ≤ -100 || ilen = -2)

/-- `GetDataAtExecSize` of a text. -/
def getDataAtExecSize (held : Held) (b : ApplicationDataBuffer) : ℤ :=
  let ilen := held.indicator.bmod (2 ^ 32)
  let length := if ilen ≤ -100 then -ilen - 100 else 0
  if !b.reslen then 0
  else if b.type = .aiWchar then (length * 2).bmod (2 ^ 32)
  else length

/-- `GetInputSize` of a text. -/
def getInputSize (held : Held) (b : ApplicationDataBuffer) : ℤ :=
  if b.isDataAtExec held then b.getDataAtExecSize held
  else if b.reslen then held.indicator
  else Utility.sqlNts

/-- The text in front of the terminator that a reader hands to `sscanf`; nothing when the buffer does
not hold characters of its type, or the conversion throws. -/
def scannedText (P : Platform) (held : Held) (b : ApplicationDataBuffer) : Option Text :=
  let paramLen := (b.getInputSize held).bmod (2 ^ 32)
  let str : Option (List UInt8) :=
    match b.type, held.data with
    | .aiChar, .units 1 codes =>
      some (Utility.sqlCharToString (if b.buffer then some (codes.map Nat.toUInt8) else none) paramLen)
    | .aiWchar, .units unitSize codes =>
      if unitSize = P.sqlWcharSize then
        Utility.sqlWcharToString P (if b.buffer then some codes else none) paramLen true
      else none
    | _, _ => none
  str.map fun bytes => (cString bytes).map fun byte => Char.ofNat byte.toNat

/-- The switch of `GetDate` and of `GetTimestamp`: the broken-down time that they read. Nothing when
another object than the one of the type is behind the data pointer. -/
def readDateTime (P : Platform) (held : Held) (b : ApplicationDataBuffer) : Option Tm :=
  match b.type with
  | .aiTdate =>
    match b.buffer, held.data with
    | true, .date year month day => some ⟨year - 1900, month - 1, day, 0, 0, 0⟩
    | _, _ => none
  | .aiTtime =>
    match b.buffer, held.data with
    | true, .time hour minute second => some ⟨70, 0, 1, hour, minute, second⟩
    | _, _ => none
  | .aiTtimestamp =>
    match b.buffer, held.data with
    | true, .timestamp year month day hour minute second _ =>
      some ⟨year - 1900, month - 1, day, hour, minute, second⟩
    | _, _ => none
  | .aiChar | .aiWchar =>
    if b.getInputSize held = 0 then some .zero
    else (b.scannedText P held).map fun text => tmOfScanned (sscanf readDateTimeFormat text)
  | _ => some .zero

/-- `GetDate`. -/
def getDate (P : Platform) (held : Held) (b : ApplicationDataBuffer) : Option Date :=
  (b.readDateTime P held).map fun tmTime => ⟨timegm tmTime * 1000⟩

/-- `GetTimestamp`: there are nanoseconds only in the structure of a timestamp. -/
def getTimestamp (P : Platform) (held : Held) (b : ApplicationDataBuffer) : Option Timestamp :=
  let nanos :=
    match b.type, held.data with
    | .aiTtimestamp, .timestamp _ _ _ _ _ _ fraction => fraction.bmod (2 ^ 32)
    | _, _ => 0
  (b.readDateTime P held).map fun tmTime => ⟨timegm tmTime, nanos⟩

/-- The switch of `GetTime`, on the day of the epoch. -/
def readTime (P : Platform) (held : Held) (b : ApplicationDataBuffer) : Option Tm :=
  match b.type with
  | .aiTtime =>
    match b.buffer, held.data with
    | true, .time hour minute second => some ⟨70, 0, 1, hour, minute, second⟩
    | _, _ => none
  | .aiTtimestamp =>
    match b.buffer, held.data with
    | true, .timestamp _ _ _ hour minute second _ => some ⟨70, 0, 1, hour, minute, second⟩
    | _, _ => none
  | .aiChar | .aiWchar =>
    if b.getInputSize held = 0 then some ⟨70, 0, 1, 0, 0, 0⟩
    else
      (b.scannedText P held).map fun text =>
        let assigned := sscanf readTimeFormat text
        ⟨70, 0, 1, assigned.getD 0 0, assigned.getD 1 0, assigned.getD 2 0⟩
  | _ => some ⟨70, 0, 1, 0, 0, 0⟩

/-- `GetTime`: the seconds are narrowed to an `int32_t`, and there are no nanoseconds. -/
def getTime (P : Platform) (held : Held) (b : ApplicationDataBuffer) : Option Time :=
  (b.readTime P held).map fun tmTime => ⟨(timegm tmTime).bmod (2 ^ 32), 0⟩

end ApplicationDataBuffer

/-! ## Scanning printed numbers -/

lemma isDigit_of_mem_toDigits {n : ℕ} {c : Char} (h : c ∈ Nat.toDigits 10 n) : c.isDigit = true :=
  Nat.isDigit_of_mem_toDigits (by decide) (by decide) h

/-- A printed number is scanned. -/
lemma scanNumber_printBlank (width : ℕ) (n : ℤ) {rest : Text}
    (hrest : ∀ c ∈ rest.head?, c.isDigit = false) :
    scanNumber none (printBlank width n ++ rest) = some (n, rest) := by
  have hne : Nat.toDigits 10 n.natAbs ≠ [] := Nat.toDigits_ne_nil
  have hdigits : ∀ c ∈ Nat.toDigits 10 n.natAbs, c.isDigit = true :=
    fun c hc => isDigit_of_mem_toDigits hc
  rw [printBlank, List.append_assoc, scanNumber_blanks, printInt]
  split
  · rw [List.cons_append, scanNumber_minus hne hdigits (.inr ⟨by simp, hrest⟩),
      Nat.ofDigitChars_ten_toDigits]
    congr 2
    omega
  · rw [scanNumber_digits hne hdigits (.inr ⟨by simp, hrest⟩), Nat.ofDigitChars_ten_toDigits]
    congr 2
    omega

/-- From the beginning of a printed number nothing is scanned, or the number, or a tenth of it at
most. -/
lemma scanNumber_take_printInt (n : ℤ) (k : ℕ) :
    scanNumber none ((printInt n).take k) = none ∨
      ∃ m : ℤ, scanNumber none ((printInt n).take k) = some (m, []) ∧
        (m = n ∨ 10 * m.natAbs ≤ n.natAbs) := by
  have hvalue : Nat.ofDigitChars 10 (Nat.toDigits 10 n.natAbs) 0 = n.natAbs :=
    Nat.ofDigitChars_ten_toDigits
  have hdigits : ∀ j, ∀ c ∈ (Nat.toDigits 10 n.natAbs).take j, c.isDigit = true :=
    fun j c hc => isDigit_of_mem_toDigits (List.mem_of_mem_take hc)
  have hpart : ∀ j, Nat.ofDigitChars 10 ((Nat.toDigits 10 n.natAbs).take j) 0 = n.natAbs ∨
      10 * Nat.ofDigitChars 10 ((Nat.toDigits 10 n.natAbs).take j) 0 ≤ n.natAbs := by
    intro j
    rcases Nat.lt_or_ge j (Nat.toDigits 10 n.natAbs).length with hlt | hge
    · right
      exact (Decimal.ofDigitChars_take_le hlt).trans hvalue.le
    · left
      rw [List.take_of_length_le hge, hvalue]
  unfold printInt
  split
  · rcases k with _ | j
    · rw [List.take_zero]
      exact .inl (by decide)
    rw [List.take_succ_cons]
    by_cases hnil : (Nat.toDigits 10 n.natAbs).take j = []
    · rw [hnil]
      exact .inl (by decide)
    · have hminus := @scanNumber_minus _ [] none hnil (hdigits j) (.inr ⟨by simp, by simp⟩)
      rw [List.append_nil] at hminus
      have := hpart j
      exact .inr ⟨_, hminus, by omega⟩
  · by_cases hnil : (Nat.toDigits 10 n.natAbs).take k = []
    · rw [hnil]
      exact .inl (by decide)
    · have hplus := @scanNumber_digits _ [] none hnil (hdigits k) (.inr ⟨by simp, by simp⟩)
      rw [List.append_nil] at hplus
      have := hpart k
      exact .inr ⟨_, hplus, by omega⟩

/-! ## The text that is read -/

section Text

variable {P : Platform} {b : ApplicationDataBuffer}

lemma IsPrinted.isAscii {text : Text} (h : IsPrinted text) : ∀ c ∈ text, Utf8.IsAscii c := by
  intro c hc
  apply Char.utf8Size_eq_one_iff.mpr
  exact UInt32.le_iff_toNat_le.mpr (Nat.le_of_lt_succ (h c hc).2)

/-- The bytes of a printed text are its characters. -/
lemma map_charOfNat_encode {text : Text} (h : IsPrinted text) :
    (cString (Utf8.encode text)).map (fun byte => Char.ofNat byte.toNat) = text := by
  have hcodes : ((Utf8.encode text).map UInt8.toNat).map Char.ofNat = text := by
    rw [map_toNat_encode h.isAscii, List.map_map]
    exact List.map_id'' (fun c => Char.ofNat_toNat c) text
  rw [cString_eq_self (Utf8.zero_notMem_encode h.nul_notMem)]
  rw [List.map_map] at hcodes
  exact hcodes

/-- The codes of a printed text are its bytes. -/
lemma map_toUInt8_codes {text : Text} (h : IsPrinted text) :
    (text.map Char.toNat).map Nat.toUInt8 = Utf8.encode text := by
  rw [← map_toNat_encode h.isAscii, List.map_map]
  exact List.map_id'' (fun byte => UInt8.ofNat_toNat) _

/-- Of a printed wide text as many characters are read as a number of bytes has room for. -/
lemma sqlWcharToString_take (P : Platform) {text : Text} (h : IsPrinted text) {n : ℕ} (hpos : 0 < n)
    (hle : n / P.sqlWcharSize ≤ text.length) :
    Utility.sqlWcharToString P (some (text.map Char.toNat ++ [0])) n true =
      some (Utf8.encode (text.take (n / P.sqlWcharSize))) := by
  have hpart : IsPrinted (text.take (n / P.sqlWcharSize)) := h.of_subset (List.take_subset _ _)
  have hnts : (n : ℤ) ≠ Utility.sqlNts := by
    rw [Utility.sqlNts]
    omega
  have htake : (text.map Char.toNat ++ [0]).take (n / P.sqlWcharSize) =
      (text.take (n / P.sqlWcharSize)).map Char.toNat := by
    rw [List.take_append_of_le_length (by rwa [List.length_map]), List.map_take]
  have hzero : ∀ code ∈ (text.take (n / P.sqlWcharSize)).map Char.toNat, decide (code ≠ 0) = true := by
    intro code hcode
    obtain ⟨c, hc, rfl⟩ := List.mem_map.mp hcode
    exact decide_eq_true (hpart c hc).1.ne'
  have hkept : ((text.take (n / P.sqlWcharSize)).map Char.toNat).map (· % 2 ^ (8 * P.wcharSize)) =
      (text.take (n / P.sqlWcharSize)).map Char.toNat := by
    rw [List.map_map]
    apply List.map_congr_left
    intro c hc
    exact (mod_wcharSize_eq_iff P c).mpr (unitFits_of_lt (hpart c hc).2 _)
  simp only [Utility.sqlWcharToString, hnts, if_false, Int.natCast_pos.mpr hpos, if_true,
    Int.toNat_natCast, htake, List.takeWhile_eq_self_iff.mpr hzero, hkept]
  exact (toBytes_eq_some_iff _ _).mpr ⟨_, rfl, rfl⟩

/-- Into characters a value is put as a text, of which a reader gets as much as the length is long
that the conversion took it to have: in bytes. -/
lemma exists_put_scannedText (P : Platform) {value : TemporalValue} (outChar : OutChar)
    {b : ApplicationDataBuffer} (htype : b.type = outChar.driverType) (hbuffer : b.buffer = true)
    (hreslen : b.reslen = true) (hlen : value.valLen ≤ value.printed.length + 1)
    (hlong : 1 < value.valLen) (hshort : value.valLen < 2 ^ 31)
    (hbuflen : (value.printed.length + 1) * outChar.size P ≤ b.buflen) (previous : Held) :
    ∃ put, value.put P b = some put ∧ b.getInputSize (put.held previous) ≠ 0 ∧
      b.scannedText P (put.held previous) =
        some (value.printed.take ((value.valLen - 1) / outChar.size P)) := by
  have hprinted := value.isPrinted_printed
  have hlength : (((value.valLen - 1 : ℕ) : ℤ)).bmod (2 ^ 32) = (value.valLen - 1 : ℕ) := by
    rw [Int.bmod_def]
    split <;> omega
  have hsize : ∀ data,
      b.getInputSize ⟨data, ((value.valLen - 1 : ℕ) : ℤ)⟩ = (value.valLen - 1 : ℕ) := by
    intro data
    have hexec : b.isDataAtExec ⟨data, ((value.valLen - 1 : ℕ) : ℤ)⟩ = false := by
      simp only [ApplicationDataBuffer.isDataAtExec, hlength, hreslen, Bool.true_and]
      rw [Bool.or_eq_false_iff, decide_eq_false_iff_not, decide_eq_false_iff_not]
      omega
    simp [ApplicationDataBuffer.getInputSize, hexec, hreslen]
  have hnts : ((value.valLen - 1 : ℕ) : ℤ) ≠ Utility.sqlNts := by
    rw [Utility.sqlNts]
    omega
  have hpos : 0 < ((value.valLen - 1 : ℕ) : ℤ) := by omega
  have hpart : ∀ k, IsPrinted (value.printed.take k) :=
    fun k => hprinted.of_subset (List.take_subset _ _)
  rcases outChar with _ | _
  · simp only [OutChar.size_char, Nat.mul_one, Nat.div_one] at hbuflen ⊢
    have hroom : ¬ b.buflen < value.valLen := by omega
    have hmin : min value.valLen b.buflen = value.valLen := by omega
    refine ⟨⟨.aiSuccess, some (.units 1 (strncpy value.printed value.valLen)),
      some ((value.valLen - 1 : ℕ) : ℤ), b.cellOffset⟩, ?_, ?_, ?_⟩
    · rw [value.put_of_aiChar P htype]
      unfold ApplicationDataBuffer.putCharText ApplicationDataBuffer.resLen
      simp only [hbuffer, hreslen, hroom, hmin, Bool.not_true, Bool.false_eq_true, if_false, if_true]
    · simp only [Put.held, Option.getD_some, hsize]
      omega
    · have hcodes : (strncpy value.printed value.valLen).take (value.valLen - 1) =
          (value.printed.take (value.valLen - 1)).map Char.toNat := by
        rw [strncpy, List.take_append_of_le_length, ← List.map_take, List.take_take,
          Nat.min_eq_left (Nat.sub_le _ _)]
        rw [List.length_map, List.length_take]
        omega
      have hbytes : ((strncpy value.printed value.valLen).map Nat.toUInt8).take (value.valLen - 1) =
          Utf8.encode (value.printed.take (value.valLen - 1)) := by
        rw [← List.map_take, hcodes, map_toUInt8_codes (hpart _)]
      simp only [Put.held, Option.getD_some, ApplicationDataBuffer.scannedText, hsize, hlength, htype,
        OutChar.driverType, hbuffer, if_true, Utility.sqlCharToString, hnts, hpos, if_false,
        Int.toNat_natCast, hbytes, Option.map_some, map_charOfNat_encode (hpart _)]
  · simp only [OutChar.size_sqlWchar] at hbuflen ⊢
    have hcopy := copyStringToBuffer_of_le P hprinted value.printed_ne_nil hbuflen
    have hheld : ({ b.putWcharText P value.printed value.valLen with
        result := value.wcharResult P b } : Put).held previous =
        ⟨.units P.sqlWcharSize (value.printed.map Char.toNat ++ [0]),
          ((value.valLen - 1 : ℕ) : ℤ)⟩ := by
      simp [Put.held, ApplicationDataBuffer.putWcharText, ApplicationDataBuffer.resLen, hbuffer,
        hreslen, hcopy]
    refine ⟨{ b.putWcharText P value.printed value.valLen with
      result := value.wcharResult P b }, value.put_of_aiWchar P htype, ?_, ?_⟩
    · rw [hheld, hsize]
      omega
    · have hread := sqlWcharToString_take P hprinted (show 0 < value.valLen - 1 by omega)
        ((Nat.div_le_self _ _).trans (show value.valLen - 1 ≤ value.printed.length by omega))
      rw [hheld]
      simp only [ApplicationDataBuffer.scannedText, hsize, hlength, htype, OutChar.driverType, hbuffer,
        if_true, hread, Option.map_some, map_charOfNat_encode (hpart _)]

end Text

end TimestreamOdbc
