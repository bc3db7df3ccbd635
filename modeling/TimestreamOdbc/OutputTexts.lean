import TimestreamOdbc.ColumnAttributes
import TimestreamOdbc.Connection

/-!
# Texts that calls return

`SQLGetDiagRec`, `SQLDriverConnect` and `SQLGetInfo` copy a text to the buffer of the application and
report its length.  All of them go through `CopyStringToBuffer`, which counts what it copied, and
without a buffer what it would copy.
-/

namespace TimestreamOdbc

/-! ## The functions -/

/-- `SQLRETURN`. -/
inductive ReturnCode where
  | success
  | successWithInfo
  | error
  | noData
  | needData
  | invalidHandle
  deriving DecidableEq, Repr

/-- `SqlResultToReturnCode`. -/
def SqlResult.toReturnCode : SqlResult → ReturnCode
  | .aiSuccess => .success
  | .aiSuccessWithInfo => .successWithInfo
  | .aiError => .error
  | .aiNoData => .noData
  | .aiNeedData => .needData

/-- `GetSqlState`. -/
def SqlState.text : SqlState → String
  | .s01000GeneralWarning => "01000"
  | .s01004DataTruncated => "01004"
  | .s01S00InvalidConnectionStringAttribute => "01S00"
  | .s01S01ErrorInRow => "01S01"
  | .s01S02OptionValueChanged => "01S02"
  | .s01S07FractionalTruncation => "01S07"
  | .s07009InvalidDescriptorIndex => "07009"
  | .s22002IndicatorNeeded => "22002"
  | .s24000InvalidCursorState => "24000"
  | .s34000InvalidCursorName => "34000"
  | .s3C000DuplicateCursorName => "3C000"
  | .s08001CannotConnect => "08001"
  | .s08002AlreadyConnected => "08002"
  | .s08003NotConnected => "08003"
  | .sHY000GeneralError => "HY000"
  | .sHY003InvalidApplicationBufferType => "HY003"
  | .sHY009InvalidUseOfNullPointer => "HY009"
  | .sHY010SequenceError => "HY010"
  | .sHY016ModifyIrd => "HY016"
  | .sHY024InvalidAttributeValue => "HY024"
  | .sHY090InvalidStringOrBufferLength => "HY090"
  | .sHY091InvalidDescrFieldId => "HY091"
  | .sHY092OptionTypeOutOfRange => "HY092"
  | .sHY097ColumnTypeOutOfRange => "HY097"
  | .sHY105InvalidParameterType => "HY105"
  | .sHYC00OptionalFeatureNotImplemented => "HYC00"

/-- What a call that returns a text leaves behind: its return code, the code units stored in the
buffer from its first one on, and what it stored as the length. -/
structure TextOutcome where
  returnCode : ReturnCode
  stored : Option (List ℕ)
  length : Option ℤ
  deriving DecidableEq, Repr

/-- What `SQLGetDiagRec` leaves behind besides: the state and the native error. -/
structure DiagRecOutcome extends TextOutcome where
  sqlState : Option (List ℕ)
  nativeError : Option ℤ
  deriving DecidableEq, Repr

/-- A call that left all buffers alone. -/
def DiagRecOutcome.exited (returnCode : ReturnCode) : DiagRecOutcome :=
  ⟨⟨returnCode, none, none⟩, none, none⟩

/-- `SQLGetDiagRec` of the records of the object that the handle points to, which is null or not. The
pointers `sqlState`, `nativeError`, `msgBuffer` and `msgLen` are there or null. -/
def sqlGetDiagRec (P : Platform) (handleType : ℤ) (handle : Option (List DiagnosticRecord))
    (recNum : ℤ) (sqlState nativeError msgBuffer : Bool) (msgBufferLen : ℤ) (msgLen : Bool) :
    DiagRecOutcome :=
  -- SQL_HANDLE_ENV, SQL_HANDLE_DBC, SQL_HANDLE_STMT, SQL_HANDLE_DESC
  if handleType ∈ [1, 2, 3, 4] then
    match handle with
    | none => .exited .invalidHandle
    | some records =>
      if recNum < 1 ∨ msgBufferLen < 0 then .exited .error
      else
        match records[recNum.toNat - 1]? with
        | none => .exited .noData
        | some record =>
          let state := if sqlState then
            (Utility.copyStringToBuffer P (Utf8.encode record.sqlState.text.toList) true 6 false).stored
            else none
          let native := if nativeError then some 0 else none
          let errMsg := Utf8.encode record.message.toList
          let copied := Utility.copyStringToBuffer P errMsg msgBuffer msgBufferLen.toNat false
          -- the length of the buffer is in characters, the size of the message in bytes
          if !msgBuffer ∨ msgBufferLen < toSmallint (errMsg.length + 1) then
            if !msgLen then ⟨⟨.error, none, none⟩, state, native⟩
            else ⟨⟨.successWithInfo, copied.stored, some (toSmallint copied.count)⟩, state, native⟩
          else
            ⟨⟨.success, copied.stored, if msgLen then some (toSmallint copied.count) else none⟩, state,
              native⟩
  else .exited .invalidHandle

/-- `SQLDriverConnect` of a connection: what it leaves behind and the connection after it; nothing
when the conversion of the connection string throws. The buffer and the pointer to the length are
there or null. -/
def sqlDriverConnect {κ : Type} (P : Platform) (world : World κ) (connection : Connection κ)
    (inConnectionString : Option (List ℕ)) (inConnectionStringLen : ℤ) (outConnectionString : Bool)
    (outConnectionStringBufferLen : ℤ) (outConnectionStringLen : Bool) :
    Option (TextOutcome × Connection κ) := do
  let bytes ← Utility.sqlWcharToString P inConnectionString inConnectionStringLen false
  let connectStr ← Utf8.decode (fun _ => true) bytes
  let (result, _, connection) := connection.establish world (.connectStr connectStr)
  if result = .aiSuccess ∨ result = .aiSuccessWithInfo then
    -- whether the string was cut is not asked for
    let copied := Utility.copyStringToBuffer P (Utf8.encode connectStr) outConnectionString
      (int16ToSizeT outConnectionStringBufferLen) false
    return (⟨result.toReturnCode, copied.stored,
      if outConnectionStringLen then some (toSmallint copied.count) else none⟩, connection)
  else return (⟨result.toReturnCode, none, none⟩, connection)

/-- `ConnectionInfo`: the values by their types. -/
structure ConnectionInfo where
  strParams : ℕ → Option Text
  intParams : ℕ → Option ℕ
  shortParams : ℕ → Option ℕ

/-- What `SQLGetInfo` leaves behind: the result, the records, the code units or the number in the
buffer, and the length. -/
structure InfoOutcome where
  result : SqlResult
  records : List DiagnosticRecord
  stored : Option (List ℕ)
  number : Option ℕ
  length : Option ℤ
  deriving DecidableEq, Repr

/-- `ConnectionInfo::GetInfo`. The pointers `buf` and `reslen` are there or null. -/
def ConnectionInfo.getInfo (P : Platform) (info : ConnectionInfo) (type : ℕ) (buf : Bool) (buflen : ℤ)
    (reslen : Bool) : InfoOutcome :=
  match info.strParams type with
  | some value =>
    if buf ∧ buflen = 0 then ⟨.aiError, [], none, none, none⟩
    else
      let copied := Utility.copyStringToBuffer P (Utf8.encode value) buf (int16ToSizeT buflen) true
      ⟨.aiSuccess, [], copied.stored, none, if reslen then some (toSmallint copied.count) else none⟩
  | none =>
    if !buf then ⟨.aiError, [], none, none, none⟩
    else
      match (info.intParams type).or (info.shortParams type) with
      | some number => ⟨.aiSuccess, [], none, some number, none⟩
      | none => ⟨.aiError, [], none, none, none⟩

/-- `Connection::InternalGetInfo`. -/
def ConnectionInfo.internalGetInfo (P : Platform) (info : ConnectionInfo) (type : ℕ) (buf : Bool)
    (buflen : ℤ) (reslen : Bool) : InfoOutcome :=
  let outcome := info.getInfo P type buf buflen reslen
  if outcome.result ≠ .aiSuccess then
    { outcome with
      records := [statusRecord .sHYC00OptionalFeatureNotImplemented
        ("SQLGetInfo input " ++ toString type ++ " is not implemented.")] }
  else outcome

/-- `SQLGetInfo` of a connection. -/
def sqlGetInfo (P : Platform) (info : ConnectionInfo) (infoType : ℕ) (infoValue : Bool)
    (infoValueMax : ℤ) (length : Bool) : TextOutcome :=
  let outcome := info.internalGetInfo P infoType infoValue infoValueMax length
  ⟨outcome.result.toReturnCode, outcome.stored, outcome.length⟩

/-! ## What is claimed of the texts -/

/-- A call reports a text: the buffer has the longest prefix that fits and the terminator, and the
length is that of the whole text, with `unit` for a code unit. -/
structure ReportsText (unitSize unit : ℕ) (value : Text) (buffer : Bool) (buflen : ℕ)
    (outcome : TextOutcome) : Prop where
  stored : ∃ part, LongestPrefix unitSize (buflen - 1) value part ∧ outcome.stored =
    if buffer ∧ buflen ≠ 0 then some (part.flatMap (wideUnits unitSize) ++ [0]) else none
  length : outcome.length = some ((value.flatMap (wideUnits unitSize)).length * unit : ℕ)

/-- A buffer got the beginning of a text, with at most `room` characters, and a terminator; the length
is that of what it got, with `unit` for a character; and if all characters have a form it got as many
as there is room for. A null character ends a text. -/
structure CopiesBeginning (P : Platform) (value : Text) (room unit : ℕ) (outcome : TextOutcome)
    (part : Text) : Prop where
  isPrefix : part <+: beforeNul value
  fits : part.length ≤ room
  stored : outcome.stored = some (part.map Char.toNat ++ [0])
  length : outcome.length = some ((part.length * unit : ℕ) : ℤ)
  longest : (beforeNul value).all (unitFits P.sqlWcharSize) = true → part = (beforeNul value).take room

/-- A call without a buffer asks for the length of a text. -/
structure AsksLength (P : Platform) (value : Text) (unit : ℕ) (outcome : TextOutcome) : Prop where
  stored : outcome.stored = none
  length : (beforeNul value).all (unitFits P.sqlWcharSize) = true →
    (beforeNul value).length * unit < 2 ^ 15 →
      outcome.length = some (((beforeNul value).length * unit : ℕ) : ℤ)

/-! ## Copying -/

section Copy

variable {P : Platform} {value : Text} {buflen : ℕ}

/-- A count below 2 to the 15 is not changed. -/
lemma toSmallint_of_lt {n : ℕ} (h : n < 2 ^ 15) : toSmallint n = n := bmod_int16_of_lt h

/-- A length in characters is one in bytes. -/
lemma copyStringToBuffer_inChars (P : Platform) (str : List UInt8) (buf : Bool) (buflen : ℕ) :
    Utility.copyStringToBuffer P str buf buflen false =
      { Utility.copyStringToBuffer P str buf (buflen * P.sqlWcharSize) true with
        count := (Utility.copyStringToBuffer P str buf (buflen * P.sqlWcharSize) true).count /
          P.sqlWcharSize } := rfl

/-- Without a buffer, what is converted is counted. -/
lemma copyStringToBuffer_null (P : Platform) (value : Text) (buflen : ℕ) :
    (Utility.copyStringToBuffer P (Utf8.encode value) false buflen true).stored = none ∧
      (Utility.copyStringToBuffer P (Utf8.encode value) false buflen true).count =
        ((beforeNul value).takeWhile (unitFits P.sqlWcharSize)).length * P.sqlWcharSize := by
  have hroom := Utf8.length_le_length_encode (beforeNul value)
  constructor
  · simp [Utility.copyStringToBuffer, copyUtf8StringToWcharString]
  · simp only [Utility.copyStringToBuffer, copyUtf8StringToWcharString, Bool.false_eq_true, if_true,
      if_false, false_and, Bool.false_and, cString_encode_eq, Utf8.convert_encode,
      List.take_of_length_le hroom]

/-- What is converted of a text that is copied into a buffer. -/
lemma copiesBeginning_of_eq {room unit : ℕ} {outcome : TextOutcome} {part : Text}
    (hpart : part = ((beforeNul value).take room).takeWhile (unitFits P.sqlWcharSize))
    (hstored : outcome.stored = some (part.map Char.toNat ++ [0]))
    (hlength : outcome.length = some ((part.length * unit : ℕ) : ℤ)) :
    CopiesBeginning P value room unit outcome part := by
  rw [hpart] at hstored hlength ⊢
  exact ⟨takeWhile_take_isPrefix _ _ _, length_takeWhile_take_le _ _ _, hstored, hlength,
    fun hall => takeWhile_take_of_all hall _⟩

/-- A call that copies a text to a buffer of more than one character, and stores the count in bytes as
the length. -/
lemma copiesBeginning_inBytes (hlt : P.sqlWcharSize < buflen) (hbuflen : buflen < 2 ^ 15)
    {outcome : TextOutcome}
    (hstored : outcome.stored =
      (Utility.copyStringToBuffer P (Utf8.encode value) true buflen true).stored)
    (hlength : outcome.length = some (toSmallint
      (Utility.copyStringToBuffer P (Utf8.encode value) true buflen true).count)) :
    ∃ part, CopiesBeginning P value (buflen / P.sqlWcharSize - 1) P.sqlWcharSize outcome part := by
  rw [copyStringToBuffer_inBytes_of_lt hlt] at hstored hlength
  refine ⟨_, copiesBeginning_of_eq rfl hstored ?_⟩
  have hroom := length_takeWhile_take_le (unitFits P.sqlWcharSize) (beforeNul value)
    (buflen / P.sqlWcharSize - 1)
  rw [hlength]
  exact congrArg some (toSmallint_of_lt ((mul_size_le hroom).trans_lt hbuflen))

/-- A call that copies a text to a buffer of more than one character, and stores the count in
characters as the length. -/
lemma copiesBeginning_inChars (htwo : 2 ≤ buflen) (hbuflen : buflen < 2 ^ 15) {outcome : TextOutcome}
    (hstored : outcome.stored =
      (Utility.copyStringToBuffer P (Utf8.encode value) true buflen false).stored)
    (hlength : outcome.length = some (toSmallint
      (Utility.copyStringToBuffer P (Utf8.encode value) true buflen false).count)) :
    ∃ part, CopiesBeginning P value (buflen - 1) 1 outcome part := by
  have hsize := P.sqlWcharSize_pos
  have hlt : P.sqlWcharSize < buflen * P.sqlWcharSize := by
    have := Nat.mul_le_mul_right P.sqlWcharSize htwo
    omega
  rw [copyStringToBuffer_inChars, copyStringToBuffer_inBytes_of_lt hlt, Nat.mul_div_cancel _ hsize]
    at hstored hlength
  dsimp only at hstored hlength
  rw [Nat.mul_div_cancel _ hsize] at hlength
  refine ⟨_, copiesBeginning_of_eq rfl hstored ?_⟩
  have hroom := length_takeWhile_take_le (unitFits P.sqlWcharSize) (beforeNul value) (buflen - 1)
  rw [hlength, Nat.mul_one, toSmallint_of_lt (by omega)]

/-- All of a text is converted if all of its characters have a form. -/
lemma takeWhile_unitFits_eq_self {cs : Text} (hall : cs.all (unitFits P.sqlWcharSize) = true) :
    cs.takeWhile (unitFits P.sqlWcharSize) = cs :=
  List.takeWhile_eq_self_iff.mpr fun c hc => List.all_eq_true.mp hall c hc

/-- A call without a buffer that stores the count in bytes as the length. -/
lemma asksLength_of_eq_inBytes {outcome : TextOutcome}
    (hstored : outcome.stored =
      (Utility.copyStringToBuffer P (Utf8.encode value) false buflen true).stored)
    (hlength : outcome.length = some (toSmallint
      (Utility.copyStringToBuffer P (Utf8.encode value) false buflen true).count)) :
    AsksLength P value P.sqlWcharSize outcome := by
  obtain ⟨hnone, hcount⟩ := copyStringToBuffer_null P value buflen
  refine ⟨hstored.trans hnone, ?_⟩
  intro hall hlt
  rw [hlength, hcount, takeWhile_unitFits_eq_self hall, toSmallint_of_lt hlt]

/-- A call without a buffer that stores the count in characters as the length. -/
lemma asksLength_of_eq_inChars {outcome : TextOutcome}
    (hstored : outcome.stored =
      (Utility.copyStringToBuffer P (Utf8.encode value) false buflen false).stored)
    (hlength : outcome.length = some (toSmallint
      (Utility.copyStringToBuffer P (Utf8.encode value) false buflen false).count)) :
    AsksLength P value 1 outcome := by
  rw [copyStringToBuffer_inChars] at hstored hlength
  obtain ⟨hnone, hcount⟩ := copyStringToBuffer_null P value (buflen * P.sqlWcharSize)
  refine ⟨hstored.trans hnone, ?_⟩
  intro hall hlt
  rw [Nat.mul_one] at hlt ⊢
  rw [hlength, hcount, takeWhile_unitFits_eq_self hall, Nat.mul_div_cancel _ P.sqlWcharSize_pos]
  exact congrArg some (toSmallint_of_lt hlt)

end Copy

/-! ## Messages -/

/-- A text without a null character whose characters have a form. -/
def Plain (P : Platform) (value : Text) : Prop :=
  '\x00' ∉ value ∧ value.all (unitFits P.sqlWcharSize) = true

/-- What calls with and without a buffer, of a length in characters, do with a message. Without a
buffer they ask for the length; an empty buffer gets nothing; any other of more than one character
gets a beginning of the message. If this is cut off, information is returned, and success if it is not
and the characters of the message are its bytes, too. A buffer with room for the length that was asked
for and a terminator gets the message. -/
structure CopiesMessage (P : Platform) (message : Text) (call : Bool → ℕ → TextOutcome) : Prop where
  nullBuffer : ∀ len, (call false len).returnCode = .successWithInfo ∧
    AsksLength P message 1 (call false len)
  emptyBuffer : (call true 0).stored = none ∧ (call true 0).length = some 0 ∧
    ((Utf8.encode message).length + 1 < 2 ^ 15 → (call true 0).returnCode = .successWithInfo)
  buffer : ∀ len, 2 ≤ len → len < 2 ^ 15 → ∃ part,
    CopiesBeginning P message (len - 1) 1 (call true len) part ∧
      (Plain P message → (Utf8.encode message).length + 1 < 2 ^ 15 →
        (part ≠ message → (call true len).returnCode = .successWithInfo) ∧
          ((∀ c ∈ message, Utf8.IsAscii c) → part = message →
            (call true len).returnCode = .success))
  secondCall : ∀ len (n : ℕ), message ≠ [] → Plain P message →
    (Utf8.encode message).length + 1 < 2 ^ 15 → (call false len).length = some (n : ℤ) →
      CopiesBeginning P message n 1 (call true (n + 1)) message ∧
        ((∀ c ∈ message, Utf8.IsAscii c) → (call true (n + 1)).returnCode = .success)

section Messages

variable {P : Platform} {handleType recNum : ℤ} {records : List DiagnosticRecord}
  {record : DiagnosticRecord} {value : Text}

lemma Plain.beforeNul_eq (h : Plain P value) : beforeNul value = value :=
  beforeNul_eq_self_iff.mpr h.1

/-- A plain text that was copied is cut off only for lack of room. -/
lemma CopiesBeginning.eq_take {room unit : ℕ} {outcome : TextOutcome} {part : Text}
    (h : CopiesBeginning P value room unit outcome part) (hplain : Plain P value) :
    part = value.take room := by
  have hlongest := h.longest
  rw [hplain.beforeNul_eq] at hlongest
  exact hlongest hplain.2

/-- What is returned for a record that is there. -/
lemma sqlGetDiagRec_eq (htype : handleType ∈ [1, 2, 3, 4]) (hrecNum : 1 ≤ recNum)
    (hrecord : records[recNum.toNat - 1]? = some record) (sqlState nativeError msgBuffer : Bool)
    (len : ℕ) :
    (sqlGetDiagRec P handleType (some records) recNum sqlState nativeError msgBuffer len
        true).toTextOutcome =
      let copied :=
        Utility.copyStringToBuffer P (Utf8.encode record.message.toList) msgBuffer len false
      ⟨if !msgBuffer ∨ (len : ℤ) < toSmallint ((Utf8.encode record.message.toList).length + 1) then
          .successWithInfo else .success, copied.stored, some (toSmallint copied.count)⟩ := by
  have hgiven : ¬ (recNum < 1 ∨ (len : ℤ) < 0) := by omega
  unfold sqlGetDiagRec
  simp only [if_pos htype, if_neg hgiven, hrecord, Int.toNat_natCast, Bool.not_true,
    Bool.false_eq_true, if_false, if_true]
  split <;> rfl

/-- Whether information is returned with a buffer is decided by the bytes of a message. -/
lemma returnCode_sqlGetDiagRec (htype : handleType ∈ [1, 2, 3, 4]) (hrecNum : 1 ≤ recNum)
    (hrecord : records[recNum.toNat - 1]? = some record) (sqlState nativeError : Bool) {len : ℕ}
    (hbytes : (Utf8.encode record.message.toList).length + 1 < 2 ^ 15) :
    (sqlGetDiagRec P handleType (some records) recNum sqlState nativeError true len true).returnCode =
      if len ≤ (Utf8.encode record.message.toList).length then .successWithInfo else .success := by
  rw [sqlGetDiagRec_eq htype hrecNum hrecord]
  have hsize : toSmallint ((Utf8.encode record.message.toList).length + 1) =
      ((Utf8.encode record.message.toList).length + 1 : ℕ) := toSmallint_of_lt hbytes
  simp only [Bool.not_true, Bool.false_eq_true, false_or, hsize, Int.ofNat_lt, Nat.lt_succ_iff]

/-- A buffer of more than one character gets the beginning of a message, with information if it is cut
off; success is for a message of one byte a character that has all of its room. -/
lemma copiesBeginning_sqlGetDiagRec (htype : handleType ∈ [1, 2, 3, 4]) (hrecNum : 1 ≤ recNum)
    (hrecord : records[recNum.toNat - 1]? = some record) (sqlState nativeError : Bool) {len : ℕ}
    (htwo : 2 ≤ len) (hlen : len < 2 ^ 15) :
    ∃ part, CopiesBeginning P record.message.toList (len - 1) 1
        (sqlGetDiagRec P handleType (some records) recNum sqlState nativeError true len
          true).toTextOutcome part ∧
      (Plain P record.message.toList → (Utf8.encode record.message.toList).length + 1 < 2 ^ 15 →
        (part ≠ record.message.toList → (sqlGetDiagRec P handleType (some records) recNum sqlState
          nativeError true len true).returnCode = .successWithInfo) ∧
          ((∀ c ∈ record.message.toList, Utf8.IsAscii c) → part = record.message.toList →
            (sqlGetDiagRec P handleType (some records) recNum sqlState nativeError true len
              true).returnCode = .success)) := by
  have hcall := sqlGetDiagRec_eq (P := P) htype hrecNum hrecord sqlState nativeError true len
  have hcopied : ∃ part, CopiesBeginning P record.message.toList (len - 1) 1
      (sqlGetDiagRec P handleType (some records) recNum sqlState nativeError true len
        true).toTextOutcome part :=
    copiesBeginning_inChars htwo hlen (by rw [hcall]) (by rw [hcall])
  obtain ⟨part, hpart⟩ := hcopied
  refine ⟨part, hpart, ?_⟩
  intro hplain hbytes
  have htake := hpart.eq_take hplain
  have hchars := Utf8.length_le_length_encode record.message.toList
  rw [returnCode_sqlGetDiagRec htype hrecNum hrecord sqlState nativeError hbytes]
  constructor
  · intro hcut
    have hlong : len - 1 < record.message.toList.length := by
      by_contra hnot
      rw [List.take_of_length_le (not_lt.mp hnot)] at htake
      exact hcut htake
    exact if_pos (by omega)
  · intro hascii hwhole
    have hroom := hpart.fits
    rw [hwhole] at hroom
    rw [Utf8.length_encode_of_isAscii hascii]
    exact if_neg (by omega)

/-- A record with a message of three characters. -/
def abcRecord : DiagnosticRecord := statusRecord .sHY000GeneralError "abc"

end Messages

/-! ## Texts of a connection -/

/-- A call copies a text with `unit` for a character, in what the length of the buffer and the length
that is reported are: without a buffer it asks for the length, and a buffer of more than one character
gets a beginning of the text. A text that is not cut off makes no other return code than the given
one. -/
structure CopiesText (P : Platform) (value : Text) (unit : ℕ) (buffer : Bool) (buflen : ℕ)
    (returnCode : ReturnCode) (outcome : TextOutcome) : Prop where
  nullBuffer : buffer = false → AsksLength P value unit outcome ∧ outcome.returnCode = returnCode
  buffer : buffer = true → unit < buflen → ∃ part,
    CopiesBeginning P value (buflen / unit - 1) unit outcome part ∧
      (part = value → outcome.returnCode = returnCode)

/-- What is claimed of the texts of a connection: they are reported, and information is there exactly
when the buffer does not have all of the text. -/
def ConnectionTextsReported : Prop :=
  (∀ (κ : Type) (P : Platform) (world : World κ) (connection : Connection κ)
    (inConnectionString : Option (List ℕ)) (inConnectionStringLen : ℤ) (connectStr : Text)
    (buffer : Bool) (buflen : ℕ) (outcome : TextOutcome),
    buflen < 2 ^ 15 →
    Utility.sqlWcharToString P inConnectionString inConnectionStringLen false =
      some (Utf8.encode connectStr) →
    (sqlDriverConnect P world connection inConnectionString inConnectionStringLen buffer buflen
      true).map Prod.fst = some outcome →
    outcome.returnCode = .success ∨ outcome.returnCode = .successWithInfo →
    ReportsText P.sqlWcharSize 1 connectStr buffer buflen outcome ∧
      (outcome.returnCode = .successWithInfo ↔ buffer = true ∧
        outcome.stored ≠ some (connectStr.flatMap (wideUnits P.sqlWcharSize) ++ [0]))) ∧
  ∀ (P : Platform) (info : ConnectionInfo) (infoType : ℕ) (value : Text) (buffer : Bool) (buflen : ℕ),
    info.strParams infoType = some value → buflen < 2 ^ 15 →
    ReportsText P.sqlWcharSize P.sqlWcharSize value buffer (buflen / P.sqlWcharSize)
        (sqlGetInfo P info infoType buffer buflen true) ∧
      ((sqlGetInfo P info infoType buffer buflen true).returnCode = .successWithInfo ↔
        buffer = true ∧ (sqlGetInfo P info infoType buffer buflen true).stored ≠
          some (value.flatMap (wideUnits P.sqlWcharSize) ++ [0]))

section Connections

variable {κ : Type} {P : Platform} {world : World κ} {connection : Connection κ}
  {inConnectionString : Option (List ℕ)} {inConnectionStringLen : ℤ} {connectStr value : Text}
  {buffer : Bool} {buflen : ℕ} {outcome : TextOutcome} {info : ConnectionInfo} {infoType : ℕ}

/-- What `SQLDriverConnect` leaves behind when it connected. -/
lemma sqlDriverConnect_eq
    (hread : Utility.sqlWcharToString P inConnectionString inConnectionStringLen false =
      some (Utf8.encode connectStr))
    (hcall : (sqlDriverConnect P world connection inConnectionString inConnectionStringLen buffer buflen
      true).map Prod.fst = some outcome)
    (hcode : outcome.returnCode = .success ∨ outcome.returnCode = .successWithInfo)
    (hbuflen : buflen < 2 ^ 15) :
    outcome = ⟨(connection.establish world (.connectStr connectStr)).1.toReturnCode,
      (Utility.copyStringToBuffer P (Utf8.encode connectStr) buffer buflen false).stored,
      some (toSmallint
        (Utility.copyStringToBuffer P (Utf8.encode connectStr) buffer buflen false).count)⟩ := by
  unfold sqlDriverConnect at hcall
  simp only [hread, Utf8.decode_encode, Option.bind_eq_bind, Option.bind_some, List.all_eq_true,
    implies_true, if_true, int16ToSizeT_natCast hbuflen] at hcall
  split at hcall
  · next hresult => exact (Option.some.inj hcall).symm
  · next hresult =>
    -- an error has another return code
    obtain rfl := Option.some.inj hcall
    dsimp only at hcode
    rcases hestablished : (connection.establish world (.connectStr connectStr)).1 <;>
      simp [hestablished, SqlResult.toReturnCode] at hresult hcode

/-- `SQLDriverConnect` copies the connection string, in characters. -/
lemma copiesText_sqlDriverConnect
    (hread : Utility.sqlWcharToString P inConnectionString inConnectionStringLen false =
      some (Utf8.encode connectStr))
    (hcall : (sqlDriverConnect P world connection inConnectionString inConnectionStringLen buffer buflen
      true).map Prod.fst = some outcome)
    (hcode : outcome.returnCode = .success ∨ outcome.returnCode = .successWithInfo)
    (hbuflen : buflen < 2 ^ 15) :
    CopiesText P connectStr 1 buffer buflen
        (connection.establish world (.connectStr connectStr)).1.toReturnCode outcome ∧
      (buffer = true → buflen = 0 → outcome.stored = none ∧ outcome.length = some 0) := by
  have hleft := sqlDriverConnect_eq hread hcall hcode hbuflen
  refine ⟨⟨?_, ?_⟩, ?_⟩
  · rintro rfl
    exact ⟨asksLength_of_eq_inChars (by rw [hleft]) (by rw [hleft]), by rw [hleft]⟩
  · rintro rfl htwo
    obtain ⟨part, hpart⟩ : ∃ part, CopiesBeginning P connectStr (buflen - 1) 1 outcome part :=
      copiesBeginning_inChars htwo hbuflen (by rw [hleft]) (by rw [hleft])
    rw [Nat.div_one]
    exact ⟨part, hpart, fun _ => by rw [hleft]⟩
  · rintro rfl rfl
    rw [hleft, copyStringToBuffer_zero]
    exact ⟨rfl, rfl⟩

/-- What `SQLGetInfo` leaves behind for a text. -/
lemma sqlGetInfo_eq (hvalue : info.strParams infoType = some value) (hbuflen : buflen < 2 ^ 15)
    (hnot : ¬ (buffer = true ∧ buflen = 0)) :
    sqlGetInfo P info infoType buffer buflen true =
      ⟨.success, (Utility.copyStringToBuffer P (Utf8.encode value) buffer buflen true).stored,
        some (toSmallint
          (Utility.copyStringToBuffer P (Utf8.encode value) buffer buflen true).count)⟩ := by
  have hnot' : ¬ (buffer = true ∧ (buflen : ℤ) = 0) := fun h => hnot ⟨h.1, by omega⟩
  have hinfo : info.getInfo P infoType buffer buflen true =
      ⟨.aiSuccess, [],
        (Utility.copyStringToBuffer P (Utf8.encode value) buffer buflen true).stored, none,
        some (toSmallint
          (Utility.copyStringToBuffer P (Utf8.encode value) buffer buflen true).count)⟩ := by
    simp only [ConnectionInfo.getInfo, hvalue, if_neg hnot', int16ToSizeT_natCast hbuflen, if_true]
  simp [sqlGetInfo, ConnectionInfo.internalGetInfo, hinfo, SqlResult.toReturnCode]

/-- `SQLGetInfo` copies a text, in bytes, and refuses an empty buffer. -/
lemma copiesText_sqlGetInfo (hvalue : info.strParams infoType = some value)
    (hbuflen : buflen < 2 ^ 15) :
    (buffer = true → buflen = 0 →
      sqlGetInfo P info infoType buffer buflen true = ⟨.error, none, none⟩) ∧
      (¬ (buffer = true ∧ buflen = 0) → CopiesText P value P.sqlWcharSize buffer buflen .success
        (sqlGetInfo P info infoType buffer buflen true)) := by
  constructor
  · rintro rfl rfl
    simp [sqlGetInfo, ConnectionInfo.internalGetInfo, ConnectionInfo.getInfo, hvalue,
      SqlResult.toReturnCode]
  · intro hnot
    have hleft := sqlGetInfo_eq (P := P) hvalue hbuflen hnot
    refine ⟨?_, ?_⟩
    · rintro rfl
      exact ⟨asksLength_of_eq_inBytes (by rw [hleft]) (by rw [hleft]), by rw [hleft]⟩
    · rintro rfl hlt
      obtain ⟨part, hpart⟩ : ∃ part, CopiesBeginning P value (buflen / P.sqlWcharSize - 1)
          P.sqlWcharSize (sqlGetInfo P info infoType true buflen true) part :=
        copiesBeginning_inBytes hlt hbuflen (by rw [hleft]) (by rw [hleft])
      exact ⟨part, hpart, fun _ => by rw [hleft]⟩

/-- The texts of a connection are copied as far as there is room, and the length is that of what was
copied. -/
theorem copiesText_connection (P : Platform) :
    (∀ (κ : Type) (world : World κ) (connection : Connection κ) (inConnectionString : Option (List ℕ))
      (inConnectionStringLen : ℤ) (connectStr : Text) (buffer : Bool) (buflen : ℕ)
      (outcome : TextOutcome),
      buflen < 2 ^ 15 →
      Utility.sqlWcharToString P inConnectionString inConnectionStringLen false =
        some (Utf8.encode connectStr) →
      (sqlDriverConnect P world connection inConnectionString inConnectionStringLen buffer buflen
        true).map Prod.fst = some outcome →
      outcome.returnCode = .success ∨ outcome.returnCode = .successWithInfo →
      CopiesText P connectStr 1 buffer buflen
          (connection.establish world (.connectStr connectStr)).1.toReturnCode outcome ∧
        (buffer = true → buflen = 0 → outcome.stored = none ∧ outcome.length = some 0)) ∧
      ∀ (info : ConnectionInfo) (infoType : ℕ) (value : Text) (buffer : Bool) (buflen : ℕ),
        info.strParams infoType = some value → buflen < 2 ^ 15 →
        (buffer = true → buflen = 0 →
          sqlGetInfo P info infoType buffer buflen true = ⟨.error, none, none⟩) ∧
          (¬ (buffer = true ∧ buflen = 0) → CopiesText P value P.sqlWcharSize buffer buflen .success
            (sqlGetInfo P info infoType buffer buflen true)) := by
  constructor
  · intro κ world connection inConnectionString inConnectionStringLen connectStr buffer buflen outcome
      hbuflen hread hcall hcode
    exact copiesText_sqlDriverConnect hread hcall hcode hbuflen
  · intro info infoType value buffer buflen hvalue hbuflen
    exact copiesText_sqlGetInfo hvalue hbuflen

/-- A world that accepts all credentials. -/
def acceptingWorld : World Unit :=
  let accepted : CredentialsAnswer Unit := ⟨(), false, ""⟩
  { isValidDirectory := fun _ => false, dsnStore := fun _ _ => none, uninitialised := 0
    samlCredentials := fun _ => accepted, profileCredentials := fun _ => accepted
    staticCredentials := fun _ _ _ => accepted, query := fun _ => none }

/-- The information that the user name is `abc`. -/
def abcInfo : ConnectionInfo :=
  { strParams := fun type => if type = 47 then some ['a', 'b', 'c'] else none
    intParams := fun _ => none, shortParams := fun _ => none }

/-- A connection string in a buffer of four characters, and a user name in one of two. -/
theorem copiesText_connection_abc :
    CopiesText samplePlatform "uid=a;pwd=b".toList 1 true 4 .success
        ⟨.success, some [117, 105, 100, 0], some 3⟩ ∧
      CopiesText samplePlatform ['a', 'b', 'c'] 4 true 8 .success
        (sqlGetInfo samplePlatform abcInfo 47 true 8 true) := by
  have hcopies := copiesText_connection samplePlatform
  have hread : Utility.sqlWcharToString samplePlatform
      (some ("uid=a;pwd=b".toList.map Char.toNat ++ [0])) Utility.sqlNts false =
        some (Utf8.encode "uid=a;pwd=b".toList) := by decide
  have hestablished : (Connection.new.establish acceptingWorld
      (.connectStr "uid=a;pwd=b".toList)).1 = .aiSuccess := by decide +kernel
  have hconnected := hcopies.1 Unit acceptingWorld .new _ _ _ true 4
    ⟨.success, some [117, 105, 100, 0], some 3⟩ (by decide) hread (by decide +kernel) (by decide)
  rw [hestablished] at hconnected
  exact ⟨hconnected.1, (hcopies.2 abcInfo 47 _ true 8 rfl (by decide)).2 (by decide)⟩

/-- A user name that is cut off is a success, and its length is that of what was copied. -/
theorem not_connectionTextsReported : ¬ ConnectionTextsReported := by
  intro h
  have hcut := (h.2 samplePlatform abcInfo 47 _ true 8 rfl (by decide)).2.mpr
  exact absurd (hcut (by decide)) (by decide)

end Connections

end TimestreamOdbc
