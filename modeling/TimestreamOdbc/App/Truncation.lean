import TimestreamOdbc.App.PutText

/-!
# Truncation of the texts

What a conversion to a text owes to its caller: it reports truncation exactly when the buffer can not
hold the text and its terminator, it leaves the longest beginning for which there is room, and it
stays inside the buffer.  The string conversions and the temporal conversions decide about
truncation with computations of their own.  Here is the exact condition under which each of them
keeps to it.
-/

namespace TimestreamOdbc

/-- The characters that are stored lie inside a buffer of the given length. -/
def Stored.InBounds (buflen : ℕ) : Stored → Prop
  | .units unitSize stored => stored.length * unitSize ≤ buflen
  | _ => False

/-- What is owed to the caller: truncation is reported if and only if the buffer can not hold the
code units of the text and the terminator; a buffer with room for a code unit has the longest
beginning with room for the terminator, and the terminator; and nothing is stored outside. -/
def HonestText (size : ℕ) (units : List ℕ) (buflen : ℕ) (outcome : Option Put) : Prop :=
  ∃ put, outcome = some put ∧
    (put.result = .aiVarlenDataTruncated ↔ buflen < (units.length + 1) * size) ∧
    (size ≤ buflen →
      ∃ rest, put.stored = some (.units size (units.take (buflen / size - 1) ++ 0 :: rest))) ∧
    ∀ stored, put.stored = some stored → stored.InBounds buflen

/-- The code units of a string in a text. Where strings are taken to be ASCII, the bytes are the
characters. -/
def stringUnits (P : Platform) (outChar : OutChar) (value : Text) : List ℕ :=
  match outChar with
  | .char =>
    if P.ansiStringOnly then (Utf8.encode value).map UInt8.toNat
    else value.map fun c => (P.narrow c).toNat
  | .sqlWchar => value.map Char.toNat

/-- The code units of the text of a value. The temporal conversions store the characters they
print. -/
def TextValue.units (P : Platform) (outChar : OutChar) : TextValue → List ℕ
  | .temporal value => value.text.map Char.toNat
  | value => stringUnits P outChar value.text

/-! ## Copying the beginning of a text -/

section Copy

variable {size buflen : ℕ} {full part : List ℕ}

/-- A buffer can not hold a text and its terminator when the text is longer than the room in front
of the terminator. -/
lemma lt_succ_mul_iff (hpos : 0 < size) (hdvd : size ∣ buflen) (hle : size ≤ buflen) (length : ℕ) :
    buflen < (length + 1) * size ↔ buflen / size - 1 < length := by
  obtain ⟨count, rfl⟩ := hdvd
  have hcount : 1 ≤ count := Nat.le_of_mul_le_mul_left (by omega) hpos
  rw [Nat.mul_div_cancel_left _ hpos, Nat.mul_comm size count, Nat.mul_lt_mul_right hpos]
  omega

/-- A copy that takes part of a text for the whole text is honest when the part is the whole, or
when the buffer is filled before its end. -/
lemma honestText_copy_iff (hpos : 0 < size) (hdvd : size ∣ buflen) (hle : size ≤ buflen)
    (hpart : part <+: full) {put : Put}
    (hresult : put.result = .aiVarlenDataTruncated ↔ buflen / size - 1 < part.length)
    (hstored : put.stored = some (.units size (part.take (buflen / size - 1) ++ [0]))) :
    HonestText size full buflen (some put) ↔
      part.length = full.length ∨ buflen / size - 1 < part.length := by
  have hroom : (buflen / size - 1 + 1) * size ≤ buflen := by
    obtain ⟨count, rfl⟩ := hdvd
    have hcount : 1 ≤ count := Nat.le_of_mul_le_mul_left (by omega) hpos
    rw [Nat.mul_div_cancel_left _ hpos, Nat.sub_add_cancel hcount, Nat.mul_comm]
  have hlength := hpart.length_le
  constructor
  · rintro ⟨put', hput, htrunc, hprefix, -⟩
    obtain rfl := Option.some.inj hput
    rw [hresult, lt_succ_mul_iff hpos hdvd hle] at htrunc
    by_contra hcon
    obtain ⟨hne, hge⟩ := not_or.mp hcon
    obtain ⟨rest, hrest⟩ := hprefix hle
    rw [hstored] at hrest
    have hunits := congrArg List.length (Stored.units.inj (Option.some.inj hrest)).2
    simp only [List.length_append, List.length_take, List.length_nil, List.length_cons] at hunits
    omega
  · intro h
    refine ⟨put, rfl, ?_, fun _ => ⟨[], ?_⟩, ?_⟩
    · rw [hresult, lt_succ_mul_iff hpos hdvd hle]
      omega
    · rw [hstored]
      congr 3
      rcases h with h | h
      · rw [hpart.eq_of_length h]
      · exact List.prefix_iff_eq_take.mp ((List.take_prefix _ _).trans hpart) |>.trans
          (by rw [List.length_take, Nat.min_eq_left h.le])
    · intro stored hsome
      rw [hstored] at hsome
      obtain rfl := Option.some.inj hsome
      change (part.take (buflen / size - 1) ++ [0]).length * size ≤ buflen
      refine (Nat.mul_le_mul_right size ?_).trans hroom
      rw [List.length_append, List.length_take, List.length_singleton]
      omega

/-- A conversion that stores nothing is honest when it reports truncation and there is no room for
the terminator. -/
lemma honestText_none_iff (full : List ℕ) (size buflen : ℕ) {put : Put} (hstored : put.stored = none) :
    HonestText size full buflen (some put) ↔
      buflen < size ∧ put.result = .aiVarlenDataTruncated := by
  constructor
  · rintro ⟨put', hput, htrunc, hprefix, -⟩
    obtain rfl := Option.some.inj hput
    have hlt : buflen < size := by
      by_contra hge
      obtain ⟨rest, hrest⟩ := hprefix (Nat.le_of_not_lt hge)
      rw [hstored] at hrest
      exact absurd hrest (by simp)
    refine ⟨hlt, htrunc.mpr ?_⟩
    calc buflen < 1 * size := by omega
      _ ≤ (full.length + 1) * size := Nat.mul_le_mul_right _ (by omega)
  · rintro ⟨hlt, hresult⟩
    refine ⟨put, rfl, ?_, fun hge => absurd hge (by omega), ?_⟩
    · have : buflen < (full.length + 1) * size := by
        calc buflen < 1 * size := by omega
          _ ≤ (full.length + 1) * size := Nat.mul_le_mul_right _ (by omega)
      simp [hresult, this]
    · rw [hstored]
      simp

/-- What a string conversion makes of a copy is honest. -/
def HonestCopy (size : ℕ) (full : List ℕ) (buflen : ℕ) (copied : Copied) : Prop :=
  ∀ indicator cellOffset, HonestText size full buflen
    (some ⟨if copied.isTruncated then .aiVarlenDataTruncated else .aiSuccess,
      copied.stored.map (Stored.units size), indicator, cellOffset⟩)

/-- A copy of part of a text is honest when the part is the whole, or when the buffer is filled
before its end. -/
lemma honestCopy_iff (hpos : 0 < size) (hdvd : size ∣ buflen) (hle : size ≤ buflen)
    (hpart : part <+: full) {copied : Copied}
    (htrunc : copied.isTruncated = decide (buflen / size - 1 < part.length))
    (hstored : copied.stored = some (part.take (buflen / size - 1) ++ [0])) :
    HonestCopy size full buflen copied ↔
      part.length = full.length ∨ buflen / size - 1 < part.length := by
  have hput : ∀ indicator cellOffset, HonestText size full buflen
      (some ⟨if copied.isTruncated then .aiVarlenDataTruncated else .aiSuccess,
        copied.stored.map (Stored.units size), indicator, cellOffset⟩) ↔
      part.length = full.length ∨ buflen / size - 1 < part.length := by
    intro indicator cellOffset
    apply honestText_copy_iff hpos hdvd hle hpart
    · simp [htrunc]
    · simp [hstored]
  constructor
  · intro h
    exact (hput none 0).mp (h none 0)
  · intro h indicator cellOffset
    exact (hput indicator cellOffset).mpr h

/-- A copy that stores nothing is honest when it is reported as cut off and there is no room for the
terminator. -/
lemma honestCopy_none_iff (full : List ℕ) (size buflen : ℕ) {copied : Copied}
    (hstored : copied.stored = none) :
    HonestCopy size full buflen copied ↔ buflen < size ∧ copied.isTruncated = true := by
  have hput : ∀ indicator cellOffset, HonestText size full buflen
      (some ⟨if copied.isTruncated then .aiVarlenDataTruncated else .aiSuccess,
        copied.stored.map (Stored.units size), indicator, cellOffset⟩) ↔
      buflen < size ∧ copied.isTruncated = true := by
    intro indicator cellOffset
    rw [honestText_none_iff full size buflen (by simp [hstored])]
    simp
  constructor
  · intro h
    exact (hput none 0).mp (h none 0)
  · intro h indicator cellOffset
    exact (hput indicator cellOffset).mpr h

end Copy

/-! ## Strings -/

/-- The text in front of the first null character. -/
def beforeNul (value : Text) : Text := value.takeWhile (· ≠ '\x00')

section Strings

variable {P : Platform} {outChar : OutChar} {value : Text} {b : ApplicationDataBuffer}

lemma nul_notMem_beforeNul (value : Text) : '\x00' ∉ beforeNul value := by
  intro hmem
  simpa using List.mem_takeWhile_imp hmem

/-- A text has no null character when nothing of it is behind one. -/
lemma beforeNul_eq_self_iff : beforeNul value = value ↔ '\x00' ∉ value := by
  rw [beforeNul, List.takeWhile_eq_self_iff]
  simp only [ne_eq, decide_eq_true_eq]
  constructor
  · intro h hmem
    exact h _ hmem rfl
  · rintro h c hc rfl
    exact h hc

/-- A C string ends in front of the first null character of the text. -/
lemma cString_encode_eq (value : Text) :
    cString (Utf8.encode value) = Utf8.encode (beforeNul value) := by
  have hsplit : value = beforeNul value ++ value.dropWhile (· ≠ '\x00') :=
    (List.takeWhile_append_dropWhile).symm
  have hzero : ∀ byte ∈ Utf8.encode (beforeNul value), byte ≠ 0 := by
    rintro byte hbyte rfl
    exact Utf8.zero_notMem_encode (nul_notMem_beforeNul value) hbyte
  conv_lhs => rw [hsplit]
  rw [cString, Utf8.encode, List.flatMap_append, ← Utf8.encode, ← Utf8.encode,
    List.takeWhile_append_of_pos (by simpa using hzero)]
  rcases hrest : value.dropWhile (· ≠ '\x00') with _ | ⟨c, rest⟩
  · simp
  · -- what is left starts with the null character
    have hc : ¬ c ≠ '\x00' := by
      have := List.head?_dropWhile_not (· ≠ '\x00') value
      rw [hrest] at this
      simpa using this
    obtain rfl : c = '\x00' := not_not.mp hc
    have hbyte : String.utf8EncodeChar '\x00' = [0] := by decide
    simp [hbyte]

lemma stringUnits_append (P : Platform) (outChar : OutChar) (s t : Text) :
    stringUnits P outChar (s ++ t) = stringUnits P outChar s ++ stringUnits P outChar t := by
  unfold stringUnits
  rcases outChar with _ | _
  · dsimp only
    split
    · rw [Utf8.encode, List.flatMap_append, List.map_append]
      rfl
    · exact List.map_append
  · exact List.map_append

/-- A text is stored in at least as many code units as it has characters. -/
lemma length_le_length_stringUnits (P : Platform) (outChar : OutChar) (value : Text) :
    value.length ≤ (stringUnits P outChar value).length := by
  unfold stringUnits
  rcases outChar with _ | _
  · dsimp only
    split
    · rw [List.length_map]
      exact Utf8.length_le_length_encode value
    · rw [List.length_map]
  · rw [List.length_map]

/-- What is stored in front of the first null character is a beginning of what is owed. -/
lemma prefix_stringUnits (P : Platform) (outChar : OutChar) (value : Text) :
    stringUnits P outChar (beforeNul value) <+: stringUnits P outChar value := by
  obtain ⟨rest, hrest⟩ : beforeNul value <+: value := List.takeWhile_prefix _
  conv_rhs => rw [← hrest, stringUnits_append]
  exact List.prefix_append _ _

/-- The code units of a text are all there only when no null character cuts it off. -/
lemma length_stringUnits_beforeNul_iff (P : Platform) (outChar : OutChar) (value : Text) :
    (stringUnits P outChar (beforeNul value)).length = (stringUnits P outChar value).length ↔
      '\x00' ∉ value := by
  rw [← beforeNul_eq_self_iff]
  constructor
  · intro hlength
    obtain ⟨rest, hrest⟩ : beforeNul value <+: value := List.takeWhile_prefix _
    conv_rhs at hlength => rw [← hrest, stringUnits_append, List.length_append]
    have hle := length_le_length_stringUnits P outChar rest
    have hnil : rest = [] := List.eq_nil_of_length_eq_zero (by omega)
    rw [hnil, List.append_nil] at hrest
    exact hrest
  · intro h
    rw [h]

/-- Whether a string conversion is honest is decided by the copy, unless there is nothing to copy or
a conversion throws. -/
lemma honestText_putStrToStrBuffer_iff {full : List ℕ} (hbuffer : b.buffer = true)
    (hoffset : b.cellOffset = -1 ∨ b.cellOffset = 0) :
    HonestText (outChar.size P) full b.buflen
        (b.putStrToStrBuffer P outChar (Utf8.encode value)) ↔
      ∃ required copied,
        ApplicationDataBuffer.bytesRequired P outChar (Utf8.encode value) = some required ∧
        required ≠ 0 ∧ copyUtf8String P outChar (Utf8.encode value) b.buflen = some copied ∧
        HonestCopy (outChar.size P) full b.buflen copied := by
  have hzero : b.cellOffset.toNat = 0 := by
    rcases hoffset with h | h <;> rw [h] <;> rfl
  unfold ApplicationDataBuffer.putStrToStrBuffer
  rcases hrequired : ApplicationDataBuffer.bytesRequired P outChar (Utf8.encode value) with
    _ | required
  · constructor
    · rintro ⟨put, hput, -⟩
      exact absurd hput (by simp)
    · rintro ⟨required, copied, h, -⟩
      exact absurd h (by simp)
  · simp only [Option.bind_some, hbuffer, Bool.not_true, Bool.false_eq_true, if_false, hzero,
      Nat.zero_mul, Nat.le_zero_eq, List.drop_zero, Option.some.injEq, exists_and_left,
      exists_eq_left']
    by_cases hnone : required = 0
    · rw [if_pos hnone, honestText_none_iff full _ b.buflen rfl]
      simp [hnone]
    · rw [if_neg hnone]
      rcases copyUtf8String P outChar (Utf8.encode value) b.buflen with _ | copied
      · simp [HonestText, hnone]
      · simp only [Option.map_some, Option.some.injEq, exists_eq_left', ne_eq, hnone,
          not_false_eq_true, true_and]
        rcases htrunc : copied.isTruncated <;> simp [HonestCopy, HonestText, htrunc]

/-- The condition for a string: there is something to copy, no conversion throws, the text has no
null character or the buffer is filled before it, and the buffer is none of those that the copy
leaves alone. -/
def StringHonestWhen (P : Platform) (outChar : OutChar) (buflen : ℕ) (value : Text) : Prop :=
  match outChar with
  | .char =>
    if P.ansiStringOnly then
      value ≠ [] ∧ ('\x00' ∉ value ∨ buflen ≤ (Utf8.encode (beforeNul value)).length)
    else
      beforeNul value ≠ [] ∧ (beforeNul value).all (unitFits P.wcharSize) ∧ buflen ≠ 1 ∧
        ('\x00' ∉ value ∨ buflen ≤ (beforeNul value).length)
  | .sqlWchar =>
    value ≠ [] ∧ (P.ansiStringOnly ∨ (beforeNul value).all (unitFits P.wcharSize)) ∧
      2 * P.sqlWcharSize ≤ buflen ∧
      ((beforeNul value).take (buflen / P.sqlWcharSize - 1)).all (unitFits P.sqlWcharSize) ∧
      ('\x00' ∉ value ∨ buflen / P.sqlWcharSize - 1 < (beforeNul value).length)

/-- The number of bytes is found when no conversion throws, and it is that of the text in front of
the first null character unless strings are taken to be ASCII. -/
lemma bytesRequired_encode_eq (P : Platform) (outChar : OutChar) (value : Text) :
    ApplicationDataBuffer.bytesRequired P outChar (Utf8.encode value) =
      if P.ansiStringOnly then some ((Utf8.encode value).length * outChar.size P)
      else if (beforeNul value).all (unitFits P.wcharSize) then
        some ((beforeNul value).length * outChar.size P)
      else none := by
  unfold ApplicationDataBuffer.bytesRequired
  split
  · rfl
  · rw [fromBytes, cString_encode_eq, Utf8.decode_encode]
    split <;> rfl

/-- Bytes are required for every text that is not empty. -/
lemma length_encode_mul_ne_zero_iff {size : ℕ} (hpos : 0 < size) :
    (Utf8.encode value).length * size ≠ 0 ↔ value ≠ [] := by
  have hle := Utf8.length_le_length_encode value
  constructor
  · rintro h rfl
    exact h (Nat.zero_mul size)
  · intro hne
    have hlength : 0 < value.length := List.length_pos_iff.mpr hne
    exact (Nat.mul_pos (by omega) hpos).ne'

/-- A copy of bytes as they are fills the buffer up to the terminator, or ends with the text. -/
lemma copyUtf8String_char_ansi (hP : P.ansiStringOnly) (value : Text) (buflen : ℕ) :
    copyUtf8String P .char (Utf8.encode value) buflen =
      some ⟨if 0 < buflen then min (Utf8.encode (beforeNul value)).length (buflen - 1) else 0,
        decide (buflen ≤ (Utf8.encode (beforeNul value)).length),
        if 0 < buflen then
          some (((Utf8.encode (beforeNul value)).map UInt8.toNat).take (buflen - 1) ++ [0])
        else none⟩ := by
  simp only [copyUtf8String, copyUtf8StringToSqlCharString, Bool.not_true, Bool.false_eq_true,
    if_false, hP, if_true, cString_encode_eq]
  split
  · next hle => simp [hle, List.map_take]
  · next hlt =>
    have hpos : 0 < buflen := by omega
    have hall : ((Utf8.encode (beforeNul value)).map UInt8.toNat).length ≤ buflen - 1 := by
      rw [List.length_map]
      omega
    rw [List.take_of_length_le hall]
    simp [hlt, hpos]

/-- The condition for characters where strings are taken to be ASCII. -/
lemma honestText_char_ansi_iff (hP : P.ansiStringOnly) (hbuffer : b.buffer = true)
    (hoffset : b.cellOffset = -1 ∨ b.cellOffset = 0) :
    HonestText (OutChar.char.size P) (stringUnits P .char value) b.buflen
        (b.putStrToStrBuffer P .char (Utf8.encode value)) ↔
      value ≠ [] ∧ ('\x00' ∉ value ∨ b.buflen ≤ (Utf8.encode (beforeNul value)).length) := by
  have hunits : ∀ cs, stringUnits P .char cs = (Utf8.encode cs).map UInt8.toNat := fun cs => if_pos hP
  rw [honestText_putStrToStrBuffer_iff hbuffer hoffset, bytesRequired_encode_eq, if_pos hP,
    copyUtf8String_char_ansi hP]
  simp only [Option.some.injEq, exists_and_left, exists_eq_left', OutChar.size_char]
  rw [length_encode_mul_ne_zero_iff Nat.one_pos]
  apply and_congr_right
  intro _
  have hlength : (Utf8.encode (beforeNul value)).length =
      (stringUnits P .char (beforeNul value)).length := by rw [hunits, List.length_map]
  by_cases hpos : 0 < b.buflen
  · have hroom : b.buflen ≤ (Utf8.encode (beforeNul value)).length ↔
        b.buflen / 1 - 1 < (stringUnits P .char (beforeNul value)).length := by
      rw [Nat.div_one, hlength]
      omega
    rw [honestCopy_iff Nat.one_pos (Nat.one_dvd _) hpos (prefix_stringUnits P .char value) ?_ ?_,
      length_stringUnits_beforeNul_iff, hroom]
    · exact decide_eq_decide.mpr hroom
    · simp [hpos, hunits]
  · have hzero : b.buflen = 0 := by omega
    rw [honestCopy_none_iff _ 1 _ (by simp [hzero])]
    simp [hzero]

/-- A copy through wide characters fills the buffer up to the terminator, or ends with the text; a
buffer of one byte is left alone. -/
lemma copyUtf8String_char_narrow (hP : ¬ P.ansiStringOnly) (value : Text) (buflen : ℕ) :
    copyUtf8String P .char (Utf8.encode value) buflen =
      if (beforeNul value).all (unitFits P.wcharSize) then
        some ⟨min (beforeNul value).length (buflen - 1),
          decide (buflen - 1 < (beforeNul value).length),
          if 0 < min (beforeNul value).length (buflen - 1) then
            some (((beforeNul value).map fun c => (P.narrow c).toNat).take (buflen - 1) ++ [0])
          else none⟩
      else none := by
  have hcount : (if 0 < buflen then min (beforeNul value).length (buflen - 1) else 0) =
      min (beforeNul value).length (buflen - 1) := by
    split <;> omega
  have htake : (beforeNul value).take (min (beforeNul value).length (buflen - 1)) =
      (beforeNul value).take (buflen - 1) := by
    rw [Nat.min_comm, ← List.take_eq_take_min]
  have hdecide : min (beforeNul value).length (buflen - 1) < (beforeNul value).length ↔
      buflen - 1 < (beforeNul value).length := by omega
  simp only [copyUtf8String, copyUtf8StringToSqlCharString, Bool.not_true, Bool.false_eq_true,
    if_false, hP, fromBytes, cString_encode_eq, Utf8.decode_encode]
  by_cases hfits : (beforeNul value).all (unitFits P.wcharSize)
  · rw [if_pos hfits, if_pos hfits, Option.map_some, hcount, htake, decide_eq_decide.mpr hdecide,
      List.map_take]
  · rw [if_neg hfits, if_neg hfits, Option.map_none]

/-- The condition for characters that are narrowed. -/
lemma honestText_char_narrow_iff (hP : ¬ P.ansiStringOnly) (hbuffer : b.buffer = true)
    (hoffset : b.cellOffset = -1 ∨ b.cellOffset = 0) :
    HonestText (OutChar.char.size P) (stringUnits P .char value) b.buflen
        (b.putStrToStrBuffer P .char (Utf8.encode value)) ↔
      beforeNul value ≠ [] ∧ (beforeNul value).all (unitFits P.wcharSize) ∧ b.buflen ≠ 1 ∧
        ('\x00' ∉ value ∨ b.buflen ≤ (beforeNul value).length) := by
  have hunits : ∀ cs, stringUnits P .char cs = cs.map fun c => (P.narrow c).toNat :=
    fun cs => if_neg hP
  rw [honestText_putStrToStrBuffer_iff hbuffer hoffset, bytesRequired_encode_eq, if_neg hP,
    copyUtf8String_char_narrow hP]
  by_cases hfits : (beforeNul value).all (unitFits P.wcharSize)
  · simp only [hfits, if_true, Option.some.injEq, exists_and_left, exists_eq_left',
      OutChar.size_char, Nat.mul_one, true_and, ne_eq, List.length_eq_zero_iff]
    apply and_congr_right
    intro hne
    have hpos : 0 < (beforeNul value).length := List.length_pos_iff.mpr hne
    have hlength : (beforeNul value).length = (stringUnits P .char (beforeNul value)).length := by
      rw [hunits, List.length_map]
    by_cases hroom : 2 ≤ b.buflen
    · have hcount : 0 < min (beforeNul value).length (b.buflen - 1) := by omega
      have hiff : b.buflen - 1 < (beforeNul value).length ↔
          b.buflen / 1 - 1 < (stringUnits P .char (beforeNul value)).length := by
        rw [Nat.div_one, hlength]
      have hone : ¬ b.buflen = 1 := by omega
      have hle : b.buflen - 1 < (beforeNul value).length ↔ b.buflen ≤ (beforeNul value).length := by
        omega
      rw [honestCopy_iff Nat.one_pos (Nat.one_dvd _) (by omega) (prefix_stringUnits P .char value)
        ?_ ?_, length_stringUnits_beforeNul_iff, ← hiff]
      · simp [hone, hle]
      · exact decide_eq_decide.mpr hiff
      · simp [hcount, hunits]
    · -- nothing is stored, and truncation is reported
      have hcount : ¬ 0 < min (beforeNul value).length (b.buflen - 1) := by omega
      have htrunc : b.buflen - 1 < (beforeNul value).length := by omega
      rw [honestCopy_none_iff _ 1 _ (by simp [hcount])]
      simp only [htrunc, decide_true, and_true]
      constructor
      · intro h
        exact ⟨by omega, .inr (by omega)⟩
      · rintro ⟨hone, -⟩
        omega
  · simp [hfits]

/-- A copy into a buffer with room for a wide character and the terminator stores the characters up
to the first one that does not fit. -/
lemma copyUtf8String_sqlWchar_direct (P : Platform) (value : Text) {buflen : ℕ}
    (hlen : P.sqlWcharSize < buflen) :
    ∃ count, copyUtf8String P .sqlWchar (Utf8.encode value) buflen =
      some ⟨count,
        decide (Utf8.textStatus (unitFits P.sqlWcharSize) (buflen / P.sqlWcharSize - 1)
          (beforeNul value) ≠ .ok),
        some ((((beforeNul value).take (buflen / P.sqlWcharSize - 1)).takeWhile
          (unitFits P.sqlWcharSize)).map Char.toNat ++ [0])⟩ := by
  have hzero : ¬ buflen = 0 := by omega
  simp only [copyUtf8String, copyUtf8StringToWcharString, hzero, and_false, if_false, Bool.true_and,
    hlen, decide_true, if_true, cString_encode_eq, Utf8.convert_encode]
  exact ⟨_, rfl⟩

/-- A wide buffer without room for a character and the terminator is left alone. -/
lemma copyUtf8String_sqlWchar_scratch (P : Platform) (value : Text) {buflen : ℕ}
    (hlen : buflen ≤ P.sqlWcharSize) :
    ∃ count isTruncated, copyUtf8String P .sqlWchar (Utf8.encode value) buflen =
      some ⟨count, isTruncated, none⟩ ∧ (buflen = 0 → isTruncated = false) := by
  by_cases hzero : buflen = 0
  · refine ⟨0, false, ?_, fun _ => rfl⟩
    simp [copyUtf8String, copyUtf8StringToWcharString, hzero]
  · have hnot : ¬ P.sqlWcharSize < buflen := by omega
    simp only [copyUtf8String, copyUtf8StringToWcharString, hzero, and_false, if_false,
      Bool.true_and, hnot, decide_false, Bool.false_eq_true, IsEmpty.forall_iff, and_true]
    exact ⟨_, _, rfl⟩

/-- A copy that does not reach all characters for which there is room is not honest. -/
lemma not_honestCopy_of_short {size buflen : ℕ} {full stored : List ℕ} (hle : size ≤ buflen)
    {copied : Copied} (hstored : copied.stored = some (stored ++ [0]))
    (hroom : stored.length < buflen / size - 1) (hshort : stored.length < full.length) :
    ¬ HonestCopy size full buflen copied := by
  intro h
  obtain ⟨put, hput, -, hprefix, -⟩ := h none 0
  obtain rfl := Option.some.inj hput
  obtain ⟨rest, hrest⟩ := hprefix hle
  rw [hstored, Option.map_some] at hrest
  have hlength := congrArg List.length (Stored.units.inj (Option.some.inj hrest)).2
  simp only [List.length_append, List.length_take, List.length_nil, List.length_cons] at hlength
  omega

/-- A buffer without room for two characters has room for at most one. -/
lemma le_of_dvd_of_not_two_mul_le {size buflen : ℕ} (hdvd : size ∣ buflen)
    (h : ¬ 2 * size ≤ buflen) : buflen ≤ size := by
  obtain ⟨count, rfl⟩ := hdvd
  have hcount : count < 2 := by
    by_contra hge
    apply h
    rw [Nat.mul_comm size count]
    exact Nat.mul_le_mul_right size (by omega)
  calc size * count ≤ size * 1 := Nat.mul_le_mul_left size (by omega)
    _ = size := Nat.mul_one size

/-- Wide characters are stored up to the terminator when there is room for a character and all that
are copied fit. -/
lemma honestCopy_sqlWchar_iff (P : Platform) (value : Text) {buflen : ℕ}
    (hdvd : P.sqlWcharSize ∣ buflen) :
    (∃ copied, copyUtf8String P .sqlWchar (Utf8.encode value) buflen = some copied ∧
        HonestCopy P.sqlWcharSize (stringUnits P .sqlWchar value) buflen copied) ↔
      2 * P.sqlWcharSize ≤ buflen ∧
        ((beforeNul value).take (buflen / P.sqlWcharSize - 1)).all (unitFits P.sqlWcharSize) ∧
        ('\x00' ∉ value ∨ buflen / P.sqlWcharSize - 1 < (beforeNul value).length) := by
  have hpos := P.sqlWcharSize_pos
  by_cases hroom : 2 * P.sqlWcharSize ≤ buflen
  · have hlength : (stringUnits P .sqlWchar (beforeNul value)).length = (beforeNul value).length :=
      List.length_map _
    have hlen : P.sqlWcharSize < buflen := by omega
    obtain ⟨count, hcopy⟩ := copyUtf8String_sqlWchar_direct P value hlen
    simp only [hcopy, Option.some.injEq, exists_eq_left', hroom, true_and]
    generalize hk : buflen / P.sqlWcharSize - 1 = k
    by_cases hfits : ((beforeNul value).take k).all (unitFits P.sqlWcharSize)
    · have hall : ((beforeNul value).take k).takeWhile (unitFits P.sqlWcharSize) =
          (beforeNul value).take k :=
        List.takeWhile_eq_self_iff.mpr (List.all_eq_true.mp hfits)
      rw [honestCopy_iff hpos hdvd (by omega) (prefix_stringUnits P .sqlWchar value) ?_ ?_,
        length_stringUnits_beforeNul_iff, hlength, hk]
      · simp [hfits]
      · apply decide_eq_decide.mpr
        rw [hk, hlength, Utf8.textStatus, if_pos hfits]
        split
        · next hle => simpa using hle
        · next hgt => simpa using Nat.lt_of_not_le hgt
      · rw [hall, hk, List.map_take]
        rfl
    · have hshort : (((beforeNul value).take k).takeWhile (unitFits P.sqlWcharSize)).length <
          ((beforeNul value).take k).length := by
        refine lt_of_le_of_ne (List.takeWhile_prefix _).length_le fun hlen => hfits ?_
        rw [← (List.takeWhile_prefix _).eq_of_length hlen]
        exact List.all_takeWhile
      rw [List.length_take] at hshort
      have hfull : (beforeNul value).length ≤ (stringUnits P .sqlWchar value).length := by
        rw [← hlength]
        exact (prefix_stringUnits P .sqlWchar value).length_le
      refine iff_of_false ?_ (by simp [hfits])
      apply not_honestCopy_of_short (by omega) rfl
      · rw [List.length_map, hk]
        omega
      · rw [List.length_map]
        omega
  · obtain ⟨count, isTruncated, hcopy, hempty⟩ :=
      copyUtf8String_sqlWchar_scratch P value (le_of_dvd_of_not_two_mul_le hdvd hroom)
    simp only [hcopy, Option.some.injEq, exists_eq_left', hroom, false_and, iff_false]
    rw [honestCopy_none_iff _ _ _ rfl]
    rintro ⟨hlt, htrunc⟩
    have hzero : buflen = 0 := Nat.eq_zero_of_dvd_of_lt hdvd hlt
    rw [hempty hzero] at htrunc
    exact absurd htrunc Bool.false_ne_true

/-- The condition for wide characters. -/
lemma honestText_sqlWchar_iff (hbuffer : b.buffer = true)
    (hoffset : b.cellOffset = -1 ∨ b.cellOffset = 0) (hdvd : P.sqlWcharSize ∣ b.buflen) :
    HonestText (OutChar.sqlWchar.size P) (stringUnits P .sqlWchar value) b.buflen
        (b.putStrToStrBuffer P .sqlWchar (Utf8.encode value)) ↔
      value ≠ [] ∧ (P.ansiStringOnly ∨ (beforeNul value).all (unitFits P.wcharSize)) ∧
        2 * P.sqlWcharSize ≤ b.buflen ∧
        ((beforeNul value).take (b.buflen / P.sqlWcharSize - 1)).all (unitFits P.sqlWcharSize) ∧
        ('\x00' ∉ value ∨ b.buflen / P.sqlWcharSize - 1 < (beforeNul value).length) := by
  have hpos := P.sqlWcharSize_pos
  rw [honestText_putStrToStrBuffer_iff hbuffer hoffset, bytesRequired_encode_eq]
  simp only [OutChar.size_sqlWchar, exists_and_left]
  rw [honestCopy_sqlWchar_iff P value hdvd]
  by_cases hP : P.ansiStringOnly
  · simp only [hP, if_true, Option.some.injEq, exists_eq_left', true_or, true_and]
    rw [length_encode_mul_ne_zero_iff hpos]
  · by_cases hfits : (beforeNul value).all (unitFits P.wcharSize)
    · simp only [hP, if_false, hfits, if_true, Option.some.injEq, exists_eq_left', or_true, true_and,
        Bool.false_eq_true]
      have hne : (beforeNul value).length * P.sqlWcharSize ≠ 0 ↔ beforeNul value ≠ [] := by
        rw [ne_eq, Nat.mul_eq_zero, List.length_eq_zero_iff]
        simp [hpos.ne']
      rw [hne]
      constructor
      · rintro ⟨hpart, hcopy⟩
        refine ⟨?_, hcopy⟩
        rintro rfl
        exact hpart rfl
      · rintro ⟨hvalue, hcopy⟩
        refine ⟨?_, hcopy⟩
        -- there is something in front of the first null character
        rcases hcopy.2.2 with hnul | hroom
        · rw [beforeNul_eq_self_iff.mpr hnul]
          exact hvalue
        · rintro hnil
          rw [hnil] at hroom
          exact absurd hroom (Nat.not_lt_zero _)
    · simp [hP, hfits]

end Strings

/-! ## Temporal values -/

section Temporal

variable {P : Platform} {b : ApplicationDataBuffer}

lemma length_strncpy (text : Text) (count : ℕ) : (strncpy text count).length = count := by
  simp only [strncpy, List.length_append, List.length_map, List.length_take, List.length_replicate]
  omega

/-- What fills the whole copy is the beginning of the text. -/
lemma strncpy_of_le {text : Text} {count : ℕ} (h : count ≤ text.length) :
    strncpy text count = (text.take count).map Char.toNat := by
  rw [strncpy, Nat.sub_eq_zero_of_le h, List.replicate_zero, List.append_nil]

/-- What is shorter than the copy is followed by null characters. -/
lemma strncpy_of_lt {text : Text} {count : ℕ} (h : text.length < count) :
    strncpy text count =
      text.map Char.toNat ++ 0 :: List.replicate (count - text.length - 1) 0 := by
  rw [strncpy, List.take_of_length_le h.le, ← List.replicate_succ]
  congr 2
  omega

/-- The last character of a full copy is replaced by the terminator. -/
lemma set_strncpy {text : Text} {count : ℕ} (hpos : 0 < count) (h : count ≤ text.length) :
    (strncpy text count).set (count - 1) 0 = (text.map Char.toNat).take (count - 1) ++ [0] := by
  have hlast : count - 1 < text.length := by omega
  have hcount : count = count - 1 + 1 := by omega
  have hlength : ((text.map Char.toNat).take (count - 1)).length = count - 1 := by
    rw [List.length_take, List.length_map, Nat.min_eq_left hlast.le]
  rw [strncpy_of_le h, List.map_take]
  conv_lhs =>
    arg 1
    rw [hcount, List.take_succ_eq_append_getElem (by simpa using hlast)]
  rw [List.set_append_right _ _ hlength.le, hlength, Nat.sub_self]
  rfl

/-- The conversion prints the whole text, or takes as its length what it printed. -/
lemma TemporalValue.printed_eq_text_or (value : TemporalValue) :
    value.printed = value.text ∨ value.valLen = value.printed.length + 1 := by
  cases value with
  | date value => exact .inl rfl
  | timestamp value => exact .inl rfl
  | time value => exact .inl rfl
  | intervalYearMonth value => exact .inr rfl
  | intervalDaySecond value => exact .inr rfl

lemma TemporalValue.valLen_pos (value : TemporalValue) : 0 < value.valLen := by
  cases value <;> simp [valLen]

/-- The condition for a temporal value. Into characters: the buffer is not empty, and the length the
conversion takes for the text does not lead it astray. Into wide characters: there is room for a
character and the terminator, and the text was printed to its end or fills the buffer. A date decides
about truncation by comparing characters with bytes. -/
def TemporalValue.HonestWhen (P : Platform) (outChar : OutChar) (buflen : ℕ) (value : TemporalValue) :
    Prop :=
  match outChar, value with
  | .char, value =>
    0 < buflen ∧
      if buflen < value.valLen then buflen ≤ value.text.length else value.text.length < value.valLen
  | .sqlWchar, .date value =>
    (buflen < 11 ↔ buflen < (value.text.length + 1) * P.sqlWcharSize) ∧
      (buflen < P.sqlWcharSize ∨ 2 * P.sqlWcharSize ≤ buflen)
  | .sqlWchar, value =>
    2 * P.sqlWcharSize ≤ buflen ∧
      (value.printed.length = value.text.length ∨
        buflen / P.sqlWcharSize - 1 < value.printed.length)

/-- The condition for the characters of a temporal value. -/
lemma honestText_temporal_char_iff (value : TemporalValue) (htype : b.type = .aiChar)
    (hbuffer : b.buffer = true) :
    HonestText 1 (value.text.map Char.toNat) b.buflen (value.put P b) ↔
      0 < b.buflen ∧
        if b.buflen < value.valLen then b.buflen ≤ value.text.length
        else value.text.length < value.valLen := by
  have hprefix := value.printed_prefix_text
  have hle := hprefix.length_le
  rw [value.put_of_aiChar P htype]
  unfold ApplicationDataBuffer.putCharText
  simp only [hbuffer, Bool.not_true, Bool.false_eq_true, if_false]
  by_cases hzero : b.buflen = 0
  · -- the terminator is stored before the buffer
    have hlt : b.buflen < value.valLen := by
      rw [hzero]
      exact value.valLen_pos
    rw [if_pos hlt, if_pos hzero]
    simp only [hzero, Nat.lt_irrefl, false_and, iff_false]
    rintro ⟨put, hput, -, -, hbounds⟩
    obtain rfl := Option.some.inj hput
    exact hbounds .nullBefore rfl
  have hpos : 0 < b.buflen := by omega
  simp only [hpos, true_and]
  by_cases hlt : b.buflen < value.valLen
  · simp only [hlt, if_true, hzero, if_false, Nat.min_eq_right hlt.le]
    constructor
    · rintro ⟨put, hput, htrunc, -⟩
      obtain rfl := Option.some.inj hput
      have := htrunc.mp rfl
      rw [List.length_map] at this
      omega
    · intro hfull
      have hprinted : b.buflen ≤ value.printed.length := by
        rcases value.printed_eq_text_or with h | h
        · rw [h]
          exact hfull
        · omega
      refine ⟨_, rfl, ?_, fun _ => ⟨[], ?_⟩, ?_⟩
      · rw [List.length_map]
        exact iff_of_true rfl (by omega)
      · rw [set_strncpy hpos hprinted, Nat.div_one]
        rw [← List.map_take, ← List.map_take]
        rw [List.prefix_iff_eq_take.mp hprefix, List.take_take, Nat.min_eq_left (by omega)]
      · intro stored hstored
        obtain rfl := Option.some.inj hstored
        change (List.set _ _ _).length * 1 ≤ _
        rw [List.length_set, length_strncpy, Nat.mul_one]
  · simp only [hlt, if_false, Nat.min_eq_left (Nat.le_of_not_lt hlt)]
    constructor
    · rintro ⟨put, hput, htrunc, hstored, -⟩
      obtain rfl := Option.some.inj hput
      rw [List.length_map] at htrunc
      have hfits : value.text.length + 1 ≤ b.buflen := by
        by_contra hcon
        exact absurd (htrunc.mpr (by omega)) (by simp)
      obtain ⟨rest, hrest⟩ := hstored hpos
      have hlength := congrArg List.length (Stored.units.inj (Option.some.inj hrest)).2
      rw [length_strncpy, List.length_append, List.length_take, List.length_map, Nat.div_one,
        List.length_cons] at hlength
      omega
    · intro hfits
      have hprinted : value.printed = value.text := by
        rcases value.printed_eq_text_or with h | h
        · exact h
        · exact hprefix.eq_of_length (by omega)
      refine ⟨_, rfl, ?_,
        fun _ => ⟨List.replicate (value.valLen - value.text.length - 1) 0, ?_⟩, ?_⟩
      · rw [List.length_map]
        exact iff_of_false (by simp) (by omega)
      · rw [hprinted, strncpy_of_lt hfits, List.take_of_length_le (by
          rw [List.length_map, Nat.div_one]
          omega)]
      · intro stored hstored
        obtain rfl := Option.some.inj hstored
        change (strncpy _ _).length * 1 ≤ _
        rw [length_strncpy, Nat.mul_one]
        omega

/-- A printed text has no null character and is stored in wide characters as it is. -/
lemma IsPrinted.beforeNul_eq {text : Text} (h : IsPrinted text) : beforeNul text = text :=
  beforeNul_eq_self_iff.mpr h.nul_notMem

/-- A copy of a printed text into a buffer with room for a character and the terminator. -/
lemma copyStringToBuffer_direct {text : Text} (htext : IsPrinted text) {buflen : ℕ}
    (hlen : P.sqlWcharSize < buflen) :
    (copyStringToBuffer P text buflen).isTruncated =
        decide (buflen / P.sqlWcharSize - 1 < (text.map Char.toNat).length) ∧
      (copyStringToBuffer P text buflen).stored =
        some ((text.map Char.toNat).take (buflen / P.sqlWcharSize - 1) ++ [0]) := by
  obtain ⟨count, hcopy⟩ := copyUtf8String_sqlWchar_direct P text hlen
  have heq : copyStringToBuffer P text buflen = _ := Option.some.inj hcopy
  have hall := (htext.of_subset (List.take_subset (buflen / P.sqlWcharSize - 1) text)).unitFits
    P.sqlWcharSize
  rw [heq, htext.beforeNul_eq, Utf8.textStatus, if_pos (List.all_eq_true.mpr hall),
    List.takeWhile_eq_self_iff.mpr hall]
  refine ⟨?_, by rw [List.map_take]⟩
  apply decide_eq_decide.mpr
  rw [List.length_map]
  split
  · next hle => simpa using hle
  · next hgt => simpa using Nat.lt_of_not_le hgt

/-- A wide buffer without room for a character and the terminator is left alone. -/
lemma copyStringToBuffer_scratch (text : Text) {buflen : ℕ} (hlen : buflen ≤ P.sqlWcharSize) :
    (copyStringToBuffer P text buflen).stored = none ∧
      (buflen = 0 → (copyStringToBuffer P text buflen).isTruncated = false) := by
  obtain ⟨count, isTruncated, hcopy, hempty⟩ := copyUtf8String_sqlWchar_scratch P text hlen
  have heq : copyStringToBuffer P text buflen = _ := Option.some.inj hcopy
  rw [heq]
  exact ⟨rfl, hempty⟩

/-- The condition for the wide characters of a temporal value that is not a date. -/
lemma honestText_temporal_sqlWchar_iff (value : TemporalValue)
    (hresult : value.wcharResult P b = (b.putWcharText P value.printed value.valLen).result)
    (htype : b.type = .aiWchar) (hbuffer : b.buffer = true) (hdvd : P.sqlWcharSize ∣ b.buflen) :
    HonestText P.sqlWcharSize (value.text.map Char.toNat) b.buflen (value.put P b) ↔
      2 * P.sqlWcharSize ≤ b.buflen ∧
        (value.printed.length = value.text.length ∨
          b.buflen / P.sqlWcharSize - 1 < value.printed.length) := by
  have hpos := P.sqlWcharSize_pos
  rw [value.put_of_aiWchar P htype, hresult]
  unfold ApplicationDataBuffer.putWcharText
  simp only [hbuffer, Bool.not_true, Bool.false_eq_true, if_false]
  by_cases hroom : 2 * P.sqlWcharSize ≤ b.buflen
  · have hlen : P.sqlWcharSize < b.buflen := by omega
    obtain ⟨htrunc, hstored⟩ := copyStringToBuffer_direct value.isPrinted_printed hlen
    rw [honestText_copy_iff hpos hdvd (by omega) (value.printed_prefix_text.map Char.toNat) ?_ ?_]
    · simp [hroom]
    · simp [htrunc]
    · simp [hstored]
  · obtain ⟨hstored, hempty⟩ := copyStringToBuffer_scratch (P := P) value.printed
      (le_of_dvd_of_not_two_mul_le hdvd hroom)
    rw [honestText_none_iff _ _ _ (by simp [hstored])]
    simp only [hroom, false_and, iff_false]
    rintro ⟨hlt, htrunc⟩
    rw [hempty (Nat.eq_zero_of_dvd_of_lt hdvd hlt)] at htrunc
    exact absurd htrunc (by simp)

/-- The condition for the wide characters of a date. -/
lemma honestText_date_sqlWchar_iff (value : Date) (htype : b.type = .aiWchar)
    (hbuffer : b.buffer = true) (hdvd : P.sqlWcharSize ∣ b.buflen) :
    HonestText P.sqlWcharSize (value.text.map Char.toNat) b.buflen
        ((TemporalValue.date value).put P b) ↔
      (b.buflen < 11 ↔ b.buflen < (value.text.length + 1) * P.sqlWcharSize) ∧
        (b.buflen < P.sqlWcharSize ∨ 2 * P.sqlWcharSize ≤ b.buflen) := by
  have hpos := P.sqlWcharSize_pos
  rw [(TemporalValue.date value).put_of_aiWchar P htype]
  unfold ApplicationDataBuffer.putWcharText
  simp only [hbuffer, Bool.not_true, Bool.false_eq_true, if_false, TemporalValue.printed]
  have hiff : (TemporalValue.date value).wcharResult P b = .aiVarlenDataTruncated ↔
      b.buflen < 11 := by
    unfold TemporalValue.wcharResult
    dsimp only
    split
    · next hlt => exact iff_of_true rfl hlt
    · next hge => exact iff_of_false (by simp) hge
  by_cases hroom : 2 * P.sqlWcharSize ≤ b.buflen
  · have hlen : P.sqlWcharSize < b.buflen := by omega
    obtain ⟨-, hstored⟩ := copyStringToBuffer_direct value.isPrinted_text hlen
    simp only [hroom, or_true, and_true]
    constructor
    · rintro ⟨put, hput, htrunc, -⟩
      obtain rfl := Option.some.inj hput
      dsimp only at htrunc
      rwa [hiff, List.length_map] at htrunc
    · intro htrunc
      -- the copy is that of an honest conversion
      have hhonest : HonestText P.sqlWcharSize (value.text.map Char.toNat) b.buflen
          (some ⟨if b.buflen / P.sqlWcharSize - 1 < (value.text.map Char.toNat).length then
            .aiVarlenDataTruncated else .aiSuccess, some (.units P.sqlWcharSize
            ((value.text.map Char.toNat).take (b.buflen / P.sqlWcharSize - 1) ++ [0])), none,
              0⟩) := by
        apply (honestText_copy_iff hpos hdvd (by omega) List.prefix_rfl _ rfl).mpr (.inl rfl)
        simp only [ite_eq_left_iff, reduceCtorEq, imp_false, not_not]
      obtain ⟨put, hput, -, hprefix, hbounds⟩ := hhonest
      obtain rfl := Option.some.inj hput
      refine ⟨_, rfl, ?_, ?_, ?_⟩
      · dsimp only
        rw [hiff, List.length_map]
        exact htrunc
      · simp [hstored]
      · simpa [hstored] using hbounds
  · obtain ⟨hstored, -⟩ := copyStringToBuffer_scratch (P := P) value.text
      (le_of_dvd_of_not_two_mul_le hdvd hroom)
    rw [honestText_none_iff _ _ _ (by simp [hstored])]
    simp only [hiff, hroom, or_false]
    constructor
    · rintro ⟨hlt, htrunc⟩
      have hzero := Nat.eq_zero_of_dvd_of_lt hdvd hlt
      rw [hzero]
      refine ⟨iff_of_true (by decide) ?_, hpos⟩
      exact Nat.mul_pos (Nat.succ_pos _) hpos
    · rintro ⟨-, hlt⟩
      have hzero := Nat.eq_zero_of_dvd_of_lt hdvd hlt
      omega

end Temporal

/-! ## The condition -/

/-- The condition under which the conversion of a value is honest. Integers and booleans are put as
the strings of their digits. -/
def TextValue.HonestWhen (P : Platform) (outChar : OutChar) (buflen : ℕ) : TextValue → Prop
  | .temporal value => value.HonestWhen P outChar buflen
  | value => StringHonestWhen P outChar buflen value.text

/-- The condition for a string, an integer or a boolean. -/
lemma honestText_string_iff (P : Platform) (outChar : OutChar) {value : TextValue}
    (hvalue : ∀ v, value ≠ .temporal v) {b : ApplicationDataBuffer}
    (htype : b.type = outChar.driverType) (hbuffer : b.buffer = true)
    (hoffset : b.cellOffset = -1 ∨ b.cellOffset = 0) (hdvd : outChar.size P ∣ b.buflen) :
    HonestText (outChar.size P) (stringUnits P outChar value.text) b.buflen (value.put P b) ↔
      StringHonestWhen P outChar b.buflen value.text := by
  rw [value.put_eq_putStrToStrBuffer P outChar hvalue htype]
  rcases outChar with _ | _
  · unfold StringHonestWhen
    dsimp only
    by_cases hP : P.ansiStringOnly
    · rw [if_pos hP]
      exact honestText_char_ansi_iff hP hbuffer hoffset
    · rw [if_neg hP]
      exact honestText_char_narrow_iff hP hbuffer hoffset
  · exact honestText_sqlWchar_iff hbuffer hoffset hdvd

/-- A conversion to a text is honest exactly under its condition. -/
theorem honestText_iff (P : Platform) (outChar : OutChar) (value : TextValue)
    {b : ApplicationDataBuffer} (htype : b.type = outChar.driverType) (hbuffer : b.buffer = true)
    (hoffset : b.cellOffset = -1 ∨ b.cellOffset = 0) (hdvd : outChar.size P ∣ b.buflen) :
    HonestText (outChar.size P) (value.units P outChar) b.buflen (value.put P b) ↔
      value.HonestWhen P outChar b.buflen := by
  cases value with
  | string value => exact honestText_string_iff P outChar (by simp) htype hbuffer hoffset hdvd
  | integer size value => exact honestText_string_iff P outChar (by simp) htype hbuffer hoffset hdvd
  | boolean value => exact honestText_string_iff P outChar (by simp) htype hbuffer hoffset hdvd
  | temporal value =>
    rcases outChar with _ | _
    · exact honestText_temporal_char_iff value htype hbuffer
    · cases value with
      | date value => exact honestText_date_sqlWchar_iff value htype hbuffer hdvd
      | timestamp value => exact honestText_temporal_sqlWchar_iff _ rfl htype hbuffer hdvd
      | time value => exact honestText_temporal_sqlWchar_iff _ rfl htype hbuffer hdvd
      | intervalYearMonth value => exact honestText_temporal_sqlWchar_iff _ rfl htype hbuffer hdvd
      | intervalDaySecond value => exact honestText_temporal_sqlWchar_iff _ rfl htype hbuffer hdvd

/-- The date of the epoch in a buffer of five characters. -/
theorem honestText_date_char :
    HonestText (OutChar.char.size samplePlatform)
      ((TextValue.temporal (.date ⟨0⟩)).units samplePlatform .char) 5
      ((TextValue.temporal (.date ⟨0⟩)).put samplePlatform
        (ApplicationDataBuffer.new .aiChar true 5 true)) := by
  refine (honestText_iff samplePlatform .char (.temporal (.date ⟨0⟩))
    (b := ApplicationDataBuffer.new .aiChar true 5 true) rfl rfl (.inl rfl) (Nat.one_dvd 5)).mpr ?_
  constructor
  · decide
  · decide

/-- The date of the epoch in 12 bytes, which hold three wide characters: the two characters "19" are
reported as the whole date. -/
theorem not_honestText_date_wchar :
    ¬ HonestText (OutChar.sqlWchar.size samplePlatform)
      ((TextValue.temporal (.date ⟨0⟩)).units samplePlatform .sqlWchar) 12
      ((TextValue.temporal (.date ⟨0⟩)).put samplePlatform
        (ApplicationDataBuffer.new .aiWchar true 12 true)) := by
  intro h
  have hcondition := (honestText_date_sqlWchar_iff (P := samplePlatform) ⟨0⟩
    (b := ApplicationDataBuffer.new .aiWchar true 12 true) rfl rfl (by decide)).mp h
  exact absurd (hcondition.1.mpr (by decide)) (by decide)

end TimestreamOdbc
