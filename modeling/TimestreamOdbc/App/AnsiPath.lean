import TimestreamOdbc.App.Truncation

/-!
# Copying ASCII strings with and without a conversion

`CopyUtf8StringToSqlCharString` copies the bytes as they are when `ANSI_STRING_ONLY` is set, and
converts them to wide characters and narrows these otherwise.  For an ASCII string the two ways give
the same, up to what they do where nothing is copied: only the first one writes a terminator then.
-/

namespace TimestreamOdbc

/-! ## What is compared -/

/-- The platform with the switch `ANSI_STRING_ONLY` on or off. -/
def Platform.withAnsi (P : Platform) (on : Bool) : Platform := { P with ansiStringOnly := on }

/-- `ctype<wchar_t>::narrow` of the current locale gives an ASCII character its own code. -/
def Platform.NarrowsAscii (P : Platform) : Prop :=
  ∀ c : Char, Utf8.IsAscii c → (P.narrow c).toNat = c.toNat

/-- The memory from the data pointer on, after code units were stored there. -/
def overwrite (previous : List ℕ) : Option (List ℕ) → List ℕ
  | none => previous
  | some units => units ++ previous.drop units.length

/-- The content of a buffer, up to and including the terminator. -/
def upToTerminator (memory : List ℕ) : List ℕ :=
  memory.take ((memory.takeWhile (· ≠ 0)).length + 1)

/-- The code units that a conversion stores. -/
def Put.units (put : Put) : Option (List ℕ) :=
  match put.stored with
  | some (.units _ units) => some units
  | _ => none

/-- Two copies leave the same content in a buffer, return the same count and set the same flag. -/
structure Copied.Alike (previous : List ℕ) (first second : Copied) : Prop where
  content : upToTerminator (overwrite previous first.stored) =
    upToTerminator (overwrite previous second.stored)
  count : first.count = second.count
  isTruncated : first.isTruncated = second.isTruncated

/-- Two conversions leave the same data in a buffer, and have the same indicator, cell offset and
result. -/
structure Put.Alike (previous : List ℕ) (first second : Put) : Prop where
  content : upToTerminator (overwrite previous first.units) =
    upToTerminator (overwrite previous second.units)
  indicator : first.indicator = second.indicator
  cellOffset : first.cellOffset = second.cellOffset
  result : first.result = second.result

/-- `CopyUtf8StringToSqlCharString` does the same with and without `ANSI_STRING_ONLY`. -/
def CopiesAlike (P : Platform) (value : Text) (outBufferLenBytes : ℕ) (previous : List ℕ) : Prop :=
  ∀ isTruncated, ∃ direct converted,
    copyUtf8StringToSqlCharString (P.withAnsi true) (Utf8.encode value) true outBufferLenBytes
      isTruncated = some direct ∧
    copyUtf8StringToSqlCharString (P.withAnsi false) (Utf8.encode value) true outBufferLenBytes
      isTruncated = some converted ∧ direct.Alike previous converted

/-- `PutStrToStrBuffer<char>` does the same with and without `ANSI_STRING_ONLY`. -/
def PutsAlike (P : Platform) (value : Text) (b : ApplicationDataBuffer) (previous : List ℕ) : Prop :=
  ∃ direct converted,
    b.putStrToStrBuffer (P.withAnsi true) .char (Utf8.encode value) = some direct ∧
    b.putStrToStrBuffer (P.withAnsi false) .char (Utf8.encode value) = some converted ∧
    direct.Alike previous converted

/-- The condition for a copy: the buffer has room for a character and there is one; where nothing is
copied, the buffer has to start with a terminator, and if it is empty the string must not be. -/
def CopiesAlikeWhen (value : Text) (outBufferLenBytes : ℕ) (previous : List ℕ) : Prop :=
  if outBufferLenBytes = 0 then beforeNul value ≠ []
  else beforeNul value ≠ [] ∧ outBufferLenBytes ≠ 1 ∨ previous.head? = some 0

/-- The condition for a conversion. The string has no null character in it, or nobody can see its
length; and the buffer is not one of a single byte that would have to be made a terminator. -/
def PutsAlikeWhen (value : Text) (b : ApplicationDataBuffer) (previous : List ℕ) : Prop :=
  if b.buffer = false then b.reslen = false ∨ '\x00' ∉ value
  else value.length ≤ b.cellOffset.toNat ∨
    b.cellOffset.toNat < (beforeNul value).length ∧
      (b.buflen ≠ 1 ∨ previous.head? = some 0) ∧
      (b.reslen = false ∨ '\x00' ∉ value ∨
        value.length = 2 * (beforeNul value).length ∧
          (beforeNul value).length - b.cellOffset.toNat < b.buflen)

/-! ## Contents of buffers -/

/-- A content that starts with a terminator is that terminator. -/
lemma upToTerminator_zero_cons (rest : List ℕ) : upToTerminator (0 :: rest) = [0] := by
  simp [upToTerminator]

/-- Only a buffer that starts with a terminator has the content of an empty string. -/
lemma upToTerminator_eq_singleton_iff (memory : List ℕ) :
    upToTerminator memory = [0] ↔ memory.head? = some 0 := by
  constructor
  · intro h
    have hhead := congrArg List.head? h
    rwa [upToTerminator, List.head?_take, if_neg (Nat.succ_ne_zero _)] at hhead
  · intro h
    obtain ⟨rest, rfl⟩ := List.head?_eq_some_iff.mp h
    exact upToTerminator_zero_cons rest

/-! ## Copies -/

section Copy

variable {P : Platform} {value : Text} {previous : List ℕ}

/-- The characters of a string in front of a null character are some of its characters. -/
lemma isAscii_beforeNul (hascii : ∀ c ∈ value, Utf8.IsAscii c) :
    ∀ c ∈ beforeNul value, Utf8.IsAscii c :=
  fun c hc => hascii c ((List.takeWhile_prefix _).subset hc)

/-- An ASCII string is converted to wide characters of every size. -/
lemma all_unitFits_of_isAscii {cs : Text} (hascii : ∀ c ∈ cs, Utf8.IsAscii c) (unitSize : ℕ) :
    cs.all (unitFits unitSize) = true :=
  List.all_eq_true.mpr fun c hc => unitFits_of_lt (hascii c hc).toNat_lt unitSize

/-- Copying an ASCII string as it is. -/
lemma copyUtf8String_direct (hascii : ∀ c ∈ value, Utf8.IsAscii c) (buflen : ℕ) :
    copyUtf8String (P.withAnsi true) .char (Utf8.encode value) buflen =
      some ⟨min (beforeNul value).length (buflen - 1), decide (buflen ≤ (beforeNul value).length),
        if 0 < buflen then some (((beforeNul value).map Char.toNat).take (buflen - 1) ++ [0])
        else none⟩ := by
  have hbefore := isAscii_beforeNul hascii
  rw [copyUtf8String_char_ansi rfl, Utf8.length_encode_of_isAscii hbefore, map_toNat_encode hbefore]
  congr 2
  split <;> omega

/-- Copying an ASCII string through wide characters. -/
lemma copyUtf8String_converted (hnarrow : P.NarrowsAscii) (hascii : ∀ c ∈ value, Utf8.IsAscii c)
    (buflen : ℕ) :
    copyUtf8String (P.withAnsi false) .char (Utf8.encode value) buflen =
      some ⟨min (beforeNul value).length (buflen - 1),
        decide (buflen - 1 < (beforeNul value).length),
        if 0 < min (beforeNul value).length (buflen - 1) then
          some (((beforeNul value).map Char.toNat).take (buflen - 1) ++ [0])
        else none⟩ := by
  have hbefore := isAscii_beforeNul hascii
  have hcodes : (beforeNul value).map (fun c => ((P.withAnsi false).narrow c).toNat) =
      (beforeNul value).map Char.toNat :=
    List.map_congr_left fun c hc => hnarrow c (hbefore c hc)
  rw [copyUtf8String_char_narrow (by simp [Platform.withAnsi]),
    if_pos (all_unitFits_of_isAscii hbefore _), hcodes]

/-- Into a buffer that is there, the flag from before the copy does not matter. -/
lemma copyUtf8StringToSqlCharString_flag (inBuffer : List UInt8) (buflen : ℕ) (isTruncated : Bool) :
    copyUtf8StringToSqlCharString P inBuffer true buflen isTruncated =
      copyUtf8String P .char inBuffer buflen := by
  simp [copyUtf8String, copyUtf8StringToSqlCharString]

/-- The memory is the same after both copies, up to the terminator, if there is a character to copy
and room for it, if there is no buffer at all, or if the buffer started with a terminator. -/
lemma content_copied_iff (codes : List ℕ) (buflen : ℕ) (previous : List ℕ) :
    upToTerminator (overwrite previous
        (if 0 < buflen then some (codes.take (buflen - 1) ++ [0]) else none)) =
      upToTerminator (overwrite previous
        (if 0 < min codes.length (buflen - 1) then some (codes.take (buflen - 1) ++ [0])
        else none)) ↔
      buflen = 0 ∨ codes ≠ [] ∧ buflen ≠ 1 ∨ previous.head? = some 0 := by
  by_cases hzero : buflen = 0
  · simp [hzero]
  · rw [if_pos (Nat.pos_of_ne_zero hzero)]
    by_cases hcopied : 0 < min codes.length (buflen - 1)
    · rw [if_pos hcopied]
      have hne : codes ≠ [] := by
        rintro rfl
        simp at hcopied
      have hone : buflen ≠ 1 := by omega
      simp [hne, hone]
    · rw [if_neg hcopied]
      have hnothing : codes.take (buflen - 1) = [] := by
        rw [List.take_eq_nil_iff]
        have : buflen - 1 = 0 ∨ codes.length = 0 := by omega
        exact this.imp_right List.length_eq_zero_iff.mp
      have hnot : ¬ (codes ≠ [] ∧ buflen ≠ 1) := by
        rintro ⟨hne, hone⟩
        have := List.length_pos_iff.mpr hne
        omega
      have hcontent : upToTerminator (overwrite previous (some (codes.take (buflen - 1) ++ [0]))) =
          [0] := by
        rw [hnothing]
        exact upToTerminator_zero_cons _
      rw [hcontent, eq_comm, overwrite, upToTerminator_eq_singleton_iff]
      simp [hzero, hnot]

/-- When both copies of an ASCII string are alike. -/
lemma copiesAlike_iff (hnarrow : P.NarrowsAscii) (hascii : ∀ c ∈ value, Utf8.IsAscii c)
    (buflen : ℕ) :
    CopiesAlike P value buflen previous ↔ CopiesAlikeWhen value buflen previous := by
  have hcontent := content_copied_iff ((beforeNul value).map Char.toNat) buflen previous
  rw [List.length_map, ne_eq, List.map_eq_nil_iff] at hcontent
  have hpos : 0 < (beforeNul value).length ↔ beforeNul value ≠ [] := List.length_pos_iff
  have halike : CopiesAlike P value buflen previous ↔
      (buflen = 0 ∨ beforeNul value ≠ [] ∧ buflen ≠ 1 ∨ previous.head? = some 0) ∧
        (buflen ≤ (beforeNul value).length ↔ buflen - 1 < (beforeNul value).length) := by
    unfold CopiesAlike
    simp only [copyUtf8StringToSqlCharString_flag, copyUtf8String_direct hascii,
      copyUtf8String_converted hnarrow hascii, Option.some.injEq, forall_const]
    constructor
    · rintro ⟨_, _, rfl, rfl, h⟩
      exact ⟨hcontent.mp h.content, decide_eq_decide.mp h.isTruncated⟩
    · rintro ⟨h, htrunc⟩
      exact ⟨_, _, rfl, rfl, hcontent.mpr h, rfl, decide_eq_decide.mpr htrunc⟩
  rw [halike, CopiesAlikeWhen]
  by_cases hzero : buflen = 0
  · rw [if_pos hzero, ← hpos]
    simp [hzero]
  · rw [if_neg hzero]
    have hflag : buflen ≤ (beforeNul value).length ↔ buflen - 1 < (beforeNul value).length := by
      omega
    simp [hzero, hflag]

end Copy

/-! ## Conversions -/

section Put

variable {P : Platform} {value : Text} {previous : List ℕ} {b : ApplicationDataBuffer}

/-- What is read from an offset on, in front of a null character. -/
lemma beforeNul_drop {k : ℕ} (hk : k ≤ (beforeNul value).length) :
    beforeNul (value.drop k) = (beforeNul value).drop k := by
  have hsplit : value = beforeNul value ++ value.dropWhile (· ≠ '\x00') :=
    (List.takeWhile_append_dropWhile).symm
  have hall : ∀ c ∈ (beforeNul value).drop k, decide (c ≠ '\x00') = true := by
    intro c hc
    have hmem : c ∈ beforeNul value := List.mem_of_mem_drop hc
    simpa using List.mem_takeWhile_imp hmem
  have hnil : (value.dropWhile (· ≠ '\x00')).takeWhile (· ≠ '\x00') = [] := by
    rcases hrest : value.dropWhile (· ≠ '\x00') with _ | ⟨c, rest⟩
    · rfl
    · have hhead := List.head?_dropWhile_not (fun c => decide (c ≠ '\x00')) value
      rw [hrest] at hhead
      exact List.takeWhile_cons_of_neg (by simpa using hhead)
  conv_lhs => rw [hsplit, List.drop_append_of_le_length hk]
  rw [beforeNul, List.takeWhile_append_of_pos hall, hnil, List.append_nil]

/-- The bytes that an ASCII string needs, with and without a conversion. -/
lemma bytesRequired_withAnsi (hascii : ∀ c ∈ value, Utf8.IsAscii c) :
    ApplicationDataBuffer.bytesRequired (P.withAnsi true) .char (Utf8.encode value) =
        some value.length ∧
      ApplicationDataBuffer.bytesRequired (P.withAnsi false) .char (Utf8.encode value) =
        some (beforeNul value).length := by
  constructor
  · rw [bytesRequired_encode_eq, if_pos (by simp [Platform.withAnsi]), Utf8.length_encode_of_isAscii hascii,
      OutChar.size_char, Nat.mul_one]
  · rw [bytesRequired_encode_eq, if_neg (by simp [Platform.withAnsi]),
      if_pos (all_unitFits_of_isAscii (isAscii_beforeNul hascii) _), OutChar.size_char, Nat.mul_one]

/-- A string has a null character in it exactly when something of it is behind one. -/
lemma length_beforeNul_eq_iff : (beforeNul value).length = value.length ↔ '\x00' ∉ value := by
  rw [← beforeNul_eq_self_iff]
  constructor
  · exact (List.takeWhile_prefix _).eq_of_length
  · exact congrArg List.length

lemma length_beforeNul_le (value : Text) : (beforeNul value).length ≤ value.length :=
  (List.takeWhile_prefix _).length_le

/-- Two conversions that only differ in what they store and in the indicator. -/
lemma alike_of_flag_iff (isTruncated : Bool) (first second : Option (List ℕ)) (size : ℕ)
    (indicator indicator' : Option ℤ) (moved kept : ℤ) :
    Put.Alike previous
        (if isTruncated = true then
          ⟨.aiVarlenDataTruncated, first.map (Stored.units size), indicator, moved⟩
        else ⟨.aiSuccess, first.map (Stored.units size), indicator, kept⟩)
        (if isTruncated = true then
          ⟨.aiVarlenDataTruncated, second.map (Stored.units size), indicator', moved⟩
        else ⟨.aiSuccess, second.map (Stored.units size), indicator', kept⟩) ↔
      upToTerminator (overwrite previous first) = upToTerminator (overwrite previous second) ∧
        indicator = indicator' := by
  have hunits : ∀ (result : ConversionResult) (stored : Option (List ℕ)) (written : Option ℤ)
      (cellOffset : ℤ),
      Put.units ⟨result, stored.map (Stored.units size), written, cellOffset⟩ = stored := by
    rintro _ (_ | _) _ _ <;> rfl
  cases isTruncated
  · simp only [Bool.false_eq_true, if_false]
    constructor
    · rintro ⟨hcontent, hindicator, -, -⟩
      rw [hunits, hunits] at hcontent
      exact ⟨hcontent, hindicator⟩
    · rintro ⟨hcontent, hindicator⟩
      exact ⟨by rwa [hunits, hunits], hindicator, rfl, rfl⟩
  · simp only [if_true]
    constructor
    · rintro ⟨hcontent, hindicator, -, -⟩
      rw [hunits, hunits] at hcontent
      exact ⟨hcontent, hindicator⟩
    · rintro ⟨hcontent, hindicator⟩
      exact ⟨by rwa [hunits, hunits], hindicator, rfl, rfl⟩

/-- The remaining length that is reported, with and without a conversion, where the conversion finds
`length'` characters and copies some of them. -/
lemma resLen_remaining_iff {length length' offset room : ℕ} (hle : length' ≤ length)
    (hlt : offset < length') :
    b.resLen (if length ≠ offset + min (length' - offset) (room - 1) then
        (length : ℤ) - (offset + min (length' - offset) (room - 1) : ℕ) else length) =
      b.resLen (if length' ≠ offset + min (length' - offset) (room - 1) then
        (length' : ℤ) - (offset + min (length' - offset) (room - 1) : ℕ) else length') ↔
      b.reslen = false ∨ length' = length ∨ length = 2 * length' ∧ length' - offset < room := by
  unfold ApplicationDataBuffer.resLen
  by_cases hreslen : b.reslen = true
  · simp only [hreslen, if_true, Option.some.injEq, Bool.true_eq_false, false_or]
    split <;> split <;> omega
  · simp [hreslen]

/-- When both conversions of an ASCII string are alike. -/
lemma putsAlike_iff (hnarrow : P.NarrowsAscii) (hascii : ∀ c ∈ value, Utf8.IsAscii c) :
    PutsAlike P value b previous ↔ PutsAlikeWhen value b previous := by
  obtain ⟨hdirect, hconverted⟩ := bytesRequired_withAnsi (P := P) hascii
  have hlength := @length_beforeNul_eq_iff value
  have hle := length_beforeNul_le value
  unfold PutsAlike PutsAlikeWhen ApplicationDataBuffer.putStrToStrBuffer
  simp only [hdirect, hconverted, Option.bind_some, OutChar.size_char, Nat.mul_one, Nat.div_one]
  by_cases hbuffer : b.buffer
  · simp only [hbuffer, Bool.not_true, Bool.false_eq_true, if_false, Bool.true_eq_false]
    by_cases hend : value.length ≤ b.cellOffset.toNat
    · -- nothing is left of the string either way
      have hend' : (beforeNul value).length ≤ b.cellOffset.toNat := hle.trans hend
      simp only [hend, hend', if_true, true_or, iff_true]
      exact ⟨_, _, rfl, rfl, rfl, rfl, rfl, rfl⟩
    · have hdrop : (Utf8.encode value).drop b.cellOffset.toNat =
          Utf8.encode (value.drop b.cellOffset.toNat) :=
        Utf8.drop_encode_of_isAscii fun c hc => hascii c (List.mem_of_mem_take hc)
      have hascii' : ∀ c ∈ value.drop b.cellOffset.toNat, Utf8.IsAscii c :=
        fun c hc => hascii c (List.mem_of_mem_drop hc)
      rw [hdrop, copyUtf8String_direct hascii', copyUtf8String_converted hnarrow hascii']
      simp only [hend, if_false, Option.map_some, false_or]
      by_cases hnul : (beforeNul value).length ≤ b.cellOffset.toNat
      · -- only the conversion finds the end of the string
        simp only [hnul, if_true, Nat.not_lt.mpr hnul, false_and, iff_false]
        rintro ⟨_, _, hfirst, hsecond, halike⟩
        have hresult := halike.result
        obtain rfl := Option.some.inj hfirst
        obtain rfl := Option.some.inj hsecond
        dsimp only at hresult
        split at hresult <;> contradiction
      · have hlt : b.cellOffset.toNat < (beforeNul value).length := Nat.lt_of_not_le hnul
        have hrest : (beforeNul (value.drop b.cellOffset.toNat)).length =
            (beforeNul value).length - b.cellOffset.toNat := by
          rw [beforeNul_drop hlt.le, List.length_drop]
        have hflag : decide (b.buflen ≤ (beforeNul (value.drop b.cellOffset.toNat)).length) =
            decide (b.buflen - 1 < (beforeNul (value.drop b.cellOffset.toNat)).length) := by
          rw [hrest]
          exact decide_eq_decide.mpr (by omega)
        have hne : (beforeNul (value.drop b.cellOffset.toNat)).map Char.toNat ≠ [] := by
          rw [ne_eq, List.map_eq_nil_iff, ← List.length_eq_zero_iff, hrest]
          omega
        have hcontent := content_copied_iff
          ((beforeNul (value.drop b.cellOffset.toNat)).map Char.toNat) b.buflen previous
        rw [List.length_map] at hcontent
        have hindicator := @resLen_remaining_iff b _ _ _ b.buflen hle hlt
        rw [hlength] at hindicator
        have halike := @alike_of_flag_iff previous
        simp only [hnul, if_false, Option.some.injEq, hlt, true_and, hflag]
        constructor
        · rintro ⟨_, _, rfl, rfl, h⟩
          rw [halike, hcontent, hrest, hindicator] at h
          refine ⟨?_, h.2⟩
          rcases h.1 with hzero | ⟨-, hone⟩ | hhead
          · exact .inl (by omega)
          · exact .inl hone
          · exact .inr hhead
        · rintro ⟨hone, hlen⟩
          refine ⟨_, _, rfl, rfl, ?_⟩
          rw [halike, hcontent, hrest, hindicator]
          exact ⟨.inr (hone.imp_left fun h => ⟨hne, h⟩), hlen⟩
  · simp only [hbuffer, Bool.not_false, if_true, Option.some.injEq]
    constructor
    · rintro ⟨_, _, rfl, rfl, halike⟩
      by_cases hreslen : b.reslen = true
      · right
        have hindicator := halike.indicator
        simp only [ApplicationDataBuffer.resLen, hreslen, if_true, Option.some.injEq] at hindicator
        exact hlength.mp (by omega)
      · exact .inl (by simpa using hreslen)
    · intro hsame
      refine ⟨_, _, rfl, rfl, rfl, ?_, rfl, rfl⟩
      rcases hsame with hreslen | hnul
      · simp [ApplicationDataBuffer.resLen, hreslen]
      · rw [hlength.mpr hnul]

end Put

/-! ## The two ways -/

/-- The copy of an ASCII string and its conversion into a buffer of characters do the same with and
without `ANSI_STRING_ONLY` exactly under these conditions, for every length and every content that the
buffer had before. -/
theorem ansiPath_alike_iff {P : Platform} (hnarrow : P.NarrowsAscii) {value : Text}
    (hascii : ∀ c ∈ value, Utf8.IsAscii c) (previous : List ℕ) :
    (∀ outBufferLenBytes, CopiesAlike P value outBufferLenBytes previous ↔
        CopiesAlikeWhen value outBufferLenBytes previous) ∧
      ∀ b, PutsAlike P value b previous ↔ PutsAlikeWhen value b previous :=
  ⟨copiesAlike_iff hnarrow hascii, fun _ => putsAlike_iff hnarrow hascii⟩

/-- The platform of the examples narrows an ASCII character to its own code. -/
lemma samplePlatform_narrowsAscii : samplePlatform.NarrowsAscii := by
  intro c hc
  have hlt := hc.toNat_lt
  have hnarrow : samplePlatform.narrow c = c.toNat.toUInt8 := if_pos hlt
  rw [hnarrow]
  exact UInt8.toNat_ofNat_of_lt (hlt.trans (by decide))

/-- Two characters in a buffer of three that was cleared. -/
theorem ansiPath_alike_two :
    CopiesAlike samplePlatform ['a', 'b'] 3 [0, 0, 0] ∧
      PutsAlike samplePlatform ['a', 'b'] (.new .aiChar true 3 true) [0, 0, 0] := by
  have hascii : ∀ c ∈ ['a', 'b'], Utf8.IsAscii c :=
    List.forall_mem_cons.mpr ⟨by decide, List.forall_mem_singleton.mpr (by decide)⟩
  have halike := ansiPath_alike_iff samplePlatform_narrowsAscii hascii [0, 0, 0]
  exact ⟨(halike.1 3).mpr (.inl (by decide)), (halike.2 _).mpr
    (.inr ⟨by decide, .inl (by decide), .inr (.inl (by decide))⟩)⟩

/-- In a buffer of one byte that holds an `x`, only the copy of the bytes makes it a terminator. -/
theorem not_ansiPath_alike_one :
    ¬ (∀ (P : Platform), P.NarrowsAscii → ∀ value : Text, (∀ c ∈ value, Utf8.IsAscii c) →
      ∀ previous : List ℕ, (∀ outBufferLenBytes, CopiesAlike P value outBufferLenBytes previous) ∧
        ∀ b, PutsAlike P value b previous) := by
  intro h
  obtain ⟨direct, converted, hdirect, hconverted, halike⟩ := (h samplePlatform
    samplePlatform_narrowsAscii ['a'] (List.forall_mem_singleton.mpr (by decide))
    ['x'.toNat]).1 1 false
  have hd : copyUtf8StringToSqlCharString (samplePlatform.withAnsi true) (Utf8.encode ['a']) true 1
      false = some ⟨0, true, some [0]⟩ := by decide
  have hc : copyUtf8StringToSqlCharString (samplePlatform.withAnsi false) (Utf8.encode ['a']) true 1
      false = some ⟨0, true, none⟩ := by decide
  obtain rfl := Option.some.inj (hdirect.symm.trans hd)
  obtain rfl := Option.some.inj (hconverted.symm.trans hc)
  exact absurd halike.content (by decide)

end TimestreamOdbc
