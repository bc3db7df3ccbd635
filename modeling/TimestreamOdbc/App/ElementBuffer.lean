import TimestreamOdbc.Lib.Cut
import TimestreamOdbc.App.TimestreamColumn

/-!
# The buffer of an element

Every element of a composite value goes through a buffer of 1024 bytes of its own.  What is found there
afterwards is a cut of what was put, and the texts that are not cut are the small ones.
-/

namespace TimestreamOdbc

/-! ## Copying a string from its beginning -/

/-- A byte is a number below 256. -/
lemma map_toUInt8_toNat (bytes : List UInt8) :
    (bytes.map UInt8.toNat).map Nat.toUInt8 = bytes := by
  have hid : Nat.toUInt8 ∘ UInt8.toNat = id := funext fun _ => UInt8.ofNat_toNat
  rw [List.map_map, hid, List.map_id]

/-- The codes of the bytes determine them. -/
lemma map_toNat_injective : Function.Injective (List.map UInt8.toNat) :=
  List.map_injective_iff.mpr fun _ _ => UInt8.toNat.inj

/-- A C string is the beginning of the bytes. -/
lemma cString_isPrefix (bytes : List UInt8) : cString bytes <+: bytes := List.takeWhile_prefix _

/-- A C string has no null byte. -/
lemma zero_notMem_cString (bytes : List UInt8) : 0 ∉ cString bytes := by
  intro h
  have := List.mem_takeWhile_imp h
  simp at this

/-- The characters in a cleared buffer after bytes and the terminator were stored. -/
lemma storedText_units (size : ℕ) (bytes : List UInt8) :
    storedText (some (.units size (bytes.map UInt8.toNat ++ [0]))) = cString bytes := by
  have hzero : Nat.toUInt8 0 = 0 := rfl
  rw [storedText, List.map_append, map_toUInt8_toNat, List.map_singleton, hzero]
  unfold cString
  by_cases h : ∀ b ∈ bytes, decide (b ≠ 0) = true
  · rw [List.takeWhile_append_of_pos h, List.takeWhile_eq_self_iff.mpr h]
    simp
  · rw [List.takeWhile_append, if_neg]
    intro hlength
    have hself := (List.takeWhile_prefix _).eq_of_length hlength
    exact h (List.takeWhile_eq_self_iff.mp hself)

/-- What a string becomes in a buffer that gets it from its beginning: nothing when it has no
characters, and the copy of it otherwise. -/
lemma stored_putStrToStrBuffer (P : Platform) (outChar : OutChar) (value : List UInt8)
    {b : ApplicationDataBuffer} (hbuffer : b.buffer = true) (hoffset : b.cellOffset ≤ 0) :
    (b.putStrToStrBuffer P outChar value).map Put.stored =
      (ApplicationDataBuffer.bytesRequired P outChar value).bind fun required =>
        if required = 0 then some none
        else (copyUtf8String P outChar value b.buflen).map fun copied =>
          copied.stored.map (Stored.units (outChar.size P)) := by
  have hzero : b.cellOffset.toNat = 0 := by omega
  unfold ApplicationDataBuffer.putStrToStrBuffer
  rcases ApplicationDataBuffer.bytesRequired P outChar value with _ | required
  · rfl
  · simp only [Option.bind_some, hbuffer, Bool.not_true, Bool.false_eq_true, if_false, hzero,
      Nat.zero_mul, Nat.le_zero, List.drop_zero]
    split
    · rfl
    · rw [Option.map_map]
      congr 1
      funext copied
      simp only [Function.comp_apply]
      split <;> rfl

/-! ## The buffer of an element -/

section Element

variable (P : Platform)

/-- The text of a string that went through the buffer of an element. -/
def elementText (value : List UInt8) : Option (List UInt8) :=
  (tmpBuf.putStrToStrBuffer P .char value).map Put.bufText

lemma elementText_eq (value : List UInt8) :
    elementText P value = ((ApplicationDataBuffer.bytesRequired P .char value).bind fun required =>
      if required = 0 then some none
      else (copyUtf8String P .char value bufferSize).map fun copied =>
        copied.stored.map (Stored.units 1)).map storedText := by
  have h := stored_putStrToStrBuffer P .char value (b := tmpBuf) rfl (by decide)
  have hbuflen : tmpBuf.buflen = bufferSize := rfl
  rw [hbuflen, OutChar.size_char] at h
  rw [← h, Option.map_map]
  rfl

variable {P}

/-- On a platform that takes strings as they are, at most 1023 bytes are left. -/
lemma elementText_ansi (hP : P.ansiStringOnly = true) (value : List UInt8) :
    elementText P value = some ((cString value).take (bufferSize - 1)) := by
  have hnone : 0 ∉ (cString value).take (bufferSize - 1) :=
    fun h => zero_notMem_cString value (List.mem_of_mem_take h)
  rw [elementText_eq, ApplicationDataBuffer.bytesRequired, if_pos hP, Option.bind_some,
    OutChar.size_char, Nat.mul_one]
  split
  · next hempty =>
    rw [List.length_eq_zero_iff.mp hempty]
    rfl
  · have hpos : 0 < bufferSize := by decide
    simp only [copyUtf8String, copyUtf8StringToSqlCharString, Bool.not_true, Bool.false_eq_true,
      if_false, hP, if_true, hpos]
    split
    · simp only [Option.map_some, List.map_take]
      rw [← List.map_take, storedText_units, cString_eq_self hnone]
    · next hshort =>
      rw [List.take_of_length_le (by omega)]
      simp only [Option.map_some, storedText_units]
      rw [cString_eq_self (zero_notMem_cString value)]

/-- On the other platforms, at most 1023 characters are left, in their narrow forms. -/
lemma elementText_narrow (hP : ¬ P.ansiStringOnly = true) (value : List UInt8) :
    elementText P value = (fromBytes P value).map fun inString =>
      cString ((inString.take (bufferSize - 1)).map P.narrow) := by
  rw [elementText_eq, ApplicationDataBuffer.bytesRequired, if_neg hP, OutChar.size_char]
  have hpos : 0 < bufferSize := by decide
  simp only [copyUtf8String, copyUtf8StringToSqlCharString, Bool.not_true, Bool.false_eq_true,
    if_false, hP, hpos, if_true, Nat.mul_one]
  rcases fromBytes P value with _ | inString
  · rfl
  · simp only [Option.map_some, Option.bind_some]
    split
    · next hempty =>
      rw [List.length_eq_zero_iff.mp hempty]
      rfl
    · next hne =>
      have hcount : 0 < min inString.length (bufferSize - 1) := by
        have : bufferSize = 1024 := rfl
        omega
      have htake : inString.take (min inString.length (bufferSize - 1)) =
          inString.take (bufferSize - 1) := by
        rw [Nat.min_comm, ← List.take_eq_take_min]
      simp only [hcount, if_true, Option.map_some, htake]
      rw [← storedText_units 1, List.map_map]
      rfl

/-! ### What survives it -/

/-- A text that the buffer of an element takes as it is: it is short enough and has no null
character, and where it goes through wide characters it is an ASCII text. -/
structure Small (P : Platform) (t : Text) : Prop where
  noNull : '\x00' ∉ t
  short : (Utf8.encode t).length < bufferSize
  ascii : P.ansiStringOnly = true ∨ ∀ c ∈ t, Utf8.IsAscii c

/-- The ASCII characters keep their codes in the narrow characters of the platform. -/
def NarrowsAscii (P : Platform) : Prop := ∀ c, Utf8.IsAscii c → (P.narrow c).toNat = c.toNat

lemma small_nil : Small P [] where
  noNull := List.not_mem_nil
  short := by decide
  ascii := .inr fun _ hc => absurd hc List.not_mem_nil

/-- Parts of a small text are small. -/
lemma Small.of_isInfix {s t : Text} (h : Small P t) (hpart : s <:+: t) : Small P s := by
  obtain ⟨before, after, rfl⟩ := hpart
  refine ⟨fun hnul => h.noNull ?_, ?_, ?_⟩
  · exact List.mem_append_left _ (List.mem_append_right _ hnul)
  · have hshort := h.short
    simp only [Utf8.encode_append, List.length_append] at hshort
    omega
  · rcases h.ascii with hP | hascii
    · exact .inl hP
    · right
      intro c hc
      exact hascii c (List.mem_append_left _ (List.mem_append_right _ hc))

/-- The codes of an ASCII text in the narrow characters of the platform. -/
lemma map_narrow (hP : NarrowsAscii P) {t : Text} (h : ∀ c ∈ t, Utf8.IsAscii c) :
    t.map P.narrow = Utf8.encode t := by
  apply map_toNat_injective
  rw [map_toNat_encode h, List.map_map]
  apply List.map_congr_left
  intro c hc
  exact hP c (h c hc)

/-- Nothing is decoded to more characters than there are bytes, and only an ASCII text is decoded to
as many. -/
lemma encode_of_fromBytes {value : List UInt8} {inString : Text}
    (h : fromBytes P value = some inString) : Utf8.encode inString <+: cString value := by
  unfold fromBytes Utf8.decode at h
  split at h
  · next hconvert =>
    obtain rfl := Option.some.inj h
    have hbegins := Utf8.encode_convert_isPrefix (unitFits P.wcharSize) (cString value).length
      (cString value)
    rwa [hconvert] at hbegins
  · exact absurd h (by simp)

/-- The buffer of an element cuts. -/
lemma elementText_cut (hP : NarrowsAscii P) {value bytes : List UInt8}
    (h : elementText P value = some bytes) : IsCutOf bytes value := by
  have hlength := (cString_isPrefix value).length_le
  by_cases hansi : P.ansiStringOnly = true
  · rw [elementText_ansi hansi] at h
    obtain rfl := Option.some.inj h
    have hbegins : (cString value).take (bufferSize - 1) <+: value :=
      (List.take_prefix _ _).trans (cString_isPrefix value)
    exact ⟨hbegins.length_le, hbegins.eq_of_length⟩
  · rw [elementText_narrow hansi] at h
    obtain ⟨inString, hdecoded, rfl⟩ := Option.map_eq_some_iff.mp h
    have hencode := (encode_of_fromBytes hdecoded).trans (cString_isPrefix value)
    have hchars := Utf8.length_le_length_encode inString
    have hbytes := hencode.length_le
    have htaken := (cString_isPrefix ((inString.take (bufferSize - 1)).map P.narrow)).length_le
    rw [List.length_map, List.length_take] at htaken
    refine ⟨by omega, ?_⟩
    -- as many bytes are left only if every byte was an ASCII character
    intro hsame
    have hascii : ∀ c ∈ inString, Utf8.IsAscii c := Utf8.isAscii_of_length_encode_le (by omega)
    have hvalue := hencode.eq_of_length (by omega)
    have hall : inString.take (bufferSize - 1) = inString := List.take_of_length_le (by omega)
    rw [hall, map_narrow hP hascii, hvalue] at hsame ⊢
    exact (cString_isPrefix value).eq_of_length hsame

/-- The buffer of an element takes the small texts, and only these, as they are. -/
lemma elementText_encode_iff (hP : NarrowsAscii P) {t : Text} :
    elementText P (Utf8.encode t) = some (Utf8.encode t) ↔ Small P t := by
  constructor
  · intro h
    by_cases hansi : P.ansiStringOnly = true
    · rw [elementText_ansi hansi] at h
      have htake := Option.some.inj h
      have hwhole : cString (Utf8.encode t) = Utf8.encode t := by
        apply (cString_isPrefix _).eq_of_length_le
        rw [← htake]
        exact (List.take_prefix _ _).length_le.trans (by rw [htake])
      have hshort := congrArg List.length htake
      rw [List.length_take, hwhole] at hshort
      have hsize : bufferSize = 1024 := rfl
      refine ⟨fun hnul => ?_, by omega, .inl hansi⟩
      apply zero_notMem_cString (Utf8.encode t)
      rw [hwhole]
      exact Utf8.zero_mem_encode hnul
    · rw [elementText_narrow hansi] at h
      obtain ⟨inString, hdecoded, hstored⟩ := Option.map_eq_some_iff.mp h
      have hencode := (encode_of_fromBytes hdecoded).length_le
      have hchars := Utf8.length_le_length_encode inString
      have hcut := (cString_isPrefix (Utf8.encode t)).length_le
      have htaken := (cString_isPrefix ((inString.take (bufferSize - 1)).map P.narrow)).length_le
      rw [hstored, List.length_map, List.length_take] at htaken
      have hwhole := (cString_isPrefix (Utf8.encode t)).eq_of_length (by omega)
      have hnul : '\x00' ∉ t := by
        intro hnul
        apply zero_notMem_cString (Utf8.encode t)
        rw [hwhole]
        exact Utf8.zero_mem_encode hnul
      rw [fromBytes_encode P hnul] at hdecoded
      split at hdecoded
      · obtain rfl := Option.some.inj hdecoded
        have hsize : bufferSize = 1024 := rfl
        exact ⟨hnul, by omega, .inr (Utf8.isAscii_of_length_encode_le (by omega))⟩
      · exact absurd hdecoded (by simp)
  · intro h
    have hcString := cString_encode h.noNull
    have hshort := h.short
    by_cases hansi : P.ansiStringOnly = true
    · rw [elementText_ansi hansi, hcString, List.take_of_length_le (by omega)]
    · have hascii := h.ascii.resolve_left hansi
      have hfits : t.all (unitFits P.wcharSize) = true := by
        apply List.all_eq_true.mpr
        intro c hc
        exact unitFits_of_lt (hascii c hc).toNat_lt _
      have hlength := Utf8.length_le_length_encode t
      rw [elementText_narrow hansi, fromBytes_encode P h.noNull, if_pos hfits, Option.map_some,
        List.take_of_length_le (by omega), map_narrow hP hascii, hcString]

end Element

end TimestreamOdbc
