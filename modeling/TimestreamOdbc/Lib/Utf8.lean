import Mathlib.Data.Nat.Notation
import Mathlib.Data.List.TakeWhile
import Mathlib.Tactic.Common

/-!
# UTF-8 texts as lists of bytes

The encoding of a list of characters, and a converter from bytes to characters that stops at the
first sequence it can not convert.  The converter takes only the characters a predicate admits, as
a converter into code units of a bounded size does, and it writes at most a given number of them.

The results say what the converter makes of an encoded text, and of the rest of one from a byte in
the middle of a character on.
-/

namespace Utf8

/-! ## Encoding -/

/-- The bytes of a text. -/
def encode (cs : List Char) : List UInt8 := cs.flatMap String.utf8EncodeChar

@[simp] lemma encode_nil : encode [] = [] := rfl

@[simp] lemma encode_cons (c : Char) (cs : List Char) :
    encode (c :: cs) = String.utf8EncodeChar c ++ encode cs := List.flatMap_cons

/-- A character that is encoded as one byte. -/
def IsAscii (c : Char) : Prop := c.utf8Size = 1

instance : DecidablePred IsAscii := fun c => inferInstanceAs (Decidable (c.utf8Size = 1))

/-- The one byte of an ASCII character is its code. -/
lemma utf8EncodeChar_of_isAscii {c : Char} (h : IsAscii c) :
    String.utf8EncodeChar c = [c.val.toUInt8] := String.utf8EncodeChar_eq_singleton h

/-- An ASCII character has seven bits. -/
lemma IsAscii.toNat_lt {c : Char} (h : IsAscii c) : c.toNat < 128 :=
  Nat.lt_succ_of_le (UInt32.le_iff_toNat_le.mp (Char.utf8Size_eq_one_iff.mp h))

/-- No encoded character is empty. -/
lemma utf8EncodeChar_ne_nil (c : Char) : String.utf8EncodeChar c ≠ [] := by
  intro h
  have hlen := String.length_utf8EncodeChar c
  have hpos := c.utf8Size_pos
  rw [h] at hlen
  simp at hlen
  omega

/-- A byte with a bit that is set is not null. -/
private lemma zero_ne_or {a b : UInt8} (h : b ≠ 0) : 0 ≠ a ||| b := by
  intro hzero
  exact h (UInt8.or_eq_zero_iff.mp hzero.symm).2

/-- Only the null character is encoded with a null byte. -/
lemma zero_notMem_utf8EncodeChar {c : Char} (h : c ≠ '\x00') : 0 ∉ String.utf8EncodeChar c := by
  intro hmem
  rcases c.utf8Size_eq with hone | htwo | hthree | hfour
  · rw [utf8EncodeChar_of_isAscii hone, List.mem_singleton] at hmem
    have hlt : c.val.toNat < 128 := IsAscii.toNat_lt hone
    have hcode : 0 = c.val.toNat % 2 ^ 8 :=
      (congrArg UInt8.toNat hmem).trans (UInt32.toNat_toUInt8 c.val)
    apply h
    apply Char.ext
    apply UInt32.toNat.inj
    change c.val.toNat = 0
    omega
  -- every byte of the longer encodings has its highest bit set
  · rw [String.utf8EncodeChar_eq_cons_cons htwo] at hmem
    simp only [List.mem_cons, List.not_mem_nil, or_false] at hmem
    rcases hmem with h | h <;> exact zero_ne_or (by decide) h
  · rw [String.utf8EncodeChar_eq_cons_cons_cons hthree] at hmem
    simp only [List.mem_cons, List.not_mem_nil, or_false] at hmem
    rcases hmem with h | h | h <;> exact zero_ne_or (by decide) h
  · rw [String.utf8EncodeChar_eq_cons_cons_cons_cons hfour] at hmem
    simp only [List.mem_cons, List.not_mem_nil, or_false] at hmem
    rcases hmem with h | h | h | h <;> exact zero_ne_or (by decide) h

/-- A text without a null character is encoded without a null byte. -/
lemma zero_notMem_encode {cs : List Char} (h : '\x00' ∉ cs) : 0 ∉ encode cs := by
  intro hmem
  obtain ⟨c, hc, hzero⟩ := List.mem_flatMap.mp hmem
  apply zero_notMem_utf8EncodeChar _ hzero
  rintro rfl
  exact h hc

/-- A text with a null character is encoded with a null byte. -/
lemma zero_mem_encode {cs : List Char} (h : '\x00' ∈ cs) : 0 ∈ encode cs :=
  List.mem_flatMap.mpr ⟨'\x00', h, by decide⟩

/-- A text has at most as many characters as bytes. -/
lemma length_le_length_encode (cs : List Char) : cs.length ≤ (encode cs).length := by
  induction cs with
  | nil => simp
  | cons c cs ih =>
    have := c.utf8Size_pos
    simp only [List.length_cons, encode_cons, List.length_append, String.length_utf8EncodeChar]
    omega

/-- An ASCII text has as many characters as bytes. -/
lemma length_encode_of_isAscii {cs : List Char} (h : ∀ c ∈ cs, IsAscii c) :
    (encode cs).length = cs.length := by
  induction cs with
  | nil => rfl
  | cons c cs ih =>
    have hc : c.utf8Size = 1 := h c List.mem_cons_self
    rw [encode_cons, List.length_append, String.length_utf8EncodeChar, hc,
      ih fun d hd => h d (List.mem_cons_of_mem _ hd), List.length_cons]
    omega

/-- A text that has as many characters as bytes is an ASCII text. -/
lemma isAscii_of_length_encode_le {cs : List Char} (h : (encode cs).length ≤ cs.length) :
    ∀ c ∈ cs, IsAscii c := by
  induction cs with
  | nil => simp
  | cons c cs ih =>
    have hpos := c.utf8Size_pos
    have hle := length_le_length_encode cs
    rw [encode_cons, List.length_append, String.length_utf8EncodeChar, List.length_cons] at h
    intro d hd
    rcases List.mem_cons.mp hd with rfl | hd
    · have : d.utf8Size = 1 := by omega
      exact this
    · exact ih (by omega) d hd

@[simp] lemma encode_append (cs ds : List Char) : encode (cs ++ ds) = encode cs ++ encode ds :=
  List.flatMap_append

/-- Skipping as many bytes as characters skips the characters when they are ASCII. -/
lemma drop_encode_of_isAscii {cs : List Char} {k : ℕ} (h : ∀ c ∈ cs.take k, IsAscii c) :
    (encode cs).drop k = encode (cs.drop k) := by
  induction cs generalizing k with
  | nil => simp
  | cons c cs ih =>
    cases k with
    | zero => rfl
    | succ k =>
      have hc : IsAscii c := h c (by simp)
      rw [encode_cons, utf8EncodeChar_of_isAscii hc]
      simp only [List.singleton_append, List.drop_succ_cons]
      apply ih
      intro d hd
      exact h d (by simp [hd])

/-! ## Decoding -/

/-- The character that a list of bytes starts with, when it starts with one. -/
def decodeNext (bytes : List UInt8) : Option Char := bytes.toByteArray.utf8DecodeChar? 0

/-- Decoding finds the character that was encoded. -/
@[simp] lemma decodeNext_encodeChar (c : Char) (rest : List UInt8) :
    decodeNext (String.utf8EncodeChar c ++ rest) = some c := by
  rw [decodeNext, List.toByteArray_append]
  exact ByteArray.utf8DecodeChar?_utf8EncodeChar_append

/-- A list of bytes that a character is decoded from starts with the encoding of the character. -/
lemma exists_of_decodeNext_eq_some {bytes : List UInt8} {c : Char}
    (h : decodeNext bytes = some c) : ∃ rest, bytes = String.utf8EncodeChar c ++ rest := by
  obtain ⟨rest, hrest⟩ := ByteArray.exists_of_utf8DecodeChar?_eq_some h
  refine ⟨rest.data.toList, ?_⟩
  have := congrArg (fun array => array.data.toList) hrest
  simpa using this

/-- No character starts in the middle of an encoded character. -/
lemma decodeNext_drop_encodeChar {c : Char} {k : ℕ} (hk : 0 < k) (hlt : k < c.utf8Size)
    (rest : List UInt8) : decodeNext ((String.utf8EncodeChar c).drop k ++ rest) = none := by
  by_contra hne
  have hsome : (decodeNext ((String.utf8EncodeChar c).drop k ++ rest)).isSome :=
    Option.isSome_iff_ne_none.mpr hne
  have hfirst := ByteArray.isUTF8FirstByte_of_isSome_utf8DecodeChar? hsome
  have hlen : k < (String.utf8EncodeChar c).length := by
    rw [String.length_utf8EncodeChar]
    exact hlt
  rw [List.getElem_toByteArray] at hfirst
  rw [List.getElem_append_left (by simp; omega), List.getElem_drop] at hfirst
  have := UInt8.isUTF8FirstByte_getElem_utf8EncodeChar.mp hfirst
  omega

/-! ## Converting -/

/-- How a conversion ended: at the end of the input, with input left and no room, or at a sequence
it can not convert. -/
inductive Status where
  | ok
  | noRoom
  | error
  deriving DecidableEq, Repr

/-- The conversion of bytes into at most `room` characters that are admitted by `fits`. -/
def convert (fits : Char → Bool) : ℕ → List UInt8 → Status × List Char
  | _, [] => (.ok, [])
  | 0, _ :: _ => (.noRoom, [])
  | room + 1, b :: bytes =>
    match decodeNext (b :: bytes) with
    | none => (.error, [])
    | some c =>
      if fits c then
        let (status, cs) := convert fits room ((b :: bytes).drop c.utf8Size)
        (status, c :: cs)
      else (.error, [])

variable {fits : Char → Bool}

@[simp] lemma convert_nil (fits : Char → Bool) (room : ℕ) : convert fits room [] = (.ok, []) := by
  cases room <;> rfl

/-- A conversion without room stops at the first byte. -/
lemma convert_zero {bytes : List UInt8} (h : bytes ≠ []) : convert fits 0 bytes = (.noRoom, []) := by
  rcases bytes with _ | ⟨b, bytes⟩
  · exact absurd rfl h
  · rfl

/-- A conversion with room starts with the first character. -/
lemma convert_succ_encodeChar (room : ℕ) (c : Char) (rest : List UInt8) :
    convert fits (room + 1) (String.utf8EncodeChar c ++ rest) =
      if fits c then ((convert fits room rest).1, c :: (convert fits room rest).2)
      else (.error, []) := by
  have hd := decodeNext_encodeChar c rest
  have hdrop : (String.utf8EncodeChar c ++ rest).drop c.utf8Size = rest :=
    List.drop_left' (String.length_utf8EncodeChar c)
  obtain ⟨b, bytes, hb⟩ := List.exists_cons_of_ne_nil (utf8EncodeChar_ne_nil c)
  rw [hb, List.cons_append] at hd hdrop ⊢
  simp only [convert, hd, hdrop]

/-- A conversion that starts in the middle of a character fails at once. -/
lemma convert_drop_encodeChar {c : Char} {k : ℕ} (hk : 0 < k) (hlt : k < c.utf8Size) (room : ℕ)
    (rest : List UInt8) :
    convert fits (room + 1) ((String.utf8EncodeChar c).drop k ++ rest) = (.error, []) := by
  have hd := decodeNext_drop_encodeChar hk hlt rest
  have hne : (String.utf8EncodeChar c).drop k ≠ [] := by
    simpa using hlt
  obtain ⟨b, bytes, hb⟩ := List.exists_cons_of_ne_nil hne
  rw [hb, List.cons_append] at hd ⊢
  simp only [convert, hd]

/-- Only admitted characters are written. -/
lemma fits_of_mem_convert {room : ℕ} {bytes : List UInt8} {c : Char}
    (hc : c ∈ (convert fits room bytes).2) : fits c := by
  induction room generalizing bytes with
  | zero => rcases bytes with _ | _ <;> simp [convert] at hc
  | succ room ih =>
    rcases bytes with _ | ⟨b, bytes⟩
    · simp at hc
    · unfold convert at hc
      split at hc
      · simp at hc
      · next d _ =>
        split at hc
        · next hd =>
          rcases List.mem_cons.mp hc with rfl | hc
          · exact hd
          · exact ih hc
        · simp at hc

/-- The status of converting a text: the first `room` characters decide. -/
def textStatus (fits : Char → Bool) (room : ℕ) (cs : List Char) : Status :=
  if (cs.take room).all fits then if cs.length ≤ room then .ok else .noRoom else .error

/-- What a conversion makes of an encoded text: the longest prefix of admitted characters for which
there is room. -/
theorem convert_encode (fits : Char → Bool) (room : ℕ) (cs : List Char) :
    convert fits room (encode cs) =
      (textStatus fits room cs, (cs.take room).takeWhile fits) := by
  induction cs generalizing room with
  | nil => simp [textStatus]
  | cons c cs ih =>
    cases room with
    | zero =>
      rw [encode_cons, convert_zero (by simp)]
      simp [textStatus]
    | succ room =>
      rw [encode_cons, convert_succ_encodeChar, ih]
      cases h : fits c <;> simp [textStatus, h]

/-- No more characters are written than there is room for. -/
lemma length_convert_le (fits : Char → Bool) (room : ℕ) (bytes : List UInt8) :
    (convert fits room bytes).2.length ≤ room := by
  induction room generalizing bytes with
  | zero => rcases bytes with _ | ⟨b, bytes⟩ <;> exact le_rfl
  | succ room ih =>
    rcases bytes with _ | ⟨b, bytes⟩
    · simp
    · unfold convert
      split
      · simp
      · split
        · exact Nat.succ_le_succ (ih _)
        · simp

/-- What is written is encoded in the bytes that were read. -/
lemma encode_convert_isPrefix (fits : Char → Bool) (room : ℕ) (bytes : List UInt8) :
    encode (convert fits room bytes).2 <+: bytes := by
  induction room generalizing bytes with
  | zero =>
    rcases bytes with _ | ⟨b, bytes⟩ <;> exact List.nil_prefix
  | succ room ih =>
    rcases hd : decodeNext bytes with _ | c
    · rcases bytes with _ | ⟨b, bytes⟩
      · exact List.nil_prefix
      · simp only [convert, hd, encode_nil]
        exact List.nil_prefix
    · obtain ⟨rest, rfl⟩ := exists_of_decodeNext_eq_some hd
      rw [convert_succ_encodeChar]
      split
      · rw [encode_cons]
        exact (List.prefix_append_right_inj _).mpr (ih rest)
      · exact List.nil_prefix

/-- The conversion of a whole list of bytes, or nothing when it stops before the end. -/
def decode (fits : Char → Bool) (bytes : List UInt8) : Option (List Char) :=
  match convert fits bytes.length bytes with
  | (.ok, cs) => some cs
  | _ => none

/-- A text is decoded when all its characters are admitted. -/
theorem decode_encode (fits : Char → Bool) (cs : List Char) :
    decode fits (encode cs) = if cs.all fits then some cs else none := by
  have hle := length_le_length_encode cs
  rw [decode, convert_encode, textStatus, List.take_of_length_le hle, if_pos hle]
  by_cases h : cs.all fits
  · have hself : cs.takeWhile fits = cs :=
      List.takeWhile_eq_self_iff.mpr fun c hc => List.all_eq_true.mp h c hc
    simp [h, hself]
  · simp [h]

/-- Nothing is decoded from the middle of a character on. -/
lemma decode_drop_encodeChar {c : Char} {k : ℕ} (hk : 0 < k) (hlt : k < c.utf8Size)
    (rest : List UInt8) :
    decode fits ((String.utf8EncodeChar c).drop k ++ rest) = none := by
  have hpos : 0 < ((String.utf8EncodeChar c).drop k ++ rest).length := by
    rw [List.length_append, List.length_drop, String.length_utf8EncodeChar]
    omega
  obtain ⟨room, hroom⟩ := Nat.exists_eq_succ_of_ne_zero hpos.ne'
  rw [decode, hroom, convert_drop_encodeChar hk hlt]

end Utf8
