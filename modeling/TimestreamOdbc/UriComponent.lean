import TimestreamOdbc.Lib.PercentEncoding
import Mathlib.Data.Nat.Digits.Defs

/-!
# URI components

`EncodeURIComponent` of `utils.h`: letters, digits and eight marks are kept, every other byte is
written as a percent sign and its number in hexadecimal.  No width is set on the stream, so that a
byte below 16 gets one digit instead of two.
-/

namespace TimestreamOdbc

open PercentEncoding

/-- The letters and digits of ASCII. -/
def isAsciiAlnum (n : ℤ) : Bool :=
  (0x30 ≤ n && n ≤ 0x39) || (0x41 ≤ n && n ≤ 0x5a) || (0x61 ≤ n && n ≤ 0x7a)

/-- What the encoder finds on its platform: whether a `char` is signed, and `std::isalnum`.  In ASCII
that holds of the letters and digits; the argument is a negative number for a byte outside of ASCII
when a `char` is signed, for which nothing is said about it. -/
structure CharClass where
  charSigned : Bool
  isalnum : ℤ → Bool
  isalnum_ascii : ∀ n, 0 ≤ n → n < 0x80 → isalnum n = isAsciiAlnum n

namespace CharClass

/-- The C locale with a signed `char`. -/
def cLocale : CharClass := ⟨true, isAsciiAlnum, fun _ _ _ => rfl⟩

/-- The `char` with the byte, as an `int`. -/
def charValue (P : CharClass) (b : UInt8) : ℤ :=
  if P.charSigned ∧ 0x80 ≤ b then (b.toNat : ℤ) - 0x100 else b.toNat

end CharClass

/-- The marks `-`, `_`, `~`, `.`, `*`, `!`, `(` and `)`. -/
def keptMarks : List UInt8 := [0x2d, 0x5f, 0x7e, 0x2e, 0x2a, 0x21, 0x28, 0x29]

/-- The bytes that `EncodeURIComponent` keeps: those that are letters or digits to the platform, and
the marks. -/
def isKept (P : CharClass) (b : UInt8) : Bool :=
  P.isalnum (P.charValue b) || keptMarks.contains b

/-- The number as `std::uppercase` and `std::hex` print it: without leading zeros. -/
def upperHex (n : ℕ) : List UInt8 :=
  (Nat.toDigits 16 n).map fun c => UInt8.ofNat c.toUpper.toNat

/-- What is written for one byte. -/
def encodeByte (P : CharClass) (b : UInt8) : List UInt8 :=
  if isKept P b then [b] else percent :: upperHex (0xff &&& b).toNat

/-- `EncodeURIComponent`. -/
def encodeURIComponent (P : CharClass) (unencoded : List UInt8) : List UInt8 :=
  unencoded.flatMap (encodeByte P)

/-- The marks that need no escape in a component: `-`, `_`, `.`, `!`, `~`, `*`, the apostrophe, `(`
and `)`. -/
def unreservedMarks : List UInt8 := [0x2d, 0x5f, 0x2e, 0x21, 0x7e, 0x2a, 0x27, 0x28, 0x29]

/-- The characters that need no escape in a component: letters, digits and the marks. -/
def IsUnreserved (b : UInt8) : Prop :=
  isAsciiAlnum b.toNat ∨ b ∈ unreservedMarks

/-- The string is encoded by unreserved characters and well-formed escapes, and can be decoded. -/
def InvertiblyEncoded (P : CharClass) (s : List UInt8) : Prop :=
  Escaped IsUnreserved (encodeURIComponent P s) ∧
    percentDecode (encodeURIComponent P s) = some s

/-! ## One byte -/

/-- The letters and digits lie between the control characters and the end of ASCII. -/
lemma isAsciiAlnum_bounds {n : ℤ} (h : isAsciiAlnum n = true) : 0x30 ≤ n ∧ n < 0x80 := by
  simp only [isAsciiAlnum, Bool.or_eq_true, Bool.and_eq_true, decide_eq_true_eq] at h
  omega

/-- The marks lie between the control characters and the end of ASCII. -/
lemma unreservedMarks_bounds {b : UInt8} (h : b ∈ unreservedMarks) : 0x10 ≤ b ∧ b < 0x80 := by
  have hall : unreservedMarks.all (fun b => decide (0x10 ≤ b ∧ b < 0x80)) = true := by decide
  exact of_decide_eq_true (List.all_eq_true.mp hall b h)

/-- The marks that are kept are unreserved. -/
lemma mem_unreservedMarks {b : UInt8} (h : b ∈ keptMarks) : b ∈ unreservedMarks := by
  have hall : keptMarks.all (unreservedMarks.contains ·) = true := by decide
  exact List.contains_iff_mem.mp (List.all_eq_true.mp hall b h)

/-- The unreserved characters lie between the control characters and the end of ASCII. -/
lemma IsUnreserved.bounds {b : UInt8} (h : IsUnreserved b) : 0x10 ≤ b ∧ b < 0x80 := by
  rcases h with halnum | hmark
  · have := isAsciiAlnum_bounds halnum
    exact ⟨UInt8.le_iff_toNat_le.mpr (by simp; omega), UInt8.lt_iff_toNat_lt.mpr (by simp; omega)⟩
  · exact unreservedMarks_bounds hmark

/-- The percent sign is reserved. -/
lemma not_isUnreserved_percent : ¬ IsUnreserved percent := by
  simp [IsUnreserved, isAsciiAlnum, unreservedMarks, percent]

/-- In ASCII the platform sees the number of the byte. -/
lemma isalnum_charValue (P : CharClass) {b : UInt8} (h : b < 0x80) :
    P.isalnum (P.charValue b) = isAsciiAlnum b.toNat := by
  have hlt : b.toNat < 0x80 := UInt8.lt_iff_toNat_lt.mp h
  have hnot : ¬ (P.charSigned ∧ 0x80 ≤ b) := fun hle => absurd hle.2 (UInt8.not_le.mpr h)
  rw [CharClass.charValue, if_neg hnot, P.isalnum_ascii _ (by omega) (by omega)]

/-- A kept byte of ASCII is unreserved. -/
lemma isUnreserved_of_isKept {P : CharClass} {b : UInt8} (h : isKept P b = true) (hlt : b < 0x80) :
    IsUnreserved b := by
  rw [isKept, isalnum_charValue P hlt, Bool.or_eq_true, List.contains_iff_mem] at h
  exact h.imp id mem_unreservedMarks

/-- The percent sign is not kept. -/
lemma ne_percent_of_isKept {P : CharClass} {b : UInt8} (h : isKept P b = true) : b ≠ percent := by
  rintro rfl
  exact not_isUnreserved_percent (isUnreserved_of_isKept h (by decide))

/-- A byte below 16 is not kept. -/
lemma le_of_isKept {P : CharClass} {b : UInt8} (h : isKept P b = true) : 0x10 ≤ b := by
  by_cases hlt : b < 0x80
  · exact (isUnreserved_of_isKept h hlt).bounds.1
  · exact UInt8.le_trans (by decide) (UInt8.not_lt.mp hlt)

/-- A kept byte outside of ASCII is a letter or digit to the platform. -/
lemma isalnum_of_isKept {P : CharClass} {b : UInt8} (h : isKept P b = true) (hle : 0x80 ≤ b) :
    P.isalnum (P.charValue b) = true := by
  rw [isKept, Bool.or_eq_true, List.contains_iff_mem] at h
  refine h.resolve_right fun hmark => ?_
  exact absurd (unreservedMarks_bounds (mem_unreservedMarks hmark)).2 (UInt8.not_lt.mpr hle)

/-- One digit is written for a byte below 16. -/
lemma upperHex_of_lt {n : ℕ} (h : n < 16) : upperHex n = [hexDigit n] := by
  rw [upperHex, Nat.toDigits_of_lt_base h]
  rfl

/-- Two digits are written for any other byte. -/
lemma upperHex_of_le {n : ℕ} (h : 16 ≤ n) (hlt : n < 256) :
    upperHex n = [hexDigit (n / 16), hexDigit (n % 16)] := by
  have hdiv : n / 16 < 16 := by omega
  rw [upperHex, Nat.toDigits_of_base_le (by decide) h, Nat.toDigits_of_lt_base hdiv]
  rfl
/-- The byte is the last one of the `int` that a `char` becomes. -/
lemma and_toNat (b : UInt8) : (0xff &&& b).toNat = b.toNat := by
  rw [UInt8.toNat_and]
  exact (Nat.and_comm _ _).trans (Nat.and_two_pow_sub_one_of_lt_two_pow (n := 8) b.toNat_lt)

/-- A byte that is not kept and not below 16 is written as an escape. -/
lemma encodeByte_escape {P : CharClass} {b : UInt8} (hkept : isKept P b = false) (hle : 0x10 ≤ b) :
    encodeByte P b = [percent, hexDigit (b.toNat / 16), hexDigit (b.toNat % 16)] := by
  have hnat : 16 ≤ b.toNat := UInt8.le_iff_toNat_le.mp hle
  rw [encodeByte, hkept, and_toNat, upperHex_of_le hnat b.toNat_lt]
  rfl

/-- A digit is missing behind the percent sign of each byte below 16. -/
lemma length_encodeByte (P : CharClass) (b : UInt8) :
    (encodeByte P b).length + (if b < 0x10 then 1 else 0) =
      1 + 2 * (encodeByte P b).count percent := by
  have hdigit {n : ℕ} (hn : n < 16) : hexDigit n ≠ percent :=
    ne_percent_of_hexValue (hexValue_hexDigit hn)
  have hb := b.toNat_lt
  by_cases hlt : b < 0x10
  · have hkept : isKept P b = false :=
      Bool.eq_false_iff.mpr fun hkept => absurd hlt (UInt8.not_lt.mpr (le_of_isKept hkept))
    have hnat : b.toNat < 16 := UInt8.lt_iff_toNat_lt.mp hlt
    rw [if_pos hlt, encodeByte, hkept, and_toNat, upperHex_of_lt hnat]
    simp [hdigit hnat]
  · rw [if_neg hlt]
    by_cases hkept : isKept P b = true
    · rw [encodeByte, if_pos hkept]
      simp [ne_percent_of_isKept hkept]
    · rw [encodeByte_escape (Bool.eq_false_iff.mpr hkept) (UInt8.not_lt.mp hlt)]
      simp [hdigit (show b.toNat / 16 < 16 by omega), hdigit (show b.toNat % 16 < 16 by omega)]

/-! ## All bytes -/

/-- The digits that are missing in an encoding. -/
lemma length_encodeURIComponent (P : CharClass) (s : List UInt8) :
    (encodeURIComponent P s).length + s.countP (· < 0x10) =
      s.length + 2 * (encodeURIComponent P s).count percent := by
  induction s with
  | nil => rfl
  | cons b s ih =>
    have hbyte := length_encodeByte P b
    rw [encodeURIComponent, List.flatMap_cons, ← encodeURIComponent, List.length_append,
      List.count_append, List.countP_cons, List.length_cons]
    simp only [decide_eq_true_eq]
    omega

/-- An encoding that decodes to the string encodes no byte below 16. -/
lemma le_of_percentDecode {P : CharClass} {s : List UInt8}
    (h : percentDecode (encodeURIComponent P s) = some s) {b : UInt8} (hb : b ∈ s) : 0x10 ≤ b := by
  have hdecoded := length_of_percentDecode h
  have hencoded := length_encodeURIComponent P s
  have hnone : s.countP (· < 0x10) = 0 := by omega
  have := List.countP_eq_zero.mp hnone b hb
  exact UInt8.not_lt.mp (by simpa using this)

/-- An encoding by unreserved characters and escapes, of bytes from 16 on, keeps no byte outside of
ASCII. -/
lemma isalnum_of_escaped {P : CharClass} {s : List UInt8} (hle : ∀ b ∈ s, 0x10 ≤ b)
    (h : Escaped IsUnreserved (encodeURIComponent P s)) :
    ∀ b ∈ s, 0x80 ≤ b → P.isalnum (P.charValue b) = false := by
  induction s with
  | nil => simp
  | cons b s ih =>
    rw [List.forall_mem_cons] at hle ⊢
    rw [encodeURIComponent, List.flatMap_cons, ← encodeURIComponent] at h
    by_cases hkept : isKept P b = true
    · rw [encodeByte, if_pos hkept] at h
      obtain ⟨hplain, hrest⟩ := h.plain_of_cons (ne_percent_of_isKept hkept)
      exact ⟨fun hhigh => absurd hplain.bounds.2 (UInt8.not_lt.mpr hhigh), ih hle.2 hrest⟩
    · have hnot := Bool.eq_false_iff.mpr hkept
      rw [encodeByte_escape hnot hle.1] at h
      refine ⟨fun _ => ?_, ih hle.2 (h.of_escape_cons not_isUnreserved_percent)⟩
      rw [isKept, Bool.or_eq_false_iff] at hnot
      exact hnot.1

/-- Bytes from 16 on, none of which is a letter or digit outside of ASCII to the platform, are encoded
by unreserved characters and escapes. -/
lemma escaped_encodeURIComponent {P : CharClass} {s : List UInt8}
    (h : ∀ b ∈ s, 0x10 ≤ b ∧ (0x80 ≤ b → P.isalnum (P.charValue b) = false)) :
    Escaped IsUnreserved (encodeURIComponent P s) := by
  induction s with
  | nil => exact .nil
  | cons b s ih =>
    rw [List.forall_mem_cons] at h
    rw [encodeURIComponent, List.flatMap_cons, ← encodeURIComponent]
    have hdigit {n : ℕ} (hn : n < 16) : (hexValue (hexDigit n)).isSome := by
      rw [hexValue_hexDigit hn]
      rfl
    have hb := b.toNat_lt
    by_cases hkept : isKept P b = true
    · have hlt : b < 0x80 := by
        by_contra hhigh
        rw [UInt8.not_lt] at hhigh
        exact absurd (isalnum_of_isKept hkept hhigh) (by rw [h.1.2 hhigh]; decide)
      rw [encodeByte, if_pos hkept]
      exact .plain (isUnreserved_of_isKept hkept hlt) (ih h.2)
    · rw [encodeByte_escape (Bool.eq_false_iff.mpr hkept) h.1.1]
      exact .escape (hdigit (by omega)) (hdigit (by omega)) (ih h.2)

/-- Bytes from 16 on can be decoded. -/
lemma percentDecode_encodeURIComponent {P : CharClass} {s : List UInt8} (h : ∀ b ∈ s, 0x10 ≤ b) :
    percentDecode (encodeURIComponent P s) = some s := by
  induction s with
  | nil => rfl
  | cons b s ih =>
    rw [List.forall_mem_cons] at h
    rw [encodeURIComponent, List.flatMap_cons, ← encodeURIComponent]
    by_cases hkept : isKept P b = true
    · rw [encodeByte, if_pos hkept, List.singleton_append,
        percentDecode_cons_of_ne (ne_percent_of_isKept hkept), ih h.2, Option.map_some]
    · rw [encodeByte_escape (Bool.eq_false_iff.mpr hkept) h.1, List.cons_append, List.cons_append,
        List.singleton_append, percentDecode_escape_cons, ih h.2, Option.map_some]

/-- The encoding of a string consists of unreserved characters and well-formed escapes, and decodes to
the string, exactly when the string has no byte below 16, whose escape has one digit, and no byte
outside of ASCII that the platform takes for a letter or digit. -/
theorem invertiblyEncoded_iff (P : CharClass) (s : List UInt8) :
    InvertiblyEncoded P s ↔
      ∀ b ∈ s, 0x10 ≤ b ∧ (0x80 ≤ b → P.isalnum (P.charValue b) = false) := by
  constructor
  · rintro ⟨hescaped, hdecode⟩ b hb
    have hle : ∀ b ∈ s, 0x10 ≤ b := fun b hb => le_of_percentDecode hdecode hb
    exact ⟨hle b hb, isalnum_of_escaped hle hescaped b hb⟩
  · intro h
    exact ⟨escaped_encodeURIComponent h,
      percentDecode_encodeURIComponent fun b hb => (h b hb).1⟩

/-- A line feed is encoded by a percent sign and one digit. -/
theorem not_invertiblyEncoded_lineFeed : ¬ InvertiblyEncoded .cLocale [0x0a] := by
  rintro ⟨-, hdecode⟩
  exact absurd hdecode (by decide)

end TimestreamOdbc
