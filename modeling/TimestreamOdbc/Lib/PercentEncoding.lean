import Mathlib.Data.Nat.Notation
import Mathlib.Data.List.Count
import Mathlib.Tactic.Common

/-!
# Percent-encoded bytes

A text of bytes in which an escape, a percent sign followed by two hexadecimal digits, stands for a
byte, and every other byte for itself.  The decoder gives nothing when a percent sign is not followed
by two digits.

Decoding takes two bytes off for each percent sign, which makes the length of what is decoded a
matter of counting.
-/

namespace PercentEncoding

/-- The percent sign. -/
def percent : UInt8 := 0x25

/-- The upper-case hexadecimal digit of a number below 16. -/
def hexDigit (n : ℕ) : UInt8 := UInt8.ofNat (Nat.digitChar n).toUpper.toNat

/-- The value of a hexadecimal digit of either case. -/
def hexValue (b : UInt8) : Option ℕ :=
  if 0x30 ≤ b ∧ b ≤ 0x39 then some (b.toNat - 0x30)
  else if 0x41 ≤ b ∧ b ≤ 0x46 then some (b.toNat - 0x41 + 10)
  else if 0x61 ≤ b ∧ b ≤ 0x66 then some (b.toNat - 0x61 + 10)
  else none

/-- Percent-decoding. -/
def percentDecode : List UInt8 → Option (List UInt8)
  | [] => some []
  | b :: rest =>
    if b = percent then
      match rest with
      | hi :: lo :: rest =>
        (hexValue hi).bind fun high => (hexValue lo).bind fun low =>
          (percentDecode rest).map (UInt8.ofNat (16 * high + low) :: ·)
      | _ => none
    else (percentDecode rest).map (b :: ·)

/-- The texts that consist of plain bytes, of a given kind, and of escapes with exactly two
hexadecimal digits. -/
inductive Escaped (plain : UInt8 → Prop) : List UInt8 → Prop
  | nil : Escaped plain []
  | plain {b : UInt8} {rest : List UInt8} (hb : plain b) (hrest : Escaped plain rest) :
    Escaped plain (b :: rest)
  | escape {hi lo : UInt8} {rest : List UInt8} (hhi : (hexValue hi).isSome)
    (hlo : (hexValue lo).isSome) (hrest : Escaped plain rest) :
    Escaped plain (percent :: hi :: lo :: rest)

/-- A digit has the value it was written for. -/
lemma hexValue_hexDigit {n : ℕ} (h : n < 16) : hexValue (hexDigit n) = some n := by
  decide +revert

/-- The percent sign is not a digit. -/
lemma ne_percent_of_hexValue {b : UInt8} {n : ℕ} (h : hexValue b = some n) : b ≠ percent := by
  rintro rfl
  exact absurd h (by simp [hexValue, percent])

/-- A byte other than the percent sign is decoded to itself. -/
lemma percentDecode_cons_of_ne {b : UInt8} (hb : b ≠ percent) (rest : List UInt8) :
    percentDecode (b :: rest) = (percentDecode rest).map (b :: ·) := by
  rw [percentDecode.eq_def]
  simp only [if_neg hb]

/-- An escape is decoded to the byte whose digits it has. -/
lemma percentDecode_escape_cons (b : UInt8) (rest : List UInt8) :
    percentDecode (percent :: hexDigit (b.toNat / 16) :: hexDigit (b.toNat % 16) :: rest) =
      (percentDecode rest).map (b :: ·) := by
  have hb := b.toNat_lt
  have hvalue : UInt8.ofNat (16 * (b.toNat / 16) + b.toNat % 16) = b := by
    rw [Nat.div_add_mod, UInt8.ofNat_toNat]
  rw [percentDecode, if_pos rfl, hexValue_hexDigit (by omega), hexValue_hexDigit (by omega)]
  simp only [Option.bind_some, hvalue]

/-- Each percent sign of a text that can be decoded takes two of its bytes. -/
lemma length_of_percentDecode {text bytes : List UInt8} (h : percentDecode text = some bytes) :
    bytes.length + 2 * text.count percent = text.length := by
  induction text using percentDecode.induct generalizing bytes with
  | case1 => cases h; rfl
  | case2 hi lo rest ih =>
    rw [percentDecode, if_pos rfl] at h
    simp only [Option.bind_eq_some_iff, Option.map_eq_some_iff] at h
    obtain ⟨high, hhi, low, hlo, decoded, hrest, rfl⟩ := h
    have := ih hrest
    simp only [List.length_cons, List.count_cons_self,
      List.count_cons_of_ne (ne_percent_of_hexValue hhi),
      List.count_cons_of_ne (ne_percent_of_hexValue hlo)]
    omega
  | case3 rest hshort =>
    rcases rest with _ | ⟨hi, _ | ⟨lo, rest⟩⟩
    · cases h
    · cases h
    · exact absurd rfl (hshort hi lo rest)
  | case4 b rest hb ih =>
    rw [percentDecode_cons_of_ne hb, Option.map_eq_some_iff] at h
    obtain ⟨decoded, hrest, rfl⟩ := h
    have := ih hrest
    simp only [List.length_cons, List.count_cons_of_ne hb]
    omega

/-- The text behind a plain byte that is not the percent sign, and behind an escape, is again one of
plain bytes and escapes. -/
lemma Escaped.plain_of_cons {plain : UInt8 → Prop} {b : UInt8} {rest : List UInt8}
    (h : Escaped plain (b :: rest)) (hb : b ≠ percent) : plain b ∧ Escaped plain rest := by
  cases h with
  | plain hplain hrest => exact ⟨hplain, hrest⟩
  | escape => exact absurd rfl hb

/-- The text behind an escape is again one of plain bytes and escapes, when the percent sign is not a
plain byte. -/
lemma Escaped.of_escape_cons {plain : UInt8 → Prop} (hpercent : ¬ plain percent) {hi lo : UInt8}
    {rest : List UInt8} (h : Escaped plain (percent :: hi :: lo :: rest)) : Escaped plain rest := by
  cases h with
  | plain hplain => exact absurd hplain hpercent
  | escape _ _ hrest => exact hrest

end PercentEncoding
