import Mathlib.Data.Nat.Notation
import Mathlib.Data.List.DropRight
import Mathlib.Tactic.Common
import Mathlib.Algebra.Group.Nat.Defs
import Mathlib.Algebra.Group.Int.Defs

/-!
# Text utilities

The functions of `utils.h` and `utility.cpp` that the configuration uses on texts.  A text is the
list of the characters of a `std::string`; none of the functions here looks at anything but ASCII
characters, so that a character stands for a byte as well as for a code point.
-/

namespace TimestreamOdbc

/-- The characters of a `std::string`. -/
abbrev Text := List Char

/-- `\s` of the regular expressions in `Ltrim` and `Rtrim`: the white space of the C locale. -/
def isSpace (c : Char) : Bool :=
  c = ' ' || c = '\t' || c = '\n' || c = '\x0b' || c = '\x0c' || c = '\r'

/-- `Ltrim`. -/
def ltrim (s : Text) : Text := s.dropWhile isSpace

/-- `Rtrim`. -/
def rtrim (s : Text) : Text := s.rdropWhile isSpace

/-- `Trim`. -/
def trim (s : Text) : Text := ltrim (rtrim s)

/-- `ToLower`: `::tolower` of the C locale on every character. -/
def toLower (s : Text) : Text := s.map Char.toLower

/-- `AllDigits`. -/
def allDigits (s : Text) : Bool := s.all Char.isDigit

/-- The number that `conv >> numValue` reads into an `int64_t` from a text of digits: the largest
one when the digits denote more. -/
def readInt64 (s : Text) : ℕ := min (Nat.ofDigitChars 10 s 0) (2 ^ 63 - 1)

/-- The number that an extraction into an `int` reads from a text that does not start with white
space: an optional sign and digits, cut off at the bounds of the type. -/
def readInt32 (s : Text) : Int32 :=
  match s with
  | '-' :: digits => Int32.ofInt (max (-(Nat.ofDigitChars 10 (digits.takeWhile Char.isDigit) 0))
      (-2 ^ 31))
  | '+' :: digits => Int32.ofInt (min (Nat.ofDigitChars 10 (digits.takeWhile Char.isDigit) 0)
      (2 ^ 31 - 1))
  | digits => Int32.ofInt (min (Nat.ofDigitChars 10 (digits.takeWhile Char.isDigit) 0) (2 ^ 31 - 1))

/-- `LexicalCast<int>` of a text. The extraction does not write to its result when there is nothing
but white space, and the result is not initialised before. -/
def lexicalCastInt (uninitialised : Int32) (s : Text) : Int32 :=
  if ltrim s = [] then uninitialised else readInt32 (ltrim s)

/-- `LexicalCast<std::string>` of an `int32_t`. -/
def int32ToText (n : Int32) : Text :=
  if n.toInt < 0 then '-' :: Nat.toDigits 10 n.toInt.natAbs else Nat.toDigits 10 n.toInt.natAbs

/-! ## Trimming -/

/-- A text that neither starts nor ends with white space is not trimmed. -/
lemma trim_eq_self_iff {s : Text} :
    trim s = s ↔ (∀ c ∈ s.head?, ¬ isSpace c) ∧ ∀ c ∈ s.getLast?, ¬ isSpace c := by
  unfold trim ltrim rtrim
  cases s with
  | nil => simp
  | cons c s =>
    have hne : c :: s ≠ [] := List.cons_ne_nil c s
    have hlast : (c :: s).getLast? = some ((c :: s).getLast hne) := List.getLast?_eq_some_getLast hne
    constructor
    · intro h
      -- trimming only shortens, so neither of the two sides removed anything
      have hlen := congrArg List.length h
      have hr : (c :: s).rdropWhile isSpace = c :: s := by
        apply List.IsPrefix.eq_of_length_le (List.rdropWhile_prefix _ (c :: s))
        rw [← hlen]
        exact (List.dropWhile_suffix _).length_le
      rw [hr] at h
      refine ⟨fun d hd => ?_, fun d hd => ?_⟩
      · obtain rfl : c = d := by simpa using hd
        intro hspace
        rw [List.dropWhile_cons_of_pos hspace] at h
        have := (List.dropWhile_suffix (l := s) isSpace).length_le
        rw [h, List.length_cons] at this
        omega
      · obtain rfl : (c :: s).getLast hne = d := by simpa [hlast] using hd
        exact List.rdropWhile_eq_self_iff.mp hr hne
    · rintro ⟨hhead, hend⟩
      rw [List.rdropWhile_eq_self_iff.mpr fun hl => hend _ (by rw [hlast]; rfl)]
      exact List.dropWhile_cons_of_neg (hhead c rfl)

/-- Trimming does not add characters. -/
lemma mem_of_mem_trim {s : Text} {c : Char} (h : c ∈ trim s) : c ∈ s :=
  List.rdropWhile_prefix _ s |>.subset (List.dropWhile_suffix _ |>.subset h)

/-- Trimming does not lengthen a text. -/
lemma length_trim_le (s : Text) : (trim s).length ≤ s.length :=
  (List.dropWhile_suffix _).length_le.trans (List.rdropWhile_prefix _ s).length_le

/-! ## Numbers -/

/-- The text of a number that is not negative is made of its digits. -/
lemma int32ToText_of_nonneg {n : Int32} (h : 0 ≤ n.toInt) :
    int32ToText n = Nat.toDigits 10 n.toInt.toNat := by
  rw [int32ToText, if_neg (by omega)]
  congr 1
  omega

/-- The text of a number is not empty. -/
lemma int32ToText_ne_nil (n : Int32) : int32ToText n ≠ [] := by
  unfold int32ToText
  split
  · exact List.cons_ne_nil _ _
  · exact Nat.toDigits_ne_nil

/-- Digits are read as the number they denote, as long as it is not too large. -/
lemma readInt64_toDigits {n : ℕ} (h : n < 2 ^ 63) : readInt64 (Nat.toDigits 10 n) = n := by
  rw [readInt64, Nat.ofDigitChars_ten_toDigits]
  omega

/-- The digits of a number are digits. -/
lemma allDigits_toDigits (n : ℕ) : allDigits (Nat.toDigits 10 n) = true :=
  List.all_eq_true.mpr fun _ hc => Nat.isDigit_of_mem_toDigits (by decide) (by decide) hc

end TimestreamOdbc
