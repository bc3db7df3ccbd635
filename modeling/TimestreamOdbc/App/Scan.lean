import TimestreamOdbc.Lib.Decimal
import TimestreamOdbc.Utils
import Mathlib.Data.Int.Notation

/-!
# Reading numbers from texts

`sscanf` with the directives of the driver's formats, and `StringToInt` and `StringToLong`.  They
read a number in the same way: white space, a sign and digits.
-/

namespace TimestreamOdbc

/-- The sign at the beginning of a text, if there is one. -/
def scanSign (s : Text) : Text := (s.take 1).takeWhile fun c => c = '-' || c = '+'

/-- The number at the beginning of a text: white space, which does not count for the width, a sign
and digits. Without digits there is none. What follows the number is left. -/
def scanNumber (width : Option ℕ) (s : Text) : Option (ℤ × Text) :=
  let field := width.elim (ltrim s) fun w => (ltrim s).take w
  let sign := scanSign field
  let digits := (field.drop sign.length).takeWhile Char.isDigit
  if digits = [] then none
  else
    let magnitude := Nat.ofDigitChars 10 digits 0
    some (if sign = ['-'] then -magnitude else magnitude,
      (ltrim s).drop (sign.length + digits.length))

/-- The `int` that `%d` stores for a number. One that does not fit is what the GNU library makes of
it: cut off at the bounds of 64 bits and narrowed. -/
def scannedInt (n : ℤ) : ℤ := (max (-2 ^ 63) (min (2 ^ 63 - 1) n)).bmod (2 ^ 32)

/-- A number that fits is stored as it is. -/
lemma scannedInt_eq_self_iff {n : ℤ} : scannedInt n = n ↔ -2 ^ 31 ≤ n ∧ n < 2 ^ 31 := by
  unfold scannedInt
  rw [Int.bmod_def]
  split <;> omega

/-- What is stored fits. -/
lemma scannedInt_bounds (n : ℤ) : -2 ^ 31 ≤ scannedInt n ∧ scannedInt n < 2 ^ 31 := by
  unfold scannedInt
  rw [Int.bmod_def]
  split <;> omega

/-- A directive of a format: `%d` with an optional width, white space, or a character. -/
inductive ScanDirective where
  | int (width : Option ℕ)
  | space
  | char (c : Char)
  deriving DecidableEq, Repr

/-- `sscanf`: the numbers that were assigned, up to the first directive that does not match. -/
def sscanf : List ScanDirective → Text → List ℤ
  | [], _ => []
  | .int width :: format, s =>
    match scanNumber width s with
    | none => []
    | some (n, rest) => scannedInt n :: sscanf format rest
  | .space :: format, s => sscanf format (ltrim s)
  | .char c :: format, s =>
    match s with
    | [] => []
    | d :: rest => if d = c then sscanf format rest else []

/-- `StringToInt`: what `std::stoi` throws is caught. -/
def stringToInt (s : Text) : ℤ :=
  match scanNumber none s with
  | none => 0
  | some (n, _) => if -2 ^ 31 ≤ n ∧ n < 2 ^ 31 then n else 0

/-- `StringToLong`, where a `long` has `longSize` bytes: what `std::stol` throws is caught. -/
def stringToLong (longSize : ℕ) (s : Text) : ℤ :=
  match scanNumber none s with
  | none => 0
  | some (n, _) => if -2 ^ (8 * longSize - 1) ≤ n ∧ n < 2 ^ (8 * longSize - 1) then n else 0

example : sscanf [.int (some 2), .char ':', .int (some 2)] "07:x5".toList = [7] := by decide

/-! ## Digits -/

/-- A digit is neither white space nor a sign. -/
lemma not_isSpace_of_isDigit {c : Char} (h : c.isDigit = true) : isSpace c = false := by
  by_contra hspace
  simp only [isSpace, Bool.not_eq_false, Bool.or_eq_true, decide_eq_true_eq] at hspace
  rcases hspace with ((((rfl | rfl) | rfl) | rfl) | rfl) | rfl <;> revert h <;> decide

lemma ne_sign_of_isDigit {c : Char} (h : c.isDigit = true) : c ≠ '-' ∧ c ≠ '+' := by
  constructor <;> rintro rfl <;> revert h <;> decide

/-- Nothing is trimmed before a character that is no white space. -/
lemma ltrim_cons {c : Char} {s : Text} (h : isSpace c = false) : ltrim (c :: s) = c :: s := by
  have hc : ¬ isSpace c = true := by simp [h]
  exact List.dropWhile_cons_of_neg hc

/-- Where a number ends: at the end of the width, or before a character that is no digit. -/
def EndsBefore (width : Option ℕ) (length : ℕ) (rest : Text) : Prop :=
  width = some length ∨ (∀ w ∈ width, length ≤ w) ∧ ∀ c ∈ rest.head?, c.isDigit = false

/-- The field of a number that ends is cut behind it. -/
lemma takeWhile_field {digits rest : Text} {width : Option ℕ} {k : ℕ}
    (hdigits : ∀ c ∈ digits, c.isDigit = true) (hends : EndsBefore width (k + digits.length) rest) :
    (width.elim (digits ++ rest) fun w => (digits ++ rest).take (w - k)).takeWhile Char.isDigit =
      digits := by
  rcases hends with rfl | ⟨hwidth, hrest⟩
  · rw [Option.elim_some, Nat.add_sub_cancel_left, List.take_left]
    exact List.takeWhile_eq_self_iff.mpr hdigits
  · rcases width with _ | w
    · exact Decimal.takeWhile_isDigit_append hdigits hrest
    · have hlen : digits.length ≤ w - k := by
        have := hwidth w rfl
        omega
      rw [Option.elim_some, List.take_append, List.take_of_length_le hlen]
      apply Decimal.takeWhile_isDigit_append hdigits
      intro c hc
      apply hrest c
      cases rest with
      | nil => simp at hc
      | cons d rest =>
        rcases hn : w - k - digits.length with _ | n
        · rw [hn] at hc
          cases hc
        · rw [hn] at hc
          exact hc

/-- Digits are read as the number they denote. -/
lemma scanNumber_digits {digits rest : Text} {width : Option ℕ} (hne : digits ≠ [])
    (hdigits : ∀ c ∈ digits, c.isDigit = true) (hends : EndsBefore width digits.length rest) :
    scanNumber width (digits ++ rest) = some ((Nat.ofDigitChars 10 digits 0 : ℤ), rest) := by
  obtain ⟨c, digits', rfl⟩ := List.exists_cons_of_ne_nil hne
  have hc := hdigits c List.mem_cons_self
  have htrim : ltrim (c :: digits' ++ rest) = c :: digits' ++ rest :=
    ltrim_cons (not_isSpace_of_isDigit hc)
  have hfield := takeWhile_field (k := 0) hdigits (by simpa using hends)
  simp only [Nat.sub_zero] at hfield
  unfold scanNumber
  rw [htrim]
  dsimp only
  generalize hf : (width.elim (c :: digits' ++ rest) fun w => (c :: digits' ++ rest).take w) = field
    at hfield ⊢
  have hsign : scanSign field = [] := by
    obtain ⟨hminus, hplus⟩ := ne_sign_of_isDigit hc
    cases field with
    | nil => rfl
    | cons d field =>
      have hd : d = c := by
        have hdigit : d.isDigit = true := by
          by_contra hnot
          rw [List.takeWhile_cons_of_neg hnot] at hfield
          cases hfield
        rw [List.takeWhile_cons_of_pos hdigit] at hfield
        exact (List.cons.inj hfield).1
      subst hd
      simp [scanSign, hminus, hplus]
  rw [hsign, List.length_nil, List.drop_zero, hfield, if_neg (List.cons_ne_nil _ _), if_neg (by simp),
    Nat.zero_add, List.drop_left]

/-- Digits after a minus sign are read as the negative of the number they denote. -/
lemma scanNumber_minus {digits rest : Text} {width : Option ℕ} (hne : digits ≠ [])
    (hdigits : ∀ c ∈ digits, c.isDigit = true) (hends : EndsBefore width (1 + digits.length) rest) :
    scanNumber width ('-' :: (digits ++ rest)) =
      some (-(Nat.ofDigitChars 10 digits 0 : ℤ), rest) := by
  have htrim : ltrim ('-' :: (digits ++ rest)) = '-' :: (digits ++ rest) := ltrim_cons (by decide)
  have hfield := takeWhile_field (k := 1) hdigits hends
  have hcut : (width.elim ('-' :: (digits ++ rest)) fun w => ('-' :: (digits ++ rest)).take w) =
      '-' :: width.elim (digits ++ rest) fun w => (digits ++ rest).take (w - 1) := by
    rcases width with _ | w
    · rfl
    · have hw : 1 ≤ w := by
        rcases hends with h | ⟨h, -⟩
        · have := Option.some.inj h
          omega
        · have := h w rfl
          omega
      obtain ⟨n, rfl⟩ : ∃ n, w = n + 1 := ⟨w - 1, by omega⟩
      rfl
  unfold scanNumber
  rw [htrim]
  dsimp only
  rw [hcut]
  have hsign : ∀ t, scanSign ('-' :: t) = ['-'] := fun t => by simp [scanSign]
  rw [hsign, List.length_singleton, List.drop_succ_cons, List.drop_zero, hfield, if_neg hne,
    if_pos rfl, Nat.add_comm, List.drop_succ_cons, List.drop_left]

/-- White space in front of a number does not count. -/
lemma scanNumber_ltrim (width : Option ℕ) (s : Text) :
    scanNumber width (ltrim s) = scanNumber width s := by
  have htrim : ltrim (ltrim s) = ltrim s := List.dropWhile_idempotent _ s
  unfold scanNumber
  rw [htrim]

@[inherit_doc scanNumber_ltrim]
lemma scanNumber_blanks (width : Option ℕ) (n : ℕ) (s : Text) :
    scanNumber width (List.replicate n ' ' ++ s) = scanNumber width s := by
  have htrim : ltrim (List.replicate n ' ' ++ s) = ltrim s :=
    List.dropWhile_append_of_pos fun c hc => by
      rw [List.eq_of_mem_replicate hc]
      decide
  rw [← scanNumber_ltrim, htrim, scanNumber_ltrim]

/-! ## Fields of a fixed width -/

/-- A field of digits is read as the number they were made of. -/
lemma scanNumber_padded {width n : ℕ} (hwidth : 0 < width) (hn : n < 10 ^ width) (rest : Text) :
    scanNumber (some width) (Decimal.padded width n ++ rest) = some ((n : ℤ), rest) := by
  have hne : Decimal.padded width n ≠ [] := by
    rw [← List.length_pos_iff, Decimal.length_padded]
    exact hwidth
  rw [scanNumber_digits hne (fun c hc => Decimal.isDigit_of_mem_padded hc)
    (.inl (by rw [Decimal.length_padded])), Decimal.ofDigitChars_padded hn]

/-- A field of digits in a format. -/
lemma sscanf_padded {width n : ℕ} (hwidth : 0 < width) (hn : n < 10 ^ width) (hint : n < 2 ^ 31)
    (format : List ScanDirective) (rest : Text) :
    sscanf (.int (some width) :: format) (Decimal.padded width n ++ rest) =
      (n : ℤ) :: sscanf format rest := by
  have hfits : scannedInt n = n := scannedInt_eq_self_iff.mpr ⟨by omega, by omega⟩
  rw [sscanf, scanNumber_padded hwidth hn]
  simp only [hfits]

/-- A character in a format. -/
@[simp] lemma sscanf_char (c : Char) (format : List ScanDirective) (rest : Text) :
    sscanf (.char c :: format) (c :: rest) = sscanf format rest := by
  simp [sscanf]

@[simp] lemma sscanf_nil (s : Text) : sscanf [] s = [] := rfl

/-- White space in a format changes nothing in front of a number. -/
lemma sscanf_space_int (width : Option ℕ) (format : List ScanDirective) (s : Text) :
    sscanf (.space :: .int width :: format) s = sscanf (.int width :: format) s := by
  simp only [sscanf, scanNumber_ltrim]

/-- A number of digits in a format, up to a character that is no digit. -/
lemma sscanf_padded_of_head {width n : ℕ} (hwidth : 0 < width) (hn : n < 10 ^ width)
    (hint : n < 2 ^ 31) (format : List ScanDirective) {rest : Text}
    (hrest : ∀ c ∈ rest.head?, c.isDigit = false) :
    sscanf (.int none :: format) (Decimal.padded width n ++ rest) = (n : ℤ) :: sscanf format rest := by
  have hne : Decimal.padded width n ≠ [] := by
    rw [← List.length_pos_iff, Decimal.length_padded]
    exact hwidth
  have hfits : scannedInt n = n := scannedInt_eq_self_iff.mpr ⟨by omega, by omega⟩
  rw [sscanf, scanNumber_digits hne (fun c hc => Decimal.isDigit_of_mem_padded hc)
    (.inr ⟨by simp, hrest⟩), Decimal.ofDigitChars_padded hn]
  simp only [hfits]

end TimestreamOdbc
