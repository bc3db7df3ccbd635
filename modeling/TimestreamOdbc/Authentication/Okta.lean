import TimestreamOdbc.App.Scan

/-!
# Numeric character references of Okta

`TimestreamOktaCredentialsProvider::DecodeNumericCharacters`: the SAML assertion is cut out of an HTML
page, in which some of its bytes are written as references with two hexadecimal digits.

A string is the list of its bytes.  Reading behind the terminator of a string gives nothing, and a
call that does so has no result.
-/

namespace TimestreamOdbc

/-! ## Hexadecimal numbers -/

/-- The value of a hexadecimal digit. -/
def hexValue (c : Char) : Option ℕ :=
  if '0' ≤ c ∧ c ≤ '9' then some (c.toNat - '0'.toNat)
  else if 'a' ≤ c ∧ c ≤ 'f' then some (c.toNat - 'a'.toNat + 10)
  else if 'A' ≤ c ∧ c ≤ 'F' then some (c.toNat - 'A'.toNat + 10)
  else none

/-- `isxdigit`. -/
def isHexDigit (c : Char) : Bool := (hexValue c).isSome

/-- The number that hexadecimal digits denote. -/
def ofHexDigits (digits : Text) : ℕ := digits.foldl (fun n c => 16 * n + (hexValue c).getD 0) 0

/-- An `0x` in front of a hexadecimal digit is not part of the number. -/
def skipHexPrefix : Text → Text
  | '0' :: x :: c :: s =>
    if (x = 'x' ∨ x = 'X') ∧ isHexDigit c then c :: s else '0' :: x :: c :: s
  | s => s

/-- `StringToInt` with the base 16: what `std::stoi` throws is caught. -/
def hexStringToInt (s : Text) : ℤ :=
  let field := ltrim s
  let sign := scanSign field
  let digits := (skipHexPrefix (field.drop sign.length)).takeWhile isHexDigit
  if digits = [] then 0
  else
    let n : ℤ := if sign = ['-'] then -ofHexDigits digits else ofHexDigits digits
    if -2 ^ 31 ≤ n ∧ n < 2 ^ 31 then n else 0

namespace Okta

/-! ## Decoding -/

/-- A byte as a character. -/
def toChar (b : UInt8) : Char := Char.ofNat b.toNat

/-- `"&#x"` and `';'`. -/
def charRefStart : List UInt8 := ['&', '#', 'x'].map Char.toUInt8
def charRefEnd : UInt8 := ';'.toUInt8

/-- `SINGLE_NUM_CHAR_REF_LENGTH`. -/
def singleNumCharRefLength : ℕ := 6

/-- `operator[]` of a string. The terminator can be read too. -/
def byteAt (s : List UInt8) (i : ℕ) : Option UInt8 := (s ++ [0])[i]?

/-- Whether the loop takes what stands at an index for a reference: the three bytes of the beginning
are there, and five bytes behind the first of them is the end. -/
def isReference (htmlString : List UInt8) (i : ℕ) : Option Bool :=
  if (htmlString.drop i).take 3 = charRefStart then
    (byteAt htmlString (i + 5)).map fun b => decide (b = charRefEnd)
  else some false

/-- The byte of a hexadecimal code. -/
def hexCodeByte (hexCode : List UInt8) : UInt8 := UInt8.ofInt (hexStringToInt (hexCode.map toChar))

/-- The loop from an index on. -/
def decodeLoop (htmlString : List UInt8) (i : ℕ) (result : List UInt8) : Option (List UInt8) :=
  if h : i < htmlString.length then
    match isReference htmlString i with
    | none => none
    | some true =>
      decodeLoop htmlString (i + 6) (result ++ [hexCodeByte ((htmlString.drop (i + 3)).take 2)])
    | some false => decodeLoop htmlString (i + 1) (result ++ [htmlString[i]])
  else some result
termination_by htmlString.length - i

/-- `DecodeNumericCharacters`. -/
def decodeNumericCharacters (htmlString : List UInt8) : Option (List UInt8) :=
  if htmlString.length < singleNumCharRefLength then some htmlString
  else decodeLoop htmlString 0 []

/-! ## What is to be decoded -/

/-- A hexadecimal digit. -/
def isHex (b : UInt8) : Bool := isHexDigit (toChar b)

/-- The reference with two bytes between its beginning and its end. -/
def reference (high low : UInt8) : List UInt8 := charRefStart ++ [high, low, charRefEnd]

/-- The byte that two hexadecimal digits denote. -/
def hexByte (high low : UInt8) : UInt8 :=
  UInt8.ofNat (16 * (hexValue (toChar high)).getD 0 + (hexValue (toChar low)).getD 0)

/-- A string decoded from left to right: a reference with two hexadecimal digits becomes its byte,
and every other byte stays. -/
inductive Decoded : List UInt8 → List UInt8 → Prop
  | nil : Decoded [] []
  | reference {high low : UInt8} {s decoded : List UInt8} (hhigh : isHex high) (hlow : isHex low)
      (h : Decoded s decoded) : Decoded (reference high low ++ s) (hexByte high low :: decoded)
  | literal {b : UInt8} {s decoded : List UInt8}
      (hb : ∀ high low t, isHex high → isHex low → b :: s ≠ Okta.reference high low ++ t)
      (h : Decoded s decoded) : Decoded (b :: s) (b :: decoded)

/-- A string encoded: any of its bytes, and every ampersand, becomes a reference. -/
inductive Encoded : List UInt8 → List UInt8 → Prop
  | nil : Encoded [] []
  | reference {high low : UInt8} {s encoded : List UInt8} (hhigh : isHex high) (hlow : isHex low)
      (h : Encoded s encoded) : Encoded (hexByte high low :: s) (reference high low ++ encoded)
  | literal {b : UInt8} {s encoded : List UInt8} (hb : b ≠ '&'.toUInt8) (h : Encoded s encoded) :
      Encoded (b :: s) (b :: encoded)

/-- A string is decoded without reading behind it, and gives back what it encodes. -/
def DecodesReferences (htmlString : List UInt8) : Prop :=
  (∃ decoded, decodeNumericCharacters htmlString = some decoded ∧ Decoded htmlString decoded) ∧
    ∀ original, Encoded original htmlString →
      decodeNumericCharacters htmlString = some original

/-- Every reference has two hexadecimal digits, and none is cut off in front of its second byte. -/
structure Regular (s : List UInt8) : Prop where
  hex : ∀ high low t, reference high low ++ t <:+ s → isHex high ∧ isHex low
  start : ¬ charRefStart <:+ s
  cut : ∀ b, ¬ charRefStart ++ [b] <:+ s

/-! ## The code between the beginning and the end -/

/-- A hexadecimal digit is neither white space nor a sign. -/
lemma not_isSpace_of_isHexDigit {c : Char} (h : isHexDigit c = true) : isSpace c = false := by
  by_contra hspace
  simp only [isSpace, Bool.not_eq_false, Bool.or_eq_true, decide_eq_true_eq] at hspace
  rcases hspace with ((((rfl | rfl) | rfl) | rfl) | rfl) | rfl <;> revert h <;> decide

lemma ne_sign_of_isHexDigit {c : Char} (h : isHexDigit c = true) : c ≠ '-' ∧ c ≠ '+' := by
  constructor <;> rintro rfl <;> revert h <;> decide

/-- The value of a digit is below 16. -/
lemma hexValue_lt (c : Char) : (hexValue c).getD 0 < 16 := by
  unfold hexValue
  split_ifs with h h h
  · have hle : c.toNat ≤ 57 := h.2
    simp only [Option.getD_some, Char.reduceToNat]
    omega
  · have hle : c.toNat ≤ 102 := h.2
    simp only [Option.getD_some, Char.reduceToNat]
    omega
  · have hle : c.toNat ≤ 70 := h.2
    simp only [Option.getD_some, Char.reduceToNat]
    omega
  · exact Nat.zero_lt_succ _

/-- Two characters have no prefix. -/
lemma skipHexPrefix_of_length_le {s : Text} (h : s.length ≤ 2) : skipHexPrefix s = s := by
  unfold skipHexPrefix
  split
  · simp at h
  · rfl

/-- Two hexadecimal digits are read as what they denote. -/
lemma hexCodeByte_of_isHex {high low : UInt8} (hhigh : isHex high = true) (hlow : isHex low = true) :
    hexCodeByte [high, low] = hexByte high low := by
  have hhigh' : isHexDigit (toChar high) = true := hhigh
  have hlow' : isHexDigit (toChar low) = true := hlow
  have hbound : 16 * (hexValue (toChar high)).getD 0 + (hexValue (toChar low)).getD 0 < 256 := by
    have := hexValue_lt (toChar high)
    have := hexValue_lt (toChar low)
    omega
  have hfield : ltrim [toChar high, toChar low] = [toChar high, toChar low] :=
    ltrim_cons (not_isSpace_of_isHexDigit hhigh)
  have hsign : scanSign [toChar high, toChar low] = [] := by
    obtain ⟨hminus, hplus⟩ := ne_sign_of_isHexDigit hhigh
    simp [scanSign, hminus, hplus]
  have hdigits : [toChar high, toChar low].takeWhile isHexDigit = [toChar high, toChar low] := by
    simp [hhigh', hlow']
  have hnumber : hexStringToInt [toChar high, toChar low] =
      (16 * (hexValue (toChar high)).getD 0 + (hexValue (toChar low)).getD 0 : ℕ) := by
    simp only [hexStringToInt, hfield, hsign, List.length_nil, List.drop_zero,
      skipHexPrefix_of_length_le (show [toChar high, toChar low].length ≤ 2 from le_rfl), hdigits,
      ofHexDigits, List.foldl_cons, List.foldl_nil]
    have hunsigned : ¬ ([] : Text) = ['-'] := by decide
    rw [if_neg (List.cons_ne_nil _ _), if_neg hunsigned, if_pos (by omega), Nat.mul_zero, Nat.zero_add]
  rw [hexCodeByte, List.map_cons, List.map_cons, List.map_nil, hnumber, hexByte, UInt8.ofInt]
  congr 1
  omega

/-- A number of one digit at most is none of the code of the ampersand. -/
lemma ofInt_ne_ampersand {n : ℤ} (hlow : -16 < n) (hhigh : n < 16) :
    UInt8.ofInt n ≠ '&'.toUInt8 := by
  intro h
  have hcode := congrArg UInt8.toNat h
  rw [UInt8.ofInt, UInt8.toNat_ofNat'] at hcode
  have hampersand : '&'.toUInt8.toNat = 38 := by decide
  omega

/-- Any other two bytes are not read as the code of the ampersand: one of them at most is a digit of
the number. -/
lemma hexCodeByte_ne_ampersand {high low : UInt8} (h : ¬ (isHex high = true ∧ isHex low = true)) :
    hexCodeByte [high, low] ≠ '&'.toUInt8 := by
  rw [hexCodeByte, List.map_cons, List.map_cons, List.map_nil]
  unfold hexStringToInt
  dsimp only
  generalize hfield : ltrim [toChar high, toChar low] = field
  generalize (scanSign field) = sign
  have hsuffix : field.drop sign.length <:+ [toChar high, toChar low] := by
    rw [← hfield]
    exact (List.drop_suffix _ _).trans (List.dropWhile_suffix _)
  rw [skipHexPrefix_of_length_le (hsuffix.length_le)]
  generalize hdigits : (field.drop sign.length).takeWhile isHexDigit = digits
  have hsublist : digits.Sublist [toChar high, toChar low] := by
    rw [← hdigits]
    exact (List.takeWhile_sublist _).trans hsuffix.sublist
  have hshort : digits.length < 2 := by
    by_contra hlong
    apply h
    have hboth : digits = [toChar high, toChar low] := hsublist.eq_of_length_le (not_lt.mp hlong)
    have hall : ∀ c ∈ digits, isHexDigit c = true := by
      intro c hc
      rw [← hdigits] at hc
      exact List.mem_takeWhile_imp hc
    rw [hboth] at hall
    exact ⟨hall _ List.mem_cons_self, hall _ (List.mem_cons_of_mem _ List.mem_cons_self)⟩
  have hvalue : ofHexDigits digits < 16 := by
    rcases digits with _ | ⟨c, _ | ⟨d, digits⟩⟩
    · exact Nat.zero_lt_succ _
    · simp only [ofHexDigits, List.foldl_cons, List.foldl_nil]
      have := hexValue_lt c
      omega
    · simp only [List.length_cons] at hshort
      omega
  apply ofInt_ne_ampersand
  all_goals split_ifs <;> omega

/-! ## Steps of the loop -/

section Loop

variable {s t : List UInt8} {i : ℕ}

/-- What stands at an index is taken for what it is in the rest of the string. -/
lemma isReference_drop (hi : i ≤ s.length) : isReference s i = isReference (s.drop i) 0 := by
  have hbyte : byteAt s (i + 5) = byteAt (s.drop i) 5 := by
    rw [byteAt, byteAt, ← List.drop_append_of_le_length hi, List.getElem?_drop]
  rw [isReference, isReference, hbyte, List.drop_zero]

/-- What the loop takes for a reference. -/
lemma isReference_eq_some_true :
    isReference t 0 = some true ↔ ∃ high low rest, t = reference high low ++ rest := by
  constructor
  · intro h
    unfold isReference at h
    split at h
    · next hstart =>
      obtain ⟨u, rfl⟩ : ∃ u, t = charRefStart ++ u :=
        ⟨t.drop 3, by rw [← hstart, List.drop_zero, List.take_append_drop]⟩
      rcases u with _ | ⟨a, _ | ⟨b, _ | ⟨e, rest⟩⟩⟩
      · simp [byteAt, charRefStart] at h
      · simp [byteAt, charRefStart] at h
      · have hend : byteAt (charRefStart ++ [a, b]) (0 + 5) = some 0 := rfl
        rw [hend] at h
        exact absurd h (by decide)
      · simp only [byteAt, charRefStart, List.map_cons, List.map_nil, List.cons_append,
          List.nil_append, Nat.zero_add, List.getElem?_cons_succ, List.getElem?_cons_zero,
          Option.map_some, Option.some.injEq, decide_eq_true_eq] at h
        exact ⟨a, b, rest, by rw [h]; rfl⟩
    · simp at h
  · rintro ⟨high, low, rest, rfl⟩
    rfl

/-- Where the loop reads behind the terminator. -/
lemma isReference_eq_none :
    isReference t 0 = none ↔ t = charRefStart ∨ ∃ b, t = charRefStart ++ [b] := by
  constructor
  · intro h
    unfold isReference at h
    split at h
    · next hstart =>
      obtain ⟨u, rfl⟩ : ∃ u, t = charRefStart ++ u :=
        ⟨t.drop 3, by rw [← hstart, List.drop_zero, List.take_append_drop]⟩
      rcases u with _ | ⟨a, _ | ⟨b, u⟩⟩
      · exact .inl (List.append_nil _)
      · exact .inr ⟨a, rfl⟩
      · rcases u with _ | ⟨e, rest⟩ <;> simp [byteAt, charRefStart] at h
    · simp at h
  · rintro (rfl | ⟨b, rfl⟩) <;> rfl

/-- The rest of a string that is not at its end starts in front of it. -/
lemma lt_length_of_drop {b : UInt8} (h : s.drop i = b :: t) : i < s.length := by
  by_contra hge
  rw [List.drop_of_length_le (not_lt.mp hge)] at h
  cases h

/-- At the end the loop stops. -/
lemma decodeLoop_nil (result : List UInt8) (h : s.drop i = []) : decodeLoop s i result = some result := by
  rw [decodeLoop, dif_neg (not_lt.mpr (List.drop_eq_nil_iff.mp h))]

/-- What is taken for a reference becomes one byte. -/
lemma decodeLoop_reference (result : List UInt8) {high low : UInt8}
    (h : s.drop i = reference high low ++ t) :
    decodeLoop s i result = decodeLoop s (i + 6) (result ++ [hexCodeByte [high, low]]) ∧
      s.drop (i + 6) = t := by
  have hlt : i < s.length := lt_length_of_drop h
  have href : isReference s i = some true := by
    rw [isReference_drop hlt.le, h]
    exact isReference_eq_some_true.mpr ⟨high, low, t, rfl⟩
  have hcode : (s.drop (i + 3)).take 2 = [high, low] := by
    rw [← List.drop_drop, h]
    rfl
  constructor
  · rw [decodeLoop, dif_pos hlt, href, hcode]
  · rw [← List.drop_drop, h]
    rfl

/-- Any other byte is copied. -/
lemma decodeLoop_literal (result : List UInt8) {b : UInt8} (h : s.drop i = b :: t)
    (href : isReference (b :: t) 0 = some false) :
    decodeLoop s i result = decodeLoop s (i + 1) (result ++ [b]) ∧ s.drop (i + 1) = t := by
  have hlt : i < s.length := lt_length_of_drop h
  have href' : isReference s i = some false := by rw [isReference_drop hlt.le, h, href]
  have hbyte : s[i] = b := by
    rw [List.drop_eq_getElem_cons hlt] at h
    exact (List.cons.inj h).1
  constructor
  · rw [decodeLoop, dif_pos hlt, href']
    dsimp only
    rw [hbyte]
  · rw [← List.drop_drop, h]
    rfl

/-- A beginning without its second byte is read over. -/
lemma decodeLoop_cut (result : List UInt8) {b : UInt8} (h : s.drop i = b :: t)
    (href : isReference (b :: t) 0 = none) :
    decodeLoop s i result = none := by
  have hlt : i < s.length := lt_length_of_drop h
  have href' : isReference s i = none := by rw [isReference_drop hlt.le, h, href]
  rw [decodeLoop, dif_pos hlt, href']

/-- What was decoded stays. -/
lemma prefix_of_decodeLoop {result decoded : List UInt8}
    (h : decodeLoop s i result = some decoded) :
    result <+: decoded := by
  fun_induction decodeLoop s i result with
  | case1 i result hlt href => cases h
  | case2 i result hlt href ih => exact (List.prefix_append _ _).trans (ih h)
  | case3 i result hlt href ih => exact (List.prefix_append _ _).trans (ih h)
  | case4 i result hge =>
    obtain rfl := Option.some.inj h
    exact List.prefix_rfl

end Loop

/-! ## Runs of the loop -/

section Runs

variable {s t decoded : List UInt8} {i : ℕ}

/-- The end of a string is regular if the string is. -/
lemma Regular.of_suffix (h : Regular s) (ht : t <:+ s) : Regular t where
  hex high low u hu := h.hex high low u (hu.trans ht)
  start hu := h.start (hu.trans ht)
  cut b hu := h.cut b (hu.trans ht)

/-- A byte in front of a regular string is the beginning of a reference with two digits, or of none. -/
lemma Regular.cons {b : UInt8} (h : Regular t) (href : isReference (b :: t) 0 ≠ none)
    (hhex : ∀ high low rest, b :: t = reference high low ++ rest → isHex high ∧ isHex low) :
    Regular (b :: t) where
  hex high low rest hrest := by
    rcases List.suffix_cons_iff.mp hrest with heq | hrest
    · exact hhex high low rest heq.symm
    · exact h.hex high low rest hrest
  start hstart := by
    rcases List.suffix_cons_iff.mp hstart with heq | hstart
    · exact href (isReference_eq_none.mpr (.inl heq.symm))
    · exact h.start hstart
  cut c hcut := by
    rcases List.suffix_cons_iff.mp hcut with heq | hcut
    · exact href (isReference_eq_none.mpr (.inr ⟨c, heq.symm⟩))
    · exact h.cut c hcut

/-- A byte that is not an ampersand is copied. -/
lemma isReference_of_ne {b : UInt8} (hb : b ≠ '&'.toUInt8) :
    isReference (b :: t) 0 = some false := by
  have hstart : ¬ (b :: t).take 3 = charRefStart := by
    intro h
    exact hb (List.cons.inj h).1
  rw [isReference, List.drop_zero, if_neg hstart]

/-- A regular string is in front of a regular one when none of its bytes is an ampersand. -/
lemma Regular.append {u : List UInt8} (h : Regular t) (hu : ∀ b ∈ u, b ≠ '&'.toUInt8) :
    Regular (u ++ t) := by
  induction u with
  | nil => exact h
  | cons b u ih =>
    have href : isReference (b :: (u ++ t)) 0 = some false :=
      isReference_of_ne (hu b List.mem_cons_self)
    refine (ih fun c hc => hu c (List.mem_cons_of_mem _ hc)).cons ?_ ?_
    · rw [href]
      exact Option.some_ne_none _
    · intro high low rest heq
      have htrue := isReference_eq_some_true.mpr ⟨high, low, rest, heq⟩
      rw [href] at htrue
      cases htrue

/-- A hexadecimal digit is no ampersand. -/
lemma ne_ampersand_of_isHex {b : UInt8} (h : isHex b = true) : b ≠ '&'.toUInt8 := by
  rintro rfl
  revert h
  decide

/-- A reference with two digits is regular in front of a regular string. -/
lemma Regular.reference_append {high low : UInt8} (h : Regular t) (hhigh : isHex high = true)
    (hlow : isHex low = true) : Regular (reference high low ++ t) := by
  have htail : Regular (['#'.toUInt8, 'x'.toUInt8, high, low, charRefEnd] ++ t) := by
    apply h.append
    intro b hb
    simp only [List.mem_cons, List.not_mem_nil, or_false] at hb
    rcases hb with rfl | rfl | rfl | rfl | rfl
    · decide
    · decide
    · exact ne_ampersand_of_isHex hhigh
    · exact ne_ampersand_of_isHex hlow
    · decide
  refine htail.cons ?_ ?_
  · have htrue := isReference_eq_some_true.mpr ⟨high, low, t, rfl⟩
    exact fun hnone => Option.some_ne_none _ (htrue.symm.trans hnone)
  · intro high' low' rest heq
    simp only [reference, charRefStart, List.map_cons, List.map_nil, List.cons_append,
      List.nil_append, List.cons.injEq] at heq
    obtain ⟨-, -, -, rfl, rfl, -⟩ := heq
    exact ⟨hhigh, hlow⟩

/-- A regular string is decoded. -/
lemma exists_decodeLoop (n : ℕ) (hn : s.length - i ≤ n) (h : Regular (s.drop i)) (result : List UInt8) :
    ∃ decoded, decodeLoop s i result = some (result ++ decoded) ∧ Decoded (s.drop i) decoded := by
  induction n generalizing i result with
  | zero =>
    have hnil : s.drop i = [] := List.drop_eq_nil_iff.mpr (by omega)
    exact ⟨[], by rw [decodeLoop_nil result hnil, List.append_nil], hnil ▸ .nil⟩
  | succ n ih =>
    rcases hdrop : s.drop i with _ | ⟨b, t⟩
    · exact ⟨[], by rw [decodeLoop_nil result hdrop, List.append_nil], .nil⟩
    · have hlt := lt_length_of_drop hdrop
      rcases href : isReference (b :: t) 0 with _ | _ | _
      · exfalso
        rcases isReference_eq_none.mp href with heq | ⟨c, heq⟩
        · exact h.start (heq ▸ hdrop ▸ List.suffix_rfl)
        · exact h.cut c (heq ▸ hdrop ▸ List.suffix_rfl)
      · obtain ⟨hstep, hrest⟩ := decodeLoop_literal result hdrop href
        have hregular : Regular (s.drop (i + 1)) := by
          rw [hrest]
          exact (hdrop ▸ h).of_suffix (List.suffix_cons b t)
        obtain ⟨decoded, hloop, hdecoded⟩ := ih (by omega) hregular (result ++ [b])
        rw [hrest] at hdecoded
        refine ⟨b :: decoded, by rw [hstep, hloop, List.append_assoc, List.singleton_append],
          .literal ?_ hdecoded⟩
        intro high low u _ _ heq
        have htrue := isReference_eq_some_true.mpr ⟨high, low, u, heq⟩
        rw [href] at htrue
        cases htrue
      · obtain ⟨high, low, u, heq⟩ := isReference_eq_some_true.mp href
        rw [heq] at hdrop
        obtain ⟨hstep, hrest⟩ := decodeLoop_reference result hdrop
        obtain ⟨hhigh, hlow⟩ := h.hex high low u (hdrop ▸ List.suffix_rfl)
        have hregular : Regular (s.drop (i + 6)) := by
          rw [hrest]
          exact (hdrop ▸ h).of_suffix (List.suffix_append _ u)
        obtain ⟨decoded, hloop, hdecoded⟩ :=
          ih (by omega) hregular (result ++ [hexCodeByte [high, low]])
        rw [hrest] at hdecoded
        rw [heq]
        refine ⟨hexByte high low :: decoded, ?_, .reference hhigh hlow hdecoded⟩
        rw [hstep, hloop, hexCodeByte_of_isHex hhigh hlow, List.append_assoc, List.singleton_append]

/-- What is decoded is regular. -/
lemma regular_of_decodeLoop (result : List UInt8) (hdecoded : Decoded t decoded) (hdrop : s.drop i = t)
    (hloop : decodeLoop s i result = some (result ++ decoded)) : Regular t := by
  induction hdecoded generalizing i result with
  | nil =>
    exact ⟨fun _ _ _ h => by simp [reference, charRefStart] at h,
      fun h => by simp [charRefStart] at h, fun _ h => by simp [charRefStart] at h⟩
  | @reference high low t decoded hhigh hlow hdecoded ih =>
    obtain ⟨hstep, hrest⟩ := decodeLoop_reference result hdrop
    rw [hstep, hexCodeByte_of_isHex hhigh hlow, List.append_cons result _ decoded] at hloop
    exact (ih _ hrest hloop).reference_append hhigh hlow
  | @literal b t decoded hb hdecoded ih =>
    rcases href : isReference (b :: t) 0 with _ | _ | _
    · rw [decodeLoop_cut result hdrop href] at hloop
      cases hloop
    · obtain ⟨hstep, hrest⟩ := decodeLoop_literal result hdrop href
      rw [hstep, List.append_cons result b decoded] at hloop
      refine (ih _ hrest hloop).cons ?_ ?_
      · rw [href]
        exact Option.some_ne_none _
      · intro high low u heq
        have htrue := isReference_eq_some_true.mpr ⟨high, low, u, heq⟩
        rw [href] at htrue
        cases htrue
    · exfalso
      obtain ⟨high, low, u, heq⟩ := isReference_eq_some_true.mp href
      have hnot : ¬ (isHex high = true ∧ isHex low = true) := fun hhex =>
        hb high low u hhex.1 hhex.2 heq
      obtain rfl : b = '&'.toUInt8 := (List.cons.inj heq).1
      rw [heq] at hdrop
      rw [(decodeLoop_reference result hdrop).1] at hloop
      have hprefix := (List.prefix_append_right_inj result).mp (prefix_of_decodeLoop hloop)
      exact hexCodeByte_ne_ampersand hnot (List.cons_prefix_cons.mp hprefix).1

/-- An encoded string is decoded to the original. -/
lemma decodeLoop_of_encoded (result : List UInt8) {original : List UInt8} (h : Encoded original t)
    (hdrop : s.drop i = t) : decodeLoop s i result = some (result ++ original) := by
  induction h generalizing i result with
  | nil => rw [decodeLoop_nil result hdrop, List.append_nil]
  | @reference high low original t hhigh hlow h ih =>
    obtain ⟨hstep, hrest⟩ := decodeLoop_reference result hdrop
    rw [hstep, ih _ hrest, hexCodeByte_of_isHex hhigh hlow, List.append_assoc, List.singleton_append]
  | @literal b original t hb h ih =>
    obtain ⟨hstep, hrest⟩ := decodeLoop_literal result hdrop (isReference_of_ne hb)
    rw [hstep, ih _ hrest, List.append_assoc, List.singleton_append]

end Runs

/-! ## The whole string -/

/-- A string that is shorter than a reference has none. -/
lemma ne_reference_of_length_lt {s : List UInt8} (h : s.length < singleNumCharRefLength)
    (high low : UInt8) (t : List UInt8) : s ≠ reference high low ++ t := by
  rintro rfl
  simp only [reference, charRefStart, List.length_append, List.length_map, List.length_cons,
    List.length_nil, singleNumCharRefLength] at h
  omega

/-- So it is decoded as it is. -/
lemma decoded_of_length_lt {s : List UInt8} (h : s.length < singleNumCharRefLength) : Decoded s s := by
  induction s with
  | nil => exact .nil
  | cons b s ih =>
    refine .literal (fun high low t _ _ => ne_reference_of_length_lt h high low t) (ih ?_)
    rw [List.length_cons] at h
    omega

/-- And it encodes itself only. -/
lemma eq_of_encoded_of_length_lt {original s : List UInt8} (hencoded : Encoded original s)
    (h : s.length < singleNumCharRefLength) : original = s := by
  induction hencoded with
  | nil => rfl
  | @reference high low original t hhigh hlow hencoded ih =>
    exact absurd rfl (ne_reference_of_length_lt h high low t)
  | @literal b original t hb hencoded ih =>
    rw [List.length_cons] at h
    rw [ih (by omega)]

/-- A string is decoded as it should be exactly when it is shorter than a reference, or every
reference in it has two hexadecimal digits and its end does not cut one off in front of the second
byte. What a string encodes always comes back. -/
theorem decodesReferences_iff (htmlString : List UInt8) :
    DecodesReferences htmlString ↔
      htmlString.length < singleNumCharRefLength ∨ Regular htmlString := by
  have hback : ∀ original, Encoded original htmlString →
      decodeNumericCharacters htmlString = some original := by
    intro original hencoded
    unfold decodeNumericCharacters
    split
    · next hshort => rw [eq_of_encoded_of_length_lt hencoded hshort]
    · rw [decodeLoop_of_encoded [] hencoded List.drop_zero, List.nil_append]
  rw [DecodesReferences, and_iff_left hback]
  unfold decodeNumericCharacters
  split
  · next hshort =>
    exact iff_of_true ⟨htmlString, rfl, decoded_of_length_lt hshort⟩ (.inl hshort)
  · next hlong =>
    rw [or_iff_right hlong]
    constructor
    · rintro ⟨decoded, hloop, hdecoded⟩
      exact regular_of_decodeLoop [] hdecoded List.drop_zero hloop
    · intro h
      have hdrop : Regular (htmlString.drop 0) := by rwa [List.drop_zero]
      obtain ⟨decoded, hloop, hdecoded⟩ := exists_decodeLoop _ le_rfl hdrop []
      rw [List.drop_zero] at hdecoded
      exact ⟨decoded, hloop, hdecoded⟩

/-- What does not start with a reference keeps its first byte. -/
lemma Decoded.head? {s decoded : List UInt8} (h : Decoded s decoded)
    (hs : ∀ high low t, isHex high → isHex low → s ≠ Okta.reference high low ++ t) :
    decoded.head? = s.head? := by
  cases h with
  | nil => rfl
  | reference hhigh hlow h => exact absurd rfl (hs _ _ _ hhigh hlow)
  | literal hb h => rfl

/-- Two characters that are no hexadecimal digits become a null byte. -/
theorem not_decodesReferences_malformed :
    ¬ ∀ htmlString, DecodesReferences htmlString := by
  intro h
  obtain ⟨⟨decoded, hcall, hdecoded⟩, -⟩ := h ("&#xzz;".toList.map Char.toUInt8)
  have hnull : decodeNumericCharacters ("&#xzz;".toList.map Char.toUInt8) = some [0] := by
    have hstep := (@decodeLoop_reference ("&#xzz;".toList.map Char.toUInt8) [] 0 [] 'z'.toUInt8
      'z'.toUInt8 rfl).1
    exact hstep.trans (decodeLoop_nil _ rfl)
  obtain rfl := Option.some.inj (hcall.symm.trans hnull)
  have hhead : ([0] : List UInt8).head? = some '&'.toUInt8 := by
    refine hdecoded.head? ?_
    intro high low t hhigh _ heq
    obtain rfl : 'z'.toUInt8 = high := by
      have hdrop := congrArg (fun s => s.drop 3) heq
      exact (List.cons.inj hdrop).1
    exact absurd hhigh (by decide)
  exact absurd hhead (by decide)

end Okta

end TimestreamOdbc
