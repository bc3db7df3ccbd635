import TimestreamOdbc.App.PutTemporal
import Mathlib

/-!
# Wide strings out of the driver and into it

`CopyStringToBuffer` converts a UTF-8 string to `SQLWCHAR` and copies what fits, `SqlWcharToString`
converts such a string back.  The wide characters of 2 bytes are those of UCS-2, in which a character
outside of the basic plane has no form; UTF-16 would have two code units for it.
-/

namespace TimestreamOdbc

/-! ## The functions -/

namespace Utility

/-- `CopyStringToBuffer` with a length in bytes or in characters, which the count is in too. -/
def copyStringToBuffer (P : Platform) (str : List UInt8) (buf : Bool) (buflen : ℕ)
    (isLenInBytes : Bool) : Copied :=
  let copied := copyUtf8StringToWcharString P str buf
    (if isLenInBytes then buflen else buflen * P.sqlWcharSize) false
  if isLenInBytes then copied else { copied with count := copied.count / P.sqlWcharSize }

/-- The text buffers of the temporal values have their length in bytes. -/
lemma copyStringToBuffer_inBytes (P : Platform) (text : Text) (buflen : ℕ) :
    copyStringToBuffer P (Utf8.encode text) true buflen true =
      TimestreamOdbc.copyStringToBuffer P text buflen := rfl

/-- `SQL_NTS`. -/
def sqlNts : ℤ := -3

/-- `wstring_convert<codecvt_utf8<wchar_t>>::to_bytes`; nothing when it throws. -/
def toBytes (units : List ℕ) : Option (List UInt8) :=
  (units.mapM fun (unit : ℕ) => if h : unit.isValidChar then some (Char.ofNatAux unit h) else none).map
    Utf8.encode

/-- `SqlWcharToString` of the code units from the pointer on, which is null or not; nothing when the
conversion throws. Every code unit becomes a `wchar_t`. -/
def sqlWcharToString (P : Platform) (sqlStr : Option (List ℕ)) (sqlStrLen : ℤ) (isLenInBytes : Bool) :
    Option (List UInt8) :=
  match sqlStr with
  | none => some []
  | some units =>
    let read :=
      if sqlStrLen = sqlNts then units.takeWhile (· ≠ 0)
      else if 0 < sqlStrLen then
        (units.take (if isLenInBytes then sqlStrLen.toNat / P.sqlWcharSize
          else sqlStrLen.toNat)).takeWhile (· ≠ 0)
      else []
    toBytes (read.map (· % 2 ^ (8 * P.wcharSize)))

end Utility

/-! ## What is to be copied -/

/-- The code units of a character for `SQLWCHAR`, in UTF-16 or in UTF-32. -/
def wideUnits (unitSize : ℕ) (c : Char) : List ℕ :=
  if unitFits unitSize c then [c.toNat]
  else [0xD800 + (c.toNat - 0x10000) / 0x400, 0xDC00 + (c.toNat - 0x10000) % 0x400]

/-- The beginning of a text that has at most `room` code units. -/
def fitting (unitSize : ℕ) : ℕ → Text → Text
  | _, [] => []
  | room, c :: cs =>
    if (wideUnits unitSize c).length ≤ room then
      c :: fitting unitSize (room - (wideUnits unitSize c).length) cs
    else []

/-- The longest prefix of a text that has at most `room` code units. -/
structure LongestPrefix (unitSize room : ℕ) (value part : Text) : Prop where
  isPrefix : part <+: value
  fits : (part.flatMap (wideUnits unitSize)).length ≤ room
  longest : ∀ other, other <+: value → (other.flatMap (wideUnits unitSize)).length ≤ room →
    other <+: part

/-- A copy is what the contract says: the longest prefix and a terminator, where there is room for
one, the number of code units, and the flag if something is missing. -/
def WideCopied (unitSize : ℕ) (value : Text) (buflen : ℕ) (copied : Copied) : Prop :=
  ∃ part, LongestPrefix unitSize (buflen - 1) value part ∧
    copied.stored =
      (if buflen = 0 then none else some (part.flatMap (wideUnits unitSize) ++ [0])) ∧
    copied.count = (part.flatMap (wideUnits unitSize)).length ∧
    (copied.isTruncated = true ↔ part ≠ value)

/-- The count of a copy without a buffer is the number of code units of the whole text. -/
def WideRequired (P : Platform) (value : Text) (buflen : ℕ) : Prop :=
  (Utility.copyStringToBuffer P (Utf8.encode value) false buflen false).count =
    (value.flatMap (wideUnits P.sqlWcharSize)).length

/-- What a buffer got that is large enough is read back as the text, up to the terminator and up to
every length, in bytes or in characters, from the count on. -/
def WideReadBack (P : Platform) (value : Text) (buflen : ℕ) : Prop :=
  (value.flatMap (wideUnits P.sqlWcharSize)).length < buflen →
    ∃ copied units, Utility.copyStringToBuffer P (Utf8.encode value) true buflen false = copied ∧
      copied.stored = some units ∧
      ∀ (sqlStrLen : ℤ) (isLenInBytes : Bool),
        sqlStrLen = Utility.sqlNts ∨
          (if isLenInBytes then copied.count * P.sqlWcharSize else copied.count : ℕ) ≤ sqlStrLen →
        Utility.sqlWcharToString P (some units) sqlStrLen isLenInBytes = some (Utf8.encode value)

/-! ## The longest prefix -/

section Fitting

variable {unitSize room : ℕ} {value : Text}

lemma wideUnits_ne_nil (unitSize : ℕ) (c : Char) : wideUnits unitSize c ≠ [] := by
  unfold wideUnits
  split <;> exact List.cons_ne_nil _ _

lemma length_wideUnits_of_fits {c : Char} (h : unitFits unitSize c = true) :
    (wideUnits unitSize c).length = 1 := by
  rw [wideUnits, if_pos h]
  rfl

lemma length_wideUnits_of_not_fits {c : Char} (h : ¬ unitFits unitSize c = true) :
    (wideUnits unitSize c).length = 2 := by
  rw [wideUnits, if_neg h]
  rfl

/-- What is computed is the longest prefix. -/
lemma longestPrefix_fitting (unitSize room : ℕ) (value : Text) :
    LongestPrefix unitSize room value (fitting unitSize room value) := by
  induction value generalizing room with
  | nil => exact ⟨List.prefix_rfl, Nat.zero_le _, fun _ h _ => h⟩
  | cons c cs ih =>
    unfold fitting
    split
    · next hroom =>
      obtain ⟨hinitial, hfits, hlongest⟩ := ih (room - (wideUnits unitSize c).length)
      refine ⟨(List.prefix_cons_inj c).mpr hinitial, ?_, ?_⟩
      · rw [List.flatMap_cons, List.length_append]
        omega
      · intro other hother hlength
        rcases other with _ | ⟨d, other⟩
        · exact List.nil_prefix
        · obtain ⟨rfl, hrest⟩ := List.cons_prefix_cons.mp hother
          rw [List.flatMap_cons, List.length_append] at hlength
          exact (List.prefix_cons_inj d).mpr (hlongest other hrest (by omega))
    · next hroom =>
      refine ⟨List.nil_prefix, Nat.zero_le _, ?_⟩
      intro other hother hlength
      rcases other with _ | ⟨d, other⟩
      · exact List.nil_prefix
      · obtain ⟨rfl, -⟩ := List.cons_prefix_cons.mp hother
        rw [List.flatMap_cons, List.length_append] at hlength
        omega

/-- There is one longest prefix. -/
lemma LongestPrefix.eq_fitting {part : Text} (h : LongestPrefix unitSize room value part) :
    part = fitting unitSize room value := by
  have hfitting := longestPrefix_fitting unitSize room value
  exact (hfitting.longest part h.isPrefix h.fits).eq_of_length_le
    (h.longest _ hfitting.isPrefix hfitting.fits).length_le

/-- Characters that have one code unit each are their codes. -/
lemma flatMap_wideUnits {cs : Text} (h : cs.all (unitFits unitSize) = true) :
    cs.flatMap (wideUnits unitSize) = cs.map Char.toNat := by
  rw [← List.flatMap_pure_eq_map]
  apply List.flatMap_congr
  intro c hc
  exact if_pos (List.all_eq_true.mp h c hc)

/-- A text has at least as many code units as characters. -/
lemma length_le_length_wideUnits (unitSize : ℕ) (cs : Text) :
    cs.length ≤ (cs.flatMap (wideUnits unitSize)).length := by
  induction cs with
  | nil => exact le_rfl
  | cons c cs ih =>
    have hpos := List.length_pos_iff.mpr (wideUnits_ne_nil unitSize c)
    rw [List.flatMap_cons, List.length_append, List.length_cons]
    omega

/-- A text whose characters have a form is the longest prefix of itself if there is room. -/
lemma fitting_eq_self_iff :
    fitting unitSize room value = value ↔ (value.flatMap (wideUnits unitSize)).length ≤ room := by
  have hfitting := longestPrefix_fitting unitSize room value
  constructor
  · intro h
    rw [← h]
    exact h.symm ▸ hfitting.fits
  · intro h
    exact hfitting.isPrefix.eq_of_length_le
      (hfitting.longest value List.prefix_rfl h).length_le

/-- If the longest prefix consists of characters that have a form, it is what the facet converts. -/
lemma fitting_eq_takeWhile (h : (fitting unitSize room value).all (unitFits unitSize) = true) :
    fitting unitSize room value = (value.take room).takeWhile (unitFits unitSize) := by
  induction value generalizing room with
  | nil => simp [fitting]
  | cons c cs ih =>
    unfold fitting at h ⊢
    by_cases hc : unitFits unitSize c = true
    · rw [length_wideUnits_of_fits hc] at h ⊢
      rcases room with _ | room
      · rfl
      · rw [if_pos (Nat.succ_le_succ (Nat.zero_le _)), Nat.add_sub_cancel] at h ⊢
        rw [List.all_cons, hc, Bool.true_and] at h
        rw [List.take_succ_cons, List.takeWhile_cons_of_pos hc, ← ih h]
    · rw [length_wideUnits_of_not_fits hc] at h ⊢
      by_cases hroom : 2 ≤ room
      · rw [if_pos hroom, List.all_cons] at h
        simp [hc] at h
      · rw [if_neg hroom]
        rcases room with _ | room
        · rfl
        · rw [List.take_succ_cons, List.takeWhile_cons_of_neg hc]

end Fitting

/-! ## Copying -/

section Copy

variable {P : Platform} {value : Text} {buflen : ℕ}

/-- What is copied into a buffer with room for a character. -/
lemma copyStringToBuffer_of_two_le (hnul : '\x00' ∉ value) (hbuflen : 2 ≤ buflen) :
    Utility.copyStringToBuffer P (Utf8.encode value) true buflen false =
      ⟨((value.take (buflen - 1)).takeWhile (unitFits P.sqlWcharSize)).length,
        decide (Utf8.textStatus (unitFits P.sqlWcharSize) (buflen - 1) value ≠ .ok),
        some (((value.take (buflen - 1)).takeWhile (unitFits P.sqlWcharSize)).map Char.toNat ++
          [0])⟩ := by
  have hsize := P.sqlWcharSize_pos
  have hzero : ¬ buflen * P.sqlWcharSize = 0 := (Nat.mul_pos (by omega) hsize).ne'
  have hdirect : P.sqlWcharSize < buflen * P.sqlWcharSize := by
    have := Nat.mul_le_mul_right P.sqlWcharSize hbuflen
    omega
  simp only [Utility.copyStringToBuffer, copyUtf8StringToWcharString, Bool.false_eq_true, if_false,
    hzero, and_false, hdirect, decide_true, Bool.true_and, if_true, Nat.mul_div_cancel _ hsize,
    cString_encode hnul, Utf8.convert_encode]

/-- A buffer of one character is left alone. -/
lemma copyStringToBuffer_one (P : Platform) (value : Text) :
    (Utility.copyStringToBuffer P (Utf8.encode value) true 1 false).stored = none := by
  have hsize := P.sqlWcharSize_pos
  simp [Utility.copyStringToBuffer, copyUtf8StringToWcharString, hsize.ne']

/-- An empty buffer is left alone, and nothing counts as cut off. -/
lemma copyStringToBuffer_zero (P : Platform) (value : Text) :
    Utility.copyStringToBuffer P (Utf8.encode value) true 0 false = ⟨0, false, none⟩ := by
  simp [Utility.copyStringToBuffer, copyUtf8StringToWcharString]

/-- Without a buffer, the count is that of the characters that are converted. -/
lemma count_copyStringToBuffer_null (hnul : '\x00' ∉ value) (buflen : ℕ) :
    (Utility.copyStringToBuffer P (Utf8.encode value) false buflen false).count =
      (value.takeWhile (unitFits P.sqlWcharSize)).length := by
  have hroom := Utf8.length_le_length_encode value
  simp only [Utility.copyStringToBuffer, copyUtf8StringToWcharString, Bool.false_eq_true, if_false,
    false_and, Bool.false_and, cString_encode hnul, Utf8.convert_encode,
    List.take_of_length_le hroom, Nat.mul_div_cancel _ P.sqlWcharSize_pos]

/-- A character without a form has a code unit that is the code of no character. -/
lemma exists_surrogate {unitSize : ℕ} {c : Char} (hc : ¬ unitFits unitSize c = true) :
    ∃ unit ∈ wideUnits unitSize c, ∀ d : Char, d.toNat ≠ unit := by
  refine ⟨0xD800 + (c.toNat - 0x10000) / 0x400, ?_, ?_⟩
  · rw [wideUnits, if_neg hc]
    exact List.mem_cons_self
  · intro d hd
    have hc' : c.toNat < 0x110000 := by
      rcases c.valid with h | ⟨-, h⟩
      · exact h.trans (by decide)
      · exact h
    rcases d.valid with h | ⟨h, -⟩
    · have hlow : d.toNat < 0xD800 := h
      omega
    · have hhigh : 0xDFFF < d.toNat := h
      omega

/-- The code units of a text are codes of characters only if its characters have a form. -/
lemma all_unitFits_of_codes {unitSize : ℕ} {part codes : Text}
    (h : part.flatMap (wideUnits unitSize) = codes.map Char.toNat) :
    part.all (unitFits unitSize) = true := by
  apply List.all_eq_true.mpr
  intro c hc
  by_contra hnot
  obtain ⟨unit, hunit, hno⟩ := exists_surrogate hnot
  have hmem : unit ∈ codes.map Char.toNat := h ▸ List.mem_flatMap.mpr ⟨c, hc, hunit⟩
  obtain ⟨d, -, hd⟩ := List.mem_map.mp hmem
  exact hno d hd

/-- The conversion of a text is complete exactly when the longest prefix is the text, provided that
the characters of this prefix have a form. -/
lemma textStatus_ne_ok_iff {unitSize room : ℕ}
    (h : (fitting unitSize room value).all (unitFits unitSize) = true) :
    Utf8.textStatus (unitFits unitSize) room value ≠ .ok ↔ fitting unitSize room value ≠ value := by
  apply not_congr
  constructor
  · intro hok
    have hall : (value.take room).all (unitFits unitSize) = true := by
      by_contra hnot
      rw [Utf8.textStatus, if_neg hnot] at hok
      contradiction
    have hlen : value.length ≤ room := by
      by_contra hnot
      rw [Utf8.textStatus, if_pos hall, if_neg hnot] at hok
      contradiction
    rw [List.take_of_length_le hlen] at hall
    rw [fitting_eq_self_iff, flatMap_wideUnits hall, List.length_map]
    exact hlen
  · intro hself
    have hlen := fitting_eq_self_iff.mp hself
    rw [hself] at h
    rw [flatMap_wideUnits h, List.length_map] at hlen
    rw [Utf8.textStatus, List.take_of_length_le hlen, if_pos h, if_pos hlen]

/-- When a copy is what the contract says: for a buffer of at least two characters if the longest
prefix has only characters with a form, never for a buffer of one, and for an empty buffer if there
is nothing to copy. -/
lemma wideCopied_iff (hnul : '\x00' ∉ value) :
    WideCopied P.sqlWcharSize value buflen
        (Utility.copyStringToBuffer P (Utf8.encode value) true buflen false) ↔
      if buflen = 0 then value = []
      else buflen ≠ 1 ∧
        (fitting P.sqlWcharSize (buflen - 1) value).all (unitFits P.sqlWcharSize) = true := by
  split
  · next hzero =>
    rw [hzero, copyStringToBuffer_zero]
    constructor
    · rintro ⟨part, hpart, -, hcount, htrunc⟩
      by_contra hne
      have hnil : part = [] := by
        have := length_le_length_wideUnits P.sqlWcharSize part
        exact List.length_eq_zero_iff.mp (by dsimp only at hcount; omega)
      have : false = true := htrunc.mpr (by rw [hnil]; exact Ne.symm hne)
      contradiction
    · rintro rfl
      exact ⟨[], longestPrefix_fitting _ _ [], rfl, rfl, by simp⟩
  · next hpos =>
    by_cases hone : buflen = 1
    · rw [hone]
      simp only [ne_eq, not_true_eq_false, false_and, iff_false]
      rintro ⟨part, -, hstored, -⟩
      rw [copyStringToBuffer_one] at hstored
      simp at hstored
    · rw [copyStringToBuffer_of_two_le hnul (by omega)]
      simp only [ne_eq, hone, not_false_eq_true, true_and]
      constructor
      · rintro ⟨part, hpart, hstored, -⟩
        simp only [if_neg hpos, Option.some.injEq] at hstored
        have hcodes := List.append_cancel_right hstored
        rw [← hpart.eq_fitting]
        exact all_unitFits_of_codes hcodes.symm
      · intro hall
        have hfitting := fitting_eq_takeWhile hall
        refine ⟨_, longestPrefix_fitting _ _ value, ?_, ?_, ?_⟩
        · rw [if_neg hpos, flatMap_wideUnits hall, hfitting]
        · rw [flatMap_wideUnits hall, List.length_map, hfitting]
        · rw [decide_eq_true_iff]
          exact textStatus_ne_ok_iff hall

/-- When the count without a buffer is that of the whole text. -/
lemma wideRequired_iff (hnul : '\x00' ∉ value) :
    WideRequired P value buflen ↔ value.all (unitFits P.sqlWcharSize) = true := by
  rw [WideRequired, count_copyStringToBuffer_null hnul]
  constructor
  · intro h
    have hle := length_le_length_wideUnits P.sqlWcharSize value
    have hself := (List.takeWhile_prefix (unitFits P.sqlWcharSize) (l := value)).eq_of_length_le
      (by omega)
    exact List.all_eq_true.mpr fun c hc => List.takeWhile_eq_self_iff.mp hself c hc
  · intro hall
    have hself : value.takeWhile (unitFits P.sqlWcharSize) = value :=
      List.takeWhile_eq_self_iff.mpr fun c hc => List.all_eq_true.mp hall c hc
    rw [hself, flatMap_wideUnits hall, List.length_map]

end Copy

/-! ## Reading back -/

section ReadBack

variable {P : Platform} {value : Text} {buflen : ℕ}

/-- Code units are characters if they are the codes of these. -/
lemma mapM_charOfNat_eq_some_iff (units : List ℕ) (cs : Text) :
    (units.mapM fun (unit : ℕ) =>
      if h : unit.isValidChar then some (Char.ofNatAux unit h) else none) = some cs ↔
      units = cs.map Char.toNat := by
  induction units generalizing cs with
  | nil =>
    rw [List.mapM_nil]
    cases cs <;> simp
  | cons unit units ih =>
    simp only [List.mapM_cons, Option.bind_eq_bind, Option.bind_eq_some_iff, Option.pure_def,
      Option.some.injEq]
    constructor
    · rintro ⟨c, hc, rest, hrest, rfl⟩
      split at hc
      · next hvalid =>
        obtain rfl := Option.some.inj hc
        rw [(ih rest).mp hrest]
        rfl
      · contradiction
    · intro h
      rcases cs with _ | ⟨c, rest⟩
      · simp at h
      · obtain ⟨rfl, hrest⟩ := List.cons.inj h
        refine ⟨c, ?_, rest, (ih rest).mpr hrest, rfl⟩
        have hvalid : c.toNat.isValidChar := c.valid
        rw [dif_pos hvalid]
        rfl

/-- The codes of characters are converted to the bytes of the characters. -/
lemma toBytes_eq_some_iff (units : List ℕ) (bytes : List UInt8) :
    Utility.toBytes units = some bytes ↔
      ∃ cs : Text, units = cs.map Char.toNat ∧ Utf8.encode cs = bytes := by
  simp only [Utility.toBytes, Option.map_eq_some_iff, mapM_charOfNat_eq_some_iff]

/-- A text is given by its bytes. -/
lemma encode_injective : Function.Injective Utf8.encode := by
  intro cs ds h
  have hcs := Utf8.decode_encode (fun _ => true) cs
  have hds := Utf8.decode_encode (fun _ => true) ds
  rw [h, hds] at hcs
  simpa using hcs.symm

/-- A code unit that becomes a `wchar_t` is kept if and only if this has a form for the character. -/
lemma mod_wcharSize_eq_iff (P : Platform) (c : Char) :
    c.toNat % 2 ^ (8 * P.wcharSize) = c.toNat ↔ unitFits P.wcharSize c = true := by
  have hlt : c.toNat < 0x110000 := by
    rcases c.valid with h | ⟨-, h⟩
    · exact h.trans (by decide)
    · exact h
  rcases P.wcharSize_eq with h | h
  · simp only [h, unitFits, ne_eq, not_true_eq_false, decide_false, Bool.false_or,
      decide_eq_true_eq]
    omega
  · simp only [h, unitFits, ne_eq, Nat.reduceEqDiff, not_false_eq_true, decide_true, Bool.true_or,
      iff_true]
    omega

/-- The characters of a string are read up to the terminator, and by every length from theirs on. -/
lemma takeWhile_take_append_zero {codes : List ℕ} (hzero : 0 ∉ codes) {n : ℕ}
    (hn : codes.length ≤ n) : ((codes ++ [0]).take n).takeWhile (· ≠ 0) = codes := by
  have hall : ∀ code ∈ codes, decide (code ≠ 0) = true := by
    intro code hcode
    simp only [decide_eq_true_eq]
    rintro rfl
    exact hzero hcode
  rw [List.take_append, List.take_of_length_le hn, List.takeWhile_append_of_pos hall]
  rcases n - codes.length with _ | k
  · simp
  · simp

/-- Reading a string of characters gives the bytes of the characters, if they fit a `wchar_t`. -/
lemma sqlWcharToString_codes (P : Platform) {cs : Text} (hnul : '\x00' ∉ cs) {sqlStrLen : ℤ}
    {isLenInBytes : Bool}
    (hlen : sqlStrLen = Utility.sqlNts ∨
      (if isLenInBytes then cs.length * P.sqlWcharSize else cs.length : ℕ) ≤ sqlStrLen) :
    Utility.sqlWcharToString P (some (cs.map Char.toNat ++ [0])) sqlStrLen isLenInBytes =
      Utility.toBytes (cs.map fun c => c.toNat % 2 ^ (8 * P.wcharSize)) := by
  have hzero : 0 ∉ cs.map Char.toNat := by
    intro hmem
    obtain ⟨c, hc, hcode⟩ := List.mem_map.mp hmem
    exact hnul (toNat_eq_zero_iff.mp hcode ▸ hc)
  have hlength : (cs.map Char.toNat).length = cs.length := List.length_map _
  have hread : (if sqlStrLen = Utility.sqlNts then (cs.map Char.toNat ++ [0]).takeWhile (· ≠ 0)
      else if 0 < sqlStrLen then
        ((cs.map Char.toNat ++ [0]).take (if isLenInBytes then sqlStrLen.toNat / P.sqlWcharSize
          else sqlStrLen.toNat)).takeWhile (· ≠ 0)
      else []) = cs.map Char.toNat := by
    split
    · have hall := takeWhile_take_append_zero hzero (n := (cs.map Char.toNat ++ [0]).length)
        (by simp)
      rwa [List.take_length] at hall
    · next hnts =>
      have hle := hlen.resolve_left hnts
      split
      · next hpos =>
        apply takeWhile_take_append_zero hzero
        rw [hlength]
        split
        · next hbytes =>
          rw [if_pos hbytes] at hle
          exact (Nat.le_div_iff_mul_le P.sqlWcharSize_pos).mpr (by omega)
        · next hchars =>
          rw [if_neg hchars] at hle
          omega
      · next hnonpos =>
        have hnil : cs.length = 0 := by
          split at hle
          · have : cs.length * P.sqlWcharSize = 0 := by omega
            exact (Nat.mul_eq_zero.mp this).resolve_right P.sqlWcharSize_pos.ne'
          · omega
        rw [List.length_eq_zero_iff.mp hnil, List.map_nil]
  unfold Utility.sqlWcharToString
  dsimp only
  rw [hread, List.map_map]
  rfl

/-- When a text is read back: if there is room for it and its characters have a form, as `SQLWCHAR`
and as `wchar_t`. -/
lemma wideReadBack_iff (hnul : '\x00' ∉ value) :
    WideReadBack P value buflen ↔
      ((value.flatMap (wideUnits P.sqlWcharSize)).length < buflen →
        buflen ≠ 1 ∧ value.all (unitFits P.sqlWcharSize) = true ∧
          value.all (unitFits P.wcharSize) = true) := by
  apply imp_congr_right
  intro hroom
  have hlength := length_le_length_wideUnits P.sqlWcharSize value
  constructor
  · rintro ⟨copied, units, rfl, hstored, hback⟩
    have hone : buflen ≠ 1 := by
      rintro rfl
      rw [copyStringToBuffer_one] at hstored
      contradiction
    have hcopy := copyStringToBuffer_of_two_le (P := P) hnul (show 2 ≤ buflen by omega)
    rw [List.take_of_length_le (show value.length ≤ buflen - 1 by omega)] at hcopy
    rw [hcopy] at hstored
    obtain rfl := Option.some.inj hstored
    have hread := hback Utility.sqlNts false (.inl rfl)
    rw [sqlWcharToString_codes P (fun hmem => hnul ((List.takeWhile_prefix _).subset hmem))
      (.inl rfl), toBytes_eq_some_iff] at hread
    obtain ⟨cs, hcs, hbytes⟩ := hread
    obtain rfl := encode_injective hbytes
    have hself : cs.takeWhile (unitFits P.sqlWcharSize) = cs := by
      apply (List.takeWhile_prefix _).eq_of_length
      have := congrArg List.length hcs
      simpa using this
    rw [hself] at hcs
    refine ⟨hone, List.all_eq_true.mpr fun c hc => List.takeWhile_eq_self_iff.mp hself c hc, ?_⟩
    apply List.all_eq_true.mpr
    intro c hc
    rw [← mod_wcharSize_eq_iff]
    exact List.map_inj_left.mp hcs c hc
  · rintro ⟨hone, hall, hwchar⟩
    have htwo : 2 ≤ buflen := by omega
    have hcopy := copyStringToBuffer_of_two_le (P := P) hnul htwo
    have hself : value.takeWhile (unitFits P.sqlWcharSize) = value :=
      List.takeWhile_eq_self_iff.mpr fun c hc => List.all_eq_true.mp hall c hc
    rw [List.take_of_length_le (show value.length ≤ buflen - 1 by omega), hself] at hcopy
    refine ⟨_, _, hcopy, rfl, ?_⟩
    intro sqlStrLen isLenInBytes hlen
    rw [sqlWcharToString_codes P hnul hlen, toBytes_eq_some_iff]
    refine ⟨value, ?_, rfl⟩
    apply List.map_congr_left
    intro c hc
    exact (mod_wcharSize_eq_iff P c).mpr (List.all_eq_true.mp hwchar c hc)

end ReadBack

/-! ## The contract -/

/-- The parts of the contract of a wide copy: the copy into a buffer, the count without one, and the
way back. Each holds exactly under its condition. -/
theorem wideContract_iff (P : Platform) {value : Text} (hnul : '\x00' ∉ value) (buflen : ℕ) :
    (WideCopied P.sqlWcharSize value buflen
        (Utility.copyStringToBuffer P (Utf8.encode value) true buflen false) ↔
      if buflen = 0 then value = []
      else buflen ≠ 1 ∧
        (fitting P.sqlWcharSize (buflen - 1) value).all (unitFits P.sqlWcharSize) = true) ∧
      (WideRequired P value buflen ↔ value.all (unitFits P.sqlWcharSize) = true) ∧
      (WideReadBack P value buflen ↔
        ((value.flatMap (wideUnits P.sqlWcharSize)).length < buflen →
          buflen ≠ 1 ∧ value.all (unitFits P.sqlWcharSize) = true ∧
            value.all (unitFits P.wcharSize) = true)) :=
  ⟨wideCopied_iff hnul, wideRequired_iff hnul, wideReadBack_iff hnul⟩

/-- A character of four bytes, in a buffer of two. -/
theorem wideContract_emoji :
    WideCopied 4 [Char.ofNat 0x1F600] 2
        (Utility.copyStringToBuffer samplePlatform (Utf8.encode [Char.ofNat 0x1F600]) true 2
          false) ∧
      WideRequired samplePlatform [Char.ofNat 0x1F600] 2 ∧
      WideReadBack samplePlatform [Char.ofNat 0x1F600] 2 := by
  have hnul : '\x00' ∉ [Char.ofNat 0x1F600] := by decide
  have hcontract := wideContract_iff samplePlatform hnul 2
  exact ⟨hcontract.1.mpr (by decide), hcontract.2.1.mpr (by decide), hcontract.2.2.mpr (by decide)⟩

/-- A buffer of one character does not get a terminator. -/
theorem not_wideContract_one :
    ¬ (∀ (P : Platform) (value : Text), '\x00' ∉ value → ∀ buflen,
      WideCopied P.sqlWcharSize value buflen
          (Utility.copyStringToBuffer P (Utf8.encode value) true buflen false) ∧
        WideRequired P value buflen ∧ WideReadBack P value buflen) := by
  intro h
  obtain ⟨part, -, hstored, -⟩ := (h samplePlatform ['a'] (by decide) 1).1
  rw [copyStringToBuffer_one] at hstored
  simp at hstored

end TimestreamOdbc
