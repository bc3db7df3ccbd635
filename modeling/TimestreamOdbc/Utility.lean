import TimestreamOdbc.Lib.Utf8
import TimestreamOdbc.Utils

/-!
# Copying strings to application buffers

The functions of `utility.cpp` that convert a UTF-8 string into the characters of the application
and copy them to its buffer.  A string is given by its bytes from the pointer on; the functions
read up to the terminator.

What is written to the buffer is the list of code units stored from its first one on, the
terminator included, or nothing when the buffer is left alone.
-/

namespace TimestreamOdbc

/-- What the driver finds on its platform: the sizes of `wchar_t` and `SQLWCHAR`, the switch
`ANSI_STRING_ONLY`, and `ctype<wchar_t>::narrow` of the current locale with the default `'?'`, which
gives the null byte for the null character alone. -/
structure Platform where
  wcharSize : ℕ
  sqlWcharSize : ℕ
  ansiStringOnly : Bool
  narrow : Char → UInt8
  wcharSize_eq : wcharSize = 2 ∨ wcharSize = 4
  sqlWcharSize_eq : sqlWcharSize = 2 ∨ sqlWcharSize = 4
  narrow_eq_zero_iff : ∀ c, narrow c = 0 ↔ c = '\x00'

namespace Platform

variable (P : Platform)

lemma sqlWcharSize_pos : 0 < P.sqlWcharSize := by
  rcases P.sqlWcharSize_eq with h | h <;> omega

end Platform

/-- The null character alone has the code 0. -/
lemma toNat_eq_zero_iff {c : Char} : c.toNat = 0 ↔ c = '\x00' := by
  constructor
  · intro h
    apply Char.ext
    apply UInt32.toNat.inj
    exact h
  · rintro rfl
    rfl

/-- A platform with characters of 4 bytes, on which ASCII characters alone have a narrow form. -/
def samplePlatform : Platform where
  wcharSize := 4
  sqlWcharSize := 4
  ansiStringOnly := false
  narrow := fun c => if c.toNat < 128 then c.toNat.toUInt8 else '?'.toNat.toUInt8
  wcharSize_eq := .inr rfl
  sqlWcharSize_eq := .inr rfl
  narrow_eq_zero_iff := by
    intro c
    rw [← toNat_eq_zero_iff]
    split
    · next h =>
      have hcode : c.toNat.toUInt8.toNat = c.toNat := UInt8.toNat_ofNat_of_lt (h.trans (by decide))
      rw [← UInt8.toNat_inj, hcode]
      rfl
    · next h =>
      have : ¬ c.toNat = 0 := by omega
      simp only [this, iff_false]
      decide

/-- What `std::codecvt_utf8` with code units of the given size converts: UCS-2 has the characters
of the basic plane only. -/
def unitFits (unitSize : ℕ) (c : Char) : Bool := unitSize ≠ 2 || c.toNat ≤ 0xFFFF

/-- Code units of every size have the characters of seven bits. -/
lemma unitFits_of_lt {c : Char} (h : c.toNat < 128) (unitSize : ℕ) : unitFits unitSize c = true := by
  simp only [unitFits, Bool.or_eq_true, decide_eq_true_eq]
  right
  omega

/-- The bytes of a C string, up to its terminator. -/
def cString (bytes : List UInt8) : List UInt8 := bytes.takeWhile (· ≠ 0)

/-- A string without a null byte is read to its end. -/
lemma cString_eq_self {bytes : List UInt8} (h : 0 ∉ bytes) : cString bytes = bytes := by
  apply List.takeWhile_eq_self_iff.mpr
  intro b hb
  simp only [ne_eq, decide_eq_true_eq]
  rintro rfl
  exact h hb

/-- `wstring_convert<codecvt_utf8<wchar_t>>::from_bytes` of a C string; nothing when it throws. -/
def fromBytes (P : Platform) (bytes : List UInt8) : Option Text :=
  Utf8.decode (unitFits P.wcharSize) (cString bytes)

/-- The outcome of a copy: the returned count, the flag `isTruncated`, and the code units stored. -/
structure Copied where
  count : ℕ
  isTruncated : Bool
  stored : Option (List ℕ)
  deriving DecidableEq, Repr

/-- `CopyUtf8StringToSqlCharString`; nothing when the conversion throws. The count is in bytes,
which are the characters of the buffer. -/
def copyUtf8StringToSqlCharString (P : Platform) (inBuffer : List UInt8) (outBuffer : Bool)
    (outBufferLenBytes : ℕ) (isTruncated : Bool) : Option Copied :=
  if !outBuffer then some ⟨0, isTruncated, none⟩
  else if P.ansiStringOnly then
    let bytes := cString inBuffer
    let count := if 0 < outBufferLenBytes then min bytes.length (outBufferLenBytes - 1) else 0
    if outBufferLenBytes ≤ bytes.length then
      some ⟨count, true,
        if 0 < outBufferLenBytes then
          some ((bytes.take (outBufferLenBytes - 1)).map UInt8.toNat ++ [0])
        else none⟩
    else some ⟨count, false, some (bytes.map UInt8.toNat ++ [0])⟩
  else
    (fromBytes P inBuffer).map fun inString =>
      let count := if 0 < outBufferLenBytes then min inString.length (outBufferLenBytes - 1) else 0
      ⟨count, decide (count < inString.length),
        if 0 < count then
          some ((inString.take count).map (fun c => (P.narrow c).toNat) ++ [0])
        else none⟩

/-- `CopyUtf8StringToWcharString` for code units of the size of `SQLWCHAR`. The count is in bytes.
A buffer without room for a character and the terminator is replaced by one that is large enough
and thrown away. A sequence that ends too early and one that can not be converted are treated alike:
both set the flag, and both keep what was converted. -/
def copyUtf8StringToWcharString (P : Platform) (inBuffer : List UInt8) (outBuffer : Bool)
    (outBufferLenBytes : ℕ) (isTruncated : Bool) : Copied :=
  if outBuffer ∧ outBufferLenBytes = 0 then ⟨0, isTruncated, none⟩
  else
    let bytes := cString inBuffer
    let direct := outBuffer && decide (P.sqlWcharSize < outBufferLenBytes)
    let room := if direct then outBufferLenBytes / P.sqlWcharSize - 1 else bytes.length
    let (status, converted) := Utf8.convert (unitFits P.sqlWcharSize) room bytes
    ⟨converted.length * P.sqlWcharSize, decide (status ≠ .ok),
      if direct then some (converted.map Char.toNat ++ [0]) else none⟩

/-- Wide characters are stored only when the facet converts to them. -/
lemma unitFits_of_mem_stored {P : Platform} {inBuffer : List UInt8} {outBuffer : Bool}
    {outBufferLenBytes : ℕ} {isTruncated : Bool} {units : List ℕ} {u : ℕ}
    (h : (copyUtf8StringToWcharString P inBuffer outBuffer outBufferLenBytes isTruncated).stored =
      some units) (hu : u ∈ units) (hzero : u ≠ 0) :
    ∃ c : Char, c.toNat = u ∧ unitFits P.sqlWcharSize c := by
  unfold copyUtf8StringToWcharString at h
  split at h
  · exact absurd h (by simp)
  · dsimp only at h
    split at h
    · obtain rfl := Option.some.inj h
      rcases List.mem_append.mp hu with hu | hu
      · obtain ⟨c, hc, rfl⟩ := List.mem_map.mp hu
        exact ⟨c, rfl, Utf8.fits_of_mem_convert hc⟩
      · exact absurd (List.mem_singleton.mp hu) hzero
    · exact absurd h (by simp)

end TimestreamOdbc
