import TimestreamOdbc.Ignite.Bytes

/-!
# Big integers from bytes

The constructor of `BigInteger` from bytes, in both byte orders, against `MagnitudeToBytes`, which writes
the highest byte first.
-/

namespace LittleEndian

/-- The bytes of the number of some bytes are those bytes. -/
lemma ofNat_toNat (bytes : List UInt8) : ofNat bytes.length (toNat bytes) = bytes := by
  induction bytes with
  | nil => rfl
  | cons byte bytes ih =>
    have hbyte := byte.toNat_lt
    have hlow : (byte.toNat + 256 * toNat bytes) % 256 = byte.toNat := by omega
    have hhigh : (byte.toNat + 256 * toNat bytes) / 256 = toNat bytes := by omega
    rw [List.length_cons, ofNat, toNat_cons, hlow, hhigh, ih]
    exact congrArg (· :: bytes) UInt8.ofNat_toNat

/-- A number of bytes of which the highest one is not 0 has all of them. -/
lemma pow_le_toNat {bytes : List UInt8} (hne : bytes ≠ []) (h : bytes.getLast hne ≠ 0) :
    256 ^ (bytes.length - 1) ≤ toNat bytes := by
  have hpos : 0 < (bytes.getLast hne).toNat := by
    refine Nat.pos_of_ne_zero fun hzero => h ?_
    exact UInt8.toNat_inj.mp hzero
  have hsplit := toNat_append bytes.dropLast [bytes.getLast hne]
  rw [List.dropLast_append_getLast hne, toNat_cons, toNat_nil, List.length_dropLast] at hsplit
  rw [hsplit]
  have hone : 256 ^ (bytes.length - 1) * 1 ≤
      256 ^ (bytes.length - 1) * ((bytes.getLast hne).toNat + 256 * 0) :=
    Nat.mul_le_mul_left _ (by omega)
  omega

end LittleEndian

namespace TimestreamOdbc

namespace BigInteger

open LongDivision

/-- The constructor from bytes with the highest one first; the words are read from the end. -/
def ofBytesBigEndian (val : List UInt8) (sign : ℤ) : BigInteger :=
  let significant := val.dropWhile (· = 0)
  if significant = [] then ⟨1, []⟩
  else ⟨sign, LittleEndian.words significant.reverse⟩

/-- The two byte orders. -/
lemma ofBytesBigEndian_reverse (val : List UInt8) (sign : ℤ) :
    ofBytesBigEndian val.reverse sign = ofBytes val sign := by
  unfold ofBytesBigEndian ofBytes List.rdropWhile
  simp only [List.reverse_eq_nil_iff]

/-- The words of the number of the bytes. -/
lemma ofBytes_eq (val : List UInt8) (sign : ℤ) :
    ofBytes val sign = if LittleEndian.toNat val = 0 then ⟨1, []⟩
      else ⟨sign, Nat.digits (2 ^ 32) (LittleEndian.toNat val)⟩ := by
  have hwords := LittleEndian.words_rdropWhile val
  have hempty : val.rdropWhile (· = 0) = [] ↔ LittleEndian.toNat val = 0 := by
    constructor
    · intro hnil
      rw [← LittleEndian.toNat_rdropWhile, hnil, LittleEndian.toNat_nil]
    · intro hzero
      by_contra hne
      rw [hzero, Nat.digits_zero] at hwords
      exact LittleEndian.words_ne_nil hne hwords
  simp only [ofBytes, hempty, hwords]

/-- It is well-formed, and has the number of the bytes. -/
lemma ofBytes_spec (val : List UInt8) {sign : ℤ} (hsign : sign = 1 ∨ sign = -1) :
    (ofBytes val sign).WellFormed ∧ (ofBytes val sign).magnitude = LittleEndian.toNat val := by
  rw [ofBytes_eq]
  split
  · next hzero => exact ⟨⟨.inl rfl, canonical_nil⟩, hzero.symm⟩
  · exact ⟨⟨hsign, canonical_digits (by decide) _⟩, Nat.ofDigits_digits _ _⟩

/-- Well-formed numbers of one sign with one magnitude are the same. -/
lemma WellFormed.ext {x y : BigInteger} (hx : x.WellFormed) (hy : y.WellFormed)
    (hsign : x.sign = y.sign) (hmagnitude : x.magnitude = y.magnitude) : x = y := by
  have hmag := hx.canonical.ext (by decide) hy.canonical hmagnitude
  obtain ⟨sign, mag⟩ := x
  obtain ⟨sign', mag'⟩ := y
  obtain rfl : sign = sign' := hsign
  obtain rfl : mag = mag' := hmag
  rfl

/-- The bytes of a magnitude are read as it. -/
lemma ofBytesBigEndian_magnitudeToBytes {x : BigInteger} (h : x.WellFormed)
    (hbits : x.magnitude.size < 2 ^ 32) :
    ∃ bytes, x.magnitudeToBytes = some bytes ∧
      ofBytesBigEndian bytes x.sign = if x.mag = [] then ⟨1, []⟩ else x := by
  have hlength : x.getBitLength = x.magnitude.size := by
    rw [getBitLength_eq_size h, Nat.mod_eq_of_lt hbits]
  rw [magnitudeToBytes_eq h, hlength]
  by_cases hempty : x.mag = []
  · have hzero : x.magnitude = 0 := by
      rw [magnitude, hempty]
      rfl
    rw [hzero, if_pos hempty]
    exact ⟨[0], rfl, rfl⟩
  have hpos : 0 < x.magnitude := h.magnitude_pos hempty
  have hsize : 0 < x.magnitude.size := Nat.size_pos.mpr hpos
  have hwords : 32 * (x.mag.length - 1) < x.magnitude.size := by
    rw [Nat.lt_size, pow_mul]
    exact h.canonical.pow_le_ofDigits (by decide) hempty
  rw [if_neg (by omega), if_neg (by omega), if_neg hempty]
  refine ⟨_, rfl, ?_⟩
  rw [ofBytesBigEndian_reverse]
  obtain ⟨hwell, hmagnitude⟩ :=
    ofBytes_spec (LittleEndian.ofNat ((x.magnitude.size + 7) / 8) x.magnitude) h.sign
  have hnumber : LittleEndian.toNat (LittleEndian.ofNat ((x.magnitude.size + 7) / 8) x.magnitude) =
      x.magnitude := by
    rw [LittleEndian.toNat_ofNat]
    refine Nat.mod_eq_of_lt ?_
    rw [show 256 = 2 ^ 8 by decide, ← pow_mul, ← Nat.size_le]
    omega
  refine hwell.ext h ?_ (hmagnitude.trans hnumber)
  rw [ofBytes_eq, hnumber, if_neg hpos.ne']

/-- The bytes without the zeros in front are those of the magnitude; there is one for zero. -/
lemma magnitudeToBytes_ofBytesBigEndian (val : List UInt8) {sign : ℤ} (hsign : sign = 1 ∨ sign = -1)
    (hbits : 8 * val.length < 2 ^ 32) :
    (ofBytesBigEndian val sign).magnitudeToBytes =
      some (if val.dropWhile (· = 0) = [] then [0] else val.dropWhile (· = 0)) := by
  obtain ⟨hwell, hmagnitude⟩ := ofBytes_spec val.reverse hsign
  rw [← ofBytesBigEndian_reverse, List.reverse_reverse] at hwell hmagnitude
  -- the significant bytes, from the lowest one on
  have hnumber : (ofBytesBigEndian val sign).magnitude =
      LittleEndian.toNat (val.dropWhile (· = 0)).reverse := by
    rw [hmagnitude, ← LittleEndian.toNat_rdropWhile, List.rdropWhile, List.reverse_reverse]
  by_cases hnil : val.dropWhile (· = 0) = []
  · have hzero : ofBytesBigEndian val sign = ⟨1, []⟩ := if_pos hnil
    rw [if_pos hnil, hzero]
    rfl
  set significant := val.dropWhile (· = 0) with hsignificant
  have hlength : significant.length ≤ val.length := (List.dropWhile_sublist _).length_le
  have hreverse : significant.reverse ≠ [] := by simpa using hnil
  have hlast : significant.reverse.getLast hreverse ≠ 0 := by
    rw [List.getLast_reverse]
    have hhead := List.head_dropWhile_not (fun byte : UInt8 => decide (byte = 0)) hnil
    simpa using hhead
  have hlow := LittleEndian.pow_le_toNat hreverse hlast
  have hhigh := LittleEndian.toNat_lt significant.reverse
  rw [← hnumber, List.length_reverse] at hlow hhigh
  have hpow (n : ℕ) : 256 ^ n = 2 ^ (8 * n) := by
    rw [show 256 = 2 ^ 8 by decide, ← pow_mul]
  rw [hpow, ← Nat.size_le] at hhigh
  rw [hpow, ← Nat.lt_size] at hlow
  have hsome : 0 < significant.length := List.length_pos_iff.mpr hnil
  have hcount : ((ofBytesBigEndian val sign).getBitLength + 7) / 8 = significant.length := by
    rw [getBitLength_eq_size hwell, Nat.mod_eq_of_lt (by omega)]
    omega
  have hempty : (ofBytesBigEndian val sign).mag ≠ [] := by
    intro hempty
    rw [magnitude, hempty] at hlow
    exact absurd hlow (by simp)
  have hwords : 32 * ((ofBytesBigEndian val sign).mag.length - 1) <
      (ofBytesBigEndian val sign).magnitude.size := by
    rw [Nat.lt_size, pow_mul]
    exact hwell.canonical.pow_le_ofDigits (by decide) hempty
  rw [magnitudeToBytes_eq hwell, hcount, if_neg hsome.ne', if_neg (by omega), hnumber, if_neg hnil]
  have hbytes := LittleEndian.ofNat_toNat significant.reverse
  rw [List.length_reverse] at hbytes
  rw [hbytes, List.reverse_reverse]

/-- What `MagnitudeToBytes` writes is read as the number in either order, except that a zero loses its
sign; what the constructor reads is written without the zeros in front. -/
theorem bytes_roundTrip {x : BigInteger} (h : x.WellFormed) (hbits : x.magnitude.size < 2 ^ 31)
    (val : List UInt8) (hlength : 8 * val.length < 2 ^ 31) :
    (∃ bytes, x.magnitudeToBytes = some bytes ∧
      ofBytesBigEndian bytes x.sign = (if x.mag = [] then ⟨1, []⟩ else x) ∧
      ofBytes bytes.reverse x.sign = (if x.mag = [] then ⟨1, []⟩ else x)) ∧
    (ofBytesBigEndian val x.sign).magnitudeToBytes =
      some (if val.dropWhile (· = 0) = [] then [0] else val.dropWhile (· = 0)) := by
  refine ⟨?_, magnitudeToBytes_ofBytesBigEndian val h.sign (by omega)⟩
  obtain ⟨bytes, hbytes, hread⟩ := ofBytesBigEndian_magnitudeToBytes h (by omega)
  refine ⟨bytes, hbytes, hread, ?_⟩
  rw [← ofBytesBigEndian_reverse, List.reverse_reverse, hread]

/-- A number of five bytes, and bytes with zeros in front. -/
theorem bytes_roundTrip_fiveBytes :
    (∃ bytes, (⟨-1, [7, 200]⟩ : BigInteger).magnitudeToBytes = some bytes ∧
      ofBytesBigEndian bytes (-1) = (if ([7, 200] : List ℕ) = [] then ⟨1, []⟩ else ⟨-1, [7, 200]⟩) ∧
      ofBytes bytes.reverse (-1) =
        (if ([7, 200] : List ℕ) = [] then ⟨1, []⟩ else ⟨-1, [7, 200]⟩)) ∧
    (ofBytesBigEndian [0, 0, 1, 2] (-1)).magnitudeToBytes =
      some (if [0, 0, 1, 2].dropWhile (· = (0 : UInt8)) = [] then [0]
        else [0, 0, 1, 2].dropWhile (· = (0 : UInt8))) :=
  @bytes_roundTrip ⟨-1, [7, 200]⟩ ⟨.inr rfl, ⟨by decide, by decide⟩⟩
    (Nat.size_le.mpr (show 7 + 2 ^ 32 * (200 + 2 ^ 32 * 0) < 2 ^ 40 by decide) |>.trans_lt (by decide))
    [0, 0, 1, 2] (by decide)

end BigInteger

end TimestreamOdbc
