import TimestreamOdbc.Ignite.Powers
import Mathlib.Data.Nat.Size

/-!
# Bits, digits and bytes of big integers

`GetPrecision` and `MagnitudeToBytes` of `big_integer.cpp`.  Both start from the number of bits, which is
kept in 32 bits.
-/

namespace TimestreamOdbc

namespace BigInteger

open LongDivision

/-- `GetPrecision`: the number of decimal digits, estimated from the number of bits and corrected. -/
def getPrecision (x : BigInteger) : Option ℕ :=
  if x.mag = [] then some 1
  else
    let r := ((x.getBitLength + 1) * 646456993) >>> 31
    (getPowerOfTen r).map fun prec => if compareMagnitude x.mag prec.mag < 0 then r else r + 1

/-- `MagnitudeToBytes`: the words from the end of the buffer on, each with its lowest byte last, and the
highest word with the bytes that are left.  It gives nothing when a word is written in front of the
buffer. -/
def magnitudeToBytes (x : BigInteger) : Option (List UInt8) :=
  let bytesNum := (x.getBitLength + 7) / 8
  let i := x.mag.length - 1
  if bytesNum = 0 then some [0]
  else if bytesNum < 4 * i then none
  else
    some (x.mag.dropLast.flatMap (LittleEndian.ofNat 4) ++
      LittleEndian.ofNat (bytesNum - 4 * i) (x.mag.getLastD 0)).reverse

/-- The estimate of the number of digits is the number or one less. -/
lemma estimate_digits {bits : ℕ} (hpos : 0 < bits) (hle : bits ≤ 128) :
    10 ^ (((bits + 1) * 646456993) >>> 31 - 1) ≤ 2 ^ (bits - 1) ∧
      2 ^ bits ≤ 10 ^ (((bits + 1) * 646456993) >>> 31 + 1) := by
  have hall : ∀ bits ∈ List.range' 1 128,
      10 ^ (((bits + 1) * 646456993) >>> 31 - 1) ≤ 2 ^ (bits - 1) ∧
        2 ^ bits ≤ 10 ^ (((bits + 1) * 646456993) >>> 31 + 1) := by decide +kernel
  exact hall bits (List.mem_range'_1.mpr ⟨hpos, by omega⟩)

section WellFormed

variable {x : BigInteger} (h : x.WellFormed)

include h

/-- The number of bits, modulo the size of the variable. -/
lemma getBitLength_eq_size : x.getBitLength = x.magnitude.size % 2 ^ 32 := by
  by_cases hempty : x.mag = []
  · rw [getBitLength, magnitude, hempty]
    rfl
  obtain ⟨hpos, hlt, hsplit⟩ := getLastD_spec h.canonical hempty
  obtain ⟨hle, hshifted⟩ := numberOfLeadingZerosU32_spec hpos hlt
  have hzeros := numberOfLeadingZerosU32_lt hpos hlt
  have hlow : Nat.ofDigits (2 ^ 32) x.mag.dropLast < (2 ^ 32) ^ (x.mag.length - 1) := by
    have := Nat.ofDigits_lt_base_pow_length (show 1 < 2 ^ 32 by decide)
      (l := x.mag.dropLast) fun w hw => h.canonical.lt w (List.mem_of_mem_dropLast hw)
    rwa [List.length_dropLast] at this
  set z := numberOfLeadingZerosU32 (x.mag.getLastD 0) with hz
  -- The highest word has as many bits as it has less its leading zeros.
  have hupper : x.mag.getLastD 0 < 2 ^ (32 - z) := by
    have hpow : 2 ^ 32 = 2 ^ (32 - z) * 2 ^ z := by rw [← pow_add, Nat.sub_add_cancel hzeros.le]
    rw [hpow] at hshifted
    exact Nat.lt_of_mul_lt_mul_right hshifted
  have hlower : 2 ^ (31 - z) ≤ x.mag.getLastD 0 := by
    have hpow : 2 ^ 31 = 2 ^ (31 - z) * 2 ^ z := by
      rw [← pow_add, Nat.sub_add_cancel (by omega)]
    rw [hpow] at hle
    exact Nat.le_of_mul_le_mul_right hle (Nat.pow_pos (by decide))
  have hsize : x.magnitude.size = 32 - z + (x.mag.length - 1) * 32 := by
    have hmag : x.magnitude = Nat.ofDigits (2 ^ 32) x.mag.dropLast +
        (2 ^ 32) ^ (x.mag.length - 1) * x.mag.getLastD 0 := hsplit
    have hbase : (2 ^ 32) ^ (x.mag.length - 1) = 2 ^ ((x.mag.length - 1) * 32) := by
      rw [← pow_mul, Nat.mul_comm]
    rw [hbase] at hmag hlow
    apply le_antisymm
    · rw [Nat.size_le, pow_add, hmag, Nat.mul_comm (2 ^ (32 - z))]
      calc _ < 2 ^ ((x.mag.length - 1) * 32) +
            2 ^ ((x.mag.length - 1) * 32) * x.mag.getLastD 0 := Nat.add_lt_add_right hlow _
        _ = 2 ^ ((x.mag.length - 1) * 32) * (x.mag.getLastD 0 + 1) := by ring
        _ ≤ _ := Nat.mul_le_mul_left _ hupper
    · rw [show 32 - z + (x.mag.length - 1) * 32 = (31 - z + (x.mag.length - 1) * 32) + 1 by omega,
        Nat.succ_le_iff, Nat.lt_size, pow_add, hmag, Nat.mul_comm (2 ^ (31 - z))]
      exact (Nat.mul_le_mul_left _ hlower).trans (Nat.le_add_left _ _)
  have hlast : x.mag.getLast? = some (x.mag.getLastD 0) := by
    rw [List.getLastD_eq_getLast?, List.getLast?_eq_some_getLast hempty, Option.getD_some]
  have hbits : bitLengthU32 (x.mag.getLastD 0) = 32 - z := rfl
  rw [getBitLength, hlast, hsize, ← hbits]

/-- The number of digits of a number of 128 bits. -/
lemma getPrecision_eq (hlt : x.magnitude < 2 ^ 128) :
    x.getPrecision = some (Nat.toDigits 10 x.magnitude).length := by
  rw [getPrecision]
  split
  · next hempty =>
    rw [magnitude, hempty]
    rfl
  · next hne =>
    have hpos := h.magnitude_pos hne
    have hbits : x.magnitude.size ≤ 128 := Nat.size_le.mpr hlt
    have hlength : x.getBitLength = x.magnitude.size := by
      rw [getBitLength_eq_size h, Nat.mod_eq_of_lt (by omega)]
    have hlower : 2 ^ (x.magnitude.size - 1) ≤ x.magnitude :=
      Nat.lt_size.mp (by have := Nat.size_pos.mpr hpos; omega)
    have hupper := Nat.lt_size_self x.magnitude
    obtain ⟨hsmall, hlarge⟩ := estimate_digits (Nat.size_pos.mpr hpos) hbits
    rw [hlength]
    generalize ((x.magnitude.size + 1) * 646456993) >>> 31 = r at hsmall hlarge
    obtain ⟨prec, hprec, hwell, -, hmag⟩ := getPowerOfTen_spec r
    have hcompare : compareMagnitude x.mag prec.mag = if x.magnitude = prec.magnitude then 0
        else if prec.magnitude < x.magnitude then 1 else -1 :=
      compareMagnitude_spec h.canonical hwell.canonical
    have hdigits (k : ℕ) (hk : 0 < k) :
        (Nat.toDigits 10 x.magnitude).length ≤ k ↔ x.magnitude < 10 ^ k :=
      Nat.length_toDigits_le_iff (by decide) hk
    have hone : 0 < (Nat.toDigits 10 x.magnitude).length := Nat.length_toDigits_pos
    have hnext := (hdigits (r + 1) (Nat.succ_pos r)).mpr (hupper.trans_le hlarge)
    simp only [hprec, Option.map_some, hcompare, hmag, Option.some.injEq]
    by_cases hless : x.magnitude < 10 ^ r
    · rw [if_neg hless.ne, if_neg hless.not_gt, if_pos (by decide)]
      have hr : 0 < r := by
        rcases Nat.eq_zero_or_pos r with hzero | hr
        · rw [hzero] at hless
          omega
        · exact hr
      have hle := (hdigits r hr).mpr hless
      rcases Nat.eq_or_lt_of_le hr with hr | hr
      · omega
      · have hprevious := (hdigits (r - 1) (by omega)).not.mpr
          (not_lt.mpr (hsmall.trans hlower))
        omega
    · have hnonneg : ¬ (if x.magnitude = 10 ^ r then (0 : ℤ)
          else if 10 ^ r < x.magnitude then 1 else -1) < 0 := by
        split
        · decide
        · rw [if_pos (by omega)]
          decide
      rw [if_neg hnonneg]
      rcases Nat.eq_zero_or_pos r with hzero | hr
      · omega
      · have hlonger := (hdigits r hr).not.mpr hless
        omega

/-- The bytes are those of the number, as many as are counted. -/
lemma magnitudeToBytes_eq :
    x.magnitudeToBytes =
      if (x.getBitLength + 7) / 8 = 0 then some [0]
      else if (x.getBitLength + 7) / 8 < 4 * (x.mag.length - 1) then none
      else some (LittleEndian.ofNat ((x.getBitLength + 7) / 8) x.magnitude).reverse := by
  rw [magnitudeToBytes]
  split
  · rfl
  split
  · rfl
  · next hne hle =>
    have hempty : x.mag ≠ [] := by
      intro hempty
      rw [getBitLength, hempty] at hne
      exact hne rfl
    obtain ⟨-, -, hsplit⟩ := getLastD_spec h.canonical hempty
    have hwords : ∀ w ∈ x.mag.dropLast, w < 2 ^ 32 := fun w hw =>
      h.canonical.lt w (List.mem_of_mem_dropLast hw)
    rw [LittleEndian.flatMap_ofNat hwords, List.length_dropLast, ← hsplit,
      Nat.add_sub_cancel' (not_lt.mp hle)]
    rfl

/-- A number of up to 128 bits has up to 16 bytes, of which 0 has one. -/
lemma magnitudeToBytes_eq_some (hlt : x.magnitude < 2 ^ 128) :
    ∃ n ≤ 16, x.magnitudeToBytes = some (LittleEndian.ofNat n x.magnitude).reverse ∧
      x.magnitude < 256 ^ n := by
  have hbits : x.magnitude.size ≤ 128 := Nat.size_le.mpr hlt
  have hlength : x.getBitLength = x.magnitude.size := by
    rw [getBitLength_eq_size h, Nat.mod_eq_of_lt (by omega)]
  have hpow (n : ℕ) (hn : x.magnitude.size ≤ 8 * n) : x.magnitude < 256 ^ n := by
    rw [show 256 = 2 ^ 8 by decide, ← pow_mul]
    exact Nat.size_le.mp hn
  rw [magnitudeToBytes_eq h, hlength]
  by_cases hzero : (x.magnitude.size + 7) / 8 = 0
  · have hnull : x.magnitude = 0 := Nat.size_eq_zero.mp (by omega)
    exact ⟨1, by decide, by rw [if_pos hzero, hnull]; rfl, by rw [hnull]; decide⟩
  · have hwords : 32 * (x.mag.length - 1) < x.magnitude.size := by
      have hempty : x.mag ≠ [] := by
        intro hempty
        rw [magnitude, hempty] at hzero
        exact hzero rfl
      rw [Nat.lt_size, pow_mul]
      exact h.canonical.pow_le_ofDigits (by decide) hempty
    exact ⟨(x.magnitude.size + 7) / 8, by omega, by rw [if_neg hzero, if_neg (by omega)],
      hpow _ (by omega)⟩

/-- Whatever bytes are written, they are those of the number or one that is 0. -/
lemma eq_of_magnitudeToBytes {bytes : List UInt8} (hbytes : x.magnitudeToBytes = some bytes) :
    bytes = [0] ∨ ∃ n, bytes = (LittleEndian.ofNat n x.magnitude).reverse ∧ x.magnitude < 256 ^ n := by
  rw [magnitudeToBytes_eq h] at hbytes
  split_ifs at hbytes with hzero hshort
  · exact .inl (Option.some.inj hbytes).symm
  · refine .inr ⟨_, (Option.some.inj hbytes).symm, ?_⟩
    rw [show 256 = 2 ^ 8 by decide, ← pow_mul, ← Nat.size_le]
    -- The number of bits cannot have overflowed.
    have hupper : x.magnitude.size ≤ 32 * x.mag.length := by
      rw [Nat.size_le, pow_mul]
      exact h.canonical.ofDigits_lt (by decide)
    rw [getBitLength_eq_size h] at hzero hshort ⊢
    omega

end WellFormed

end BigInteger

end TimestreamOdbc
