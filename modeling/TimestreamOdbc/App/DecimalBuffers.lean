import TimestreamOdbc.App.IntegerReadBack
import TimestreamOdbc.Ignite.DecimalText

/-!
# Decimals in application buffers

`PutDecimal` with the decimals of the driver, and `GetDecimal` of a buffer of numbers.  A numeric gets
what `SetScale` makes of a decimal: nothing when the scale is 0 already.
-/

namespace TimestreamOdbc.Ignite

namespace Decimal

/-! ## The functions -/

/-- The bytes of `SQL_NUMERIC_STRUCT`: those of the buffer from the last one on, then zeros. -/
def numericVal (bytesBuffer : List UInt8) : List UInt8 :=
  (bytesBuffer.reverse ++ List.replicate 16 0).take 16

/-- `PutDecimal`.  A decimal is converted to a `double` by `toDouble`. -/
def putDecimal (P : Platform) (toDouble : Decimal → Floating) (value : Decimal)
    (b : ApplicationDataBuffer) : Option Put :=
  match b.type with
  | .aiSignedTinyint | .aiBit | .aiUnsignedTinyint | .aiSignedShort | .aiUnsignedShort
  | .aiSignedLong | .aiUnsignedLong | .aiSignedBigint | .aiUnsignedBigint =>
    value.toInt64.bind fun n =>
      (b.putNum P 8 n).map fun put => { put with result := .aiFractionalTruncated }
  | .aiFloat | .aiDouble =>
    (b.putDouble P (toDouble value)).map fun put => { put with result := .aiFractionalTruncated }
  | .aiChar | .aiWchar => value.write.bind fun text => b.putBytes P (Utf8.encode text)
  | .aiNumeric =>
    (value.setScale 0 zero).bind fun zeroScaled =>
      let unscaled := zeroScaled.magnitude
      unscaled.magnitudeToBytes.bind fun bytesBuffer =>
        unscaled.getPrecision.bind fun precision =>
          b.putStruct
            (if 16 < bytesBuffer.length then .aiFractionalTruncated else .aiSuccess)
            (.numeric (precision % 2 ^ 8) 0 (if unscaled.sign < 0 then 0 else 1)
              (LittleEndian.toNat (numericVal bytesBuffer))) sizeOfNumericStruct
  | _ => some b.unsupported

/-- `GetDecimal` of a buffer of numbers; nothing when it dies of a null pointer.  Texts and
floating-point numbers are left out. -/
def getDecimal (P : ColumnPlatform) (memory : Memory) (b : ApplicationDataBuffer) : Option Decimal :=
  let data := memory.read (b.applyOffset b.getElementSize) (b.type.readSize P)
  match b.type with
  | .aiSignedTinyint | .aiBit | .aiSignedShort | .aiSignedLong | .aiSignedBigint =>
    (b.getInt64 P memory).map fun n => ⟨0, BigInteger.ofInt64 n⟩
  | .aiUnsignedTinyint | .aiUnsignedShort | .aiUnsignedLong | .aiUnsignedBigint =>
    (b.getInt64 P memory).map fun n => ⟨0, BigInteger.ofUint64 (n % 2 ^ 64).toNat⟩
  | .aiChar | .aiWchar | .aiFloat | .aiDouble => none
  | .aiNumeric =>
    if !b.buffer then none
    else
      -- the scale is a signed character, of which the sign bit of an `int32_t` is masked
      some ⟨((data.getD 1 0).toNat : ℤ).bmod (2 ^ 8) % 2 ^ 31,
        BigInteger.ofBytes (data.drop 3) (if data.getD 2 0 ≠ 0 then 1 else -1)⟩
  | _ => some zero

/-! ## What is claimed of them -/

/-- The integers of an `int64_t`. -/
def int64Range : Set ℤ := Set.Ico (-2 ^ 63) (2 ^ 63)

/-- The numeric of an integer, with as many digits as the integer has. -/
def numericOf (n : ℤ) : Stored :=
  .numeric (Nat.toDigits 10 n.natAbs).length 0 (if n < 0 then 0 else 1) n.natAbs

/-- A numeric holds the integer that is left of a decimal, and both readers find it there. -/
def NumericAgrees (P : ColumnPlatform) (toDouble : Decimal → Floating) (d : Decimal)
    (b : ApplicationDataBuffer) (memory : Memory) : Prop :=
  ∃ put after x, putDecimal P.toPlatform toDouble d b = some put ∧ put.result = .aiSuccess ∧
    put.stored = some (numericOf d.trunc) ∧ b.store memory put = some after ∧
    getDecimal P after b = some ⟨0, x⟩ ∧ x.WellFormed ∧ x.value = d.trunc ∧
    (d.trunc ∈ int64Range → b.getInt64 P after = some d.trunc)

/-- All conversions of a decimal agree on the integer that is left of it. -/
structure Agrees (P : ColumnPlatform) (toDouble : Decimal → Floating) (d : Decimal) : Prop where
  numeric : ∀ b : ApplicationDataBuffer, b.type = .aiNumeric → b.buffer = true →
    ∀ memory, NumericAgrees P toDouble d b memory
  toInt64 : d.trunc ∈ int64Range → d.toInt64 = some d.trunc
  bigint : d.trunc ∈ int64Range → ∀ b : ApplicationDataBuffer, b.type = .aiSignedBigint →
    b.buffer = true → ∃ put, putDecimal P.toPlatform toDouble d b = some put ∧
      put.stored.bind b.type.readBack = some d.trunc

/-- When they do: a decimal of the scale 0 is zero, the digits behind a point are divided off rightly, a
negative scale has a negative, and an integer of 64 bits is not below `-2 ^ 32` or has a lowest word that
is 0.  A zero that is not divided has the sign 1. -/
structure AgreesCondition (d : Decimal) : Prop where
  zero_of_scale : d.scale = 0 → d.magnitude.mag = [] ∧ d.magnitude.sign = 1
  quotient : 0 < d.scale → BigInteger.QuotientCondition d.magnitude (tenPower d.scale.toNat)
  product : d.scale < 0 → -2 ^ 31 < d.scale ∧ (d.magnitude.mag = [] → d.magnitude.sign = 1)
  words : d.trunc ∈ int64Range → -2 ^ 32 ≤ d.trunc ∨ 2 ^ 32 ∣ d.trunc

/-! ## Scaled decimals -/

/-- A big integer whose zero has the sign 1. -/
structure Signed (x : BigInteger) : Prop where
  well : x.WellFormed
  sign : x.mag = [] → x.sign = 1

section Signed

variable {x : BigInteger} (h : Signed x)

include h

/-- The sign shows in the value. -/
lemma Signed.sign_eq : x.sign = if x.value < 0 then -1 else 1 := by
  rw [BigInteger.value]
  rcases h.well.sign with hsign | hsign
  · rw [hsign, if_neg (by omega)]
  · have hne : x.mag ≠ [] := fun hempty => by
      have := h.sign hempty
      omega
    have hpos := h.well.magnitude_pos hne
    rw [hsign, if_pos (by omega)]

/-- The bytes of the magnitude and the sign are those of the big integer. -/
lemma Signed.ofBytes_eq (hlt : x.value.natAbs < 2 ^ 128) :
    BigInteger.ofBytes (LittleEndian.ofNat 16 x.value.natAbs)
      (if x.value < 0 then -1 else 1) = x := by
  have hempty := h.well.canonical.ofDigits_eq_zero_iff (by decide)
  rw [BigInteger.ofBytes_ofNat hlt, ← h.sign_eq, h.well.natAbs_value, BigInteger.magnitude,
    h.well.canonical.digits_ofDigits (by decide)]
  split
  · next hzero =>
    rw [← h.sign (hempty.mp hzero), ← hempty.mp hzero]
  · rfl

/-- The integer of 64 bits. -/
lemma Signed.toInt64_eq (hrange : x.value ∈ int64Range) :
    x.toInt64 = if -2 ^ 32 ≤ x.value ∨ 2 ^ 32 ∣ x.value then x.value else x.value + 2 ^ 32 := by
  have hlt : x.value.natAbs < 2 ^ 128 := by
    have := hrange.1
    have := hrange.2
    omega
  conv_lhs => rw [← h.ofBytes_eq hlt]
  exact BigInteger.toInt64_ofBytes hrange.1 hrange.2

end Signed

/-- The bytes of a number, from the lowest one on. -/
lemma toNat_numericVal {n size : ℕ} (hsize : size ≤ 16) (hlt : n < 256 ^ size) :
    LittleEndian.toNat (numericVal (LittleEndian.ofNat size n).reverse) = n := by
  have htake : (LittleEndian.ofNat size n ++ List.replicate 16 0).take 16 =
      LittleEndian.ofNat size n ++ List.replicate (16 - size) 0 := by
    rw [List.take_append, List.take_of_length_le (by simpa using hsize), List.take_replicate,
      LittleEndian.length_ofNat, Nat.min_eq_left (Nat.sub_le _ _)]
  have hzeros : LittleEndian.toNat (List.replicate (16 - size) 0) = 0 := by
    rw [LittleEndian.toNat, List.map_replicate, UInt8.toNat_zero, Nat.ofDigits_replicate_zero]
  rw [numericVal, List.reverse_reverse, htake, LittleEndian.toNat_append, hzeros, Nat.mul_zero,
    Nat.add_zero, LittleEndian.toNat_ofNat, Nat.mod_eq_of_lt hlt]

/-! ## The integer that is left -/

section Scaled

variable {d : Decimal} (h : d.WellFormed)

include h

/-- Under the condition the scaled decimal is the integer that is left, which `ToInt64` reads too. -/
lemma exists_scaled (hzero : d.scale = 0 → d.magnitude.mag = [] ∧ d.magnitude.sign = 1)
    (hquotient : 0 < d.scale → BigInteger.QuotientCondition d.magnitude (tenPower d.scale.toNat))
    (hproduct : d.scale < 0 → -2 ^ 31 < d.scale ∧ (d.magnitude.mag = [] → d.magnitude.sign = 1)) :
    ∃ x, d.setScale 0 zero = some ⟨0, x⟩ ∧ Signed x ∧ x.value = d.trunc ∧
      d.toInt64 = some x.toInt64 := by
  have hten (n : ℕ) := tenPower_spec n
  rcases lt_trichotomy d.scale 0 with hneg | hnull | hpos
  · obtain ⟨hlow, hsign⟩ := hproduct hneg
    have hscaled := setScale_of_neg hlow hneg
    obtain ⟨hwell, hmag⟩ := BigInteger.multiply_spec h.magnitude (hten (-d.scale).toNat).1
    have hsame : (d.magnitude.multiply (tenPower (-d.scale).toNat)).sign = d.magnitude.sign :=
      Int.mul_one _
    refine ⟨_, hscaled, ⟨hwell, fun hempty => ?_⟩, ?_, ?_⟩
    · rw [hsame]
      refine hsign ?_
      have hproductzero : d.magnitude.magnitude * (tenPower (-d.scale).toNat).magnitude = 0 := by
        rw [← hmag, BigInteger.magnitude, hempty, Nat.ofDigits_nil]
      rw [(hten _).2] at hproductzero
      have hmagzero := (Nat.mul_eq_zero.mp hproductzero).resolve_right
        (Nat.pow_pos (by decide)).ne'
      exact (h.magnitude.canonical.ofDigits_eq_zero_iff (by decide)).mp hmagzero
    · rw [trunc_of_nonpos hneg.le, BigInteger.value, hsame, hmag, (hten _).2, BigInteger.value,
        Int.natCast_mul, Int.mul_assoc]
    · rw [toInt64, if_neg hneg.ne, hscaled, Option.map_some]
  · obtain ⟨hempty, hsign⟩ := hzero hnull
    have hmagnitude : d.magnitude = BigInteger.ofInt64 0 := by
      rw [show d.magnitude = ⟨d.magnitude.sign, d.magnitude.mag⟩ from rfl, hempty, hsign]
      rfl
    refine ⟨BigInteger.ofInt64 0, by rw [setScale, if_pos hnull]; rfl,
      ⟨(BigInteger.ofInt64_spec (by decide)).1, fun _ => rfl⟩, ?_, ?_⟩
    · rw [trunc_of_nonpos hnull.le, hmagnitude, (BigInteger.ofInt64_spec (by decide)).2,
        Int.zero_mul]
    · rw [toInt64, if_pos hnull, hmagnitude]
  · obtain ⟨q, r, hrun, hwell, -, hvalue, -⟩ := BigInteger.divideValues_eq_some h.magnitude
      (hten d.scale.toNat).1 (tenPower_mag_ne _) (hquotient hpos)
    have hscaled : d.setScale 0 zero = some ⟨0, q⟩ := by
      rw [setScale_of_pos h hpos, hrun, Option.map_some]
    refine ⟨q, hscaled, ⟨hwell, BigInteger.sign_of_divideValues h.magnitude (hten _).1 (tenPower_mag_ne _)
      (hquotient hpos) hrun⟩, ?_, ?_⟩
    · rw [hvalue, trunc_of_pos hpos, tenPower_value]
    · rw [toInt64, if_neg hpos.ne', hscaled, Option.map_some]

end Scaled

section Put

variable {P : ColumnPlatform} {toDouble : Decimal → Floating} {d : Decimal} {b : ApplicationDataBuffer}

/-- The numeric of a scaled decimal. -/
lemma putDecimal_numeric (htype : b.type = .aiNumeric) {x : BigInteger}
    (hscaled : d.setScale 0 zero = some ⟨0, x⟩) (h : Signed x) (hlt : x.value.natAbs < 2 ^ 128) :
    putDecimal P.toPlatform toDouble d b =
      b.putStruct .aiSuccess (numericOf x.value) sizeOfNumericStruct := by
  rw [h.well.natAbs_value] at hlt
  obtain ⟨size, hsize, hbytes, hbound⟩ := BigInteger.magnitudeToBytes_eq_some h.well hlt
  have hprecision := BigInteger.getPrecision_eq h.well hlt
  have hdigits : (Nat.toDigits 10 x.magnitude).length ≤ 39 :=
    (Nat.length_toDigits_le_iff (by decide) (by decide)).mpr (hlt.trans (by decide))
  have hshort : ¬ 16 < (LittleEndian.ofNat size x.magnitude).reverse.length := by
    rw [List.length_reverse, LittleEndian.length_ofNat]
    omega
  have hsign : (if x.sign < 0 then 0 else 1 : ℕ) = if x.value < 0 then 0 else 1 := by
    rw [h.sign_eq]
    split <;> rfl
  unfold putDecimal
  simp only [htype, hscaled, Option.bind_some, hbytes, hprecision, hshort, if_false,
    toNat_numericVal hsize hbound, hsign,
    Nat.mod_eq_of_lt (show (Nat.toDigits 10 x.magnitude).length < 2 ^ 8 by omega)]
  rw [numericOf, h.well.natAbs_value]

/-- The decimal of a rowset element says what the conversions use of a decimal. -/
structure Summarises (toDouble : Decimal → Floating) (d : Decimal) (x : BigInteger)
    (value : TimestreamOdbc.Decimal) : Prop where
  toInt64 : d.toInt64 = some value.toInt64
  toDouble : toDouble d = value.toDouble
  printed : d.write = some value.printed
  precision : value.precision = (Nat.toDigits 10 x.magnitude).length
  sign : value.sign = if x.value < 0 then 0 else 1
  magnitude : value.magnitude = x.magnitude

/-- With it `PutDecimal` is that of the rowset elements. -/
lemma putDecimal_eq_of_summarises {x : BigInteger} (hscaled : d.setScale 0 zero = some ⟨0, x⟩)
    (h : Signed x) (hlt : x.value.natAbs < 2 ^ 128) {value : TimestreamOdbc.Decimal}
    (hvalue : Summarises toDouble d x value) :
    putDecimal P.toPlatform toDouble d b = b.putDecimal P.toPlatform value := by
  have hmag : value.magnitude < 256 ^ 16 := by
    rw [hvalue.magnitude, ← h.well.natAbs_value]
    exact hlt.trans_le (by norm_num)
  cases htype : b.type with
  | aiNumeric =>
    rw [putDecimal_numeric htype hscaled h hlt]
    unfold ApplicationDataBuffer.putDecimal
    simp only [htype, hmag.not_ge, if_false, Nat.mod_eq_of_lt hmag]
    rw [numericOf, hvalue.precision, hvalue.sign, hvalue.magnitude, h.well.natAbs_value]
  | _ =>
    unfold putDecimal ApplicationDataBuffer.putDecimal
    simp only [htype, hvalue.toInt64, hvalue.toDouble, hvalue.printed, Option.bind_some]

/-- What a numeric tells about the scaled decimal. -/
lemma scaled_of_putDecimal (htype : b.type = .aiNumeric) {put : Put}
    (hput : putDecimal P.toPlatform toDouble d b = some put) (hresult : put.result = .aiSuccess)
    {n : ℤ} (hstored : put.stored = some (numericOf n)) :
    ∃ z bytes, d.setScale 0 zero = some z ∧ z.magnitude.magnitudeToBytes = some bytes ∧
      bytes.length ≤ 16 ∧ LittleEndian.toNat (numericVal bytes) = n.natAbs ∧
      (z.magnitude.sign < 0 ↔ n < 0) := by
  unfold putDecimal at hput
  simp only [htype, Option.bind_eq_some_iff] at hput
  obtain ⟨z, hscaled, bytes, hbytes, precision, -, hput⟩ := hput
  rw [ApplicationDataBuffer.putStruct] at hput
  split at hput
  · cases hput
    obtain ⟨-, -, hsign, hval⟩ := Stored.numeric.inj (Option.some.inj hstored)
    refine ⟨z, bytes, hscaled, hbytes, ?_, hval, ?_⟩
    · by_contra hlong
      simp only [if_pos (not_le.mp hlong)] at hresult
      cases hresult
    · split at hsign <;> split at hsign <;> omega
  · cases hput

/-- The numeric of a scaled decimal is read back. -/
lemma numericAgrees_of_scaled (htype : b.type = .aiNumeric) (hbuffer : b.buffer = true)
    {x : BigInteger} (hscaled : d.setScale 0 zero = some ⟨0, x⟩) (h : Signed x)
    (hvalue : x.value = d.trunc) (hlt : d.trunc.natAbs < 2 ^ 128)
    (hwords : d.trunc ∈ int64Range → -2 ^ 32 ≤ d.trunc ∨ 2 ^ 32 ∣ d.trunc) (memory : Memory) :
    NumericAgrees P toDouble d b memory := by
  rw [← hvalue] at hlt hwords
  have hput : putDecimal P.toPlatform toDouble d b = some ⟨.aiSuccess, some (numericOf x.value),
      b.resLen sizeOfNumericStruct, b.cellOffset⟩ := by
    rw [putDecimal_numeric htype hscaled h hlt, ApplicationDataBuffer.putStruct, if_pos hbuffer]
  obtain ⟨after, hstore, hdata, -⟩ := @read_store_numeric P b memory htype ⟨.aiSuccess,
    some (numericOf x.value), b.resLen sizeOfNumericStruct, b.cellOffset⟩ _ _ _ rfl
  have hget : getDecimal P after b = some ⟨0, x⟩ := by
    have hscale : (Nat.toUInt8 0).toNat = 0 := rfl
    have hsign : (if (if x.value < 0 then 0 else 1 : ℕ).toUInt8 ≠ 0 then (1 : ℤ) else -1) =
        if x.value < 0 then -1 else 1 := by
      split <;> split <;> simp_all
    unfold getDecimal
    rw [hdata]
    simp only [htype, hbuffer, Bool.not_true, Bool.false_eq_true, if_false, List.getD_cons_succ,
      List.getD_cons_zero, hscale, List.drop_succ_cons, List.drop_zero, hsign, h.ofBytes_eq hlt]
    rfl
  refine ⟨_, after, x, hput, rfl, by rw [hvalue], hstore, hget, h.well, hvalue, fun hrange => ?_⟩
  rw [← hvalue] at hrange ⊢
  rw [getInt64_of_read_numeric htype hbuffer hdata, h.ofBytes_eq hlt, h.toInt64_eq hrange,
    if_pos (hwords hrange)]

end Put

/-! ## When the conversions agree -/

section Agrees

variable {P : ColumnPlatform} {toDouble : Decimal → Floating} {d : Decimal}

/-- The condition is enough. -/
lemma agrees_of_condition (h : d.WellFormed) (hlt : d.trunc.natAbs < 2 ^ 128)
    (hcondition : AgreesCondition d) : Agrees P toDouble d := by
  obtain ⟨x, hscaled, hsigned, hvalue, hint⟩ := exists_scaled h hcondition.zero_of_scale
    hcondition.quotient hcondition.product
  have hint64 (hrange : d.trunc ∈ int64Range) : d.toInt64 = some d.trunc := by
    rw [hint, hsigned.toInt64_eq (hvalue ▸ hrange), hvalue, if_pos (hcondition.words hrange)]
  refine ⟨fun b htype hbuffer memory => numericAgrees_of_scaled htype hbuffer hscaled hsigned hvalue
    hlt hcondition.words memory, hint64, fun hrange b htype hbuffer => ?_⟩
  have hholds : b.type.Holds d.trunc := by
    rw [htype]
    exact hrange
  obtain ⟨put, hput, -, hread⟩ := readBack_putNum (b := b) (.inr (by rw [htype]; rfl)) hbuffer
    P.toPlatform 8 d.trunc
  rw [narrowed_of_holds hholds] at hread
  refine ⟨{ put with result := .aiFractionalTruncated }, ?_, hread⟩
  unfold putDecimal
  simp only [htype, hint64 hrange, Option.bind_some, hput, Option.map_some]

/-- The condition is needed. -/
lemma condition_of_agrees (h : d.WellFormed) (hagrees : Agrees P toDouble d) : AgreesCondition d := by
  obtain ⟨put, -, -, hput, hresult, hstored, -⟩ :=
    hagrees.numeric ⟨.aiNumeric, true, 0, false, 0, 0, 0⟩ rfl rfl fun _ => 0
  obtain ⟨z, bytes, hscaled, hbytes, hshort, hval, hsign⟩ :=
    scaled_of_putDecimal rfl hput hresult hstored
  have hzero : d.scale = 0 → d.magnitude.mag = [] ∧ d.magnitude.sign = 1 := by
    intro hnull
    rw [setScale, if_pos hnull] at hscaled
    cases hscaled
    cases hbytes
    have htrunc : d.trunc = 0 := Int.natAbs_eq_zero.mp hval.symm
    have hempty : d.magnitude.mag = [] := by
      rw [trunc_of_nonpos hnull.le, hnull] at htrunc
      have hvalue : d.magnitude.value = 0 := by simpa using htrunc
      rw [← h.magnitude.canonical.ofDigits_eq_zero_iff (by decide)]
      change d.magnitude.magnitude = 0
      rw [← h.magnitude.natAbs_value, hvalue]
      rfl
    refine ⟨hempty, ?_⟩
    have hint := hagrees.toInt64 (by rw [htrunc]; exact ⟨by decide, by decide⟩)
    rw [toInt64, if_pos hnull, htrunc] at hint
    refine h.magnitude.sign.resolve_right fun hnegative => ?_
    rw [show d.magnitude = ⟨d.magnitude.sign, d.magnitude.mag⟩ from rfl, hempty, hnegative] at hint
    exact absurd hint (by decide)
  have hproduct : d.scale < 0 → -2 ^ 31 < d.scale ∧
      (d.magnitude.mag = [] → d.magnitude.sign = 1) := by
    intro hneg
    have hlow : -2 ^ 31 < d.scale := by
      refine lt_of_le_of_ne h.le_scale fun heq => ?_
      rw [setScale_of_eq heq.symm] at hscaled
      cases hscaled
    refine ⟨hlow, fun hempty => ?_⟩
    rw [setScale_of_neg hlow hneg] at hscaled
    cases hscaled
    have htrunc : d.trunc = 0 := by
      rw [trunc_of_nonpos hneg.le, BigInteger.value, BigInteger.magnitude, hempty, Nat.ofDigits_nil,
        Int.natCast_zero, Int.mul_zero, Int.zero_mul]
    rw [htrunc] at hsign
    have hsame : (d.magnitude.multiply (tenPower (-d.scale).toNat)).sign = d.magnitude.sign :=
      Int.mul_one _
    simp only [hsame, lt_irrefl, iff_false, not_lt] at hsign
    exact h.magnitude.sign.resolve_right fun hnegative => by omega
  have hquotient : 0 < d.scale →
      BigInteger.QuotientCondition d.magnitude (tenPower d.scale.toNat) := by
    intro hpos
    by_contra hnot
    obtain ⟨htenwell, htenmag⟩ := tenPower_spec d.scale.toNat
    rw [setScale_of_pos h hpos] at hscaled
    obtain ⟨⟨q, r⟩, hrun, rfl⟩ := Option.map_eq_some_iff.mp hscaled
    have hwell := BigInteger.wellFormed_of_divideValues h.magnitude htenwell (tenPower_mag_ne _) hrun
    have hwrong := BigInteger.value_ne_of_divideValues h.magnitude htenwell (tenPower_mag_ne _) hnot
      hrun
    rw [tenPower_value, ← trunc_of_pos hpos] at hwrong
    rcases BigInteger.eq_of_magnitudeToBytes hwell hbytes with rfl | ⟨n, rfl, hbound⟩
    · -- the integer that is left is 0, and then the power of ten is the larger one
      have htrunc : d.trunc = 0 := Int.natAbs_eq_zero.mp hval.symm
      rw [trunc_of_pos hpos, ← tenPower_value, h.magnitude.tdiv_eq htenwell] at htrunc
      have hdiv : d.magnitude.magnitude / (tenPower d.scale.toNat).magnitude = 0 := by
        rcases h.magnitude.sign_mul htenwell with hs | hs <;> rw [hs] at htrunc <;> omega
      have hsmaller := (Nat.div_eq_zero_iff.mp hdiv).resolve_left
        (htenwell.magnitude_pos (tenPower_mag_ne _)).ne'
      exact hnot (.inl hsmaller.le)
    · rw [List.length_reverse, LittleEndian.length_ofNat] at hshort
      rw [toNat_numericVal hshort hbound] at hval
      refine hwrong ?_
      rw [BigInteger.value]
      rcases hwell.sign with hs | hs <;> rw [hs] at hsign ⊢ <;> omega
  obtain ⟨x, -, hsigned, hvalue, hint⟩ := exists_scaled h hzero hquotient hproduct
  refine ⟨hzero, hquotient, hproduct, fun hrange => ?_⟩
  have hsame := hagrees.toInt64 hrange
  rw [hint, hsigned.toInt64_eq (hvalue ▸ hrange), hvalue] at hsame
  by_contra hnot
  rw [if_neg hnot] at hsame
  have := Option.some.inj hsame
  omega

end Agrees

/-- For a decimal whose integer has 128 bits, the conversions agree exactly when the condition holds. -/
theorem decimal_agrees_iff (P : ColumnPlatform) (toDouble : Decimal → Floating) {d : Decimal}
    (h : d.WellFormed) (hlt : d.trunc.natAbs < 2 ^ 128) :
    Agrees P toDouble d ↔ AgreesCondition d :=
  ⟨condition_of_agrees h, agrees_of_condition h hlt⟩

/-- A conversion to a `double` of 0. -/
def sampleToDouble : Decimal → Floating := fun _ =>
  ⟨['0'], 0, false, ['0'], List.replicate 8 0, rfl⟩

/-- -123.45 is put as -123. -/
theorem decimal_agrees_minusOneTwoThree :
    Agrees sampleColumnPlatform sampleToDouble ⟨2, ⟨-1, [12345]⟩⟩ := by
  have htrunc : (⟨2, ⟨-1, [12345]⟩⟩ : Decimal).trunc = -123 := by
    rw [trunc_of_pos (by decide)]
    decide
  have hwell : (⟨-1, [12345]⟩ : BigInteger).WellFormed := ⟨.inr rfl, by decide, by decide⟩
  refine (decimal_agrees_iff sampleColumnPlatform sampleToDouble ⟨hwell, by decide, by decide⟩
    (by rw [htrunc]; decide)).mpr ⟨by decide, fun _ => ?_, fun hneg => ?_, fun _ => ?_⟩
  · exact .inr (.inr ⟨by decide +kernel, .inl (by decide)⟩)
  · exact absurd hneg (by decide)
  · rw [htrunc]
    decide

/-- The integer 5 without a scale is put as 0. -/
theorem not_decimal_agrees_five :
    ¬ Agrees sampleColumnPlatform sampleToDouble ⟨0, ⟨1, [5]⟩⟩ := by
  intro hagrees
  have hwell : (⟨1, [5]⟩ : BigInteger).WellFormed := ⟨.inl rfl, by decide, by decide⟩
  have hcondition := condition_of_agrees ⟨hwell, by decide, by decide⟩ hagrees
  exact absurd (hcondition.zero_of_scale rfl).1 (by decide)

end Decimal

end TimestreamOdbc.Ignite
