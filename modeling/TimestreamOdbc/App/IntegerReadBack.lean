import TimestreamOdbc.App.IntegerConversions
import TimestreamOdbc.App.RowsetElements
import TimestreamOdbc.Lib.Memory

/-!
# Round trips of integers

`PutInt64` writes an element of a buffer with the types of ODBC, and `GetInt64` reads it with those of
C.  A C `long` has 8 bytes on an LP64 platform, where it is read together with what is behind the
element.  From `SQL_NUMERIC_STRUCT` the integer goes through a `BigInteger` of 32-bit words, each of
which gets the sign of its own.
-/

namespace TimestreamOdbc

/-! ## Memory -/

/-- The bytes of the objects that `PutInt64` stores for the integer types, on a platform with the
lowest byte first; nothing for the other objects. -/
def Stored.bytes : Stored → Option (List UInt8)
  | .scalar size bits => some (LittleEndian.ofNat size bits)
  | .numeric precision scale sign val =>
    some (precision.toUInt8 :: scale.toUInt8 :: sign.toUInt8 :: LittleEndian.ofNat 16 val)
  | _ => none

/-- The memory, from the pointer that was bound on, after a conversion stored one of these objects. -/
def ApplicationDataBuffer.store (memory : Memory) (put : Put) (b : ApplicationDataBuffer) :
    Option Memory :=
  match put.stored with
  | none => some memory
  | some stored => stored.bytes.map (memory.write (b.applyOffset b.getElementSize))

/-! ## Numerics -/

/-- `BigInteger`: the words of the magnitude, the lowest one first. -/
structure BigInteger where
  sign : ℤ
  mag : List ℕ
  deriving DecidableEq, Repr

namespace BigInteger

/-- The constructor from bytes with the lowest one first. -/
def ofBytes (val : List UInt8) (sign : ℤ) : BigInteger :=
  let significant := val.rdropWhile (· = 0)
  if significant = [] then ⟨1, []⟩
  else ⟨sign, LittleEndian.words significant⟩

/-- `GetMagInt`: the sign is multiplied with the word as `uint32_t`. -/
def getMagInt (value : BigInteger) (n : ℕ) : ℕ :=
  match value.mag[n]? with
  | none => if 0 < value.sign then 0 else 2 ^ 32 - 1
  | some word => (value.sign * word % 2 ^ 32).toNat

/-- `ToInt64`. -/
def toInt64 (value : BigInteger) : ℤ :=
  ((value.getMagInt 1 <<< 32 ||| value.getMagInt 0 : ℕ) : ℤ).bmod (2 ^ 64)

end BigInteger

/-! ## Reading -/

/-- The size of the object that `GetNum` reads. -/
def OdbcNativeType.readSize (P : ColumnPlatform) : OdbcNativeType → ℕ
  | .aiSignedTinyint | .aiBit | .aiUnsignedTinyint => 1
  | .aiSignedShort | .aiUnsignedShort => 2
  | .aiSignedLong | .aiUnsignedLong => P.longSize
  | .aiSignedBigint | .aiUnsignedBigint => 8
  | .aiNumeric => sizeOfNumericStruct
  | _ => 0

namespace ApplicationDataBuffer

/-- `GetInt64` of a buffer of integers; nothing when it dies of a null pointer. The scale of a numeric
is 0 for every integer that was put, and a division by the power of ten for another one is left out. -/
def getInt64 (P : ColumnPlatform) (memory : Memory) (b : ApplicationDataBuffer) : Option ℤ :=
  let data := memory.read (b.applyOffset b.getElementSize) (b.type.readSize P)
  let number : ℤ := LittleEndian.toNat data
  if !b.buffer then none
  else
    match b.type with
    | .aiSignedTinyint => some (number.bmod (2 ^ 8))
    | .aiBit | .aiUnsignedTinyint => some number
    | .aiSignedShort => some (number.bmod (2 ^ 16))
    | .aiUnsignedShort => some number
    | .aiSignedLong => some (number.bmod (2 ^ (8 * P.longSize)))
    | .aiUnsignedLong => some (number.bmod (2 ^ 64))
    | .aiSignedBigint | .aiUnsignedBigint => some (number.bmod (2 ^ 64))
    | .aiNumeric =>
      if data.getD 1 0 = 0 then
        some (BigInteger.ofBytes (data.drop 3) (if data.getD 2 0 ≠ 0 then 1 else -1)).toInt64
      else none
    | _ => none

/-- The bytes of an element. -/
def element (b : ApplicationDataBuffer) : Set ℕ :=
  Set.Ico (b.applyOffset b.getElementSize) (b.applyOffset b.getElementSize + b.getElementSize)

/-- The bytes that `GetInt64` reads. -/
def readData (P : ColumnPlatform) (b : ApplicationDataBuffer) : Set ℕ :=
  Set.Ico (b.applyOffset b.getElementSize) (b.applyOffset b.getElementSize + b.type.readSize P)

/-- It depends on no others. -/
lemma getInt64_congr {P : ColumnPlatform} {memory memory' : Memory} {b : ApplicationDataBuffer}
    (h : ∀ a ∈ b.readData P, memory a = memory' a) : b.getInt64 P memory = b.getInt64 P memory' := by
  have hdata := Memory.read_congr h
  unfold getInt64
  rw [hdata]

end ApplicationDataBuffer

/-! ## What is claimed of them -/

/-- The values of an `int64_t` that the C type of a target has, all of them for a numeric. -/
def OdbcNativeType.Represents (type : OdbcNativeType) (value : ℤ) : Prop :=
  -2 ^ 63 ≤ value ∧ value < 2 ^ 63 ∧
    match type.intLayout with
    | some (width, true) => -2 ^ (8 * width - 1) ≤ value ∧ value < 2 ^ (8 * width - 1)
    | some (width, false) => 0 ≤ value ∧ value < 2 ^ (8 * width)
    | none => type = .aiNumeric

/-- An integer that is put is read back, and neither conversion leaves the element. -/
def ReadsBack (P : ColumnPlatform) (b : ApplicationDataBuffer) (value : ℤ) (memory : Memory) : Prop :=
  ∃ put after, b.putNum P.toPlatform 8 value = some put ∧ b.store memory put = some after ∧
    b.getInt64 P after = some value ∧ (∀ a ∉ b.element, after a = memory a) ∧
    b.readData P ⊆ b.element

/-- The condition for an integer: a `long` of the type has 4 bytes, and a negative numeric has one
word or a lowest word that is 0. -/
def ReadsBackWhen (P : ColumnPlatform) (type : OdbcNativeType) (value : ℤ) : Prop :=
  match type with
  | .aiSignedLong | .aiUnsignedLong => P.longSize = 4
  | .aiNumeric => -2 ^ 32 ≤ value ∨ 2 ^ 32 ∣ value
  | _ => True

/-! ## The words of a numeric -/

namespace BigInteger

/-- A magnitude of 128 bits that is not 0 becomes the words of it. -/
lemma ofBytes_ofNat {n : ℕ} (hn : n < 2 ^ 128) (sign : ℤ) :
    ofBytes (LittleEndian.ofNat 16 n) sign =
      if n = 0 then ⟨1, []⟩ else ⟨sign, Nat.digits (2 ^ 32) n⟩ := by
  have hnumber : LittleEndian.toNat (LittleEndian.ofNat 16 n) = n := by
    rw [LittleEndian.toNat_ofNat]
    exact Nat.mod_eq_of_lt (hn.trans_le (by norm_num))
  have hwords := LittleEndian.words_rdropWhile (LittleEndian.ofNat 16 n)
  rw [hnumber] at hwords
  have hempty : (LittleEndian.ofNat 16 n).rdropWhile (· = 0) = [] ↔ n = 0 := by
    constructor
    · intro hnil
      rw [← hnumber, ← LittleEndian.toNat_rdropWhile, hnil]
      rfl
    · rintro rfl
      by_contra hne
      exact LittleEndian.words_ne_nil hne hwords
  simp only [ofBytes, hempty, hwords]

/-- The two words as one number. -/
lemma toInt64_eq {value : BigInteger} (h : value.getMagInt 0 < 2 ^ 32) :
    value.toInt64 =
      ((value.getMagInt 1 * 2 ^ 32 + value.getMagInt 0 : ℕ) : ℤ).bmod (2 ^ 64) := by
  have hsum : value.getMagInt 1 <<< 32 ||| value.getMagInt 0 =
      value.getMagInt 1 * 2 ^ 32 + value.getMagInt 0 := by
    have hadd := Nat.shiftLeft_add_eq_or_of_lt h (value.getMagInt 1)
    rw [Nat.shiftLeft_eq] at hadd
    rw [Nat.shiftLeft_eq]
    exact hadd.symm
  unfold toInt64
  rw [hsum]

/-- The lowest word with the sign is the integer modulo the size of a word. -/
lemma getMagInt_zero (value : ℤ) (rest : List ℕ) :
    (getMagInt ⟨if value < 0 then -1 else 1, value.natAbs % 2 ^ 32 :: rest⟩ 0 : ℤ) =
      value % 2 ^ 32 := by
  simp only [getMagInt, List.getElem?_cons_zero]
  split <;> omega

/-- The two words of an integer, the second one with a carry. -/
lemma bmod_words {low high : ℕ} {value carry : ℤ} (hlow : (low : ℤ) = value % 2 ^ 32)
    (hhigh : (high : ℤ) = (value / 2 ^ 32 + carry) % 2 ^ 32)
    (hsum : -2 ^ 63 ≤ value + carry * 2 ^ 32 ∧ value + carry * 2 ^ 32 < 2 ^ 63) :
    ((high * 2 ^ 32 + low : ℕ) : ℤ).bmod (2 ^ 64) = value + carry * 2 ^ 32 := by
  rw [Int.bmod_def]
  push_cast
  split <;> omega

/-- An integer comes back from its magnitude and sign, or is too large by the value of the second
word. -/
lemma toInt64_ofBytes {value : ℤ} (hlow : -2 ^ 63 ≤ value) (hhigh : value < 2 ^ 63) :
    (ofBytes (LittleEndian.ofNat 16 value.natAbs) (if value < 0 then -1 else 1)).toInt64 =
      if -2 ^ 32 ≤ value ∨ 2 ^ 32 ∣ value then value else value + 2 ^ 32 := by
  rw [ofBytes_ofNat (by omega)]
  rcases Nat.eq_zero_or_pos value.natAbs with hzero | hpos
  · obtain rfl := Int.natAbs_eq_zero.mp hzero
    decide
  have hne : value.natAbs ≠ 0 := hpos.ne'
  rw [if_neg hne]
  rcases Nat.lt_or_ge value.natAbs (2 ^ 32) with hlt | hge
  · -- one word
    have hlowest := getMagInt_zero value []
    rw [Nat.mod_eq_of_lt hlt] at hlowest
    have hhighest : (getMagInt ⟨if value < 0 then -1 else 1, [value.natAbs]⟩ 1 : ℤ) =
        (value / 2 ^ 32 + 0) % 2 ^ 32 := by
      simp only [getMagInt, List.getElem?_cons_succ, List.getElem?_nil]
      rcases Int.lt_or_le value 0 with hneg | hnonneg
      · rw [if_pos hneg, if_neg (by decide)]
        omega
      · rw [if_neg hnonneg.not_gt, if_pos (by decide)]
        omega
    have hcondition : -2 ^ 32 ≤ value ∨ 2 ^ 32 ∣ value := by omega
    rw [Nat.digits_of_lt _ _ hne hlt, toInt64_eq (by omega), if_pos hcondition,
      bmod_words hlowest hhighest (by omega), zero_mul, add_zero]
  · -- two words
    have htwo : value.natAbs / 2 ^ 32 < 2 ^ 32 := by omega
    have hlowest := getMagInt_zero value [value.natAbs / 2 ^ 32]
    have hhighest : (getMagInt ⟨if value < 0 then -1 else 1,
        [value.natAbs % 2 ^ 32, value.natAbs / 2 ^ 32]⟩ 1 : ℤ) =
          (value / 2 ^ 32 + if -2 ^ 32 ≤ value ∨ 2 ^ 32 ∣ value then 0 else 1) % 2 ^ 32 := by
      simp only [getMagInt, List.getElem?_cons_zero, List.getElem?_cons_succ]
      split <;> split <;> omega
    rw [Nat.digits_def' (by norm_num) hpos, Nat.digits_of_lt _ _ (by omega) htwo,
      toInt64_eq (by omega), bmod_words hlowest hhighest (by split <;> omega)]
    split <;> omega

end BigInteger

/-! ## The round trips -/

section RoundTrip

variable {P : ColumnPlatform} {b : ApplicationDataBuffer} {value : ℤ} {memory : Memory} {width : ℕ}
  {signed : Bool}

/-- An integer type is put as the object of its size. -/
lemma putNum_of_intLayout (hlayout : b.type.intLayout = some (width, signed)) (P : Platform)
    (size : ℕ) (value : ℤ) : b.putNum P size value = some (b.putNumToNumBuffer width value) := by
  unfold ApplicationDataBuffer.putNum
  generalize b.type = type at hlayout
  cases type <;> simp [OdbcNativeType.intLayout] at hlayout <;> rw [hlayout.1]

/-- The size of an element is that of the object. -/
lemma getElementSize_of_intLayout (hlayout : b.type.intLayout = some (width, signed)) :
    b.getElementSize = width := by
  unfold ApplicationDataBuffer.getElementSize
  generalize b.type = type at hlayout
  cases type <;> simp [OdbcNativeType.intLayout] at hlayout <;> exact hlayout.1

/-- What is read where an object of the size of the element is read. -/
lemma getInt64_of_intLayout (hlayout : b.type.intLayout = some (width, signed))
    (hread : b.type.readSize P = width) (hbuffer : b.buffer = true) (memory : Memory) :
    b.getInt64 P memory = some
      (((LittleEndian.toNat (memory.read (b.applyOffset b.getElementSize) width) : ℕ) : ℤ).bmod
        (if signed then 2 ^ (8 * width) else 2 ^ 64)) := by
  have hlt := LittleEndian.toNat_lt (memory.read (b.applyOffset b.getElementSize) width)
  rw [Memory.length_read] at hlt
  have hsmall : ∀ {n : ℕ}, n < 2 ^ 63 → (n : ℤ).bmod (2 ^ 64) = n := by
    intro n hn
    rw [Int.bmod_def]
    split <;> omega
  unfold ApplicationDataBuffer.getInt64
  rw [hread]
  simp only [hbuffer, Bool.not_true, Bool.false_eq_true, if_false]
  generalize LittleEndian.toNat (memory.read (b.applyOffset b.getElementSize) width) = number at hlt
  generalize b.type = type at hlayout hread
  cases type with
  | aiSignedTinyint | aiSignedShort =>
    obtain ⟨rfl, rfl⟩ := Prod.mk.inj (Option.some.inj hlayout)
    rfl
  | aiSignedLong =>
    obtain ⟨rfl, rfl⟩ := Prod.mk.inj (Option.some.inj hlayout)
    have hlong : P.longSize = 4 := hread
    simp only [hlong, if_true]
  | aiUnsignedLong =>
    obtain ⟨rfl, rfl⟩ := Prod.mk.inj (Option.some.inj hlayout)
    rfl
  | aiBit | aiUnsignedTinyint | aiUnsignedShort =>
    obtain ⟨rfl, rfl⟩ := Prod.mk.inj (Option.some.inj hlayout)
    exact congrArg some (hsmall (by omega)).symm
  | aiSignedBigint | aiUnsignedBigint =>
    obtain ⟨rfl, rfl⟩ := Prod.mk.inj (Option.some.inj hlayout)
    rfl
  | _ => exact absurd hlayout (by simp [OdbcNativeType.intLayout])

/-- What is left of a represented integer in the object is the integer. -/
lemma bmod_emod_of_represents (hlayout : b.type.intLayout = some (width, signed))
    (hvalue : b.type.Represents value) :
    (value % 2 ^ (8 * width)).bmod (if signed then 2 ^ (8 * width) else 2 ^ 64) = value := by
  obtain ⟨hlow, hhigh, hrange⟩ := hvalue
  rw [hlayout] at hrange
  generalize b.type = type at hlayout
  cases type with
  | aiSignedTinyint | aiSignedShort | aiSignedLong | aiSignedBigint | aiUnsignedTinyint
  | aiUnsignedShort | aiUnsignedLong | aiUnsignedBigint | aiBit =>
    obtain ⟨rfl, rfl⟩ := Prod.mk.inj (Option.some.inj hlayout)
    dsimp only at hrange
    simp only [if_true, Bool.false_eq_true, if_false, Int.bmod_def]
    split <;> omega
  | _ => exact absurd hlayout (by simp [OdbcNativeType.intLayout])

/-- An integer of a type whose object is read at its size comes back, and nothing else is touched. -/
lemma readsBack_of_intLayout (hlayout : b.type.intLayout = some (width, signed))
    (hread : b.type.readSize P = width) (hbuffer : b.buffer = true)
    (hvalue : b.type.Represents value) : ReadsBack P b value memory := by
  have hsize := getElementSize_of_intLayout hlayout
  let bytes := LittleEndian.ofNat width (value % 2 ^ (8 * width)).toNat
  have hlength : bytes.length = width := LittleEndian.length_ofNat _ _
  refine ⟨_, memory.write (b.applyOffset b.getElementSize) bytes,
    putNum_of_intLayout hlayout P.toPlatform 8 value, ?_, ?_, ?_, ?_⟩
  · simp only [ApplicationDataBuffer.store, ApplicationDataBuffer.putNumToNumBuffer, hbuffer, if_true,
      Stored.bytes, Option.map_some]
    rfl
  · have hdata : (memory.write (b.applyOffset b.getElementSize) bytes).read
        (b.applyOffset b.getElementSize) width = bytes := by
      have := @Memory.read_write memory (b.applyOffset b.getElementSize) bytes
      rwa [hlength] at this
    have hpow : (256 : ℕ) ^ width = 2 ^ (8 * width) := by
      rw [Nat.pow_mul]
    have hnonneg : 0 ≤ value % 2 ^ (8 * width) := Int.emod_nonneg _ (by positivity)
    have hlt : (value % 2 ^ (8 * width)).toNat < 2 ^ (8 * width) := by
      have := Int.emod_lt_of_pos value (show (0 : ℤ) < 2 ^ (8 * width) by positivity)
      zify
      rwa [Int.toNat_of_nonneg hnonneg]
    have hnumber : (LittleEndian.toNat bytes : ℤ) = value % 2 ^ (8 * width) := by
      rw [LittleEndian.toNat_ofNat, hpow, Nat.mod_eq_of_lt hlt, Int.toNat_of_nonneg hnonneg]
    rw [getInt64_of_intLayout hlayout hread hbuffer, hdata, hnumber,
      bmod_emod_of_represents hlayout hvalue]
  · intro a ha
    apply Memory.write_of_notMem
    rwa [hlength, ← hsize]
  · rw [ApplicationDataBuffer.readData, ApplicationDataBuffer.element, hread, hsize]

/-- The object that is read is larger than the element. -/
lemma not_readsBack_of_lt (hlt : b.getElementSize < b.type.readSize P) :
    ¬ ReadsBack P b value memory := by
  rintro ⟨put, after, -, -, -, -, hdata⟩
  have hmem : b.applyOffset b.getElementSize + b.getElementSize ∈ b.readData P :=
    ⟨by omega, by omega⟩
  exact absurd (hdata hmem).2 (Nat.lt_irrefl _)

/-- The bytes of a numeric that was stored. -/
lemma read_store_numeric (htype : b.type = .aiNumeric) {put : Put} {precision sign val : ℕ}
    (hstored : put.stored = some (.numeric precision 0 sign val)) :
    ∃ after, b.store memory put = some after ∧
      after.read (b.applyOffset b.getElementSize) (b.type.readSize P) =
        precision.toUInt8 :: Nat.toUInt8 0 :: sign.toUInt8 :: LittleEndian.ofNat 16 val ∧
      ∀ a ∉ b.element, after a = memory a := by
  let bytes := precision.toUInt8 :: Nat.toUInt8 0 :: sign.toUInt8 :: LittleEndian.ofNat 16 val
  have hlength : bytes.length = sizeOfNumericStruct := by simp [bytes, sizeOfNumericStruct]
  have hsize : b.getElementSize = sizeOfNumericStruct := by
    simp only [ApplicationDataBuffer.getElementSize, htype]
  have hread : b.type.readSize P = sizeOfNumericStruct := by
    simp only [OdbcNativeType.readSize, htype]
  refine ⟨memory.write (b.applyOffset b.getElementSize) bytes, ?_, ?_, fun a ha => ?_⟩
  · rw [ApplicationDataBuffer.store, hstored]
    rfl
  · have := @Memory.read_write memory (b.applyOffset b.getElementSize) bytes
    rwa [hlength, ← hread] at this
  · apply Memory.write_of_notMem
    rwa [hlength, ← hsize]

/-- The integer that `GetInt64` finds in a numeric. -/
lemma getInt64_of_read_numeric (htype : b.type = .aiNumeric) (hbuffer : b.buffer = true)
    {precision : UInt8} (hdata : memory.read (b.applyOffset b.getElementSize) (b.type.readSize P) =
      precision :: Nat.toUInt8 0 :: (if value < 0 then 0 else 1 : ℕ).toUInt8 ::
        LittleEndian.ofNat 16 value.natAbs) :
    b.getInt64 P memory = some (BigInteger.ofBytes (LittleEndian.ofNat 16 value.natAbs)
      (if value < 0 then -1 else 1)).toInt64 := by
  have hsign : (if (if value < 0 then 0 else 1 : ℕ).toUInt8 ≠ 0 then (1 : ℤ) else -1) =
      if value < 0 then -1 else 1 := by
    split <;> split <;> simp_all
  unfold ApplicationDataBuffer.getInt64
  rw [hdata]
  simp only [hbuffer, Bool.not_true, Bool.false_eq_true, if_false, htype]
  rw [← hsign]
  rfl

/-- When a numeric comes back. -/
lemma readsBack_numeric_iff (htype : b.type = .aiNumeric) (hbuffer : b.buffer = true)
    (hlow : -2 ^ 63 ≤ value) (hhigh : value < 2 ^ 63) :
    ReadsBack P b value memory ↔ -2 ^ 32 ≤ value ∨ 2 ^ 32 ∣ value := by
  have hsize : b.getElementSize = sizeOfNumericStruct := by
    simp only [ApplicationDataBuffer.getElementSize, htype]
  have hread : b.type.readSize P = sizeOfNumericStruct := by
    simp only [OdbcNativeType.readSize, htype]
  have hput : b.putNum P.toPlatform 8 value = some ⟨.aiSuccess,
      some (.numeric (digitLength value.natAbs) 0 (if value < 0 then 0 else 1) value.natAbs),
      b.resLen sizeOfNumericStruct, b.cellOffset⟩ := by
    simp only [ApplicationDataBuffer.putNum, htype, hbuffer, if_true]
  obtain ⟨after, hstore, hdata, hframe⟩ := @read_store_numeric P b memory htype ⟨.aiSuccess,
      some (.numeric (digitLength value.natAbs) 0 (if value < 0 then 0 else 1) value.natAbs),
      b.resLen sizeOfNumericStruct, b.cellOffset⟩ _ _ _ rfl
  have hget := getInt64_of_read_numeric htype hbuffer hdata
  rw [BigInteger.toInt64_ofBytes hlow hhigh] at hget
  constructor
  · rintro ⟨put, after', hput', hstore', hget', -⟩
    obtain rfl := Option.some.inj (hput.symm.trans hput')
    obtain rfl := Option.some.inj (hstore.symm.trans hstore')
    have hsame := Option.some.inj (hget.symm.trans hget')
    by_contra hnot
    rw [if_neg hnot] at hsame
    omega
  · intro h
    rw [if_pos h] at hget
    refine ⟨_, after, hput, hstore, hget, hframe, ?_⟩
    rw [ApplicationDataBuffer.readData, ApplicationDataBuffer.element, hread, hsize]

end RoundTrip

/-- An integer that the type of a buffer represents is read back, without a byte of another element
touched, exactly when the condition holds for it. -/
theorem integer_readsBack_iff (P : ColumnPlatform) {b : ApplicationDataBuffer}
    (hbuffer : b.buffer = true) {value : ℤ} (hvalue : b.type.Represents value) (memory : Memory) :
    ReadsBack P b value memory ↔ ReadsBackWhen P b.type value := by
  rcases hlayout : b.type.intLayout with _ | ⟨width, signed⟩
  · have htype : b.type = .aiNumeric := by
      have h := hvalue.2.2
      rwa [hlayout] at h
    rw [readsBack_numeric_iff htype hbuffer hvalue.1 hvalue.2.1, htype]
    exact Iff.rfl
  · by_cases hread : b.type.readSize P = width
    · refine iff_of_true (readsBack_of_intLayout hlayout hread hbuffer hvalue) ?_
      generalize b.type = type at hlayout hread
      cases type with
      | aiSignedLong | aiUnsignedLong =>
        obtain ⟨rfl, -⟩ := Prod.mk.inj (Option.some.inj hlayout)
        exact hread
      | aiNumeric => exact absurd hlayout (by simp [OdbcNativeType.intLayout])
      | _ => trivial
    · -- a `long` of eight bytes
      have hlong : (b.type = .aiSignedLong ∨ b.type = .aiUnsignedLong) ∧ P.longSize ≠ 4 := by
        generalize b.type = type at hlayout hread
        cases type with
        | aiSignedLong | aiUnsignedLong =>
          obtain ⟨rfl, -⟩ := Prod.mk.inj (Option.some.inj hlayout)
          exact ⟨by simp, hread⟩
        | aiSignedTinyint | aiSignedShort | aiSignedBigint | aiUnsignedTinyint | aiUnsignedShort
        | aiUnsignedBigint | aiBit =>
          obtain ⟨rfl, -⟩ := Prod.mk.inj (Option.some.inj hlayout)
          exact absurd rfl hread
        | _ => exact absurd hlayout (by simp [OdbcNativeType.intLayout])
      have height : P.longSize = 8 := P.longSize_eq.resolve_left hlong.2
      have hlt : b.getElementSize < b.type.readSize P := by
        rcases hlong.1 with htype | htype <;>
          simp [ApplicationDataBuffer.getElementSize, OdbcNativeType.readSize, htype, height]
      refine iff_of_false (not_readsBack_of_lt hlt) ?_
      rcases hlong.1 with htype | htype <;> rw [htype] <;> exact hlong.2

/-- A short at the second element. -/
theorem integer_readsBack_short :
    ReadsBack sampleColumnPlatform ⟨.aiSignedShort, true, 0, false, 0, 0, 1⟩ (-2) (fun _ => 255) :=
  (@integer_readsBack_iff sampleColumnPlatform ⟨.aiSignedShort, true, 0, false, 0, 0, 1⟩ rfl (-2)
    ⟨by decide, by decide, by decide, by decide⟩ fun _ => 255).mpr trivial

/-- The version of the environment is put as a number of four bytes and read as a `long`. -/
theorem not_integer_readsBack :
    ¬ ∀ (P : ColumnPlatform) (b : ApplicationDataBuffer), b.buffer = true →
      ∀ value : ℤ, b.type.Represents value → ∀ memory : Memory, ReadsBack P b value memory := by
  intro h
  refine not_readsBack_of_lt ?_ (h sampleColumnPlatform ⟨.aiSignedLong, true, 0, false, 0, 0, 0⟩ rfl 3
    ⟨by decide, by decide, by decide, by decide⟩ fun _ => 255)
  decide

/-- Where a `long` has eight bytes the value itself comes back if and only if the four bytes behind the
element happen to continue its sign. -/
theorem getInt64_signedLong_eq_iff {P : ColumnPlatform} {b : ApplicationDataBuffer} {value : ℤ}
    {memory : Memory} (htype : b.type = .aiSignedLong) (hlong : P.longSize = 8)
    (hbuffer : b.buffer = true) (hvalue : b.type.Represents value) :
    b.getInt64 P (memory.write (b.applyOffset b.getElementSize)
        (LittleEndian.ofNat 4 (value % 2 ^ 32).toNat)) = some value ↔
      LittleEndian.toNat (memory.read (b.applyOffset b.getElementSize + 4) 4) =
        if value < 0 then 2 ^ 32 - 1 else 0 := by
  obtain ⟨-, -, hrange⟩ := hvalue
  rw [htype] at hrange
  obtain ⟨hlow, hhigh⟩ := hrange
  let bytes := LittleEndian.ofNat 4 (value % 2 ^ 32).toNat
  have hlength : bytes.length = 4 := LittleEndian.length_ofNat _ _
  have hlower : (memory.write (b.applyOffset b.getElementSize) bytes).read
      (b.applyOffset b.getElementSize) 4 = bytes := by
    have := @Memory.read_write memory (b.applyOffset b.getElementSize) bytes
    rwa [hlength] at this
  have hupper : (memory.write (b.applyOffset b.getElementSize) bytes).read
      (b.applyOffset b.getElementSize + 4) 4 =
        memory.read (b.applyOffset b.getElementSize + 4) 4 := by
    apply Memory.read_congr
    rintro a ⟨ha, -⟩
    apply Memory.write_of_notMem
    rintro ⟨-, hlt⟩
    omega
  have hnumber : LittleEndian.toNat bytes = (value % 2 ^ 32).toNat := by
    rw [LittleEndian.toNat_ofNat]
    omega
  have hbehind := LittleEndian.toNat_lt (memory.read (b.applyOffset b.getElementSize + 4) 4)
  rw [Memory.length_read] at hbehind
  have hget : b.getInt64 P (memory.write (b.applyOffset b.getElementSize) bytes) =
      some (((LittleEndian.toNat bytes + 256 ^ 4 *
        LittleEndian.toNat (memory.read (b.applyOffset b.getElementSize + 4) 4) : ℕ) : ℤ).bmod
          (2 ^ 64)) := by
    unfold ApplicationDataBuffer.getInt64
    simp only [hbuffer, Bool.not_true, Bool.false_eq_true, if_false, htype,
      OdbcNativeType.readSize, hlong]
    rw [Memory.read_add 4, hlower, hupper, LittleEndian.toNat_append, hlength]
  rw [hget, hnumber, Option.some_inj, Int.bmod_def]
  push_cast
  split <;> split <;> omega

end TimestreamOdbc
