import TimestreamOdbc.App.IntegerReadBack
import TimestreamOdbc.Lib.LongDivision
import Mathlib.Logic.Function.Basic

/-!
# Big integers

The functions of `big_integer.cpp` that division needs.  A magnitude is the list of its words, the
lowest one first; a word is a number below `2 ^ 32`, and what the source computes in 32 or 64 bits is
taken modulo the size of the type wherever that can matter.  The lengths of magnitudes are not bounded.

A read outside of a magnitude gives nothing.  Indices are integers, for some of them are negative.
-/

namespace TimestreamOdbc

/-! ## Bits -/

/-- One step of `NumberOfLeadingZerosU32`: when the highest `bits` bits are 0, they are counted and
shifted out. -/
def skipZeros (bits : ℕ) (s : ℕ × ℕ) : ℕ × ℕ :=
  if s.2 >>> (32 - bits) = 0 then (s.1 + bits, s.2 <<< bits) else s

/-- `bits::NumberOfLeadingZerosU32`. -/
def numberOfLeadingZerosU32 (i : ℕ) : ℕ :=
  if i = 0 then 32
  else
    let s := skipZeros 2 (skipZeros 4 (skipZeros 8 (skipZeros 16 (1, i))))
    s.1 - s.2 >>> 31

/-- `bits::BitLengthU32`. -/
def bitLengthU32 (i : ℕ) : ℕ := 32 - numberOfLeadingZerosU32 i

/-- `bits::MakeU64`. -/
def makeU64 (higher lower : ℕ) : ℕ := higher <<< 32 ||| lower

namespace BigInteger

/-- The magnitude as a number. -/
def magnitude (x : BigInteger) : ℕ := Nat.ofDigits (2 ^ 32) x.mag

/-- The integer. -/
def value (x : BigInteger) : ℤ := x.sign * x.magnitude

/-- A big integer of the sign 1 or -1 whose words have 32 bits and whose highest word is not 0. -/
structure WellFormed (x : BigInteger) : Prop where
  sign : x.sign = 1 ∨ x.sign = -1
  canonical : LongDivision.Canonical (2 ^ 32) x.mag

/-! ## Words -/

/-- The word at an index. -/
def wordAt (mag : List ℕ) (index : ℤ) : Option ℕ :=
  if 0 ≤ index then mag[index.toNat]? else none

/-- `AssignUint64`. -/
def ofUint64 (val : ℕ) : BigInteger :=
  if val = 0 then ⟨1, []⟩
  else if val >>> 32 = 0 then ⟨1, [val % 2 ^ 32]⟩
  else ⟨1, [val % 2 ^ 32, val >>> 32]⟩

/-- `AssignInt64`. -/
def ofInt64 (val : ℤ) : BigInteger :=
  if val < 0 then { ofUint64 val.natAbs with sign := -1 } else ofUint64 val.natAbs

/-- `Normalize`: the zeros at the end are taken off. -/
def normalize (mag : List ℕ) : List ℕ := mag.rdropWhile (· = 0)

/-- `GetBitLength`, in a variable of 32 bits. -/
def getBitLength (x : BigInteger) : ℕ :=
  match x.mag.getLast? with
  | none => 0
  | some last => (bitLengthU32 last + (x.mag.length - 1) * 32) % 2 ^ 32

/-- The loop of `Compare` over two magnitudes of one size, from the highest word on. -/
def compareWords : List ℕ → List ℕ → ℤ
  | w :: ws, w' :: ws' => if w = w' then compareWords ws ws' else if w' < w then 1 else -1
  | _, _ => 0

/-- `Compare` with the signs ignored. -/
def compareMagnitude (mag mag' : List ℕ) : ℤ :=
  if mag.length ≠ mag'.length then (if mag'.length < mag.length then 1 else -1)
  else compareWords mag.reverse mag'.reverse

/-- The words of `ShiftLeft` behind a word. -/
def shiftLeftWords (n : ℕ) : ℕ → List ℕ → List ℕ
  | _, [] => []
  | previous, w :: ws =>
    ((w <<< n) % 2 ^ 32 ||| previous >>> (32 - n)) :: shiftLeftWords n w ws

/-- `ShiftLeft`: the bits that are shifted out of the highest word are lost. -/
def shiftLeft (n : ℕ) (words : List ℕ) : List ℕ :=
  if n = 0 then words else shiftLeftWords n 0 words

/-- The words of `ShiftRight`. -/
def shiftRightWords (n : ℕ) : List ℕ → List ℕ
  | [] => []
  | [w] => [w >>> n]
  | w :: next :: ws =>
    (w >>> n ||| (next <<< (32 - n)) % 2 ^ 32) :: shiftRightWords n (next :: ws)

/-- `ShiftRight`. -/
def shiftRight (n : ℕ) (words : List ℕ) : List ℕ :=
  if n = 0 then words else shiftRightWords n words

/-- `MultiplyAndSubstruct`: `x` times the words `a` is subtracted from the lowest words of `q`.  The
difference is computed in 64 bits and taken as a signed number, so that its shift carries the
borrow. -/
def multiplyAndSubstruct (x : ℕ) : List ℕ → List ℕ → ℕ → Option (List ℕ × ℕ)
  | q, [], carry => some (q, carry % 2 ^ 32)
  | [], _ :: _, _ => none
  | w :: q, a :: as, carry =>
    let product := a * x % 2 ^ 64
    let difference := ((w : ℤ) - carry - (product % 2 ^ 32 : ℕ)).bmod (2 ^ 64)
    let carry := (((product >>> 32 : ℕ) : ℤ) - difference / 2 ^ 32) % 2 ^ 64
    (multiplyAndSubstruct x q as carry.toNat).map fun r =>
      ((difference % 2 ^ 32).toNat :: r.1, r.2)

/-- `Add` of two magnitudes. -/
def addWords : List ℕ → List ℕ → ℕ → Option (List ℕ × ℕ)
  | res, [], carry => some (res, carry % 2 ^ 32)
  | [], _ :: _, _ => none
  | w :: res, a :: as, carry =>
    let sum := (w + a + carry) % 2 ^ 64
    (addWords res as (sum >>> 32)).map fun r => (sum % 2 ^ 32 :: r.1, r.2)

/-! ## Division -/

/-- The loop that corrects an estimate: the condition reads two more words, unless the estimate is too
large for a word.  It gives nothing when the loop does not end within its fuel. -/
def adjustEstimate (nv nu : List ℕ) (i v1 : ℕ) : ℕ → ℕ → ℕ → Option ℕ
  | 0, _, _ => none
  | fuel + 1, qhat, rhat =>
    let tooLarge : Option Bool :=
      if 2 ^ 32 - 1 < qhat then some true
      else (wordAt nv (nv.length - 2)).bind fun v2 =>
        (wordAt nu (i + nv.length - 2)).map fun u3 => decide (2 ^ 32 * rhat + u3 < qhat * v2)
    tooLarge.bind fun
      | true =>
        if 2 ^ 32 - 1 < rhat + v1 then some (qhat - 1)
        else adjustEstimate nv nu i v1 fuel (qhat - 1) (rhat + v1)
      | false => some qhat

/-- The estimate of a digit of the quotient.  The loop ends in its third round at the latest. -/
def estimateQuotient (nv nu : List ℕ) (i : ℕ) : Option ℕ :=
  (wordAt nu (i + nv.length)).bind fun u1 =>
    (wordAt nu (i + nv.length - 1)).bind fun u2 =>
      (wordAt nv (nv.length - 1)).bind fun v1 =>
        let base := makeU64 u1 u2
        adjustEstimate nv nu i v1 3 (base / v1) (base % v1)

/-- One round of the main loop of `Divide`: the digit of the quotient, and what is left of the
dividend.  The difference whose sign decides about adding the divisor back is taken from two words of
32 bits. -/
def divideStep (nv nu : List ℕ) (i : ℕ) : Option (ℕ × List ℕ) :=
  (estimateQuotient nv nu i).bind fun qhat =>
    let qhat32 := qhat % 2 ^ 32
    (multiplyAndSubstruct qhat32 (nu.drop i) nv 0).bind fun r =>
      (wordAt r.1 nv.length).bind fun u1 =>
        let difference : ℤ := ((u1 : ℤ) - r.2) % 2 ^ 32
        let window := r.1.set nv.length (difference % 2 ^ 32).toNat
        if difference < 0 then
          (addWords window nv 0).map fun r => ((qhat32 + 2 ^ 32 - 1) % 2 ^ 32, nu.take i ++ r.1)
        else some (qhat32, nu.take i ++ window)

/-- The main loop of `Divide`, for so many indices, down to 0: what is left of the dividend, and the
words of the quotient, all of which are assigned. -/
def divideLoop (nv : List ℕ) : ℕ → List ℕ → List ℕ → Option (List ℕ × List ℕ)
  | 0, nu, q => some (nu, q)
  | i + 1, nu, q => (divideStep nv nu i).bind fun r => divideLoop nv i r.2 (r.1 :: q)

/-- The dividend, shifted, with a zero in front. -/
def normalizeDivident (u : List ℕ) (shift : ℕ) : List ℕ :=
  if shift ≤ numberOfLeadingZerosU32 (u.getLastD 0) then shiftLeft shift u ++ [0]
  else shiftLeft shift u ++ [u.getLastD 0 >>> (32 - shift), 0]

/-- The general case of `Divide`, for a dividend not shorter than the divisor: the words of the
quotient and of the remainder. -/
def divideWords (u v : List ℕ) : Option (List ℕ × List ℕ) :=
  let shift := numberOfLeadingZerosU32 (v.getLastD 0)
  (divideLoop (shiftLeft shift v) (u.length - v.length + 1) (normalizeDivident u shift) []).map
    fun r => (r.2, shiftRight shift (r.1.take v.length))

/-- The one or two words of a magnitude as a number. -/
def lowWords (mag : List ℕ) : ℕ := mag.getD 0 0 ||| mag.getD 1 0 <<< 32

/-- How `Divide` ends: by the exception, by a behaviour that the source leaves undefined, or with the
objects it has assigned. -/
inductive DivideOutcome (ρ : Type) where
  | divisionByZero
  | undefined
  | done (heap : ρ → BigInteger)

section Divide

variable {ρ : Type} [DecidableEq ρ]

/-- The assignment of the remainder, if one is wanted. -/
def assignRem (heap : ρ → BigInteger) (rem : Option ρ) (x : BigInteger) : ρ → BigInteger :=
  match rem with
  | none => heap
  | some rem => Function.update heap rem x

/-- `Divide`: the operands and the results are objects, some of which can be the same. -/
def divide (heap : ρ → BigInteger) (self divisor res : ρ) (rem : Option ρ) : DivideOutcome ρ :=
  if (heap divisor).mag = [] then .divisionByZero
  else
    let compRes := compareMagnitude (heap self).mag (heap divisor).mag
    let resSign := (heap self).sign * (heap divisor).sign
    if compRes = 0 then
      .done (assignRem (Function.update heap res (ofInt64 resSign)) rem (ofInt64 0))
    else if compRes = -1 then
      .done (Function.update (assignRem heap rem (heap self)) res (ofInt64 0))
    else if (heap divisor).getBitLength = 1 then
      let assigned := Function.update heap res (heap self)
      let sign := (assigned self).sign * (assigned divisor).sign
      .done (assignRem (Function.update assigned res { assigned res with sign }) rem (ofInt64 0))
    else if (heap self).mag.length ≤ 2 then
      let u := lowWords (heap self).mag
      let v := lowWords (heap divisor).mag
      .done (assignRem (Function.update heap res (ofInt64 (resSign * (u / v : ℕ)))) rem
        (ofInt64 (resSign * (u % v : ℕ))))
    else
      match divideWords (heap self).mag (heap divisor).mag with
      | none => .undefined
      | some (q, r) =>
        .done (assignRem (Function.update heap res ⟨resSign, normalize q⟩) rem
          ⟨resSign, normalize r⟩)

end Divide

end BigInteger

end TimestreamOdbc
