import TimestreamOdbc.Ignite.Decimal
import TimestreamOdbc.Ignite.IntegerText
import TimestreamOdbc.Lib.Numeral

/-!
# Decimals as texts

The output operator and the input operator of `decimal.h`.  Counters have 32 bits: where one would
overflow, or the length of a text does not fit into one, the functions give nothing.
-/

namespace TimestreamOdbc.Ignite

namespace Decimal

/-! ## Writing -/

/-- The text of the unscaled integer with a point.  `size` is its length. -/
def placePoint (magStr : Text) (size scale : ℤ) : Text :=
  let magBegin : ℕ := if magStr.head? = some '-' then 1 else 0
  let magLen := size - magBegin
  let digits := magStr.drop magBegin
  -- the index of the last character that is not '0'
  let lastNonZero : ℤ := magBegin + (digits.rdropWhile (· = '0')).length - 1
  let dotPos := magLen - scale
  magStr.take magBegin ++
    if dotPos ≤ 0 then
      '0' :: '.' :: (List.replicate (-dotPos).toNat '0' ++
        digits.take (lastNonZero - magBegin + 1).toNat)
    else
      let afterDot := lastNonZero - dotPos - magBegin + 1
      digits.take dotPos.toNat ++
        if 0 < afterDot then '.' :: (digits.drop dotPos.toNat).take afterDot.toNat else []

/-- The output operator. -/
def write (val : Decimal) : Option Text :=
  if val.magnitude.mag = [] then some ['0']
  else if val.scale ≤ 0 then
    val.magnitude.write.bind fun unscaled =>
      (int32Result (-val.scale)).map fun zeros => unscaled ++ List.replicate zeros.toNat '0'
  else
    val.magnitude.write.bind fun magStr =>
      (int32Result magStr.length).map fun size => placePoint magStr size val.scale

/-! ## Reading -/

/-- What the loop of the input operator keeps: the digits that are not in the magnitude yet, their
number, and the scale, which is negative before the point and one ahead behind it. -/
structure ReadState where
  part : ℕ
  partDigits : ℕ
  scale : ℤ
  mag : BigInteger

namespace ReadState

/-- The state in front of the loop. -/
def start : ReadState := ⟨0, 0, -1, BigInteger.ofInt64 0⟩

/-- The part is added to the magnitude. -/
def flush (s : ReadState) : Option ReadState :=
  (BigInteger.getPowerOfTen s.partDigits).bind fun pow =>
    ((s.mag.multiply pow).add s.part).map fun mag => ⟨0, 0, s.scale, mag⟩

/-- The end of a round: a part of 19 digits is added, and the scale is counted behind the point. -/
def advance (s : ReadState) : Option ReadState :=
  (if 10 ^ 18 ≤ s.part then s.flush else some s).bind fun s =>
    if 0 ≤ s.scale then (int32Result (s.scale + 1)).map fun scale => { s with scale } else some s

/-- The last part is added after the loop. -/
def finish (s : ReadState) : Option ReadState := if s.partDigits = 0 then some s else s.flush

end ReadState

/-- The loop of the input operator: the state at its end and what is left of the text. -/
def readNumber : Text → ReadState → Option (ReadState × Text)
  | [], s => some (s, [])
  | c :: rest, s =>
    if c.isDigit then
      (int32Result (s.partDigits + 1)).bind fun _ =>
        (ReadState.advance { s with
          part := (s.part * 10 + (c.toNat - '0'.toNat)) % 2 ^ 64
          partDigits := s.partDigits + 1 }).bind (readNumber rest)
    else if c = '.' ∧ s.scale < 0 then
      (ReadState.advance { s with scale := 0 }).bind (readNumber rest)
    else some (s, c :: rest)

/-- The sign and what is behind it. -/
def readSign : Text → ℤ × Text
  | '-' :: rest => (-1, rest)
  | '+' :: rest => (1, rest)
  | text => (1, text)

/-- The exponent, which is 0 when there is none. -/
def readExponent : Text → ℤ
  | 'e' :: rest => (lexicalCastInt 0 rest).toInt
  | 'E' :: rest => (lexicalCastInt 0 rest).toInt
  | _ => 0

/-- `Negate`. -/
def negate (mag : BigInteger) : BigInteger :=
  if mag.mag = [] then mag else { mag with sign := -mag.sign }

/-- The input operator. -/
def read (text : Text) : Option Decimal :=
  if ltrim text = [] then some ⟨0, BigInteger.ofInt64 0⟩
  else
    let signed := readSign (ltrim text)
    (readNumber signed.2 ReadState.start).bind fun r =>
      r.1.finish.bind fun s =>
        let scale := if s.scale < 0 then 0 else s.scale - 1
        (int32Result (scale - readExponent r.2)).map fun scale =>
          ⟨scale, if signed.1 < 0 then negate s.mag else s.mag⟩

end Decimal

end TimestreamOdbc.Ignite
