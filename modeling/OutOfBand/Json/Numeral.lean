import OutOfBand.Decimal.Reading
import OutOfBand.Json.Value

/-!
# The numbers of JSON texts

A numeral is what a JSON text writes for a number. Its value is an integer where it has neither a
fraction nor an exponent and fits 64 bits, and a double otherwise. The double is computed in machine
arithmetic: as many leading digits as fit 64 bits make the significand, which is then scaled by a
power of ten; a numeral beyond the doubles has no value.
-/

namespace OutOfBand.Json

/-- A numeral: its sign, the digits before and after the point, and the exponent with its sign. -/
structure Numeral where
  negative : Bool
  whole : List Char
  fraction : List Char
  exponent : Option (Bool × List Char)
  deriving Repr

namespace Numeral

/-- The number of significands: they fit 64 bits. -/
def limit : Nat := UInt64.size

/-- The greatest exponent that is computed with. -/
def exponentLimit : Nat := 2147483647

/-- The significand `n` continued by as many of the digits as fit, and the digits left over. -/
def takeDigits (n : Nat) : List Char → Nat × List Char
  | [] => (n, [])
  | c :: cs =>
    let m := 10 * n + Decimal.digitValue c
    if m < limit then takeDigits m cs else (n, c :: cs)

def pow10 (k : Nat) : Float := Float.ofScientific 1 false k

/-- The double `x` divided by the power of ten `10 ^ k`, in steps of at most `10 ^ 308`. -/
def scaledDown (x : Float) : Nat → Nat → Float
  | 0, _ => 0
  | steps + 1, k => if k ≤ 308 then x / pow10 k else scaledDown (x / pow10 308) steps (k - 308)

/-- The significand `n` scaled by `10 ^ e`, if that is within the doubles. -/
def scaled (n : Nat) (e : Int) : Option Float :=
  let x := (UInt64.ofNat n).toFloat
  if e < 0 then some (scaledDown x 4 e.natAbs)
  else if n = 0 then some x
  else if e ≤ 308 then
    let y := x * pow10 e.toNat
    if y.isInf then none else some y
  else none

/-- The double with the sign of the numeral. -/
def signed (numeral : Numeral) (x : Float) : Number :=
  .real (Binary64.ofFloat (if numeral.negative then -x else x))

/-- The value of a numeral; nothing if it is beyond the doubles. -/
def value (numeral : Numeral) : Option Number :=
  let (whole, moreWhole) := takeDigits 0 numeral.whole
  let (n, moreFraction) := takeDigits whole numeral.fraction
  let shift : Int := moreWhole.length - (numeral.fraction.length - moreFraction.length : Nat)
  match numeral.exponent with
  | some (down, digits) =>
    let e := Decimal.accumulate 0 digits
    if exponentLimit < e then
      if n ≠ 0 && !down then none else some (numeral.signed 0)
    else (scaled n (if down then shift - e else shift + e)).map numeral.signed
  | none =>
    if numeral.fraction.isEmpty && moreWhole.isEmpty then
      if !numeral.negative then some (.int n)
      else if n = 0 || 0x8000000000000000 < n then some (numeral.signed (UInt64.ofNat n).toFloat)
      else some (.int (-(n : Int)))
    else (scaled n shift).map numeral.signed

end Numeral

end OutOfBand.Json
