import OutOfBand.Decimal.Shortest
import OutOfBand.Text.Ascii

/-!
# Reading a double from text

The readings of sensors come as text. A reading is a decimal with an optional sign, point and
exponent, and at least one digit; or, in any case of letters, one of the words `inf`, `infinity` and
`nan`. Its value is the nearest double.
-/

namespace OutOfBand.Decimal

def isDigit (c : Char) : Bool := '0' ≤ c && c ≤ '9'

def digitValue (c : Char) : Nat := c.toNat - '0'.toNat

/-- The number that `digits` write after the number `n`. -/
def accumulate (n : Nat) (digits : List Char) : Nat :=
  digits.foldl (fun m c => 10 * m + digitValue c) n

/-- The nearest double to `n * 10 ^ e`. Exponents that leave the range of doubles whatever the
digits of `n` are decided without computing the power. -/
def nearest (n : Nat) (e : Int) : Binary64 :=
  let places := ((Nat.toDigits 10 n).length : Int) + e
  if n = 0 || places < -400 then ⟨0⟩
  else if places > 400 then ⟨0x7ff0000000000000⟩
  else Binary64.ofFloat (Float.ofScientific n (e < 0) e.natAbs)

/-- A sign at the start of a text: whether it is negative, and the rest. -/
def sign : List Char → Bool × List Char
  | '-' :: cs => (true, cs)
  | '+' :: cs => (false, cs)
  | cs => (false, cs)

/-- The exponent that a text consists of: nothing at all, or a letter, an optional sign and
digits. -/
def exponent : List Char → Option Int
  | [] => some 0
  | c :: cs =>
    if c == 'e' || c == 'E' then
      let (negative, digits) := sign cs
      if digits.isEmpty || !digits.all isDigit then none
      else
        let n := accumulate 0 digits
        some (if negative then -(n : Int) else n)
    else none

/-- The magnitude that a text without a sign writes. -/
def unsigned (cs : List Char) : Option Binary64 :=
  let whole := cs.takeWhile isDigit
  let afterWhole := cs.dropWhile isDigit
  let (part, rest) := match afterWhole with
    | '.' :: more => (more.takeWhile isDigit, more.dropWhile isDigit)
    | _ => ([], afterWhole)
  if whole.isEmpty && part.isEmpty then none
  else (exponent rest).map fun e =>
    nearest (accumulate (accumulate 0 whole) part) (e - part.length)

/-- The double with its sign bit set. -/
def negated (b : Binary64) : Binary64 := ⟨b.bits ||| 0x8000000000000000⟩

/-- The double that the text `s` writes. -/
def read? (s : String) : Option Binary64 :=
  let (negative, cs) := sign s.toList
  let word := Text.lower (String.ofList cs)
  let magnitude :=
    if word == "inf" || word == "infinity" then some ⟨0x7ff0000000000000⟩
    else if word == "nan" then some ⟨0x7ff8000000000000⟩
    else unsigned cs
  magnitude.map fun b => if negative then negated b else b

end OutOfBand.Decimal
