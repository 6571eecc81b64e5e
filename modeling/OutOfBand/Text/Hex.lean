/-!
# Hexadecimal digits

Two lower-case digits for each byte, and the readers for them.
-/

namespace OutOfBand.Text

/-- The lower-case digit of `n`, for `n` below sixteen. -/
def hexDigit (n : Nat) : Char :=
  if n < 10 then Char.ofNat (0x30 + n) else Char.ofNat (0x57 + n)

/-- The value of a hexadecimal digit, in either case. -/
def hexValue (c : Char) : Option Nat :=
  let n := c.toNat
  if 0x30 ≤ n && n ≤ 0x39 then some (n - 0x30)
  else if 0x61 ≤ n && n ≤ 0x66 then some (n - 0x57)
  else if 0x41 ≤ n && n ≤ 0x46 then some (n - 0x37)
  else none

/-- A digit stands for the number it was made from. -/
theorem hexValue_hexDigit : ∀ n < 16, hexValue (hexDigit n) = some n := by decide

def hexOfByte (b : UInt8) : List Char := [hexDigit (b.toNat / 16), hexDigit (b.toNat % 16)]

/-- The digits of `bytes`, two for each. -/
def hexOfBytes (bytes : List UInt8) : String := String.ofList (bytes.flatMap hexOfByte)

/-- The last `count` hexadecimal digits of `n`, the highest first. -/
def hexDigits : Nat → Nat → List Char
  | 0, _ => []
  | count + 1, n => hexDigits count (n / 16) ++ [hexDigit (n % 16)]

/-- The hexadecimal digits of `n` without leading zeros. -/
def hexOfNat (n : Nat) : List Char :=
  if n < 16 then [hexDigit n] else hexOfNat (n / 16) ++ [hexDigit (n % 16)]
termination_by n
decreasing_by omega

/-- The bytes that an even number of digits stands for. -/
def bytesOfHexDigits : List Char → Option (List UInt8)
  | [] => some []
  | [_] => none
  | a :: b :: rest => do
    let high ← hexValue a
    let low ← hexValue b
    let bytes ← bytesOfHexDigits rest
    return UInt8.ofNat (16 * high + low) :: bytes

/-- The bytes that the text `s` of digits stands for. -/
def bytesOfHex (s : String) : Option (List UInt8) := bytesOfHexDigits s.toList

end OutOfBand.Text
