import OutOfBand.Text.Hex
import OutOfBand.Text.Utf8

/-!
# Percent signs

What may not stand in a part of a URL as it is, is written by its bytes, each behind a percent sign.
Controls and characters outside ASCII never stand as they are; the parts differ in what else they
keep out.
-/

namespace OutOfBand.Web

/-- A byte as a percent sign and two digits. -/
def percent (b : UInt8) : List Char := '%' :: (Text.hexOfByte b).map Char.toUpper

/-- Whether a character is a control or no ASCII character. -/
def isOutside (c : Char) : Bool := c.toNat < 0x20 || 0x7e < c.toNat

/-- The characters, of which those in `extra` and those outside ASCII are written by their bytes. -/
def encoded (extra : List Char) (cs : List Char) : List Char :=
  cs.flatMap fun c =>
    if isOutside c || extra.contains c then
      (Text.Utf8.encode (String.singleton c)).flatMap percent
    else [c]

/-- The bytes that characters stand for, with percent signs resolved. -/
def decodedBytes : List Char → List UInt8
  | [] => []
  | '%' :: a :: b :: rest =>
    match Text.hexValue a, Text.hexValue b with
    | some high, some low => UInt8.ofNat (16 * high + low) :: decodedBytes rest
    | _, _ => 0x25 :: decodedBytes (a :: b :: rest)
  | c :: rest => Text.Utf8.encode (String.singleton c) ++ decodedBytes rest
termination_by cs => cs.length

end OutOfBand.Web
