import OutOfBand.Fault
import OutOfBand.Text.Blank
import OutOfBand.Text.Hex

/-!
# MAC addresses

The six bytes that name a network interface, written as six hexadecimal numbers with colons between
them.
-/

namespace OutOfBand.Wake

/-- The hexadecimal number below 256 that a text writes, after an optional plus sign. -/
def byteOfHex (cs : List Char) : Option Nat :=
  let digits := match cs with
    | '+' :: rest => rest
    | _ => cs
  if digits.isEmpty then none
  else do
    let values ← digits.mapM Text.hexValue
    let n := values.foldl (fun n d => 16 * n + d) 0
    if n < 256 then some n else none

/-- The six bytes that the text `s` writes. -/
def macOfText (s : String) : Option (List UInt8) :=
  let parts := Text.splitAt (· == ':') s.toList
  if parts.length = 6 then (parts.mapM byteOfHex).map (·.map UInt8.ofNat) else none

/-- The bytes of a MAC address as text: two digits each, with colons between them. -/
def macText (mac : List UInt8) : String :=
  String.intercalate ":" (mac.map fun b => String.ofList (Text.hexOfByte b))

end OutOfBand.Wake
