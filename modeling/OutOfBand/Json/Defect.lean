import OutOfBand.Json.Doc
import OutOfBand.Decimal.Notation
import OutOfBand.Text.Quoted

/-!
# What is wrong with a document

A document fails to be a value of a type for one of two reasons: its text is not JSON, or what the
text says does not fit the type. The second kind has a message of its own, which tells what was
found and what was expected.
-/

namespace OutOfBand.Json

/-- What stands in a document, as a message names it. -/
inductive Actual where
  | null
  | bool (b : Bool)
  | number (n : Number)
  | text (s : String)
  | sequence
  | map

/-- How a document that is JSON fails to fit a type. -/
inductive Misfit where
  /-- A value of another type. -/
  | type (found : Actual) (expected : String)
  /-- A value of the type that is out of range. -/
  | value (found : Actual) (expected : String)
  /-- A list of a length that does not fit. -/
  | length (found : Nat) (expected : String)
  /-- A word that names none of the variants. -/
  | variant (found : String) (known : List String)
  /-- A key that names none of the fields. -/
  | field (found : String) (known : List String)
  /-- A field that is not there. -/
  | missing (name : String)
  /-- A field that is there twice. -/
  | duplicate (name : String)
  /-- A text or a value that its type refuses. -/
  | refused (why : String)

/-- Why a document cannot be read as a value of a type. -/
inductive Defect where
  | breach (b : Breach)
  | misfit (m : Misfit)

namespace Actual

def message : Actual → String
  | .null => "null"
  | .bool b => s!"boolean `{b}`"
  | .number (.int n) => s!"integer `{n}`"
  | .number (.real x) => s!"floating point `{Decimal.render x}`"
  | .text s => s!"string {Text.quoted s}"
  | .sequence => "sequence"
  | .map => "map"

end Actual

def backquoted (name : String) : String := s!"`{name}`"

def oneOf : List String → String
  | [a] => backquoted a
  | [a, b] => s!"{backquoted a} or {backquoted b}"
  | names => "one of " ++ String.intercalate ", " (names.map backquoted)

namespace Misfit

def message : Misfit → String
  | .type found expected => s!"invalid type: {found.message}, expected {expected}"
  | .value found expected => s!"invalid value: {found.message}, expected {expected}"
  | .length found expected => s!"invalid length {found}, expected {expected}"
  | .variant found known => s!"unknown variant {backquoted found}, expected {oneOf known}"
  | .field found known => s!"unknown field {backquoted found}, expected {oneOf known}"
  | .missing name => s!"missing field {backquoted name}"
  | .duplicate name => s!"duplicate field {backquoted name}"
  | .refused why => why

end Misfit

end OutOfBand.Json
