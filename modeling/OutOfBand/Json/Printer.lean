import OutOfBand.Decimal.Notation
import OutOfBand.Json.Value
import OutOfBand.Text.Hex

/-!
# Writing JSON

Two layouts: compact, with no blank anywhere, and indented by two blanks a level. In both a text
writes the quote, the backslash and the controls with a backslash and everything else as it is, and
members stand in the order in which the value holds them.
-/

namespace OutOfBand.Json

/-- The character `c` as it stands inside a text. -/
def escaped (c : Char) : List Char :=
  if c == '"' then ['\\', '"']
  else if c == '\\' then ['\\', '\\']
  else if c.toNat == 0x08 then ['\\', 'b']
  else if c.toNat == 0x0c then ['\\', 'f']
  else if c == '\n' then ['\\', 'n']
  else if c == '\r' then ['\\', 'r']
  else if c == '\t' then ['\\', 't']
  else if c.toNat < 0x20 then '\\' :: 'u' :: Text.hexDigits 4 c.toNat
  else [c]

def textChars (s : String) : List Char := '"' :: (s.toList.flatMap escaped ++ ['"'])

def numberChars : Number → List Char
  | .int n => (toString n).toList
  | .real x => (Decimal.render x).toList

def boolChars (b : Bool) : List Char := if b then "true".toList else "false".toList

/-! ## The compact layout -/

mutual

def chars : Json → List Char
  | .null => "null".toList
  | .bool b => boolChars b
  | .num n => numberChars n
  | .str s => textChars s
  | .arr items => '[' :: (itemChars items ++ [']'])
  | .obj members => '\x7b' :: (memberChars members ++ ['\x7d'])

/-- The items of an array, with commas between them. -/
def itemChars : List Json → List Char
  | [] => []
  | [item] => chars item
  | item :: items => chars item ++ ',' :: itemChars items

/-- The members of an object, with commas between them. -/
def memberChars : List (String × Json) → List Char
  | [] => []
  | [(key, value)] => textChars key ++ ':' :: chars value
  | (key, value) :: members => textChars key ++ ':' :: (chars value ++ ',' :: memberChars members)

end

def render (j : Json) : String := String.ofList j.chars

/-! ## The indented layout -/

/-- The start of a line at the given level. -/
def newline (level : Nat) : List Char := '\n' :: List.replicate (2 * level) ' '

mutual

/-- A value in the indented layout, standing at the given level. -/
def prettyChars (level : Nat) : Json → List Char
  | .null => "null".toList
  | .bool b => boolChars b
  | .num n => numberChars n
  | .str s => textChars s
  | .arr [] => ['[', ']']
  | .arr items => '[' :: (prettyItems (level + 1) items ++ newline level ++ [']'])
  | .obj [] => ['\x7b', '\x7d']
  | .obj members => '\x7b' :: (prettyMembers (level + 1) members ++ newline level ++ ['\x7d'])

/-- The items of an array, each on a line of its own. -/
def prettyItems (level : Nat) : List Json → List Char
  | [] => []
  | [item] => newline level ++ prettyChars level item
  | item :: items => newline level ++ prettyChars level item ++ ',' :: prettyItems level items

/-- The members of an object, each on a line of its own. -/
def prettyMembers (level : Nat) : List (String × Json) → List Char
  | [] => []
  | [(key, value)] => newline level ++ textChars key ++ ':' :: ' ' :: prettyChars level value
  | (key, value) :: members =>
    newline level ++ textChars key ++ ':' :: ' ' ::
      (prettyChars level value ++ ',' :: prettyMembers level members)

end

def pretty (j : Json) : String := String.ofList (j.prettyChars 0)

end OutOfBand.Json
