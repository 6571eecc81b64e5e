import OutOfBand.Text.Hex
import OutOfBand.Text.Unprinted

/-!
# Quoted text

How an error message shows a text that it found: between double quotes, with the quote, the
backslash and four controls written by a backslash and a letter, and every other character without
a glyph of its own written by its number.
-/

namespace OutOfBand.Text

/-- The character `c` as it stands inside quotes. -/
def quotedChar (c : Char) : List Char :=
  if c == '"' then ['\\', '"']
  else if c == '\\' then ['\\', '\\']
  else if c == '\t' then ['\\', 't']
  else if c == '\n' then ['\\', 'n']
  else if c == '\r' then ['\\', 'r']
  else if c.toNat == 0 then ['\\', '0']
  else if isUnprinted c then "\\u\x7b".toList ++ hexOfNat c.toNat ++ "\x7d".toList
  else [c]

def quoted (s : String) : String :=
  "\"" ++ String.ofList (s.toList.flatMap quotedChar) ++ "\""

end OutOfBand.Text
