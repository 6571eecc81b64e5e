/-!
# Letters of the ASCII range

Keywords and header names are compared without regard to the case of the letters `A` to `Z`; all
other characters stand for themselves.
-/

namespace OutOfBand.Text

/-- `s` with the letters `A` to `Z` in lower case. -/
def lower (s : String) : String := String.ofList (s.toList.map Char.toLower)

/-- Whether `s` and `t` differ at most in the case of their ASCII letters. -/
def sameName (s t : String) : Bool := lower s == lower t

def occursIn (part : List Char) : List Char → Bool
  | [] => part.isEmpty
  | c :: cs => part.isPrefixOf (c :: cs) || occursIn part cs

def contains (s part : String) : Bool := occursIn part.toList s.toList

/-- `s` filled up with blanks on the right to `width` characters. -/
def padRight (width : Nat) (s : String) : String :=
  s ++ String.ofList (List.replicate (width - s.length) ' ')

end OutOfBand.Text
