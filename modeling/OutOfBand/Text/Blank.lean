/-!
# Blanks

The characters that count as blank space in tool output, HTTP bodies and identifiers: the Unicode
property `White_Space`. On top of it stand the three ways in which text is cut at blanks: trimming
both ends, splitting into words, and splitting into lines.
-/

namespace OutOfBand.Text

/-- A character is blank iff it has the Unicode property `White_Space`. -/
def isBlank (c : Char) : Bool :=
  let n := c.toNat
  (0x09 ≤ n && n ≤ 0x0d) || n == 0x20 || n == 0x85 || n == 0xa0 || n == 0x1680 ||
    (0x2000 ≤ n && n ≤ 0x200a) || n == 0x2028 || n == 0x2029 || n == 0x202f || n == 0x205f ||
    n == 0x3000

/-! ## Trimming -/

/-- `cs` without the blanks at its start. -/
def trimStart (cs : List Char) : List Char := cs.dropWhile isBlank

/-- `cs` without the characters at its end that satisfy `p`. -/
def dropEndWhile (p : Char → Bool) (cs : List Char) : List Char :=
  (cs.reverse.dropWhile p).reverse

/-- `s` without the blanks at either end. -/
def trim (s : String) : String := String.ofList (dropEndWhile isBlank (trimStart s.toList))

/-! ## Splitting -/

/-- The pieces of `cs` between the characters that satisfy `p`: one more than there are such
characters, so never none. -/
def splitAt (p : Char → Bool) : List Char → List (List Char)
  | [] => [[]]
  | c :: cs =>
    if p c then [] :: splitAt p cs
    else match splitAt p cs with
      | [] => [[c]]
      | piece :: pieces => (c :: piece) :: pieces

/-- The pieces of `s` between the occurrences of `sep`. -/
def splitOn (sep : Char) (s : String) : List String :=
  (splitAt (· == sep) s.toList).map String.ofList

/-- The words of `s`: its longest runs of characters that are not blank. -/
def words (s : String) : List String :=
  ((splitAt isBlank s.toList).filter (!·.isEmpty)).map String.ofList

/-- The lines of `s`: a line feed ends a line, a carriage return before it belongs to the line
end, and what follows the last line feed is a line only if it is not empty. -/
def lines (s : String) : List String :=
  let pieces := splitAt (· == '\n') s.toList
  let ended := pieces.dropLast.map fun piece =>
    if piece.getLast? == some '\r' then piece.dropLast else piece
  let rest := match pieces.getLast? with
    | none | some [] => []
    | some piece => [piece]
  (ended ++ rest).map String.ofList

end OutOfBand.Text
