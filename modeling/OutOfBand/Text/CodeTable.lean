import OutOfBand.Text.Blank
import OutOfBand.Text.Hex

/-!
# Tables of code points

A `CodeTable` lists code points by ranges and may give each one values, numbers that are mostly code
points themselves. Tables are written as text, a word for each row, all numbers in hexadecimal:

    2c            the code point 2C, without values
    61-7a         all of a range
    c0=41,300     values behind an equals sign, the same ones for the whole range
    41-5a>61      values that grow along with the code point
    100/12e>101   every second code point of a range

The first row that lists a code point counts.
-/

namespace OutOfBand.Text

/-- A row of a table. -/
structure CodeTable.Row where
  /-- The first code point of the range. -/
  first : Nat
  /-- The last code point of the range. -/
  last : Nat
  /-- The distance between the code points that are listed. -/
  step : Nat
  /-- The values of the first code point. -/
  values : List Nat
  /-- Whether the values grow along with the code point. -/
  grows : Bool
  deriving DecidableEq, Repr, Inhabited

/-- A table of code points and their values. -/
structure CodeTable where
  rows : List CodeTable.Row
  deriving DecidableEq, Repr, Inhabited

namespace CodeTable

/-! ## Looking up -/

/-- Whether a row lists the code point `n`. -/
def Row.lists (row : Row) (n : Nat) : Bool :=
  row.first ≤ n && n ≤ row.last && (n - row.first) % row.step == 0

/-- The values of the code point `n`, which the row lists. -/
def Row.valuesOf (row : Row) (n : Nat) : List Nat :=
  if row.grows then row.values.map (· + (n - row.first)) else row.values

/-- The values of the code point `n`, if the table lists it. -/
def get? (table : CodeTable) (n : Nat) : Option (List Nat) :=
  (table.rows.find? (·.lists n)).map (·.valuesOf n)

/-- Whether the table lists the code point `n`. -/
def has (table : CodeTable) (n : Nat) : Bool := table.rows.any (·.lists n)

/-- The first code point of a row with just these values. -/
def source? (table : CodeTable) (values : List Nat) : Option Nat :=
  (table.rows.find? (·.values == values)).map (·.first)

/-! ## Reading -/

def number (cs : List Char) : Nat := cs.foldl (fun n c => 16 * n + (hexValue c).getD 0) 0

def Row.ofWord (word : List Char) : Row :=
  let isSign (c : Char) : Bool := c == '=' || c == '>'
  let range := word.takeWhile fun c => !isSign c
  let ends := (splitAt (fun c => c == '-' || c == '/') range).map number
  let first := ends.headD 0
  let values := (word.dropWhile fun c => !isSign c).drop 1
  { first
    last := ends.getLastD first
    step := if range.contains '/' then 2 else 1
    values := if values.isEmpty then [] else (splitAt (· == ',') values).map number
    grows := word.contains '>' }

/-- The table that the words of `s` write. -/
def ofText (s : String) : CodeTable := ⟨(words s).map fun word => Row.ofWord word.toList⟩

end CodeTable

end OutOfBand.Text
