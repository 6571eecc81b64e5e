import OutOfBand.Decimal.Shortest

/-!
# How a double is written

The layout of the shortest decimal of a double: positional where the leading digit stands from
`10 ^ -5` to `10 ^ 15`, always with a point and at least one decimal; beyond that one digit before
the point and an exponent: a sign, and as many digits as it needs.
-/

namespace OutOfBand.Decimal

/-- The digits of a count without the zeros at its end. -/
def trimmed (n : Nat) : List Char :=
  let digits := ((Nat.toDigits 10 n).reverse.dropWhile (· == '0')).reverse
  if digits.isEmpty then ['0'] else digits

/-- The digits `digits`, the first of which counts `10 ^ top`, with the point in its place. -/
def positional (digits : List Char) (top : Int) : List Char :=
  if top < 0 then
    '0' :: '.' :: (List.replicate (-top - 1).toNat '0' ++ digits)
  else
    let places := top.toNat + 1
    let whole := digits.take places ++ List.replicate (places - digits.length) '0'
    let part := digits.drop places
    whole ++ '.' :: (if part.isEmpty then ['0'] else part)

/-- The digits `digits`, the first of which counts `10 ^ top`, with an exponent. -/
def scientific (digits : List Char) (top : Int) : List Char :=
  let sign := if top < 0 then '-' else '+'
  let exponent := 'e' :: sign :: Nat.toDigits 10 top.natAbs
  match digits with
  | [] => exponent
  | [d] => d :: exponent
  | d :: ds => d :: '.' :: (ds ++ exponent)

def magnitude (b : Binary64) : List Char :=
  if b.significand = 0 then ['0', '.', '0']
  else
    let d := shortest b
    let digits := trimmed d.count
    let top : Int := ((Nat.toDigits 10 d.count).length : Int) - 1 + d.grid
    if -5 ≤ top && top ≤ 15 then positional digits top else scientific digits top

/-- A finite double as a number; a double that is none as `null`. -/
def render (b : Binary64) : String :=
  if b.isFinite then
    String.ofList (if b.negative then '-' :: magnitude b else magnitude b)
  else "null"

end OutOfBand.Decimal
