/-!
# The shortest decimal of a double

A finite double stands for the reals that round to it: an interval around it, whose ends belong to
it iff its significand is even. `shortest` finds the decimal with the fewest digits in that interval
and, of several, the nearest to the double; all in exact integer arithmetic on the significand and
the exponent. On the grid of decimals with a given number of digits only the two neighbours of the
double have to be tried: if any point of the grid lies in the interval, one of them does.
-/

namespace OutOfBand

/-- A double, by its bits. -/
structure Binary64 where
  bits : UInt64
  deriving DecidableEq, Repr, Inhabited

namespace Binary64

def ofFloat (x : Float) : Binary64 := ⟨x.toBits⟩

def toFloat (b : Binary64) : Float := Float.ofBits b.bits

def negative (b : Binary64) : Bool := b.bits >>> 63 == 1

def exponentField (b : Binary64) : Nat := (b.bits >>> 52).toNat % 2048

/-- The number of fractions: a fraction has fifty-two bits. -/
def fractionSize : Nat := 0x10000000000000

def fractionField (b : Binary64) : Nat := b.bits.toNat % fractionSize

/-- Whether the double is a number, neither infinite nor undefined. -/
def isFinite (b : Binary64) : Bool := b.exponentField != 2047

def significand (b : Binary64) : Nat :=
  if b.exponentField = 0 then b.fractionField else b.fractionField + fractionSize

/-- The power of two that scales the significand. -/
def exponent (b : Binary64) : Int :=
  if b.exponentField = 0 then -1074 else b.exponentField - 1075

/-- Whether the double below is only half as far away as the one above. -/
def closeBelow (b : Binary64) : Bool := b.fractionField == 0 && b.exponentField > 1

end Binary64

namespace Decimal

/-- The interval of the reals that round to a double: `value`, `low` and `high` count units of
`2 ^ scale`, and `closed` tells whether the ends belong to it. -/
structure Interval where
  value : Nat
  low : Nat
  high : Nat
  scale : Int
  closed : Bool

/-- The interval of the magnitude of a double, in quarters of its last place. -/
def Interval.of (b : Binary64) : Interval where
  value := 4 * b.significand
  low := 4 * b.significand - (if b.closeBelow then 1 else 2)
  high := 4 * b.significand + 2
  scale := b.exponent - 2
  closed := b.significand % 2 == 0

/-- `n` units of `2 ^ scale`, counted in units of `10 ^ grid`: a fraction. -/
def onGrid (scale grid : Int) (n : Nat) : Nat × Nat :=
  (n * Nat.pow 2 scale.toNat * Nat.pow 10 (-grid).toNat,
    Nat.pow 2 (-scale).toNat * Nat.pow 10 grid.toNat)

/-- A decimal: so many units of a power of ten. -/
structure Digits where
  count : Nat
  grid : Int

/-- Whether `d` units of `10 ^ grid` lie in the interval. -/
def Interval.has (i : Interval) (grid : Int) (d : Nat) : Bool :=
  let (low, one) := onGrid i.scale grid i.low
  let (high, _) := onGrid i.scale grid i.high
  if i.closed then low ≤ d * one && d * one ≤ high else low < d * one && d * one < high

/-- The neighbour of the value on the grid `10 ^ grid` that lies in the interval: the nearer one if
both do, and the even one if they are equally near. -/
def Interval.hit (i : Interval) (grid : Int) : Option Nat :=
  let (value, one) := onGrid i.scale grid i.value
  let below := value / one
  let under := value - below * one
  match i.has grid below, i.has grid (below + 1) with
  | true, false => some below
  | false, true => some (below + 1)
  | false, false => none
  | true, true =>
    if 2 * under < one || (2 * under == one && below % 2 == 0) then some below
    else some (below + 1)

/-- The power of ten of the leading digit of `n` units of `2 ^ scale`, for `n` above zero. -/
def leading (scale : Int) (n : Nat) : Int :=
  let (num, den) := onGrid scale 0 n
  if den ≤ num then ((Nat.toDigits 10 (num / den)).length : Int) - 1
  else
    let (scaled, one) := onGrid scale (-400) n
    ((Nat.toDigits 10 (scaled / one)).length : Int) - 401

/-- The first of the grids from `grid` downwards, `steps` of them, that has a hit. -/
def Interval.firstHit (i : Interval) : Nat → Int → Digits
  | 0, grid => ⟨0, grid⟩
  | steps + 1, grid =>
    match i.hit grid with
    | some d => ⟨d, grid⟩
    | none => i.firstHit steps (grid - 1)

/-- The decimal with the fewest digits that rounds to the magnitude of `b`, for `b` finite and not
zero. Seventeen digits always suffice. -/
def shortest (b : Binary64) : Digits :=
  let i := Interval.of b
  i.firstHit 18 (leading i.scale i.value)

end Decimal

end OutOfBand
