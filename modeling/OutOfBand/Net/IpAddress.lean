import OutOfBand.Decimal.Reading
import OutOfBand.Json.Decode
import OutOfBand.Text.Hex

/-!
# IP addresses

The text forms of IPv4 and IPv6 addresses. An IPv4 address is four decimal octets without leading
zeros. An IPv6 address is eight groups of up to four hexadecimal digits, of which `::` may leave out
a run of zeros and the last two of which may be written as an IPv4 address; it is printed with its
longest run of two or more zero groups left out.
-/

namespace OutOfBand

/-- An IP address. -/
inductive IpAddress where
  | v4 (octets : List Nat)
  /-- Eight groups of sixteen bits. -/
  | v6 (groups : List Nat)
  deriving DecidableEq, Repr, Inhabited

namespace IpAddress

def broadcast : IpAddress := .v4 [255, 255, 255, 255]

/-! ## Reading -/

/-- What is read at the start of a text, and the rest. -/
abbrev Reader (α : Type) := List Char → Option (α × List Char)

/-- Reads an octet: up to three decimal digits without a leading zero. -/
def octet : Reader Nat := fun cs =>
  let digits := cs.takeWhile Decimal.isDigit
  let n := Decimal.accumulate 0 digits
  if digits.isEmpty || 3 < digits.length || 255 < n then none
  else if digits.head? == some '0' && 1 < digits.length then none
  else some (n, cs.drop digits.length)

/-- Reads a group: up to four hexadecimal digits. -/
def group : Reader Nat := fun cs =>
  let digits := cs.takeWhile fun c => (Text.hexValue c).isSome
  if digits.isEmpty || 4 < digits.length then none
  else
    some (digits.foldl (fun n c => 16 * n + (Text.hexValue c).getD 0) 0, cs.drop digits.length)

def given (c : Char) : Reader Unit
  | d :: cs => if d == c then some ((), cs) else none
  | [] => none

/-- Reads a separator unless at the first of several parts. -/
def separator (c : Char) (index : Nat) : Reader Unit := fun cs =>
  if index = 0 then some ((), cs) else given c cs

/-- Reads the four octets of an IPv4 address. -/
def octets : Reader (List Nat) := fun cs => do
  let (a, cs) ← octet cs
  let ((), cs) ← given '.' cs
  let (b, cs) ← octet cs
  let ((), cs) ← given '.' cs
  let (c, cs) ← octet cs
  let ((), cs) ← given '.' cs
  let (d, cs) ← octet cs
  return ([a, b, c, d], cs)

/-- Reads an IPv4 address in the place of two groups. -/
def embedded (index : Nat) : Reader (List Nat) := fun cs => do
  let ((), cs) ← separator ':' index cs
  let (octets, cs) ← octets cs
  match octets with
  | [a, b, c, d] => return ([256 * a + b, 256 * c + d], cs)
  | _ => none

/-- Reads groups, at most `room` of them after `index`, as long as there are any; an embedded IPv4
address, which is told, ends them. -/
def groups : Nat → Nat → List Char → List Nat × Bool × List Char
  | 0, _, cs => ([], false, cs)
  | room + 1, index, cs =>
    match (if room = 0 then none else embedded index cs) with
    | some (pair, rest) => (pair, true, rest)
    | none =>
      match (separator ':' index cs).bind fun (_, rest) => group rest with
      | some (g, rest) =>
        let (more, embeds, rest) := groups room (index + 1) rest
        (g :: more, embeds, rest)
      | none => ([], false, cs)

/-- Reads the groups of an IPv6 address. -/
def eightGroups : Reader (List Nat) := fun cs =>
  let (front, embeds, rest) := groups 8 0 cs
  if front.length = 8 then some (front, rest)
  else if embeds then none
  else do
    let ((), rest) ← given ':' rest
    let ((), rest) ← given ':' rest
    let (back, _, rest) := groups (7 - front.length) 0 rest
    return (front ++ List.replicate (8 - front.length - back.length) 0 ++ back, rest)

def parse? (s : String) : Option IpAddress :=
  match octets s.toList with
  | some (octets, []) => some (.v4 octets)
  | some _ => none
  | none => match eightGroups s.toList with
    | some (groups, []) => some (.v6 groups)
    | _ => none

/-! ## Printing -/

/-- The lengths of the runs of zeros that begin at each place of a list. -/
def zeroRuns : List Nat → List Nat
  | [] => []
  | n :: ns =>
    let runs := zeroRuns ns
    (if n = 0 then runs.headD 0 + 1 else 0) :: runs

def groupsText (gs : List Nat) : String :=
  String.intercalate ":" (gs.map fun g => String.ofList (Text.hexOfNat g))

def octetsText (octets : List Nat) : String := String.intercalate "." (octets.map toString)

def text : IpAddress → String
  | .v4 octets => octetsText octets
  | .v6 [0, 0, 0, 0, 0, 0xffff, a, b] =>
    "::ffff:" ++ octetsText [a / 256, a % 256, b / 256, b % 256]
  | .v6 groups =>
    let runs := zeroRuns groups
    let longest := runs.foldl max 0
    if longest < 2 then groupsText groups
    else
      let start := runs.idxOf longest
      groupsText (groups.take start) ++ "::" ++ groupsText (groups.drop (start + longest))

open Json

instance : ToJson IpAddress := ⟨fun a => .str a.text⟩

instance : FromDoc IpAddress where
  read
    | .text (.ok s) => match parse? s with
      | some a => .ok a
      | none => misfit (.refused "invalid IP address syntax")
    | d => d.unexpected "IP address"

end IpAddress

end OutOfBand
