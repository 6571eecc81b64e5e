import OutOfBand.Net.IpAddress
import OutOfBand.Text.Blank
import OutOfBand.Web.Domain
import OutOfBand.Web.Percent

/-!
# Hosts

The host of a URL is a domain name, an IPv4 address, or an IPv6 address between brackets. A name
whose last label is a number has to be an IPv4 address; it may have fewer than four parts, in base
ten, eight or sixteen, of which the last one fills the octets that are left. URLs of schemes that
need no host may have any other word in its place.
-/

namespace OutOfBand.Web.Host

/-! ## IPv4 addresses -/

/-- The number that a part of an IPv4 address writes, in base ten, eight or sixteen. -/
def partValue (cs : List Char) : Option Nat :=
  let inBase (base : Nat) (digits : List Char) : Option Nat := do
    let values ← digits.mapM Text.hexValue
    if values.all (· < base) then some (values.foldl (fun n d => base * n + d) 0) else none
  match cs with
  | [] => none
  | '0' :: 'x' :: rest | '0' :: 'X' :: rest => inBase 16 rest
  | '0' :: rest => inBase 8 rest
  | cs => inBase 10 cs

/-- The parts of a host between its points; an empty part at the end does not count. -/
def parts (host : List Char) : List (List Char) :=
  let parts := Text.splitAt (· == '.') host
  if 1 < parts.length && parts.getLast? == some [] then parts.dropLast else parts

/-- Whether a host has to be an IPv4 address, since its last part is a number. -/
def endsInNumber (host : List Char) : Bool :=
  match (parts host).getLast? with
  | none | some [] => false
  | some last => last.all Decimal.isDigit || (partValue last).isSome

/-- The IPv4 address that numbers stand for: the last one fills the octets that are left. -/
def octetsOf : Nat → List Nat → Option (List Nat)
  | 0, _ => none
  | _ + 1, [] => none
  | room + 1, [last] =>
    if last < Nat.pow 256 (room + 1) then
      some ((List.range (room + 1)).reverse.map fun i => last / Nat.pow 256 i % 256)
    else none
  | room + 1, n :: ns => if n < 256 then (octetsOf room ns).map (n :: ·) else none

/-! ## IPv6 addresses -/

/-- The groups of an IPv6 address without any written as IPv4. -/
def groupsText (groups : List Nat) : String :=
  let runs := IpAddress.zeroRuns groups
  let longest := runs.foldl max 0
  if longest < 2 then IpAddress.groupsText groups
  else
    let start := runs.idxOf longest
    IpAddress.groupsText (groups.take start) ++ "::" ++
      IpAddress.groupsText (groups.drop (start + longest))

/-- The IPv6 address that follows an opening bracket and ends with the closing one. -/
def bracketed? (rest : List Char) : Option String :=
  if rest.getLast? == some ']' then
    match IpAddress.eightGroups rest.dropLast with
    | some (groups, []) => some s!"[{groupsText groups}]"
    | _ => none
  else none

/-! ## Names -/

/-- The host of a domain name or an IPv4 address. -/
def named? (name : List Char) : Option String := do
  let host ← Domain.toAscii (Text.Utf8.decode (decodedBytes name)).toList
  guard !host.isEmpty
  if endsInNumber host then
    let numbers ← (parts host).mapM partValue
    let octets ← octetsOf 4 numbers
    return IpAddress.octetsText octets
  else return String.ofList host

/-- The host that characters write in a URL that cannot do without, as it is printed. -/
def of? : List Char → Option String
  | '[' :: rest => bracketed? rest
  | name => named? name

/-- What no word in the place of a host holds. -/
def forbidden : List Char :=
  [' ', '#', '/', ':', '<', '>', '?', '@', '[', '\\', ']', '^', '|']

/-- The host that characters write in a URL that may do without, as it is printed. -/
def free? : List Char → Option String
  | '[' :: rest => bracketed? rest
  | word =>
    if word.any fun c => c.toNat == 0 || forbidden.contains c then none
    else some (String.ofList (encoded [] word))

end OutOfBand.Web.Host
