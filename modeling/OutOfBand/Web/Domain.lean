import OutOfBand.Text.Composition
import OutOfBand.Web.Domain.Direction
import OutOfBand.Web.Domain.Joining
import OutOfBand.Web.Domain.Letters
import OutOfBand.Web.Domain.Punycode

/-!
# Domain names

A domain name is a list of labels with points between them. It may be written in any script, and is
sent in ASCII: capitals and other forms of a character are replaced by the one that counts, and a
label that still holds other characters is written behind the mark `xn--`. A label that is given in
that writing already must be one that would be written so.
-/

namespace OutOfBand.Web.Domain

open Text.Composition (composed)

/-! ## Labels -/

/-- Whether a label holds nothing but ASCII characters. -/
def isAscii (label : List Nat) : Bool := label.all (· < 0x80)

/-- The mark before a label that stands for one of other characters: `xn--`. -/
def mark : List Nat := [0x78, 0x6e, 0x2d, 0x2d]

/-- How long the writing behind the mark may be, and the label that is written so. -/
def longestWriting : Nat := 2000
@[inherit_doc longestWriting] def longestLabel : Nat := 1000

/-- The label that follows the mark, if nothing else would be written like this. -/
def unmarked (writing : List Nat) : Option (List Nat) := do
  guard (isAscii writing && writing.length ≤ longestWriting)
  let label ← Punycode.decode writing
  guard (!isAscii label && !mark.isPrefixOf label)
  guard (label.all isPlain && composed label == label)
  return label

/-- The characters that a label has for its reader. -/
def readable (label : List Nat) : Option (List Nat) :=
  if mark.isPrefixOf label then unmarked (label.drop mark.length) else some label

/-- Whether a readable label is in order by itself. -/
def isSound (label : List Nat) : Bool :=
  isAscii label || (label.length ≤ longestLabel && !label.head?.any marks.has &&
    areJustified [] label)

/-- A readable label as it is sent. -/
def sent (label : List Nat) : List Nat :=
  if isAscii label then label else mark ++ Punycode.encode label

/-! ## Names -/

/-- Whether an ASCII character may not stand in a domain name. -/
def isForbidden (n : Nat) : Bool :=
  n ≤ 0x20 || n == 0x7f || "%#/:<>?@[\\]^|".toList.any (·.toNat == n)

def labelsOf : List Nat → List (List Nat)
  | [] => [[]]
  | n :: ns =>
    match labelsOf ns with
    | [] => [[n]]
    | label :: labels => if n = 0x2e then [] :: label :: labels else (n :: label) :: labels

/-- The name that consists of the given labels. -/
def nameOf (labels : List (List Nat)) : List Nat := [0x2e].intercalate labels

/-- The code points of a domain name as it is sent, if it is one. -/
def ascii? (name : List Nat) : Option (List Nat) := do
  let letters ← name.mapM fold
  let name := composed letters.flatten
  guard (!name.any isForbidden)
  let labels ← (labelsOf name).mapM readable
  guard (labels.all isSound)
  guard (!labels.any (·.any isDirected) || labels.all fun l => l.isEmpty || isOrdered l)
  return nameOf (labels.map sent)

/-- The domain name `s` as it is sent, if it is one. -/
def toAscii (s : List Char) : Option (List Char) :=
  (ascii? (s.map Char.toNat)).map fun ns => ns.map Char.ofNat

end OutOfBand.Web.Domain
