import OutOfBand.Text.Composition.Classes
import OutOfBand.Text.Composition.Parts

/-!
# Composed text

Text that looks the same can be written in several ways, with characters or with the parts that they
are made of. `composed` brings text into the one form that has a character of its own wherever there
is one: it takes every character apart, puts the marks of a character into the order of their
classes, and puts the parts together again from left to right. A mark reaches its character only if
no other mark of its class or a higher one stands in between.
-/

namespace OutOfBand.Text.Composition

/-! ## Hangul

A syllable is a lead, a vowel and maybe a tail; the syllables are numbered in the order of these. -/

/-- The first syllable, lead and vowel, and the code point before the first tail. -/
def syllableBase : Nat := 0xac00
@[inherit_doc syllableBase] def leadBase : Nat := 0x1100
@[inherit_doc syllableBase] def vowelBase : Nat := 0x1161
@[inherit_doc syllableBase] def tailBase : Nat := 0x11a7

/-- The numbers of leads, vowels and tails, where no tail counts as one. -/
def leadCount : Nat := 19
@[inherit_doc leadCount] def vowelCount : Nat := 21
@[inherit_doc leadCount] def tailCount : Nat := 28

/-- Whether the code point `n` lies among the first `count` from `base` on. -/
def isAmong (base count n : Nat) : Bool := base ≤ n && n < base + count

/-- Whether the code point `n` is a syllable. -/
def isSyllable (n : Nat) : Bool := isAmong syllableBase (leadCount * vowelCount * tailCount) n

def partsOfSyllable (n : Nat) : List Nat :=
  let index := n - syllableBase
  let pair := index / tailCount
  let tail := index % tailCount
  [leadBase + pair / vowelCount, vowelBase + pair % vowelCount] ++
    if tail = 0 then [] else [tailBase + tail]

/-- The syllable of a lead and a vowel, or of a syllable without a tail and a tail. -/
def syllableOf? (a b : Nat) : Option Nat :=
  if isAmong leadBase leadCount a && isAmong vowelBase vowelCount b then
    some (syllableBase + ((a - leadBase) * vowelCount + (b - vowelBase)) * tailCount)
  else if isSyllable a && (a - syllableBase) % tailCount == 0 &&
      isAmong (tailBase + 1) (tailCount - 1) b then
    some (a + (b - tailBase))
  else none

/-! ## Taking apart -/

/-- How often a part has parts in turn, at most. -/
def partDepth : Nat := 3

/-- The elements of the code point `n`, taken apart so many times. -/
def elements : Nat → Nat → List Nat
  | 0, n => [n]
  | depth + 1, n =>
    if isSyllable n then partsOfSyllable n
    else match composites.get? n, singletons.get? n with
      | some parts, _ | none, some parts => parts.flatMap (elements depth)
      | none, none => [n]

/-- Puts the code point `n` behind others, the last of which comes first: a mark goes before the
marks of higher classes. -/
def place (n : Nat) : List Nat → List Nat
  | [] => [n]
  | m :: before =>
    if 0 < classOf n && classOf n < classOf m then m :: place n before else n :: m :: before

/-- Code points with their marks in order. -/
def ordered (ns : List Nat) : List Nat := (ns.foldl (fun before n => place n before) []).reverse

/-! ## Putting together -/

/-- The code point for which `a` and `b` stand. -/
def joined? (a b : Nat) : Option Nat := (syllableOf? a b).or (composites.source? [a, b])

/-- Puts the rest of a text together from the character `base` on, which is followed by `marks` that
did not join it, the last of which comes first. -/
def composedFrom (base : Nat) (marks : List Nat) : List Nat → List Nat
  | [] => base :: marks.reverse
  | n :: rest =>
    let reaches := marks.head?.all fun m => classOf m < classOf n
    match if reaches then joined? base n else none with
    | some whole => composedFrom whole marks rest
    | none =>
      if classOf n = 0 then base :: marks.reverse ++ composedFrom n [] rest
      else composedFrom base (n :: marks) rest

/-- The code points of the same text in composed form. Text of characters before the first mark is
composed already. -/
def composed (ns : List Nat) : List Nat :=
  if ns.all (· < 0x300) then ns
  else match ordered (ns.flatMap (elements partDepth)) with
    | [] => []
    | n :: rest => composedFrom n [] rest

end OutOfBand.Text.Composition
