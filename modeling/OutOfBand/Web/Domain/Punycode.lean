/-!
# Labels in ASCII

A label of any characters is written with letters, digits and hyphens: first its ASCII characters
and a hyphen, then where to put the others, from the lowest code point to the highest and each from
left to right. The steps between those places are numbers in base 36 whose digits end at thresholds
that adapt to the numbers before.
-/

namespace OutOfBand.Web.Domain.Punycode

/-! ## Digits -/

/-- The digit of value `d`, for `d` below 36. -/
def digit (d : Nat) : Nat := if d < 26 then 0x61 + d else 0x30 + (d - 26)

def valueOf (n : Nat) : Option Nat :=
  if 0x61 ≤ n && n ≤ 0x7a then some (n - 0x61)
  else if 0x30 ≤ n && n ≤ 0x39 then some (n - 0x30 + 26)
  else none

/-- The threshold of the digit at a place, counted in steps of 36: a digit below it is the last. -/
def threshold (bias place : Nat) : Nat := min 26 (max 1 (place - bias))

theorem threshold_pos (bias place : Nat) : 0 < threshold bias place := by
  simp only [threshold]
  omega

/-! ## Bias -/

/-- Divides by 35 down to a bound, and counts how often. -/
def reduced (delta : Nat) : Nat × Nat :=
  if 455 < delta then
    let (rest, times) := reduced (delta / 35)
    (rest, times + 1)
  else (delta, 0)
termination_by delta
decreasing_by omega

/-- The bias after the step `delta`, with which a label has `count` characters. -/
def adapted (delta count : Nat) (first : Bool) : Nat :=
  let delta := delta / (if first then 700 else 2)
  let (rest, times) := reduced (delta + delta / count)
  36 * times + 36 * rest / (rest + 38)

/-- The first code point that is not ASCII, from which steps are counted. -/
def firstOther : Nat := 0x80

def firstBias : Nat := 72

/-! ## Writing -/

/-- The digits of a number from a place on. -/
def digits (bias place n : Nat) : List Nat :=
  let t := threshold bias place
  if n < t then [digit n]
  else digit (t + (n - t) % (36 - t)) :: digits bias (place + 36) ((n - t) / (36 - t))
termination_by n
decreasing_by
  have pos := threshold_pos bias place
  have := Nat.div_le_self (n - threshold bias place) (36 - threshold bias place)
  omega

/-- Where the writing of a label stands: what is written, the step since then, the bias, and how
many characters are placed. -/
structure Writing where
  written : List Nat
  delta : Nat
  bias : Nat
  placed : Nat

/-- Passes the character `n` on the way to those of the code point `next`. -/
def Writing.pass (basic next : Nat) (w : Writing) (n : Nat) : Writing :=
  if n < next then { w with delta := w.delta + 1 }
  else if n = next then
    { written := w.written ++ digits w.bias 36 w.delta
      delta := 0
      bias := adapted w.delta (w.placed + 1) (w.placed == basic)
      placed := w.placed + 1 }
  else w

/-- Writes the characters of the code points `others`, which ascend from `start` on. -/
def Writing.all (label : List Nat) (basic start : Nat) (w : Writing) : List Nat → Writing
  | [] => w
  | next :: others =>
    let reached := { w with delta := w.delta + (next - start) * (w.placed + 1) }
    let passed := label.foldl (Writing.pass basic next) reached
    Writing.all label basic (next + 1) { passed with delta := passed.delta + 1 } others

/-- Puts `n` into a list that ascends, unless it is there. -/
def inserted (n : Nat) : List Nat → List Nat
  | [] => [n]
  | m :: ms => if n < m then n :: m :: ms else if n = m then m :: ms else m :: inserted n ms

def encode (label : List Nat) : List Nat :=
  let basic := label.filter (· < firstOther)
  let others := (label.filter (firstOther ≤ ·)).foldr inserted []
  let head := if basic.isEmpty then [] else basic ++ [0x2d]
  (Writing.all label basic.length firstOther ⟨head, 0, firstBias, basic.length⟩ others).written

/-! ## Reading -/

/-- Reads a number: what it adds up to from a place of the given weight on, and what follows. -/
def readNumber (bias place weight : Nat) : List Nat → Option (Nat × List Nat)
  | [] => none
  | n :: rest => do
    let d ← valueOf n
    let t := threshold bias place
    if d < t then return (d * weight, rest)
    else
      let (more, rest) ← readNumber bias (place + 36) (weight * (36 - t)) rest
      return (d * weight + more, rest)

/-- What follows a number is shorter than what it was read from. -/
theorem length_readNumber {bias place weight : Nat} {ns : List Nat} {r : Nat × List Nat}
    (h : readNumber bias place weight ns = some r) : r.2.length < ns.length := by
  induction ns generalizing place weight r with
  | nil => simp [readNumber] at h
  | cons n rest ih =>
    simp only [readNumber, Option.bind_eq_bind, Option.bind_eq_some_iff] at h
    obtain ⟨d, -, h⟩ := h
    split at h
    · obtain rfl := Option.some.inj h
      simp
    · obtain ⟨r', h', h⟩ := Option.bind_eq_some_iff.1 h
      obtain rfl := Option.some.inj h
      have := ih h'
      simp only [List.length_cons]
      omega

/-- Reads the places of further characters and puts them into `label`, from the character and the
place on at which the last one was put. -/
def readOthers (last bias start : Nat) (first : Bool) (label : List Nat) (ns : List Nat) :
    Option (List Nat) :=
  match ns with
  | [] => some label
  | n :: rest =>
    match h : readNumber bias 36 1 (n :: rest) with
    | none => none
    | some (delta, after) =>
      let count := label.length + 1
      let next := last + (start + delta) / count
      let place := (start + delta) % count
      if Nat.isValidChar next then
        readOthers next (adapted delta count first) (place + 1) false
          (label.insertIdx place next) after
      else none
termination_by ns.length
decreasing_by exact length_readNumber h

/-- The label that ASCII characters stand for. -/
def decode (ns : List Nat) : Option (List Nat) :=
  let isHyphen (n : Nat) : Bool := n == 0x2d
  let tail := (ns.reverse.takeWhile (!isHyphen ·)).reverse
  let head := ns.take (ns.length - tail.length)
  if head.isEmpty then readOthers firstOther firstBias 0 true [] tail
  else if head.length = 1 then none
  else readOthers firstOther firstBias 0 true head.dropLast tail

end OutOfBand.Web.Domain.Punycode
