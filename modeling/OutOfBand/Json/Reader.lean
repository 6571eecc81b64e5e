import OutOfBand.Json.Doc
import OutOfBand.Text.Hex
import OutOfBand.Text.Utf8

/-!
# Reading JSON texts

`Document.ofText` reads the text of one JSON value, as far as it is one, and tells whether anything
but blanks follows. The recursion is bounded by a number of steps computed from the length of the
text, which the text cannot exceed: every second step takes a character.

`Document.ofBytes` does so with bytes, which need not be UTF-8 throughout. Where they are not, the
text has a flaw, which can stand only between quotes; a reader that skips what is written there does
not look at it.
-/

namespace OutOfBand.Json

/-- The text without the blanks of JSON at its start. -/
def skipBlanks (cs : List Char) : List Char :=
  cs.dropWhile fun c => c == ' ' || c == '\n' || c == '\t' || c == '\r'

/-- A value, and the text after it if that can be read on. -/
abbrev Found := Doc × Option (List Char)

/-- A fault that both standards of reading see alike. -/
def Found.fault (breach : Breach) : Found := (.broken breach breach, none)

/-! ## Words and numbers -/

/-- Whether a document is the word `null`. -/
def Doc.isNull : Doc → Bool
  | .null => true
  | _ => false

/-- The rest of the word of which `word` is still to come, and which means `doc`. -/
def readWord (doc : Doc) : List Char → List Char → Found
  | [], cs => (doc, some cs)
  | _ :: _, [] => (.stump doc.isNull .cutShort .cutShort, none)
  | w :: word, c :: cs =>
    if c == w then readWord doc word cs else (.stump doc.isNull .malformed .malformed, none)

/-- The fault of a numeral that lacks a digit where `cs` begins. -/
def lacksDigit (cs : List Char) : Found :=
  (.stump false (if cs.isEmpty then .cutShort else .malformed) .malformed, none)

/-- Reads the exponent of a numeral, if there is one. -/
def readExponent (negative : Bool) (whole fraction : List Char) (cs : List Char) : Found :=
  match cs with
  | c :: rest =>
    if c == 'e' || c == 'E' then
      let (down, rest) := Decimal.sign rest
      let digits := rest.takeWhile Decimal.isDigit
      if digits.isEmpty then lacksDigit rest
      else (.num ⟨negative, whole, fraction, some (down, digits)⟩,
        some (rest.dropWhile Decimal.isDigit))
    else (.num ⟨negative, whole, fraction, none⟩, some cs)
  | [] => (.num ⟨negative, whole, fraction, none⟩, some cs)

/-- Reads the fraction of a numeral, if there is one, and what follows. -/
def readFraction (negative : Bool) (whole : List Char) (cs : List Char) : Found :=
  match cs with
  | '.' :: rest =>
    let digits := rest.takeWhile Decimal.isDigit
    if digits.isEmpty then lacksDigit rest
    else readExponent negative whole digits (rest.dropWhile Decimal.isDigit)
  | _ => readExponent negative whole [] cs

def readNumeral (negative : Bool) (cs : List Char) : Found :=
  match cs.takeWhile Decimal.isDigit with
  | [] => lacksDigit cs
  | ['0'] => readFraction negative ['0'] (cs.dropWhile Decimal.isDigit)
  | '0' :: _ => (.stump false .malformed .malformed, none)
  | digits => readFraction negative digits (cs.dropWhile Decimal.isDigit)

/-! ## Texts -/

/-- What a text is written in: characters, and numbers of UTF-16 units. -/
inductive Piece where
  | char (c : Char)
  | unit (n : Nat)

/-- The number that four hexadecimal digits write. -/
def fourDigits (a b c d : Char) : Option Nat := do
  let a ← Text.hexValue a
  let b ← Text.hexValue b
  let c ← Text.hexValue c
  let d ← Text.hexValue d
  return ((a * 16 + b) * 16 + c) * 16 + d

/-- The character for which a letter after a backslash stands. -/
def shortEscape (c : Char) : Option Char :=
  if c == '"' || c == '\\' || c == '/' then some c
  else if c == 'b' then some (Char.ofNat 8)
  else if c == 'f' then some (Char.ofNat 12)
  else if c == 'n' then some '\n'
  else if c == 'r' then some '\r'
  else if c == 't' then some '\t'
  else none

/-- The bytes that the characters take in UTF-8. -/
def byteCount (cs : List Char) : Nat := cs.foldl (fun n c => n + c.utf8Size) 0

/-- The pieces of the text that begins after a quote, and either the rest of the document after the
closing quote or the fault that ends the text. -/
def readPieces : List Char → List Piece × Except Breach (List Char)
  | [] => ([], .error .cutShort)
  | '"' :: cs => ([], .ok cs)
  | ['\\'] => ([], .error .cutShort)
  | '\\' :: 'u' :: a :: b :: c :: d :: cs =>
    match fourDigits a b c d with
    | some n =>
      let (pieces, rest) := readPieces cs
      (.unit n :: pieces, rest)
    | none => ([], .error .malformed)
  | '\\' :: c :: cs =>
    if c == 'u' then ([], .error (if byteCount cs < 4 then .cutShort else .malformed))
    else match shortEscape c with
      | some e =>
        let (pieces, rest) := readPieces cs
        (.char e :: pieces, rest)
      | none => ([], .error .malformed)
  | c :: cs =>
    if c.toNat < 0x20 then ([], .error .malformed)
    else
      let (pieces, rest) := readPieces cs
      (.char c :: pieces, rest)

/-- Whether `n` is the first unit of a pair. -/
def isLeading (n : Nat) : Bool := 0xd800 ≤ n && n ≤ 0xdbff

/-- Whether `n` is the second unit of a pair. -/
def isTrailing (n : Nat) : Bool := 0xdc00 ≤ n && n ≤ 0xdfff

/-- The characters of a text, for a strict reader: units must come in pairs or stand for characters
by themselves. A text that ends with a fault has that fault unless an earlier one. -/
def joined (fault : Option Breach) : List Piece → Except Breach (List Char)
  | [] => match fault with
    | some breach => .error breach
    | none => .ok []
  | .char c :: pieces => (joined fault pieces).map (c :: ·)
  | .unit n :: .unit m :: pieces =>
    if isLeading n then
      if isTrailing m then
        let c := Char.ofNat (0x10000 + (n - 0xd800) * 0x400 + (m - 0xdc00))
        (joined fault pieces).map (c :: ·)
      else .error .malformed
    else if isTrailing n then .error .malformed
    else (joined fault (.unit m :: pieces)).map (Char.ofNat n :: ·)
  | .unit n :: pieces =>
    if isLeading n then
      match pieces with
      | [] => .error (fault.getD .malformed)
      | _ => .error .malformed
    else if isTrailing n then .error .malformed
    else (joined fault pieces).map (Char.ofNat n :: ·)

/-- Whether there is a flaw in `cs` before `rest`, the end of it. A flaw is told by the number of
characters after it. -/
def isFlawed (flaws : List Nat) (cs rest : List Char) : Bool :=
  flaws.any fun n => rest.length ≤ n && n < cs.length

/-- Reads a text after its opening quote. -/
def readText (flaws : List Nat) (cs : List Char) : Found :=
  match readPieces cs with
  | (pieces, .ok rest) =>
    (.text (if isFlawed flaws cs rest then .error .malformed
      else (joined none pieces).map String.ofList), some rest)
  | (pieces, .error breach) =>
    match joined (some breach) pieces with
    | .error strict => (.broken strict breach, none)
    | .ok _ => (.broken breach breach, none)

/-- Reads a value that is neither an array nor an object. -/
def readScalar (flaws : List Nat) (cs : List Char) : Found :=
  match cs with
  | [] => .fault .cutShort
  | 'n' :: rest => readWord .null ['u', 'l', 'l'] rest
  | 't' :: rest => readWord (.bool true) ['r', 'u', 'e'] rest
  | 'f' :: rest => readWord (.bool false) ['a', 'l', 's', 'e'] rest
  | '"' :: rest => readText flaws rest
  | '-' :: rest => readNumeral true rest
  | c :: rest => if Decimal.isDigit c then readNumeral false (c :: rest) else .fault .malformed

/-! ## Arrays and objects -/

/-- An array or object at the given level, marked if that is too deep. -/
def Doc.atDepth (depth : Nat) (doc : Doc) : Doc := if depth < maxDepth then doc else .deep doc

mutual

/-- Reads a value inside `depth` arrays and objects. -/
def readValue (flaws : List Nat) : Nat → Nat → List Char → Found
  | 0, _, _ => .fault .malformed
  | steps + 1, depth, cs =>
    match skipBlanks cs with
    | '[' :: rest =>
      let (items, ending, rest) := readItems flaws steps (depth + 1) true rest
      ((Doc.arr items ending).atDepth depth, rest)
    | '\x7b' :: rest =>
      let (members, ending, rest) := readMembers flaws steps (depth + 1) true rest
      ((Doc.obj members ending).atDepth depth, rest)
    | cs => readScalar flaws cs

/-- Reads the items of an array from the first one or, otherwise, from the comma before one. -/
def readItems (flaws : List Nat) : Nat → Nat → Bool → List Char →
    List Doc × Ending × Option (List Char)
  | 0, _, _, _ => ([], .broken .malformed, none)
  | steps + 1, depth, first, cs =>
    let item (cs : List Char) : List Doc × Ending × Option (List Char) :=
      match readValue flaws steps depth cs with
      | (doc, none) => ([doc], .broken .malformed, none)
      | (doc, some rest) =>
        let (items, ending, rest) := readItems flaws steps depth false rest
        (doc :: items, ending, rest)
    match skipBlanks cs with
    | [] => ([], .broken .cutShort, none)
    | ']' :: rest => ([], .closed, some rest)
    | c :: rest =>
      if first then item (c :: rest)
      else if c == ',' then
        match skipBlanks rest with
        | [] => ([], .comma .cutShort, none)
        | ']' :: _ => ([], .comma .malformed, none)
        | rest => item rest
      else ([], .broken .malformed, none)

/-- Reads the members of an object from the first key or, otherwise, from the comma before one. -/
def readMembers (flaws : List Nat) : Nat → Nat → Bool → List Char →
    List (Except Breach String × Doc) × Ending × Option (List Char)
  | 0, _, _, _ => ([], .broken .malformed, none)
  | steps + 1, depth, first, cs =>
    let member (cs : List Char) :
        List (Except Breach String × Doc) × Ending × Option (List Char) :=
      match readText flaws cs with
      | (.text key, some rest) =>
        match skipBlanks rest with
        | [] => ([(key, .broken .cutShort .cutShort)], .broken .malformed, none)
        | ':' :: rest =>
          match readValue flaws steps depth rest with
          | (doc, none) => ([(key, doc)], .broken .malformed, none)
          | (doc, some rest) =>
            let (members, ending, rest) := readMembers flaws steps depth false rest
            ((key, doc) :: members, ending, rest)
        | _ => ([(key, .broken .malformed .malformed)], .broken .malformed, none)
      | (.broken strict skipped, _) => ([], .key strict skipped, none)
      | _ => ([], .broken .malformed, none)
    match skipBlanks cs with
    | [] => ([], .broken .cutShort, none)
    | '\x7d' :: rest => ([], .closed, some rest)
    | '"' :: rest => if first then member rest else ([], .broken .malformed, none)
    | c :: rest =>
      if !first && c == ',' then
        match skipBlanks rest with
        | [] => ([], .comma .cutShort, none)
        | '"' :: rest => member rest
        | _ => ([], .comma .malformed, none)
      else ([], .broken .malformed, none)

end

/-- A document, and whether the text holds more than blanks after it. -/
structure Document where
  root : Doc
  trailing : Bool

namespace Document

def read (flaws : List Nat) (cs : List Char) : Document :=
  match readValue flaws (2 * cs.length + 2) 0 cs with
  | (root, none) => ⟨root, false⟩
  | (root, some rest) => ⟨root, !(skipBlanks rest).isEmpty⟩

def ofText (s : String) : Document := read [] s.toList

/-- The flaws among some characters, each told by the number of characters after it. -/
def flawsOf : List (Option Char) → List Nat
  | [] => []
  | some _ :: cs => flawsOf cs
  | none :: cs => cs.length :: flawsOf cs

def ofBytes (bytes : List UInt8) : Document :=
  let cs := Text.Utf8.characters bytes
  read (flawsOf cs) (Text.Utf8.mended cs)

end Document

end OutOfBand.Json
