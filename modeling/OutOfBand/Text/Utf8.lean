/-!
# Reading UTF-8 that may be damaged

Output of outside tools and hosts is meant to be UTF-8 but need not be. It has a flaw in place of
each longest piece that begins a character and cannot be continued, and of each byte that can begin
none (`characters`). `decode` reads a flaw as the replacement character `U+FFFD`. Text that is UTF-8
is read as it is.
-/

namespace OutOfBand.Text.Utf8

def replacement : Char := Char.ofNat 0xfffd

/-- A range of bytes, both ends included. -/
structure Range where
  low : UInt8
  high : UInt8

/-- Whether the byte `b` lies in the range `r`. -/
def Range.has (r : Range) (b : UInt8) : Bool := r.low ≤ b && b ≤ r.high

/-- The bytes `80` to `BF` that continue a character. -/
def tail : Range := ⟨0x80, 0xbf⟩

/-- The bits that the first byte `b` of a longer character contributes and the ranges in which the
bytes after it must lie; nothing for a byte that begins no longer character. -/
def lead (b : UInt8) : Option (Nat × List Range) :=
  if 0xc2 ≤ b && b ≤ 0xdf then some (b.toNat - 0xc0, [tail])
  else if b == 0xe0 then some (0, [⟨0xa0, 0xbf⟩, tail])
  else if b == 0xed then some (0xd, [⟨0x80, 0x9f⟩, tail])
  else if 0xe1 ≤ b && b ≤ 0xef then some (b.toNat - 0xe0, [tail, tail])
  else if b == 0xf0 then some (0, [⟨0x90, 0xbf⟩, tail, tail])
  else if 0xf1 ≤ b && b ≤ 0xf3 then some (b.toNat - 0xf0, [tail, tail, tail])
  else if b == 0xf4 then some (4, [⟨0x80, 0x8f⟩, tail, tail])
  else none

/-- A character of which some bytes have been read: their bits, the range of the next byte, and
those of the bytes after it. -/
structure Partial where
  bits : Nat
  next : Range
  later : List Range

/-- What the byte `b` at the start of a character yields: characters that are finished, and flaws,
and a character that it begins. -/
def start (b : UInt8) : List (Option Char) × Option Partial :=
  if b < 0x80 then ([some (Char.ofNat b.toNat)], none)
  else match lead b with
    | some (bits, next :: later) => ([], some ⟨bits, next, later⟩)
    | _ => ([none], none)

/-- What the byte `b` yields after the unfinished character `p`. -/
def continued (p : Partial) (b : UInt8) : List (Option Char) × Option Partial :=
  if p.next.has b then
    let bits := 64 * p.bits + (b.toNat - 0x80)
    match p.later with
    | [] => ([some (Char.ofNat bits)], none)
    | next :: later => ([], some ⟨bits, next, later⟩)
  else
    let (finished, begun) := start b
    (none :: finished, begun)

/-- The characters and flaws that `bytes` yields after the unfinished character, if any. -/
def charactersFrom : Option Partial → List UInt8 → List (Option Char)
  | none, [] => []
  | some _, [] => [none]
  | none, b :: bytes => (start b).1 ++ charactersFrom (start b).2 bytes
  | some p, b :: bytes => (continued p b).1 ++ charactersFrom (continued p b).2 bytes

/-- The characters of `bytes`, and nothing in place of each flaw. -/
def characters (bytes : List UInt8) : List (Option Char) := charactersFrom none bytes

/-- Characters with `U+FFFD` in place of each flaw. -/
def mended (cs : List (Option Char)) : List Char := cs.map (·.getD replacement)

/-- The text of `bytes`, with `U+FFFD` in place of each flaw. -/
def decode (bytes : List UInt8) : String := String.ofList (mended (characters bytes))

def encode (s : String) : List UInt8 := s.toUTF8.toList

end OutOfBand.Text.Utf8
