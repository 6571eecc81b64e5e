import OutOfBand.Fault
import OutOfBand.Json.Decode

/-!
# Vocabularies

A vocabulary is a finite type each of whose values has a name of its own, under which it is written
and read. Most are read as variants; a few are read as texts, so that a wrong name is a fault of the
configuration.
-/

namespace OutOfBand

open Json

/-- A finite type whose values have names of their own. -/
class Vocabulary (α : Type) where
  /-- The values, in order. -/
  all : List α
  /-- The name of a value. -/
  name : α → String

namespace Vocabulary

/-- The value called `s`, if there is one. -/
def find? [Vocabulary α] (s : String) : Option α := (all : List α).find? (name · == s)

/-- The names of the values, each with its value. -/
def entries (α : Type) [Vocabulary α] : List (String × α) := all.map fun a => (name a, a)

def toJson [Vocabulary α] (a : α) : Json := .str (name a)

def fromDoc [Vocabulary α] : Doc → Except Defect α := Doc.variant (entries α)

/-- The value called `s`; where there is none, `kind` tells of what kind it should have been. -/
def parse [Vocabulary α] (kind : String) (s : String) : Except Fault α :=
  match find? s with
  | some a => .ok a
  | none => .error (.invalidConfig s!"unknown {kind}: {s}")

/-- Reads a value of the given kind as a text. -/
def fromText [Vocabulary α] (kind : String) (d : Doc) : Except Defect α := do
  let s ← d.string
  match parse kind s with
  | .ok a => return a
  | .error f => misfit (.refused f.message)

end Vocabulary

end OutOfBand
