import OutOfBand.Registry

/-!
# Entries that are marked when they are taken

A registry is brought into an order of protocols by going through it once for each of them. An entry
for the protocol is taken unless its place is marked, and then its place is marked; so a protocol
that comes again takes nothing. In the end all entries whose places are not marked are taken. This
gives the order of `View.preferProtocol`.
-/

namespace OutOfBand.Registry

variable {α : Type} [Offering α]

/-- The entries that have been taken so far, and for each place of the registry whether its entry is
among them. -/
structure Marking (α : Type) where
  marks : List Bool
  ordered : List α

namespace Marking

/-- Nothing has been taken of a registry with so many entries. -/
def blank (count : Nat) : Marking α := ⟨List.replicate count false, []⟩

/-- Whether the entry at a place is still there. -/
def isFree (m : Marking α) (place : Nat) : Bool := m.marks[place]? == some false

/-- Takes the entry at a place. -/
def take (m : Marking α) (a : α) (place : Nat) : Marking α :=
  ⟨m.marks.set place true, m.ordered ++ [a]⟩

/-- Takes the entry at a place if it is still there and for the protocol. -/
def visit (protocol : String) (m : Marking α) (entry : α × Nat) : Marking α :=
  if m.isFree entry.2 && protocolOf entry.1 == protocol then m.take entry.1 entry.2 else m

/-- Goes through the registry once. -/
def turn (registry : List α) (m : Marking α) (protocol : String) : Marking α :=
  registry.zipIdx.foldl (visit protocol) m

/-- The entries that are still there. -/
def rest (m : Marking α) (registry : List α) : List α :=
  (registry.zipIdx.filter fun entry => m.isFree entry.2).map Prod.fst

end Marking

/-- The entries in the order in which they are taken for the protocols, and the others at the
end. -/
def byMarks (protocols : List String) (registry : List α) : List α :=
  let m := protocols.foldl (Marking.turn registry) (.blank registry.length)
  m.ordered ++ m.rest registry

end OutOfBand.Registry
