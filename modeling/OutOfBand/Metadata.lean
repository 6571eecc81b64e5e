import OutOfBand.Json.Decode

/-!
# The record of a call

Which drivers a call tried, which of them answered it, and why the others did not. Every call begins
a record of its own.
-/

namespace OutOfBand

open Json

/-- Texts under keys. -/
abbrev Details := List (String × String)

/-- The record of a call. -/
structure Metadata where
  /-- The drivers that were tried, in order. -/
  attempted : List String := []
  /-- The driver whose answer was returned. -/
  successful : Option String := none
  /-- The drivers that opened a session. -/
  opened : List String := []
  /-- The drivers that closed their session. -/
  closed : List String := []
  /-- Why drivers failed, in order of their names. -/
  failures : Details := []
  deriving DecidableEq, Repr, Inhabited

namespace Metadata

/-- The record with one more driver tried. -/
def attempt (m : Metadata) (name : String) : Metadata :=
  { m with attempted := m.attempted ++ [name] }

/-- The record with the driver whose answer was returned. -/
def success (m : Metadata) (name : String) : Metadata := { m with successful := some name }

/-- The record with the reason why a driver failed. -/
def failure (m : Metadata) (name detail : String) : Metadata :=
  { m with failures := put name detail m.failures }

/-- The record with one more driver that opened a session. -/
def sessionOpened (m : Metadata) (name : String) : Metadata :=
  { m with opened := m.opened ++ [name] }

/-- The record with one more driver that closed its session. -/
def sessionClosed (m : Metadata) (name : String) : Metadata :=
  { m with closed := m.closed ++ [name] }

def attemptedSlot : Doc.Slot (List String) := .required "providers_attempted"

def successfulSlot : Doc.Slot (Option String) := .optional "successful_provider"

def openedSlot : Doc.Slot (List String) := .required "successful_open_conns"

def closedSlot : Doc.Slot (List String) := .required "successful_close_conns"

def failuresSlot : Doc.Slot Details :=
  ⟨"failed_provider_detail", Doc.map Doc.string, none, true⟩

instance : ToJson Metadata where
  json m := .obj [("providers_attempted", json m.attempted),
    ("successful_provider", json m.successful), ("successful_open_conns", json m.opened),
    ("successful_close_conns", json m.closed),
    ("failed_provider_detail", .obj (m.failures.map fun (name, why) => (name, .str why)))]

instance : FromDoc Metadata where
  read d := do
    let shape := Doc.Shape.of "Metadata" [attemptedSlot.field, successfulSlot.field,
      openedSlot.field, closedSlot.field, failuresSlot.field]
    let found ← shape.members d
    return ⟨← attemptedSlot.of found, ← successfulSlot.of found, ← openedSlot.of found,
      ← closedSlot.of found, ← failuresSlot.of found⟩

end Metadata

end OutOfBand
