import OutOfBand.Span
import OutOfBand.Json.Decode

/-!
# Configuration

How long a client lets one driver try, and how an install paces its questions. Lengths of time are
written as seconds and nanoseconds; nanoseconds beyond a second carry over.
-/

namespace OutOfBand

open Json

namespace Span

def secsSlot : Doc.Slot Nat := ⟨"secs", Doc.unsigned 64, none, true⟩

def nanosSlot : Doc.Slot Nat := ⟨"nanos", Doc.unsigned 32, none, true⟩

/-- The shape of a length of time: keys that name no field are refused. -/
def shape : Doc.Shape where
  expected := "struct Duration"
  counted := "struct Duration"
  exact := true
  fields := [secsSlot.field, nanosSlot.field]

instance : ToJson Span where
  json d := .obj [("secs", Json.int d.secs), ("nanos", Json.int d.subsecNanos)]

instance : FromDoc Span where
  read d := do
    let found ← shape.members d
    let secs ← secsSlot.of found
    let nanos ← nanosSlot.of found
    if UInt64.size ≤ secs + nanos / 1000000000 then
      misfit (.refused "overflow deserializing Duration")
    else return ⟨secs * 1000000000 + nanos⟩

end Span

/-- How an install paces its questions about tasks. -/
structure PollPacing where
  /-- The wait between two questions. -/
  interval : Span := .ofSecs 2
  /-- The wait after a fault that is expected while a controller restarts. -/
  backoff : Span := .ofSecs 10
  deriving DecidableEq, Repr, Inhabited

namespace PollPacing

def intervalSlot : Doc.Slot Span := .defaulted "poll_interval" (.ofSecs 2)

def backoffSlot : Doc.Slot Span := .defaulted "transient_backoff" (.ofSecs 10)

instance : ToJson PollPacing where
  json p := .obj [("poll_interval", json p.interval), ("transient_backoff", json p.backoff)]

instance : FromDoc PollPacing where
  read d := do
    let shape := Doc.Shape.of "FirmwarePollConfig" [intervalSlot.field, backoffSlot.field]
    let found ← shape.members d
    return ⟨← intervalSlot.of found, ← backoffSlot.of found⟩

end PollPacing

/-- The settings of a client. -/
structure Config where
  /-- The time that each driver gets; if absent, drivers share the time of the call. -/
  perProvider : Option Span := none
  firmware : PollPacing := {}
  deriving DecidableEq, Repr, Inhabited

namespace Config

def perProviderSlot : Doc.Slot (Option Span) := .defaulted "per_provider_timeout" none

def firmwareSlot : Doc.Slot PollPacing := .defaulted "firmware" {}

instance : ToJson Config where
  json c := .obj [("per_provider_timeout", json c.perProvider), ("firmware", json c.firmware)]

instance : FromDoc Config where
  read d := do
    let shape := Doc.Shape.of "ClientConfig" [perProviderSlot.field, firmwareSlot.field]
    let found ← shape.members d
    return ⟨← perProviderSlot.of found, ← firmwareSlot.of found⟩

end Config

end OutOfBand
