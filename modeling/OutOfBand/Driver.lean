import OutOfBand.Call
import OutOfBand.Operation
import OutOfBand.Registry

/-!
# Drivers

A driver speaks one protocol to a controller. What it can do is told by its capabilities: the
features that it backs, with the operation behind each call, and the session that it may need.
-/

namespace OutOfBand

/-- The session of a driver with a controller. -/
structure Connection (σ : Type) where
  login : Operation σ (Except Fault Unit)
  logout : Operation σ (Except Fault Unit)
  /-- Finds out whether the driver can work with the controller at all. -/
  probe : Operation σ Bool

namespace Connection

/-- The session of a driver that needs none. -/
def trivial : Connection σ where
  login := .answer (.ok ())
  logout := .answer (.ok ())
  probe := .answer true

end Connection

/-- What a driver can do. -/
structure Capabilities (σ : Type) where
  /-- The session, for a driver that needs one. -/
  connection : Option (Connection σ)
  /-- The features that the driver backs. -/
  backs : Features
  /-- The operation behind a call; it matters only for calls of features that are backed. -/
  handle : (c : Call) → Operation σ (Except Fault c.Answer)

namespace Capabilities

/-- The capabilities of a driver that can do nothing. -/
def none : Capabilities σ where
  connection := .none
  backs := .empty
  handle c := .answer (.error (.unsupported c.feature.tag))

/-- The capabilities less the features that are not in the list. -/
def limit (caps : Capabilities σ) (features : List Feature) : Capabilities σ :=
  { caps with backs := ⟨fun f => features.contains f && caps.backs.has f⟩ }

/-- The capabilities in a larger world, of which `get` finds their part and `put` puts it back. -/
def within (get : τ → σ) (put : σ → τ → τ) (caps : Capabilities σ) : Capabilities τ where
  connection := caps.connection.map fun c =>
    ⟨c.login.within get put, c.logout.within get put, c.probe.within get put⟩
  backs := caps.backs
  handle c := (caps.handle c).within get put

def text (caps : Capabilities σ) : String :=
  let session := if caps.connection.isSome then "true" else "false"
  let features := caps.backs.text
  s!"Capabilities \x7b connection: {session}, features: \"{features}\" \x7d"

end Capabilities

/-- A driver: what it offers and what it can do. -/
structure Driver (σ : Type) where
  /-- The name, the protocol and the advertised features. -/
  offer : Offer
  capabilities : Capabilities σ

namespace Driver

instance : Offering (Driver σ) := ⟨Driver.offer⟩

def name (d : Driver σ) : String := d.offer.name

/-- Whether the driver can carry out the calls of a feature. -/
def backs (d : Driver σ) (f : Feature) : Bool := d.capabilities.backs.has f

/-- The driver that advertises just what it can do. -/
def ofCapabilities (name protocol : String) (capabilities : Capabilities σ) : Driver σ :=
  ⟨⟨name, protocol, capabilities.backs⟩, capabilities⟩

end Driver

end OutOfBand
