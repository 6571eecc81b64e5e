import OutOfBand.Catalog
import OutOfBand.Client
import OutOfBand.Ipmi.Tool
import OutOfBand.Redfish.Service
import OutOfBand.Rpc.Bridge
import OutOfBand.Wake.Packet

/-!
# The built-in drivers

The drivers that are there without further ado, in order of preference: the remote call bridge,
Redfish, the IPMI tool and the wake-up packet. Each is set up for a target only if the target has
what the driver needs.
-/

namespace OutOfBand

/-- How the drivers reach what is outside, in a world of type `σ`. -/
structure Reach (σ : Type) where
  /-- Sends a request to a web service. -/
  web : Web.Request → σ → Web.Outcome × σ
  /-- Runs the IPMI tool. -/
  tool : Ipmi.Command → σ → Ipmi.Outcome × σ
  /-- Sends a packet; the answer says why it was not sent, if it was not. -/
  packet : Wake.Packet → σ → Option String × σ
  /-- Stamps a request to the consumer of remote calls. -/
  stamp : Nat → σ → Rpc.Stamp × σ

/-- What the built-in drivers work in: the memory of the Redfish driver, and the world outside. -/
abbrev Site (σ : Type) := Redfish.State × σ

namespace Builtin

/-- The capabilities of a driver that remembers nothing. -/
def outside (caps : Capabilities σ) : Capabilities (Site σ) :=
  caps.within Prod.snd fun w site => (site.1, w)

def registration (name protocol : String) (features : List Feature)
    (init : Target → Except Fault (Capabilities (Site σ))) : Registration (Site σ) :=
  ⟨⟨name, protocol, .ofList features⟩, init⟩

def catalog (reach : Reach σ) : Catalog (Site σ) :=
  [registration Rpc.name Rpc.name Rpc.features fun target =>
      (Rpc.init target reach.stamp reach.web).map outside,
    registration Redfish.name Redfish.name Redfish.features fun target =>
      Redfish.init target reach.web,
    registration Ipmi.name Ipmi.protocol Ipmi.features fun target =>
      (Ipmi.init target reach.tool).map outside,
    registration Wake.name Wake.name Wake.features fun target =>
      (Wake.init target reach.packet).map outside]

end Builtin

/-- The client for a target, and why drivers are left out. -/
def Client.ofTarget (reach : Reach σ) (target : Target) (config : Config) :
    Client (Site σ) × List RegistryError :=
  let (registry, errors) := (Builtin.catalog reach).instantiate target
  (⟨registry, config⟩, errors)

end OutOfBand
