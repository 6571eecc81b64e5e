import OutOfBand.Driver
import OutOfBand.Target
import OutOfBand.Text.Quoted

/-!
# Catalogs

A catalog lists the drivers that there are, each with the way to set it up for a target. A name is
registered once only. Setting up all drivers of a catalog gives a registry of those that are ready
for the target, and for each of the others the reason why it is left out.
-/

namespace OutOfBand

/-- Why a driver is not registered, or left out for a target. -/
inductive RegistryError where
  /-- The name is taken. -/
  | duplicate (driver : String)
  /-- The driver advertises a feature that it does not back. -/
  | missingCapability (driver : String) (feature : Feature)
  /-- The driver declines the target. -/
  | init (driver : String) (cause : Fault)
  deriving DecidableEq, Repr

namespace RegistryError

/-- The driver that the error is about. -/
def driver : RegistryError → String
  | duplicate name => name
  | missingCapability name _ => name
  | init name _ => name

def message : RegistryError → String
  | duplicate name => s!"driver already registered: {name}"
  | missingCapability name feature =>
    s!"driver {name} declares {feature.tag} but does not implement it"
  | init name cause => s!"driver {name} failed to initialize: {cause.message}"

end RegistryError

/-- An entry of a catalog: a driver that can be set up. -/
structure Registration (σ : Type) where
  /-- The name, the protocol and the features that the driver is to have. -/
  offer : Offer
  /-- Sets the driver up for a target. -/
  init : Target → Except Fault (Capabilities σ)

namespace Registration

instance : Offering (Registration σ) := ⟨Registration.offer⟩

/-- The driver for a target, if it accepts the target and backs all that it advertises. -/
def instantiate (r : Registration σ) (target : Target) : Except RegistryError (Driver σ) :=
  match r.init target with
  | .error cause => .error (.init r.offer.name cause)
  | .ok capabilities =>
    match r.offer.features.toList.find? fun f => !capabilities.backs.has f with
    | some feature => .error (.missingCapability r.offer.name feature)
    | none => .ok ⟨r.offer, capabilities⟩

def text (r : Registration σ) : String :=
  let features := String.intercalate ", " (r.offer.features.toList.map Feature.title)
  let name := Text.quoted r.offer.name
  let protocol := Text.quoted r.offer.protocol
  let set := s!"Features(\x7b{features}\x7d)"
  s!"Registration \x7b name: {name}, protocol: {protocol}, features: {set} \x7d"

end Registration

/-- The drivers that there are, in order. -/
abbrev Catalog (σ : Type) := List (Registration σ)

namespace Catalog

/-- The catalog with one more driver at its end, unless the name is taken. -/
def register (catalog : Catalog σ) (r : Registration σ) : Except RegistryError (Catalog σ) :=
  if Registry.contains catalog r.offer.name then .error (.duplicate r.offer.name)
  else .ok (catalog ++ [r])

/-- The drivers that are ready for a target, and the errors of the others. -/
def instantiate (catalog : Catalog σ) (target : Target) :
    List (Driver σ) × List RegistryError :=
  match catalog with
  | [] => ([], [])
  | r :: rest =>
    let (drivers, errors) := instantiate rest target
    match r.instantiate target with
    | .ok driver => (driver :: drivers, errors)
    | .error error => (drivers, error :: errors)

end Catalog

end OutOfBand
