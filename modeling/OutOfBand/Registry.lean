import OutOfBand.Feature

/-!
# Registries and their views

A registry is a list of things on offer, each under a name and for a protocol, in order of
preference. A view of a registry keeps some entries or brings some to the front; it never changes
the entries themselves, invents any, or changes the order among those that it does not move.
-/

namespace OutOfBand

/-- What an entry of a registry says of itself. -/
structure Offer where
  name : String
  protocol : String
  /-- The features that are advertised. -/
  features : Features

/-- The types whose values are entries of registries. -/
class Offering (α : Type) where
  /-- What an entry says of itself. -/
  offer : α → Offer

instance : Offering Offer := ⟨id⟩

/-- A way to look at a registry. -/
inductive View where
  /-- Only the entries of that name. -/
  | forDriver (name : String)
  /-- Only the entries for that protocol. -/
  | speaking (protocol : String)
  /-- Only the entries that advertise all those features. -/
  | supports (features : List Feature)
  /-- The entries of that name first. -/
  | preferDriver (name : String)
  /-- The entries for the first of those protocols first, then those for the second, and so on. -/
  | preferProtocol (protocols : List String)
  deriving DecidableEq, Repr

namespace Registry

variable {α : Type} [Offering α]

def nameOf (a : α) : String := (Offering.offer a).name

def protocolOf (a : α) : String := (Offering.offer a).protocol

def featuresOf (a : α) : Features := (Offering.offer a).features

def names (registry : List α) : List String := registry.map nameOf

def get? (registry : List α) (name : String) : Option α := registry.find? (nameOf · == name)

/-- Whether there is an entry of that name. -/
def contains (registry : List α) (name : String) : Bool := registry.any (nameOf · == name)

/-- The entries that pass the test, then the others. -/
def toFront (p : α → Bool) (registry : List α) : List α :=
  registry.filter p ++ registry.filter fun a => !p a

/-- The entries for the first of the protocols, then those for the second and so on, and the others
at the end. -/
def byProtocol : List String → List α → List α
  | [], registry => registry
  | p :: ps, registry =>
    (registry.filter fun a => protocolOf a == p) ++
      byProtocol ps (registry.filter fun a => !protocolOf a == p)

end Registry

namespace View

open Registry

variable {α : Type} [Offering α]

/-- The registry as the view shows it. -/
def apply : View → List α → List α
  | forDriver name, registry => registry.filter fun a => nameOf a == name
  | speaking protocol, registry => registry.filter fun a => protocolOf a == protocol
  | supports features, registry => registry.filter fun a => (featuresOf a).includes features
  | preferDriver name, registry => toFront (fun a => nameOf a == name) registry
  | preferProtocol protocols, registry => byProtocol protocols registry

/-- The registry as a chain of views shows it, the first view applied first. -/
def applyAll (views : List View) (registry : List α) : List α :=
  views.foldl (fun r v => v.apply r) registry

/-- The condition by which a view keeps entries; a view that only reorders keeps all. -/
def keeps : View → α → Bool
  | forDriver name, a => nameOf a == name
  | speaking protocol, a => protocolOf a == protocol
  | supports features, a => (featuresOf a).includes features
  | preferDriver _, _ | preferProtocol _, _ => true

/-- A view shows just the entries that it keeps. -/
theorem mem_apply {v : View} {registry : List α} {a : α} :
    a ∈ v.apply registry ↔ a ∈ registry ∧ v.keeps a = true := by
  cases v with
  | forDriver _ => simp [apply, keeps]
  | speaking _ => simp [apply, keeps]
  | supports _ => simp [apply, keeps]
  | preferDriver name =>
    by_cases h : nameOf a = name <;> simp [apply, keeps, toFront, h]
  | preferProtocol protocols =>
    simp only [apply, keeps, and_true]
    induction protocols generalizing registry with
    | nil => rfl
    | cons p ps ih =>
      by_cases h : protocolOf a = p <;> simp [byProtocol, ih, h]

end View

end OutOfBand
