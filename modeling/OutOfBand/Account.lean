import OutOfBand.Vocabulary
import OutOfBand.Text.Ascii

/-!
# User accounts

The accounts of a management controller and the privilege levels that they have.
-/

namespace OutOfBand

open Json

/-- The privilege level of an account. -/
inductive UserRole where
  | administrator
  | operator
  | user
  | readOnly
  deriving DecidableEq, Repr, Inhabited

namespace UserRole

def name : UserRole → String
  | administrator => "administrator"
  | operator => "operator"
  | user => "user"
  | readOnly => "readonly"

instance : Vocabulary UserRole := ⟨[administrator, operator, user, readOnly], name⟩
instance : ToJson UserRole := ⟨Vocabulary.toJson⟩
instance : FromDoc UserRole := ⟨Vocabulary.fromDoc⟩

/-- The role that `s` names, in any case of letters; two have a second name. -/
def parse (s : String) : Except Fault UserRole :=
  match Text.lower s with
  | "admin" => .ok administrator
  | "callback" => .ok readOnly
  | word => Vocabulary.parse "user role" word

end UserRole

/-- An account as its controller reports it. -/
structure UserAccount where
  /-- The slot or the identifier on the controller. -/
  id : String
  name : String
  role : Option UserRole
  enabled : Bool
  deriving DecidableEq, Repr, Inhabited

namespace UserAccount

def idSlot : Doc.Slot String := .required "id"

def nameSlot : Doc.Slot String := .required "name"

def roleSlot : Doc.Slot (Option UserRole) := .optional "role"

def enabledSlot : Doc.Slot Bool := .required "enabled"

instance : ToJson UserAccount where
  json a := .obj [("id", json a.id), ("name", json a.name), ("role", json a.role),
    ("enabled", json a.enabled)]

instance : FromDoc UserAccount where
  read d := do
    let shape := Doc.Shape.of "UserAccount"
      [idSlot.field, nameSlot.field, roleSlot.field, enabledSlot.field]
    let found ← shape.members d
    return ⟨← idSlot.of found, ← nameSlot.of found, ← roleSlot.of found, ← enabledSlot.of found⟩

end UserAccount

end OutOfBand
