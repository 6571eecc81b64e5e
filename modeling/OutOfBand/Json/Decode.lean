import OutOfBand.Json.Defect
import OutOfBand.Json.Reader

/-!
# Reading values of a type

A type says how its values are read from a document (`FromDoc`) and how they are written
(`ToJson`). Here are the readers of the basic types, of lists, of variants, and of records, each of
which reports the first fault in the order of the text. A record may also be written as the array of
its fields, and a variant as an object with the variant's name as its only key.
-/

namespace OutOfBand.Json

/-- The types whose values have a JSON form. -/
class ToJson (α : Type) where
  /-- The JSON form of a value. -/
  json : α → Json

/-- The types whose values can be read from a document. -/
class FromDoc (α : Type) where
  read : Doc → Except Defect α

export ToJson (json)

/-- Fails since the text is not JSON. -/
def breached (b : Breach) : Except Defect α := .error (.breach b)

/-- Fails since what the text says does not fit. -/
def misfit (m : Misfit) : Except Defect α := .error (.misfit m)

namespace Doc

/-- Fails since the document is not of the expected kind; what it is instead is read first. -/
def unexpected (expected : String) : Doc → Except Defect α
  | .null => misfit (.type .null expected)
  | .bool b => misfit (.type (.bool b) expected)
  | .num numeral => match numeral.value with
    | some n => misfit (.type (.number n) expected)
    | none => breached .malformed
  | .text (.ok s) => misfit (.type (.text s) expected)
  | .text (.error b) => breached b
  | .arr _ _ => misfit (.type .sequence expected)
  | .obj _ _ => misfit (.type .map expected)
  | .deep inner => unexpected expected inner
  | .stump _ strict _ | .broken strict _ => breached strict

/-! ## Skipping -/

mutual

/-- The fault, if any, that keeps a value from being skipped. -/
def skipped : Doc → Option Breach
  | .arr items ending => (skippedItems items).or (skippedEnding ending)
  | .obj members ending => (skippedMembers members).or (skippedEnding ending)
  | .deep inner => inner.skipped
  | .stump _ _ b | .broken _ b => some b
  | _ => none

/-- The first fault among the items of an array. -/
def skippedItems : List Doc → Option Breach
  | [] => none
  | item :: items => item.skipped.or (skippedItems items)

/-- The first fault among the members of an object. -/
def skippedMembers : List (Except Breach String × Doc) → Option Breach
  | [] => none
  | (_, value) :: members => value.skipped.or (skippedMembers members)

/-- The fault, if any, at the end of a list. -/
def skippedEnding : Ending → Option Breach
  | .closed => none
  | .broken b | .comma b | .key _ b => some b

end

/-! ## Basic types -/

def string : Doc → Except Defect String
  | .text (.ok s) => .ok s
  | d => d.unexpected "a string"

def boolean : Doc → Except Defect Bool
  | .bool b => .ok b
  | d => d.unexpected "a boolean"

/-- Reads an integer between `low` and `high`, a range that messages call `name`. -/
def integer (low high : Int) (name : String) : Doc → Except Defect Int
  | .num numeral => match numeral.value with
    | some (.int n) =>
      if low ≤ n && n ≤ high then .ok n else misfit (.value (.number (.int n)) name)
    | some n => misfit (.type (.number n) name)
    | none => breached .malformed
  | d => d.unexpected name

/-- Reads a number of so many bits. -/
def unsigned (bits : Nat) (d : Doc) : Except Defect Nat :=
  (integer 0 (Nat.pow 2 bits - 1) s!"u{bits}" d).map Int.toNat

/-- Reads a signed number of 64 bits. -/
def signed64 (d : Doc) : Except Defect Int :=
  integer (-0x8000000000000000) 0x7fffffffffffffff "i64" d

/-- The double nearest to an integer of at most 64 bits. -/
def realOfInt (n : Int) : Binary64 :=
  let x := (UInt64.ofNat n.natAbs).toFloat
  Binary64.ofFloat (if n < 0 then -x else x)

def real : Doc → Except Defect Binary64
  | .num numeral => match numeral.value with
    | some (.int n) => .ok (realOfInt n)
    | some (.real x) => .ok x
    | none => breached .malformed
  | d => d.unexpected "f64"

def option (read : Doc → Except Defect α) : Doc → Except Defect (Option α)
  | .null => .ok none
  | .stump true strict _ => breached strict
  | d => (read d).map some

/-! ## Lists -/

/-- Fails if the list does not end with its bracket. -/
def closing : Ending → Except Defect Unit
  | .closed => .ok ()
  | .broken b | .comma b | .key b _ => breached b

def list (read : Doc → Except Defect α) : Doc → Except Defect (List α)
  | .arr items ending => do
    let values ← items.mapM read
    closing ending
    return values
  | .deep _ => breached .malformed
  | d => d.unexpected "a sequence"

/-- Reads the items of an array of which `wanted` are still to come after `before`. -/
def exactItems (read : Doc → Except Defect α) (expected : String) (before : Nat) :
    Nat → List Doc → Ending → Except Defect (List α)
  | 0, [], ending => match ending with
    | .comma _ => breached .malformed
    | _ => do closing ending; return []
  | 0, _ :: _, _ => breached .malformed
  | _ + 1, [], ending => do closing ending; misfit (.length before expected)
  | wanted + 1, item :: items, ending => do
    let value ← read item
    let values ← exactItems read expected (before + 1) wanted items ending
    return value :: values

/-- Reads an array of exactly `count` items. -/
def exactly (count : Nat) (read : Doc → Except Defect α) : Doc → Except Defect (List α)
  | .arr items ending => exactItems read s!"an array of length {count}" 0 count items ending
  | .deep _ => breached .malformed
  | d => d.unexpected s!"an array of length {count}"

/-- Reads an object with any keys; of several values under one key the last one counts. -/
def map (read : Doc → Except Defect α) : Doc → Except Defect (List (String × α))
  | .obj members ending => do
    let values ← members.mapM fun (key, value) =>
      match key with
      | .ok key => (read value).map (key, ·)
      | .error b => breached b
    closing ending
    return sorted values
  | .deep _ => breached .malformed
  | d => d.unexpected "a map"

/-! ## Free values -/

mutual

/-- Reads a value of no fixed type. -/
def free : Doc → Except Defect Json
  | .null => .ok .null
  | .bool b => .ok (.bool b)
  | .num numeral => match numeral.value with
    | some n => .ok (.num n)
    | none => breached .malformed
  | .text (.ok s) => .ok (.str s)
  | .text (.error b) => breached b
  | .arr items ending => do
    let values ← freeItems items
    closing ending
    return .arr values
  | .obj members ending => do
    let values ← freeMembers members
    closing ending
    return object values
  | .deep _ => breached .malformed
  | .stump _ strict _ | .broken strict _ => breached strict

/-- Reads the items of a free array. -/
def freeItems : List Doc → Except Defect (List Json)
  | [] => .ok []
  | item :: items => do
    let value ← item.free
    let values ← freeItems items
    return value :: values

/-- Reads the members of a free object. -/
def freeMembers : List (Except Breach String × Doc) → Except Defect (List (String × Json))
  | [] => .ok []
  | (.error b, _) :: _ => breached b
  | (.ok key, value) :: members => do
    let value ← value.free
    let values ← freeMembers members
    return (key, value) :: values

end

/-! ## Variants -/

/-- Reads the nothing that stands beside a variant's name. -/
def unit : Doc → Except Defect Unit
  | .null => .ok ()
  | d => d.unexpected "unit"

def named (known : List (String × α)) (name : String) : Except Defect α :=
  match known.find? (·.1 == name) with
  | some (_, value) => .ok value
  | none => misfit (.variant name (known.map (·.1)))

/-- Fails if anything follows the only member of an object. -/
def alone (more : List (Except Breach String × Doc)) (ending : Ending) : Except Defect Unit :=
  match more, ending with
  | [], .closed => .ok ()
  | [], .broken b => breached b
  | _, _ => breached .malformed

/-- Reads one of the variants `known`, each listed with its name. -/
def variant (known : List (String × α)) : Doc → Except Defect α
  | .text (.ok name) => named known name
  | .text (.error b) => breached b
  | .obj ((key, value) :: more) ending => do
    let name ← match key with
      | .ok name => pure name
      | .error b => breached b
    let chosen ← named known name
    unit value
    alone more ending
    return chosen
  | .obj [] ending => do closing ending; breached .malformed
  | .broken strict _ => breached strict
  | _ => breached .malformed

/-! ## Records -/

/-- A field of a record, as far as its shape goes: its name, whether a document has a value for it,
and whether an array must have an item for it. -/
structure Field where
  name : String
  check : Doc → Except Defect Unit
  needed : Bool

/-- What messages say about a record, and whether keys that name no field are refused. -/
structure Shape where
  expected : String
  counted : String
  exact : Bool
  fields : List Field

/-- The shape of the record `title` with the given fields; unknown keys are skipped. -/
def Shape.of (title : String) (fields : List Field) : Shape where
  expected := s!"struct {title}"
  counted :=
    let elements := if fields.length = 1 then "element" else "elements"
    s!"struct {title} with {fields.length} {elements}"
  exact := false
  fields := fields

/-- The values found for the fields of a record, under the names of the fields. -/
abbrev Members := List (String × Doc)

/-- Finds the fields of a record among the members of an object. -/
def Shape.ofObject (shape : Shape) (found : Members) :
    List (Except Breach String × Doc) → Except Defect Members
  | [] => .ok found
  | (.error b, _) :: _ => breached b
  | (.ok key, value) :: members =>
    match shape.fields.find? (·.name == key) with
    | some field =>
      if found.any (·.1 == key) then misfit (.duplicate key)
      else do
        field.check value
        shape.ofObject ((key, value) :: found) members
    | none =>
      if shape.exact then misfit (.field key (shape.fields.map (·.name)))
      else match value.skipped with
        | some b => breached b
        | none => shape.ofObject found members

/-- Finds the fields of a record in the order of an array, after `before` of them. -/
def Shape.ofArray (shape : Shape) (before : Nat) :
    List Field → List Doc → Ending → Except Defect Members
  | [], [], ending => match ending with
    | .comma _ => breached .malformed
    | _ => do closing ending; return []
  | [], _ :: _, _ => breached .malformed
  | field :: fields, [], ending => do
    closing ending
    if field.needed then misfit (.length before shape.counted)
    else shape.ofArray (before + 1) fields [] ending
  | field :: fields, item :: items, ending => do
    field.check item
    let members ← shape.ofArray (before + 1) fields items ending
    return (field.name, item) :: members

def Shape.members (shape : Shape) : Doc → Except Defect Members
  | .obj members ending => do
    let found ← shape.ofObject [] members
    closing ending
    return found
  | .arr items ending => shape.ofArray 0 shape.fields items ending
  | .deep _ => breached .malformed
  | d => d.unexpected shape.expected

/-- A field with its type: how its value is read, and what it is in an object without the field. -/
structure Slot (α : Type) where
  name : String
  read : Doc → Except Defect α
  absent : Option α
  needed : Bool

namespace Slot

def required [FromDoc α] (name : String) : Slot α := ⟨name, FromDoc.read, none, true⟩

/-- A field that an object may lack. -/
def optional [FromDoc α] (name : String) : Slot (Option α) :=
  ⟨name, Doc.option FromDoc.read, some none, true⟩

/-- A field that any form of the record may lack. -/
def defaulted [FromDoc α] (name : String) (value : α) : Slot α :=
  ⟨name, FromDoc.read, some value, false⟩

def field (slot : Slot α) : Field :=
  ⟨slot.name, fun d => (slot.read d).map fun _ => (), slot.needed⟩

/-- The value of the field among those found. -/
def of (slot : Slot α) (members : Members) : Except Defect α :=
  match members.find? (·.1 == slot.name) with
  | some (_, d) => slot.read d
  | none => match slot.absent with
    | some value => .ok value
    | none => misfit (.missing slot.name)

end Slot

end Doc

/-! ## Instances -/

instance : ToJson String := ⟨Json.str⟩
instance : FromDoc String := ⟨Doc.string⟩
instance : ToJson Bool := ⟨Json.bool⟩
instance : FromDoc Bool := ⟨Doc.boolean⟩
instance : ToJson UInt8 := ⟨fun n => Json.int n.toNat⟩
instance : FromDoc UInt8 := ⟨fun d => (Doc.unsigned 8 d).map UInt8.ofNat⟩
instance : ToJson UInt16 := ⟨fun n => Json.int n.toNat⟩
instance : FromDoc UInt16 := ⟨fun d => (Doc.unsigned 16 d).map UInt16.ofNat⟩
instance : ToJson Int64 := ⟨fun n => Json.int n.toInt⟩
instance : FromDoc Int64 := ⟨fun d => (Doc.signed64 d).map Int64.ofInt⟩
instance : ToJson Json := ⟨id⟩
instance : FromDoc Json := ⟨Doc.free⟩

instance [ToJson α] : ToJson (List α) := ⟨fun xs => .arr (xs.map json)⟩
instance [FromDoc α] : FromDoc (List α) := ⟨Doc.list FromDoc.read⟩

instance [ToJson α] : ToJson (Option α) where
  json
    | some a => json a
    | none => .null

instance [FromDoc α] : FromDoc (Option α) := ⟨Doc.option FromDoc.read⟩

/-- Reads the value of a document after which nothing may follow. -/
def Document.value (document : Document) (α : Type) [FromDoc α] : Except Defect α := do
  let value ← FromDoc.read document.root
  if document.trailing then breached .malformed else return value

/-- Reads a value from the text of a document. -/
def decode (α : Type) [FromDoc α] (s : String) : Except Defect α := (Document.ofText s).value α

/-- Reads a value from the bytes of a document. -/
def decodeBytes (α : Type) [FromDoc α] (bytes : List UInt8) : Except Defect α :=
  (Document.ofBytes bytes).value α

/-- The value that the text of a document has, if it is JSON at all. -/
def parse? (s : String) : Option Json := (decode Json s).toOption

end OutOfBand.Json
