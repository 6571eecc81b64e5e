import OutOfBand.Vocabulary

/-!
# What a controller shows

Entries of the event log, readings of sensors, captured screens, and the kinds of virtual media that
a controller can attach.
-/

namespace OutOfBand

open Json

/-- The kind of a virtual medium. -/
inductive MediaKind where
  | cd
  | floppy
  deriving DecidableEq, Repr, Inhabited

namespace MediaKind

/-- The name of a kind of medium on the wire. -/
def name : MediaKind → String
  | cd => "cd"
  | floppy => "floppy"

/-- The name of a kind of medium in texts and in calls. -/
def text : MediaKind → String
  | cd => "CD"
  | floppy => "Floppy"

instance : Vocabulary MediaKind := ⟨[cd, floppy], name⟩
instance : ToJson MediaKind := ⟨Vocabulary.toJson⟩
instance : FromDoc MediaKind := ⟨Vocabulary.fromDoc⟩

end MediaKind

/-- A captured screen. -/
structure Screenshot where
  data : List UInt8
  /-- The format of the data, such as `png`. -/
  fileType : String
  deriving DecidableEq, Repr, Inhabited

/-- An entry of the event log. -/
structure EventLogEntry where
  id : String
  timestamp : String
  description : String
  message : String
  deriving DecidableEq, Repr, Inhabited

namespace EventLogEntry

def idSlot : Doc.Slot String := .required "id"

def timestampSlot : Doc.Slot String := .required "timestamp"

def descriptionSlot : Doc.Slot String := .required "description"

def messageSlot : Doc.Slot String := .required "message"

instance : ToJson EventLogEntry where
  json e := .obj [("id", json e.id), ("timestamp", json e.timestamp),
    ("description", json e.description), ("message", json e.message)]

instance : FromDoc EventLogEntry where
  read d := do
    let shape := Doc.Shape.of "EventLogEntry"
      [idSlot.field, timestampSlot.field, descriptionSlot.field, messageSlot.field]
    let found ← shape.members d
    return ⟨← idSlot.of found, ← timestampSlot.of found, ← descriptionSlot.of found,
      ← messageSlot.of found⟩

end EventLogEntry

/-- A reading of a sensor. -/
structure SensorReading where
  name : String
  /-- What is measured, such as `temperature` or `fan`. -/
  kind : String
  /-- The measured value, if the sensor shows one. -/
  value : Option Binary64
  unit : String
  deriving DecidableEq, Repr, Inhabited

namespace SensorReading

instance : ToJson Binary64 := ⟨fun x => .num (.real x)⟩
instance : FromDoc Binary64 := ⟨Doc.real⟩

def nameSlot : Doc.Slot String := .required "name"

def kindSlot : Doc.Slot String := .required "kind"

def valueSlot : Doc.Slot (Option Binary64) := .optional "value"

def unitSlot : Doc.Slot String := .required "unit"

instance : ToJson SensorReading where
  json r := .obj [("name", json r.name), ("kind", json r.kind), ("value", json r.value),
    ("unit", json r.unit)]

instance : FromDoc SensorReading where
  read d := do
    let shape := Doc.Shape.of "SensorReading"
      [nameSlot.field, kindSlot.field, valueSlot.field, unitSlot.field]
    let found ← shape.members d
    return ⟨← nameSlot.of found, ← kindSlot.of found, ← valueSlot.of found, ← unitSlot.of found⟩

end SensorReading

end OutOfBand
