import OutOfBand.Vocabulary
import OutOfBand.Text.Blank

/-!
# Tasks of a firmware install

Uploads and installs go on at the controller as tasks that are asked for their state. A task has an
identifier; drivers without tasks of their own use one fixed identifier for all (`TaskId.none`), and
a blank identifier means the same.
-/

namespace OutOfBand.Firmware

open Json

namespace TaskId

/-- The identifier where a driver has none. -/
def none : String := "NO_TASK_ID"

/-- The identifier `id`, unless it is blank. -/
def normalize (id : String) : String := if (Text.trim id).isEmpty then none else id

end TaskId

/-- The state of a task. -/
inductive TaskState where
  | initializing
  | queued
  | running
  | complete
  | failed
  /-- Done once the host is power cycled. -/
  | powerCycleHost
  /-- Done once the controller is reset. -/
  | powerCycleBmc
  | unknown
  deriving DecidableEq, Repr, Inhabited

namespace TaskState

def tag : TaskState → String
  | initializing => "initializing"
  | queued => "queued"
  | running => "running"
  | complete => "complete"
  | failed => "failed"
  | powerCycleHost => "powercycle-host"
  | powerCycleBmc => "powercycle-bmc"
  | unknown => "unknown"

/-- The state that a task of the Redfish service reports by the word `s`. -/
def ofRedfish (s : String) : TaskState :=
  match s with
  | "New" | "Starting" => initializing
  | "Pending" | "Suspended" => queued
  | "Running" | "Stopping" | "Cancelling" | "Service" => running
  | "Completed" => complete
  | "Exception" | "Killed" | "Cancelled" | "Interrupted" => failed
  | _ => unknown

instance : Vocabulary TaskState where
  all := [initializing, queued, running, complete, failed, powerCycleHost, powerCycleBmc, unknown]
  name := tag

instance : ToJson TaskState := ⟨Vocabulary.toJson⟩
instance : FromDoc TaskState := ⟨Vocabulary.fromDoc⟩

end TaskState

/-- What a task does. -/
inductive TaskKind where
  | upload
  | install
  deriving DecidableEq, Repr, Inhabited

namespace TaskKind

def tag : TaskKind → String
  | upload => "upload"
  | install => "install"

instance : Vocabulary TaskKind := ⟨[upload, install], tag⟩
instance : ToJson TaskKind := ⟨Vocabulary.toJson⟩
instance : FromDoc TaskKind := ⟨Vocabulary.fromDoc⟩

end TaskKind

/-- When the controller applies an image. -/
inductive ApplyTime where
  | immediate
  | onReset
  | onStartUpdateRequest
  deriving DecidableEq, Repr, Inhabited

namespace ApplyTime

def tag : ApplyTime → String
  | immediate => "Immediate"
  | onReset => "OnReset"
  | onStartUpdateRequest => "OnStartUpdateRequest"

instance : Vocabulary ApplyTime := ⟨[immediate, onReset, onStartUpdateRequest], tag⟩
instance : ToJson ApplyTime := ⟨Vocabulary.toJson⟩
instance : FromDoc ApplyTime := ⟨Vocabulary.fromDoc⟩

end ApplyTime

/-- What a task answers when it is asked: its state, and a text of the driver's own. -/
structure Status where
  state : TaskState
  text : String
  deriving DecidableEq, Repr, Inhabited

namespace Status

def stateSlot : Doc.Slot TaskState := .required "state"

def textSlot : Doc.Slot String := .required "status"

instance : ToJson Status where
  json s := .obj [("state", json s.state), ("status", json s.text)]

instance : FromDoc Status where
  read d := do
    let found ← (Doc.Shape.of "FirmwareStatus" [stateSlot.field, textSlot.field]).members d
    return ⟨← stateSlot.of found, ← textSlot.of found⟩

end Status

end OutOfBand.Firmware
