import OutOfBand.Driver
import OutOfBand.Text.Utf8

/-!
# Mock controllers

A mock is a controller that exists only in memory. It remembers its power, its accounts and the
calls made to it, and treats calls as it is told to: it carries them out, rejects them, fails, or
lets the caller wait. Listing the steps of an install and asking for the state of a task are
answered at once in any case; the states of tasks follow a script.
-/

namespace OutOfBand

/-- What a mock does with a call. -/
inductive Behavior where
  | succeed
  /-- Answers that the call was not carried out. -/
  | reject
  | fail
  | refuse
  | hang
  /-- Succeeds after so much time. -/
  | delay (time : Span)
  deriving DecidableEq, Repr, Inhabited

/-- How a mock is made. -/
structure Mock where
  name : String
  behavior : Behavior := .succeed
  /-- Whether drivers can work with it. -/
  compatible : Bool := true
  /-- The steps of its installs. -/
  steps : List Firmware.Step := []
  uploadTask : String := "upload-task"
  installTask : String := "install-task"
  deriving Repr, Inhabited

namespace Mock

/-- What a mock remembers. -/
structure State where
  power : PowerState := .off
  /-- What tasks answer when they are asked, in order; after that they are complete. -/
  statuses : List (Except Fault Firmware.Status) := []
  /-- How the next attempts to open a session fail. -/
  openFailures : List Fault := []
  users : List UserAccount := []
  /-- The calls made, the latest first. -/
  calls : List String := []
  /-- How often a session was opened. -/
  opens : Nat := 0
  /-- How often a session was closed. -/
  closes : Nat := 0
  deriving Inhabited

/-- The state with one more call made. -/
def State.note (s : State) (call : String) : State := { s with calls := call :: s.calls }

/-- The power of a host after an order. -/
def powerAfter : PowerAction → PowerState
  | .on | .reset | .cycle => .on
  | .off | .soft => .off

/-- Treats a call as the mock's behaviour asks. If the mock gets to carry it out or to reject it,
`conclude` tells the answer and the state after it. -/
def perform (m : Mock) (call : String) (conclude : Bool → State → Except Fault α × State) :
    Operation State (Except Fault α) := fun now s =>
  let s := s.note call
  match m.behavior with
  | .succeed => ⟨s, some .zero, conclude true⟩
  | .reject => ⟨s, some .zero, conclude false⟩
  | .fail =>
    ⟨s, some .zero, fun s => (.error (.commandFailed s!"{m.name}: {call} failed"), s)⟩
  | .refuse => ⟨s, some .zero, fun s => (.error (.connectionRefused m.name), s)⟩
  | .hang => ⟨s, none, conclude true⟩
  | .delay time => ⟨s, some (Clock.timer now time), conclude true⟩

/-- An order: carrying it out changes the state by `change`. -/
def order (m : Mock) (call : String) (change : State → State) :
    Operation State (Except Fault Bool) :=
  m.perform call fun done s => (.ok done, if done then change s else s)

/-- A question: the answer depends on the state only. -/
def question (m : Mock) (call : String) (answer : State → α) : Operation State (Except Fault α) :=
  m.perform call fun _ s => (.ok (answer s), s)

def updateUser (user : String) (role : UserRole) : List UserAccount → Option (List UserAccount)
  | [] => none
  | u :: us =>
    if u.name = user then some ({ u with role := some role } :: us)
    else (updateUser user role us).map (u :: ·)

def State.createUser (s : State) (user : String) (role : UserRole) : State :=
  { s with users := s.users ++ [⟨toString (s.users.length + 2), user, some role, true⟩] }

/-- The next answer of a task, and the state after it. -/
def nextStatus (s : State) : Except Fault Firmware.Status × State :=
  match s.statuses with
  | [] => (.ok ⟨.complete, "done"⟩, s)
  | status :: rest => (status, { s with statuses := rest })

def events : List EventLogEntry :=
  [⟨"1", "2026-01-01T00:00:00Z", "Power Unit", "Power off/down"⟩]

def readings : List SensorReading :=
  [⟨"Inlet Temp", "temperature", some (Binary64.ofFloat 24.0), "degrees C"⟩]

/-- What the mock does for a call. -/
def handle (m : Mock) : (c : Call) → Operation State (Except Fault c.Answer)
  | .powerState => m.question "power_state" State.power
  | .powerSet action =>
    m.order s!"power_set:{action.name}" fun s => { s with power := powerAfter action }
  | .bootDeviceSet device options =>
    m.order s!"boot_device_set:{device.text}:persistent={options.persistent}:efi={options.efi}" id
  | .userCreate user _ role => m.order s!"user_create:{user}" (·.createUser user role)
  | .userUpdate user _ role =>
    m.perform s!"user_update:{user}" fun done s =>
      if done then
        match updateUser user role s.users with
        | some users => (.ok true, { s with users })
        | none => (.error (.commandFailed s!"no such user: {user}"), s)
      else (.ok false, s)
  | .userDelete user =>
    m.order s!"user_delete:{user}" fun s => { s with users := s.users.filter (·.name != user) }
  | .users => m.question "users" State.users
  | .bmcReset kind => m.order s!"bmc_reset:{kind.name}" id
  | .virtualMedia kind url => m.order s!"set_virtual_media:{kind.text}:{url}" id
  | .firmwareInstall component _ _ _ =>
    m.question s!"firmware_install:{component}" fun _ => m.installTask
  | .firmwareInstallStatus _ component task =>
    m.question s!"firmware_install_status:{component}:{task}" fun _ => "complete"
  | .firmwareUpload component _ =>
    m.question s!"firmware_upload:{component}" fun _ => m.uploadTask
  | .firmwareUploadAndInitiate component _ =>
    m.question s!"firmware_upload_and_initiate:{component}" fun _ => m.installTask
  | .firmwareInstallUploaded component task =>
    m.question s!"firmware_install_uploaded:{component}:{task}" fun _ => m.installTask
  | .firmwareTaskStatus kind _ task _ =>
    .instantly fun s => nextStatus (s.note s!"firmware_task_status:{kind.tag}:{task}")
  | .firmwareInstallSteps component =>
    .instantly fun s => (.ok m.steps, s.note s!"firmware_install_steps:{component}")
  | .screenshot => m.question "screenshot" fun _ => ⟨Text.Utf8.encode m.name, "png"⟩
  | .eventLog => m.question "system_event_log" fun _ => events
  | .clearEventLog => m.question "clear_system_event_log" fun _ => ()
  | .inventory =>
    m.question "inventory" fun _ => .object [("Name", .str m.name), ("Model", .str "mock")]
  | .sensors => m.question "sensors" fun _ => readings

/-- Opens a session, unless the mock is told to fail at it. -/
def login : Operation State (Except Fault Unit) := .instantly fun s =>
  let s := { s.note "open" with opens := s.opens + 1 }
  match s.openFailures with
  | [] => (.ok (), s)
  | f :: rest => (.error f, { s with openFailures := rest })

def logout : Operation State (Except Fault Unit) := .instantly fun s =>
  (.ok (), { s.note "close" with closes := s.closes + 1 })

def connection (m : Mock) : Connection State := ⟨login, logout, .answer m.compatible⟩

/-- What can be done with the mock: everything. -/
def capabilities (m : Mock) : Capabilities State := ⟨some m.connection, .full, m.handle⟩

/-- The number of calls that begin with a text. -/
def State.callCount (s : State) (beginning : String) : Nat :=
  s.calls.countP (·.startsWith beginning)

end Mock

end OutOfBand
