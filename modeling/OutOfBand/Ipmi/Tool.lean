import OutOfBand.Driver
import OutOfBand.Ipmi.Command
import OutOfBand.Ipmi.Listing

/-!
# The IPMI driver

Each call is one or more runs of the tool; there is no session. Users live in numbered slots: a user
is created in the first slot without a name, and enabled only after its name, password and privilege
are set; a user is deleted by disabling its slot and clearing the name.
-/

namespace OutOfBand.Ipmi

def name : String := "ipmitool"

def protocol : String := "ipmi"

/-- The features that the driver advertises. -/
def features : List Feature :=
  [.powerState, .powerSet, .bootDeviceSet, .bmcReset, .userCreate, .userUpdate, .userDelete,
    .userRead, .getSystemEventLog, .clearSystemEventLog, .sensorRead]

variable (target : Target)

/-! ## Power, boot and reset -/

/-- Asks for the power of the host. -/
def powerState : Talk PowerState := do
  return powerOf (← run target ["chassis", "power", "status"])

/-- Switches the host. A host that is off cannot be power cycled; it is switched on instead. -/
def powerSet (action : PowerAction) : Talk Bool := do
  let action ← if action = .cycle then do
      let state ← powerState target
      pure (if state = .off then .on else action)
    else pure action
  let output ← run target ["chassis", "power", action.name]
  return Text.contains output "Chassis Power Control"

/-- The arguments that say how the choice of a boot device takes effect. -/
def bootFlags (options : BootOptions) : List String :=
  (if options.persistent then ["persistent"] else []) ++ (if options.efi then ["efiboot"] else [])

def bootDeviceSet (device : BootDevice) (options : BootOptions) : Talk Bool := do
  let flags := bootFlags options
  let more := if flags.isEmpty then [] else ["options=" ++ String.intercalate "," flags]
  let output ← run target (["chassis", "bootdev", device.text] ++ more)
  return Text.contains output "Set Boot Device"

def bmcReset (kind : ResetKind) : Talk Bool := do
  return Text.contains (← run target ["mc", "reset", kind.name]) "reset command"

/-! ## Users -/

/-- Asks for the slots of the users. -/
def slots : Talk (List UserAccount) := do
  return slotsOf (← run target ["user", "list", "1"])

def users : Talk (List UserAccount) := do
  return usersOf (← run target ["user", "list", "1"])

/-- The slot of the user called `user`. -/
def slotOf (user : String) (slots : List UserAccount) : Except Fault String :=
  match slots.find? (·.name == user) with
  | some slot => .ok slot.id
  | none => .error (.commandFailed s!"no such user: {user}")

def freeSlot (user : String) (slots : List UserAccount) : Except Fault String :=
  if slots.any (·.name == user) then .error (.commandFailed s!"user already exists: {user}")
  else match slots.find? fun slot => slot.id != "1" && slot.name == "" with
    | some slot => .ok slot.id
    | none => .error (.commandFailed "no free user slot")

/-- Gives the user of a slot the privilege of a role. -/
def grant (id : String) (role : UserRole) : Talk Unit := do
  let _ ← run target
    ["channel", "setaccess", "1", id, "link=on", "ipmi=on", "callin=on", privilege role]

def userCreate (user password : String) (role : UserRole) : Talk Bool := do
  let id ← ExceptT.mk (.done (freeSlot user (← slots target)))
  let _ ← run target ["user", "set", "name", id, user]
  let _ ← run target ["user", "set", "password", id, password]
  grant target id role
  let _ ← run target ["user", "enable", id]
  return true

/-- Gives a user another password and role. -/
def userUpdate (user password : String) (role : UserRole) : Talk Bool := do
  let id ← ExceptT.mk (.done (slotOf user (← slots target)))
  let _ ← run target ["user", "set", "password", id, password]
  grant target id role
  return true

def userDelete (user : String) : Talk Bool := do
  let id ← ExceptT.mk (.done (slotOf user (← slots target)))
  let _ ← run target ["user", "disable", id]
  let _ ← run target ["user", "set", "name", id, ""]
  return true

/-! ## The driver -/

def talk : (c : Call) → Talk c.Answer
  | .powerState => powerState target
  | .powerSet action => powerSet target action
  | .bootDeviceSet device options => bootDeviceSet target device options
  | .userCreate user password role => userCreate target user password role
  | .userUpdate user password role => userUpdate target user password role
  | .userDelete user => userDelete target user
  | .users => users target
  | .bmcReset kind => bmcReset target kind
  | .eventLog => do return eventsOf (← run target ["sel", "elist"])
  | .clearEventLog => do
    let _ ← run target ["sel", "clear"]
  | .sensors => do return readingsOf (← run target ["sensor"])
  | c => throw (.unsupported c.feature.tag)

/-- Whether the driver can work with the controller: whether the tool can ask for the power. -/
def probe : Dialog Command Outcome Bool :=
  (run target ["chassis", "power", "status"]).run.bind fun
    | .ok _ => .done true
    | .error _ => .done false

/-- The capabilities of the driver, with a tool that `peer` runs. -/
def capabilities (peer : Command → σ → Outcome × σ) : Capabilities σ where
  connection := some { Connection.trivial with probe := (probe target).operation peer }
  backs := Features.empty |>.insert .powerState |>.insert .powerSet |>.insert .bootDeviceSet
    |>.insert .bmcReset |>.insert .userCreate |>.insert .userUpdate |>.insert .userDelete
    |>.insert .userRead |>.insert .getSystemEventLog |>.insert .clearSystemEventLog
    |>.insert .sensorRead
  handle c := (talk target c).run.operation peer

def init (peer : Command → σ → Outcome × σ) : Except Fault (Capabilities σ) :=
  if target.host.isEmpty then .error (.invalidConfig "ipmi: host is required")
  else .ok (capabilities target peer)

end OutOfBand.Ipmi
