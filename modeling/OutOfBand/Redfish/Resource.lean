import OutOfBand.Account
import OutOfBand.Firmware.Task
import OutOfBand.Json.Value
import OutOfBand.Power
import OutOfBand.Reading

/-!
# Redfish resources

A Redfish service is a tree of JSON resources that link to one another. Here is what the resources
say in the words of this library, and the bodies by which they are changed.
-/

namespace OutOfBand.Redfish

/-! ## Paths -/

def serviceRoot : String := "/redfish/v1"

def sessionsPath : String := "/redfish/v1/SessionService/Sessions"

def accountsPath : String := "/redfish/v1/AccountService/Accounts"

def updatePath : String := "/redfish/v1/UpdateService"

def tasksPath : String := "/redfish/v1/TaskService/Tasks"

def systemsPath : String := "/redfish/v1/Systems"

def managersPath : String := "/redfish/v1/Managers"

def defaultSystem : String := "/redfish/v1/Systems/1"

def defaultManager : String := "/redfish/v1/Managers/1"

/-! ## What resources say -/

/-- The text under a key; empty if there is none. -/
def textAt (j : Json) (key : String) : String := (j.get key).str?.getD ""

/-- The links to the members of a collection. -/
def memberLinks (collection : Json) : List String :=
  ((collection.get "Members").arr?.getD []).filterMap fun m => (m.get "@odata.id").str?

def powerOf (system : Json) : PowerState :=
  match (system.get "PowerState").str? with
  | some "On" | some "PoweringOn" => .on
  | some "Off" | some "PoweringOff" => .off
  | _ => .unknown

def roleOf : String → Option UserRole
  | "Administrator" => some .administrator
  | "Operator" => some .operator
  | "ReadOnly" => some .readOnly
  | _ => none

/-- The user whom an account stands for, if it has a name. -/
def userOf (account : Json) : Option UserAccount :=
  let name := textAt account "UserName"
  if name.isEmpty then none
  else some ⟨textAt account "Id", name, (account.get "RoleId").str?.bind roleOf,
    (account.get "Enabled").bool?.getD false⟩

/-- Whether a slot takes media of a kind. -/
def takes (media : Json) (kind : MediaKind) : Bool :=
  ((media.get "MediaTypes").arr?.getD []).any fun t => t.str? == some kind.text

def statusOf (task : Json) : Firmware.Status :=
  let state := (task.get "TaskState").str?.getD "Unknown"
  let health := (task.get "TaskStatus").str?.getD "Unknown"
  let percent := ((task.get "PercentComplete").int?.filter (0 ≤ ·)).getD 0
  ⟨.ofRedfish state, s!"{state} ({health}) {percent}%"⟩

/-- The identifier of the task at a location: what follows the last slash before the slashes at the
end. -/
def taskAt (location : String) : String :=
  let path := Text.dropEndWhile (· == '/') location.toList
  String.ofList ((path.reverse.takeWhile (· != '/')).reverse)

/-! ## Bodies -/

/-- The kind of reset that brings about a power action. -/
def resetType : PowerAction → String
  | .on => "On"
  | .off => "ForceOff"
  | .soft => "GracefulShutdown"
  | .reset | .cycle => "ForceRestart"

/-- The kind of reset of a manager. -/
def managerReset : ResetKind → String
  | .warm => "GracefulRestart"
  | .cold => "ForceRestart"

def bootSource : BootDevice → String
  | .pxe => "Pxe"
  | .disk => "Hdd"
  | .cdrom => "Cd"
  | .biosSetup => "BiosSetup"
  | .none => "None"

def roleId : UserRole → String
  | .administrator => "Administrator"
  | .operator => "Operator"
  | .user | .readOnly => "ReadOnly"

/-- The body that asks for a reset. -/
def resetBody (kind : String) : Json := .object [("ResetType", .str kind)]

/-- The body that chooses a boot device. -/
def bootBody (device : BootDevice) (options : BootOptions) : Json :=
  let enabled := if options.persistent then "Continuous" else "Once"
  let mode := if options.efi then [("BootSourceOverrideMode", Json.str "UEFI")] else []
  .object [("Boot", .object ([("BootSourceOverrideEnabled", Json.str enabled),
    ("BootSourceOverrideTarget", .str (bootSource device))] ++ mode))]

def accountBody (user password : String) (role : UserRole) : Json :=
  .object [("UserName", .str user), ("Password", .str password), ("RoleId", .str (roleId role)),
    ("Enabled", .bool true)]

def accountChange (password : String) (role : UserRole) : Json :=
  .object [("Password", .str password), ("RoleId", .str (roleId role))]

def insertBody (url : String) : Json :=
  .object [("Image", .str url), ("Inserted", .bool true), ("WriteProtected", .bool true)]

def updateParameters (applyTime : Firmware.ApplyTime) (force : Bool) : Json :=
  .object [("Targets", .arr []), ("@Redfish.OperationApplyTime", .str applyTime.tag),
    ("ForceUpdate", .bool force)]

end OutOfBand.Redfish
