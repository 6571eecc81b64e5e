import OutOfBand.Account
import OutOfBand.Feature
import OutOfBand.Firmware.Step
import OutOfBand.Firmware.Task
import OutOfBand.Power
import OutOfBand.Reading

/-!
# Calls

A call is one question or order to a management controller. Each belongs to one feature, and each
has an answer of a type of its own (`Call.Answer`). A driver may answer an order by saying that it
was not carried out; for whoever gave the order that is a fault, and a blank task identifier means
that the driver has none (`Call.accept`).
-/

namespace OutOfBand

/-- The bytes of a firmware image. -/
abbrev Image := List UInt8

/-- One question or order to a management controller. -/
inductive Call where
  | powerState
  | powerSet (action : PowerAction)
  | bootDeviceSet (device : BootDevice) (options : BootOptions)
  | userCreate (user password : String) (role : UserRole)
  | userUpdate (user password : String) (role : UserRole)
  | userDelete (user : String)
  | users
  | bmcReset (kind : ResetKind)
  | virtualMedia (kind : MediaKind) (url : String)
  | firmwareInstall (component : String) (applyTime : Firmware.ApplyTime) (force : Bool)
      (image : Image)
  | firmwareInstallStatus (version component task : String)
  | firmwareUpload (component : String) (image : Image)
  | firmwareUploadAndInitiate (component : String) (image : Image)
  | firmwareInstallUploaded (component uploadTask : String)
  | firmwareTaskStatus (kind : Firmware.TaskKind) (component task version : String)
  | firmwareInstallSteps (component : String)
  | screenshot
  | eventLog
  | clearEventLog
  | inventory
  | sensors
  deriving DecidableEq, Repr, Inhabited

namespace Call

/-- The feature that a call belongs to. -/
def feature : Call → Feature
  | powerState => .powerState
  | powerSet _ => .powerSet
  | bootDeviceSet _ _ => .bootDeviceSet
  | userCreate _ _ _ => .userCreate
  | userUpdate _ _ _ => .userUpdate
  | userDelete _ => .userDelete
  | users => .userRead
  | bmcReset _ => .bmcReset
  | virtualMedia _ _ => .virtualMedia
  | firmwareInstall _ _ _ _ => .firmwareInstall
  | firmwareInstallStatus _ _ _ => .firmwareInstallStatus
  | firmwareUpload _ _ => .firmwareUpload
  | firmwareUploadAndInitiate _ _ => .firmwareUploadInitiateInstall
  | firmwareInstallUploaded _ _ => .firmwareInstallUploaded
  | firmwareTaskStatus _ _ _ _ => .firmwareTaskStatus
  | firmwareInstallSteps _ => .firmwareInstallSteps
  | screenshot => .screenshot
  | eventLog => .getSystemEventLog
  | clearEventLog => .clearSystemEventLog
  | inventory => .inventoryRead
  | sensors => .sensorRead

/-- What a driver answers: for most orders, whether they were carried out. -/
@[reducible] def Answer : Call → Type
  | powerState => PowerState
  | powerSet _ | bootDeviceSet _ _ | userCreate _ _ _ | userUpdate _ _ _ | userDelete _
  | bmcReset _ | virtualMedia _ _ => Bool
  | users => List UserAccount
  | firmwareInstall _ _ _ _ | firmwareInstallStatus _ _ _ | firmwareUpload _ _
  | firmwareUploadAndInitiate _ _ | firmwareInstallUploaded _ _ => String
  | firmwareTaskStatus _ _ _ _ => Firmware.Status
  | firmwareInstallSteps _ => List Firmware.Step
  | screenshot => Screenshot
  | eventLog => List EventLogEntry
  | clearEventLog => Unit
  | inventory => Json
  | sensors => List SensorReading

/-- What the answer comes to for whoever made the call. -/
@[reducible] def Outcome : Call → Type
  | powerState => PowerState
  | powerSet _ | bootDeviceSet _ _ | userCreate _ _ _ | userUpdate _ _ _ | userDelete _
  | bmcReset _ | virtualMedia _ _ => Unit
  | users => List UserAccount
  | firmwareInstall _ _ _ _ | firmwareInstallStatus _ _ _ | firmwareUpload _ _
  | firmwareUploadAndInitiate _ _ | firmwareInstallUploaded _ _ => String
  | firmwareTaskStatus _ _ _ _ => Firmware.Status
  | firmwareInstallSteps _ => List Firmware.Step
  | screenshot => Screenshot
  | eventLog => List EventLogEntry
  | clearEventLog => Unit
  | inventory => Json
  | sensors => List SensorReading

/-- Takes the answer whether an order was carried out as success or fault. -/
def verdict (order : String) (done : Bool) : Except Fault Unit :=
  if done then .ok () else .error (.commandFailed s!"{order} reported unsuccessful")

/-- What an answer comes to for whoever made the call. -/
def accept : (c : Call) → c.Answer → Except Fault c.Outcome
  | powerState, state => .ok state
  | powerSet _, done => verdict "power set" done
  | bootDeviceSet _ _, done => verdict "boot device set" done
  | userCreate _ _ _, done => verdict "user create" done
  | userUpdate _ _ _, done => verdict "user update" done
  | userDelete _, done => verdict "user delete" done
  | users, accounts => .ok accounts
  | bmcReset _, done => verdict "bmc reset" done
  | virtualMedia _ _, done => verdict "virtual media set" done
  | firmwareInstall _ _ _ _, task => .ok (Firmware.TaskId.normalize task)
  | firmwareInstallStatus _ _ _, status => .ok status
  | firmwareUpload _ _, task => .ok (Firmware.TaskId.normalize task)
  | firmwareUploadAndInitiate _ _, task => .ok (Firmware.TaskId.normalize task)
  | firmwareInstallUploaded _ _, task => .ok (Firmware.TaskId.normalize task)
  | firmwareTaskStatus _ _ _ _, status => .ok status
  | firmwareInstallSteps _, steps => .ok steps
  | screenshot, shot => .ok shot
  | eventLog, entries => .ok entries
  | clearEventLog, () => .ok ()
  | inventory, value => .ok value
  | sensors, readings => .ok readings

end Call

end OutOfBand
