import OutOfBand.Driver

/-!
# Descriptors

A driver tells what it can do by a descriptor: for each kind of call either what it does for it, or
nothing. A descriptor backs the features for which something stands in it, and a driver can do what
its descriptor tells.
-/

namespace OutOfBand

variable {σ : Type}

/-- What a driver does for each kind of call, as far as it does anything. -/
structure Descriptor (σ : Type) where
  connection : Option (Connection σ) := none
  powerState : Option (Operation σ (Except Fault PowerState)) := none
  powerSet : Option (PowerAction → Operation σ (Except Fault Bool)) := none
  bootDeviceSet : Option (BootDevice → BootOptions → Operation σ (Except Fault Bool)) := none
  userCreate : Option (String → String → UserRole → Operation σ (Except Fault Bool)) := none
  userUpdate : Option (String → String → UserRole → Operation σ (Except Fault Bool)) := none
  userDelete : Option (String → Operation σ (Except Fault Bool)) := none
  userRead : Option (Operation σ (Except Fault (List UserAccount))) := none
  bmcReset : Option (ResetKind → Operation σ (Except Fault Bool)) := none
  virtualMedia : Option (MediaKind → String → Operation σ (Except Fault Bool)) := none
  firmwareInstall : Option (String → Firmware.ApplyTime → Bool → Image →
    Operation σ (Except Fault String)) := none
  firmwareInstallStatus : Option (String → String → String →
    Operation σ (Except Fault String)) := none
  firmwareUpload : Option (String → Image → Operation σ (Except Fault String)) := none
  firmwareUploadInitiate : Option (String → Image → Operation σ (Except Fault String)) := none
  firmwareInstallUploaded : Option (String → String → Operation σ (Except Fault String)) := none
  firmwareTaskStatus : Option (Firmware.TaskKind → String → String → String →
    Operation σ (Except Fault Firmware.Status)) := none
  firmwareInstallSteps : Option (String → Operation σ (Except Fault (List Firmware.Step))) := none
  screenshot : Option (Operation σ (Except Fault Screenshot)) := none
  systemEventLog : Option (Operation σ (Except Fault (List EventLogEntry))) := none
  clearSystemEventLog : Option (Operation σ (Except Fault Unit)) := none
  inventory : Option (Operation σ (Except Fault Json)) := none
  sensors : Option (Operation σ (Except Fault (List SensorReading))) := none

namespace Descriptor

/-- Whether the descriptor backs a feature. -/
def supports (d : Descriptor σ) : Feature → Bool
  | .powerState => d.powerState.isSome
  | .powerSet => d.powerSet.isSome
  | .bootDeviceSet => d.bootDeviceSet.isSome
  | .userCreate => d.userCreate.isSome
  | .userUpdate => d.userUpdate.isSome
  | .userDelete => d.userDelete.isSome
  | .userRead => d.userRead.isSome
  | .bmcReset => d.bmcReset.isSome
  | .virtualMedia => d.virtualMedia.isSome
  | .firmwareInstall => d.firmwareInstall.isSome
  | .firmwareInstallStatus => d.firmwareInstallStatus.isSome
  | .firmwareUpload => d.firmwareUpload.isSome
  | .firmwareUploadInitiateInstall => d.firmwareUploadInitiate.isSome
  | .firmwareInstallUploaded => d.firmwareInstallUploaded.isSome
  | .firmwareTaskStatus => d.firmwareTaskStatus.isSome
  | .firmwareInstallSteps => d.firmwareInstallSteps.isSome
  | .screenshot => d.screenshot.isSome
  | .getSystemEventLog => d.systemEventLog.isSome
  | .clearSystemEventLog => d.clearSystemEventLog.isSome
  | .inventoryRead => d.inventory.isSome
  | .sensorRead => d.sensors.isSome

/-- The features that the descriptor backs. -/
def features (d : Descriptor σ) : Features := .ofList (Feature.all.filter d.supports)

/-- What a driver does that does nothing. -/
def idle {α : Type} (f : Feature) : Operation σ (Except Fault α) :=
  .answer (.error (.unsupported f.tag))

/-- The capabilities of a driver with the descriptor. -/
def capabilities (d : Descriptor σ) : Capabilities σ where
  connection := d.connection
  backs := ⟨d.supports⟩
  handle
    | .powerState => d.powerState.getD (idle .powerState)
    | .powerSet action => d.powerSet.getD (fun _ => idle .powerSet) action
    | .bootDeviceSet device options =>
      d.bootDeviceSet.getD (fun _ _ => idle .bootDeviceSet) device options
    | .userCreate user password role =>
      d.userCreate.getD (fun _ _ _ => idle .userCreate) user password role
    | .userUpdate user password role =>
      d.userUpdate.getD (fun _ _ _ => idle .userUpdate) user password role
    | .userDelete user => d.userDelete.getD (fun _ => idle .userDelete) user
    | .users => d.userRead.getD (idle .userRead)
    | .bmcReset kind => d.bmcReset.getD (fun _ => idle .bmcReset) kind
    | .virtualMedia kind url => d.virtualMedia.getD (fun _ _ => idle .virtualMedia) kind url
    | .firmwareInstall component applyTime force image =>
      d.firmwareInstall.getD (fun _ _ _ _ => idle .firmwareInstall) component applyTime force image
    | .firmwareInstallStatus version component task =>
      d.firmwareInstallStatus.getD (fun _ _ _ => idle .firmwareInstallStatus) version component
        task
    | .firmwareUpload component image =>
      d.firmwareUpload.getD (fun _ _ => idle .firmwareUpload) component image
    | .firmwareUploadAndInitiate component image =>
      d.firmwareUploadInitiate.getD (fun _ _ => idle .firmwareUploadInitiateInstall) component image
    | .firmwareInstallUploaded component task =>
      d.firmwareInstallUploaded.getD (fun _ _ => idle .firmwareInstallUploaded) component task
    | .firmwareTaskStatus kind component task version =>
      d.firmwareTaskStatus.getD (fun _ _ _ _ => idle .firmwareTaskStatus) kind component task
        version
    | .firmwareInstallSteps component =>
      d.firmwareInstallSteps.getD (fun _ => idle .firmwareInstallSteps) component
    | .screenshot => d.screenshot.getD (idle .screenshot)
    | .eventLog => d.systemEventLog.getD (idle .getSystemEventLog)
    | .clearEventLog => d.clearSystemEventLog.getD (idle .clearSystemEventLog)
    | .inventory => d.inventory.getD (idle .inventoryRead)
    | .sensors => d.sensors.getD (idle .sensorRead)

end Descriptor

namespace Capabilities

/-- What stands in a descriptor for a feature. -/
def entry {α : Type} (caps : Capabilities σ) (f : Feature) (deed : α) : Option α :=
  bif caps.backs.has f then some deed else .none

/-- The descriptor of a driver with the capabilities. -/
def descriptor (caps : Capabilities σ) : Descriptor σ where
  connection := caps.connection
  powerState := caps.entry .powerState (caps.handle .powerState)
  powerSet := caps.entry .powerSet fun action => caps.handle (.powerSet action)
  bootDeviceSet := caps.entry .bootDeviceSet fun device options =>
    caps.handle (.bootDeviceSet device options)
  userCreate := caps.entry .userCreate fun user password role =>
    caps.handle (.userCreate user password role)
  userUpdate := caps.entry .userUpdate fun user password role =>
    caps.handle (.userUpdate user password role)
  userDelete := caps.entry .userDelete fun user => caps.handle (.userDelete user)
  userRead := caps.entry .userRead (caps.handle .users)
  bmcReset := caps.entry .bmcReset fun kind => caps.handle (.bmcReset kind)
  virtualMedia := caps.entry .virtualMedia fun kind url => caps.handle (.virtualMedia kind url)
  firmwareInstall := caps.entry .firmwareInstall fun component applyTime force image =>
    caps.handle (.firmwareInstall component applyTime force image)
  firmwareInstallStatus := caps.entry .firmwareInstallStatus fun version component task =>
    caps.handle (.firmwareInstallStatus version component task)
  firmwareUpload := caps.entry .firmwareUpload fun component image =>
    caps.handle (.firmwareUpload component image)
  firmwareUploadInitiate := caps.entry .firmwareUploadInitiateInstall fun component image =>
    caps.handle (.firmwareUploadAndInitiate component image)
  firmwareInstallUploaded := caps.entry .firmwareInstallUploaded fun component task =>
    caps.handle (.firmwareInstallUploaded component task)
  firmwareTaskStatus := caps.entry .firmwareTaskStatus fun kind component task version =>
    caps.handle (.firmwareTaskStatus kind component task version)
  firmwareInstallSteps := caps.entry .firmwareInstallSteps fun component =>
    caps.handle (.firmwareInstallSteps component)
  screenshot := caps.entry .screenshot (caps.handle .screenshot)
  systemEventLog := caps.entry .getSystemEventLog (caps.handle .eventLog)
  clearSystemEventLog := caps.entry .clearSystemEventLog (caps.handle .clearEventLog)
  inventory := caps.entry .inventoryRead (caps.handle .inventory)
  sensors := caps.entry .sensorRead (caps.handle .sensors)

end Capabilities

end OutOfBand
