import OutOfBand.Client
import OutOfBand.Descriptor

/-!
# Operations of clients

An operation of a client looks for one entry of the descriptors of its drivers, makes use of the
entries that it finds, one after another, and tells of one feature when it finds none. There is one
operation for each kind of call.
-/

namespace OutOfBand

namespace Client

/-- Dispatches to the drivers in whose descriptors `select` finds something; `invoke` makes use of
what it finds. -/
def dispatchTo (ctx : Context) (registry : List (Driver σ)) (client : Option Span)
    (feature : Feature) (select : Descriptor σ → Option κ)
    (invoke : κ → Operation σ (Except Fault α)) (s : Scene σ) : Dispatched σ α :=
  match ctx.error? s.now with
  | some cause => ⟨.error (.context cause []), {}, s⟩
  | none =>
    match registry.filterMap fun d =>
      (select d.capabilities.descriptor).map fun entry =>
        (⟨d.name, invoke entry⟩ : Candidate σ α) with
    | [] => ⟨.error (.notImplemented feature), {}, s⟩
    | candidates =>
      Dispatched.tryEach ctx feature.tag (Budget.perDriver ctx s.now candidates.length client)
        candidates [] {} s

/-- An order that counts as a fault when it was not carried out. -/
def accepted (op : Operation σ (Except Fault Bool)) (order : String) :
    Operation σ (Except Fault Unit) :=
  op.map fun answer => answer.bind (Call.verdict order)

/-- The start of a task, whose identifier may be blank. -/
def normalized (op : Operation σ (Except Fault String)) : Operation σ (Except Fault String) :=
  op.map fun answer => answer.map Firmware.TaskId.normalize

variable (client : Client σ) (ctx : Context) (run : Run σ)

def dispatched (feature : Feature) (select : Descriptor σ → Option κ)
    (invoke : κ → Operation σ (Except Fault α)) : Except CallError α × Run σ :=
  let d := dispatchTo ctx client.registry client.config.perProvider feature select invoke run.toScene
  (d.result, ⟨d.scene, d.metadata⟩)

/-- The operation for each kind of call. -/
def operate : (c : Call) → Except CallError c.Outcome × Run σ
  | .powerState =>
    client.dispatched ctx run .powerState Descriptor.powerState fun op => op
  | .powerSet action =>
    client.dispatched ctx run .powerSet Descriptor.powerSet fun op =>
      accepted (op action) "power set"
  | .bootDeviceSet device options =>
    client.dispatched ctx run .bootDeviceSet Descriptor.bootDeviceSet fun op =>
      accepted (op device options) "boot device set"
  | .userCreate user password role =>
    client.dispatched ctx run .userCreate Descriptor.userCreate fun op =>
      accepted (op user password role) "user create"
  | .userUpdate user password role =>
    client.dispatched ctx run .userUpdate Descriptor.userUpdate fun op =>
      accepted (op user password role) "user update"
  | .userDelete user =>
    client.dispatched ctx run .userDelete Descriptor.userDelete fun op =>
      accepted (op user) "user delete"
  | .users =>
    client.dispatched ctx run .userRead Descriptor.userRead fun op => op
  | .bmcReset kind =>
    client.dispatched ctx run .bmcReset Descriptor.bmcReset fun op =>
      accepted (op kind) "bmc reset"
  | .virtualMedia kind url =>
    client.dispatched ctx run .virtualMedia Descriptor.virtualMedia fun op =>
      accepted (op kind url) "virtual media set"
  | .firmwareInstall component applyTime force image =>
    client.dispatched ctx run .firmwareInstall Descriptor.firmwareInstall fun op =>
      normalized (op component applyTime force image)
  | .firmwareInstallStatus version component task =>
    client.dispatched ctx run .firmwareInstallStatus Descriptor.firmwareInstallStatus fun op =>
      op version component task
  | .firmwareUpload component image =>
    client.dispatched ctx run .firmwareUpload Descriptor.firmwareUpload fun op =>
      normalized (op component image)
  | .firmwareUploadAndInitiate component image =>
    client.dispatched ctx run .firmwareUploadInitiateInstall Descriptor.firmwareUploadInitiate
      fun op => normalized (op component image)
  | .firmwareInstallUploaded component task =>
    client.dispatched ctx run .firmwareInstallUploaded Descriptor.firmwareInstallUploaded fun op =>
      normalized (op component task)
  | .firmwareTaskStatus kind component task version =>
    client.dispatched ctx run .firmwareTaskStatus Descriptor.firmwareTaskStatus fun op =>
      op kind component task version
  | .firmwareInstallSteps component =>
    client.dispatched ctx run .firmwareInstallSteps Descriptor.firmwareInstallSteps fun op =>
      op component
  | .screenshot =>
    client.dispatched ctx run .screenshot Descriptor.screenshot fun op => op
  | .eventLog =>
    client.dispatched ctx run .getSystemEventLog Descriptor.systemEventLog fun op => op
  | .clearEventLog =>
    client.dispatched ctx run .clearSystemEventLog Descriptor.clearSystemEventLog fun op => op
  | .inventory =>
    client.dispatched ctx run .inventoryRead Descriptor.inventory fun op => op
  | .sensors =>
    client.dispatched ctx run .sensorRead Descriptor.sensors fun op => op

end Client

end OutOfBand
