import OutOfBand.Vocabulary

/-!
# Features

A feature is one kind of operation that a driver may offer. A driver advertises a set of them;
registries are filtered by what is advertised. Sets are written in the order of the features.
-/

namespace OutOfBand

open Json

/-- One kind of operation that a driver may offer. -/
inductive Feature where
  | powerState
  | powerSet
  | bootDeviceSet
  | userCreate
  | userUpdate
  | userDelete
  | userRead
  | bmcReset
  | virtualMedia
  | firmwareInstall
  | firmwareInstallStatus
  | firmwareUpload
  | firmwareUploadInitiateInstall
  | firmwareInstallUploaded
  | firmwareTaskStatus
  | firmwareInstallSteps
  | screenshot
  | getSystemEventLog
  | clearSystemEventLog
  | inventoryRead
  | sensorRead
  deriving DecidableEq, Repr, Inhabited

namespace Feature

def all : List Feature :=
  [powerState, powerSet, bootDeviceSet, userCreate, userUpdate, userDelete, userRead, bmcReset,
    virtualMedia, firmwareInstall, firmwareInstallStatus, firmwareUpload,
    firmwareUploadInitiateInstall, firmwareInstallUploaded, firmwareTaskStatus,
    firmwareInstallSteps, screenshot, getSystemEventLog, clearSystemEventLog, inventoryRead,
    sensorRead]

def tag : Feature → String
  | powerState => "powerstate"
  | powerSet => "powerset"
  | bootDeviceSet => "bootdeviceset"
  | userCreate => "usercreate"
  | userUpdate => "userupdate"
  | userDelete => "userdelete"
  | userRead => "userread"
  | bmcReset => "bmcreset"
  | virtualMedia => "virtualmedia"
  | firmwareInstall => "firmwareinstall"
  | firmwareInstallStatus => "firmwareinstallstatus"
  | firmwareUpload => "firmwareupload"
  | firmwareUploadInitiateInstall => "firmwareuploadinitiateinstall"
  | firmwareInstallUploaded => "firmwareinstalluploaded"
  | firmwareTaskStatus => "firmwaretaskstatus"
  | firmwareInstallSteps => "firmwareinstallsteps"
  | screenshot => "screenshot"
  | getSystemEventLog => "getsystemeventlog"
  | clearSystemEventLog => "clearsystemeventlog"
  | inventoryRead => "inventoryread"
  | sensorRead => "sensorread"

/-- The name of a feature in a listing of its registration. -/
def title : Feature → String
  | powerState => "PowerState"
  | powerSet => "PowerSet"
  | bootDeviceSet => "BootDeviceSet"
  | userCreate => "UserCreate"
  | userUpdate => "UserUpdate"
  | userDelete => "UserDelete"
  | userRead => "UserRead"
  | bmcReset => "BmcReset"
  | virtualMedia => "VirtualMedia"
  | firmwareInstall => "FirmwareInstall"
  | firmwareInstallStatus => "FirmwareInstallStatus"
  | firmwareUpload => "FirmwareUpload"
  | firmwareUploadInitiateInstall => "FirmwareUploadInitiateInstall"
  | firmwareInstallUploaded => "FirmwareInstallUploaded"
  | firmwareTaskStatus => "FirmwareTaskStatus"
  | firmwareInstallSteps => "FirmwareInstallSteps"
  | screenshot => "Screenshot"
  | getSystemEventLog => "GetSystemEventLog"
  | clearSystemEventLog => "ClearSystemEventLog"
  | inventoryRead => "InventoryRead"
  | sensorRead => "SensorRead"

theorem mem_all (f : Feature) : f ∈ all := by cases f <;> simp [all]

instance : Vocabulary Feature := ⟨all, tag⟩
instance : ToJson Feature := ⟨Vocabulary.toJson⟩
instance : FromDoc Feature := ⟨Vocabulary.fromText "feature"⟩

def parse (s : String) : Except Fault Feature := Vocabulary.parse "feature" s

end Feature

/-- A set of features. -/
structure Features where
  /-- Whether a feature belongs to the set. -/
  has : Feature → Bool

namespace Features

def empty : Features := ⟨fun _ => false⟩

def full : Features := ⟨fun _ => true⟩

/-- The set of the features in a list. -/
def ofList (fs : List Feature) : Features := ⟨fun f => fs.contains f⟩

/-- The features of the set, in order. -/
def toList (s : Features) : List Feature := Feature.all.filter s.has

/-- The set with `f` added to it. -/
def insert (s : Features) (f : Feature) : Features := ⟨fun g => g == f || s.has g⟩

/-- Whether all the features in a list belong to the set. -/
def includes (s : Features) (wanted : List Feature) : Bool := wanted.all s.has

/-- The number of features in the set. -/
def size (s : Features) : Nat := s.toList.length

def isEmpty (s : Features) : Bool := s.toList.isEmpty

def text (s : Features) : String :=
  "[" ++ String.intercalate ", " (s.toList.map Feature.tag) ++ "]"

@[simp] theorem mem_toList {s : Features} {f : Feature} : f ∈ s.toList ↔ s.has f = true := by
  simp [toList, Feature.mem_all]

@[simp] theorem has_ofList (fs : List Feature) (f : Feature) :
    (ofList fs).has f = fs.contains f := rfl

@[simp] theorem has_insert (s : Features) (f g : Feature) :
    (s.insert f).has g = (g == f || s.has g) := rfl

theorem includes_iff {s : Features} {wanted : List Feature} :
    s.includes wanted = true ↔ ∀ f ∈ wanted, s.has f = true := by
  simp [includes]

instance : Inhabited Features := ⟨empty⟩
instance : ToJson Features := ⟨fun s => json s.toList⟩
instance : FromDoc Features := ⟨fun d => (FromDoc.read d).map ofList⟩

end Features

end OutOfBand
