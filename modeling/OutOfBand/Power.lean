import OutOfBand.Vocabulary
import OutOfBand.Text.Ascii

/-!
# Power, boot and reset

The words for the power of a host, for what it boots from, and for the reset of its management
controller.
-/

namespace OutOfBand

open Json

/-- Whether a host is powered. -/
inductive PowerState where
  | on
  | off
  | unknown
  deriving DecidableEq, Repr, Inhabited

namespace PowerState

def name : PowerState → String
  | on => "on"
  | off => "off"
  | unknown => "unknown"

instance : Vocabulary PowerState := ⟨[on, off, unknown], name⟩
instance : ToJson PowerState := ⟨Vocabulary.toJson⟩
instance : FromDoc PowerState := ⟨Vocabulary.fromDoc⟩

end PowerState

/-- What to do with the power of a host. -/
inductive PowerAction where
  | on
  | off
  /-- Ask the operating system to shut down. -/
  | soft
  /-- Restart without removing power. -/
  | reset
  | cycle
  deriving DecidableEq, Repr, Inhabited

namespace PowerAction

def name : PowerAction → String
  | on => "on"
  | off => "off"
  | soft => "soft"
  | reset => "reset"
  | cycle => "cycle"

instance : Vocabulary PowerAction := ⟨[on, off, soft, reset, cycle], name⟩
instance : ToJson PowerAction := ⟨Vocabulary.toJson⟩
instance : FromDoc PowerAction := ⟨Vocabulary.fromDoc⟩

/-- The power action that `s` names, in any case of letters. -/
def parse (s : String) : Except Fault PowerAction := Vocabulary.parse "power action" (Text.lower s)

end PowerAction

/-- What a host boots from. -/
inductive BootDevice where
  | pxe
  | disk
  | cdrom
  /-- The setup of the firmware. -/
  | biosSetup
  /-- Whatever the host itself chooses. -/
  | none
  deriving DecidableEq, Repr, Inhabited

namespace BootDevice

def name : BootDevice → String
  | pxe => "pxe"
  | disk => "disk"
  | cdrom => "cdrom"
  | biosSetup => "biossetup"
  | none => "none"

/-- The name of a boot device in texts for people and in calls. -/
def text : BootDevice → String
  | biosSetup => "bios"
  | device => device.name

instance : Vocabulary BootDevice := ⟨[pxe, disk, cdrom, biosSetup, none], name⟩
instance : ToJson BootDevice := ⟨Vocabulary.toJson⟩
instance : FromDoc BootDevice := ⟨Vocabulary.fromDoc⟩

/-- The boot device that `s` names, in any case of letters; some have two names. -/
def parse (s : String) : Except Fault BootDevice :=
  match Text.lower s with
  | "hdd" => .ok disk
  | "cd" => .ok cdrom
  | "bios" => .ok biosSetup
  | word => Vocabulary.parse "boot device" word

end BootDevice

/-- How the choice of a boot device takes effect. -/
structure BootOptions where
  /-- For every boot, not only the next one. -/
  persistent : Bool
  efi : Bool
  deriving DecidableEq, Repr, Inhabited

namespace BootOptions

/-- For the next boot only, in the mode that the host is in. -/
def once : BootOptions := ⟨false, false⟩

def persistentSlot : Doc.Slot Bool := .required "persistent"

def efiSlot : Doc.Slot Bool := .required "efi"

instance : ToJson BootOptions where
  json o := .obj [("persistent", json o.persistent), ("efi", json o.efi)]

instance : FromDoc BootOptions where
  read d := do
    let found ← (Doc.Shape.of "BootOptions" [persistentSlot.field, efiSlot.field]).members d
    return ⟨← persistentSlot.of found, ← efiSlot.of found⟩

end BootOptions

/-- How a management controller is reset. -/
inductive ResetKind where
  /-- Restart in an orderly way. -/
  | warm
  | cold
  deriving DecidableEq, Repr, Inhabited

namespace ResetKind

def name : ResetKind → String
  | warm => "warm"
  | cold => "cold"

instance : Vocabulary ResetKind := ⟨[warm, cold], name⟩
instance : ToJson ResetKind := ⟨Vocabulary.toJson⟩
instance : FromDoc ResetKind := ⟨Vocabulary.fromDoc⟩

end ResetKind

end OutOfBand
