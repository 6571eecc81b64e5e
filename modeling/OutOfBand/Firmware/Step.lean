import OutOfBand.Vocabulary

/-!
# Steps of a firmware install

A driver says how a component is installed by listing steps. The set of steps is fixed; vendors
differ in which of them they list and in what order.
-/

namespace OutOfBand.Firmware

open Json

/-- One step of an install. -/
inductive Step where
  /-- Upload the image and do no more. -/
  | upload
  /-- Wait until the uploaded image is verified. -/
  | uploadStatus
  /-- Upload and install in one call. -/
  | install
  /-- Wait until the install is finished. -/
  | installStatus
  /-- Upload the image; the controller goes on to install it by itself. -/
  | uploadAndInitiateInstall
  /-- Install the image that an earlier step uploaded. -/
  | installFromUploaded
  /-- Cut the power of the host. -/
  | powerOffHost
  /-- Reset the controller after the install. -/
  | resetBmcPostInstall
  /-- Reset the controller if any step fails. -/
  | resetBmcOnFailure
  deriving DecidableEq, Repr, Inhabited

namespace Step

def tag : Step → String
  | upload => "upload"
  | uploadStatus => "upload-status"
  | install => "install"
  | installStatus => "install-status"
  | uploadAndInitiateInstall => "upload-and-initiate-install"
  | installFromUploaded => "install-from-uploaded"
  | powerOffHost => "power-off-host"
  | resetBmcPostInstall => "reset-bmc-post-install"
  | resetBmcOnFailure => "reset-bmc-on-failure"

instance : Vocabulary Step where
  all := [upload, uploadStatus, install, installStatus, uploadAndInitiateInstall,
    installFromUploaded, powerOffHost, resetBmcPostInstall, resetBmcOnFailure]
  name := tag

instance : ToJson Step := ⟨Vocabulary.toJson⟩
instance : FromDoc Step := ⟨Vocabulary.fromText "firmware install step"⟩

def parse (s : String) : Except Fault Step := Vocabulary.parse "firmware install step" s

end Step

end OutOfBand.Firmware
