import OutOfBand.Dialog
import OutOfBand.Driver
import OutOfBand.Target

/-!
# The wake-up driver

A host that is off is switched on by a packet that is sent to its network: six bytes `FF`, and then
the MAC address of the host sixteen times. Nothing else can be done in this way, and there is no
answer.
-/

namespace OutOfBand.Wake

/-- The name of the driver, which is that of its protocol. -/
def name : String := "wol"

/-- The features that the driver advertises. -/
def features : List Feature := [.powerSet]

/-- A packet on its way. -/
structure Packet where
  address : IpAddress
  port : UInt16
  payload : List UInt8
  deriving DecidableEq, Repr

/-- The bytes that wake the host with the given MAC address. -/
def payload (mac : List UInt8) : List UInt8 :=
  List.replicate 6 0xff ++ (List.replicate 16 mac).flatten

def packet (options : WakeOptions) : Packet :=
  ⟨options.broadcast, options.port, payload options.mac⟩

/-- A dialog with the network, which answers why a packet was not sent, if it was not. -/
abbrev Talk (α : Type) := ExceptT Fault (Dialog Packet (Option String)) α

def wake (options : WakeOptions) : Talk Bool :=
  ExceptT.mk ((Dialog.question (packet options)).bind fun
    | none => .done (.ok true)
    | some reason => .done (.error (.networkError reason)))

def talk (options : WakeOptions) : (c : Call) → Talk c.Answer
  | .powerSet .on => wake options
  | .powerSet action => throw (.unsupported s!"Wake-on-LAN does not support power {action.name}")
  | c => throw (.unsupported c.feature.tag)

/-- The capabilities of the driver, with a network that `peer` stands for. -/
def capabilities (options : WakeOptions) (peer : Packet → σ → Option String × σ) :
    Capabilities σ where
  connection := some .trivial
  backs := Features.empty.insert .powerSet
  handle c := (talk options c).run.operation peer

/-- The options for the MAC address that a text writes. -/
def optionsOfText (s : String) : Except Fault WakeOptions :=
  match WakeOptions.ofText s with
  | some options => .ok options
  | none => .error (.invalidConfig s!"invalid MAC address: {s}")

def init (target : Target) (peer : Packet → σ → Option String × σ) :
    Except Fault (Capabilities σ) :=
  match target.options.wake with
  | some options => .ok (capabilities options peer)
  | none => .error (.invalidConfig "wol: no MAC address configured")

end OutOfBand.Wake
