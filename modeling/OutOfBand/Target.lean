import OutOfBand.Net.IpAddress
import OutOfBand.Wake.Mac
import OutOfBand.Vocabulary

/-!
# Targets

A target is what a driver is given to work on: where a management controller is, the credentials for
it, and the options of each protocol. The options of the remote call bridge and of the wake-up
packet are absent unless they are given; a driver without options declines to work.
-/

namespace OutOfBand

open Json

/-- How the driver over the IPMI command line tool reaches the controller. -/
structure IpmiOptions where
  port : UInt16 := 623
  toolPath : String := "ipmitool"
  interface : String := "lanplus"
  cipherSuite : Option UInt8 := none
  deriving DecidableEq, Repr, Inhabited

namespace IpmiOptions

def portSlot : Doc.Slot UInt16 := .defaulted "port" 623

def toolPathSlot : Doc.Slot String := .defaulted "tool_path" "ipmitool"

def interfaceSlot : Doc.Slot String := .defaulted "interface" "lanplus"

def cipherSuiteSlot : Doc.Slot (Option UInt8) := .defaulted "cipher_suite" none

instance : ToJson IpmiOptions where
  json o := .obj [("port", json o.port), ("tool_path", json o.toolPath),
    ("interface", json o.interface), ("cipher_suite", json o.cipherSuite)]

instance : FromDoc IpmiOptions where
  read d := do
    let shape := Doc.Shape.of "IpmiConfig"
      [portSlot.field, toolPathSlot.field, interfaceSlot.field, cipherSuiteSlot.field]
    let found ← shape.members d
    return ⟨← portSlot.of found, ← toolPathSlot.of found, ← interfaceSlot.of found,
      ← cipherSuiteSlot.of found⟩

end IpmiOptions

/-- How the Redfish driver reaches the controller. -/
structure RedfishOptions where
  port : UInt16 := 443
  scheme : String := "https"
  insecure : Bool := false
  /-- The system to manage; found out at the login if absent. -/
  systemPath : Option String := none
  /-- The manager to reset; found out at the login if absent. -/
  managerPath : Option String := none
  deriving DecidableEq, Repr, Inhabited

namespace RedfishOptions

def portSlot : Doc.Slot UInt16 := .defaulted "port" 443

def schemeSlot : Doc.Slot String := .defaulted "scheme" "https"

def insecureSlot : Doc.Slot Bool := .defaulted "insecure" false

def systemPathSlot : Doc.Slot (Option String) := .defaulted "system_path" none

def managerPathSlot : Doc.Slot (Option String) := .defaulted "manager_path" none

instance : ToJson RedfishOptions where
  json o := .obj [("port", json o.port), ("scheme", json o.scheme), ("insecure", json o.insecure),
    ("system_path", json o.systemPath), ("manager_path", json o.managerPath)]

instance : FromDoc RedfishOptions where
  read d := do
    let shape := Doc.Shape.of "RedfishConfig"
      [portSlot.field, schemeSlot.field, insecureSlot.field, systemPathSlot.field,
        managerPathSlot.field]
    let found ← shape.members d
    return ⟨← portSlot.of found, ← schemeSlot.of found, ← insecureSlot.of found,
      ← systemPathSlot.of found, ← managerPathSlot.of found⟩

/-- The URL under which the service of `host` stands. -/
def baseUrl (o : RedfishOptions) (host : String) : String := s!"{o.scheme}://{host}:{o.port.toNat}"

end RedfishOptions

/-- The hash function with which remote calls are signed. -/
inductive HmacAlgorithm where
  | sha256
  | sha512
  deriving DecidableEq, Repr, Inhabited

namespace HmacAlgorithm

def name : HmacAlgorithm → String
  | sha256 => "sha256"
  | sha512 => "sha512"

instance : Vocabulary HmacAlgorithm := ⟨[sha256, sha512], name⟩
instance : ToJson HmacAlgorithm := ⟨Vocabulary.toJson⟩
instance : FromDoc HmacAlgorithm := ⟨Vocabulary.fromDoc⟩

end HmacAlgorithm

/-- How the remote call bridge reaches its consumer and signs what it sends. -/
structure RpcOptions where
  consumerUrl : String := ""
  signatureHeader : String := "X-BMCLIB-Signature"
  timestampHeader : String := "X-BMCLIB-Timestamp"
  /-- The headers whose values are signed after the body, in order. -/
  signedHeaders : List String := ["X-BMCLIB-Timestamp"]
  algorithm : HmacAlgorithm := .sha256
  /-- The shared secrets; there is a signature for each. -/
  secrets : List String := []
  deriving DecidableEq, Repr, Inhabited

namespace RpcOptions

def consumerUrlSlot : Doc.Slot String := .defaulted "consumer_url" ""

def signatureHeaderSlot : Doc.Slot String := .defaulted "signature_header" "X-BMCLIB-Signature"

def timestampHeaderSlot : Doc.Slot String := .defaulted "timestamp_header" "X-BMCLIB-Timestamp"

def signedHeadersSlot : Doc.Slot (List String) :=
  .defaulted "signed_headers" ["X-BMCLIB-Timestamp"]

def algorithmSlot : Doc.Slot HmacAlgorithm := .defaulted "algorithm" .sha256

def secretsSlot : Doc.Slot (List String) := .defaulted "secrets" []

instance : ToJson RpcOptions where
  json o := .obj [("consumer_url", json o.consumerUrl),
    ("signature_header", json o.signatureHeader), ("timestamp_header", json o.timestampHeader),
    ("signed_headers", json o.signedHeaders), ("algorithm", json o.algorithm),
    ("secrets", json o.secrets)]

instance : FromDoc RpcOptions where
  read d := do
    let shape := Doc.Shape.of "RpcConfig"
      [consumerUrlSlot.field, signatureHeaderSlot.field, timestampHeaderSlot.field,
        signedHeadersSlot.field, algorithmSlot.field, secretsSlot.field]
    let found ← shape.members d
    return ⟨← consumerUrlSlot.of found, ← signatureHeaderSlot.of found,
      ← timestampHeaderSlot.of found, ← signedHeadersSlot.of found, ← algorithmSlot.of found,
      ← secretsSlot.of found⟩

/-- The options for one consumer with one secret. -/
def ofConsumer (url secret : String) : RpcOptions := { consumerUrl := url, secrets := [secret] }

end RpcOptions

/-- Which interface the wake-up packet wakes, and where the packet is sent. -/
structure WakeOptions where
  /-- The six bytes of the interface. -/
  mac : List UInt8
  broadcast : IpAddress := .broadcast
  port : UInt16 := 9
  deriving DecidableEq, Repr, Inhabited

namespace WakeOptions

def macSlot : Doc.Slot (List UInt8) where
  name := "mac_address"
  read := Doc.exactly 6 FromDoc.read
  absent := none
  needed := true

def broadcastSlot : Doc.Slot IpAddress := .required "broadcast_address"

def portSlot : Doc.Slot UInt16 := .required "port"

instance : ToJson WakeOptions where
  json o := .obj [("mac_address", json o.mac), ("broadcast_address", json o.broadcast),
    ("port", json o.port)]

instance : FromDoc WakeOptions where
  read d := do
    let shape := Doc.Shape.of "WolConfig" [macSlot.field, broadcastSlot.field, portSlot.field]
    let found ← shape.members d
    return ⟨← macSlot.of found, ← broadcastSlot.of found, ← portSlot.of found⟩

/-- The options for the interface that the text `s` writes. -/
def ofText (s : String) : Option WakeOptions := (Wake.macOfText s).map fun mac => { mac }

end WakeOptions

/-- The options of every protocol. -/
structure DriverOptions where
  ipmi : IpmiOptions := {}
  redfish : RedfishOptions := {}
  rpc : Option RpcOptions := none
  wake : Option WakeOptions := none
  deriving DecidableEq, Repr, Inhabited

namespace DriverOptions

def ipmiSlot : Doc.Slot IpmiOptions := .defaulted "ipmi" {}

def redfishSlot : Doc.Slot RedfishOptions := .defaulted "redfish" {}

def rpcSlot : Doc.Slot (Option RpcOptions) := .defaulted "rpc" none

def wakeSlot : Doc.Slot (Option WakeOptions) := .defaulted "wol" none

instance : ToJson DriverOptions where
  json o := .obj [("ipmi", json o.ipmi), ("redfish", json o.redfish), ("rpc", json o.rpc),
    ("wol", json o.wake)]

instance : FromDoc DriverOptions where
  read d := do
    let shape := Doc.Shape.of "DriverOptions"
      [ipmiSlot.field, redfishSlot.field, rpcSlot.field, wakeSlot.field]
    let found ← shape.members d
    return ⟨← ipmiSlot.of found, ← redfishSlot.of found, ← rpcSlot.of found, ← wakeSlot.of found⟩

end DriverOptions

/-- A management controller and the credentials for it. -/
structure Target where
  /-- A host name or an IP address. -/
  host : String
  username : String
  password : String
  options : DriverOptions := {}
  deriving DecidableEq, Repr, Inhabited

namespace Target

def hostSlot : Doc.Slot String := .required "host"

def usernameSlot : Doc.Slot String := .required "username"

def passwordSlot : Doc.Slot String := .required "password"

def optionsSlot : Doc.Slot DriverOptions := .defaulted "options" {}

instance : ToJson Target where
  json t := .obj [("host", json t.host), ("username", json t.username),
    ("password", json t.password), ("options", json t.options)]

instance : FromDoc Target where
  read d := do
    let shape := Doc.Shape.of "BmcTarget"
      [hostSlot.field, usernameSlot.field, passwordSlot.field, optionsSlot.field]
    let found ← shape.members d
    return ⟨← hostSlot.of found, ← usernameSlot.of found, ← passwordSlot.of found,
      ← optionsSlot.of found⟩

end Target

end OutOfBand
