import OutOfBand.Driver
import OutOfBand.Hash.Hmac
import OutOfBand.Json.Printer
import OutOfBand.Rpc.Envelope
import OutOfBand.Web.Request

/-!
# The remote call driver

Calls are handed on to a consumer, a web service that carries them out in its own way. Every request
is signed: for each shared secret there is a signature of the body followed by the values of the
headers that the configuration names. An answer counts only if it bears the identifier of the
request.
-/

namespace OutOfBand.Rpc

open Json

/-- The name of the driver, which is that of its protocol. -/
def name : String := "rpc"

/-- The features that the driver advertises. -/
def features : List Feature := [.powerState, .powerSet, .bootDeviceSet, .virtualMedia]

/-- What sets one request apart from all others: a number drawn at random, and the time. -/
structure Stamp where
  id : UInt32
  time : String
  deriving DecidableEq, Repr, Inhabited

variable (options : RpcOptions) (host : String)

/-! ## Signing -/

def requestFor (stamp : Stamp) (method : String) (params : Json) : Request :=
  ⟨Int64.ofNat stamp.id.toNat, host, method, params⟩

/-- The headers of a request that may be signed. -/
def headersFor (stamp : Stamp) : List Web.Header :=
  [Web.jsonContent, (options.timestampHeader, stamp.time)]

/-- The bytes that are signed: the body, and then the values of the headers that are to be signed.
-/
def signedBytes (body : String) (headers : List Web.Header) : List UInt8 :=
  Text.Utf8.encode body ++ options.signedHeaders.flatMap fun name =>
    match headers.find? fun (n, _) => Text.sameName n name with
    | some (_, value) => Text.Utf8.encode value
    | none => []

/-- The signatures of bytes, one for each secret. -/
def signature (message : List UInt8) : String :=
  String.intercalate "," (options.secrets.map fun secret => options.algorithm.sign secret message)

/-- The headers of a request with a body, the signatures first. -/
def signedHeaders (stamp : Stamp) (body : String) : List Web.Header :=
  let headers := headersFor options stamp
  (options.signatureHeader, signature options (signedBytes options body headers)) :: headers

/-! ## Answers -/

/-- The result that a reply to the request numbered `id` gives. -/
def resultOf (id : Int64) (reply : Web.Reply) : Except Fault Json :=
  if !reply.isSuccess then
    .error (.commandFailed s!"rpc consumer returned {reply.status}: {Text.trim reply.text}")
  else match reply.decoded Response with
    | .error fault => .error fault
    | .ok response =>
      if response.id != id then
        .error (.protocol s!"rpc response id {response.id} does not match request id {id}")
      else match response.error with
        | none => .ok response.result
        | some e =>
          if e.isVoid then .ok response.result else .error (.rpc e.code.toInt e.message)

/-- Hands a call on to the consumer. -/
def call (stamp : Stamp) (method : String) (params : Json) : Web.Talk Json := do
  let request := requestFor host stamp method params
  let body := (json request).render
  let (_, reply) ← Web.send .post options.consumerUrl .none (signedHeaders options stamp body)
    (.text body)
  ExceptT.mk (.done (resultOf request.id reply))

/-! ## The driver -/

/-- The power of a host that a result tells. -/
def powerOf (result : Json) : PowerState :=
  match Text.lower (result.str?.getD "") with
  | "on" => .on
  | "off" => .off
  | _ => .unknown

/-- Hands an order on to the consumer. -/
def order (stamp : Stamp) (method : String) (params : List (String × Json)) : Web.Talk Bool := do
  let _ ← call options host stamp method (.object params)
  return true

def talk (stamp : Stamp) : (c : Call) → Web.Talk c.Answer
  | .powerState => do return powerOf (← call options host stamp "getPowerState" (.obj []))
  | .powerSet action => order options host stamp "setPowerState" [("state", .str action.name)]
  | .bootDeviceSet device boot =>
    order options host stamp "setBootDevice"
      [("device", .str device.text), ("persistent", .bool boot.persistent),
        ("efiBoot", .bool boot.efi)]
  | .virtualMedia kind url =>
    order options host stamp "setVirtualMedia" [("mediaUrl", .str url), ("kind", .str kind.text)]
  | c => throw (.unsupported c.feature.tag)

/-- The capabilities of the driver, with web services that `peer` stands for, and a world that gives
a stamp to each request. -/
def capabilities (stamp : Nat → σ → Stamp × σ) (peer : Web.Request → σ → Web.Outcome × σ) :
    Capabilities σ where
  connection := some .trivial
  backs := Features.empty |>.insert .powerState |>.insert .powerSet |>.insert .bootDeviceSet
    |>.insert .virtualMedia
  handle c now w :=
    let (stamp, w) := stamp now w
    (talk options host stamp c).run.operation peer now w

/-- Sets the driver up. A consumer and a secret are needed. -/
def init (target : Target) (stamp : Nat → σ → Stamp × σ)
    (peer : Web.Request → σ → Web.Outcome × σ) : Except Fault (Capabilities σ) :=
  match target.options.rpc with
  | none => .error (.invalidConfig "rpc: no consumer configured")
  | some options =>
    if options.consumerUrl.isEmpty then .error (.invalidConfig "rpc: consumer_url is required")
    else if options.secrets.isEmpty then
      .error (.invalidConfig "rpc: at least one secret is required")
    else .ok (capabilities options target.host stamp peer)

end OutOfBand.Rpc
