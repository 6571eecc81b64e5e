import OutOfBand.Json.Decode

/-!
# Envelopes of remote calls

The JSON records in which a remote call travels to its consumer and its answer comes back.
-/

namespace OutOfBand.Rpc

open Json

/-- A call on its way to the consumer. -/
structure Request where
  id : Int64
  host : String
  method : String
  params : Json

namespace Request

def idSlot : Doc.Slot Int64 := .required "id"

def hostSlot : Doc.Slot String := .required "host"

def methodSlot : Doc.Slot String := .required "method"

def paramsSlot : Doc.Slot Json := .required "params"

instance : ToJson Request where
  json r := .obj [("id", json r.id), ("host", json r.host), ("method", json r.method),
    ("params", r.params)]

instance : FromDoc Request where
  read d := do
    let shape := Doc.Shape.of "RpcRequest"
      [idSlot.field, hostSlot.field, methodSlot.field, paramsSlot.field]
    let found ← shape.members d
    return ⟨← idSlot.of found, ← hostSlot.of found, ← methodSlot.of found, ← paramsSlot.of found⟩

end Request

/-- The error that an answer may report. -/
structure ResponseError where
  code : Int64
  message : String
  deriving DecidableEq

namespace ResponseError

def codeSlot : Doc.Slot Int64 := .defaulted "code" 0

def messageSlot : Doc.Slot String := .defaulted "message" ""

instance : ToJson ResponseError where
  json e := .obj [("code", json e.code), ("message", json e.message)]

instance : FromDoc ResponseError where
  read d := do
    let found ← (Doc.Shape.of "RpcResponseError" [codeSlot.field, messageSlot.field]).members d
    return ⟨← codeSlot.of found, ← messageSlot.of found⟩

/-- Whether the error says that nothing is wrong. -/
def isVoid (e : ResponseError) : Bool := e.code == 0 && e.message.isEmpty

end ResponseError

/-- An answer to a call. -/
structure Response where
  id : Int64
  host : String
  result : Json
  error : Option ResponseError

namespace Response

def idSlot : Doc.Slot Int64 := .required "id"

def hostSlot : Doc.Slot String := .defaulted "host" ""

def resultSlot : Doc.Slot Json := .defaulted "result" .null

def errorSlot : Doc.Slot (Option ResponseError) := .defaulted "error" none

instance : ToJson Response where
  json r := .obj [("id", json r.id), ("host", json r.host), ("result", r.result),
    ("error", json r.error)]

instance : FromDoc Response where
  read d := do
    let shape := Doc.Shape.of "RpcResponse"
      [idSlot.field, hostSlot.field, resultSlot.field, errorSlot.field]
    let found ← shape.members d
    return ⟨← idSlot.of found, ← hostSlot.of found, ← resultSlot.of found, ← errorSlot.of found⟩

end Response

end OutOfBand.Rpc
