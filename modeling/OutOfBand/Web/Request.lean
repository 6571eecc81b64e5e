import OutOfBand.Dialog
import OutOfBand.Json.Decode
import OutOfBand.Web.Url

/-!
# Requests to web services

What is sent to a web service, what comes back, and which faults the one or the other amounts to. A
request is made from texts that may not be usable: then there is a fault in place of the request.
-/

namespace OutOfBand.Web

/-- What a request does to its resource. -/
inductive Method where
  | get
  | post
  | patch
  | delete
  deriving DecidableEq, Repr, Inhabited

namespace Method

def name : Method → String
  | get => "GET"
  | post => "POST"
  | patch => "PATCH"
  | delete => "DELETE"

end Method

/-- By what a request shows who sends it. -/
inductive Credentials where
  | none
  /-- By a user name and a password. -/
  | basic (username password : String)
  /-- By the token of a session. -/
  | token (token : String)
  deriving DecidableEq, Repr, Inhabited

/-- A part of a form. -/
structure Part where
  name : String
  fileName : Option String
  contentType : String
  content : List UInt8
  deriving DecidableEq, Repr, Inhabited

/-- What a request carries. -/
inductive Body where
  | none
  /-- A text, whose type a header tells. -/
  | text (content : String)
  /-- A form of several parts. -/
  | form (parts : List Part)
  deriving DecidableEq, Repr, Inhabited

/-- A header: its name and its value. -/
abbrev Header := String × String

/-- The header that says that the body is JSON. -/
def jsonContent : Header := ("Content-Type", "application/json")

/-- A request. -/
structure Request where
  method : Method
  url : Url
  credentials : Credentials
  headers : List Header
  body : Body
  deriving DecidableEq, Repr, Inhabited

/-- A complete answer to a request. -/
structure Reply where
  status : Nat
  headers : List Header
  body : List UInt8
  deriving DecidableEq, Repr, Inhabited

/-- What becomes of a request. -/
inductive Outcome where
  | refused
  /-- There is no way there. -/
  | unreachable
  /-- The connection ended before there was an answer. -/
  | dropped
  /-- No answer came in time. -/
  | late
  | answered (reply : Reply)
  deriving DecidableEq, Repr, Inhabited

/-- A dialog with web services that may fail. -/
abbrev Talk (α : Type) := ExceptT Fault (Dialog Request Outcome) α

/-! ## Making requests -/

/-- Whether a character may stand in the name of a header. -/
def isTokenChar (c : Char) : Bool :=
  c.isAlphanum || "!#$%&'*+-.^_|~".toList.contains c || c.toNat == 0x60

/-- Whether a text can be the name of a header. -/
def isHeaderName (s : String) : Bool :=
  !s.isEmpty && s.utf8ByteSize < UInt16.size && s.toList.all isTokenChar

/-- Whether a text can be the value of a header. -/
def isHeaderValue (s : String) : Bool :=
  s.toList.all fun c => c == '\t' || (0x20 ≤ c.toNat && c.toNat != 0x7f)

/-- The URL to which the texts of a request lead, if they are usable. -/
def usableUrl (url : String) (headers : List Header) : Except Fault Url :=
  match Url.parse? url with
  | none => .error (.networkError "builder error")
  | some u =>
    if !u.hasHost then .error (.networkError s!"builder error for url ({u.text})")
    else if !headers.all fun (name, value) => isHeaderName name && isHeaderValue value then
      .error (.networkError "builder error")
    else if !(u.isWeb && u.isSendable) then
      .error (.networkError s!"builder error for url ({u.text})")
    else .ok u

/-- The reply to a request, or why there is none. -/
def replyOf (url : Url) : Outcome → Except Fault Reply
  | .refused => .error (.connectionRefused (sending url))
  | .unreachable => .error (.connectionFailed (sending url))
  | .dropped => .error (.networkError (sending url))
  | .late => .error (.timeout (sending url))
  | .answered reply => .ok reply
where
  /-- What was being done when there was no reply. -/
  sending (url : Url) : String := s!"error sending request for url ({url.text})"

/-- Sends a request and waits for the reply. -/
def send (method : Method) (url : String) (credentials : Credentials) (headers : List Header)
    (body : Body) : Talk (Url × Reply) :=
  match usableUrl url headers with
  | .error fault => throw fault
  | .ok url =>
    ExceptT.mk ((Dialog.question ⟨method, url, credentials, headers, body⟩).bind fun outcome =>
      .done ((replyOf url outcome).map (url, ·)))

/-! ## Reading replies -/

namespace Reply

def isSuccess (r : Reply) : Bool := 200 ≤ r.status && r.status < 300

/-- The value of a header, unless it holds anything but plain text. -/
def header? (r : Reply) (name : String) : Option String := do
  let (_, value) ← r.headers.find? fun (n, _) => Text.sameName n name
  if value.toList.all fun c => c == '\t' || (0x20 ≤ c.toNat && c.toNat < 0x7f) then some value
  else none

def text (r : Reply) : String := Text.Utf8.decode r.body

/-- The value of a type that the body writes. -/
def decoded (r : Reply) (α : Type) [Json.FromDoc α] : Except Fault α :=
  (Json.decodeBytes α r.body).mapError fun _ => .protocol "error decoding response body"

end Reply

end OutOfBand.Web
