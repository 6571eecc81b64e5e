import OutOfBand.Driver
import OutOfBand.Json.Printer
import OutOfBand.Redfish.Resource
import OutOfBand.Target
import OutOfBand.Web.Request

/-!
# The Redfish driver

The driver logs in to the session service of the controller and finds out which system and which
manager there are. A controller without sessions is sent the password with every request. If the
controller does not accept a session any more, the driver says that the session has expired, so that
whoever goes on for long can log in again.
-/

namespace OutOfBand.Redfish

/-- The name of the driver, which is that of its protocol. -/
def name : String := "redfish"

/-- The features that the driver advertises. -/
def features : List Feature :=
  [.powerState, .powerSet, .bootDeviceSet, .bmcReset, .userRead, .userCreate, .userUpdate,
    .userDelete, .virtualMedia, .firmwareInstall, .firmwareTaskStatus, .firmwareInstallSteps,
    .inventoryRead]

/-- A session with the controller. -/
structure Session where
  token : String
  /-- The resource of the session, which is deleted at the end. -/
  location : Option String
  deriving DecidableEq, Repr, Inhabited

/-- What the driver remembers. -/
structure State where
  session : Option Session := none
  /-- The system that was found. -/
  system : Option String := none
  /-- The manager that was found. -/
  manager : Option String := none
  deriving DecidableEq, Repr, Inhabited

/-- Something that the driver does: it may fail, and it may change what the driver remembers. -/
abbrev Act (α : Type) := ExceptT Fault (StateT State (Dialog Web.Request Web.Outcome)) α

/-- A dialog as something that the driver does. -/
def ofTalk (talk : Web.Talk α) : Act α :=
  ExceptT.mk fun s => talk.run.bind fun result => .done (result, s)

/-- The outcome of something that the driver does, in place of a failure of the whole. -/
def attempt (act : Act α) : Act (Except Fault α) :=
  ExceptT.mk fun s => (act.run s).bind fun (result, s) => .done (.ok result, s)

variable (target : Target)

/-! ## Requests -/

/-- The URL of a path; a path may also be a URL itself. -/
def urlOf (path : String) : String :=
  if path.startsWith "http://" || path.startsWith "https://" then path
  else target.options.redfish.baseUrl target.host ++ path

/-- By what requests show who sends them. -/
def credentials (s : State) : Web.Credentials :=
  match s.session with
  | some session => .token session.token
  | none => .basic target.username target.password

/-- The reply, if it says that the request was a success. -/
def accepted (s : State) (url : Web.Url) (reply : Web.Reply) : Except Fault Web.Reply :=
  if reply.status = 401 then
    let detail := s!"401 from {url.path}"
    .error (if s.session.isSome then .sessionExpired detail else .authenticationFailed detail)
  else if !reply.isSuccess then
    .error (.commandFailed s!"{reply.status} {url.path}: {Text.trim reply.text}")
  else .ok reply

/-- Sends a request with the credentials of the moment; anything but success is a fault. -/
def send (method : Web.Method) (path : String) (headers : List Web.Header) (body : Web.Body) :
    Act Web.Reply := do
  let s ← get
  let (url, reply) ← ofTalk
    (Web.send method (urlOf target path) (credentials target s) headers body)
  ExceptT.mk (pure (accepted s url reply))

def getJson (path : String) : Act Json := do
  let reply ← send target .get path [] .none
  ExceptT.mk (pure (reply.decoded Json))

/-- Creates a member of a resource or starts an action of it. -/
def post (path : String) (j : Json) : Act Bool := do
  let reply ← send target .post path [Web.jsonContent] (.text j.render)
  return reply.isSuccess

def patch (path : String) (j : Json) : Act Bool := do
  let reply ← send target .patch path [Web.jsonContent] (.text j.render)
  return reply.isSuccess

/-- The links to the members of a collection. -/
def members (path : String) : Act (List String) := do
  return memberLinks (← getJson target path)

/-! ## Sessions -/

/-- The session that a reply to a login opens, if it does. -/
def sessionOf (reply : Web.Reply) : Option Session :=
  (reply.header? "X-Auth-Token").map fun token => ⟨token, reply.header? "Location"⟩

/-- Logs in. A controller without sessions is fine, but not one that declines the credentials. -/
def login : Act Unit := do
  let body := Json.object [("UserName", .str target.username), ("Password", .str target.password)]
  let (_, reply) ← ofTalk
    (Web.send .post (urlOf target sessionsPath) .none [Web.jsonContent] (.text body.render))
  if reply.status = 401 || reply.status = 403 then
    throw (.authenticationFailed s!"session login rejected for {target.username}")
  else if reply.isSuccess then
    match sessionOf reply with
    | some session => modify fun s => { s with session := some session }
    | none => pure ()
  else pure ()

/-- The first member of a collection, if the collection can be read and has one. -/
def firstMember (path : String) : Act (Option String) := do
  match ← attempt (members target path) with
  | .ok links => return links.head?
  | .error _ => return none

/-- Finds out which system and which manager there are. -/
def discover : Act Unit := do
  let system ← firstMember target systemsPath
  let manager ← firstMember target managersPath
  modify fun s => { s with system := system.or s.system, manager := manager.or s.manager }

/-- Whether the configuration leaves the system or the manager to be found out. -/
def mustDiscover : Bool :=
  target.options.redfish.systemPath.isNone || target.options.redfish.managerPath.isNone

def openSession : Act Unit := do
  login target
  if mustDiscover target then discover target

/-- Closes the session, if there is one. -/
def closeSession : Act Unit := do
  let session := (← get).session
  modify fun s => { s with session := none }
  match session with
  | some ⟨token, some location⟩ =>
    let _ ← ofTalk (Web.send .delete (urlOf target location) (.token token) [] .none)
  | _ => pure ()

def probe : Act Bool := do
  match ← attempt (getJson target serviceRoot) with
  | .ok root => return (root.get? "RedfishVersion").isSome
  | .error _ => return false

def systemPath : Act String := do
  return (← get).system.getD (target.options.redfish.systemPath.getD defaultSystem)

def managerPath : Act String := do
  return (← get).manager.getD (target.options.redfish.managerPath.getD defaultManager)

/-! ## Power, boot and reset -/

/-- Asks for the power of the host. -/
def powerState : Act PowerState := do
  return powerOf (← getJson target (← systemPath target))

/-- Switches the host. A host that is off cannot be restarted; it is switched on instead. -/
def powerSet (action : PowerAction) : Act Bool := do
  let action ← if action = .cycle then do
      let state ← powerState target
      pure (if state = .off then .on else action)
    else pure action
  post target ((← systemPath target) ++ "/Actions/ComputerSystem.Reset")
    (resetBody (resetType action))

def bootDeviceSet (device : BootDevice) (options : BootOptions) : Act Bool := do
  patch target (← systemPath target) (bootBody device options)

/-- Resets the controller, with which the session ends. -/
def bmcReset (kind : ResetKind) : Act Bool := do
  let done ← post target ((← managerPath target) ++ "/Actions/Manager.Reset")
    (resetBody (managerReset kind))
  modify fun s => { s with session := none }
  return done

/-! ## Users -/

/-- Reads the accounts that links lead to. -/
def usersAt : List String → Act (List UserAccount)
  | [] => return []
  | link :: links => do
    let account ← getJson target link
    let users ← usersAt links
    return (userOf account).toList ++ users

def users : Act (List UserAccount) := do
  usersAt target (← members target accountsPath)

/-- The first of the links that leads to the account of `user`. -/
def accountAmong (user : String) : List String → Act String
  | [] => throw (.commandFailed s!"no such user: {user}")
  | link :: links => do
    let account ← getJson target link
    if (account.get "UserName").str? == some user then return link
    else accountAmong user links

/-- The link to the account of `user`. -/
def accountOf (user : String) : Act String := do
  accountAmong target user (← members target accountsPath)

def userCreate (user password : String) (role : UserRole) : Act Bool :=
  post target accountsPath (accountBody user password role)

def userUpdate (user password : String) (role : UserRole) : Act Bool := do
  patch target (← accountOf target user) (accountChange password role)

def userDelete (user : String) : Act Bool := do
  let reply ← send target .delete (← accountOf target user) [] .none
  return reply.isSuccess

/-! ## Virtual media -/

/-- Inserts a medium into the first of the slots that takes its kind; no medium ejects. -/
def insertInto (kind : MediaKind) (url : String) : List String → Act Bool
  | [] => throw (.unsupported s!"no {kind.text} virtual media slot")
  | slot :: slots => do
    let media ← getJson target slot
    if !takes media kind then insertInto kind url slots
    else if url.isEmpty then
      post target (slot ++ "/Actions/VirtualMedia.EjectMedia") (.obj [])
    else post target (slot ++ "/Actions/VirtualMedia.InsertMedia") (insertBody url)

def virtualMedia (kind : MediaKind) (url : String) : Act Bool := do
  insertInto target kind url (← members target ((← managerPath target) ++ "/VirtualMedia"))

/-! ## Firmware -/

/-- The task that a reply says was started. -/
def taskOf (reply : Web.Reply) : String :=
  match reply.header? "Location" with
  | some location => Firmware.TaskId.normalize (taskAt location)
  | none =>
    let body := match reply.decoded Json with
      | .ok body => body
      | .error _ => .null
    Firmware.TaskId.normalize (textAt body "Id")

/-- The form by which an image is pushed. -/
def updateForm (component : String) (applyTime : Firmware.ApplyTime) (force : Bool)
    (image : Image) : Web.Body :=
  .form [⟨"UpdateParameters", none, "application/json",
      Text.Utf8.encode (updateParameters applyTime force).render⟩,
    ⟨"UpdateFile", some s!"{component}.bin", "application/octet-stream", image⟩]

/-- Pushes an image to the update service. -/
def firmwareInstall (component : String) (applyTime : Firmware.ApplyTime) (force : Bool)
    (image : Image) : Act String := do
  let service ← getJson target updatePath
  match (service.get "MultipartHttpPushUri").str? with
  | none => throw (.unsupported "BMC does not offer multipart firmware push")
  | some uri =>
    let reply ← send target .post uri [] (updateForm component applyTime force image)
    return taskOf reply

def taskStatus (task : String) : Act Firmware.Status := do
  return statusOf (← getJson target s!"{tasksPath}/{task}")

/-! ## The driver -/

/-- What the driver does for a call. -/
def act : (c : Call) → Act c.Answer
  | .powerState => powerState target
  | .powerSet action => powerSet target action
  | .bootDeviceSet device options => bootDeviceSet target device options
  | .userCreate user password role => userCreate target user password role
  | .userUpdate user password role => userUpdate target user password role
  | .userDelete user => userDelete target user
  | .users => users target
  | .bmcReset kind => bmcReset target kind
  | .virtualMedia kind url => virtualMedia target kind url
  | .firmwareInstall component applyTime force image =>
    firmwareInstall target component applyTime force image
  | .firmwareTaskStatus _ _ task _ => taskStatus target task
  | .firmwareInstallSteps _ => return [.install, .installStatus]
  | .inventory => do getJson target (← systemPath target)
  | c => throw (.unsupported c.feature.tag)

/-- Something that the driver does as an operation, in a world of which what the driver remembers is
a part, with web services that `peer` stands for. -/
def operation (peer : Web.Request → σ → Web.Outcome × σ) (act : Act α) :
    Operation (State × σ) (Except Fault α) :=
  .instantly fun (s, w) =>
    let ((result, s), w) := (act.run s).play peer w
    (result, s, w)

/-- Whether the answer to a question that cannot fail is yes. -/
def isYes : Except Fault Bool → Bool
  | .ok answer => answer
  | .error _ => false

def capabilities (peer : Web.Request → σ → Web.Outcome × σ) : Capabilities (State × σ) where
  connection := some
    { login := operation peer (openSession target)
      logout := operation peer (closeSession target)
      probe := (operation peer (probe target)).map isYes }
  backs := Features.empty |>.insert .powerState |>.insert .powerSet |>.insert .bootDeviceSet
    |>.insert .bmcReset |>.insert .userRead |>.insert .userCreate |>.insert .userUpdate
    |>.insert .userDelete |>.insert .virtualMedia |>.insert .firmwareInstall
    |>.insert .firmwareTaskStatus |>.insert .firmwareInstallSteps |>.insert .inventoryRead
  handle c := operation peer (act target c)

def init (peer : Web.Request → σ → Web.Outcome × σ) : Except Fault (Capabilities (State × σ)) :=
  if target.host.isEmpty then .error (.invalidConfig "redfish: host is required")
  else .ok (capabilities target peer)

end OutOfBand.Redfish
