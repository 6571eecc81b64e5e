import OutOfBand.Mock

/-!
# Scripted mocks

A script replaces parts of a mock by acts of its own: its session, or what comes before it lists the
steps of an install or answers for a task. The script keeps a log of its own.
-/

namespace OutOfBand.Mock

/-- Something that a script does in place of a mock. -/
inductive Act where
  /-- Never comes to an end. -/
  | hang
  /-- Takes so much time, and then fails if there is a fault. -/
  | take (time : Span) (fault : Option Fault)
  deriving DecidableEq, Repr, Inhabited

def Act.nothing : Act := .take .zero none

/-- The acts of a session. -/
structure SessionScript where
  /-- The acts of the first attempts to open the session. -/
  opens : List Act := []
  /-- The act of the further attempts. -/
  login : Act := .nothing
  logout : Act := .nothing
  probe : Act := .nothing
  deriving Repr, Inhabited

/-- What replaces parts of a mock. -/
structure Script where
  /-- What comes before the steps of an install are listed. -/
  beforeSteps : Option Act := none
  /-- What comes before a task answers. -/
  beforeStatus : Option Act := none
  deriving Repr, Inhabited

/-- A mock and the script in the course of time. -/
structure Scripted where
  mock : State := {}
  /-- How often the script has opened the session. -/
  opens : Nat := 0
  /-- The log of the script, the latest entry first. -/
  log : List String := []
  deriving Inhabited

namespace Scripted

/-- The state with one more entry in the log of the script. -/
def note (s : Scripted) (entry : String) : Scripted := { s with log := entry :: s.log }

def onMock (op : Operation State α) : Operation Scripted α :=
  op.within Scripted.mock fun mock s => { s with mock }

/-- An act whose outcome is told by `conclude`. -/
def act (a : Act) (conclude : Option Fault → Scripted → α × Scripted) : Operation Scripted α :=
  fun _ s =>
    match a with
    | .hang => ⟨s, none, conclude none⟩
    | .take time fault => ⟨s, some time, conclude fault⟩

/-- An act of the session: success unless there is a fault. -/
def step (a : Act) : Operation Scripted (Except Fault Unit) :=
  act a fun fault s => (match fault with | some f => .error f | none => .ok (), s)

/-- An act, and then work on the mock that is done at once. -/
def before (a : Act) (work : State → Except Fault α × State) :
    Operation Scripted (Except Fault α) :=
  act a fun fault s =>
    match fault with
    | some f => (.error f, s)
    | none => let (answer, mock) := work s.mock; (answer, { s with mock })

def connection (script : SessionScript) : Connection Scripted where
  login now s :=
    let a := script.opens.getD s.opens script.login
    step a now { s.note "special.open" with opens := s.opens + 1 }
  logout now s := step script.logout now (s.note "special.close")
  probe now s :=
    act script.probe (fun fault s => (fault.isNone, s)) now (s.note "special.compatible")

/-- What a scripted mock does for a call. -/
def handle (m : Mock) (script : Script) : (c : Call) → Operation Scripted (Except Fault c.Answer)
  | .firmwareTaskStatus kind component task version =>
    let question := m.handle (.firmwareTaskStatus kind component task version)
    match script.beforeStatus with
    | none => onMock question
    | some a => fun now s =>
      before a (fun mock => let p := question now mock; p.finish p.world) now
        (s.note s!"special.status:{component}:{version}")
  | .firmwareInstallSteps component =>
    let question := m.handle (.firmwareInstallSteps component)
    match script.beforeSteps with
    | none => onMock question
    | some a => fun now s =>
      before a (fun mock => let p := question now mock; p.finish p.world) now s
  | c => onMock (m.handle c)

end Scripted

/-- The session of a scripted mock. -/
inductive SessionKind where
  | own
  | absent
  /-- One that a script plays. -/
  | scripted (script : SessionScript)
  deriving Repr, Inhabited

/-- What can be done with a scripted mock. -/
def scriptedCapabilities (m : Mock) (session : SessionKind) (script : Script) :
    Capabilities Scripted where
  connection := match session with
    | .own => (m.capabilities.within Scripted.mock fun mock s => { s with mock }).connection
    | .absent => none
    | .scripted script => some (Scripted.connection script)
  backs := .full
  handle := Scripted.handle m script

end OutOfBand.Mock
