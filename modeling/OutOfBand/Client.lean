import OutOfBand.Client.Dispatch
import OutOfBand.Client.Together
import OutOfBand.Config

/-!
# Clients

A client works with one controller through the drivers of its registry, in the order of preference
that the registry has. It opens and closes the sessions of all of them at once, and makes calls
through one after another. What the latest call did is on record; clients that look at one registry
in different ways share the record.
-/

namespace OutOfBand

/-- The drivers for one controller, and how to use them. -/
structure Client (σ : Type) where
  registry : List (Driver σ)
  config : Config := {}

/-- The scene in which clients work, with the record of the latest call. -/
structure Run (σ : Type) extends Scene σ where
  record : Metadata := {}
  deriving Repr

namespace Client

/-- The client as it looks through a view of its registry. -/
def view (client : Client σ) (v : View) : Client σ :=
  { client with registry := v.apply client.registry }

def call (client : Client σ) (ctx : Context) (c : Call) (run : Run σ) :
    Except CallError c.Outcome × Run σ :=
  let d := dispatch ctx client.registry client.config.perProvider c run.toScene
  (d.result, ⟨d.scene, d.metadata⟩)

/-! ## Sessions -/

/-- The time that a driver gets to open or close its session. -/
def sessionTime (client : Client σ) (ctx : Context) (now : Nat) : Span :=
  Budget.perDriver ctx now 1 client.config.perProvider

/-- Why a session was not opened or closed, if it was not. -/
def sessionCause (time : Span) : Except Interruption (Except Fault Unit) → Option Cause
  | .ok (.ok ()) => none
  | .ok (.error f) => some (.fault f)
  | .error .canceled => some .canceled
  | .error .deadlineExceeded => some (.timedOut time)

/-- What came of the sessions of several drivers. -/
structure Sessions (σ : Type) where
  /-- The drivers whose session was opened or closed as it should be. -/
  done : List (Driver σ) := []
  failures : List Failure := []
  record : Metadata := {}

namespace Sessions

/-- Takes down what came of the session of one driver; `note` records a success. -/
def add (note : Metadata → String → Metadata) (sessions : Sessions σ) (d : Driver σ) :
    Option Cause → Sessions σ
  | none =>
    { sessions with
      done := sessions.done ++ [d]
      record := note (sessions.record.attempt d.name) d.name }
  | some cause =>
    { sessions with
      failures := sessions.failures ++ [⟨d.name, cause⟩]
      record := (sessions.record.attempt d.name).failure d.name cause.message }

/-- Takes down what came of the session of each driver, in order. -/
def ofOutcomes (note : Metadata → String → Metadata) (outcomes : List (Driver σ × Option Cause)) :
    Sessions σ :=
  outcomes.foldl (fun sessions (d, cause) => sessions.add note d cause) {}

end Sessions

/-- Opens or closes the sessions of all drivers at once. -/
def sessions (client : Client σ) (ctx : Context)
    (act : Connection σ → Operation σ (Except Fault Unit))
    (note : Metadata → String → Metadata) (s : Scene σ) : Sessions σ × Scene σ :=
  let time := client.sessionTime ctx s.now
  let (outcomes, s) := together ctx time (.ok ())
    (client.registry.map fun d => d.capabilities.connection.map act) s
  (Sessions.ofOutcomes note (client.registry.zip (outcomes.map (sessionCause time))), s)

/-- Opens the sessions of all drivers. The client that comes of it has only the drivers whose
session was opened, unless there is none. -/
def openAll (client : Client σ) (ctx : Context) (run : Run σ) :
    Except CallError Unit × Client σ × Run σ :=
  if client.registry.isEmpty then (.ok (), client, { run with record := {} })
  else
    let (sessions, s) := client.sessions ctx Connection.login Metadata.sessionOpened run.toScene
    let run : Run σ := ⟨s, sessions.record⟩
    if sessions.done.isEmpty then
      let error := match ctx.error? s.now with
        | some cause => CallError.context cause sessions.failures
        | none => .exhausted "open" sessions.failures
      (.error error, client, run)
    else (.ok (), { client with registry := sessions.done }, run)

def closeAll (client : Client σ) (ctx : Context) (run : Run σ) : Except CallError Unit × Run σ :=
  let (sessions, s) := client.sessions ctx Connection.logout Metadata.sessionClosed run.toScene
  let result := match sessions.failures with
    | [] => .ok ()
    | failures => .error (.incomplete "close" failures)
  (result, ⟨s, sessions.record⟩)

/-- The client with only the drivers that find that they can work with the controller. -/
def keepCompatible (client : Client σ) (ctx : Context) (run : Run σ) : Client σ × Run σ :=
  let time := client.sessionTime ctx run.now
  let (answers, s) := together ctx time true
    (client.registry.map fun d => d.capabilities.connection.map Connection.probe) run.toScene
  let compatible : Except Interruption Bool → Bool
    | .ok answer => answer
    | .error _ => false
  let kept := (client.registry.zip answers).filter fun (_, answer) => compatible answer
  ({ client with registry := kept.map (·.1) }, { run with toScene := s })

end Client

end OutOfBand
