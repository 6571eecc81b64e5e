import OutOfBand.Client
import OutOfBand.Clock

/-!
# Clients and the clock

Each time that a driver is given its time, the clock is asked for the instant at which that time is
up. If it cannot show the instant, everything stops there: of a dispatch the scene is left in which
the driver would have had its turn, and of sessions, for which all drivers are given their time
before any of them is asked, the run as it was.
-/

namespace OutOfBand.Client

/-! ## Dispatch -/

namespace Dispatched

/-- The failures that are listed where no candidate is left. -/
def exhausted? (d : Dispatched σ α) : Option (List Failure) :=
  match d.result with
  | .error (.exhausted _ failures) => some failures
  | _ => none

/-- Tries the candidates one after another, as long as the clock can show when the time of each is
up; else the scene in which it cannot. -/
def tryEachBy (clock : Clock) (ctx : Context) (operation : String) (time : Span) :
    List (Candidate σ α) → List Failure → Metadata → Scene σ → Except (Scene σ) (Dispatched σ α)
  | [], failures, record, s => .ok ⟨.error (.exhausted operation failures), record, s⟩
  | c :: rest, failures, record, s =>
    if (ctx.limited? clock s.now time).isNone then .error s
    else
      let tried := tryEach ctx operation time [c] failures record s
      match tried.exhausted? with
      | some failures => tryEachBy clock ctx operation time rest failures tried.metadata tried.scene
      | none => .ok tried

end Dispatched

/-- Makes a call by the clock. -/
def dispatchBy (clock : Clock) (ctx : Context) (registry : List (Driver σ)) (client : Option Span)
    (c : Call) (s : Scene σ) : Except (Scene σ) (Dispatched σ c.Outcome) :=
  if (ctx.error? s.now).isSome || (eligible registry c).isEmpty then
    .ok (dispatch ctx registry client c s)
  else
    Dispatched.tryEachBy clock ctx c.feature.tag
      (Budget.perDriver ctx s.now (eligible registry c).length client)
      ((eligible registry c).map fun d => ⟨d.name, work d c⟩) [] {} s

def callBy (client : Client σ) (clock : Clock) (ctx : Context) (c : Call) (run : Run σ) :
    Except (Run σ) (Except CallError c.Outcome × Run σ) :=
  match dispatchBy clock ctx client.registry client.config.perProvider c run.toScene with
  | .ok d => .ok (d.result, ⟨d.scene, d.metadata⟩)
  | .error s => .error { run with toScene := s }

/-! ## Sessions -/

/-- Does something with the sessions of all drivers, if the clock can show when their time is up; the
run as it was if it cannot. Without drivers it is not asked. -/
def sessionsBy (client : Client σ) (clock : Clock) (ctx : Context) (act : Run σ → α)
    (run : Run σ) : Except (Run σ) α :=
  if client.registry.isEmpty ||
      (ctx.limited? clock run.now (client.sessionTime ctx run.now)).isSome then .ok (act run)
  else .error run

def openAllBy (client : Client σ) (clock : Clock) (ctx : Context) (run : Run σ) :
    Except (Run σ) (Except CallError Unit × Client σ × Run σ) :=
  client.sessionsBy clock ctx (client.openAll ctx) run

def closeAllBy (client : Client σ) (clock : Clock) (ctx : Context) (run : Run σ) :
    Except (Run σ) (Except CallError Unit × Run σ) :=
  client.sessionsBy clock ctx (client.closeAll ctx) run

def keepCompatibleBy (client : Client σ) (clock : Clock) (ctx : Context) (run : Run σ) :
    Except (Run σ) (Client σ × Run σ) :=
  client.sessionsBy clock ctx (client.keepCompatible ctx) run

end OutOfBand.Client
