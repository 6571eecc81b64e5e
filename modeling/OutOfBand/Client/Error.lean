import OutOfBand.Context
import OutOfBand.Fault
import OutOfBand.Feature
import OutOfBand.Firmware.Step
import OutOfBand.Firmware.Task

/-!
# Errors of a client

A client tries several drivers, so its errors tell of each driver why it failed. An error also has a
chain of texts for reports: its own, and those of its causes, outermost first.
-/

namespace OutOfBand.Client

/-- Why one driver failed. -/
inductive Cause where
  /-- The driver says so. -/
  | fault (f : Fault)
  /-- The driver's time was up. -/
  | timedOut (after : Span)
  /-- The call was cancelled while the driver was at work. -/
  | canceled
  deriving DecidableEq, Repr, Inhabited

namespace Cause

def message : Cause → String
  | fault f => f.message
  | timedOut after => s!"attempt timed out after {after.text}"
  | canceled => "attempt canceled"

end Cause

/-- A driver that failed. -/
structure Failure where
  driver : String
  cause : Cause
  deriving DecidableEq, Repr, Inhabited

namespace Failure

def message (f : Failure) : String := s!"provider {f.driver}: {f.cause.message}"

def listing (fs : List Failure) : String := String.intercalate "; " (fs.map message)

end Failure

/-- Why a call came to nothing. -/
inductive CallError where
  /-- No driver backs the feature. -/
  | notImplemented (feature : Feature)
  | exhausted (operation : String) (failures : List Failure)
  /-- Something that every driver should do some did not do. -/
  | incomplete (operation : String) (failures : List Failure)
  /-- The context ended the call, after those failures. -/
  | context (cause : Interruption) (failures : List Failure)
  deriving DecidableEq, Repr, Inhabited

namespace CallError

def message : CallError → String
  | notImplemented feature => s!"no driver implements {feature.tag}"
  | exhausted operation failures =>
    s!"no driver succeeded at {operation}: {Failure.listing failures}"
  | incomplete operation failures =>
    s!"{operation} failed for some drivers: {Failure.listing failures}"
  | context cause [] => cause.message
  | context cause failures => s!"{cause.message} after {Failure.listing failures}"

/-- The failures that the error tells of. -/
def failures : CallError → List Failure
  | notImplemented _ => []
  | exhausted _ fs | incomplete _ fs | context _ fs => fs

def chain : CallError → List String
  | context cause fs => [(context cause fs).message, cause.message]
  | e => [e.message]

end CallError

/-- Why an install that began did not succeed. Most errors tell what the last task answered when it
was asked. -/
inductive InstallError where
  /-- The driver could not say what the steps are. -/
  | steps (driver component : String) (cause : Fault)
  /-- The driver knows no steps for the component. -/
  | noSteps (driver component : String)
  /-- A step needs a feature that the driver does not back. -/
  | missingCapability (driver : String) (step : Firmware.Step) (feature : Feature)
  /-- The driver failed in a step. -/
  | provider (step : Firmware.Step) (cause : Fault) (last : Firmware.Status)
  /-- The task of a step failed. -/
  | stepFailed (step : Firmware.Step) (last : Firmware.Status)
  /-- The host could not be switched, or its controller reset, as a step asks for. -/
  | hostControl (step : Firmware.Step) (cause : CallError) (last : Firmware.Status)
  /-- The context ended the call in a step. -/
  | interrupted (step : Firmware.Step) (cause : Interruption) (last : Firmware.Status)
  deriving DecidableEq, Repr, Inhabited

namespace InstallError

/-- What the last task answered, in words. -/
def lastText (last : Firmware.Status) : String := s!"(last state {last.state.tag}: {last.text})"

def message : InstallError → String
  | steps driver component cause =>
    s!"driver {driver} could not list install steps for {component}: {cause.message}"
  | noSteps driver component => s!"driver {driver} declares no install steps for {component}"
  | missingCapability driver step feature =>
    s!"driver {driver} lacks {feature.tag} required by step {step.tag}"
  | provider step cause last => s!"step {step.tag} failed: {cause.message} {lastText last}"
  | stepFailed step last => s!"step {step.tag} ended in state {last.state.tag}: {last.text}"
  | hostControl step cause last =>
    s!"step {step.tag} could not control the host: {cause.message} {lastText last}"
  | interrupted step cause last =>
    s!"step {step.tag} interrupted: {cause.message} {lastText last}"

def chain (e : InstallError) : List String :=
  e.message ::
    match e with
    | steps _ _ cause | provider _ cause _ => [cause.message]
    | noSteps _ _ | missingCapability _ _ _ | stepFailed _ _ => []
    | hostControl _ cause _ => cause.chain
    | interrupted _ cause _ => [cause.message]

end InstallError

end OutOfBand.Client

namespace OutOfBand

open Client

/-- Why an order to a client came to nothing. -/
inductive ClientError where
  | call (e : CallError)
  | install (e : InstallError)
  deriving DecidableEq, Repr, Inhabited

namespace ClientError

def message : ClientError → String
  | call e => e.message
  | install e => e.message

def chain : ClientError → List String
  | call e => e.chain
  | install e => e.chain

end ClientError

end OutOfBand
