import OutOfBand.Client

/-!
# Firmware installs

An install follows the steps that a driver lists for a component. Steps that wait for a task ask for
its state again and again, at the pace of the configuration, and live through the restart of the
controller and the end of the session. What the task asks for at the end, such as a power cycle of
the host, goes to the same driver first and then to the others. If a step fails and the steps say
so, the controller is reset.

Work done directly under the context of the call has no end if neither the driver answers nor the
context ends; then the install has no end either, and its outcome is absent.
-/

namespace OutOfBand.Client

open Firmware

/-- What is to be installed. -/
structure Job where
  component : String
  image : Image
  /-- The version that the component is to have; empty if it does not matter. -/
  version : String := ""
  applyTime : ApplyTime := .immediate
  /-- Install also what the controller would decline. -/
  force : Bool := false
  deriving Repr, Inhabited

/-- How far an install has come. -/
structure Report where
  /-- The driver that installs. -/
  driver : String
  /-- The steps that are done, in order. -/
  steps : List Step := []
  /-- The task of the latest upload. -/
  uploadTask : Option String := none
  /-- The task of the latest install. -/
  installTask : Option String := none
  /-- What a task answered last. -/
  last : Option Status := none
  /-- How often tasks were asked for their state. -/
  polls : Nat := 0
  deriving DecidableEq, Repr, Inhabited

namespace Report

/-- What a task answered last; an unknown state if none has answered. -/
def lastStatus (r : Report) : Status := r.last.getD ⟨.unknown, ""⟩

/-- The task that a wait for an upload asks for. -/
def awaitedUpload (r : Report) : String := r.uploadTask.getD TaskId.none

/-- The task that a wait for an install asks for. -/
def awaitedInstall (r : Report) : String := (r.installTask.or r.uploadTask).getD TaskId.none

open Json in
instance : ToJson Report where
  json r := .obj [("provider", json r.driver), ("steps_executed", json r.steps),
    ("upload_task_id", json r.uploadTask), ("install_task_id", json r.installTask),
    ("final_state", json (r.last.map Status.state)),
    ("final_status", .str ((r.last.map Status.text).getD "")),
    ("polls", Json.int r.polls)]

end Report

/-- What an install works with. -/
structure Installer (σ : Type) where
  /-- The driver that installs. -/
  driver : Driver σ
  /-- The drivers for the host, the installing one first. -/
  host : Client σ
  pacing : PollPacing
  job : Job

/-- What comes of a part of an install; absent if it has no end. -/
abbrev Progress (σ α : Type) := Option (Except InstallError α × Scene σ)

namespace Installer

variable {σ : Type}

/-- Does work of the driver as a part of a step. -/
def perform (ctx : Context) (step : Step) (report : Report) (op : Operation σ (Except Fault α))
    (s : Scene σ) : Progress σ α :=
  (ctx.run op s).map fun
    | (.ok (.ok a), s) => (.ok a, s)
    | (.ok (.error f), s) => (.error (.provider step f report.lastStatus), s)
    | (.error cause, s) => (.error (.interrupted step cause report.lastStatus), s)

/-- Makes a call of the driver as a part of a step, if the driver backs it. -/
def require (i : Installer σ) (ctx : Context) (step : Step) (report : Report) (c : Call)
    (s : Scene σ) : Progress σ c.Answer :=
  if i.driver.backs c.feature then perform ctx step report (i.driver.capabilities.handle c) s
  else some (.error (.missingCapability i.driver.name step c.feature), s)

/-- Takes down the identifier of a task that a step has started. -/
def noting (note : String → Report) (p : Progress σ String) : Progress σ Report :=
  p.map fun (result, s) => (result.map fun id => note (TaskId.normalize id), s)

/-- Switches the host, or resets the controller, as a part of a step. -/
def control (i : Installer σ) (ctx : Context) (step : Step) (report : Report) (c : Call)
    (s : Scene σ) : Except InstallError Unit × Scene σ :=
  let d := dispatch ctx i.host.registry i.host.config.perProvider c s
  match d.result with
  | .ok _ => (.ok (), d.scene)
  | .error e => (.error (.hostControl step e report.lastStatus), d.scene)

/-! ## Waiting for tasks -/

/-- What a wait does after an answer. -/
inductive Turn where
  /-- The wait is over. -/
  | finish (result : Except InstallError Report)
  /-- The wait goes on after so much time; `reopened` tells whether the session was just opened. -/
  | again (report : Report) (after : Span) (reopened : Bool)

/-- Opens the session again after it has expired. -/
def reopen (i : Installer σ) (ctx : Context) (step : Step) (report : Report) (expired : Fault)
    (s : Scene σ) : Option (Turn × Scene σ) :=
  match i.driver.capabilities.connection with
  | none => some (.finish (.error (.provider step expired report.lastStatus)), s)
  | some connection =>
    (ctx.run connection.login s).map fun
      | (.ok (.ok ()), s) => (.again report i.pacing.interval true, s)
      | (.ok (.error f), s) =>
        if f.isTransient then (.again report i.pacing.backoff false, s)
        else (.finish (.error (.provider step f report.lastStatus)), s)
      | (.error cause, s) => (.finish (.error (.interrupted step cause report.lastStatus)), s)

/-- Does what the state of a task asks for. -/
def obey (i : Installer σ) (ctx : Context) (step : Step) (report : Report) (status : Status)
    (s : Scene σ) : Turn × Scene σ :=
  let report := { report with last := some status }
  let after (c : Call) : Turn × Scene σ :=
    let (result, s) := i.control ctx step report c s
    (.finish (result.map fun () => report), s)
  match status.state with
  | .complete => (.finish (.ok report), s)
  | .failed => (.finish (.error (.stepFailed step status)), s)
  | .powerCycleHost => after (.powerSet .cycle)
  | .powerCycleBmc => after (.bmcReset .warm)
  | .initializing | .queued | .running | .unknown => (.again report i.pacing.interval false, s)

/-- Asks a task for its state and decides how to go on; `reopened` tells whether the session was
just opened since it had expired. -/
def poll (i : Installer σ) (ctx : Context) (step : Step)
    (question : Operation σ (Except Fault Status))
    (reopened : Bool) (report : Report) (s : Scene σ) : Option (Turn × Scene σ) :=
  let report := { report with polls := report.polls + 1 }
  match ctx.run question s with
  | none => none
  | some (.error cause, s) =>
    some (.finish (.error (.interrupted step cause report.lastStatus)), s)
  | some (.ok (.ok status), s) => some (i.obey ctx step report status s)
  | some (.ok (.error f), s) =>
    if f.isTransient then some (.again report i.pacing.backoff false, s)
    else if f.isSessionExpired && !reopened then i.reopen ctx step report f s
    else some (.finish (.error (.provider step f report.lastStatus)), s)

/-- Waits for a task: asks and pauses by turns until the wait is over. -/
def await (i : Installer σ) (ctx : Context) (step : Step)
    (question : Operation σ (Except Fault Status)) (reopened : Bool) (report : Report)
    (s : Scene σ) : Progress σ Report :=
  match i.poll ctx step question reopened report s with
  | none => none
  | some (.finish result, s) => some (result, s)
  | some (.again report after reopened, s) =>
    match ctx.sleep after s with
    | none => none
    | some (.error cause, s) => some (.error (.interrupted step cause report.lastStatus), s)
    | some (.ok (), s) => i |>.await ctx step question reopened report s
partial_fixpoint

/-- Waits for a task of the given kind. -/
def awaitTask (i : Installer σ) (ctx : Context) (step : Step) (kind : TaskKind) (task : String)
    (report : Report) (s : Scene σ) : Progress σ Report :=
  let question := Call.firmwareTaskStatus kind i.job.component task i.job.version
  if i.driver.backs question.feature then
    i.await ctx step (i.driver.capabilities.handle question) false report s
  else some (.error (.missingCapability i.driver.name step question.feature), s)

/-! ## Steps -/

def step (i : Installer σ) (ctx : Context) (report : Report) (s : Scene σ) :
    Step → Progress σ Report
  | .upload =>
    noting (fun id => { report with uploadTask := some id })
      (i.require ctx .upload report (.firmwareUpload i.job.component i.job.image) s)
  | .uploadAndInitiateInstall =>
    noting (fun id => { report with installTask := some id })
      (i.require ctx .uploadAndInitiateInstall report
        (.firmwareUploadAndInitiate i.job.component i.job.image) s)
  | .install =>
    noting (fun id => { report with installTask := some id })
      (i.require ctx .install report
        (.firmwareInstall i.job.component i.job.applyTime i.job.force i.job.image) s)
  | .installFromUploaded =>
    noting (fun id => { report with installTask := some id })
      (i.require ctx .installFromUploaded report
        (.firmwareInstallUploaded i.job.component report.awaitedUpload) s)
  | .uploadStatus => i.awaitTask ctx .uploadStatus .upload report.awaitedUpload report s
  | .installStatus => i.awaitTask ctx .installStatus .install report.awaitedInstall report s
  | .powerOffHost =>
    let (result, s) := i.control ctx .powerOffHost report (.powerSet .off) s
    some (result.map fun () => report, s)
  | .resetBmcPostInstall =>
    let (result, s) := i.control ctx .resetBmcPostInstall report (.bmcReset .warm) s
    some (result.map fun () => report, s)
  | .resetBmcOnFailure => some (.ok report, s)

/-- Does the steps in order, up to the first that fails. -/
def runSteps (i : Installer σ) (ctx : Context) :
    List Step → Report → Scene σ → Progress σ Report
  | [], report, s => some (.ok report, s)
  | step :: steps, report, s =>
    match i.step ctx report s step with
    | none => none
    | some (.error e, s) => some (.error e, s)
    | some (.ok report, s) =>
      i.runSteps ctx steps { report with steps := report.steps ++ [step] } s

/-- Resets the controller after a failure, unless the call has ended. -/
def resetAfterFailure (i : Installer σ) (ctx : Context) (s : Scene σ) : Scene σ :=
  if ctx.isDone s.now then s
  else (dispatch ctx i.host.registry i.host.config.perProvider (.bmcReset .warm) s).scene

/-- Does the steps that the driver lists. -/
def runListed (i : Installer σ) (ctx : Context) (steps : List Step) (s : Scene σ) :
    Progress σ Report :=
  (i.runSteps ctx (steps.filter (· != .resetBmcOnFailure)) { driver := i.driver.name } s).map fun
    | (.ok report, s) => (.ok report, s)
    | (.error e, s) =>
      (.error e, if steps.contains .resetBmcOnFailure then i.resetAfterFailure ctx s else s)

/-- Asks the driver for the steps and does them. -/
def install (i : Installer σ) (ctx : Context) (s : Scene σ) :
    Option (Except ClientError Report × Scene σ) :=
  let c := Call.firmwareInstallSteps i.job.component
  match ctx.run (i.driver.capabilities.handle c) s with
  | none => none
  | some (.error cause, s) => some (.error (.call (.context cause [])), s)
  | some (.ok (.error f), s) =>
    some (.error (.install (.steps i.driver.name i.job.component f)), s)
  | some (.ok (.ok []), s) =>
    some (.error (.install (.noSteps i.driver.name i.job.component)), s)
  | some (.ok (.ok steps), s) =>
    (i.runListed ctx steps s).map fun (result, s) => (result.mapError .install, s)

end Installer

/-- Installs firmware through the first driver that lists steps. Absent if it has no end. -/
def install (client : Client σ) (ctx : Context) (job : Job) (run : Run σ) :
    Option (Except ClientError Report × Run σ) :=
  match ctx.error? run.now with
  | some cause => some (.error (.call (.context cause [])), { run with record := {} })
  | none =>
    match client.registry.find? fun d => d.backs .firmwareInstallSteps with
    | none =>
      some (.error (.call (.notImplemented .firmwareInstallSteps)), { run with record := {} })
    | some driver =>
      let installer : Installer σ :=
        { driver
          host := client.view (.preferDriver driver.name)
          pacing := client.config.firmware
          job }
      (installer.install ctx run.toScene).map fun (result, s) =>
        let record : Metadata := ({} : Metadata).attempt driver.name
        match result with
        | .ok report => (.ok report, ⟨s, record.success driver.name⟩)
        | .error e => (.error e, ⟨s, record.failure driver.name e.message⟩)

end OutOfBand.Client
