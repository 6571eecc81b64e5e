import OutOfBand.Proofs.Install.Outcomes
import OutOfBand.Proofs.Larger

/-!
# Installs in larger worlds

An install in a larger world comes to what the install in the part of it comes to, and leaves the
same part. For everything but waits this is read off the functions one after another; a wait does the
same rounds, so it comes to the same end or to none.
-/

namespace OutOfBand.Client

open Firmware

def Installer.larger (L : Larger σ τ) (i : Installer σ) : Installer τ where
  driver := L.driver i.driver
  host := i.host.larger L
  pacing := i.pacing
  job := i.job

section Install

variable {L : Larger σ τ} {i : Installer σ} {ctx : Context} {step : Step} {report : Report}
  {s : Scene τ}

theorem perform_larger {op' : Operation τ (Except Fault α)} {op : Operation σ (Except Fault α)}
    (h : op'.Extends L.part op) :
    (Installer.perform ctx step report op' s).map (Scene.inPart L.part) =
      Installer.perform ctx step report op (s.part L.part) := by
  unfold Installer.perform
  rw [← run_larger h, Option.map_map, Option.map_map]
  congr 1
  funext p
  obtain ⟨r, m⟩ := p
  rcases r with cause | ⟨f | a⟩ <;> rfl

theorem require_larger (c : Call) :
    ((i.larger L).require ctx step report c s).map (Scene.inPart L.part) =
      i.require ctx step report c (s.part L.part) := by
  unfold Installer.require
  simp only [Installer.larger, L.driver_backs, L.driver_name]
  cases i.driver.backs c.feature with
  | true => exact perform_larger (L.handle i.driver c)
  | false => rfl

theorem control_larger (c : Call) :
    Scene.inPart L.part ((i.larger L).control ctx step report c s) =
      i.control ctx step report c (s.part L.part) := by
  unfold Installer.control
  rw [← dispatch_larger L ctx i.host.registry i.host.config.perProvider c s]
  simp only [Installer.larger, Client.larger, Dispatched.part]
  cases (dispatch ctx (i.host.registry.map L.driver) i.host.config.perProvider c s).result <;> rfl

/-! ## Waits -/

theorem reopen_larger (expired : Fault) :
    ((i.larger L).reopen ctx step report expired s).map (Scene.inPart L.part) =
      i.reopen ctx step report expired (s.part L.part) := by
  unfold Installer.reopen
  have hconnection := L.connection i.driver
  simp only [Installer.larger]
  generalize (L.driver i.driver).capabilities.connection = k',
    i.driver.capabilities.connection = k at hconnection ⊢
  cases hconnection with
  | none => rfl
  | some h =>
      simp only
      rw [← run_larger h.login ctx s, Option.map_map, Option.map_map]
      congr 1
      funext p
      obtain ⟨r, m⟩ := p
      rcases r with cause | ⟨f | ⟨⟩⟩
      · rfl
      · cases hf : f.isTransient <;> simp [hf, Scene.inPart]
      · rfl

theorem obey_larger (status : Status) :
    Scene.inPart L.part ((i.larger L).obey ctx step report status s) =
      i.obey ctx step report status (s.part L.part) := by
  unfold Installer.obey
  cases status.state <;> simp only [← control_larger] <;> rfl

variable {op' : Operation τ (Except Fault Status)} {op : Operation σ (Except Fault Status)}

theorem poll_larger (h : op'.Extends L.part op) {reopened : Bool} :
    ((i.larger L).poll ctx step op' reopened report s).map (Scene.inPart L.part) =
      i.poll ctx step op reopened report (s.part L.part) := by
  unfold Installer.poll
  rw [← run_larger h]
  cases ctx.run op' s with
  | none => rfl
  | some p =>
      obtain ⟨r, m⟩ := p
      rcases r with cause | ⟨f | status⟩
      · rfl
      · simp only [Option.map_some, Scene.inPart]
        split
        · rfl
        · split
          · exact reopen_larger f
          · rfl
      · simp only [Option.map_some, Scene.inPart]
        rw [← obey_larger]
        rfl

/-- The part of a stage of a wait. -/
def Installer.Stage.part (part : τ → σ) (x : Installer.Stage τ) : Installer.Stage σ :=
  ⟨x.reopened, x.report, x.scene.part part⟩

theorem poll_part (h : op'.Extends L.part op) {x : Installer.Stage τ} {turn : Installer.Turn}
    {m : Scene τ}
    (hpoll : (i.larger L).poll ctx step op' x.reopened x.report x.scene = some (turn, m)) :
    i.poll ctx step op x.reopened x.report (x.scene.part L.part) =
      some (turn, m.part L.part) := by
  rw [← poll_larger h, hpoll]
  rfl

theorem sleep_part {time : Span} {r : Except Interruption Unit} {m m' : Scene τ}
    (h : ctx.sleep time m = some (r, m')) :
    ctx.sleep time (m.part L.part) = some (r, m'.part L.part) := by
  rw [← sleep_larger, h]
  rfl

theorem rounds_larger (h : op'.Extends L.part op) {n : Nat} {x y : Installer.Stage τ}
    (hrounds : (i.larger L).Rounds ctx step op' n x y) :
    i.Rounds ctx step op n (x.part L.part) (y.part L.part) := by
  induction hrounds with
  | refl x => exact .refl _
  | next hpoll hsleep _ ih => exact .next (poll_part h hpoll) (sleep_part hsleep) ih

theorem lastRound_larger (h : op'.Extends L.part op) {x : Installer.Stage τ}
    {result : Except InstallError Report} {s' : Scene τ}
    (hlast : (i.larger L).LastRound ctx step op' x result s') :
    i.LastRound ctx step op (x.part L.part) result (s'.part L.part) := by
  cases hlast with
  | decided hpoll => exact .decided (poll_part h hpoll)
  | interrupted hpoll hsleep => exact .interrupted (poll_part h hpoll) (sleep_part hsleep)

/-- **A wait in a larger world is the wait in the part**, also where it has no end. -/
theorem await_larger (h : op'.Extends L.part op) {reopened : Bool} :
    ((i.larger L).await ctx step op' reopened report s).map (Scene.inPart L.part) =
      i.await ctx step op reopened report (s.part L.part) := by
  let x : Installer.Stage τ := ⟨reopened, report, s⟩
  cases hend : (i.larger L).await ctx step op' reopened report s with
  | some p =>
      obtain ⟨n, y, hrounds, hlast⟩ := (Installer.await_eq_some_iff (x := x)).mp hend
      exact (Installer.await_eq_some_iff (x := x.part L.part)).mpr
        ⟨n, y.part L.part, rounds_larger h hrounds, lastRound_larger h hlast⟩ |>.symm
  | none =>
      -- A fixed point that gives nothing is not unfolded: its endless rounds are carried along.
      refine ((Installer.await_eq_none_iff (x := x.part L.part)).mpr ?_).symm
      rcases (Installer.await_eq_none_iff (x := x)).mp hend with
        hforever | ⟨n, y, hrounds, hpoll⟩
      · refine .inl fun n => ?_
        obtain ⟨y, hrounds⟩ := hforever n
        exact ⟨y.part L.part, rounds_larger h hrounds⟩
      · refine .inr ⟨n, y.part L.part, rounds_larger h hrounds, ?_⟩
        rw [Installer.Stage.part, ← poll_larger h, hpoll]
        rfl

/-! ## Steps -/

theorem awaitTask_larger (kind : TaskKind) (task : String) :
    ((i.larger L).awaitTask ctx step kind task report s).map (Scene.inPart L.part) =
      i.awaitTask ctx step kind task report (s.part L.part) := by
  unfold Installer.awaitTask
  cases h : i.driver.backs .firmwareTaskStatus with
  | true =>
      simp only [Installer.larger, L.driver_backs, Call.feature, h, if_true]
      exact await_larger
        (L.handle i.driver (.firmwareTaskStatus kind i.job.component task i.job.version))
  | false => simp [Installer.larger, L.driver_backs, L.driver_name, Call.feature, h, Scene.inPart]

theorem noting_larger (part : τ → σ) (note : String → Report) (p : Progress τ String) :
    (Installer.noting note p).map (Scene.inPart part) =
      Installer.noting note (p.map (Scene.inPart part)) := by
  unfold Installer.noting
  rw [Option.map_map, Option.map_map]
  rfl

/-- Every step in a larger world is the step in the part. -/
theorem step_larger : ((i.larger L).step ctx report s step).map (Scene.inPart L.part) =
    i.step ctx report (s.part L.part) step := by
  cases step with
  | upload =>
      rw [Installer.step, Installer.step, noting_larger]
      exact congrArg _ (require_larger (.firmwareUpload i.job.component i.job.image))
  | uploadAndInitiateInstall =>
      rw [Installer.step, Installer.step, noting_larger]
      exact congrArg _ (require_larger (.firmwareUploadAndInitiate i.job.component i.job.image))
  | install =>
      rw [Installer.step, Installer.step, noting_larger]
      exact congrArg _ (require_larger
        (.firmwareInstall i.job.component i.job.applyTime i.job.force i.job.image))
  | installFromUploaded =>
      rw [Installer.step, Installer.step, noting_larger]
      exact congrArg _ (require_larger
        (.firmwareInstallUploaded i.job.component report.awaitedUpload))
  | uploadStatus => exact awaitTask_larger .upload report.awaitedUpload
  | installStatus => exact awaitTask_larger .install report.awaitedInstall
  | powerOffHost =>
      simp only [Installer.step, ← control_larger]
      rfl
  | resetBmcPostInstall =>
      simp only [Installer.step, ← control_larger]
      rfl
  | resetBmcOnFailure => rfl

theorem runSteps_larger (steps : List Step) :
    ((i.larger L).runSteps ctx steps report s).map (Scene.inPart L.part) =
      i.runSteps ctx steps report (s.part L.part) := by
  induction steps generalizing report s with
  | nil => rfl
  | cons step steps ih =>
      rw [Installer.runSteps, Installer.runSteps, ← step_larger]
      cases (i.larger L).step ctx report s step with
      | none => rfl
      | some p =>
          obtain ⟨e | next, m⟩ := p
          · rfl
          · exact ih

theorem resetAfterFailure_larger :
    ((i.larger L).resetAfterFailure ctx s).part L.part =
      i.resetAfterFailure ctx (s.part L.part) := by
  unfold Installer.resetAfterFailure
  rw [← dispatch_larger L ctx i.host.registry i.host.config.perProvider (.bmcReset .warm) s]
  have hnow : (s.part L.part).now = s.now := rfl
  cases h : ctx.isDone s.now <;> simp only [hnow, h] <;> rfl

theorem runListed_larger (steps : List Step) :
    ((i.larger L).runListed ctx steps s).map (Scene.inPart L.part) =
      i.runListed ctx steps (s.part L.part) := by
  unfold Installer.runListed
  have hname : (i.larger L).driver.name = i.driver.name := L.driver_name i.driver
  rw [hname, ← runSteps_larger, Option.map_map, Option.map_map]
  congr 1
  funext p
  obtain ⟨r, m⟩ := p
  cases r with
  | ok report => rfl
  | error e =>
      cases steps.contains .resetBmcOnFailure with
      | true => simp [Scene.inPart, resetAfterFailure_larger]
      | false => simp [Scene.inPart]

theorem installer_larger :
    ((i.larger L).install ctx s).map (Scene.inPart L.part) = i.install ctx (s.part L.part) := by
  unfold Installer.install
  simp only
  have hname : (i.larger L).driver.name = i.driver.name := L.driver_name i.driver
  have hlisting : (ctx.run ((i.larger L).driver.capabilities.handle
      (.firmwareInstallSteps (i.larger L).job.component)) s).map (Scene.inPart L.part) =
      ctx.run (i.driver.capabilities.handle (.firmwareInstallSteps i.job.component))
        (s.part L.part) :=
    run_larger (L.handle i.driver (.firmwareInstallSteps i.job.component)) ctx s
  rw [← hlisting, hname]
  cases ctx.run ((i.larger L).driver.capabilities.handle
    (.firmwareInstallSteps (i.larger L).job.component)) s with
  | none => rfl
  | some p =>
      obtain ⟨r, m⟩ := p
      rcases r with cause | ⟨f | declared⟩
      · rfl
      · rfl
      cases declared with
      | nil => rfl
      | cons step steps =>
          simp only [Option.map_some, Scene.inPart]
          rw [← runListed_larger, Option.map_map, Option.map_map]
          rfl

end Install

/-! ## The driver that installs -/

/-- The install by one of the drivers of a client. -/
def installer (client : Client σ) (job : Job) (d : Driver σ) : Installer σ where
  driver := d
  host := client.view (.preferDriver d.name)
  pacing := client.config.firmware
  job := job

/-- The first driver that declares steps. -/
def installing? (client : Client σ) : Option (Driver σ) :=
  client.registry.find? fun d => d.backs .firmwareInstallSteps

section Install

variable {client : Client σ} {ctx : Context} {job : Job} {run : Run σ}

theorem install_done {cause : Interruption} (h : ctx.error? run.now = some cause) :
    install client ctx job run =
      some (.error (.call (.context cause [])), { run with record := {} }) := by
  rw [install, h]

theorem install_nobody (alive : ctx.error? run.now = none) (h : installing? client = none) :
    install client ctx job run =
      some (.error (.call (.notImplemented .firmwareInstallSteps)), { run with record := {} }) := by
  rw [installing?] at h
  rw [install, alive]
  simp only [h]

/-- An install by the first driver that declares steps names that driver and nobody else. -/
theorem install_by {d : Driver σ} (alive : ctx.error? run.now = none)
    (h : installing? client = some d) :
    install client ctx job run =
      ((installer client job d).install ctx run.toScene).map fun (result, s) =>
        match result with
        | .ok report => (.ok report, ⟨s, (({} : Metadata).attempt d.name).success d.name⟩)
        | .error e => (.error e, ⟨s, (({} : Metadata).attempt d.name).failure d.name e.message⟩) := by
  rw [installing?] at h
  rw [install, alive]
  simp only [h]
  rfl

end Install

theorem installer_client_larger (L : Larger σ τ) (client : Client σ) (job : Job) (d : Driver σ) :
    installer (client.larger L) job (L.driver d) = (installer client job d).larger L := by
  simp only [installer, Installer.larger]
  rw [L.driver_name, view_larger]
  rfl

theorem installing?_larger (L : Larger σ τ) (client : Client σ) :
    installing? (client.larger L) = (installing? client).map L.driver := by
  rw [installing?, Client.larger, List.find?_map]
  simp only [Function.comp_def, L.driver_backs]
  rfl

section Install

variable {L : Larger σ τ} {client : Client σ} {ctx : Context} {job : Job} {run : Run τ}

theorem install_larger_nobody (alive : ctx.error? run.now = none) (h : installing? client = none) :
    install (client.larger L) ctx job run =
      some (.error (.call (.notImplemented .firmwareInstallSteps)), { run with record := {} }) := by
  have hfind := installing?_larger L client
  rw [h, Option.map_none] at hfind
  exact install_nobody alive hfind

/-- The first driver that declares steps installs in a larger world, too. -/
theorem install_larger_by {d : Driver σ} (alive : ctx.error? run.now = none)
    (h : installing? client = some d) :
    install (client.larger L) ctx job run =
      (((installer client job d).larger L).install ctx run.toScene).map fun (result, s) =>
        match result with
        | .ok report => (.ok report, ⟨s, (({} : Metadata).attempt d.name).success d.name⟩)
        | .error e => (.error e, ⟨s, (({} : Metadata).attempt d.name).failure d.name e.message⟩) := by
  have hfind := installing?_larger L client
  rw [h, Option.map_some] at hfind
  rw [install_by alive hfind, installer_client_larger, L.driver_name]

end Install

/-- **What is kept beside the part makes no difference to an install.** -/
theorem install_larger (L : Larger σ τ) (client : Client σ) (ctx : Context) (job : Job)
    (run : Run τ) :
    (install (client.larger L) ctx job run).map (fun (result, run) => (result, run.part L.part)) =
      install client ctx job (run.part L.part) := by
  cases hs : ctx.error? run.now with
  | some cause =>
      have hdone : ctx.error? (run.part L.part).now = some cause := hs
      rw [install_done hs, install_done hdone]
      rfl
  | none =>
      have alive : ctx.error? (run.part L.part).now = none := hs
      cases hd : installing? client with
      | none =>
          rw [install_larger_nobody hs hd, install_nobody alive hd]
          rfl
      | some d =>
          have hpart : ((installer client job d).larger L |>.install ctx run.toScene).map
              (Scene.inPart L.part) = (installer client job d).install ctx (run.part L.part).toScene :=
            installer_larger
          rw [install_larger_by hs hd, install_by alive hd, ← hpart, Option.map_map, Option.map_map]
          congr 1
          funext p
          obtain ⟨result, s⟩ := p
          cases result <;> rfl

end OutOfBand.Client
