import OutOfBand.Proofs.Install.Step

/-!
# What an install accounts for

An install does the steps that the first driver with steps declares, in order, up to the first that
fails (`Done`, `Failed`). Its log has the call for the steps, then one part for each step, and at
the end, if a step failed and the steps say so, a reset of the controller (`InstallAccount`). What
it returns is told by the same steps: a report lists them, and an error names the one that failed.
-/

namespace OutOfBand.Client

open Firmware

/-- The declared steps that are done. The other one only says what to do if one of them fails. -/
def kept (declared : List Step) : List Step := declared.filter (· != .resetBmcOnFailure)

theorem ne_of_mem_kept {declared : List Step} {step : Step} (h : step ∈ kept declared) :
    step ≠ .resetBmcOnFailure := by
  have hkept := (List.mem_filter.mp h).2
  simpa using hkept

/-- Steps that were done one after another, from a report and a scene to a report and a scene, with
the log of each. -/
inductive Done (i : Installer σ) (ctx : Context) :
    List Step → Report → Scene (Watched σ) → List (List (Event σ)) → Report →
      Scene (Watched σ) → Prop
  | nil (report : Report) (s : Scene (Watched σ)) : Done i ctx [] report s [] report s
  | cons {step steps report s next m log logs report' s'} :
      i.watched.step ctx report s step = some (.ok next, m) →
      StepSettled i step report s m (.ok next) log →
      Done i ctx steps { next with steps := next.steps ++ [step] } m logs report' s' →
      Done i ctx (step :: steps) report s (log :: logs) report' s'

/-- What a row of steps comes to. -/
inductive Went (i : Installer σ) (ctx : Context) (steps : List Step) (report : Report)
    (s : Scene (Watched σ)) : Progress (Watched σ) Report → Prop
  | done {logs report' s'} : Done i ctx steps report s logs report' s' →
      Went i ctx steps report s (some (.ok report', s'))
  | failed {done step rest logs mid m e s' log} : steps = done ++ step :: rest →
      Done i ctx done report s logs mid m →
      i.watched.step ctx mid m step = some (.error e, s') →
      StepSettled i step mid m s' (.error e) log →
      Went i ctx steps report s (some (.error e, s'))
  | endless {done step rest logs mid m} : steps = done ++ step :: rest →
      Done i ctx done report s logs mid m → i.watched.step ctx mid m step = none →
      Went i ctx steps report s none

section Row

variable {i : Installer σ} {ctx : Context} {steps : List Step} {report report' : Report}
  {s s' : Scene (Watched σ)} {logs : List (List (Event σ))}

theorem Done.account (h : Done i ctx steps report s logs report' s') :
    Adds s s' logs.flatten ∧ Orderly i.driver logs.flatten ∧ report'.steps = report.steps ++ steps ∧
      report'.polls = report.polls + Event.polls logs.flatten := by
  induction h with
  | nil report s => exact ⟨.refl s, .nil, (List.append_nil _).symm, rfl⟩
  | @cons step steps report s next m log logs report' s' _ hsettled _ ih =>
      obtain ⟨hadds, hlog, hpolled⟩ := hsettled
      obtain ⟨hadds', horderly, hsteps, hpolls⟩ := ih
      rw [List.flatten_cons]
      refine ⟨hadds.trans hadds', hlog.orderly.append horderly, ?_, ?_⟩
      · rw [hsteps, hpolled.steps, List.append_assoc]
        rfl
      · rw [hpolls, hpolled.polls, Event.polls_append, Nat.add_assoc]

theorem Went.cons {step : Step} {next : Report} {m : Scene (Watched σ)} {log : List (Event σ)}
    {p : Progress (Watched σ) Report} (hstep : i.watched.step ctx report s step = some (.ok next, m))
    (hsettled : StepSettled i step report s m (.ok next) log)
    (h : Went i ctx steps { next with steps := next.steps ++ [step] } m p) :
    Went i ctx (step :: steps) report s p := by
  cases h with
  | done hdone => exact .done (.cons hstep hsettled hdone)
  | failed hsteps hdone hfailed hlog =>
      exact .failed (by rw [hsteps]; rfl) (.cons hstep hsettled hdone) hfailed hlog
  | endless hsteps hdone hnone => exact .endless (by rw [hsteps]; rfl) (.cons hstep hsettled hdone) hnone

/-- **Steps are done in order, up to the first that fails.** -/
theorem runSteps_went (hsteps : ∀ step ∈ steps, step ≠ .resetBmcOnFailure) :
    Went i ctx steps report s (i.watched.runSteps ctx steps report s) := by
  -- The steps that are done so far are in the report and the scene with which the loop goes on.
  induction steps generalizing report s with
  | nil => exact .done (.nil report s)
  | cons step steps ih =>
      rw [Installer.runSteps]
      have hkept := hsteps step List.mem_cons_self
      cases hstep : i.watched.step ctx report s step with
      | none => exact .endless rfl (.nil report s) hstep
      | some p =>
          obtain ⟨e | next, m⟩ := p
          · obtain ⟨log, hsettled⟩ := step_settled hkept hstep
            exact .failed rfl (.nil report s) hstep hsettled
          · obtain ⟨log, hsettled⟩ := step_settled hkept hstep
            exact (ih fun step hmem => hsteps step (List.mem_cons_of_mem _ hmem)).cons hstep hsettled

end Row

/-! ## Whole installs -/

/-- The driver `i.driver`, asked for the steps, declared these. -/
structure Declared (i : Installer σ) (ctx : Context) (s : Scene (Watched σ)) (declared : List Step)
    (m : Scene (Watched σ)) (log : List (Event σ)) : Prop where
  run : ctx.run (i.watched.driver.capabilities.handle (.firmwareInstallSteps i.job.component)) s =
    some (.ok (.ok declared), m)
  adds : Adds s m log
  asked : Asked i.driver (.call (.firmwareInstallSteps i.job.component)) true log

/-- What follows after a step has failed in the scene `s`: a reset of the controller, if the steps
say so and the context is not done. -/
def ResetAfter (i : Installer σ) (ctx : Context) (declared : List Step) (s s' : Scene (Watched σ))
    (log : List (Event σ)) : Prop :=
  if declared.contains .resetBmcOnFailure = true ∧ ctx.isDone s.now = false then
    Adds s s' log ∧ ∃ ok, Tried i.host.registry (.bmcReset .warm) ok log
  else s' = s ∧ log = []

/-- The same, with what the reset leaves: the scene `s'` comes of one dispatch that begins in the
scene `s`, or is `s` itself. -/
def ResetOnce (i : Installer σ) (ctx : Context) (declared : List Step) (s s' : Scene (Watched σ))
    (log : List (Event σ)) : Prop :=
  if declared.contains .resetBmcOnFailure = true ∧ ctx.isDone s.now = false then
    s' = (dispatch ctx (i.host.registry.map Driver.watched) i.host.config.perProvider
      (.bmcReset .warm) s).scene ∧
    Adds s s' log ∧ ∃ ok, Tried i.host.registry (.bmcReset .warm) ok log
  else s' = s ∧ log = []

/-- An install that began its steps in the scene `s` failed in one of them. -/
inductive Failed (i : Installer σ) (ctx : Context) (declared : List Step) (s : Scene (Watched σ))
    (e : InstallError) (s' : Scene (Watched σ)) : List (Event σ) → Prop
  | intro {done step rest logs mid before after log reset} : kept declared = done ++ step :: rest →
      Done i ctx done { driver := i.driver.name } s logs mid before →
      i.watched.step ctx mid before step = some (.error e, after) →
      StepLog i mid step false log → e.step? = some step → Adds before after log →
      ResetAfter i ctx declared after s' reset →
      Failed i ctx declared s e s' (logs.flatten ++ log ++ reset)

/-- Asks a task for its state. -/
def Installer.question (i : Installer σ) (kind : TaskKind) (task : String) :
    Operation σ (Except Fault Status) :=
  i.driver.capabilities.handle (.firmwareTaskStatus kind i.job.component task i.job.version)

/-- A step that has no end, in the scene `s`: the driver does not answer, or a wait goes on in rounds
for ever or hangs in a poll after some. -/
inductive Endless (i : Installer σ) (ctx : Context) (step : Step) (report : Report)
    (s : Scene (Watched σ)) : Prop
  | asked {c} : i.call? report step = some c → (Deed.call c).isPoll = false →
      ctx.run (i.watched.driver.capabilities.handle c) s = none → Endless i ctx step report s
  | waited {kind task} : i.call? report step =
      some (.firmwareTaskStatus kind i.job.component task i.job.version) →
      (∀ n y, i.watched.Rounds ctx step (i.watched.question kind task) n ⟨false, report, s⟩ y →
        ∃ logs : List (List (Event σ)), logs.length = n ∧ Adds s y.scene logs.flatten ∧
          ∀ log ∈ logs,
            RoundLog i.driver (.firmwareTaskStatus kind i.job.component task i.job.version) log) →
      ((∀ n, ∃ y,
        i.watched.Rounds ctx step (i.watched.question kind task) n ⟨false, report, s⟩ y) ∨
        ∃ n y, i.watched.Rounds ctx step (i.watched.question kind task) n ⟨false, report, s⟩ y ∧
          i.watched.poll ctx step (i.watched.question kind task) y.reopened y.report y.scene =
            none) →
      Endless i ctx step report s

section Endless

variable {i : Installer σ} {ctx : Context} {step : Step} {report : Report} {s : Scene (Watched σ)}

theorem Endless.of_order {c : Call} {note : c.Answer → Report} (hcall : i.call? report step = some c)
    (hpoll : (Deed.call c).isPoll = false)
    (h : (i.watched.require ctx step report c s).map (fun (r, s) => (r.map note, s)) = none) :
    Endless i ctx step report s := by
  have hrequire := Option.map_eq_none_iff.mp h
  unfold Installer.require at hrequire
  split at hrequire
  · exact .asked hcall hpoll (Option.map_eq_none_iff.mp hrequire)
  · cases hrequire

theorem Endless.of_wait {kind : TaskKind} {task : String}
    (hcall : i.call? report step =
      some (.firmwareTaskStatus kind i.job.component task i.job.version))
    (h : i.watched.awaitTask ctx step kind task report s = none) : Endless i ctx step report s := by
  unfold Installer.awaitTask at h
  simp only at h
  split at h
  · refine .waited hcall (fun n y hrounds => ?_)
      ((Installer.await_eq_none_iff (x := ⟨false, report, s⟩)).mp h)
    obtain ⟨logs, hlength, hadds, hlogs, -⟩ := rounds_log hrounds
    exact ⟨logs, hlength, hadds, hlogs⟩
  · cases h

/-- **A step that has no end** hangs in the work of its driver. -/
theorem step_endless (h : i.watched.step ctx report s step = none) :
    Endless i ctx step report s := by
  cases step with
  | upload => exact .of_order rfl rfl h
  | uploadAndInitiateInstall => exact .of_order rfl rfl h
  | install => exact .of_order rfl rfl h
  | installFromUploaded => exact .of_order rfl rfl h
  | uploadStatus => exact .of_wait rfl h
  | installStatus => exact .of_wait rfl h
  | powerOffHost => cases h
  | resetBmcPostInstall => cases h
  | resetBmcOnFailure => cases h

end Endless

/-- What an install by the driver `i.driver` that began in the scene `s` came to, and its log. -/
inductive InstallLog (i : Installer σ) (ctx : Context) (s : Scene (Watched σ)) :
    Except ClientError Report → Scene (Watched σ) → List (Event σ) → Prop
  /-- The context ended the call for the steps. -/
  | interrupted {cause s' log} : Adds s s' log →
      Asked i.driver (.call (.firmwareInstallSteps i.job.component)) false log →
      InstallLog i ctx s (.error (.call (.context cause []))) s' log
  /-- The driver did not say what the steps are. -/
  | unlisted {f s' log} : Adds s s' log →
      Asked i.driver (.call (.firmwareInstallSteps i.job.component)) true log →
      InstallLog i ctx s (.error (.install (.steps i.driver.name i.job.component f))) s' log
  | noSteps {s' log} : Declared i ctx s [] s' log →
      InstallLog i ctx s (.error (.install (.noSteps i.driver.name i.job.component))) s' log
  | done {declared m listing logs report s'} : Declared i ctx s declared m listing →
      declared ≠ [] →
      Done i ctx (kept declared) { driver := i.driver.name } m logs report s' →
      InstallLog i ctx s (.ok report) s' (listing ++ logs.flatten)
  | failed {declared m listing e s' log} : Declared i ctx s declared m listing → declared ≠ [] →
      Failed i ctx declared m e s' log →
      InstallLog i ctx s (.error (.install e)) s' (listing ++ log)

/-- An install by the driver `i.driver` that began in the scene `s` and has no end. -/
inductive InstallEndless (i : Installer σ) (ctx : Context) (s : Scene (Watched σ)) : Prop
  /-- The driver does not say what the steps are. -/
  | unlisted : ctx.run (i.watched.driver.capabilities.handle
      (.firmwareInstallSteps i.job.component)) s = none → InstallEndless i ctx s
  | endless {declared m listing done step rest logs mid before} :
      Declared i ctx s declared m listing → kept declared = done ++ step :: rest →
      Done i ctx done { driver := i.driver.name } m logs mid before →
      Endless i ctx step mid before → InstallEndless i ctx s

/-- What an install by the driver `i.driver` that began in the scene `s` and ended in the scene `s'`
has to do with its log. -/
structure InstallAccount (i : Installer σ) (ctx : Context) (s : Scene (Watched σ))
    (result : Except ClientError Report) (s' : Scene (Watched σ)) (log : List (Event σ)) : Prop where
  course : InstallLog i ctx s result s' log
  adds : Adds s s' log
  /-- Nothing but host control was asked of other drivers, and no two pieces of work overlapped. -/
  orderly : Orderly i.driver log
  /-- A report names the steps and the number of polls. -/
  report : ∀ report, result = .ok report → ∃ declared m listing,
    Declared i ctx s declared m listing ∧ report.steps = kept declared ∧
      report.polls = Event.polls log

section Install

variable {i : Installer σ} {ctx : Context} {declared : List Step} {s m s' : Scene (Watched σ)}
  {log : List (Event σ)}

theorem resetOnce_reset (i : Installer σ) (ctx : Context) (declared : List Step)
    (s : Scene (Watched σ)) : ∃ log, ResetOnce i ctx declared s
      (if declared.contains .resetBmcOnFailure then i.watched.resetAfterFailure ctx s else s) log := by
  unfold ResetOnce Installer.resetAfterFailure
  cases hdeclared : declared.contains .resetBmcOnFailure with
  | false => exact ⟨[], by simp⟩
  | true =>
      cases hdone : ctx.isDone s.now with
      | true => exact ⟨[], by simp⟩
      | false =>
          obtain ⟨log, hadds, htried⟩ :=
            dispatch_tried ctx i.host.registry i.host.config.perProvider (.bmcReset .warm) s
          refine ⟨log, ?_⟩
          simp only [and_self, if_true]
          exact ⟨rfl, hadds, _, htried⟩

theorem ResetOnce.resetAfter (h : ResetOnce i ctx declared s s' log) :
    ResetAfter i ctx declared s s' log := by
  unfold ResetOnce at h
  unfold ResetAfter
  by_cases hreset : declared.contains .resetBmcOnFailure = true ∧ ctx.isDone s.now = false
  · rw [if_pos hreset] at h ⊢
    exact h.2
  · rw [if_neg hreset] at h ⊢
    exact h

theorem ResetAfter.account (h : ResetAfter i ctx declared s s' log) :
    Adds s s' log ∧ Orderly i.driver log := by
  unfold ResetAfter at h
  split at h
  · obtain ⟨hadds, ok, htried⟩ := h
    exact ⟨hadds, htried.orderly rfl i.driver⟩
  · obtain ⟨rfl, rfl⟩ := h
    exact ⟨.refl _, .nil⟩

theorem Failed.account {e : InstallError} (h : Failed i ctx declared s e s' log) :
    Adds s s' log ∧ Orderly i.driver log := by
  cases h with
  | intro _ hdone _ hlog _ hadds hreset =>
      obtain ⟨hbefore, horderly, -⟩ := hdone.account
      obtain ⟨hafter, horderly'⟩ := hreset.account
      exact ⟨(hbefore.trans hadds).trans hafter,
        (horderly.append hlog.orderly).append horderly'⟩

theorem InstallLog.account {result : Except ClientError Report}
    (h : InstallLog i ctx s result s' log) : InstallAccount i ctx s result s' log := by
  cases h with
  | interrupted hadds hasked => exact ⟨.interrupted hadds hasked, hadds, hasked.orderly, by rintro _ ⟨⟩⟩
  | unlisted hadds hasked => exact ⟨.unlisted hadds hasked, hadds, hasked.orderly, by rintro _ ⟨⟩⟩
  | noSteps hdeclared =>
      exact ⟨.noSteps hdeclared, hdeclared.adds, hdeclared.asked.orderly, by rintro _ ⟨⟩⟩
  | done hdeclared hne hdone =>
      obtain ⟨hadds, horderly, hsteps, hpolls⟩ := hdone.account
      refine ⟨.done hdeclared hne hdone, hdeclared.adds.trans hadds,
        hdeclared.asked.orderly.append horderly, ?_⟩
      rintro report ⟨⟩
      refine ⟨_, _, _, hdeclared, hsteps, ?_⟩
      -- The call for the steps is no poll.
      rw [Event.polls_append, hdeclared.asked.polls_eq_zero rfl]
      exact hpolls
  | failed hdeclared hne hfailed =>
      obtain ⟨hadds, horderly⟩ := hfailed.account
      exact ⟨.failed hdeclared hne hfailed, hdeclared.adds.trans hadds,
        hdeclared.asked.orderly.append horderly, by rintro _ ⟨⟩⟩

theorem runKept_went {p : Progress (Watched σ) Report}
    (h : i.watched.runSteps ctx (kept declared) { driver := i.driver.name } m = p) :
    Went i ctx (kept declared) { driver := i.driver.name } m p := by
  rw [← h]
  exact runSteps_went fun _ => ne_of_mem_kept

theorem runListed_failed {e : InstallError}
    (h : i.watched.runListed ctx declared m = some (.error e, s')) :
    ∃ log, Failed i ctx declared m e s' log := by
  obtain ⟨⟨r, after⟩, hrun, hpair⟩ := Option.map_eq_some_iff.mp h
  cases runKept_went hrun with
  | done => cases hpair
  | failed hsteps hdone hstep hsettled =>
      obtain ⟨hadds, hlog, herror⟩ := hsettled
      obtain ⟨reset, hreset⟩ := resetOnce_reset i ctx declared after
      cases hpair
      exact ⟨_, .intro hsteps hdone hstep hlog herror hadds hreset.resetAfter⟩

theorem runListed_done {report : Report}
    (h : i.watched.runListed ctx declared m = some (.ok report, s')) :
    ∃ logs, Done i ctx (kept declared) { driver := i.driver.name } m logs report s' := by
  obtain ⟨⟨r, after⟩, hrun, hpair⟩ := Option.map_eq_some_iff.mp h
  cases runKept_went hrun with
  | done hdone =>
      cases hpair
      exact ⟨_, hdone⟩
  | failed => cases hpair

/-- **An install by a driver** that has an end. -/
theorem installer_log {result : Except ClientError Report}
    (h : i.watched.install ctx s = some (result, s')) :
    ∃ log, InstallLog i ctx s result s' log := by
  cases Installer.install_went h with
  | interrupted hlisting =>
      obtain ⟨log, hadds, hasked⟩ := run_asked hlisting
      exact ⟨log, .interrupted hadds hasked⟩
  | unlisted hlisting =>
      obtain ⟨log, hadds, hasked⟩ := run_asked hlisting
      exact ⟨log, .unlisted hadds hasked⟩
  | noSteps hlisting =>
      obtain ⟨log, hadds, hasked⟩ := run_asked hlisting
      exact ⟨log, .noSteps ⟨hlisting, hadds, hasked⟩⟩
  | @listed declared m r _ hlisting hne hrun =>
      obtain ⟨log, hadds, hasked⟩ := run_asked hlisting
      have hdeclared : Declared i ctx s declared m log := ⟨hlisting, hadds, hasked⟩
      cases r with
      | ok report =>
          obtain ⟨logs, hdone⟩ := runListed_done hrun
          exact ⟨_, .done hdeclared hne hdone⟩
      | error e =>
          obtain ⟨logs, hfailed⟩ := runListed_failed hrun
          exact ⟨_, .failed hdeclared hne hfailed⟩

/-- **An install by a driver** that has no end. -/
theorem installer_endless (h : i.watched.install ctx s = none) : InstallEndless i ctx s := by
  rcases Installer.install_eq_none h with hlisting | ⟨declared, m, hlisting, hlisted⟩
  · exact .unlisted hlisting
  · obtain ⟨log, hadds, hasked⟩ := run_asked hlisting
    have hrun := Option.map_eq_none_iff.mp hlisted
    cases runKept_went hrun with
    | endless hsteps hdone hnone =>
        exact .endless ⟨hlisting, hadds, hasked⟩ hsteps hdone (step_endless hnone)

end Install

/-! ## The driver that installs -/

theorem install_eq {client : Client σ} {ctx : Context} {job : Job} {run : Run (Watched σ)}
    {d : Driver σ} (hd : installing? client = some d) (alive : ctx.error? run.now = none) :
    install client.watched ctx job run =
      ((installer client job d).watched.install ctx run.toScene).map fun (result, s) =>
        match result with
        | .ok report => (.ok report, ⟨s, (({} : Metadata).attempt d.name).success d.name⟩)
        | .error e => (.error e, ⟨s, (({} : Metadata).attempt d.name).failure d.name e.message⟩) :=
  install_larger_by (L := watching) alive hd

/-- **Every install has its account**: without a driver that declares steps, or under a context that
is done, nothing is asked of anyone; else the first driver that declares steps installs, and what
comes of it is told by the log. -/
theorem install_account (client : Client σ) (ctx : Context) (job : Job) (run : Run (Watched σ)) :
    (install client.watched ctx job run).map (fun (result, run) => (result, run.plain)) =
      install client ctx job run.plain ∧
    (installing? client = none ∨ ctx.error? run.now ≠ none → ∃ e,
      install client.watched ctx job run = some (.error (.call e), { run with record := {} })) ∧
    ∀ d, installing? client = some d → ctx.error? run.now = none →
      (∀ result run', install client.watched ctx job run = some (result, run') → ∃ log,
        InstallAccount (installer client job d) ctx run.toScene result run'.toScene log) ∧
      (install client.watched ctx job run = none →
        InstallEndless (installer client job d) ctx run.toScene) := by
  refine ⟨install_plain client ctx job run, fun hidle => ?_, fun d hd alive => ?_⟩
  · unfold install
    cases hs : ctx.error? run.now with
    | some cause => exact ⟨_, rfl⟩
    | none =>
        have hnobody : installing? client = none := by simpa [hs] using hidle
        have hfind : client.watched.registry.find? (fun d => d.backs .firmwareInstallSteps) =
            none := by
          rw [← installing?, installing?_watched, hnobody, Option.map_none]
        simp only [hfind]
        exact ⟨_, rfl⟩
  · rw [install_eq hd alive]
    refine ⟨fun result run' h => ?_, fun h => installer_endless (Option.map_eq_none_iff.mp h)⟩
    obtain ⟨⟨result', s'⟩, hinstall, hpair⟩ := Option.map_eq_some_iff.mp h
    obtain ⟨log, hlog⟩ := installer_log hinstall
    cases result' <;> cases hpair <;> exact ⟨log, hlog.account⟩

def mockClient (m : Mock) : Client Mock.State := { registry := [mockDriver m] }

/-- A mock of which nobody has asked anything. -/
def fresh : Run (Watched Mock.State) := { now := 0, world := { world := {} } }

/-- Three steps and one that only says what to do if they fail. -/
theorem install_account_of_three_steps :
    let job : Job := { component := "bios", image := [] }
    let m : Mock := { name := "a", steps := [.upload, .powerOffHost, .install, .resetBmcOnFailure] }
    let report : Report :=
      { driver := "a", steps := [.upload, .powerOffHost, .install]
        uploadTask := some "upload-task", installTask := some "install-task" }
    ∃ run' log, install (mockClient m).watched .background job fresh = some (.ok report, run') ∧
      InstallAccount (installer (mockClient m) job (mockDriver m)) .background fresh.toScene
        (.ok report) run'.toScene log := by
  intro job m report
  have hreport : (install (mockClient m).watched .background job fresh).map (fun p => p.1.toOption) =
    some (some report) := by decide +kernel
  obtain ⟨⟨result, run'⟩, hinstall, hresult⟩ := Option.map_eq_some_iff.mp hreport
  cases result with
  | error e => cases hresult
  | ok report' =>
      cases hresult
      obtain ⟨log, haccount⟩ := ((install_account (mockClient m) .background job fresh).2.2
        (mockDriver m) rfl rfl).1 _ _ hinstall
      exact ⟨run', log, hinstall, haccount⟩

/-- Why an install failed and what drivers were asked to do. -/
def heard : Except ClientError Report × Run (Watched σ) → Option InstallError × List Deed
  | (.error (.install e), run) => (some e, (Event.starts run.toScene.log).map Entry.deed)
  | (_, run) => (none, (Event.starts run.toScene.log).map Entry.deed)

/-- A failed step is followed by a reset if the steps say so, although it is no call of a step that is
done. If no steps are declared, the error names none. -/
theorem install_resets_after_failure :
    let job : Job := { component := "bios", image := [] }
    let failing : Mock := { name := "a", behavior := .fail, steps := [.upload, .resetBmcOnFailure] }
    (install (mockClient failing).watched .background job fresh).map heard =
      some (some (.provider .upload (.commandFailed "a: firmware_upload:bios failed")
        ⟨.unknown, ""⟩), [.call (.firmwareInstallSteps "bios"), .call (.firmwareUpload "bios" []),
          .call (.bmcReset .warm)]) ∧
    kept failing.steps = [.upload] ∧
    (install (mockClient { name := "a" }).watched .background job fresh).map heard =
      some (some (.noSteps "a" "bios"), [.call (.firmwareInstallSteps "bios")]) ∧
    (InstallError.noSteps "a" "bios").step? = none := by
  intro job failing
  exact ⟨by decide +kernel, by decide, by decide +kernel, rfl⟩

end OutOfBand.Client
