import OutOfBand.Client.Errand
import OutOfBand.Proofs.Install.Legs
import OutOfBand.Proofs.Install.StatusStep
import OutOfBand.Proofs.Views

/-!
# Host control

An install switches the host and resets the controller when a step is nothing else, when a task that
it waits for asks for it (`Asks`), and when a step has failed. Each time that is one dispatch to the
drivers for the host, which are those of the client with the installing driver first
(`eligible_preferred`). What comes of it decides how the step goes on, and nothing else in an install
touches the host (`Leg.Ran.steered`).
-/

namespace OutOfBand.Client

open Firmware

/-! ## The drivers for the host -/

/-- Among drivers of different names only one has the name of a driver. -/
theorem filter_name_eq {drivers : List (Driver σ)} {d : Driver σ}
    (distinct : (drivers.map Driver.name).Nodup) (hd : d ∈ drivers) :
    drivers.filter (fun e => e.name == d.name) = [d] := by
  induction drivers with
  | nil => cases hd
  | cons e drivers ih =>
      obtain ⟨hfirst, hrest⟩ := List.nodup_cons.mp distinct
      rcases List.mem_cons.mp hd with rfl | hd
      · have hothers : drivers.filter (fun e => e.name == d.name) = [] := by
          refine List.filter_eq_nil_iff.mpr fun e he heq => hfirst ?_
          rw [← beq_iff_eq.mp heq]
          exact List.mem_map_of_mem he
        rw [List.filter_cons, if_pos (beq_self_eq_true d.name), hothers]
      · have hne : ¬(e.name == d.name) = true := by
          intro heq
          exact hfirst (beq_iff_eq.mp heq ▸ List.mem_map_of_mem hd)
        rw [List.filter_cons, if_neg hne, ih hrest hd]

/-- **The driver that installs is the first for the host**, if it backs the call. The others that back
it come after, in the order of the client. -/
theorem eligible_preferred {client : Client σ} {d : Driver σ}
    (distinct : (client.registry.map Driver.name).Nodup) (hd : d ∈ client.registry) (c : Call) :
    eligible (client.view (.preferDriver d.name)).registry c =
      (if d.backs c.feature then [d] else []) ++
        (eligible client.registry c).filter fun e => e.name != d.name := by
  have hfront : (client.view (.preferDriver d.name)).registry =
      client.registry.filter (fun e => e.name == d.name) ++
        client.registry.filter fun e => e.name != d.name := rfl
  rw [hfront, filter_name_eq distinct hd, eligible, List.filter_append, List.filter_filter]
  congr 1
  · cases hbacks : d.backs c.feature <;> simp [hbacks]
  · rw [eligible, List.filter_filter]
    exact List.filter_congr fun e _ => Bool.and_comm ..

theorem mem_of_installing? {client : Client σ} {d : Driver σ} (hd : installing? client = some d) :
    d ∈ client.registry := List.mem_of_find?_eq_some hd

/-! ## What is asked for -/

/-- The call for the host that a task asks for in a state, if it asks for one. -/
def taskCall? : TaskState → Option Call
  | .powerCycleHost => some (.powerSet .cycle)
  | .powerCycleBmc => some (.bmcReset .warm)
  | _ => none

/-- A step that began with a report in the scene `s` has come, in another scene and with another
report, to ask for a call for the host. -/
inductive Asks (i : Installer σ) (ctx : Context) (step : Step) (report : Report)
    (s : Scene (Watched σ)) : Call → Scene (Watched σ) → Report → Prop
  /-- The step does nothing else. -/
  | step {c} : hostCall? step = some c → Asks i ctx step report s c s report
  /-- A task that the step waits for has just said so. -/
  | poll {kind task n y status m c} : i.call? report step = some (statusCall i kind task) →
      i.driver.backs .firmwareTaskStatus = true →
      i.watched.Rounds ctx step (i.watched.question kind task) n ⟨false, report, s⟩ y →
      ctx.run (i.watched.question kind task) y.scene = some (.ok (.ok status), m) →
      taskCall? status.state = some c →
      Asks i ctx step report s c m
        { y.report with polls := y.report.polls + 1, last := some status }

/-- The dispatch of a call for the host. -/
def Installer.steer (i : Installer σ) (ctx : Context) (c : Call) (s : Scene σ) :
    Dispatched σ c.Outcome :=
  dispatch ctx i.host.registry i.host.config.perProvider c s

/-- What comes of a step that has asked for a call for the host, if the dispatch has this result. -/
def steered (step : Step) (report : Report) (result : Except CallError α) :
    Except InstallError Report :=
  (result.mapError (.hostControl step · report.lastStatus)).map fun _ => report

/-- A log without host control. -/
def NoControl (log : List (Event σ)) : Prop := Lacks Deed.isControl log

/-- What a leg has to do with the host: each call that it asks for is one dispatch, with which the leg
ends as the dispatch does, and apart from that it does not touch the host. -/
structure Leg.Steered (i : Installer σ) (ctx : Context) (leg : Leg σ) : Prop where
  asked : ∀ c m report, Asks i ctx leg.step leg.report leg.start c m report →
    (∃ work, Adds leg.start m work ∧ NoControl work) ∧
    leg.stop = (i.watched.steer ctx c m).scene ∧
    leg.result = steered leg.step report (i.watched.steer ctx c m).result
  unasked : (∀ c m report, ¬ Asks i ctx leg.step leg.report leg.start c m report) →
    NoControl leg.log

/-! ## Steps and polls that ask -/

section Asking

variable {i : Installer τ} {ctx : Context} {step : Step} {report : Report} {s m : Scene τ} {c : Call}

theorem control_eq : i.control ctx step report c s =
    (((i.steer ctx c s).result.mapError (.hostControl step · report.lastStatus)).map fun _ => (),
      (i.steer ctx c s).scene) := by
  generalize h : i.control ctx step report c s = p
  obtain ⟨result, s'⟩ := p
  cases control_went h with
  | accepted hD hresult | refused hD hresult =>
      rw [Installer.steer, hD, hresult]
      rfl

theorem map_control : ((i.control ctx step report c s).1.map fun () => report,
    (i.control ctx step report c s).2) =
      (steered step report (i.steer ctx c s).result, (i.steer ctx c s).scene) := by
  rw [control_eq, steered]
  cases (i.steer ctx c s).result <;> rfl

theorem step_of_host (hhost : hostCall? step = some c) : i.step ctx report s step =
    some (steered step report (i.steer ctx c s).result, (i.steer ctx c s).scene) := by
  rw [← map_control]
  cases step <;> cases hhost <;> rfl

/-- **A poll that asks for host control** ends the wait with it. -/
theorem poll_of_asking {question : Operation τ (Except Fault Status)} {reopened : Bool}
    {status : Status} (hrun : ctx.run question s = some (.ok (.ok status), m))
    (hc : taskCall? status.state = some c) :
    let noted : Report := { report with polls := report.polls + 1, last := some status }
    i.poll ctx step question reopened report s =
      some (.finish (steered step noted (i.steer ctx c m).result), (i.steer ctx c m).scene) := by
  intro noted
  have hobey : i.obey ctx step { report with polls := report.polls + 1 } status m =
      (.finish ((i.control ctx step noted c m).1.map fun () => noted),
        (i.control ctx step noted c m).2) := by
    unfold Installer.obey
    cases hstate : status.state <;> rw [hstate] at hc <;> cases hc <;> rfl
  obtain ⟨hresult, hscene⟩ := Prod.mk.inj (map_control (i := i) (s := m))
  rw [hresult, hscene] at hobey
  unfold Installer.poll
  simp only [hrun, hobey]

end Asking

/-! ## Legs -/

section Leg

variable {i : Installer σ} {ctx : Context} {step : Step} {report : Report}
  {s s' : Scene (Watched σ)}

theorem isControl_of_call? {c : Call} (h : i.call? report step = some c) :
    (Deed.call c).isControl = false := by
  cases step <;> cases h <;> rfl

theorem call?_of_hostCall? {c : Call} (h : hostCall? step = some c) : i.call? report step = none := by
  cases step <;> cases h <;> rfl

theorem statusCall_of_isPoll {c : Call} (h : i.call? report step = some c)
    (hpoll : (Deed.call c).isPoll = true) : ∃ kind task, c = statusCall i kind task := by
  cases step with
  | uploadStatus =>
      cases h
      exact ⟨.upload, _, rfl⟩
  | installStatus =>
      cases h
      exact ⟨.install, _, rfl⟩
  | upload | uploadAndInitiateInstall | install | installFromUploaded =>
      cases h
      cases hpoll
  | powerOffHost | resetBmcPostInstall | resetBmcOnFailure => cases h

/-- **A step that asks for host control** ends with the dispatch, and has not touched the host before. -/
theorem Asks.step_eq {c : Call} {m : Scene (Watched σ)} {report' : Report}
    (h : Asks i ctx step report s c m report') :
    (∃ work, Adds s m work ∧ NoControl work) ∧ i.watched.step ctx report s step =
      some (steered step report' (i.watched.steer ctx c m).result,
        (i.watched.steer ctx c m).scene) := by
  cases h with
  | step hhost => exact ⟨⟨[], .refl s, .nil⟩, step_of_host hhost⟩
  | @poll kind task n y status m c hcall hbacks hrounds hrun hc =>
      obtain ⟨logs, -, hadds, hlogs, -⟩ := rounds_log hrounds
      obtain ⟨log, hadds', hasked⟩ := run_asked hrun
      have hquiet : NoControl logs.flatten := .flatten fun log hlog => (hlogs log hlog).lacks rfl rfl
      have hlast : NoControl log := .of_deed_eq rfl hasked.deed_eq
      refine ⟨⟨logs.flatten ++ log, hadds.trans hadds', hquiet.append hlast⟩, ?_⟩
      rw [step_eq_await hbacks hcall, hrounds.await_eq]
      exact (Installer.LastRound.decided (poll_of_asking hrun hc)).await_eq

theorem reopen_noControl {expired : Fault} {turn : Installer.Turn}
    (h : ReopenWent i.watched ctx step report expired s turn s') :
    ∃ log, Adds s s' log ∧ NoControl log := by
  cases h with
  | disconnected => exact ⟨[], .refl s, .nil⟩
  | opened hk hrun | unreachable hk hrun _ | refused hk hrun _ | interrupted hk hrun =>
      obtain ⟨log, hadds, hlogin⟩ := login_asked hk hrun
      exact ⟨log, hadds, .of_deed_eq rfl hlogin.deed_eq⟩

theorem obey_still {status : Status} {turn : Installer.Turn} (hquiet : taskCall? status.state = none)
    (h : ObeyWent i.watched ctx step report status s turn s') : s' = s := by
  cases h with
  | complete | failed | pending => rfl
  | controlled hc _ =>
      rcases hc with ⟨hstate, -⟩ | ⟨hstate, -⟩ <;> rw [hstate] at hquiet <;> cases hquiet

/-- A poll whose answer does not ask for host control does not touch the host. -/
theorem poll_noControl {kind : TaskKind} {task : String} {reopened : Bool} {turn : Installer.Turn}
    (hquiet : ∀ status m, ctx.run (i.watched.question kind task) s = some (.ok (.ok status), m) →
      taskCall? status.state = none)
    (h : i.watched.poll ctx step (i.watched.question kind task) reopened report s =
      some (turn, s')) : ∃ log, Adds s s' log ∧ NoControl log := by
  have hasked : ∀ {r m}, ctx.run (i.watched.question kind task) s = some (r, m) →
      ∃ log, Adds s m log ∧ NoControl log := by
    intro r m hrun
    obtain ⟨log, hadds, hasked⟩ := run_asked hrun
    exact ⟨log, hadds, .of_deed_eq rfl hasked.deed_eq⟩
  cases poll_went h with
  | interrupted hrun | refused hrun _ _ | unreachable hrun _ => exact hasked hrun
  | answered hrun hobey =>
      rw [obey_still (hquiet _ _ hrun) hobey]
      exact hasked hrun
  | expired hrun _ _ hreopen =>
      obtain ⟨log, hadds, hlog⟩ := hasked hrun
      obtain ⟨more, hadds', hmore⟩ := reopen_noControl hreopen
      exact ⟨log ++ more, hadds.trans hadds', hlog.append hmore⟩

/-- A wait whose task does not ask for host control does not touch the host. -/
theorem wait_noControl {kind : TaskKind} {task : String} {result : Except InstallError Report}
    (hcall : i.call? report step = some (statusCall i kind task))
    (hquiet : ∀ c m report', ¬ Asks i ctx step report s c m report')
    (h : i.watched.step ctx report s step = some (result, s')) :
    ∃ log, Adds s s' log ∧ NoControl log := by
  have hwait : i.watched.awaitTask ctx step kind task report s = some (result, s') := by
    rw [← h]
    cases step <;> cases hcall <;> rfl
  cases Installer.awaitTask_went hwait with
  | missing => exact ⟨[], .refl s, .nil⟩
  | @waited _ n y _ _ hbacks hquestion hrounds hlast =>
      subst hquestion
      obtain ⟨logs, -, hadds, hlogs, -⟩ := rounds_log hrounds
      have hbefore : NoControl logs.flatten := .flatten fun log hlog => (hlogs log hlog).lacks rfl rfl
      obtain ⟨log, hadds', hlog⟩ : ∃ log, Adds y.scene s' log ∧ NoControl log := by
        cases hlast with
        | decided hpoll =>
            refine poll_noControl (fun status m hrun => ?_) hpoll
            cases hc : taskCall? status.state with
            | none => rfl
            | some c => exact absurd (.poll hcall hbacks hrounds hrun hc) (hquiet c m _)
        | interrupted hpoll hsleep =>
            obtain ⟨log, hadds', hround, -⟩ := poll_fits hpoll
            have hlog := hadds'.trans (sleep_log hsleep)
            rw [List.append_nil] at hlog
            exact ⟨log, hlog, hround.lacks rfl rfl⟩
      exact ⟨logs.flatten ++ log, hadds.trans hadds', hbefore.append hlog⟩

/-- **A step that does not ask for host control does not touch the host.** -/
theorem Leg.Ran.noControl {leg : Leg σ} (h : leg.Ran i ctx)
    (hquiet : ∀ c m report, ¬ Asks i ctx leg.step leg.report leg.start c m report) :
    NoControl leg.log := by
  obtain ⟨step, report, s, result, s', log⟩ := leg
  obtain ⟨hran, hadds, hlog, -⟩ := h
  simp only at hran hadds hlog hquiet ⊢
  generalize result.isOk = ok at hlog
  cases hlog with
  | missing => exact .nil
  | asked hcall _ hasked _ => exact .of_deed_eq (isControl_of_call? hcall) hasked.deed_eq
  | tried hhost _ => exact absurd (.step hhost) (hquiet _ _ _)
  | waited hcall hpoll _ _ =>
      obtain ⟨kind, task, rfl⟩ := statusCall_of_isPoll hcall hpoll
      obtain ⟨log, hadds', hlog⟩ := wait_noControl hcall hquiet hran
      rwa [hadds.unique hadds']

/-- **Each call for the host is one dispatch.** -/
theorem Leg.Ran.steered {leg : Leg σ} (h : leg.Ran i ctx) : leg.Steered i ctx where
  asked c m report hasks := by
    obtain ⟨hwork, hstep⟩ := hasks.step_eq
    obtain ⟨hresult, hstop⟩ := Prod.mk.inj (Option.some.inj (h.ran.symm.trans hstep))
    exact ⟨hwork, hstop, hresult⟩
  unasked := h.noControl

/-- A step that has no end does not ask for host control. -/
theorem Endless.not_asks (h : Endless i ctx step report s) (c : Call) (m : Scene (Watched σ))
    (report' : Report) : ¬ Asks i ctx step report s c m report' := by
  intro hasks
  have hcall : ∃ call, i.call? report step = some call := by
    cases h with
    | asked hcall => exact ⟨_, hcall⟩
    | waited hcall => exact ⟨_, hcall⟩
  obtain ⟨-, hstep⟩ := hasks.step_eq
  cases hasks with
  | step hhost =>
      obtain ⟨call, hcall⟩ := hcall
      cases (call?_of_hostCall? hhost).symm.trans hcall
  | poll hpoll hbacks =>
      cases h with
      | asked hcall hother =>
          cases hpoll.symm.trans hcall
          cases hother
      | waited hcall _ hends =>
          have hnone := (Installer.await_eq_none_iff (x := ⟨false, report, s⟩)).mpr hends
          rw [step_eq_await hbacks hcall] at hstep
          cases hnone.symm.trans hstep

end Leg

/-! ## Whole installs -/

/-- What an install has to do with the host, whatever becomes of it. -/
inductive HostControlled (client : Client σ) (ctx : Context) (job : Job) (run : Run (Watched σ)) :
    Option (Except ClientError Report × Run (Watched σ)) → Prop
  /-- It has never known its steps, and has not touched the host. -/
  | unknown {result run' log} :
      (∀ d declared m, installing? client = some d → ¬ Declares d ctx job run declared m) →
      Adds run.toScene run'.toScene log → NoControl log →
      HostControlled client ctx job run (some (result, run'))
  /-- The driver does not say what the steps are, and the install has no end. -/
  | silent {d} : installing? client = some d →
      ctx.run (d.watched.capabilities.handle (.firmwareInstallSteps job.component)) run.toScene =
        none → HostControlled client ctx job run none
  /-- All that touched the host was asked for in a leg or is the reset after a failure. -/
  | ended {d declared m listing result run' legs reset} : installing? client = some d →
      Declares d ctx job run declared m → Adds run.toScene m listing → NoControl listing →
      Journey (installer client job d) ctx declared m result run'.toScene legs reset →
      (∀ leg ∈ legs, leg.Steered (installer client job d) ctx) →
      HostControlled client ctx job run (some (result, run'))
  /-- The install has no end, and the step in which it hangs does not ask for anything. -/
  | endless {d declared m listing legs step report s} : installing? client = some d →
      Declares d ctx job run declared m → Adds run.toScene m listing → NoControl listing →
      Stranded (installer client job d) ctx declared m legs step report s →
      (∀ leg ∈ legs, leg.Steered (installer client job d) ctx) →
      (∀ c s' report', ¬ Asks (installer client job d) ctx step report s c s' report') →
      HostControlled client ctx job run none

section Whole

variable {client : Client σ} {ctx : Context} {job : Job} {run : Run (Watched σ)} {d : Driver σ}

theorem hostControlled_of_declares {declared : List Step} {m : Scene (Watched σ)}
    (hd : installing? client = some d) (known : Declares d ctx job run declared m) :
    HostControlled client ctx job run (install client.watched ctx job run) := by
  obtain ⟨hends, hendless⟩ := install_journey hd known
  obtain ⟨listing, hadds, hasked⟩ := run_asked known
  have hlisting : NoControl listing := .of_deed_eq rfl hasked.deed_eq
  cases hinstall : install client.watched ctx job run with
  | none =>
      obtain ⟨legs, step, report, s, hstranded⟩ := hendless hinstall
      exact .endless hd known hadds hlisting hstranded
        (fun leg hleg => (hstranded.row.ran leg hleg).steered) hstranded.endless.not_asks
  | some p =>
      obtain ⟨result, run'⟩ := p
      obtain ⟨legs, reset, hjourney⟩ := hends result run' hinstall
      exact .ended hd known hadds hlisting hjourney fun leg hleg => (hjourney.ran leg hleg).steered

theorem hostControlled_of_unknown
    (unknown : ∀ d declared m, installing? client = some d → ¬ Declares d ctx job run declared m) :
    HostControlled client ctx job run (install client.watched ctx job run) := by
  obtain ⟨-, hidle, haccount⟩ := install_account client ctx job run
  by_cases hnobody : installing? client = none ∨ ctx.error? run.now ≠ none
  · obtain ⟨e, he⟩ := hidle hnobody
    rw [he]
    exact .unknown unknown (.refl run.toScene) .nil
  obtain ⟨hsome, halive⟩ := not_or.mp hnobody
  obtain ⟨d, hd⟩ := Option.ne_none_iff_exists'.mp hsome
  obtain ⟨hends, hendless⟩ := haccount d hd (Classical.not_not.mp halive)
  cases hinstall : install client.watched ctx job run with
  | none =>
      cases hendless hinstall with
      | unlisted hrun => exact .silent hd hrun
      | endless hdeclared => exact absurd hdeclared.run (unknown d _ _ hd)
  | some p =>
      obtain ⟨result, run'⟩ := p
      obtain ⟨log, hlog⟩ := hends result run' hinstall
      have hquiet : NoControl log := by
        cases hlog.course with
        | interrupted _ hasked | unlisted _ hasked => exact .of_deed_eq rfl hasked.deed_eq
        | noSteps hdeclared | done hdeclared | failed hdeclared =>
            exact absurd hdeclared.run (unknown d _ _ hd)
      exact .unknown unknown hlog.adds hquiet

end Whole

/-- **Host control during an install.** If no two drivers of a client have the same name, the drivers
for the host are the installing one, if it backs the call, and then the others that back it, in the
order of the client. A call for the host goes to one after another, up to the first that accepts it.
Each call that a step or a task asks for is one such dispatch, which decides how the step ends, and so
is the reset after a failure; nothing else touches the host. The client is left as it is. -/
theorem install_controls_host (client : Client σ) (ctx : Context) (job : Job) (run : Run (Watched σ))
    (distinct : (client.registry.map Driver.name).Nodup) :
    (install client.watched ctx job run).map (fun (result, run) => (result, run.plain)) =
      install client ctx job run.plain ∧
    (∀ client' run', client.watched.carryOut ctx run (.install job) = some (client', run') →
      client' = client.watched) ∧
    (∀ d, installing? client = some d → ∀ c,
      let i := installer client job d
      eligible i.host.registry c = (if d.backs c.feature then [d] else []) ++
        (eligible client.registry c).filter (fun e => e.name != d.name) ∧
      ∀ s, ∃ turns log, InTurn ctx i.host.registry i.host.config.perProvider c s
        (i.watched.steer ctx c s) turns log) ∧
    HostControlled client ctx job run (install client.watched ctx job run) := by
  refine ⟨install_plain client ctx job run, fun client' run' h => ?_, fun d hd c => ?_, ?_⟩
  · obtain ⟨p, -, hpair⟩ := Option.map_eq_some_iff.mp h
    exact (Prod.mk.inj hpair).1.symm
  · exact ⟨eligible_preferred distinct (mem_of_installing? hd) c, fun s => dispatch_inTurn ..⟩
  · by_cases known : ∃ d declared m, installing? client = some d ∧ Declares d ctx job run declared m
    · obtain ⟨d, declared, m, hd, hdeclares⟩ := known
      exact hostControlled_of_declares hd hdeclares
    · exact hostControlled_of_unknown fun d declared m hd hdeclares =>
        known ⟨d, declared, m, hd, hdeclares⟩

/-- A driver that can switch the host and nothing else. -/
def lever (name : String) : Driver Mock.State :=
  .ofCapabilities name "mock" ((Mock.capabilities { name }).limit [.powerSet])

/-- The installing driver comes second in the client and fails at all orders. So the host is switched
off by the other one, and nobody resets the controller, neither as the next step nor after it has
failed. -/
theorem install_controls_host_by_lever :
    let failing : Mock :=
      { name := "a", behavior := .fail,
        steps := [.powerOffHost, .resetBmcPostInstall, .resetBmcOnFailure] }
    let client : Client Mock.State := { registry := [lever "x", mockDriver failing] }
    let job : Job := { component := "bios", image := [] }
    (client.registry.map Driver.name).Nodup ∧
    HostControlled client .background job fresh
      (install client.watched .background job fresh) ∧
    (install client.watched .background job fresh).map (fun p =>
      (Event.starts p.2.toScene.log).map fun e => (e.driver.name, e.deed)) =
        some [("a", .call (.firmwareInstallSteps "bios")), ("a", .call (.powerSet .off)),
          ("x", .call (.powerSet .off)), ("a", .call (.bmcReset .warm)),
          ("a", .call (.bmcReset .warm))] ∧
    ((install client.watched .background job fresh).bind fun p => (heard p).1) =
      some (.hostControl .resetBmcPostInstall
        (.exhausted "bmcreset" [⟨"a", .fault (.commandFailed "a: bmc_reset:warm failed")⟩])
        ⟨.unknown, ""⟩) := by
  intro failing client job
  have distinct : (client.registry.map Driver.name).Nodup := by decide
  exact ⟨distinct, (install_controls_host client .background job fresh distinct).2.2.2,
    by decide +kernel, by decide +kernel⟩

end OutOfBand.Client
