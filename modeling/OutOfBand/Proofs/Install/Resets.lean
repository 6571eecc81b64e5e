import OutOfBand.Proofs.Install.Legs

/-!
# Resets of the controller

Three things have the controller reset in an install: a step that is nothing else, a task that asks
for it when its wait is over, and a failed step, if the declared steps say so. The first two belong
to the leg in which they happen, and are the last of it (`Leg.Ran.resets`); the third comes after
all legs and changes nothing of what the install returns (`install_resets`).
-/

namespace OutOfBand

/-- Whether a controller is reset. -/
def Deed.isReset : Deed → Bool
  | call (.bmcReset _) => true
  | _ => false

namespace Client

open Firmware

/-- Whether a wait with this result was over because the task asked for a reset of the controller. -/
def toldToReset : Except InstallError Report → Bool
  | .ok report => report.lastStatus.state == .powerCycleBmc
  | .error (.hostControl _ _ last) => last.state == .powerCycleBmc
  | .error _ => false

/-- Whether the step itself asked for a reset of the controller. -/
def Leg.asksReset (leg : Leg σ) : Bool :=
  match leg.step with
  | .resetBmcPostInstall => true
  | .uploadStatus | .installStatus => toldToReset leg.result
  | _ => false

/-- A log without a reset of a controller. -/
def NoReset (log : List (Event σ)) : Prop := ∀ e ∈ Event.starts log, e.deed.isReset = false

/-- A log with one reset of the controller at its end and none before, if it was asked for, and with
no reset otherwise. The reset goes to the drivers in turn, and `ok` tells whether one succeeded. -/
def ResetsAtEnd (host : List (Driver σ)) (asked ok : Bool) (log : List (Event σ)) : Prop :=
  ∃ work reset, log = work ++ reset ∧ NoReset work ∧
    if asked then Tried host (.bmcReset .warm) ok reset else reset = []

/-- What a wait with this result, or the end of one, adds to the log from the scene `s` to the scene
`s'`: a reset at the end, if the task asked for it, and none else. -/
def WaitResets (i : Installer σ) (result : Except InstallError Report) (s s' : Scene (Watched σ)) :
    Prop :=
  ∃ log, Adds s s' log ∧ ResetsAtEnd i.host.registry (toldToReset result) result.isOk log

section Logs

variable {d : Driver σ} {host : List (Driver σ)} {log more : List (Event σ)} {asked ok : Bool}

theorem NoReset.nil : NoReset ([] : List (Event σ)) := Lacks.nil

theorem NoReset.append (h : NoReset log) (h' : NoReset more) : NoReset (log ++ more) :=
  Lacks.append h h'

theorem Asked.noReset {deed : Deed} {answered : Bool} (h : Asked d deed answered log)
    (hdeed : deed.isReset = false) : NoReset log := Lacks.of_deed_eq hdeed h.deed_eq

theorem Tried.noReset {c : Call} (h : Tried host c ok log) (hc : (Deed.call c).isReset = false) :
    NoReset log := Lacks.of_deed_eq hc h.deed_eq

theorem RoundLog.noReset {question : Call} (h : RoundLog d question log)
    (hq : (Deed.call question).isReset = false) : NoReset log := h.lacks hq rfl

theorem NoReset.flatten {logs : List (List (Event σ))} (h : ∀ log ∈ logs, NoReset log) :
    NoReset logs.flatten := Lacks.flatten h

theorem NoReset.atEnd (h : NoReset log) (hasked : asked = false) :
    ResetsAtEnd host asked ok log := by
  refine ⟨log, [], (List.append_nil log).symm, h, ?_⟩
  rw [hasked]
  rfl

theorem ResetsAtEnd.after (h : ResetsAtEnd host asked ok more) (hlog : NoReset log) :
    ResetsAtEnd host asked ok (log ++ more) := by
  obtain ⟨work, reset, rfl, hwork, hreset⟩ := h
  exact ⟨log ++ work, reset, (List.append_assoc log work reset).symm, hlog.append hwork, hreset⟩

theorem Tried.atEnd (h : Tried host (.bmcReset .warm) ok log) (hasked : asked = true) :
    ResetsAtEnd host asked ok log := by
  refine ⟨[], log, rfl, .nil, ?_⟩
  rw [hasked]
  exact h

end Logs

/-! ## The end of a wait -/

section Wait

variable {i : Installer σ} {ctx : Context} {step : Step} {report : Report} {question : Call}
  {op : Operation σ (Except Fault Status)} {s s' : Scene (Watched σ)}
  {result : Except InstallError Report}

theorem control_error {c : Call} {e : InstallError} {i : Installer τ} {s s' : Scene τ}
    (h : i.control ctx step report c s = (.error e, s')) :
    ∃ cause, e = .hostControl step cause report.lastStatus := by
  cases control_went h with
  | refused => exact ⟨_, rfl⟩

theorem WaitResets.of_noReset {log : List (Event σ)} (hadds : Adds s s' log) (hlog : NoReset log)
    (hresult : toldToReset result = false) : WaitResets i result s s' :=
  ⟨log, hadds, hlog.atEnd hresult⟩

theorem WaitResets.after {m : Scene (Watched σ)} {log : List (Event σ)}
    (h : WaitResets i result m s') (hadds : Adds s m log) (hlog : NoReset log) :
    WaitResets i result s s' := by
  obtain ⟨more, hadds', hresets⟩ := h
  exact ⟨log ++ more, hadds.trans hadds', hresets.after hlog⟩

/-- Whatever is done with the host at the end of a wait, its result tells what the task answered. -/
theorem control_told {c : Call} {status : Status} {r : Except InstallError Unit} {i : Installer τ}
    {s s' : Scene τ} (h : i.control ctx step { report with last := some status } c s = (r, s')) :
    toldToReset (r.map fun () => { report with last := some status }) =
      (status.state == .powerCycleBmc) := by
  cases r with
  | ok => rfl
  | error e =>
      obtain ⟨cause, rfl⟩ := control_error h
      rfl

theorem obey_resets {status : Status}
    (h : ObeyWent i.watched ctx step report status s (.finish result) s') :
    WaitResets i result s s' := by
  generalize hturn : Installer.Turn.finish result = turn at h
  cases h with
  | complete hstate =>
      cases hturn
      apply WaitResets.of_noReset (.refl s) .nil
      show (status.state == .powerCycleBmc) = false
      rw [hstate]
      rfl
  | failed =>
      cases hturn
      exact .of_noReset (.refl s) .nil rfl
  | @controlled c r m hc hcontrol =>
      cases hturn
      obtain ⟨log, hadds, htried, -⟩ := control_tried hcontrol
      have htold := control_told hcontrol
      rcases hc with ⟨hstate, rfl⟩ | ⟨hstate, rfl⟩
      · rw [hstate] at htold
        exact .of_noReset hadds (htried.noReset rfl) htold
      · rw [hstate] at htold
        refine ⟨log, hadds, ?_⟩
        cases r with
        | ok => exact htried.atEnd htold
        | error e => exact htried.atEnd htold
  | pending => cases hturn

theorem reopen_resets {expired : Fault}
    (h : ReopenWent i.watched ctx step report expired s (.finish result) s') :
    WaitResets i result s s' := by
  cases h with
  | disconnected => exact .of_noReset (.refl s) .nil rfl
  | refused hk hrun _ | interrupted hk hrun =>
      obtain ⟨log, hadds, hlogin⟩ := login_asked hk hrun
      exact .of_noReset hadds (hlogin.noReset rfl) rfl

/-- **A poll that ends a wait** is followed by a reset if its answer asks for one. -/
theorem poll_resets {reopened : Bool} (hq : (Deed.call question).isReset = false)
    (h : i.watched.poll ctx step (op.watched i.driver (.call question)) reopened report s =
      some (.finish result, s')) : WaitResets i result s s' := by
  cases poll_went h with
  | interrupted hrun | refused hrun _ _ =>
      obtain ⟨log, hadds, hasked⟩ := run_asked hrun
      exact .of_noReset hadds (hasked.noReset hq) rfl
  | answered hrun hobey =>
      obtain ⟨log, hadds, hasked⟩ := run_asked hrun
      exact (obey_resets hobey).after hadds (hasked.noReset hq)
  | expired hrun _ _ hreopen =>
      obtain ⟨log, hadds, hasked⟩ := run_asked hrun
      exact (reopen_resets hreopen).after hadds (hasked.noReset hq)

theorem lastRound_resets {x : Installer.Stage (Watched σ)}
    (hq : (Deed.call question).isReset = false)
    (h : i.watched.LastRound ctx step (op.watched i.driver (.call question)) x result s') :
    WaitResets i result x.scene s' := by
  cases h with
  | decided hpoll => exact poll_resets hq hpoll
  | interrupted hpoll hsleep =>
      obtain ⟨log, hadds, hround, -⟩ := poll_fits hpoll
      apply WaitResets.after _ hadds (hround.noReset hq)
      exact .of_noReset (sleep_log hsleep) .nil rfl

/-- **A wait resets the controller if its task asks for it**, at its end. -/
theorem wait_resets {kind : TaskKind} {task : String}
    (h : i.watched.awaitTask ctx step kind task report s = some (result, s')) :
    WaitResets i result s s' := by
  cases Installer.awaitTask_went h with
  | missing => exact .of_noReset (.refl s) .nil rfl
  | waited _ hquestion hrounds hlast =>
      subst hquestion
      obtain ⟨logs, -, hadds, hlogs, -⟩ := rounds_log hrounds
      have hquiet : NoReset logs.flatten := .flatten fun log hlog => (hlogs log hlog).noReset rfl
      exact (lastRound_resets rfl hlast).after hadds hquiet

end Wait

/-! ## The legs -/

section Leg

variable {i : Installer σ} {ctx : Context} {report : Report} {step : Step} {ok : Bool}
  {log : List (Event σ)} {leg : Leg σ}

/-- A step that makes an order to its driver resets nothing. -/
theorem StepLog.noReset_of_order {c : Call} (h : StepLog i report step ok log)
    (hcall : i.call? report step = some c) (hhost : hostCall? step = none)
    (hpoll : (Deed.call c).isPoll = false) (hc : (Deed.call c).isReset = false) : NoReset log := by
  cases h with
  | missing => exact .nil
  | asked hcall' _ hasked _ =>
      cases hcall.symm.trans hcall'
      exact hasked.noReset hc
  | waited hcall' hpoll' _ _ =>
      cases hcall.symm.trans hcall'
      cases hpoll.symm.trans hpoll'
  | tried hc' _ => cases hhost.symm.trans hc'

theorem StepLog.tried_of_host {c : Call} (h : StepLog i report step ok log)
    (hcall : i.call? report step = none) (hhost : hostCall? step = some c) :
    Tried i.host.registry c ok log := by
  cases h with
  | missing hcall' _ => cases hcall.symm.trans hcall'
  | asked hcall' _ _ _ => cases hcall.symm.trans hcall'
  | waited hcall' _ _ _ => cases hcall.symm.trans hcall'
  | tried hc htried =>
      cases hhost.symm.trans hc
      exact htried

/-- The step that only says what to do after a failure leaves no log: it is never done itself. -/
theorem StepLog.ne_resetBmcOnFailure (h : StepLog i report step ok log) :
    step ≠ .resetBmcOnFailure := by
  rintro rfl
  cases h with
  | missing hcall => cases hcall
  | asked hcall => cases hcall
  | waited hcall => cases hcall
  | tried hcall => cases hcall

/-- **A leg resets the controller if the step asks for it**, as the last thing, and else not. -/
theorem Leg.Ran.resets (h : leg.Ran i ctx) :
    ResetsAtEnd i.host.registry leg.asksReset leg.result.isOk leg.log := by
  obtain ⟨step, report, s, result, s', log⟩ := leg
  obtain ⟨hran, hadds, hlog, -⟩ := h
  simp only at hran hadds hlog ⊢
  have hwait : ∀ {kind : TaskKind} {task : String},
      i.watched.awaitTask ctx step kind task report s = some (result, s') →
      ResetsAtEnd i.host.registry (toldToReset result) result.isOk log := by
    intro kind task hwait
    obtain ⟨log', hadds', hresets⟩ := wait_resets hwait
    rwa [hadds.unique hadds']
  cases step with
  | upload => exact (hlog.noReset_of_order rfl rfl rfl rfl).atEnd rfl
  | uploadAndInitiateInstall => exact (hlog.noReset_of_order rfl rfl rfl rfl).atEnd rfl
  | install => exact (hlog.noReset_of_order rfl rfl rfl rfl).atEnd rfl
  | installFromUploaded => exact (hlog.noReset_of_order rfl rfl rfl rfl).atEnd rfl
  | uploadStatus => exact hwait hran
  | installStatus => exact hwait hran
  | powerOffHost => exact ((hlog.tried_of_host rfl rfl).noReset rfl).atEnd rfl
  | resetBmcPostInstall => exact (hlog.tried_of_host rfl rfl).atEnd rfl
  | resetBmcOnFailure => exact absurd rfl hlog.ne_resetBmcOnFailure

end Leg

/-! ## Whole installs -/

/-- **A failed step is followed by one reset**, if the declared steps say so, at whatever place and
however often, and the context is not done when the step has failed. The install fails as the step
did, whatever comes of the reset. Apart from that the controller is reset only in steps that ask for
it: an install without the declared step makes no other reset, and one that succeeds does not
either (`Journey`). -/
theorem install_resets (client : Client σ) (ctx : Context) (job : Job) (run : Run (Watched σ))
    (d : Driver σ) (declared : List Step) (m : Scene (Watched σ)) (hd : installing? client = some d)
    (known : ctx.run (d.watched.capabilities.handle (.firmwareInstallSteps job.component))
      run.toScene = some (.ok (.ok declared), m)) :
    (install client.watched ctx job run).map (fun (result, run) => (result, run.plain)) =
      install client ctx job run.plain ∧
    (∃ listing, Adds run.toScene m listing ∧ NoReset listing) ∧
    ∀ result run', install client.watched ctx job run = some (result, run') →
      ∃ legs reset,
        Journey (installer client job d) ctx declared m result run'.toScene legs reset ∧
        Adds m run'.toScene (legs.flatMap Leg.log ++ reset) ∧
        (Step.resetBmcOnFailure ∉ declared ∨ result.isOk = true → reset = []) ∧
        ∀ leg ∈ legs, ResetsAtEnd (installer client job d).host.registry leg.asksReset
          leg.result.isOk leg.log := by
  refine ⟨install_plain client ctx job run, ?_, fun result run' h => ?_⟩
  · obtain ⟨listing, hadds, hasked⟩ := run_asked known
    exact ⟨listing, hadds, hasked.noReset rfl⟩
  · obtain ⟨legs, reset, hjourney⟩ := (install_journey hd known).1 result run' h
    exact ⟨legs, reset, hjourney, hjourney.adds, hjourney.nothing_after,
      fun leg hleg => (hjourney.ran leg hleg).resets⟩

/-- An upload fails, and so does the one reset after it, which the steps ask for twice and not at the
end. The install fails because of the upload. -/
theorem install_resets_in_vain :
    let job : Job := { component := "bios", image := [] }
    let failing : Mock :=
      { name := "a", behavior := .fail, steps := [.resetBmcOnFailure, .upload, .resetBmcOnFailure] }
    let e : InstallError :=
      .provider .upload (.commandFailed "a: firmware_upload:bios failed") ⟨.unknown, ""⟩
    installing? (mockClient failing) = some (mockDriver failing) ∧
    ∃ m run' legs reset,
      Context.background.run ((mockDriver failing).watched.capabilities.handle
        (.firmwareInstallSteps "bios")) fresh.toScene = some (.ok (.ok failing.steps), m) ∧
      install (mockClient failing).watched .background job fresh =
        some (.error (.install e), run') ∧
      (Event.starts run'.toScene.log).map Entry.deed = [.call (.firmwareInstallSteps "bios"),
        .call (.firmwareUpload "bios" []), .call (.bmcReset .warm)] ∧
      Journey (installer (mockClient failing) job (mockDriver failing)) .background failing.steps m
        (.error (.install e)) run'.toScene legs reset := by
  intro job failing e
  have hheard : (install (mockClient failing).watched .background job fresh).map heard =
      some (some e, [.call (.firmwareInstallSteps "bios"), .call (.firmwareUpload "bios" []),
        .call (.bmcReset .warm)]) := by decide +kernel
  obtain ⟨⟨result, run'⟩, hinstall, hresult⟩ := Option.map_eq_some_iff.mp hheard
  obtain ⟨⟨cause⟩ | ⟨e'⟩⟩ | report := result
  · cases hresult
  · obtain ⟨he, hdeeds⟩ := Prod.mk.inj hresult
    cases he
    obtain ⟨m, known⟩ : ∃ m, Context.background.run ((mockDriver failing).watched.capabilities.handle
        (.firmwareInstallSteps "bios")) fresh.toScene = some (.ok (.ok failing.steps), m) :=
      ⟨_, rfl⟩
    obtain ⟨-, -, hinstalls⟩ := install_resets (mockClient failing) .background job fresh
      (mockDriver failing) failing.steps m rfl known
    obtain ⟨legs, reset, hjourney, -⟩ := hinstalls _ _ hinstall
    exact ⟨rfl, m, run', legs, reset, known, hinstall, hdeeds, hjourney⟩
  · cases hresult

end OutOfBand.Client
