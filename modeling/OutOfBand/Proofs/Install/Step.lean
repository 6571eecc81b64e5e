import OutOfBand.Proofs.Dispatch.Account
import OutOfBand.Proofs.Install.Log
import OutOfBand.Proofs.Install.Plain

/-!
# The log of a step

Every function of an install has one lemma here that says what it adds to the log of a watched
install, and what it answers: a report with the new polls counted, or an error that names the step.
`step_log` is the one for a whole step.
-/

namespace OutOfBand.Client

open Firmware

/-- The step that an error is about, if it is about one. -/
def InstallError.step? : InstallError → Option Step
  | missingCapability _ step _ | provider step _ _ | stepFailed step _ | hostControl step _ _
  | interrupted step _ _ => some step
  | steps _ _ _ | noSteps _ _ => none

/-- The report `report'` differs from `report` by tasks and by `n` more polls. -/
structure Report.Polled (n : Nat) (report report' : Report) : Prop where
  driver : report'.driver = report.driver
  steps : report'.steps = report.steps
  polls : report'.polls = report.polls + n

/-- What a part of a step answers that polls `n` times if it succeeds. -/
def Settled (step : Step) (report : Report) (n : Nat) : Except InstallError Report → Prop
  | .ok report' => report.Polled n report'
  | .error e => e.step? = some step

/-- The scene `s'` comes after the scene `s`, with these events. -/
def Adds (s s' : Scene (Watched σ)) (log : List (Event σ)) : Prop := s'.log = s.log ++ log

theorem Report.Polled.trans {n k : Nat} {report mid report' : Report} (h : report.Polled n mid)
    (h' : mid.Polled k report') : report.Polled (n + k) report' where
  driver := h'.driver.trans h.driver
  steps := h'.steps.trans h.steps
  polls := by rw [h'.polls, h.polls, Nat.add_assoc]

theorem Settled.after {step : Step} {n k : Nat} {report mid : Report}
    {result : Except InstallError Report} (h : report.Polled n mid) (h' : Settled step mid k result) :
    Settled step report (n + k) result := by
  cases result with
  | ok report' => exact h.trans h'
  | error e => exact h'

theorem Adds.refl (s : Scene (Watched σ)) : Adds s s [] := (List.append_nil _).symm

theorem Adds.trans {s m s' : Scene (Watched σ)} {log more : List (Event σ)} (h : Adds s m log)
    (h' : Adds m s' more) : Adds s s' (log ++ more) := by
  rw [Adds, h', h, List.append_assoc]

theorem Adds.unique {s s' : Scene (Watched σ)} {log more : List (Event σ)} (h : Adds s s' log)
    (h' : Adds s s' more) : log = more := by
  have heq : s.log ++ log = s.log ++ more := h.symm.trans h'
  exact List.append_cancel_left heq

/-! ## Work of the driver -/

theorem run_asked {ctx : Context} {d : Driver σ} {deed : Deed} {op : Operation σ α}
    {s s' : Scene (Watched σ)} {r : Except Interruption α}
    (h : ctx.run (op.watched d deed) s = some (r, s')) :
    ∃ log, Adds s s' log ∧ Asked d deed r.isOk log := by
  rw [run_watched] at h
  obtain ⟨⟨r', t⟩, hrun, hpair⟩ := Option.map_eq_some_iff.mp h
  cases hpair
  refine ⟨_, rfl, ?_⟩
  cases r with
  | ok a =>
      have halive : ctx.isDone s.plain.now = false :=
        Context.isDone_eq_false_iff.mpr (Context.alive_of_run hrun)
      rw [Scene.plain_now] at halive
      simp only [Entry.heard, halive]
      exact .answered s.now
  | error cause =>
      simp only [Entry.heard]
      split
      · exact .unstarted
      · exact .left s.now

theorem perform_asked {ctx : Context} {step : Step} {report : Report} {d : Driver σ} {deed : Deed}
    {op : Operation σ (Except Fault α)} {s s' : Scene (Watched σ)} {result : Except InstallError α}
    (h : Installer.perform ctx step report (op.watched d deed) s = some (result, s')) :
    ∃ answered log, Adds s s' log ∧ Asked d deed answered log ∧
      (result.isOk = true → answered = true) ∧ ∀ e, result = .error e → e.step? = some step := by
  obtain ⟨⟨r, m⟩, hrun, hpair⟩ := Option.map_eq_some_iff.mp h
  obtain ⟨log, hadds, hasked⟩ := run_asked hrun
  rcases r with cause | ⟨f | a⟩ <;> cases hpair
  · exact ⟨_, log, hadds, hasked, fun hok => (by cases hok), by rintro _ ⟨⟩; rfl⟩
  · exact ⟨_, log, hadds, hasked, fun hok => (by cases hok), by rintro _ ⟨⟩; rfl⟩
  · exact ⟨_, log, hadds, hasked, fun _ => rfl, by rintro _ ⟨⟩⟩

theorem sleep_log {ctx : Context} {time : Span} {s s' : Scene (Watched σ)}
    {r : Except Interruption Unit} (h : ctx.sleep time s = some (r, s')) : Adds s s' [] :=
  (congrArg Watched.log (Context.sleep_world h)).trans (List.append_nil _).symm

/-! ## Calls for the host -/

/-- A dispatch goes to the drivers that back the call. -/
theorem dispatch_tried (ctx : Context) (registry : List (Driver σ)) (client : Option Span) (c : Call)
    (s : Scene (Watched σ)) :
    let D := dispatch ctx (registry.map Driver.watched) client c s
    ∃ log, Adds s D.scene log ∧ Tried registry c D.result.isOk log := by
  intro D
  obtain ⟨turns, log, h⟩ := dispatch_inTurn ctx registry client c s
  obtain ⟨rest, hdrivers, -⟩ := h.order
  refine ⟨log, h.adds, turns, ⟨rest, hdrivers.symm⟩, h.events, ?_⟩
  have hok := h.ok_iff
  cases hresult : D.result with
  | ok a =>
      obtain ⟨earlier, last, hturns⟩ := (hok a).mp hresult
      exact ⟨fun _ => ⟨earlier, last, a, hturns⟩, fun _ => rfl⟩
  | error e =>
      refine ⟨fun hok => (by cases hok), ?_⟩
      rintro ⟨earlier, last, a, hturns⟩
      cases hresult.symm.trans ((hok a).mpr ⟨earlier, last, hturns⟩)

section Step

variable {i : Installer σ} {ctx : Context} {step : Step} {report : Report}
  {s s' : Scene (Watched σ)}

theorem control_tried {c : Call} {result : Except InstallError Unit}
    (h : i.watched.control ctx step report c s = (result, s')) :
    ∃ log, Adds s s' log ∧ Tried i.host.registry c result.isOk log ∧
      ∀ e, result = .error e → e.step? = some step := by
  obtain ⟨log, hadds, htried⟩ := dispatch_tried ctx i.host.registry i.host.config.perProvider c s
  cases control_went h with
  | accepted hD hresult =>
      cases hD
      exact ⟨log, hadds, congrArg Except.isOk hresult ▸ htried, by rintro _ ⟨⟩⟩
  | refused hD hresult =>
      cases hD
      refine ⟨log, hadds, congrArg Except.isOk hresult ▸ htried, ?_⟩
      rintro _ ⟨⟩
      rfl

/-! ## Waits -/

/-- What a poll that goes on in this way leaves in the log. -/
def Installer.Turn.Fits (d : Driver σ) (host : List (Driver σ)) (question : Call) (step : Step)
    (report : Report) (log : List (Event σ)) : Installer.Turn → Prop
  | .finish result => LastLog d host question result.isOk log ∧ Settled step report 1 result
  | .again report' _ _ => RoundLog d question log ∧ report.Polled 1 report'

variable {op : Operation σ (Except Fault Status)} {question : Call} {turn : Installer.Turn}

theorem login_asked {k : Connection (Watched σ)} {r : Except Interruption (Except Fault Unit)}
    (hk : i.watched.driver.capabilities.connection = some k)
    (h : ctx.run k.login s = some (r, s')) :
    ∃ log, Adds s s' log ∧ Asked i.driver .login r.isOk log := by
  obtain ⟨connection, -, rfl⟩ := Option.map_eq_some_iff.mp hk
  exact run_asked h

theorem reopen_fits {expired : Fault} {polled : Report} {log : List (Event σ)}
    (hpolled : report.Polled 1 polled) (hpoll : Asked i.driver (.call question) true log)
    (h : ReopenWent i.watched ctx step polled expired s turn s') :
    ∃ more, Adds s s' more ∧
      turn.Fits i.driver i.host.registry question step report (log ++ more) := by
  cases h with
  | disconnected =>
      refine ⟨[], .refl s, ?_⟩
      rw [List.append_nil]
      exact ⟨.failed hpoll, rfl⟩
  | opened hk hrun | unreachable hk hrun _ =>
      obtain ⟨more, hadds, hlogin⟩ := login_asked hk hrun
      exact ⟨more, hadds, .reopened hpoll hlogin, hpolled⟩
  | refused hk hrun _ | interrupted hk hrun =>
      obtain ⟨more, hadds, hlogin⟩ := login_asked hk hrun
      exact ⟨more, hadds, .reopened hpoll hlogin, rfl⟩

theorem obey_fits {status : Status} {polled : Report} {log : List (Event σ)}
    (hpolled : report.Polled 1 polled) (hpoll : Asked i.driver (.call question) true log)
    (h : ObeyWent i.watched ctx step polled status s turn s') :
    ∃ more, Adds s s' more ∧
      turn.Fits i.driver i.host.registry question step report (log ++ more) := by
  have hnoted : report.Polled 1 { polled with last := some status } :=
    ⟨hpolled.driver, hpolled.steps, hpolled.polls⟩
  have hquiet : ∀ {turn : Installer.Turn}, turn.Fits i.driver i.host.registry question step report log →
      ∃ more, Adds s s more ∧
        turn.Fits i.driver i.host.registry question step report (log ++ more) := by
    intro turn hfits
    refine ⟨[], .refl s, ?_⟩
    rwa [List.append_nil]
  cases h with
  | complete => exact hquiet ⟨.polled hpoll fun _ => rfl, hnoted⟩
  | failed => exact hquiet ⟨.failed hpoll, rfl⟩
  | @controlled c r m hc hcontrol =>
      obtain ⟨more, hadds, htried, herror⟩ := control_tried hcontrol
      have hc' : c = .powerSet .cycle ∨ c = .bmcReset .warm := hc.imp And.right And.right
      cases r with
      | ok => exact ⟨more, hadds, .controlled hpoll hc' htried, hnoted⟩
      | error e => exact ⟨more, hadds, .controlled hpoll hc' htried, herror e rfl⟩
  | pending => exact hquiet ⟨.polled hpoll, hnoted⟩

/-- **A poll** is asked of the driver, and what follows from its answer. -/
theorem poll_fits {reopened : Bool}
    (h : i.watched.poll ctx step (op.watched i.driver (.call question)) reopened report s =
      some (turn, s')) :
    ∃ log, Adds s s' log ∧ turn.Fits i.driver i.host.registry question step report log := by
  have hpolled : report.Polled 1 { report with polls := report.polls + 1 } := ⟨rfl, rfl, rfl⟩
  cases poll_went h with
  | interrupted hrun | refused hrun _ _ =>
      obtain ⟨log, hadds, hasked⟩ := run_asked hrun
      exact ⟨log, hadds, .failed hasked, rfl⟩
  | unreachable hrun _ =>
      obtain ⟨log, hadds, hasked⟩ := run_asked hrun
      exact ⟨log, hadds, .polled hasked, hpolled⟩
  -- What follows after an answer adds to the log of the poll.
  | answered hrun hobey =>
      obtain ⟨log, hadds, hasked⟩ := run_asked hrun
      obtain ⟨more, hadds', hfits⟩ := obey_fits hpolled hasked hobey
      exact ⟨log ++ more, hadds.trans hadds', hfits⟩
  | expired hrun _ _ hreopen =>
      obtain ⟨log, hadds, hasked⟩ := run_asked hrun
      obtain ⟨more, hadds', hfits⟩ := reopen_fits hpolled hasked hreopen
      exact ⟨log ++ more, hadds.trans hadds', hfits⟩

theorem rounds_log {n : Nat} {x y : Installer.Stage (Watched σ)}
    (h : i.watched.Rounds ctx step (op.watched i.driver (.call question)) n x y) :
    ∃ logs : List (List (Event σ)), logs.length = n ∧ Adds x.scene y.scene logs.flatten ∧
      (∀ log ∈ logs, RoundLog i.driver question log) ∧ x.report.Polled n y.report := by
  induction h with
  | refl x => exact ⟨[], rfl, .refl _, by simp, rfl, rfl, rfl⟩
  | @next n x y report after reopened m m' hpoll hsleep _ ih =>
      obtain ⟨log, hadds, hround, hpolled⟩ := poll_fits hpoll
      obtain ⟨logs, hlength, hmore, hrounds, hpolls⟩ := ih
      refine ⟨log :: logs, by rw [List.length_cons, hlength], ?_, ?_, ?_⟩
      · rw [List.flatten_cons]
        exact hadds.trans ((sleep_log hsleep).trans hmore)
      · simp only [List.mem_cons, forall_eq_or_imp]
        exact ⟨hround, hrounds⟩
      · rw [Nat.add_comm]
        exact hpolled.trans hpolls

theorem lastRound_log {x : Installer.Stage (Watched σ)} {result : Except InstallError Report}
    (h : i.watched.LastRound ctx step (op.watched i.driver (.call question)) x result s') :
    ∃ log, Adds x.scene s' log ∧ LastLog i.driver i.host.registry question result.isOk log ∧
      Settled step x.report 1 result := by
  cases h with
  | decided hpoll =>
      obtain ⟨log, hadds, hlast, hsettled⟩ := poll_fits hpoll
      exact ⟨log, hadds, hlast, hsettled⟩
  | interrupted hpoll hsleep =>
      obtain ⟨log, hadds, hround, -⟩ := poll_fits hpoll
      have hlog : Adds x.scene s' (log ++ []) := hadds.trans (sleep_log hsleep)
      rw [List.append_nil] at hlog
      refine ⟨log, hlog, ?_, rfl⟩
      cases hround with
      | polled hasked => exact .failed hasked
      | reopened hasked hlogin => exact .reopened hasked hlogin

/-! ## Steps -/

/-- What a step leaves in the log that answers `result`. -/
def StepSettled (i : Installer σ) (step : Step) (report : Report) (s s' : Scene (Watched σ))
    (result : Except InstallError Report) (log : List (Event σ)) : Prop :=
  Adds s s' log ∧ StepLog i report step result.isOk log ∧
    Settled step report (Event.polls log) result

theorem order_settled {c : Call} {note : c.Answer → Report} {result : Except InstallError Report}
    (hcall : i.call? report step = some c) (hpoll : (Deed.call c).isPoll = false)
    (h : (i.watched.require ctx step report c s).map (fun (r, s) => (r.map note, s)) =
      some (result, s')) (hnote : ∀ answer, report.Polled 0 (note answer)) :
    ∃ log, StepSettled i step report s s' result log := by
  obtain ⟨r, hwent, rfl⟩ := Installer.order_went h
  cases hwent with
  | missing hmissing => exact ⟨[], .refl _, .missing hcall hmissing, rfl⟩
  | performed hr =>
      obtain ⟨answered, log, hadds, hasked, hok, herror⟩ := perform_asked hr
      have hzero : Event.polls log = 0 := hasked.polls_eq_zero hpoll
      refine ⟨log, hadds, .asked hcall hpoll hasked ?_, ?_⟩
      · intro hresult
        cases r with
        | ok a => exact hok rfl
        | error e => cases hresult
      · rw [hzero]
        cases r with
        | ok a => exact hnote a
        | error e => exact herror e rfl

theorem wait_settled {kind : TaskKind} {task : String} {result : Except InstallError Report}
    (hcall : i.call? report step =
      some (.firmwareTaskStatus kind i.job.component task i.job.version))
    (h : i.watched.awaitTask ctx step kind task report s = some (result, s')) :
    ∃ log, StepSettled i step report s s' result log := by
  cases Installer.awaitTask_went h with
  | missing hmissing => exact ⟨[], .refl _, .missing hcall hmissing, rfl⟩
  | waited _ hquestion hrounds hlast =>
      subst hquestion
      obtain ⟨logs, hlength, hadds, hlogs, hpolled⟩ := rounds_log hrounds
      obtain ⟨last, hadds', hlog, hsettled⟩ := lastRound_log hlast
      refine ⟨logs.flatten ++ last, hadds.trans hadds', .waited hcall rfl hlogs hlog, ?_⟩
      -- A wait that failed may have begun no last poll, but then nothing is said of polls.
      have hsum := hsettled.after hpolled
      rw [Event.polls_append, polls_flatten hlogs rfl, hlength]
      cases result with
      | ok report' => rwa [hlog.polls rfl]
      | error e => exact hsum

theorem host_settled {c : Call} {r : Except InstallError Unit} (hcall : hostCall? step = some c)
    (hc : (Deed.call c).isControl = true) (h : i.watched.control ctx step report c s = (r, s')) :
    ∃ log, StepSettled i step report s s' (r.map fun () => report) log := by
  obtain ⟨log, hadds, htried, herror⟩ := control_tried h
  refine ⟨log, hadds, ?_, ?_⟩
  · cases r with
    | ok => exact .tried hcall htried
    | error e => exact .tried hcall htried
  · rw [htried.polls hc]
    cases r with
    | ok => exact ⟨rfl, rfl, rfl⟩
    | error e => exact herror e rfl

/-- **A step** that has an end. -/
theorem step_settled {result : Except InstallError Report} (hstep : step ≠ .resetBmcOnFailure)
    (h : i.watched.step ctx report s step = some (result, s')) :
    ∃ log, StepSettled i step report s s' result log := by
  cases step with
  | upload => exact order_settled rfl rfl h fun _ => ⟨rfl, rfl, rfl⟩
  | uploadAndInitiateInstall => exact order_settled rfl rfl h fun _ => ⟨rfl, rfl, rfl⟩
  | install => exact order_settled rfl rfl h fun _ => ⟨rfl, rfl, rfl⟩
  | installFromUploaded => exact order_settled rfl rfl h fun _ => ⟨rfl, rfl, rfl⟩
  | uploadStatus => exact wait_settled rfl h
  | installStatus => exact wait_settled rfl h
  | powerOffHost =>
      cases h
      exact host_settled rfl rfl rfl
  | resetBmcPostInstall =>
      cases h
      exact host_settled rfl rfl rfl
  | resetBmcOnFailure => exact absurd rfl hstep

end Step

/-! ## Rows of steps -/

/-- The steps before `step` are done, and `step` fails with the error `e`. -/
def Installer.FailsAt (i : Installer σ) (ctx : Context) (steps : List Step) (report : Report)
    (s : Scene σ) (step : Step) (e : InstallError) (s' : Scene σ) : Prop :=
  ∃ done rest mid m, steps = done ++ step :: rest ∧
    i.runSteps ctx done report s = some (.ok mid, m) ∧ i.step ctx mid m step = some (.error e, s')

section Row

variable {i : Installer σ} {ctx : Context} {step : Step} {steps : List Step}
  {report next : Report} {s m s' : Scene σ} {e : InstallError}

/-- The error of a step names the step. -/
theorem step_names (h : i.step ctx report s step = some (.error e, s')) : e.step? = some step := by
  have hstep : step ≠ .resetBmcOnFailure := by
    rintro rfl
    cases h
  -- Watched, the step fails with the same error.
  have hplain : (i.watched.step ctx report (s.watched []) step).map Scene.unwatch =
      i.step ctx report s step := step_plain
  rw [h] at hplain
  obtain ⟨⟨r, m⟩, hran, hpair⟩ := Option.map_eq_some_iff.mp hplain
  cases hpair
  obtain ⟨log, -, -, hsettled⟩ := step_settled hstep hran
  exact hsettled

/-- A step that succeeds is followed by the rest. -/
theorem runSteps_cons (h : i.step ctx report s step = some (.ok next, m)) :
    i.runSteps ctx (step :: steps) report s =
      i.runSteps ctx steps { next with steps := next.steps ++ [step] } m := by
  rw [Installer.runSteps, h]

/-- A step that fails is the last one. -/
theorem runSteps_error (h : i.step ctx report s step = some (.error e, s')) :
    i.runSteps ctx (step :: steps) report s = some (.error e, s') := by
  rw [Installer.runSteps, h]

/-- A row of steps fails at one of them. -/
theorem runSteps_failsAt (h : i.runSteps ctx steps report s = some (.error e, s')) :
    ∃ step, i.FailsAt ctx steps report s step e s' := by
  induction steps generalizing report s with
  | nil => cases h
  | cons first steps ih =>
      cases hfirst : i.step ctx report s first with
      | none =>
          rw [Installer.runSteps, hfirst] at h
          cases h
      | some p =>
          obtain ⟨e' | next, m⟩ := p
          · cases (runSteps_error hfirst).symm.trans h
            exact ⟨first, [], steps, report, s, rfl, rfl, hfirst⟩
          · rw [runSteps_cons hfirst] at h
            obtain ⟨step, done, rest, mid, m', hsteps, hdone, hstep⟩ := ih h
            refine ⟨step, first :: done, rest, mid, m', by rw [hsteps]; rfl, ?_, hstep⟩
            rw [runSteps_cons hfirst]
            exact hdone

end Row

end OutOfBand.Client
