import OutOfBand.Client.Install

/-!
# How a poll goes

All that can come of a poll, guards included: of the answer of the task (`PollWent`), of what the
state of the task asks for (`ObeyWent`), of a dispatch for the host (`ControlWent`), and of opening
the session again after it has expired (`ReopenWent`). What is to be known of a poll is told from
these cases.
-/

namespace OutOfBand.Client

open Firmware

variable {i : Installer σ} {ctx : Context} {step : Step} {report : Report} {s s' : Scene σ}
  {turn : Installer.Turn}

/-- What comes of a call for the host: the one dispatch decides it. -/
inductive ControlWent (i : Installer σ) (ctx : Context) (step : Step) (report : Report) (c : Call)
    (s : Scene σ) : Except InstallError Unit → Scene σ → Prop
  | accepted {D : Dispatched σ c.Outcome} {a} :
      dispatch ctx i.host.registry i.host.config.perProvider c s = D → D.result = .ok a →
      ControlWent i ctx step report c s (.ok ()) D.scene
  | refused {D : Dispatched σ c.Outcome} {e} :
      dispatch ctx i.host.registry i.host.config.perProvider c s = D → D.result = .error e →
      ControlWent i ctx step report c s (.error (.hostControl step e report.lastStatus)) D.scene

/-- What comes of opening the session again. -/
inductive ReopenWent (i : Installer σ) (ctx : Context) (step : Step) (report : Report)
    (expired : Fault) (s : Scene σ) : Installer.Turn → Scene σ → Prop
  /-- The driver has no session that could be opened. -/
  | disconnected : i.driver.capabilities.connection = none →
      ReopenWent i ctx step report expired s
        (.finish (.error (.provider step expired report.lastStatus))) s
  | opened {k m} : i.driver.capabilities.connection = some k →
      ctx.run k.login s = some (.ok (.ok ()), m) →
      ReopenWent i ctx step report expired s (.again report i.pacing.interval true) m
  | unreachable {k f m} : i.driver.capabilities.connection = some k →
      ctx.run k.login s = some (.ok (.error f), m) → f.isTransient = true →
      ReopenWent i ctx step report expired s (.again report i.pacing.backoff false) m
  | refused {k f m} : i.driver.capabilities.connection = some k →
      ctx.run k.login s = some (.ok (.error f), m) → f.isTransient = false →
      ReopenWent i ctx step report expired s
        (.finish (.error (.provider step f report.lastStatus))) m
  | interrupted {k cause m} : i.driver.capabilities.connection = some k →
      ctx.run k.login s = some (.error cause, m) →
      ReopenWent i ctx step report expired s
        (.finish (.error (.interrupted step cause report.lastStatus))) m

/-- What comes of obeying the state of a task. -/
inductive ObeyWent (i : Installer σ) (ctx : Context) (step : Step) (report : Report)
    (status : Status) (s : Scene σ) : Installer.Turn → Scene σ → Prop
  | complete : status.state = .complete →
      ObeyWent i ctx step report status s (.finish (.ok { report with last := some status })) s
  | failed : status.state = .failed →
      ObeyWent i ctx step report status s (.finish (.error (.stepFailed step status))) s
  /-- The task is done once the host is switched or the controller reset. -/
  | controlled {c r m} :
      status.state = .powerCycleHost ∧ c = .powerSet .cycle ∨
        status.state = .powerCycleBmc ∧ c = .bmcReset .warm →
      i.control ctx step { report with last := some status } c s = (r, m) →
      ObeyWent i ctx step report status s
        (.finish (r.map fun () => { report with last := some status })) m
  | pending : status.state ∈ [.initializing, .queued, .running, .unknown] →
      ObeyWent i ctx step report status s
        (.again { report with last := some status } i.pacing.interval false) s

/-- What comes of a poll. -/
inductive PollWent (i : Installer σ) (ctx : Context) (step : Step)
    (question : Operation σ (Except Fault Status)) (reopened : Bool) (report : Report)
    (s : Scene σ) : Installer.Turn → Scene σ → Prop
  | interrupted {cause m} : ctx.run question s = some (.error cause, m) →
      PollWent i ctx step question reopened report s
        (.finish (.error (.interrupted step cause report.lastStatus))) m
  | answered {status m turn s'} : ctx.run question s = some (.ok (.ok status), m) →
      ObeyWent i ctx step { report with polls := report.polls + 1 } status m turn s' →
      PollWent i ctx step question reopened report s turn s'
  | unreachable {f m} : ctx.run question s = some (.ok (.error f), m) → f.isTransient = true →
      PollWent i ctx step question reopened report s
        (.again { report with polls := report.polls + 1 } i.pacing.backoff false) m
  /-- The session has expired, and was not just opened. -/
  | expired {f m turn s'} : ctx.run question s = some (.ok (.error f), m) →
      f.isSessionExpired = true → reopened = false →
      ReopenWent i ctx step { report with polls := report.polls + 1 } f m turn s' →
      PollWent i ctx step question reopened report s turn s'
  | refused {f m} : ctx.run question s = some (.ok (.error f), m) → f.isTransient = false →
      (f.isSessionExpired = true → reopened = true) →
      PollWent i ctx step question reopened report s
        (.finish (.error (.provider step f report.lastStatus))) m

theorem control_went {c : Call} {result : Except InstallError Unit}
    (h : i.control ctx step report c s = (result, s')) :
    ControlWent i ctx step report c s result s' := by
  unfold Installer.control at h
  cases hresult : (dispatch ctx i.host.registry i.host.config.perProvider c s).result with
  | ok a =>
      simp only [hresult] at h
      cases h
      exact .accepted rfl hresult
  | error e =>
      simp only [hresult] at h
      cases h
      exact .refused rfl hresult

theorem reopen_went {expired : Fault}
    (h : i.reopen ctx step report expired s = some (turn, s')) :
    ReopenWent i ctx step report expired s turn s' := by
  unfold Installer.reopen at h
  cases hconnection : i.driver.capabilities.connection with
  | none =>
      simp only [hconnection] at h
      cases h
      exact .disconnected hconnection
  | some k =>
      simp only [hconnection] at h
      obtain ⟨⟨r, m⟩, hrun, hpair⟩ := Option.map_eq_some_iff.mp h
      rcases r with cause | ⟨f | ⟨⟩⟩
      · cases hpair
        exact .interrupted hconnection hrun
      · cases htransient : f.isTransient with
        | true =>
            simp only [htransient, if_true] at hpair
            cases hpair
            exact .unreachable hconnection hrun htransient
        | false =>
            simp only [htransient, Bool.false_eq_true, if_false] at hpair
            cases hpair
            exact .refused hconnection hrun htransient
      · cases hpair
        exact .opened hconnection hrun

theorem obey_went {status : Status} (h : i.obey ctx step report status s = (turn, s')) :
    ObeyWent i ctx step report status s turn s' := by
  unfold Installer.obey at h
  cases hstate : status.state <;> simp only [hstate] at h <;> cases h
  case complete.refl => exact .complete hstate
  case failed.refl => exact .failed hstate
  case powerCycleHost.refl => exact .controlled (.inl ⟨hstate, rfl⟩) rfl
  case powerCycleBmc.refl => exact .controlled (.inr ⟨hstate, rfl⟩) rfl
  all_goals exact .pending (by simp [hstate])

/-- **All that can come of a poll.** -/
theorem poll_went {question : Operation σ (Except Fault Status)} {reopened : Bool}
    (h : i.poll ctx step question reopened report s = some (turn, s')) :
    PollWent i ctx step question reopened report s turn s' := by
  unfold Installer.poll at h
  cases hrun : ctx.run question s with
  | none => simp [hrun] at h
  | some p =>
      obtain ⟨r, m⟩ := p
      rcases r with cause | ⟨f | status⟩ <;> simp only [hrun] at h
      · cases h
        exact .interrupted hrun
      · split at h
        · rename_i htransient
          cases h
          exact .unreachable hrun htransient
        · rename_i htransient
          split at h
          · rename_i hexpired
            have hexpired' : f.isSessionExpired = true ∧ reopened = false := by
              simpa using hexpired
            exact .expired hrun hexpired'.1 hexpired'.2 (reopen_went h)
          · rename_i hexpired
            cases h
            exact .refused hrun (Bool.eq_false_iff.mpr htransient) (by simpa using hexpired)
      · exact .answered hrun (obey_went (Option.some.inj h))

end OutOfBand.Client
