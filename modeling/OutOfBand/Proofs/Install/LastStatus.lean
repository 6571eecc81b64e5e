import OutOfBand.Proofs.Install.Account

/-!
# What a task answered last

An install that fails says what a task answered last, and so does the report of one that succeeds.
Whether that is true is told by a world in which somebody takes down every answer of a task
(`Attested`). From the first step to the last the report has the latest of these answers, and every
error is made from the report (`install_recalls`).
-/

namespace OutOfBand

open Firmware

/-! ## Worlds with the answers of tasks -/

/-- A world with what tasks answered in it when they were asked for their state, oldest first. -/
structure Attested (σ : Type) where
  world : σ
  answers : List Status := []

/-- The state of a task that an answer to a call tells, if it does. -/
def Call.attests : (c : Call) → c.Answer → Option Status
  | .firmwareTaskStatus .., status => some status
  | _, _ => none

/-- What there is to take down of an answer. -/
def attested (f : α → Option Status) : Except Fault α → List Status
  | .ok a => (f a).toList
  | .error _ => []

def Attested.put (w : σ) (v : Attested σ) : Attested σ := ⟨w, v.answers⟩

/-- The work of a driver, whose answer is taken down if it tells the state of a task. -/
def Operation.attested (f : α → Option Status) (op : Operation σ (Except Fault α)) :
    Operation (Attested σ) (Except Fault α) := fun now w =>
  let p := op now w.world
  { world := ⟨p.world, w.answers⟩
    lag := p.lag
    finish v := let (r, u) := p.finish v.world; (r, ⟨u, v.answers ++ OutOfBand.attested f r⟩) }

def Driver.attested (d : Driver σ) : Driver (Attested σ) where
  offer := d.offer
  capabilities :=
    { d.capabilities.within Attested.world Attested.put with
      handle := fun c => (d.capabilities.handle c).attested c.attests }

/-- The run in a world in which no task has answered yet. -/
def Run.attested (run : Run σ) : Run (Attested σ) :=
  ⟨⟨run.now, { world := run.world }⟩, run.record⟩

/-- What tasks answered up to the scene, oldest first. -/
def Scene.answers (s : Scene (Attested σ)) : List Status := s.world.answers

/-- A world with the answers of tasks is a larger world. -/
def attesting : Larger σ (Attested σ) where
  part := Attested.world
  driver := Driver.attested
  offer _ := rfl
  backs _ := rfl
  connection d := by
    rw [Driver.attested, Capabilities.within]
    cases d.capabilities.connection with
    | none => exact .none
    | some k =>
        have hput : ∀ (w : σ) v, (Attested.put w v).world = w := fun _ _ => rfl
        exact .some ⟨k.login.extends_within hput, k.logout.extends_within hput,
          k.probe.extends_within hput⟩
  handle d c := ⟨fun _ _ => rfl, fun _ _ => rfl, fun _ _ _ => rfl⟩

/-- Work that takes down `add a` when it comes to the answer `a`. -/
structure Operation.Attests (op : Operation (Attested σ) α) (add : α → List Status) : Prop where
  begun : ∀ now w, (op now w).world.answers = w.answers
  ended : ∀ now w v, ((op now w).finish v).2.answers =
    v.answers ++ add ((op now w).finish v).1

theorem Operation.attests_attested (f : α → Option Status) (op : Operation σ (Except Fault α)) :
    (op.attested f).Attests (OutOfBand.attested f) :=
  ⟨fun _ _ => rfl, fun _ _ _ => rfl⟩

theorem Operation.attests_within (op : Operation σ α) :
    (op.within Attested.world Attested.put).Attests fun _ => [] :=
  ⟨fun _ _ => rfl, fun _ _ _ => (List.append_nil _).symm⟩

/-- Work of which nothing is taken down, whatever its answer is taken for. -/
theorem Operation.Attests.map {op : Operation (Attested σ) α} (h : op.Attests fun _ => [])
    (f : α → β) : (op.map f).Attests fun _ => [] :=
  ⟨h.begun, h.ended⟩

section Context

variable {ctx : Context} {op : Operation (Attested σ) α} {s s' : Scene (Attested σ)}
  {r : Except Interruption α}

theorem run_attests {add : α → List Status} (h : op.Attests add)
    (hrun : ctx.run op s = some (r, s')) :
    s'.answers = s.answers ++ match r with
      | .ok a => add a
      | .error _ => [] := by
  cases Context.run_went hrun with
  | done => exact (List.append_nil _).symm
  | cut => exact (h.begun s.now s.world).trans (List.append_nil _).symm
  | ended _ _ _ hfinish =>
      have hended := h.ended s.now s.world (op s.now s.world).world
      rwa [h.begun, hfinish] at hended

theorem run_silent (h : op.Attests fun _ => []) (hrun : ctx.run op s = some (r, s')) :
    s'.answers = s.answers := by
  rw [run_attests h hrun]
  cases r <;> exact List.append_nil _

theorem attempt_silent (h : op.Attests fun _ => []) (time : Span) :
    (ctx.attempt time op s).2.answers = s.answers :=
  run_silent h (Context.run_limited ctx time op s)

end Context

namespace Client

/-! ## Parts of an install that ask no task -/

/-- A call that asks no task for its state. -/
def Silent (c : Call) : Prop := ∀ a, c.attests a = none

theorem Silent.handle {c : Call} (h : Silent c) (d : Driver σ) :
    (d.attested.capabilities.handle c).Attests fun _ => [] where
  begun := ((d.capabilities.handle c).attests_attested c.attests).begun
  ended now w v := by
    refine (((d.capabilities.handle c).attests_attested c.attests).ended now w v).trans ?_
    congr 1
    cases (((d.capabilities.handle c).attested c.attests now w).finish v).1 with
    | error f => rfl
    | ok a => simp [attested, h a]

theorem tryEach_silent {c : Call} (h : Silent c) (ctx : Context) (operation : String) (time : Span)
    (drivers : List (Driver σ)) (failures : List Failure) (record : Metadata)
    (s : Scene (Attested σ)) :
    (Dispatched.tryEach ctx operation time
      ((drivers.map Driver.attested).map fun d => ⟨d.name, work d c⟩) failures record s).scene.answers =
      s.answers := by
  -- One driver after another leaves the answers as the one before it has found them.
  induction drivers generalizing failures record s with
  | nil => rfl
  | cons d ds ih =>
      have hwork : (work d.attested c).Attests fun _ => [] := (h.handle d).map _
      have hattempt : (ctx.attempt time (work d.attested c) s).2.answers = s.answers :=
        attempt_silent hwork time
      simp only [List.map_cons, Dispatched.tryEach]
      generalize ctx.attempt time (work d.attested c) s = p at hattempt ⊢
      obtain ⟨r, m⟩ := p
      rcases r with cause | ⟨f | a⟩
      · simp only
        cases ctx.error? m.now with
        | some cause => exact hattempt
        | none => exact (ih _ _ m).trans hattempt
      · exact (ih _ _ m).trans hattempt
      · exact hattempt

/-- A dispatch of such a call leaves the answers as they are. -/
theorem dispatch_silent {c : Call} (h : Silent c) (ctx : Context) (registry : List (Driver σ))
    (client : Option Span) (s : Scene (Attested σ)) :
    (dispatch ctx (registry.map Driver.attested) client c s).scene.answers = s.answers := by
  unfold dispatch
  cases ctx.error? s.now with
  | some cause => rfl
  | none =>
      have heligible : eligible (registry.map Driver.attested) c =
          (eligible registry c).map Driver.attested := eligible_larger attesting registry c
      simp only [heligible]
      cases eligible registry c with
      | nil => rfl
      | cons d ds => exact tryEach_silent h ctx _ _ (d :: ds) [] {} s

/-! ## Reports and errors that have the latest answer -/

/-- What a task answered last, as an error tells it, if it does. -/
def InstallError.last? : InstallError → Option Status
  | provider _ _ last | stepFailed _ last | hostControl _ _ last | interrupted _ _ last => some last
  | steps _ _ _ | noSteps _ _ | missingCapability _ _ _ => none

/-- The latest of these answers; an unknown state if there is none. -/
def latestStatus (answers : List Status) : Status := answers.getLast?.getD ⟨.unknown, ""⟩

/-- The error tells nothing, or the latest of these answers. -/
def InstallError.Recalls (answers : List Status) (e : InstallError) : Prop :=
  ∀ last, e.last? = some last → last = latestStatus answers

/-- The report has the latest of these answers. -/
def Report.Recalls (answers : List Status) (report : Report) : Prop :=
  report.last = answers.getLast?

/-- What comes of a part of an install has the latest of these answers. -/
def Recalled (answers : List Status) : Except InstallError Report → Prop
  | .ok report => report.Recalls answers
  | .error e => e.Recalls answers

def Installer.Turn.Recalls (answers : List Status) : Installer.Turn → Prop
  | .finish result => Recalled answers result
  | .again report _ _ => report.Recalls answers

section Recalls

variable {answers : List Status} {report : Report}

theorem Report.Recalls.lastStatus (h : report.Recalls answers) :
    report.lastStatus = latestStatus answers := by
  rw [Report.lastStatus, h, latestStatus]

theorem Report.Recalls.provider (h : report.Recalls answers) (step : Step) (f : Fault) :
    (InstallError.provider step f report.lastStatus).Recalls answers := by
  rintro _ ⟨⟩
  exact h.lastStatus

theorem Report.Recalls.hostControl (h : report.Recalls answers) (step : Step) (e : CallError) :
    (InstallError.hostControl step e report.lastStatus).Recalls answers := by
  rintro _ ⟨⟩
  exact h.lastStatus

theorem Report.Recalls.interrupted (h : report.Recalls answers) (step : Step)
    (cause : Interruption) :
    (InstallError.interrupted step cause report.lastStatus).Recalls answers := by
  rintro _ ⟨⟩
  exact h.lastStatus

/-- The answer just taken down is the latest one. -/
theorem Report.recalls_noted (report : Report) (status : Status) :
    { report with last := some status }.Recalls (answers ++ [status]) :=
  List.getLast?_concat.symm

end Recalls

/-! ## Waits -/

section Wait

variable {i : Installer σ} {ctx : Context} {step : Step} {report : Report}
  {s s' : Scene (Attested σ)} {turn : Installer.Turn}

theorem perform_recalls {op : Operation (Attested σ) (Except Fault α)}
    {result : Except InstallError α} (hop : op.Attests fun _ => [])
    (hreport : report.Recalls s.answers)
    (h : Installer.perform ctx step report op s = some (result, s')) :
    s'.answers = s.answers ∧ ∀ e, result = .error e → e.Recalls s'.answers := by
  obtain ⟨⟨r, m⟩, hrun, hpair⟩ := Option.map_eq_some_iff.mp h
  have hsilent : m.answers = s.answers := run_silent hop hrun
  rw [← hsilent] at hreport
  rcases r with cause | ⟨f | a⟩ <;> cases hpair <;> refine ⟨hsilent, ?_⟩
  · rintro _ ⟨⟩
    exact hreport.interrupted step cause
  · rintro _ ⟨⟩
    exact hreport.provider step f
  · rintro _ ⟨⟩

theorem control_recalls {c : Call} {result : Except InstallError Unit} (hc : Silent c)
    (hreport : report.Recalls s.answers)
    (h : (i.larger attesting).control ctx step report c s = (result, s')) :
    Recalled s'.answers (result.map fun () => report) := by
  have hsilent := dispatch_silent hc ctx i.host.registry i.host.config.perProvider s
  rw [← hsilent] at hreport
  cases control_went h with
  | accepted hD =>
      cases hD
      exact hreport
  | refused hD =>
      cases hD
      exact hreport.hostControl step _

theorem sleep_silent {time : Span} {r : Except Interruption Unit}
    (h : ctx.sleep time s = some (r, s')) : s'.answers = s.answers :=
  congrArg Attested.answers (Context.sleep_world h)

theorem login_silent {k : Connection (Attested σ)} {r : Except Interruption (Except Fault Unit)}
    (hk : (i.larger attesting).driver.capabilities.connection = some k)
    (h : ctx.run k.login s = some (r, s')) : s'.answers = s.answers := by
  obtain ⟨connection, -, rfl⟩ := Option.map_eq_some_iff.mp hk
  exact run_silent connection.login.attests_within h

theorem reopen_recalls {expired : Fault} (hreport : report.Recalls s.answers)
    (h : ReopenWent (i.larger attesting) ctx step report expired s turn s') :
    turn.Recalls s'.answers := by
  cases h with
  | disconnected => exact hreport.provider step expired
  | opened hk hrun | unreachable hk hrun _ =>
      rw [← login_silent hk hrun] at hreport
      exact hreport
  | refused hk hrun _ =>
      rw [← login_silent hk hrun] at hreport
      exact hreport.provider step _
  | interrupted hk hrun =>
      rw [← login_silent hk hrun] at hreport
      exact hreport.interrupted step _

/-- Whatever an answer asks for, the report has taken it down before. -/
theorem obey_recalls {status : Status} {answers : List Status}
    (hs : s.answers = answers ++ [status])
    (h : ObeyWent (i.larger attesting) ctx step report status s turn s') :
    turn.Recalls s'.answers := by
  have hnoted : { report with last := some status }.Recalls s.answers := by
    rw [hs]
    exact report.recalls_noted status
  cases h with
  | complete => exact hnoted
  | failed =>
      rintro _ ⟨⟩
      exact hnoted.lastStatus
  | @controlled c r m hc hcontrol =>
      have hsilent : Silent c := by
        rcases hc with ⟨-, rfl⟩ | ⟨-, rfl⟩ <;> exact fun _ => rfl
      exact control_recalls hsilent hnoted hcontrol
  | pending => exact hnoted

variable {question : Operation (Attested σ) (Except Fault Status)}

/-- **A poll**: what goes on from it, or comes of it, has the latest answer. -/
theorem poll_recalls {reopened : Bool} (hquestion : question.Attests (attested some))
    (hreport : report.Recalls s.answers)
    (h : (i.larger attesting).poll ctx step question reopened report s = some (turn, s')) :
    turn.Recalls s'.answers := by
  -- A poll that is not answered adds nothing, so the report still has the latest answer.
  have hunanswered : ∀ {r m}, ctx.run question s = some (r, m) →
      (∀ status, r ≠ .ok (.ok status)) → report.Recalls m.answers := by
    intro r m hrun hnone
    have hanswers : m.answers = s.answers ++ _ := run_attests hquestion hrun
    rcases r with cause | ⟨f | status⟩
    · rwa [hanswers, List.append_nil]
    · rw [hanswers]
      exact hreport.trans (congrArg _ (List.append_nil _).symm)
    · exact absurd rfl (hnone status)
  cases poll_went h with
  | interrupted hrun => exact (hunanswered hrun (by simp)).interrupted step _
  | unreachable hrun _ => exact hunanswered hrun (by simp)
  | refused hrun _ _ => exact (hunanswered hrun (by simp)).provider step _
  | expired hrun _ _ hreopen =>
      have hcounted : { report with polls := report.polls + 1 }.Recalls _ :=
        hunanswered hrun (by simp)
      exact reopen_recalls hcounted hreopen
  | answered hrun hobey => exact obey_recalls (run_attests hquestion hrun) hobey

theorem rounds_recalls {n : Nat} {x y : Installer.Stage (Attested σ)}
    (hquestion : question.Attests (attested some)) (hx : x.report.Recalls x.scene.answers)
    (h : (i.larger attesting).Rounds ctx step question n x y) :
    y.report.Recalls y.scene.answers := by
  induction h with
  | refl => exact hx
  | next hpoll hsleep _ ih =>
      -- Nobody is asked during the pause.
      have hturn := poll_recalls hquestion hx hpoll
      refine ih ?_
      simp only [sleep_silent hsleep]
      exact hturn

theorem lastRound_recalls {x : Installer.Stage (Attested σ)}
    {result : Except InstallError Report} (hquestion : question.Attests (attested some))
    (hx : x.report.Recalls x.scene.answers)
    (h : (i.larger attesting).LastRound ctx step question x result s') :
    Recalled s'.answers result := by
  cases h with
  | decided hpoll => exact poll_recalls hquestion hx hpoll
  | interrupted hpoll hsleep =>
      have hturn : Report.Recalls _ _ := poll_recalls hquestion hx hpoll
      rw [← sleep_silent hsleep] at hturn
      exact hturn.interrupted step _

/-! ## Steps -/

theorem order_recalls (c : Call) {note : c.Answer → Report} {result : Except InstallError Report}
    (hc : Silent c) (hreport : report.Recalls s.answers)
    (h : ((i.larger attesting).require ctx step report c s).map (fun (r, s) => (r.map note, s)) =
      some (result, s')) (hnote : ∀ answer, (note answer).last = report.last) :
    Recalled s'.answers result := by
  obtain ⟨r, hwent, rfl⟩ := Installer.order_went h
  cases hwent with
  | missing => rintro _ ⟨⟩
  | performed hr =>
      obtain ⟨hsilent, herror⟩ := perform_recalls (hc.handle i.driver) hreport hr
      cases r with
      | error e => exact herror e rfl
      | ok answer => exact (hnote answer).trans (hreport.trans (congrArg _ hsilent.symm))

theorem awaitTask_recalls {kind : TaskKind} {task : String} {result : Except InstallError Report}
    (hreport : report.Recalls s.answers)
    (h : (i.larger attesting).awaitTask ctx step kind task report s = some (result, s')) :
    Recalled s'.answers result := by
  cases Installer.awaitTask_went h with
  | missing => rintro _ ⟨⟩
  | waited _ hquestion hrounds hlast =>
      subst hquestion
      have hbefore := rounds_recalls (Operation.attests_attested _ _) hreport hrounds
      exact lastRound_recalls (Operation.attests_attested _ _) hbefore hlast

/-- **Every step** leaves a report that has the latest answer, or an error that tells it. -/
theorem step_recalls {result : Except InstallError Report} (hreport : report.Recalls s.answers)
    (h : (i.larger attesting).step ctx report s step = some (result, s')) :
    Recalled s'.answers result := by
  cases step with
  | upload =>
      exact order_recalls (.firmwareUpload _ _) (fun _ => rfl) hreport h fun _ => rfl
  | uploadAndInitiateInstall =>
      exact order_recalls (.firmwareUploadAndInitiate _ _) (fun _ => rfl) hreport h fun _ => rfl
  | install =>
      exact order_recalls (.firmwareInstall _ _ _ _) (fun _ => rfl) hreport h fun _ => rfl
  | installFromUploaded =>
      exact order_recalls (.firmwareInstallUploaded _ _) (fun _ => rfl) hreport h fun _ => rfl
  | uploadStatus | installStatus => exact awaitTask_recalls hreport h
  | powerOffHost | resetBmcPostInstall =>
      cases h
      exact control_recalls (fun _ => rfl) hreport rfl
  | resetBmcOnFailure =>
      cases h
      exact hreport

theorem runSteps_recalls {steps : List Step} {result : Except InstallError Report}
    (hreport : report.Recalls s.answers)
    (h : (i.larger attesting).runSteps ctx steps report s = some (result, s')) :
    Recalled s'.answers result := by
  induction steps generalizing report s with
  | nil =>
      cases h
      exact hreport
  | cons step steps ih =>
      cases hstep : (i.larger attesting).step ctx report s step with
      | none =>
          rw [Installer.runSteps, hstep] at h
          cases h
      | some p =>
          obtain ⟨e | next, m⟩ := p
          · cases (runSteps_error hstep).symm.trans h
            exact step_recalls hreport hstep
          · -- The step is entered in the report, which changes nothing about the latest answer.
            have hnext : next.Recalls m.answers := step_recalls hreport hstep
            rw [runSteps_cons hstep] at h
            refine ih ?_ h
            exact hnext

/-! ## Whole installs -/

theorem resetAfterFailure_silent (i : Installer σ) (ctx : Context) (s : Scene (Attested σ)) :
    ((i.larger attesting).resetAfterFailure ctx s).answers = s.answers := by
  unfold Installer.resetAfterFailure
  cases ctx.isDone s.now with
  | true => rfl
  | false => exact dispatch_silent (fun _ => rfl) ctx i.host.registry i.host.config.perProvider s

/-- An install that does the declared steps, from a world in which no task has answered. -/
theorem runListed_recalls {declared : List Step} {result : Except InstallError Report}
    (hs : s.answers = [])
    (h : (i.larger attesting).runListed ctx declared s = some (result, s')) :
    Recalled s'.answers result ∧ ∀ e, result = .error e → ∃ step m,
      (i.larger attesting).FailsAt ctx (kept declared) { driver := i.driver.name } s step e m := by
  obtain ⟨⟨r, m⟩, hrun, hpair⟩ := Option.map_eq_some_iff.mp h
  have hreport : Report.Recalls s.answers { driver := i.driver.name } := by
    rw [hs]
    rfl
  have hrecalled : Recalled m.answers r := runSteps_recalls hreport hrun
  cases r with
  | ok report =>
      cases hpair
      exact ⟨hrecalled, by rintro _ ⟨⟩⟩
  | error e =>
      -- The reset after the failure asks no task.
      have hsilent : s'.answers = m.answers := by
        cases hpair
        split
        · exact resetAfterFailure_silent i ctx m
        · rfl
      cases hpair
      rw [← hsilent] at hrecalled
      refine ⟨hrecalled, ?_⟩
      rintro _ ⟨⟩
      obtain ⟨step, hfails⟩ := runSteps_failsAt hrun
      exact ⟨step, m, hfails⟩

/-- The error is that of a declared step, which it names; the steps before that one were done. -/
def InstallError.Names (i : Installer σ) (ctx : Context) (s : Scene σ) (e : InstallError) : Prop :=
  ∃ declared m step m',
    ctx.run (i.driver.capabilities.handle (.firmwareInstallSteps i.job.component)) s =
      some (.ok (.ok declared), m) ∧
    i.FailsAt ctx (kept declared) { driver := i.driver.name } m step e m' ∧ e.step? = some step

/-- **An install by a driver**, from a world in which no task has answered. -/
theorem installer_recalls {result : Except ClientError Report} (hs : s.answers = [])
    (h : (i.larger attesting).install ctx s = some (result, s')) :
    (∀ report, result = .ok report → report.Recalls s'.answers) ∧
    ∀ e last, result = .error (.install e) → e.last? = some last →
      last = latestStatus s'.answers ∧ e.Names (i.larger attesting) ctx s := by
  have hasked : Silent (.firmwareInstallSteps i.job.component) := fun _ => rfl
  cases Installer.install_went h with
  -- Errors of the listing itself tell nothing of tasks.
  | interrupted => exact ⟨by rintro _ ⟨⟩, by rintro _ _ ⟨⟩⟩
  | unlisted | noSteps => exact ⟨by rintro _ ⟨⟩, by rintro _ _ ⟨⟩ ⟨⟩⟩
  | @listed declared m r _ hlisting _ hrun =>
      have hm : m.answers = [] := (run_silent (hasked.handle i.driver) hlisting).trans hs
      obtain ⟨hrecalled, hfails⟩ := runListed_recalls hm hrun
      cases r with
      | ok report =>
          refine ⟨?_, by rintro _ _ ⟨⟩⟩
          rintro _ ⟨⟩
          exact hrecalled
      | error e =>
          refine ⟨by rintro _ ⟨⟩, ?_⟩
          rintro _ last ⟨⟩ hlast
          obtain ⟨step, m', hstep⟩ := hfails e rfl
          refine ⟨hrecalled last hlast, declared, m, step, m', hlisting, hstep, ?_⟩
          obtain ⟨done, rest, mid, m, -, -, hfailed⟩ := hstep
          exact step_names hfailed

end Wait

/-- **An install keeps to what a task answered last**: whatever it does, a report of success has the
latest answer that any task gave in it, and an error that tells of one tells the latest, or an unknown
state if there was none, and names the step that failed. -/
theorem install_recalls (client : Client σ) (ctx : Context) (job : Job) (run : Run σ) :
    let attested := install (client.larger attesting) ctx job run.attested
    attested.map (fun (result, run) => (result, run.part Attested.world)) =
      install client ctx job run ∧
    ∀ result run', attested = some (result, run') →
      (∀ report, result = .ok report → report.last = run'.answers.getLast?) ∧
      ∀ e last, result = .error (.install e) → e.last? = some last →
        last = latestStatus run'.answers ∧
        ∃ d, installing? client = some d ∧
          e.Names ((installer client job d).larger attesting) ctx run.attested.toScene := by
  intro attested
  refine ⟨install_larger attesting client ctx job run.attested, fun result run' h => ?_⟩
  cases hs : ctx.error? run.attested.now with
  | some cause =>
      cases (install_done hs).symm.trans h
      exact ⟨by rintro _ ⟨⟩, by rintro _ _ ⟨⟩⟩
  | none =>
      cases hd : installing? client with
      | none =>
          cases (install_larger_nobody hs hd).symm.trans h
          exact ⟨by rintro _ ⟨⟩, by rintro _ _ ⟨⟩⟩
      | some d =>
          obtain ⟨⟨result', s'⟩, hran, hpair⟩ :=
            Option.map_eq_some_iff.mp ((install_larger_by hs hd).symm.trans h)
          obtain ⟨hreport, herror⟩ := installer_recalls rfl hran
          cases result' with
          | ok report =>
              cases hpair
              exact ⟨hreport, by rintro _ _ ⟨⟩⟩
          | error e =>
              cases hpair
              refine ⟨by rintro _ ⟨⟩, fun e' last he hlast => ?_⟩
              obtain ⟨hlatest, hnames⟩ := herror e' last he hlast
              exact ⟨hlatest, d, rfl, hnames⟩

/-- A wait whose polls are not answered: it fails, and tells what the task of the wait before it
answered. -/
theorem install_recalls_earlier_wait :
    let m : Mock := { name := "a", steps := [.uploadStatus, .installStatus] }
    let job : Job := { component := "bios", image := [] }
    let world : Mock.State :=
      { statuses := [.ok ⟨.complete, "verified"⟩, .error (.connectionRefused "a"),
          .error (.commandFailed "busy")] }
    let run : Run Mock.State := { now := 0, world }
    let e := InstallError.provider .installStatus (.commandFailed "busy") ⟨.complete, "verified"⟩
    ∃ run', install ((mockClient m).larger attesting) .background job run.attested =
        some (.error (.install e), run') ∧
      ⟨.complete, "verified"⟩ = latestStatus run'.answers ∧
      ∃ d, installing? (mockClient m) = some d ∧
        e.Names ((installer (mockClient m) job d).larger attesting) .background
          run.attested.toScene := by
  intro m job world run e
  let i := (installer (mockClient m) job (mockDriver m)).larger attesting
  let s : Scene (Attested Mock.State) :=
    ⟨0, { world := world.note "firmware_install_steps:bios" }⟩
  -- The wait for the install goes one round, since the controller may come back.
  obtain ⟨s', hrun⟩ : ∃ s',
      i.runSteps .background m.steps { driver := "a" } s = some (.error e, s') :=
    ⟨_, .trans (runSteps_cons (Installer.LastRound.decided (x := ⟨false, _, _⟩) rfl).await_eq) <|
      runSteps_error <|
      .trans (Installer.Rounds.next (x := ⟨false, _, _⟩) rfl rfl (.refl _)).await_eq
        (Installer.LastRound.decided rfl).await_eq⟩
  have hinstall : i.install .background run.attested.toScene = some (.error (.install e), s') := by
    show Option.map _ (Option.map _ (i.runSteps .background m.steps { driver := "a" } s)) = _
    rw [hrun]
    rfl
  obtain ⟨run', hends⟩ : ∃ run', install ((mockClient m).larger attesting) .background job
      run.attested = some (.error (.install e), run') := by
    rw [install_larger_by (d := mockDriver m) rfl rfl, hinstall]
    exact ⟨_, rfl⟩
  obtain ⟨-, hrecalls⟩ := install_recalls (mockClient m) .background job run
  obtain ⟨-, herror⟩ := hrecalls _ _ hends
  exact ⟨run', hends, herror e _ rfl rfl⟩

end Client

end OutOfBand
