import OutOfBand.Proofs.Install.Routing
import OutOfBand.Proofs.Install.StatusStep
import OutOfBand.Proofs.Redfish.Tasks

/-!
# Push and poll

The Redfish driver declares two steps: an install, which is a push, and the wait for its task. The
reply to the push names the task, the driver takes the name out of the reply, the step takes it
down, the wait asks for what was taken down, and the driver makes a path of it. So all that is asked
after a push is about the task that the reply has named (`push_and_poll`).
-/

namespace OutOfBand

namespace Client

open Firmware

variable {σ : Type}

/-- The push of an image. -/
abbrev Job.push (job : Job) : Call :=
  .firmwareInstall job.component job.applyTime job.force job.image

/-- The question how the install is that a task does. -/
abbrev Job.question (job : Job) (task : String) : Call :=
  .firmwareTaskStatus .install job.component task job.version

/-! ## Polls of a log -/

/-- All polls in the log put one question to one driver. -/
def PollsOnly (d : Driver σ) (question : Call) (log : List (Event σ)) : Prop :=
  ∀ e ∈ Event.starts log, e.deed.isPoll = true → e.driver = d ∧ e.deed = .call question

namespace PollsOnly

variable {d : Driver σ} {question : Call} {log more : List (Event σ)}

theorem append (h : PollsOnly d question log) (h' : PollsOnly d question more) :
    PollsOnly d question (log ++ more) := by
  intro e he
  rw [Event.starts_append, List.mem_append] at he
  rcases he with he | he
  · exact h e he
  · exact h' e he

theorem flatten {logs : List (List (Event σ))} (h : ∀ log ∈ logs, PollsOnly d question log) :
    PollsOnly d question logs.flatten := by
  intro e he
  obtain ⟨log, hlog, hmem⟩ := Event.mem_starts_flatten.mp he
  exact h log hlog e hmem

theorem of_lacks (h : Lacks Deed.isPoll log) : PollsOnly d question log := by
  intro e he hpoll
  rw [h e he] at hpoll
  cases hpoll

/-- Nobody but the installing driver is polled in a log that is in order. -/
theorem of_orderly (h : Orderly d log)
    (hdeed : ∀ e ∈ Event.starts log, e.deed.isPoll = true → e.deed = .call question) :
    PollsOnly d question log := by
  intro e he hpoll
  obtain ⟨event, hevent, hstarted⟩ := List.mem_filterMap.mp he
  refine ⟨?_, hdeed e he hpoll⟩
  have hentry : event.entry = e := by
    cases event with
    | started e' => exact Option.some.inj hstarted
    | ended e' => cases hstarted
  rw [← hentry] at hpoll ⊢
  refine h.own event hevent (Bool.eq_false_iff.mpr fun hcontrol => ?_)
  rw [Deed.isPoll_eq_false_of_isControl hcontrol] at hpoll
  cases hpoll

end PollsOnly

theorem StepLog.pollsOnly {i : Installer σ} {report : Report} {step : Step} {ok : Bool}
    {log : List (Event σ)} {question : Call} (h : StepLog i report step ok log)
    (hcall : ∀ c, i.call? report step = some c → (Deed.call c).isPoll = true → c = question) :
    PollsOnly i.driver question log := by
  refine .of_orderly h.orderly fun e he hpoll => ?_
  rcases h.deed_eq e he with ⟨c, hc, hdeed⟩ | hdeed | hcontrol
  · rw [hdeed] at hpoll
    rw [hdeed, hcall c hc hpoll]
  · rw [hdeed] at hpoll
    cases hpoll
  · rw [Deed.isPoll_eq_false_of_isControl hcontrol] at hpoll
    cases hpoll

theorem RoundLog.pollsOnly {d : Driver σ} {question : Call} {log : List (Event σ)}
    (h : RoundLog d question log) : PollsOnly d question log := by
  refine .of_orderly h.orderly fun e he hpoll => ?_
  rcases h.deed_eq e he with hdeed | hdeed
  · exact hdeed
  · rw [hdeed] at hpoll
    cases hpoll

/-! ## An install and the wait for it -/

section Wait

variable {i : Installer σ} {ctx : Context} {report : Report} {m s s' : Scene (Watched σ)}
  {legs : List (Leg σ)} {id task : String}

theorem answer?_eq_some_iff {c : Call} {a : c.Answer} : i.answer? ctx s c = some a ↔
    ∃ s', ctx.run (i.watched.driver.capabilities.handle c) s = some (.ok (.ok a), s') := by
  unfold Installer.answer?
  split
  · rename_i answer s' hrun
    simp [hrun]
  · rename_i hnone
    constructor
    · rintro ⟨⟩
    · rintro ⟨s', hrun⟩
      exact absurd hrun (hnone a s')

theorem require_of_run {c : Call} {a : c.Answer} {step : Step}
    (hbacks : i.driver.backs c.feature = true)
    (h : ctx.run (i.watched.driver.capabilities.handle c) s = some (.ok (.ok a), s')) :
    i.watched.require ctx step report c s = some (.ok a, s') := by
  have hbacks' : i.watched.driver.backs c.feature = true := hbacks
  rw [Installer.require, if_pos hbacks', Installer.perform, h]
  rfl

/-- The legs of an install are the first of the steps. -/
theorem Journey.steps_prefix {declared : List Step} {result : Except ClientError Report}
    {reset : List (Event σ)} (h : Journey i ctx declared m result s' legs reset) :
    legs.map Leg.step <+: kept declared := by
  cases h with
  | noSteps => exact List.nil_prefix
  | done _ hsteps _ => exact ⟨[], by rw [List.append_nil, hsteps]⟩
  | @failed legs failing rest _ _ _ hsteps _ _ _ _ =>
      rw [hsteps, List.map_append, List.prefix_append_right_inj]
      exact ⟨rest, rfl⟩

theorem Row.start_eq {leg : Leg σ} {report' : Report}
    (h : Row i ctx report s (leg :: legs) report' s') : leg.start = s := by
  cases h
  rfl

theorem Row.of_nil {report' : Report} (h : Row i ctx report s [] report' s') :
    report' = report ∧ s' = s := by
  cases h
  exact ⟨rfl, rfl⟩

theorem latest_of_first {kind : Step → Bool} {leg : Leg σ} (hkind : kind leg.step = true)
    (hid : leg.answered? i ctx = some task) (hlegs : ∀ later ∈ legs, kind later.step = false) :
    latest i ctx kind (leg :: legs) = some (TaskId.normalize task) := by
  have hnone : legs.filter (fun later => kind later.step) = [] := by
    simpa [List.filter_eq_nil_iff] using hlegs
  simp [latest, identifiers, hkind, hid, hnone]

/-- After a push the report has the task that was answered. -/
theorem Row.installTask_eq {steps : List Step}
    (h : Row i ctx { driver := i.driver.name } m legs report s)
    (hlegs : legs.map Leg.step = .install :: steps) (hsteps : ∀ step ∈ steps, step.installs = false)
    (hanswer : i.answer? ctx m i.job.push = some task) :
    report.installTask = some (TaskId.normalize task) := by
  obtain ⟨leg, later, rfl, hstep, rfl⟩ := List.map_eq_cons_iff.mp hlegs
  have hanswered : leg.answered? i ctx = some task := by
    rw [Leg.answered?, hstep, h.start_eq]
    exact hanswer
  have hkind : leg.step.installs = true := by
    rw [hstep]
    rfl
  have hlater : ∀ other ∈ later, other.step.installs = false :=
    fun other hother => hsteps _ (List.mem_map_of_mem hother)
  rw [h.follows.install, latest_of_first hkind hanswered hlater, Option.some_or]

theorem call?_installStatus (hreport : report.installTask = some id) :
    i.call? report .installStatus = some (i.job.question id) := by
  rw [Installer.call?, Report.awaitedInstall, hreport]
  rfl

theorem of_prefix_pair {α : Type} {front back : List α} {x first second : α}
    (h : front ++ x :: back <+: [first, second]) :
    front = [] ∧ x = first ∨ front = [first] ∧ x = second := by
  cases front with
  | nil => exact .inl ⟨rfl, (List.cons_prefix_cons.mp h).1⟩
  | cons y front =>
      obtain ⟨rfl, hrest⟩ := List.cons_prefix_cons.mp h
      cases front with
      | nil => exact .inr ⟨rfl, (List.cons_prefix_cons.mp hrest).1⟩
      | cons z front => simpa using (List.cons_prefix_cons.mp hrest).2

/-- **All polls are about the task of the push**, if the steps are a push and the wait for it. -/
theorem legs_pollsOnly (hran : ∀ leg ∈ legs, leg.Ran i ctx)
    (hrow : ∀ before leg after, legs = before ++ leg :: after →
      Row i ctx { driver := i.driver.name } m before leg.report leg.start)
    (hsteps : legs.map Leg.step <+: [.install, .installStatus])
    (hanswer : i.answer? ctx m i.job.push = some task) :
    PollsOnly i.driver (i.job.question (TaskId.normalize task)) (legs.flatMap Leg.log) := by
  refine .flatten fun log hlog => ?_
  obtain ⟨leg, hleg, rfl⟩ := List.mem_map.mp hlog
  obtain ⟨before, after, hlegs⟩ := List.append_of_mem hleg
  rw [hlegs, List.map_append, List.map_cons] at hsteps
  refine (hran leg hleg).settled.2.1.pollsOnly fun c hc hpoll => ?_
  -- The leg is the push, which is no poll, or the wait, before which there was the push alone.
  rcases of_prefix_pair hsteps with ⟨-, hstep⟩ | ⟨hbefore, hstep⟩
  · rw [hstep] at hc
    cases hc
    cases hpoll
  · have hreport := (hrow before leg after hlegs).installTask_eq hbefore (by simp) hanswer
    rw [hstep, call?_installStatus hreport] at hc
    exact (Option.some.inj hc).symm

theorem Journey.pollsOnly {result : Except ClientError Report} {reset : List (Event σ)}
    (h : Journey i ctx [.install, .installStatus] m result s' legs reset)
    (hanswer : i.answer? ctx m i.job.push = some task) :
    PollsOnly i.driver (i.job.question (TaskId.normalize task))
      (legs.flatMap Leg.log ++ reset) := by
  have hreset : Lacks Deed.isPoll reset := .of_deed_eq rfl h.deed_eq
  refine .append (legs_pollsOnly h.ran (fun before leg after hlegs => ?_) h.steps_prefix hanswer)
    (.of_lacks hreset)
  rw [hlegs] at h
  exact h.split

theorem Journey.installTask_eq {reset : List (Event σ)}
    (h : Journey i ctx [.install, .installStatus] m (.ok report) s' legs reset)
    (hanswer : i.answer? ctx m i.job.push = some task) :
    report.installTask = some (TaskId.normalize task) := by
  cases h with
  | done _ hsteps hrow =>
      have hlegs : legs.map Leg.step = [.install, .installStatus] := hsteps
      refine hrow.installTask_eq hlegs (fun step hstep => ?_) hanswer
      rw [List.mem_singleton.mp hstep]
      rfl

/-- The step takes down the task that was answered. -/
theorem step_install (report : Report) (hbacks : i.driver.backs .firmwareInstall = true)
    (hrun : ctx.run (i.watched.driver.capabilities.handle i.job.push) s =
      some (.ok (.ok task), s')) :
    i.watched.step ctx report s .install =
      some (.ok { report with installTask := some (TaskId.normalize task) }, s') := by
  have hrequire : i.watched.require ctx .install report i.job.push s = some (.ok task, s') :=
    require_of_run hbacks hrun
  rw [Installer.step]
  exact congrArg (Installer.noting fun id => { report with installTask := some id }) hrequire

/-- An install that has no end hangs in the wait. -/
theorem Stranded.at_wait {step : Step}
    (h : Stranded i ctx [.install, .installStatus] m legs step report s)
    (hanswer : i.answer? ctx m i.job.push = some task) :
    step = .installStatus ∧ report.installTask = some (TaskId.normalize task) := by
  obtain ⟨⟨rest, hkept⟩, hrow, hendless⟩ := h
  have hsteps : legs.map Leg.step ++ step :: rest <+: [.install, .installStatus] :=
    ⟨[], by rw [List.append_nil, ← hkept]; rfl⟩
  rcases of_prefix_pair hsteps with ⟨hlegs, rfl⟩ | ⟨hlegs, rfl⟩
  · -- The push has come to an answer, so the install does not hang there.
    obtain rfl := List.map_eq_nil_iff.mp hlegs
    obtain ⟨rfl, rfl⟩ := hrow.of_nil
    cases hendless with
    | asked hcall _ hrun =>
        obtain rfl := Option.some.inj (show some i.job.push = some _ from hcall)
        rw [Installer.answer?, hrun] at hanswer
        cases hanswer
    | waited hcall => cases hcall
  · exact ⟨rfl, hrow.installTask_eq hlegs (by simp) hanswer⟩

/-- However many rounds the wait goes on, all polls are about the task of the push. -/
theorem Stranded.pollsOnly {n : Nat} {x y : Installer.Stage (Watched σ)}
    (h : Stranded i ctx [.install, .installStatus] m legs .installStatus report x.scene)
    (hanswer : i.answer? ctx m i.job.push = some task)
    (hrounds : i.watched.Rounds ctx .installStatus
      (i.watched.question .install (TaskId.normalize task)) n x y) :
    ∃ log, Adds m y.scene log ∧
      PollsOnly i.driver (i.job.question (TaskId.normalize task)) log := by
  obtain ⟨rest, hkept⟩ := h.steps
  have hsteps : legs.map Leg.step <+: [.install, .installStatus] :=
    ⟨.installStatus :: rest, hkept.symm⟩
  have hlegs := legs_pollsOnly h.row.ran (fun before leg after hlegs => by
    have hrow := h.row
    rw [hlegs] at hrow
    exact hrow.split) hsteps hanswer
  obtain ⟨logs, -, hadds, hlogs, -⟩ := rounds_log hrounds
  exact ⟨_, h.row.adds.trans hadds,
    hlegs.append (.flatten fun log hlog => (hlogs log hlog).pollsOnly)⟩

/-- A wait is over with its first poll, if that says so. -/
theorem step_of_poll {result : Except InstallError Report}
    (hbacks : i.driver.backs .firmwareTaskStatus = true) (hreport : report.installTask = some id)
    (hpoll : i.watched.poll ctx .installStatus (i.watched.question .install id) false report s =
      some (.finish result, s')) :
    i.watched.step ctx report s .installStatus = some (result, s') := by
  have hlast : i.watched.LastRound ctx .installStatus (i.watched.question .install id)
      ⟨false, report, s⟩ result s' := .decided hpoll
  rw [step_eq_await hbacks (call?_installStatus hreport)]
  exact hlast.await_eq

section Poll

variable {step : Step} {op : Operation σ (Except Fault Status)} {reopened : Bool}
  {t t' : Scene σ} {j : Installer σ}

theorem poll_complete {status : Status} (hrun : ctx.run op t = some (.ok (.ok status), t'))
    (hstate : status.state = .complete) : j.poll ctx step op reopened report t =
      some (.finish (.ok { report with polls := report.polls + 1, last := some status }), t') := by
  simp [Installer.poll, hrun, Installer.obey, hstate]

theorem poll_refused {f : Fault} (hrun : ctx.run op t = some (.ok (.error f), t'))
    (htransient : f.isTransient = false) (hexpired : f.isSessionExpired = false) :
    j.poll ctx step op reopened report t =
      some (.finish (.error (.provider step f report.lastStatus)), t') := by
  simp [Installer.poll, hrun, htransient, hexpired, Report.lastStatus]

end Poll

/-- An install does its steps, and nothing else if none says what to do after a failure. -/
theorem install_of_runSteps {client : Client σ} {job : Job} {run : Run (Watched σ)} {d : Driver σ}
    {declared : List Step} {result : Except InstallError Report} (hd : installing? client = some d)
    (known : Declares d ctx job run declared m) (hne : declared ≠ [])
    (hno : Step.resetBmcOnFailure ∉ declared)
    (h : (installer client job d).watched.runSteps ctx declared { driver := d.name } m =
      some (result, s')) :
    ∃ run', install client.watched ctx job run = some (result.mapError .install, run') ∧
      run'.toScene = s' := by
  have hkept : declared.filter (· != .resetBmcOnFailure) = declared := by
    rw [List.filter_eq_self]
    rintro step hstep
    rw [bne_iff_ne]
    rintro rfl
    exact hno hstep
  have hcontains : declared.contains .resetBmcOnFailure = false := by simpa using hno
  have hinstalled : (installer client job d).watched.install ctx run.toScene =
      some (result.mapError .install, s') := by
    rw [Installer.install_known (i := (installer client job d).watched) known, if_neg hne,
      Installer.runListed, hkept, hcontains]
    show Option.map _ (Option.map _
      ((installer client job d).watched.runSteps ctx declared { driver := d.name } m)) = _
    rw [h]
    cases result <;> rfl
  rw [install_eq hd (Context.alive_of_run known), hinstalled]
  cases result <;> exact ⟨_, rfl, rfl⟩

end Wait

end Client

namespace Redfish

open Client Firmware

variable {σ : Type} {target : Target} {peer : Web.Request → σ → Web.Outcome × σ}
  {d : Driver (State × σ)} {ctx : Context} {s : Scene (Watched (State × σ))} {id : String}

/-- Where things stand in a scene, with nothing taken down yet. -/
def standing (s : Scene (Watched (State × σ))) : Standing σ :=
  (s.world.world.1, s.world.world.2, [])

/-- A call to the driver is over at once. -/
theorem run_handle (hcaps : d.capabilities = capabilities target peer)
    (alive : ctx.error? s.now = none) (c : Call) :
    ∃ r m, Goes (act target c) s.world.world.1 (said target peer (standing s) s.now (.call c)) r
        m.world.world.1 ∧
      Dialog.Answered peer s.world.world.2 (said target peer (standing s) s.now (.call c))
        m.world.world.2 ∧
      ((capabilities target peer).handle c).outcome s.now s.world.world = (r, m.world.world) ∧
      ctx.run (d.watched.capabilities.handle c) s = some (.ok r, m) ∧ m.now = s.now := by
  obtain ⟨r, s', v, hgoes, houtcome, hanswered⟩ :=
    handle_outcome target peer (standing s) s.now c
  have hrun : ctx.run (d.capabilities.handle c) s.plain = some (.ok r, ⟨s.now, (s', v)⟩) := by
    rw [hcaps]
    exact Context.run_instantly alive rfl houtcome
  obtain ⟨m, hwatched, hm⟩ : ∃ m, ctx.run (d.watched.capabilities.handle c) s = some (.ok r, m) ∧
      m.plain = ⟨s.now, (s', v)⟩ := by
    have h := run_watched ctx d (.call c) (d.capabilities.handle c) s
    rw [hrun] at h
    exact ⟨_, h, rfl⟩
  have hworld : m.world.world = (s', v) := congrArg Scene.world hm
  have hnow : m.now = s.now := by rw [← Scene.plain_now, hm]
  rw [← hworld] at houtcome
  refine ⟨r, m, ?_, ?_, houtcome, hwatched, hnow⟩
  · rw [hworld]
    exact hgoes
  · rw [hworld]
    exact hanswered

/-- The driver declares a push and the wait for its task, without a request. -/
theorem listed (hcaps : d.capabilities = capabilities target peer)
    (alive : ctx.error? s.now = none) (component : String) :
    ∃ m, ctx.run (d.watched.capabilities.handle (.firmwareInstallSteps component)) s =
        some (.ok (.ok [.install, .installStatus]), m) ∧
      m.now = s.now ∧ m.world.world = s.world.world := by
  obtain ⟨r, m, hgoes, -, houtcome, hrun, hnow⟩ :=
    run_handle hcaps alive (.firmwareInstallSteps component)
  obtain ⟨-, rfl, -⟩ := goes_pure_iff.mp hgoes
  exact ⟨m, hrun, hnow, (congrArg Prod.snd houtcome).symm⟩

/-- The service accepts the push of a job in a scene, with this reply. -/
def PushAccepted (target : Target) (peer : Web.Request → σ → Web.Outcome × σ) (job : Job)
    (s : Scene (Watched (State × σ))) (reply : Web.Reply) : Prop :=
  ∃ x ∈ said target peer (standing s) s.now (.call job.push), Accepts x reply

theorem PushAccepted.usable {job : Job} {reply : Web.Reply}
    (h : PushAccepted target peer job s reply) :
    ∃ v, Web.usableUrl (urlOf target updatePath) [] = .ok v := by
  obtain ⟨x, hx, haccepts⟩ := h
  obtain ⟨r, s', v, hgoes, -⟩ := handle_outcome target peer (standing s) s.now job.push
  exact (Goes.of_accepted hgoes hx haccepts).2.2

/-- A push that is accepted is answered with the task of the reply. -/
theorem PushAccepted.run {job : Job} {reply : Web.Reply}
    (h : PushAccepted target peer job s reply) (hcaps : d.capabilities = capabilities target peer)
    (alive : ctx.error? s.now = none) :
    ∃ m, ctx.run (d.watched.capabilities.handle job.push) s = some (.ok (.ok (taskOf reply)), m) ∧
      m.now = s.now ∧ m.world.world.1 = s.world.world.1 := by
  obtain ⟨x, hx, haccepts⟩ := h
  obtain ⟨r, m, hgoes, -, -, hrun, hnow⟩ := run_handle hcaps alive job.push
  obtain ⟨hsame, rfl, -⟩ := Goes.of_accepted hgoes hx haccepts
  exact ⟨m, hrun, hnow, hsame⟩

/-- The steps of an install whose push is accepted: they are declared, and the first one takes down
the task that the reply names. -/
theorem PushAccepted.taken_down {job : Job} {run : Run (Watched (State × σ))} {reply : Web.Reply}
    (h : PushAccepted target peer job run.toScene reply) (client : Client (State × σ))
    (hcaps : d.capabilities = capabilities target peer) (alive : ctx.error? run.now = none)
    (hid : Web.IsPlain id) (hnames : Names reply id) :
    let i := installer client job d
    ∃ m m', Declares d ctx job run [.install, .installStatus] m ∧
      i.answer? ctx m i.job.push = some (taskOf reply) ∧
      i.watched.step ctx { driver := d.name } m .install =
        some (.ok { driver := d.name, installTask := some id }, m') ∧
      m'.now = run.now ∧ m'.world.world.1 = run.world.world.1 := by
  intro i
  obtain ⟨m, hlisted, hnow, hworld⟩ := listed hcaps alive job.component
  have hpush : PushAccepted target peer job m reply := by
    unfold PushAccepted standing
    rw [hnow, hworld]
    exact h
  have alive' : ctx.error? m.now = none := by
    rw [hnow]
    exact alive
  obtain ⟨m', hrun, hnow', hsame⟩ := hpush.run hcaps alive'
  have hbacks : d.backs .firmwareInstall = true := by
    rw [Driver.backs, hcaps]
    rfl
  have hstep := step_install (i := i) { driver := d.name } hbacks hrun
  rw [taskOf_of_names hid hnames, normalize_of_isPlain hid] at hstep
  exact ⟨m, m', hlisted, answer?_eq_some_iff.mpr ⟨m', hrun⟩, hstep, hnow'.trans hnow,
    hsame.trans (congrArg Prod.fst hworld)⟩

/-- Whatever the driver remembers and whenever it is asked, it asks for one resource in its turn,
with one request. If the URL of that is too long, nothing is sent, and the driver says so. -/
structure AsksFor (target : Target) (peer : Web.Request → σ → Web.Outcome × σ) (question : Call)
    (u : Web.Url) : Prop where
  sent : u.text.utf8ByteSize ≤ Web.Url.longest → ∀ (p : Standing σ) (now : Nat), ∃ outcome,
    said target peer p now (.call question) =
      [(⟨.get, u, credentials target p.1, [], .none⟩, outcome)]
  unsent : Web.Url.longest < u.text.utf8ByteSize → ∀ (p : Standing σ) (now : Nat),
    said target peer p now (.call question) = [] ∧
      (((capabilities target peer).handle question).outcome now (p.1, p.2.1)).1 =
        .error (.networkError s!"builder error for url ({u.text})")

theorem asksFor_question (peer : Web.Request → σ → Web.Outcome × σ) (job : Job) {u : Web.Url}
    (h : Web.usableUrl (urlOf target (taskPath id)) [] =
      if u.text.utf8ByteSize ≤ Web.Url.longest then .ok u
      else .error (.networkError s!"builder error for url ({u.text})")) :
    AsksFor target peer (job.question id) u := by
  constructor
  · intro hshort p now
    rw [if_pos hshort] at h
    obtain ⟨r, s', v, hgoes, -⟩ := handle_outcome target peer p now (job.question id)
    obtain ⟨-, ⟨f, hurl, -⟩ | ⟨u', outcome, hurl, hxs⟩⟩ := Goes.of_taskStatus hgoes
    · cases h.symm.trans hurl
    · cases h.symm.trans hurl
      exact ⟨outcome, hxs⟩
  · intro hlong p now
    rw [if_neg (Nat.not_le.mpr hlong)] at h
    obtain ⟨r, s', v, hgoes, houtcome, -⟩ := handle_outcome target peer p now (job.question id)
    obtain ⟨-, ⟨f, hurl, hxs, rfl⟩ | ⟨u', outcome, hurl, -⟩⟩ := Goes.of_taskStatus hgoes
    · cases h.symm.trans hurl
      exact ⟨hxs, congrArg Prod.fst houtcome⟩
    · cases h.symm.trans hurl

/-- **Push and poll address one task**, the one that the reply to the push names.

The step of the push takes down its identifier, and so does the report of an install that succeeds.
All polls of the install put the same question to the driver, however the install ends, and also if
it has no end. To that question the driver sends one request, for the resource with this identifier
in the collection of tasks. -/
theorem push_and_poll (target : Target) (peer : Web.Request → σ → Web.Outcome × σ)
    (client : Client (State × σ)) (d : Driver (State × σ)) (ctx : Context) (job : Job)
    (run : Run (Watched (State × σ))) (reply : Web.Reply) (id : String)
    (hd : installing? client = some d) (hcaps : d.capabilities = capabilities target peer)
    (alive : ctx.error? run.now = none) (hpush : PushAccepted target peer job run.toScene reply)
    (hid : Web.IsPlain id) (hnames : Names reply id) :
    let i := installer client job d
    let question := job.question id
    ∃ u m, Web.Url.parse? (target.options.redfish.baseUrl target.host ++ taskPath id) = some u ∧
      (Web.Url.IsPlainHost target.host → target.options.redfish.scheme = "http" ∨
        target.options.redfish.scheme = "https" →
        u.path = taskPath id ∧ u.query = none ∧ u.fragment = none) ∧
      AsksFor target peer question u ∧
      Declares d ctx job run [.install, .installStatus] m ∧
      (∃ m', i.watched.step ctx { driver := d.name } m .install =
        some (.ok { driver := d.name, installTask := some id }, m')) ∧
      (∀ result run', install client.watched ctx job run = some (result, run') →
        (∃ log, Adds run.toScene run'.toScene log ∧ PollsOnly d question log) ∧
          ∀ report, result = .ok report → report.installTask = some id) ∧
      (install client.watched ctx job run = none → ∃ legs report s,
        Stranded i ctx [.install, .installStatus] m legs .installStatus report s ∧
          report.installTask = some id ∧ i.call? report .installStatus = some question ∧
          ∀ n y, i.watched.Rounds ctx .installStatus (i.watched.question .install id) n
            ⟨false, report, s⟩ y → ∃ log, Adds run.toScene y.scene log ∧
              PollsOnly d question log) := by
  intro i question
  obtain ⟨m, m', hlisted, hanswer, hstep, -⟩ := hpush.taken_down client hcaps alive hid hnames
  -- The identifier has no blanks, so what was normalized twice is still the one of the reply.
  have htask : TaskId.normalize (taskOf reply) = id := by
    rw [taskOf_of_names hid hnames, normalize_of_isPlain hid]
  obtain ⟨v, husable⟩ := hpush.usable
  obtain ⟨u, hparse, husable'⟩ := usableUrl_taskPath hid husable
  have hbase : urlOf target (taskPath id) =
      target.options.redfish.baseUrl target.host ++ taskPath id := by
    rw [taskPath_eq, urlOf_text]
  obtain ⟨hends, hendless⟩ := install_journey hd hlisted
  obtain ⟨listing, hlisting, hasked⟩ := run_asked hlisted
  -- To ask for the steps is no poll.
  have hquiet : PollsOnly d question listing := .of_lacks (.of_deed_eq rfl hasked.deed_eq)
  refine ⟨u, m, hbase ▸ hparse, path_of_task hid hparse, asksFor_question peer job husable',
    hlisted, ⟨m', hstep⟩, fun result run' h => ?_, fun h => ?_⟩
  · obtain ⟨legs, reset, hjourney⟩ := hends result run' h
    have hpolls := hjourney.pollsOnly hanswer
    rw [htask] at hpolls
    refine ⟨⟨_, hlisting.trans hjourney.adds, hquiet.append hpolls⟩, ?_⟩
    rintro report rfl
    rw [hjourney.installTask_eq hanswer, htask]
  · obtain ⟨legs, step, report, s, hstranded⟩ := hendless h
    obtain ⟨rfl, hreport⟩ := hstranded.at_wait hanswer
    rw [htask] at hreport
    refine ⟨legs, report, s, hstranded, hreport, call?_installStatus hreport,
      fun n y hrounds => ?_⟩
    rw [← htask] at hrounds
    obtain ⟨log, hadds, hpolls⟩ := hstranded.pollsOnly hanswer hrounds
    rw [htask] at hpolls
    exact ⟨_, hlisting.trans hadds, hquiet.append hpolls⟩

/-! ### A service that takes images -/

/-- A service that takes images and answers a push with this reply. Its tasks are complete. -/
def updating (reply : Web.Reply) (q : Web.Request) (_ : Unit) : Web.Outcome × Unit :=
  let resource (content : String) : Web.Outcome × Unit :=
    (.answered ⟨200, [], Text.Utf8.encode content⟩, ())
  match q.method, q.url.path with
  | .get, "/redfish/v1/UpdateService" => resource "\x7b\"MultipartHttpPushUri\":\"/push\"\x7d"
  | .get, _ => resource "\x7b\"TaskState\":\"Completed\"\x7d"
  | _, _ => (.answered reply, ())

def updatingDriver (reply : Web.Reply) : Driver (State × Unit) :=
  .ofCapabilities name name (capabilities configuredTarget (updating reply))

def updatingClient (reply : Web.Reply) : Client (State × Unit) :=
  { registry := [updatingDriver reply] }

def biosJob : Job := { component := "bios", image := [] }

/-- Nobody was asked for anything. -/
def unasked : Run (Watched (State × Unit)) := { now := 0, world := { world := ({}, ()) } }

theorem accepts_of_post {reply : Web.Reply} {w w' : Unit} {xs : List Exchange} {x : Exchange}
    (h : Dialog.Answered (updating reply) w xs w') (hx : x ∈ xs) (hpost : x.1.method = .post)
    (hsuccess : reply.isSuccess = true) : Accepts x reply := by
  induction h with
  | nil => cases hx
  | @cons q w v xs _ ih =>
      rcases List.mem_cons.mp hx with rfl | hx
      · refine ⟨hpost, ?_, hsuccess⟩
        simp only at hpost
        simp [updating, hpost]
      · exact ih hx

theorem pushAccepted_updating {reply : Web.Reply} (hsuccess : reply.isSuccess = true)
    (h : ∃ x ∈ said configuredTarget (updating reply) (start ()) 0 (.call biosJob.push),
      x.1.method = .post) :
    PushAccepted configuredTarget (updating reply) biosJob unasked.toScene reply := by
  obtain ⟨x, hx, hpost⟩ := h
  obtain ⟨r, s', v, -, -, hanswered⟩ :=
    handle_outcome configuredTarget (updating reply) (start ()) 0 biosJob.push
  exact ⟨x, hx, accepts_of_post hanswered hx hpost hsuccess⟩

/-- What comes of the question for the task, once the push is over. -/
theorem run_question (reply : Web.Reply) {m : Scene (Watched (State × Unit))}
    (hnow : m.now = 0) (hstate : m.world.world.1 = {}) (task : String) :
    ∃ m' log, Context.background.run ((updatingDriver reply).watched.capabilities.handle
        (biosJob.question task)) m = some (.ok (((capabilities configuredTarget
          (updating reply)).handle (biosJob.question task)).outcome 0 ({}, ())).1, m') ∧
      Adds m m' log ∧ ∃ e ∈ Event.starts log, e.deed = .call (biosJob.question task) := by
  have hcaps : (updatingDriver reply).capabilities =
      capabilities configuredTarget (updating reply) := rfl
  have alive : Context.background.error? m.now = none := rfl
  obtain ⟨r, m', -, -, houtcome, hrun, -⟩ := run_handle hcaps alive (biosJob.question task)
  have hworld : m.world.world = ({}, ()) := Prod.ext hstate rfl
  rw [hnow, hworld] at houtcome
  obtain ⟨log, hadds, hasked⟩ := run_asked hrun
  refine ⟨m', log, ?_, hadds, ?_⟩
  · rw [houtcome]
    exact hrun
  · cases hasked with
    | answered t => exact ⟨_, List.mem_singleton_self _, rfl⟩

/-- A location that is a URL, with two slashes at its end. -/
theorem push_and_poll_at_location :
    let reply : Web.Reply :=
      ⟨202, [("location", "https://bmc.local/redfish/v1/TaskService/Tasks/42//")], []⟩
    let d := updatingDriver reply
    let question := biosJob.question "42"
    installing? (updatingClient reply) = some d ∧
      d.capabilities = capabilities configuredTarget (updating reply) ∧
      Context.background.error? unasked.now = none ∧
      PushAccepted configuredTarget (updating reply) biosJob unasked.toScene reply ∧
      Web.IsPlain "42" ∧ Names reply "42" ∧
      ∃ report run', install (updatingClient reply).watched .background biosJob unasked =
          some (.ok report, run') ∧ report.installTask = some "42" ∧ report.polls = 1 ∧
        (∃ log, Adds unasked.toScene run'.toScene log ∧ PollsOnly d question log) ∧
        (said configuredTarget (updating reply) (start ()) 0 (.call question)).map
            (fun x => (x.1.method, x.1.url.text)) =
          [(.get, "https://bmc.local/redfish/v1/TaskService/Tasks/42")] := by
  intro reply d question
  have hpush : PushAccepted configuredTarget (updating reply) biosJob unasked.toScene reply :=
    pushAccepted_updating rfl (by decide +kernel)
  have hid : Web.IsPlain "42" := by decide +kernel
  have hfound : reply.headers.find? (fun h => Text.sameName h.1 "Location") = some ("location",
      "https://bmc.local/redfish/v1/TaskService/Tasks" ++ "/" ++ "42" ++
        String.ofList (List.replicate 2 '/')) := by decide +kernel
  have hnames : Names reply "42" := .location hfound (List.all_eq_true.mp (by decide +kernel))
  have hd : installing? (updatingClient reply) = some d := rfl
  have hcaps : d.capabilities = capabilities configuredTarget (updating reply) := rfl
  have alive : Context.background.error? unasked.now = none := rfl
  obtain ⟨-, -, -, -, -, -, -, hends, -⟩ := push_and_poll configuredTarget (updating reply)
    (updatingClient reply) d .background biosJob unasked reply "42" hd hcaps alive hpush hid hnames
  obtain ⟨m, m', hknown, -, hstep, hnow, hstate⟩ :=
    hpush.taken_down (updatingClient reply) hcaps alive hid hnames
  obtain ⟨m'', log, hrun, -⟩ := run_question reply hnow hstate "42"
  have hcomplete : (((capabilities configuredTarget (updating reply)).handle question).outcome 0
      ({}, ())).1.toOption.map Status.state = some .complete := by decide +kernel
  generalize (((capabilities configuredTarget (updating reply)).handle question).outcome 0
    ({}, ())).1 = r at hrun hcomplete
  cases r with
  | error f => cases hcomplete
  | ok status =>
      have hreport : ({ driver := d.name, steps := [.install], installTask := some "42" } :
        Report).installTask = some "42" := rfl
      have hwait := step_of_poll (i := installer (updatingClient reply) biosJob d) rfl hreport
        (poll_complete hrun (Option.some.inj hcomplete))
      obtain ⟨run', hinstalled, hrun'⟩ := install_of_runSteps hd hknown (by simp) (by simp)
        ((runSteps_cons hstep).trans (runSteps_cons hwait))
      obtain ⟨hpolls, hreport⟩ := hends _ _ hinstalled
      exact ⟨hd, hcaps, alive, hpush, hid, hnames, _, run', hinstalled, hreport _ rfl, rfl, hpolls,
        by decide +kernel⟩

/-- An identifier that is longer than any URL that can be sent. -/
def longTask : String := String.ofList (List.replicate 65600 'a')

theorem longest_lt_longTask : Web.Url.longest < longTask.toList.length := by
  show Web.Url.longest < (String.ofList (List.replicate 65600 'a')).toList.length
  rw [String.toList_ofList, List.length_replicate]
  decide

theorem isPlain_replicate {n : Nat} (hn : n ≠ 0) :
    Web.IsPlain (String.ofList (List.replicate n 'a')) := by
  constructor
  · rw [Ne, ← String.toList_inj, String.toList_ofList]
    simpa using hn
  · intro c hc
    rw [String.toList_ofList] at hc
    rw [List.eq_of_mem_replicate hc]
    decide

/-- **A task with a long name is taken down but not asked for**: the wait puts its question to the
driver, and the driver sends nothing. -/
theorem long_task_unasked :
    let reply : Web.Reply := ⟨202, [("Location", taskPath longTask)], []⟩
    let d := updatingDriver reply
    let i := installer (updatingClient reply) biosJob d
    let question := biosJob.question longTask
    Web.IsPlain longTask ∧ Names reply longTask ∧
      PushAccepted configuredTarget (updating reply) biosJob unasked.toScene reply ∧
      (∃ m m', i.watched.step .background { driver := d.name } m .install =
        some (.ok { driver := d.name, installTask := some longTask }, m')) ∧
      (∃ result run', install (updatingClient reply).watched .background biosJob unasked =
          some (result, run') ∧ ∃ e ∈ Event.starts run'.toScene.log, e.deed = .call question) ∧
      ∀ p now, said configuredTarget (updating reply) p now (.call question) = [] := by
  intro reply d i question
  have hid : Web.IsPlain longTask := isPlain_replicate (by decide)
  have hlocation : taskPath longTask =
      tasksPath ++ "/" ++ longTask ++ String.ofList (List.replicate 0 '/') :=
    String.append_empty.symm
  have hfound : reply.headers.find? (fun h => Text.sameName h.1 "Location") =
      some ("Location", taskPath longTask) := List.find?_cons_of_pos (by decide +kernel)
  rw [hlocation] at hfound
  have hnames : Names reply longTask := .location hfound (List.all_eq_true.mp (by decide +kernel))
  have hpush : PushAccepted configuredTarget (updating reply) biosJob unasked.toScene reply :=
    pushAccepted_updating rfl (by decide +kernel)
  obtain ⟨v, husable⟩ := hpush.usable
  obtain ⟨u, hparse, husable'⟩ := usableUrl_taskPath hid husable
  have hlong : Web.Url.longest < u.text.utf8ByteSize :=
    longest_lt_of_task (path_of_task hid hparse (by decide) (.inr rfl)).1 longest_lt_longTask
  have hasks : AsksFor configuredTarget (updating reply) question u :=
    asksFor_question (updating reply) biosJob husable'
  have hd : installing? (updatingClient reply) = some d := rfl
  have hcaps : d.capabilities = capabilities configuredTarget (updating reply) := rfl
  have alive : Context.background.error? unasked.now = none := rfl
  obtain ⟨m, m', hknown, -, hstep, hnow, hstate⟩ :=
    hpush.taken_down (updatingClient reply) hcaps alive hid hnames
  obtain ⟨m'', log, hrun, hadds, e, he, hdeed⟩ := run_question reply hnow hstate longTask
  obtain ⟨f, hrefused, htransient, hexpired⟩ : ∃ f : Fault, (((capabilities configuredTarget
      (updating reply)).handle (biosJob.question longTask)).outcome 0 ({}, ())).1 = .error f ∧
        f.isTransient = false ∧ f.isSessionExpired = false :=
    ⟨_, (hasks.unsent hlong (start ()) 0).2, rfl, rfl⟩
  rw [hrefused] at hrun
  have hreport : ({ driver := d.name, steps := [.install], installTask := some longTask } :
    Report).installTask = some longTask := rfl
  have hwait := step_of_poll (i := i) rfl hreport (poll_refused hrun htransient hexpired)
  obtain ⟨run', hinstalled, rfl⟩ := install_of_runSteps hd hknown (by simp) (by simp)
    ((runSteps_cons hstep).trans (runSteps_error hwait))
  refine ⟨hid, hnames, hpush, ⟨m, m', hstep⟩, ⟨_, run', hinstalled, e, ?_, hdeed⟩, fun p now =>
    (hasks.unsent hlong p now).1⟩
  rw [hadds, Event.starts_append]
  exact List.mem_append_right _ he

end Redfish

end OutOfBand
