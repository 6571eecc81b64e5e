import OutOfBand.Proofs.Install.Account
import OutOfBand.Proofs.Install.Script

/-!
# Status steps follow their script

A status step against a driver that plays a script, without delay, is the automaton of the script:
an answer that is not decisive is followed by a pause and by one more poll for the same task
(`AtPoll`), and the first decisive one ends the step in the way that it says (`Concludes`). Without a
decisive answer the step has no end.
-/

namespace OutOfBand.Client

open Firmware

/-- Work that answers `a` without delay and leaves the world `w'`. -/
def Answers (op : Operation σ α) (now : Nat) (w : σ) (a : α) (w' : σ) : Prop :=
  (op now w).lag = some .zero ∧ (op now w).finish (op now w).world = (a, w')

/-- The driver of an install plays a script: `At k m` holds of the worlds in which it has answered
`k` polls and `m` attempts to open the session. -/
structure Plays (i : Installer σ) (kind : TaskKind) (task : String) (script : TaskScript)
    (At : Nat → Nat → σ → Prop) : Prop where
  backs : i.driver.backs .firmwareTaskStatus = true
  connected : i.driver.capabilities.connection.isSome = script.connected
  poll : ∀ k m w now answer, At k m w → script.answers k = some answer →
    ∃ w', Answers (i.question kind task) now w answer w' ∧ At (k + 1) m w'
  login : ∀ connection, i.driver.capabilities.connection = some connection →
    ∀ k m w now answer, At k m w → script.logins m = some answer →
    ∃ w', Answers connection.login now w answer w' ∧ At k (m + 1) w'

/-- The events of work that is answered at the instant at which it is started. -/
def Entry.answered (e : Entry σ) : List (Event σ) := [.started e, .ended e]

def statusCall (i : Installer σ) (kind : TaskKind) (task : String) : Call :=
  .firmwareTaskStatus kind i.job.component task i.job.version

/-- What the poll `k` leaves in the log: the poll, and a login if the session is to be opened. -/
def pollLog (i : Installer σ) (kind : TaskKind) (task : String) (script : TaskScript) (start k : Nat) :
    List (Event σ) :=
  Entry.answered ⟨i.driver, .call (statusCall i kind task), script.instant i.pacing start k⟩ ++
    if script.reopens k then
      Entry.answered ⟨i.driver, .login, script.instant i.pacing start k⟩
    else []

/-- The stage `x` of a wait comes before the poll `k`. -/
structure AtPoll (i : Installer σ) (kind : TaskKind) (task : String) (script : TaskScript)
    (At : Nat → Nat → σ → Prop) (report : Report) (s : Scene (Watched σ)) (k : Nat)
    (x : Installer.Stage (Watched σ)) : Prop where
  reopened : x.reopened = script.fresh k
  report : x.report = script.reportBefore report k
  now : x.scene.now = script.instant i.pacing s.now k
  log : x.scene.log = s.log ++ (List.range k).flatMap (pollLog i kind task script s.now)
  world : At k (script.loginsBefore k) x.scene.plain.world

/-- How a status step ends whose poll `n` is the first with a decisive answer, from the scene `m`
after this answer. -/
inductive Concludes (i : Installer σ) (ctx : Context) (step : Step) (script : TaskScript)
    (report : Report) (n : Nat) (m : Scene (Watched σ)) :
    Except InstallError Report → Scene (Watched σ) → Prop
  | complete {status} : script.answers n = some (.ok status) → status.state = .complete →
      Concludes i ctx step script report n m (.ok (script.reportBefore report (n + 1))) m
  | failed {status} : script.answers n = some (.ok status) → status.state = .failed →
      Concludes i ctx step script report n m (.error (.stepFailed step status)) m
  /-- The host is power cycled, or the controller reset, once. -/
  | controlled {status c result s'} : script.answers n = some (.ok status) →
      status.state = .powerCycleHost ∧ c = .powerSet .cycle ∨
        status.state = .powerCycleBmc ∧ c = .bmcReset .warm →
      (dispatch ctx i.watched.host.registry i.watched.host.config.perProvider c m).scene = s' →
      (match (dispatch ctx i.watched.host.registry i.watched.host.config.perProvider c m).result with
        | .ok _ => result = .ok (script.reportBefore report (n + 1))
        | .error e => result =
          .error (.hostControl step e (script.reportBefore report (n + 1)).lastStatus)) →
      Concludes i ctx step script report n m result s'
  | fault {f} : script.answers n = some (.error f) → script.reopens n = false →
      Concludes i ctx step script report n m
        (.error (.provider step f (script.reportBefore report n).lastStatus)) m
  | notReopened {g} : script.reopens n = true →
      script.logins (script.loginsBefore n) = some (.error g) →
      Concludes i ctx step script report n m
        (.error (.provider step g (script.reportBefore report n).lastStatus)) m

section StatusStep

variable {i : Installer σ} {ctx : Context} {step : Step} {kind : TaskKind} {task : String}
  {script : TaskScript} {At : Nat → Nat → σ → Prop} {report : Report} {s : Scene (Watched σ)}
  {k n : Nat} {x : Installer.Stage (Watched σ)}

theorem run_answers {d : Driver σ} {deed : Deed} {op : Operation σ α} {a : α} {w : σ}
    (alive : ctx.error? s.now = none) (h : Answers op s.now s.plain.world a w) :
    ctx.run (op.watched d deed) s = some (.ok a,
      Scene.watched ⟨s.now, w⟩ (s.log ++ Entry.answered ⟨d, deed, s.now⟩)) := by
  have hrun : ctx.run op s.plain = some (.ok a, ⟨s.now, w⟩) :=
    Context.run_instantly alive h.1 h.2
  have halive : ctx.isDone s.now = false := Context.isDone_eq_false_iff.mpr alive
  rw [run_watched, hrun]
  simp [Entry.heard, halive, Entry.answered]

theorem AtPoll.polled (hplays : Plays i kind task script At)
    (hx : AtPoll i kind task script At report s k x)
    (alive : ctx.error? (script.instant i.pacing s.now k) = none)
    {answer : Except Fault Status} (hanswer : script.answers k = some answer) :
    ∃ m, ctx.run (i.watched.question kind task) x.scene = some (.ok answer, m) ∧
      m.now = script.instant i.pacing s.now k ∧
      m.log = x.scene.log ++ Entry.answered
        ⟨i.driver, .call (statusCall i kind task), script.instant i.pacing s.now k⟩ ∧
      At (k + 1) (script.loginsBefore k) m.plain.world := by
  obtain ⟨w, hw, hat⟩ := hplays.poll k _ x.scene.plain.world x.scene.now answer hx.world hanswer
  have hrun : ctx.run (i.watched.question kind task) x.scene = some (.ok answer, _) :=
    run_answers (hx.now ▸ alive) hw
  refine ⟨_, hrun, hx.now, ?_, hat⟩
  rw [Scene.log_watched, hx.now]
  rfl

theorem Plays.reopened (hplays : Plays i kind task script At) (hreopens : script.reopens k = true)
    {m : Scene (Watched σ)} (alive : ctx.error? m.now = none)
    (hat : At (k + 1) (script.loginsBefore k) m.plain.world) {login : Except Fault Unit}
    (hlogin : script.logins (script.loginsBefore k) = some login) :
    ∃ connection m', i.watched.driver.capabilities.connection = some connection ∧
      ctx.run connection.login m = some (.ok login, m') ∧ m'.now = m.now ∧
      m'.log = m.log ++ Entry.answered ⟨i.driver, .login, m.now⟩ ∧
      At (k + 1) (script.loginsBefore k + 1) m'.plain.world := by
  have hconnected : i.driver.capabilities.connection.isSome = true := by
    rw [hplays.connected]
    simp only [TaskScript.reopens, Bool.and_eq_true] at hreopens
    exact hreopens.1.2
  obtain ⟨connection, hconnection⟩ := Option.isSome_iff_exists.mp hconnected
  obtain ⟨w, hw, hat'⟩ :=
    hplays.login connection hconnection (k + 1) _ m.plain.world m.now login hat hlogin
  have hrun : ctx.run (connection.watched i.driver).login m = some (.ok login, _) :=
    run_answers alive hw
  refine ⟨_, _, ?_, hrun, rfl, rfl, hat'⟩
  simp [Installer.watched, Driver.watched, hconnection]

theorem lastStatus_polled (r : Report) (n : Nat) :
    ({ r with polls := n } : Report).lastStatus = r.lastStatus := rfl

/-- How a wait goes on after an attempt to open the session again. -/
def loginTurn (i : Installer σ) (step : Step) (report : Report) : Except Fault Unit → Installer.Turn
  | .ok () => .again report i.pacing.interval true
  | .error f =>
    if f.isTransient then .again report i.pacing.backoff false
    else .finish (.error (.provider step f report.lastStatus))

variable (step) in
/-- A poll after which the session is opened goes on as the login says. -/
theorem AtPoll.loggedIn (hplays : Plays i kind task script At)
    (hx : AtPoll i kind task script At report s k x)
    (alive : ctx.error? (script.instant i.pacing s.now k) = none) {f : Fault}
    {login : Except Fault Unit} (hanswer : script.answers k = some (.error f))
    (hreopens : script.reopens k = true)
    (hlogin : script.logins (script.loginsBefore k) = some login) :
    ∃ m, i.watched.poll ctx step (i.watched.question kind task) x.reopened x.report x.scene =
        some (loginTurn i step (script.reportBefore report (k + 1)) login, m) ∧
      m.now = script.instant i.pacing s.now k ∧
      m.log = x.scene.log ++ pollLog i kind task script s.now k ∧
      At (k + 1) (script.loginsBefore (k + 1)) m.plain.world := by
  obtain ⟨m, hrun, hnow, hlog, hat⟩ := hx.polled hplays alive hanswer
  obtain ⟨hexpired, -, hfresh⟩ := script.of_reopens hanswer hreopens
  have htransient := Fault.isTransient_of_isSessionExpired hexpired
  obtain ⟨connection, m', hconnection, hrun', hnow', hlog', hat'⟩ :=
    hplays.reopened hreopens (hnow ▸ alive) hat hlogin
  refine ⟨m', ?_, hnow'.trans hnow, ?_, ?_⟩
  · have hreopen : i.watched.reopen ctx step (script.reportBefore report (k + 1)) f m =
        some (loginTurn i step (script.reportBefore report (k + 1)) login, m') := by
      unfold Installer.reopen
      simp only [hconnection, hrun', Option.map_some]
      rcases login with g | ⟨⟩
      · cases hg : g.isTransient <;> simp [loginTurn, hg]
      · rfl
    rw [script.reportBefore_of_error report hanswer] at hreopen ⊢
    unfold Installer.poll
    simp [hrun, hx.report, hx.reopened, htransient, hexpired, hfresh, hreopen]
  · simp [hlog, hlog', hnow, pollLog, hreopens]
  · rw [TaskScript.loginsBefore_succ, hreopens]
    exact hat'

/-- **A poll whose answer is not decisive** is followed by one more, for which the script tells what
goes before it. -/
theorem AtPoll.pending (hplays : Plays i kind task script At)
    (hx : AtPoll i kind task script At report s k x)
    (alive : ctx.error? (script.instant i.pacing s.now k) = none) (hpending : script.Pending k) :
    ∃ m, i.watched.poll ctx step (i.watched.question kind task) x.reopened x.report x.scene =
        some (.again (script.reportBefore report (k + 1)) (script.pause i.pacing k)
          (script.fresh (k + 1)), m) ∧
      m.now = script.instant i.pacing s.now k ∧
      m.log = x.scene.log ++ pollLog i kind task script s.now k ∧
      At (k + 1) (script.loginsBefore (k + 1)) m.plain.world := by
  cases hpending with
  | @state status hanswer hstate =>
      obtain ⟨m, hrun, hnow, hlog, hat⟩ := hx.polled hplays alive hanswer
      have hreopens := script.reopens_of_ok hanswer
      refine ⟨m, ?_, hnow, ?_, ?_⟩
      · unfold Installer.poll Installer.obey
        simp only [hrun, hx.report]
        simp only [List.mem_cons, List.not_mem_nil, or_false] at hstate
        rcases hstate with hstate | hstate | hstate | hstate <;>
          simp [hstate, TaskScript.reportBefore, TaskScript.pause, TaskScript.fresh_succ, hanswer,
            hreopens]
      · simp [hlog, pollLog, hreopens]
      · simpa [TaskScript.loginsBefore_succ, hreopens] using hat
  | @transient f hanswer hf =>
      obtain ⟨m, hrun, hnow, hlog, hat⟩ := hx.polled hplays alive hanswer
      have hexpired := Fault.isSessionExpired_of_isTransient hf
      have hreopens := script.reopens_of_not_expired hanswer hexpired
      refine ⟨m, ?_, hnow, ?_, ?_⟩
      · unfold Installer.poll
        simp [hrun, hx.report, hf, TaskScript.reportBefore, TaskScript.pause, TaskScript.fresh_succ,
          hanswer, hreopens]
      · simp [hlog, pollLog, hreopens]
      · simpa [TaskScript.loginsBefore_succ, hreopens] using hat
  | @reopened f hanswer hreopens hlogin =>
      obtain ⟨m, hpoll, hm⟩ := hx.loggedIn step hplays alive hanswer hreopens hlogin
      refine ⟨m, ?_, hm⟩
      have htransient := Fault.isTransient_of_isSessionExpired (script.of_reopens hanswer hreopens).1
      simp [hpoll, loginTurn, TaskScript.pause, TaskScript.fresh_succ, TaskScript.opened, hanswer, htransient,
        hreopens, hlogin]
  | @unreachable f g hanswer hreopens hlogin hg =>
      obtain ⟨m, hpoll, hm⟩ := hx.loggedIn step hplays alive hanswer hreopens hlogin
      refine ⟨m, ?_, hm⟩
      have htransient := Fault.isTransient_of_isSessionExpired (script.of_reopens hanswer hreopens).1
      simp [hpoll, loginTurn, TaskScript.pause, TaskScript.fresh_succ, TaskScript.opened, hanswer, htransient,
        hreopens, hlogin, hg]

theorem AtPoll.next (hplays : Plays i kind task script At)
    (hx : AtPoll i kind task script At report s k x)
    (alive : ctx.error? (script.instant i.pacing s.now (k + 1)) = none)
    (hpending : script.Pending k) :
    ∃ y, AtPoll i kind task script At report s (k + 1) y ∧
      i.watched.Rounds ctx step (i.watched.question kind task) 1 x y := by
  have alive' : ctx.error? (script.instant i.pacing s.now k) = none :=
    Context.error?_eq_none_of_le (script.instant_le_succ i.pacing s.now k) alive
  obtain ⟨m, hpoll, hnow, hlog, hat⟩ := hx.pending hplays alive' hpending
  have hinstant : Clock.tick (m.now + (script.pause i.pacing k).ns) =
      script.instant i.pacing s.now (k + 1) := by
    rw [hnow, TaskScript.instant]
  rw [← hinstant] at alive
  have hsleep := Context.sleep_alive alive
  rw [hinstant] at hsleep
  -- The instants of the two scenes differ, so it is the world that has to be carried over.
  have hworld : At (k + 1) (script.loginsBefore (k + 1)) m.world.world := hat
  let y : Installer.Stage (Watched σ) := ⟨script.fresh (k + 1), script.reportBefore report (k + 1),
    ⟨script.instant i.pacing s.now (k + 1), m.world⟩⟩
  refine ⟨y, ⟨rfl, rfl, rfl, ?_, hworld⟩, .next hpoll hsleep (.refl y)⟩
  rw [List.range_succ, List.flatMap_append, ← List.append_assoc, ← hx.log]
  simpa [Scene.log] using hlog

/-- **Every answer that is not decisive is followed by one more poll.** -/
theorem atPoll_rounds (hplays : Plays i kind task script At) (hstart : At 0 0 s.plain.world)
    (hpending : ∀ k < n, script.Told k ∧ ¬ script.Decisive k)
    (alive : ∀ k ≤ n, ctx.error? (script.instant i.pacing s.now k) = none) :
    ∃ y, AtPoll i kind task script At report s n y ∧
      i.watched.Rounds ctx step (i.watched.question kind task) n ⟨false, report, s⟩ y := by
  induction n with
  | zero => exact ⟨⟨false, report, s⟩, ⟨rfl, rfl, rfl, by simp, hstart⟩, .refl _⟩
  | succ n ih =>
      obtain ⟨x, hx, hrounds⟩ := ih (fun k hk => hpending k (Nat.lt_succ_of_lt hk))
        fun k hk => alive k (Nat.le_succ_of_le hk)
      obtain ⟨htold, hdecisive⟩ := hpending n (Nat.lt_succ_self n)
      obtain ⟨y, hy, hround⟩ :=
        hx.next hplays (alive (n + 1) (Nat.le_refl _)) (htold.pending hdecisive)
      exact ⟨y, hy, hrounds.trans hround⟩

theorem control_concludes {status : Status} {c : Call} {m : Scene (Watched σ)}
    (hanswer : script.answers k = some (.ok status))
    (hc : status.state = .powerCycleHost ∧ c = .powerSet .cycle ∨
      status.state = .powerCycleBmc ∧ c = .bmcReset .warm) :
    let r := i.watched.control ctx step (script.reportBefore report (k + 1)) c m
    Concludes i ctx step script report k m
      (r.1.map fun () => script.reportBefore report (k + 1)) r.2 := by
  intro r
  generalize hr : r = p
  obtain ⟨result, m'⟩ := p
  cases control_went hr with
  | accepted hD hresult | refused hD hresult =>
      refine .controlled hanswer hc (congrArg Dispatched.scene hD) ?_
      rw [hD, hresult]
      rfl

theorem obey_concludes {status : Status} {m : Scene (Watched σ)}
    (hanswer : script.answers k = some (.ok status))
    (hstate : status.state ∈ [.complete, .failed, .powerCycleHost, .powerCycleBmc]) :
    ∃ result s', i.watched.obey ctx step { script.reportBefore report k with
        polls := (script.reportBefore report k).polls + 1 } status m = (.finish result, s') ∧
      Concludes i ctx step script report k m result s' := by
  unfold Installer.obey
  simp only [← script.reportBefore_of_ok report hanswer]
  simp only [List.mem_cons, List.not_mem_nil, or_false] at hstate
  rcases hstate with hstate | hstate | hstate | hstate
  · exact ⟨_, _, by rw [hstate], .complete hanswer hstate⟩
  · exact ⟨_, _, by rw [hstate], .failed hanswer hstate⟩
  · exact ⟨_, _, by rw [hstate], control_concludes hanswer (.inl ⟨hstate, rfl⟩)⟩
  · exact ⟨_, _, by rw [hstate], control_concludes hanswer (.inr ⟨hstate, rfl⟩)⟩

/-- A fault after which the session is not opened ends the wait. -/
theorem AtPoll.faulted (hplays : Plays i kind task script At)
    (hx : AtPoll i kind task script At report s k x)
    (alive : ctx.error? (script.instant i.pacing s.now k) = none) {f : Fault}
    (hanswer : script.answers k = some (.error f)) (htransient : f.isTransient = false)
    (hreopens : script.reopens k = false)
    (hleft : (f.isSessionExpired && !x.reopened) = false ∨
      i.watched.driver.capabilities.connection = none) :
    ∃ m result s', i.watched.poll ctx step (i.watched.question kind task) x.reopened x.report
        x.scene = some (.finish result, s') ∧
      m.now = script.instant i.pacing s.now k ∧
      m.log = x.scene.log ++ pollLog i kind task script s.now k ∧
      Concludes i ctx step script report k m result s' := by
  obtain ⟨m, hrun, hnow, hlog, -⟩ := hx.polled hplays alive hanswer
  refine ⟨m, _, m, ?_, hnow, by simp [hlog, pollLog, hreopens], .fault hanswer hreopens⟩
  unfold Installer.poll
  simp only [hrun, hx.report, htransient]
  rcases hleft with hleft | hleft
  · simp [hleft, lastStatus_polled]
  · simp [Installer.reopen, hleft, lastStatus_polled]

/-- **A poll whose answer is decisive** ends the wait. -/
theorem AtPoll.decided (hplays : Plays i kind task script At)
    (hx : AtPoll i kind task script At report s k x)
    (alive : ctx.error? (script.instant i.pacing s.now k) = none) (hdecisive : script.Decisive k) :
    ∃ m result s', i.watched.poll ctx step (i.watched.question kind task) x.reopened x.report
        x.scene = some (.finish result, s') ∧
      m.now = script.instant i.pacing s.now k ∧
      m.log = x.scene.log ++ pollLog i kind task script s.now k ∧
      Concludes i ctx step script report k m result s' := by
  cases hdecisive with
  | @state status hanswer hstate =>
      obtain ⟨m, hrun, hnow, hlog, -⟩ := hx.polled hplays alive hanswer
      obtain ⟨result, s', hobey, hconcludes⟩ : ∃ result s', i.watched.obey ctx step _ status m = _ ∧
          Concludes i ctx step script report k m result s' := obey_concludes hanswer hstate
      refine ⟨m, result, s', ?_, hnow, ?_, hconcludes⟩
      · unfold Installer.poll
        simp only [hrun, hx.report, hobey]
      · simp [hlog, pollLog, script.reopens_of_ok hanswer]
  | @fault f hanswer htransient hexpired =>
      exact hx.faulted hplays alive hanswer htransient (script.reopens_of_not_expired hanswer hexpired)
        (.inl (by simp [hexpired]))
  | @disconnected f hanswer hexpired hconnected =>
      refine hx.faulted hplays alive hanswer (Fault.isTransient_of_isSessionExpired hexpired) ?_ (.inr ?_)
      · simp [TaskScript.reopens, hconnected]
      · have hnone := hplays.connected
        rw [hconnected, Option.isSome_eq_false_iff, Option.isNone_iff_eq_none] at hnone
        simp [Installer.watched, Driver.watched, hnone]
  | @expiredAgain f hanswer hexpired hfresh =>
      refine hx.faulted hplays alive hanswer (Fault.isTransient_of_isSessionExpired hexpired) ?_ (.inl ?_)
      · simp [TaskScript.reopens, hfresh]
      · simp [hx.reopened, hfresh]
  | @notReopened f g hanswer hreopens hlogin hg =>
      obtain ⟨m, hpoll, hnow, hlog, -⟩ :=
        hx.loggedIn step hplays alive hanswer hreopens hlogin
      refine ⟨m, _, m, ?_, hnow, hlog, .notReopened hreopens hlogin⟩
      rw [hpoll, script.reportBefore_of_error report hanswer]
      simp [loginTurn, hg, lastStatus_polled]

theorem step_eq_await (hbacks : i.driver.backs .firmwareTaskStatus = true)
    (hcall : i.call? report step = some (statusCall i kind task)) :
    i.watched.step ctx report s step =
      i.watched.await ctx step (i.watched.question kind task) false report s := by
  have hawait : ∀ step, i.watched.awaitTask ctx step kind task report s =
      i.watched.await ctx step (i.watched.question kind task) false report s := by
    intro step
    unfold Installer.awaitTask
    exact if_pos hbacks
  cases step <;> cases hcall <;> exact hawait _

/-- **Status steps follow their script.** Let a driver play a script, without delay, in a status
step under a context that does not end as long as the step polls. Every answer that is not decisive
is followed by one more poll for the same task; the first decisive one ends the step in the way that
it says; without a decisive answer the step has no end. The log has one poll for each answer, and one
login for each expired session that was not just opened. -/
theorem statusStep_script {i : Installer σ} {ctx : Context} {step : Step} {kind : TaskKind}
    {task : String} {script : TaskScript} {At : Nat → Nat → σ → Prop} {report : Report}
    {s : Scene (Watched σ)} (hcall : i.call? report step = some (statusCall i kind task))
    (hplays : Plays i kind task script At) (hstart : At 0 0 s.plain.world) :
    (i.watched.step ctx report s step).map Scene.unwatch = i.step ctx report s.plain step ∧
    (∀ n, (∀ k < n, script.Told k ∧ ¬ script.Decisive k) →
      (∀ k ≤ n, ctx.error? (script.instant i.pacing s.now k) = none) →
      ∃ x, AtPoll i kind task script At report s n x ∧
        i.watched.step ctx report s step =
          i.watched.await ctx step (i.watched.question kind task) x.reopened x.report x.scene) ∧
    (∀ n, (∀ k < n, script.Told k ∧ ¬ script.Decisive k) → script.Decisive n →
      (∀ k ≤ n, ctx.error? (script.instant i.pacing s.now k) = none) →
      ∃ m result s', i.watched.step ctx report s step = some (result, s') ∧
        m.now = script.instant i.pacing s.now n ∧
        m.log = s.log ++ (List.range (n + 1)).flatMap (pollLog i kind task script s.now) ∧
        Concludes i ctx step script report n m result s') ∧
    ((∀ k, script.Told k ∧ ¬ script.Decisive k) →
      (∀ k, ctx.error? (script.instant i.pacing s.now k) = none) →
      i.watched.step ctx report s step = none) := by
  have hawait : i.watched.step ctx report s step = i.watched.await ctx step _ false report s :=
    step_eq_await hplays.backs hcall
  refine ⟨step_plain, fun n hpending alive => ?_, fun n hpending hdecisive alive => ?_,
    fun hpending alive => ?_⟩
  · obtain ⟨x, hx, hrounds⟩ := atPoll_rounds hplays hstart hpending alive
    exact ⟨x, hx, hawait.trans hrounds.await_eq⟩
  · obtain ⟨x, hx, hrounds⟩ := atPoll_rounds hplays hstart hpending alive
    obtain ⟨m, result, s', hpoll, hnow, hlog, hconcludes⟩ :=
      hx.decided hplays (alive n (Nat.le_refl n)) hdecisive
    refine ⟨m, result, s', ?_, hnow, ?_, hconcludes⟩
    · rw [hawait, hrounds.await_eq]
      exact (Installer.LastRound.decided hpoll).await_eq
    · rw [hlog, hx.log, List.range_succ, List.flatMap_append, List.append_assoc]
      simp
  · rw [hawait]
    refine (Installer.await_eq_none_iff (x := ⟨false, report, s⟩)).mpr (.inl fun n => ?_)
    obtain ⟨x, -, hrounds⟩ : ∃ x, AtPoll i kind task script At report s n x ∧
        i.watched.Rounds ctx step _ n _ x :=
      atPoll_rounds hplays hstart (fun k _ => hpending k) fun k _ => alive k
    exact ⟨x, hrounds⟩

end StatusStep

/-! ## Mocks play their scripts -/

/-- What a mock answers: what it remembers to answer, then that the task is complete and that the
session is open. -/
def mockScript (w : Mock.State) : TaskScript where
  connected := true
  answers k := some ((w.statuses[k]?).getD (.ok ⟨.complete, "done"⟩))
  logins m := some (match w.openFailures[m]? with | none => .ok () | some f => .error f)

theorem answers_instantly {f : σ → α × σ} {w w' : σ} {a : α} (h : f w = (a, w')) (now : Nat) :
    Answers (.instantly f) now w a w' := by
  simp [Answers, Operation.instantly, h]

theorem drop_cases (l : List α) (k : Nat) :
    (l[k]? = none ∧ l.drop k = [] ∧ l.drop (k + 1) = []) ∨
      ∃ a, l[k]? = some a ∧ l.drop k = a :: l.drop (k + 1) := by
  cases h : l[k]? with
  | none =>
      have hle := List.getElem?_eq_none_iff.mp h
      exact .inl ⟨rfl, List.drop_eq_nil_iff.mpr hle, List.drop_eq_nil_iff.mpr (by omega)⟩
  | some a =>
      obtain ⟨hlt, rfl⟩ := List.getElem?_eq_some_iff.mp h
      exact .inr ⟨_, rfl, List.drop_eq_getElem_cons hlt⟩

theorem nextStatus_drop {w : Mock.State} {statuses : List (Except Fault Status)} {k : Nat}
    (h : w.statuses = statuses.drop k) : ∃ w',
      Mock.nextStatus w = ((statuses[k]?).getD (.ok ⟨.complete, "done"⟩), w') ∧
      w'.statuses = statuses.drop (k + 1) ∧ w'.openFailures = w.openFailures := by
  rcases drop_cases statuses k with ⟨hget, hdrop, hrest⟩ | ⟨a, hget, hdrop⟩
  · rw [hdrop] at h
    exact ⟨w, by simp [Mock.nextStatus, h, hget], by rw [h, hrest], rfl⟩
  · rw [hdrop] at h
    exact ⟨{ w with statuses := statuses.drop (k + 1) }, by simp [Mock.nextStatus, h, hget], rfl, rfl⟩

theorem login_drop {w : Mock.State} {failures : List Fault} {k : Nat}
    (h : w.openFailures = failures.drop k) (now : Nat) : ∃ w',
      Answers Mock.login now w (match failures[k]? with | none => .ok () | some f => .error f) w' ∧
      w'.statuses = w.statuses ∧ w'.openFailures = failures.drop (k + 1) := by
  rcases drop_cases failures k with ⟨hget, hdrop, hrest⟩ | ⟨f, hget, hdrop⟩
  · rw [hdrop] at h
    refine ⟨{ w.note "open" with opens := w.opens + 1 }, answers_instantly ?_ now, rfl, ?_⟩
    · simp [Mock.State.note, h, hget]
    · simp [Mock.State.note, h, hrest]
  · rw [hdrop] at h
    refine ⟨{ w.note "open" with opens := w.opens + 1, openFailures := failures.drop (k + 1) },
      answers_instantly ?_ now, rfl, rfl⟩
    simp [Mock.State.note, h, hget]

/-- **A mock plays its script.** -/
theorem mock_plays {i : Installer Mock.State} {m : Mock} (hi : i.driver = mockDriver m)
    (kind : TaskKind) (task : String) (w : Mock.State) :
    Plays i kind task (mockScript w) fun k n w' =>
      w'.statuses = w.statuses.drop k ∧ w'.openFailures = w.openFailures.drop n where
  backs := by rw [hi]; rfl
  connected := by rw [hi]; rfl
  poll k n w' now answer hat hanswer := by
    cases hanswer
    rw [Installer.question, hi]
    have hstatuses : (w'.note s!"firmware_task_status:{kind.tag}:{task}").statuses = _ := hat.1
    obtain ⟨w'', hnext, hstatuses', hopen⟩ := nextStatus_drop hstatuses
    exact ⟨w'', answers_instantly hnext now, hstatuses', hopen.trans hat.2⟩
  login connection hconnection k n w' now answer hat hanswer := by
    rw [hi] at hconnection
    cases hconnection
    cases hanswer
    obtain ⟨w'', hlogin, hstatuses, hopen⟩ := login_drop hat.2 now
    exact ⟨w'', hlogin, hstatuses.trans hat.1, hopen⟩

/-- A session that has expired, a task that is running, and then it is complete. -/
theorem statusStep_script_of_mock :
    let m : Mock := { name := "a" }
    let i := installer (mockClient m) { component := "bios", image := [] } (mockDriver m)
    let w : Mock.State := { statuses := [.error (.sessionExpired ""), .ok ⟨.running, "half"⟩] }
    let report : Report := { driver := "a", uploadTask := some "upload-task" }
    let poll := Deed.call (statusCall i .upload "upload-task")
    ∃ after result s', i.watched.step .background report ⟨0, { world := w }⟩ .uploadStatus =
        some (result, s') ∧
      (Event.starts after.log).map Entry.deed = [poll, .login, poll, poll] ∧
      Concludes i .background .uploadStatus (mockScript w) report 2 after result s' := by
  intro m i w report poll
  have hpending : ∀ k < 2, (mockScript w).Told k ∧ ¬ (mockScript w).Decisive k := by
    intro k hk
    have hcases : k = 0 ∨ k = 1 := by omega
    rcases hcases with rfl | rfl
    · exact ⟨⟨rfl, fun _ => rfl⟩, TaskScript.Pending.not_decisive (.reopened rfl rfl rfl)⟩
    · exact ⟨⟨rfl, fun _ => rfl⟩, TaskScript.Pending.not_decisive (.state rfl (by decide))⟩
  have hcall : i.call? report .uploadStatus = some (statusCall i .upload "upload-task") := rfl
  have hdecisive : (mockScript w).Decisive 2 := .state rfl (by decide)
  have alive : ∀ t, Context.background.error? t = none := fun _ => rfl
  obtain ⟨after, result, s', hstep, -, hlog, hconcludes⟩ :=
    (statusStep_script (s := ⟨0, { world := w }⟩) hcall (mock_plays rfl .upload "upload-task" w)
      ⟨rfl, rfl⟩).2.2.1 2 hpending hdecisive fun _ _ => alive _
  exact ⟨after, result, s', hstep, by rw [hlog]; rfl, hconcludes⟩

end OutOfBand.Client
