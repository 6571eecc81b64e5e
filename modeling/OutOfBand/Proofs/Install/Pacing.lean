import OutOfBand.Proofs.Install.StatusStep

/-!
# The pace of a status step

After every answer that does not end it a status step pauses, for as long as the kind of the answer
says: the poll interval after a state that is not the last and after a session that could be opened
again, the back-off after a fault that is expected while a controller restarts, of a poll or of an
attempt to open the session. So the time from the first poll to the deciding one is told by how many
answers there are of each kind, whatever their order.

Pauses are whole milliseconds here, and so are the instants of a clock that only timers move. A step
that begins between two of them is late by the rest of that millisecond, once: on the clock of the
timers (`Clock.tick`) the time is the same for all steps.
-/

namespace OutOfBand

namespace Clock

/-- A timer that is set for whole milliseconds fires so much later on the clock of the timers. -/
theorem tick_add {t d : Nat} (h : Whole d) : tick (t + d) = tick t + d := by
  unfold Whole at h
  unfold tick
  omega

end Clock

open Clock

namespace Client

open Firmware

namespace TaskScript

variable (script : TaskScript)

/-! ## Kinds of answers -/

/-- Whether the poll `k` was answered with a state. -/
def isStatus (k : Nat) : Bool :=
  match script.answers k with
  | some (.ok _) => true
  | _ => false

/-- Whether the poll `k` failed as it is expected while a controller restarts. -/
def isUnreachable (k : Nat) : Bool :=
  match script.answers k with
  | some (.error f) => f.isTransient
  | _ => false

/-- Whether the session had expired at the poll `k` and could be opened again. -/
def isReopened (k : Nat) : Bool :=
  script.reopens k && opened (script.logins (script.loginsBefore k))

/-- Whether the session had expired at the poll `k` and could not be opened again as it is expected
while a controller restarts. -/
def isShutOut (k : Nat) : Bool :=
  script.reopens k &&
    match script.logins (script.loginsBefore k) with
    | some (.error f) => f.isTransient
    | _ => false

/-- How many of the first `n` polls are of a kind. -/
def count (kind : Nat → Bool) (n : Nat) : Nat := (List.range n).countP kind

/-- After how many of the first `n` polls the step pauses for the poll interval. -/
def intervals (n : Nat) : Nat := count script.isStatus n + count script.isReopened n

/-- After how many of the first `n` polls the step pauses for the back-off. -/
def backoffs (n : Nat) : Nat := count script.isUnreachable n + count script.isShutOut n

/-- How long the step pauses between the first poll and the poll `n`. -/
def pauses (pacing : PollPacing) (n : Nat) : Nat :=
  pacing.interval.ns * script.intervals n + pacing.backoff.ns * script.backoffs n

theorem count_succ (kind : Nat → Bool) (n : Nat) :
    count kind (n + 1) = count kind n + if kind n then 1 else 0 := by
  rw [count, List.range_succ, List.countP_append, List.countP_singleton]
  rfl

variable {script}

/-- An answer that does not end the step is of one kind, which tells the pause after it. -/
theorem Pending.kind {k : Nat} (h : script.Pending k) (pacing : PollPacing) :
    (script.intervals (k + 1) = script.intervals k + 1 ∧
      script.backoffs (k + 1) = script.backoffs k ∧ script.pause pacing k = pacing.interval) ∨
    (script.intervals (k + 1) = script.intervals k ∧
      script.backoffs (k + 1) = script.backoffs k + 1 ∧
      script.pause pacing k = pacing.backoff) := by
  simp only [intervals, backoffs, count_succ]
  cases h with
  | @state status hanswer _ =>
      have hreopens := script.reopens_of_ok hanswer
      left
      simp [isStatus, isUnreachable, isReopened, isShutOut, pause, hanswer, hreopens]
      omega
  | @transient f hanswer hf =>
      have hreopens :=
        script.reopens_of_not_expired hanswer (Fault.isSessionExpired_of_isTransient hf)
      right
      simp [isStatus, isUnreachable, isReopened, isShutOut, pause, hanswer, hreopens, hf]
      omega
  | @reopened f hanswer hreopens hlogin =>
      have hf := Fault.isTransient_of_isSessionExpired (script.of_reopens hanswer hreopens).1
      left
      simp [isStatus, isUnreachable, isReopened, isShutOut, pause, opened, hanswer, hreopens, hf,
        hlogin]
      omega
  | @unreachable f g hanswer hreopens hlogin hg =>
      have hf := Fault.isTransient_of_isSessionExpired (script.of_reopens hanswer hreopens).1
      right
      simp [isStatus, isUnreachable, isReopened, isShutOut, pause, opened, hanswer, hreopens, hf,
        hlogin, hg]
      omega

/-- **Every poll before the deciding one is followed by one pause.** -/
theorem polls_eq {n : Nat} (h : ∀ k < n, script.Pending k) :
    n = script.intervals n + script.backoffs n := by
  induction n with
  | zero => rfl
  | succ n ih =>
      have hn := ih fun k hk => h k (Nat.lt_succ_of_lt hk)
      rcases (h n (Nat.lt_succ_self n)).kind {} with ⟨hi, hb, -⟩ | ⟨hi, hb, -⟩
      · omega
      · omega

/-- **The instant of a poll** is told by the pauses before it. -/
theorem tick_instant {n : Nat} (h : ∀ k < n, script.Pending k) {pacing : PollPacing}
    (hinterval : Whole pacing.interval.ns) (hbackoff : Whole pacing.backoff.ns) (start : Nat) :
    tick (script.instant pacing start n) = tick start + script.pauses pacing n := by
  induction n with
  | zero => exact (Nat.add_zero _).symm
  | succ n ih =>
      have hn := ih fun k hk => h k (Nat.lt_succ_of_lt hk)
      rw [instant]
      unfold pauses at hn ⊢
      rcases (h n (Nat.lt_succ_self n)).kind pacing with ⟨hi, hb, hpause⟩ | ⟨hi, hb, hpause⟩
      · rw [hpause, tick_eq (whole_tick _), tick_add hinterval, hn, hi, hb, Nat.mul_succ]
        omega
      · rw [hpause, tick_eq (whole_tick _), tick_add hbackoff, hn, hi, hb, Nat.mul_succ]
        omega

theorem whole_instant {start : Nat} (h : Whole start) (pacing : PollPacing) (n : Nat) :
    Whole (script.instant pacing start n) := by
  induction n with
  | zero => exact h
  | succ n _ => exact whole_tick _

end TaskScript

/-! ## Polls in a log -/

/-- The instants at which tasks were asked for their state. -/
def pollInstants (log : List (Event σ)) : List Nat :=
  ((Event.starts log).filter fun e => e.deed.isPoll).map Entry.start

section StatusStep

variable {i : Installer σ} {ctx : Context} {step : Step} {kind : TaskKind} {task : String}
  {script : TaskScript} {report : Report} {m s' : Scene (Watched σ)} {n : Nat}
  {result : Except InstallError Report}

theorem pollInstants_append (log more : List (Event σ)) :
    pollInstants (log ++ more) = pollInstants log ++ pollInstants more := by
  simp [pollInstants]

theorem pollInstants_of_deeds {log : List (Event σ)}
    (h : ∀ e ∈ Event.starts log, e.deed.isPoll = false) : pollInstants log = [] := by
  rw [pollInstants, List.map_eq_nil_iff, List.filter_eq_nil_iff]
  intro e he
  rw [h e he]
  exact Bool.false_ne_true

theorem pollInstants_pollLog (start k : Nat) :
    pollInstants (pollLog i kind task script start k) = [script.instant i.pacing start k] := by
  rw [pollLog, pollInstants_append]
  cases script.reopens k <;> rfl

theorem pollInstants_flatMap_pollLog (start n : Nat) :
    pollInstants ((List.range n).flatMap (pollLog i kind task script start)) =
      (List.range n).map (script.instant i.pacing start) := by
  induction n with
  | zero => rfl
  | succ n ih =>
      rw [List.range_succ, List.flatMap_append, List.map_append, pollInstants_append, ih,
        List.flatMap_singleton, pollInstants_pollLog]
      rfl

/-- After the deciding poll no task is asked for its state. -/
theorem Concludes.adds (h : Concludes i ctx step script report n m result s') :
    ∃ log, Adds m s' log ∧ pollInstants log = [] := by
  cases h with
  | complete | failed | fault | notReopened => exact ⟨[], .refl m, rfl⟩
  | @controlled status c _ _ _ hc hscene _ =>
      obtain ⟨log, hadds, htried⟩ :=
        dispatch_tried ctx i.host.registry i.host.config.perProvider c m
      refine ⟨log, hscene ▸ hadds, pollInstants_of_deeds fun e he => ?_⟩
      rw [htried.deed_eq e he]
      rcases hc with ⟨-, rfl⟩ | ⟨-, rfl⟩ <;> rfl

/-- **Status steps keep their pace.** Let a driver play a script, without delay, in a status step
under a context that never ends, and let the poll `n` be the first with a decisive answer. Then the
step makes this poll after just `n` others, each of which was followed by one pause; and from the
first poll to the deciding one the poll interval goes by for each state that was not the last and for
each session that was opened again, and the back-off for each fault that was expected, of a poll or
of an attempt to open the session. -/
theorem statusStep_pace {i : Installer σ} {ctx : Context} {step : Step} {kind : TaskKind}
    {task : String} {script : TaskScript} {At : Nat → Nat → σ → Prop} {report : Report}
    {s : Scene (Watched σ)} {n : Nat} (hcall : i.call? report step = some (statusCall i kind task))
    (hplays : Plays i kind task script At) (hstart : At 0 0 s.plain.world)
    (hpending : ∀ k < n, script.Told k ∧ ¬ script.Decisive k) (hdecisive : script.Decisive n)
    (hcancel : ctx.cancelAt = none) (hdeadline : ctx.deadline = none)
    (hinterval : Whole i.pacing.interval.ns) (hbackoff : Whole i.pacing.backoff.ns) :
    ∃ result s' log last, i.watched.step ctx report s step = some (result, s') ∧
      i.step ctx report s.plain step = some (result, s'.plain) ∧ Adds s s' log ∧
      (pollInstants log).length = n + 1 ∧ (pollInstants log).head? = some s.now ∧
      (pollInstants log).getLast? = some last ∧
      n = (TaskScript.count script.isStatus n + TaskScript.count script.isReopened n) +
        (TaskScript.count script.isUnreachable n + TaskScript.count script.isShutOut n) ∧
      let time := i.pacing.interval.ns *
          (TaskScript.count script.isStatus n + TaskScript.count script.isReopened n) +
        i.pacing.backoff.ns *
          (TaskScript.count script.isUnreachable n + TaskScript.count script.isShutOut n)
      tick last = tick s.now + time ∧ (Whole s.now → last = s.now + time) := by
  have alive : ∀ t, ctx.error? t = none := fun t =>
    Context.error?_eq_none_iff.mpr ⟨by simp [hcancel], by simp [hdeadline]⟩
  have hkinds : ∀ k < n, script.Pending k := fun k hk => (hpending k hk).1.pending (hpending k hk).2
  obtain ⟨x, hx, hrounds⟩ : ∃ x, AtPoll i kind task script At report s n x ∧
      i.watched.Rounds ctx step (i.watched.question kind task) n ⟨false, report, s⟩ x :=
    atPoll_rounds hplays hstart hpending fun k _ => alive _
  obtain ⟨m, result, s', hpoll, -, hlog, hconcludes⟩ := hx.decided hplays (alive _) hdecisive
  obtain ⟨more, hmore, hquiet⟩ := hconcludes.adds
  have hstep : i.watched.step ctx report s step = some (result, s') := by
    rw [step_eq_await hplays.backs hcall, hrounds.await_eq]
    exact (Installer.LastRound.decided hpoll).await_eq
  have hplain : (i.watched.step ctx report s step).map Scene.unwatch =
      i.step ctx report s.plain step := step_plain
  -- All polls of the step are those that the script tells.
  have hadds : Adds s m ((List.range (n + 1)).flatMap (pollLog i kind task script s.now)) := by
    rw [Adds, hlog, hx.log, List.range_succ, List.flatMap_append, List.append_assoc,
      List.flatMap_singleton]
  have hinstants : pollInstants ((List.range (n + 1)).flatMap
      (pollLog i kind task script s.now) ++ more) =
      (List.range (n + 1)).map (script.instant i.pacing s.now) := by
    rw [pollInstants_append, hquiet, List.append_nil, pollInstants_flatMap_pollLog]
  have htick := TaskScript.tick_instant hkinds hinterval hbackoff s.now
  refine ⟨result, s', _, script.instant i.pacing s.now n, hstep, ?_, hadds.trans hmore, ?_, ?_, ?_,
    TaskScript.polls_eq hkinds, htick, fun hwhole => ?_⟩
  · rw [← hplain, hstep]
    rfl
  · rw [hinstants, List.length_map, List.length_range]
  · rw [hinstants, List.range_succ_eq_map]
    rfl
  · rw [hinstants, List.range_succ, List.map_append]
    exact List.getLast?_concat
  · rw [tick_eq hwhole, tick_eq (TaskScript.whole_instant hwhole i.pacing n)] at htick
    exact htick

end StatusStep

/-! ## A step with pauses of every kind -/

/-- The session has expired twice, and opens only at the second attempt; then the task is running,
then the controller restarts, and then the task is complete. -/
theorem statusStep_pace_of_mock :
    let m : Mock := { name := "a" }
    let i := installer (mockClient m) { component := "bios", image := [] } (mockDriver m)
    let w : Mock.State := {
      statuses := [.error (.sessionExpired ""), .error (.sessionExpired ""), .ok ⟨.running, "half"⟩,
        .error (.connectionRefused "")]
      openFailures := [.timeout ""] }
    let report : Report := { driver := "a", uploadTask := some "upload-task" }
    (∀ k < 4, (mockScript w).Told k ∧ ¬ (mockScript w).Decisive k) ∧ (mockScript w).Decisive 4 ∧
      ∃ result s', i.watched.step .background report ⟨0, { world := w }⟩ .uploadStatus =
          some (result, s') ∧
        (pollInstants s'.log).length = 5 ∧ (pollInstants s'.log).head? = some 0 ∧
        (pollInstants s'.log).getLast? = some (Span.ofSecs (2 * 2 + 2 * 10)).ns := by
  intro m i w report
  have hkinds : ∀ k < 4, (mockScript w).Told k ∧ (mockScript w).Pending k := by
    intro k hk
    have hcases : k = 0 ∨ k = 1 ∨ k = 2 ∨ k = 3 := by omega
    rcases hcases with rfl | rfl | rfl | rfl
    · exact ⟨⟨rfl, fun _ => rfl⟩, .unreachable rfl rfl rfl rfl⟩
    · exact ⟨⟨rfl, fun _ => rfl⟩, .reopened rfl rfl rfl⟩
    · exact ⟨⟨rfl, fun _ => rfl⟩, .state rfl (by decide)⟩
    · exact ⟨⟨rfl, fun _ => rfl⟩, .transient rfl rfl⟩
  have hpending : ∀ k < 4, (mockScript w).Told k ∧ ¬ (mockScript w).Decisive k := fun k hk =>
    ⟨(hkinds k hk).1, (hkinds k hk).2.not_decisive⟩
  have hdecisive : (mockScript w).Decisive 4 := .state rfl (by decide)
  have hcall : i.call? report .uploadStatus = some (statusCall i .upload "upload-task") := rfl
  have hendless : Context.background.cancelAt = none ∧ Context.background.deadline = none :=
    ⟨rfl, rfl⟩
  obtain ⟨result, s', log, last, hstep, -, hlog, hlength, hhead, hlast, -, -, htime⟩ :=
    statusStep_pace (s := ⟨0, { world := w }⟩) hcall (mock_plays rfl .upload "upload-task" w)
      ⟨rfl, rfl⟩ hpending hdecisive hendless.1 hendless.2 ⟨2000, rfl⟩ ⟨10000, rfl⟩
  have hnew : s'.log = log := hlog
  have hinterval : i.pacing.interval = .ofSecs 2 := rfl
  have hbackoff : i.pacing.backoff = .ofSecs 10 := rfl
  have hone : TaskScript.count (mockScript w).isStatus 4 = 1 ∧
      TaskScript.count (mockScript w).isReopened 4 = 1 ∧
      TaskScript.count (mockScript w).isUnreachable 4 = 1 ∧
      TaskScript.count (mockScript w).isShutOut 4 = 1 := ⟨rfl, rfl, rfl, rfl⟩
  refine ⟨hpending, hdecisive, result, s', hstep, ?_, ?_, ?_⟩
  · rw [hnew, hlength]
  · rw [hnew, hhead]
  · rw [hnew, hlast, htime ⟨0, rfl⟩, hinterval, hbackoff, hone.1, hone.2.1, hone.2.2.1, hone.2.2.2]
    simp [Span.ofSecs]

end Client

end OutOfBand
