import OutOfBand.Proofs.Dispatch.Ledger
import OutOfBand.Proofs.Sessions.Open

/-!
# Reported timeouts

A driver whose time is up is reported to have timed out after so long. An attempt ends when its
time is up or when the call itself ends, and a call that tells the two apart reports the truth: that
is so for all that is dispatched (`Course.attempts`). Where sessions are opened or closed the end of
the call is reported as the end of the driver's time. Such a report is true just if the driver
really got all the time that it names (`GetsAll`).
-/

namespace OutOfBand.Client

open Context Running

/-! ## Attempts -/

/-- How an attempt of a driver is reported. -/
inductive Reported where
  | success
  /-- The driver failed, for that reason. -/
  | failed (cause : Cause)
  /-- The call ended while the driver was at work. -/
  | cut (cause : Interruption)
  deriving DecidableEq

namespace Reported

/-- What the report on an attempt of the driver adds to the failures of an error. -/
def failure? (d : Driver σ) : Reported → Option Failure
  | failed cause => some ⟨d.name, cause⟩
  | success | cut _ => none

/-- What it adds to the details of the record. -/
def detail? (d : Driver σ) : Reported → Option (String × String)
  | success => none
  | failed cause => some (d.name, cause.message)
  | cut cause => some (d.name, cause.message)

end Reported

/-- An attempt of a driver: when it began, when it was over, and how it is reported. -/
structure Attempt (σ : Type) where
  driver : Driver σ
  start : Nat
  stop : Nat
  reported : Reported

namespace Attempt

def failure? (a : Attempt σ) : Option Failure := a.reported.failure? a.driver

def detail? (a : Attempt σ) : Option (String × String) := a.reported.detail? a.driver

/-- What a log tells of the attempt, if the driver was started. -/
def entry (deed : Deed) (a : Attempt σ) : Entry σ := ⟨a.driver, deed, a.start⟩

/-- If the attempt is reported to have timed out, then it had gone on for as long as that. -/
def IsTrue (a : Attempt σ) : Prop :=
  ∀ d, a.reported = .failed (.timedOut d) → a.stop = ready a.start d

end Attempt

/-- One attempt after another, from an instant to an instant. -/
inductive Chained : Nat → List (Attempt σ) → Nat → Prop
  | nil (now : Nat) : Chained now [] now
  | cons {a : Attempt σ} {as last} : Chained a.stop as last → Chained a.start (a :: as) last

/-- What an operation says of its attempts, and what a log tells of them. -/
structure Says (deed : Deed) (attempts : List (Attempt σ)) (log : List (Event σ))
    (result : Except CallError α) (record : Metadata) : Prop where
  failures : ∀ e, result = .error e → e.failures = attempts.filterMap Attempt.failure?
  details : record.failures = Json.sorted (attempts.filterMap Attempt.detail?)
  /-- What was started are attempts, in order. -/
  order : List.Sublist (Event.starts log) (attempts.map (Attempt.entry deed))
  /-- An attempt that took any time was started. -/
  started : ∀ a ∈ attempts, a.stop ≠ a.start → a.entry deed ∈ Event.starts log

theorem Says.nobody {deed : Deed} {result : Except CallError α}
    (h : ∀ e, result = .error e → e.failures = []) :
    Says deed ([] : List (Attempt σ)) [] result {} :=
  ⟨h, rfl, List.Sublist.refl _, by simp⟩

/-! ## Dispatches -/

/-- How the turn of a driver is reported. -/
def Verdict.reported (time : Span) : Verdict α → Reported
  | accepted _ => .success
  | refused f => .failed (.fault f)
  | timedOut | skipped => .failed (.timedOut time)
  | cut cause => .cut cause

section Dispatch

variable {ctx : Context} {time : Span} {c : Call} {turns : List (Turn σ c.Outcome)}

/-- A driver whose time is up has had all of it. -/
theorem Trial.isTrue {op : Operation σ (Except Fault α)} {s s' : Scene σ} {v : Verdict α}
    (h : Trial ctx time op s v s') (d : Driver σ) :
    Attempt.IsTrue ⟨d, s.now, s'.now, v.reported time⟩ := by
  intro d hreported
  cases h with
  | timedOut hpos =>
      cases hreported
      exact (if_neg (Nat.ne_of_gt hpos)).symm
  | skipped hzero =>
      cases hreported
      exact (if_pos hzero).symm
  | accepted | refused | cut => cases hreported

theorem Trial.started {op : Operation σ (Except Fault α)} {s s' : Scene σ} {v : Verdict α}
    (h : Trial ctx time op s v s') (htime : s'.now ≠ s.now) (e : Entry σ) :
    e ∈ Event.starts (v.events e) := by
  cases h with
  | skipped => exact absurd rfl htime
  | accepted | refused | timedOut | cut => exact List.mem_singleton_self e

theorem Verdict.starts_events (v : Verdict α) (e : Entry σ) :
    List.Sublist (Event.starts (v.events e)) [e] := by
  cases v with
  | skipped => exact List.nil_sublist _
  | accepted | refused | timedOut | cut => exact List.Sublist.refl _

theorem Turn.failure?_eq (time : Span) (t : Turn σ α) (stop : Nat) :
    t.failure? time = Attempt.failure? ⟨t.driver, t.start, stop, t.verdict.reported time⟩ := by
  obtain ⟨d, start, v⟩ := t
  cases v <;> rfl

theorem Turn.detail?_eq (time : Span) (t : Turn σ α) (stop : Nat) :
    t.detail? time = Attempt.detail? ⟨t.driver, t.start, stop, t.verdict.reported time⟩ := by
  obtain ⟨d, start, v⟩ := t
  cases v <;> rfl

/-- **The turns of a dispatch are attempts that are reported as they were.** -/
theorem Course.attempts {s s' : Scene σ} (h : Course ctx time c s turns s') :
    ∃ attempts : List (Attempt σ), Chained s.now attempts s'.now ∧ (∀ a ∈ attempts, a.IsTrue) ∧
      turns.filterMap (Turn.failure? time) = attempts.filterMap Attempt.failure? ∧
      turns.filterMap (Turn.detail? time) = attempts.filterMap Attempt.detail? ∧
      List.Sublist (Event.starts (turns.flatMap (Turn.events c)))
        (attempts.map (Attempt.entry (.call c))) ∧
      ∀ a ∈ attempts, a.stop ≠ a.start →
        a.entry (.call c) ∈ Event.starts (turns.flatMap (Turn.events c)) := by
  induction h with
  | nil s => exact ⟨[], .nil _, by simp, rfl, rfl, List.Sublist.refl _, by simp⟩
  | @cons s m s'' d v turns _ htrial _ ih =>
      obtain ⟨attempts, hchained, htrue, hfailures, hdetails, horder, hstarted⟩ := ih
      have hfirst : Chained s.now (⟨d, s.now, m.now, v.reported time⟩ :: attempts) s''.now :=
        .cons (a := ⟨d, s.now, m.now, v.reported time⟩) hchained
      refine ⟨_, hfirst, List.forall_mem_cons.mpr ⟨htrial.isTrue d, htrue⟩, ?_, ?_, ?_,
        List.forall_mem_cons.mpr ⟨?_, ?_⟩⟩
      · rw [List.filterMap_cons, List.filterMap_cons, hfailures, Turn.failure?_eq time _ m.now]
      · rw [List.filterMap_cons, List.filterMap_cons, hdetails, Turn.detail?_eq time _ m.now]
      · rw [List.flatMap_cons, Event.starts_append, List.map_cons, ← List.singleton_append]
        exact (v.starts_events _).append horder
      · intro htime
        rw [List.flatMap_cons, Event.starts_append]
        exact List.mem_append_left _ (htrial.started htime _)
      · intro a ha htime
        rw [List.flatMap_cons, Event.starts_append]
        exact List.mem_append_right _ (hstarted a ha htime)

theorem Turn.Passed.filterMap {turns : List (Turn σ α)} {reasons : List Failure}
    (h : Turn.Passed time turns reasons) : turns.filterMap (Turn.failure? time) = reasons := by
  have hsome : (turns.map (Turn.failure? time)).filterMap id = (reasons.map some).filterMap id := by
    rw [show turns.map (Turn.failure? time) = reasons.map some from h]
  simpa [List.filterMap_map] using hsome

theorem Finish.failures_eq {operation : String} {rest : List (Driver σ)}
    {result : Except CallError α} {turns : List (Turn σ α)} {e : CallError}
    (h : Finish operation time [] turns rest result) (hresult : result = .error e) :
    e.failures = turns.filterMap (Turn.failure? time) := by
  cases h with
  | accepted => cases hresult
  | exhausted hpassed =>
      cases hresult
      rw [hpassed.filterMap]
      rfl
  | cut hpassed =>
      cases hresult
      rw [List.filterMap_append, hpassed.filterMap]
      exact (List.append_nil _).symm

end Dispatch

/-- **All that is dispatched is reported as it was.** -/
theorem call_told (client : Client σ) (ctx : Context) (run : Run σ) (c : Call) :
    ∃ attempts, Says (.call c) attempts (client.watched.call ctx c (run.watched [])).2.log
        (client.call ctx c run).1 (client.call ctx c run).2.record ∧
      Chained run.now attempts (client.call ctx c run).2.now ∧ ∀ a ∈ attempts, a.IsTrue := by
  have hplain := call_plain client ctx c (run.watched [])
  rw [Run.plain_watched] at hplain
  rw [← hplain]
  cases hs : ctx.error? run.now with
  | some cause =>
      have hdone : client.watched.call ctx c (run.watched []) =
          (.error (.context cause []), ⟨(run.watched []).toScene, {}⟩) := by
        rw [call, dispatch_done (s := (run.watched []).toScene) hs]
      rw [hdone]
      refine ⟨[], .nobody ?_, .nil _, by simp⟩
      rintro _ ⟨⟩
      rfl
  | none =>
      by_cases hnobody : eligible client.registry c = []
      · have hnone : eligible client.watched.registry c = [] := eligible_watched_of_nobody hnobody
        have hcall : client.watched.call ctx c (run.watched []) =
            (.error (.notImplemented c.feature), ⟨(run.watched []).toScene, {}⟩) := by
          rw [call, dispatch_nobody (s := (run.watched []).toScene) hs hnone]
        rw [hcall]
        refine ⟨[], .nobody ?_, .nil _, by simp⟩
        rintro _ ⟨⟩
        rfl
      · obtain ⟨turns, rest, -, hran⟩ :=
          dispatch_course (s := (run.watched []).toScene) hs hnobody client.config.perProvider
        obtain ⟨attempts, hchained, htrue, hfailures, hdetails, horder, hstarted⟩ :=
          hran.course.attempts
        refine ⟨attempts, ⟨?_, ?_, ?_, ?_⟩, hchained, htrue⟩
        · intro e he
          rw [← hfailures]
          exact hran.finish.failures_eq he
        · rw [← hdetails, ← failures_foldl_note]
          exact congrArg Metadata.failures hran.metadata
        · rw [show (client.watched.call ctx c (run.watched [])).2.log = _ from hran.log]
          exact horder
        · intro a ha htime
          rw [show (client.watched.call ctx c (run.watched [])).2.log = _ from hran.log]
          exact hstarted a ha htime

/-! ## Sessions -/

/-- The driver gets all of the time: the call is not over, and does not end before the time is up,
as timers see it. -/
def GetsAll (ctx : Context) (now : Nat) (time : Span) : Prop :=
  time.ns = 0 ∨ ctx.error? now = none ∧ ∀ u, ctx.deadline = some u → expiry now time ≤ Clock.tick u

/-- When a piece of work ends that is started beside others. -/
structure EndsSo (ctx : Context) (time : Span) (now : Nat) (op : Option (Operation σ α)) (stop : Nat)
    (answer : Except Interruption α) : Prop where
  started : stop ≠ now → op.isSome = true ∧ (ctx.limited now time).error? now = none
  /-- Work that its deadline ends goes on for all of its time just if it gets all of it. -/
  late : answer = .error .deadlineExceeded →
    reached now ctx.cancelAt = false ∧ (stop = ready now time ↔ GetsAll ctx now time)

section Sessions

variable {ctx : Context} {time : Span} {now : Nat}

/-- Work that is not started goes on for no time at all. -/
theorem getsAll_of_done (h : (ctx.limited now time).error? now ≠ none) :
    now = ready now time ↔ GetsAll ctx now time := by
  rcases Nat.eq_zero_or_pos time.ns with hzero | hpos
  · simp [ready, GetsAll, hzero]
  · have hdone : ctx.error? now ≠ none := fun alive => h ((error?_limited alive).mpr hpos)
    have hlater : now < Clock.tick (now + time.ns) :=
      Nat.lt_of_lt_of_le (Nat.lt_add_of_pos_right hpos) (Clock.le_tick _)
    simp [ready, GetsAll, Nat.ne_of_gt hpos, hdone, Nat.ne_of_lt hlater]

/-- Started work that its deadline ends. -/
theorem getsAll_of_cut {t : Nat} (halive : (ctx.limited now time).error? now = none)
    (hstop : (ctx.limited now time).stop = some t)
    (hcause : (ctx.limited now time).error? t = some .deadlineExceeded) :
    t = ready now time ↔ GetsAll ctx now time := by
  have alive := Context.error?_eq_none_of_limited halive
  have hpos := (error?_limited alive).mp halive
  have hready : ready now time = expiry now time := if_neg (Nat.ne_of_gt hpos)
  have hcancel : ∀ c, ctx.cancelAt = some c → t < c :=
    reached_eq_false_iff.mp (error?_eq_deadlineExceeded_iff.mp hcause).1
  rw [stop_limited] at hstop
  rw [hready, GetsAll]
  simp only [Nat.ne_of_gt hpos, false_or, alive, true_and]
  -- The cancellation comes too late, so only the deadline can end the work before its time.
  cases hc : ctx.cancelAt with
  | none =>
      cases hd : ctx.deadline with
      | none =>
          simp only [Context.stop, hc, hd, earlier, Option.map_none, Option.some.injEq] at hstop
          simp [hstop]
      | some u =>
          simp only [Context.stop, hc, hd, earlier, Option.map_some, Option.some.injEq] at hstop
          simp only [Option.some.injEq, forall_eq']
          omega
  | some c =>
      have hlt := hcancel c hc
      cases hd : ctx.deadline with
      | none =>
          simp only [Context.stop, hc, hd, earlier, Option.map_none, Option.some.injEq] at hstop
          simp only [reduceCtorEq, false_implies, implies_true, iff_true]
          omega
      | some u =>
          simp only [Context.stop, hc, hd, earlier, Option.map_some, Option.some.injEq] at hstop
          simp only [Option.some.injEq, forall_eq']
          omega

theorem start_endsSo (idle : α) (op : Option (Operation σ α)) (w v : σ) :
    EndsSo ctx time now op (start ctx time now idle op w).1.stop
      ((start ctx time now idle op w).1.settle v).1 := by
  cases op with
  | none => exact ⟨fun h => absurd rfl h, by rintro ⟨⟩⟩
  | some op =>
      cases hdone : (ctx.limited now time).error? now with
      | some cause =>
          have hstart : start ctx time now idle (some op) w = (finished now (.error cause), w) := by
            simp only [start, hdone]
          have hnot : (ctx.limited now time).error? now ≠ none := by
            rw [hdone]
            exact Option.some_ne_none _
          rw [hstart]
          refine ⟨fun h => absurd rfl h, ?_⟩
          rintro ⟨⟩
          exact ⟨(error?_eq_deadlineExceeded_iff.mp hdone).1, getsAll_of_done hnot⟩
      | none =>
          refine ⟨fun _ => ⟨rfl, hdone⟩, ?_⟩
          have alive := Context.error?_eq_none_of_limited hdone
          simp only [start, hdone]
          rcases ending_cases (ctx.limited now time) now (op now w).lag with
            ⟨t, hstop, -, hend⟩ | ⟨lag, -, -, hend⟩ | ⟨-, hnone, -⟩
          · obtain ⟨cause, hcause⟩ := error?_stop hstop
            rw [hend, hcause]
            simp only [settleAt_stop]
            have hanswer : ((settleAt now (begun (op now w) t (some cause)) (op now w).world).1.settle
                v).1 = .error cause :=
              settleAt_own (R := (· = .error cause)) (fun _ => rfl) now _ v
            rw [hanswer]
            rintro ⟨⟩
            refine ⟨?_, getsAll_of_cut hdone hstop hcause⟩
            exact reached_eq_false_iff.mpr (error?_eq_none_iff.mp alive).1
          · rw [hend]
            intro hlate
            have hanswer : ((settleAt now (begun (op now w) (ready now lag) none)
                (op now w).world).1.settle v).1 ≠ .error .deadlineExceeded :=
              settleAt_own (R := (· ≠ .error .deadlineExceeded)) (fun _ => by rintro ⟨⟩) now _ v
            exact absurd hlate hanswer
          · rw [stop_limited] at hnone
            cases hu : ctx.stop <;> simp [hu, earlier] at hnone

/-- The instants at which pieces of work end that are started at once. -/
def ends (ctx : Context) (time : Span) (idle : α) (ops : List (Option (Operation σ α)))
    (s : Scene σ) : List Nat :=
  (each (start ctx time s.now idle) ops s.world).1.map Running.stop

/-- What holds of each piece of work when it is started holds of all that are started at once. -/
theorem each_start_ends {idle : α} {R : Option (Operation σ α) → Nat → Except Interruption α → Prop}
    (hstart : ∀ op w v, R op (start ctx time now idle op w).1.stop
      ((start ctx time now idle op w).1.settle v).1)
    (ops : List (Option (Operation σ α))) (w : σ) :
    ∀ p ∈ (ops.zip ((each (start ctx time now idle) ops w).1.map Running.stop)).zip
      (each (start ctx time now idle) ops w).1, ∀ v, R p.1.1 p.1.2 (p.2.settle v).1 := by
  induction ops generalizing w with
  | nil => simp [each]
  | cons op ops ih =>
      simp only [each, List.map_cons, List.zip_cons_cons]
      exact List.forall_mem_cons.mpr ⟨hstart op w, ih _⟩

theorem together_ends {idle : α} {s : Scene σ} (ops : List (Option (Operation σ α))) :
    (ends ctx time idle ops s).length = ops.length ∧
      (together ctx time idle ops s).1.length = ops.length ∧
      (together ctx time idle ops s).2.now = (ends ctx time idle ops s).foldl max s.now ∧
      ∀ p ∈ (ops.zip (ends ctx time idle ops s)).zip (together ctx time idle ops s).1,
        EndsSo ctx time s.now p.1.1 p.1.2 p.2 := by
  refine ⟨by simp [ends, length_each], by simp [together, length_settleThrough, length_each],
    by simp [together, ends, lastStop, List.foldl_map], ?_⟩
  intro p hp
  simp only [together, List.zip_map_right] at hp
  obtain ⟨⟨q, r⟩, hr, rfl⟩ := List.mem_map.mp hp
  have hstarted := each_start_ends (R := fun op stop answer => EndsSo ctx time s.now op stop answer)
    (start_endsSo idle) ops s.world
  exact settleThrough_own (R := fun q answer => EndsSo ctx time s.now q.1 q.2 answer) _ hstarted _ _
    hr _

end Sessions

/-- What is reported of the session of a driver. -/
def reportedOf : Option Cause → Reported
  | none => .success
  | some cause => .failed cause

/-- What each driver does about its session. -/
def sessionOps (client : Client σ) (act : Connection σ → Operation σ (Except Fault Unit)) :
    List (Option (Operation σ (Except Fault Unit))) :=
  client.registry.map fun d => d.capabilities.connection.map act

section Attempts

variable (client : Client σ) (ctx : Context) (act : Connection σ → Operation σ (Except Fault Unit))
  (s : Scene σ)

/-- The instants at which the drivers are done with their sessions, or are stopped. -/
def sessionEnds : List Nat :=
  ends ctx (client.sessionTime ctx s.now) (.ok ()) (client.sessionOps act) s

def sessionAnswers : List (Except Interruption (Except Fault Unit)) :=
  (together ctx (client.sessionTime ctx s.now) (.ok ()) (client.sessionOps act) s).1

/-- What came of the session of each driver. -/
def sessionOutcomes : List (Driver σ × Option Cause) :=
  client.registry.zip
    ((client.sessionAnswers ctx act s).map (sessionCause (client.sessionTime ctx s.now)))

/-- The attempts of a client that opens or closes the sessions of its drivers. -/
def attempts : List (Attempt σ) :=
  ((client.registry.zip (client.sessionEnds ctx act s)).zip (client.sessionAnswers ctx act s)).map
    fun p => ⟨p.1.1, s.now, p.1.2, reportedOf (sessionCause (client.sessionTime ctx s.now) p.2)⟩

theorem length_sessionEnds :
    (client.sessionEnds ctx act s).length = client.registry.length := by
  rw [sessionEnds, (together_ends _).1, sessionOps, List.length_map]

theorem length_sessionAnswers :
    (client.sessionAnswers ctx act s).length = client.registry.length := by
  rw [sessionAnswers, (together_ends _).2.1, sessionOps, List.length_map]

/-- There is one attempt of each driver, which began at once and ended when the driver was done. -/
theorem map_fst_attempts :
    ((client.registry.zip (client.sessionEnds ctx act s)).zip
      (client.sessionAnswers ctx act s)).map Prod.fst =
        client.registry.zip (client.sessionEnds ctx act s) := by
  apply List.map_fst_zip
  apply Nat.le_of_eq
  rw [List.length_zip, length_sessionEnds, length_sessionAnswers, Nat.min_self]

/-- The reports are those on what came of the sessions. -/
theorem map_attempts : (client.attempts ctx act s).map (fun a => (a.driver, a.reported)) =
    (client.sessionOutcomes ctx act s).map fun p => (p.1, reportedOf p.2) := by
  have hdrivers := List.map_fst_zip (Nat.le_of_eq (client.length_sessionEnds ctx act s).symm)
  rw [sessionOutcomes, List.zip_map_right, List.map_map, attempts, List.map_map]
  conv => rhs; rw [← hdrivers, List.zip_map_left, List.map_map]
  rfl

theorem stops_attempts :
    (client.attempts ctx act s).map Attempt.stop = client.sessionEnds ctx act s := by
  have hends := List.map_snd_zip (Nat.le_of_eq (client.length_sessionEnds ctx act s))
  rw [attempts, List.map_map]
  conv => rhs; rw [← hends, ← map_fst_attempts, List.map_map]
  rfl

theorem map_entry_attempts (deed : Deed) :
    (client.attempts ctx act s).map (Attempt.entry deed) =
      client.registry.map (⟨·, deed, s.now⟩) := by
  have hdrivers := List.map_fst_zip (Nat.le_of_eq (client.length_sessionEnds ctx act s).symm)
  rw [attempts, List.map_map]
  conv => rhs; rw [← hdrivers, List.map_map, ← map_fst_attempts, List.map_map]
  rfl

variable {client ctx act s}

theorem endsSo_of_mem_attempts {a : Attempt σ} (h : a ∈ client.attempts ctx act s) :
    a.driver ∈ client.registry ∧ a.start = s.now ∧ ∃ answer,
      a.reported = reportedOf (sessionCause (client.sessionTime ctx s.now) answer) ∧
      EndsSo ctx (client.sessionTime ctx s.now) s.now
        (a.driver.capabilities.connection.map act) a.stop answer := by
  obtain ⟨⟨⟨d, stop⟩, answer⟩, hp, rfl⟩ := List.mem_map.mp h
  have hd : d ∈ client.registry := (List.of_mem_zip (List.of_mem_zip hp).1).1
  refine ⟨hd, rfl, answer, rfl, ?_⟩
  apply (together_ends (client.sessionOps act)).2.2.2
    ((d.capabilities.connection.map act, stop), answer)
  have hop := List.mem_map_of_mem
    (f := Prod.map (Prod.map (fun d => d.capabilities.connection.map act) id) id) hp
  rwa [← List.zip_map_left, ← List.zip_map_left] at hop

/-- What is made of the reports is made of what came of the sessions. -/
theorem filterMap_attempts (f : Driver σ → Reported → Option β) :
    (client.attempts ctx act s).filterMap (fun a => f a.driver a.reported) =
      (client.sessionOutcomes ctx act s).filterMap fun p => f p.1 (reportedOf p.2) := by
  have hpairs : (client.attempts ctx act s).filterMap (fun a => f a.driver a.reported) =
      ((client.attempts ctx act s).map fun a => (a.driver, a.reported)).filterMap
        fun p => f p.1 p.2 := by
    rw [List.filterMap_map]
    rfl
  rw [hpairs, map_attempts, List.filterMap_map]
  rfl

theorem filterMap_failure? : (client.attempts ctx act s).filterMap Attempt.failure? =
    Sessions.failed (client.sessionOutcomes ctx act s) := by
  apply (filterMap_attempts fun d r => r.failure? d).trans
  congr 1
  funext p
  obtain ⟨d, cause⟩ := p
  cases cause <;> rfl

theorem sorted_filterMap_detail? :
    Json.sorted ((client.attempts ctx act s).filterMap Attempt.detail?) =
      Sessions.details (Sessions.failed (client.sessionOutcomes ctx act s)) := by
  rw [Sessions.details, Sessions.failed, List.map_filterMap]
  apply congrArg Json.sorted
  apply (filterMap_attempts fun d r => r.detail? d).trans
  congr 1
  funext p
  obtain ⟨d, cause⟩ := p
  cases cause <;> rfl

/-- What is taken down of the failures, if successes are taken down elsewhere. -/
theorem Sessions.ofOutcomes_failures {note : Metadata → String → Metadata}
    (hnote : ∀ m name, (note m name).failures = m.failures)
    (outcomes : List (Driver σ × Option Cause)) :
    (ofOutcomes note outcomes).failures = failed outcomes ∧
      (ofOutcomes note outcomes).record.failures = details (failed outcomes) := by
  induction outcomes using List.reverseRecOn with
  | nil => exact ⟨rfl, rfl⟩
  | append_singleton outcomes p ih =>
      obtain ⟨d, cause⟩ := p
      rw [ofOutcomes_append_singleton]
      cases cause with
      | none =>
          simp only [add, failed, List.filterMap_append, List.filterMap_cons, Option.map_none,
            List.filterMap_nil, List.append_nil, hnote, Metadata.attempt]
          exact ih
      | some cause =>
          simp [add, failed, details, Metadata.attempt, Metadata.failure, ih.1, ih.2,
            Json.sorted_append_singleton]

/-- What opening or closing all sessions says of the attempts. -/
structure TellsSessions (client : Client σ) (ctx : Context)
    (act : Connection σ → Operation σ (Except Fault Unit)) (deed : Deed) (run : Run σ)
    (log : List (Event σ)) (result : Except CallError Unit) (run' : Run σ) : Prop where
  account : Says deed (client.attempts ctx act run.toScene) log result run'.record
  atOnce : ∀ a ∈ client.attempts ctx act run.toScene, a.start = run.now
  last : run'.now = ((client.attempts ctx act run.toScene).map Attempt.stop).foldl max run.now
  /-- A driver that is reported to have timed out had gone on for so long just if it got all of that
  time. -/
  timeouts : ∀ a ∈ client.attempts ctx act run.toScene, ∀ d, a.reported = .failed (.timedOut d) →
    d = client.sessionTime ctx run.now ∧ (a.stop = ready a.start d ↔ GetsAll ctx run.now d)
  /-- Where nobody says how much time a driver gets, every report is true. -/
  shared : ctx.perDriver = none → client.config.perProvider = none →
    ∀ a ∈ client.attempts ctx act run.toScene, a.IsTrue

/-- A report on a session that is said to have timed out is about work that its deadline ended. -/
theorem answer_of_timedOut {time d : Span} {answer : Except Interruption (Except Fault Unit)}
    (h : reportedOf (sessionCause time answer) = .failed (.timedOut d)) :
    answer = .error .deadlineExceeded ∧ d = time := by
  rcases answer with (_ | _) | (_ | _) <;> cases h
  exact ⟨rfl, rfl⟩

/-- The time that a driver gets for its session where nobody says how much: no more than is left. -/
theorem getsAll_of_shared (hctx : ctx.perDriver = none) (hclient : client.config.perProvider = none)
    {now : Nat} (hcancel : reached now ctx.cancelAt = false) :
    GetsAll ctx now (client.sessionTime ctx now) := by
  have hcancel' := reached_eq_false_iff.mp hcancel
  have htime : client.sessionTime ctx now = Budget.allocate ctx now 1 none := by
    rw [sessionTime, Budget.perDriver, hctx, hclient]
    rfl
  rw [htime, Budget.allocate]
  cases hd : ctx.deadline with
  | none => exact .inr ⟨error?_eq_none_iff.mpr ⟨hcancel', by simp [hd]⟩, by simp [hd]⟩
  | some u =>
      have hshare : (Budget.share ⟨u - now⟩ 1).ns ≤ u - now := by
        simp only [Budget.share, Span.ofMillis, Span.millis, Nat.max_self, Nat.div_one]
        omega
      simp only [remaining, hd, Option.map_some]
      rcases Nat.lt_or_ge now u with hlt | hge
      · refine .inr ⟨error?_eq_none_iff.mpr ⟨hcancel', ?_⟩, ?_⟩
        · simpa [hd] using hlt
        · intro u' hu'
          cases hd.symm.trans hu'
          exact Clock.tick_mono (by omega)
      · exact .inl (by omega)

theorem tellsSessions {deed : Deed} {run run' : Run σ} {log : List (Event σ)}
    {result : Except CallError Unit}
    (hlog : Event.starts log = client.asked ctx deed run.now)
    (hfailures : ∀ e, result = .error e →
      e.failures = Sessions.failed (client.sessionOutcomes ctx act run.toScene))
    (hdetails : run'.record.failures =
      Sessions.details (Sessions.failed (client.sessionOutcomes ctx act run.toScene)))
    (hlast : run'.now = (client.sessionEnds ctx act run.toScene).foldl max run.now) :
    TellsSessions client ctx act deed run log result run' where
  account := by
    refine ⟨?_, hdetails.trans sorted_filterMap_detail?.symm, ?_, ?_⟩
    · intro e he
      rw [hfailures e he, filterMap_failure?]
    · rw [hlog, map_entry_attempts, asked]
      split
      · exact List.nil_sublist _
      · exact List.filter_sublist.map _
    · intro a ha htime
      obtain ⟨hd, hstart, answer, -, hends⟩ := endsSo_of_mem_attempts ha
      rw [hstart] at htime
      rw [Attempt.entry, hstart]
      obtain ⟨hsome, halive⟩ := hends.started htime
      rw [hlog, asked, isDone_eq_false_iff.mpr halive, if_neg Bool.false_ne_true]
      refine List.mem_map.mpr ⟨a.driver, List.mem_filter.mpr ⟨hd, ?_⟩, rfl⟩
      simpa using hsome
  atOnce a ha := (endsSo_of_mem_attempts ha).2.1
  last := by rw [stops_attempts, hlast]
  timeouts a ha d hd := by
    obtain ⟨-, hstart, answer, hreported, hends⟩ := endsSo_of_mem_attempts ha
    obtain ⟨rfl, rfl⟩ := answer_of_timedOut (hreported.symm.trans hd)
    rw [hstart]
    exact ⟨rfl, (hends.late rfl).2⟩
  shared hctx hclient a ha d hd := by
    obtain ⟨-, hstart, answer, hreported, hends⟩ := endsSo_of_mem_attempts ha
    obtain ⟨rfl, rfl⟩ := answer_of_timedOut (hreported.symm.trans hd)
    obtain ⟨hcancel, hiff⟩ := hends.late rfl
    rw [hstart]
    exact hiff.mpr (getsAll_of_shared hctx hclient hcancel)

end Attempts

section Sessions

variable (client : Client σ) (ctx : Context) (run : Run σ)

theorem sessions_told (act : Connection σ → Operation σ (Except Fault Unit))
    (note : Metadata → String → Metadata) (hnote : ∀ m name, (note m name).failures = m.failures) :
    (client.sessions ctx act note run.toScene).1.failures =
        Sessions.failed (client.sessionOutcomes ctx act run.toScene) ∧
      (client.sessions ctx act note run.toScene).1.record.failures =
        Sessions.details (Sessions.failed (client.sessionOutcomes ctx act run.toScene)) ∧
      (client.sessions ctx act note run.toScene).2.now =
        (client.sessionEnds ctx act run.toScene).foldl max run.now := by
  obtain ⟨hfailures, hdetails⟩ :=
    Sessions.ofOutcomes_failures hnote (client.sessionOutcomes ctx act run.toScene)
  exact ⟨hfailures, hdetails, (together_ends (client.sessionOps act)).2.2.1⟩

theorem closeAll_told : TellsSessions client ctx Connection.logout .logout run
    (client.watched.closeAll ctx (run.watched [])).2.log (client.closeAll ctx run).1
    (client.closeAll ctx run).2 := by
  obtain ⟨log, hstarts, hwatched⟩ := closeAll_watched client ctx (run.watched [])
  obtain ⟨hfailures, hdetails, hnow⟩ := sessions_told client ctx run Connection.logout
    Metadata.sessionClosed (fun _ _ => rfl)
  rw [hwatched]
  refine tellsSessions hstarts ?_ hdetails hnow
  intro e he
  rw [← hfailures]
  simp only [closeAll] at he
  split at he
  · cases he
  · cases he
    rfl

theorem openAll_told : TellsSessions client ctx Connection.login .login run
    (client.watched.openAll ctx (run.watched [])).2.2.log (client.openAll ctx run).1
    (client.openAll ctx run).2.2 := by
  obtain ⟨log, hstarts, hwatched⟩ := openAll_watched client ctx (run.watched [])
  obtain ⟨-, hdetails, hnow⟩ := sessions_told client ctx run Connection.login
    Metadata.sessionOpened (fun _ _ => rfl)
  rw [hwatched]
  by_cases hnobody : client.registry = []
  · have hopen : client.openAll ctx run = (.ok (), client, { run with record := {} }) := by
      simp [openAll, hnobody]
    have houtcomes : client.sessionOutcomes ctx Connection.login run.toScene = [] := by
      simp [sessionOutcomes, hnobody]
    have hends : client.sessionEnds ctx Connection.login run.toScene = [] :=
      List.eq_nil_of_length_eq_zero (by rw [length_sessionEnds, hnobody]; rfl)
    rw [hopen]
    refine tellsSessions hstarts (by rintro _ ⟨⟩) ?_ ?_
    · rw [houtcomes]
      rfl
    · rw [hends]
      rfl
  · have hopen := openAll_eq ctx run hnobody
    rw [openAll_run ctx run hnobody]
    refine tellsSessions hstarts ?_ rfl hnow
    intro e he
    rw [hopen] at he
    split at he
    · cases he
      split <;> rfl
    · cases he

end Sessions

/-- **What the reports of timeouts are worth**, whatever the client, the context and the drivers. A
driver that is said to have timed out in a dispatch had really gone on for so long when it was given
up. Of one that is said so in the opening or closing of the sessions that is true just if it got all
of that time, which is always so if neither the context nor the client says how much it gets. -/
theorem timeouts_told (client : Client σ) (ctx : Context) (run : Run σ) :
    (∀ c, ∃ attempts, Says (.call c) attempts (client.watched.call ctx c (run.watched [])).2.log
        (client.call ctx c run).1 (client.call ctx c run).2.record ∧
      Chained run.now attempts (client.call ctx c run).2.now ∧ ∀ a ∈ attempts, a.IsTrue) ∧
    TellsSessions client ctx Connection.login .login run
      (client.watched.openAll ctx (run.watched [])).2.2.log (client.openAll ctx run).1
      (client.openAll ctx run).2.2 ∧
    TellsSessions client ctx Connection.logout .logout run
      (client.watched.closeAll ctx (run.watched [])).2.log (client.closeAll ctx run).1
      (client.closeAll ctx run).2 :=
  ⟨call_told client ctx run, openAll_told client ctx run, closeAll_told client ctx run⟩

/-- A client with one driver, which never opens its session. -/
def hungClient : Client (Nat → Nat) := { registry := [slowDriver 0 "a" none], config := {} }

/-- A call that may take a second, in which each driver may take ten. -/
def hurried : Context := { deadline := some 1000000000, perDriver := some (.ofMillis 10000) }

/-- The call ends after a second, and the driver is said to have timed out after ten. -/
theorem session_timeout_overstated :
    let run : Run (Nat → Nat) := { now := 0, world := fun _ => 0 }
    (hungClient.openAll hurried run).1 =
        .error (.context .deadlineExceeded [⟨"a", .timedOut (.ofMillis 10000)⟩]) ∧
      (hungClient.openAll hurried run).2.2.now = 1000000000 ∧
      ∃ a ∈ hungClient.attempts hurried Connection.login run.toScene, ¬ a.IsTrue := by
  intro run
  have hattempts : (hungClient.attempts hurried Connection.login run.toScene).map
      (fun a => (a.start, a.stop, a.reported)) =
        [(0, 1000000000, .failed (.timedOut (.ofMillis 10000)))] := by decide +kernel
  obtain ⟨a, ha, heq⟩ := List.mem_map.mp (hattempts ▸ List.mem_singleton_self _)
  obtain ⟨hstart, hrest⟩ := Prod.mk.inj heq
  obtain ⟨hstop, hreported⟩ := Prod.mk.inj hrest
  refine ⟨by decide +kernel, by decide +kernel, a, ha, ?_⟩
  intro htrue
  have hten := htrue _ hreported
  rw [hstart, hstop] at hten
  revert hten
  decide

end OutOfBand.Client
