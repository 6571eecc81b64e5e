import OutOfBand.Client.Clocked
import OutOfBand.Proofs.Budget
import OutOfBand.Proofs.Patience

/-!
# Where the clock stops

By the clock everything goes as it does without, or stops where the clock cannot show an instant
that is asked for (`ByClock`). A row of drivers stops at the first whose turn comes so late that the
clock cannot show when its time is up (`Stops`), and the sessions of all drivers before any of them
is asked. The deadline of the call has no part in that: a driver that is given too much time stops a
call also if the call itself has only seconds left (`endless_time_stops_call`). No call stops as
long as the clock can show the deadline and the time of one driver after it, or the instant at which
every driver has had its time and a millisecond.
-/

namespace OutOfBand

variable {clock : Clock} {s t : Nat} {time : Span} {ctx : Context}

/-! ## The clock -/

theorem Clock.shows_eq_false_of_le (h : s ≤ t) (hs : clock.shows s = false) :
    clock.shows t = false := by
  rw [shows, decide_eq_false_iff_not, Nat.not_lt] at hs ⊢
  calc seconds
      ≤ (clock.start + s) / 1000000000 := hs
    _ ≤ (clock.start + t) / 1000000000 := Nat.div_le_div_right (Nat.add_le_add_left h _)

/-- A context that the clock can show is the one that is made without it. -/
theorem Context.withTimeout?_eq : withTimeout? clock t time =
    if clock.shows (t + time.ns) then some { deadline := some (t + time.ns) } else none := by
  rw [withTimeout?, Clock.after?]
  cases clock.shows (t + time.ns) <;> rfl

theorem Context.limited?_eq : ctx.limited? clock t time =
    if clock.shows (t + time.ns) then some (ctx.limited t time) else none := by
  rw [limited?, Clock.after?]
  cases clock.shows (t + time.ns) <;> rfl

theorem Context.withTimeout?_eq_some (h : withTimeout? clock t time = some ctx) :
    ctx = { deadline := some (t + time.ns) } := by
  rw [withTimeout?_eq, Option.ite_none_right_eq_some] at h
  exact (Option.some.inj h.2).symm

theorem Context.limited?_eq_none_iff :
    ctx.limited? clock t time = none ↔ clock.shows (t + time.ns) = false := by
  rw [limited?_eq]
  cases clock.shows (t + time.ns) <;> simp

namespace Client

open Context

/-! ## A row of drivers -/

/-- The scene after the turn of a candidate, if the next one then has its turn. -/
def passedOver (ctx : Context) (time : Span) (c : Candidate σ α) (s : Scene σ) :
    Option (Scene σ) :=
  match ctx.attempt time c.work s with
  | (.ok (.ok _), _) => none
  | (.ok (.error _), s) => some s
  | (.error _, s) => if (ctx.error? s.now).isSome then none else some s

/-- The scene in which the clock stops candidates that have their turns one after another: that of
the first whose time is up when the clock cannot show it. -/
inductive Stops (clock : Clock) (ctx : Context) (time : Span) :
    List (Candidate σ α) → Scene σ → Scene σ → Prop
  | here {c : Candidate σ α} {rest : List (Candidate σ α)} {s : Scene σ} :
      clock.shows (s.now + time.ns) = false → Stops clock ctx time (c :: rest) s s
  | later {c : Candidate σ α} {rest : List (Candidate σ α)} {s m s' : Scene σ} :
      clock.shows (s.now + time.ns) = true → passedOver ctx time c s = some m →
      Stops clock ctx time rest m s' → Stops clock ctx time (c :: rest) s s'

section Row

variable {c : Candidate σ α} {candidates rest : List (Candidate σ α)} {failures : List Failure}
  {record : Metadata} {operation : String} {s m s' : Scene σ}

/-- A candidate is passed over if it fails, or if its time is up and the call is not over. -/
theorem passedOver_eq_some_iff : passedOver ctx time c s = some m ↔
    (∃ f, ctx.attempt time c.work s = (.ok (.error f), m)) ∨
      ∃ cause, ctx.attempt time c.work s = (.error cause, m) ∧ ctx.error? m.now = none := by
  simp only [passedOver]
  generalize ctx.attempt time c.work s = p
  obtain ⟨r, m'⟩ := p
  rcases r with cause | f | a
  · by_cases hsame : m' = m
    · subst hsame
      simp
    · simp [hsame]
  · simp
  · simp

variable (failures record operation) in
/-- Where a candidate is passed over, the others are tried from there on. -/
theorem tryEach_of_passedOver (h : passedOver ctx time c s = some m) :
    ∃ failures' record', ∀ rest,
      Dispatched.tryEach ctx operation time (c :: rest) failures record s =
        Dispatched.tryEach ctx operation time rest failures' record' m := by
  rcases passedOver_eq_some_iff.mp h with ⟨f, hfailed⟩ | ⟨cause, htimedOut, halive⟩
  · simp only [Dispatched.tryEach, hfailed]
    exact ⟨_, _, fun _ => rfl⟩
  · simp only [Dispatched.tryEach, htimedOut, halive]
    exact ⟨_, _, fun _ => rfl⟩

variable (failures record operation) in
/-- Where it is not, the others have no part in what comes of the call. -/
theorem tryEach_of_not_passedOver (h : passedOver ctx time c s = none) :
    (∀ rest, Dispatched.tryEach ctx operation time (c :: rest) failures record s =
      Dispatched.tryEach ctx operation time [c] failures record s) ∧
    (Dispatched.tryEach ctx operation time [c] failures record s).exhausted? = none := by
  simp only [passedOver] at h
  simp only [Dispatched.tryEach]
  generalize ctx.attempt time c.work s = p at h ⊢
  obtain ⟨r, m'⟩ := p
  rcases r with cause | f | a
  · cases hended : ctx.error? m'.now with
    | some cause =>
        simp only [hended]
        exact ⟨fun _ => trivial, rfl⟩
    | none => simp [hended] at h
  · cases h
  · exact ⟨fun _ => rfl, rfl⟩

/-- A candidate has its turn if the clock can show when its time is up, and then the others have
theirs if it is passed over. -/
theorem tryEachBy_cons (hshows : clock.shows (s.now + time.ns) = true) :
    (∃ m failures' record', passedOver ctx time c s = some m ∧
      Dispatched.tryEachBy clock ctx operation time (c :: rest) failures record s =
        Dispatched.tryEachBy clock ctx operation time rest failures' record' m ∧
      Dispatched.tryEach ctx operation time (c :: rest) failures record s =
        Dispatched.tryEach ctx operation time rest failures' record' m) ∨
    (passedOver ctx time c s = none ∧
      Dispatched.tryEachBy clock ctx operation time (c :: rest) failures record s =
        .ok (Dispatched.tryEach ctx operation time (c :: rest) failures record s)) := by
  have hsome : (ctx.limited? clock s.now time).isNone = false := by
    rw [← Bool.not_eq_true, Option.isNone_iff_eq_none, limited?_eq_none_iff, hshows]
    simp
  rw [Dispatched.tryEachBy, hsome]
  cases hpassed : passedOver ctx time c s with
  | some m =>
      obtain ⟨failures', record', htry⟩ := tryEach_of_passedOver failures record operation hpassed
      have hone : Dispatched.tryEach ctx operation time [c] failures record s =
          ⟨.error (.exhausted operation failures'), record', m⟩ := htry []
      left
      refine ⟨m, failures', record', rfl, ?_, htry rest⟩
      rw [hone]
      rfl
  | none =>
      obtain ⟨htry, hnone⟩ := tryEach_of_not_passedOver failures record operation hpassed
      right
      refine ⟨rfl, ?_⟩
      simp [htry rest, hnone]

theorem tryEachBy_of_not_shows (hshows : clock.shows (s.now + time.ns) = false) :
    Dispatched.tryEachBy clock ctx operation time (c :: rest) failures record s = .error s := by
  have hnone : (ctx.limited? clock s.now time).isNone = true := by
    rw [Option.isNone_iff_eq_none, limited?_eq_none_iff]
    exact hshows
  rw [Dispatched.tryEachBy, hnone]
  rfl

/-- **The clock changes nothing that it does not stop.** -/
theorem tryEachBy_eq_ok {d : Dispatched σ α}
    (h : Dispatched.tryEachBy clock ctx operation time candidates failures record s = .ok d) :
    d = Dispatched.tryEach ctx operation time candidates failures record s := by
  induction candidates generalizing failures record s with
  | nil =>
      cases h
      rfl
  | cons c rest ih =>
      cases hshows : clock.shows (s.now + time.ns) with
      | false =>
          rw [tryEachBy_of_not_shows hshows] at h
          cases h
      | true =>
          rcases tryEachBy_cons hshows with ⟨m, failures', record', -, hby, htry⟩ | ⟨-, hby⟩
          · rw [hby] at h
            rw [htry]
            exact ih h
          · rw [hby] at h
            exact (Except.ok.inj h).symm

theorem stops_cons_iff : Stops clock ctx time (c :: rest) s s' ↔
    (clock.shows (s.now + time.ns) = false ∧ s = s') ∨
      clock.shows (s.now + time.ns) = true ∧
        ∃ m, passedOver ctx time c s = some m ∧ Stops clock ctx time rest m s' := by
  constructor
  · intro h
    cases h with
    | here hnot => exact .inl ⟨hnot, rfl⟩
    | later hshows hpassed hrest => exact .inr ⟨hshows, _, hpassed, hrest⟩
  · rintro (⟨hnot, rfl⟩ | ⟨hshows, m, hpassed, hrest⟩)
    · exact .here hnot
    · exact .later hshows hpassed hrest

/-- **Where the clock stops a row of candidates.** -/
theorem tryEachBy_eq_error_iff :
    Dispatched.tryEachBy clock ctx operation time candidates failures record s = .error s' ↔
      Stops clock ctx time candidates s s' := by
  induction candidates generalizing failures record s with
  | nil =>
      constructor
      · intro h
        cases h
      · intro h
        cases h
  | cons c rest ih =>
      rw [stops_cons_iff]
      cases hshows : clock.shows (s.now + time.ns) with
      | false =>
          rw [tryEachBy_of_not_shows hshows]
          simp
      | true =>
          rcases tryEachBy_cons hshows with ⟨m, _, _, hpassed, hby, -⟩ | ⟨hpassed, hby⟩
          · rw [hby, ih, hpassed]
            simp
          · rw [hby, hpassed]
            simp

/-! ### How late turns come -/

/-- A candidate is passed over before the call ends, and when its time is up at the latest. -/
theorem passedOver_spec (alive : ctx.error? s.now = none) (h : passedOver ctx time c s = some m) :
    ctx.error? m.now = none ∧ m.now ≤ expiry s.now time := by
  have hle : (ctx.attempt time c.work s).2.now ≤ expiry s.now time :=
    now_le_expiry (run_timely (run_limited ctx time c.work s))
  rcases passedOver_eq_some_iff.mp h with ⟨f, hfailed⟩ | ⟨cause, htimedOut, halive⟩
  · obtain ⟨v, htrial, hshows⟩ := attempt_trial c.work alive
    rw [hfailed] at hle htrial hshows
    refine ⟨htrial.alive alive fun cause hv => ?_, hle⟩
    subst hv
    obtain ⟨_, hcut⟩ := hshows
    cases hcut
  · rw [htimedOut] at hle
    exact ⟨halive, hle⟩

/-- Where a row is stopped, the call is not over. -/
theorem Stops.alive (h : Stops clock ctx time candidates s s') (alive : ctx.error? s.now = none) :
    ctx.error? s'.now = none ∧ clock.shows (s'.now + time.ns) = false := by
  induction h with
  | here hnot => exact ⟨alive, hnot⟩
  | later _ hpassed _ ih => exact ih (passedOver_spec alive hpassed).1

/-- A row is stopped before every candidate has had its time and a millisecond. -/
theorem Stops.before (h : Stops clock ctx time candidates s s') (alive : ctx.error? s.now = none) :
    clock.shows (s.now + candidates.length * (time.ns + 1000000)) = false := by
  induction h with
  | @here c rest s hnot =>
      refine Clock.shows_eq_false_of_le ?_ hnot
      rw [List.length_cons, Nat.succ_mul]
      omega
  | @later c rest s m s' _ hpassed _ ih =>
      obtain ⟨halive, hle⟩ := passedOver_spec alive hpassed
      refine Clock.shows_eq_false_of_le ?_ (ih halive)
      have htick : expiry s.now time < s.now + time.ns + 1000000 := Clock.tick_lt _
      rw [List.length_cons, Nat.succ_mul]
      omega

end Row

/-! ## Calls and sessions -/

/-- The candidates for a call. -/
def candidates (registry : List (Driver σ)) (c : Call) : List (Candidate σ c.Outcome) :=
  (eligible registry c).map fun d => ⟨d.name, work d c⟩

/-- What goes by the clock goes as it does without, unless the clock stops it. -/
structure ByClock (clocked : Except ρ α) (plain : α) (stop : ρ → Prop) : Prop where
  ok : ∀ a, clocked = .ok a → a = plain
  error_iff : ∀ r, clocked = .error r ↔ stop r

theorem ByClock.going {plain : α} {stop : ρ → Prop} (h : ∀ r, ¬ stop r) :
    ByClock (.ok plain) plain stop := by
  refine ⟨fun a hok => (Except.ok.inj hok).symm, fun r => ⟨fun herror => ?_, fun hr => ?_⟩⟩
  · cases herror
  · exact absurd hr (h r)

theorem ByClock.stopped {plain : α} {stop : ρ → Prop} {r : ρ} (h : ∀ r', stop r' ↔ r = r') :
    ByClock (.error r) plain stop := by
  refine ⟨fun a hok => ?_, fun r' => ?_⟩
  · cases hok
  · rw [h, Except.error.injEq]

section Client

variable {registry : List (Driver σ)} {perDriver : Option Span} {client : Client σ} {c : Call}
  {s s' : Scene σ} {run : Run σ}

theorem dispatchBy_eq (alive : ctx.error? s.now = none) (h : eligible registry c ≠ []) :
    dispatchBy clock ctx registry perDriver c s =
      Dispatched.tryEachBy clock ctx c.feature.tag
        (Budget.perDriver ctx s.now (eligible registry c).length perDriver)
        (candidates registry c) [] {} s := by
  rw [dispatchBy, alive]
  simp [h, candidates]

theorem dispatchBy_of_done (h : ctx.error? s.now ≠ none ∨ eligible registry c = []) :
    dispatchBy clock ctx registry perDriver c s = .ok (dispatch ctx registry perDriver c s) := by
  rw [dispatchBy, if_pos]
  rcases h with hdone | hnobody
  · simp [Option.isSome_iff_ne_none.mpr hdone]
  · simp [hnobody]

theorem dispatchBy_byClock : ByClock (dispatchBy clock ctx registry perDriver c s)
    (dispatch ctx registry perDriver c s) fun s' => ctx.error? s.now = none ∧
      Stops clock ctx (Budget.perDriver ctx s.now (eligible registry c).length perDriver)
        (candidates registry c) s s' := by
  by_cases hdone : ctx.error? s.now ≠ none ∨ eligible registry c = []
  · rw [dispatchBy_of_done hdone]
    apply ByClock.going
    rintro s' ⟨halive, hstops⟩
    rcases hdone with hdone | hnobody
    · exact hdone halive
    · rw [candidates, hnobody] at hstops
      cases hstops
  · obtain ⟨halive, hsome⟩ := not_or.mp hdone
    have halive : ctx.error? s.now = none := Decidable.not_not.mp halive
    rw [dispatchBy_eq halive hsome]
    refine ⟨fun d h => ?_, fun s' => ?_⟩
    · rw [tryEachBy_eq_ok h, dispatch, halive]
      cases hdrivers : eligible registry c with
      | nil => exact absurd hdrivers hsome
      | cons d ds => simp [candidates, hdrivers]
    · rw [tryEachBy_eq_error_iff, and_iff_right halive]

/-- The time that each driver gets for a call that begins at an instant. -/
def callTime (client : Client σ) (ctx : Context) (now : Nat) (c : Call) : Span :=
  Budget.perDriver ctx now (eligible client.registry c).length client.config.perProvider

/-- The clock stops a call: at a driver whose turn comes and whose time is up when the clock cannot
show it. What is on record stays there. -/
def StopsCall (clock : Clock) (client : Client σ) (ctx : Context) (c : Call)
    (run run' : Run σ) : Prop :=
  run'.record = run.record ∧ ctx.error? run.now = none ∧
    Stops clock ctx (client.callTime ctx run.now c) (candidates client.registry c) run.toScene
      run'.toScene

/-- The clock stops what is done with the sessions of the drivers, before anything is done. -/
def StopsSessions (clock : Clock) (client : Client σ) (ctx : Context) (run run' : Run σ) : Prop :=
  run' = run ∧ client.registry ≠ [] ∧
    clock.shows (run.now + (client.sessionTime ctx run.now).ns) = false

theorem callBy_byClock : ByClock (client.callBy clock ctx c run) (client.call ctx c run)
    (StopsCall clock client ctx c run) := by
  obtain ⟨hok, herror⟩ : ByClock
      (dispatchBy clock ctx client.registry client.config.perProvider c run.toScene) _ _ :=
    dispatchBy_byClock
  rw [callBy]
  generalize dispatchBy clock ctx client.registry client.config.perProvider c run.toScene = r
    at hok herror
  cases r with
  | ok d =>
      rw [call, ← hok d rfl]
      apply ByClock.going
      rintro run' ⟨-, hstops⟩
      cases (herror run'.toScene).mpr hstops
  | error s =>
      apply ByClock.stopped
      intro run'
      constructor
      · rintro ⟨hrecord, hstops⟩
        obtain ⟨s', record⟩ := run'
        cases hrecord
        cases (herror s').mpr hstops
        rfl
      · intro h
        cases h
        exact ⟨rfl, (herror s).mp rfl⟩

theorem sessionsBy_byClock (act : Run σ → α) : ByClock (client.sessionsBy clock ctx act run)
    (act run) (StopsSessions clock client ctx run) := by
  have hstops : (client.registry.isEmpty ||
      (ctx.limited? clock run.now (client.sessionTime ctx run.now)).isSome) = false ↔
      client.registry ≠ [] ∧
        clock.shows (run.now + (client.sessionTime ctx run.now).ns) = false := by
    rw [Bool.or_eq_false_iff, List.isEmpty_eq_false_iff, Option.isSome_eq_false_iff,
      Option.isNone_iff_eq_none, limited?_eq_none_iff]
  rw [sessionsBy]
  generalize (client.registry.isEmpty ||
    (ctx.limited? clock run.now (client.sessionTime ctx run.now)).isSome) = goes at hstops ⊢
  cases goes with
  | true =>
      apply ByClock.going
      rintro run' ⟨-, h⟩
      cases hstops.mpr h
  | false =>
      apply ByClock.stopped
      intro run'
      constructor
      · rintro ⟨rfl, -⟩
        rfl
      · intro h
        exact ⟨h.symm, hstops.mp rfl⟩

/-- A call with a deadline is stopped only if the clock cannot show the time of one driver after the
deadline. -/
theorem shows_deadline_of_stopsCall {run' : Run σ} (h : StopsCall clock client ctx c run run')
    (hdeadline : ctx.deadline = some t) :
    clock.shows (t + (client.callTime ctx run.now c).ns) = false := by
  obtain ⟨-, halive, hstops⟩ := h
  obtain ⟨halive', hnot⟩ := hstops.alive halive
  have hbefore : run'.now < t := (error?_eq_none_iff.mp halive').2 t hdeadline
  exact Clock.shows_eq_false_of_le (Nat.add_le_add_right (Nat.le_of_lt hbefore) _) hnot

/-- A call is stopped only if the clock cannot show the instant at which every driver has had its
time and a millisecond. -/
theorem shows_turns_of_stopsCall {run' : Run σ} (h : StopsCall clock client ctx c run run') :
    clock.shows (run.now + (eligible client.registry c).length *
      ((client.callTime ctx run.now c).ns + 1000000)) = false := by
  obtain ⟨-, halive, hstops⟩ := h
  have hnot := hstops.before halive
  rwa [candidates, List.length_map] at hnot

/-- Sessions that have even shares of the time until a deadline are stopped only if the clock cannot
show the deadline. -/
theorem shows_deadline_of_stopsSessions {run' : Run σ}
    (h : StopsSessions clock client ctx run run') (hctx : ctx.perDriver = none)
    (hclient : client.config.perProvider = none) (hdeadline : ctx.deadline = some t)
    (hle : run.now ≤ t) : clock.shows t = false := by
  obtain ⟨-, -, hnot⟩ := h
  have hshare : (client.sessionTime ctx run.now).ns ≤ t - run.now := by
    have heven := Budget.mul_share_le ⟨t - run.now⟩ 1
    rw [Nat.one_mul, ← Budget.allocate_of_deadline hdeadline] at heven
    rwa [sessionTime, Budget.perDriver, hctx, hclient]
  exact Clock.shows_eq_false_of_le (by omega) hnot

variable (clock client ctx run c) in
/-- **By the clock.** An instant can be asked for or not, whatever the deadline of the call may be;
what is done goes as it does without the clock, and stops just where an instant is asked for that
the clock cannot show: a call where the turn of such a driver comes, the sessions of all drivers
before any of them is asked. A call is not stopped if the clock can show its deadline and the time
of one driver after it, nor if it can show when all drivers have had their time; sessions are not
stopped at all where nothing is said of the time of a driver and the clock can show the deadline. -/
theorem goes_by_clock :
    (∀ time : Span, withTimeout? clock run.now time =
        (if clock.shows (run.now + time.ns) then some { deadline := some (run.now + time.ns) }
          else none) ∧
      ctx.limited? clock run.now time =
        if clock.shows (run.now + time.ns) then some (ctx.limited run.now time) else none) ∧
    ByClock (client.callBy clock ctx c run) (client.call ctx c run)
      (StopsCall clock client ctx c run) ∧
    ByClock (client.openAllBy clock ctx run) (client.openAll ctx run)
      (StopsSessions clock client ctx run) ∧
    ByClock (client.closeAllBy clock ctx run) (client.closeAll ctx run)
      (StopsSessions clock client ctx run) ∧
    ByClock (client.keepCompatibleBy clock ctx run) (client.keepCompatible ctx run)
      (StopsSessions clock client ctx run) ∧
    (∀ run', StopsCall clock client ctx c run run' →
      clock.shows (run.now + (eligible client.registry c).length *
        ((client.callTime ctx run.now c).ns + 1000000)) = false ∧
      ∀ t, ctx.deadline = some t →
        clock.shows (t + (client.callTime ctx run.now c).ns) = false) ∧
    (∀ run', StopsSessions clock client ctx run run' → ctx.perDriver = none →
      client.config.perProvider = none → ∀ t, ctx.deadline = some t → run.now ≤ t →
        clock.shows t = false) := by
  refine ⟨?_, callBy_byClock, sessionsBy_byClock _, sessionsBy_byClock _, sessionsBy_byClock _,
    ?_, ?_⟩
  · intro time
    exact ⟨withTimeout?_eq, limited?_eq⟩
  · intro run' hstops
    exact ⟨shows_turns_of_stopsCall hstops, fun t => shows_deadline_of_stopsCall hstops⟩
  · intro run' hstops hctx hclient t
    exact shows_deadline_of_stopsSessions hstops hctx hclient

/-- A client with one driver that answers at once and gets all the seconds that 64 bits can count. A
call that has twenty seconds left is stopped, though the clock can show its deadline, and so is what
is done with the session of the driver. -/
theorem endless_time_stops_call :
    let client : Client Mock.State :=
      { registry := [mockDriver { name := "a" }]
        config := { perProvider := some (.ofSecs 18446744073709551615) } }
    let run : Run Mock.State := { now := 0, world := {} }
    ∃ ctx, withTimeout? {} 0 (.ofSecs 20) = some ctx ∧
      client.callBy {} ctx .powerState run = .error run ∧
      client.openAllBy {} ctx run = .error run ∧ client.closeAllBy {} ctx run = .error run ∧
      client.keepCompatibleBy {} ctx run = .error run := by
  intro client run
  have htime : Clock.shows {} (0 + (Span.ofSecs 18446744073709551615).ns) = false := by decide
  refine ⟨{ deadline := some 20000000000 }, by decide, ?_, ?_, ?_, ?_⟩
  · exact (callBy_byClock.error_iff run).mpr ⟨rfl, rfl, .here htime⟩
  all_goals
    exact ((sessionsBy_byClock _).error_iff run).mpr ⟨rfl, List.cons_ne_nil _ _, htime⟩

end Client

end Client

end OutOfBand
