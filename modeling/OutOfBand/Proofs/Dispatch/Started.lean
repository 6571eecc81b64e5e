import OutOfBand.Proofs.Dispatch.Account

/-!
# Who was started

A dispatch takes a driver down as tried, and as failed, when its turn comes. Whether the driver was
started is another matter: a driver without any time is passed over. All drivers of a dispatch have
the same time, so either each driver whose turn came was started, or nobody was
(`dispatch_starts`). Nobody has any time if someone says so, or if the deadline leaves less than
a millisecond for each (`NoTime`).
-/

namespace OutOfBand.Client

open Context

/-- There is no time for any of `count` drivers. -/
def NoTime (ctx : Context) (now count : Nat) (client : Option Span) : Prop :=
  match ctx.perDriver.or client with
  | some time => time = .zero
  | none => ∃ d, ctx.deadline = some d ∧ (d - now) / 1000000 < max count 1

theorem share_eq_zero_iff (time : Span) (count : Nat) :
    (Budget.share time count).ns = 0 ↔ time.millis < max count 1 := by
  have hpos : 0 < max count 1 := Nat.lt_of_lt_of_le Nat.zero_lt_one (Nat.le_max_right ..)
  have hquotient : time.millis / max count 1 = 0 ↔ time.millis < max count 1 :=
    Nat.div_eq_zero_iff_lt hpos
  have hsize : 0 < UInt64.size - 1 := by decide
  simp only [Budget.share, Span.ofMillis]
  omega

theorem perDriver_eq_zero_iff {ctx : Context} {now count : Nat} {client : Option Span} :
    (Budget.perDriver ctx now count client).ns = 0 ↔ NoTime ctx now count client := by
  unfold Budget.perDriver Budget.allocate NoTime
  cases ctx.perDriver.or client with
  | some time =>
      obtain ⟨ns⟩ := time
      simp [Span.zero]
  | none =>
      cases hd : ctx.deadline with
      | none => simp [remaining, hd, Budget.default, Span.ofSecs]
      | some d => simp [remaining, hd, share_eq_zero_iff, Span.millis]

/-! ## Drivers without time -/

section Skipped

variable {ctx : Context} {time : Span} {c : Call} {s s' : Scene σ}
  {turns : List (Turn σ c.Outcome)}

/-- If the drivers get no time, each is passed over without a start. -/
theorem Course.skipped (h : Course ctx time c s turns s') (hzero : time.ns = 0) :
    ∀ t ∈ turns, t.verdict = .skipped := by
  induction h with
  | nil => simp
  | cons _ htrial _ ih =>
      simp only [List.mem_cons, forall_eq_or_imp]
      refine ⟨?_, ih⟩
      cases htrial with
      | accepted hpos | refused hpos | timedOut hpos | cut hpos => omega
      | skipped => rfl

theorem events_of_skipped (h : ∀ t ∈ turns, t.verdict = .skipped) :
    turns.flatMap (Turn.events c) = [] := by
  rw [List.flatMap_eq_nil_iff]
  intro t ht
  simp [Turn.events, Verdict.events, h t ht]

/-- The reasons for which a call went on name the drivers whose turns they are about, in order. -/
theorem Turn.Passed.drivers {reasons : List Failure} (h : Turn.Passed time turns reasons) :
    reasons.map Failure.driver = turns.map fun t => t.driver.name := by
  induction turns generalizing reasons with
  | nil =>
      cases reasons with
      | nil => rfl
      | cons => cases h
  | cons t ts ih =>
      cases reasons with
      | nil => cases h
      | cons f fs =>
          obtain ⟨hfirst, hrest⟩ := List.cons.inj h
          rw [List.map_cons, List.map_cons, ih hrest, (Turn.failure?_eq_some hfirst).2]

/-- The failures that an error tells of are those of the first drivers whose turn came. -/
theorem Finish.failures {operation : String} {rest : List (Driver σ)}
    {result : Except CallError c.Outcome} {e : CallError}
    (h : Finish operation time [] turns rest result) (hresult : result = .error e) :
    e.failures.map Failure.driver <+: turns.map fun t => t.driver.name := by
  cases h with
  | accepted => cases hresult
  | exhausted hpassed =>
      cases hresult
      rw [← hpassed.drivers]
      exact List.prefix_rfl
  | cut hpassed =>
      cases hresult
      rw [CallError.failures, List.nil_append, hpassed.drivers, List.map_append]
      exact List.prefix_append ..

theorem Finish.of_skipped {operation : String} {rest : List (Driver σ)}
    {result : Except CallError c.Outcome} (h : Finish operation time [] turns rest result)
    (hskipped : ∀ t ∈ turns, t.verdict = .skipped) :
    rest = [] ∧ ∃ reasons, result = .error (.exhausted operation reasons) ∧
      Turn.Passed time turns reasons := by
  cases h with
  | accepted => cases hskipped _ (List.mem_append_right _ List.mem_cons_self)
  | exhausted hpassed => exact ⟨rfl, _, rfl, hpassed⟩
  | cut => cases hskipped _ (List.mem_append_right _ List.mem_cons_self)

end Skipped

/-! ## Who was started -/

/-- **A driver that counts as tried was started, if there was any time.** When every driver in turn
came to nothing, each was started once, in order; and whoever is named among the failures was
started. Where there is no time nobody is started, and yet every driver is named. -/
theorem dispatch_starts (ctx : Context) (registry : List (Driver σ)) (client : Option Span) (c : Call)
    (s : Scene (Watched σ)) (alive : ctx.error? s.now = none) :
    let drivers := eligible registry c
    let D := dispatch ctx (registry.map Driver.watched) client c s
    ∃ log, D.scene.log = s.log ++ log ∧ (∀ e ∈ Event.starts log, e.deed = .call c) ∧
      (¬ NoTime ctx s.now drivers.length client →
        (∀ op failures, D.result = .error (.exhausted op failures) →
          (Event.starts log).map Entry.driver = drivers) ∧
        ∀ e, D.result = .error e → e.failures.map Failure.driver <+:
          (Event.starts log).map fun e => e.driver.name) ∧
      (NoTime ctx s.now drivers.length client → log = [] ∧ (drivers ≠ [] → ∃ failures,
        D.result = .error (.exhausted c.feature.tag failures) ∧
          failures.map Failure.driver = drivers.map Driver.name)) := by
  intro drivers D
  by_cases hnobody : drivers = []
  · have hD : D = ⟨.error (.notImplemented c.feature), {}, s⟩ :=
      dispatch_nobody alive (eligible_watched_of_nobody hnobody) client
    rw [hD]
    refine ⟨[], by simp, by simp, fun _ => ⟨by rintro _ _ ⟨⟩, ?_⟩,
      fun _ => ⟨rfl, fun hsome => absurd hnobody hsome⟩⟩
    rintro _ ⟨⟩
    exact List.nil_prefix
  obtain ⟨turns, rest, hdrivers, hran⟩ := dispatch_course alive hnobody client
  have hpositive : ¬ NoTime ctx s.now drivers.length client →
      Event.starts (turns.flatMap (Turn.events c)) = turns.map (Turn.entry c) := by
    intro htime
    rw [← perDriver_eq_zero_iff] at htime
    exact starts_events (hran.course.ne_skipped (Nat.pos_of_ne_zero htime))
  have hzero : NoTime ctx s.now drivers.length client → ∀ t ∈ turns, t.verdict = .skipped :=
    fun htime => hran.course.skipped (perDriver_eq_zero_iff.mpr htime)
  refine ⟨turns.flatMap (Turn.events c), hran.log, ?_, fun htime => ⟨?_, ?_⟩, fun htime => ⟨?_, ?_⟩⟩
  · by_cases htime : NoTime ctx s.now drivers.length client
    · simp [events_of_skipped (hzero htime)]
    · rw [hpositive htime]
      intro e he
      obtain ⟨t, -, rfl⟩ := List.mem_map.mp he
      rfl
  · intro op failures hresult
    have hall := (hran.finish.exhausted_iff hdrivers hran.course alive).mp ⟨op, failures, hresult⟩
    rw [hpositive htime, List.map_map]
    exact hall.1
  · intro e hresult
    rw [hpositive htime, List.map_map]
    exact hran.finish.failures hresult
  · exact events_of_skipped (hzero htime)
  · intro _
    obtain ⟨rfl, failures, hresult, hpassed⟩ := hran.finish.of_skipped (hzero htime)
    refine ⟨failures, hresult, ?_⟩
    rw [hpassed.drivers, show drivers = _ from hdrivers, List.append_nil, List.map_map]
    rfl

/-- Two drivers that fail. -/
def failingPair : List (Driver Mock.State) :=
  [mockDriver { name := "a", behavior := .fail }, mockDriver { name := "b", behavior := .fail }]

/-- A call that has so many milliseconds. -/
def lasting (ms : Nat) : Context := { deadline := some (ms * 1000000) }

/-- A question to the two, watched, that has so many milliseconds. -/
def askPair (ms : Nat) : Dispatched (Watched Mock.State) PowerState :=
  dispatch (lasting ms) (failingPair.map Driver.watched) none .powerState ⟨0, {}, []⟩

/-- Two milliseconds are a time for each of two drivers. -/
theorem dispatch_starts_failing_pair :
    (lasting 2).error? 0 = none ∧
      ¬ NoTime (lasting 2) 0 (eligible failingPair .powerState).length none ∧
      (∃ failures, (askPair 2).result = .error (.exhausted "powerstate" failures)) ∧
      (Event.starts (askPair 2).scene.log).map (fun e => e.driver.name) = ["a", "b"] := by
  have alive : (lasting 2).error? 0 = none := by decide
  have htime : ¬ NoTime (lasting 2) 0 (eligible failingPair .powerState).length none := by
    rw [← perDriver_eq_zero_iff]
    decide
  obtain ⟨log, hlog, -, hstarted, -⟩ :=
    dispatch_starts (lasting 2) failingPair none .powerState ⟨0, {}, []⟩ alive
  obtain ⟨failures, hresult⟩ :
      ∃ failures, (askPair 2).result = .error (.exhausted "powerstate" failures) :=
    ⟨_, by with_unfolding_all rfl⟩
  have hdrivers := (hstarted htime).1 _ _ hresult
  have hstarts : Event.starts (askPair 2).scene.log = Event.starts log := congrArg _ hlog
  refine ⟨alive, htime, ⟨_, hresult⟩, ?_⟩
  calc (Event.starts (askPair 2).scene.log).map (fun e => e.driver.name)
      = ((Event.starts log).map Entry.driver).map Driver.name := by rw [hstarts, List.map_map]; rfl
    _ = ["a", "b"] := by rw [hdrivers]; rfl

/-- A millisecond is no time for either of two drivers: both count as tried and as timed out,
although nobody was started. -/
theorem exhausted_without_start :
    (lasting 1).error? 0 = none ∧
      (askPair 1).result =
        .error (.exhausted "powerstate" [⟨"a", .timedOut .zero⟩, ⟨"b", .timedOut .zero⟩]) ∧
      (askPair 1).metadata.attempted = ["a", "b"] ∧ Event.starts (askPair 1).scene.log = [] := by
  have hstarts : (Event.starts (askPair 1).scene.log).isEmpty = true := by decide +kernel
  exact ⟨by decide, by with_unfolding_all rfl, by decide +kernel, List.isEmpty_iff.mp hstarts⟩

end OutOfBand.Client
