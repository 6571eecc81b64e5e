import OutOfBand.Mock
import OutOfBand.Proofs.Dispatch.Course

/-!
# What a dispatch accounts for

A dispatch that gives every driver some time can be told from its row of turns: whom it called and
in what order, what it returned, what its record and its list of failures name (`Account`). The
result says how the row ended, and the row ended so only if the result says it.
-/

namespace OutOfBand.Client

open Context

/-! ## How a row of turns ended -/

theorem Turn.failure?_eq_some {time : Span} {t : Turn σ α} {f : Failure}
    (h : t.failure? time = some f) : t.verdict.passed = true ∧ f.driver = t.driver.name := by
  cases hv : t.verdict <;> simp [Turn.failure?, hv] at h <;> subst h <;> exact ⟨rfl, rfl⟩

theorem Turn.Passed.passed {time : Span} {turns : List (Turn σ α)} {reasons : List Failure}
    (h : Turn.Passed time turns reasons) : ∀ t ∈ turns, t.verdict.passed = true := by
  intro t ht
  have hmem : t.failure? time ∈ reasons.map some := h ▸ List.mem_map_of_mem ht
  obtain ⟨f, -, hf⟩ := List.mem_map.mp hmem
  exact (Turn.failure?_eq_some hf.symm).1

theorem Turn.Passed.ne_accepted {time : Span} {turns : List (Turn σ α)} {reasons : List Failure}
    (h : Turn.Passed time turns reasons) : ∀ t ∈ turns, ∀ a, t.verdict ≠ .accepted a := by
  intro t ht a hv
  have hpassed := h.passed t ht
  simp [hv, Verdict.passed] at hpassed

theorem Turn.Passed.ne_cut {time : Span} {turns : List (Turn σ α)} {reasons : List Failure}
    (h : Turn.Passed time turns reasons) : ∀ t ∈ turns, ∀ cause, t.verdict ≠ .cut cause := by
  intro t ht cause hv
  have hpassed := h.passed t ht
  simp [hv, Verdict.passed] at hpassed

theorem successful_foldl_note {time : Span} {turns : List (Turn σ α)} {record : Metadata}
    (h : ∀ t ∈ turns, ∀ a, t.verdict ≠ .accepted a) (hnone : record.successful = none) :
    (turns.foldl (Turn.note time) record).successful = none := by
  induction turns generalizing record with
  | nil => exact hnone
  | cons t ts ih =>
      refine ih (fun t ht => h t (List.mem_cons_of_mem _ ht)) ?_
      have ht := h t List.mem_cons_self
      cases hv : t.verdict <;>
        simp_all [Turn.note, Metadata.attempt, Metadata.failure]

theorem Course.alive {ctx : Context} {time : Span} {c : Call} {s s' : Scene σ}
    {turns : List (Turn σ c.Outcome)} (h : Course ctx time c s turns s')
    (alive : ctx.error? s.now = none) (hcut : ∀ t ∈ turns, ∀ cause, t.verdict ≠ .cut cause) :
    ctx.error? s'.now = none := by
  induction h with
  | nil => exact alive
  | cons halive htrial _ ih =>
      refine ih (htrial.alive halive ?_) fun t ht => hcut t (List.mem_cons_of_mem _ ht)
      exact hcut _ List.mem_cons_self

theorem Course.error?_of_cut {ctx : Context} {time : Span} {c : Call} {s s' : Scene σ}
    {turns earlier : List (Turn σ c.Outcome)} {d : Driver σ} {start : Nat} {cause : Interruption}
    (h : Course ctx time c s turns s') (hturns : turns = earlier ++ [⟨d, start, .cut cause⟩]) :
    ctx.error? s'.now = some cause := by
  -- The turn that was cut is the last, so it is the one that the row itself ends with.
  induction h generalizing earlier with
  | nil => simp at hturns
  | cons _ htrial hrest ih =>
      cases earlier with
      | nil =>
          obtain ⟨ht, rfl⟩ := List.cons.inj hturns
          cases ht
          cases hrest with
          | nil => exact htrial.error?_of_cut
      | cons t ts => exact ih (List.cons.inj hturns).2

section Finish

variable {ctx : Context} {operation : String} {time : Span} {c : Call} {s s' : Scene σ}
  {turns : List (Turn σ c.Outcome)} {rest : List (Driver σ)} {result : Except CallError c.Outcome}

/-- A call returned a value if its last turn gave it, after turns that were passed over. -/
theorem Finish.ok_iff (h : Finish operation time [] turns rest result) (a : c.Outcome) :
    result = .ok a ↔ ∃ earlier last, turns = earlier ++ [last] ∧ last.verdict = .accepted a ∧
      ∀ t ∈ earlier, t.verdict.passed = true := by
  cases h with
  | @accepted earlier reasons d start a' _ hpassed =>
      constructor
      · rintro ⟨⟩
        exact ⟨earlier, _, rfl, rfl, hpassed.passed⟩
      · rintro ⟨earlier', last, hturns, hlast, -⟩
        obtain ⟨-, hlast'⟩ := List.append_inj' hturns rfl
        cases hlast'
        cases hlast
        rfl
  | exhausted hpassed =>
      constructor
      · intro h
        cases h
      · rintro ⟨earlier, last, rfl, hlast, -⟩
        exact absurd hlast (hpassed.ne_accepted last (by simp) a)
  | cut hpassed =>
      constructor
      · intro h
        cases h
      · rintro ⟨earlier', last, hturns, hlast, -⟩
        obtain ⟨-, hlast'⟩ := List.append_inj' hturns rfl
        cases hlast'
        cases hlast

/-- The record names the driver of the last turn if the call returned a value, and nobody if not. -/
theorem Finish.successful (h : Finish operation time [] turns rest result) {record : Metadata}
    (hnone : record.successful = none) :
    (turns.foldl (Turn.note time) record).successful =
      if result.isOk then turns.getLast?.map fun t => t.driver.name else none := by
  cases h with
  | accepted => simp [Turn.note, Metadata.success, Except.isOk, Except.toBool]
  | exhausted hpassed => exact successful_foldl_note hpassed.ne_accepted hnone
  | cut hpassed =>
      refine successful_foldl_note (fun t ht a => ?_) hnone
      rcases List.mem_append.mp ht with ht | ht
      · exact hpassed.ne_accepted t ht a
      · simp_all

theorem Finish.of_exhausted {op : String} {reasons : List Failure}
    (h : Finish operation time [] turns rest result)
    (hresult : result = .error (.exhausted op reasons)) :
    op = operation ∧ Turn.Passed time turns reasons := by
  cases h with
  | accepted => cases hresult
  | exhausted hpassed =>
      cases hresult
      exact ⟨rfl, hpassed⟩
  | cut => cases hresult

theorem Finish.of_context {cause : Interruption} {reasons : List Failure}
    (h : Finish operation time [] turns rest result)
    (hcourse : Course ctx time c s turns s')
    (hresult : result = .error (.context cause reasons)) :
    ctx.error? s'.now = some cause ∧ Turn.Passed time turns.dropLast reasons := by
  cases h with
  | accepted => cases hresult
  | exhausted => cases hresult
  | cut hpassed =>
      cases hresult
      exact ⟨hcourse.error?_of_cut rfl, by simpa using hpassed⟩

theorem Finish.context_iff (h : Finish operation time [] turns rest result)
    (hcourse : Course ctx time c s turns s') (alive : ctx.error? s.now = none) :
    (∃ cause reasons, result = .error (.context cause reasons)) ↔ ctx.error? s'.now ≠ none := by
  constructor
  · rintro ⟨cause, reasons, hresult⟩
    simp [(h.of_context hcourse hresult).1]
  · intro hdone
    cases h with
    | accepted hpassed =>
        refine absurd (hcourse.alive alive ?_) hdone
        intro t ht cause
        rcases List.mem_append.mp ht with ht | ht
        · exact hpassed.ne_cut t ht cause
        · simp_all
    | exhausted hpassed => exact absurd (hcourse.alive alive hpassed.ne_cut) hdone
    | cut => exact ⟨_, _, rfl⟩

theorem Finish.exhausted_iff {drivers : List (Driver σ)}
    (h : Finish operation time [] turns rest result)
    (hdrivers : drivers = turns.map Turn.driver ++ rest)
    (hcourse : Course ctx time c s turns s') (alive : ctx.error? s.now = none) :
    (∃ op reasons, result = .error (.exhausted op reasons)) ↔
      turns.map Turn.driver = drivers ∧ (∀ t ∈ turns, ∀ a, t.verdict ≠ .accepted a) ∧
        ctx.error? s'.now = none := by
  cases h with
  | accepted =>
      constructor
      · rintro ⟨_, _, ⟨⟩⟩
      · rintro ⟨-, hnone, -⟩
        exact absurd rfl (hnone _ (List.mem_append_right _ List.mem_cons_self) _)
  | exhausted hpassed =>
      have hall : turns.map Turn.driver = drivers := by rw [hdrivers, List.append_nil]
      have hend := hcourse.alive alive hpassed.ne_cut
      exact ⟨fun _ => ⟨hall, hpassed.ne_accepted, hend⟩, fun _ => ⟨_, _, rfl⟩⟩
  | cut =>
      constructor
      · rintro ⟨_, _, ⟨⟩⟩
      · rintro ⟨-, -, hend⟩
        rw [hcourse.error?_of_cut rfl] at hend
        cases hend

theorem Finish.ne_notImplemented (h : Finish operation time [] turns rest result) (f : Feature) :
    result ≠ .error (.notImplemented f) := by
  cases h <;> simp

end Finish

/-! ## The account of a dispatch -/

/-- What a dispatch `D` that gives each driver the time `time` has to do with a row of turns. -/
structure Account (ctx : Context) (time : Span) (registry : List (Driver σ)) (c : Call)
    (s : Scene (Watched σ)) (turns : List (Turn σ c.Outcome))
    (D : Dispatched (Watched σ) c.Outcome) : Prop where
  /-- The turns follow one another from the beginning of the dispatch to its end. -/
  course : Course ctx time c s.plain turns D.scene.plain
  /-- They are those of the first drivers that back the feature. -/
  order : turns.map Turn.driver <+: eligible registry c
  /-- The log tells of nothing but the turns, of each when it was over. -/
  log : D.scene.log = s.log ++ turns.flatMap (Turn.events c)
  /-- Every driver whose turn came was called once. -/
  started : Event.starts (turns.flatMap (Turn.events c)) = turns.map (Turn.entry c)
  attempted : D.metadata.attempted = turns.map fun t => t.driver.name
  /-- A value is returned just when the last driver gave it and all others failed before. -/
  ok_iff : ∀ a, D.result = .ok a ↔ ∃ earlier last, turns = earlier ++ [last] ∧
    last.verdict = .accepted a ∧
    ∀ t ∈ earlier, (∃ f, t.verdict = .refused f) ∨ t.verdict = .timedOut
  successful : D.metadata.successful =
    if D.result.isOk then turns.getLast?.map fun t => t.driver.name else none
  exhausted_iff : (∃ op reasons, D.result = .error (.exhausted op reasons)) ↔
    eligible registry c ≠ [] ∧ turns.map Turn.driver = eligible registry c ∧
      (∀ t ∈ turns, ∀ a, t.verdict ≠ .accepted a) ∧ ctx.error? D.scene.now = none
  exhausted : ∀ op reasons, D.result = .error (.exhausted op reasons) →
    op = c.feature.tag ∧ Turn.Passed time turns reasons
  context_iff : (∃ cause reasons, D.result = .error (.context cause reasons)) ↔
    ctx.error? D.scene.now ≠ none
  /-- A reason for each turn but the last, in order. -/
  context : ∀ cause reasons, D.result = .error (.context cause reasons) →
    ctx.error? D.scene.now = some cause ∧ Turn.Passed time turns.dropLast reasons
  done : ctx.error? s.now ≠ none → turns = []
  notImplemented_iff : (∃ f, D.result = .error (.notImplemented f)) ↔
    ctx.error? s.now = none ∧ eligible registry c = []

/-- **Every dispatch has its account**: if each driver gets some time, the dispatch is a row of
turns, and its result, its record and its log say what the turns say. Whether someone keeps a log
makes no difference to it. -/
theorem dispatch_account (ctx : Context) (registry : List (Driver σ)) (client : Option Span)
    (c : Call) (s : Scene (Watched σ))
    (budget : 0 < (Budget.perDriver ctx s.now (eligible registry c).length client).ns) :
    (dispatch ctx (registry.map Driver.watched) client c s).plain =
      dispatch ctx registry client c s.plain ∧
    ∃ turns, Account ctx (Budget.perDriver ctx s.now (eligible registry c).length client)
      registry c s turns (dispatch ctx (registry.map Driver.watched) client c s) := by
  refine ⟨dispatch_plain ctx registry client c s, ?_⟩
  cases hs : ctx.error? s.now with
  | some cause =>
      rw [dispatch_done hs]
      refine ⟨[], .nil _, List.nil_prefix, by simp, rfl, rfl, by simp, rfl, ?_, by simp, ?_, ?_,
        fun _ => rfl, ?_⟩
      · simp [hs]
      · simp [hs]
      · rintro _ _ ⟨⟩
        exact ⟨hs, rfl⟩
      · simp [hs]
  | none =>
      -- Without a driver for the feature, the call comes to nothing before there are any turns.
      by_cases hnobody : eligible registry c = []
      · rw [dispatch_nobody hs (eligible_watched_of_nobody hnobody)]
        refine ⟨[], .nil _, List.nil_prefix, by simp, rfl, rfl, by simp, rfl, ?_, by simp, ?_,
          by simp, fun _ => rfl, ?_⟩
        · simp [hnobody]
        · simp [hs]
        · simp [hs, hnobody]
      · obtain ⟨turns, rest, hdrivers, hran⟩ := dispatch_course hs hnobody client
        have hstarted := hran.course.ne_skipped budget
        refine ⟨turns, hran.course, ⟨rest, hdrivers.symm⟩, hran.log, starts_events hstarted, ?_, ?_,
          ?_, ?_, fun _ _ => hran.finish.of_exhausted, hran.finish.context_iff hran.course hs,
          fun _ _ => hran.finish.of_context hran.course, fun hdone => absurd hs hdone, ?_⟩
        · rw [hran.metadata, attempted_foldl_note]
          rfl
        · intro a
          rw [hran.finish.ok_iff]
          refine exists_congr fun earlier => exists_congr fun last => ?_
          refine and_congr_right fun hturns => and_congr_right fun _ => ?_
          refine forall_congr' fun t => forall_congr' fun ht => ?_
          have hne := hstarted t (by simp [hturns, ht])
          cases hv : t.verdict <;> simp_all [Verdict.passed]
        · rw [hran.metadata]
          exact hran.finish.successful rfl
        · rw [hran.finish.exhausted_iff hdrivers hran.course hs]
          simp [hnobody]
        · simp [hs, hnobody, hran.finish.ne_notImplemented]

/-! ## One driver after another -/

/-- What a dispatch `D` of the call `c` that begins in the scene `s` has to do with a row of turns,
also if it gives the drivers no time, and with what it adds to the log. -/
structure InTurn (ctx : Context) (registry : List (Driver σ)) (client : Option Span) (c : Call)
    (s : Scene (Watched σ)) (D : Dispatched (Watched σ) c.Outcome) (turns : List (Turn σ c.Outcome))
    (log : List (Event σ)) : Prop where
  course : Course ctx (Budget.perDriver ctx s.now (eligible registry c).length client) c s.plain turns
    D.scene.plain
  /-- Each driver that backs the call has its turn, unless one accepts before or the context ends. -/
  order : ∃ rest, eligible registry c = turns.map Turn.driver ++ rest ∧
    (D.result.isOk = true ∨ ctx.error? D.scene.now ≠ none ∨ rest = [])
  adds : D.scene.log = s.log ++ log
  events : log = turns.flatMap (Turn.events c)
  /-- The call succeeds just if a driver accepts it, which is then the last. -/
  ok_iff : ∀ a, D.result = .ok a ↔ ∃ earlier last, turns = earlier ++ [last] ∧
    last.verdict = .accepted a ∧ ∀ t ∈ earlier, t.verdict.passed = true
  accepted_iff : D.result.isOk = true ↔ ∃ t ∈ turns, ∃ a, t.verdict = .accepted a

theorem Finish.accepted_iff {operation : String} {time : Span} {turns : List (Turn σ α)}
    {rest : List (Driver σ)} {result : Except CallError α}
    (h : Finish operation time [] turns rest result) :
    result.isOk = true ↔ ∃ t ∈ turns, ∃ a, t.verdict = .accepted a := by
  cases h with
  | accepted => exact ⟨fun _ => ⟨_, List.mem_append_right _ List.mem_cons_self, _, rfl⟩, fun _ => rfl⟩
  | exhausted hpassed =>
      refine ⟨fun h => (by cases h), ?_⟩
      rintro ⟨t, ht, a, hv⟩
      exact absurd hv (hpassed.ne_accepted t ht a)
  | cut hpassed =>
      refine ⟨fun h => (by cases h), ?_⟩
      rintro ⟨t, ht, a, hv⟩
      rcases List.mem_append.mp ht with hbefore | hlast
      · exact absurd hv (hpassed.ne_accepted t hbefore a)
      · cases List.mem_singleton.mp hlast
        cases hv

/-- **Every dispatch asks one driver after another.** -/
theorem dispatch_inTurn (ctx : Context) (registry : List (Driver σ)) (client : Option Span)
    (c : Call) (s : Scene (Watched σ)) : ∃ turns log, InTurn ctx registry client c s
      (dispatch ctx (registry.map Driver.watched) client c s) turns log := by
  cases hs : ctx.error? s.now with
  | some cause =>
      rw [dispatch_done hs]
      refine ⟨[], [], .nil _, ⟨_, rfl, .inr (.inl (by simp [hs]))⟩, by simp, rfl, by simp, ?_⟩
      simp [Except.isOk, Except.toBool]
  | none =>
      by_cases hnobody : eligible registry c = []
      · rw [dispatch_nobody hs (eligible_watched_of_nobody hnobody)]
        refine ⟨[], [], .nil _, ⟨_, rfl, .inr (.inr hnobody)⟩, by simp, rfl, by simp, ?_⟩
        simp [Except.isOk, Except.toBool]
      · obtain ⟨turns, rest, hdrivers, hran⟩ := dispatch_course hs hnobody client
        refine ⟨turns, _, hran.course, ⟨rest, hdrivers, ?_⟩, hran.log, rfl, hran.finish.ok_iff,
          hran.finish.accepted_iff⟩
        have hfinish := hran.finish
        generalize (dispatch ctx (registry.map Driver.watched) client c s).result = result at hfinish
        cases hfinish with
        | accepted => exact .inl rfl
        | exhausted => exact .inr (.inr rfl)
        | cut => exact .inr (.inl (by simp [← Scene.plain_now, hran.course.error?_of_cut rfl]))

def mockDriver (m : Mock) : Driver Mock.State := .ofCapabilities m.name "mock" m.capabilities

/-- A driver that never answers and one that does, and four seconds for both. -/
theorem dispatch_account_of_hung_driver :
    let registry := [mockDriver { name := "a", behavior := .hang }, mockDriver { name := "b" }]
    let ctx : Context := { deadline := some 4000000000 }
    let s : Scene (Watched Mock.State) := ⟨0, {}, []⟩
    let time := Budget.perDriver ctx 0 (eligible registry .powerState).length none
    let D := dispatch ctx (registry.map Driver.watched) none .powerState s
    0 < time.ns ∧ D.metadata.attempted = ["a", "b"] ∧ D.scene.now = 2000000000 ∧
      ∃ turns, Account ctx time registry .powerState s turns D := by
  intro registry ctx s time D
  have hbudget : 0 < time.ns := by decide
  exact ⟨hbudget, by decide, by decide, (dispatch_account ctx registry none .powerState s hbudget).2⟩

end OutOfBand.Client
