import OutOfBand.Client.Dispatch
import OutOfBand.Proofs.Dispatch.Trial

/-!
# The course of a dispatch

A dispatch is a row of turns (`Course`): each begins where the one before it ended, while the
context is not done. The row stops at the first driver that succeeds, at the end of the context, or
when every driver has had its turn (`Finish`).
-/

namespace OutOfBand.Client

open Context

/-- The events that a log has of a turn, if `e` is the driver's work. -/
def Verdict.events (e : Entry σ) : Verdict α → List (Event σ)
  | accepted _ | refused _ => [.started e, .ended e]
  | timedOut | cut _ => [.started e]
  | skipped => []

/-- The turn of a driver in a call. -/
structure Turn (σ α : Type) where
  driver : Driver σ
  /-- The instant at which the turn began. -/
  start : Nat
  verdict : Verdict α

namespace Turn

def entry (c : Call) (t : Turn σ α) : Entry σ := ⟨t.driver, .call c, t.start⟩

def events (c : Call) (t : Turn σ α) : List (Event σ) := t.verdict.events (t.entry c)

/-- Why the call went on to the next driver, if it did. -/
def failure? (time : Span) (t : Turn σ α) : Option Failure :=
  match t.verdict with
  | .refused f => some ⟨t.driver.name, .fault f⟩
  | .timedOut | .skipped => some ⟨t.driver.name, .timedOut time⟩
  | .accepted _ | .cut _ => none

/-- Takes a turn down in the record of the call. -/
def note (time : Span) (record : Metadata) (t : Turn σ α) : Metadata :=
  let record := record.attempt t.driver.name
  match t.verdict with
  | .accepted _ => record.success t.driver.name
  | .refused f => record.failure t.driver.name f.message
  | .timedOut | .skipped => record.failure t.driver.name (Cause.timedOut time).message
  | .cut cause => record.failure t.driver.name cause.message

/-- The call went on after each of the turns, for these reasons. -/
def Passed (time : Span) (turns : List (Turn σ α)) (reasons : List Failure) : Prop :=
  turns.map (failure? time) = reasons.map some

theorem Passed.nil (time : Span) : Passed time ([] : List (Turn σ α)) [] := rfl

end Turn

/-- Turns one after another, under a context that is not done when one begins, and the scene after
the last of them. -/
inductive Course (ctx : Context) (time : Span) (c : Call) :
    Scene σ → List (Turn σ c.Outcome) → Scene σ → Prop
  | nil (s : Scene σ) : Course ctx time c s [] s
  | cons {s s' s'' : Scene σ} {d : Driver σ} {v turns} : ctx.error? s.now = none →
      Trial ctx time (work d c) s v s' → Course ctx time c s' turns s'' →
      Course ctx time c s (⟨d, s.now, v⟩ :: turns) s''

/-- What comes of a call after some failures, and then those turns, if the turn of the drivers
`rest` did not come. -/
inductive Finish (operation : String) (time : Span) (failures : List Failure) :
    List (Turn σ α) → List (Driver σ) → Except CallError α → Prop
  | accepted {earlier reasons d start a rest} : Turn.Passed time earlier reasons →
      Finish operation time failures (earlier ++ [⟨d, start, .accepted a⟩]) rest (.ok a)
  | exhausted {turns reasons} : Turn.Passed time turns reasons →
      Finish operation time failures turns [] (.error (.exhausted operation (failures ++ reasons)))
  | cut {earlier reasons d start cause rest} : Turn.Passed time earlier reasons →
      Finish operation time failures (earlier ++ [⟨d, start, .cut cause⟩]) rest
        (.error (.context cause (failures ++ reasons)))

theorem Finish.cons {operation : String} {time : Span} {failures : List Failure}
    {turns : List (Turn σ α)} {rest : List (Driver σ)} {result : Except CallError α} {f : Failure}
    {t : Turn σ α} (ht : t.failure? time = some f)
    (h : Finish operation time (failures ++ [f]) turns rest result) :
    Finish operation time failures (t :: turns) rest result := by
  have hcons : ∀ {ts fs}, Turn.Passed time ts fs → Turn.Passed time (t :: ts) (f :: fs) := by
    intro ts fs he
    rw [Turn.Passed, List.map_cons, ht, he, List.map_cons]
  cases h with
  | accepted he => exact .accepted (hcons he)
  | exhausted he =>
      rw [List.append_assoc]
      exact .exhausted (hcons he)
  | cut he =>
      rw [List.append_assoc]
      exact .cut (hcons he)

/-! ## The loop over the drivers -/

theorem work_watched (d : Driver σ) (c : Call) :
    work d.watched c = (work d c).watched d (.call c) := rfl

/-- What a log tells of an attempt is what it tells of the turn. -/
theorem heard_limited {ctx : Context} {time : Span} {op : Operation σ (Except Fault α)}
    {s s' : Scene σ} {v : Verdict α} {r : Except Interruption (Except Fault α)} {e : Entry σ}
    (alive : ctx.error? s.now = none) (h : Trial ctx time op s v s') (hr : v.Shows r)
    (he : e.start = s.now) : e.heard (ctx.limited s.now time) r = v.events e := by
  have hdone : (ctx.limited s.now time).isDone e.start = decide (time.ns = 0) := by
    rw [he]
    -- Only a driver without any time finds its own context done.
    rcases Nat.eq_zero_or_pos time.ns with hzero | hpos
    · cases hsub : (ctx.limited s.now time).error? s.now with
      | none => exact absurd ((error?_limited alive).mp hsub) (by omega)
      | some cause => simp [isDone, hsub, hzero]
    · have hsub := (error?_limited alive).mpr hpos
      simp [isDone, hsub, Nat.ne_of_gt hpos]
  cases h with
  | accepted hpos =>
      cases hr
      simp [Entry.heard, hdone, Verdict.events, Nat.ne_of_gt hpos]
  | refused hpos =>
      cases hr
      simp [Entry.heard, hdone, Verdict.events, Nat.ne_of_gt hpos]
  | timedOut hpos =>
      obtain ⟨cause, rfl⟩ := hr
      simp [Entry.heard, hdone, Verdict.events, Nat.ne_of_gt hpos]
  | cut hpos =>
      obtain ⟨cause, rfl⟩ := hr
      simp [Entry.heard, hdone, Verdict.events, Nat.ne_of_gt hpos]
  | skipped hzero =>
      obtain ⟨cause, rfl⟩ := hr
      simp [Entry.heard, hdone, Verdict.events, hzero]

/-- A dispatch that began in the scene `s`, after some failures, and ran through those turns; the
turn of the drivers `rest` did not come. -/
structure Ran (ctx : Context) (operation : String) (time : Span) (c : Call)
    (failures : List Failure) (record : Metadata) (s : Scene (Watched σ))
    (turns : List (Turn σ c.Outcome)) (rest : List (Driver σ))
    (D : Dispatched (Watched σ) c.Outcome) : Prop where
  course : Course ctx time c s.plain turns D.scene.plain
  finish : Finish operation time failures turns rest D.result
  metadata : D.metadata = turns.foldl (Turn.note time) record
  log : D.scene.log = s.log ++ turns.flatMap (Turn.events c)

section Ran

variable {ctx : Context} {operation : String} {time : Span} {c : Call} {failures : List Failure}
  {record : Metadata} {s : Scene (Watched σ)} {s' : Scene σ} {d : Driver σ} {rest : List (Driver σ)}

theorem Ran.cons {v : Verdict c.Outcome} {f : Failure} {turns : List (Turn σ c.Outcome)}
    {D : Dispatched (Watched σ) c.Outcome} (alive : ctx.error? s.now = none)
    (htrial : Trial ctx time (work d c) s.plain v s')
    (hf : Turn.failure? time ⟨d, s.now, v⟩ = some f)
    (h : Ran ctx operation time c (failures ++ [f]) (Turn.note time record ⟨d, s.now, v⟩)
      (s'.watched (s.log ++ v.events ⟨d, .call c, s.now⟩)) turns rest D) :
    Ran ctx operation time c failures record s (⟨d, s.now, v⟩ :: turns) rest D where
  course := .cons alive htrial h.course
  finish := h.finish.cons hf
  metadata := h.metadata
  log := by
    rw [h.log, List.flatMap_cons, ← List.append_assoc]
    rfl

theorem Ran.accepted {a : c.Outcome} (alive : ctx.error? s.now = none)
    (htrial : Trial ctx time (work d c) s.plain (.accepted a) s') :
    Ran ctx operation time c failures record s [⟨d, s.now, .accepted a⟩] rest
      ⟨.ok a, (record.attempt d.name).success d.name,
        s'.watched (s.log ++ (Verdict.accepted a).events ⟨d, .call c, s.now⟩)⟩ where
  course := .cons alive htrial (.nil s')
  finish := .accepted (.nil time)
  metadata := rfl
  log := by simp [Turn.events, Turn.entry]

theorem Ran.cut {cause : Interruption} (alive : ctx.error? s.now = none)
    (htrial : Trial ctx time (work d c) s.plain (.cut cause) s') :
    Ran ctx operation time c failures record s [⟨d, s.now, .cut cause⟩] rest
      ⟨.error (.context cause failures), (record.attempt d.name).failure d.name cause.message,
        s'.watched (s.log ++ (Verdict.cut cause : Verdict c.Outcome).events ⟨d, .call c, s.now⟩)⟩ where
  course := .cons alive htrial (.nil s')
  finish := by
    let last : Turn σ c.Outcome := ⟨d, s.now, .cut cause⟩
    have h : Finish operation time failures ([] ++ [last]) rest _ := .cut (.nil time)
    simpa using h
  metadata := rfl
  log := by simp [Turn.events, Turn.entry]

end Ran

/-- **The loop over the drivers is a course.** -/
theorem tryEach_course {ctx : Context} {operation : String} {time : Span} {c : Call}
    (drivers : List (Driver σ)) (failures : List Failure) (record : Metadata)
    (s : Scene (Watched σ)) (alive : ctx.error? s.now = none) :
    ∃ turns rest, drivers = turns.map Turn.driver ++ rest ∧
      Ran ctx operation time c failures record s turns rest
        (Dispatched.tryEach ctx operation time
          (drivers.map fun d => ⟨d.name, work d.watched c⟩) failures record s) := by
  -- The loop is called with more failures, another record and a later scene in each round.
  induction drivers generalizing failures record s with
  | nil =>
      refine ⟨[], [], rfl, .nil _, ?_, rfl, by simp [Dispatched.tryEach]⟩
      have h : Finish operation time failures ([] : List (Turn σ c.Outcome)) [] _ :=
        .exhausted (.nil time)
      simpa [Dispatched.tryEach] using h
  | cons d ds ih =>
      obtain ⟨v, htrial, hshows⟩ : ∃ v, Trial ctx time (work d c) s.plain v _ ∧ v.Shows _ :=
        attempt_trial (work d c) alive
      have hlog := heard_limited (e := ⟨d, .call c, s.now⟩) alive htrial hshows rfl
      have hattempt := attempt_watched ctx time d (.call c) (work d c) s
      simp only [Scene.plain_now] at hlog
      rw [hlog, ← work_watched] at hattempt
      generalize hr : ctx.attempt time (work d c) s.plain = r at htrial hshows hattempt
      obtain ⟨r, s'⟩ := r
      -- The loop goes on from the scene after the turn, if the context is not done there.
      have hnext : ∀ f, Turn.failure? time ⟨d, s.now, v⟩ = some f → ctx.error? s'.now = none →
          ∃ turns rest, d :: ds = turns.map Turn.driver ++ rest ∧
            Ran ctx operation time c failures record s turns rest
              (Dispatched.tryEach ctx operation time
                (ds.map fun d => ⟨d.name, work d.watched c⟩) (failures ++ [f])
                (Turn.note time record ⟨d, s.now, v⟩)
                (s'.watched (s.log ++ v.events ⟨d, .call c, s.now⟩))) := by
        intro f hf halive
        obtain ⟨turns, rest, hdrivers, hran⟩ := ih (failures ++ [f])
          (Turn.note time record ⟨d, s.now, v⟩)
          (s'.watched (s.log ++ v.events ⟨d, .call c, s.now⟩)) halive
        exact ⟨⟨d, s.now, v⟩ :: turns, rest, by rw [hdrivers]; rfl, hran.cons alive htrial hf⟩
      simp only [List.map_cons, Dispatched.tryEach, hattempt]
      cases v with
      | accepted a =>
          cases hshows
          exact ⟨_, ds, rfl, .accepted alive htrial⟩
      | refused f =>
          cases hshows
          exact hnext _ rfl (htrial.alive alive (by simp))
      | timedOut =>
          obtain ⟨cause, rfl⟩ := hshows
          have halive : ctx.error? s'.now = none := htrial.alive alive (by simp)
          simp only [Scene.watched_now, halive]
          exact hnext _ rfl halive
      | skipped =>
          obtain ⟨cause, rfl⟩ := hshows
          have halive : ctx.error? s'.now = none := htrial.alive alive (by simp)
          simp only [Scene.watched_now, halive]
          exact hnext _ rfl halive
      | cut cause =>
          obtain ⟨_, rfl⟩ := hshows
          simp only [Scene.watched_now, htrial.error?_of_cut]
          exact ⟨_, ds, rfl, .cut alive htrial⟩

/-! ## A whole dispatch -/

theorem eligible_watched (registry : List (Driver σ)) (c : Call) :
    eligible (registry.map Driver.watched) c = (eligible registry c).map Driver.watched :=
  eligible_larger watching registry c

theorem eligible_watched_of_nobody {registry : List (Driver σ)} {c : Call}
    (h : eligible registry c = []) : eligible (registry.map Driver.watched) c = [] := by
  rw [eligible_watched, h, List.map_nil]

theorem dispatch_done {ctx : Context} {s : Scene σ} {cause : Interruption}
    (h : ctx.error? s.now = some cause) (registry : List (Driver σ)) (client : Option Span)
    (c : Call) : dispatch ctx registry client c s = ⟨.error (.context cause []), {}, s⟩ := by
  rw [dispatch, h]

theorem dispatch_nobody {ctx : Context} {s : Scene σ} (alive : ctx.error? s.now = none)
    {registry : List (Driver σ)} {c : Call} (h : eligible registry c = []) (client : Option Span) :
    dispatch ctx registry client c s = ⟨.error (.notImplemented c.feature), {}, s⟩ := by
  rw [dispatch, alive, h]

/-- Any other dispatch is a course of the drivers that can carry it out. -/
theorem dispatch_course {ctx : Context} {s : Scene (Watched σ)} (alive : ctx.error? s.now = none)
    {registry : List (Driver σ)} {c : Call} (h : eligible registry c ≠ []) (client : Option Span) :
    ∃ turns rest, eligible registry c = turns.map Turn.driver ++ rest ∧
      Ran ctx c.feature.tag (Budget.perDriver ctx s.now (eligible registry c).length client) c [] {}
        s turns rest (dispatch ctx (registry.map Driver.watched) client c s) := by
  have hdispatch : dispatch ctx (registry.map Driver.watched) client c s =
      Dispatched.tryEach ctx c.feature.tag
        (Budget.perDriver ctx s.now (eligible registry c).length client)
        ((eligible registry c).map fun d => ⟨d.name, work d.watched c⟩) [] {} s := by
    rw [dispatch, alive, eligible_watched]
    cases hd : eligible registry c with
    | nil => exact absurd hd h
    | cons d ds => simp [List.map_map, Function.comp_def]
  rw [hdispatch]
  exact tryEach_course (eligible registry c) [] {} s alive

/-! ## Without a log -/

def Dispatched.plain (D : Dispatched (Watched σ) α) : Dispatched σ α :=
  ⟨D.result, D.metadata, D.scene.plain⟩

/-- **Watching changes no dispatch.** -/
theorem dispatch_plain (ctx : Context) (registry : List (Driver σ)) (client : Option Span)
    (c : Call) (s : Scene (Watched σ)) :
    (dispatch ctx (registry.map Driver.watched) client c s).plain =
      dispatch ctx registry client c s.plain :=
  dispatch_larger watching ctx registry client c s

/-- A dispatch is a course also where nobody watches. -/
theorem dispatch_course_plain {ctx : Context} {s : Scene σ} (alive : ctx.error? s.now = none)
    {registry : List (Driver σ)} {c : Call} (h : eligible registry c ≠ []) (client : Option Span) :
    let time := Budget.perDriver ctx s.now (eligible registry c).length client
    ∃ turns rest, eligible registry c = turns.map Turn.driver ++ rest ∧
      Course ctx time c s turns (dispatch ctx registry client c s).scene ∧
      Finish c.feature.tag time [] turns rest (dispatch ctx registry client c s).result ∧
      (dispatch ctx registry client c s).metadata = turns.foldl (Turn.note time) {} := by
  obtain ⟨turns, rest, hdrivers, hran⟩ :=
    dispatch_course (s := s.watched []) alive h client
  have hplain := dispatch_plain ctx registry client c (s.watched [])
  rw [Scene.plain_watched] at hplain
  rw [← hplain]
  exact ⟨turns, rest, hdrivers, hran.course, hran.finish, hran.metadata⟩

/-! ## Rows of turns -/

theorem Course.append_iff {ctx : Context} {time : Span} {c : Call} {s s' : Scene σ}
    {turns more : List (Turn σ c.Outcome)} :
    Course ctx time c s (turns ++ more) s' ↔
      ∃ m, Course ctx time c s turns m ∧ Course ctx time c m more s' := by
  induction turns generalizing s with
  | nil =>
      refine ⟨fun h => ⟨s, .nil s, h⟩, ?_⟩
      rintro ⟨m, hnil, h⟩
      cases hnil
      exact h
  | cons t ts ih =>
      constructor
      · intro h
        cases h with
        | cons alive htrial hrest =>
            obtain ⟨m, hts, hmore⟩ := ih.mp hrest
            exact ⟨m, .cons alive htrial hts, hmore⟩
      · rintro ⟨m, hts, hmore⟩
        cases hts with
        | cons alive htrial hrest => exact .cons alive htrial (ih.mpr ⟨m, hrest, hmore⟩)

/-- If every driver gets some time, none is passed over without a start. -/
theorem Course.ne_skipped {ctx : Context} {time : Span} {c : Call} {s s' : Scene σ}
    {turns : List (Turn σ c.Outcome)} (h : Course ctx time c s turns s') (hpos : 0 < time.ns) :
    ∀ t ∈ turns, t.verdict ≠ .skipped := by
  induction h with
  | nil => simp
  | cons _ htrial _ ih =>
      simp only [List.mem_cons, forall_eq_or_imp]
      refine ⟨fun hv => ?_, ih⟩
      subst hv
      cases htrial with
      | skipped hzero => omega

theorem starts_events {c : Call} {turns : List (Turn σ α)}
    (h : ∀ t ∈ turns, t.verdict ≠ .skipped) :
    Event.starts (turns.flatMap (Turn.events c)) = turns.map (Turn.entry c) := by
  induction turns with
  | nil => rfl
  | cons t ts ih =>
      rw [List.flatMap_cons, Event.starts_append, ih fun t ht => h t (List.mem_cons_of_mem _ ht),
        List.map_cons]
      have ht := h t List.mem_cons_self
      cases hv : t.verdict <;> simp_all [Turn.events, Verdict.events]

/-! ## The record of a dispatch -/

theorem attempted_note (time : Span) (record : Metadata) (t : Turn σ α) :
    (t.note time record).attempted = record.attempted ++ [t.driver.name] := by
  cases hv : t.verdict <;>
    simp [Turn.note, hv, Metadata.attempt, Metadata.success, Metadata.failure]

theorem attempted_foldl_note (time : Span) (record : Metadata) (turns : List (Turn σ α)) :
    (turns.foldl (Turn.note time) record).attempted =
      record.attempted ++ turns.map fun t => t.driver.name := by
  induction turns generalizing record with
  | nil => simp
  | cons t ts ih => rw [List.foldl_cons, ih, attempted_note, List.append_assoc]; rfl

end OutOfBand.Client
