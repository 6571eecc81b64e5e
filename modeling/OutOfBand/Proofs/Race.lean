import OutOfBand.Proofs.Ending

/-!
# What ends work

Three events may end work that was started under a context: the cancellation, the deadline, and the
work's being ready. The earliest of them does; of those that come at one instant the cancellation
takes precedence over the deadline, and the deadline over the work (`Rival.Wins`). Timers fire at
whole milliseconds, so a deadline, or work that takes time, comes when its timer does; a pause waits
for its timer even if it is set for no time. Whether a context is over before anything is started is
told by the clock itself (`run_earliest`).
-/

namespace OutOfBand.Context

variable {σ α : Type}

/-- The events that may end work. -/
inductive Rival where
  | cancellation
  | deadline
  | readiness
  deriving DecidableEq, Repr

namespace Rival

/-- When the event comes, if ever, for work that is ready at an instant, if ever. -/
def instant (ctx : Context) (ready : Option Nat) : Rival → Option Nat
  | cancellation => ctx.cancelAt
  | deadline => ctx.deadline.map Clock.tick
  | readiness => ready

/-- The place of the event among those that come at one instant. -/
def place : Rival → Nat
  | cancellation => 0
  | deadline => 1
  | readiness => 2

/-- What comes of work that the event ends, from the world after its start, and from the answer and
the world that it would leave. -/
def outcome (begun : σ) (done : α × σ) (t : Nat) : Rival → Except Interruption α × Scene σ
  | cancellation => (.error .canceled, ⟨t, begun⟩)
  | deadline => (.error .deadlineExceeded, ⟨t, begun⟩)
  | readiness => (.ok done.1, ⟨t, done.2⟩)

/-- The event comes at that instant, no other one is earlier, and it has the first place among those
that come then. -/
structure Wins (ctx : Context) (ready : Option Nat) (e : Rival) (t : Nat) : Prop where
  comes : e.instant ctx ready = some t
  earliest : ∀ r u, instant ctx ready r = some u → t ≤ u
  precedes : ∀ r, instant ctx ready r = some t → e.place ≤ r.place

end Rival

/-! ## The earliest event -/

/-- Of two events the first one is the sooner unless the other one comes before it. -/
theorem sooner_eq_some_iff {a b : Option (Nat × α)} {x : Nat × α} :
    sooner a b = some x ↔ (a = some x ∧ ∀ y, b = some y → x.1 ≤ y.1) ∨
      (b = some x ∧ ∀ y, a = some y → x.1 < y.1) := by
  cases a with
  | none => simp [sooner]
  | some a =>
      cases b with
      | none => simp [sooner]
      | some b =>
          simp only [sooner, Option.some.injEq, forall_eq']
          grind

theorem le_sooner_iff {a b : Option (Nat × α)} {n : Nat} :
    (∀ y, sooner a b = some y → n ≤ y.1) ↔
      (∀ y, a = some y → n ≤ y.1) ∧ ∀ y, b = some y → n ≤ y.1 := by
  cases a with
  | none => simp [sooner]
  | some a =>
      cases b with
      | none => simp [sooner]
      | some b =>
          simp only [sooner, Option.some.injEq, forall_eq']
          grind

/-- How the context ends the work, if the event is one of the context. -/
def Rival.cause : Rival → Option Interruption
  | cancellation => some .canceled
  | deadline => some .deadlineExceeded
  | readiness => none

theorem settle_cause (p : Pending σ α) (t : Nat) (e : Rival) :
    settle p t e.cause = e.outcome p.world (p.finish p.world) t := by
  cases e <;> rfl

/-- An event that may not come, put down with its instant. -/
theorem map_instant_eq_some_iff {at? : Option Nat} {cause c : α} {t : Nat} :
    at?.map (·, c) = some (t, cause) ↔ at? = some t ∧ c = cause := by
  cases at? <;> simp

theorem forall_map_instant_iff {at? : Option Nat} {c : α} {P : Nat → Prop} :
    (∀ y, at?.map (·, c) = some y → P y.1) ↔ ∀ u, at? = some u → P u := by
  cases at? <;> simp

/-- Events that would take precedence come later than the one that wins. -/
theorem Rival.Wins.lt {ctx : Context} {ready : Option Nat} {t u : Nat} {e r : Rival}
    (h : e.Wins ctx ready t) (hplace : r.place < e.place)
    (hr : r.instant ctx ready = some u) : t < u := by
  refine Nat.lt_of_le_of_ne (h.earliest r u hr) ?_
  rintro rfl
  exact absurd (h.precedes r hr) (Nat.not_le.mpr hplace)

/-- **Work ends with the event that wins.** -/
theorem ending_eq_some_iff {ctx : Context} {start t : Nat} {lag : Option Span}
    {cause : Option Interruption} :
    ctx.ending start lag = some (t, cause) ↔
      ∃ e : Rival, e.Wins ctx (lag.map (ready start)) t ∧ e.cause = cause := by
  have hending : ctx.ending start lag =
      sooner ((Rival.cancellation.instant ctx (lag.map (ready start))).map (·,
          Rival.cancellation.cause))
        (sooner ((Rival.deadline.instant ctx (lag.map (ready start))).map (·, Rival.deadline.cause))
          ((Rival.readiness.instant ctx (lag.map (ready start))).map (·,
            Rival.readiness.cause))) := by
    simp only [Rival.instant, Rival.cause, Option.map_map]
    rfl
  rw [hending, sooner_eq_some_iff, le_sooner_iff, sooner_eq_some_iff]
  simp only [map_instant_eq_some_iff, forall_map_instant_iff (P := (t ≤ ·)),
    forall_map_instant_iff (P := (t < ·))]
  constructor
  · rintro (⟨⟨hc, rfl⟩, hd, hr⟩ | ⟨⟨⟨hd, rfl⟩, hr⟩ | ⟨⟨hr, rfl⟩, hd⟩, hc⟩)
    · exact ⟨.cancellation, ⟨hc, by rintro (_ | _ | _) <;> grind, fun _ _ => Nat.zero_le _⟩, rfl⟩
    · exact ⟨.deadline, ⟨hd, by rintro (_ | _ | _) <;> grind,
        by rintro (_ | _ | _) <;> grind [Rival.place]⟩, rfl⟩
    · exact ⟨.readiness, ⟨hr, by rintro (_ | _ | _) <;> grind,
        by rintro (_ | _ | _) <;> grind [Rival.place]⟩, rfl⟩
  · rintro ⟨_ | _ | _, h, rfl⟩
    · exact .inl ⟨⟨h.comes, rfl⟩, h.earliest .deadline, h.earliest .readiness⟩
    · exact .inr ⟨.inl ⟨⟨h.comes, rfl⟩, h.earliest .readiness⟩,
        fun _ => h.lt (r := .cancellation) (by decide)⟩
    · exact .inr ⟨.inr ⟨⟨h.comes, rfl⟩, fun _ => h.lt (r := .deadline) (by decide)⟩,
        fun _ => h.lt (r := .cancellation) (by decide)⟩

theorem sooner_eq_none_iff {a b : Option (Nat × α)} : sooner a b = none ↔ a = none ∧ b = none := by
  cases a with
  | none => simp [sooner]
  | some a =>
      cases b with
      | none => simp [sooner]
      | some b =>
          simp only [sooner]
          split <;> simp

/-- **Work has no end** if none of the events comes. -/
theorem ending_eq_none_iff {ctx : Context} {start : Nat} {lag : Option Span} :
    ctx.ending start lag = none ↔ ∀ e : Rival, e.instant ctx (lag.map (ready start)) = none := by
  rw [ending, sooner_eq_none_iff, sooner_eq_none_iff, Option.map_eq_none_iff,
    Option.map_eq_none_iff, Option.map_eq_none_iff]
  constructor
  · rintro ⟨hc, hd, hl⟩ (_ | _ | _)
    · exact hc
    · exact Option.map_eq_none_iff.mpr hd
    · exact Option.map_eq_none_iff.mpr hl
  · intro h
    exact ⟨h .cancellation, Option.map_eq_none_iff.mp (h .deadline),
      Option.map_eq_none_iff.mp (h .readiness)⟩

/-! ## Work under a context -/

/-- So work goes on that is to be started in a scene, where it is known when it would be ready, what
world there is after its start, and with which answer and in which world it would end. -/
structure EndsEarliest (ctx : Context) (ready : Option Nat) (begun : σ) (done : α × σ) (s : Scene σ)
    (result : Option (Except Interruption α × Scene σ)) : Prop where
  /-- Nothing is started under a context that has been cancelled. -/
  canceled : ∀ c, ctx.cancelAt = some c → c ≤ s.now → result = some (.error .canceled, s)
  /-- Nor is it under one whose deadline has come. -/
  overdue : ∀ d, ctx.deadline = some d → d ≤ s.now → (∀ c, ctx.cancelAt = some c → s.now < c) →
    result = some (.error .deadlineExceeded, s)
  /-- Otherwise the work is started, and ends with the event that wins. -/
  won : (∀ c, ctx.cancelAt = some c → s.now < c) → (∀ d, ctx.deadline = some d → s.now < d) →
    ∀ r, result = some r ↔
      ∃ (e : Rival) (t : Nat), e.Wins ctx ready t ∧ e.outcome begun done t = r
  /-- It has no end just if there is no such event. -/
  endless : (∀ c, ctx.cancelAt = some c → s.now < c) → (∀ d, ctx.deadline = some d → s.now < d) →
    (result = none ↔ ∀ e : Rival, e.instant ctx ready = none)

theorem run_of_error? {ctx : Context} {s : Scene σ} {cause : Interruption}
    (h : ctx.error? s.now = some cause) (op : Operation σ α) :
    ctx.run op s = some (.error cause, s) := by
  simp [run, h]

theorem run_of_alive {ctx : Context} {s : Scene σ} (h : ctx.error? s.now = none)
    (op : Operation σ α) : ctx.run op s = (ctx.ending s.now (op s.now s.world).lag).map
      fun (stop, cause) => settle (op s.now s.world) stop cause := by
  simp [run, h]

/-- Work that is run under a context ends with the earliest event. -/
theorem endsEarliest_run (ctx : Context) (op : Operation σ α) (s : Scene σ) :
    let p := op s.now s.world
    EndsEarliest ctx (p.lag.map (ready s.now)) p.world (p.finish p.world) s (ctx.run op s) where
  canceled c hc hle := by
    refine run_of_error? (error?_eq_canceled_iff.mpr ?_) op
    simpa [reached, hc] using hle
  overdue d hd hle hcancel := run_of_error? (error?_deadline hd hle hcancel) op
  won hcancel hdeadline r := by
    rw [run_of_alive (error?_eq_none_iff.mpr ⟨hcancel, hdeadline⟩), Option.map_eq_some_iff]
    constructor
    · rintro ⟨⟨t, cause⟩, hending, rfl⟩
      obtain ⟨e, hwins, rfl⟩ := ending_eq_some_iff.mp hending
      exact ⟨e, t, hwins, (settle_cause _ t e).symm⟩
    · rintro ⟨e, t, hwins, rfl⟩
      exact ⟨(t, e.cause), ending_eq_some_iff.mpr ⟨e, hwins, rfl⟩, settle_cause _ t e⟩
  endless hcancel hdeadline := by
    rw [run_of_alive (error?_eq_none_iff.mpr ⟨hcancel, hdeadline⟩), Option.map_eq_none_iff]
    exact ending_eq_none_iff

/-- A pause ends with the earliest event, and its own comes when its timer fires. -/
theorem endsEarliest_sleep (ctx : Context) (time : Span) (s : Scene σ) :
    EndsEarliest ctx (some (Clock.tick (s.now + time.ns))) s.world ((), s.world) s
      (ctx.sleep time s) := by
  rw [← ready_timer]
  exact endsEarliest_run ctx (fun now w => ⟨w, some (Clock.timer now time), fun w => ((), w)⟩) s

/-- **The earliest event ends work**, and a context that is over has none started. A pause is work
that is ready when its timer fires, and changes nothing. -/
theorem run_earliest (ctx : Context) (s : Scene σ) :
    (∀ op : Operation σ α,
      let p := op s.now s.world
      EndsEarliest ctx (p.lag.map (ready s.now)) p.world (p.finish p.world) s (ctx.run op s)) ∧
      ∀ time : Span, EndsEarliest ctx (some (Clock.tick (s.now + time.ns))) s.world ((), s.world) s
        (ctx.sleep time s) :=
  ⟨fun op => endsEarliest_run ctx op s, fun time => endsEarliest_sleep ctx time s⟩

/-- A pause of no length that begins between two milliseconds lasts until the second of them, and
the deadline before that comes no sooner. -/
example : sleep { deadline := some 600000 } .zero (⟨500000, ()⟩ : Scene Unit) =
    some (.error .deadlineExceeded, ⟨1000000, ()⟩) := rfl

/-- A deadline after one and a half milliseconds is met by nothing that takes more than one: both
timers fire at the end of the second. -/
theorem run_earliest_of_tie :
    (Rival.deadline.Wins { deadline := some 1500000 } (some 2000000) 2000000) ∧
      sleep { deadline := some 1500000 } ⟨1200000⟩ (⟨0, ()⟩ : Scene Unit) =
        some (.error .deadlineExceeded, ⟨2000000, ()⟩) := by
  have hwins : Rival.deadline.Wins { deadline := some 1500000 } (some 2000000) 2000000 := by
    refine ⟨rfl, ?_, ?_⟩
    · rintro (_ | _ | _) u hu <;> cases hu <;> decide
    · rintro (_ | _ | _) hr <;> cases hr <;> decide
  have hends := run_earliest (α := Unit) { deadline := some 1500000 } (⟨0, ()⟩ : Scene Unit)
  exact ⟨hwins, ((hends.2 ⟨1200000⟩).won (by simp) (by simp) _).mpr ⟨.deadline, 2000000, hwins, rfl⟩⟩

end OutOfBand.Context
