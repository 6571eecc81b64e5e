import OutOfBand.Operation

/-!
# Contexts

A context says how long a call may go on: until its deadline, and only while nobody cancels it. Work
that is run under a context ends at the earliest of three instants: the cancellation, the deadline,
and the instant at which the work is ready. Of those that coincide the cancellation comes before the
deadline, and the deadline before the work. A context that is done starts nothing.
-/

namespace OutOfBand

/-- How a context ends a call. -/
inductive Interruption where
  | canceled
  | deadlineExceeded
  deriving DecidableEq, Repr, Inhabited

namespace Interruption

def message : Interruption → String
  | canceled => "call canceled"
  | deadlineExceeded => "deadline exceeded"

end Interruption

/-- How long a call may go on. -/
structure Context where
  /-- The instant at which the call's time is up. -/
  deadline : Option Nat := none
  /-- The instant at which the call is cancelled. -/
  cancelAt : Option Nat := none
  /-- The time that each driver gets, in place of what the client says. -/
  perDriver : Option Span := none
  deriving DecidableEq, Repr, Inhabited

/-- The state of the world at an instant. -/
structure Scene (σ : Type) where
  now : Nat
  world : σ
  deriving Repr

namespace Context

/-- The context of a call that may go on for ever. -/
def background : Context := {}

/-- Whether the instant `at?`, if there is one, has come. -/
def reached (now : Nat) (at? : Option Nat) : Bool := at?.any (· ≤ now)

/-- How the context has ended, if it has. -/
def error? (ctx : Context) (now : Nat) : Option Interruption :=
  if reached now ctx.cancelAt then some .canceled
  else if reached now ctx.deadline then some .deadlineExceeded
  else none

def isDone (ctx : Context) (now : Nat) : Bool := (ctx.error? now).isSome

def remaining (ctx : Context) (now : Nat) : Option Span := ctx.deadline.map fun t => ⟨t - now⟩

/-- The earlier of two instants that may be absent. -/
def earlier : Option Nat → Option Nat → Option Nat
  | some s, some t => some (min s t)
  | some s, none => some s
  | none, t => t

/-- The context for a part of the call that gets so much time and no more than the call has left. -/
def limited (ctx : Context) (now : Nat) (time : Span) : Context :=
  { ctx with deadline := earlier ctx.deadline (some (now + time.ns)) }

/-- The instant at which work is ready that takes so long: work that takes no time does not wait for
a timer. -/
def ready (now : Nat) (time : Span) : Nat :=
  if time.ns = 0 then now else Clock.tick (now + time.ns)

/-- The sooner of two events that may be absent; the first one where they coincide. -/
def sooner : Option (Nat × α) → Option (Nat × α) → Option (Nat × α)
  | some a, some b => if a.1 ≤ b.1 then some a else some b
  | some a, none => some a
  | none, b => b

/-- The end of work that was started at an instant under a context that was not done: the instant,
and how the context ended the work unless the work was ready. Absent if there is no end. -/
def ending (ctx : Context) (now : Nat) (lag : Option Span) : Option (Nat × Option Interruption) :=
  sooner (ctx.cancelAt.map (·, some .canceled))
    (sooner (ctx.deadline.map (Clock.tick ·, some .deadlineExceeded))
      (lag.map (ready now ·, none)))

/-- Lets started work go on to its end at the instant `stop`. -/
def settle (p : Pending σ α) (stop : Nat) :
    Option Interruption → Except Interruption α × Scene σ
  | some cause => (.error cause, ⟨stop, p.world⟩)
  | none => let (a, w) := p.finish p.world; (.ok a, ⟨stop, w⟩)

/-- Runs work under a context; absent if it has no end. -/
def run (ctx : Context) (op : Operation σ α) (s : Scene σ) :
    Option (Except Interruption α × Scene σ) :=
  match ctx.error? s.now with
  | some cause => some (.error cause, s)
  | none =>
    let p := op s.now s.world
    (ctx.ending s.now p.lag).map fun (stop, cause) => settle p stop cause

/-- Waits for a timer under a context, also if it is set for no time at all. -/
def sleep (ctx : Context) (time : Span) (s : Scene σ) :
    Option (Except Interruption Unit × Scene σ) :=
  ctx.run (fun now w => ⟨w, some (Clock.timer now time), fun w => ((), w)⟩) s

/-! ## Parts of a call -/

/-- Runs work that gets so much time and no more than the call has left. -/
def attempt (ctx : Context) (time : Span) (op : Operation σ α) (s : Scene σ) :
    Except Interruption α × Scene σ :=
  ((ctx.limited s.now time).run op s).getD (.error .deadlineExceeded, s)

/-- An event that is sooner than another or takes its place is there if the other one is. -/
theorem isSome_sooner_right (a : Option (Nat × α)) {b : Option (Nat × α)} (h : b.isSome = true) :
    (sooner a b).isSome = true := by
  cases a <;> cases b <;> simp_all [sooner]
  split <;> rfl

/-- Work under a context with a deadline has an end. -/
theorem isSome_ending {ctx : Context} (h : ctx.deadline.isSome = true) (now : Nat)
    (lag : Option Span) : (ctx.ending now lag).isSome = true := by
  obtain ⟨t, ht⟩ := Option.isSome_iff_exists.1 h
  apply isSome_sooner_right
  cases lag <;> simp [ht, sooner]
  split <;> rfl

theorem isSome_deadline_limited (ctx : Context) (now : Nat) (time : Span) :
    (ctx.limited now time).deadline.isSome = true := by
  cases h : ctx.deadline <;> simp [limited, earlier, h]

/-- A part of a call that gets so much time is work under the limited context. -/
theorem run_limited (ctx : Context) (time : Span) (op : Operation σ α) (s : Scene σ) :
    (ctx.limited s.now time).run op s = some (ctx.attempt time op s) := by
  suffices h : ((ctx.limited s.now time).run op s).isSome = true by
    obtain ⟨r, hr⟩ := Option.isSome_iff_exists.1 h
    simp [attempt, hr]
  unfold run
  split
  · rfl
  · simp [isSome_ending (isSome_deadline_limited ctx s.now time)]

end Context

end OutOfBand
