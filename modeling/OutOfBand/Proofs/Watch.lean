import OutOfBand.Proofs.Larger

/-!
# Watched worlds

What is asked of drivers, and in what order, is read off a log. A *watched* world is a world with
such a log beside it, and a watched driver does what the driver does and enters in the log that it
was started and, if it comes to an answer, that it ended. Work that is abandoned has no end in the
log.

Watching changes nothing: watched work gives the answers and leaves the worlds of the work itself
(`run_watched`, `attempt_watched`), with a log that is longer by the events of that piece of work
(`Entry.heard`).
-/

namespace OutOfBand

/-- What a driver is asked to do. -/
inductive Deed where
  | call (c : Call)
  | login
  | logout
  | probe
  deriving DecidableEq, Repr

/-- A piece of work of a driver, as a log tells of it. -/
structure Entry (σ : Type) where
  driver : Driver σ
  deed : Deed
  /-- The instant at which it was started. -/
  start : Nat

/-- An event of a log. -/
inductive Event (σ : Type) where
  | started (e : Entry σ)
  /-- A piece of work that was started came to its answer. -/
  | ended (e : Entry σ)

/-- A world with a log of what drivers were asked to do in it, oldest event first. -/
structure Watched (σ : Type) where
  world : σ
  log : List (Event σ) := []

namespace Event

/-- The piece of work that an event is about. -/
def entry : Event σ → Entry σ
  | started e | ended e => e

/-- The pieces of work that were started, in order. -/
def starts (log : List (Event σ)) : List (Entry σ) :=
  log.filterMap fun
    | started e => some e
    | ended _ => none

@[simp] theorem starts_nil : starts ([] : List (Event σ)) = [] := rfl

@[simp] theorem starts_started (e : Entry σ) (log : List (Event σ)) :
    starts (started e :: log) = e :: starts log := rfl

@[simp] theorem starts_ended (e : Entry σ) (log : List (Event σ)) :
    starts (ended e :: log) = starts log := rfl

@[simp] theorem starts_append (log more : List (Event σ)) :
    starts (log ++ more) = starts log ++ starts more := List.filterMap_append

end Event

namespace Scene

/-- The scene without its log. -/
def plain (s : Scene (Watched σ)) : Scene σ := ⟨s.now, s.world.world⟩

def log (s : Scene (Watched σ)) : List (Event σ) := s.world.log

/-- The scene with a log. -/
def watched (s : Scene σ) (log : List (Event σ)) : Scene (Watched σ) := ⟨s.now, ⟨s.world, log⟩⟩

@[simp] theorem plain_now (s : Scene (Watched σ)) : s.plain.now = s.now := rfl

@[simp] theorem watched_now (s : Scene σ) (log : List (Event σ)) : (s.watched log).now = s.now := rfl

@[simp] theorem plain_watched (s : Scene σ) (log : List (Event σ)) : (s.watched log).plain = s := rfl

@[simp] theorem log_watched (s : Scene σ) (log : List (Event σ)) : (s.watched log).log = log := rfl

@[simp] theorem watched_plain (s : Scene (Watched σ)) : s.plain.watched s.log = s := rfl

end Scene

/-! ## Watching work -/

/-- The work of a driver, watched. -/
def Operation.watched (d : Driver σ) (deed : Deed) (op : Operation σ α) :
    Operation (Watched σ) α := fun now w =>
  let p := op now w.world
  { world := ⟨p.world, w.log ++ [.started ⟨d, deed, now⟩]⟩
    lag := p.lag
    finish w := let (a, v) := p.finish w.world; (a, ⟨v, w.log ++ [.ended ⟨d, deed, now⟩]⟩) }

theorem Operation.extends_watched (op : Operation σ α) (d : Driver σ) (deed : Deed) :
    (op.watched d deed).Extends Watched.world op :=
  ⟨fun _ _ => rfl, fun _ _ => rfl, fun _ _ _ => rfl⟩

def Connection.watched (d : Driver σ) (k : Connection σ) : Connection (Watched σ) where
  login := k.login.watched d .login
  logout := k.logout.watched d .logout
  probe := k.probe.watched d .probe

def Driver.watched (d : Driver σ) : Driver (Watched σ) where
  offer := d.offer
  capabilities :=
    { connection := d.capabilities.connection.map (Connection.watched d)
      backs := d.capabilities.backs
      handle := fun c => (d.capabilities.handle c).watched d (.call c) }

/-- A world with a log is a larger world. -/
def watching : Larger σ (Watched σ) where
  part := Watched.world
  driver := Driver.watched
  offer _ := rfl
  backs _ := rfl
  connection d := by
    rw [Driver.watched]
    cases d.capabilities.connection with
    | none => exact .none
    | some k => exact .some ⟨k.login.extends_watched d _, k.logout.extends_watched d _,
        k.probe.extends_watched d _⟩
  handle d c := (d.capabilities.handle c).extends_watched d _

@[simp] theorem Driver.watched_name (d : Driver σ) : d.watched.name = d.name := rfl

@[simp] theorem Driver.watched_backs (d : Driver σ) (f : Feature) :
    d.watched.backs f = d.backs f := rfl

/-- The events of a piece of work that was run under a context with this result. A context that was
done has started nothing. -/
def Entry.heard (e : Entry σ) (ctx : Context) : Except Interruption α → List (Event σ)
  | .ok _ => if ctx.isDone e.start then [] else [.started e, .ended e]
  | .error _ => if ctx.isDone e.start then [] else [.started e]

/-- **Watched work is the work itself**, and leaves its events in the log. -/
theorem run_watched (ctx : Context) (d : Driver σ) (deed : Deed) (op : Operation σ α)
    (s : Scene (Watched σ)) :
    ctx.run (op.watched d deed) s = (ctx.run op s.plain).map fun (r, t) =>
      (r, t.watched (s.log ++ Entry.heard ⟨d, deed, s.now⟩ ctx r)) := by
  obtain ⟨now, world, log⟩ := s
  unfold Context.run
  cases h : ctx.error? now with
  | some cause =>
      have hdone : ctx.isDone now = true := by simp [Context.isDone, h]
      simp [Scene.plain, Scene.watched, Scene.log, Entry.heard, h, hdone]
  | none =>
      have halive : ctx.isDone now = false := by simp [Context.isDone, h]
      simp only [Scene.plain, Scene.log, h]
      -- When the work ends depends on its lag only, which watching does not touch.
      show Option.map _ (ctx.ending now (op now world).lag) = _
      cases he : ctx.ending now (op now world).lag with
      | none => rfl
      | some stop =>
          obtain ⟨t, cause | _⟩ := stop <;>
            simp [Context.settle, Entry.heard, halive, Operation.watched, Scene.watched]

theorem attempt_watched (ctx : Context) (time : Span) (d : Driver σ) (deed : Deed)
    (op : Operation σ α) (s : Scene (Watched σ)) :
    ctx.attempt time (op.watched d deed) s =
      ((ctx.attempt time op s.plain).1, (ctx.attempt time op s.plain).2.watched
        (s.log ++ Entry.heard ⟨d, deed, s.now⟩ (ctx.limited s.now time)
          (ctx.attempt time op s.plain).1)) := by
  have h := run_watched (ctx.limited s.now time) d deed op s
  have hplain := Context.run_limited ctx time op s.plain
  simp only [Scene.plain_now] at hplain
  rw [Context.run_limited, hplain] at h
  exact Option.some.inj h

/-! ## Watching clients -/

def Client.watched (client : Client σ) : Client (Watched σ) where
  registry := client.registry.map Driver.watched
  config := client.config

end OutOfBand
