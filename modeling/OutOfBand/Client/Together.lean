import OutOfBand.Context

/-!
# Work side by side

Several pieces of work that are started at one instant, in order, each limited to the same time,
and that go on side by side until the last of them ends. Work that is ready as soon as it is started
ends before the next piece is started; all other work ends in the order of the instants at which it
does, and in the order in which it was started where these coincide. Work that is absent succeeds by
itself.
-/

namespace OutOfBand.Client

/-- A piece of work that goes on beside others. -/
structure Running (σ α : Type) where
  /-- The instant at which it ends. -/
  stop : Nat
  /-- Ends the work: what comes of it, and the world after the end. -/
  settle : σ → Except Interruption α × σ

namespace Running

/-- Work that is over. -/
def finished (now : Nat) (result : Except Interruption α) : Running σ α := ⟨now, fun w => (result, w)⟩

/-- Started work that ends at an instant, when it is ready or by its context. -/
def begun (p : Pending σ α) (stop : Nat) : Option Interruption → Running σ α
  | some cause => ⟨stop, fun w => (.error cause, w)⟩
  | none => ⟨stop, fun w => let (a, w) := p.finish w; (.ok a, w)⟩

/-- Ends work that ends at the instant `t`. -/
def settleAt (t : Nat) (r : Running σ α) (w : σ) : Running σ α × σ :=
  if r.stop = t then let (result, w) := r.settle w; (finished t result, w)
  else (r, w)

/-- Starts a piece of work; `idle` is the answer of work that is absent. -/
def start (ctx : Context) (time : Span) (now : Nat) (idle : α) (op : Option (Operation σ α))
    (w : σ) : Running σ α × σ :=
  let sub := ctx.limited now time
  match op with
  | none => (finished now (.ok idle), w)
  | some op =>
    match sub.error? now with
    | some cause => (finished now (.error cause), w)
    | none =>
      let p := op now w
      match sub.ending now p.lag with
      | some (stop, cause) => (begun p stop cause).settleAt now p.world
      | none => (finished now (.error .deadlineExceeded), p.world)

/-- Does something for one piece of work after another. -/
def each (f : α → σ → Running σ β × σ) : List α → σ → List (Running σ β) × σ
  | [], w => ([], w)
  | a :: as, w =>
    let (r, w) := f a w
    let (rs, w) := each f as w
    (r :: rs, w)

/-- The instants at which work ends, in order. -/
def stops (rs : List (Running σ α)) : List Nat := (rs.map stop).mergeSort

/-- Ends the work that ends at these instants, one instant after another. -/
def settleThrough : List Nat → List (Running σ α) → σ → List (Running σ α) × σ
  | [], rs, w => (rs, w)
  | t :: ts, rs, w =>
    let (rs, w) := each (settleAt t) rs w
    settleThrough ts rs w

/-- The instant at which the last piece of work ends. -/
def lastStop (now : Nat) (rs : List (Running σ α)) : Nat := rs.foldl (fun t r => max t r.stop) now

end Running

/-- Does several pieces of work side by side. -/
def together (ctx : Context) (time : Span) (idle : α) (ops : List (Option (Operation σ α)))
    (s : Scene σ) : List (Except Interruption α) × Scene σ :=
  let (running, w) := Running.each (Running.start ctx time s.now idle) ops s.world
  let (ended, w) := Running.settleThrough (Running.stops running) running w
  (ended.map fun r => (r.settle w).1, ⟨Running.lastStop s.now running, w⟩)

end OutOfBand.Client
