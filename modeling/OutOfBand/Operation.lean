import OutOfBand.Span

/-!
# Operations

An operation is a piece of work in a world of type `σ`: everything outside the library, such as the
controllers and what they remember. Work may take time and may never end. Starting it changes the
world at once; if it is left to end, ending it changes the world again and gives the answer. Work
that is abandoned leaves behind what its start has done.
-/

namespace OutOfBand

/-- A piece of work that has been started. -/
structure Pending (σ α : Type) where
  /-- The world after the start. -/
  world : σ
  /-- The time until the work is ready; absent if it never is. -/
  lag : Option Span
  /-- The answer, and the world after the end, from the world at the end. -/
  finish : σ → α × σ

/-- A piece of work to be started at an instant in a world. -/
abbrev Operation (σ α : Type) := Nat → σ → Pending σ α

namespace Pending

/-- Started work whose answer is looked at through `f`. -/
def map (f : α → β) (p : Pending σ α) : Pending σ β where
  world := p.world
  lag := p.lag
  finish w := let (a, w) := p.finish w; (f a, w)

@[simp] theorem map_world (f : α → β) (p : Pending σ α) : (p.map f).world = p.world := rfl

@[simp] theorem map_lag (f : α → β) (p : Pending σ α) : (p.map f).lag = p.lag := rfl

end Pending

namespace Operation

/-- Work that is done as soon as it is started. -/
def instantly (f : σ → α × σ) : Operation σ α := fun _ w =>
  let (a, w) := f w
  ⟨w, some .zero, fun w => (a, w)⟩

/-- Work that gives the answer `a` at once and changes nothing. -/
def answer (a : α) : Operation σ α := instantly fun w => (a, w)

/-- Work whose answer is looked at through `f`. -/
def map (f : α → β) (op : Operation σ α) : Operation σ β := fun now w => (op now w).map f

/-- Work on a part of a larger world, which `get` finds and `put` puts back. -/
def within (get : τ → σ) (put : σ → τ → τ) (op : Operation σ α) : Operation τ α := fun now w =>
  let p := op now (get w)
  { world := put p.world w
    lag := p.lag
    finish w := let (a, part) := p.finish (get w); (a, put part w) }

end Operation

end OutOfBand
