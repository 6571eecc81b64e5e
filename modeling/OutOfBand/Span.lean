/-!
# Lengths of time

A `Span` is a length of time in whole nanoseconds. An instant is a point on the clock of a run, a
plain number: the nanoseconds since the run began. Timers of that clock fire at whole milliseconds
only: one that is set to an instant in between fires at the next whole millisecond (`Clock.tick`).
-/

namespace OutOfBand

/-- A length of time. -/
structure Span where
  ns : Nat
  deriving DecidableEq, Repr, Inhabited

namespace Span

def zero : Span := ⟨0⟩

def ofMillis (ms : Nat) : Span := ⟨ms * 1000000⟩

def ofSecs (secs : Nat) : Span := ⟨secs * 1000000000⟩

def millis (d : Span) : Nat := d.ns / 1000000

def secs (d : Span) : Nat := d.ns / 1000000000

def subsecNanos (d : Span) : Nat := d.ns % 1000000000

@[simp] theorem millis_ofMillis (ms : Nat) : (ofMillis ms).millis = ms := by
  simp [millis, ofMillis]

/-- The last `width` decimal digits of `n`, less the zeros at the end. -/
def fractionDigits (width n : Nat) : List Char :=
  let digits := Nat.toDigits 10 n
  let padded := List.replicate (width - digits.length) '0' ++ digits
  (padded.reverse.dropWhile (· == '0')).reverse

/-- `n` counted in a unit of `10 ^ width` nanoseconds, with as many decimals as it needs. -/
def inUnit (width n : Nat) (unit : String) : String :=
  let whole := n / Nat.pow 10 width
  let part := n % Nat.pow 10 width
  if part = 0 then s!"{whole}{unit}"
  else s!"{whole}.{String.ofList (fractionDigits width part)}{unit}"

/-- A span in words: in the largest of the units s, ms, µs and ns of which it holds at least one. -/
def text (d : Span) : String :=
  if 1000000000 ≤ d.ns then inUnit 9 d.ns "s"
  else if 1000000 ≤ d.ns then inUnit 6 d.ns "ms"
  else if 1000 ≤ d.ns then inUnit 3 d.ns "µs"
  else inUnit 0 d.ns "ns"

end Span

/-! ## The clock -/

namespace Clock

/-- The first whole millisecond at or after the instant `t`: when a timer set to `t` fires. -/
def tick (t : Nat) : Nat := (t + 999999) / 1000000 * 1000000

theorem le_tick (t : Nat) : t ≤ tick t := by unfold tick; omega

theorem tick_lt (t : Nat) : tick t < t + 1000000 := by unfold tick; omega

/-- A timer set to a whole millisecond fires then. -/
@[simp] theorem tick_whole (ms : Nat) : tick (ms * 1000000) = ms * 1000000 := by
  unfold tick; omega

theorem tick_mono {s t : Nat} (h : s ≤ t) : tick s ≤ tick t := by unfold tick; omega

/-- How long it takes a timer to fire that is set to go off after `time`. If it is set between two
whole milliseconds it takes a while in any case. -/
def timer (now : Nat) (time : Span) : Span := ⟨tick (now + time.ns) - now⟩

end Clock

end OutOfBand
