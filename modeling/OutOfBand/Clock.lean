import OutOfBand.Context

/-!
# Clocks that end

The clock of a machine counts seconds in 64 bits, one of which is the sign, and it has counted some
of them when a run begins. An instant beyond the last of them cannot be shown: whoever asks for it
comes to an end on the spot. A context that ends so long from now asks for the instant of its own
deadline, even where it is made for a part of a call whose deadline comes before.
-/

namespace OutOfBand

/-- A clock that counts seconds in 64 bits with a sign. -/
structure Clock where
  /-- The nanoseconds that it shows when the run begins. -/
  start : Nat := 0
  deriving DecidableEq, Repr, Inhabited

namespace Clock

/-- The seconds that a clock can show. -/
def seconds : Nat := 0x8000000000000000

/-- Whether the clock can show an instant of the run. -/
def shows (clock : Clock) (t : Nat) : Bool := (clock.start + t) / 1000000000 < seconds

/-- The instant that comes so long after another; absent if the clock cannot show it. -/
def after? (clock : Clock) (t : Nat) (time : Span) : Option Nat :=
  if clock.shows (t + time.ns) then some (t + time.ns) else none

end Clock

namespace Context

/-- The context of a call that may take so long from an instant on; absent if the clock cannot show
its deadline. -/
def withTimeout? (clock : Clock) (now : Nat) (time : Span) : Option Context :=
  (clock.after? now time).map fun t => { deadline := some t }

/-- The context for a part of a call that gets so much time; absent if the clock cannot show when
that time is up. -/
def limited? (ctx : Context) (clock : Clock) (now : Nat) (time : Span) : Option Context :=
  (clock.after? now time).map fun t => { ctx with deadline := earlier ctx.deadline (some t) }

end Context

end OutOfBand
