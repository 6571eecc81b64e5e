import OutOfBand.Context

/-!
# Budgets

How much time each of several drivers gets that are tried one after another: what the caller says,
else what the client says, else an even share of the time that the call has left, in whole
milliseconds. A call without a deadline gives each driver half a minute.
-/

namespace OutOfBand.Budget

/-- The time of a driver where nothing else is said. -/
def default : Span := .ofSecs 30

/-- The even share of a length of time among `count` drivers, in whole milliseconds, of which a
share has at most 64 bits; no driver counts as one. -/
def share (time : Span) (count : Nat) : Span :=
  .ofMillis (min (time.millis / max count 1) (UInt64.size - 1))

/-- The time of each of `count` drivers that are tried from the instant `now`. -/
def allocate (ctx : Context) (now count : Nat) : Option Span → Span
  | some time => time
  | none =>
    match ctx.remaining now with
    | none => default
    | some time => share time count

/-- The time of each of `count` drivers, given what the client says. -/
def perDriver (ctx : Context) (now count : Nat) (client : Option Span) : Span :=
  allocate ctx now count (ctx.perDriver.or client)

end OutOfBand.Budget
