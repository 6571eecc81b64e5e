import OutOfBand.Budget
import OutOfBand.Client.Error
import OutOfBand.Driver
import OutOfBand.Metadata

/-!
# Dispatch

A call goes to the drivers that back its feature, one after another in the order of the registry,
until one of them answers. Each gets the same time. A driver that fails or whose time is up is
passed over; once the context of the call itself has ended no further driver is tried.
-/

namespace OutOfBand.Client

/-- What comes of a call: its result, its record, and the scene that it leaves. -/
structure Dispatched (σ α : Type) where
  result : Except CallError α
  metadata : Metadata
  scene : Scene σ

/-- A driver that can do what is asked for, and the work that it then does. -/
structure Candidate (σ α : Type) where
  driver : String
  work : Operation σ (Except Fault α)

namespace Dispatched

/-- Tries the candidates one after another, after some have already failed. -/
def tryEach (ctx : Context) (operation : String) (time : Span) :
    List (Candidate σ α) → List Failure → Metadata → Scene σ → Dispatched σ α
  | [], failures, record, s => ⟨.error (.exhausted operation failures), record, s⟩
  | c :: rest, failures, record, s =>
    let record := record.attempt c.driver
    match ctx.attempt time c.work s with
    | (.ok (.ok answer), s) => ⟨.ok answer, record.success c.driver, s⟩
    | (.ok (.error f), s) =>
      tryEach ctx operation time rest (failures ++ [⟨c.driver, .fault f⟩])
        (record.failure c.driver f.message) s
    | (.error _, s) =>
      match ctx.error? s.now with
      | some cause =>
        ⟨.error (.context cause failures), record.failure c.driver cause.message, s⟩
      | none =>
        let cause := Cause.timedOut time
        tryEach ctx operation time rest (failures ++ [⟨c.driver, cause⟩])
          (record.failure c.driver cause.message) s

end Dispatched

/-- The drivers that can carry out a call. -/
def eligible (registry : List (Driver σ)) (c : Call) : List (Driver σ) :=
  registry.filter fun d => d.backs c.feature

/-- What a driver does for a call, as far as its answer counts as success. -/
def work (d : Driver σ) (c : Call) : Operation σ (Except Fault c.Outcome) :=
  (d.capabilities.handle c).map fun answer => answer.bind c.accept

/-- Makes a call. `client` is the time that the client gives each driver, if it says. -/
def dispatch (ctx : Context) (registry : List (Driver σ)) (client : Option Span) (c : Call)
    (s : Scene σ) : Dispatched σ c.Outcome :=
  match ctx.error? s.now with
  | some cause => ⟨.error (.context cause []), {}, s⟩
  | none =>
    match eligible registry c with
    | [] => ⟨.error (.notImplemented c.feature), {}, s⟩
    | drivers =>
      Dispatched.tryEach ctx c.feature.tag (Budget.perDriver ctx s.now drivers.length client)
        (drivers.map fun d => ⟨d.name, work d c⟩) [] {} s

end OutOfBand.Client
