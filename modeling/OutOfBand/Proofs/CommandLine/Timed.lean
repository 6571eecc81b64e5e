import OutOfBand.CommandLine.Program
import OutOfBand.Proofs.Clocked
import OutOfBand.Proofs.CommandLine.Bracket

/-!
# The program by the clock

The program runs by the clock, and what it does is easier told without one. Each of its parts keeps
to the part that has no clock (`Timed.KeepsTo`), and parts that do make a whole that does, so that
what holds of an order that is carried out without a clock (`Order.runWith`) holds of the program as
long as the clock does not stop it (`run_of_not_stopped`). So the program closes every session that
it has opened and kept (`run_bracketed`).
-/

namespace OutOfBand.CommandLine

open Client

/-- What goes by the clock has no end only where the same thing without a clock has none, and the
same result, unless the clock stops it. -/
def Timed.KeepsTo (timed : Timed σ α) (plain : Option α) : Prop :=
  (timed.run = none → plain = none) ∧ ∀ a, timed.run = some (.ok a) → plain = some a

namespace Timed.KeepsTo

theorem pure (a : α) : KeepsTo (Pure.pure a : Timed σ α) (some a) := by
  refine ⟨fun h => ?_, fun a' h => ?_⟩
  · cases h
  · cases h
    rfl

theorem stopped (run : Run σ) {plain : Option α} :
    KeepsTo (Timed.of (.error run) : Timed σ α) plain := by
  refine ⟨fun h => ?_, fun a h => ?_⟩
  · cases h
  · cases h

theorem bind {timed : Timed σ α} {plain : Option α} {f : α → Timed σ β} {g : α → Option β}
    (h : KeepsTo timed plain) (hnext : ∀ a, KeepsTo (f a) (g a)) :
    KeepsTo (timed >>= f) (plain >>= g) := by
  obtain ⟨hnone, hsome⟩ := h
  rw [KeepsTo, ExceptT.run_bind]
  cases hrun : timed.run with
  | none =>
      rw [hnone hrun]
      refine ⟨fun _ => rfl, fun a h => ?_⟩
      cases h
  | some r =>
      cases r with
      | error run => exact stopped run
      | ok a =>
          rw [hsome a hrun]
          exact hnext a

theorem of {r : Except (Run σ) α} {plain : α} {stop : Run σ → Prop} (h : ByClock r plain stop) :
    KeepsTo (Timed.of r) (some plain) := by
  refine ⟨fun h => ?_, fun a hok => ?_⟩
  · cases h
  · rw [h.ok a (Option.some.inj hok)]

theorem lift (plain : Option α) : KeepsTo (ExceptT.lift plain : Timed σ α) plain := by
  cases plain with
  | none =>
      refine ⟨fun _ => rfl, fun a h => ?_⟩
      cases h
  | some a => exact pure a

theorem shown {run : Run σ} {shown : Option α} {f : α → Timed σ β} {plain : Option β}
    (h : ∀ a, shown = some a → KeepsTo (f a) plain) :
    KeepsTo (Timed.shown run shown >>= f) plain := by
  cases shown with
  | none => exact stopped run
  | some a => exact h a rfl

end Timed.KeepsTo

section Order

variable {clock : Clock} {order : Order} {client : Client σ} {ctx : Context}
  {readFile : String → Except String Image} {interrupt : Option Nat} {run : Run σ}

theorem performBy_keepsTo (command : Command) :
    (command.performBy clock client ctx readFile run).KeepsTo
      (command.perform client ctx readFile run) := by
  have hcall : ∀ (c : Call) (text : c.Outcome → String),
      (callBy clock client ctx c text run).KeepsTo (call client ctx c text run) := by
    intro c text
    exact .bind (.of callBy_byClock) fun p => .pure _
  cases command with
  | power action =>
      cases action with
      | none => exact hcall _ _
      | some action => exact hcall _ _
  | bootDevice device options => exact hcall _ _
  | bmcReset kind => exact hcall _ _
  | users => exact hcall _ _
  | firmware component file version =>
      simp only [Command.performBy, Command.perform, Command.performWith]
      cases readFile file with
      | error reason => exact .pure _
      | ok image => exact .lift _

theorem context?_eq_some {now : Nat} (h : order.context? clock now interrupt = some ctx) :
    ctx = order.context now interrupt := by
  simp only [Order.context?, Settings.context?, Option.map_eq_some_iff] at h
  obtain ⟨whole, h, rfl⟩ := h
  cases htimeout : order.settings.timeout with
  | none =>
      rw [htimeout] at h
      cases h
      simp [Order.context, Settings.context, htimeout, Context.background]
  | some time =>
      rw [htimeout] at h
      rw [Context.withTimeout?_eq_some h]
      simp [Order.context, Settings.context, htimeout]

theorem afterOpeningBy_keepsTo (opened : Except CallError Unit × Client σ × Run σ) :
    (order.afterOpeningBy clock ctx readFile opened).KeepsTo
      (order.afterOpening ctx readFile opened) := by
  obtain ⟨result, client, run⟩ := opened
  cases result with
  | error e => exact .pure _
  | ok =>
      refine .bind (performBy_keepsTo order.command) fun (result, done) => ?_
      refine .shown fun closing hclosing => ?_
      rw [Context.withTimeout?_eq_some hclosing]
      exact .bind (.of (sessionsBy_byClock (client.closeAll (closingContext done.now)))) fun p =>
        .pure (ended done.record result, p.2)

/-- **The clock changes nothing** about how an order is carried out that it does not stop. -/
theorem runBy_keepsTo : (order.runBy clock client readFile interrupt run).KeepsTo
    (order.runWith client readFile interrupt run) := by
  refine .shown fun ctx hctx => ?_
  rw [context?_eq_some hctx]
  have hopened : (Timed.of ((order.settings.view client).openAllBy clock
      (order.context run.now interrupt) run)).KeepsTo _ := .of (sessionsBy_byClock _)
  exact .bind hopened afterOpeningBy_keepsTo

/-- An order that does not end like one that the clock stopped is carried out as it is without a
clock. -/
theorem run_of_not_stopped {reach : Reach σ} {target : Target} {s s' : Scene σ} {ending : Ending}
    (htarget : order.settings.target = .ok target)
    (h : order.run clock reach readFile interrupt s = some (ending, s'))
    (hending : ending ≠ stopped) :
    ∃ done, order.runWith (Client.ofTarget reach target order.settings.config).1 readFile interrupt
        ⟨⟨s.now, ({}, s.world)⟩, {}⟩ = some (ending, done) ∧ s' = ⟨done.now, done.world.2⟩ := by
  rw [Order.run, htarget, Option.map_eq_some_iff] at h
  obtain ⟨r, hrun, hleft⟩ := h
  cases r with
  | error run =>
      cases hleft
      exact absurd rfl hending
  | ok p =>
      cases hleft
      exact ⟨p.2, runBy_keepsTo.2 p hrun, rfl⟩

/-- **The program brackets its sessions**: whatever a target and an order say, and unless the clock
stops it, the program opens the sessions of the target's drivers, sends the command between, and
closes each session that was kept. The world that it leaves is that of the log. -/
theorem run_bracketed {reach : Reach σ} {target : Target} {s s' : Scene σ} {ending : Ending}
    (htarget : order.settings.target = .ok target)
    (h : order.run clock reach readFile interrupt s = some (ending, s'))
    (hending : ending ≠ stopped) :
    ∃ done, Bracketed order (Client.ofTarget reach target order.settings.config).1 readFile
        interrupt ⟨⟨s.now, ({}, s.world)⟩, {}⟩ ending done ∧
      s' = ⟨done.now, done.world.world.2⟩ := by
  obtain ⟨plain, hrun, rfl⟩ := run_of_not_stopped htarget h hending
  -- The same order with watched drivers, whose run is that one with a log.
  rw [← runWith_unwatched, Option.map_eq_some_iff] at hrun
  obtain ⟨⟨ending', done⟩, hrun, hplain⟩ := hrun
  obtain ⟨rfl, rfl⟩ := Prod.mk.inj hplain
  exact ⟨done, runWith_bracketed hrun, rfl⟩

end Order

end OutOfBand.CommandLine
