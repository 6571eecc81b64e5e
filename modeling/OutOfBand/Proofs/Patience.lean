import OutOfBand.Proofs.Dispatch.Account
import OutOfBand.Proofs.Obedience.Pieces

/-!
# How long a client waits for its drivers

Whatever a driver is asked to do has an end within the time that the driver gets, and a driver always
gets some definite time, also where the call itself may go on for ever. So a dispatch takes no more
than one such time for each driver that it may try (`dispatch_now_le`), and work side by side no
more than one such time for all (`together_now_le`). Times count in whole milliseconds, since
timers do. `client_patience` puts the two together for calls without a deadline.
-/

namespace OutOfBand.Client

open Context

/-- What keeps to a context that is limited to a time is over within that time. -/
theorem now_le_expiry {ctx : Context} {time : Span} {t t' : Nat}
    (h : Timely (ctx.limited t time) t t') : t' ≤ expiry t time := by
  by_cases halive : (ctx.limited t time).error? t = none
  · have hstop := stop_limited ctx t time
    cases hu : ctx.stop with
    | none => exact h.inTime halive _ (by rw [hstop, hu, earlier])
    | some u =>
        have hle := h.inTime halive _ (by rw [hstop, hu, earlier])
        exact Nat.le_trans hle (Nat.min_le_right ..)
  · rw [h.still halive]
    exact le_expiry t time

/-- What a driver is asked to do within a time has an end within that time. -/
theorem run_limited_now_le (ctx : Context) (time : Span) (op : Operation σ α) (s : Scene σ) :
    ∃ r s', (ctx.limited s.now time).run op s = some (r, s') ∧ s'.now ≤ expiry s.now time := by
  have hrun := run_limited ctx time op s
  exact ⟨_, _, hrun, now_le_expiry (run_timely hrun)⟩

/-! ## One driver after another -/

section Course

variable {ctx : Context} {time : Span} {s s' : Scene σ}

/-- A turn that begins at a whole millisecond is over within its time, and the next one, if there is
one, begins at a whole millisecond as well. -/
theorem Trial.now_le {op : Operation σ (Except Fault α)} {v : Verdict α}
    (h : Trial ctx time op s v s') (hs : Clock.Whole s.now) :
    s'.now ≤ s.now + Clock.tick time.ns ∧ (ctx.error? s'.now = none → Clock.Whole s'.now) := by
  rw [← expiry_of_whole hs]
  cases h with
  | accepted _ _ hin _ => exact ⟨Nat.le_of_lt hin.1, fun _ => whole_ready hs _⟩
  | refused _ _ hin _ => exact ⟨Nat.le_of_lt hin.1, fun _ => whole_ready hs _⟩
  | timedOut => exact ⟨Nat.le_refl _, fun _ => Clock.whole_tick _⟩
  | cut _ _ hcause _ hle => exact ⟨hle, fun halive => by cases hcause.symm.trans halive⟩
  | skipped => exact ⟨le_expiry .., fun _ => hs⟩

/-- **Turns take no more than their time each.** -/
theorem Course.now_le {c : Call} {turns : List (Turn σ c.Outcome)}
    (h : Course ctx time c s turns s') (hs : Clock.Whole s.now) :
    s'.now ≤ s.now + turns.length * Clock.tick time.ns := by
  -- Only a turn that the context cuts can end between two milliseconds, and no turn follows it.
  induction h with
  | nil => exact Nat.le_add_right ..
  | @cons s m s' d v turns _ htrial hrest ih =>
      obtain ⟨hle, hwhole⟩ := htrial.now_le hs
      rw [List.length_cons, Nat.add_mul, Nat.one_mul]
      generalize Clock.tick time.ns = budget at hle ih ⊢
      cases hrest with
      | nil => omega
      | cons halive _ _ =>
          have hlater := ih (hwhole halive)
          omega

end Course

/-- A dispatch takes no more than the time of a driver for each driver that backs the call. -/
theorem dispatch_now_le (ctx : Context) (registry : List (Driver σ)) (client : Option Span) (c : Call)
    {s : Scene σ} (hs : Clock.Whole s.now) :
    (dispatch ctx registry client c s).scene.now ≤ s.now + (eligible registry c).length *
      Clock.tick (Budget.perDriver ctx s.now (eligible registry c).length client).ns := by
  cases alive : ctx.error? s.now with
  | some cause =>
      rw [dispatch_done alive]
      exact Nat.le_add_right ..
  | none =>
      by_cases hnobody : eligible registry c = []
      · rw [dispatch_nobody alive hnobody]
        exact Nat.le_add_right ..
      · obtain ⟨turns, rest, hdrivers, hcourse, -⟩ := dispatch_course_plain alive hnobody client
        refine Nat.le_trans (hcourse.now_le hs) (Nat.add_le_add_left ?_ _)
        refine Nat.mul_le_mul_right _ ?_
        rw [hdrivers, List.length_append, List.length_map]
        exact Nat.le_add_right ..

/-! ## All drivers at once -/

theorem together_now_le (ctx : Context) (time : Span) (idle : α)
    (ops : List (Option (Operation σ α))) (s : Scene σ) :
    (together ctx time idle ops s).2.now ≤ expiry s.now time := by
  obtain ⟨hlater, hend, hstill⟩ := together_now ctx time idle ops s
  exact now_le_expiry ⟨hlater, fun halive u hu => hend u hu halive, hstill⟩

variable (client : Client σ) (ctx : Context) (run : Run σ)

theorem openAll_now_le :
    (client.openAll ctx run).2.2.now ≤ expiry run.now (client.sessionTime ctx run.now) := by
  have h := together_now_le ctx (client.sessionTime ctx run.now) (.ok ())
    (client.registry.map fun d => d.capabilities.connection.map Connection.login) run.toScene
  unfold openAll
  split
  · exact le_expiry run.now _
  · simp only
    split <;> exact h

theorem closeAll_now_le :
    (client.closeAll ctx run).2.now ≤ expiry run.now (client.sessionTime ctx run.now) := by
  have h := together_now_le ctx (client.sessionTime ctx run.now) (.ok ())
    (client.registry.map fun d => d.capabilities.connection.map Connection.logout) run.toScene
  exact h

theorem keepCompatible_now_le :
    (client.keepCompatible ctx run).2.now ≤ expiry run.now (client.sessionTime ctx run.now) := by
  have h := together_now_le ctx (client.sessionTime ctx run.now) true
    (client.registry.map fun d => d.capabilities.connection.map Connection.probe) run.toScene
  exact h

/-! ## Calls that may go on for ever -/

/-- The time of a driver in a call without a deadline: what the caller says, else what the client
says, else half a minute. -/
def patience (client : Client σ) (ctx : Context) : Span :=
  (ctx.perDriver.or client.config.perProvider).getD Budget.default

variable {client ctx run}

theorem perDriver_eq_patience (unlimited : ctx.deadline = none) (now count : Nat) :
    Budget.perDriver ctx now count client.config.perProvider = client.patience ctx := by
  unfold Budget.perDriver Budget.allocate patience
  cases ctx.perDriver.or client.config.perProvider with
  | some time => rfl
  | none => simp [remaining, unlimited]

/-- **Nothing blocks for ever**, although the call has no deadline. Whatever a driver is asked to do,
hanging or not, has an end within the driver's time. A call that starts at a whole millisecond takes
no more than that time for each driver that it may try; to open or close the sessions of all
drivers or to probe them takes no more than that time once, however many drivers there are. -/
theorem client_patience (client : Client σ) (ctx : Context) (run : Run σ)
    (unlimited : ctx.deadline = none) :
    let time := client.patience ctx
    (∀ {α : Type} (op : Operation σ α) (s : Scene σ), ∃ r s',
      (ctx.limited s.now time).run op s = some (r, s') ∧ s'.now ≤ Clock.tick (s.now + time.ns)) ∧
    (∀ c, Clock.Whole run.now → (client.call ctx c run).2.now ≤
      run.now + (eligible client.registry c).length * Clock.tick time.ns) ∧
    (client.openAll ctx run).2.2.now ≤ Clock.tick (run.now + time.ns) ∧
    (client.closeAll ctx run).2.now ≤ Clock.tick (run.now + time.ns) ∧
    (client.keepCompatible ctx run).2.now ≤ Clock.tick (run.now + time.ns) ∧
    (Clock.Whole run.now → Clock.tick (run.now + time.ns) = run.now + Clock.tick time.ns) := by
  intro time
  have hsession : client.sessionTime ctx run.now = time := perDriver_eq_patience unlimited run.now 1
  refine ⟨fun op s => run_limited_now_le ctx time op s, fun c hwhole => ?_, ?_, ?_, ?_,
    fun hwhole => expiry_of_whole hwhole time⟩
  · have h := dispatch_now_le ctx client.registry client.config.perProvider c hwhole
    rwa [perDriver_eq_patience unlimited] at h
  · have h := openAll_now_le client ctx run
    rwa [hsession] at h
  · have h := closeAll_now_le client ctx run
    rwa [hsession] at h
  · have h := keepCompatible_now_le client ctx run
    rwa [hsession] at h

/-- Two drivers that never answer, with a millisecond and a half for each: both wait for the end of
the second millisecond, and the call takes four. -/
theorem client_patience_with_hung_drivers :
    let client : Client Mock.State :=
      { registry := [mockDriver { name := "a", behavior := .hang },
          mockDriver { name := "b", behavior := .hang }]
        config := { perProvider := some ⟨1500000⟩ } }
    let run : Run Mock.State := { now := 0, world := {} }
    Context.background.deadline = none ∧ (client.patience .background).ns = 1500000 ∧
      (client.call .background .powerState run).2.now = 4000000 ∧
      (client.call .background .powerState run).2.now ≤ 0 + 2 * Clock.tick 1500000 := by
  intro client run
  have h := (client_patience client .background run rfl).2.1 .powerState (Clock.whole_millis 0)
  exact ⟨rfl, rfl, by decide +kernel, h⟩

end OutOfBand.Client
