import OutOfBand.Proofs.Sessions.Open

/-!
# Sessions in a call that is over

A client that opens its sessions, or finds out which drivers can work with the controller, in a call
that is over asks nobody. What comes of each driver is then a matter of whether it has a session at
all: a driver without one is as good as opened and as good as compatible, and all others fail
(`together_done`). So the client keeps the drivers without a session and loses the others, although
it has not asked them; only if there is nobody left does opening leave it as it is.
-/

namespace OutOfBand

/-- A part of a call that is over is over in the same way. -/
theorem Context.error?_limited_of_done {ctx : Context} {now : Nat} {cause : Interruption}
    (done : ctx.error? now = some cause) (time : Span) :
    (ctx.limited now time).error? now = some cause := by
  have hcancel : (ctx.limited now time).cancelAt = ctx.cancelAt := rfl
  cases cause with
  | canceled =>
      rw [error?_eq_canceled_iff] at done ⊢
      rwa [hcancel]
  | deadlineExceeded =>
      rw [error?_eq_deadlineExceeded_iff] at done ⊢
      obtain ⟨halive, hlate⟩ := done
      refine ⟨by rwa [hcancel], ?_⟩
      show reached now (earlier ctx.deadline (some (now + time.ns))) = true
      rw [reached_earlier, hlate, Bool.true_or]

namespace Client

open Context Sessions

/-! ## Work that is not started -/

namespace Running

theorem settleAt_finished (t now : Nat) (answer : Except Interruption α) (w : σ) :
    settleAt t (finished now answer) w = (finished now answer, w) := by
  unfold settleAt
  split
  · rename_i hstop
    have hnow : now = t := hstop
    rw [hnow]
    rfl
  · rfl

/-- What leaves the world as it is for each piece of work leaves it as it is for all. -/
theorem each_still {f : α → σ → Running σ β × σ} {g : α → Running σ β}
    (h : ∀ a w, f a w = (g a, w)) (as : List α) (w : σ) : each f as w = (as.map g, w) := by
  induction as with
  | nil => rfl
  | cons a as ih => simp [each, h, ih]

theorem settleThrough_finished (ts : List Nat) (now : Nat)
    (answers : List (Except Interruption α)) (w : σ) :
    settleThrough ts (answers.map (finished now)) w = (answers.map (finished now), w) := by
  induction ts with
  | nil => rfl
  | cons t ts ih =>
      have hstill : each (settleAt t) (answers.map (finished now)) w =
          (answers.map (finished now), w) := by
        rw [each_map]
        exact each_still (fun answer w => settleAt_finished t now answer w) answers w
      rw [settleThrough, hstill]
      exact ih

/-- What comes of work in a call that is over: work that is absent succeeds. -/
def unstarted (idle : α) (cause : Interruption) : Option (Operation σ α) → Except Interruption α
  | none => .ok idle
  | some _ => .error cause

theorem start_done {ctx : Context} {time : Span} {now : Nat} {cause : Interruption}
    (done : (ctx.limited now time).error? now = some cause) (idle : α)
    (op : Option (Operation σ α)) (w : σ) :
    start ctx time now idle op w = (finished now (unstarted idle cause op), w) := by
  cases op with
  | none => rfl
  | some op => simp [start, done, unstarted]

end Running

open Running

/-- **In a call that is over nothing is started**: work side by side leaves the scene as it is. -/
theorem together_done {ctx : Context} {s : Scene σ} {cause : Interruption}
    (done : ctx.error? s.now = some cause) (time : Span) (idle : α)
    (ops : List (Option (Operation σ α))) :
    together ctx time idle ops s = (ops.map (unstarted idle cause), s) := by
  have hpart := error?_limited_of_done done time
  have hstarted : each (start ctx time s.now idle) ops s.world =
      ((ops.map (unstarted idle cause)).map (finished s.now), s.world) := by
    rw [each_still (fun op w => start_done hpart idle op w), List.map_map]
    rfl
  have hnow : (together ctx time idle ops s).2.now = s.now :=
    (together_now ctx time idle ops s).2.2 (by simp [hpart])
  simp only [together, hstarted, settleThrough_finished] at hnow ⊢
  rw [hnow, List.map_map]
  exact Prod.ext (List.map_id' _) rfl

/-! ## Clients -/

/-- The drivers that have no session. -/
def sessionless (client : Client σ) : List (Driver σ) :=
  client.registry.filter fun d => d.capabilities.connection.isNone

theorem sessionless_eq_registry_iff {client : Client σ} : client.sessionless = client.registry ↔
    ∀ d ∈ client.registry, d.capabilities.connection = none := by
  simp [sessionless, List.filter_eq_self]

theorem sessionless_eq_nil_iff {client : Client σ} : client.sessionless = [] ↔
    ∀ d ∈ client.registry, d.capabilities.connection ≠ none := by
  simp [sessionless, List.filter_eq_nil_iff]

/-- What opening the sessions, and finding out who is compatible, come to in a call that is over. -/
structure Unasked (client : Client σ) (ctx : Context) (run : Run σ) (cause : Interruption) :
    Prop where
  /-- No driver is asked to open its session, and the scene stays as it is. -/
  opening : client.watched.openAll ctx (run.watched []) = ((client.openAll ctx run).1,
      (client.openAll ctx run).2.1.watched, (client.openAll ctx run).2.2.watched []) ∧
    (client.openAll ctx run).2.2.toScene = run.toScene
  /-- Each driver that has a session fails, for what the call ended of. -/
  outcomes : client.outcomes ctx run = client.registry.map fun d => (d, (login? d).bind fun _ =>
    sessionCause (client.sessionTime ctx run.now) (.error cause))
  /-- If every driver has a session, opening fails and the client stays as it is. -/
  kept : client.registry ≠ [] → client.sessionless = [] →
    (client.openAll ctx run).1 = .error (.context cause (failed (client.outcomes ctx run))) ∧
      (client.openAll ctx run).2.1 = client
  /-- In all other cases opening succeeds, and the drivers that have a session are lost. -/
  lost : client.registry = [] ∨ client.sessionless ≠ [] →
    (client.openAll ctx run).1 = .ok () ∧
      (client.openAll ctx run).2.1 = { client with registry := client.sessionless }
  same_iff : (client.openAll ctx run).2.1.registry = client.registry ↔
    (∀ d ∈ client.registry, d.capabilities.connection ≠ none) ∨
      ∀ d ∈ client.registry, d.capabilities.connection = none
  /-- No driver is probed. -/
  probing : client.watched.keepCompatible ctx (run.watched []) =
    ((client.keepCompatible ctx run).1.watched, (client.keepCompatible ctx run).2.watched [])
  /-- The drivers that have a session are not taken for compatible. -/
  compatible : client.keepCompatible ctx run = ({ client with registry := client.sessionless }, run)
  compatible_iff : (client.keepCompatible ctx run).1.registry = client.registry ↔
    ∀ d ∈ client.registry, d.capabilities.connection = none

section Done

variable (client : Client σ) {ctx : Context} {run : Run σ} {cause : Interruption}

theorem outcomes_done (done : ctx.error? run.now = some cause) :
    client.outcomes ctx run = client.registry.map fun d => (d, (login? d).bind fun _ =>
      sessionCause (client.sessionTime ctx run.now) (.error cause)) := by
  rw [outcomes, logins, together_done done, List.map_map, List.map_map]
  refine (List.map_prod_left_eq_zip ..).symm.trans (List.map_congr_left fun d _ => ?_)
  cases h : login? d <;> simp [h, unstarted, sessionCause]

theorem opened_done (done : ctx.error? run.now = some cause) :
    (client.opened ctx run).toScene = run.toScene := by
  rw [opened, logins, together_done done]

theorem succeeded_done (done : ctx.error? run.now = some cause) :
    succeeded (client.outcomes ctx run) = client.sessionless := by
  rw [outcomes_done client done, succeeded, List.filter_map, List.map_map, sessionless]
  refine (List.map_id' _).trans (List.filter_congr fun d _ => ?_)
  cases h : d.capabilities.connection with
  | none => simp [login?, h]
  | some k => cases cause <;> simp [login?, h, sessionCause]

theorem openAll_done (done : ctx.error? run.now = some cause) (hne : client.registry ≠ []) :
    client.openAll ctx run =
      if client.sessionless = [] then
        (.error (.context cause (failed (client.outcomes ctx run))), client, client.opened ctx run)
      else (.ok (), { client with registry := client.sessionless }, client.opened ctx run) := by
  have hnow : (client.logins ctx run).2.now = run.now :=
    congrArg Scene.now (opened_done client done)
  rw [openAll_eq ctx run hne, succeeded_done client done, hnow, done]

theorem openAll_done_scene (run : Run σ) (done : ctx.error? run.now = some cause) :
    (client.openAll ctx run).2.2.toScene = run.toScene := by
  by_cases hnobody : client.registry = []
  · simp [openAll, hnobody]
  · rw [openAll_done client done hnobody]
    split <;> exact opened_done client done

theorem keepCompatible_done (run : Run σ) (done : ctx.error? run.now = some cause) :
    client.keepCompatible ctx run = ({ client with registry := client.sessionless }, run) := by
  simp only [keepCompatible, together_done done, List.map_map, ← List.map_prod_left_eq_zip,
    List.filter_map, sessionless]
  congr 2
  refine (List.map_id' _).trans (List.filter_congr fun d _ => ?_)
  cases h : d.capabilities.connection <;> simp [h, unstarted]

/-- **A call that is over asks no driver and loses drivers all the same**: those that have a session,
unless, where sessions are to be opened, there are no others. -/
theorem finished_calls_unasked (ctx : Context) (run : Run σ) (cause : Interruption)
    (done : ctx.error? run.now = some cause) :
    Unasked client ctx run cause := by
  have hcompatible := keepCompatible_done client run done
  have hregistry : client.registry = [] → client.sessionless = client.registry := by
    intro hnobody
    rw [sessionless, hnobody, List.filter_nil]
  exact {
    opening := by
      obtain ⟨log, -, h⟩ := openAll_watched client ctx (run.watched [])
      have hstill := openAll_done_scene client.watched (run.watched []) done
      rw [h] at hstill ⊢
      have hlog : log = [] := congrArg Scene.log hstill
      exact ⟨by rw [hlog]; rfl, openAll_done_scene client run done⟩
    outcomes := outcomes_done client done
    kept := fun hne hnone => by simp [openAll_done client done hne, hnone]
    lost := by
      by_cases hnobody : client.registry = []
      · have hopen : client.openAll ctx run = (.ok (), client, { run with record := {} }) := by
          simp [openAll, hnobody]
        rw [hopen, hregistry hnobody]
        exact fun _ => ⟨rfl, rfl⟩
      · rintro (h | hsome)
        · exact absurd h hnobody
        · simp [openAll_done client done hnobody, hsome]
    same_iff := by
      rw [← sessionless_eq_nil_iff, ← sessionless_eq_registry_iff]
      by_cases hnobody : client.registry = []
      · simp [openAll, hnobody, hregistry hnobody]
      · rw [openAll_done client done hnobody]
        split <;> simp_all
    probing := by
      obtain ⟨log, -, h⟩ := keepCompatible_watched client ctx (run.watched [])
      have hstill := keepCompatible_done client.watched (run.watched []) done
      rw [h] at hstill ⊢
      have hlog : log = [] := congrArg Run.log (Prod.mk.inj hstill).2
      rw [hlog]
      rfl
    compatible := hcompatible
    compatible_iff := by rw [hcompatible, ← sessionless_eq_registry_iff] }

end Done

/-- A driver that has no session and one that has. -/
def mixedPair : Client Mock.State :=
  { registry := [.ofCapabilities "a" "mock" .none, mockDriver { name := "b" }] }

/-- Of two drivers only one has a session, and the time was up before the call began. -/
theorem finished_calls_unasked_of_mixedPair :
    let ctx : Context := { deadline := some 3 }
    let run : Run Mock.State := { now := 5, world := {} }
    ctx.error? run.now = some .deadlineExceeded ∧ Unasked mixedPair ctx run .deadlineExceeded ∧
      mixedPair.sessionless.map Driver.name = ["a"] :=
  ⟨by decide, finished_calls_unasked mixedPair _ _ .deadlineExceeded (by decide), by decide⟩

/-- **Drivers are lost without having been asked**: after a call that was cancelled before it began
the driver with a session is gone, and opening is said to have succeeded. -/
theorem drivers_lost_unasked :
    let ctx : Context := { cancelAt := some 0 }
    let run : Run (Watched Mock.State) := { now := 0, world := { world := {} } }
    ctx.error? run.now = some .canceled ∧
    mixedPair.watched.registry.map Driver.name = ["a", "b"] ∧
    (mixedPair.watched.keepCompatible ctx run).1.registry.map Driver.name = ["a"] ∧
    (mixedPair.watched.keepCompatible ctx run).2.log.length = 0 ∧
    (mixedPair.watched.openAll ctx run).1.isOk = true ∧
    (mixedPair.watched.openAll ctx run).2.1.registry.map Driver.name = ["a"] ∧
    (mixedPair.watched.openAll ctx run).2.2.log.length = 0 := by
  intro ctx run
  have done : ctx.error? run.now = some .canceled := by decide
  have hsome : mixedPair.watched.sessionless ≠ [] := List.cons_ne_nil _ _
  have hkept := keepCompatible_done mixedPair.watched run done
  have hopen := openAll_done mixedPair.watched done (List.cons_ne_nil _ _)
  have hscene := openAll_done_scene mixedPair.watched run done
  rw [if_neg hsome] at hopen
  refine ⟨done, by decide, ?_, ?_, ?_, ?_, congrArg (fun s => s.world.log.length) hscene⟩
  · rw [hkept]
    decide
  · rw [hkept]
    decide
  · rw [hopen]
    rfl
  · rw [hopen]
    decide

end Client

end OutOfBand
