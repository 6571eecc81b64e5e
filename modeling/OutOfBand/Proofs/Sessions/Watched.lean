import OutOfBand.Proofs.Install.Plain
import OutOfBand.Proofs.SideBySide

/-!
# Watching sessions

Watching changes nothing about how the sessions of a client are opened, closed or probed. The log
tells of each driver that has a session that it was asked once, in the order of the registry, unless
there was no time for it.
-/

namespace OutOfBand

/-- A run with a log of its scene. -/
def Run.watched (run : Run σ) (log : List (Event σ)) : Run (Watched σ) :=
  ⟨run.toScene.watched log, run.record⟩

@[simp] theorem Run.plain_watched (run : Run σ) (log : List (Event σ)) :
    (run.watched log).plain = run := rfl

def Run.log (run : Run (Watched σ)) : List (Event σ) := run.toScene.log

theorem Connection.login_watched (d : Driver σ) (k : Connection σ) :
    (k.watched d).login = k.login.watched d .login := rfl

theorem Connection.logout_watched (d : Driver σ) (k : Connection σ) :
    (k.watched d).logout = k.logout.watched d .logout := rfl

theorem Connection.probe_watched (d : Driver σ) (k : Connection σ) :
    (k.watched d).probe = k.probe.watched d .probe := rfl

namespace Client

open Context

/-- The sessions of several drivers, watched. -/
def Sessions.watched (sessions : Sessions σ) : Sessions (Watched σ) where
  done := sessions.done.map Driver.watched
  failures := sessions.failures
  record := sessions.record

theorem Sessions.ofOutcomes_watched (note : Metadata → String → Metadata)
    (outcomes : List (Driver σ × Option Cause)) :
    ofOutcomes note (outcomes.map fun (d, cause) => (d.watched, cause)) =
      (ofOutcomes note outcomes).watched := by
  unfold ofOutcomes
  generalize hnone : ({} : Sessions (Watched σ)) = sessions'
  have hsessions : sessions' = Sessions.watched ({} : Sessions σ) := hnone.symm
  clear hnone
  generalize ({} : Sessions σ) = sessions at hsessions
  induction outcomes generalizing sessions sessions' with
  | nil => exact hsessions
  | cons first rest ih =>
      obtain ⟨d, cause⟩ := first
      refine ih _ _ ?_
      rw [hsessions]
      cases cause <;> simp [add, watched]

/-- What watched drivers do about their sessions is what the drivers do, watched. -/
theorem watched_acts {client : Client σ} {act : ∀ {τ : Type}, Connection τ → Operation τ α}
    {deed : Deed}
    (hact : ∀ (d : Driver σ) (k : Connection σ), act (k.watched d) = (act k).watched d deed) :
    (client.watched.registry.map fun d => d.capabilities.connection.map act) =
      client.registry.map fun d =>
        (d.capabilities.connection.map act).map (Operation.watched d deed) := by
  simp [Client.watched, Driver.watched, Function.comp_def, hact]

/-- The pieces of work that a log tells were started when each driver that has a session was asked
for something about it. -/
def asked (client : Client σ) (ctx : Context) (deed : Deed) (now : Nat) : List (Entry σ) :=
  if (ctx.limited now (client.sessionTime ctx now)).isDone now then []
  else (client.registry.filter fun d => d.capabilities.connection.isSome).map (⟨·, deed, now⟩)

theorem flatMap_startOf {client : Client σ} {ctx : Context} {deed : Deed} {now : Nat}
    (act : Connection σ → Operation σ α) :
    client.registry.flatMap (fun d => Running.startOf
      ((ctx.limited now (client.sessionTime ctx now)).isDone now) now d deed
      (d.capabilities.connection.map act)) = client.asked ctx deed now := by
  unfold asked
  cases (ctx.limited now (client.sessionTime ctx now)).isDone now with
  | true => simp [Running.startOf, List.flatMap_eq_nil_iff]
  | false =>
      simp only [Bool.false_eq_true, if_false]
      induction client.registry with
      | nil => rfl
      | cons d ds ih =>
          rw [List.flatMap_cons, ih]
          cases h : d.capabilities.connection <;> simp [Running.startOf, h]

section Watched

variable (client : Client σ) (ctx : Context)

theorem sessions_watched (act : ∀ {τ : Type}, Connection τ → Operation τ (Except Fault Unit))
    (deed : Deed)
    (hact : ∀ (d : Driver σ) (k : Connection σ), act (k.watched d) = (act k).watched d deed)
    (note : Metadata → String → Metadata) (s : Scene (Watched σ)) :
    ∃ log, Event.starts log = client.asked ctx deed s.now ∧
      client.watched.sessions ctx act note s =
        ((client.sessions ctx act note s.plain).1.watched,
          (client.sessions ctx act note s.plain).2.watched (s.log ++ log)) := by
  obtain ⟨log, hstarts, h⟩ := together_watched ctx (client.sessionTime ctx s.now) (.ok ())
    client.registry deed (fun d => d.capabilities.connection.map act) s
  refine ⟨log, hstarts.trans (flatMap_startOf act), ?_⟩
  have htime : client.watched.sessionTime ctx s.now = client.sessionTime ctx s.now := rfl
  simp only [sessions, watched_acts hact, htime, h]
  have hzip : ∀ causes : List (Option Cause), client.watched.registry.zip causes =
      (client.registry.zip causes).map fun (d, cause) => (d.watched, cause) := by
    intro causes
    simp [Client.watched, List.zip_map_left]
  rw [hzip, Sessions.ofOutcomes_watched]
  rfl

/-- **Watching changes nothing about opening the sessions.** -/
theorem openAll_watched (run : Run (Watched σ)) :
    ∃ log, Event.starts log = client.asked ctx .login run.now ∧
      client.watched.openAll ctx run =
        ((client.openAll ctx run.plain).1, (client.openAll ctx run.plain).2.1.watched,
          (client.openAll ctx run.plain).2.2.watched (run.log ++ log)) := by
  cases hempty : client.registry.isEmpty with
  | true =>
      have hnil : client.registry = [] := List.isEmpty_iff.mp hempty
      refine ⟨[], by simp [asked, hnil], ?_⟩
      simp [openAll, Client.watched, hnil, Run.watched, Run.log, Run.plain]
  | false =>
      obtain ⟨log, hstarts, h⟩ := sessions_watched client ctx Connection.login .login
        Connection.login_watched Metadata.sessionOpened run.toScene
      refine ⟨log, hstarts, ?_⟩
      have hempty' : client.watched.registry.isEmpty = false := by
        rw [Client.watched, List.isEmpty_map, hempty]
      simp only [openAll, hempty, hempty', Bool.false_eq_true, if_false, h]
      simp only [Sessions.watched, List.isEmpty_map, Scene.watched_now]
      cases hdone : (client.sessions ctx Connection.login Metadata.sessionOpened
        run.toScene.plain).1.done.isEmpty with
      | true =>
          simp only [Run.plain, hdone, if_true]
          rfl
      | false =>
          simp only [Run.plain, hdone, Bool.false_eq_true, if_false]
          rfl

theorem closeAll_watched (run : Run (Watched σ)) :
    ∃ log, Event.starts log = client.asked ctx .logout run.now ∧
      client.watched.closeAll ctx run = ((client.closeAll ctx run.plain).1,
        (client.closeAll ctx run.plain).2.watched (run.log ++ log)) := by
  obtain ⟨log, hstarts, h⟩ := sessions_watched client ctx Connection.logout .logout Connection.logout_watched
    Metadata.sessionClosed run.toScene
  refine ⟨log, hstarts, ?_⟩
  simp only [closeAll, h]
  rfl

theorem keepCompatible_watched (run : Run (Watched σ)) :
    ∃ log, Event.starts log = client.asked ctx .probe run.now ∧
      client.watched.keepCompatible ctx run = ((client.keepCompatible ctx run.plain).1.watched,
        (client.keepCompatible ctx run.plain).2.watched (run.log ++ log)) := by
  obtain ⟨log, hstarts, h⟩ := together_watched ctx (client.sessionTime ctx run.now) true
    client.registry .probe (fun d => d.capabilities.connection.map Connection.probe) run.toScene
  refine ⟨log, hstarts.trans (flatMap_startOf Connection.probe), ?_⟩
  have htime : client.watched.sessionTime ctx run.now = client.sessionTime ctx run.now := rfl
  simp only [keepCompatible, watched_acts Connection.probe_watched, htime, h]
  simp [Client.watched, List.zip_map_left, List.filter_map, Function.comp_def, Run.watched,
    Run.plain]
  rfl

end Watched

end Client

end OutOfBand
