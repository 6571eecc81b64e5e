import OutOfBand.Proofs.Patience
import OutOfBand.Proofs.Sessions.Apart
import OutOfBand.Proofs.Sessions.Watched
import OutOfBand.Proofs.Sorted

/-!
# What opening the sessions accounts for

A client that opens its sessions asks each driver once that has one, all at the same instant. What
it keeps, what it returns and what is on record can be told from what came of each driver on its own
account (`Opening`); in what order the drivers answer does not matter. A client that is left with
nobody stays as it is.
-/

namespace OutOfBand.Client

open Context

/-! ## Outcomes -/

namespace Sessions

/-- The drivers whose session was opened or closed as it should be. -/
def succeeded (outcomes : List (Driver σ × Option Cause)) : List (Driver σ) :=
  (outcomes.filter fun p => p.2.isNone).map Prod.fst

/-- The failures of the others. -/
def failed (outcomes : List (Driver σ × Option Cause)) : List Failure :=
  outcomes.filterMap fun p => p.2.map (⟨p.1.name, ·⟩)

/-- What is on record about the failures. -/
def details (failures : List Failure) : Details :=
  Json.sorted (failures.map fun f => (f.driver, f.cause.message))

theorem succeeded_sublist (outcomes : List (Driver σ × Option Cause)) :
    List.Sublist (succeeded outcomes) (outcomes.map Prod.fst) :=
  List.filter_sublist.map Prod.fst

/-- Under each name there is the last failure of that name. -/
theorem mem_details {failures : List Failure} {name text : String} :
    (name, text) ∈ details failures ↔ ∃ before f after, failures = before ++ f :: after ∧
      f.driver = name ∧ f.cause.message = text ∧ ∀ g ∈ after, g.driver ≠ name := by
  rw [details, Json.mem_sorted]
  constructor
  · rintro ⟨before, after, heq, hafter⟩
    obtain ⟨before, rest, rfl, rfl, hrest⟩ := List.map_eq_append_iff.mp heq
    obtain ⟨f, after, rfl, hf, rfl⟩ := List.map_eq_cons_iff.mp hrest
    obtain ⟨rfl, rfl⟩ := Prod.mk.inj hf
    exact ⟨before, f, after, rfl, rfl, rfl, fun g hg => hafter _ (List.mem_map_of_mem hg)⟩
  · rintro ⟨before, f, after, rfl, rfl, rfl, hafter⟩
    refine ⟨_, _, List.map_append.trans (congrArg _ List.map_cons), fun m hm => ?_⟩
    obtain ⟨g, hg, rfl⟩ := List.mem_map.mp hm
    exact hafter g hg

theorem ofOutcomes_append_singleton (note : Metadata → String → Metadata)
    (outcomes : List (Driver σ × Option Cause)) (p : Driver σ × Option Cause) :
    ofOutcomes note (outcomes ++ [p]) = (ofOutcomes note outcomes).add note p.1 p.2 := by
  simp [ofOutcomes]

/-- What is taken down of the sessions that were opened. -/
theorem ofOutcomes_opened (outcomes : List (Driver σ × Option Cause)) :
    ofOutcomes Metadata.sessionOpened outcomes =
      { done := succeeded outcomes
        failures := failed outcomes
        record := {
          attempted := outcomes.map fun p => p.1.name
          opened := (succeeded outcomes).map Driver.name
          failures := details (failed outcomes) } } := by
  induction outcomes using List.reverseRecOn with
  | nil => rfl
  | append_singleton outcomes p ih =>
      obtain ⟨d, cause⟩ := p
      rw [ofOutcomes_append_singleton, ih]
      cases cause <;> simp [add, succeeded, failed, details, Metadata.attempt, Metadata.sessionOpened,
        Metadata.failure, Json.sorted_append_singleton]

end Sessions

open Sessions

/-! ## The account of an opening -/

/-- What a driver is asked for when its session is opened, if it has one. -/
def login? (d : Driver σ) : Option (Operation σ (Except Fault Unit)) :=
  d.capabilities.connection.map Connection.login

/-- What the opening of all sessions, after which there are `client'` and `run'`, has to do with
what came of the session of each driver. -/
structure Opening (client : Client σ) (ctx : Context) (run : Run σ)
    (outcomes : List (Driver σ × Option Cause)) (result : Except CallError Unit)
    (client' : Client σ) (run' : Run σ) : Prop where
  drivers : outcomes.map Prod.fst = client.registry
  /-- Each driver answered on its own account. -/
  own : ∀ p ∈ outcomes, ∃ answer, p.2 = sessionCause (client.sessionTime ctx run.now) answer ∧
    Own ctx (client.sessionTime ctx run.now) run.now (.ok ()) (login? p.1) answer
  /-- Drivers that keep to parts of the world of their own answer as they do alone. -/
  apart : ∀ (τ : Type) (part : Nat → σ → τ),
    (∀ i d login, client.registry[i]? = some d → login? d = some login →
      KeepsTo part run.now i login) →
    outcomes = client.registry.map fun d => (d, sessionCause (client.sessionTime ctx run.now)
      (alone ctx (client.sessionTime ctx run.now) (.ok ()) run.toScene (login? d)))
  /-- Each driver that has a session is asked once to open it, and all at the same instant. -/
  asked : ∃ log, client.watched.openAll ctx (run.watched []) =
      (result, client'.watched, run'.watched log) ∧
    Event.starts log =
      (client.registry.filter fun d => d.capabilities.connection.isSome).map (⟨·, .login, run.now⟩)
  order : List.Sublist (succeeded outcomes) client.registry
  ok_iff : result = .ok () ↔ succeeded outcomes ≠ [] ∨ client.registry = []
  /-- The client has the drivers that opened their session, in order, and nothing else is new. -/
  ok : result = .ok () → client' = { client with registry := succeeded outcomes }
  /-- A client that is left with nobody stays as it is. -/
  error : ∀ e, result = .error e → client' = client ∧
    e = match ctx.error? run'.now with
      | some cause => .context cause (failed outcomes)
      | none => .exhausted "open" (failed outcomes)
  record : run'.record = {
    attempted := client.registry.map Driver.name
    opened := (succeeded outcomes).map Driver.name
    failures := details (failed outcomes) }
  /-- Under the name of each driver that failed there is why the last driver of that name did. -/
  details : ∀ name text, (name, text) ∈ run'.record.failures ↔
    ∃ before f after, failed outcomes = before ++ f :: after ∧ f.driver = name ∧
      f.cause.message = text ∧ ∀ g ∈ after, g.driver ≠ name
  later : run.now ≤ run'.now
  inTime : run'.now ≤ expiry run.now (client.sessionTime ctx run.now)
  obeys : ∀ u, ctx.stop = some u → run'.now ≤ u

section Logins

variable {client : Client σ} {ctx : Context} {run : Run σ}

/-- What comes of the sessions of all drivers that a client opens. -/
def logins (client : Client σ) (ctx : Context) (run : Run σ) :
    List (Except Interruption (Except Fault Unit)) × Scene σ :=
  together ctx (client.sessionTime ctx run.now) (.ok ()) (client.registry.map login?) run.toScene

def outcomes (client : Client σ) (ctx : Context) (run : Run σ) :
    List (Driver σ × Option Cause) :=
  client.registry.zip
    ((client.logins ctx run).1.map (sessionCause (client.sessionTime ctx run.now)))

/-- The run after the sessions were opened. -/
def opened (client : Client σ) (ctx : Context) (run : Run σ) : Run σ :=
  ⟨(client.logins ctx run).2, {
    attempted := (client.outcomes ctx run).map fun p => p.1.name
    opened := (succeeded (client.outcomes ctx run)).map Driver.name
    failures := details (failed (client.outcomes ctx run)) }⟩

theorem openAll_eq (ctx : Context) (run : Run σ) (hne : client.registry ≠ []) :
    client.openAll ctx run =
      if succeeded (client.outcomes ctx run) = [] then
        (.error (match ctx.error? (client.logins ctx run).2.now with
          | some cause => .context cause (failed (client.outcomes ctx run))
          | none => .exhausted "open" (failed (client.outcomes ctx run))),
          client, client.opened ctx run)
      else (.ok (), { client with registry := succeeded (client.outcomes ctx run) },
        client.opened ctx run) := by
  have hempty : client.registry.isEmpty = false := List.isEmpty_eq_false_iff.mpr hne
  have hsessions : client.sessions ctx Connection.login Metadata.sessionOpened run.toScene =
      (ofOutcomes Metadata.sessionOpened (client.outcomes ctx run),
        (client.logins ctx run).2) := rfl
  simp only [openAll, hempty, hsessions, ofOutcomes_opened, List.isEmpty_iff, Bool.false_eq_true,
    if_false]
  rfl

theorem openAll_run (ctx : Context) (run : Run σ) (hne : client.registry ≠ []) :
    (client.openAll ctx run).2.2 = client.opened ctx run := by
  rw [openAll_eq ctx run hne]
  split <;> rfl

/-- Drivers that keep to parts of the world of their own answer as they do alone. -/
theorem outcomes_apart {part : Nat → σ → τ}
    (hkeeps : ∀ i d login, client.registry[i]? = some d → login? d = some login →
      KeepsTo part run.now i login) :
    client.outcomes ctx run = client.registry.map fun d => (d,
      sessionCause (client.sessionTime ctx run.now)
        (alone ctx (client.sessionTime ctx run.now) (.ok ()) run.toScene (login? d))) := by
  have hops : ∀ i op, (client.registry.map login?)[i]? = some (some op) →
      KeepsTo part run.now i op := by
    intro i op hop
    rw [List.getElem?_map] at hop
    obtain ⟨d, hd, hlogin⟩ := Option.map_eq_some_iff.mp hop
    exact hkeeps i d op hd hlogin
  have hanswers := together_apart ctx (client.sessionTime ctx run.now) (.ok ()) hops
  rw [outcomes, logins, hanswers, List.map_map, List.map_map]
  exact (List.map_prod_left_eq_zip ..).symm

variable (halive : (ctx.limited run.now (client.sessionTime ctx run.now)).error? run.now = none)
include halive

theorem openAll_asked :
    ∃ log, client.watched.openAll ctx (run.watched []) = ((client.openAll ctx run).1,
        (client.openAll ctx run).2.1.watched, (client.openAll ctx run).2.2.watched log) ∧
      Event.starts log =
        (client.registry.filter fun d => d.capabilities.connection.isSome).map
          (⟨·, .login, run.now⟩) := by
  obtain ⟨log, hstarts, h⟩ := openAll_watched client ctx (run.watched [])
  refine ⟨log, h, hstarts.trans ?_⟩
  have hdone : (ctx.limited run.now (client.sessionTime ctx run.now)).isDone run.now = false :=
    isDone_eq_false_iff.mpr halive
  simp [Client.asked, Run.watched, hdone]

theorem outcomes_own : (client.outcomes ctx run).map Prod.fst = client.registry ∧
    ∀ p ∈ client.outcomes ctx run, ∃ answer,
      p.2 = sessionCause (client.sessionTime ctx run.now) answer ∧
      Own ctx (client.sessionTime ctx run.now) run.now (.ok ()) (login? p.1) answer := by
  obtain ⟨hlength, hown⟩ := together_own halive (.ok ())
    (client.registry.map login?)
  rw [List.length_map] at hlength
  refine ⟨?_, fun p hp => ?_⟩
  · rw [outcomes, List.map_fst_zip]
    simp [logins, hlength]
  · rw [outcomes, List.zip_map_right] at hp
    obtain ⟨⟨d, answer⟩, hmem, rfl⟩ := List.mem_map.mp hp
    refine ⟨answer, rfl, hown (login? d, answer) ?_⟩
    rw [List.zip_map_left]
    exact List.mem_map.mpr ⟨(d, answer), hmem, rfl⟩

theorem logins_now :
    run.now ≤ (client.logins ctx run).2.now ∧
      (client.logins ctx run).2.now ≤ expiry run.now (client.sessionTime ctx run.now) ∧
      ∀ u, ctx.stop = some u → (client.logins ctx run).2.now ≤ u := by
  obtain ⟨hlater, hend, -⟩ := together_now ctx (client.sessionTime ctx run.now) (.ok ())
    (client.registry.map login?) run.toScene
  have hstop := stop_limited ctx run.now (client.sessionTime ctx run.now)
  refine ⟨hlater, together_now_le .., fun u hu => ?_⟩
  exact Nat.le_trans (hend _ (by rw [hstop, hu, earlier]) halive) (Nat.min_le_left ..)

end Logins

/-- **Every opening of the sessions has its account**, however the drivers behave and in whatever
order they are done, if the context is not done and gives the drivers any time. -/
theorem openAll_account (client : Client σ) (ctx : Context) (run : Run σ)
    (alive : ctx.error? run.now = none) (budget : 0 < (client.sessionTime ctx run.now).ns) :
    ∃ outcomes, Opening client ctx run outcomes (client.openAll ctx run).1
      (client.openAll ctx run).2.1 (client.openAll ctx run).2.2 := by
  have halive := (error?_limited alive).mpr budget
  have hasked := openAll_asked halive
  obtain ⟨hdrivers, hown⟩ := outcomes_own halive
  obtain ⟨hlater, hinTime, hobeys⟩ := logins_now halive
  refine ⟨client.outcomes ctx run, ?_⟩
  -- A client without drivers is done at once; all others are told from what came of each login.
  by_cases hnobody : client.registry = []
  · have hnone : client.outcomes ctx run = [] := by simp [outcomes, hnobody]
    have hopen : client.openAll ctx run = (.ok (), client, { run with record := {} }) := by
      simp [openAll, hnobody]
    rw [hopen] at hasked ⊢
    exact {
      drivers := hdrivers
      own := hown
      apart := fun _ _ hkeeps => outcomes_apart hkeeps
      asked := hasked
      order := hdrivers ▸ succeeded_sublist _
      ok_iff := by simp [hnobody]
      ok := fun _ => by simp [hnone, succeeded, ← hnobody]
      error := fun _ h => by cases h
      record := by simp [hnone, hnobody, succeeded, failed, details, Json.sorted]
      details := fun name text => by simp [hnone, failed]
      later := Nat.le_refl _
      inTime := le_expiry ..
      obeys := fun u hu => Nat.le_of_lt (lt_stop_of_error?_eq_none alive u hu) }
  · have hopen := openAll_eq ctx run hnobody
    have hrun := openAll_run ctx run hnobody
    have hnames : (client.outcomes ctx run).map (fun p => p.1.name) =
        client.registry.map Driver.name := by
      rw [← hdrivers, List.map_map]
      rfl
    refine ⟨hdrivers, hown, fun _ _ hkeeps => outcomes_apart hkeeps, hasked,
      hdrivers ▸ succeeded_sublist _, ?_, ?_, ?_, ?_, fun _ _ => ?_, ?_, ?_, ?_⟩
    · rw [hopen]
      split <;> simp_all
    · rw [hopen]
      split <;> simp
    · rw [hopen]
      split
      · rintro _ ⟨⟩
        exact ⟨rfl, rfl⟩
      · rintro _ ⟨⟩
    · rw [hrun, opened, hnames]
    · rw [hrun]
      exact mem_details
    · rwa [hrun]
    · rwa [hrun]
    · rwa [hrun]

/-- A driver whose session is open after a while, or never. The `i`-th part of the world counts how
often it was asked. -/
def slowDriver (i : Nat) (name : String) (lag : Option Span) : Driver (Nat → Nat) :=
  .ofCapabilities name "mock" <| Capabilities.within (· i) (fun n w => Function.update w i n)
    { Capabilities.none with
      connection := some ⟨fun _ n => ⟨n + 1, lag, fun n => (.ok (), n)⟩, .answer (.ok ()),
        .answer true⟩ }

/-- A driver that never answers, one that needs no session and one that takes its time. -/
theorem openAll_account_of_hung_driver :
    let client : Client (Nat → Nat) := {
      registry := [slowDriver 0 "a" none, .ofCapabilities "b" "mock" .none,
        slowDriver 2 "c" (some (.ofMillis 50))]
      config := { perProvider := some (.ofMillis 1000) } }
    let ctx : Context := {}
    let run : Run (Nat → Nat) := { now := 0, world := fun _ => 0 }
    ctx.error? run.now = none ∧ 0 < (client.sessionTime ctx run.now).ns ∧
      ∃ outcomes client' run', client.openAll ctx run = (.ok (), client', run') ∧
        Opening client ctx run outcomes (.ok ()) client' run' ∧
        client'.registry.map Driver.name = ["b", "c"] := by
  intro client ctx run
  have alive : ctx.error? run.now = none := by decide
  have budget : 0 < (client.sessionTime ctx run.now).ns := by decide
  obtain ⟨outcomes, h⟩ := openAll_account client ctx run alive budget
  -- Each driver has its own part of the world, so what comes of it is what comes of it alone.
  have houtcomes := h.apart Nat (fun i w => w i) fun i d login hd hlogin => by
    have hkeeps := fun op : Operation Nat (Except Fault Unit) =>
      keepsTo_within (fun i w => w i) (fun i n w => Function.update w i n)
        (fun i n w => Function.update_self i n w) (fun i j n w hj => Function.update_of_ne hj n w)
        run.now i op
    rcases i with _ | _ | _ | i
    · cases hd
      cases hlogin
      exact hkeeps _
    · cases hd
      cases hlogin
    · cases hd
      cases hlogin
      exact hkeeps _
    · cases hd
  have hsucceeded : (succeeded outcomes).map Driver.name = ["b", "c"] := by
    rw [houtcomes]
    decide +kernel
  have hresult : (client.openAll ctx run).1 = .ok () :=
    h.ok_iff.mpr (.inl fun hnone => by simp [hnone] at hsucceeded)
  refine ⟨alive, budget, outcomes, (client.openAll ctx run).2.1, (client.openAll ctx run).2.2,
    Prod.ext hresult rfl, hresult ▸ h, ?_⟩
  rw [h.ok hresult]
  exact hsucceeded

end OutOfBand.Client
