import OutOfBand.Proofs.Install.Account

/-!
# The legs of an install

A *leg* is a step as it was done: from which report and scene, with which result, and with which
part of the log. An install whose steps are known goes in legs, each from where the leg before it
has come to (`Row`). What the install returns, and whether the controller is reset at the end, is
told by the last of them (`Journey`).
-/

namespace OutOfBand.Client

open Firmware

/-- A step as it was done. -/
structure Leg (σ : Type) where
  step : Step
  report : Report
  start : Scene (Watched σ)
  result : Except InstallError Report
  stop : Scene (Watched σ)
  log : List (Event σ)

/-- The leg is what the step does from there, and its log is what the step leaves. -/
structure Leg.Ran (i : Installer σ) (ctx : Context) (leg : Leg σ) : Prop where
  ran : i.watched.step ctx leg.report leg.start leg.step = some (leg.result, leg.stop)
  settled : StepSettled i leg.step leg.report leg.start leg.stop leg.result leg.log

/-- Legs that succeeded one after another, from a report and a scene to a report and a scene. -/
inductive Row (i : Installer σ) (ctx : Context) :
    Report → Scene (Watched σ) → List (Leg σ) → Report → Scene (Watched σ) → Prop
  | nil (report : Report) (s : Scene (Watched σ)) : Row i ctx report s [] report s
  | cons {leg : Leg σ} {next : Report} {legs report' s'} : leg.Ran i ctx → leg.result = .ok next →
      Row i ctx { next with steps := next.steps ++ [leg.step] } leg.stop legs report' s' →
      Row i ctx leg.report leg.start (leg :: legs) report' s'

section Row

variable {i : Installer σ} {ctx : Context} {report report' : Report} {s s' : Scene (Watched σ)}
  {legs before after : List (Leg σ)}

theorem Done.row {steps : List Step} {logs : List (List (Event σ))}
    (h : Done i ctx steps report s logs report' s') :
    ∃ legs : List (Leg σ), Row i ctx report s legs report' s' ∧ legs.map Leg.step = steps := by
  induction h with
  | nil report s => exact ⟨[], .nil report s, rfl⟩
  | @cons step steps report s next m log logs report' s' hstep hsettled _ ih =>
      obtain ⟨legs, hrow, hsteps⟩ := ih
      have hran : Leg.Ran i ctx ⟨step, report, s, .ok next, m, log⟩ := ⟨hstep, hsettled⟩
      have hcons := Row.cons hran rfl hrow
      exact ⟨_, hcons, congrArg (step :: ·) hsteps⟩

theorem Row.ran (h : Row i ctx report s legs report' s') : ∀ leg ∈ legs, leg.Ran i ctx := by
  induction h with
  | nil => simp
  | cons hran _ _ ih =>
      rw [List.forall_mem_cons]
      exact ⟨hran, ih⟩

theorem Row.adds (h : Row i ctx report s legs report' s') : Adds s s' (legs.flatMap Leg.log) := by
  induction h with
  | nil report s => exact .refl s
  | cons hran _ _ ih => exact hran.settled.1.trans ih

/-- **A leg begins where the legs before it have come to.** -/
theorem Row.split {leg : Leg σ} (h : Row i ctx report s (before ++ leg :: after) report' s') :
    Row i ctx report s before leg.report leg.start := by
  induction before generalizing report s with
  | nil =>
      cases h with
      | cons => exact .nil _ _
  | cons first before ih =>
      cases h with
      | cons hran hok hrest => exact .cons hran hok (ih hrest)

end Row

/-! ## Whole installs -/

/-- How an install goes from the scene in which it knows the steps that the driver declares: what it
returns, the scene that it leaves, its legs, and the log of what follows after them. -/
inductive Journey (i : Installer σ) (ctx : Context) (declared : List Step) (m : Scene (Watched σ)) :
    Except ClientError Report → Scene (Watched σ) → List (Leg σ) → List (Event σ) → Prop
  | noSteps : declared = [] →
      Journey i ctx declared m (.error (.install (.noSteps i.driver.name i.job.component))) m [] []
  | done {legs report s'} : declared ≠ [] → legs.map Leg.step = kept declared →
      Row i ctx { driver := i.driver.name } m legs report s' →
      Journey i ctx declared m (.ok report) s' legs []
  /-- The last leg failed. The install fails as it did. -/
  | failed {legs : List (Leg σ)} {failing : Leg σ} {rest e s' reset} :
      kept declared = legs.map Leg.step ++ failing.step :: rest →
      Row i ctx { driver := i.driver.name } m legs failing.report failing.start →
      failing.Ran i ctx → failing.result = .error e →
      ResetOnce i ctx declared failing.stop s' reset →
      Journey i ctx declared m (.error (.install e)) s' (legs ++ [failing]) reset

/-- How an install goes that has no end: after some legs it hangs in a step. -/
structure Stranded (i : Installer σ) (ctx : Context) (declared : List Step) (m : Scene (Watched σ))
    (legs : List (Leg σ)) (step : Step) (report : Report) (s : Scene (Watched σ)) : Prop where
  steps : ∃ rest, kept declared = legs.map Leg.step ++ step :: rest
  row : Row i ctx { driver := i.driver.name } m legs report s
  endless : Endless i ctx step report s

section Journey

variable {i : Installer σ} {ctx : Context} {declared : List Step} {s m s' : Scene (Watched σ)}
  {legs before after : List (Leg σ)} {reset : List (Event σ)} {result : Except ClientError Report}

theorem ResetOnce.adds (h : ResetOnce i ctx declared s s' reset) : Adds s s' reset := by
  unfold ResetOnce at h
  split at h
  · exact h.2.1
  · obtain ⟨rfl, rfl⟩ := h
    exact .refl _

theorem ResetOnce.deed_eq (h : ResetOnce i ctx declared s s' reset) :
    ∀ e ∈ Event.starts reset, e.deed = .call (.bmcReset .warm) := by
  unfold ResetOnce at h
  split at h
  · obtain ⟨-, -, ok, htried⟩ := h
    exact htried.deed_eq
  · obtain ⟨-, rfl⟩ := h
    simp

theorem Journey.deed_eq (h : Journey i ctx declared m result s' legs reset) :
    ∀ e ∈ Event.starts reset, e.deed = .call (.bmcReset .warm) := by
  cases h with
  | noSteps => simp
  | done => simp
  | failed _ _ _ _ hreset => exact hreset.deed_eq

/-- Nothing follows after the legs of an install that succeeds, or whose steps ask for no reset. -/
theorem Journey.nothing_after (h : Journey i ctx declared m result s' legs reset)
    (hno : Step.resetBmcOnFailure ∉ declared ∨ result.isOk = true) : reset = [] := by
  cases h with
  | noSteps => rfl
  | done => rfl
  | failed _ _ _ _ hreset =>
      rcases hno with hdeclared | hok
      · have hcontains : ¬ declared.contains .resetBmcOnFailure = true := by simpa using hdeclared
        unfold ResetOnce at hreset
        rw [if_neg fun hcond => hcontains hcond.1] at hreset
        exact hreset.2
      · cases hok

theorem Journey.ran (h : Journey i ctx declared m result s' legs reset) :
    ∀ leg ∈ legs, leg.Ran i ctx := by
  cases h with
  | noSteps => simp
  | done _ _ hrow => exact hrow.ran
  | failed _ hrow hran _ _ =>
      intro leg hleg
      rcases List.mem_append.mp hleg with hdone | hfailing
      · exact hrow.ran leg hdone
      · cases List.mem_singleton.mp hfailing
        exact hran

theorem Journey.adds (h : Journey i ctx declared m result s' legs reset) :
    Adds m s' (legs.flatMap Leg.log ++ reset) := by
  cases h with
  | noSteps => exact .refl m
  | done _ _ hrow =>
      rw [List.append_nil]
      exact hrow.adds
  | failed _ hrow hran _ hreset =>
      rw [List.flatMap_append, List.flatMap_singleton]
      exact (hrow.adds.trans hran.settled.1).trans hreset.adds

/-- **Each leg begins where the legs before it have come to**, the failing one too. -/
theorem Journey.split {leg : Leg σ}
    (h : Journey i ctx declared m result s' (before ++ leg :: after) reset) :
    Row i ctx { driver := i.driver.name } m before leg.report leg.start := by
  generalize hlegs : before ++ leg :: after = legs at h
  cases h with
  | noSteps => simp at hlegs
  | done _ _ hrow =>
      cases hlegs
      exact hrow.split
  | @failed legs failing _ _ _ _ _ hrow _ _ _ =>
      rcases List.eq_nil_or_concat after with rfl | ⟨after, last, rfl⟩
      · obtain ⟨rfl, hleg⟩ := List.append_inj' hlegs rfl
        cases hleg
        exact hrow
      · rw [List.concat_eq_append, ← List.cons_append, ← List.append_assoc] at hlegs
        obtain ⟨rfl, -⟩ := List.append_inj' hlegs rfl
        exact hrow.split

theorem runListed_journey {r : Except InstallError Report} (hne : declared ≠ [])
    (h : i.watched.runListed ctx declared m = some (r, s')) :
    ∃ legs reset, Journey i ctx declared m (r.mapError .install) s' legs reset := by
  obtain ⟨⟨r', after⟩, hrun, hpair⟩ := Option.map_eq_some_iff.mp h
  cases runKept_went hrun with
  | done hdone =>
      cases hpair
      obtain ⟨legs, hrow, hsteps⟩ := hdone.row
      exact ⟨legs, [], .done hne hsteps hrow⟩
  | @failed done step rest logs mid m' e _ log hsteps hdone hstep hsettled =>
      cases hpair
      obtain ⟨legs, hrow, rfl⟩ := hdone.row
      obtain ⟨reset, hreset⟩ := resetOnce_reset i ctx declared after
      exact ⟨legs ++ [⟨step, mid, m', .error e, after, log⟩], reset,
        .failed hsteps hrow ⟨hstep, hsettled⟩ rfl hreset⟩

/-- **An install whose steps are known** goes in legs. -/
theorem installer_journey (known : ctx.run (i.watched.driver.capabilities.handle
      (.firmwareInstallSteps i.job.component)) s = some (.ok (.ok declared), m)) :
    (∀ result s', i.watched.install ctx s = some (result, s') →
      ∃ legs reset, Journey i ctx declared m result s' legs reset) ∧
    (i.watched.install ctx s = none →
      ∃ legs step report s', Stranded i ctx declared m legs step report s') := by
  have hinstall := Installer.install_known (i := i.watched) known
  by_cases hne : declared = []
  · rw [hinstall, if_pos hne]
    refine ⟨fun result s' h => ?_, fun h => by cases h⟩
    cases h
    exact ⟨[], [], .noSteps hne⟩
  rw [hinstall, if_neg hne]
  refine ⟨fun result s' h => ?_, fun h => ?_⟩
  · obtain ⟨⟨r, after⟩, hlisted, hpair⟩ := Option.map_eq_some_iff.mp h
    cases hpair
    exact runListed_journey hne hlisted
  · have hrun := Option.map_eq_none_iff.mp (Option.map_eq_none_iff.mp h)
    cases runKept_went hrun with
    | endless hsteps hdone hnone =>
        obtain ⟨legs, hrow, rfl⟩ := hdone.row
        exact ⟨legs, _, _, _, ⟨_, hsteps⟩, hrow, step_endless hnone⟩

end Journey

/-- The driver `d`, asked for the steps of the job in a run, declares these. -/
def Declares (d : Driver σ) (ctx : Context) (job : Job) (run : Run (Watched σ))
    (declared : List Step) (m : Scene (Watched σ)) : Prop :=
  ctx.run (d.watched.capabilities.handle (.firmwareInstallSteps job.component)) run.toScene =
    some (.ok (.ok declared), m)

/-- **An install whose steps are known**, asked of a client. -/
theorem install_journey {client : Client σ} {ctx : Context} {job : Job} {run : Run (Watched σ)}
    {d : Driver σ} {declared : List Step} {m : Scene (Watched σ)} (hd : installing? client = some d)
    (known : ctx.run (d.watched.capabilities.handle (.firmwareInstallSteps job.component))
      run.toScene = some (.ok (.ok declared), m)) :
    (∀ result run', install client.watched ctx job run = some (result, run') →
      ∃ legs reset,
        Journey (installer client job d) ctx declared m result run'.toScene legs reset) ∧
    (install client.watched ctx job run = none → ∃ legs step report s,
      Stranded (installer client job d) ctx declared m legs step report s) := by
  have alive : ctx.error? run.now = none := Context.alive_of_run known
  obtain ⟨hsome, hnone⟩ := installer_journey (i := installer client job d) known
  rw [install_eq hd alive]
  refine ⟨fun result run' h => ?_, fun h => hnone (Option.map_eq_none_iff.mp h)⟩
  obtain ⟨⟨result', s'⟩, hinstall, hpair⟩ := Option.map_eq_some_iff.mp h
  have hjourney := hsome _ _ hinstall
  cases result' <;> cases hpair <;> exact hjourney

end OutOfBand.Client
