import OutOfBand.Proofs.Install.Rounds

/-!
# How an install goes

All that can come of a step that orders something of its driver (`OrderWent`) or waits for a task
(`WaitWent`), and of a whole install by a driver (`InstallWent`). A driver that cannot do what a step
asks for makes it fail at once; an install does the steps that the driver lists, if there are any.
-/

namespace OutOfBand.Client.Installer

open Firmware

/-! ## Steps -/

/-- What comes of a call that a step makes. -/
inductive OrderWent (i : Installer σ) (ctx : Context) (step : Step) (report : Report) (c : Call)
    (s : Scene σ) : Except InstallError c.Answer → Scene σ → Prop
  | missing : i.driver.backs c.feature = false →
      OrderWent i ctx step report c s (.error (.missingCapability i.driver.name step c.feature)) s
  | performed {r m} : perform ctx step report (i.driver.capabilities.handle c) s = some (r, m) →
      OrderWent i ctx step report c s r m

/-- What comes of a wait for a task. -/
inductive WaitWent (i : Installer σ) (ctx : Context) (step : Step) (kind : TaskKind)
    (task : String) (report : Report) (s : Scene σ) :
    Except InstallError Report → Scene σ → Prop
  | missing : i.driver.backs .firmwareTaskStatus = false →
      WaitWent i ctx step kind task report s
        (.error (.missingCapability i.driver.name step .firmwareTaskStatus)) s
  | waited {question n y result m} : i.driver.backs .firmwareTaskStatus = true →
      question = i.driver.capabilities.handle
        (.firmwareTaskStatus kind i.job.component task i.job.version) →
      Rounds i ctx step question n ⟨false, report, s⟩ y →
      LastRound i ctx step question y result m →
      WaitWent i ctx step kind task report s result m

section Step

variable {i : Installer σ} {ctx : Context} {step : Step} {report : Report} {s s' : Scene σ}

/-- All that can come of a step that orders something of its driver. -/
theorem order_went {c : Call} {note : c.Answer → Report} {result : Except InstallError Report}
    (h : (i.require ctx step report c s).map (fun (r, s) => (r.map note, s)) =
      some (result, s')) : ∃ r, OrderWent i ctx step report c s r s' ∧ result = r.map note := by
  obtain ⟨⟨r, m⟩, hr, hpair⟩ := Option.map_eq_some_iff.mp h
  cases hpair
  refine ⟨r, ?_, rfl⟩
  unfold require at hr
  split at hr
  · exact .performed hr
  · rename_i hmissing
    cases hr
    exact .missing (Bool.eq_false_iff.mpr hmissing)

/-- All that can come of a step that waits for a task. -/
theorem awaitTask_went {kind : TaskKind} {task : String} {result : Except InstallError Report}
    (h : i.awaitTask ctx step kind task report s = some (result, s')) :
    WaitWent i ctx step kind task report s result s' := by
  unfold awaitTask at h
  simp only at h
  split at h
  · rename_i hbacks
    obtain ⟨n, y, hrounds, hlast⟩ := (await_eq_some_iff (x := ⟨false, report, s⟩)).mp h
    exact .waited hbacks rfl hrounds hlast
  · rename_i hmissing
    cases h
    exact .missing (Bool.eq_false_iff.mpr hmissing)

end Step

/-! ## Whole installs -/

/-- Asks the driver for the steps. -/
abbrev listing (i : Installer σ) : Operation σ (Except Fault (List Step)) :=
  i.driver.capabilities.handle (.firmwareInstallSteps i.job.component)

/-- What comes of an install by a driver. -/
inductive InstallWent (i : Installer σ) (ctx : Context) (s : Scene σ) :
    Except ClientError Report → Scene σ → Prop
  | interrupted {cause m} : ctx.run i.listing s = some (.error cause, m) →
      InstallWent i ctx s (.error (.call (.context cause []))) m
  | unlisted {f m} : ctx.run i.listing s = some (.ok (.error f), m) →
      InstallWent i ctx s (.error (.install (.steps i.driver.name i.job.component f))) m
  | noSteps {m} : ctx.run i.listing s = some (.ok (.ok []), m) →
      InstallWent i ctx s (.error (.install (.noSteps i.driver.name i.job.component))) m
  | listed {declared m r s'} : ctx.run i.listing s = some (.ok (.ok declared), m) →
      declared ≠ [] → i.runListed ctx declared m = some (r, s') →
      InstallWent i ctx s (r.mapError .install) s'

section Install

variable {i : Installer σ} {ctx : Context} {s m s' : Scene σ} {declared : List Step}

/-- An install whose steps are known does them, if there are any. -/
theorem install_known (known : ctx.run i.listing s = some (.ok (.ok declared), m)) :
    i.install ctx s =
      if declared = [] then
        some (.error (.install (.noSteps i.driver.name i.job.component)), m)
      else (i.runListed ctx declared m).map fun p => (p.1.mapError .install, p.2) := by
  unfold install
  simp only
  rw [known]
  cases declared <;> rfl

/-- **All that can come of an install**, if it has an end. -/
theorem install_went {result : Except ClientError Report}
    (h : i.install ctx s = some (result, s')) : InstallWent i ctx s result s' := by
  cases hlisting : ctx.run i.listing s with
  | none => simp [install, hlisting] at h
  | some p =>
      obtain ⟨cause | ⟨f | declared⟩, m⟩ := p
      · simp only [install, hlisting] at h
        cases h
        exact .interrupted hlisting
      · simp only [install, hlisting] at h
        cases h
        exact .unlisted hlisting
      · rw [install_known hlisting] at h
        split at h
        · next hnone =>
            subst hnone
            cases h
            exact .noSteps hlisting
        · next hsome =>
            obtain ⟨⟨r, after⟩, hrun, hpair⟩ := Option.map_eq_some_iff.mp h
            cases hpair
            exact .listed hlisting hsome hrun

/-- An install that has no end hangs when it asks for the steps, or in the steps. -/
theorem install_eq_none (h : i.install ctx s = none) : ctx.run i.listing s = none ∨
    ∃ declared m, ctx.run i.listing s = some (.ok (.ok declared), m) ∧
      i.runListed ctx declared m = none := by
  cases hlisting : ctx.run i.listing s with
  | none => exact .inl rfl
  | some p =>
      obtain ⟨cause | ⟨f | declared⟩, m⟩ := p
      · simp [install, hlisting] at h
      · simp [install, hlisting] at h
      · rw [install_known hlisting] at h
        split at h
        · cases h
        · exact .inr ⟨declared, m, rfl, Option.map_eq_none_iff.mp h⟩

end Install

end OutOfBand.Client.Installer
