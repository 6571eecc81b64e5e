import OutOfBand.Proofs.Install.Legs

/-!
# Installs that do nothing

An install that succeeds reports the steps that it has done, which are those that the driver
declares without the one that only says what to do after a failure. So its report names a step just
if the driver declares one that can be done. That nothing is declared is an error, but if all that
is declared is what to do after a failure, the install succeeds without a step
(`install_executed`).
-/

namespace OutOfBand.Client

open Firmware

theorem kept_eq_nil_iff {declared : List Step} :
    kept declared = [] ↔ ∀ step ∈ declared, step = .resetBmcOnFailure := by
  simp [kept, List.filter_eq_nil_iff]

/-- Without steps to be done, nothing is done. -/
theorem runListed_of_kept_nil {i : Installer σ} {ctx : Context} {declared : List Step} {s : Scene σ}
    (h : kept declared = []) :
    i.runListed ctx declared s = some (.ok { driver := i.driver.name }, s) := by
  unfold Installer.runListed
  rw [show declared.filter (· != .resetBmcOnFailure) = [] from h]
  rfl

/-- **What a successful install has done.** Its report has the steps that the driver declares but for
those that say what to do after a failure, and it has none just if there are no others. No steps at
all are an error; if there are only such steps the install succeeds, although the driver is asked
for nothing more. -/
theorem install_executed (client : Client σ) (ctx : Context) (job : Job) (run : Run (Watched σ)) :
    (install client.watched ctx job run).map (fun (result, run) => (result, run.plain)) =
      install client ctx job run.plain ∧
    (∀ report run', install client.watched ctx job run = some (.ok report, run') →
      ∃ d declared m, installing? client = some d ∧ Declares d ctx job run declared m ∧
        declared ≠ [] ∧ report.steps = kept declared ∧
        (report.steps = [] ↔ ∀ step ∈ declared, step = .resetBmcOnFailure)) ∧
    ∀ d declared m, installing? client = some d → Declares d ctx job run declared m →
      kept declared = [] → install client.watched ctx job run =
        if declared = [] then
          some (.error (.install (.noSteps d.name job.component)),
            ⟨m, (({} : Metadata).attempt d.name).failure d.name
              (InstallError.noSteps d.name job.component).message⟩)
        else some (.ok { driver := d.name }, ⟨m, (({} : Metadata).attempt d.name).success d.name⟩) := by
  obtain ⟨hplain, hidle, haccount⟩ := install_account client ctx job run
  refine ⟨hplain, fun report run' h => ?_, fun d declared m hd known hnone => ?_⟩
  · cases hd : installing? client with
    | none =>
        obtain ⟨e, he⟩ := hidle (.inl hd)
        cases h.symm.trans he
    | some d =>
        cases halive : ctx.error? run.now with
        | some cause =>
            obtain ⟨e, he⟩ := hidle (.inr (by simp [halive]))
            cases h.symm.trans he
        | none =>
            obtain ⟨log, hlog⟩ := (haccount d hd halive).1 _ _ h
            cases hlog.course with
            | @done declared m listing logs _ _ hdeclared hne hdone =>
                obtain ⟨-, -, hsteps, -⟩ := hdone.account
                have hkept : report.steps = kept declared := hsteps
                exact ⟨d, declared, m, rfl, hdeclared.run, hne, hkept, by rw [hkept, kept_eq_nil_iff]⟩
  · have alive : ctx.error? run.now = none := Context.alive_of_run known
    rw [install_eq hd alive, Installer.install_known (i := (installer client job d).watched) known,
      runListed_of_kept_nil hnone]
    split <;> rfl

/-- An upload is done, and what to do if it fails is not. -/
theorem install_executed_of_upload :
    let job : Job := { component := "bios", image := [] }
    let m : Mock := { name := "a", steps := [.upload, .resetBmcOnFailure] }
    ∃ report run' d declared s,
      install (mockClient m).watched .background job fresh = some (.ok report, run') ∧
      installing? (mockClient m) = some d ∧ Declares d .background job fresh declared s ∧
      report.steps = kept declared ∧ report.steps = [.upload] := by
  intro job m
  have hsteps : (install (mockClient m).watched .background job fresh).map
      (fun p => p.1.toOption.map Report.steps) = some (some [.upload]) := by decide +kernel
  obtain ⟨⟨result, run'⟩, hinstall, hresult⟩ := Option.map_eq_some_iff.mp hsteps
  cases result with
  | error e => cases hresult
  | ok report =>
      obtain ⟨d, declared, s, hd, hdeclares, -, hkept, -⟩ :=
        (install_executed (mockClient m) .background job fresh).2.1 report run' hinstall
      exact ⟨report, run', d, declared, s, hinstall, hd, hdeclares, hkept, Option.some.inj hresult⟩

/-- **An install succeeds that has done nothing**: the driver is asked for the steps only, and the
report names none. Had it declared none, the install would have failed. -/
theorem install_succeeds_without_steps :
    let job : Job := { component := "bios", image := [] }
    let vain : Mock := { name := "a", steps := [.resetBmcOnFailure] }
    (install (mockClient vain).watched .background job fresh).map (fun p =>
      (p.1.toOption, p.2.record.successful, (Event.starts p.2.toScene.log).map Entry.deed)) =
        some (some { driver := "a", steps := [] }, some "a",
          [.call (.firmwareInstallSteps "bios")]) ∧
    (install (mockClient { name := "a" }).watched .background job fresh).map heard =
      some (some (.noSteps "a" "bios"), [.call (.firmwareInstallSteps "bios")]) := by
  intro job vain
  exact ⟨by decide +kernel, by decide +kernel⟩

end OutOfBand.Client
