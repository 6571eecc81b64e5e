import OutOfBand.Proofs.Install.Legs

/-!
# Where task identifiers go

Steps that start a task take down its identifier, and later steps ask for that task or install what
it uploaded. A report has room for two identifiers only; what it says at any point of an install is
what the legs so far make of it (`Row.follows`): the identifier of the latest upload, and that of
the latest install. From that follows which task each call of an install is about
(`install_routing`).
-/

namespace OutOfBand

/-- The task that a call is about, if it is about one. -/
def Call.task? : Call → Option String
  | firmwareTaskStatus _ _ task _ | firmwareInstallUploaded _ task
  | firmwareInstallStatus _ _ task => some task
  | _ => none

def Deed.task? : Deed → Option String
  | call c => c.task?
  | _ => none

namespace Firmware

/-- Whether the text can be taken for the identifier of a task. -/
def TaskId.Named (task : String) : Prop := (Text.trim task).isEmpty = false

theorem TaskId.named_none : TaskId.Named TaskId.none := by
  show (Text.trim "NO_TASK_ID").isEmpty = false
  decide +kernel

theorem TaskId.named_normalize (id : String) : TaskId.Named (TaskId.normalize id) := by
  unfold TaskId.normalize
  split
  · exact TaskId.named_none
  · rename_i hblank
    exact Bool.eq_false_iff.mpr hblank

/-- Whether a step starts an upload. -/
def Step.uploads : Step → Bool
  | upload => true
  | _ => false

/-- Whether a step starts an install. -/
def Step.installs : Step → Bool
  | install | uploadAndInitiateInstall | installFromUploaded => true
  | _ => false

theorem Step.installs_of_uploads {step : Step} (h : step.uploads = true) :
    step.installs = false := by
  cases step <;> first | rfl | cases h

end Firmware

namespace Client

open Firmware

/-- What the driver answers to a call that is made under the context in the scene `s`. -/
def Installer.answer? (i : Installer σ) (ctx : Context) (s : Scene (Watched σ)) (c : Call) :
    Option c.Answer :=
  match ctx.run (i.watched.driver.capabilities.handle c) s with
  | some (.ok (.ok answer), _) => some answer
  | _ => none

/-- The identifier that the driver answered for the task that the step started. -/
def Leg.answered? (i : Installer σ) (ctx : Context) (leg : Leg σ) : Option String :=
  match leg.step with
  | .upload => i.answer? ctx leg.start (.firmwareUpload i.job.component i.job.image)
  | .uploadAndInitiateInstall =>
    i.answer? ctx leg.start (.firmwareUploadAndInitiate i.job.component i.job.image)
  | .install =>
    i.answer? ctx leg.start
      (.firmwareInstall i.job.component i.job.applyTime i.job.force i.job.image)
  | .installFromUploaded =>
    i.answer? ctx leg.start (.firmwareInstallUploaded i.job.component leg.report.awaitedUpload)
  | _ => none

/-- The identifiers that the driver answered for tasks of one kind, in order. -/
def identifiers (i : Installer σ) (ctx : Context) (kind : Step → Bool) (legs : List (Leg σ)) :
    List String :=
  (legs.filter fun leg => kind leg.step).filterMap (Leg.answered? i ctx)

/-- The latest task of one kind. -/
def latest (i : Installer σ) (ctx : Context) (kind : Step → Bool) (legs : List (Leg σ)) :
    Option String :=
  (identifiers i ctx kind legs).getLast?.map TaskId.normalize

/-- The call about a task that a step makes after these legs, if it makes one. -/
def Installer.callAfter? (i : Installer σ) (ctx : Context) (legs : List (Leg σ)) :
    Step → Option Call
  | .uploadStatus =>
    some (.firmwareTaskStatus .upload i.job.component
      ((latest i ctx Step.uploads legs).getD TaskId.none) i.job.version)
  | .installStatus =>
    some (.firmwareTaskStatus .install i.job.component
      (((latest i ctx Step.installs legs).or (latest i ctx Step.uploads legs)).getD TaskId.none)
      i.job.version)
  | .installFromUploaded =>
    some (.firmwareInstallUploaded i.job.component
      ((latest i ctx Step.uploads legs).getD TaskId.none))
  | _ => none

/-- All that a log of the step has to do with tasks is that one call, and its task is named. -/
def Routed (i : Installer σ) (ctx : Context) (legs : List (Leg σ)) (step : Step)
    (log : List (Event σ)) : Prop :=
  ∀ e ∈ Event.starts log, ∀ task, e.deed.task? = some task →
    TaskId.Named task ∧ ∃ c, i.callAfter? ctx legs step = some c ∧ e.deed = .call c

/-- The tasks of the report `report'` are the latest of these legs, or else those of `report`. -/
structure Follows (i : Installer σ) (ctx : Context) (legs : List (Leg σ)) (report report' : Report) :
    Prop where
  upload : report'.uploadTask = (latest i ctx Step.uploads legs).or report.uploadTask
  install : report'.installTask = (latest i ctx Step.installs legs).or report.installTask

section Latest

variable {i : Installer σ} {ctx : Context} {kind : Step → Bool} {legs more : List (Leg σ)}
  {leg : Leg σ}

theorem latest_append :
    latest i ctx kind (legs ++ more) = (latest i ctx kind more).or (latest i ctx kind legs) := by
  unfold latest identifiers
  rw [List.filter_append, List.filterMap_append, List.getLast?_append, Option.map_or]

theorem latest_of_answered {id : String} (hkind : kind leg.step = true)
    (hid : leg.answered? i ctx = some id) :
    latest i ctx kind [leg] = some (TaskId.normalize id) := by
  simp [latest, identifiers, hkind, hid]

theorem latest_of_other (hkind : kind leg.step = false) : latest i ctx kind [leg] = none := by
  simp [latest, identifiers, hkind]

theorem named_of_latest {task : String} (h : latest i ctx kind legs = some task) :
    TaskId.Named task := by
  obtain ⟨id, -, rfl⟩ := Option.map_eq_some_iff.mp h
  exact TaskId.named_normalize id

theorem named_getD {task : Option String} (h : ∀ t, task = some t → TaskId.Named t) :
    TaskId.Named (task.getD TaskId.none) := by
  cases task with
  | none => exact TaskId.named_none
  | some t => exact h t rfl

theorem Follows.refl (report : Report) : Follows i ctx [] report report := ⟨rfl, rfl⟩

theorem Follows.trans {report mid report' : Report} (h : Follows i ctx legs report mid)
    (h' : Follows i ctx more mid report') : Follows i ctx (legs ++ more) report report' where
  upload := by rw [h'.upload, h.upload, latest_append, Option.or_assoc]
  install := by rw [h'.install, h.install, latest_append, Option.or_assoc]

end Latest

/-! ## Waits leave tasks alone -/

/-- The report `report'` has the tasks of the report `report`. -/
structure Report.SameTasks (report report' : Report) : Prop where
  upload : report'.uploadTask = report.uploadTask
  install : report'.installTask = report.installTask

/-- What comes of a part of a wait has the tasks of the report. -/
def Installer.Turn.KeepsTasks (report : Report) : Installer.Turn → Prop
  | .finish result => ∀ report', result = .ok report' → report.SameTasks report'
  | .again report' _ _ => report.SameTasks report'

theorem Report.SameTasks.trans {report mid report' : Report} (h : report.SameTasks mid)
    (h' : mid.SameTasks report') : report.SameTasks report' where
  upload := h'.upload.trans h.upload
  install := h'.install.trans h.install

theorem Installer.Turn.KeepsTasks.after {report mid : Report} {turn : Installer.Turn}
    (h : report.SameTasks mid) (h' : turn.KeepsTasks mid) : turn.KeepsTasks report := by
  cases turn with
  | finish result => exact fun report' hresult => h.trans (h' report' hresult)
  | again report' _ _ => exact h.trans h'

section Wait

variable {i : Installer σ} {ctx : Context} {step : Step} {report : Report}
  {question : Operation σ (Except Fault Status)} {s s' : Scene σ} {turn : Installer.Turn}

theorem reopen_keepsTasks {expired : Fault}
    (h : ReopenWent i ctx step report expired s turn s') : turn.KeepsTasks report := by
  cases h with
  | opened | unreachable => exact ⟨rfl, rfl⟩
  | disconnected | refused | interrupted => rintro _ ⟨⟩

theorem obey_keepsTasks {status : Status} (h : ObeyWent i ctx step report status s turn s') :
    turn.KeepsTasks report := by
  have hnoted : report.SameTasks { report with last := some status } := ⟨rfl, rfl⟩
  cases h with
  | complete =>
      rintro _ ⟨⟩
      exact hnoted
  | failed => rintro _ ⟨⟩
  | @controlled c r m _ _ =>
      intro report' hr
      cases r with
      | ok =>
          cases hr
          exact hnoted
      | error e => cases hr
  | pending => exact hnoted

theorem poll_keepsTasks {reopened : Bool}
    (h : i.poll ctx step question reopened report s = some (turn, s')) : turn.KeepsTasks report := by
  have hcounted : report.SameTasks { report with polls := report.polls + 1 } := ⟨rfl, rfl⟩
  cases poll_went h with
  | interrupted | refused => rintro _ ⟨⟩
  | unreachable => exact hcounted
  | answered _ hobey => exact .after hcounted (obey_keepsTasks hobey)
  | expired _ _ _ hreopen => exact .after hcounted (reopen_keepsTasks hreopen)

theorem rounds_keepsTasks {n : Nat} {x y : Installer.Stage σ}
    (h : i.Rounds ctx step question n x y) : x.report.SameTasks y.report := by
  induction h with
  | refl => exact ⟨rfl, rfl⟩
  | next hpoll _ _ ih =>
      have hkeeps := poll_keepsTasks hpoll
      exact hkeeps.trans ih

theorem awaitTask_keepsTasks {kind : TaskKind} {task : String} {report' : Report}
    (h : i.awaitTask ctx step kind task report s = some (.ok report', s')) :
    report.SameTasks report' := by
  cases Installer.awaitTask_went h with
  | @waited _ _ y _ _ _ _ hrounds hlast =>
      have hbefore : report.SameTasks y.report := rounds_keepsTasks hrounds
      cases hlast with
      | decided hpoll => exact hbefore.trans (poll_keepsTasks hpoll report' rfl)

end Wait

/-! ## Steps take down the tasks that they start -/

section Leg

variable {i : Installer σ} {ctx : Context} {leg : Leg σ} {next : Report}

/-- An order that succeeded was answered. -/
theorem require_answered (c : Call) {step : Step} {report : Report} {note : c.Answer → Report}
    {s s' : Scene (Watched σ)}
    (h : (i.watched.require ctx step report c s).map (fun (r, s) => (r.map note, s)) =
      some (.ok next, s')) :
    ∃ answer, i.answer? ctx s c = some answer ∧ next = note answer := by
  obtain ⟨r, hwent, hnext⟩ := Installer.order_went h
  cases hwent with
  | missing => cases hnext
  | performed hr =>
      obtain ⟨⟨r', m⟩, hrun, hperform⟩ := Option.map_eq_some_iff.mp hr
      rcases r' with cause | ⟨f | answer⟩ <;> cases hperform <;> cases hnext
      refine ⟨answer, ?_, rfl⟩
      unfold Installer.answer?
      rw [hrun]

theorem Follows.of_upload {report : Report} {id : String} (hupload : leg.step.uploads = true)
    (hinstall : leg.step.installs = false) (hid : leg.answered? i ctx = some id) :
    Follows i ctx [leg] report { report with uploadTask := some (TaskId.normalize id) } where
  upload := by rw [latest_of_answered hupload hid, Option.some_or]
  install := by rw [latest_of_other hinstall, Option.none_or]

theorem Follows.of_install {report : Report} {id : String} (hupload : leg.step.uploads = false)
    (hinstall : leg.step.installs = true) (hid : leg.answered? i ctx = some id) :
    Follows i ctx [leg] report { report with installTask := some (TaskId.normalize id) } where
  upload := by rw [latest_of_other hupload, Option.none_or]
  install := by rw [latest_of_answered hinstall hid, Option.some_or]

theorem Follows.of_sameTasks {report : Report} (hupload : leg.step.uploads = false)
    (hinstall : leg.step.installs = false) (h : report.SameTasks next) :
    Follows i ctx [leg] report next where
  upload := by rw [latest_of_other hupload, Option.none_or, h.upload]
  install := by rw [latest_of_other hinstall, Option.none_or, h.install]

theorem control_keepsTasks {c : Call} {step : Step} {report : Report} {s s' : Scene (Watched σ)}
    (h : some ((i.watched.control ctx step report c s).1.map fun () => report,
      (i.watched.control ctx step report c s).2) = some (.ok next, s')) : report.SameTasks next := by
  generalize i.watched.control ctx step report c s = p at h
  obtain ⟨e | ⟨⟩, m⟩ := p
  · cases h
  · cases h
    exact ⟨rfl, rfl⟩

/-- The report of the leg, with the task taken down that the step has started. -/
def Leg.noted (leg : Leg σ) (id : String) : Report :=
  if leg.step.uploads then { leg.report with uploadTask := some (TaskId.normalize id) }
  else { leg.report with installTask := some (TaskId.normalize id) }

/-- A step that starts a task and succeeds takes it down as the driver names it. -/
theorem Leg.Ran.noted (h : leg.Ran i ctx) (hok : leg.result = .ok next)
    (hstarts : (leg.step.uploads || leg.step.installs) = true) :
    ∃ id, leg.answered? i ctx = some id ∧ next = leg.noted id := by
  obtain ⟨step, report, s, result, s', log⟩ := leg
  obtain ⟨hran, -⟩ := h
  simp only at hran hok hstarts
  subst hok
  cases step with
  | upload => exact require_answered (.firmwareUpload _ _) hran
  | uploadAndInitiateInstall => exact require_answered (.firmwareUploadAndInitiate _ _) hran
  | install => exact require_answered (.firmwareInstall _ _ _ _) hran
  | installFromUploaded => exact require_answered (.firmwareInstallUploaded _ _) hran
  | uploadStatus | installStatus | powerOffHost | resetBmcPostInstall | resetBmcOnFailure =>
      cases hstarts

theorem Leg.Ran.sameTasks (h : leg.Ran i ctx) (hok : leg.result = .ok next)
    (hstarts : (leg.step.uploads || leg.step.installs) = false) : leg.report.SameTasks next := by
  obtain ⟨step, report, s, result, s', log⟩ := leg
  obtain ⟨hran, -⟩ := h
  simp only at hran hok hstarts
  subst hok
  cases step with
  | upload | uploadAndInitiateInstall | install | installFromUploaded => cases hstarts
  | uploadStatus => exact awaitTask_keepsTasks hran
  | installStatus => exact awaitTask_keepsTasks hran
  | powerOffHost => exact control_keepsTasks hran
  | resetBmcPostInstall => exact control_keepsTasks hran
  | resetBmcOnFailure =>
      cases hran
      exact ⟨rfl, rfl⟩

/-- **What a step makes of the tasks of the report**: it takes down the one that it starts, and
leaves the others. -/
theorem Leg.Ran.follows (h : leg.Ran i ctx) (hok : leg.result = .ok next) :
    Follows i ctx [leg] leg.report next := by
  cases hupload : leg.step.uploads with
  | true =>
      obtain ⟨id, hid, rfl⟩ := h.noted hok (by rw [hupload, Bool.true_or])
      have hinstall : leg.step.installs = false := Step.installs_of_uploads hupload
      rw [Leg.noted, if_pos hupload]
      exact .of_upload hupload hinstall hid
  | false =>
      cases hinstall : leg.step.installs with
      | true =>
          obtain ⟨id, hid, rfl⟩ := h.noted hok (by rw [hinstall, Bool.or_true])
          rw [Leg.noted, if_neg (Bool.eq_false_iff.mp hupload)]
          exact .of_install hupload hinstall hid
      | false =>
          have hsame := h.sameTasks hok (by rw [hupload, hinstall, Bool.or_false])
          exact .of_sameTasks hupload hinstall hsame

end Leg

/-! ## Calls are about the latest tasks -/

section Row

variable {i : Installer σ} {ctx : Context} {report report' : Report} {s s' : Scene (Watched σ)}
  {legs : List (Leg σ)} {step : Step} {c : Call} {task : String}

/-- **The tasks of a report are the latest of the legs.** -/
theorem Row.follows (h : Row i ctx report s legs report' s') : Follows i ctx legs report report' := by
  induction h with
  | nil report => exact .refl report
  | @cons leg next legs report' s' hran hok _ ih =>
      have hleg : Follows i ctx [leg] leg.report next := hran.follows hok
      -- That the step is done is taken down beside the tasks.
      have hlater : Follows i ctx legs next report' := ⟨ih.upload, ih.install⟩
      exact hleg.trans hlater

/-- A call about a task is about the latest, if the report of its step has the latest tasks. -/
theorem Follows.call?_eq {d : String} (h : Follows i ctx legs { driver := d } report)
    (hcall : i.call? report step = some c) (htask : c.task? = some task) :
    TaskId.Named task ∧ i.callAfter? ctx legs step = some c := by
  have hupload : report.uploadTask = latest i ctx Step.uploads legs := by
    rw [h.upload, Option.or_none]
  have hinstall : report.installTask = latest i ctx Step.installs legs := by
    rw [h.install, Option.or_none]
  have hnamed : TaskId.Named report.awaitedUpload := by
    unfold Report.awaitedUpload
    rw [hupload]
    exact named_getD fun t ht => named_of_latest ht
  have hnamed' : TaskId.Named report.awaitedInstall := by
    unfold Report.awaitedInstall
    rw [hupload, hinstall]
    refine named_getD fun t ht => ?_
    rcases Option.or_eq_some_iff.mp ht with hlatest | ⟨-, hlatest⟩ <;> exact named_of_latest hlatest
  unfold Installer.callAfter?
  rw [← hupload, ← hinstall]
  cases step with
  | uploadStatus | installFromUploaded =>
      cases hcall
      cases htask
      exact ⟨hnamed, rfl⟩
  | installStatus =>
      cases hcall
      cases htask
      exact ⟨hnamed', rfl⟩
  | upload | install | uploadAndInitiateInstall =>
      cases hcall
      cases htask
  | powerOffHost | resetBmcPostInstall | resetBmcOnFailure => cases hcall

theorem Deed.task?_eq_none_of_isControl {deed : Deed} (h : deed.isControl = true) :
    deed.task? = none := by
  unfold Deed.isControl at h
  split at h <;> first | rfl | cases h

/-- **A leg is about the latest tasks of the legs before it.** -/
theorem Leg.Ran.routed {leg : Leg σ} (h : leg.Ran i ctx)
    (hrow : Row i ctx { driver := i.driver.name } s legs leg.report leg.start) :
    Routed i ctx legs leg.step leg.log := by
  intro e he task htask
  rcases h.settled.2.1.deed_eq e he with ⟨c, hcall, hdeed⟩ | hdeed | hdeed
  · rw [hdeed] at htask
    obtain ⟨hnamed, hafter⟩ := hrow.follows.call?_eq hcall htask
    exact ⟨hnamed, c, hafter, hdeed⟩
  · rw [hdeed] at htask
    cases htask
  · rw [Deed.task?_eq_none_of_isControl hdeed] at htask
    cases htask

end Row

/-! ## Whole installs -/

/-- Each leg is about the latest tasks of the legs before it, and each task that was started has the
driver's name for it. -/
structure Tracked (i : Installer σ) (ctx : Context) (legs : List (Leg σ)) : Prop where
  routed : ∀ before leg after, legs = before ++ leg :: after → Routed i ctx before leg.step leg.log
  answered : ∀ leg ∈ legs, ∀ next, leg.result = .ok next →
    (leg.step.uploads || leg.step.installs) = true → ∃ id, leg.answered? i ctx = some id

section Whole

variable {i : Installer σ} {ctx : Context} {declared : List Step} {s m s' : Scene (Watched σ)}
  {legs : List (Leg σ)} {reset : List (Event σ)} {result : Except ClientError Report}

theorem Tracked.of_row (hran : ∀ leg ∈ legs, leg.Ran i ctx)
    (hrow : ∀ before leg after, legs = before ++ leg :: after →
      Row i ctx { driver := i.driver.name } m before leg.report leg.start) :
    Tracked i ctx legs where
  routed before leg after hlegs := by
    have hleg : leg ∈ legs := by
      rw [hlegs]
      exact List.mem_append_right _ List.mem_cons_self
    exact (hran leg hleg).routed (hrow before leg after hlegs)
  answered leg hleg next hok hstarts := by
    obtain ⟨id, hid, -⟩ := (hran leg hleg).noted hok hstarts
    exact ⟨id, hid⟩

theorem Journey.tracked (h : Journey i ctx declared m result s' legs reset) :
    Tracked i ctx legs := by
  refine .of_row (m := m) h.ran fun before leg after hlegs => ?_
  rw [hlegs] at h
  exact h.split

theorem Stranded.tracked {step : Step} {report : Report}
    (h : Stranded i ctx declared m legs step report s) : Tracked i ctx legs := by
  refine .of_row (m := m) h.row.ran fun before leg after hlegs => ?_
  have hrow := h.row
  rw [hlegs] at hrow
  exact hrow.split

theorem Journey.report_tasks {report : Report}
    (h : Journey i ctx declared m (.ok report) s' legs reset) :
    report.uploadTask = latest i ctx Step.uploads legs ∧
      report.installTask = latest i ctx Step.installs legs := by
  cases h with
  | done _ _ hrow =>
      obtain ⟨hupload, hinstall⟩ := hrow.follows
      rw [hupload, hinstall, Option.or_none, Option.or_none]
      exact ⟨rfl, rfl⟩

end Whole

/-- **Each call about a task is about the latest one**: whichever steps the driver declares and
whatever it answers, a wait for an upload and an install of what was uploaded are about the latest
upload before them, and a wait for an install is about the latest install, or else the latest
upload. All calls of a step are about one task, and none is about a blank one. An install that
succeeds reports the latest tasks, and one that never ends keeps to the same. -/
theorem install_routing (client : Client σ) (ctx : Context) (job : Job) (run : Run (Watched σ))
    (d : Driver σ) (declared : List Step) (m : Scene (Watched σ)) (hd : installing? client = some d)
    (known : ctx.run (d.watched.capabilities.handle (.firmwareInstallSteps job.component))
      run.toScene = some (.ok (.ok declared), m)) :
    let i := installer client job d
    (install client.watched ctx job run).map (fun (result, run) => (result, run.plain)) =
      install client ctx job run.plain ∧
    (∃ listing, Adds run.toScene m listing ∧
      ∀ e ∈ Event.starts listing, e.deed = .call (.firmwareInstallSteps job.component)) ∧
    (∀ result run', install client.watched ctx job run = some (result, run') →
      ∃ legs reset, Journey i ctx declared m result run'.toScene legs reset ∧
        Adds m run'.toScene (legs.flatMap Leg.log ++ reset) ∧ Tracked i ctx legs ∧
        (∀ e ∈ Event.starts reset, e.deed = .call (.bmcReset .warm)) ∧
        ∀ report, result = .ok report → report.uploadTask = latest i ctx Step.uploads legs ∧
          report.installTask = latest i ctx Step.installs legs) ∧
    (install client.watched ctx job run = none → ∃ legs step report s,
      Stranded i ctx declared m legs step report s ∧ Tracked i ctx legs ∧
      ∀ c task, i.call? report step = some c → c.task? = some task →
        TaskId.Named task ∧ i.callAfter? ctx legs step = some c) := by
  intro i
  obtain ⟨hends, hendless⟩ := install_journey hd known
  refine ⟨install_plain client ctx job run, ?_, fun result run' h => ?_, fun h => ?_⟩
  · obtain ⟨listing, hadds, hasked⟩ := run_asked known
    exact ⟨listing, hadds, hasked.deed_eq⟩
  · obtain ⟨legs, reset, hjourney⟩ := hends result run' h
    refine ⟨legs, reset, hjourney, hjourney.adds, hjourney.tracked, hjourney.deed_eq, ?_⟩
    rintro report rfl
    exact hjourney.report_tasks
  · obtain ⟨legs, step, report, s, hstranded⟩ := hendless h
    have hfollows : Follows i ctx legs { driver := i.driver.name } report := hstranded.row.follows
    exact ⟨legs, step, report, s, hstranded, hstranded.tracked,
      fun c task hcall htask => hfollows.call?_eq hcall htask⟩

/-- A driver that names its uploads and not its installs. Nothing is uploaded yet when it is first
asked for that; then the wait for an install is about the upload, until an install is started. -/
theorem install_routing_without_install_name :
    let job : Job := { component := "bios", image := [] }
    let m : Mock :=
      { name := "a", uploadTask := "up-7", installTask := "  ",
        steps := [.uploadStatus, .upload, .uploadStatus, .installStatus, .installFromUploaded,
          .installStatus] }
    let i := installer (mockClient m) job (mockDriver m)
    installing? (mockClient m) = some (mockDriver m) ∧
    ∃ s report run' legs,
      Context.background.run ((mockDriver m).watched.capabilities.handle
        (.firmwareInstallSteps "bios")) fresh.toScene = some (.ok (.ok m.steps), s) ∧
      install (mockClient m).watched .background job fresh = some (.ok report, run') ∧
      (Event.starts run'.toScene.log).filterMap (fun e => e.deed.task?) =
        ["NO_TASK_ID", "up-7", "up-7", "up-7", "NO_TASK_ID"] ∧
      Tracked i .background legs ∧ legs.map Leg.step = m.steps ∧
      latest i .background Step.uploads legs = some "up-7" ∧
      latest i .background Step.installs legs = some "NO_TASK_ID" := by
  intro job m i
  let listing : Entry Mock.State := ⟨mockDriver m, .call (.firmwareInstallSteps "bios"), 0⟩
  let s : Scene (Watched Mock.State) :=
    ⟨0, { world := ({} : Mock.State).note "firmware_install_steps:bios"
          log := [.started listing, .ended listing] }⟩
  have known : Context.background.run ((mockDriver m).watched.capabilities.handle
      (.firmwareInstallSteps "bios")) fresh.toScene = some (.ok (.ok m.steps), s) := rfl
  -- Each of the waits is over with its first poll.
  obtain ⟨report, s', hrun, htasks, hupload, hinstall⟩ : ∃ report s',
      i.watched.runSteps .background m.steps { driver := "a" } s = some (.ok report, s') ∧
      (Event.starts s'.log).filterMap (fun e => e.deed.task?) =
        ["NO_TASK_ID", "up-7", "up-7", "up-7", "NO_TASK_ID"] ∧
      report.uploadTask = some "up-7" ∧ report.installTask = some "NO_TASK_ID" :=
    ⟨_, _,
      .trans (runSteps_cons (Installer.LastRound.decided (x := ⟨false, _, _⟩) rfl).await_eq) <|
      .trans (runSteps_cons rfl) <|
      .trans (runSteps_cons (Installer.LastRound.decided (x := ⟨false, _, _⟩) rfl).await_eq) <|
      .trans (runSteps_cons (Installer.LastRound.decided (x := ⟨false, _, _⟩) rfl).await_eq) <|
      .trans (runSteps_cons rfl) <|
      .trans (runSteps_cons (Installer.LastRound.decided (x := ⟨false, _, _⟩) rfl).await_eq) rfl,
      by decide +kernel, by decide +kernel, by decide +kernel⟩
  have hinstalled : i.watched.install .background fresh.toScene = some (.ok report, s') := by
    show Option.map _ (Option.map _
      (i.watched.runSteps .background m.steps { driver := "a" } s)) = _
    rw [hrun]
    rfl
  have hends : ∃ run', install (mockClient m).watched .background job fresh =
      some (.ok report, run') ∧ run'.toScene = s' := by
    rw [install_eq (d := mockDriver m) rfl rfl, hinstalled]
    exact ⟨_, rfl, rfl⟩
  obtain ⟨run', hreturns, rfl⟩ := hends
  obtain ⟨-, -, hrouted, -⟩ := install_routing (mockClient m) .background job fresh
    (mockDriver m) m.steps s rfl known
  obtain ⟨legs, reset, hjourney, -, htracked, -, hlatest⟩ := hrouted _ _ hreturns
  obtain ⟨huploads, hinstalls⟩ := hlatest report rfl
  have hsteps : legs.map Leg.step = m.steps := by
    cases hjourney with
    | done _ hsteps _ => exact hsteps
  exact ⟨rfl, s, report, run', legs, known, hreturns, htasks, htracked, hsteps,
    huploads.symm.trans hupload, hinstalls.symm.trans hinstall⟩

end Client

end OutOfBand
