import OutOfBand.CommandLine.Program
import OutOfBand.Proofs.Obedience.Errand
import OutOfBand.Proofs.Sessions.Open

/-!
# Sessions are closed after every order

An order opens the sessions of its drivers, sends the client on at most one errand, and closes the
sessions. What it does to the drivers is read off a log (`Bracketed`): if no session could be opened
there is nothing but the opening; else each driver that is kept and has a session is asked once to
close it, after all that the errand asked for, whatever has become of the errand. For closing there
is a context of its own, under which there is always time: a client that gives its drivers no time
at all has kept none that would have to be closed (`openAll_idle`).
-/

namespace OutOfBand

/-! ## Nothing but calls and logins -/

/-- Whether a driver is asked to carry out a call or to open its session. -/
def Deed.isWork : Deed → Bool
  | call _ | login => true
  | logout | probe => false

theorem Deed.isWork_of_isControl {deed : Deed} (h : deed.isControl = true) : deed.isWork = true := by
  cases deed with
  | call c => rfl
  | login => rfl
  | logout | probe => cases h

namespace Client

open Context Sessions

/-- A log that tells of nothing but calls and logins. -/
def OnlyWork (log : List (Event σ)) : Prop := ∀ e ∈ Event.starts log, e.deed.isWork = true

namespace OnlyWork

variable {log more : List (Event σ)}

theorem nil : OnlyWork ([] : List (Event σ)) := by simp [OnlyWork]

theorem append (h : OnlyWork log) (h' : OnlyWork more) : OnlyWork (log ++ more) := by
  rw [OnlyWork, Event.starts_append, List.forall_mem_append]
  exact ⟨h, h'⟩

theorem of_deed {deed : Deed} (hdeed : deed.isWork = true)
    (h : ∀ e ∈ Event.starts log, e.deed = deed) : OnlyWork log := fun e he => h e he ▸ hdeed

theorem of_tried {registry : List (Driver σ)} {c : Call} {ok : Bool} (h : Tried registry c ok log) :
    OnlyWork log := .of_deed rfl h.deed_eq

theorem of_asked {d : Driver σ} {c : Call} {answered : Bool}
    (h : Asked d (.call c) answered log) : OnlyWork log := .of_deed rfl h.deed_eq

end OnlyWork

section Install

variable {i : Installer σ} {ctx : Context} {s s' : Scene (Watched σ)} {log : List (Event σ)}

theorem StepLog.onlyWork {report : Report} {step : Firmware.Step} {ok : Bool}
    (h : StepLog i report step ok log) : OnlyWork log := by
  intro e he
  rcases h.deed_eq e he with ⟨c, -, hdeed⟩ | hdeed | hcontrol
  · rw [hdeed]
    rfl
  · rw [hdeed]
    rfl
  · exact Deed.isWork_of_isControl hcontrol

theorem Done.onlyWork {steps : List Firmware.Step} {report report' : Report}
    {logs : List (List (Event σ))} (h : Done i ctx steps report s logs report' s') :
    OnlyWork logs.flatten := by
  induction h with
  | nil => exact .nil
  | cons _ hsettled _ ih => exact hsettled.2.1.onlyWork.append ih

theorem ResetAfter.onlyWork {declared : List Firmware.Step}
    (h : ResetAfter i ctx declared s s' log) : OnlyWork log := by
  unfold ResetAfter at h
  split at h
  · obtain ⟨-, ok, htried⟩ := h
    exact .of_tried htried
  · rw [h.2]
    exact .nil

theorem InstallLog.onlyWork {result : Except ClientError Report}
    (h : InstallLog i ctx s result s' log) : OnlyWork log := by
  cases h with
  | interrupted _ hasked => exact .of_asked hasked
  | unlisted _ hasked => exact .of_asked hasked
  | noSteps hdeclared => exact .of_asked hdeclared.asked
  | done hdeclared _ hdone => exact (OnlyWork.of_asked hdeclared.asked).append hdone.onlyWork
  | failed hdeclared _ hfailed =>
      cases hfailed with
      | intro _ hdone _ hlog _ _ hreset =>
          exact (OnlyWork.of_asked hdeclared.asked).append
            ((hdone.onlyWork.append hlog.onlyWork).append hreset.onlyWork)

end Install

section Client

variable {client : Client σ} {ctx : Context} {run : Run (Watched σ)}

theorem call_onlyWork (c : Call) :
    ∃ log, Adds run.toScene (client.watched.call ctx c run).2.toScene log ∧ OnlyWork log := by
  obtain ⟨log, hadds, htried⟩ :=
    dispatch_tried ctx client.registry client.config.perProvider c run.toScene
  exact ⟨log, hadds, .of_tried htried⟩

theorem install_onlyWork {job : Job} {result : Except ClientError Report} {run' : Run (Watched σ)}
    (h : Client.install client.watched ctx job run = some (result, run')) :
    ∃ log, Adds run.toScene run'.toScene log ∧ OnlyWork log := by
  obtain ⟨-, hidle, hinstalls⟩ := install_account client ctx job run
  by_cases hnobody : installing? client = none ∨ ctx.error? run.now ≠ none
  · obtain ⟨e, he⟩ := hidle hnobody
    cases he.symm.trans h
    exact ⟨[], .refl _, .nil⟩
  · obtain ⟨hsome, halive⟩ := not_or.mp hnobody
    obtain ⟨d, hd⟩ := Option.ne_none_iff_exists'.mp hsome
    obtain ⟨log, haccount⟩ := (hinstalls d hd (not_not.mp halive)).1 result run' h
    exact ⟨log, haccount.adds, haccount.course.onlyWork⟩

end Client

/-! ## Sessions that are kept -/

section Sessions

variable {client kept : Client σ} {ctx : Context} {run opened : Run σ}

theorem openAll_config {result : Except CallError Unit}
    (h : client.openAll ctx run = (result, kept, opened)) : kept.config = client.config := by
  have hconfig : (client.openAll ctx run).2.1.config = client.config := by
    unfold openAll
    split
    · rfl
    · simp only
      split <;> rfl
  rwa [h] at hconfig

theorem mem_succeeded {outcomes : List (Driver σ × Option Cause)} {d : Driver σ} :
    d ∈ succeeded outcomes ↔ (d, none) ∈ outcomes := by
  simp [succeeded]

/-- Without time to open sessions only drivers are kept that need none. -/
theorem openAll_idle {cause : Interruption}
    (hdone : (ctx.limited run.now (client.sessionTime ctx run.now)).error? run.now = some cause)
    (h : client.openAll ctx run = (.ok (), kept, opened)) :
    ∀ d ∈ kept.registry, d.capabilities.connection = none := by
  by_cases hnobody : client.registry = []
  · have hkept : kept = client := by
      have hopen : client.openAll ctx run = (.ok (), client, { run with record := {} }) := by
        simp [openAll, hnobody]
      cases hopen.symm.trans h
      rfl
    simp [hkept, hnobody]
  · rw [openAll_eq ctx run hnobody] at h
    split at h
    · cases h
    · cases h
      intro d hd
      rw [mem_succeeded, outcomes, List.zip_map_right] at hd
      obtain ⟨⟨d', answer⟩, hmem, hpair⟩ := List.mem_map.mp hd
      obtain ⟨rfl, hcause⟩ := Prod.mk.inj hpair
      have hown := together_idle hdone (.ok ()) (client.registry.map login?) (login? d', answer)
        (by rw [List.zip_map_left]; exact List.mem_map.mpr ⟨(d', answer), hmem, rfl⟩)
      rcases hown with hnone | herror
      · exact Option.map_eq_none_iff.mp hnone
      · -- A driver whose session was not opened is not among those that succeeded.
        have herror : answer = .error cause := herror
        subst herror
        cases cause <;> cases hcause

/-- The run after an errand, if there is one. -/
def attend (client : Client σ) (ctx : Context) (run : Run σ) : Option Errand → Option (Run σ)
  | none => some run
  | some errand => (client.carryOut ctx run errand).map Prod.snd

end Sessions

end Client

namespace CommandLine

open Client

/-! ## Closing -/

section Closing

variable {client kept : Client σ} {ctx : Context} {run opened : Run σ}

theorem closingContext_alive (now : Nat) : (closingContext now).error? now = none := by
  have hpos : 0 < closingTime.ns := by decide
  rw [Context.error?_eq_none_iff]
  refine ⟨by simp [closingContext], fun u hu => ?_⟩
  cases hu
  exact Nat.lt_add_of_pos_right hpos

/-- There is time to close a session, unless the client gives its drivers none. -/
theorem sessionTime_closing (client : Client σ) (now : Nat) :
    client.sessionTime (closingContext now) now = client.config.perProvider.getD closingTime := by
  cases htime : client.config.perProvider with
  | some time => simp [sessionTime, Budget.perDriver, Budget.allocate, closingContext, htime]
  | none =>
      have hshare : Budget.share closingTime 1 = closingTime := by decide
      simp [sessionTime, Budget.perDriver, Budget.allocate, closingContext, htime,
        Context.remaining, hshare]

/-- **Every session that is kept is closed**: each driver that was kept, and that has a session, is
asked to close it, in order. -/
theorem asked_closing (hperDriver : ctx.perDriver = none)
    (h : client.openAll ctx run = (.ok (), kept, opened)) (now : Nat) :
    kept.asked (closingContext now) .logout now =
      (kept.registry.filter fun d => d.capabilities.connection.isSome).map (⟨·, .logout, now⟩) := by
  have hconfig := openAll_config h
  have htime := sessionTime_closing kept now
  by_cases hpos : 0 < (kept.sessionTime (closingContext now) now).ns
  · have halive := (error?_limited (closingContext_alive now)).mpr hpos
    rw [asked, Context.isDone_eq_false_iff.mpr halive]
    rfl
  · -- A client that gives no time to close sessions gave none to open them.
    rw [htime, hconfig] at hpos
    have hzero : ¬ 0 < (client.sessionTime ctx run.now).ns := by
      cases hclient : client.config.perProvider with
      | none => simp [hclient, closingTime, Span.ofSecs] at hpos
      | some time =>
          simpa [sessionTime, Budget.perDriver, Budget.allocate, hperDriver, hclient] using hpos
    obtain ⟨cause, hdone⟩ : ∃ cause, (ctx.limited run.now
        (client.sessionTime ctx run.now)).error? run.now = some cause :=
      Option.ne_none_iff_exists'.mp fun halive =>
        hzero ((error?_limited (Context.error?_eq_none_of_limited halive)).mp halive)
    have hnobody : kept.registry.filter (fun d => d.capabilities.connection.isSome) = [] := by
      rw [List.filter_eq_nil_iff]
      intro d hd
      simp [openAll_idle hdone h d hd]
    rw [asked, hnobody]
    exact ite_self _

end Closing

/-! ## Commands -/

namespace Command

/-- What a command sends a client to do: nothing if its file cannot be read. -/
def errand? (readFile : String → Except String Image) : Command → Option Errand
  | power none => some (.call .powerState)
  | power (some action) => some (.call (.powerSet action))
  | bootDevice device options => some (.call (.bootDeviceSet device options))
  | bmcReset kind => some (.call (.bmcReset kind))
  | users => some (.call .users)
  | firmware component file version =>
    match readFile file with
    | .error _ => none
    | .ok image => some (.install { component, image, version })

end Command

section Command

variable {client : Client σ} {ctx : Context} {readFile : String → Except String Image}

theorem call_unwatched (c : Call) (text : c.Outcome → String) (run : Run (Watched σ)) :
    (call client.watched ctx c text run).map Run.unwatch = call client ctx c text run.plain := by
  simp only [call, ← call_plain client ctx c run]
  rfl

theorem install_unwatched (job : Job) (run : Run (Watched σ)) :
    (install client.watched ctx job run).map Run.unwatch = install client ctx job run.plain := by
  simp only [install, ← install_plain client ctx job run, Option.map_map, Function.comp_def]
  rfl

/-- Watching changes nothing about a command. -/
theorem perform_unwatched (command : Command) (run : Run (Watched σ)) :
    (command.perform client.watched ctx readFile run).map Run.unwatch =
      command.perform client ctx readFile run.plain := by
  cases command with
  | power action => cases action <;> exact call_unwatched _ _ run
  | bootDevice | bmcReset | users => exact call_unwatched _ _ run
  | firmware component file version =>
      simp only [Command.perform, Command.performWith]
      cases readFile file with
      | error reason => rfl
      | ok image => exact install_unwatched _ run

/-- A command leaves what its errand leaves. -/
theorem perform_run (command : Command) (run : Run σ) :
    (command.perform client ctx readFile run).map Prod.snd =
      client.attend ctx run (command.errand? readFile) := by
  cases command with
  | power action => cases action <;> rfl
  | bootDevice | bmcReset | users => rfl
  | firmware component file version =>
      simp only [Command.perform, Command.performWith, Command.errand?]
      cases readFile file with
      | error reason => rfl
      | ok image => simp [install, attend, carryOut, Function.comp_def]

/-- A command asks drivers for nothing but to carry out calls and to open sessions. -/
theorem perform_onlyWork {command : Command} {run run' : Run (Watched σ)}
    {result : Except OrderError String}
    (h : command.perform client.watched ctx readFile run = some (result, run')) :
    ∃ log, Adds run.toScene run'.toScene log ∧ OnlyWork log := by
  have hrun := congrArg (Option.map Prod.snd) h
  rw [perform_run] at hrun
  cases herrand : command.errand? readFile with
  | none =>
      rw [herrand] at hrun
      cases hrun
      exact ⟨[], .refl _, .nil⟩
  | some errand =>
      rw [herrand] at hrun
      cases command with
      | power action =>
          cases action <;> cases herrand <;> cases hrun <;> exact call_onlyWork _
      | bootDevice | bmcReset | users =>
          cases herrand
          cases hrun
          exact call_onlyWork _
      | firmware component file version =>
          simp only [Command.errand?] at herrand
          cases hfile : readFile file with
          | error reason => simp [hfile] at herrand
          | ok image =>
              rw [hfile] at herrand
              cases herrand
              obtain ⟨⟨_, _⟩, hcarried, hlast⟩ := Option.map_eq_some_iff.mp hrun
              obtain ⟨⟨answer, _⟩, hinstall, hpair⟩ := Option.map_eq_some_iff.mp hcarried
              cases hlast
              cases hpair
              exact install_onlyWork hinstall

end Command

/-! ## Orders -/

/-- How an order goes that is begun with a run: what it prints, and the run that it leaves, with a
log of all that it asked of drivers. -/
inductive Bracketed (order : Order) (client : Client σ) (readFile : String → Except String Image)
    (interrupt : Option Nat) (run : Run σ) : Ending → Run (Watched σ) → Prop
  /-- No session could be opened. Then drivers are asked for nothing else, and the record is that of
  the opening. -/
  | unopened {e kept opened opening} :
      (order.settings.view client).openAll (order.context run.now interrupt) run =
        (.error e, kept, opened) →
      Event.starts opening = (order.settings.view client).asked
        (order.context run.now interrupt) .login run.now →
      Bracketed order client readFile interrupt run
        (ended opened.record (.error (.noSession e))) (opened.watched opening)
  /-- The command is carried out with the drivers that were kept, and whatever comes of it, each of
  them that has a session is asked once to close it after that. The record is that of the command's
  errand or, if it has none, that of the opening. -/
  | closed {kept opened done after} {result : Except OrderError String}
      {opening work closing : List (Event σ)} :
      (order.settings.view client).openAll (order.context run.now interrupt) run =
        (.ok (), kept, opened) →
      Event.starts opening = (order.settings.view client).asked
        (order.context run.now interrupt) .login run.now →
      kept.attend (order.context run.now interrupt) opened (order.command.errand? readFile) =
        some done →
      order.command.perform kept.watched (order.context run.now interrupt) readFile
        (opened.watched opening) = some (result, done.watched (opening ++ work)) →
      OnlyWork work →
      (kept.closeAll (closingContext done.now) done).2 = after →
      Event.starts closing = (kept.registry.filter fun d => d.capabilities.connection.isSome).map
        (⟨·, .logout, done.now⟩) →
      Bracketed order client readFile interrupt run (ended done.record result)
        (after.watched (opening ++ work ++ closing))

section Order

variable {order : Order} {client : Client σ} {readFile : String → Except String Image}
  {interrupt : Option Nat} {run : Run σ}

theorem view_watched (settings : Settings) (client : Client σ) :
    settings.view client.watched = (settings.view client).watched := by
  unfold Settings.view
  induction settings.views generalizing client with
  | nil => rfl
  | cons v vs ih => exact (congrArg (vs.foldl Client.view) (view_larger watching client v)).trans (ih _)

theorem runWith_unopened {now : Nat} (hnow : run.now = now) {e : CallError} {kept : Client σ}
    {opened : Run σ} (h : (order.settings.view client).openAll (order.context now interrupt) run =
      (.error e, kept, opened)) :
    order.runWith client readFile interrupt run =
      some (ended opened.record (.error (.noSession e)), opened) := by
  rw [Order.runWith, hnow, h]
  rfl

theorem runWith_opened {now : Nat} (hnow : run.now = now) {kept : Client σ} {opened : Run σ}
    (h : (order.settings.view client).openAll (order.context now interrupt) run =
      (.ok (), kept, opened)) :
    order.runWith client readFile interrupt run =
      (order.command.perform kept (order.context now interrupt) readFile opened).map
        fun (result, done) =>
          (ended done.record result, (kept.closeAll (closingContext done.now) done).2) := by
  rw [Order.runWith, hnow, h, Order.afterOpening]
  cases order.command.perform kept (order.context now interrupt) readFile opened with
  | none => rfl
  | some p => rfl

/-- Opening the sessions with a log of it. -/
theorem view_openAll_watched (order : Order) (client : Client σ) (interrupt : Option Nat)
    (run : Run σ) {result : Except CallError Unit} {kept : Client σ} {opened : Run σ}
    (h : (order.settings.view client).openAll (order.context run.now interrupt) run =
      (result, kept, opened)) :
    ∃ opening, Event.starts opening =
        (order.settings.view client).asked (order.context run.now interrupt) .login run.now ∧
      (order.settings.view client.watched).openAll (order.context run.now interrupt)
        (run.watched []) = (result, kept.watched, opened.watched opening) := by
  obtain ⟨opening, hstarts, hopen⟩ := openAll_watched (order.settings.view client)
    (order.context run.now interrupt) (run.watched [])
  refine ⟨opening, hstarts, ?_⟩
  rw [view_watched, hopen, Run.plain_watched, h]
  rfl

/-- Closing the sessions with a log of it. -/
theorem closeAll_bracketed {kept : Client σ} {opened : Run σ}
    (h : (order.settings.view client).openAll (order.context run.now interrupt) run =
      (.ok (), kept, opened)) (done : Run σ) (log : List (Event σ)) :
    ∃ closing, Event.starts closing = (kept.registry.filter fun d =>
        d.capabilities.connection.isSome).map (⟨·, .logout, done.now⟩) ∧
      (kept.watched.closeAll (closingContext done.now) (done.watched log)).2 =
        (kept.closeAll (closingContext done.now) done).2.watched (log ++ closing) := by
  obtain ⟨closing, hstarts, hclose⟩ :=
    closeAll_watched kept (closingContext done.now) (done.watched log)
  have hnow : (done.watched log).now = done.now := rfl
  rw [hnow, asked_closing rfl h done.now] at hstarts
  rw [hclose]
  exact ⟨closing, hstarts, rfl⟩

theorem closeAll_unwatched (client : Client σ) (run : Run (Watched σ)) :
    (client.watched.closeAll (closingContext run.now) run).2.plain =
      (client.closeAll (closingContext run.plain.now) run.plain).2 := by
  obtain ⟨log, -, hclose⟩ := closeAll_watched client (closingContext run.now) run
  have hnow : run.plain.now = run.now := rfl
  rw [hclose, Run.plain_watched, hnow]

/-- **Watching changes nothing** about how an order is carried out, nor whether it has an end. -/
theorem runWith_unwatched (order : Order) (client : Client σ)
    (readFile : String → Except String Image) (interrupt : Option Nat) (run : Run σ) :
    (order.runWith client.watched readFile interrupt (run.watched [])).map Run.unwatch =
      order.runWith client readFile interrupt run := by
  cases hopen : (order.settings.view client).openAll (order.context run.now interrupt) run with
  | mk result rest =>
      obtain ⟨kept, opened⟩ := rest
      obtain ⟨opening, -, hwatched⟩ := view_openAll_watched order client interrupt run hopen
      cases result with
      | error e =>
          rw [runWith_unopened rfl hopen, runWith_unopened rfl hwatched]
          rfl
      | ok =>
          have hcommand : (order.command.perform kept.watched (order.context run.now interrupt)
              readFile (opened.watched opening)).map Run.unwatch =
              order.command.perform kept (order.context run.now interrupt) readFile opened :=
            perform_unwatched order.command (opened.watched opening)
          rw [runWith_opened rfl hopen, runWith_opened rfl hwatched, ← hcommand, Option.map_map,
            Option.map_map]
          congr 1
          funext p
          exact Prod.ext rfl (closeAll_unwatched kept p.2)

theorem runWith_bracketed {ending : Ending} {run' : Run (Watched σ)}
    (h : order.runWith client.watched readFile interrupt (run.watched []) = some (ending, run')) :
    Bracketed order client readFile interrupt run ending run' := by
  have hbegun : (run.watched []).now = run.now := rfl
  cases hopen : (order.settings.view client).openAll (order.context run.now interrupt) run with
  | mk result rest =>
      obtain ⟨kept, opened⟩ := rest
      obtain ⟨opening, hstarts, hwatched⟩ := view_openAll_watched order client interrupt run hopen
      cases result with
      | error e =>
          cases (runWith_unopened hbegun hwatched).symm.trans h
          exact .unopened hopen hstarts
      | ok =>
          obtain ⟨⟨result, done⟩, hcommand, hpair⟩ :=
            Option.map_eq_some_iff.mp ((runWith_opened hbegun hwatched).symm.trans h)
          obtain ⟨work, hadds, honly⟩ := perform_onlyWork hcommand
          obtain ⟨final, rfl⟩ : ∃ final, done = Run.watched final (opening ++ work) :=
            ⟨done.plain, by rw [show opening ++ work = done.log from hadds.symm]; rfl⟩
          have hplain : order.command.perform kept (order.context run.now interrupt) readFile
              opened = some (result, final) := by
            rw [← Run.plain_watched opened opening, ← perform_unwatched, hcommand]
            rfl
          have hattend := (perform_run order.command opened).symm.trans
            (congrArg (Option.map Prod.snd) hplain)
          obtain ⟨closing, hclosing, hclose⟩ := closeAll_bracketed hopen final (opening ++ work)
          have hnow : (final.watched (opening ++ work)).now = final.now := rfl
          obtain ⟨rfl, rfl⟩ := Prod.mk.inj hpair
          rw [hnow, hclose]
          exact .closed hopen hstarts hattend hcommand honly rfl hclosing

theorem view_config (settings : Settings) (client : Client σ) :
    (settings.view client).config = client.config := by
  unfold Settings.view
  induction settings.views generalizing client with
  | nil => rfl
  | cons v vs ih => exact ih (client.view v)

/-- A command has an end if it is no install, or if its context ends. -/
theorem perform_ne_none {command : Command} {ctx : Context}
    (h : ∀ job, command.errand? readFile = some (.install job) →
      (ctx.deadline ≠ none ∨ ctx.cancelAt ≠ none) ∧
        0 < client.config.firmware.interval.ns ∧ 0 < client.config.firmware.backoff.ns) :
    command.perform client ctx readFile run ≠ none := by
  intro hnone
  have hattend := (perform_run command run).symm.trans (congrArg (Option.map Prod.snd) hnone)
  cases herrand : command.errand? readFile with
  | none =>
      rw [herrand] at hattend
      cases hattend
  | some errand =>
      rw [herrand] at hattend
      have hcarry : client.carryOut ctx run errand = none := Option.map_eq_none_iff.mp hattend
      cases errand with
      | install job =>
          obtain ⟨hends, hpacing⟩ := h job herrand
          exact (carryOut_obeys client ctx run (.install job) fun _ _ => hpacing).2 hends hcarry
      | call | openAll | closeAll | keepCompatible => cases hcarry

/-- **Sessions are bracketed** around the command, however the drivers behave, and whether or not the
time of the command is up or somebody interrupts it: see `Bracketed`. Taking down what is asked of
the drivers changes nothing; and there is an end to it, unless an install goes on under a context
that never ends. -/
theorem sessions_bracketed (order : Order) (client : Client σ)
    (readFile : String → Except String Image) (interrupt : Option Nat) (run : Run σ) :
    (order.runWith client.watched readFile interrupt (run.watched [])).map Run.unwatch =
        order.runWith client readFile interrupt run ∧
      (∀ ending run', order.runWith client.watched readFile interrupt (run.watched []) =
        some (ending, run') → Bracketed order client readFile interrupt run ending run') ∧
      ((∀ job, order.command.errand? readFile = some (.install job) →
          (order.settings.timeout ≠ none ∨ interrupt ≠ none) ∧
            0 < client.config.firmware.interval.ns ∧ 0 < client.config.firmware.backoff.ns) →
        order.runWith client readFile interrupt run ≠ none) := by
  refine ⟨runWith_unwatched order client readFile interrupt run, fun _ _ => runWith_bracketed,
    fun hends => ?_⟩
  cases hopen : (order.settings.view client).openAll (order.context run.now interrupt) run with
  | mk result rest =>
      obtain ⟨kept, opened⟩ := rest
      have hconfig := (openAll_config hopen).trans (view_config order.settings client)
      cases result with
      | error e =>
          rw [runWith_unopened rfl hopen]
          exact Option.some_ne_none _
      | ok =>
          rw [runWith_opened rfl hopen]
          intro hnone
          refine perform_ne_none (fun job hjob => ?_) (Option.map_eq_none_iff.mp hnone)
          obtain ⟨hcontext, hpacing⟩ := hends job hjob
          rw [hconfig]
          refine ⟨hcontext.imp (fun htimeout => ?_) id, hpacing⟩
          simpa [Order.context, Settings.context] using htimeout

end Order

/-- A driver hangs until somebody interrupts the program, and its session is closed all the same. -/
theorem sessions_bracketed_of_interrupted :
    let client := mockClient { name := "a", behavior := .hang }
    let order : Order := ⟨{}, .power none⟩
    let run : Run Mock.State := { now := 0, world := {} }
    let readFile : String → Except String Image := fun _ => .error "No such file or directory"
    (∀ job, order.command.errand? readFile ≠ some (.install job)) ∧
      ∃ ending run', order.runWith client.watched readFile (some 3000000) (run.watched []) =
          some (ending, run') ∧
        Bracketed order client readFile (some 3000000) run ending run' ∧
        ending.code = 1 ∧ run'.now = 3000000 ∧
        (Event.starts run'.log).map Entry.deed = [.login, .call .powerState, .logout] := by
  intro client order run readFile
  have hcall : ∀ job, order.command.errand? readFile ≠ some (.install job) := by
    rintro job ⟨⟩
  obtain ⟨hwatched, hbracketed, hends⟩ :=
    sessions_bracketed order client readFile (some 3000000) run
  have hend := hends fun job hjob => absurd hjob (hcall job)
  rw [← hwatched, ne_eq, Option.map_eq_none_iff] at hend
  obtain ⟨⟨ending, run'⟩, hrun⟩ := Option.ne_none_iff_exists'.mp hend
  have hshown : (order.runWith client.watched readFile (some 3000000) (run.watched [])).map
      (fun (ending, run') => (ending.code, run'.now, (Event.starts run'.log).map Entry.deed)) =
      some (1, 3000000, [.login, .call .powerState, .logout]) := by
    decide +kernel
  rw [hrun] at hshown
  simp only [Option.map_some, Option.some.injEq, Prod.mk.injEq] at hshown
  exact ⟨hcall, ending, run', hrun, hbracketed ending run' hrun, hshown⟩

end CommandLine

end OutOfBand
