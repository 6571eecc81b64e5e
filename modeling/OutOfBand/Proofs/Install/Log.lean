import OutOfBand.Client.Install
import OutOfBand.Proofs.Dispatch.Course

/-!
# Logs of installs

What a log can tell of the parts of an install: of work that the installing driver was asked to do
once (`Asked`), of a call that went to the drivers for the host (`Tried`), of the rounds of a wait
(`RoundLog`, `LastLog`) and of a step (`StepLog`). Whatever the parts are, their logs are `Orderly`:
no two pieces of work overlap, and nothing but host control is asked of other drivers.
-/

namespace OutOfBand

/-- Whether a task is asked for its state. -/
def Deed.isPoll : Deed → Bool
  | call (.firmwareTaskStatus ..) => true
  | _ => false

/-- Whether the host is switched or its controller reset. -/
def Deed.isControl : Deed → Bool
  | call (.powerSet _) | call (.bmcReset _) => true
  | _ => false

theorem Deed.isPoll_eq_false_of_isControl {deed : Deed} (h : deed.isControl = true) :
    deed.isPoll = false := by
  unfold isControl at h
  split at h <;> first | rfl | cases h

namespace Event

/-- How often tasks were asked for their state. -/
def polls (log : List (Event σ)) : Nat := (starts log).countP fun e => e.deed.isPoll

@[simp] theorem polls_nil : polls ([] : List (Event σ)) = 0 := rfl

@[simp] theorem polls_append (log more : List (Event σ)) :
    polls (log ++ more) = polls log + polls more := by
  rw [polls, starts_append, List.countP_append]
  rfl

theorem mem_starts_flatten {e : Entry σ} {logs : List (List (Event σ))} :
    e ∈ starts logs.flatten ↔ ∃ log ∈ logs, e ∈ starts log := by
  have hstarts : starts logs.flatten = (logs.map starts).flatten := List.filterMap_flatten
  rw [hstarts, ← List.flatMap_def, List.mem_flatMap]

end Event

/-! ## Order -/

/-- A log of work of which every piece is over before the next is started. -/
inductive Sequential : List (Event σ) → Prop
  | nil : Sequential []
  /-- Work that was left before it came to an answer. -/
  | left {log} (e : Entry σ) : Sequential log → Sequential (.started e :: log)
  | answered {log} (e : Entry σ) : Sequential log → Sequential (.started e :: .ended e :: log)

/-- A log of an install by the driver `d`: one piece of work after another, and only host control is
asked of other drivers. -/
structure Orderly (d : Driver σ) (log : List (Event σ)) : Prop where
  sequential : Sequential log
  own : ∀ event ∈ log, event.entry.deed.isControl = false → event.entry.driver = d

theorem Sequential.append {log more : List (Event σ)} (h : Sequential log) (h' : Sequential more) :
    Sequential (log ++ more) := by
  induction h with
  | nil => exact h'
  | left e _ ih => exact .left e ih
  | answered e _ ih => exact .answered e ih

namespace Orderly

variable {d : Driver σ}

theorem nil : Orderly d [] := ⟨.nil, by simp⟩

theorem append {log more : List (Event σ)} (h : Orderly d log) (h' : Orderly d more) :
    Orderly d (log ++ more) := by
  refine ⟨h.sequential.append h'.sequential, fun event hevent => ?_⟩
  rcases List.mem_append.mp hevent with hmem | hmem
  · exact h.own event hmem
  · exact h'.own event hmem

theorem flatten {logs : List (List (Event σ))} (h : ∀ log ∈ logs, Orderly d log) :
    Orderly d logs.flatten := by
  induction logs with
  | nil => exact nil
  | cons log logs ih =>
      rw [List.flatten_cons]
      exact (h log List.mem_cons_self).append (ih fun log hlog => h log (List.mem_cons_of_mem _ hlog))

end Orderly

/-! ## What is not in a log -/

/-- A log in which no work of that kind was started. -/
def Lacks (kind : Deed → Bool) (log : List (Event σ)) : Prop :=
  ∀ e ∈ Event.starts log, kind e.deed = false

namespace Lacks

variable {kind : Deed → Bool}

theorem nil : Lacks kind ([] : List (Event σ)) := by simp [Lacks]

theorem append {log more : List (Event σ)} (h : Lacks kind log) (h' : Lacks kind more) :
    Lacks kind (log ++ more) := by
  unfold Lacks at h h' ⊢
  rw [Event.starts_append, List.forall_mem_append]
  exact ⟨h, h'⟩

theorem flatten {logs : List (List (Event σ))} (h : ∀ log ∈ logs, Lacks kind log) :
    Lacks kind logs.flatten := by
  intro e he
  obtain ⟨log, hlog, hmem⟩ := Event.mem_starts_flatten.mp he
  exact h log hlog e hmem

theorem of_deed_eq {deed : Deed} {log : List (Event σ)} (hdeed : kind deed = false)
    (h : ∀ e ∈ Event.starts log, e.deed = deed) : Lacks kind log := fun e he => h e he ▸ hdeed

end Lacks

namespace Client

open Firmware

/-! ## Work that is asked for -/

/-- What a log tells of work that a driver was asked to do, and whether it answered. Under a context
that is done, work is not started. -/
inductive Asked (d : Driver σ) (deed : Deed) : Bool → List (Event σ) → Prop
  | answered (t : Nat) : Asked d deed true [.started ⟨d, deed, t⟩, .ended ⟨d, deed, t⟩]
  | left (t : Nat) : Asked d deed false [.started ⟨d, deed, t⟩]
  | unstarted : Asked d deed false []

/-- What a log tells of a call that went to the drivers of a registry that back it, one after
another up to the first that succeeded, and whether one did. -/
def Tried (registry : List (Driver σ)) (c : Call) (ok : Bool) (log : List (Event σ)) : Prop :=
  ∃ turns : List (Turn σ c.Outcome), turns.map Turn.driver <+: eligible registry c ∧
    log = turns.flatMap (Turn.events c) ∧
    (ok = true ↔ ∃ earlier last a, turns = earlier ++ [last] ∧ last.verdict = .accepted a ∧
      ∀ t ∈ earlier, t.verdict.passed = true)

section Asked

variable {d : Driver σ} {deed : Deed} {answered : Bool} {log : List (Event σ)}

theorem Asked.orderly (h : Asked d deed answered log) : Orderly d log := by
  cases h with
  | answered t => exact ⟨.answered _ .nil, by simp [Event.entry]⟩
  | left t => exact ⟨.left _ .nil, by simp [Event.entry]⟩
  | unstarted => exact .nil

theorem Asked.polls (h : Asked d deed true log) : Event.polls log = if deed.isPoll then 1 else 0 := by
  cases h with
  | answered t => simp [Event.polls, List.countP_cons]

theorem Asked.polls_eq_zero (h : Asked d deed answered log) (hdeed : deed.isPoll = false) :
    Event.polls log = 0 := by
  cases h <;> simp [Event.polls, hdeed]

theorem Asked.deed_eq (h : Asked d deed answered log) : ∀ e ∈ Event.starts log, e.deed = deed := by
  cases h <;> simp

end Asked

section Tried

variable {registry : List (Driver σ)} {c : Call} {ok : Bool} {log : List (Event σ)}

theorem Verdict.sequential_events (v : Verdict α) (e : Entry σ) : Sequential (v.events e) := by
  cases v with
  | accepted | refused => exact .answered e .nil
  | timedOut | cut => exact .left e .nil
  | skipped => exact .nil

theorem Verdict.entry_of_mem_events {v : Verdict α} {e : Entry σ} {event : Event σ}
    (h : event ∈ v.events e) : event.entry = e := by
  cases v <;> simp [Verdict.events] at h <;> rcases h with rfl | rfl <;> rfl

theorem Tried.orderly (h : Tried registry c ok log) (hc : (Deed.call c).isControl = true)
    (d : Driver σ) : Orderly d log := by
  obtain ⟨turns, -, rfl, -⟩ := h
  rw [List.flatMap_def]
  refine .flatten fun log hlog => ?_
  obtain ⟨t, -, rfl⟩ := List.mem_map.mp hlog
  refine ⟨t.verdict.sequential_events _, fun event hevent hcontrol => ?_⟩
  rw [Verdict.entry_of_mem_events hevent] at hcontrol
  exact absurd hc (by simp [show (Deed.call c).isControl = false from hcontrol])

theorem Tried.deed_eq (h : Tried registry c ok log) :
    ∀ e ∈ Event.starts log, e.deed = .call c := by
  obtain ⟨turns, -, rfl, -⟩ := h
  induction turns with
  | nil => simp
  | cons t ts ih =>
      rw [List.flatMap_cons, Event.starts_append, List.forall_mem_append]
      refine ⟨?_, ih⟩
      cases hv : t.verdict <;> simp [Turn.events, Verdict.events, Turn.entry, hv]

theorem Tried.polls (h : Tried registry c ok log) (hc : (Deed.call c).isControl = true) :
    Event.polls log = 0 := by
  refine List.countP_eq_zero.mpr fun e he => ?_
  rw [h.deed_eq e he, Deed.isPoll_eq_false_of_isControl hc]
  exact Bool.false_ne_true

end Tried

/-! ## Waits -/

/-- What a log tells of a round of a wait that is not the last: a poll, and the session opened again
if it had expired. -/
inductive RoundLog (d : Driver σ) (question : Call) : List (Event σ) → Prop
  | polled {log} : Asked d (.call question) true log → RoundLog d question log
  | reopened {log more} : Asked d (.call question) true log → Asked d .login true more →
      RoundLog d question (log ++ more)

/-- What a log tells of the last round of a wait, and whether the wait succeeded. -/
inductive LastLog (d : Driver σ) (host : List (Driver σ)) (question : Call) :
    Bool → List (Event σ) → Prop
  | polled {answered ok log} : Asked d (.call question) answered log →
      (ok = true → answered = true) → LastLog d host question ok log
  /-- The session was not opened again, or the context ended after that. -/
  | reopened {answered log more} : Asked d (.call question) true log → Asked d .login answered more →
      LastLog d host question false (log ++ more)
  /-- The state of the task asked for host control. -/
  | controlled {c ok log more} : Asked d (.call question) true log →
      c = .powerSet .cycle ∨ c = .bmcReset .warm → Tried host c ok more →
      LastLog d host question ok (log ++ more)

section Wait

variable {d : Driver σ} {host : List (Driver σ)} {question : Call} {log : List (Event σ)} {ok : Bool}

theorem LastLog.failed {answered : Bool} (h : Asked d (.call question) answered log) :
    LastLog d host question false log := .polled h fun hok => by cases hok

theorem RoundLog.orderly (h : RoundLog d question log) : Orderly d log := by
  cases h with
  | polled hpoll => exact hpoll.orderly
  | reopened hpoll hlogin => exact hpoll.orderly.append hlogin.orderly

theorem RoundLog.polls (h : RoundLog d question log) (hq : (Deed.call question).isPoll = true) :
    Event.polls log = 1 := by
  cases h with
  | polled hpoll => rw [hpoll.polls, hq, if_pos rfl]
  | reopened hpoll hlogin =>
      rw [Event.polls_append, hpoll.polls, hq, hlogin.polls_eq_zero rfl, if_pos rfl]

theorem polls_flatten {logs : List (List (Event σ))} (h : ∀ log ∈ logs, RoundLog d question log)
    (hq : (Deed.call question).isPoll = true) : Event.polls logs.flatten = logs.length := by
  induction logs with
  | nil => rfl
  | cons log logs ih =>
      rw [List.flatten_cons, Event.polls_append, (h log List.mem_cons_self).polls hq,
        ih fun log hlog => h log (List.mem_cons_of_mem _ hlog), List.length_cons, Nat.add_comm]

theorem RoundLog.deed_eq (h : RoundLog d question log) :
    ∀ e ∈ Event.starts log, e.deed = .call question ∨ e.deed = .login := by
  intro e he
  cases h with
  | polled hpoll => exact .inl (hpoll.deed_eq e he)
  | reopened hpoll hlogin =>
      rw [Event.starts_append] at he
      exact (List.mem_append.mp he).imp (hpoll.deed_eq e) (hlogin.deed_eq e)

theorem RoundLog.lacks {kind : Deed → Bool} (h : RoundLog d question log)
    (hq : kind (.call question) = false) (hlogin : kind .login = false) : Lacks kind log := by
  intro e he
  rcases h.deed_eq e he with hdeed | hdeed
  · rw [hdeed, hq]
  · rw [hdeed, hlogin]

theorem LastLog.deed_eq (h : LastLog d host question ok log) :
    ∀ e ∈ Event.starts log, e.deed = .call question ∨ e.deed = .login ∨ e.deed.isControl = true := by
  intro e he
  cases h with
  | polled hpoll _ => exact .inl (hpoll.deed_eq e he)
  | reopened hpoll hlogin =>
      rw [Event.starts_append] at he
      exact (List.mem_append.mp he).imp (hpoll.deed_eq e) fun hmem => .inl (hlogin.deed_eq e hmem)
  | controlled hpoll hc htried =>
      rw [Event.starts_append] at he
      refine (List.mem_append.mp he).imp (hpoll.deed_eq e) fun hmem => .inr ?_
      rw [htried.deed_eq e hmem]
      rcases hc with rfl | rfl <;> rfl

theorem LastLog.orderly (h : LastLog d host question ok log) : Orderly d log := by
  cases h with
  | polled hpoll _ => exact hpoll.orderly
  | reopened hpoll hlogin => exact hpoll.orderly.append hlogin.orderly
  | controlled hpoll hc htried =>
      refine hpoll.orderly.append (htried.orderly ?_ d)
      rcases hc with rfl | rfl <;> rfl

theorem LastLog.polls (h : LastLog d host question true log)
    (hq : (Deed.call question).isPoll = true) : Event.polls log = 1 := by
  cases h with
  | polled hpoll hok =>
      cases hok rfl
      rw [hpoll.polls, hq, if_pos rfl]
  | controlled hpoll hc htried =>
      have hcontrol : Event.polls _ = 0 := htried.polls (by rcases hc with rfl | rfl <;> rfl)
      rw [Event.polls_append, hpoll.polls, hq, hcontrol, if_pos rfl]

end Wait

/-! ## Steps -/

/-- The call that a step makes to the installing driver, if it makes one. -/
def Installer.call? (i : Installer σ) (report : Report) : Step → Option Call
  | .upload => some (.firmwareUpload i.job.component i.job.image)
  | .uploadAndInitiateInstall => some (.firmwareUploadAndInitiate i.job.component i.job.image)
  | .install => some (.firmwareInstall i.job.component i.job.applyTime i.job.force i.job.image)
  | .installFromUploaded => some (.firmwareInstallUploaded i.job.component report.awaitedUpload)
  | .uploadStatus =>
    some (.firmwareTaskStatus .upload i.job.component report.awaitedUpload i.job.version)
  | .installStatus =>
    some (.firmwareTaskStatus .install i.job.component report.awaitedInstall i.job.version)
  | .powerOffHost | .resetBmcPostInstall | .resetBmcOnFailure => none

/-- The call that a step makes for the host, if it makes one. -/
def hostCall? : Step → Option Call
  | .powerOffHost => some (.powerSet .off)
  | .resetBmcPostInstall => some (.bmcReset .warm)
  | _ => none

/-- What a log tells of a step, and whether it succeeded. -/
inductive StepLog (i : Installer σ) (report : Report) (step : Step) : Bool → List (Event σ) → Prop
  /-- The driver does not back the call. -/
  | missing {c} : i.call? report step = some c → i.driver.backs c.feature = false →
      StepLog i report step false []
  | asked {c answered ok log} : i.call? report step = some c → (Deed.call c).isPoll = false →
      Asked i.driver (.call c) answered log → (ok = true → answered = true) →
      StepLog i report step ok log
  | waited {c ok last} {logs : List (List (Event σ))} : i.call? report step = some c → (Deed.call c).isPoll = true →
      (∀ log ∈ logs, RoundLog i.driver c log) → LastLog i.driver i.host.registry c ok last →
      StepLog i report step ok (logs.flatten ++ last)
  | tried {c ok log} : hostCall? step = some c → Tried i.host.registry c ok log →
      StepLog i report step ok log

section StepLog

variable {i : Installer σ} {report : Report} {step : Step} {ok : Bool} {log : List (Event σ)}

theorem isControl_of_hostCall? {c : Call} (h : hostCall? step = some c) :
    (Deed.call c).isControl = true := by
  cases step <;> cases h <;> rfl

/-- A step makes its call, opens sessions again, and switches hosts and resets controllers. It asks
for nothing else. -/
theorem StepLog.deed_eq (h : StepLog i report step ok log) : ∀ e ∈ Event.starts log,
    (∃ c, i.call? report step = some c ∧ e.deed = .call c) ∨ e.deed = .login ∨
      e.deed.isControl = true := by
  intro e he
  cases h with
  | missing => simp at he
  | asked hcall _ hasked _ => exact .inl ⟨_, hcall, hasked.deed_eq e he⟩
  | @waited c _ last logs hcall _ hrounds hlast =>
      rw [Event.starts_append, List.mem_append] at he
      rcases he with he | he
      · obtain ⟨log, hlog, hmem⟩ := Event.mem_starts_flatten.mp he
        rcases (hrounds log hlog).deed_eq e hmem with hdeed | hdeed
        · exact .inl ⟨c, hcall, hdeed⟩
        · exact .inr (.inl hdeed)
      · rcases hlast.deed_eq e he with hdeed | hother
        · exact .inl ⟨c, hcall, hdeed⟩
        · exact .inr hother
  | tried hc htried =>
      rw [htried.deed_eq e he]
      exact .inr (.inr (isControl_of_hostCall? hc))

theorem StepLog.orderly (h : StepLog i report step ok log) : Orderly i.driver log := by
  cases h with
  | missing => exact .nil
  | asked _ _ hasked _ => exact hasked.orderly
  | waited _ _ hrounds hlast =>
      exact (Orderly.flatten fun log hlog => (hrounds log hlog).orderly).append hlast.orderly
  | tried hc htried => exact htried.orderly (isControl_of_hostCall? hc) i.driver

end StepLog

end Client

end OutOfBand
