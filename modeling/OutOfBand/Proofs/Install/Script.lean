import OutOfBand.Client.Install

/-!
# Scripts of tasks

What a driver answers to one poll after another, and to one attempt after another to open its
session again, is laid down in a script. A script tells without running anything which answers are
decisive (`Decisive`) and what goes before each poll: whether the session was just opened, how often
it was to be opened, what the report says by then, and at what instant the poll is made.
-/

namespace OutOfBand

theorem Fault.isSessionExpired_of_isTransient {f : Fault} (h : f.isTransient = true) :
    f.isSessionExpired = false := by
  cases hexpired : f.isSessionExpired with
  | false => rfl
  | true =>
      rw [isTransient_of_isSessionExpired hexpired] at h
      cases h

namespace Client

open Firmware

/-- What a driver answers, as far as that is laid down. -/
structure TaskScript where
  /-- Whether the driver has a session that can be opened. -/
  connected : Bool
  /-- The answer to each poll. -/
  answers : Nat → Option (Except Fault Status)
  /-- The answer to each attempt to open the session again. -/
  logins : Nat → Option (Except Fault Unit)

namespace TaskScript

/-- Whether a poll was answered that the session has expired. -/
def expired : Option (Except Fault Status) → Bool
  | some (.error f) => f.isSessionExpired
  | _ => false

def opened : Option (Except Fault Unit) → Bool
  | some (.ok ()) => true
  | _ => false

variable (script : TaskScript)

/-- What goes before a poll: whether the session was just opened since it had expired, and how often
it was to be opened. -/
def before : Nat → Bool × Nat
  | 0 => (false, 0)
  | k + 1 =>
    if expired (script.answers k) && script.connected && !(before k).1 then
      (opened (script.logins (before k).2), (before k).2 + 1)
    else (false, (before k).2)

/-- Whether the session was opened between the poll `k` and the poll before it. -/
def fresh (k : Nat) : Bool := (script.before k).1

def loginsBefore (k : Nat) : Nat := (script.before k).2

/-- Whether the session is to be opened after the poll `k`. -/
def reopens (k : Nat) : Bool :=
  expired (script.answers k) && script.connected && !script.fresh k

@[simp] theorem fresh_zero : script.fresh 0 = false := rfl

@[simp] theorem loginsBefore_zero : script.loginsBefore 0 = 0 := rfl

theorem fresh_succ (k : Nat) : script.fresh (k + 1) =
    (script.reopens k && opened (script.logins (script.loginsBefore k))) := by
  unfold fresh reopens loginsBefore
  rw [before]
  split <;> simp_all [fresh]

theorem loginsBefore_succ (k : Nat) : script.loginsBefore (k + 1) =
    script.loginsBefore k + if script.reopens k then 1 else 0 := by
  unfold loginsBefore reopens
  rw [before]
  split <;> simp_all [fresh]

theorem reopens_of_ok {k : Nat} {status : Status} (h : script.answers k = some (.ok status)) :
    script.reopens k = false := by simp [reopens, expired, h]

theorem reopens_of_not_expired {k : Nat} {f : Fault} (h : script.answers k = some (.error f))
    (hf : f.isSessionExpired = false) : script.reopens k = false := by simp [reopens, expired, h, hf]

theorem of_reopens {k : Nat} {f : Fault} (h : script.answers k = some (.error f))
    (hreopens : script.reopens k = true) :
    f.isSessionExpired = true ∧ script.connected = true ∧ script.fresh k = false := by
  simpa [reopens, expired, h, and_assoc] using hreopens

/-- Whether the script lays down what is answered to the poll `k` and, if the session is to be opened
after it, to that. -/
def Told (k : Nat) : Prop :=
  (script.answers k).isSome = true ∧
    (script.reopens k = true → (script.logins (script.loginsBefore k)).isSome = true)

/-- The answers that end a wait. -/
inductive Decisive (k : Nat) : Prop
  | state {status} : script.answers k = some (.ok status) →
      status.state ∈ [.complete, .failed, .powerCycleHost, .powerCycleBmc] → Decisive k
  | fault {f} : script.answers k = some (.error f) → f.isTransient = false →
      f.isSessionExpired = false → Decisive k
  /-- The session has expired and the driver has none to open. -/
  | disconnected {f} : script.answers k = some (.error f) → f.isSessionExpired = true →
      script.connected = false → Decisive k
  /-- The session has expired although it was just opened. -/
  | expiredAgain {f} : script.answers k = some (.error f) → f.isSessionExpired = true →
      script.fresh k = true → Decisive k
  /-- The session has expired and cannot be opened again. -/
  | notReopened {f g} : script.answers k = some (.error f) → script.reopens k = true →
      script.logins (script.loginsBefore k) = some (.error g) → g.isTransient = false → Decisive k

/-- The answers that do not end a wait. -/
inductive Pending (k : Nat) : Prop
  | state {status} : script.answers k = some (.ok status) →
      status.state ∈ [.initializing, .queued, .running, .unknown] → Pending k
  | transient {f} : script.answers k = some (.error f) → f.isTransient = true → Pending k
  | reopened {f} : script.answers k = some (.error f) → script.reopens k = true →
      script.logins (script.loginsBefore k) = some (.ok ()) → Pending k
  | unreachable {f g} : script.answers k = some (.error f) → script.reopens k = true →
      script.logins (script.loginsBefore k) = some (.error g) → g.isTransient = true → Pending k

variable {script}

/-- **Every other answer does not end a wait.** -/
theorem Told.pending {k : Nat} (h : script.Told k) (hdecisive : ¬ script.Decisive k) :
    script.Pending k := by
  obtain ⟨hanswer, hlogin⟩ := h
  obtain ⟨answer, hanswer⟩ := Option.isSome_iff_exists.mp hanswer
  rcases answer with f | status
  · by_cases htransient : f.isTransient = true
    · exact .transient hanswer htransient
    by_cases hexpired : f.isSessionExpired = true
    · by_cases hconnected : script.connected = true
      · by_cases hfresh : script.fresh k = true
        · exact absurd (.expiredAgain hanswer hexpired hfresh) hdecisive
        have hreopens : script.reopens k = true := by
          simp [reopens, expired, hanswer, hexpired, hconnected, hfresh]
        obtain ⟨login, hlogin⟩ := Option.isSome_iff_exists.mp (hlogin hreopens)
        rcases login with g | ⟨⟩
        · by_cases hg : g.isTransient = true
          · exact .unreachable hanswer hreopens hlogin hg
          · exact absurd (.notReopened hanswer hreopens hlogin (Bool.eq_false_iff.mpr hg)) hdecisive
        · exact .reopened hanswer hreopens hlogin
      · exact absurd (.disconnected hanswer hexpired (Bool.eq_false_iff.mpr hconnected)) hdecisive
    · exact absurd (.fault hanswer (Bool.eq_false_iff.mpr htransient)
        (Bool.eq_false_iff.mpr hexpired)) hdecisive
  · cases hstate : status.state with
    | initializing | queued | running | unknown => exact .state hanswer (by simp [hstate])
    | complete | failed | powerCycleHost | powerCycleBmc =>
        exact absurd (.state hanswer (by simp [hstate])) hdecisive

/-- No answer does both. -/
theorem Pending.not_decisive {k : Nat} (h : script.Pending k) : ¬ script.Decisive k := by
  intro hdecisive
  -- Both speak of the same answer, and no answer of one kind is one of the other.
  cases h with
  | @state status hanswer hstate =>
      have hreopens := script.reopens_of_ok hanswer
      cases hdecisive <;> simp_all
      grind
  | @transient f hanswer hf =>
      have hexpired := Fault.isSessionExpired_of_isTransient hf
      have hreopens := script.reopens_of_not_expired hanswer hexpired
      cases hdecisive <;> simp_all
  | @reopened f hanswer hreopens hlogin =>
      obtain ⟨hexpired, hconnected, hfresh⟩ := script.of_reopens hanswer hreopens
      cases hdecisive <;> simp_all
  | @unreachable f g hanswer hreopens hlogin hg =>
      obtain ⟨hexpired, hconnected, hfresh⟩ := script.of_reopens hanswer hreopens
      cases hdecisive <;> simp_all

variable (script)

/-- How long the wait pauses after the poll `k`. -/
def pause (pacing : PollPacing) (k : Nat) : Span :=
  match script.answers k with
  | some (.error f) =>
    if f.isTransient then pacing.backoff
    else if opened (script.logins (script.loginsBefore k)) then pacing.interval
    else pacing.backoff
  | _ => pacing.interval

/-- The instant of the poll `k` of a wait that begins at the instant `start`. -/
def instant (pacing : PollPacing) (start : Nat) : Nat → Nat
  | 0 => start
  | k + 1 => Clock.tick (instant pacing start k + (script.pause pacing k).ns)

theorem instant_le_succ (pacing : PollPacing) (start k : Nat) :
    script.instant pacing start k ≤ script.instant pacing start (k + 1) :=
  Nat.le_trans (Nat.le_add_right ..) (Clock.le_tick _)

/-- What the report says before the poll `k`. -/
def reportBefore (report : Report) : Nat → Report
  | 0 => report
  | k + 1 =>
    let polled := { reportBefore report k with polls := (reportBefore report k).polls + 1 }
    match script.answers k with
    | some (.ok status) => { polled with last := some status }
    | _ => polled

theorem reportBefore_of_ok (report : Report) {k : Nat} {status : Status}
    (h : script.answers k = some (.ok status)) :
    script.reportBefore report (k + 1) =
      { script.reportBefore report k with
        polls := (script.reportBefore report k).polls + 1
        last := some status } := by
  rw [reportBefore, h]

theorem reportBefore_of_error (report : Report) {k : Nat} {f : Fault}
    (h : script.answers k = some (.error f)) :
    script.reportBefore report (k + 1) =
      { script.reportBefore report k with
        polls := (script.reportBefore report k).polls + 1 } := by
  rw [reportBefore, h]

end TaskScript

end Client

end OutOfBand
