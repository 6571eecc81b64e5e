import OutOfBand.Proofs.Redfish.Requests

/-!
# By what the driver shows who it is

Whatever the driver sends in the course of a call, a probe or a logout shows the session that is
remembered, or the user name and the password if none is. A login that succeeds makes the session
that it was issued the remembered one; a login that was issued none leaves the one of an earlier
login, if there still is one. So what is sent after a login shows what that very login was issued,
provided that it was issued something or that no session was left (`shown_after_login`).
-/

namespace OutOfBand

/-- Whether a deed that was done, or was not, settles anew which session there is. -/
def Deed.settlesSession : Deed → Bool → Bool
  | .logout, _ => true
  | .login, done => done
  | .call (.bmcReset _), done => done
  | _, _ => false

namespace Redfish

variable {target : Target} {s s' : State} {xs : List Exchange} {deed : Deed} {done : Bool}

/-- What is not a login shows the credentials of the moment. -/
theorem Does.credentials (h : Does target s deed xs done s') (hdeed : deed ≠ .login) :
    ∀ x ∈ xs, x.1.credentials = Redfish.credentials target s := by
  have hsomewhere : ∀ q, SentSomewhere target s q →
      q.credentials = Redfish.credentials target s := by
    rintro q ⟨method, path, hq⟩
    exact hq.credentials
  cases h with
  | @call _ _ c _ hgoes =>
      by_cases hc : ∃ kind, c = .bmcReset kind
      · obtain ⟨kind, rfl⟩ := hc
        exact fun x hx => ((Goes.of_bmcReset hgoes).1 x hx).credentials
      · obtain ⟨-, hxs⟩ := act_keeps (fun kind hkind => hc ⟨kind, hkind⟩) _ _ _ hgoes
        exact fun x hx => hsomewhere _ (hxs x hx)
  | login => exact absurd rfl hdeed
  | logout hgoes => exact hgoes.of_closeSession.1
  | probe hgoes => exact fun x hx => hsomewhere _ ((probe_keeps _ _ _ hgoes).2 x hx)

/-- What does not settle anew which session there is leaves the one that is remembered. -/
theorem Does.session_eq (h : Does target s deed xs done s')
    (hkeeps : deed.settlesSession done = false) : s'.session = s.session := by
  cases h with
  | @call _ _ c r hgoes =>
      by_cases hc : ∃ kind, c = .bmcReset kind
      · obtain ⟨kind, rfl⟩ := hc
        obtain ⟨-, ⟨hr, -⟩ | ⟨-, rfl⟩⟩ := Goes.of_bmcReset hgoes
        · rw [Deed.settlesSession, hr] at hkeeps
          cases hkeeps
        · rfl
      · rw [(act_keeps (fun kind hkind => hc ⟨kind, hkind⟩) _ _ _ hgoes).1]
  | login hgoes =>
      rcases hgoes.of_openSession with ⟨-, rfl, -⟩ | ⟨q, outcome, ys, rfl, -⟩
      · rfl
      · cases hkeeps
  | logout => cases hkeeps
  | probe hgoes => rw [(probe_keeps _ _ _ hgoes).1]

theorem Course.session_eq {results : List (Deed × Bool)} (h : Course target s results xs s')
    (hkeeps : ∀ p ∈ results, p.1.settlesSession p.2 = false) : s'.session = s.session := by
  induction h with
  | nil => rfl
  | cons hdoes _ ih =>
      rw [ih fun p hp => hkeeps p (List.mem_cons_of_mem _ hp),
        hdoes.session_eq (hkeeps _ List.mem_cons_self)]

/-- What is shown by whoever holds a session or holds none. -/
def shown (target : Target) (session : Option Session) : Web.Credentials :=
  credentials target { session := session }

theorem shown_congr (h : s.session = session) : credentials target s = shown target session :=
  credentials_congr h

/-- From a login that succeeded on, requests show the session that it was issued, or else the one
that was left from before, until it is settled anew which session there is. -/
theorem shown_from_login_on {σ : Type} (target : Target)
    (peer : Web.Request → σ → Web.Outcome × σ) (before : Standing σ) (later : List (Nat × Deed))
    (now now' : Nat) (deed : Deed) :
    let caps := capabilities target (Dialog.noting peer)
    let opened := caps.carryOut now .login before
    let next := caps.carryOutAll later opened.2
    opened.1 = true → ∃ q outcome ys,
      said target peer before now .login = (q, outcome) :: ys ∧
      LeadsTo target .post sessionsPath q ∧ q.credentials = .none ∧
      (∀ y ∈ ys, y.1.credentials = shown target ((issued outcome).or before.1.session)) ∧
      ((∀ p ∈ next.1, p.1.settlesSession p.2 = false) → deed ≠ .login →
        ∀ z ∈ said target peer next.2 now' deed,
          z.1.credentials = shown target ((issued outcome).or before.1.session)) := by
  intro caps opened next hopened
  obtain ⟨done, m, v, hdoes, hlogin⟩ := carryOut_says target peer before now .login
  obtain ⟨results, us, s, v', hcourse, hlater⟩ := carryOutAll_says target peer later opened.2
  obtain ⟨done', s', v'', hdoes', -⟩ := carryOut_says target peer next.2 now' deed
  have hdone : opened.1 = done := by simp only [opened, caps, hlogin]
  have hopened' : opened.2.1 = m := by simp only [opened, caps, hlogin]
  have hresults : next.1 = results := by simp only [next, caps, hlater]
  have hnext : next.2.1 = s := by simp only [next, caps, hlater]
  rw [hopened'] at hcourse
  cases hdoes with
  | login hgoes =>
      rcases hgoes.of_openSession with ⟨hr, -, -⟩ |
        ⟨q, outcome, ys, rfl, hsaid, hq, hnone, hsession, hys, -⟩
      · rw [hdone, hr] at hopened
        cases hopened
      refine ⟨q, outcome, ys, hsaid, hq, hnone, fun y hy => ?_, fun hkeeps hdeed z hz => ?_⟩
      · rw [hys y hy, shown_congr hsession]
      · have hkept : next.2.1.session = (issued outcome).or before.1.session := by
          rw [hnext, hcourse.session_eq (hresults ▸ hkeeps), hsession]
        rw [hdoes'.credentials hdeed z hz, shown_congr hkept]

/-- **After a login** that succeeded, whatever came before it and whatever is answered, requests
show the session that this very login was issued, or the user name and the password if it was
issued none, provided that it was issued one or that none was left from before. This holds of what
the login itself sends after its first request, and of what is sent from then on until a login, a
logout or a reset of the controller settles anew which session there is. -/
theorem shown_after_login {σ : Type} (target : Target) (peer : Web.Request → σ → Web.Outcome × σ)
    (w : σ) (history later : List (Nat × Deed)) (now now' : Nat) (deed : Deed) :
    let caps := capabilities target (Dialog.noting peer)
    let before := (caps.carryOutAll history (start w)).2
    let opened := caps.carryOut now .login before
    let next := caps.carryOutAll later opened.2
    opened.1 = true → ∃ q outcome ys,
      said target peer before now .login = (q, outcome) :: ys ∧
      LeadsTo target .post sessionsPath q ∧ q.credentials = .none ∧
      ((issued outcome).isSome = true ∨ before.1.session = none →
        (∀ y ∈ ys, y.1.credentials = shown target (issued outcome)) ∧
        ((∀ p ∈ next.1, p.1.settlesSession p.2 = false) → deed ≠ .login →
          ∀ z ∈ said target peer next.2 now' deed,
            z.1.credentials = shown target (issued outcome))) := by
  intro caps before opened next hopened
  obtain ⟨q, outcome, ys, hsaid, hq, hnone, hys, hnext⟩ :=
    shown_from_login_on target peer before later now now' deed hopened
  refine ⟨q, outcome, ys, hsaid, hq, hnone, fun hissued => ?_⟩
  have hor : (issued outcome).or before.1.session = issued outcome := by
    rcases hissued with h | h
    · exact Option.or_of_isSome h
    · rw [h, Option.or_none]
  rw [hor] at hys hnext
  exact ⟨hys, hnext⟩

/-- A target whose paths are configured, so that a login asks once. -/
def configuredTarget : Target where
  host := "bmc.local"
  username := "admin"
  password := "pw"
  options.redfish.systemPath := some defaultSystem
  options.redfish.managerPath := some defaultManager

/-- A service that issues a session to the first who logs in, and then has no more sessions. -/
def oneSession (q : Web.Request) (free : Bool) : Web.Outcome × Bool :=
  if q.url.path == sessionsPath then
    if free then (.answered ⟨201, [("X-Auth-Token", "tok-1")], []⟩, false)
    else (.answered ⟨503, [], []⟩, false)
  else (.answered ⟨204, [], []⟩, free)

theorem shown_after_first_login :
    let caps := capabilities configuredTarget (Dialog.noting oneSession)
    let before := (caps.carryOutAll [] (start true)).2
    let opened := caps.carryOut 0 .login before
    let next := caps.carryOutAll [] opened.2
    opened.1 = true ∧ ∃ q outcome ys,
      said configuredTarget oneSession before 0 .login = (q, outcome) :: ys ∧
      ∀ z ∈ said configuredTarget oneSession next.2 0 (.call .powerState),
        z.1.credentials = shown configuredTarget (issued outcome) := by
  intro caps before opened next
  have hopened : opened.1 = true := by decide +kernel
  have hnone : before.1.session = none := by decide +kernel
  have hnothing : ∀ p ∈ next.1, p.1.settlesSession p.2 = false := by
    simp [next, Capabilities.carryOutAll]
  obtain ⟨q, outcome, ys, hsaid, -, -, h⟩ := shown_after_login configuredTarget oneSession true
    [] [] 0 0 (.call .powerState) hopened
  exact ⟨hopened, q, outcome, ys, hsaid, (h (.inr hnone)).2 hnothing (by simp)⟩

/-- **A login that is issued no session may leave an older one**, which is then shown in place of
the user name and the password. -/
theorem older_session_shown_after_login :
    let caps := capabilities configuredTarget (Dialog.noting oneSession)
    let opened := caps.carryOutAll [(0, .login), (0, .login)] (start true)
    opened.1 = [(.login, true), (.login, true)] ∧
      (opened.2.2.2.map (issued ·.2)) = [some ⟨"tok-1", none⟩, none] ∧
      (said configuredTarget oneSession opened.2 0 (.call .powerState)).map (·.1.credentials) =
        [.token "tok-1"] := by
  decide +kernel

end Redfish

end OutOfBand
