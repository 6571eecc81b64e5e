import OutOfBand.Proofs.Redfish.Asking
import OutOfBand.Proofs.Redfish.Credentials

/-!
# The session of the Redfish driver

What one deed can do to the session is said once (`Does.turn`): it leaves the session or drops it,
or it is a login that was issued another one. From that follows, by going through a history, which
login the session comes from (`Course.attributed`) and that nothing but the user name and the
password is shown after the session was dropped, until a login is issued another one
(`Course.shows_basic`). With what becomes of a request whose credentials are not accepted, and with
what a logout asks, that is the whole life of a session (`session_life`).
-/

namespace OutOfBand

/-- Whether a deed that was done, or was not, ends the session there is. -/
def Deed.endsSession : Deed → Bool → Bool
  | .logout, _ => true
  | .call (.bmcReset _), done => done
  | _, _ => false

namespace Redfish

variable {target : Target} {s s' : State} {xs ys log : List Exchange} {deed : Deed} {done : Bool}
  {session : Session}

/-! ## Logins -/

/-- A request that logs in: it leads to the sessions of the service and shows no credentials but
those in its body. -/
structure IsLogin (target : Target) (q : Web.Request) : Prop extends
    LeadsTo target .post sessionsPath q where
  credentials : q.credentials = .none

/-- None of the logins was issued a session. -/
def NoneIssued (target : Target) (xs : List Exchange) : Prop :=
  ∀ x ∈ xs, IsLogin target x.1 → issued x.2 = none

theorem noneIssued_append_iff :
    NoneIssued target (xs ++ ys) ↔ NoneIssued target xs ∧ NoneIssued target ys :=
  List.forall_mem_append

theorem credentials_ne_none (target : Target) (s : State) : credentials target s ≠ .none := by
  unfold credentials
  split <;> simp

/-- What shows credentials is no login. -/
theorem noneIssued_of_credentials (h : ∀ x ∈ xs, x.1.credentials = credentials target s) :
    NoneIssued target xs := fun x hx hlogin =>
  absurd ((h x hx).symm.trans hlogin.credentials) (credentials_ne_none target s)

theorem issued_eq_none_of_replyOf {u : Web.Url} {outcome : Web.Outcome} {f : Fault}
    (h : Web.replyOf u outcome = .error f) : issued outcome = none := by
  cases outcome with
  | answered => cases h
  | _ => rfl

/-- A login that fails was issued nothing. -/
theorem Goes.issued_of_login_error {e : Fault} (h : Goes (login target) s xs (.error e) s') :
    ∀ x ∈ xs, issued x.2 = none := by
  intro x hx
  rcases goes_bind_iff.mp h with ⟨e, hask, -⟩ | ⟨⟨u, reply⟩, m, ys, zs, rfl, hask, hrest⟩
  · obtain ⟨-, ⟨rfl, -⟩ | ⟨u, outcome, -, rfl, hr⟩⟩ := hask.of_ask
    · cases hx
    · obtain rfl := List.mem_singleton.mp hx
      cases hreply : Web.replyOf u outcome with
      | ok reply => rw [hreply] at hr; cases hr
      | error f => exact issued_eq_none_of_replyOf hreply
  · obtain ⟨rfl, ⟨-, f, hr⟩ | ⟨u, outcome, -, rfl, hr⟩⟩ := hask.of_ask
    · cases hr
    have hanswered : outcome = .answered reply := by
      cases outcome <;> cases hr
      rfl
    subst hanswered
    simp only at hrest
    split at hrest
    · -- The credentials were declined, so the reply is no success.
      rename_i hdeclined
      obtain ⟨rfl, -, -⟩ := goes_throw_iff.mp hrest
      rw [List.append_nil] at hx
      obtain rfl := List.mem_singleton.mp hx
      have hstatus : reply.status = 401 ∨ reply.status = 403 := by simpa using hdeclined
      have hfailed : reply.isSuccess = false := by
        rcases hstatus with h | h <;> simp [Web.Reply.isSuccess, h]
      simp [issued, hfailed]
    · split at hrest
      · split at hrest
        · cases (goes_modify_iff.mp hrest).2.1
        · cases (goes_pure_iff.mp hrest).2.1
      · cases (goes_pure_iff.mp hrest).2.1

/-! ## What one deed does to the session -/

/-- What a deed does to the session: it is issued none, and leaves or drops the one there is; or it
begins with a login that is issued one, which all that follows shows. -/
inductive Turn (target : Target) (s : State) (xs : List Exchange) (s' : State) : Prop
  | plain : NoneIssued target xs →
      (∀ x ∈ xs, IsLogin target x.1 ∨ x.1.credentials = credentials target s) →
      (s'.session = s.session ∨ s'.session = none) → Turn target s xs s'
  | opened {login : Exchange} {ys : List Exchange} {session : Session} : xs = login :: ys →
      IsLogin target login.1 → issued login.2 = some session → s'.session = some session →
      (∀ y ∈ ys, y.1.credentials = .token session.token) → Turn target s xs s'

theorem Goes.turn_of_openSession {r : Except Fault Unit}
    (h : Goes (openSession target) s xs r s') : Turn target s xs s' := by
  rcases goes_bind_iff.mp h with ⟨e, hlogin, rfl⟩ | ⟨_, m, ys, zs, rfl, hlogin, hrest⟩
  · obtain ⟨hxs, ⟨-, rfl⟩ | ⟨q, outcome, hr, -⟩⟩ := hlogin.of_login
    · exact .plain (fun x hx _ => hlogin.issued_of_login_error x hx)
        (fun x hx => .inl ⟨(hxs x hx).1, (hxs x hx).2⟩) (.inl rfl)
    · cases hr
  · obtain ⟨hys, ⟨hr, -⟩ | ⟨q, outcome, -, rfl, rfl⟩⟩ := hlogin.of_login
    · cases hr
    have hq : IsLogin target q :=
      ⟨(hys _ (List.mem_singleton_self _)).1, (hys _ (List.mem_singleton_self _)).2⟩
    -- What follows the login shows what is remembered after it.
    have hzs : (∀ z ∈ zs, z.1.credentials = credentials target s') ∧
        s'.session = (issued outcome).or s.session := by
      split at hrest
      · obtain ⟨hzs, -, hsession, -⟩ := hrest.of_discover
        exact ⟨fun z hz => by rw [hzs z hz, credentials_congr hsession], hsession⟩
      · obtain ⟨rfl, -, rfl⟩ := goes_pure_iff.mp hrest
        exact ⟨by simp, rfl⟩
    obtain ⟨hshown, hsession⟩ := hzs
    cases hissued : issued outcome with
    | some session =>
        rw [hissued] at hsession
        refine .opened rfl hq hissued hsession fun z hz => ?_
        rw [hshown z hz, credentials, hsession]
        rfl
    | none =>
        have hkept : s'.session = s.session := by simpa [hissued] using hsession
        have hshown' : ∀ z ∈ zs, z.1.credentials = credentials target s := fun z hz => by
          rw [hshown z hz, credentials_congr hkept]
        refine .plain ?_ ?_ (.inl hkept)
        · refine noneIssued_append_iff.mpr ⟨fun x hx _ => ?_, noneIssued_of_credentials hshown'⟩
          obtain rfl := List.mem_singleton.mp hx
          exact hissued
        · intro x hx
          rcases List.mem_append.mp hx with hx | hx
          · obtain rfl := List.mem_singleton.mp hx
            exact .inl hq
          · exact .inr (hshown' x hx)

/-- **What a deed does to the session**, whatever it is answered. -/
theorem Does.turn (h : Does target s deed xs done s') : Turn target s xs s' := by
  by_cases hdeed : deed = .login
  · subst hdeed
    cases h with
    | login hgoes => exact hgoes.turn_of_openSession
  · have hshown := h.credentials hdeed
    refine .plain (noneIssued_of_credentials hshown) (fun x hx => .inr (hshown x hx)) ?_
    cases hsettles : deed.settlesSession done with
    | false => exact .inl (h.session_eq hsettles)
    | true =>
        -- Apart from logins, only a logout and a reset that was done settle which session there is.
        cases h with
        | @call _ _ c _ hgoes =>
            cases c with
            | bmcReset kind =>
                obtain ⟨-, ⟨-, rfl⟩ | ⟨-, rfl⟩⟩ := Goes.of_bmcReset hgoes
                · exact .inr rfl
                · exact .inl rfl
            | _ => cases hsettles
        | login => exact absurd rfl hdeed
        | logout hgoes =>
            obtain ⟨-, rfl⟩ := hgoes.of_closeSession
            exact .inr rfl
        | probe => cases hsettles

theorem Does.session_eq_none (h : Does target s deed xs done s')
    (hends : deed.endsSession done = true) : s'.session = none := by
  cases h with
  | @call _ _ c _ hgoes =>
      cases c with
      | bmcReset kind =>
          obtain ⟨-, ⟨-, rfl⟩ | ⟨hr, -⟩⟩ := Goes.of_bmcReset hgoes
          · rfl
          · rw [Deed.endsSession, hr] at hends
            cases hends
      | _ => cases hends
  | login => cases hends
  | logout hgoes =>
      obtain ⟨-, rfl⟩ := hgoes.of_closeSession
      rfl
  | probe => cases hends

/-! ## Where the session comes from -/

/-- The session was issued to the last login of the log that was issued any. -/
def IssuedLast (target : Target) (log : List Exchange) (session : Session) : Prop :=
  ∃ before login after, log = before ++ login :: after ∧ IsLogin target login.1 ∧
    issued login.2 = some session ∧ NoneIssued target after

theorem IssuedLast.more (h : IssuedLast target log session) (hxs : NoneIssued target xs) :
    IssuedLast target (log ++ xs) session := by
  obtain ⟨before, login, after, rfl, hlogin, hissued, hafter⟩ := h
  exact ⟨before, login, after ++ xs, by simp, hlogin, hissued,
    noneIssued_append_iff.mpr ⟨hafter, hxs⟩⟩

/-- The session that is remembered, if any, was issued last. -/
def Attributed (target : Target) (s : State) (log : List Exchange) : Prop :=
  ∀ session, s.session = some session → IssuedLast target log session

theorem Does.attributed (h : Does target s deed xs done s') (hs : Attributed target s log) :
    Attributed target s' (log ++ xs) := by
  intro session hsession
  cases h.turn with
  | plain hnone _ hkept =>
      rcases hkept with hkept | hdropped
      · exact (hs session (hkept ▸ hsession)).more hnone
      · rw [hdropped] at hsession
        cases hsession
  | @opened login ys issued hxs hlogin hissued hopened hys =>
      obtain rfl : issued = session := Option.some.inj (hopened.symm.trans hsession)
      refine ⟨log, login, ys, by rw [hxs], hlogin, hissued, fun y hy h => ?_⟩
      cases (hys y hy).symm.trans h.credentials

theorem Course.attributed {results : List (Deed × Bool)} (h : Course target s results xs s')
    (hs : Attributed target s log) : Attributed target s' (log ++ xs) := by
  induction h generalizing log with
  | nil => simpa using hs
  | cons hdoes _ ih =>
      rw [← List.append_assoc]
      exact ih (hdoes.attributed hs)

theorem Attributed.of_history {σ : Type} (target : Target)
    (peer : Web.Request → σ → Web.Outcome × σ) (w : σ) (history : List (Nat × Deed)) :
    let p := ((capabilities target (Dialog.noting peer)).carryOutAll history (start w)).2
    Attributed target p.1 p.2.2 := by
  obtain ⟨results, xs, s, v, hcourse, h⟩ := carryOutAll_says target peer history (start w)
  have hmade : Attributed target {} [] := by rintro _ ⟨⟩
  rw [h]
  exact hcourse.attributed hmade

/-! ## After the session has ended -/

/-- Unless a login was issued a session before, a request logs in or shows the user name and the
password. -/
def ShowsBasic (target : Target) (before : List Exchange) (x : Exchange) : Prop :=
  NoneIssued target before →
    IsLogin target x.1 ∨ x.1.credentials = .basic target.username target.password

theorem Does.shows_basic (h : Does target s deed xs done s')
    (hs : NoneIssued target log → s.session = none) : Each (ShowsBasic target) log xs ∧
      (NoneIssued target (log ++ xs) → s'.session = none) := by
  cases h.turn with
  | plain _ hshown hkept =>
      constructor
      · intro ys x zs hxs hnone
        have hx : x ∈ xs := by simp [hxs]
        refine (hshown x hx).imp_right fun h => ?_
        rw [h, Redfish.credentials, hs (noneIssued_append_iff.mp hnone).1]
      · intro hnone
        rcases hkept with hkept | hdropped
        · rw [hkept, hs (noneIssued_append_iff.mp hnone).1]
        · exact hdropped
  | @opened login ys session hxs hlogin hissued _ _ =>
      -- Nothing is said of what follows the login.
      have hnot : ∀ zs, ¬ NoneIssued target (log ++ login :: zs) := fun zs hnone => by
        have h := hnone login (by simp) hlogin
        rw [hissued] at h
        cases h
      subst hxs
      refine ⟨?_, fun hnone => absurd hnone (hnot ys)⟩
      show Each _ log ([login] ++ ys)
      refine each_append_iff.mpr
        ⟨each_singleton_iff.mpr fun _ => .inl hlogin, fun us y vs _ hnone => ?_⟩
      rw [List.append_assoc] at hnone
      exact absurd hnone (hnot us)

theorem Course.shows_basic {results : List (Deed × Bool)} (h : Course target s results xs s')
    (hs : NoneIssued target log → s.session = none) : Each (ShowsBasic target) log xs := by
  induction h generalizing log with
  | nil => exact .nil
  | cons hdoes _ ih =>
      obtain ⟨hfirst, hsession⟩ := hdoes.shows_basic hs
      exact each_append_iff.mpr ⟨hfirst, ih hsession⟩

/-! ## Requests whose credentials are not accepted -/

theorem Goes.fault_of_unauthorized {c : Call} {r : Except Fault c.Answer}
    (h : Goes (act target c) s xs r s') {x : Exchange} (hx : x ∈ xs) {reply : Web.Reply}
    (hanswered : x.2 = .answered reply) (hstatus : reply.status = 401) :
    ((∃ detail, r = .error (.sessionExpired detail)) ↔ ∃ t, x.1.credentials = .token t) ∧
      ((∃ detail, r = .error (.authenticationFailed detail)) ↔
        ¬ ∃ t, x.1.credentials = .token t) := by
  obtain ⟨hdue, hfault⟩ := h.asked (fun _ => True) fun _ _ => trivial
  obtain ⟨before, hx'⟩ := hdue.of_mem hx
  rw [hfault x hx _ (heard_of_unauthorized hanswered hstatus), hx'.credentials, refusal,
    credentials]
  cases s.session <;> simp

/-! ## Logging out -/

/-- **A logout** asks for the deletion of the session, if there is one that has a place. -/
theorem Goes.asked_of_close {r : Except Fault Unit} (h : Goes (closeSession target) s xs r s') :
    xs = [] ∨ ∃ token location q outcome, s.session = some ⟨token, some location⟩ ∧
      xs = [(q, outcome)] ∧ q.method = .delete ∧ q.credentials = .token token ∧
      Web.usableUrl (urlOf target location) q.headers = .ok q.url := by
  replace h := (reads_get s).of_bind h
  rcases goes_bind_iff.mp h with ⟨e, hmodify, -⟩ | ⟨_, m, ys, zs, rfl, hmodify, hrest⟩
  · exact .inl (goes_modify_iff.mp hmodify).1
  obtain ⟨rfl, -, rfl⟩ := goes_modify_iff.mp hmodify
  rw [List.nil_append]
  cases hsession : s.session with
  | none =>
      rw [hsession] at hrest
      exact .inl (goes_pure_iff.mp hrest).1
  | some session =>
      obtain ⟨token, _ | location⟩ := session
      · rw [hsession] at hrest
        exact .inl (goes_pure_iff.mp hrest).1
      · rw [hsession] at hrest
        -- Whatever becomes of the request, nothing is asked after it.
        have hask : ∃ m r' m', Goes (ofTalk (Web.send .delete (urlOf target location)
            (.token token) [] .none)) m zs r' m' := by
          rcases goes_bind_iff.mp hrest with ⟨e, hask, -⟩ | ⟨_, m, us, vs, rfl, hask, hpure⟩
          · exact ⟨_, _, _, hask⟩
          · rw [(goes_pure_iff.mp hpure).1, List.append_nil]
            exact ⟨_, _, _, hask⟩
        obtain ⟨m, r', m', hask⟩ := hask
        obtain ⟨-, ⟨f, -, hzs, -⟩ | ⟨u, outcome, hurl, hzs, -⟩⟩ := goes_ask_iff.mp hask
        · exact .inl hzs
        · exact .inr ⟨token, location, _, outcome, rfl, hzs, rfl, rfl, hurl⟩

theorem Does.asked_of_logout (h : Does target s .logout xs done s') :
    xs = [] ∨ ∃ token location q outcome, s.session = some ⟨token, some location⟩ ∧
      xs = [(q, outcome)] ∧ LeadsTo target .delete location q ∧ q.credentials = .token token := by
  cases h with
  | logout hgoes =>
      refine hgoes.asked_of_close.imp_right ?_
      rintro ⟨token, location, q, outcome, hsession, hxs, hmethod, hshown, hurl⟩
      exact ⟨token, location, q, outcome, hsession, hxs, ⟨hmethod, parse_of_usableUrl hurl⟩, hshown⟩

/-- What a logout asks for is the deletion of the session that was issued last. -/
theorem Does.deletes_issued (h : Does target s .logout xs done s')
    (hissued : Attributed target s log) : xs.length ≤ 1 ∧
      ∀ x ∈ xs, ∃ token location, s.session = some ⟨token, some location⟩ ∧
        IssuedLast target log ⟨token, some location⟩ ∧
        LeadsTo target .delete location x.1 ∧ x.1.credentials = .token token := by
  rcases h.asked_of_logout with rfl | ⟨token, location, q, outcome, hsession, rfl, hq⟩
  · exact ⟨by simp, by simp⟩
  · refine ⟨by simp, fun x hx => ?_⟩
    obtain rfl := List.mem_singleton.mp hx
    exact ⟨token, location, hsession, hissued _ hsession, hq⟩

theorem Does.nothing_to_delete (h : Does target s .logout xs done s') (hs : s.session = none) :
    xs = [] := by
  rcases h.asked_of_logout with hxs | ⟨_, _, _, _, hsession, -⟩
  · exact hxs
  · rw [hs] at hsession
    cases hsession

/-! ## The life of a session -/

section Driver

variable {σ : Type} (target : Target) (peer : Web.Request → σ → Web.Outcome × σ)

/-- What is said when the driver is asked for one thing after another. -/
def saidInAll (p : Standing σ) (deeds : List (Nat × Deed)) : List Exchange :=
  ((capabilities target (Dialog.noting peer)).carryOutAll deeds (p.1, p.2.1, [])).2.2.2

theorem course_saidInAll (p : Standing σ) (deeds : List (Nat × Deed)) :
    ∃ results s, Course target p.1 results (saidInAll target peer p deeds) s := by
  obtain ⟨results, xs, s, v, hcourse, h⟩ :=
    carryOutAll_says target peer deeds (p.1, p.2.1, [])
  have hsaid : saidInAll target peer p deeds = xs := by simp [saidInAll, h]
  exact ⟨results, s, hsaid ▸ hcourse⟩

/-- **The life of a session**, whatever the driver was asked for before and whatever it is answered.
A call one of whose requests is answered with the status 401 fails: the session has expired if that
request showed one, and else the user name and the password were not accepted. After a logout, and
after a reset of the controller that was done, nothing but these two is shown until a login is
issued another session. Nothing else changes the session but a login. A logout asks at most for one
thing: for the deletion, with its own token, of the session that was issued last; a second one asks
for nothing. -/
theorem session_life (w : σ) (history : List (Nat × Deed)) :
    let caps := capabilities target (Dialog.noting peer)
    let p := (caps.carryOutAll history (start w)).2
    (∀ (now : Nat) (c : Call), ∀ x ∈ said target peer p now (.call c), ∀ reply,
      x.2 = .answered reply → reply.status = 401 →
      let r := ((caps.handle c).outcome now p).1
      ((∃ detail, r = .error (.sessionExpired detail)) ↔ ∃ t, x.1.credentials = .token t) ∧
      ((∃ detail, r = .error (.authenticationFailed detail)) ↔
        ¬ ∃ t, x.1.credentials = .token t)) ∧
    (∀ (now : Nat) (deed : Deed) (later : List (Nat × Deed)),
      let ended := caps.carryOut now deed p
      deed.endsSession ended.1 = true →
      Each (ShowsBasic target) [] (saidInAll target peer ended.2 later)) ∧
    (∀ (now : Nat) (deed : Deed),
      let next := caps.carryOut now deed p
      (deed.settlesSession next.1 = false → next.2.1.session = p.1.session) ∧
      (deed ≠ .login → ∀ x ∈ said target peer p now deed, ¬ IsLogin target x.1)) ∧
    (∀ now : Nat,
      let xs := said target peer p now .logout
      xs.length ≤ 1 ∧
      (∀ x ∈ xs, ∃ token location, p.1.session = some ⟨token, some location⟩ ∧
        IssuedLast target p.2.2 ⟨token, some location⟩ ∧
        LeadsTo target .delete location x.1 ∧ x.1.credentials = .token token) ∧
      ∀ now', said target peer (caps.carryOut now .logout p).2 now' .logout = []) := by
  intro caps p
  have hissued : Attributed target p.1 p.2.2 := .of_history target peer w history
  refine ⟨?_, ?_, ?_, ?_⟩
  · intro now c x hx reply hanswered hstatus
    obtain ⟨r, s, v, hgoes, hresult, -⟩ := handle_says target peer p now c
    simp only [caps, hresult]
    exact hgoes.fault_of_unauthorized hx hanswered hstatus
  · intro now deed later ended hends
    obtain ⟨done, s, v, hdoes, hended⟩ := carryOut_says target peer p now deed
    have hdone : ended.1 = done := congrArg (·.1) hended
    have hs : ended.2.1 = s := congrArg (·.2.1) hended
    obtain ⟨results, s', hcourse⟩ := course_saidInAll target peer ended.2 later
    rw [hs] at hcourse
    exact hcourse.shows_basic fun _ => hdoes.session_eq_none (hdone ▸ hends)
  · intro now deed next
    obtain ⟨done, s, v, hdoes, hnext⟩ := carryOut_says target peer p now deed
    refine ⟨fun hkeeps => ?_, fun hdeed x hx hlogin => ?_⟩
    · simp only [next, caps, hnext] at hkeeps ⊢
      exact hdoes.session_eq hkeeps
    · exact credentials_ne_none target p.1
        ((hdoes.credentials hdeed x hx).symm.trans hlogin.credentials)
  · intro now xs
    obtain ⟨done, s, v, hdoes, hended⟩ := carryOut_says target peer p now .logout
    obtain ⟨hlength, hdeletes⟩ := hdoes.deletes_issued hissued
    refine ⟨hlength, hdeletes, fun now' => ?_⟩
    obtain ⟨done', s', v', hdoes', -⟩ :=
      carryOut_says target peer (caps.carryOut now .logout p).2 now' .logout
    have hs : (caps.carryOut now .logout p).2.1 = s := congrArg (·.2.1) hended
    rw [hs] at hdoes'
    exact hdoes'.nothing_to_delete (hdoes.session_eq_none rfl)

end Driver

/-- A service that issues a session to everybody who logs in, and then accepts it for nothing. -/
def lapsing (q : Web.Request) (_ : Unit) : Web.Outcome × Unit :=
  if q.method = .post ∧ q.url.path = sessionsPath then
    (.answered ⟨201, [("X-Auth-Token", "tok-1"), ("Location", sessionsPath ++ "/7")], []⟩, ())
  else (.answered ⟨401, [], []⟩, ())

theorem session_life_of_lapsing :
    let caps := capabilities configuredTarget (Dialog.noting lapsing)
    let p := (caps.carryOutAll [(0, .login)] (start ())).2
    let ended := caps.carryOut 0 .logout p
    (∃ detail, ((caps.handle .powerState).outcome 0 p).1 = .error (.sessionExpired detail)) ∧
      (saidInAll configuredTarget lapsing ended.2 [(0, .call .powerState)]).length = 1 ∧
      Each (ShowsBasic configuredTarget) []
        (saidInAll configuredTarget lapsing ended.2 [(0, .call .powerState)]) ∧
      ∃ x ∈ said configuredTarget lapsing p 0 .logout, ∃ token location,
        IssuedLast configuredTarget p.2.2 ⟨token, some location⟩ ∧
        LeadsTo configuredTarget .delete location x.1 ∧ x.1.credentials = .token token := by
  intro caps p ended
  obtain ⟨hfault, hbasic, -, hlogout⟩ := session_life configuredTarget lapsing () [(0, .login)]
  have hplayed : (∃ x ∈ said configuredTarget lapsing p 0 (.call .powerState),
        x.2 = .answered ⟨401, [], []⟩ ∧ x.1.credentials = .token "tok-1") ∧
      (saidInAll configuredTarget lapsing ended.2 [(0, .call .powerState)]).length = 1 ∧
      ∃ x ∈ said configuredTarget lapsing p 0 .logout, x.1.method = .delete := by decide +kernel
  obtain ⟨⟨x, hx, hanswered, hshown⟩, hlength, y, hy, -⟩ := hplayed
  have hends : ∀ done, Deed.endsSession .logout done = true := fun _ => rfl
  refine ⟨(hfault 0 .powerState x hx _ hanswered rfl).1.mpr ⟨_, hshown⟩, hlength,
    hbasic 0 Deed.logout [(0, .call .powerState)] (hends _), y, hy, ?_⟩
  obtain ⟨token, location, -, hy⟩ := (hlogout 0).2.1 y hy
  exact ⟨token, location, hy⟩

end Redfish

end OutOfBand
