import OutOfBand.Proofs.Redfish.Asking
import OutOfBand.Proofs.Redfish.Paths
import OutOfBand.Proofs.Redfish.Session
import OutOfBand.Proofs.Web.Origin

/-!
# Where the Redfish driver sends its requests

Every request shows the credentials of the target or stands for a session that was issued for them,
so it matters where it goes. The driver puts its own paths after the base URL of the target, and
those go where the base URL leads. It does the same with a link that it was given, unless that is a
URL itself; then the request goes to that URL, wherever it leads. So requests are confined to the
base URL and to the URLs that the configuration and the service give (`requests_confined`), but not
to the base URL alone (`given_links_lead_elsewhere`).
-/

namespace OutOfBand.Redfish

variable {α β : Type} {target : Target} {s s' : State} {xs log : List Exchange} {path : String}
  {headers : List Web.Header} {u : Web.Url}

/-! ## Where paths lead -/

/-- The path is a URL itself. -/
def IsAbsolute (path : String) : Prop :=
  path.startsWith "http://" = true ∨ path.startsWith "https://" = true

theorem urlOf_of_isAbsolute (target : Target) (h : IsAbsolute path) : urlOf target path = path := by
  apply if_pos
  rw [Bool.or_eq_true]
  exact h

theorem urlOf_of_not_isAbsolute (target : Target) (h : ¬ IsAbsolute path) :
    urlOf target path = target.options.redfish.baseUrl target.host ++ path := by
  apply if_neg
  rw [Bool.or_eq_true]
  exact h

/-- The URL leads where the base URL of the target leads. -/
def AtBase (target : Target) (u : Web.Url) : Prop :=
  (Web.Url.parse? (target.options.redfish.baseUrl target.host)).map Web.Url.origin = some u.origin

instance : Decidable (AtBase target u) := inferInstanceAs (Decidable (_ = _))

/-- Where a path leads: it is a URL itself, or it leads where the base URL leads, unless it still
belongs to the host or to the port of the base URL. -/
theorem leads_of_usableUrl (hhost : Web.Url.IsPlainHost target.host)
    (h : Web.usableUrl (urlOf target path) headers = .ok u) :
    AtBase target u ∨ (IsAbsolute path ∧ Web.Url.parse? path = some u) ∨
      (Web.Url.IsStray path ∧
        Web.Url.parse? (target.options.redfish.baseUrl target.host ++ path) = some u) := by
  by_cases habsolute : IsAbsolute path
  · rw [urlOf_of_isAbsolute target habsolute] at h
    exact .inr (.inl ⟨habsolute, parse_of_usableUrl h⟩)
  · rw [urlOf_of_not_isAbsolute target habsolute] at h
    obtain ⟨hparse, hweb⟩ := of_usableUrl h
    by_cases hstray : Web.Url.IsStray path
    · exact .inr (.inr ⟨hstray, hparse⟩)
    · obtain ⟨b, hb, horigin⟩ := Web.Url.origin_of_append_baseUrl _ hhost hstray hparse hweb
      left
      rw [AtBase, hb, Option.map_some, horigin]

/-- What begins with a slash is no URL itself. -/
theorem not_isAbsolute_of_slash {rest : List Char} (h : path.toList = '/' :: rest) :
    ¬ IsAbsolute path := by
  rw [IsAbsolute, String.startsWith_string_iff, String.startsWith_string_iff, h]
  rintro (⟨more, h⟩ | ⟨more, h⟩)
  · cases h
  · cases h

/-- The driver's own paths lead where the base URL leads. -/
theorem atBase_of_own {rest : String} (hhost : Web.Url.IsPlainHost target.host)
    (h : Web.usableUrl (urlOf target (serviceRoot ++ rest)) headers = .ok u) :
    AtBase target u := by
  have hslash : (serviceRoot ++ rest).toList = '/' :: ("redfish/v1".toList ++ rest.toList) := by
    rw [String.toList_append]
    rfl
  rcases leads_of_usableUrl hhost h with hbase | ⟨habsolute, -⟩ | ⟨hstray, -⟩
  · exact hbase
  · exact absurd habsolute (not_isAbsolute_of_slash hslash)
  · exact absurd hstray (Web.Url.not_isStray_of_slash hslash)

/-! ## Links -/

/-- The driver was given a link: in the configuration, or in what was said so far. -/
def IsGiven (target : Target) (log : List Exchange) (link : String) : Prop :=
  target.options.redfish.systemPath = some link ∨ target.options.redfish.managerPath = some link ∨
    ∃ x ∈ log, Gives x link

/-- A request goes where the base URL leads, or to a URL that is made from a link that was given:
the link is that URL itself, or still belongs to the host or to the port of the base URL when it is
put after it, and then the two make up that URL. -/
def Confined (target : Target) (log : List Exchange) (x : Exchange) : Prop :=
  AtBase target x.1.url ∨ ∃ link ending, IsGiven target log link ∧ ending ∈ endings ∧
    ((IsAbsolute (link ++ ending) ∧ Web.Url.parse? (link ++ ending) = some x.1.url) ∨
      (Web.Url.IsStray (link ++ ending) ∧ Web.Url.parse?
        (target.options.redfish.baseUrl target.host ++ (link ++ ending)) = some x.1.url))

theorem IsGiven.more {link : String} (h : IsGiven target log link) (xs : List Exchange) :
    IsGiven target (log ++ xs) link := by
  rcases h with hsystem | hmanager | ⟨x, hx, hgives⟩
  · exact .inl hsystem
  · exact .inr (.inl hmanager)
  · exact .inr (.inr ⟨x, List.mem_append_left _ hx, hgives⟩)

theorem gives_of_lists {x : Exchange} {links : List String} {link : String}
    (h : Lists x.2 links) (hlink : link ∈ links) : Gives x link := by
  obtain ⟨reply, j, hanswered, hdecoded, rfl⟩ := h
  have hshows : Shows x j := ⟨reply, hanswered, hdecoded⟩
  exact .inl ⟨j, hshows, .inl hlink⟩

theorem gives_of_issued {x : Exchange} {token location : String}
    (h : issued x.2 = some ⟨token, some location⟩) : Gives x location := by
  obtain ⟨q, outcome⟩ := x
  cases outcome with
  | answered reply =>
      refine .inr ⟨reply, rfl, ?_⟩
      simp only [issued, Option.ite_none_right_eq_some, sessionOf, Option.map_eq_some_iff] at h
      obtain ⟨-, token', -, hsession⟩ := h
      exact (Session.mk.injEq .. ▸ hsession).2
  | _ => cases h

/-- All links of which the driver can know were given. -/
theorem Found.covers (h : Found target s log) : Covers (IsGiven target log) target s := by
  have hnamed : ∀ {collection link : String}, (∃ x ∈ log, NamesFirst target collection x link) →
      IsGiven target log link := by
    rintro collection link ⟨x, hx, -, links, hlists, hhead⟩
    exact .inr (.inr ⟨x, hx, gives_of_lists hlists (List.mem_of_mem_head? hhead)⟩)
  rintro link (hsystem | hmanager | hconfigured | hconfigured)
  · exact hnamed (h.system link hsystem).2
  · exact hnamed (h.manager link hmanager).2
  · exact .inl hconfigured
  · exact .inr (.inl hconfigured)

theorem confined_of_made {x : Exchange} (hhost : Web.Url.IsPlainHost target.host)
    (hpath : Made (IsGiven target log) xs path)
    (hurl : Web.usableUrl (urlOf target path) x.1.headers = .ok x.1.url) :
    Confined target (log ++ xs) x := by
  cases hpath with
  | own rest => exact .inl (atBase_of_own hhost hurl)
  | @link link ending hlink hending =>
      have hgiven : IsGiven target (log ++ xs) link := by
        rcases hlink with hlink | ⟨y, hy, hgives⟩
        · exact hlink.more xs
        · exact .inr (.inr ⟨y, List.mem_append_right _ hy, hgives⟩)
      apply (leads_of_usableUrl hhost hurl).imp_right
      intro hleads
      exact ⟨link, ending, hgiven, hending, hleads⟩

/-! ## Acts that ask for the driver's own paths -/

/-- Whatever is remembered and answered, an act sends only requests to where the base URL leads. -/
def Stays (target : Target) (act : Act α) : Prop :=
  ∀ s xs r s', Goes act s xs r s' → ∀ x ∈ xs, AtBase target x.1.url

namespace Stays

theorem mk_pure (e : Except Fault α) : Stays target (ExceptT.mk (pure e)) := by
  intro s xs r s' h
  simp [(goes_mk_pure_iff.mp h).1]

theorem pure (a : α) : Stays target (pure a) := .mk_pure (.ok a)

theorem throw (f : Fault) : Stays target (throw f : Act α) := .mk_pure (.error f)

theorem get : Stays target get := by
  intro s xs r s' h
  simp [(goes_get_iff.mp h).1]

theorem modify (f : State → State) : Stays target (modify f) := by
  intro s xs r s' h
  simp [(goes_modify_iff.mp h).1]

theorem bind {act : Act α} {f : α → Act β} (h : Stays target act)
    (h' : ∀ a, Stays target (f a)) : Stays target (act >>= f) := by
  intro s xs r s' hgoes x hx
  rcases goes_bind_iff.mp hgoes with ⟨e, hact, -⟩ | ⟨a, m, ys, zs, rfl, hact, hrest⟩
  · exact h _ _ _ _ hact x hx
  · rcases List.mem_append.mp hx with hx | hx
    · exact h _ _ _ _ hact x hx
    · exact h' a _ _ _ _ hrest x hx

theorem attempt {act : Act α} (h : Stays target act) : Stays target (attempt act) := by
  intro s xs r s' hgoes
  obtain ⟨r', hact, -⟩ := goes_attempt_iff.mp hgoes
  exact h _ _ _ _ hact

theorem ask (hhost : Web.Url.IsPlainHost target.host) (method : Web.Method) (rest : String)
    (credentials : Web.Credentials) (body : Web.Body) :
    Stays target (ofTalk (Web.send method (urlOf target (serviceRoot ++ rest)) credentials headers
      body)) := by
  intro s xs r s' h x hx
  obtain ⟨-, ⟨f, -, rfl, -⟩ | ⟨u, outcome, hurl, rfl, -⟩⟩ := goes_ask_iff.mp h
  · cases hx
  · obtain rfl := List.mem_singleton.mp hx
    exact atBase_of_own hhost hurl

end Stays

theorem members_stays (hhost : Web.Url.IsPlainHost target.host) (rest : String) :
    Stays target (members target (serviceRoot ++ rest)) := by
  have hsend : Stays target (send target .get (serviceRoot ++ rest) [] .none) := by
    apply Stays.bind .get
    intro s
    apply Stays.bind (.ask hhost _ rest _ _)
    intro answer
    exact .mk_pure _
  have hread : Stays target (getJson target (serviceRoot ++ rest)) := by
    apply Stays.bind hsend
    intro reply
    exact .mk_pure _
  apply Stays.bind hread
  intro collection
  exact .pure _

theorem firstMember_stays (hhost : Web.Url.IsPlainHost target.host) (rest : String) :
    Stays target (firstMember target (serviceRoot ++ rest)) := by
  apply Stays.bind (.attempt (members_stays hhost rest))
  intro answer
  cases answer with
  | ok links => exact .pure _
  | error f => exact .pure _

theorem login_stays (hhost : Web.Url.IsPlainHost target.host) : Stays target (login target) := by
  apply Stays.bind (.ask hhost _ "/SessionService/Sessions" _ _)
  intro answer
  simp only
  split
  · exact .throw _
  · split
    · split
      · exact .modify _
      · exact .pure _
    · exact .pure _

/-- Opening the session asks for the driver's own paths only. -/
theorem openSession_stays (hhost : Web.Url.IsPlainHost target.host) :
    Stays target (openSession target) := by
  apply Stays.bind (login_stays hhost)
  intro _
  split
  · apply Stays.bind (firstMember_stays hhost "/Systems")
    intro system
    apply Stays.bind (firstMember_stays hhost "/Managers")
    intro manager
    exact .modify _
  · exact .pure _

/-! ## Every request -/

theorem Does.confined {deed : Deed} {done : Bool} (hhost : Web.Url.IsPlainHost target.host)
    (h : Does target s deed xs done s') (hfound : Found target s log)
    (hissued : Attributed target s log) : Each (Confined target) log xs := by
  have hdue : ∀ mayChange, Each (Due target s (IsGiven target log) mayChange) [] xs →
      Each (Confined target) log xs := by
    intro mayChange heach ys x zs hxs
    obtain ⟨path, hmade, hurl⟩ := (heach ys x zs hxs).path
    exact confined_of_made hhost hmade hurl
  cases h with
  | call hgoes => exact hdue _ (hgoes.asked _ hfound.covers).1
  | login hgoes =>
      intro ys x zs hxs
      have hx : x ∈ xs := by simp [hxs]
      exact .inl (openSession_stays hhost _ _ _ _ hgoes x hx)
  | logout hgoes =>
      rcases hgoes.asked_of_close with
        rfl | ⟨token, location, q, outcome, hsession, rfl, -, -, hurl⟩
      · exact .nil
      · obtain ⟨before, login, after, hlog, -, hlogin, -⟩ := hissued _ hsession
        have hmem : login ∈ log := by simp [hlog]
        have hgiven : IsGiven target log location :=
          .inr (.inr ⟨login, hmem, gives_of_issued hlogin⟩)
        rw [each_singleton_iff, ← List.append_nil log]
        exact confined_of_made hhost (.plain (.inl hgiven)) hurl
  | probe hgoes => exact hdue _ (hgoes.asked_of_probe _)

/-- **Requests are confined** to where the base URL of the target leads and to the URLs that the
driver was given, whatever it was asked for before and whatever it is answered. -/
theorem requests_confined {σ : Type} (target : Target) (hhost : Web.Url.IsPlainHost target.host)
    (peer : Web.Request → σ → Web.Outcome × σ) (w : σ) (history : List (Nat × Deed)) (now : Nat)
    (deed : Deed) :
    let p := ((capabilities target (Dialog.noting peer)).carryOutAll history (start w)).2
    Each (Confined target) p.2.2 (said target peer p now deed) := by
  intro p
  obtain ⟨done, s, v, hdoes, -⟩ := carryOut_says target peer p now deed
  exact hdoes.confined hhost (.of_history target peer w history)
    (.of_history target peer w history)

/-- A service that lists an account under the link, and otherwise cannot be reached. -/
def listsAccount (link : String) (q : Web.Request) (_ : Unit) : Web.Outcome × Unit :=
  if q.url.path == accountsPath then
    let body := "\x7b\"Members\":[\x7b\"@odata.id\":\"" ++ link ++ "\"\x7d]\x7d"
    (.answered ⟨200, [], Text.Utf8.encode body⟩, ())
  else (.unreachable, ())

/-- A service that lists an account at another host. -/
def listsAbroad : Web.Request → Unit → Web.Outcome × Unit :=
  listsAccount "http://other.example/accounts/1"

theorem requests_confined_abroad :
    Web.Url.IsPlainHost configuredTarget.host ∧
      (said configuredTarget listsAbroad (start ()) 0 (.call .users)).length = 2 ∧
      Each (Confined configuredTarget) []
        (said configuredTarget listsAbroad (start ()) 0 (.call .users)) := by
  have hhost : Web.Url.IsPlainHost configuredTarget.host := by decide
  exact ⟨hhost, by decide +kernel,
    requests_confined configuredTarget hhost listsAbroad () [] 0 (.call .users)⟩

/-- A target whose system is configured by a URL of another host. -/
def elsewhereTarget : Target where
  host := "bmc.local"
  username := "admin"
  password := "pw"
  options.redfish.systemPath := some "http://other.example/redfish/v1/Systems/1"

/-- **The credentials do not stay at the base URL**: with a system that is configured elsewhere, or
an account that is listed elsewhere, or one whose link puts what is before it in the place of a user
name, the user name and the password are shown there. -/
theorem given_links_lead_elsewhere :
    Web.Url.IsPlainHost "bmc.local" ∧
      (∃ x ∈ said elsewhereTarget listsAbroad (start ()) 0 (.call .powerState),
        x.1.credentials = .basic "admin" "pw" ∧ ¬ AtBase elsewhereTarget x.1.url) ∧
      (∃ x ∈ said configuredTarget listsAbroad (start ()) 0 (.call .users),
        x.1.credentials = .basic "admin" "pw" ∧ ¬ AtBase configuredTarget x.1.url) ∧
      ∃ x ∈ said configuredTarget (listsAccount "@other.example/accounts/1") (start ()) 0
          (.call .users),
        x.1.credentials = .basic "admin" "pw" ∧ ¬ AtBase configuredTarget x.1.url := by
  decide +kernel

end OutOfBand.Redfish
