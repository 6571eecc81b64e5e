import OutOfBand.Proofs.Redfish.Exchange

/-!
# What the Redfish driver asks

Each act of the driver has one lemma here that says which requests it may send, and what the driver
remembers afterwards. Most acts leave what is remembered as it was (`Keeps`); a login, the discovery
of resources, a logout and a reset of the controller do not (`Goes.of_login`, `Goes.of_discover`,
`Goes.of_closeSession`, `Goes.of_bmcReset`).
-/

namespace OutOfBand.Redfish

variable {α β : Type} {target : Target} {s s' : State} {xs : List Exchange} {method : Web.Method}
  {path : String} {headers : List Web.Header} {body : Web.Body} {q : Web.Request}

/-! ## Single requests -/

/-- A request that leads to a path. -/
structure LeadsTo (target : Target) (method : Web.Method) (path : String) (q : Web.Request) :
    Prop where
  method : q.method = method
  url : Web.Url.parse? (urlOf target path) = some q.url

instance : Decidable (LeadsTo target method path q) :=
  decidable_of_iff (q.method = method ∧ Web.Url.parse? (urlOf target path) = some q.url)
    ⟨fun h => ⟨h.1, h.2⟩, fun h => ⟨h.1, h.2⟩⟩

/-- A request that leads to a path, and shows the credentials of the moment. -/
structure Sent (target : Target) (s : State) (method : Web.Method) (path : String)
    (q : Web.Request) : Prop extends LeadsTo target method path q where
  credentials : q.credentials = credentials target s

/-- A usable URL is one of the web. -/
theorem of_usableUrl {url : String} {u : Web.Url} (h : Web.usableUrl url headers = .ok u) :
    Web.Url.parse? url = some u ∧ u.isWeb = true := by
  unfold Web.usableUrl at h
  cases hparse : Web.Url.parse? url with
  | none =>
      rw [hparse] at h
      cases h
  | some v =>
      simp only [hparse] at h
      -- Each check that fails is a fault.
      split at h
      · cases h
      · split at h
        · cases h
        · split at h
          · cases h
          · rename_i husable
            cases h
            rw [Bool.not_eq_true, Bool.not_eq_false', Bool.and_eq_true] at husable
            exact ⟨rfl, husable.1⟩

theorem parse_of_usableUrl {url : String} {u : Web.Url} (h : Web.usableUrl url headers = .ok u) :
    Web.Url.parse? url = some u := (of_usableUrl h).1

theorem Goes.of_ask {credentials : Web.Credentials} {url : String}
    {r : Except Fault (Web.Url × Web.Reply)}
    (h : Goes (ofTalk (Web.send method url credentials headers body)) s xs r s') : s' = s ∧
      ((xs = [] ∧ ∃ f, r = .error f) ∨
        ∃ u outcome, Web.Url.parse? url = some u ∧
          xs = [(⟨method, u, credentials, headers, body⟩, outcome)] ∧
          r = (Web.replyOf u outcome).map (u, ·)) := by
  obtain ⟨rfl, ⟨f, -, hxs, hr⟩ | ⟨u, outcome, hurl, hxs, hr⟩⟩ := goes_ask_iff.mp h
  · exact ⟨rfl, .inl ⟨hxs, f, hr⟩⟩
  · exact ⟨rfl, .inr ⟨u, outcome, parse_of_usableUrl hurl, hxs, hr⟩⟩

/-- What is sent in the course of a call shows the credentials of the moment. -/
theorem Goes.of_send {r : Except Fault Web.Reply}
    (h : Goes (send target method path headers body) s xs r s') : s' = s ∧
      ((xs = [] ∧ ∃ f, r = .error f) ∨
        ∃ q outcome, Sent target s method path q ∧ xs = [(q, outcome)] ∧
          ∀ reply, r = .ok reply → outcome = .answered reply) := by
  unfold send at h
  replace h := (reads_get s).of_bind h
  rcases goes_bind_iff.mp h with ⟨e, hask, rfl⟩ | ⟨⟨u, reply⟩, m, ys, zs, rfl, hask, hrest⟩
  · obtain ⟨rfl, ⟨rfl, -⟩ | ⟨u, outcome, hurl, rfl, -⟩⟩ := hask.of_ask
    · exact ⟨rfl, .inl ⟨rfl, e, rfl⟩⟩
    · exact ⟨rfl, .inr ⟨_, outcome, ⟨⟨rfl, hurl⟩, rfl⟩, rfl, by rintro _ ⟨⟩⟩⟩
  · obtain ⟨rfl, ⟨-, f, hr⟩ | ⟨u, outcome, hurl, rfl, hr⟩⟩ := hask.of_ask
    · cases hr
    · obtain ⟨rfl, rfl, rfl⟩ := goes_mk_pure_iff.mp hrest
      refine ⟨rfl, .inr ⟨_, outcome, ⟨⟨rfl, hurl⟩, rfl⟩, rfl, fun reply' hok => ?_⟩⟩
      cases outcome with
      | answered reply =>
          cases hr
          -- A reply that is accepted is passed on as it is.
          unfold accepted at hok
          split at hok
          · cases hok
          · split at hok <;> cases hok
            rfl
      | _ => cases hr

/-- What is read is the resource that the outcome of the request shows. -/
theorem Goes.of_getJson {r : Except Fault Json} (h : Goes (getJson target path) s xs r s') :
    s' = s ∧ ((xs = [] ∧ ∃ f, r = .error f) ∨
      ∃ q outcome, Sent target s .get path q ∧ xs = [(q, outcome)] ∧
        ∀ j, r = .ok j → ∃ reply, outcome = .answered reply ∧ reply.decoded Json = .ok j) := by
  rcases goes_bind_iff.mp h with ⟨e, hsend, rfl⟩ | ⟨reply, m, ys, zs, rfl, hsend, hdecode⟩
  · obtain ⟨rfl, ⟨rfl, -⟩ | ⟨q, outcome, hq, rfl, -⟩⟩ := hsend.of_send
    · exact ⟨rfl, .inl ⟨rfl, _, rfl⟩⟩
    · exact ⟨rfl, .inr ⟨q, outcome, hq, rfl, by rintro _ ⟨⟩⟩⟩
  · obtain ⟨rfl, rfl, rfl⟩ := goes_mk_pure_iff.mp hdecode
    obtain ⟨rfl, ⟨-, f, hr⟩ | ⟨q, outcome, hq, rfl, hanswered⟩⟩ := hsend.of_send
    · cases hr
    · exact ⟨rfl, .inr ⟨q, outcome, hq, rfl, fun j hj => ⟨reply, hanswered reply rfl, hj⟩⟩⟩

/-- The outcome of a request lists these members of a collection. -/
def Lists (outcome : Web.Outcome) (links : List String) : Prop :=
  ∃ reply j, outcome = .answered reply ∧ reply.decoded Json = .ok j ∧ memberLinks j = links

theorem Goes.of_members {r : Except Fault (List String)}
    (h : Goes (members target path) s xs r s') : s' = s ∧
      ((xs = [] ∧ ∃ f, r = .error f) ∨
        ∃ q outcome, Sent target s .get path q ∧ xs = [(q, outcome)] ∧
          ∀ links, r = .ok links → Lists outcome links) := by
  rcases goes_bind_iff.mp h with ⟨e, hget, rfl⟩ | ⟨j, m, ys, zs, rfl, hget, hrest⟩
  · obtain ⟨rfl, ⟨rfl, -⟩ | ⟨q, outcome, hq, rfl, -⟩⟩ := hget.of_getJson
    · exact ⟨rfl, .inl ⟨rfl, _, rfl⟩⟩
    · exact ⟨rfl, .inr ⟨q, outcome, hq, rfl, by rintro _ ⟨⟩⟩⟩
  · obtain ⟨rfl, rfl, rfl⟩ := goes_pure_iff.mp hrest
    obtain ⟨rfl, ⟨-, f, hr⟩ | ⟨q, outcome, hq, rfl, hshown⟩⟩ := hget.of_getJson
    · cases hr
    · obtain ⟨reply, hanswered, hdecoded⟩ := hshown j rfl
      refine ⟨rfl, .inr ⟨q, outcome, hq, rfl, fun links hlinks => ?_⟩⟩
      cases hlinks
      exact ⟨reply, j, hanswered, hdecoded, rfl⟩

/-! ## Acts that change nothing that is remembered -/

/-- Whatever is answered, the driver remembers no more and no less, and sends only such requests. -/
def Keeps (s : State) (P : Web.Request → Prop) (act : Act α) : Prop :=
  ∀ xs r s', Goes act s xs r s' → s' = s ∧ ∀ x ∈ xs, P x.1

namespace Keeps

variable {P : Web.Request → Prop}

theorem mk_pure (e : Except Fault α) : Keeps s P (ExceptT.mk (pure e)) := by
  intro xs r s' h
  obtain ⟨rfl, -, rfl⟩ := goes_mk_pure_iff.mp h
  exact ⟨rfl, by simp⟩

theorem pure (a : α) : Keeps s P (pure a) := .mk_pure (.ok a)

theorem throw (f : Fault) : Keeps s P (throw f : Act α) := .mk_pure (.error f)

theorem bind {act : Act α} {f : α → Act β} (h : Keeps s P act) (h' : ∀ a, Keeps s P (f a)) :
    Keeps s P (act >>= f) := by
  intro xs r s' hgoes
  rcases goes_bind_iff.mp hgoes with ⟨e, hact, -⟩ | ⟨a, m, ys, zs, rfl, hact, hrest⟩
  · exact h _ _ _ hact
  · obtain ⟨rfl, hys⟩ := h _ _ _ hact
    obtain ⟨rfl, hzs⟩ := h' a _ _ _ hrest
    exact ⟨rfl, fun x hx => (List.mem_append.mp hx).elim (hys x) (hzs x)⟩

theorem of_reads {act : Act α} {a : α} {f : α → Act β} (hact : Reads act s a)
    (h : Keeps s P (f a)) : Keeps s P (act >>= f) :=
  fun _ _ _ hgoes => h _ _ _ (hact.of_bind hgoes)

theorem attempt {act : Act α} (h : Keeps s P act) : Keeps s P (attempt act) := by
  intro xs r s' hgoes
  obtain ⟨r', hact, -⟩ := goes_attempt_iff.mp hgoes
  exact h _ _ _ hact

theorem send (hP : ∀ q, Sent target s method path q → P q) :
    Keeps s P (send target method path headers body) := by
  intro xs r s' h
  obtain ⟨rfl, ⟨rfl, -⟩ | ⟨q, outcome, hq, rfl, -⟩⟩ := h.of_send
  · exact ⟨rfl, by simp⟩
  · exact ⟨rfl, by simpa using hP q hq⟩

theorem getJson (hP : ∀ q, Sent target s .get path q → P q) : Keeps s P (getJson target path) :=
  .bind (.send hP) fun _ => .mk_pure _

theorem post (hP : ∀ q, Sent target s .post path q → P q) (j : Json) :
    Keeps s P (post target path j) :=
  .bind (.send hP) fun _ => .pure _

theorem patch (hP : ∀ q, Sent target s .patch path q → P q) (j : Json) :
    Keeps s P (patch target path j) :=
  .bind (.send hP) fun _ => .pure _

theorem members (hP : ∀ q, Sent target s .get path q → P q) : Keeps s P (members target path) :=
  .bind (.getJson hP) fun _ => .pure _

end Keeps

section Calls

variable {P : Web.Request → Prop}

/-- The path of the system, from what the driver remembers. -/
def systemIn (target : Target) (s : State) : String :=
  s.system.getD (target.options.redfish.systemPath.getD defaultSystem)

/-- The path of the manager, from what the driver remembers. -/
def managerIn (target : Target) (s : State) : String :=
  s.manager.getD (target.options.redfish.managerPath.getD defaultManager)

theorem reads_systemPath (target : Target) (s : State) :
    Reads (systemPath target) s (systemIn target s) :=
  fun _ _ _ => (goes_mk_pure_iff (e := .ok (systemIn target s))).mp

theorem reads_managerPath (target : Target) (s : State) :
    Reads (managerPath target) s (managerIn target s) :=
  fun _ _ _ => (goes_mk_pure_iff (e := .ok (managerIn target s))).mp

/-! ### Power, boot and inventory -/

theorem powerState_keeps (hP : ∀ q, Sent target s .get (systemIn target s) q → P q) :
    Keeps s P (powerState target) :=
  .of_reads (reads_systemPath target s) (.bind (.getJson hP) fun _ => .pure _)

theorem powerSet_keeps {action : PowerAction}
    (hP : action = .cycle → ∀ q, Sent target s .get (systemIn target s) q → P q)
    (hreset : ∀ q, Sent target s .post (systemIn target s ++ "/Actions/ComputerSystem.Reset") q →
      P q) : Keeps s P (powerSet target action) := by
  have horder : ∀ action : PowerAction, Keeps s P (systemPath target >>= fun path =>
      post target (path ++ "/Actions/ComputerSystem.Reset") (resetBody (resetType action))) :=
    fun action => .of_reads (reads_systemPath target s) (.post hreset _)
  unfold powerSet
  simp only
  split
  · exact .bind (powerState_keeps (hP ‹_›)) fun _ => .bind (.pure _) horder
  · exact .bind (.pure _) horder

theorem bootDeviceSet_keeps (hP : ∀ q, Sent target s .patch (systemIn target s) q → P q)
    (device : BootDevice) (options : BootOptions) :
    Keeps s P (bootDeviceSet target device options) :=
  .of_reads (reads_systemPath target s) (.patch hP _)

theorem inventory_keeps (hP : ∀ q, Sent target s .get (systemIn target s) q → P q) :
    Keeps s P (act target .inventory) :=
  .of_reads (reads_systemPath target s) (.getJson hP)

/-! ### Users, media and firmware -/

/-- Requests to wherever the driver likes, with the credentials of the moment. -/
def SentSomewhere (target : Target) (s : State) (q : Web.Request) : Prop :=
  ∃ method path, Sent target s method path q

theorem Sent.somewhere {q : Web.Request} (h : Sent target s method path q) :
    SentSomewhere target s q := ⟨_, _, h⟩

theorem usersAt_keeps (links : List String) :
    Keeps s (SentSomewhere target s) (usersAt target links) := by
  induction links with
  | nil => exact .pure _
  | cons link links ih =>
      exact .bind (.getJson fun _ => Sent.somewhere) fun _ => .bind ih fun _ => .pure _

theorem accountAmong_keeps (user : String) (links : List String) :
    Keeps s (SentSomewhere target s) (accountAmong target user links) := by
  induction links with
  | nil => exact .throw _
  | cons link links ih =>
      refine .bind (.getJson fun _ => Sent.somewhere) fun account => ?_
      split
      · exact .pure _
      · exact ih

theorem accountOf_keeps (user : String) :
    Keeps s (SentSomewhere target s) (accountOf target user) :=
  .bind (.members fun _ => Sent.somewhere) fun links => accountAmong_keeps user links

/-- The requests that are about one of these slots for media. -/
def ToSlot (target : Target) (s : State) (slots : List String) (q : Web.Request) : Prop :=
  ∃ slot ∈ slots, Sent target s .get slot q ∨
    Sent target s .post (slot ++ "/Actions/VirtualMedia.EjectMedia") q ∨
    Sent target s .post (slot ++ "/Actions/VirtualMedia.InsertMedia") q

theorem ToSlot.somewhere {slots : List String} {q : Web.Request} (h : ToSlot target s slots q) :
    SentSomewhere target s q := by
  obtain ⟨slot, -, h | h | h⟩ := h <;> exact h.somewhere

theorem insertInto_keeps (kind : MediaKind) (url : String) {all slots : List String}
    (hslots : ∀ slot ∈ slots, slot ∈ all) :
    Keeps s (ToSlot target s all) (insertInto target kind url slots) := by
  induction slots with
  | nil => exact .throw _
  | cons slot slots ih =>
      have hslot : slot ∈ all := hslots slot List.mem_cons_self
      refine .bind (.getJson fun q hq => ⟨slot, hslot, .inl hq⟩) fun media => ?_
      split
      · exact ih fun other h => hslots other (List.mem_cons_of_mem _ h)
      · split
        · exact .post (fun q hq => ⟨slot, hslot, .inr (.inl hq)⟩) _
        · exact .post (fun q hq => ⟨slot, hslot, .inr (.inr hq)⟩) _

theorem Goes.of_virtualMedia {kind : MediaKind} {url : String} {r : Except Fault Bool}
    (h : Goes (virtualMedia target kind url) s xs r s') : s' = s ∧ (xs = [] ∨
      ∃ q outcome ys, xs = (q, outcome) :: ys ∧
        Sent target s .get (managerIn target s ++ "/VirtualMedia") q ∧
        ∀ y ∈ ys, ∃ slots, Lists outcome slots ∧ ToSlot target s slots y.1) := by
  replace h := (reads_managerPath target s).of_bind h
  rcases goes_bind_iff.mp h with ⟨e, hmembers, -⟩ | ⟨slots, m, ys, zs, rfl, hmembers, hrest⟩
  · obtain ⟨rfl, ⟨rfl, -⟩ | ⟨q, outcome, hq, rfl, -⟩⟩ := hmembers.of_members
    · exact ⟨rfl, .inl rfl⟩
    · exact ⟨rfl, .inr ⟨q, outcome, [], rfl, hq, by simp⟩⟩
  · obtain ⟨rfl, ⟨rfl, f, hr⟩ | ⟨q, outcome, hq, rfl, hlists⟩⟩ := hmembers.of_members
    · cases hr
    · obtain ⟨rfl, hzs⟩ := insertInto_keeps kind url (fun _ => id) _ _ _ hrest
      exact ⟨rfl, .inr ⟨q, outcome, zs, rfl, hq, fun y hy => ⟨slots, hlists slots rfl, hzs y hy⟩⟩⟩

theorem firmwareInstall_keeps (component : String) (applyTime : Firmware.ApplyTime) (force : Bool)
    (image : Image) : Keeps s (SentSomewhere target s)
      (firmwareInstall target component applyTime force image) := by
  refine .bind (.getJson fun _ => Sent.somewhere) fun service => ?_
  split
  · exact .throw _
  · exact .bind (.send fun _ => Sent.somewhere) fun _ => .pure _

/-- **A call other than a reset of the controller** changes nothing that the driver remembers. -/
theorem act_keeps {c : Call} (hc : ∀ kind, c ≠ .bmcReset kind) :
    Keeps s (SentSomewhere target s) (act target c) := by
  cases c with
  | powerState => exact powerState_keeps fun _ => Sent.somewhere
  | powerSet action => exact powerSet_keeps (fun _ _ => Sent.somewhere) fun _ => Sent.somewhere
  | bootDeviceSet device options => exact bootDeviceSet_keeps (fun _ => Sent.somewhere) _ _
  | userCreate => exact .post (fun _ => Sent.somewhere) _
  | userUpdate user =>
      exact .bind (accountOf_keeps user) fun _ => .patch (fun _ => Sent.somewhere) _
  | userDelete user =>
      exact .bind (accountOf_keeps user) fun _ =>
        .bind (.send fun _ => Sent.somewhere) fun _ => .pure _
  | users => exact .bind (.members fun _ => Sent.somewhere) fun links => usersAt_keeps links
  | bmcReset kind => exact absurd rfl (hc kind)
  | virtualMedia kind url =>
      refine .of_reads (reads_managerPath target s) (.bind (.members fun _ => Sent.somewhere) ?_)
      intro slots xs r s' h
      obtain ⟨rfl, hxs⟩ := insertInto_keeps kind url (fun _ => id) _ _ _ h
      exact ⟨rfl, fun x hx => (hxs x hx).somewhere⟩
  | firmwareInstall component applyTime force image =>
      exact firmwareInstall_keeps component applyTime force image
  | firmwareTaskStatus => exact .bind (.getJson fun _ => Sent.somewhere) fun _ => .pure _
  | firmwareInstallSteps => exact .pure _
  | inventory => exact inventory_keeps fun _ => Sent.somewhere
  | _ => exact .throw _

theorem probe_keeps : Keeps s (SentSomewhere target s) (probe target) := by
  refine .bind (.attempt (.getJson fun _ => Sent.somewhere)) fun answer => ?_
  cases answer <;> exact .pure _

end Calls

/-! ## Acts that change what is remembered -/

theorem Goes.of_bmcReset {kind : ResetKind} {r : Except Fault Bool}
    (h : Goes (bmcReset target kind) s xs r s') :
    (∀ x ∈ xs, Sent target s .post (managerIn target s ++ "/Actions/Manager.Reset") x.1) ∧
      ((r.isOk = true ∧ s' = { s with session := none }) ∨ (r.isOk = false ∧ s' = s)) := by
  replace h := (reads_managerPath target s).of_bind h
  rcases goes_bind_iff.mp h with ⟨e, hpost, rfl⟩ | ⟨done, m, ys, zs, rfl, hpost, hrest⟩
  · obtain ⟨rfl, hxs⟩ := Keeps.post (fun _ h => h) _ _ _ _ hpost
    exact ⟨hxs, .inr ⟨rfl, rfl⟩⟩
  · obtain ⟨rfl, hys⟩ := Keeps.post (fun _ h => h) _ _ _ _ hpost
    rcases goes_bind_iff.mp hrest with ⟨e, hmodify, -⟩ | ⟨_, m', us, vs, rfl, hmodify, hpure⟩
    · cases (goes_modify_iff.mp hmodify).2.1
    · obtain ⟨rfl, -, rfl⟩ := goes_modify_iff.mp hmodify
      obtain ⟨rfl, rfl, rfl⟩ := goes_pure_iff.mp hpure
      refine ⟨fun x hx => hys x ?_, .inl ⟨rfl, rfl⟩⟩
      simpa using hx

theorem Goes.of_closeSession {r : Except Fault Unit} (h : Goes (closeSession target) s xs r s') :
    (∀ x ∈ xs, x.1.credentials = credentials target s) ∧ s' = { s with session := none } := by
  replace h := (reads_get s).of_bind h
  rcases goes_bind_iff.mp h with ⟨e, hmodify, -⟩ | ⟨_, m, ys, zs, rfl, hmodify, hrest⟩
  · cases (goes_modify_iff.mp hmodify).2.1
  obtain ⟨rfl, -, rfl⟩ := goes_modify_iff.mp hmodify
  rw [List.nil_append]
  cases hsession : s.session with
  | none =>
      rw [hsession] at hrest
      obtain ⟨rfl, -, rfl⟩ := goes_pure_iff.mp hrest
      exact ⟨by simp, rfl⟩
  | some session =>
      obtain ⟨token, _ | location⟩ := session
      · rw [hsession] at hrest
        obtain ⟨rfl, -, rfl⟩ := goes_pure_iff.mp hrest
        exact ⟨by simp, rfl⟩
      · rw [hsession] at hrest
        have hcredentials : credentials target s = .token token := by rw [credentials, hsession]
        rw [hcredentials]
        rcases goes_bind_iff.mp hrest with ⟨e, hask, -⟩ | ⟨_, m, us, vs, rfl, hask, hpure⟩
        · obtain ⟨rfl, ⟨rfl, -⟩ | ⟨u, outcome, -, rfl, -⟩⟩ := hask.of_ask
          · exact ⟨by simp, rfl⟩
          · exact ⟨by simp, rfl⟩
        · obtain ⟨rfl, -, rfl⟩ := goes_pure_iff.mp hpure
          obtain ⟨rfl, ⟨-, f, hr⟩ | ⟨u, outcome, -, rfl, -⟩⟩ := hask.of_ask
          · cases hr
          · exact ⟨by simp, rfl⟩

/-! ### Logging in -/

/-- The session that a login opens, from what became of its request. -/
def issued : Web.Outcome → Option Session
  | .answered reply => if reply.isSuccess then sessionOf reply else none
  | _ => none

/-- **A login** asks once, without credentials. It fails and changes nothing, or the session that is
remembered from then on is the one that was issued, or else the one before. -/
theorem Goes.of_login {r : Except Fault Unit} (h : Goes (login target) s xs r s') :
    (∀ x ∈ xs, LeadsTo target .post sessionsPath x.1 ∧ x.1.credentials = .none) ∧
      ((r.isOk = false ∧ s' = s) ∨
        ∃ q outcome, r = .ok () ∧ xs = [(q, outcome)] ∧
          s' = { s with session := (issued outcome).or s.session }) := by
  rcases goes_bind_iff.mp h with ⟨e, hask, rfl⟩ | ⟨⟨u, reply⟩, m, ys, zs, rfl, hask, hrest⟩
  · obtain ⟨rfl, ⟨rfl, -⟩ | ⟨u, outcome, hurl, rfl, -⟩⟩ := hask.of_ask
    · exact ⟨by simp, .inl ⟨rfl, rfl⟩⟩
    · refine ⟨fun x hx => ?_, .inl ⟨rfl, rfl⟩⟩
      obtain rfl := List.mem_singleton.mp hx
      exact ⟨⟨rfl, hurl⟩, rfl⟩
  · obtain ⟨rfl, ⟨-, f, hr⟩ | ⟨u, outcome, hurl, rfl, hr⟩⟩ := hask.of_ask
    · cases hr
    have hanswered : outcome = .answered reply := by
      cases outcome <;> cases hr
      rfl
    subst hanswered
    -- What follows the reply asks nothing more.
    have hrest : zs = [] ∧ ((r.isOk = false ∧ s' = m) ∨
        (r = .ok () ∧ s' = { m with session := (issued (.answered reply)).or m.session })) := by
      simp only at hrest
      split at hrest
      · obtain ⟨rfl, rfl, rfl⟩ := goes_throw_iff.mp hrest
        exact ⟨rfl, .inl ⟨rfl, rfl⟩⟩
      · split at hrest
        · cases hsession : sessionOf reply with
          | some session =>
              rw [hsession] at hrest
              obtain ⟨rfl, rfl, rfl⟩ := goes_modify_iff.mp hrest
              exact ⟨rfl, .inr ⟨rfl, by simp [issued, *]⟩⟩
          | none =>
              rw [hsession] at hrest
              obtain ⟨rfl, rfl, rfl⟩ := goes_pure_iff.mp hrest
              exact ⟨rfl, .inr ⟨rfl, by simp [issued, hsession]⟩⟩
        · obtain ⟨rfl, rfl, rfl⟩ := goes_pure_iff.mp hrest
          exact ⟨rfl, .inr ⟨rfl, by simp [issued, *]⟩⟩
    obtain ⟨rfl, hend⟩ := hrest
    rw [List.append_nil]
    refine ⟨fun x hx => ?_, hend.imp_right (fun h => ⟨_, _, h.1, rfl, h.2⟩)⟩
    obtain rfl := List.mem_singleton.mp hx
    exact ⟨⟨rfl, hurl⟩, rfl⟩

/-! ### Finding out what there is -/

/-- This exchange says of a link that it is the first member of a collection. -/
def NamesFirst (target : Target) (collection : String) (x : Exchange) (link : String) : Prop :=
  LeadsTo target .get collection x.1 ∧ ∃ links, Lists x.2 links ∧ links.head? = some link

theorem Goes.of_firstMember {r : Except Fault (Option String)}
    (h : Goes (firstMember target path) s xs r s') : s' = s ∧
      (∀ x ∈ xs, x.1.credentials = credentials target s) ∧
        ∃ first, r = .ok first ∧
          ∀ link, first = some link → ∃ x ∈ xs, NamesFirst target path x link := by
  have hread : ∀ {ys : List Exchange} {r' : Except Fault (List String)} {m : State},
      Goes (members target path) s ys r' m → m = s ∧
        (∀ x ∈ ys, x.1.credentials = credentials target s) ∧
        ∀ links, r' = .ok links → ∀ link, links.head? = some link →
          ∃ x ∈ ys, NamesFirst target path x link := by
    intro ys r' m hmembers
    obtain ⟨rfl, ⟨rfl, f, rfl⟩ | ⟨q, outcome, hq, rfl, hlists⟩⟩ := hmembers.of_members
    · exact ⟨rfl, by simp, by rintro _ ⟨⟩⟩
    · refine ⟨rfl, by simpa using hq.credentials, fun links hr link hlink => ?_⟩
      exact ⟨_, List.mem_singleton_self _, hq.toLeadsTo, links, hlists links hr, hlink⟩
  rcases goes_bind_iff.mp h with ⟨e, hattempt, -⟩ | ⟨r', m, ys, zs, rfl, hattempt, hrest⟩
  · obtain ⟨r', -, hr⟩ := goes_attempt_iff.mp hattempt
    cases hr
  · obtain ⟨_, hmembers, hr⟩ := goes_attempt_iff.mp hattempt
    cases hr
    obtain ⟨rfl, hcredentials, hlinks⟩ := hread hmembers
    cases r' with
    | ok links =>
        obtain ⟨rfl, rfl, rfl⟩ := goes_pure_iff.mp hrest
        rw [List.append_nil]
        exact ⟨rfl, hcredentials, _, rfl, hlinks links rfl⟩
    | error f =>
        obtain ⟨rfl, rfl, rfl⟩ := goes_pure_iff.mp hrest
        rw [List.append_nil]
        exact ⟨rfl, hcredentials, _, rfl, by simp⟩

/-- **Discovery** cannot fail. A system or a manager that it finds takes the place of the one that
is remembered. -/
theorem Goes.of_discover {r : Except Fault Unit} (h : Goes (discover target) s xs r s') :
    (∀ x ∈ xs, x.1.credentials = credentials target s) ∧ r = .ok () ∧ s'.session = s.session ∧
      (∀ link, s'.system = some link → s.system = some link ∨
        ∃ x ∈ xs, NamesFirst target systemsPath x link) ∧
      (∀ link, s'.manager = some link → s.manager = some link ∨
        ∃ x ∈ xs, NamesFirst target managersPath x link) := by
  rcases goes_bind_iff.mp h with ⟨e, hfirst, -⟩ | ⟨system, m, ys, zs, rfl, hfirst, hrest⟩
  · obtain ⟨-, -, first, hr, -⟩ := hfirst.of_firstMember
    cases hr
  obtain ⟨rfl, hys, _, hr, hsystem⟩ := hfirst.of_firstMember
  cases hr
  rcases goes_bind_iff.mp hrest with ⟨e, hfirst, -⟩ | ⟨manager, m, us, vs, rfl, hfirst, hmodify⟩
  · obtain ⟨-, -, first, hr, -⟩ := hfirst.of_firstMember
    cases hr
  obtain ⟨rfl, hus, _, hr, hmanager⟩ := hfirst.of_firstMember
  cases hr
  obtain ⟨rfl, rfl, rfl⟩ := goes_modify_iff.mp hmodify
  rw [List.append_nil]
  refine ⟨fun x hx => (List.mem_append.mp hx).elim (hys x) (hus x), rfl, rfl, fun link h => ?_,
    fun link h => ?_⟩
  · rcases Option.or_eq_some_iff.mp h with h | ⟨-, h⟩
    · obtain ⟨x, hx, hnames⟩ := hsystem link h
      exact .inr ⟨x, List.mem_append_left _ hx, hnames⟩
    · exact .inl h
  · rcases Option.or_eq_some_iff.mp h with h | ⟨-, h⟩
    · obtain ⟨x, hx, hnames⟩ := hmanager link h
      exact .inr ⟨x, List.mem_append_right _ hx, hnames⟩
    · exact .inl h

theorem credentials_congr (h : s.session = s'.session) :
    credentials target s = credentials target s' := by
  rw [credentials, credentials, h]

/-- **Opening the session** fails and changes nothing; or there was one answer to the login, and all
that is asked after it shows the credentials that are then remembered. -/
theorem Goes.of_openSession {r : Except Fault Unit} (h : Goes (openSession target) s xs r s') :
    (r.isOk = false ∧ s' = s ∧ ∀ x ∈ xs, x.1.credentials = .none) ∨
      ∃ q outcome ys, r = .ok () ∧ xs = (q, outcome) :: ys ∧
        LeadsTo target .post sessionsPath q ∧ q.credentials = .none ∧
        s'.session = (issued outcome).or s.session ∧
        (∀ y ∈ ys, y.1.credentials = credentials target s') ∧
        (∀ link, s'.system = some link → s.system = some link ∨
          mustDiscover target = true ∧ ∃ x ∈ ys, NamesFirst target systemsPath x link) ∧
        (∀ link, s'.manager = some link → s.manager = some link ∨
          mustDiscover target = true ∧ ∃ x ∈ ys, NamesFirst target managersPath x link) := by
  rcases goes_bind_iff.mp h with ⟨e, hlogin, rfl⟩ | ⟨_, m, ys, zs, rfl, hlogin, hrest⟩
  · obtain ⟨hxs, ⟨-, rfl⟩ | ⟨q, outcome, hr, -⟩⟩ := hlogin.of_login
    · exact .inl ⟨rfl, rfl, fun x hx => (hxs x hx).2⟩
    · cases hr
  · obtain ⟨hys, ⟨hr, -⟩ | ⟨q, outcome, -, rfl, rfl⟩⟩ := hlogin.of_login
    · cases hr
    obtain ⟨hq, hcredentials⟩ := hys _ (List.mem_singleton_self _)
    right
    split at hrest
    · obtain ⟨hzs, rfl, hsession, hsystem, hmanager⟩ := hrest.of_discover
      refine ⟨q, outcome, zs, rfl, rfl, hq, hcredentials, hsession, fun y hy => ?_,
        fun link hlink => (hsystem link hlink).imp_right (⟨‹_›, ·⟩),
        fun link hlink => (hmanager link hlink).imp_right (⟨‹_›, ·⟩)⟩
      rw [hzs y hy, credentials_congr hsession]
    · obtain ⟨rfl, rfl, rfl⟩ := goes_pure_iff.mp hrest
      exact ⟨q, outcome, [], rfl, rfl, hq, hcredentials, rfl, by simp, fun _ => .inl, fun _ => .inl⟩

end OutOfBand.Redfish
