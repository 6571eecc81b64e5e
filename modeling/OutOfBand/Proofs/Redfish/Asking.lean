import OutOfBand.Proofs.Redfish.Requests

/-!
# What a call asks, one request after another

A call to the Redfish driver reads first and then changes at most one thing. Each request of a call
is due after what was said before it (`Due`): all that was asked earlier was a read that succeeded,
the request shows the credentials of the moment, and its path is one of the driver's own or comes
from a link that the driver was given. A request that fails is what the call fails with. All this is
told act by act (`Asks`), and comes together in one account of every call (`Goes.asked`).
-/

namespace OutOfBand

/-- Whether a call only asks for something, and so orders nothing to be changed. -/
def Call.onlyReads : Call → Bool
  | .powerState | .users | .inventory | .firmwareTaskStatus .. | .firmwareInstallSteps ..
  | .firmwareInstallStatus .. | .screenshot | .eventLog | .sensors => true
  | _ => false

namespace Redfish

variable {α β : Type} {target : Target} {s s' : State} {method : Web.Method} {path : String}
  {headers : List Web.Header} {body : Web.Body}

/-! ## Rows of exchanges -/

section Each

variable {X : Type} {P : List X → X → Prop} {log xs ys : List X}

/-- Each of a row is as it has to be after all that came before it, first of all `log`. -/
def Each (P : List X → X → Prop) (log xs : List X) : Prop :=
  ∀ ys x zs, xs = ys ++ x :: zs → P (log ++ ys) x

theorem Each.nil : Each P log [] := fun _ _ _ h => by simp at h

theorem each_append_iff :
    Each P log (xs ++ ys) ↔ Each P log xs ∧ Each P (log ++ xs) ys := by
  constructor
  · refine fun h => ⟨fun us x vs hxs => h us x (vs ++ ys) (by simp [hxs]), fun us x vs hys => ?_⟩
    rw [List.append_assoc]
    exact h (xs ++ us) x vs (by simp [hys])
  · rintro ⟨hxs, hys⟩ us x vs h
    rcases List.append_eq_append_iff.mp h with ⟨as, rfl, has⟩ | ⟨bs, rfl, hbs⟩
    · rw [← List.append_assoc]
      exact hys as x vs has
    · cases bs with
      | nil => simpa using hys [] x vs hbs.symm
      | cons b bs =>
          obtain ⟨rfl, -⟩ := List.cons_eq_cons.mp hbs
          exact hxs us x bs rfl

theorem each_singleton_iff {x : X} : Each P log [x] ↔ P log x := by
  constructor
  · intro h
    simpa using h [] x [] rfl
  · intro h us y vs hxs
    obtain ⟨rfl, rfl, -⟩ : us = [] ∧ x = y ∧ vs = [] := by
      cases us <;> simp_all
    simpa using h

/-- What holds of each of a row whatever came before it. -/
theorem Each.of_mem (h : Each P log xs) {x : X} (hx : x ∈ xs) : ∃ before, P before x := by
  obtain ⟨ys, zs, hxs⟩ := List.append_of_mem hx
  exact ⟨_, h ys x zs hxs⟩

end Each

variable {xs log : List Exchange}

/-! ## Single requests -/

/-- What the driver makes of an exchange: the reply, if it says that the request was a success. -/
def heard (s : State) (x : Exchange) : Except Fault Web.Reply :=
  (Web.replyOf x.1.url x.2).bind (accepted s x.1.url)

/-- The request was a success. -/
def Succeeded (x : Exchange) : Prop :=
  ∃ reply, x.2 = .answered reply ∧ reply.isSuccess = true

/-- The request was answered with this resource. -/
def Shows (x : Exchange) (j : Json) : Prop :=
  ∃ reply, x.2 = .answered reply ∧ reply.decoded Json = .ok j

theorem heard_eq_ok_iff {x : Exchange} {reply : Web.Reply} :
    heard s x = .ok reply ↔ x.2 = .answered reply ∧ reply.isSuccess = true := by
  obtain ⟨q, outcome⟩ := x
  cases outcome with
  | answered answer =>
      show accepted s q.url answer = .ok reply ↔ _
      unfold accepted
      split
      · -- A reply of this status is no success.
        rename_i hstatus
        constructor
        · rintro ⟨⟩
        · rintro ⟨⟨⟩, hsuccess⟩
          simp [Web.Reply.isSuccess, hstatus] at hsuccess
      · cases hsuccess : answer.isSuccess <;> simp [*]
        · rintro rfl
          exact hsuccess
        · rintro rfl
          exact hsuccess
  | _ => simp [heard, Web.replyOf, Except.bind]

theorem succeeded_of_heard {x : Exchange} {reply : Web.Reply} (h : heard s x = .ok reply) :
    Succeeded x := ⟨reply, heard_eq_ok_iff.mp h⟩

/-- Why a request was not accepted whose credentials were not. -/
def refusal (s : State) (detail : String) : Fault :=
  if s.session.isSome then .sessionExpired detail else .authenticationFailed detail

theorem heard_of_unauthorized {x : Exchange} {reply : Web.Reply} (h : x.2 = .answered reply)
    (hstatus : reply.status = 401) :
    heard s x = .error (refusal s s!"401 from {x.1.url.path}") := by
  obtain ⟨q, outcome⟩ := x
  cases h
  show accepted s q.url reply = _
  simp [accepted, hstatus, refusal]

/-- All that comes of a request, if it can be made at all. -/
theorem Goes.heard_of_send {r : Except Fault Web.Reply}
    (h : Goes (send target method path headers body) s xs r s') : s' = s ∧
      ((∃ f, Web.usableUrl (urlOf target path) headers = .error f ∧ xs = [] ∧ r = .error f) ∨
        ∃ u outcome, Web.usableUrl (urlOf target path) headers = .ok u ∧
          xs = [(⟨method, u, credentials target s, headers, body⟩, outcome)] ∧
          r = heard s (⟨method, u, credentials target s, headers, body⟩, outcome)) := by
  unfold send at h
  replace h := (reads_get s).of_bind h
  rcases goes_bind_iff.mp h with ⟨e, hask, rfl⟩ | ⟨⟨u, reply⟩, m, ys, zs, rfl, hask, hrest⟩
  · obtain ⟨rfl, ⟨f, hurl, rfl, hr⟩ | ⟨u, outcome, hurl, rfl, hr⟩⟩ := goes_ask_iff.mp hask
    · cases hr
      exact ⟨rfl, .inl ⟨e, hurl, rfl, rfl⟩⟩
    · refine ⟨rfl, .inr ⟨u, outcome, hurl, rfl, ?_⟩⟩
      cases outcome <;> cases hr <;> rfl
  · obtain ⟨rfl, ⟨f, -, -, hr⟩ | ⟨u', outcome, hurl, rfl, hr⟩⟩ := goes_ask_iff.mp hask
    · cases hr
    · obtain ⟨rfl, rfl, rfl⟩ := goes_mk_pure_iff.mp hrest
      refine ⟨rfl, .inr ⟨u', outcome, hurl, rfl, ?_⟩⟩
      cases outcome <;> cases hr
      rfl

/-- All that comes of reading a resource. -/
theorem Goes.heard_of_getJson {r : Except Fault Json} (h : Goes (getJson target path) s xs r s') :
    s' = s ∧ ((∃ f, Web.usableUrl (urlOf target path) [] = .error f ∧ xs = [] ∧ r = .error f) ∨
      ∃ u outcome, Web.usableUrl (urlOf target path) [] = .ok u ∧
        xs = [(⟨.get, u, credentials target s, [], .none⟩, outcome)] ∧
        r = (heard s (⟨.get, u, credentials target s, [], .none⟩, outcome)).bind
          fun reply => reply.decoded Json) := by
  rcases goes_bind_iff.mp h with ⟨e, hsend, rfl⟩ | ⟨reply, m, ys, zs, rfl, hsend, hdecode⟩
  · obtain ⟨rfl, ⟨f, hurl, rfl, hr⟩ | ⟨u, outcome, hurl, rfl, hr⟩⟩ := hsend.heard_of_send
    · cases hr
      exact ⟨rfl, .inl ⟨e, hurl, rfl, rfl⟩⟩
    · refine ⟨rfl, .inr ⟨u, outcome, hurl, rfl, ?_⟩⟩
      rw [← hr]
      rfl
  · obtain ⟨rfl, rfl, rfl⟩ := goes_mk_pure_iff.mp hdecode
    obtain ⟨rfl, ⟨f, -, -, hr⟩ | ⟨u, outcome, hurl, rfl, hr⟩⟩ := hsend.heard_of_send
    · cases hr
    · refine ⟨rfl, .inr ⟨u, outcome, hurl, rfl, ?_⟩⟩
      rw [← hr]
      rfl

/-! ## Where paths come from -/

/-- The exchange gives a link: to a member of a collection, to where images are pushed, or to what
was made. -/
def Gives (x : Exchange) (link : String) : Prop :=
  (∃ j, Shows x j ∧ (link ∈ memberLinks j ∨ (j.get "MultipartHttpPushUri").str? = some link)) ∨
    ∃ reply, x.2 = .answered reply ∧ reply.header? "Location" = some link

/-- What the driver puts after a link. -/
def endings : List String :=
  ["", "/VirtualMedia", "/Actions/ComputerSystem.Reset", "/Actions/Manager.Reset",
    "/Actions/VirtualMedia.EjectMedia", "/Actions/VirtualMedia.InsertMedia"]

/-- The paths that the driver makes: those below the root of the service, and those from a link that
was known before or is given by what was said. -/
inductive Made (known : String → Prop) (log : List Exchange) : String → Prop
  | own (rest : String) : Made known log (serviceRoot ++ rest)
  | link {link ending : String} : (known link ∨ ∃ x ∈ log, Gives x link) → ending ∈ endings →
      Made known log (link ++ ending)

/-- All links of which the driver can know before a call are among the known ones. -/
def Covers (known : String → Prop) (target : Target) (s : State) : Prop :=
  ∀ link, s.system = some link ∨ s.manager = some link ∨
    target.options.redfish.systemPath = some link ∨
    target.options.redfish.managerPath = some link → known link

variable {known : String → Prop} {ending : String}

theorem Made.plain {link : String} (h : known link ∨ ∃ x ∈ log, Gives x link) :
    Made known log link := by
  rw [← String.append_empty (s := link)]
  exact .link h (by simp [endings])

theorem Covers.made_system (h : Covers known target s) (hending : ending ∈ endings) :
    Made known log (systemIn target s ++ ending) := by
  unfold systemIn
  cases hfound : s.system with
  | some link => exact .link (.inl (h link (.inl hfound))) hending
  | none =>
      cases hconfigured : target.options.redfish.systemPath with
      | some link => exact .link (.inl (h link (.inr (.inr (.inl hconfigured))))) hending
      | none =>
          show Made known log (serviceRoot ++ "/Systems/1" ++ ending)
          rw [String.append_assoc]
          exact .own _

theorem Covers.made_manager (h : Covers known target s) (hending : ending ∈ endings) :
    Made known log (managerIn target s ++ ending) := by
  unfold managerIn
  cases hfound : s.manager with
  | some link => exact .link (.inl (h link (.inr (.inl hfound)))) hending
  | none =>
      cases hconfigured : target.options.redfish.managerPath with
      | some link => exact .link (.inl (h link (.inr (.inr (.inr hconfigured))))) hending
      | none =>
          show Made known log (serviceRoot ++ "/Managers/1" ++ ending)
          rw [String.append_assoc]
          exact .own _

/-! ## Acts that ask what is due -/

/-- Nothing but reads were asked, and each of them was answered with a resource. -/
def AllRead (log : List Exchange) : Prop :=
  ∀ y ∈ log, y.1.method = .get ∧ Succeeded y ∧ ∃ j, Shows y j

/-- A request is due after what was said before it in its call. -/
structure Due (target : Target) (s : State) (known : String → Prop) (mayChange : Bool)
    (log : List Exchange) (x : Exchange) : Prop where
  earlier : AllRead log
  method : x.1.method = .get ∨ mayChange = true
  credentials : x.1.credentials = credentials target s
  path : ∃ path, Made known log path ∧
    Web.usableUrl (urlOf target path) x.1.headers = .ok x.1.url

/-- After what was said already in its call, an act asks only what has to be asked then. It changes
nothing that is remembered, and fails with the fault of any request that fails; its answer, and all
that was said, satisfy `Q`. -/
def Asks (P : List Exchange → Exchange → Prop) (s : State) (log : List Exchange) (act : Act α)
    (Q : α → List Exchange → Prop) : Prop :=
  ∀ xs r s', Goes act s xs r s' → s' = s ∧ Each P log xs ∧
    (∀ x ∈ xs, ∀ f, heard s x = .error f → r = .error f) ∧ ∀ a, r = .ok a → Q a (log ++ xs)

namespace Asks

variable {P : List Exchange → Exchange → Prop} {Q : α → List Exchange → Prop}
  {R : β → List Exchange → Prop}

theorem mk_pure {e : Except Fault α} (h : ∀ a, e = .ok a → Q a log) :
    Asks P s log (ExceptT.mk (pure e)) Q := by
  intro xs r s' hgoes
  obtain ⟨rfl, rfl, rfl⟩ := goes_mk_pure_iff.mp hgoes
  exact ⟨rfl, .nil, by simp, by simpa using h⟩

theorem pure {a : α} (h : Q a log) : Asks P s log (pure a) Q :=
  .mk_pure (e := .ok a) (by rintro _ ⟨⟩; exact h)

theorem throw (f : Fault) : Asks P s log (throw f) Q := .mk_pure (e := .error f) (by rintro _ ⟨⟩)

theorem weaken {act : Act α} {Q' : α → List Exchange → Prop} (h : Asks P s log act Q)
    (himp : ∀ a said, Q a said → Q' a said) : Asks P s log act Q' := by
  intro xs r s' hgoes
  obtain ⟨hs, heach, hfault, hQ⟩ := h _ _ _ hgoes
  exact ⟨hs, heach, hfault, fun a ha => himp _ _ (hQ a ha)⟩

theorem bind {act : Act α} {f : α → Act β} (h : Asks P s log act Q)
    (h' : ∀ a ys, Q a (log ++ ys) → Asks P s (log ++ ys) (f a) R) :
    Asks P s log (act >>= f) R := by
  intro xs r s' hgoes
  rcases goes_bind_iff.mp hgoes with ⟨e, hact, rfl⟩ | ⟨a, m, ys, zs, rfl, hact, hrest⟩
  · obtain ⟨rfl, heach, hfault, -⟩ := h _ _ _ hact
    exact ⟨rfl, heach, fun x hx f hf => by cases hfault x hx f hf; rfl, by rintro _ ⟨⟩⟩
  · obtain ⟨rfl, hys, hfault, ha⟩ := h _ _ _ hact
    obtain ⟨rfl, hzs, hfault', hQ⟩ := h' a ys (ha a rfl) _ _ _ hrest
    refine ⟨rfl, each_append_iff.mpr ⟨hys, hzs⟩, fun x hx f hf => ?_, fun b hb => ?_⟩
    · rcases List.mem_append.mp hx with hx | hx
      · cases hfault x hx f hf
      · exact hfault' x hx f hf
    · rw [← List.append_assoc]
      exact hQ b hb

theorem of_reads {act : Act α} {a : α} {f : α → Act β} (hact : Reads act s a)
    (h : Asks P s log (f a) R) : Asks P s log (act >>= f) R :=
  fun _ _ _ hgoes => h _ _ _ (hact.of_bind hgoes)

end Asks

section Calls

variable {mayChange : Bool}

theorem send_asks (hlog : AllRead log) (hmethod : method = .get ∨ mayChange = true)
    (hpath : Made known log path) :
    Asks (Due target s known mayChange) s log (send target method path headers body)
      fun reply said => ∃ x, said = log ++ [x] ∧ x.1.method = method ∧
        x.2 = .answered reply ∧ reply.isSuccess = true := by
  intro xs r s' h
  obtain ⟨rfl, ⟨f, -, rfl, rfl⟩ | ⟨u, outcome, hurl, rfl, rfl⟩⟩ := h.heard_of_send
  · exact ⟨rfl, .nil, by simp, by rintro _ ⟨⟩⟩
  · refine ⟨rfl, each_singleton_iff.mpr ⟨hlog, hmethod, rfl, path, hpath, hurl⟩, by simp,
      fun reply hok => ?_⟩
    exact ⟨_, rfl, rfl, heard_eq_ok_iff.mp hok⟩

/-! ### Reads -/

theorem getJson_asks (hlog : AllRead log) (hpath : Made known log path) :
    Asks (Due target s known mayChange) s log (getJson target path)
      fun j said => AllRead said ∧ ∃ x ∈ said, Shows x j := by
  -- Reads and decodes, so what follows the reply asks nothing.
  refine .bind (send_asks hlog (.inl rfl) hpath) fun reply ys hreply => .mk_pure fun j hj => ?_
  obtain ⟨x, hsaid, hmethod, hanswered, hsuccess⟩ := hreply
  rw [hsaid]
  refine ⟨fun y hy => ?_, x, by simp, reply, hanswered, hj⟩
  rcases List.mem_append.mp hy with hy | hy
  · exact hlog y hy
  · obtain rfl := List.mem_singleton.mp hy
    exact ⟨hmethod, ⟨reply, hanswered, hsuccess⟩, j, reply, hanswered, hj⟩

/-- All of these links were known before or are given by what was said. -/
def AllGiven (known : String → Prop) (log : List Exchange) (links : List String) : Prop :=
  ∀ link ∈ links, known link ∨ ∃ x ∈ log, Gives x link

theorem AllGiven.more {links : List String} (h : AllGiven known log links)
    (ys : List Exchange) : AllGiven known (log ++ ys) links := fun link hlink =>
  (h link hlink).imp_right fun ⟨x, hx, hgives⟩ => ⟨x, List.mem_append_left _ hx, hgives⟩

theorem members_asks (hlog : AllRead log) (hpath : Made known log path) :
    Asks (Due target s known mayChange) s log (members target path)
      fun links said => AllRead said ∧ AllGiven known said links := by
  refine .bind (getJson_asks hlog hpath) fun j ys hj => .pure ⟨hj.1, fun link hlink => .inr ?_⟩
  obtain ⟨x, hx, hshows⟩ := hj.2
  exact ⟨x, hx, .inl ⟨j, hshows, .inl hlink⟩⟩

theorem powerState_asks (hknown : Covers known target s) (hlog : AllRead log) :
    Asks (Due target s known mayChange) s log (powerState target) fun _ said => AllRead said := by
  refine .of_reads (reads_systemPath target s) (.bind (getJson_asks hlog ?_) fun _ _ h => .pure h.1)
  rw [← String.append_empty (s := systemIn target s)]
  exact hknown.made_system (by simp [endings])

theorem usersAt_asks {links : List String} (hlog : AllRead log)
    (hlinks : AllGiven known log links) :
    Asks (Due target s known mayChange) s log (usersAt target links)
      fun _ _ => True := by
  induction links generalizing log with
  | nil => exact .pure trivial
  | cons link links ih =>
      refine .bind (getJson_asks hlog (.plain (hlinks link List.mem_cons_self)))
        fun _ ys h => .bind (ih h.1 fun other hother => ?_) fun _ _ _ => .pure trivial
      exact hlinks.more ys other (List.mem_cons_of_mem _ hother)

theorem accountAmong_asks (user : String) {links : List String} (hlog : AllRead log)
    (hlinks : AllGiven known log links) :
    Asks (Due target s known mayChange) s log (accountAmong target user links)
      fun link said => AllRead said ∧ Made known said link := by
  induction links generalizing log with
  | nil => exact .throw _
  | cons link links ih =>
      refine .bind (getJson_asks hlog (.plain (hlinks link List.mem_cons_self))) ?_
      intro account ys h
      have hlinks' := hlinks.more ys
      split
      · exact .pure ⟨h.1, .plain (hlinks' link List.mem_cons_self)⟩
      · exact ih h.1 fun other hother => hlinks' other (List.mem_cons_of_mem _ hother)

theorem accountOf_asks (user : String) :
    Asks (Due target s known mayChange) s [] (accountOf target user)
      fun link said => AllRead said ∧ Made known said link :=
  .bind (members_asks (by rintro _ ⟨⟩) (.own "/AccountService/Accounts"))
    fun _ _ h => accountAmong_asks user h.1 h.2

/-! ### Changes -/

theorem change_asks {f : Web.Reply → α} (hlog : AllRead log) (hpath : Made known log path) :
    Asks (Due target s known true) s log (send target method path headers body >>= fun reply =>
      Pure.pure (f reply)) fun _ _ => True :=
  .bind (send_asks hlog (.inr rfl) hpath) fun _ _ _ => .pure trivial

theorem insertInto_asks (kind : MediaKind) (url : String) {slots : List String}
    (hlog : AllRead log) (hslots : AllGiven known log slots) :
    Asks (Due target s known true) s log (insertInto target kind url slots) fun _ _ => True := by
  induction slots generalizing log with
  | nil => exact .throw _
  | cons slot slots ih =>
      refine .bind (getJson_asks hlog (.plain (hslots slot List.mem_cons_self))) ?_
      intro media ys h
      have hslots' := hslots.more ys
      split
      · exact ih h.1 fun other hother => hslots' other (List.mem_cons_of_mem _ hother)
      · split
        · exact change_asks h.1 (.link (hslots' slot List.mem_cons_self) (by simp [endings]))
        · exact change_asks h.1 (.link (hslots' slot List.mem_cons_self) (by simp [endings]))

theorem firmwareInstall_asks (component : String) (applyTime : Firmware.ApplyTime) (force : Bool)
    (image : Image) : Asks (Due target s known true) s []
      (firmwareInstall target component applyTime force image) fun _ _ => True := by
  refine .bind (getJson_asks (by rintro _ ⟨⟩) (.own "/UpdateService")) fun service ys h => ?_
  obtain ⟨hread, x, hx, hshows⟩ := h
  split
  · exact .throw _
  · rename_i uri huri
    exact change_asks hread (.plain (.inr ⟨x, hx, .inl ⟨service, hshows, .inr huri⟩⟩))

/-! ### Every call -/

/-- **A call other than a reset of the controller** asks only what is due. -/
theorem act_asks {c : Call} (hc : ∀ kind, c ≠ .bmcReset kind) (hknown : Covers known target s) :
    Asks (Due target s known (!c.onlyReads)) s [] (act target c) fun _ _ => True := by
  have hnothing : AllRead [] := by rintro _ ⟨⟩
  cases c with
  | powerState => exact (powerState_asks hknown hnothing).weaken fun _ _ _ => trivial
  | powerSet action =>
      have horder : ∀ (action : PowerAction) (ys : List Exchange), AllRead ys →
          Asks (Due target s known true) s ys (systemPath target >>= fun path =>
            post target (path ++ "/Actions/ComputerSystem.Reset") (resetBody (resetType action)))
            fun _ _ => True := fun action ys hys =>
        .of_reads (reads_systemPath target s)
          (change_asks hys (hknown.made_system (by simp [endings])))
      show Asks _ s [] (powerSet target action) _
      unfold powerSet
      simp only
      split
      · refine .bind (powerState_asks hknown hnothing) fun state ys hys => ?_
        exact .bind (.pure (Q := fun _ said => AllRead said) hys)
          fun action zs hzs => horder _ _ hzs
      · exact .bind (.pure (Q := fun _ said => AllRead said) hnothing)
          fun action zs hzs => horder _ _ hzs
  | bootDeviceSet device options =>
      refine .of_reads (reads_systemPath target s) (change_asks hnothing ?_)
      rw [← String.append_empty (s := systemIn target s)]
      exact hknown.made_system (by simp [endings])
  | userCreate => exact change_asks hnothing (.own "/AccountService/Accounts")
  | userUpdate user => exact .bind (accountOf_asks user) fun _ _ h => change_asks h.1 h.2
  | userDelete user => exact .bind (accountOf_asks user) fun _ _ h => change_asks h.1 h.2
  | users =>
      exact .bind (members_asks hnothing (.own "/AccountService/Accounts"))
        fun _ _ h => usersAt_asks h.1 h.2
  | bmcReset kind => exact absurd rfl (hc kind)
  | virtualMedia kind url =>
      refine .of_reads (reads_managerPath target s) (.bind (members_asks hnothing ?_)
        fun _ _ h => insertInto_asks kind url h.1 h.2)
      exact hknown.made_manager (by simp [endings])
  | firmwareInstall component applyTime force image =>
      exact firmwareInstall_asks component applyTime force image
  | firmwareTaskStatus _ _ task =>
      refine .bind (getJson_asks hnothing ?_) fun _ _ _ => .pure trivial
      show Made known [] (serviceRoot ++ "/TaskService/Tasks" ++ "/" ++ task)
      rw [String.append_assoc, String.append_assoc]
      exact .own _
  | firmwareInstallSteps => exact .pure trivial
  | inventory =>
      refine .of_reads (reads_systemPath target s) ((getJson_asks hnothing ?_).weaken
        fun _ _ _ => trivial)
      rw [← String.append_empty (s := systemIn target s)]
      exact hknown.made_system (by simp [endings])
  | _ => exact .throw _

/-- **What a call asks is due**, and the fault of a request that fails is that of the call. -/
theorem Goes.asked (known : String → Prop) {c : Call} {r : Except Fault c.Answer}
    (h : Goes (act target c) s xs r s') (hknown : Covers known target s) :
    Each (Due target s known (!c.onlyReads)) [] xs ∧
      ∀ x ∈ xs, ∀ f, heard s x = .error f → r = .error f := by
  by_cases hc : ∃ kind, c = .bmcReset kind
  · obtain ⟨kind, rfl⟩ := hc
    -- After the request for the reset the driver only forgets its session.
    replace h := (reads_managerPath target s).of_bind h
    have hpost : Asks (Due target s known true) s []
        (post target (managerIn target s ++ "/Actions/Manager.Reset")
          (resetBody (managerReset kind))) fun _ _ => True :=
      change_asks (by rintro _ ⟨⟩) (hknown.made_manager (by simp [endings]))
    rcases goes_bind_iff.mp h with ⟨e, hgoes, rfl⟩ | ⟨done, m, ys, zs, rfl, hgoes, hrest⟩
    · obtain ⟨-, heach, hfault, -⟩ := hpost _ _ _ hgoes
      exact ⟨heach, fun x hx f hf => by cases hfault x hx f hf; rfl⟩
    · obtain ⟨-, heach, hfault, -⟩ := hpost _ _ _ hgoes
      rcases goes_bind_iff.mp hrest with ⟨e, hmodify, -⟩ | ⟨_, m', us, vs, rfl, hmodify, hpure⟩
      · cases (goes_modify_iff.mp hmodify).2.1
      · obtain ⟨rfl, -, rfl⟩ := goes_modify_iff.mp hmodify
        obtain ⟨rfl, rfl, rfl⟩ := goes_pure_iff.mp hpure
        rw [List.append_nil, List.append_nil]
        exact ⟨heach, fun x hx f hf => by cases hfault x hx f hf⟩
  · obtain ⟨-, heach, hfault, -⟩ := act_asks (fun kind hkind => hc ⟨kind, hkind⟩) hknown _ _ _ h
    exact ⟨heach, hfault⟩

/-- A probe reads the root of the service. -/
theorem Goes.asked_of_probe (known : String → Prop) {r : Except Fault Bool}
    (h : Goes (probe target) s xs r s') : Each (Due target s known false) [] xs := by
  have hread : Asks (Due target s known false) s [] (getJson target serviceRoot) _ :=
    getJson_asks (by rintro _ ⟨⟩) (.own "")
  rcases goes_bind_iff.mp h with ⟨e, hattempt, -⟩ | ⟨r', m, ys, zs, rfl, hattempt, hrest⟩
  · obtain ⟨r', hgoes, -⟩ := goes_attempt_iff.mp hattempt
    exact (hread _ _ _ hgoes).2.1
  · obtain ⟨_, hgoes, hr⟩ := goes_attempt_iff.mp hattempt
    have hnothing : zs = [] := by
      cases r' <;> exact (goes_pure_iff.mp hrest).1
    rw [hnothing, List.append_nil]
    exact (hread _ _ _ hgoes).2.1

end Calls

end Redfish

end OutOfBand
