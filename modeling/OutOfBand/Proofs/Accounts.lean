import OutOfBand.Proofs.Ipmi.Runs
import OutOfBand.Proofs.Redfish.Asking

/-!
# Changes of accounts agree with the listing

A driver lists the accounts of a controller on one path and looks up the account that it is to
change on another. Both begin with the same questions, so whoever answers gives them the same
answers (`Redfish.Goes.together`), and what is looked up is among what is listed. A name must not be
empty for that: an account without a name is not listed, but it is found.
-/

namespace OutOfBand

/-- The call is to change or to delete the account of `user`. -/
def Call.altersAccount (user : String) : Call → Prop
  | .userUpdate name _ _ => name = user
  | .userDelete name => name = user
  | _ => False

/-- What a call asks agrees with the accounts that are listed: every change is about one that is
listed as `user`, and if there is none, then the call fails without a change. -/
structure AgreesWith {X : Type} (listing : List UserAccount) (user : String)
    (changes : X → Prop) (about : UserAccount → X → Prop) (xs : List X) (done : Bool) : Prop where
  listed : ∀ x ∈ xs, changes x → ∃ u ∈ listing, u.name = user ∧ about u x
  unlisted : (∀ u ∈ listing, u.name ≠ user) → done = false ∧ ∀ x ∈ xs, ¬ changes x

/-! ## The IPMI tool -/

namespace Ipmi

variable {α : Type} {target : Target} {user id : String} {listing : List UserAccount}
  {xs ys : List Run}

/-- The words of a command about a slot, up to the number of the slot. -/
def slotVerbs : List (List String) :=
  [["user", "set", "password"], ["channel", "setaccess", "1"], ["user", "disable"],
    ["user", "set", "name"]]

/-- The command is about the slot with this number. -/
def OnSlot (target : Target) (id : String) (c : Command) : Prop :=
  ∃ verb ∈ slotVerbs, ∃ rest, c = commandFor target (verb ++ id :: rest)

/-- The slot of a name that is not empty is listed under that name. -/
theorem listed_of_slotOf {table : String} (hname : user ≠ "")
    (h : slotOf user (slotsOf table) = .ok id) :
    ∃ u ∈ usersOf table, u.name = user ∧ u.id = id := by
  obtain ⟨slot, hslot, hid, huser⟩ := slotOf_ok h
  refine ⟨slot, List.mem_filter.mpr ⟨hslot, ?_⟩, huser, hid⟩
  simpa [huser] using hname

theorem grant_runs (id : String) (role : UserRole) :
    RunsOnly (OnSlot target id) (grant target id role) := by
  refine .bind (.run ⟨["channel", "setaccess", "1"], by simp [slotVerbs], _, rfl⟩) ?_
  intro _
  exact .pure _

/-- What a change of a slot asks agrees with the accounts that are listed in the same world. -/
theorem Tells.agreesWith {σ : Type} {peer : Command → σ → Outcome × σ} {w v v' : σ}
    {change : String → Talk α} {r : Except Fault α} (hname : user ≠ "")
    (hchange : ∀ id, RunsOnly (OnSlot target id) (change id))
    (hlist : Tells (users target) ys (.ok listing)) (hys : Dialog.Answered peer w ys v)
    (h : Tells (slots target >>= fun found => ExceptT.mk (.done (slotOf user found)) >>= change)
      xs r) (hxs : Dialog.Answered peer w xs v') :
    AgreesWith listing user (fun x : Run => x.1 ≠ listCommand target)
      (fun u x => OnSlot target u.id x.1) xs r.isOk := by
  obtain ⟨r', htable, hr⟩ := hlist.of_read
  obtain ⟨table, rfl⟩ : ∃ table, r' = .ok table := by
    cases r' with
    | error => cases hr
    | ok table => exact ⟨table, rfl⟩
  cases hr
  -- The list is asked for in the same world, so it is the same list.
  have hsame : ∀ {zs : List Run} {r'' : Except Fault (List UserAccount)} {z : σ},
      Tells (slots target) zs r'' → Dialog.Answered peer w zs z →
        r'' = .ok (slotsOf table) ∧ ∀ x ∈ zs, x.1 = listCommand target := by
    intro zs r'' z hslots hzs
    obtain ⟨r', hrun, rfl⟩ := hslots.of_read
    obtain ⟨-, rfl, -⟩ := hrun.unique htable hzs hys
    exact ⟨rfl, RunsOnly.run (P := (· = listCommand target)) rfl _ _ hrun⟩
  rcases tells_bind_iff.mp h with ⟨e, hslots, -⟩ | ⟨found, us, vs, rfl, hslots, hrest⟩
  · cases (hsame hslots hxs).1
  obtain ⟨z, hus, -⟩ := Dialog.answered_append_iff.mp hxs
  obtain ⟨hfound, hasked⟩ := hsame hslots hus
  cases hfound
  rcases tells_bind_iff.mp hrest with ⟨e, hlookup, rfl⟩ | ⟨id, zs, ws, rfl, hlookup, hwent⟩
  · obtain ⟨rfl, -⟩ := tells_done_iff.mp hlookup
    rw [List.append_nil]
    refine ⟨?_, ?_⟩
    · intro x hx hchanges
      exact absurd (hasked x hx) hchanges
    · intro _
      exact ⟨rfl, fun x hx hchanges => hchanges (hasked x hx)⟩
  · obtain ⟨rfl, hid⟩ := tells_done_iff.mp hlookup
    obtain ⟨u, hu, huser, rfl⟩ := listed_of_slotOf hname hid.symm
    refine ⟨?_, ?_⟩
    · intro x hx hchanges
      rcases List.mem_append.mp hx with hx | hx
      · exact absurd (hasked x hx) hchanges
      · exact ⟨u, hu, huser, hchange u.id _ _ hwent x hx⟩
    · intro hnone
      exact absurd huser (hnone u hu)

/-- What a call asks of the tool agrees with the accounts that are listed: all that it runs but the
list itself is about a slot that is listed as `user`. -/
def Agrees {σ : Type} (target : Target) (peer : Command → σ → Outcome × σ) (w : σ) (now : Nat)
    (listing : List UserAccount) (user : String) (c : Call) : Prop :=
  AgreesWith listing user (fun x : Run => x.1 ≠ listCommand target)
    (fun u x => OnSlot target u.id x.1) (told target peer w now c).2
    (told target peer w now c).1.isOk

/-- **Changes of slots agree with the listing** in the same world, whatever the tool prints. -/
theorem told_agrees {σ : Type} (target : Target) (hname : user ≠ "")
    (peer : Command → σ → Outcome × σ) (w : σ) (now : Nat) {c : Call}
    (hc : c.altersAccount user) (hlist : (told target peer w now .users).1 = .ok listing) :
    Agrees target peer w now listing user c := by
  obtain ⟨husers, v, hys⟩ := handle_tells target peer w now .users
  obtain ⟨htells, v', hxs⟩ := handle_tells target peer w now c
  rw [hlist] at husers
  cases c with
  | userUpdate name password role =>
      obtain rfl : name = user := hc
      refine Tells.agreesWith hname ?_ husers hys htells hxs
      intro id
      refine .bind (.run ⟨["user", "set", "password"], by simp [slotVerbs], _, rfl⟩) ?_
      intro _
      refine .bind (grant_runs id role) ?_
      intro _
      exact .pure _
  | userDelete name =>
      obtain rfl : name = user := hc
      refine Tells.agreesWith hname ?_ husers hys htells hxs
      intro id
      refine .bind (.run ⟨["user", "disable"], by simp [slotVerbs], _, rfl⟩) ?_
      intro _
      refine .bind (.run ⟨["user", "set", "name"], by simp [slotVerbs], _, rfl⟩) ?_
      intro _
      exact .pure _
  | _ => cases hc

end Ipmi

/-! ## The Redfish driver -/

namespace Redfish

variable {α β γ σ : Type} {target : Target} {user link : String} {listing : List UserAccount}
  {s s' m m' : State} {xs ys : List Exchange} {peer : Web.Request → σ → Web.Outcome × σ}
  {w v v' : σ}

/-- Whoever answers, an act goes in one way only. -/
theorem Goes.unique {act : Act α} {r r' : Except Fault α} (hxs : Goes act s xs r m)
    (hys : Goes act s ys r' m') (hv : Dialog.Answered peer w xs v)
    (hv' : Dialog.Answered peer w ys v') : xs = ys ∧ r = r' ∧ m = m' ∧ v = v' := by
  obtain ⟨hsame, hend, hv⟩ := Dialog.Went.unique hxs hys hv hv'
  cases hend
  exact ⟨hsame, rfl, rfl, hv⟩

/-- **What begins alike goes alike**: if one of two acts that begin with the same is done, then that
is done in the other too, with the same answers, and both go on from there. -/
theorem Goes.together {act : Act α} {f : α → Act β} {g : α → Act γ} {b : β} {r : Except Fault γ}
    (hf : Goes (act >>= f) s xs (.ok b) m) (hxs : Dialog.Answered peer w xs v)
    (hg : Goes (act >>= g) s ys r m') (hys : Dialog.Answered peer w ys v') :
    ∃ a s' w' us xs' ys', xs = us ++ xs' ∧ ys = us ++ ys' ∧ Goes act s us (.ok a) s' ∧
      Goes (f a) s' xs' (.ok b) m ∧ Dialog.Answered peer w' xs' v ∧
      Goes (g a) s' ys' r m' ∧ Dialog.Answered peer w' ys' v' := by
  rcases goes_bind_iff.mp hf with ⟨e, -, hr⟩ | ⟨a, s', us, xs', rfl, hact, hrest⟩
  · cases hr
  obtain ⟨w', hus, hxs'⟩ := Dialog.answered_append_iff.mp hxs
  rcases goes_bind_iff.mp hg with ⟨e, hact', -⟩ | ⟨a', s'', vs, ys', rfl, hact', hrest'⟩
  · cases (hact.unique hact' hus hys).2.1
  · obtain ⟨w'', hvs, hys'⟩ := Dialog.answered_append_iff.mp hys
    obtain ⟨rfl, hr, rfl, rfl⟩ := hact.unique hact' hus hvs
    cases hr
    exact ⟨a, s', w', us, xs', ys', rfl, rfl, hact, hrest, hxs', hrest', hys'⟩

theorem Goes.shown_of_getJson {path : String} {j : Json}
    (h : Goes (getJson target path) s xs (.ok j) s') :
    ∃ x, xs = [x] ∧ LeadsTo target .get path x.1 ∧ Shows x j := by
  obtain ⟨-, ⟨-, f, hr⟩ | ⟨q, outcome, hq, rfl, hshown⟩⟩ := h.of_getJson
  · cases hr
  · obtain ⟨reply, hanswered, hdecoded⟩ := hshown j rfl
    exact ⟨_, rfl, hq.toLeadsTo, reply, hanswered, hdecoded⟩

/-- Among what was said, a link was found to lead to the account of a user. -/
def Leads (target : Target) (xs : List Exchange) (link : String) (u : UserAccount) : Prop :=
  ∃ x ∈ xs, ∃ j, LeadsTo target .get link x.1 ∧ Shows x j ∧ userOf j = some u

theorem Leads.mono {u : UserAccount} (h : Leads target xs link u) (hsub : ∀ x ∈ xs, x ∈ ys) :
    Leads target ys link u := by
  obtain ⟨x, hx, h⟩ := h
  exact ⟨x, hsub x hx, h⟩

/-- An account with a name that is not empty stands for a user of that name. -/
theorem userOf_of_name {account : Json} (hname : user ≠ "")
    (h : ((account.get "UserName").str? == some user) = true) :
    ∃ u, userOf account = some u ∧ u.name = user := by
  have htext : textAt account "UserName" = user := by simp [textAt, beq_iff_eq.mp h]
  exact ⟨_, if_neg (by simpa [htext] using hname), htext⟩

/-- The account that is looked up is listed, on the same answers. -/
theorem Goes.listed_of_accountAmong {links : List String} (hname : user ≠ "")
    (hlist : Goes (usersAt target links) s xs (.ok listing) m) (hxs : Dialog.Answered peer w xs v)
    (h : Goes (accountAmong target user links) s ys (.ok link) m')
    (hys : Dialog.Answered peer w ys v') :
    ∃ u ∈ listing, u.name = user ∧ Leads target xs link u := by
  induction links generalizing s w xs ys listing with
  | nil => cases (goes_throw_iff.mp h).2.1
  | cons first links ih =>
      obtain ⟨j, s', w', us, xs', ys', rfl, rfl, hget, hrest, hxs', hfind, hys'⟩ :=
        Goes.together hlist hxs h hys
      rcases goes_bind_iff.mp hrest with ⟨e, -, hr⟩ | ⟨others, s'', vs, zs, rfl, hothers, hpure⟩
      · cases hr
      obtain ⟨rfl, hlisting, rfl⟩ := goes_pure_iff.mp hpure
      cases hlisting
      split at hfind
      · -- This is the account, and the listing read it here.
        rename_i hhere
        obtain ⟨-, hlink, -⟩ := goes_pure_iff.mp hfind
        cases hlink
        obtain ⟨u, hu, huser⟩ := userOf_of_name hname hhere
        obtain ⟨x, rfl, hx, hshows⟩ := hget.shown_of_getJson
        exact ⟨u, by simp [hu], huser, x, by simp, j, hx, hshows, hu⟩
      · rw [List.append_nil] at hxs'
        obtain ⟨u, hu, huser, hleads⟩ := ih hothers hxs' hfind hys'
        refine ⟨u, List.mem_append_right _ hu, huser, hleads.mono ?_⟩
        intro x hx
        simp [hx]

/-- The request changes what a link leads to. -/
def Alters (target : Target) (link : String) (q : Web.Request) : Prop :=
  LeadsTo target .patch link q ∨ LeadsTo target .delete link q

/-- The request changes the account of a user, to which a link was found to lead. -/
def About (target : Target) (found : List Exchange) (u : UserAccount) (x : Exchange) : Prop :=
  ∃ link, Leads target found link u ∧ Alters target link x.1

/-- What a change of an account asks agrees with the accounts that are listed in the same world. -/
theorem Goes.agreesWith {change : String → Act α} {r : Except Fault α} (hname : user ≠ "")
    (hchange : ∀ link s, Keeps s (Alters target link) (change link))
    (hlist : Goes (users target) s xs (.ok listing) m) (hxs : Dialog.Answered peer w xs v)
    (h : Goes (accountOf target user >>= change) s ys r m') (hys : Dialog.Answered peer w ys v') :
    AgreesWith listing user (fun x : Exchange => x.1.method ≠ .get) (About target xs) ys r.isOk := by
  have hreads : ∀ {us : List Exchange} {r' : Except Fault String} {s' : State},
      Goes (accountOf target user) s us r' s' → ∀ x ∈ us, x.1.method = .get := by
    intro us r' s' hfind x hx
    have hasks : Asks (Due target s (fun _ => True) false) s [] (accountOf target user) _ :=
      accountOf_asks user
    obtain ⟨before, hdue⟩ := (hasks _ _ _ hfind).2.1.of_mem hx
    simpa using hdue.method
  rcases goes_bind_iff.mp h with ⟨e, hfind, rfl⟩ | ⟨link, s', us, vs, rfl, hfind, hrest⟩
  · refine ⟨?_, ?_⟩
    · intro x hx hchanges
      exact absurd (hreads hfind x hx) hchanges
    · intro _
      exact ⟨rfl, fun x hx hchanges => hchanges (hreads hfind x hx)⟩
  · obtain ⟨z, hus, -⟩ := Dialog.answered_append_iff.mp hys
    obtain ⟨links, s'', w', zs, xs', us', rfl, rfl, -, hlist', hxs', hfind', hus'⟩ :=
      Goes.together hlist hxs hfind hus
    obtain ⟨u, hu, huser, hleads⟩ :=
      Goes.listed_of_accountAmong hname hlist' hxs' hfind' hus'
    have hfound : Leads target (zs ++ xs') link u := by
      apply hleads.mono
      intro x hx
      exact List.mem_append_right _ hx
    refine ⟨?_, ?_⟩
    · intro x hx hchanges
      rcases List.mem_append.mp hx with hx | hx
      · exact absurd (hreads hfind x hx) hchanges
      · exact ⟨u, hu, huser, link, hfound, (hchange link _ _ _ _ hrest).2 x hx⟩
    · intro hnone
      exact absurd huser (hnone u hu)

/-- What a call asks of the service agrees with the accounts that are listed: all that it asks for
but reads is about what a link leads to that the listing read as the account of `user`. -/
def Agrees (target : Target) (peer : Web.Request → σ → Web.Outcome × σ) (p : Standing σ)
    (now : Nat) (listing : List UserAccount) (user : String) (c : Call) : Prop :=
  AgreesWith listing user (fun x : Exchange => x.1.method ≠ .get)
    (About target (said target peer p now (.call .users))) (said target peer p now (.call c))
    (((capabilities target (Dialog.noting peer)).handle c).outcome now p).1.isOk

/-- **Changes of accounts agree with the listing** in the same world, whatever the driver remembers
and whatever it is answered. -/
theorem said_agrees (target : Target) (hname : user ≠ "")
    (peer : Web.Request → σ → Web.Outcome × σ) (p : Standing σ) (now : Nat) {c : Call}
    (hc : c.altersAccount user)
    (hlisting : (((capabilities target (Dialog.noting peer)).handle .users).outcome now p).1 =
      .ok listing) : Agrees target peer p now listing user c := by
  obtain ⟨r, m, v, hlist, hresult, hxs⟩ := handle_says target peer p now .users
  obtain ⟨r', m', v', hgoes, hresult', hys⟩ := handle_says target peer p now c
  obtain rfl : r = .ok listing := by rw [← hlisting, hresult]
  rw [Agrees, hresult']
  cases c with
  | userUpdate name password role =>
      obtain rfl : name = user := hc
      refine Goes.agreesWith hname ?_ hlist hxs hgoes hys
      intro link s
      exact .patch (fun q hq => .inl hq.toLeadsTo) _
  | userDelete name =>
      obtain rfl : name = user := hc
      refine Goes.agreesWith hname ?_ hlist hxs hgoes hys
      intro link s
      refine .bind (.send fun q hq => .inr hq.toLeadsTo) ?_
      intro reply
      exact .pure _
  | _ => cases hc

end Redfish

/-! ## Both drivers -/

/-- **Changes of accounts agree with the listing** in both drivers: a call to change or to delete an
account changes none but one that a listing in the same world shows under that very name, and if the
listing shows none, then the call fails and changes nothing. The name must not be empty. -/
theorem account_changes_agree {σ τ : Type} (target : Target) (user : String) (hname : user ≠ "")
    (c : Call) (hc : c.altersAccount user) (now : Nat) :
    (∀ (peer : Web.Request → σ → Web.Outcome × σ) (p : Redfish.Standing σ)
      (listing : List UserAccount),
      (((Redfish.capabilities target (Dialog.noting peer)).handle .users).outcome now p).1 =
        .ok listing → Redfish.Agrees target peer p now listing user c) ∧
    ∀ (tool : Ipmi.Command → τ → Ipmi.Outcome × τ) (w : τ) (listing : List UserAccount),
      (Ipmi.told target tool w now .users).1 = .ok listing →
        Ipmi.Agrees target tool w now listing user c :=
  ⟨fun peer p _ => Redfish.said_agrees target hname peer p now hc,
    fun tool w _ => Ipmi.told_agrees target hname tool w now hc⟩

section Nameless

/-- A controller with the usual options. -/
def plainTarget : Target where
  host := "bmc.local"
  username := "admin"
  password := "pw"

/-- A service with an account without a name and one that is called `admin`, which does whatever it
is asked for. -/
def namelessAccount (q : Web.Request) (_ : Unit) : Web.Outcome × Unit :=
  let resource (content : String) : Web.Outcome × Unit :=
    (.answered ⟨200, [], Text.Utf8.encode content⟩, ())
  let link (path : String) : String := "\x7b\"@odata.id\":\"" ++ path ++ "\"\x7d"
  match q.method, q.url.path with
  | .get, "/redfish/v1/AccountService/Accounts" =>
    resource ("\x7b\"Members\":[" ++ link "/accounts/1" ++ "," ++ link "/accounts/2" ++ "]\x7d")
  | .get, "/accounts/1" => resource "\x7b\"UserName\":\"\"\x7d"
  | .get, _ => resource "\x7b\"UserName\":\"admin\"\x7d"
  | _, _ => (.answered ⟨204, [], []⟩, ())

/-- A tool that shows a slot without a name and one that is called `admin`, and does whatever it is
asked for. -/
def namelessSlot (c : Ipmi.Command) (_ : Unit) : Ipmi.Outcome × Unit :=
  let table := "1 true false false NO ACCESS\n2 admin true false true ADMINISTRATOR\n"
  (.ended (some 0) (if c.args.contains "list" then Text.Utf8.encode table else []) [], ())

/-- Both of them list one account, that of `admin`. -/
theorem nameless_not_listed :
    (((Redfish.capabilities plainTarget (Dialog.noting namelessAccount)).handle .users).outcome 0
      (Redfish.start ())).1 = .ok [⟨"", "admin", none, false⟩] ∧
    (Ipmi.told plainTarget namelessSlot () 0 .users).1 =
      .ok [⟨"2", "admin", some .administrator, true⟩] := by
  have hok : ∀ {r : Except Fault (List UserAccount)} {listing : List UserAccount},
      r.toOption = some listing → r = .ok listing := by
    rintro (_ | _) _ ⟨⟩
    rfl
  exact ⟨hok (by decide +kernel), hok (by decide +kernel)⟩

theorem account_changes_agree_for_admin :
    let update : Call := .userUpdate "admin" "new" .operator
    "admin" ≠ "" ∧
      Redfish.Agrees plainTarget namelessAccount (Redfish.start ()) 0
        [⟨"", "admin", none, false⟩] "admin" update ∧
      Ipmi.Agrees plainTarget namelessSlot () 0 [⟨"2", "admin", some .administrator, true⟩] "admin"
        update := by
  intro update
  have hname : "admin" ≠ "" := by decide
  obtain ⟨hservice, htool⟩ := account_changes_agree plainTarget "admin" hname update rfl 0
  exact ⟨hname, hservice namelessAccount (Redfish.start ()) _ nameless_not_listed.1,
    htool namelessSlot () _ nameless_not_listed.2⟩

/-- **An account without a name is changed though it is not listed** by both drivers, when they are
asked to change the account with the empty name. -/
theorem nameless_account_changed :
    let update : Call := .userUpdate "" "new" .administrator
    let caps := Redfish.capabilities plainTarget (Dialog.noting namelessAccount)
    (∃ listing, ((caps.handle .users).outcome 0 (Redfish.start ())).1 = .ok listing ∧
      ¬ Redfish.Agrees plainTarget namelessAccount (Redfish.start ()) 0 listing "" update) ∧
    ∃ listing, (Ipmi.told plainTarget namelessSlot () 0 .users).1 = .ok listing ∧
      ¬ Ipmi.Agrees plainTarget namelessSlot () 0 listing "" update := by
  intro update caps
  have hdone : ((caps.handle update).outcome 0 (Redfish.start ())).1.isOk = true ∧
      (Ipmi.told plainTarget namelessSlot () 0 update).1.isOk = true := by decide +kernel
  refine ⟨⟨_, nameless_not_listed.1, fun h => ?_⟩, _, nameless_not_listed.2, fun h => ?_⟩
  · cases hdone.1.symm.trans (h.unlisted (by decide)).1
  · cases hdone.2.symm.trans (h.unlisted (by decide)).1

end Nameless

end OutOfBand
