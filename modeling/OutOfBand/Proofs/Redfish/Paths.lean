import OutOfBand.Proofs.Redfish.Requests

/-!
# Which system and which manager the driver works on

Calls about the host lead to one system and calls about the controller to one manager: to those that
were found, else to those that are configured, else to the first of the usual ones. Discovery looks
for both as soon as one of the two is not configured. So a configured path binds while the other one
is configured too or nothing was found (`configured_path_binds`); a login that finds another system
takes the place of the configured one.
-/

namespace OutOfBand.Redfish

variable {target : Target} {s s' : State} {xs log : List Exchange}

/-! ## Calls about the host and about the controller -/

/-- What is said in a call is about the system at a path, if it is a call about the host. -/
def OnSystem (target : Target) (system : String) (xs : List Exchange) : Call → Prop
  | .powerState | .inventory => ∀ x ∈ xs, LeadsTo target .get system x.1
  | .bootDeviceSet _ _ => ∀ x ∈ xs, LeadsTo target .patch system x.1
  | .powerSet action => ∀ x ∈ xs,
      LeadsTo target .post (system ++ "/Actions/ComputerSystem.Reset") x.1 ∨
        (action = .cycle ∧ LeadsTo target .get system x.1)
  | _ => True

/-- What is said in a call is about the manager at a path, if it is a call about the controller: its
reset, or its media, where what follows the first request is about slots that the manager lists. -/
def OnManager (target : Target) (manager : String) (xs : List Exchange) : Call → Prop
  | .bmcReset _ => ∀ x ∈ xs, LeadsTo target .post (manager ++ "/Actions/Manager.Reset") x.1
  | .virtualMedia _ _ => xs = [] ∨ ∃ q outcome ys, xs = (q, outcome) :: ys ∧
      LeadsTo target .get (manager ++ "/VirtualMedia") q ∧
      ∀ y ∈ ys, ∃ slots slot, Lists outcome slots ∧ slot ∈ slots ∧
        (LeadsTo target .get slot y.1 ∨
          LeadsTo target .post (slot ++ "/Actions/VirtualMedia.EjectMedia") y.1 ∨
          LeadsTo target .post (slot ++ "/Actions/VirtualMedia.InsertMedia") y.1)
  | _ => True

theorem Goes.onSystem {c : Call} {r : Except Fault c.Answer} (h : Goes (act target c) s xs r s') :
    OnSystem target (systemIn target s) xs c := by
  cases c with
  | powerState => exact (powerState_keeps (fun _ hq => hq.toLeadsTo) _ _ _ h).2
  | powerSet action =>
      have hkeeps : Keeps s (fun q =>
          LeadsTo target .post (systemIn target s ++ "/Actions/ComputerSystem.Reset") q ∨
            (action = .cycle ∧ LeadsTo target .get (systemIn target s) q))
          (powerSet target action) :=
        powerSet_keeps (fun hcycle _ hq => .inr ⟨hcycle, hq.toLeadsTo⟩)
          fun _ hq => .inl hq.toLeadsTo
      exact (hkeeps _ _ _ h).2
  | bootDeviceSet device options =>
      exact (bootDeviceSet_keeps (fun _ hq => hq.toLeadsTo) device options _ _ _ h).2
  | inventory => exact (inventory_keeps (fun _ hq => hq.toLeadsTo) _ _ _ h).2
  | _ => trivial

theorem Goes.onManager {c : Call} {r : Except Fault c.Answer} (h : Goes (act target c) s xs r s') :
    OnManager target (managerIn target s) xs c := by
  cases c with
  | bmcReset kind => exact fun x hx => (Goes.of_bmcReset h).1 x hx |>.toLeadsTo
  | virtualMedia kind url =>
      refine (Goes.of_virtualMedia h).2.imp_right ?_
      rintro ⟨q, outcome, ys, hxs, hq, hys⟩
      refine ⟨q, outcome, ys, hxs, hq.toLeadsTo, fun y hy => ?_⟩
      obtain ⟨slots, hlists, slot, hslot, hsent⟩ := hys y hy
      exact ⟨slots, slot, hlists, hslot,
        hsent.imp Sent.toLeadsTo (Or.imp Sent.toLeadsTo Sent.toLeadsTo)⟩
  | _ => trivial

/-! ## What is found -/

/-- The system and the manager that are remembered were found: there was something to find out, and
a reply named them first among their like. -/
structure Found (target : Target) (s : State) (log : List Exchange) : Prop where
  system : ∀ link, s.system = some link →
    mustDiscover target = true ∧ ∃ x ∈ log, NamesFirst target systemsPath x link
  manager : ∀ link, s.manager = some link →
    mustDiscover target = true ∧ ∃ x ∈ log, NamesFirst target managersPath x link

theorem Found.more (h : Found target s log) (hsystem : s'.system = s.system)
    (hmanager : s'.manager = s.manager) : Found target s' (log ++ xs) where
  system link hlink := by
    obtain ⟨hmust, x, hx, hnames⟩ := h.system link (hsystem ▸ hlink)
    exact ⟨hmust, x, List.mem_append_left _ hx, hnames⟩
  manager link hlink := by
    obtain ⟨hmust, x, hx, hnames⟩ := h.manager link (hmanager ▸ hlink)
    exact ⟨hmust, x, List.mem_append_left _ hx, hnames⟩

/-- Only opening the session finds something. -/
theorem Found.does {deed : Deed} {done : Bool} (h : Found target s log)
    (hdoes : Does target s deed xs done s') : Found target s' (log ++ xs) := by
  cases hdoes with
  | @call _ _ c _ hgoes =>
      by_cases hc : ∃ kind, c = .bmcReset kind
      · obtain ⟨kind, rfl⟩ := hc
        obtain ⟨-, ⟨-, rfl⟩ | ⟨-, rfl⟩⟩ := Goes.of_bmcReset hgoes
        · exact h.more rfl rfl
        · exact h.more rfl rfl
      · obtain ⟨rfl, -⟩ := act_keeps (fun kind hkind => hc ⟨kind, hkind⟩) _ _ _ hgoes
        exact h.more rfl rfl
  | login hgoes =>
      rcases hgoes.of_openSession with ⟨-, rfl, -⟩ |
        ⟨q, outcome, ys, -, rfl, -, -, -, -, hsystem, hmanager⟩
      · exact h.more rfl rfl
      · refine ⟨fun link hlink => ?_, fun link hlink => ?_⟩
        · rcases hsystem link hlink with hold | ⟨hmust, x, hx, hnames⟩
          · obtain ⟨hmust, x, hx, hnames⟩ := h.system link hold
            exact ⟨hmust, x, List.mem_append_left _ hx, hnames⟩
          · exact ⟨hmust, x, List.mem_append_right _ (List.mem_cons_of_mem _ hx), hnames⟩
        · rcases hmanager link hlink with hold | ⟨hmust, x, hx, hnames⟩
          · obtain ⟨hmust, x, hx, hnames⟩ := h.manager link hold
            exact ⟨hmust, x, List.mem_append_left _ hx, hnames⟩
          · exact ⟨hmust, x, List.mem_append_right _ (List.mem_cons_of_mem _ hx), hnames⟩
  | logout hgoes =>
      obtain ⟨-, rfl⟩ := hgoes.of_closeSession
      exact h.more rfl rfl
  | probe hgoes =>
      obtain ⟨rfl, -⟩ := probe_keeps _ _ _ hgoes
      exact h.more rfl rfl

theorem Found.course {results : List (Deed × Bool)} (h : Found target s log)
    (hcourse : Course target s results xs s') : Found target s' (log ++ xs) := by
  induction hcourse generalizing log with
  | nil s => exact h.more rfl rfl
  | cons hdoes _ ih =>
      rw [← List.append_assoc]
      exact ih (h.does hdoes)

theorem Found.of_history {σ : Type} (target : Target) (peer : Web.Request → σ → Web.Outcome × σ)
    (w : σ) (history : List (Nat × Deed)) :
    let p := ((capabilities target (Dialog.noting peer)).carryOutAll history (start w)).2
    Found target p.1 p.2.2 := by
  obtain ⟨results, xs, s, v, hcourse, h⟩ := carryOutAll_says target peer history (start w)
  have hmade : Found target {} [] := ⟨by rintro _ ⟨⟩, by rintro _ ⟨⟩⟩
  rw [h]
  exact hmade.course hcourse

/-! ## Configured paths -/

theorem Found.systemIn_eq {p : String} (h : Found target s log)
    (hp : target.options.redfish.systemPath = some p)
    (hbinds : target.options.redfish.managerPath.isSome = true ∨
      ∀ x ∈ log, ∀ link, ¬ NamesFirst target systemsPath x link) : systemIn target s = p := by
  cases hsystem : s.system with
  | none => simp [systemIn, hsystem, hp]
  | some link =>
      obtain ⟨hmust, x, hx, hnames⟩ := h.system link hsystem
      rcases hbinds with hboth | hnothing
      · simp [mustDiscover, hp, Option.isNone_eq_false_iff.mpr hboth] at hmust
      · exact absurd hnames (hnothing x hx link)

theorem Found.managerIn_eq {m : String} (h : Found target s log)
    (hm : target.options.redfish.managerPath = some m)
    (hbinds : target.options.redfish.systemPath.isSome = true ∨
      ∀ x ∈ log, ∀ link, ¬ NamesFirst target managersPath x link) : managerIn target s = m := by
  cases hmanager : s.manager with
  | none => simp [managerIn, hmanager, hm]
  | some link =>
      obtain ⟨hmust, x, hx, hnames⟩ := h.manager link hmanager
      rcases hbinds with hboth | hnothing
      · simp [mustDiscover, hm, Option.isNone_eq_false_iff.mpr hboth] at hmust
      · exact absurd hnames (hnothing x hx link)

/-- **A configured path binds** whatever the driver was asked for before and whatever it is
answered, as long as the other path is configured too or no reply has named anything of its like. -/
theorem configured_path_binds {σ : Type} (target : Target)
    (peer : Web.Request → σ → Web.Outcome × σ) (w : σ) (history : List (Nat × Deed)) (now : Nat)
    (c : Call) :
    let p := ((capabilities target (Dialog.noting peer)).carryOutAll history (start w)).2
    let xs := said target peer p now (.call c)
    (∀ path, target.options.redfish.systemPath = some path →
      (target.options.redfish.managerPath.isSome = true ∨
        ∀ x ∈ p.2.2, ∀ link, ¬ NamesFirst target systemsPath x link) →
      OnSystem target path xs c) ∧
    (∀ path, target.options.redfish.managerPath = some path →
      (target.options.redfish.systemPath.isSome = true ∨
        ∀ x ∈ p.2.2, ∀ link, ¬ NamesFirst target managersPath x link) →
      OnManager target path xs c) := by
  intro p xs
  have hfound : Found target p.1 p.2.2 := .of_history target peer w history
  obtain ⟨done, s, v, hdoes, -⟩ := carryOut_says target peer p now (.call c)
  cases hdoes with
  | call hgoes =>
      refine ⟨fun path hpath hbinds => ?_, fun path hpath hbinds => ?_⟩
      · rw [← hfound.systemIn_eq hpath hbinds]
        exact hgoes.onSystem
      · rw [← hfound.managerIn_eq hpath hbinds]
        exact hgoes.onManager

/-- A controller of which the system is configured, and perhaps the manager. -/
def bladeTarget (manager : Option String) : Target where
  host := "bmc.local"
  username := "admin"
  password := "pw"
  options.redfish.systemPath := some "/redfish/v1/Systems/blade-3"
  options.redfish.managerPath := manager

/-- A service that lists another system, and to anything else says that it is done. -/
def otherBlade (q : Web.Request) (_ : Unit) : Web.Outcome × Unit :=
  if q.url.path == systemsPath then
    let body := "\x7b\"Members\":[\x7b\"@odata.id\":\"/redfish/v1/Systems/blade-1\"\x7d]\x7d"
    (.answered ⟨200, [], Text.Utf8.encode body⟩, ())
  else (.answered ⟨204, [], []⟩, ())

theorem configured_path_binds_on_blade :
    let target := bladeTarget (some "/redfish/v1/Managers/cmc")
    let caps := capabilities target (Dialog.noting otherBlade)
    let p := (caps.carryOutAll [(0, .login)] (start ())).2
    OnSystem target "/redfish/v1/Systems/blade-3"
      (said target otherBlade p 0 (.call (.powerSet .off))) (.powerSet .off) :=
  (configured_path_binds (bladeTarget (some "/redfish/v1/Managers/cmc")) otherBlade ()
    [(0, .login)] 0 (.powerSet .off)).1 _ rfl (.inl rfl)

/-- **A configured system does not always bind**: without a configured manager, the host that is
switched off is the one that was found. -/
theorem discovery_overrides_configured_system :
    let target := bladeTarget none
    let caps := capabilities target (Dialog.noting otherBlade)
    let p := (caps.carryOutAll [(0, .login)] (start ())).2
    target.options.redfish.systemPath = some "/redfish/v1/Systems/blade-3" ∧
      ¬ OnSystem target "/redfish/v1/Systems/blade-3"
        (said target otherBlade p 0 (.call (.powerSet .off))) (.powerSet .off) := by
  refine ⟨rfl, ?_⟩
  unfold OnSystem
  decide +kernel

end OutOfBand.Redfish
