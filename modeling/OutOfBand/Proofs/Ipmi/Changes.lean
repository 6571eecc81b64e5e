import OutOfBand.Proofs.Ipmi.Runs

/-!
# Users are changed in order

A user is created, changed or deleted by several commands, and any of them may fail. `Proceeds` says
how a plan of commands is carried out: one after another, each only if the one before it exited
successfully. `Changing` says how a whole change goes: the slots are listed, one of them is chosen,
and the plan for it is carried out. What is left behind where a change stops halfway is told by the
order of the plan: `Orderly` says what that order gives for any plan, and
`user_changes_in_order` what it means for slots that are enabled and names that are cleared.
-/

namespace OutOfBand.Ipmi

/-! ## Commands one after another -/

/-- The tool was started and exited successfully. -/
def Outcome.Succeeded (outcome : Outcome) : Prop :=
  ∃ stdout stderr, outcome = .ended (some 0) stdout stderr

variable {target : Target} {tool : String} {words : List String} {plan : List (List String)}
  {xs : List Run} {r : Except Fault Bool}

theorem succeeded_of_outputOf {outcome : Outcome} {text : String}
    (h : outputOf tool outcome = .ok text) : outcome.Succeeded := by
  cases outcome with
  | missing => cases h
  | notStarted reason => cases h
  | ended code stdout stderr =>
      rw [outputOf] at h
      split at h
      · rename_i hcode
        exact ⟨stdout, stderr, by rw [eq_of_beq hcode]⟩
      · cases h

theorem not_succeeded_of_outputOf {outcome : Outcome} {f : Fault}
    (h : outputOf tool outcome = .error f) : ¬ outcome.Succeeded := by
  rintro ⟨stdout, stderr, rfl⟩
  cases h

/-- The commands of a plan are run one after another, until one of them cannot be passed or does not
exit successfully. -/
inductive Proceeds (target : Target) : List (List String) → List Run → Except Fault Bool → Prop
  | done : Proceeds target [] [] (.ok true)
  | unpassed {words plan f} : (commandFor target words).isPassable = false →
      Proceeds target (words :: plan) [] (.error f)
  | failed {words plan outcome f} : ¬ outcome.Succeeded →
      Proceeds target (words :: plan) [(commandFor target words, outcome)] (.error f)
  | next {words plan outcome xs r} : outcome.Succeeded → Proceeds target plan xs r →
      Proceeds target (words :: plan) ((commandFor target words, outcome) :: xs) r

/-- Whatever the tool answers, the talk carries out the plan. -/
def CarriesOut (target : Target) (plan : List (List String)) (talk : Talk Bool) : Prop :=
  ∀ xs r, Tells talk xs r → Proceeds target plan xs r

namespace CarriesOut

theorem done : CarriesOut target [] (pure true) := by
  intro xs r h
  obtain ⟨rfl, rfl⟩ := tells_pure_iff.mp h
  exact .done

theorem run {rest : Talk Bool} (h : CarriesOut target plan rest) :
    CarriesOut target (words :: plan) (run target words >>= fun _ => rest) := by
  intro xs r htells
  rcases tells_bind_iff.mp htells with ⟨f, hrun, rfl⟩ | ⟨text, ys, zs, rfl, hrun, hrest⟩
  · rcases hrun.of_run with ⟨rfl, hnot, -⟩ | ⟨outcome, rfl, houtput⟩
    · exact .unpassed hnot
    · exact .failed (not_succeeded_of_outputOf houtput.symm)
  · rcases hrun.of_run with ⟨-, -, f, hfault⟩ | ⟨outcome, rfl, houtput⟩
    · cases hfault
    · exact .next (succeeded_of_outputOf houtput.symm) (h zs r hrest)

end CarriesOut

namespace Proceeds

theorem isPrefix (h : Proceeds target plan xs r) :
    xs.map Prod.fst <+: plan.map (commandFor target) := by
  induction h with
  | done => exact List.prefix_rfl
  | unpassed => exact List.nil_prefix
  | failed => exact List.prefix_append [_] _
  | next _ _ ih =>
      rw [List.map_cons, List.map_cons, List.prefix_cons_inj]
      exact ih

/-- What is run before another command exited successfully. -/
theorem succeeded_before (h : Proceeds target plan xs r) {before after : List Run} {x : Run}
    (hxs : xs = before ++ x :: after) : ∀ y ∈ before, y.2.Succeeded := by
  induction h generalizing before with
  | done | unpassed => simp at hxs
  | failed =>
      cases before with
      | nil => simp
      | cons y before => simp at hxs
  | next hsuccess _ ih =>
      cases before with
      | nil => simp
      | cons y before =>
          obtain ⟨rfl, hrest⟩ := List.cons.inj hxs
          intro z hz
          rcases List.mem_cons.mp hz with rfl | hz
          · exact hsuccess
          · exact ih hrest z hz

theorem ok_iff (h : Proceeds target plan xs r) : r = .ok true ↔
    xs.map Prod.fst = plan.map (commandFor target) ∧ ∀ x ∈ xs, x.2.Succeeded := by
  induction h with
  | done => simp
  | unpassed => simp
  | failed hfailure => simp [hfailure]
  | next hsuccess _ ih => simp [ih, hsuccess]

/-- A plan is carried out if nothing stands in its way. -/
theorem complete (h : Proceeds target plan xs r)
    (hpassable : ∀ words ∈ plan, (commandFor target words).isPassable = true)
    (hsucceeded : ∀ x ∈ xs, x.2.Succeeded) : r = .ok true := by
  induction h with
  | done => rfl
  | unpassed hnot =>
      rw [hpassable _ List.mem_cons_self] at hnot
      cases hnot
  | failed hfailure => exact absurd (hsucceeded _ List.mem_cons_self) hfailure
  | next _ _ ih =>
      exact ih (List.forall_mem_cons.mp hpassable).2 (List.forall_mem_cons.mp hsucceeded).2

theorem error_of_ne (h : Proceeds target plan xs r) (hne : r ≠ .ok true) : ∃ f, r = .error f := by
  induction h with
  | done => exact absurd rfl hne
  | unpassed | failed => exact ⟨_, rfl⟩
  | next _ _ ih => exact ih hne

end Proceeds

/-! ## Whole changes -/

/-- How the change of a user goes: the slots are listed, one of them is chosen, and the plan for it
is carried out. -/
inductive Changing (target : Target) (choose : List UserAccount → Except Fault String)
    (plan : String → List (List String)) : List Run → Except Fault Bool → Prop
  | unpassed {f} : (listCommand target).isPassable = false →
      Changing target choose plan [] (.error f)
  | unlisted {outcome f} : ¬ outcome.Succeeded →
      Changing target choose plan [(listCommand target, outcome)] (.error f)
  | refused {outcome table f} : outputOf target.options.ipmi.toolPath outcome = .ok table →
      choose (slotsOf table) = .error f →
      Changing target choose plan [(listCommand target, outcome)] (.error f)
  | carried {outcome table id xs r} : outputOf target.options.ipmi.toolPath outcome = .ok table →
      choose (slotsOf table) = .ok id → Proceeds target (plan id) xs r →
      Changing target choose plan ((listCommand target, outcome) :: xs) r

section Changing

variable {choose : List UserAccount → Except Fault String} {plan : String → List (List String)}

theorem Tells.changing {change : String → Talk Bool}
    (hchange : ∀ id, CarriesOut target (plan id) (change id))
    (h : Tells (slots target >>= fun found => ExceptT.mk (.done (choose found)) >>= change) xs r) :
    Changing target choose plan xs r := by
  rcases tells_bind_iff.mp h with ⟨f, hslots, rfl⟩ | ⟨found, ys, zs, rfl, hslots, hrest⟩
  · obtain ⟨r', hrun, hr⟩ := hslots.of_read
    rcases hrun.of_run with ⟨rfl, hnot, -⟩ | ⟨outcome, rfl, houtput⟩
    · exact .unpassed hnot
    · cases r' with
      | ok table => cases hr
      | error f' => exact .unlisted (not_succeeded_of_outputOf houtput.symm)
  · obtain ⟨r', hrun, hr⟩ := hslots.of_read
    cases r' with
    | error f => cases hr
    | ok table =>
        cases hr
        rcases hrun.of_run with ⟨-, -, f, hfault⟩ | ⟨outcome, rfl, houtput⟩
        · cases hfault
        rcases tells_bind_iff.mp hrest with ⟨f, hchoice, rfl⟩ | ⟨id, us, vs, rfl, hchoice, hgo⟩
        · obtain ⟨rfl, hf⟩ := tells_done_iff.mp hchoice
          exact .refused houtput.symm hf.symm
        · obtain ⟨rfl, hid⟩ := tells_done_iff.mp hchoice
          exact .carried houtput.symm hid.symm (hchange id vs r hgo)

/-- In the first run the slots were listed, in a table that was read; after it there were the runs
`rest`. -/
def Listed (target : Target) (xs : List Run) (table : String) (rest : List Run) : Prop :=
  ∃ outcome, xs = (listCommand target, outcome) :: rest ∧
    outputOf target.options.ipmi.toolPath outcome = .ok table

theorem Listed.unique {table table' : String} {rest rest' : List Run}
    (h : Listed target xs table rest) (h' : Listed target xs table' rest') :
    table = table' ∧ rest = rest' := by
  obtain ⟨outcome, rfl, houtput⟩ := h
  obtain ⟨outcome', hxs, houtput'⟩ := h'
  cases hxs
  rw [houtput] at houtput'
  cases houtput'
  exact ⟨rfl, rfl⟩

/-- The slots were listed, and `slot` is the one of them that was chosen. -/
def Chose (target : Target) (choose : List UserAccount → Except Fault String) (xs : List Run)
    (slot : UserAccount) (rest : List Run) : Prop :=
  ∃ table, Listed target xs table rest ∧ slot ∈ slotsOf table ∧
    choose (slotsOf table) = .ok slot.id

/-- What comes of a change that is made in order: the result, and what was run. -/
structure Orderly (target : Target) (choose : List UserAccount → Except Fault String)
    (plan : String → List (List String)) (change : Except Fault Bool × List Run) : Prop where
  /-- The slots are listed, and then the first commands of the plan are run for a slot of the list. -/
  inOrder : change.2.map Prod.fst <+: [listCommand target] ∨ ∃ slot rest,
    Chose target choose change.2 slot rest ∧
      rest.map Prod.fst <+: (plan slot.id).map (commandFor target)
  /-- A command is run only if all before it exited successfully. -/
  earlier : ∀ before x after, change.2 = before ++ x :: after → ∀ y ∈ before, y.2.Succeeded
  /-- The change is done just if the whole plan was carried out. -/
  ok_iff : change.1 = .ok true ↔ ∃ slot rest, Chose target choose change.2 slot rest ∧
    rest.map Prod.fst = (plan slot.id).map (commandFor target) ∧ ∀ x ∈ change.2, x.2.Succeeded
  error : change.1 ≠ .ok true → ∃ f, change.1 = .error f
  /-- If no slot of the list can be chosen, nothing else is run. -/
  refused : ∀ table rest f, Listed target change.2 table rest →
    choose (slotsOf table) = .error f → rest = [] ∧ change.1 = .error f
  listed : (listCommand target).isPassable = true →
    ∃ outcome rest, change.2 = (listCommand target, outcome) :: rest
  /-- If a slot of the list can be chosen and no command fails, then the change is done. -/
  complete : ∀ table rest id, Listed target change.2 table rest → choose (slotsOf table) = .ok id →
    (∀ words ∈ plan id, (commandFor target words).isPassable = true) →
    (∀ x ∈ change.2, x.2.Succeeded) → change.1 = .ok true

/-- Of a single run that comes first nothing is to be said. -/
theorem nothing_before {x y : Run} {before after : List Run} (h : [x] = before ++ y :: after) :
    before = [] := by
  cases before with
  | nil => rfl
  | cons z before => simp at h

/-- **What goes step by step is done in order.** -/
theorem Changing.orderly (hchoose : ∀ found id, choose found = .ok id → ∃ slot ∈ found, slot.id = id)
    (h : Changing target choose plan xs r) : Orderly target choose plan (r, xs) := by
  cases h with
  | unpassed hnot =>
      refine ⟨.inl List.nil_prefix, by simp, by simp [Chose, Listed], by simp, by simp [Listed],
        by simp [hnot], by simp [Listed]⟩
  | @unlisted outcome f hfailure =>
      have hunlisted : ∀ {table rest}, ¬ Listed target [(listCommand target, outcome)] table rest := by
        rintro table rest ⟨_, hxs, houtput⟩
        cases hxs
        exact hfailure (succeeded_of_outputOf houtput)
      refine ⟨.inl List.prefix_rfl, ?_, by simp [hfailure], by simp, ?_, by simp, ?_⟩
      · intro before x after hxs
        simp [nothing_before hxs]
      · intro table rest f hlisted
        exact absurd hlisted hunlisted
      · intro table rest id hlisted
        exact absurd hlisted hunlisted
  | @refused outcome table f houtput hrefused =>
      have hlisted : Listed target [(listCommand target, outcome)] table [] := ⟨_, rfl, houtput⟩
      refine ⟨.inl List.prefix_rfl, ?_, ?_, by simp, ?_, by simp, ?_⟩
      · intro before x after hxs
        simp [nothing_before hxs]
      · constructor
        · intro h
          cases h
        · rintro ⟨slot, rest, ⟨table', hlisted', -, hchosen⟩, -⟩
          obtain ⟨rfl, -⟩ := hlisted.unique hlisted'
          rw [hrefused] at hchosen
          cases hchosen
      · intro table' rest f' hlisted' hrefused'
        obtain ⟨rfl, rfl⟩ := hlisted.unique hlisted'
        rw [hrefused] at hrefused'
        cases hrefused'
        exact ⟨rfl, rfl⟩
      · intro table' rest id hlisted' hchosen
        obtain ⟨rfl, -⟩ := hlisted.unique hlisted'
        rw [hrefused] at hchosen
        cases hchosen
  | @carried outcome table id rest r houtput hchosen hproceeds =>
      obtain ⟨slot, hslot, rfl⟩ := hchoose _ _ hchosen
      have hlisted : Listed target ((listCommand target, outcome) :: rest) table rest :=
        ⟨_, rfl, houtput⟩
      have hchose := (⟨table, hlisted, hslot, hchosen⟩ : Chose target choose _ slot rest)
      have hfirst := succeeded_of_outputOf houtput
      refine ⟨.inr ⟨slot, rest, hchose, hproceeds.isPrefix⟩, ?_, ?_, hproceeds.error_of_ne, ?_,
        by simp, ?_⟩
      · intro before x after hxs
        cases before with
        | nil => simp
        | cons y before =>
            obtain ⟨rfl, hrest⟩ := List.cons.inj hxs
            exact List.forall_mem_cons.mpr ⟨hfirst, hproceeds.succeeded_before hrest⟩
      · rw [hproceeds.ok_iff]
        constructor
        · rintro ⟨hall, hsucceeded⟩
          exact ⟨slot, rest, hchose, hall, List.forall_mem_cons.mpr ⟨hfirst, hsucceeded⟩⟩
        · rintro ⟨slot', rest', ⟨table', hlisted', -, hchosen'⟩, hall, hsucceeded⟩
          obtain ⟨rfl, rfl⟩ := hlisted.unique hlisted'
          rw [hchosen] at hchosen'
          rw [Except.ok.inj hchosen']
          exact ⟨hall, (List.forall_mem_cons.mp hsucceeded).2⟩
      · intro table' rest' f hlisted' hrefused
        obtain ⟨rfl, -⟩ := hlisted.unique hlisted'
        rw [hchosen] at hrefused
        cases hrefused
      · intro table' rest' id hlisted' hchosen' hpassable hsucceeded
        obtain ⟨rfl, -⟩ := hlisted.unique hlisted'
        rw [hchosen] at hchosen'
        cases hchosen'
        exact hproceeds.complete hpassable (List.forall_mem_cons.mp hsucceeded).2

/-- What was run before a command of the plan: the listing, and the commands that the plan has before
it. -/
theorem Orderly.planned {change : Except Fault Bool × List Run} {before after : List Run}
    {outcome : Outcome} (h : Orderly target choose plan change) (hwords : words ≠ listWords)
    (hruns : change.2 = before ++ (commandFor target words, outcome) :: after) :
    ∃ slot rest us vs, Chose target choose change.2 slot rest ∧
      plan slot.id = us ++ words :: vs ∧
      before.map Prod.fst = (listWords :: us).map (commandFor target) := by
  have hcommand : commandFor target words ≠ listCommand target :=
    fun heq => hwords (commandFor_injective heq)
  rcases h.inOrder with hlist | ⟨slot, rest, hchose, hrest⟩
  · -- The listing alone was run, or nothing at all.
    have hmem : commandFor target words ∈ change.2.map Prod.fst := by simp [hruns]
    exact absurd (List.mem_singleton.mp (hlist.subset hmem)) hcommand
  · have hchosen := hchose
    obtain ⟨table, ⟨first, hfirst, -⟩, -⟩ := hchose
    cases before with
    | nil =>
        obtain ⟨heq, -⟩ := List.cons.inj (hfirst.symm.trans hruns)
        exact absurd (congrArg Prod.fst heq).symm hcommand
    | cons y before =>
        rw [List.cons_append] at hruns
        obtain ⟨rfl, rfl⟩ := List.cons.inj (hfirst.symm.trans hruns)
        obtain ⟨more, hplan⟩ := hrest
        rw [List.map_append, List.map_cons, List.append_assoc] at hplan
        obtain ⟨us, ws, hus, hbefore, hws⟩ := List.map_eq_append_iff.mp hplan.symm
        obtain ⟨words', vs, rfl, hword, -⟩ := List.map_eq_cons_iff.mp hws
        obtain rfl := commandFor_injective hword
        refine ⟨slot, _, us, vs, hchosen, hus, ?_⟩
        rw [List.map_cons, List.map_cons, hbefore]
        rfl

/-- Commands with such words are run only once the commands `earlier` were run, with success. -/
def OnlyAfter (target : Target) (words : String → List String)
    (earlier : String → List (List String)) (xs : List Run) : Prop :=
  ∀ before id outcome after, xs = before ++ (commandFor target (words id), outcome) :: after →
    before.map Prod.fst = (earlier id).map (commandFor target) ∧ ∀ y ∈ before, y.2.Succeeded

/-- Commands with such words are not run. -/
def Never (target : Target) (words : String → List String) (xs : List Run) : Prop :=
  ∀ id, ∀ x ∈ xs, x.1 ≠ commandFor target (words id)

section

variable {change : Except Fault Bool × List Run} {shape : String → List String}
  {earlier : String → List (List String)}

theorem Orderly.onlyAfter (h : Orderly target choose plan change)
    (hshape : ∀ id, shape id ≠ listWords)
    (hplan : ∀ slot id us vs, plan slot = us ++ shape id :: vs → listWords :: us = earlier id) :
    OnlyAfter target shape earlier change.2 := by
  intro before id outcome after hruns
  obtain ⟨slot, rest, us, vs, -, hus, hbefore⟩ := h.planned (hshape id) hruns
  rw [hbefore, hplan slot.id id us vs hus]
  exact ⟨rfl, h.earlier _ _ _ hruns⟩

theorem Orderly.never (h : Orderly target choose plan change) (hshape : ∀ id, shape id ≠ listWords)
    (hplan : ∀ slot rest id, Chose target choose change.2 slot rest → shape id ∉ plan slot.id) :
    Never target shape change.2 := by
  intro id x hx hcommand
  obtain ⟨before, after, hruns⟩ := List.append_of_mem hx
  obtain ⟨command, outcome⟩ := x
  obtain rfl : command = _ := hcommand
  obtain ⟨slot, rest, us, vs, hchose, hus, -⟩ := h.planned (hshape id) hruns
  apply hplan slot rest id hchose
  simp [hus]

end

end Changing

/-! ## The changes of users -/

def setName (id name : String) : List String := ["user", "set", "name", id, name]

def clearName (id : String) : List String := setName id ""

def setPassword (id password : String) : List String := ["user", "set", "password", id, password]

def setAccess (role : UserRole) (id : String) : List String :=
  ["channel", "setaccess", "1", id, "link=on", "ipmi=on", "callin=on", privilege role]

def enable (id : String) : List String := ["user", "enable", id]

def disable (id : String) : List String := ["user", "disable", id]

/-- The commands that create a user in a slot. -/
def creating (user password : String) (role : UserRole) (id : String) : List (List String) :=
  [setName id user, setPassword id password, setAccess role id, enable id]

def updating (password : String) (role : UserRole) (id : String) : List (List String) :=
  [setPassword id password, setAccess role id]

def deleting (id : String) : List (List String) := [disable id, clearName id]

section

variable {user password id : String} {role : UserRole} {found : List UserAccount}

theorem CarriesOut.grant {rest : Talk Bool} (h : CarriesOut target plan rest) :
    CarriesOut target (setAccess role id :: plan) (grant target id role >>= fun _ => rest) := by
  have hgrant : (Ipmi.grant target id role >>= fun _ => rest) =
      Ipmi.run target (setAccess role id) >>= fun _ => rest := by
    rw [Ipmi.grant, talk_assoc]
    rfl
  rw [hgrant]
  exact h.run

/-- How a user is created: in order, so that a slot is enabled only after its name, password and
privilege were set. -/
structure Creates (target : Target) (user password : String) (role : UserRole)
    (change : Except Fault Bool × List Run) : Prop
    extends Orderly target (freeSlot user) (creating user password role) change where
  enabled : OnlyAfter target enable
    (fun id => [listWords, setName id user, setPassword id password, setAccess role id]) change.2
  uncleared : Never target clearName change.2
  /-- A name that is listed, or a list without a slot to take, stops it before it changes anything. -/
  unchanged : ∀ table rest, Listed target change.2 table rest →
    ((∃ slot ∈ slotsOf table, slot.name = user) ∨
      ∀ slot ∈ slotsOf table, slot.name = "" → slot.id = "1") →
    rest = [] ∧ ∃ f, change.1 = .error f

/-- How a user is given another password and role. -/
structure Updates (target : Target) (user password : String) (role : UserRole)
    (change : Except Fault Bool × List Run) : Prop
    extends Orderly target (slotOf user) (updating password role) change where
  unenabled : Never target enable change.2
  uncleared : Never target clearName change.2

/-- How a user is deleted: in order, so that the name is cleared on a disabled slot only. -/
structure Deletes (target : Target) (user : String)
    (change : Except Fault Bool × List Run) : Prop
    extends Orderly target (slotOf user) deleting change where
  cleared : OnlyAfter target clearName (fun id => [listWords, disable id]) change.2
  unenabled : Never target enable change.2

theorem enable_ne_listWords (id : String) : enable id ≠ listWords := by simp [enable, listWords]

theorem clearName_ne_listWords (id : String) : clearName id ≠ listWords := by
  simp [clearName, setName, listWords]

/-- Enabling is the last command that creates a user. -/
theorem before_enable {slot : String} {us vs : List (List String)}
    (h : creating user password role slot = us ++ enable id :: vs) :
    us = [setName id user, setPassword id password, setAccess role id] := by
  simp only [creating, setName, setPassword, setAccess, enable, List.cons_eq_append_iff,
    List.cons.injEq, String.reduceEq, List.nil_eq, reduceCtorEq, and_false, and_self, false_and,
    and_true, true_and, List.append_eq_nil_iff, exists_const, or_false, false_or] at h
  obtain ⟨_, rfl, _, rfl, _, rfl, rfl, rfl, -⟩ := h
  rfl

theorem before_clearName {slot : String} {us vs : List (List String)}
    (h : deleting slot = us ++ clearName id :: vs) : us = [disable id] := by
  simp only [deleting, clearName, setName, disable, List.cons_eq_append_iff, List.cons.injEq,
    String.reduceEq, List.nil_eq, reduceCtorEq, and_false, and_self, false_and, and_true,
    true_and, List.append_eq_nil_iff, exists_const, or_false, false_or] at h
  obtain ⟨_, rfl, rfl, rfl, -⟩ := h
  rfl

/-- Only a user without a name would be created by clearing the name of a slot. -/
theorem eq_empty_of_clearName_mem {slot : String}
    (h : clearName id ∈ creating user password role slot) : user = "" := by
  simp only [creating, clearName, setName, setPassword, setAccess, enable, List.mem_cons,
    List.cons.injEq, String.reduceEq, true_and, and_true, false_and, and_false, reduceCtorEq,
    List.not_mem_nil, or_false] at h
  exact h.2.symm

end

section

variable {σ : Type} (target : Target) (peer : Command → σ → Outcome × σ) (w : σ) (now : Nat)
  (user password : String) (role : UserRole)

theorem told_creates :
    Creates target user password role (told target peer w now (.userCreate user password role)) := by
  have horderly : Orderly target (freeSlot user) (creating user password role)
      (told target peer w now (.userCreate user password role)) := by
    have htells := (handle_tells target peer w now (.userCreate user password role)).1
    refine Changing.orderly ?_ (Tells.changing ?_ htells)
    · intro found id hchoice
      obtain ⟨-, slot, hslot, hid, -⟩ := freeSlot_ok hchoice
      exact ⟨slot, hslot, hid⟩
    · intro id
      exact CarriesOut.done.run.grant.run.run
  refine ⟨horderly, ?_, ?_, ?_⟩
  · apply horderly.onlyAfter enable_ne_listWords
    intro slot id us vs hplan
    rw [before_enable hplan]
  · apply horderly.never clearName_ne_listWords
    rintro slot rest id ⟨table, -, -, hchoice⟩ hmem
    -- An empty name would be one that is in use: the name of the slot that was chosen.
    obtain ⟨hfresh, free, hfree, -, -, hempty⟩ := freeSlot_ok hchoice
    have huser := eq_empty_of_clearName_mem hmem
    exact hfresh free hfree (hempty.trans huser.symm)
  · intro table rest hlisted hnone
    cases hchoice : freeSlot user (slotsOf table) with
    | error f =>
        obtain ⟨hrest, hresult⟩ := horderly.refused table rest f hlisted hchoice
        exact ⟨hrest, f, hresult⟩
    | ok id =>
        obtain ⟨hfresh, slot, hslot, -, hid, hempty⟩ := freeSlot_ok hchoice
        rcases hnone with ⟨other, hother, hname⟩ | hnone
        · exact absurd hname (hfresh other hother)
        · exact absurd (hnone slot hslot hempty) hid

theorem told_updates :
    Updates target user password role (told target peer w now (.userUpdate user password role)) := by
  have horderly : Orderly target (slotOf user) (updating password role)
      (told target peer w now (.userUpdate user password role)) := by
    have htells := (handle_tells target peer w now (.userUpdate user password role)).1
    refine Changing.orderly (fun _ _ => slotOf_listed) (Tells.changing ?_ htells)
    intro id
    exact CarriesOut.done.grant.run
  refine ⟨horderly, ?_, ?_⟩
  · apply horderly.never enable_ne_listWords
    intro slot rest id _
    simp [updating, setPassword, setAccess, enable]
  · apply horderly.never clearName_ne_listWords
    intro slot rest id _
    simp [updating, setPassword, setAccess, clearName, setName]

theorem told_deletes :
    Deletes target user (told target peer w now (.userDelete user)) := by
  have horderly : Orderly target (slotOf user) deleting
      (told target peer w now (.userDelete user)) := by
    have htells := (handle_tells target peer w now (.userDelete user)).1
    refine Changing.orderly (fun _ _ => slotOf_listed) (Tells.changing ?_ htells)
    intro id
    exact CarriesOut.done.run.run
  refine ⟨horderly, ?_, ?_⟩
  · apply horderly.onlyAfter clearName_ne_listWords
    intro slot id us vs hplan
    rw [before_clearName hplan]
  · apply horderly.never enable_ne_listWords
    intro slot rest id _
    simp [deleting, disable, clearName, setName, enable]

/-- **Users are changed in order**, whatever the tool does: command after command for one slot of the
list, each only after the success of all before it. So no slot is enabled before it has its name,
password and privilege, and no name is cleared on a slot that is not disabled. -/
theorem user_changes_in_order :
    Creates target user password role
      (told target peer w now (.userCreate user password role)) ∧
    Updates target user password role
      (told target peer w now (.userUpdate user password role)) ∧
    Deletes target user (told target peer w now (.userDelete user)) :=
  ⟨told_creates target peer w now user password role,
    told_updates target peer w now user password role, told_deletes target peer w now user⟩

end

end OutOfBand.Ipmi
