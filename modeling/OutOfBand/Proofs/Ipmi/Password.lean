import OutOfBand.Proofs.Ipmi.Runs

/-!
# The password and the command line

The password for the controller goes to the tool in its environment. Whatever the driver is asked to
do, it runs the same command lines for one password as for another, as long as the tool ends its
runs in the same way (`password_off_command_line`): a talk looks at the target only where it runs
the tool (`Alike`). There is one exception. The system does not pass a text with a NUL in it, so
with such a password nothing is run.
-/

namespace OutOfBand.Ipmi

variable {target target' : Target} {password : String} {α β : Type}

/-! ## Two targets -/

/-- The talks run the same words for the two targets, and look at them nowhere else. -/
inductive Alike (target target' : Target) : {α : Type} → Talk α → Talk α → Prop
  | done {α : Type} (r : Except Fault α) :
      Alike target target' (ExceptT.mk (.done r)) (ExceptT.mk (.done r))
  | run (words : List String) : Alike target target' (run target words) (run target' words)
  | bind {α β : Type} {talk talk' : Talk α} {f f' : α → Talk β}
      (h : Alike target target' talk talk') (hf : ∀ a, Alike target target' (f a) (f' a)) :
      Alike target target' (talk >>= f) (talk' >>= f')

namespace Alike

theorem pure (a : α) : Alike target target' (pure a) (pure a) := .done (.ok a)

theorem powerState : Alike target target' (powerState target) (powerState target') :=
  .bind (.run _) fun _ => .pure _

theorem powerSet (action : PowerAction) :
    Alike target target' (powerSet target action) (powerSet target' action) := by
  unfold Ipmi.powerSet
  split
  · exact .bind .powerState fun _ => .bind (.pure _) fun _ => .bind (.run _) fun _ => .pure _
  · exact .bind (.pure _) fun _ => .bind (.run _) fun _ => .pure _

theorem slots : Alike target target' (slots target) (slots target') :=
  .bind (.run _) fun _ => .pure _

theorem grant (id : String) (role : UserRole) :
    Alike target target' (grant target id role) (grant target' id role) :=
  .bind (.run _) fun _ => .pure _

theorem userCreate (user password : String) (role : UserRole) : Alike target target'
    (userCreate target user password role) (userCreate target' user password role) :=
  .bind .slots fun _ => .bind (.done _) fun id => .bind (.run _) fun _ => .bind (.run _) fun _ =>
    .bind (.grant id role) fun _ => .bind (.run _) fun _ => .pure _

theorem userUpdate (user password : String) (role : UserRole) : Alike target target'
    (userUpdate target user password role) (userUpdate target' user password role) :=
  .bind .slots fun _ => .bind (.done _) fun id => .bind (.run _) fun _ =>
    .bind (.grant id role) fun _ => .pure _

theorem userDelete (user : String) :
    Alike target target' (userDelete target user) (userDelete target' user) :=
  .bind .slots fun _ => .bind (.done _) fun _ => .bind (.run _) fun _ => .bind (.run _) fun _ =>
    .pure _

/-- **Every call** runs the same words for one target as for another. -/
theorem talk (c : Call) : Alike target target' (talk target c) (talk target' c) := by
  cases c with
  | powerState => exact .powerState
  | powerSet action => exact .powerSet action
  | userCreate user password role => exact .userCreate user password role
  | userUpdate user password role => exact .userUpdate user password role
  | userDelete user => exact .userDelete user
  | clearEventLog => exact .bind (.run _) fun _ => .pure _
  | bootDeviceSet device options => exact .bind (.run _) fun _ => .pure _
  | users => exact .bind (.run _) fun _ => .pure _
  | bmcReset kind => exact .bind (.run _) fun _ => .pure _
  | eventLog => exact .bind (.run _) fun _ => .pure _
  | sensors => exact .bind (.run _) fun _ => .pure _
  | virtualMedia kind url => exact .done _
  | firmwareInstall component applyTime force image => exact .done _
  | firmwareInstallStatus version component task => exact .done _
  | firmwareUpload component image => exact .done _
  | firmwareUploadAndInitiate component image => exact .done _
  | firmwareInstallUploaded component task => exact .done _
  | firmwareTaskStatus kind component task version => exact .done _
  | firmwareInstallSteps component => exact .done _
  | screenshot => exact .done _
  | inventory => exact .done _

end Alike

/-! ## Two passwords -/

/-- The same target with another password. -/
def withPassword (target : Target) (password : String) : Target := { target with password }

/-- The same run of the tool with another password in its environment. -/
def Command.withPassword (password : String) (c : Command) : Command := { c with password }

/-- What the list of processes shows of a run: the program and its arguments. -/
def Command.line (c : Command) : String × List String := (c.tool, c.args)

/-- A talk goes on in the same way after another one with the same commands. -/
theorem run_bind_reworded {talk talk' : Talk α} {f f' : α → Talk β} {p : Command → Command}
    (h : talk'.run = talk.run.reworded p) (hf : ∀ a, (f' a).run = (f a).run.reworded p) :
    (talk' >>= f').run = (talk >>= f).run.reworded p := by
  rw [run_bind, run_bind, Dialog.reworded_bind, h]
  congr 1
  funext r
  cases r with
  | error e => rfl
  | ok a => exact hf a

theorem isPassable_withPassword (hnul : holdsNul target.password = holdsNul password)
    (words : List String) : (commandFor (withPassword target password) words).isPassable =
      (commandFor target words).isPassable := by
  simp only [Command.isPassable, commandFor, withPassword, List.any_cons, hnul]
  rfl

theorem run_reworded (hnul : holdsNul target.password = holdsNul password) (words : List String) :
    (run (withPassword target password) words).run =
      (run target words).run.reworded (Command.withPassword password) := by
  simp only [run, isPassable_withPassword hnul]
  split <;> rfl

theorem Alike.reworded (hnul : holdsNul target.password = holdsNul password) {talk talk' : Talk α}
    (h : Alike target (Ipmi.withPassword target password) talk talk') :
    talk'.run = talk.run.reworded (Command.withPassword password) := by
  induction h with
  | done r => rfl
  | run words => exact run_reworded hnul words
  | bind _ _ ih ihf => exact run_bind_reworded ih ihf

/-! ## What is run -/

/-- The command can be passed, with the password of the target in its environment. -/
def Suits (target : Target) (c : Command) : Prop :=
  c.isPassable = true ∧ c.password = target.password

theorem Suits.holdsNul_password {c : Command} (h : Suits target c) :
    holdsNul target.password = false := by
  obtain ⟨hpassable, hpassword⟩ := h
  simp only [Command.isPassable, List.any_cons, Bool.not_eq_true', Bool.or_eq_false_iff]
    at hpassable
  exact hpassword ▸ hpassable.2.1

theorem run_suits (words : List String) : RunsOnly (Suits target) (run target words) := by
  by_cases hpassable : (commandFor target words).isPassable = true
  · exact .run ⟨hpassable, rfl⟩
  · intro xs r h
    rw [run, if_neg hpassable] at h
    simp [(tells_done_iff.mp h).1]

theorem Alike.suits {talk talk' : Talk α} (h : Alike target target' talk talk') :
    RunsOnly (Suits target) talk := by
  induction h with
  | done r => exact Dialog.AsksOnly.done r
  | run words => exact run_suits words
  | bind _ _ ih ihf => exact .bind ih ihf

/-- What the driver asks of the tool for a deed, and whether the deed is then done. -/
def dialogOf (target : Target) : Deed → Dialog Command Outcome Bool
  | .call c => (talk target c).run.bind fun r => .done r.isOk
  | .login | .logout => .done true
  | .probe => probe target

theorem dialogOf_suits (deed : Deed) : (dialogOf target deed).AsksOnly (Suits target) := by
  cases deed with
  | call c =>
      have halike : Alike target target (talk target c) (talk target c) := .talk c
      exact .bind halike.suits fun r => .done _
  | login => exact .done _
  | logout => exact .done _
  | probe => exact .bind (run_suits _) fun r => by cases r <;> exact .done _

theorem dialogOf_reworded (hnul : holdsNul target.password = holdsNul password) (deed : Deed) :
    dialogOf (withPassword target password) deed =
      (dialogOf target deed).reworded (Command.withPassword password) := by
  cases deed with
  | call c =>
      rw [dialogOf, dialogOf, Dialog.reworded_bind, (Alike.talk c).reworded hnul]
      rfl
  | login => rfl
  | logout => rfl
  | probe =>
      rw [dialogOf, dialogOf, probe, probe, Dialog.reworded_bind, run_reworded hnul]
      congr 1
      funext r
      cases r <;> rfl

section

variable {σ τ : Type} (peer : Command → σ → Outcome × σ) (w : σ) (now : Nat) (deed : Deed)

/-- What is run for a deed, with a tool that `peer` runs, and how the runs end. -/
def runs (target : Target) : List Run :=
  ((capabilities target (Dialog.noting peer)).carryOut now deed (w, [])).2.2

theorem carryOut_eq (target : Target) :
    (capabilities target peer).carryOut now deed w = (dialogOf target deed).play peer w := by
  cases deed with
  | call c =>
      rw [dialogOf, Dialog.play_bind]
      rfl
  | login => rfl
  | logout => rfl
  | probe => rfl

theorem runs_went (target : Target) :
    ∃ r, (dialogOf target deed).Went (runs peer w now deed target) r := by
  obtain ⟨xs, hwent, -, hplay⟩ := Dialog.play_noting peer (dialogOf target deed) w
  have hruns : runs peer w now deed target = xs := by
    rw [runs, carryOut_eq, hplay]
    exact List.nil_append xs
  exact ⟨_, hruns ▸ hwent⟩

end

/-- **The password stays off the command line.** Let a deed be done for two targets that differ in
nothing but the password. What is run has the password of the target in its environment; if the
password has a NUL in it, nothing is run. If neither password has one, or both, then the runs have
the same command lines for as long as those before them ended alike, and so all of them if all ended
alike: each call is the same dialog with the tool, but for the password in the environment. -/
theorem password_off_command_line {σ τ : Type} (target : Target) (password : String) (deed : Deed)
    (peer : Command → σ → Outcome × σ) (peer' : Command → τ → Outcome × τ) (w : σ) (w' : τ)
    (now now' : Nat) :
    let other := withPassword target password
    let xs := runs peer w now deed target
    let ys := runs peer' w' now' deed other
    (∀ x ∈ xs, x.1.password = target.password) ∧
      (holdsNul target.password = true → xs = []) ∧
      (holdsNul target.password = holdsNul password →
        (∀ n, (xs.map Prod.snd).take n = (ys.map Prod.snd).take n →
          (xs.map fun x => x.1.line).take (n + 1) = (ys.map fun y => y.1.line).take (n + 1)) ∧
        (xs.map Prod.snd = ys.map Prod.snd →
          (xs.map fun x => x.1.line) = ys.map fun y => y.1.line) ∧
        ∀ c, (talk other c).run =
          (talk target c).run.reworded (Command.withPassword password)) := by
  intro other xs ys
  obtain ⟨r, hxs⟩ : ∃ r, (dialogOf target deed).Went xs r := runs_went ..
  obtain ⟨r', hys⟩ : ∃ r, (dialogOf other deed).Went ys r := runs_went ..
  have hsuits : ∀ x ∈ xs, Suits target x.1 := dialogOf_suits deed xs r hxs
  refine ⟨fun x hx => (hsuits x hx).2, fun hnul => ?_, fun hnul => ?_⟩
  · refine List.eq_nil_iff_forall_not_mem.mpr fun x hx => ?_
    rw [(hsuits x hx).holdsNul_password] at hnul
    cases hnul
  · rw [dialogOf_reworded hnul, Dialog.went_reworded_iff] at hys
    obtain ⟨zs, hzs, hyzs⟩ := hys
    have hends : ys.map Prod.snd = zs.map Prod.snd := by
      rw [hyzs, List.map_map]
      rfl
    have hlines : (ys.map fun y => y.1.line) = (zs.map Prod.fst).map Command.line := by
      rw [hyzs, List.map_map, List.map_map]
      rfl
    have hagree : ∀ n, (xs.map Prod.snd).take n = (ys.map Prod.snd).take n →
        (xs.map fun x => x.1.line).take (n + 1) = (ys.map fun y => y.1.line).take (n + 1) := by
      intro n hn
      rw [hends] at hn
      have hquestions := congrArg (List.map Command.line) (hxs.agree hzs hn)
      rw [List.map_take, List.map_take, List.map_map] at hquestions
      rw [hlines]
      exact hquestions
    refine ⟨hagree, fun hall => ?_, fun c => (Alike.talk c).reworded hnul⟩
    have hlength : ys.length = xs.length := by simpa using (congrArg List.length hall).symm
    have hlast := hagree xs.length (by rw [hall])
    rwa [List.take_of_length_le (by simp), List.take_of_length_le (by simp [hlength])] at hlast

/-- With a NUL in the password nothing is run, where another password has its command line. -/
theorem nul_password_runs_nothing :
    let target : Target := { host := "10.0.0.5", username := "admin", password := "pw" }
    let peer : Command → Unit → Outcome × Unit := fun _ w => (.ended (some 0) [] [], w)
    (runs peer () 0 (.call .powerState) target).map (fun x => x.1.line) =
        [("ipmitool", ["-I", "lanplus", "-H", "10.0.0.5", "-p", "623", "-U", "admin", "-E",
          "chassis", "power", "status"])] ∧
      runs peer () 0 (.call .powerState) (withPassword target "p\x00w") = [] := by
  refine ⟨?_, ?_⟩ <;> decide

end OutOfBand.Ipmi
