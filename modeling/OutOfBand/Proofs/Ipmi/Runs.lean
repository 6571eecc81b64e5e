import OutOfBand.Ipmi.Tool
import OutOfBand.Proofs.Transcript

/-!
# How talks with the IPMI tool go

A talk of the driver is a dialog whose questions are runs of the tool. `Tells talk xs r` says that
these runs can make up the talk, which then has the result `r`; each way to put talks together has
one lemma. Whatever tool is run, a call is one such talk (`handle_tells`).
-/

namespace OutOfBand.Ipmi

/-- A run of the tool, and how it ended. -/
abbrev Run := Command × Outcome

/-- The words of the command that lists the slots of the users. -/
def listWords : List String := ["user", "list", "1"]

def listCommand (target : Target) : Command := commandFor target listWords

theorem commandFor_injective {target : Target} : Function.Injective (commandFor target) := by
  intro words words' h
  exact List.append_cancel_left (congrArg Command.args h)

/-- So a talk can go: with these runs and this result. -/
def Tells (talk : Talk α) (xs : List Run) (r : Except Fault α) : Prop := talk.run.Went xs r

section Tells

variable {α β : Type} {target : Target} {words : List String} {xs : List Run}

theorem tells_done_iff {e r : Except Fault α} :
    Tells (ExceptT.mk (.done e)) xs r ↔ xs = [] ∧ r = e := Dialog.went_done_iff

theorem tells_pure_iff {a : α} {r : Except Fault α} :
    Tells (pure a) xs r ↔ xs = [] ∧ r = .ok a := Dialog.went_done_iff

/-- What follows after a talk: what its answer asks for, or nothing if it failed. -/
def followed (f : α → Talk β) : Except Fault α → Dialog Command Outcome (Except Fault β)
  | .ok a => (f a).run
  | .error e => .done (.error e)

theorem run_bind (talk : Talk α) (f : α → Talk β) :
    (talk >>= f).run = talk.run.bind (followed f) := by
  show Dialog.bind _ _ = _
  congr 1
  funext r
  cases r <;> rfl

theorem tells_bind_iff {talk : Talk α} {f : α → Talk β} {r : Except Fault β} :
    Tells (talk >>= f) xs r ↔ (∃ e, Tells talk xs (.error e) ∧ r = .error e) ∨
      ∃ a ys zs, xs = ys ++ zs ∧ Tells talk ys (.ok a) ∧ Tells (f a) zs r := by
  unfold Tells
  rw [run_bind, Dialog.went_bind_iff]
  constructor
  · rintro ⟨ys, zs, e | a, rfl, htalk, hrest⟩
    · obtain ⟨rfl, hr⟩ := Dialog.went_done_iff.mp hrest
      rw [List.append_nil]
      exact .inl ⟨e, htalk, hr⟩
    · exact .inr ⟨a, ys, zs, rfl, htalk, hrest⟩
  · rintro (⟨e, htalk, rfl⟩ | ⟨a, ys, zs, rfl, htalk, hrest⟩)
    · exact ⟨xs, [], .error e, (List.append_nil xs).symm, htalk, .done _⟩
    · exact ⟨ys, zs, .ok a, rfl, htalk, hrest⟩

theorem talk_assoc {γ : Type} (talk : Talk α) (f : α → Talk β) (g : β → Talk γ) :
    talk >>= f >>= g = talk >>= fun a => f a >>= g := by
  show ((talk >>= f) >>= g).run = (talk >>= fun a => f a >>= g).run
  rw [run_bind, run_bind, run_bind, Dialog.bind_assoc]
  congr 1
  funext r
  cases r with
  | error e => rfl
  | ok a => exact (run_bind (f a) g).symm

/-- A command that is run, unless its texts cannot be passed. -/
theorem Tells.of_run {r : Except Fault String} (h : Tells (run target words) xs r) :
    (xs = [] ∧ (commandFor target words).isPassable = false ∧ ∃ f, r = .error f) ∨
      ∃ outcome, xs = [(commandFor target words, outcome)] ∧
        r = outputOf target.options.ipmi.toolPath outcome := by
  unfold run at h
  simp only at h
  split at h
  · cases h with
    | @ask _ outcome _ xs _ h =>
        obtain ⟨rfl, hr⟩ := Dialog.went_done_iff.mp h
        exact .inr ⟨outcome, rfl, hr⟩
  · rename_i hnot
    obtain ⟨hxs, hr⟩ := Dialog.went_done_iff.mp h
    exact .inl ⟨hxs, Bool.eq_false_iff.mpr hnot, _, hr⟩

/-- A table of slots that was read and is read into something. -/
theorem Tells.of_read {f : String → α} {words : List String} {r : Except Fault α}
    (h : Tells (run target words >>= fun table => pure (f table)) xs r) :
    ∃ r', Tells (run target words) xs r' ∧ r = r'.map f := by
  rcases tells_bind_iff.mp h with ⟨e, hrun, rfl⟩ | ⟨table, us, vs, rfl, hrun, hpure⟩
  · exact ⟨_, hrun, rfl⟩
  · obtain ⟨rfl, rfl⟩ := tells_pure_iff.mp hpure
    exact ⟨_, by rwa [List.append_nil], rfl⟩

/-- Whatever the tool prints, a talk runs only such commands. -/
def RunsOnly (P : Command → Prop) (talk : Talk α) : Prop :=
  ∀ xs r, Tells talk xs r → ∀ x ∈ xs, P x.1

namespace RunsOnly

variable {P : Command → Prop}

theorem pure (a : α) : RunsOnly P (pure a) := by
  intro xs r h
  simp [(tells_pure_iff.mp h).1]

theorem bind {talk : Talk α} {f : α → Talk β} (h : RunsOnly P talk)
    (h' : ∀ a, RunsOnly P (f a)) : RunsOnly P (talk >>= f) := by
  intro xs r htells x hx
  rcases tells_bind_iff.mp htells with ⟨e, htalk, -⟩ | ⟨a, ys, zs, rfl, htalk, hrest⟩
  · exact h _ _ htalk x hx
  · rcases List.mem_append.mp hx with hx | hx
    · exact h _ _ htalk x hx
    · exact h' a _ _ hrest x hx

theorem run (hP : P (commandFor target words)) : RunsOnly P (run target words) := by
  intro xs r h x hx
  rcases h.of_run with ⟨rfl, -⟩ | ⟨outcome, rfl, -⟩
  · cases hx
  · obtain rfl := List.mem_singleton.mp hx
    exact hP

end RunsOnly

end Tells

/-! ## Slots that are chosen -/

section

variable {user id : String} {found : List UserAccount}

theorem freeSlot_ok (h : freeSlot user found = .ok id) :
    (∀ slot ∈ found, slot.name ≠ user) ∧
      ∃ slot ∈ found, slot.id = id ∧ slot.id ≠ "1" ∧ slot.name = "" := by
  unfold freeSlot at h
  split at h
  · cases h
  · rename_i hnone
    split at h
    · rename_i slot hfind
      cases h
      have hslot := List.find?_some hfind
      simp only [Bool.and_eq_true, bne_iff_ne, beq_iff_eq] at hslot
      refine ⟨?_, slot, List.mem_of_find?_eq_some hfind, rfl, hslot.1, hslot.2⟩
      simpa using hnone
    · cases h

theorem slotOf_ok (h : slotOf user found = .ok id) :
    ∃ slot ∈ found, slot.id = id ∧ slot.name = user := by
  unfold slotOf at h
  split at h
  · rename_i slot hfind
    cases h
    have huser : slot.name = user := by simpa using List.find?_some hfind
    exact ⟨slot, List.mem_of_find?_eq_some hfind, rfl, huser⟩
  · cases h

theorem slotOf_listed (h : slotOf user found = .ok id) : ∃ slot ∈ found, slot.id = id := by
  obtain ⟨slot, hslot, hid, -⟩ := slotOf_ok h
  exact ⟨slot, hslot, hid⟩

end

/-! ## Calls -/

section Calls

variable {σ : Type} (target : Target) (peer : Command → σ → Outcome × σ)

/-- What comes of a call, with a tool that `peer` runs: the result, and what was run. -/
def told (w : σ) (now : Nat) (c : Call) : Except Fault c.Answer × List Run :=
  let (r, _, xs) := ((capabilities target (Dialog.noting peer)).handle c).outcome now (w, [])
  (r, xs)

/-- **A call is a talk**, with the answers of whoever runs the tool. -/
theorem handle_tells (w : σ) (now : Nat) (c : Call) :
    Tells (talk target c) (told target peer w now c).2 (told target peer w now c).1 ∧
      ∃ v, Dialog.Answered peer w (told target peer w now c).2 v := by
  obtain ⟨xs, hwent, hanswered, hplay⟩ := Dialog.play_noting peer (talk target c).run w
  have htold : told target peer w now c = (((talk target c).run.play peer w).1, xs) := by
    simp [told, capabilities, Dialog.operation, Operation.outcome, Operation.instantly, hplay []]
  rw [htold]
  exact ⟨hwent, _, hanswered⟩

end Calls

end OutOfBand.Ipmi
