import OutOfBand.Proofs.Redfish.Asking
import OutOfBand.Proofs.Redfish.Credentials

/-!
# One change in a call

Whatever it is answered, a call to the Redfish driver changes at most one thing. The request that
does so is the last one of the call, after reads that were all answered with a resource, and the
call fails unless that request was a success (`call_changes_once`).
-/

namespace OutOfBand.Redfish

variable {target : Target} {s : State} {known : String → Prop} {mayChange done : Bool}
  {xs : List Exchange}

/-- At most one thing is changed by what is said in a call that is done, or is not. -/
structure OneChange (xs : List Exchange) (done : Bool) : Prop where
  /-- At most one of the requests does anything but read. -/
  count : xs.countP (·.1.method ≠ .get) ≤ 1
  /-- It comes after reads that all were answered with a resource, and nothing comes after it. -/
  last : ∀ ys x zs, xs = ys ++ x :: zs → x.1.method ≠ .get → zs = [] ∧ AllRead ys
  /-- If it was in vain, the call fails. -/
  failed : ∀ x ∈ xs, x.1.method ≠ .get → ¬ Succeeded x → done = false

theorem last_of_due (h : Each (Due target s known mayChange) [] xs) {ys zs : List Exchange}
    {x : Exchange} (hxs : xs = ys ++ x :: zs) (hx : x.1.method ≠ .get) : zs = [] ∧ AllRead ys := by
  refine ⟨?_, by simpa using (h ys x zs hxs).earlier⟩
  cases zs with
  | nil => rfl
  | cons z zs =>
      -- What follows would be due only after reads.
      have hz : Due target s known mayChange ([] ++ (ys ++ [x])) z :=
        h (ys ++ [x]) z zs (by simp [hxs])
      exact absurd (hz.earlier x (by simp)).1 hx

theorem countP_le_one_of_due (h : Each (Due target s known mayChange) [] xs) :
    xs.countP (·.1.method ≠ .get) ≤ 1 := by
  by_cases hchange : ∃ x ∈ xs, x.1.method ≠ .get
  · obtain ⟨x, hx, hmethod⟩ := hchange
    obtain ⟨ys, zs, hxs⟩ := List.append_of_mem hx
    obtain ⟨rfl, hread⟩ := last_of_due h hxs hmethod
    have hys : ys.countP (·.1.method ≠ .get) = 0 :=
      List.countP_eq_zero.mpr fun y hy => by simp [(hread y hy).1]
    rw [hxs, List.countP_append, hys, Nat.zero_add]
    exact List.countP_le_length
  · have hnone : xs.countP (·.1.method ≠ .get) = 0 :=
      List.countP_eq_zero.mpr fun x hx => by
        simpa using fun hmethod => hchange ⟨x, hx, hmethod⟩
    omega

theorem Goes.oneChange {s' : State} {c : Call} {r : Except Fault c.Answer}
    (h : Goes (act target c) s xs r s') :
    OneChange xs r.isOk ∧ (c.onlyReads = true → ∀ x ∈ xs, x.1.method = .get) := by
  obtain ⟨hdue, hfault⟩ := h.asked (fun _ => True) fun _ _ => trivial
  refine ⟨⟨countP_le_one_of_due hdue, fun _ _ _ => last_of_due hdue, fun x hx _ hvain => ?_⟩,
    fun hreads x hx => ?_⟩
  · cases hheard : heard s x with
    | ok reply => exact absurd (succeeded_of_heard hheard) hvain
    | error f =>
        rw [hfault x hx f hheard]
        rfl
  · obtain ⟨before, hx⟩ := hdue.of_mem hx
    simpa [hreads] using hx.method

theorem Does.get_of_probe {s' : State} (h : Does target s .probe xs done s') :
    ∀ x ∈ xs, x.1.method = .get := by
  cases h with
  | probe hgoes =>
      intro x hx
      obtain ⟨before, hdue⟩ := (hgoes.asked_of_probe fun _ => True).of_mem hx
      simpa using hdue.method

/-- **A call changes at most one thing**, whatever the driver remembers and whatever it is answered.
Its last request may do so, after reads that all were answered with a resource; the call fails
unless that request was a success. Calls that only read, and a probe, change nothing. -/
theorem call_changes_once {σ : Type} (target : Target) (peer : Web.Request → σ → Web.Outcome × σ)
    (p : Standing σ) (now : Nat) :
    (∀ c : Call,
      let r := (((capabilities target (Dialog.noting peer)).handle c).outcome now p).1
      let xs := said target peer p now (.call c)
      OneChange xs r.isOk ∧ (c.onlyReads = true → ∀ x ∈ xs, x.1.method = .get)) ∧
    ∀ x ∈ said target peer p now .probe, x.1.method = .get := by
  constructor
  · intro c
    obtain ⟨r, s', v, hgoes, hresult, -⟩ := handle_says target peer p now c
    simp only [hresult]
    exact hgoes.oneChange
  · obtain ⟨done, s', v, hdoes, -⟩ := carryOut_says target peer p now .probe
    exact hdoes.get_of_probe

/-- A service with one account and with two slots for media, into none of which anything can be
inserted. -/
def fullSlots (q : Web.Request) (_ : Unit) : Web.Outcome × Unit :=
  let resource (content : String) : Web.Outcome × Unit :=
    (.answered ⟨200, [], Text.Utf8.encode content⟩, ())
  let link (path : String) : String := "\x7b\"@odata.id\":\"" ++ path ++ "\"\x7d"
  match q.method, q.url.path with
  | .get, "/redfish/v1/Managers/1/VirtualMedia" =>
    resource ("\x7b\"Members\":[" ++ link "/slots/1" ++ "," ++ link "/slots/2" ++ "]\x7d")
  | .get, "/slots/1" => resource "\x7b\"MediaTypes\":[\"Floppy\"]\x7d"
  | .get, "/slots/2" => resource "\x7b\"MediaTypes\":[\"CD\"]\x7d"
  | .get, "/redfish/v1/AccountService/Accounts" =>
    resource ("\x7b\"Members\":[" ++ link "/accounts/1" ++ "]\x7d")
  | .get, _ => resource "\x7b\"UserName\":\"admin\"\x7d"
  | _, _ => (.answered ⟨503, [], []⟩, ())

theorem call_changes_once_in_full_slots :
    let insert : Call := .virtualMedia .cd "http://images/os.iso"
    let xs := said configuredTarget fullSlots (start ()) 0 (.call insert)
    xs.map (·.1.method) = [.get, .get, .get, .post] ∧ OneChange xs false ∧
      ∀ x ∈ said configuredTarget fullSlots (start ()) 0 (.call .users), x.1.method = .get := by
  intro insert xs
  have hplayed : xs.map (·.1.method) = [.get, .get, .get, .post] ∧
      ((((capabilities configuredTarget (Dialog.noting fullSlots)).handle
        insert).outcome 0 (start ())).1).isOk = false := by decide +kernel
  have h := (call_changes_once configuredTarget fullSlots (start ()) 0).1
  refine ⟨hplayed.1, ?_, (h .users).2 rfl⟩
  rw [← hplayed.2]
  exact (h insert).1

end OutOfBand.Redfish
