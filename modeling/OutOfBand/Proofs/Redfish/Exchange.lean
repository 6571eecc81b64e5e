import OutOfBand.Proofs.Transcript
import OutOfBand.Redfish.Service

/-!
# How acts of the Redfish driver go

An act of the driver is a dialog that also changes what the driver remembers. `Goes act s xs r s'`
says that the act, begun with `s`, can have the transcript `xs`, and then has the result `r` and
leaves `s'`. Each way to put acts together has one lemma that says how they go, so that no act need
be played to tell what it asks. A whole course of things that the driver is asked to do (`Course`)
goes from one to the next; the driver itself goes so, whatever answers it (`carryOutAll_says`).
-/

namespace OutOfBand.Redfish

/-- A request that was sent, and what became of it. -/
abbrev Exchange := Web.Request × Web.Outcome

/-- So an act can go: with these exchanges, this result, and this for the driver to remember. -/
def Goes (act : Act α) (s : State) (xs : List Exchange) (r : Except Fault α) (s' : State) : Prop :=
  (act.run s).Went xs (r, s')

section Goes

variable {α β : Type} {s s' : State} {xs : List Exchange}

theorem goes_mk_pure_iff {e r : Except Fault α} :
    Goes (ExceptT.mk (pure e)) s xs r s' ↔ xs = [] ∧ r = e ∧ s' = s := by
  have h : Goes (ExceptT.mk (pure e)) s xs r s' ↔ xs = [] ∧ (r, s') = (e, s) := Dialog.went_done_iff
  rw [h, Prod.mk.injEq]

theorem goes_pure_iff {a : α} {r : Except Fault α} :
    Goes (pure a) s xs r s' ↔ xs = [] ∧ r = .ok a ∧ s' = s := goes_mk_pure_iff (e := .ok a)

theorem goes_throw_iff {f : Fault} {r : Except Fault α} :
    Goes (throw f) s xs r s' ↔ xs = [] ∧ r = .error f ∧ s' = s := goes_mk_pure_iff (e := .error f)

theorem goes_get_iff {r : Except Fault State} :
    Goes get s xs r s' ↔ xs = [] ∧ r = .ok s ∧ s' = s := goes_mk_pure_iff (s := s) (e := .ok s)

theorem goes_modify_iff {f : State → State} {r : Except Fault Unit} :
    Goes (modify f) s xs r s' ↔ xs = [] ∧ r = .ok () ∧ s' = f s :=
  goes_mk_pure_iff (s := f s) (e := .ok ())

/-- What follows after an act: what its answer asks for, or nothing if it failed. -/
def followed (f : α → Act β) : Except Fault α × State →
    Dialog Web.Request Web.Outcome (Except Fault β × State)
  | (.ok a, s) => (f a).run s
  | (.error e, s) => .done (.error e, s)

theorem run_bind (act : Act α) (f : α → Act β) (s : State) :
    (act >>= f).run s = (act.run s).bind (followed f) := by
  show Dialog.bind _ _ = _
  congr 1
  funext p
  obtain ⟨r, m⟩ := p
  cases r <;> rfl

theorem goes_bind_iff {act : Act α} {f : α → Act β} {r : Except Fault β} :
    Goes (act >>= f) s xs r s' ↔ (∃ e, Goes act s xs (.error e) s' ∧ r = .error e) ∨
      ∃ a m ys zs, xs = ys ++ zs ∧ Goes act s ys (.ok a) m ∧ Goes (f a) m zs r s' := by
  unfold Goes
  rw [run_bind, Dialog.went_bind_iff]
  constructor
  · rintro ⟨ys, zs, ⟨e | a, m⟩, rfl, hact, hrest⟩
    · obtain ⟨rfl, hr⟩ := Dialog.went_done_iff.mp hrest
      cases hr
      rw [List.append_nil]
      exact .inl ⟨e, hact, rfl⟩
    · exact .inr ⟨a, m, ys, zs, rfl, hact, hrest⟩
  · rintro (⟨e, hact, rfl⟩ | ⟨a, m, ys, zs, rfl, hact, hrest⟩)
    · exact ⟨xs, [], (.error e, s'), (List.append_nil xs).symm, hact, .done _⟩
    · exact ⟨ys, zs, (.ok a, m), rfl, hact, hrest⟩

/-- Looks up something in what the driver remembers. -/
def Reads (act : Act α) (s : State) (a : α) : Prop :=
  ∀ xs r s', Goes act s xs r s' → xs = [] ∧ r = .ok a ∧ s' = s

theorem reads_get (s : State) : Reads get s s := fun _ _ _ => goes_get_iff.mp

theorem Reads.of_bind {act : Act α} {a : α} {f : α → Act β} {r : Except Fault β}
    (h : Reads act s a) (hgoes : Goes (act >>= f) s xs r s') : Goes (f a) s xs r s' := by
  rcases goes_bind_iff.mp hgoes with ⟨e, hact, -⟩ | ⟨b, m, ys, zs, rfl, hact, hrest⟩
  · cases (h _ _ _ hact).2.1
  · obtain ⟨rfl, hb, rfl⟩ := h _ _ _ hact
    cases hb
    exact hrest

theorem goes_attempt_iff {act : Act α} {r : Except Fault (Except Fault α)} :
    Goes (attempt act) s xs r s' ↔ ∃ r', Goes act s xs r' s' ∧ r = .ok r' := by
  have hrun : (attempt act).run s = (act.run s).bind fun p => .done (.ok p.1, p.2) := rfl
  unfold Goes
  rw [hrun, Dialog.went_bind_iff]
  constructor
  · rintro ⟨ys, zs, ⟨r', m⟩, rfl, hact, hrest⟩
    obtain ⟨rfl, hr⟩ := Dialog.went_done_iff.mp hrest
    cases hr
    rw [List.append_nil]
    exact ⟨r', hact, rfl⟩
  · rintro ⟨r', hact, rfl⟩
    exact ⟨xs, [], (r', s'), (List.append_nil xs).symm, hact, .done _⟩

/-- A request that is sent, or none if its texts are not usable. -/
theorem goes_ask_iff {method : Web.Method} {url : String} {credentials : Web.Credentials}
    {headers : List Web.Header} {body : Web.Body} {r : Except Fault (Web.Url × Web.Reply)} :
    Goes (ofTalk (Web.send method url credentials headers body)) s xs r s' ↔ s' = s ∧
      ((∃ f, Web.usableUrl url headers = .error f ∧ xs = [] ∧ r = .error f) ∨
        ∃ u outcome, Web.usableUrl url headers = .ok u ∧
          xs = [(⟨method, u, credentials, headers, body⟩, outcome)] ∧
          r = (Web.replyOf u outcome).map (u, ·)) := by
  cases hurl : Web.usableUrl url headers with
  | error f =>
      have htalk : ofTalk (Web.send method url credentials headers body) = throw f := by
        rw [Web.send, hurl]
        rfl
      rw [htalk, goes_throw_iff]
      constructor
      · rintro ⟨hxs, hr, hs⟩
        exact ⟨hs, .inl ⟨f, rfl, hxs, hr⟩⟩
      · rintro ⟨hs, ⟨_, ⟨⟩, hxs, hr⟩ | ⟨_, _, ⟨⟩, _⟩⟩
        exact ⟨hxs, hr, hs⟩
  | ok u =>
      have hrun : (ofTalk (Web.send method url credentials headers body)).run s =
          .ask ⟨method, u, credentials, headers, body⟩ fun outcome =>
            .done ((Web.replyOf u outcome).map (u, ·), s) := by
        rw [Web.send, hurl]
        rfl
      unfold Goes
      rw [hrun]
      constructor
      · intro h
        cases h with
        | @ask _ outcome _ xs _ h =>
            obtain ⟨rfl, hpair⟩ := Dialog.went_done_iff.mp h
            cases hpair
            exact ⟨rfl, .inr ⟨u, outcome, rfl, rfl, rfl⟩⟩
      · rintro ⟨rfl, ⟨_, ⟨⟩, _⟩ | ⟨_, outcome, ⟨⟩, rfl, rfl⟩⟩
        exact .ask (.done _)

end Goes

/-! ## One thing after another -/

/-- What the driver is asked for can go so, and is done or not. -/
inductive Does (target : Target) : State → Deed → List Exchange → Bool → State → Prop
  | call {s s' : State} {xs : List Exchange} {c : Call} {r : Except Fault c.Answer} :
      Goes (act target c) s xs r s' → Does target s (.call c) xs r.isOk s'
  | login {s s' : State} {xs : List Exchange} {r : Except Fault Unit} :
      Goes (openSession target) s xs r s' → Does target s .login xs r.isOk s'
  | logout {s s' : State} {xs : List Exchange} {r : Except Fault Unit} :
      Goes (closeSession target) s xs r s' → Does target s .logout xs r.isOk s'
  | probe {s s' : State} {xs : List Exchange} {r : Except Fault Bool} :
      Goes (probe target) s xs r s' → Does target s .probe xs (isYes r) s'

/-- One thing after another can go so. -/
inductive Course (target : Target) : State → List (Deed × Bool) → List Exchange → State → Prop
  | nil (s : State) : Course target s [] [] s
  | cons {s m s' : State} {deed : Deed} {done : Bool} {results : List (Deed × Bool)}
      {xs ys : List Exchange} : Does target s deed xs done m → Course target m results ys s' →
      Course target s ((deed, done) :: results) (xs ++ ys) s'

section Driver

variable {α σ : Type} (target : Target) (peer : Web.Request → σ → Web.Outcome × σ)

theorem operation_noting (act : Act α) (now : Nat) (s : State) (w : σ) :
    ∃ xs r s' w', Goes act s xs r s' ∧ Dialog.Answered peer w xs w' ∧ ∀ log,
      (operation (Dialog.noting peer) act).outcome now (s, w, log) = (r, s', w', log ++ xs) := by
  obtain ⟨xs, hwent, hanswered, hplay⟩ := Dialog.play_noting peer (act.run s) w
  refine ⟨xs, _, _, ((act.run s).play peer w).2, hwent, hanswered, fun log => ?_⟩
  simp [operation, Operation.outcome, Operation.instantly, hplay]

/-- **Whatever answers the driver**, it does what it is asked for in one of the ways in which that
can go, and what is taken down is what was said. -/
theorem carryOut_noting (now : Nat) (deed : Deed) (s : State) (w : σ) :
    ∃ xs done s' w', Does target s deed xs done s' ∧ ∀ log,
      (capabilities target (Dialog.noting peer)).carryOut now deed (s, w, log) =
        (done, s', w', log ++ xs) := by
  cases deed with
  | call c =>
      obtain ⟨xs, r, s', w', hgoes, -, h⟩ := operation_noting peer (act target c) now s w
      exact ⟨xs, _, s', w', .call hgoes, by simp [Capabilities.carryOut, capabilities, h]⟩
  | login =>
      obtain ⟨xs, r, s', w', hgoes, -, h⟩ := operation_noting peer (openSession target) now s w
      exact ⟨xs, _, s', w', .login hgoes, by simp [Capabilities.carryOut, capabilities, h]⟩
  | logout =>
      obtain ⟨xs, r, s', w', hgoes, -, h⟩ := operation_noting peer (closeSession target) now s w
      exact ⟨xs, _, s', w', .logout hgoes, by simp [Capabilities.carryOut, capabilities, h]⟩
  | probe =>
      obtain ⟨xs, r, s', w', hgoes, -, h⟩ := operation_noting peer (Redfish.probe target) now s w
      exact ⟨xs, _, s', w', .probe hgoes, by simp [Capabilities.carryOut, capabilities, h]⟩

/-! ### Histories of the driver -/

/-- What the driver remembers, the other side, and what was said so far. -/
abbrev Standing (σ : Type) := State × σ × List Exchange

/-- Where things stand before the driver is asked for anything. -/
def start (w : σ) : Standing σ := ({}, w, [])

/-- What is said when the driver is asked for one thing more. -/
def said (p : Standing σ) (now : Nat) (deed : Deed) : List Exchange :=
  ((capabilities target (Dialog.noting peer)).carryOut now deed (p.1, p.2.1, [])).2.2.2

theorem carryOut_says (p : Standing σ) (now : Nat) (deed : Deed) :
    ∃ done s v, Does target p.1 deed (said target peer p now deed) done s ∧
      (capabilities target (Dialog.noting peer)).carryOut now deed p =
        (done, s, v, p.2.2 ++ said target peer p now deed) := by
  obtain ⟨s, w, log⟩ := p
  obtain ⟨xs, done, s', v, hdoes, h⟩ := carryOut_noting target peer now deed s w
  have hsaid : said target peer (s, w, log) now deed = xs := congrArg (·.2.2.2) (h [])
  exact ⟨done, s', v, hsaid ▸ hdoes, hsaid ▸ h log⟩

/-- A call comes to a result in one of the ways in which it can go, with the answers of the other
side. -/
theorem handle_says (p : Standing σ) (now : Nat) (c : Call) :
    ∃ r s v, Goes (act target c) p.1 (said target peer p now (.call c)) r s ∧
      ((capabilities target (Dialog.noting peer)).handle c).outcome now p =
        (r, s, v, p.2.2 ++ said target peer p now (.call c)) ∧
      Dialog.Answered peer p.2.1 (said target peer p now (.call c)) v := by
  obtain ⟨s, w, log⟩ := p
  obtain ⟨xs, r, s', w', hgoes, hanswered, h⟩ := operation_noting peer (act target c) now s w
  have hsaid : said target peer (s, w, log) now (.call c) = xs := by
    simp [said, Capabilities.carryOut, capabilities, h]
  exact ⟨r, s', w', hsaid ▸ hgoes, hsaid ▸ h log, hsaid ▸ hanswered⟩

/-- Whoever takes it down, a call comes to the result that goes with what is said. -/
theorem handle_outcome (p : Standing σ) (now : Nat) (c : Call) :
    ∃ r s v, Goes (act target c) p.1 (said target peer p now (.call c)) r s ∧
      ((capabilities target peer).handle c).outcome now (p.1, p.2.1) = (r, s, v) ∧
      Dialog.Answered peer p.2.1 (said target peer p now (.call c)) v := by
  obtain ⟨s, w, log⟩ := p
  obtain ⟨xs, hwent, hanswered, hplay⟩ := Dialog.play_noting peer ((act target c).run s) w
  have hsaid : said target peer (s, w, log) now (.call c) = xs := by
    simp [said, Capabilities.carryOut, capabilities, operation, Operation.outcome,
      Operation.instantly, hplay]
  exact ⟨_, _, _, hsaid ▸ hwent, rfl, hsaid ▸ hanswered⟩

theorem carryOutAll_says (history : List (Nat × Deed)) (p : Standing σ) :
    ∃ results xs s v, Course target p.1 results xs s ∧
      (capabilities target (Dialog.noting peer)).carryOutAll history p =
        (results, s, v, p.2.2 ++ xs) := by
  induction history generalizing p with
  | nil => exact ⟨[], [], p.1, p.2.1, .nil _, by simp [Capabilities.carryOutAll]⟩
  | cons first history ih =>
      obtain ⟨now, deed⟩ := first
      obtain ⟨done, m, v, hdoes, hfirst⟩ := carryOut_says target peer p now deed
      obtain ⟨results, ys, s, v', hcourse, hrest⟩ := ih (m, v, p.2.2 ++ said target peer p now deed)
      refine ⟨_, _, s, v', .cons hdoes hcourse, ?_⟩
      simp [Capabilities.carryOutAll, hfirst, hrest]

end Driver

end OutOfBand.Redfish
