import OutOfBand.Dialog
import OutOfBand.Proofs.Watch

/-!
# Transcripts

What a driver says to the other side is read off a transcript. A dialog has one transcript for each
way in which its questions can be answered (`Dialog.Went`); somebody who takes down what is said
(`Dialog.noting`) holds the transcript of the way that was taken, whoever it is that answers
(`Dialog.play_noting`). Of these ways whoever answers takes just one (`Dialog.Went.unique`). Dialogs
that differ in the wording of their questions go alike (`Dialog.reworded`).

A driver may be asked to do one thing after another (`Capabilities.carryOutAll`). All that it is
asked to do it does to the end here.
-/

namespace OutOfBand

namespace Dialog

variable {Q R A α β σ : Type}

/-- The dialog goes so: these questions with these answers, and then this result. -/
inductive Went : Dialog Q A α → List (Q × A) → α → Prop
  | done (a : α) : Went (.done a) [] a
  | ask {q : Q} {a : A} {next : A → Dialog Q A α} {xs : List (Q × A)} {b : α} :
      Went (next a) xs b → Went (.ask q next) ((q, a) :: xs) b

theorem went_done_iff {xs : List (Q × A)} {a b : α} :
    (done a).Went xs b ↔ xs = [] ∧ b = a := by
  constructor
  · intro h
    cases h
    exact ⟨rfl, rfl⟩
  · rintro ⟨rfl, rfl⟩
    exact .done _

theorem went_bind_iff {d : Dialog Q A α} {f : α → Dialog Q A β} {xs : List (Q × A)} {b : β} :
    (d.bind f).Went xs b ↔ ∃ ys zs a, xs = ys ++ zs ∧ d.Went ys a ∧ (f a).Went zs b := by
  constructor
  · intro h
    induction d generalizing xs with
    | done a => exact ⟨[], xs, a, rfl, .done a, h⟩
    | ask q next ih =>
        cases h with
        | ask h =>
            obtain ⟨ys, zs, a, rfl, hd, hf⟩ := ih _ h
            exact ⟨_, zs, a, rfl, .ask hd, hf⟩
  · rintro ⟨ys, zs, a, rfl, hd, hf⟩
    induction hd with
    | done a => exact hf
    | ask _ ih => exact .ask (ih hf)

/-- A dialog that fails goes no further. -/
theorem Went.bindRun_error {ε : Type} {d : ExceptT ε (Dialog Q A) α} {xs : List (Q × A)} {e : ε}
    (h : d.run.Went xs (.error e)) (f : α → ExceptT ε (Dialog Q A) β) :
    (d >>= f).run.Went xs (.error e) :=
  went_bind_iff.mpr ⟨xs, [], _, (List.append_nil xs).symm, h, .done _⟩

/-- Whatever is answered, the dialog asks only such questions. -/
def AsksOnly (P : Q → Prop) (d : Dialog Q A α) : Prop := ∀ xs a, d.Went xs a → ∀ x ∈ xs, P x.1

namespace AsksOnly

variable {P : Q → Prop}

theorem done (a : α) : AsksOnly P (done (Q := Q) (A := A) a) := by
  intro xs b h
  simp [(went_done_iff.mp h).1]

theorem question {q : Q} (h : P q) : AsksOnly P (question (A := A) q) := by
  intro xs b hwent x hx
  cases hwent with
  | ask hwent =>
      obtain ⟨rfl, -⟩ := went_done_iff.mp hwent
      obtain rfl := List.mem_singleton.mp hx
      exact h

theorem bind {d : Dialog Q A α} {f : α → Dialog Q A β} (h : AsksOnly P d)
    (h' : ∀ a, AsksOnly P (f a)) : AsksOnly P (d.bind f) := by
  intro xs b hwent x hx
  obtain ⟨ys, zs, a, rfl, hd, hf⟩ := went_bind_iff.mp hwent
  rcases List.mem_append.mp hx with hx | hx
  · exact h _ _ hd x hx
  · exact h' a _ _ hf x hx

/-- Dialogs that may fail, one after another. -/
theorem bindRun {ε : Type} {d : ExceptT ε (Dialog Q A) α} {f : α → ExceptT ε (Dialog Q A) β}
    (h : AsksOnly P d.run) (h' : ∀ a, AsksOnly P (f a).run) : AsksOnly P (d >>= f).run := by
  refine bind h fun r => ?_
  cases r with
  | error e => exact done _
  | ok a => exact h' a

end AsksOnly

/-- So `peer` answers in a world, which it then leaves as another one. -/
inductive Answered (peer : Q → σ → A × σ) : σ → List (Q × A) → σ → Prop
  | nil (w : σ) : Answered peer w [] w
  | cons {q : Q} {w v : σ} {xs : List (Q × A)} :
      Answered peer (peer q w).2 xs v → Answered peer w ((q, (peer q w).1) :: xs) v

theorem answered_append_iff {peer : Q → σ → A × σ} {w v : σ} {xs ys : List (Q × A)} :
    Answered peer w (xs ++ ys) v ↔ ∃ u, Answered peer w xs u ∧ Answered peer u ys v := by
  constructor
  · intro h
    induction xs generalizing w with
    | nil => exact ⟨w, .nil w, h⟩
    | cons x xs ih =>
        cases h with
        | cons h =>
            obtain ⟨u, hxs, hys⟩ := ih h
            exact ⟨u, .cons hxs, hys⟩
  · rintro ⟨u, hxs, hys⟩
    induction hxs with
    | nil w => exact hys
    | cons _ ih => exact .cons (ih hys)

/-- **Whoever answers**, a dialog goes in one way only. -/
theorem Went.unique {peer : Q → σ → A × σ} {d : Dialog Q A α} {w v v' : σ}
    {xs ys : List (Q × A)} {a b : α} (hxs : d.Went xs a) (hys : d.Went ys b)
    (hv : Answered peer w xs v) (hv' : Answered peer w ys v') : xs = ys ∧ a = b ∧ v = v' := by
  induction hxs generalizing w ys with
  | done a =>
      obtain ⟨rfl, rfl⟩ := went_done_iff.mp hys
      cases hv
      cases hv'
      exact ⟨rfl, rfl, rfl⟩
  | ask _ ih =>
      cases hys with
      | ask hys =>
          cases hv with
          | cons hv =>
              cases hv' with
              | cons hv' =>
                  obtain ⟨rfl, rfl, rfl⟩ := ih hys hv hv'
                  exact ⟨rfl, rfl, rfl⟩

/-- Somebody who answers as `peer` does, and takes down what is said. -/
def noting (peer : Q → σ → A × σ) (q : Q) (w : σ × List (Q × A)) : A × σ × List (Q × A) :=
  let (a, v) := peer q w.1
  (a, v, w.2 ++ [(q, a)])

/-- **What is taken down is the transcript**, and taking it down changes nothing. -/
theorem play_noting (peer : Q → σ → A × σ) (d : Dialog Q A α) (w : σ) :
    ∃ xs, d.Went xs (d.play peer w).1 ∧ Answered peer w xs (d.play peer w).2 ∧ ∀ log,
      d.play (noting peer) (w, log) = ((d.play peer w).1, (d.play peer w).2, log ++ xs) := by
  induction d generalizing w with
  | done a => exact ⟨[], .done a, .nil w, by simp [play]⟩
  | ask q next ih =>
      obtain ⟨xs, hwent, hanswered, hplay⟩ := ih (peer q w).1 (peer q w).2
      exact ⟨_, .ask hwent, .cons hanswered, by simp [play, noting, hplay]⟩

/-- Who sees how a dialog went sees what was taken down. -/
theorem Went.play_noting {peer : Q → σ → A × σ} {d : Dialog Q A α} {w v : σ} {xs : List (Q × A)}
    {a : α} (h : d.Went xs a) (hanswered : Answered peer w xs v) (log : List (Q × A)) :
    d.play (noting peer) (w, log) = (a, v, log ++ xs) := by
  obtain ⟨ys, hwent, hys, hplay⟩ := Dialog.play_noting peer d w
  obtain ⟨rfl, rfl, rfl⟩ := hwent.unique h hys hanswered
  exact hplay log

/-! ### The same in other words -/

/-- As far as the answers are the same, so are the questions. -/
theorem Went.agree {d : Dialog Q A α} {xs ys : List (Q × A)} {a b : α} (hxs : d.Went xs a)
    (hys : d.Went ys b) {n : Nat} (h : (xs.map Prod.snd).take n = (ys.map Prod.snd).take n) :
    (xs.map Prod.fst).take (n + 1) = (ys.map Prod.fst).take (n + 1) := by
  induction hxs generalizing ys n with
  | done a =>
      obtain ⟨rfl, -⟩ := went_done_iff.mp hys
      rfl
  | @ask q a next xs b _ ih =>
      cases hys with
      | ask hys =>
          rw [List.map_cons, List.map_cons, List.take_succ_cons, List.take_succ_cons]
          cases n with
          | zero => rfl
          | succ n =>
              rw [List.map_cons, List.map_cons, List.take_succ_cons, List.take_succ_cons] at h
              obtain ⟨rfl, htail⟩ := List.cons.inj h
              exact congrArg (q :: ·) (ih hys htail)

/-- The dialog with its questions put in another way. -/
def reworded (f : Q → R) : Dialog Q A α → Dialog R A α
  | done a => .done a
  | ask q next => .ask (f q) fun a => (next a).reworded f

theorem reworded_bind (f : Q → R) (d : Dialog Q A α) (g : α → Dialog Q A β) :
    (d.bind g).reworded f = (d.reworded f).bind fun a => (g a).reworded f := by
  induction d with
  | done a => rfl
  | ask q next ih => exact congrArg (ask (f q)) (funext ih)

theorem went_reworded_iff {f : Q → R} {d : Dialog Q A α} {ys : List (R × A)} {a : α} :
    (d.reworded f).Went ys a ↔ ∃ xs, d.Went xs a ∧ ys = xs.map fun x => (f x.1, x.2) := by
  constructor
  · intro h
    induction d generalizing ys with
    | done b =>
        obtain ⟨rfl, rfl⟩ := went_done_iff.mp h
        exact ⟨[], .done _, rfl⟩
    | ask q next ih =>
        cases h with
        | ask h =>
            obtain ⟨xs, hxs, rfl⟩ := ih _ h
            exact ⟨_, .ask hxs, rfl⟩
  · rintro ⟨xs, hxs, rfl⟩
    induction hxs with
    | done a => exact .done a
    | ask _ ih => exact .ask ih

end Dialog

/-! ## One deed after another -/

/-- What comes of work that is left to go on to its end. -/
def Operation.outcome (op : Operation σ α) (now : Nat) (w : σ) : α × σ :=
  (op now w).finish (op now w).world

@[simp] theorem Operation.outcome_map (f : α → β) (op : Operation σ α) (now : Nat) (w : σ) :
    (op.map f).outcome now w = (f (op.outcome now w).1, (op.outcome now w).2) := rfl

namespace Capabilities

/-- Does to its end what the driver is asked to do at an instant, and tells whether it was done. -/
def carryOut (caps : Capabilities σ) (now : Nat) (deed : Deed) (w : σ) : Bool × σ :=
  let connection := caps.connection.getD .trivial
  match deed with
  | .call c => let (r, w) := (caps.handle c).outcome now w; (r.isOk, w)
  | .login => let (r, w) := connection.login.outcome now w; (r.isOk, w)
  | .logout => let (r, w) := connection.logout.outcome now w; (r.isOk, w)
  | .probe => connection.probe.outcome now w

/-- Does one thing after another, and tells of each whether it was done. -/
def carryOutAll (caps : Capabilities σ) : List (Nat × Deed) → σ → List (Deed × Bool) × σ
  | [], w => ([], w)
  | (now, deed) :: rest, w =>
    let (done, w) := caps.carryOut now deed w
    let (results, w) := caps.carryOutAll rest w
    ((deed, done) :: results, w)

end Capabilities

end OutOfBand
