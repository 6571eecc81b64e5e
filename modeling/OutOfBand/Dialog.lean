import OutOfBand.Fault
import OutOfBand.Operation

/-!
# Dialogs

How a driver talks to the other side is a dialog: a finite tree of questions, each with a way to go
on for every answer. A dialog is a plain value, so what it may ask can be told without anybody to
answer. Against somebody who answers it is played to its end (`Dialog.play`).
-/

namespace OutOfBand

/-- Questions of type `Q` that are answered by an `A`, and in the end a result. -/
inductive Dialog (Q A α : Type) where
  /-- The end of the dialog. -/
  | done (result : α)
  /-- A question, and how the dialog goes on after the answer. -/
  | ask (question : Q) (next : A → Dialog Q A α)

namespace Dialog

variable {Q A α β γ σ : Type}

/-- The dialog that goes on with `f` where `d` ends. -/
def bind (d : Dialog Q A α) (f : α → Dialog Q A β) : Dialog Q A β :=
  match d with
  | done a => f a
  | ask q next => ask q fun a => (next a).bind f

instance : Monad (Dialog Q A) where
  pure := done
  bind := bind

def question (q : Q) : Dialog Q A A := ask q done

/-- Plays a dialog with somebody who answers in a world. -/
def play (peer : Q → σ → A × σ) : Dialog Q A α → σ → α × σ
  | done a, w => (a, w)
  | ask q next, w =>
    let (a, w) := peer q w
    (next a).play peer w

/-- A dialog as an operation in the world of whoever answers. -/
def operation (peer : Q → σ → A × σ) (d : Dialog Q A α) : Operation σ α :=
  .instantly (d.play peer)

@[simp] theorem done_bind (a : α) (f : α → Dialog Q A β) : (done a).bind f = f a := rfl

@[simp] theorem ask_bind (q : Q) (next : A → Dialog Q A α) (f : α → Dialog Q A β) :
    (ask q next).bind f = ask q fun a => (next a).bind f := rfl

theorem bind_assoc (d : Dialog Q A α) (f : α → Dialog Q A β) (g : β → Dialog Q A γ) :
    (d.bind f).bind g = d.bind fun a => (f a).bind g := by
  induction d with
  | done a => rfl
  | ask q next ih => simp [ih]

/-- Playing one dialog after another is playing the two one after the other. -/
theorem play_bind (peer : Q → σ → A × σ) (d : Dialog Q A α) (f : α → Dialog Q A β) (w : σ) :
    (d.bind f).play peer w = (f (d.play peer w).1).play peer (d.play peer w).2 := by
  induction d generalizing w with
  | done a => rfl
  | ask q next ih => simp [play, ih]

end Dialog

end OutOfBand
