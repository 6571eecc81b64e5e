import OutOfBand.Client.Errand

/-!
# Clients that share a record

The record of a call is kept in a slot. A new client has a slot of its own; clients derived from one
another share theirs, so that each can be asked what the latest call of any of them did.
-/

namespace OutOfBand

/-- A client, and the slot in which it keeps the record of its latest call. -/
structure Handle (σ : Type) where
  client : Client σ
  slot : Nat

/-- Clients in their places, the slots, and the scene in which all of them work. -/
structure Office (σ : Type) where
  scene : Scene σ
  handles : List (Handle σ) := []
  slots : List Metadata := []

namespace Office

/-- The record that the client at a place can be asked for. -/
def metadata (office : Office σ) (k : Nat) : Option Metadata :=
  office.handles[k]?.bind fun h => office.slots[h.slot]?

def add (office : Office σ) (h : Handle σ) : Office σ :=
  { office with handles := office.handles ++ [h] }

/-- The office with a client that has a slot of its own. -/
def hire (office : Office σ) (client : Client σ) : Office σ :=
  { office.add ⟨client, office.slots.length⟩ with slots := office.slots ++ [{}] }

/-- What a client works in. -/
def run (office : Office σ) (h : Handle σ) : Run σ :=
  ⟨office.scene, office.slots[h.slot]?.getD {}⟩

/-- The office after the client at a place has worked, which is another client then. -/
def leave (office : Office σ) (k : Nat) (h : Handle σ) (client : Client σ) (run : Run σ) :
    Office σ where
  scene := run.toScene
  handles := office.handles.set k ⟨client, h.slot⟩
  slots := office.slots.set h.slot run.record

/-- Something that happens in an office. -/
inductive Move (σ : Type) where
  | hire (client : Client σ)
  /-- A client is derived from another by a view of its registry. -/
  | view (original : Nat) (v : View)
  | copy (original : Nat)
  /-- A client is sent on an errand. -/
  | send (which : Nat) (ctx : Context) (errand : Client.Errand)
  /-- Time goes by. -/
  | wait (time : Span)

/-- Lets something happen, if the client is there that it is about; absent if there is no end to
it. -/
def move (office : Office σ) : Move σ → Option (Office σ)
  | .hire client => some (office.hire client)
  | .view original v =>
    office.handles[original]?.map fun h => office.add { h with client := h.client.view v }
  | .copy original => office.handles[original]?.map office.add
  | .send which ctx errand =>
    office.handles[which]?.bind fun h =>
      (h.client.carryOut ctx (office.run h) errand).map fun (client, run) =>
        office.leave which h client run
  | .wait time => some { office with scene := ⟨office.scene.now + time.ns, office.scene.world⟩ }

/-- Lets one thing happen after another. -/
def follow (office : Office σ) (moves : List (Move σ)) : Option (Office σ) :=
  moves.foldlM move office

end Office

end OutOfBand
