import OutOfBand.Context

/-!
# Families of contexts

Contexts are derived from one another. A context derived for a part of a call is cancelled with the
call but not the other way round; contexts may also share one token, and are then cancelled
together. Tokens are paths in a forest: a token is cancelled when it or one above it is, so the
cancellations that concern a token are those of its initial segments.
-/

namespace OutOfBand

/-- What is cancelled: a path from a root. -/
abbrev Token := List Nat

/-- A context of a family. -/
structure Member where
  token : Token
  deadline : Option Nat := none
  perDriver : Option Span := none
  deriving DecidableEq, Repr, Inhabited

/-- Contexts that are derived from one another. -/
structure Family where
  members : List Member := []
  /-- The number of tokens handed out. -/
  tokens : Nat := 0
  /-- The cancelled tokens, each with the instant from which on it is. -/
  cancellations : List (Token × Nat) := []
  deriving Repr, Inhabited

namespace Family

/-- The instant from which on a token is cancelled. -/
def cancelledAt (family : Family) (token : Token) : Option Nat :=
  family.cancellations.foldl
    (fun first (above, t) =>
      if above.isPrefixOf token then Context.earlier first (some t) else first)
    none

/-- What a member means for a call. -/
def resolve (family : Family) (m : Member) : Context :=
  ⟨m.deadline, family.cancelledAt m.token, m.perDriver⟩

def contexts (family : Family) : List Context := family.members.map family.resolve

def add (family : Family) (m : Member) : Family := { family with members := family.members ++ [m] }

/-- The family with one more member that has a new token under the path `above`. -/
def addFresh (family : Family) (above : Token) (deadline : Option Nat) (perDriver : Option Span) :
    Family :=
  { family.add ⟨above ++ [family.tokens], deadline, perDriver⟩ with tokens := family.tokens + 1 }

/-- The family with a new context for a part of the call of `m` that gets so much time. -/
def derive (family : Family) (m : Member) (now : Nat) (time : Span) : Family :=
  family.addFresh m.token (Context.earlier m.deadline (some (now + time.ns))) m.perDriver

/-- The family with a token cancelled from an instant on. -/
def cancel (family : Family) (token : Token) (at' : Nat) : Family :=
  { family with cancellations := family.cancellations ++ [(token, at')] }

/-- Something that is done with the contexts of a family, in which each has its place. -/
inductive Act where
  /-- A new context is made. -/
  | found (deadline : Option Nat) (perDriver : Option Span)
  /-- A context is made for a part of the call of another, which gets so much time. -/
  | derive (parent : Nat) (time : Span)
  /-- A context is copied, with another time for each driver if one is given. -/
  | copy (original : Nat) (perDriver : Option Span)
  /-- A context is made that is cancelled together with another. -/
  | join (other : Nat) (deadline : Option Nat) (perDriver : Option Span)
  | cancel (which : Nat)
  /-- Time goes by. -/
  | wait (time : Span)
  deriving DecidableEq, Repr, Inhabited

/-- Carries out an act, if the context is there that it speaks of. -/
def act (s : Scene Family) : Act → Option (Scene Family)
  | .found deadline perDriver => some ⟨s.now, s.world.addFresh [] deadline perDriver⟩
  | .derive parent time =>
    s.world.members[parent]?.map fun m => ⟨s.now, s.world.derive m s.now time⟩
  | .copy original perDriver =>
    s.world.members[original]?.map fun m =>
      ⟨s.now, s.world.add { m with perDriver := perDriver.or m.perDriver }⟩
  | .join other deadline perDriver =>
    s.world.members[other]?.map fun m => ⟨s.now, s.world.add ⟨m.token, deadline, perDriver⟩⟩
  | .cancel which => s.world.members[which]?.map fun m => ⟨s.now, s.world.cancel m.token s.now⟩
  | .wait time => some ⟨s.now + time.ns, s.world⟩

/-- Carries out one act after another. -/
def follow (s : Scene Family) (acts : List Act) : Option (Scene Family) := acts.foldlM act s

end Family

end OutOfBand
