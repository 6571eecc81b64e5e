import OutOfBand.Client.Install

/-!
# Errands

A client can be asked to make a call, to open or close the sessions of its drivers, to find out
which of them are compatible, and to install firmware.
-/

namespace OutOfBand.Client

/-- What a client is asked to do. -/
inductive Errand where
  | call (c : Call)
  | openAll
  | closeAll
  | keepCompatible
  | install (job : Job)

/-- Does what a client is asked to do: the client and the run that it leaves; absent if there is no
end to it. -/
def carryOut (client : Client σ) (ctx : Context) (run : Run σ) : Errand → Option (Client σ × Run σ)
  | .call c => some (client, (client.call ctx c run).2)
  | .openAll => some (client.openAll ctx run).2
  | .closeAll => some (client, (client.closeAll ctx run).2)
  | .keepCompatible => some (client.keepCompatible ctx run)
  | .install job => (Client.install client ctx job run).map fun p => (client, p.2)

end OutOfBand.Client
