/-!
# What can go wrong with a driver

A `Fault` is why one operation of one driver failed. Two questions about a fault steer an install:
whether it is of the kind to expect while a BMC restarts (`isTransient`), and whether logging in
again may mend it (`isSessionExpired`).
-/

namespace OutOfBand

/-- Why an operation of a driver failed. -/
inductive Fault where
  /-- No connection came about. -/
  | connectionFailed (detail : String)
  /-- The BMC refused the connection, as it does while it restarts. -/
  | connectionRefused (detail : String)
  /-- The BMC does not accept the credentials. -/
  | authenticationFailed (detail : String)
  /-- The BMC has ended the session. -/
  | sessionExpired (detail : String)
  /-- The BMC or the tool reports that the operation did not succeed. -/
  | commandFailed (detail : String)
  /-- No answer came in time. -/
  | timeout (detail : String)
  /-- The driver cannot do that. -/
  | unsupported (detail : String)
  /-- The configuration or an argument makes no sense. -/
  | invalidConfig (detail : String)
  /-- The network or the request itself is at fault. -/
  | networkError (detail : String)
  /-- The answer cannot be understood. -/
  | protocol (detail : String)
  /-- The consumer of a remote call answered with an error of its own. -/
  | rpc (code : Int) (message : String)
  deriving DecidableEq, Repr, Inhabited

namespace Fault

def message : Fault → String
  | .connectionFailed s => s!"connection failed: {s}"
  | .connectionRefused s => s!"connection refused: {s}"
  | .authenticationFailed s => s!"authentication failed: {s}"
  | .sessionExpired s => s!"session expired: {s}"
  | .commandFailed s => s!"command failed: {s}"
  | .timeout s => s!"operation timed out: {s}"
  | .unsupported s => s!"unsupported operation: {s}"
  | .invalidConfig s => s!"invalid configuration: {s}"
  | .networkError s => s!"network error: {s}"
  | .protocol s => s!"unexpected response: {s}"
  | .rpc code s => s!"rpc error {code}: {s}"

/-- Whether the fault is to be expected while a BMC restarts. -/
def isTransient : Fault → Bool
  | .connectionRefused _ | .timeout _ => true
  | _ => false

/-- Whether logging in again may mend the fault. -/
def isSessionExpired : Fault → Bool
  | .sessionExpired _ => true
  | _ => false

/-- A fault that logging in again may mend is not of the kind that waiting mends. -/
theorem isTransient_of_isSessionExpired {f : Fault} (h : f.isSessionExpired = true) :
    f.isTransient = false := by
  cases f <;> first | rfl | simp [isSessionExpired] at h

end Fault

end OutOfBand
