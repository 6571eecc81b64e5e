import OutOfBand.Dialog
import OutOfBand.Target
import OutOfBand.Text.Ascii
import OutOfBand.Text.Blank
import OutOfBand.Text.Utf8

/-!
# Commands for the IPMI tool

A controller that speaks IPMI is reached by running a command line tool. The password goes to the
tool in its environment, never on the command line. Here is the command line, and what the end of a
run means.
-/

namespace OutOfBand.Ipmi

/-- One run of the tool. -/
structure Command where
  /-- The path of the tool. -/
  tool : String
  args : List String
  /-- The password for the controller, given in the environment. -/
  password : String
  deriving DecidableEq, Repr, Inhabited

/-- How a run of the tool ends. -/
inductive Outcome where
  /-- There is no such tool. -/
  | missing
  /-- The tool could not be started. -/
  | notStarted (reason : String)
  /-- The tool has ended; one that was killed has no code. -/
  | ended (code : Option Int) (stdout stderr : List UInt8)
  deriving DecidableEq, Repr, Inhabited

/-- A dialog with the tool that may fail. -/
abbrev Talk (α : Type) := ExceptT Fault (Dialog Command Outcome) α

/-- The arguments that every command begins with. -/
def baseArgs (target : Target) : List String :=
  let options := target.options.ipmi
  ["-I", options.interface, "-H", target.host, "-p", toString options.port.toNat, "-U",
    target.username, "-E"] ++
    match options.cipherSuite with
    | some suite => ["-C", toString suite.toNat]
    | none => []

/-- The run of the tool for a command. -/
def commandFor (target : Target) (words : List String) : Command :=
  ⟨target.options.ipmi.toolPath, baseArgs target ++ words, target.password⟩

/-- Whether a text holds the character that ends texts for the system, and so cannot be passed. -/
def holdsNul (s : String) : Bool := s.toList.any (·.toNat == 0)

/-- Whether the system can pass all texts of a command. -/
def Command.isPassable (c : Command) : Bool := !(c.tool :: c.password :: c.args).any holdsNul

/-- What went wrong when the tool ended with a code other than zero. -/
def failureOf (code : Int) (stderr : String) : Fault :=
  let mentions (word : String) : Bool := Text.contains (Text.lower stderr) word
  if mentions "rakp" || mentions "unauthorized" || mentions "password" then
    .authenticationFailed stderr
  else if mentions "unable to establish" || mentions "timeout" then .timeout stderr
  else .commandFailed s!"ipmitool exited with code {code}: {stderr}"

/-- What a run of the tool printed, if it was a success. -/
def outputOf (tool : String) : Outcome → Except Fault String
  | .missing => .error (.unsupported s!"{tool} not found")
  | .notStarted reason => .error (.commandFailed s!"ipmitool execution failed: {reason}")
  | .ended code stdout stderr =>
    if code == some 0 then .ok (Text.Utf8.decode stdout)
    else .error (failureOf (code.getD (-1)) (Text.trim (Text.Utf8.decode stderr)))

/-- Runs a command and gives what it prints. -/
def run (target : Target) (words : List String) : Talk String :=
  let command := commandFor target words
  if command.isPassable then
    ExceptT.mk ((Dialog.question command).bind fun outcome => .done (outputOf command.tool outcome))
  else throw (.commandFailed "ipmitool execution failed: nul byte found in provided data")

end OutOfBand.Ipmi
