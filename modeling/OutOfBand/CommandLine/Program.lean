import OutOfBand.Builtin
import OutOfBand.Client.Clocked
import OutOfBand.Client.Install
import OutOfBand.CommandLine.Order

/-!
# The program

The program carries out one order and prints what came of it, and then the record of the last call.
It opens the sessions of all drivers, makes the call, and closes the sessions, for which there is
time of its own, whatever has become of the call. Who sits at the terminal may interrupt the call,
but not the closing of the sessions. Where the clock cannot show an instant that is asked for, the
program comes to an end on the spot, and nothing is printed.
-/

namespace OutOfBand.CommandLine

/-- Why an order was not carried out. -/
inductive OrderError where
  /-- The texts of the order name no controller. -/
  | noTarget (reason : String)
  /-- No driver could open a session. -/
  | noSession (cause : Client.CallError)
  /-- The file cannot be read. -/
  | unreadable (file reason : String)
  | client (cause : ClientError)
  deriving DecidableEq, Repr, Inhabited

namespace OrderError

/-- The texts of the error and of its causes, outermost first. -/
def chain : OrderError → List String
  | noTarget reason => [reason]
  | noSession cause => "no driver could open a session" :: cause.chain
  | unreadable file reason => [s!"failed to read {file}", reason]
  | client cause => cause.chain

end OrderError

/-! ## Output -/

/-- A text in a column of a width, with a blank after the column. -/
def column (width : Nat) (s : String) : String := Text.padRight width s ++ " "

/-- A line of the table of users. -/
def row (id name role enabled : String) : String :=
  column 4 id ++ column 16 name ++ column 14 role ++ enabled

def userRow (u : UserAccount) : String :=
  row u.id u.name ((u.role.map UserRole.name).getD "-") (if u.enabled then "true" else "false")

def userTable (users : List UserAccount) : String :=
  String.intercalate "\n" (row "ID" "NAME" "ROLE" "ENABLED" :: users.map userRow)

/-! ## Commands -/

/-- What comes of a command, and the run after it; absent if the command has no end. -/
abbrev Performed (σ : Type) := Option (Except OrderError String × Run σ)

/-- What comes of something by the clock: where it cannot show an instant that is asked for, the run
up to there; absent if there is no end. -/
abbrev Timed (σ : Type) := ExceptT (Run σ) Option

namespace Timed

/-- What came of something that the clock may have stopped. -/
def of (r : Except (Run σ) α) : Timed σ α := ExceptT.mk (some r)

/-- What the clock can show, in a run that ends if there is no such thing. -/
def shown (run : Run σ) (a : Option α) : Timed σ α := .of (a.elim (.error run) .ok)

end Timed

/-- The text of an outcome. -/
def worded (text : α → String) : Except Client.CallError α → Except OrderError String
  | .ok a => .ok (text a)
  | .error e => .error (.client (.call e))

/-- Makes a call and words its outcome. -/
def call (client : Client σ) (ctx : Context) (c : Call) (text : c.Outcome → String) (run : Run σ) :
    Performed σ :=
  let (result, run) := client.call ctx c run
  some (worded text result, run)

def callBy (clock : Clock) (client : Client σ) (ctx : Context) (c : Call)
    (text : c.Outcome → String) (run : Run σ) :
    Timed σ (Except OrderError String × Run σ) := do
  let (result, run) ← Timed.of (client.callBy clock ctx c run)
  return (worded text result, run)

/-- Installs an image and words the report. -/
def install (client : Client σ) (ctx : Context) (job : Client.Job) (run : Run σ) : Performed σ :=
  (client.install ctx job run).map fun (result, run) =>
    (match result with
      | .ok report => .ok (Json.json report).pretty
      | .error e => .error (.client e), run)

namespace Command

/-- Carries out a command by making a call or by installing an image; `readFile` gives the content of
a file, or why there is none. -/
def performWith {τ : Type} (call : (c : Call) → (c.Outcome → String) → τ)
    (install : Client.Job → τ) (refuse : OrderError → τ)
    (readFile : String → Except String Image) : Command → τ
  | power none => call .powerState fun state => s!"Power: {state.name}"
  | power (some action) => call (.powerSet action) fun _ => s!"Power {action.name}: ok"
  | bootDevice device options =>
    call (.bootDeviceSet device options) fun _ => s!"Boot device {device.text}: ok"
  | bmcReset kind => call (.bmcReset kind) fun _ => s!"BMC {kind.name} reset: ok"
  | users => call .users userTable
  | firmware component file version =>
    match readFile file with
    | .error reason => refuse (.unreadable file reason)
    | .ok image => install { component, image, version }

/-- Carries out a command with a client. -/
def perform (client : Client σ) (ctx : Context) (readFile : String → Except String Image)
    (run : Run σ) : Command → Performed σ :=
  performWith (fun c text => call client ctx c text run) (fun job => install client ctx job run)
    (fun e => some (.error e, run)) readFile

/-- Carries out a command by the clock, which is not asked within an installation. -/
def performBy (clock : Clock) (client : Client σ) (ctx : Context)
    (readFile : String → Except String Image) (run : Run σ) :
    Command → Timed σ (Except OrderError String × Run σ) :=
  performWith (fun c text => callBy clock client ctx c text run)
    (fun job => ExceptT.lift (install client ctx job run)) (fun e => return (.error e, run)) readFile

end Command

/-! ## The whole program -/

/-- What the program leaves when it ends. -/
structure Ending where
  /-- Zero for a success. -/
  code : Nat
  output : String := ""
  /-- The texts of the error and of its causes. -/
  errors : List String := []
  deriving DecidableEq, Repr, Inhabited

def closingTime : Span := .ofSecs 10

/-- The context for closing the sessions from an instant on. That of the command may be done. -/
def closingContext (now : Nat) : Context := { deadline := some (now + closingTime.ns) }

/-- The context for closing the sessions, if the clock can show when its time is up. -/
def closingContext? (clock : Clock) (now : Nat) : Option Context :=
  Context.withTimeout? clock now closingTime

/-- What is printed at the version switch. -/
def versionText : String := "bmcmux 0.1.0\n"

/-- The end of a program whose command line is refused. -/
def refused (r : Refusal) : Ending where
  code := if r.isWanted then 0 else 2
  output := if r = .versionWanted then versionText else ""

def recordText (record : Metadata) : String := (Json.json record).pretty ++ "\n"

/-- The end of a program that gives the result of a command and the record of its call. -/
def ended (record : Metadata) : Except OrderError String → Ending
  | .ok output => { code := 0, output := output ++ "\n" ++ recordText record }
  | .error e => { code := 1, output := recordText record, errors := e.chain }

/-- The end of a program that the clock stopped. -/
def stopped : Ending := { code := 101 }

namespace Order

/-- The context of an order that is begun at an instant, and that may be interrupted at another. -/
def context (order : Order) (now : Nat) (interrupt : Option Nat) : Context :=
  { order.settings.context now with cancelAt := interrupt }

/-- Goes on after the sessions were opened, or none was. -/
def afterOpening (order : Order) (ctx : Context) (readFile : String → Except String Image) :
    Except Client.CallError Unit × Client σ × Run σ → Option (Ending × Run σ)
  | (.error e, _, run) => some (ended run.record (.error (.noSession e)), run)
  | (.ok (), client, run) => do
    let (result, run) ← order.command.perform client ctx readFile run
    let (_, after) := client.closeAll (closingContext run.now) run
    return (ended run.record result, after)

/-- Carries out an order with a client; absent if that has no end. It may be interrupted at an
instant. -/
def runWith (order : Order) (client : Client σ) (readFile : String → Except String Image)
    (interrupt : Option Nat) (run : Run σ) : Option (Ending × Run σ) :=
  let ctx := order.context run.now interrupt
  order.afterOpening ctx readFile ((order.settings.view client).openAll ctx run)

/-- The context of an order by the clock. -/
def context? (order : Order) (clock : Clock) (now : Nat) (interrupt : Option Nat) :
    Option Context :=
  (order.settings.context? clock now).map fun ctx => { ctx with cancelAt := interrupt }

/-- Goes on by the clock after the sessions were opened, or none was. -/
def afterOpeningBy (order : Order) (clock : Clock) (ctx : Context)
    (readFile : String → Except String Image) :
    Except Client.CallError Unit × Client σ × Run σ → Timed σ (Ending × Run σ)
  | (.error e, _, run) => return (ended run.record (.error (.noSession e)), run)
  | (.ok (), client, run) => do
    let (result, run) ← order.command.performBy clock client ctx readFile run
    let closing ← Timed.shown run (closingContext? clock run.now)
    let (_, after) ← Timed.of (client.closeAllBy clock closing run)
    return (ended run.record result, after)

/-- Carries out an order with a client by the clock. It may be interrupted at an instant. -/
def runBy (order : Order) (clock : Clock) (client : Client σ)
    (readFile : String → Except String Image) (interrupt : Option Nat) (run : Run σ) :
    Timed σ (Ending × Run σ) := do
  let ctx ← Timed.shown run (order.context? clock run.now interrupt)
  let opened ← Timed.of ((order.settings.view client).openAllBy clock ctx run)
  order.afterOpeningBy clock ctx readFile opened

/-- What is left in the world by an order that came to its end, or to that of the clock. -/
def left : Except (Run (Site σ)) (Ending × Run (Site σ)) → Ending × Scene σ
  | .ok (ending, run) => (ending, ⟨run.now, run.world.2⟩)
  | .error run => (stopped, ⟨run.now, run.world.2⟩)

/-- Carries out an order in a world. -/
def run (order : Order) (clock : Clock) (reach : Reach σ)
    (readFile : String → Except String Image) (interrupt : Option Nat) (s : Scene σ) :
    Option (Ending × Scene σ) :=
  match order.settings.target with
  | .error reason => some ({ code := 1, errors := (OrderError.noTarget reason).chain }, s)
  | .ok target =>
    let (client, _) := Client.ofTarget reach target order.settings.config
    (order.runBy clock client readFile interrupt ⟨⟨s.now, ({}, s.world)⟩, {}⟩).run.map left

end Order

/-- Runs the program on the words after its name; absent if that has no end. It may be interrupted
at an instant. -/
def interruptible (clock : Clock) (interrupt : Option Nat) (reach : Reach σ)
    (readFile : String → Except String Image) (env : String → Option String) (words : List String)
    (s : Scene σ) : Option (Ending × Scene σ) :=
  match Order.parse env words with
  | .error r => some (refused r, s)
  | .ok order => order.run clock reach readFile interrupt s

/-- Runs the program without an interruption. -/
def program (clock : Clock) (reach : Reach σ) (readFile : String → Except String Image)
    (env : String → Option String) (words : List String) (s : Scene σ) :
    Option (Ending × Scene σ) :=
  interruptible clock none reach readFile env words s

end OutOfBand.CommandLine
