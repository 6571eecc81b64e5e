import OutOfBand.CommandLine.Grammar
import OutOfBand.Client
import OutOfBand.Clock
import OutOfBand.Decimal.Reading
import OutOfBand.Target

/-!
# Orders

An order is what the command line tells the program to do: one command for one controller, with the
settings for how to reach the controller. The address and the credentials have to be given; they and
the secret for remote calls may also stand in the environment, which counts less than the command
line.
-/

namespace OutOfBand.CommandLine

/-- What is to be done with a controller. -/
inductive Command where
  /-- Switch the host; without an action tell its power. -/
  | power (action : Option PowerAction)
  /-- Choose what the host boots from. -/
  | bootDevice (device : BootDevice) (options : BootOptions)
  | bmcReset (kind : ResetKind)
  | users
  /-- Install firmware from a file. -/
  | firmware (component file version : String)
  deriving DecidableEq, Repr, Inhabited

/-- How the controller is to be reached. -/
structure Settings where
  verbose : Bool := false
  host : String := ""
  user : String := ""
  password : String := ""
  /-- The only driver to use. -/
  driver : Option String := none
  /-- The only protocol to use. -/
  protocol : Option String := none
  /-- The driver to try first. -/
  prefer : Option String := none
  /-- The time that the whole command gets. -/
  timeout : Option Span := none
  /-- The time that each driver gets. -/
  perDriver : Option Span := none
  insecure : Bool := false
  redfishPort : Option UInt16 := none
  rpcUrl : Option String := none
  rpcSecret : Option String := none
  mac : Option String := none
  deriving DecidableEq, Repr, Inhabited

/-- A command and how to reach the controller. -/
structure Order where
  settings : Settings
  command : Command
  deriving DecidableEq, Repr, Inhabited

/-! ## Values -/

/-- The whole number that digits after an optional sign write: whether it has a minus sign, and the
number without it. -/
def wholeOf (s : String) : Option (Bool × Nat) :=
  let (negative, digits) := Decimal.sign s.toList
  if digits.isEmpty || !digits.all Decimal.isDigit then none
  else some (negative, Decimal.accumulate 0 digits)

/-- The length of time that a number of seconds writes. -/
def secondsOf (s : String) : Option Span := do
  let (negative, n) ← wholeOf s
  if negative || UInt64.size ≤ n then none else some (.ofSecs n)

def portOf (s : String) : Option UInt16 := do
  let (negative, n) ← wholeOf s
  if (negative && n != 0) || UInt16.size ≤ n then none else some (.ofNat n)

/-- What to do about the power: an action, or nothing but ask. -/
def powerOf (s : String) : Option (Option PowerAction) :=
  if s == "status" then some none else (Vocabulary.find? s).map some

/-- The boot device that a text names. -/
def bootDeviceOf (s : String) : Option BootDevice := (BootDevice.parse s).toOption

def fileOf (s : String) : Option String := if s.isEmpty then none else some s

/-! ## Grammars -/

def helpSwitch : Switch S := ⟨"help", some 'h', .stop .helpWanted⟩

def powerGrammar : Grammar (Option PowerAction) where
  switches := [helpSwitch]
  places := [.reading "action" powerOf .noSuchValue fun action _ => action]

def bootDeviceGrammar : Grammar (BootDevice × BootOptions) where
  switches :=
    [⟨"persistent", none, .set fun (device, o) => (device, { o with persistent := true })⟩,
      ⟨"efi", none, .set fun (device, o) => (device, { o with efi := true })⟩, helpSwitch]
  places := [.reading "device" bootDeviceOf .unreadableValue fun device (_, o) => (device, o)]

def resetGrammar : Grammar ResetKind where
  switches := [⟨"cold", none, .set fun _ => .cold⟩, helpSwitch]

def bareGrammar : Grammar Unit where
  switches := [helpSwitch]

/-- What is given to the firmware command. -/
structure FirmwareOrder where
  component : String := ""
  file : String := ""
  version : String := ""

def firmwareGrammar : Grammar FirmwareOrder where
  switches := [helpSwitch]
  options := [.text "version" fun v o => { o with version := v }]
  places :=
    [.text "component" fun v o => { o with component := v },
      .reading "file" fileOf .noSuchValue fun v o => { o with file := v }]

/-- The command that asks for help, about itself or about the command after it. -/
def helpCommand : String := "help"

def commandNames : List String :=
  ["power", "bootdev", "bmc-reset", "users", "firmware", helpCommand]

def settingsGrammar : Grammar Settings where
  switches :=
    [⟨"verbose", some 'v', .set fun s => { s with verbose := true }⟩,
      ⟨"insecure", none, .set fun s => { s with insecure := true }⟩, helpSwitch,
      ⟨"version", some 'V', .stop .versionWanted⟩]
  options :=
    [.text "host" fun v s => { s with host := v },
      .text "user" fun v s => { s with user := v },
      .text "password" fun v s => { s with password := v },
      .text "driver" fun v s => { s with driver := some v },
      .text "protocol" fun v s => { s with protocol := some v },
      .text "prefer" fun v s => { s with prefer := some v },
      .reading "timeout" secondsOf .unreadableValue fun d s => { s with timeout := some d },
      .reading "provider-timeout" secondsOf .unreadableValue fun d s =>
        { s with perDriver := some d },
      .reading "redfish-port" portOf .unreadableValue fun n s => { s with redfishPort := some n },
      .text "rpc-url" fun v s => { s with rpcUrl := some v },
      .text "rpc-secret" fun v s => { s with rpcSecret := some v },
      .text "mac" fun v s => { s with mac := some v }]
  commands := commandNames

/-- The options that the environment may give, each with the name of its variable. -/
def environmentNames : List (String × String) :=
  [("host", "BMCMUX_HOST"), ("user", "BMCMUX_USER"), ("password", "BMCMUX_PASSWORD"),
    ("rpc-secret", "BMCMUX_RPC_SECRET")]

/-! ## Reading orders -/

/-- What help about the commands named by words comes to. -/
def helpAbout : List String → Refusal
  | [] => .helpWanted
  | name :: more =>
    if commandNames.contains name && more.isEmpty then .helpWanted else .unknownCommand

/-- The command of a name, with the words after it. -/
def commandOf (name : String) (words : List String) : Except Refusal Command :=
  match name with
  | "power" => (powerGrammar.read none words).map .power
  | "bootdev" => (bootDeviceGrammar.read (.none, .once) words).map fun (d, o) => .bootDevice d o
  | "bmc-reset" => (resetGrammar.read .warm words).map .bmcReset
  | "users" => (bareGrammar.read () words).map fun _ => .users
  | "firmware" =>
    (firmwareGrammar.read {} words).map fun o => .firmware o.component o.file o.version
  | _ => .error (if name == helpCommand then helpAbout words else .unknownCommand)

/-- Takes from the environment what is not given otherwise. -/
def fromEnvironment (env : String → Option String) (p : Progress Settings) :
    Except Refusal (Progress Settings) :=
  environmentNames.foldlM (fun p (name, key) =>
    match settingsGrammar.options.find? (·.name == name), env key with
    | some option, some v =>
      if p.given.contains name then .ok p else p.accept name (option.take v)
    | _, _ => .ok p) p

def needed (given : List String) : List String :=
  ["host", "user", "password"] ++ if given.contains "rpc-url" then ["rpc-secret"] else []

namespace Order

/-- The order that the words of a command line write, with the environment `env`. -/
def parse (env : String → Option String) (words : List String) : Except Refusal Order := do
  let (p, found) ← settingsGrammar.scan (settingsGrammar.start {}) words
  let command ← match found with
    | some (name, rest) => (commandOf name rest).map some
    | none => pure none
  let p ← fromEnvironment env (← p.settle)
  match command with
  | none => throw (if p.given.isEmpty then .nothingGiven else .commandMissing)
  | some command =>
    if (needed p.given).all p.given.contains then return ⟨p.settings, command⟩
    else throw .argumentMissing

end Order

/-! ## What settings mean -/

namespace Settings

/-- The controller. There is none if the MAC address is not one; then there is a message. -/
def target (s : Settings) : Except String Target := do
  let wake ← match s.mac with
    | none => pure none
    | some mac =>
      match WakeOptions.ofText mac with
      | some wake => pure (some wake)
      | none => throw s!"invalid MAC address: {mac}"
  let redfish : RedfishOptions := { port := s.redfishPort.getD 443, insecure := s.insecure }
  let rpc := match s.rpcUrl, s.rpcSecret with
    | some url, some secret => some (RpcOptions.ofConsumer url secret)
    | _, _ => none
  return ⟨s.host, s.user, s.password, { redfish, rpc, wake }⟩

def config (s : Settings) : Config := { perProvider := s.perDriver }

/-- Which drivers to use, and in which order. -/
def views (s : Settings) : List View :=
  (s.driver.map .forDriver).toList ++ (s.protocol.map .speaking).toList ++
    (s.prefer.map .preferDriver).toList

/-- The context of a command that begins at an instant. -/
def context (s : Settings) (now : Nat) : Context := { deadline := s.timeout.map (now + ·.ns) }

/-- The context by the clock, which has to show when the time of the command is up. -/
def context? (s : Settings) (clock : Clock) (now : Nat) : Option Context :=
  match s.timeout with
  | none => some .background
  | some time => Context.withTimeout? clock now time

/-- The client as the settings ask for it. -/
def view (s : Settings) (client : Client σ) : Client σ := s.views.foldl Client.view client

end Settings

end OutOfBand.CommandLine
