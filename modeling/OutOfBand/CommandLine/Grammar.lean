/-!
# Command lines

How the words after the name of a program are read. A grammar names the switches, the options, which
take a value, the places, which are filled by words that name nothing, and the commands. Reading
goes word by word. The value of an option or of a place is looked at only when the next argument is
found or the words are at an end; so an unknown word is found out before a bad value just in front
of it. After two dashes alone no word names anything any more.
-/

namespace OutOfBand.CommandLine

/-- Why a command line is not carried out. -/
inductive Refusal where
  /-- A word names nothing that there is, or there are too many words. -/
  | unknownArgument
  /-- There is no such command. -/
  | unknownCommand
  /-- No command is given. -/
  | commandMissing
  /-- Nothing is given at all. -/
  | nothingGiven
  /-- Something that is needed is not given. -/
  | argumentMissing
  /-- Something is given twice. -/
  | givenTwice
  /-- A value is not given, or is none of those that there are. -/
  | noSuchValue
  /-- A value cannot be read. -/
  | unreadableValue
  /-- A value is given to a switch. -/
  | valueUncalledFor
  /-- Only the help is asked for. -/
  | helpWanted
  /-- Only the version is asked for. -/
  | versionWanted
  deriving DecidableEq, Repr, Inhabited

namespace Refusal

/-- Whether the refusal is what was asked for, and no mistake. -/
def isWanted : Refusal → Bool
  | helpWanted | versionWanted => true
  | _ => false

end Refusal

/-! ## Words -/

/-- A word by its form. -/
inductive Word where
  | escape
  /-- A name after two dashes, and the value that follows an equals sign. -/
  | long (name : String) (value : Option String)
  /-- Letters after one dash. -/
  | short (letters : List Char)
  | plain (text : String)
  deriving DecidableEq, Repr, Inhabited

namespace Word

def ofText (s : String) : Word :=
  match s.toList with
  | ['-', '-'] => escape
  | '-' :: '-' :: cs =>
    let name := String.ofList (cs.takeWhile (· != '='))
    match cs.dropWhile (· != '=') with
    | [] => long name none
    | _ :: value => long name (some (String.ofList value))
  | '-' :: c :: cs => short (c :: cs)
  | _ => plain s

end Word

/-! ## Grammars -/

/-- What a switch does with settings of type `S`. -/
inductive Effect (S : Type) where
  | set (change : S → S)
  | stop (reason : Refusal)

/-- An option without a value. -/
structure Switch (S : Type) where
  name : String
  letter : Option Char
  effect : Effect S

/-- An option with a value, or a place. -/
structure Argument (S : Type) where
  name : String
  /-- Changes the settings by a value. -/
  take : String → S → Except Refusal S

namespace Argument

def text (name : String) (set : String → S → S) : Argument S := ⟨name, fun v s => .ok (set v s)⟩

/-- An argument whose texts `read?` reads; for the others there is the refusal `otherwise`. -/
def reading (name : String) (read? : String → Option α) (otherwise : Refusal) (set : α → S → S) :
    Argument S where
  name
  take v s := match read? v with
    | some a => .ok (set a s)
    | none => .error otherwise

end Argument

/-- What a command line may hold. -/
structure Grammar (S : Type) where
  switches : List (Switch S) := []
  options : List (Argument S) := []
  /-- All places have to be filled. -/
  places : List (Argument S) := []
  commands : List String := []

/-! ## Reading -/

/-- An argument that was found, and the value if it was found too. -/
structure Held (S : Type) where
  argument : Argument S
  value : Option String

/-- How far the reading has come. -/
structure Progress (S : Type) where
  settings : S
  /-- The names of what was given. -/
  given : List String := []
  /-- The argument whose value was not looked at yet. -/
  held : Option (Held S) := none
  /-- The places that are left. -/
  places : List (Argument S)

namespace Progress

variable {S : Type}

/-- Takes what goes by a name, which may be given once. -/
def accept (p : Progress S) (name : String) (change : S → Except Refusal S) :
    Except Refusal (Progress S) :=
  if p.given.contains name then .error .givenTwice
  else (change p.settings).map fun settings => { p with settings, given := p.given ++ [name] }

/-- Looks at the value that is held. -/
def settle (p : Progress S) : Except Refusal (Progress S) :=
  match p.held with
  | none => .ok p
  | some ⟨_, none⟩ => .error .noSuchValue
  | some ⟨argument, some v⟩ => { p with held := none }.accept argument.name (argument.take v)

/-- Holds an argument, with its value if that was found too. -/
def hold (p : Progress S) (argument : Argument S) (value : Option String) :
    Except Refusal (Progress S) :=
  p.settle.map fun p => { p with held := some ⟨argument, value⟩ }

/-- Whether the next word is a value unless it is a name. -/
def awaits (p : Progress S) : Bool := p.held.any (·.value.isNone)

def switch (p : Progress S) (s : Switch S) : Except Refusal (Progress S) := do
  let p ← p.settle
  match s.effect with
  | .set change => p.accept s.name fun settings => .ok (change settings)
  | .stop reason => throw reason

end Progress

namespace Grammar

variable {S : Type} (g : Grammar S)

def start (settings : S) : Progress S := { settings, places := g.places }

/-- Fills the next place with a word. -/
def fill (p : Progress S) (word : String) : Except Refusal (Progress S) :=
  match p.places with
  | place :: places => { p with places }.hold place (some word)
  | [] =>
    .error (if g.commands.isEmpty || g.commands.contains word then .unknownArgument
      else .unknownCommand)

/-- Fills the next places with all words. -/
def fillAll (p : Progress S) (words : List String) : Except Refusal (Progress S) :=
  words.foldlM g.fill p

def named (p : Progress S) (name : String) (value : Option String) :
    Except Refusal (Progress S) :=
  match g.switches.find? (·.name == name), g.options.find? (·.name == name), value with
  | some s, _, none => p.switch s
  | some _, _, some _ => .error .valueUncalledFor
  | none, some option, none => p.hold option none
  | none, some option, some v => do (← p.settle).accept option.name (option.take v)
  | none, none, _ => .error .unknownArgument

def lettered (p : Progress S) (letter : Char) : Except Refusal (Progress S) :=
  match g.switches.find? (·.letter == some letter) with
  | some s => p.switch s
  | none => .error .unknownArgument

/-- Reads a word that names nothing: the value that is awaited, or what fills the next place. -/
def nameless (p : Progress S) (word : String) : Except Refusal (Progress S) :=
  match p.held with
  | some ⟨argument, none⟩ => .ok { p with held := some ⟨argument, some word⟩ }
  | _ => g.fill p word

/-- Reads words up to the name of a command: how far the reading has come, and the command with the
words after it. -/
def scan (p : Progress S) :
    List String → Except Refusal (Progress S × Option (String × List String))
  | [] => .ok (p, none)
  | word :: words =>
    if !p.awaits && g.commands.contains word then .ok (p, some (word, words))
    else match Word.ofText word with
      | .escape => (g.fillAll p words).map (·, none)
      | .long name value => do scan (← g.named p name value) words
      | .short letters => do scan (← letters.foldlM g.lettered p) words
      | .plain text => do scan (← g.nameless p text) words

/-- The settings that words without a command make of the settings at the start. -/
def read (settings : S) (words : List String) : Except Refusal S := do
  let (p, _) ← g.scan (g.start settings) words
  let p ← p.settle
  if p.places.isEmpty then return p.settings else throw .argumentMissing

end Grammar

end OutOfBand.CommandLine
