import OutOfBand.Account
import OutOfBand.Decimal.Reading
import OutOfBand.Power
import OutOfBand.Reading
import OutOfBand.Text.Ascii
import OutOfBand.Text.Blank

/-!
# What the IPMI tool prints

The tool prints tables, one record a line. A user table has its columns set apart by blanks, with
three flags between the name and the privilege; the tables of events and sensors have theirs set
apart by bars. A line that is no record is passed over and has no influence on the others.
-/

namespace OutOfBand.Ipmi

/-! ## Power -/

/-- The power of the host that a report tells. -/
def powerOf (report : String) : PowerState :=
  let report := Text.lower report
  if Text.contains report "is on" then .on
  else if Text.contains report "is off" then .off
  else .unknown

/-! ## Users -/

/-- The role of a privilege as tables name it. -/
def roleOf : String → Option UserRole
  | "ADMINISTRATOR" => some .administrator
  | "OPERATOR" => some .operator
  | "USER" => some .user
  | "CALLBACK" => some .readOnly
  | _ => none

def privilege : UserRole → String
  | .administrator => "privilege=4"
  | .operator => "privilege=3"
  | .user => "privilege=2"
  | .readOnly => "privilege=1"

/-- Whether a word is the number of a slot: a number of at most 32 bits, after an optional plus. -/
def isSlotId (word : String) : Bool :=
  let digits := match word.toList with
    | '+' :: rest => rest
    | cs => cs
  !digits.isEmpty && digits.all Decimal.isDigit && Decimal.accumulate 0 digits < UInt32.size

/-- Whether a word is a flag of a user table. -/
def isFlag (word : String) : Bool := word == "true" || word == "false"

def joined (words : List String) : String := String.intercalate " " words

/-- The slot that a line of a user table shows. -/
def slotOfLine (line : String) : Option UserAccount :=
  match Text.words line with
  | [] => none
  | id :: rest =>
    let name := rest.takeWhile fun w => !isFlag w
    let flags := rest.dropWhile fun w => !isFlag w
    if !isSlotId id || flags.isEmpty then none
    else
      let role := roleOf (joined (flags.drop 3))
      some ⟨id, joined name, role, role.isSome⟩

/-- The slots that a user table shows, also those without a name. -/
def slotsOf (table : String) : List UserAccount := (Text.lines table).filterMap slotOfLine

/-- The users that a user table shows. -/
def usersOf (table : String) : List UserAccount := (slotsOf table).filter fun u => u.name != ""

/-! ## Events -/

/-- The columns of a line, without the blanks around them. -/
def columns (line : String) : List String := (Text.splitOn '|' line).map Text.trim

def eventOfLine (line : String) : Option EventLogEntry :=
  match columns line with
  | id :: date :: time :: description :: message :: more =>
    some ⟨id, s!"{date} {time}", description, String.intercalate " | " (message :: more)⟩
  | _ => none

def eventsOf (table : String) : List EventLogEntry := (Text.lines table).filterMap eventOfLine

/-! ## Sensors -/

/-- What a sensor with the given unit measures. -/
def kindOfUnit : String → String
  | "degrees C" | "degrees F" => "temperature"
  | "RPM" => "fan"
  | "Volts" => "voltage"
  | "Amps" => "current"
  | "Watts" => "power"
  | _ => "other"

def readingOfLine (line : String) : Option SensorReading :=
  match columns line with
  | name :: value :: unit :: _ =>
    if name == "" then none else some ⟨name, kindOfUnit unit, Decimal.read? value, unit⟩
  | _ => none

def readingsOf (table : String) : List SensorReading :=
  (Text.lines table).filterMap readingOfLine

end OutOfBand.Ipmi
