import OutOfBand.Account
import OutOfBand.Config
import OutOfBand.Feature
import OutOfBand.Firmware.Step
import OutOfBand.Firmware.Task
import OutOfBand.Json.Printer
import OutOfBand.Metadata
import OutOfBand.Power
import OutOfBand.Proofs.Json.Stored
import OutOfBand.Proofs.Net.AddressText
import OutOfBand.Reading
import OutOfBand.Rpc.Envelope
import OutOfBand.Target

/-!
# What is stored is read back

Every type with a JSON form is shown to be `Lasting`: vocabularies, since their names differ; sets
of features, addresses and lengths of time each in a way of its own; and records, since their fields
are. With what is known of the text of a JSON value it follows that all of them are read back from
the texts that they are written as (`stored_values_round_trip`).

What a value must be so that it can be held (`Stored.Sound`) is asked of addresses, which have four
octets or eight groups; of the six bytes of an interface; of lengths of time, whose seconds have 64
bits; of the failures in the record of a call, which stand in order; and of JSON values of no fixed
type. Every value that is read is like that.
-/

namespace OutOfBand

open Json

/-! ## Vocabularies -/

instance : LawfulVocabulary PowerState := ⟨fun a => by cases a <;> decide, by decide⟩
instance : LawfulVocabulary PowerAction := ⟨fun a => by cases a <;> decide, by decide⟩
instance : LawfulVocabulary BootDevice := ⟨fun a => by cases a <;> decide, by decide⟩
instance : LawfulVocabulary ResetKind := ⟨fun a => by cases a <;> decide, by decide⟩
instance : LawfulVocabulary UserRole := ⟨fun a => by cases a <;> decide, by decide⟩
instance : LawfulVocabulary MediaKind := ⟨fun a => by cases a <;> decide, by decide⟩
instance : LawfulVocabulary HmacAlgorithm := ⟨fun a => by cases a <;> decide, by decide⟩
instance : LawfulVocabulary Feature := ⟨Feature.mem_all, by decide⟩
instance : LawfulVocabulary Firmware.Step := ⟨fun a => by cases a <;> decide, by decide⟩
instance : LawfulVocabulary Firmware.TaskState := ⟨fun a => by cases a <;> decide, by decide⟩
instance : LawfulVocabulary Firmware.TaskKind := ⟨fun a => by cases a <;> decide, by decide⟩
instance : LawfulVocabulary Firmware.ApplyTime := ⟨fun a => by cases a <;> decide, by decide⟩

instance : Lasting PowerState := ⟨faithful_fromDoc⟩
instance : Lasting PowerAction := ⟨faithful_fromDoc⟩
instance : Lasting BootDevice := ⟨faithful_fromDoc⟩
instance : Lasting ResetKind := ⟨faithful_fromDoc⟩
instance : Lasting UserRole := ⟨faithful_fromDoc⟩
instance : Lasting MediaKind := ⟨faithful_fromDoc⟩
instance : Lasting HmacAlgorithm := ⟨faithful_fromDoc⟩
instance : Lasting Feature := ⟨faithful_fromText "feature"⟩
instance : Lasting Firmware.Step := ⟨faithful_fromText "firmware install step"⟩
instance : Lasting Firmware.TaskState := ⟨faithful_fromDoc⟩
instance : Lasting Firmware.TaskKind := ⟨faithful_fromDoc⟩
instance : Lasting Firmware.ApplyTime := ⟨faithful_fromDoc⟩

instance : NeverNull UserRole := ⟨fun _ => by rintro ⟨⟩⟩

/-! ## Sets of features -/

namespace Features

theorem ofList_toList (s : Features) : ofList s.toList = s := by
  obtain ⟨has⟩ := s
  simp only [ofList, mk.injEq]
  funext f
  rw [Bool.eq_iff_iff, List.contains_iff_mem, mem_toList]

instance : Stored Features := {}

instance : Lasting Features where
  faithful := (Lasting.faithful (α := List Feature)).image (g := toList) (fun _ => trivial)
    (fun {s} _ => ⟨fun _ _ => trivial, s.ofList_toList⟩) fun _ _ _ => trivial

end Features

/-! ## Addresses -/

namespace IpAddress

instance : Stored IpAddress where
  Sound := Sound

instance : Lasting IpAddress where
  faithful := {
    sound := fun {d a} hread => by
      simp only [FromDoc.read] at hread
      split at hread
      · split at hread
        · cases hread
          exact parse?_sound ‹_›
        · exact (misfit_ne_ok hread).elim
      · exact (unexpected_ne_ok hread).elim
    exact := fun _ _ => isExact_str _
    reads := fun {a} hsound _ => by
      simp [json, doc, FromDoc.read, parse?_text a hsound] }

end IpAddress

section Records

-- A record is put together from the values of its fields, one after another.
attribute [local simp] StoredField.FoundIn StoredField.of bind_eq_ok_iff mapped_eq_ok_iff

/-! ## Power, accounts and what controllers show -/

namespace BootOptions

def fields : List (StoredField BootOptions) := [.of persistentSlot persistent, .of efiSlot efi]

instance : Stored BootOptions := .ofFields fields

instance : Lasting BootOptions where
  faithful := faithful_fields fields rfl (by decide) (by
    rintro found ⟨⟩
    simp [-Bool.exists_bool, fields])

end BootOptions

namespace UserAccount

def fields : List (StoredField UserAccount) :=
  [.of idSlot id, .of nameSlot name, .of roleSlot role, .of enabledSlot enabled]

instance : Stored UserAccount := .ofFields fields

instance : Lasting UserAccount where
  faithful := faithful_fields fields rfl (by decide) (by
    rintro found ⟨⟩
    simp [-Bool.exists_bool, fields])

end UserAccount

namespace EventLogEntry

def fields : List (StoredField EventLogEntry) :=
  [.of idSlot id, .of timestampSlot timestamp, .of descriptionSlot description,
    .of messageSlot message]

instance : Stored EventLogEntry := .ofFields fields

instance : Lasting EventLogEntry where
  faithful := faithful_fields fields rfl (by decide) (by
    rintro found ⟨⟩
    simp [fields])

end EventLogEntry

namespace SensorReading

/-- A double is not read as it was written if it is no number. -/
instance : Stored Binary64 where
  Plain _ := False

instance : Lasting Binary64 := ⟨⟨fun _ => trivial, fun _ => False.elim, fun _ => False.elim⟩⟩

instance : NeverNull Binary64 := ⟨fun _ => by rintro ⟨⟩⟩

def fields : List (StoredField SensorReading) :=
  [.of nameSlot name, .of kindSlot kind, .of valueSlot value, .of unitSlot unit]

instance : Stored SensorReading := .ofFields fields

instance : Lasting SensorReading where
  faithful := faithful_fields fields rfl (by decide) (by
    rintro found ⟨⟩
    simp [fields])

end SensorReading

namespace Firmware.Status

def fields : List (StoredField Status) := [.of stateSlot state, .of textSlot text]

instance : Stored Status := .ofFields fields

instance : Lasting Status where
  faithful := faithful_fields fields rfl (by decide) (by
    rintro found ⟨⟩
    simp [fields])

end Firmware.Status

/-! ## Targets -/

namespace IpmiOptions

def fields : List (StoredField IpmiOptions) :=
  [.of portSlot port, .of toolPathSlot toolPath, .of interfaceSlot interface,
    .of cipherSuiteSlot cipherSuite]

instance : Stored IpmiOptions := .ofFields fields

instance : Lasting IpmiOptions where
  faithful := faithful_fields fields rfl (by decide) (by
    rintro found ⟨⟩
    simp [fields])

theorem sound_default : Stored.Sound ({} : IpmiOptions) := by
  simp [Stored.Sound, fields]

end IpmiOptions

namespace RedfishOptions

def fields : List (StoredField RedfishOptions) :=
  [.of portSlot port, .of schemeSlot scheme, .of insecureSlot insecure,
    .of systemPathSlot systemPath, .of managerPathSlot managerPath]

instance : Stored RedfishOptions := .ofFields fields

instance : Lasting RedfishOptions where
  faithful := faithful_fields fields rfl (by decide) (by
    rintro found ⟨⟩
    simp [-Bool.exists_bool, fields])

theorem sound_default : Stored.Sound ({} : RedfishOptions) := by
  simp [Stored.Sound, fields]

end RedfishOptions

namespace RpcOptions

def fields : List (StoredField RpcOptions) :=
  [.of consumerUrlSlot consumerUrl, .of signatureHeaderSlot signatureHeader,
    .of timestampHeaderSlot timestampHeader, .of signedHeadersSlot signedHeaders,
    .of algorithmSlot algorithm, .of secretsSlot secrets]

instance : Stored RpcOptions := .ofFields fields

instance : Lasting RpcOptions where
  faithful := faithful_fields fields rfl (by decide) (by
    rintro found ⟨⟩
    simp [fields])

instance : NeverNull RpcOptions := ⟨fun _ => by rintro ⟨⟩⟩

end RpcOptions

namespace WakeOptions

/-- The address of an interface is six bytes. -/
def macField : StoredField WakeOptions where
  slot := macSlot
  value := mac
  write := json
  Sound bytes := bytes.length = 6 ∧ Stored.Sound bytes
  Plain := Stored.Plain
  faithful := Lasting.faithful.exactly 6
  absent := by rintro _ ⟨⟩

def fields : List (StoredField WakeOptions) :=
  [macField, .of broadcastSlot broadcast, .of portSlot port]

instance : Stored WakeOptions := .ofFields fields

instance : Lasting WakeOptions where
  faithful := faithful_fields fields rfl (by decide) (by
    rintro found ⟨⟩
    simp [fields, macField])

theorem sound_iff {o : WakeOptions} :
    Stored.Sound o ↔ o.mac.length = 6 ∧ o.broadcast.Sound := by
  simp [Stored.Sound, fields, macField]

instance : NeverNull WakeOptions := ⟨fun _ => by rintro ⟨⟩⟩

end WakeOptions

namespace DriverOptions

def fields : List (StoredField DriverOptions) :=
  [.of ipmiSlot ipmi rfl (by rintro _ ⟨⟩; exact IpmiOptions.sound_default),
    .of redfishSlot redfish rfl (by rintro _ ⟨⟩; exact RedfishOptions.sound_default),
    .of rpcSlot rpc, .of wakeSlot wake]

instance : Stored DriverOptions := .ofFields fields

instance : Lasting DriverOptions where
  faithful := faithful_fields fields rfl (by decide) (by
    rintro found ⟨⟩
    simp [fields])

theorem sound_default : Stored.Sound ({} : DriverOptions) := by
  refine List.forall_mem_cons.mpr ⟨IpmiOptions.sound_default, ?_⟩
  refine List.forall_mem_cons.mpr ⟨RedfishOptions.sound_default, ?_⟩
  simp [sound_none]

end DriverOptions

namespace Target

def fields : List (StoredField Target) :=
  [.of hostSlot host, .of usernameSlot username, .of passwordSlot password,
    .of optionsSlot options rfl (by rintro _ ⟨⟩; exact DriverOptions.sound_default)]

instance : Stored Target := .ofFields fields

instance : Lasting Target where
  faithful := faithful_fields fields rfl (by decide) (by
    rintro found ⟨⟩
    simp [fields])

/-- Only the options of the wake-up packet must be looked at. -/
theorem sound_iff {t : Target} : Stored.Sound t ↔ ∀ o ∈ t.options.wake, Stored.Sound o := by
  simp [Stored.Sound, fields, DriverOptions.fields, IpmiOptions.fields, RedfishOptions.fields,
    RpcOptions.fields]

theorem plain (t : Target) : Stored.Plain t := by
  simp [Stored.Plain, fields, DriverOptions.fields, IpmiOptions.fields, RedfishOptions.fields,
    RpcOptions.fields, WakeOptions.fields, WakeOptions.macField]

end Target

/-! ## Settings and records -/

namespace Span

/-- A number among the fields of a length of time. -/
def numberField (slot : Doc.Slot Nat) (value : Span → Nat) (bits : Nat) (hbits : bits ≤ 64)
    (hread : slot.read = Doc.unsigned bits) (habsent : slot.absent = none) : StoredField Span where
  slot := slot
  value := value
  write n := Json.int n
  Sound n := n < Nat.pow 2 bits
  Plain _ := True
  faithful := hread ▸ faithful_unsigned bits hbits
  absent := by simp [habsent]

def fields : List (StoredField Span) :=
  [numberField secsSlot secs 64 (by decide) rfl rfl,
    numberField nanosSlot subsecNanos 32 (by decide) rfl rfl]

/-- The seconds have 64 bits. -/
instance : Stored Span where
  Sound d := d.secs < UInt64.size

theorem sound_ofSecs {n : Nat} (h : n < UInt64.size) : Stored.Sound (ofSecs n) := by
  change n * 1000000000 / 1000000000 < UInt64.size
  omega

theorem subsecNanos_lt (d : Span) : d.subsecNanos < 1000000000 := Nat.mod_lt _ (by decide)

theorem secs_add_subsecNanos (d : Span) : (⟨d.secs * 1000000000 + d.subsecNanos⟩ : Span) = d := by
  rw [secs, subsecNanos, Nat.mul_comm, Nat.div_add_mod]

instance : Lasting Span where
  faithful := by
    refine faithful_record fields rfl (by decide) ?_ ?_ ?_
    · intro d hs _
      have hnanos : d.subsecNanos < Nat.pow 2 32 := Nat.lt_trans d.subsecNanos_lt (by decide)
      have hsecs : d.secs < Nat.pow 2 64 := hs
      exact List.forall_mem_cons.mpr ⟨⟨hsecs, trivial⟩,
        List.forall_mem_cons.mpr ⟨⟨hnanos, trivial⟩, by simp⟩⟩
    · intro found d hs hfound
      -- The nanoseconds that are written are less than a second, so nothing is carried over.
      have hcarry : ¬UInt64.size ≤ d.secs + d.subsecNanos / 1000000000 := by
        rw [Nat.div_eq_of_lt d.subsecNanos_lt]
        exact Nat.not_le_of_lt hs
      simp only [fields, numberField, StoredField.FoundIn, List.forall_mem_cons] at hfound
      refine bind_eq_ok_iff.mpr ⟨_, hfound.1, bind_eq_ok_iff.mpr ⟨_, hfound.2.1, ?_⟩⟩
      rw [if_neg hcarry, secs_add_subsecNanos]
      rfl
    · intro found d hbuilt
      obtain ⟨secs, -, hbuilt⟩ := bind_eq_ok_iff.mp hbuilt
      obtain ⟨nanos, -, hbuilt⟩ := bind_eq_ok_iff.mp hbuilt
      split at hbuilt
      · exact (misfit_ne_ok hbuilt).elim
      · next hcarry =>
          cases hbuilt
          change (secs * 1000000000 + nanos) / 1000000000 < UInt64.size
          omega

instance : NeverNull Span := ⟨fun _ => by rintro ⟨⟩⟩

end Span

namespace PollPacing

def fields : List (StoredField PollPacing) :=
  [.of intervalSlot interval rfl (by rintro _ ⟨⟩; exact Span.sound_ofSecs (by decide)),
    .of backoffSlot backoff rfl (by rintro _ ⟨⟩; exact Span.sound_ofSecs (by decide))]

instance : Stored PollPacing := .ofFields fields

instance : Lasting PollPacing where
  faithful := faithful_fields fields rfl (by decide) (by
    rintro found ⟨⟩
    simp [fields])

theorem sound_default : Stored.Sound ({} : PollPacing) := by
  refine List.forall_mem_cons.mpr ⟨Span.sound_ofSecs (by decide), ?_⟩
  refine List.forall_mem_cons.mpr ⟨Span.sound_ofSecs (by decide), ?_⟩
  simp

end PollPacing

namespace Config

def fields : List (StoredField Config) :=
  [.of perProviderSlot perProvider,
    .of firmwareSlot firmware rfl (by rintro _ ⟨⟩; exact PollPacing.sound_default)]

instance : Stored Config := .ofFields fields

instance : Lasting Config where
  faithful := faithful_fields fields rfl (by decide) (by
    rintro found ⟨⟩
    simp [fields])

end Config

namespace Metadata

/-- Failures are kept in order of the names of drivers. -/
def failuresField : StoredField Metadata where
  slot := failuresSlot
  value := failures
  write failures := .obj (failures.map fun m => (m.1, .str m.2))
  Sound failures := Ordered failures ∧ ∀ m ∈ failures, True
  Plain failures := ∀ m ∈ failures, True
  faithful := faithful_string.map
  absent := by rintro _ ⟨⟩

def fields : List (StoredField Metadata) :=
  [.of attemptedSlot attempted, .of successfulSlot successful, .of openedSlot opened,
    .of closedSlot closed, failuresField]

instance : Stored Metadata := .ofFields fields

instance : Lasting Metadata where
  faithful := faithful_fields fields rfl (by decide) (by
    rintro found ⟨⟩
    simp [fields, failuresField])

end Metadata

/-! ## Remote calls -/

namespace Rpc

namespace Request

def fields : List (StoredField Request) :=
  [.of idSlot id, .of hostSlot host, .of methodSlot method, .of paramsSlot params]

instance : Stored Request := .ofFields fields

instance : Lasting Request where
  faithful := faithful_fields fields rfl (by decide) (by
    rintro found ⟨⟩
    simp [fields])

theorem sound_iff {r : Request} : Stored.Sound r ↔ IsSound r.params := by
  simp [Stored.Sound, fields]

theorem plain_iff {r : Request} : Stored.Plain r ↔ IsPlain r.params := by
  simp [Stored.Plain, fields]

end Request

namespace ResponseError

def fields : List (StoredField ResponseError) :=
  [.of codeSlot code, .of messageSlot message]

instance : Stored ResponseError := .ofFields fields

instance : Lasting ResponseError where
  faithful := faithful_fields fields rfl (by decide) (by
    rintro found ⟨⟩
    simp [fields])

instance : NeverNull ResponseError := ⟨fun _ => by rintro ⟨⟩⟩

end ResponseError

namespace Response

def fields : List (StoredField Response) :=
  [.of idSlot id, .of hostSlot host, .of resultSlot result rfl (by rintro _ ⟨⟩; exact isSound_null),
    .of errorSlot error]

instance : Stored Response := .ofFields fields

instance : Lasting Response where
  faithful := faithful_fields fields rfl (by decide) (by
    rintro found ⟨⟩
    simp [fields])

end Response

end Rpc

end Records

/-! ## Texts -/

/-- What the text `s` becomes if the value that it has is written again. -/
def rewritten (α : Type) [ToJson α] [FromDoc α] (s : String) : Except Defect String :=
  (decode α s).map fun a => (json a).render

/-- Every value of the type that holds no double and is not too deep is read back from its text,
provided that it is one that can be held; and every text that was read as such a value leads to a
text that is read as the same value and stays as it is when it is read and written again. -/
def RoundTrips (α : Type) [ToJson α] [FromDoc α] [Stored α] : Prop :=
  ∀ a : α, Stored.Plain a → (json a).depth ≤ maxDepth →
    (Stored.Sound a → decode α (json a).render = .ok a) ∧
    ∀ s, decode α s = .ok a →
      decode α (json a).render = .ok a ∧ rewritten α (json a).render = .ok (json a).render

section

variable {α : Type} [ToJson α] [FromDoc α] [Stored α] [Lasting α] {a : α} {s : String}

/-- What is read from a text can be held. -/
theorem sound_of_decode (h : decode α s = .ok a) : Stored.Sound a := by
  obtain ⟨hread, -⟩ := Document.value_eq_ok_iff.mp h
  exact Lasting.faithful.sound hread

theorem decode_render (hsound : Stored.Sound a) (hplain : Stored.Plain a)
    (hdepth : (json a).depth ≤ maxDepth) : decode α (json a).render = .ok a := by
  have htext := ofText_render (Lasting.faithful.exact hsound hplain) hdepth
  have hread := Lasting.faithful.reads hsound hplain
  rw [decode, htext]
  exact Document.value_eq_ok_iff.mpr ⟨hread, rfl⟩

variable (α) in
theorem roundTrips : RoundTrips α := by
  intro a hplain hdepth
  refine ⟨fun hsound => decode_render hsound hplain hdepth, fun s hs => ?_⟩
  have hread := decode_render (sound_of_decode hs) hplain hdepth
  exact ⟨hread, map_eq_ok_iff.mpr ⟨a, hread, rfl⟩⟩

end

/-- **What is stored is read back**, whichever type it is of. -/
theorem stored_values_round_trip :
    RoundTrips Feature ∧ RoundTrips Features ∧ RoundTrips Firmware.Step ∧
    RoundTrips Firmware.TaskState ∧ RoundTrips Firmware.TaskKind ∧
    RoundTrips Firmware.ApplyTime ∧ RoundTrips Firmware.Status ∧ RoundTrips PowerState ∧
    RoundTrips PowerAction ∧ RoundTrips BootDevice ∧ RoundTrips BootOptions ∧
    RoundTrips ResetKind ∧ RoundTrips UserRole ∧ RoundTrips UserAccount ∧ RoundTrips MediaKind ∧
    RoundTrips EventLogEntry ∧ RoundTrips SensorReading ∧ RoundTrips IpAddress ∧
    RoundTrips IpmiOptions ∧ RoundTrips RedfishOptions ∧ RoundTrips HmacAlgorithm ∧
    RoundTrips RpcOptions ∧ RoundTrips WakeOptions ∧ RoundTrips DriverOptions ∧
    RoundTrips Target ∧ RoundTrips Span ∧ RoundTrips PollPacing ∧ RoundTrips Config ∧
    RoundTrips Metadata ∧ RoundTrips Rpc.Request ∧ RoundTrips Rpc.ResponseError ∧
    RoundTrips Rpc.Response := by
  refine ⟨?_, ?_, ?_, ?_, ?_, ?_, ?_, ?_, ?_, ?_, ?_, ?_, ?_, ?_, ?_, ?_, ?_, ?_, ?_, ?_, ?_, ?_,
    ?_, ?_, ?_, ?_, ?_, ?_, ?_, ?_, ?_, ?_⟩ <;> exact roundTrips _

/-- A target with options for every protocol, some of which need escapes. -/
def wellEquipped : Target where
  host := "fe80::1"
  username := "admin\t\"A\""
  password := "pä\\ss"
  options := {
    ipmi := { cipherSuite := some 17 }
    redfish := { systemPath := some "/redfish/v1/Systems/1" }
    rpc := some (.ofConsumer "http://localhost/rpc" "secret")
    wake := some { mac := [2, 0, 0, 0, 0, 255], broadcast := .v6 [0xff02, 0, 0, 0, 0, 0, 0, 1] } }

/-- A target with all its options is read back. -/
theorem wellEquipped_round_trips :
    Stored.Sound wellEquipped ∧ Stored.Plain wellEquipped ∧
      (json wellEquipped).depth ≤ maxDepth ∧
      decode Target (json wellEquipped).render = .ok wellEquipped := by
  have hsound : Stored.Sound wellEquipped := by
    rw [Target.sound_iff]
    rintro _ ⟨⟩
    exact WakeOptions.sound_iff.mpr ⟨rfl, rfl, by decide⟩
  have hdepth : (json wellEquipped).depth ≤ maxDepth := by decide
  obtain ⟨-, -, -, -, -, -, -, -, -, -, -, -, -, -, -, -, -, -, -, -, -, -, -, -, htarget, -⟩ :=
    stored_values_round_trip
  exact ⟨hsound, wellEquipped.plain, hdepth, (htarget _ wellEquipped.plain hdepth).1 hsound⟩

end OutOfBand
