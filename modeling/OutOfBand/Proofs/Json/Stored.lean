import OutOfBand.Proofs.Json.Record
import OutOfBand.Vocabulary

/-!
# Types that can be stored

The types whose values are read as they were written (`Lasting`). The basic types are such types,
lists and options of their values, vocabularies, and records with fields of such types.
-/

namespace OutOfBand.Json

open Doc

variable {α R : Type}

/-- The types whose values can be stored: what holds of every value that the type has, and which
values are free of doubles. -/
class Stored (α : Type) where
  /-- Whether the value is one that can be held, as is every value that can be read. -/
  Sound : α → Prop := fun _ => True
  /-- Whether the parts of no fixed type hold no double. -/
  Plain : α → Prop := fun _ => True

/-- The types whose values are read as they were written. -/
class Lasting (α : Type) [ToJson α] [FromDoc α] [Stored α] : Prop where
  faithful : Faithful (json (α := α)) FromDoc.read Stored.Sound Stored.Plain

/-- The types none of whose values is written as `null`. -/
class NeverNull (α : Type) [ToJson α] : Prop where
  ne_null : ∀ a : α, json a ≠ .null

instance [Stored α] : Stored (Option α) where
  Sound o := ∀ a ∈ o, Stored.Sound a
  Plain o := ∀ a ∈ o, Stored.Plain a

theorem sound_none [Stored α] : Stored.Sound (none : Option α) := by rintro _ ⟨⟩

/-- The field of a record in a slot, with a value of a type that can be stored. -/
def StoredField.of [ToJson α] [FromDoc α] [Stored α] [Lasting α] (slot : Slot α) (value : R → α)
    (hread : slot.read = FromDoc.read := by rfl)
    (absent : ∀ a, slot.absent = some a → Stored.Sound a := by
      rintro _ ⟨⟩ <;> first | trivial | exact sound_none | exact fun _ _ => trivial) :
    StoredField R where
  slot := slot
  value := value
  write := json
  Sound := Stored.Sound
  Plain := Stored.Plain
  faithful := hread ▸ Lasting.faithful
  absent := absent

/-- A record is sound if the values of its fields are, and free of doubles if they are. -/
@[reducible]
def Stored.ofFields (fields : List (StoredField R)) : Stored R where
  Sound r := ∀ p ∈ fields, p.Sound (p.value r)
  Plain r := ∀ p ∈ fields, p.Plain (p.value r)

/-! ## Basic types -/

instance : Stored String := {}
instance : Stored Bool := {}
instance : Stored UInt8 := {}
instance : Stored UInt16 := {}
instance : Stored Int64 := {}

instance : Stored Json where
  Sound := IsSound
  Plain := IsPlain

instance [Stored α] : Stored (List α) where
  Sound as := ∀ a ∈ as, Stored.Sound a
  Plain as := ∀ a ∈ as, Stored.Plain a

instance : Lasting String := ⟨faithful_string⟩
instance : Lasting Bool := ⟨faithful_boolean⟩
instance : Lasting Json := ⟨faithful_free⟩

instance : Lasting UInt8 where
  faithful := (faithful_unsigned 8 (by decide)).image (g := UInt8.toNat)
    (fun _ => trivial) (fun {n} _ => ⟨n.toNat_lt, UInt8.ofNat_toNat⟩) fun _ => trivial

instance : Lasting UInt16 where
  faithful := (faithful_unsigned 16 (by decide)).image (g := UInt16.toNat)
    (fun _ => trivial) (fun {n} _ => ⟨n.toNat_lt, UInt16.ofNat_toNat⟩) fun _ => trivial

instance : Lasting Int64 where
  faithful := faithful_signed64.image (g := Int64.toInt) (fun _ => trivial)
    (fun {n} _ => ⟨⟨n.le_toInt, Int.le_sub_one_of_lt n.toInt_lt⟩, Int64.ofInt_toInt n⟩)
    fun _ => trivial

instance [ToJson α] [FromDoc α] [Stored α] [Lasting α] : Lasting (List α) where
  faithful := Lasting.faithful.list

instance [ToJson α] [FromDoc α] [Stored α] [Lasting α] [NeverNull α] : Lasting (Option α) where
  faithful := by
    have h := (Lasting.faithful (α := α)).option NeverNull.ne_null
    have hwrite : (json (α := Option α)) = fun o => o.elim .null json := by
      funext o
      cases o <;> rfl
    rw [hwrite]
    exact h

instance : NeverNull String := ⟨fun _ => by rintro ⟨⟩⟩
instance : NeverNull UInt8 := ⟨fun _ => by rintro ⟨⟩⟩

/-! ## Vocabularies -/

instance (priority := low) [Vocabulary α] : Stored α := {}

/-- The vocabularies that are complete, and whose names differ. -/
class LawfulVocabulary (α : Type) [Vocabulary α] : Prop where
  mem_all : ∀ a : α, a ∈ Vocabulary.all
  nodup_names : ((Vocabulary.all : List α).map Vocabulary.name).Nodup

section Vocabularies

variable [Vocabulary α] [LawfulVocabulary α]

theorem find?_name (a : α) : Vocabulary.find? (Vocabulary.name a) = some a :=
  find?_key Vocabulary.name LawfulVocabulary.nodup_names (LawfulVocabulary.mem_all a)

/-- What is read as a variant is written as its name. -/
theorem faithful_fromDoc :
    Faithful (Vocabulary.toJson (α := α)) Vocabulary.fromDoc (fun _ => True) fun _ => True where
  sound _ := trivial
  exact _ _ := isExact_str _
  reads {a} _ _ := by
    have hfind : (Vocabulary.entries α).find? (·.1 == Vocabulary.name a) =
        some (Vocabulary.name a, a) := by
      refine find?_key Prod.fst (b := (Vocabulary.name a, a)) ?_ ?_
      · rw [Vocabulary.entries, List.map_map]
        exact LawfulVocabulary.nodup_names
      · exact List.mem_map_of_mem (LawfulVocabulary.mem_all a)
    simp [Vocabulary.toJson, doc, Vocabulary.fromDoc, variant, named, hfind]

theorem faithful_fromText (kind : String) :
    Faithful (Vocabulary.toJson (α := α)) (Vocabulary.fromText kind) (fun _ => True)
      fun _ => True where
  sound _ := trivial
  exact _ _ := isExact_str _
  reads {a} _ _ := by
    simp [Vocabulary.toJson, doc, Vocabulary.fromText, Doc.string, Vocabulary.parse, find?_name,
      bind, Except.bind, pure, Except.pure]

end Vocabularies

end OutOfBand.Json
