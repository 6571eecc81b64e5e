import Mathlib.Data.List.Nodup
import OutOfBand.Proofs.Json.Faithful

/-!
# Records that are read as they were written

A record is written as an object with one member for each of its fields, and its reader looks for
the fields by their names. So a record is read back if the value of each of its fields is
(`faithful_record`): what remains to be seen of a type of records is that the names of its fields
differ, and that it is put together from the values of its fields.
-/

namespace OutOfBand.Json

open Doc

variable {R : Type}

/-- A field of the records of type `R`: its slot, and how its value is found in a record and
written. -/
structure StoredField (R : Type) where
  {Value : Type}
  slot : Slot Value
  value : R → Value
  write : Value → Json
  Sound : Value → Prop
  Plain : Value → Prop
  faithful : Faithful write slot.read Sound Plain
  /-- What a record without the field has there is sound as well. -/
  absent : ∀ a, slot.absent = some a → Sound a

namespace StoredField

def name (p : StoredField R) : String := p.slot.name

def written (p : StoredField R) (r : R) : Json := p.write (p.value r)

/-- The field has its value in the members that were found. -/
def FoundIn (p : StoredField R) (found : Members) (r : R) : Prop :=
  p.slot.of found = .ok (p.value r)

theorem sound_of_foundIn {p : StoredField R} {found : Members} {r : R} (h : p.FoundIn found r) :
    p.Sound (p.value r) := by
  simp only [FoundIn, Slot.of] at h
  split at h
  · exact p.faithful.sound h
  · split at h
    · cases h
      exact p.absent _ ‹_›
    · exact (misfit_ne_ok h).elim

end StoredField

/-- A key that differs from all others finds what it belongs to. -/
theorem find?_key {β : Type} (key : β → String) {l : List β} (hnames : (l.map key).Nodup) {b : β}
    (hb : b ∈ l) : l.find? (key · == key b) = some b := by
  induction l with
  | nil => cases hb
  | cons a l ih =>
      rw [List.map_cons, List.nodup_cons] at hnames
      rcases List.mem_cons.mp hb with rfl | hb
      · simp
      · have hne : (key a == key b) = false := by
          rw [beq_eq_false_iff_ne]
          exact fun heq => hnames.1 (heq ▸ List.mem_map_of_mem hb)
        rw [List.find?_cons, hne]
        exact ih hnames.2 hb

/-- Members with names of fields, none of which is there twice, are all found. -/
theorem ofObject_eq_ok {shape : Shape} {found ms : Members}
    (hcheck : ∀ m ∈ ms, ∃ f, shape.fields.find? (·.name == m.1) = some f ∧ f.check m.2 = .ok ())
    (hnames : (ms.map Prod.fst).Nodup) (hnew : ∀ m ∈ ms, ∀ a ∈ found, a.1 ≠ m.1) :
    shape.ofObject found (ms.map fun m => (.ok m.1, m.2)) = .ok (ms.reverse ++ found) := by
  induction ms generalizing found with
  | nil => rfl
  | cons m ms ih =>
      obtain ⟨⟨f, hf, hm⟩, hms⟩ := List.forall_mem_cons.mp hcheck
      obtain ⟨hfirst, hlater⟩ := List.forall_mem_cons.mp hnew
      rw [List.map_cons, List.nodup_cons] at hnames
      have hany : found.any (·.1 == m.1) = false := by simpa using hfirst
      have hrest : ∀ m' ∈ ms, ∀ a ∈ m :: found, a.1 ≠ m'.1 := by
        intro m' hm'
        refine List.forall_mem_cons.mpr ⟨fun heq => ?_, hlater m' hm'⟩
        exact hnames.1 (heq ▸ List.mem_map_of_mem hm')
      simp only [List.map_cons, Shape.ofObject, hf, hany, hm, Bool.false_eq_true, if_false,
        List.reverse_cons, List.append_assoc, List.singleton_append]
      exact ih hms hnames.2 hrest

section

variable {shape : Shape} {Sound Plain : R → Prop} {r : R}

/-- The members as which the fields of a record are written. -/
def writtenMembers (fields : List (StoredField R)) (r : R) : List (String × Json) :=
  fields.map fun p => (p.name, p.written r)

/-- **The fields of a record are found again** in the object that the record is written as. -/
theorem members_written {fields : List (StoredField R)}
    (hfields : shape.fields = fields.map fun p => p.slot.field)
    (hnames : (fields.map StoredField.name).Nodup)
    (hvalues : ∀ p ∈ fields, p.Sound (p.value r) ∧ p.Plain (p.value r)) :
    ∃ found, shape.members (Json.obj (writtenMembers fields r)).doc = .ok found ∧
      ∀ p ∈ fields, p.FoundIn found r := by
  have hread : ∀ p ∈ fields, p.slot.read (p.written r).doc = .ok (p.value r) := fun p hp =>
    p.faithful.reads (hvalues p hp).1 (hvalues p hp).2
  let ms : Members := fields.map fun p => (p.name, (p.written r).doc)
  have hkeys : ms.map Prod.fst = fields.map StoredField.name := by simp [ms]
  have hdocs : memberDocs (writtenMembers fields r) = ms.map fun m => (.ok m.1, m.2) := by
    simp [memberDocs_eq_map, writtenMembers, ms]
  have hcheck : ∀ m ∈ ms, ∃ f, shape.fields.find? (·.name == m.1) = some f ∧
      f.check m.2 = .ok () := by
    intro m hm
    obtain ⟨p, hp, rfl⟩ := List.mem_map.mp hm
    refine ⟨p.slot.field, ?_, map_eq_ok_iff.mpr ⟨_, hread p hp, rfl⟩⟩
    have hnodup : ((fields.map fun p => p.slot.field).map Field.name).Nodup := by
      rw [List.map_map]
      exact hnames
    rw [hfields]
    exact find?_key Field.name hnodup (List.mem_map_of_mem hp)
  have hfound : shape.ofObject [] (ms.map fun m => (.ok m.1, m.2)) = .ok (ms.reverse ++ []) :=
    ofObject_eq_ok hcheck (hkeys ▸ hnames) (by simp)
  -- Members are found in the reverse order, which matters to no field.
  refine ⟨ms.reverse, ?_, fun p hp => ?_⟩
  · simp [doc, Shape.members, hdocs, hfound, closing, bind, Except.bind, pure, Except.pure]
  · have hfind : ms.reverse.find? (·.1 == p.name) = some (p.name, (p.written r).doc) := by
      refine find?_key Prod.fst (b := (p.name, (p.written r).doc)) ?_ ?_
      · rw [List.map_reverse, List.nodup_reverse, hkeys]
        exact hnames
      · exact List.mem_reverse.mpr (List.mem_map.mpr ⟨p, hp, rfl⟩)
    simp only [StoredField.FoundIn, Slot.of]
    rw [show p.slot.name = p.name from rfl, hfind]
    exact hread p hp

/-- **A record is read back** if its fields are. -/
theorem faithful_record (fields : List (StoredField R)) {build : Members → Except Defect R}
    (hfields : shape.fields = fields.map fun p => p.slot.field)
    (hnames : (fields.map StoredField.name).Nodup)
    (hvalues : ∀ {r}, Sound r → Plain r → ∀ p ∈ fields, p.Sound (p.value r) ∧ p.Plain (p.value r))
    (hbuild : ∀ {found r}, Sound r → (∀ p ∈ fields, p.FoundIn found r) → build found = .ok r)
    (hsound : ∀ {found r}, build found = .ok r → Sound r) :
    Faithful (fun r => .obj (writtenMembers fields r)) (fun d => shape.members d >>= build) Sound
      Plain where
  sound hread := by
    obtain ⟨found, -, hbuilt⟩ := bind_eq_ok_iff.mp hread
    exact hsound hbuilt
  exact hs hp := by
    refine isExact_obj_iff.mpr fun m hm => ?_
    obtain ⟨p, hmem, rfl⟩ := List.mem_map.mp hm
    exact p.faithful.exact (hvalues hs hp p hmem).1 (hvalues hs hp p hmem).2
  reads hs hp := by
    obtain ⟨found, hfound, hall⟩ := members_written hfields hnames (hvalues hs hp)
    exact bind_eq_ok_iff.mpr ⟨found, hfound, hbuild hs hall⟩

/-- A record that is no more than the values of its fields is read back if they are. -/
theorem faithful_fields (fields : List (StoredField R)) {build : Members → Except Defect R}
    (hfields : shape.fields = fields.map fun p => p.slot.field)
    (hnames : (fields.map StoredField.name).Nodup)
    (hbuild : ∀ found r, build found = .ok r ↔ ∀ p ∈ fields, p.FoundIn found r) :
    Faithful (fun r => .obj (writtenMembers fields r)) (fun d => shape.members d >>= build)
      (fun r => ∀ p ∈ fields, p.Sound (p.value r)) fun r => ∀ p ∈ fields, p.Plain (p.value r) :=
  faithful_record fields hfields hnames (fun hs hp p hmem => ⟨hs p hmem, hp p hmem⟩)
    (fun _ hall => (hbuild _ _).mpr hall)
    fun hbuilt p hmem => p.sound_of_foundIn ((hbuild _ _).mp hbuilt p hmem)

end

end OutOfBand.Json
