import OutOfBand.Proofs.Json.Faithful

/-!
# Parts of records

A record is read from an object, by the names of its fields, or from an array, by their places. Each
field has a part of the document for itself, or none (`Doc.part?`). What was read tells what the
parts say: the value of a field is read from its part, and where there is none it is the one that
the field has when it is absent (`Slot.of_eq_ok_iff`).
-/

namespace OutOfBand.Json.Doc

/-- The part of a document from which a field of a record is read: the value under the name of the
field, or the item at its place. -/
def part? (place : Nat) (name : String) : Doc → Option Doc
  | .obj members _ => (members.find? fun m => m.1.toOption == some name).map Prod.snd
  | .arr items _ => items[place]?
  | _ => none

/-- A document has the form of a record. -/
def IsRecord (d : Doc) : Prop :=
  (∃ members, d = .obj members .closed) ∨ ∃ items, d = .arr items .closed

/-! ## Basic types -/

theorem integer_eq_ok {low high n : Int} {name : String} {d : Doc}
    (h : integer low high name d = .ok n) :
    ∃ numeral : Numeral, d = .num numeral ∧ numeral.value = some (.int n) := by
  unfold integer at h
  split at h
  · next numeral =>
    split at h
    · next m hvalue =>
      split at h
      · cases h
        exact ⟨numeral, rfl, hvalue⟩
      · cases h
    · cases h
    · cases h
  · exact (unexpected_ne_ok h).elim

theorem read_int64_eq_ok {n : Int64} {d : Doc} (h : FromDoc.read d = .ok n) :
    ∃ numeral : Numeral, d = .num numeral ∧ numeral.value = some (.int n.toInt) := by
  obtain ⟨m, hread, rfl⟩ := map_eq_ok_iff.mp h
  obtain ⟨numeral, rfl, hvalue⟩ := integer_eq_ok hread
  have hm := integer_sound hread
  refine ⟨numeral, rfl, ?_⟩
  rw [Int64.toInt_ofInt_of_le (by simpa using hm.1) (by omega)]
  exact hvalue

theorem read_string_eq_ok {s : String} {d : Doc} (h : FromDoc.read d = .ok s) :
    d = .text (.ok s) := by
  change string d = .ok s at h
  unfold string at h
  split at h
  · cases h
    rfl
  · exact (unexpected_ne_ok h).elim

theorem option_eq_ok {α : Type} {read : Doc → Except Defect α} {o : Option α} {d : Doc}
    (h : option read d = .ok o) :
    d = .null ∧ o = none ∨ ∃ a, read d = .ok a ∧ o = some a := by
  unfold option at h
  split at h
  · cases h
    exact .inl ⟨rfl, rfl⟩
  · cases h
  · obtain ⟨a, hread, rfl⟩ := map_eq_ok_iff.mp h
    exact .inr ⟨a, hread, rfl⟩

/-! ## Fields -/

theorem closing_eq_ok {ending : Ending} (h : closing ending = .ok ()) : ending = .closed := by
  cases ending with
  | closed => rfl
  | _ => cases h

variable {shape : Shape}

/-- What is found for a field in an object is the value under its name, unless something was found
before. -/
theorem find?_ofObject {found all : Members} {members : List (Except Breach String × Doc)}
    {name : String} (h : shape.ofObject found members = .ok all)
    (hname : name ∈ shape.fields.map Field.name) :
    all.find? (·.1 == name) = (found.find? (·.1 == name)).or
      ((members.find? fun m => m.1.toOption == some name).map fun m => (name, m.2)) := by
  induction members generalizing found with
  | nil =>
    cases h
    simp
  | cons m members ih =>
    obtain ⟨key, value⟩ := m
    cases key with
    | error b => cases h
    | ok key =>
      cases hfield : shape.fields.find? (·.name == key) with
      | some field =>
        simp only [Shape.ofObject, hfield] at h
        split at h
        · cases h
        · next hnew =>
          obtain ⟨_, -, hrest⟩ := bind_eq_ok_iff.mp h
          rw [ih hrest]
          by_cases hkey : key = name
          · subst hkey
            have hnone : found.find? (·.1 == key) = none :=
              List.find?_eq_none.mpr (List.any_eq_false.mp (Bool.not_eq_true _ ▸ hnew))
            simp [hnone, Except.toOption]
          · simp [hkey, Except.toOption]
      | none =>
        -- The name of a field is no key that is skipped.
        have hkey : key ≠ name := by
          rintro rfl
          obtain ⟨field, hmem, hname⟩ := List.mem_map.mp hname
          exact List.find?_eq_none.mp hfield field hmem (beq_iff_eq.mpr hname)
        simp only [Shape.ofObject, hfield] at h
        split at h
        · cases h
        · split at h
          · cases h
          · rw [ih h]
            simp [hkey, Except.toOption]

/-- Of fields for which there are no items left nothing is found. -/
theorem ofArray_nil {before : Nat} {fields : List Field} {ending : Ending} {all : Members}
    (h : shape.ofArray before fields [] ending = .ok all) : all = [] ∧ ending = .closed := by
  induction fields generalizing before with
  | nil =>
    unfold Shape.ofArray at h
    split at h
    · cases h
    · obtain ⟨_, hclosing, hall⟩ := bind_eq_ok_iff.mp h
      exact ⟨(pure_eq_ok_iff.mp hall).symm, closing_eq_ok hclosing⟩
  | cons field fields ih =>
    obtain ⟨_, -, h⟩ := bind_eq_ok_iff.mp h
    split at h
    · cases h
    · exact ih h

theorem ofArray_closed {before : Nat} {fields : List Field} {items : List Doc} {ending : Ending}
    {all : Members} (h : shape.ofArray before fields items ending = .ok all) :
    ending = .closed := by
  induction fields generalizing before items all with
  | nil =>
    cases items with
    | nil => exact (ofArray_nil h).2
    | cons item items => cases h
  | cons field fields ih =>
    cases items with
    | nil => exact (ofArray_nil h).2
    | cons item items =>
      obtain ⟨_, -, h⟩ := bind_eq_ok_iff.mp h
      obtain ⟨members, hrest, -⟩ := bind_eq_ok_iff.mp h
      exact ih hrest

/-- What is found for a field in an array is the item at its place. -/
theorem find?_ofArray {before place : Nat} {fields : List Field} {items : List Doc}
    {ending : Ending} {all : Members} {field : Field}
    (h : shape.ofArray before fields items ending = .ok all)
    (hnames : (fields.map Field.name).Nodup) (hfield : fields[place]? = some field) :
    all.find? (·.1 == field.name) = items[place]?.map fun item => (field.name, item) := by
  induction fields generalizing before place items all with
  | nil => simp at hfield
  | cons first fields ih =>
    cases items with
    | nil =>
      rw [(ofArray_nil h).1]
      simp
    | cons item items =>
      obtain ⟨_, -, h⟩ := bind_eq_ok_iff.mp h
      obtain ⟨members, hrest, hall⟩ := bind_eq_ok_iff.mp h
      obtain rfl := pure_eq_ok_iff.mp hall
      rw [List.map_cons, List.nodup_cons] at hnames
      cases place with
      | zero =>
        obtain rfl : first = field := by simpa using hfield
        simp
      | succ place =>
        rw [List.getElem?_cons_succ] at hfield
        have hother : first.name ≠ field.name := fun heq =>
          hnames.1 (heq ▸ List.mem_map_of_mem (List.mem_of_getElem? hfield))
        rw [List.find?_cons_of_neg (by simpa using hother), List.getElem?_cons_succ]
        exact ih hrest hnames.2 hfield

theorem members_isRecord {d : Doc} {found : Members} (h : shape.members d = .ok found) :
    d.IsRecord := by
  unfold Shape.members at h
  split at h
  · next members ending =>
    obtain ⟨_, -, h⟩ := bind_eq_ok_iff.mp h
    obtain ⟨_, hclosing, -⟩ := bind_eq_ok_iff.mp h
    rw [closing_eq_ok hclosing]
    exact .inl ⟨members, rfl⟩
  · next items ending =>
    rw [ofArray_closed h]
    exact .inr ⟨items, rfl⟩
  · cases h
  · exact (unexpected_ne_ok h).elim

/-- **What is found for a field is its part of the document.** -/
theorem find?_members {d : Doc} {found : Members} {place : Nat} {field : Field}
    (h : shape.members d = .ok found) (hnames : (shape.fields.map Field.name).Nodup)
    (hfield : shape.fields[place]? = some field) :
    found.find? (·.1 == field.name) =
      (d.part? place field.name).map fun part => (field.name, part) := by
  unfold Shape.members at h
  split at h
  · obtain ⟨all, hfound, h⟩ := bind_eq_ok_iff.mp h
    obtain ⟨_, -, h⟩ := bind_eq_ok_iff.mp h
    obtain rfl := pure_eq_ok_iff.mp h
    have hname := List.mem_map_of_mem (f := Field.name) (List.mem_of_getElem? hfield)
    rw [find?_ofObject hfound hname, part?, Option.map_map]
    rfl
  · exact find?_ofArray h hnames hfield
  · cases h
  · exact (unexpected_ne_ok h).elim

/-- **The value of a field** is read from its part of the document, if there is one. -/
theorem Slot.of_eq_ok_iff {α : Type} {slot : Slot α} {d : Doc} {found : Members} {a : α}
    (place : Nat) (h : shape.members d = .ok found) (hnames : (shape.fields.map Field.name).Nodup)
    (hslot : shape.fields[place]? = some slot.field) :
    slot.of found = .ok a ↔ (d.part? place slot.name = none ∧ slot.absent = some a) ∨
      ∃ part, d.part? place slot.name = some part ∧ slot.read part = .ok a := by
  have hfind := find?_members h hnames hslot
  rw [show slot.field.name = slot.name from rfl] at hfind
  rw [Slot.of, hfind]
  cases d.part? place slot.name with
  | some part => simp
  | none =>
    cases slot.absent with
    | some b => simp
    | none => simp [misfit_ne_ok]

/-- A field that a record may lack has a part of the document, or its default. -/
theorem Slot.of_defaulted {α : Type} [FromDoc α] {name : String} {default a : α} {d : Doc}
    {found : Members} (place : Nat) (h : shape.members d = .ok found)
    (hnames : (shape.fields.map Field.name).Nodup)
    (hslot : shape.fields[place]? = some (defaulted name default).field)
    (hof : (defaulted name default).of found = .ok a) :
    d.part? place name = none ∧ a = default ∨
      ∃ part, d.part? place name = some part ∧ FromDoc.read part = .ok a := by
  obtain ⟨hpart, habsent⟩ | hpart := (of_eq_ok_iff place h hnames hslot).mp hof
  · exact .inl ⟨hpart, (Option.some.inj habsent).symm⟩
  · exact .inr hpart

end OutOfBand.Json.Doc
