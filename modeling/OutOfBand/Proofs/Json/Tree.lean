import OutOfBand.Json.Doc
import OutOfBand.Proofs.Sorted

/-!
# Values as trees

What is proved of all JSON values goes by induction over the tree that a value is (`Json.tree_ind`).
Three questions are asked of such a tree: how deep it is (`depth`), whether it is one that a program
can hold, with integers of at most 64 bits and objects in order (`IsSound`), and whether it does
without doubles (`IsPlain`). The last two are asked of all values that lie in it (`parts`). Values
whose numbers are integers of at most 64 bits are exact (`IsExact`), whatever the order of members.
-/

namespace OutOfBand.Json

variable {j : Json} {items : List Json} {members : List (String × Json)}

/-- What holds of an array if it holds of its items, of an object if it holds of its members, and of
all other values, holds of every value. -/
theorem tree_ind {motive : Json → Prop} (null : motive .null) (bool : ∀ b, motive (.bool b))
    (num : ∀ n, motive (.num n)) (str : ∀ s, motive (.str s))
    (arr : ∀ items, (∀ i ∈ items, motive i) → motive (.arr items))
    (obj : ∀ members, (∀ m ∈ members, motive m.2) → motive (.obj members)) (j : Json) :
    motive j := by
  refine @Json.rec motive (fun items => ∀ i ∈ items, motive i)
    (fun members => ∀ m ∈ members, motive m.2) (fun m => motive m.2)
    null bool num str arr obj ?noItem ?item ?noMember ?member ?value j
  case noItem => exact fun _ h => (List.not_mem_nil h).elim
  case item => exact fun _ _ hi hitems => List.forall_mem_cons.mpr ⟨hi, hitems⟩
  case noMember => exact fun _ h => (List.not_mem_nil h).elim
  case member => exact fun _ _ hm hmembers => List.forall_mem_cons.mpr ⟨hm, hmembers⟩
  case value => exact fun _ _ ih => ih

/-! ## Depth -/

mutual

/-- How many arrays and objects lie in each other. -/
def depth : Json → Nat
  | .arr items => itemDepth items + 1
  | .obj members => memberDepth members + 1
  | _ => 0

def itemDepth : List Json → Nat
  | [] => 0
  | item :: items => max item.depth (itemDepth items)

def memberDepth : List (String × Json) → Nat
  | [] => 0
  | (_, value) :: members => max value.depth (memberDepth members)

end

theorem depth_le_itemDepth {i : Json} (h : i ∈ items) : i.depth ≤ itemDepth items := by
  induction items with
  | nil => cases h
  | cons item items ih =>
      rw [itemDepth]
      rcases List.mem_cons.mp h with rfl | h
      · exact Nat.le_max_left ..
      · exact Nat.le_trans (ih h) (Nat.le_max_right ..)

theorem depth_le_memberDepth {m : String × Json} (h : m ∈ members) :
    m.2.depth ≤ memberDepth members := by
  induction members with
  | nil => cases h
  | cons member members ih =>
      rw [memberDepth]
      rcases List.mem_cons.mp h with rfl | h
      · exact Nat.le_max_left ..
      · exact Nat.le_trans (ih h) (Nat.le_max_right ..)

theorem memberDepth_le {n : Nat} (h : ∀ m ∈ members, m.2.depth ≤ n) : memberDepth members ≤ n := by
  induction members with
  | nil => exact Nat.zero_le n
  | cons member members ih =>
      obtain ⟨hmember, hmembers⟩ := List.forall_mem_cons.mp h
      exact Nat.max_le.mpr ⟨hmember, ih hmembers⟩

/-! ## What lies in a value -/

mutual

/-- The values that lie in a value, and the value itself. -/
def parts : Json → List Json
  | .arr items => .arr items :: itemParts items
  | .obj members => .obj members :: memberParts members
  | j => [j]

def itemParts : List Json → List Json
  | [] => []
  | item :: items => item.parts ++ itemParts items

def memberParts : List (String × Json) → List Json
  | [] => []
  | (_, value) :: members => value.parts ++ memberParts members

end

theorem mem_itemParts_iff : j ∈ itemParts items ↔ ∃ i ∈ items, j ∈ i.parts := by
  induction items with
  | nil => simp [itemParts]
  | cons item items ih => simp [itemParts, ih]

theorem mem_memberParts_iff : j ∈ memberParts members ↔ ∃ m ∈ members, j ∈ m.2.parts := by
  induction members with
  | nil => simp [memberParts]
  | cons member members ih => simp [memberParts, ih]

/-- What is asked of an array and of its items is asked of all that lies in the array. -/
theorem forall_parts_arr_iff {P : Json → Prop} : (∀ p ∈ (Json.arr items).parts, P p) ↔
    P (.arr items) ∧ ∀ i ∈ items, ∀ p ∈ i.parts, P p := by
  simp only [parts, List.forall_mem_cons, mem_itemParts_iff]
  refine and_congr_right fun _ => ⟨fun h i hi p hp => h p ⟨i, hi, hp⟩, ?_⟩
  rintro h p ⟨i, hi, hp⟩
  exact h i hi p hp

theorem forall_parts_obj_iff {P : Json → Prop} : (∀ p ∈ (Json.obj members).parts, P p) ↔
    P (.obj members) ∧ ∀ m ∈ members, ∀ p ∈ m.2.parts, P p := by
  simp only [parts, List.forall_mem_cons, mem_memberParts_iff]
  refine and_congr_right fun _ => ⟨fun h m hm p hp => h p ⟨m, hm, hp⟩, ?_⟩
  rintro h p ⟨m, hm, hp⟩
  exact h m hm p hp

/-- Whether a program can hold a value with these parts: an integer has at most 64 bits, and an
object has each key once, in order. -/
def HeldWhole : Json → Prop
  | .num (.int n) => -0x8000000000000000 ≤ n ∧ n < 0x10000000000000000
  | .obj members => Ordered members
  | _ => True

def NoDouble : Json → Prop
  | .num (.real _) => False
  | _ => True

/-- Integers have at most 64 bits, and objects have each key once and in order: so is every value
that can be read. -/
def IsSound (j : Json) : Prop := ∀ p ∈ j.parts, HeldWhole p

/-- No number is a double. -/
def IsPlain (j : Json) : Prop := ∀ p ∈ j.parts, NoDouble p

/-- Whether a value with these parts has numbers that are written and read exactly. -/
def HasExactNumber : Json → Prop
  | .num (.int n) => -0x8000000000000000 ≤ n ∧ n < 0x10000000000000000
  | .num (.real _) => False
  | _ => True

/-- All numbers are integers of at most 64 bits. -/
def IsExact (j : Json) : Prop := ∀ p ∈ j.parts, HasExactNumber p

theorem IsSound.isExact (hsound : IsSound j) (hplain : IsPlain j) : IsExact j := by
  intro p hp
  have hheld := hsound p hp
  have hdouble := hplain p hp
  cases p with
  | num n =>
      cases n with
      | int n => exact hheld
      | real x => exact hdouble
  | null => trivial
  | bool b => trivial
  | str s => trivial
  | arr items => trivial
  | obj members => trivial

@[simp] theorem isSound_null : IsSound .null := by simp [IsSound, parts, HeldWhole]

@[simp] theorem isSound_bool (b : Bool) : IsSound (.bool b) := by simp [IsSound, parts, HeldWhole]

@[simp] theorem isSound_str (s : String) : IsSound (.str s) := by simp [IsSound, parts, HeldWhole]

theorem isSound_num_iff {n : Number} : IsSound (.num n) ↔ HeldWhole (.num n) := by
  simp [IsSound, parts]

theorem isSound_arr_iff : IsSound (.arr items) ↔ ∀ i ∈ items, IsSound i := by
  simp [IsSound, forall_parts_arr_iff, HeldWhole]

theorem isSound_obj_iff :
    IsSound (.obj members) ↔ Ordered members ∧ ∀ m ∈ members, IsSound m.2 := by
  simp only [IsSound, forall_parts_obj_iff, HeldWhole]

@[simp] theorem isExact_null : IsExact .null := by simp [IsExact, parts, HasExactNumber]

@[simp] theorem isExact_bool (b : Bool) : IsExact (.bool b) := by
  simp [IsExact, parts, HasExactNumber]

@[simp] theorem isExact_str (s : String) : IsExact (.str s) := by
  simp [IsExact, parts, HasExactNumber]

theorem isExact_num_iff {n : Number} : IsExact (.num n) ↔ HasExactNumber (.num n) := by
  simp [IsExact, parts]

theorem isExact_arr_iff : IsExact (.arr items) ↔ ∀ i ∈ items, IsExact i := by
  simp [IsExact, forall_parts_arr_iff, HasExactNumber]

theorem isExact_obj_iff : IsExact (.obj members) ↔ ∀ m ∈ members, IsExact m.2 := by
  simp [IsExact, forall_parts_obj_iff, HasExactNumber]

@[simp] theorem isPlain_bool (b : Bool) : IsPlain (.bool b) := by simp [IsPlain, parts, NoDouble]

@[simp] theorem isPlain_str (s : String) : IsPlain (.str s) := by simp [IsPlain, parts, NoDouble]

theorem isPlain_arr_iff : IsPlain (.arr items) ↔ ∀ i ∈ items, IsPlain i := by
  simp [IsPlain, forall_parts_arr_iff, NoDouble]

theorem isPlain_obj_iff : IsPlain (.obj members) ↔ ∀ m ∈ members, IsPlain m.2 := by
  simp [IsPlain, forall_parts_obj_iff, NoDouble]

end OutOfBand.Json
