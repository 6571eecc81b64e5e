import Mathlib.Data.List.Nodup
import Mathlib.Data.List.TakeWhile
import OutOfBand.Proofs.Ipmi.Changes
import OutOfBand.Proofs.Ipmi.Tables
import OutOfBand.Proofs.Json.Scalars
import OutOfBand.Proofs.Text.Cutting
import OutOfBand.Proofs.Text.Utf8

/-!
# Reading back a table of slots

The tool prints a slot on each line: its number, its name, three flags and its privilege, in columns
that are filled up with blanks. A name may be empty and may have blanks in it, so the width of a gap
says nothing; the name is taken to be what stands before the first word that is a flag. So a table
is read back just if no word of a name is `true` or `false` (`names_userTable_iff`). A name is cut
before such a word, and one that begins with it is read as no name at all: its slot is then free for
another user (`named_slot_overwritten`).
-/

namespace OutOfBand.Ipmi

/-! ## What the tool prints -/

/-- A slot as the controller has it. -/
structure Slot where
  id : Nat
  /-- The words of the name, set apart by single blanks: none if the slot has no name. -/
  words : List String
  callIn : Bool
  linkAuth : Bool
  messaging : Bool
  privilege : String
  areWords : ∀ w ∈ words, Text.IsWord w
  oneLine : '\n' ∉ privilege.toList

/-- A cell, filled up to its width, and the blank before the next column. -/
def column (width : Nat) (s : String) : String := Text.padRight width s ++ " "

def blankHeading : String :=
  "ID  Name             Callin  Link Auth  IPMI Msg   Channel Priv Limit"

def tabHeading : String := "ID  Name\t     Callin  Link Auth\tIPMI Msg   Channel Priv Limit"

/-- The line above the slots, with blanks or with tabs between the titles of the columns. -/
def headings : List String := [blankHeading, tabHeading]

namespace Slot

def name (slot : Slot) : String := joined slot.words

/-- The line for a slot. -/
def row (slot : Slot) : String :=
  column 3 (toString slot.id) ++ (column 16 slot.name ++ (column 7 (toString slot.callIn) ++
    (column 10 (toString slot.linkAuth) ++ (column 10 (toString slot.messaging) ++
      slot.privilege))))

/-- The name up to its first word that is a flag. -/
def nameRead (slot : Slot) : String := joined (slot.words.takeWhile fun w => !isFlag w)

/-- The line for the slot cannot be misread. -/
def Clear (slot : Slot) : Prop := slot.id < UInt32.size ∧ ∀ w ∈ slot.words, isFlag w = false

end Slot

/-- The table that the tool prints. -/
def userTable (heading : String) (slots : List Slot) : String :=
  String.join ((heading :: slots.map Slot.row).map (· ++ "\n"))

/-! ## Lines and their words -/

theorem words_column (width : Nat) (s t : String) :
    Text.words (column width s ++ t) = Text.words s ++ Text.words t := by
  rw [column, Text.words_append_space, Text.padRight, Text.words_append_blanks]

theorem isBlank_of_isDigit {c : Char} (h : Decimal.isDigit c = true) : Text.isBlank c = false := by
  have hrange : 48 ≤ c.toNat ∧ c.toNat ≤ 57 := by
    simpa [Decimal.isDigit, Char.le_def, UInt32.le_iff_toNat_le] using h
  unfold Text.isBlank
  generalize c.toNat = n at hrange
  simp
  omega

theorem toList_toString (n : Nat) : (toString n).toList = Nat.toDigits 10 n := Nat.toList_repr

theorem isWord_toString (n : Nat) : Text.IsWord (toString n) := by
  constructor
  · intro hempty
    have hdigits := toList_toString n
    rw [hempty] at hdigits
    exact List.ne_nil_of_length_pos Nat.length_toDigits_pos hdigits.symm
  · intro c hc
    rw [toList_toString] at hc
    exact isBlank_of_isDigit (Json.isDigit_of_mem_toDigits hc)

theorem isSlotId_toString (n : Nat) : isSlotId (toString n) = decide (n < UInt32.size) := by
  have hdigits : ∀ c ∈ Nat.toDigits 10 n, Decimal.isDigit c = true :=
    fun c => Json.isDigit_of_mem_toDigits
  have hne : (Nat.toDigits 10 n).isEmpty = false := by
    rw [List.isEmpty_eq_false_iff]
    exact List.ne_nil_of_length_pos Nat.length_toDigits_pos
  unfold isSlotId
  rw [toList_toString]
  split
  · rename_i rest hplus
    have hdigit := hdigits '+' (by simp [hplus])
    cases hdigit
  · simp [hne, Json.accumulate_toDigits, List.all_eq_true.mpr hdigits]

theorem isFlag_toString (b : Bool) : isFlag (toString b) = true := by cases b <;> rfl

theorem words_toString (b : Bool) : Text.words (toString b) = [toString b] := by
  cases b <;> decide

variable {slot : Slot} {slots : List Slot} {heading : String}

theorem Slot.words_row : Text.words slot.row = toString slot.id :: (slot.words ++
    toString slot.callIn :: toString slot.linkAuth :: toString slot.messaging ::
      Text.words slot.privilege) := by
  simp only [Slot.row, words_column, (isWord_toString slot.id).words, words_toString, Slot.name,
    joined, Text.words_intercalate slot.areWords, List.singleton_append]

/-- What is read of the line for a slot. -/
theorem Slot.read_row (slot : Slot) : (slotOfLine slot.row).map (fun u => (u.id, u.name)) =
    if slot.id < UInt32.size then some (toString slot.id, slot.nameRead) else none := by
  have hflag : (!isFlag (toString slot.callIn)) = false := by rw [isFlag_toString]; rfl
  simp only [slotOfLine, slot.words_row, isSlotId_toString,
    Text.takeWhile_append_cons (p := fun w => !isFlag w) slot.words _ hflag,
    Text.dropWhile_append_cons (p := fun w => !isFlag w) slot.words _ hflag]
  by_cases hid : slot.id < UInt32.size
  · simp [hid, nameRead]
  · simp [hid]

/-! ## Tables -/

theorem lineFeed_not_mem_of_isWord {w : String} (h : Text.IsWord w) : '\n' ∉ w.toList := by
  intro hmem
  have hblank := h.2 '\n' hmem
  cases hblank

theorem lineFeed_not_mem_joined {ws : List String} (h : ∀ w ∈ ws, Text.IsWord w) :
    '\n' ∉ (joined ws).toList := by
  intro hmem
  rcases Text.mem_intercalate hmem with hspace | ⟨w, hw, hmem⟩
  · cases List.mem_singleton.mp hspace
  · exact lineFeed_not_mem_of_isWord (h w hw) hmem

theorem lineFeed_not_mem_column {width : Nat} {s t : String} (hs : '\n' ∉ s.toList)
    (ht : '\n' ∉ t.toList) : '\n' ∉ (column width s ++ t).toList := by
  simp [column, Text.padRight, hs, ht]

theorem Slot.lineFeed_not_mem_row (slot : Slot) : '\n' ∉ slot.row.toList := by
  have hflag : ∀ b : Bool, '\n' ∉ (toString b).toList := by
    intro b
    cases b <;> decide
  apply lineFeed_not_mem_column (lineFeed_not_mem_of_isWord (isWord_toString slot.id))
  apply lineFeed_not_mem_column (lineFeed_not_mem_joined slot.areWords)
  apply lineFeed_not_mem_column (hflag slot.callIn)
  apply lineFeed_not_mem_column (hflag slot.linkAuth)
  apply lineFeed_not_mem_column (hflag slot.messaging)
  exact slot.oneLine

theorem slotOfLine_heading (h : heading ∈ headings) : slotOfLine heading = none := by
  simp only [headings, List.mem_cons, List.not_mem_nil, or_false] at h
  rcases h with rfl | rfl <;> decide

theorem lineFeed_not_mem_heading (h : heading ∈ headings) : '\n' ∉ heading.toList := by
  simp only [headings, List.mem_cons, List.not_mem_nil, or_false] at h
  rcases h with rfl | rfl <;> decide

/-- What is read of a table, line by line. -/
theorem slotsOf_userTable (hheading : heading ∈ headings) (slots : List Slot) :
    slotsOf (userTable heading slots) = slots.filterMap (slotOfLine ∘ Slot.row) := by
  have hlines : ∀ l ∈ heading :: slots.map Slot.row, '\n' ∉ l.toList := by
    intro l hl
    rcases List.mem_cons.mp hl with rfl | hl
    · exact lineFeed_not_mem_heading hheading
    · obtain ⟨slot, -, rfl⟩ := List.mem_map.mp hl
      exact slot.lineFeed_not_mem_row
  have hread := readsLines_slotOfLine
  calc slotsOf (userTable heading slots)
      = (heading :: slots.map Slot.row).flatMap slotsOf := hread.lineByLine.ended _
    _ = (heading :: slots.map Slot.row).filterMap slotOfLine := hread.flatMap_lines hlines
    _ = slots.filterMap (slotOfLine ∘ Slot.row) := by
        rw [List.filterMap_cons_none (slotOfLine_heading hheading), List.filterMap_map]

/-! ## Names -/

theorem joined_inj {ws vs : List String} (hws : ∀ w ∈ ws, Text.IsWord w)
    (hvs : ∀ v ∈ vs, Text.IsWord v) : joined ws = joined vs ↔ ws = vs := by
  constructor
  · intro h
    rw [← Text.words_intercalate hws, ← Text.words_intercalate hvs]
    exact congrArg Text.words h
  · rintro rfl
    rfl

theorem Slot.areWords_takeWhile (slot : Slot) (p : String → Bool) :
    ∀ w ∈ slot.words.takeWhile p, Text.IsWord w :=
  fun w hw => slot.areWords w (List.takeWhile_prefix p |>.subset hw)

theorem Slot.nameRead_eq_name_iff :
    slot.nameRead = slot.name ↔ ∀ w ∈ slot.words, isFlag w = false := by
  rw [nameRead, name, joined_inj (slot.areWords_takeWhile _) slot.areWords,
    List.takeWhile_eq_self_iff]
  simp

/-- The numbers and the names that are read of a table. -/
theorem names_userTable (hheading : heading ∈ headings) (slots : List Slot) :
    (slotsOf (userTable heading slots)).map (fun u => (u.id, u.name)) =
      (slots.filter (·.id < UInt32.size)).map fun s => (toString s.id, s.nameRead) := by
  rw [slotsOf_userTable hheading, List.map_filterMap, ← List.filterMap_eq_map',
    List.filterMap_filter]
  congr 1
  funext slot
  rw [Function.comp_apply, slot.read_row]
  by_cases hid : slot.id < UInt32.size
  · simp [hid]
  · simp [hid]

/-- What is read are the numbers and names of the slots just if no line can be misread. -/
theorem names_userTable_iff (hheading : heading ∈ headings) (slots : List Slot) :
    (slotsOf (userTable heading slots)).map (fun u => (u.id, u.name)) =
        slots.map (fun s => (toString s.id, s.name)) ↔ ∀ s ∈ slots, s.Clear := by
  rw [names_userTable hheading]
  constructor
  · intro h
    have hlength := congrArg List.length h
    rw [List.length_map, List.length_map, List.length_filter_eq_length_iff] at hlength
    rw [List.filter_eq_self.mpr hlength, List.map_inj_left] at h
    intro s hs
    exact ⟨of_decide_eq_true (hlength s hs), Slot.nameRead_eq_name_iff.mp (Prod.mk.inj (h s hs)).2⟩
  · intro h
    rw [List.filter_eq_self.mpr fun s hs => decide_eq_true (h s hs).1, List.map_inj_left]
    intro s hs
    rw [Slot.nameRead_eq_name_iff.mpr (h s hs).2]

/-! ## Users that are created -/

/-- All that was run is for the slot: the first of the commands that create the user in it. -/
def FillsOnly (target : Target) (creation : String → List (List String)) (runs : List Run)
    (slot : Slot) : Prop :=
  runs.map Prod.fst <+: (creation (toString slot.id)).map (commandFor target)

/-- Where a user is put among the slots of a table: in a slot that the table shows without a name. -/
structure Places (target : Target) (slots : List Slot) (creation : String → List (List String))
    (runs : List Run) : Prop where
  within : runs = [] ∨ ∃ s ∈ slots, s.id ≠ 1 ∧ s.nameRead = "" ∧ FillsOnly target creation runs s
  /-- If no line can be misread, then the slot is nobody's. -/
  free : (∀ s ∈ slots, s.Clear) → runs = [] ∨ ∃ s ∈ slots, s.id ≠ 1 ∧ s.name = "" ∧
    FillsOnly target creation runs s ∧
    ((slots.map Slot.id).Nodup → ∀ s' ∈ slots, s'.name ≠ "" → s'.id ≠ s.id)

theorem Creates.places {target : Target} {user password : String} {role : UserRole}
    {change : Except Fault Bool × List Run} {rest : List Run}
    (h : Creates target user password role change) (hheading : heading ∈ headings)
    (hlisted : Listed target change.2 (userTable heading slots) rest) :
    Places target slots (creating user password role) rest := by
  have hwithin : rest = [] ∨ ∃ s ∈ slots, s.id ≠ 1 ∧ s.nameRead = "" ∧
      FillsOnly target (creating user password role) rest s := by
    rcases h.inOrder with honly | ⟨chosen, rest', ⟨table, hlisted', -, hchoice⟩, hrest⟩
    · obtain ⟨outcome, hruns, -⟩ := hlisted
      have hlength := honly.length_le
      rw [List.length_map, hruns, List.length_cons, List.length_singleton] at hlength
      exact .inl (List.eq_nil_of_length_eq_zero (by omega))
    · obtain ⟨rfl, rfl⟩ := hlisted.unique hlisted'
      obtain ⟨-, free, hfree, hid, hnot, hempty⟩ := freeSlot_ok hchoice
      have hmem : (free.id, free.name) ∈ (slots.filter (·.id < UInt32.size)).map
          fun s => (toString s.id, s.nameRead) := by
        rw [← names_userTable hheading]
        exact List.mem_map_of_mem hfree
      obtain ⟨s, hs, hread⟩ := List.mem_map.mp hmem
      obtain ⟨hidread, hnameread⟩ := Prod.mk.inj hread
      refine .inr ⟨s, (List.mem_filter.mp hs).1, ?_, hnameread.trans hempty, ?_⟩
      · intro hone
        rw [hone] at hidread
        exact hnot hidread.symm
      · rw [FillsOnly, hidread, hid]
        exact hrest
  refine ⟨hwithin, fun hclear => ?_⟩
  rcases hwithin with hnone | ⟨s, hs, hone, hname, hfills⟩
  · exact .inl hnone
  · have hempty : s.name = "" := by
      rw [← Slot.nameRead_eq_name_iff.mpr (hclear s hs).2]
      exact hname
    refine .inr ⟨s, hs, hone, hempty, hfills, ?_⟩
    intro hdistinct s' hs' hnamed hsame
    have heq := List.inj_on_of_nodup_map hdistinct hs' hs hsame
    exact hnamed (heq ▸ hempty)

/-! ## A tool that does all it is told -/

/-- The tool prints the table when it is asked for it, and does all else without a word. -/
def obliging (target : Target) (table : String) (c : Command) (_ : Unit) : Outcome × Unit :=
  (.ended (some 0) (if c = listCommand target then Text.Utf8.encode table else []) [], ())

theorem succeeded_of_obliging {target : Target} {table : String} {xs : List Run} {w v : Unit}
    (h : Dialog.Answered (obliging target table) w xs v) : ∀ x ∈ xs, x.2.Succeeded ∧
      (x.1 = listCommand target → outputOf target.options.ipmi.toolPath x.2 = .ok table) := by
  induction h with
  | nil => simp
  | @cons q w v xs _ ih =>
      refine List.forall_mem_cons.mpr ⟨⟨⟨_, _, rfl⟩, ?_⟩, ih⟩
      intro hlist
      obtain rfl : q = listCommand target := hlist
      simp [obliging, outputOf, Text.Utf8.decode_encode]

/-- Such a tool lets a user be created. -/
theorem told_obliging {target : Target} {table user password id : String} {role : UserRole}
    (now : Nat) (hlist : (listCommand target).isPassable = true)
    (hpassable : ∀ words ∈ creating user password role id,
      (commandFor target words).isPassable = true)
    (hchoice : freeSlot user (slotsOf table) = .ok id) :
    ∃ rest, Listed target (told target (obliging target table) () now
        (.userCreate user password role)).2 table rest ∧
      rest.map Prod.fst = (creating user password role id).map (commandFor target) := by
  obtain ⟨-, v, hanswered⟩ :=
    handle_tells target (obliging target table) () now (.userCreate user password role)
  have horderly :=
    (told_creates target (obliging target table) () now user password role).toOrderly
  have hall := succeeded_of_obliging hanswered
  obtain ⟨outcome, rest, hruns⟩ := horderly.listed hlist
  have hlisted : Listed target _ table rest :=
    ⟨outcome, hruns, (hall _ (hruns ▸ List.mem_cons_self)).2 rfl⟩
  have hdone := horderly.complete table rest id hlisted hchoice hpassable fun x hx => (hall x hx).1
  obtain ⟨slot, rest', ⟨table', hlisted', -, hchosen⟩, hrest, -⟩ := horderly.ok_iff.mp hdone
  obtain ⟨rfl, rfl⟩ := hlisted.unique hlisted'
  rw [hchoice] at hchosen
  cases hchosen
  exact ⟨rest, hlisted, hrest⟩

/-- The slot that is chosen depends on the numbers and the names only. -/
theorem freeSlot_eq (user : String) (found : List UserAccount) : freeSlot user found =
    freeSlot user ((found.map fun u => (u.id, u.name)).map fun u => ⟨u.1, u.2, none, false⟩) := by
  simp only [freeSlot, List.map_map, List.any_map, List.find?_map, Function.comp_def]
  cases List.find? (fun slot => slot.id != "1" && slot.name == "") found <;> rfl

def vacant (id : Nat) : Slot := ⟨id, [], true, false, false, "NO ACCESS", by simp, by decide⟩

def administrator (id : Nat) (name : String) (h : Text.IsWord name) : Slot :=
  ⟨id, [name], true, false, true, "ADMINISTRATOR", List.forall_mem_singleton.mpr h, by decide⟩

/-- Three slots, the second of which belongs to an administrator. -/
def threeSlots (name : String) (h : Text.IsWord name) : List Slot :=
  [vacant 1, administrator 2 name h, vacant 3]

def bladeTarget : Target := ⟨"bmc.local", "admin", "pw", {}⟩

theorem isWord_admin : Text.IsWord "ADMIN" := by decide

theorem isWord_true : Text.IsWord "true" := by decide

/-- What is run to create a user in one of three slots. -/
def opsCreated (name : String) (h : Text.IsWord name) : List Run :=
  (told bladeTarget (obliging bladeTarget (userTable blankHeading (threeSlots name h))) () 0
    (.userCreate "ops" "secret" .operator)).2

theorem opsCreated_listed {name id : String} {h : Text.IsWord name}
    (hchoice : freeSlot "ops" (slotsOf (userTable blankHeading (threeSlots name h))) = .ok id)
    (hid : (creating "ops" "secret" .operator id).all
      fun words => (commandFor bladeTarget words).isPassable) :
    ∃ rest, Listed bladeTarget (opsCreated name h) (userTable blankHeading (threeSlots name h)) rest ∧
      rest.map Prod.fst = (creating "ops" "secret" .operator id).map (commandFor bladeTarget) := by
  rw [opsCreated]
  exact told_obliging 0 (by decide) (List.all_eq_true.mp hid) hchoice

/-- **A table of slots is read back** with their numbers and names, just if every number has at most
32 bits and no word of a name is a flag: else names are cut before their first flag. A user is put
into a slot that is shown without a name, so into one that is nobody's if no name is cut. -/
theorem slot_table_read_back (hheading : heading ∈ headings) (slots : List Slot) :
    (slotsOf (userTable heading slots)).map (fun u => (u.id, u.name)) =
        (slots.filter (·.id < UInt32.size)).map (fun s => (toString s.id, s.nameRead)) ∧
      ((slotsOf (userTable heading slots)).map (fun u => (u.id, u.name)) =
          slots.map (fun s => (toString s.id, s.name)) ↔ ∀ s ∈ slots, s.Clear) ∧
      ∀ {σ : Type} (target : Target) (peer : Command → σ → Outcome × σ) (w : σ) (now : Nat)
        (user password : String) (role : UserRole) (rest : List Run),
        Listed target (told target peer w now (.userCreate user password role)).2
            (userTable heading slots) rest →
          Places target slots (creating user password role) rest :=
  ⟨names_userTable hheading slots, names_userTable_iff hheading slots,
    fun target peer w now user password role _ hlisted =>
      (told_creates target peer w now user password role).places hheading hlisted⟩

theorem slot_table_read_back_of_three :
    blankHeading ∈ headings ∧ (∀ s ∈ threeSlots "ADMIN" isWord_admin, s.Clear) ∧
      (slotsOf (userTable blankHeading (threeSlots "ADMIN" isWord_admin))).map
          (fun u => (u.id, u.name)) = [("1", ""), ("2", "ADMIN"), ("3", "")] ∧
      ∃ rest, Listed bladeTarget (opsCreated "ADMIN" isWord_admin)
          (userTable blankHeading (threeSlots "ADMIN" isWord_admin)) rest ∧ rest ≠ [] ∧
        Places bladeTarget (threeSlots "ADMIN" isWord_admin)
          (creating "ops" "secret" .operator) rest := by
  have hheading : blankHeading ∈ headings := by simp [headings]
  obtain ⟨hnames, -, hplaces⟩ :=
    slot_table_read_back hheading (threeSlots "ADMIN" isWord_admin)
  have hclear : ∀ s ∈ threeSlots "ADMIN" isWord_admin, s.Clear := by
    simp [threeSlots, vacant, administrator, Slot.Clear, isFlag, UInt32.size]
  have hchoice : freeSlot "ops"
      (slotsOf (userTable blankHeading (threeSlots "ADMIN" isWord_admin))) = .ok "3" := by
    rw [freeSlot_eq, hnames]
    rfl
  obtain ⟨rest, hlisted, hrest⟩ := opsCreated_listed hchoice (by decide)
  refine ⟨hheading, hclear, hnames.trans rfl, rest, hlisted, ?_, ?_⟩
  · rintro rfl
    cases hrest
  · rw [opsCreated] at hlisted
    exact hplaces _ _ _ _ _ _ _ _ hlisted

/-- A user called `true` is not seen, and another user is put into the same slot. -/
theorem named_slot_overwritten :
    (slotsOf (userTable blankHeading (threeSlots "true" isWord_true))).map
        (fun u => (u.id, u.name)) = [("1", ""), ("2", ""), ("3", "")] ∧
      ∃ rest, Listed bladeTarget (opsCreated "true" isWord_true)
          (userTable blankHeading (threeSlots "true" isWord_true)) rest ∧
        rest.map Prod.fst =
          (creating "ops" "secret" .operator "2").map (commandFor bladeTarget) := by
  have hnames := names_userTable (by simp [headings] : blankHeading ∈ headings)
    (threeSlots "true" isWord_true)
  have hchoice : freeSlot "ops"
      (slotsOf (userTable blankHeading (threeSlots "true" isWord_true))) = .ok "2" := by
    rw [freeSlot_eq, hnames]
    rfl
  exact ⟨hnames.trans rfl, opsCreated_listed hchoice (by decide)⟩

end OutOfBand.Ipmi
