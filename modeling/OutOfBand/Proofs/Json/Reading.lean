import OutOfBand.Proofs.Json.Scalars
import OutOfBand.Proofs.Json.Tree
import OutOfBand.Proofs.Text.Utf8

/-!
# Reading what was written

The compact text of a value whose numbers are exact, and which is not too deep, is read as the
document that the value stands for (`ofText_render`). No part of the text needs what comes after it
to be understood, but for numerals, which go on as long as they can: so a value that is no number is
read off the start of any text that begins with it (`isRead_of_isExact`).
-/

namespace OutOfBand.Json

variable {j : Json} {items : List Json} {members : List (String × Json)} {c : Char}
  {cs rest : List Char} {steps level : Nat}

/-! ## The document of a value -/

mutual

/-- The document that the text of a value is read as. There is none here for doubles. -/
def doc : Json → Doc
  | .null => .null
  | .bool b => .bool b
  | .num (.int n) => .num (numeralOf n)
  | .num (.real _) => .broken .malformed .malformed
  | .str s => .text (.ok s)
  | .arr items => .arr (itemDocs items) .closed
  | .obj members => .obj (memberDocs members) .closed

def itemDocs : List Json → List Doc
  | [] => []
  | item :: items => item.doc :: itemDocs items

def memberDocs : List (String × Json) → List (Except Breach String × Doc)
  | [] => []
  | (key, value) :: members => (.ok key, value.doc) :: memberDocs members

end

theorem memberDocs_eq_map (members : List (String × Json)) :
    memberDocs members = members.map fun m => (.ok m.1, m.2.doc) := by
  induction members with
  | nil => rfl
  | cons member members ih => rw [memberDocs, ih, List.map_cons]

/-! ## Where values begin and end -/

def isBlank (c : Char) : Bool := c == ' ' || c == '\n' || c == '\t' || c == '\r'

theorem skipBlanks_cons (h : isBlank c = false) : skipBlanks (c :: cs) = c :: cs :=
  List.dropWhile_cons_of_neg (by simpa [isBlank] using h)

theorem numberChars_eq_cons (n : Int) :
    ∃ c cs, numberChars (.int n) = c :: cs ∧ (c = '-' ∨ Decimal.isDigit c = true) := by
  rw [numberChars_int]
  by_cases hn : n < 0
  · rw [if_pos hn]
    exact ⟨'-', _, rfl, .inl rfl⟩
  · rw [if_neg hn, List.nil_append]
    cases hdigits : Nat.toDigits 10 n.natAbs with
    | nil => exact absurd hdigits (List.ne_nil_of_length_pos Nat.length_toDigits_pos)
    | cons d ds => exact ⟨d, ds, rfl, .inr (isDigit_of_mem_toDigits (hdigits ▸ List.mem_cons_self))⟩

theorem ne_of_startsNumber {d : Char} (h : c = '-' ∨ Decimal.isDigit c = true) (hd : d ≠ '-')
    (hdigit : Decimal.isDigit d = false) : c ≠ d := by
  rintro rfl
  rcases h with rfl | h
  · exact hd rfl
  · rw [hdigit] at h
    cases h

theorem isBlank_of_startsNumber (h : c = '-' ∨ Decimal.isDigit c = true) : isBlank c = false := by
  simp only [isBlank, Bool.or_eq_false_iff, beq_eq_false_iff_ne]
  exact ⟨⟨⟨ne_of_startsNumber h (by decide) (by decide),
    ne_of_startsNumber h (by decide) (by decide)⟩,
    ne_of_startsNumber h (by decide) (by decide)⟩, ne_of_startsNumber h (by decide) (by decide)⟩

/-- A value begins with a character that is no blank and does not close an array. -/
theorem chars_eq_cons (h : IsExact j) :
    ∃ c cs, j.chars = c :: cs ∧ isBlank c = false ∧ c ≠ ']' := by
  cases j with
  | null => exact ⟨_, _, rfl, by decide, by decide⟩
  | bool b => cases b <;> exact ⟨_, _, rfl, by decide, by decide⟩
  | num n =>
      cases n with
      | int n =>
          obtain ⟨c, cs, hchars, hc⟩ := numberChars_eq_cons n
          exact ⟨c, cs, hchars, isBlank_of_startsNumber hc,
            ne_of_startsNumber hc (by decide) (by decide)⟩
      | real x => exact (isExact_num_iff.mp h).elim
  | str s => exact ⟨_, _, rfl, by decide, by decide⟩
  | arr items => exact ⟨_, _, rfl, by decide, by decide⟩
  | obj members => exact ⟨_, _, rfl, by decide, by decide⟩

theorem endsNumeral_cons (hdigit : Decimal.isDigit c = false) (hpoint : c ≠ '.') (he : c ≠ 'e')
    (hE : c ≠ 'E') : EndsNumeral (c :: cs) := by
  intro d hd
  obtain rfl := Option.some.inj hd
  exact ⟨hdigit, hpoint, he, hE⟩

/-! ## Parts with commas between them -/

/-- The items of an array that follow another one. -/
def itemTail (items : List Json) : List Char := items.flatMap fun i => ',' :: i.chars

def memberText (m : String × Json) : List Char := textChars m.1 ++ ':' :: m.2.chars

/-- The members of an object that follow another one. -/
def memberTail (members : List (String × Json)) : List Char :=
  members.flatMap fun m => ',' :: memberText m

theorem itemChars_cons (i : Json) (items : List Json) :
    itemChars (i :: items) = i.chars ++ itemTail items := by
  induction items generalizing i with
  | nil => simp [itemChars, itemTail]
  | cons i' items ih => simp [itemChars, ih, itemTail]

theorem memberChars_cons (m : String × Json) (members : List (String × Json)) :
    memberChars (m :: members) = memberText m ++ memberTail members := by
  induction members generalizing m with
  | nil => simp [memberChars, memberTail, memberText]
  | cons m' members ih => simp [memberChars, ih, memberTail, memberText]

theorem endsNumeral_itemTail (items : List Json) (rest : List Char) :
    EndsNumeral (itemTail items ++ ']' :: rest) := by
  cases items with
  | nil => exact endsNumeral_cons (by decide) (by decide) (by decide) (by decide)
  | cons i items => exact endsNumeral_cons (by decide) (by decide) (by decide) (by decide)

theorem endsNumeral_memberTail (members : List (String × Json)) (rest : List Char) :
    EndsNumeral (memberTail members ++ '\x7d' :: rest) := by
  cases members with
  | nil => exact endsNumeral_cons (by decide) (by decide) (by decide) (by decide)
  | cons m members => exact endsNumeral_cons (by decide) (by decide) (by decide) (by decide)

/-! ## Reading arrays and objects -/

/-- A value is read off the start of every text that begins with it, unless it is a number that goes
on. Every character is good for two steps. -/
def IsRead (j : Json) : Prop :=
  ∀ (steps level : Nat) (rest : List Char), 2 * j.chars.length ≤ steps →
    level + j.depth ≤ maxDepth → (∀ n, j = .num n → EndsNumeral rest) →
    readValue [] steps level (j.chars ++ rest) = (j.doc, some rest)

theorem readItems_first {d : Doc} (hblank : isBlank c = false) (hclose : c ≠ ']')
    (hread : readValue [] steps level (c :: cs) = (d, some rest)) :
    readItems [] (steps + 1) level true (c :: cs) =
      (d :: (readItems [] steps level false rest).1, (readItems [] steps level false rest).2) := by
  rw [readItems, skipBlanks_cons hblank]
  simp only [if_true, hread]

theorem readItems_next {d : Doc} (hblank : isBlank c = false) (hclose : c ≠ ']')
    (hread : readValue [] steps level (c :: cs) = (d, some rest)) :
    readItems [] (steps + 1) level false (',' :: c :: cs) =
      (d :: (readItems [] steps level false rest).1, (readItems [] steps level false rest).2) := by
  rw [readItems, skipBlanks_cons (by decide)]
  simp only [Char.reduceEq, imp_self, Bool.false_eq_true, if_false, beq_self_eq_true, if_true,
    skipBlanks_cons hblank]
  split
  · cases ‹c :: cs = []›
  · exact absurd (List.cons.inj ‹_›).1 hclose
  · rw [hread]

theorem readItems_itemTail (hread : ∀ i ∈ items, IsExact i ∧ IsRead i)
    (hdepth : ∀ i ∈ items, level + i.depth ≤ maxDepth)
    (hsteps : 2 * ((itemTail items).length + 1) ≤ steps) :
    readItems [] steps level false (itemTail items ++ ']' :: rest) =
      (itemDocs items, .closed, some rest) := by
  induction items generalizing steps with
  | nil =>
      obtain ⟨steps, rfl⟩ := Nat.exists_eq_succ_of_ne_zero (by omega : steps ≠ 0)
      rfl
  | cons i items ih =>
      obtain ⟨⟨hexact, hi⟩, hitems⟩ := List.forall_mem_cons.mp hread
      obtain ⟨hlevel, hlevels⟩ := List.forall_mem_cons.mp hdepth
      have hlength : (itemTail (i :: items)).length =
          i.chars.length + (itemTail items).length + 1 := by simp [itemTail]
      obtain ⟨steps, rfl⟩ := Nat.exists_eq_succ_of_ne_zero (by omega : steps ≠ 0)
      have htext : itemTail (i :: items) ++ ']' :: rest =
          ',' :: (i.chars ++ (itemTail items ++ ']' :: rest)) := by simp [itemTail]
      have hvalue := hi steps level _ (by omega) hlevel
        fun _ _ => endsNumeral_itemTail items rest
      -- The reader looks at the first character before it reads a value.
      obtain ⟨c, cs, hchars, hblank, hclose⟩ := chars_eq_cons hexact
      rw [hchars, List.cons_append] at htext hvalue
      rw [htext, readItems_next hblank hclose hvalue, ih hitems hlevels (by omega)]
      rfl

theorem memberText_append (m : String × Json) (cs : List Char) : memberText m ++ cs =
    '"' :: (m.1.toList.flatMap escaped ++ '"' :: ':' :: (m.2.chars ++ cs)) := by
  simp [memberText, textChars]

theorem readMembers_first {m : String × Json} {d : Doc}
    (hread : readValue [] steps level (m.2.chars ++ cs) = (d, some rest)) :
    readMembers [] (steps + 1) level true (memberText m ++ cs) =
      ((.ok m.1, d) :: (readMembers [] steps level false rest).1,
        (readMembers [] steps level false rest).2) := by
  rw [memberText_append, readMembers, skipBlanks_cons (by decide)]
  simp [readText_textChars, skipBlanks_cons (show isBlank ':' = false by decide), hread]

theorem readMembers_next {m : String × Json} {d : Doc}
    (hread : readValue [] steps level (m.2.chars ++ cs) = (d, some rest)) :
    readMembers [] (steps + 1) level false (',' :: (memberText m ++ cs)) =
      ((.ok m.1, d) :: (readMembers [] steps level false rest).1,
        (readMembers [] steps level false rest).2) := by
  rw [memberText_append, readMembers, skipBlanks_cons (by decide)]
  simp [readText_textChars, skipBlanks_cons (show isBlank '"' = false by decide),
    skipBlanks_cons (show isBlank ':' = false by decide), hread]

theorem readMembers_memberTail (hread : ∀ m ∈ members, IsRead m.2)
    (hdepth : ∀ m ∈ members, level + m.2.depth ≤ maxDepth)
    (hsteps : 2 * ((memberTail members).length + 1) ≤ steps) :
    readMembers [] steps level false (memberTail members ++ '\x7d' :: rest) =
      (memberDocs members, .closed, some rest) := by
  induction members generalizing steps with
  | nil =>
      obtain ⟨steps, rfl⟩ := Nat.exists_eq_succ_of_ne_zero (by omega : steps ≠ 0)
      rfl
  | cons m members ih =>
      obtain ⟨hm, hmembers⟩ := List.forall_mem_cons.mp hread
      obtain ⟨hlevel, hlevels⟩ := List.forall_mem_cons.mp hdepth
      have hlength : (memberTail (m :: members)).length =
          (textChars m.1).length + m.2.chars.length + (memberTail members).length + 2 := by
        simp [memberTail, memberText]
        omega
      obtain ⟨steps, rfl⟩ := Nat.exists_eq_succ_of_ne_zero (by omega : steps ≠ 0)
      have htext : memberTail (m :: members) ++ '\x7d' :: rest =
          ',' :: (memberText m ++ (memberTail members ++ '\x7d' :: rest)) := by simp [memberTail]
      have hvalue := hm steps level _ (by omega) hlevel
        fun _ _ => endsNumeral_memberTail members rest
      rw [htext, readMembers_next hvalue, ih hmembers hlevels (by omega)]
      rfl

theorem readValue_scalar (hblank : isBlank c = false) (harr : c ≠ '[') (hobj : c ≠ '\x7b') :
    readValue [] (steps + 1) level (c :: cs) = readScalar [] (c :: cs) := by
  rw [readValue, skipBlanks_cons hblank]
  split
  · exact absurd (List.cons.inj ‹_›).1 harr
  · exact absurd (List.cons.inj ‹_›).1 hobj
  · rfl

theorem isRead_arr (hread : ∀ i ∈ items, IsExact i ∧ IsRead i) : IsRead (.arr items) := by
  intro steps level rest hsteps hdepth _
  rw [depth] at hdepth
  have hlength : (Json.arr items).chars.length = (itemChars items).length + 2 := by simp [chars]
  obtain ⟨steps, rfl⟩ := Nat.exists_eq_succ_of_ne_zero (by omega : steps ≠ 0)
  -- One step is for the array; the brackets leave enough of them for what is between.
  have hitems : readItems [] steps (level + 1) true (itemChars items ++ ']' :: rest) =
      (itemDocs items, .closed, some rest) := by
    cases items with
    | nil =>
        obtain ⟨steps, rfl⟩ := Nat.exists_eq_succ_of_ne_zero (by omega : steps ≠ 0)
        rfl
    | cons i items =>
        obtain ⟨⟨hexact, hi⟩, hitems⟩ := List.forall_mem_cons.mp hread
        have hlevels : ∀ i' ∈ i :: items, level + 1 + i'.depth ≤ maxDepth := fun i' hi' => by
          have := depth_le_itemDepth hi'
          omega
        obtain ⟨hlevel, hlevels⟩ := List.forall_mem_cons.mp hlevels
        rw [itemChars_cons, List.append_assoc]
        rw [itemChars_cons, List.length_append] at hlength
        obtain ⟨steps, rfl⟩ := Nat.exists_eq_succ_of_ne_zero (by omega : steps ≠ 0)
        have hvalue := hi steps (level + 1) _ (by omega) hlevel
          fun _ _ => endsNumeral_itemTail items rest
        obtain ⟨c, cs, hchars, hblank, hclose⟩ := chars_eq_cons hexact
        have hpos : 0 < i.chars.length := by simp [hchars]
        rw [hchars, List.cons_append] at hvalue ⊢
        rw [readItems_first hblank hclose hvalue, readItems_itemTail hitems hlevels (by omega)]
        rfl
  have htext : (Json.arr items).chars ++ rest = '[' :: (itemChars items ++ ']' :: rest) := by
    simp [chars]
  rw [htext, readValue, skipBlanks_cons (by decide)]
  simp only [hitems, Doc.atDepth, if_pos (by omega : level < maxDepth)]
  rfl

theorem isRead_obj (hread : ∀ m ∈ members, IsRead m.2) : IsRead (.obj members) := by
  intro steps level rest hsteps hdepth _
  rw [depth] at hdepth
  have hlength : (Json.obj members).chars.length = (memberChars members).length + 2 := by
    simp [chars]
  obtain ⟨steps, rfl⟩ := Nat.exists_eq_succ_of_ne_zero (by omega : steps ≠ 0)
  have hmembers : readMembers [] steps (level + 1) true (memberChars members ++ '\x7d' :: rest) =
      (memberDocs members, .closed, some rest) := by
    cases members with
    | nil =>
        obtain ⟨steps, rfl⟩ := Nat.exists_eq_succ_of_ne_zero (by omega : steps ≠ 0)
        rfl
    | cons m members =>
        obtain ⟨hm, hmembers⟩ := List.forall_mem_cons.mp hread
        have hlevels : ∀ m' ∈ m :: members, level + 1 + m'.2.depth ≤ maxDepth := fun m' hm' => by
          have := depth_le_memberDepth hm'
          omega
        obtain ⟨hlevel, hlevels⟩ := List.forall_mem_cons.mp hlevels
        have hmember : (memberText m).length = (textChars m.1).length + m.2.chars.length + 1 := by
          simp [memberText]
          omega
        rw [memberChars_cons, List.append_assoc]
        rw [memberChars_cons, List.length_append] at hlength
        obtain ⟨steps, rfl⟩ := Nat.exists_eq_succ_of_ne_zero (by omega : steps ≠ 0)
        have hvalue := hm steps (level + 1) _ (by omega) hlevel
          fun _ _ => endsNumeral_memberTail members rest
        rw [readMembers_first hvalue, readMembers_memberTail hmembers hlevels (by omega)]
        rfl
  have htext : (Json.obj members).chars ++ rest =
      '\x7b' :: (memberChars members ++ '\x7d' :: rest) := by
    simp [chars]
  rw [htext, readValue, skipBlanks_cons (by decide)]
  simp only [hmembers, Doc.atDepth, if_pos (by omega : level < maxDepth)]
  rfl

/-- **Every value is read back** from the start of any text that begins with it, as long as there
is no number that goes on. -/
theorem isRead_of_isExact (h : IsExact j) : IsRead j := by
  induction j using tree_ind with
  | null =>
      intro steps level rest hsteps _ _
      obtain ⟨steps, rfl⟩ : ∃ n, steps = n + 1 :=
        Nat.exists_eq_succ_of_ne_zero (by rintro rfl; cases hsteps)
      rfl
  | bool b =>
      intro steps level rest hsteps _ _
      obtain ⟨steps, rfl⟩ : ∃ n, steps = n + 1 :=
        Nat.exists_eq_succ_of_ne_zero (by rintro rfl; cases b <;> cases hsteps)
      cases b <;> rfl
  | num n =>
      cases n with
      | int n =>
          intro steps level rest hsteps _ hrest
          obtain ⟨c, cs, hchars, hc⟩ := numberChars_eq_cons n
          rw [chars] at hsteps ⊢
          obtain ⟨steps, rfl⟩ : ∃ n, steps = n + 1 :=
            Nat.exists_eq_succ_of_ne_zero (by rintro rfl; simp [hchars] at hsteps)
          rw [doc, ← readScalar_numberChars n (hrest _ rfl), hchars]
          exact readValue_scalar (isBlank_of_startsNumber hc)
            (ne_of_startsNumber hc (by decide) (by decide))
            (ne_of_startsNumber hc (by decide) (by decide))
      | real x => exact (isExact_num_iff.mp h).elim
  | str s =>
      intro steps level rest hsteps _ _
      obtain ⟨steps, rfl⟩ : ∃ n, steps = n + 1 :=
        Nat.exists_eq_succ_of_ne_zero (by rintro rfl; cases hsteps)
      have htext : (Json.str s).chars ++ rest =
          '"' :: (s.toList.flatMap escaped ++ '"' :: rest) := by simp [chars, textChars]
      rw [htext, readValue_scalar (by decide) (by decide) (by decide)]
      exact readText_textChars s rest
  | arr items ih =>
      have hitems := isExact_arr_iff.mp h
      exact isRead_arr fun i hi => ⟨hitems i hi, ih i hi (hitems i hi)⟩
  | obj members ih => exact isRead_obj fun m hm => ih m hm (isExact_obj_iff.mp h m hm)

/-- **The text of an object tells where it ends**, whatever follows it. -/
theorem chars_obj_append_inj {members' : List (String × Json)} {rest' : List Char}
    (h : IsExact (.obj members)) (h' : IsExact (.obj members'))
    (hdepth : (Json.obj members).depth ≤ maxDepth)
    (hdepth' : (Json.obj members').depth ≤ maxDepth)
    (htext : (Json.obj members).chars ++ rest = (Json.obj members').chars ++ rest') :
    (Json.obj members).doc = (Json.obj members').doc ∧ rest = rest' := by
  have hlength := congrArg List.length htext
  simp only [List.length_append] at hlength
  -- Both texts are the same, so both values are what one reader finds in it.
  have hread := isRead_of_isExact h (2 * ((Json.obj members).chars ++ rest).length) 0 rest
    (by rw [List.length_append]; omega) (by omega) (by rintro _ ⟨⟩)
  have hread' := isRead_of_isExact h' (2 * ((Json.obj members).chars ++ rest).length) 0 rest'
    (by rw [List.length_append]; omega) (by omega) (by rintro _ ⟨⟩)
  rw [← htext, hread, Prod.mk.injEq, Option.some.injEq] at hread'
  exact hread'

/-- **The text of a value is read as its document**, and nothing is left over. -/
theorem ofText_render (h : IsExact j) (hdepth : j.depth ≤ maxDepth) :
    Document.ofText j.render = ⟨j.doc, false⟩ := by
  have hread := isRead_of_isExact h (2 * j.chars.length + 2) 0 [] (by omega) (by omega)
    (fun _ _ _ hc => by cases hc)
  rw [List.append_nil] at hread
  simp [Document.ofText, Document.read, render, hread, skipBlanks]

/-! ## Bytes -/

theorem flawsOf_map_some (cs : List Char) : Document.flawsOf (cs.map some) = [] := by
  induction cs with
  | nil => rfl
  | cons c cs ih => exact ih

/-- **Bytes that are UTF-8 are read as their text.** -/
theorem ofBytes_encode (s : String) :
    Document.ofBytes (Text.Utf8.encode s) = Document.ofText s := by
  simp only [Document.ofBytes, Document.ofText, Text.Utf8.characters_encode,
    Text.Utf8.mended_map_some, flawsOf_map_some]

end OutOfBand.Json
