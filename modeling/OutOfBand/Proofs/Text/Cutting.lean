import OutOfBand.Text.Blank

/-!
# Cutting what was put together

Text is cut into pieces at separators, into words at blanks and into lines at line feeds, and blanks
at its ends are cut off. Cutting undoes putting together: texts that were joined are found again
(`splitAt_intercalate`), the pieces of a text can be joined again (`intercalate_splitOn`), and a text
that was filled up with blanks is found again by trimming (`Padded.trim_eq`, `padded_trim`). The
pieces of two texts with a separator between them are those of the one and of the other
(`splitOn_append`), and the words of a text those of the parts on both sides of any blank
(`words_append_blank`), however wide the gaps are.
-/

namespace OutOfBand.Text

variable {p : Char → Bool} {c : Char} {cs : List Char} {s t : String}

/-! ## Up to a place -/

section

variable {α : Type} {p : α → Bool} {x : α}

theorem takeWhile_append_cons (xs ys : List α) (h : p x = false) :
    (xs ++ x :: ys).takeWhile p = xs.takeWhile p := by
  induction xs with
  | nil => simp [h]
  | cons y xs ih => simp only [List.cons_append, List.takeWhile_cons, ih]

theorem dropWhile_append_cons (xs ys : List α) (h : p x = false) :
    (xs ++ x :: ys).dropWhile p = xs.dropWhile p ++ x :: ys := by
  rw [List.dropWhile_append, List.dropWhile_cons_of_neg (by simp [h])]
  split
  · rename_i hempty
    rw [List.isEmpty_iff.mp hempty, List.nil_append]
  · rfl

theorem dropWhile_of_head {xs : List α} (h : ∀ x ∈ xs.head?, p x = false) :
    xs.dropWhile p = xs := by
  cases xs with
  | nil => rfl
  | cons x xs => simp [h x rfl]

theorem dropWhile_of_none {xs : List α} (h : ∀ x ∈ xs, p x = false) : xs.dropWhile p = xs :=
  dropWhile_of_head fun x hx => h x (List.mem_of_mem_head? hx)

theorem head?_dropWhile (xs : List α) : ∀ x ∈ (xs.dropWhile p).head?, p x = false := by
  intro x hx
  have hhead := xs.head?_dropWhile_not p
  rwa [Option.mem_def.mp hx] at hhead

theorem of_mem_takeWhile {xs : List α} (h : x ∈ xs.takeWhile p) : p x = true :=
  List.all_eq_true.mp List.all_takeWhile x h

end

/-! ## Trimming -/

theorem dropEndWhile_concat {p : Char → Bool} (cs : List Char) (hc : p c = true) :
    dropEndWhile p (cs ++ [c]) = dropEndWhile p cs := by
  rw [dropEndWhile, List.reverse_concat, List.dropWhile_cons_of_pos hc, dropEndWhile]

theorem dropEndWhile_append_takeWhile (p : Char → Bool) (cs : List Char) :
    dropEndWhile p cs ++ (cs.reverse.takeWhile p).reverse = cs := by
  rw [dropEndWhile, ← List.reverse_append, List.takeWhile_append_dropWhile, List.reverse_reverse]

/-- A blank at the end of a text is trimmed. -/
theorem trim_ending_blank (cs : List Char) (hc : isBlank c = true) :
    trim (String.ofList (cs ++ [c])) = trim (String.ofList cs) := by
  have hstart : dropEndWhile isBlank (trimStart (cs ++ [c])) =
      dropEndWhile isBlank (trimStart cs) := by
    unfold trimStart
    rw [List.dropWhile_append]
    split
    · next hblank => simp [hc, List.isEmpty_iff.mp hblank]
    · exact dropEndWhile_concat _ hc
  rw [trim, trim, String.toList_ofList, String.toList_ofList, hstart]

theorem trim_append_blanks (cs : List Char) {behind : List Char}
    (h : ∀ c ∈ behind, isBlank c = true) :
    trim (String.ofList (cs ++ behind)) = trim (String.ofList cs) := by
  induction behind generalizing cs with
  | nil => rw [List.append_nil]
  | cons c behind ih =>
      obtain ⟨hc, hbehind⟩ := List.forall_mem_cons.mp h
      rw [List.append_cons, ih _ hbehind, trim_ending_blank cs hc]

/-- The text has no blank at either end. -/
structure IsTrimmed (s : String) : Prop where
  start : ∀ c ∈ s.toList.head?, isBlank c = false
  ending : ∀ c ∈ s.toList.getLast?, isBlank c = false

instance (s : String) : Decidable (IsTrimmed s) :=
  @decidable_of_iff _ ((∀ c ∈ s.toList.head?, isBlank c = false) ∧
      ∀ c ∈ s.toList.getLast?, isBlank c = false)
    ⟨fun h => ⟨h.1, h.2⟩, fun h => ⟨h.1, h.2⟩⟩
    (@instDecidableAnd _ _ (Option.decidableForallMem _) (Option.decidableForallMem _))

theorem IsTrimmed.trim_eq (h : IsTrimmed s) : trim s = s := by
  have hreverse : s.toList.reverse.dropWhile isBlank = s.toList.reverse :=
    dropWhile_of_head (by rw [List.head?_reverse]; exact h.ending)
  rw [trim, trimStart, dropWhile_of_head h.start, dropEndWhile, hreverse, List.reverse_reverse,
    String.ofList_toList]

/-- A text without blanks has none at its ends. -/
theorem trim_of_none (h : ∀ c ∈ s.toList, isBlank c = false) : trim s = s :=
  IsTrimmed.trim_eq ⟨fun c hc => h c (List.mem_of_mem_head? hc),
    fun c hc => h c (List.mem_of_mem_getLast? hc)⟩

theorem isTrimmed_trim (s : String) : IsTrimmed (trim s) := by
  have hrest := dropEndWhile_append_takeWhile isBlank (trimStart s.toList)
  constructor
  · intro c hc
    rw [trim, String.toList_ofList] at hc
    apply head?_dropWhile s.toList c
    rw [← trimStart, ← hrest, List.head?_append, Option.mem_def.mp hc]
    rfl
  · intro c hc
    rw [trim, String.toList_ofList, dropEndWhile, List.getLast?_reverse] at hc
    exact head?_dropWhile _ c hc

/-- The text `t` is `s` with characters that satisfy `p` before it and behind it. -/
def Padded (p : Char → Bool) (s t : String) : Prop := ∃ before behind : List Char,
  (∀ c ∈ before ++ behind, p c = true) ∧ t = String.ofList before ++ s ++ String.ofList behind

theorem Padded.mem (h : Padded p s t) (hc : c ∈ s.toList) : c ∈ t.toList := by
  obtain ⟨before, behind, -, rfl⟩ := h
  simp [hc]

theorem Padded.mem_or (h : Padded p s t) (hc : c ∈ t.toList) : c ∈ s.toList ∨ p c = true := by
  obtain ⟨before, behind, hp, rfl⟩ := h
  simp only [String.toList_append, String.toList_ofList, List.mem_append] at hc hp
  rcases hc with (hc | hc) | hc
  · exact .inr (hp c (.inl hc))
  · exact .inl hc
  · exact .inr (hp c (.inr hc))

theorem Padded.imp {q : Char → Bool} (h : Padded p s t)
    (hpq : ∀ c ∈ t.toList, p c = true → q c = true) : Padded q s t := by
  obtain ⟨before, behind, hp, rfl⟩ := h
  refine ⟨before, behind, fun c hc => hpq c ?_ (hp c hc), rfl⟩
  simp only [String.toList_append, String.toList_ofList, List.mem_append] at hc ⊢
  rcases hc with hc | hc
  · exact .inl (.inl hc)
  · exact .inr hc

theorem Padded.trim_eq (h : Padded isBlank s t) (hs : IsTrimmed s) : trim t = s := by
  obtain ⟨before, behind, hblank, rfl⟩ := h
  obtain ⟨hbefore, hbehind⟩ := List.forall_mem_append.mp hblank
  have hstart : trimStart (before ++ s.toList) = trimStart s.toList :=
    List.dropWhile_append_of_pos hbefore
  calc trim (String.ofList before ++ s ++ String.ofList behind)
      = trim (String.ofList (before ++ s.toList ++ behind)) := by
        rw [String.ofList_append, String.ofList_append, String.ofList_toList]
    _ = trim (String.ofList (before ++ s.toList)) := trim_append_blanks _ hbehind
    _ = trim s := by rw [trim, trim, String.toList_ofList, hstart]
    _ = s := hs.trim_eq

theorem padded_trim (s : String) : Padded isBlank (trim s) s := by
  refine ⟨s.toList.takeWhile isBlank, ((trimStart s.toList).reverse.takeWhile isBlank).reverse,
    fun c hc => ?_, ?_⟩
  · rcases List.mem_append.mp hc with hc | hc
    · exact of_mem_takeWhile hc
    · exact of_mem_takeWhile (List.mem_reverse.mp hc)
  · rw [trim, ← String.ofList_append, ← String.ofList_append, List.append_assoc,
      dropEndWhile_append_takeWhile, trimStart, List.takeWhile_append_dropWhile,
      String.ofList_toList]

/-! ## Pieces -/

theorem splitAt_ne_nil (p : Char → Bool) (cs : List Char) : splitAt p cs ≠ [] := by
  cases cs with
  | nil => simp [splitAt]
  | cons c cs =>
      rw [splitAt]
      split
      · simp
      · split <;> simp

/-- The pieces on both sides of a separator do not depend on each other. -/
theorem splitAt_append (cs : List Char) (hsep : p c = true) (rest : List Char) :
    splitAt p (cs ++ c :: rest) = splitAt p cs ++ splitAt p rest := by
  induction cs with
  | nil => simp [splitAt, hsep]
  | cons d cs ih =>
      rw [List.cons_append, splitAt, splitAt, ih]
      split
      · rfl
      · cases hpieces : splitAt p cs with
        | nil => exact absurd hpieces (splitAt_ne_nil p cs)
        | cons piece pieces => rfl

theorem splitAt_of_none (h : ∀ c ∈ cs, p c = false) : splitAt p cs = [cs] := by
  induction cs with
  | nil => rfl
  | cons c cs ih =>
      obtain ⟨hc, hcs⟩ := List.forall_mem_cons.mp h
      simp [splitAt, hc, ih hcs]

theorem splitAt_append_cons (h : ∀ c ∈ cs, p c = false) {sep : Char} (hsep : p sep = true)
    (rest : List Char) : splitAt p (cs ++ sep :: rest) = cs :: splitAt p rest := by
  rw [splitAt_append cs hsep, splitAt_of_none h]
  rfl

/-- A character at the end that is no separator belongs to the last piece. -/
theorem splitAt_concat (cs : List Char) (hc : p c = false) : ∃ before last,
    splitAt p cs = before ++ [last] ∧ splitAt p (cs ++ [c]) = before ++ [last ++ [c]] := by
  induction cs with
  | nil => exact ⟨[], [], rfl, splitAt_of_none (by simpa using hc)⟩
  | cons d cs ih =>
      obtain ⟨before, last, hcs, hend⟩ := ih
      rw [List.cons_append, splitAt, splitAt, hcs, hend]
      split
      · exact ⟨[] :: before, last, rfl, rfl⟩
      · cases before with
        | nil => exact ⟨[], d :: last, rfl, rfl⟩
        | cons piece pieces => exact ⟨(d :: piece) :: pieces, last, rfl, rfl⟩

theorem length_splitAt (p : Char → Bool) (cs : List Char) :
    (splitAt p cs).length = cs.countP p + 1 := by
  induction cs with
  | nil => rfl
  | cons c cs ih =>
      rw [splitAt, List.countP_cons]
      split
      · rw [List.length_cons, ih]
      · obtain ⟨piece, pieces, hpieces⟩ := List.exists_cons_of_ne_nil (splitAt_ne_nil p cs)
        rw [hpieces] at ih ⊢
        exact ih

/-- The pieces together are the text without its separators. -/
theorem flatten_splitAt (p : Char → Bool) (cs : List Char) :
    (splitAt p cs).flatten = cs.filter (!p ·) := by
  induction cs with
  | nil => rfl
  | cons c cs ih =>
      rw [splitAt, List.filter_cons]
      split
      · next hc => simpa [hc] using ih
      · next hc =>
          obtain ⟨piece, pieces, hpieces⟩ := List.exists_cons_of_ne_nil (splitAt_ne_nil p cs)
          rw [hpieces, List.flatten_cons] at ih
          simp [hpieces, hc, ih]

theorem length_splitOn (sep : Char) (s : String) :
    (splitOn sep s).length = s.toList.count sep + 1 := by
  rw [splitOn, List.length_map, length_splitAt, List.count_eq_countP]

theorem of_mem_splitOn {sep : Char} {piece : String} (h : piece ∈ splitOn sep s) :
    ∀ c ∈ piece.toList, c ∈ s.toList ∧ c ≠ sep := by
  obtain ⟨ds, hds, rfl⟩ := List.mem_map.mp h
  intro c hc
  rw [String.toList_ofList] at hc
  have hmem := List.mem_flatten_of_mem hds hc
  rw [flatten_splitAt, List.mem_filter] at hmem
  simpa using hmem

/-- The pieces of two texts with a separator between them are those of the one and of the other. -/
theorem splitOn_append (sep : Char) (s t : String) :
    splitOn sep (s ++ String.ofList [sep] ++ t) = splitOn sep s ++ splitOn sep t := by
  have hpieces := splitAt_append (p := (· == sep)) s.toList (beq_self_eq_true sep) t.toList
  rw [splitOn, String.toList_append, String.toList_append, String.toList_ofList, List.append_assoc,
    List.singleton_append, hpieces, List.map_append]
  rfl

/-- **Texts that were joined are found again** at the separators, if none stands in them. -/
theorem splitAt_intercalate {sep : Char} {texts : List String} (hsep : p sep = true)
    (hne : texts ≠ []) (h : ∀ s ∈ texts, ∀ c ∈ s.toList, p c = false) :
    splitAt p (String.intercalate (String.ofList [sep]) texts).toList =
      texts.map String.toList := by
  induction texts with
  | nil => exact absurd rfl hne
  | cons s texts ih =>
      obtain ⟨hs, htexts⟩ := List.forall_mem_cons.mp h
      cases texts with
      | nil => simp [splitAt_of_none hs]
      | cons t texts =>
          have hrest := ih (List.cons_ne_nil _ _) htexts
          rw [String.intercalate_cons_cons, String.toList_append, String.toList_append,
            String.toList_ofList, List.append_assoc, List.singleton_append,
            splitAt_append_cons hs hsep, hrest]
          rfl

theorem splitOn_intercalate {sep : Char} {texts : List String} (hne : texts ≠ [])
    (h : ∀ s ∈ texts, sep ∉ s.toList) :
    splitOn sep (String.intercalate (String.ofList [sep]) texts) = texts := by
  have hpieces := splitAt_intercalate (p := (· == sep)) (beq_self_eq_true sep) hne
    fun s hs c hc => beq_eq_false_iff_ne.mpr fun heq => h s hs (heq ▸ hc)
  rw [splitOn, hpieces, List.map_map]
  exact List.map_id'' (fun s => String.ofList_toList) texts

theorem mem_intercalate {sep : String} {texts : List String}
    (h : c ∈ (String.intercalate sep texts).toList) :
    c ∈ sep.toList ∨ ∃ s ∈ texts, c ∈ s.toList := by
  induction texts with
  | nil => cases h
  | cons s texts ih =>
      cases texts with
      | nil => exact .inr ⟨s, List.mem_cons_self, by simpa using h⟩
      | cons t texts =>
          rw [String.intercalate_cons_cons, String.toList_append, String.toList_append,
            List.mem_append, List.mem_append] at h
          rcases h with (h | h) | h
          · exact .inr ⟨s, List.mem_cons_self, h⟩
          · exact .inl h
          · rcases ih h with hsep | ⟨u, hu, hc⟩
            · exact .inl hsep
            · exact .inr ⟨u, List.mem_cons_of_mem _ hu, hc⟩

/-- **The pieces of a text are the text**, with the separator between them. -/
theorem intercalate_splitOn (sep : Char) (s : String) :
    String.intercalate (String.ofList [sep]) (splitOn sep s) = s := by
  suffices h : ∀ cs : List Char, String.intercalate (String.ofList [sep])
      ((splitAt (· == sep) cs).map String.ofList) = String.ofList cs by
    rw [splitOn, h, String.ofList_toList]
  intro cs
  induction cs with
  | nil => rfl
  | cons c cs ih =>
      obtain ⟨piece, pieces, hpieces⟩ := List.exists_cons_of_ne_nil (splitAt_ne_nil (· == sep) cs)
      rw [hpieces, List.map_cons] at ih
      by_cases hc : c = sep
      · simp only [splitAt, hc, beq_self_eq_true, if_true, hpieces, List.map_cons,
          String.intercalate_cons_cons, ih]
        rw [← String.ofList_append, ← String.ofList_append]
        rfl
      · simp only [splitAt, beq_eq_false_iff_ne.mpr hc, Bool.false_eq_true, if_false, hpieces,
          List.map_cons]
        have hcons : ∀ ds : List Char, String.ofList (c :: ds) =
            String.ofList [c] ++ String.ofList ds := fun ds => by
          rw [← String.ofList_append]
          rfl
        cases pieces with
        | nil =>
            rw [List.map_nil, String.intercalate_singleton] at ih ⊢
            rw [hcons, ih, ← hcons]
        | cons next pieces =>
            rw [List.map_cons, String.intercalate_cons_cons] at ih ⊢
            rw [hcons, hcons cs, ← ih]
            simp only [String.append_assoc]

/-! ## Words -/

/-- The text is one word. -/
def IsWord (w : String) : Prop := w ≠ "" ∧ ∀ c ∈ w.toList, isBlank c = false

instance (w : String) : Decidable (IsWord w) :=
  @instDecidableAnd _ _ _ (List.decidableBAll _ w.toList)

theorem IsWord.words {w : String} (h : IsWord w) : words w = [w] := by
  have hne : w.toList ≠ [] := fun hnil => h.1 (String.toList_eq_nil_iff.mp hnil)
  simp [Text.words, splitAt_of_none h.2, hne]

/-- The words of a text with a blank in it are those before and those after the blank. -/
theorem words_append_blank (s t : String) (hc : isBlank c = true) :
    words (s ++ String.ofList [c] ++ t) = words s ++ words t := by
  rw [words, String.toList_append, String.toList_append, String.toList_ofList, List.append_assoc,
    List.singleton_append, splitAt_append _ hc, List.filter_append, List.map_append]
  rfl

theorem words_append_space (s t : String) : words (s ++ " " ++ t) = words s ++ words t :=
  words_append_blank s t (by decide)

theorem words_ending_blank (s : String) (hc : isBlank c = true) :
    words (s ++ String.ofList [c]) = words s := by
  have h := words_append_blank s "" hc
  rwa [String.append_empty, show words "" = [] from rfl, List.append_nil] at h

theorem words_append_blanks (s : String) (n : Nat) :
    words (s ++ String.ofList (List.replicate n ' ')) = words s := by
  induction n with
  | zero => simp
  | succ n ih =>
      rw [List.replicate_succ', String.ofList_append, ← String.append_assoc,
        words_ending_blank _ (by decide), ih]

theorem words_intercalate {ws : List String} (h : ∀ w ∈ ws, IsWord w) :
    words (String.intercalate " " ws) = ws := by
  induction ws with
  | nil => rfl
  | cons w ws ih =>
      obtain ⟨hw, hws⟩ := List.forall_mem_cons.mp h
      cases ws with
      | nil => exact hw.words
      | cons v ws =>
          rw [String.intercalate_cons_cons, words_append_space, hw.words, ih hws]
          rfl

/-! ## Lines -/

/-- A line without the carriage return that may stand before its end. -/
def withoutReturn (piece : List Char) : List Char :=
  if piece.getLast? == some '\r' then piece.dropLast else piece

theorem words_withoutReturn (cs : List Char) :
    words (String.ofList (withoutReturn cs)) = words (String.ofList cs) := by
  rw [withoutReturn]
  split
  · rename_i hlast
    obtain ⟨ds, rfl⟩ := List.getLast?_eq_some_iff.mp (eq_of_beq hlast)
    rw [List.dropLast_concat, String.ofList_append, words_ending_blank _ (by decide)]
  · rfl

end OutOfBand.Text
