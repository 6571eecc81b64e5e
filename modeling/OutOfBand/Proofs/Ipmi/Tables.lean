import OutOfBand.Ipmi.Listing
import OutOfBand.Proofs.Text.Cutting

/-!
# Tables line by line

The tables of the tool are read line by line. What a text is followed by adds to what is read of it
and changes nothing (`tables_line_by_line`), whatever either text holds, so a line that is no record
has no influence on the others. This hangs on two things only: nothing is read of a line without
characters, and the carriage return that may belong to the end of a line makes no difference to what
is read (`ReadsLines`). So it does not matter that the last line is ended in another way.
-/

namespace OutOfBand.Ipmi

variable {α : Type} {read : String → Option α}

/-- What is read of a line does not hang on how the line is ended. -/
structure ReadsLines (read : String → Option α) : Prop where
  empty : read "" = none
  withoutReturn : ∀ line : List Char,
    read (String.ofList (Text.withoutReturn line)) = read (String.ofList line)

/-- Then what is read of a text is what is read of the pieces between its line feeds. -/
theorem ReadsLines.filterMap_lines (h : ReadsLines read) (s : String) :
    (Text.lines s).filterMap read = (Text.splitOn '\n' s).filterMap read := by
  obtain ⟨ended, rest, hpieces⟩ := (List.eq_nil_or_concat _).resolve_left
    (Text.splitAt_ne_nil (· == '\n') s.toList)
  have hended : (ended.map Text.withoutReturn).filterMap (read ∘ String.ofList) =
      ended.filterMap (read ∘ String.ofList) := by
    have hread : (read ∘ String.ofList) ∘ Text.withoutReturn = read ∘ String.ofList := by
      funext line
      exact h.withoutReturn line
    rw [List.filterMap_map, hread]
  have hlines : Text.lines s = (ended.map Text.withoutReturn ++
      if rest.isEmpty then [] else [rest]).map String.ofList := by
    simp only [Text.lines, hpieces, List.concat_eq_append, List.dropLast_concat,
      List.getLast?_concat]
    cases rest <;> rfl
  rw [hlines, Text.splitOn, hpieces, List.concat_eq_append, List.filterMap_map, List.filterMap_map,
    List.filterMap_append, List.filterMap_append, hended]
  cases rest with
  | nil => simp [h.empty]
  | cons c cs => rfl

/-- Of a text in one line nothing is read but what the line shows. -/
theorem ReadsLines.filterMap_line (h : ReadsLines read) {line : String}
    (hline : '\n' ∉ line.toList) : (Text.lines line).filterMap read = (read line).toList := by
  have hsplit := Text.splitOn_intercalate (List.cons_ne_nil line [])
    (List.forall_mem_singleton.mpr hline)
  rw [String.intercalate_singleton] at hsplit
  rw [h.filterMap_lines, hsplit, List.filterMap_cons, List.filterMap_nil]
  cases read line <;> rfl

/-! ## The readers of lines -/

theorem columns_withoutReturn (line : List Char) :
    columns (String.ofList (Text.withoutReturn line)) = columns (String.ofList line) := by
  rw [Text.withoutReturn]
  split
  · next hreturn =>
      obtain ⟨cs, rfl⟩ := List.getLast?_eq_some_iff.mp (eq_of_beq hreturn)
      obtain ⟨before, last, hcs, hline⟩ :=
        Text.splitAt_concat (p := (· == '|')) cs (c := '\r') (by decide)
      have htrim := Text.trim_ending_blank last (c := '\r') (by decide)
      rw [List.dropLast_concat, columns, columns, Text.splitOn, Text.splitOn, String.toList_ofList,
        String.toList_ofList, hcs, hline]
      simp only [List.map_append, List.map_cons, List.map_nil, htrim]
  · rfl

theorem readsLines_slotOfLine : ReadsLines slotOfLine where
  empty := rfl
  withoutReturn line := by rw [slotOfLine, Text.words_withoutReturn, slotOfLine]

theorem readsLines_eventOfLine : ReadsLines eventOfLine where
  empty := rfl
  withoutReturn line := by rw [eventOfLine, columns_withoutReturn, eventOfLine]

theorem readsLines_readingOfLine : ReadsLines readingOfLine where
  empty := rfl
  withoutReturn line := by rw [readingOfLine, columns_withoutReturn, readingOfLine]

/-! ## Whole tables -/

/-- What is read of a text is read line by line. -/
structure LineByLine (parse : String → List α) : Prop where
  empty : parse "" = []
  append : ∀ a b, parse (a ++ "\n" ++ b) = parse a ++ parse b

theorem ReadsLines.lineByLine (h : ReadsLines read) :
    LineByLine fun table => (Text.lines table).filterMap read where
  empty := rfl
  append a b := by
    rw [h.filterMap_lines, h.filterMap_lines, h.filterMap_lines, ← List.filterMap_append,
      ← Text.splitOn_append]

theorem LineByLine.filter {parse : String → List α} (h : LineByLine parse) (p : α → Bool) :
    LineByLine fun table => (parse table).filter p where
  empty := by rw [h.empty, List.filter_nil]
  append a b := by rw [h.append, List.filter_append]

/-- Any number of texts can be read one by one. -/
theorem LineByLine.intercalate {parse : String → List α} (h : LineByLine parse)
    (texts : List String) :
    parse (String.intercalate "\n" texts) = texts.flatMap parse := by
  induction texts with
  | nil => exact h.empty
  | cons s texts ih =>
      cases texts with
      | nil => simp
      | cons t texts =>
          rw [String.intercalate_cons_cons, h.append, ih]
          rfl

/-- So can texts that are ended one by one. -/
theorem LineByLine.ended {parse : String → List α} (h : LineByLine parse) (texts : List String) :
    parse (String.join (texts.map (· ++ "\n"))) = texts.flatMap parse := by
  induction texts with
  | nil => exact h.empty
  | cons s texts ih => rw [List.map_cons, String.join_cons, h.append, ih, List.flatMap_cons]

/-- Of texts in one line each is read what each line shows. -/
theorem ReadsLines.flatMap_lines (h : ReadsLines read) {lines : List String}
    (hlines : ∀ line ∈ lines, '\n' ∉ line.toList) :
    (lines.flatMap fun line => (Text.lines line).filterMap read) = lines.filterMap read := by
  induction lines with
  | nil => rfl
  | cons line lines ih =>
      obtain ⟨hline, hlines⟩ := List.forall_mem_cons.mp hlines
      rw [List.flatMap_cons, h.filterMap_line hline, ih hlines, List.filterMap_cons]
      cases read line <;> rfl

/-- What is no record is passed over, wherever it stands. -/
theorem LineByLine.pass {parse : String → List α} (h : LineByLine parse) {junk : String}
    (hjunk : parse junk = []) (a b : String) :
    parse (a ++ "\n" ++ junk ++ "\n" ++ b) = parse (a ++ "\n" ++ b) := by
  rw [h.append, h.append, h.append, hjunk, List.append_nil]

/-- **Tables are read line by line**: of two texts with a line feed between them what is read is
what is read of the one and then what is read of the other, whatever they hold. So it is for any
number of texts, and texts of which nothing is read can be left out. -/
theorem tables_line_by_line :
    (∀ a b, slotsOf (a ++ "\n" ++ b) = slotsOf a ++ slotsOf b ∧
      usersOf (a ++ "\n" ++ b) = usersOf a ++ usersOf b ∧
      eventsOf (a ++ "\n" ++ b) = eventsOf a ++ eventsOf b ∧
      readingsOf (a ++ "\n" ++ b) = readingsOf a ++ readingsOf b) ∧
    (∀ texts, slotsOf (String.intercalate "\n" texts) = texts.flatMap slotsOf ∧
      usersOf (String.intercalate "\n" texts) = texts.flatMap usersOf ∧
      eventsOf (String.intercalate "\n" texts) = texts.flatMap eventsOf ∧
      readingsOf (String.intercalate "\n" texts) = texts.flatMap readingsOf) ∧
    ∀ a junk b,
      (slotsOf junk = [] → slotsOf (a ++ "\n" ++ junk ++ "\n" ++ b) = slotsOf (a ++ "\n" ++ b)) ∧
      (usersOf junk = [] → usersOf (a ++ "\n" ++ junk ++ "\n" ++ b) = usersOf (a ++ "\n" ++ b)) ∧
      (eventsOf junk = [] → eventsOf (a ++ "\n" ++ junk ++ "\n" ++ b) = eventsOf (a ++ "\n" ++ b)) ∧
      (readingsOf junk = [] →
        readingsOf (a ++ "\n" ++ junk ++ "\n" ++ b) = readingsOf (a ++ "\n" ++ b)) := by
  have hslots : LineByLine slotsOf := readsLines_slotOfLine.lineByLine
  have husers : LineByLine usersOf := hslots.filter fun u => u.name != ""
  have hevents : LineByLine eventsOf := readsLines_eventOfLine.lineByLine
  have hreadings : LineByLine readingsOf := readsLines_readingOfLine.lineByLine
  refine ⟨fun a b => ?_, fun texts => ?_, fun a junk b => ?_⟩
  · exact ⟨hslots.append a b, husers.append a b, hevents.append a b, hreadings.append a b⟩
  · exact ⟨hslots.intercalate texts, husers.intercalate texts, hevents.intercalate texts,
      hreadings.intercalate texts⟩
  · exact ⟨fun hjunk => hslots.pass hjunk a b, fun hjunk => husers.pass hjunk a b,
      fun hjunk => hevents.pass hjunk a b, fun hjunk => hreadings.pass hjunk a b⟩

end OutOfBand.Ipmi
