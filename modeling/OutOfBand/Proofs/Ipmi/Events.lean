import Mathlib.Data.List.Forall2
import OutOfBand.Proofs.Ipmi.Tables

/-!
# Reading back the event log

The tool prints an event on a line of its own: its number, date and time, what it is about, and one
or more fields that say what happened. Bars stand between the fields, and blanks around them as the
tool likes. Whatever else it prints has fewer fields, so the events are read back from the log.

`IsLog events log` holds if `log` is one of the ways to print `events`. Reading is the inverse of it:
what is read of a log are its events, and every text is a log of some events
(`event_log_read_back`), so this tells what is read of any text.
-/

namespace OutOfBand.Ipmi

/-! ## What the tool prints -/

/-- The text of one field. It may be empty. -/
structure Cell where
  text : String
  noBar : '|' ∉ text.toList
  oneLine : '\n' ∉ text.toList
  trimmed : Text.IsTrimmed text

/-- An event as the controller has it. -/
structure LoggedEvent where
  id : Cell
  date : Cell
  time : Cell
  description : Cell
  message : Cell
  /-- The fields that the message has after its first one. -/
  more : List Cell

namespace LoggedEvent

/-- The fields in the order of their columns. -/
def cells (e : LoggedEvent) : List Cell :=
  e.id :: e.date :: e.time :: e.description :: e.message :: e.more

/-- The event as it is told. -/
def entry (e : LoggedEvent) : EventLogEntry where
  id := e.id.text
  timestamp := e.date.text ++ " " ++ e.time.text
  description := e.description.text
  message := String.intercalate " | " ((e.message :: e.more).map Cell.text)

end LoggedEvent

/-- A blank that can stand within a line. -/
def isGap (c : Char) : Bool := Text.isBlank c && c != '\n'

/-- What stands between two bars has the field in it, with any blanks around the field. -/
def Cell.Fills (cell : Cell) (piece : String) : Prop := Text.Padded isGap cell.text piece

/-- The line shows the event, its fields with bars between them. -/
def LoggedEvent.ShownBy (e : LoggedEvent) (line : String) : Prop :=
  ∃ pieces, List.Forall₂ Cell.Fills e.cells pieces ∧ line = String.intercalate "|" pieces

/-- The number of fields of a line: one more than it has bars. -/
def fieldCount (line : String) : Nat := line.toList.count '|' + 1

/-- The lines show the events one by one, with any lines of fewer than five fields among them. -/
inductive Logs : List LoggedEvent → List String → Prop
  | nil : Logs [] []
  | event {e : LoggedEvent} {line : String} {events : List LoggedEvent} {lines : List String} :
      e.ShownBy line → Logs events lines → Logs (e :: events) (line :: lines)
  | other {line : String} {events : List LoggedEvent} {lines : List String} :
      '\n' ∉ line.toList → fieldCount line < 5 → Logs events lines → Logs events (line :: lines)

/-- The text is a log of the events; its last line may be ended or not. -/
def IsLog (events : List LoggedEvent) (log : String) : Prop :=
  ∃ lines, Logs events lines ∧
    (log = String.intercalate "\n" lines ∨ log = String.join (lines.map (· ++ "\n")))

variable {cell : Cell} {cells : List Cell} {piece line log : String} {pieces lines : List String}
  {e : LoggedEvent} {events : List LoggedEvent}

/-! ## Fields -/

theorem isBlank_of_isGap {c : Char} (h : isGap c = true) : Text.isBlank c = true :=
  (Bool.and_eq_true_iff.mp h).1

theorem Cell.Fills.trim_eq (h : cell.Fills piece) : Text.trim piece = cell.text :=
  (Text.Padded.imp h fun _ _ => isBlank_of_isGap).trim_eq cell.trimmed

theorem Cell.Fills.noBar (h : cell.Fills piece) : '|' ∉ piece.toList := by
  intro hmem
  rcases Text.Padded.mem_or h hmem with htext | hgap
  · exact cell.noBar htext
  · cases hgap

theorem Cell.Fills.oneLine (h : cell.Fills piece) : '\n' ∉ piece.toList := by
  intro hmem
  rcases Text.Padded.mem_or h hmem with htext | hgap
  · exact cell.oneLine htext
  · cases hgap

theorem Cell.fills (cell : Cell) (before behind : List Char)
    (h : (before ++ behind).all isGap = true) :
    cell.Fills (String.ofList before ++ cell.text ++ String.ofList behind) :=
  ⟨before, behind, List.all_eq_true.mp h, rfl⟩

/-- Whatever stands between two bars of a line is a field with blanks around it. -/
theorem exists_cell (hbar : '|' ∉ piece.toList) (hline : '\n' ∉ piece.toList) :
    ∃ cell : Cell, cell.Fills piece := by
  have hpadded := Text.padded_trim piece
  have hmem : ∀ c ∈ (Text.trim piece).toList, c ∈ piece.toList := fun c hc => hpadded.mem hc
  -- of blanks only an empty field is left
  refine ⟨⟨Text.trim piece, ?noBar, ?oneLine, Text.isTrimmed_trim piece⟩, ?fills⟩
  case noBar => exact fun h => hbar (hmem _ h)
  case oneLine => exact fun h => hline (hmem _ h)
  case fills =>
    apply hpadded.imp
    intro c hc hblank
    have hne : c ≠ '\n' := by
      rintro rfl
      exact hline hc
    rw [isGap, hblank, bne_iff_ne.mpr hne]
    rfl

theorem exists_cells (hbar : ∀ t ∈ pieces, '|' ∉ t.toList)
    (hline : ∀ t ∈ pieces, '\n' ∉ t.toList) : ∃ cells, List.Forall₂ Cell.Fills cells pieces := by
  induction pieces with
  | nil => exact ⟨[], .nil⟩
  | cons piece pieces ih =>
      obtain ⟨hbarHere, hbar⟩ := List.forall_mem_cons.mp hbar
      obtain ⟨hlineHere, hline⟩ := List.forall_mem_cons.mp hline
      obtain ⟨cell, hcell⟩ := exists_cell hbarHere hlineHere
      obtain ⟨cells, hcells⟩ := ih hbar hline
      exact ⟨cell :: cells, .cons hcell hcells⟩

theorem forall_mem_of_fills {P : String → Prop} (h : List.Forall₂ Cell.Fills cells pieces)
    (hP : ∀ cell piece, Cell.Fills cell piece → P piece) : ∀ t ∈ pieces, P t := by
  induction h with
  | nil => simp
  | cons hcell _ ih => exact List.forall_mem_cons.mpr ⟨hP _ _ hcell, ih⟩

theorem map_trim_of_fills (h : List.Forall₂ Cell.Fills cells pieces) :
    pieces.map Text.trim = cells.map Cell.text := by
  induction h with
  | nil => rfl
  | cons hcell _ ih => rw [List.map_cons, List.map_cons, hcell.trim_eq, ih]

/-! ## Lines -/

theorem length_columns (line : String) : (columns line).length = fieldCount line := by
  rw [columns, List.length_map, Text.length_splitOn, fieldCount]

namespace LoggedEvent.ShownBy

theorem oneLine (h : e.ShownBy line) : '\n' ∉ line.toList := by
  obtain ⟨pieces, hfills, rfl⟩ := h
  intro hmem
  rcases Text.mem_intercalate hmem with hbar | ⟨t, ht, hmem⟩
  · cases List.mem_singleton.mp hbar
  · exact forall_mem_of_fills hfills (fun _ _ hcell => hcell.oneLine) t ht hmem

theorem columns_eq (h : e.ShownBy line) : columns line = e.cells.map Cell.text := by
  obtain ⟨pieces, hfills, rfl⟩ := h
  have hne : pieces ≠ [] := by
    rintro rfl
    cases hfills
  have hsplit := Text.splitOn_intercalate hne
    (forall_mem_of_fills hfills fun _ _ hcell => hcell.noBar)
  rw [columns, show "|" = String.ofList ['|'] from rfl, hsplit, map_trim_of_fills hfills]

/-- **A line that shows an event is read as the event.** -/
theorem read (h : e.ShownBy line) : eventOfLine line = some e.entry := by
  rw [eventOfLine, h.columns_eq]
  rfl

end LoggedEvent.ShownBy

/-- Any other line is passed over. -/
theorem eventOfLine_of_few (h : fieldCount line < 5) : eventOfLine line = none := by
  rw [← length_columns] at h
  unfold eventOfLine
  split
  · next hcolumns =>
      rw [hcolumns] at h
      simp only [List.length_cons] at h
      omega
  · rfl

theorem exists_cells_eq (h : 5 ≤ cells.length) : ∃ e : LoggedEvent, e.cells = cells := by
  rcases cells with _ | ⟨id, _ | ⟨date, _ | ⟨time, _ | ⟨description, _ | ⟨message, more⟩⟩⟩⟩⟩
  case cons.cons.cons.cons.cons => exact ⟨⟨id, date, time, description, message, more⟩, rfl⟩
  all_goals simp at h

/-- A line with at least five fields shows some event. -/
theorem exists_shownBy (hline : '\n' ∉ line.toList) (hcount : 5 ≤ fieldCount line) :
    ∃ e : LoggedEvent, e.ShownBy line := by
  have hbar : ∀ t ∈ Text.splitOn '|' line, '|' ∉ t.toList :=
    fun t ht hmem => (Text.of_mem_splitOn ht _ hmem).2 rfl
  have hlines : ∀ t ∈ Text.splitOn '|' line, '\n' ∉ t.toList :=
    fun t ht hmem => hline (Text.of_mem_splitOn ht _ hmem).1
  obtain ⟨cells, hfills⟩ := exists_cells hbar hlines
  have hlength : 5 ≤ cells.length := by
    rwa [hfills.length_eq, Text.length_splitOn, ← fieldCount]
  obtain ⟨e, rfl⟩ := exists_cells_eq hlength
  exact ⟨e, _, hfills, (Text.intercalate_splitOn '|' line).symm⟩

/-! ## Logs -/

theorem Logs.oneLine (h : Logs events lines) : ∀ line ∈ lines, '\n' ∉ line.toList := by
  induction h with
  | nil => simp
  | event hline _ ih => exact List.forall_mem_cons.mpr ⟨hline.oneLine, ih⟩
  | other hline _ _ ih => exact List.forall_mem_cons.mpr ⟨hline, ih⟩

theorem Logs.filterMap (h : Logs events lines) :
    lines.filterMap eventOfLine = events.map LoggedEvent.entry := by
  induction h with
  | nil => rfl
  | event hline _ ih => rw [List.filterMap_cons_some hline.read, ih, List.map_cons]
  | other _ hfew _ ih => rw [List.filterMap_cons_none (eventOfLine_of_few hfew), ih]

/-- Lines of any kind show some events. -/
theorem exists_logs (hlines : ∀ line ∈ lines, '\n' ∉ line.toList) :
    ∃ events, Logs events lines := by
  induction lines with
  | nil => exact ⟨[], .nil⟩
  | cons line lines ih =>
      obtain ⟨hline, hlines⟩ := List.forall_mem_cons.mp hlines
      obtain ⟨events, hlogs⟩ := ih hlines
      by_cases hfew : fieldCount line < 5
      · exact ⟨events, .other hline hfew hlogs⟩
      · obtain ⟨e, he⟩ := exists_shownBy hline (Nat.le_of_not_lt hfew)
        exact ⟨e :: events, .event he hlogs⟩

/-! ## A short log -/

def Cell.ofText (s : String) (h : '|' ∉ s.toList ∧ '\n' ∉ s.toList ∧ Text.IsTrimmed s) : Cell :=
  ⟨s, h.1, h.2.1, h.2.2⟩

def powerLost : LoggedEvent :=
  ⟨.ofText "1" (by decide), .ofText "01/02/2026" (by decide), .ofText "10:00:00" (by decide),
    .ofText "Power Unit #0x01" (by decide), .ofText "Power off/down" (by decide),
    [.ofText "Asserted" (by decide)]⟩

/-- An event without a time, with empty fields in its message. -/
def fanFailed : LoggedEvent :=
  ⟨.ofText "2a" (by decide), .ofText "Pre-Init" (by decide), .ofText "" (by decide),
    .ofText "Fan" (by decide), .ofText "" (by decide),
    [.ofText "Lower Critical" (by decide), .ofText "" (by decide)]⟩

def powerLostLine : String :=
  "   1 | 01/02/2026 | 10:00:00 | Power Unit #0x01 | Power off/down | Asserted\r"

def fanFailedLine : String := "2a|Pre-Init |\t|Fan|| Lower Critical |  "

/-- A line that lacks one field to be an event. -/
def headLine : String := "Event log | bmc.local | 01/02/2026 | 2 entries"

def shortLog : String := headLine ++ "\n" ++ powerLostLine ++ "\n\n" ++ fanFailedLine

theorem powerLost_shown : powerLost.ShownBy powerLostLine :=
  ⟨_, .cons (Cell.fills _ [' ', ' ', ' '] [' '] rfl) (.cons (Cell.fills _ [' '] [' '] rfl)
    (.cons (Cell.fills _ [' '] [' '] rfl) (.cons (Cell.fills _ [' '] [' '] rfl)
      (.cons (Cell.fills _ [' '] [' '] rfl) (.cons (Cell.fills _ [' '] ['\r'] rfl) .nil))))),
    by decide⟩

theorem fanFailed_shown : fanFailed.ShownBy fanFailedLine :=
  ⟨_, .cons (Cell.fills _ [] [] rfl) (.cons (Cell.fills _ [] [' '] rfl)
    (.cons (Cell.fills _ ['\t'] [] rfl) (.cons (Cell.fills _ [] [] rfl)
      (.cons (Cell.fills _ [] [] rfl) (.cons (Cell.fills _ [' '] [' '] rfl)
        (.cons (Cell.fills _ [' '] [' '] rfl) .nil)))))), by decide⟩

theorem isLog_shortLog : IsLog [powerLost, fanFailed] shortLog := by
  refine ⟨[headLine, powerLostLine, "", fanFailedLine], ?_, .inl (by decide +kernel)⟩
  apply Logs.other (by decide) (by decide)
  apply Logs.event powerLost_shown
  apply Logs.other (by decide) (by decide)
  exact .event fanFailed_shown .nil

/-! ## Reading -/

/-- **The event log is read back**: of a log of any events, whatever blanks stand around their
fields and whatever lines of fewer fields stand between them, just these events are read, in order.
Every text is a log of some events. -/
theorem event_log_read_back :
    (∀ events log, IsLog events log → eventsOf log = events.map LoggedEvent.entry) ∧
      ∀ log, ∃ events, IsLog events log := by
  have hread := readsLines_eventOfLine
  constructor
  · rintro events log ⟨lines, hlogs, htext⟩
    -- lines have no line feed of their own, so each is read as a whole
    calc eventsOf log
        = lines.flatMap eventsOf := by
          rcases htext with rfl | rfl
          · exact hread.lineByLine.intercalate lines
          · exact hread.lineByLine.ended lines
      _ = lines.filterMap eventOfLine := hread.flatMap_lines hlogs.oneLine
      _ = events.map LoggedEvent.entry := hlogs.filterMap
  · intro log
    have hlines : ∀ line ∈ Text.splitOn '\n' log, '\n' ∉ line.toList :=
      fun line hline hmem => (Text.of_mem_splitOn hline _ hmem).2 rfl
    obtain ⟨events, hlogs⟩ := exists_logs hlines
    exact ⟨events, _, hlogs, .inl (Text.intercalate_splitOn '\n' log).symm⟩

theorem event_log_read_back_of_two : IsLog [powerLost, fanFailed] shortLog ∧ eventsOf shortLog =
    [⟨"1", "01/02/2026 10:00:00", "Power Unit #0x01", "Power off/down | Asserted"⟩,
      ⟨"2a", "Pre-Init ", "Fan", " | Lower Critical | "⟩] :=
  ⟨isLog_shortLog, (event_log_read_back.1 _ _ isLog_shortLog).trans (by decide)⟩

end OutOfBand.Ipmi
