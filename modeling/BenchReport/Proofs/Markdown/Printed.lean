import BenchReport.Proofs.Markdown.Mark
import BenchReport.Proofs.Markdown.Reading

/-!
# Reading a printed report

What a line of a report is for shows in its text: each kind has a start of its own, whatever names, numbers and headings follow it. Only a row starts as the names of the columns do, and these differ in their ends, since the last cell of a row is a change. So a printed report is sorted into kinds, and cut into sections, by its texts alone, and what they are is what the lines hold, printed.
-/

namespace BenchReport.Markdown

/-- What the text of a line is for. A frame says nothing of a benchmark or a count. -/
inductive Kind where
  | summary
  | verdict
  | heading
  | row
  | added
  | removed
  | frame
  deriving DecidableEq

def columnNames : String := "| Allocator | Param | Base | Head | Change |"

/-- What a text is for, by its start. -/
def kindOf (text : String) : Kind :=
  match text.toList with
  | '*' :: _ => .summary
  | '>' :: _ => .verdict
  | '#' :: '#' :: '#' :: _ => .heading
  | '|' :: ' ' :: _ => if text = columnNames then .frame else .row
  | '-' :: ' ' :: '*' :: _ => .added
  | '-' :: ' ' :: '~' :: _ => .removed
  | _ => .frame

def textsOfKind (kind : Kind) (texts : List String) : List String :=
  texts.filter fun text => kindOf text = kind

/-- The headings of a printed report, each with the texts of the rows down to the next heading. -/
def printedSections : List String → List (String × List String)
  | [] => []
  | text :: rest =>
    if kindOf text = .heading then
      (text, textsOfKind .row (rest.takeWhile fun text => kindOf text ≠ .heading)) ::
        printedSections rest
    else printedSections rest

/-! ### The kind of a line -/

def Line.kind : Line → Kind
  | .summary _ => .summary
  | .verdict _ => .verdict
  | .group _ | .addedHeading | .removedHeading => .heading
  | .row _ => .row
  | .added .. => .added
  | .removed _ => .removed
  | .title | .opening | .columns | .rule | .gap | .closing => .frame

theorem Line.isHeading_iff (line : Line) : line.isHeading = true ↔ line.kind = .heading := by
  cases line <;> simp [Line.isHeading, Line.kind]

section Settings

variable (settings : Settings)

/-- A row ends in a change, which is no word. -/
theorem rowText_ne_columnNames (row : Row) : rowText row settings ≠ columnNames := by
  intro h
  obtain ⟨front, hfront⟩ := rowText_eq row settings
  have hnames : columnNames.toList = "| Allocator | Param | Base | Head | Change".toList ++
      " |".toList := by decide
  rw [h, hnames] at hfront
  have hlast := congrArg List.getLast? (List.append_cancel_right hfront).symm
  rw [List.getLast?_append_of_ne_nil front (changeText_ne_nil _ _), getLast?_changeText] at hlast
  split at hlast <;> [skip; split at hlast] <;> revert hlast <;> decide

theorem kindOf_summaryText (counts : Tally) : kindOf (summaryText counts settings) = .summary := by
  simp only [kindOf, summaryText, String.toList_append]
  rfl

theorem kindOf_verdictText (counts : Tally) : kindOf (verdictText counts settings) = .verdict := by
  rw [verdictText]
  split
  · simp only [kindOf, String.toList_append]
    rfl
  · split
    · rfl
    · simp only [kindOf, String.toList_append]
      rfl

theorem kindOf_rowText (row : Row) : kindOf (rowText row settings) = .row := by
  have hstart : ∃ rest, (rowText row settings).toList = '|' :: ' ' :: rest := by
    unfold rowText
    simp only [String.toList_append]
    exact ⟨_, rfl⟩
  obtain ⟨rest, hrest⟩ := hstart
  simp only [kindOf, hrest]
  exact if_neg (rowText_ne_columnNames settings row)

/-- The kind of a line is told by its text. -/
theorem kindOf_text (line : Line) : kindOf (line.text settings) = line.kind := by
  cases line with
  | summary counts => exact kindOf_summaryText settings counts
  | verdict counts => exact kindOf_verdictText settings counts
  | row found => exact kindOf_rowText settings found
  | title | group name | added name head | removed name =>
      simp only [kindOf, Line.text, String.toList_append]
      rfl
  | opening | columns | rule | gap | addedHeading | removedHeading | closing =>
      simp only [Line.text]
      decide +kernel

/-! ### Texts of a kind -/

/-- The texts of one kind are what the lines of it hold, printed. -/
theorem textsOfKind_map {α : Type} {kind : Kind} {read : Line → Option α} {print : α → String}
    (h : ∀ line, (read line).map print =
      if line.kind = kind then some (line.text settings) else none) (lines : List Line) :
    textsOfKind kind (lines.map (Line.text settings)) = (lines.filterMap read).map print := by
  rw [List.map_filterMap, textsOfKind, ← List.filterMap_eq_filter, List.filterMap_map]
  refine List.filterMap_congr fun line _ => ?_
  simp only [Function.comp_apply, h, kindOf_text, Option.guard, decide_eq_true_eq]

theorem textsOfKind_summary (lines : List Line) :
    textsOfKind .summary (lines.map (Line.text settings)) =
      (lines.filterMap Line.summary?).map fun counts => summaryText counts settings :=
  textsOfKind_map settings (fun line => by cases line <;> rfl) lines

theorem textsOfKind_verdict (lines : List Line) :
    textsOfKind .verdict (lines.map (Line.text settings)) =
      (lines.filterMap Line.verdict?).map fun counts => verdictText counts settings :=
  textsOfKind_map settings (fun line => by cases line <;> rfl) lines

theorem textsOfKind_row (lines : List Line) :
    textsOfKind .row (lines.map (Line.text settings)) =
      (rowsIn lines).map fun row => rowText row settings :=
  textsOfKind_map settings (fun line => by cases line <;> rfl) lines

theorem textsOfKind_added (lines : List Line) :
    textsOfKind .added (lines.map (Line.text settings)) =
      (lines.filterMap Line.added?).map fun (name, head) =>
        "- **" ++ name ++ "**: " ++ settings.profile.unit.text head :=
  textsOfKind_map settings (fun line => by cases line <;> rfl) lines

theorem textsOfKind_removed (lines : List Line) :
    textsOfKind .removed (lines.map (Line.text settings)) =
      (lines.filterMap Line.removed?).map fun name => "- ~~" ++ name ++ "~~" :=
  textsOfKind_map settings (fun line => by cases line <;> rfl) lines

/-! ### Sections -/

theorem takeWhile_text (lines : List Line) :
    (lines.map (Line.text settings)).takeWhile (fun text => kindOf text ≠ .heading) =
      (lines.takeWhile fun line => !line.isHeading).map (Line.text settings) := by
  rw [List.takeWhile_map]
  congr 2
  funext line
  rw [Function.comp_apply, kindOf_text, Bool.eq_iff_iff, decide_eq_true_eq, Bool.not_eq_true',
    ← Bool.not_eq_true, ne_eq, ← Line.isHeading_iff]

/-- The sections of a printed report are those of its lines, printed. -/
theorem printedSections_map (lines : List Line) :
    printedSections (lines.map (Line.text settings)) = (sections lines).map fun (heading, rows) =>
      (heading.text settings, rows.map fun row => rowText row settings) := by
  induction lines with
  | nil => rfl
  | cons line rest ih =>
      rw [List.map_cons, printedSections, sections, kindOf_text]
      by_cases hheading : line.isHeading = true
      · rw [if_pos ((Line.isHeading_iff line).1 hheading), if_pos hheading, takeWhile_text,
          textsOfKind_row, ih]
        rfl
      · rw [if_neg (mt (Line.isHeading_iff line).2 hheading), if_neg hheading, ih]

end Settings

end BenchReport.Markdown
