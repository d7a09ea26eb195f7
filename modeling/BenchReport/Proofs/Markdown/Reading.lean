import BenchReport.Markdown
import BenchReport.Proofs.SortedMap

/-!
# Reading a report

The lines of a report are read back as rows, bullets and lines of counts, and as sections: a heading with the rows down to the next heading, so what ends up under which heading is told by the lines alone. The sections are the rows cut by group: groups need not be contiguous in name order, but rows in name order stay so within a group, and all sections together are a permutation of the rows.
-/

namespace BenchReport.Markdown

open SortedMap

/-! ### Reading the lines -/

namespace Line

def row? : Line → Option Row
  | .row found => some found
  | _ => none

def added? : Line → Option (String × Float)
  | .added name head => some (name, head)
  | _ => none

def removed? : Line → Option String
  | .removed name => some name
  | _ => none

/-- The counts of a summary. -/
def summary? : Line → Option Tally
  | .summary counts => some counts
  | _ => none

/-- The counts that a verdict is made of. -/
def verdict? : Line → Option Tally
  | .verdict counts => some counts
  | _ => none

def isHeading : Line → Bool
  | .group _ | .addedHeading | .removedHeading => true
  | _ => false

/-- Whether a line says nothing about a benchmark or a count. -/
def isFrame : Line → Bool
  | .summary _ | .verdict _ | .row _ | .added .. | .removed _ => false
  | _ => true

end Line

def rowsIn (lines : List Line) : List Row := lines.filterMap Line.row?

/-- The rows before the next heading. -/
def rowsAhead (lines : List Line) : List Row := rowsIn (lines.takeWhile fun line => !line.isHeading)

/-- The headings, each with the rows under it. -/
def sections : List Line → List (Line × List Row)
  | [] => []
  | line :: rest =>
    if line.isHeading then (line, rowsAhead rest) :: sections rest else sections rest

/-! ### What the lines hold -/

section Lines

variable (deltas : List Delta) (settings : Settings)

theorem filterMap_underHeading {γ : Type} {read : Line → Option γ} {heading : Line}
    (hheading : read heading = none) (hgap : read .gap = none) (lines : List Line) :
    (underHeading heading lines).filterMap read = lines.filterMap read := by
  rw [underHeading]
  split
  · rename_i hnone
    rw [List.isEmpty_iff.1 hnone]
  · rw [List.cons_append, List.filterMap_cons_none hheading, List.filterMap_append,
      List.filterMap_cons_none hgap, List.filterMap_nil, List.append_nil]

theorem filterMap_groupLines {γ : Type} {read : Line → Option γ}
    (hframe : ∀ line, line.isFrame = true → read line = none) (rows : List Row) (group : String) :
    (groupLines rows group).filterMap read =
      (rowsOf rows group).filterMap fun row => read (.row row) := by
  rw [groupLines, List.filterMap_append, List.filterMap_append, List.filterMap_map]
  simp [hframe (.group group) rfl, hframe .columns rfl, hframe .rule rfl, hframe .gap rfl]

theorem filterMap_addedLine_eq_nil {γ : Type} {read : Line → Option γ}
    (h : ∀ name head, read (.added name head) = none) :
    (deltas.filterMap addedLine?).filterMap read = [] := by
  rw [List.filterMap_filterMap, List.filterMap_eq_nil_iff]
  intro delta _
  cases delta with
  | added name head => exact h name head
  | _ => rfl

theorem filterMap_removedLine_eq_nil {γ : Type} {read : Line → Option γ}
    (h : ∀ name, read (.removed name) = none) :
    (deltas.filterMap removedLine?).filterMap read = [] := by
  rw [List.filterMap_filterMap, List.filterMap_eq_nil_iff]
  intro delta _
  cases delta with
  | removed name base => exact h name
  | _ => rfl

/-- What is read off the lines of a report, apart from its frame. -/
theorem filterMap_lines {γ : Type} {read : Line → Option γ}
    (hframe : ∀ line, line.isFrame = true → read line = none) :
    (lines deltas settings).filterMap read =
      (read (.summary (Tally.ofDeltas deltas settings.tracks))).toList ++
        (read (.verdict (Tally.ofDeltas deltas settings.tracks))).toList ++
        ((groupsOf (deltas.filterMap Row.ofDelta?)).flatMap
          (rowsOf (deltas.filterMap Row.ofDelta?))).filterMap (fun row => read (.row row)) ++
        (deltas.filterMap addedLine?).filterMap read ++
        (deltas.filterMap removedLine?).filterMap read := by
  have hstart (counts : Tally) :
      [Line.title, .summary counts, .verdict counts, .opening].filterMap read =
        (read (.summary counts)).toList ++ (read (.verdict counts)).toList := by
    cases hsummary : read (.summary counts) <;> cases hverdict : read (.verdict counts) <;>
      simp [hsummary, hverdict, hframe .title rfl, hframe .opening rfl]
  have hend : [Line.closing].filterMap read = [] := List.filterMap_cons_none (hframe .closing rfl)
  rw [lines]
  simp only [List.filterMap_append, List.filterMap_flatMap, filterMap_groupLines hframe,
    filterMap_underHeading (hframe .addedHeading rfl) (hframe .gap rfl),
    filterMap_underHeading (hframe .removedHeading rfl) (hframe .gap rfl), hstart, hend,
    List.append_nil]

theorem rowsIn_lines :
    rowsIn (lines deltas settings) =
      (groupsOf (deltas.filterMap Row.ofDelta?)).flatMap
        (rowsOf (deltas.filterMap Row.ofDelta?)) := by
  have hframe (line : Line) (h : line.isFrame = true) : line.row? = none := by
    cases line <;> first | rfl | cases h
  rw [rowsIn, filterMap_lines _ _ hframe, filterMap_addedLine_eq_nil _ fun _ _ => rfl,
    filterMap_removedLine_eq_nil _ fun _ => rfl]
  simp [Line.row?]

theorem filterMap_added?_lines :
    (lines deltas settings).filterMap Line.added? =
      deltas.filterMap fun delta => (addedLine? delta).bind Line.added? := by
  have hframe (line : Line) (h : line.isFrame = true) : line.added? = none := by
    cases line <;> first | rfl | cases h
  rw [filterMap_lines _ _ hframe, filterMap_removedLine_eq_nil _ fun _ => rfl,
    List.filterMap_filterMap]
  simp [Line.added?]

theorem filterMap_removed?_lines :
    (lines deltas settings).filterMap Line.removed? =
      deltas.filterMap fun delta => (removedLine? delta).bind Line.removed? := by
  have hframe (line : Line) (h : line.isFrame = true) : line.removed? = none := by
    cases line <;> first | rfl | cases h
  rw [filterMap_lines _ _ hframe, filterMap_addedLine_eq_nil _ fun _ _ => rfl,
    List.filterMap_filterMap]
  simp [Line.removed?]

theorem filterMap_summary?_lines :
    (lines deltas settings).filterMap Line.summary? = [Tally.ofDeltas deltas settings.tracks] := by
  have hframe (line : Line) (h : line.isFrame = true) : line.summary? = none := by
    cases line <;> first | rfl | cases h
  rw [filterMap_lines _ _ hframe, filterMap_addedLine_eq_nil _ fun _ _ => rfl,
    filterMap_removedLine_eq_nil _ fun _ => rfl]
  simp [Line.summary?]

theorem filterMap_verdict?_lines :
    (lines deltas settings).filterMap Line.verdict? = [Tally.ofDeltas deltas settings.tracks] := by
  have hframe (line : Line) (h : line.isFrame = true) : line.verdict? = none := by
    cases line <;> first | rfl | cases h
  rw [filterMap_lines _ _ hframe, filterMap_addedLine_eq_nil _ fun _ _ => rfl,
    filterMap_removedLine_eq_nil _ fun _ => rfl]
  simp [Line.verdict?]

/-! ### Sections -/

/-- What stands under the heading of a group. -/
def tableLines (found : List Row) : List Line := [.columns, .rule] ++ found.map .row ++ [.gap]

theorem groupLines_eq (rows : List Row) (group : String) :
    groupLines rows group = .group group :: tableLines (rowsOf rows group) := rfl

theorem isHeading_of_mem_tableLines {found : List Row} {line : Line} (h : line ∈ tableLines found) :
    line.isHeading = false := by
  rw [tableLines, List.mem_append, List.mem_append] at h
  rcases h with (h | h) | h
  · revert line
    decide
  · obtain ⟨row, _, rfl⟩ := List.mem_map.1 h
    rfl
  · rw [List.mem_singleton.1 h]
    rfl

theorem rowsIn_tableLines (found : List Row) : rowsIn (tableLines found) = found := by
  have hrows : (found.map Line.row).filterMap Line.row? = found := by
    rw [List.filterMap_map]
    exact List.filterMap_some
  rw [rowsIn, tableLines, List.filterMap_append, List.filterMap_append, hrows]
  exact List.append_nil found

theorem rowsAhead_tableLines (found : List Row) (rest : List Line) :
    rowsAhead (tableLines found ++ rest) = found ++ rowsAhead rest := by
  have hplain : ∀ line ∈ tableLines found, (!line.isHeading) = true := fun line hline => by
    rw [isHeading_of_mem_tableLines hline]
    rfl
  rw [rowsAhead, List.takeWhile_append_of_pos hplain, rowsIn, List.filterMap_append]
  exact congrArg (· ++ _) (rowsIn_tableLines found)

theorem rowsAhead_groups (rows : List Row) (groups : List String) {tail : List Line}
    (htail : rowsAhead tail = []) :
    rowsAhead (groups.flatMap (groupLines rows) ++ tail) = [] := by
  cases groups with
  | nil => exact htail
  | cons group rest => rfl

theorem sections_of_no_heading {front : List Line} (h : ∀ line ∈ front, line.isHeading = false)
    (rest : List Line) : sections (front ++ rest) = sections rest := by
  induction front with
  | nil => rfl
  | cons line front ih =>
      rw [List.forall_mem_cons] at h
      rw [List.cons_append, sections, h.1]
      exact ih h.2

theorem rowsAhead_of_no_row {lines : List Line} (h : ∀ line ∈ lines, line.row? = none) :
    rowsAhead lines = [] :=
  List.filterMap_eq_nil_iff.2 fun line hline => h line ((List.takeWhile_sublist _).subset hline)

theorem sections_of_no_row {lines : List Line} (h : ∀ line ∈ lines, line.row? = none) :
    sections lines = (lines.filter Line.isHeading).map fun heading => (heading, []) := by
  induction lines with
  | nil => rfl
  | cons line rest ih =>
      rw [List.forall_mem_cons] at h
      rw [sections, ih h.2, List.filter_cons, rowsAhead_of_no_row h.2]
      split <;> rfl

theorem sections_groups (rows : List Row) (groups : List String) {tail : List Line}
    (hrows : rowsAhead tail = []) :
    sections (groups.flatMap (groupLines rows) ++ tail) =
      groups.map (fun group => (.group group, rowsOf rows group)) ++ sections tail := by
  induction groups with
  | nil => rfl
  | cons group groups ih =>
      rw [List.flatMap_cons, List.append_assoc, groupLines_eq, List.cons_append, sections,
        rowsAhead_tableLines, rowsAhead_groups rows groups hrows,
        sections_of_no_heading fun _ => isHeading_of_mem_tableLines, ih, List.append_nil]
      rfl

theorem filter_underHeading {heading : Line} (hheading : heading.isHeading = true)
    {lines : List Line} (hlines : ∀ line ∈ lines, line.isHeading = false) :
    (underHeading heading lines).filter Line.isHeading = if lines.isEmpty then [] else [heading] := by
  have hnone : lines.filter Line.isHeading = [] :=
    List.filter_eq_nil_iff.2 fun line hline => Bool.eq_false_iff.1 (hlines line hline)
  have hgap : [Line.gap].filter Line.isHeading = [] := rfl
  rw [underHeading]
  split
  · rfl
  · rw [List.cons_append, List.filter_cons_of_pos hheading, List.filter_append, hnone, hgap]
    rfl

/-- What stands below the tables. -/
def tailLines (deltas : List Delta) : List Line :=
  underHeading .addedHeading (deltas.filterMap addedLine?) ++
    underHeading .removedHeading (deltas.filterMap removedLine?) ++ [.closing]

theorem lines_eq :
    lines deltas settings =
      [.title, .summary (Tally.ofDeltas deltas settings.tracks),
        .verdict (Tally.ofDeltas deltas settings.tracks), .opening] ++
        ((groupsOf (deltas.filterMap Row.ofDelta?)).flatMap
          (groupLines (deltas.filterMap Row.ofDelta?)) ++ tailLines deltas) := by
  simp only [lines, tailLines, List.append_assoc]

theorem isHeading_of_mem_added {line : Line} (h : line ∈ deltas.filterMap addedLine?) :
    line.isHeading = false := by
  obtain ⟨delta, _, hdelta⟩ := List.mem_filterMap.1 h
  cases delta <;> cases hdelta
  rfl

theorem isHeading_of_mem_removed {line : Line} (h : line ∈ deltas.filterMap removedLine?) :
    line.isHeading = false := by
  obtain ⟨delta, _, hdelta⟩ := List.mem_filterMap.1 h
  cases delta <;> cases hdelta
  rfl

theorem row?_of_mem_tailLines : ∀ line ∈ tailLines deltas, line.row? = none := by
  rw [← List.filterMap_eq_nil_iff, tailLines, List.filterMap_append, List.filterMap_append,
    filterMap_underHeading rfl rfl, filterMap_underHeading rfl rfl,
    filterMap_addedLine_eq_nil _ fun _ _ => rfl, filterMap_removedLine_eq_nil _ fun _ => rfl]
  rfl

/-- The headings of bullets, of which those without a bullet are left out. -/
def bulletHeadings (deltas : List Delta) : List Line :=
  (if (deltas.filterMap addedLine?).isEmpty then [] else [.addedHeading]) ++
    if (deltas.filterMap removedLine?).isEmpty then [] else [.removedHeading]

/-- Below the tables there are no rows, and the headings are those of bullets. -/
theorem sections_tailLines :
    sections (tailLines deltas) = (bulletHeadings deltas).map fun heading => (heading, []) := by
  have hclosing : [Line.closing].filter Line.isHeading = [] := rfl
  rw [sections_of_no_row (row?_of_mem_tailLines deltas), tailLines, List.filter_append,
    List.filter_append, filter_underHeading rfl fun _ => isHeading_of_mem_added deltas,
    filter_underHeading rfl fun _ => isHeading_of_mem_removed deltas, hclosing, List.append_nil,
    bulletHeadings]

/-- The sections of a report are the tables of its groups and the headings of bullets. -/
theorem sections_lines :
    sections (lines deltas settings) =
      (groupsOf (deltas.filterMap Row.ofDelta?)).map
          (fun group => (.group group, rowsOf (deltas.filterMap Row.ofDelta?) group)) ++
        (bulletHeadings deltas).map fun heading => (heading, []) := by
  have hstart (counts : Tally) : ∀ line ∈ [Line.title, .summary counts, .verdict counts, .opening],
      line.isHeading = false := by
    simp [Line.isHeading]
  rw [lines_eq, sections_of_no_heading (hstart _),
    sections_groups _ _ (rowsAhead_of_no_row (row?_of_mem_tailLines deltas)), sections_tailLines]

end Lines

/-! ### The rows of two runs -/

section Rows

variable {rows : List Row} (hasc : rows.Pairwise fun a b => a.name < b.name)

include hasc

/-- Rows in name order need no sorting. -/
theorem rowsOf_eq_filter (group : String) :
    rowsOf rows group = rows.filter fun row => row.group == group := by
  refine List.mergeSort_of_pairwise ((hasc.filter _).imp fun h => ?_)
  exact decide_eq_true (Std.le_of_lt h)

theorem groupLines_eq_filter :
    groupLines rows = fun group =>
      .group group :: tableLines (rows.filter fun row => row.group == group) := by
  funext group
  rw [groupLines_eq, rowsOf_eq_filter hasc]

theorem mem_rowsOf {row : Row} {group : String} :
    row ∈ rowsOf rows group ↔ row ∈ rows ∧ row.group = group := by
  rw [rowsOf_eq_filter hasc, List.mem_filter, beq_iff_eq]

/-- The tables together hold every row once. -/
theorem flatMap_rowsOf_perm : ((groupsOf rows).flatMap (rowsOf rows)).Perm rows := by
  have hgroups : (groupsOf rows).Nodup := nodup_of_ascending id (keys_ascending _)
  have hnodup : ((groupsOf rows).flatMap (rowsOf rows)).Nodup := by
    refine List.nodup_flatMap.2 ⟨fun group _ => ?_, hgroups.imp fun hne row hrow hother => ?_⟩
    · rw [rowsOf_eq_filter hasc]
      exact (nodup_of_ascending Row.name hasc).filter _
    · exact hne (((mem_rowsOf hasc).1 hrow).2.symm.trans ((mem_rowsOf hasc).1 hother).2)
  refine (List.perm_ext_iff_of_nodup hnodup (nodup_of_ascending Row.name hasc)).2 fun row => ?_
  rw [List.mem_flatMap]
  constructor
  · rintro ⟨group, _, hrow⟩
    exact ((mem_rowsOf hasc).1 hrow).1
  · intro hrow
    refine ⟨row.group, ?_, (mem_rowsOf hasc).2 ⟨hrow, rfl⟩⟩
    rw [groupsOf, SortedSet.mem_keys_ofList]
    exact List.mem_map_of_mem hrow

end Rows

end BenchReport.Markdown
