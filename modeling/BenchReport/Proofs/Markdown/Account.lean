import BenchReport.Proofs.Delta.Partition
import BenchReport.Proofs.Markdown.Printed
import BenchReport.Settings.Preset

/-!
# Every benchmark is in the report once

The rows of a report are the names that both runs have, each once and with the values of the two; its bullets are the names that one run has. A mark on a row tells the verdict on its delta, so the counts of the report are numbers of marked and unmarked rows of tracked variants, and its verdict is told by the marks on these. All of this is said of the texts of the report: what the printed lines of a kind are, and what is printed below which heading.
-/

namespace BenchReport.Markdown

open SortedMap

theorem perm_toList_iff {α : Type} {list : List α} {option : Option α} :
    list.Perm option.toList ↔ list = option.toList := by
  cases option <;> simp

/-! ### The rows of two runs -/

section Runs

variable (base head : Results) (threshold : Float)

/-- The row of a name that both runs have. -/
def sharedRow? (base head : Results) (name : String) : Option Row := do
  let base ← base.get? name
  let head ← head.get? name
  return ⟨name, base, head, relativeChange base head⟩

theorem name_of_ofDelta? {delta : Delta} {row : Row} (h : Row.ofDelta? delta = some row) :
    row.name = delta.name := by
  cases delta <;> cases h
  rfl

theorem ascending_rows :
    ((base.deltas head threshold).filterMap Row.ofDelta?).Pairwise fun a b => a.name < b.name :=
  Results.filterMap_deltas_ascending base head threshold fun _ _ h => name_of_ofDelta? h

theorem filter_rows_name (name : String) :
    ((base.deltas head threshold).filterMap Row.ofDelta?).filter (fun row => row.name == name) =
      (sharedRow? base head name).toList := by
  have hfilter : ((base.deltas head threshold).filterMap Row.ofDelta?).filter
      (fun row => row.name == name) =
      ((base.deltas head threshold).filter fun delta => delta.name == name).filterMap
        Row.ofDelta? := by
    rw [List.filter_filterMap, List.filterMap_filter]
    refine List.filterMap_congr fun delta _ => ?_
    cases delta with
    | paired verdict name base head change => rfl
    | _ => exact (ite_self none).symm
  rw [hfilter, Results.deltas_filter_name, sharedRow?]
  cases base.get? name <;> cases head.get? name <;> rfl

end Runs

section Report

variable (base head : Results) (settings : Settings)

/-! ### Tables -/

/-- A group with its rows. -/
structure Table where
  group : String
  rows : List Row

def Table.printed (table : Table) (settings : Settings) : String × List String :=
  ("### " ++ table.group ++ "\n", table.rows.map fun row => rowText row settings)

def tablesOf (deltas : List Delta) : List Table :=
  (groupsOf (deltas.filterMap Row.ofDelta?)).map fun group =>
    ⟨group, rowsOf (deltas.filterMap Row.ofDelta?) group⟩

/-- Every name that both runs have is a row of one table, that of its group, and the tables are what is printed below the headings of groups. Other headings have no rows. -/
structure Tabulates (base head : Results) (settings : Settings) (texts : List String)
    (tables : List Table) : Prop where
  printed : printedSections texts = tables.map (Table.printed · settings) ++
    (if (textsOfKind .added texts).isEmpty then [] else [("### New benchmarks\n", [])]) ++
    if (textsOfKind .removed texts).isEmpty then [] else [("### Removed benchmarks\n", [])]
  within : textsOfKind .row texts =
    (tables.flatMap Table.rows).map fun row => rowText row settings
  headings : (tables.map Table.group).Pairwise (· < ·)
  housed : ∀ table ∈ tables, table.rows ≠ [] ∧
    (table.rows.Pairwise fun a b => a.name < b.name) ∧ ∀ row ∈ table.rows, row.group = table.group
  once : ∀ name, (tables.flatMap Table.rows).filter (fun row => row.name == name) =
    (sharedRow? base head name).toList

theorem rows_tablesOf (deltas : List Delta) :
    (tablesOf deltas).flatMap Table.rows = rowsIn (lines deltas settings) := by
  rw [tablesOf, List.flatMap_map, rowsIn_lines]

theorem rows_tablesOf_perm :
    ((tablesOf (base.deltas head settings.threshold)).flatMap Table.rows).Perm
      ((base.deltas head settings.threshold).filterMap Row.ofDelta?) := by
  rw [tablesOf, List.flatMap_map]
  exact flatMap_rowsOf_perm (ascending_rows base head settings.threshold)

/-- The delta of a row. -/
theorem mem_deltas_of_mem_rows {row : Row}
    (h : row ∈ (tablesOf (base.deltas head settings.threshold)).flatMap Table.rows) :
    .paired (.ofValues row.base row.head settings.threshold) row.name row.base row.head
        row.change ∈ base.deltas head settings.threshold ∧
      row.change = relativeChange row.base row.head := by
  obtain ⟨delta, hdelta, hrow⟩ :=
    List.mem_filterMap.1 ((rows_tablesOf_perm base head settings).mem_iff.1 h)
  cases delta with
  | paired verdict name before after change =>
      cases hrow
      obtain ⟨_, _, rfl, hchange⟩ := (Results.deltas_accounts base head _).paired .. |>.1 hdelta
      exact ⟨hdelta, hchange⟩
  | _ => cases hrow

theorem isEmpty_filterMap_bind {γ : Type} {make : Delta → Option Line} {read : Line → Option γ}
    (h : ∀ delta, ((make delta).bind read).isNone = (make delta).isNone) (deltas : List Delta) :
    (deltas.filterMap fun delta => (make delta).bind read).isEmpty =
      (deltas.filterMap make).isEmpty := by
  rw [Bool.eq_iff_iff, List.isEmpty_iff, List.isEmpty_iff, List.filterMap_eq_nil_iff,
    List.filterMap_eq_nil_iff]
  refine forall₂_congr fun delta _ => ?_
  rw [← Option.isNone_iff_eq_none, h, Option.isNone_iff_eq_none]

/-- Headings of bullets stand over bullets only. -/
theorem bulletHeadings_printed (deltas : List Delta) :
    let texts := (lines deltas settings).map (Line.text settings)
    (bulletHeadings deltas).map (fun heading => (heading.text settings, ([] : List String))) =
      (if (textsOfKind .added texts).isEmpty then [] else [("### New benchmarks\n", [])]) ++
        if (textsOfKind .removed texts).isEmpty then [] else [("### Removed benchmarks\n", [])] := by
  have hadded : ∀ delta, ((addedLine? delta).bind Line.added?).isNone =
      (addedLine? delta).isNone := by
    rintro (_ | _ | _) <;> rfl
  have hremoved : ∀ delta, ((removedLine? delta).bind Line.removed?).isNone =
      (removedLine? delta).isNone := by
    rintro (_ | _ | _) <;> rfl
  simp only [textsOfKind_added, textsOfKind_removed, filterMap_added?_lines,
    filterMap_removed?_lines, List.isEmpty_map, isEmpty_filterMap_bind hadded,
    isEmpty_filterMap_bind hremoved, bulletHeadings, List.map_append]
  congr 1 <;> split <;> rfl

theorem report_tabulates :
    let deltas := base.deltas head settings.threshold
    Tabulates base head settings ((lines deltas settings).map (Line.text settings))
      (tablesOf deltas) := by
  intro deltas
  have hasc := ascending_rows base head settings.threshold
  constructor
  · rw [printedSections_map, sections_lines, List.map_append, List.map_map, List.map_map,
      List.append_assoc, ← bulletHeadings_printed, tablesOf, List.map_map]
    rfl
  · rw [textsOfKind_row, rows_tablesOf settings]
  · rw [tablesOf, List.map_map]
    exact (List.map_id _).symm ▸ keys_ascending _
  · intro table htable
    obtain ⟨group, hgroup, rfl⟩ := List.mem_map.1 htable
    rw [groupsOf, SortedSet.mem_keys_ofList] at hgroup
    obtain ⟨row, hrow, hof⟩ := List.mem_map.1 hgroup
    refine ⟨List.ne_nil_of_mem ((mem_rowsOf hasc).2 ⟨hrow, hof⟩), ?_, fun other hother => ?_⟩
    · change (rowsOf _ group).Pairwise _
      rw [rowsOf_eq_filter hasc]
      exact hasc.filter _
    · exact ((mem_rowsOf hasc).1 hother).2
  · intro name
    refine perm_toList_iff.1 ?_
    rw [← filter_rows_name base head settings.threshold]
    exact (rows_tablesOf_perm base head settings).filter _

/-! ### Bullets -/

/-- The names that one run has are bullets, in name order. -/
structure Lists (base head : Results) (settings : Settings) (texts : List String) : Prop where
  added : textsOfKind .added texts =
    (head.filter fun name _ => !base.contains name).entries.map fun (name, value) =>
      "- **" ++ name ++ "**: " ++ settings.profile.unit.text value
  removed : textsOfKind .removed texts =
    (base.filter fun name _ => !head.contains name).keys.map fun name => "- ~~" ++ name ++ "~~"

theorem added?_lines :
    (lines (base.deltas head settings.threshold) settings).filterMap Line.added? =
      (head.filter fun name _ => !base.contains name).entries := by
  rw [filterMap_added?_lines]
  refine eq_of_ascending Prod.fst (Results.filterMap_deltas_ascending _ _ _ ?_)
    (SortedMap.ascending _) fun entry => ?_
  · intro delta found hfound
    cases delta <;> cases hfound
    rfl
  · obtain ⟨name, value⟩ := entry
    have hline : (name, value) ∈ (base.deltas head settings.threshold).filterMap
        (fun delta => (addedLine? delta).bind Line.added?) ↔
        .added name value ∈ base.deltas head settings.threshold := by
      rw [List.mem_filterMap]
      constructor
      · rintro ⟨delta, hdelta, hread⟩
        cases delta <;> cases hread
        exact hdelta
      · exact fun h => ⟨_, h, rfl⟩
    rw [hline, (Results.deltas_accounts base head _).added, mem_entries, get?_filter,
      Option.filter_eq_some_iff, mem_keys_iff_contains, Bool.not_eq_true, Bool.not_eq_true']

theorem removed?_lines :
    (lines (base.deltas head settings.threshold) settings).filterMap Line.removed? =
      (base.filter fun name _ => !head.contains name).keys := by
  rw [filterMap_removed?_lines]
  refine eq_of_ascending id (Results.filterMap_deltas_ascending _ _ _ ?_)
    (keys_ascending _) fun name => ?_
  · intro delta found hfound
    cases delta <;> cases hfound
    rfl
  · have hline : name ∈ (base.deltas head settings.threshold).filterMap
        (fun delta => (removedLine? delta).bind Line.removed?) ↔
        ∃ value, .removed name value ∈ base.deltas head settings.threshold := by
      rw [List.mem_filterMap]
      constructor
      · rintro ⟨delta, hdelta, hread⟩
        cases delta <;> cases hread
        exact ⟨_, hdelta⟩
      · exact fun ⟨value, h⟩ => ⟨_, h, rfl⟩
    rw [hline, mem_keys, Option.isSome_iff_exists]
    refine exists_congr fun value => ?_
    rw [(Results.deltas_accounts base head _).removed, get?_filter, Option.filter_eq_some_iff,
      mem_keys_iff_contains, Bool.not_eq_true, Bool.not_eq_true']

theorem report_lists :
    Lists base head settings
      ((lines (base.deltas head settings.threshold) settings).map (Line.text settings)) := by
  constructor
  · rw [textsOfKind_added, added?_lines]
  · rw [textsOfKind_removed, removed?_lines]

/-! ### Marks, counts and the verdict -/

/-- Every row shows its values and its change, and the mark of its delta. -/
def Marks (deltas : List Delta) (settings : Settings) (tables : List Table) : Prop :=
  ∀ row ∈ tables.flatMap Table.rows, ∃ verdict,
    .paired verdict row.name row.base row.head row.change ∈ deltas ∧
      rowText row settings =
        "| " ++ (NameParts.ofName row.name).variant ++
          " | " ++ (NameParts.ofName row.name).parameter.getD "-" ++
          " | " ++ settings.profile.unit.text row.base ++
          " | " ++ settings.profile.unit.text row.head ++
          " | " ++ (NumberText.fixedSigned 1 (row.change * 100) ++ "%" ++ markText verdict) ++
          " |" ∧
      (row.Carries regressedMark settings ↔ verdict = .regressed) ∧
      (row.Carries improvedMark settings ↔ verdict = .improved)

def trackedRows (tables : List Table) (settings : Settings) : List Row :=
  (tables.flatMap Table.rows).filter fun row => settings.tracks (Results.variantOf row.name)

/-- The summary states how many rows of tracked variants are marked, and how many are not. -/
structure Counts (settings : Settings) (texts : List String) (tables : List Table)
    (counts : Tally) : Prop where
  stated : textsOfKind .summary texts =
    ["**" ++ settings.trackedHeading ++ ":** " ++
      (if 0 < counts.improved then improvedMark ++ " " ++ toString counts.improved ++ " improved, "
        else "") ++
      (if 0 < counts.regressed then
        regressedMark ++ " " ++ toString counts.regressed ++ " regressed, " else "") ++
      toString counts.unchanged ++ " unchanged (>" ++
      toString settings.thresholdPercent.toNat ++ "% threshold)\n"]
  regressed : counts.regressed =
    (trackedRows tables settings).countP fun row => row.Carries regressedMark settings
  improved : counts.improved =
    (trackedRows tables settings).countP fun row => row.Carries improvedMark settings
  unchanged : counts.unchanged = (trackedRows tables settings).countP fun row =>
    ¬row.Carries regressedMark settings ∧ ¬row.Carries improvedMark settings

def regressionsText (settings : Settings) : String :=
  "> " ++ regressedMark ++ " **Performance regressions detected in " ++ settings.trackedHeading ++
    ".** Please review below.\n"

def improvementsText : String := "> " ++ improvedMark ++ " **Performance improvements detected!**\n"

def quietText (settings : Settings) : String :=
  "> No significant changes in " ++ settings.trackedHeading ++ ".\n"

/-- The verdict of a report is told by the marks on the rows of tracked variants. -/
structure Concludes (settings : Settings) (texts : List String) (tables : List Table)
    (verdict : String) : Prop where
  stated : textsOfKind .verdict texts = [verdict]
  regressions : verdict = regressionsText settings ↔
    ∃ row ∈ trackedRows tables settings, row.Carries regressedMark settings
  improvements : verdict = improvementsText ↔
    (¬∃ row ∈ trackedRows tables settings, row.Carries regressedMark settings) ∧
      ∃ row ∈ trackedRows tables settings, row.Carries improvedMark settings
  quiet : verdict = quietText settings ↔
    (¬∃ row ∈ trackedRows tables settings, row.Carries regressedMark settings) ∧
      ¬∃ row ∈ trackedRows tables settings, row.Carries improvedMark settings

theorem getElem?_append_text {front : String} {index : Nat} {c : Char}
    (h : front.toList[index]? = some c) (rest : String) :
    (front ++ rest).toList[index]? = some c := by
  obtain ⟨hindex, _⟩ := List.getElem?_eq_some_iff.1 h
  rw [String.toList_append, List.getElem?_append_left hindex, h]

/-- The three verdicts differ in their third character. -/
theorem verdicts_distinct (settings : Settings) :
    regressionsText settings ≠ improvementsText ∧ regressionsText settings ≠ quietText settings ∧
      improvementsText ≠ quietText settings := by
  have hregressed : ("> " ++ regressedMark).toList[2]? = some '\u26a0' := by decide +kernel
  have himproved : ("> " ++ improvedMark).toList[2]? = some '\u2705' := by decide +kernel
  have hneither : "> No significant changes in ".toList[2]? = some 'N' := by decide +kernel
  have hregressions : (regressionsText settings).toList[2]? = some '\u26a0' :=
    getElem?_append_text (getElem?_append_text (getElem?_append_text hregressed _) _) _
  have himprovements : improvementsText.toList[2]? = some '\u2705' :=
    getElem?_append_text himproved _
  have hquiet : (quietText settings).toList[2]? = some 'N' :=
    getElem?_append_text (getElem?_append_text hneither _) _
  refine ⟨fun h => ?_, fun h => ?_, fun h => ?_⟩
  · rw [h, himprovements] at hregressions
    exact absurd hregressions (by decide)
  · rw [h, hquiet] at hregressions
    exact absurd hregressions (by decide)
  · rw [h, hquiet] at himprovements
    exact absurd himprovements (by decide)

theorem report_marks (hvalid : settings.isValid = true) :
    Marks (base.deltas head settings.threshold) settings
      (tablesOf (base.deltas head settings.threshold)) := by
  intro row hrow
  obtain ⟨hdelta, hchange⟩ := mem_deltas_of_mem_rows base head settings hrow
  have hwhole : row = ⟨row.name, row.base, row.head, relativeChange row.base row.head⟩ := by
    rw [← hchange]
  refine ⟨_, hdelta, ?_, ?_, ?_⟩
  · rw [hchange, ← changeText_of_verdict hvalid, ← hchange]
    rfl
  · rw [hwhole]
    exact carries_regressed_iff_verdict hvalid row.name row.base row.head
  · rw [hwhole]
    exact carries_improved_iff_verdict hvalid row.name row.base row.head

/-- Rows of tracked variants are counted by their deltas. -/
theorem countP_trackedRows {test : Row → Bool} {verdict : Verdict}
    (htest : ∀ name before after, test ⟨name, before, after, relativeChange before after⟩ =
      decide (Verdict.ofValues before after settings.threshold = verdict)) :
    (trackedRows (tablesOf (base.deltas head settings.threshold)) settings).countP test =
      ((base.deltas head settings.threshold).filter fun delta =>
        settings.tracks (Results.variantOf delta.name)).countP (Delta.isJudged verdict) := by
  rw [trackedRows, List.countP_filter, (rows_tablesOf_perm base head settings).countP_eq,
    List.countP_filterMap, List.countP_filter]
  refine List.countP_congr fun delta hdelta => ?_
  cases delta with
  | paired found name before after change =>
      obtain ⟨_, _, rfl, rfl⟩ := (Results.deltas_accounts base head _).paired .. |>.1 hdelta
      simp only [Row.ofDelta?, Option.map_some, Option.getD_some, htest, Delta.isJudged, Delta.name]
  | _ => simp [Row.ofDelta?, Delta.isJudged]

theorem report_counts (hvalid : settings.isValid = true) :
    let deltas := base.deltas head settings.threshold
    Counts settings ((lines deltas settings).map (Line.text settings)) (tablesOf deltas)
      (Tally.ofDeltas deltas settings.tracks) := by
  have hregressed (name : String) (before after : Float) :=
    carries_regressed_iff_verdict hvalid name before after
  have himproved (name : String) (before after : Float) :=
    carries_improved_iff_verdict hvalid name before after
  have hunchanged (name : String) (before after : Float) :
      (¬Row.Carries ⟨name, before, after, relativeChange before after⟩ regressedMark settings ∧
        ¬Row.Carries ⟨name, before, after, relativeChange before after⟩ improvedMark settings) ↔
      Verdict.ofValues before after settings.threshold = .unchanged := by
    rw [hregressed, himproved]
    cases Verdict.ofValues before after settings.threshold <;> decide
  obtain ⟨himprovedCount, hregressedCount, hunchangedCount⟩ :=
    Results.tally_judged (base.deltas head settings.threshold) settings.tracks
  constructor
  · rw [textsOfKind_summary, filterMap_summary?_lines, List.map_singleton, summaryText]
    simp only [countText, String.append_assoc, String.reduceAppend]
  · rw [hregressedCount, countP_trackedRows base head settings fun name before after =>
      decide_eq_decide.2 (hregressed name before after)]
  · rw [himprovedCount, countP_trackedRows base head settings fun name before after =>
      decide_eq_decide.2 (himproved name before after)]
  · rw [hunchangedCount, countP_trackedRows base head settings fun name before after =>
      decide_eq_decide.2 (hunchanged name before after)]

/-- A count of rows is positive when there is such a row. -/
theorem zero_lt_countP_iff {rows : List Row} {test : Row → Prop} [DecidablePred test] :
    0 < rows.countP (fun row => test row) ↔ ∃ row ∈ rows, test row := by
  rw [List.countP_pos_iff]
  simp only [decide_eq_true_eq]

theorem verdictText_concludes {texts : List String} {tables : List Table} {counts : Tally}
    (h : Counts settings texts tables counts)
    (hstated : textsOfKind .verdict texts = [verdictText counts settings]) :
    Concludes settings texts tables (verdictText counts settings) := by
  have htext : verdictText counts settings =
      if 0 < counts.regressed then regressionsText settings
      else if 0 < counts.improved then improvementsText
      else quietText settings := rfl
  have hregressed : 0 < counts.regressed ↔
      ∃ row ∈ trackedRows tables settings, row.Carries regressedMark settings := by
    rw [h.regressed, zero_lt_countP_iff]
  have himproved : 0 < counts.improved ↔
      ∃ row ∈ trackedRows tables settings, row.Carries improvedMark settings := by
    rw [h.improved, zero_lt_countP_iff]
  obtain ⟨hfirst, hsecond, hthird⟩ := verdicts_distinct settings
  rw [htext] at hstated ⊢
  by_cases hbad : 0 < counts.regressed
  · have hmarked := hregressed.1 hbad
    rw [if_pos hbad] at hstated ⊢
    exact ⟨hstated, iff_of_true rfl hmarked, iff_of_false hfirst fun h => h.1 hmarked,
      iff_of_false hsecond fun h => h.1 hmarked⟩
  · have hnone := mt hregressed.2 hbad
    rw [if_neg hbad] at hstated ⊢
    by_cases hgood : 0 < counts.improved
    · have hmarked := himproved.1 hgood
      rw [if_pos hgood] at hstated ⊢
      exact ⟨hstated, iff_of_false hfirst.symm hnone, iff_of_true rfl ⟨hnone, hmarked⟩,
        iff_of_false hthird fun h => h.2 hmarked⟩
    · have hneither := mt himproved.2 hgood
      rw [if_neg hgood] at hstated ⊢
      exact ⟨hstated, iff_of_false hsecond.symm hnone, iff_of_false hthird.symm fun h => hneither h.2,
        iff_of_true rfl ⟨hnone, hneither⟩⟩

/-- Every benchmark is in a report once, and the parts of the report agree. -/
theorem report_accounts (hvalid : settings.isValid = true) :
    let deltas := base.deltas head settings.threshold
    let texts := (lines deltas settings).map (Line.text settings)
    report deltas settings = "\n".intercalate texts ∧
      Lists base head settings texts ∧
      ∃ tables counts verdict, Tabulates base head settings texts tables ∧
        Marks deltas settings tables ∧ Counts settings texts tables counts ∧
        Concludes settings texts tables verdict := by
  intro deltas texts
  have hcounts := report_counts base head settings hvalid
  have hverdict : textsOfKind .verdict texts =
      [verdictText (Tally.ofDeltas deltas settings.tracks) settings] := by
    rw [textsOfKind_verdict, filterMap_verdict?_lines]
    rfl
  exact ⟨rfl, report_lists base head settings, tablesOf deltas, _, _,
    report_tabulates base head settings, report_marks base head settings hvalid, hcounts,
    verdictText_concludes settings hcounts hverdict⟩

end Report

/-! #### Groups that interleave -/

/-- In name order, a name of one group stands between two of another. -/
def earlierRun : Results :=
  .ofList [("a", 1), ("a-b/x", 100), ("a/x", 100), ("a/y", 0), ("a/z", notANumber), ("gone/x", 1)]

def laterRun : Results :=
  .ofList [("a", 1), ("a-b/x", 50), ("a/x", 200), ("a/y", 5), ("a/z", 1), ("new/x", 1)]

theorem report_accounts_interleaved :
    let deltas := earlierRun.deltas laterRun Settings.standard.threshold
    let texts := (lines deltas .standard).map (Line.text .standard)
    Settings.standard.isValid = true ∧ texts = [
        "## Benchmark Comparison\n",
        "**tracked variants:** \u2705 1 improved, \u26a0\ufe0f 1 regressed, 3 unchanged (>5% threshold)\n",
        "> \u26a0\ufe0f **Performance regressions detected in tracked variants.** Please review below.\n",
        "<details><summary>Full results</summary>\n",
        "### a\n",
        "| Allocator | Param | Base | Head | Change |",
        "|-----------|-------|-----:|-----:|-------:|",
        "| a | - | 1.0 ns | 1.0 ns | +0.0% |",
        "| x | - | 100.0 ns | 200.0 ns | +100.0% \u26a0\ufe0f |",
        "| y | - | 0.0 ns | 5.0 ns | +0.0% |",
        "| z | - | NaN ns | 1.0 ns | NaN% |",
        "",
        "### a-b\n",
        "| Allocator | Param | Base | Head | Change |",
        "|-----------|-------|-----:|-----:|-------:|",
        "| x | - | 100.0 ns | 50.0 ns | -50.0% \u2705 |",
        "",
        "### New benchmarks\n",
        "- **new/x**: 1.0 ns",
        "",
        "### Removed benchmarks\n",
        "- ~~gone/x~~",
        "",
        "</details>"] ∧
      report deltas .standard = "\n".intercalate texts ∧
      Lists earlierRun laterRun .standard texts ∧
      ∃ tables counts verdict, Tabulates earlierRun laterRun .standard texts tables ∧
        Marks deltas .standard tables ∧ Counts .standard texts tables counts ∧
        Concludes .standard texts tables verdict := by
  have hvalid : Settings.standard.isValid = true := by decide +kernel
  refine ⟨hvalid, ?_, report_accounts earlierRun laterRun .standard hvalid⟩
  -- Sorting does not reduce, and rows in name order need none.
  rw [lines, groupLines_eq_filter
    (ascending_rows earlierRun laterRun Settings.standard.threshold)]
  decide +kernel

end BenchReport.Markdown
