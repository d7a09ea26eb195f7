import BenchReport.Settings.Basic

/-!
# Markdown reports

The comparison as a comment on a change: a summary of the tracked variants, a verdict, and all results folded away. A report is a list of lines of known kinds; the text of each is a function of the line and the settings, and of nothing else.
-/

namespace BenchReport.Markdown

def regressedMark : String := "\u26a0\ufe0f"

def improvedMark : String := "\u2705"

/-! ### Rows -/

structure Row where
  name : String
  base : Float
  head : Float
  change : Float
  deriving DecidableEq

def Row.ofDelta? : Delta → Option Row
  | .paired _ name base head change => some ⟨name, base, head, change⟩
  | _ => none

def Row.group (row : Row) : String := (NameParts.ofName row.name).group

/-- A change in percent, with a mark beyond the threshold. -/
def changeText (change threshold : Float) : String :=
  let cell := NumberText.fixedSigned 1 (change * 100) ++ "%"
  if threshold < change then cell ++ " " ++ regressedMark
  else if change < -threshold then cell ++ " " ++ improvedMark
  else cell

/-! ### Lines -/

inductive Line where
  | title
  | summary (counts : Tally)
  | verdict (counts : Tally)
  | opening
  | group (name : String)
  | columns
  | rule
  | row (row : Row)
  | gap
  | addedHeading
  | added (name : String) (head : Float)
  | removedHeading
  | removed (name : String)
  | closing
  deriving DecidableEq

def countText (mark : String) (count : Nat) (word : String) : String :=
  if 0 < count then mark ++ " " ++ toString count ++ " " ++ word ++ ", " else ""

def summaryText (counts : Tally) (settings : Settings) : String :=
  "**" ++ settings.trackedHeading ++ ":** " ++
    countText improvedMark counts.improved "improved" ++
    countText regressedMark counts.regressed "regressed" ++
    toString counts.unchanged ++ " unchanged (>" ++
    toString settings.thresholdPercent.toNat ++ "% threshold)\n"

def verdictText (counts : Tally) (settings : Settings) : String :=
  if 0 < counts.regressed then
    "> " ++ regressedMark ++ " **Performance regressions detected in " ++ settings.trackedHeading ++
      ".** Please review below.\n"
  else if 0 < counts.improved then
    "> " ++ improvedMark ++ " **Performance improvements detected!**\n"
  else "> No significant changes in " ++ settings.trackedHeading ++ ".\n"

def rowText (row : Row) (settings : Settings) : String :=
  let parts := NameParts.ofName row.name
  "| " ++ parts.variant ++ " | " ++ parts.parameter.getD "-" ++
    " | " ++ settings.profile.unit.text row.base ++
    " | " ++ settings.profile.unit.text row.head ++
    " | " ++ changeText row.change settings.threshold ++ " |"

/-- The text of a line. Headings and paragraphs end in a newline of their own, which leaves a blank line after them. -/
def Line.text (settings : Settings) : Line → String
  | title => "## " ++ settings.reportTitle ++ "\n"
  | summary counts => summaryText counts settings
  | verdict counts => verdictText counts settings
  | opening => "<details><summary>Full results</summary>\n"
  | group name => "### " ++ name ++ "\n"
  | columns => "| Allocator | Param | Base | Head | Change |"
  | rule => "|-----------|-------|-----:|-----:|-------:|"
  | row found => rowText found settings
  | gap => ""
  | addedHeading => "### New benchmarks\n"
  | added name head => "- **" ++ name ++ "**: " ++ settings.profile.unit.text head
  | removedHeading => "### Removed benchmarks\n"
  | removed name => "- ~~" ++ name ++ "~~"
  | closing => "</details>"

/-! ### Reports -/

def rowsOf (rows : List Row) (group : String) : List Row :=
  (rows.filter fun row => row.group == group).mergeSort fun left right => left.name ≤ right.name

def groupsOf (rows : List Row) : List String := (SortedSet.ofList (rows.map Row.group)).keys

def groupLines (rows : List Row) (group : String) : List Line :=
  [.group group, .columns, .rule] ++ (rowsOf rows group).map .row ++ [.gap]

def underHeading (heading : Line) (lines : List Line) : List Line :=
  if lines.isEmpty then [] else heading :: lines ++ [.gap]

def addedLine? : Delta → Option Line
  | .added name head => some (.added name head)
  | _ => none

def removedLine? : Delta → Option Line
  | .removed name _ => some (.removed name)
  | _ => none

/-- The lines of a report. The counts are those of the tracked variants, the tables have all. -/
def lines (deltas : List Delta) (settings : Settings) : List Line :=
  let counts := Tally.ofDeltas deltas settings.tracks
  let rows := deltas.filterMap Row.ofDelta?
  [.title, .summary counts, .verdict counts, .opening] ++
    (groupsOf rows).flatMap (groupLines rows) ++
    underHeading .addedHeading (deltas.filterMap addedLine?) ++
    underHeading .removedHeading (deltas.filterMap removedLine?) ++
    [.closing]

def report (deltas : List Delta) (settings : Settings) : String :=
  "\n".intercalate ((lines deltas settings).map (Line.text settings))

end BenchReport.Markdown
