import BenchReport.FileTree.Access
import BenchReport.Number.Reader
import BenchReport.Source.Harvest
import BenchReport.Text.Blank
import BenchReport.Text.Digit

/-!
# Run logs

The results log of the mimalloc-bench suite: one run per line, in fields separated by blanks. A run needs its benchmark, its allocator and an elapsed time; memory and processor times that are no numbers count as zero. Lines that start with a number sign are comments.
-/

namespace BenchReport

-- Powers are those of the core library, whatever is in scope; literal exponents need their type for it.
attribute [local instance (high)] instPowNat

structure LoggedRun where
  benchmark : String
  allocator : String
  elapsed : Float
  memoryKb : Nat
  userSeconds : Float
  systemSeconds : Float
  deriving DecidableEq

def LoggedRun.name (run : LoggedRun) : String := run.benchmark ++ "/" ++ run.allocator

namespace RunLog

/-! ### Fields -/

/-- Digits at the start of a text, with a fraction if there are digits, a point and a digit. -/
def leadingNumber (chars : List Char) : List Char :=
  let whole := chars.takeWhile Text.isDecimalDigit
  match chars.dropWhile Text.isDecimalDigit with
  | '.' :: rest =>
    let fraction := rest.takeWhile Text.isDecimalDigit
    if whole.isEmpty || fraction.isEmpty then whole else whole ++ '.' :: fraction
  | _ => whole

/-- The minutes and the seconds at the start of a field. Minutes need a colon and a digit of the seconds after them; without these, the field starts with its seconds. -/
def splitElapsed (chars : List Char) : Option (List Char) × List Char :=
  match chars.dropWhile Text.isDecimalDigit with
  | ':' :: rest =>
    if (leadingNumber rest).isEmpty || (chars.takeWhile Text.isDecimalDigit).isEmpty then
      (none, leadingNumber chars)
    else (some (chars.takeWhile Text.isDecimalDigit), leadingNumber rest)
  | _ => (none, leadingNumber chars)

/-- The seconds of an elapsed time such as `83.45` or `1:23.45`. What follows the number does not matter. -/
def elapsedSeconds? (field : String) : Option Float := do
  let (minutes, seconds) := splitElapsed (Text.trimChars field.toList)
  let minutes ← match minutes with
    | none => some 0
    | some digits => NumberText.readNat? (2 ^ (64 : Nat)) (String.ofList digits)
  let seconds ← NumberText.readDecimal? seconds
  return Binary64.ofInt minutes * 60 + seconds.toFloat false

/-- A count of at most sixty-four bits, or zero. -/
def count (field : String) : Nat := (NumberText.readNat? (2 ^ (64 : Nat)) field).getD 0

/-- A number of seconds in digits with at most one point, or zero. -/
def seconds (field : String) : Float :=
  let chars := field.toList
  if chars.all (fun c => NumberText.isDigit c || c == '.') then
    ((NumberText.readDecimal? chars).map (Decimal.toFloat false)).getD 0
  else 0

/-! ### Lines -/

def runOf? (line : String) : Option LoggedRun :=
  match Text.words line with
  | benchmark :: allocator :: elapsed :: memory :: user :: system :: _ =>
    if benchmark.toList.head? = some '#' then none
    else (elapsedSeconds? elapsed).map fun elapsed =>
      { benchmark, allocator, elapsed
        memoryKb := count memory
        userSeconds := seconds user
        systemSeconds := seconds system }
  | _ => none

/-- Whether a line is neither blank nor a comment. -/
def carriesData (line : String) : Bool :=
  match Text.trimChars line.toList with
  | [] => false
  | c :: _ => c != '#'

/-! ### Logs -/

structure Contents where
  runs : List LoggedRun
  /-- How many lines carry data that is no run. -/
  skipped : Nat

def parse (text : String) : Contents :=
  let dataLines := (Text.lines text).filter carriesData
  let runs := dataLines.filterMap runOf?
  ⟨runs, dataLines.length - runs.length⟩

/-- The elapsed times by benchmark and allocator; of runs with the same name the last counts. -/
def resultsOf (runs : List LoggedRun) : Results :=
  .ofList (runs.map fun run => (run.name, run.elapsed))

def textAt (tree : FileTree) (path : String) : String :=
  match tree.readFile path with
  | .ok (.text source) => source
  | _ => ""

def harvest (tree : FileTree) (path : String) : Harvest :=
  let contents := parse (textAt tree path)
  .ofResults (resultsOf contents.runs) contents.skipped path

end RunLog

end BenchReport
