import BenchReport.CommandLine.Scan
import BenchReport.Settings.Document
import BenchReport.Report.Request
import BenchReport.Text.Blank

/-!
# Invocations

A command line as a value, how it is read from the arguments, and the request that it stands for. A setting comes from the preset of the command, from the file of overrides over that, and from the options over both.
-/

namespace BenchReport.CommandLine

/-! ### Options as values -/

inductive SourceOptions where
  | criterion (head : String) (base baseSnapshot : Option String) (statistic : String)
  | mimalloc (log : String) (baseSuffix : Option String)
  deriving DecidableEq, Repr

structure SharedOptions where
  destinations : Destinations
  threshold : Option Float
  settingsPath : Option String
  track : Option (List String)
  trackAll : Bool
  chartVariants : Option (List String)
  verbose : Bool
  quiet : Bool
  deriving DecidableEq

structure Invocation where
  source : SourceOptions
  shared : SharedOptions
  deriving DecidableEq

/-! ### Reading -/

def Scanned.shared (scanned : Scanned) : SharedOptions where
  destinations := {
    points := scanned.value? .points
    measures := scanned.value? .measures
    baseline := scanned.value? .baseline
    charts := scanned.value? .charts
    comment := scanned.value? .comment }
  threshold := (scanned.value? .threshold).bind NumberText.readFloat?
  settingsPath := scanned.value? .settings
  track := scanned.list? .track
  trackAll := scanned.has .trackAll
  chartVariants := scanned.list? .chartVariants
  verbose := scanned.has .verbose
  quiet := scanned.has .quiet

/-- The source of a command; each command has one option that must be given. -/
def Scanned.source (scanned : Scanned) : Command → Except Reply SourceOptions
  | .criterion =>
    match scanned.value? .head with
    | none => .error (.fault .missingOption)
    | some head =>
      .ok (.criterion head (scanned.value? .base) (scanned.value? .baseSnapshot)
        ((scanned.value? .statistic).getD EstimateTree.defaultStatistic))
  | .mimalloc =>
    match scanned.value? .log with
    | none => .error (.fault .missingOption)
    | some log => .ok (.mimalloc log (scanned.value? .baseSuffix))

namespace Invocation

def ofCommand (command : Command) (arguments : List String) : Except Reply Invocation := do
  let scanned ← Scanned.ofArguments command arguments
  return ⟨← scanned.source command, scanned.shared⟩

def helpOn : List String → Reply
  | [] => .help
  | [name] => if (Command.ofName? name).isSome ∨ name = "help" then .help else .fault .unknownCommand
  | _ => .fault .unknownCommand

def replyToLetters : List Char → Reply
  | 'h' :: _ => .help
  | 'V' :: _ => .version
  | _ => .fault .unknownArgument

def replyToOption (name : String) (value : Option String) : Reply :=
  if name = "help" ∨ name = "version" then
    if value.isSome then .fault .unwantedValue
    else if name = "help" then .help
    else .version
  else .fault .unknownArgument

def replyToEscaped : List String → Reply
  | [] => .fault .noCommand
  | name :: _ =>
    if (Command.ofName? name).isSome ∨ name = "help" then .fault .unknownArgument
    else .fault .unknownCommand

def ofArguments : List String → Except Reply Invocation
  | [] => .error (.fault .noCommand)
  | first :: rest =>
    match Command.ofName? first with
    | some command => ofCommand command rest
    | none =>
      if first = "help" then .error (helpOn rest)
      else
        match Word.ofArgument first with
        | .escape => .error (replyToEscaped rest)
        | .long name value => .error (replyToOption name value)
        | .short letters => .error (replyToLetters letters)
        | .plain _ => .error (.fault .unknownCommand)

end Invocation

/-! ### Resolving -/

/-- The names in a list option: blanks around a name do not count, and neither do empty names. -/
def namesOf (texts : List String) : SortedSet String :=
  .ofList ((texts.map Text.trim).filter (· ≠ ""))

namespace SharedOptions

/-- Lays the options over settings. -/
def applyTo (options : SharedOptions) (settings : Settings) : Settings :=
  { settings with
    threshold := options.threshold.getD settings.threshold
    trackedVariants :=
      if options.trackAll then none
      else
        match options.track with
        | some names => some (namesOf names)
        | none => settings.trackedVariants
    chartVariants :=
      match options.chartVariants with
      | some names => some (namesOf names)
      | none => settings.chartVariants }

def patch (options : SharedOptions) (tree : FileTree) (preset : Settings) :
    Except ReportError Settings :=
  match options.settingsPath with
  | some path => preset.patchedBy tree path
  | none => .ok preset

def settingsOver (options : SharedOptions) (tree : FileTree) (preset : Settings) :
    Except ReportError Settings := do
  let patched ← options.patch tree preset
  (options.applyTo patched).checked

end SharedOptions

inductive LogLevel where
  | error
  | info
  | debug
  deriving DecidableEq, Repr

namespace SourceOptions

def preset : SourceOptions → Settings
  | criterion .. => .criterion
  | mimalloc .. => .mimallocBench

def toSource : SourceOptions → Source
  | criterion head base baseSnapshot statistic =>
    .estimates ⟨head, statistic⟩ <|
      match base, baseSnapshot with
      | some path, _ => .directory path
      | none, some path => .snapshot path
      | none, none => .absent
  | mimalloc log _ => .log log

def baseSuffix? : SourceOptions → Option String
  | criterion .. => none
  | mimalloc _ suffix => suffix

end SourceOptions

namespace Invocation

def logLevel (invocation : Invocation) : LogLevel :=
  if invocation.shared.quiet then .error
  else if invocation.shared.verbose then .debug
  else .info

/-- The request that a command line stands for. A suffix given to the command counts most. -/
def toRequest (invocation : Invocation) (tree : FileTree) : Except ReportError Request := do
  let settings ← invocation.shared.settingsOver tree invocation.source.preset
  return {
    source := invocation.source.toSource
    destinations := invocation.shared.destinations
    settings := { settings with
      baseSuffix := invocation.source.baseSuffix?.getD settings.baseSuffix } }

end Invocation

end BenchReport.CommandLine
