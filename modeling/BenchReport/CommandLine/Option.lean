import BenchReport.Number.Reader

/-!
# Options

The options of the two commands: how they are spelled, what value they take, and which ones exclude each other.
-/

namespace BenchReport.CommandLine

inductive Command where
  | criterion
  | mimalloc
  deriving DecidableEq, Repr

def Command.ofName? (name : String) : Option Command :=
  if name = "criterion" then some .criterion
  else if name = "mimalloc" then some .mimalloc
  else none

inductive OptionKey where
  | head
  | base
  | baseSnapshot
  | statistic
  | log
  | baseSuffix
  | points
  | measures
  | baseline
  | comment
  | charts
  | threshold
  | settings
  | track
  | trackAll
  | chartVariants
  | verbose
  | quiet
  | help
  deriving DecidableEq, Repr

inductive ValueShape where
  | flag
  | path
  | text
  | number
  /-- Texts between commas; the option may be repeated. -/
  | list
  deriving DecidableEq, Repr

namespace OptionKey

def shape : OptionKey → ValueShape
  | trackAll | verbose | quiet | help => .flag
  | statistic | baseSuffix => .text
  | threshold => .number
  | track | chartVariants => .list
  | head | base | baseSnapshot | log | points | measures | baseline | comment | charts |
    settings => .path

end OptionKey

/-! ### Spelling -/

/-- The options of both commands by their names. -/
def sharedOptions : List (String × OptionKey) := [
  ("output-json", .points), ("output-bmf", .measures), ("output-baseline", .baseline),
  ("output-comment", .comment), ("output-charts", .charts), ("threshold", .threshold),
  ("config", .settings), ("track", .track), ("track-all", .trackAll),
  ("chart-variants", .chartVariants), ("verbose", .verbose), ("quiet", .quiet), ("help", .help)]

namespace Command

/-- The options that only one command has. -/
def ownOptions : Command → List (String × OptionKey)
  | criterion => [
    ("head", .head), ("base", .base), ("base-json", .baseSnapshot), ("statistic", .statistic)]
  | mimalloc => [("log", .log), ("csv", .log), ("base-suffix", .baseSuffix)]

def options (command : Command) : List (String × OptionKey) := command.ownOptions ++ sharedOptions

def option? (command : Command) (name : String) : Option OptionKey := command.options.lookup name

end Command

def optionOfLetter? : Char → Option OptionKey
  | 'v' => some .verbose
  | 'q' => some .quiet
  | 'h' => some .help
  | _ => none

/-- The pairs of options of which one at most may be given. -/
def exclusions : List (OptionKey × OptionKey) :=
  [(.base, .baseSnapshot), (.track, .trackAll), (.verbose, .quiet)]

/-! ### Words -/

/-- An argument by its form alone. -/
inductive Word where
  /-- Two dashes: no argument after them is an option. -/
  | escape
  /-- An option's name after two dashes, and what follows an equals sign. -/
  | long (name : String) (value : Option String)
  | short (letters : List Char)
  | plain (text : String)
  deriving DecidableEq, Repr

/-- The name and, after the first equals sign, the value. -/
def Word.longOf (chars : List Char) : Word :=
  match chars.dropWhile (· != '=') with
  | [] => .long (String.ofList chars) none
  | _ :: value => .long (String.ofList (chars.takeWhile (· != '='))) (some (String.ofList value))

def Word.ofArgument (argument : String) : Word :=
  match argument.toList with
  | ['-', '-'] => .escape
  | '-' :: '-' :: chars => .longOf chars
  | '-' :: letter :: letters => .short (letter :: letters)
  | _ => .plain argument

end BenchReport.CommandLine
