import BenchReport.CommandLine.Scan

/-!
# Usage

What the program says about itself, and about arguments that it cannot take.
-/

namespace BenchReport.CommandLine

def versionText : String := "bench-report 0.1.0"

def UsageFault.message : UsageFault → String
  | noCommand => "a command is required: criterion or mimalloc"
  | unknownCommand => "there is no such command"
  | unknownArgument => "an argument was not expected"
  | missingValue => "an option needs a value"
  | malformedNumber => "a threshold must be a number"
  | unwantedValue => "an option takes no value"
  | conflict => "options exclude each other, or one was given twice"
  | missingOption => "a required option is missing: --head or --log"

def optionText (entry : String × OptionKey) : String :=
  "  --" ++ entry.1 ++
    match entry.2.shape with
    | .flag => ""
    | .path => " PATH"
    | .text => " TEXT"
    | .number => " NUMBER"
    | .list => " TEXT,TEXT"

def helpText : String :=
  "\n".intercalate (
    ["Turns benchmark results into data feeds, comparison comments and charts.", "",
      "bench-report criterion --head PATH"] ++ Command.criterion.ownOptions.map optionText ++
    ["", "bench-report mimalloc --log PATH"] ++ Command.mimalloc.ownOptions.map optionText ++
    ["", "Options of both:"] ++ sharedOptions.map optionText)

def Reply.text : Reply → String
  | help => helpText
  | version => versionText
  | fault reason => "error: " ++ reason.message

end BenchReport.CommandLine
