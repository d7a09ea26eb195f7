import BenchReport.FileTree.Access
import BenchReport.Number.Text
import BenchReport.Text.Quoted

/-!
# Errors

Every error is a cause with the data it is about. Its kind and its text are computed from the cause in one place, so whether a run failed, and why, can be asked without reading a message.
-/

namespace BenchReport

inductive ErrorKind where
  | io
  | parse
  | missingInput
  | invalidInput
  | render
  | noPainter
  deriving DecidableEq, Repr

def ErrorKind.headline : ErrorKind → String
  | io => "io error: "
  | parse => "parse error: "
  | missingInput => "missing input: "
  | invalidInput => "invalid input: "
  | render => "render error: "
  | noPainter => "chart backend unavailable: "

inductive ReportError where
  | settingsUnreadable (path : String) (fault : FileFault)
  | settingsMalformed (path : String)
  | settingsNotObject (path : String)
  | thresholdInvalid (threshold : Float)
  | snapshotMissing (path : String)
  | snapshotUnreadable (fault : FileFault)
  | snapshotMalformed (path : String)
  | snapshotUnwritable (fault : FileFault)
  | noBase
  | noBaseRuns (suffix : String)
  | outputUnwritable (path : String) (fault : FileFault)
  | noPainter
  | chartsDirectory (fault : FileFault)
  | chartRefused (reason : String)
  | chartUnwritable (file : String) (fault : FileFault)
  | indexUnwritable (fault : FileFault)
  | chartsFailed (failed attempted : Nat) (group : String) (first : ReportError)
  deriving DecidableEq

/-- The phrases for what other parties report: the operating system and the JSON format. -/
structure Phrases where
  fault : FileFault → String
  json : String

def Phrases.standard : Phrases := ⟨FileFault.message, "not the expected JSON"⟩

namespace ReportError

def kind : ReportError → ErrorKind
  | settingsUnreadable .. => .io
  | settingsMalformed .. => .parse
  | settingsNotObject .. => .invalidInput
  | thresholdInvalid .. => .invalidInput
  | snapshotMissing .. => .missingInput
  | snapshotUnreadable .. => .io
  | snapshotMalformed .. => .parse
  | snapshotUnwritable .. => .io
  | noBase => .missingInput
  | noBaseRuns .. => .missingInput
  | outputUnwritable .. => .io
  | noPainter => .noPainter
  | chartsDirectory .. => .io
  | chartRefused .. => .render
  | chartUnwritable .. => .io
  | indexUnwritable .. => .io
  | chartsFailed .. => .render

def detail (phrases : Phrases) : ReportError → String
  | settingsUnreadable path fault => "config " ++ path ++ ": " ++ phrases.fault fault
  | settingsMalformed path => "config " ++ path ++ ": " ++ phrases.json
  | settingsNotObject path => "config " ++ path ++ " must contain a JSON object"
  | thresholdInvalid threshold =>
    "threshold must be a non-negative number, got " ++
      String.ofList (NumberText.Layout.message.text threshold)
  | snapshotMissing path => "baseline snapshot " ++ path ++ " not found"
  | snapshotUnreadable fault => phrases.fault fault
  | snapshotMalformed path => path ++ ": " ++ phrases.json
  | snapshotUnwritable fault => phrases.fault fault
  | noBase => "a base directory or baseline snapshot is required for a comparison comment"
  | noBaseRuns suffix => "no base runs with suffix " ++ Text.quoted suffix ++ " found"
  | outputUnwritable path fault => path ++ ": " ++ phrases.fault fault
  | noPainter => "no image backend compiled in, skipping charts"
  | chartsDirectory fault => phrases.fault fault
  | chartRefused reason => reason
  | chartUnwritable file fault => file ++ ": " ++ phrases.fault fault
  | indexUnwritable fault => phrases.fault fault
  | chartsFailed failed attempted group first =>
    toString failed ++ " of " ++ toString attempted ++ " charts failed, first " ++ group ++ ": " ++
      first.kind.headline ++ detail phrases first

def message (phrases : Phrases) (error : ReportError) : String :=
  error.kind.headline ++ detail phrases error

end ReportError

end BenchReport
