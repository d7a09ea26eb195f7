import BenchReport.CommandLine.Invocation
import BenchReport.CommandLine.Usage
import BenchReport.FileTree.Change
import BenchReport.Report.Run

/-!
# The program

The only module that touches the disk. It reads what the paths of a command line lead to into a file tree, runs the request on the tree, and writes back the files that changed.
-/

namespace BenchReport.Program

open CommandLine

/-! ### Reading the disk -/

def pathsOf (invocation : Invocation) : List String :=
  let sources := match invocation.source with
    | .criterion head base baseSnapshot _ => [some head, base, baseSnapshot]
    | .mimalloc log _ => [some log]
  let outputs := Output.all.map invocation.shared.destinations.path?
  (sources ++ [invocation.shared.settingsPath] ++ outputs).filterMap id

/-- The paths of the directories that a path walks through, from the outermost on. -/
def ancestors (path : String) : List String :=
  let names := Path.steps path
  (List.range names.length).map fun count =>
    (if Path.isAbsolute path then "/" else "") ++ "/".intercalate (names.take count)

def typeAt (path : String) : IO (Option IO.FS.FileType) := do
  try
    let place ← IO.FS.realPath path
    return some (← place.metadata).type
  catch _ => return none

def loadFile (tree : FileTree) (path : String) : IO FileTree := do
  try
    return tree.withFile path (.ofBytes (← IO.FS.readBinFile path))
  catch _ => return tree

/-- Files below a directory matter only if they are estimates. -/
def isWanted (name : String) : Bool := name == "estimates.json"

partial def loadDirectory (tree : FileTree) (path : String) : IO FileTree := do
  let mut loaded := tree.withDirectory path
  for entry in ← (← IO.FS.realPath path).readDir do
    let child := Path.join path entry.fileName
    match (← entry.path.symlinkMetadata).type with
    | .dir => loaded ← loadDirectory loaded child
    | .file => if isWanted entry.fileName then loaded ← loadFile loaded child
    | _ => pure ()
  return loaded

def load (tree : FileTree) (path : String) : IO FileTree := do
  let mut loaded := tree
  for outer in ancestors path do
    match ← typeAt outer with
    | some .dir => loaded := loaded.withDirectory outer
    | some .file => loaded ← loadFile loaded outer
    | _ => pure ()
  match ← typeAt path with
  | some .dir => loadDirectory loaded path
  | some .file => loadFile loaded path
  | _ => return loaded

/-! ### Writing the disk -/

def store (before after : FileTree) : IO Unit := do
  for (location, content) in FileTree.changedFiles before after [] do
    IO.FS.createDirAll ("/" ++ FileTree.pathOf location.tail)
    let path := "/" ++ FileTree.pathOf location
    match content with
    | .text source => IO.FS.writeFile path source
    | .binary bytes => IO.FS.writeBinFile path bytes

/-! ### Running -/

def tell (level : LogLevel) (outcome : Outcome) : IO Unit := do
  if level ≠ .error then
    for warning in outcome.warnings do
      IO.eprintln ("warning: " ++ warning)
  for status in outcome.failures do
    if let .error error := status.result then
      IO.eprintln (status.output.name ++ " failed: " ++ error.message .standard)
  if outcome.statuses.isEmpty then
    IO.eprintln "nothing to do: no --output-* flag given"

def serve (invocation : Invocation) : IO UInt32 := do
  let home := FileTree.ofHome (← IO.currentDir).toString
  let tree ← (pathsOf invocation).foldlM load home
  match invocation.toRequest tree with
  | .error error =>
    IO.eprintln ("error: " ++ error.message .standard)
    return 2
  | .ok request =>
    let (after, outcome) := request.run (some .svg) tree
    store tree after
    tell invocation.logLevel outcome
    return outcome.exitCode.toUInt32

end BenchReport.Program

def main (args : List String) : IO UInt32 := do
  match BenchReport.CommandLine.Invocation.ofArguments args with
  | .ok invocation => BenchReport.Program.serve invocation
  | .error reply =>
    if reply.exitCode = 0 then IO.println reply.text else IO.eprintln reply.text
    return reply.exitCode.toUInt32
