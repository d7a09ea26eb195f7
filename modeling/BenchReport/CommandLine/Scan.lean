import BenchReport.CommandLine.Option
import BenchReport.Text.Segments

/-!
# Scanning arguments

Arguments are read from left to right and the first fault ends the reading. An option whose value is a word of its own is judged late: only when the next option comes, or the end. So a fault of the word after it is found first.
-/

namespace BenchReport.CommandLine

/-- Why arguments are no request. -/
inductive UsageFault where
  | noCommand
  | unknownCommand
  | unknownArgument
  | missingValue
  | malformedNumber
  | unwantedValue
  | conflict
  | missingOption
  deriving DecidableEq, Repr

/-- The replies that end the program before there is a request. -/
inductive Reply where
  | help
  | version
  | fault (reason : UsageFault)
  deriving DecidableEq, Repr

def Reply.exitCode : Reply → UInt8
  | fault _ => 2
  | _ => 0

/-- The options read so far. -/
structure Scanned where
  given : List (OptionKey × List String)
  /-- The option that waits to be judged, and its value if it has come. -/
  pending : Option (OptionKey × Option String)
  deriving DecidableEq, Repr

namespace Scanned

def empty : Scanned := ⟨[], none⟩

def has (scanned : Scanned) (key : OptionKey) : Bool := scanned.given.any fun entry => entry.1 == key

def values (scanned : Scanned) (key : OptionKey) : List String :=
  (scanned.given.filter fun entry => entry.1 == key).flatMap Prod.snd

def value? (scanned : Scanned) (key : OptionKey) : Option String := (scanned.values key).head?

def list? (scanned : Scanned) (key : OptionKey) : Option (List String) :=
  if scanned.has key then some (scanned.values key) else none

/-! ### One option -/

def parseValue (shape : ValueShape) (text : String) : Except UsageFault (List String) :=
  match shape with
  | .flag => .ok []
  | .path => if text = "" then .error .missingValue else .ok [text]
  | .text => .ok [text]
  | .number => if (NumberText.readFloat? text).isSome then .ok [text] else .error .malformedNumber
  | .list => .ok (Text.segments ',' text)

/-- Takes an option with its value. All options but lists may be given once. -/
def give (scanned : Scanned) (key : OptionKey) (text : String) : Except Reply Scanned :=
  if key.shape ≠ .list && scanned.has key then .error (.fault .conflict)
  else
    match parseValue key.shape text with
    | .error reason => .error (.fault reason)
    | .ok values => .ok { scanned with given := scanned.given ++ [(key, values)] }

def settle (scanned : Scanned) : Except Reply Scanned :=
  match scanned.pending with
  | none => .ok scanned
  | some (_, none) => .error (.fault .missingValue)
  | some (key, some text) => { scanned with pending := none }.give key text

def takeFlag (scanned : Scanned) (key : OptionKey) : Except Reply Scanned := do
  let settled ← scanned.settle
  if key = .help then .error .help else settled.give key ""

/-- Takes an option, with a value if there is one in the same argument. -/
def takeOption (scanned : Scanned) (key : OptionKey) (value : Option String) :
    Except Reply Scanned :=
  match key.shape, value with
  | .flag, none => scanned.takeFlag key
  | .flag, some _ => .error (.fault .unwantedValue)
  | _, some text => do (← scanned.settle).give key text
  | _, none => do return { ← scanned.settle with pending := some (key, none) }

def takeLetter (scanned : Scanned) (letter : Char) : Except Reply Scanned :=
  match optionOfLetter? letter with
  | some key => scanned.takeFlag key
  | none => .error (.fault .unknownArgument)

/-- Takes a word, which must be a value that an option waits for. -/
def takePlain (scanned : Scanned) (text : String) : Except Reply Scanned :=
  match scanned.pending with
  | some (key, none) => .ok { scanned with pending := some (key, some text) }
  | _ => .error (.fault .unknownArgument)

/-! ### All arguments -/

/-- Reads the arguments after a command, up to the end or to two dashes, after which nothing may come. -/
def scan (command : Command) (scanned : Scanned) : List String → Except Reply Scanned
  | [] => .ok scanned
  | argument :: rest =>
    match Word.ofArgument argument with
    | .escape => if rest.isEmpty then .ok scanned else .error (.fault .unknownArgument)
    | .long name value =>
      match command.option? name with
      | none => .error (.fault .unknownArgument)
      | some key => do scan command (← scanned.takeOption key value) rest
    | .short letters => do scan command (← letters.foldlM takeLetter scanned) rest
    | .plain text => do scan command (← scanned.takePlain text) rest

/-- Options that exclude each other must not both be given. -/
def checkExclusions (scanned : Scanned) : Except Reply Unit :=
  if exclusions.any fun pair => scanned.has pair.1 && scanned.has pair.2 then
    .error (.fault .conflict)
  else .ok ()

def ofArguments (command : Command) (arguments : List String) : Except Reply Scanned := do
  let scanned ← scan command .empty arguments
  let settled ← scanned.settle
  settled.checkExclusions
  return settled

end Scanned

end BenchReport.CommandLine
