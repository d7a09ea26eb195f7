/-!
# Segments

Cutting a text at a separator. There is always at least one segment, and putting the separator back between the segments gives the text again.
-/

namespace BenchReport.Text

def segments (separator : Char) (text : String) : List String :=
  (text.toList.splitOn separator).map String.ofList

/-- The text before the last occurrence of a character, or all of it if the character does not occur. -/
def beforeLast (separator : Char) (text : String) : String :=
  match (segments separator text).dropLast with
  | [] => text
  | init => (String.singleton separator).intercalate init

/-- The text without an ending, if it has that ending. -/
def stripEnding? (ending text : String) : Option String :=
  if ending.toList <:+ text.toList then
    some (String.ofList (text.toList.take (text.toList.length - ending.toList.length)))
  else none

/-! ### Lines -/

def stripReturn (line : List Char) : List Char :=
  if line.getLast? = some '\r' then line.dropLast else line

/-- The lines of a text. A line ends with a newline, with or without a carriage return before it; a text that ends with a newline has no further line. -/
def lines (text : String) : List String :=
  let pieces := text.toList.splitOn '\n'
  let last := pieces.getLast?.getD []
  let ended := pieces.dropLast.map stripReturn
  (if last = [] then ended else ended ++ [last]).map String.ofList

end BenchReport.Text
