import BenchReport.Json.Basic

/-!
# Printing JSON

The layout of data files: two blanks per level, one item or field per line, empty containers closed at once, and no newline at the end. In strings only the quote, the backslash and control characters are escaped.
-/

namespace BenchReport.Json

def hexDigit (n : Nat) : Char := Nat.digitChar (n % 16)

def escapeChar (c : Char) : List Char :=
  match c with
  | '"' => ['\\', '"']
  | '\\' => ['\\', '\\']
  | '\x08' => ['\\', 'b']
  | '\x0c' => ['\\', 'f']
  | '\n' => ['\\', 'n']
  | '\r' => ['\\', 'r']
  | '\t' => ['\\', 't']
  | _ =>
    if c.toNat < 0x20 then ['\\', 'u', '0', '0', hexDigit (c.toNat / 16), hexDigit c.toNat]
    else [c]

def stringText (text : String) : List Char :=
  '"' :: text.toList.flatMap escapeChar ++ ['"']

def integerText (value : Int) : List Char :=
  if value < 0 then '-' :: NumberText.digits value.natAbs else NumberText.digits value.natAbs

def Number.text : Number → List Char
  | integer value => integerText value
  | real value => NumberText.Layout.data.text value

/-- A line break and the blanks of a level. -/
def newline (level : Nat) : List Char := '\n' :: List.replicate (2 * level) ' '

mutual

def textAt (level : Nat) : Json → List Char
  | null => "null".toList
  | bool value => if value then "true".toList else "false".toList
  | number value => value.text
  | string value => stringText value
  | array [] => ['[', ']']
  | array (item :: rest) =>
    '[' :: newline (level + 1) ++ textAt (level + 1) item ++ itemsText (level + 1) rest ++
      newline level ++ [']']
  | object [] => ['\x7b', '\x7d']
  | object (entry :: rest) =>
    '\x7b' :: newline (level + 1) ++ fieldText (level + 1) entry ++ fieldsText (level + 1) rest ++
      newline level ++ ['\x7d']

/-- The items after the first, each on a line of its own. -/
def itemsText (level : Nat) : List Json → List Char
  | [] => []
  | item :: rest => ',' :: newline level ++ textAt level item ++ itemsText level rest

def fieldText (level : Nat) : String × Json → List Char
  | (name, value) => stringText name ++ ':' :: ' ' :: textAt level value

def fieldsText (level : Nat) : List (String × Json) → List Char
  | [] => []
  | entry :: rest => ',' :: newline level ++ fieldText level entry ++ fieldsText level rest

end

def text (value : Json) : String := String.ofList (value.textAt 0)

end BenchReport.Json
