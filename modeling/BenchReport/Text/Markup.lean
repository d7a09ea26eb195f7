/-!
# Markup

A document is a list of pieces: markup that the library writes itself, and text that comes from names and settings. Only the second kind is escaped, so no name can open or close a tag or an attribute, whatever it contains.
-/

namespace BenchReport.Text

inductive Piece where
  | markup (source : String)
  | content (text : String)
  deriving DecidableEq, Repr

/-- The characters that a document format writes as entities. -/
structure EntityTable where
  entity? : Char → Option String

/-- The entities that suffice in text and in attributes between double quotes. -/
def EntityTable.attribute : EntityTable where
  entity?
    | '&' => some "&amp;"
    | '<' => some "&lt;"
    | '>' => some "&gt;"
    | '"' => some "&quot;"
    | _ => none

/-- The entities of a page, where single quotes count too. -/
def EntityTable.page : EntityTable where
  entity?
    | '\'' => some "&#39;"
    | c => EntityTable.attribute.entity? c

def EntityTable.escapeChar (table : EntityTable) (c : Char) : List Char :=
  match table.entity? c with
  | some entity => entity.toList
  | none => [c]

def EntityTable.escape (table : EntityTable) (text : String) : String :=
  String.ofList (text.toList.flatMap table.escapeChar)

def Piece.render (table : EntityTable) : Piece → String
  | markup source => source
  | content text => table.escape text

def render (table : EntityTable) (pieces : List Piece) : String :=
  String.join (pieces.map (Piece.render table))

end BenchReport.Text
