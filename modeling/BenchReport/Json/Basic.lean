import BenchReport.Number.Text
import BenchReport.SortedMap

/-!
# JSON values

Numbers are kept as what their text says: an integer of at most sixty-four bits, or a double. The fields of an object stand in the order of its text, where a name may come more than once. Looking a name up finds its last field.
-/

namespace BenchReport

inductive Json.Number where
  | integer (value : Int)
  | real (value : Float)
  deriving DecidableEq

inductive Json where
  | null
  | bool (value : Bool)
  | number (value : Json.Number)
  | string (value : String)
  | array (items : List Json)
  | object (fields : List (String × Json))

namespace Json

instance : Inhabited Json := ⟨null⟩

def Number.toFloat : Number → Float
  | integer value => Binary64.ofInt value
  | real value => value

/-- A double as a value: numbers that are not finite have no text and become null. -/
def ofFloat (x : Float) : Json :=
  if Binary64.magnitude x < Binary64.infiniteMagnitude then number (.real x) else null

def ofMap {α : Type} (encode : α → Json) (map : SortedMap String α) : Json :=
  object (map.entries.map fun entry => (entry.1, encode entry.2))

/-! ### Looking inside -/

/-- The value of the last field with a name. -/
def field? (name : String) : Json → Option Json
  | object fields => SortedMap.lookupEntry name fields.reverse
  | _ => none

def float? : Json → Option Float
  | number value => some value.toFloat
  | _ => none

def string? : Json → Option String
  | string value => some value
  | _ => none

def array? : Json → Option (List Json)
  | array items => some items
  | _ => none

/-- A map, if every field has a value that the decoder takes, also a field that a later one replaces. -/
def map? {α : Type} (decode : Json → Option α) : Json → Option (SortedMap String α)
  | object fields => (fields.mapM fun entry => (decode entry.2).map (entry.1, ·)).map SortedMap.ofList
  | _ => none

end Json

end BenchReport
