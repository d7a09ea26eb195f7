import BenchReport.Name
import BenchReport.SortedMap

/-!
# Results

The results of one run: a value for every benchmark name, in name order. One run may hold two, a base run under variants with a suffix and a head run under the others; it is split by the suffix.
-/

namespace BenchReport

abbrev Results := SortedMap String Float

namespace Results

def variantOf (name : String) : String := (NameParts.ofName name).variant

def restrict (results : Results) (wanted : String → Bool) : Results :=
  results.filter fun name _ => wanted (variantOf name)

/-! ### Base runs -/

/-- The name of the head run that a name of a base run belongs to. Base runs carry the suffix at the end of their variant; names of one segment and an empty suffix mark none. -/
def baseName? (suffix name : String) : Option String :=
  let parts := NameParts.ofName name
  if suffix = "" ∨ parts.lone then none
  else (Text.stripEnding? suffix parts.variant).map fun variant =>
    NameParts.join parts.group variant parts.parameter

def baseHalf (results : Results) (suffix : String) : Results :=
  SortedMap.ofList (results.entries.filterMap fun entry =>
    (baseName? suffix entry.1).map fun name => (name, entry.2))

def headHalf (results : Results) (suffix : String) : Results :=
  results.filter fun name _ => (baseName? suffix name).isNone

end Results

end BenchReport
