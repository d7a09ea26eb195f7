import BenchReport.Text.Segments

/-!
# Benchmark names

A name is read as `group/variant/parameter`. A name without a slash is its own group and variant; segments after the third are not looked at, and empty segments count.
-/

namespace BenchReport

structure NameParts where
  group : String
  variant : String
  parameter : Option String
  /-- Whether the name is one segment, which stands for the group and the variant. -/
  lone : Bool
  deriving DecidableEq, Repr

namespace NameParts

def ofSegments : List String → NameParts
  | [] => ⟨"", "", none, true⟩
  | [group] => ⟨group, group, none, true⟩
  | [group, variant] => ⟨group, variant, none, false⟩
  | group :: variant :: parameter :: _ => ⟨group, variant, some parameter, false⟩

def ofName (name : String) : NameParts := ofSegments (Text.segments '/' name)

def join (group variant : String) (parameter : Option String) : String :=
  match parameter with
  | some parameter => group ++ "/" ++ variant ++ "/" ++ parameter
  | none => group ++ "/" ++ variant

/-- The name that the parts came from, up to the third segment. -/
def toName (parts : NameParts) : String :=
  if parts.lone then parts.group else join parts.group parts.variant parts.parameter

end NameParts

end BenchReport
