import BenchReport.Name
import BenchReport.Proofs.Text.Segments

/-!
# Names and their parts

A name of parts without slashes has these as its parts, since a slash in one of them would be one more segment; the parts of a name have none, and together they are the name again, unless it has a fourth segment. For a name of two segments more is true: no other pair of texts, with slashes or without, is written as the same name, so what is filed under it is filed for this group and this variant only.
-/

namespace BenchReport.NameParts

theorem segments_pair (front back : String) :
    Text.segments '/' (front ++ "/" ++ back) =
      Text.segments '/' front ++ Text.segments '/' back :=
  Text.segments_append '/' front back

/-! ### Joined parts -/

/-- Parts that can be told apart when they are joined. -/
structure SlashFree (parts : NameParts) : Prop where
  group : '/' ∉ parts.group.toList
  variant : '/' ∉ parts.variant.toList
  parameter : ∀ parameter ∈ parts.parameter, '/' ∉ parameter.toList

theorem slashFree_ofSegments {segments : List String}
    (h : ∀ segment ∈ segments, '/' ∉ segment.toList) : (ofSegments segments).SlashFree := by
  match segments with
  | [] => exact ⟨by simp [ofSegments], by simp [ofSegments], nofun⟩
  | [group] => exact ⟨h group (by simp), h group (by simp), nofun⟩
  | [group, variant] => exact ⟨h group (by simp), h variant (by simp), nofun⟩
  | group :: variant :: parameter :: _ =>
    refine ⟨h group (by simp), h variant (by simp), fun found hfound => ?_⟩
    rw [← Option.some.inj hfound]
    exact h parameter (by simp)

theorem slashFree_ofName (name : String) : (ofName name).SlashFree :=
  slashFree_ofSegments fun _ h => Text.not_mem_of_mem_segments h

/-- A name without a fourth segment. -/
def IsShort (name : String) : Prop := (Text.segments '/' name).length ≤ 3

instance (name : String) : Decidable (IsShort name) := inferInstanceAs (Decidable (_ ≤ _))

section Join

variable {group variant : String} {parameter : Option String} (hgroup : '/' ∉ group.toList)
  (hvariant : '/' ∉ variant.toList) (hparameter : ∀ text ∈ parameter, '/' ∉ text.toList)

include hgroup hvariant hparameter

/-- The segments of joined parts are the parts. -/
theorem segments_join :
    Text.segments '/' (join group variant parameter) = group :: variant :: parameter.toList := by
  cases parameter with
  | none =>
    rw [join, segments_pair, Text.segments_of_not_mem hgroup, Text.segments_of_not_mem hvariant]
    rfl
  | some text =>
    rw [join, segments_pair, segments_pair, Text.segments_of_not_mem hgroup,
      Text.segments_of_not_mem hvariant, Text.segments_of_not_mem (hparameter text rfl)]
    rfl

theorem ofName_join :
    ofName (join group variant parameter) = ⟨group, variant, parameter, false⟩ := by
  rw [ofName, segments_join hgroup hvariant hparameter]
  cases parameter <;> rfl

theorem isShort_join :
    IsShort (join group variant parameter) := by
  rw [IsShort, segments_join hgroup hvariant hparameter]
  cases parameter <;> simp

end Join

/-- Parts make up a name of their first three segments. -/
theorem toName_ofSegments {segments : List String} (h : segments ≠ []) :
    (ofSegments segments).toName = "/".intercalate (segments.take 3) := by
  match segments with
  | [group] => simp [ofSegments, toName]
  | [group, variant] => simp [ofSegments, toName, join]
  | group :: variant :: parameter :: _ => simp [ofSegments, toName, join, String.append_assoc]

theorem toName_ofName_eq (name : String) :
    (ofName name).toName = "/".intercalate ((Text.segments '/' name).take 3) :=
  toName_ofSegments (Text.segments_ne_nil '/' name)

/-- A name that is made up of parts has the segments that the parts were read from. -/
theorem segments_toName_ofName (name : String) :
    Text.segments '/' (ofName name).toName = (Text.segments '/' name).take 3 := by
  rw [toName_ofName_eq]
  refine Text.segments_intercalate ?_ fun piece hpiece =>
    Text.not_mem_of_mem_segments (List.mem_of_mem_take hpiece)
  simpa using Text.segments_ne_nil '/' name

theorem toName_ofName {name : String} (h : IsShort name) : (ofName name).toName = name := by
  rw [toName_ofName_eq, List.take_of_length_le h]
  exact Text.intercalate_segments_eq '/' name

theorem toName_ofName_iff {name : String} : (ofName name).toName = name ↔ IsShort name := by
  refine ⟨fun h => ?_, toName_ofName⟩
  have hsegments := segments_toName_ofName name
  rw [h] at hsegments
  rw [IsShort, hsegments]
  exact List.length_take_le 3 _

/-- Segments after the third are not looked at. -/
theorem ofSegments_take (segments : List String) :
    ofSegments (segments.take 3) = ofSegments segments := by
  match segments with
  | [] => rfl
  | [_] => rfl
  | [_, _] => rfl
  | _ :: _ :: _ :: _ => rfl

theorem ofName_toName (name : String) : ofName (ofName name).toName = ofName name := by
  rw [ofName, segments_toName_ofName, ofSegments_take, ofName]

/-- A name of one segment is its own group and variant. -/
theorem ofName_of_lone {name : String} (h : (ofName name).lone = true) :
    ofName name = ⟨name, name, none, true⟩ := by
  rw [ofName] at *
  match hsegments : Text.segments '/' name with
  | [] => exact absurd hsegments (Text.segments_ne_nil '/' name)
  | [segment] =>
    have hback := Text.intercalate_segments_eq '/' name
    rw [hsegments] at hback
    have hname : segment = name := by simpa using hback
    rw [hname]
    rfl
  | [_, _] =>
    rw [hsegments] at h
    cases h
  | _ :: _ :: _ :: _ =>
    rw [hsegments] at h
    cases h

theorem lone_iff {name : String} : (ofName name).lone = true ↔ '/' ∉ name.toList := by
  constructor
  · intro h
    have hgroup := (slashFree_ofName name).group
    rwa [ofName_of_lone h] at hgroup
  · intro h
    rw [ofName, Text.segments_of_not_mem h]
    rfl

/-! ### Two segments -/

theorem ofName_pair {group variant : String} (hgroup : '/' ∉ group.toList)
    (hvariant : '/' ∉ variant.toList) :
    ofName (group ++ "/" ++ variant) = ⟨group, variant, none, false⟩ := by
  rw [ofName, segments_pair, Text.segments_of_not_mem hgroup, Text.segments_of_not_mem hvariant]
  rfl

/-- A name of two segments tells what stands before and after its slash. -/
theorem pair_inj {front back group variant : String} (hgroup : '/' ∉ group.toList)
    (hvariant : '/' ∉ variant.toList) :
    front ++ "/" ++ back = group ++ "/" ++ variant ↔ front = group ∧ back = variant :=
  Text.pair_inj hgroup hvariant

/-- A name with a variant and without a parameter is its group and its variant. -/
theorem eq_pair_of_parameter {name : String} (hlone : (ofName name).lone = false)
    (hparameter : (ofName name).parameter = none) :
    name = (ofName name).group ++ "/" ++ (ofName name).variant := by
  have hback := Text.intercalate_segments_eq '/' name
  rw [ofName] at *
  match hsegments : Text.segments '/' name with
  | [] => exact absurd hsegments (Text.segments_ne_nil '/' name)
  | [_] =>
    rw [hsegments] at hlone
    cases hlone
  | [group, variant] =>
    rw [hsegments] at hback
    simpa [ofSegments] using hback.symm
  | _ :: _ :: _ :: _ =>
    rw [hsegments] at hparameter
    cases hparameter

/-! ### Taking apart and putting together -/

/-- What a name and its parts have to do with each other. -/
structure Mirrors (name : String) : Prop where
  /-- The segments of a name stand between its slashes, and nothing else does. -/
  segments : ∀ pieces, Text.segments '/' name = pieces ↔
    pieces ≠ [] ∧ (∀ piece ∈ pieces, '/' ∉ piece.toList) ∧ "/".intercalate pieces = name
  /-- What the parts make up is the name up to its third segment. -/
  front : (ofName name).toName = "/".intercalate ((Text.segments '/' name).take 3)
  whole : (ofName name).toName = name ↔ (Text.segments '/' name).length ≤ 3
  lone : (ofName name).lone = true ↔ '/' ∉ name.toList
  alone : (ofName name).lone = true → ofName name = ⟨name, name, none, true⟩
  again : ofName (ofName name).toName = ofName name

theorem mirrors (name : String) : Mirrors name where
  segments _ := Text.segments_eq_iff
  front := toName_ofName_eq name
  whole := toName_ofName_iff
  lone := lone_iff
  alone := ofName_of_lone
  again := ofName_toName name

/-- Parts without slashes are told by the name that they are joined to. -/
theorem SlashFree.join_inj {parts other : NameParts} (hparts : parts.SlashFree)
    (hother : other.SlashFree)
    (h : join parts.group parts.variant parts.parameter =
      join other.group other.variant other.parameter) :
    parts.group = other.group ∧ parts.variant = other.variant ∧
      parts.parameter = other.parameter := by
  have hread := congrArg ofName h
  rw [ofName_join hparts.group hparts.variant hparts.parameter,
    ofName_join hother.group hother.variant hother.parameter, NameParts.mk.injEq] at hread
  exact ⟨hread.1, hread.2.1, hread.2.2.1⟩

/-- A name gives back its first three segments and is told apart by them, and parts without slashes are read back from the name that they are joined to. -/
theorem ofName_mirrors :
    (∀ name, Mirrors name) ∧
    ∀ parts : NameParts, parts.SlashFree →
      ofName (join parts.group parts.variant parts.parameter) = { parts with lone := false } ∧
      ∀ other : NameParts, other.SlashFree →
        join parts.group parts.variant parts.parameter =
            join other.group other.variant other.parameter →
          parts.group = other.group ∧ parts.variant = other.variant ∧
            parts.parameter = other.parameter := by
  refine ⟨mirrors, fun parts hparts => ⟨?_, fun other hother => hparts.join_inj hother⟩⟩
  exact ofName_join hparts.group hparts.variant hparts.parameter

/-- Empty parts are parts too, and a fourth segment is lost. -/
theorem ofName_mirrors_emptyParts :
    (SlashFree ⟨"", "", some "", false⟩ ∧ SlashFree ⟨"", "", none, false⟩) ∧
    ofName "//" = ⟨"", "", some "", false⟩ ∧ ofName "/" = ⟨"", "", none, false⟩ ∧
    (ofName "//é/").toName ≠ "//é/" := by
  have hthree : SlashFree ⟨"", "", some "", false⟩ :=
    ⟨by decide, by decide, fun text htext => by rw [← Option.some.inj htext]; decide⟩
  have htwo : SlashFree ⟨"", "", none, false⟩ := ⟨by decide, by decide, nofun⟩
  refine ⟨⟨hthree, htwo⟩, (ofName_mirrors.2 _ hthree).1, (ofName_mirrors.2 _ htwo).1, ?_⟩
  rw [ne_eq, (ofName_mirrors.1 _).whole]
  decide +kernel

end BenchReport.NameParts
