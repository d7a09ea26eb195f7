import BenchReport.Proofs.Text.Markup

/-!
# Texts filled into markup

A document has an outline, its marks, and fields, what stands between two marks. A text that is filled in has no mark, so it adds none to the outline and divides no field. Where each text stands between two marks of the markup, it is a field of its own, and the other fields are those of the markup: a document is the same template whatever is filled into it, and reading it against the template gives the texts back.
-/

namespace BenchReport.Text

/-- What is left of a text when all but the marks is deleted. -/
def marks (text : String) : List Char := text.toList.filter isMark

/-- What stands before, between and behind the marks of a text. -/
def fields (text : String) : List (List Char) := text.toList.splitOnP isMark

/-! ### Templates -/

/-- The fields of a document, with gaps for the texts that are filled in. -/
abbrev Template := List (Option (List Char))

/-- Reads fields against a template. A fixed field has to be there as it is; a gap takes any field, which is decoded. -/
def Template.read? (decode : List Char → List Char) :
    Template → List (List Char) → Option (List String)
  | [], [] => some []
  | some fixed :: template, field :: fields =>
    if field = fixed then read? decode template fields else none
  | none :: template, field :: fields =>
    (read? decode template fields).map (String.ofList (decode field) :: ·)
  | _, _ => none

/-- Puts a character of the markup before a template, where a mark ends the field. -/
def Template.addChar (c : Char) (template : Template) : Template :=
  if isMark c then some [] :: template else template.modifyHead (Option.map (c :: ·))

/-- The template of some pieces. Between a text and the mark behind it there is nothing, so the gap takes the place of the empty field that the rest begins with. -/
def template : List Piece → Template
  | [] => [some []]
  | .markup source :: rest => source.toList.foldr Template.addChar (template rest)
  | .content _ :: rest => none :: (template rest).tail

/-! ### Pieces and their texts -/

def Piece.text? : Piece → Option String
  | .markup _ => none
  | .content text => some text

def Piece.blank : Piece → Piece
  | .markup source => .markup source
  | .content _ => .content ""

def endsInMark (text : String) : Bool := text.toList.getLast?.any isMark

def startsInMark (text : String) : Bool := text.toList.head?.any isMark

/-- Whether the pieces begin with a text that is filled in. -/
def isOpen : List Piece → Bool
  | .content _ :: _ => true
  | _ => false

/-- Whether each text that is filled in stands between two marks of the markup. -/
def isGuarded : List Piece → Bool
  | [] => true
  | .markup source :: rest => (!isOpen rest || endsInMark source) && isGuarded rest
  | .content _ :: .markup source :: rest => startsInMark source && isGuarded (.markup source :: rest)
  | .content _ :: _ => false

/-- Pieces that are those of a blank document with texts filled in, and guard them. -/
structure Fills (pieces blanks : List Piece) (texts : List String) : Prop where
  blanks : pieces.map Piece.blank = blanks.map Piece.blank
  texts : pieces.filterMap Piece.text? = texts
  guarded : isGuarded pieces = true
  closed : isOpen pieces = false

theorem isOpen_append {front back : List Piece} (hfront : isOpen front = false)
    (hback : isOpen back = false) : isOpen (front ++ back) = false := by
  cases front with
  | nil => exact hback
  | cons piece rest => cases piece with
    | markup source => rfl
    | content text => cases hfront

theorem isGuarded_append {front back : List Piece} (hfront : isGuarded front = true)
    (hback : isGuarded back = true) (hclosed : isOpen back = false) :
    isGuarded (front ++ back) = true := by
  induction front with
  | nil => exact hback
  | cons piece rest ih => cases piece with
    | markup source =>
        rw [isGuarded, Bool.and_eq_true] at hfront
        rw [List.cons_append, isGuarded, ih hfront.2, Bool.and_true]
        cases hopen : isOpen rest with
        | false => rw [isOpen_append hopen hclosed, Bool.not_false, Bool.true_or]
        | true =>
            have hends : endsInMark source = true := by simpa [hopen] using hfront.1
            rw [hends, Bool.or_true]
    | content text => cases rest with
      | nil => cases hfront
      | cons next later => cases next with
        | content other => cases hfront
        | markup source =>
            rw [isGuarded, Bool.and_eq_true] at hfront
            rw [List.cons_append, List.cons_append, isGuarded, hfront.1, Bool.true_and]
            exact ih hfront.2

namespace Fills

theorem nil : Fills [] [] [] := ⟨rfl, rfl, rfl, rfl⟩

theorem append {front back frontBlanks backBlanks : List Piece} {frontTexts backTexts : List String}
    (hfront : Fills front frontBlanks frontTexts) (hback : Fills back backBlanks backTexts) :
    Fills (front ++ back) (frontBlanks ++ backBlanks) (frontTexts ++ backTexts) where
  blanks := by rw [List.map_append, List.map_append, hfront.blanks, hback.blanks]
  texts := by rw [List.filterMap_append, hfront.texts, hback.texts]
  guarded := isGuarded_append hfront.guarded hback.guarded hback.closed
  closed := isOpen_append hfront.closed hback.closed

theorem flatMap {α : Type} {pieces blanks : α → List Piece} {texts : α → List String}
    (h : ∀ a, Fills (pieces a) (blanks a) (texts a)) (list : List α) :
    Fills (list.flatMap pieces) (list.flatMap blanks) (list.flatMap texts) := by
  induction list with
  | nil => exact nil
  | cons a rest ih => exact (h a).append ih

/-- Numbered elements and their blank forms, each drawn by its number. -/
theorem numbered {α : Type} {pieces blanks : Nat → α → List Piece} {blank : α → α}
    {texts : Nat → α → List String}
    (h : ∀ index a, Fills (pieces index a) (blanks index (blank a)) (texts index a))
    (list : List α) :
    Fills (list.zipIdx.flatMap fun drawn => pieces drawn.2 drawn.1)
      ((list.map blank).zipIdx.flatMap fun drawn => blanks drawn.2 drawn.1)
      (list.zipIdx.flatMap fun drawn => texts drawn.2 drawn.1) := by
  rw [List.zipIdx_map, List.flatMap_map]
  exact flatMap (fun drawn : α × Nat => h drawn.2 drawn.1) list.zipIdx

/-- Numbered elements whose texts do not depend on their numbers. -/
theorem inOrder {α : Type} {pieces : Nat → α → List Piece} {blank : α → α} {texts : α → List String}
    (h : ∀ index a, Fills (pieces index a) (pieces index (blank a)) (texts a)) (list : List α) :
    Fills (list.zipIdx.flatMap fun drawn => pieces drawn.2 drawn.1)
      ((list.map blank).zipIdx.flatMap fun drawn => pieces drawn.2 drawn.1)
      (list.flatMap texts) := by
  have htexts : (list.zipIdx.flatMap fun drawn => texts drawn.1) = list.flatMap texts := by
    rw [← List.flatMap_map Prod.fst texts, List.zipIdx_map_fst]
  rw [← htexts]
  exact numbered h list

end Fills

/-! ### Outlines -/

section Render

variable {table : EntityTable} (hshields : table.Shields)
include hshields

theorem filter_isMark_escape (text : String) :
    (table.escape text).toList.filter isMark = [] := by
  rw [List.filter_eq_nil_iff]
  intro c hc
  rw [hshields.escape text c hc]
  exact Bool.false_ne_true

/-- A document and its blank form have the same outline. -/
theorem marks_render_blank (pieces : List Piece) :
    marks (render table (pieces.map Piece.blank)) = marks (render table pieces) := by
  rw [marks, marks, toList_render, toList_render, List.filter_flatMap, List.filter_flatMap,
    List.flatMap_map]
  congr 1
  funext piece
  cases piece with
  | markup source => rfl
  | content text =>
      exact (filter_isMark_escape hshields "").trans (filter_isMark_escape hshields text).symm

/-- What is filled into a blank document does not change its outline. -/
theorem Fills.marks_eq {pieces blanks : List Piece} {texts : List String}
    (h : Fills pieces blanks texts) :
    marks (render table pieces) = marks (render table blanks) := by
  rw [← marks_render_blank hshields pieces, h.blanks, marks_render_blank hshields]

end Render

/-! ### Fields -/

theorem template_blank (pieces : List Piece) : template (pieces.map Piece.blank) = template pieces := by
  induction pieces with
  | nil => rfl
  | cons piece rest ih => cases piece with
    | markup source => rw [List.map_cons, Piece.blank, template, template, ih]
    | content text => rw [List.map_cons, Piece.blank, template, template, ih]

namespace Template

variable {decode : List Char → List Char}

/-- A character of the markup belongs to the field behind it, which a template that does not begin with a gap has as it is. -/
theorem read?_addChar {template : Template} (hgap : template.head? ≠ some none) (c : Char)
    (chars : List Char) :
    read? decode (template.addChar c) ((c :: chars).splitOnP isMark) =
      read? decode template (chars.splitOnP isMark) := by
  rw [addChar, List.splitOnP_cons_eq_if_modifyHead]
  split
  · rw [read?, if_pos rfl]
  · obtain ⟨field, fields, hsplit⟩ :=
      List.exists_cons_of_ne_nil (List.splitOnP_ne_nil isMark chars)
    rw [hsplit, List.modifyHead_cons]
    cases template with
    | nil => rfl
    | cons first rest => cases first with
      | none => exact absurd rfl hgap
      | some fixed =>
          rw [List.modifyHead_cons, Option.map_some, read?, read?]
          simp only [List.cons.injEq, true_and]

theorem head?_addChar {template : Template} (hgap : template.head? ≠ some none) (c : Char) :
    (template.addChar c).head? ≠ some none := by
  rw [addChar]
  split
  · simp
  · cases template with
    | nil => simp
    | cons first rest => cases first with
      | none => exact absurd rfl hgap
      | some fixed => simp

theorem head?_foldr {template : Template} (hgap : template.head? ≠ some none) (source : List Char) :
    (source.foldr addChar template).head? ≠ some none := by
  induction source with
  | nil => exact hgap
  | cons c rest ih => exact head?_addChar ih c

/-- Markup before a template that does not begin with a gap. -/
theorem read?_foldr {template : Template} (hgap : template.head? ≠ some none)
    (source chars : List Char) :
    read? decode (source.foldr addChar template) ((source ++ chars).splitOnP isMark) =
      read? decode template (chars.splitOnP isMark) := by
  induction source with
  | nil => rfl
  | cons c rest ih =>
      rw [List.foldr_cons, List.cons_append, read?_addChar (head?_foldr hgap rest), ih]

/-- A mark ends the field before it, so any template can follow. -/
theorem addChar_mark {mark : Char} (hmark : isMark mark = true) (template : Template) :
    addChar mark template = some [] :: template := if_pos hmark

theorem splitOnP_mark {mark : Char} (hmark : isMark mark = true) (chars : List Char) :
    (mark :: chars).splitOnP isMark = [] :: chars.splitOnP isMark := by
  rw [List.splitOnP_cons_eq_if_modifyHead, if_pos hmark]

/-- Markup that ends in a mark, before any template. -/
theorem read?_foldr_concat {mark : Char} (hmark : isMark mark = true) (template : Template)
    (front chars : List Char) :
    read? decode ((front ++ [mark]).foldr addChar template)
        ((front ++ [mark] ++ chars).splitOnP isMark) =
      read? decode template (chars.splitOnP isMark) := by
  rw [List.foldr_append, List.foldr_cons, List.foldr_nil, addChar_mark hmark, List.append_assoc,
    List.singleton_append, read?_foldr (by simp), splitOnP_mark hmark, read?, if_pos rfl]

end Template

theorem exists_of_endsInMark {source : String} (h : endsInMark source = true) :
    ∃ front mark, source.toList = front ++ [mark] ∧ isMark mark = true := by
  obtain ⟨mark, hlast, hmark⟩ := (Option.any_eq_true _ _).1 h
  obtain ⟨front, hfront⟩ := List.getLast?_eq_some_iff.1 hlast
  exact ⟨front, mark, hfront, hmark⟩

theorem exists_of_startsInMark {source : String} (h : startsInMark source = true) :
    ∃ mark back, source.toList = mark :: back ∧ isMark mark = true := by
  obtain ⟨mark, hfirst, hmark⟩ := (Option.any_eq_true _ _).1 h
  obtain ⟨back, hback⟩ := List.head?_eq_some_iff.1 hfirst
  exact ⟨mark, back, hback, hmark⟩

/-- Only the template of pieces that begin with a text begins with a gap. -/
theorem head?_template {pieces : List Piece} (h : isGuarded pieces = true)
    (hclosed : isOpen pieces = false) : (template pieces).head? ≠ some none := by
  induction pieces with
  | nil => simp [template]
  | cons piece rest ih => cases piece with
    | content text => cases hclosed
    | markup source =>
        rw [isGuarded, Bool.and_eq_true, Bool.or_eq_true, Bool.not_eq_true'] at h
        rw [template]
        obtain hrest | hends := h.1
        · exact Template.head?_foldr (ih h.2 hrest) source.toList
        · obtain ⟨front, mark, hfront, hmark⟩ := exists_of_endsInMark hends
          rw [hfront, List.foldr_append, List.foldr_cons, List.foldr_nil,
            Template.addChar_mark hmark]
          exact Template.head?_foldr (by simp) front

section Render

variable {table : EntityTable} (hshields : table.Shields) {decode : List Char → List Char}
  (hdecode : table.DecodedBy decode)
include hshields hdecode

/-- A document is read against the template of its pieces: what is fixed is there, and the gaps give the texts back that were filled in. -/
theorem read?_template {pieces : List Piece} (h : isGuarded pieces = true) :
    (template pieces).read? decode (fields (render table pieces)) =
      some (pieces.filterMap Piece.text?) := by
  rw [fields, toList_render]
  induction pieces with
  | nil => rfl
  | cons piece rest ih => cases piece with
    | markup source =>
        rw [isGuarded, Bool.and_eq_true, Bool.or_eq_true, Bool.not_eq_true'] at h
        rw [template, List.flatMap_cons, Piece.render, List.filterMap_cons_none rfl, ← ih h.2]
        obtain hclosed | hends := h.1
        · exact Template.read?_foldr (head?_template h.2 hclosed) source.toList _
        · obtain ⟨front, mark, hfront, hmark⟩ := exists_of_endsInMark hends
          rw [hfront]
          exact Template.read?_foldr_concat hmark (template rest) front _
    | content text => cases rest with
      | nil => cases h
      | cons next later => cases next with
        | content other => cases h
        | markup source =>
            rw [isGuarded, Bool.and_eq_true] at h
            obtain ⟨mark, back, hback, hmark⟩ := exists_of_startsInMark h.1
            have hread := ih h.2
            have hfield := List.splitOnP_eq_singleton (hshields.escape text)
            -- The mark behind the text ends its field; without the text that field is empty.
            rw [template, List.flatMap_cons, Piece.render, hback, List.foldr_cons,
              Template.addChar_mark hmark, List.cons_append, Template.splitOnP_mark hmark,
              Template.read?, if_pos rfl] at hread
            rw [template, template, List.flatMap_cons, List.flatMap_cons, Piece.render, Piece.render,
              hback, List.foldr_cons, Template.addChar_mark hmark, List.tail_cons, List.cons_append,
              List.splitOnP_append_cons _ _ hmark, hfield, List.singleton_append, Template.read?,
              hread, Option.map_some, hdecode.escape]
            rfl

/-- What is filled into a blank document does not change its template, and is read back against it. -/
theorem Fills.read?_eq {pieces blanks : List Piece} {texts : List String}
    (h : Fills pieces blanks texts) :
    (template blanks).read? decode (fields (render table pieces)) = some texts := by
  rw [← template_blank blanks, ← h.blanks, template_blank,
    read?_template hshields hdecode h.guarded, h.texts]

end Render

end BenchReport.Text
