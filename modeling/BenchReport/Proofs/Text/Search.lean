import BenchReport.Proofs.Text.Markup

/-!
# Looking for openings

A document is searched for an opening, such as the start of a tag, and read from each place where one stands. An opening that starts with a mark is never found in a text that is filled in, so only the markup has to be looked at, and there it is enough to look at one piece at a time: what a piece could begin but not end itself shows at its end.
-/

namespace BenchReport.Text

/-- What follows each place where an opening stands. -/
def restsAfter (opening : List Char) : List Char → List (List Char)
  | [] => []
  | c :: rest =>
    if opening <+: c :: rest then
      (c :: rest).drop opening.length :: restsAfter opening rest
    else restsAfter opening rest

/-- The decoded text before the first closing character. -/
def textUpTo (closing : Char) (chars : List Char) : String :=
  String.ofList (unescape (chars.takeWhile fun c => c != closing))

/-- Whether no opening starts in a text, whatever comes after it. -/
def isQuiet (opening : List Char) : List Char → Bool
  | [] => true
  | c :: rest =>
    !opening.isPrefixOf (c :: rest) && !(c :: rest).isPrefixOf opening && isQuiet opening rest

theorem restsAfter_append {opening front : List Char} (h : isQuiet opening front = true)
    (back : List Char) : restsAfter opening (front ++ back) = restsAfter opening back := by
  induction front with
  | nil => rfl
  | cons c rest ih =>
      simp only [isQuiet, Bool.and_eq_true, Bool.not_eq_true', ← Bool.not_eq_true,
        List.isPrefixOf_iff_prefix] at h
      obtain ⟨⟨hnot, hpart⟩, hrest⟩ := h
      -- An opening here would lie within the front, or the front would end before the opening does.
      have hstart : ¬opening <+: c :: (rest ++ back) := fun hopening =>
        (List.prefix_or_prefix_of_prefix hopening (List.prefix_append (c :: rest) back)).elim
          hnot hpart
      rw [List.cons_append, restsAfter, if_neg hstart, ih hrest]

/-- An opening is found where it stands, and then the search goes on behind it. -/
theorem restsAfter_opening {c : Char} {more : List Char} (h : isQuiet (c :: more) more = true)
    (back : List Char) :
    restsAfter (c :: more) (c :: more ++ back) = back :: restsAfter (c :: more) back := by
  have hstart : c :: more <+: c :: (more ++ back) := List.prefix_append (c :: more) back
  rw [List.cons_append, restsAfter, if_pos hstart, restsAfter_append h, ← List.cons_append,
    List.drop_left]

/-- A text without the first character of an opening. -/
theorem isQuiet_of_forall_ne {c : Char} {more chars : List Char} (h : ∀ other ∈ chars, other ≠ c) :
    isQuiet (c :: more) chars = true := by
  induction chars with
  | nil => rfl
  | cons other rest ih =>
      rw [List.forall_mem_cons] at h
      simp [isQuiet, List.isPrefixOf, ih h.2, h.1, Ne.symm h.1]

/-! ### Documents -/

def isQuietPiece (opening : List Char) : Piece → Bool
  | .markup source => isQuiet opening source.toList
  | .content _ => true

section Render

variable {table : EntityTable} (hshields : table.Shields) {c : Char} {more : List Char}
  (hmark : isMark c = true)
include hshields hmark

theorem isQuiet_escape (text : String) :
    isQuiet (c :: more) (table.escape text).toList = true := by
  apply isQuiet_of_forall_ne
  rintro other hother rfl
  rw [hshields.escape text other hother] at hmark
  cases hmark

theorem restsAfter_render_append {pieces : List Piece}
    (h : pieces.all (isQuietPiece (c :: more)) = true) (back : List Char) :
    restsAfter (c :: more) ((render table pieces).toList ++ back) = restsAfter (c :: more) back := by
  rw [toList_render]
  induction pieces with
  | nil => rfl
  | cons piece rest ih =>
      rw [List.all_cons, Bool.and_eq_true] at h
      have hpiece : isQuiet (c :: more) (piece.render table).toList = true := by
        cases piece with
        | markup source => exact h.1
        | content text => exact isQuiet_escape hshields hmark text
      rw [List.flatMap_cons, List.append_assoc, restsAfter_append hpiece, ih h.2]

/-- An opening within a piece of markup, and none before or behind it. -/
theorem restsAfter_render {front rest : List Piece} {source : String} {ahead behind : List Char}
    (hsource : source.toList = ahead ++ (c :: more ++ behind))
    (hfront : front.all (isQuietPiece (c :: more)) = true)
    (hahead : isQuiet (c :: more) ahead = true) (hmore : isQuiet (c :: more) more = true)
    (hbehind : isQuiet (c :: more) behind = true)
    (hrest : rest.all (isQuietPiece (c :: more)) = true) (back : List Char) :
    restsAfter (c :: more) ((render table (front ++ .markup source :: rest)).toList ++ back) =
      (behind ++ ((render table rest).toList ++ back)) :: restsAfter (c :: more) back := by
  have hchars : (render table (front ++ .markup source :: rest)).toList ++ back =
      (render table front).toList ++ (ahead ++ (c :: more ++ (behind ++
        ((render table rest).toList ++ back)))) := by
    rw [toList_render, List.flatMap_append, List.flatMap_cons, Piece.render, hsource,
      ← toList_render, ← toList_render]
    simp only [List.append_assoc]
  rw [hchars, restsAfter_render_append hshields hmark hfront, restsAfter_append hahead,
    restsAfter_opening hmore, restsAfter_append hbehind,
    restsAfter_render_append hshields hmark hrest]

end Render

theorem textUpTo_mark {closing : Char} (hmark : isMark closing = true) (text : String)
    (back : List Char) :
    textUpTo closing ((EntityTable.page.escape text).toList ++ closing :: back) = text := by
  have hother : ∀ c ∈ (EntityTable.page.escape text).toList, (c != closing) = true := by
    intro c hc
    rw [bne_iff_ne]
    rintro rfl
    rw [shields_page.escape text c hc] at hmark
    cases hmark
  rw [textUpTo, List.takeWhile_append_of_pos hother, List.takeWhile_cons_of_neg (by simp),
    List.append_nil, decodedBy_page.escape]

/-- A text that is filled in is read up to the markup behind it. -/
theorem textUpTo_render {closing : Char} (hmark : isMark closing = true) {source : String}
    {later : List Char} (hsource : source.toList = closing :: later) (text : String)
    (rest : List Piece) (back : List Char) :
    textUpTo closing
      ((render .page (.content text :: .markup source :: rest)).toList ++ back) = text := by
  rw [toList_render, List.flatMap_cons, List.flatMap_cons, Piece.render, Piece.render, hsource,
    List.append_assoc, List.cons_append, List.cons_append, textUpTo_mark hmark]

end BenchReport.Text
