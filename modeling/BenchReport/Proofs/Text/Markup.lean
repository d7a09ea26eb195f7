import BenchReport.Text.Markup

/-!
# Reading entities

The characters that have entities are written as nothing else, and an ampersand is one of them. So an ampersand always starts an entity, and reading the entities of an escaped text from left to right gives the text again, whatever entities it seems to hold itself. The characters that begin and end tags and attributes have entities too, and no entity has one of them, so an escaped text holds none.
-/

namespace BenchReport.Text

/-- Reads the entities of a page, in one pass from left to right. -/
def unescape : List Char → List Char
  | '&' :: 'a' :: 'm' :: 'p' :: ';' :: rest => '&' :: unescape rest
  | '&' :: 'l' :: 't' :: ';' :: rest => '<' :: unescape rest
  | '&' :: 'g' :: 't' :: ';' :: rest => '>' :: unescape rest
  | '&' :: 'q' :: 'u' :: 'o' :: 't' :: ';' :: rest => '"' :: unescape rest
  | '&' :: '#' :: '3' :: '9' :: ';' :: rest => '\'' :: unescape rest
  | c :: rest => c :: unescape rest
  | [] => []

/-- Reads the four entities of texts and attributes between double quotes, in one pass from left to right. -/
def unescapeAttribute : List Char → List Char
  | '&' :: 'a' :: 'm' :: 'p' :: ';' :: rest => '&' :: unescapeAttribute rest
  | '&' :: 'l' :: 't' :: ';' :: rest => '<' :: unescapeAttribute rest
  | '&' :: 'g' :: 't' :: ';' :: rest => '>' :: unescapeAttribute rest
  | '&' :: 'q' :: 'u' :: 'o' :: 't' :: ';' :: rest => '"' :: unescapeAttribute rest
  | c :: rest => c :: unescapeAttribute rest
  | [] => []

/-- The characters that begin and end tags and attributes. -/
def isMark (c : Char) : Bool := c == '<' || c == '>' || c == '"'

theorem unescape_cons {c : Char} (h : c ≠ '&') (rest : List Char) :
    unescape (c :: rest) = c :: unescape rest := by
  rw [unescape]
  all_goals exact fun _ hc _ => h hc

theorem unescapeAttribute_cons {c : Char} (h : c ≠ '&') (rest : List Char) :
    unescapeAttribute (c :: rest) = c :: unescapeAttribute rest := by
  rw [unescapeAttribute]
  all_goals exact fun _ hc _ => h hc

/-! ### Escaped characters -/

/-- A character is one of four with an entity, or it is written as it is. -/
theorem escapeChar_attribute_cases (c : Char) :
    (c = '&' ∨ c = '<' ∨ c = '>' ∨ c = '"') ∨
      c ≠ '&' ∧ isMark c = false ∧ EntityTable.attribute.escapeChar c = [c] := by
  by_cases h : c = '&' ∨ c = '<' ∨ c = '>' ∨ c = '"'
  · exact .inl h
  · simp only [not_or] at h
    refine .inr ⟨h.1, ?_, ?_⟩
    · simp [isMark, h]
    · simp [EntityTable.escapeChar, EntityTable.attribute, h]

/-- A page has one more entity, and else those of attributes. -/
theorem escapeChar_page_of_ne {c : Char} (h : c ≠ '\'') :
    EntityTable.page.escapeChar c = EntityTable.attribute.escapeChar c := by
  simp [EntityTable.escapeChar, EntityTable.page]

theorem toList_escape (table : EntityTable) (text : String) :
    (table.escape text).toList = text.toList.flatMap table.escapeChar := by
  rw [EntityTable.escape, String.toList_ofList]

/-! ### Decoders -/

/-- A decoder that gives every character back that a table has escaped, whatever follows it. -/
structure EntityTable.DecodedBy (table : EntityTable) (decode : List Char → List Char) : Prop where
  nil : decode [] = []
  escapeChar_append : ∀ c rest, decode (table.escapeChar c ++ rest) = c :: decode rest

theorem EntityTable.DecodedBy.escape {table : EntityTable} {decode : List Char → List Char}
    (h : table.DecodedBy decode) (text : String) :
    String.ofList (decode (table.escape text).toList) = text := by
  have hchars (chars : List Char) : decode (chars.flatMap table.escapeChar) = chars := by
    induction chars with
    | nil => exact h.nil
    | cons c rest ih => rw [List.flatMap_cons, h.escapeChar_append, ih]
  rw [toList_escape, hchars, String.ofList_toList]

theorem decodedBy_attribute : EntityTable.attribute.DecodedBy unescapeAttribute where
  nil := rfl
  escapeChar_append c rest := by
    rcases escapeChar_attribute_cases c with (rfl | rfl | rfl | rfl) | ⟨hplain, _, hescape⟩
    any_goals rfl
    rw [hescape, List.singleton_append, unescapeAttribute_cons hplain]

theorem decodedBy_page : EntityTable.page.DecodedBy unescape where
  nil := rfl
  escapeChar_append c rest := by
    by_cases hquote : c = '\''
    · rw [hquote]
      rfl
    · rw [escapeChar_page_of_ne hquote]
      rcases escapeChar_attribute_cases c with (rfl | rfl | rfl | rfl) | ⟨hplain, _, hescape⟩
      any_goals rfl
      rw [hescape, List.singleton_append, unescape_cons hplain]

/-! ### No marks -/

/-- A table that leaves no mark in a text. -/
def EntityTable.Shields (table : EntityTable) : Prop :=
  ∀ c, (table.escapeChar c).any isMark = false

theorem EntityTable.Shields.escape {table : EntityTable} (h : table.Shields) (text : String) :
    ∀ c ∈ (table.escape text).toList, isMark c = false := by
  rw [toList_escape]
  intro c hc
  obtain ⟨origin, _, hwritten⟩ := List.mem_flatMap.1 hc
  exact eq_false_of_ne_true (List.any_eq_false.1 (h origin) c hwritten)

theorem shields_attribute : EntityTable.attribute.Shields := by
  intro c
  rcases escapeChar_attribute_cases c with (rfl | rfl | rfl | rfl) | ⟨_, hmark, hescape⟩
  any_goals rfl
  rw [hescape, List.any_cons, hmark, List.any_nil, Bool.or_false]

theorem shields_page : EntityTable.page.Shields := by
  intro c
  by_cases hquote : c = '\''
  · rw [hquote]
    rfl
  · rw [escapeChar_page_of_ne hquote]
    exact shields_attribute c

/-! ### One replacement after the other -/

/-- A text with an entity in place of each occurrence of a character. -/
def replaceChar (c : Char) (entity : String) (chars : List Char) : List Char :=
  chars.flatMap fun other => if other = c then entity.toList else [other]

/-- The four entities put in by four passes over the text. The ampersand comes first: later passes would write ampersands of their own, which a pass for it would take for those of the text. -/
def escapeInTurn (text : String) : String :=
  String.ofList (replaceChar '"' "&quot;" (replaceChar '>' "&gt;" (replaceChar '<' "&lt;"
    (replaceChar '&' "&amp;" text.toList))))

theorem escapeInTurn_eq_escape (text : String) :
    escapeInTurn text = EntityTable.attribute.escape text := by
  rw [escapeInTurn, EntityTable.escape]
  simp only [replaceChar, List.flatMap_assoc]
  congr 2
  funext c
  rcases escapeChar_attribute_cases c with (rfl | rfl | rfl | rfl) | ⟨hplain, hmark, hescape⟩
  any_goals rfl
  simp only [isMark, Bool.or_eq_false_iff, beq_eq_false_iff_ne, ne_eq] at hmark
  simp [hescape, hplain, hmark]

/-! ### Documents -/

theorem toList_render (table : EntityTable) (pieces : List Piece) :
    (render table pieces).toList = pieces.flatMap fun piece => (piece.render table).toList := by
  rw [render]
  induction pieces with
  | nil => rfl
  | cons piece rest ih => simp [String.join_cons, ← ih]

end BenchReport.Text
