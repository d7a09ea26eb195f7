import BenchReport.Proofs.Json.Characters
import BenchReport.Proofs.Json.Number

/-!
# Documents read back

A written document reads back as itself, its fields in the order in which they were written, if its numbers have a text and its containers are not nested too deep. What follows an item in a container, a comma or a line break, ends whatever the item is, and every item starts with a character that is no blank and closes nothing.
-/

namespace BenchReport.Json

open NumberText

/-! ### Documents that have a text -/

/-- Integers of at most sixty-four bits and finite doubles. -/
def Number.Fits : Number → Prop
  | integer value => -(2 ^ 63) ≤ value ∧ value < 2 ^ 64
  | real value => Binary64.magnitude value < Binary64.infiniteMagnitude

/-- A document whose numbers have a text and whose containers are nested at most so deep. -/
def Fits : Nat → Json → Prop
  | _, null => True
  | _, bool _ => True
  | _, number value => value.Fits
  | _, string _ => True
  | 0, array _ => False
  | 0, object _ => False
  | depth + 1, array items => ∀ item ∈ items, Fits depth item
  | depth + 1, object fields => ∀ field ∈ fields, Fits depth field.2

theorem fits_ofMap {α : Type} {encode : α → Json} {depth : Nat}
    (h : ∀ value, (encode value).Fits depth) (map : SortedMap String α) :
    (ofMap encode map).Fits (depth + 1) := by
  intro field hfield
  obtain ⟨entry, _, rfl⟩ := List.mem_map.1 hfield
  exact h entry.2

/-! ### Blanks -/

theorem skipBlanks_append (blanks chars : List Char) (hblanks : ∀ c ∈ blanks, isBlank c = true)
    (hchars : ∀ c ∈ chars.head?, isBlank c = false) : skipBlanks (blanks ++ chars) = chars := by
  rw [skipBlanks, List.dropWhile_append_of_pos hblanks]
  cases chars with
  | nil => rfl
  | cons c chars => rw [List.dropWhile_cons_of_neg (by simp [hchars c rfl])]

theorem isBlank_of_mem_newline {level : Nat} {c : Char} (h : c ∈ newline level) :
    isBlank c = true := by
  rcases List.mem_cons.1 h with rfl | h
  · rfl
  · rw [List.eq_of_mem_replicate h]
    rfl

/-! ### Items and what is between them -/

variable {α : Type} {close : Char} {read : ItemReader α} {write : α → List Char} (level : Nat)

/-- What is written of an item is read as the item, after blanks and before whatever ends a number. -/
def ReadsBack (read : ItemReader α) (write : α → List Char) (item : α) : Prop :=
  ∀ blanks rest, (∀ c ∈ blanks, isBlank c = true) → EndsNumber rest →
    read (blanks ++ (write item ++ rest)) = some (item, rest)

/-- What is written starts with a character that is neither a blank nor the closing one. -/
def Starts (close : Char) (text : List Char) : Prop :=
  ∃ c tail, text = c :: tail ∧ isBlank c = false ∧ c ≠ close

/-- Items after the first, each on a line of its own. -/
def separated (write : α → List Char) (level : Nat) (items : List α) : List Char :=
  items.flatMap fun item => ',' :: newline level ++ write item

theorem length_le_separated (write : α → List Char) (items : List α) :
    items.length ≤ (separated write level items).length := by
  induction items with
  | nil => exact Nat.zero_le _
  | cons item rest ih =>
      rw [separated, List.flatMap_cons, List.length_append, ← separated, List.cons_append,
        List.length_cons, List.length_cons]
      omega

theorem endsNumber_newline (rest : List Char) : EndsNumber (newline level ++ rest) := by
  rintro _ ⟨⟩
  decide

theorem readItems?_separated (hclose : isBlank close = false) (hcomma : close ≠ ',')
    {first : α} {others : List α} (hread : ∀ item ∈ first :: others, ReadsBack read write item)
    {fuel : Nat} (hfuel : others.length < fuel) (blanks : List Char)
    (hblanks : ∀ c ∈ blanks, isBlank c = true) (outer : Nat) (rest : List Char) :
    readItems? close read fuel (blanks ++ (write first ++ (separated write level others ++
      (newline outer ++ close :: rest)))) = some (first :: others, rest) := by
  induction others generalizing first fuel blanks with
  | nil =>
      obtain ⟨fuel, rfl⟩ := Nat.exists_eq_add_one_of_ne_zero (Nat.ne_zero_of_lt hfuel)
      have hitem := hread first (List.mem_cons_self ..) blanks (newline outer ++ close :: rest) hblanks
        (endsNumber_newline _ _)
      have hskip := skipBlanks_append (newline outer) (close :: rest)
        (fun _ => isBlank_of_mem_newline) (by rintro _ ⟨⟩; exact hclose)
      simp only [readItems?, separated, List.flatMap_nil, List.nil_append, hitem, bind, Option.bind,
        hskip, if_true, pure]
  | cons second others ih =>
      obtain ⟨fuel, rfl⟩ := Nat.exists_eq_add_one_of_ne_zero (Nat.ne_zero_of_lt hfuel)
      rw [List.forall_mem_cons] at hread
      have hfewer : others.length < fuel := by
        rw [List.length_cons] at hfuel
        omega
      -- The comma ends the first item, and the line break is the blanks before the second.
      have hrest := ih hread.2 hfewer (newline level) fun _ => isBlank_of_mem_newline
      rw [separated, List.flatMap_cons, ← separated, List.cons_append, List.cons_append,
        List.cons_append, List.append_assoc, List.append_assoc]
      have hitem := hread.1 blanks (',' :: (newline level ++ (write second ++
        (separated write level others ++ (newline outer ++ close :: rest))))) hblanks
        (by rintro _ ⟨⟩; decide)
      have hskip (chars : List Char) : skipBlanks (',' :: chars) = ',' :: chars := rfl
      simp only [readItems?, hitem, bind, Option.bind, hskip, if_neg hcomma.symm, if_true, hrest, pure]

/-- The items of a container after its opening character. -/
theorem readContainer?_separated (hclose : isBlank close = false) (hcomma : close ≠ ',')
    {first : α} {others : List α} (hread : ∀ item ∈ first :: others, ReadsBack read write item)
    (hstart : Starts close (write first)) (outer : Nat) (rest : List Char) :
    readContainer? close read (newline level ++ (write first ++ (separated write level others ++
      (newline outer ++ close :: rest)))) = some (first :: others, rest) := by
  obtain ⟨c, tail, hfirst, hblank, hne⟩ := hstart
  have hlength : others.length < (newline level ++ (write first ++ (separated write level others ++
      (newline outer ++ close :: rest)))).length := by
    have := length_le_separated level write others
    simp only [List.length_append, hfirst, List.length_cons]
    omega
  have hitems := readItems?_separated level hclose hcomma hread hlength [] (by simp) outer rest
  have hskip := skipBlanks_append (newline level) (write first ++
    (separated write level others ++ (newline outer ++ close :: rest)))
    (fun _ => isBlank_of_mem_newline) (by
      rw [hfirst]
      rintro _ ⟨⟩
      exact hblank)
  rw [readContainer?, hskip]
  rw [List.nil_append, hfirst, List.cons_append] at hitems
  rw [hfirst, List.cons_append]
  simp only [if_neg hne]
  exact hitems

/-! ### Scalars -/

theorem isBlank_of_isDigit {c : Char} (h : isDigit c = true) : isBlank c = false := by
  by_contra hblank
  rw [Bool.not_eq_false] at hblank
  simp only [isBlank, Bool.or_eq_true, beq_iff_eq] at hblank
  rcases hblank with ((rfl | rfl) | rfl) | rfl <;> cases h

/-- Reading a value that opens no container. -/
theorem readValue?_scalar (depth : Nat) {blanks : List Char} (hblanks : ∀ c ∈ blanks, isBlank c = true)
    {c : Char} (hblank : isBlank c = false) (harray : c ≠ '[') (hobject : c ≠ '\x7b')
    (tail : List Char) : readValue? depth (blanks ++ c :: tail) = readScalar? (c :: tail) := by
  have hskip := skipBlanks_append blanks (c :: tail) hblanks (by
    rintro _ ⟨⟩
    exact hblank)
  cases depth with
  | zero =>
      rw [readValue?, hskip]
      split
      · rename_i heq
        cases heq
        exact absurd rfl harray
      · rename_i heq
        cases heq
        exact absurd rfl hobject
      · rfl
  | succ depth =>
      rw [readValue?, hskip]
      split
      · rename_i heq
        cases heq
        exact absurd rfl harray
      · rename_i heq
        cases heq
        exact absurd rfl hobject
      · rfl

theorem readWord?_append (word : String) (value : Json) (rest : List Char) :
    readWord? word value (word.toList ++ rest) = some (value, rest) := by
  rw [readWord?, if_pos (List.prefix_append _ _), ← String.length_toList, List.drop_left]

theorem readScalar?_string (text : String) (rest : List Char) :
    readScalar? (stringText text ++ rest) = some (string text, rest) := by
  rw [stringText, List.cons_append, List.cons_append, List.append_assoc, readScalar?]
  change (readChars? (text.toList.flatMap escapeChar ++ '"' :: rest)).map _ = _
  rw [readChars?_escaped, Option.map_some, String.ofList_toList]

/-- What starts with a digit or a minus sign is a number. -/
theorem readScalar?_number {c : Char} (h : c = '-' ∨ isDigit c = true) (tail : List Char) :
    readScalar? (c :: tail) = (readNumber? (c :: tail)).map fun read => (number read.1, read.2) := by
  rw [readScalar?.eq_def]
  split
  · rename_i heq
    cases heq
    exact absurd h (by decide)
  · rename_i heq
    cases heq
    exact absurd h (by decide)
  · rename_i heq
    cases heq
    exact absurd h (by decide)
  · rename_i heq
    cases heq
    exact absurd h (by decide)
  · rfl

theorem readNumber?_numberText {value : Number} (h : value.Fits) {rest : List Char}
    (hrest : EndsNumber rest) : readNumber? (value.text ++ rest) = some (value, rest) := by
  cases value with
  | integer value => exact readNumber?_integerText h.1 h.2 hrest
  | real value => exact readNumber?_text h hrest

theorem start_of_number {value : Number} (h : value.Fits) :
    ∃ c tail, value.text = c :: tail ∧ (c = '-' ∨ isDigit c = true) := by
  have hends : EndsNumber [] := by rintro _ ⟨⟩
  have hread := readNumber?_numberText h hends
  rw [List.append_nil] at hread
  exact start_of_readNumber? hread

/-! ### Values -/

theorem itemsText_eq (level : Nat) (items : List Json) :
    itemsText level items = separated (textAt level) level items := by
  induction items with
  | nil => rw [itemsText, separated, List.flatMap_nil]
  | cons item rest ih =>
      rw [itemsText, ih, separated, separated, List.flatMap_cons]

theorem fieldsText_eq (level : Nat) (fields : List (String × Json)) :
    fieldsText level fields = separated (fieldText level) level fields := by
  induction fields with
  | nil => rw [fieldsText, separated, List.flatMap_nil]
  | cons field rest ih =>
      rw [fieldsText, ih, separated, separated, List.flatMap_cons]

/-- A field reads back if its value does. -/
theorem readsBack_field {value : ItemReader Json} {level : Nat} {field : String × Json}
    (h : ReadsBack value (textAt level) field.2) :
    ReadsBack (readField? value) (fieldText level) field := by
  intro blanks rest hblanks hrest
  obtain ⟨name, document⟩ := field
  have hvalue := h [' '] rest (List.forall_mem_singleton.2 rfl) hrest
  have hskip := skipBlanks_append blanks (fieldText level (name, document) ++ rest) hblanks (by
    rw [fieldText, stringText]
    rintro _ ⟨⟩
    rfl)
  have hname := readChars?_escaped name.toList (':' :: ' ' :: (textAt level document ++ rest))
  have hcolon (chars : List Char) : skipBlanks (':' :: chars) = ':' :: chars := rfl
  rw [List.singleton_append] at hvalue
  rw [readField?, hskip, fieldText, stringText]
  simp only [List.cons_append, List.append_assoc, List.nil_append, hname, hcolon, hvalue, bind,
    Option.bind, pure, String.ofList_toList]

/-- A value starts with a character that closes no container. -/
theorem starts_textAt {depth : Nat} {document : Json} (h : document.Fits depth) (level : Nat)
    {close : Char} (hclose : close = ']' ∨ close = '\x7d') :
    Starts close (textAt level document) := by
  have hplain {c : Char} (hblank : isBlank c = false) (hc : c ≠ ']' ∧ c ≠ '\x7d') (tail : List Char) :
      Starts close (c :: tail) :=
    ⟨c, tail, rfl, hblank, by rcases hclose with rfl | rfl; exacts [hc.1, hc.2]⟩
  cases document with
  | null => exact hplain (by decide) (by decide) ['u', 'l', 'l']
  | bool value =>
      cases value with
      | true => exact hplain (by decide) (by decide) ['r', 'u', 'e']
      | false => exact hplain (by decide) (by decide) ['a', 'l', 's', 'e']
  | number value =>
      have hfits : value.Fits := by
        cases depth <;> exact h
      obtain ⟨c, tail, htext, hc⟩ := start_of_number hfits
      rw [textAt, htext]
      rcases hc with rfl | hdigit
      · exact hplain (by decide) (by decide) tail
      · exact hplain (isBlank_of_isDigit hdigit)
          ⟨fun hc => by rw [hc] at hdigit; exact absurd hdigit (by decide),
            fun hc => by rw [hc] at hdigit; exact absurd hdigit (by decide)⟩ tail
  | string text => 
      rw [textAt, stringText]
      exact hplain (by decide) (by decide) _
  | array items =>
      cases items with
      | nil =>
          rw [textAt]
          exact hplain (by decide) (by decide) _
      | cons item rest =>
          rw [textAt]
          exact hplain (by decide) (by decide) _
  | object fields =>
      cases fields with
      | nil =>
          rw [textAt]
          exact hplain (by decide) (by decide) _
      | cons field rest =>
          rw [textAt]
          exact hplain (by decide) (by decide) _

section Scalar

variable (depth level : Nat)

theorem readsBack_null : ReadsBack (readValue? depth) (textAt level) null := by
  intro blanks rest hblanks hrest
  rw [textAt]
  change readValue? depth (blanks ++ 'n' :: (['u', 'l', 'l'] ++ rest)) = _
  rw [readValue?_scalar depth hblanks (by decide) (by decide) (by decide)]
  exact readWord?_append "null" null rest

theorem readsBack_bool (value : Bool) : ReadsBack (readValue? depth) (textAt level) (bool value) := by
  intro blanks rest hblanks hrest
  rw [textAt]
  cases value with
  | true =>
      change readValue? depth (blanks ++ 't' :: (['r', 'u', 'e'] ++ rest)) = _
      rw [readValue?_scalar depth hblanks (by decide) (by decide) (by decide)]
      exact readWord?_append "true" (bool true) rest
  | false =>
      change readValue? depth (blanks ++ 'f' :: (['a', 'l', 's', 'e'] ++ rest)) = _
      rw [readValue?_scalar depth hblanks (by decide) (by decide) (by decide)]
      exact readWord?_append "false" (bool false) rest

theorem readsBack_number {value : Number} (h : value.Fits) :
    ReadsBack (readValue? depth) (textAt level) (number value) := by
  intro blanks rest hblanks hrest
  obtain ⟨c, tail, htext, hc⟩ := start_of_number h
  have hread := readNumber?_numberText h hrest
  have hblank : isBlank c = false := by
    rcases hc with rfl | hdigit
    · rfl
    · exact isBlank_of_isDigit hdigit
  have hopen : c ≠ '[' ∧ c ≠ '\x7b' := by
    rcases hc with rfl | hdigit
    · decide
    · refine ⟨fun he => ?_, fun he => ?_⟩ <;>
        · rw [he] at hdigit
          exact absurd hdigit (by decide)
  rw [textAt, htext, List.cons_append, readValue?_scalar depth hblanks hblank hopen.1 hopen.2,
    readScalar?_number hc, ← List.cons_append, ← htext, hread, Option.map_some]

theorem readsBack_string (text : String) :
    ReadsBack (readValue? depth) (textAt level) (string text) := by
  intro blanks rest hblanks hrest
  have hread := readScalar?_string text rest
  rw [textAt]
  rw [stringText, List.cons_append, List.cons_append] at hread ⊢
  rw [readValue?_scalar depth hblanks (by decide) (by decide) (by decide), hread]

end Scalar

theorem readValue?_array (depth : Nat) {blanks : List Char} (hblanks : ∀ c ∈ blanks, isBlank c = true)
    (chars : List Char) :
    readValue? (depth + 1) (blanks ++ '[' :: chars) =
      (readContainer? ']' (readValue? depth) chars).map fun read => (array read.1, read.2) := by
  rw [readValue?, skipBlanks_append blanks ('[' :: chars) hblanks (by rintro _ ⟨⟩; rfl)]
  rfl

theorem readValue?_object (depth : Nat) {blanks : List Char} (hblanks : ∀ c ∈ blanks, isBlank c = true)
    (chars : List Char) :
    readValue? (depth + 1) (blanks ++ '\x7b' :: chars) =
      (readContainer? '\x7d' (readField? (readValue? depth)) chars).map fun read =>
        (object read.1, read.2) := by
  rw [readValue?, skipBlanks_append blanks ('\x7b' :: chars) hblanks (by rintro _ ⟨⟩; rfl)]
  rfl

theorem starts_fieldText (level : Nat) (field : String × Json) :
    Starts '\x7d' (fieldText level field) :=
  ⟨'"', field.1.toList.flatMap escapeChar ++ ['"'] ++ ':' :: ' ' :: textAt level field.2, by
    rw [fieldText, stringText]
    rfl, rfl, by decide⟩

/-- What is written of a document is read as the document. -/
theorem readsBack_value {depth : Nat} {document : Json} (h : document.Fits depth) (level : Nat) :
    ReadsBack (readValue? depth) (textAt level) document := by
  -- The reader recurses on the depth, and items stand at a deeper level than their container.
  induction depth generalizing document level with
  | zero =>
      cases document with
      | null => exact readsBack_null 0 level
      | bool value => exact readsBack_bool 0 level value
      | number value => exact readsBack_number 0 level h
      | string text => exact readsBack_string 0 level text
      | array items => exact h.elim
      | object fields => exact h.elim
  | succ depth ih =>
      cases document with
      | null => exact readsBack_null (depth + 1) level
      | bool value => exact readsBack_bool (depth + 1) level value
      | number value => exact readsBack_number (depth + 1) level h
      | string text => exact readsBack_string (depth + 1) level text
      | array items =>
          intro blanks rest hblanks hrest
          cases items with
          | nil =>
              rw [textAt]
              exact readValue?_array depth hblanks (']' :: rest)
          | cons item items =>
              have hread : ∀ one ∈ item :: items,
                  ReadsBack (readValue? depth) (textAt (level + 1)) one :=
                fun one hone => ih (h one hone) (level + 1)
              have hitems := readContainer?_separated (level + 1) rfl (by decide) hread
                (starts_textAt (h item (List.mem_cons_self ..)) (level + 1) (.inl rfl)) level rest
              rw [textAt, itemsText_eq]
              simp only [List.cons_append, List.append_assoc, List.nil_append]
              rw [readValue?_array depth hblanks, hitems, Option.map_some]
      | object fields =>
          intro blanks rest hblanks hrest
          cases fields with
          | nil =>
              rw [textAt]
              exact readValue?_object depth hblanks ('\x7d' :: rest)
          | cons field fields =>
              have hread : ∀ one ∈ field :: fields,
                  ReadsBack (readField? (readValue? depth)) (fieldText (level + 1)) one :=
                fun one hone => readsBack_field (ih (h one hone) (level + 1))
              have hfields := readContainer?_separated (level + 1) rfl (by decide) hread
                (starts_fieldText (level + 1) field) level rest
              rw [textAt, fieldsText_eq]
              simp only [List.cons_append, List.append_assoc, List.nil_append]
              rw [readValue?_object depth hblanks, hfields, Option.map_some]

/-- A document reads back from its text. -/
theorem read?_text {document : Json} (h : document.Fits depthLimit) :
    read? document.text = some document := by
  have hread := readsBack_value h 0 [] [] (by simp) (by rintro _ ⟨⟩)
  rw [List.nil_append, List.append_nil] at hread
  rw [read?, text, String.toList_ofList, hread]
  rfl

end BenchReport.Json
