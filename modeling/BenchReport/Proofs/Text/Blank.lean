import BenchReport.Proofs.Text.Segments
import BenchReport.Text.Blank

/-!
# Blanks around words

Cutting a text at a blank cuts its words, so blanks around a text belong to no word, just as they do not survive trimming. Both look at the same first character: what a trimmed text starts with is what its first word starts with, and a text without words is trimmed to nothing.
-/

namespace BenchReport.Text

section Blank

variable {c : Char} (hblank : isBlank c = true)
include hblank

theorem wordsOf_append_blank (front back : List Char) :
    wordsOf (front ++ c :: back) = wordsOf front ++ wordsOf back := by
  rw [wordsOf, List.splitOnP_append_cons front back hblank, List.filter_append, wordsOf, wordsOf]

theorem wordsOf_cons_blank (rest : List Char) : wordsOf (c :: rest) = wordsOf rest :=
  wordsOf_append_blank hblank [] rest

theorem wordsOf_concat_blank (front : List Char) : wordsOf (front ++ [c]) = wordsOf front :=
  (wordsOf_append_blank hblank front []).trans (List.append_nil _)

theorem trimChars_concat_blank (front : List Char) : trimChars (front ++ [c]) = trimChars front := by
  rw [trimChars, trimChars, List.dropWhile_append]
  split
  · rename_i hempty
    rw [List.isEmpty_iff.1 hempty, List.dropWhile_cons_of_pos hblank]
    rfl
  · rw [List.reverse_append, List.reverse_singleton, List.singleton_append,
      List.dropWhile_cons_of_pos hblank]

end Blank

/-- The characters after a run that was taken as far as it goes. -/
theorem head?_dropWhile {inside : Char → Bool} {chars : List Char} :
    ∀ c ∈ (chars.dropWhile inside).head?, inside c = false := by
  intro c hc
  have := List.head?_dropWhile_not inside chars
  rw [hc] at this
  simpa using this

theorem wordsOf_dropWhile (chars : List Char) :
    wordsOf (chars.dropWhile isBlank) = wordsOf chars := by
  induction chars with
  | nil => rfl
  | cons c rest ih =>
      cases hblank : isBlank c with
      | true => rw [List.dropWhile_cons_of_pos hblank, ih, wordsOf_cons_blank hblank]
      | false => rw [List.dropWhile_cons_of_neg (by simp [hblank])]

theorem ne_nil_of_mem_wordsOf {chars word : List Char} (h : word ∈ wordsOf chars) : word ≠ [] := by
  rw [wordsOf, List.mem_filter, Bool.not_eq_true', List.isEmpty_eq_false_iff] at h
  exact h.2

/-- A text that starts with a character other than a blank has a word that starts with it. -/
theorem exists_wordsOf_cons {c : Char} (h : isBlank c = false) (rest : List Char) :
    ∃ word others, wordsOf (c :: rest) = (c :: word) :: others := by
  obtain ⟨word, others, hsplit⟩ := List.exists_cons_of_ne_nil (List.splitOnP_ne_nil isBlank rest)
  refine ⟨word, others.filter fun word => !word.isEmpty, ?_⟩
  rw [wordsOf, List.splitOnP_cons_eq_if_modifyHead, if_neg (by simp [h]), hsplit,
    List.modifyHead_cons, List.filter_cons_of_pos rfl]

theorem head?_trimChars (chars : List Char) :
    (trimChars chars).head? = (wordsOf chars).head?.bind List.head? := by
  rw [← wordsOf_dropWhile, trimChars, List.head?_reverse]
  cases hrest : chars.dropWhile isBlank with
  | nil => rfl
  | cons c rest =>
      have hblank : isBlank c = false := by
        apply @head?_dropWhile isBlank chars
        rw [hrest]
        rfl
      obtain ⟨word, others, hwords⟩ := exists_wordsOf_cons hblank rest
      rw [hwords, List.reverse_cons, List.dropWhile_append, List.head?_cons, Option.bind_some,
        List.head?_cons]
      split
      · rw [List.dropWhile_cons_of_neg (by simp [hblank])]
        rfl
      · exact List.getLast?_concat

end BenchReport.Text
