import Mathlib.Data.List.TakeWhile
import MarkdownHtml.Text.Blank

/-!
# The first word of a text

A text that has something to be seen in it has a first word. `IsFirstWord` says which one that is, by
what stands on its two sides. `firstWord?` finds this word and no other (`firstWord?_eq_some_iff`),
and it finds none exactly in a blank text (`firstWord?_eq_none_iff`). So to ask whether a text is
blank and to look for its first word is to cut at the same characters.
-/

namespace MarkdownHtml.Text

/-- A text with something to be seen in it. -/
def HasVisible (text : String) : Prop := ∃ c ∈ text.toList, isBlankChar c = false

/-- The word is the first maximal stretch of the text that is free of white space: only white space
stands before it, and behind it the text ends or goes on with white space. -/
structure IsFirstWord (text word : String) : Prop where
  ne_empty : word ≠ ""
  visible : ∀ c ∈ word.toList, isBlankChar c = false
  exists_around : ∃ before after, text.toList = before ++ (word.toList ++ after) ∧
    (∀ c ∈ before, isBlankChar c = true) ∧ ∀ c ∈ after.head?, isBlankChar c = true

variable {text word other : String}

theorem isBlank_eq_false_iff : isBlank text = false ↔ HasVisible text := by
  rw [isBlank, blank, List.all_eq_false, HasVisible]
  simp only [Bool.not_eq_true]

theorem isBlank_eq_true_iff : isBlank text = true ↔ ¬HasVisible text := by
  rw [← isBlank_eq_false_iff, Bool.not_eq_false]

/-- Where the characters with a property end, one without it follows, if any does. -/
theorem eq_false_of_mem_head?_dropWhile (p : Char → Bool) (cs : List Char) :
    ∀ c ∈ (cs.dropWhile p).head?, p c = false := by
  intro c hc
  have hnot := List.head?_dropWhile_not p cs
  rw [Option.mem_def.1 hc] at hnot
  simpa using hnot

/-- The word that is found, as a cut of the text. -/
theorem firstWord?_eq_some_iff_takeWhile : firstWord? text = some word ↔
    word ≠ "" ∧ (text.toList.dropWhile isBlankChar).takeWhile (!isBlankChar ·) = word.toList := by
  have hempty : word = "" ↔ word.toList = [] := String.toList_eq_nil_iff.symm
  rw [firstWord?, Ne, hempty]
  rcases (text.toList.dropWhile isBlankChar).takeWhile (!isBlankChar ·) with _ | ⟨c, cs⟩
  · exact iff_of_false nofun fun h => h.1 h.2.symm
  · rw [Option.some_inj]
    constructor
    · rintro rfl
      simp
    · rintro ⟨-, hword⟩
      rw [hword, String.ofList_toList]

/-- What is found is the first word. -/
theorem firstWord?_eq_some_iff : firstWord? text = some word ↔ IsFirstWord text word := by
  rw [firstWord?_eq_some_iff_takeWhile]
  constructor
  · rintro ⟨hne, hword⟩
    refine ⟨hne, ?_, text.toList.takeWhile isBlankChar,
      (text.toList.dropWhile isBlankChar).dropWhile (!isBlankChar ·), ?_, ?_, ?_⟩
    · intro c hc
      rw [← hword] at hc
      simpa using List.mem_takeWhile_imp hc
    · rw [← hword, List.takeWhile_append_dropWhile, List.takeWhile_append_dropWhile]
    · exact fun c hc => List.mem_takeWhile_imp hc
    · intro c hc
      simpa using eq_false_of_mem_head?_dropWhile _ _ c hc
  · rintro ⟨hne, hvisible, before, after, htext, hbefore, hafter⟩
    have hdrop : text.toList.dropWhile isBlankChar = word.toList ++ after := by
      obtain ⟨c, cs, hword⟩ := List.exists_cons_of_ne_nil (mt String.toList_eq_nil_iff.1 hne)
      have hc : isBlankChar c = false := hvisible c (by simp [hword])
      rw [htext, List.dropWhile_append_of_pos hbefore, hword, List.cons_append,
        List.dropWhile_cons_of_neg (by simp [hc])]
    have hafter' : after.takeWhile (!isBlankChar ·) = [] := by
      cases after with
      | nil => rfl
      | cons c rest => rw [List.takeWhile_cons_of_neg (by simp [hafter c rfl])]
    refine ⟨hne, ?_⟩
    rw [hdrop, List.takeWhile_append_of_pos (by simpa using hvisible), hafter', List.append_nil]

/-- There is no word to be found exactly where there is nothing to be seen. -/
theorem firstWord?_eq_none_iff : firstWord? text = none ↔ ¬HasVisible text := by
  rw [← isBlank_eq_true_iff, firstWord?, isBlank, blank, List.all_eq_true,
    ← List.dropWhile_eq_nil_iff]
  rcases hrest : text.toList.dropWhile isBlankChar with _ | ⟨c, cs⟩
  · exact iff_of_true rfl rfl
  · -- what is left begins with a character that belongs to a word
    have hc := eq_false_of_mem_head?_dropWhile isBlankChar text.toList c (by rw [hrest]; rfl)
    rw [List.takeWhile_cons_of_pos (by simp [hc])]
    exact iff_of_false nofun nofun

/-- Two texts have the same first word, if any, when both are blank or some word is the first one of
both. -/
theorem firstWord?_eq_firstWord?_iff : firstWord? text = firstWord? other ↔
    (¬HasVisible text ∧ ¬HasVisible other) ∨
      ∃ word, IsFirstWord text word ∧ IsFirstWord other word := by
  simp only [← firstWord?_eq_none_iff, ← firstWord?_eq_some_iff]
  cases firstWord? text with
  | none => simp [eq_comm]
  | some word => simp [eq_comm]

/-! ## Dropping blank texts -/

theorem nonBlank?_cases (text : String) :
    (HasVisible text ∧ nonBlank? text = some text) ∨ (¬HasVisible text ∧ nonBlank? text = none) := by
  rw [nonBlank?]
  cases hblank : isBlank text with
  | false => exact .inl ⟨isBlank_eq_false_iff.1 hblank, rfl⟩
  | true => exact .inr ⟨isBlank_eq_true_iff.1 hblank, rfl⟩

/-- To drop a blank text changes nothing for who looks for its first word. -/
theorem bind_firstWord?_nonBlank? (text : String) :
    (nonBlank? text).bind firstWord? = firstWord? text := by
  rcases nonBlank?_cases text with ⟨-, htext⟩ | ⟨hhidden, htext⟩
  · rw [htext, Option.bind_some]
  · rw [htext, Option.bind_none, firstWord?_eq_none_iff.2 hhidden]

end MarkdownHtml.Text
