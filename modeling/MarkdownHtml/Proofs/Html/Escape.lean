import MarkdownHtml.Html.Escape

/-!
# Escaping and decoding

Escaped text is the text with each character written on its own (`toList_escaped`). A single pass
from left to right, `Html.decode`, reads the five entities back, also with more text behind them
(`decode_escaped_append`). Escaped text holds no `<` and no `>`, and in an attribute no double quote
either, so that it cannot end the piece of HTML that it stands in.
-/

namespace MarkdownHtml

/-- The text with the entities `&amp;`, `&lt;`, `&gt;`, `&quot;` and `&#x27;` replaced by the
characters that they stand for, in one pass from left to right. -/
def Html.decode : List Char → List Char
  | '&' :: 'a' :: 'm' :: 'p' :: ';' :: rest => '&' :: decode rest
  | '&' :: 'l' :: 't' :: ';' :: rest => '<' :: decode rest
  | '&' :: 'g' :: 't' :: ';' :: rest => '>' :: decode rest
  | '&' :: 'q' :: 'u' :: 'o' :: 't' :: ';' :: rest => '"' :: decode rest
  | '&' :: '#' :: 'x' :: '2' :: '7' :: ';' :: rest => '\'' :: decode rest
  | c :: rest => c :: decode rest
  | [] => []

namespace Place

/-- What a character is written as at a place. -/
def written (place : Place) (c : Char) : List Char :=
  match place.entity? c with
  | some entity => entity.toList
  | none => [c]

/-- A character that needs no entity at a place is none of those that always do. -/
theorem ne_of_entity?_eq_none {place : Place} {c : Char} (h : place.entity? c = none) :
    c ≠ '&' ∧ c ≠ '<' ∧ c ≠ '>' ∧ (place = .attribute → c ≠ '"') := by
  refine ⟨?_, ?_, ?_, ?_⟩
  · rintro rfl
    cases place <;> simp [entity?] at h
  · rintro rfl
    cases place <;> simp [entity?] at h
  · rintro rfl
    cases place <;> simp [entity?] at h
  · rintro rfl rfl
    simp [entity?] at h

/-- The characters with an entity, and the entities. -/
theorem entity?_cases {place : Place} {c : Char} {entity : String}
    (h : place.entity? c = some entity) :
    (c = '&' ∧ entity = "&amp;") ∨ (c = '<' ∧ entity = "&lt;") ∨ (c = '>' ∧ entity = "&gt;") ∨
      (c = '"' ∧ entity = "&quot;") ∨ (c = '\'' ∧ entity = "&#x27;") := by
  unfold entity? at h
  split at h <;> simp_all

/-- Text is pushed character by character. -/
theorem toList_push (place : Place) (out text : String) :
    (place.push out text).toList = out.toList ++ text.toList.flatMap place.written := by
  rw [push]
  generalize text.toList = cs
  induction cs generalizing out with
  | nil => simp
  | cons c cs ih =>
    rw [List.foldl_cons, ih, List.flatMap_cons, ← List.append_assoc]
    congr 1
    rw [pushChar, written]
    cases place.entity? c <;> simp

theorem needsEscape_eq_false_iff {place : Place} {text : String} :
    place.needsEscape text = false ↔ ∀ c ∈ text.toList, place.entity? c = none := by
  rw [needsEscape, List.any_eq_false]
  refine forall₂_congr fun c _ => ?_
  rw [Bool.not_eq_true, Option.isSome_eq_false_iff, Option.isNone_iff_eq_none]

/-- Escaped text is the text with each character written on its own, also where nothing needed an
entity. -/
theorem toList_escaped (place : Place) (text : String) :
    (place.escaped text).toList = text.toList.flatMap place.written := by
  rw [escaped, escape]
  split
  · rw [Escaped.text, toList_push]
    rfl
  · rename_i hclean
    rw [Bool.not_eq_true, needsEscape_eq_false_iff] at hclean
    -- nothing was rewritten, and nothing had to be
    have hwritten : ∀ c ∈ text.toList, place.written c = [c] := by
      intro c hc
      rw [written, hclean c hc]
    rw [Escaped.text, List.flatMap_def, List.map_congr_left hwritten, ← List.flatMap_def]
    exact (List.flatMap_singleton' _).symm

/-- A text may be escaped in parts. -/
theorem escaped_append (place : Place) (front back : String) :
    place.escaped (front ++ back) = place.escaped front ++ place.escaped back := by
  apply String.toList_inj.1
  rw [String.toList_append, toList_escaped, toList_escaped, toList_escaped, String.toList_append,
    List.flatMap_append]

/-- A written character is read back, whatever stands behind it. -/
theorem decode_written_append (place : Place) (c : Char) (rest : List Char) :
    Html.decode (place.written c ++ rest) = c :: Html.decode rest := by
  rw [written]
  split
  · rename_i entity hentity
    rcases entity?_cases hentity with ⟨rfl, rfl⟩ | ⟨rfl, rfl⟩ | ⟨rfl, rfl⟩ | ⟨rfl, rfl⟩ | ⟨rfl, rfl⟩
      <;> rfl
  · rename_i hnone
    have hne := (ne_of_entity?_eq_none hnone).1
    rw [List.singleton_append, Html.decode] <;> simp [hne]

/-- Escaped text is read back, whatever stands behind it. -/
theorem decode_escaped_append (place : Place) (text : String) (rest : List Char) :
    Html.decode ((place.escaped text).toList ++ rest) = text.toList ++ Html.decode rest := by
  rw [toList_escaped]
  generalize text.toList = cs
  induction cs with
  | nil => rfl
  | cons c cs ih =>
    rw [List.flatMap_cons, List.append_assoc, decode_written_append, ih, List.cons_append]

/-- Nothing that a character is written as can end a text, a tag or an attribute value. -/
theorem ne_of_mem_written {place : Place} {c d : Char} (hd : d ∈ place.written c) :
    d ≠ '<' ∧ d ≠ '>' ∧ (place = .attribute → d ≠ '"') := by
  rw [written] at hd
  split at hd
  · rename_i entity hentity
    have hsafe : ∀ d ∈ entity.toList, d ≠ '<' ∧ d ≠ '>' ∧ d ≠ '"' := by
      rcases entity?_cases hentity with ⟨-, rfl⟩ | ⟨-, rfl⟩ | ⟨-, rfl⟩ | ⟨-, rfl⟩ | ⟨-, rfl⟩
        <;> simp
    obtain ⟨hlt, hgt, hquote⟩ := hsafe d hd
    exact ⟨hlt, hgt, fun _ => hquote⟩
  · rename_i hnone
    rw [List.mem_singleton] at hd
    rw [hd]
    exact (ne_of_entity?_eq_none hnone).2

/-- Escaped text cannot end a text, a tag or an attribute value. -/
theorem ne_of_mem_escaped {place : Place} {text : String} {d : Char}
    (hd : d ∈ (place.escaped text).toList) :
    d ≠ '<' ∧ d ≠ '>' ∧ (place = .attribute → d ≠ '"') := by
  rw [toList_escaped, List.mem_flatMap] at hd
  obtain ⟨c, -, hc⟩ := hd
  exact ne_of_mem_written hc

end Place

end MarkdownHtml
