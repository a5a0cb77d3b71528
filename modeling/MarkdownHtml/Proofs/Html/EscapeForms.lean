import MarkdownHtml.Proofs.Html.Entities

/-!
# The forms of escaping

Escaped text is appended to a buffer, or it is returned, and then a text in which nothing needs
escaping is returned as it is. All of these write each character on its own, so that they agree
(`Place.push_eq_append`, `Place.escape_eq_unchanged_iff`) and escaping follows concatenation
(`Place.escaped_append`). The two places differ in what becomes of quotes and in nothing else
(`Place.written_attribute`).
-/

namespace MarkdownHtml

/-- The characters with each double and each single quote replaced by its entity. -/
def Html.replaceQuotes (cs : List Char) : List Char :=
  cs.flatMap fun
    | '"' => "&quot;".toList
    | '\'' => "&#x27;".toList
    | c => [c]

theorem Html.replaceQuotes_singleton {c : Char} (hdouble : c ≠ '"') (hsingle : c ≠ '\'') :
    replaceQuotes [c] = [c] := by
  rw [replaceQuotes, List.flatMap_singleton]
  split
  · exact absurd rfl hdouble
  · exact absurd rfl hsingle
  · rfl

namespace Place

variable {place : Place} {text : String}

/-- Appending writes the escaped text behind what the buffer holds. -/
theorem push_eq_append (place : Place) (out text : String) :
    place.push out text = out ++ place.escaped text := by
  apply String.toList_inj.1
  rw [toList_push, String.toList_append, toList_escaped]

/-- A text is returned as it is where no character of it needs an entity. -/
theorem escape_eq_unchanged_iff :
    place.escape text = .unchanged text ↔ ∀ c ∈ text.toList, place.entity? c = none := by
  rw [← needsEscape_eq_false_iff, escape]
  cases place.needsEscape text <;> simp

theorem isUnchanged_escape_iff :
    (place.escape text).isUnchanged = true ↔ ∀ c ∈ text.toList, place.entity? c = none := by
  rw [← needsEscape_eq_false_iff, escape]
  cases place.needsEscape text <;> simp [Escaped.isUnchanged]

/-- In an attribute value a character is written as it is in content, but for quotes. -/
theorem written_attribute (c : Char) :
    Place.attribute.written c = Html.replaceQuotes (Place.content.written c) := by
  by_cases hattribute : Place.attribute.entity? c = none
  · -- what stands for itself in an attribute value stands for itself in content and is no quote
    obtain ⟨hamp, hreserved⟩ := entity?_eq_none_iff.1 hattribute
    simp only [reserved, List.mem_cons, List.not_mem_nil, or_false, not_or] at hreserved
    obtain ⟨hlt, hgt, hdouble, hsingle⟩ := hreserved
    have hcontent : Place.content.entity? c = none :=
      entity?_eq_none_iff.2 ⟨hamp, by simp [reserved, hlt, hgt]⟩
    rw [written_of_entity?_eq_none hattribute, written_of_entity?_eq_none hcontent,
      Html.replaceQuotes_singleton hdouble hsingle]
  · obtain ⟨entity, hentity⟩ := Option.ne_none_iff_exists'.1 hattribute
    rcases entity?_cases hentity with ⟨rfl, -⟩ | ⟨rfl, -⟩ | ⟨rfl, -⟩ | ⟨rfl, -⟩ | ⟨rfl, -⟩ <;> rfl

/-- Text for an attribute value is text for content with the quotes that are left replaced. -/
theorem toList_escaped_attribute (text : String) :
    (Place.attribute.escaped text).toList =
      Html.replaceQuotes (Place.content.escaped text).toList := by
  rw [toList_escaped, toList_escaped, Html.replaceQuotes, List.flatMap_assoc]
  exact congrArg (text.toList.flatMap ·) (funext written_attribute)

/-- All forms of escaping agree, at both places. To append a text to a buffer is to put its escaped
form behind what is there. A text is returned as it is exactly if escaping does not change it, that is
if it holds no ampersand and no reserved character. A text may be escaped in parts. Text for an
attribute value is text for content with each quote that is left replaced by its entity. -/
theorem escape_forms_agree :
    (∀ place : Place,
      (∀ out text, place.push out text = out ++ place.escaped text) ∧
      (∀ text, ((place.escape text).isUnchanged = true ↔ place.escape text = .unchanged text) ∧
        (place.escape text = .unchanged text ↔ place.escaped text = text) ∧
        (place.escaped text = text ↔ ∀ c ∈ text.toList, c ≠ '&' ∧ c ∉ place.reserved)) ∧
      ∀ front back, place.escaped (front ++ back) = place.escaped front ++ place.escaped back) ∧
    ∀ text, (Place.attribute.escaped text).toList =
      Html.replaceQuotes (Place.content.escaped text).toList := by
  refine ⟨fun place => ⟨place.push_eq_append, fun text => ⟨?_, ?_, ?_⟩, place.escaped_append⟩,
    toList_escaped_attribute⟩
  · rw [isUnchanged_escape_iff, escape_eq_unchanged_iff]
  · rw [escape_eq_unchanged_iff, escaped_eq_self_iff]
  · simp only [escaped_eq_self_iff, entity?_eq_none_iff]

/-- Both quotes, and an ampersand that looks like the beginning of an entity, behind a buffer. -/
example : Place.attribute.push "<a title=" "&quot;\"'" =
    "<a title=" ++ "&amp;quot;&quot;&#x27;" := by decide

end Place

end MarkdownHtml
