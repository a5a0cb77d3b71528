/-!
# Escaping text for HTML

Element content and quoted attribute values need different characters escaped. `Place.entity?` says
which; `Place.push` appends escaped text to a buffer, and `Place.escape` returns the text itself
where nothing in it needs escaping.
-/

namespace MarkdownHtml

/-- Where in HTML a piece of text stands. -/
inductive Place where
  /-- Between tags. -/
  | content
  /-- Inside a quoted attribute value. -/
  | attribute
deriving DecidableEq, Repr

namespace Place

/-- The entity that stands for a character at this place, if the character needs one: `&`, `<` and
`>` everywhere, and both quotes inside an attribute value. -/
def entity? : Place → Char → Option String
  | _, '&' => some "&amp;"
  | _, '<' => some "&lt;"
  | _, '>' => some "&gt;"
  | .attribute, '"' => some "&quot;"
  | .attribute, '\'' => some "&#x27;"
  | _, _ => none

/-- Whether some character of the text needs an entity. -/
def needsEscape (place : Place) (text : String) : Bool :=
  text.toList.any fun c => (place.entity? c).isSome

/-- Appends one character to the buffer, as its entity if it needs one. -/
def pushChar (place : Place) (out : String) (c : Char) : String :=
  match place.entity? c with
  | some entity => out ++ entity
  | none => out.push c

/-- Appends the escaped text to the buffer. -/
def push (place : Place) (out text : String) : String :=
  text.toList.foldl place.pushChar out

end Place

/-- The outcome of escaping. -/
inductive Escaped where
  /-- Nothing needed escaping; this is the text itself. -/
  | unchanged (text : String)
  /-- A new text, with entities in it. -/
  | rewritten (text : String)
deriving DecidableEq, Repr

namespace Escaped

/-- The escaped text. -/
def text : Escaped → String
  | unchanged text => text
  | rewritten text => text

/-- Whether the text was returned as it was. -/
def isUnchanged : Escaped → Bool
  | unchanged _ => true
  | rewritten _ => false

end Escaped

/-- Escapes a text, leaving it alone where nothing in it needs escaping. -/
def Place.escape (place : Place) (text : String) : Escaped :=
  if place.needsEscape text then .rewritten (place.push "" text) else .unchanged text

/-- The text as it is written into the place. -/
def Place.escaped (place : Place) (text : String) : String := (place.escape text).text

end MarkdownHtml
