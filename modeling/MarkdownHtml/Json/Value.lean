/-!
# JSON values

JSON as far as documents need it: natural numbers are the only numbers with a value, and texts are
made of whole characters. Everything else that JSON allows is one value, `foreign`, which can be
passed over but stands for nothing.
-/

namespace MarkdownHtml

/-- A JSON value. -/
inductive Json where
  | null
  | boolean (value : Bool)
  | natural (value : Nat)
  | text (content : String)
  | array (elements : List Json)
  /-- An object with its members as written: names may repeat. -/
  | object (members : List (String × Json))
  /-- A number that is not natural, a string in which a surrogate has no partner, or an object with
  such a string for a name. -/
  | foreign

namespace Json

/-- A text or null. -/
def ofOption : Option String → Json
  | none => null
  | some content => text content

end Json

end MarkdownHtml
