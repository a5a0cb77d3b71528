/-!
# Joining texts

Texts set in a row with a separator between neighbours.
-/

namespace MarkdownHtml.Text

/-- The texts in a row, with `separator` between consecutive ones. -/
def separated (separator : String) : List String → String
  | [] => ""
  | [text] => text
  | text :: next :: rest => text ++ separator ++ separated separator (next :: rest)

end MarkdownHtml.Text
