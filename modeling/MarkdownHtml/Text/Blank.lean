/-!
# White space

The characters with the Unicode property `White_Space`, the texts made of nothing else, and the
first word of a text. Every rule of the library that asks whether a line, a key, a title or an info
string is empty asks it here, so that all of them cut at the same characters.
-/

namespace MarkdownHtml.Text

/-- The 25 characters with the Unicode property `White_Space`. -/
def isBlankChar (c : Char) : Bool :=
  let n := c.toNat
  (0x09 ≤ n && n ≤ 0x0D) || n == 0x20 || n == 0x85 || n == 0xA0 || n == 0x1680 ||
    (0x2000 ≤ n && n ≤ 0x200A) || n == 0x2028 || n == 0x2029 || n == 0x202F || n == 0x205F ||
    n == 0x3000

/-- A run of characters is blank when it holds white space only; the empty run is blank. -/
def blank (cs : List Char) : Bool := cs.all isBlankChar

/-- A text is blank when it holds white space only; the empty text is blank. -/
def isBlank (text : String) : Bool := blank text.toList

/-- The first maximal stretch of a text that is free of white space, if the text is not blank. -/
def firstWord? (text : String) : Option String :=
  match (text.toList.dropWhile isBlankChar).takeWhile (!isBlankChar ·) with
  | [] => none
  | word => some (String.ofList word)

/-- A text that has something besides white space; a blank text counts as absent. -/
def nonBlank? (text : String) : Option String := if isBlank text then none else some text

end MarkdownHtml.Text
