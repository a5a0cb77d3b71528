import MarkdownHtml.Text.Category

/-!
# Looking at the characters ahead

Markdown is read from runs of characters: what is left of the source, or of a block. The functions
here count what stands at the beginning of such a run.
-/

namespace MarkdownHtml.Markdown

/-- White space of ASCII that ends no line. -/
def isGap (c : Char) : Bool := c == ' ' || c == '\t' || c == '\x0B' || c == '\x0C'

/-- White space of ASCII. -/
def isSpace (c : Char) : Bool := isGap c || c == '\n' || c == '\r'

/-- How many characters at the beginning satisfy a test. -/
def countWhile (p : Char → Bool) : List Char → Nat
  | [] => 0
  | c :: rest => if p c then countWhile p rest + 1 else 0

/-- How often a character is repeated at the beginning. -/
def runLength (c : Char) (cs : List Char) : Nat := countWhile (· == c) cs

/-- How many characters the line end at the beginning takes. The end of the text ends a line too. -/
def lineEnd? : List Char → Option Nat
  | [] => some 0
  | '\n' :: _ => some 1
  | '\r' :: '\n' :: _ => some 2
  | '\r' :: _ => some 1
  | _ => none

/-- How many characters the rest of a line takes when it is blank, its end included. -/
def blankRest? (cs : List Char) : Option Nat :=
  let gap := countWhile isGap cs
  (lineEnd? (cs.drop gap)).map (gap + ·)

/-- How many characters there are up to and with the next newline. -/
def lineLength (cs : List Char) : Nat := min cs.length (countWhile (· != '\n') cs + 1)

/-- Whether a text without upper-case letters stands at the beginning, in letters of either case. -/
def startsWithFolded (text : String) (cs : List Char) : Bool :=
  text.toList.isPrefixOf ((cs.take text.length).map Char.toLower)

/-- Whether a text stands at the beginning. -/
def startsWith (text : String) (cs : List Char) : Bool := text.toList.isPrefixOf cs

/-- What follows the first occurrence of a text. -/
def after? (text : List Char) : List Char → Option (List Char)
  | [] => if text.isEmpty then some [] else none
  | c :: rest => if text.isPrefixOf (c :: rest) then some ((c :: rest).drop text.length) else after? text rest

/-- The decimal number that digits write. -/
def decimal (digits : List Char) : Nat :=
  digits.foldl (fun n c => 10 * n + (c.toNat - '0'.toNat)) 0

end MarkdownHtml.Markdown
