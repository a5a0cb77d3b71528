import MarkdownHtml.Json.Value
import MarkdownHtml.Text.Join

/-!
# Writing JSON

The compact form of a JSON value: no blanks, members in their order, and no escapes but those that
JSON demands.
-/

namespace MarkdownHtml.Json

/-- A lower-case hexadecimal digit. -/
def hexDigit (n : Nat) : Char := if n < 10 then Char.ofNat (n + 0x30) else Char.ofNat (n + 0x57)

/-- A character inside a string. Quotes, backslashes and control characters are escaped, some of the
latter by a letter of their own. -/
def characterText (c : Char) : List Char :=
  match c with
  | '"' => ['\\', '"']
  | '\\' => ['\\', '\\']
  | '\x08' => ['\\', 'b']
  | '\t' => ['\\', 't']
  | '\n' => ['\\', 'n']
  | '\x0C' => ['\\', 'f']
  | '\r' => ['\\', 'r']
  | c =>
    if c.toNat < 0x20 then ['\\', 'u', '0', '0', hexDigit (c.toNat / 16), hexDigit (c.toNat % 16)]
    else [c]

/-- A text in quotes. -/
def quoted (content : String) : String :=
  String.ofList ('"' :: (content.toList.flatMap characterText ++ ['"']))

mutual

/-- The compact form of a value. A foreign value is not kept: null stands in its place. -/
def write : Json → String
  | null | foreign => "null"
  | boolean true => "true"
  | boolean false => "false"
  | natural value => toString value
  | text content => quoted content
  | array elements => "[" ++ Text.separated "," (writeEach elements) ++ "]"
  | object members => "\x7b" ++ Text.separated "," (writeMembers members) ++ "\x7d"

/-- The compact forms of the elements of an array. -/
def writeEach : List Json → List String
  | [] => []
  | value :: rest => write value :: writeEach rest

/-- The compact forms of the members of an object. -/
def writeMembers : List (String × Json) → List String
  | [] => []
  | (name, value) :: rest => (quoted name ++ ":" ++ write value) :: writeMembers rest

end

end MarkdownHtml.Json
