import MarkdownHtml.Toml.Scalar
import MarkdownHtml.Toml.Value

/-!
# Reading TOML

A reader for TOML 1.1. Each function takes the characters that are left and returns what it read
with the rest, or nothing where the text is no TOML. `Toml.read?` reads a whole document.
-/

namespace MarkdownHtml.Toml

/-- Skips blanks and tabs. -/
def skipBlanks (cs : List Char) : List Char := cs.dropWhile fun c => c == ' ' || c == '\t'

/-- Control characters other than tab stand in no comment and no string. -/
def isForbidden (c : Char) : Bool := (c.toNat < 0x20 && c != '\t') || c == '\x7F'

/-- Takes a line end, if one is next. -/
def newline? : List Char → Option (List Char)
  | '\n' :: rest => some rest
  | '\r' :: '\n' :: rest => some rest
  | _ => none

/-- Skips a comment, if one is next. -/
def skipComment? : List Char → Option (List Char)
  | '#' :: rest =>
    let comment := rest.takeWhile fun c => c != '\n' && c != '\r'
    if comment.any isForbidden then none else some (rest.drop comment.length)
  | cs => some cs

/-- Reaches the end of a line, past blanks and a comment. -/
def endLine? (cs : List Char) : Option (List Char) := do
  match ← skipComment? (skipBlanks cs) with
  | [] => some []
  | rest => newline? rest

/-- Skips blanks, comments and line ends. -/
def skipLines : Nat → List Char → Option (List Char)
  | 0, _ => none
  | fuel + 1, cs => do
    let rest ← skipComment? (skipBlanks cs)
    match newline? rest with
    | some next => skipLines fuel next
    | none => some rest

/-- Skips blanks, comments and line ends, as many as there are. -/
def skipFiller (cs : List Char) : Option (List Char) := skipLines (cs.length + 1) cs

/-- The value of a hexadecimal digit. -/
def hexValue (c : Char) : Nat :=
  if c.isDigit then c.toNat - '0'.toNat else c.toLower.toNat - 'a'.toNat + 10

/-- The character of a code point that is written with a given number of hexadecimal digits. -/
def codePoint? (count : Nat) (cs : List Char) : Option (Char × List Char) :=
  let digits := cs.take count
  let value := digits.foldl (fun n c => 16 * n + hexValue c) 0
  if digits.length = count ∧ digits.all isHexDigit ∧ value.isValidChar then
    some (Char.ofNat value, cs.drop count)
  else none

/-- The character of an escape, after its backslash. -/
def escape? : List Char → Option (Char × List Char)
  | 'b' :: rest => some ('\x08', rest)
  | 't' :: rest => some ('\t', rest)
  | 'n' :: rest => some ('\n', rest)
  | 'f' :: rest => some ('\x0C', rest)
  | 'r' :: rest => some ('\r', rest)
  | 'e' :: rest => some ('\x1B', rest)
  | '"' :: rest => some ('"', rest)
  | '\\' :: rest => some ('\\', rest)
  | 'x' :: rest => codePoint? 2 rest
  | 'u' :: rest => codePoint? 4 rest
  | 'U' :: rest => codePoint? 8 rest
  | _ => none

/-- The rest of a string in double quotes on one line. The characters read so far are `done`, newest
first. -/
def basic (done : List Char) : Nat → List Char → Option (String × List Char)
  | 0, _ => none
  | fuel + 1, cs =>
    match cs with
    | '"' :: rest => some (String.ofList done.reverse, rest)
    | '\\' :: rest => do
      let (c, rest) ← escape? rest
      basic (c :: done) fuel rest
    | c :: rest => if isForbidden c then none else basic (c :: done) fuel rest
    | [] => none

/-- The rest of a string in single quotes on one line. -/
def literal (cs : List Char) : Option (String × List Char) :=
  let text := cs.takeWhile (· != '\'')
  match cs.drop text.length with
  | _ :: rest => if text.any isForbidden then none else some (String.ofList text, rest)
  | [] => none

/-- Skips blanks and line ends after a backslash that ends a line of a long string. -/
def skipFolded : List Char → List Char
  | ' ' :: rest => skipFolded rest
  | '\t' :: rest => skipFolded rest
  | '\n' :: rest => skipFolded rest
  | '\r' :: '\n' :: rest => skipFolded rest
  | cs => cs

/-- Where three quotes end a long string, up to two more belong to the string. -/
def closing (quote : Char) : List Char → Option (List Char × List Char)
  | a :: b :: c :: rest =>
    if a = quote ∧ b = quote ∧ c = quote then
      let more := (rest.take 2).takeWhile (· == quote)
      some (more, rest.drop more.length)
    else none
  | _ => none

/-- The rest of a string in three double quotes. -/
def longBasic (done : List Char) : Nat → List Char → Option (String × List Char)
  | 0, _ => none
  | fuel + 1, cs =>
    match closing '"' cs with
    | some (more, rest) => some (String.ofList (done.reverse ++ more), rest)
    | none =>
      match cs with
      | '\\' :: rest =>
        match newline? (skipBlanks rest) with
        | some next => longBasic done fuel (skipFolded next)
        | none => do
          let (c, rest) ← escape? rest
          longBasic (c :: done) fuel rest
      | c :: rest =>
        match newline? (c :: rest) with
        | some next => longBasic ('\n' :: done) fuel next
        | none => if isForbidden c then none else longBasic (c :: done) fuel rest
      | [] => none

/-- The rest of a string in three single quotes. -/
def longLiteral (done : List Char) : Nat → List Char → Option (String × List Char)
  | 0, _ => none
  | fuel + 1, cs =>
    match closing '\'' cs with
    | some (more, rest) => some (String.ofList (done.reverse ++ more), rest)
    | none =>
      match cs with
      | c :: rest =>
        match newline? (c :: rest) with
        | some next => longLiteral ('\n' :: done) fuel next
        | none => if isForbidden c then none else longLiteral (c :: done) fuel rest
      | [] => none

/-- A line end right after the opening quotes of a long string does not belong to it. -/
def afterOpening (cs : List Char) : List Char := (newline? cs).getD cs

/-- A string that one pair of quotes encloses. -/
def shortString? : List Char → Option (String × List Char)
  | '"' :: rest => basic [] (rest.length + 1) rest
  | '\'' :: rest => literal rest
  | _ => none

/-- A string of any kind. -/
def string? : List Char → Option (String × List Char)
  | '"' :: '"' :: '"' :: rest =>
    let body := afterOpening rest
    longBasic [] (body.length + 1) body
  | '\'' :: '\'' :: '\'' :: rest =>
    let body := afterOpening rest
    longLiteral [] (body.length + 1) body
  | cs => shortString? cs

/-- The characters of a key without quotes. -/
def isKeyChar (c : Char) : Bool := c.isAlphanum || c == '_' || c == '-'

/-- One part of a key. -/
def keyPart? (cs : List Char) : Option (String × List Char) :=
  match shortString? cs with
  | some result => some result
  | none =>
    match cs.takeWhile isKeyChar with
    | [] => none
    | name => some (String.ofList name, cs.drop name.length)

/-- A key: parts with dots between them. Blanks around it are skipped. -/
def key? : Nat → List Char → Option (List String × List Char)
  | 0, _ => none
  | fuel + 1, cs => do
    let (part, rest) ← keyPart? (skipBlanks cs)
    match skipBlanks rest with
    | '.' :: rest =>
      let (more, rest) ← key? fuel rest
      some (part :: more, rest)
    | rest => some ([part], rest)

/-- The characters of which numbers and dates are made. -/
def isWordChar (c : Char) : Bool := c.isAlphanum || c == '+' || c == '-' || c == '_' || c == '.' || c == ':'

/-- A value without quotes and brackets. After a date, a blank and a digit carry on to a time. -/
def scalar? (cs : List Char) : Option (Value × List Char) :=
  let word := cs.takeWhile isWordChar
  let rest := cs.drop word.length
  let (word, rest) :=
    match rest with
    | ' ' :: d :: _ =>
      if isDate word ∧ d.isDigit then
        let time := (rest.drop 1).takeWhile isWordChar
        (word ++ ' ' :: time, rest.drop (time.length + 1))
      else (word, rest)
    | _ => (word, rest)
  if word = "true".toList then some (.boolean true, rest)
  else if word = "false".toList then some (.boolean false, rest)
  else if isInteger word || isFloat word then some (.number, rest)
  else if isDatetime word then some (.datetime (datetimeText word), rest)
  else none

/-- The elements of an array up to its closing bracket. -/
def elements (value : List Char → Option (Value × List Char)) : Nat → List Char → Option (List Value × List Char)
  | 0, _ => none
  | fuel + 1, cs => do
    match ← skipFiller cs with
    | ']' :: rest => some ([], rest)
    | cs =>
      let (first, rest) ← value cs
      match ← skipFiller rest with
      | ',' :: rest =>
        let (more, rest) ← elements value fuel rest
        some (first :: more, rest)
      | ']' :: rest => some ([first], rest)
      | _ => none

/-- A key, an equals sign and a value. -/
def assignment (value : List Char → Option (Value × List Char)) (cs : List Char) : Option ((List String × Value) × List Char) := do
  let (path, rest) ← key? (cs.length + 1) cs
  match rest with
  | '=' :: rest =>
    let (v, rest) ← value (skipBlanks rest)
    some ((path, v), rest)
  | _ => none

/-- The entries of a table in braces up to its closing brace, added to the earlier ones. -/
def members (value : List Char → Option (Value × List Char)) (entries : Entries) : Nat → List Char → Option (Entries × List Char)
  | 0, _ => none
  | fuel + 1, cs => do
    match ← skipFiller cs with
    | '}' :: rest => some (entries, rest)
    | cs =>
      let ((path, v), rest) ← assignment value cs
      let entries ← entries.add? path v
      match ← skipFiller rest with
      | ',' :: rest => members value entries fuel rest
      | '}' :: rest => some (entries, rest)
      | _ => none

/-- A value, in which arrays and tables in braces are nested at most `depth` deep. -/
def value? : Nat → List Char → Option (Value × List Char)
  | depth, '[' :: rest =>
    match depth with
    | 0 => none
    | depth + 1 => (elements (value? depth) (rest.length + 1) rest).map fun (vs, r) => (.array vs, r)
  | depth, '{' :: rest =>
    match depth with
    | 0 => none
    | depth + 1 =>
      (members (value? depth) [] (rest.length + 1) rest).map fun (es, r) => (.table .closed es, r)
  | _, cs =>
    match cs.head? with
    | some '"' | some '\'' => (string? cs).map fun (text, rest) => (.string text, rest)
    | _ => scalar? cs

/-- How deep values may be nested. -/
def depthLimit : Nat := 80

/-- The statements of a document, added to the root's entries. Keys belong to the table that the last
header opened, which stands at `current`. -/
def statements (root : Entries) (current : List String) : Nat → List Char → Option Entries
  | 0, _ => none
  | fuel + 1, cs => do
    match ← skipFiller cs with
    | [] => some root
    | '[' :: '[' :: rest =>
      let (path, rest) ← key? (rest.length + 1) rest
      match rest with
      | ']' :: ']' :: rest => statements (← root.openArrayTable? path) path fuel (← endLine? rest)
      | _ => none
    | '[' :: rest =>
      let (path, rest) ← key? (rest.length + 1) rest
      match rest with
      | ']' :: rest => statements (← root.openTable? path) path fuel (← endLine? rest)
      | _ => none
    | cs =>
      let ((path, v), rest) ← assignment (value? depthLimit) cs
      let root ← root.atHeader? (·.add? path v) current
      statements root current fuel (← endLine? rest)

/-- The root table of a TOML document. A byte order mark in front is skipped. -/
def read? (text : String) : Option Entries :=
  let cs := text.toList
  let cs := if cs.head? = some '\uFEFF' then cs.drop 1 else cs
  statements [] [] (cs.length + 1) cs

end MarkdownHtml.Toml
