import MarkdownHtml.Config.Options
import MarkdownHtml.Html.Entity
import MarkdownHtml.Markdown.BlockStart
import MarkdownHtml.Text.Blank

/-!
# Inline tokens

The text of a line is cut into tokens: stretches of plain text and the marks that may turn out to be
markup. `readLine` does so up to the line's end, or up to the end of a table cell. Which marks are
markup is decided later, for a whole block at once.
-/

namespace MarkdownHtml.Markdown

/-- What a token is. -/
inductive TokenKind where
  /-- Text as it stands in the source. -/
  | text
  /-- Text that a character reference or a run of punctuation stands for. -/
  | characters (text : List Char)
  /-- A run of marks that may begin or end emphasis. -/
  | delimiters (mark : Char) (count : Nat) (canOpen canClose : Bool)
  /-- A run of backticks; if `escaped`, a backslash takes the first one's meaning away. -/
  | backticks (count : Nat) (escaped : Bool)
  /-- `<` -/
  | angle
  /-- `[`, or `![` of an image. -/
  | opening (isImage : Bool)
  /-- `]`, which may close a label unless that was tried already. -/
  | closing (mayRefer : Bool)
  /-- A typewriter quote, double or single. -/
  | quote (isDouble canOpen canClose : Bool)
  | softBreak
  /-- A line break that a backslash or blanks at the line's end ask for. -/
  | hardBreak (byBackslash : Bool)
deriving DecidableEq, Repr

/-- A token, with the range of source characters that it takes. -/
structure Token where
  start : Nat
  stop : Nat
  kind : TokenKind
deriving DecidableEq, Repr

/-- What the line is part of. -/
inductive LineRole where
  | plain
  /-- The first line of a paragraph inside containers, which may be a table's header. -/
  | header (containers : List Container)
  | cell
deriving DecidableEq, Repr

/-- A line that has been read. -/
structure Line where
  tokens : List Token
  /-- How many characters it takes, its end included unless it is a cell. -/
  length : Nat
  /-- The line break at its end, if there is a line end. -/
  lineBreak : Option Token
  /-- The columns, if the line is a table's header; the row below it then belongs to the line. -/
  columns : Option (List Alignment)

/-! ## Runs of marks -/

/-- Whether a character exists and is white space. -/
def blankChar (c : Option Char) : Bool := c.any Text.isBlankChar

/-- Whether a character exists and is punctuation. -/
def punctuationChar (c : Option Char) : Bool := c.any Text.isPunctuation

/-- Whether a pipe stands last in the characters before a place, which are given newest first. -/
def afterPipe (before : List Char) : Bool :=
  match before with
  | '|' :: rest => rest.head? != some '\\'
  | _ => false

/-- Whether a run of marks can open markup, by the characters of the line before it, newest first,
and those after it. -/
def canOpen (isCell : Bool) (mark : Char) (count : Nat) (before after : List Char) : Bool :=
  let next := after.head?
  if next.isNone || blankChar next then false
  else if before.isEmpty || (isCell && afterPipe before) then true
  else if isCell && next == some '|' then false
  else if mark == '*' && !punctuationChar next then true
  else if mark == '~' && (count > 1 || (before.head? == some '~' && !punctuationChar next)) then true
  else
    let last := before.head?
    blankChar last ||
      (punctuationChar last && (mark != '\'' || (last != some ']' && last != some ')')))

/-- Whether a run of marks can close markup. -/
def canClose (isCell : Bool) (mark : Char) (count : Nat) (before after : List Char) : Bool :=
  let last := before.head?
  let next := after.head?
  if last.isNone || blankChar last then false
  else if next.isNone then true
  else if isCell && afterPipe before then false
  else if isCell && next == some '|' then true
  else if (mark == '*' || (mark == '~' && count > 1)) && !punctuationChar last then true
  else if mark == '~' && last == some '~' then true
  else blankChar next || punctuationChar next

/-- The dashes that a run of hyphens stands for: as many long ones as make up the run, with short ones
for what is left. -/
def dashes (count : Nat) : List Char :=
  let (long, short) :=
    match count % 6 with
    | 0 | 3 => (count / 3, 0)
    | 2 | 4 => (0, count / 2)
    | 1 => (count / 3 - 1, 2)
    | _ => (count / 3, 1)
  List.replicate long '—' ++ List.replicate short '–'

/-! ## Reading a line -/

/-- A line while it is read. -/
structure Lexer where
  options : MarkdownOptions
  role : LineRole
  /-- The characters of the line so far, newest first. -/
  before : List Char
  /-- The offset of the next character. -/
  offset : Nat
  /-- The offset from which on text belongs to no token yet. -/
  textStart : Nat
  /-- The tokens so far, newest first. -/
  tokens : List Token
  /-- The number of pipes so far. -/
  pipeCount : Nat
  /-- The characters after the last pipe. -/
  afterPipe : List Char

namespace Lexer

/-- Makes a token of the text up to an offset. -/
def endText (l : Lexer) (stop : Nat) : Lexer :=
  if l.textStart < stop then { l with tokens := ⟨l.textStart, stop, .text⟩ :: l.tokens } else l

/-- Makes a token of the next characters. -/
def add (l : Lexer) (length : Nat) (kind : TokenKind) : Lexer :=
  let l := l.endText l.offset
  { l with
    tokens := ⟨l.offset, l.offset + length, kind⟩ :: l.tokens
    textStart := l.offset + length }

/-- Passes a character. -/
def pass (l : Lexer) (c : Char) : Lexer :=
  { l with before := c :: l.before, offset := l.offset + 1 }

/-- Whether the line is a table cell. -/
def isCell (l : Lexer) : Bool := l.role == .cell

/-- A mark that may begin or end emphasis, or a typewriter quote. -/
def addFlanking (l : Lexer) (mark : Char) (count : Nat) (after : List Char)
    (kind : Bool → Bool → TokenKind) (needed : Bool) : Lexer :=
  let opens := canOpen l.isCell mark count l.before after
  let closes := canClose l.isCell mark count l.before after
  if needed ∧ !opens ∧ !closes then l else l.add count (kind opens closes)

/-- What a backslash does that `rest` follows: the lexer with the tokens that come of it, and how many
of the characters of `rest` it takes. -/
def escape (l : Lexer) (rest : List Char) : Lexer × Nat :=
  match rest with
  | [] => (l, 0)
  | c :: more =>
    if Text.isAsciiPunctuation c then
      let l := l.endText l.offset
      if c = '\x60' then
        let count := runLength '\x60' rest
        let start := l.offset + 1
        ({ l with
          tokens := ⟨start, start + count, .backticks count true⟩ :: l.tokens
          textStart := start + count }, count)
      else if l.isCell ∧ c = '\\' ∧ more.head? = some '|' then
        ({ l with textStart := l.offset + 2 }, 2)
      else ({ l with textStart := l.offset + 1 }, 1)
    else (l, 0)

/-- What a character does that is no line end: the lexer with the tokens that come of it, and how many
of the characters after it belong to them. -/
def mark (l : Lexer) (c : Char) (rest : List Char) : Lexer × Nat :=
  let options := l.options
  match c with
  | '\\' => l.escape rest
  | '*' | '_' =>
    let count := runLength c (c :: rest)
    (l.addFlanking c count (rest.drop (count - 1)) (.delimiters c count) true, count - 1)
  | '~' =>
    let count := runLength c (c :: rest)
    if options.strikethrough ∧ count ≤ 2 then
      (l.addFlanking c count (rest.drop (count - 1)) (.delimiters c count) true, count - 1)
    else (l, count - 1)
  | '\x60' =>
    let count := runLength c (c :: rest)
    (l.add count (.backticks count false), count - 1)
  | '<' => if rest.head? = some '\\' then (l, 0) else (l.add 1 .angle, 0)
  | '!' => if rest.head? = some '[' then (l.add 2 (.opening true), 1) else (l, 0)
  | '[' => (l.add 1 (.opening false), 0)
  | ']' => (l.add 1 (.closing true), 0)
  | '&' =>
    match Entity.scan (c :: rest) with
    | some (length, value) => (l.add length (.characters value), length - 1)
    | none => (l, 0)
  | '|' =>
    if options.tables ∧ l.before.head? ≠ some '\\' then
      ({ l with pipeCount := l.pipeCount + 1, afterPipe := rest }, 0)
    else (l, 0)
  | '.' =>
    if options.smartPunctuation ∧ startsWith ".." rest then (l.add 3 (.characters ['…']), 2)
    else (l, 0)
  | '-' =>
    let count := runLength c (c :: rest)
    if options.smartPunctuation ∧ 2 ≤ count then
      (l.add count (.characters (dashes count)), count - 1)
    else (l, 0)
  | '"' | '\'' =>
    if options.smartPunctuation then (l.addFlanking c 1 rest (.quote (c == '"')) false, 0)
    else (l, 0)
  | _ => (l, 0)

/-- The line at an offset where its text ends, trailing white space cut off. -/
def finish (l : Lexer) (start : Nat) (columns : Option (List Alignment)) : Line :=
  let trailing := min (countWhile isGap l.before) (l.offset - l.textStart)
  let l' := l.endText (l.offset - trailing)
  ⟨l'.tokens.reverse, l.offset - start, none, columns⟩

/-- The columns of the table whose header the line is, and the length of the row below the header with
the margin before it. -/
def columns? (l : Lexer) (below : List Char) : Option (List Alignment × Nat) :=
  match l.role with
  | .header containers => do
    let m ← Container.marginInside? containers below
    let (alignments, length) ← delimiterRow? m.rest
    if 0 < l.pipeCount ∧ alignments.length = headerWidth l.pipeCount l.afterPipe l.before.reverse then
      some (alignments, m.taken + length)
    else none
  | _ => none

/-- The line at its end, which takes `ending` characters; `below` follows it. A line break after it
begins with the backslash or the blanks that ask for it. -/
def endLine (l : Lexer) (start ending : Nat) (below : List Char) : Line :=
  match l.columns? below with
  | some (columns, length) => ⟨[], l.offset + ending + length - start, none, some columns⟩
  | none =>
    let stop := l.offset + ending
    let backslashes := runLength '\\' l.before
    let blanks := countWhile isGap l.before
    let line (textEnd : Nat) (kind : TokenKind) : Line :=
      ⟨(l.endText textEnd).tokens.reverse, stop - start, some ⟨textEnd, stop, kind⟩, none⟩
    if backslashes % 2 = 1 ∧ !below.isEmpty then line (l.offset - 1) (.hardBreak true)
    else if 2 ≤ blanks then line (l.offset - blanks) (.hardBreak false)
    else
      ⟨(l.endText (l.offset - blanks)).tokens.reverse, stop - start,
        some ⟨l.offset, stop, .softBreak⟩, none⟩

/-- Reads on from a lexer; the first `skip` characters belong to tokens already. -/
def read (start : Nat) : Nat → Lexer → List Char → Line
  | _, l, [] => l.finish start none
  | skip + 1, l, c :: rest => read start skip (l.pass c) rest
  | 0, l, c :: rest =>
    match c with
    | '\n' | '\r' =>
      if l.isCell then l.finish start none
      else
        let ending := (lineEnd? (c :: rest)).getD 1
        l.endLine start ending ((c :: rest).drop ending)
    | _ =>
      if c = '|' ∧ l.isCell ∧ l.options.tables ∧ l.before.head? ≠ some '\\' then l.finish start none
      else
        let (l, skip) := l.mark c rest
        read start skip (l.pass c) rest

end Lexer

/-- Reads the text of a line that begins at an offset of the source. -/
def readLine (options : MarkdownOptions) (role : LineRole) (offset : Nat) (cs : List Char) : Line :=
  Lexer.read offset 0 ⟨options, role, [], offset, offset, [], 0, []⟩ cs

end MarkdownHtml.Markdown
