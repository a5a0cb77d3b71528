import MarkdownHtml.Builder.Basic
import MarkdownHtml.Markdown.LinkParts
import MarkdownHtml.Markdown.RawHtml
import MarkdownHtml.Markdown.Token

/-!
# Blocks

What the block structure of a source is made of, and the leaf blocks: code, HTML, headings, tables,
paragraphs and link reference definitions. All offsets count characters of the source.
-/

namespace MarkdownHtml.Markdown

/-- A table cell: its tokens, and where it ends. -/
structure Cell where
  tokens : List Token
  stop : Nat

/-- A block, with the range of the source that it takes. Inline text is still cut into tokens. -/
inductive Block where
  | paragraph (start stop : Nat) (tokens : List Token)
  | heading (start stop : Nat) (level : HeadingLevel) (tokens : List Token)
  | rule (start stop : Nat)
  | code (start stop : Nat) (kind : CodeBlockKind) (lines : List String)
  | html (start stop : Nat) (lines : List String)
  /-- A table; the first row is its header. -/
  | table (start stop : Nat) (alignments : List Alignment) (rows : List (List Cell))
  | quote (start stop : Nat) (children : List Block)
  | list (start stop : Nat) (marker : ListMarker) (items : List Block)
  | item (start stop : Nat) (indent : Nat) (children : List Block)

/-- A place in the source. -/
structure Cursor where
  offset : Nat
  rest : List Char

namespace Cursor

/-- The place some characters on. -/
def skip (c : Cursor) (n : Nat) : Cursor := ⟨c.offset + n, c.rest.drop n⟩

/-- The place of a margin on the line that begins here. -/
def reach (c : Cursor) (m : Margin) : Cursor := ⟨c.offset + m.taken, m.rest⟩

end Cursor

/-- The surroundings of a leaf block: the options, and the containers that are open around it,
outermost first. -/
structure Surroundings where
  options : MarkdownOptions
  containers : List Container

namespace Surroundings

/-- Enters as many containers as possible; says whether these are all. -/
def enter (s : Surroundings) (line : List Char) : Bool × Margin :=
  let (missing, m) := Container.enterAll (.start line) s.containers
  (missing == 0, m)

/-- Whether what follows a margin ends a paragraph or a table, tables aside. The line may belong to
the paragraph's containers, or else only continue it lazily. -/
def interruptsRow (inContainers inTable : Bool) (cs : List Char) : Bool :=
  (lineEnd? cs).isSome || (thematicBreak? cs).isSome || (headingMark? cs).isSome ||
    (fence? cs).isSome || cs.head? == some '>' || interruptingItem (!inContainers || inTable) cs ||
    match cs with
    | '<' :: rest => (RawHtml.blockEnd? rest).isSome || RawHtml.startsBlock rest
    | _ => false

/-- Whether what follows a margin ends a paragraph. -/
def interrupts (s : Surroundings) (inContainers : Bool) (cs : List Char) : Bool :=
  interruptsRow inContainers false cs || (s.options.tables && interruptingTable s.containers cs)

end Surroundings

/-! ## Code and HTML -/

/-- A line with its end written as a newline alone. Of a last line without an end a carriage return
before the last character is dropped. -/
def normalizedEnd (line : List Char) : List Char :=
  match line.reverse with
  | c :: '\r' :: rest => if c.toNat < 0x80 then (c :: rest).reverse else line
  | _ => line

/-- A line of code or HTML with blanks in front of it. -/
def lineText (blanks : Nat) (line : List Char) : String :=
  String.ofList (List.replicate blanks ' ' ++ normalizedEnd line)

/-- Lines of indented code. Blank lines at the end do not belong to it: `pending` holds the blank lines
read since the last other one, newest first. Gives the lines, newest first, where the code ends, and
where reading goes on. -/
def indentedLines (s : Surroundings) (lines pending : List String) (stop : Nat) (blank : Bool)
    (spare : Nat) : Nat → Cursor → List String × Nat × Cursor
  | 0, c => (lines, stop, c)
  | fuel + 1, c =>
    let length := lineLength c.rest
    let read := lineText spare (c.rest.take length) :: pending
    let next := c.skip length
    let (lines, pending, stop) :=
      if blank then (lines, read, stop) else (read ++ lines, [], next.offset)
    if next.rest.isEmpty then (lines, stop, next)
    else
      match s.enter next.rest with
      | (false, _) => (lines, stop, next)
      | (true, m) =>
        let (lacking, inner) := m.take 4
        if lacking = 0 ∨ inner.atLineEnd then
          indentedLines s lines pending stop (blankRest? inner.rest).isSome inner.spare fuel
            (next.reach inner)
        else (lines, stop, next)

/-- Indented code whose first line has its indentation taken, up to the spare columns of a tab. -/
def indentedCode (s : Surroundings) (c : Cursor) (spare : Nat) : Block × Cursor :=
  let (lines, stop, next) := indentedLines s [] [] c.offset false spare (c.rest.length + 1) c
  (.code c.offset stop .indented lines.reverse, next)

/-- Lines of fenced code, newest first, up to a closing fence or the end of its container. Gives where
the code ends, and where reading goes on. -/
def fencedLines (s : Surroundings) (indent : Nat) (mark : Char) (opening : Nat)
    (lines : List String) : Nat → Cursor → List String × Nat × Cursor
  | 0, c => (lines, c.offset, c)
  | fuel + 1, c =>
    match s.enter c.rest with
    | (false, _) => (lines, c.offset, c)
    | (true, m) =>
      let inner := (m.take indent).2
      let (lacking, fence) := inner.take (4 - indent)
      let closing := if lacking = 0 then none else closingFence? mark opening fence.rest
      match closing with
      | some n =>
        let stop := (c.reach fence).skip n
        (lines, stop.offset, stop.skip ((blankRest? stop.rest).getD 0))
      | none =>
        let text := c.reach inner
        let length := lineLength text.rest
        fencedLines s indent mark opening (lineText inner.spare (text.rest.take length) :: lines)
          fuel (text.skip length)

/-- Fenced code that begins at a fence with some indentation. -/
def fencedCode (s : Surroundings) (c : Cursor) (indent opening : Nat) (mark : Char) :
    Block × Cursor :=
  let afterFence := c.rest.drop opening
  let info := (afterFence.take (lineLength afterFence)).dropWhile isGap
  let info := (info.reverse.dropWhile isSpace).reverse
  let body := c.skip (opening + lineLength afterFence)
  let (lines, stop, next) := fencedLines s indent mark opening [] (body.rest.length + 2) body
  (.code c.offset stop (.fenced (unescape false info)) lines.reverse, next)

/-- Lines of an HTML block, newest first. It ends after a line with `ending` in it, or without such
text before a blank line. Gives where the block ends, and where reading goes on. -/
def htmlLines (s : Surroundings) (ending : Option String) (lines : List String) (blanks : Nat) :
    Nat → Cursor → List String × Nat × Cursor
  | 0, c => (lines, c.offset, c)
  | fuel + 1, c =>
    let length := lineLength c.rest
    let line := c.rest.take length
    let lines := lineText blanks line :: lines
    let next := c.skip length
    match s.enter next.rest with
    | (false, _) => (lines, next.offset, next)
    | (true, m) =>
      let inner := next.reach m
      let ends := match ending with
        | some text => (after? text.toList line).isSome
        | none => m.atLineEnd
      if ends then (lines, next.offset, next)
      else if inner.rest.isEmpty ∨ (ending.isNone ∧ (blankRest? inner.rest).isSome) then
        (lines, inner.offset, next)
      else htmlLines s ending lines m.spare fuel inner

/-- An HTML block. -/
def htmlBlock (s : Surroundings) (c : Cursor) (ending : Option String) (blanks : Nat) :
    Block × Cursor :=
  let (lines, stop, next) := htmlLines s ending [] blanks (c.rest.length + 1) c
  (.html c.offset stop lines.reverse, next)

/-! ## Headings -/

/-- How much of a heading's line is its text: closing number signs with blanks before them are not,
nor is anything if there are only number signs. -/
def headingLimit (line : List Char) : Nat :=
  let trimmed := line.reverse.dropWhile fun c => c == '\n' || c == '\r' || c == ' '
  let body := trimmed.dropWhile (· == '#')
  if body.isEmpty then 0
  else
    let blanks := runLength ' ' body
    if 0 < blanks then body.length - blanks else trimmed.length

/-- Lets the last token end at an offset. -/
def endLast (stop : Nat) : List Token → List Token
  | [] => []
  | [t] => [{ t with stop := max t.start stop }]
  | t :: rest => t :: endLast stop rest

/-- A heading that begins with number signs. -/
def markedHeading (s : Surroundings) (c : Cursor) (level : HeadingLevel) : Block × Cursor :=
  let text := c.skip level.number.toNat
  match lineEnd? text.rest with
  | some n => (.heading c.offset (text.offset + n) level [], text.skip n)
  | none =>
    let text := text.skip (countWhile isGap text.rest)
    let line := readLine s.options .plain text.offset text.rest
    let next := text.skip line.length
    let limit := headingLimit (text.rest.take line.length)
    let tokens := if limit = 0 then [] else endLast (text.offset + limit) line.tokens
    (.heading c.offset next.offset level tokens, next)

/-! ## Tables -/

/-- The cells of a row, newest first, and the place after the row. -/
def rowCells (options : MarkdownOptions) (cells : List Cell) : Nat → Cursor → List Cell × Cursor
  | 0, c => (cells, c)
  | fuel + 1, c =>
    let c := if c.rest.head? = some '|' then c.skip 1 else c
    let c := c.skip (countWhile isGap c.rest)
    match lineEnd? c.rest with
    | some n => (cells, c.skip n)
    | none =>
      let line := readLine options .cell c.offset c.rest
      let next := c.skip line.length
      rowCells options (⟨line.tokens, next.offset⟩ :: cells) fuel next

/-- A row with as many cells as there are columns, and the place after it. -/
def tableRow (options : MarkdownOptions) (columns : Nat) (c : Cursor) : List Cell × Cursor :=
  let (cells, next) := rowCells options [] (c.rest.length + 1) c
  let cells := cells.reverse.take columns
  (cells ++ List.replicate (columns - cells.length) ⟨[], next.offset⟩, next)

/-- The rows of a table below its header, newest first, and the place after them. -/
def tableRows (s : Surroundings) (columns : Nat) (rows : List (List Cell)) :
    Nat → Cursor → List (List Cell) × Cursor
  | 0, c => (rows, c)
  | fuel + 1, c =>
    match s.enter c.rest with
    | (false, _) => (rows, c)
    | (true, m) =>
      let text := c.reach m.skipBlanks
      if Surroundings.interruptsRow true true text.rest then (rows, c)
      else
        let (row, next) := tableRow s.options columns text
        tableRows s columns (row :: rows) fuel next

/-- A table from its header on; `below` is the place after the row below the header. -/
def table (s : Surroundings) (c below : Cursor) (alignments : List Alignment) : Block × Cursor :=
  let (header, _) := tableRow s.options alignments.length c
  let (rows, next) := tableRows s alignments.length [] (below.rest.length + 1) below
  (.table c.offset next.offset alignments (header :: rows.reverse), next)

/-! ## Paragraphs -/

/-- Reads on in a paragraph that began at `start`; `tokens` are those of the lines so far, newest
first. -/
def paragraphLines (s : Surroundings) (start : Cursor) (tokens : List Token) :
    Nat → Cursor → Block × Cursor
  | 0, c => (.paragraph start.offset c.offset tokens.reverse, c)
  | fuel + 1, c =>
    let isFirst := c.offset == start.offset
    let role := if isFirst && s.options.tables then .header s.containers else .plain
    let line := readLine s.options role c.offset c.rest
    let next := c.skip line.length
    match line.columns with
    | some alignments => table s start next alignments
    | none =>
      let tokens := line.tokens.reverse ++ tokens
      let ended : List Token := match line.lineBreak with
        | some ⟨offset, _, .hardBreak true⟩ => ⟨offset, offset + 1, .text⟩ :: tokens
        | _ => tokens
      let paragraph := (.paragraph start.offset next.offset ended.reverse, next)
      if next.rest.isEmpty then paragraph
      else
        let (inContainers, m) := s.enter next.rest
        let (lacking, inner) := m.take 4
        let underline := if lacking ≠ 0 ∧ inContainers then underline? inner.rest else none
        match underline with
        | some (length, level) =>
          let after := (next.reach inner).skip length
          (.heading start.offset after.offset level ended.reverse, after)
        | none =>
          let text := inner.skipBlanks
          if (lacking ≠ 0 ∧ s.interrupts inContainers inner.rest) ∨ text.atLineEnd then paragraph
          else paragraphLines s start (line.lineBreak.toList ++ tokens) fuel (next.reach text)

/-- A paragraph, or the heading or table that it turns out to be. -/
def paragraph (s : Surroundings) (c : Cursor) : Block × Cursor :=
  paragraphLines s c [] (c.rest.length + 1) c

/-! ## Definitions -/

/-- The destination and the title of a link. -/
structure LinkTarget where
  destination : String
  title : String
deriving DecidableEq, Repr

/-- The text of the next line, if it belongs to the definition that the rest of the last line is part
of. -/
def nextLabelLine (s : Surroundings) (line : List Char) : Option (List Char) :=
  let (inContainers, m) := s.enter line
  if s.interrupts inContainers m.rest ∨ (inContainers ∧ (underline? m.rest).isSome) then none
  else some m.rest

/-- White space between the parts of a definition, with at most one line end in it; says whether there
is one. -/
def definitionSpace? (s : Surroundings) (cs : List Char) : Option (List Char × Bool) :=
  let rest := cs.drop (countWhile isGap cs)
  match lineEnd? rest with
  | none => some (rest, false)
  | some n =>
    let (inContainers, m) := s.enter (rest.drop n)
    let (lacking, inner) := m.take 4
    if lacking ≠ 0 ∧ (s.interrupts inContainers inner.rest ∨ (underline? inner.rest).isSome) then
      none
    else
      let text := inner.rest.drop (countWhile isGap inner.rest)
      if (lineEnd? text).isSome then none else some (text, true)

/-- What a definition says after its label's colon, and what follows it. A title that does not end its
line is no title; it spoils the definition if it is on the line of the destination. -/
def definitionTarget? (s : Surroundings) (cs : List Char) :
    Option (String × Option String × List Char) := do
  let (dest, _) ← definitionSpace? s cs
  let (destination, rest) ← destination? dest
  if destination.isEmpty ∧ dest.head? ≠ some '<' then none
  else
    let destination := unescape false destination
    let untitled := some (destination, none, rest)
    match definitionSpace? s rest with
    | none => untitled
    | some (title, onNextLine) =>
      if !onNextLine ∧ title.length = rest.length then none
      else
        let otherwise := if onNextLine then untitled else none
        match rawTitle? (nextLabelLine s) title with
        | none => otherwise
        | some (title, rest) =>
          if (blankRest? rest).isSome then some (destination, some (unescape false title), rest)
          else otherwise

/-- The link reference definition at the beginning, and what follows it. -/
def definition? (s : Surroundings) (offset : Nat) : List Char → Option (Definition × List Char)
  | '[' :: rest => do
    let (label, rest) ← label? false (nextLabelLine s) rest
    match rest with
    | ':' :: rest =>
      let (destination, title, rest) ← definitionTarget? s rest
      return (⟨offset, label, destination, title⟩, rest)
    | _ => none
  | _ => none

end MarkdownHtml.Markdown
