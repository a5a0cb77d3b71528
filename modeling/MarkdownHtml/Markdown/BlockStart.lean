import MarkdownHtml.Event.Tag
import MarkdownHtml.Markdown.Margin

/-!
# How blocks begin

The marks by which a line begins a block: rules, headings, fences, list markers and the two rows that
begin a table.
-/

namespace MarkdownHtml.Markdown

/-- A thematic break: three or more equal marks with blanks between them. Gives its length with the
line end. -/
def thematicBreak? (cs : List Char) : Option Nat :=
  match cs with
  | [] => none
  | mark :: _ =>
    if mark = '*' ∨ mark = '-' ∨ mark = '_' then
      let line := cs.takeWhile fun c => c == mark || c == ' ' || c == '\t'
      match lineEnd? (cs.drop line.length) with
      | some ending => if 3 ≤ line.count mark then some (line.length + ending) else none
      | none => none
    else none

/-- The number signs that begin a heading, if there are one to six and a blank or the line's end
follows. -/
def headingMark? (cs : List Char) : Option HeadingLevel :=
  let level := runLength '#' cs
  if (cs.drop level).head?.all isSpace then HeadingLevel.ofNumber? level else none

/-- The line under a paragraph that makes it a heading. Gives its length with the line end. -/
def underline? (cs : List Char) : Option (Nat × HeadingLevel) := do
  let mark ← cs.head?
  let level ← if mark = '=' then some .h1 else if mark = '-' then some .h2 else none
  let n := runLength mark cs
  return (n + (← blankRest? (cs.drop n)), level)

/-- The fence that opens a code block: its length and its mark. No backtick may follow a fence of
backticks on its line. -/
def fence? (cs : List Char) : Option (Nat × Char) :=
  match cs with
  | [] => none
  | mark :: _ =>
    let n := runLength mark cs
    let line := (cs.drop n).takeWhile (· != '\n')
    if (mark = '~' ∨ mark = '\x60' ∧ !line.contains '\x60') ∧ 3 ≤ n then some (n, mark) else none

/-- The fence that closes a code block, with the blanks after it and without the line end. The end of
the text closes a code block too. -/
def closingFence? (mark : Char) (opening : Nat) (cs : List Char) : Option Nat :=
  if cs.isEmpty then some 0
  else
    let n := runLength mark cs
    let blanks := runLength ' ' (cs.drop n)
    if opening ≤ n ∧ (lineEnd? (cs.drop (n + blanks))).isSome then some (n + blanks) else none

/-! ## List markers -/

/-- A list marker: a bullet, or a number with the mark after it. -/
structure ListMarker where
  mark : Char
  number : Nat
deriving DecidableEq, Repr

/-- Whether the items of the list are numbered. -/
def ListMarker.isOrdered (m : ListMarker) : Bool := m.mark == '.' || m.mark == ')'

/-- The marker at the beginning and its length, whatever follows. A number has at most nine
digits. -/
def bareMarker? (cs : List Char) : Option (ListMarker × Nat) :=
  match cs with
  | [] => none
  | c :: _ =>
    if c = '-' ∨ c = '+' ∨ c = '*' then some (⟨c, 0⟩, 1)
    else
      let digits := cs.takeWhile Char.isDigit
      match cs.drop digits.length with
      | mark :: _ =>
        if 1 ≤ digits.length ∧ digits.length ≤ 9 ∧ (mark = '.' ∨ mark = ')') then
          some (⟨mark, decimal digits⟩, digits.length + 1)
        else none
      | [] => none

/-- The marker that begins a list item at a margin, the indentation that the item's lines need, and
the margin after the marker. Of the blank space after the marker up to four columns belong to the
indentation; more of it begins indented code. -/
def listItem? (m : Margin) (outer : Nat) : Option (ListMarker × Nat × Margin) :=
  match bareMarker? m.rest with
  | none => none
  | some (marker, length) =>
    if (thematicBreak? m.rest).isSome then none
    else
      let (missing, inside) := (m.skip length).take 1
      if missing = 0 ∨ inside.atLineEnd then
        let indent := outer + length + 1
        if (blankRest? inside.rest).isSome then some (marker, indent, inside)
        else
          let (lacking, deeper) := inside.take 4
          if lacking = 0 then some (marker, indent, inside)
          else some (marker, indent + (4 - lacking), deeper)
      else none

/-- Whether a list item begins here that may interrupt a paragraph: one that is not blank, and if
numbered has the number one. A paragraph that the line may only continue lazily, and a table, give
way to every item. -/
def interruptingItem (yields : Bool) (cs : List Char) : Bool :=
  match bareMarker? cs with
  | none => false
  | some (marker, length) =>
    let rest := cs.drop length
    let spaced := match rest with
      | ' ' :: _ | '\t' :: _ => true
      | rest => (lineEnd? rest).isSome
    let empty := match blankRest? rest with
      | some n => (blankRest? (rest.drop n)).isSome
      | none => false
    spaced && (yields || ((!marker.isOrdered || marker.number == 1) && !empty))

/-! ## Tables -/

/-- What the row under a table's header says, read so far. -/
structure DelimiterRow where
  columns : List Alignment := []
  /-- The alignment that the colons of the open column give. -/
  current : Alignment := .unspecified
  /-- Whether nothing of the open column has been read. -/
  atStart : Bool := true
  hasPipe : Bool := false
  /-- Whether each column so far has a hyphen. -/
  sound : Bool := true
  /-- Whether the open column has a hyphen. -/
  hasHyphen : Bool := false

namespace DelimiterRow

/-- Closes the open column. -/
def close (row : DelimiterRow) : DelimiterRow :=
  { row with
    columns := row.current :: row.columns, current := .unspecified, atStart := true,
    sound := row.sound && row.hasHyphen, hasHyphen := false }

/-- Reads one character of the row. -/
def read? (row : DelimiterRow) : Char → Option DelimiterRow
  | ' ' => some row
  | ':' =>
    let current := match row.atStart, row.current with
      | true, .unspecified => .left
      | false, .left => .center
      | false, .unspecified => .right
      | _, other => other
    some { row with current, atStart := false }
  | '-' => some { row with atStart := false, hasHyphen := true }
  | '|' => some { row.close with hasPipe := true }
  | _ => none

end DelimiterRow

/-- The alignments of the row under a table's header, and the row's length with the line end. -/
def delimiterRow? (cs : List Char) : Option (List Alignment × Nat) := do
  let indent := countWhile (fun c => c == ' ' || c == '\t') cs
  let line := (cs.drop indent).takeWhile fun c => c != '\n' && c != '\r'
  let ending ← lineEnd? (cs.drop (indent + line.length))
  let tabless := !(cs.take indent).contains '\t'
  if indent ≤ 3 ∧ tabless ∧ !line.isEmpty then
    let inner := if line.head? = some '|' then line.drop 1 else line
    let row ← inner.foldlM DelimiterRow.read? {}
    let row := if row.atStart then row else row.close
    if row.hasPipe ∧ row.sound ∧ !row.columns.isEmpty then
      some (row.columns.reverse, indent + line.length + ending)
    else none
  else none

/-- The number of pipes of a header row that no backslash stands before, and what follows the last of
them. -/
def pipes (cs : List Char) : Nat × List Char :=
  let rec go (escaped : Bool) (count : Nat) (last : List Char) : List Char → Nat × List Char
    | [] => (count, last)
    | c :: rest =>
      if c = '\n' ∨ c = '\r' then (count, last)
      else if c = '\\' then go true count last rest
      else if c = '|' ∧ !escaped then go false (count + 1) rest rest
      else go false count last rest
  go false 0 cs cs

/-- The number of cells of a header row: one more than there are pipes between cells. -/
def headerWidth (count : Nat) (afterLast row : List Char) : Nat :=
  let inner := if (row.drop (countWhile isGap row)).head? = some '|' then count - 1 else count
  if (blankRest? afterLast).isSome then inner else inner + 1

/-- Whether a table that may interrupt a paragraph begins here: its header begins with a pipe, and the
line below has as many columns. -/
def interruptingTable (containers : List Container) (cs : List Char) : Bool :=
  match cs with
  | '|' :: _ =>
    let line := cs.takeWhile fun c => c != '\n' && c != '\r'
    match cs.drop line.length with
    | [] => false
    | ending =>
      let below := ending.drop ((lineEnd? ending).getD 0)
      match Container.marginInside? containers below with
      | none => false
      | some m =>
        match delimiterRow? m.rest with
        | none => false
        | some (alignments, _) =>
          let (count, afterLast) := pipes cs
          alignments.length == headerWidth count afterLast cs
  | _ => false

end MarkdownHtml.Markdown
