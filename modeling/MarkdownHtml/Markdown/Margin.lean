import MarkdownHtml.Markdown.Scan

/-!
# Margins

The beginning of a line is made of columns. A tab reaches to the next multiple of four columns, and a
container may take only some of its columns, so a `Margin` remembers the columns that are left of a
tab. Each container that is open must find its mark at the beginning of a line for the line to
belong to it.
-/

namespace MarkdownHtml.Markdown

/-- A place at the beginning of a line. -/
structure Margin where
  /-- The characters from there on. -/
  rest : List Char
  /-- How many characters of the line come before. -/
  taken : Nat
  /-- How many characters have been taken since the last tab, or since the line's beginning. -/
  width : Nat
  /-- How many columns are left of the last tab. -/
  spare : Nat

/-- The very beginning of a line. -/
def Margin.start (line : List Char) : Margin := ⟨line, 0, 0, 0⟩

namespace Margin

/-- Takes columns from the characters at the beginning; says how many of them are missing. -/
def takeColumns : Nat → List Char → Nat → Nat → Nat × Margin
  | need + 1, ' ' :: rest, taken, width => takeColumns need rest (taken + 1) (width + 1)
  | need + 1, '\t' :: rest, taken, width =>
    let columns := 4 - width % 4
    if columns ≤ need then takeColumns (need + 1 - columns) rest (taken + 1) 0
    else (0, ⟨rest, taken + 1, 0, columns - (need + 1)⟩)
  | need, rest, taken, width => (need, ⟨rest, taken, width, 0⟩)

/-- Takes columns of blank space, as many as there are up to a number; says how many of them are
missing. -/
def take (m : Margin) (columns : Nat) : Nat × Margin :=
  if columns ≤ m.spare then (0, { m with spare := m.spare - columns })
  else takeColumns (columns - m.spare) m.rest m.taken m.width

/-- The margin after all blanks and tabs. -/
def skipBlanks (m : Margin) : Margin :=
  let n := countWhile (fun c => c == ' ' || c == '\t') m.rest
  ⟨m.rest.drop n, m.taken + n, m.width + n, 0⟩

/-- Whether the line ends here. -/
def atLineEnd (m : Margin) : Bool := (lineEnd? m.rest).isSome

/-- Takes a number of characters. -/
def skip (m : Margin) (n : Nat) : Margin := ⟨m.rest.drop n, m.taken + n, m.width + n, m.spare⟩

/-- Takes the mark of a quote, with one column of blank space after it. -/
def quoteMark? (m : Margin) : Option Margin :=
  match m.rest with
  | '>' :: _ => some ((m.skip 1).take 1).2
  | _ => none

end Margin

/-- What a line must show at its beginning to belong to an open container. -/
inductive Container where
  /-- A quote: the mark `>`. -/
  | quote
  /-- A list item: some columns of blank space, unless the line is blank. -/
  | item (indent : Nat)
deriving DecidableEq, Repr

namespace Container

/-- The margin inside a container, if the line belongs to it. -/
def enter? (m : Margin) : Container → Option Margin
  | quote => (m.take 3).2.quoteMark?
  | item indent =>
    let (missing, inside) := m.take indent
    if missing = 0 ∨ inside.atLineEnd then some inside else none

/-- Enters containers, outermost first, as far as the line belongs to them; says how many it does
not belong to. -/
def enterAll (m : Margin) : List Container → Nat × Margin
  | [] => (0, m)
  | container :: inner =>
    match container.enter? m with
    | some inside => enterAll inside inner
    | none => (inner.length + 1, m)

/-- Enters containers as far as possible at the beginning of a line. -/
def margin (containers : List Container) (line : List Char) : Margin :=
  (enterAll (.start line) containers).2

/-- The margin inside all containers, if the line belongs to all of them. -/
def marginInside? (containers : List Container) (line : List Char) : Option Margin :=
  match enterAll (.start line) containers with
  | (0, m) => some m
  | _ => none

end Container

end MarkdownHtml.Markdown
