import MarkdownHtml.Markdown.Block

/-!
# Block structure

A source is read line by line into blocks. A `Nesting` holds the quotes, lists and items that are
open, innermost first. Each line first shows which of them it belongs to, then opens new ones, and
what is left of it begins a leaf block or is blank.
-/

namespace MarkdownHtml.Markdown

/-- What kind of container is open. -/
inductive OpenKind where
  | quote
  | list (marker : ListMarker)
  | item (indent : Nat)
deriving DecidableEq, Repr

/-- An open container, with the blocks in it, newest first. -/
structure OpenBlock where
  kind : OpenKind
  start : Nat
  children : List Block

/-- What a line must show to belong to an open container; a list asks for nothing. -/
def OpenBlock.container? (b : OpenBlock) : Option Container :=
  match b.kind with
  | .quote => some .quote
  | .list _ => none
  | .item indent => some (.item indent)

/-- The block that an open container becomes. -/
def OpenBlock.close (b : OpenBlock) (stop : Nat) : Block :=
  let children := b.children.reverse
  match b.kind with
  | .quote => .quote b.start stop children
  | .list marker => .list b.start stop marker children
  | .item indent => .item b.start stop indent children

/-- The part of a source that has been read into blocks. -/
structure Nesting where
  options : MarkdownOptions
  /-- The open containers, innermost first. -/
  stack : List OpenBlock
  /-- The finished top-level blocks, newest first. -/
  blocks : List Block
  /-- The definitions, newest first. -/
  definitions : List Definition
  /-- Where the innermost item's first line ends, if that is blank and nothing has followed it. -/
  emptyItem : Option Nat
  /-- Whether the last line was blank. -/
  afterBlank : Bool

namespace Nesting

/-- Nothing read yet. -/
def empty (options : MarkdownOptions) : Nesting := ⟨options, [], [], [], none, false⟩

/-- The surroundings of what comes next. -/
def surroundings (n : Nesting) : Surroundings :=
  ⟨n.options, n.stack.reverse.filterMap OpenBlock.container?⟩

/-- Adds a block to the innermost open container. -/
def add (n : Nesting) (block : Block) : Nesting :=
  match n.stack with
  | [] => { n with blocks := block :: n.blocks }
  | top :: rest => { n with stack := { top with children := block :: top.children } :: rest }

/-- Opens a container. -/
def enter (n : Nesting) (kind : OpenKind) (start : Nat) : Nesting :=
  { n with stack := ⟨kind, start, []⟩ :: n.stack }

/-- Closes the innermost open container. -/
def leave (n : Nesting) (stop : Nat) : Nesting :=
  match n.stack with
  | [] => n
  | top :: rest =>
    let emptyItem := match top.kind with
      | .list _ => none
      | _ => n.emptyItem
    { n with stack := rest, emptyItem }.add (top.close stop)

/-- Closes the innermost containers up to a number of quotes and items. -/
def leaveContainers (n : Nesting) (stop : Nat) : List OpenBlock → Nat → Nesting
  | top :: rest, count + 1 =>
    (n.leave stop).leaveContainers stop rest (if top.container?.isSome then count else count + 1)
  | _, _ => n

/-- Closes everything. -/
def leaveAll (n : Nesting) (stop : Nat) : Nesting := n.stack.foldl (fun n _ => n.leave stop) n

/-- Closes an item that began with two blank lines: it stays empty. -/
def endEmptyItem (n : Nesting) : Nesting :=
  let n := match n.emptyItem, n.stack with
    | some stop, ⟨.item _, _, _⟩ :: _ => if n.afterBlank then n.leave stop else n
    | _, _ => n
  { n with emptyItem := none }

/-- Closes a list between whose items something else begins. -/
def endList (n : Nesting) (stop : Nat) : Nesting :=
  let n := n.endEmptyItem
  let n := match n.stack with
    | ⟨.list _, _, _⟩ :: _ => n.leave stop
    | _ => n
  { n with afterBlank := false }

/-- Goes on with the list around an item that begins, or opens one if none with the same mark is
open. -/
def continueList (n : Nesting) (start : Nat) (marker : ListMarker) : Nesting :=
  let n := n.endEmptyItem
  match n.stack with
  | ⟨.list open_, _, _⟩ :: _ =>
    if open_.mark = marker.mark then { n with afterBlank := false }
    else (n.endList start).enter (.list marker) start
  | _ => { n with afterBlank := false }.enter (.list marker) start

/-- Notes a blank line. In an item whose first line is blank too, nothing can be nested any more. -/
def noteBlank (n : Nesting) : Nesting :=
  match n.stack with
  | ⟨.quote, _, _⟩ :: _ => n
  | ⟨.item indent, start, children⟩ :: rest =>
    let indent := if n.emptyItem.isSome then 0 else indent
    { n with afterBlank := true, stack := ⟨.item indent, start, children⟩ :: rest }
  | _ => { n with afterBlank := true }

/-- Opens the containers that begin at a margin of the line at a place. Gives the margin after them,
or the place after the line if it holds no more than a list marker. -/
def openContainers (line : Cursor) : Nat → Nesting → Margin → Nesting × (Margin ⊕ Cursor)
  | 0, n, m => (n, .inl m)
  | fuel + 1, n, m =>
    let (lacking, inner) := m.take 4
    if lacking = 0 then (n, .inl m)
    else
      let start := line.offset + inner.taken
      match listItem? inner (4 - lacking) with
      | some (marker, indent, after) =>
        let n := (n.continueList start marker).enter (.item indent) start
        match blankRest? after.rest with
        | some length =>
          let next := (line.reach after).skip length
          ({ n with emptyItem := some next.offset }, .inr next)
        | none => openContainers line fuel n after
      | none =>
        match inner.quoteMark? with
        | some after =>
          openContainers line fuel ((n.endList line.offset).enter .quote start) after
        | none => (n, .inl m)

/-- Reads definitions and then a paragraph, if something is left for one. What follows a definition
goes on with it like the lines of a paragraph. -/
def definitionsAndParagraph : Nat → Nesting → Cursor → Nesting × Cursor
  | 0, n, c => (n, c)
  | fuel + 1, n, c =>
    let s := n.surroundings
    match definition? s c.offset c.rest with
    | none =>
      let (block, next) := paragraph s c
      (n.add block, next)
    | some (definition, rest) =>
      let n := { n with definitions := definition :: n.definitions }
      let after := c.skip (c.rest.length - rest.length)
      let next := after.skip ((blankRest? after.rest).getD 0)
      let (inContainers, m) := s.enter next.rest
      let (lacking, inner) := m.take 4
      let text := inner.skipBlanks
      if text.atLineEnd ∨ (lacking ≠ 0 ∧ s.interrupts inContainers inner.rest) then (n, next)
      else definitionsAndParagraph fuel n (next.reach text)

/-- Reads the leaf block that begins at a margin of the line at a place. -/
def readLeaf (n : Nesting) (line : Cursor) (m : Margin) : Nesting × Cursor :=
  let n := n.endList line.offset
  let s := n.surroundings
  let (lacking, inner) := m.take 4
  let c := line.reach inner
  let leaf (read : Block × Cursor) : Nesting × Cursor := (n.add read.1, read.2)
  if lacking = 0 then leaf (indentedCode s c inner.spare)
  else
    let indent := 4 - lacking
    let html : Option (Option String) := match c.rest with
      | '<' :: rest =>
        match RawHtml.blockEnd? rest with
        | some ending => some (some ending)
        | none => if RawHtml.startsBlock rest || RawHtml.isLoneTag rest then some none else none
      | _ => none
    match html with
    | some ending => leaf (htmlBlock s c ending (max m.spare indent))
    | none =>
      match thematicBreak? c.rest with
      | some length => leaf (.rule c.offset (c.offset + length), c.skip length)
      | none =>
        match headingMark? c.rest with
        | some level => leaf (markedHeading s c level)
        | none =>
          match fence? c.rest with
          | some (opening, mark) => leaf (fencedCode s c indent opening mark)
          | none => definitionsAndParagraph (c.rest.length + 1) n c

/-- Reads the block that begins with the line at a place. -/
def readBlock (n : Nesting) (line : Cursor) : Nesting × Cursor :=
  let (missing, m) := Container.enterAll (.start line.rest) n.surroundings.containers
  let n := n.leaveContainers line.offset n.stack missing
  match openContainers line (line.rest.length + 1) n m with
  | (n, .inr next) => (n, next)
  | (n, .inl m) =>
    match blankRest? m.rest with
    | some length => (n.noteBlank, (line.reach m).skip length)
    | none => n.readLeaf line m

/-- Reads all blocks from a place on. -/
def readAll : Nat → Nesting → Cursor → Nesting
  | 0, n, c => n.leaveAll c.offset
  | fuel + 1, n, c =>
    if c.rest.isEmpty then n.leaveAll c.offset
    else
      let (n, next) := n.readBlock c
      readAll fuel n next

/-- Reads a whole source into blocks and definitions. -/
def ofSource (options : MarkdownOptions) (cs : List Char) : Nesting :=
  readAll (cs.length + 1) (.empty options) ⟨0, cs⟩

end Nesting

end MarkdownHtml.Markdown
