import MarkdownHtml.Builder.Frame
import MarkdownHtml.Text.Cut

/-!
# Building a document from events

A `Builder` takes the events of a stream one at a time and nests them into nodes. On the way

* adjacent texts become one,
* the inline nodes of a list item are wrapped in paragraphs, so that tight and loose items look the
  same,
* blank lines between top-level blocks become nodes of their own, and
* link reference definitions are put at their place among the top-level blocks.

An end event that does not close the innermost open element is an error. The builder that it leaves
behind takes further events: the element that was open is gone if there was one.
-/

namespace MarkdownHtml

/-- Why events do not make a document. -/
inductive BuildError where
  /-- An end event while no element is open. -/
  | unexpectedEnd (tag : EndTag) (offset : Nat)
  /-- An end event that does not close the innermost open element. -/
  | mismatchedEnd (expected found : EndTag) (offset : Nat)
  /-- Elements are open at the end. -/
  | unclosed (count : Nat)
deriving DecidableEq, Repr

/-- The message of a build error. -/
def BuildError.message : BuildError → String
  | unexpectedEnd tag offset => "Unexpected end of " ++ tag.name ++ " at byte " ++ toString offset
  | mismatchedEnd expected found offset =>
    "Mismatched end of " ++ found.name ++ " at byte " ++ toString offset ++ ", expected end of " ++
      expected.name
  | unclosed count => toString count ++ " element(s) left open at end of input"

/-- A link reference definition and the byte offset at which it starts. -/
structure Definition where
  start : Nat
  label : String
  destination : String
  title : Option String
deriving DecidableEq, Repr

/-- The node of a definition. -/
def Definition.node (d : Definition) : Node :=
  .linkReferenceDefinition d.label d.destination d.title

/-- A document under construction. -/
structure Builder where
  /-- The text that the events come from. -/
  source : String
  /-- The open elements, innermost first. -/
  stack : List Frame
  /-- The finished top-level nodes, newest first. -/
  nodes : List Node
  /-- The definitions that have not been placed yet, in order. -/
  definitions : List Definition
  /-- Where the last finished top-level block ends. -/
  lastEnd : Nat

namespace Builder

/-- A builder for events of a source, with the definitions that it shall place. -/
def start (source : String) (definitions : List Definition) : Builder :=
  ⟨source, [], [], definitions, 0⟩

/-- A builder for events of a source without definitions. -/
def new (source : String) : Builder := start source []

/-- Places what comes before a top-level block that starts at an offset: the definitions that start
earlier, then the blank lines since the last block. -/
def beginBlock (b : Builder) (offset : Nat) : Builder :=
  let placed := b.definitions.takeWhile (·.start < offset)
  let blanks := Text.blankLinesBetween b.source b.lastEnd offset
  { b with
    definitions := b.definitions.dropWhile (·.start < offset)
    nodes := List.replicate blanks .blankLine ++ ((placed.map Definition.node).reverse ++ b.nodes) }

/-- Puts a node among the children of the innermost open element, or at the top level. An element
without children of its own drops it. -/
def pushNode (b : Builder) (node : Node) : Builder :=
  match b.stack with
  | [] => { b with nodes := node :: b.nodes }
  | ⟨closing, .element kind children⟩ :: rest =>
    { b with stack := ⟨closing, .element kind (node :: children)⟩ :: rest }
  | ⟨closing, .transparent children⟩ :: rest =>
    { b with stack := ⟨closing, .transparent (node :: children)⟩ :: rest }
  | _ => b

/-- Puts nodes in a row. -/
def pushNodes (b : Builder) (nodes : List Node) : Builder := nodes.foldl pushNode b

/-- Adds a text to children, newest first: it extends a text that stands last. -/
def addText (text : String) : List Node → List Node
  | .text last :: rest => .text (last ++ text) :: rest
  | children => .text text :: children

/-- Takes a text: code of an open code or HTML block, else text among the children. -/
def pushText (b : Builder) (text : String) : Builder :=
  match b.stack with
  | [] => { b with nodes := addText text b.nodes }
  | ⟨closing, .element kind children⟩ :: rest =>
    { b with stack := ⟨closing, .element kind (addText text children)⟩ :: rest }
  | ⟨closing, .transparent children⟩ :: rest =>
    { b with stack := ⟨closing, .transparent (addText text children)⟩ :: rest }
  | ⟨closing, .codeBlock info code⟩ :: rest =>
    { b with stack := ⟨closing, .codeBlock info (code ++ text)⟩ :: rest }
  | ⟨closing, .htmlBlock code⟩ :: rest =>
    { b with stack := ⟨closing, .htmlBlock (code ++ text)⟩ :: rest }
  | _ => b

/-- Takes a line of HTML: code of an open HTML block, else a block of its own. -/
def pushHtml (b : Builder) (html : String) : Builder :=
  match b.stack with
  | ⟨closing, .htmlBlock code⟩ :: rest =>
    { b with stack := ⟨closing, .htmlBlock (code ++ html)⟩ :: rest }
  | _ => b.pushNode (.htmlBlock html)

/-- Takes a leaf event. Math, footnote references and task markers are dropped. -/
def pushLeaf (b : Builder) : Leaf → Builder
  | .text text => b.pushText text
  | .code code => b.pushNode (.codeSpan code)
  | .html html => b.pushHtml html
  | .inlineHtml html => b.pushNode (.rawHtml html)
  | .softBreak => b.pushNode .softBreak
  | .hardBreak => b.pushNode .hardBreak
  | .rule => b.pushNode .thematicBreak
  | .inlineMath _ | .displayMath _ | .footnoteReference _ | .taskMarker _ => b

/-- Puts a finished item into the list around it; outside of a list it is a node. -/
def closeItem (b : Builder) (children : List Node) : Builder :=
  let item := wrapInlineRuns children
  match b.stack with
  | ⟨closing, .list firstNumber items⟩ :: rest =>
    { b with stack := ⟨closing, .list firstNumber (item :: items)⟩ :: rest }
  | _ => b.pushNode (.listItem item)

/-- Puts a finished cell into the row around it; outside of a row its children stand alone. -/
def closeCell (b : Builder) (children : List Node) : Builder :=
  match b.stack with
  | ⟨closing, .row cells⟩ :: rest =>
    { b with stack := ⟨closing, .row (children :: cells)⟩ :: rest }
  | _ => b.pushNodes children

/-- Puts a finished row into the table around it, a head in place of the header. Outside of a table
a row is dropped. -/
def closeRow (b : Builder) (isHead : Bool) (cells : List (List Node)) : Builder :=
  match b.stack with
  | ⟨closing, .table alignments header rows⟩ :: rest =>
    let content :=
      if isHead then .table alignments cells rows else .table alignments header (cells :: rows)
    { b with stack := ⟨closing, content⟩ :: rest }
  | _ => b

/-- Puts a finished element with its children, in order, where it belongs. -/
def closeElement (b : Builder) (children : List Node) : ElementKind → Builder
  | .item => b.closeItem children
  | .cell => b.closeCell children
  | .paragraph => b.pushNode (.paragraph children)
  | .heading level => b.pushNode (.heading level children)
  | .blockQuote => b.pushNode (.blockQuote children)
  | .emphasis strong => b.pushNode (.emphasis strong children)
  | .strikethrough => b.pushNode (.strikethrough children)
  | .link destination title => b.pushNode (.link destination title children)
  | .autoLink destination => b.pushNode (.autoLink destination (plainTextAll children))
  | .image source title => b.pushNode (.image source title children)

/-- Puts the content of a closed element where it belongs. -/
def close (b : Builder) (tag : EndTag) : Content → Builder
  | .element kind children => b.closeElement children.reverse kind
  | .codeBlock info code => b.pushNode (.codeBlock info code)
  | .htmlBlock code => b.pushNode (.htmlBlock code)
  | .list firstNumber items => b.pushNode (.list firstNumber items.reverse)
  | .table alignments header rows => b.pushNode (.table alignments header rows.reverse)
  | .row cells => b.closeRow (tag = .tableHead) cells.reverse
  | .transparent children => b.pushNodes children.reverse
  | .discard => b

/-- Notes where a top-level block ends: with the event after which no element is open. -/
def noteEnd (b : Builder) (offset : Nat) : Builder :=
  if b.stack.isEmpty then { b with lastEnd := offset } else b

/-- Prepares for an event that opens or adds something: at the top level it begins a block. -/
def prepare (b : Builder) (offset : Nat) : Builder :=
  if b.stack.isEmpty then b.beginBlock offset else b

/-- Takes one event. The error, if the event is an end event that closes nothing, comes with the
builder that it leaves behind. -/
def push (b : Builder) (event : Event) (span : Span) : Builder × Option BuildError :=
  match event with
  | .start tag =>
    let b := b.prepare span.start
    ({ b with stack := Frame.ofTag tag :: b.stack }.noteEnd span.stop, none)
  | .leaf leaf => (((b.prepare span.start).pushLeaf leaf).noteEnd span.stop, none)
  | .stop tag =>
    match b.stack with
    | [] => (b, some (.unexpectedEnd tag span.start))
    | ⟨closing, content⟩ :: rest =>
      let outer := { b with stack := rest }
      if closing = tag then ((outer.close tag content).noteEnd span.stop, none)
      else (outer, some (.mismatchedEnd closing tag span.start))

/-- Finishes the document: what comes after the last block is placed before the source's end. -/
def finish (b : Builder) : Except BuildError Document :=
  if b.stack.isEmpty then
    .ok ⟨(b.beginBlock b.source.utf8ByteSize).nodes.reverse⟩
  else .error (.unclosed b.stack.length)

/-- Takes events up to the first that fails. -/
def pushAll (b : Builder) : List (Event × Span) → Except BuildError Builder
  | [] => .ok b
  | (event, span) :: rest =>
    match b.push event span with
    | (next, none) => next.pushAll rest
    | (_, some error) => .error error

end Builder

/-- The document of a stream of events, with the definitions placed in the order in which they
start. -/
def Document.ofEvents (source : String) (definitions : List Definition)
    (events : List (Event × Span)) : Except BuildError Document := do
  let sorted := definitions.mergeSort fun a b => a.start ≤ b.start
  ((← (Builder.start source sorted).pushAll events)).finish

end MarkdownHtml
