import MarkdownHtml.Markdown.Emphasis
import MarkdownHtml.Markdown.Structure

/-!
# Reading Markdown

`Reading.ofSource` reads a text into events and link reference definitions: first its block
structure, then, since a label may be defined after it is used, the inline text of all blocks.
-/

namespace MarkdownHtml.Markdown

/-- The byte offsets of the characters of a text and of its end. -/
def byteOffsets (cs : List Char) : Array Nat :=
  (cs.foldl (fun (offsets, offset) c =>
    let next := offset + c.utf8Size
    (offsets.push next, next)) (#[0], 0)).1

/-- A source whose block structure is known. -/
structure BlockSource where
  source : Array Char
  offsets : Array Nat
  /-- What labels stand for, by their case foldings. -/
  targets : List (String × LinkTarget)

namespace BlockSource

/-- The byte range of a range of characters. -/
def span (d : BlockSource) (start stop : Nat) : Span :=
  ⟨d.offsets.getD start 0, d.offsets.getD stop 0⟩

/-- What a label stands for. -/
def target? (d : BlockSource) (label : String) : Option LinkTarget :=
  d.targets.lookup (Text.caseFold label)

/-- The events of the inline text of a block that ends at an offset. -/
def inlineEvents (d : BlockSource) (containers : List Container) (inTable : Bool) (span : Span)
    (stop : Nat) (tokens : List Token) : List EventTree :=
  InlineBlock.events ⟨d.source, stop, containers, inTable, d.target?⟩ span tokens

/-- The events of a table cell. -/
def cellEvents (d : BlockSource) (containers : List Container) (span : Span) (cell : Cell) :
    EventTree :=
  .element .tableCell span (d.inlineEvents containers true span cell.stop cell.tokens) span

/-- The events of a table row. -/
def rowEvents (d : BlockSource) (containers : List Container) (span : Span) (tag : Tag)
    (row : List Cell) : EventTree :=
  .element tag span (row.map (d.cellEvents containers span)) span

/-- The events of the rows of a table, the first of which is its header. -/
def tableEvents (d : BlockSource) (containers : List Container) (span : Span) :
    List (List Cell) → List EventTree
  | [] => []
  | header :: rows =>
    d.rowEvents containers span .tableHead header ::
      rows.map (d.rowEvents containers span .tableRow)

mutual

/-- The events of a block inside containers, which are given innermost first. -/
def blockEvents (d : BlockSource) (containers : List Container) : Block → EventTree
  | .paragraph start stop tokens =>
    let span := d.span start stop
    .element .paragraph span (d.inlineEvents containers.reverse false span stop tokens) span
  | .heading start stop level tokens =>
    let span := d.span start stop
    .element (.heading level) span (d.inlineEvents containers.reverse false span stop tokens) span
  | .rule start stop => .leaf .rule (d.span start stop)
  | .code start stop kind lines =>
    let span := d.span start stop
    .element (.codeBlock kind) span (lines.map fun line => .leaf (.text line) span) span
  | .html start stop lines =>
    let span := d.span start stop
    .element .htmlBlock span (lines.map fun line => .leaf (.html line) span) span
  | .table start stop alignments rows =>
    let span := d.span start stop
    .element (.table alignments) span (d.tableEvents containers.reverse span rows) span
  | .quote start stop children =>
    let span := d.span start stop
    .element (.blockQuote none) span (d.blocksEvents (.quote :: containers) children) span
  | .list start stop marker items =>
    let span := d.span start stop
    let firstNumber := if marker.isOrdered then some (UInt64.ofNat marker.number) else none
    .element (.list firstNumber) span (d.blocksEvents containers items) span
  | .item start stop indent children =>
    let span := d.span start stop
    .element .item span (d.blocksEvents (.item indent :: containers) children) span

/-- The events of blocks in a row. -/
def blocksEvents (d : BlockSource) (containers : List Container) : List Block → List EventTree
  | [] => []
  | block :: rest => d.blockEvents containers block :: d.blocksEvents containers rest

end

end BlockSource

/-- What a reader finds in a text. -/
structure Reading where
  events : List EventTree
  /-- The definitions in the order of the text, the first of each label. -/
  definitions : List Definition

/-- The definitions whose label, in any case, none of the earlier ones has. -/
def firstDefinitions (seen : List String) : List Definition → List Definition
  | [] => []
  | d :: rest =>
    let label := Text.caseFold d.label
    if seen.contains label then firstDefinitions seen rest
    else d :: firstDefinitions (label :: seen) rest

/-- Reads a text. -/
def Reading.ofSource (options : MarkdownOptions) (text : String) : Reading :=
  let cs := text.toList
  let nesting := Nesting.ofSource options cs
  let offsets := byteOffsets cs
  let definitions := firstDefinitions [] nesting.definitions.reverse
  let targets := definitions.map fun d =>
    (Text.caseFold d.label, ⟨d.destination, d.title.getD ""⟩)
  let source : BlockSource := ⟨cs.toArray, offsets, targets⟩
  ⟨source.blocksEvents [] nesting.blocks.reverse,
    definitions.map fun d => { d with start := offsets.getD d.start 0 }⟩

end MarkdownHtml.Markdown
