import MarkdownHtml.Builder.Basic

/-!
# Reading nested events without a stack

A forest of events has a meaning of its own, given here by recursion on the trees. Each tree hands
one `Part` to whatever holds it: a text, a line of HTML, finished nodes, an item, a cell or a row.
An element takes the parts of its children and drops those that it has no place for:

* `Part.flow` is what an element with children, or the top level, makes of parts,
* `Part.code` and `Part.markup` are what code blocks and HTML blocks make of them,
* `Part.items`, `Part.cells`, `Part.header` and `Part.rows` are what lists, rows and tables make
  of them.

`Tag.part` says what an element hands on, `EventTree.part` reads a tree, and `Document.ofForest`
reads a whole forest, with the definitions and blank lines between its top-level trees.
-/

namespace MarkdownHtml

/-- What a tree of events hands to the element around it. -/
inductive Part where
  /-- Text, which joins a text that stands directly before it. -/
  | text (text : String)
  /-- A line of HTML. -/
  | html (html : String)
  /-- Finished nodes, in order. -/
  | nodes (nodes : List Node)
  /-- A list item with its blocks. -/
  | item (blocks : List Node)
  /-- A table cell with its contents. -/
  | cell (contents : List Node)
  /-- A row of cells, which is the head of its table or not. -/
  | row (isHead : Bool) (cells : List (List Node))

/-- Adds a text at the end of some nodes: it extends a text that stands last. -/
def appendText (text : String) : List Node → List Node
  | [] => [.text text]
  | [.text last] => [.text (last ++ text)]
  | node :: rest => node :: appendText text rest

namespace Part

/-- Adds a part at the end of nodes that stand in a row. The contents of a cell and finished nodes
are added as they are, and a row of cells has no place among nodes. -/
def appendTo (part : Part) (children : List Node) : List Node :=
  match part with
  | .text more => appendText more children
  | .html line => children ++ [.htmlBlock line]
  | .nodes more => children ++ more
  | .item blocks => children ++ [.listItem blocks]
  | .cell contents => children ++ contents
  | .row _ _ => children

/-- The contents of an element with children: its parts from left to right. -/
def flow (parts : List Part) : List Node := parts.foldl (fun children p => p.appendTo children) []

/-- What a code block keeps: its texts. -/
def code : List Part → String
  | [] => ""
  | .text more :: rest => more ++ code rest
  | _ :: rest => code rest

/-- What an HTML block keeps: its texts and its lines of HTML. -/
def markup : List Part → String
  | [] => ""
  | .text more :: rest => more ++ markup rest
  | .html line :: rest => line ++ markup rest
  | _ :: rest => markup rest

/-- What a list keeps: its items. -/
def items : List Part → List (List Node)
  | [] => []
  | .item blocks :: rest => blocks :: items rest
  | _ :: rest => items rest

/-- What a row keeps: its cells. -/
def cells : List Part → List (List Node)
  | [] => []
  | .cell contents :: rest => contents :: cells rest
  | _ :: rest => cells rest

/-- What a table keeps as its header: the last head that it holds, or `default` without any. -/
def header (default : List (List Node)) : List Part → List (List Node)
  | [] => default
  | .row true cells :: rest => header cells rest
  | _ :: rest => header default rest

/-- What a table keeps below its header: its other rows. -/
def rows : List Part → List (List (List Node))
  | [] => []
  | .row false cells :: rest => cells :: rows rest
  | _ :: rest => rows rest

end Part

/-- The part of a leaf. Math, footnote references and task markers come to nothing. -/
def Leaf.part : Leaf → Part
  | .text content => .text content
  | .code content => .nodes [.codeSpan content]
  | .html line => .html line
  | .inlineHtml content => .nodes [.rawHtml content]
  | .softBreak => .nodes [.softBreak]
  | .hardBreak => .nodes [.hardBreak]
  | .rule => .nodes [.thematicBreak]
  | .inlineMath _ | .displayMath _ | .footnoteReference _ | .taskMarker _ => .nodes []

/-- The rank of a heading among the six levels, from 1 for the topmost. -/
def HeadingLevel.rank (level : HeadingLevel) : Nat := [h1, h2, h3, h4, h5, h6].idxOf level + 1

theorem HeadingLevel.number_eq (level : HeadingLevel) : level.number = UInt8.ofNat level.rank := by
  cases level <;> rfl

/-- The part of an element with the parts of its children. A metadata block comes to nothing, and an
element without a node of its own to its contents. -/
def Tag.part (tag : Tag) (parts : List Part) : Part :=
  match tag with
  | .paragraph => .nodes [.paragraph (Part.flow parts)]
  | .heading level => .nodes [.heading (UInt8.ofNat level.rank) (Part.flow parts)]
  | .blockQuote _ => .nodes [.blockQuote (Part.flow parts)]
  | .codeBlock .indented => .nodes [.codeBlock none (Part.code parts)]
  | .codeBlock (.fenced info) => .nodes [.codeBlock (Text.nonBlank? info) (Part.code parts)]
  | .htmlBlock => .nodes [.htmlBlock (Part.markup parts)]
  | .list firstNumber => .nodes [.list firstNumber (Part.items parts)]
  | .item => .item (wrapInlineRuns (Part.flow parts))
  | .table alignments => .nodes [.table alignments (Part.header [] parts) (Part.rows parts)]
  | .tableHead => .row true (Part.cells parts)
  | .tableRow => .row false (Part.cells parts)
  | .tableCell => .cell (Part.flow parts)
  | .emphasis => .nodes [.emphasis false (Part.flow parts)]
  | .strong => .nodes [.emphasis true (Part.flow parts)]
  | .strikethrough => .nodes [.strikethrough (Part.flow parts)]
  | .link .autolink destination _ =>
    .nodes [.autoLink destination (plainTextAll (Part.flow parts))]
  | .link .email destination _ =>
    .nodes [.autoLink ("mailto:" ++ destination) (plainTextAll (Part.flow parts))]
  | .link .bracketed destination title =>
    .nodes [.link destination (Text.nonBlank? title) (Part.flow parts)]
  | .image source title => .nodes [.image source (Text.nonBlank? title) (Part.flow parts)]
  | .metadataBlock _ => .nodes []
  | .footnoteDefinition | .definitionList | .definitionListTitle | .definitionListDefinition
  | .superscript | .subscript => .nodes (Part.flow parts)

mutual

/-- The part of a tree of events. -/
def EventTree.part : EventTree → Part
  | .leaf leaf _ => leaf.part
  | .element tag _ children _ => tag.part (partsOf children)

/-- The parts of several trees in a row. -/
def partsOf : List EventTree → List Part
  | [] => []
  | tree :: rest => tree.part :: partsOf rest

end

theorem partsOf_eq_map (trees : List EventTree) : partsOf trees = trees.map EventTree.part := by
  induction trees with
  | nil => rfl
  | cons tree rest ih => rw [partsOf, List.map_cons, ih]

theorem partsOf_append (first second : List EventTree) :
    partsOf (first ++ second) = partsOf first ++ partsOf second := by
  rw [partsOf_eq_map, partsOf_eq_map, partsOf_eq_map, List.map_append]

namespace EventTree

/-- Where in the source a tree starts. -/
def start : EventTree → Nat
  | leaf _ span => span.start
  | element _ opening _ _ => opening.start

/-- Where in the source a tree ends. -/
def stop : EventTree → Nat
  | leaf _ span => span.stop
  | element _ _ _ closing => closing.stop

end EventTree

/-- What stands between a top-level tree that ends at `lastEnd` and what starts at `offset`: the
definitions that start earlier, then the blank lines. -/
def nodesBetween (source : String) (definitions : List Definition) (lastEnd offset : Nat) :
    List Node :=
  (definitions.takeWhile (·.start < offset)).map Definition.node ++
    List.replicate (Text.blankLinesBetween source lastEnd offset) .blankLine

/-- The parts of top-level trees, with what stands before each and after the last. -/
def topParts (source : String) : List Definition → Nat → List EventTree → List Part
  | definitions, lastEnd, [] =>
    [.nodes (nodesBetween source definitions lastEnd source.utf8ByteSize)]
  | definitions, lastEnd, tree :: rest =>
    .nodes (nodesBetween source definitions lastEnd tree.start) :: tree.part ::
      topParts source (definitions.dropWhile (·.start < tree.start)) tree.stop rest

/-- The document of a forest of events, read from left to right. -/
def Document.ofForest (source : String) (definitions : List Definition) (forest : List EventTree) :
    Document :=
  ⟨Part.flow (topParts source definitions 0 forest)⟩

end MarkdownHtml
