import MarkdownHtml.Event.Basic
import MarkdownHtml.Text.Blank

/-!
# Open elements

What a builder knows about an element that has been opened and not yet closed: the end tag that
closes it and what has been gathered for it. Gathered nodes, items, cells and rows are kept newest
first and put in order when the element is closed.
-/

namespace MarkdownHtml

/-- What an element with children turns into when it is closed. -/
inductive ElementKind where
  | paragraph
  | heading (level : UInt8)
  | blockQuote
  | item
  | cell
  | emphasis (strong : Bool)
  | strikethrough
  | link (destination : String) (title : Option String)
  | autoLink (destination : String)
  | image (source : String) (title : Option String)

/-- What has been gathered for an open element; lists hold the newest entry first. -/
inductive Content where
  | element (kind : ElementKind) (children : List Node)
  | codeBlock (info : Option String) (code : String)
  | htmlBlock (code : String)
  | list (firstNumber : Option UInt64) (items : List (List Node))
  /-- A table; its header is in order, its rows are newest first. -/
  | table (alignments : List Alignment) (header : List (List Node))
      (rows : List (List (List Node)))
  | row (cells : List (List Node))
  /-- An element without a node of its own; its children move to the enclosing element. -/
  | transparent (children : List Node)
  /-- An element that vanishes with all it holds. -/
  | discard

/-- An open element. -/
structure Frame where
  /-- The end tag that closes it. -/
  closing : EndTag
  content : Content

/-- The content that a start tag opens with. A blank info string or title counts as absent, and a
mail address becomes a destination by its scheme. -/
def Content.ofTag : Tag → Content
  | .paragraph => .element .paragraph []
  | .heading level => .element (.heading level.number) []
  | .blockQuote _ => .element .blockQuote []
  | .codeBlock .indented => .codeBlock none ""
  | .codeBlock (.fenced info) => .codeBlock (Text.nonBlank? info) ""
  | .htmlBlock => .htmlBlock ""
  | .list firstNumber => .list firstNumber []
  | .item => .element .item []
  | .table alignments => .table alignments [] []
  | .tableHead | .tableRow => .row []
  | .tableCell => .element .cell []
  | .emphasis => .element (.emphasis false) []
  | .strong => .element (.emphasis true) []
  | .strikethrough => .element .strikethrough []
  | .link .autolink destination _ => .element (.autoLink destination) []
  | .link .email destination _ => .element (.autoLink ("mailto:" ++ destination)) []
  | .link .bracketed destination title =>
    .element (.link destination (Text.nonBlank? title)) []
  | .image source title => .element (.image source (Text.nonBlank? title)) []
  | .metadataBlock _ => .discard
  | .footnoteDefinition | .definitionList | .definitionListTitle | .definitionListDefinition
  | .superscript | .subscript => .transparent []

/-- The frame that a start tag opens. -/
def Frame.ofTag (tag : Tag) : Frame := ⟨tag.toEnd, .ofTag tag⟩

/-- Wraps each maximal run of inline nodes in a paragraph and keeps the other nodes. `run` holds the
inline nodes met since the last other node, newest first. -/
def wrapRunsFrom (run : List Node) : List Node → List Node
  | [] => if run.isEmpty then [] else [.paragraph run.reverse]
  | node :: rest =>
    if node.isInline then wrapRunsFrom (node :: run) rest
    else if run.isEmpty then node :: wrapRunsFrom [] rest
    else .paragraph run.reverse :: node :: wrapRunsFrom [] rest

/-- Wraps each maximal run of inline nodes in a paragraph and keeps the other nodes. -/
def wrapInlineRuns (nodes : List Node) : List Node := wrapRunsFrom [] nodes

end MarkdownHtml
