import MarkdownHtml.Document.Node

/-!
# The nodes inside a tree

`withinAll` lists the nodes of some trees in the order of the document, at every depth, so that what
holds everywhere in a document is said of the members of one list.
-/

namespace MarkdownHtml

mutual

/-- The nodes strictly inside a node, at every depth, in the order of the document. -/
def Node.inside : Node → List Node
  | .paragraph children | .blockQuote children | .heading _ children | .listItem children
  | .emphasis _ children | .strikethrough children | .link _ _ children
  | .image _ _ children => withinAll children
  | .list _ items => withinEach items
  | .table _ header rows => withinEach header ++ withinRows rows
  | .widget _ w => w.inside
  | .blankLine | .codeBlock _ _ | .htmlBlock _ | .linkReferenceDefinition _ _ _ | .thematicBreak
  | .text _ | .codeSpan _ | .hardBreak | .softBreak | .rawHtml _ | .autoLink _ _ => []

/-- The nodes inside a widget. -/
def Widget.inside : Widget → List Node
  | .callout _ children | .rescope _ children => withinAll children
  | .marker | .badge _ _ | .dump => []

/-- The nodes of trees in a row, each with the nodes inside it. -/
def withinAll : List Node → List Node
  | [] => []
  | node :: rest => node :: (node.inside ++ withinAll rest)

/-- The nodes of list items or of cells in a row. -/
def withinEach : List (List Node) → List Node
  | [] => []
  | nodes :: rest => withinAll nodes ++ withinEach rest

/-- The nodes of table rows. -/
def withinRows : List (List (List Node)) → List Node
  | [] => []
  | row :: rest => withinEach row ++ withinRows rest

end

@[simp] theorem withinAll_nil : withinAll [] = [] := rfl

theorem mem_withinAll_iff {inner : Node} {nodes : List Node} :
    inner ∈ withinAll nodes ↔ ∃ node ∈ nodes, inner = node ∨ inner ∈ node.inside := by
  induction nodes with
  | nil => simp
  | cons node rest ih => simp [withinAll, ih, or_assoc]

end MarkdownHtml
