import MarkdownHtml.Document.Node

/-!
# Equality of nodes

Trees are compared part by part, widgets by their handles alone: two widgets made separately differ
even when they hold the same content.
-/

namespace MarkdownHtml

mutual

/-- Equality of nodes, which looks at a widget's handle and not inside the widget. -/
def Node.same : Node → Node → Bool
  | .blankLine, .blankLine => true
  | .paragraph a, .paragraph b => sameAll a b
  | .blockQuote a, .blockQuote b => sameAll a b
  | .codeBlock i a, .codeBlock j b => i == j && a == b
  | .heading l a, .heading m b => l == m && sameAll a b
  | .htmlBlock a, .htmlBlock b => a == b
  | .linkReferenceDefinition l d t, .linkReferenceDefinition m e u => l == m && d == e && t == u
  | .list f a, .list g b => f == g && sameCells a b
  | .listItem a, .listItem b => sameAll a b
  | .thematicBreak, .thematicBreak => true
  | .table al h r, .table bl k s => al == bl && sameCells h k && sameRows r s
  | .text a, .text b => a == b
  | .emphasis s a, .emphasis t b => s == t && sameAll a b
  | .codeSpan a, .codeSpan b => a == b
  | .hardBreak, .hardBreak => true
  | .softBreak, .softBreak => true
  | .strikethrough a, .strikethrough b => sameAll a b
  | .rawHtml a, .rawHtml b => a == b
  | .autoLink d a, .autoLink e b => d == e && a == b
  | .link d t a, .link e u b => d == e && t == u && sameAll a b
  | .image d t a, .image e u b => d == e && t == u && sameAll a b
  | .widget a _, .widget b _ => a == b
  | _, _ => false

/-- Equality of rows of nodes. -/
def sameAll : List Node → List Node → Bool
  | [], [] => true
  | a :: as, b :: bs => a.same b && sameAll as bs
  | _, _ => false

/-- Equality of rows of items, or of cells. -/
def sameCells : List (List Node) → List (List Node) → Bool
  | [], [] => true
  | a :: as, b :: bs => sameAll a b && sameCells as bs
  | _, _ => false

/-- Equality of rows of table rows. -/
def sameRows : List (List (List Node)) → List (List (List Node)) → Bool
  | [], [] => true
  | a :: as, b :: bs => sameCells a b && sameRows as bs
  | _, _ => false

end

instance : BEq Node := ⟨Node.same⟩

end MarkdownHtml
