import MarkdownHtml.Document.Equality

/-!
# Equal nodes, one level at a time

What equality of two nodes comes to for their parts. Nodes that are equal match (`Node.Matches`):
they say the same about themselves, and the rows right inside of them are equal in turn. Statements
about equal trees go by induction on the tree with a case for each way to match. A node is equal to
itself (`Node.same_self`).
-/

namespace MarkdownHtml

/-- Two nodes match if they are the same node, or widgets with one handle, or of one kind, alike but
for the rows inside of them, and these rows are equal. -/
inductive Node.Matches : Node → Node → Prop where
  | self (node : Node) : Matches node node
  | paragraph {children others} (h : sameAll children others = true) :
      Matches (.paragraph children) (.paragraph others)
  | blockQuote {children others} (h : sameAll children others = true) :
      Matches (.blockQuote children) (.blockQuote others)
  | heading {level children others} (h : sameAll children others = true) :
      Matches (.heading level children) (.heading level others)
  | list {firstNumber items others} (h : sameCells items others = true) :
      Matches (.list firstNumber items) (.list firstNumber others)
  | listItem {children others} (h : sameAll children others = true) :
      Matches (.listItem children) (.listItem others)
  | table {alignments header otherHeader rows otherRows}
      (hheader : sameCells header otherHeader = true) (hrows : sameRows rows otherRows = true) :
      Matches (.table alignments header rows) (.table alignments otherHeader otherRows)
  | emphasis {strong children others} (h : sameAll children others = true) :
      Matches (.emphasis strong children) (.emphasis strong others)
  | strikethrough {children others} (h : sameAll children others = true) :
      Matches (.strikethrough children) (.strikethrough others)
  | link {destination title children others} (h : sameAll children others = true) :
      Matches (.link destination title children) (.link destination title others)
  | image {source title description others} (h : sameAll description others = true) :
      Matches (.image source title description) (.image source title others)
  | widget (handle : Nat) (w w' : Widget) : Matches (.widget handle w) (.widget handle w')

theorem Node.matches_of_same {a b : Node} (h : a.same b = true) : a.Matches b := by
  unfold Node.same at h
  -- a case for each pair that may be equal, and one for all the pairs that are not
  split at h <;> grind [Node.Matches]

mutual

theorem Node.same_self (node : Node) : node.same node = true := by
  cases node with
  | blankLine | thematicBreak | hardBreak | softBreak | text _ | rawHtml _ | codeSpan _
  | htmlBlock _ | codeBlock _ _ | linkReferenceDefinition _ _ _ | autoLink _ _ | widget _ _ =>
    simp [Node.same]
  | paragraph children | blockQuote children | strikethrough children | listItem children
  | heading _ children | emphasis _ children | link _ _ children | image _ _ children =>
    simp [Node.same, sameAll_self children]
  | list _ items => simp [Node.same, sameCells_self items]
  | table _ header rows => simp [Node.same, sameCells_self header, sameRows_self rows]

theorem sameAll_self (nodes : List Node) : sameAll nodes nodes = true := by
  cases nodes with
  | nil => simp [sameAll]
  | cons node rest => simp [sameAll, node.same_self, sameAll_self rest]

theorem sameCells_self (cells : List (List Node)) : sameCells cells cells = true := by
  cases cells with
  | nil => simp [sameCells]
  | cons cell rest => simp [sameCells, sameAll_self cell, sameCells_self rest]

theorem sameRows_self (rows : List (List (List Node))) : sameRows rows rows = true := by
  cases rows with
  | nil => simp [sameRows]
  | cons row rest => simp [sameRows, sameCells_self row, sameRows_self rest]

end

end MarkdownHtml
