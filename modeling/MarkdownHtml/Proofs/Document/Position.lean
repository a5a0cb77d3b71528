import MarkdownHtml.Proofs.Document.Siblings

/-!
# Places in a tree

A `Position` is a document with a place left open, into which any node can be put
(`Position.fill`). It is given from the outside in: the open place stands in a row of top-level
nodes or, through a `Layer` for each node around it, in a row inside of these. The layers are the
built-in nodes; what stands beside the place may be anything. These are all places of nodes that have
only built-in nodes around them (`Node.holds_iff_exists_layers`, `Document.exists_holds_iff`).
-/

namespace MarkdownHtml

/-- A row of nodes with a place left open in it. -/
structure Gap where
  left : List Node
  right : List Node

/-- The row with a node at the open place. -/
def Gap.fill (gap : Gap) (node : Node) : List Node := gap.left ++ node :: gap.right

/-- Whether nothing stands beside the open place. -/
def Gap.isAlone (gap : Gap) : Bool := gap.left.isEmpty && gap.right.isEmpty

/-- A built-in node with a place left open in one of its rows. -/
inductive Layer where
  | paragraph (gap : Gap)
  | blockQuote (gap : Gap)
  | heading (level : UInt8) (gap : Gap)
  | listItem (gap : Gap)
  /-- The place is in one of the items of a list. -/
  | item (firstNumber : Option UInt64) (before : List (List Node)) (gap : Gap)
      (after : List (List Node))
  /-- The place is in one of the header cells of a table. -/
  | headerCell (alignments : List Alignment) (before : List (List Node)) (gap : Gap)
      (after : List (List Node)) (rows : List (List (List Node)))
  /-- The place is in a cell of one of the rows below the header. -/
  | bodyCell (alignments : List Alignment) (header : List (List Node))
      (above : List (List (List Node))) (before : List (List Node)) (gap : Gap)
      (after : List (List Node)) (below : List (List (List Node)))
  | emphasis (strong : Bool) (gap : Gap)
  | strikethrough (gap : Gap)
  | link (destination : String) (title : Option String) (gap : Gap)
  | image (source : String) (title : Option String) (gap : Gap)

namespace Layer

/-- The node with another one at the open place. -/
def fill : Layer → Node → Node
  | paragraph gap, node => .paragraph (gap.fill node)
  | blockQuote gap, node => .blockQuote (gap.fill node)
  | heading level gap, node => .heading level (gap.fill node)
  | listItem gap, node => .listItem (gap.fill node)
  | item firstNumber before gap after, node =>
    .list firstNumber (before ++ gap.fill node :: after)
  | headerCell alignments before gap after rows, node =>
    .table alignments (before ++ gap.fill node :: after) rows
  | bodyCell alignments header above before gap after below, node =>
    .table alignments header (above ++ (before ++ gap.fill node :: after) :: below)
  | emphasis strong gap, node => .emphasis strong (gap.fill node)
  | strikethrough gap, node => .strikethrough (gap.fill node)
  | link destination title gap, node => .link destination title (gap.fill node)
  | image source title gap, node => .image source title (gap.fill node)

/-- Whether the place is in the description of an image. -/
def isDescription : Layer → Bool
  | image _ _ _ => true
  | _ => false

/-- Whether the place is for the only child of a list item. -/
def isOnlyChild : Layer → Bool
  | listItem gap | item _ _ gap _ => gap.isAlone
  | _ => false

end Layer

/-- A document with a place left open, below built-in nodes only. -/
structure Position where
  /-- The top-level nodes beside the place or beside what is around it. -/
  top : Gap
  /-- The nodes around the place, from the outside in. -/
  layers : List Layer

namespace Position

/-- The document with a node at the open place. -/
def fill (position : Position) (node : Node) : Document :=
  ⟨position.top.fill (position.layers.foldr Layer.fill node)⟩

/-- Whether the place is in the description of an image, at whatever depth. -/
def inDescription (position : Position) : Bool := position.layers.any Layer.isDescription

/-- Whether the place is for the only child of a list item. -/
def isOnlyChild (position : Position) : Bool :=
  (position.layers.getLast?.map Layer.isOnlyChild).getD false

end Position

/-- A node is held by itself, and by every built-in node in whose rows a node stands that holds it. -/
inductive Node.Holds : Node → Node → Prop where
  | self (node : Node) : Holds node node
  | inside {outer child inner : Node} {row : List Node}
      (hbuiltIn : ∀ handle w, outer ≠ .widget handle w) (hrow : row ∈ outer.siblings)
      (hchild : child ∈ row) (h : Holds child inner) : Holds outer inner

/-! ## Every place below built-in nodes is a position -/

variable {node child : Node} {row : List Node}

/-- What stands in a row stands at an open place of it. -/
theorem exists_gap_fill_eq (h : child ∈ row) : ∃ gap : Gap, gap.fill child = row := by
  obtain ⟨left, right, rfl⟩ := List.append_of_mem h
  exact ⟨⟨left, right⟩, rfl⟩

/-- What stands in a row of a built-in node stands at an open place of it. -/
theorem exists_layer_fill_eq (hbuiltIn : ∀ handle w, node ≠ .widget handle w)
    (hrow : row ∈ node.siblings) (hchild : child ∈ row) :
    ∃ layer : Layer, layer.fill child = node := by
  obtain ⟨gap, rfl⟩ := exists_gap_fill_eq hchild
  cases node with
  | paragraph children =>
    obtain rfl := List.mem_singleton.1 hrow
    exact ⟨.paragraph gap, rfl⟩
  | blockQuote children =>
    obtain rfl := List.mem_singleton.1 hrow
    exact ⟨.blockQuote gap, rfl⟩
  | heading level children =>
    obtain rfl := List.mem_singleton.1 hrow
    exact ⟨.heading level gap, rfl⟩
  | listItem children =>
    obtain rfl := List.mem_singleton.1 hrow
    exact ⟨.listItem gap, rfl⟩
  | emphasis strong children =>
    obtain rfl := List.mem_singleton.1 hrow
    exact ⟨.emphasis strong gap, rfl⟩
  | strikethrough children =>
    obtain rfl := List.mem_singleton.1 hrow
    exact ⟨.strikethrough gap, rfl⟩
  | link destination title children =>
    obtain rfl := List.mem_singleton.1 hrow
    exact ⟨.link destination title gap, rfl⟩
  | image source title children =>
    obtain rfl := List.mem_singleton.1 hrow
    exact ⟨.image source title gap, rfl⟩
  | list firstNumber items =>
    obtain ⟨before, after, rfl⟩ := List.append_of_mem hrow
    exact ⟨.item firstNumber before gap after, rfl⟩
  | table alignments header rows =>
    rcases List.mem_append.1 hrow with hheader | hrows
    · obtain ⟨before, after, rfl⟩ := List.append_of_mem hheader
      exact ⟨.headerCell alignments before gap after rows, rfl⟩
    · obtain ⟨cells, hcells, hcell⟩ := List.mem_flatten.1 hrows
      obtain ⟨above, below, rfl⟩ := List.append_of_mem hcells
      obtain ⟨before, after, rfl⟩ := List.append_of_mem hcell
      exact ⟨.bodyCell alignments header above before gap after below, rfl⟩
  | widget handle w => exact absurd rfl (hbuiltIn handle w)
  | _ => exact absurd hrow List.not_mem_nil

theorem Gap.mem_fill (gap : Gap) (node : Node) : node ∈ gap.fill node := List.mem_append_cons_self

/-- A layer puts the node in one of its rows. -/
theorem Layer.exists_mem_siblings (layer : Layer) (node : Node) :
    ∃ row ∈ (layer.fill node).siblings, node ∈ row := by
  cases layer with
  | paragraph gap | blockQuote gap | heading _ gap | listItem gap | emphasis _ gap
  | strikethrough gap | link _ _ gap | image _ _ gap =>
    exact ⟨gap.fill node, List.mem_singleton_self _, gap.mem_fill node⟩
  | item firstNumber before gap after =>
    exact ⟨gap.fill node, List.mem_append_cons_self, gap.mem_fill node⟩
  | headerCell alignments before gap after rows =>
    exact ⟨gap.fill node, List.mem_append_left _ List.mem_append_cons_self, gap.mem_fill node⟩
  | bodyCell alignments header above before gap after below =>
    have hcell : gap.fill node ∈ (above ++ (before ++ gap.fill node :: after) :: below).flatten :=
      List.mem_flatten.2 ⟨_, List.mem_append_cons_self, List.mem_append_cons_self⟩
    exact ⟨gap.fill node, List.mem_append_right _ hcell, gap.mem_fill node⟩

/-- A tree holds just the nodes from which layers make the tree. -/
theorem Node.holds_iff_exists_layers {outer inner : Node} :
    outer.Holds inner ↔ ∃ layers : List Layer, layers.foldr Layer.fill inner = outer := by
  constructor
  · intro h
    induction h with
    | self node => exact ⟨[], rfl⟩
    | inside hbuiltIn hrow hchild _ ih =>
      obtain ⟨layers, rfl⟩ := ih
      obtain ⟨layer, hlayer⟩ := exists_layer_fill_eq hbuiltIn hrow hchild
      exact ⟨layer :: layers, hlayer⟩
  · rintro ⟨layers, rfl⟩
    induction layers with
    | nil => exact .self inner
    | cons layer layers ih =>
      obtain ⟨row, hrow, hchild⟩ := layer.exists_mem_siblings (layers.foldr Layer.fill inner)
      refine .inside (fun handle w => ?_) hrow hchild ih
      cases layer <;> exact Node.noConfusion

/-- The nodes that the trees of a document hold are those that stand at a position of it. -/
theorem Document.exists_holds_iff {document : Document} {node : Node} :
    (∃ top ∈ document.children, top.Holds node) ↔
      ∃ position : Position, position.fill node = document := by
  constructor
  · rintro ⟨top, htop, hholds⟩
    obtain ⟨gap, hgap⟩ := exists_gap_fill_eq htop
    obtain ⟨layers, rfl⟩ := Node.holds_iff_exists_layers.1 hholds
    exact ⟨⟨gap, layers⟩, congrArg Document.mk hgap⟩
  · rintro ⟨⟨gap, layers⟩, rfl⟩
    exact ⟨_, gap.mem_fill _, Node.holds_iff_exists_layers.2 ⟨layers, rfl⟩⟩

/-! ## Plain text -/

theorem plainTextAll_fill (gap : Gap) (node : Node) : plainTextAll (gap.fill node) =
    plainTextAll gap.left ++ node.plainText ++ plainTextAll gap.right := by
  obtain ⟨left, right⟩ := gap
  rw [Gap.fill]
  induction left with
  | nil => rw [List.nil_append, plainTextAll, plainTextAll, String.empty_append]
  | cons first left ih =>
    rw [List.cons_append, plainTextAll, ih, plainTextAll, String.append_assoc, String.append_assoc,
      String.append_assoc]

theorem plainTextItems_append_cons (before : List (List Node)) (item : List Node)
    (after : List (List Node)) : plainTextItems (before ++ item :: after) =
      plainTextItems before ++ plainTextAll item ++ plainTextItems after := by
  induction before with
  | nil => rw [List.nil_append, plainTextItems, plainTextItems, String.empty_append]
  | cons first before ih =>
    rw [List.cons_append, plainTextItems, ih, plainTextItems, String.append_assoc,
      String.append_assoc, String.append_assoc]

/-- Of the node at the open place only the plain text counts for the plain text around it. -/
theorem Layer.plainText_fill_congr (layer : Layer) {other : Node}
    (h : node.plainText = other.plainText) :
    (layer.fill node).plainText = (layer.fill other).plainText := by
  have hrow : ∀ gap : Gap, plainTextAll (gap.fill node) = plainTextAll (gap.fill other) := by
    intro gap
    rw [plainTextAll_fill, plainTextAll_fill, h]
  cases layer with
  | paragraph gap | blockQuote gap | heading _ gap | listItem gap | emphasis _ gap
  | strikethrough gap | link _ _ gap | image _ _ gap => exact hrow gap
  | item firstNumber before gap after =>
    rw [fill, fill, Node.plainText, Node.plainText, plainTextItems_append_cons,
      plainTextItems_append_cons, hrow]
  | headerCell _ _ _ _ _ | bodyCell _ _ _ _ _ _ _ => rfl

theorem plainText_foldr_fill_congr (layers : List Layer) {other : Node}
    (h : node.plainText = other.plainText) :
    (layers.foldr Layer.fill node).plainText = (layers.foldr Layer.fill other).plainText := by
  induction layers with
  | nil => exact h
  | cons layer layers ih => exact layer.plainText_fill_congr ih

end MarkdownHtml
