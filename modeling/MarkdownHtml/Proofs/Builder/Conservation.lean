import MarkdownHtml.Proofs.Builder.Refinement
import MarkdownHtml.Proofs.Builder.Runs
import MarkdownHtml.Proofs.Text.Piece

/-!
# Nothing of a legal stream is lost

A builder drops what has no place: blocks directly in a list, rows outside of tables, and so on.
`EventTree.legal` describes the forests in which everything has a place. For these the leaves of the
document are the payloads of the events, in the same order (`joined_leavesAll`). The invariant is
that each part holds the letters of the events that it comes from (`letters_leaves_part`), so it is
enough to see what one tag does to the parts of its children (`letters_leaves_tag_part`).
-/

namespace MarkdownHtml

/-- What stands between the texts of a document. -/
inductive Break where
  | soft
  | hard
  /-- A thematic break. -/
  | rule
deriving DecidableEq, Repr

mutual

/-- The texts and breaks of a node in order, raw HTML among the texts. Blank lines and definitions
have none. -/
def Node.leaves : Node → List (Piece Break)
  | .text content | .codeSpan content | .codeBlock _ content | .rawHtml content | .htmlBlock content
  | .autoLink _ content => [.text content]
  | .softBreak => [.mark .soft]
  | .hardBreak => [.mark .hard]
  | .thematicBreak => [.mark .rule]
  | .paragraph children | .blockQuote children | .heading _ children | .listItem children
  | .emphasis _ children | .strikethrough children | .link _ _ children
  | .image _ _ children => leavesAll children
  | .list _ items => leavesEach items
  | .table _ header rows => leavesEach header ++ leavesRows rows
  | .blankLine | .linkReferenceDefinition _ _ _ | .widget _ _ => []

/-- The leaves of nodes in a row. -/
def leavesAll : List Node → List (Piece Break)
  | [] => []
  | node :: rest => node.leaves ++ leavesAll rest

/-- The leaves of list items or of cells in a row. -/
def leavesEach : List (List Node) → List (Piece Break)
  | [] => []
  | nodes :: rest => leavesAll nodes ++ leavesEach rest

/-- The leaves of table rows. -/
def leavesRows : List (List (List Node)) → List (Piece Break)
  | [] => []
  | row :: rest => leavesEach row ++ leavesRows rest

end

/-- The text or the break that a leaf event stands for. -/
def Leaf.payload : Leaf → List (Piece Break)
  | .text content | .code content | .html content | .inlineHtml content => [.text content]
  | .softBreak => [.mark .soft]
  | .hardBreak => [.mark .hard]
  | .rule => [.mark .rule]
  | .inlineMath _ | .displayMath _ | .footnoteReference _ | .taskMarker _ => []

/-- The text or the break that an event stands for. -/
def Event.payload : Event → List (Piece Break)
  | .leaf content => content.payload
  | .start _ | .stop _ => []

/-- The texts and breaks of a stream of events. -/
def payloads (events : List (Event × Span)) : List (Piece Break) :=
  events.flatMap fun entry => entry.1.payload

/-! ## Legal forests -/

namespace EventTree

/-- An element with a given tag. -/
def opens (tag : Tag) : EventTree → Bool
  | .element own _ _ _ => own = tag
  | .leaf _ _ => false

/-- The head of a table or another of its rows. -/
def isRow (tree : EventTree) : Bool := tree.opens .tableHead || tree.opens .tableRow

/-- A text. -/
def isText : EventTree → Bool
  | .leaf (.text _) _ => true
  | _ => false

/-- A text or a line of HTML. -/
def isMarkup : EventTree → Bool
  | .leaf (.text _) _ | .leaf (.html _) _ => true
  | _ => false

theorem eq_element_of_opens {tag : Tag} {tree : EventTree} (h : tree.opens tag = true) :
    ∃ opening children closing, tree = .element tag opening children closing := by
  cases tree with
  | leaf _ _ => simp [opens] at h
  | element own opening children closing =>
    simp only [opens, decide_eq_true_eq] at h
    exact ⟨opening, children, closing, by rw [h]⟩

end EventTree

/-- Whether an element may hold these children. Metadata blocks are not allowed at all, and rows
stand in tables only. -/
def Tag.admits (tag : Tag) (children : List EventTree) : Bool :=
  match tag, children with
  | .list _, children => children.all (EventTree.opens .item)
  | .table _, [] => false
  | .table _, head :: rows => head.opens .tableHead && rows.all (EventTree.opens .tableRow)
  | .tableHead, children | .tableRow, children => children.all (EventTree.opens .tableCell)
  | .codeBlock _, children | .link .autolink _ _, children | .link .email _ _, children =>
    children.all EventTree.isText
  | .htmlBlock, children => children.all EventTree.isMarkup
  | .metadataBlock _, _ => false
  | _, children => children.all (!EventTree.isRow ·)

mutual

/-- Every element in the tree holds only what it may. -/
def EventTree.legal : EventTree → Bool
  | .leaf _ _ => true
  | .element tag _ children _ => tag.admits children && legalAll children

/-- Every element in the trees holds only what it may. -/
def legalAll : List EventTree → Bool
  | [] => true
  | tree :: rest => tree.legal && legalAll rest

end

/-- A forest in which every element holds only what it may, and no row stands at the top level. -/
def LegalForest (forest : List EventTree) : Prop :=
  forest.all (!EventTree.isRow ·) = true ∧ legalAll forest = true

/-! ## The leaves of parts -/

/-- The leaves of what a part holds. -/
def Part.leaves : Part → List (Piece Break)
  | .text content | .html content => [.text content]
  | .nodes contents | .item contents | .cell contents => leavesAll contents
  | .row _ cells => leavesEach cells

/-- The leaves of parts in a row. -/
def Part.leavesOf (parts : List Part) : List (Piece Break) := parts.flatMap Part.leaves

/-- A part that is no row, and so has a place among nodes. -/
def Part.Flows (part : Part) : Prop := ∀ isHead cells, part ≠ .row isHead cells

@[simp] theorem Part.leavesOf_nil : leavesOf [] = [] := rfl

@[simp] theorem Part.leavesOf_cons (part : Part) (rest : List Part) :
    leavesOf (part :: rest) = part.leaves ++ leavesOf rest := rfl

open Piece

@[simp] theorem leavesAll_append (first second : List Node) :
    leavesAll (first ++ second) = leavesAll first ++ leavesAll second := by
  induction first with
  | nil => rfl
  | cons node rest ih => rw [List.cons_append, leavesAll, leavesAll, ih, List.append_assoc]

@[simp] theorem leavesAll_singleton (node : Node) : leavesAll [node] = node.leaves :=
  List.append_nil _

/-- Wrapping runs of inline nodes keeps all that they hold. -/
theorem leavesAll_wrapInlineRuns (nodes : List Node) :
    leavesAll (wrapInlineRuns nodes) = leavesAll nodes := by
  have hwrap : ∀ run, leavesAll (wrapRun run) = leavesAll run := by
    intro run
    cases run <;> simp [wrapRun, leavesAll, Node.leaves]
  induction nodes using induction_on_runs with
  | inline run hrun => rw [wrapInlineRuns_of_inline hrun, hwrap]
  | append_cons run node rest hrun hnode ih =>
    rw [wrapInlineRuns_append_cons hnode, wrapInlineRuns_of_inline hrun, leavesAll_append,
      leavesAll_append, hwrap, leavesAll, leavesAll, ih]

theorem letters_leavesAll_appendText (text : String) (nodes : List Node) :
    letters (leavesAll (appendText text nodes)) =
      letters (leavesAll nodes) ++ text.toList.map .inl := by
  fun_induction appendText text nodes with
  | case1 => simp [leavesAll, Node.leaves]
  | case2 last => simp [Node.leaves]
  | case3 node rest _ ih => simp [leavesAll, ih]

/-- A part that is no row is added with all that it holds. -/
theorem letters_leavesAll_appendTo {part : Part} (h : part.Flows) (nodes : List Node) :
    letters (leavesAll (part.appendTo nodes)) =
      letters (leavesAll nodes) ++ letters part.leaves := by
  cases part with
  | text text => simp [Part.appendTo, Part.leaves, letters_leavesAll_appendText]
  | html _ | nodes _ | item _ | cell _ => simp [Part.appendTo, Part.leaves, Node.leaves]
  | row isHead cells => exact absurd rfl (h isHead cells)

theorem letters_leavesAll_flow {parts : List Part} (h : ∀ part ∈ parts, part.Flows) :
    letters (leavesAll (Part.flow parts)) = letters (Part.leavesOf parts) := by
  have hfold : ∀ nodes, letters (leavesAll (parts.foldl (fun nodes p => p.appendTo nodes) nodes)) =
      letters (leavesAll nodes) ++ letters (Part.leavesOf parts) := by
    induction parts with
    | nil => simp
    | cons part rest ih =>
      intro nodes
      rw [List.foldl_cons, ih fun p hp => h p (List.mem_cons_of_mem _ hp),
        letters_leavesAll_appendTo (h part List.mem_cons_self)]
      simp
  exact hfold []

/-! ## What tags do to legal children -/

/-- Only heads and other rows come to a row. -/
theorem EventTree.flows_part {tree : EventTree} (h : (!tree.isRow) = true) : tree.part.Flows := by
  intro isHead cells heq
  cases tree with
  | leaf leaf span => cases leaf <;> simp [part, Leaf.part] at heq
  | element tag opening children closing =>
    cases tag with
    | tableHead | tableRow => simp [isRow, opens] at h
    | codeBlock kind => cases kind <;> simp [part, Tag.part] at heq
    | link kind destination title => cases kind <;> simp [part, Tag.part] at heq
    | _ => simp [part, Tag.part] at heq

theorem flows_partsOf {trees : List EventTree} (h : trees.all (!EventTree.isRow ·) = true) :
    ∀ part ∈ partsOf trees, part.Flows := by
  intro part hpart
  rw [partsOf_eq_map] at hpart
  obtain ⟨tree, htree, rfl⟩ := List.mem_map.1 hpart
  exact EventTree.flows_part (List.all_eq_true.1 h tree htree)

/-- A list keeps all of its items. -/
theorem leavesEach_items {trees : List EventTree} (h : trees.all (EventTree.opens .item) = true) :
    leavesEach (Part.items (partsOf trees)) = Part.leavesOf (partsOf trees) := by
  induction trees with
  | nil => rfl
  | cons tree rest ih =>
    rw [List.all_cons, Bool.and_eq_true] at h
    obtain ⟨opening, children, closing, rfl⟩ := EventTree.eq_element_of_opens h.1
    simp [partsOf, EventTree.part, Tag.part, Part.items, leavesEach, Part.leaves, ih h.2]

/-- A row keeps all of its cells. -/
theorem leavesEach_cells {trees : List EventTree}
    (h : trees.all (EventTree.opens .tableCell) = true) :
    leavesEach (Part.cells (partsOf trees)) = Part.leavesOf (partsOf trees) := by
  induction trees with
  | nil => rfl
  | cons tree rest ih =>
    rw [List.all_cons, Bool.and_eq_true] at h
    obtain ⟨opening, children, closing, rfl⟩ := EventTree.eq_element_of_opens h.1
    simp [partsOf, EventTree.part, Tag.part, Part.cells, leavesEach, Part.leaves, ih h.2]

/-- A table keeps all rows below its head, and they do not change its header. -/
theorem leavesRows_rows {trees : List EventTree}
    (h : trees.all (EventTree.opens .tableRow) = true) (cells : List (List Node)) :
    Part.header cells (partsOf trees) = cells ∧
      leavesRows (Part.rows (partsOf trees)) = Part.leavesOf (partsOf trees) := by
  induction trees with
  | nil => exact ⟨rfl, rfl⟩
  | cons tree rest ih =>
    rw [List.all_cons, Bool.and_eq_true] at h
    obtain ⟨opening, children, closing, rfl⟩ := EventTree.eq_element_of_opens h.1
    obtain ⟨hheader, hrows⟩ := ih h.2
    simp [partsOf, EventTree.part, Tag.part, Part.header, Part.rows, leavesRows, Part.leaves,
      hheader, hrows]

/-- A code block keeps all of its texts. -/
theorem letters_code {trees : List EventTree} (h : trees.all EventTree.isText = true) :
    letters [.text (Part.code (partsOf trees))] = letters (Part.leavesOf (partsOf trees)) := by
  induction trees with
  | nil => rfl
  | cons tree rest ih =>
    rw [List.all_cons, Bool.and_eq_true] at h
    have hrest := ih h.2
    unfold EventTree.isText at h
    split at h
    · simp_all [partsOf, EventTree.part, Leaf.part, Part.code, Part.leaves]
    · simp at h

/-- An HTML block keeps all of its texts and lines. -/
theorem letters_markup {trees : List EventTree} (h : trees.all EventTree.isMarkup = true) :
    letters [.text (Part.markup (partsOf trees))] = letters (Part.leavesOf (partsOf trees)) := by
  induction trees with
  | nil => rfl
  | cons tree rest ih =>
    rw [List.all_cons, Bool.and_eq_true] at h
    have hrest := ih h.2
    unfold EventTree.isMarkup at h
    split at h
    · simp_all [partsOf, EventTree.part, Leaf.part, Part.markup, Part.leaves]
    · simp_all [partsOf, EventTree.part, Leaf.part, Part.markup, Part.leaves]
    · simp at h

theorem plainTextAll_appendText (text : String) (nodes : List Node) :
    plainTextAll (appendText text nodes) = plainTextAll nodes ++ text := by
  fun_induction appendText text nodes with
  | case1 => simp [plainTextAll, Node.plainText]
  | case2 last => simp [plainTextAll, Node.plainText]
  | case3 node rest _ ih => simp [plainTextAll, ih, String.append_assoc]

/-- An address keeps all of its texts. -/
theorem plainTextAll_flow_texts {trees : List EventTree}
    (h : trees.all EventTree.isText = true) :
    plainTextAll (Part.flow (partsOf trees)) = Part.code (partsOf trees) := by
  have hfold : ∀ nodes,
      plainTextAll ((partsOf trees).foldl (fun nodes p => p.appendTo nodes) nodes) =
        plainTextAll nodes ++ Part.code (partsOf trees) := by
    induction trees with
    | nil => simp [partsOf, Part.code]
    | cons tree rest ih =>
      intro nodes
      rw [List.all_cons, Bool.and_eq_true] at h
      have hrest := ih h.2
      rw [partsOf, List.foldl_cons, hrest]
      unfold EventTree.isText at h
      split at h
      · simp [EventTree.part, Leaf.part, Part.code, Part.appendTo, plainTextAll_appendText,
          String.append_assoc]
      · simp at h
  rw [Part.flow, hfold]
  simp [plainTextAll]

/-- An element that may hold its children keeps all that they hand to it. -/
theorem letters_leaves_tag_part {tag : Tag} {children : List EventTree}
    (h : tag.admits children = true) :
    letters (tag.part (partsOf children)).leaves = letters (Part.leavesOf (partsOf children)) := by
  -- an address flattens its contents to plain text, which loses nothing of texts
  have haddress : children.all EventTree.isText = true →
      letters [.text (plainTextAll (Part.flow (partsOf children)))] =
        letters (Part.leavesOf (partsOf children)) := by
    intro htexts
    rw [plainTextAll_flow_texts htexts, letters_code htexts]
  cases tag with
  | codeBlock kind =>
    cases kind <;> simpa [Tag.part, Part.leaves, Node.leaves] using letters_code h
  | htmlBlock => simpa [Tag.part, Part.leaves, Node.leaves] using letters_markup h
  | link kind destination title =>
    cases kind with
    | autolink | email => simpa [Tag.part, Part.leaves, Node.leaves] using haddress h
    | bracketed =>
      simpa [Tag.part, Part.leaves, Node.leaves] using letters_leavesAll_flow (flows_partsOf h)
  | list firstNumber =>
    simp only [Tag.part, Part.leaves, leavesAll_singleton, Node.leaves, leavesEach_items h]
  | tableHead | tableRow => simp only [Tag.part, Part.leaves, leavesEach_cells h]
  | table alignments =>
    cases children with
    | nil => cases h
    | cons head rows =>
      -- a second head would replace the first, so there is one, and it comes first
      obtain ⟨hhead, hbelow⟩ := Bool.and_eq_true_iff.1 h
      obtain ⟨opening, cells, closing, rfl⟩ := EventTree.eq_element_of_opens hhead
      obtain ⟨hheader, hrows⟩ := leavesRows_rows hbelow (Part.cells (partsOf cells))
      simp [partsOf, EventTree.part, Tag.part, Part.header, Part.rows, Part.leaves, Node.leaves,
        hheader, hrows]
  | metadataBlock kind => cases h
  | item =>
    simpa [Tag.part, Part.leaves, leavesAll_wrapInlineRuns] using
      letters_leavesAll_flow (flows_partsOf h)
  | _ => simpa [Tag.part, Part.leaves, Node.leaves] using letters_leavesAll_flow (flows_partsOf h)

/-! ## Whole trees and whole documents -/

mutual

/-- A legal tree hands on all that its events say. -/
theorem letters_leaves_part : (tree : EventTree) → tree.legal = true →
    letters tree.part.leaves = letters (payloads tree.flatten)
  | .leaf leaf span, _ => by
    cases leaf <;> rfl
  | .element tag opening children closing, h => by
    rw [EventTree.legal, Bool.and_eq_true] at h
    rw [EventTree.part, letters_leaves_tag_part h.1, letters_leavesOf_partsOf children h.2]
    simp [EventTree.flatten, payloads, Event.payload]

theorem letters_leavesOf_partsOf : (trees : List EventTree) → legalAll trees = true →
    letters (Part.leavesOf (partsOf trees)) = letters (payloads (flattenAll trees))
  | [], _ => rfl
  | tree :: rest, h => by
    rw [legalAll, Bool.and_eq_true] at h
    rw [partsOf, Part.leavesOf_cons, letters_append, letters_leaves_part tree h.1,
      letters_leavesOf_partsOf rest h.2, flattenAll, payloads, payloads, payloads,
      List.flatMap_append, letters_append]

end

theorem leavesAll_nodesBetween (source : String) (definitions : List Definition)
    (lastEnd offset : Nat) : leavesAll (nodesBetween source definitions lastEnd offset) = [] := by
  have hdefinitions : ∀ placed : List Definition,
      leavesAll (placed.map Definition.node) = [] := by
    intro placed
    induction placed with
    | nil => rfl
    | cons d rest ih => simp [leavesAll, Definition.node, Node.leaves, ih]
  have hblanks : ∀ n, leavesAll (List.replicate n .blankLine) = [] := by
    intro n
    induction n with
    | zero => rfl
    | succ n ih => simp [List.replicate_succ, leavesAll, Node.leaves, ih]
  rw [nodesBetween, leavesAll_append, hdefinitions, hblanks, List.append_nil]

/-- What stands between top-level trees adds no leaves. -/
theorem leavesOf_topParts (source : String) (definitions : List Definition) (lastEnd : Nat)
    (trees : List EventTree) :
    Part.leavesOf (topParts source definitions lastEnd trees) =
      Part.leavesOf (partsOf trees) := by
  induction trees generalizing definitions lastEnd with
  | nil => simp [topParts, partsOf, Part.leaves, leavesAll_nodesBetween]
  | cons tree rest ih => simp [topParts, partsOf, Part.leaves, leavesAll_nodesBetween, ih]

theorem flows_topParts (source : String) (definitions : List Definition) (lastEnd : Nat)
    {trees : List EventTree} (h : trees.all (!EventTree.isRow ·) = true) :
    ∀ part ∈ topParts source definitions lastEnd trees, part.Flows := by
  have hnodes : ∀ nodes, (Part.nodes nodes).Flows := by
    intro nodes isHead cells heq
    cases heq
  induction trees generalizing definitions lastEnd with
  | nil =>
    intro part hpart
    rw [topParts, List.mem_singleton] at hpart
    exact hpart ▸ hnodes _
  | cons tree rest ih =>
    rw [List.all_cons, Bool.and_eq_true] at h
    intro part hpart
    rw [topParts, List.mem_cons, List.mem_cons] at hpart
    rcases hpart with rfl | rfl | hpart
    · exact hnodes _
    · exact EventTree.flows_part h.1
    · exact ih _ _ h.2 part hpart

/-- The builder takes the events of a legal forest and finishes with a document whose leaves,
joined, are the texts and breaks of the events, joined: nothing is lost, doubled or moved. -/
theorem joined_leavesAll (source : String) (definitions : List Definition)
    (forest : List EventTree) (h : LegalForest forest) :
    ∃ b document, (Builder.start source definitions).pushAll (flattenAll forest) = .ok b ∧
      b.finish = .ok document ∧
      joined (leavesAll document.children) = joined (payloads (flattenAll forest)) := by
  obtain ⟨b, hrun, hfinish⟩ := Builder.pushAll_flattenAll_nil source [] definitions 0 forest
  refine ⟨b, _, hrun, hfinish, joined_eq_of_letters ?_⟩
  have hflow := letters_leavesAll_flow (flows_topParts source definitions 0 h.1)
  rw [leavesOf_topParts, letters_leavesOf_partsOf forest h.2] at hflow
  exact hflow

/-- A tight item with a break and a code span, then a table with a head and a row. -/
def listAndTable : List EventTree :=
  [.element (.list none) ⟨0, 9⟩
    [.element .item ⟨0, 9⟩
      [.leaf (.text "a") ⟨2, 3⟩, .leaf .softBreak ⟨3, 4⟩, .leaf (.code "b") ⟨4, 7⟩] ⟨0, 9⟩] ⟨0, 9⟩,
   .element (.table [.left]) ⟨9, 20⟩
    [.element .tableHead ⟨9, 12⟩
      [.element .tableCell ⟨9, 10⟩ [.leaf (.text "c") ⟨9, 10⟩] ⟨9, 10⟩] ⟨9, 12⟩,
     .element .tableRow ⟨13, 20⟩
      [.element .tableCell ⟨14, 15⟩ [.leaf (.text "d") ⟨14, 15⟩] ⟨14, 15⟩] ⟨13, 20⟩] ⟨9, 20⟩]

theorem joined_leavesAll_listAndTable :
    LegalForest listAndTable ∧
    ∃ b document, (Builder.start "" []).pushAll (flattenAll listAndTable) = .ok b ∧
      b.finish = .ok document ∧
      joined (leavesAll document.children) = [.text "a", .mark .soft, .text "bcd"] := by
  have hlegal : LegalForest listAndTable := ⟨by decide, by decide⟩
  obtain ⟨b, document, hrun, hfinish, hleaves⟩ := joined_leavesAll "" [] listAndTable hlegal
  exact ⟨hlegal, b, document, hrun, hfinish, hleaves.trans (by decide)⟩

end MarkdownHtml
