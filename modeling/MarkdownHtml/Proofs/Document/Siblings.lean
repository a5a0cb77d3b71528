import Mathlib.Data.List.Chain
import MarkdownHtml.Proofs.Document.Merged
import MarkdownHtml.Proofs.Document.Within

/-!
# Rows of siblings

The nodes of a tree stand in rows: the children of a node, each of its items, each of its cells
(`Node.siblings`). A tree is settled if in none of its rows, at whatever depth, two texts stand next
to each other. This is a matter of each row by itself (`Node.settled_iff`), so it is shown of a node
from the rows that the node is made of. A settled tree is one in which there is nothing to put
together (`mergedAll_of_settledAll`).
-/

namespace MarkdownHtml

/-- The rows of siblings right inside a node. -/
def Node.siblings : Node → List (List Node)
  | .paragraph children | .blockQuote children | .heading _ children | .listItem children
  | .emphasis _ children | .strikethrough children | .link _ _ children
  | .image _ _ children => [children]
  | .list _ items => items
  | .table _ header rows => header ++ rows.flatten
  | .widget _ (.callout _ children) | .widget _ (.rescope _ children) => [children]
  | .blankLine | .codeBlock _ _ | .htmlBlock _ | .linkReferenceDefinition _ _ _ | .thematicBreak
  | .text _ | .codeSpan _ | .hardBreak | .softBreak | .rawHtml _ | .autoLink _ _
  | .widget _ .marker | .widget _ (.badge _ _) | .widget _ .dump => []

/-- No two neighbours are both texts. -/
def TextsApart (nodes : List Node) : Prop :=
  nodes.IsChain fun first second => ¬(first.isText = true ∧ second.isText = true)

/-- In no row of siblings inside a node, at whatever depth, are two neighbours both texts. -/
def Node.Settled (node : Node) : Prop :=
  ∀ inner ∈ node :: node.inside, ∀ row ∈ inner.siblings, TextsApart row

/-- In a row of nodes, and in no row inside of one of them, are two neighbours both texts. -/
def SettledAll (nodes : List Node) : Prop := TextsApart nodes ∧ ∀ node ∈ nodes, node.Settled

/-! ## Each row by itself -/

theorem withinEach_eq_flatMap (items : List (List Node)) :
    withinEach items = items.flatMap withinAll := by
  induction items with
  | nil => rfl
  | cons nodes rest ih => rw [withinEach, ih, List.flatMap_cons]

theorem withinRows_eq_flatMap (rows : List (List (List Node))) :
    withinRows rows = rows.flatten.flatMap withinAll := by
  induction rows with
  | nil => rfl
  | cons row rest ih =>
    rw [withinRows, ih, List.flatten_cons, List.flatMap_append, withinEach_eq_flatMap]

/-- The nodes inside a node are those of its rows. -/
theorem Node.inside_eq_flatMap (node : Node) : node.inside = node.siblings.flatMap withinAll := by
  cases node with
  | list firstNumber items => exact withinEach_eq_flatMap items
  | table alignments header rows =>
    rw [inside, siblings, List.flatMap_append, withinEach_eq_flatMap, withinRows_eq_flatMap]
  | widget handle w =>
    cases w with
    | callout _ children | rescope _ children =>
      simp only [inside, Widget.inside, siblings, List.flatMap_singleton]
    | marker | badge _ _ | dump => rfl
  | paragraph children | blockQuote children | heading _ children | listItem children
  | emphasis _ children | strikethrough children | link _ _ children | image _ _ children =>
    simp only [inside, siblings, List.flatMap_singleton]
  | _ => rfl

/-- A node is settled when the rows that it is made of are. -/
theorem Node.settled_iff (node : Node) : node.Settled ↔ ∀ row ∈ node.siblings, SettledAll row := by
  rw [Settled, List.forall_mem_cons, inside_eq_flatMap]
  constructor
  · rintro ⟨hself, hinside⟩ row hrow
    refine ⟨hself row hrow, fun child hchild inner hinner => hinside inner ?_⟩
    exact List.mem_flatMap.2 ⟨row, hrow, mem_withinAll_iff.2 ⟨child, hchild, List.mem_cons.1 hinner⟩⟩
  · intro h
    refine ⟨fun row hrow => (h row hrow).1, fun inner hinner => ?_⟩
    obtain ⟨row, hrow, hmem⟩ := List.mem_flatMap.1 hinner
    obtain ⟨child, hchild, hinner⟩ := mem_withinAll_iff.1 hmem
    exact (h row hrow).2 child hchild inner (List.mem_cons.2 hinner)

theorem Node.settled_of_siblings_eq_nil {node : Node} (h : node.siblings = []) : node.Settled := by
  rw [settled_iff, h]
  exact List.forall_mem_nil _

/-! ## Rows -/

theorem settledAll_nil : SettledAll [] := ⟨List.isChain_nil, List.forall_mem_nil _⟩

theorem settledAll_reverse {nodes : List Node} : SettledAll nodes.reverse ↔ SettledAll nodes := by
  -- it makes no difference which of two neighbours comes first
  have hswap : TextsApart nodes.reverse ↔ TextsApart nodes := by
    rw [TextsApart, TextsApart, List.isChain_reverse]
    simp only [and_comm]
  simp only [SettledAll, hswap, List.mem_reverse]

/-- A node that is no text may come in front of any row. -/
theorem SettledAll.cons {nodes : List Node} (h : SettledAll nodes) {node : Node}
    (htext : node.isText = false) (hnode : node.Settled) : SettledAll (node :: nodes) := by
  refine ⟨List.isChain_cons.2 ⟨fun next _ => ?_, h.1⟩, List.forall_mem_cons.2 ⟨hnode, h.2⟩⟩
  rw [htext]
  exact fun hboth => Bool.noConfusion hboth.1

/-- So may several of them. -/
theorem SettledAll.append {nodes more : List Node} (h : SettledAll nodes)
    (hmore : ∀ node ∈ more, node.isText = false ∧ node.Settled) : SettledAll (more ++ nodes) := by
  induction more with
  | nil => exact h
  | cons node rest ih =>
    obtain ⟨⟨htext, hnode⟩, hrest⟩ := List.forall_mem_cons.1 hmore
    exact (ih hrest).cons htext hnode

theorem SettledAll.of_append {front back : List Node} (h : SettledAll (front ++ back)) :
    SettledAll front ∧ SettledAll back := by
  obtain ⟨hfront, hback, -⟩ := List.isChain_append.1 h.1
  obtain ⟨hfront', hback'⟩ := List.forall_mem_append.1 h.2
  exact ⟨⟨hfront, hfront'⟩, hback, hback'⟩

theorem settled_text (text : String) : (Node.text text).Settled :=
  Node.settled_of_siblings_eq_nil rfl

/-! ## Nothing to put together -/

mutual

/-- In a settled node there are no adjacent texts to put together. -/
theorem Node.merged_of_settled (node : Node) (h : node.Settled) : node.merged = node := by
  rw [Node.settled_iff] at h
  cases node with
  | paragraph children | blockQuote children | heading _ children | listItem children
  | emphasis _ children | strikethrough children | link _ _ children | image _ _ children =>
    rw [Node.merged, mergedAll_of_settledAll children (List.forall_mem_singleton.1 h)]
  | list firstNumber items => rw [Node.merged, mergedEach_of_settledAll items h]
  | table alignments header rows =>
    obtain ⟨hheader, hrows⟩ := List.forall_mem_append.1 h
    rw [Node.merged, mergedEach_of_settledAll header hheader,
      mergedRows_of_settledAll rows (List.forall_mem_flatten.1 hrows)]
  | blankLine | codeBlock _ _ | htmlBlock _ | linkReferenceDefinition _ _ _ | thematicBreak
  | text _ | codeSpan _ | hardBreak | softBreak | rawHtml _ | autoLink _ _ | widget _ _ =>
    rw [Node.merged]

theorem mergedAll_of_settledAll (nodes : List Node) (h : SettledAll nodes) :
    mergedAll nodes = nodes := by
  cases nodes with
  | nil => rfl
  | cons node rest =>
    obtain ⟨hnode, hrest⟩ := List.forall_mem_cons.1 h.2
    obtain ⟨hnext, hapart⟩ := List.isChain_cons.1 h.1
    rw [mergedAll, node.merged_of_settled hnode, mergedAll_of_settledAll rest ⟨hapart, hrest⟩]
    -- of two texts the second would join the first
    unfold Node.joinTo
    split
    · exact absurd ⟨rfl, rfl⟩ (hnext _ rfl)
    · rfl

theorem mergedEach_of_settledAll (items : List (List Node)) (h : ∀ row ∈ items, SettledAll row) :
    mergedEach items = items := by
  cases items with
  | nil => rfl
  | cons nodes rest =>
    obtain ⟨hnodes, hrest⟩ := List.forall_mem_cons.1 h
    rw [mergedEach, mergedAll_of_settledAll nodes hnodes, mergedEach_of_settledAll rest hrest]

theorem mergedRows_of_settledAll (rows : List (List (List Node)))
    (h : ∀ row ∈ rows, ∀ cell ∈ row, SettledAll cell) : mergedRows rows = rows := by
  cases rows with
  | nil => rfl
  | cons row rest =>
    obtain ⟨hrow, hrest⟩ := List.forall_mem_cons.1 h
    rw [mergedRows, mergedEach_of_settledAll row hrow, mergedRows_of_settledAll rest hrest]

end

end MarkdownHtml
