import MarkdownHtml.Document.Html
import MarkdownHtml.Proofs.Builder.Shape
import MarkdownHtml.Proofs.Document.Merged
import MarkdownHtml.Proofs.Html.Escape

/-!
# The HTML does not show how texts are cut

Escaping a text is escaping its parts, so adjacent texts render as the text that they make up. Only
a list item could tell them apart, since it puts a newline between its children; but the items that
a builder makes hold no text directly. So a built tree and the tree with its texts put together have
the same HTML (`Document.html_merged`).
-/

namespace MarkdownHtml

variable {html : Bool} (context : RenderContext)

/-! ## Rows of nodes -/

theorem contentHtml_append (first second : String) :
    contentHtml (first ++ second) = contentHtml first ++ contentHtml second :=
  Place.content.escaped_append first second

theorem htmlEach_append (first second : List Node) :
    htmlEach context (first ++ second) = htmlEach context first ++ htmlEach context second := by
  induction first with
  | nil => rfl
  | cons node rest ih => rw [List.cons_append, htmlEach, htmlEach, ih, List.cons_append]

theorem htmlAll_cons (node : Node) (rest : List Node) :
    htmlAll context (node :: rest) = node.html context ++ htmlAll context rest := by
  rw [htmlAll, htmlEach, String.join_cons, ← htmlAll]

theorem htmlAll_append (first second : List Node) :
    htmlAll context (first ++ second) = htmlAll context first ++ htmlAll context second := by
  rw [htmlAll, htmlEach_append, String.join_append, ← htmlAll, ← htmlAll]

theorem htmlAll_joinTo (node : Node) (nodes : List Node) :
    htmlAll context (node.joinTo nodes) = node.html context ++ htmlAll context nodes := by
  unfold Node.joinTo
  split
  · simp only [htmlAll_cons, Node.html, contentHtml_append, String.append_assoc]
  · exact htmlAll_cons context _ _

theorem itemHtmlEach_eq_map (items : List (List Node)) :
    itemHtmlEach context items = items.map (itemHtml context) := by
  induction items with
  | nil => rfl
  | cons item rest ih => rw [itemHtmlEach, ih, List.map_cons]

theorem cellHtmlEach_eq_map (cells : List (List Node)) :
    cellHtmlEach context cells = cells.map (htmlAll context) := by
  induction cells with
  | nil => rfl
  | cons cell rest ih => rw [cellHtmlEach, ih, List.map_cons, htmlAll]

theorem rowCellsEach_eq_map (rows : List (List (List Node))) :
    rowCellsEach context rows = rows.map fun row => row.map (htmlAll context) := by
  induction rows with
  | nil => rfl
  | cons row rest ih => rw [rowCellsEach, ih, List.map_cons, cellHtmlEach_eq_map]

/-! ## The recursion over the tree -/

mutual

/-- A built tree and the tree with its texts put together have the same HTML. -/
theorem Node.html_merged (node : Node) (h : node.Built html) :
    node.merged.html context = node.html context := by
  have hinside := ((Node.built_iff node).1 h).2
  cases node with
  | paragraph children | blockQuote children | heading _ children | emphasis _ children
  | strikethrough children | link _ _ children =>
    have hchildren := htmlAll_mergedAll children ((forall_withinAll_iff _).1 hinside)
    simp only [htmlAll] at hchildren
    simp only [Node.merged, Node.html, hchildren]
  | image source title description =>
    simp only [Node.merged, Node.html, plainTextAll_mergedAll]
  | listItem blocks => exact itemHtml_mergedAll blocks h
  | list firstNumber items =>
    simp only [Node.merged, Node.html,
      itemHtmlEach_mergedEach items ((Node.built_list_iff firstNumber items).1 h)]
  | table alignments header rows =>
    rw [Node.inside, List.forall_mem_append, forall_withinEach_iff,
      forall_withinRows_iff] at hinside
    simp only [Node.merged, Node.html, cellHtmlEach_mergedEach header hinside.1,
      rowCellsEach_mergedRows rows hinside.2]
  | blankLine | codeBlock _ _ | htmlBlock _ | linkReferenceDefinition _ _ _ | thematicBreak
  | text _ | codeSpan _ | hardBreak | softBreak | rawHtml _ | autoLink _ _ | widget _ _ =>
    simp only [Node.merged]

theorem htmlAll_mergedAll (nodes : List Node) (h : ∀ node ∈ nodes, node.Built html) :
    htmlAll context (mergedAll nodes) = htmlAll context nodes := by
  cases nodes with
  | nil => rfl
  | cons node rest =>
    obtain ⟨hnode, hrest⟩ := List.forall_mem_cons.1 h
    rw [mergedAll, htmlAll_joinTo, Node.html_merged node hnode, htmlAll_mergedAll rest hrest,
      htmlAll_cons]

/-- No two blocks of an item are put together, so each stands on its own line as before. -/
theorem htmlEach_mergedAll (blocks : List Node) (hblock : ∀ node ∈ blocks, node.isText = false)
    (h : ∀ node ∈ blocks, node.Built html) :
    htmlEach context (mergedAll blocks) = htmlEach context blocks := by
  cases blocks with
  | nil => rfl
  | cons node rest =>
    obtain ⟨hnode, hrest⟩ := List.forall_mem_cons.1 h
    obtain ⟨htext, hblock⟩ := List.forall_mem_cons.1 hblock
    rw [mergedAll_cons_of_not_isText htext, htmlEach, htmlEach, Node.html_merged node hnode,
      htmlEach_mergedAll rest hblock hrest]

theorem itemHtml_mergedAll (blocks : List Node) (h : (Node.listItem blocks).Built html) :
    itemHtml context (mergedAll blocks) = itemHtml context blocks := by
  obtain ⟨hinline, hbuilt⟩ := (Node.built_listItem_iff blocks).1 h
  have htext : ∀ node ∈ blocks, node.isText = false :=
    fun node hnode => isText_of_isInline_eq_false (hinline node hnode)
  cases blocks with
  | nil => rfl
  | cons node rest =>
    obtain ⟨hnode, hrest⟩ := List.forall_mem_cons.1 hbuilt
    obtain ⟨htextNode, htextRest⟩ := List.forall_mem_cons.1 htext
    have hself := Node.html_merged node hnode
    have heach := htmlEach_mergedAll rest htextRest hrest
    rw [mergedAll_cons_of_not_isText htextNode]
    cases node with
    | paragraph children =>
      have hinside := ((Node.built_iff _).1 hnode).2
      have hchildren := htmlAll_mergedAll children ((forall_withinAll_iff _).1 hinside)
      simp only [htmlAll] at hchildren
      cases rest with
      | nil => simp only [Node.merged, mergedAll, itemHtml, hchildren]
      | cons next rest =>
        -- something follows the paragraph, so it keeps its tags
        rw [mergedAll_cons_of_not_isText (htextRest next List.mem_cons_self)] at heach ⊢
        simp only [Node.merged] at hself ⊢
        simp only [itemHtml, hself, heach]
    | _ =>
      simp only [Node.merged] at hself ⊢
      simp only [itemHtml, hself, heach]

theorem itemHtmlEach_mergedEach (items : List (List Node))
    (h : ∀ blocks ∈ items, (Node.listItem blocks).Built html) :
    itemHtmlEach context (mergedEach items) = itemHtmlEach context items := by
  cases items with
  | nil => rfl
  | cons blocks rest =>
    obtain ⟨hblocks, hrest⟩ := List.forall_mem_cons.1 h
    rw [mergedEach, itemHtmlEach, itemHtmlEach, itemHtml_mergedAll blocks hblocks,
      itemHtmlEach_mergedEach rest hrest]

theorem cellHtmlEach_mergedEach (cells : List (List Node))
    (h : ∀ cell ∈ cells, ∀ node ∈ cell, node.Built html) :
    cellHtmlEach context (mergedEach cells) = cellHtmlEach context cells := by
  cases cells with
  | nil => rfl
  | cons cell rest =>
    obtain ⟨hcell, hrest⟩ := List.forall_mem_cons.1 h
    have hcontents := htmlAll_mergedAll cell hcell
    simp only [htmlAll] at hcontents
    rw [mergedEach, cellHtmlEach, cellHtmlEach, hcontents, cellHtmlEach_mergedEach rest hrest]

theorem rowCellsEach_mergedRows (rows : List (List (List Node)))
    (h : ∀ row ∈ rows, ∀ cell ∈ row, ∀ node ∈ cell, node.Built html) :
    rowCellsEach context (mergedRows rows) = rowCellsEach context rows := by
  cases rows with
  | nil => rfl
  | cons row rest =>
    obtain ⟨hrow, hrest⟩ := List.forall_mem_cons.1 h
    rw [mergedRows, rowCellsEach, rowCellsEach, cellHtmlEach_mergedEach row hrow,
      rowCellsEach_mergedRows rest hrest]

end

/-- What stands between top-level blocks holds no text. -/
theorem Node.merged_of_isBetween {node : Node} (h : node.isBetween = true) :
    node.merged = node := by
  cases node with
  | blankLine | linkReferenceDefinition _ _ _ => rw [Node.merged]
  | _ => cases h

/-- A built document and the document with its texts put together have the same HTML. -/
theorem Document.html_merged (document : Document)
    (h : ∀ node ∈ document.children, node.isBetween = true ∨ node.Built html) :
    document.merged.html context = document.html context := by
  show htmlAll context (mergedAll document.children) = htmlAll context document.children
  generalize document.children = nodes at h
  induction nodes with
  | nil => rfl
  | cons node rest ih =>
    obtain ⟨hnode, hrest⟩ := List.forall_mem_cons.1 h
    have hself : node.merged.html context = node.html context := by
      rcases hnode with hbetween | hbuilt
      · rw [Node.merged_of_isBetween hbetween]
      · exact node.html_merged context hbuilt
    rw [mergedAll, htmlAll_joinTo, hself, ih hrest, htmlAll_cons]

end MarkdownHtml
