import MarkdownHtml.Proofs.Builder.Receive

/-!
# The builder reads forests

The stack of a builder and the recursion of `Document.ofForest` come to the same document. The core
is `pushAll_flatten`: the events of one tree, whatever is open before them, add the tree's part and
leave everything else as it was. Below an open element this is a fold of `Content.receive` over the
parts of the children, which `Content.part_foldl_receive` compares with `Tag.part`; at the top level
it is a fold of `Part.addTo` over `topParts`.
-/

namespace MarkdownHtml

/-! ## Newest first and in order -/

/-- A text added in front of nodes kept newest first is a text added at the end. -/
theorem reverse_addText (text : String) (children : List Node) :
    (Builder.addText text children).reverse = appendText text children.reverse := by
  have happend : ∀ (front : List Node) (last : Node),
      appendText text (front ++ [last]) = front ++ appendText text [last] := by
    intro front last
    induction front with
    | nil => rfl
    | cons node rest ih =>
      have hne : rest ++ [last] ≠ [] := by simp
      rw [List.cons_append, List.cons_append, ← ih]
      obtain ⟨head, tail, htail⟩ := List.exists_cons_of_ne_nil hne
      rw [htail, appendText]
      simp
  cases children with
  | nil => rfl
  | cons node rest =>
    rw [List.reverse_cons, happend]
    cases node <;> simp [Builder.addText, appendText]

theorem Part.reverse_addTo (part : Part) (children : List Node) :
    (part.addTo children).reverse = part.appendTo children.reverse := by
  cases part with
  | text text => exact reverse_addText text children
  | html _ | nodes _ | item _ | cell _ | row _ _ => simp [Part.addTo, Part.appendTo]

/-- Parts added to nodes kept newest first, put in order. -/
theorem Part.reverse_foldl_addTo (parts : List Part) (children : List Node) :
    (parts.foldl (fun nodes p => p.addTo nodes) children).reverse =
      parts.foldl (fun nodes p => p.appendTo nodes) children.reverse := by
  induction parts generalizing children with
  | nil => rfl
  | cons part rest ih => rw [List.foldl_cons, List.foldl_cons, ih, Part.reverse_addTo]

/-! ## What is gathered from a row of parts -/

namespace Content

variable (parts : List Part)

theorem foldl_receive_element (kind : ElementKind) (children : List Node) :
    parts.foldl receive (.element kind children) =
      .element kind (parts.foldl (fun nodes p => p.addTo nodes) children) := by
  induction parts generalizing children with
  | nil => rfl
  | cons part rest ih => exact ih _

theorem foldl_receive_transparent (children : List Node) :
    parts.foldl receive (.transparent children) =
      .transparent (parts.foldl (fun nodes p => p.addTo nodes) children) := by
  induction parts generalizing children with
  | nil => rfl
  | cons part rest ih => exact ih _

theorem foldl_receive_codeBlock (info : Option String) (code : String) :
    parts.foldl receive (.codeBlock info code) = .codeBlock info (code ++ Part.code parts) := by
  induction parts generalizing code with
  | nil => simp [Part.code]
  | cons part rest ih =>
    cases part <;> simp [receive, ih, Part.code, String.append_assoc]

theorem foldl_receive_htmlBlock (code : String) :
    parts.foldl receive (.htmlBlock code) = .htmlBlock (code ++ Part.markup parts) := by
  induction parts generalizing code with
  | nil => simp [Part.markup]
  | cons part rest ih =>
    cases part <;> simp [receive, ih, Part.markup, String.append_assoc]

theorem foldl_receive_list (firstNumber : Option UInt64) (items : List (List Node)) :
    parts.foldl receive (.list firstNumber items) =
      .list firstNumber ((Part.items parts).reverse ++ items) := by
  induction parts generalizing items with
  | nil => rfl
  | cons part rest ih => cases part <;> simp [receive, ih, Part.items]

theorem foldl_receive_row (cells : List (List Node)) :
    parts.foldl receive (.row cells) = .row ((Part.cells parts).reverse ++ cells) := by
  induction parts generalizing cells with
  | nil => rfl
  | cons part rest ih => cases part <;> simp [receive, ih, Part.cells]

theorem foldl_receive_table (alignments : List Alignment) (header : List (List Node))
    (rows : List (List (List Node))) :
    parts.foldl receive (.table alignments header rows) =
      .table alignments (Part.header header parts) ((Part.rows parts).reverse ++ rows) := by
  induction parts generalizing header rows with
  | nil => rfl
  | cons part rest ih =>
    cases part with
    | row isHead cells => cases isHead <;> simp [receive, ih, Part.header, Part.rows]
    | text _ | html _ | nodes _ | item _ | cell _ =>
      simp [receive, ih, Part.header, Part.rows]

theorem foldl_receive_discard : parts.foldl receive .discard = .discard := by
  induction parts with
  | nil => rfl
  | cons part rest ih => exact ih

/-- An element that has gathered the parts of its children hands on what its tag makes of them. -/
theorem part_foldl_receive (tag : Tag) :
    (parts.foldl receive (.ofTag tag)).part tag.toEnd = tag.part parts := by
  have hflow : (parts.foldl (fun nodes p => p.addTo nodes) []).reverse = Part.flow parts :=
    Part.reverse_foldl_addTo parts []
  cases tag with
  | codeBlock kind =>
    cases kind <;> simp [ofTag, foldl_receive_codeBlock, part, Tag.part]
  | link kind destination title =>
    cases kind <;> simp [ofTag, foldl_receive_element, part, Tag.part, hflow]
  | htmlBlock => simp [ofTag, foldl_receive_htmlBlock, part, Tag.part]
  | list first => simp [ofTag, foldl_receive_list, part, Tag.part]
  | table alignments => simp [ofTag, foldl_receive_table, part, Tag.part]
  | tableHead | tableRow => simp [ofTag, foldl_receive_row, part, Tag.part, Tag.toEnd]
  | metadataBlock kind => simp [ofTag, foldl_receive_discard, part, Tag.part]
  | heading level => simp [ofTag, foldl_receive_element, part, Tag.part, hflow, level.number_eq]
  | paragraph | blockQuote _ | item | tableCell | emphasis | strong | strikethrough | image _ _ =>
    simp [ofTag, foldl_receive_element, part, Tag.part, hflow]
  | footnoteDefinition | definitionList | definitionListTitle | definitionListDefinition
  | superscript | subscript => simp [ofTag, foldl_receive_transparent, part, Tag.part, hflow]

end Content

/-! ## The events of a tree -/

namespace Builder

mutual

/-- The events of a tree add the tree's part, and change nothing but that. -/
theorem pushAll_flatten (b : Builder) : (tree : EventTree) →
    b.pushAll tree.flatten =
      .ok (((b.prepare tree.start).receive tree.part).noteEnd tree.stop)
  | .leaf leaf span => by
    simp only [EventTree.flatten, pushAll, push_leaf]
    rfl
  | .element tag opening children closing => by
    have hopen : b.pushAll [(.start tag, opening)] =
        .ok ((b.prepare opening.start).enter ⟨tag.toEnd, .ofTag tag⟩) := rfl
    have hchildren := pushAll_flattenAll_enter (b.prepare opening.start) tag.toEnd (.ofTag tag)
      children
    -- the start opens a frame, the children fill that frame only, and the end takes it off again
    rw [EventTree.flatten, ← List.singleton_append, pushAll_append, hopen, Except.bind,
      pushAll_append, hchildren, Except.bind]
    simp only [pushAll, push_stop_enter, Content.part_foldl_receive, if_pos]
    rfl

/-- The events of trees in a row, below an open element, add their parts to what that element has
gathered. -/
theorem pushAll_flattenAll_enter (b : Builder) (closing : EndTag) (content : Content) :
    (trees : List EventTree) →
    (b.enter ⟨closing, content⟩).pushAll (flattenAll trees) =
      .ok (b.enter ⟨closing, (partsOf trees).foldl Content.receive content⟩)
  | [] => rfl
  | tree :: rest => by
    rw [flattenAll, pushAll_append, pushAll_flatten, Except.bind, prepare_enter, receive_enter,
      noteEnd_enter, pushAll_flattenAll_enter]
    rfl

end

/-! ## The top level -/

/-- What comes before a top-level tree is a part like any other. -/
theorem beginBlock_nodes (b : Builder) (offset : Nat) :
    (b.beginBlock offset).nodes =
      (Part.nodes (nodesBetween b.source b.definitions b.lastEnd offset)).addTo b.nodes := by
  simp [beginBlock, nodesBetween, Part.addTo]

/-- The events of top-level trees, then the end: the nodes so far, and then the trees with all that
stands between them. -/
theorem pushAll_flattenAll_nil (source : String) (nodes : List Node)
    (definitions : List Definition) (lastEnd : Nat) (trees : List EventTree) :
    ∃ b, (Builder.mk source [] nodes definitions lastEnd).pushAll (flattenAll trees) = .ok b ∧
      b.finish = .ok ⟨(topParts source definitions lastEnd trees).foldl
        (fun children p => p.appendTo children) nodes.reverse⟩ := by
  induction trees generalizing nodes definitions lastEnd with
  | nil =>
    refine ⟨_, rfl, ?_⟩
    have hnodes := beginBlock_nodes (Builder.mk source [] nodes definitions lastEnd)
      source.utf8ByteSize
    simp only [finish, List.isEmpty_nil, if_true, hnodes, Part.reverse_addTo]
    rfl
  | cons tree rest ih =>
    -- the builder after the first tree, which is one at the top level again
    let before := (Builder.mk source [] nodes definitions lastEnd).beginBlock tree.start
    obtain ⟨b, hb, hfinish⟩ := ih (tree.part.addTo before.nodes)
      (definitions.dropWhile (·.start < tree.start)) tree.stop
    refine ⟨b, ?_, ?_⟩
    · rw [flattenAll, pushAll_append, pushAll_flatten, Except.bind]
      exact hb
    · rw [hfinish, beginBlock_nodes, Part.reverse_addTo, Part.reverse_addTo]
      rfl

/-- A builder takes the events of any forest, whatever their spans, without an error, and then
finishes with the document that reading the forest gives. -/
theorem finish_pushAll_flattenAll (source : String) (definitions : List Definition)
    (forest : List EventTree) :
    ∃ b, (Builder.start source definitions).pushAll (flattenAll forest) = .ok b ∧
      b.finish = .ok (Document.ofForest source definitions forest) :=
  pushAll_flattenAll_nil source [] definitions 0 forest

end Builder

end MarkdownHtml
