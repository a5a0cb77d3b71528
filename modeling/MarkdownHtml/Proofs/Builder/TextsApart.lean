import MarkdownHtml.Proofs.Builder.Unwrapping
import MarkdownHtml.Proofs.Document.Siblings

/-!
# Texts never stand next to each other

A builder adds a text to the text that stands last in the row, so texts that arrive one by one never
become neighbours. What arrives with a closed element might: the contents of an element without a
node of its own, and those of a cell that stands outside of a row, are put into the row around it as
they are. Where neither happens, all that a builder holds is settled (`Builder.Settled`): each event
keeps that (`settled_push`), also one that fails, and so does a run (`settled_pushEach`).

Which elements are open is read off the stream. `Frame.IsOf` says of a frame that it was opened by a
tag and has taken parts since, and the frames of a builder are those of the starts that have not been
ended (`isOf_push`).
-/

namespace MarkdownHtml

/-! ## The frames of a stream -/

/-- The frame was opened by a tag, and has taken parts since. -/
def Frame.IsOf (frame : Frame) (tag : Tag) : Prop :=
  ∃ parts : List Part, frame = ⟨tag.toEnd, parts.foldl Content.receive (.ofTag tag)⟩

theorem Frame.isOf_ofTag (tag : Tag) : (Frame.ofTag tag).IsOf tag := ⟨[], rfl⟩

/-- A frame that takes one more part is still of its tag. -/
theorem Frame.IsOf.receive {closing : EndTag} {content : Content} {tag : Tag}
    (h : Frame.IsOf ⟨closing, content⟩ tag) (part : Part) :
    Frame.IsOf ⟨closing, content.receive part⟩ tag := by
  obtain ⟨parts, heq⟩ := h
  refine ⟨parts ++ [part], ?_⟩
  cases heq
  rw [List.foldl_append]
  rfl

namespace Builder

variable {b : Builder} {opened : List Tag}

theorem isOf_receive (h : List.Forall₂ Frame.IsOf b.stack opened) (part : Part) :
    List.Forall₂ Frame.IsOf (b.receive part).stack opened := by
  obtain ⟨source, stack, nodes, definitions, lastEnd⟩ := b
  cases h with
  | nil => exact .nil
  | cons hframe hrest => exact .cons (hframe.receive part) hrest

@[simp] theorem stack_prepare (b : Builder) (offset : Nat) : (b.prepare offset).stack = b.stack := by
  unfold prepare
  split <;> rfl

@[simp] theorem stack_noteEnd (b : Builder) (offset : Nat) : (b.noteEnd offset).stack = b.stack := by
  unfold noteEnd
  split <;> rfl

/-- The frames follow the starts and ends of the stream, also through events that fail. -/
theorem isOf_push (h : List.Forall₂ Frame.IsOf b.stack opened) (event : Event) (span : Span) :
    List.Forall₂ Frame.IsOf (b.push event span).1.stack (event.after opened) := by
  cases event with
  | start tag =>
    rw [push_start]
    refine .cons (Frame.isOf_ofTag tag) ?_
    rw [stack_prepare]
    exact h
  | leaf leaf =>
    rw [push_leaf, stack_noteEnd]
    refine isOf_receive ?_ _
    rw [stack_prepare]
    exact h
  | stop tag =>
    rcases hstack : b.stack with _ | ⟨⟨closing, content⟩, rest⟩
    · rw [hstack, List.forall₂_nil_left_iff] at h
      rw [push_stop_nil b hstack, hstack, h]
      exact .nil
    · rw [hstack, List.forall₂_cons_left_iff] at h
      obtain ⟨innermost, outer, -, hrest, rfl⟩ := h
      have houter : List.Forall₂ Frame.IsOf ({ b with stack := rest } : Builder).stack outer := hrest
      rw [eq_enter_of_stack b hstack, push_stop_enter]
      split
      · rw [stack_noteEnd]
        exact isOf_receive houter _
      · exact houter

end Builder

/-! ## What is gathered -/

/-- The rows of siblings that have been gathered for an open element. The one that is being written
is newest first, as it makes no difference to what stands next to what. -/
def Content.siblings : Content → List (List Node)
  | .element _ children | .transparent children => [children]
  | .list _ items => items
  | .table _ header rows => header ++ rows.flatten
  | .row cells => cells
  | .codeBlock _ _ | .htmlBlock _ | .discard => []

/-- No two texts that have been gathered for an open element stand next to each other. -/
def Content.Settled (content : Content) : Prop := ∀ row ∈ content.siblings, SettledAll row

/-- What a part hands on is settled, and finished nodes among it are no texts. -/
def Part.Settled : Part → Prop
  | .text _ | .html _ => True
  | .nodes more => ∀ node ∈ more, node.isText = false ∧ node.Settled
  | .item blocks => SettledAll blocks
  | .cell contents => SettledAll contents
  | .row _ cells => ∀ cell ∈ cells, SettledAll cell

/-- A single node that is no text. -/
theorem Part.settled_node {node : Node} (htext : node.isText = false) (h : node.Settled) :
    (Part.nodes [node]).Settled :=
  List.forall_mem_singleton.2 ⟨htext, h⟩

/-- A part that is a table cell. -/
def Part.isCell : Part → Bool
  | .cell _ => true
  | _ => false

/-- An open head or row of a table. -/
def Content.isRow : Content → Bool
  | .row _ => true
  | _ => false

/-- A text extends the one that stands last, or follows a node of another kind. -/
theorem settledAll_addText {nodes : List Node} (h : SettledAll nodes) (text : String) :
    SettledAll (Builder.addText text nodes) := by
  cases nodes with
  | nil => exact ⟨List.isChain_singleton _, List.forall_mem_singleton.2 (settled_text text)⟩
  | cons first rest =>
    obtain ⟨hapart, hsettled⟩ := h
    cases hfirst : first.isText with
    | false =>
      have hadd : Builder.addText text (first :: rest) = .text text :: first :: rest := by
        cases first with
        | text last => cases hfirst
        | _ => rfl
      rw [hadd]
      refine ⟨List.isChain_cons_cons.2 ⟨?_, hapart⟩, List.forall_mem_cons.2 ⟨settled_text _, hsettled⟩⟩
      rw [hfirst]
      exact fun hboth => Bool.noConfusion hboth.2
    | true =>
      cases first with
      | text last =>
        -- the next node is as far from a text as before
        obtain ⟨hnext, hrest⟩ := List.isChain_cons.1 hapart
        exact ⟨List.isChain_cons.2 ⟨hnext, hrest⟩,
          List.forall_mem_cons.2 ⟨settled_text _, (List.forall_mem_cons.1 hsettled).2⟩⟩
      | _ => cases hfirst

/-- A part added to a settled row leaves a settled row, unless it is a cell. -/
theorem Part.settledAll_addTo {part : Part} (hpart : part.Settled) (hcell : part.isCell = false)
    {children : List Node} (h : SettledAll children) : SettledAll (part.addTo children) := by
  cases part with
  | text more => exact settledAll_addText h more
  | html line => exact h.cons rfl (Node.settled_of_siblings_eq_nil rfl)
  | nodes more => exact h.append fun node hnode => hpart node (List.mem_reverse.1 hnode)
  | item blocks => exact h.cons rfl ((Node.settled_iff _).2 (List.forall_mem_singleton.2 hpart))
  | cell contents => cases hcell
  | row isHead cells => exact h

/-- An open element stays settled with a part that it takes. Only a row has a place for a cell. -/
theorem Content.settled_receive {content : Content} {part : Part} (h : content.Settled)
    (hpart : part.Settled) (hcell : part.isCell = true → content.isRow = true) :
    (content.receive part).Settled := by
  cases content with
  | element kind children | transparent children =>
    have hnot : part.isCell = false :=
      Bool.eq_false_iff.2 fun hpart => Bool.noConfusion (hcell hpart)
    exact List.forall_mem_singleton.2
      (part.settledAll_addTo hpart hnot (List.forall_mem_singleton.1 h))
  | codeBlock info code | htmlBlock code => cases part <;> exact h
  | list firstNumber items =>
    cases part with
    | item blocks => exact List.forall_mem_cons.2 ⟨hpart, h⟩
    | text _ | html _ | nodes _ | cell _ | row _ _ => exact h
  | table alignments header rows =>
    cases part with
    | row isHead cells =>
      obtain ⟨hheader, hrows⟩ := List.forall_mem_append.1 h
      cases isHead with
      | true => exact List.forall_mem_append.2 ⟨hpart, hrows⟩
      | false =>
        refine List.forall_mem_append.2 ⟨hheader, ?_⟩
        rw [List.flatten_cons]
        exact List.forall_mem_append.2 ⟨hpart, hrows⟩
    | text _ | html _ | nodes _ | item _ | cell _ => exact h
  | row cells =>
    cases part with
    | cell contents => exact List.forall_mem_cons.2 ⟨hpart, h⟩
    | text _ | html _ | nodes _ | item _ | row _ _ => exact h
  | discard => cases part <;> exact h

/-- Wrapping the inline runs of an item cuts the row in pieces, and puts next to each other only what
is no text. -/
theorem settledAll_wrapInlineRuns {nodes : List Node} (h : SettledAll nodes) :
    SettledAll (wrapInlineRuns nodes) := by
  have hapart : ∀ node ∈ wrapInlineRuns nodes, node.isText = false ∧ node.Settled := by
    intro node hnode
    refine ⟨isText_of_isInline_eq_false (isInline_of_mem_wrapInlineRuns node hnode), ?_⟩
    rcases mem_wrapInlineRuns hnode with ⟨-, hmem⟩ | ⟨run, ⟨front, back, hrun⟩, rfl⟩
    · exact h.2 node hmem
    · have hsettled : SettledAll run := by
        rw [← hrun] at h
        exact h.of_append.1.of_append.2
      exact (Node.settled_iff _).2 (List.forall_mem_singleton.2 hsettled)
  have hwrapped := settledAll_nil.append hapart
  rw [List.append_nil] at hwrapped
  exact hwrapped

/-- What a closed element hands on is settled, if it has a node of its own. -/
theorem Content.settled_part {content : Content} (h : content.Settled) (tag : EndTag)
    (htransparent : ∀ children, content ≠ .transparent children) : (content.part tag).Settled := by
  have hnode : ∀ node : Node, node.isText = false → (∀ row ∈ node.siblings, SettledAll row) →
      (Part.nodes [node]).Settled :=
    fun node htext hrows => Part.settled_node htext (node.settled_iff.2 hrows)
  cases content with
  | element kind children =>
    have hchildren : SettledAll children.reverse :=
      settledAll_reverse.2 (List.forall_mem_singleton.1 h)
    cases kind with
    | item => exact settledAll_wrapInlineRuns hchildren
    | cell => exact hchildren
    | autoLink destination => exact hnode _ rfl (List.forall_mem_nil _)
    | paragraph | heading _ | blockQuote | emphasis _ | strikethrough | link _ _ | image _ _ =>
      exact hnode _ rfl (List.forall_mem_singleton.2 hchildren)
  | codeBlock _ _ | htmlBlock _ => exact hnode _ rfl (List.forall_mem_nil _)
  | list firstNumber items =>
    exact hnode _ rfl fun blocks hblocks => h blocks (List.mem_reverse.1 hblocks)
  | table alignments header rows =>
    refine hnode _ rfl fun cell hcell => h cell ?_
    simpa [Node.siblings, siblings] using hcell
  | row cells => exact fun cell hcell => h cell (List.mem_reverse.1 hcell)
  | transparent children => exact absurd rfl (htransparent children)
  | discard => exact List.forall_mem_nil _

theorem Leaf.settled_part (leaf : Leaf) : leaf.part.Settled := by
  cases leaf with
  | text text => trivial
  | html line => trivial
  | code _ | inlineHtml _ | softBreak | hardBreak | rule =>
    exact Part.settled_node rfl (Node.settled_of_siblings_eq_nil rfl)
  | inlineMath _ | displayMath _ | footnoteReference _ | taskMarker _ => exact List.forall_mem_nil _

/-! ## Which part comes from which tag -/

/-- An open element without a node of its own. -/
def Content.isTransparent : Content → Bool
  | .transparent _ => true
  | _ => false

/-- A tag of a table's head or of one of its rows. -/
def Tag.isRow : Tag → Bool
  | .tableHead | .tableRow => true
  | _ => false

/-- An element that takes a part stays of its kind. -/
theorem Content.kind_receive (content : Content) (part : Part) :
    (content.receive part).isTransparent = content.isTransparent ∧
      (content.receive part).isRow = content.isRow := by
  cases content with
  | element _ _ | transparent _ => exact ⟨rfl, rfl⟩
  | table alignments header rows =>
    cases part with
    | row isHead cells => cases isHead <;> exact ⟨rfl, rfl⟩
    | text _ | html _ | nodes _ | item _ | cell _ => exact ⟨rfl, rfl⟩
  | codeBlock _ _ | htmlBlock _ | list _ _ | row _ | discard => cases part <;> exact ⟨rfl, rfl⟩

/-- The kind of an open element is that of its tag. -/
theorem Frame.IsOf.kind {frame : Frame} {tag : Tag} (h : frame.IsOf tag) :
    frame.content.isTransparent = tag.isTransparent ∧ frame.content.isRow = tag.isRow := by
  obtain ⟨parts, rfl⟩ := h
  dsimp only
  induction parts using List.reverseRecOn with
  | nil =>
    cases tag with
    | codeBlock kind | link kind _ _ => cases kind <;> exact ⟨rfl, rfl⟩
    | _ => exact ⟨rfl, rfl⟩
  | append_singleton parts part ih =>
    rw [List.foldl_append]
    obtain ⟨htransparent, hrow⟩ := Content.kind_receive (parts.foldl Content.receive (.ofTag tag)) part
    exact ⟨htransparent.trans ih.1, hrow.trans ih.2⟩

/-- Only a closed table cell hands on a cell. -/
theorem Tag.eq_tableCell_of_isCell {tag : Tag} {parts : List Part}
    (h : (tag.part parts).isCell = true) : tag = .tableCell := by
  cases tag with
  | tableCell => rfl
  | codeBlock kind | link kind _ _ => cases kind <;> cases h
  | _ => cases h

theorem Content.settled_ofTag (tag : Tag) : (Content.ofTag tag).Settled := by
  have hempty : ∀ row ∈ [([] : List Node)], SettledAll row :=
    List.forall_mem_singleton.2 settledAll_nil
  cases tag with
  | codeBlock kind => cases kind <;> exact List.forall_mem_nil _
  | link kind _ _ => cases kind <;> exact hempty
  | htmlBlock | list _ | table _ | tableHead | tableRow | metadataBlock _ =>
    exact List.forall_mem_nil _
  | paragraph | heading _ | blockQuote _ | item | tableCell | emphasis | strong | strikethrough
  | image _ _ | footnoteDefinition | definitionList | definitionListTitle
  | definitionListDefinition | superscript | subscript => exact hempty

/-- What stands between top-level blocks is no text. -/
theorem settled_nodesBetween (source : String) (definitions : List Definition)
    (lastEnd offset : Nat) :
    (Part.nodes (nodesBetween source definitions lastEnd offset)).Settled := by
  intro node hnode
  rcases List.mem_append.1 hnode with hplaced | hblank
  · obtain ⟨d, -, rfl⟩ := List.mem_map.1 hplaced
    exact ⟨rfl, Node.settled_of_siblings_eq_nil rfl⟩
  · rw [List.eq_of_mem_replicate hblank]
    exact ⟨rfl, Node.settled_of_siblings_eq_nil rfl⟩

/-! ## Builders -/

namespace Builder

/-- No two texts that a builder holds stand next to each other: neither at the top level or inside
of what stands there, nor in what has been gathered for an open element. -/
structure Settled (b : Builder) : Prop where
  nodes : SettledAll b.nodes
  stack : ∀ frame ∈ b.stack, frame.content.Settled

variable {b : Builder} {opened : List Tag}

theorem settled_start (source : String) (definitions : List Definition) :
    (start source definitions).Settled :=
  ⟨settledAll_nil, List.forall_mem_nil _⟩

theorem settled_enter (h : b.Settled) (tag : Tag) : (b.enter (Frame.ofTag tag)).Settled :=
  ⟨h.nodes, List.forall_mem_cons.2 ⟨Content.settled_ofTag tag, h.stack⟩⟩

theorem settled_receive (h : b.Settled) {part : Part} (hpart : part.Settled)
    (hcell : part.isCell = true → b.stack.head?.any (·.content.isRow) = true) :
    (b.receive part).Settled := by
  obtain ⟨source, stack, nodes, definitions, lastEnd⟩ := b
  rcases stack with _ | ⟨⟨closing, content⟩, rest⟩
  · have hnot : part.isCell = false :=
      Bool.eq_false_iff.2 fun hpart => Bool.noConfusion (hcell hpart)
    exact ⟨part.settledAll_addTo hpart hnot h.nodes, h.stack⟩
  · obtain ⟨hcontent, hrest⟩ := List.forall_mem_cons.1 h.stack
    exact ⟨h.nodes, List.forall_mem_cons.2
      ⟨Content.settled_receive hcontent hpart fun hpart => by simpa using hcell hpart, hrest⟩⟩

theorem settled_prepare (h : b.Settled) (offset : Nat) : (b.prepare offset).Settled := by
  unfold prepare
  split
  · refine ⟨?_, h.stack⟩
    rw [beginBlock_nodes]
    exact Part.settledAll_addTo (settled_nodesBetween _ _ _ _) rfl h.nodes
  · exact h

theorem settled_noteEnd (h : b.Settled) (offset : Nat) : (b.noteEnd offset).Settled := by
  unfold noteEnd
  split
  · exact ⟨h.nodes, h.stack⟩
  · exact h

/-- An event keeps a builder settled, also if it fails. The open elements all have nodes of their
own, and where the event ends a cell, the element around it is a row. -/
theorem settled_push (h : b.Settled) (hframes : List.Forall₂ Frame.IsOf b.stack opened)
    (hplain : ∀ tag ∈ opened, tag.isTransparent = false) (event : Event) (span : Span)
    (hcell : ∀ outer, event = .stop .tableCell → opened = .tableCell :: outer →
      outer.head?.any Tag.isRow = true) : (b.push event span).1.Settled := by
  cases event with
  | start tag =>
    rw [push_start]
    exact settled_enter (settled_prepare h _) tag
  | leaf leaf =>
    have hnot : leaf.part.isCell = false := by cases leaf <;> rfl
    rw [push_leaf]
    refine settled_noteEnd (settled_receive (settled_prepare h _) leaf.settled_part fun hpart => ?_) _
    rw [hnot] at hpart
    cases hpart
  | stop tag =>
    rcases hstack : b.stack with _ | ⟨⟨closing, content⟩, rest⟩
    · rw [push_stop_nil b hstack]
      exact h
    · have hcontents := h.stack
      rw [hstack] at hcontents hframes
      obtain ⟨hcontent, hrest⟩ := List.forall_mem_cons.1 hcontents
      obtain ⟨innermost, outer, hframe, houter, rfl⟩ := List.forall₂_cons_left_iff.1 hframes
      have hsettled : Settled { b with stack := rest } := ⟨h.nodes, hrest⟩
      rw [eq_enter_of_stack b hstack, push_stop_enter]
      split
      · rename_i hclosing
        have htransparent : content.isTransparent = false :=
          hframe.kind.1.trans (hplain innermost List.mem_cons_self)
        refine settled_noteEnd (settled_receive hsettled (Content.settled_part hcontent tag ?_) ?_) _
        · rintro children rfl
          cases htransparent
        · -- it is a cell that ends, so it goes to a row
          intro hpart
          obtain ⟨parts, heq⟩ := hframe
          cases heq
          rw [← hclosing, Content.part_foldl_receive] at hpart
          obtain rfl := Tag.eq_tableCell_of_isCell hpart
          have hrow := hcell outer (by rw [← hclosing]; rfl) rfl
          cases houter with
          | nil => cases hrow
          | cons hnext _ =>
            show Option.any _ (some _) = true
            rw [Option.any_some, hnext.kind.2]
            simpa using hrow
      · exact hsettled

end Builder

/-! ## Streams -/

/-- What is open in a stream was started in it. -/
theorem exists_start_of_mem_unended {events : List (Event × Span)} {tag : Tag}
    (h : tag ∈ unended events) : ∃ span, (.start tag, span) ∈ events := by
  induction events using List.reverseRecOn with
  | nil => cases h
  | append_singleton events entry ih =>
    have hearlier : tag ∈ unended events → ∃ span, (.start tag, span) ∈ events ++ [entry] :=
      fun hmem => (ih hmem).imp fun span hspan => List.mem_append_left _ hspan
    obtain ⟨event, span⟩ := entry
    rw [unended_append, List.foldl_cons, List.foldl_nil] at h
    cases event with
    | start started =>
      rcases List.mem_cons.1 h with rfl | h
      · exact ⟨span, List.mem_append_right _ List.mem_cons_self⟩
      · exact hearlier h
    | stop stopped => exact hearlier (List.mem_of_mem_tail h)
    | leaf leaf => exact hearlier h

/-- Nothing in the stream hands its contents on as they are: it starts no element without a node of
its own, and where it ends a cell, the cell stands in a head or a row. -/
structure WithoutSeams (events : List (Event × Span)) : Prop where
  plain : ∀ tag span, (.start tag, span) ∈ events → tag.isTransparent = false
  cells : ∀ before span rest outer, events = before ++ (.stop .tableCell, span) :: rest →
    unended before = .tableCell :: outer → outer.head?.any Tag.isRow = true

theorem WithoutSeams.of_append {events more : List (Event × Span)}
    (h : WithoutSeams (events ++ more)) : WithoutSeams events := by
  refine ⟨fun tag span hmem => h.plain tag span (List.mem_append_left _ hmem), ?_⟩
  rintro before span rest outer rfl
  exact h.cells before span (rest ++ more) outer (by rw [List.append_assoc, List.cons_append])

namespace Builder

section Streams

variable (source : String) (definitions : List Definition) {events : List (Event × Span)}

theorem isOf_pushEach (events : List (Event × Span)) :
    List.Forall₂ Frame.IsOf ((start source definitions).pushEach events).stack (unended events) := by
  induction events using List.reverseRecOn with
  | nil => exact .nil
  | append_singleton events entry ih =>
    rw [pushEach_append, unended_append]
    exact isOf_push ih entry.1 entry.2

/-- A run over a stream without seams keeps the builder settled. -/
theorem settled_pushEach (h : WithoutSeams events) :
    ((start source definitions).pushEach events).Settled := by
  induction events using List.reverseRecOn with
  | nil => exact settled_start source definitions
  | append_singleton events entry ih =>
    have hplain : ∀ tag ∈ unended events, tag.isTransparent = false := by
      intro tag htag
      obtain ⟨span, hmem⟩ := exists_start_of_mem_unended htag
      exact h.of_append.plain tag span hmem
    rw [pushEach_append]
    obtain ⟨event, span⟩ := entry
    refine settled_push (ih h.of_append) (isOf_pushEach source definitions events) hplain event span ?_
    rintro outer rfl hopened
    exact h.cells events span [] outer rfl hopened

/-- The end of a document places no text. -/
theorem settled_finish {b : Builder} (h : b.Settled) {document : Document}
    (hfinish : b.finish = .ok document) : SettledAll document.children := by
  rw [finish] at hfinish
  split at hfinish
  · cases hfinish
    rw [settledAll_reverse, beginBlock_nodes]
    exact Part.settledAll_addTo (settled_nodesBetween _ _ _ _) rfl h.nodes
  · cases hfinish

/-- If a stream starts no element without a node of its own and ends cells in heads and rows only,
then no two texts ever stand next to each other, whichever of its events fail. That holds of each
builder on the way, for its finished nodes and for what has been gathered for each open element, and
of the document, in every row of siblings at whatever depth. So there are no adjacent texts in the
document to put together. -/
theorem texts_apart_of_withoutSeams (h : WithoutSeams events) :
    (∀ before, before <+: events → ((start source definitions).pushEach before).Settled) ∧
    ∀ before document, before <+: events →
      ((start source definitions).pushEach before).finish = .ok document →
      SettledAll document.children ∧ document.merged = document := by
  have hsettled : ∀ before, before <+: events →
      ((start source definitions).pushEach before).Settled := by
    rintro before ⟨rest, rfl⟩
    exact settled_pushEach source definitions h.of_append
  refine ⟨hsettled, fun before document hbefore hfinish => ?_⟩
  have hdocument := settled_finish (hsettled before hbefore) hfinish
  refine ⟨hdocument, ?_⟩
  rw [Document.merged, mergedAll_of_settledAll _ hdocument]

/-- Two texts around a stray end, a strong text that a wrong end throws away between two others, and
the cell of a head. -/
theorem texts_apart_of_withoutSeams_strayEnd :
    let events := [(Event.start .paragraph, Span.mk 0 9), (.leaf (.text "a"), ⟨0, 1⟩),
      (.start .strong, ⟨1, 4⟩), (.leaf (.text "b"), ⟨3, 4⟩), (.stop .emphasis, ⟨1, 4⟩),
      (.leaf (.text "c"), ⟨4, 5⟩), (.stop .paragraph, ⟨0, 9⟩), (.stop .item, ⟨9, 9⟩),
      (.start (.table [.left]), ⟨9, 20⟩), (.start .tableHead, ⟨9, 20⟩),
      (.start .tableCell, ⟨9, 20⟩), (.leaf (.text "d"), ⟨9, 10⟩), (.leaf (.text "e"), ⟨10, 11⟩),
      (.stop .tableCell, ⟨9, 20⟩), (.stop .tableHead, ⟨9, 20⟩), (.stop .table, ⟨9, 20⟩)]
    let document : Document := ⟨[.paragraph [.text "ac"], .table [.left] [[.text "de"]] []]⟩
    WithoutSeams events ∧ ((new "").pushEach events).finish = .ok document ∧
      SettledAll document.children ∧ document.merged = document := by
  intro events document
  have hseams : WithoutSeams events := by
    constructor
    · intro tag span hmem
      simp only [events, List.mem_cons, Prod.mk.injEq, reduceCtorEq, Event.start.injEq, false_and,
        false_or, List.not_mem_nil, or_false] at hmem
      rcases hmem with ⟨rfl, -⟩ | ⟨rfl, -⟩ | ⟨rfl, -⟩ | ⟨rfl, -⟩ | ⟨rfl, -⟩ <;> rfl
    · intro before span rest outer heq hopened
      -- only one of the events ends a cell
      simp only [List.cons_eq_append_iff, List.cons.injEq, Prod.mk.injEq, reduceCtorEq, false_and,
        and_false, Event.stop.injEq, true_and, List.nil_eq, List.append_eq_nil_iff, exists_const,
        or_self, or_false, ↓existsAndEq, false_or, events] at heq
      obtain ⟨rfl, -⟩ := heq
      cases hopened
      rfl
  have hfinish : ((new "").pushEach events).finish = .ok document := rfl
  exact ⟨hseams, hfinish,
    (texts_apart_of_withoutSeams "" [] hseams).2 events document List.prefix_rfl hfinish⟩

/-- An element without a node of its own puts its text next to the text in front of it. -/
example : ((new "").pushEach [(.leaf (.text "a"), ⟨0, 0⟩), (.start .superscript, ⟨0, 0⟩),
    (.leaf (.text "b"), ⟨0, 0⟩), (.stop .superscript, ⟨0, 0⟩)]).nodes =
      [.text "b", .text "a"] := rfl

end Streams

end Builder

end MarkdownHtml
