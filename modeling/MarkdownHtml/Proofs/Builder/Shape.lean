import MarkdownHtml.Proofs.Builder.Refinement
import MarkdownHtml.Proofs.Builder.Runs
import MarkdownHtml.Proofs.Document.Within
import MarkdownHtml.Proofs.Text.Word

/-!
# The nodes that a builder makes

Below its top-level nodes a built document holds what elements and leaves are turned into and
nothing else: no widget, no blank line and no definition, no inline node directly in a list item, no
heading of a level outside 1 to 6, no blank info string or title. `Node.Built` says so of a node and
all nodes inside it. Every event keeps it (`built_push`), also one that fails, whatever the order of
the events; so it holds in every document (`built_ofEvents`), and `shaped_of_finish_pushEach` spells
out what that means.
-/

namespace MarkdownHtml

/-- A node that stands between top-level blocks: a blank line or a definition. -/
def Node.isBetween : Node → Bool
  | .blankLine | .linkReferenceDefinition _ _ _ => true
  | _ => false

/-- What a builder may turn an element or a leaf into, as far as the node itself goes and, for
items, what stands directly in them. HTML nodes are for streams that have HTML. -/
def Node.admissible (html : Bool) : Node → Bool
  | .blankLine | .linkReferenceDefinition _ _ _ | .widget _ _ => false
  | .htmlBlock _ | .rawHtml _ => html
  | .heading level _ => 1 ≤ level && level ≤ 6
  | .codeBlock info _ => info.all (!Text.isBlank ·)
  | .link _ title _ | .image _ title _ => title.all (!Text.isBlank ·)
  | .list _ items => items.all fun blocks => blocks.all (!·.isInline)
  | .listItem blocks => blocks.all (!·.isInline)
  | _ => true

theorem Node.isBetween_of_admissible {node : Node} {html : Bool}
    (h : node.admissible html = true) : node.isBetween = false := by
  cases node with
  | blankLine | linkReferenceDefinition _ _ _ => cases h
  | _ => rfl

theorem Node.inside_of_isBetween {node : Node} (h : node.isBetween = true) : node.inside = [] := by
  cases node with
  | blankLine | linkReferenceDefinition _ _ _ => rw [inside]
  | _ => cases h

/-- The node and all nodes inside it are such as a builder makes. -/
def Node.Built (html : Bool) (node : Node) : Prop :=
  ∀ inner ∈ node :: node.inside, inner.admissible html = true

/-- The kinds of elements that tags open. -/
def ElementKind.admissible : ElementKind → Bool
  | .heading level => 1 ≤ level && level ≤ 6
  | .link _ title | .image _ title => title.all (!Text.isBlank ·)
  | _ => true

section Trees

variable {html : Bool}

theorem Node.built_iff (node : Node) :
    node.Built html ↔
      node.admissible html = true ∧ ∀ inner ∈ node.inside, inner.admissible html = true :=
  List.forall_mem_cons

theorem forall_withinAll_iff (nodes : List Node) :
    (∀ inner ∈ withinAll nodes, inner.admissible html = true) ↔
      ∀ node ∈ nodes, node.Built html := by
  induction nodes with
  | nil => simp
  | cons node rest ih =>
    rw [withinAll, ← List.cons_append, List.forall_mem_append, ih]
    show node.Built html ∧ (∀ other ∈ rest, other.Built html) ↔ _
    rw [List.forall_mem_cons]

theorem forall_withinEach_iff (items : List (List Node)) :
    (∀ inner ∈ withinEach items, inner.admissible html = true) ↔
      ∀ nodes ∈ items, ∀ node ∈ nodes, node.Built html := by
  induction items with
  | nil => simp [withinEach]
  | cons nodes rest ih =>
    rw [withinEach, List.forall_mem_append, ih, forall_withinAll_iff, List.forall_mem_cons]

theorem forall_withinRows_iff (rows : List (List (List Node))) :
    (∀ inner ∈ withinRows rows, inner.admissible html = true) ↔
      ∀ row ∈ rows, ∀ cell ∈ row, ∀ node ∈ cell, node.Built html := by
  induction rows with
  | nil => simp [withinRows]
  | cons row rest ih =>
    rw [withinRows, List.forall_mem_append, ih, forall_withinEach_iff, List.forall_mem_cons]

/-- An item holds blocks only. -/
theorem Node.built_listItem_iff (blocks : List Node) :
    (Node.listItem blocks).Built html ↔
      (∀ node ∈ blocks, node.isInline = false) ∧ ∀ node ∈ blocks, node.Built html := by
  rw [built_iff, inside, forall_withinAll_iff]
  simp [admissible]

theorem Node.built_list_iff (firstNumber : Option UInt64) (items : List (List Node)) :
    (Node.list firstNumber items).Built html ↔
      ∀ blocks ∈ items, (Node.listItem blocks).Built html := by
  simp only [built_listItem_iff, forall_and]
  rw [built_iff, inside, forall_withinEach_iff]
  simp [admissible]

/-- What is inside of top-level nodes is such as a builder makes. -/
theorem admissible_of_mem_inside {nodes : List Node}
    (h : ∀ node ∈ nodes, node.isBetween = true ∨ node.Built html) {top inner : Node}
    (htop : top ∈ nodes) (hinner : inner ∈ top.inside) : inner.admissible html = true := by
  rcases h top htop with hbetween | hbuilt
  · rw [Node.inside_of_isBetween hbetween] at hinner
    cases hinner
  · exact hbuilt inner (List.mem_cons_of_mem _ hinner)

/-- What stands between top-level blocks is found at the top level only. -/
theorem filter_withinAll_of_isBetween {p : Node → Bool}
    (hp : ∀ node, p node = true → node.isBetween = true) {nodes : List Node}
    (h : ∀ node ∈ nodes, node.isBetween = true ∨ node.Built html) :
    (withinAll nodes).filter p = nodes.filter p := by
  induction nodes with
  | nil => rfl
  | cons node rest ih =>
    have hinside : node.inside.filter p = [] := by
      rw [List.filter_eq_nil_iff]
      intro inner hinner hpinner
      have hadmissible := admissible_of_mem_inside h List.mem_cons_self hinner
      have hbetween := hp inner hpinner
      rw [Node.isBetween_of_admissible hadmissible] at hbetween
      cases hbetween
    rw [withinAll, List.filter_cons, List.filter_append, hinside, List.nil_append,
      ih (List.forall_mem_cons.1 h).2, List.filter_cons]

/-- Wrapping the inline nodes of an item leaves blocks only. -/
theorem built_listItem_wrapInlineRuns {nodes : List Node} (h : ∀ node ∈ nodes, node.Built html) :
    (Node.listItem (wrapInlineRuns nodes)).Built html := by
  rw [Node.built_listItem_iff]
  refine ⟨isInline_of_mem_wrapInlineRuns, fun node hnode => ?_⟩
  rcases mem_wrapInlineRuns hnode with ⟨-, hmem⟩ | ⟨run, hrun, rfl⟩
  · exact h node hmem
  · rw [Node.built_iff, Node.inside, forall_withinAll_iff]
    exact ⟨rfl, fun inner hinner => h inner (hrun.subset hinner)⟩

end Trees

/-! ## Parts and what is gathered -/

/-- All that a part hands on is such as a builder makes. -/
def Part.Built (html : Bool) : Part → Prop
  | .text _ => True
  | .html _ => html = true
  | .nodes contents | .cell contents => ∀ node ∈ contents, node.Built html
  | .item blocks => (Node.listItem blocks).Built html
  | .row _ cells => ∀ cell ∈ cells, ∀ node ∈ cell, node.Built html

/-- All that has been gathered for an open element is such as a builder makes. -/
def Content.Built (html : Bool) : Content → Prop
  | .element kind children => kind.admissible = true ∧ ∀ node ∈ children, node.Built html
  | .codeBlock info _ => info.all (!Text.isBlank ·) = true
  | .htmlBlock _ => html = true
  | .list _ items => ∀ blocks ∈ items, (Node.listItem blocks).Built html
  | .table _ header rows =>
    (∀ cell ∈ header, ∀ node ∈ cell, node.Built html) ∧
      ∀ row ∈ rows, ∀ cell ∈ row, ∀ node ∈ cell, node.Built html
  | .row cells => ∀ cell ∈ cells, ∀ node ∈ cell, node.Built html
  | .transparent children => ∀ node ∈ children, node.Built html
  | .discard => True

/-- Whether an event brings HTML into the document. -/
def Event.bringsHtml : Event → Bool
  | .start .htmlBlock | .leaf (.html _) | .leaf (.inlineHtml _) => true
  | _ => false

section Step

variable {html : Bool}

theorem built_text (text : String) : (Node.text text).Built html := by
  rw [Node.built_iff]
  exact ⟨rfl, fun _ hnone => absurd hnone List.not_mem_nil⟩

theorem built_htmlBlock (code : String) (h : html = true) : (Node.htmlBlock code).Built html := by
  rw [Node.built_iff]
  exact ⟨h, fun _ hnone => absurd hnone List.not_mem_nil⟩

/-- A part added to nodes adds nodes such as a builder makes; what else may be among the nodes
stays. -/
theorem Part.forall_mem_addTo {p : Node → Prop} (hbuilt : ∀ node : Node, node.Built html → p node)
    {part : Part} (hpart : part.Built html) {children : List Node} (h : ∀ node ∈ children, p node) :
    ∀ node ∈ part.addTo children, p node := by
  cases part with
  | text more =>
    show ∀ node ∈ Builder.addText more children, p node
    unfold Builder.addText
    split
    · exact List.forall_mem_cons.2 ⟨hbuilt _ (built_text _), (List.forall_mem_cons.1 h).2⟩
    · exact List.forall_mem_cons.2 ⟨hbuilt _ (built_text _), h⟩
  | html line => exact List.forall_mem_cons.2 ⟨hbuilt _ (built_htmlBlock line hpart), h⟩
  | item blocks => exact List.forall_mem_cons.2 ⟨hbuilt _ hpart, h⟩
  | nodes more | cell more =>
    intro node hnode
    rcases List.mem_append.1 hnode with hnode | hnode
    · exact hbuilt node (hpart node (List.mem_reverse.1 hnode))
    · exact h node hnode
  | row isHead cells => exact h

/-- Whatever a part is added to keeps its shape. -/
theorem Content.built_receive {content : Content} {part : Part} (h : content.Built html)
    (hpart : part.Built html) : (content.receive part).Built html := by
  have hadd : ∀ children : List Node, (∀ node ∈ children, node.Built html) →
      ∀ node ∈ part.addTo children, node.Built html :=
    fun children hchildren => Part.forall_mem_addTo (fun _ hnode => hnode) hpart hchildren
  cases content with
  | element kind children => exact ⟨h.1, hadd children h.2⟩
  | transparent children => exact hadd children h
  | codeBlock info code => cases part <;> exact h
  | htmlBlock code => cases part <;> exact h
  | list firstNumber items =>
    cases part with
    | item blocks => exact List.forall_mem_cons.2 ⟨hpart, h⟩
    | text _ | html _ | nodes _ | cell _ | row _ _ => exact h
  | table alignments header rows =>
    cases part with
    | row isHead cells =>
      cases isHead with
      | true => exact ⟨hpart, h.2⟩
      | false => exact ⟨h.1, List.forall_mem_cons.2 ⟨hpart, h.2⟩⟩
    | text _ | html _ | nodes _ | item _ | cell _ => exact h
  | row cells =>
    cases part with
    | cell contents => exact List.forall_mem_cons.2 ⟨hpart, h⟩
    | text _ | html _ | nodes _ | item _ | row _ _ => exact h
  | discard => cases part <;> trivial

/-- A closed element hands on what a builder may make. -/
theorem Content.built_part {content : Content} (h : content.Built html) (tag : EndTag) :
    (content.part tag).Built html := by
  -- a single node, from its own shape and that of what it holds
  have hnode : ∀ node : Node, node.admissible html = true →
      (∀ inner ∈ node.inside, inner.admissible html = true) →
      (Part.nodes [node]).Built html := by
    intro node hself hinside inner hinner
    rw [List.mem_singleton] at hinner
    subst hinner
    exact (Node.built_iff inner).2 ⟨hself, hinside⟩
  cases content with
  | element kind children =>
    obtain ⟨hkind, hchildren⟩ := h
    have hreverse : ∀ node ∈ children.reverse, node.Built html :=
      fun node hmem => hchildren node (List.mem_reverse.1 hmem)
    have hinside : ∀ inner ∈ withinAll children.reverse, inner.admissible html = true :=
      (forall_withinAll_iff _).2 hreverse
    cases kind with
    | item => exact built_listItem_wrapInlineRuns hreverse
    | cell => exact hreverse
    | autoLink destination =>
      exact hnode _ rfl fun _ hnone => absurd hnone List.not_mem_nil
    | heading level => exact hnode _ hkind hinside
    | link destination title => exact hnode _ hkind hinside
    | image source title => exact hnode _ hkind hinside
    | paragraph | blockQuote | emphasis _ | strikethrough => exact hnode _ rfl hinside
  | codeBlock info code => exact hnode _ h fun _ hnone => absurd hnone List.not_mem_nil
  | htmlBlock code => exact hnode _ h fun _ hnone => absurd hnone List.not_mem_nil
  | list firstNumber items =>
    intro node hmem
    rw [List.mem_singleton] at hmem
    subst hmem
    rw [Node.built_list_iff]
    exact fun blocks hblocks => h blocks (List.mem_reverse.1 hblocks)
  | table alignments header rows =>
    refine hnode _ rfl ?_
    rw [Node.inside, List.forall_mem_append, forall_withinEach_iff, forall_withinRows_iff]
    exact ⟨h.1, fun row hrow => h.2 row (List.mem_reverse.1 hrow)⟩
  | row cells => exact fun cell hcell => h cell (List.mem_reverse.1 hcell)
  | transparent children => exact fun node hmem => h node (List.mem_reverse.1 hmem)
  | discard => exact fun _ hnone => absurd hnone List.not_mem_nil

theorem all_nonBlank? (text : String) : (Text.nonBlank? text).all (!Text.isBlank ·) = true := by
  rcases Text.nonBlank?_cases text with ⟨hvisible, htext⟩ | ⟨-, htext⟩
  · rw [htext, Option.all_some, Text.isBlank_eq_false_iff.2 hvisible]
    rfl
  · rw [htext]
    rfl

/-- What a tag opens has the right shape before anything is gathered. -/
theorem Content.built_ofTag (tag : Tag)
    (hhtml : (Event.start tag).bringsHtml = true → html = true) :
    (Content.ofTag tag).Built html := by
  have hnone : ∀ node ∈ ([] : List Node), node.Built html := List.forall_mem_nil _
  cases tag with
  | heading level => exact ⟨by cases level <;> decide, hnone⟩
  | codeBlock kind =>
    cases kind with
    | indented => rfl
    | fenced info => exact all_nonBlank? info
  | link kind destination title =>
    cases kind with
    | bracketed => exact ⟨all_nonBlank? title, hnone⟩
    | autolink | email => exact ⟨rfl, hnone⟩
  | image source title => exact ⟨all_nonBlank? title, hnone⟩
  | htmlBlock => exact hhtml rfl
  | list firstNumber => exact List.forall_mem_nil _
  | table alignments => exact ⟨List.forall_mem_nil _, List.forall_mem_nil _⟩
  | tableHead | tableRow => exact List.forall_mem_nil _
  | metadataBlock kind => trivial
  | paragraph | blockQuote _ | item | tableCell | emphasis | strong | strikethrough =>
    exact ⟨rfl, hnone⟩
  | footnoteDefinition | definitionList | definitionListTitle | definitionListDefinition
  | superscript | subscript => exact hnone

theorem Leaf.built_part (leaf : Leaf) (hhtml : (Event.leaf leaf).bringsHtml = true → html = true) :
    leaf.part.Built html := by
  have hnode : ∀ node : Node, node.admissible html = true → node.inside = [] →
      (Part.nodes [node]).Built html := by
    intro node hself hinside inner hinner
    rw [List.mem_singleton] at hinner
    subst hinner
    rw [Node.built_iff, hinside]
    exact ⟨hself, List.forall_mem_nil _⟩
  cases leaf with
  | text text => trivial
  | html line => exact hhtml rfl
  | inlineHtml content => exact hnode _ (hhtml rfl) rfl
  | code _ | softBreak | hardBreak | rule => exact hnode _ rfl rfl
  | inlineMath _ | displayMath _ | footnoteReference _ | taskMarker _ => exact List.forall_mem_nil _

end Step

/-! ## Trees -/

/-- An element keeps its shape whatever parts it takes. -/
theorem Content.built_foldl_receive {html : Bool} {content : Content} (h : content.Built html)
    {parts : List Part} (hparts : ∀ part ∈ parts, part.Built html) :
    (parts.foldl receive content).Built html := by
  induction parts generalizing content with
  | nil => exact h
  | cons part rest ih =>
    obtain ⟨hpart, hrest⟩ := List.forall_mem_cons.1 hparts
    exact ih (built_receive h hpart) hrest

mutual

/-- A tree hands on what a builder may make. -/
theorem EventTree.built_part : (tree : EventTree) → tree.part.Built true
  | .leaf leaf _ => leaf.built_part fun _ => rfl
  | .element tag _ children _ => by
    have htag : (Content.ofTag tag).Built true := Content.built_ofTag tag fun _ => rfl
    rw [EventTree.part, ← Content.part_foldl_receive]
    exact Content.built_part (Content.built_foldl_receive htag (built_partsOf children)) tag.toEnd

theorem built_partsOf : (trees : List EventTree) → ∀ part ∈ partsOf trees, part.Built true
  | [] => List.forall_mem_nil _
  | tree :: rest => List.forall_mem_cons.2 ⟨tree.built_part, built_partsOf rest⟩

end

/-! ## Builders -/

namespace Builder

/-- All that a builder holds is such as a builder makes; at the top level there are also blank lines
and definitions. -/
structure Built (html : Bool) (b : Builder) : Prop where
  nodes : ∀ node ∈ b.nodes, node.isBetween = true ∨ node.Built html
  stack : ∀ frame ∈ b.stack, frame.content.Built html

variable {html : Bool} {b : Builder}

theorem built_start (source : String) (definitions : List Definition) :
    (start source definitions).Built html :=
  ⟨List.forall_mem_nil _, List.forall_mem_nil _⟩

theorem built_enter (h : b.Built html) {frame : Frame} (hframe : frame.content.Built html) :
    (b.enter frame).Built html :=
  ⟨h.nodes, List.forall_mem_cons.2 ⟨hframe, h.stack⟩⟩

theorem built_receive (h : b.Built html) {part : Part} (hpart : part.Built html) :
    (b.receive part).Built html := by
  obtain ⟨source, stack, nodes, definitions, lastEnd⟩ := b
  rcases stack with _ | ⟨⟨closing, content⟩, rest⟩
  · exact ⟨Part.forall_mem_addTo (fun _ hnode => .inr hnode) hpart h.nodes, h.stack⟩
  · obtain ⟨hcontent, hrest⟩ := List.forall_mem_cons.1 h.stack
    exact ⟨h.nodes, List.forall_mem_cons.2 ⟨Content.built_receive hcontent hpart, hrest⟩⟩

theorem built_beginBlock (h : b.Built html) (offset : Nat) : (b.beginBlock offset).Built html := by
  refine ⟨?_, h.stack⟩
  intro node hnode
  rw [beginBlock, List.mem_append, List.mem_append, List.mem_reverse] at hnode
  rcases hnode with hblank | hplaced | hnode
  · rw [List.eq_of_mem_replicate hblank]
    exact .inl rfl
  · obtain ⟨d, -, rfl⟩ := List.mem_map.1 hplaced
    exact .inl rfl
  · exact h.nodes node hnode

theorem built_prepare (h : b.Built html) (offset : Nat) : (b.prepare offset).Built html := by
  unfold prepare
  split
  · exact built_beginBlock h offset
  · exact h

theorem built_noteEnd (h : b.Built html) (offset : Nat) : (b.noteEnd offset).Built html := by
  unfold noteEnd
  split
  · exact ⟨h.nodes, h.stack⟩
  · exact h

/-- Every event keeps the shape of what a builder holds, also one that fails. -/
theorem built_push (h : b.Built html) (event : Event) (span : Span)
    (hhtml : event.bringsHtml = true → html = true) : (b.push event span).1.Built html := by
  cases event with
  | start tag =>
    rw [push_start]
    exact built_enter (built_prepare h _) (Content.built_ofTag tag hhtml)
  | leaf leaf =>
    rw [push_leaf]
    exact built_noteEnd (built_receive (built_prepare h _) (leaf.built_part hhtml)) _
  | stop tag =>
    rcases hstack : b.stack with _ | ⟨⟨closing, content⟩, rest⟩
    · rw [push_stop_nil b hstack]
      exact h
    · have hframes := h.stack
      rw [hstack] at hframes
      obtain ⟨hcontent, hrest⟩ := List.forall_mem_cons.1 hframes
      have houter : Built html { b with stack := rest } := ⟨h.nodes, hrest⟩
      rw [eq_enter_of_stack b hstack, push_stop_enter]
      split
      · exact built_noteEnd (built_receive houter (Content.built_part hcontent tag)) _
      · exact houter

/-- A run of events keeps the shape of what a builder holds. -/
theorem built_pushAll (h : b.Built html) {events : List (Event × Span)}
    (hhtml : ∀ entry ∈ events, entry.1.bringsHtml = true → html = true) {next : Builder}
    (hrun : b.pushAll events = .ok next) : next.Built html := by
  induction events generalizing b with
  | nil =>
    cases hrun
    exact h
  | cons entry rest ih =>
    obtain ⟨event, span⟩ := entry
    obtain ⟨hevent, hrest⟩ := List.forall_mem_cons.1 hhtml
    have hstep := built_push h event span hevent
    rw [pushAll] at hrun
    rcases hpush : b.push event span with ⟨after, _ | error⟩
    · rw [hpush] at hrun hstep
      exact ih hstep hrest hrun
    · rw [hpush] at hrun
      cases hrun

/-- So does a run that goes on after events that fail. -/
theorem built_pushEach (h : b.Built html) {events : List (Event × Span)}
    (hhtml : ∀ entry ∈ events, entry.1.bringsHtml = true → html = true) :
    (b.pushEach events).Built html := by
  induction events generalizing b with
  | nil => exact h
  | cons entry rest ih =>
    obtain ⟨hevent, hrest⟩ := List.forall_mem_cons.1 hhtml
    exact ih (built_push h entry.1 entry.2 hevent) hrest

/-- The top-level nodes of a finished document are blank lines, definitions, and what a builder
makes. -/
theorem built_finish (h : b.Built html) {document : Document} (hfinish : b.finish = .ok document) :
    ∀ node ∈ document.children, node.isBetween = true ∨ node.Built html := by
  unfold finish at hfinish
  split at hfinish
  · cases hfinish
    intro node hnode
    exact (built_beginBlock h _).nodes node (List.mem_reverse.1 hnode)
  · cases hfinish

/-- What a document of a stream holds is what a builder makes. -/
theorem built_ofEvents {source : String} {definitions : List Definition}
    {events : List (Event × Span)} {document : Document}
    (hhtml : ∀ entry ∈ events, entry.1.bringsHtml = true → html = true)
    (h : Document.ofEvents source definitions events = .ok document) :
    ∀ node ∈ document.children, node.isBetween = true ∨ node.Built html := by
  obtain ⟨b, hrun, hfinish⟩ := ofEvents_eq_ok_iff.1 h
  exact built_finish (built_pushAll (built_start source _) hhtml hrun) hfinish

end Builder

/-! ## Documents -/

/-- What holds of every node of a built document, at whatever depth it stands. -/
structure Node.Shaped (hasHtml : Prop) (node : Node) : Prop where
  /-- An item that stands alone holds blocks only. -/
  listItem : ∀ blocks, node = .listItem blocks → ∀ inner ∈ blocks, inner.isInline = false
  /-- So do the items of a list. -/
  list : ∀ firstNumber items, node = .list firstNumber items →
    ∀ blocks ∈ items, ∀ inner ∈ blocks, inner.isInline = false
  heading : ∀ level children, node = .heading level children → 1 ≤ level ∧ level ≤ 6
  widget : ∀ handle w, node ≠ .widget handle w
  info : ∀ info code, node = .codeBlock (some info) code → Text.HasVisible info
  linkTitle : ∀ destination title children, node = .link destination (some title) children →
    Text.HasVisible title
  imageTitle : ∀ source title description, node = .image source (some title) description →
    Text.HasVisible title
  htmlBlock : ∀ code, node = .htmlBlock code → hasHtml
  rawHtml : ∀ html, node = .rawHtml html → hasHtml

theorem Node.shaped_of_isBetween {node : Node} (h : node.isBetween = true) (hasHtml : Prop) :
    node.Shaped hasHtml := by
  cases node with
  | blankLine | linkReferenceDefinition _ _ _ => constructor <;> nofun
  | _ => cases h

theorem Node.shaped_of_admissible {node : Node} {html : Bool} (h : node.admissible html = true) :
    node.Shaped (html = true) := by
  constructor
  case listItem =>
    rintro blocks rfl inner hinner
    simpa using List.all_eq_true.1 h inner hinner
  case list =>
    rintro firstNumber items rfl blocks hblocks inner hinner
    simpa using List.all_eq_true.1 (List.all_eq_true.1 h blocks hblocks) inner hinner
  case heading =>
    rintro level children rfl
    simpa [admissible] using h
  case widget =>
    rintro handle w rfl
    cases h
  case info =>
    rintro info code rfl
    exact Text.isBlank_eq_false_iff.1 (by simpa [admissible] using h)
  case linkTitle =>
    rintro destination title children rfl
    exact Text.isBlank_eq_false_iff.1 (by simpa [admissible] using h)
  case imageTitle =>
    rintro source title description rfl
    exact Text.isBlank_eq_false_iff.1 (by simpa [admissible] using h)
  case htmlBlock =>
    rintro code rfl
    exact h
  case rawHtml =>
    rintro html rfl
    exact h

namespace Builder

/-- Every document has the right shape at every depth, whatever the events were and whichever of
them failed: items hold blocks only, headings have levels 1 to 6, no node renders itself, no info
string and no title is blank, and there is HTML only if the events brought some. Blank lines and
definitions stand at the top level only. -/
theorem shaped_of_finish_pushEach {source : String} {definitions : List Definition}
    {events : List (Event × Span)} {document : Document}
    (h : ((start source definitions).pushEach events).finish = .ok document) :
    (∀ node ∈ withinAll document.children,
      node.Shaped (∃ entry ∈ events, entry.1.bringsHtml = true)) ∧
    ∀ top ∈ document.children, ∀ node ∈ top.inside, node.isBetween = false := by
  let html := events.any (·.1.bringsHtml)
  have hhtml : ∀ entry ∈ events, entry.1.bringsHtml = true → html = true :=
    fun entry hentry hbrings => List.any_eq_true.2 ⟨entry, hentry, hbrings⟩
  have htop := built_finish (built_pushEach (built_start source definitions) hhtml) h
  constructor
  · intro node hnode
    rw [← List.any_eq_true]
    obtain ⟨top, hmem, rfl | hnode⟩ := mem_withinAll_iff.1 hnode
    · rcases htop node hmem with hbetween | hbuilt
      · exact Node.shaped_of_isBetween hbetween _
      · exact Node.shaped_of_admissible (hbuilt node List.mem_cons_self)
    · exact Node.shaped_of_admissible (admissible_of_mem_inside htop hmem hnode)
  · intro top hmem node hnode
    exact Node.isBetween_of_admissible (admissible_of_mem_inside htop hmem hnode)

/-- A stray end, an item that stands alone, HTML, and a paragraph that a wrong end throws away. -/
theorem shaped_of_finish_pushEach_strayItem :
    let events := [(Event.stop .table, Span.mk 0 0), (.start .item, ⟨1, 2⟩),
      (.leaf (.text "a"), ⟨1, 2⟩), (.leaf .rule, ⟨1, 2⟩), (.stop .item, ⟨1, 2⟩),
      (.leaf (.html "<br>"), ⟨2, 3⟩), (.start .paragraph, ⟨3, 4⟩), (.leaf .softBreak, ⟨3, 4⟩),
      (.stop .strong, ⟨3, 4⟩)]
    let document : Document := ⟨[.blankLine, .listItem [.paragraph [.text "a"], .thematicBreak],
      .htmlBlock "<br>"]⟩
    ((start "\na" []).pushEach events).finish = .ok document ∧
      (∀ node ∈ withinAll document.children,
        node.Shaped (∃ entry ∈ events, entry.1.bringsHtml = true)) ∧
      ∀ top ∈ document.children, ∀ node ∈ top.inside, node.isBetween = false := by
  intro events document
  have hrun : (start "\na" []).pushEach events = ⟨"\na", [], [.htmlBlock "<br>",
      .listItem [.paragraph [.text "a"], .thematicBreak], .blankLine], [], 3⟩ := rfl
  have hfinish : ((start "\na" []).pushEach events).finish = .ok document := by
    rw [hrun]
    rfl
  exact ⟨hfinish, shaped_of_finish_pushEach hfinish⟩

end Builder

end MarkdownHtml
