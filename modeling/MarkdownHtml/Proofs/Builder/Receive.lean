import MarkdownHtml.Proofs.Builder.Forest

/-!
# What one event does to a builder

Everything that an event adds goes to one place: the innermost open element, or the top-level nodes
if no element is open. `Builder.receive` puts a `Part` there. The operations of a builder are
`receive` of one part each (`pushLeaf_eq_receive`, `close_eq_receive`), so `push_leaf`,
`push_start`, `push_stop_enter` and `push_stop_nil` say all that an event can do, and what a builder
holds below its innermost open element stays as it is (`receive_enter`).
-/

namespace MarkdownHtml

/-- Adds a part to nodes that are kept newest first. -/
def Part.addTo (part : Part) (children : List Node) : List Node :=
  match part with
  | .text more => Builder.addText more children
  | .html line => .htmlBlock line :: children
  | .nodes more => more.reverse ++ children
  | .item blocks => .listItem blocks :: children
  | .cell contents => contents.reverse ++ children
  | .row _ _ => children

/-- Adds a part to what has been gathered for an open element, which drops a part that it has no
place for. -/
def Content.receive (content : Content) (part : Part) : Content :=
  match content, part with
  | .element kind children, part => .element kind (part.addTo children)
  | .transparent children, part => .transparent (part.addTo children)
  | .codeBlock info code, .text more => .codeBlock info (code ++ more)
  | .htmlBlock code, .text more | .htmlBlock code, .html more => .htmlBlock (code ++ more)
  | .list firstNumber items, .item blocks => .list firstNumber (blocks :: items)
  | .table alignments _ rows, .row true cells => .table alignments cells rows
  | .table alignments header rows, .row false cells => .table alignments header (cells :: rows)
  | .row cells, .cell contents => .row (contents :: cells)
  | content, _ => content

/-- What a closed element hands on, given its end tag and what has been gathered for it. -/
def Content.part (tag : EndTag) : Content → Part
  | .element .item children => .item (wrapInlineRuns children.reverse)
  | .element .cell children => .cell children.reverse
  | .element .paragraph children => .nodes [.paragraph children.reverse]
  | .element (.heading level) children => .nodes [.heading level children.reverse]
  | .element .blockQuote children => .nodes [.blockQuote children.reverse]
  | .element (.emphasis strong) children => .nodes [.emphasis strong children.reverse]
  | .element .strikethrough children => .nodes [.strikethrough children.reverse]
  | .element (.link destination title) children =>
    .nodes [.link destination title children.reverse]
  | .element (.autoLink destination) children =>
    .nodes [.autoLink destination (plainTextAll children.reverse)]
  | .element (.image source title) children => .nodes [.image source title children.reverse]
  | .codeBlock info code => .nodes [.codeBlock info code]
  | .htmlBlock code => .nodes [.htmlBlock code]
  | .list firstNumber items => .nodes [.list firstNumber items.reverse]
  | .table alignments header rows => .nodes [.table alignments header rows.reverse]
  | .row cells => .row (tag = .tableHead) cells.reverse
  | .transparent children => .nodes children.reverse
  | .discard => .nodes []

namespace Builder

/-- The builder with one more element open. -/
def enter (b : Builder) (frame : Frame) : Builder := { b with stack := frame :: b.stack }

/-- Adds a part to the innermost open element, or to the top-level nodes. -/
def receive (b : Builder) (part : Part) : Builder :=
  match b.stack with
  | [] => { b with nodes := part.addTo b.nodes }
  | ⟨closing, content⟩ :: rest => { b with stack := ⟨closing, content.receive part⟩ :: rest }

/-- The end tags of the open elements, innermost first. -/
def openTags (b : Builder) : List EndTag := b.stack.map Frame.closing

variable (b : Builder)

/-! ## An open element shields what is below it -/

/-- A builder with an open element is some builder that one element has been added to. -/
theorem eq_enter_of_stack {frame : Frame} {rest : List Frame} (h : b.stack = frame :: rest) :
    b = enter { b with stack := rest } frame := by
  cases b
  simp only at h
  rw [h, enter]

@[simp] theorem receive_enter (closing : EndTag) (content : Content) (part : Part) :
    (b.enter ⟨closing, content⟩).receive part = b.enter ⟨closing, content.receive part⟩ := rfl

@[simp] theorem prepare_enter (frame : Frame) (offset : Nat) :
    (b.enter frame).prepare offset = b.enter frame := rfl

@[simp] theorem noteEnd_enter (frame : Frame) (offset : Nat) :
    (b.enter frame).noteEnd offset = b.enter frame := rfl

@[simp] theorem openTags_enter (frame : Frame) :
    (b.enter frame).openTags = frame.closing :: b.openTags := rfl

/-- A part changes what is gathered, and not which elements are open. -/
@[simp] theorem openTags_receive (part : Part) : (b.receive part).openTags = b.openTags := by
  unfold receive openTags
  split
  · rename_i h
    rw [h]
  · rename_i h
    rw [h]
    rfl

@[simp] theorem openTags_prepare (offset : Nat) : (b.prepare offset).openTags = b.openTags := by
  unfold prepare
  split <;> rfl

@[simp] theorem openTags_noteEnd (offset : Nat) : (b.noteEnd offset).openTags = b.openTags := by
  unfold noteEnd
  split <;> rfl

/-! ## Every operation is the receipt of a part -/

private theorem receive_nodes_cons (node : Node) (rest : List Node) :
    b.receive (.nodes (node :: rest)) = (b.receive (.nodes [node])).receive (.nodes rest) := by
  obtain ⟨source, stack, nodes, definitions, lastEnd⟩ := b
  rcases stack with _ | ⟨⟨closing, content⟩, rest⟩
  · simp [receive, Part.addTo]
  · cases content <;> simp [receive, Content.receive, Part.addTo]

/-- No nodes change nothing. -/
@[simp] theorem receive_nodes_nil : b.receive (.nodes []) = b := by
  obtain ⟨source, stack, nodes, definitions, lastEnd⟩ := b
  rcases stack with _ | ⟨⟨closing, content⟩, rest⟩
  · rfl
  · cases content <;> rfl

theorem pushNode_eq_receive (node : Node) : b.pushNode node = b.receive (.nodes [node]) := by
  obtain ⟨source, stack, nodes, definitions, lastEnd⟩ := b
  rcases stack with _ | ⟨⟨closing, content⟩, rest⟩
  · rfl
  · cases content <;> rfl

theorem pushNodes_eq_receive (nodes : List Node) :
    b.pushNodes nodes = b.receive (.nodes nodes) := by
  induction nodes generalizing b with
  | nil => exact (receive_nodes_nil b).symm
  | cons node rest ih =>
    rw [receive_nodes_cons, ← ih, ← pushNode_eq_receive]
    rfl

theorem pushText_eq_receive (text : String) : b.pushText text = b.receive (.text text) := by
  obtain ⟨source, stack, nodes, definitions, lastEnd⟩ := b
  rcases stack with _ | ⟨⟨closing, content⟩, rest⟩
  · rfl
  · cases content <;> rfl

theorem pushHtml_eq_receive (html : String) : b.pushHtml html = b.receive (.html html) := by
  obtain ⟨source, stack, nodes, definitions, lastEnd⟩ := b
  rcases stack with _ | ⟨⟨closing, content⟩, rest⟩
  · rfl
  · cases content <;> rfl

theorem closeItem_eq_receive (children : List Node) :
    b.closeItem children = b.receive (.item (wrapInlineRuns children)) := by
  obtain ⟨source, stack, nodes, definitions, lastEnd⟩ := b
  rcases stack with _ | ⟨⟨closing, content⟩, rest⟩
  · rfl
  · cases content <;> rfl

theorem closeCell_eq_receive (children : List Node) :
    b.closeCell children = b.receive (.cell children) := by
  -- outside of a row the cell's contents are pushed one by one
  have hnodes := pushNodes_eq_receive b children
  obtain ⟨source, stack, nodes, definitions, lastEnd⟩ := b
  rcases stack with _ | ⟨⟨closing, content⟩, rest⟩
  · exact hnodes
  · cases content <;> first | exact hnodes | rfl

theorem closeRow_eq_receive (isHead : Bool) (cells : List (List Node)) :
    b.closeRow isHead cells = b.receive (.row isHead cells) := by
  obtain ⟨source, stack, nodes, definitions, lastEnd⟩ := b
  rcases stack with _ | ⟨⟨closing, content⟩, rest⟩
  · rfl
  · cases content <;> cases isHead <;> rfl

/-- A leaf event adds the leaf's part. -/
theorem pushLeaf_eq_receive (leaf : Leaf) : b.pushLeaf leaf = b.receive leaf.part := by
  cases leaf with
  | text text => exact pushText_eq_receive b text
  | html html => exact pushHtml_eq_receive b html
  | code _ | inlineHtml _ | softBreak | hardBreak | rule => exact pushNode_eq_receive b _
  | inlineMath _ | displayMath _ | footnoteReference _ | taskMarker _ =>
    exact (receive_nodes_nil b).symm

/-- A closed element adds what it hands on. -/
theorem close_eq_receive (tag : EndTag) (content : Content) :
    b.close tag content = b.receive (content.part tag) := by
  cases content with
  | element kind children =>
    cases kind with
    | item => exact closeItem_eq_receive b _
    | cell => exact closeCell_eq_receive b _
    | paragraph | heading _ | blockQuote | emphasis _ | strikethrough | link _ _ | autoLink _
    | image _ _ => exact pushNode_eq_receive b _
  | codeBlock _ _ | htmlBlock _ | list _ _ | table _ _ _ => exact pushNode_eq_receive b _
  | row cells => exact closeRow_eq_receive b _ _
  | transparent children => exact pushNodes_eq_receive b _
  | discard => exact (receive_nodes_nil b).symm

/-! ## One event -/

/-- A leaf event never fails. -/
theorem push_leaf (leaf : Leaf) (span : Span) :
    b.push (.leaf leaf) span =
      (((b.prepare span.start).receive leaf.part).noteEnd span.stop, none) := by
  rw [push, pushLeaf_eq_receive]

/-- A start event never fails, and opens an element. -/
theorem push_start (tag : Tag) (span : Span) :
    b.push (.start tag) span = ((b.prepare span.start).enter (Frame.ofTag tag), none) := rfl

/-- An end event while nothing is open changes nothing. -/
theorem push_stop_nil (h : b.stack = []) (tag : EndTag) (span : Span) :
    b.push (.stop tag) span = (b, some (.unexpectedEnd tag span.start)) := by
  rw [push, h]

/-- An end event takes the innermost open element away; if it fails, with all that was gathered for
it. -/
theorem push_stop_enter (closing tag : EndTag) (content : Content) (span : Span) :
    (b.enter ⟨closing, content⟩).push (.stop tag) span =
      if closing = tag then ((b.receive (content.part tag)).noteEnd span.stop, none)
      else (b, some (.mismatchedEnd closing tag span.start)) := by
  rw [← close_eq_receive]
  rfl

/-! ## A run of events -/

/-- Events may be taken in two goes. -/
theorem pushAll_append (first second : List (Event × Span)) :
    b.pushAll (first ++ second) = (b.pushAll first).bind fun next => next.pushAll second := by
  induction first generalizing b with
  | nil => rfl
  | cons entry rest ih =>
    obtain ⟨event, span⟩ := entry
    simp only [List.cons_append, pushAll]
    rcases b.push event span with ⟨next, _ | error⟩
    · exact ih next
    · rfl

/-- Takes events one after the other, also those behind one that fails. -/
def pushEach (events : List (Event × Span)) : Builder :=
  events.foldl (fun b entry => (b.push entry.1 entry.2).1) b

theorem pushEach_append (first second : List (Event × Span)) :
    b.pushEach (first ++ second) = (b.pushEach first).pushEach second :=
  List.foldl_append

theorem pushEach_cons (entry : Event × Span) (rest : List (Event × Span)) :
    b.pushEach (entry :: rest) = (b.push entry.1 entry.2).1.pushEach rest := rfl

/-- The document of a stream is what a builder finishes with that has taken the whole stream. -/
theorem ofEvents_eq_ok_iff {source : String} {definitions : List Definition}
    {events : List (Event × Span)} {document : Document} :
    Document.ofEvents source definitions events = .ok document ↔
      ∃ b, (start source (definitions.mergeSort fun a b => a.start ≤ b.start)).pushAll events =
        .ok b ∧ b.finish = .ok document := by
  show Except.bind (pushAll _ events) finish = .ok document ↔ _
  cases (start source (definitions.mergeSort fun a b => a.start ≤ b.start)).pushAll events with
  | error error => simp [Except.bind]
  | ok b => simp [Except.bind]

end Builder

end MarkdownHtml
