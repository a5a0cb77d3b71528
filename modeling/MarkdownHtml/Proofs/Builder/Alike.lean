import Mathlib.Data.List.Forall2
import MarkdownHtml.Proofs.Builder.Flow
import MarkdownHtml.Proofs.Builder.Refinement

/-!
# Builders that differ in how texts are cut

Two builders are *alike* if they agree in everything but how the texts that they hold are cut. An
event does the same to both (`alike_push`): it fails for both or for neither, and leaves them alike.
So alike builders finish with documents that are equal once adjacent texts are put together
(`alike_pushAll`, `alike_finish`).

What an open element has gathered is compared when it is put in order, since texts join from left to
right. Items, cells and rows never join, so there the order does not matter.
-/

namespace MarkdownHtml

/-! ## Parts -/

/-- Parts that differ at most in how texts inside them are cut. -/
inductive Part.Alike : Part → Part → Prop
  | text (text : String) : Alike (.text text) (.text text)
  | html (line : String) : Alike (.html line) (.html line)
  | nodes {first second : List Node} (h : mergedAll first = mergedAll second) :
    Alike (.nodes first) (.nodes second)
  | item {first second : List Node} (h : mergedAll first = mergedAll second) :
    Alike (.item first) (.item second)
  | cell {first second : List Node} (h : mergedAll first = mergedAll second) :
    Alike (.cell first) (.cell second)
  | row (isHead : Bool) {first second : List (List Node)}
    (h : mergedEach first = mergedEach second) : Alike (.row isHead first) (.row isHead second)

namespace Part

theorem Alike.refl (part : Part) : part.Alike part := by
  cases part with
  | text more => exact .text more
  | html line => exact .html line
  | nodes more => exact .nodes rfl
  | item blocks => exact .item rfl
  | cell contents => exact .cell rfl
  | row isHead cells => exact .row isHead rfl

theorem Alike.mergedAll_alone {first second : Part} (h : first.Alike second) :
    mergedAll first.alone = mergedAll second.alone := by
  cases h with
  | text more => rfl
  | html line => rfl
  | nodes h => exact h
  | item h =>
    show mergedAll [.listItem _] = mergedAll [.listItem _]
    rw [mergedAll_cons_of_not_isText rfl, mergedAll_cons_of_not_isText rfl, Node.merged,
      Node.merged, h]
  | cell h => exact h
  | row isHead h => rfl

/-- Alike parts are added to alike nodes. -/
theorem Alike.mergedAll_addTo {part part' : Part} (hpart : part.Alike part')
    {first second : List Node} (h : mergedAll first.reverse = mergedAll second.reverse) :
    mergedAll (part.addTo first).reverse = mergedAll (part'.addTo second).reverse := by
  rw [reverse_addTo, reverse_addTo, mergedAll_appendTo, mergedAll_appendTo]
  exact mergedAll_append_congr h hpart.mergedAll_alone

end Part

/-! ## What has been gathered -/

/-- Open elements that have gathered the same, up to how texts are cut. -/
inductive Content.Alike : Content → Content → Prop
  | element (kind : ElementKind) {first second : List Node}
    (h : mergedAll first.reverse = mergedAll second.reverse) :
    Alike (.element kind first) (.element kind second)
  | transparent {first second : List Node}
    (h : mergedAll first.reverse = mergedAll second.reverse) :
    Alike (.transparent first) (.transparent second)
  | codeBlock (info : Option String) (code : String) :
    Alike (.codeBlock info code) (.codeBlock info code)
  | htmlBlock (code : String) : Alike (.htmlBlock code) (.htmlBlock code)
  | list (firstNumber : Option UInt64) {first second : List (List Node)}
    (h : mergedEach first = mergedEach second) :
    Alike (.list firstNumber first) (.list firstNumber second)
  | table (alignments : List Alignment) {header header' : List (List Node)}
    {rows rows' : List (List (List Node))} (hheader : mergedEach header = mergedEach header')
    (hrows : mergedRows rows = mergedRows rows') :
    Alike (.table alignments header rows) (.table alignments header' rows')
  | row {first second : List (List Node)} (h : mergedEach first = mergedEach second) :
    Alike (.row first) (.row second)
  | discard : Alike .discard .discard

namespace Content

theorem Alike.refl (content : Content) : content.Alike content := by
  cases content with
  | element kind children => exact .element kind rfl
  | transparent children => exact .transparent rfl
  | codeBlock info code => exact .codeBlock info code
  | htmlBlock code => exact .htmlBlock code
  | list firstNumber items => exact .list firstNumber rfl
  | table alignments header rows => exact .table alignments rfl rfl
  | row cells => exact .row rfl
  | discard => exact .discard

/-- Alike elements take alike parts, and stay alike. -/
theorem alike_receive {first second : Content} (h : first.Alike second) {part part' : Part}
    (hpart : part.Alike part') : (first.receive part).Alike (second.receive part') := by
  cases h with
  | element kind h => exact .element kind (hpart.mergedAll_addTo h)
  | transparent h => exact .transparent (hpart.mergedAll_addTo h)
  | codeBlock info code => cases hpart <;> exact .codeBlock info _
  | htmlBlock code => cases hpart <;> exact .htmlBlock _
  | list firstNumber h =>
    cases hpart with
    | item hblocks =>
      refine .list firstNumber ?_
      rw [mergedEach, mergedEach, hblocks, h]
    | text _ | html _ | nodes _ | cell _ | row _ _ => exact .list firstNumber h
  | table alignments hheader hrows =>
    cases hpart with
    | row isHead hcells =>
      cases isHead with
      | true => exact .table alignments hcells hrows
      | false =>
        refine .table alignments hheader ?_
        rw [mergedRows, mergedRows, hcells, hrows]
    | text _ | html _ | nodes _ | item _ | cell _ => exact .table alignments hheader hrows
  | row h =>
    cases hpart with
    | cell hcontents =>
      refine .row ?_
      rw [mergedEach, mergedEach, hcontents, h]
    | text _ | html _ | nodes _ | item _ | row _ _ => exact .row h
  | discard => cases hpart <;> exact .discard

/-- Alike elements hand on alike parts. An item wraps the same runs, and an address is the same
plain text. -/
theorem alike_part {first second : Content} (h : first.Alike second) (tag : EndTag) :
    (first.part tag).Alike (second.part tag) := by
  cases h with
  | element kind h =>
    cases kind with
    | item =>
      refine .item ?_
      rw [mergedAll_wrapInlineRuns, mergedAll_wrapInlineRuns, h]
    | cell => exact .cell h
    | autoLink destination =>
      have hplain := congrArg plainTextAll h
      rw [plainTextAll_mergedAll, plainTextAll_mergedAll] at hplain
      refine .nodes ?_
      rw [hplain]
    | paragraph | heading _ | blockQuote | emphasis _ | strikethrough | link _ _ | image _ _ =>
      refine .nodes ?_
      rw [mergedAll_cons_of_not_isText rfl, mergedAll_cons_of_not_isText rfl, Node.merged,
        Node.merged, h]
  | transparent h => exact .nodes h
  | codeBlock info code => exact .nodes rfl
  | htmlBlock code => exact .nodes rfl
  | list firstNumber h =>
    refine .nodes ?_
    rw [mergedAll_cons_of_not_isText rfl, mergedAll_cons_of_not_isText rfl, Node.merged,
      Node.merged, mergedEach_reverse, mergedEach_reverse, h]
  | table alignments hheader hrows =>
    refine .nodes ?_
    rw [mergedAll_cons_of_not_isText rfl, mergedAll_cons_of_not_isText rfl, Node.merged,
      Node.merged, mergedRows_reverse, mergedRows_reverse, hheader, hrows]
  | row h =>
    refine .row _ ?_
    rw [mergedEach_reverse, mergedEach_reverse, h]
  | discard => exact .nodes rfl

end Content

/-- Frames that wait for the same end tag and have gathered the same, up to how texts are cut. -/
structure Frame.Alike (first second : Frame) : Prop where
  closing : first.closing = second.closing
  content : first.content.Alike second.content

/-! ## Builders -/

namespace Builder

/-- Builders that agree in everything but how texts are cut. -/
structure Alike (first second : Builder) : Prop where
  source : first.source = second.source
  stack : List.Forall₂ Frame.Alike first.stack second.stack
  nodes : mergedAll first.nodes.reverse = mergedAll second.nodes.reverse
  definitions : first.definitions = second.definitions
  lastEnd : first.lastEnd = second.lastEnd

variable {first second : Builder}

theorem Alike.refl (b : Builder) : b.Alike b :=
  ⟨rfl, List.forall₂_same.2 fun frame _ => ⟨rfl, .refl frame.content⟩, rfl, rfl, rfl⟩

theorem Alike.isEmpty_stack (h : first.Alike second) :
    first.stack.isEmpty = second.stack.isEmpty := by
  have hlength : first.stack.length = second.stack.length := h.stack.length_eq
  rw [Bool.eq_iff_iff, List.isEmpty_iff_length_eq_zero, List.isEmpty_iff_length_eq_zero, hlength]

theorem alike_enter (h : first.Alike second) {frame frame' : Frame} (hframe : frame.Alike frame') :
    (first.enter frame).Alike (second.enter frame') :=
  ⟨h.source, .cons hframe h.stack, h.nodes, h.definitions, h.lastEnd⟩

theorem alike_receive (h : first.Alike second) {part part' : Part} (hpart : part.Alike part') :
    (first.receive part).Alike (second.receive part') := by
  obtain ⟨source, stack, nodes, definitions, lastEnd⟩ := first
  obtain ⟨source', stack', nodes', definitions', lastEnd'⟩ := second
  obtain ⟨hsource, hstack, hnodes, hdefinitions, hlastEnd⟩ := h
  cases hstack with
  | nil => exact ⟨hsource, .nil, hpart.mergedAll_addTo hnodes, hdefinitions, hlastEnd⟩
  | cons hframe hrest =>
    refine ⟨hsource, .cons ⟨hframe.closing, ?_⟩ hrest, hnodes, hdefinitions, hlastEnd⟩
    exact Content.alike_receive hframe.content hpart

theorem alike_beginBlock (h : first.Alike second) (offset : Nat) :
    (first.beginBlock offset).Alike (second.beginBlock offset) := by
  refine ⟨h.source, h.stack, ?_, ?_, h.lastEnd⟩
  · rw [beginBlock_nodes, beginBlock_nodes, h.source, h.definitions, h.lastEnd]
    exact (Part.Alike.refl _).mergedAll_addTo h.nodes
  · rw [beginBlock, beginBlock, h.definitions]

theorem alike_prepare (h : first.Alike second) (offset : Nat) :
    (first.prepare offset).Alike (second.prepare offset) := by
  rw [prepare, prepare, h.isEmpty_stack]
  split
  · exact alike_beginBlock h offset
  · exact h

theorem alike_noteEnd (h : first.Alike second) (offset : Nat) :
    (first.noteEnd offset).Alike (second.noteEnd offset) := by
  rw [noteEnd, noteEnd, h.isEmpty_stack]
  split
  · exact ⟨h.source, h.stack, h.nodes, h.definitions, rfl⟩
  · exact h

/-- An event does the same to alike builders. -/
theorem alike_push (h : first.Alike second) (event : Event) (span : Span) :
    (first.push event span).1.Alike (second.push event span).1 ∧
      (first.push event span).2 = (second.push event span).2 := by
  cases event with
  | start tag =>
    rw [push_start, push_start]
    exact ⟨alike_enter (alike_prepare h _) ⟨rfl, .refl _⟩, rfl⟩
  | leaf leaf =>
    rw [push_leaf, push_leaf]
    exact ⟨alike_noteEnd (alike_receive (alike_prepare h _) (.refl _)) _, rfl⟩
  | stop tag =>
    have hframes := h.stack
    rcases hstack : first.stack with _ | ⟨⟨closing, content⟩, rest⟩
    · rw [hstack, List.forall₂_nil_left_iff] at hframes
      rw [push_stop_nil first hstack, push_stop_nil second hframes]
      exact ⟨h, rfl⟩
    · rw [hstack, List.forall₂_cons_left_iff] at hframes
      obtain ⟨⟨closing', content'⟩, rest', ⟨hclosing, hcontent⟩, hrest, hstack'⟩ := hframes
      change closing = closing' at hclosing
      subst hclosing
      have houter : Alike { first with stack := rest } { second with stack := rest' } :=
        ⟨h.source, hrest, h.nodes, h.definitions, h.lastEnd⟩
      rw [eq_enter_of_stack first hstack, eq_enter_of_stack second hstack', push_stop_enter,
        push_stop_enter]
      split
      · exact ⟨alike_noteEnd (alike_receive houter (Content.alike_part hcontent tag)) _, rfl⟩
      · exact ⟨houter, rfl⟩

/-- A run without a failure is one for every alike builder, and leaves them alike. -/
theorem alike_pushAll (h : first.Alike second) {events : List (Event × Span)} {next : Builder}
    (hrun : first.pushAll events = .ok next) :
    ∃ next', second.pushAll events = .ok next' ∧ next.Alike next' := by
  induction events generalizing first second with
  | nil =>
    cases hrun
    exact ⟨second, rfl, h⟩
  | cons entry rest ih =>
    obtain ⟨event, span⟩ := entry
    obtain ⟨hafter, herror⟩ := alike_push h event span
    rw [pushAll] at hrun
    rcases hpush : first.push event span with ⟨after, _ | error⟩
    · rcases hpush' : second.push event span with ⟨after', other⟩
      rw [hpush] at hrun
      rw [hpush, hpush'] at hafter herror
      obtain ⟨next', hrun', hnext⟩ := ih hafter hrun
      refine ⟨next', ?_, hnext⟩
      change none = other at herror
      rw [pushAll, hpush', ← herror]
      exact hrun'
    · rw [hpush] at hrun
      cases hrun

/-- Alike builders finish with documents that are equal once adjacent texts are put together. -/
theorem alike_finish (h : first.Alike second) {document : Document}
    (hfinish : first.finish = .ok document) :
    ∃ document', second.finish = .ok document' ∧ document'.merged = document.merged := by
  rw [finish] at hfinish
  split at hfinish
  · rename_i hempty
    cases hfinish
    have hnodes := (alike_beginBlock h second.source.utf8ByteSize).nodes
    refine ⟨⟨(second.beginBlock second.source.utf8ByteSize).nodes.reverse⟩, ?_, ?_⟩
    · rw [finish, if_pos (h.isEmpty_stack.symm.trans hempty)]
    · rw [Document.merged, Document.merged, h.source, hnodes]
  · cases hfinish

end Builder

end MarkdownHtml
