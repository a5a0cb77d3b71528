import MarkdownHtml.Proofs.Builder.Recovery
import MarkdownHtml.Proofs.Builder.WellNested

/-!
# What a metadata block swallows

Nothing says of the events in a metadata block that they are of no use: elements are opened and
filled there as everywhere. But whatever is finished inside goes to the block's own frame, and that
frame has no place for any part (`Content.foldl_receive_discard`). So all along the block the builder
is the one from before with some elements open inside the block, which has gathered nothing
(`exists_enterAll_pushAll`), and with the block's end everything is gone (`pushAll_metadataBlock`).
-/

namespace MarkdownHtml

namespace Builder

/-- The stream of a forest with open ends, read below an open element: that element has taken parts,
what is below it is as before, and above it there is a frame for each open end. -/
theorem exists_enterAll_pushAll_flattenOpen (b : Builder) (closing : EndTag) (content : Content)
    (opened : List OpenElement) (trees : List EventTree) :
    ∃ (frames : List Frame) (parts : List Part), frames.length = opened.length ∧
      (b.enter ⟨closing, content⟩).pushAll (flattenOpen opened trees) =
        .ok ((b.enter ⟨closing, parts.foldl Content.receive content⟩).enterAll frames) := by
  induction opened generalizing trees with
  | nil => exact ⟨[], partsOf trees, rfl, pushAll_flattenAll_enter b closing content trees⟩
  | cons inner outer ih =>
    obtain ⟨frames, parts, hlength, hrun⟩ := ih inner.before
    let around := (b.enter ⟨closing, parts.foldl Content.receive content⟩).enterAll frames
    -- something is open before the innermost start, so nothing is placed in front of it
    have hopen : around.stack ≠ [] := List.append_ne_nil_of_right_ne_nil frames (List.cons_ne_nil _ _)
    have hstart : around.pushAll [(.start inner.tag, inner.opening)] =
        .ok (around.enter (Frame.ofTag inner.tag)) := by
      rw [pushAll, push_start, prepare_eq_self hopen]
      rfl
    have htrees := pushAll_flattenAll_enter around inner.tag.toEnd (.ofTag inner.tag) trees
    refine ⟨⟨inner.tag.toEnd, (partsOf trees).foldl Content.receive (.ofTag inner.tag)⟩ :: frames,
      parts, ?_, ?_⟩
    · rw [List.length_cons, List.length_cons, hlength]
    · rw [flattenOpen, pushAll_append, hrun, Except.bind, ← List.singleton_append, pushAll_append,
        hstart, Except.bind]
      exact htrees

/-- While a bracketed stream is read in an element that drops what it is handed, the builder is the
one that the stream began with, with as many more elements open as the stream has left open. -/
theorem exists_enterAll_pushAll (b : Builder) (closing : EndTag) {events : List (Event × Span)}
    (h : Bracketed events) :
    ∃ frames, frames.length = (unended events).length ∧
      (b.enter ⟨closing, .discard⟩).pushAll events =
        .ok ((b.enter ⟨closing, .discard⟩).enterAll frames) := by
  obtain ⟨opened, trees, rfl, htags⟩ := exists_flattenOpen h
  obtain ⟨frames, parts, hlength, hrun⟩ :=
    exists_enterAll_pushAll_flattenOpen b closing .discard opened trees
  refine ⟨frames, ?_, ?_⟩
  · rw [hlength, ← htags, List.length_map]
  · rw [hrun, Content.foldl_receive_discard]

/-- A metadata block with any well-nested stream in it is read without an error and leaves no trace.
Below an open element the builder is afterwards the very one that it was; at the top level the
definitions and blank lines in front of the block have been placed, and the block counts as the last
one. At no time in between is anything touched but the elements that are open in the block. -/
theorem pushAll_metadataBlock (b : Builder) (kind : MetadataKind) (opening closing : Span)
    {inner : List (Event × Span)} (hbracketed : Bracketed inner) (hended : unended inner = []) :
    (b.stack ≠ [] →
      b.pushAll ((.start (.metadataBlock kind), opening) ::
        (inner ++ [(.stop (.metadataBlock kind), closing)])) = .ok b) ∧
    (b.stack = [] →
      b.pushAll ((.start (.metadataBlock kind), opening) ::
        (inner ++ [(.stop (.metadataBlock kind), closing)])) =
          .ok { b.beginBlock opening.start with lastEnd := closing.stop }) ∧
    ∀ part, part <+: inner → ∃ frames, frames.length = (unended part).length ∧
      b.pushAll ((.start (.metadataBlock kind), opening) :: part) =
        .ok (((b.prepare opening.start).enter (Frame.ofTag (.metadataBlock kind))).enterAll
          frames) := by
  obtain ⟨trees, rfl⟩ := (exists_flattenAll_eq_iff inner).2 ⟨hbracketed, hended⟩
  have hblock : b.pushAll (EventTree.element (.metadataBlock kind) opening trees closing).flatten =
      .ok ((b.prepare opening.start).noteEnd closing.stop) := by
    rw [pushAll_flatten, EventTree.part, Tag.part, receive_nodes_nil]
    rfl
  rw [EventTree.flatten] at hblock
  refine ⟨fun hopen => ?_, fun htop => ?_, fun part hpart => ?_⟩
  · rw [prepare_eq_self hopen, noteEnd, if_neg (by simpa using hopen)] at hblock
    exact hblock
  · have hempty : b.stack.isEmpty = true := List.isEmpty_iff.2 htop
    have hempty' : (b.beginBlock opening.start).stack.isEmpty = true := hempty
    rw [prepare, if_pos hempty, noteEnd, if_pos hempty'] at hblock
    exact hblock
  · obtain ⟨rest, hrest⟩ := hpart
    rw [← hrest] at hbracketed
    exact exists_enterAll_pushAll (b.prepare opening.start) _ hbracketed.of_append

/-- A list with an item, a stray cell, a table head, HTML and another metadata block, all of it in a
metadata block of a paragraph that has begun. -/
theorem pushAll_metadataBlock_strayCell :
    let inner := [(Event.start (.list (some 3)), Span.mk 9 2), (.start .item, ⟨0, 0⟩),
      (.leaf (.text "a"), ⟨0, 1⟩), (.stop .item, ⟨1, 1⟩), (.stop (.list true), ⟨1, 1⟩),
      (.start .tableCell, ⟨1, 2⟩), (.leaf (.html "<b>"), ⟨1, 2⟩), (.stop .tableCell, ⟨1, 2⟩),
      (.start .tableHead, ⟨2, 2⟩), (.stop .tableHead, ⟨2, 2⟩),
      (.start (.metadataBlock .pluses), ⟨2, 3⟩), (.stop (.metadataBlock .pluses), ⟨2, 3⟩),
      (.leaf (.text "c"), ⟨3, 4⟩)]
    let b : Builder := ⟨"abc", [⟨.paragraph, .element .paragraph [.text "x"]⟩], [.blankLine], [], 1⟩
    Bracketed inner ∧ unended inner = [] ∧ b.stack ≠ [] ∧
      b.pushAll ((.start (.metadataBlock .yaml), ⟨0, 1⟩) ::
        (inner ++ [(.stop (.metadataBlock .yaml), ⟨3, 4⟩)])) = .ok b := by
  intro inner b
  have hbracketed : Bracketed inner := (pushAll_start_ok_iff "" [] inner).1 ⟨_, rfl⟩
  have hended : unended inner = [] := rfl
  have hopen : b.stack ≠ [] := List.cons_ne_nil _ _
  exact ⟨hbracketed, hended, hopen, (pushAll_metadataBlock b .yaml _ _ hbracketed hended).1 hopen⟩

end Builder

end MarkdownHtml
