import Mathlib.Data.List.Induction
import Mathlib.Data.List.Infix
import MarkdownHtml.Proofs.Builder.Refinement

/-!
# Builders that go on after errors

`Builder.pushEach` takes every event of a stream, also those behind one that fails. How many elements
are open then does not depend on any tag: it is the `depth` of the stream, which goes up by one with
a start and down by one with an end that finds something open (`length_stack_pushEach`).

A start event is in force as long as the depth stays above what it was before it. All that happens in
the meantime happens to frames above those that were there before (`exists_enterAll_pushEach`). So an
end event that fails and takes the innermost open element away leaves what was there before that
element's start (`push_failing_rolls_back`): what has been put into the element is gone, together
with everything that failed in it.
-/

namespace MarkdownHtml

/-- How many elements are open after one more event. An end event ends one of them, if there is one,
whatever its tag. -/
def Event.depth (opened : Nat) : Event → Nat
  | .start _ => opened + 1
  | .stop _ => opened - 1
  | .leaf _ => opened

/-- How many elements are open after a stream before which some are open. -/
def depthFrom (opened : Nat) (events : List (Event × Span)) : Nat :=
  events.foldl (fun opened entry => entry.1.depth opened) opened

/-- How many elements are open after a stream. -/
def depth (events : List (Event × Span)) : Nat := depthFrom 0 events

theorem depthFrom_append (opened : Nat) (first second : List (Event × Span)) :
    depthFrom opened (first ++ second) = depthFrom (depthFrom opened first) second :=
  List.foldl_append

theorem depthFrom_cons (opened : Nat) (entry : Event × Span) (rest : List (Event × Span)) :
    depthFrom opened (entry :: rest) = depthFrom (entry.1.depth opened) rest := rfl

theorem depth_append (first second : List (Event × Span)) :
    depth (first ++ second) = depthFrom (depth first) second :=
  depthFrom_append 0 first second

/-- The start event in front of `inner` is in force throughout: the depth stays above what it was
before it. -/
def InForce (before : List (Event × Span)) (tag : Tag) (opening : Span)
    (inner : List (Event × Span)) : Prop :=
  ∀ part, part <+: inner → depth before < depth (before ++ (.start tag, opening) :: part)

/-- A start event stays in force with one more event that does not bring the depth down to where it
was. -/
theorem InForce.append_singleton {before inner : List (Event × Span)} {tag : Tag} {opening : Span}
    (h : InForce before tag opening inner) {entry : Event × Span}
    (hdepth : depth before < depth (before ++ (.start tag, opening) :: (inner ++ [entry]))) :
    InForce before tag opening (inner ++ [entry]) := by
  intro part hpart
  rcases List.prefix_concat_iff.1 hpart with rfl | hpart
  · exact hdepth
  · exact h part hpart

/-- For every level below the depth of a stream there is a start event that reached it first and is
in force since. -/
theorem exists_inForce {events : List (Event × Span)} {level : Nat} (h : level < depth events) :
    ∃ before tag opening inner, events = before ++ (.start tag, opening) :: inner ∧
      depth before = level ∧ InForce before tag opening inner := by
  induction events using List.reverseRecOn with
  | nil => exact absurd h (Nat.not_lt_zero level)
  | append_singleton events entry ih =>
    have hlast : depth (events ++ [entry]) = entry.1.depth (depth events) := depth_append _ _
    by_cases hlevel : level < depth events
    · -- the level was there before the last event, and still is
      obtain ⟨before, tag, opening, inner, rfl, rfl, hforce⟩ := ih hlevel
      have hsame : before ++ (.start tag, opening) :: inner ++ [entry] =
          before ++ (.start tag, opening) :: (inner ++ [entry]) := by
        rw [List.append_assoc, List.cons_append]
      rw [hsame] at h ⊢
      exact ⟨before, tag, opening, inner ++ [entry], rfl, rfl, hforce.append_singleton h⟩
    · -- the last event reached it, so it is a start event
      obtain ⟨event, span⟩ := entry
      rw [hlast] at h
      cases event with
      | start tag =>
        have hreached : level < depth events + 1 := h
        have hdepth : depth events = level := by omega
        refine ⟨events, tag, span, [], rfl, hdepth, fun part hpart => ?_⟩
        rw [List.prefix_nil.1 hpart, depth_append]
        exact Nat.lt_succ_self _
      | stop tag =>
        have hreached : level < depth events - 1 := h
        omega
      | leaf leaf => exact absurd h hlevel

namespace Builder

/-! ## How many elements are open -/

/-- One event changes the number of open elements as the depth says, also if it fails. -/
theorem length_stack_push (b : Builder) (event : Event) (span : Span) :
    (b.push event span).1.stack.length = event.depth b.stack.length := by
  have hlength : ∀ b : Builder, b.stack.length = b.openTags.length :=
    fun b => (List.length_map _).symm
  rw [hlength, hlength]
  cases event with
  | start tag =>
    rw [push_start, openTags_enter, openTags_prepare]
    rfl
  | leaf leaf =>
    rw [push_leaf, openTags_noteEnd, openTags_receive, openTags_prepare]
    rfl
  | stop tag =>
    rcases hstack : b.stack with _ | ⟨⟨closing, content⟩, rest⟩
    · rw [push_stop_nil b hstack, openTags, hstack]
      rfl
    · rw [eq_enter_of_stack b hstack, push_stop_enter]
      split
      · rw [openTags_noteEnd, openTags_receive]
        rfl
      · rfl

theorem length_stack_pushEach (b : Builder) (events : List (Event × Span)) :
    (b.pushEach events).stack.length = depthFrom b.stack.length events := by
  induction events generalizing b with
  | nil => rfl
  | cons entry rest ih => rw [pushEach_cons, ih, length_stack_push, depthFrom_cons]

/-- A builder that has taken a whole stream fails to finish exactly when elements are open, and then
counts them. -/
theorem finish_eq_error_iff (b : Builder) (error : BuildError) :
    b.finish = .error error ↔ 0 < b.stack.length ∧ error = .unclosed b.stack.length := by
  rw [finish]
  cases hstack : b.stack with
  | nil => simp
  | cons frame rest => simp [eq_comm]

/-! ## What stays below the open elements -/

/-- The builder with more elements open, innermost first. -/
def enterAll (b : Builder) (frames : List Frame) : Builder := { b with stack := frames ++ b.stack }

theorem enterAll_cons (b : Builder) (frame : Frame) (frames : List Frame) :
    b.enterAll (frame :: frames) = (b.enterAll frames).enter frame := rfl

/-- An event that leaves some of the entered elements open changes nothing but these, and the
outermost of them still waits for the same end tag. -/
theorem exists_enterAll_push (b : Builder) {frames : List Frame} {level : Nat} (event : Event)
    (span : Span) (hframes : frames ≠ []) (hopen : level < event.depth (frames.length + level)) :
    ∃ frames', ((b.enterAll frames).push event span).1 = b.enterAll frames' ∧ frames' ≠ [] ∧
      frames'.length + level = event.depth (frames.length + level) ∧
      frames'.getLast?.map Frame.closing = frames.getLast?.map Frame.closing := by
  obtain ⟨⟨closing, content⟩, outer, rfl⟩ := List.exists_cons_of_ne_nil hframes
  rw [enterAll_cons]
  cases event with
  | start tag =>
    refine ⟨Frame.ofTag tag :: ⟨closing, content⟩ :: outer, ?_, List.cons_ne_nil _ _, ?_, ?_⟩
    · rw [push_start, prepare_enter]
      rfl
    · rw [List.length_cons, Event.depth]
      omega
    · rw [List.getLast?_cons_cons]
  | leaf leaf =>
    refine ⟨⟨closing, content.receive leaf.part⟩ :: outer, ?_, List.cons_ne_nil _ _, rfl, ?_⟩
    · rw [push_leaf, prepare_enter, receive_enter, noteEnd_enter]
      rfl
    · cases outer with
      | nil => rfl
      | cons next outer => rw [List.getLast?_cons_cons, List.getLast?_cons_cons]
  | stop tag =>
    -- it is not the outermost one that ends
    have houter : outer ≠ [] := by
      rintro rfl
      simp only [Event.depth, List.length_cons, List.length_nil] at hopen
      omega
    obtain ⟨⟨closing', content'⟩, rest, rfl⟩ := List.exists_cons_of_ne_nil houter
    rw [push_stop_enter, List.getLast?_cons_cons]
    split
    · refine ⟨⟨closing', content'.receive (content.part tag)⟩ :: rest, ?_, List.cons_ne_nil _ _,
        ?_, ?_⟩
      · rw [enterAll_cons, receive_enter, noteEnd_enter]
        rfl
      · simp only [List.length_cons, Event.depth]
        omega
      · cases rest with
        | nil => rfl
        | cons next rest => rw [List.getLast?_cons_cons, List.getLast?_cons_cons]
    · refine ⟨⟨closing', content'⟩ :: rest, rfl, List.cons_ne_nil _ _, ?_, rfl⟩
      simp only [List.length_cons, Event.depth]
      omega

/-- A stream that always leaves some of the entered elements open changes nothing but these. -/
theorem exists_enterAll_pushEach (b : Builder) {frames : List Frame} {level : Nat}
    (events : List (Event × Span)) (hframes : frames ≠ [])
    (hopen : ∀ part, part <+: events → level < depthFrom (frames.length + level) part) :
    ∃ frames', (b.enterAll frames).pushEach events = b.enterAll frames' ∧
      frames'.length + level = depthFrom (frames.length + level) events ∧
      frames'.getLast?.map Frame.closing = frames.getLast?.map Frame.closing := by
  induction events generalizing frames with
  | nil => exact ⟨frames, rfl, rfl, rfl⟩
  | cons entry rest ih =>
    have hfirst := hopen [entry] (List.prefix_append [entry] rest)
    obtain ⟨middle, hpush, hmiddle, hlength, hclosing⟩ :=
      exists_enterAll_push b entry.1 entry.2 hframes hfirst
    have hrest : ∀ part, part <+: rest → level < depthFrom (middle.length + level) part := by
      intro part hpart
      have hlonger := hopen (entry :: part) (List.cons_prefix_cons.2 ⟨rfl, hpart⟩)
      rw [depthFrom_cons, ← hlength] at hlonger
      exact hlonger
    obtain ⟨frames', hrun, hlength', hclosing'⟩ := ih hmiddle hrest
    refine ⟨frames', ?_, ?_, hclosing'.trans hclosing⟩
    · rw [pushEach_cons, hpush, hrun]
    · rw [hlength', hlength, depthFrom_cons]

/-! ## What a failed event leaves behind -/

/-- An end event that finds nothing open changes nothing. -/
theorem push_of_unexpectedEnd {b : Builder} {event : Event} {span : Span} {tag : EndTag}
    {offset : Nat} (h : (b.push event span).2 = some (.unexpectedEnd tag offset)) :
    (b.push event span).1 = b := by
  cases event with
  | start _ => cases h
  | leaf _ => cases h
  | stop other =>
    rcases hstack : b.stack with _ | ⟨⟨closing, content⟩, rest⟩
    · rw [push_stop_nil b hstack]
    · rw [eq_enter_of_stack b hstack, push_stop_enter] at h
      split at h <;> cases h

/-- An end event with another tag than the innermost open element waits for takes that element
away. -/
theorem push_enter_of_mismatchedEnd {b : Builder} {frame : Frame} {event : Event} {span : Span}
    {expected found : EndTag} {offset : Nat}
    (h : ((b.enter frame).push event span).2 = some (.mismatchedEnd expected found offset)) :
    frame.closing = expected ∧ ((b.enter frame).push event span).1 = b := by
  cases event with
  | start _ => cases h
  | leaf _ => cases h
  | stop tag =>
    rw [push_stop_enter] at h ⊢
    split at h
    · cases h
    · rename_i hne
      cases h
      exact ⟨rfl, by rw [if_neg hne]⟩

/-- A mismatched end needs an open element. -/
theorem stack_ne_nil_of_mismatchedEnd {b : Builder} {event : Event} {span : Span}
    {expected found : EndTag} {offset : Nat}
    (h : (b.push event span).2 = some (.mismatchedEnd expected found offset)) : b.stack ≠ [] := by
  intro hstack
  cases event with
  | start _ => cases h
  | leaf _ => cases h
  | stop tag =>
    rw [push_stop_nil b hstack] at h
    cases h

/-- What is placed in front of a start event at the top level. -/
theorem prepare_eq_of_stack_eq_nil {b : Builder} (hstack : b.stack = []) (offset : Nat) :
    b.prepare offset = { b with
      nodes := (nodesBetween b.source b.definitions b.lastEnd offset).reverse ++ b.nodes
      definitions := b.definitions.dropWhile (·.start < offset) } := by
  have hempty : b.stack.isEmpty = true := by rw [hstack, List.isEmpty_nil]
  have hnodes := beginBlock_nodes b offset
  rw [prepare, if_pos hempty]
  rw [Part.addTo] at hnodes
  rw [← hnodes]
  rfl

theorem prepare_eq_self {b : Builder} (hstack : b.stack ≠ []) (offset : Nat) :
    b.prepare offset = b := by
  rw [prepare, if_neg (by simpa using hstack)]

section Runs

variable (source : String) (definitions : List Definition) (events : List (Event × Span))

theorem length_stack_pushEach_start :
    ((start source definitions).pushEach events).stack.length = depth events :=
  length_stack_pushEach _ events

/-- While a start event is in force, the builder is the one in front of it with some elements
open, of which the outermost waits for that start's end. -/
theorem exists_enterAll_of_inForce {before inner : List (Event × Span)} {tag : Tag}
    {opening : Span} (hforce : InForce before tag opening inner) :
    ∃ frames, (start source definitions).pushEach (before ++ (.start tag, opening) :: inner) =
        (((start source definitions).pushEach before).prepare opening.start).enterAll frames ∧
      frames.length + depth before = depth (before ++ (.start tag, opening) :: inner) ∧
      frames.getLast?.map Frame.closing = some tag.toEnd := by
  have hdepth : ∀ part, depth (before ++ (.start tag, opening) :: part) =
      depthFrom ([Frame.ofTag tag].length + depth before) part := by
    intro part
    rw [depth_append, depthFrom_cons, List.length_singleton, Nat.add_comm]
    rfl
  have hopen : ∀ part, part <+: inner →
      depth before < depthFrom ([Frame.ofTag tag].length + depth before) part := by
    intro part hpart
    rw [← hdepth]
    exact hforce part hpart
  obtain ⟨frames, hrun, hlength, hclosing⟩ := exists_enterAll_pushEach
    (((start source definitions).pushEach before).prepare opening.start) inner
    (List.cons_ne_nil (Frame.ofTag tag) []) hopen
  refine ⟨frames, ?_, ?_, hclosing⟩
  · rw [pushEach_append, pushEach_cons, push_start, ← hrun]
    rfl
  · rw [hlength, hdepth]

/-- A builder that goes on after errors, at any point of any stream. As many elements are open as
the depth says, and it fails to finish exactly when there are any, with their number. An event that
fails because nothing is open changes nothing. One that fails because the innermost open element
waits for another tag rolls that element back: what is left is the builder that the element's start
found, except that at the top level the definitions and the blank lines in front of that start have
been placed; where the last block ends is not noted. -/
theorem push_failing_rolls_back :
    (((start source definitions).pushEach events).stack.length = depth events ∧
      ∀ error, ((start source definitions).pushEach events).finish = .error error ↔
        0 < depth events ∧ error = .unclosed (depth events)) ∧
    (∀ event span tag offset, (((start source definitions).pushEach events).push event span).2 =
        some (.unexpectedEnd tag offset) →
      (((start source definitions).pushEach events).push event span).1 =
        (start source definitions).pushEach events) ∧
    ∀ event span expected found offset,
      (((start source definitions).pushEach events).push event span).2 =
        some (.mismatchedEnd expected found offset) →
      ∃ before tag opening inner, events = before ++ (.start tag, opening) :: inner ∧
        InForce before tag opening inner ∧ depth events = depth before + 1 ∧
        tag.toEnd = expected ∧
        let outer := (start source definitions).pushEach before
        let left := (((start source definitions).pushEach events).push event span).1
        (outer.stack ≠ [] → left = outer) ∧
        (outer.stack = [] → left = { outer with
          nodes := (nodesBetween outer.source outer.definitions outer.lastEnd
            opening.start).reverse ++ outer.nodes
          definitions := outer.definitions.dropWhile (·.start < opening.start) }) := by
  have hlength := length_stack_pushEach_start source definitions events
  refine ⟨⟨hlength, fun error => ?_⟩, fun event span tag offset h => push_of_unexpectedEnd h,
    fun event span expected found offset h => ?_⟩
  · rw [finish_eq_error_iff, hlength]
  · have hpos : 0 < depth events := by
      rw [← hlength]
      exact List.length_pos_iff.2 (stack_ne_nil_of_mismatchedEnd h)
    -- the start event that reached the present depth
    obtain ⟨before, tag, opening, inner, rfl, hbefore, hforce⟩ :=
      exists_inForce (Nat.sub_one_lt_of_lt hpos)
    have hdepth : depth (before ++ (.start tag, opening) :: inner) = depth before + 1 := by omega
    obtain ⟨frames, hrun, hframes, hclosing⟩ :=
      exists_enterAll_of_inForce source definitions hforce
    -- so one element is open that was not open before it
    have hone : frames.length = 1 := by omega
    obtain ⟨frame, rfl⟩ := List.length_eq_one_iff.1 hone
    have hentered : (start source definitions).pushEach (before ++ (.start tag, opening) :: inner) =
        (((start source definitions).pushEach before).prepare opening.start).enter frame := hrun
    rw [hentered] at h ⊢
    obtain ⟨hexpected, hleft⟩ := push_enter_of_mismatchedEnd h
    have htag : frame.closing = tag.toEnd := by simpa using hclosing
    refine ⟨before, tag, opening, inner, rfl, hforce, hdepth, htag.symm.trans hexpected, ?_, ?_⟩
    · intro hstack
      rw [hleft, prepare_eq_self hstack]
    · intro hstack
      rw [hleft, prepare_eq_of_stack_eq_nil hstack]

end Runs

/-- An end of nothing, then an emphasis in a paragraph: its mismatched end leaves the paragraph as
it was when the emphasis started, and the mismatched end of the paragraph leaves the blank line. -/
theorem push_failing_rolls_back_emphasis :
    let events := [(Event.stop .item, Span.mk 0 0), (.start .paragraph, ⟨1, 5⟩),
      (.leaf (.text "a"), ⟨1, 2⟩), (.start .emphasis, ⟨2, 5⟩), (.leaf (.text "b"), ⟨3, 4⟩),
      (.stop .strong, ⟨4, 5⟩)]
    let b := (start "\na*b*" []).pushEach events
    (b.push (.stop .item) ⟨5, 5⟩).2 = some (.mismatchedEnd .paragraph .item 5) ∧
      b.stack.length = 1 ∧ b.finish = .error (.unclosed 1) ∧
      ∃ before tag opening inner, events = before ++ (.start tag, opening) :: inner ∧
        InForce before tag opening inner ∧ depth events = depth before + 1 ∧
        tag.toEnd = .paragraph ∧
        let outer := (start "\na*b*" []).pushEach before
        (outer.stack ≠ [] → (b.push (.stop .item) ⟨5, 5⟩).1 = outer) ∧
        (outer.stack = [] → (b.push (.stop .item) ⟨5, 5⟩).1 = { outer with
          nodes := (nodesBetween outer.source outer.definitions outer.lastEnd
            opening.start).reverse ++ outer.nodes
          definitions := outer.definitions.dropWhile (·.start < opening.start) }) := by
  intro events b
  obtain ⟨⟨hlength, hfinish⟩, -, hmismatched⟩ := push_failing_rolls_back "\na*b*" [] events
  have hfail : (b.push (.stop .item) ⟨5, 5⟩).2 = some (.mismatchedEnd .paragraph .item 5) := rfl
  exact ⟨hfail, hlength, (hfinish _).2 ⟨by decide, rfl⟩, hmismatched _ _ _ _ _ hfail⟩

end Builder

end MarkdownHtml
