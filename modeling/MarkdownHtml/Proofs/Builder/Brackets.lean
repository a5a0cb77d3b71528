import MarkdownHtml.Convert
import MarkdownHtml.Proofs.Builder.Refinement

/-!
# The events that a builder accepts

Start tags and end tags are brackets, and a builder accepts exactly the bracketed streams. The
invariant is `openTags_push`: the end tags on the stack are those of the starts that have not been
ended, whatever the builder has gathered for them and whether events have failed or not. Hence one
event fails just when it `Breaks` the brackets, a run fails at the first event that does, and what
is open at the end is what was started and never ended.
-/

namespace MarkdownHtml

/-- The elements that are open after one more event, innermost first. An end event ends the
innermost one, whatever the tags say. -/
def Event.after (opened : List Tag) : Event → List Tag
  | .start tag => tag :: opened
  | .stop _ => opened.tail
  | .leaf _ => opened

/-- The starts of a stream that are not ended in it, innermost first. -/
def unended (events : List (Event × Span)) : List Tag :=
  events.foldl (fun opened entry => entry.1.after opened) []

/-- Each end event of the stream has the end tag of the innermost start that is not ended before
it. -/
def Bracketed (events : List (Event × Span)) : Prop :=
  ∀ before tag span rest, events = before ++ (.stop tag, span) :: rest →
    (unended before).head?.map Tag.toEnd = some tag

/-- How an end event fails to close the innermost of the open elements, and the error that it
causes. -/
inductive Breaks : List Tag → EndTag → Span → BuildError → Prop
  /-- Nothing is open. -/
  | unexpected (tag : EndTag) (span : Span) :
    Breaks [] tag span (.unexpectedEnd tag span.start)
  /-- The innermost open element ends with another tag. -/
  | mismatched (innermost : Tag) (outer : List Tag) (tag : EndTag) (span : Span)
      (hne : innermost.toEnd ≠ tag) :
    Breaks (innermost :: outer) tag span (.mismatchedEnd innermost.toEnd tag span.start)

/-- An end event is in order unless it breaks the brackets. -/
theorem not_exists_breaks_iff (opened : List Tag) (tag : EndTag) (span : Span) :
    (¬ ∃ error, Breaks opened tag span error) ↔ opened.head?.map Tag.toEnd = some tag := by
  cases opened with
  | nil =>
    have hbreaks : ∃ error, Breaks [] tag span error := ⟨_, .unexpected tag span⟩
    simp [hbreaks]
  | cons innermost outer =>
    simp only [List.head?_cons, Option.map_some, Option.some.injEq]
    constructor
    · intro hnone
      by_cases heq : innermost.toEnd = tag
      · exact heq
      · exact absurd ⟨_, .mismatched innermost outer tag span heq⟩ hnone
    · rintro heq ⟨error, hbreaks⟩
      cases hbreaks with
      | mismatched _ _ _ _ hne => exact hne heq

namespace Builder

/-! ## One event -/

section Step

variable {b : Builder} {opened : List Tag}

/-- The open elements follow the starts and ends of the stream, also through events that fail. -/
theorem openTags_push (h : b.openTags = opened.map Tag.toEnd) (event : Event) (span : Span) :
    (b.push event span).1.openTags = (event.after opened).map Tag.toEnd := by
  cases event with
  | start tag => simp [push_start, Event.after, Frame.ofTag, h]
  | leaf leaf => simp [push_leaf, Event.after, h]
  | stop tag =>
    rcases hstack : b.stack with _ | ⟨⟨closing, content⟩, rest⟩
    · have hopened : opened = [] := by simpa [openTags, hstack] using h.symm
      rw [push_stop_nil b hstack, h, hopened]
      rfl
    · rw [eq_enter_of_stack b hstack, openTags_enter] at h
      have htail := congrArg List.tail h
      rw [List.tail_cons, ← List.map_tail] at htail
      rw [eq_enter_of_stack b hstack, push_stop_enter, Event.after, ← htail]
      split
      · rw [openTags_noteEnd, openTags_receive]
      · rfl

/-- An event fails exactly when it is an end event that breaks the brackets. -/
theorem push_error_iff (h : b.openTags = opened.map Tag.toEnd) (event : Event) (span : Span)
    (error : BuildError) :
    (b.push event span).2 = some error ↔
      ∃ tag, event = .stop tag ∧ Breaks opened tag span error := by
  cases event with
  | start tag => simp [push_start]
  | leaf leaf => simp [push_leaf]
  | stop tag =>
    simp only [Event.stop.injEq, exists_eq_left']
    rcases hstack : b.stack with _ | ⟨⟨closing, content⟩, rest⟩
    · have hopened : opened = [] := by simpa [openTags, hstack] using h.symm
      rw [push_stop_nil b hstack, hopened, Option.some.injEq]
      constructor
      · rintro rfl
        exact .unexpected tag span
      · intro hbreaks
        cases hbreaks
        rfl
    · rw [eq_enter_of_stack b hstack, openTags_enter] at h
      -- the top frame waits for the end tag of the innermost start
      obtain ⟨innermost, outer, rfl, hclosing, -⟩ := List.map_eq_cons_iff.1 h.symm
      change innermost.toEnd = closing at hclosing
      rw [eq_enter_of_stack b hstack, push_stop_enter, ← hclosing]
      by_cases heq : innermost.toEnd = tag
      · rw [if_pos heq]
        constructor
        · intro hnone
          cases hnone
        · intro hbreaks
          cases hbreaks with
          | mismatched _ _ _ _ hne => exact absurd heq hne
      · rw [if_neg heq, Option.some.injEq]
        constructor
        · rintro rfl
          exact .mismatched innermost outer tag span heq
        · intro hbreaks
          cases hbreaks
          rfl

end Step

/-! ## A run of events -/

/-- After a run without a failure the open elements are the starts that have not been ended. -/
theorem openTags_of_pushAll {b next : Builder} {opened : List Tag}
    (h : b.openTags = opened.map Tag.toEnd) {events : List (Event × Span)}
    (hrun : b.pushAll events = .ok next) :
    next.openTags =
      (events.foldl (fun opened entry => entry.1.after opened) opened).map Tag.toEnd := by
  induction events generalizing b opened with
  | nil =>
    cases hrun
    exact h
  | cons entry rest ih =>
    obtain ⟨event, span⟩ := entry
    have hopened := openTags_push h event span
    rw [pushAll] at hrun
    rcases hpush : b.push event span with ⟨after, _ | error⟩
    · rw [hpush] at hrun hopened
      exact ih hopened hrun
    · rw [hpush] at hrun
      cases hrun

/-- A run fails with the error of the first event that fails. -/
theorem pushAll_error_iff (b : Builder) (events : List (Event × Span)) (error : BuildError) :
    b.pushAll events = .error error ↔
      ∃ before event span rest next, events = before ++ (event, span) :: rest ∧
        b.pushAll before = .ok next ∧ (next.push event span).2 = some error := by
  induction events generalizing b with
  | nil => simp [pushAll]
  | cons entry rest ih =>
    obtain ⟨event, span⟩ := entry
    rcases hpush : b.push event span with ⟨after, _ | first⟩
    · have hcons : ∀ events, b.pushAll ((event, span) :: events) = after.pushAll events := by
        intro events
        rw [pushAll, hpush]
      rw [hcons, ih]
      constructor
      · rintro ⟨before, later, position, tail, next, rfl, hbefore, hfail⟩
        exact ⟨(event, span) :: before, later, position, tail, next, rfl, by rw [hcons, hbefore],
          hfail⟩
      · rintro ⟨before, later, position, tail, next, heq, hbefore, hfail⟩
        cases before with
        | nil =>
          cases hbefore
          cases heq
          rw [hpush] at hfail
          cases hfail
        | cons head before =>
          cases heq
          exact ⟨before, later, position, tail, next, rfl, by rw [← hcons, hbefore], hfail⟩
    · rw [pushAll, hpush]
      constructor
      · intro heq
        cases heq
        exact ⟨[], event, span, rest, b, rfl, rfl, by rw [hpush]⟩
      · rintro ⟨before, later, position, tail, next, heq, hbefore, hfail⟩
        cases before with
        | nil =>
          cases hbefore
          cases heq
          rw [hpush] at hfail
          cases hfail
          rfl
        | cons head before =>
          cases heq
          rw [pushAll, hpush] at hbefore
          cases hbefore

/-- What is open in a builder that has finished is nothing. -/
theorem finish_eq (b : Builder) :
    b.finish = if b.openTags = [] then
      .ok ⟨(b.beginBlock b.source.utf8ByteSize).nodes.reverse⟩
    else .error (.unclosed b.openTags.length) := by
  simp only [finish, openTags, List.map_eq_nil_iff, List.length_map, List.isEmpty_iff]

section Brackets

variable (source : String) (definitions : List Definition) (events : List (Event × Span))

/-- The elements that are open after a run from the start. -/
theorem openTags_start {next : Builder}
    (hrun : (start source definitions).pushAll events = .ok next) :
    next.openTags = (unended events).map Tag.toEnd := by
  have hnothing : (start source definitions).openTags = ([] : List Tag).map Tag.toEnd := rfl
  exact openTags_of_pushAll hnothing hrun

/-- A run from the start fails where the brackets are broken first. -/
theorem pushAll_start_error_iff (error : BuildError) :
    (start source definitions).pushAll events = .error error ↔
      ∃ before tag span rest, events = before ++ (.stop tag, span) :: rest ∧
        (∃ next, (start source definitions).pushAll before = .ok next) ∧
        Breaks (unended before) tag span error := by
  rw [pushAll_error_iff]
  constructor
  · rintro ⟨before, event, span, rest, next, rfl, hbefore, hfail⟩
    obtain ⟨tag, rfl, hbreaks⟩ :=
      (push_error_iff (openTags_start source definitions before hbefore) event span error).1 hfail
    exact ⟨before, tag, span, rest, rfl, ⟨next, hbefore⟩, hbreaks⟩
  · rintro ⟨before, tag, span, rest, rfl, ⟨next, hbefore⟩, hbreaks⟩
    refine ⟨before, .stop tag, span, rest, next, rfl, hbefore, ?_⟩
    exact (push_error_iff (openTags_start source definitions before hbefore) _ span error).2
      ⟨tag, rfl, hbreaks⟩

/-- No event of a run from the start fails exactly when the stream is bracketed. -/
theorem pushAll_start_ok_iff :
    (∃ next, (start source definitions).pushAll events = .ok next) ↔ Bracketed events := by
  constructor
  · rintro ⟨next, hrun⟩ before tag span rest rfl
    rw [← not_exists_breaks_iff _ tag span]
    rintro ⟨error, hbreaks⟩
    rw [pushAll_append] at hrun
    rcases hbefore : (start source definitions).pushAll before with failure | middle
    · rw [hbefore] at hrun
      cases hrun
    · have hfail : (start source definitions).pushAll (before ++ (.stop tag, span) :: rest) =
          .error error :=
        (pushAll_start_error_iff source definitions _ error).2
          ⟨before, tag, span, rest, rfl, ⟨middle, hbefore⟩, hbreaks⟩
      rw [← pushAll_append, hfail] at hrun
      cases hrun
  · intro hbracketed
    rcases hrun : (start source definitions).pushAll events with error | next
    · obtain ⟨before, tag, span, rest, heq, -, hbreaks⟩ :=
        (pushAll_start_error_iff source definitions events error).1 hrun
      have hhead := hbracketed before tag span rest heq
      rw [← not_exists_breaks_iff _ tag span] at hhead
      exact absurd ⟨error, hbreaks⟩ hhead
    · exact ⟨next, rfl⟩

/-- How a builder finishes that has taken a whole stream. -/
theorem finish_of_pushAll_start {next : Builder}
    (hrun : (start source definitions).pushAll events = .ok next) :
    ((∃ document, next.finish = .ok document) ↔ unended events = []) ∧
      (unended events ≠ [] → next.finish = .error (.unclosed (unended events).length)) := by
  have hopen := openTags_start source definitions events hrun
  rw [finish_eq, hopen, List.length_map]
  by_cases hnil : unended events = []
  · simp [hnil]
  · simp [hnil]

/-- A document is made of a stream exactly when it is bracketed and ends all that it starts. -/
theorem ofEvents_ok_iff :
    (∃ document, Document.ofEvents source definitions events = .ok document) ↔
      Bracketed events ∧ unended events = [] := by
  let sorted := definitions.mergeSort fun a b => a.start ≤ b.start
  have hbind : Document.ofEvents source definitions events =
      ((start source sorted).pushAll events).bind finish := rfl
  rw [hbind]
  rcases hrun : (start source sorted).pushAll events with error | next
  · have hnot : ¬ Bracketed events := by
      rw [← pushAll_start_ok_iff source sorted, hrun]
      simp
    simp [Except.bind, hnot]
  · have hbracketed : Bracketed events :=
      (pushAll_start_ok_iff source sorted events).1 ⟨next, hrun⟩
    simp only [Except.bind, hbracketed, true_and]
    exact (finish_of_pushAll_start source sorted events hrun).1

/-- The events of a forest make a document. -/
theorem ofEvents_flattenAll (forest : List EventTree) :
    ∃ document, Document.ofEvents source definitions (flattenAll forest) = .ok document := by
  obtain ⟨next, hrun, hfinish⟩ := pushAll_flattenAll_nil source []
    (definitions.mergeSort fun a b => a.start ≤ b.start) 0 forest
  refine ⟨_, Eq.trans ?_ hfinish⟩
  exact congrArg (fun run => Except.bind run finish) hrun

/-- A builder accepts exactly the bracketed streams. It fails at the first end event that breaks the
brackets, with the error that says how. After a run without a failure it finishes with a document if
every start has been ended, and otherwise counts the starts that have not. So a document is made of
every stream that is bracketed and ends what it starts, and of every Markdown text. -/
theorem pushAll_accepts_brackets :
    ((∃ next, (start source definitions).pushAll events = .ok next) ↔ Bracketed events) ∧
    (∀ error, (start source definitions).pushAll events = .error error ↔
      ∃ before tag span rest, events = before ++ (.stop tag, span) :: rest ∧
        Bracketed before ∧ Breaks (unended before) tag span error) ∧
    (∀ next, (start source definitions).pushAll events = .ok next →
      ((∃ document, next.finish = .ok document) ↔ unended events = []) ∧
      (unended events ≠ [] → next.finish = .error (.unclosed (unended events).length))) ∧
    ((∃ document, Document.ofEvents source definitions events = .ok document) ↔
      Bracketed events ∧ unended events = []) ∧
    ∀ options, ∃ document, Document.ofMarkdown options source = .ok document := by
  refine ⟨pushAll_start_ok_iff source definitions events, ?_,
    fun next hrun => finish_of_pushAll_start source definitions events hrun,
    ofEvents_ok_iff source definitions events, ?_⟩
  · intro error
    simp only [pushAll_start_error_iff, pushAll_start_ok_iff]
  · intro options
    exact ofEvents_flattenAll source _ _

/-- Two starts that are never ended. -/
theorem pushAll_accepts_brackets_unclosed :
    ∃ next, (start "a" []).pushAll [(.start .paragraph, ⟨0, 1⟩), (.start .emphasis, ⟨0, 1⟩)] =
        .ok next ∧ next.finish = .error (.unclosed 2) :=
  ⟨_, rfl, ((pushAll_accepts_brackets "a" []
    [(.start .paragraph, ⟨0, 1⟩), (.start .emphasis, ⟨0, 1⟩)]).2.2.1 _ rfl).2 (by decide)⟩

end Brackets

end Builder

end MarkdownHtml
