import MarkdownHtml.Proofs.Builder.Recovery
import MarkdownHtml.Proofs.Text.BlankLine

/-!
# Where texts are cut into events

A reader may hand on a text in one event or in several, and where it cuts makes no difference to a
builder. Below an open element two texts come to the same as their concatenation whatever is done
with them there (`Content.receive_text_receive_text`). At the top level each event also places what
stands in front of it and notes where it ends, so there the chunks have to follow one another, and no
definition may be waiting that could come between them (`pushEach_textEvents_nil`).

`Recut` relates two streams that differ in how texts are cut, at any number of places; they leave
the same builder and are answered alike (`pushEach_recut`).
-/

namespace MarkdownHtml

/-- An event that brings text. -/
def Event.isText : Event → Bool
  | .leaf (.text _) => true
  | _ => false

/-- The text events of chunks of text, each with its span. -/
def textEvents (chunks : List (String × Span)) : List (Event × Span) :=
  chunks.map fun chunk => (.leaf (.text chunk.1), chunk.2)

/-- The text that chunks make up. -/
def textOf (chunks : List (String × Span)) : String := String.join (chunks.map Prod.fst)

/-- Each chunk begins where the one before it ends, the first at `start`, and the last one ends at
`stop`. -/
def Abut (start : Nat) : List (String × Span) → Nat → Prop
  | [], stop => start = stop
  | (_, span) :: rest, stop => span.start = start ∧ Abut span.stop rest stop

@[simp] theorem textEvents_cons (chunk : String × Span) (rest : List (String × Span)) :
    textEvents (chunk :: rest) = (.leaf (.text chunk.1), chunk.2) :: textEvents rest := rfl

theorem textOf_cons (chunk : String × Span) (rest : List (String × Span)) :
    textOf (chunk :: rest) = chunk.1 ++ textOf rest := String.join_cons

theorem textOf_singleton (chunk : String × Span) : textOf [chunk] = chunk.1 := by
  rw [textOf_cons, textOf, List.map_nil, String.join_nil, String.append_empty]

/-! ## Two texts in a row -/

namespace Builder

/-- Of two texts in a row the second extends the first. -/
theorem addText_addText (first second : String) (children : List Node) :
    addText second (addText first children) = addText (first ++ second) children := by
  cases children with
  | nil => rfl
  | cons node rest =>
    cases node with
    | text last => simp only [addText, String.append_assoc]
    | _ => rfl

end Builder

/-- Every kind of element does with two texts what it does with their concatenation: it adds them to
its children, to its code, or drops them. -/
theorem Content.receive_text_receive_text (content : Content) (first second : String) :
    (content.receive (.text first)).receive (.text second) =
      content.receive (.text (first ++ second)) := by
  cases content with
  | element kind children | transparent children =>
    simp only [receive, Part.addTo, Builder.addText_addText]
  | codeBlock info code => simp only [receive, String.append_assoc]
  | htmlBlock code => simp only [receive, String.append_assoc]
  | list _ _ | table _ _ _ | row _ | discard => rfl

namespace Builder

/-! ## Chunks of a text -/

/-- Text events never fail. -/
theorem pushAll_textEvents_append (b : Builder) (chunks : List (String × Span))
    (rest : List (Event × Span)) :
    b.pushAll (textEvents chunks ++ rest) = (b.pushEach (textEvents chunks)).pushAll rest := by
  induction chunks generalizing b with
  | nil => rfl
  | cons chunk more ih =>
    rw [textEvents_cons, List.cons_append, pushAll, push_leaf, pushEach_cons, push_leaf]
    exact ih _

/-- Below an open element, chunks come to the text that they make up. -/
theorem pushEach_textEvents_enter (b : Builder) (closing : EndTag) (content : Content)
    {chunks : List (String × Span)} (hne : chunks ≠ []) :
    (b.enter ⟨closing, content⟩).pushEach (textEvents chunks) =
      b.enter ⟨closing, content.receive (.text (textOf chunks))⟩ := by
  induction chunks generalizing content with
  | nil => exact absurd rfl hne
  | cons chunk rest ih =>
    have hpush : ((b.enter ⟨closing, content⟩).push (.leaf (.text chunk.1)) chunk.2).1 =
        b.enter ⟨closing, content.receive (.text chunk.1)⟩ := by
      rw [push_leaf, prepare_enter]
      rfl
    rw [textEvents_cons, pushEach_cons, hpush]
    by_cases hrest : rest = []
    · rw [hrest, textOf_singleton]
      rfl
    · rw [ih _ hrest, Content.receive_text_receive_text, textOf_cons]

/-- At the top level, where no definition is waiting, chunks that follow one another come to the text
that they make up: what stands in front of the first is placed once, and between two of them there
is nothing. -/
theorem pushEach_textEvents_nil (source : String) (nodes : List Node) (lastEnd : Nat)
    {chunks : List (String × Span)} (hne : chunks ≠ []) {start stop : Nat}
    (h : Abut start chunks stop) :
    (Builder.mk source [] nodes [] lastEnd).pushEach (textEvents chunks) =
      ⟨source, [], addText (textOf chunks)
        (List.replicate (Text.blankLinesBetween source lastEnd start) .blankLine ++ nodes), [],
        stop⟩ := by
  induction chunks generalizing nodes lastEnd start with
  | nil => exact absurd rfl hne
  | cons chunk rest ih =>
    obtain ⟨text, span⟩ := chunk
    obtain ⟨rfl, hrest⟩ := h
    have hpush : ((Builder.mk source [] nodes [] lastEnd).push (.leaf (.text text)) span).1 =
        ⟨source, [], addText text
          (List.replicate (Text.blankLinesBetween source lastEnd span.start) .blankLine ++ nodes),
          [], span.stop⟩ := rfl
    rw [textEvents_cons, pushEach_cons, hpush]
    by_cases hnil : rest = []
    · subst hnil
      have hstop : span.stop = stop := hrest
      rw [textOf_singleton, hstop]
      rfl
    · rw [ih _ _ hnil hrest, Text.blankLinesBetween_self, List.replicate_zero, List.nil_append,
        addText_addText, textOf_cons]

/-- Chunks of one text may be cut as others here: an element is open, or else no definition is
waiting and both cover the same range of the source without a gap. -/
def MayRecut (b : Builder) (first second : List (String × Span)) : Prop :=
  b.stack ≠ [] ∨
    b.stack = [] ∧ b.definitions = [] ∧ ∃ start stop, Abut start first stop ∧ Abut start second stop

/-- How a text is cut makes no difference to the builder. -/
theorem pushEach_textEvents_congr {b : Builder} {first second : List (String × Span)}
    (hfirst : first ≠ []) (hsecond : second ≠ []) (htext : textOf first = textOf second)
    (hplace : b.MayRecut first second) :
    b.pushEach (textEvents first) = b.pushEach (textEvents second) := by
  rcases hplace with hopen | ⟨hstack, hdefinitions, start, stop, habut, habut'⟩
  · obtain ⟨⟨closing, content⟩, rest, hstack⟩ := List.exists_cons_of_ne_nil hopen
    rw [eq_enter_of_stack b hstack, pushEach_textEvents_enter _ _ _ hfirst,
      pushEach_textEvents_enter _ _ _ hsecond, htext]
  · obtain ⟨source, stack, nodes, definitions, lastEnd⟩ := b
    change stack = [] at hstack
    change definitions = [] at hdefinitions
    subst hstack hdefinitions
    rw [pushEach_textEvents_nil source nodes lastEnd hfirst habut,
      pushEach_textEvents_nil source nodes lastEnd hsecond habut', htext]

/-! ## Streams -/

/-- What the events of a stream that are no texts are answered with, in order: an error or none. A
text is never refused (`pushAll_textEvents_append`). -/
def answers (b : Builder) : List (Event × Span) → List (Option BuildError)
  | [] => []
  | entry :: rest =>
    (if entry.1.isText then [] else [(b.push entry.1 entry.2).2]) ++
      (b.push entry.1 entry.2).1.answers rest

theorem answers_append (b : Builder) (first second : List (Event × Span)) :
    b.answers (first ++ second) = b.answers first ++ (b.pushEach first).answers second := by
  induction first generalizing b with
  | nil => rfl
  | cons entry rest ih => rw [List.cons_append, answers, answers, ih, List.append_assoc, pushEach_cons]

theorem answers_textEvents (b : Builder) (chunks : List (String × Span)) :
    b.answers (textEvents chunks) = [] := by
  induction chunks generalizing b with
  | nil => rfl
  | cons chunk rest ih => exact ih _

/-- Two streams for a builder that differ in nothing but how texts are cut into events. -/
inductive Recut : Builder → List (Event × Span) → List (Event × Span) → Prop
  | nil (b : Builder) : Recut b [] []
  /-- The same event in both. -/
  | cons {b : Builder} (entry : Event × Span) {first second : List (Event × Span)}
    (h : Recut (b.push entry.1 entry.2).1 first second) : Recut b (entry :: first) (entry :: second)
  /-- The same text in both, in chunks that need not be the same. -/
  | chunks {b : Builder} {chunks chunks' : List (String × Span)} (hne : chunks ≠ [])
    (hne' : chunks' ≠ []) (htext : textOf chunks = textOf chunks')
    (hplace : b.MayRecut chunks chunks') {first second : List (Event × Span)}
    (h : Recut (b.pushEach (textEvents chunks)) first second) :
    Recut b (textEvents chunks ++ first) (textEvents chunks' ++ second)

theorem recut_self (b : Builder) (events : List (Event × Span)) : Recut b events events := by
  induction events generalizing b with
  | nil => exact .nil b
  | cons entry rest ih => exact .cons entry (ih _)

/-- The same events may follow on both sides. -/
theorem Recut.append {b : Builder} {events events' : List (Event × Span)} (h : Recut b events events')
    (later : List (Event × Span)) : Recut b (events ++ later) (events' ++ later) := by
  induction h with
  | nil b =>
    rw [List.nil_append]
    exact recut_self b later
  | cons entry _ ih => exact .cons entry ih
  | chunks hne hne' htext hplace _ ih =>
    rw [List.append_assoc, List.append_assoc]
    exact .chunks hne hne' htext hplace ih

/-- What holds of each place where texts are cut differently holds of the streams. -/
theorem pushEach_eq_of_recut {b : Builder} {events events' : List (Event × Span)}
    (h : Recut b events events') :
    b.pushEach events = b.pushEach events' ∧ b.answers events = b.answers events' ∧
      b.pushAll events = b.pushAll events' := by
  induction h with
  | nil b => exact ⟨rfl, rfl, rfl⟩
  | @cons b entry first second h ih =>
    obtain ⟨hstate, hanswers, hall⟩ := ih
    refine ⟨hstate, ?_, ?_⟩
    · rw [answers, answers, hanswers]
    · rw [pushAll, pushAll]
      rcases hpush : b.push entry.1 entry.2 with ⟨next, _ | error⟩
      · rw [hpush] at hall
        exact hall
      · rfl
  | @chunks b chunks chunks' hne hne' htext hplace first second h ih =>
    obtain ⟨hstate, hanswers, hall⟩ := ih
    have hcut := pushEach_textEvents_congr hne hne' htext hplace
    refine ⟨?_, ?_, ?_⟩
    · rw [pushEach_append, pushEach_append, hstate, hcut]
    · rw [answers_append, answers_append, answers_textEvents, answers_textEvents, hanswers, hcut]
    · rw [pushAll_textEvents_append, pushAll_textEvents_append, hall, hcut]

/-- How a reader cuts texts into events makes no difference. Where an element is open, two texts in
a row leave the builder that their concatenation leaves, whatever the spans; at the top level they do
so if no definition is waiting and the second begins where the first ends. So two streams that differ
at any number of such places leave the same builder, answer each other event alike, and go on alike
with whatever comes after them. -/
theorem pushEach_recut (b : Builder) :
    (b.stack ≠ [] → ∀ first second span span' joint,
      b.pushAll [(.leaf (.text first), span), (.leaf (.text second), span')] =
        b.pushAll [(.leaf (.text (first ++ second)), joint)]) ∧
    (b.stack = [] → b.definitions = [] → ∀ first second p q r,
      b.pushAll [(.leaf (.text first), ⟨p, q⟩), (.leaf (.text second), ⟨q, r⟩)] =
        b.pushAll [(.leaf (.text (first ++ second)), ⟨p, r⟩)]) ∧
    ∀ events events', Recut b events events' → ∀ later,
      b.pushEach (events ++ later) = b.pushEach (events' ++ later) ∧
      b.answers (events ++ later) = b.answers (events' ++ later) ∧
      b.pushAll (events ++ later) = b.pushAll (events' ++ later) := by
  -- two chunks against one, read as streams
  have htwo : ∀ first second span span' joint,
      b.MayRecut [(first, span), (second, span')] [(first ++ second, joint)] →
        b.pushAll [(.leaf (.text first), span), (.leaf (.text second), span')] =
          b.pushAll [(.leaf (.text (first ++ second)), joint)] := by
    intro first second span span' joint hplace
    have htext : textOf [(first, span), (second, span')] = textOf [(first ++ second, joint)] := by
      rw [textOf_cons, textOf_singleton, textOf_singleton]
    exact (pushEach_eq_of_recut
      (.chunks (List.cons_ne_nil _ _) (List.cons_ne_nil _ _) htext hplace (.nil _))).2.2
  refine ⟨fun hopen first second span span' joint => ?_,
    fun hstack hdefinitions first second p q r => ?_, fun events events' h later => ?_⟩
  · exact htwo first second span span' joint (.inl hopen)
  · exact htwo first second _ _ _ (.inr ⟨hstack, hdefinitions, p, r, ⟨rfl, rfl, rfl⟩, rfl, rfl⟩)
  · exact pushEach_eq_of_recut (h.append later)

/-- A paragraph and a text behind it, each cut in two ways; one of the chunks is empty. -/
theorem pushEach_recut_emptyChunk :
    let b : Builder := new "ab\ncde"
    let events := (Event.start .paragraph, Span.mk 0 3) :: (textEvents [("ab", ⟨0, 2⟩)] ++
      (.stop .paragraph, ⟨0, 3⟩) :: (textEvents [("c", ⟨3, 4⟩), ("de", ⟨4, 6⟩)] ++
        [(.leaf .rule, ⟨6, 6⟩)]))
    let events' := (Event.start .paragraph, Span.mk 0 3) ::
      (textEvents [("a", ⟨7, 1⟩), ("", ⟨1, 1⟩), ("b", ⟨0, 0⟩)] ++
        (.stop .paragraph, ⟨0, 3⟩) :: (textEvents [("cd", ⟨3, 5⟩), ("e", ⟨5, 6⟩)] ++
          [(.leaf .rule, ⟨6, 6⟩)]))
    let stray := [(Event.stop .table, Span.mk 6 6)]
    b.Recut events events' ∧ b.pushEach (events ++ stray) = b.pushEach (events' ++ stray) ∧
      b.answers (events' ++ stray) = [none, none, none, some (.unexpectedEnd .table 6)] := by
  intro b events events' stray
  have hrecut : b.Recut events events' := by
    refine .cons _ (.chunks ?_ ?_ ?_ ?_ (.cons _ (.chunks ?_ ?_ ?_ ?_ (recut_self _ _))))
    · exact List.cons_ne_nil _ _
    · exact List.cons_ne_nil _ _
    · rfl
    · exact .inl (List.cons_ne_nil _ _)
    · exact List.cons_ne_nil _ _
    · exact List.cons_ne_nil _ _
    · rfl
    · exact .inr ⟨rfl, rfl, 3, 6, ⟨rfl, rfl, rfl⟩, rfl, rfl, rfl⟩
  obtain ⟨hstate, hanswers, -⟩ := (pushEach_recut b).2.2 events events' hrecut stray
  exact ⟨hrecut, hstate, hanswers.symm⟩

end Builder

end MarkdownHtml
