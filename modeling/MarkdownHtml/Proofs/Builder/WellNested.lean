import Mathlib.Data.List.Induction
import MarkdownHtml.Proofs.Builder.Brackets

/-!
# Bracketed streams are the streams of forests

A stream that is bracketed and ends all that it starts describes a forest, and the other way round
(`exists_flattenAll_eq_iff`); each of its starts has an end (`exists_end_of_start`). While a stream
is being read, the elements that are open hold finished trees in front of the element that is open
inside them: `flattenOpen` writes such a forest with open ends, and one more event changes it at its
innermost place only. So whatever a builder turns into a document is read as `Document.ofForest`
reads it (`exists_forest_of_finish`).
-/

namespace MarkdownHtml

/-- An element that has been started and not ended. -/
structure OpenElement where
  /-- What stands before it in the element around it. -/
  before : List EventTree
  tag : Tag
  opening : Span

/-- The stream of open elements, innermost first, and of the trees that the innermost one holds. -/
def flattenOpen : List OpenElement → List EventTree → List (Event × Span)
  | [], trees => flattenAll trees
  | inner :: outer, trees =>
    flattenOpen outer inner.before ++ (.start inner.tag, inner.opening) :: flattenAll trees

theorem flattenAll_append (first second : List EventTree) :
    flattenAll (first ++ second) = flattenAll first ++ flattenAll second := by
  induction first with
  | nil => rfl
  | cons tree rest ih => rw [List.cons_append, flattenAll, flattenAll, ih, List.append_assoc]

/-- More trees come last, whatever is open around them. -/
theorem flattenOpen_append (opened : List OpenElement) (trees more : List EventTree) :
    flattenOpen opened (trees ++ more) = flattenOpen opened trees ++ flattenAll more := by
  cases opened with
  | nil => exact flattenAll_append trees more
  | cons inner outer =>
    rw [flattenOpen, flattenOpen, flattenAll_append, List.append_assoc, List.cons_append]

theorem bracketed_nil : Bracketed [] := by
  intro before tag span rest heq
  exact absurd heq.symm (List.append_ne_nil_of_right_ne_nil before (List.cons_ne_nil _ _))

/-- What stands before an event of a bracketed stream is bracketed. -/
theorem Bracketed.of_append {events more : List (Event × Span)} (h : Bracketed (events ++ more)) :
    Bracketed events := by
  rintro before tag span rest rfl
  exact h before tag span (rest ++ more) (by rw [List.append_assoc, List.cons_append])

theorem unended_append (events more : List (Event × Span)) :
    unended (events ++ more) = more.foldl (fun opened entry => entry.1.after opened)
      (unended events) :=
  List.foldl_append

/-- A bracketed stream is that of a forest with open ends; open are the starts that it does not
end. -/
theorem exists_flattenOpen {events : List (Event × Span)} (h : Bracketed events) :
    ∃ opened trees, flattenOpen opened trees = events ∧
      opened.map OpenElement.tag = unended events := by
  induction events using List.reverseRecOn with
  | nil => exact ⟨[], [], rfl, rfl⟩
  | append_singleton events entry ih =>
    obtain ⟨opened, trees, rfl, htags⟩ := ih h.of_append
    obtain ⟨event, span⟩ := entry
    rw [unended_append, ← htags, List.foldl_cons, List.foldl_nil]
    cases event with
    | start tag =>
      refine ⟨⟨trees, tag, span⟩ :: opened, [], ?_, rfl⟩
      rw [flattenOpen, flattenAll]
    | leaf leaf =>
      refine ⟨opened, trees ++ [.leaf leaf span], ?_, rfl⟩
      rw [flattenOpen_append]
      rfl
    | stop tag =>
      -- the innermost open element is there, and this is its end
      have hhead := h (flattenOpen opened trees) tag span [] rfl
      rw [← htags] at hhead
      cases opened with
      | nil => cases hhead
      | cons inner outer =>
        have hend : inner.tag.toEnd = tag := by simpa using hhead
        refine ⟨outer, inner.before ++ [.element inner.tag inner.opening trees span], ?_, rfl⟩
        rw [flattenOpen_append, flattenOpen, ← hend]
        simp [flattenAll, EventTree.flatten]

/-- A stream describes a forest exactly when it is bracketed and ends all that it starts. -/
theorem exists_flattenAll_eq_iff (events : List (Event × Span)) :
    (∃ forest, flattenAll forest = events) ↔ Bracketed events ∧ unended events = [] := by
  constructor
  · rintro ⟨forest, rfl⟩
    exact (Builder.ofEvents_ok_iff "" [] _).1 (Builder.ofEvents_flattenAll "" [] forest)
  · rintro ⟨hbracketed, hended⟩
    obtain ⟨opened, trees, hevents, htags⟩ := exists_flattenOpen hbracketed
    rw [hended, List.map_eq_nil_iff] at htags
    subst htags
    exact ⟨trees, hevents⟩

/-! ## The end of a start -/

/-- A bracketed stream leaves alone what is open before it. -/
theorem foldl_after_of_bracketed {events : List (Event × Span)} (h : Bracketed events)
    (outer : List Tag) :
    events.foldl (fun opened entry => entry.1.after opened) outer = unended events ++ outer := by
  induction events using List.reverseRecOn with
  | nil => rfl
  | append_singleton events entry ih =>
    obtain ⟨event, span⟩ := entry
    rw [unended_append, List.foldl_append, ih h.of_append]
    cases event with
    | start tag => rfl
    | leaf leaf => rfl
    | stop tag =>
      have hhead := h events tag span [] rfl
      rcases hopened : unended events with _ | ⟨innermost, opened⟩
      · rw [hopened] at hhead
        cases hhead
      · rfl

/-- One more event keeps a stream bracketed if, as an end event, it ends the innermost start. -/
theorem Bracketed.append_singleton {events : List (Event × Span)} (h : Bracketed events)
    {entry : Event × Span}
    (hentry : ∀ tag, entry.1 = .stop tag → (unended events).head?.map Tag.toEnd = some tag) :
    Bracketed (events ++ [entry]) := by
  intro before tag span rest heq
  rcases List.eq_nil_or_concat rest with rfl | ⟨front, last, rfl⟩
  · obtain ⟨rfl, hlast⟩ := List.append_inj' heq rfl
    rw [List.singleton_inj] at hlast
    exact hentry tag (congrArg Prod.fst hlast)
  · rw [List.concat_eq_append, ← List.cons_append, ← List.append_assoc] at heq
    obtain ⟨rfl, -⟩ := List.append_inj' heq rfl
    exact h before tag span front rfl

/-- In a bracketed stream that ends all that it starts, every start has an end: all that is started
between the two is ended between them. -/
theorem exists_end_of_start {before rest : List (Event × Span)} {tag : Tag} {opening : Span}
    (h : Bracketed (before ++ (.start tag, opening) :: rest))
    (hended : unended (before ++ (.start tag, opening) :: rest) = []) :
    ∃ inner closing after, rest = inner ++ (.stop tag.toEnd, closing) :: after ∧
      Bracketed inner ∧ unended inner = [] := by
  -- `inner` is what has been read since the start without coming to its end
  suffices hread : ∀ inner, Bracketed inner →
      Bracketed (before ++ (.start tag, opening) :: (inner ++ rest)) →
      unended (before ++ (.start tag, opening) :: (inner ++ rest)) = [] →
      ∃ inner' closing after, inner ++ rest = inner' ++ (.stop tag.toEnd, closing) :: after ∧
        Bracketed inner' ∧ unended inner' = [] from
    hread [] bracketed_nil h hended
  have hopen : ∀ inner, Bracketed inner →
      unended (before ++ (.start tag, opening) :: inner) =
        unended inner ++ tag :: unended before := by
    intro inner hinner
    rw [unended_append, List.foldl_cons, foldl_after_of_bracketed hinner]
    rfl
  clear h hended
  induction rest with
  | nil =>
    intro inner hinner _ hended
    rw [List.append_nil, hopen inner hinner] at hended
    simp at hended
  | cons entry rest ih =>
    intro inner hinner h hended
    -- unless this is the end, it belongs to what is between
    have hnext (hentry : ∀ tag, entry.1 = .stop tag →
        (unended inner).head?.map Tag.toEnd = some tag) := by
      have hlonger := ih (inner ++ [entry]) (hinner.append_singleton hentry)
      rw [List.append_assoc, List.singleton_append] at hlonger
      exact hlonger h hended
    obtain ⟨event, span⟩ := entry
    cases event with
    | start other => exact hnext fun _ hstop => Event.noConfusion hstop
    | leaf leaf => exact hnext fun _ hstop => Event.noConfusion hstop
    | stop endTag =>
      have hhead := h (before ++ (.start tag, opening) :: inner) endTag span rest
        (by rw [List.append_assoc, List.cons_append])
      rw [hopen inner hinner] at hhead
      rcases hopened : unended inner with _ | ⟨innermost, opened⟩
      · rw [hopened] at hhead
        have hend : tag.toEnd = endTag := by simpa using hhead
        exact ⟨inner, span, rest, by rw [hend], hinner, hopened⟩
      · refine hnext fun other hstop => ?_
        cases hstop
        rw [hopened] at hhead ⊢
        exact hhead

namespace Builder

variable {source : String} {definitions : List Definition} {events : List (Event × Span)}

/-- A builder that has taken a stream without an error and finishes has read a forest. -/
theorem exists_forest_of_finish {b : Builder} {document : Document}
    (hrun : (start source definitions).pushAll events = .ok b)
    (hfinish : b.finish = .ok document) :
    ∃ forest, flattenAll forest = events ∧
      document = Document.ofForest source definitions forest := by
  have hbracketed : Bracketed events := (pushAll_start_ok_iff source definitions events).1 ⟨b, hrun⟩
  have hended : unended events = [] :=
    (finish_of_pushAll_start source definitions events hrun).1.1 ⟨document, hfinish⟩
  obtain ⟨forest, rfl⟩ := (exists_flattenAll_eq_iff events).2 ⟨hbracketed, hended⟩
  -- the forest's own run is this run
  obtain ⟨b', hrun', hfinish'⟩ := pushAll_flattenAll_nil source [] definitions 0 forest
  have hsame : b' = b := Except.ok.inj (hrun'.symm.trans hrun)
  refine ⟨forest, rfl, ?_⟩
  rw [hsame, hfinish] at hfinish'
  exact Except.ok.inj hfinish'

/-- What a stream is made into is what the forest that it describes is read as. -/
theorem exists_forest_of_ofEvents {document : Document}
    (h : Document.ofEvents source definitions events = .ok document) :
    ∃ forest, flattenAll forest = events ∧ document = Document.ofForest source
      (definitions.mergeSort fun a b => a.start ≤ b.start) forest := by
  obtain ⟨b, hrun, hfinish⟩ := ofEvents_eq_ok_iff.1 h
  exact exists_forest_of_finish hrun hfinish

end Builder

end MarkdownHtml
