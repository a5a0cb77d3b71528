import MarkdownHtml.Proofs.Builder.Alike
import MarkdownHtml.Proofs.Builder.WellNested
import MarkdownHtml.Proofs.Html.Merged

/-!
# Elements without a node of their own

A footnote definition, a definition list with its titles and definitions, a superscript and a
subscript hand their contents on to the element around them. Where that element holds nodes, they
can be left out: what is inside is read into the element around it directly, which comes to the same
up to how texts are cut (`Content.alike_foldl_receive`), and from there on the two runs stay alike.
-/

namespace MarkdownHtml

/-- A tag whose element has no node of its own. -/
def Tag.isTransparent : Tag → Bool
  | .footnoteDefinition | .definitionList | .definitionListTitle | .definitionListDefinition
  | .superscript | .subscript => true
  | _ => false

/-- An open element that takes whatever nodes come. -/
def Content.holdsNodes : Content → Bool
  | .element _ _ | .transparent _ => true
  | _ => false

theorem Tag.part_of_isTransparent {tag : Tag} (h : tag.isTransparent = true) (parts : List Part) :
    tag.part parts = .nodes (Part.flow parts) := by
  cases tag with
  | footnoteDefinition | definitionList | definitionListTitle | definitionListDefinition
  | superscript | subscript => rfl
  | _ => cases h

/-- Parts that are read apart and then taken as finished nodes, or taken one by one: the difference
is how the text on either side of the seam is cut. -/
theorem Content.alike_foldl_receive {content : Content} (h : content.holdsNodes = true)
    (parts : List Part) :
    (content.receive (.nodes (Part.flow parts))).Alike (parts.foldl receive content) := by
  have hmerged : ∀ children : List Node,
      mergedAll (Part.addTo (.nodes (Part.flow parts)) children).reverse =
        mergedAll (parts.foldl (fun nodes p => p.addTo nodes) children).reverse := by
    intro children
    rw [Part.reverse_addTo, Part.reverse_foldl_addTo,
      Part.view_foldl_appendTo ignoresSeams_mergedAll]
    exact mergedAll_append_congr rfl (Part.view_flow ignoresSeams_mergedAll parts)
  cases content with
  | element kind children =>
    rw [foldl_receive_element]
    exact .element kind (hmerged children)
  | transparent children =>
    rw [foldl_receive_transparent]
    exact .transparent (hmerged children)
  | _ => cases h

namespace Builder

/-- The events of trees, with a transparent element around them or without: both runs go through and
leave alike builders. -/
theorem alike_unwrapped {b : Builder}
    (hholds : b.stack.head?.any (·.content.holdsNodes) = true) {tag : Tag}
    (htag : tag.isTransparent = true) (opening closing : Span) (trees : List EventTree) :
    ∃ wrapped unwrapped,
      b.pushAll (EventTree.element tag opening trees closing).flatten = .ok wrapped ∧
      b.pushAll (flattenAll trees) = .ok unwrapped ∧ wrapped.Alike unwrapped := by
  rcases hstack : b.stack with _ | ⟨⟨endTag, content⟩, rest⟩
  · rw [hstack] at hholds
    cases hholds
  · rw [hstack] at hholds
    have hcontent : content.holdsNodes = true := by simpa using hholds
    rw [eq_enter_of_stack b hstack]
    refine ⟨_, _, pushAll_flatten _ _, pushAll_flattenAll_enter _ _ _ _, ?_⟩
    rw [prepare_enter, receive_enter, noteEnd_enter, EventTree.part, Tag.part_of_isTransparent htag]
    exact alike_enter (.refl _) ⟨rfl, Content.alike_foldl_receive hcontent _⟩

section Runs

variable {source : String} {definitions : List Definition} {events : List (Event × Span)}
  {b next : Builder} {document : Document}

/-- The document of a run has the HTML that it has once its adjacent texts are put together. -/
theorem html_merged_of_finish (hrun : (start source definitions).pushAll events = .ok next)
    (hfinish : next.finish = .ok document) (context : RenderContext) :
    document.merged.html context = document.html context := by
  have hbuilt : next.Built true :=
    built_pushAll (built_start source definitions) (fun _ _ _ => rfl) hrun
  exact document.html_merged context (built_finish hbuilt hfinish)

variable {before rest : List (Event × Span)} {tag : Tag} {opening : Span}

/-- In a run that makes a document, an element without a node of its own that stands in an element
which holds nodes may be left out, its start and its end: the run still makes a document, it is the
same one up to how texts are cut, and it has the same HTML. -/
theorem pushAll_without_transparent (htag : tag.isTransparent = true)
    (hbefore : (start source definitions).pushAll before = .ok b)
    (hholds : b.stack.head?.any (·.content.holdsNodes) = true)
    (hrun : (start source definitions).pushAll (before ++ (.start tag, opening) :: rest) = .ok next)
    (hfinish : next.finish = .ok document) :
    ∃ inner closing after, rest = inner ++ (.stop tag.toEnd, closing) :: after ∧
      Bracketed inner ∧ unended inner = [] ∧
      ∃ next' document',
        (start source definitions).pushAll (before ++ (inner ++ after)) = .ok next' ∧
        next'.finish = .ok document' ∧ document'.merged = document.merged ∧
        ∀ context, document'.html context = document.html context := by
  obtain ⟨inner, closing, after, rfl, hinner, hended⟩ := exists_end_of_start
    ((pushAll_start_ok_iff source definitions _).1 ⟨next, hrun⟩)
    ((finish_of_pushAll_start source definitions _ hrun).1.1 ⟨document, hfinish⟩)
  obtain ⟨trees, rfl⟩ := (exists_flattenAll_eq_iff inner).2 ⟨hinner, hended⟩
  obtain ⟨wrapped, unwrapped, hwrapped, hunwrapped, halike⟩ :=
    alike_unwrapped hholds htag opening closing trees
  -- the run with the element: to its start, through the element, and on
  have helement : (Event.start tag, opening) :: (flattenAll trees ++
      (.stop tag.toEnd, closing) :: after) =
      (EventTree.element tag opening trees closing).flatten ++ after := by
    simp [EventTree.flatten]
  have hafter : wrapped.pushAll after = .ok next := by
    rw [helement, pushAll_append, hbefore, Except.bind, pushAll_append, hwrapped] at hrun
    exact hrun
  obtain ⟨next', hafter', hnext⟩ := alike_pushAll halike hafter
  obtain ⟨document', hfinish', hmerged⟩ := alike_finish hnext hfinish
  have hrun' : (start source definitions).pushAll (before ++ (flattenAll trees ++ after)) =
      .ok next' := by
    rw [pushAll_append, hbefore, Except.bind, pushAll_append, hunwrapped]
    exact hafter'
  refine ⟨flattenAll trees, closing, after, rfl, hinner, hended, next', document', hrun', hfinish',
    hmerged, fun context => ?_⟩
  rw [← html_merged_of_finish hrun' hfinish' context, hmerged,
    html_merged_of_finish hrun hfinish context]

end Runs

/-- A superscript between two texts of a paragraph. -/
theorem pushAll_without_transparent_superscript :
    ∃ inner closing after,
      [(Event.leaf (.text "b"), Span.mk 1 2), (.stop .superscript, ⟨1, 2⟩),
        (.leaf (.text "c"), ⟨2, 3⟩), (.stop .paragraph, ⟨0, 3⟩)] =
        inner ++ (.stop .superscript, closing) :: after ∧
      Bracketed inner ∧ unended inner = [] ∧
      ∃ next' document', (start "abc" []).pushAll ([(.start .paragraph, ⟨0, 3⟩),
          (.leaf (.text "a"), ⟨0, 1⟩)] ++ (inner ++ after)) = .ok next' ∧
        next'.finish = .ok document' ∧ document'.merged = ⟨[.paragraph [.text "abc"]]⟩ ∧
        ∀ context, document'.html context = "<p>abc</p>" := by
  have hbefore : (start "abc" []).pushAll
      [(.start .paragraph, ⟨0, 3⟩), (.leaf (.text "a"), ⟨0, 1⟩)] =
      .ok ((start "abc" []).enter ⟨.paragraph, .element .paragraph [.text "a"]⟩) := rfl
  have hrun : (start "abc" []).pushAll
      ([(.start .paragraph, ⟨0, 3⟩), (.leaf (.text "a"), ⟨0, 1⟩)] ++
      (.start .superscript, ⟨1, 2⟩) :: [(.leaf (.text "b"), ⟨1, 2⟩), (.stop .superscript, ⟨1, 2⟩),
        (.leaf (.text "c"), ⟨2, 3⟩), (.stop .paragraph, ⟨0, 3⟩)]) =
      .ok ⟨"abc", [], [.paragraph [.text "a", .text "bc"]], [], 3⟩ := rfl
  exact pushAll_without_transparent rfl hbefore rfl hrun rfl

end Builder

end MarkdownHtml
