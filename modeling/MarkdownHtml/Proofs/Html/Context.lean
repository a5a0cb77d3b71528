import MarkdownHtml.Convert
import MarkdownHtml.Proofs.Builder.Shape
import MarkdownHtml.Proofs.Builder.WellNested

/-!
# What the render context reaches

Of a whole tree, the context is read by the widgets that it reaches (`Node.reached`): not by those
in an image description, of which only the plain text is used, and not by those below a widget that
brings a context of its own. Two contexts that agree on what these widgets read give the same HTML
(`Node.html_congr`). A builder makes no widgets, so that no context matters to what it builds.
-/

namespace MarkdownHtml

mutual

/-- The widgets inside a node that are rendered over the context of the node. -/
def Node.reached : Node → List Widget
  | .paragraph children | .blockQuote children | .heading _ children | .listItem children
  | .emphasis _ children | .strikethrough children | .link _ _ children => reachedAll children
  | .list _ items => reachedEach items
  | .table _ header rows => reachedEach header ++ reachedRows rows
  | .widget _ w => w.reached
  | .image _ _ _ | .blankLine | .codeBlock _ _ | .htmlBlock _ | .linkReferenceDefinition _ _ _
  | .thematicBreak | .text _ | .codeSpan _ | .hardBreak | .softBreak | .rawHtml _
  | .autoLink _ _ => []

/-- The widget itself, and those that it renders over the context that it is given. -/
def Widget.reached : Widget → List Widget
  | .callout key children => .callout key children :: reachedAll children
  | w => [w]

/-- The widgets of nodes in a row that are rendered over the context of the nodes. -/
def reachedAll : List Node → List Widget
  | [] => []
  | node :: rest => node.reached ++ reachedAll rest

/-- The same for list items, or for cells. -/
def reachedEach : List (List Node) → List Widget
  | [] => []
  | nodes :: rest => reachedAll nodes ++ reachedEach rest

/-- The same for table rows. -/
def reachedRows : List (List (List Node)) → List Widget
  | [] => []
  | row :: rest => reachedEach row ++ reachedRows rest

end

/-- The widgets of a document that are rendered over the document's context. -/
def Document.reached (document : Document) : List Widget := reachedAll document.children

namespace RenderContext

/-- Two contexts agree on all that some widgets read of them: a callout the value of its key, and a
dump everything. -/
structure AgreeOn (first second : RenderContext) (widgets : List Widget) : Prop where
  callout : ∀ key children, .callout key children ∈ widgets → first.get? key = second.get? key
  dump : .dump ∉ widgets ∨ first = second

variable {first second : RenderContext} {widgets : List Widget}

theorem AgreeOn.mono (h : first.AgreeOn second widgets) {fewer : List Widget}
    (hsubset : fewer ⊆ widgets) : first.AgreeOn second fewer :=
  ⟨fun key children hmem => h.callout key children (hsubset hmem),
    h.dump.imp_left fun hnot hmem => hnot (hsubset hmem)⟩

theorem agreeOn_append {front back : List Widget} (h : first.AgreeOn second (front ++ back)) :
    first.AgreeOn second front ∧ first.AgreeOn second back :=
  ⟨h.mono (List.subset_append_left front back), h.mono (List.subset_append_right front back)⟩

theorem agreeOn_nil : first.AgreeOn second [] :=
  ⟨fun _ _ hmem => absurd hmem List.not_mem_nil, .inl List.not_mem_nil⟩

end RenderContext

/-! ## Contexts that agree -/

section Agreement

open RenderContext

variable {first second : RenderContext}

mutual

/-- Contexts that agree on the widgets that they reach give the same HTML. -/
theorem Node.html_congr (node : Node) (h : first.AgreeOn second node.reached) :
    node.html first = node.html second := by
  cases node with
  | paragraph children | blockQuote children | heading _ children | emphasis _ children
  | strikethrough children | link _ _ children =>
    rw [Node.reached] at h
    rw [Node.html, Node.html, htmlEach_congr children h]
  | listItem children =>
    rw [Node.reached] at h
    rw [Node.html, Node.html, itemHtml_congr children h]
  | list firstNumber items =>
    rw [Node.reached] at h
    rw [Node.html, Node.html, itemHtmlEach_congr items h]
  | table alignments header rows =>
    rw [Node.reached] at h
    obtain ⟨hheader, hrows⟩ := agreeOn_append h
    rw [Node.html, Node.html, cellHtmlEach_congr header hheader, rowCellsEach_congr rows hrows]
  | widget handle w =>
    rw [Node.reached] at h
    rw [Node.html, Node.html, Widget.html_congr w h]
  | image _ _ _ | blankLine | codeBlock _ _ | htmlBlock _ | linkReferenceDefinition _ _ _
  | thematicBreak | text _ | codeSpan _ | hardBreak | softBreak | rawHtml _ | autoLink _ _ =>
    rw [Node.html, Node.html]

/-- A callout reads one value and hands the context on, and a dump reads all of it; a widget with a
context of its own hands on that one. -/
theorem Widget.html_congr (w : Widget) (h : first.AgreeOn second w.reached) :
    w.html first = w.html second := by
  cases w with
  | marker | badge _ _ | rescope _ _ => rw [Widget.html, Widget.html]
  | callout key children =>
    rw [Widget.reached] at h
    have hchildren := htmlEach_congr children (h.mono (List.subset_cons_self _ _))
    rw [Widget.html, Widget.html, h.callout key children List.mem_cons_self, hchildren]
  | dump =>
    rcases h.dump with hnot | heq
    · exact absurd List.mem_cons_self hnot
    · rw [heq]

theorem htmlEach_congr (nodes : List Node) (h : first.AgreeOn second (reachedAll nodes)) :
    htmlEach first nodes = htmlEach second nodes := by
  cases nodes with
  | nil => rfl
  | cons node rest =>
    rw [reachedAll] at h
    obtain ⟨hnode, hrest⟩ := agreeOn_append h
    rw [htmlEach, htmlEach, Node.html_congr node hnode, htmlEach_congr rest hrest]

theorem itemHtml_congr (blocks : List Node) (h : first.AgreeOn second (reachedAll blocks)) :
    itemHtml first blocks = itemHtml second blocks := by
  cases blocks with
  | nil => rfl
  | cons node rest =>
    rw [reachedAll] at h
    obtain ⟨hnode, hrest⟩ := agreeOn_append h
    have hself := Node.html_congr node hnode
    have heach := htmlEach_congr rest hrest
    cases node with
    | paragraph children =>
      rw [Node.reached] at hnode
      have hchildren := htmlEach_congr children hnode
      cases rest with
      | nil => rw [itemHtml, itemHtml, hchildren]
      | cons next rest => simp only [itemHtml, hself, heach]
    | _ => simp only [itemHtml, hself, heach]

theorem itemHtmlEach_congr (items : List (List Node))
    (h : first.AgreeOn second (reachedEach items)) :
    itemHtmlEach first items = itemHtmlEach second items := by
  cases items with
  | nil => rfl
  | cons blocks rest =>
    rw [reachedEach] at h
    obtain ⟨hblocks, hrest⟩ := agreeOn_append h
    rw [itemHtmlEach, itemHtmlEach, itemHtml_congr blocks hblocks, itemHtmlEach_congr rest hrest]

theorem cellHtmlEach_congr (cells : List (List Node))
    (h : first.AgreeOn second (reachedEach cells)) :
    cellHtmlEach first cells = cellHtmlEach second cells := by
  cases cells with
  | nil => rfl
  | cons cell rest =>
    rw [reachedEach] at h
    obtain ⟨hcell, hrest⟩ := agreeOn_append h
    rw [cellHtmlEach, cellHtmlEach, htmlEach_congr cell hcell, cellHtmlEach_congr rest hrest]

theorem rowCellsEach_congr (rows : List (List (List Node)))
    (h : first.AgreeOn second (reachedRows rows)) :
    rowCellsEach first rows = rowCellsEach second rows := by
  cases rows with
  | nil => rfl
  | cons row rest =>
    rw [reachedRows] at h
    obtain ⟨hrow, hrest⟩ := agreeOn_append h
    rw [rowCellsEach, rowCellsEach, cellHtmlEach_congr row hrow, rowCellsEach_congr rest hrest]

end

end Agreement

/-! ## Trees without widgets -/

mutual

/-- A widget that a context reaches stands in the tree. -/
theorem Node.mem_inside_of_mem_reached (node : Node) {w : Widget} (h : w ∈ node.reached) :
    ∃ handle, .widget handle w ∈ node :: node.inside := by
  cases node with
  | paragraph children | blockQuote children | heading _ children | listItem children
  | emphasis _ children | strikethrough children | link _ _ children =>
    rw [Node.reached] at h
    obtain ⟨handle, hmem⟩ := mem_withinAll_of_mem_reachedAll children h
    exact ⟨handle, List.mem_cons_of_mem _ hmem⟩
  | list firstNumber items =>
    rw [Node.reached] at h
    obtain ⟨handle, hmem⟩ := mem_withinEach_of_mem_reachedEach items h
    exact ⟨handle, List.mem_cons_of_mem _ hmem⟩
  | table alignments header rows =>
    rw [Node.reached, List.mem_append] at h
    rcases h with h | h
    · obtain ⟨handle, hmem⟩ := mem_withinEach_of_mem_reachedEach header h
      exact ⟨handle, List.mem_cons_of_mem _ (List.mem_append_left _ hmem)⟩
    · obtain ⟨handle, hmem⟩ := mem_withinRows_of_mem_reachedRows rows h
      exact ⟨handle, List.mem_cons_of_mem _ (List.mem_append_right _ hmem)⟩
  | widget handle inner =>
    rw [Node.reached] at h
    cases inner with
    | callout key children =>
      rw [Widget.reached] at h
      rcases List.mem_cons.1 h with rfl | h
      · exact ⟨handle, List.mem_cons_self⟩
      · obtain ⟨innerHandle, hmem⟩ := mem_withinAll_of_mem_reachedAll children h
        exact ⟨innerHandle, List.mem_cons_of_mem _ hmem⟩
    | marker | badge _ _ | dump | rescope _ _ =>
      rw [List.mem_singleton.1 h]
      exact ⟨handle, List.mem_cons_self⟩
  | image _ _ _ | blankLine | codeBlock _ _ | htmlBlock _ | linkReferenceDefinition _ _ _
  | thematicBreak | text _ | codeSpan _ | hardBreak | softBreak | rawHtml _ | autoLink _ _ =>
    rw [Node.reached] at h
    exact absurd h List.not_mem_nil

theorem mem_withinAll_of_mem_reachedAll (nodes : List Node) {w : Widget}
    (h : w ∈ reachedAll nodes) : ∃ handle, .widget handle w ∈ withinAll nodes := by
  cases nodes with
  | nil => exact absurd h List.not_mem_nil
  | cons node rest =>
    rw [reachedAll, List.mem_append] at h
    rw [withinAll, ← List.cons_append]
    rcases h with h | h
    · obtain ⟨handle, hmem⟩ := Node.mem_inside_of_mem_reached node h
      exact ⟨handle, List.mem_append_left _ hmem⟩
    · obtain ⟨handle, hmem⟩ := mem_withinAll_of_mem_reachedAll rest h
      exact ⟨handle, List.mem_append_right _ hmem⟩

theorem mem_withinEach_of_mem_reachedEach (items : List (List Node)) {w : Widget}
    (h : w ∈ reachedEach items) : ∃ handle, .widget handle w ∈ withinEach items := by
  cases items with
  | nil => exact absurd h List.not_mem_nil
  | cons nodes rest =>
    rw [reachedEach, List.mem_append] at h
    rw [withinEach]
    rcases h with h | h
    · obtain ⟨handle, hmem⟩ := mem_withinAll_of_mem_reachedAll nodes h
      exact ⟨handle, List.mem_append_left _ hmem⟩
    · obtain ⟨handle, hmem⟩ := mem_withinEach_of_mem_reachedEach rest h
      exact ⟨handle, List.mem_append_right _ hmem⟩

theorem mem_withinRows_of_mem_reachedRows (rows : List (List (List Node))) {w : Widget}
    (h : w ∈ reachedRows rows) : ∃ handle, .widget handle w ∈ withinRows rows := by
  cases rows with
  | nil => exact absurd h List.not_mem_nil
  | cons row rest =>
    rw [reachedRows, List.mem_append] at h
    rw [withinRows]
    rcases h with h | h
    · obtain ⟨handle, hmem⟩ := mem_withinEach_of_mem_reachedEach row h
      exact ⟨handle, List.mem_append_left _ hmem⟩
    · obtain ⟨handle, hmem⟩ := mem_withinRows_of_mem_reachedRows rest h
      exact ⟨handle, List.mem_append_right _ hmem⟩

end

namespace Document

variable {source : String} {definitions : List Definition} {events : List (Event × Span)}
  {document : Document}

/-- A builder makes no widgets. -/
theorem widget_not_mem_of_ofEvents (h : ofEvents source definitions events = .ok document)
    (handle : Nat) (w : Widget) : .widget handle w ∉ withinAll document.children := by
  intro hmem
  obtain ⟨node, hnode, hinner⟩ := mem_withinAll_iff.1 hmem
  rcases Builder.built_ofEvents (fun _ _ _ => rfl) h node hnode with hbetween | hbuilt
  · cases node with
    | blankLine | linkReferenceDefinition _ _ _ => simp [Node.inside] at hinner
    | _ => cases hbetween
  · have hadmissible : (Node.widget handle w).admissible true = true :=
      hbuilt _ (List.mem_cons.2 hinner)
    cases hadmissible

/-- No context reaches anything in a document that a builder makes. -/
theorem reached_of_ofEvents (h : ofEvents source definitions events = .ok document) :
    document.reached = [] := by
  rw [List.eq_nil_iff_forall_not_mem]
  intro w hw
  obtain ⟨handle, hmem⟩ := mem_withinAll_of_mem_reachedAll document.children hw
  exact widget_not_mem_of_ofEvents h handle w hmem

theorem html_congr {first second : RenderContext} (h : first.AgreeOn second document.reached) :
    document.html first = document.html second := by
  rw [html, html, htmlAll, htmlAll, htmlEach_congr document.children h]

/-- The render context reaches widgets and nothing else. Two contexts give a tree the same HTML if
they have the same value for the key of every callout that they reach, and are equal if they reach a
dump. What is built from events holds no widget at any depth and has the same HTML in all contexts;
so of a configuration only the Markdown options matter. -/
theorem html_reads_reached_only :
    (∀ (document : Document) (first second : RenderContext),
      (∀ key children, .callout key children ∈ document.reached →
        first.get? key = second.get? key) →
      (.dump ∉ document.reached ∨ first = second) →
      document.html first = document.html second) ∧
    (∀ source definitions events document, ofEvents source definitions events = .ok document →
      (∀ handle w, .widget handle w ∉ withinAll document.children) ∧
      ∀ first second, document.html first = document.html second) ∧
    ∀ one other : Config, one.markdown = other.markdown →
      ∀ text, markdownToHtml one text = markdownToHtml other text := by
  have hbuilt : ∀ source definitions events document,
      ofEvents source definitions events = .ok document →
      ∀ first second, document.html first = document.html second := by
    intro source definitions events document h first second
    refine html_congr ?_
    rw [reached_of_ofEvents h]
    exact RenderContext.agreeOn_nil
  refine ⟨fun document first second hcallout hdump => html_congr ⟨hcallout, hdump⟩,
    fun source definitions events document h =>
      ⟨widget_not_mem_of_ofEvents h, hbuilt source definitions events document h⟩, ?_⟩
  intro one other hoptions text
  have hsame : ofMarkdown one.markdown text = ofMarkdown other.markdown text := by rw [hoptions]
  rcases hdocument : ofMarkdown other.markdown text with error | document
  · rw [markdownToHtml, markdownToHtml, hsame, hdocument]
    rfl
  · rw [markdownToHtml, markdownToHtml, hsame, hdocument]
    exact congrArg Except.ok (hbuilt _ _ _ document hdocument _ _)

/-- A callout that holds an image with a dump in its description, and a dump that a context of its
own shields. -/
def shieldedDumps : Document :=
  ⟨[.widget 0 (.callout "site" [.image "a.png" none [.widget 1 .dump]]),
    .widget 2 (.rescope (RenderContext.empty.withValue "site" "b") [.widget 3 .dump])]⟩

/-- A value that no callout asks for and only a dump could show, in a context and in the context of
a configuration. -/
theorem html_reads_reached_only_shieldedDumps :
    shieldedDumps.html (RenderContext.empty.withValue "site" "a") =
        shieldedDumps.html
          ((RenderContext.empty.withValue "site" "a").withValue "theme" "dark") ∧
      ∀ text, markdownToHtml .standard text = markdownToHtml
        { Config.standard with context := TextMap.empty.insert "theme" "dark" } text := by
  have hreached : shieldedDumps.reached =
      [.callout "site" [.image "a.png" none [.widget 1 .dump]],
        .rescope (RenderContext.empty.withValue "site" "b") [.widget 3 .dump]] := rfl
  refine ⟨html_reads_reached_only.1 _ _ _ ?_ (.inl ?_), html_reads_reached_only.2.2 _ _ rfl⟩
  · intro key children hmem
    rw [hreached, List.mem_cons, List.mem_singleton] at hmem
    rcases hmem with heq | heq
    · cases heq
      decide
    · cases heq
  · rw [hreached]
    simp

end Document

end MarkdownHtml
