import Mathlib.Data.List.Chain
import MarkdownHtml.Document.Html
import MarkdownHtml.Proofs.Builder.Flow
import MarkdownHtml.Proofs.Builder.Refinement

/-!
# Tight and loose items

The paragraphs of a loose item are elements of the stream; those of a tight one are not, and the
builder makes them up. An item's content is seen as stretches, each of which comes to one block or
to inline nodes. As long as no two inline stretches touch, they do not run into each other
(`flow_stretches`), so each is wrapped by itself (`wrapInlineRuns_stretches`) and comes to the
paragraph that enclosing it in the stream would have made.
-/

namespace MarkdownHtml

/-- A stretch of the content of an item. -/
inductive Stretch where
  /-- Trees that come to one block. -/
  | block (trees : List EventTree)
  /-- Trees that come to inline nodes. -/
  | inline (trees : List EventTree)

namespace Stretch

/-- The trees of a stretch. -/
def trees : Stretch → List EventTree
  | block trees | inline trees => trees

/-- The nodes that a stretch comes to by itself. -/
def nodes (stretch : Stretch) : List Node := Part.flow (partsOf stretch.trees)

/-- What an item makes of a stretch. -/
def blocks : Stretch → List Node
  | block trees => Part.flow (partsOf trees)
  | inline trees => [.paragraph (Part.flow (partsOf trees))]

/-- A stretch comes to what it should: to one node that is not inline, or to inline nodes, of which
there is at least one. -/
def Sound : Stretch → Prop
  | block trees => ∃ node, Part.flow (partsOf trees) = [node] ∧ node.isInline = false
  | inline trees =>
    Part.flow (partsOf trees) ≠ [] ∧ ∀ node ∈ Part.flow (partsOf trees), node.isInline = true

/-- Two stretches that may follow each other: at most one of them is inline. -/
def Apart : Stretch → Stretch → Prop
  | inline _, inline _ => False
  | _, _ => True

/-- The stretch with a paragraph around it, if it is inline and one is given, with the spans of its
start and of its end. -/
def enclosed : Stretch → Option (Span × Span) → Stretch
  | inline trees, some (opening, closing) => block [.element .paragraph opening trees closing]
  | stretch, _ => stretch

end Stretch

/-- An item whose content is made up of stretches. -/
def itemOf (opening : Span) (stretches : List Stretch) (closing : Span) : EventTree :=
  .element .item opening (stretches.flatMap Stretch.trees) closing

section Stretches

variable {stretches : List Stretch}

/-- What comes first behind an inline stretch is not inline. -/
theorem isInline_of_head?_stretches {trees : List EventTree}
    (hsound : ∀ stretch ∈ stretches, stretch.Sound)
    (hapart : (Stretch.inline trees :: stretches).IsChain Stretch.Apart) :
    ∀ node ∈ (stretches.flatMap Stretch.nodes).head?, node.isInline = false := by
  cases stretches with
  | nil => simp
  | cons next rest =>
    cases next with
    | inline _ => exact absurd hapart.rel not_false
    | block blockTrees =>
      obtain ⟨node, hnode, hblock⟩ := hsound (.block blockTrees) List.mem_cons_self
      rw [List.flatMap_cons, Stretch.nodes, Stretch.trees, hnode]
      simpa using hblock

/-- Stretches that are apart are read one by one: a block ends what stands before it. -/
theorem flow_stretches (hsound : ∀ stretch ∈ stretches, stretch.Sound)
    (hapart : stretches.IsChain Stretch.Apart) :
    Part.flow (partsOf (stretches.flatMap Stretch.trees)) = stretches.flatMap Stretch.nodes := by
  induction stretches with
  | nil => rfl
  | cons stretch rest ih =>
    obtain ⟨hstretch, hrest⟩ := List.forall_mem_cons.1 hsound
    have hflow := ih hrest hapart.tail
    rw [List.flatMap_cons, List.flatMap_cons, partsOf_append, Part.flow_append, ← hflow]
    show _ = Part.flow (partsOf stretch.trees) ++ _
    cases stretch with
    | block trees =>
      obtain ⟨node, hnode, hblock⟩ := hstretch
      refine Part.foldl_appendTo_of_getLast? _ ?_
      rw [Stretch.trees, hnode]
      simpa using isText_of_isInline_eq_false hblock
    | inline trees =>
      refine Part.foldl_appendTo_of_head? ?_ _
      rw [hflow]
      exact fun node hnode =>
        isText_of_isInline_eq_false (isInline_of_head?_stretches hrest hapart node hnode)

/-- Stretches that are apart are wrapped one by one. -/
theorem wrapInlineRuns_stretches (hsound : ∀ stretch ∈ stretches, stretch.Sound)
    (hapart : stretches.IsChain Stretch.Apart) :
    wrapInlineRuns (stretches.flatMap Stretch.nodes) = stretches.flatMap Stretch.blocks := by
  induction stretches with
  | nil => rfl
  | cons stretch rest ih =>
    obtain ⟨hstretch, hrest⟩ := List.forall_mem_cons.1 hsound
    have hwrap := ih hrest hapart.tail
    rw [List.flatMap_cons, List.flatMap_cons, ← hwrap]
    cases stretch with
    | block trees =>
      obtain ⟨node, hnode, hblock⟩ := hstretch
      rw [Stretch.nodes, Stretch.blocks, Stretch.trees, hnode]
      exact wrapInlineRuns_cons_of_block hblock _
    | inline trees =>
      obtain ⟨hne, hinline⟩ := hstretch
      have hrun : wrapRun (Part.flow (partsOf trees)) = Stretch.blocks (.inline trees) :=
        wrapRun_of_ne_nil hne
      rw [← hrun, Stretch.nodes, Stretch.trees]
      exact wrapInlineRuns_append_of_head? hinline (isInline_of_head?_stretches hrest hapart)

/-- What an item makes of stretches that are apart. -/
theorem part_itemOf (hsound : ∀ stretch ∈ stretches, stretch.Sound)
    (hapart : stretches.IsChain Stretch.Apart) (opening closing : Span) :
    (itemOf opening stretches closing).part = .item (stretches.flatMap Stretch.blocks) := by
  rw [itemOf, EventTree.part, Tag.part, flow_stretches hsound hapart,
    wrapInlineRuns_stretches hsound hapart]

end Stretches

/-! ## Paragraphs around stretches -/

namespace Stretch

/-- A paragraph around an inline stretch makes it one that comes to a block. -/
theorem sound_enclosed {stretch : Stretch} (h : stretch.Sound) (paragraph : Option (Span × Span)) :
    (stretch.enclosed paragraph).Sound := by
  cases stretch with
  | block trees => exact h
  | inline trees =>
    cases paragraph with
    | none => exact h
    | some spans => exact ⟨.paragraph (Part.flow (partsOf trees)), rfl, rfl⟩

theorem apart_enclosed {first second : Stretch} (h : first.Apart second)
    (paragraph paragraph' : Option (Span × Span)) :
    (first.enclosed paragraph).Apart (second.enclosed paragraph') := by
  cases first with
  | block trees =>
    cases second with
    | block _ => trivial
    | inline _ => cases paragraph' <;> trivial
  | inline trees =>
    cases second with
    | block _ => cases paragraph <;> trivial
    | inline _ => exact absurd h not_false

/-- It is the same block that an item makes of the stretch by itself. -/
theorem blocks_enclosed (stretch : Stretch) (paragraph : Option (Span × Span)) :
    (stretch.enclosed paragraph).blocks = stretch.blocks := by
  cases stretch with
  | block trees => rfl
  | inline trees => cases paragraph <;> rfl

end Stretch

/-- An item with the paragraphs around its inline stretches left out. -/
def tightItem (opening : Span) (contents : List (Stretch × Option (Span × Span)))
    (closing : Span) : EventTree :=
  itemOf opening (contents.map fun entry => entry.1) closing

/-- The same item with paragraphs around those of its inline stretches that have spans for one. -/
def looseItem (opening : Span) (contents : List (Stretch × Option (Span × Span)))
    (closing : Span) : EventTree :=
  itemOf opening (contents.map fun entry => entry.1.enclosed entry.2) closing

section Items

variable {contents : List (Stretch × Option (Span × Span))}

theorem part_looseItem (hsound : ∀ entry ∈ contents, entry.1.Sound)
    (hapart : contents.IsChain fun first second => first.1.Apart second.1)
    (opening closing : Span) :
    (looseItem opening contents closing).part =
      .item (contents.flatMap fun entry => entry.1.blocks) := by
  have hsound' : ∀ stretch ∈ contents.map fun entry => entry.1.enclosed entry.2,
      stretch.Sound := by
    rw [List.forall_mem_map]
    exact fun entry hentry => Stretch.sound_enclosed (hsound entry hentry) entry.2
  have hapart' : (contents.map fun entry => entry.1.enclosed entry.2).IsChain Stretch.Apart := by
    rw [List.isChain_map]
    exact hapart.imp fun _ _ h => Stretch.apart_enclosed h _ _
  rw [looseItem, part_itemOf hsound' hapart', List.flatMap_map]
  simp only [Stretch.blocks_enclosed]

theorem part_tightItem (hsound : ∀ entry ∈ contents, entry.1.Sound)
    (hapart : contents.IsChain fun first second => first.1.Apart second.1)
    (opening closing : Span) :
    (tightItem opening contents closing).part =
      .item (contents.flatMap fun entry => entry.1.blocks) := by
  have hsound' : ∀ stretch ∈ contents.map fun entry => entry.1, stretch.Sound := by
    rw [List.forall_mem_map]
    exact hsound
  have hapart' : (contents.map fun entry => entry.1).IsChain Stretch.Apart := by
    rw [List.isChain_map]
    exact hapart
  rw [tightItem, part_itemOf hsound' hapart', List.flatMap_map]

/-- A builder takes an item by its first span, its last span and its part. -/
theorem Builder.pushAll_itemOf_congr {first second : List Stretch} {opening closing : Span}
    (h : (itemOf opening first closing).part = (itemOf opening second closing).part) (b : Builder) :
    b.pushAll (itemOf opening first closing).flatten =
      b.pushAll (itemOf opening second closing).flatten := by
  rw [pushAll_flatten, pushAll_flatten, h]
  rfl

/-- Tight and loose items are the same. For an item of stretches that are sound and apart, enclosing
any of the inline ones in paragraphs leaves the item that is handed on as it is; so builders do the
same with both forms, and a stream with one of them makes the same document as with the other. An
item of one inline stretch is rendered without paragraph tags in both forms, and an item without
content like one that holds an empty paragraph. -/
theorem part_looseItem_eq_part_tightItem (opening closing : Span)
    (hsound : ∀ entry ∈ contents, entry.1.Sound)
    (hapart : contents.IsChain fun first second => first.1.Apart second.1) :
    (looseItem opening contents closing).part = (tightItem opening contents closing).part ∧
    (tightItem opening contents closing).part =
      .item (contents.flatMap fun entry => entry.1.blocks) ∧
    (∀ b : Builder, b.pushAll (looseItem opening contents closing).flatten =
      b.pushAll (tightItem opening contents closing).flatten) ∧
    (∀ source definitions before after,
      Document.ofEvents source definitions
          (before ++ ((looseItem opening contents closing).flatten ++ after)) =
        Document.ofEvents source definitions
          (before ++ ((tightItem opening contents closing).flatten ++ after))) ∧
    (∀ trees paragraph, contents = [(.inline trees, paragraph)] → ∀ context,
      itemHtml context (contents.flatMap fun entry => entry.1.blocks) =
        "<li>" ++ htmlAll context (Part.flow (partsOf trees)) ++ "</li>") ∧
    (∀ start stop,
      (EventTree.element .item opening [] closing).part = .item [] ∧
      (EventTree.element .item opening [.element .paragraph start [] stop] closing).part =
        .item [.paragraph []] ∧
      ∀ context, itemHtml context [] = "<li></li>" ∧
        itemHtml context [.paragraph []] = "<li></li>") := by
  have hpart : (looseItem opening contents closing).part =
      (tightItem opening contents closing).part := by
    rw [part_looseItem hsound hapart, part_tightItem hsound hapart]
  have hpush : ∀ b : Builder, b.pushAll (looseItem opening contents closing).flatten =
      b.pushAll (tightItem opening contents closing).flatten :=
    fun b => Builder.pushAll_itemOf_congr hpart b
  refine ⟨hpart, part_tightItem hsound hapart opening closing, hpush, ?_, ?_, ?_⟩
  · intro source definitions before after
    have hrun : ∀ b : Builder,
        b.pushAll (before ++ ((looseItem opening contents closing).flatten ++ after)) =
          b.pushAll (before ++ ((tightItem opening contents closing).flatten ++ after)) := by
      intro b
      simp only [Builder.pushAll_append, hpush]
    rw [Document.ofEvents, Document.ofEvents, hrun]
  · rintro trees paragraph rfl context
    show elementHtml "li" "" (htmlAll context (Part.flow (partsOf trees))) = _
    rw [elementHtml, String.append_assoc, String.append_assoc]
    rfl
  · exact fun start stop => ⟨rfl, rfl, fun context => ⟨rfl, rfl⟩⟩

end Items

/-- Two inline stretches around a rule, the first of them in a paragraph or not. -/
theorem part_looseItem_eq_part_tightItem_rule :
    (itemOf ⟨0, 8⟩ [.block [.element .paragraph ⟨2, 4⟩
          [.leaf (.text "a") ⟨2, 3⟩, .leaf .softBreak ⟨3, 4⟩] ⟨2, 4⟩],
        .block [.leaf .rule ⟨4, 7⟩], .inline [.leaf (.text "b") ⟨7, 8⟩]] ⟨0, 8⟩).part =
      (itemOf ⟨0, 8⟩ [.inline [.leaf (.text "a") ⟨2, 3⟩, .leaf .softBreak ⟨3, 4⟩],
        .block [.leaf .rule ⟨4, 7⟩], .inline [.leaf (.text "b") ⟨7, 8⟩]] ⟨0, 8⟩).part := by
  have hitem := @part_looseItem_eq_part_tightItem
    [(.inline [.leaf (.text "a") ⟨2, 3⟩, .leaf .softBreak ⟨3, 4⟩], some (⟨2, 4⟩, ⟨2, 4⟩)),
      (.block [.leaf .rule ⟨4, 7⟩], none), (.inline [.leaf (.text "b") ⟨7, 8⟩], none)]
    ⟨0, 8⟩ ⟨0, 8⟩
  refine (hitem ?_ ?_).1
  · intro entry hentry
    simp only [List.mem_cons, List.not_mem_nil, or_false] at hentry
    rcases hentry with rfl | rfl | rfl
    · exact ⟨List.cons_ne_nil _ _, by simp [partsOf, Part.flow, EventTree.part, Leaf.part,
        Part.appendTo, appendText, Node.isInline]⟩
    · exact ⟨.thematicBreak, rfl, rfl⟩
    · exact ⟨List.cons_ne_nil _ _, by simp [partsOf, Part.flow, EventTree.part, Leaf.part,
        Part.appendTo, appendText, Node.isInline]⟩
  · exact .cons_cons trivial (.cons_cons trivial (.singleton _))

end MarkdownHtml
