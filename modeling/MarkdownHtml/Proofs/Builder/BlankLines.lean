import MarkdownHtml.Proofs.Builder.Definitions
import MarkdownHtml.Proofs.Text.BlankLine

/-!
# Where blank lines stand

The top-level trees of a stream leave stretches of the source between them: one in front of the first
tree, one behind each. The builder looks at each stretch once, and makes a node of each blank line
that lies wholly in it. The parts of a document are therefore divided at any stretch into what comes
from before it and what comes from behind it (`exists_stretch_topParts`), and the number of blank
lines in front is that of the earlier stretches. Since stretches of trees in order have no line in
common, the blank lines of a document are as many as the lines that lie in some stretch, and each of
them stands between the nodes of the trees around its stretch (`blankLines_of_finish`).
-/

namespace MarkdownHtml

/-- A blank line. -/
def Node.isBlankLine : Node → Bool
  | .blankLine => true
  | _ => false

/-- The stretches of a source of some length that trees leave between them, from where the tree
before them ends. -/
def stretchesFrom (length : Nat) : Nat → List EventTree → List (Nat × Nat)
  | lastEnd, [] => [(lastEnd, length)]
  | lastEnd, tree :: rest => (lastEnd, tree.start) :: stretchesFrom length tree.stop rest

/-- The stretches that the top-level trees leave of their source. -/
def stretches (source : String) (forest : List EventTree) : List (Nat × Nat) :=
  stretchesFrom source.utf8ByteSize 0 forest

/-- Where trees start and end. -/
def offsets (forest : List EventTree) : List Nat :=
  forest.flatMap fun tree => [tree.start, tree.stop]

/-- Trees that follow one another in their source, and are cut from it between characters. -/
structure InOrder (source : String) (forest : List EventTree) : Prop where
  /-- Each starts where the one before it ends or later, and ends where it starts or later. -/
  ordered : (offsets forest ++ [source.utf8ByteSize]).Pairwise (· ≤ ·)
  boundary : ∀ offset ∈ offsets forest, Text.IsBoundary source offset

/-! ## Stretches -/

section Stretches

variable {length lastEnd : Nat} {forest : List EventTree}

theorem length_stretchesFrom (length lastEnd : Nat) (forest : List EventTree) :
    (stretchesFrom length lastEnd forest).length = forest.length + 1 := by
  induction forest generalizing lastEnd with
  | nil => rfl
  | cons tree rest ih => rw [stretchesFrom, List.length_cons, ih, List.length_cons]

theorem offsets_cons (tree : EventTree) (rest : List EventTree) :
    offsets (tree :: rest) = tree.start :: tree.stop :: offsets rest := rfl

/-- A stretch goes from the end of a tree to the start of one. -/
theorem mem_offsets_of_mem_stretchesFrom {stretch : Nat × Nat}
    (h : stretch ∈ stretchesFrom length lastEnd forest) :
    stretch.1 ∈ lastEnd :: offsets forest ∧ stretch.2 ∈ offsets forest ++ [length] := by
  induction forest generalizing lastEnd with
  | nil =>
    rw [stretchesFrom, List.mem_singleton] at h
    subst h
    exact ⟨List.mem_cons_self, List.mem_singleton_self _⟩
  | cons tree rest ih =>
    rw [offsets_cons]
    rcases List.mem_cons.1 h with rfl | h
    · exact ⟨List.mem_cons_self, List.mem_cons_self⟩
    · obtain ⟨hstart, hstop⟩ := ih h
      exact ⟨List.mem_cons_of_mem _ (List.mem_cons_of_mem _ hstart),
        List.mem_cons_of_mem _ (List.mem_cons_of_mem _ hstop)⟩

/-- The stretches of trees in order are in order. -/
theorem pairwise_stretchesFrom (h : (lastEnd :: (offsets forest ++ [length])).Pairwise (· ≤ ·)) :
    (∀ stretch ∈ stretchesFrom length lastEnd forest, stretch.1 ≤ stretch.2) ∧
      (stretchesFrom length lastEnd forest).Pairwise fun first second => first.2 ≤ second.1 := by
  induction forest generalizing lastEnd with
  | nil =>
    have hle : lastEnd ≤ length := (List.pairwise_cons.1 h).1 length (List.mem_singleton_self _)
    exact ⟨List.forall_mem_singleton.2 hle, List.pairwise_singleton _ _⟩
  | cons tree rest ih =>
    rw [offsets_cons] at h
    obtain ⟨hlastEnd, h⟩ := List.pairwise_cons.1 h
    obtain ⟨hstart, h⟩ := List.pairwise_cons.1 h
    obtain ⟨hvalid, hordered⟩ := ih h
    refine ⟨List.forall_mem_cons.2 ⟨hlastEnd _ List.mem_cons_self, hvalid⟩,
      List.pairwise_cons.2 ⟨fun stretch hstretch => ?_, hordered⟩⟩
    -- the later stretches begin at ends of this tree or of later ones
    have hmem := (mem_offsets_of_mem_stretchesFrom hstretch).1
    refine hstart _ ?_
    rcases List.mem_cons.1 hmem with heq | hmem
    · rw [heq]
      exact List.mem_cons_self
    · exact List.mem_cons_of_mem _ (List.mem_append_left _ hmem)

variable {source : String}

/-- The counts of some of the first stretches add up to the number of lines that lie in one of
them. -/
theorem InOrder.sum_take (h : InOrder source forest) (k : Nat) :
    (((stretches source forest).take k).map fun stretch =>
        Text.blankLinesBetween source stretch.1 stretch.2).sum =
      (Text.blankLinesIn source.toList ((stretches source forest).take k)).ncard := by
  have hordered : (0 :: (offsets forest ++ [source.utf8ByteSize])).Pairwise (· ≤ ·) :=
    List.pairwise_cons.2 ⟨fun _ _ => Nat.zero_le _, h.ordered⟩
  obtain ⟨hvalid, hpairwise⟩ := pairwise_stretchesFrom hordered
  apply Text.sum_blankLinesBetween
  · intro stretch hstretch
    have hmem : stretch ∈ stretches source forest := List.mem_of_mem_take hstretch
    obtain ⟨hstart, hstop⟩ := mem_offsets_of_mem_stretchesFrom hmem
    refine ⟨?_, ?_, hvalid stretch hmem⟩
    · rcases List.mem_cons.1 hstart with heq | hstart
      · rw [heq]
        exact Text.isBoundary_zero source
      · exact h.boundary _ hstart
    · rcases List.mem_append.1 hstop with hstop | heq
      · exact h.boundary _ hstop
      · rw [List.mem_singleton.1 heq]
        exact Text.isBoundary_utf8ByteSize source
  · exact hpairwise.sublist (List.take_sublist _ _)

end Stretches

/-! ## The blank lines among parts -/

theorem Node.isBetween_of_isBlankLine {node : Node} (h : node.isBlankLine = true) :
    node.isBetween = true := by
  cases node with
  | blankLine => rfl
  | _ => cases h

theorem countP_isBlankLine_map_node (definitions : List Definition) :
    (definitions.map Definition.node).countP Node.isBlankLine = 0 := by
  rw [List.countP_eq_zero, List.forall_mem_map]
  exact fun _ _ => Bool.false_ne_true

theorem countP_isBlankLine_replicate (count : Nat) :
    (List.replicate count Node.blankLine).countP Node.isBlankLine = count := by
  rw [List.countP_replicate]
  rfl

theorem countP_isBlankLine_nodesBetween (source : String) (definitions : List Definition)
    (lastEnd offset : Nat) :
    (nodesBetween source definitions lastEnd offset).countP Node.isBlankLine =
      Text.blankLinesBetween source lastEnd offset := by
  rw [nodesBetween, List.countP_append, countP_isBlankLine_map_node, Nat.zero_add]
  exact countP_isBlankLine_replicate _

theorem EventTree.countP_isBlankLine_alone (tree : EventTree) :
    tree.part.alone.countP Node.isBlankLine = 0 := by
  rw [List.countP_eq_zero]
  intro node hnode hblank
  have hbetween := Node.isBetween_of_isBlankLine hblank
  rw [Node.isBetween_of_built (tree.built_alone node hnode)] at hbetween
  cases hbetween

theorem ignoresSeams_countP_isBlankLine : IgnoresSeams (List.countP Node.isBlankLine) := by
  intro front first second back
  rw [List.countP_append, List.countP_append]
  rfl

/-- All blank lines of a document come from the stretches. -/
theorem countP_isBlankLine_topParts (source : String) (definitions : List Definition)
    (lastEnd : Nat) (forest : List EventTree) :
    ((topParts source definitions lastEnd forest).flatMap Part.alone).countP Node.isBlankLine =
      ((stretchesFrom source.utf8ByteSize lastEnd forest).map fun stretch =>
        Text.blankLinesBetween source stretch.1 stretch.2).sum := by
  induction forest generalizing definitions lastEnd with
  | nil =>
    rw [topParts, List.flatMap_singleton, Part.alone_nodes, countP_isBlankLine_nodesBetween]
    rfl
  | cons tree rest ih =>
    rw [topParts, List.flatMap_cons, List.flatMap_cons, List.countP_append, List.countP_append, ih,
      Part.alone_nodes, countP_isBlankLine_nodesBetween, tree.countP_isBlankLine_alone,
      Nat.zero_add]
    rfl

/-- Any stretch divides the parts of a document: in front of it stand the blank lines of the earlier
stretches and what the earlier trees come to, behind it what the later trees come to. -/
theorem exists_stretch_topParts {source : String} (definitions : List Definition) (lastEnd : Nat)
    {forest : List EventTree} {k : Nat} (hk : k ≤ forest.length) :
    ∃ before definitions' stretch after,
      topParts source definitions lastEnd forest =
        before ++ .nodes (nodesBetween source definitions' stretch.1 stretch.2) :: after ∧
      (stretchesFrom source.utf8ByteSize lastEnd forest)[k]? = some stretch ∧
      (before.flatMap Part.alone).countP Node.isBlankLine =
        (((stretchesFrom source.utf8ByteSize lastEnd forest).take k).map fun stretch =>
          Text.blankLinesBetween source stretch.1 stretch.2).sum ∧
      blockNodes (before.flatMap Part.alone) =
        (forest.take k).flatMap (fun tree => tree.part.alone) ∧
      blockNodes (after.flatMap Part.alone) =
        (forest.drop k).flatMap (fun tree => tree.part.alone) := by
  induction forest generalizing definitions lastEnd k with
  | nil =>
    have hzero : k = 0 := Nat.le_zero.1 hk
    subst hzero
    exact ⟨[], definitions, (lastEnd, source.utf8ByteSize), [], rfl, rfl, rfl, rfl, rfl⟩
  | cons tree rest ih =>
    cases k with
    | zero =>
      refine ⟨[], definitions, (lastEnd, tree.start), _, rfl, rfl, rfl, rfl, ?_⟩
      rw [List.flatMap_cons, blockNodes_append, blockNodes_topParts, tree.blockNodes_alone]
      rfl
    | succ k =>
      obtain ⟨before, definitions', stretch, after, hparts, hstretch, hcount, hbefore, hafter⟩ :=
        ih (definitions.dropWhile (·.start < tree.start)) tree.stop (Nat.le_of_succ_le_succ hk)
      refine ⟨.nodes (nodesBetween source definitions lastEnd tree.start) :: tree.part :: before,
        definitions', stretch, after, ?_, hstretch, ?_, ?_, hafter⟩
      · rw [topParts, hparts]
        rfl
      · rw [List.flatMap_cons, List.flatMap_cons, List.countP_append, List.countP_append, hcount,
          Part.alone_nodes, countP_isBlankLine_nodesBetween, tree.countP_isBlankLine_alone,
          Nat.zero_add]
        rfl
      · rw [List.flatMap_cons, List.flatMap_cons, blockNodes_append, blockNodes_append, hbefore,
          Part.alone_nodes, blockNodes_nodesBetween, tree.blockNodes_alone]
        rfl

/-! ## The place of a blank line -/

/-- In a list of numbers that add up to more than `m` there is one that passes `m`. -/
theorem exists_sum_take_le {counts : List Nat} {m : Nat} (h : m < counts.sum) :
    ∃ k < counts.length, (counts.take k).sum ≤ m ∧ m < (counts.take (k + 1)).sum := by
  induction counts generalizing m with
  | nil => exact absurd h (Nat.not_lt_zero m)
  | cons count rest ih =>
    rw [List.sum_cons] at h
    by_cases hcount : m < count
    · refine ⟨0, Nat.succ_pos _, Nat.zero_le _, ?_⟩
      simpa using hcount
    · obtain ⟨k, hk, hle, hlt⟩ := ih (m := m - count) (by omega)
      refine ⟨k + 1, Nat.succ_lt_succ hk, ?_, ?_⟩
      · rw [List.take_succ_cons, List.sum_cons]
        omega
      · rw [List.take_succ_cons, List.sum_cons]
        omega

/-- An entry of a kind is found by how many of its kind come before it. -/
theorem append_cons_inj_of_countP {α : Type} {p : α → Bool} {front back front' back' : List α}
    {a a' : α} (ha : p a = true) (ha' : p a' = true)
    (hcount : front.countP p = front'.countP p) (h : front ++ a :: back = front' ++ a' :: back') :
    front = front' ∧ back = back' := by
  induction front generalizing front' with
  | nil =>
    cases front' with
    | nil => exact ⟨rfl, (List.cons.inj h).2⟩
    | cons first' rest' =>
      have hfirst : p first' = true := (List.cons.inj h).1 ▸ ha
      rw [List.countP_nil, List.countP_cons_of_pos hfirst] at hcount
      exact absurd hcount.symm (Nat.succ_ne_zero _)
  | cons first rest ih =>
    cases front' with
    | nil =>
      have hfirst : p first = true := (List.cons.inj h).1 ▸ ha'
      rw [List.countP_nil, List.countP_cons_of_pos hfirst] at hcount
      exact absurd hcount (Nat.succ_ne_zero _)
    | cons first' rest' =>
      obtain ⟨rfl, htail⟩ := List.cons.inj h
      rw [List.countP_cons, List.countP_cons, Nat.add_right_cancel_iff] at hcount
      obtain ⟨rfl, rfl⟩ := ih hcount htail
      exact ⟨rfl, rfl⟩

theorem blockNodes_replicate_blankLine (count : Nat) :
    blockNodes (List.replicate count .blankLine) = [] :=
  List.filter_replicate_of_neg Bool.false_ne_true

section Documents

variable {source : String} {definitions : List Definition} {forest : List EventTree}

/-- The blank lines of a stretch stand together, behind those of the earlier stretches, and between
what the trees come to on the two sides of the stretch. -/
theorem exists_replicate_blankLine (definitions : List Definition) {k : Nat} {stretch : Nat × Nat}
    (hstretch : (stretches source forest)[k]? = some stretch)
    (hsome : 0 < Text.blankLinesBetween source stretch.1 stretch.2) :
    ∃ front back, (Document.ofForest source definitions forest).children =
        front ++ List.replicate (Text.blankLinesBetween source stretch.1 stretch.2) .blankLine ++
          back ∧
      front.countP Node.isBlankLine = (((stretches source forest).take k).map fun stretch =>
        Text.blankLinesBetween source stretch.1 stretch.2).sum ∧
      mergedAll (blockNodes front) = mergedAll (Part.flow (partsOf (forest.take k))) ∧
      mergedAll (blockNodes back) = mergedAll (Part.flow (partsOf (forest.drop k))) := by
  have hk : k ≤ forest.length := by
    have hlength := (List.getElem?_eq_some_iff.1 hstretch).1
    rw [stretches, length_stretchesFrom] at hlength
    exact Nat.le_of_lt_succ hlength
  obtain ⟨before, definitions', stretch', after, hparts, hstretch', hcount, hbefore, hafter⟩ :=
    exists_stretch_topParts definitions 0 hk
  obtain rfl : stretch' = stretch := Option.some.inj (hstretch'.symm.trans hstretch)
  let placed := (definitions'.takeWhile (·.start < stretch'.2)).map Definition.node
  let blanks := List.replicate (Text.blankLinesBetween source stretch'.1 stretch'.2) Node.blankLine
  -- a blank line is no text, so what follows is read apart
  have hlast : ∀ node ∈ (Part.flow before ++ (placed ++ blanks)).getLast?, node.isText = false := by
    intro node hnode
    rw [← List.append_assoc, List.getLast?_append, List.getLast?_replicate,
      if_neg (Nat.ne_of_gt hsome)] at hnode
    cases hnode
    rfl
  have hchildren : (Document.ofForest source definitions forest).children =
      Part.flow before ++ placed ++ blanks ++ Part.flow after := by
    rw [Document.ofForest, hparts, Part.flow_append, List.foldl_cons]
    show List.foldl _ (Part.flow before ++ (placed ++ blanks)) after = _
    rw [Part.foldl_appendTo_of_getLast? after hlast, ← List.append_assoc (Part.flow before)]
  refine ⟨Part.flow before ++ placed, Part.flow after, hchildren, ?_, ?_, ?_⟩
  · rw [List.countP_append, Part.view_flow ignoresSeams_countP_isBlankLine, hcount,
      countP_isBlankLine_map_node]
    rfl
  · rw [blockNodes_append, blockNodes_map_node, List.append_nil,
      Part.view_flow ignoresSeams_mergedAll_blockNodes, hbefore, mergedAll_flow_partsOf]
  · rw [Part.view_flow ignoresSeams_mergedAll_blockNodes, hafter, mergedAll_flow_partsOf]

/-- Every blank line of a document belongs to a stretch: to the one that its number among the blank
lines points to, and it stands between what the trees come to on the two sides of that stretch. -/
theorem exists_stretch_of_blankLine {front back : List Node}
    (h : (Document.ofForest source definitions forest).children = front ++ .blankLine :: back) :
    ∃ k ≤ forest.length,
      (((stretches source forest).take k).map fun stretch =>
        Text.blankLinesBetween source stretch.1 stretch.2).sum ≤ front.countP Node.isBlankLine ∧
      front.countP Node.isBlankLine <
        (((stretches source forest).take (k + 1)).map fun stretch =>
          Text.blankLinesBetween source stretch.1 stretch.2).sum ∧
      mergedAll (blockNodes front) = mergedAll (Part.flow (partsOf (forest.take k))) ∧
      mergedAll (blockNodes back) = mergedAll (Part.flow (partsOf (forest.drop k))) := by
  let counts := (stretches source forest).map fun stretch =>
    Text.blankLinesBetween source stretch.1 stretch.2
  have htotal : front.countP Node.isBlankLine < counts.sum := by
    have hcount : (Document.ofForest source definitions forest).children.countP Node.isBlankLine =
        counts.sum := by
      rw [Document.ofForest, Part.view_flow ignoresSeams_countP_isBlankLine,
        countP_isBlankLine_topParts]
      rfl
    rw [← hcount, h, List.countP_append, List.countP_cons_of_pos rfl]
    omega
  obtain ⟨k, hk, hle, hlt⟩ := exists_sum_take_le htotal
  rw [List.length_map] at hk
  have hstretch := List.getElem?_eq_getElem hk
  generalize (stretches source forest)[k] = stretch at hstretch
  -- the blank line is one of those of this stretch
  have hsucc : (counts.take (k + 1)).sum =
      (counts.take k).sum + Text.blankLinesBetween source stretch.1 stretch.2 := by
    rw [List.take_add_one, List.sum_append, List.getElem?_map, hstretch]
    simp
  obtain ⟨front', back', hchildren, hcount, hfront, hback⟩ :=
    exists_replicate_blankLine definitions hstretch (by omega)
  have hsum : (counts.take k).sum = front'.countP Node.isBlankLine := by
    rw [hcount, List.map_take]
  obtain ⟨more, hmore⟩ : ∃ more, front.countP Node.isBlankLine = (counts.take k).sum + more :=
    Nat.exists_eq_add_of_le hle
  obtain ⟨others, hothers⟩ : ∃ others,
      Text.blankLinesBetween source stretch.1 stretch.2 = more + (others + 1) := by
    refine ⟨Text.blankLinesBetween source stretch.1 stretch.2 - more - 1, ?_⟩
    omega
  rw [hothers, List.replicate_add, List.replicate_succ, ← List.append_assoc, List.append_assoc,
    List.cons_append] at hchildren
  have hnumber : front.countP Node.isBlankLine =
      (front' ++ List.replicate more Node.blankLine).countP Node.isBlankLine := by
    rw [hmore, List.countP_append, countP_isBlankLine_replicate, hsum]
  obtain ⟨rfl, rfl⟩ := append_cons_inj_of_countP rfl rfl hnumber (h.symm.trans hchildren)
  have hlength := length_stretchesFrom source.utf8ByteSize 0 forest
  rw [stretches, hlength] at hk
  refine ⟨k, Nat.le_of_lt_succ hk, ?_, ?_, ?_, ?_⟩
  · rw [List.map_take]
    exact hle
  · rw [List.map_take]
    exact hlt
  · rw [blockNodes_append, blockNodes_replicate_blankLine, List.append_nil, hfront]
  · rw [blockNodes_append, blockNodes_replicate_blankLine, List.nil_append, hback]

end Documents

namespace Builder

variable {source : String} {definitions : List Definition} {events : List (Event × Span)}
  {b : Builder} {document : Document}

/-- Every blank line of the source between top-level blocks is kept once. For a stream whose
top-level trees stand in order, the document has as many blank lines as there are blank lines of the
source that lie wholly in one of the stretches between the trees, so never more than the source has.
They stand at the top level only. Each of them belongs to a stretch, to which it is assigned by its
number among the blank lines, and stands between what the trees come to on the two sides of that
stretch, up to how texts are cut. -/
theorem blankLines_of_finish (hrun : (start source definitions).pushAll events = .ok b)
    (hfinish : b.finish = .ok document) :
    (∃ forest, flattenAll forest = events) ∧
    ∀ forest, flattenAll forest = events → InOrder source forest →
      (withinAll document.children).countP Node.isBlankLine =
        (Text.blankLinesIn source.toList (stretches source forest)).ncard ∧
      (withinAll document.children).countP Node.isBlankLine ≤
        {line : Nat × Nat | Text.IsBlankLine source.toList line.1 line.2}.ncard ∧
      (∀ top ∈ document.children, ∀ node ∈ top.inside, node.isBlankLine = false) ∧
      ∀ front back, document.children = front ++ .blankLine :: back →
        ∃ k ≤ forest.length,
          (Text.blankLinesIn source.toList ((stretches source forest).take k)).ncard ≤
            front.countP Node.isBlankLine ∧
          front.countP Node.isBlankLine <
            (Text.blankLinesIn source.toList ((stretches source forest).take (k + 1))).ncard ∧
          mergedAll (blockNodes front) = mergedAll (Part.flow (partsOf (forest.take k))) ∧
          mergedAll (blockNodes back) = mergedAll (Part.flow (partsOf (forest.drop k))) := by
  obtain ⟨forest, hforest, -⟩ := exists_forest_of_finish hrun hfinish
  refine ⟨⟨forest, hforest⟩, ?_⟩
  clear forest hforest
  rintro forest rfl horder
  have hdocument : document = Document.ofForest source definitions forest := by
    obtain ⟨b', hrun', hfinish'⟩ := pushAll_flattenAll_nil source [] definitions 0 forest
    obtain rfl : b' = b := Except.ok.inj (hrun'.symm.trans hrun)
    exact Except.ok.inj (hfinish.symm.trans hfinish')
  have hbuilt : ∀ node ∈ document.children, node.isBetween = true ∨ node.Built true :=
    built_finish (built_pushAll (built_start source definitions) (fun _ _ _ => rfl) hrun) hfinish
  have hcount : (withinAll document.children).countP Node.isBlankLine =
      (Text.blankLinesIn source.toList (stretches source forest)).ncard := by
    have hsum := horder.sum_take (stretches source forest).length
    rw [List.take_length] at hsum
    rw [List.countP_eq_length_filter, filter_withinAll_of_isBetween
      (fun _ => Node.isBetween_of_isBlankLine) hbuilt, ← List.countP_eq_length_filter, hdocument,
      Document.ofForest, Part.view_flow ignoresSeams_countP_isBlankLine,
      countP_isBlankLine_topParts, ← hsum]
    rfl
  refine ⟨hcount, ?_, ?_, ?_⟩
  · rw [hcount]
    exact Set.ncard_le_ncard (fun line hline => hline.1) (Text.finite_blankLines source.toList)
  · intro top htop node hnode
    have hbetween := Node.isBetween_of_admissible (admissible_of_mem_inside hbuilt htop hnode)
    cases node with
    | blankLine => cases hbetween
    | _ => rfl
  · intro front back hsplit
    rw [hdocument] at hsplit
    obtain ⟨k, hk, hle, hlt, hfront, hback⟩ := exists_stretch_of_blankLine hsplit
    rw [horder.sum_take] at hle hlt
    exact ⟨k, hk, hle, hlt, hfront, hback⟩

/-- A blank line in front of the first paragraph and two between the paragraphs, one of them with a
blank in it. -/
theorem blankLines_of_finish_threeLines :
    let forest := [EventTree.element .paragraph ⟨1, 3⟩ [.leaf (.text "a") ⟨1, 2⟩] ⟨1, 3⟩,
      .element .paragraph ⟨6, 8⟩ [.leaf (.text "b") ⟨6, 7⟩] ⟨6, 8⟩]
    InOrder "\na\n\n \nb\n" forest ∧
    ∃ b document, (start "\na\n\n \nb\n" []).pushAll (flattenAll forest) = .ok b ∧
      b.finish = .ok document ∧ (withinAll document.children).countP Node.isBlankLine = 3 ∧
      (Text.blankLinesIn "\na\n\n \nb\n".toList [(0, 1), (3, 6), (8, 8)]).ncard = 3 := by
  intro forest
  have horder : InOrder "\na\n\n \nb\n" forest := by
    refine ⟨by decide, fun offset hoffset => ?_⟩
    have hcases : offset = 1 ∨ offset = 3 ∨ offset = 6 ∨ offset = 8 := by
      simpa [forest, offsets, EventTree.start, EventTree.stop] using hoffset
    rcases hcases with rfl | rfl | rfl | rfl
    · exact ⟨"\n".toList, "a\n\n \nb\n".toList, rfl, rfl⟩
    · exact ⟨"\na\n".toList, "\n \nb\n".toList, rfl, rfl⟩
    · exact ⟨"\na\n\n \n".toList, "b\n".toList, rfl, rfl⟩
    · exact ⟨"\na\n\n \nb\n".toList, [], rfl, rfl⟩
  obtain ⟨b, hrun, hfinish⟩ := pushAll_flattenAll_nil "\na\n\n \nb\n" [] [] 0 forest
  have hcount : (withinAll (Document.ofForest "\na\n\n \nb\n" [] forest).children).countP
      Node.isBlankLine = 3 := by
    rfl
  refine ⟨horder, b, _, hrun, hfinish, hcount, ?_⟩
  rw [← hcount]
  exact (((blankLines_of_finish hrun hfinish).2 forest rfl horder).1).symm

end Builder

end MarkdownHtml
