import Mathlib.Data.List.Nodup
import Mathlib.Data.List.TakeDrop
import Mathlib.Data.List.TakeWhile
import MarkdownHtml.Proofs.Builder.Flow
import MarkdownHtml.Proofs.Builder.WellNested
import MarkdownHtml.Proofs.Html.Merged

/-!
# Where link reference definitions stand

A builder is given the definitions of a document in the order in which they start, and puts each of
them between two top-level trees. They are never lost and never doubled, since each offset splits
those that are left in two (`filter_isDefinition_topParts`). Where the trees are in order, what
stands before a definition is what starts before it (`exists_split_topParts`). And as a definition
renders to nothing and at most keeps two texts apart, the HTML is the same as without any.
-/

namespace MarkdownHtml

/-- A link reference definition. -/
def Node.isDefinition : Node → Bool
  | .linkReferenceDefinition _ _ _ => true
  | _ => false

/-- The nodes among some top-level nodes that blocks come to: not those between the blocks. -/
def blockNodes (nodes : List Node) : List Node := nodes.filter fun node => !node.isBetween

theorem blockNodes_append (first second : List Node) :
    blockNodes (first ++ second) = blockNodes first ++ blockNodes second :=
  List.filter_append first second

/-! ## What trees come to -/

theorem Node.isBetween_of_built {node : Node} {html : Bool} (h : node.Built html) :
    node.isBetween = false :=
  isBetween_of_admissible ((built_iff node).1 h).1

theorem Node.isDefinition_of_built {node : Node} {html : Bool} (h : node.Built html) :
    node.isDefinition = false := by
  have hself := ((Node.built_iff node).1 h).1
  cases node with
  | linkReferenceDefinition _ _ _ => cases hself
  | _ => rfl

theorem EventTree.built_alone (tree : EventTree) : ∀ node ∈ tree.part.alone, node.Built true := by
  intro node hnode
  have hempty : tree.part.alone = (tree.part.addTo []).reverse :=
    (Part.reverse_addTo tree.part []).symm
  rw [hempty, List.mem_reverse] at hnode
  exact Part.forall_mem_addTo (fun _ h => h) tree.built_part (List.forall_mem_nil _) node hnode

theorem EventTree.filter_isDefinition_alone (tree : EventTree) :
    tree.part.alone.filter Node.isDefinition = [] := by
  rw [List.filter_eq_nil_iff]
  intro node hnode
  rw [Node.isDefinition_of_built (tree.built_alone node hnode)]
  exact Bool.false_ne_true

theorem EventTree.blockNodes_alone (tree : EventTree) :
    blockNodes tree.part.alone = tree.part.alone := by
  rw [blockNodes, List.filter_eq_self]
  intro node hnode
  rw [Node.isBetween_of_built (tree.built_alone node hnode)]
  rfl

/-- No definition is inside of what a builder makes. -/
theorem filter_isDefinition_withinAll {html : Bool} {nodes : List Node}
    (h : ∀ node ∈ nodes, node.isBetween = true ∨ node.Built html) :
    (withinAll nodes).filter Node.isDefinition = nodes.filter Node.isDefinition := by
  refine filter_withinAll_of_isBetween (fun node hdefinition => ?_) h
  cases node with
  | linkReferenceDefinition _ _ _ => rfl
  | _ => cases hdefinition

/-! ## What stands between trees -/

section Between

variable (source : String) (definitions : List Definition) (lastEnd offset : Nat)

theorem filter_isDefinition_map_node :
    (definitions.map Definition.node).filter Node.isDefinition =
      definitions.map Definition.node := by
  rw [List.filter_eq_self, List.forall_mem_map]
  exact fun _ _ => rfl

theorem blockNodes_map_node : blockNodes (definitions.map Definition.node) = [] := by
  rw [blockNodes, List.filter_eq_nil_iff, List.forall_mem_map]
  intro d _ hblock
  cases hblock

theorem filter_isDefinition_nodesBetween :
    (nodesBetween source definitions lastEnd offset).filter Node.isDefinition =
      (definitions.takeWhile (·.start < offset)).map Definition.node := by
  have hblank : ∀ count, (List.replicate count Node.blankLine).filter Node.isDefinition = [] :=
    fun count => List.filter_replicate_of_neg Bool.false_ne_true
  rw [nodesBetween, List.filter_append, filter_isDefinition_map_node, hblank, List.append_nil]

theorem blockNodes_nodesBetween :
    blockNodes (nodesBetween source definitions lastEnd offset) = [] := by
  have hblank : ∀ count, blockNodes (List.replicate count Node.blankLine) = [] :=
    fun count => List.filter_replicate_of_neg Bool.false_ne_true
  rw [nodesBetween, blockNodes_append, blockNodes_map_node, hblank, List.append_nil]

theorem htmlAll_nodesBetween (context : RenderContext) :
    htmlAll context (nodesBetween source definitions lastEnd offset) =
      htmlAll context (nodesBetween source [] lastEnd offset) := by
  have hnothing : ∀ placed : List Definition,
      htmlAll context (placed.map Definition.node) = "" := by
    intro placed
    induction placed with
    | nil => rfl
    | cons d rest ih => rw [List.map_cons, htmlAll_cons, ih, Definition.node, Node.html]; rfl
  rw [nodesBetween, nodesBetween, htmlAll_append, htmlAll_append, hnothing, hnothing]

end Between

/-! ## Views that do not see how texts are cut -/

theorem ignoresSeams_filter_isDefinition : IgnoresSeams (List.filter Node.isDefinition) := by
  intro front first second back
  rw [List.filter_append, List.filter_append]
  rfl

theorem ignoresSeams_mergedAll_blockNodes :
    IgnoresSeams fun nodes => mergedAll (blockNodes nodes) := by
  intro front first second back
  show mergedAll (blockNodes (front ++ _)) = mergedAll (blockNodes (front ++ _))
  rw [blockNodes_append, blockNodes_append]
  exact ignoresSeams_mergedAll _ first second (blockNodes back)

theorem ignoresSeams_htmlAll (context : RenderContext) : IgnoresSeams (htmlAll context) := by
  intro front first second back
  rw [htmlAll_append, htmlAll_append, htmlAll_cons, htmlAll_cons, htmlAll_cons, Node.html,
    Node.html, Node.html, contentHtml_append, String.append_assoc]

/-! ## The parts of a document -/

section TopParts

variable {source : String}

theorem Part.alone_nodes (nodes : List Node) : (Part.nodes nodes).alone = nodes := rfl

/-- Every definition is placed, once and in the given order. -/
theorem filter_isDefinition_topParts {definitions : List Definition}
    (hbelow : ∀ d ∈ definitions, d.start < source.utf8ByteSize) (lastEnd : Nat)
    (forest : List EventTree) :
    ((topParts source definitions lastEnd forest).flatMap Part.alone).filter Node.isDefinition =
      definitions.map Definition.node := by
  induction forest generalizing definitions lastEnd with
  | nil =>
    have hall : definitions.takeWhile (·.start < source.utf8ByteSize) = definitions :=
      List.takeWhile_eq_self_iff.2 fun d hd => decide_eq_true (hbelow d hd)
    rw [topParts, List.flatMap_singleton, Part.alone_nodes, filter_isDefinition_nodesBetween, hall]
  | cons tree rest ih =>
    have hbelow' : ∀ d ∈ definitions.dropWhile (·.start < tree.start),
        d.start < source.utf8ByteSize :=
      fun d hd => hbelow d ((List.dropWhile_suffix _).subset hd)
    rw [topParts, List.flatMap_cons, List.flatMap_cons, List.filter_append, List.filter_append,
      ih hbelow', Part.alone_nodes, filter_isDefinition_nodesBetween,
      tree.filter_isDefinition_alone, List.nil_append, ← List.map_append,
      List.takeWhile_append_dropWhile]

theorem blockNodes_topParts (definitions : List Definition) (lastEnd : Nat)
    (forest : List EventTree) :
    blockNodes ((topParts source definitions lastEnd forest).flatMap Part.alone) =
      forest.flatMap fun tree => tree.part.alone := by
  induction forest generalizing definitions lastEnd with
  | nil => rw [topParts, List.flatMap_singleton, Part.alone_nodes, blockNodes_nodesBetween,
      List.flatMap_nil]
  | cons tree rest ih =>
    rw [topParts, List.flatMap_cons, List.flatMap_cons, blockNodes_append, blockNodes_append, ih,
      Part.alone_nodes, blockNodes_nodesBetween, tree.blockNodes_alone, List.nil_append,
      List.flatMap_cons]

/-- Definitions render to nothing. -/
theorem htmlAll_topParts (context : RenderContext) (definitions : List Definition) (lastEnd : Nat)
    (forest : List EventTree) :
    htmlAll context ((topParts source definitions lastEnd forest).flatMap Part.alone) =
      htmlAll context ((topParts source [] lastEnd forest).flatMap Part.alone) := by
  induction forest generalizing definitions lastEnd with
  | nil =>
    rw [topParts, topParts, List.flatMap_singleton, List.flatMap_singleton, Part.alone_nodes,
      Part.alone_nodes, htmlAll_nodesBetween]
  | cons tree rest ih =>
    rw [topParts, topParts, List.flatMap_cons, List.flatMap_cons, List.flatMap_cons,
      List.flatMap_cons, htmlAll_append, htmlAll_append, htmlAll_append, htmlAll_append,
      Part.alone_nodes, Part.alone_nodes, htmlAll_nodesBetween, ih, List.dropWhile_nil]

theorem takeWhile_append_cons_of_neg {α : Type} {p : α → Bool} {a : α} (ha : p a = false)
    (front back : List α) : (front ++ a :: back).takeWhile p = front.takeWhile p := by
  induction front with
  | nil => rw [List.nil_append, List.takeWhile_cons, ha]; rfl
  | cons first rest ih => rw [List.cons_append, List.takeWhile_cons, List.takeWhile_cons, ih]

theorem dropWhile_append_cons_of_neg {α : Type} {p : α → Bool} {a : α} (ha : p a = false)
    (front back : List α) : (front ++ a :: back).dropWhile p = front.dropWhile p ++ a :: back := by
  induction front with
  | nil => rw [List.nil_append, List.dropWhile_cons, ha]; rfl
  | cons first rest ih =>
    rw [List.cons_append, List.dropWhile_cons, List.dropWhile_cons, ih]
    split <;> rfl

/-- A definition that starts before an offset is placed before it, after the earlier ones. -/
theorem nodesBetween_append_cons_of_lt {earlier later : List Definition} {d : Definition}
    {lastEnd offset : Nat} (hearlier : ∀ e ∈ earlier, e.start < d.start) (hd : d.start < offset) :
    nodesBetween source (earlier ++ d :: later) lastEnd offset =
      earlier.map Definition.node ++ d.node :: nodesBetween source later lastEnd offset := by
  have hall : ∀ e ∈ earlier, decide (e.start < offset) = true :=
    fun e he => decide_eq_true (Nat.lt_trans (hearlier e he) hd)
  rw [nodesBetween, List.takeWhile_append_of_pos hall, List.takeWhile_cons_of_pos (by simpa),
    List.map_append, List.map_cons, List.append_assoc, List.cons_append, ← nodesBetween]

/-- One that does not start before the offset keeps itself and the later ones back. -/
theorem nodesBetween_append_cons_of_le {earlier later : List Definition} {d : Definition}
    {lastEnd offset : Nat} (hd : offset ≤ d.start) :
    nodesBetween source (earlier ++ d :: later) lastEnd offset =
      nodesBetween source earlier lastEnd offset := by
  rw [nodesBetween, takeWhile_append_cons_of_neg (by simpa), ← nodesBetween]

/-- Where the trees are in order, a definition comes after the trees that do not start behind it and
before those that do. -/
theorem exists_split_topParts {d : Definition} (hd : d.start < source.utf8ByteSize)
    {earlier : List Definition} (hearlier : ∀ e ∈ earlier, e.start < d.start)
    (later : List Definition)
    {forest : List EventTree} (horder : (forest.map EventTree.start).Pairwise (· ≤ ·))
    (lastEnd : Nat) :
    ∃ before front back after,
      topParts source (earlier ++ d :: later) lastEnd forest =
        before ++ .nodes (front ++ d.node :: back) :: after ∧
      (before.flatMap Part.alone ++ front).filter Node.isDefinition =
        earlier.map Definition.node ∧
      blockNodes (before.flatMap Part.alone ++ front) =
        (forest.filter (·.start ≤ d.start)).flatMap (fun tree => tree.part.alone) ∧
      blockNodes (back ++ after.flatMap Part.alone) =
        (forest.filter (d.start < ·.start)).flatMap (fun tree => tree.part.alone) := by
  induction forest generalizing earlier lastEnd with
  | nil =>
    refine ⟨[], earlier.map Definition.node, nodesBetween source later lastEnd source.utf8ByteSize,
      [], ?_, filter_isDefinition_map_node earlier, blockNodes_map_node earlier, ?_⟩
    · rw [topParts, nodesBetween_append_cons_of_lt hearlier hd]
      rfl
    · rw [List.flatMap_nil, List.append_nil, blockNodes_nodesBetween]
      rfl
  | cons tree rest ih =>
    rw [List.map_cons, List.pairwise_cons, List.forall_mem_map] at horder
    obtain ⟨hfirst, horder⟩ := horder
    by_cases hstart : d.start < tree.start
    · -- it is placed before the first tree, and all trees start behind it
      have hbehind : ∀ other ∈ tree :: rest, d.start < other.start :=
        List.forall_mem_cons.2 ⟨hstart, fun other hother =>
          Nat.lt_of_lt_of_le hstart (hfirst other hother)⟩
      have hnone : (tree :: rest).filter (·.start ≤ d.start) = [] := by
        rw [List.filter_eq_nil_iff]
        intro other hother hle
        have hlt := hbehind other hother
        simp only [decide_eq_true_eq] at hle
        omega
      have hall : (tree :: rest).filter (d.start < ·.start) = tree :: rest :=
        List.filter_eq_self.2 fun other hother => decide_eq_true (hbehind other hother)
      refine ⟨[], earlier.map Definition.node, nodesBetween source later lastEnd tree.start,
        tree.part :: topParts source
          ((earlier ++ d :: later).dropWhile (·.start < tree.start)) tree.stop rest,
        ?_, filter_isDefinition_map_node earlier, ?_, ?_⟩
      · rw [topParts, nodesBetween_append_cons_of_lt hearlier hstart]
        rfl
      · rw [hnone]
        exact blockNodes_map_node earlier
      · rw [hall, List.flatMap_cons, List.flatMap_cons, blockNodes_append, blockNodes_append,
          blockNodes_nodesBetween, blockNodes_topParts, tree.blockNodes_alone, List.nil_append]
    · -- it waits, with what is left of the earlier ones, for the trees after the first
      have hle : tree.start ≤ d.start := Nat.le_of_not_lt hstart
      have hearlier' : ∀ e ∈ earlier.dropWhile (·.start < tree.start), e.start < d.start :=
        fun e he => hearlier e ((List.dropWhile_suffix _).subset he)
      obtain ⟨before, front, back, after, hparts, hdefinitions, hbefore, hafter⟩ :=
        ih hearlier' horder tree.stop
      refine ⟨.nodes (nodesBetween source earlier lastEnd tree.start) :: tree.part :: before, front,
        back, after, ?_, ?_, ?_, ?_⟩
      · rw [topParts, nodesBetween_append_cons_of_le hle, dropWhile_append_cons_of_neg (by simpa),
          hparts]
        rfl
      · rw [List.flatMap_cons, List.flatMap_cons, List.append_assoc, List.append_assoc,
          List.filter_append, List.filter_append, hdefinitions, Part.alone_nodes,
          filter_isDefinition_nodesBetween, tree.filter_isDefinition_alone, List.nil_append,
          ← List.map_append, List.takeWhile_append_dropWhile]
      · rw [List.flatMap_cons, List.flatMap_cons, List.append_assoc, List.append_assoc,
          blockNodes_append, blockNodes_append, hbefore, Part.alone_nodes,
          blockNodes_nodesBetween, tree.blockNodes_alone, List.nil_append,
          List.filter_cons_of_pos (by simpa using hle), List.flatMap_cons]
      · rw [List.filter_cons_of_neg (by simpa using hle), hafter]

end TopParts

/-! ## Documents -/

/-- The definitions in the order in which they start. -/
def sortedByStart (definitions : List Definition) : List Definition :=
  definitions.mergeSort fun a b => a.start ≤ b.start

section Sorted

variable {definitions : List Definition}

theorem sortedByStart_perm (definitions : List Definition) :
    (sortedByStart definitions).Perm definitions :=
  List.mergeSort_perm definitions _

theorem pairwise_le_sortedByStart (definitions : List Definition) :
    (sortedByStart definitions).Pairwise fun a b => a.start ≤ b.start := by
  have htrans : ∀ a b c : Definition, decide (a.start ≤ b.start) = true →
      decide (b.start ≤ c.start) = true → decide (a.start ≤ c.start) = true := by
    intro a b c hab hbc
    rw [decide_eq_true_eq] at hab hbc ⊢
    exact Nat.le_trans hab hbc
  have htotal : ∀ a b : Definition,
      (decide (a.start ≤ b.start) || decide (b.start ≤ a.start)) = true := by
    intro a b
    rw [Bool.or_eq_true, decide_eq_true_eq, decide_eq_true_eq]
    exact Nat.le_total a.start b.start
  exact (List.pairwise_mergeSort htrans htotal definitions).imp of_decide_eq_true

/-- Distinct starts leave one order only. -/
theorem pairwise_lt_sortedByStart (hstarts : (definitions.map Definition.start).Nodup) :
    (sortedByStart definitions).Pairwise fun a b => a.start < b.start := by
  have hdistinct : ((sortedByStart definitions).map Definition.start).Nodup :=
    ((sortedByStart_perm definitions).map Definition.start).nodup_iff.2 hstarts
  have hne := List.pairwise_map.1 hdistinct
  exact ((pairwise_le_sortedByStart definitions).and hne).imp fun ⟨hle, hne⟩ =>
    Nat.lt_of_le_of_ne hle hne

theorem sortedByStart_eq_of_perm (hstarts : (definitions.map Definition.start).Nodup)
    {given : List Definition} (hperm : given.Perm definitions) :
    sortedByStart given = sortedByStart definitions := by
  refine List.Perm.eq_of_pairwise ?_ (pairwise_le_sortedByStart given)
    (pairwise_le_sortedByStart definitions)
    ((sortedByStart_perm given).trans (hperm.trans (sortedByStart_perm definitions).symm))
  intro a b ha hb hab hba
  have ha' : a ∈ definitions := hperm.mem_iff.1 ((sortedByStart_perm given).mem_iff.1 ha)
  have hb' : b ∈ definitions := (sortedByStart_perm definitions).mem_iff.1 hb
  exact List.inj_on_of_nodup_map hstarts ha' hb' (Nat.le_antisymm hab hba)

end Sorted

theorem mergedAll_flow_partsOf (trees : List EventTree) :
    mergedAll (Part.flow (partsOf trees)) =
      mergedAll (trees.flatMap fun tree => tree.part.alone) := by
  rw [Part.view_flow ignoresSeams_mergedAll, partsOf_eq_map, List.flatMap_map]

namespace Document

variable {source : String} {definitions : List Definition} {events : List (Event × Span)}
  {document : Document}

theorem ofEvents_flattenAll_eq (source : String) (definitions : List Definition)
    (forest : List EventTree) :
    ofEvents source definitions (flattenAll forest) =
      .ok (ofForest source (sortedByStart definitions) forest) :=
  Builder.ofEvents_eq_ok_iff.2 (Builder.pushAll_flattenAll_nil source [] _ 0 forest)

/-- A definition divides a document: before it stand the definitions that start earlier and what the
trees come to that do not start behind it, after it what the other trees come to. -/
theorem exists_split_ofForest {d : Definition} (hd : d.start < source.utf8ByteSize)
    {earlier later : List Definition} (hearlier : ∀ e ∈ earlier, e.start < d.start)
    {forest : List EventTree} (horder : (forest.map EventTree.start).Pairwise (· ≤ ·)) :
    ∃ front back, (ofForest source (earlier ++ d :: later) forest).children =
        front ++ d.node :: back ∧
      front.filter Node.isDefinition = earlier.map Definition.node ∧
      mergedAll (blockNodes front) =
        mergedAll (Part.flow (partsOf (forest.filter (·.start ≤ d.start)))) ∧
      mergedAll (blockNodes back) =
        mergedAll (Part.flow (partsOf (forest.filter (d.start < ·.start)))) := by
  obtain ⟨before, front, back, after, hparts, hdefinitions, hbefore, hafter⟩ :=
    exists_split_topParts hd hearlier later horder 0
  -- the definition is no text, so what comes before it and after it is read apart
  refine ⟨Part.flow (before ++ [.nodes front]), Part.flow (.nodes back :: after), ?_, ?_, ?_, ?_⟩
  · rw [ofForest, hparts, Part.flow_append, Part.flow_append, List.foldl_cons]
    show List.foldl _ (Part.flow before ++ (front ++ d.node :: back)) after = _
    rw [← List.append_assoc, Part.foldl_appendTo_append_cons _ _ rfl]
    rfl
  · rw [Part.view_flow ignoresSeams_filter_isDefinition, List.flatMap_append,
      List.flatMap_singleton, Part.alone_nodes, hdefinitions]
  · rw [Part.view_flow ignoresSeams_mergedAll_blockNodes, List.flatMap_append,
      List.flatMap_singleton, Part.alone_nodes, hbefore, mergedAll_flow_partsOf]
  · rw [Part.view_flow ignoresSeams_mergedAll_blockNodes, List.flatMap_cons, Part.alone_nodes,
      hafter, mergedAll_flow_partsOf]

/-- Definitions come out once each, in the order of the source, and do not change the HTML. For
definitions with distinct starts inside the source, the definitions among the nodes of a document,
at the top level and at any depth, are the given ones in the order in which they start. Each stands
behind what the top-level trees come to that start at it or before, and before what those come to
that start after it, if the trees are in order themselves. Another order of the given definitions
makes the same document, and none at all one with the same HTML. -/
theorem definitions_ofEvents (hstarts : (definitions.map Definition.start).Nodup)
    (hbelow : ∀ d ∈ definitions, d.start < source.utf8ByteSize)
    (h : ofEvents source definitions events = .ok document) :
    (∃ sorted : List Definition, sorted.Perm definitions ∧
      sorted.Pairwise (fun a b => a.start < b.start) ∧
      document.children.filter Node.isDefinition = sorted.map Definition.node ∧
      (withinAll document.children).filter Node.isDefinition = sorted.map Definition.node ∧
      ∀ forest, flattenAll forest = events →
        (forest.map EventTree.start).Pairwise (· ≤ ·) →
        ∀ earlier d later, sorted = earlier ++ d :: later →
          ∃ front back, document.children = front ++ d.node :: back ∧
            front.filter Node.isDefinition = earlier.map Definition.node ∧
            mergedAll (blockNodes front) =
              mergedAll (Part.flow (partsOf (forest.filter (·.start ≤ d.start)))) ∧
            mergedAll (blockNodes back) =
              mergedAll (Part.flow (partsOf (forest.filter (d.start < ·.start))))) ∧
    (∃ forest, flattenAll forest = events) ∧
    (∀ given : List Definition, given.Perm definitions →
      ofEvents source given events = .ok document) ∧
    ∃ plain, ofEvents source [] events = .ok plain ∧
      ∀ context, document.html context = plain.html context := by
  have hbelow' : ∀ d ∈ sortedByStart definitions, d.start < source.utf8ByteSize :=
    fun d hd => hbelow d ((sortedByStart_perm definitions).mem_iff.1 hd)
  have hdocument : ∀ forest, flattenAll forest = events →
      document = ofForest source (sortedByStart definitions) forest := by
    rintro forest rfl
    exact Except.ok.inj (h.symm.trans (ofEvents_flattenAll_eq source definitions forest))
  obtain ⟨forest, hforest, -⟩ := Builder.exists_forest_of_ofEvents h
  have hdefinitions : document.children.filter Node.isDefinition =
      (sortedByStart definitions).map Definition.node := by
    rw [hdocument forest hforest, ofForest, Part.view_flow ignoresSeams_filter_isDefinition,
      filter_isDefinition_topParts hbelow']
  refine ⟨⟨sortedByStart definitions, sortedByStart_perm definitions,
    pairwise_lt_sortedByStart hstarts, hdefinitions, ?_, ?_⟩, ⟨forest, hforest⟩, ?_, ?_⟩
  · rw [filter_isDefinition_withinAll (Builder.built_ofEvents (fun _ _ _ => rfl) h), hdefinitions]
  · intro forest hforest horder earlier d later hsplit
    have hsorted := pairwise_lt_sortedByStart hstarts
    rw [hsplit] at hsorted hbelow'
    have hearlier : ∀ e ∈ earlier, e.start < d.start :=
      fun e he => (List.pairwise_append.1 hsorted).2.2 e he d List.mem_cons_self
    rw [hdocument forest hforest, hsplit]
    exact exists_split_ofForest (hbelow' d (by simp)) hearlier horder
  · intro given hperm
    have hsame := sortedByStart_eq_of_perm hstarts hperm
    rw [← h, ← hforest, ofEvents_flattenAll_eq, ofEvents_flattenAll_eq, hsame]
  · refine ⟨ofForest source (sortedByStart []) forest, ?_, fun context => ?_⟩
    · rw [← hforest, ofEvents_flattenAll_eq]
    · have hnone : sortedByStart [] = [] := List.mergeSort_nil
      rw [hdocument forest hforest, hnone, html, html, ofForest, ofForest,
        Part.view_flow (ignoresSeams_htmlAll context), htmlAll_topParts,
        Part.view_flow (ignoresSeams_htmlAll context)]

/-- Two definitions between two paragraphs, given last one first. -/
theorem definitions_ofEvents_reversed :
    ∃ document, ofEvents "a\n\n[x]: /y\n[z]: /w\n\nb" [⟨11, "z", "/w", none⟩, ⟨3, "x", "/y", none⟩]
        (flattenAll [.element .paragraph ⟨0, 1⟩ [.leaf (.text "a") ⟨0, 1⟩] ⟨0, 1⟩,
          .element .paragraph ⟨20, 21⟩ [.leaf (.text "b") ⟨20, 21⟩] ⟨20, 21⟩]) = .ok document ∧
      document.children.filter Node.isDefinition =
        [.linkReferenceDefinition "x" "/y" none, .linkReferenceDefinition "z" "/w" none] := by
  have hdocument := ofEvents_flattenAll_eq "a\n\n[x]: /y\n[z]: /w\n\nb"
    [⟨11, "z", "/w", none⟩, ⟨3, "x", "/y", none⟩]
    [.element .paragraph ⟨0, 1⟩ [.leaf (.text "a") ⟨0, 1⟩] ⟨0, 1⟩,
      .element .paragraph ⟨20, 21⟩ [.leaf (.text "b") ⟨20, 21⟩] ⟨20, 21⟩]
  refine ⟨_, hdocument, ?_⟩
  obtain ⟨⟨sorted, hperm, hpairwise, hdefinitions, -⟩, -⟩ :=
    definitions_ofEvents (by decide) (by decide) hdocument
  have hsorted : sorted = [⟨3, "x", "/y", none⟩, ⟨11, "z", "/w", none⟩] :=
    List.Perm.eq_of_pairwise (fun a b _ _ hab hba => absurd hab (Nat.lt_asymm hba)) hpairwise
      (by decide) (hperm.trans (.swap _ _ _))
  rw [hdefinitions, hsorted]
  rfl

end Document

end MarkdownHtml
