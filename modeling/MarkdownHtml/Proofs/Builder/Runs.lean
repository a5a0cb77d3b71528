import Mathlib.Data.List.Chain
import MarkdownHtml.Builder.Frame

/-!
# Maximal runs of inline nodes

An item wraps runs of inline nodes in paragraphs. A node that is not inline separates what stands on
its two sides (`wrapInlineRuns_append_cons`), and a row is taken apart at these nodes
(`induction_on_runs`).

`Divides parts nodes` says that a row is made up of nodes that are not inline and of maximal runs of
inline ones. There is such a division of every row (`exists_divides`), and wrapping gives what any
division of the row says, part by part (`Divides.wrapInlineRuns`). So the result is determined by the
maximal runs alone (`wrapInlineRuns_maximal_runs`).
-/

namespace MarkdownHtml

/-! ## One run -/

/-- A run of inline nodes as an item holds it: in a paragraph, unless it is empty. -/
def wrapRun (run : List Node) : List Node := if run.isEmpty then [] else [.paragraph run]

theorem wrapRun_of_ne_nil {run : List Node} (h : run ≠ []) : wrapRun run = [.paragraph run] := by
  rw [wrapRun, if_neg (by simp [h])]

/-- Inline nodes join the run that waits to be wrapped. -/
theorem wrapRunsFrom_of_inline {run : List Node} (hrun : ∀ node ∈ run, node.isInline = true)
    (waiting : List Node) : wrapRunsFrom waiting run = wrapRun (waiting.reverse ++ run) := by
  induction run generalizing waiting with
  | nil => rw [wrapRunsFrom, List.append_nil, wrapRun, List.isEmpty_reverse]
  | cons node run ih =>
    obtain ⟨hnode, hrun⟩ := List.forall_mem_cons.1 hrun
    rw [wrapRunsFrom, if_pos hnode, ih hrun, List.reverse_cons, List.append_assoc,
      List.singleton_append]

theorem wrapInlineRuns_of_inline {run : List Node} (hrun : ∀ node ∈ run, node.isInline = true) :
    wrapInlineRuns run = wrapRun run :=
  wrapRunsFrom_of_inline hrun []

/-! ## A node between two runs -/

/-- A node that is not inline keeps apart what stands on its two sides, also when a run is waiting to
be wrapped. -/
theorem wrapRunsFrom_append_cons {node : Node} (hnode : node.isInline = false)
    (waiting front back : List Node) :
    wrapRunsFrom waiting (front ++ node :: back) =
      wrapRunsFrom waiting front ++ node :: wrapInlineRuns back := by
  induction front generalizing waiting with
  | nil =>
    rw [List.nil_append, wrapRunsFrom, wrapRunsFrom, if_neg (by simp [hnode]), wrapInlineRuns]
    split <;> rfl
  | cons first front ih =>
    rw [List.cons_append, wrapRunsFrom, wrapRunsFrom]
    split
    · exact ih _
    · split
      · rw [ih, List.cons_append]
      · rw [ih, List.cons_append, List.cons_append]

theorem wrapInlineRuns_append_cons {node : Node} (hnode : node.isInline = false)
    (front back : List Node) :
    wrapInlineRuns (front ++ node :: back) =
      wrapInlineRuns front ++ node :: wrapInlineRuns back :=
  wrapRunsFrom_append_cons hnode [] front back

/-- A node that is not inline stays as it is. -/
theorem wrapInlineRuns_cons_of_block {node : Node} (hnode : node.isInline = false)
    (rest : List Node) : wrapInlineRuns (node :: rest) = node :: wrapInlineRuns rest :=
  wrapInlineRuns_append_cons hnode [] rest

theorem wrapInlineRuns_of_block {nodes : List Node}
    (h : ∀ node ∈ nodes, node.isInline = false) : wrapInlineRuns nodes = nodes := by
  induction nodes with
  | nil => rfl
  | cons node nodes ih =>
    obtain ⟨hnode, hnodes⟩ := List.forall_mem_cons.1 h
    rw [wrapInlineRuns_cons_of_block hnode, ih hnodes]

/-- A run of inline nodes is wrapped by itself where no inline node follows it. -/
theorem wrapInlineRuns_append_of_head? {run rest : List Node}
    (hrun : ∀ node ∈ run, node.isInline = true) (hrest : ∀ node ∈ rest.head?, node.isInline = false) :
    wrapInlineRuns (run ++ rest) = wrapRun run ++ wrapInlineRuns rest := by
  rw [← wrapInlineRuns_of_inline hrun]
  cases rest with
  | nil =>
    rw [List.append_nil]
    exact (List.append_nil _).symm
  | cons node rest =>
    have hnode := hrest node rfl
    rw [wrapInlineRuns_append_cons hnode, wrapInlineRuns_cons_of_block hnode]

/-- A row of nodes is a run of inline nodes, or it begins with such a run and a node that is not
inline. -/
@[elab_as_elim]
theorem induction_on_runs {motive : List Node → Prop} (nodes : List Node)
    (inline : ∀ run, (∀ node ∈ run, node.isInline = true) → motive run)
    (append_cons : ∀ run node rest, (∀ inner ∈ run, inner.isInline = true) →
      node.isInline = false → motive rest → motive (run ++ node :: rest)) : motive nodes := by
  -- the inline nodes at the beginning are gathered in `run`
  have hruns : ∀ run, (∀ node ∈ run, node.isInline = true) → motive (run ++ nodes) := by
    induction nodes with
    | nil =>
      intro run hrun
      rw [List.append_nil]
      exact inline run hrun
    | cons node rest ih =>
      intro run hrun
      cases hnode : node.isInline with
      | true =>
        have hlonger : ∀ inner ∈ run ++ [node], inner.isInline = true :=
          List.forall_mem_append.2 ⟨hrun, List.forall_mem_singleton.2 hnode⟩
        rw [List.append_cons]
        exact ih _ hlonger
      | false => exact append_cons run node rest hrun hnode (ih [] (List.forall_mem_nil _))
  exact hruns [] (List.forall_mem_nil _)

/-! ## Divisions of a row -/

/-- A part of a row of nodes. -/
inductive RowPart where
  /-- Nodes that go into one paragraph. -/
  | run (nodes : List Node)
  /-- A node that stays as it is. -/
  | block (node : Node)

namespace RowPart

/-- The nodes of a part. -/
def nodes : RowPart → List Node
  | run nodes => nodes
  | block node => [node]

/-- What a part comes to. -/
def wrapped : RowPart → Node
  | run nodes => .paragraph nodes
  | block node => node

/-- A run holds inline nodes and nothing else, and at least one; a node that stays is not inline. -/
def Sound : RowPart → Prop
  | run nodes => nodes ≠ [] ∧ ∀ node ∈ nodes, node.isInline = true
  | block node => node.isInline = false

/-- Two parts that may follow each other: at most one of them is a run. -/
def Apart : RowPart → RowPart → Prop
  | run _, run _ => False
  | _, _ => True

end RowPart

/-- The parts make up the row, in order. As no run follows another one, each ends where there are no
more inline nodes, so that the runs are the maximal ones. -/
structure Divides (parts : List RowPart) (nodes : List Node) : Prop where
  flatMap_nodes : parts.flatMap RowPart.nodes = nodes
  sound : ∀ part ∈ parts, part.Sound
  apart : parts.IsChain RowPart.Apart

/-- Every row can be divided. -/
theorem exists_divides (nodes : List Node) : ∃ parts, Divides parts nodes := by
  induction nodes using induction_on_runs with
  | inline run hrun =>
    by_cases hnil : run = []
    · exact ⟨[], hnil.symm, List.forall_mem_nil _, .nil⟩
    · exact ⟨[.run run], List.flatMap_singleton _ _,
        List.forall_mem_singleton.2 ⟨hnil, hrun⟩, .singleton _⟩
  | append_cons run node rest hrun hnode ih =>
    obtain ⟨parts, rfl, hparts, hapart⟩ := ih
    have hblock : ∀ part ∈ RowPart.block node :: parts, part.Sound :=
      List.forall_mem_cons.2 ⟨hnode, hparts⟩
    have hchain : (RowPart.block node :: parts).IsChain RowPart.Apart :=
      List.isChain_cons.2 ⟨fun _ _ => trivial, hapart⟩
    by_cases hnil : run = []
    · exact ⟨.block node :: parts, by rw [hnil]; rfl, hblock, hchain⟩
    · exact ⟨.run run :: .block node :: parts, rfl,
        List.forall_mem_cons.2 ⟨⟨hnil, hrun⟩, hblock⟩, .cons_cons trivial hchain⟩

section Divides

variable {parts : List RowPart} {nodes : List Node}

/-- No inline node follows a run. -/
theorem isInline_of_head?_flatMap {run : List Node} (hsound : ∀ part ∈ parts, part.Sound)
    (hapart : (RowPart.run run :: parts).IsChain RowPart.Apart) :
    ∀ node ∈ (parts.flatMap RowPart.nodes).head?, node.isInline = false := by
  cases parts with
  | nil => simp
  | cons next parts =>
    cases next with
    | run _ => exact absurd hapart.rel not_false
    | block node =>
      intro first hfirst
      cases hfirst
      exact hsound _ List.mem_cons_self

/-- Wrapping gives what a division says. -/
theorem Divides.wrapInlineRuns (h : Divides parts nodes) :
    wrapInlineRuns nodes = parts.map RowPart.wrapped := by
  obtain ⟨rfl, hsound, hapart⟩ := h
  induction parts with
  | nil => rfl
  | cons part parts ih =>
    obtain ⟨hpart, hrest⟩ := List.forall_mem_cons.1 hsound
    rw [List.flatMap_cons, List.map_cons, ← ih hrest hapart.tail]
    cases part with
    | run run =>
      obtain ⟨hne, hinline⟩ := hpart
      rw [RowPart.nodes,
        wrapInlineRuns_append_of_head? hinline (isInline_of_head?_flatMap hrest hapart),
        wrapRun_of_ne_nil hne]
      rfl
    | block node => exact wrapInlineRuns_cons_of_block hpart _

end Divides

/-- What stands in a wrapped row is a node of the row that is not inline, or a paragraph of nodes that
follow each other in the row. -/
theorem mem_wrapInlineRuns {nodes : List Node} {node : Node} (h : node ∈ wrapInlineRuns nodes) :
    (node.isInline = false ∧ node ∈ nodes) ∨ ∃ run, run <:+: nodes ∧ node = .paragraph run := by
  obtain ⟨parts, hparts⟩ := exists_divides nodes
  rw [hparts.wrapInlineRuns] at h
  obtain ⟨part, hpart, rfl⟩ := List.mem_map.1 h
  have hsound := hparts.sound part hpart
  obtain ⟨front, back, rfl⟩ := List.append_of_mem hpart
  rw [← hparts.flatMap_nodes, List.flatMap_append, List.flatMap_cons]
  cases part with
  | run run => exact .inr ⟨run, ⟨_, _, List.append_assoc _ _ _⟩, rfl⟩
  | block node =>
    exact .inl ⟨hsound, List.mem_append_right _ (List.mem_append_left _ (List.mem_singleton_self _))⟩

theorem isInline_of_mem_wrapInlineRuns {nodes : List Node} :
    ∀ node ∈ wrapInlineRuns nodes, node.isInline = false := by
  intro node hnode
  rcases mem_wrapInlineRuns hnode with ⟨hblock, -⟩ | ⟨run, -, rfl⟩
  · exact hblock
  · rfl

/-- Wrapping turns a row into one without inline nodes: each maximal run of inline nodes, which has
at least one node, becomes a paragraph of just that run, and every other node stays, all in order.
There is exactly one such row. A node that is not inline separates what is wrapped on its two sides,
only rows without inline nodes stay as they are, and what has been wrapped is one of them. -/
theorem wrapInlineRuns_maximal_runs :
    (∀ nodes blocks, blocks = wrapInlineRuns nodes ↔
      ∃ parts, Divides parts nodes ∧ blocks = parts.map RowPart.wrapped) ∧
    (∀ nodes, ∀ node ∈ wrapInlineRuns nodes, node.isInline = false) ∧
    (∀ (front : List Node) (node : Node) (back : List Node), node.isInline = false →
      wrapInlineRuns (front ++ node :: back) =
        wrapInlineRuns front ++ node :: wrapInlineRuns back) ∧
    (∀ nodes, wrapInlineRuns nodes = nodes ↔ ∀ node ∈ nodes, node.isInline = false) ∧
    ∀ nodes, wrapInlineRuns (wrapInlineRuns nodes) = wrapInlineRuns nodes := by
  refine ⟨?_, fun _ => isInline_of_mem_wrapInlineRuns, ?_, ?_, ?_⟩
  · intro nodes blocks
    constructor
    · rintro rfl
      obtain ⟨parts, hparts⟩ := exists_divides nodes
      exact ⟨parts, hparts, hparts.wrapInlineRuns⟩
    · rintro ⟨parts, hparts, rfl⟩
      exact hparts.wrapInlineRuns.symm
  · exact fun front node back hnode => wrapInlineRuns_append_cons hnode front back
  · intro nodes
    constructor
    · intro h
      rw [← h]
      exact isInline_of_mem_wrapInlineRuns
    · exact wrapInlineRuns_of_block
  · exact fun nodes => wrapInlineRuns_of_block isInline_of_mem_wrapInlineRuns

/-- An inline badge joins the run that it stands in, and a marker separates two runs. -/
theorem wrapInlineRuns_maximal_runs_marker :
    (Node.widget 1 .marker).isInline = false ∧
      wrapInlineRuns [.text "a", .widget 0 (.badge "b" true), .widget 1 .marker, .softBreak] =
        [.paragraph [.text "a", .widget 0 (.badge "b" true)], .widget 1 .marker,
          .paragraph [.softBreak]] :=
  ⟨rfl, wrapInlineRuns_maximal_runs.2.2.1 [.text "a", .widget 0 (.badge "b" true)]
    (.widget 1 .marker) [.softBreak] rfl⟩

end MarkdownHtml
