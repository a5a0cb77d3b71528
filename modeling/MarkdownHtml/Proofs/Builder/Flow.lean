import Mathlib.Data.List.Induction
import MarkdownHtml.Proofs.Builder.Forest
import MarkdownHtml.Proofs.Builder.Runs
import MarkdownHtml.Proofs.Document.Merged

/-!
# How parts come together

Adding a part to nodes changes at most their last node, and that only when it is a text
(`Part.appendTo_append_cons`). So parts that follow a node of another kind, or that begin with one,
are read as if they stood alone (`Part.foldl_appendTo_of_head?`), and to a view that does not see
how texts are cut every part is (`Part.view_foldl_appendTo`). An item then wraps each run of inline
nodes by itself, which it may do before or after texts are put together (`mergedAll_wrapInlineRuns`).
-/

namespace MarkdownHtml

/-! ## Adding parts at the end -/

theorem appendText_cons_of_not_isText {node : Node} (h : node.isText = false) (text : String)
    (rest : List Node) : appendText text (node :: rest) = node :: appendText text rest := by
  cases node with
  | text last => cases h
  | _ => cases rest <;> rfl

theorem appendText_append_cons (text : String) (front : List Node) (node : Node)
    (back : List Node) :
    appendText text (front ++ node :: back) = front ++ appendText text (node :: back) := by
  induction front with
  | nil => rfl
  | cons first rest ih =>
    rw [List.cons_append, List.cons_append, ← ih]
    -- something follows `first`, so it is not the node that the text could extend
    rcases hrest : rest ++ node :: back with _ | ⟨second, tail⟩
    · simp at hrest
    · cases first <;> rfl

/-- A text is added as a node of its own, or it extends the text that stands last. -/
theorem appendText_cases (text : String) (nodes : List Node) :
    appendText text nodes = nodes ++ [.text text] ∨
      ∃ front last, nodes = front ++ [.text last] ∧
        appendText text nodes = front ++ [.text (last ++ text)] := by
  rcases List.eq_nil_or_concat nodes with rfl | ⟨front, node, rfl⟩
  · exact .inl rfl
  · rw [List.concat_eq_append, appendText_append_cons]
    cases hnode : node.isText with
    | false =>
      left
      rw [appendText_cons_of_not_isText hnode, List.append_assoc]
      rfl
    | true =>
      cases node with
      | text last => exact .inr ⟨front, last, rfl, rfl⟩
      | _ => cases hnode

namespace Part

/-- The nodes that a part comes to where nothing stands before it. -/
def alone (part : Part) : List Node := part.appendTo []

/-- A part that brings a text. -/
def isText : Part → Bool
  | .text _ => true
  | _ => false

theorem appendTo_of_not_isText {part : Part} (h : part.isText = false) (nodes : List Node) :
    part.appendTo nodes = nodes ++ part.alone := by
  cases part with
  | text text => cases h
  | html _ | nodes _ | item _ | cell _ | row _ _ => simp [alone, appendTo]

/-- A part is added behind the last node that is no text. -/
theorem appendTo_append_cons (part : Part) (front : List Node) {node : Node}
    (h : node.isText = false) (back : List Node) :
    part.appendTo (front ++ node :: back) = front ++ node :: part.appendTo back := by
  cases part with
  | text text =>
    show appendText text (front ++ node :: back) = front ++ node :: appendText text back
    rw [appendText_append_cons, appendText_cons_of_not_isText h]
  | html _ | nodes _ | item _ | cell _ | row _ _ => simp [appendTo]

/-- Parts are added behind the last node that is no text. -/
theorem foldl_appendTo_append_cons (parts : List Part) (front : List Node) {node : Node}
    (h : node.isText = false) (back : List Node) :
    parts.foldl (fun nodes p => p.appendTo nodes) (front ++ node :: back) =
      front ++ node :: parts.foldl (fun nodes p => p.appendTo nodes) back := by
  induction parts generalizing back with
  | nil => rfl
  | cons part rest ih =>
    rw [List.foldl_cons, List.foldl_cons, appendTo_append_cons part front h, ih]

/-- Where no text stands last, parts are read as if they stood alone. -/
theorem foldl_appendTo_of_getLast? (parts : List Part) {nodes : List Node}
    (h : ∀ node ∈ nodes.getLast?, node.isText = false) :
    parts.foldl (fun nodes p => p.appendTo nodes) nodes = nodes ++ flow parts := by
  rcases List.eq_nil_or_concat nodes with rfl | ⟨front, last, rfl⟩
  · rfl
  · have hlast : last.isText = false := h last (by simp)
    rw [List.concat_eq_append, foldl_appendTo_append_cons parts front hlast, List.append_assoc,
      List.singleton_append]
    rfl

theorem flow_append (first second : List Part) :
    flow (first ++ second) = second.foldl (fun nodes p => p.appendTo nodes) (flow first) :=
  List.foldl_append

/-- A text that stands first stays there, and may become longer. -/
theorem exists_appendTo_text_cons (part : Part) (text : String) (back : List Node) :
    ∃ more rest, part.appendTo (.text text :: back) = .text more :: rest := by
  cases part with
  | text more =>
    rcases back with _ | ⟨second, tail⟩
    · exact ⟨text ++ more, [], rfl⟩
    · exact ⟨text, appendText more (second :: tail), rfl⟩
  | html _ | nodes _ | item _ | cell _ | row _ _ => exact ⟨text, _, rfl⟩

/-- Where no text comes first, parts are read as if they stood alone. -/
theorem foldl_appendTo_of_head? {parts : List Part}
    (h : ∀ node ∈ (flow parts).head?, node.isText = false) (nodes : List Node) :
    parts.foldl (fun nodes p => p.appendTo nodes) nodes = nodes ++ flow parts := by
  induction parts using List.reverseRecOn with
  | nil => exact (List.append_nil nodes).symm
  | append_singleton parts part ih =>
    rw [flow_append, List.foldl_cons, List.foldl_nil] at h ⊢
    rw [List.foldl_append, List.foldl_cons, List.foldl_nil]
    rcases hflow : flow parts with _ | ⟨first, back⟩
    · -- nothing before the last part, so it is this one that brings no text
      rw [hflow] at h ih
      have hpart : part.isText = false := by
        cases part with
        | text text => exact absurd (h (.text text) rfl) Bool.noConfusion
        | _ => rfl
      rw [ih (by simp), List.append_nil, appendTo_of_not_isText hpart]
      rfl
    · rw [hflow] at h ih
      have hfirst : first.isText = false := by
        cases first with
        | text text =>
          obtain ⟨more, rest, heq⟩ := exists_appendTo_text_cons part text back
          rw [heq] at h
          exact h (.text more) rfl
        | _ => rfl
      have halone := appendTo_append_cons part [] hfirst back
      rw [List.nil_append, List.nil_append] at halone
      rw [ih (by simpa using hfirst), appendTo_append_cons part nodes hfirst, halone]

end Part

/-! ## Up to how texts are cut -/

/-- What is seen of nodes does not tell a text from two that it is made up of. -/
def IgnoresSeams {α : Type} (view : List Node → α) : Prop :=
  ∀ front first second back,
    view (front ++ .text (first ++ second) :: back) =
      view (front ++ .text first :: .text second :: back)

theorem ignoresSeams_mergedAll : IgnoresSeams mergedAll := by
  intro front first second back
  have htexts : mergedAll [.text (first ++ second)] = mergedAll [.text first, .text second] := rfl
  exact mergedAll_append_congr rfl (mergedAll_append_congr htexts rfl)

namespace Part

variable {α : Type} {view : List Node → α}

/-- Where seams are not seen, parts are read as if each stood alone. -/
theorem view_foldl_appendTo (h : IgnoresSeams view) (parts : List Part) (nodes : List Node) :
    view (parts.foldl (fun nodes p => p.appendTo nodes) nodes) =
      view (nodes ++ parts.flatMap alone) := by
  have hone : ∀ (part : Part) (nodes back : List Node),
      view (part.appendTo nodes ++ back) = view (nodes ++ part.alone ++ back) := by
    intro part nodes back
    cases hpart : part.isText with
    | false => rw [appendTo_of_not_isText hpart]
    | true =>
      cases part with
      | text text =>
        rcases appendText_cases text nodes with heq | ⟨front, last, rfl, heq⟩
        · rw [appendTo, heq]
          rfl
        · rw [appendTo, heq, List.append_assoc, List.append_assoc, List.append_assoc]
          exact h front last text back
      | _ => cases hpart
  induction parts generalizing nodes with
  | nil => rw [List.flatMap_nil, List.append_nil, List.foldl_nil]
  | cons part rest ih =>
    rw [List.foldl_cons, ih, List.flatMap_cons, ← List.append_assoc]
    exact hone part nodes _

theorem view_flow (h : IgnoresSeams view) (parts : List Part) :
    view (flow parts) = view (parts.flatMap alone) :=
  view_foldl_appendTo h parts []

theorem mergedAll_appendTo (part : Part) (nodes : List Node) :
    mergedAll (part.appendTo nodes) = mergedAll (nodes ++ part.alone) := by
  have hview := view_foldl_appendTo ignoresSeams_mergedAll [part] nodes
  rw [List.flatMap_singleton] at hview
  exact hview

end Part

/-! ## Wrapping runs of inline nodes -/

theorem mergedAll_wrapRun (run : List Node) :
    mergedAll (wrapRun run) = wrapRun (mergedAll run) := by
  cases hrun : mergedAll run with
  | nil =>
    rw [(mergedAll_eq_nil_iff run).1 hrun]
    rfl
  | cons first rest =>
    have hne : run ≠ [] := by
      rintro rfl
      cases hrun
    rw [wrapRun, if_neg (by simp [hne]), mergedAll_cons_of_not_isText rfl, Node.merged, hrun]
    rfl

/-- It is the same to put texts together before the inline runs of an item are wrapped or after. -/
theorem mergedAll_wrapInlineRuns (nodes : List Node) :
    mergedAll (wrapInlineRuns nodes) = wrapInlineRuns (mergedAll nodes) := by
  induction nodes using induction_on_runs with
  | inline run hrun =>
    rw [wrapInlineRuns_of_inline hrun, wrapInlineRuns_of_inline (isInline_of_mem_mergedAll hrun),
      mergedAll_wrapRun]
  | append_cons run node rest hrun hnode ih =>
    have htext := isText_of_isInline_eq_false hnode
    rw [wrapInlineRuns_append_cons hnode, mergedAll_append_cons_of_not_isText _ htext,
      mergedAll_append_cons_of_not_isText _ htext, wrapInlineRuns_of_inline hrun, mergedAll_wrapRun,
      ih, wrapInlineRuns_append_cons (node.isInline_merged.trans hnode),
      wrapInlineRuns_of_inline (isInline_of_mem_mergedAll hrun)]

end MarkdownHtml
