import MarkdownHtml.Document.Node

/-!
# Trees up to how their texts are cut

`Node.merged` puts adjacent texts together everywhere in a tree. Nodes that are merged to the same
nodes say the same: merging looks at a row of nodes from both of its ends alike
(`mergedAll_append_congr`), and it changes neither the plain text nor which nodes are inline.
-/

namespace MarkdownHtml

/-- A node in front of others: a text joins a text that stands first. -/
def Node.joinTo : Node → List Node → List Node
  | .text first, .text second :: rest => .text (first ++ second) :: rest
  | node, rest => node :: rest

mutual

/-- The tree with adjacent texts put together everywhere. What a widget holds is left alone. -/
def Node.merged : Node → Node
  | .paragraph children => .paragraph (mergedAll children)
  | .blockQuote children => .blockQuote (mergedAll children)
  | .heading level children => .heading level (mergedAll children)
  | .list firstNumber items => .list firstNumber (mergedEach items)
  | .listItem children => .listItem (mergedAll children)
  | .table alignments header rows => .table alignments (mergedEach header) (mergedRows rows)
  | .emphasis strong children => .emphasis strong (mergedAll children)
  | .strikethrough children => .strikethrough (mergedAll children)
  | .link destination title children => .link destination title (mergedAll children)
  | .image source title description => .image source title (mergedAll description)
  | .blankLine => .blankLine
  | .codeBlock info code => .codeBlock info code
  | .htmlBlock code => .htmlBlock code
  | .linkReferenceDefinition label destination title =>
    .linkReferenceDefinition label destination title
  | .thematicBreak => .thematicBreak
  | .text text => .text text
  | .codeSpan code => .codeSpan code
  | .hardBreak => .hardBreak
  | .softBreak => .softBreak
  | .rawHtml html => .rawHtml html
  | .autoLink destination text => .autoLink destination text
  | .widget handle w => .widget handle w

/-- Trees in a row with adjacent texts put together everywhere. -/
def mergedAll : List Node → List Node
  | [] => []
  | node :: rest => node.merged.joinTo (mergedAll rest)

/-- List items, or cells, with adjacent texts put together in each. -/
def mergedEach : List (List Node) → List (List Node)
  | [] => []
  | nodes :: rest => mergedAll nodes :: mergedEach rest

/-- Table rows with adjacent texts put together in each cell. -/
def mergedRows : List (List (List Node)) → List (List (List Node))
  | [] => []
  | row :: rest => mergedEach row :: mergedRows rest

end

/-- The document with adjacent texts put together everywhere. -/
def Document.merged (document : Document) : Document := ⟨mergedAll document.children⟩

/-! ## Rows of nodes -/

/-- A text, which takes in a text that follows it. -/
def Node.isText : Node → Bool
  | .text _ => true
  | _ => false

theorem Node.joinTo_of_not_isText {node : Node} (h : node.isText = false) (rest : List Node) :
    node.joinTo rest = node :: rest := by
  cases node with
  | text text => cases h
  | _ => rfl

theorem Node.isText_merged (node : Node) : node.merged.isText = node.isText := by
  cases node <;> simp [merged, isText]

theorem Node.isInline_merged (node : Node) : node.merged.isInline = node.isInline := by
  cases node <;> simp [merged, isInline]

theorem isText_of_isInline_eq_false {node : Node} (h : node.isInline = false) :
    node.isText = false := by
  cases node with
  | text text => cases h
  | _ => rfl

/-- A node that is no text stays by itself. -/
theorem mergedAll_cons_of_not_isText {node : Node} (h : node.isText = false) (rest : List Node) :
    mergedAll (node :: rest) = node.merged :: mergedAll rest := by
  rw [mergedAll, Node.joinTo_of_not_isText (node.isText_merged.trans h)]

/-- Texts in a row join from either end. -/
theorem Node.foldr_joinTo (node : Node) (nodes more : List Node) :
    (node.joinTo nodes).foldr joinTo more = node.joinTo (nodes.foldr joinTo more) := by
  have hjoin : ∀ (first second : String) (rest : List Node),
      (Node.text (first ++ second)).joinTo rest =
        (Node.text first).joinTo ((Node.text second).joinTo rest) := by
    intro first second rest
    rcases rest with _ | ⟨next, rest⟩
    · rfl
    · cases next <;> simp [joinTo, String.append_assoc]
  by_cases htext : node.isText = true
  · cases node with
    | text first =>
      rcases nodes with _ | ⟨next, rest⟩
      · rfl
      · cases next with
        | text second =>
          rw [joinTo, List.foldr_cons, List.foldr_cons]
          exact hjoin first second _
        | _ => rfl
    | _ => cases htext
  · rw [Bool.not_eq_true] at htext
    rw [joinTo_of_not_isText htext, List.foldr_cons]

theorem mergedAll_append (first second : List Node) :
    mergedAll (first ++ second) = (mergedAll first).foldr Node.joinTo (mergedAll second) := by
  induction first with
  | nil => rfl
  | cons node rest ih => rw [List.cons_append, mergedAll, mergedAll, ih, Node.foldr_joinTo]

/-- Rows that are merged to the same may stand for each other in a longer row. -/
theorem mergedAll_append_congr {first first' second second' : List Node}
    (hfirst : mergedAll first = mergedAll first') (hsecond : mergedAll second = mergedAll second') :
    mergedAll (first ++ second) = mergedAll (first' ++ second') := by
  rw [mergedAll_append, mergedAll_append, hfirst, hsecond]

/-- Where a node that is no text follows, nothing joins across. -/
theorem mergedAll_append_cons_of_not_isText (first : List Node) {node : Node}
    (h : node.isText = false) (rest : List Node) :
    mergedAll (first ++ node :: rest) = mergedAll first ++ node.merged :: mergedAll rest := by
  have hkeep : ∀ (nodes : List Node) (next : Node), next.isText = false →
      ∀ more, nodes.foldr Node.joinTo (next :: more) =
        nodes.foldr Node.joinTo [] ++ next :: more := by
    intro nodes next hnext more
    induction nodes with
    | nil => rfl
    | cons first rest ih =>
      rw [List.foldr_cons, List.foldr_cons, ih]
      rcases hrest : rest.foldr Node.joinTo [] with _ | ⟨second, tail⟩
      · cases first <;> cases next <;> first | rfl | cases hnext
      · cases first <;> cases second <;> rfl
  have hself : (mergedAll first).foldr Node.joinTo [] = mergedAll first := by
    have hnil := mergedAll_append first []
    rw [List.append_nil] at hnil
    exact hnil.symm
  rw [mergedAll_append, mergedAll_cons_of_not_isText h,
    hkeep _ _ (node.isText_merged.trans h), hself]

theorem mergedAll_eq_nil_iff (nodes : List Node) : mergedAll nodes = [] ↔ nodes = [] := by
  cases nodes with
  | nil => simp [mergedAll]
  | cons node rest =>
    simp only [mergedAll, reduceCtorEq, iff_false]
    unfold Node.joinTo
    split <;> exact List.cons_ne_nil _ _

/-- Merging keeps a row of inline nodes one. -/
theorem isInline_of_mem_mergedAll {nodes : List Node} (h : ∀ node ∈ nodes, node.isInline = true) :
    ∀ node ∈ mergedAll nodes, node.isInline = true := by
  induction nodes with
  | nil => exact h
  | cons first rest ih =>
    obtain ⟨hfirst, hrest⟩ := List.forall_mem_cons.1 h
    have hmerged : first.merged.isInline = true := first.isInline_merged.trans hfirst
    have hall := ih hrest
    rw [mergedAll]
    unfold Node.joinTo
    split
    · rename_i heq
      rw [heq] at hall
      exact List.forall_mem_cons.2 ⟨rfl, (List.forall_mem_cons.1 hall).2⟩
    · exact List.forall_mem_cons.2 ⟨hmerged, hall⟩

/-! ## Items, cells and rows -/

theorem mergedEach_eq_map (items : List (List Node)) : mergedEach items = items.map mergedAll := by
  induction items with
  | nil => rfl
  | cons nodes rest ih => rw [mergedEach, ih, List.map_cons]

theorem mergedRows_eq_map (rows : List (List (List Node))) :
    mergedRows rows = rows.map mergedEach := by
  induction rows with
  | nil => rfl
  | cons row rest ih => rw [mergedRows, ih, List.map_cons]

theorem mergedEach_reverse (items : List (List Node)) :
    mergedEach items.reverse = (mergedEach items).reverse := by
  rw [mergedEach_eq_map, mergedEach_eq_map, List.map_reverse]

theorem mergedRows_reverse (rows : List (List (List Node))) :
    mergedRows rows.reverse = (mergedRows rows).reverse := by
  rw [mergedRows_eq_map, mergedRows_eq_map, List.map_reverse]

/-! ## Plain text -/

theorem plainTextAll_joinTo (node : Node) (nodes : List Node) :
    plainTextAll (node.joinTo nodes) = node.plainText ++ plainTextAll nodes := by
  unfold Node.joinTo
  split
  · simp [plainTextAll, Node.plainText, String.append_assoc]
  · rfl

mutual

/-- Merging keeps the plain text. -/
theorem Node.plainText_merged (node : Node) : node.merged.plainText = node.plainText := by
  cases node with
  | paragraph children | blockQuote children | heading _ children | listItem children
  | emphasis _ children | strikethrough children | link _ _ children | image _ _ children =>
    simp only [Node.merged, Node.plainText, plainTextAll_mergedAll children]
  | list firstNumber items =>
    simp only [Node.merged, Node.plainText, plainTextItems_mergedEach items]
  | blankLine | codeBlock _ _ | htmlBlock _ | linkReferenceDefinition _ _ _ | thematicBreak
  | table _ _ _ | text _ | codeSpan _ | hardBreak | softBreak | rawHtml _ | autoLink _ _
  | widget _ _ => simp only [Node.merged, Node.plainText]

theorem plainTextAll_mergedAll (nodes : List Node) :
    plainTextAll (mergedAll nodes) = plainTextAll nodes := by
  cases nodes with
  | nil => rfl
  | cons node rest =>
    rw [mergedAll, plainTextAll_joinTo, node.plainText_merged, plainTextAll_mergedAll rest,
      plainTextAll]

theorem plainTextItems_mergedEach (items : List (List Node)) :
    plainTextItems (mergedEach items) = plainTextItems items := by
  cases items with
  | nil => rfl
  | cons nodes rest =>
    rw [mergedEach, plainTextItems, plainTextItems, plainTextAll_mergedAll nodes,
      plainTextItems_mergedEach rest]

end

end MarkdownHtml
