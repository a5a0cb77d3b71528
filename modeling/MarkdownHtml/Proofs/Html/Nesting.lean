import MarkdownHtml.Proofs.Html.Markup

/-!
# Nested tags

`Html.nest` follows the elements that are open from tag to tag. Every start tag must meet its end
tag, with two exceptions: `br`, `hr` and `img` close themselves, and `</thead>` also closes the `tr`
inside it. The tags of a tree leave the open elements as they found them
(`Node.balanced_tokens`), so that those of a document open and close everything themselves.
-/

namespace MarkdownHtml

namespace Html

/-- The elements that have no end tag. -/
def voidNames : List String := ["br", "hr", "img"]

/-- The elements that are open behind a tag, innermost first. It fails where the tag is not
allowed. -/
def nest (opened : List String) : TagToken → Option (List String)
  | .opening name _ selfClosing =>
    if name ∈ voidNames then if selfClosing then some opened else none
    else if selfClosing then none else some (name :: opened)
  | .closing name =>
    match opened with
    | [] => none
    | top :: outer =>
      if top = name then some outer
      else if name = "thead" ∧ top = "tr" ∧ outer.head? = some "thead" then some outer.tail
      else none

/-- The elements that are open behind the tags of a stream. -/
def nestAll (opened : List String) (tokens : List Token) : Option (List String) :=
  (Piece.marks tokens).foldlM nest opened

/-- The tags leave the open elements as they found them. -/
def Balanced (tokens : List Token) : Prop := ∀ opened, nestAll opened tokens = some opened

variable {tokens more : List Token} {own : List (List Token)}

theorem nestAll_append (opened : List String) (tokens more : List Token) :
    nestAll opened (tokens ++ more) = (nestAll opened tokens).bind (nestAll · more) := by
  rw [nestAll, Piece.marks_append, List.foldlM_append]
  rfl

theorem nestAll_mark_cons (opened : List String) (tag : TagToken) (rest : List Token) :
    nestAll opened (.mark tag :: rest) = (nest opened tag).bind (nestAll · rest) := by
  rw [nestAll, Piece.marks_mark_cons, List.foldlM_cons]
  rfl

theorem nestAll_text_cons (opened : List String) (text : String) (rest : List Token) :
    nestAll opened (.text text :: rest) = nestAll opened rest := by
  rw [nestAll, Piece.marks_text_cons]
  rfl

theorem nest_closing_top (name : String) (opened : List String) :
    nest (name :: opened) (.closing name) = some opened := by
  simp [nest]

theorem balanced_nil : Balanced [] := fun _ => rfl

theorem balanced_text_cons (text : String) (h : Balanced tokens) :
    Balanced (.text text :: tokens) := by
  intro opened
  rw [nestAll_text_cons, h opened]

theorem balanced_text (text : String) : Balanced [.text text] :=
  balanced_text_cons text balanced_nil

theorem balanced_append (htokens : Balanced tokens) (hmore : Balanced more) :
    Balanced (tokens ++ more) := by
  intro opened
  rw [nestAll_append, htokens opened, Option.bind_some, hmore opened]

theorem balanced_flatten (h : ∀ tokens ∈ own, Balanced tokens) : Balanced own.flatten := by
  induction own with
  | nil => exact balanced_nil
  | cons tokens own ih =>
    rw [List.flatten_cons]
    have hrest := ih fun t ht => h t (List.mem_cons_of_mem _ ht)
    exact balanced_append (h tokens List.mem_cons_self) hrest

theorem balanced_separated {separator : List Token} (hseparator : Balanced separator)
    (h : ∀ tokens ∈ own, Balanced tokens) : Balanced (separated separator own) := by
  fun_induction separated separator own with
  | case1 => exact balanced_nil
  | case2 tokens => exact h tokens List.mem_cons_self
  | case3 tokens next rest ih =>
    have hrest := ih fun t ht => h t (List.mem_cons_of_mem _ ht)
    exact balanced_append (balanced_append (h tokens List.mem_cons_self) hseparator) hrest

/-- An element with an end tag closes what it opens. -/
theorem balanced_elementTokens (name : String) (attributes : List (String × String))
    (hname : name ∉ voidNames) (htokens : Balanced tokens) :
    Balanced (elementTokens name attributes tokens) := by
  intro opened
  have hopening : nest opened (.opening name attributes false) = some (name :: opened) := by
    simp [nest, hname]
  rw [elementTokens, List.cons_append, nestAll_mark_cons, hopening, Option.bind_some,
    nestAll_append, htokens (name :: opened), Option.bind_some, nestAll_mark_cons,
    nest_closing_top]
  rfl

theorem balanced_void (name : String) (attributes : List (String × String))
    (hname : name ∈ voidNames) : Balanced [.mark (.opening name attributes true)] := by
  intro opened
  have hopening : nest opened (.opening name attributes true) = some opened := by
    simp [nest, hname]
  rw [nestAll_mark_cons, hopening]
  rfl

/-! ## Each construct -/

theorem headingTagName_not_mem (level : UInt8) : headingTagName level ∉ voidNames := by
  rw [← headingName_eq, headingName]
  split <;> decide

theorem balanced_listTokens (firstNumber : Option UInt64) (h : ∀ tokens ∈ own, Balanced tokens) :
    Balanced (listTokens firstNumber own) := by
  have hname : (if firstNumber.isSome then "ol" else "ul") ∉ voidNames := by
    cases firstNumber.isSome <;> decide
  have hcontent := balanced_append
    (balanced_append (balanced_text "\n") (balanced_separated (balanced_text "\n") h))
    (balanced_text "\n")
  exact balanced_append (balanced_elementTokens _ _ hname hcontent) (balanced_text "\n")

theorem balanced_alignedTokens {cell : Option String → List Token → List Token}
    (hcell : ∀ align tokens, Balanced tokens → Balanced (cell align tokens))
    (alignments : List Alignment) (h : ∀ tokens ∈ own, Balanced tokens) :
    Balanced (alignedTokens cell alignments own) := by
  refine balanced_flatten ?_
  intro tokens htokens
  obtain ⟨column, hcolumn, rfl⟩ := List.mem_mapIdx.1 htokens
  exact hcell _ _ (h _ (List.getElem_mem hcolumn))

theorem balanced_headerCellTokens (align : Option String) (tokens : List Token)
    (h : Balanced tokens) : Balanced (headerCellTokens align tokens) :=
  balanced_append (balanced_elementTokens "th" _ (by decide) h) (balanced_text "\n")

theorem balanced_bodyCellTokens (align : Option String) (tokens : List Token)
    (h : Balanced tokens) : Balanced (bodyCellTokens align tokens) :=
  balanced_text_cons "\n" (balanced_elementTokens "td" _ (by decide) h)

/-- The end of the head closes the header row and then the head. -/
theorem balanced_headTokens (alignments : List Alignment) (h : ∀ tokens ∈ own, Balanced tokens) :
    Balanced (headTokens alignments own) := by
  intro opened
  have hcells := balanced_alignedTokens balanced_headerCellTokens alignments h
  have hhead : nest opened (.opening "thead" [] false) = some ("thead" :: opened) := by
    simp [nest, voidNames]
  have hrow : nest ("thead" :: opened) (.opening "tr" [] false) =
      some ("tr" :: "thead" :: opened) := by
    simp [nest, voidNames]
  -- `</thead>` meets the header row, which is still open
  have hclose : nest ("tr" :: "thead" :: opened) (.closing "thead") = some opened := by
    simp [nest]
  rw [headTokens, elementTokens, List.cons_append, nestAll_mark_cons, hhead, Option.bind_some,
    List.cons_append, nestAll_text_cons, List.cons_append, nestAll_mark_cons, hrow,
    Option.bind_some, List.cons_append, nestAll_text_cons, nestAll_append, hcells,
    Option.bind_some, nestAll_mark_cons, hclose]
  rfl

theorem balanced_rowTokens (alignments : List Alignment) (h : ∀ tokens ∈ own, Balanced tokens) :
    Balanced (rowTokens alignments own) := by
  have hcells := balanced_alignedTokens balanced_bodyCellTokens alignments h
  exact balanced_text_cons "\n"
    (balanced_elementTokens "tr" [] (by decide) (balanced_append hcells (balanced_text "\n")))

theorem balanced_tableTokens (alignments : List Alignment) {rows : List (List (List Token))}
    (hheader : ∀ tokens ∈ own, Balanced tokens)
    (hrows : ∀ row ∈ rows, ∀ tokens ∈ row, Balanced tokens) :
    Balanced (tableTokens alignments own rows) := by
  have hhead := balanced_text_cons "\n" (balanced_headTokens alignments hheader)
  cases rows with
  | nil =>
    exact balanced_append (balanced_elementTokens "table" [] (by decide) hhead) (balanced_text "\n")
  | cons row rows =>
    have hbody : Balanced (((row :: rows).map (rowTokens alignments)).flatten) := by
      refine balanced_flatten ?_
      intro tokens htokens
      obtain ⟨row', hrow', rfl⟩ := List.mem_map.1 htokens
      exact balanced_rowTokens alignments (hrows row' hrow')
    have htbody := balanced_text_cons "\n"
      (balanced_elementTokens "tbody" [] (by decide) hbody)
    exact balanced_elementTokens "table" [] (by decide) (balanced_append hhead htbody)

end Html

open Html

/-! ## The recursion over the tree -/

mutual

/-- The tags of a node leave the open elements as they found them. -/
theorem Node.balanced_tokens (node : Node) : Balanced node.tokens := by
  cases node with
  | blankLine | softBreak => exact balanced_text "\n"
  | thematicBreak =>
    exact balanced_append (balanced_void "hr" [] (by decide)) (balanced_text "\n")
  | hardBreak => exact balanced_append (balanced_void "br" [] (by decide)) (balanced_text "\n")
  | linkReferenceDefinition _ _ _ | htmlBlock _ | rawHtml _ | widget _ _ => exact balanced_nil
  | codeBlock info code =>
    have hcode := balanced_append (balanced_text code) (balanced_text "\n")
    exact balanced_elementTokens "pre" [] (by decide)
      (balanced_elementTokens "code" _ (by decide) hcode)
  | text text => exact balanced_text text
  | codeSpan code => exact balanced_elementTokens "code" [] (by decide) (balanced_text code)
  | autoLink destination text =>
    exact balanced_elementTokens "a" _ (by decide) (balanced_text text)
  | image source title description => exact balanced_void "img" _ (by decide)
  | paragraph children =>
    exact balanced_elementTokens "p" [] (by decide)
      (balanced_flatten (balanced_tokensEach children))
  | blockQuote children =>
    exact balanced_elementTokens "blockquote" [] (by decide)
      (balanced_flatten (balanced_tokensEach children))
  | strikethrough children =>
    exact balanced_elementTokens "del" [] (by decide)
      (balanced_flatten (balanced_tokensEach children))
  | heading level children =>
    exact balanced_elementTokens _ [] (headingTagName_not_mem level)
      (balanced_flatten (balanced_tokensEach children))
  | emphasis strong children =>
    have hname : (if strong then "strong" else "em") ∉ voidNames := by cases strong <;> decide
    exact balanced_elementTokens _ [] hname (balanced_flatten (balanced_tokensEach children))
  | link destination title children =>
    exact balanced_elementTokens "a" _ (by decide) (balanced_flatten (balanced_tokensEach children))
  | listItem children => exact balanced_itemTokens children
  | list firstNumber items => exact balanced_listTokens firstNumber (balanced_itemTokensEach items)
  | table alignments header rows =>
    exact balanced_tableTokens alignments (balanced_cellTokensEach header)
      (balanced_rowTokensEach rows)

theorem balanced_tokensEach (nodes : List Node) : ∀ tokens ∈ tokensEach nodes, Balanced tokens := by
  cases nodes with
  | nil => exact List.forall_mem_nil _
  | cons node rest =>
    exact List.forall_mem_cons.2 ⟨node.balanced_tokens, balanced_tokensEach rest⟩

theorem balanced_itemTokens (item : List Node) : Balanced (itemTokens item) := by
  cases item with
  | nil => exact balanced_elementTokens "li" [] (by decide) balanced_nil
  | cons node rest =>
    have hlines := balanced_elementTokens "li" [] (by decide)
      (balanced_separated (balanced_text "\n")
        (List.forall_mem_cons.2 ⟨node.balanced_tokens, balanced_tokensEach rest⟩))
    cases node with
    | paragraph children =>
      cases rest with
      | nil =>
        exact balanced_elementTokens "li" [] (by decide)
          (balanced_flatten (balanced_tokensEach children))
      | cons _ _ => exact hlines
    | _ => exact hlines

theorem balanced_itemTokensEach (items : List (List Node)) :
    ∀ tokens ∈ itemTokensEach items, Balanced tokens := by
  cases items with
  | nil => exact List.forall_mem_nil _
  | cons item rest =>
    exact List.forall_mem_cons.2 ⟨balanced_itemTokens item, balanced_itemTokensEach rest⟩

theorem balanced_cellTokensEach (cells : List (List Node)) :
    ∀ tokens ∈ cellTokensEach cells, Balanced tokens := by
  cases cells with
  | nil => exact List.forall_mem_nil _
  | cons cell rest =>
    exact List.forall_mem_cons.2
      ⟨balanced_flatten (balanced_tokensEach cell), balanced_cellTokensEach rest⟩

theorem balanced_rowTokensEach (rows : List (List (List Node))) :
    ∀ row ∈ rowTokensEach rows, ∀ tokens ∈ row, Balanced tokens := by
  cases rows with
  | nil => exact List.forall_mem_nil _
  | cons row rest =>
    exact List.forall_mem_cons.2 ⟨balanced_cellTokensEach row, balanced_rowTokensEach rest⟩

end

end MarkdownHtml
