import MarkdownHtml.Proofs.Html.Scan

/-!
# The markup of a document

`Node.tokens` is what the HTML of a node should scan as, by recursion over the tree: the tags of
each construct with their attributes, and every string of the tree as it is, in texts and in
attribute values. `Node.reads_html` says that the HTML of a node does scan as that, for trees in
which no node brings HTML of its own (`Node.rawFree`). Each construct has a lemma of its own, about
the HTML and the tokens of its parts; the recursion only puts them together.
-/

namespace MarkdownHtml

open Html

/-! ## The tokens of each construct -/

/-- The tokens of a code block. The first word of the info string names the language. -/
def codeBlockTokens (info : Option String) (code : String) : List Token :=
  let language := (info.bind Text.firstWord?).map ("language-" ++ ·)
  elementTokens "pre" []
    (elementTokens "code" (attribute? "class" language) [.text code, .text "\n"])

/-- The name of a heading's element, `h1` to `h6`. -/
def headingTagName (level : UInt8) : String := "h" ++ toString (max 1 (min level.toNat 6))

/-- The tokens of a list from those of its items. -/
def listTokens (firstNumber : Option UInt64) (items : List (List Token)) : List Token :=
  elementTokens (if firstNumber.isSome then "ol" else "ul")
    (attribute? "start" (firstNumber.map fun first => toString first.toNat))
    (.text "\n" :: separated [.text "\n"] items ++ [.text "\n"]) ++ [.text "\n"]

/-- The tokens of an image. A description without plain text makes no alternative text. -/
def imageTokens (source : String) (title : Option String) (description : String) : List Token :=
  let alternative := if description = "" then none else some description
  [.mark (.opening "img"
    (("src", source) :: attribute? "alt" alternative ++ attribute? "title" title) true)]

/-- The tokens of the cells of a row, each made with the alignment that its column has, if any. -/
def alignedTokens (cell : Option String → List Token → List Token) (alignments : List Alignment)
    (cells : List (List Token)) : List Token :=
  (cells.mapIdx fun column tokens =>
    cell (alignments[column]?.bind Alignment.attribute?) tokens).flatten

/-- The tokens of a header cell and of the line end behind it. -/
def headerCellTokens (align : Option String) (tokens : List Token) : List Token :=
  elementTokens "th" (attribute? "align" align) tokens ++ [.text "\n"]

/-- The tokens of a cell below the header and of the line end before it. -/
def bodyCellTokens (align : Option String) (tokens : List Token) : List Token :=
  .text "\n" :: elementTokens "td" (attribute? "align" align) tokens

/-- The tokens of a table's head. The header row has no end tag. -/
def headTokens (alignments : List Alignment) (header : List (List Token)) : List Token :=
  elementTokens "thead" []
    (.text "\n" :: .mark (.opening "tr" [] false) :: .text "\n" ::
      alignedTokens headerCellTokens alignments header)

/-- The tokens of a row below the header and of the line end before it. -/
def rowTokens (alignments : List Alignment) (cells : List (List Token)) : List Token :=
  .text "\n" ::
    elementTokens "tr" [] (alignedTokens bodyCellTokens alignments cells ++ [.text "\n"])

/-- The tokens of a table from those of its cells. -/
def tableTokens (alignments : List Alignment) (header : List (List Token))
    (rows : List (List (List Token))) : List Token :=
  let head := headTokens alignments header
  match rows with
  | [] => elementTokens "table" [] (.text "\n" :: head) ++ [.text "\n"]
  | rows =>
    elementTokens "table" []
      (.text "\n" :: head ++ .text "\n" ::
        elementTokens "tbody" [] (rows.map (rowTokens alignments)).flatten)

mutual

/-- What the HTML of a node should scan as. Nodes that bring HTML of their own have no tokens
here. -/
def Node.tokens : Node → List Token
  | .blankLine | .softBreak => [.text "\n"]
  | .paragraph children => elementTokens "p" [] (tokensEach children).flatten
  | .blockQuote children => elementTokens "blockquote" [] (tokensEach children).flatten
  | .codeBlock info code => codeBlockTokens info code
  | .heading level children =>
    elementTokens (headingTagName level) [] (tokensEach children).flatten
  | .linkReferenceDefinition _ _ _ => []
  | .list firstNumber items => listTokens firstNumber (itemTokensEach items)
  | .listItem children => itemTokens children
  | .thematicBreak => [.mark (.opening "hr" [] true), .text "\n"]
  | .table alignments header rows =>
    tableTokens alignments (cellTokensEach header) (rowTokensEach rows)
  | .text text => [.text text]
  | .emphasis strong children =>
    elementTokens (if strong then "strong" else "em") [] (tokensEach children).flatten
  | .codeSpan code => elementTokens "code" [] [.text code]
  | .hardBreak => [.mark (.opening "br" [] true), .text "\n"]
  | .strikethrough children => elementTokens "del" [] (tokensEach children).flatten
  | .autoLink destination text => elementTokens "a" [("href", destination)] [.text text]
  | .link destination title children =>
    elementTokens "a" (("href", destination) :: attribute? "title" title)
      (tokensEach children).flatten
  | .image source title description => imageTokens source title (plainTextAll description)
  | .htmlBlock _ | .rawHtml _ | .widget _ _ => []

/-- The tokens of each of some nodes. -/
def tokensEach : List Node → List (List Token)
  | [] => []
  | node :: rest => node.tokens :: tokensEach rest

/-- The tokens of a list item. A single paragraph stands without its own tags; other contents stand
one a line. -/
def itemTokens : List Node → List Token
  | [] => elementTokens "li" [] []
  | [.paragraph children] => elementTokens "li" [] (tokensEach children).flatten
  | node :: rest => elementTokens "li" [] (separated [.text "\n"] (node.tokens :: tokensEach rest))

/-- The tokens of each of some list items. -/
def itemTokensEach : List (List Node) → List (List Token)
  | [] => []
  | item :: rest => itemTokens item :: itemTokensEach rest

/-- The tokens inside each of some cells. -/
def cellTokensEach : List (List Node) → List (List Token)
  | [] => []
  | cell :: rest => (tokensEach cell).flatten :: cellTokensEach rest

/-- The tokens inside the cells of each of some rows. -/
def rowTokensEach : List (List (List Node)) → List (List (List Token))
  | [] => []
  | row :: rest => cellTokensEach row :: rowTokensEach rest

end

/-- What the HTML of a document should scan as. -/
def Document.tokens (document : Document) : List Token := (tokensEach document.children).flatten

mutual

/-- No HTML and no widget is in the tree. An image description may hold them, since only its plain
text is written. -/
def Node.rawFree : Node → Bool
  | .htmlBlock _ | .rawHtml _ | .widget _ _ => false
  | .paragraph children | .blockQuote children | .heading _ children | .listItem children
  | .emphasis _ children | .strikethrough children | .link _ _ children => rawFreeAll children
  | .list _ items => rawFreeEach items
  | .table _ header rows => rawFreeEach header && rawFreeRows rows
  | .blankLine | .codeBlock _ _ | .linkReferenceDefinition _ _ _ | .thematicBreak | .text _
  | .codeSpan _ | .hardBreak | .softBreak | .autoLink _ _ | .image _ _ _ => true

/-- No HTML and no widget is in the nodes. -/
def rawFreeAll : List Node → Bool
  | [] => true
  | node :: rest => node.rawFree && rawFreeAll rest

/-- No HTML and no widget is in the list items or the cells. -/
def rawFreeEach : List (List Node) → Bool
  | [] => true
  | nodes :: rest => rawFreeAll nodes && rawFreeEach rest

/-- No HTML and no widget is in the rows. -/
def rawFreeRows : List (List (List Node)) → Bool
  | [] => true
  | row :: rest => rawFreeEach row && rawFreeRows rest

end

/-- A document without HTML and without widgets. -/
def Document.RawFree (document : Document) : Prop := rawFreeAll document.children = true

/-! ## The HTML of each construct -/

namespace Html

variable {content : String} {tokens : List Token}
variable {contents : List String} {own : List (List Token)}

theorem headingName_eq (level : UInt8) : headingName level = headingTagName level := by
  rw [headingName, headingTagName]
  generalize level.toNat = n
  match n with
  | 0 | 1 | 2 | 3 | 4 | 5 => rfl
  | n + 6 =>
    have hclamped : max 1 (min (n + 6) 6) = 6 := by omega
    rw [hclamped]
    rfl

theorem isName_headingName (level : UInt8) : isName (headingName level).toList = true := by
  unfold headingName
  split <;> decide

/-- An element without an end tag, on a line of its own. -/
theorem reads_voidLine (name : String) (hname : isName name.toList = true) :
    Reads ("<" ++ name ++ " />\n") [.mark (.opening name [] true), .text "\n"] := by
  have hsplit : "<" ++ name ++ " />\n" = "<" ++ name ++ "" ++ " />" ++ "\n" := by
    apply String.toList_inj.1
    simp
  rw [hsplit]
  exact reads_append (reads_selfClosing name hname writes_empty) reads_newline

theorem reads_codeBlockHtml (info : Option String) (code : String) :
    Reads (codeBlockHtml info code) (codeBlockTokens info code) := by
  have hclass := writes_attributeHtml? "class" rfl
    ((info.bind Text.firstWord?).map ("language-" ++ ·))
  have hcode := reads_elementHtml "code" rfl hclass
    (reads_append (reads_contentHtml code) reads_newline)
  have hpre := reads_elementHtml "pre" rfl writes_empty hcode
  have hsplit : codeBlockHtml info code = elementHtml "pre" "" (elementHtml "code"
      (attributeHtml? "class" ((info.bind Text.firstWord?).map ("language-" ++ ·)))
      (contentHtml code ++ "\n")) := by
    apply String.toList_inj.1
    simp [codeBlockHtml, elementHtml]
  rw [hsplit]
  exact hpre

theorem reads_listHtml (firstNumber : Option UInt64) (h : List.Forall₂ Reads contents own) :
    Reads (listHtml firstNumber contents) (listTokens firstNumber own) := by
  have hcontent := reads_append (reads_append reads_newline (reads_separated reads_newline h))
    reads_newline
  cases firstNumber with
  | none =>
    exact reads_append (reads_elementHtml "ul" rfl writes_empty hcontent) reads_newline
  | some first =>
    have hstart := writes_attributeHtml "start" rfl (toString first.toNat)
    exact reads_append (reads_elementHtml "ol" rfl hstart hcontent) reads_newline

theorem reads_imageHtml (source : String) (title : Option String) (description : String) :
    Reads (imageHtml source title description) (imageTokens source title description) := by
  have hsource := writes_attributeHtml "src" rfl source
  have halt := writes_attributeHtml? "alt" rfl
    (if description = "" then none else some description)
  have htitle := writes_attributeHtml? "title" rfl title
  have hsplit : imageHtml source title description = "<" ++ "img" ++
      (attributeHtml "src" source ++
        attributeHtml? "alt" (if description = "" then none else some description) ++
        attributeHtml? "title" title) ++ " />" := by
    apply String.toList_inj.1
    simp [imageHtml]
  rw [hsplit]
  exact reads_selfClosing "img" rfl (writes_append (writes_append hsource halt) htitle)

/-! ### Tables -/

theorem reads_headerCellHtml (alignment : Alignment) (h : Reads content tokens) :
    Reads (headerCellHtml alignment content) (headerCellTokens alignment.attribute? tokens) := by
  have halign := writes_attributeHtml? "align" rfl alignment.attribute?
  exact reads_append (reads_elementHtml "th" rfl halign h) reads_newline

theorem reads_bodyCellHtml (alignment : Alignment) (h : Reads content tokens) :
    Reads (bodyCellHtml alignment content) (bodyCellTokens alignment.attribute? tokens) := by
  have halign := writes_attributeHtml? "align" rfl alignment.attribute?
  exact reads_append reads_newline (reads_elementHtml "td" rfl halign h)

/-- Cells scan as their tokens when one cell does. A column beyond the alignments has the
unspecified one, which writes no attribute. -/
theorem reads_alignedCells {cell : Alignment → String → String}
    {cellTokens : Option String → List Token → List Token}
    (hcell : ∀ alignment content tokens, Reads content tokens →
      Reads (cell alignment content) (cellTokens alignment.attribute? tokens))
    (h : List.Forall₂ Reads contents own) (alignments : List Alignment) :
    Reads (alignedCells cell alignments contents) (alignedTokens cellTokens alignments own) := by
  induction h generalizing alignments with
  | nil =>
    cases alignments with
    | nil => exact reads_empty
    | cons _ _ => exact reads_empty
  | @cons content tokens contents own hcontent _ ih =>
    rw [alignedTokens, List.mapIdx_cons, List.flatten_cons]
    cases alignments with
    | nil => exact reads_append (hcell .unspecified content tokens hcontent) (ih [])
    | cons alignment more => exact reads_append (hcell alignment content tokens hcontent) (ih more)

theorem reads_headHtml (alignments : List Alignment) (h : List.Forall₂ Reads contents own) :
    Reads (elementHtml "thead" "" ("\n<tr>\n" ++ alignedCells headerCellHtml alignments contents))
      (headTokens alignments own) := by
  have hsplit : "\n<tr>\n" = "\n" ++ ("<" ++ "tr" ++ "" ++ ">") ++ "\n" := by decide
  have hrow := reads_append
    (reads_append reads_newline (reads_opening "tr" rfl writes_empty)) reads_newline
  have hcells := reads_alignedCells (fun alignment _ _ => reads_headerCellHtml alignment) h
    alignments
  rw [hsplit]
  exact reads_elementHtml "thead" rfl writes_empty (reads_append hrow hcells)

theorem reads_rowHtml (alignments : List Alignment) (h : List.Forall₂ Reads contents own) :
    Reads ("\n" ++ rowHtml alignments contents) (rowTokens alignments own) := by
  have hcells := reads_alignedCells (fun alignment _ _ => reads_bodyCellHtml alignment) h
    alignments
  have hrow := reads_elementHtml "tr" rfl writes_empty (reads_append hcells reads_newline)
  exact reads_append reads_newline hrow

theorem reads_tableHtml (alignments : List Alignment) (hheader : List.Forall₂ Reads contents own)
    {rows : List (List String)} {rowsOwn : List (List (List Token))}
    (hrows : List.Forall₂ (List.Forall₂ Reads) rows rowsOwn) :
    Reads (tableHtml alignments contents rows) (tableTokens alignments own rowsOwn) := by
  have hhead := reads_append reads_newline (reads_headHtml alignments hheader)
  cases hrows with
  | nil =>
    exact reads_append (reads_elementHtml "table" rfl writes_empty hhead) reads_newline
  | @cons row rowOwn rows rowsOwn hrow hrest =>
    have hbody : List.Forall₂ Reads
        ((row :: rows).map fun cells => "\n" ++ rowHtml alignments cells)
        ((rowOwn :: rowsOwn).map (rowTokens alignments)) := by
      rw [List.forall₂_map_left_iff, List.forall₂_map_right_iff]
      exact (List.Forall₂.cons hrow hrest).imp fun _ _ => reads_rowHtml alignments
    have htbody := reads_elementHtml "tbody" rfl writes_empty (reads_join hbody)
    have htable := reads_elementHtml "table" rfl writes_empty
      (reads_append (reads_append hhead reads_newline) htbody)
    rw [List.append_assoc] at htable
    exact htable

end Html

/-! ## The recursion over the tree -/

mutual

/-- The HTML of a node scans as the node's tokens. -/
theorem Node.reads_html (context : RenderContext) (node : Node) (h : node.rawFree = true) :
    Reads (node.html context) node.tokens := by
  cases node with
  | blankLine | softBreak => exact reads_newline
  | thematicBreak =>
    have hsplit : "<hr />\n" = "<" ++ "hr" ++ " />\n" := by decide
    rw [Node.html, hsplit]
    exact reads_voidLine "hr" rfl
  | hardBreak =>
    have hsplit : "<br />\n" = "<" ++ "br" ++ " />\n" := by decide
    rw [Node.html, hsplit]
    exact reads_voidLine "br" rfl
  | linkReferenceDefinition _ _ _ => exact reads_empty
  | htmlBlock _ | rawHtml _ | widget _ _ => cases h
  | codeBlock info code => exact reads_codeBlockHtml info code
  | text text => exact reads_contentHtml text
  | codeSpan code =>
    exact reads_elementHtml "code" rfl writes_empty (reads_contentHtml code)
  | autoLink destination text =>
    have hhref := writes_attributeHtml "href" rfl destination
    exact reads_elementHtml "a" rfl hhref (reads_contentHtml text)
  | image source title description => exact reads_imageHtml source title _
  | paragraph children =>
    have hchildren := reads_join (reads_htmlEach context children h)
    exact reads_elementHtml "p" rfl writes_empty hchildren
  | blockQuote children =>
    have hchildren := reads_join (reads_htmlEach context children h)
    exact reads_elementHtml "blockquote" rfl writes_empty hchildren
  | strikethrough children =>
    have hchildren := reads_join (reads_htmlEach context children h)
    exact reads_elementHtml "del" rfl writes_empty hchildren
  | heading level children =>
    have hchildren := reads_join (reads_htmlEach context children h)
    rw [Node.html, Node.tokens, ← headingName_eq]
    exact reads_elementHtml _ (isName_headingName level) writes_empty hchildren
  | emphasis strong children =>
    have hchildren := reads_join (reads_htmlEach context children h)
    cases strong with
    | false => exact reads_elementHtml "em" rfl writes_empty hchildren
    | true => exact reads_elementHtml "strong" rfl writes_empty hchildren
  | link destination title children =>
    have hchildren := reads_join (reads_htmlEach context children h)
    have hattributes := writes_append (writes_attributeHtml "href" rfl destination)
      (writes_attributeHtml? "title" rfl title)
    exact reads_elementHtml "a" rfl hattributes hchildren
  | listItem children => exact reads_itemHtml context children h
  | list firstNumber items => exact reads_listHtml firstNumber (reads_itemHtmlEach context items h)
  | table alignments header rows =>
    obtain ⟨hheader, hrows⟩ := Bool.and_eq_true_iff.1 h
    exact reads_tableHtml alignments (reads_cellHtmlEach context header hheader)
      (reads_rowCellsEach context rows hrows)

theorem reads_htmlEach (context : RenderContext) (nodes : List Node) (h : rawFreeAll nodes = true) :
    List.Forall₂ Reads (htmlEach context nodes) (tokensEach nodes) := by
  cases nodes with
  | nil => exact .nil
  | cons node rest =>
    obtain ⟨hnode, hrest⟩ := Bool.and_eq_true_iff.1 h
    exact .cons (node.reads_html context hnode) (reads_htmlEach context rest hrest)

theorem reads_itemHtml (context : RenderContext) (item : List Node) (h : rawFreeAll item = true) :
    Reads (itemHtml context item) (itemTokens item) := by
  cases item with
  | nil => exact reads_elementHtml "li" rfl writes_empty reads_empty
  | cons node rest =>
    obtain ⟨hnode, hrest⟩ := Bool.and_eq_true_iff.1 h
    have hlines := reads_elementHtml "li" rfl writes_empty
      (reads_separated reads_newline
        (.cons (node.reads_html context hnode) (reads_htmlEach context rest hrest)))
    -- only a single paragraph is written otherwise
    cases node with
    | paragraph children =>
      cases rest with
      | nil =>
        have hchildren := reads_join (reads_htmlEach context children hnode)
        exact reads_elementHtml "li" rfl writes_empty hchildren
      | cons _ _ => exact hlines
    | _ => exact hlines

theorem reads_itemHtmlEach (context : RenderContext) (items : List (List Node))
    (h : rawFreeEach items = true) :
    List.Forall₂ Reads (itemHtmlEach context items) (itemTokensEach items) := by
  cases items with
  | nil => exact .nil
  | cons item rest =>
    obtain ⟨hitem, hrest⟩ := Bool.and_eq_true_iff.1 h
    exact .cons (reads_itemHtml context item hitem) (reads_itemHtmlEach context rest hrest)

theorem reads_cellHtmlEach (context : RenderContext) (cells : List (List Node))
    (h : rawFreeEach cells = true) :
    List.Forall₂ Reads (cellHtmlEach context cells) (cellTokensEach cells) := by
  cases cells with
  | nil => exact .nil
  | cons cell rest =>
    obtain ⟨hcell, hrest⟩ := Bool.and_eq_true_iff.1 h
    exact .cons (reads_join (reads_htmlEach context cell hcell))
      (reads_cellHtmlEach context rest hrest)

theorem reads_rowCellsEach (context : RenderContext) (rows : List (List (List Node)))
    (h : rawFreeRows rows = true) :
    List.Forall₂ (List.Forall₂ Reads) (rowCellsEach context rows) (rowTokensEach rows) := by
  cases rows with
  | nil => exact .nil
  | cons row rest =>
    obtain ⟨hrow, hrest⟩ := Bool.and_eq_true_iff.1 h
    exact .cons (reads_cellHtmlEach context row hrow) (reads_rowCellsEach context rest hrest)

end

end MarkdownHtml
