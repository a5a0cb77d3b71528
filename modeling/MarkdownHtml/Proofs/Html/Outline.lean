import MarkdownHtml.Proofs.Html.Nesting

/-!
# What a string can do to the markup

The HTML of a document scans as the document's tokens (`Document.scan_html`): the tags of its
constructs, properly nested, around its strings. No string gets out of its place. To say that of the
tags alone, `Node.erased` replaces every string of a tree by one and the same; trees that are then
equal have the same tags with the same attributes (`Html.SameTags`).
-/

namespace MarkdownHtml

namespace Html

/-- A tag without the values of its attributes. -/
def TagToken.outline : TagToken → TagToken
  | .opening name attributes selfClosing =>
    .opening name (attributes.map fun (name, _) => (name, "")) selfClosing
  | .closing name => .closing name

/-- The tags of a stream without the values of their attributes. -/
def outline (tokens : List Token) : List TagToken := (Piece.marks tokens).map TagToken.outline

/-- Two streams have the same tags with the same attributes. -/
def SameTags (first second : List Token) : Prop := outline first = outline second

end Html

open Html

/-! ## Trees without their strings -/

mutual

/-- The tree with one and the same text in place of each of its strings. A code block keeps whether
it names a language, and an image whether its description has plain text. -/
def Node.erased : Node → Node
  | .blankLine => .blankLine
  | .paragraph children => .paragraph (erasedAll children)
  | .blockQuote children => .blockQuote (erasedAll children)
  | .codeBlock info _ => .codeBlock ((info.bind Text.firstWord?).map fun _ => "text") "text"
  | .heading level children => .heading level (erasedAll children)
  | .htmlBlock _ => .htmlBlock "text"
  | .linkReferenceDefinition _ _ _ => .linkReferenceDefinition "text" "text" none
  | .list firstNumber items => .list firstNumber (erasedEach items)
  | .listItem children => .listItem (erasedAll children)
  | .thematicBreak => .thematicBreak
  | .table alignments header rows => .table alignments (erasedEach header) (erasedRows rows)
  | .text _ => .text "text"
  | .emphasis strong children => .emphasis strong (erasedAll children)
  | .codeSpan _ => .codeSpan "text"
  | .hardBreak => .hardBreak
  | .softBreak => .softBreak
  | .strikethrough children => .strikethrough (erasedAll children)
  | .rawHtml _ => .rawHtml "text"
  | .autoLink _ _ => .autoLink "text" "text"
  | .link _ title children => .link "text" (title.map fun _ => "text") (erasedAll children)
  | .image _ title description =>
    .image "text" (title.map fun _ => "text")
      (if plainTextAll description = "" then [] else [.text "text"])
  | .widget handle w => .widget handle w

/-- The nodes without their strings. -/
def erasedAll : List Node → List Node
  | [] => []
  | node :: rest => node.erased :: erasedAll rest

/-- The list items or the cells without their strings. -/
def erasedEach : List (List Node) → List (List Node)
  | [] => []
  | nodes :: rest => erasedAll nodes :: erasedEach rest

/-- The rows without their strings. -/
def erasedRows : List (List (List Node)) → List (List (List Node))
  | [] => []
  | row :: rest => erasedEach row :: erasedRows rest

end

/-- The document without its strings. -/
def Document.erased (document : Document) : Document := ⟨erasedAll document.children⟩

namespace Html

/-! ## Constructs with the same tags inside -/

variable {tokens tokens' more more' : List Token} {own own' : List (List Token)}

theorem sameTags_append (htokens : SameTags tokens tokens') (hmore : SameTags more more') :
    SameTags (tokens ++ more) (tokens' ++ more') := by
  rw [SameTags, outline, outline] at htokens hmore ⊢
  rw [Piece.marks_append, Piece.marks_append, List.map_append, List.map_append, htokens, hmore]

theorem sameTags_text_cons (text text' : String) (h : SameTags tokens tokens') :
    SameTags (.text text :: tokens) (.text text' :: tokens') := by
  rw [SameTags, outline, outline] at h ⊢
  rw [Piece.marks_text_cons, Piece.marks_text_cons, h]

theorem sameTags_text (text text' : String) : SameTags [.text text] [.text text'] :=
  sameTags_text_cons text text' rfl

theorem sameTags_flatten (h : List.Forall₂ SameTags own own') :
    SameTags own.flatten own'.flatten := by
  induction h with
  | nil => rfl
  | cons htokens _ ih => exact sameTags_append htokens ih

theorem sameTags_separated (separator : List Token) (h : List.Forall₂ SameTags own own') :
    SameTags (separated separator own) (separated separator own') := by
  induction h with
  | nil => rfl
  | cons htokens hrest ih =>
    cases hrest with
    | nil => exact htokens
    | cons _ _ => exact sameTags_append (sameTags_append htokens rfl) ih

theorem sameTags_tag_cons {tag tag' : TagToken} (htag : tag.outline = tag'.outline)
    (h : SameTags tokens tokens') : SameTags (.mark tag :: tokens) (.mark tag' :: tokens') := by
  rw [SameTags, outline, outline] at h ⊢
  rw [Piece.marks_mark_cons, Piece.marks_mark_cons, List.map_cons, List.map_cons, htag, h]

theorem sameTags_elementTokens (name : String) (attributes : List (String × String))
    (h : SameTags tokens tokens') :
    SameTags (elementTokens name attributes tokens) (elementTokens name attributes tokens') :=
  sameTags_append (sameTags_tag_cons rfl h) rfl

/-- The values of the attributes do not count. -/
theorem sameTags_elementTokens_of_outline {name : String}
    {attributes attributes' : List (String × String)}
    (hattributes : (TagToken.opening name attributes false).outline =
      (TagToken.opening name attributes' false).outline)
    (h : SameTags tokens tokens') :
    SameTags (elementTokens name attributes tokens) (elementTokens name attributes' tokens') :=
  sameTags_append (sameTags_tag_cons hattributes h) rfl

theorem sameTags_listTokens (firstNumber : Option UInt64) (h : List.Forall₂ SameTags own own') :
    SameTags (listTokens firstNumber own) (listTokens firstNumber own') := by
  have hcontent := sameTags_append
    (sameTags_text_cons "\n" "\n" (sameTags_separated [.text "\n"] h)) (sameTags_text "\n" "\n")
  exact sameTags_append (sameTags_elementTokens _ _ hcontent) rfl

theorem sameTags_alignedTokens (cell : Option String → List Token → List Token)
    (hcell : ∀ align tokens tokens', SameTags tokens tokens' →
      SameTags (cell align tokens) (cell align tokens'))
    (alignments : List Alignment) (h : List.Forall₂ SameTags own own') :
    SameTags (alignedTokens cell alignments own) (alignedTokens cell alignments own') := by
  -- the columns are counted from any number on, so that the induction goes through
  have hcells : ∀ make : Nat → List Token → List Token,
      (∀ column tokens tokens', SameTags tokens tokens' →
        SameTags (make column tokens) (make column tokens')) →
      List.Forall₂ SameTags (own.mapIdx make) (own'.mapIdx make) := by
    induction h with
    | nil => exact fun _ _ => .nil
    | cons htokens _ ih =>
      intro make hmake
      rw [List.mapIdx_cons, List.mapIdx_cons]
      exact .cons (hmake 0 _ _ htokens) (ih _ fun column => hmake (column + 1))
  exact sameTags_flatten (hcells _ fun column => hcell _)

theorem sameTags_headTokens (alignments : List Alignment) (h : List.Forall₂ SameTags own own') :
    SameTags (headTokens alignments own) (headTokens alignments own') := by
  have hcells := sameTags_alignedTokens headerCellTokens
    (fun _ _ _ hcell => sameTags_append (sameTags_elementTokens "th" _ hcell) rfl) alignments h
  refine sameTags_elementTokens "thead" [] ?_
  refine sameTags_text_cons "\n" "\n" ?_
  refine sameTags_tag_cons rfl ?_
  exact sameTags_text_cons "\n" "\n" hcells

theorem sameTags_rowTokens (alignments : List Alignment) (h : List.Forall₂ SameTags own own') :
    SameTags (rowTokens alignments own) (rowTokens alignments own') := by
  have hcells := sameTags_alignedTokens bodyCellTokens
    (fun _ _ _ hcell => sameTags_text_cons "\n" "\n" (sameTags_elementTokens "td" _ hcell))
    alignments h
  refine sameTags_text_cons "\n" "\n" ?_
  exact sameTags_elementTokens "tr" [] (sameTags_append hcells rfl)

theorem sameTags_tableTokens (alignments : List Alignment) {rows rows' : List (List (List Token))}
    (hheader : List.Forall₂ SameTags own own')
    (hrows : List.Forall₂ (List.Forall₂ SameTags) rows rows') :
    SameTags (tableTokens alignments own rows) (tableTokens alignments own' rows') := by
  have hhead := sameTags_text_cons "\n" "\n" (sameTags_headTokens alignments hheader)
  cases hrows with
  | nil => exact sameTags_append (sameTags_elementTokens "table" [] hhead) rfl
  | @cons row row' rows rows' hrow hrest =>
    have hbody : List.Forall₂ SameTags ((row :: rows).map (rowTokens alignments))
        ((row' :: rows').map (rowTokens alignments)) := by
      rw [List.forall₂_map_left_iff, List.forall₂_map_right_iff]
      exact (List.Forall₂.cons hrow hrest).imp fun _ _ => sameTags_rowTokens alignments
    have htbody := sameTags_elementTokens "tbody" [] (sameTags_flatten hbody)
    exact sameTags_elementTokens "table" []
      (sameTags_append hhead (sameTags_text_cons "\n" "\n" htbody))

end Html

/-! ## The recursion over the tree -/

mutual

/-- A tree without its strings has the same tags. -/
theorem Node.sameTags_erased (node : Node) : SameTags node.erased.tokens node.tokens := by
  cases node with
  | blankLine | softBreak | thematicBreak | hardBreak | htmlBlock _ | rawHtml _ => rfl
  | linkReferenceDefinition _ _ _ | widget _ _ => rfl
  | codeBlock info code =>
    have hcode : SameTags [.text "text", .text "\n"] [.text code, .text "\n"] :=
      sameTags_text_cons _ _ rfl
    rw [Node.erased, Node.tokens, Node.tokens, codeBlockTokens, codeBlockTokens]
    refine sameTags_elementTokens "pre" [] ?_
    cases info.bind Text.firstWord? with
    | none => exact sameTags_elementTokens "code" [] hcode
    | some language =>
      -- the text in place of the language is a word, so the class stays
      have hword : Text.firstWord? "text" = some "text" := by decide
      rw [Option.map_some, Option.bind_some, hword]
      exact sameTags_elementTokens_of_outline rfl hcode
  | text text => exact sameTags_text _ _
  | codeSpan code => exact sameTags_elementTokens "code" [] (sameTags_text _ _)
  | autoLink destination text => exact sameTags_elementTokens_of_outline rfl (sameTags_text _ _)
  | image source title description =>
    rw [Node.erased, Node.tokens, Node.tokens, imageTokens, imageTokens]
    refine sameTags_tag_cons ?_ rfl
    by_cases hplain : plainTextAll description = ""
    · rw [if_pos hplain, if_pos hplain]
      cases title <;> rfl
    · rw [if_neg hplain, if_neg hplain]
      cases title <;> rfl
  | paragraph children =>
    exact sameTags_elementTokens "p" [] (sameTags_flatten (sameTags_erasedAll children))
  | blockQuote children =>
    exact sameTags_elementTokens "blockquote" [] (sameTags_flatten (sameTags_erasedAll children))
  | strikethrough children =>
    exact sameTags_elementTokens "del" [] (sameTags_flatten (sameTags_erasedAll children))
  | heading level children =>
    exact sameTags_elementTokens _ [] (sameTags_flatten (sameTags_erasedAll children))
  | emphasis strong children =>
    exact sameTags_elementTokens _ [] (sameTags_flatten (sameTags_erasedAll children))
  | link destination title children =>
    have hchildren := sameTags_flatten (sameTags_erasedAll children)
    cases title with
    | none => exact sameTags_elementTokens_of_outline rfl hchildren
    | some title => exact sameTags_elementTokens_of_outline rfl hchildren
  | listItem children => exact sameTags_erasedItem children
  | list firstNumber items => exact sameTags_listTokens firstNumber (sameTags_erasedItems items)
  | table alignments header rows =>
    exact sameTags_tableTokens alignments (sameTags_erasedCells header) (sameTags_erasedRows rows)

theorem sameTags_erasedAll (nodes : List Node) :
    List.Forall₂ SameTags (tokensEach (erasedAll nodes)) (tokensEach nodes) := by
  cases nodes with
  | nil => exact .nil
  | cons node rest => exact .cons node.sameTags_erased (sameTags_erasedAll rest)

theorem sameTags_erasedItem (item : List Node) :
    SameTags (itemTokens (erasedAll item)) (itemTokens item) := by
  cases item with
  | nil => rfl
  | cons node rest =>
    have hlines := sameTags_elementTokens "li" []
      (sameTags_separated [.text "\n"] (.cons node.sameTags_erased (sameTags_erasedAll rest)))
    cases node with
    | paragraph children =>
      cases rest with
      | nil =>
        exact sameTags_elementTokens "li" [] (sameTags_flatten (sameTags_erasedAll children))
      | cons _ _ => exact hlines
    | _ => exact hlines

theorem sameTags_erasedItems (items : List (List Node)) :
    List.Forall₂ SameTags (itemTokensEach (erasedEach items)) (itemTokensEach items) := by
  cases items with
  | nil => exact .nil
  | cons item rest => exact .cons (sameTags_erasedItem item) (sameTags_erasedItems rest)

theorem sameTags_erasedCells (cells : List (List Node)) :
    List.Forall₂ SameTags (cellTokensEach (erasedEach cells)) (cellTokensEach cells) := by
  cases cells with
  | nil => exact .nil
  | cons cell rest =>
    exact .cons (sameTags_flatten (sameTags_erasedAll cell)) (sameTags_erasedCells rest)

theorem sameTags_erasedRows (rows : List (List (List Node))) :
    List.Forall₂ (List.Forall₂ SameTags) (rowTokensEach (erasedRows rows))
      (rowTokensEach rows) := by
  cases rows with
  | nil => exact .nil
  | cons row rest => exact .cons (sameTags_erasedCells row) (sameTags_erasedRows rest)

end

/-- Documents that differ in their strings only have the same tags. -/
theorem Document.sameTags_of_erased_eq {first second : Document}
    (h : first.erased = second.erased) : SameTags first.tokens second.tokens := by
  have hfirst := sameTags_flatten (sameTags_erasedAll first.children)
  have hsecond := sameTags_flatten (sameTags_erasedAll second.children)
  have hchildren : erasedAll first.children = erasedAll second.children :=
    congrArg Document.children h
  rw [hchildren] at hfirst
  exact hfirst.symm.trans hsecond

theorem Document.reads_html (document : Document) (context : RenderContext)
    (h : document.RawFree) : Reads (document.html context) document.tokens :=
  reads_join (reads_htmlEach context document.children h)

/-- The HTML of a document without HTML nodes scans as the document's tokens, up to how texts are
cut up. Its tags are properly nested. A document that differs from it in its strings only has the
same tags with the same attributes. -/
theorem Document.scan_html (document : Document) (context : RenderContext) (h : document.RawFree) :
    ∃ tokens, Html.scan (document.html context).toList = some tokens ∧
      Piece.joined tokens = Piece.joined document.tokens ∧
      nestAll [] tokens = some [] ∧
      ∀ (other : Document) (otherContext : RenderContext),
        other.RawFree → other.erased = document.erased →
        ∃ otherTokens, Html.scan (other.html otherContext).toList = some otherTokens ∧
          SameTags otherTokens tokens := by
  obtain ⟨tokens, hscan, hletters⟩ := exists_scan_eq_some (document.reads_html context h)
  -- nesting and outline look at the letters only
  have hmarks : Piece.marks tokens = Piece.marks document.tokens := by
    rw [Piece.marks, hletters, ← Piece.marks]
  refine ⟨tokens, hscan, Piece.joined_eq_of_letters hletters, ?_, ?_⟩
  · rw [nestAll, hmarks]
    exact balanced_flatten (balanced_tokensEach document.children) []
  · intro other otherContext hother herased
    obtain ⟨otherTokens, hotherScan, hotherLetters⟩ :=
      exists_scan_eq_some (other.reads_html otherContext hother)
    have hotherMarks : Piece.marks otherTokens = Piece.marks other.tokens := by
      rw [Piece.marks, hotherLetters, ← Piece.marks]
    refine ⟨otherTokens, hotherScan, ?_⟩
    rw [SameTags, outline, outline, hmarks, hotherMarks]
    exact Document.sameTags_of_erased_eq herased

/-- A document whose strings look like markup. -/
def hostile : Document :=
  ⟨[.paragraph [.text "</p><script>", .link "\" onclick=\"" (some "&quot;") [.codeSpan "&amp;"]],
    .table [.left] [[.image "'" none [.text "<b>"]]] []]⟩

/-- A document that differs from `hostile` in its strings only. -/
def harmless : Document :=
  ⟨[.paragraph [.text "a", .link "b" (some "c") [.codeSpan "d"]],
    .table [.left] [[.image "e" none [.text "f"]]] []]⟩

theorem Document.scan_html_hostile :
    hostile.RawFree ∧ harmless.RawFree ∧ harmless.erased = hostile.erased ∧
    ∃ tokens, Html.scan (hostile.html .empty).toList = some tokens ∧
      Piece.joined tokens =
        [.mark (.opening "p" [] false), .text "</p><script>",
         .mark (.opening "a" [("href", "\" onclick=\""), ("title", "&quot;")] false),
         .mark (.opening "code" [] false), .text "&amp;", .mark (.closing "code"),
         .mark (.closing "a"), .mark (.closing "p"),
         .mark (.opening "table" [] false), .text "\n", .mark (.opening "thead" [] false),
         .text "\n", .mark (.opening "tr" [] false), .text "\n",
         .mark (.opening "th" [("align", "left")] false),
         .mark (.opening "img" [("src", "'"), ("alt", "<b>")] true), .mark (.closing "th"),
         .text "\n", .mark (.closing "thead"), .mark (.closing "table"), .text "\n"] ∧
      ∃ others, Html.scan (harmless.html .empty).toList = some others ∧ SameTags others tokens := by
  have hhostile : hostile.RawFree := by unfold Document.RawFree; decide
  have hharmless : harmless.RawFree := by unfold Document.RawFree; decide
  obtain ⟨tokens, hscan, hjoined, -, hother⟩ := Document.scan_html hostile .empty hhostile
  refine ⟨hhostile, hharmless, rfl, tokens, hscan, hjoined.trans (by decide), ?_⟩
  exact hother harmless .empty hharmless rfl

end MarkdownHtml
