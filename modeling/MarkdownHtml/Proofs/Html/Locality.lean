import MarkdownHtml.Proofs.Document.Position
import MarkdownHtml.Proofs.Html.Columns

/-!
# Rendering is local

The HTML of a tree is the HTML of any of its nodes between two strings that the rest of the tree
fixes (`Html.Surrounds`). There are two exceptions. A list item writes its only child without the
tags of a paragraph, so what the child contributes is `Node.htmlIn`; and of what stands in the
description of an image only the plain text is written. `Layer.surrounds_fill` says what one node
around the place does, and the path from the root to the place composes such steps
(`surrounds_foldr_fill`).
-/

namespace MarkdownHtml

namespace Html

/-! ## Strings around a string -/

/-- The outer string is the inner one between two that are always the same. -/
def Surrounds {α : Type} (outer inner : α → String) : Prop :=
  ∃ before after, ∀ a, outer a = before ++ inner a ++ after

variable {α : Type} {outer middle inner : α → String}

theorem surrounds_self (inner : α → String) : Surrounds inner inner :=
  ⟨"", "", fun a => by rw [String.empty_append, String.append_empty]⟩

theorem Surrounds.trans (h : Surrounds outer middle) (hmiddle : Surrounds middle inner) :
    Surrounds outer inner := by
  obtain ⟨before, after, houter⟩ := h
  obtain ⟨front, back, hinner⟩ := hmiddle
  refine ⟨before ++ front, back ++ after, fun a => ?_⟩
  rw [houter, hinner]
  simp only [String.append_assoc]

theorem Surrounds.comp {β : Type} (h : Surrounds outer inner) (f : β → α) :
    Surrounds (fun b => outer (f b)) (fun b => inner (f b)) := by
  obtain ⟨before, after, houter⟩ := h
  exact ⟨before, after, fun b => houter (f b)⟩

theorem Surrounds.prepend (h : Surrounds outer inner) (front : String) :
    Surrounds (fun a => front ++ outer a) inner :=
  Surrounds.trans ⟨front, "", fun a => by rw [String.append_empty]⟩ h

theorem Surrounds.append (h : Surrounds outer inner) (back : String) :
    Surrounds (fun a => outer a ++ back) inner :=
  Surrounds.trans ⟨"", back, fun a => by rw [String.empty_append]⟩ h

theorem Surrounds.element (h : Surrounds outer inner) (name attributes : String) :
    Surrounds (fun a => elementHtml name attributes (outer a)) inner :=
  ((((h.prepend _).append "</").append name).append ">")

/-- One of some strings in a row. -/
theorem surrounds_join (front back : List String) (inner : α → String) :
    Surrounds (fun a => String.join (front ++ inner a :: back)) inner := by
  refine ⟨String.join front, String.join back, fun a => ?_⟩
  simp only [String.join_append, String.join_cons, String.append_assoc]

/-- One of some strings with a separator between them. -/
theorem surrounds_separated (separator : String) (front back : List String) (inner : α → String) :
    Surrounds (fun a => Text.separated separator (front ++ inner a :: back)) inner := by
  induction front with
  | nil =>
    cases back with
    | nil => exact surrounds_self inner
    | cons next back => exact ((surrounds_self inner).append separator).append _
  | cons first front ih =>
    -- something follows the first string, so that the separator stands behind it
    have hcons : ∀ a, Text.separated separator (first :: (front ++ inner a :: back)) =
        first ++ separator ++ Text.separated separator (front ++ inner a :: back) := by
      intro a
      cases front <;> rfl
    simp only [List.cons_append, hcons]
    exact ih.prepend (first ++ separator)

/-- One of the cells of a row. -/
theorem surrounds_columnCells {cell : Alignment → String → String}
    (hcell : ∀ alignment, Surrounds (cell alignment) id) (align : Nat → Alignment)
    (front back : List String) (inner : α → String) :
    Surrounds (fun a => columnCells cell align (front ++ inner a :: back)) inner := by
  simp only [columnCells, List.mapIdx_append, List.mapIdx_cons]
  exact (surrounds_join _ _ _).trans ((hcell _).comp inner)

theorem surrounds_headerCellHtml (alignment : Alignment) :
    Surrounds (headerCellHtml alignment) id :=
  ((surrounds_self id).element "th" _).append "\n"

theorem surrounds_bodyCellHtml (alignment : Alignment) : Surrounds (bodyCellHtml alignment) id :=
  ((surrounds_self id).element "td" _).prepend "\n"

/-- One of the items of a list. -/
theorem surrounds_listHtml (firstNumber : Option UInt64) (front back : List String)
    (inner : α → String) :
    Surrounds (fun a => listHtml firstNumber (front ++ inner a :: back)) inner := by
  have hcontent := ((surrounds_separated "\n" front back inner).prepend "\n").append "\n"
  cases firstNumber with
  | none => exact (hcontent.element "ul" "").append "\n"
  | some first => exact (hcontent.element "ol" _).append "\n"

/-- One of the header cells of a table. -/
theorem surrounds_tableHtml_header (alignments : List Alignment) (front back : List String)
    (rows : List (List String)) (inner : α → String) :
    Surrounds (fun a => tableHtml alignments (front ++ inner a :: back) rows) inner := by
  have hcells := surrounds_columnCells surrounds_headerCellHtml (alignmentAt alignments) front back
    inner
  have hhead := ((hcells.prepend "\n<tr>\n").element "thead" "").prepend "\n"
  simp only [tableHtml_eq_columnsHtml, columnsHtml]
  cases rows with
  | nil => exact (hhead.element "table" "").append "\n"
  | cons row rows => exact ((hhead.append "\n").append _).element "table" ""

/-- One of the cells below the header of a table. -/
theorem surrounds_tableHtml_row (alignments : List Alignment) (header : List String)
    (above below : List (List String)) (front back : List String) (inner : α → String) :
    Surrounds (fun a => tableHtml alignments header (above ++ (front ++ inner a :: back) :: below))
      inner := by
  have hcells := surrounds_columnCells surrounds_bodyCellHtml (alignmentAt alignments) front back
    inner
  have hrow := ((hcells.append "\n").element "tr" "").prepend "\n"
  have hisEmpty : ∀ a, (above ++ (front ++ inner a :: back) :: below).isEmpty = false := by
    intro a
    cases above <;> rfl
  simp only [tableHtml_eq_columnsHtml, columnsHtml, hisEmpty, List.map_append, List.map_cons]
  exact ((((surrounds_join _ _ _).trans hrow).element "tbody" "").prepend _).element "table" ""

end Html

open Html

/-! ## One node around the place -/

variable (context : RenderContext)

/-- The HTML of a node where it stands. A paragraph that is the only child of a list item has no
tags of its own. -/
def Node.htmlIn : Bool → Node → String
  | true, .paragraph children => htmlAll context children
  | _, node => node.html context

theorem itemHtml_singleton (node : Node) :
    itemHtml context [node] = elementHtml "li" "" (node.htmlIn context true) := by
  cases node <;> rfl

/-- Several children of a list item stand one a line, paragraphs too. -/
theorem itemHtml_cons_cons (node next : Node) (rest : List Node) :
    itemHtml context (node :: next :: rest) =
      elementHtml "li" "" (Text.separated "\n" (htmlEach context (node :: next :: rest))) := by
  cases node <;> rfl

theorem Gap.surrounds_htmlAll (gap : Gap) :
    Surrounds (fun node => htmlAll context (gap.fill node)) (Node.html context) := by
  simp only [fill, htmlAll, htmlEach_append, htmlEach]
  exact surrounds_join _ _ _

theorem Gap.surrounds_itemHtml (gap : Gap) :
    Surrounds (fun node => itemHtml context (gap.fill node)) (Node.htmlIn context gap.isAlone) := by
  obtain ⟨left, right⟩ := gap
  have hlines : Surrounds (fun node => elementHtml "li" ""
      (Text.separated "\n" (htmlEach context (left ++ node :: right)))) (Node.html context) := by
    simp only [htmlEach_append, htmlEach]
    exact (surrounds_separated "\n" _ _ _).element "li" ""
  cases left with
  | nil =>
    cases right with
    | nil =>
      simp only [fill, List.nil_append, itemHtml_singleton]
      exact (surrounds_self _).element "li" ""
    | cons next right =>
      simp only [fill, List.nil_append, itemHtml_cons_cons]
      exact hlines
  | cons first left =>
    cases left with
    | nil =>
      simp only [fill, List.cons_append, List.nil_append, itemHtml_cons_cons]
      exact hlines
    | cons second left =>
      simp only [fill, List.cons_append, itemHtml_cons_cons]
      exact hlines

namespace Layer

/-- A built-in node writes what the node at the open place contributes between fixed strings, unless
it is an image. -/
theorem surrounds_fill (layer : Layer) (h : layer.isDescription = false) (alone : Bool) :
    Surrounds (fun node => (layer.fill node).htmlIn context alone)
      (Node.htmlIn context layer.isOnlyChild) := by
  have hchildren := Gap.surrounds_htmlAll context
  cases layer with
  | paragraph gap =>
    cases alone with
    | true => exact hchildren gap
    | false => exact (hchildren gap).element "p" ""
  | blockQuote gap => cases alone <;> exact (hchildren gap).element "blockquote" ""
  | heading level gap => cases alone <;> exact (hchildren gap).element (headingName level) ""
  | emphasis strong gap =>
    cases alone <;> exact (hchildren gap).element (if strong then "strong" else "em") ""
  | strikethrough gap => cases alone <;> exact (hchildren gap).element "del" ""
  | link destination title gap => cases alone <;> exact (hchildren gap).element "a" _
  | listItem gap => cases alone <;> exact gap.surrounds_itemHtml context
  | item firstNumber before gap after =>
    have hlist := (surrounds_listHtml firstNumber (before.map (itemHtml context))
      (after.map (itemHtml context)) _).trans (gap.surrounds_itemHtml context)
    have hitems : ∀ node, itemHtmlEach context (before ++ gap.fill node :: after) =
        before.map (itemHtml context) ++ itemHtml context (gap.fill node) ::
          after.map (itemHtml context) := by
      intro node
      simp only [itemHtmlEach_eq_map, List.map_append, List.map_cons]
    simp only [← hitems] at hlist
    cases alone <;> exact hlist
  | headerCell alignments before gap after rows =>
    have htable := (surrounds_tableHtml_header alignments (before.map (htmlAll context))
      (after.map (htmlAll context)) (rowCellsEach context rows) _).trans (hchildren gap)
    have hcells : ∀ node, cellHtmlEach context (before ++ gap.fill node :: after) =
        before.map (htmlAll context) ++ htmlAll context (gap.fill node) ::
          after.map (htmlAll context) := by
      intro node
      simp only [cellHtmlEach_eq_map, List.map_append, List.map_cons]
    simp only [← hcells] at htable
    cases alone <;> exact htable
  | bodyCell alignments header above before gap after below =>
    have htable := (surrounds_tableHtml_row alignments (cellHtmlEach context header)
      (rowCellsEach context above) (rowCellsEach context below) (before.map (htmlAll context))
      (after.map (htmlAll context)) _).trans (hchildren gap)
    have hrows : ∀ node, rowCellsEach context (above ++ (before ++ gap.fill node :: after) :: below) =
        rowCellsEach context above ++
          (before.map (htmlAll context) ++ htmlAll context (gap.fill node) ::
            after.map (htmlAll context)) :: rowCellsEach context below := by
      intro node
      simp only [rowCellsEach_eq_map, List.map_append, List.map_cons]
    simp only [← hrows] at htable
    cases alone <;> exact htable
  | image source title gap => cases h

end Layer

/-! ## The path to the place -/

/-- Without an image on the path, what the node at its end contributes is written between fixed
strings. -/
theorem surrounds_foldr_fill (layers : List Layer)
    (h : ∀ layer ∈ layers, layer.isDescription = false) (alone : Bool) :
    Surrounds (fun node => (layers.foldr Layer.fill node).htmlIn context alone)
      (Node.htmlIn context ((layers.getLast?.map Layer.isOnlyChild).getD alone)) := by
  induction layers generalizing alone with
  | nil => exact surrounds_self _
  | cons layer layers ih =>
    obtain ⟨hlayer, hlayers⟩ := List.forall_mem_cons.1 h
    have hlast : ((layer :: layers).getLast?.map Layer.isOnlyChild).getD alone =
        (layers.getLast?.map Layer.isOnlyChild).getD layer.isOnlyChild := by
      rw [List.getLast?_cons]
      cases layers.getLast? <;> rfl
    rw [hlast]
    exact ((layer.surrounds_fill context hlayer alone).comp _).trans (ih hlayers layer.isOnlyChild)

/-- With an image on the path, only the plain text of the node at its end counts. -/
theorem htmlIn_foldr_fill_congr (layers : List Layer)
    (h : ∃ layer ∈ layers, layer.isDescription = true) {node other : Node}
    (hplain : node.plainText = other.plainText) (alone : Bool) :
    (layers.foldr Layer.fill node).htmlIn context alone =
      (layers.foldr Layer.fill other).htmlIn context alone := by
  induction layers generalizing alone with
  | nil => simp at h
  | cons layer layers ih =>
    rw [List.foldr_cons, List.foldr_cons]
    by_cases hlayer : layer.isDescription = true
    · -- the outermost image on the path writes the plain text of all that is inside of it
      cases layer with
      | image source title gap =>
        have hinside := plainText_foldr_fill_congr layers hplain
        have himage : ∀ inner : Node, ((Layer.image source title gap).fill inner).htmlIn context
            alone = imageHtml source title (plainTextAll (gap.fill inner)) := by
          intro inner
          cases alone <;> rfl
        rw [himage, himage, plainTextAll_fill, plainTextAll_fill, hinside]
      | _ => cases hlayer
    · have hlayers : ∃ layer ∈ layers, layer.isDescription = true := by
        simpa [hlayer] using h
      obtain ⟨before, after, hfill⟩ :=
        layer.surrounds_fill context (Bool.eq_false_iff.2 hlayer) alone
      simp only at hfill
      rw [hfill, hfill, ih hlayers layer.isOnlyChild]

/-- Rendering is local. At a place outside of image descriptions the HTML of a node stands between
two strings that the rest of the document fixes; only a paragraph that is the only child of a list
item contributes the HTML of its children instead. At a place inside an image description nodes with
the same plain text make the same HTML. These are the places of all nodes that have only built-in
nodes around them. -/
theorem Document.html_local (position : Position) :
    (position.inDescription = false → position.isOnlyChild = false →
      ∃ before after, ∀ node,
        (position.fill node).html context = before ++ node.html context ++ after) ∧
    (position.inDescription = false → position.isOnlyChild = true →
      ∃ before after,
        (∀ node, (∀ children, node ≠ .paragraph children) →
          (position.fill node).html context = before ++ node.html context ++ after) ∧
        ∀ children, (position.fill (.paragraph children)).html context =
          before ++ htmlAll context children ++ after) ∧
    (position.inDescription = true → ∀ node other : Node, node.plainText = other.plainText →
      (position.fill node).html context = (position.fill other).html context) ∧
    ∀ (document : Document) (node : Node), (∃ top ∈ document.children, top.Holds node) ↔
      ∃ place : Position, place.fill node = document := by
  have htop : ∀ node, (position.fill node).html context =
      htmlAll context (position.top.fill (position.layers.foldr Layer.fill node)) := fun _ => rfl
  have hsurrounds : position.inDescription = false →
      Surrounds (fun node => (position.fill node).html context)
        (Node.htmlIn context position.isOnlyChild) := by
    intro h
    have hlayers : ∀ layer ∈ position.layers, layer.isDescription = false := by
      intro layer hlayer
      exact Bool.eq_false_iff.2 fun heq => by
        rw [Position.inDescription, List.any_eq_false] at h
        exact h layer hlayer heq
    simp only [htop]
    exact ((position.top.surrounds_htmlAll context).comp _).trans
      (surrounds_foldr_fill context position.layers hlayers false)
  refine ⟨?_, ?_, ?_, fun document node => exists_holds_iff⟩
  · intro hdescription honly
    obtain ⟨before, after, hfill⟩ := hsurrounds hdescription
    refine ⟨before, after, fun node => ?_⟩
    simp only [honly] at hfill
    exact hfill node
  · intro hdescription honly
    obtain ⟨before, after, hfill⟩ := hsurrounds hdescription
    simp only [honly] at hfill
    refine ⟨before, after, fun node hnode => ?_, fun children => hfill (.paragraph children)⟩
    have hhtml : node.htmlIn context true = node.html context := by
      cases node with
      | paragraph children => exact absurd rfl (hnode children)
      | _ => rfl
    rw [← hhtml]
    exact hfill node
  · intro hdescription node other hplain
    rw [Position.inDescription, List.any_eq_true] at hdescription
    obtain ⟨before, after, hfill⟩ := position.top.surrounds_htmlAll context
    have hinside := htmlIn_foldr_fill_congr context position.layers hdescription hplain false
    simp only at hfill
    rw [htop, htop, hfill, hfill]
    exact congrArg (before ++ · ++ after) hinside

/-- A place in the second item of a list inside a block quote, below a table that was never closed. -/
def listed (gap : Gap) : Position :=
  ⟨⟨[.htmlBlock "<table>"], []⟩, [.blockQuote ⟨[], [.thematicBreak]⟩, .item (some 3) [[]] gap []]⟩

/-- A place in the description of an image that is itself emphasized. -/
def pictured : Position :=
  ⟨⟨[], [.rawHtml "\">"]⟩, [.emphasis true ⟨[], []⟩, .image "a.png" none ⟨[.text "a"], []⟩]⟩

theorem Document.html_local_listed_pictured :
    (∃ before after, ∀ node, ((listed ⟨[.text "a"], []⟩).fill node).html .empty =
      before ++ node.html .empty ++ after) ∧
    (∃ before after,
      ((listed ⟨[], []⟩).fill (.codeBlock none "b")).html .empty =
        before ++ (Node.codeBlock none "b").html .empty ++ after ∧
      ∀ children, ((listed ⟨[], []⟩).fill (.paragraph children)).html .empty =
        before ++ htmlAll .empty children ++ after) ∧
    (pictured.fill (.link "c" none [.text "b"])).html .empty =
      (pictured.fill (.codeSpan "b")).html .empty := by
  obtain ⟨before, after, hother, hparagraph⟩ :=
    (Document.html_local .empty (listed ⟨[], []⟩)).2.1 rfl rfl
  have hcode := hother (.codeBlock none "b") (fun _ h => Node.noConfusion h)
  exact ⟨(Document.html_local .empty (listed ⟨[.text "a"], []⟩)).1 rfl rfl,
    ⟨before, after, hcode, hparagraph⟩,
    (Document.html_local .empty pictured).2.2.1 rfl _ _ (by decide)⟩

end MarkdownHtml
