import MarkdownHtml.Proofs.Document.Written
import MarkdownHtml.Proofs.Html.Locality

/-!
# Equality and identity

Equality of nodes goes by the handles of widgets (`Node.same`). Between trees of one session, where
each handle stands for one object, it is equality of the trees with all that their widgets hold
(`Node.eq_of_same`), so that equal nodes cannot be told apart by rendering them. It does not hold
between widgets of their own that hold the same: such widgets render alike, and so do trees that
differ in nothing else (`Node.html_bare`), but these trees are not equal (`same_foldr_fill`).
-/

namespace MarkdownHtml

/-! ## One session -/

variable (objects : Nat → Widget)

/-- Every widget among some nodes is the object that its handle stands for. -/
def AreFrom (nodes : List Node) : Prop := ∀ handle w, .widget handle w ∈ nodes → w = objects handle

/-- A tree is made in a session: at every depth, each widget is the object that its handle stands
for. -/
def Node.IsFrom (node : Node) : Prop := AreFrom objects (node :: node.inside)

variable {objects}

theorem areFrom_append {front back : List Node} :
    AreFrom objects (front ++ back) ↔ AreFrom objects front ∧ AreFrom objects back := by
  simp only [AreFrom, List.mem_append, or_imp, forall_and]

theorem areFrom_withinAll_cons {node : Node} {rest : List Node} :
    AreFrom objects (withinAll (node :: rest)) ↔
      node.IsFrom objects ∧ AreFrom objects (withinAll rest) := by
  rw [withinAll, ← List.cons_append, areFrom_append, Node.IsFrom]

theorem Node.IsFrom.inside {node : Node} (h : node.IsFrom objects) : AreFrom objects node.inside :=
  fun handle w hmem => h handle w (List.mem_cons_of_mem _ hmem)

theorem Node.IsFrom.eq_object {handle : Nat} {w : Widget}
    (h : (Node.widget handle w).IsFrom objects) : w = objects handle :=
  h handle w List.mem_cons_self

mutual

/-- In one session equal handles stand for the same object, so equal nodes are the same tree. -/
theorem Node.eq_of_same {a b : Node} (ha : a.IsFrom objects) (hb : b.IsFrom objects)
    (h : a.same b = true) : a = b := by
  cases Node.matches_of_same h with
  | self => rfl
  | paragraph hrow | blockQuote hrow | heading hrow | listItem hrow | emphasis hrow
  | strikethrough hrow | link hrow | image hrow => rw [eq_of_sameAll ha.inside hb.inside hrow]
  | list hitems => rw [eq_of_sameCells ha.inside hb.inside hitems]
  | table hheader hrows =>
    obtain ⟨haheader, harows⟩ := areFrom_append.1 ha.inside
    obtain ⟨hbheader, hbrows⟩ := areFrom_append.1 hb.inside
    rw [eq_of_sameCells haheader hbheader hheader, eq_of_sameRows harows hbrows hrows]
  | widget => rw [ha.eq_object, hb.eq_object]
termination_by sizeOf a

theorem eq_of_sameAll {as bs : List Node} (ha : AreFrom objects (withinAll as))
    (hb : AreFrom objects (withinAll bs)) (h : sameAll as bs = true) : as = bs := by
  unfold sameAll at h
  split at h
  · rfl
  · rw [Bool.and_eq_true] at h
    rw [areFrom_withinAll_cons] at ha hb
    rw [Node.eq_of_same ha.1 hb.1 h.1, eq_of_sameAll ha.2 hb.2 h.2]
  · cases h
termination_by sizeOf as

theorem eq_of_sameCells {as bs : List (List Node)} (ha : AreFrom objects (withinEach as))
    (hb : AreFrom objects (withinEach bs)) (h : sameCells as bs = true) : as = bs := by
  unfold sameCells at h
  split at h
  · rfl
  · rw [Bool.and_eq_true] at h
    rw [withinEach, areFrom_append] at ha hb
    rw [eq_of_sameAll ha.1 hb.1 h.1, eq_of_sameCells ha.2 hb.2 h.2]
  · cases h
termination_by sizeOf as

theorem eq_of_sameRows {as bs : List (List (List Node))} (ha : AreFrom objects (withinRows as))
    (hb : AreFrom objects (withinRows bs)) (h : sameRows as bs = true) : as = bs := by
  unfold sameRows at h
  split at h
  · rfl
  · rw [Bool.and_eq_true] at h
    rw [withinRows, areFrom_append] at ha hb
    rw [eq_of_sameCells ha.1 hb.1 h.1, eq_of_sameRows ha.2 hb.2 h.2]
  · cases h
termination_by sizeOf as

end

/-- Equality decides whether two trees of one session are the same tree. -/
theorem Node.same_iff_eq {a b : Node} (ha : a.IsFrom objects) (hb : b.IsFrom objects) :
    a.same b = true ↔ a = b := by
  refine ⟨Node.eq_of_same ha hb, ?_⟩
  rintro rfl
  exact a.same_self

/-! ## Widgets that hold the same -/

mutual

/-- A node without its handles: at every depth, only what widgets hold is left of them. -/
def Node.bare : Node → Node
  | .paragraph children => .paragraph (bareAll children)
  | .blockQuote children => .blockQuote (bareAll children)
  | .heading level children => .heading level (bareAll children)
  | .list firstNumber items => .list firstNumber (bareEach items)
  | .listItem children => .listItem (bareAll children)
  | .table alignments header rows => .table alignments (bareEach header) (bareRows rows)
  | .emphasis strong children => .emphasis strong (bareAll children)
  | .strikethrough children => .strikethrough (bareAll children)
  | .link destination title children => .link destination title (bareAll children)
  | .image source title description => .image source title (bareAll description)
  | .widget _ w => .widget 0 w.bare
  | .blankLine => .blankLine
  | .codeBlock info code => .codeBlock info code
  | .htmlBlock code => .htmlBlock code
  | .linkReferenceDefinition label destination title =>
    .linkReferenceDefinition label destination title
  | .thematicBreak => .thematicBreak
  | .text text => .text text
  | .codeSpan code => .codeSpan code
  | .hardBreak => .hardBreak
  | .softBreak => .softBreak
  | .rawHtml html => .rawHtml html
  | .autoLink destination text => .autoLink destination text

/-- What a widget holds, without the handles of the widgets inside of it. -/
def Widget.bare : Widget → Widget
  | .callout key children => .callout key (bareAll children)
  | .rescope own children => .rescope own (bareAll children)
  | .marker => .marker
  | .badge text isInline => .badge text isInline
  | .dump => .dump

/-- Nodes in a row without their handles. -/
def bareAll : List Node → List Node
  | [] => []
  | node :: rest => node.bare :: bareAll rest

/-- List items, or cells, without their handles. -/
def bareEach : List (List Node) → List (List Node)
  | [] => []
  | nodes :: rest => bareAll nodes :: bareEach rest

/-- Table rows without their handles. -/
def bareRows : List (List (List Node)) → List (List (List Node))
  | [] => []
  | row :: rest => bareEach row :: bareRows rest

end

theorem Widget.isInline_bare (w : Widget) : w.bare.isInline = w.isInline := by
  cases w <;> rfl

theorem Widget.plainText_bare (w : Widget) : w.bare.plainText = w.plainText := by
  cases w <;> rfl

mutual

theorem Node.plainText_bare (node : Node) : node.bare.plainText = node.plainText := by
  cases node with
  | paragraph children | blockQuote children | heading _ children | listItem children
  | emphasis _ children | strikethrough children | link _ _ children | image _ _ children =>
    rw [Node.bare, Node.plainText, Node.plainText, plainTextAll_bareAll children]
  | list firstNumber items =>
    rw [Node.bare, Node.plainText, Node.plainText, plainTextItems_bareEach items]
  | widget handle w => exact w.plainText_bare
  | table _ _ _ | blankLine | codeBlock _ _ | htmlBlock _ | linkReferenceDefinition _ _ _
  | thematicBreak | text _ | codeSpan _ | hardBreak | softBreak | rawHtml _ | autoLink _ _ => rfl

theorem plainTextAll_bareAll (nodes : List Node) :
    plainTextAll (bareAll nodes) = plainTextAll nodes := by
  cases nodes with
  | nil => rfl
  | cons node rest =>
    rw [bareAll, plainTextAll, plainTextAll, node.plainText_bare, plainTextAll_bareAll rest]

theorem plainTextItems_bareEach (items : List (List Node)) :
    plainTextItems (bareEach items) = plainTextItems items := by
  cases items with
  | nil => rfl
  | cons item rest =>
    rw [bareEach, plainTextItems, plainTextItems, plainTextAll_bareAll item,
      plainTextItems_bareEach rest]

end

mutual

/-- Handles are not rendered. -/
theorem Node.html_bare (node : Node) (context : RenderContext) :
    node.bare.html context = node.html context := by
  cases node with
  | paragraph children | blockQuote children | heading _ children | emphasis _ children
  | strikethrough children | link _ _ children =>
    rw [Node.bare, Node.html, Node.html, htmlEach_bareAll children context]
  | image source title description =>
    rw [Node.bare, Node.html, Node.html, plainTextAll_bareAll]
  | listItem blocks => exact itemHtml_bareAll blocks context
  | list firstNumber items =>
    rw [Node.bare, Node.html, Node.html, itemHtmlEach_bareEach items context]
  | table alignments header rows =>
    rw [Node.bare, Node.html, Node.html, cellHtmlEach_bareEach header context,
      rowCellsEach_bareRows rows context]
  | widget handle w => exact w.html_bare context
  | blankLine | codeBlock _ _ | htmlBlock _ | linkReferenceDefinition _ _ _ | thematicBreak
  | text _ | codeSpan _ | hardBreak | softBreak | rawHtml _ | autoLink _ _ => rfl

/-- What a widget makes of the nodes inside of it does not depend on the handles of these. -/
theorem Widget.html_bare (w : Widget) (context : RenderContext) :
    w.bare.html context = w.html context := by
  cases w with
  | callout key children =>
    rw [Widget.bare, Widget.html, Widget.html, htmlEach_bareAll children context]
  | rescope own children =>
    rw [Widget.bare, Widget.html, Widget.html, htmlEach_bareAll children own]
  | marker | badge _ _ | dump => rfl

theorem htmlEach_bareAll (nodes : List Node) (context : RenderContext) :
    htmlEach context (bareAll nodes) = htmlEach context nodes := by
  cases nodes with
  | nil => rfl
  | cons node rest =>
    rw [bareAll, htmlEach, htmlEach, node.html_bare context, htmlEach_bareAll rest context]

theorem itemHtml_bareAll (blocks : List Node) (context : RenderContext) :
    itemHtml context (bareAll blocks) = itemHtml context blocks := by
  cases blocks with
  | nil => rfl
  | cons node rest =>
    have hself := node.html_bare context
    cases rest with
    | nil =>
      have halone : node.bare.htmlIn context true = node.htmlIn context true := by
        cases node with
        | paragraph children => exact congrArg String.join (htmlEach_bareAll children context)
        | _ => exact hself
      rw [bareAll, bareAll, itemHtml_singleton, itemHtml_singleton, halone]
    | cons next rest =>
      have heach := htmlEach_bareAll (next :: rest) context
      rw [bareAll, bareAll, itemHtml_cons_cons, itemHtml_cons_cons, ← bareAll, htmlEach, htmlEach,
        hself, heach]

theorem itemHtmlEach_bareEach (items : List (List Node)) (context : RenderContext) :
    itemHtmlEach context (bareEach items) = itemHtmlEach context items := by
  cases items with
  | nil => rfl
  | cons item rest =>
    rw [bareEach, itemHtmlEach, itemHtmlEach, itemHtml_bareAll item context,
      itemHtmlEach_bareEach rest context]

theorem cellHtmlEach_bareEach (cells : List (List Node)) (context : RenderContext) :
    cellHtmlEach context (bareEach cells) = cellHtmlEach context cells := by
  cases cells with
  | nil => rfl
  | cons cell rest =>
    rw [bareEach, cellHtmlEach, cellHtmlEach, htmlEach_bareAll cell context,
      cellHtmlEach_bareEach rest context]

theorem rowCellsEach_bareRows (rows : List (List (List Node))) (context : RenderContext) :
    rowCellsEach context (bareRows rows) = rowCellsEach context rows := by
  cases rows with
  | nil => rfl
  | cons row rest =>
    rw [bareRows, rowCellsEach, rowCellsEach, cellHtmlEach_bareEach row context,
      rowCellsEach_bareRows rest context]

end

/-- Widgets that hold the same, with widgets inside of them that hold the same, cannot be told apart
by rendering them. -/
theorem render_eq_of_bare_eq {w w' : Widget} (h : w.bare = w'.bare) :
    w.isInline = w'.isInline ∧ w.plainText = w'.plainText ∧
      ∀ context, w.html context = w'.html context := by
  refine ⟨?_, ?_, fun context => ?_⟩
  · rw [← w.isInline_bare, h, w'.isInline_bare]
  · rw [← w.plainText_bare, h, w'.plainText_bare]
  · rw [← w.html_bare, h, w'.html_bare]

/-! ## One place in a tree -/

/-- In a row that is compared entry by entry, what stands beside one place does not matter. -/
theorem same_append_cons {α : Type} {same : α → α → Bool} {sameEach : List α → List α → Bool}
    (hnil : sameEach [] [] = true)
    (hcons : ∀ a b as bs, sameEach (a :: as) (b :: bs) = (same a b && sameEach as bs))
    (hself : ∀ a, same a a = true) (front back : List α) (a b : α) :
    sameEach (front ++ a :: back) (front ++ b :: back) = same a b := by
  have hback : sameEach back back = true := by
    induction back with
    | nil => exact hnil
    | cons c back ih => rw [hcons, hself, ih, Bool.true_and]
  induction front with
  | nil => rw [List.nil_append, List.nil_append, hcons, hback, Bool.and_true]
  | cons c front ih => rw [List.cons_append, List.cons_append, hcons, hself, ih, Bool.true_and]

theorem sameAll_fill (gap : Gap) (a b : Node) : sameAll (gap.fill a) (gap.fill b) = a.same b :=
  same_append_cons (by rw [sameAll]) (fun _ _ _ _ => by rw [sameAll]) Node.same_self _ _ _ _

theorem sameCells_append_cons (front back : List (List Node)) (a b : List Node) :
    sameCells (front ++ a :: back) (front ++ b :: back) = sameAll a b :=
  same_append_cons (by rw [sameCells]) (fun _ _ _ _ => by rw [sameCells]) sameAll_self _ _ _ _

theorem sameRows_append_cons (front back : List (List (List Node))) (a b : List (List Node)) :
    sameRows (front ++ a :: back) (front ++ b :: back) = sameCells a b :=
  same_append_cons (by rw [sameRows]) (fun _ _ _ _ => by rw [sameRows]) sameCells_self _ _ _ _

/-- Two trees that are the same but for one place are equal just when what they have there is. -/
theorem Layer.same_fill (layer : Layer) (a b : Node) :
    (layer.fill a).same (layer.fill b) = a.same b := by
  cases layer with
  | paragraph gap | blockQuote gap | heading _ gap | listItem gap | emphasis _ gap
  | strikethrough gap | link _ _ gap | image _ _ gap =>
    simp only [fill, Node.same, sameAll_fill, beq_self_eq_true, Bool.true_and, Bool.and_true]
  | item firstNumber before gap after =>
    simp only [fill, Node.same, sameCells_append_cons, sameAll_fill, beq_self_eq_true,
      Bool.true_and]
  | headerCell alignments before gap after rows =>
    simp only [fill, Node.same, sameCells_append_cons, sameAll_fill, sameRows_self,
      beq_self_eq_true, Bool.true_and, Bool.and_true]
  | bodyCell alignments header above before gap after below =>
    simp only [fill, Node.same, sameRows_append_cons, sameCells_append_cons, sameAll_fill,
      sameCells_self, beq_self_eq_true, Bool.true_and]

theorem same_foldr_fill (layers : List Layer) (a b : Node) :
    (layers.foldr Layer.fill a).same (layers.foldr Layer.fill b) = a.same b := by
  induction layers with
  | nil => rfl
  | cons layer layers ih => rw [List.foldr_cons, List.foldr_cons, layer.same_fill, ih]

theorem isInline_foldr_fill_congr (layers : List Layer) {a b : Node} (h : a.isInline = b.isInline) :
    (layers.foldr Layer.fill a).isInline = (layers.foldr Layer.fill b).isInline := by
  cases layers with
  | nil => exact h
  | cons layer layers => cases layer <;> rfl

/-- What contributes the same HTML and the same plain text can be put in its place in any tree. -/
theorem htmlIn_foldr_fill_eq (context : RenderContext) (layers : List Layer) {a b : Node}
    (hplain : a.plainText = b.plainText)
    (hhtml : ∀ alone, a.htmlIn context alone = b.htmlIn context alone) (alone : Bool) :
    (layers.foldr Layer.fill a).htmlIn context alone =
      (layers.foldr Layer.fill b).htmlIn context alone := by
  by_cases himage : ∃ layer ∈ layers, layer.isDescription = true
  · exact htmlIn_foldr_fill_congr context layers himage hplain alone
  · have hno : ∀ layer ∈ layers, layer.isDescription = false := by simpa using himage
    obtain ⟨before, after, hfill⟩ := surrounds_foldr_fill context layers hno alone
    simp only at hfill
    rw [hfill, hfill, hhtml]

/-- Equality of nodes is a sound identity. In a session it is an equivalence, and it holds between
two trees just when they are the same tree, so that equal trees agree in all that is made of them. It
tells more apart than that: with another object that holds the same in the place of one widget,
wherever in a tree it stands, everything that is made of the tree is as before, but the tree is not
equal to what it was. Layers lead to all places of a tree that have built-in nodes around them. -/
theorem Node.same_identifies :
    (∀ objects : Nat → Widget,
      (∀ a : Node, a.IsFrom objects → a.same a = true) ∧
      (∀ a b : Node, a.IsFrom objects → b.IsFrom objects → a.same b = b.same a) ∧
      (∀ a b c : Node, a.IsFrom objects → b.IsFrom objects → c.IsFrom objects →
        a.same b = true → b.same c = true → a.same c = true) ∧
      ∀ a b : Node, a.IsFrom objects → b.IsFrom objects →
        (a.same b = true ↔ a = b) ∧
        (a.same b = true → a.isInline = b.isInline ∧ a.plainText = b.plainText ∧
          ∀ context, a.html context = b.html context)) ∧
    (∀ (layers : List Layer) (handle other : Nat) (w w' : Widget), handle ≠ other →
      w.bare = w'.bare →
      let a := layers.foldr Layer.fill (.widget handle w)
      let b := layers.foldr Layer.fill (.widget other w')
      a.same b = false ∧ a.isInline = b.isInline ∧ a.plainText = b.plainText ∧
        ∀ context, a.html context = b.html context) ∧
    ∀ outer inner : Node, outer.Holds inner ↔
      ∃ layers : List Layer, layers.foldr Layer.fill inner = outer := by
  refine ⟨fun objects => ⟨fun a _ => a.same_self, fun a b ha hb => ?_, fun a b c ha hb hc => ?_,
    fun a b ha hb => ⟨same_iff_eq ha hb, fun h => ?_⟩⟩, fun layers handle other w w' hne hbare => ?_,
    fun outer inner => holds_iff_exists_layers⟩
  · rw [Bool.eq_iff_iff, same_iff_eq ha hb, same_iff_eq hb ha, eq_comm]
  · rw [same_iff_eq ha hb, same_iff_eq hb hc, same_iff_eq ha hc]
    exact Eq.trans
  · obtain rfl := eq_of_same ha hb h
    exact ⟨rfl, rfl, fun _ => rfl⟩
  · obtain ⟨hinline, hplain, hhtml⟩ := render_eq_of_bare_eq hbare
    have hplain' : (Node.widget handle w).plainText = (Node.widget other w').plainText := hplain
    refine ⟨?_, isInline_foldr_fill_congr layers hinline, plainText_foldr_fill_congr layers hplain',
      fun context => htmlIn_foldr_fill_eq context layers hplain' (fun alone => ?_) false⟩
    · rw [same_foldr_fill, Node.same, beq_eq_false_iff_ne]
      exact hne
    · cases alone <;> exact hhtml context

/-- A session in which a badge and an aside that holds it are made, and both once more. -/
def asides : Nat → Widget
  | 0 | 1 => .badge "new" true
  | 2 => .callout "site" [.widget 0 (.badge "new" true)]
  | _ => .callout "site" [.widget 1 (.badge "new" true)]

theorem isFrom_asides {handle : Nat} (h : handle = 2 ∨ handle = 3) :
    (Node.list none [[.image "i" none [.text "t", .widget handle (asides handle)]]]).IsFrom
      asides := by
  intro found w hmem
  rcases h with rfl | rfl
  all_goals
    simp only [Node.inside, Widget.inside, asides, withinEach, withinAll, List.append_nil,
      List.nil_append, List.mem_cons, List.not_mem_nil, or_false, reduceCtorEq, false_or,
      Node.widget.injEq] at hmem
    rcases hmem with ⟨rfl, rfl⟩ | ⟨rfl, rfl⟩ <;> rfl

/-- The aside stands in an image in an item of a list. -/
theorem Node.same_identifies_asides :
    let layers : List Layer := [.item none [] ⟨[], []⟩ [], .image "i" none ⟨[.text "t"], []⟩]
    let a := layers.foldr Layer.fill (.widget 2 (asides 2))
    let b := layers.foldr Layer.fill (.widget 3 (asides 3))
    a.IsFrom asides ∧ b.IsFrom asides ∧ a.same b = b.same a ∧ a.same b = false ∧
      ∀ context, a.html context = b.html context := by
  intro layers a b
  have ha : a.IsFrom asides := isFrom_asides (.inl rfl)
  have hb : b.IsFrom asides := isFrom_asides (.inr rfl)
  obtain ⟨hsession, hreplace, -⟩ := Node.same_identifies
  have hdiffer := hreplace layers 2 3 (asides 2) (asides 3) (by decide) rfl
  exact ⟨ha, hb, (hsession asides).2.1 a b ha hb, hdiffer.1, hdiffer.2.2.2⟩

end MarkdownHtml
