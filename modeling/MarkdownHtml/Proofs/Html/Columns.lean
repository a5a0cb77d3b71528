import MarkdownHtml.Proofs.Html.Merged

/-!
# The columns of a table

A table is given a list of alignments, of any length, and rows of any width. What counts is the
alignment of each column, `alignmentAt`: one and the same function of the column is read for the
head and for the body (`tableHtml_eq_columnsHtml`). Two such functions make the same HTML only if
they agree on the columns in use. The cells may hold anything: up to the first cell that is written
with another alignment the two tables are the same string, and there they part (`Html.EqualIff`).
-/

namespace MarkdownHtml

namespace Html

/-! ## Strings that part unless a condition holds -/

/-- Wherever they stand, HTML that begins with the one string and HTML that begins with the other
are equal if and only if the condition holds and they go on alike. -/
def EqualIff (condition : Prop) (first second : String) : Prop :=
  ∀ rest more, first ++ rest = second ++ more ↔ condition ∧ rest = more

variable {p q : Prop} {first second front back : String}

theorem equalIff_self (html : String) : EqualIff True html html := by
  intro rest more
  rw [String.append_right_inj, true_and]

theorem EqualIff.of_iff (h : EqualIff p first second) (hiff : p ↔ q) : EqualIff q first second := by
  intro rest more
  rw [h rest more, hiff]

/-- Strings in a row are equal if the first ones are and then the second ones. -/
theorem EqualIff.append (h : EqualIff p first second) (hback : EqualIff q front back) :
    EqualIff (p ∧ q) (first ++ front) (second ++ back) := by
  intro rest more
  rw [String.append_assoc, String.append_assoc, h, hback, and_assoc]

theorem EqualIff.prepend (h : EqualIff p first second) (html : String) :
    EqualIff p (html ++ first) (html ++ second) :=
  ((equalIff_self html).append h).of_iff (iff_of_eq (true_and p))

theorem EqualIff.append_self (h : EqualIff p first second) (html : String) :
    EqualIff p (first ++ html) (second ++ html) :=
  (h.append (equalIff_self html)).of_iff (iff_of_eq (and_true p))

theorem EqualIff.element (h : EqualIff p first second) (name attributes : String) :
    EqualIff p (elementHtml name attributes first) (elementHtml name attributes second) :=
  ((((h.prepend _).append_self "</").append_self name).append_self ">")

theorem EqualIff.eq_iff (h : EqualIff p first second) : first = second ↔ p := by
  have hends := h "" ""
  rwa [String.append_empty, String.append_empty, and_iff_left rfl] at hends

/-! ## Cells -/

/-- How the start tag of a cell ends. -/
theorem alignAttribute_append (a : Alignment) : attributeHtml? "align" a.attribute? ++ ">" =
    match a with
    | .left => " align=\"left\">"
    | .center => " align=\"center\">"
    | .right => " align=\"right\">"
    | .unspecified => ">" := by
  cases a <;> decide

/-- Two cells with the same content are equal if their alignments are. -/
theorem equalIff_aligned (name content : String) (first second : Alignment) :
    EqualIff (first = second)
      (elementHtml name (attributeHtml? "align" first.attribute?) content)
      (elementHtml name (attributeHtml? "align" second.attribute?) content) := by
  have hend : EqualIff (first = second) (attributeHtml? "align" first.attribute? ++ ">")
      (attributeHtml? "align" second.attribute? ++ ">") := by
    intro rest more
    rw [alignAttribute_append, alignAttribute_append, ← String.toList_inj]
    -- two of the four ends differ before one of them is over
    cases first <;> cases second <;> simp [String.toList_inj]
  have hcell := (hend.prepend ("<" ++ name)).append_self (content ++ "</" ++ name ++ ">")
  simpa only [elementHtml, String.append_assoc] using hcell

theorem equalIff_headerCellHtml (content : String) (first second : Alignment) :
    EqualIff (first = second) (headerCellHtml first content) (headerCellHtml second content) :=
  (equalIff_aligned "th" content first second).append_self "\n"

theorem equalIff_bodyCellHtml (content : String) (first second : Alignment) :
    EqualIff (first = second) (bodyCellHtml first content) (bodyCellHtml second content) :=
  (equalIff_aligned "td" content first second).prepend "\n"

end Html

open Html

/-! ## Rows and tables by columns -/

/-- The alignment of a column. A column past the end of the list has the unspecified one. -/
def alignmentAt (alignments : List Alignment) (column : Nat) : Alignment :=
  alignments[column]?.getD .unspecified

/-- The cells of a row, each written with the alignment of its column. -/
def columnCells (cell : Alignment → String → String) (align : Nat → Alignment)
    (contents : List String) : String :=
  String.join (contents.mapIdx fun column => cell (align column))

/-- A table of cells whose alignments are those of their columns, in the head as in the body. -/
def columnsHtml (align : Nat → Alignment) (header : List String) (rows : List (List String)) :
    String :=
  let head := elementHtml "thead" "" ("\n<tr>\n" ++ columnCells headerCellHtml align header)
  let body := rows.map fun row =>
    "\n" ++ elementHtml "tr" "" (columnCells bodyCellHtml align row ++ "\n")
  if rows.isEmpty then elementHtml "table" "" ("\n" ++ head) ++ "\n"
  else elementHtml "table" "" ("\n" ++ head ++ "\n" ++ elementHtml "tbody" "" (String.join body))

theorem alignedCells_eq_columnCells (cell : Alignment → String → String)
    (alignments : List Alignment) (contents : List String) :
    alignedCells cell alignments contents = columnCells cell (alignmentAt alignments) contents := by
  induction contents generalizing alignments with
  | nil =>
    cases alignments <;> rfl
  | cons content contents ih =>
    rw [columnCells, List.mapIdx_cons, String.join_cons]
    cases alignments with
    | nil =>
      rw [alignedCells, ih]
      rfl
    | cons alignment alignments =>
      rw [alignedCells, ih]
      rfl

theorem tableHtml_eq_columnsHtml (alignments : List Alignment) (header : List String)
    (rows : List (List String)) :
    tableHtml alignments header rows = columnsHtml (alignmentAt alignments) header rows := by
  have hrow : rowHtml alignments = fun row => elementHtml "tr" ""
      (columnCells bodyCellHtml (alignmentAt alignments) row ++ "\n") := by
    funext row
    rw [rowHtml, alignedCells_eq_columnCells]
  cases rows with
  | nil =>
    rw [tableHtml, alignedCells_eq_columnCells]
    rfl
  | cons row rows =>
    rw [tableHtml, alignedCells_eq_columnCells, hrow]
    · rfl
    · exact List.cons_ne_nil row rows

variable {f g : Nat → Alignment}

/-- Rows of cells part at the first column in which their alignments differ. -/
theorem equalIff_columnCells {cell : Alignment → String → String}
    (hcell : ∀ content first second,
      EqualIff (first = second) (cell first content) (cell second content))
    (contents : List String) :
    EqualIff (∀ column < contents.length, f column = g column) (columnCells cell f contents)
      (columnCells cell g contents) := by
  induction contents generalizing f g with
  | nil => exact (equalIff_self "").of_iff (by simp)
  | cons content contents ih =>
    have hrest := ih (f := fun column => f (column + 1)) (g := fun column => g (column + 1))
    rw [columnCells, columnCells, List.mapIdx_cons, List.mapIdx_cons, String.join_cons,
      String.join_cons]
    refine ((hcell content (f 0) (g 0)).append hrest).of_iff ?_
    rw [List.length_cons, Nat.forall_lt_succ_left]

theorem equalIff_rows (rows : List (List String)) :
    EqualIff (∀ row ∈ rows, ∀ column < row.length, f column = g column)
      (String.join (rows.map fun row =>
        "\n" ++ elementHtml "tr" "" (columnCells bodyCellHtml f row ++ "\n")))
      (String.join (rows.map fun row =>
        "\n" ++ elementHtml "tr" "" (columnCells bodyCellHtml g row ++ "\n"))) := by
  induction rows with
  | nil => exact (equalIff_self "").of_iff (by simp)
  | cons row rows ih =>
    have hrow := (equalIff_columnCells equalIff_bodyCellHtml row (f := f) (g := g)).append_self "\n"
    rw [List.map_cons, List.map_cons, String.join_cons, String.join_cons, List.forall_mem_cons]
    exact ((hrow.element "tr" "").prepend "\n").append ih

/-- Tables with the same cells are equal if the alignments agree on the columns of each row. -/
theorem columnsHtml_eq_iff (header : List String) (rows : List (List String)) :
    columnsHtml f header rows = columnsHtml g header rows ↔
      ∀ row ∈ header :: rows, ∀ column < row.length, f column = g column := by
  have hheader := equalIff_columnCells equalIff_headerCellHtml header (f := f) (g := g)
  have hhead := ((hheader.prepend "\n<tr>\n").element "thead" "").prepend "\n"
  rw [columnsHtml, columnsHtml]
  cases rows with
  | nil =>
    rw [List.forall_mem_singleton]
    exact ((hhead.element "table" "").append_self "\n").eq_iff
  | cons row rows =>
    have hbody := (equalIff_rows (row :: rows) (f := f) (g := g)).element "tbody" ""
    rw [List.forall_mem_cons]
    exact (((hhead.append_self "\n").append hbody).element "table" "").eq_iff

/-! ## Table nodes -/

/-- Unspecified alignments at the end of the list say what its end says. -/
theorem alignmentAt_append_replicate (alignments : List Alignment) (count column : Nat) :
    alignmentAt (alignments ++ List.replicate count .unspecified) column =
      alignmentAt alignments column := by
  rw [alignmentAt, alignmentAt]
  by_cases hlt : column < alignments.length
  · rw [List.getElem?_append_left hlt]
  · rw [List.getElem?_append_right (by omega), List.getElem?_eq_none (l := alignments) (by omega),
      List.getElem?_replicate]
    split <;> rfl

theorem alignmentAt_append {alignments : List Alignment} {column : Nat}
    (h : column < alignments.length) (more : List Alignment) :
    alignmentAt (alignments ++ more) column = alignmentAt alignments column := by
  rw [alignmentAt, alignmentAt, List.getElem?_append_left h]

/-- A table's HTML determines the alignments of the columns in use and is determined by them,
whatever the cells hold. The head and the body read the same alignment for a column. Unspecified
alignments at the end of the list, and alignments beyond the widest row, do not count. -/
theorem Node.html_table_columns (context : RenderContext) (header : List (List Node))
    (rows : List (List (List Node))) :
    (∀ alignments, (Node.table alignments header rows).html context =
      columnsHtml (alignmentAt alignments) (header.map (htmlAll context))
        (rows.map (List.map (htmlAll context)))) ∧
    (∀ first second,
      (Node.table first header rows).html context = (Node.table second header rows).html context ↔
        ∀ column, (∃ cells ∈ header :: rows, column < cells.length) →
          alignmentAt first column = alignmentAt second column) ∧
    (∀ alignments count,
      (Node.table (alignments ++ List.replicate count .unspecified) header rows).html context =
        (Node.table alignments header rows).html context) ∧
    ∀ alignments more, (∀ cells ∈ header :: rows, cells.length ≤ alignments.length) →
      (Node.table (alignments ++ more) header rows).html context =
        (Node.table alignments header rows).html context := by
  have hcolumns : ∀ alignments, (Node.table alignments header rows).html context =
      columnsHtml (alignmentAt alignments) (header.map (htmlAll context))
        (rows.map (List.map (htmlAll context))) := by
    intro alignments
    rw [Node.html, tableHtml_eq_columnsHtml, cellHtmlEach_eq_map, rowCellsEach_eq_map]
  have hiff : ∀ first second,
      (Node.table first header rows).html context = (Node.table second header rows).html context ↔
        ∀ column, (∃ cells ∈ header :: rows, column < cells.length) →
          alignmentAt first column = alignmentAt second column := by
    intro first second
    -- rendering a cell does not change how many there are
    have hrows : header.map (htmlAll context) :: rows.map (List.map (htmlAll context)) =
        (header :: rows).map (List.map (htmlAll context)) := rfl
    rw [hcolumns, hcolumns, columnsHtml_eq_iff, hrows, List.forall_mem_map]
    simp only [List.length_map]
    constructor
    · rintro h column ⟨cells, hcells, hlt⟩
      exact h cells hcells column hlt
    · intro h cells hcells column hlt
      exact h column ⟨cells, hcells, hlt⟩
  refine ⟨hcolumns, hiff, ?_, ?_⟩
  · intro alignments count
    exact (hiff _ _).2 fun column _ => alignmentAt_append_replicate alignments count column
  · intro alignments more hwide
    refine (hiff _ _).2 ?_
    rintro column ⟨cells, hcells, hlt⟩
    exact alignmentAt_append (Nat.lt_of_lt_of_le hlt (hwide cells hcells)) more

/-- Cells of a header, the first of which brings HTML that could be the end of another cell. -/
def forgedHeader : List (List Node) := [[.rawHtml "</th>\n<th align=\"left\">"], [.text "b"]]

theorem Node.html_table_columns_forged :
    (Node.table [] forgedHeader [[]]).html .empty ≠
        (Node.table [.unspecified, .left] forgedHeader [[]]).html .empty ∧
      (Node.table [.unspecified, .left, .right] forgedHeader [[]]).html .empty =
        (Node.table [.unspecified, .left] forgedHeader [[]]).html .empty := by
  obtain ⟨-, hiff, -, hbeyond⟩ := Node.html_table_columns .empty forgedHeader [[]]
  refine ⟨fun heq => ?_, hbeyond [.unspecified, .left] [.right] (by decide)⟩
  have hcolumn := (hiff _ _).1 heq 1 ⟨forgedHeader, List.mem_cons_self, by decide⟩
  exact absurd hcolumn (by decide)

end MarkdownHtml
