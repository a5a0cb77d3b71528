import MarkdownHtml.Document.Json
import MarkdownHtml.Proofs.Document.Equality
import MarkdownHtml.Proofs.Document.Within
import MarkdownHtml.Proofs.Json.RoundTrip

/-!
# The JSON form of nodes

What nodes are written as: values without foreign parts (`Node.whole_of_toJson?`), the same value
for equal nodes (`Node.toJson?_eq_of_same`), and none just for a node that holds a widget
(`Node.toJson?_eq_none_iff`). The nesting of a value is the depth that a reader must take for it.
-/

namespace MarkdownHtml

/-! ## Nesting -/

namespace Json

mutual

/-- How many arrays and objects of a value are nested. -/
def nesting : Json → Nat
  | array elements => nestingEach elements + 1
  | object members => nestingMembers members + 1
  | null | boolean _ | natural _ | text _ | foreign => 0

/-- How many are nested in values in a row. -/
def nestingEach : List Json → Nat
  | [] => 0
  | value :: rest => max value.nesting (nestingEach rest)

/-- How many are nested in the values of members. -/
def nestingMembers : List (String × Json) → Nat
  | [] => 0
  | (_, value) :: rest => max value.nesting (nestingMembers rest)

end

@[simp] theorem nesting_text (content : String) : (text content).nesting = 0 := rfl

@[simp] theorem nesting_natural (n : Nat) : (natural n).nesting = 0 := rfl

@[simp] theorem nesting_boolean (value : Bool) : (boolean value).nesting = 0 := rfl

@[simp] theorem nesting_null : null.nesting = 0 := rfl

@[simp] theorem nesting_ofOption (content : Option String) : (ofOption content).nesting = 0 := by
  cases content <;> rfl

@[simp] theorem nesting_array (elements : List Json) :
    (array elements).nesting = nestingEach elements + 1 := rfl

@[simp] theorem nesting_object (members : List (String × Json)) :
    (object members).nesting = nestingMembers members + 1 := rfl

@[simp] theorem nesting_tagged (name : String) (value : Json) :
    (tagged name value).nesting = value.nesting + 1 := by
  rw [tagged, nesting_object, nestingMembers, nestingMembers, Nat.max_zero]

@[simp] theorem nestingEach_cons (value : Json) (rest : List Json) :
    nestingEach (value :: rest) = max value.nesting (nestingEach rest) := rfl

@[simp] theorem nestingMembers_nil : nestingMembers [] = 0 := rfl

@[simp] theorem nestingMembers_cons (name : String) (value : Json)
    (rest : List (String × Json)) :
    nestingMembers ((name, value) :: rest) = max value.nesting (nestingMembers rest) := rfl

@[simp] theorem nestingEach_names (alignments : List Alignment) :
    nestingEach (alignments.map fun a => text a.name) = 0 := by
  induction alignments with
  | nil => rfl
  | cons a alignments ih => rw [List.map_cons, nestingEach_cons, ih, nesting_text, Nat.max_zero]

end Json

open Json

/-! ## What is written

The lists of nodes, items, cells and rows are written entry by entry. -/

theorem toJsonAll?_cons_eq_some {node : Node} {rest : List Node} {values : List Json} :
    toJsonAll? (node :: rest) = some values ↔ ∃ value more, node.toJson? = some value ∧
      toJsonAll? rest = some more ∧ value :: more = values := by
  simp [toJsonAll?, Option.bind_eq_some_iff]

theorem toJsonItems?_cons_eq_some {item : List Node} {rest : List (List Node)}
    {values : List Json} :
    toJsonItems? (item :: rest) = some values ↔ ∃ value more, toJsonAll? item = some value ∧
      toJsonItems? rest = some more ∧ .object [("children", .array value)] :: more = values := by
  simp [toJsonItems?, Option.bind_eq_some_iff]

theorem toJsonCells?_cons_eq_some {cell : List Node} {rest : List (List Node)}
    {values : List Json} :
    toJsonCells? (cell :: rest) = some values ↔ ∃ value more, toJsonAll? cell = some value ∧
      toJsonCells? rest = some more ∧ .array value :: more = values := by
  simp [toJsonCells?, Option.bind_eq_some_iff]

theorem toJsonRows?_cons_eq_some {row : List (List Node)} {rest : List (List (List Node))}
    {values : List Json} :
    toJsonRows? (row :: rest) = some values ↔ ∃ value more, toJsonCells? row = some value ∧
      toJsonRows? rest = some more ∧ .array value :: more = values := by
  simp [toJsonRows?, Option.bind_eq_some_iff]

theorem whole_ofOption (content : Option String) : (ofOption content).Whole := by
  cases content with
  | none => exact .null
  | some content => exact .text content

theorem whole_tagged {name : String} {members : List (String × Json)}
    (h : ∀ member ∈ members, member.2.Whole) : (tagged name (.object members)).Whole := by
  refine .object fun member hmember => ?_
  rw [List.mem_singleton.1 hmember]
  exact .object h

mutual

/-- What is written of a node has nothing foreign in it. -/
theorem Node.whole_of_toJson? {node : Node} {json : Json} (h : node.toJson? = some json) :
    json.Whole := by
  cases node with
  | blankLine | thematicBreak | hardBreak | softBreak =>
    cases h
    exact .text _
  | text _ | rawHtml _ =>
    cases h
    exact .object (by simp [Whole.text])
  | codeSpan _ | htmlBlock _ | codeBlock _ _ | linkReferenceDefinition _ _ _ | autoLink _ _ =>
    cases h
    exact whole_tagged (by simp [Whole.text, whole_ofOption])
  | paragraph children | blockQuote children | strikethrough children | listItem children
  | heading _ children | emphasis _ children | link _ _ children | image _ _ children =>
    simp only [Node.toJson?, Option.bind_eq_bind, Option.bind_eq_some_iff, Option.pure_def,
      Option.some.injEq] at h
    obtain ⟨values, hvalues, rfl⟩ := h
    have hwhole := Whole.array (whole_of_toJsonAll? hvalues)
    exact whole_tagged (by
      simp [hwhole, Whole.text, Whole.natural, Whole.boolean, whole_ofOption])
  | list firstNumber items =>
    simp only [Node.toJson?, Option.bind_eq_bind, Option.bind_eq_some_iff, Option.pure_def,
      Option.some.injEq] at h
    obtain ⟨values, hvalues, rfl⟩ := h
    have hwhole := Whole.array (whole_of_toJsonItems? hvalues)
    cases firstNumber <;> exact whole_tagged (by simp [hwhole, Whole.null, Whole.natural])
  | table alignments header rows =>
    simp only [Node.toJson?, Option.bind_eq_bind, Option.bind_eq_some_iff, Option.pure_def,
      Option.some.injEq] at h
    obtain ⟨values, hvalues, more, hmore, rfl⟩ := h
    have hheader := Whole.array (whole_of_toJsonCells? hvalues)
    have hrows := Whole.array (whole_of_toJsonRows? hmore)
    have halignments : (Json.array (alignments.map fun a => .text a.name)).Whole :=
      .array (by simp [Whole.text])
    exact whole_tagged (by simp [hheader, hrows, halignments])
  | widget _ _ => cases h

theorem whole_of_toJsonAll? {nodes : List Node} {values : List Json}
    (h : toJsonAll? nodes = some values) : ∀ value ∈ values, value.Whole := by
  cases nodes with
  | nil =>
    cases h
    exact List.forall_mem_nil _
  | cons node rest =>
    obtain ⟨value, more, hvalue, hmore, rfl⟩ := toJsonAll?_cons_eq_some.1 h
    exact List.forall_mem_cons.2 ⟨Node.whole_of_toJson? hvalue, whole_of_toJsonAll? hmore⟩

theorem whole_of_toJsonItems? {items : List (List Node)} {values : List Json}
    (h : toJsonItems? items = some values) : ∀ value ∈ values, value.Whole := by
  cases items with
  | nil =>
    cases h
    exact List.forall_mem_nil _
  | cons item rest =>
    obtain ⟨value, more, hvalue, hmore, rfl⟩ := toJsonItems?_cons_eq_some.1 h
    have hitem := Whole.array (whole_of_toJsonAll? hvalue)
    exact List.forall_mem_cons.2 ⟨.object (by simpa using hitem), whole_of_toJsonItems? hmore⟩

theorem whole_of_toJsonCells? {cells : List (List Node)} {values : List Json}
    (h : toJsonCells? cells = some values) : ∀ value ∈ values, value.Whole := by
  cases cells with
  | nil =>
    cases h
    exact List.forall_mem_nil _
  | cons cell rest =>
    obtain ⟨value, more, hvalue, hmore, rfl⟩ := toJsonCells?_cons_eq_some.1 h
    exact List.forall_mem_cons.2
      ⟨.array (whole_of_toJsonAll? hvalue), whole_of_toJsonCells? hmore⟩

theorem whole_of_toJsonRows? {rows : List (List (List Node))} {values : List Json}
    (h : toJsonRows? rows = some values) : ∀ value ∈ values, value.Whole := by
  cases rows with
  | nil =>
    cases h
    exact List.forall_mem_nil _
  | cons row rest =>
    obtain ⟨value, more, hvalue, hmore, rfl⟩ := toJsonRows?_cons_eq_some.1 h
    exact List.forall_mem_cons.2
      ⟨.array (whole_of_toJsonCells? hvalue), whole_of_toJsonRows? hmore⟩

end

/-! ## What cannot be written -/

theorem bind_eq_none_iff {α β : Type} {x : Option α} {f : α → β} :
    (do return f (← x)) = none ↔ x = none := by
  cases x <;> simp

/-- Two results are put together unless one of them is missing. -/
theorem bind_bind_eq_none_iff {α β γ : Type} {x : Option α} {y : Option β} {f : α → β → γ} :
    (do return f (← x) (← y)) = none ↔ x = none ∨ y = none := by
  cases x <;> cases y <;> simp

/-- Whether a widget is among nodes. -/
def HasWidget (nodes : List Node) : Prop := ∃ handle w, .widget handle w ∈ nodes

theorem hasWidget_append {left right : List Node} :
    HasWidget (left ++ right) ↔ HasWidget left ∨ HasWidget right := by
  simp only [HasWidget, List.mem_append, exists_or]

mutual

/-- Only what holds a widget has no JSON form. -/
theorem Node.toJson?_eq_none_iff (node : Node) :
    node.toJson? = none ↔ HasWidget (node :: node.inside) := by
  cases node with
  | blankLine | thematicBreak | hardBreak | softBreak | text _ | rawHtml _ | codeSpan _
  | htmlBlock _ | codeBlock _ _ | linkReferenceDefinition _ _ _ | autoLink _ _ =>
    simp [Node.toJson?, Node.inside, HasWidget]
  | paragraph children | blockQuote children | strikethrough children | listItem children
  | heading _ children | emphasis _ children | link _ _ children | image _ _ children =>
    rw [Node.toJson?, bind_eq_none_iff, toJsonAll?_eq_none_iff children]
    simp [Node.inside, HasWidget]
  | list firstNumber items =>
    unfold Node.toJson?
    rw [bind_eq_none_iff, toJsonItems?_eq_none_iff items]
    simp [Node.inside, HasWidget]
  | table alignments header rows =>
    have hparts := or_congr (toJsonCells?_eq_none_iff header) (toJsonRows?_eq_none_iff rows)
    rw [← hasWidget_append] at hparts
    rw [Node.toJson?, bind_bind_eq_none_iff, hparts]
    simp [Node.inside, HasWidget]
  | widget handle w => exact iff_of_true rfl ⟨handle, w, List.mem_cons_self⟩

theorem toJsonAll?_eq_none_iff (nodes : List Node) :
    toJsonAll? nodes = none ↔ HasWidget (withinAll nodes) := by
  cases nodes with
  | nil => simp [toJsonAll?, HasWidget]
  | cons node rest =>
    rw [toJsonAll?, bind_bind_eq_none_iff, node.toJson?_eq_none_iff, toJsonAll?_eq_none_iff rest,
      ← hasWidget_append]
    rfl

theorem toJsonItems?_eq_none_iff (items : List (List Node)) :
    toJsonItems? items = none ↔ HasWidget (withinEach items) := by
  cases items with
  | nil => simp [toJsonItems?, withinEach, HasWidget]
  | cons item rest =>
    rw [toJsonItems?, bind_bind_eq_none_iff, toJsonAll?_eq_none_iff item,
      toJsonItems?_eq_none_iff rest, ← hasWidget_append]
    rfl

theorem toJsonCells?_eq_none_iff (cells : List (List Node)) :
    toJsonCells? cells = none ↔ HasWidget (withinEach cells) := by
  cases cells with
  | nil => simp [toJsonCells?, withinEach, HasWidget]
  | cons cell rest =>
    rw [toJsonCells?, bind_bind_eq_none_iff, toJsonAll?_eq_none_iff cell,
      toJsonCells?_eq_none_iff rest, ← hasWidget_append]
    rfl

theorem toJsonRows?_eq_none_iff (rows : List (List (List Node))) :
    toJsonRows? rows = none ↔ HasWidget (withinRows rows) := by
  cases rows with
  | nil => simp [toJsonRows?, withinRows, HasWidget]
  | cons row rest =>
    rw [toJsonRows?, bind_bind_eq_none_iff, toJsonCells?_eq_none_iff row,
      toJsonRows?_eq_none_iff rest, ← hasWidget_append]
    rfl

end

/-! ## Equal nodes -/

mutual

/-- Equal nodes have the same JSON form; widgets, which may be equal and differ, have none. -/
theorem Node.toJson?_eq_of_same {a b : Node} (h : a.same b = true) : a.toJson? = b.toJson? := by
  cases Node.matches_of_same h with
  | self => rfl
  | paragraph hrow | blockQuote hrow | heading hrow | listItem hrow | emphasis hrow
  | strikethrough hrow | link hrow | image hrow =>
    rw [Node.toJson?, Node.toJson?, toJsonAll?_eq_of_same hrow]
  | list hitems =>
    unfold Node.toJson?
    rw [toJsonItems?_eq_of_same hitems]
  | table hheader hrows =>
    rw [Node.toJson?, Node.toJson?, toJsonCells?_eq_of_same hheader, toJsonRows?_eq_of_same hrows]
  | widget => rfl
termination_by sizeOf a

theorem toJsonAll?_eq_of_same {as bs : List Node} (h : sameAll as bs = true) :
    toJsonAll? as = toJsonAll? bs := by
  unfold sameAll at h
  split at h
  · rfl
  · rw [Bool.and_eq_true] at h
    rw [toJsonAll?, toJsonAll?, Node.toJson?_eq_of_same h.1, toJsonAll?_eq_of_same h.2]
  · cases h
termination_by sizeOf as

theorem toJsonItems?_eq_of_same {as bs : List (List Node)} (h : sameCells as bs = true) :
    toJsonItems? as = toJsonItems? bs := by
  unfold sameCells at h
  split at h
  · rfl
  · rw [Bool.and_eq_true] at h
    rw [toJsonItems?, toJsonItems?, toJsonAll?_eq_of_same h.1, toJsonItems?_eq_of_same h.2]
  · cases h
termination_by sizeOf as

theorem toJsonCells?_eq_of_same {as bs : List (List Node)} (h : sameCells as bs = true) :
    toJsonCells? as = toJsonCells? bs := by
  unfold sameCells at h
  split at h
  · rfl
  · rw [Bool.and_eq_true] at h
    rw [toJsonCells?, toJsonCells?, toJsonAll?_eq_of_same h.1, toJsonCells?_eq_of_same h.2]
  · cases h
termination_by sizeOf as

theorem toJsonRows?_eq_of_same {as bs : List (List (List Node))} (h : sameRows as bs = true) :
    toJsonRows? as = toJsonRows? bs := by
  unfold sameRows at h
  split at h
  · rfl
  · rw [Bool.and_eq_true] at h
    rw [toJsonRows?, toJsonRows?, toJsonCells?_eq_of_same h.1, toJsonRows?_eq_of_same h.2]
  · cases h
termination_by sizeOf as

end

end MarkdownHtml
