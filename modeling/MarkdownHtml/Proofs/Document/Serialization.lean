import MarkdownHtml.Proofs.Document.Written

/-!
# Documents come back from their JSON texts

The readers invert the writers, as long as they take the depth at which the written value is nested
(`Node.ofJson?_of_toJson?`). The induction is on the tree. Whatever else a text may look like, nodes
that are read at a depth can be written without more nesting (`rewritable`), by induction on the
depth with a case for each construct that may have been read (`Node.IsRead`): so a document that came
from some text comes back from its own text as well. With the round trip of JSON itself this is
`Document.json_roundTrip`.
-/

namespace MarkdownHtml

open Json

/-! ## What is read -/

section Read

theorem mapM_cons_eq_some {α β : Type} {f : α → Option β} {a : α} {as : List α} {b : β}
    {bs : List β} (h : f a = some b) (hrest : as.mapM f = some bs) :
    (a :: as).mapM f = some (b :: bs) := by
  rw [List.mapM_cons, h, hrest]
  rfl

/-- The node of an object that is tagged with its construct's name. -/
theorem Node.ofJson?_tagged {name : String} {members : List (String × Json)} {depth : Nat}
    (h : (tagged name (.object members)).nesting ≤ depth) :
    ∃ d, nestingMembers members ≤ d ∧
      Node.ofJson? depth (tagged name (.object members)) =
        Node.ofFields? (d + 1) name (.object members) := by
  rw [nesting_tagged, nesting_object] at h
  obtain ⟨d, rfl⟩ : ∃ d, depth = d + 2 := ⟨depth - 2, by omega⟩
  refine ⟨d, by omega, ?_⟩
  rw [tagged, Node.ofJson?]
  · simp
  · simp

theorem children?_object (depth : Nat) (values : List Json) :
    children? depth (.object [("children", .array values)]) =
      nodes? depth (some (.array values)) := by
  simp [children?, fields?]

/-- The reader counts an item's object together with the array of items. -/
theorem items?_array (depth : Nat) (values : List Json) :
    items? (depth + 1) (some (.array values)) = values.mapM (children? (depth - 1)) := by
  cases depth with
  | succ d => rw [items?, Nat.add_sub_cancel]
  | zero =>
    -- nothing is left for the items, so there must be none
    cases values with
    | nil => rw [items?]; rfl
    | cons value values =>
      have hnone : children? 0 value = none := by
        unfold children?
        cases value.fields? ["children"] with
        | none => rfl
        | some fields =>
          rw [Option.bind_eq_bind, Option.bind_some]
          split
          · simp [nodes?]
          · rfl
      rw [List.mapM_cons, hnone, items?]
      · rfl
      · rintro _ _ ⟨⟩
      · rintro - ⟨⟩

theorem optionalText?_ofOption (content : Option String) :
    optionalText? (some (ofOption content)) = some content := by
  cases content <;> rfl

theorem alignments?_names (depth : Nat) (alignments : List Alignment) :
    alignments? (depth + 1) (some (.array (alignments.map fun a => .text a.name))) =
      some alignments := by
  rw [alignments?]
  induction alignments with
  | nil => rfl
  | cons a alignments ih => exact mapM_cons_eq_some a.ofName?_name ih

theorem natural?_level (level : UInt8) :
    natural? UInt8.size (.natural level.toNat) = some level.toNat :=
  if_pos level.toNat_lt

theorem firstNumber?_natural (number : UInt64) :
    firstNumber? (some (.natural number.toNat)) = some (some number) := by
  have hread : natural? UInt64.size (.natural number.toNat) = some number.toNat :=
    if_pos number.toNat_lt
  simp [firstNumber?, hread]

end Read

mutual

/-- A reader that takes the depth of what was written of a node returns that node. -/
theorem Node.ofJson?_of_toJson? {node : Node} {json : Json} (h : node.toJson? = some json)
    (depth : Nat) (hdepth : json.nesting ≤ depth) :
    Node.ofJson? depth json = some node := by
  cases node with
  | blankLine | thematicBreak | hardBreak | softBreak =>
    cases h
    rw [Node.ofJson?]
    rfl
  | text _ | rawHtml _ =>
    cases h
    rw [nesting_tagged] at hdepth
    obtain ⟨d, rfl⟩ := Nat.exists_eq_succ_of_ne_zero (n := depth) (by omega)
    rw [tagged, Node.ofJson?]
    rfl
  | codeSpan _ | htmlBlock _ | codeBlock _ _ | linkReferenceDefinition _ _ _ | autoLink _ _ =>
    cases h
    obtain ⟨d, -, hread⟩ := Node.ofJson?_tagged hdepth
    rw [hread]
    simp [Node.ofFields?, fields?, text?, optionalText?_ofOption]
  | paragraph children | blockQuote children | strikethrough children | listItem children =>
    simp only [Node.toJson?, Option.bind_eq_bind, Option.bind_eq_some_iff, Option.pure_def,
      Option.some.injEq] at h
    obtain ⟨values, hvalues, rfl⟩ := h
    obtain ⟨d, hd, hread⟩ := Node.ofJson?_tagged hdepth
    have hnodes := nodes?_of_toJsonAll? hvalues d (by simpa using hd)
    rw [withChildren, hread]
    simp only [Node.ofFields?, children?_object, hnodes, Option.map_some]
  | heading _ children | emphasis _ children | link _ _ children | image _ _ children =>
    simp only [Node.toJson?, Option.bind_eq_bind, Option.bind_eq_some_iff, Option.pure_def,
      Option.some.injEq] at h
    obtain ⟨values, hvalues, rfl⟩ := h
    obtain ⟨d, hd, hread⟩ := Node.ofJson?_tagged hdepth
    have hnodes := nodes?_of_toJsonAll? hvalues d (by simpa using hd)
    rw [hread]
    simp [Node.ofFields?, fields?, hnodes, text?, boolean?, natural?_level, optionalText?_ofOption]
  | list firstNumber items =>
    simp only [Node.toJson?, Option.bind_eq_bind, Option.bind_eq_some_iff, Option.pure_def,
      Option.some.injEq] at h
    obtain ⟨values, hvalues, rfl⟩ := h
    obtain ⟨d, hd, hread⟩ := Node.ofJson?_tagged hdepth
    simp only [nestingMembers_cons, nestingMembers_nil] at hd
    have hitems := items?_of_toJsonItems? hvalues d (by omega)
    rw [hread]
    cases firstNumber with
    | none => simp [Node.ofFields?, fields?, firstNumber?, hitems]
    | some number => simp [Node.ofFields?, fields?, firstNumber?_natural, hitems]
  | table alignments header rows =>
    simp only [Node.toJson?, Option.bind_eq_bind, Option.bind_eq_some_iff, Option.pure_def,
      Option.some.injEq] at h
    obtain ⟨values, hvalues, more, hmore, rfl⟩ := h
    obtain ⟨d, hd, hread⟩ := Node.ofJson?_tagged hdepth
    simp only [nestingMembers_cons, nestingMembers_nil] at hd
    have hheader := cells?_of_toJsonCells? hvalues d (by omega)
    have hrows := rows?_of_toJsonRows? hmore d (by omega)
    rw [nesting_array] at hd
    obtain ⟨d, rfl⟩ := Nat.exists_eq_succ_of_ne_zero (n := d) (by omega)
    rw [hread]
    simp [Node.ofFields?, fields?, alignments?_names, hheader, hrows]
  | widget _ _ => cases h

theorem nodes?_of_toJsonAll? {nodes : List Node} {values : List Json}
    (h : toJsonAll? nodes = some values) (depth : Nat)
    (hdepth : (Json.array values).nesting ≤ depth) :
    nodes? depth (some (.array values)) = some nodes := by
  rw [nesting_array] at hdepth
  obtain ⟨d, rfl⟩ := Nat.exists_eq_succ_of_ne_zero (n := depth) (by omega)
  rw [nodes?]
  cases nodes with
  | nil =>
    cases h
    rfl
  | cons node rest =>
    obtain ⟨value, more, hvalue, hmore, rfl⟩ := toJsonAll?_cons_eq_some.1 h
    rw [nestingEach_cons] at hdepth
    have hnode := Node.ofJson?_of_toJson? hvalue d (by omega)
    have hrest := nodes?_of_toJsonAll? hmore (d + 1) (by rw [nesting_array]; omega)
    rw [nodes?] at hrest
    exact mapM_cons_eq_some hnode hrest

theorem items?_of_toJsonItems? {items : List (List Node)} {values : List Json}
    (h : toJsonItems? items = some values) (depth : Nat)
    (hdepth : (Json.array values).nesting ≤ depth) :
    items? depth (some (.array values)) = some items := by
  rw [nesting_array] at hdepth
  obtain ⟨d, rfl⟩ := Nat.exists_eq_succ_of_ne_zero (n := depth) (by omega)
  rw [items?_array]
  cases items with
  | nil =>
    cases h
    rfl
  | cons item rest =>
    obtain ⟨value, more, hvalue, hmore, rfl⟩ := toJsonItems?_cons_eq_some.1 h
    simp only [nestingEach_cons, nesting_object, nestingMembers_cons] at hdepth
    have hitem := nodes?_of_toJsonAll? hvalue (d - 1) (by omega)
    have hrest := items?_of_toJsonItems? hmore (d + 1) (by rw [nesting_array]; omega)
    rw [items?_array] at hrest
    exact mapM_cons_eq_some ((children?_object _ _).trans hitem) hrest

theorem cells?_of_toJsonCells? {cells : List (List Node)} {values : List Json}
    (h : toJsonCells? cells = some values) (depth : Nat)
    (hdepth : (Json.array values).nesting ≤ depth) :
    cells? depth (some (.array values)) = some cells := by
  rw [nesting_array] at hdepth
  obtain ⟨d, rfl⟩ := Nat.exists_eq_succ_of_ne_zero (n := depth) (by omega)
  rw [cells?]
  cases cells with
  | nil =>
    cases h
    rfl
  | cons cell rest =>
    obtain ⟨value, more, hvalue, hmore, rfl⟩ := toJsonCells?_cons_eq_some.1 h
    rw [nestingEach_cons] at hdepth
    have hcell := nodes?_of_toJsonAll? hvalue d (by omega)
    have hrest := cells?_of_toJsonCells? hmore (d + 1) (by rw [nesting_array]; omega)
    rw [cells?] at hrest
    exact mapM_cons_eq_some hcell hrest

theorem rows?_of_toJsonRows? {rows : List (List (List Node))} {values : List Json}
    (h : toJsonRows? rows = some values) (depth : Nat)
    (hdepth : (Json.array values).nesting ≤ depth) :
    rows? depth (some (.array values)) = some rows := by
  rw [nesting_array] at hdepth
  obtain ⟨d, rfl⟩ := Nat.exists_eq_succ_of_ne_zero (n := depth) (by omega)
  rw [rows?]
  cases rows with
  | nil =>
    cases h
    rfl
  | cons row rest =>
    obtain ⟨value, more, hvalue, hmore, rfl⟩ := toJsonRows?_cons_eq_some.1 h
    rw [nestingEach_cons] at hdepth
    have hrow := cells?_of_toJsonCells? hvalue d (by omega)
    have hrest := rows?_of_toJsonRows? hmore (d + 1) (by rw [nesting_array]; omega)
    rw [rows?] at hrest
    exact mapM_cons_eq_some hrow hrest

end

/-! ## What can be written again -/

section Again

/-- What the parts of a construct may be read as. The parts that hold nodes are all read at one
depth, each of some value; the others may be anything. -/
inductive Node.IsRead (depth : Nat) : Node → Prop where
  | codeSpan (code : String) : IsRead depth (.codeSpan code)
  | htmlBlock (code : String) : IsRead depth (.htmlBlock code)
  | codeBlock (info : Option String) (code : String) : IsRead depth (.codeBlock info code)
  | linkReferenceDefinition (label destination : String) (title : Option String) :
      IsRead depth (.linkReferenceDefinition label destination title)
  | autoLink (destination text : String) : IsRead depth (.autoLink destination text)
  | paragraph {part children} (h : nodes? depth part = some children) :
      IsRead depth (.paragraph children)
  | blockQuote {part children} (h : nodes? depth part = some children) :
      IsRead depth (.blockQuote children)
  | strikethrough {part children} (h : nodes? depth part = some children) :
      IsRead depth (.strikethrough children)
  | listItem {part children} (h : nodes? depth part = some children) :
      IsRead depth (.listItem children)
  | heading {part children} (level : UInt8) (h : nodes? depth part = some children) :
      IsRead depth (.heading level children)
  | emphasis {part children} (strong : Bool) (h : nodes? depth part = some children) :
      IsRead depth (.emphasis strong children)
  | list {part items} (firstNumber : Option UInt64) (h : items? depth part = some items) :
      IsRead depth (.list firstNumber items)
  | table {headerPart rowsPart header rows} (alignments : List Alignment)
      (hheader : cells? depth headerPart = some header) (hrows : rows? depth rowsPart = some rows) :
      IsRead depth (.table alignments header rows)
  | link {part children} (destination : String) (title : Option String)
      (h : nodes? depth part = some children) : IsRead depth (.link destination title children)
  | image {part description} (source : String) (title : Option String)
      (h : nodes? depth part = some description) : IsRead depth (.image source title description)

theorem exists_nodes?_of_children? {depth : Nat} {json : Json} {children : List Node}
    (h : children? depth json = some children) : ∃ part, nodes? depth part = some children := by
  unfold children? at h
  simp only [Option.bind_eq_bind, Option.bind_eq_some_iff] at h
  obtain ⟨parts, -, h⟩ := h
  split at h
  · exact ⟨_, h⟩
  · cases h

theorem Node.isRead_of_ofFields? {depth : Nat} {name : String} {json : Json} {node : Node}
    (h : Node.ofFields? (depth + 1) name json = some node) : node.IsRead depth := by
  unfold Node.ofFields? at h
  simp only at h
  -- whatever the name, the parts are read one after the other, and none of them may fail
  split at h <;>
    simp only [Option.map_eq_some_iff, Option.bind_eq_bind, Option.bind_eq_some_iff,
      Option.pure_def, reduceCtorEq] at h <;>
    grind [Node.IsRead, exists_nodes?_of_children?, Option.bind_eq_some_iff]

/-- What is read of an array entry by entry can be written, if what is read of each entry can. -/
theorem exists_mapM_of_mapM {α : Type} {read : Json → Option α} {write : α → Option Json}
    {depth : Nat} (hread : ∀ value a, read value = some a →
      ∃ json, write a = some json ∧ json.nesting ≤ depth)
    {values : List Json} {as : List α} (h : values.mapM read = some as) :
    ∃ written, as.mapM write = some written ∧ (Json.array written).nesting ≤ depth + 1 := by
  induction values generalizing as with
  | nil =>
    cases h
    exact ⟨[], rfl, Nat.succ_le_succ (Nat.zero_le _)⟩
  | cons value values ih =>
    simp only [List.mapM_cons, Option.bind_eq_bind, Option.bind_eq_some_iff, Option.pure_def,
      Option.some.injEq] at h
    obtain ⟨a, ha, as, has, rfl⟩ := h
    obtain ⟨json, hjson, hnesting⟩ := hread value a ha
    obtain ⟨written, hwritten, hdepth⟩ := ih has
    refine ⟨json :: written, mapM_cons_eq_some hjson hwritten, ?_⟩
    rw [nesting_array] at hdepth ⊢
    rw [nestingEach_cons]
    omega

theorem toJsonAll?_eq_mapM (nodes : List Node) : toJsonAll? nodes = nodes.mapM Node.toJson? := by
  induction nodes with
  | nil => rfl
  | cons node rest ih =>
    rw [toJsonAll?, List.mapM_cons, ih]

theorem toJsonItems?_eq_mapM (items : List (List Node)) :
    toJsonItems? items = items.mapM childrenJson? := by
  induction items with
  | nil => rfl
  | cons item rest ih =>
    rw [toJsonItems?, List.mapM_cons, ih, childrenJson?]
    cases toJsonAll? item <;> rfl

theorem toJsonCells?_eq_mapM (cells : List (List Node)) :
    toJsonCells? cells = cells.mapM fun cell => (toJsonAll? cell).map .array := by
  induction cells with
  | nil => rfl
  | cons cell rest ih =>
    rw [toJsonCells?, List.mapM_cons, ih]
    cases toJsonAll? cell <;> rfl

theorem toJsonRows?_eq_mapM (rows : List (List (List Node))) :
    toJsonRows? rows = rows.mapM fun row => (toJsonCells? row).map .array := by
  induction rows with
  | nil => rfl
  | cons row rest ih =>
    rw [toJsonRows?, List.mapM_cons, ih]
    cases toJsonCells? row <;> rfl

/-- Whether all nodes that are read at a depth can be written without more nesting. -/
def Rewritable (depth : Nat) : Prop :=
  ∀ json node, Node.ofJson? depth json = some node →
    ∃ value, node.toJson? = some value ∧ value.nesting ≤ depth

variable {depth : Nat} (hdepth : ∀ d < depth, Rewritable d)

include hdepth

theorem exists_toJsonAll?_of_nodes? {json : Option Json} {nodes : List Node}
    (h : nodes? depth json = some nodes) :
    ∃ values, toJsonAll? nodes = some values ∧ (Json.array values).nesting ≤ depth := by
  unfold nodes? at h
  split at h
  · rename_i d values
    rw [toJsonAll?_eq_mapM]
    exact exists_mapM_of_mapM (hdepth d d.lt_succ_self) h
  · cases h

theorem exists_childrenJson?_of_children? {json : Json} {nodes : List Node}
    (h : children? depth json = some nodes) :
    ∃ value, childrenJson? nodes = some value ∧ value.nesting ≤ depth + 1 := by
  obtain ⟨part, hpart⟩ := exists_nodes?_of_children? h
  obtain ⟨values, hvalues, hnesting⟩ := exists_toJsonAll?_of_nodes? hdepth hpart
  refine ⟨.object [("children", .array values)], ?_, by simpa using hnesting⟩
  rw [childrenJson?, hvalues]
  rfl

theorem exists_toJsonItems?_of_items? {json : Option Json} {items : List (List Node)}
    (h : items? depth json = some items) :
    ∃ values, toJsonItems? items = some values ∧ (Json.array values).nesting ≤ depth := by
  unfold items? at h
  split at h
  · rename_i d values
    rw [toJsonItems?_eq_mapM]
    refine exists_mapM_of_mapM (fun value item hread => ?_) h
    exact exists_childrenJson?_of_children? (fun d' hd' => hdepth d' (by omega)) hread
  · cases h
    exact ⟨[], rfl, Nat.le_refl _⟩
  · cases h

theorem exists_toJsonCells?_of_cells? {json : Option Json} {cells : List (List Node)}
    (h : cells? depth json = some cells) :
    ∃ values, toJsonCells? cells = some values ∧ (Json.array values).nesting ≤ depth := by
  unfold cells? at h
  split at h
  · rename_i d values
    rw [toJsonCells?_eq_mapM]
    refine exists_mapM_of_mapM (fun value cell hread => ?_) h
    obtain ⟨written, hwritten, hnesting⟩ :=
      exists_toJsonAll?_of_nodes? (fun d' hd' => hdepth d' (by omega)) hread
    exact ⟨.array written, by rw [hwritten]; rfl, hnesting⟩
  · cases h

theorem exists_toJsonRows?_of_rows? {json : Option Json} {rows : List (List (List Node))}
    (h : rows? depth json = some rows) :
    ∃ values, toJsonRows? rows = some values ∧ (Json.array values).nesting ≤ depth := by
  unfold rows? at h
  split at h
  · rename_i d values
    rw [toJsonRows?_eq_mapM]
    refine exists_mapM_of_mapM (fun value row hread => ?_) h
    obtain ⟨written, hwritten, hnesting⟩ :=
      exists_toJsonCells?_of_cells? (fun d' hd' => hdepth d' (by omega)) hread
    exact ⟨.array written, by rw [hwritten]; rfl, hnesting⟩
  · cases h

/-- What the parts of a construct are read as can be written, each part where it stands. -/
theorem rewritable_ofFields? {name : String} {json : Json} {node : Node}
    (h : Node.ofFields? depth name json = some node) :
    ∃ value, node.toJson? = some value ∧ value.nesting ≤ depth + 1 := by
  cases depth with
  | zero =>
    rw [Node.ofFields?] at h
    · cases h
    · rintro _ ⟨⟩
  | succ d =>
    have hd : ∀ d' < d, Rewritable d' := fun d' hlt => hdepth d' (by omega)
    cases Node.isRead_of_ofFields? h with
    | codeSpan _ | htmlBlock _ | codeBlock _ _ | linkReferenceDefinition _ _ _ | autoLink _ _ =>
      exact ⟨_, rfl, by simp⟩
    | paragraph hchildren | blockQuote hchildren | strikethrough hchildren | listItem hchildren
    | heading _ hchildren | emphasis _ hchildren | link _ _ hchildren | image _ _ hchildren =>
      obtain ⟨values, hvalues, hnesting⟩ := exists_toJsonAll?_of_nodes? hd hchildren
      refine ⟨_, by rw [Node.toJson?, hvalues]; rfl, ?_⟩
      simpa [withChildren] using hnesting
    | list firstNumber hitems =>
      obtain ⟨values, hvalues, hnesting⟩ := exists_toJsonItems?_of_items? hd hitems
      cases firstNumber <;>
        exact ⟨_, by rw [Node.toJson?, hvalues]; rfl, by simpa using hnesting⟩
    | table alignments hheader hrows =>
      obtain ⟨values, hvalues, hnesting⟩ := exists_toJsonCells?_of_cells? hd hheader
      obtain ⟨more, hmore, hdepths⟩ := exists_toJsonRows?_of_rows? hd hrows
      refine ⟨_, by rw [Node.toJson?, hvalues, hmore]; rfl, ?_⟩
      -- the alignments are not nested more than the header, which is an array as well
      simp only [nesting_tagged, nesting_object, nestingMembers_cons, nestingMembers_nil,
        nesting_array, nestingEach_names] at hnesting hdepths ⊢
      omega

omit hdepth

theorem rewritable_ofName? {name : String} {node : Node} (h : Node.ofName? name = some node) :
    ∃ value, node.toJson? = some value ∧ value.nesting ≤ depth := by
  unfold Node.ofName? at h
  split at h <;> cases h <;> exact ⟨_, rfl, Nat.zero_le _⟩

/-- The induction is on the depth that the reader takes. -/
theorem rewritable (depth : Nat) : Rewritable depth := by
  induction depth using Nat.strongRecOn with
  | ind depth ih =>
    intro json node h
    unfold Node.ofJson? at h
    split at h
    · exact rewritable_ofName? h
    · split at h
      · exact rewritable_ofName? h
      · split_ifs at h
        · cases h
          exact ⟨_, rfl, by simp⟩
        · cases h
          exact ⟨_, rfl, by simp⟩
      · exact rewritable_ofFields? (fun d hd => ih d (by omega)) h
    · cases h

end Again

/-! ## Documents -/

section Documents

theorem childrenJson?_eq_none_iff (children : List Node) :
    childrenJson? children = none ↔ HasWidget (withinAll children) := by
  unfold childrenJson?
  rw [bind_eq_none_iff, toJsonAll?_eq_none_iff]

variable {children : List Node} {json : Json}

theorem whole_of_childrenJson? (h : childrenJson? children = some json) : json.Whole := by
  obtain ⟨values, hvalues, ⟨⟩⟩ := Option.bind_eq_some_iff.1 h
  have hwhole := Whole.array (whole_of_toJsonAll? hvalues)
  exact .object (by simpa using hwhole)

theorem children?_of_childrenJson? (h : childrenJson? children = some json) {depth : Nat}
    (hdepth : json.nesting ≤ depth + 1) : children? depth json = some children := by
  obtain ⟨values, hvalues, ⟨⟩⟩ := Option.bind_eq_some_iff.1 h
  rw [children?_object]
  exact nodes?_of_toJsonAll? hvalues depth (by simpa using hdepth)

/-- Different children have different JSON forms. -/
theorem childrenJson?_injective {other : List Node} (h : childrenJson? children = some json)
    (hother : childrenJson? other = some json) : children = other := by
  have hread := children?_of_childrenJson? h (Nat.le_succ json.nesting)
  rw [children?_of_childrenJson? hother (Nat.le_succ json.nesting)] at hread
  exact (Option.some.inj hread).symm

/-- A written text is read as the children that it was written of, where it is not nested too
much. -/
theorem childrenOfJson?_write (h : childrenJson? children = some json) :
    childrenOfJson? json.write = some children ↔ json.nesting ≤ depthLimit := by
  have hread := read?_write (whole_of_childrenJson? h)
  unfold childrenOfJson?
  rw [hread, Option.bind_some]
  constructor
  · intro hchildren
    obtain ⟨value, hvalue, hnesting⟩ :=
      exists_childrenJson?_of_children? (fun d _ => rewritable d) hchildren
    rw [h] at hvalue
    cases hvalue
    exact hnesting
  · intro hnesting
    exact children?_of_childrenJson? h hnesting

end Documents

/-- A document has a JSON text unless it holds a widget at some depth. The text is read as JSON, and
as the document again just where its arrays and objects are not nested more than the reader takes.
What was read from a text of any form has a text of its own, which is read as the same. And documents
without widgets are equal just when their texts are. -/
theorem Document.json_roundTrip :
    (∀ document : Document, document.json? = none ↔ HasWidget (withinAll document.children)) ∧
    (∀ document : Document, ¬ HasWidget (withinAll document.children) →
      ∃ json, childrenJson? document.children = some json ∧ document.json? = some json.write ∧
        Json.read? json.write = some json ∧
        (childrenOfJson? json.write = some document.children ↔ json.nesting ≤ Json.depthLimit)) ∧
    (∀ content children, childrenOfJson? content = some children →
      ∃ written, (Document.mk children).json? = some written ∧
        childrenOfJson? written = some children) ∧
    ∀ a b : Document, ¬ HasWidget (withinAll a.children) → ¬ HasWidget (withinAll b.children) →
      (sameAll a.children b.children = true ↔ a.json? = b.json?) := by
  have hform : ∀ document : Document, ¬ HasWidget (withinAll document.children) →
      ∃ json, childrenJson? document.children = some json := by
    intro document hwidget
    rw [← childrenJson?_eq_none_iff] at hwidget
    exact Option.ne_none_iff_exists'.1 hwidget
  refine ⟨?_, ?_, ?_, ?_⟩
  · intro document
    rw [Document.json?, Option.map_eq_none_iff, childrenJson?_eq_none_iff]
  · intro document hwidget
    obtain ⟨json, hjson⟩ := hform document hwidget
    have hread := read?_write (whole_of_childrenJson? hjson)
    refine ⟨json, hjson, ?_, hread, childrenOfJson?_write hjson⟩
    rw [Document.json?, hjson, Option.map_some]
  · intro content children h
    obtain ⟨json, -, hchildren⟩ := Option.bind_eq_some_iff.1 h
    obtain ⟨value, hvalue, hnesting⟩ :=
      exists_childrenJson?_of_children? (fun d _ => rewritable d) hchildren
    refine ⟨value.write, ?_, (childrenOfJson?_write hvalue).2 hnesting⟩
    rw [Document.json?, hvalue, Option.map_some]
  · intro a b ha hb
    obtain ⟨json, hjson⟩ := hform a ha
    obtain ⟨other, hother⟩ := hform b hb
    constructor
    · intro hsame
      rw [Document.json?, Document.json?, childrenJson?, childrenJson?, toJsonAll?_eq_of_same hsame]
    · intro htexts
      rw [Document.json?, Document.json?, hjson, hother] at htexts
      have hvalues := write_injective (whole_of_childrenJson? hjson)
        (whole_of_childrenJson? hother) (Option.some.inj htexts)
      rw [hvalues] at hjson
      rw [childrenJson?_injective hjson hother]
      exact sameAll_self b.children

/-- A heading of the highest level that fits its type, with a text that is nearly all escapes, a list
with the highest first number, and a table with empty cells and an empty row. -/
def extremes : Document :=
  ⟨[.heading 255 [.text "\"\\\n\x01/é"], .blankLine,
    .list (some 18446744073709551615) [[.paragraph [.link "/a" none [.softBreak]]], []],
    .table [.center, .unspecified] [[.image "a.png" (some "b") []], []]
      [[[.codeSpan "1"], []], []]]⟩

/-- Extreme values come back, a widget in the description of an image keeps a document from being
written, and a document that differs has another text. -/
theorem Document.json_roundTrip_extremes :
    (∃ json, childrenJson? extremes.children = some json ∧ json.nesting = 13 ∧
      childrenOfJson? json.write = some extremes.children ∧
      ∃ written, extremes.json? = some written ∧
        childrenOfJson? written = some extremes.children) ∧
    (Document.mk [.paragraph [.image "a.png" none [.widget 0 .marker]]]).json? = none ∧
    extremes.json? ≠ (Document.mk [.heading 254 []]).json? := by
  have hwidget : ¬ HasWidget (withinAll extremes.children) := by
    rw [← Document.json_roundTrip.1]
    rintro ⟨⟩
  have hother : ¬ HasWidget (withinAll (Document.mk [.heading 254 []]).children) := by
    rw [← Document.json_roundTrip.1]
    rintro ⟨⟩
  refine ⟨?_, ?_, ?_⟩
  · obtain ⟨json, hjson, htext, hread, hiff⟩ := Document.json_roundTrip.2.1 extremes hwidget
    have hnesting : (childrenJson? extremes.children).map Json.nesting = some 13 := by
      rfl
    rw [hjson] at hnesting
    have hlimit : json.nesting = 13 := Option.some.inj hnesting
    have hchildren := hiff.2 (by rw [hlimit]; decide)
    exact ⟨json, hjson, hlimit, hchildren, Document.json_roundTrip.2.2.1 _ _ hchildren⟩
  · exact (Document.json_roundTrip.1 _).2 ⟨0, .marker, by simp [withinAll, Node.inside]⟩
  · rw [Ne, ← Document.json_roundTrip.2.2.2 _ _ hwidget hother]
    simp [extremes, sameAll, Node.same]

end MarkdownHtml
