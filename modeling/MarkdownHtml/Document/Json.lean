import MarkdownHtml.Document.Node
import MarkdownHtml.Json.Reader
import MarkdownHtml.Json.Writer

/-!
# Documents in JSON

A node is written as an object with one member, which names the construct, or as that name alone
where there is nothing to say besides. Widgets have no JSON form, so a tree that holds one has none.

Reading takes more than writing makes: members in any order, unknown members, missing texts where
null may stand, arrays of all members' values in their order in place of an object, and objects with
null under a name that can stand alone. Only so many arrays and objects may be nested as the `depth`
says that each of the reading functions takes; what is passed over does not count.
-/

namespace MarkdownHtml

open Json (ofOption)

/-- An object with one member. -/
def Json.tagged (name : String) (value : Json) : Json := .object [(name, value)]

/-! ## Writing -/

/-- The construct that holds nothing but children. -/
def Json.withChildren (name : String) (children : List Json) : Json :=
  .tagged name (.object [("children", .array children)])

mutual

/-- The JSON form of a node, if it has one. -/
def Node.toJson? : Node → Option Json
  | .blankLine => some (.text "blank_line")
  | .thematicBreak => some (.text "thematic_break")
  | .hardBreak => some (.text "hard_break")
  | .softBreak => some (.text "soft_break")
  | .text text => some (.tagged "text" (.text text))
  | .rawHtml html => some (.tagged "raw_html" (.text html))
  | .codeSpan code => some (.tagged "code_span" (.object [("code", .text code)]))
  | .htmlBlock code => some (.tagged "html_block" (.object [("code", .text code)]))
  | .codeBlock info code =>
    some (.tagged "code_block" (.object [("info", ofOption info), ("code", .text code)]))
  | .linkReferenceDefinition label destination title =>
    some (.tagged "link_reference_definition" (.object
      [("label", .text label), ("destination", .text destination), ("title", ofOption title)]))
  | .autoLink destination text =>
    some (.tagged "auto_link" (.object [("destination", .text destination), ("text", .text text)]))
  | .paragraph children => do return .withChildren "paragraph" (← toJsonAll? children)
  | .blockQuote children => do return .withChildren "block_quote" (← toJsonAll? children)
  | .strikethrough children => do return .withChildren "strikethrough" (← toJsonAll? children)
  | .listItem children => do return .withChildren "list_item" (← toJsonAll? children)
  | .heading level children => do
    return .tagged "heading" (.object
      [("level", .natural level.toNat), ("children", .array (← toJsonAll? children))])
  | .emphasis strong children => do
    return .tagged "emphasis" (.object
      [("strong", .boolean strong), ("children", .array (← toJsonAll? children))])
  | .list firstNumber items => do
    let first := match firstNumber with
      | none => .null
      | some number => .natural number.toNat
    return .tagged "list" (.object
      [("first_number", first), ("items", .array (← toJsonItems? items))])
  | .table alignments header rows => do
    return .tagged "table" (.object
      [("alignments", .array (alignments.map fun a => .text a.name)),
        ("header", .array (← toJsonCells? header)), ("rows", .array (← toJsonRows? rows))])
  | .link destination title children => do
    return .tagged "link" (.object
      [("destination", .text destination), ("title", ofOption title),
        ("children", .array (← toJsonAll? children))])
  | .image source title description => do
    return .tagged "image" (.object
      [("source", .text source), ("title", ofOption title),
        ("description", .array (← toJsonAll? description))])
  | .widget _ _ => none

/-- The JSON forms of nodes. -/
def toJsonAll? : List Node → Option (List Json)
  | [] => some []
  | node :: rest => do return (← node.toJson?) :: (← toJsonAll? rest)

/-- The JSON forms of list items. -/
def toJsonItems? : List (List Node) → Option (List Json)
  | [] => some []
  | item :: rest => do
    return .object [("children", .array (← toJsonAll? item))] :: (← toJsonItems? rest)

/-- The JSON forms of cells. -/
def toJsonCells? : List (List Node) → Option (List Json)
  | [] => some []
  | cell :: rest => do return .array (← toJsonAll? cell) :: (← toJsonCells? rest)

/-- The JSON forms of rows. -/
def toJsonRows? : List (List (List Node)) → Option (List Json)
  | [] => some []
  | row :: rest => do return .array (← toJsonCells? row) :: (← toJsonRows? rest)

end

/-- The object of a list of children; documents and list items have this form. -/
def childrenJson? (children : List Node) : Option Json := do
  return .object [("children", .array (← toJsonAll? children))]

/-- The JSON text of a document, which exists unless the document holds a widget. -/
def Document.json? (document : Document) : Option String :=
  (childrenJson? document.children).map Json.write

/-- The message where a tree has no JSON form. -/
def noJsonMessage : String := "the enum variant Node::Extension cannot be serialized"

/-! ## Reading -/

namespace Json

/-- The values of the named members of an object, each of which may be missing but not repeated, or
the elements of an array with as many. -/
def fields? (names : List String) : Json → Option (List (Option Json))
  | array values => if values.length = names.length then some (values.map some) else none
  | object members =>
    names.mapM fun name =>
      match members.filter fun member => member.1 = name with
      | [] => some none
      | [member] => some (some member.2)
      | _ => none
  | _ => none

/-- A text that must not be missing. -/
def text? : Option Json → Option String
  | some (text content) => some content
  | _ => none

/-- A text that may be missing or null. -/
def optionalText? : Option Json → Option (Option String)
  | none | some null => some none
  | some (text content) => some (some content)
  | _ => none

/-- A truth value. -/
def boolean? : Option Json → Option Bool
  | some (boolean value) => some value
  | _ => none

/-- A natural number below a limit. -/
def natural? (limit : Nat) : Json → Option Nat
  | natural value => if value < limit then some value else none
  | _ => none

/-- A name that stands alone, or with null under it. -/
def name? : Nat → Json → Option String
  | _, text name => some name
  | _ + 1, object [(name, null)] => some name
  | _, _ => none

end Json

/-- The alignment that a JSON value names. -/
def Alignment.ofJson? (depth : Nat) (json : Json) : Option Alignment :=
  (json.name? depth).bind ofName?

/-- The alignments that an array names. -/
def alignments? : Nat → Option Json → Option (List Alignment)
  | depth + 1, some (.array values) => values.mapM (Alignment.ofJson? depth)
  | _, _ => none

/-- The constructs that hold nothing. -/
def Node.ofName? : String → Option Node
  | "blank_line" => some .blankLine
  | "thematic_break" => some .thematicBreak
  | "hard_break" => some .hardBreak
  | "soft_break" => some .softBreak
  | _ => none

/-- The first number of a list, which may be missing or null. -/
def firstNumber? : Option Json → Option (Option UInt64)
  | none | some .null => some none
  | some json => (json.natural? UInt64.size).map fun n => some (UInt64.ofNat n)

mutual

/-- The node that a JSON value describes. -/
def Node.ofJson? : Nat → Json → Option Node
  | _, .text name => Node.ofName? name
  | depth + 1, .object [(name, value)] =>
    match value with
    | .null => Node.ofName? name
    | .text content =>
      if name = "text" then some (.text content)
      else if name = "raw_html" then some (.rawHtml content)
      else none
    | value => Node.ofFields? depth name value
  | _, _ => none

/-- The node of a construct's name and its parts. -/
def Node.ofFields? : Nat → String → Json → Option Node
  | depth + 1, name, json =>
    match name with
    | "paragraph" => (children? depth json).map .paragraph
    | "block_quote" => (children? depth json).map .blockQuote
    | "strikethrough" => (children? depth json).map .strikethrough
    | "list_item" => (children? depth json).map .listItem
    | "code_span" => do
      let [code] ← json.fields? ["code"] | none
      return .codeSpan (← Json.text? code)
    | "html_block" => do
      let [code] ← json.fields? ["code"] | none
      return .htmlBlock (← Json.text? code)
    | "code_block" => do
      let [info, code] ← json.fields? ["info", "code"] | none
      return .codeBlock (← Json.optionalText? info) (← Json.text? code)
    | "link_reference_definition" => do
      let [label, destination, title] ← json.fields? ["label", "destination", "title"] | none
      return .linkReferenceDefinition (← Json.text? label) (← Json.text? destination)
        (← Json.optionalText? title)
    | "auto_link" => do
      let [destination, text] ← json.fields? ["destination", "text"] | none
      return .autoLink (← Json.text? destination) (← Json.text? text)
    | "heading" => do
      let [some level, children] ← json.fields? ["level", "children"] | none
      return .heading (UInt8.ofNat (← level.natural? UInt8.size)) (← nodes? depth children)
    | "emphasis" => do
      let [strong, children] ← json.fields? ["strong", "children"] | none
      return .emphasis (← Json.boolean? strong) (← nodes? depth children)
    | "list" => do
      let [first, items] ← json.fields? ["first_number", "items"] | none
      return .list (← firstNumber? first) (← items? depth items)
    | "table" => do
      let [alignments, header, rows] ← json.fields? ["alignments", "header", "rows"] | none
      return .table (← alignments? depth alignments) (← cells? depth header) (← rows? depth rows)
    | "link" => do
      let [destination, title, children] ← json.fields? ["destination", "title", "children"] | none
      return .link (← Json.text? destination) (← Json.optionalText? title)
        (← nodes? depth children)
    | "image" => do
      let [source, title, description] ← json.fields? ["source", "title", "description"] | none
      return .image (← Json.text? source) (← Json.optionalText? title) (← nodes? depth description)
    | _ => none
  | _, _, _ => none

/-- The nodes of an array that must not be missing. -/
def nodes? : Nat → Option Json → Option (List Node)
  | depth + 1, some (.array values) => values.mapM (Node.ofJson? depth)
  | _, _ => none

/-- The children that make up an object of their own. -/
def children? (depth : Nat) (json : Json) : Option (List Node) := do
  let [children] ← json.fields? ["children"] | none
  nodes? depth children

/-- The list items of an array that must not be missing. -/
def items? : Nat → Option Json → Option (List (List Node))
  | depth + 2, some (.array values) => values.mapM (children? depth)
  | 1, some (.array []) => some []
  | _, _ => none

/-- The cells of an array that must not be missing. -/
def cells? : Nat → Option Json → Option (List (List Node))
  | depth + 1, some (.array values) => values.mapM fun value => nodes? depth (some value)
  | _, _ => none

/-- The rows of an array that must not be missing. -/
def rows? : Nat → Option Json → Option (List (List (List Node)))
  | depth + 1, some (.array values) => values.mapM fun value => cells? depth (some value)
  | _, _ => none

end

/-- How many arrays and objects of a JSON text may be nested. -/
def Json.depthLimit : Nat := 127

/-- The children that a JSON text of a document or of a list item lists. -/
def childrenOfJson? (content : String) : Option (List Node) :=
  (Json.read? content).bind (children? (Json.depthLimit - 1))

/-- The node that a JSON text describes. -/
def nodeOfJson? (content : String) : Option Node :=
  (Json.read? content).bind (Node.ofJson? Json.depthLimit)

/-- The alignment that a JSON text names. -/
def alignmentOfJson? (content : String) : Option Alignment :=
  (Json.read? content).bind (Alignment.ofJson? Json.depthLimit)

end MarkdownHtml
