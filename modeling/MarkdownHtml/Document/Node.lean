import MarkdownHtml.Document.Context

/-!
# Document trees

A document is a list of nodes. One type holds block constructs and inline ones; which may stand
where is up to whoever builds the tree. A node may also be a *widget*, which renders itself, and is
known by the handle of the object that it stands for.
-/

namespace MarkdownHtml

/-- The alignment of a table column. -/
inductive Alignment where
  | left
  | center
  | right
  | unspecified
deriving DecidableEq, Repr, Inhabited

namespace Alignment

/-- The name of an alignment. -/
def name : Alignment → String
  | left => "left"
  | center => "center"
  | right => "right"
  | unspecified => "unspecified"

/-- The alignment of a given name. -/
def ofName? : String → Option Alignment
  | "left" => some left
  | "center" => some center
  | "right" => some right
  | "unspecified" => some unspecified
  | _ => none

theorem ofName?_name (a : Alignment) : ofName? a.name = some a := by
  cases a <;> rfl

/-- The value of the `align` attribute; an unspecified alignment has none. -/
def attribute? : Alignment → Option String
  | unspecified => none
  | a => some a.name

end Alignment

mutual

/-- A node of a document tree. A list item and a table cell are each the list of their children. -/
inductive Node where
  /-- A blank source line between blocks. -/
  | blankLine
  | paragraph (children : List Node)
  | blockQuote (children : List Node)
  /-- A fenced or indented code block, with the text after the opening fence. -/
  | codeBlock (info : Option String) (code : String)
  | heading (level : UInt8) (children : List Node)
  /-- A block of HTML, rendered as it is. -/
  | htmlBlock (code : String)
  /-- A link reference definition, which renders to nothing. -/
  | linkReferenceDefinition (label destination : String) (title : Option String)
  /-- An ordered list if it has a first number, a bullet list otherwise. -/
  | list (firstNumber : Option UInt64) (items : List (List Node))
  /-- A list item that stands alone. -/
  | listItem (children : List Node)
  | thematicBreak
  | table (alignments : List Alignment) (header : List (List Node))
      (rows : List (List (List Node)))
  /-- Plain text, escaped when rendered. -/
  | text (text : String)
  | emphasis (strong : Bool) (children : List Node)
  | codeSpan (code : String)
  | hardBreak
  | softBreak
  | strikethrough (children : List Node)
  /-- Inline HTML, rendered as it is. -/
  | rawHtml (html : String)
  /-- A link whose text is its address. -/
  | autoLink (destination text : String)
  | link (destination : String) (title : Option String) (children : List Node)
  | image (source : String) (title : Option String) (description : List Node)
  /-- A node that renders itself. Two of them are the same node when their handles are. -/
  | widget (handle : Nat) (widget : Widget)

/-- The kinds of nodes that render themselves. -/
inductive Widget where
  /-- A decorative rule. -/
  | marker
  /-- A short label, inline or not. -/
  | badge (text : String) (isInline : Bool)
  /-- An aside that names the context's value of a key and holds further nodes. -/
  | callout (key : String) (children : List Node)
  /-- A listing of the whole context. -/
  | dump
  /-- Nodes rendered over a context of their own. -/
  | rescope (context : RenderContext) (children : List Node)

end

instance : Inhabited Node := ⟨.blankLine⟩

/-- A document: its top-level nodes in source order. -/
structure Document where
  children : List Node
deriving Inhabited

/-- Whether a widget belongs inside a block. -/
def Widget.isInline : Widget → Bool
  | badge _ isInline => isInline
  | _ => false

/-- What a widget reads as where only plain text may stand. -/
def Widget.plainText : Widget → String
  | badge text _ => text
  | callout _ _ => "callout"
  | _ => ""

/-- A widget as traces name it: its kind, and of a badge also what it shows. -/
def Widget.describe : Widget → String
  | marker => "Marker"
  | badge text isInline =>
    "Badge \x7b text: \"" ++ text ++ "\", inline: " ++ (if isInline then "true" else "false") ++
      " \x7d"
  | callout _ _ => "Callout"
  | dump => "Dump"
  | rescope _ _ => "Rescope"

/-- Whether a node is text-level markup, which belongs inside a block. -/
def Node.isInline : Node → Bool
  | .text _ | .emphasis _ _ | .codeSpan _ | .hardBreak | .softBreak | .strikethrough _ | .rawHtml _
  | .autoLink _ _ | .link _ _ _ | .image _ _ _ => true
  | .widget _ w => w.isInline
  | _ => false

mutual

/-- The content of a node with all markup removed. A table, an HTML block, a definition, a rule and
a blank line have none. -/
def Node.plainText : Node → String
  | .text text | .rawHtml text | .codeSpan text | .codeBlock _ text | .autoLink _ text => text
  | .hardBreak | .softBreak => "\n"
  | .paragraph children | .blockQuote children | .heading _ children | .emphasis _ children
  | .strikethrough children | .link _ _ children | .image _ _ children
  | .listItem children => plainTextAll children
  | .list _ items => plainTextItems items
  | .widget _ w => w.plainText
  | .blankLine | .htmlBlock _ | .linkReferenceDefinition _ _ _ | .thematicBreak | .table _ _ _ => ""

/-- The plain text of nodes in a row. -/
def plainTextAll : List Node → String
  | [] => ""
  | node :: rest => node.plainText ++ plainTextAll rest

/-- The plain text of list items in a row. -/
def plainTextItems : List (List Node) → String
  | [] => ""
  | item :: rest => plainTextAll item ++ plainTextItems rest

end

/-- Appends the plain text of a node to a buffer. -/
def Node.pushPlainText (out : String) (node : Node) : String := out ++ node.plainText

end MarkdownHtml
