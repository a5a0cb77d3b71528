import MarkdownHtml.Document.Node

/-!
# Tags

What a start event opens (`Tag`) and what an end event closes (`EndTag`). An end tag says less: of a
heading the level, of a list whether it is ordered, of a quote and of a metadata block the kind.
-/

namespace MarkdownHtml

/-- The six heading levels. -/
inductive HeadingLevel where
  | h1 | h2 | h3 | h4 | h5 | h6
deriving DecidableEq, Repr

namespace HeadingLevel

/-- The number of a level. -/
def number : HeadingLevel → UInt8
  | h1 => 1
  | h2 => 2
  | h3 => 3
  | h4 => 4
  | h5 => 5
  | h6 => 6

/-- The level of a number from 1 to 6. -/
def ofNumber? : Nat → Option HeadingLevel
  | 1 => some h1
  | 2 => some h2
  | 3 => some h3
  | 4 => some h4
  | 5 => some h5
  | 6 => some h6
  | _ => none

end HeadingLevel

/-- The kinds of block quotes that carry a title of their own. -/
inductive QuoteKind where
  | note | tip | important | warning | caution
deriving DecidableEq, Repr

/-- The two notations of a metadata block. -/
inductive MetadataKind where
  | yaml | pluses
deriving DecidableEq, Repr

/-- What makes a run of lines a code block. -/
inductive CodeBlockKind where
  /-- Four columns of indentation. -/
  | indented
  /-- A fence, with the text after it. -/
  | fenced (info : String)
deriving DecidableEq, Repr

/-- How a link is written. Only addresses in angle brackets are told apart from other links. -/
inductive LinkKind where
  /-- Text in brackets, with a destination or a reference. -/
  | bracketed
  /-- An absolute address in angle brackets. -/
  | autolink
  /-- A mail address in angle brackets. -/
  | email
deriving DecidableEq, Repr

/-- What a start event opens. -/
inductive Tag where
  | paragraph
  | heading (level : HeadingLevel)
  | blockQuote (kind : Option QuoteKind)
  | codeBlock (kind : CodeBlockKind)
  | htmlBlock
  | list (firstNumber : Option UInt64)
  | item
  | footnoteDefinition
  | definitionList
  | definitionListTitle
  | definitionListDefinition
  | table (alignments : List Alignment)
  | tableHead
  | tableRow
  | tableCell
  | emphasis
  | strong
  | strikethrough
  | superscript
  | subscript
  | link (kind : LinkKind) (destination title : String)
  | image (source title : String)
  | metadataBlock (kind : MetadataKind)
deriving DecidableEq, Repr

/-- What an end event closes. -/
inductive EndTag where
  | paragraph
  | heading (level : HeadingLevel)
  | blockQuote (kind : Option QuoteKind)
  | codeBlock
  | htmlBlock
  | list (ordered : Bool)
  | item
  | footnoteDefinition
  | definitionList
  | definitionListTitle
  | definitionListDefinition
  | table
  | tableHead
  | tableRow
  | tableCell
  | emphasis
  | strong
  | strikethrough
  | superscript
  | subscript
  | link
  | image
  | metadataBlock (kind : MetadataKind)
deriving DecidableEq, Repr

/-- The end tag that closes what a tag opens. -/
def Tag.toEnd : Tag → EndTag
  | paragraph => .paragraph
  | heading level => .heading level
  | blockQuote kind => .blockQuote kind
  | codeBlock _ => .codeBlock
  | htmlBlock => .htmlBlock
  | list firstNumber => .list firstNumber.isSome
  | item => .item
  | footnoteDefinition => .footnoteDefinition
  | definitionList => .definitionList
  | definitionListTitle => .definitionListTitle
  | definitionListDefinition => .definitionListDefinition
  | table _ => .table
  | tableHead => .tableHead
  | tableRow => .tableRow
  | tableCell => .tableCell
  | emphasis => .emphasis
  | strong => .strong
  | strikethrough => .strikethrough
  | superscript => .superscript
  | subscript => .subscript
  | link _ _ _ => .link
  | image _ _ => .image
  | metadataBlock kind => .metadataBlock kind

/-- A heading level as messages write it. -/
def HeadingLevel.name : HeadingLevel → String
  | h1 => "H1"
  | h2 => "H2"
  | h3 => "H3"
  | h4 => "H4"
  | h5 => "H5"
  | h6 => "H6"

/-- A kind of quote as messages write it. -/
def QuoteKind.name : QuoteKind → String
  | note => "Note"
  | tip => "Tip"
  | important => "Important"
  | warning => "Warning"
  | caution => "Caution"

/-- A kind of metadata block as messages write it. -/
def MetadataKind.name : MetadataKind → String
  | yaml => "YamlStyle"
  | pluses => "PlusesStyle"

/-- An end tag as messages write it: its name, then in parentheses what else it says. -/
def EndTag.name : EndTag → String
  | paragraph => "Paragraph"
  | heading level => "Heading(" ++ level.name ++ ")"
  | blockQuote none => "BlockQuote(None)"
  | blockQuote (some kind) => "BlockQuote(Some(" ++ kind.name ++ "))"
  | codeBlock => "CodeBlock"
  | htmlBlock => "HtmlBlock"
  | list ordered => "List(" ++ (if ordered then "true" else "false") ++ ")"
  | item => "Item"
  | footnoteDefinition => "FootnoteDefinition"
  | definitionList => "DefinitionList"
  | definitionListTitle => "DefinitionListTitle"
  | definitionListDefinition => "DefinitionListDefinition"
  | table => "Table"
  | tableHead => "TableHead"
  | tableRow => "TableRow"
  | tableCell => "TableCell"
  | emphasis => "Emphasis"
  | strong => "Strong"
  | strikethrough => "Strikethrough"
  | superscript => "Superscript"
  | subscript => "Subscript"
  | link => "Link"
  | image => "Image"
  | metadataBlock kind => "MetadataBlock(" ++ kind.name ++ ")"

end MarkdownHtml
