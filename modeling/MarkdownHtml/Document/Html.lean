import MarkdownHtml.Document.Node
import MarkdownHtml.Html.Escape
import MarkdownHtml.Text.Blank
import MarkdownHtml.Text.Join

/-!
# The HTML of a document

Each construct has a function from the HTML of its parts to its own HTML (`listHtml`, `tableHtml`,
…); `Node.html` walks the tree and hands the parts over. Text and attribute values are escaped, HTML
nodes are not. The render context is only read by widgets.
-/

namespace MarkdownHtml

/-- Element content, escaped. -/
def contentHtml (text : String) : String := Place.content.escaped text

/-- A name and a value as an attribute, with the blank before it. -/
def attributeHtml (name value : String) : String :=
  " " ++ name ++ "=\"" ++ Place.attribute.escaped value ++ "\""

/-- An attribute that is left out when it has no value. -/
def attributeHtml? (name : String) : Option String → String
  | none => ""
  | some value => attributeHtml name value

/-- An element: its start tag with attributes, its content and its end tag. -/
def elementHtml (name attributes content : String) : String :=
  "<" ++ name ++ attributes ++ ">" ++ content ++ "</" ++ name ++ ">"

/-- A code block. The language class comes from the first word of the info string. -/
def codeBlockHtml (info : Option String) (code : String) : String :=
  let language := (info.bind Text.firstWord?).map ("language-" ++ ·)
  "<pre>" ++ elementHtml "code" (attributeHtml? "class" language) (contentHtml code ++ "\n") ++
    "</pre>"

/-- The element name of a heading; levels outside 1 to 6 count as the nearest of these. -/
def headingName (level : UInt8) : String :=
  match level.toNat with
  | 0 | 1 => "h1"
  | 2 => "h2"
  | 3 => "h3"
  | 4 => "h4"
  | 5 => "h5"
  | _ => "h6"

/-- A list from the HTML of its items, one a line. -/
def listHtml (firstNumber : Option UInt64) (items : List String) : String :=
  let content := "\n" ++ Text.separated "\n" items ++ "\n"
  match firstNumber with
  | some first => elementHtml "ol" (attributeHtml "start" (toString first.toNat)) content ++ "\n"
  | none => elementHtml "ul" "" content ++ "\n"

/-- An image; an empty alternative text is left out. -/
def imageHtml (source : String) (title : Option String) (description : String) : String :=
  "<img" ++ attributeHtml "src" source ++
    attributeHtml? "alt" (if description.isEmpty then none else some description) ++
    attributeHtml? "title" title ++ " />"

/-- The cells of one table row, each written with the alignment of its column. Columns beyond the
alignments have none. -/
def alignedCells (cell : Alignment → String → String) : List Alignment → List String → String
  | _, [] => ""
  | [], content :: rest => cell .unspecified content ++ alignedCells cell [] rest
  | alignment :: more, content :: rest => cell alignment content ++ alignedCells cell more rest

/-- A header cell, on a line of its own. -/
def headerCellHtml (alignment : Alignment) (content : String) : String :=
  elementHtml "th" (attributeHtml? "align" alignment.attribute?) content ++ "\n"

/-- A cell below the header, on a line of its own. -/
def bodyCellHtml (alignment : Alignment) (content : String) : String :=
  "\n" ++ elementHtml "td" (attributeHtml? "align" alignment.attribute?) content

/-- A row below the header. -/
def rowHtml (alignments : List Alignment) (cells : List String) : String :=
  elementHtml "tr" "" (alignedCells bodyCellHtml alignments cells ++ "\n")

/-- A table from the HTML of its cells. The end of the head ends the header row too, and a table
without further rows has no body. -/
def tableHtml (alignments : List Alignment) (header : List String) (rows : List (List String)) :
    String :=
  let head := elementHtml "thead" "" ("\n<tr>\n" ++ alignedCells headerCellHtml alignments header)
  match rows with
  | [] => elementHtml "table" "" ("\n" ++ head) ++ "\n"
  | rows =>
    let body := String.join (rows.map fun cells => "\n" ++ rowHtml alignments cells)
    elementHtml "table" "" ("\n" ++ head ++ "\n" ++ elementHtml "tbody" "" body)

/-- The context's entries, each in brackets. -/
def dumpHtml (context : RenderContext) : String :=
  String.join (context.toList.map fun (key, value) =>
    "[" ++ contentHtml key ++ "=" ++ Place.attribute.escaped value ++ "]")

mutual

/-- The HTML of a node. -/
def Node.html (context : RenderContext) : Node → String
  | .blankLine => "\n"
  | .paragraph children => elementHtml "p" "" (String.join (htmlEach context children))
  | .blockQuote children => elementHtml "blockquote" "" (String.join (htmlEach context children))
  | .codeBlock info code => codeBlockHtml info code
  | .heading level children =>
    elementHtml (headingName level) "" (String.join (htmlEach context children))
  | .htmlBlock code => code
  | .linkReferenceDefinition _ _ _ => ""
  | .list firstNumber items => listHtml firstNumber (itemHtmlEach context items)
  | .listItem children => itemHtml context children
  | .thematicBreak => "<hr />\n"
  | .table alignments header rows =>
    tableHtml alignments (cellHtmlEach context header) (rowCellsEach context rows)
  | .text text => contentHtml text
  | .emphasis strong children =>
    elementHtml (if strong then "strong" else "em") "" (String.join (htmlEach context children))
  | .codeSpan code => elementHtml "code" "" (contentHtml code)
  | .hardBreak => "<br />\n"
  | .softBreak => "\n"
  | .strikethrough children => elementHtml "del" "" (String.join (htmlEach context children))
  | .rawHtml html => html
  | .autoLink destination text =>
    elementHtml "a" (attributeHtml "href" destination) (contentHtml text)
  | .link destination title children =>
    elementHtml "a" (attributeHtml "href" destination ++ attributeHtml? "title" title)
      (String.join (htmlEach context children))
  | .image source title description => imageHtml source title (plainTextAll description)
  | .widget _ w => w.html context

/-- The HTML that a widget makes of itself. -/
def Widget.html (context : RenderContext) : Widget → String
  | .marker => "<hr class=\"marker\" />"
  | .badge text _ => elementHtml "span" " class=\"badge\"" (contentHtml text)
  | .callout key children =>
    elementHtml "aside" (" data-site=\"" ++ (context.get? key).getD "none" ++ "\"")
      (String.join (htmlEach context children))
  | .dump => dumpHtml context
  | .rescope own children => String.join (htmlEach own children)

/-- The HTML of each of some nodes. -/
def htmlEach (context : RenderContext) : List Node → List String
  | [] => []
  | node :: rest => node.html context :: htmlEach context rest

/-- A list item. A single paragraph stands without its own tags; other contents stand one a
line. -/
def itemHtml (context : RenderContext) : List Node → String
  | [] => elementHtml "li" "" ""
  | [.paragraph children] => elementHtml "li" "" (String.join (htmlEach context children))
  | node :: rest =>
    elementHtml "li" "" (Text.separated "\n" (node.html context :: htmlEach context rest))

/-- The HTML of each of some list items. -/
def itemHtmlEach (context : RenderContext) : List (List Node) → List String
  | [] => []
  | item :: rest => itemHtml context item :: itemHtmlEach context rest

/-- The HTML inside each of some cells. -/
def cellHtmlEach (context : RenderContext) : List (List Node) → List String
  | [] => []
  | cell :: rest => String.join (htmlEach context cell) :: cellHtmlEach context rest

/-- The HTML inside the cells of each of some rows. -/
def rowCellsEach (context : RenderContext) : List (List (List Node)) → List (List String)
  | [] => []
  | row :: rest => cellHtmlEach context row :: rowCellsEach context rest

end

/-- Nodes rendered in a row, without separator. -/
def htmlAll (context : RenderContext) (nodes : List Node) : String :=
  String.join (htmlEach context nodes)

/-- The HTML of a whole document. -/
def Document.html (context : RenderContext) (document : Document) : String :=
  htmlAll context document.children

end MarkdownHtml
