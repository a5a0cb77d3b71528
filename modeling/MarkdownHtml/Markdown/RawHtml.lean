import MarkdownHtml.Markdown.Margin

/-!
# HTML in Markdown

HTML blocks and inline HTML are recognized by how they begin and end; nothing is checked in between
but the shape of a single tag. A tag may go on over several lines, whose margins do not belong to it.
-/

namespace MarkdownHtml.Markdown

/-- Characters that were read, without margins, and what follows them. -/
structure Taken where
  text : List Char
  rest : List Char

/-- More characters in front of what was read. -/
def Taken.after (t : Taken) (text : List Char) : Taken := ⟨text ++ t.text, t.rest⟩

/-- Where a piece of HTML may end a line: nowhere, or with the margins of containers on the next. -/
abbrev Lines := Option (List Container)

/-- Takes a line end and the margin of the next line. -/
def Lines.next? (lines : Lines) (cs : List Char) : Option Taken :=
  match lines, lineEnd? cs with
  | some containers, some (n + 1) =>
    some ⟨cs.take (n + 1), (Container.margin containers (cs.drop (n + 1))).rest⟩
  | _, _ => none

namespace RawHtml

/-- Takes white space, perhaps none; something must follow it. -/
def space? (lines : Lines) : Nat → List Char → Option Taken
  | 0, _ => none
  | fuel + 1, cs =>
    let gap := cs.takeWhile isGap
    let rest := cs.drop gap.length
    match lineEnd? rest with
    | none => some ⟨gap, rest⟩
    | some _ => do
      let line ← lines.next? rest
      return ((← space? lines fuel line.rest).after line.text).after gap

/-- Takes the rest of a quoted value, with the closing quote. -/
def quoted? (lines : Lines) (quote : Char) : Nat → List Char → Option Taken
  | 0, _ => none
  | fuel + 1, cs =>
    let text := cs.takeWhile fun c => c != quote && c != '\n' && c != '\r'
    match cs.drop text.length with
    | [] => none
    | c :: rest =>
      if c = quote then some ⟨text ++ [c], rest⟩
      else do
        let line ← lines.next? (c :: rest)
        return ((← quoted? lines quote fuel line.rest).after line.text).after text

/-- The characters that an attribute value without quotes cannot hold. -/
def endsBareValue (c : Char) : Bool :=
  c == ' ' || c == '\t' || c == '\n' || c == '\r' || c == '"' || c == '\'' || c == '=' ||
    c == '<' || c == '>' || c == '\x60'

/-- Takes an attribute value. -/
def value? (lines : Lines) (fuel : Nat) : List Char → Option Taken
  | [] => none
  | c :: rest =>
    if c = '"' ∨ c = '\'' then (quoted? lines c fuel rest).map (·.after [c])
    else
      match (c :: rest).takeWhile (!endsBareValue ·) with
      | [] => none
      | text => some ⟨text, (c :: rest).drop text.length⟩

/-- Takes an attribute: a name, perhaps with a value. White space that no value follows is left. -/
def attribute? (lines : Lines) (fuel : Nat) : List Char → Option Taken
  | [] => none
  | c :: rest =>
    if c.isAlpha ∨ c = '_' ∨ c = ':' then
      let more := rest.takeWhile fun c =>
        c.isAlphanum || c == '_' || c == '.' || c == ':' || c == '-'
      let name := c :: more
      let rest := rest.drop more.length
      match space? lines fuel rest with
      | none => none
      | some before =>
        match before.rest with
        | '=' :: rest' => do
          let between ← space? lines fuel rest'
          let value ← value? lines fuel between.rest
          return ((value.after between.text).after ('=' :: [])).after (name ++ before.text)
        | _ => some ⟨name, rest⟩
    else none

/-- Takes what follows the name in an opening tag. -/
def opening? (lines : Lines) : Nat → List Char → Option Taken
  | 0, _ => none
  | fuel + 1, cs => do
    let gap ← space? lines (fuel + 1) cs
    match gap.rest with
    | '>' :: rest => some ⟨gap.text ++ ['>'], rest⟩
    | '/' :: '>' :: rest => some ⟨gap.text ++ ['/', '>'], rest⟩
    | '/' :: _ => none
    | rest =>
      if gap.text.isEmpty then none
      else
        let part ← attribute? lines (fuel + 1) rest
        return ((← opening? lines fuel part.rest).after part.text).after gap.text

/-- Takes a tag after its `<`. -/
def tag? (lines : Lines) (cs : List Char) : Option Taken :=
  let (slash, cs) := match cs with
    | '/' :: rest => (['/'], rest)
    | cs => ([], cs)
  let letters := cs.takeWhile Char.isAlpha
  let name := letters ++ (cs.drop letters.length).takeWhile fun c => c.isAlphanum || c == '-'
  let rest := cs.drop name.length
  if letters.isEmpty then none
  else if slash.isEmpty then (opening? lines (rest.length + 1) rest).map (·.after name)
  else
    let gap := rest.takeWhile isGap
    match rest.drop gap.length with
    | '>' :: rest => some ⟨slash ++ name ++ gap ++ ['>'], rest⟩
    | _ => none

/-- Takes everything up to and with a text. -/
def upTo? (text : List Char) (cs : List Char) : Option Taken :=
  (after? text cs).map fun rest => ⟨cs.take (cs.length - rest.length), rest⟩

/-- Takes a comment after its `<!--`. -/
def comment? : List Char → Option Taken
  | '>' :: rest => some ⟨['>'], rest⟩
  | '-' :: '>' :: rest => some ⟨['-', '>'], rest⟩
  | cs => upTo? ['-', '-', '>'] cs

/-- Takes a CDATA section after its `<![CDATA[`. The first closing brackets must end it. -/
def cdata? (cs : List Char) : Option Taken :=
  let text := cs.takeWhile (· != ']')
  let brackets := (cs.drop text.length).takeWhile (· == ']')
  match brackets, cs.drop (text.length + brackets.length) with
  | _ :: _, '>' :: rest => some ⟨text ++ brackets ++ ['>'], rest⟩
  | _, _ => none

/-- Takes a piece of inline HTML after its `<`: a comment, a CDATA section, a declaration, a
processing instruction or a tag. -/
def inline? (containers : List Container) (cs : List Char) : Option Taken :=
  match cs with
  | '!' :: '-' :: '-' :: rest => (comment? rest).map (·.after ['!', '-', '-'])
  | '!' :: '[' :: rest =>
    if startsWith "CDATA[" rest then
      (cdata? (rest.drop 6)).map (·.after ('!' :: '[' :: rest.take 6))
    else none
  | '!' :: c :: rest => if c.isAlpha then (upTo? ['>'] rest).map (·.after ['!', c]) else none
  | '!' :: [] => none
  | '?' :: rest => (upTo? ['?', '>'] rest).map (·.after ['?'])
  | cs => tag? (some containers) cs

/-! ## HTML blocks -/

/-- The elements whose contents are left alone up to their end tags. -/
def verbatimElements : List String := ["pre", "style", "script", "textarea"]

/-- The elements whose tags begin an HTML block. -/
def blockElements : List String := [
  "address", "article", "aside", "base", "basefont", "blockquote", "body", "caption", "center",
  "col", "colgroup", "dd", "details", "dialog", "dir", "div", "dl", "dt", "fieldset",
  "figcaption", "figure", "footer", "form", "frame", "frameset", "h1", "h2", "h3", "h4", "h5",
  "h6", "head", "header", "hr", "html", "iframe", "legend", "li", "link", "main", "menu",
  "menuitem", "nav", "noframes", "ol", "optgroup", "option", "p", "param", "search", "section",
  "summary", "table", "tbody", "td", "tfoot", "th", "thead", "title", "tr", "track", "ul"]

/-- The text that ends the HTML block which begins with what follows a `<`, for the blocks that a text
of their own ends. -/
def blockEnd? (cs : List Char) : Option String :=
  let verbatim := verbatimElements.find? fun name =>
    startsWithFolded name cs && (cs.drop name.length).head?.all fun c => isSpace c || c == '>'
  match verbatim with
  | some name => some ("</" ++ name ++ ">")
  | none =>
    if startsWith "!--" cs then some "-->"
    else if startsWith "?" cs then some "?>"
    else if startsWith "![CDATA[" cs then some "]]>"
    else
      match cs with
      | '!' :: c :: _ => if c.isAlpha then some ">" else none
      | _ => none

/-- Whether what follows a `<` is the beginning of a tag that begins an HTML block. -/
def startsBlock (cs : List Char) : Bool :=
  let cs := match cs with
    | '/' :: rest => rest
    | cs => cs
  let name := cs.takeWhile Char.isAlphanum
  blockElements.contains (String.ofList (name.map Char.toLower)) &&
    match cs.drop name.length with
    | [] => true
    | '/' :: '>' :: _ => true
    | c :: _ => c == ' ' || c == '\t' || c == '\n' || c == '\r' || c == '>'

/-- Whether what follows a `<` is a whole tag alone on its line. -/
def isLoneTag (cs : List Char) : Bool :=
  match tag? none cs with
  | some taken => (blankRest? taken.rest).isSome
  | none => false

end RawHtml

end MarkdownHtml.Markdown
