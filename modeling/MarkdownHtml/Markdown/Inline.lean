import MarkdownHtml.Markdown.Address
import MarkdownHtml.Markdown.Block
import MarkdownHtml.Text.CaseFold

/-!
# Links, code and HTML inside text

The tokens of a block are resolved from left to right: code spans, addresses, inline HTML, links and
images turn into pieces of their own, and brackets that belong to none of them into text. What is
left to find is emphasis.
-/

namespace MarkdownHtml.Markdown

/-- A piece of inline text. -/
inductive Piece where
  | text (text : List Char)
  /-- A run of marks that may begin or end emphasis. -/
  | delimiters (mark : Char) (count : Nat) (canOpen canClose : Bool)
  /-- A typewriter quote. -/
  | quote (isDouble canOpen canClose : Bool)
  | code (code : List Char)
  | html (html : List Char)
  /-- A link or an image. -/
  | link (tag : Tag) (children : List Piece)
  | softBreak
  | hardBreak (byBackslash : Bool)

/-- The block that inline text stands in. -/
structure InlineBlock where
  /-- The characters of the whole source. -/
  source : Array Char
  /-- Where the block ends. -/
  stop : Nat
  /-- The containers around the block, outermost first. -/
  containers : List Container
  inTable : Bool
  /-- What labels stand for. -/
  target? : String → Option LinkTarget

namespace InlineBlock

/-- A stretch of the source. -/
def slice (b : InlineBlock) (start stop : Nat) : List Char := (b.source.extract start stop).toList

/-- What is left of the block from an offset on. -/
def ahead (b : InlineBlock) (start : Nat) : List Char := b.slice start b.stop

/-- The offset at which the given rest of the block begins. -/
def offsetOf (b : InlineBlock) (rest : List Char) : Nat := b.stop - rest.length

/-- The tokens from an offset on, the first of them cut where necessary. -/
def tokensFrom (offset : Nat) (tokens : List Token) : List Token :=
  match tokens.dropWhile (·.stop ≤ offset) with
  | [] => []
  | t :: rest => { t with start := max t.start offset } :: rest

/-! ## Code spans -/

/-- The characters of a code span with line ends written as blanks and without margins. In a table a
backslash before a pipe is dropped. -/
def codeText (b : InlineBlock) : Nat → List Char → List Char
  | 0, _ => []
  | _, [] => []
  | fuel + 1, c :: rest =>
    if c = '\n' ∨ c = '\r' then
      ' ' :: b.codeText fuel (Container.margin b.containers rest).rest
    else if c = '\\' ∧ b.inTable ∧ rest.head? = some '|' then '|' :: b.codeText fuel (rest.drop 1)
    else c :: b.codeText fuel rest

/-- One blank is cut off at both ends of code that has blanks at both ends and not only blanks. -/
def trimCode (code : List Char) : List Char :=
  if code.head? = some ' ' ∧ code.getLast? = some ' ' ∧ !code.all (· == ' ') then
    (code.drop 1).dropLast
  else code

/-- The code between two offsets. -/
def code (b : InlineBlock) (start stop : Nat) : Piece :=
  let cs := b.slice start stop
  .code (trimCode (b.codeText cs.length cs))

/-- The first run of a number of backticks, and the tokens after it. -/
def closingBackticks? (count : Nat) : List Token → Option (Token × List Token)
  | [] => none
  | t :: rest =>
    match t.kind with
    | .backticks n _ => if n = count then some (t, rest) else closingBackticks? count rest
    | _ => closingBackticks? count rest

/-! ## Links -/

/-- White space with at most one line end. -/
def skipSeparator (b : InlineBlock) (cs : List Char) : List Char :=
  let rest := cs.drop (countWhile isGap cs)
  match lineEnd? rest with
  | some (n + 1) =>
    let line := (Container.margin b.containers (rest.drop (n + 1))).rest
    line.drop (countWhile isGap line)
  | _ => rest

/-- The target of a link whose text ends before the given characters, in parentheses, and what follows
it. -/
def inlineTarget? (b : InlineBlock) : List Char → Option (LinkTarget × List Char)
  | '(' :: rest => do
    let (destination, rest) ← destination? (b.skipSeparator rest)
    let rest := b.skipSeparator rest
    let (title, rest) := match title? b.inTable b.containers rest with
      | some (title, rest) => (title, b.skipSeparator rest)
      | none => ("", rest)
    match rest with
    | ')' :: rest => some (⟨unescape b.inTable destination, title⟩, rest)
    | _ => none
  | _ => none

/-- A label after its opening bracket, and what follows it. -/
def labelAhead? (b : InlineBlock) (cs : List Char) : Option (String × List Char) :=
  label? b.inTable (fun line => some (Container.margin b.containers line).rest) cs

/-- The label that lies between two brackets at the ends of a stretch of the source. -/
def labelBetween? (b : InlineBlock) (start stop : Nat) : Option String :=
  match b.labelAhead? (b.slice (start + 1) stop) with
  | some (label, []) => some label
  | _ => none

/-- How a bracketed text refers to a definition. -/
inductive Reference where
  /-- By a label of its own that follows it; with the tokens from its closing bracket on. -/
  | full (label : String) (closing : List Token)
  /-- By its text: nothing follows it, or an empty label, before the given tokens. -/
  | byText (rest : List Token)

/-- How a bracketed text refers to a definition, by the tokens that follow it. -/
def reference (b : InlineBlock) (tokens : List Token) : Reference :=
  match tokens with
  | [] => .byText []
  | next :: _ =>
    match b.ahead next.start with
    | '[' :: ']' :: _ => .byText (tokens.drop 2)
    | '[' :: rest =>
      match b.labelAhead? rest with
      | some (label, rest) => .full label (tokens.dropWhile (·.stop < b.offsetOf rest))
      | none => .byText tokens
    | _ => .byText tokens

/-- An opening bracket that waits for its partner. -/
structure OpenBracket where
  isImage : Bool
  /-- Whether it can no longer open a link, since a link stands inside it. -/
  disabled : Bool
  /-- The offset of the bracket itself. -/
  offset : Nat
  /-- The pieces before it, newest first. -/
  before : List Piece

namespace OpenBracket

/-- The bracket as text. -/
def text (o : OpenBracket) : Piece := .text (if o.isImage then ['!', '['] else ['['])

/-- The tag of the link or image that the bracket opens. -/
def tag (o : OpenBracket) (target : LinkTarget) : Tag :=
  if o.isImage then .image target.destination target.title
  else .link .bracketed target.destination target.title

/-- No bracket outside of a link can open another link. -/
def disable (o : OpenBracket) : OpenBracket := { o with disabled := o.disabled || !o.isImage }

end OpenBracket

/-- Inline text while it is resolved. -/
structure Resolution where
  /-- The pieces since the innermost open bracket, newest first. -/
  pieces : List Piece
  /-- The open brackets, innermost first. -/
  brackets : List OpenBracket

namespace Resolution

/-- Adds a piece. -/
def add (r : Resolution) (piece : Piece) : Resolution := { r with pieces := piece :: r.pieces }

/-- Makes text of the innermost open bracket. -/
def dropBracket (r : Resolution) : Resolution :=
  match r.brackets with
  | [] => r
  | o :: rest => ⟨r.pieces ++ o.text :: o.before, rest⟩

/-- Makes a link of what stands after the innermost open bracket. -/
def closeLink (r : Resolution) (target : LinkTarget) : Resolution :=
  match r.brackets with
  | [] => r
  | o :: rest =>
    ⟨.link (o.tag target) r.pieces.reverse :: o.before,
      if o.isImage then rest else rest.map OpenBracket.disable⟩

/-- The pieces, with all open brackets as text. -/
def finish (r : Resolution) : List Piece :=
  (r.brackets.foldl (fun pieces o => pieces ++ o.text :: o.before) r.pieces).reverse

end Resolution

/-- The first token, which closes a label, closes none any more. -/
def refuseLabel : List Token → List Token
  | ⟨start, stop, _⟩ :: rest => ⟨start, stop, .closing false⟩ :: rest
  | [] => []

/-- Takes the closing bracket `t`, which the tokens follow; gives the tokens that are left. -/
def closeBracket (b : InlineBlock) (r : Resolution) (t : Token) (mayRefer : Bool)
    (tokens : List Token) : Resolution × List Token :=
  let asText := r.dropBracket.add (.text [']'])
  match r.brackets with
  | [] => (asText, tokens)
  | o :: _ =>
    if o.disabled then (asText, tokens)
    else
      match b.inlineTarget? (b.ahead t.stop) with
      | some (target, rest) => (r.closeLink target, tokensFrom (b.offsetOf rest) tokens)
      | none =>
        match b.reference tokens with
        | .full label closing =>
          match b.target? label with
          | some target => (r.closeLink target, closing.drop 1)
          | none =>
            (asText, tokens.take (tokens.length - closing.length) ++ refuseLabel closing)
        | .byText rest =>
          let target := if mayRefer then (b.labelBetween? o.offset (t.stop)).bind b.target? else none
          match target with
          | some target => (r.closeLink target, rest)
          | none => (asText, tokens)

/-! ## Resolving tokens -/

/-- Takes the token `t`, which the tokens follow; gives the tokens that are left. -/
def takeToken (b : InlineBlock) (r : Resolution) (t : Token) (tokens : List Token) :
    Resolution × List Token :=
  let asText := r.add (.text (b.slice t.start t.stop))
  match t.kind with
  | .text => (asText, tokens)
  | .characters text => (r.add (.text text), tokens)
  | .delimiters mark count canOpen canClose =>
    (r.add (.delimiters mark count canOpen canClose), tokens)
  | .quote isDouble canOpen canClose => (r.add (.quote isDouble canOpen canClose), tokens)
  | .softBreak => (r.add .softBreak, tokens)
  | .hardBreak byBackslash => (r.add (.hardBreak byBackslash), tokens)
  | .backticks count escaped =>
    let count := if escaped then count - 1 else count
    match if count = 0 then none else closingBackticks? count tokens with
    | none => (asText, tokens)
    | some (closing, rest) =>
      let r := if escaped then r.add (.text ['\x60']) else r
      (r.add (b.code t.stop closing.start), rest)
  | .angle =>
    match tokens with
    | [] => (asText, tokens)
    | next :: _ =>
      let ahead := b.ahead next.start
      match address? ahead with
      | some (kind, address) =>
        let link := .link (.link kind (String.ofList address) "") [.text address]
        (r.add link, tokensFrom (next.start + address.length + 1) tokens)
      | none =>
        match RawHtml.inline? b.containers ahead with
        | some taken => (r.add (.html ('<' :: taken.text)), tokensFrom (b.offsetOf taken.rest) tokens)
        | none => (asText, tokens)
  | .opening isImage => (⟨[], ⟨isImage, false, t.stop - 1, r.pieces⟩ :: r.brackets⟩, tokens)
  | .closing mayRefer => b.closeBracket r t mayRefer tokens

/-- Resolves tokens one after the other. -/
def resolveFrom (b : InlineBlock) : Nat → Resolution → List Token → List Piece
  | 0, r, _ => r.finish
  | _, r, [] => r.finish
  | fuel + 1, r, t :: rest =>
    let (r, rest) := b.takeToken r t rest
    resolveFrom b fuel r rest

/-- The pieces of inline text. -/
def resolve (b : InlineBlock) (tokens : List Token) : List Piece :=
  b.resolveFrom tokens.length ⟨[], []⟩ tokens

end InlineBlock

end MarkdownHtml.Markdown
