import MarkdownHtml.Html.Entity
import MarkdownHtml.Markdown.Margin

/-!
# The parts of links

Destinations, titles and labels, as links and link reference definitions write them. In destinations
and titles a backslash takes the meaning of the punctuation after it away and character references
stand for characters. A label is compared by its text with white space collapsed.
-/

namespace MarkdownHtml.Markdown

/-- The characters that a run stands for, without the first `skip` of the run. Carriage returns are
dropped. In a table a pipe that two backslashes stand before loses both. -/
def unescapeFrom (inTable : Bool) : Nat → List Char → List Char
  | _, [] => []
  | skip + 1, _ :: rest => unescapeFrom inTable skip rest
  | 0, '\\' :: rest =>
    match rest with
    | [] => ['\\']
    | c :: more =>
      if inTable ∧ c = '\\' ∧ more.head? = some '|' then unescapeFrom inTable 1 rest
      else if Text.isAsciiPunctuation c then c :: unescapeFrom inTable 1 rest
      else '\\' :: unescapeFrom inTable 0 rest
  | 0, '\r' :: rest => unescapeFrom inTable 0 rest
  | 0, c :: rest =>
    match Entity.scan (c :: rest) with
    | some (length, value) => value ++ unescapeFrom inTable (length - 1) rest
    | none => c :: unescapeFrom inTable 0 rest

/-- The text that a run of characters stands for. -/
def unescape (inTable : Bool) (cs : List Char) : String := String.ofList (unescapeFrom inTable 0 cs)

/-! ## Destinations -/

/-- A destination up to its closing angle bracket, on one line, with what follows the bracket. -/
def pointedDestination? : List Char → Option (List Char × List Char)
  | [] => none
  | '>' :: rest => some ([], rest)
  | '\\' :: c :: rest =>
    if Text.isAsciiPunctuation c then
      (pointedDestination? rest).map fun (text, rest) => ('\\' :: c :: text, rest)
    else (pointedDestination? (c :: rest)).map fun (text, rest) => ('\\' :: text, rest)
  | c :: rest =>
    if c = '\n' ∨ c = '\r' ∨ c = '<' then none
    else (pointedDestination? rest).map fun (text, rest) => (c :: text, rest)

/-- How deep parentheses may be nested in a destination. -/
def parenthesisLimit : Nat := 32

/-- A destination up to white space, to a control character or to a closing parenthesis that it does
not open, when `depth` parentheses are open. -/
def bareDestination? (depth : Nat) : List Char → Option (List Char × List Char)
  | [] => if depth = 0 then some ([], []) else none
  | '\\' :: c :: rest =>
    if Text.isAsciiPunctuation c then
      (bareDestination? depth rest).map fun (text, rest) => ('\\' :: c :: text, rest)
    else (bareDestination? depth (c :: rest)).map fun (text, rest) => ('\\' :: text, rest)
  | c :: rest =>
    if c.toNat ≤ 0x20 then if depth = 0 then some ([], c :: rest) else none
    else if c = '(' then
      if parenthesisLimit < depth then none
      else (bareDestination? (depth + 1) rest).map fun (text, rest) => (c :: text, rest)
    else if c = ')' then
      match depth with
      | 0 => some ([], c :: rest)
      | depth + 1 => (bareDestination? depth rest).map fun (text, rest) => (c :: text, rest)
    else (bareDestination? depth rest).map fun (text, rest) => (c :: text, rest)

/-- A destination as written, without angle brackets around it, and what follows it. -/
def destination? : List Char → Option (List Char × List Char)
  | '<' :: rest => pointedDestination? rest
  | cs => bareDestination? 0 cs

/-! ## Titles -/

/-- The mark that closes a title with a given opening mark. -/
def closingMark? : Char → Option Char
  | '"' => some '"'
  | '\'' => some '\''
  | '(' => some ')'
  | _ => none

/-- A link's title up to its closing mark: the text that it stands for, and what follows it. On later
lines of the title margins and blanks are left out. -/
def titleRest? (inTable : Bool) (containers : List Container) (opening closing : Char) :
    Nat → List Char → Option (List Char × List Char)
  | 0, _ => none
  | fuel + 1, cs =>
    let more (text rest : List Char) :=
      (titleRest? inTable containers opening closing fuel rest).map fun (t, r) => (text ++ t, r)
    match cs with
    | [] => none
    | c :: rest =>
      if c = closing then some ([], rest)
      else if c = opening then none
      else if c = '\n' ∨ c = '\r' ∧ rest.head? ≠ some '\n' then
        more ['\n'] (Container.margin containers rest).skipBlanks.rest
      else
        match Entity.scan cs with
        | some (length, value) => more value (cs.drop length)
        | none =>
          match c, rest with
          | '\\', '\\' :: '|' :: after =>
            if inTable then more ['|'] after else more ['\\'] ('|' :: after)
          | '\\', d :: after =>
            if Text.isAsciiPunctuation d then more [d] after else more ['\\'] rest
          | _, _ => more [c] rest

/-- A link's title: the text that it stands for, and what follows it. -/
def title? (inTable : Bool) (containers : List Container) : List Char → Option (String × List Char)
  | [] => none
  | opening :: rest => do
    let closing ← closingMark? opening
    let (text, rest) ← titleRest? inTable containers opening closing (rest.length + 1) rest
    return (String.ofList text, rest)

/-- A definition's title as written, up to its closing mark, and what follows it. The function takes
the rest of a line end to the text of the next line, if that belongs to the definition. -/
def rawTitleRest? (nextLine : List Char → Option (List Char)) (closing : Char) :
    Nat → List Char → Option (List Char × List Char)
  | 0, _ => none
  | fuel + 1, cs =>
    let more (text rest : List Char) :=
      (rawTitleRest? nextLine closing fuel rest).map fun (t, r) => (text ++ t, r)
    match cs with
    | [] => none
    | '\\' :: d :: rest => more ['\\', d] rest
    | c :: rest =>
      if c = closing then some ([], rest)
      else if c = '\n' then (nextLine rest).bind (more ['\n'])
      else more [c] rest

/-- A definition's title as written, and what follows it. -/
def rawTitle? (nextLine : List Char → Option (List Char)) :
    List Char → Option (List Char × List Char)
  | [] => none
  | opening :: rest => do
    let closing ← closingMark? opening
    rawTitleRest? nextLine closing (rest.length + 1) rest

/-! ## Labels -/

/-- White space in a label, with at most one line end, and what follows it. -/
def labelSpace? (nextLine : List Char → Option (List Char)) (ended : Bool) :
    Nat → List Char → Option (List Char)
  | 0, _ => none
  | fuel + 1, cs =>
    let rest := cs.drop (countWhile isGap cs)
    match lineEnd? rest with
    | some (n + 1) =>
      if ended then none
      else (nextLine (rest.drop (n + 1))).bind (labelSpace? nextLine true fuel)
    | _ => some rest

/-- A label has less than so many characters. -/
def labelLimit : Nat := 1000

/-- A label up to its closing bracket, and what follows it; `count` characters come before, and
`visible` says whether one of them is no white space. -/
def labelRest? (inTable : Bool) (nextLine : List Char → Option (List Char)) (visible : Bool) :
    Nat → Nat → List Char → Option (List Char × List Char)
  | 0, _, _ => none
  | fuel + 1, count, cs =>
    let more (visible : Bool) (length : Nat) (text rest : List Char) :=
      (labelRest? inTable nextLine visible fuel (count + length) rest).map fun (t, r) =>
        (text ++ t, r)
    if labelLimit ≤ count then none
    else
      match cs with
      | [] => none
      | '[' :: _ => none
      | ']' :: rest => if visible then some ([], rest) else none
      | '\\' :: c :: rest =>
        if inTable ∧ c = '|' then more true 2 ['|'] rest else more true 2 ['\\', c] rest
      | c :: rest =>
        if isSpace c then
          match labelSpace? nextLine false (cs.length + 1) cs with
          | some after => more visible (cs.length - after.length) [' '] after
          | none => none
        else more true 1 [c] rest

/-- A label without the white space at its ends. -/
def trimLabel (text : List Char) : List Char :=
  let isOuter (c : Char) : Bool := c == ' ' || c == '\t' || c == '\n' || c == '\r'
  ((text.dropWhile isOuter).reverse.dropWhile isOuter).reverse

/-- A label after its opening bracket, with white space collapsed, and what follows it. -/
def label? (inTable : Bool) (nextLine : List Char → Option (List Char)) (cs : List Char) :
    Option (String × List Char) :=
  (labelRest? inTable nextLine false (labelLimit + 1) 0 cs).map fun (text, rest) =>
    (String.ofList (trimLabel text), rest)

end MarkdownHtml.Markdown
