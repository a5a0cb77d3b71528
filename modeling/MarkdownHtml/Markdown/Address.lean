import MarkdownHtml.Event.Tag

/-!
# Addresses in angle brackets

An absolute address or a mail address between `<` and `>` is a link to itself.
-/

namespace MarkdownHtml.Markdown

/-- An absolute address after its `<`: a scheme of 2 to 32 characters, a colon, and anything but white
space, control characters and angle brackets up to the `>`. -/
def absoluteAddress? (cs : List Char) : Option (List Char) :=
  match cs with
  | [] => none
  | c :: _ =>
    let scheme := cs.takeWhile fun c => c.isAlphanum || c == '.' || c == '-' || c == '+'
    if c.isAlpha ∧ 2 ≤ scheme.length ∧ scheme.length ≤ 32 ∧ cs[scheme.length]? = some ':' then
      let address := cs.takeWhile fun c => c != '>' && c != '<' && 0x20 < c.toNat
      if cs[address.length]? = some '>' then some address else none
    else none

/-- The characters before the `@` of a mail address. -/
def isMailChar (c : Char) : Bool :=
  c.isAlphanum || [
    '.', '!', '#', '$', '%', '&', '\'', '*', '+', '/', '=', '?', '^', '_', '\x60', '\x7B', '|',
    '\x7D', '~', '-'].contains c

/-- A part of a mail address between dots: letters, digits and hyphens, no hyphen at either end. -/
def isMailLabel (label : List Char) : Bool :=
  !label.isEmpty && label.length ≤ 63 && label.head? != some '-' && label.getLast? != some '-'

/-- The length of a host name at the beginning: parts with dots between them. -/
def hostLength? : Nat → List Char → Option Nat
  | 0, _ => none
  | fuel + 1, cs =>
    let label := cs.takeWhile fun c => c.isAlphanum || c == '-'
    if isMailLabel label then
      match cs.drop label.length with
      | '.' :: rest => (hostLength? fuel rest).map (label.length + 1 + ·)
      | _ => some label.length
    else none

/-- A mail address after its `<`. -/
def mailAddress? (cs : List Char) : Option (List Char) :=
  let user := cs.takeWhile isMailChar
  match user, cs.drop user.length with
  | _ :: _, '@' :: host =>
    match hostLength? (host.length + 1) host with
    | some length =>
      if host[length]? = some '>' then some (cs.take (user.length + 1 + length)) else none
    | none => none
  | _, _ => none

/-- The address after a `<`, and how it is written. -/
def address? (cs : List Char) : Option (LinkKind × List Char) :=
  match absoluteAddress? cs with
  | some address => some (.autolink, address)
  | none => (mailAddress? cs).map (.email, ·)

end MarkdownHtml.Markdown
