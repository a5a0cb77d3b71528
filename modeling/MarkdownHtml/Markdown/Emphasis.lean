import MarkdownHtml.Event.Basic
import MarkdownHtml.Markdown.Inline

/-!
# Emphasis

Runs of marks pair up into emphasis, strong emphasis and strikethrough. A run that can close looks
for the innermost run before it that matches; what cannot be paired is text. Typewriter quotes turn
into typographic ones on the way.
-/

namespace MarkdownHtml.Markdown

/-- A piece of inline text in which emphasis is still to be found. -/
inductive Atom where
  /-- What is neither a mark nor a quote. -/
  | tree (tree : EventTree)
  | delimiters (mark : Char) (count : Nat) (canOpen canClose : Bool)
  | quote (isDouble canOpen canClose : Bool)
  /-- A line break that a backslash asks for. -/
  | backslashBreak

/-- Text as a leaf; the span is that of the block around it. -/
def textLeaf (span : Span) (text : List Char) : EventTree := .leaf (.text (String.ofList text)) span

/-! ## Quotes -/

/-- Quotes that are looked at from left to right. -/
structure Quoting where
  /-- The atoms before the single quote that may open, or all atoms if there is none; newest first. -/
  before : List Atom
  /-- The atoms after the single quote that may open. -/
  quoted : Option (List Atom)
  /-- Whether a double quote is open. -/
  inDouble : Bool

namespace Quoting

/-- Adds an atom. -/
def add (q : Quoting) (atom : Atom) : Quoting :=
  match q.quoted with
  | none => { q with before := atom :: q.before }
  | some quoted => { q with quoted := some (atom :: quoted) }

/-- All atoms, the open single quote closed by the given atoms in front. -/
def join (q : Quoting) (opening : Atom) : List Atom :=
  match q.quoted with
  | none => q.before
  | some quoted => quoted ++ opening :: q.before

/-- Takes an atom. A single quote becomes an opening one when another closes it, otherwise it is an
apostrophe; double quotes open and close in turn. -/
def step (span : Span) (q : Quoting) (atom : Atom) : Quoting :=
  let char (c : Char) : Atom := .tree (textLeaf span [c])
  match atom with
  | .quote false canOpen canClose =>
    if q.quoted.isSome ∧ canClose then
      { q with before := char '’' :: q.join (char '‘'), quoted := none }
    else if canOpen then { q with before := q.join (char '’'), quoted := some [] }
    else q.add (char '’')
  | .quote true canOpen canClose =>
    if canClose ∧ q.inDouble then { q.add (char '”') with inDouble := false }
    else { q.add (char '“') with inDouble := q.inDouble || canOpen }
  | atom => q.add atom

end Quoting

/-- The atoms with typographic quotes. -/
def withQuotes (span : Span) (atoms : List Atom) : List Atom :=
  ((atoms.foldl (Quoting.step span) ⟨[], none, false⟩).join
    (.tree (textLeaf span ['’']))).reverse

/-! ## Pairing -/

/-- A run of marks that may open emphasis. -/
structure Opener where
  mark : Char
  /-- How many of its marks are left. -/
  count : Nat
  /-- How many marks the run had. -/
  runLength : Nat
  /-- Whether it can also close. -/
  both : Bool
  /-- What stands before it, since the opener before it; newest first. -/
  before : List EventTree

/-- Marks as text. -/
def Opener.text (span : Span) (o : Opener) : EventTree :=
  textLeaf span (List.replicate o.count o.mark)

/-- Whether a run of marks that closes matches an opener. Of two runs that can both open and close, or
one of which can, the lengths must not add up to a multiple of three, unless both are multiples of
three. Tildes match runs of the same length. -/
def Opener.matches (o : Opener) (mark : Char) (runLength : Nat) (both : Bool) : Bool :=
  o.mark == mark &&
    if mark == '~' then o.runLength == runLength
    else (!both && !o.both) || (runLength + o.runLength) % 3 != 0 || runLength % 3 == 0

/-- Inline text while emphasis is found in it. -/
structure Pairing where
  /-- The openers, innermost first. -/
  openers : List Opener
  /-- What stands after the innermost opener, newest first. -/
  trees : List EventTree
  /-- How many of the outermost openers tildes cannot match any more, since some tildes before could
  not. -/
  tildeFloor : Nat

namespace Pairing

/-- Makes text of the innermost openers. -/
def dropOpeners (span : Span) : Nat → Pairing → Pairing
  | count + 1, ⟨o :: rest, trees, floor⟩ =>
    dropOpeners span count ⟨rest, trees ++ o.text span :: o.before, floor⟩
  | _, p => p

/-- Emphasis by a number of marks: as often strong as there are pairs of marks, innermost. -/
def wrap (span : Span) (mark : Char) : Nat → List EventTree → List EventTree
  | count + 2, trees =>
    let tag : Tag := if mark = '~' then .strikethrough else .strong
    wrap span mark count [.element tag span trees span]
  | 1, trees =>
    let tag : Tag := if mark = '~' then .strikethrough else .emphasis
    [.element tag span trees span]
  | 0, trees => trees

/-- The number of openers inside the innermost one that matches. -/
def matching? (p : Pairing) (mark : Char) (runLength : Nat) (both : Bool) : Option Nat :=
  let floor := if mark = '~' then p.tildeFloor else 0
  (p.openers.take (p.openers.length - floor)).findIdx? (·.matches mark runLength both)

/-- Closes emphasis by marks of a run, as long as openers match; says how many marks are left. -/
def close (span : Span) (mark : Char) (runLength : Nat) (both : Bool) :
    Nat → Nat → Pairing → Pairing × Nat
  | 0, count, p => (p, count)
  | fuel + 1, count, p =>
    match p.matching? mark runLength both with
    | none =>
      (if mark = '~' then { p with tildeFloor := p.openers.length } else p, count)
    | some inner =>
      let p := p.dropOpeners span inner
      match p.openers with
      | [] => (p, count)
      | o :: rest =>
        let paired := min count o.count
        let wrapped := wrap span mark paired p.trees.reverse
        let floor := min p.tildeFloor rest.length
        let p : Pairing :=
          if paired < o.count then
            ⟨{ o with count := o.count - paired } :: rest, wrapped.reverse, floor⟩
          else ⟨rest, wrapped.reverse ++ o.before, floor⟩
        if paired < count then close span mark runLength both fuel (count - paired) p else (p, 0)

/-- Takes an atom. -/
def step (span : Span) (p : Pairing) : Atom → Pairing
  | .tree tree => { p with trees := tree :: p.trees }
  | .backslashBreak => { p with trees := .leaf .hardBreak span :: p.trees }
  | .quote _ _ _ => p
  | .delimiters mark runLength canOpen canClose =>
    let both := canOpen && canClose
    let (p, count) :=
      if canClose then close span mark runLength both runLength runLength p else (p, runLength)
    if count = 0 then p
    else if canOpen then
      { p with openers := ⟨mark, count, runLength, both, p.trees⟩ :: p.openers, trees := [] }
    else { p with trees := textLeaf span (List.replicate count mark) :: p.trees }

end Pairing

/-- Whether an atom may be markup: a run of marks or a typewriter quote. -/
def Atom.mayBeMarkup : Atom → Bool
  | .delimiters _ _ _ _ | .quote _ _ _ => true
  | _ => false

/-- In a row with marks or quotes, a backslash at the very end breaks no line and is text. -/
def withFinalBackslash (span : Span) (atoms : List Atom) : List Atom :=
  match atoms.getLast? with
  | some .backslashBreak =>
    if atoms.any Atom.mayBeMarkup then atoms.dropLast ++ [.tree (textLeaf span ['\\'])] else atoms
  | _ => atoms

/-- Finds the emphasis in a row of atoms. -/
def pairUp (span : Span) (atoms : List Atom) : List EventTree :=
  let atoms := withQuotes span (withFinalBackslash span atoms)
  let p := atoms.foldl (Pairing.step span) ⟨[], [], 0⟩
  (p.dropOpeners span p.openers.length).trees.reverse

mutual

/-- The atom of a piece. Emphasis inside a link is found there. -/
def Piece.atom (span : Span) : Piece → Atom
  | .text cs => .tree (textLeaf span cs)
  | .delimiters mark count canOpen canClose => .delimiters mark count canOpen canClose
  | .quote isDouble canOpen canClose => .quote isDouble canOpen canClose
  | .code cs => .tree (.leaf (.code (String.ofList cs)) span)
  | .html cs => .tree (.leaf (.inlineHtml (String.ofList cs)) span)
  | .link tag children => .tree (.element tag span (pairUp span (Piece.atoms span children)) span)
  | .softBreak => .tree (.leaf .softBreak span)
  | .hardBreak false => .tree (.leaf .hardBreak span)
  | .hardBreak true => .backslashBreak

/-- The atoms of pieces. -/
def Piece.atoms (span : Span) : List Piece → List Atom
  | [] => []
  | piece :: rest => piece.atom span :: Piece.atoms span rest

end

/-- The events of inline text; their span is that of the block. -/
def InlineBlock.events (b : InlineBlock) (span : Span) (tokens : List Token) : List EventTree :=
  pairUp span (Piece.atoms span (b.resolve tokens))

end MarkdownHtml.Markdown
