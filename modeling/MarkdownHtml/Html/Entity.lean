import MarkdownHtml.Html.EntityTable
import MarkdownHtml.Text.CodePoint
import Std.Data.HashMap

/-!
# Character references

`&name;`, `&#decimal;` and `&#xhex;` stand for characters. `Entity.scan` reads the reference at the
beginning of a run of characters.
-/

namespace MarkdownHtml.Entity

/-- The characters of the named references. -/
def names : Std.HashMap String (List Char) :=
  Std.HashMap.ofList ((CodePoint.entries rows).map fun (key, value) => (String.ofList key, value))

/-- The character of a code point. Zero and what is no code point of a character are replaced by
U+FFFD. -/
def charOf (codePoint : Nat) : Char :=
  if codePoint ≠ 0 ∧ codePoint.isValidChar then Char.ofNat codePoint else '\uFFFD'

/-- Whether a character is a hexadecimal digit, in either case. -/
def isHexDigit (c : Char) : Bool :=
  c.isDigit || ('a' ≤ c && c ≤ 'f') || ('A' ≤ c && c ≤ 'F')

/-- The value of a digit of either case. -/
def digitValue (c : Char) : Nat := CodePoint.digit c.toUpper

/-- A number at the beginning of a run of characters: at most `most` digits of the base, with their
count. -/
def scanDigits (isDigit : Char → Bool) (base most : Nat) (cs : List Char) : Nat × Nat :=
  let digits := (cs.take most).takeWhile isDigit
  (digits.length, digits.foldl (fun n c => base * n + digitValue c) 0)

/-- A numeric reference after its `&#`: how many characters it takes, its semicolon included, and
the code point. -/
def scanNumber : List Char → Option (Nat × Nat)
  | x :: rest =>
    let (lead, count, value) :=
      if x = 'x' ∨ x = 'X' then (1, scanDigits isHexDigit 16 6 rest)
      else (0, scanDigits Char.isDigit 10 7 (x :: rest))
    if count ≠ 0 ∧ (x :: rest)[lead + count]? = some ';' then some (lead + count + 1, value)
    else none
  | [] => none

/-- The character reference at the beginning of a run of characters: how many characters it takes
and what it stands for. -/
def scan : List Char → Option (Nat × List Char)
  | '&' :: '#' :: rest => (scanNumber rest).map fun (taken, value) => (taken + 2, [charOf value])
  | '&' :: rest =>
    let name := rest.takeWhile Char.isAlphanum
    if rest[name.length]? = some ';' then
      names[String.ofList name]?.map fun value => (name.length + 2, value)
    else none
  | _ => none

end MarkdownHtml.Entity
