import MarkdownHtml.Json.Value

/-!
# Reading JSON

A reader for JSON texts. Each function takes the characters that are left and returns what it read
with the rest, or nothing where the text is no JSON. `Json.read?` reads a whole text.
-/

namespace MarkdownHtml.Json

/-- Skips white space. -/
def skipSpace (cs : List Char) : List Char :=
  cs.dropWhile fun c => c == ' ' || c == '\n' || c == '\t' || c == '\r'

/-- The value of a hexadecimal digit. -/
def hexValue? (c : Char) : Option Nat :=
  if c.isDigit then some (c.toNat - '0'.toNat)
  else if 'a' ≤ c ∧ c ≤ 'f' then some (c.toNat - 'a'.toNat + 10)
  else if 'A' ≤ c ∧ c ≤ 'F' then some (c.toNat - 'A'.toNat + 10)
  else none

/-- The code unit that four hexadecimal digits write. -/
def unit? (a b c d : Char) : Option Nat := do
  return ((← hexValue? a) * 16 + (← hexValue? b)) * 256 + (← hexValue? c) * 16 + (← hexValue? d)

/-- The character that a backslash and a letter stand for. -/
def escaped? : Char → Option Char
  | '"' => some '"'
  | '\\' => some '\\'
  | '/' => some '/'
  | 'b' => some '\x08'
  | 'f' => some '\x0C'
  | 'n' => some '\n'
  | 'r' => some '\r'
  | 't' => some '\t'
  | _ => none

/-- Whether a code unit is the first of a pair. -/
def isHigh (unit : Nat) : Bool := 0xD800 ≤ unit && unit < 0xDC00

/-- Whether a code unit is the second of a pair. -/
def isLow (unit : Nat) : Bool := 0xDC00 ≤ unit && unit < 0xE000

/-- The character of a pair of code units. -/
def paired (high low : Nat) : Char :=
  Char.ofNat (0x10000 + (high - 0xD800) * 0x400 + (low - 0xDC00))

/-- Puts a character in front of the text that was read, if that stands for a text at all. -/
def consChar (c : Char) : Option (List Char) × List Char → Option (List Char) × List Char
  | (content, rest) => (content.map (c :: ·), rest)

/-- The second code unit of a pair, if it is next, with the shorter rest. -/
def partner? (cs : List Char) : Option (Nat × { rest : List Char // rest.length ≤ cs.length }) :=
  match cs with
  | '\\' :: 'u' :: a :: b :: c :: d :: rest =>
    match unit? a b c d with
    | some unit => if isLow unit then some (unit, ⟨rest, by simp; omega⟩) else none
    | none => none
  | _ => none

/-- The rest of a string after its opening quote. Without a partner for each surrogate it stands for
no text. -/
def string? : List Char → Option (Option (List Char) × List Char)
  | '"' :: rest => some (some [], rest)
  | '\\' :: 'u' :: a :: b :: c :: d :: rest => do
    let unit ← unit? a b c d
    if isHigh unit then
      match partner? rest with
      | some (low, ⟨after, _⟩) => (string? after).map (consChar (paired unit low))
      | none => (string? rest).map fun (_, rest) => (none, rest)
    else if isLow unit then (string? rest).map fun (_, rest) => (none, rest)
    else (string? rest).map (consChar (Char.ofNat unit))
  | '\\' :: letter :: rest => do
    let c ← escaped? letter
    (string? rest).map (consChar c)
  | c :: rest => if c.toNat < 0x20 ∨ c = '\\' then none else (string? rest).map (consChar c)
  | [] => none
termination_by cs => cs.length

/-- The digits at the beginning, at least one of them. -/
def digits? (cs : List Char) : Option (List Char × List Char) :=
  match cs.takeWhile Char.isDigit with
  | [] => none
  | ds => some (ds, cs.drop ds.length)

/-- Skips a fraction, if one is next. -/
def skipFraction? : List Char → Option (List Char)
  | '.' :: rest => (digits? rest).map Prod.snd
  | cs => some cs

/-- Skips an exponent, if one is next. -/
def skipExponent? : List Char → Option (List Char)
  | e :: rest =>
    if e = 'e' ∨ e = 'E' then
      match rest with
      | '+' :: rest | '-' :: rest => (digits? rest).map Prod.snd
      | rest => (digits? rest).map Prod.snd
    else some (e :: rest)
  | [] => some []

/-- A number. The whole part has no needless zero in front. -/
def number? (cs : List Char) : Option (Json × List Char) := do
  let (negative, cs) := match cs with
    | '-' :: rest => (true, rest)
    | cs => (false, cs)
  let (ds, rest) ← digits? cs
  if ds.head? = some '0' ∧ ds.length ≠ 1 then none
  else
    let after ← skipExponent? (← skipFraction? rest)
    if negative ∨ after.length ≠ rest.length then some (foreign, after)
    else some (natural (ds.foldl (fun n c => 10 * n + (c.toNat - '0'.toNat)) 0), after)

/-- An object with members whose names may stand for no text. -/
def ofMembers (members : List (Option (List Char) × Json)) : Json :=
  match members.mapM fun (name, value) => name.map fun name => (String.ofList name, value) with
  | some members => object members
  | none => foreign

mutual

/-- A value, with white space before it. -/
def value? : Nat → List Char → Option (Json × List Char)
  | 0, _ => none
  | fuel + 1, cs =>
    match skipSpace cs with
    | 'n' :: 'u' :: 'l' :: 'l' :: rest => some (null, rest)
    | 't' :: 'r' :: 'u' :: 'e' :: rest => some (boolean true, rest)
    | 'f' :: 'a' :: 'l' :: 's' :: 'e' :: rest => some (boolean false, rest)
    | '"' :: rest =>
      (string? rest).map fun (content, rest) =>
        (content.elim foreign fun content => text (String.ofList content), rest)
    | '[' :: rest =>
      match skipSpace rest with
      | ']' :: rest => some (array [], rest)
      | rest => (elements? fuel rest).map fun (elements, rest) => (array elements, rest)
    | '{' :: rest =>
      match skipSpace rest with
      | '}' :: rest => some (object [], rest)
      | rest => (members? fuel rest).map fun (members, rest) => (ofMembers members, rest)
    | cs => number? cs

/-- The elements of an array up to its closing bracket. -/
def elements? : Nat → List Char → Option (List Json × List Char)
  | 0, _ => none
  | fuel + 1, cs => do
    let (first, rest) ← value? fuel cs
    match skipSpace rest with
    | ',' :: rest =>
      let (more, rest) ← elements? fuel rest
      some (first :: more, rest)
    | ']' :: rest => some ([first], rest)
    | _ => none

/-- The members of an object up to its closing brace. -/
def members? : Nat → List Char → Option (List (Option (List Char) × Json) × List Char)
  | 0, _ => none
  | fuel + 1, cs =>
    match skipSpace cs with
    | '"' :: rest => do
      let (name, rest) ← string? rest
      match skipSpace rest with
      | ':' :: rest =>
        let (value, rest) ← value? fuel rest
        match skipSpace rest with
        | ',' :: rest =>
          let (more, rest) ← members? fuel rest
          some ((name, value) :: more, rest)
        | '}' :: rest => some ([(name, value)], rest)
        | _ => none
      | _ => none
    | _ => none

end

/-- The value of a JSON text. -/
def read? (content : String) : Option Json :=
  let cs := content.toList
  match value? (2 * cs.length + 2) cs with
  | some (value, rest) => if (skipSpace rest).isEmpty then some value else none
  | none => none

end MarkdownHtml.Json
