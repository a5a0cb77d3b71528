/-!
# Tables of code points

Data about characters is written as rows of text: words in hexadecimal, with `-` between the ends of
a range or the members of a sequence and `=` between a key and what belongs to it. The readers here
turn such rows into ranges and maps.
-/

namespace MarkdownHtml.CodePoint

/-- The value of a hexadecimal digit with upper-case letters. -/
def digit (c : Char) : Nat :=
  if c.isDigit then c.toNat - '0'.toNat else c.toNat - 'A'.toNat + 10

/-- The number that upper-case hexadecimal digits write. -/
def number (digits : List Char) : Nat := digits.foldl (fun n c => 16 * n + digit c) 0

/-- The pieces of a run of characters between separators. -/
def pieces (separator : Char) : List Char → List (List Char)
  | [] => [[]]
  | c :: cs =>
    if c = separator then [] :: pieces separator cs
    else match pieces separator cs with
      | [] => [[c]]
      | piece :: rest => (c :: piece) :: rest

/-- The words of the rows. -/
def words (rows : List String) : List (List Char) := rows.flatMap fun row => pieces ' ' row.toList

/-- The range that a word writes: its two ends, or one code point alone. -/
def range (word : List Char) : Nat × Nat :=
  match pieces '-' word with
  | [low, high] => (number low, number high)
  | _ => (number word, number word)

/-- The ranges that the rows write. -/
def ranges (rows : List String) : List (Nat × Nat) := (words rows).map range

/-- The characters that a word writes one after the other. -/
def sequence (word : List Char) : List Char := (pieces '-' word).map fun d => Char.ofNat (number d)

/-- The key and the characters that belong to it, from each word of the rows. -/
def entries (rows : List String) : List (List Char × List Char) :=
  (words rows).map fun word =>
    (word.takeWhile (· != '='), sequence ((word.dropWhile (· != '=')).drop 1))

/-- Whether a character lies in one of some ranges. -/
def inRanges (table : List (Nat × Nat)) (c : Char) : Bool :=
  table.any fun (low, high) => low ≤ c.toNat && c.toNat ≤ high

end MarkdownHtml.CodePoint
