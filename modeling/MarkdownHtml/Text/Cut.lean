import MarkdownHtml.Text.Blank

/-!
# Cutting text at byte offsets and at line ends

Source positions are offsets into the UTF-8 form of a text. `splitAtByte?` cuts a run of characters
at such an offset and fails where no character starts; `blankLinesBetween` counts the blank lines
that lie wholly between two offsets.
-/

namespace MarkdownHtml.Text

/-- Splits a run of characters at a byte offset of its UTF-8 form. There is no split past the end
or inside a character. -/
def splitAtByte? : List Char → Nat → Option (List Char × List Char)
  | cs, 0 => some ([], cs)
  | [], _ + 1 => none
  | c :: cs, n + 1 =>
    if c.utf8Size ≤ n + 1 then
      (splitAtByte? cs (n + 1 - c.utf8Size)).map fun (before, after) => (c :: before, after)
    else none

/-- The two parts of a split make up the whole. -/
theorem append_of_splitAtByte? {cs before after : List Char} {n : Nat}
    (h : splitAtByte? cs n = some (before, after)) : before ++ after = cs := by
  induction cs generalizing n before after with
  | nil => cases n <;> simp_all [splitAtByte?]
  | cons c cs ih =>
    cases n with
    | zero => simp_all [splitAtByte?]
    | succ n =>
      simp only [splitAtByte?] at h
      split at h
      · obtain ⟨⟨b, a⟩, hba, heq⟩ := Option.map_eq_some_iff.1 h
        simp only [Prod.mk.injEq] at heq
        obtain ⟨rfl, rfl⟩ := heq
        simp [ih hba]
      · simp at h

/-- The lines of a run of characters that a newline ends, without the newline. What stands after
the last newline is no complete line. -/
def completeLines : List Char → List (List Char)
  | [] => []
  | c :: cs =>
    if c = '\n' then [] :: completeLines cs
    else match completeLines cs with
      | [] => []
      | line :: lines => (c :: line) :: lines

/-- How many blank lines of the source lie wholly inside the byte range. The part of a line that
stands before the range's start belongs to what ends there, so a first line that the range does not
hold from its beginning does not count; neither does a last line without a newline. A range that is
reversed, that leaves the source or that cuts a character holds no line. -/
def blankLinesBetween (source : String) (start stop : Nat) : Nat :=
  match splitAtByte? source.toList stop with
  | none => 0
  | some (upToStop, _) =>
    match splitAtByte? upToStop start with
    | none => 0
    | some (before, gap) =>
      let atLineStart := before.isEmpty || before.getLast? == some '\n'
      ((completeLines gap).drop (if atLineStart then 0 else 1)).countP blank

end MarkdownHtml.Text
