/-!
# Texts between marks

A stream of texts and marks says the same however its texts are cut up. `Piece.joined` puts adjacent
texts together and drops empty ones; `Piece.letters` takes the texts apart into characters. Streams
with the same letters are joined to the same pieces (`joined_eq_of_letters`), and letters follow
concatenation, so that facts about joined streams are proved letter by letter.
-/

namespace MarkdownHtml

/-- A text, or a mark that stands between texts. -/
inductive Piece (α : Type) where
  | text (text : String)
  | mark (mark : α)
deriving DecidableEq, Repr

namespace Piece

variable {α : Type}

/-- Puts a text in front of pieces: it joins a text that stands first. -/
def prepend (t : String) : List (Piece α) → List (Piece α)
  | text u :: more => text (t ++ u) :: more
  | pieces => text t :: pieces

/-- Puts adjacent texts together and drops empty texts. -/
def joined : List (Piece α) → List (Piece α)
  | [] => []
  | mark a :: rest => mark a :: joined rest
  | text t :: rest => if t.isEmpty then joined rest else prepend t (joined rest)

/-- The characters and the marks of a piece. -/
def lettersOf : Piece α → List (Char ⊕ α)
  | text t => t.toList.map .inl
  | mark a => [.inr a]

/-- The characters and the marks of a stream. -/
def letters (pieces : List (Piece α)) : List (Char ⊕ α) := pieces.flatMap lettersOf

/-- The marks of a stream. -/
def marks (pieces : List (Piece α)) : List α :=
  (letters pieces).filterMap Sum.getRight?

@[simp] theorem letters_nil : letters ([] : List (Piece α)) = [] := rfl

@[simp] theorem letters_append (first second : List (Piece α)) :
    letters (first ++ second) = letters first ++ letters second :=
  List.flatMap_append

@[simp] theorem letters_text_cons (t : String) (rest : List (Piece α)) :
    letters (text t :: rest) = t.toList.map .inl ++ letters rest := rfl

@[simp] theorem letters_mark_cons (a : α) (rest : List (Piece α)) :
    letters (mark a :: rest) = .inr a :: letters rest := rfl

@[simp] theorem marks_nil : marks ([] : List (Piece α)) = [] := rfl

@[simp] theorem marks_append (first second : List (Piece α)) :
    marks (first ++ second) = marks first ++ marks second := by
  rw [marks, letters_append, List.filterMap_append]
  rfl

@[simp] theorem marks_text_cons (t : String) (rest : List (Piece α)) :
    marks (text t :: rest) = marks rest := by
  have hnone : (t.toList.map Sum.inl).filterMap (Sum.getRight? (β := α)) = [] := by
    rw [List.filterMap_eq_nil_iff]
    intro letter hletter
    obtain ⟨c, -, rfl⟩ := List.mem_map.1 hletter
    rfl
  rw [marks, letters_text_cons, List.filterMap_append, hnone, List.nil_append]
  rfl

@[simp] theorem marks_mark_cons (a : α) (rest : List (Piece α)) :
    marks (mark a :: rest) = a :: marks rest := rfl

private theorem prepend_prepend (t u : String) (pieces : List (Piece α)) :
    prepend t (prepend u pieces) = prepend (t ++ u) pieces := by
  rcases pieces with _ | ⟨⟨v⟩ | ⟨a⟩, more⟩ <;> simp [prepend, String.append_assoc]

/-- The pieces that letters make up, with a text for each maximal run of characters. -/
private def ofLetters : List (Char ⊕ α) → List (Piece α)
  | [] => []
  | .inr a :: rest => mark a :: ofLetters rest
  | .inl c :: rest => prepend (String.singleton c) (ofLetters rest)

/-- A non-empty run of characters is one text. -/
private theorem ofLetters_map_inl (cs : List Char) (hne : cs ≠ []) (rest : List (Char ⊕ α)) :
    ofLetters (cs.map .inl ++ rest) = prepend (String.ofList cs) (ofLetters rest) := by
  induction cs with
  | nil => exact absurd rfl hne
  | cons c cs ih =>
    have hcons : String.ofList (c :: cs) = String.singleton c ++ String.ofList cs := by
      apply String.toList_inj.1
      simp
    by_cases hnil : cs = []
    · subst hnil
      rfl
    · rw [List.map_cons, List.cons_append, ofLetters, ih hnil, prepend_prepend, hcons]

/-- Joining depends on the letters alone. -/
private theorem joined_eq_ofLetters (pieces : List (Piece α)) :
    joined pieces = ofLetters (letters pieces) := by
  induction pieces with
  | nil => rfl
  | cons piece rest ih =>
    cases piece with
    | mark a => rw [joined, letters_mark_cons, ofLetters, ih]
    | text t =>
      rw [joined, letters_text_cons, ih]
      by_cases hnil : t.toList = []
      · simp [String.toList_eq_nil_iff.1 hnil]
      · have hempty : t ≠ "" := fun heq => hnil (by simp [heq])
        rw [ofLetters_map_inl _ hnil, String.ofList_toList]
        simp [hempty]

/-- Streams with the same letters are joined to the same pieces. -/
theorem joined_eq_of_letters {first second : List (Piece α)}
    (h : letters first = letters second) : joined first = joined second := by
  rw [joined_eq_ofLetters, joined_eq_ofLetters, h]

end Piece

end MarkdownHtml
