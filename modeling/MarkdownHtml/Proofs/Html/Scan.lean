import Mathlib.Data.List.Forall2
import MarkdownHtml.Document.Html
import MarkdownHtml.Proofs.Html.Escape
import MarkdownHtml.Proofs.Text.Piece

/-!
# Scanning HTML

`Html.scan` is a plain tokenizer: a text runs up to the next `<`, a tag from there to the next `>`,
attributes are written `name="value"`, and entities are decoded in texts and in values. Nothing in
it knows what was written into the HTML. `Html.Reads` says that a string scans as given tokens
wherever it stands, up to how texts are cut up. The lemmas here show it of texts, start tags, end
tags and elements; `reads_append` puts such strings together.
-/

namespace MarkdownHtml.Html

/-- A tag. -/
inductive TagToken where
  /-- A start tag with its attributes, which may close itself by a slash at its end. -/
  | opening (name : String) (attributes : List (String × String)) (selfClosing : Bool)
  | closing (name : String)
deriving DecidableEq, Repr

/-- A text with its entities decoded, or a tag. -/
abbrev Token := Piece TagToken

/-- What stands before the first occurrence of a character, and what stands behind it. -/
def cut (stop : Char) : List Char → Option (List Char × List Char)
  | [] => none
  | c :: rest =>
    if c = stop then some ([], rest)
    else (cut stop rest).map fun (before, after) => (c :: before, after)

theorem length_of_cut {stop : Char} {cs before after : List Char}
    (h : cut stop cs = some (before, after)) : after.length < cs.length := by
  induction cs generalizing before with
  | nil => cases h
  | cons c cs ih =>
    rw [cut] at h
    split at h
    · cases h
      simp
    · obtain ⟨⟨front, back⟩, hfront, heq⟩ := Option.map_eq_some_iff.1 h
      cases heq
      have := ih hfront
      simp only [List.length_cons]
      omega

/-- Whether characters make a name of a tag or of an attribute. -/
def isName (cs : List Char) : Bool := !cs.isEmpty && cs.all Char.isAlphanum

/-- Reads an attribute behind the blank before it. -/
def readAttribute? (cs : List Char) : Option ((String × String) × List Char) :=
  match cut '=' cs with
  | some (name, '"' :: quoted) =>
    if isName name then
      (cut '"' quoted).map fun (value, rest) =>
        ((String.ofList name, String.ofList (decode value)), rest)
    else none
  | _ => none

theorem length_of_readAttribute? {cs rest : List Char} {pair : String × String}
    (h : readAttribute? cs = some (pair, rest)) : rest.length < cs.length := by
  unfold readAttribute? at h
  split at h
  · rename_i name quoted hname
    split at h
    · obtain ⟨⟨value, after⟩, hvalue, heq⟩ := Option.map_eq_some_iff.1 h
      cases heq
      have hquoted := length_of_cut hname
      have hafter := length_of_cut hvalue
      simp only [List.length_cons] at hquoted
      omega
    · cases h
  · cases h

/-- Reads the attributes of a start tag, each behind a blank, and whether the tag closes itself. -/
def readAttributes? : List Char → Option (List (String × String) × Bool)
  | [] => some ([], false)
  | c :: rest =>
    if c = ' ' then
      match h : readAttribute? rest with
      | some (pair, after) =>
        have := length_of_readAttribute? h
        (readAttributes? after).map fun (attributes, selfClosing) =>
          (pair :: attributes, selfClosing)
      | none => if rest = ['/'] then some ([], true) else none
    else none
termination_by cs => cs.length

/-- Reads what stands between `<` and `>`. -/
def readTag? : List Char → Option TagToken
  | '/' :: name => if isName name then some (.closing (String.ofList name)) else none
  | inside =>
    let name := inside.takeWhile Char.isAlphanum
    if name.isEmpty then none
    else (readAttributes? (inside.dropWhile Char.isAlphanum)).map fun (attributes, selfClosing) =>
      .opening (String.ofList name) attributes selfClosing

/-- Cuts HTML into texts and tags. It fails at a `<` that no `>` follows and at a tag that is not
written as tags are. -/
def scan (cs : List Char) : Option (List Token) :=
  match hrun : cut '<' cs with
  | none => some [.text (String.ofList (decode cs))]
  | some (run, rest) =>
    match hinside : cut '>' rest with
    | none => none
    | some (inside, after) =>
      have := length_of_cut hrun
      have := length_of_cut hinside
      (readTag? inside).bind fun tag =>
        (scan after).map fun tokens => .text (String.ofList (decode run)) :: .mark tag :: tokens
termination_by cs.length

/-! ## One step of the scan -/

/-- Characters without the stop are part of what stands before it. -/
theorem cut_append {stop : Char} {front : List Char} (h : stop ∉ front) (rest : List Char) :
    cut stop (front ++ rest) =
      (cut stop rest).map fun (before, after) => (front ++ before, after) := by
  induction front with
  | nil => simp
  | cons c front ih =>
    rw [List.mem_cons, not_or] at h
    rw [List.cons_append, cut, if_neg (Ne.symm h.1), ih h.2, Option.map_map]
    rfl

theorem cut_append_cons {stop : Char} {front : List Char} (h : stop ∉ front) (rest : List Char) :
    cut stop (front ++ stop :: rest) = some (front, rest) := by
  rw [cut_append h, cut, if_pos rfl]
  simp

theorem not_mem_of_isName {name : List Char} (h : isName name = true) {c : Char}
    (hc : c.isAlphanum = false) : c ∉ name := by
  intro hmem
  rw [isName, Bool.and_eq_true, List.all_eq_true] at h
  rw [h.2 c hmem] at hc
  cases hc

/-- An attribute is read, and then what stands behind it. -/
theorem readAttributes?_cons {name value : List Char} (hname : isName name = true)
    (hvalue : '"' ∉ value) (rest : List Char) :
    readAttributes? (' ' :: (name ++ '=' :: '"' :: (value ++ '"' :: rest))) =
      (readAttributes? rest).map fun (attributes, selfClosing) =>
        ((String.ofList name, String.ofList (decode value)) :: attributes, selfClosing) := by
  have hattribute : readAttribute? (name ++ '=' :: '"' :: (value ++ '"' :: rest)) =
      some ((String.ofList name, String.ofList (decode value)), rest) := by
    rw [readAttribute?, cut_append_cons (not_mem_of_isName hname (by decide))]
    simp only [hname, if_true, cut_append_cons hvalue, Option.map_some]
  rw [readAttributes?, if_pos rfl]
  split
  · rename_i pair after hread
    rw [hattribute] at hread
    cases hread
    rfl
  · rename_i hread
    rw [hattribute] at hread
    cases hread

theorem scan_of_cut_eq_none {cs : List Char} (h : cut '<' cs = none) :
    scan cs = some [.text (String.ofList (decode cs))] := by
  rw [scan]
  split
  · rfl
  · rename_i hrun
    rw [h] at hrun
    cases hrun

theorem scan_of_cut_eq_some {cs run rest : List Char} (h : cut '<' cs = some (run, rest)) :
    scan cs = (cut '>' rest).bind fun (inside, after) => (readTag? inside).bind fun tag =>
      (scan after).map fun tokens =>
        .text (String.ofList (decode run)) :: .mark tag :: tokens := by
  rw [scan]
  split
  · rename_i hrun
    rw [h] at hrun
    cases hrun
  · rename_i hrun
    rw [h] at hrun
    cases hrun
    split
    · rename_i hinside
      simp only [hinside, Option.bind_none]
    · rename_i hinside
      simp only [hinside, Option.bind_some]

/-- The letters of what HTML scans as. -/
def scanLetters (cs : List Char) : Option (List (Char ⊕ TagToken)) :=
  (scan cs).map Piece.letters

theorem scanLetters_nil : scanLetters [] = some [] := by
  rw [scanLetters, scan_of_cut_eq_none rfl]
  rfl

/-- A text in front of HTML adds what it decodes to. -/
theorem scanLetters_append_text {run decoded : List Char} (hrun : '<' ∉ run)
    (hdecoded : ∀ rest, decode (run ++ rest) = decoded ++ decode rest) (rest : List Char) :
    scanLetters (run ++ rest) = (scanLetters rest).map (decoded.map .inl ++ ·) := by
  have hcut := cut_append hrun rest
  rw [scanLetters, scanLetters]
  rcases hrest : cut '<' rest with _ | ⟨before, after⟩
  · rw [hrest, Option.map_none] at hcut
    rw [scan_of_cut_eq_none hcut, scan_of_cut_eq_none hrest, hdecoded]
    simp
  · rw [hrest, Option.map_some] at hcut
    rw [scan_of_cut_eq_some hcut, scan_of_cut_eq_some hrest, hdecoded]
    rcases cut '>' after with _ | ⟨inside, behind⟩
    · rfl
    · simp only [Option.bind_some]
      rcases readTag? inside with _ | tag
      · rfl
      · rcases scan behind with _ | tokens
        · rfl
        · simp

/-- A tag in front of HTML adds itself. -/
theorem scanLetters_tag {inside : List Char} {tag : TagToken} (hinside : '>' ∉ inside)
    (htag : readTag? inside = some tag) (rest : List Char) :
    scanLetters ('<' :: (inside ++ '>' :: rest)) = (scanLetters rest).map (.inr tag :: ·) := by
  have hcut : cut '<' ('<' :: (inside ++ '>' :: rest)) = some ([], inside ++ '>' :: rest) := rfl
  rw [scanLetters, scanLetters, scan_of_cut_eq_some hcut, cut_append_cons hinside]
  simp only [Option.bind_some, htag]
  rcases scan rest with _ | tokens
  · rfl
  · rfl

/-! ## Strings that scan as given tokens wherever they stand -/

/-- The string scans as the tokens, whatever HTML stands behind it. -/
def Reads (html : String) (tokens : List Token) : Prop :=
  ∀ rest, scanLetters (html.toList ++ rest) = (scanLetters rest).map (Piece.letters tokens ++ ·)

theorem reads_empty : Reads "" [] := by
  intro rest
  simp

/-- Strings in a row scan as their tokens in a row. -/
theorem reads_append {first second : String} {tokens more : List Token}
    (hfirst : Reads first tokens) (hsecond : Reads second more) :
    Reads (first ++ second) (tokens ++ more) := by
  intro rest
  rw [String.toList_append, List.append_assoc, hfirst, hsecond, Option.map_map]
  congr 1
  funext letters
  simp

/-- Texts with a separator between them scan as their tokens with its tokens between them. -/
def separated (separator : List Token) : List (List Token) → List Token
  | [] => []
  | [tokens] => tokens
  | tokens :: next :: rest => tokens ++ separator ++ separated separator (next :: rest)

theorem reads_join {pieces : List String} {tokens : List (List Token)}
    (h : List.Forall₂ Reads pieces tokens) : Reads (String.join pieces) tokens.flatten := by
  induction h with
  | nil => exact reads_empty
  | @cons piece own pieces tokens hpiece _ ih =>
    have hjoin : String.join (piece :: pieces) = piece ++ String.join pieces := by
      apply String.toList_inj.1
      simp
    rw [hjoin, List.flatten_cons]
    exact reads_append hpiece ih

theorem reads_separated {separator : String} {between : List Token}
    (hseparator : Reads separator between) {pieces : List String} {tokens : List (List Token)}
    (h : List.Forall₂ Reads pieces tokens) :
    Reads (Text.separated separator pieces) (separated between tokens) := by
  induction h with
  | nil => exact reads_empty
  | cons hpiece hrest ih =>
    cases hrest with
    | nil => exact hpiece
    | cons _ _ => exact reads_append (reads_append hpiece hseparator) ih

/-- Element content scans as the text that was escaped. -/
theorem reads_contentHtml (text : String) : Reads (contentHtml text) [.text text] := by
  intro rest
  rw [contentHtml, scanLetters_append_text (fun h => (Place.ne_of_mem_escaped h).1 rfl)
    (Place.decode_escaped_append .content text)]
  simp

theorem reads_newline : Reads "\n" [.text "\n"] := reads_contentHtml "\n"

/-! ## Tags -/

/-- The string is how the attributes are written in a start tag: it does not end the tag, it does
not go on with the tag's name, and it is read as the attributes. -/
structure Writes (html : String) (attributes : List (String × String)) : Prop where
  not_mem : '>' ∉ html.toList
  takeWhile_append : ∀ rest, rest.takeWhile Char.isAlphanum = [] →
    (html.toList ++ rest).takeWhile Char.isAlphanum = []
  readAttributes?_append : ∀ rest, readAttributes? (html.toList ++ rest) =
    (readAttributes? rest).map fun (more, selfClosing) => (attributes ++ more, selfClosing)

theorem writes_empty : Writes "" [] where
  not_mem := by simp
  takeWhile_append rest h := by simpa using h
  readAttributes?_append rest := by simp

theorem writes_append {first second : String} {attributes more : List (String × String)}
    (hfirst : Writes first attributes) (hsecond : Writes second more) :
    Writes (first ++ second) (attributes ++ more) where
  not_mem := by simp [hfirst.not_mem, hsecond.not_mem]
  takeWhile_append rest h := by
    rw [String.toList_append, List.append_assoc]
    exact hfirst.takeWhile_append _ (hsecond.takeWhile_append rest h)
  readAttributes?_append rest := by
    rw [String.toList_append, List.append_assoc, hfirst.readAttributes?_append,
      hsecond.readAttributes?_append, Option.map_map]
    congr 1
    funext pair
    simp

/-- An attribute is read with the value that was escaped. -/
theorem writes_attributeHtml (name : String) (hname : isName name.toList = true) (value : String) :
    Writes (attributeHtml name value) [(name, value)] := by
  have hlist : ∀ rest, (attributeHtml name value).toList ++ rest =
      ' ' :: (name.toList ++
        '=' :: '"' :: ((Place.attribute.escaped value).toList ++ '"' :: rest)) := by
    intro rest
    simp [attributeHtml]
  refine ⟨?_, ?_, ?_⟩
  · intro hmem
    have hname' := not_mem_of_isName hname (c := '>') (by decide)
    have hvalue : '>' ∉ (Place.attribute.escaped value).toList :=
      fun h => (Place.ne_of_mem_escaped h).2.1 rfl
    rw [← List.append_nil (attributeHtml name value).toList, hlist] at hmem
    simp [hname', hvalue] at hmem
  · intro rest _
    rw [hlist]
    rfl
  · intro rest
    have hdecoded : decode (Place.attribute.escaped value).toList = value.toList := by
      have happend := Place.decode_escaped_append .attribute value []
      rwa [List.append_nil, decode, List.append_nil] at happend
    have hquote : '"' ∉ (Place.attribute.escaped value).toList :=
      fun h => (Place.ne_of_mem_escaped h).2.2 rfl rfl
    rw [hlist, readAttributes?_cons hname hquote, hdecoded, String.ofList_toList,
      String.ofList_toList]
    rfl

/-- An attribute that may be left out, as attributes. -/
def attribute? (name : String) (value : Option String) : List (String × String) :=
  value.toList.map fun value => (name, value)

theorem writes_attributeHtml? (name : String) (hname : isName name.toList = true)
    (value : Option String) : Writes (attributeHtml? name value) (attribute? name value) := by
  cases value with
  | none => exact writes_empty
  | some value => exact writes_attributeHtml name hname value

/-- A name, and then what does not go on with it, is read as the name of a start tag. -/
theorem readTag?_append {name : List Char} (hname : isName name = true) {rest : List Char}
    (hrest : rest.takeWhile Char.isAlphanum = []) :
    readTag? (name ++ rest) = (readAttributes? rest).map fun (attributes, selfClosing) =>
      .opening (String.ofList name) attributes selfClosing := by
  rw [isName, Bool.and_eq_true, List.all_eq_true] at hname
  obtain ⟨hne, hall⟩ := hname
  cases name with
  | nil => cases hne
  | cons c name =>
    have hslash : c ≠ '/' := by
      rintro rfl
      exact absurd (hall '/' List.mem_cons_self) (by decide)
    have htake : (c :: name ++ rest).takeWhile Char.isAlphanum = c :: name := by
      rw [List.takeWhile_append_of_pos hall, hrest, List.append_nil]
    have hdrop : (c :: name ++ rest).dropWhile Char.isAlphanum = rest := by
      have hsplit := List.takeWhile_append_dropWhile (p := Char.isAlphanum) (l := rest)
      rwa [hrest, List.nil_append, ← List.dropWhile_append_of_pos hall] at hsplit
    rw [readTag?]
    · rw [htake, hdrop]
      rfl
    · intro more hmore
      exact hslash (List.cons.inj hmore).1

/-- A tag in angle brackets scans as that tag. -/
theorem reads_tag {inside : String} {tag : TagToken} (hinside : '>' ∉ inside.toList)
    (htag : readTag? inside.toList = some tag) : Reads ("<" ++ inside ++ ">") [.mark tag] := by
  intro rest
  have hlist : ("<" ++ inside ++ ">").toList ++ rest = '<' :: (inside.toList ++ '>' :: rest) := by
    simp
  rw [hlist, scanLetters_tag hinside htag]
  rfl

variable {html content : String} {attributes : List (String × String)} {tokens : List Token}

private theorem not_mem_append {name : String} (hname : isName name.toList = true)
    (hattributes : Writes html attributes) : '>' ∉ (name ++ html).toList := by
  rw [String.toList_append, List.mem_append, not_or]
  exact ⟨not_mem_of_isName hname (by decide), hattributes.not_mem⟩

/-- A start tag scans as itself. -/
theorem reads_opening (name : String) (hname : isName name.toList = true)
    (hattributes : Writes html attributes) :
    Reads ("<" ++ name ++ html ++ ">") [.mark (.opening name attributes false)] := by
  have hrest := hattributes.takeWhile_append [] rfl
  have hread := hattributes.readAttributes?_append []
  rw [List.append_nil] at hrest hread
  have hsplit : "<" ++ name ++ html ++ ">" = "<" ++ (name ++ html) ++ ">" := by
    simp only [String.append_assoc]
  rw [hsplit]
  refine reads_tag (not_mem_append hname hattributes) ?_
  rw [String.toList_append, readTag?_append hname hrest, hread, String.ofList_toList]
  simp [readAttributes?]

/-- A start tag with a slash at its end scans as one that closes itself. -/
theorem reads_selfClosing (name : String) (hname : isName name.toList = true)
    (hattributes : Writes html attributes) :
    Reads ("<" ++ name ++ html ++ " />") [.mark (.opening name attributes true)] := by
  -- behind the last blank there is no attribute but the slash
  have hslash : readAttributes? [' ', '/'] = some ([], true) := by
    simp [readAttributes?, readAttribute?, cut]
  have hsplit : "<" ++ name ++ html ++ " />" = "<" ++ (name ++ html ++ " /") ++ ">" := by
    apply String.toList_inj.1
    simp
  rw [hsplit]
  refine reads_tag ?_ ?_
  · rw [String.toList_append, List.mem_append, not_or]
    exact ⟨not_mem_append hname hattributes, by decide⟩
  · rw [String.append_assoc, String.toList_append, String.toList_append,
      readTag?_append hname (hattributes.takeWhile_append _ rfl),
      hattributes.readAttributes?_append, String.ofList_toList]
    have hlist : " /".toList = [' ', '/'] := rfl
    rw [hlist, hslash]
    simp

/-- An end tag scans as itself. -/
theorem reads_closing (name : String) (hname : isName name.toList = true) :
    Reads ("</" ++ name ++ ">") [.mark (.closing name)] := by
  have hsplit : "</" ++ name ++ ">" = "<" ++ ("/" ++ name) ++ ">" := by
    apply String.toList_inj.1
    simp
  have hlist : ("/" ++ name).toList = '/' :: name.toList := by simp
  rw [hsplit]
  refine reads_tag ?_ ?_
  · rw [hlist, List.mem_cons, not_or]
    exact ⟨by decide, not_mem_of_isName hname (by decide)⟩
  · rw [hlist, readTag?, if_pos hname, String.ofList_toList]

/-- The tokens of an element: its start tag, what it holds and its end tag. -/
def elementTokens (name : String) (attributes : List (String × String)) (tokens : List Token) :
    List Token :=
  .mark (.opening name attributes false) :: tokens ++ [.mark (.closing name)]

/-- An element scans as its tags around what its content scans as. -/
theorem reads_elementHtml (name : String) (hname : isName name.toList = true)
    (hattributes : Writes html attributes) (hcontent : Reads content tokens) :
    Reads (elementHtml name html content) (elementTokens name attributes tokens) := by
  have hsplit : elementHtml name html content =
      "<" ++ name ++ html ++ ">" ++ content ++ ("</" ++ name ++ ">") := by
    simp only [elementHtml, String.append_assoc]
  rw [hsplit]
  exact reads_append (reads_append (reads_opening name hname hattributes) hcontent)
    (reads_closing name hname)

/-- What a string that reads as tokens scans as on its own. -/
theorem exists_scan_eq_some (h : Reads html tokens) :
    ∃ scanned, scan html.toList = some scanned ∧ Piece.letters scanned = Piece.letters tokens := by
  have hletters := h []
  rw [List.append_nil, scanLetters_nil, Option.map_some, List.append_nil, scanLetters] at hletters
  obtain ⟨scanned, hscanned, heq⟩ := Option.map_eq_some_iff.1 hletters
  exact ⟨scanned, hscanned, heq⟩

end MarkdownHtml.Html
