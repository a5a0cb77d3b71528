import MarkdownHtml.Proofs.Builder.Refinement
import MarkdownHtml.Proofs.Html.Markup
import MarkdownHtml.Proofs.Text.Word

/-!
# The language of a code block

A builder asks whether the text behind an opening fence is blank, and drops it then. The HTML of a
code block names the first word of its info string. These are two different questions about white
space, and their answers agree: what a builder drops would not have been seen in the HTML
(`codeBlockHtml_nonBlank?`).

Of an info string the HTML tells the first word and nothing else. A code block scans as
`codeBlockMarkup` of this word (`scan_codeBlockHtml`), which has the word in it as it is
(`codeBlockMarkup_inj`), so that two info strings with different first words are never rendered alike
(`codeBlockHtml_eq_iff`).
-/

namespace MarkdownHtml

open Html

/-- What a code block scans as: a class names its language, if it has one. -/
def codeBlockMarkup (language : Option String) (code : String) : List Token :=
  [.mark (.opening "pre" [] false),
   .mark (.opening "code" (attribute? "class" (language.map ("language-" ++ ·))) false),
   .text (code ++ "\n"), .mark (.closing "code"), .mark (.closing "pre")]

variable {language otherLanguage : Option String} {info other code : String}

/-! ## What the HTML tells -/

/-- The language can be read off the markup. -/
theorem codeBlockMarkup_inj :
    codeBlockMarkup language code = codeBlockMarkup otherLanguage code ↔
      language = otherLanguage := by
  cases language <;> cases otherLanguage <;> simp [codeBlockMarkup, attribute?]

/-- A code block scans as its markup, up to how texts are cut up. -/
theorem scan_codeBlockHtml (info : Option String) (code : String) :
    ∃ tokens, scan (codeBlockHtml info code).toList = some tokens ∧
      Piece.joined tokens = codeBlockMarkup (info.bind Text.firstWord?) code := by
  obtain ⟨tokens, hscan, hletters⟩ := exists_scan_eq_some (reads_codeBlockHtml info code)
  refine ⟨tokens, hscan, ?_⟩
  have hmarkup : Piece.letters (codeBlockTokens info code) =
      Piece.letters (codeBlockMarkup (info.bind Text.firstWord?) code) := by
    simp [codeBlockTokens, codeBlockMarkup, elementTokens]
  rw [Piece.joined_eq_of_letters (hletters.trans hmarkup)]
  simp [codeBlockMarkup, Piece.joined, Piece.prepend]

/-- A blank info string may be left out. -/
theorem codeBlockHtml_nonBlank? (info code : String) :
    codeBlockHtml (Text.nonBlank? info) code = codeBlockHtml (some info) code := by
  rw [codeBlockHtml, codeBlockHtml, Text.bind_firstWord?_nonBlank?, Option.bind_some]

/-- Info strings are rendered alike exactly if their first words are the same. -/
theorem codeBlockHtml_eq_iff :
    codeBlockHtml (some info) code = codeBlockHtml (some other) code ↔
      Text.firstWord? info = Text.firstWord? other := by
  constructor
  · intro h
    obtain ⟨tokens, hscan, hmarkup⟩ := scan_codeBlockHtml (some info) code
    obtain ⟨otherTokens, hother, hotherMarkup⟩ := scan_codeBlockHtml (some other) code
    rw [h, hother] at hscan
    cases hscan
    rw [hotherMarkup] at hmarkup
    exact (codeBlockMarkup_inj.1 hmarkup).symm
  · intro h
    rw [codeBlockHtml, codeBlockHtml, Option.bind_some, Option.bind_some, h]

/-! ## What a builder makes of a fence -/

/-- The events of a fenced code block, whatever is open before them and whatever stands in the block,
put a code block in place that keeps the info string unless it is blank. -/
theorem Builder.pushAll_fenced (b : Builder) (info : String) (opening closing : Span)
    (children : List EventTree) :
    b.pushAll (EventTree.element (.codeBlock (.fenced info)) opening children closing).flatten =
      .ok (((b.prepare opening.start).pushNode
        (.codeBlock (Text.nonBlank? info) (Part.code (partsOf children)))).noteEnd closing.stop) := by
  rw [pushAll_flatten, pushNode_eq_receive]
  rfl

/-- A builder and the renderer agree on which info strings count, and on what counts in them. The code
block that a builder makes of a fence is rendered like one that keeps the info string as it is, though
the builder drops a blank one. The HTML of a code block has a class exactly if there is something to
be seen in the info string, and the class then names the first word. So info strings are rendered
alike, for the same code, if both are blank or both have the same first word, and otherwise not. -/
theorem Node.html_codeBlock_language :
    (∀ (b : Builder) (info : String) (opening closing : Span) (children : List EventTree),
      ∃ kept, ((Text.HasVisible info ∧ kept = some info) ∨ (¬Text.HasVisible info ∧ kept = none)) ∧
        b.pushAll (EventTree.element (.codeBlock (.fenced info)) opening children closing).flatten =
          .ok (((b.prepare opening.start).pushNode
            (.codeBlock kept (Part.code (partsOf children)))).noteEnd closing.stop) ∧
        ∀ code context, (Node.codeBlock kept code).html context =
          (Node.codeBlock (some info) code).html context) ∧
    (∀ info code context, ∃ tokens language,
      Html.scan ((Node.codeBlock (some info) code).html context).toList = some tokens ∧
        Piece.joined tokens = codeBlockMarkup language code ∧
        (language ≠ none ↔ Text.HasVisible info) ∧
        ∀ word, language = some word ↔ Text.IsFirstWord info word) ∧
    ∀ info other code context,
      (Node.codeBlock (some info) code).html context =
          (Node.codeBlock (some other) code).html context ↔
        (¬Text.HasVisible info ∧ ¬Text.HasVisible other) ∨
          ∃ word, Text.IsFirstWord info word ∧ Text.IsFirstWord other word := by
  refine ⟨?_, ?_, ?_⟩
  · intro b info opening closing children
    exact ⟨Text.nonBlank? info, Text.nonBlank?_cases info,
      b.pushAll_fenced info opening closing children,
      fun code _ => codeBlockHtml_nonBlank? info code⟩
  · intro info code _
    obtain ⟨tokens, hscan, hmarkup⟩ := scan_codeBlockHtml (some info) code
    refine ⟨tokens, Text.firstWord? info, hscan, hmarkup, ?_,
      fun word => Text.firstWord?_eq_some_iff⟩
    rw [Ne, Text.firstWord?_eq_none_iff, not_not]
  · intro info other code _
    exact codeBlockHtml_eq_iff.trans Text.firstWord?_eq_firstWord?_iff

/-- An em space before the word and a tab behind it. -/
example : (Node.codeBlock (some "\u2003rust\tno_run") "x").html .empty =
    (Node.codeBlock (some "rust") "x").html .empty := by decide

end MarkdownHtml
