import MarkdownHtml.Proofs.Html.Entities
import MarkdownHtml.Proofs.Html.Markup
import MarkdownHtml.Proofs.Html.Merged

/-!
# What a reader sees of HTML

`Html.visible` takes the tags out of HTML and then decodes the entities in what is left. It knows
nothing of trees. The tree has its own recursion for the text without markup, `Node.plainText`. On
the constructs that only put tags around text and line ends the two agree
(`visible_html`): `Html.Shows` says of a string that it leaves the escaped text wherever it
stands, so that neither a tag nor an entity can come about across the ends of its parts.
-/

namespace MarkdownHtml

namespace Html

/-! ## Tags taken out -/

/-- What stands before the first stretch from a `<` to the next `>`, and what stands behind it. -/
def cutTag (cs : List Char) : Option (List Char × List Char) :=
  (cut '<' cs).bind fun (before, inside) => (cut '>' inside).map fun (_, after) => (before, after)

theorem length_of_cutTag {cs before after : List Char} (h : cutTag cs = some (before, after)) :
    after.length < cs.length := by
  obtain ⟨⟨front, inside⟩, hopen, hinside⟩ := Option.bind_eq_some_iff.1 h
  obtain ⟨⟨between, back⟩, hclose, heq⟩ := Option.map_eq_some_iff.1 hinside
  cases heq
  exact Nat.lt_trans (length_of_cut hclose) (length_of_cut hopen)

/-- HTML without each stretch from a `<` to the next `>`. -/
def withoutTags (cs : List Char) : List Char :=
  match h : cutTag cs with
  | none => cs
  | some (before, after) =>
    have := length_of_cutTag h
    before ++ withoutTags after
termination_by cs.length

/-- What is left of HTML when tags are taken out and the entities of element content are decoded. -/
def visible (html : String) : String :=
  String.ofList (Place.content.decode (withoutTags html.toList))

theorem withoutTags_of_cutTag_eq_none {cs : List Char} (h : cutTag cs = none) :
    withoutTags cs = cs := by
  rw [withoutTags]
  split
  · rfl
  · rename_i hsome
    rw [h] at hsome
    cases hsome

theorem withoutTags_of_cutTag {cs before after : List Char}
    (h : cutTag cs = some (before, after)) : withoutTags cs = before ++ withoutTags after := by
  rw [withoutTags]
  split
  · rename_i hnone
    rw [h] at hnone
    cases hnone
  · rename_i hsome
    rw [h] at hsome
    cases hsome
    rfl

/-- Text in front of HTML stays. -/
theorem withoutTags_append {front : List Char} (h : '<' ∉ front) (rest : List Char) :
    withoutTags (front ++ rest) = front ++ withoutTags rest := by
  have hcut : cutTag (front ++ rest) =
      (cutTag rest).map fun (before, after) => (front ++ before, after) := by
    rw [cutTag, cutTag, cut_append h, Option.bind_map, Option.map_bind]
    congr 1
    funext pair
    simp only [Function.comp_apply, Option.map_map]
    rfl
  rcases hrest : cutTag rest with _ | ⟨before, after⟩
  · rw [hrest, Option.map_none] at hcut
    rw [withoutTags_of_cutTag_eq_none hcut, withoutTags_of_cutTag_eq_none hrest]
  · rw [hrest, Option.map_some] at hcut
    rw [withoutTags_of_cutTag hcut, withoutTags_of_cutTag hrest, List.append_assoc]

/-- A tag in front of HTML goes. -/
theorem withoutTags_tag {inside : List Char} (h : '>' ∉ inside) (rest : List Char) :
    withoutTags ('<' :: (inside ++ '>' :: rest)) = withoutTags rest := by
  have hopen : cut '<' ('<' :: (inside ++ '>' :: rest)) = some ([], inside ++ '>' :: rest) := rfl
  have hcut : cutTag ('<' :: (inside ++ '>' :: rest)) = some ([], rest) := by
    simp only [cutTag, hopen, Option.bind_some, cut_append_cons h, Option.map_some]
  rw [withoutTags_of_cutTag hcut, List.nil_append]

/-! ## Strings that leave a text wherever they stand -/

/-- Without its tags the string is the escaped text, whatever HTML stands behind it. -/
def Shows (html text : String) : Prop :=
  ∀ rest, withoutTags (html.toList ++ rest) = (contentHtml text).toList ++ withoutTags rest

theorem shows_empty : Shows "" "" := fun _ => rfl

/-- Strings in a row leave their texts in a row. -/
theorem shows_append {first second text more : String} (hfirst : Shows first text)
    (hsecond : Shows second more) : Shows (first ++ second) (text ++ more) := by
  intro rest
  rw [String.toList_append, List.append_assoc, hfirst, hsecond, contentHtml_append,
    String.toList_append, List.append_assoc]

theorem shows_contentHtml (text : String) : Shows (contentHtml text) text :=
  fun rest => withoutTags_append (fun h => (Place.ne_of_mem_escaped h).1 rfl) rest

theorem shows_newline : Shows "\n" "\n" := shows_contentHtml "\n"

/-- A tag leaves nothing, whatever its attributes hold. -/
theorem shows_tag {inside : String} (h : '>' ∉ inside.toList) : Shows ("<" ++ inside ++ ">") "" := by
  intro rest
  have hlist : ("<" ++ inside ++ ">").toList ++ rest = '<' :: (inside.toList ++ '>' :: rest) := by
    simp
  rw [hlist, withoutTags_tag h]
  rfl

theorem shows_lineBreak : Shows "<br />\n" "\n" := by
  have hinside : '>' ∉ "br /".toList := by decide
  have hsplit : "<br />\n" = "<" ++ "br /" ++ ">" ++ "\n" := by decide
  have hbreak := shows_append (shows_tag hinside) shows_newline
  rwa [← hsplit, String.empty_append] at hbreak

/-- An element leaves what its content leaves. -/
theorem shows_elementHtml {name attributes content text : String} (hname : '>' ∉ name.toList)
    (hattributes : '>' ∉ attributes.toList) (hcontent : Shows content text) :
    Shows (elementHtml name attributes content) text := by
  have hopening : '>' ∉ (name ++ attributes).toList := by
    rw [String.toList_append, List.mem_append, not_or]
    exact ⟨hname, hattributes⟩
  have hclosing : '>' ∉ ("/" ++ name).toList := by
    rw [String.toList_append, List.mem_append, not_or]
    exact ⟨by decide, hname⟩
  have hsplit : elementHtml name attributes content =
      "<" ++ (name ++ attributes) ++ ">" ++ content ++ ("<" ++ ("/" ++ name) ++ ">") := by
    apply String.toList_inj.1
    simp [elementHtml]
  have helement := shows_append (shows_append (shows_tag hopening) hcontent) (shows_tag hclosing)
  rwa [← hsplit, String.empty_append, String.append_empty] at helement

/-- What a string leaves is what a reader sees of it. -/
theorem visible_of_shows {html text : String} (h : Shows html text) : visible html = text := by
  have hhtml := h []
  have hnil : withoutTags [] = [] := withoutTags_of_cutTag_eq_none rfl
  rw [hnil, List.append_nil, List.append_nil] at hhtml
  rw [visible, hhtml, contentHtml, Place.decode_escaped, String.ofList_toList]

end Html

open Html

/-! ## Trees that put tags around text -/

mutual

/-- The tree is built of texts, code spans, links by address and line breaks, put into paragraphs,
quotes, headings, emphasis, strikethrough and links. -/
def Node.legible : Node → Bool
  | .text _ | .codeSpan _ | .autoLink _ _ | .hardBreak | .softBreak => true
  | .paragraph children | .blockQuote children | .heading _ children | .emphasis _ children
  | .strikethrough children | .link _ _ children => legibleAll children
  | .blankLine | .codeBlock _ _ | .htmlBlock _ | .linkReferenceDefinition _ _ _ | .list _ _
  | .listItem _ | .thematicBreak | .table _ _ _ | .rawHtml _ | .image _ _ _ | .widget _ _ => false

/-- Each of the trees is built so. -/
def legibleAll : List Node → Bool
  | [] => true
  | node :: rest => node.legible && legibleAll rest

end

mutual

/-- The HTML of such a node leaves its plain text. -/
theorem Node.shows_html (context : RenderContext) (node : Node) (h : node.legible = true) :
    Shows (node.html context) node.plainText := by
  have hnone : '>' ∉ "".toList := by simp
  cases node with
  | text text => exact shows_contentHtml text
  | softBreak => exact shows_newline
  | hardBreak => exact shows_lineBreak
  | codeSpan code => exact shows_elementHtml (by decide) hnone (shows_contentHtml code)
  | autoLink destination text =>
    have hhref := (writes_attributeHtml "href" rfl destination).not_mem
    exact shows_elementHtml (by decide) hhref (shows_contentHtml text)
  | paragraph children | blockQuote children | strikethrough children =>
    exact shows_elementHtml (by decide) hnone (shows_htmlEach context children h)
  | heading level children =>
    have hname := not_mem_of_isName (isName_headingName level) (c := '>') (by decide)
    exact shows_elementHtml hname hnone (shows_htmlEach context children h)
  | emphasis strong children =>
    have hname : '>' ∉ (if strong then "strong" else "em").toList := by
      cases strong <;> decide
    exact shows_elementHtml hname hnone (shows_htmlEach context children h)
  | link destination title children =>
    have hattributes := (writes_append (writes_attributeHtml "href" rfl destination)
      (writes_attributeHtml? "title" rfl title)).not_mem
    exact shows_elementHtml (by decide) hattributes (shows_htmlEach context children h)
  | _ => cases h

theorem shows_htmlEach (context : RenderContext) (nodes : List Node) (h : legibleAll nodes = true) :
    Shows (String.join (htmlEach context nodes)) (plainTextAll nodes) := by
  cases nodes with
  | nil => exact shows_empty
  | cons node rest =>
    obtain ⟨hnode, hrest⟩ := Bool.and_eq_true_iff.1 h
    rw [htmlEach, String.join_cons, plainTextAll]
    exact shows_append (node.shows_html context hnode) (shows_htmlEach context rest hrest)

end

/-- The plain text of a node is what its HTML shows: outside of tags, with entities decoded. So the
alternative text of an image is the text that its description would have shown, and is left out only
where that is empty. -/
theorem visible_html (context : RenderContext) :
    (∀ node : Node, node.legible = true → visible (node.html context) = node.plainText) ∧
    ∀ source title description, legibleAll description = true →
      ∃ tokens,
        scan ((Node.image source title description).html context).toList = some tokens ∧
        Piece.joined tokens =
          imageTokens source title (visible (htmlAll context description)) := by
  refine ⟨fun node h => visible_of_shows (node.shows_html context h), ?_⟩
  intro source title description h
  have hvisible := visible_of_shows (shows_htmlEach context description h)
  obtain ⟨tokens, hscan, hletters⟩ :=
    exists_scan_eq_some (reads_imageHtml source title (plainTextAll description))
  refine ⟨tokens, hscan, ?_⟩
  rw [Piece.joined_eq_of_letters hletters, htmlAll, hvisible]
  rfl

/-- A link whose title and destination look like tags, and texts that would make an entity together
if they were not escaped. -/
def deceptive : Node :=
  .paragraph [.text "&l", .link "<b>" (some "</a>&lt;") [.codeSpan "t;"], .hardBreak, .text "<i>"]

theorem visible_html_deceptive :
    deceptive.legible = true ∧
    visible (deceptive.html .empty) = "&lt;\n<i>" ∧
    ∃ tokens, scan ((Node.image "a.png" none [deceptive]).html .empty).toList = some tokens ∧
      Piece.joined tokens =
        [.mark (.opening "img" [("src", "a.png"), ("alt", "&lt;\n<i>")] true)] := by
  have hlegible : deceptive.legible = true := by decide
  have hvisible : visible (deceptive.html .empty) = "&lt;\n<i>" :=
    ((visible_html .empty).1 deceptive hlegible).trans (by decide)
  obtain ⟨tokens, hscan, hjoined⟩ :=
    (visible_html .empty).2 "a.png" none [deceptive] (by decide)
  refine ⟨hlegible, hvisible, tokens, hscan, ?_⟩
  rw [hjoined, htmlAll_cons, htmlAll, htmlEach, String.join_nil, String.append_empty, hvisible]
  decide

end MarkdownHtml
