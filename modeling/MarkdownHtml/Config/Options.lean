/-!
# Reader options

The extensions of Markdown that the reader knows, and which of them are switched on.
-/

namespace MarkdownHtml

/-- The extensions of Markdown that can be switched on. -/
inductive Feature where
  /-- Tables drawn with pipes. -/
  | tables
  /-- Strikethrough between tildes. -/
  | strikethrough
  /-- Typographic quotes, dashes and ellipses in place of typewriter ones. -/
  | smartPunctuation
deriving DecidableEq, Repr

/-- Which extensions are switched on. -/
structure MarkdownOptions where
  tables : Bool
  strikethrough : Bool
  smartPunctuation : Bool
deriving DecidableEq, Repr

namespace MarkdownOptions

/-- Tables and strikethrough are on and smart punctuation is off unless something else is said. -/
def standard : MarkdownOptions := ⟨true, true, false⟩

instance : Inhabited MarkdownOptions := ⟨standard⟩

/-- The features that are switched on, in a fixed order. -/
def features (options : MarkdownOptions) : List Feature :=
  (if options.tables then [.tables] else []) ++
    (if options.strikethrough then [.strikethrough] else []) ++
    (if options.smartPunctuation then [.smartPunctuation] else [])

end MarkdownOptions

end MarkdownHtml
