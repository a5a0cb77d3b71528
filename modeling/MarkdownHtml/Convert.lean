import MarkdownHtml.Config.Basic
import MarkdownHtml.Document.Html
import MarkdownHtml.Markdown.Reader

/-!
# From Markdown to HTML

The whole way: a text is read into events, the events are built into a document, and the document is
rendered.
-/

namespace MarkdownHtml

/-- The document of a Markdown text. -/
def Document.ofMarkdown (options : MarkdownOptions) (text : String) : Except BuildError Document :=
  let reading := Markdown.Reading.ofSource options text
  Document.ofEvents text reading.definitions (flattenAll reading.events)

/-- The HTML of a Markdown text under a configuration. -/
def markdownToHtml (config : Config) (text : String) : Except BuildError String := do
  let document ← Document.ofMarkdown config.markdown text
  return document.html (.ofConfig config)

end MarkdownHtml
