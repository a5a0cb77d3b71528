import MarkdownHtml.Config.Files
import MarkdownHtml.Convert
import MarkdownHtml.Document.Equality
import MarkdownHtml.Document.Json
import MarkdownHtml.Proofs.Builder.BlankLines
import MarkdownHtml.Proofs.Builder.Chunks
import MarkdownHtml.Proofs.Builder.Conservation
import MarkdownHtml.Proofs.Builder.Definitions
import MarkdownHtml.Proofs.Builder.Language
import MarkdownHtml.Proofs.Builder.Metadata
import MarkdownHtml.Proofs.Builder.Recovery
import MarkdownHtml.Proofs.Builder.Runs
import MarkdownHtml.Proofs.Builder.TextsApart
import MarkdownHtml.Proofs.Builder.Tightness
import MarkdownHtml.Proofs.Builder.Unwrapping
import MarkdownHtml.Proofs.Config.Discovery
import MarkdownHtml.Proofs.Config.Outcome
import MarkdownHtml.Proofs.Config.References
import MarkdownHtml.Proofs.Document.Context
import MarkdownHtml.Proofs.Document.Identity
import MarkdownHtml.Proofs.Document.Serialization
import MarkdownHtml.Proofs.Html.Columns
import MarkdownHtml.Proofs.Html.Context
import MarkdownHtml.Proofs.Html.EscapeForms
import MarkdownHtml.Proofs.Html.Locality
import MarkdownHtml.Proofs.Html.Outline
import MarkdownHtml.Proofs.Html.Visible
import MarkdownHtml.Proofs.Json.RoundTrip
import MarkdownHtml.Proofs.Text.BlankLineBytes
import MarkdownHtml.Proofs.Text.Map
