import MarkdownHtml.Config.Environment
import MarkdownHtml.Config.Options
import MarkdownHtml.Document.Context
import MarkdownHtml.Text.Blank
import MarkdownHtml.Toml.Reader

/-!
# Configuration

A configuration says which extensions of Markdown are on and which values a rendering pass offers to
self-rendering nodes. It is written in TOML:

* a table `markdown` with the switches `tables`, `strikethrough` and `smart_punctuation`,
* a table `context` of texts, in which references to environment variables are expanded.

`Config.ofToml` reads the text, then expands the values, then checks the keys; the first of these
steps that fails gives the error.
-/

namespace MarkdownHtml

/-- Why reading a file fails. -/
inductive FileFault where
  | isDirectory
  | invalidUtf8
deriving DecidableEq, Repr

/-- The message of a file fault. -/
def FileFault.message : FileFault → String
  | isDirectory => "Is a directory (os error 21)"
  | invalidUtf8 => "stream did not contain valid UTF-8"

/-- Why there is no configuration. -/
inductive ConfigError where
  /-- Nothing stands at the given path. -/
  | notFound (path : String)
  /-- The file cannot be read. -/
  | io (fault : FileFault)
  /-- The text is no TOML, or not of the form of a configuration. -/
  | parse
  /-- A key of the context is blank. -/
  | blankKey
  /-- The value of a context key refers to a variable that is not set. -/
  | unsetVariable (key name : String)
deriving DecidableEq, Repr

/-- The message of a configuration error; a text that cannot be read as a configuration has none of
its own. -/
def ConfigError.message? : ConfigError → Option String
  | notFound path => some ("Configuration file not found: " ++ path)
  | io fault => some ("I/O error: " ++ fault.message)
  | parse => none
  | blankKey => some "Configuration error: context keys cannot be empty"
  | unsetVariable key name =>
    some ("Environment variable error in context." ++ key ++ ": $\x7b" ++ name ++
      "\x7d not set (environment variable not found)")

/-- A configuration. -/
structure Config where
  markdown : MarkdownOptions
  context : TextMap
  /-- The file that the configuration comes from, if it comes from one. -/
  path : Option String
deriving DecidableEq

namespace Config

/-- The configuration that holds where nothing else is said. -/
def standard : Config := ⟨.standard, .empty, none⟩

instance : Inhabited Config := ⟨standard⟩

/-- The key under which a date or time counts as a table of one text. -/
def datetimeKey : String := "$__toml_private_datetime"

/-- A switch, which is on or off; a missing one keeps its standard setting. -/
def switch? (standard : Bool) : Option Toml.Value → Option Bool
  | none => some standard
  | some (.boolean value) => some value
  | some _ => none

/-- The switches of the `markdown` table. An array gives them in order, and may be short or long. -/
def options? : Toml.Value → Option MarkdownOptions
  | .table _ entries => do
    let entries : Toml.Entries := entries
    some ⟨← switch? true (entries.get? "tables"), ← switch? true (entries.get? "strikethrough"),
      ← switch? false (entries.get? "smart_punctuation")⟩
  | .array values => do
    some ⟨← switch? true values[0]?, ← switch? true values[1]?, ← switch? false values[2]?⟩
  | .datetime _ => some .standard
  | _ => none

/-- The texts of the `context` table. -/
def texts? : Toml.Entries → Option (List (String × String))
  | [] => some []
  | (key, .string text) :: rest => (texts? rest).map ((key, text) :: ·)
  | _ => none

/-- The values of the `context` table. -/
def context? : Toml.Value → Option TextMap
  | .table _ entries => (texts? entries).map .ofList
  | .datetime text => some (.ofList [(datetimeKey, text)])
  | _ => none

/-- The configuration that a root table describes. Unknown keys are passed over. -/
def ofEntries? (root : Toml.Entries) : Option Config := do
  let markdown ← match root.get? "markdown" with
    | none => some .standard
    | some value => options? value
  let context ← match root.get? "context" with
    | none => some .empty
    | some value => context? value
  some ⟨markdown, context, none⟩

/-- The configuration that a TOML text describes, with its values as written. -/
def parse? (text : String) : Option Config := (Toml.read? text).bind ofEntries?

/-- Expands the values of sorted entries in the order of their keys. -/
def expandEntries (environment : Environment) :
    List (String × String) → Except ConfigError (List (String × String))
  | [] => .ok []
  | (key, value) :: rest =>
    match environment.expand value with
    | .error name => .error (.unsetVariable key name)
    | .ok value => do return (key, value) :: (← expandEntries environment rest)

/-- Expanding changes no key. -/
theorem keys_expandEntries {environment : Environment} {entries expanded : List (String × String)}
    (h : expandEntries environment entries = .ok expanded) :
    expanded.map Prod.fst = entries.map Prod.fst := by
  induction entries generalizing expanded with
  | nil => simp [expandEntries] at h; simp [← h]
  | cons entry rest ih =>
    obtain ⟨key, value⟩ := entry
    simp only [expandEntries] at h
    split at h
    · simp at h
    · cases hrest : expandEntries environment rest with
      | error e => simp [hrest, bind, Except.bind] at h
      | ok more =>
        simp only [hrest, bind, Except.bind, pure, Except.pure, Except.ok.injEq] at h
        simp [← h, ih hrest]

/-- Entries with the keys of sorted ones are sorted. -/
theorem sorted_of_keys_eq {entries others : List (String × String)} (h : TextMap.Sorted entries)
    (hkeys : others.map Prod.fst = entries.map Prod.fst) : TextMap.Sorted others := by
  have h' : (entries.map Prod.fst).Pairwise (· < ·) := List.pairwise_map.2 h
  rw [← hkeys] at h'
  exact List.pairwise_map.1 h'

/-- The configuration with the references in its context's values expanded. -/
def expand (environment : Environment) (config : Config) : Except ConfigError Config :=
  match h : expandEntries environment config.context.entries with
  | .error error => .error error
  | .ok entries =>
    .ok { config with
      context := ⟨entries, sorted_of_keys_eq config.context.sorted (keys_expandEntries h)⟩ }

/-- Checks that no key of the context is blank. -/
def validate (config : Config) : Except ConfigError Unit :=
  if config.context.keys.any Text.isBlank then .error .blankKey else .ok ()

/-- The configuration that a TOML text describes in an environment. -/
def ofToml (environment : Environment) (text : String) : Except ConfigError Config :=
  match parse? text with
  | none => .error .parse
  | some config => do
    let config ← config.expand environment
    config.validate
    return config

end Config

/-- The render context that a configuration asks for. -/
def RenderContext.ofConfig (config : Config) : RenderContext := ⟨config.context⟩

end MarkdownHtml
