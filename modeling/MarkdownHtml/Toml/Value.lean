/-!
# TOML documents

The values of a TOML document, and how its statements build up the document's table. A table
remembers how it came about, because that decides which later statements may add to it.
-/

namespace MarkdownHtml.Toml

/-- How a table came about. -/
inductive Origin where
  /-- Only as a step in the header of another table. -/
  | implicit
  /-- By a header of its own. -/
  | header
  /-- As a step in a dotted key. -/
  | dotted
  /-- Written in braces; nothing can be added to it. -/
  | closed
deriving DecidableEq, Repr

/-- A value of a TOML document. -/
inductive Value where
  | string (text : String)
  | boolean (value : Bool)
  /-- An integer or a floating-point number. -/
  | number
  /-- A date, a time or both, in its plain form. -/
  | datetime (text : String)
  | array (values : List Value)
  | table (origin : Origin) (entries : List (String × Value))
  /-- A table array, built by headers in double brackets; the newest table comes first. -/
  | tableArray (tables : List (List (String × Value)))

/-- The entries of a table, in the order in which they were added. -/
abbrev Entries := List (String × Value)

/-- Replaces the value of a key, or adds the key at the end. The function sees the old value and may
refuse. -/
def Entries.modify? (key : String) (f : Option Value → Option Value) : Entries → Option Entries
  | [] => (f none).map fun value => [(key, value)]
  | (k, v) :: rest =>
    if k = key then (f (some v)).map fun value => (k, value) :: rest
    else (modify? key f rest).map ((k, v) :: ·)

/-- Goes down a path of table headers and changes the entries of the table there. Tables that are
missing on the way come into being; a table array is entered at its newest table. -/
def Entries.atHeader? (f : Entries → Option Entries) : List String → Entries → Option Entries
  | [], entries => f entries
  | key :: path, entries =>
    entries.modify? key fun
      | none => (atHeader? f path []).map (.table .implicit)
      | some (.table .closed _) => none
      | some (.table origin inner) => (atHeader? f path inner).map (.table origin)
      | some (.tableArray (newest :: older)) =>
        (atHeader? f path newest).map fun inner => .tableArray (inner :: older)
      | some _ => none

/-- Goes down the first parts of a dotted key and changes the entries of the table there. Only
tables that no header and no braces have defined can be gone through. -/
def Entries.atDotted? (f : Entries → Option Entries) : List String → Entries → Option Entries
  | [], entries => f entries
  | key :: path, entries =>
    entries.modify? key fun
      | none => (atDotted? f path []).map (.table .dotted)
      | some (.table .implicit inner) => (atDotted? f path inner).map (.table .implicit)
      | some (.table .dotted inner) => (atDotted? f path inner).map (.table .dotted)
      | some _ => none

/-- Adds a key that is not there yet. -/
def Entries.addNew? (key : String) (value : Value) (entries : Entries) : Option Entries :=
  entries.modify? key fun
    | none => some value
    | some _ => none

/-- Adds the value of a dotted key to a table. -/
def Entries.add? (path : List String) (value : Value) (entries : Entries) : Option Entries :=
  match path.getLast? with
  | none => none
  | some key => atDotted? (addNew? key value) path.dropLast entries

/-- Opens a table by its header. A table that so far was only a step to others becomes defined. -/
def Entries.openTable? (path : List String) (entries : Entries) : Option Entries :=
  match path.getLast? with
  | none => none
  | some key =>
    atHeader? (fun inner => inner.modify? key fun
      | none => some (.table .header [])
      | some (.table .implicit entries) => some (.table .header entries)
      | some _ => none) path.dropLast entries

/-- Opens a further table of a table array by its header. -/
def Entries.openArrayTable? (path : List String) (entries : Entries) : Option Entries :=
  match path.getLast? with
  | none => none
  | some key =>
    atHeader? (fun inner => inner.modify? key fun
      | none => some (.tableArray [[]])
      | some (.tableArray tables) => some (.tableArray ([] :: tables))
      | some _ => none) path.dropLast entries

/-- The value of a key. -/
def Entries.get? (key : String) (entries : Entries) : Option Value := entries.lookup key

end MarkdownHtml.Toml
