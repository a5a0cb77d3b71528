import MarkdownHtml.Config.Basic
import MarkdownHtml.Text.CodePoint

/-!
# Configuration files

Where a configuration comes from. `FileTree` is the part of a file system below one root directory,
and `FileTree.lookup` follows a path in it from a working directory. `Config.load` reads the file at
a given path; without a path it takes the file `gfm.toml` of the closest directory that has one,
going up from the working directory.
-/

namespace MarkdownHtml

/-- What stands at a location. -/
inductive Entry where
  | file (bytes : ByteArray)
  | directory

/-- A location below the root directory: the names on the way up to the root, so that the innermost
name comes first. -/
abbrev Location := List String

/-- The files and directories below a root directory. -/
structure FileTree where
  /-- The absolute path of the root directory. -/
  root : String
  /-- What stands where. A location that is listed twice holds what is listed first. -/
  entries : List (Location × Entry)

namespace FileTree

/-- A root directory with nothing in it. -/
def empty (root : String) : FileTree := ⟨root, []⟩

/-- What stands at a location. The root itself is a directory. -/
def at? (tree : FileTree) : Location → Option Entry
  | [] => some .directory
  | location => tree.entries.lookup location

/-- The tree with directories at a location and at all locations above it where nothing stands. -/
def addDirectory (tree : FileTree) : Location → FileTree
  | [] => tree
  | name :: outer =>
    let tree := tree.addDirectory outer
    match tree.at? (name :: outer) with
    | some _ => tree
    | none => { tree with entries := (name :: outer, .directory) :: tree.entries }

/-- The tree with a file at a location, and directories above it. -/
def addFile (tree : FileTree) (location : Location) (bytes : ByteArray) : FileTree :=
  let tree := tree.addDirectory location.tail
  { tree with entries := (location, .file bytes) :: tree.entries }

/-- The tree without what stands at a location and below it. -/
def remove (tree : FileTree) (location : Location) : FileTree :=
  { tree with entries := tree.entries.filter fun entry => !location.isSuffixOf entry.1 }

/-- The absolute path of a location. -/
def pathOf (tree : FileTree) : Location → String
  | [] => tree.root
  | name :: outer => tree.pathOf outer ++ "/" ++ name

/-- Where a path has led to. -/
inductive Spot where
  | inside (location : Location)
  /-- In a directory above the root, of whose entries nothing is known. -/
  | outside

/-- Follows one component of a path, which is possible in a directory only. An empty component and
`.` stay there, and `..` goes up. -/
def step (tree : FileTree) (component : String) : Spot × Entry → Option (Spot × Entry)
  | (_, .file _) => none
  | (spot, .directory) =>
    if component = "" ∨ component = "." then some (spot, .directory)
    else if component = ".." then
      match spot with
      | .inside (_ :: outer) => some (.inside outer, .directory)
      | _ => some (.outside, .directory)
    else
      match spot with
      | .inside location =>
        (tree.at? (component :: location)).map fun entry => (.inside (component :: location), entry)
      | .outside => none

/-- Follows the components of a path. -/
def walk (tree : FileTree) : List String → Spot × Entry → Option (Spot × Entry)
  | [], here => some here
  | component :: rest, here => (tree.step component here).bind (tree.walk rest)

/-- The components of a path, between slashes. -/
def components (path : String) : List String :=
  (CodePoint.pieces '/' path.toList).map String.ofList

/-- What stands at a path that is not empty. A path that begins with the root's own starts there, any
other one in the working directory. -/
def lookup (tree : FileTree) (working : Location) (path : String) : Option Entry :=
  if path.isEmpty then none
  else
    let root := components tree.root
    let parts := components path
    let target :=
      if root.isPrefixOf parts then tree.walk (parts.drop root.length) (.inside [], .directory)
      else if parts.head? = some "" then tree.walk parts (.outside, .directory)
      else tree.walk parts (.inside working, .directory)
    target.map Prod.snd

/-- The closest location with an entry of a given name, in a directory or above it. -/
def nearest? (tree : FileTree) (name : String) : Location → Option Location
  | [] => if (tree.at? [name]).isSome then some [name] else none
  | inner :: outer =>
    if (tree.at? (name :: inner :: outer)).isSome then some (name :: inner :: outer)
    else tree.nearest? name outer

end FileTree

namespace Config

/-- The name of configuration files. -/
def fileName : String := "gfm.toml"

/-- The configuration in what stands at a path. -/
def ofEntry (environment : Environment) (path : String) : Entry → Except ConfigError Config
  | .directory => .error (.io .isDirectory)
  | .file bytes =>
    match String.fromUTF8? bytes with
    | none => .error (.io .invalidUtf8)
    | some text => (ofToml environment text).map fun config => { config with path := some path }

/-- The configuration in the closest configuration file, going up from the working directory, or the
standard one where there is none. In a working directory that no longer exists there is nothing to
go up from. -/
def discover (environment : Environment) (tree : FileTree) (working : Location) :
    Except ConfigError Config :=
  match tree.at? working with
  | some .directory =>
    match tree.nearest? fileName working with
    | none => .ok standard
    | some location =>
      match tree.at? location with
      | none => .ok standard
      | some entry => ofEntry environment (tree.pathOf location) entry
  | _ => .ok standard

/-- The configuration at a given path, or the closest one when no path is given. -/
def load (environment : Environment) (tree : FileTree) (working : Location) :
    Option String → Except ConfigError Config
  | none => discover environment tree working
  | some path =>
    match tree.lookup working path with
    | none => .error (.notFound path)
    | some entry => ofEntry environment path entry

end Config

end MarkdownHtml
