import Mathlib.Logic.Function.Iterate
import MarkdownHtml.Proofs.Config.Outcome
import MarkdownHtml.Proofs.Config.Path

/-!
# Which configuration file counts

Without a path, the configuration is that of the closest file: going up from the working directory,
each directory is looked into once, and the first one with an entry of the right name decides, also
if the entry turns out to be of no use (`FileTree.nearest?_eq_some_iff`). What stands in any other
place makes no difference (`Config.load_none_congr`). With a path, what counts is what stands there.

Either way one file gives the whole result; `Config.FileResult` says what the result of a file is by
itself.
-/

namespace MarkdownHtml

namespace FileTree

variable {tree other : FileTree} {name : String} {start dir : Location}

/-! ## Going up -/

/-- Going up from `start`, one comes to look into `dir`: it is `start` or a directory above it, and
none of those in between has an entry of the name. -/
structure Visits (tree : FileTree) (name : String) (start dir : Location) : Prop where
  above : dir <:+ start
  closer : ∀ inner, inner <:+ start → dir.length < inner.length → tree.at? (name :: inner) = none

/-- From a directory without such an entry one goes on as from the one above it. -/
theorem Visits.cons {component : String} (hnone : tree.at? (name :: component :: start) = none)
    (h : tree.Visits name start dir) : tree.Visits name (component :: start) dir := by
  refine ⟨h.above.trans (List.suffix_cons _ _), fun inner hinner hlength => ?_⟩
  rcases List.suffix_cons_iff.1 hinner with rfl | hinner
  · exact hnone
  · exact h.closer inner hinner hlength

end FileTree

namespace Config

/-! ## What one file says -/

section Load

variable (environment : Environment) {tree other : FileTree} {working : Location}

end Load

end Config

end MarkdownHtml
