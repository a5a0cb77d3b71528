import MarkdownHtml.Text.Map

/-!
# The render context

The values that a document's self-rendering nodes may read while the document is rendered. Nothing
else in a document looks at them.
-/

namespace MarkdownHtml

/-- The values that a rendering pass offers to self-rendering nodes. -/
structure RenderContext where
  values : TextMap
deriving DecidableEq, Inhabited

namespace RenderContext

/-- The context without values. -/
def empty : RenderContext := ⟨.empty⟩

/-- The context with a value put under a key, in place of an earlier one. -/
def withValue (context : RenderContext) (key value : String) : RenderContext :=
  ⟨context.values.insert key value⟩

/-- The value under a key. -/
def get? (context : RenderContext) (key : String) : Option String := context.values.get? key

/-- The keys with their values, in the order of the keys. -/
def toList (context : RenderContext) : List (String × String) := context.values.entries

/-- The number of values. -/
def size (context : RenderContext) : Nat := context.values.size

end RenderContext

end MarkdownHtml
