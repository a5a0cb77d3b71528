import MarkdownHtml.Event.Tag

/-!
# Events

A document as a flat stream: start events and end events around elements, leaf events for the rest,
each with the byte range of the source that it comes from. An `EventTree` is the same thing nested;
`EventTree.flatten` writes the stream that describes it.
-/

namespace MarkdownHtml

/-- A range of byte offsets of the source, which may be reversed or leave the source. -/
structure Span where
  start : Nat
  stop : Nat
deriving DecidableEq, Repr

/-- An event that neither opens nor closes anything. -/
inductive Leaf where
  | text (text : String)
  | code (code : String)
  | inlineMath (math : String)
  | displayMath (math : String)
  /-- HTML in a block of its own. -/
  | html (html : String)
  /-- HTML inside text. -/
  | inlineHtml (html : String)
  | footnoteReference (label : String)
  | softBreak
  | hardBreak
  | rule
  | taskMarker (checked : Bool)
deriving DecidableEq, Repr

/-- One event of the stream. -/
inductive Event where
  | start (tag : Tag)
  | stop (tag : EndTag)
  | leaf (leaf : Leaf)
deriving DecidableEq, Repr

/-- Events nested as the elements of a document are. -/
inductive EventTree where
  | leaf (leaf : Leaf) (span : Span)
  /-- An element, with the spans of its start event and of its end event. -/
  | element (tag : Tag) (opening : Span) (children : List EventTree) (closing : Span)

mutual

/-- The stream that describes a tree of events. -/
def EventTree.flatten : EventTree → List (Event × Span)
  | .leaf leaf span => [(.leaf leaf, span)]
  | .element tag opening children closing =>
    (.start tag, opening) :: (flattenAll children ++ [(.stop tag.toEnd, closing)])

/-- The stream that describes several trees in a row. -/
def flattenAll : List EventTree → List (Event × Span)
  | [] => []
  | tree :: rest => tree.flatten ++ flattenAll rest

end

end MarkdownHtml
