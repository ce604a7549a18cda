/-
Frontmatter/Markdown/Item.lean

Items: the tree of a document before its tags are matched.

An item is text, a line ending, a node with items in it, or a tag.  Links and images
are kept apart, since what they refer to may be named by their text.
-/
import Frontmatter.Markdown.Label

namespace Frontmatter.Markdown

/-- What a link or an image leads to: a target of its own, or a definition.  The label
of the definition is the text of the link, if it is not given. -/
inductive Destination where
  | target (t : Target)
  | definition (kind : ReferenceKind) (identifier : String) (label : Option String)
deriving Inhabited

inductive Item where
  | text (value : List Char) (span : Span)
  | ending (value : List Char) (span : Span)
  | node (frame : Frame) (kind : Kind) (span : Span) (children : List Item)
  /-- A link or an image, with the place of its text. -/
  | media (image : Bool) (destination : Destination) (span label : Span) (children : List Item)
  | tag (t : Tag)
deriving Inhabited

/-- A node without children. -/
def Item.single (kind : Kind) (span : Span) : Item := .node .root kind span []

end Frontmatter.Markdown
