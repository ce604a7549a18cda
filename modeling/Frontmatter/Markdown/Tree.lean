/-
Frontmatter/Markdown/Tree.lean

The tree of a Markdown document.

A node has a kind, the place in the text it was read from, and children.  The
kind holds what is particular to it: the depth of a heading, the text of a
code block, the target of a link.
-/

namespace Frontmatter.Markdown

/-- A point in a document: line and column from one, offset from zero.  Columns
and offsets count bytes. -/
structure Point where
  line : Nat
  column : Nat
  offset : Nat
deriving DecidableEq, Inhabited

/-- The text from one point to another. -/
structure Span where
  start : Point
  stop : Point
deriving DecidableEq, Inhabited

/-- How a reference was written: `[a][b]`, `[a][]` or `[a]`. -/
inductive ReferenceKind where
  | full | collapsed | shortcut
deriving DecidableEq, Inhabited

inductive Align where
  | left | right | center | none
deriving DecidableEq, Inhabited

/-- The value of an attribute of an element. -/
inductive AttributeValue where
  | absent
  | text (value : String)
  | expression (value : String)
deriving DecidableEq, Inhabited

/-- An attribute of an element, or an expression in the place of one. -/
inductive Attribute where
  | named (name : String) (value : AttributeValue)
  | expression (value : String)
deriving DecidableEq, Inhabited

inductive Kind where
  | root
  | paragraph
  | heading (depth : Nat)
  | thematicBreak
  | blockquote
  | list (ordered : Bool) (first : Option Nat) (spread : Bool)
  | listItem (spread : Bool) (checked : Option Bool)
  | code (value : String) (lang info : Option String)
  | math (value : String) (info : Option String)
  | html (value : String)
  | definition (url : String) (title : Option String) (identifier : String) (label : Option String)
  | footnoteDefinition (identifier : String) (label : Option String)
  | table (align : List Align)
  | tableRow
  | tableCell
  | yaml (value : String)
  | toml (value : String)
  | esm (value : String)
  | flowExpression (value : String)
  | textExpression (value : String)
  | flowElement (name : Option String) (attributes : List Attribute)
  | textElement (name : Option String) (attributes : List Attribute)
  | text (value : String)
  | emphasis
  | strong
  | delete
  | inlineCode (value : String)
  | inlineMath (value : String)
  | lineBreak
  | link (url : String) (title : Option String)
  | image (url : String) (title : Option String) (alt : String)
  | linkReference (kind : ReferenceKind) (identifier : String) (label : Option String)
  | imageReference (kind : ReferenceKind) (identifier : String) (label : Option String)
      (alt : String)
  | footnoteReference (identifier : String) (label : Option String)
deriving DecidableEq, Inhabited

inductive Node where
  | mk (kind : Kind) (span : Option Span) (children : List Node)
deriving Inhabited

namespace Node

def kind : Node → Kind
  | mk k _ _ => k

def span : Node → Option Span
  | mk _ s _ => s

def children : Node → List Node
  | mk _ _ cs => cs

end Node

/-- The text that a kind of node holds itself. -/
def Kind.literal : Kind → String
  | .esm v | .toml v | .yaml v | .inlineCode v | .inlineMath v | .textExpression v | .html v
  | .text v | .code v _ _ | .math v _ | .flowExpression v => v
  | _ => ""

mutual

/-- The plain text of a node and of all nodes in it. -/
def Node.text : Node → String
  | .mk kind _ children => kind.literal ++ Node.texts children

def Node.texts : List Node → String
  | [] => ""
  | n :: rest => n.text ++ Node.texts rest

end

end Frontmatter.Markdown
