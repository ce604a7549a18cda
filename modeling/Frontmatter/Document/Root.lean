/-
Frontmatter/Document/Root.lean

The top level of a document.

A `Root` has children of three sorts: metadata blocks, which wait to be
compiled; fragments, which are compiled; and Markdown nodes, which are carried
along.  `Root.ofMarkdown` lifts the top level of a Markdown tree: its YAML and
TOML nodes become blocks, and nothing else changes.
-/
import Frontmatter.Esm.Tree
import Frontmatter.Markdown.Tree

namespace Frontmatter

/-- The language of a metadata block.  A custom tag differs from a built-in one
even if they are spelled alike. -/
inductive Tag where
  | yaml
  | toml
  | custom (name : String)
deriving DecidableEq, Inhabited

/-- How a tag is spelled. -/
def Tag.name : Tag → String
  | yaml => "yaml"
  | toml => "toml"
  | custom name => name

/-- A metadata block: its language and its text. -/
structure Block where
  tag : Tag
  value : String
  span : Option Markdown.Span
deriving DecidableEq, Inhabited

/-- A module made for a document.  It stands at no place of a source and has no
line that tells how to run it. -/
structure Program where
  body : List Esm.Item
  shebang : Option String
  span : Option (Nat × Nat)
deriving Inhabited

def Program.ofBody (body : List Esm.Item) : Program := ⟨body, none, none⟩

/-- A compiled block: the source that was rendered for it, and its module. -/
structure Fragment where
  source : String
  program : Program
  span : Option Markdown.Span
deriving Inhabited

/-- A child of a document. -/
inductive Node where
  | block (b : Block)
  | fragment (f : Fragment)
  | markdown (n : Markdown.Node)
deriving Inhabited

namespace Node

/-- The tag of a block, the kind of a fragment, nothing for Markdown. -/
def kind : Node → Option String
  | block b => some b.tag.name
  | fragment _ => some "mdxjsEsm"
  | markdown _ => none

def span : Node → Option Markdown.Span
  | block b => b.span
  | fragment f => f.span
  | markdown n => n.span

/-- Lifts a node of the top level. -/
def ofMarkdown (n : Markdown.Node) : Node :=
  match n with
  | .mk (.yaml value) span _ => block ⟨.yaml, value, span⟩
  | .mk (.toml value) span _ => block ⟨.toml, value, span⟩
  | n => markdown n

end Node

structure Root where
  children : List Node
  span : Option Markdown.Span
deriving Inhabited

namespace Root

/-- Lifts the top level of a Markdown tree. -/
def ofMarkdown (n : Markdown.Node) : Root :=
  match n with
  | .mk .root span children => ⟨children.map Node.ofMarkdown, span⟩
  | n => ⟨[Node.ofMarkdown n], n.span⟩

/-- The compiled blocks of a document, in order. -/
def fragments (r : Root) : List Fragment :=
  r.children.filterMap fun c => match c with
    | .fragment f => some f
    | _ => none

end Root
end Frontmatter
