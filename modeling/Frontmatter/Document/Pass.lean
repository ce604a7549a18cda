/-
Frontmatter/Document/Pass.lean

Compiling the metadata blocks of a document.

A `Transform` decodes a block, renders its data as the source of a module,
compiles the source, and puts the fragment in the place of the block.  A pass
goes over the children of a document in order, and the first error ends it;
what was replaced before the error stays replaced.
-/
import Frontmatter.Document.Registry
import Frontmatter.Document.Renderer
import Frontmatter.Esm.Fragment

namespace Frontmatter

/-- Compiles a source as the body of a module. -/
def compileSource (source : String) : Except Error (List Esm.Item) :=
  match Esm.Fragment.parse source with
  | .ok body => .ok body
  | .error p => .error (.compile p.cause.message (p.location source))

/-- How blocks are decoded and rendered. -/
structure Transform where
  registry : Registry
  renderer : Renderer

namespace Transform

/-- Decodes by another registry. -/
def withRegistry (t : Transform) (registry : Registry) : Transform := { t with registry }

/-- Decodes one tag by another decoder. -/
def withDecoder (t : Transform) (tag : Tag) (decoder : Decoder) : Transform :=
  { t with registry := t.registry.register tag decoder }

/-- The fragment for a block, or nothing if the block stays, with the records of
the work on it. -/
def compileBlock (t : Transform) (b : Block) : List LogRecord × Except Error (Option Fragment) :=
  match t.registry.decodeBlock b with
  | (logs, .error e) => (logs, .error e)
  | (logs, .ok none) => (logs, .ok none)
  | (logs, .ok (some data)) =>
    match t.renderer data b with
    | .error e => (logs, .error e)
    | .ok source =>
      let logs := logs ++ [.rendered b.tag.name source]
      match compileSource source with
      | .error e => (logs, .error e)
      | .ok body => (logs, .ok (some ⟨source, Program.ofBody body, b.span⟩))

/-- The fragment for a node; nothing for a node that is no block. -/
def compileNode (t : Transform) (n : Node) : List LogRecord × Except Error (Option Fragment) :=
  match n with
  | .block b => t.compileBlock b
  | _ => ([], .ok none)

end Transform

/-- What a pass leaves behind: the document, the records, and the error that
ended it. -/
structure PassResult where
  root : Root
  logs : List LogRecord
  error : Option Error

namespace Transform

/-- The children after a pass, the records, the number of blocks replaced, and
the error that ended it. -/
def runChildren (t : Transform) : List Node → List Node × List LogRecord × Nat × Option Error
  | [] => ([], [], 0, none)
  | c :: rest =>
    match t.compileNode c with
    | (logs, .error e) => (c :: rest, logs, 0, some e)
    | (logs, .ok none) =>
      let (children, more, count, error) := t.runChildren rest
      (c :: children, logs ++ more, count, error)
    | (logs, .ok (some f)) =>
      let (children, more, count, error) := t.runChildren rest
      (.fragment f :: children, logs ++ more, count + 1, error)

/-- A pass over a document. -/
def run (t : Transform) (r : Root) : PassResult :=
  match t.runChildren r.children with
  | (children, logs, count, none) =>
    ⟨{ r with children }, logs ++ [.replaced count children.length], none⟩
  | (children, logs, _, some e) => ⟨{ r with children }, logs, some e⟩

end Transform
end Frontmatter
