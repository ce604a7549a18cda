/-
Frontmatter/Markdown/Document.lean

Reading a document: its blocks, the text in them, and the elements of both.

A mark of the byte order at the start is not part of the text, but its bytes count.
All text is read before any elements are matched, since the text may have problems
that come first.
-/
import Frontmatter.Markdown.Element
import Frontmatter.Markdown.Metadata
import Frontmatter.Markdown.Outline
import Frontmatter.Markdown.Prose

namespace Frontmatter.Markdown

/-! ### What is defined -/

mutual

/-- The labels that links can refer to. -/
def Block.definitions : Block → List String
  | .leaf (.definition _ _ identifier _) _ => [identifier]
  | .branch _ _ _ children => Block.allDefinitions children
  | _ => []

def Block.allDefinitions : List Block → List String
  | [] => []
  | b :: rest => b.definitions ++ Block.allDefinitions rest

end

mutual

/-- The labels of the footnotes. -/
def Block.footnotes : Block → List String
  | .branch _ (.footnoteDefinition identifier _) _ children =>
    identifier :: Block.allFootnotes children
  | .branch _ _ _ children => Block.allFootnotes children
  | _ => []

def Block.allFootnotes : List Block → List String
  | [] => []
  | b :: rest => b.footnotes ++ Block.allFootnotes rest

end

/-! ### Text -/

mutual

/-- A block with its text read. -/
def Block.item (ctx : Setting) : Block → Except Problem Item
  | .leaf kind span => .ok (.single kind span)
  | .prose frame kind span checked text => do
    let ctx := { ctx with inTable := frame == .tableCell }
    return .node frame kind span (← Prose.read ctx checked.isNone text)
  | .branch frame kind span children => do
    return .node frame kind span (← Block.items ctx children)
  | .tag t => .ok (.tag t)

def Block.items (ctx : Setting) : List Block → Except Problem (List Item)
  | [] => .ok []
  | b :: rest => do
    let i ← b.item ctx
    return i :: (← Block.items ctx rest)

end

/-! ### Documents -/

/-- The cells of a text, without a mark of the byte order, and where they begin. -/
def documentCells (text : List Char) : Point × List Cell :=
  match text with
  | '\ufeff' :: rest =>
    let p := Point.origin.skip 3
    (p, cellsFrom p none rest)
  | _ => (Point.origin, cellsFrom Point.origin none text)

/-- The tree of a document. -/
def parse (o : Options) (text : String) : Except Problem Node := do
  let (start, cells) := documentCells text.toList
  let stop := stopOf cells start
  let lines := linesOf start cells
  let (metadata, lines) :=
    match if o.allows .frontmatter then Metadata.take? lines else none with
    | some (block, rest) => ([block], rest)
    | none => ([], lines)
  let blocks ← Outline.blocksOf o lines start stop
  let ctx : Setting := ⟨o, Block.allDefinitions blocks, Block.allFootnotes blocks, false⟩
  let items ← Block.items ctx (metadata ++ blocks)
  let span : Span := ⟨Point.origin, stop⟩
  let children ← assemble [] .root span [] [] items
  return .mk .root (some span) children

end Frontmatter.Markdown
