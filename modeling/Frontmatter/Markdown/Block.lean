/-
Frontmatter/Markdown/Block.lean

Blocks: the structure of a document before its text is read.

A container collects entries, which are blocks, list items and blank lines.
`gather` makes blocks of them: items in a row with the same marker become a list.
A list is spread if a blank line stands between two of its items.
-/
import Frontmatter.Markdown.Embed

namespace Frontmatter.Markdown

/-- A block.  Prose holds the cells of its text, which are read later; `checked` is the
mark of a task, which has been taken from the text. -/
inductive Block where
  | leaf (kind : Kind) (span : Span)
  | prose (frame : Frame) (kind : Kind) (span : Span) (checked : Option Bool) (text : List Cell)
  | branch (frame : Frame) (kind : Kind) (span : Span) (children : List Block)
  | tag (t : Tag)
deriving Inhabited

/-- The place of a block. -/
def Block.span : Block → Span
  | leaf _ s | prose _ _ s _ _ | branch _ _ s _ => s
  | tag t => ⟨t.start, t.stop⟩

/-- What a container collects.  `empty` tells of an item that nothing is in it. -/
inductive Entry where
  | blank
  | block (b : Block)
  | item (marker : Char) (number : Option Nat) (b : Block) (empty : Bool)
deriving Inhabited

/-! ### Lists -/

/-- A list that is being collected: its items, latest first, and the blank lines after
the last of them. -/
structure ListRun where
  marker : Char
  number : Option Nat
  items : List Block
  lastEmpty : Bool
  blanks : Nat
  spread : Bool

namespace ListRun

/-- The list of the items so far. -/
def block (r : ListRun) : Block :=
  let items := r.items.reverse
  let span : Span := ⟨(items.head?.map Block.span).getD default |>.start,
    (items.getLast?.map Block.span).getD default |>.stop⟩
  .branch (if r.number.isSome then .listOrdered else .listUnordered)
    (.list r.number.isSome r.number r.spread) span items

/-- Whether the blank lines after the last item spread the list, if an item follows.  A
blank line just after an empty item belongs to that item. -/
def gapSpreads (r : ListRun) : Bool := (if r.lastEmpty then 1 else 0) < r.blanks

end ListRun

/-- The blocks of entries, after the items of a list that is being collected. -/
def gatherFrom : Option ListRun → List Entry → List Block
  | run, [] => (run.map ListRun.block).toList
  | run, .blank :: rest => gatherFrom (run.map fun r => { r with blanks := r.blanks + 1 }) rest
  | run, .block b :: rest => (run.map ListRun.block).toList ++ b :: gatherFrom none rest
  | run, .item marker number b empty :: rest =>
    match run with
    | some r =>
      if r.marker = marker then
        gatherFrom (some { r with items := b :: r.items, lastEmpty := empty, blanks := 0,
                                  spread := r.spread || r.gapSpreads }) rest
      else r.block :: gatherFrom (some ⟨marker, number, [b], empty, 0, false⟩) rest
    | none => gatherFrom (some ⟨marker, number, [b], empty, 0, false⟩) rest

/-- The blocks of entries. -/
def gather (entries : List Entry) : List Block := gatherFrom none entries

/-! ### Tasks -/

/-- The mark of a task at the start of a text, and the text without it and the white
space behind it.  Something else has to follow. -/
def taskMark (text : List Cell) : Option (Bool × List Cell × Point) :=
  match text with
  | a :: b :: c :: d :: rest =>
    let marked := b.char == 'x' || b.char == 'X'
    if a.char == '[' && (marked || b.isGap) && c.char == ']' && d.isGap &&
        (d.isEnding || rest.any fun e => !e.isBlank) then
      some (marked, rest, d.stop)
    else none
  | _ => none

/-- Takes the mark of a task from the first paragraph of an item, before which only
definitions may stand. -/
def takeTask : List Block → Option Bool × List Block
  | [] => (none, [])
  | b :: rest =>
    match b with
    | .leaf (.definition _ _ _ _) _ =>
      let (checked, rest) := takeTask rest
      (checked, b :: rest)
    | .prose .paragraph kind span none text =>
      match taskMark text with
      | some (checked, text, start) =>
        (some checked, .prose .paragraph kind ⟨start, span.stop⟩ (some checked) text :: rest)
      | none => (none, b :: rest)
    | _ => (none, b :: rest)

end Frontmatter.Markdown
