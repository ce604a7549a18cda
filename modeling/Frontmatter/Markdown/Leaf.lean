/-
Frontmatter/Markdown/Leaf.lean

The leaves of a document that a single line shows: headings, thematic breaks, and the
fences of code and math; and the definitions at the start of a paragraph.
-/
import Frontmatter.Markdown.Container
import Frontmatter.Markdown.Block

namespace Frontmatter.Markdown

/-! ### Headings -/

/-- Cells without the marks and blanks at their end, if the marks stand alone; the cells
are given backwards. -/
def dropClosingMarks : Nat → List Cell → List Cell
  | 0, cells => cells
  | fuel + 1, cells =>
    let cells := dropBlanks cells
    let rest := cells.dropWhile fun c => c.char == '#'
    if rest.length < cells.length && rest.head?.all Cell.isBlank then dropClosingMarks fuel rest
    else cells

/-- The text of a heading behind its marks, without further marks that stand alone. -/
def headingText (cells : List Cell) : List Cell :=
  let text := cells.dropWhile fun c => c.isBlank || c.char == '#'
  (dropClosingMarks text.length text.reverse).reverse

/-- The depth and the text of a heading that begins with its marks. -/
def headingAt (cells : List Cell) : Option (Nat × List Cell) :=
  let depth := (cells.takeWhile fun c => c.char == '#').length
  let rest := cells.drop depth
  if 1 ≤ depth && depth ≤ 6 && rest.head?.all Cell.isBlank then some (depth, headingText rest)
  else none

/-- The depth of a heading with a line under it. -/
def underlineDepth (cells : List Cell) : Option Nat :=
  match cells with
  | [] => none
  | c :: _ =>
    if (c.char = '=' || c.char = '-') && allBlank (cells.dropWhile fun d => d.char == c.char) then
      some (if c.char = '=' then 1 else 2)
    else none

/-! ### Fences -/

/-- The fence of a block of code or math: its mark, how many there are, the blanks
before it, and the words behind it. -/
structure Fence where
  mark : Char
  size : Nat
  indent : Nat
  lang : Option String
  info : Option String
deriving Inhabited

namespace Fence

/-- The fewest marks of a fence, if there are fences with a mark. -/
def minimum (o : Options) (mark : Char) : Option Nat :=
  if (mark = '\x60' || mark = '~') && o.allows .codeFenced then some 3
  else if mark = '$' && o.allows .mathFlow then some 2
  else none

/-- The fence that cells begin with.  Only the tilde may also stand behind the fence.
Math has no language. -/
def at? (o : Options) (cells : List Cell) : Option Fence :=
  let rest := dropIndent o cells
  let indent := writtenWidth (cells.take (cells.length - rest.length)) rest
  match rest with
  | [] => none
  | c :: _ =>
    match minimum o c.char with
    | none => none
    | some least =>
      let size := (rest.takeWhile fun d => d.char == c.char).length
      let words := dropBlanks (rest.drop size)
      if size < least || (c.char != '~' && words.any fun d => d.char == c.char) then none
      else
        let lang := if c.char = '$' then [] else words.takeWhile fun d => !d.isBlank
        let info := dropBlanks (words.drop lang.length)
        let word (cells : List Cell) := if cells.isEmpty then none else some (decodeString cells)
        some ⟨c.char, size, indent, word lang, word info⟩

/-- Whether a line closes a fence. -/
def closedBy (o : Options) (f : Fence) (cells : List Cell) : Bool :=
  let rest := dropIndent o cells
  let marks := rest.takeWhile fun c => c.char == f.mark
  f.size ≤ marks.length && allBlank (rest.drop marks.length)

/-- The block between fences. -/
def block (f : Fence) (value : String) (span : Span) : Block :=
  .leaf (if f.mark = '$' then .math value f.info else .code value f.lang f.info) span

end Fence

/-! ### Definitions -/

/-- A title behind a destination, and what follows it on a line of its own. -/
def definitionTitle (cells : List Cell) : Option (String × List Cell) :=
  let after := dropGap cells
  if after.length < cells.length then
    match scanTitle after with
    | some (title, rest) =>
      let rest := dropBlanks rest
      if rest.head?.all Cell.isEnding then some (decodeString title, rest) else none
    | none => none
  else none

/-- The definition that cells begin with, and the cells of the next lines. -/
def definitionAt (o : Options) (cells : List Cell) : Option (Block × List Cell) :=
  match scanLabel (dropIndent o cells) with
  | some (label, c :: rest) =>
    if c.char != ':' then none
    else
      match scanDestination cells.length (dropGap rest) with
      | none => none
      | some (url, rest) =>
        let build (title : Option String) (after : List Cell) : Block × List Cell :=
          let own := cells.take (cells.length - after.length)
          let text := plainText label
          (.leaf
            (.definition (decodeString url) title (identifierOf text) (some (decodeString label)))
            ⟨startOf own default, stopOf own default⟩, after.drop 1)
        match definitionTitle rest with
        | some (title, after) => some (build (some title) after)
        | none =>
          let after := dropBlanks rest
          if after.head?.all Cell.isEnding then some (build none after) else none
  | _ => none

/-- The definitions that the text of a paragraph begins with, and what is left of it. -/
def takeDefinitions (o : Options) : Nat → List Cell → List Block × List Cell
  | 0, cells => ([], cells)
  | fuel + 1, cells =>
    match definitionAt o cells with
    | some (b, rest) =>
      let (more, rest) := takeDefinitions o fuel rest
      (b :: more, rest)
    | none => ([], cells)

end Frontmatter.Markdown
