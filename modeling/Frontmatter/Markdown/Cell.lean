/-
Frontmatter/Markdown/Cell.lean

The characters of a document with their places.

A `Cell` takes up one column, or more if its character is written in several
bytes.  A tab fills up to the next multiple of four columns: it becomes one cell
for itself and one for each further column, its tail.  A line ending, also one of
two characters, is one cell.  Cells know the characters beside them in the
document, so that a part of a line can be read without the rest.

`linesOf` cuts a document into lines.  There is no line after the last line
ending.
-/
import Frontmatter.Markdown.Tree

namespace Frontmatter.Markdown

/-! ### Cells -/

/-- A character at a place.  `text` is how it is written: nothing for the tail of a
tab, whose columns are counted by `tail`. -/
structure Cell where
  char : Char
  text : List Char
  tail : Nat
  start : Point
  stop : Point
  before : Option Char
  after : Option Char
deriving Inhabited

namespace Point

/-- The point behind a character that is written in some number of bytes. -/
def skip (p : Point) (bytes : Nat) : Point := ⟨p.line, p.column + bytes, p.offset + bytes⟩

/-- The start of the next line, behind a line ending of some number of bytes. -/
def nextLine (p : Point) (bytes : Nat) : Point := ⟨p.line + 1, 1, p.offset + bytes⟩

/-- The start of a document. -/
def origin : Point := ⟨1, 1, 0⟩

end Point

namespace Cell

def isBlank (c : Cell) : Bool := c.char == ' ' || c.char == '\t'

def isEnding (c : Cell) : Bool := c.char == '\n'

/-- A blank or a line ending. -/
def isGap (c : Cell) : Bool := c.isBlank || c.isEnding

end Cell

/-- The width of a tab that begins in a column. -/
def tabWidth (column : Nat) : Nat := 4 - (column - 1) % 4

/-- The cells of a tab from its column `tail` on, `left` columns before its end. -/
def tabCells (before after : Option Char) (p : Point) (tail : Nat) : Nat → List Cell
  | 0 => []
  | left + 1 =>
    let stop : Point := ⟨p.line, p.column + 1, if left = 0 then p.offset + 1 else p.offset⟩
    let (char, text) := if tail = 0 then ('\t', ['\t']) else (' ', [])
    ⟨char, text, tail, p, stop, before, after⟩ :: tabCells before after stop (tail + 1) left

/-- The cells of a text that begins at a point, behind some character. -/
def cellsFrom (p : Point) (before : Option Char) : List Char → List Cell
  | [] => []
  | '\r' :: '\n' :: rest =>
    let stop := p.nextLine 2
    ⟨'\n', ['\r', '\n'], 0, p, stop, before, rest.head?⟩ :: cellsFrom stop (some '\n') rest
  | c :: rest =>
    if c = '\n' || c = '\r' then
      let stop := p.nextLine 1
      ⟨'\n', [c], 0, p, stop, before, rest.head?⟩ :: cellsFrom stop (some c) rest
    else if c = '\t' then
      let width := tabWidth p.column
      tabCells before rest.head? p 0 width ++
        cellsFrom ⟨p.line, p.column + width, p.offset + 1⟩ (some c) rest
    else
      let stop := p.skip c.utf8Size
      ⟨c, [c], 0, p, stop, before, rest.head?⟩ :: cellsFrom stop (some c) rest

/-! ### Runs of cells -/

/-- The text of cells that begin with no tail of a tab. -/
def plainText (cells : List Cell) : List Char := cells.flatMap Cell.text

/-- The text of cells.  If they begin in the tail of a tab, blanks stand for the part
of the tab that is left. -/
def textOf (cells : List Cell) : List Char :=
  match cells with
  | [] => []
  | c :: _ =>
    if c.tail = 0 then plainText cells else List.replicate (4 - c.tail) ' ' ++ plainText cells

/-- The text of cells as a string. -/
def stringOf (cells : List Cell) : String := String.ofList (textOf cells)

/-- Where cells begin; `p` if there are none. -/
def startOf (cells : List Cell) (p : Point) : Point := (cells.head?.map Cell.start).getD p

/-- Where cells end; `p` if there are none. -/
def stopOf (cells : List Cell) (p : Point) : Point := (cells.getLast?.map Cell.stop).getD p

/-- The blanks that cells begin with, `max` at most, and the rest. -/
def takeBlanks : Nat → List Cell → List Cell × List Cell
  | max + 1, c :: rest =>
    if c.isBlank then
      let (blanks, rest) := takeBlanks max rest
      (c :: blanks, rest)
    else ([], c :: rest)
  | _, cells => ([], cells)

def dropBlanks (cells : List Cell) : List Cell := cells.dropWhile Cell.isBlank

/-- Cells without the blanks at their end. -/
def dropBlanksEnd (cells : List Cell) : List Cell := (cells.reverse.dropWhile Cell.isBlank).reverse

/-- Cells that are all blank. -/
def allBlank (cells : List Cell) : Bool := cells.all Cell.isBlank

/-- The number of bytes that cells were written in, if `rest` follows them.  A tab that
ends among the cells counts once, a tab that they cut counts its columns. -/
def writtenWidth (cells rest : List Cell) : Nat :=
  let lead := match cells with
    | [] => 0
    | c :: _ => if c.tail = 0 then 0 else 4 - c.tail
  let cut := match rest with
    | [] => 0
    | c :: _ => c.tail - 1
  let body := (cells.dropWhile fun c => c.tail != 0).foldl (fun n c => n + (plainText [c]).length) 0
  lead + body + cut

/-! ### Lines -/

/-- A line, or what is left of one: its cells without the line ending. -/
structure Line where
  start : Point
  cells : List Cell
  ending : Option Cell
deriving Inhabited

namespace Line

/-- The end of a line, before its line ending. -/
def stop (l : Line) : Point := stopOf l.cells l.start

/-- The start of the next line, or the end of the text. -/
def next (l : Line) : Point := (l.ending.map Cell.stop).getD l.stop

def isBlank (l : Line) : Bool := allBlank l.cells

/-- The line from some of its cells on. -/
def dropTo (l : Line) (cells : List Cell) : Line := { l with start := startOf cells l.stop, cells }

end Line

/-- The lines of cells that begin at a point. -/
def linesOf (p : Point) : List Cell → List Line
  | [] => []
  | c :: rest =>
    if c.isEnding then ⟨p, [], some c⟩ :: linesOf c.stop rest
    else
      match linesOf c.stop rest with
      | [] => [⟨p, [c], none⟩]
      | l :: more => { l with start := p, cells := c :: l.cells } :: more

/-- The text of lines in a row, with the line endings between them as they are written. -/
def linesText : List Line → List Char
  | [] => []
  | [l] => textOf l.cells
  | l :: rest => textOf l.cells ++ ((l.ending.map Cell.text).getD []) ++ linesText rest

/-- The cells of lines in a row.  A line ending reaches to the start of what is left of
the next line. -/
def joinLines : List Line → List Cell
  | [] => []
  | [l] => l.cells
  | l :: m :: rest =>
    match l.ending with
    | some e => l.cells ++ { e with stop := m.start } :: joinLines (m :: rest)
    | none => l.cells ++ joinLines (m :: rest)

end Frontmatter.Markdown
