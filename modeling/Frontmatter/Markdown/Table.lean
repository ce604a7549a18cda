/-
Frontmatter/Markdown/Table.lean

Tables: rows of cells between vertical bars.

A table begins with a row and, on the next line, a row of delimiters with as many
columns.  A bar behind a backslash is part of its cell.
-/
import Frontmatter.Markdown.Block

namespace Frontmatter.Markdown

/-! ### Heads -/

/-- What is left of a value in a row, which ends at a blank or a bar; `escaped` tells that
a backslash is just before. -/
def dropValue : Bool → List Cell → List Cell
  | _, [] => []
  | escaped, c :: rest =>
    if escaped && (c.char = '\\' || c.char = '|') then dropValue false rest
    else if c.isBlank || c.char = '|' then c :: rest
    else dropValue (c.char = '\\') rest

/-- The columns of a row and the number of its parts; `open_` tells that a bar, or the
start of the row, is before the cells. -/
def countColumns : Nat → Bool → List Cell → Nat × Nat
  | 0, _, _ => (0, 0)
  | _, _, [] => (0, 0)
  | fuel + 1, open_, c :: rest =>
    if c.isBlank then countColumns fuel open_ rest
    else
      let (columns, parts) :=
        if c.char = '|' then countColumns fuel true rest
        else countColumns fuel false (dropValue (c.char = '\\') rest)
      (columns + (if open_ then 1 else 0), parts + 1)

/-- The number of columns, if cells can be the head of a table.  A bar alone cannot. -/
def headColumns (cells : List Cell) : Option Nat :=
  match cells with
  | [] => none
  | c :: _ =>
    let bar := c.char == '|'
    let (columns, parts) := countColumns cells.length (!bar) cells
    if 1 < parts + (if bar then 0 else 1) then some columns else none

/-! ### Delimiters -/

def isBlankChar (c : Char) : Bool := c == ' ' || c == '\t'

/-- The alignment that a delimiter stands for, and what follows it. -/
def delimiter (cs : List Char) : Option (Align × List Char) :=
  let left := cs.head? == some ':'
  let body := if left then cs.drop 1 else cs
  if body.head? != some '-' then none
  else
    let rest := body.dropWhile (· == '-')
    let right := rest.head? == some ':'
    let rest := if right then rest.drop 1 else rest
    let align : Align :=
      match left, right with
      | true, true => .center
      | true, false => .left
      | false, true => .right
      | false, false => .none
    some (align, rest.dropWhile isBlankChar)

/-- The delimiters of a row up to its end. -/
def delimiters : Nat → List Char → Option (List Align)
  | 0, _ => none
  | fuel + 1, cs =>
    match cs.dropWhile isBlankChar with
    | [] => some []
    | cs =>
      match delimiter cs with
      | some (a, []) => some [a]
      | some (a, '|' :: rest) => (delimiters fuel rest).map fun as => a :: as
      | _ => none

/-- The alignments of a row of delimiters, in which a bar or a colon has to be. -/
def delimiterRow (cs : List Char) : Option (List Align) :=
  if cs.any fun c => c == '|' || c == ':' then
    match cs with
    | '|' :: rest => delimiters (rest.length + 1) rest
    | '-' :: _ | ':' :: _ => delimiters (cs.length + 1) cs
    | _ => none
  else none

/-! ### Rows -/

/-- The parts of a row between bars, each with the bar before it. -/
def splitBars : Bool → List Cell → List Cell × List (Cell × List Cell)
  | _, [] => ([], [])
  | escaped, c :: rest =>
    if c.char = '|' && !escaped then
      let (part, more) := splitBars false rest
      ([], (c, part) :: more)
    else
      let (part, more) := splitBars (c.char = '\\' && !escaped) rest
      (c :: part, more)

/-- A cell of a row from a point to a point. -/
def tableCell (start stop : Point) (text : List Cell) : Block :=
  .prose .tableCell .tableCell ⟨start, stop⟩ none (dropBlanksEnd (dropBlanks text))

/-- The cells of a row from one that begins at a point; each goes to the bar of the next,
and the last to the end of the row, with the bar there. -/
def rowCells (start stop : Point) (text : List Cell) : List (Cell × List Cell) → List Block
  | [] => [tableCell start stop text]
  | (bar, part) :: more =>
    if more.isEmpty && allBlank part then [tableCell start stop text]
    else tableCell start bar.start text :: rowCells bar.start stop part more

/-- The row that a line is.  A bar before the first cell belongs to it. -/
def tableRow (l : Line) : Block :=
  let (lead, parts) := splitBars false l.cells
  let cells :=
    match parts with
    | (_, part) :: more =>
      if allBlank lead then rowCells l.start l.stop part more
      else rowCells l.start l.stop lead parts
    | [] => rowCells l.start l.stop lead []
  .branch .tableRow .tableRow ⟨l.start, l.stop⟩ cells

/-- The table of a head and further rows. -/
def tableOf (align : List Align) (head : Line) (rows : List Line) (stop : Point) : Block :=
  .branch .table (.table align) ⟨head.start, stop⟩ ((head :: rows).map tableRow)

end Frontmatter.Markdown
