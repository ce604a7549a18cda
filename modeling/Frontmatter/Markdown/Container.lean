/-
Frontmatter/Markdown/Container.lean

Containers: block quotes, list items and definitions of footnotes.

Every line of a document has to go on with the containers that are open, each by its
own mark, before a new container or a leaf can begin on it.
-/
import Frontmatter.Markdown.Label

namespace Frontmatter.Markdown

/-- A container.  An item is as wide as its marker and the blanks around it; `bare` tells
that nothing has been in it so far. -/
inductive Container where
  | quote
  | item (marker : Char) (number : Option Nat) (width : Nat) (bare : Bool)
  | footnote (identifier label : String)
deriving Inhabited

/-- Cells without the blanks that a mark may stand behind: three, but any number if
four do not make an indented code block. -/
def dropIndent (o : Options) (cells : List Cell) : List Cell :=
  if o.allows .codeIndented then (takeBlanks 3 cells).2 else dropBlanks cells

/-- Whether cells are a thematic break: three marks or more of one sort, with blanks
between them. -/
def isThematicBreak (cells : List Cell) : Bool :=
  match cells with
  | [] => false
  | c :: _ =>
    (c.char == '*' || c.char == '-' || c.char == '_') &&
      cells.all (fun d => d.char == c.char || d.isBlank) &&
      3 ≤ (cells.filter fun d => d.char == c.char).length

/-- The mark of a block quote, with one blank behind it. -/
def quoteMark (o : Options) (cells : List Cell) : Option (List Cell) :=
  match dropIndent o cells with
  | [] => none
  | c :: rest => if c.char = '>' then some (takeBlanks 1 rest).2 else none

namespace Container

/-! ### Going on -/

/-- What is left of a line that goes on with a container. -/
def proceed (o : Options) (cells : List Cell) : Container → Option (Container × List Cell)
  | quote => (quoteMark o cells).map fun rest => (quote, rest)
  | item marker number width bare =>
    if allBlank cells then
      if bare then none else some (item marker number width bare, (takeBlanks width cells).2)
    else
      let (blanks, rest) := takeBlanks width cells
      if blanks.length = width then some (item marker number width false, rest) else none
  | footnote identifier label =>
    let (blanks, rest) := takeBlanks 4 cells
    if allBlank cells || blanks.length = 4 then some (footnote identifier label, rest) else none

/-! ### Beginning -/

/-- The marker of an item: the mark, the number before it, and the cells behind it.  If
the item would end a paragraph, its number has to be 1. -/
def itemMarker (interrupt : Bool) (cells : List Cell) : Option (Char × Option Nat × List Cell) :=
  match cells with
  | [] => none
  | c :: rest =>
    if c.char = '+' || ((c.char = '*' || c.char = '-') && !isThematicBreak cells) then
      some (c.char, none, rest)
    else
      let digits := cells.takeWhile fun d => d.char.isDigit
      let n := numberOf 10 (plainText digits)
      if digits.isEmpty || 9 < digits.length || (interrupt && (n != 1 || digits.length != 1)) then
        none
      else
        match cells.drop digits.length with
        | [] => none
        | d :: rest =>
          if d.char = '.' || d.char = ')' then some (d.char, some n, rest) else none

/-- The list item that cells begin with. -/
def beginItem (o : Options) (interrupt : Bool) (cells : List Cell) :
    Option (Container × List Cell) :=
  match itemMarker interrupt (dropIndent o cells) with
  | none => none
  | some (marker, number, rest) =>
    let head (rest : List Cell) := cells.take (cells.length - rest.length)
    if allBlank rest then
      if interrupt then none
      else some (item marker number (writtenWidth (head rest) rest + 1) true, rest)
    else
      let (blanks, after) := takeBlanks 4 rest
      if blanks.isEmpty then none
      else
        let after := if after.head?.any Cell.isBlank then (takeBlanks 1 rest).2 else after
        some (item marker number (writtenWidth (head after) after) false, after)

/-- The label of a footnote up to the bracket that closes it; `escaped` tells that a
backslash is just before. -/
def footnoteLabel : Bool → List Cell → Option (List Cell × List Cell)
  | _, [] => none
  | escaped, c :: rest =>
    if escaped && (c.char = '[' || c.char = ']' || c.char = '\\') then
      (footnoteLabel false rest).map fun b => (c :: b.1, b.2)
    else if c.isGap || c.char = '[' then none
    else if c.char = ']' then some ([], rest)
    else (footnoteLabel (c.char = '\\') rest).map fun b => (c :: b.1, b.2)

/-- The definition of a footnote that cells begin with. -/
def beginFootnote (o : Options) (cells : List Cell) : Option (Container × List Cell) :=
  match dropIndent o cells with
  | a :: b :: rest =>
    if a.char != '[' || b.char != '^' then none
    else
      match footnoteLabel false rest with
      | some (label, c :: rest) =>
        if c.char != ':' || label.isEmpty || labelLimit < label.length then none
        else
          some (footnote (identifierOf (plainText label)) (decodeString label), dropBlanks rest)
      | _ => none
  | _ => none

/-- The container that cells begin with. -/
def begin? (o : Options) (interrupt : Bool) (cells : List Cell) : Option (Container × List Cell) :=
  match quoteMark o cells with
  | some rest => some (quote, rest)
  | none =>
    match beginItem o interrupt cells with
    | some r => some r
    | none => if o.allows .footnoteDefinition then beginFootnote o cells else none

end Container

/-- The containers that begin on a line one in another, each with its start, and what is
left of the line. -/
def beginAll (o : Options) (interrupt : Bool) : Nat → Line → List (Container × Point) × Line
  | 0, l => ([], l)
  | fuel + 1, l =>
    match Container.begin? o interrupt l.cells with
    | none => ([], l)
    | some (c, rest) =>
      let (more, last) := beginAll o interrupt fuel (l.dropTo rest)
      ((c, l.start) :: more, last)

end Frontmatter.Markdown
