/-
Frontmatter/Markdown/Label.lean

The parts of links and of the definitions that links refer to: labels,
destinations and titles.

Every scan returns what it read and the cells behind it.  Two labels are the same
if they differ only in white space and in small and capital letters.
-/
import Frontmatter.Markdown.Reference
import Frontmatter.Text.Case

namespace Frontmatter.Markdown

/-! ### Identifiers -/

def isLabelSpace (c : Char) : Bool := c == ' ' || c == '\t' || c == '\n' || c == '\r'

/-- A text with one blank for each white space in it, and none at its ends; `gap` tells
that white space stands before the text. -/
def collapse : Bool → List Char → List Char
  | _, [] => []
  | gap, c :: rest =>
    if isLabelSpace c then collapse true rest
    else if gap then ' ' :: c :: collapse false rest
    else c :: collapse false rest

/-- What labels are compared by. -/
def labelKey (label : List Char) : List Char :=
  Text.upper (Text.lower (collapse false (label.dropWhile isLabelSpace)))

/-- What is written in a tree for a label. -/
def identifierOf (label : List Char) : String := String.ofList (Text.lower (labelKey label))

/-! ### Labels -/

/-- The longest label. -/
def labelLimit : Nat := 999

/-- The cells of a label up to the bracket that closes it, and the cells behind that.
`escaped` tells that a backslash is just before. -/
def labelBody : Bool → List Cell → Option (List Cell × List Cell)
  | _, [] => none
  | escaped, c :: rest =>
    let bracket := c.char = '[' || c.char = ']'
    if escaped && (bracket || c.char = '\\') then
      (labelBody false rest).map fun b => (c :: b.1, b.2)
    else if c.char = '[' then none
    else if c.char = ']' then some ([], rest)
    else (labelBody (c.char = '\\') rest).map fun b => (c :: b.1, b.2)

/-- The label at an opening bracket.  It is not blank, and not too long. -/
def scanLabel (cells : List Cell) : Option (List Cell × List Cell) :=
  match cells with
  | [] => none
  | c :: rest =>
    if c.char != '[' then none
    else
      match labelBody false rest with
      | some (body, rest) =>
        if body.all Cell.isGap || labelLimit < body.length then none else some (body, rest)
      | none => none

/-! ### Destinations -/

def isControl (c : Char) : Bool := (1 ≤ c.toNat && c.toNat ≤ 31) || c.toNat == 127

/-- A destination in angle brackets, behind the first of them. -/
def enclosedDestination : Bool → List Cell → Option (List Cell × List Cell)
  | _, [] => none
  | escaped, c :: rest =>
    let bracket := c.char = '<' || c.char = '>'
    if escaped && (bracket || c.char = '\\') then
      (enclosedDestination false rest).map fun b => (c :: b.1, b.2)
    else if c.char = '>' then some ([], rest)
    else if c.isEnding || c.char = '<' then none
    else (enclosedDestination (c.char = '\\') rest).map fun b => (c :: b.1, b.2)

/-- A destination without brackets, with `depth` parentheses open of `limit` at most. -/
def rawDestination (limit : Nat) : Bool → Nat → List Cell → Option (List Cell × List Cell)
  | _, depth, [] => if depth = 0 then some ([], []) else none
  | escaped, depth, c :: rest =>
    let parenthesis := c.char = '(' || c.char = ')'
    if escaped && (parenthesis || c.char = '\\') then
      (rawDestination limit false depth rest).map fun b => (c :: b.1, b.2)
    else if depth = 0 && (c.isGap || c.char = ')') then some ([], c :: rest)
    else if c.char = '(' && depth < limit then
      (rawDestination limit false (depth + 1) rest).map fun b => (c :: b.1, b.2)
    else if c.char = ')' then
      (rawDestination limit false (depth - 1) rest).map fun b => (c :: b.1, b.2)
    else if c.char = '(' || c.char = ' ' || isControl c.char then none
    else (rawDestination limit (c.char = '\\') depth rest).map fun b => (c :: b.1, b.2)

/-- The destination that cells begin with. -/
def scanDestination (limit : Nat) (cells : List Cell) : Option (List Cell × List Cell) :=
  match cells with
  | [] => none
  | c :: rest =>
    if c.char = '<' then enclosedDestination false rest
    else if isControl c.char || c.char = ' ' || c.char = ')' then none
    else rawDestination limit false 0 cells

/-! ### Titles -/

/-- A title up to the mark that closes it. -/
def titleBody (mark : Char) : Bool → List Cell → Option (List Cell × List Cell)
  | _, [] => none
  | escaped, c :: rest =>
    if escaped && (c.char = mark || c.char = '\\') then
      (titleBody mark false rest).map fun b => (c :: b.1, b.2)
    else if c.char = mark then some ([], rest)
    else (titleBody mark (c.char = '\\') rest).map fun b => (c :: b.1, b.2)

/-- The title that cells begin with: in quotes of either sort, or in parentheses. -/
def scanTitle (cells : List Cell) : Option (List Cell × List Cell) :=
  match cells with
  | [] => none
  | c :: rest =>
    if c.char = '"' || c.char = '\'' then titleBody c.char false rest
    else if c.char = '(' then titleBody ')' false rest
    else none

/-- Cells without the blanks and the line ending that they begin with. -/
def dropGap (cells : List Cell) : List Cell :=
  match dropBlanks cells with
  | [] => []
  | c :: rest => if c.isEnding then dropBlanks rest else c :: rest

/-- What a link leads to. -/
structure Target where
  url : String
  title : Option String
deriving DecidableEq, Inhabited

/-- The parentheses that may be nested in the destination of a link. -/
def destinationLimit : Nat := 32

/-- What a link leads to, in parentheses behind its text. -/
def scanTarget (cells : List Cell) : Option (Target × List Cell) :=
  match cells with
  | [] => none
  | c :: rest =>
    if c.char != '(' then none
    else
      let cells := dropGap rest
      match cells with
      | [] => none
      | c :: rest =>
        if c.char = ')' then some (⟨"", none⟩, rest)
        else
          match scanDestination destinationLimit cells with
          | none => none
          | some (url, rest) =>
            let after := dropGap rest
            let close (title : Option String) (cells : List Cell) : Option (Target × List Cell) :=
              match dropGap cells with
              | [] => none
              | c :: rest => if c.char = ')' then some (⟨decodeString url, title⟩, rest) else none
            if after.length < rest.length then
              match after.head? with
              | some c =>
                if c.char = '"' || c.char = '\'' || c.char = '(' then
                  match scanTitle after with
                  | some (title, rest) => close (some (decodeString title)) rest
                  | none => none
                else close none after
              | none => none
            else close none after

end Frontmatter.Markdown
