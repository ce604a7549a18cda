/-
Frontmatter/Yaml/Cursor.lean

Where the reading of a YAML text stands, and the elementary steps.

The characters that end a line are the carriage return, the line feed, the next
line character, and the line and paragraph separators.  A carriage return with
a line feed is one line end.  In the value of a scalar the first three are kept
as a line feed, the separators as themselves.
-/
import Frontmatter.Yaml.Mark

namespace Frontmatter.Yaml

/-! ### Characters -/

def isBreak (c : Char) : Bool :=
  c = '\n' || c = '\r' || c = '\u0085' || c = '\u2028' || c = '\u2029'

def isBlank (c : Char) : Bool := c = ' ' || c = '\t'

def isSpace (c : Char) : Bool := isBlank c || isBreak c

/-- A character of a directive's or an anchor's name. -/
def isNameChar (c : Char) : Bool :=
  ('0' ≤ c && c ≤ '9') || ('A' ≤ c && c ≤ 'Z') || ('a' ≤ c && c ≤ 'z') || c = '_' || c = '-'

def isDigit (c : Char) : Bool := '0' ≤ c && c ≤ '9'

/-- The value of a hexadecimal digit. -/
def hexValue? (c : Char) : Option Nat :=
  if '0' ≤ c && c ≤ '9' then some (c.toNat - 48)
  else if 'A' ≤ c && c ≤ 'F' then some (c.toNat - 55)
  else if 'a' ≤ c && c ≤ 'f' then some (c.toNat - 87)
  else none

/-- The value of a row of hexadecimal digits. -/
def hexNumber? (cs : List Char) : Option Nat :=
  (cs.mapM hexValue?).map (·.foldl (fun n d => n * 16 + d) 0)

/-! ### The cursor -/

/-- The characters that are left, and the mark of the first of them. -/
structure Cursor where
  rest : List Char
  mark : Mark
deriving Inhabited

namespace Cursor

def peek (c : Cursor) : Option Char := c.rest.head?

/-- The character some places ahead. -/
def ahead (c : Cursor) (n : Nat) : Option Char := (c.rest.drop n).head?

def isAt (c : Cursor) (ch : Char) : Bool := c.peek = some ch

/-- The next character is one of a class. -/
def nextIs (c : Cursor) (p : Char → Bool) : Bool :=
  match c.rest with
  | [] => false
  | ch :: _ => p ch

/-- The text ends some places ahead, or a blank or a line end is there. -/
def spaceAhead (c : Cursor) (n : Nat) : Bool :=
  match c.rest.drop n with
  | [] => true
  | ch :: _ => isSpace ch

/-- The text ends here, or a line does. -/
def atLineEnd (c : Cursor) : Bool :=
  match c.rest with
  | [] => true
  | ch :: _ => isBreak ch

/-- Past one character that does not end a line. -/
def skip : Cursor → Cursor
  | ⟨_ :: rest, m⟩ => ⟨rest, m.nextColumn⟩
  | c => c

/-- Past some characters that do not end lines. -/
def skips : Nat → Cursor → Cursor
  | 0, c => c
  | n + 1, c => skips n c.skip

/-- Past the characters of a class, which are given too. -/
def span (p : Char → Bool) (c : Cursor) : List Char × Cursor := go c.rest c.mark
where
  go : List Char → Mark → List Char × Cursor
    | [], m => ([], ⟨[], m⟩)
    | ch :: rest, m =>
      if p ch then
        let (taken, c) := go rest m.nextColumn
        (ch :: taken, c)
      else ([], ⟨ch :: rest, m⟩)

def skipWhile (p : Char → Bool) (c : Cursor) : Cursor := (c.span p).2

/-- Past a line end, which is given as it is kept in a value. -/
def lineEnd (c : Cursor) : List Char × Cursor :=
  match c.rest with
  | '\r' :: '\n' :: rest => (['\n'], ⟨rest, c.mark.nextLine 2⟩)
  | ch :: rest =>
    if ch = '\u2028' || ch = '\u2029' then ([ch], ⟨rest, c.mark.nextLine 1⟩)
    else if isBreak ch then (['\n'], ⟨rest, c.mark.nextLine 1⟩)
    else ([], c)
  | [] => ([], c)

def skipLineEnd (c : Cursor) : Cursor := c.lineEnd.2

/-- Past blanks and a comment, up to the line end. -/
def skipComment (c : Cursor) : Cursor :=
  let c := c.skipWhile isBlank
  if c.isAt '#' then c.skipWhile (!isBreak ·) else c

/-- A line that marks the border of a document starts here. -/
def atMarker (c : Cursor) (ch : Char) : Bool :=
  c.mark.column = 0 && c.isAt ch && c.ahead 1 = some ch && c.ahead 2 = some ch && c.spaceAhead 3

def atDocumentBorder (c : Cursor) : Bool := c.atMarker '-' || c.atMarker '.'

/-- A problem at the cursor, in a construct. -/
def problem {α : Type} (c : Cursor) (cause : Cause) (construct : Construct) (start : Mark) :
    Except Problem α :=
  .error ⟨cause, c.mark, some (construct, start)⟩

end Cursor
end Frontmatter.Yaml
