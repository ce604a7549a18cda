/-
Frontmatter/Markdown/Reference.lean

Characters written in other ways: by a name or a number between an ampersand and a
semicolon, or by themselves behind a backslash.

`decodeString` reads cells in which both can stand, such as the title of a link.
There the blanks beside a line ending do not count.
-/
import Frontmatter.Markdown.Embed
import Frontmatter.Markdown.Options

namespace Frontmatter.Markdown

/-- The ASCII punctuation marks, which a backslash can stand before. -/
def isAsciiPunctuation (c : Char) : Bool :=
  ('!' ≤ c && c ≤ '/') || (':' ≤ c && c ≤ '@') || ('[' ≤ c && c ≤ '\x60') || ('{' ≤ c && c ≤ '~')

/-! ### References -/

/-- The character with a number.  Control characters and numbers that are no character
give the sign for what cannot be shown. -/
def numberedChar (n : Nat) : Char :=
  let control := n ≤ 8 || n == 11 || (14 ≤ n && n ≤ 31) || (127 ≤ n && n ≤ 159)
  if control || !n.isValidChar then '\ufffd' else Char.ofNat n

/-- The value of a digit in base 16. -/
def digitValue (c : Char) : Nat :=
  if c.isDigit then c.toNat - '0'.toNat else Text.hexDigit c.toLower

def isHexDigit (c : Char) : Bool :=
  c.isDigit || ('a' ≤ c && c ≤ 'f') || ('A' ≤ c && c ≤ 'F')

/-- The number that digits in a base stand for. -/
def numberOf (base : Nat) (digits : List Char) : Nat :=
  digits.foldl (fun n c => base * n + digitValue c) 0

/-- The body of a reference, of at most `max` characters of a class, and what follows
the semicolon. -/
def referenceBody (max : Nat) (ok : Char → Bool) (cs : List Char) :
    Option (List Char × List Char) :=
  let body := cs.takeWhile ok
  match cs.dropWhile ok with
  | ';' :: rest => if body.isEmpty || max < body.length then none else some (body, rest)
  | _ => none

/-- The reference at an ampersand: the characters it stands for, and what follows it. -/
def scanReference : List Char → Option (List Char × List Char)
  | '&' :: '#' :: 'x' :: cs | '&' :: '#' :: 'X' :: cs =>
    (referenceBody 6 isHexDigit cs).map fun b => ([numberedChar (numberOf 16 b.1)], b.2)
  | '&' :: '#' :: cs =>
    (referenceBody 7 Char.isDigit cs).map fun b => ([numberedChar (numberOf 10 b.1)], b.2)
  | '&' :: cs =>
    match referenceBody 31 Char.isAlphanum cs with
    | some (name, rest) => (Text.namedCharacter? name).map fun value => (value, rest)
    | none => none
  | _ => none

/-- The reference that cells begin with: what it stands for, its cells, and the cells
behind it. -/
def referenceAt (cells : List Cell) : Option (List Char × List Cell × List Cell) :=
  match scanReference (cells.map Cell.char) with
  | some (value, rest) =>
    let n := cells.length - rest.length
    some (value, cells.take n, cells.drop n)
  | none => none

/-! ### Strings -/

/-- The text of cells with the escapes and references replaced. -/
def unescape : Nat → List Cell → List Char
  | 0, cells => plainText cells
  | _, [] => []
  | fuel + 1, c :: rest =>
    let plain := c.text ++ unescape fuel rest
    if c.char = '\\' then
      match rest with
      | d :: rest => if isAsciiPunctuation d.char then d.char :: unescape fuel rest else plain
      | [] => plain
    else if c.char = '&' then
      match referenceAt (c :: rest) with
      | some (value, _, rest) => value ++ unescape fuel rest
      | none => plain
    else plain

/-- Cells without the blanks before and behind line endings; `fresh` tells that a line
ending is just before. -/
def dropBesideEndings : Bool → List Cell → List Cell
  | _, [] => []
  | fresh, c :: rest =>
    if c.isBlank && (fresh || ((rest.dropWhile Cell.isBlank).head?.any Cell.isEnding)) then
      dropBesideEndings fresh rest
    else c :: dropBesideEndings c.isEnding rest

/-- The string that cells are written for. -/
def decodeString (cells : List Cell) : String :=
  String.ofList (unescape cells.length (dropBesideEndings false cells))

end Frontmatter.Markdown
