/-
Frontmatter/Text/Location.lean

Places in a text.

A `Location` is a line and a column, both counted from one, and perhaps the
name of the file it is in.  A metadata block is decoded on its own, so its
errors are located in the block; `Location.shift` moves such a location to the
document.  `Location.ofOffset` finds the location of a byte offset: the line
counts the newlines before the offset, the column counts the characters since
the last of them.
-/

namespace Frontmatter

/-- The bytes that a text takes in UTF-8. -/
def byteLength : List Char → Nat
  | [] => 0
  | c :: cs => c.utf8Size + byteLength cs

/-- A place in a text. -/
structure Location where
  file : Option String
  line : Nat
  column : Nat
deriving DecidableEq, Inhabited

namespace Location

/-- A place in a text without a name. -/
def inText (line column : Nat) : Location := ⟨none, line, column⟩

/-- The location found in a block, moved to the document that holds the block:
`line` is the line of the opening fence.  Lines are words of sixty-four bits in a program, whose
additions are this one as long as the sum is a word. -/
def shift (loc : Location) (line : Nat) : Location := { loc with line := loc.line + line }

/-- `line:column`, after the file's name if there is one. -/
def display (loc : Location) : String :=
  match loc.file with
  | some file => file ++ ":" ++ Nat.repr loc.line ++ ":" ++ Nat.repr loc.column
  | none => Nat.repr loc.line ++ ":" ++ Nat.repr loc.column

/-- The characters before a byte offset, if a character starts there or the
text ends there. -/
def charsBefore? : List Char → Nat → Option (List Char)
  | _, 0 => some []
  | [], _ + 1 => none
  | c :: rest, offset =>
    if c.utf8Size ≤ offset then (charsBefore? rest (offset - c.utf8Size)).map (c :: ·) else none

/-- The characters before a byte offset.  An offset past the end stands for the
end, and so does one inside a character. -/
def charsBefore (text : List Char) (offset : Nat) : List Char :=
  (charsBefore? text (min offset (byteLength text))).getD text

/-- The line and the column after a text. -/
def after (before : List Char) : Location :=
  Location.inText (before.count '\n' + 1)
    ((before.reverse.takeWhile (· != '\n')).length + 1)

/-- The location of a byte offset in a text. -/
def ofOffset (text : String) (offset : Nat) : Location :=
  after (charsBefore text.toList offset)

end Location
end Frontmatter
