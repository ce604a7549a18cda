/-
Frontmatter/Text/Whitespace.lean

White space of all sorts: blanks of every width, line breaks and separators.
-/
import Frontmatter.Text.CharClass

namespace Frontmatter.Text

/-- The characters that are white space. -/
def whitespaceRanges : List (Nat × Nat) :=
  [(9, 13), (32, 32), (133, 133), (160, 160), (5760, 5760), (8192, 8202), (8232, 8233),
   (8239, 8239), (8287, 8287), (12288, 12288)]

/-- A character that is white space. -/
def isWhitespace (c : Char) : Bool := inRanges whitespaceRanges c

/-- A text without the white space at its ends. -/
def trim (s : List Char) : List Char :=
  ((s.dropWhile isWhitespace).reverse.dropWhile isWhitespace).reverse

end Frontmatter.Text
