/-
Frontmatter/Markdown/Metadata.lean

The metadata block at the start of a document.

It stands between two lines of three marks each, hyphens around YAML and plus signs
around TOML.  Only blanks may follow the marks.
-/
import Frontmatter.Markdown.Block

namespace Frontmatter.Markdown

namespace Metadata

/-- The mark that a line is a fence of. -/
def fenceMark (l : Line) : Option Char :=
  match l.cells with
  | a :: b :: c :: rest =>
    if (a.char == '-' || a.char == '+') && b.char == a.char && c.char == a.char &&
        allBlank rest then
      some a.char
    else none
  | _ => none

/-- The lines up to the closing fence, that fence, and the lines behind it. -/
def splitAtFence (mark : Char) : List Line → Option (List Line × Line × List Line)
  | [] => none
  | l :: rest =>
    if fenceMark l = some mark then some ([], l, rest)
    else (splitAtFence mark rest).map fun r => (l :: r.1, r.2)

/-- The block of a language. -/
def kindOf (mark : Char) (value : String) : Kind := if mark = '-' then .yaml value else .toml value

/-- The block that lines begin with, and the lines behind it. -/
def take? (lines : List Line) : Option (Block × List Line) :=
  match lines with
  | [] => none
  | first :: rest =>
    match fenceMark first with
    | none => none
    | some mark =>
      match splitAtFence mark rest with
      | some (inner, last, rest) =>
        let value := String.ofList (linesText inner)
        some (.leaf (kindOf mark value) ⟨first.start, last.stop⟩, rest)
      | none => none

end Metadata

end Frontmatter.Markdown
