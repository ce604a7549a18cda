/-
Frontmatter/Document/Renderer.lean

How the data of a block becomes the source of a module.

Two renderers are built in.  `Renderer.staticProps` exports an async function
that returns the data; `Renderer.constant` exports the data as a constant, and
checks the name of the constant first.
-/
import Frontmatter.Data.Literal
import Frontmatter.Document.Error
import Frontmatter.Document.Root
import Frontmatter.Text.Alphabetic
import Frontmatter.Text.Numeric

namespace Frontmatter

/-- Writes the source of a module for the data of a block. -/
abbrev Renderer := Data → Block → Except Error String

/-- The words that cannot name a constant of a module. -/
def reservedWords : List String :=
  ["await", "break", "case", "catch", "class", "const", "continue", "debugger", "default",
   "delete", "do", "else", "enum", "export", "extends", "false", "finally", "for", "function",
   "if", "implements", "import", "in", "instanceof", "interface", "let", "new", "null",
   "package", "private", "protected", "public", "return", "static", "super", "switch", "this",
   "throw", "true", "try", "typeof", "var", "void", "while", "with", "yield"]

/-- A character that may begin the name of a constant. -/
def isNameStart (c : Char) : Bool := Text.isAlphabetic c || c = '_' || c = '$'

/-- A character that may continue the name of a constant. -/
def isNamePart (c : Char) : Bool :=
  Text.isAlphabetic c || Text.isNumeric c || c = '_' || c = '$'

/-- A name that a constant may be exported under. -/
def isExportName (name : String) : Bool :=
  !reservedWords.contains name &&
    match name.toList with
    | [] => false
    | c :: rest => isNameStart c && rest.all isNamePart

namespace Renderer

/-- Exports an async function `getStaticProps` that returns the data under
`props`. -/
def staticProps : Renderer := fun data _ =>
  .ok (String.ofList (
    "export const getStaticProps = async () => \x7b\n  return \x7b props: ".toList ++
    data.literalChars ++ " \x7d\n\x7d\n".toList))

/-- The name of the constant, if none is given. -/
def defaultName : String := "frontmatter"

/-- Exports the data as a constant. -/
def constant (name : String) : Renderer := fun data _ =>
  if isExportName name then
    .ok (String.ofList ("export const ".toList ++ name.toList ++ " = ".toList ++
      data.literalChars ++ ";\n".toList))
  else .error (.render ("'" ++ name ++ "' is not a valid export name"))

end Renderer
end Frontmatter
