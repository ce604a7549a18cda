/-
Frontmatter/Document/Error.lean

The errors that end the work on a document, each with the stage it comes from.
-/
import Frontmatter.Text.Location

namespace Frontmatter

/-- An error of a document. -/
inductive Error where
  | parse (message : String) (location : Location)
  | decode (tag message : String) (location : Option Location)
  | render (message : String)
  | compile (message : String) (location : Location)
deriving DecidableEq, Inhabited

namespace Error

/-- A compile error in rendered source, which is in no file. -/
def compileAt (message : String) (line column : Nat) : Error :=
  compile message (Location.inText line column)

/-- What went wrong, without the stage and the location. -/
def detail : Error → String
  | parse message _ | decode _ message _ | render message | compile message _ => message

/-- The whole wording of an error. -/
def message : Error → String
  | parse m loc => "Parse error at " ++ loc.display ++ ": " ++ m
  | decode tag m (some loc) => "Invalid " ++ tag ++ " frontmatter at " ++ loc.display ++ ": " ++ m
  | decode tag m none => "Invalid " ++ tag ++ " frontmatter: " ++ m
  | render m => "Render error: " ++ m
  | compile m loc => "Compile error at " ++ loc.display ++ ": " ++ m

end Error
end Frontmatter
