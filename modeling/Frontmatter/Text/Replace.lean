/-
Frontmatter/Text/Replace.lean

Replacing one text by another wherever it occurs.

Occurrences are found from left to right and do not overlap.  The empty text occurs
before every character and at the end.
-/

namespace Frontmatter.Text

/-- A text with the occurrences of `old` replaced; the first `skip` characters have been
replaced already. -/
def replaceFrom (old new : List Char) : Nat → List Char → List Char
  | _, [] => if old.isEmpty then new else []
  | skip + 1, _ :: rest => replaceFrom old new skip rest
  | 0, c :: rest =>
    if old.isEmpty then new ++ c :: replaceFrom old new 0 rest
    else if old.isPrefixOf (c :: rest) then new ++ replaceFrom old new (old.length - 1) rest
    else c :: replaceFrom old new 0 rest

/-- A text with all occurrences of `old` replaced by `new`. -/
def replace (s old new : String) : String :=
  String.ofList (replaceFrom old.toList new.toList 0 s.toList)

end Frontmatter.Text
