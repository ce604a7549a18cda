/-
Frontmatter/Decimal/FloatValue.lean

What a float of a metadata block stands for: a finite double, an infinity, or
no number at all.
-/
import Frontmatter.Decimal.Binary64

namespace Frontmatter

inductive FloatValue where
  | finite (x : Binary64)
  | infinite (negative : Bool)
  | notANumber
deriving DecidableEq, Inhabited

end Frontmatter
