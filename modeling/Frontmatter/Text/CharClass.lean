/-
Frontmatter/Text/CharClass.lean

Classes of characters, given as increasing ranges of their numbers.
-/

namespace Frontmatter.Text

/-- The character lies in one of the ranges. -/
def inRanges (ranges : List (Nat × Nat)) (c : Char) : Bool :=
  ranges.any fun r => r.1 ≤ c.toNat && c.toNat ≤ r.2

end Frontmatter.Text
