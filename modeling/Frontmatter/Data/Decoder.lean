/-
Frontmatter/Data/Decoder.lean

A decoder reads the text of a metadata block as a value.  Its errors are
located in the block, when they have a location at all.
-/
import Frontmatter.Data.Basic
import Frontmatter.Text.Location

namespace Frontmatter

/-- Why a block could not be decoded. -/
structure DecodeError where
  message : String
  location : Option Location
deriving DecidableEq, Inhabited

/-- A reader of the text of a metadata block. -/
abbrev Decoder := String → Except DecodeError Data

end Frontmatter
