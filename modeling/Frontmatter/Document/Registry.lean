/-
Frontmatter/Document/Registry.lean

Which decoder reads which tag.

A registry is a list of tags with their decoders.  Registering a tag again
replaces its decoder.  Decoding a node with it gives nothing for what is not a
block, for a tag without a decoder, and for a block that decodes to null; every
other value is present, false and zero included.  A block with an unknown tag
is recorded in the log.
-/
import Frontmatter.Data.Decoder
import Frontmatter.Document.Error
import Frontmatter.Document.Root

namespace Frontmatter

/-- A record of what happened to a node. -/
inductive LogRecord where
  | noDecoder (tag : String)
  | rendered (tag source : String)
  | replaced (count total : Nat)
deriving DecidableEq, Inhabited

/-- The level of a record and its wording. -/
def LogRecord.text : LogRecord → String
  | noDecoder tag => "DEBUG No decoder registered for '" ++ tag ++ "' frontmatter"
  | rendered tag source => "TRACE Rendered " ++ tag ++ " frontmatter:\n" ++ source
  | replaced count total =>
    "DEBUG Replaced " ++ Nat.repr count ++ " of " ++ Nat.repr total ++
      " top-level nodes with ESM fragments"

/-- The decoders of a document, by tag. -/
structure Registry where
  decoders : List (Tag × Decoder)

namespace Registry

def empty : Registry := ⟨[]⟩

/-- Registers a decoder, in the place of an earlier one for the same tag. -/
def register (r : Registry) (tag : Tag) (decoder : Decoder) : Registry :=
  ⟨(tag, decoder) :: r.decoders.filter (·.1 ≠ tag)⟩

/-- The decoder of a tag. -/
def find? (r : Registry) (tag : Tag) : Option Decoder :=
  (r.decoders.find? (·.1 = tag)).map (·.2)

def isRegistered (r : Registry) (tag : Tag) : Bool := (r.find? tag).isSome

/-- What a block decodes to, with the records of the decoding. -/
def decodeBlock (r : Registry) (b : Block) : List LogRecord × Except Error (Option Data) :=
  match r.find? b.tag with
  | none => ([.noDecoder b.tag.name], .ok none)
  | some decoder =>
    match decoder b.value with
    | .ok .null => ([], .ok none)
    | .ok value => ([], .ok (some value))
    | .error e =>
      let location := match e.location, b.span with
        | some loc, some span => some (loc.shift span.start.line)
        | loc, _ => loc
      ([], .error (.decode b.tag.name e.message location))

/-- What a node decodes to; nothing unless it is a block. -/
def decode (r : Registry) (n : Node) : List LogRecord × Except Error (Option Data) :=
  match n with
  | .block b => r.decodeBlock b
  | _ => ([], .ok none)

end Registry
end Frontmatter
