/-
Frontmatter/Toml/Decode.lean

Decoding a TOML block.

Tables become records, arrays become lists, and dates and times become the text
they are displayed with.  A float that is not finite becomes null; nothing else
does.
-/
import Frontmatter.Data.Decoder
import Frontmatter.Toml.Document

namespace Frontmatter.Toml

def floatData : FloatValue → Data
  | .finite x => .num (.real x)
  | .infinite _ | .notANumber => .null

mutual

def Value.toData : Value → Data
  | .str s => .str s
  | .int n => .num (.whole n)
  | .float x => floatData x
  | .bool b => .bool b
  | .datetime d => .str d.display
  | .array items => .list (itemsData items)
  | .table fields => Data.ofFields (fieldsData fields)

def itemsData : List Value → List Data
  | [] => []
  | v :: rest => v.toData :: itemsData rest

def fieldsData : List (String × Value) → List (String × Data)
  | [] => []
  | (k, v) :: rest => (k, v.toData) :: fieldsData rest

end

/-- Decodes a TOML block. -/
def decode : Decoder := fun text =>
  match parse text.toList with
  | .ok fields => .ok (Value.table fields).toData
  | .error f => .error ⟨f.why.text, some (Location.ofOffset text f.offset)⟩

end Frontmatter.Toml
