/-
Frontmatter/Yaml/Decode.lean

Decoding a YAML block.

A text with a control character is refused at once.  The value of the document
becomes data: keys that are numbers or truth values are spelled out, a value
under a tag becomes a record with the tag as its key, and what is not finite
becomes null.  Other keys are refused.
-/
import Frontmatter.Data.Decoder
import Frontmatter.Yaml.Compose

namespace Frontmatter.Yaml

/-- A character that a text may hold. -/
def isAllowed (c : Char) : Bool :=
  let n := c.toNat
  n = 9 || n = 10 || n = 13 || (32 ≤ n && n ≤ 126) || n = 0x85 || (0xA0 ≤ n && n ≤ 0xD7FF) ||
    (0xE000 ≤ n && n ≤ 0xFFFD) || 0x10000 ≤ n

/-- The value of a text that holds one document. -/
def valueOf (text : List Char) : Except Failure Value :=
  match text.dropWhile isAllowed with
  | _ :: _ => .error (.control (byteLength (text.takeWhile isAllowed)))
  | [] => (Document.ofText text).value

/-! ### Data -/

/-- Why a key is no text. -/
inductive KeyFault where
  | notText
  | notFinite
deriving DecidableEq

def KeyFault.text : KeyFault → String
  | notText => "key must be a string"
  | notFinite => "float key must be finite (got NaN or +/-inf)"

/-- The text of a key. -/
def keyText : Value → Except KeyFault String
  | .str s => .ok s
  | .bool true => .ok "true"
  | .bool false => .ok "false"
  | .int n => .ok (String.ofList (Binary64.intText n))
  | .real (.finite x) => .ok (String.ofList x.text)
  | .real _ => .error .notFinite
  | .null | .list _ | .map _ | .tagged _ _ => .error .notText

/-- The key of a value under a tag. -/
def tagKey (name : String) : String := "!" ++ bareTag name

mutual

def Value.toData : Value → Except KeyFault Data
  | .null => .ok .null
  | .bool b => .ok (.bool b)
  | .int n => .ok (.num (.whole n))
  | .real (.finite x) => .ok (.num (.real x))
  | .real _ => .ok .null
  | .str s => .ok (.str s)
  | .list items => do return .list (← itemsData items)
  | .map entries => do return Data.ofFields (← entriesData entries)
  | .tagged name value => do return .record [(tagKey name, ← value.toData)]

def itemsData : List Value → Except KeyFault (List Data)
  | [] => .ok []
  | v :: rest => do
    let d ← v.toData
    return d :: (← itemsData rest)

/-- The fields of a mapping's entries, in the order of the text. -/
def entriesData : List (Value × Value) → Except KeyFault (List (String × Data))
  | [] => .ok []
  | (k, v) :: rest => do
    let key ← keyText k
    let d ← v.toData
    return (key, d) :: (← entriesData rest)

end

/-- Decodes a YAML block. -/
def decode : Decoder := fun text =>
  match valueOf text.toList with
  | .error failure => .error ⟨failure.text, failure.location⟩
  | .ok value =>
    match value.toData with
    | .ok data => .ok data
    | .error fault =>
      .error ⟨"frontmatter mapping keys must be strings or scalars (" ++ fault.text ++ ")", none⟩

end Frontmatter.Yaml
