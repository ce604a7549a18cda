/-
Frontmatter/Data/Basic.lean

The values that a metadata block decodes to: null, truth values, numbers,
strings, lists and records.

A record is a list of fields.  The decoders build records with
`Data.ofFields`, which sorts the fields by key and keeps the last of two
fields with one key, so a decoded record has its keys in strictly increasing
order.  Keys are compared byte by byte, which for text in UTF-8 is the order
of the characters.
-/
import Frontmatter.Decimal.Binary64

namespace Frontmatter

/-- A number: whole, or a finite double. -/
inductive Number where
  | whole (n : Int)
  | real (x : Binary64)
deriving DecidableEq, Inhabited

/-- A decoded value. -/
inductive Data where
  | null
  | bool (b : Bool)
  | num (n : Number)
  | str (s : String)
  | list (items : List Data)
  | record (fields : List (String × Data))
deriving Inhabited

namespace Data

/-- Puts a field at its place by key; a field with the same key is replaced. -/
def insertField (key : String) (value : Data) : List (String × Data) → List (String × Data)
  | [] => [(key, value)]
  | (k, v) :: rest =>
    if key < k then (key, value) :: (k, v) :: rest
    else if key = k then (key, value) :: rest
    else (k, v) :: insertField key value rest

/-- The record of a list of fields, where a later field wins over an earlier
one with the same key. -/
def ofFields (fields : List (String × Data)) : Data :=
  record (fields.foldl (fun sorted f => insertField f.1 f.2 sorted) [])

/-- The number of a double, or null for what is not finite. -/
def ofReal? : Option Binary64 → Data
  | some x => num (.real x)
  | none => null

def isNull : Data → Bool
  | null => true
  | _ => false

end Data
end Frontmatter
