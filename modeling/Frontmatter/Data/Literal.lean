/-
Frontmatter/Data/Literal.lean

The literal of a value: one line of text, without blanks, which is both JSON
and an expression of a module.  Strings are quoted; a quote, a backslash and
the control characters below the space are escaped, and every other
character stands for itself.
-/
import Frontmatter.Data.Basic
import Frontmatter.Decimal.Shortest

namespace Frontmatter

/-- A digit of a hexadecimal escape, in lower case. -/
def hexDigit (n : Nat) : Char :=
  if n < 10 then Char.ofNat (48 + n) else Char.ofNat (87 + n)

/-- A character inside quotes. -/
def escapeChar (c : Char) : List Char :=
  if c = '"' then ['\\', '"']
  else if c = '\\' then ['\\', '\\']
  else if 32 ≤ c.toNat then [c]
  else if c = '\n' then ['\\', 'n']
  else if c = '\t' then ['\\', 't']
  else if c = '\r' then ['\\', 'r']
  else if c.toNat = 8 then ['\\', 'b']
  else if c.toNat = 12 then ['\\', 'f']
  else ['\\', 'u', '0', '0', hexDigit (c.toNat / 16), hexDigit (c.toNat % 16)]

/-- A string in quotes. -/
def quote (s : String) : List Char := '"' :: (s.toList.flatMap escapeChar ++ ['"'])

def Number.literal : Number → List Char
  | .whole n => Binary64.intText n
  | .real x => x.text

mutual

/-- The literal of a value, as characters. -/
def Data.literalChars : Data → List Char
  | .null => ['n', 'u', 'l', 'l']
  | .bool true => ['t', 'r', 'u', 'e']
  | .bool false => ['f', 'a', 'l', 's', 'e']
  | .num n => n.literal
  | .str s => quote s
  | .list items => '[' :: (Data.itemsChars items ++ [']'])
  | .record fields => '{' :: (Data.fieldsChars fields ++ ['}'])

/-- The items of a list, with commas between them. -/
def Data.itemsChars : List Data → List Char
  | [] => []
  | [d] => d.literalChars
  | d :: rest => d.literalChars ++ ',' :: Data.itemsChars rest

/-- The fields of a record, with commas between them. -/
def Data.fieldsChars : List (String × Data) → List Char
  | [] => []
  | [(k, d)] => quote k ++ ':' :: d.literalChars
  | (k, d) :: rest => quote k ++ ':' :: (d.literalChars ++ ',' :: Data.fieldsChars rest)

end

/-- The literal of a value. -/
def Data.literal (d : Data) : String := String.ofList d.literalChars

end Frontmatter
