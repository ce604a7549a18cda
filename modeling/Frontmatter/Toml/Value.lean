/-
Frontmatter/Toml/Value.lean

The values of a TOML text, and how they are read.

Arrays and inline tables may be nested less than eighty deep, and a dotted key
has fewer than eighty parts.  In an inline table a dotted key makes tables on
its way; such a table can be extended by further dotted keys of the same inline
table, and no other table can.
-/
import Frontmatter.Toml.Datetime

namespace Frontmatter.Toml

open Frontmatter.Toml.Parser

inductive Value where
  | str (s : String)
  | int (n : Int)
  | float (x : FloatValue)
  | bool (b : Bool)
  | datetime (d : Datetime)
  | array (items : List Value)
  | table (fields : List (String × Value))
deriving Inhabited

/-- How the type of a value is named. -/
def Value.typeName : Value → String
  | str _ => "string"
  | int _ => "integer"
  | float _ => "float"
  | bool _ => "boolean"
  | datetime _ => "datetime"
  | array _ => "array"
  | table _ => "inline table"

/-- No nesting is as deep as this. -/
def depthLimit : Nat := 80

/-! ### Keys -/

def isBareKeyChar (c : Char) : Bool := c.isAlphanum || c = '-' || c = '_'

/-- One part of a key, in quotes or bare. -/
def simpleKey : Parser String := fun cs =>
  match cs with
  | '"' :: _ => (String.ofList <$> basicString) cs
  | '\'' :: _ => (String.ofList <$> literalString) cs
  | _ => (String.ofList <$> takeWhile1 isBareKeyChar) cs

/-- A key and the blanks around it. -/
def spacedKey : Parser String := do
  let _ ← blanks
  let k ← simpleKey
  let _ ← blanks
  return k

/-- A key with the keys that lead to it. -/
structure KeyPath where
  leading : List String
  last : String
deriving DecidableEq, Inhabited

def KeyPath.ofList : List String → KeyPath
  | [] => ⟨[], ""⟩
  | [k] => ⟨[], k⟩
  | k :: rest => let p := ofList rest; ⟨k :: p.leading, p.last⟩

/-- A dotted key. -/
def key : Parser KeyPath :=
  check (named .key (separated spacedKey (char '.'))) fun ks =>
    if ks.length < depthLimit then .ok (KeyPath.ofList ks) else .error .tooDeep

/-- The sign between a key and its value. -/
def equalSign : Parser Unit := do
  let _ ← expecting (.literal "=") (expecting (.literal ".") (char '='))

/-! ### Inline tables -/

/-- A field of an inline table that is being read: a value, or a table that a
dotted key has made. -/
inductive Field where
  | value (v : Value)
  | dotted (fields : List (String × Field))
deriving Inhabited

mutual

/-- The value of a field. -/
def Field.toValue : Field → Value
  | .value v => v
  | .dotted fields => .table (fieldsToValues fields)

def fieldsToValues : List (String × Field) → List (String × Value)
  | [] => []
  | (k, f) :: rest => (k, f.toValue) :: fieldsToValues rest

end

/-- Replaces the field of a key, or adds one at the end. -/
def putField {α : Type} (key : String) (field : α) (fields : List (String × α)) :
    List (String × α) :=
  match fields with
  | [] => [(key, field)]
  | (k, f) :: rest => if k = key then (k, field) :: rest else (k, f) :: putField key field rest

/-- The field of a key. -/
def fieldOf? {α : Type} (key : String) (fields : List (String × α)) : Option α :=
  (fields.find? (·.1 = key)).map (·.2)

/-- Adds a value under a dotted key: `leading` are the keys that still lead to
it, `before` those that were followed. -/
def addField (value : Value) (last : String) : (leading before : List String) →
    List (String × Field) → Except Fault (List (String × Field))
  | [], _, fields =>
    match fieldOf? last fields with
    | none => .ok (putField last (.value value) fields)
    | some _ => .error (.duplicateKey last none)
  | k :: leading, before, fields => do
    match fieldOf? k fields with
    | none => return putField k (.dotted (← addField value last leading (before ++ [k]) [])) fields
    | some (.dotted inner) =>
      return putField k (.dotted (← addField value last leading (before ++ [k]) inner)) fields
    | some (.value (.table _)) => .error (.duplicateKey k none)
    | some (.value v) => .error (.noTable (before ++ [k]) v.typeName)

/-- The inline table of keys and values. -/
def inlineTableOf (pairs : List (KeyPath × Value)) : Except Fault Value := do
  let fields ← pairs.foldlM (fun fields (p : KeyPath × Value) =>
    addField p.2 p.1.last p.1.leading [] fields) []
  return .table (fieldsToValues fields)

/-! ### Values -/

/-- What a value cannot start with is taken for a string without quotes. -/
def asString {α : Type} (p : Parser α) : Parser α :=
  expecting (.literal "'") (expecting (.literal "\"") (named .string p))

/-- A fixed word; its first letter decides. -/
def word (s : List Char) (v : Value) : Parser Value := do
  must (literal s)
  return v

/-- A pair of an inline table. -/
def inlinePair (value : Parser Value) : Parser (KeyPath × Value) := do
  let k ← key
  must do
    equalSign
    let _ ← blanks
    let v ← value
    let _ ← blanks
    return (k, v)

def inlineTable (value : Parser Value) : Parser Value := do
  let _ ← char '{'
  let table ← must (check
    (do
      let pairs ← optional (separated (inlinePair value) (char ','))
      let _ ← blanks
      return pairs.getD [])
    inlineTableOf)
  let _ ← expecting (.literal "\x7d") (named .inlineTable (must (char '}')))
  return table

def array (value : Parser Value) : Parser Value := do
  let _ ← char '['
  let items ← must (do
    if (← optional (look (char ']'))).isSome then return []
    let items ← optional (do
      let items ← separated
        (do
          arrayGap
          let v ← value
          arrayGap
          return v)
        (char ',')
      let _ ← optional (char ',')
      return items)
    arrayGap
    return items.getD [])
  let _ ← expecting (.literal "]") (named .array (must (char ']')))
  return .array items

/-- A date, a float or an integer. -/
def number : Parser Value :=
  orElse (Value.datetime <$> datetime) (orElse (Value.float <$> float) (Value.int <$> integer))

/-- Reads what may be nested, unless it is too deep. -/
def nested (value : Option (Parser Value)) (p : Parser Value → Parser Value) : Parser Value :=
  match value with
  | some value => p value
  | none => must (refuse .tooDeep)

/-- A value, with a reader for the values in it. -/
def valueWith (inner : Option (Parser Value)) : Parser Value := fun cs =>
  match cs with
  | [] => fail cs
  | c :: _ =>
    if c = '"' || c = '\'' then (Value.str <$> string) cs
    else if c = '[' then nested inner array cs
    else if c = '{' then nested inner inlineTable cs
    else if c.isDigit || isSign c then number cs
    else if c = '_' then
      expecting (.described "leading digit") (Value.int <$> integer) cs
    else if c = '.' then
      expecting (.described "leading digit") (Value.float <$> float) cs
    else if c = 't' then asString (word ['t', 'r', 'u', 'e'] (.bool true)) cs
    else if c = 'f' then asString (word ['f', 'a', 'l', 's', 'e'] (.bool false)) cs
    else if c = 'i' then asString (Value.float <$> infinity) cs
    else if c = 'n' then asString (Value.float <$> notANumber) cs
    else asString fail cs

/-- A value, with others nested in it at most so deep. -/
def valueWithin : Nat → Parser Value
  | 0 => valueWith none
  | depth + 1 => valueWith (some (valueWithin depth))

def value : Parser Value := valueWithin (depthLimit - 1)

end Frontmatter.Toml
