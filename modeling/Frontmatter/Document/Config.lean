/-
Frontmatter/Document/Config.lean

The configuration of a transform: which of the built-in renderers it uses, and
under which name a constant is exported.

A configuration is written as a JSON object; the name is left out if there is
none.  It is read from an object, where unknown fields are skipped and both
fields may be missing, or from a list of its two values.
-/
import Frontmatter.Data.Literal
import Frontmatter.Document.Pass
import Frontmatter.Json.Reader
import Frontmatter.Toml.Decode
import Frontmatter.Yaml.Decode

namespace Frontmatter

/-! ### What is built in -/

/-- The registry that reads the two built-in tags. -/
def Registry.builtin : Registry :=
  (Registry.empty.register .yaml Yaml.decode).register .toml Toml.decode

/-- A transform with the built-in registry. -/
def Transform.ofRenderer (renderer : Renderer) : Transform := ⟨Registry.builtin, renderer⟩

/-- The transform that is used if nothing else is asked for. -/
def Transform.builtin : Transform := Transform.ofRenderer Renderer.staticProps

/-! ### Configurations -/

/-- The built-in renderers. -/
inductive RendererKind where
  | staticProps
  | constant
deriving DecidableEq, Inhabited

namespace RendererKind

def name : RendererKind → String
  | staticProps => "staticProps"
  | constant => "export"

def ofName? (s : String) : Option RendererKind :=
  if s = "staticProps" then some staticProps
  else if s = "export" then some constant
  else none

end RendererKind

structure Config where
  renderer : RendererKind
  exportName : Option String
deriving DecidableEq, Inhabited

namespace Config

/-- The configuration of the built-in transform. -/
def builtin : Config := ⟨.staticProps, none⟩

/-- The transform that a configuration describes. -/
def transform (c : Config) : Transform :=
  Transform.ofRenderer (match c.renderer with
    | .staticProps => Renderer.staticProps
    | .constant => Renderer.constant (c.exportName.getD Renderer.defaultName))

/-! ### Writing -/

def textChars (c : Config) : List Char :=
  "\x7b\"renderer\":".toList ++ quote c.renderer.name ++
    (match c.exportName with
      | some name => ",\"exportName\":".toList ++ quote name
      | none => []) ++ ['}']

def text (c : Config) : String := String.ofList c.textChars

/-! ### Reading -/

open Json

/-- The kind that a name stands for. -/
def kindNamed (name : String) (c : Cursor) : Except Problem RendererKind :=
  match RendererKind.ofName? name with
  | some kind => .ok kind
  | none =>
    c.fail (.misfit ("unknown variant " ++ Json.ticked name ++ ", expected " ++
      Json.ticked "staticProps" ++ " or " ++ Json.ticked "export"))

/-- The colon after a key. -/
def colon (c : Cursor) : Except Problem Cursor :=
  let c := c.skipSpace
  match c.peek with
  | none => c.fail .endInObject
  | some ch => if ch = ':' then .ok c.skip else c.failAtNext .noColon

/-- A kind: its name, or an object with its name as the only key and null as the
value. -/
def readKind (c : Cursor) : Except Problem (RendererKind × Cursor) := do
  let c := c.skipSpace
  match c.peek with
  | none => c.fail .endInValue
  | some '"' =>
    let (name, c) ← Json.string c
    return (← kindNamed name c, c)
  | some '{' =>
    let c := c.skip.skipSpace
    match c.peek with
    | none => c.fail .endInValue
    | some '"' =>
      let (name, c) ← Json.string c
      let kind ← kindNamed name c
      let c := (← colon c).skipSpace
      let c ← match c.peek with
        | none => c.fail .endInValue
        | some 'n' => Json.null c
        | some _ => misfit "unit" c
      let c := c.skipSpace
      match c.peek with
      | none => c.fail .endInObject
      | some '}' => return (kind, c.skip)
      | some _ => c.fail .noValue
    | some _ => misfit "variant identifier" c
  | some _ => c.failAtNext .noValue

/-- A name, or null for none. -/
def readName (c : Cursor) : Except Problem (Option String × Cursor) := do
  let c := c.skipSpace
  match c.peek with
  | none => c.fail .endInValue
  | some 'n' => return (none, ← Json.null c)
  | some '"' =>
    let (name, c) ← Json.string c
    return (some name, c)
  | some _ => misfit "a string" c

/-- The next value of a list, or nothing at the end of the list. -/
def readItem {α : Type} (first : Bool) (read : Cursor → Except Problem (α × Cursor)) (c : Cursor) :
    Except Problem (Option α × Cursor) := do
  let c := c.skipSpace
  match c.peek with
  | none => c.fail .endInList
  | some ch =>
    if ch = ']' then return (none, c)
    else if first then
      let (a, c) ← read c
      return (some a, c)
    else if ch = ',' then
      let c := c.skip.skipSpace
      match c.peek with
      | none => c.fail .endInValue
      | some ']' => c.failAtNext .commaAtEnd
      | some _ =>
        let (a, c) ← read c
        return (some a, c)
    else c.failAtNext .noListEnd

/-- The end of a list. -/
def listEnd (c : Cursor) : Except Problem Cursor :=
  let c := c.skipSpace
  match c.peek with
  | none => c.fail .endInList
  | some ']' => .ok c.skip
  | some ',' =>
    let c := c.skip.skipSpace
    c.failAtNext (if c.peek = some ']' then .commaAtEnd else .moreText)
  | some _ => c.failAtNext .moreText

/-- A configuration as a list; the cursor stands behind the bracket. -/
def readList (c : Cursor) : Except Problem (Config × Cursor) := do
  let (kind, c) ← readItem true readKind c
  let (name, c) ← match kind with
    | some _ => readItem false readName c
    | none => readItem true readName c
  let c ← listEnd c
  return (⟨kind.getD .staticProps, name.getD none⟩, c)

/-- A field that stands twice.  The object is taken to end there, if it can. -/
def twice {α : Type} (field : String) (c : Cursor) : Except Problem α :=
  let c := c.skipSpace
  let c := if c.peek = some '}' then c.skip else c
  c.fail (.misfit ("duplicate field " ++ Json.ticked field))

/-- The next key of an object, or nothing at the end of the object. -/
def readKey (first : Bool) (c : Cursor) : Except Problem (Option String × Cursor) := do
  let c := c.skipSpace
  match c.peek with
  | none => c.fail .endInObject
  | some ch =>
    if ch = '}' then return (none, c.skip)
    else if first then
      if ch = '"' then
        let (key, c) ← Json.string c
        return (some key, c)
      else c.failAtNext .noKey
    else if ch = ',' then
      let c := c.skip.skipSpace
      match c.peek with
      | none => c.fail .endInValue
      | some '"' =>
        let (key, c) ← Json.string c
        return (some key, c)
      | some '}' => c.failAtNext .commaAtEnd
      | some _ => c.failAtNext .noKey
    else c.failAtNext .noObjectEnd

/-- The fields of an object from a key on, with the values of the fields so far. -/
def readFields : Nat → Bool → Option RendererKind → Option (Option String) → Cursor →
    Except Problem (Config × Cursor)
  | 0, _, _, _, c => c.fail .endInObject
  | fuel + 1, first, kind, name, c => do
    match ← readKey first c with
    | (none, c) => return (⟨kind.getD .staticProps, name.getD none⟩, c)
    | (some key, c) =>
      if key = "renderer" then
        if kind.isSome then twice "renderer" c
        else
          let (k, c) ← readKind (← colon c)
          readFields fuel false (some k) name c
      else if key = "exportName" then
        if name.isSome then twice "exportName" c
        else
          let (n, c) ← readName (← colon c)
          readFields fuel false kind (some n) c
      else
        let c ← skipValue (← colon c)
        readFields fuel false kind name c

/-- A configuration at a cursor. -/
def readAt (c : Cursor) : Except Problem (Config × Cursor) :=
  let c := c.skipSpace
  match c.peek with
  | none => c.fail .endInValue
  | some '[' => readList c.skip
  | some '{' => readFields (c.rest.length + 1) true none none c.skip
  | some _ => misfit "struct TransformConfig" c

/-- The configuration that a text holds. -/
def parse (text : String) : Except Problem Config := do
  let (config, c) ← readAt (Cursor.start text.toList)
  let c := c.skipSpace
  if c.rest = [] then return config else c.failAtNext .moreText

end Config
end Frontmatter
