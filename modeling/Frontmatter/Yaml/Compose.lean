/-
Frontmatter/Yaml/Compose.lean

From the events of a document to its value.

An anchor gets a slot when it is defined, and an alias names the slot its anchor
had at that point.  The slot's number is the count of the names in use before
it.  So a name that is defined again can share its slot with the next new name,
and then the later definition holds for both.

Collections may be nested a hundred and twenty-eight deep, and aliases may be
followed a hundred times as often as there are events.
-/
import Frontmatter.Text.Printable
import Frontmatter.Yaml.Event
import Frontmatter.Yaml.Value

namespace Frontmatter.Yaml

/-! ### Failures -/

/-- The way from the root of a document to a value. -/
inductive Path where
  | root
  | item (parent : Path) (index : Nat)
  | entry (parent : Path) (key : String)
  /-- Below a key that is no scalar. -/
  | hidden (parent : Path)
deriving Inhabited

namespace Path

def display : Path → String
  | root => "."
  | item parent index => parent.display ++ "[" ++ Nat.repr index ++ "]"
  | entry root key => key
  | entry parent key => parent.display ++ "." ++ key
  | hidden root => "?"
  | hidden parent => parent.display ++ ".?"

/-- How a message about the value at a path starts. -/
def intro : Path → String
  | root => ""
  | path => path.display ++ ": "

end Path

/-- How a float is written. -/
def floatText : FloatValue → List Char
  | .finite x => x.text
  | .infinite false => ['.', 'i', 'n', 'f']
  | .infinite true => ['-', '.', 'i', 'n', 'f']
  | .notANumber => ['.', 'n', 'a', 'n']

namespace Misfit

/-- How a key that stands twice is named. -/
def keyText : Value → String
  | .null => "with null key"
  | .bool b => "with key " ++ String.singleton '\x60' ++ toString b ++ String.singleton '\x60'
  | .int n => "with key " ++ String.ofList (Binary64.intText n)
  | .real x => "with key " ++ String.ofList (floatText x)
  | .str s => "with key " ++ Text.shownText s
  | .list _ | .map _ | .tagged _ _ => "in YAML map"

def text : Misfit → String
  | tooWide n =>
    "invalid type: integer " ++ String.singleton '\x60' ++ String.ofList (Binary64.intText n) ++
      String.singleton '\x60' ++ (if n < 0 then " as i128" else " as u128") ++
      ", expected any YAML value"
  | notA s kind => "invalid value: string " ++ Text.shownText s ++ ", expected " ++ kind
  | duplicateKey key => "duplicate entry " ++ keyText key

end Misfit

/-- Why a text has no value. -/
inductive Failure where
  /-- A control character, at a byte offset. -/
  | control (offset : Nat)
  | syntaxProblem (p : Problem)
  | unknownAnchor (m : Mark)
  | tooDeep (m : Mark)
  | tooManyAliases
  | endOfEvents
  | severalDocuments
  | misfit (what : Misfit) (path : Path) (m : Mark)

namespace Failure

/-- The mark that a message ends with, unless it is the origin. -/
def suffix (m : Mark) : String := if m.isOrigin then "" else " at " ++ m.display

def text : Failure → String
  | control 0 => "control characters are not allowed"
  | control offset => "control characters are not allowed at position " ++ Nat.repr offset
  | syntaxProblem p => p.text
  | unknownAnchor m => "unknown anchor" ++ suffix m
  | tooDeep m => "recursion limit exceeded" ++ suffix m
  | tooManyAliases => "repetition limit exceeded"
  | endOfEvents => "EOF while parsing a value"
  | severalDocuments =>
    "deserializing from YAML containing more than one document is not supported"
  | misfit what path m => path.intro ++ what.text ++ suffix m

def location : Failure → Option Location
  | control _ => some Mark.start.location
  | syntaxProblem p => some p.mark.location
  | unknownAnchor m | tooDeep m | misfit _ _ m => some m.location
  | tooManyAliases | endOfEvents | severalDocuments => none

end Failure

/-! ### Slots of anchors -/

/-- An event, with slots in the place of anchors and aliases. -/
inductive Part where
  | alias (slot : Nat)
  | scalar (tag : Option TagText) (value : String) (plain : Bool)
  | sequenceStart (tag : Option TagText)
  | sequenceEnd
  | mappingStart (tag : Option TagText)
  | mappingEnd
  /-- The text holds no document. -/
  | absent
deriving Inhabited

/-- The parts of a document, where each slot leads to, and what ends the parts. -/
structure Parts where
  parts : Array (Part × Mark)
  slots : List (Nat × Nat)
  failure : Failure

/-- The slots of the names, as far as the events were read. -/
structure Names where
  slotOf : List (List Char × Nat)
  slots : List (Nat × Nat)

namespace Names

/-- Gives a name the slot of a position. -/
def define (n : Names) (anchor : Option (List Char)) (position : Nat) : Names :=
  match anchor with
  | none => n
  | some name =>
    let slot := n.slotOf.length
    ⟨(name, slot) :: n.slotOf.filter (·.1 ≠ name), (slot, position) :: n.slots⟩

end Names

/-- Replaces anchors and aliases by slots, up to an alias without an anchor. -/
def partsOf (failure : Failure) : List (Event × Mark) → Names → Array (Part × Mark) → Parts
  | [], n, parts => ⟨parts, n.slots, failure⟩
  | (event, m) :: rest, n, parts =>
    match event with
    | .alias name =>
      match n.slotOf.find? (·.1 = name) with
      | some (_, slot) => partsOf failure rest n (parts.push (.alias slot, m))
      | none => ⟨parts, n.slots, .unknownAnchor m⟩
    | .scalar anchor tag value plain =>
      partsOf failure rest (n.define anchor parts.size) (parts.push (.scalar tag value plain, m))
    | .sequenceStart anchor tag =>
      partsOf failure rest (n.define anchor parts.size) (parts.push (.sequenceStart tag, m))
    | .mappingStart anchor tag =>
      partsOf failure rest (n.define anchor parts.size) (parts.push (.mappingStart tag, m))
    | .sequenceEnd => partsOf failure rest n (parts.push (.sequenceEnd, m))
    | .mappingEnd => partsOf failure rest n (parts.push (.mappingEnd, m))

/-! ### Scalars -/

def coreTag (name : String) : TagText := TagText.ofChars ("tag:yaml.org,2002:" ++ name).toList

/-- The name of a tag of the document's own. -/
def localTag? (tag : Option TagText) : Option String :=
  match tag with
  | some (some '!' :: rest) =>
    ((if rest = [] then [some '!'] else rest : TagText).toChars?).map String.ofList
  | _ => none

/-- The value of a scalar.  A tag tells its type; another tag that is not the
document's own makes it a string, and so do quotes. -/
def scalarValue (tag : Option TagText) (text : String) (plain : Bool) : Except Misfit Value :=
  let cs := text.toList
  match tag with
  | none => if plain then Value.ofPlain text else .ok (.str text)
  | some t =>
    if t = coreTag "bool" then
      match boolOfText? cs with
      | some b => .ok (.bool b)
      | none => .error (.notA text "a boolean")
    else if t = coreTag "int" then
      match readInt? cs with
      | some (.fits n) => .ok (.int n)
      | some (.tooWide n) => .error (.tooWide n)
      | none => .error (.notA text "an integer")
    else if t = coreTag "float" then
      match realOfText? cs with
      | some x => .ok (.real x)
      | none => .error (.notA text "a float")
    else if t = coreTag "null" then
      if isNullText cs then .ok .null else .error (.notA text "null")
    else if t.head? = some (some '!') && plain then Value.ofPlain text
    else .ok (.str text)

/-! ### Collections -/

/-- A value, the position after it, and how many aliases were followed. -/
abbrev Found (α : Type) := α × Nat × Nat

/-- Reads the value at a position. -/
abbrev ValueReader := Path → Nat → Nat → Except Failure (Found Value)

namespace Parts

def failAt {α : Type} (what : Misfit) (path : Path) (m : Mark) : Except Failure (Found α) :=
  .error (.misfit what path m)

/-- The items of a sequence. -/
def items (ps : Parts) (read : ValueReader) (path : Path) : Nat → Nat → Nat → Nat →
    Except Failure (Found (List Value))
  | 0, _, _, _ => .error ps.failure
  | fuel + 1, index, pos, jumps =>
    match ps.parts[pos]? with
    | none => .error ps.failure
    | some (.sequenceEnd, _) => .ok ([], pos + 1, jumps)
    | some _ => do
      let (v, pos, jumps) ← read (.item path index) pos jumps
      let (vs, pos, jumps) ← items ps read path fuel (index + 1) pos jumps
      return (v :: vs, pos, jumps)

/-- The path to the value of a key. -/
def below (path : Path) : Part → Path
  | .scalar _ value _ => .entry path value
  | _ => .hidden path

/-- The entries of a mapping, after those that were read. -/
def entries (ps : Parts) (read : ValueReader) (path : Path) (start : Mark) : Nat →
    List (Value × Value) → Nat → Nat → Except Failure (Found (List (Value × Value)))
  | 0, _, _, _ => .error ps.failure
  | fuel + 1, before, pos, jumps =>
    match ps.parts[pos]? with
    | none => .error ps.failure
    | some (.mappingEnd, _) => .ok (before.reverse, pos + 1, jumps)
    | some (part, _) => do
      let (key, pos, jumps) ← read path pos jumps
      match before.find? (·.1.same key) with
      | some (twin, _) => failAt (.duplicateKey twin) path start
      | none =>
        let (value, pos, jumps) ← read (below path part) pos jumps
        entries ps read path start fuel ((key, value) :: before) pos jumps

/-- The value of a part that is no alias.  `inside` reads the values in a
collection, if collections may still be nested. -/
def contentAt (ps : Parts) (inside : Option ValueReader) (path : Path) (tag : Option TagText)
    (part : Part) (m : Mark) (pos jumps : Nat) : Except Failure (Found Value) :=
  match part with
  | .scalar _ text plain =>
    match scalarValue tag text plain with
    | .ok v => .ok (v, pos + 1, jumps)
    | .error what => failAt what path m
  | .sequenceStart _ =>
    match inside with
    | none => .error (.tooDeep m)
    | some read => do
      let (vs, pos, jumps) ← ps.items read path (ps.parts.size + 1) 0 (pos + 1) jumps
      return (.list vs, pos, jumps)
  | .mappingStart _ =>
    match inside with
    | none => .error (.tooDeep m)
    | some read => do
      let (es, pos, jumps) ← ps.entries read path m (ps.parts.size + 1) [] (pos + 1) jumps
      return (.map es, pos, jumps)
  | .absent => .ok (.null, pos + 1, jumps)
  | .alias _ | .sequenceEnd | .mappingEnd => .error ps.failure

/-- The tag of a part. -/
def tagOf : Part → Option TagText
  | .scalar tag _ _ | .sequenceStart tag | .mappingStart tag => tag
  | _ => none

/-- The value of a part that is no alias, under its tag if the tag is the
document's own. -/
def valueAt (ps : Parts) (inside : Option ValueReader) (path : Path) (part : Part) (m : Mark)
    (pos jumps : Nat) : Except Failure (Found Value) :=
  match localTag? (tagOf part) with
  | some name => do
    let (v, pos, jumps) ← ps.contentAt inside path none part m pos jumps
    return (.tagged name v, pos, jumps)
  | none => ps.contentAt inside path (tagOf part) part m pos jumps

/-- The value at a position, following an alias to its anchor. -/
def node (ps : Parts) (inside : Option ValueReader) (path : Path) (pos jumps : Nat) :
    Except Failure (Found Value) :=
  match ps.parts[pos]? with
  | none => .error ps.failure
  | some (.alias slot, _) =>
    if ps.parts.size * 100 < jumps + 1 then .error .tooManyAliases
    else
      match (ps.slots.find? (·.1 = slot)).bind fun s => (ps.parts[s.2]?).map (s.2, ·) with
      | none => .error ps.failure
      | some (target, part, m) => do
        let (v, _, jumps) ← ps.valueAt inside path part m target (jumps + 1)
        return (v, pos + 1, jumps)
  | some (part, m) => ps.valueAt inside path part m pos jumps

/-- The value at a position, with collections nested at most so deep. -/
def read (ps : Parts) : Nat → ValueReader
  | 0 => ps.node none
  | depth + 1 => ps.node (some (ps.read depth))

end Parts

/-- The value of a document. -/
def Document.value (d : Document) : Except Failure Value := do
  let ended : Failure := match d.problem with
    | some p => .syntaxProblem p
    | none => .endOfEvents
  let ps := partsOf ended d.events ⟨[], []⟩ #[]
  let ps :=
    if d.events.isEmpty && d.problem.isNone then { ps with parts := #[(.absent, Mark.start)] }
    else ps
  let (v, _, _) ← ps.read 128 .root 0 0
  match ps.failure with
  | .endOfEvents => if d.endsText then return v else .error .severalDocuments
  | failure => .error failure

end Frontmatter.Yaml
