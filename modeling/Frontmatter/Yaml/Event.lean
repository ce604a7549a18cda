/-
Frontmatter/Yaml/Event.lean

The events of a YAML document: the start and the end of each collection, and
each scalar, in the order of the text.

A `Reader` goes over the tokens with a stack of the rules that are still to be
finished.  Each step follows one rule and gives at most one event.  What is left
out in the text, such as a value after a colon, becomes an empty plain scalar.

`Document.ofText` gives the events of the first document of a text up to the
first problem, and tells whether anything follows that document.
-/
import Frontmatter.Yaml.Token

namespace Frontmatter.Yaml

inductive Event where
  | alias (name : List Char)
  | scalar (anchor : Option (List Char)) (tag : Option TagText) (value : String) (plain : Bool)
  | sequenceStart (anchor : Option (List Char)) (tag : Option TagText)
  | sequenceEnd
  | mappingStart (anchor : Option (List Char)) (tag : Option TagText)
  | mappingEnd
deriving Inhabited

/-- A rule that is being followed: what may stand at the next token. -/
inductive Rule where
  | document
  | documentContent
  | documentEnd
  | blockNode
  | blockSequenceEntry (first : Bool)
  | bareSequenceEntry
  | blockMappingKey (first : Bool)
  | blockMappingValue
  | flowSequenceEntry (first : Bool)
  | flowPairKey
  | flowPairValue
  | flowPairEnd
  | flowMappingKey (first : Bool)
  | flowMappingValue
  | flowMappingNoValue
  /-- The document is read. -/
  | done
  /-- There is no document. -/
  | nothing
deriving DecidableEq, Inhabited

structure Reader where
  tokens : List Lexeme
  /-- The problem that ends the tokens. -/
  problem : Option Problem
  rule : Rule
  /-- The rules that follow, innermost first. -/
  rules : List Rule
  /-- Where the open collections start. -/
  starts : List Mark
  /-- What the handles of tags stand for. -/
  handles : List (List Char × TagText)

/-- One step: the event it gives, if any, and the reader after it. -/
abbrev Step := Except Problem (Option (Event × Mark) × Reader)

namespace Reader

/-- The token at the reader. -/
def peek (r : Reader) : Except Problem Lexeme :=
  match r.tokens, r.problem with
  | t :: _, _ => .ok t
  | [], some p => .error p
  | [], none => .ok default

def advance (r : Reader) : Reader := { r with tokens := r.tokens.tail }

def turnTo (r : Reader) (rule : Rule) : Reader := { r with rule }

/-- Puts a rule on the stack. -/
def push (r : Reader) (rule : Rule) : Reader := { r with rules := rule :: r.rules }

/-- Goes on with the rule on top of the stack. -/
def pop (r : Reader) : Reader :=
  match r.rules with
  | [] => r.turnTo .done
  | rule :: rest => { r with rule, rules := rest }

/-- A collection starts at a mark. -/
def openAt (r : Reader) (m : Mark) : Reader := { r with starts := m :: r.starts }

/-- The innermost collection ends. -/
def close (r : Reader) : Reader := { r.pop with starts := r.starts.tail }

/-- A token that breaks the rule of the innermost collection. -/
def misplaced (r : Reader) (t : Lexeme) (cause : Cause) (construct : Construct) : Step :=
  .error ⟨cause, t.start, some (construct, r.starts.headD Mark.start)⟩

/-- An empty plain scalar. -/
def emptyScalar (r : Reader) (m : Mark) : Step := .ok (some (.scalar none none "" true, m), r)

def event (r : Reader) (e : Event) (m : Mark) : Step := .ok (some (e, m), r)

/-! ### Directives -/

/-- The handles that need no directive. -/
def defaultHandles : List (List Char × TagText) :=
  [(['!'], [some '!']), (['!', '!'], TagText.ofChars "tag:yaml.org,2002:".toList)]

/-- Reads the directives before a document. -/
def directives : Nat → Bool → Reader → Except Problem Reader
  | 0, _, r => .ok r
  | fuel + 1, versioned, r => do
    let t ← r.peek
    match t.token with
    | .directive (.version major minor) =>
      if versioned then .error ⟨.duplicateVersion, t.start, none⟩
      else if major ≠ 1 || (minor ≠ 1 && minor ≠ 2) then
        .error ⟨.incompatibleVersion, t.start, none⟩
      else directives fuel true r.advance
    | .directive (.tag handle stands) =>
      if r.handles.any (·.1 = handle) then .error ⟨.duplicateTagDirective, t.start, none⟩
      else directives fuel versioned { r.advance with handles := (handle, stands) :: r.handles }
    | _ => return { r with handles := r.handles ++ defaultHandles }

/-! ### Nodes -/

/-- What may stand before a node. -/
structure Properties where
  start : Mark
  anchor : Option (List Char)
  tag : Option TagText

/-- The tag that a handle and a rest stand for. -/
def resolveTag (r : Reader) (start tagStart : Mark) (handle : List Char) (rest : TagText) :
    Except Problem TagText :=
  if handle = [] then .ok rest
  else
    match r.handles.find? (·.1 = handle) with
    | some (_, stands) => .ok (stands ++ rest)
    | none => .error ⟨.undefinedHandle, tagStart, some (.node, start)⟩

/-- The anchor and the tag before a node, in either order. -/
def properties (r : Reader) : Except Problem (Properties × Reader) := do
  let t ← r.peek
  match t.token with
  | .anchor name =>
    let r := r.advance
    let u ← r.peek
    match u.token with
    | .tag handle rest =>
      let r := r.advance
      let _ ← r.peek
      let resolved ← r.resolveTag t.start u.start handle rest
      return (⟨t.start, some name, some resolved⟩, r)
    | _ => return (⟨t.start, some name, none⟩, r)
  | .tag handle rest =>
    let r := r.advance
    let u ← r.peek
    match u.token with
    | .anchor name =>
      let r := r.advance
      let _ ← r.peek
      let resolved ← r.resolveTag t.start t.start handle rest
      return (⟨t.start, some name, some resolved⟩, r)
    | _ =>
      let resolved ← r.resolveTag t.start t.start handle rest
      return (⟨t.start, none, some resolved⟩, r)
  | _ => return (⟨t.start, none, none⟩, r)

/-- A node that is no alias, after its properties. -/
def content (block bare : Bool) (p : Properties) (r : Reader) : Step := do
  let t ← r.peek
  match t.token with
  | .scalar value plain => r.advance.pop.event (.scalar p.anchor p.tag value plain) p.start
  | .flowSequenceStart =>
    (r.turnTo (.flowSequenceEntry true)).event (.sequenceStart p.anchor p.tag) p.start
  | .flowMappingStart =>
    (r.turnTo (.flowMappingKey true)).event (.mappingStart p.anchor p.tag) p.start
  | token =>
    if bare && token = .blockEntry then
      (r.turnTo .bareSequenceEntry).event (.sequenceStart p.anchor p.tag) p.start
    else if block && token = .blockSequenceStart then
      (r.turnTo (.blockSequenceEntry true)).event (.sequenceStart p.anchor p.tag) p.start
    else if block && token = .blockMappingStart then
      (r.turnTo (.blockMappingKey true)).event (.mappingStart p.anchor p.tag) p.start
    else if p.anchor.isSome || p.tag.isSome then
      r.pop.event (.scalar p.anchor p.tag "" true) p.start
    else
      .error ⟨.noContent, t.start, some (if block then .blockNode else .flowNode, p.start)⟩

/-- A node.  `block` allows a block collection, `bare` a sequence that is not
indented against the key before it. -/
def node (block bare : Bool) (r : Reader) : Step := do
  let t ← r.peek
  match t.token with
  | .alias name => r.advance.pop.event (.alias name) t.start
  | _ =>
    let (p, r) ← r.properties
    content block bare p r

/-! ### One step -/

/-- The start of a document. -/
def document (r : Reader) : Step := do
  let t ← r.peek
  match t.token with
  | .textStart => return (none, r.advance)
  | .textEnd => return (none, r.turnTo .nothing)
  | .directive _ | .documentStart =>
    let r ← directives (r.tokens.length + 1) false r
    let t ← r.peek
    if t.token = .documentStart then
      return (none, (r.advance.push .documentEnd).turnTo .documentContent)
    else .error ⟨.noDocumentStart, t.start, none⟩
  | _ => return (none, ({ r with handles := defaultHandles }.push .documentEnd).turnTo .blockNode)

def documentContent (r : Reader) : Step := do
  let t ← r.peek
  match t.token with
  | .directive _ | .documentStart | .documentEnd | .textEnd => r.pop.emptyScalar t.start
  | _ => node true false r

/-- The end of a document, with or without a marker. -/
def documentEnd (r : Reader) : Step := do
  let t ← r.peek
  return (none, (if t.token = .documentEnd then r.advance else r).turnTo .done)

def blockSequenceEntry (first : Bool) (r : Reader) : Step := do
  let t ← r.peek
  let r := if first then r.advance.openAt t.start else r
  let t ← r.peek
  match t.token with
  | .blockEntry =>
    let r := r.advance
    let u ← r.peek
    if u.token = .blockEntry || u.token = .blockEnd then
      (r.turnTo (.blockSequenceEntry false)).emptyScalar t.stop
    else node true false (r.push (.blockSequenceEntry false))
  | .blockEnd => r.advance.close.event .sequenceEnd t.start
  | _ => r.misplaced t .noDash .blockCollection

def bareSequenceEntry (r : Reader) : Step := do
  let t ← r.peek
  match t.token with
  | .blockEntry =>
    let r := r.advance
    let u ← r.peek
    match u.token with
    | .blockEntry | .key | .value | .blockEnd => (r.turnTo .bareSequenceEntry).emptyScalar t.stop
    | _ => node true false (r.push .bareSequenceEntry)
  | _ => r.pop.event .sequenceEnd t.start

def blockMappingKey (first : Bool) (r : Reader) : Step := do
  let t ← r.peek
  let r := if first then r.advance.openAt t.start else r
  let t ← r.peek
  match t.token with
  | .key =>
    let r := r.advance
    let u ← r.peek
    match u.token with
    | .key | .value | .blockEnd => (r.turnTo .blockMappingValue).emptyScalar t.stop
    | _ => node true true (r.push .blockMappingValue)
  | .blockEnd => r.advance.close.event .mappingEnd t.start
  | _ => r.misplaced t .noKey .blockMapping

def blockMappingValue (r : Reader) : Step := do
  let t ← r.peek
  match t.token with
  | .value =>
    let r := r.advance
    let u ← r.peek
    match u.token with
    | .key | .value | .blockEnd => (r.turnTo (.blockMappingKey false)).emptyScalar t.stop
    | _ => node true true (r.push (.blockMappingKey false))
  | _ => (r.turnTo (.blockMappingKey false)).emptyScalar t.start

def flowSequenceEntry (first : Bool) (r : Reader) : Step := do
  let t ← r.peek
  let r := if first then r.advance.openAt t.start else r
  let t ← r.peek
  if t.token = .flowSequenceEnd then r.advance.close.event .sequenceEnd t.start
  else if !first && t.token ≠ .flowEntry then r.misplaced t .noCommaOrBracket .flowSequence
  else
    let r := if first then r else r.advance
    let t ← r.peek
    match t.token with
    | .key => (r.advance.turnTo .flowPairKey).event (.mappingStart none none) t.start
    | .flowSequenceEnd => r.advance.close.event .sequenceEnd t.start
    | _ => node false false (r.push (.flowSequenceEntry false))

/-- The key of a pair that is an entry of a sequence.  Where the key is left out,
the token in its place is used up. -/
def flowPairKey (r : Reader) : Step := do
  let t ← r.peek
  match t.token with
  | .value | .flowEntry | .flowSequenceEnd => (r.advance.turnTo .flowPairValue).emptyScalar t.stop
  | _ => node false false (r.push .flowPairValue)

def flowPairValue (r : Reader) : Step := do
  let t ← r.peek
  if t.token = .value then
    let r := r.advance
    let u ← r.peek
    match u.token with
    | .flowEntry | .flowSequenceEnd => (r.turnTo .flowPairEnd).emptyScalar u.start
    | _ => node false false (r.push .flowPairEnd)
  else (r.turnTo .flowPairEnd).emptyScalar t.start

def flowPairEnd (r : Reader) : Step := do
  let t ← r.peek
  (r.turnTo (.flowSequenceEntry false)).event .mappingEnd t.start

def flowMappingKey (first : Bool) (r : Reader) : Step := do
  let t ← r.peek
  let r := if first then r.advance.openAt t.start else r
  let t ← r.peek
  if t.token = .flowMappingEnd then r.advance.close.event .mappingEnd t.start
  else if !first && t.token ≠ .flowEntry then r.misplaced t .noCommaOrBrace .flowMapping
  else
    let r := if first then r else r.advance
    let t ← r.peek
    match t.token with
    | .key =>
      let r := r.advance
      let u ← r.peek
      match u.token with
      | .value | .flowEntry | .flowMappingEnd => (r.turnTo .flowMappingValue).emptyScalar u.start
      | _ => node false false (r.push .flowMappingValue)
    | .flowMappingEnd => r.advance.close.event .mappingEnd t.start
    | _ => node false false (r.push .flowMappingNoValue)

def flowMappingValue (r : Reader) : Step := do
  let t ← r.peek
  if t.token = .value then
    let r := r.advance
    let u ← r.peek
    match u.token with
    | .flowEntry | .flowMappingEnd => (r.turnTo (.flowMappingKey false)).emptyScalar u.start
    | _ => node false false (r.push (.flowMappingKey false))
  else (r.turnTo (.flowMappingKey false)).emptyScalar t.start

def flowMappingNoValue (r : Reader) : Step := do
  let t ← r.peek
  (r.turnTo (.flowMappingKey false)).emptyScalar t.start

/-- Follows the rule of a reader. -/
def step (r : Reader) : Step :=
  match r.rule with
  | .document => r.document
  | .documentContent => r.documentContent
  | .documentEnd => r.documentEnd
  | .blockNode => node true false r
  | .blockSequenceEntry first => r.blockSequenceEntry first
  | .bareSequenceEntry => r.bareSequenceEntry
  | .blockMappingKey first => r.blockMappingKey first
  | .blockMappingValue => r.blockMappingValue
  | .flowSequenceEntry first => r.flowSequenceEntry first
  | .flowPairKey => r.flowPairKey
  | .flowPairValue => r.flowPairValue
  | .flowPairEnd => r.flowPairEnd
  | .flowMappingKey first => r.flowMappingKey first
  | .flowMappingValue => r.flowMappingValue
  | .flowMappingNoValue => r.flowMappingNoValue
  | .done | .nothing => .ok (none, r)

/-- After the first document nothing follows but markers of its end. -/
def atTextEnd (r : Reader) : Bool :=
  match r.tokens.dropWhile (·.token = .documentEnd) with
  | t :: _ => t.token = .textEnd
  | [] => false

end Reader

/-! ### Documents -/

/-- The first document of a text: its events, the problem that ended them, and
whether the text ends with it. -/
structure Document where
  events : List (Event × Mark)
  problem : Option Problem
  endsText : Bool

namespace Document

/-- The events from a reader on, collected in reverse. -/
def run : Nat → Reader → List (Event × Mark) → Document
  | 0, _, events => ⟨events.reverse, none, true⟩
  | fuel + 1, r, events =>
    match r.rule with
    | .done => ⟨events.reverse, none, r.atTextEnd⟩
    | .nothing => ⟨events.reverse, none, true⟩
    | _ =>
      match r.step with
      | .error p => ⟨events.reverse, some p, true⟩
      | .ok (none, r) => run fuel r events
      | .ok (some e, r) => run fuel r (e :: events)

/-- The first document of a text.  A token takes part in at most four steps. -/
def ofText (text : List Char) : Document :=
  let (tokens, problem) := Scanner.tokens text
  run (4 * tokens.length + 8) ⟨tokens, problem, .document, [], [], []⟩ []

end Document
end Frontmatter.Yaml
