/-
Frontmatter/Yaml/Token.lean

The tokens of a YAML text.

Indentation becomes tokens of its own: a block opens where its first entry
stands and closes before the first token that stands to the left of it.  The
colon after a key shows only afterwards that a key stood before it.  So a
`Scanner` remembers where a key may have started, one such place for every
depth of brackets, and holds back the tokens from there on; when the colon
comes, a key token is put in at that place.  A key must fit on one line and into
1024 characters; where the indentation asks for a key and none comes, that is a
problem.

`Scanner.tokens` gives the tokens that are certain before the first problem,
and the problem.
-/
import Frontmatter.Yaml.Scalar
import Frontmatter.Yaml.Tag

namespace Frontmatter.Yaml

inductive Token where
  | textStart
  | textEnd
  | directive (d : Directive)
  | documentStart
  | documentEnd
  | blockSequenceStart
  | blockMappingStart
  | blockEnd
  | flowSequenceStart
  | flowSequenceEnd
  | flowMappingStart
  | flowMappingEnd
  | blockEntry
  | flowEntry
  | key
  | value
  | alias (name : List Char)
  | anchor (name : List Char)
  | tag (handle : List Char) (rest : TagText)
  | scalar (value : String) (plain : Bool)
deriving DecidableEq, Inhabited

/-- A token and the marks at which it starts and after which it stops. -/
structure Lexeme where
  token : Token
  start : Mark
  stop : Mark
deriving DecidableEq, Inhabited

/-- A place where a key may start: the number of the token there, and whether
the indentation asks for a key. -/
structure KeyPlace where
  number : Nat
  required : Bool
  mark : Mark

structure Scanner where
  cursor : Cursor
  /-- The column of the innermost block, `-1` outside of all blocks. -/
  indent : Int
  /-- The columns of the blocks around it. -/
  indents : List Int
  /-- A key may start at the cursor. -/
  keyAllowed : Bool
  /-- Where a key may have started, inside the innermost brackets. -/
  place : Option KeyPlace
  /-- The same for the brackets around them, and outside of all brackets. -/
  places : List (Option KeyPlace)
  /-- The certain tokens, last first, and how many there are. -/
  certain : List Lexeme
  count : Nat
  /-- The tokens that are held back. -/
  held : List Lexeme
  finished : Bool

namespace Scanner

/-- The scanner at the start of a text. -/
def ofText (text : List Char) : Scanner where
  cursor := ⟨text, Mark.start⟩
  indent := -1
  indents := []
  keyAllowed := true
  place := none
  places := []
  certain := [⟨.textStart, Mark.start, Mark.start⟩]
  count := 1
  held := []
  finished := false

/-- The cursor is inside brackets or braces. -/
def inFlow (s : Scanner) : Bool := s.places ≠ []

def mark (s : Scanner) : Mark := s.cursor.mark

/-- A problem at the cursor. -/
def problem {α : Type} (s : Scanner) (cause : Cause) : Except Problem α :=
  .error ⟨cause, s.mark, none⟩

/-- Adds a token that takes no characters. -/
def addEmpty (s : Scanner) (token : Token) (mark : Mark) : Scanner :=
  { s with held := s.held ++ [⟨token, mark, mark⟩] }

/-- Adds a token from the cursor to another one, and goes there. -/
def addTo (s : Scanner) (token : Token) (after : Cursor) : Scanner :=
  { s with held := s.held ++ [⟨token, s.mark, after.mark⟩], cursor := after }

/-- Puts a token in at a place among the tokens that are held back. -/
def insertAt (s : Scanner) (number : Nat) (token : Token) (mark : Mark) : Scanner :=
  { s with held := s.held.insertIdx (number - s.count) ⟨token, mark, mark⟩ }

/-! ### Places of keys -/

/-- The problem that the indentation asks for a key at a place where none is. -/
def missingKey {α : Type} (s : Scanner) (k : KeyPlace) : Except Problem α :=
  .error ⟨.noColon, s.mark, some (.simpleKey, k.mark)⟩

/-- Gives up a place that is on an earlier line or too far back. -/
def refresh (s : Scanner) (place : Option KeyPlace) : Except Problem (Option KeyPlace) :=
  match place with
  | none => .ok none
  | some k =>
    if k.mark.line < s.mark.line || k.mark.index + 1024 < s.mark.index then
      if k.required then s.missingKey k else .ok none
    else .ok (some k)

/-- Gives up the places that are too far back.  Of several problems the outermost
one is reported. -/
def refreshPlaces (s : Scanner) : Except Problem Scanner := do
  let places ← s.places.reverse.mapM s.refresh
  let place ← s.refresh s.place
  return { s with place, places := places.reverse }

/-- Gives up the innermost place. -/
def dropPlace (s : Scanner) : Except Problem Scanner :=
  match s.place with
  | some k => if k.required then s.missingKey k else .ok { s with place := none }
  | none => .ok s

/-- A key may start at the cursor. -/
def savePlace (s : Scanner) : Except Problem Scanner :=
  if s.keyAllowed then do
    let required := !s.inFlow && s.indent = (s.mark.column : Int)
    let s' ← s.dropPlace
    return { s' with place := some ⟨s.count + s.held.length, required, s.mark⟩ }
  else .ok s

/-! ### Indentation -/

/-- Opens a block at a column, if it is to the right of the innermost one; `put`
adds its token. -/
def openBlock (s : Scanner) (column : Nat) (put : Scanner → Scanner) : Scanner :=
  if !s.inFlow && s.indent < (column : Int) then
    put { s with indents := s.indent :: s.indents, indent := (column : Int) }
  else s

/-- Opens a block at the cursor. -/
def openBlockHere (s : Scanner) (token : Token) : Scanner :=
  s.openBlock s.mark.column (·.addEmpty token s.mark)

/-- Closes the blocks to the right of a column. -/
def closeBlocks (s : Scanner) (column : Int) : Scanner :=
  if s.inFlow then s else go s.indents s
where
  go : List Int → Scanner → Scanner
    | [], s => s
    | outer :: rest, s =>
      if column < s.indent then
        go rest { s.addEmpty .blockEnd s.mark with indent := outer, indents := rest }
      else s

/-! ### One token -/

/-- Past blanks, comments and line ends.  A tab is a blank only where no key may
start.  A key may start on a new line. -/
def skipToToken : Nat → Scanner → Scanner
  | 0, s => s
  | fuel + 1, s =>
    let c := s.cursor
    let c := if c.mark.index = 0 && c.isAt '\ufeff' then c.skip else c
    let c := c.skipWhile fun ch => ch = ' ' || ((s.inFlow || !s.keyAllowed) && ch = '\t')
    let c := if c.isAt '#' then c.skipWhile (!isBreak ·) else c
    if c.nextIs isBreak then
      skipToToken fuel { s with cursor := c.skipLineEnd, keyAllowed := s.keyAllowed || !s.inFlow }
    else { s with cursor := c }

/-- The end of the text, which stands at the start of a line. -/
def fetchEnd (s : Scanner) : Except Problem Scanner := do
  let m := s.mark
  let m := if m.column = 0 then m else ⟨m.index, m.line + 1, 0⟩
  let s := { s with cursor := { s.cursor with mark := m } }
  let s ← (s.closeBlocks (-1)).dropPlace
  return { s.addEmpty .textEnd m with keyAllowed := false, finished := true }

def fetchDirective (s : Scanner) : Except Problem Scanner := do
  let s ← (s.closeBlocks (-1)).dropPlace
  let (d, after) ← directive s.cursor
  return { s.addTo (.directive d) after with keyAllowed := false }

def fetchBorder (s : Scanner) (token : Token) : Except Problem Scanner := do
  let s ← (s.closeBlocks (-1)).dropPlace
  return { s.addTo token (s.cursor.skips 3) with keyAllowed := false }

def fetchOpening (s : Scanner) (token : Token) : Except Problem Scanner := do
  let s ← s.savePlace
  let s := s.addTo token s.cursor.skip
  return { s with places := s.place :: s.places, place := none, keyAllowed := true }

def fetchClosing (s : Scanner) (token : Token) : Except Problem Scanner := do
  let s ← s.dropPlace
  let s := match s.places with
    | [] => s
    | outer :: rest => { s with place := outer, places := rest }
  return { s.addTo token s.cursor.skip with keyAllowed := false }

def fetchFlowEntry (s : Scanner) : Except Problem Scanner := do
  let s ← s.dropPlace
  return { s.addTo .flowEntry s.cursor.skip with keyAllowed := true }

def fetchBlockEntry (s : Scanner) : Except Problem Scanner := do
  if !s.inFlow && !s.keyAllowed then s.problem .entryNotAllowed
  else
    let s ← (s.openBlockHere .blockSequenceStart).dropPlace
    return { s.addTo .blockEntry s.cursor.skip with keyAllowed := true }

def fetchKey (s : Scanner) : Except Problem Scanner := do
  if !s.inFlow && !s.keyAllowed then s.problem .keyNotAllowed
  else
    let s ← (s.openBlockHere .blockMappingStart).dropPlace
    return { s.addTo .key s.cursor.skip with keyAllowed := !s.inFlow }

/-- A colon.  The key before it starts at the remembered place; the block it
opens starts there as well. -/
def fetchValue (s : Scanner) : Except Problem Scanner :=
  match s.place with
  | some k =>
    let s := s.insertAt k.number .key k.mark
    let s := s.openBlock k.mark.column (·.insertAt k.number .blockMappingStart k.mark)
    .ok { s.addTo .value s.cursor.skip with place := none, keyAllowed := false }
  | none =>
    if !s.inFlow && !s.keyAllowed then s.problem .valueNotAllowed
    else
      let s := s.openBlockHere .blockMappingStart
      .ok { s.addTo .value s.cursor.skip with keyAllowed := !s.inFlow }

def fetchAlias (s : Scanner) : Except Problem Scanner := do
  let s ← s.savePlace
  let (name, after) ← anchorName .alias s.cursor
  return { s.addTo (.alias name) after with keyAllowed := false }

def fetchAnchor (s : Scanner) : Except Problem Scanner := do
  let s ← s.savePlace
  let (name, after) ← anchorName .anchor s.cursor
  return { s.addTo (.anchor name) after with keyAllowed := false }

def fetchTag (s : Scanner) : Except Problem Scanner := do
  let s ← s.savePlace
  let (handle, rest, after) ← tag s.inFlow s.cursor
  return { s.addTo (.tag handle rest) after with keyAllowed := false }

/-- The token of a text that was collected. -/
def scalarToken (text : Collected) (plain : Bool) : Token :=
  .scalar (String.ofList text.reverse) plain

def fetchBlockScalar (s : Scanner) (folded : Bool) : Except Problem Scanner := do
  let s ← s.dropPlace
  let (text, after) ← blockScalar folded s.indent s.cursor
  return { s.addTo (scalarToken text false) after with keyAllowed := true }

def fetchQuoted (s : Scanner) (quote : Char) : Except Problem Scanner := do
  let s ← s.savePlace
  let (text, after) ← quotedScalar quote s.cursor
  return { s.addTo (scalarToken text false) after with keyAllowed := false }

def fetchPlain (s : Scanner) : Except Problem Scanner := do
  let s ← s.savePlace
  let scalar ← plainScalar s.inFlow s.indent s.cursor
  return { s.addTo (scalarToken scalar.text true) scalar.cursor with keyAllowed := scalar.broken }

/-- A character that no plain scalar starts with, unless what follows allows it. -/
def isIndicator (c : Char) : Bool :=
  ['-', '?', ':', ',', '[', ']', '{', '}', '#', '&', '*', '!', '|', '>', '\'', '"', '%', '@',
    '`'].contains c

/-- A plain scalar starts at the cursor. -/
def startsPlain (s : Scanner) (c : Char) : Bool :=
  !(isSpace c || isIndicator c) ||
    (c = '-' && !(match s.cursor.ahead 1 with | some ch => isBlank ch | none => false)) ||
    (!s.inFlow && (c = '?' || c = ':') && !s.cursor.spaceAhead 1)

/-- The next token, together with the tokens that the indentation asks for. -/
def fetch (s : Scanner) : Except Problem Scanner := do
  let s := skipToToken (s.cursor.rest.length + 1) s
  let s ← s.refreshPlaces
  let s := s.closeBlocks (s.mark.column : Int)
  let c := s.cursor
  match c.peek with
  | none => s.fetchEnd
  | some ch =>
    if c.mark.column = 0 && ch = '%' then s.fetchDirective
    else if c.atMarker '-' then s.fetchBorder .documentStart
    else if c.atMarker '.' then s.fetchBorder .documentEnd
    else if ch = '[' then s.fetchOpening .flowSequenceStart
    else if ch = '{' then s.fetchOpening .flowMappingStart
    else if ch = ']' then s.fetchClosing .flowSequenceEnd
    else if ch = '}' then s.fetchClosing .flowMappingEnd
    else if ch = ',' then s.fetchFlowEntry
    else if ch = '-' && c.spaceAhead 1 then s.fetchBlockEntry
    else if ch = '?' && (s.inFlow || c.spaceAhead 1) then s.fetchKey
    else if ch = ':' && (s.inFlow || c.spaceAhead 1) then s.fetchValue
    else if ch = '*' then s.fetchAlias
    else if ch = '&' then s.fetchAnchor
    else if ch = '!' then s.fetchTag
    else if ch = '|' && !s.inFlow then s.fetchBlockScalar false
    else if ch = '>' && !s.inFlow then s.fetchBlockScalar true
    else if ch = '\'' || ch = '"' then s.fetchQuoted ch
    else if s.startsPlain ch then s.fetchPlain
    else c.problem .noToken .nextToken c.mark

/-! ### All tokens -/

/-- The first token held back may still turn out to be a key. -/
def isBlocked (s : Scanner) : Bool :=
  (s.place :: s.places).any fun p => match p with
    | some k => k.number = s.count
    | none => false

/-- Lets go the tokens that are certain. -/
def release (s : Scanner) : Scanner := go s.held s
where
  go : List Lexeme → Scanner → Scanner
    | [], s => { s with held := [] }
    | t :: rest, s =>
      if s.isBlocked then { s with held := t :: rest }
      else go rest { s with certain := t :: s.certain, count := s.count + 1 }

/-- Reads on to the end of the text or to a problem. -/
def run : Nat → Scanner → List Lexeme × Option Problem
  | 0, s => (s.certain.reverse, none)
  | fuel + 1, s =>
    if s.finished then (s.certain.reverse, none)
    else
      match s.fetch >>= refreshPlaces with
      | .error p => (s.certain.reverse, some p)
      | .ok next => run fuel next.release

/-- The tokens of a text that are certain, and the problem after them. -/
def tokens (text : List Char) : List Lexeme × Option Problem :=
  run (text.length + 2) (ofText text)

end Scanner
end Frontmatter.Yaml
