/-
Frontmatter/Yaml/Scalar.lean

Reading the text of a scalar: plain, quoted, or a block of lines.

Inside plain and quoted scalars a single line end becomes a space and further
line ends are kept; a folded block does the same between lines that do not
start with a blank.  The readers collect their text in reverse.
-/
import Frontmatter.Yaml.Cursor

namespace Frontmatter.Yaml

/-- A text that is being collected, last character first. -/
abbrev Collected := List Char

/-! ### Blanks and line ends inside a scalar -/

/-- What stands between two pieces of a scalar's text. -/
structure Gap where
  /-- A line ended in the gap, or the line end was escaped. -/
  broken : Bool
  blanks : Collected
  /-- The first line end, as it is kept. -/
  first : List Char
  /-- The further line ends. -/
  more : Collected

namespace Gap

def empty : Gap := ⟨false, [], [], []⟩

/-- What the gap comes to in the text: its blanks, or its line ends, where a lone
line feed becomes a space. -/
def fill (g : Gap) (text : Collected) : Collected :=
  if g.broken then
    if g.first = ['\n'] then
      if g.more = [] then ' ' :: text else g.more ++ text
    else g.more ++ (g.first.reverse ++ text)
  else g.blanks ++ text

/-- A blank belongs to the gap's text as long as no line has ended. -/
def addBlank (g : Gap) (c : Char) : Gap :=
  if g.broken then g else { g with blanks := c :: g.blanks }

def addBreak (g : Gap) (kept : List Char) : Gap :=
  if g.broken then { g with more := kept.reverse ++ g.more }
  else { g with broken := true, blanks := [], first := kept }

end Gap

/-! ### Plain scalars -/

/-- A character that ends a plain scalar inside brackets or braces. -/
def isFlowIndicator (c : Char) : Bool :=
  c = ',' || c = '[' || c = ']' || c = '{' || c = '}'

/-- A colon that does not belong to a plain scalar. -/
def plainStops (inFlow : Bool) (c : Cursor) : Bool :=
  (c.isAt ':' && c.spaceAhead 1) || (inFlow && c.nextIs isFlowIndicator)

/-- A colon inside brackets or braces that neither ends nor continues a plain
scalar. -/
def colonMisplaced (inFlow : Bool) (c : Cursor) : Bool :=
  inFlow && c.isAt ':' &&
    match c.ahead 1 with
    | some ch => isFlowIndicator ch || ch = '?'
    | none => false

/-- The characters of a plain scalar up to a blank, a line end or its end. -/
def plainPiece (inFlow : Bool) (start : Mark) : Nat → Cursor → Collected →
    Except Problem (Collected × Cursor)
  | 0, c, text => .ok (text, c)
  | fuel + 1, c, text =>
    match c.rest with
    | [] => .ok (text, c)
    | ch :: _ =>
      if isSpace ch then .ok (text, c)
      else if colonMisplaced inFlow c then c.problem .unexpectedColon .plainScalar start
      else if plainStops inFlow c then .ok (text, c)
      else plainPiece inFlow start fuel c.skip (ch :: text)

/-- The gap after a piece of a plain scalar.  A tab cannot stand for the
indentation of a line. -/
def plainGap (indent : Int) (start : Mark) : Nat → Cursor → Gap → Except Problem (Gap × Cursor)
  | 0, c, g => .ok (g, c)
  | fuel + 1, c, g =>
    match c.rest with
    | [] => .ok (g, c)
    | ch :: _ =>
      if isBlank ch then
        if g.broken && (c.mark.column : Int) < indent && ch = '\t' then
          c.problem .tabBelowIndent .plainScalar start
        else plainGap indent start fuel c.skip (g.addBlank ch)
      else if isBreak ch then
        let (kept, c) := c.lineEnd
        plainGap indent start fuel c (g.addBreak kept)
      else .ok (g, c)

/-- What a plain scalar comes to: its text, whether a line ended behind it, and
the cursor after it. -/
structure PlainScalar where
  text : Collected
  broken : Bool
  cursor : Cursor

/-- The pieces of a plain scalar and the gaps between them. -/
def plainPieces (inFlow : Bool) (indent : Int) (start : Mark) : Nat → Cursor → Gap → Collected →
    Except Problem PlainScalar
  | 0, c, g, text => .ok ⟨text, g.broken, c⟩
  | fuel + 1, c, g, text => do
    if c.atDocumentBorder || c.isAt '#' then return ⟨text, g.broken, c⟩
    let (piece, after) ← plainPiece inFlow start (c.rest.length + 1) c []
    let text := if piece = [] then text else piece ++ g.fill text
    let g := if piece = [] then g else Gap.empty
    if !after.nextIs isSpace then return ⟨text, g.broken, after⟩
    let (g, c) ← plainGap indent start (after.rest.length + 1) after g
    if !inFlow && (c.mark.column : Int) < indent then return ⟨text, g.broken, c⟩
    plainPieces inFlow indent start fuel c g text

/-- A plain scalar inside a block of the given indentation. -/
def plainScalar (inFlow : Bool) (blockIndent : Int) (c : Cursor) : Except Problem PlainScalar :=
  plainPieces inFlow (blockIndent + 1) c.mark (c.rest.length + 1) c Gap.empty []

/-! ### Quoted scalars -/

/-- The characters of the short escapes. -/
def shortEscape? (c : Char) : Option Char :=
  match c with
  | '0' => some (Char.ofNat 0)
  | 'a' => some (Char.ofNat 7)
  | 'b' => some (Char.ofNat 8)
  | 't' | '\t' => some '\t'
  | 'n' => some '\n'
  | 'v' => some (Char.ofNat 11)
  | 'f' => some (Char.ofNat 12)
  | 'r' => some '\r'
  | 'e' => some (Char.ofNat 27)
  | ' ' => some ' '
  | '"' => some '"'
  | '/' => some '/'
  | '\\' => some '\\'
  | 'N' => some '\u0085'
  | '_' => some '\u00a0'
  | 'L' => some '\u2028'
  | 'P' => some '\u2029'
  | _ => none

/-- The number of digits after the letter of a numeric escape. -/
def escapeWidth? (c : Char) : Option Nat :=
  match c with
  | 'x' => some 2
  | 'u' => some 4
  | 'U' => some 8
  | _ => none

/-- The character of an escape; the cursor stands at the backslash. -/
def escape (start : Mark) (c : Cursor) : Except Problem (Char × Cursor) :=
  match c.ahead 1 with
  | none => c.problem .unknownEscape .quotedEscape start
  | some letter =>
    match shortEscape? letter with
    | some ch => .ok (ch, c.skips 2)
    | none =>
      match escapeWidth? letter with
      | none => c.problem .unknownEscape .quotedEscape start
      | some width =>
        let c := c.skips 2
        let digits := c.rest.take width
        match if digits.length = width then hexNumber? digits else none with
        | none => c.problem .noHexNumber .quotedEscape start
        | some n =>
          if n.isValidChar then .ok (Char.ofNat n, c.skips width)
          else c.problem .badCodePoint .quotedEscape start

/-- The characters of a quoted scalar up to a blank, a line end or the quote.
The flag tells that an escaped line end was met. -/
def quotedPiece (quote : Char) (start : Mark) : Nat → Cursor → Collected →
    Except Problem (Collected × Bool × Cursor)
  | 0, c, text => .ok (text, false, c)
  | fuel + 1, c, text =>
    match c.rest with
    | [] => .ok (text, false, c)
    | ch :: rest =>
      if isSpace ch then .ok (text, false, c)
      else if ch = '\'' && quote = '\'' && rest.head? = some '\'' then
        quotedPiece quote start fuel (c.skips 2) ('\'' :: text)
      else if ch = quote then .ok (text, false, c)
      else if ch = '\\' && quote = '"' then
        if c.skip.nextIs isBreak then .ok (text, true, c.skip.skipLineEnd)
        else do
          let (escaped, c) ← escape start c
          quotedPiece quote start fuel c (escaped :: text)
      else quotedPiece quote start fuel c.skip (ch :: text)

/-- The gap after a piece of a quoted scalar. -/
def quotedGap : Nat → Cursor → Gap → Gap × Cursor
  | 0, c, g => (g, c)
  | fuel + 1, c, g =>
    match c.rest with
    | [] => (g, c)
    | ch :: _ =>
      if isBlank ch then quotedGap fuel c.skip (g.addBlank ch)
      else if isBreak ch then
        let (kept, c) := c.lineEnd
        quotedGap fuel c (g.addBreak kept)
      else (g, c)

/-- The pieces of a quoted scalar, up to the quote that ends it. -/
def quotedPieces (quote : Char) (start : Mark) : Nat → Cursor → Collected →
    Except Problem (Collected × Cursor)
  | 0, c, _ => c.problem .endOfText .quotedScalar start
  | fuel + 1, c, text => do
    if c.atDocumentBorder then c.problem .documentMarker .quotedScalar start
    else if c.rest = [] then c.problem .endOfText .quotedScalar start
    else
      let (text, escapedBreak, c) ← quotedPiece quote start (c.rest.length + 1) c text
      if c.isAt quote then return (text, c.skip)
      let (g, c) := quotedGap (c.rest.length + 1) c { Gap.empty with broken := escapedBreak }
      quotedPieces quote start fuel c (g.fill text)

/-- A quoted scalar; the cursor stands at the opening quote. -/
def quotedScalar (quote : Char) (c : Cursor) : Except Problem (Collected × Cursor) :=
  quotedPieces quote c.mark (c.rest.length + 1) c.skip []

/-! ### Block scalars -/

/-- What becomes of the line ends behind a block. -/
inductive Chomp where
  | strip | clip | keep
deriving DecidableEq

def Chomp.ofChar? (c : Char) : Option Chomp :=
  if c = '+' then some .keep else if c = '-' then some .strip else none

/-- The sign that may stand in the first line of a block. -/
def chompSign (c : Cursor) : Option Chomp × Cursor :=
  match c.peek.bind Chomp.ofChar? with
  | some chomp => (some chomp, c.skip)
  | none => (none, c)

/-- The digit that may stand in the first line of a block: how much deeper than
its surroundings the block is indented. -/
def indentDigit (start : Mark) (c : Cursor) : Except Problem (Nat × Cursor) :=
  match c.peek with
  | some ch =>
    if ch = '0' then c.problem .zeroIndent .blockScalar start
    else if isDigit ch then .ok (ch.toNat - 48, c.skip)
    else .ok (0, c)
  | none => .ok (0, c)

/-- The sign and the digit, in either order. -/
def blockHeader (start : Mark) (c : Cursor) : Except Problem (Chomp × Nat × Cursor) := do
  match chompSign c with
  | (some chomp, c) =>
    let (increment, c) ← indentDigit start c
    return (chomp, increment, c)
  | (none, c) =>
    let (increment, c) ← indentDigit start c
    if increment = 0 then return (.clip, 0, c)
    let (chomp, c) := chompSign c
    return (chomp.getD .clip, increment, c)

/-- The blank lines before a line of a block, with the greatest column met.  The
indentation is zero as long as it is not known. -/
def blankLines (indent : Nat) (start : Mark) : Nat → Cursor → Nat → Collected →
    Except Problem (Collected × Nat × Cursor)
  | 0, c, deepest, breaks => .ok (breaks, deepest, c)
  | fuel + 1, c, deepest, breaks =>
    let c := if indent = 0 then c.skipWhile (· = ' ')
      else c.skips (min (indent - c.mark.column) (c.rest.takeWhile (· = ' ')).length)
    let deepest := max deepest c.mark.column
    if (indent = 0 || c.mark.column < indent) && c.isAt '\t' then
      c.problem .tabForIndent .blockScalar start
    else if c.nextIs isBreak then
      let (kept, c) := c.lineEnd
      blankLines indent start fuel c deepest (kept.reverse ++ breaks)
    else .ok (breaks, deepest, c)

/-- The lines of a block after the first line end: `pending` is the line end
before the next line, `breaks` are the blank lines after it. -/
def blockLines (folded : Bool) (indent : Nat) (start : Mark) : Nat → Cursor → Bool → List Char →
    Collected → Collected → Except Problem (Collected × List Char × Collected × Cursor)
  | 0, c, _, pending, breaks, text => .ok (text, pending, breaks, c)
  | fuel + 1, c, afterBlank, pending, breaks, text => do
    if c.mark.column ≠ indent || c.rest = [] then return (text, pending, breaks, c)
    let startsBlank := c.nextIs isBlank
    let text :=
      if folded && pending = ['\n'] && !afterBlank && !startsBlank then
        if breaks = [] then ' ' :: text else breaks ++ text
      else breaks ++ (pending.reverse ++ text)
    let (line, c) := c.span (!isBreak ·)
    let (pending, c) := c.lineEnd
    let (breaks, _, c) ← blankLines indent start (c.rest.length + 1) c 0 []
    blockLines folded indent start fuel c startsBlank pending breaks (line.reverse ++ text)

/-- A block scalar inside a block of the given indentation; the cursor stands at
the indicator. -/
def blockScalar (folded : Bool) (blockIndent : Int) (c : Cursor) :
    Except Problem (Collected × Cursor) := do
  let start := c.mark
  let (chomp, increment, c) ← blockHeader start c.skip
  let c := c.skipComment
  if !c.atLineEnd then c.problem .noCommentOrBreak .blockScalar start
  else
    let c := c.skipLineEnd
    let given := if increment = 0 then 0 else (max blockIndent 0).toNat + increment
    let (breaks, deepest, c) ← blankLines given start (c.rest.length + 1) c 0 []
    let indent := if given = 0 then max (max deepest (blockIndent + 1).toNat) 1 else given
    let (text, pending, breaks, c) ←
      blockLines folded indent start (c.rest.length + 1) c false [] breaks []
    let text := if chomp = .strip then text else pending.reverse ++ text
    let text := if chomp = .keep then breaks ++ text else text
    return (text, c)

end Frontmatter.Yaml
