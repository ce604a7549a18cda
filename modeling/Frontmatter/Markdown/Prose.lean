/-
Frontmatter/Markdown/Prose.lean

The text of a paragraph, a heading or a cell of a table.

A text is cut into pieces from left to right.  An opening bracket is kept until its
closing bracket tells whether both make a link, an image or a reference to a footnote;
otherwise they are text.  A link does not hold another link.
-/
import Frontmatter.Markdown.Attention
import Frontmatter.Markdown.Html

namespace Frontmatter.Markdown

/-- What a text depends on: the dialect, what the document defines, and whether the text
is in a table. -/
structure Setting where
  options : Options
  definitions : List String
  footnotes : List String
  inTable : Bool

namespace Prose

/-! ### Brackets -/

inductive BracketKind where
  | link
  | image
  | footnote
deriving DecidableEq, Inhabited

/-- An opening bracket: its own cells, the cells behind it, and the pieces before it,
latest first.  An idle bracket cannot open a link any more. -/
structure Bracket where
  kind : BracketKind
  own : List Cell
  body : List Cell
  before : List Piece
  idle : Bool
deriving Inhabited

/-- A text that is being cut: the brackets that are open, innermost first, the pieces
behind the last of them, latest first, and the character before the rest with whether
it was escaped. -/
structure Cut where
  brackets : List Bracket
  pieces : List Piece
  last : Option Char
  escaped : Bool
deriving Inhabited

/-- The text of some cells. -/
def dataOf (cells : List Cell) : Piece :=
  .data (startOf cells default) (stopOf cells default) (plainText cells)

namespace Cut

def push (s : Cut) (p : Piece) (last : Option Char) : Cut :=
  { s with pieces := p :: s.pieces, last, escaped := false }

/-- Adds cells that are nothing but text. -/
def pushData (s : Cut) (cells : List Cell) : Cut :=
  s.push (dataOf cells) (cells.getLast?.map Cell.char)

/-- Takes the innermost bracket for text. -/
def dropBracket (s : Cut) : Cut :=
  match s.brackets with
  | b :: rest => { s with brackets := rest, pieces := s.pieces ++ dataOf b.own :: b.before }
  | [] => s

/-- All pieces in order, with the brackets that were not closed taken for text. -/
def all (s : Cut) : List Piece :=
  (s.brackets.foldl (fun pieces b => pieces ++ dataOf b.own :: b.before) s.pieces).reverse

end Cut

/-- Addresses in a text that becomes a link are text. -/
def withoutAddresses (pieces : List Piece) : List Piece :=
  pieces.map fun p => match p with
    | .address _ start stop text => .data start stop text
    | p => p

/-- What the closing bracket of a link or an image refers to, and the cells behind that. -/
def destinationOf (ctx : Setting) (label rest : List Cell) : Option (Destination × List Cell) :=
  let identifier := identifierOf (plainText label)
  let defined := ctx.definitions.contains identifier
  let own (kind : ReferenceKind) : Destination := .definition kind identifier none
  if startsWith '(' rest then
    match scanTarget rest with
    | some (t, after) => some (.target t, after)
    | none => if defined then some (own .shortcut, rest) else none
  else if startsWith '[' rest then
    let full : Option (Destination × List Cell) :=
      match scanLabel rest with
      | some (label, after) =>
        let identifier := identifierOf (plainText label)
        if ctx.definitions.contains identifier then
          some (.definition .full identifier (some (decodeString label)), after)
        else none
      | none => none
    match full with
    | some r => some r
    | none =>
      if defined && startsWith ']' (rest.drop 1) then some (own .collapsed, rest.drop 2) else none
  else if defined then some (own .shortcut, rest)
  else none

/-- Reads a closing bracket, the first of the cells. -/
def closeBracket (ctx : Setting) (s : Cut) (c : Cell) (rest : List Cell) : Cut × List Cell :=
  let asText : Cut × List Cell := (s.dropBracket.pushData [c], rest)
  match s.brackets with
  | [] => asText
  | b :: outer =>
    if b.idle then asText
    else
      let label := b.body.take (b.body.length - (rest.length + 1))
      let start := startOf b.own default
      let idle (image : Bool) : List Bracket :=
        if image then outer
        else outer.map fun o => if o.kind = .image then o else { o with idle := true }
      let identifier := identifierOf (plainText label)
      if b.kind = .footnote && ctx.footnotes.contains identifier then
        let note :=
          Item.single (.footnoteReference identifier (some (decodeString label))) ⟨start, c.stop⟩
        (⟨idle false, .item note :: b.before, some ']', false⟩, rest)
      else
        let image := b.kind = .image
        let mark := if b.kind = .footnote then b.own.drop 1 else []
        match destinationOf ctx (mark ++ label) rest with
        | none => asText
        | some (destination, after) =>
          let inner := (if mark.isEmpty then [] else [dataOf mark]) ++
            withoutAddresses s.pieces.reverse
          let rules : PieceRules :=
            ⟨ctx.options.allows .hardBreakTrailing, image && ctx.options.allows .autolinkLiteral⟩
          let own := (c :: rest).take (rest.length + 1 - after.length)
          let media := Item.media image destination ⟨start, stopOf own c.stop⟩
            ⟨stopOf (b.own.take (b.own.length - mark.length)) default, c.start⟩
            (itemsOf rules false false inner)
          (⟨idle image, .item media :: b.before, (own.getLast?.map Cell.char), false⟩, after)

/-! ### Code and math -/

/-- What follows the next run of exactly `n` marks; `k` marks are just before. -/
def afterRun (mark : Char) (n : Nat) : Nat → List Cell → Option (List Cell)
  | k, [] => if k = n then some [] else none
  | k, c :: rest =>
    if c.char = mark then afterRun mark n (k + 1) rest
    else if k = n then some (c :: rest)
    else afterRun mark n 0 rest

/-- A text in which a bar behind a backslash stands alone. -/
def unescapeBars : List Char → List Char
  | '\\' :: '|' :: rest => '|' :: unescapeBars rest
  | c :: rest => c :: unescapeBars rest
  | [] => []

/-- The value of code in a text: line endings are blanks, and a blank at both ends does
not count, if there is more than blanks. -/
def codeValue (inTable : Bool) (cells : List Cell) : String :=
  let text := cells.flatMap fun c => if c.isEnding then [' '] else c.text
  let text := if inTable then unescapeBars text else text
  let padded := text.head? == some ' ' && text.getLast? == some ' ' && text.any (· != ' ')
  String.ofList (if padded then (text.drop 1).dropLast else text)

/-- The code or math at its first mark, and the cells behind it. -/
def codeAt (ctx : Setting) (s : Cut) (c : Cell) (cells : List Cell) : Option (Item × List Cell) :=
  let math := c.char == '$'
  let size := (cells.takeWhile fun d => d.char == c.char).length
  if !ctx.options.allows (if math then .mathText else .codeText) then none
  else if s.last == some c.char && !s.escaped then none
  else if math && size == 1 && !ctx.options.singleDollar then none
  else
    let body := cells.drop size
    match afterRun c.char size 0 body with
    | none => none
    | some rest =>
      let inner := body.take (body.length - rest.length - size)
      let own := cells.take (cells.length - rest.length)
      let value := codeValue ctx.inTable inner
      some (.single (if math then .inlineMath value else .inlineCode value)
        ⟨c.start, stopOf own c.stop⟩, rest)

/-! ### Angle brackets and braces -/

/-- The address in angle brackets at the first of them. -/
def bracketedAt (c : Cell) (cells : List Cell) : Option (Item × List Cell) :=
  match Autolink.bracketed? (cells.map Cell.char) with
  | none => none
  | some (mail, after) =>
    let own := cells.take (cells.length - after.length)
    let inner := (own.drop 1).dropLast
    let text := plainText inner
    let url := String.ofList (if mail then "mailto:".toList ++ text else text)
    let words : Span := ⟨startOf inner default, stopOf inner default⟩
    some (.node .root (.link url none) ⟨c.start, stopOf own c.stop⟩ [.text text words],
      cells.drop own.length)

/-- The HTML at an angle bracket. -/
def htmlAt (c : Cell) (cells : List Cell) : Option (Item × List Cell) :=
  match Html.afterInline? (cells.map Cell.char) with
  | none => none
  | some after =>
    let own := cells.take (cells.length - after.length)
    some (.single (.html (stringOf own)) ⟨c.start, stopOf own c.stop⟩, cells.drop own.length)

/-- The tag at an angle bracket. -/
def tagAt (stop : Point) (cells : List Cell) : Except Problem (Option (Item × List Cell)) :=
  match scanTag scanReference stop cells with
  | .ok (t, rest) => .ok (some (.tag t, rest))
  | .error .other => .ok none
  | .error (.problem p) => .error p
  | .error (.unfinished _ p) => .error p

/-- What an angle bracket begins. -/
def angleAt (ctx : Setting) (stop : Point) (c : Cell) (cells : List Cell) :
    Except Problem (Option (Item × List Cell)) :=
  match bracketedAt c cells with
  | some r => .ok (some r)
  | none =>
    match if ctx.options.allows .htmlText then htmlAt c cells else none with
    | some r => .ok (some r)
    | none => if ctx.options.allows .mdxJsxText then tagAt stop cells else .ok none

/-- The expression at a brace. -/
def expressionAt (stop : Point) (c : Cell) (cells : List Cell) :
    Except Problem (Item × List Cell) :=
  match scanExpression stop (cells.drop 1) with
  | .ok (value, rest) =>
    let own := cells.take (cells.length - rest.length)
    .ok (.single (.textExpression value) ⟨c.start, stopOf own c.stop⟩, rest)
  | .error (.problem p) => .error p
  | .error (.unfinished _ p) => .error p
  | .error .other => .error (Problem.at c.start .openExpression)

/-! ### The text -/

/-- The characters that something can begin with. -/
def isMarker (c : Char) : Bool := "!$&*<HW[\\]_\x60hw\x7b~\n".toList.contains c

/-- The address in the text that cells begin with. -/
def addressAt (s : Cut) (cells : List Cell) : Option (Piece × List Cell) :=
  let text := cells.map Cell.char
  let build (www : Bool) (n : Nat) : Piece × List Cell :=
    let own := cells.take n
    let value := plainText own
    let url := String.ofList (if www then "http://".toList ++ value else value)
    (.address url (startOf own default) (stopOf own default) value, cells.drop n)
  match Autolink.schemeLength? s.last text with
  | some n => some (build false n)
  | none => (Autolink.hostOnlyLength? s.last text).map (build true)

/-- Cuts cells that begin with a character that may mean something.  Gives the state and
the cells that are left. -/
def cutMarker (ctx : Setting) (stop : Point) (s : Cut) (c : Cell) (rest : List Cell) :
    Except Problem (Cut × List Cell) := do
  let cells := c :: rest
  let asText : Cut × List Cell := (s.pushData [c], rest)
  let opened (kind : BracketKind) (n : Nat) : Cut × List Cell :=
    (⟨⟨kind, cells.take n, cells.drop n, s.pieces, false⟩ :: s.brackets, [],
      (cells[n - 1]?).map Cell.char, false⟩, cells.drop n)
  let found (r : Item × List Cell) : Cut × List Cell :=
    let own := cells.take (cells.length - r.2.length)
    (s.push (.item r.1) (own.getLast?.map Cell.char), r.2)
  match c.char with
  | '\n' => return (s.push (.ending c) (some '\n'), rest)
  | '\\' =>
    match rest with
    | d :: after =>
      if isAsciiPunctuation d.char then
        return ({ s.push (.literal d.start d.stop [d.char]) (some d.char) with escaped := true },
          after)
      else if d.isEnding then return (s.push (.backslash c.start) (some '\\'), rest)
      else return asText
    | [] => return asText
  | '&' =>
    match referenceAt cells with
    | some (value, own, after) =>
      return (s.push (.literal c.start (stopOf own c.stop) value) (some ';'), after)
    | none => return asText
  | '*' | '_' | '~' =>
    if c.char = '~' && !ctx.options.allows .strikethrough then return asText
    else
      let marks := cells.takeWhile fun d => d.char == c.char
      return (s.push (.run (runOf c.char marks)) (some c.char), cells.drop marks.length)
  | '\x60' | '$' =>
    match codeAt ctx s c cells with
    | some r => return found r
    | none => return asText
  | '<' =>
    match ← angleAt ctx stop c cells with
    | some r => return found r
    | none => return asText
  | '{' =>
    if ctx.options.allows .mdxExpressionText then return found (← expressionAt stop c cells)
    else return asText
  | '!' =>
    match rest with
    | d :: after =>
      if d.char = '[' && !(ctx.options.allows .footnoteStart && startsWith '^' after) then
        return opened .image 2
      else return asText
    | [] => return asText
  | '[' =>
    if ctx.options.allows .footnoteStart && startsWith '^' rest then return opened .footnote 2
    else return opened .link 1
  | ']' => return closeBracket ctx s c rest
  | _ =>
    match if ctx.options.allows .autolinkLiteral then addressAt s cells else none with
    | some (p, after) =>
      let own := cells.take (cells.length - after.length)
      return (s.push p (own.getLast?.map Cell.char), after)
    | none => return asText

/-- Cuts cells into pieces. -/
def cutAll (ctx : Setting) (stop : Point) : Nat → Cut → List Cell → Except Problem Cut
  | 0, s, _ => .ok s
  | _, s, [] => .ok s
  | fuel + 1, s, c :: rest =>
    if isMarker c.char then
      match cutMarker ctx stop s c rest with
      | .ok (s, rest) => cutAll ctx stop fuel s rest
      | .error p => .error p
    else
      let plain := rest.takeWhile fun d => !isMarker d.char
      cutAll ctx stop fuel (s.pushData (c :: plain)) (rest.drop plain.length)

/-- Cells without the tail of a tab at the start of a line. -/
def dropTails : Bool → List Cell → List Cell
  | _, [] => []
  | fresh, c :: rest =>
    if fresh && c.tail != 0 then dropTails true rest else c :: dropTails c.isEnding rest

/-- The items of a text.  `whole` tells that it begins with its first cell, so that blanks
there do not count. -/
def read (ctx : Setting) (whole : Bool) (cells : List Cell) : Except Problem (List Item) := do
  let cells := dropTails true cells
  let s ← cutAll ctx (stopOf cells default) (cells.length + 1) default cells
  let rules : PieceRules :=
    ⟨ctx.options.allows .hardBreakTrailing, ctx.options.allows .autolinkLiteral⟩
  return itemsOf rules whole true s.all

end Prose
end Frontmatter.Markdown
