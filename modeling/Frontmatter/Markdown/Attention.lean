/-
Frontmatter/Markdown/Attention.lean

Emphasis, and what becomes of a text once its links are known.

A run of stars, underscores or tildes opens or closes emphasis, by the characters
beside it.  `attend` goes through the pieces of a text from left to right, and a run
that closes is matched with the nearest run before it that opens.  `finish` makes items
of pieces: blanks beside line endings are left out, two of them at the end of a line
break it, and addresses of mail become links.
-/
import Frontmatter.Markdown.Autolink
import Frontmatter.Markdown.Item
import Frontmatter.Text.Location

namespace Frontmatter.Markdown

/-! ### Pieces -/

/-- A run of marks. -/
structure Run where
  mark : Char
  size : Nat
  start : Point
  stop : Point
  opens : Bool
  closes : Bool
deriving Inhabited

/-- A piece of a text. -/
inductive Piece where
  | data (start stop : Point) (text : List Char)
  /-- What an escape or a reference stands for. -/
  | literal (start stop : Point) (text : List Char)
  /-- The backslash that breaks a line; a line ending follows. -/
  | backslash (start : Point)
  | ending (c : Cell)
  | run (r : Run)
  /-- An address as it is in the text. -/
  | address (url : String) (start stop : Point) (text : List Char)
  | item (i : Item)
deriving Inhabited

/-- The run of marks that cells are. -/
def runOf (mark : Char) (cells : List Cell) : Run :=
  let before := CharKind.of (cells.head?.bind Cell.before)
  let after := CharKind.of (cells.getLast?.bind Cell.after)
  let opens := after = .other || (after = .punctuation && before != .other)
  let closes := before = .other || (before = .punctuation && after != .other)
  ⟨mark, cells.length, startOf cells default, stopOf cells default,
    if mark = '_' then opens && (before != .other || !closes) else opens,
    if mark = '_' then closes && (after != .other || !opens) else closes⟩

/-! ### Items -/

/-- The text of pieces that are next to each other is one text. -/
def mergeData : List Piece → List Piece
  | [] => []
  | p :: rest =>
    let p : Piece := match p with
      | .run r => .data r.start r.stop (List.replicate r.size r.mark)
      | p => p
    match p, mergeData rest with
    | .data start _ a, .data _ stop b :: more => .data start stop (a ++ b) :: more
    | p, more => p :: more

def isBlankText (c : Char) : Bool := c == ' ' || c == '\t'

/-- The point some bytes before a point of the same line. -/
def Point.back (p : Point) (bytes : Nat) : Point := ⟨p.line, p.column - bytes, p.offset - bytes⟩

/-- A text as items; outside of links the addresses of mail in it become links. -/
def textItems (mail : Bool) (start stop : Point) (text : List Char) : List Item :=
  let parts := if mail && text.contains '@' then Autolink.mailParts text.length [] text else []
  if parts.length ≤ 1 && parts.all fun p => p.url.isNone then [.text text ⟨start, stop⟩]
  else
    (parts.foldl (fun (acc : List Item × Point) part =>
      let stop := acc.2.skip (byteLength part.text)
      let own : Item := .text part.text ⟨acc.2, stop⟩
      let i : Item := match part.url with
        | some url => .node .root (.link url none) ⟨acc.2, stop⟩ [own]
        | none => own
      (acc.1 ++ [i], stop)) ([], start)).1

/-- The items of pieces in which runs are text and texts are whole.  `fresh` tells that
blanks at the start do not count, `last` that blanks at the end do not. -/
def settlePieces (hard mail last : Bool) : Bool → List Piece → List Item
  | _, [] => []
  | fresh, .data start stop text :: rest =>
    let broken := match rest with | .ending _ :: _ => true | _ => false
    let blanks :=
      if broken || (rest.isEmpty && last) then text.reverse.takeWhile isBlankText else []
    let body := text.take (text.length - blanks.length)
    let stop' := stop.back blanks.length
    let lead := if fresh then body.takeWhile isBlankText else []
    let words := body.drop lead.length
    let items := if words.isEmpty then [] else textItems mail (start.skip lead.length) stop' words
    match rest with
    | .ending e :: more =>
      if hard && 2 ≤ blanks.length && blanks.all (· == ' ') then
        items ++ .single .lineBreak ⟨stop', e.stop⟩ :: settlePieces hard mail last true more
      else items ++ .ending e.text ⟨e.start, e.stop⟩ :: settlePieces hard mail last true more
    | rest => items ++ settlePieces hard mail last false rest
  | _, .literal start stop text :: rest =>
    .text text ⟨start, stop⟩ :: settlePieces hard mail last false rest
  | _, .backslash start :: .ending e :: rest =>
    .single .lineBreak ⟨start, e.stop⟩ :: settlePieces hard mail last true rest
  | _, .ending e :: rest =>
    .ending e.text ⟨e.start, e.stop⟩ :: settlePieces hard mail last true rest
  | _, .address url start stop text :: rest =>
    .node .root (.link url none) ⟨start, stop⟩ [.text text ⟨start, stop⟩] ::
      settlePieces hard mail last false rest
  | _, .item i :: rest => i :: settlePieces hard mail last false rest
  | _, _ :: rest => settlePieces hard mail last false rest

/-- How pieces are read: whether blanks may break a line, and whether addresses of mail
become links. -/
structure PieceRules where
  hard : Bool
  mail : Bool

/-- The items of pieces.  At the start and the end of a text blanks do not count. -/
def finish (rules : PieceRules) (first last : Bool) (pieces : List Piece) : List Item :=
  settlePieces rules.hard rules.mail last first (mergeData pieces)

/-! ### Matching -/

/-- Whether a run can open what another run closes. -/
def Run.matches (o c : Run) : Bool :=
  o.opens && o.mark == c.mark &&
    !((o.closes || c.opens) && c.size % 3 != 0 && (o.size + c.size) % 3 == 0) &&
    !(c.mark == '~' && (c.size != o.size || 2 < c.size))

/-- The nearest run that opens what a run closes: the pieces behind it, in order, the run,
and the pieces before it, latest first. -/
def findOpener (c : Run) : List Piece → List Piece → Option (List Piece × Run × List Piece)
  | _, [] => none
  | between, .run o :: rest =>
    if o.matches c then some (between, o, rest) else findOpener c (.run o :: between) rest
  | between, p :: rest => findOpener c (p :: between) rest

/-- What remains of a run that opened something, if anything does. -/
def Run.cutEnd (r : Run) (n : Nat) : List Piece :=
  if r.size = n then [] else [.run { r with size := r.size - n, stop := r.stop.back n }]

/-- The pieces of a text in which emphasis is matched.  The pieces gone through are given
latest first; the run in front of the rest is tried until nothing opens it. -/
def attend (rules : PieceRules) : Nat → List Piece → List Piece → List Piece
  | 0, done, rest => done.reverse ++ rest
  | _, done, [] => done.reverse
  | fuel + 1, done, .run c :: rest =>
    match if c.closes then findOpener c [] done else none with
    | some (between, o, before) =>
      let n := if 1 < o.size && 1 < c.size then 2 else 1
      let (frame, kind) : Frame × Kind :=
        if c.mark = '~' then (.strikethrough, .delete)
        else if n = 1 then (.emphasis, .emphasis)
        else (.strong, .strong)
      let node : Item :=
        .node frame kind ⟨o.stop.back n, c.start.skip n⟩ (finish rules false false between)
      let rest :=
        if c.size = n then rest
        else .run { c with size := c.size - n, start := c.start.skip n } :: rest
      attend rules fuel (.item node :: (o.cutEnd n ++ before)) rest
    | none => attend rules fuel (.run c :: done) rest
  | fuel + 1, done, p :: rest => attend rules fuel (p :: done) rest

/-- The number of steps that matching can take. -/
def attendSteps (pieces : List Piece) : Nat :=
  pieces.foldl (fun n p => match p with | .run r => n + r.size + 1 | _ => n + 1) 0

/-- The items of pieces, with emphasis. -/
def itemsOf (rules : PieceRules) (first last : Bool) (pieces : List Piece) : List Item :=
  finish rules first last (attend rules (attendSteps pieces + 1) [] pieces)

end Frontmatter.Markdown
