/-
Frontmatter/Markdown/Outline.lean

The blocks of a document.

An `Outline` is what has been read so far: the containers that are open, and the leaf
that the next line may go on with.  A line first goes on with containers, then begins
new ones, and what is left of it goes on with the leaf or begins another.  A line that
does not go on with all containers, and begins none, may still go on with a paragraph;
otherwise the containers it leaves out are closed.

A container ends where the line before ended, before its line ending, or where its last
leaf ended, if that is later.
-/
import Frontmatter.Markdown.Html
import Frontmatter.Markdown.Leaf
import Frontmatter.Markdown.Table

namespace Frontmatter.Markdown

/-! ### States -/

/-- A container that is open, with its entries, latest first. -/
structure OpenContainer where
  container : Container
  start : Point
  entries : List Entry
deriving Inhabited

/-- The leaf that the next line may go on with.  Lines are kept latest first. -/
inductive OpenLeaf where
  | none
  /-- A paragraph; `head` tells whether its last line can be the head of a table. -/
  | content (lines : List Line) (head : Bool)
  /-- Indented code, and the blank lines after it. -/
  | indented (start : Point) (lines gap : List Line)
  | fenced (fence : Fence) (start : Point) (opening : Line) (lines : List Line)
  | html (kind : HtmlKind) (start : Point) (lines : List Line)
  | table (align : List Align) (head : Line) (rows : List Line) (stop : Point)
  /-- A tag or an expression that is not complete; `before` is the leaf before it. -/
  | embedded (before : OpenLeaf) (lines : List Line) (inside : Embedded) (problem : Problem)
deriving Inhabited

/-- A leaf whose lines no container can begin in. -/
def OpenLeaf.isConcrete : OpenLeaf → Bool
  | fenced _ _ _ _ | html _ _ _ | embedded _ _ _ _ => true
  | _ => false

/-- What has been read so far.  `interrupt` tells that a paragraph would be ended by what
begins; `blank` that the line before was blank, and whether it had blanks in it; `ended`
is where it ended, before its line ending. -/
structure Outline where
  containers : List OpenContainer
  entries : List Entry
  leaf : OpenLeaf
  interrupt : Bool
  blank : Option Bool
  ended : Point
deriving Inhabited

namespace Outline

/-- Adds an entry to the innermost container, or to the document. -/
def add (s : Outline) (e : Entry) : Outline :=
  match s.containers with
  | c :: rest => { s with containers := { c with entries := e :: c.entries } :: rest }
  | [] => { s with entries := e :: s.entries }

def addBlock (s : Outline) (b : Block) : Outline := s.add (.block b)

def addBlocks (s : Outline) (bs : List Block) : Outline := bs.foldl addBlock s

/-- Adds the blank line before.  A blank line just behind the marker of an item is not
counted as one of the item. -/
def addBlank (s : Outline) : Outline :=
  let s' := { s with blank := none }
  match s.blank, s.containers with
  | none, _ => s'
  | some padded, ⟨.item _ _ _ _, _, []⟩ :: _ => if padded then s'.add .blank else s'
  | some _, _ => s'.add .blank

/-! ### Closing -/

/-- The entry that a container is. -/
def entryOf (o : Options) (c : OpenContainer) (stop : Point) : Entry :=
  let entries := c.entries.reverse
  let span : Span := ⟨c.start, stop⟩
  let children := gather entries
  match c.container with
  | .quote => .block (.branch .blockQuote .blockquote span children)
  | .footnote identifier label =>
    .block (.branch .footnoteDefinition (.footnoteDefinition identifier (some label)) span children)
  | .item marker number _ _ =>
    let spread := entries.any fun e => match e with | .blank => true | _ => false
    let (checked, children) :=
      if o.allows .taskListItem then takeTask children else (none, children)
    .item marker number (.branch .listItem (.listItem spread checked) span children) entries.isEmpty

/-- Closes the innermost `n` containers at a point. -/
def closeContainers (o : Options) (stop : Point) : Nat → Outline → Outline
  | 0, s => s
  | n + 1, s =>
    match s.containers with
    | c :: rest =>
      closeContainers o stop n (({ s with containers := rest } : Outline).add (entryOf o c stop))
    | [] => s

/-- The blocks of a paragraph: the definitions it begins with, and the rest of it. -/
def contentBlocks (o : Options) (lines : List Line) : List Block × Option (Span × List Cell) :=
  let cells := joinLines lines
  let stop := (lines.getLast?.map Line.stop).getD default
  match takeDefinitions o cells.length cells with
  | (blocks, []) => (blocks, none)
  | (blocks, text) =>
    let start :=
      if blocks.isEmpty then (lines.head?.map Line.start).getD default else startOf text stop
    (blocks, some (⟨start, stop⟩, text))

/-- The code in lines, without one line ending at its end. -/
def codeText (lines : List Line) : String :=
  let text := (linesText lines).reverse
  let text := match text with
    | '\n' :: '\r' :: rest => rest
    | '\n' :: rest => rest
    | '\r' :: rest => rest
    | text => text
  String.ofList text.reverse

/-- Closes the leaf.  With a point, nothing of the document is left for the leaf and the
point is where it was read to; this is where a leaf ends that waits for its end.  The
second result is the end of a leaf that ends later than the line before. -/
def closeLeaf (o : Options) (flushed : Option Point) (s : Outline) :
    Except Problem (Outline × Option Point) :=
  let s' := { s with leaf := .none }
  match s.leaf with
  | .none => .ok (s', none)
  | .content lines _ =>
    match contentBlocks o lines.reverse with
    | (blocks, none) => .ok (s'.addBlocks blocks, none)
    | (blocks, some (span, text)) =>
      .ok ((s'.addBlocks blocks).addBlock (.prose .paragraph .paragraph span none text), none)
  | .indented start lines gap =>
    let stop := (lines.head?.map Line.stop).getD start
    let s := s'.addBlock (.leaf (.code (codeText lines.reverse) none none) ⟨start, stop⟩)
    .ok (gap.tail.foldl (fun s _ => s.add .blank) s, none)
  | .fenced f start opening lines =>
    let ended := match lines with | l :: _ => l.stop | [] => opening.stop
    let stop := flushed.getD ended
    .ok (s'.addBlock (f.block (String.ofList (linesText lines.reverse)) ⟨start, stop⟩), some stop)
  | .html kind start lines =>
    let last := (lines.head?.map Line.stop).getD start
    let text := linesText lines.reverse
    match flushed, kind.endsAtBlank with
    | some stop, false =>
      let ending := ((lines.head?.bind Line.ending).map Cell.text).getD []
      .ok (s'.addBlock (.leaf (.html (String.ofList (text ++ ending))) ⟨start, stop⟩), some stop)
    | _, _ => .ok (s'.addBlock (.leaf (.html (String.ofList text)) ⟨start, last⟩), none)
  | .table align head rows stop => .ok (s'.addBlock (tableOf align head rows.reverse stop), none)
  | .embedded _ _ _ problem => .error problem

/-- Where containers end that are closed now, after a leaf that may end later. -/
def endOf (s : Outline) (late : Option Point) : Point :=
  match late with
  | some p => if s.ended.offset < p.offset then p else s.ended
  | none => s.ended

/-- Closes the leaf and the innermost `n` containers, and adds the blank line before. -/
def settle (o : Options) (flushed : Option Point) (n : Nat) (s : Outline) :
    Except Problem Outline := do
  let (s, late) ← s.closeLeaf o flushed
  return (closeContainers o (s.endOf late) n s).addBlank

/-! ### Beginning a leaf -/

/-- What begins on a line. -/
inductive Beginning where
  | blank
  | indented
  | fence (f : Fence)
  | html (kind : HtmlKind)
  | embedded
  | heading (depth : Nat) (text : List Cell)
  | underline (depth : Nat)
  | thematicBreak
  | text

/-- What begins on a line.  `interrupt` tells that it would end a paragraph, `under` that
the line can be under a heading, `lazy` that containers are left out, `embed` that tags
and expressions count. -/
def beginning (o : Options) (interrupt under lazy embed : Bool) (l : Line) : Beginning :=
  let cells := dropIndent o l.cells
  if l.isBlank then .blank
  else if !interrupt && o.allows .codeIndented && (takeBlanks 4 l.cells).1.length == 4 then
    .indented
  else
    match Fence.at? o l.cells with
    | some f => .fence f
    | none =>
      let html :=
        if o.allows .htmlFlow then
          Html.kindOf (interrupt && !lazy) (cells.map Cell.char)
        else none
      match html with
      | some kind => .html kind
      | none =>
        let tag := startsWith '<' cells && o.allows .mdxJsxFlow
        let expression := startsWith '{' cells && o.allows .mdxExpressionFlow
        if embed && (tag || expression) then .embedded
        else
          match headingAt cells with
          | some (depth, text) => .heading depth text
          | none =>
            match if under then underlineDepth cells else none with
            | some depth => .underline depth
            | none => if isThematicBreak cells then .thematicBreak else .text

/-- The tags and expressions that a line consists of.  Behind an expression at the start
of a line only tags can follow. -/
def embeddedBlocks (o : Options) (stop : Point) : Nat → Bool → List Cell → Except Stop (List Block)
  | 0, _, _ => .error .other
  | fuel + 1, expressions, cells => do
    let cells := dropBlanks cells
    match cells with
    | [] => return []
    | c :: rest =>
      if c.isEnding && rest.isEmpty then return []
      else if c.char = '<' && o.allows .mdxJsxFlow then
        let (tag, rest) ← scanTag scanReference stop cells
        return .tag tag :: (← embeddedBlocks o stop fuel expressions rest)
      else if c.char = '{' && expressions && o.allows .mdxExpressionFlow then
        let (value, after) ← scanExpression stop rest
        let own := cells.take (cells.length - after.length)
        let block := Block.leaf (.flowExpression value) ⟨c.start, stopOf own c.stop⟩
        return block :: (← embeddedBlocks o stop fuel expressions after)
      else .error .other

/-- The tags and expressions of lines in a row. -/
def embeddedIn (o : Options) (lines : List Line) : Except Stop (List Block) :=
  let stop := (lines.getLast?.map Line.next).getD default
  let last := (lines.getLast?.bind Line.ending).toList
  let cells := joinLines lines ++ last
  match dropBlanks cells with
  | [] => .error .other
  | c :: rest =>
    if c.char = '{' then do
      let (value, after) ← scanExpression stop rest
      let own := (c :: rest).take (rest.length + 1 - after.length)
      let block := Block.leaf (.flowExpression value) ⟨c.start, stopOf own c.stop⟩
      return block :: (← embeddedBlocks o stop (after.length + 1) false after)
    else embeddedBlocks o stop (cells.length + 1) true cells

/-- Adds a block that its line completes. -/
def addWhole (s : Outline) (b : Block) : Outline := { s.addBlock b with interrupt := false }

/-- Begins what a line begins with.  The leaf before is closed. -/
def start (s : Outline) (l : Line) (b : Beginning) : Outline :=
  match b with
  | .blank => { s with blank := some (!l.cells.isEmpty), interrupt := false }
  | .indented =>
    { s with leaf := .indented l.start [l.dropTo (takeBlanks 4 l.cells).2] [], interrupt := false }
  | .fence f => { s with leaf := .fenced f l.start l [], interrupt := false }
  | .html kind =>
    if kind.endsIn (l.cells.map Cell.char) then
      s.addWhole (.leaf (.html (stringOf l.cells)) ⟨l.start, l.stop⟩)
    else { s with leaf := .html kind l.start [l], interrupt := false }
  | .heading depth text =>
    s.addWhole (.prose .headingAtx (.heading depth) ⟨l.start, l.stop⟩ none text)
  | .thematicBreak => s.addWhole (.leaf .thematicBreak ⟨l.start, l.stop⟩)
  | .underline _ => { s with leaf := .content [l] false, interrupt := false }
  | .embedded | .text => { s with leaf := .content [l] true, interrupt := true }

/-- Makes a heading of the paragraph above a line.  If only definitions are above, the
line is a paragraph. -/
def underline (o : Options) (s : Outline) (above : List Line) (l : Line) (depth : Nat) : Outline :=
  let (blocks, rest) := contentBlocks o above
  let s := ({ s with leaf := .none, interrupt := false } : Outline).addBlocks blocks
  match rest with
  | some (span, text) =>
    s.addBlock (.prose .headingSetext (.heading depth) ⟨span.start, l.stop⟩ none text)
  | none => { s with leaf := .content [l] false }

/-! ### Lines -/

/-- The paragraph that is left, if its last line is the head of a table with the columns
that a line delimits, and the table. -/
def tableHead (o : Options) (lines : List Line) (head : Bool) (l : Line) :
    Option (List Line × OpenLeaf) :=
  match lines with
  | [] => none
  | above :: rest =>
    if head && o.allows .table then
      match delimiterRow ((dropIndent o l.cells).map Cell.char) with
      | some align =>
        if headColumns (dropIndent o above.cells) = some align.length then
          some (rest, .table align above [] l.stop)
        else none
      | none => none
    else none

/-- Closes the leaf and `missing` containers, and begins what the line begins with. -/
def restart (o : Options) (s : Outline) (l : Line) (missing : Nat) (b : Beginning) :
    Except Problem Outline := do
  let s ← s.settle o none missing
  let s := s.start l b
  return { s with interrupt := s.interrupt && missing == 0, ended := l.stop }

/-- Goes on with what is left of a line, which leaves out `missing` containers.  Lines
that turn out to be no tag or expression are gone through again; `embed` tells whether
the line may begin with one. -/
def takeLine (o : Options) : Nat → Nat → Bool → Outline → Line → Except Problem Outline
  | 0, _, _, s, _ => .ok s
  | fuel + 1, missing, embed, s, l =>
    let lazy := missing != 0
    let kept (leaf : OpenLeaf) : Outline := { s with leaf, ended := l.stop }
    let interrupt :=
      match s.leaf with
      | .content _ head => s.interrupt || (head && o.allows .table)
      | _ => s.interrupt
    let fresh (under : Bool) : Except Problem Outline :=
      match beginning o interrupt under lazy embed l with
      | .embedded =>
        match embeddedIn o [l] with
        | .ok blocks => do
          let s ← s.settle o none missing
          return { s.addBlocks blocks with interrupt := s.interrupt && !lazy, ended := l.stop }
        | .error (.problem p) => .error p
        | .error (.unfinished inside p) =>
          if lazy then do
            let s ← s.settle o none missing
            return { s with
              leaf := .embedded .none [l] inside p, interrupt := false, ended := l.stop }
          else .ok { s with leaf := .embedded s.leaf [l] inside p }
        | .error .other => takeLine o fuel missing false s l
      | .text =>
        match s.leaf with
        | .content lines _ => .ok { kept (.content (l :: lines) true) with interrupt := true }
        | .table align head rows _ =>
          if lazy then do
            let s ← s.settle o none missing
            return { s with leaf := .content [l] false, interrupt := false, ended := l.stop }
          else .ok (kept (.table align head (l :: rows) l.stop))
        | _ => s.restart o l missing .text
      | .underline depth =>
        match s.leaf with
        | .content lines _ => .ok { s.underline o lines.reverse l depth with ended := l.stop }
        | _ => s.restart o l missing (.underline depth)
      | b => s.restart o l missing b
    match s.leaf with
    | .fenced f start opening lines =>
      if lazy then fresh false
      else if f.closedBy o l.cells then
        let value := String.ofList (linesText lines.reverse)
        .ok ({ kept .none with interrupt := false }.addBlock (f.block value ⟨start, l.stop⟩))
      else .ok (kept (.fenced f start opening (l.dropTo (takeBlanks f.indent l.cells).2 :: lines)))
    | .html kind start lines =>
      if lazy || (kind.endsAtBlank && l.isBlank) then fresh false
      else if kind.endsIn (l.cells.map Cell.char) then
        let text := String.ofList (linesText (l :: lines).reverse)
        .ok ({ kept .none with interrupt := false }.addBlock (.leaf (.html text) ⟨start, l.stop⟩))
      else .ok (kept (.html kind start (l :: lines)))
    | .indented start lines gap =>
      if lazy then fresh false
      else
        let (blanks, rest) := takeBlanks 4 l.cells
        if blanks.length = 4 then
          .ok { kept (.indented start (l.dropTo rest :: gap ++ lines) []) with blank := none }
        else if l.isBlank then
          .ok { kept (.indented start lines (l.dropTo [] :: gap)) with
            blank := some (!l.cells.isEmpty) }
        else fresh false
    | .embedded before lines inside _ =>
      if lazy then .error (Problem.at l.start (.lazyLine inside))
      else
        let lines := l :: lines
        match embeddedIn o lines.reverse with
        | .ok blocks => do
          let s ← ({ s with leaf := before } : Outline).settle o none 0
          return { s.addBlocks blocks with ended := l.stop }
        | .error (.problem p) => .error p
        | .error (.unfinished inside p) => .ok { s with leaf := .embedded before lines inside p }
        | .error .other =>
          let s : Outline := { s with leaf := before }
          match lines.reverse with
          | first :: rest => do
            let s ← takeLine o fuel 0 false s first
            rest.foldlM (takeLine o fuel 0 true) s
          | [] => .ok s
    | .content lines head =>
      match if lazy then none else tableHead o lines head l with
      | some (rest, table) => do
        let s ←
          if rest.isEmpty then .ok s
          else ({ s with leaf := .content rest false } : Outline).settle o none 0
        return { s with leaf := table, interrupt := false, ended := l.stop }
      | none => fresh (!lazy)
    | _ => fresh false

/-- The containers, outermost first, that a line goes on with, and what is left of the
line. -/
def proceedAll (o : Options) : List OpenContainer → Line → List OpenContainer × Line
  | [], l => ([], l)
  | c :: rest, l =>
    match c.container.proceed o l.cells with
    | none => ([], l)
    | some (container, cells) =>
      let (more, last) := proceedAll o rest (l.dropTo cells)
      ({ c with container } :: more, last)

/-- Reads a line. -/
def readLine (o : Options) (s : Outline) (l : Line) : Except Problem Outline := do
  let (same, rest) := proceedAll o s.containers.reverse l
  let missing := s.containers.length - same.length
  let s := { s with containers := s.containers.take missing ++ same.reverse }
  let (new, last) :=
    if missing == 0 && s.leaf.isConcrete then ([], rest)
    else beginAll o (s.interrupt && missing == 0) (rest.cells.length + 1) rest
  let fuel := 2 * l.start.line + 2
  if new.isEmpty then takeLine o fuel missing true s rest
  else
    let s ← s.settle o (if missing == 0 then none else some l.start) missing
    let opened := new.map fun (container, start) => (⟨container, start, []⟩ : OpenContainer)
    let s := { s with containers := opened.reverse ++ s.containers,
                      interrupt := s.interrupt && missing == 0 }
    takeLine o fuel 0 true s last

/-- The blocks of lines, which end at a point. -/
def blocksOf (o : Options) (lines : List Line) (start stop : Point) :
    Except Problem (List Block) := do
  let s ← lines.foldlM (readLine o) ⟨[], [], .none, false, none, start⟩
  let (s, late) ← s.closeLeaf o (some stop)
  let s := closeContainers o (s.endOf late) s.containers.length s
  return gather s.entries.reverse

end Outline

end Frontmatter.Markdown
