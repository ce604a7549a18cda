/-
Frontmatter/Markdown/Embed.lean

Tags and expressions of MDX.

A scan reads from the cells at a brace or at an angle bracket.  It ends with what
it read and the cells behind it, or with a `Stop`: what stands there is something
else, is wrong, or goes on where the cells end.  An expression is not looked into:
it ends at the brace that makes the number of braces even.
-/
import Frontmatter.Markdown.Cell
import Frontmatter.Markdown.Problem
import Frontmatter.Text.IdentifierContinue
import Frontmatter.Text.IdentifierStart
import Frontmatter.Text.NamedCharacter
import Frontmatter.Text.Whitespace

namespace Frontmatter.Markdown

/-- Why a scan has no result. -/
inductive Stop where
  /-- It is something else. -/
  | other
  | problem (p : Problem)
  /-- The cells end in it; `p` is the problem if the document ends there too. -/
  | unfinished (inside : Embedded) (p : Problem)
deriving Inhabited

/-! ### Expressions -/

/-- The cells of an expression up to the brace that closes it, with `depth` braces
open, and the cells behind that brace.  At the start of a further line two blanks
are left out. -/
def braced (stop : Point) : Nat → List Cell → Except Stop (List Cell × List Cell)
  | _, [] => .error (.unfinished .expression (Problem.at stop .openExpression))
  | depth, c :: rest =>
    if c.char = '}' && depth = 0 then .ok ([], rest)
    else
      let depth := if c.char = '{' then depth + 1 else if c.char = '}' then depth - 1 else depth
      match braced stop depth rest with
      | .error e => .error e
      | .ok (inner, rest) => .ok (c :: inner, rest)

/-- Cells without the first two blanks of each further line. -/
def outdent : Nat → List Cell → List Cell
  | _, [] => []
  | room, c :: rest =>
    if c.isEnding then c :: outdent 2 rest
    else
      match room with
      | room + 1 => if c.isBlank then outdent room rest else c :: outdent 0 rest
      | 0 => c :: outdent 0 rest

/-- The text of the expression whose opening brace is just before the cells, and the
cells behind its closing brace. -/
def scanExpression (stop : Point) (cells : List Cell) : Except Stop (String × List Cell) := do
  let (inner, rest) ← braced stop 0 cells
  return (String.ofList (plainText (outdent 0 inner)), rest)

/-! ### Tags -/

/-- A tag.  The points are those where a problem with the tag is reported. -/
structure Tag where
  name : Option String
  attributes : List Attribute
  /-- The slash of a closing tag. -/
  closing : Option Point
  /-- The first attribute. -/
  firstAttribute : Option Point
  /-- The slash of a tag that closes itself. -/
  selfClosing : Option Point
  start : Point
  stop : Point
deriving Inhabited

/-- A tag in a message: without its attributes. -/
def Tag.abbreviated (t : Tag) : String :=
  "<" ++ (if t.closing.isSome then "/" else "") ++ t.name.getD "" ++ ">"

def isNameStart (c : Char) : Bool := c == '$' || c == '_' || Text.isIdentifierStart c

/-- A character of a name; a hyphen may stand in a name. -/
def isNamePart (c : Char) : Bool :=
  isNameStart c || c == '-' || c == '\u200c' || c == '\u200d' || Text.isIdentifierContinue c

/-- A character that was not expected, or the end. -/
def crash {α : Type} (stop : Point) (cells : List Cell) (place expected : String) : Except Stop α :=
  match cells with
  | [] => .error (.unfinished .tag (Problem.at stop (.unexpected none place expected)))
  | c :: _ => .error (.problem (Problem.at c.start (.unexpected (some c.char) place expected)))

def dropSpace (cells : List Cell) : List Cell := cells.dropWhile fun c => Text.isWhitespace c.char

/-- What can follow in a name: the words of several messages. -/
def expectedName : String := "a character that can start a name, such as a letter, `$`, or `_`"

def expectedNamePart : String :=
  "a name character such as letters, digits, `$`, or `_`; whitespace before attributes; or the " ++
    "end of the tag"

def expectedAttribute : String :=
  "a character that can start an attribute name, such as a letter, `$`, or `_`; " ++
    "whitespace before attributes; or the end of the tag"

def expectedAttributePart : String :=
  "an attribute name character such as letters, digits, `$`, or `_`; `=` to initialize a value; " ++
    "whitespace before attributes; or the end of the tag"

def expectedAttributeRest : String :=
  "a character that can start an attribute name, such as a letter, `$`, or `_`; " ++
    "`=` to initialize a value; or the end of the tag"

def linkNote : String := " (note: to create a link in MDX, use `[text](url)`)"

def commentNote : String := " (note: JS comments in JSX tags are not supported in MDX)"

/-- A part of a name at its first character, up to white space or one of `ends`. -/
def scanWord (stop : Point) (ends : List Char) (place expected : String) (cells : List Cell) :
    Except Stop (List Char × List Cell) :=
  let word := cells.takeWhile fun c => isNamePart c.char
  let rest := cells.dropWhile fun c => isNamePart c.char
  match rest with
  | c :: _ =>
    if ends.contains c.char || Text.isWhitespace c.char then .ok (plainText word, rest)
    else
      let note := if c.char = '@' && place = "in name" then linkNote else ""
      crash stop rest place (expected ++ note)
  | [] => crash stop rest place expected

def startsName (cells : List Cell) : Bool := cells.head?.any fun c => isNameStart c.char

def startsWith (ch : Char) (cells : List Cell) : Bool := cells.head?.any fun c => c.char == ch

/-- The further members of a name, each with the point before it. -/
def scanMembers (stop : Point) : Nat → List Char → List Cell → Except Stop (List Char × List Cell)
  | 0, name, cells => .ok (name, cells)
  | fuel + 1, name, cells => do
    let cells := dropSpace cells
    if startsWith '.' cells then
      let cells := dropSpace (cells.drop 1)
      if !startsName cells then
        crash stop cells "before member name" expectedAttribute
      else
        let (word, cells) ←
          scanWord stop ['.', '/', '<', '>', '{'] "in member name" expectedNamePart cells
        scanMembers stop fuel (name ++ '.' :: word) cells
    else if startsName cells || (cells.head?.any fun c => ['/', '>', '{'].contains c.char) then
      .ok (name, cells)
    else crash stop cells "after member name" expectedAttribute

/-- The name of a tag; the cells begin with its first character. -/
def scanName (stop : Point) (cells : List Cell) : Except Stop (List Char × List Cell) := do
  let (word, cells) ← scanWord stop ['.', '/', ':', '<', '>', '{'] "in name" expectedNamePart cells
  let cells := dropSpace cells
  if startsWith '.' cells then scanMembers stop cells.length word cells
  else if startsWith ':' cells then
    let cells := dropSpace (cells.drop 1)
    if !startsName cells then
      let note := cells.head?.any fun c => c.char == '+' || ('/' ≤ c.char && c.char ≤ '9')
      crash stop cells "before local name" (expectedName ++ if note then linkNote else "")
    else
      let (more, cells) ← scanWord stop ['/', '>', '{'] "in local name" expectedNamePart cells
      let cells := dropSpace cells
      if startsName cells || (cells.head?.any fun c => ['/', '>', '{'].contains c.char) then
        return (word ++ ':' :: more, cells)
      else crash stop cells "after local name" expectedAttribute
  else if startsName cells || (cells.head?.any fun c => ['/', '>', '{'].contains c.char) then
    return (word, cells)
  else crash stop cells "after name" expectedAttribute

/-! ### Attributes -/

/-- A text in which the references to characters are replaced, where they end with a
semicolon. -/
def decodeValue (decode : List Char → Option (List Char × List Char)) : Nat → List Char → List Char
  | 0, cs => cs
  | _, [] => []
  | fuel + 1, c :: rest =>
    match decode (c :: rest) with
    | some (value, rest) => value ++ decodeValue decode fuel rest
    | none => c :: decodeValue decode fuel rest

/-- The cells of a quoted value up to its closing quote, without the white space at the
start of further lines, and the cells behind the quote. -/
def scanQuoted (stop : Point) (quote : Char) :
    Bool → List Cell → Except Stop (List Char × List Cell)
  | _, [] =>
    crash stop [] "in attribute value"
      ("a corresponding closing quote " ++ ticked (String.singleton quote))
  | fresh, c :: rest =>
    if c.char = quote then .ok ([], rest)
    else
      let skipped := fresh && !c.isEnding && Text.isWhitespace c.char
      match scanQuoted stop quote (c.isEnding || skipped) rest with
      | .error e => .error e
      | .ok (value, rest) => .ok (if skipped then value else c.text ++ value, rest)

/-- The name of an attribute; the cells begin with its first character. -/
def scanAttributeName (stop : Point) (cells : List Cell) : Except Stop (List Char × List Cell) := do
  let (word, cells) ←
    scanWord stop ['/', ':', '=', '>', '{'] "in attribute name" expectedAttributePart cells
  let after := dropSpace cells
  if startsWith ':' after then
    let cells := dropSpace (after.drop 1)
    if !startsName cells then
      crash stop cells "before local attribute name" expectedAttributeRest
    else
      let (more, cells) ←
        scanWord stop ['/', '=', '>', '{'] "in local attribute name" expectedAttributePart cells
      let after := dropSpace cells
      if startsName after || (after.head?.any fun c => ['/', '=', '>', '{'].contains c.char) then
        return (word ++ ':' :: more, after)
      else crash stop after "after local attribute name" expectedAttributeRest
  else if startsName after || (after.head?.any fun c => ['/', '=', '>', '{'].contains c.char) then
    return (word, after)
  else crash stop after "after attribute name" expectedAttributeRest

/-- The value of an attribute, behind the equals sign. -/
def scanValue (decode : List Char → Option (List Char × List Char)) (stop : Point)
    (cells : List Cell) : Except Stop (AttributeValue × List Cell) := do
  let cells := dropSpace cells
  let expected := "a character that can start an attribute value, such as `\"`, `'`, or `\x7b`"
  match cells with
  | c :: rest =>
    if c.char = '"' || c.char = '\'' then
      let (value, rest) ← scanQuoted stop c.char false rest
      return (.text (String.ofList (decodeValue decode value.length value)), rest)
    else if c.char = '{' then
      let (value, rest) ← scanExpression stop rest
      return (.expression value, rest)
    else
      let note :=
        if c.char = '<' then
          " (note: to use an element or fragment as a prop value in MDX, use `\x7b<element />\x7d`)"
        else ""
      crash stop cells "before attribute value" (expected ++ note)
  | [] => crash stop cells "before attribute value" expected

/-- The attributes of a tag and its end: the attributes, the first point where one was,
the slash of a tag that closes itself, the end, and the cells behind the tag. -/
def scanAttributes (decode : List Char → Option (List Char × List Char)) (stop : Point) :
    Nat → List Attribute → Option Point → List Cell →
      Except Stop (List Attribute × Option Point × Option Point × Point × List Cell)
  | 0, _, _, cells => crash stop cells "before attribute name" expectedAttribute
  | fuel + 1, done, first, cells => do
    let cells := dropSpace cells
    match cells with
    | [] => crash stop cells "before attribute name" expectedAttribute
    | c :: rest =>
      let first' := some (first.getD c.start)
      if c.char = '/' then
        let after := dropSpace rest
        match after with
        | d :: rest =>
          if d.char = '>' then return (done.reverse, first, some c.start, d.stop, rest)
          else
            let note := if d.char = '*' || d.char = '/' then commentNote else ""
            crash stop after "after self-closing slash" ("`>` to end the tag" ++ note)
        | [] => crash stop after "after self-closing slash" "`>` to end the tag"
      else if c.char = '>' then return (done.reverse, first, none, c.stop, rest)
      else if c.char = '{' then
        let (value, rest) ← scanExpression stop rest
        scanAttributes decode stop fuel (.expression value :: done) first' rest
      else if isNameStart c.char then
        let (name, after) ← scanAttributeName stop cells
        if startsWith '=' after then
          let (value, rest) ← scanValue decode stop (after.drop 1)
          scanAttributes decode stop fuel (.named (String.ofList name) value :: done) first' rest
        else
          scanAttributes decode stop fuel (.named (String.ofList name) .absent :: done) first' after
      else crash stop cells "before attribute name" expectedAttribute

/-- The tag at an angle bracket.  A bracket before a blank is none. -/
def scanTag (decode : List Char → Option (List Char × List Char)) (stop : Point)
    (cells : List Cell) : Except Stop (Tag × List Cell) := do
  match cells with
  | [] => .error .other
  | open_ :: rest =>
    if open_.char != '<' || rest.head?.all Cell.isGap then .error .other
    else
      let cells := dropSpace rest
      let (closing, cells) := match cells with
        | c :: rest => if c.char = '/' then (some c.start, dropSpace rest) else (none, cells)
        | [] => (none, [])
      match cells with
      | c :: rest =>
        if c.char = '>' then
          return (⟨none, [], closing, none, none, open_.start, c.stop⟩, rest)
        else if isNameStart c.char then
          let (name, cells) ← scanName stop cells
          let (attributes, first, slash, last, rest) ←
            scanAttributes decode stop (cells.length + 1) [] none cells
          return (⟨some (String.ofList name), attributes, closing, first, slash, open_.start, last⟩,
            rest)
        else
          let note :=
            if closing.isSome then
              if c.char = '*' || c.char = '/' then commentNote else ""
            else if c.char = '!' then
              " (note: to create a comment in MDX, use `\x7b/* text */\x7d`)"
            else ""
          crash stop cells "before name" (expectedName ++ note)
      | [] => crash stop cells "before name" expectedName

end Frontmatter.Markdown
