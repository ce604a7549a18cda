/-
Frontmatter/Markdown/Problem.lean

What can be wrong with a document.

Plain Markdown is never wrong.  MDX is, if a tag or an expression has a character
where it cannot stand, is not closed, or does not nest with what is around it.
-/
import Frontmatter.Markdown.Tree

namespace Frontmatter.Markdown

/-- What a tag can be left open in. -/
inductive Frame where
  | root
  | blockQuote
  | listOrdered
  | listUnordered
  | listItem
  | footnoteDefinition
  | paragraph
  | headingAtx
  | headingSetext
  | table
  | tableRow
  | tableCell
  | emphasis
  | strong
  | strikethrough
  | label
deriving DecidableEq, Inhabited

/-- How a frame is called in a message. -/
def Frame.name : Frame → String
  | root => "Document"
  | blockQuote => "BlockQuote"
  | listOrdered => "ListOrdered"
  | listUnordered => "ListUnordered"
  | listItem => "ListItem"
  | footnoteDefinition => "GfmFootnoteDefinition"
  | paragraph => "Paragraph"
  | headingAtx => "HeadingAtx"
  | headingSetext => "HeadingSetext"
  | table => "GfmTable"
  | tableRow => "GfmTableRow"
  | tableCell => "GfmTableCell"
  | emphasis => "Emphasis"
  | strong => "Strong"
  | strikethrough => "GfmStrikethrough"
  | label => "LabelText"

/-- The two parts of MDX that can go over several lines. -/
inductive Embedded where
  | tag
  | expression
deriving DecidableEq, Inhabited

/-- Why a document is wrong. -/
inductive Cause where
  /-- A character, or the end, at some place in a tag where something else is expected. -/
  | unexpected (found : Option Char) (place expected : String)
  | openExpression
  /-- A line that leaves out the markers of the containers it is in. -/
  | lazyLine (inside : Embedded)
  | closingSlash
  | closingAttribute
  | closingSelfSlash
  /-- A closing tag for another element than the one that is open. -/
  | mismatch (closing opening : String) (opened : Point)
  /-- An element that is open at the end of what it began in. -/
  | openElement (tag : String) (opened : Point) (inside : Frame)
  /-- A closing tag in something that the element does not hold as a whole. -/
  | crossing (closing : String) (inside : Frame) (opened : Point)
deriving DecidableEq, Inhabited

/-- A problem at a place of the document. -/
structure Problem where
  cause : Cause
  start : Point
  stop : Option Point
deriving DecidableEq, Inhabited

/-- A problem at a point. -/
def Problem.at (p : Point) (cause : Cause) : Problem := ⟨cause, p, none⟩

/-! ### Wording -/

/-- A text in backticks. -/
def ticked (s : String) : String := "\x60" ++ s ++ "\x60"

/-- The digits of a number in base 16, at least four. -/
def hexCode (n : Nat) : String :=
  let digits := (Nat.toDigits 16 n).map Char.toUpper
  String.ofList (List.replicate (4 - digits.length) '0' ++ digits)

/-- A character in a message: itself, if it can be seen, and its number. -/
def describeChar (c : Char) : String :=
  let code := "U+" ++ hexCode c.toNat
  if c = '\x60' then "\x60\x60 \x60 \x60\x60 (" ++ code ++ ")"
  else if ' ' ≤ c && c ≤ '~' then ticked (String.singleton c) ++ " (" ++ code ++ ")"
  else code

/-- What was found, in a message. -/
def describeFound : Option Char → String
  | some c => "character " ++ describeChar c
  | none => "end of file"

/-- A point in the text of a message. -/
def Point.inWords (p : Point) : String := "(" ++ Nat.repr p.line ++ ":" ++ Nat.repr p.column ++ ")"

namespace Cause

/-- What is wrong, in words. -/
def reason : Cause → String
  | unexpected found place expected =>
    "Unexpected " ++ describeFound found ++ " " ++ place ++ ", expected " ++ expected
  | openExpression =>
    "Unexpected end of file in expression, expected a corresponding closing brace for " ++
      ticked "\x7b"
  | lazyLine inside =>
    "Unexpected lazy line in " ++
      (match inside with | .tag => "jsx" | .expression => "expression") ++
      " in container, expected line to be prefixed with " ++ ticked ">" ++
      " when in a block quote, whitespace when in a list, etc"
  | closingSlash =>
    "Unexpected closing slash " ++ ticked "/" ++ " in tag, expected an open tag first"
  | closingAttribute => "Unexpected attribute in closing tag, expected the end of the tag"
  | closingSelfSlash =>
    "Unexpected self-closing slash " ++ ticked "/" ++
      " in closing tag, expected the end of the tag"
  | mismatch closing opening opened =>
    "Unexpected closing tag " ++ ticked closing ++ ", expected corresponding closing tag for " ++
      ticked opening ++ " " ++ opened.inWords
  | openElement tag opened inside =>
    "Expected a closing tag for " ++ ticked tag ++ " " ++ opened.inWords ++
      (if inside = .root then "" else " before the end of " ++ ticked inside.name)
  | crossing closing inside opened =>
    "Expected the closing tag " ++ ticked closing ++ " either before the start of " ++
      ticked inside.name ++ " " ++ opened.inWords ++
      ", or another opening tag after that start"

/-- The rule that is broken. -/
def rule : Cause → String
  | unexpected none _ _ | openExpression => "unexpected-eof"
  | unexpected (some _) _ _ => "unexpected-character"
  | lazyLine _ => "unexpected-lazy"
  | closingSlash => "unexpected-closing-slash"
  | closingAttribute => "unexpected-attribute"
  | closingSelfSlash => "unexpected-self-closing-slash"
  | mismatch _ _ _ | openElement _ _ _ | crossing _ _ _ => "end-tag-mismatch"

end Cause

/-- The place, what is wrong, and the rule. -/
def Problem.message (p : Problem) : String :=
  Nat.repr p.start.line ++ ":" ++ Nat.repr p.start.column ++
    (match p.stop with
      | some stop => "-" ++ Nat.repr stop.line ++ ":" ++ Nat.repr stop.column
      | none => "") ++
    ": " ++ p.cause.reason ++ " (markdown-rs:" ++ p.cause.rule ++ ")"

end Frontmatter.Markdown
