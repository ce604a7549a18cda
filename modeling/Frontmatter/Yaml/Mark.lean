/-
Frontmatter/Yaml/Mark.lean

Places in a YAML text, and what can be wrong there.

A mark counts characters, and its line and its column are counted from zero;
in wordings both are counted from one.  A `Problem` is a cause at a mark,
perhaps with the construct that was being read and the mark where it started.
The place of a construct that starts at the very beginning of the text is left
out of the wording, and so is a place that was just named.
-/
import Frontmatter.Text.Location

namespace Frontmatter.Yaml

/-- A place in a text. -/
structure Mark where
  index : Nat
  line : Nat
  column : Nat
deriving DecidableEq, Inhabited

namespace Mark

/-- The beginning of a text. -/
def start : Mark := ⟨0, 0, 0⟩

/-- The mark after a character that does not end a line. -/
def nextColumn (m : Mark) : Mark := ⟨m.index + 1, m.line, m.column + 1⟩

/-- The mark after a line end of a number of characters. -/
def nextLine (m : Mark) (width : Nat) : Mark := ⟨m.index + width, m.line + 1, 0⟩

/-- The first column of the first line. -/
def isOrigin (m : Mark) : Bool := m.line = 0 && m.column = 0

/-- Both marks have the same line and column. -/
def sameSpot (a b : Mark) : Bool := a.line = b.line && a.column = b.column

def display (m : Mark) : String :=
  "line " ++ Nat.repr (m.line + 1) ++ " column " ++ Nat.repr (m.column + 1)

def location (m : Mark) : Location := Location.inText (m.line + 1) (m.column + 1)

end Mark

/-! ### Problems -/

/-- A construct that is being read. -/
inductive Construct where
  | nextToken
  | simpleKey
  | directive
  | versionDirective
  | tagDirective
  | tagDirectiveHandle
  | tagDirectiveName
  | tagDirectivePart
  | anchor
  | alias
  | tag
  | tagPart
  | blockScalar
  | quotedScalar
  | quotedEscape
  | plainScalar
  | node
  | blockNode
  | flowNode
  | blockCollection
  | blockMapping
  | flowSequence
  | flowMapping
deriving DecidableEq, Inhabited

/-- How a construct is named after a problem in it. -/
def Construct.text : Construct → String
  | .nextToken => "while scanning for the next token"
  | .simpleKey => "while scanning a simple key"
  | .directive => "while scanning a directive"
  | .versionDirective => "while scanning a %YAML directive"
  | .tagDirective => "while scanning a %TAG directive"
  | .tagDirectiveHandle => "while scanning a tag directive"
  | .tagDirectiveName => "while parsing a tag directive"
  | .tagDirectivePart => "while parsing a %TAG directive"
  | .anchor => "while scanning an anchor"
  | .alias => "while scanning an alias"
  | .tag => "while scanning a tag"
  | .tagPart => "while parsing a tag"
  | .blockScalar => "while scanning a block scalar"
  | .quotedScalar => "while scanning a quoted scalar"
  | .quotedEscape => "while parsing a quoted scalar"
  | .plainScalar => "while scanning a plain scalar"
  | .node => "while parsing a node"
  | .blockNode => "while parsing a block node"
  | .flowNode => "while parsing a flow node"
  | .blockCollection => "while parsing a block collection"
  | .blockMapping => "while parsing a block mapping"
  | .flowSequence => "while parsing a flow sequence"
  | .flowMapping => "while parsing a flow mapping"

/-- What is wrong. -/
inductive Cause where
  | noToken
  | noColon
  | entryNotAllowed
  | keyNotAllowed
  | valueNotAllowed
  | noDirectiveName
  | nonAlphabetic
  | unknownDirective
  | noCommentOrBreak
  | noVersionDot
  | longVersion
  | noVersion
  | noBlank
  | noBlankOrBreak
  | noTagMark
  | noTagText
  | noTagEnd
  | noEscapedByte
  | badLeadingByte
  | badTrailingByte
  | noName
  | zeroIndent
  | tabForIndent
  | tabBelowIndent
  | documentMarker
  | endOfText
  | unknownEscape
  | noHexNumber
  | badCodePoint
  | unexpectedColon
  | duplicateVersion
  | duplicateTagDirective
  | incompatibleVersion
  | noDocumentStart
  | undefinedHandle
  | noContent
  | noDash
  | noKey
  | noCommaOrBracket
  | noCommaOrBrace
deriving DecidableEq, Inhabited

/-- The wording of a cause. -/
def Cause.text : Cause → String
  | noToken => "found character that cannot start any token"
  | noColon => "could not find expected ':'"
  | entryNotAllowed => "block sequence entries are not allowed in this context"
  | keyNotAllowed => "mapping keys are not allowed in this context"
  | valueNotAllowed => "mapping values are not allowed in this context"
  | noDirectiveName => "could not find expected directive name"
  | nonAlphabetic => "found unexpected non-alphabetical character"
  | unknownDirective => "found unknown directive name"
  | noCommentOrBreak => "did not find expected comment or line break"
  | noVersionDot => "did not find expected digit or '.' character"
  | longVersion => "found extremely long version number"
  | noVersion => "did not find expected version number"
  | noBlank => "did not find expected whitespace"
  | noBlankOrBreak => "did not find expected whitespace or line break"
  | noTagMark => "did not find expected '!'"
  | noTagText => "did not find expected tag URI"
  | noTagEnd => "did not find the expected '>'"
  | noEscapedByte => "did not find URI escaped octet"
  | badLeadingByte => "found an incorrect leading UTF-8 octet"
  | badTrailingByte => "found an incorrect trailing UTF-8 octet"
  | noName => "did not find expected alphabetic or numeric character"
  | zeroIndent => "found an indentation indicator equal to 0"
  | tabForIndent => "found a tab character where an indentation space is expected"
  | tabBelowIndent => "found a tab character that violates indentation"
  | documentMarker => "found unexpected document indicator"
  | endOfText => "found unexpected end of stream"
  | unknownEscape => "found unknown escape character"
  | noHexNumber => "did not find expected hexadecimal number"
  | badCodePoint => "found invalid Unicode character escape code"
  | unexpectedColon => "found unexpected ':'"
  | duplicateVersion => "found duplicate %YAML directive"
  | duplicateTagDirective => "found duplicate %TAG directive"
  | incompatibleVersion => "found incompatible YAML document"
  | noDocumentStart => "did not find expected <document start>"
  | undefinedHandle => "found undefined tag handle"
  | noContent => "did not find expected node content"
  | noDash => "did not find expected '-' indicator"
  | noKey => "did not find expected key"
  | noCommaOrBracket => "did not find expected ',' or ']'"
  | noCommaOrBrace => "did not find expected ',' or '\x7d'"

/-- A cause at a mark, and the construct it was met in. -/
structure Problem where
  cause : Cause
  mark : Mark
  within : Option (Construct × Mark)
deriving DecidableEq, Inhabited

namespace Problem

/-- The wording of the construct. -/
def withinText (p : Problem) : String :=
  match p.within with
  | none => ""
  | some (construct, start) =>
    ", " ++ construct.text ++
      if start.isOrigin || start.sameSpot p.mark then "" else " at " ++ start.display

def text (p : Problem) : String :=
  p.cause.text ++ (if p.mark.isOrigin then "" else " at " ++ p.mark.display) ++ p.withinText

end Problem
end Frontmatter.Yaml
