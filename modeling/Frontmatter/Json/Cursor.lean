/-
Frontmatter/Json/Cursor.lean

Where the reading of a JSON text stands, and what can be wrong there.

A place is a line, counted from one, and the number of bytes read of that line.
Most problems with a character are placed behind it.
-/
import Frontmatter.Text.Location

namespace Frontmatter.Json

/-- What is wrong. -/
inductive Cause where
  | endInList
  | endInObject
  | endInString
  | endInValue
  | noColon
  | noListEnd
  | noObjectEnd
  | noWord
  | noValue
  | badEscape
  | badNumber
  | numberTooLarge
  | controlCharacter
  | noKey
  | loneSurrogate
  | commaAtEnd
  | moreText
  | brokenPair
  /-- The text is fine, and its value is not what was asked for. -/
  | misfit (message : String)
deriving DecidableEq, Inhabited

def ticked (s : String) : String := String.singleton '\x60' ++ s ++ String.singleton '\x60'

def Cause.text : Cause → String
  | endInList => "EOF while parsing a list"
  | endInObject => "EOF while parsing an object"
  | endInString => "EOF while parsing a string"
  | endInValue => "EOF while parsing a value"
  | noColon => "expected " ++ ticked ":"
  | noListEnd => "expected " ++ ticked "," ++ " or " ++ ticked "]"
  | noObjectEnd => "expected " ++ ticked "," ++ " or " ++ ticked "\x7d"
  | noWord => "expected ident"
  | noValue => "expected value"
  | badEscape => "invalid escape"
  | badNumber => "invalid number"
  | numberTooLarge => "number out of range"
  | controlCharacter => "control character (\\u0000-\\u001F) found while parsing a string"
  | noKey => "key must be a string"
  | loneSurrogate => "lone leading surrogate in hex escape"
  | commaAtEnd => "trailing comma"
  | moreText => "trailing characters"
  | brokenPair => "unexpected end of hex escape"
  | misfit message => message

/-- A cause and its place. -/
structure Problem where
  cause : Cause
  line : Nat
  column : Nat
deriving DecidableEq, Inhabited

def Problem.text (p : Problem) : String :=
  p.cause.text ++ " at line " ++ Nat.repr p.line ++ " column " ++ Nat.repr p.column

/-- The characters that are left, the line, and the bytes read of it. -/
structure Cursor where
  rest : List Char
  line : Nat
  column : Nat
deriving DecidableEq, Inhabited

namespace Cursor

def start (text : List Char) : Cursor := ⟨text, 1, 0⟩

def peek (c : Cursor) : Option Char := c.rest.head?

/-- Past one character. -/
def skip (c : Cursor) : Cursor :=
  match c.rest with
  | [] => c
  | ch :: rest =>
    if ch = '\n' then ⟨rest, c.line + 1, 0⟩ else ⟨rest, c.line, c.column + ch.utf8Size⟩

/-- A problem at the cursor. -/
def fail {α : Type} (c : Cursor) (cause : Cause) : Except Problem α :=
  .error ⟨cause, c.line, c.column⟩

/-- A problem behind the next byte. -/
def failAtNext {α : Type} (c : Cursor) (cause : Cause) : Except Problem α :=
  match c.rest with
  | [] => c.fail cause
  | ch :: _ => if ch = '\n' then c.skip.fail cause else .error ⟨cause, c.line, c.column + 1⟩

/-- A problem some bytes ahead. -/
def failAhead {α : Type} (c : Cursor) (bytes : Nat) (cause : Cause) : Except Problem α :=
  .error ⟨cause, c.line, c.column + bytes⟩

def isSpace (ch : Char) : Bool := ch = ' ' || ch = '\n' || ch = '\t' || ch = '\r'

/-- Past the characters of a class. -/
def skipWhile (p : Char → Bool) (c : Cursor) : Cursor := go c.rest c
where
  go : List Char → Cursor → Cursor
    | [], c => c
    | ch :: rest, c => if p ch then go rest c.skip else c

def skipSpace (c : Cursor) : Cursor := c.skipWhile isSpace

end Cursor
end Frontmatter.Json
