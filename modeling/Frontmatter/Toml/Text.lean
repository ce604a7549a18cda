/-
Frontmatter/Toml/Text.lean

Strings: basic ones with escapes and literal ones without, on one line or on
several.

The body of a long string may hold one or two quotes in a row; its end is three
quotes, and up to two quotes more before them belong to the body.
-/
import Frontmatter.Toml.Parser

namespace Frontmatter.Toml

open Frontmatter.Toml.Parser

/-! ### Escapes -/

def isHexDigit (c : Char) : Bool :=
  ('0' ≤ c && c ≤ '9') || ('a' ≤ c && c ≤ 'f') || ('A' ≤ c && c ≤ 'F')

def hexDigitValue (c : Char) : Nat :=
  if c ≤ '9' then c.toNat - 48 else if c ≤ 'F' then c.toNat - 55 else c.toNat - 87

/-- The number that digits in a base spell. -/
def ofDigits (base : Nat) (cs : List Char) : Nat :=
  cs.foldl (fun n c => n * base + hexDigitValue c) 0

/-- A character by its number. -/
def hexCode (width : Nat) : Parser Char :=
  check (takeExactly width isHexDigit) fun cs =>
    let n := ofDigits 16 cs
    if n.isValidChar then .ok (Char.ofNat n) else .error .outOfRange

/-- The letters of the escapes, in the order they are listed to the reader. -/
def escapeLetters : List String := ["b", "f", "n", "r", "t", "u", "U", "\\", "\""]

/-- An escape that does not exist. -/
def noEscape : Parser Char := fun cs =>
  .failed true ⟨some .escapeSequence, escapeLetters.map .literal, none⟩ cs

def escape : Parser Char := do
  let _ ← char '\\'
  let letter ← next
  match letter with
  | 'b' => return Char.ofNat 8
  | 'f' => return Char.ofNat 12
  | 'n' => return '\n'
  | 'r' => return '\r'
  | 't' => return '\t'
  | '\\' => return '\\'
  | '"' => return '"'
  | 'u' => named .shortHexCode (must (hexCode 4))
  | 'U' => named .longHexCode (must (hexCode 8))
  | _ => noEscape

/-! ### Strings on one line -/

/-- A character of a basic string that stands for itself. -/
def isBasicChar (c : Char) : Bool :=
  isBlank c || c = '!' || ('#' ≤ c && c ≤ '[') || (']' ≤ c && c ≤ '~') || isForeign c

def basicPiece : Parser (List Char) :=
  orElse (takeWhile1 isBasicChar) (do return [← escape])

def basicString : Parser (List Char) := do
  let _ ← char '"'
  let pieces ← many basicPiece
  let _ ← named .basicString (must (char '"'))
  return pieces.flatten

/-- A character of a literal string. -/
def isLiteralChar (c : Char) : Bool :=
  c = '\t' || (' ' ≤ c && c ≤ '&') || ('(' ≤ c && c ≤ '~') || isForeign c

def literalString : Parser (List Char) := named .literalString do
  let _ ← char '\''
  let cs ← takeWhile isLiteralChar
  let _ ← must (char '\'')
  return cs

/-! ### Strings on several lines -/

/-- One or two quotes before something else. -/
def quotesBefore (quote : Char) (follow : Parser Unit) : Parser (List Char) :=
  orElse
    (do literal [quote, quote]; look follow; return [quote, quote])
    (do literal [quote]; look follow; return [quote])

/-- A backslash at the end of a line, with all blanks and line ends after it. -/
def escapedBreak : Parser Unit := do
  let _ ← char '\\'
  let _ ← blanks
  newline
  let _ ← many (orElse newline (do let _ ← takeWhile1 isBlank))

/-- One or more escaped line ends. -/
def escapedBreaks : Parser (List Char) := do
  escapedBreak
  let _ ← many escapedBreak
  return []

def longBasicPiece : Parser (List Char) :=
  orElse (takeWhile1 isBasicChar)
    (orElse escapedBreaks
      (orElse (do return [← escape]) (do newline; return ['\n'])))

/-- The body of a long string: pieces, and quotes between pieces, and quotes
before the end. -/
def longBody (quote : Char) (piece : Parser (List Char)) : Parser (List Char) := do
  let pieces ← many piece
  let more ← many (do
    let quotes ← quotesBefore quote (do let _ ← piece)
    let first ← piece
    let pieces ← many piece
    return quotes ++ first ++ pieces.flatten)
  let last ← optional (quotesBefore quote (literal [quote, quote, quote]))
  return pieces.flatten ++ more.flatten ++ last.getD []

def longBasicString : Parser (List Char) := named .longBasicString do
  literal ['"', '"', '"']
  let _ ← optional newline
  let body ← must (longBody '"' longBasicPiece)
  must (literal ['"', '"', '"'])
  return body

/-- A carriage return before a line feed is dropped. -/
def longLiteralPiece : Parser (List Char) :=
  orElse (do return [← oneOf isLiteralChar]) (do newline; return ['\n'])

def longLiteralString : Parser (List Char) := named .longLiteralString do
  literal ['\'', '\'', '\'']
  let _ ← optional newline
  let body ← must (longBody '\'' longLiteralPiece)
  must (literal ['\'', '\'', '\''])
  return body

def string : Parser String := do
  let cs ← orElse longBasicString (orElse basicString (orElse longLiteralString literalString))
  return String.ofList cs

end Frontmatter.Toml
