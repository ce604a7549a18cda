/-
Frontmatter/Toml/Parser.lean

Reading a TOML text: what a reader comes to, and how readers are put together.

A reader that fails says what it was reading and what it expected, and where.
Most failures let another reader try at the same place; a final one ends the
reading of the text.  A failure is located where the reader stopped, which may
be behind the place where it started.
-/
import Frontmatter.Text.Location

namespace Frontmatter.Toml

/-! ### Complaints -/

/-- What is being read. -/
inductive Label where
  | key
  | tableHeader
  | basicString
  | literalString
  | longBasicString
  | longLiteralString
  | shortHexCode
  | longHexCode
  | escapeSequence
  | integer
  | hexInteger
  | octalInteger
  | binaryInteger
  | float
  | dateTime
  | time
  | timeOffset
  | array
  | inlineTable
  | string
deriving DecidableEq, Inhabited

def Label.text : Label → String
  | key => "key"
  | tableHeader => "table header"
  | basicString => "basic string"
  | literalString => "literal string"
  | longBasicString => "multiline basic string"
  | longLiteralString => "multiline literal string"
  | shortHexCode => "unicode 4-digit hex code"
  | longHexCode => "unicode 8-digit hex code"
  | escapeSequence => "escape sequence"
  | integer => "integer"
  | hexInteger => "hexadecimal integer"
  | octalInteger => "octal integer"
  | binaryInteger => "binary integer"
  | float => "floating-point number"
  | dateTime => "date-time"
  | time => "time"
  | timeOffset => "time offset"
  | array => "array"
  | inlineTable => "inline table"
  | string => "string"

/-- What could have stood there. -/
inductive Expected where
  | newline
  | literal (text : String)
  | described (text : String)
deriving DecidableEq, Inhabited

def Expected.text : Expected → String
  | newline => "newline"
  | literal s => String.singleton '\x60' ++ s ++ String.singleton '\x60'
  | described s => s

/-- What is wrong with something that is well written. -/
inductive Fault where
  | tooLarge
  | tooSmall
  | outOfRange
  | tooDeep
  /-- A key that stands twice, and the table, if it is known. -/
  | duplicateKey (key : String) (table : Option (List String))
  /-- A dotted key that leads through something that is no table. -/
  | noTable (path : List String) (actual : String)
deriving DecidableEq, Inhabited

/-- A name as it is shown in a wording. -/
def ticked (s : String) : String := String.singleton '\x60' ++ s ++ String.singleton '\x60'

def Fault.text : Fault → String
  | tooLarge => "number too large to fit in target type"
  | tooSmall => "number too small to fit in target type"
  | outOfRange => "value is out of range"
  | tooDeep => "recursion limit exceeded"
  | duplicateKey key none => "duplicate key " ++ ticked key
  | duplicateKey key (some []) => "duplicate key " ++ ticked key ++ " in document root"
  | duplicateKey key (some path) =>
    "duplicate key " ++ ticked key ++ " in table " ++ ticked (String.intercalate "." path)
  | noTable path actual =>
    "dotted key " ++ ticked (String.intercalate "." path) ++
      " attempted to extend non-table type (" ++ actual ++ ")"

/-- Why a reader failed: what it was reading, if that has a name; what it
expected; what was wrong. -/
structure Complaint where
  label : Option Label
  expected : List Expected
  fault : Option Fault
deriving DecidableEq, Inhabited

namespace Complaint

def empty : Complaint := ⟨none, [], none⟩

def ofFault (f : Fault) : Complaint := ⟨none, [], some f⟩

/-- The parts of the wording, one on a line. -/
def lines (c : Complaint) : List String :=
  (match c.label with
    | some l => ["invalid " ++ l.text]
    | none => []) ++
  (match c.expected with
    | [] => []
    | es => ["expected " ++ String.intercalate ", " (es.map Expected.text)]) ++
  (match c.fault with
    | some f => [f.text]
    | none => [])

def text (c : Complaint) : String := String.intercalate "\n" c.lines

end Complaint

/-! ### Readers -/

/-- What a reader comes to, and the characters left there. -/
inductive Reply (α : Type) where
  | done (value : α) (rest : List Char)
  | failed (isFinal : Bool) (why : Complaint) (rest : List Char)

def Parser (α : Type) : Type := List Char → Reply α

namespace Parser

@[inline] protected def pure {α : Type} (a : α) : Parser α := fun cs => .done a cs

@[inline] protected def bind {α β : Type} (p : Parser α) (f : α → Parser β) : Parser β := fun cs =>
  match p cs with
  | .done a rest => f a rest
  | .failed isFinal why rest => .failed isFinal why rest

instance : Monad Parser where
  pure := Parser.pure
  bind := Parser.bind

instance {α : Type} : Inhabited (Parser α) := ⟨fun cs => .failed false .empty cs⟩

def fail {α : Type} : Parser α := fun cs => .failed false .empty cs

/-- Fails for a fault. -/
def refuse {α : Type} (f : Fault) : Parser α := fun cs => .failed false (.ofFault f) cs

/-- Makes every failure final. -/
def must {α : Type} (p : Parser α) : Parser α := fun cs =>
  match p cs with
  | .failed _ why rest => .failed true why rest
  | done => done

/-- Names what is being read.  The innermost name counts. -/
def named {α : Type} (l : Label) (p : Parser α) : Parser α := fun cs =>
  match p cs with
  | .failed isFinal why rest =>
    .failed isFinal { why with label := why.label.or (some l) } rest
  | done => done

/-- Adds what could have stood there. -/
def expecting {α : Type} (e : Expected) (p : Parser α) : Parser α := fun cs =>
  match p cs with
  | .failed isFinal why rest => .failed isFinal { why with expected := why.expected ++ [e] } rest
  | done => done

/-- Tries a second reader where the first one failed. -/
def orElse {α : Type} (p q : Parser α) : Parser α := fun cs =>
  match p cs with
  | .failed false _ _ => q cs
  | reply => reply

/-- Something that may be missing. -/
def optional {α : Type} (p : Parser α) : Parser (Option α) := fun cs =>
  match p cs with
  | .done a rest => .done (some a) rest
  | .failed false _ _ => .done none cs
  | .failed true why rest => .failed true why rest

/-- Looks without moving on; a failure is located here, too. -/
def look {α : Type} (p : Parser α) : Parser α := fun cs =>
  match p cs with
  | .done a _ => .done a cs
  | .failed isFinal why _ => .failed isFinal why cs

/-- Goes on with what was read, or fails at its start. -/
def check {α β : Type} (p : Parser α) (f : α → Except Fault β) : Parser β := fun cs =>
  match p cs with
  | .done a rest =>
    match f a with
    | .ok b => .done b rest
    | .error fault => .failed false (.ofFault fault) cs
  | .failed isFinal why rest => .failed isFinal why rest

/-- As often as it can be read, at most so many times. -/
def times {α : Type} (p : Parser α) : Nat → Parser (List α)
  | 0 => Parser.pure []
  | n + 1 => fun cs =>
    match p cs with
    | .done a rest =>
      match times p n rest with
      | .done as rest => .done (a :: as) rest
      | .failed isFinal why rest => .failed isFinal why rest
    | .failed false _ _ => .done [] cs
    | .failed true why rest => .failed true why rest

/-- As often as it can be read. -/
def many {α : Type} (p : Parser α) : Parser (List α) := fun cs => times p (cs.length + 1) cs

/-- One or more, with separators between them.  A separator without anything
after it is left alone. -/
def separated {α β : Type} (p : Parser α) (sep : Parser β) : Parser (List α) := do
  let first ← p
  let more ← many (do
    let _ ← sep
    p)
  return first :: more

/-- The next character. -/
def next : Parser Char := fun cs =>
  match cs with
  | [] => .failed false .empty []
  | c :: rest => .done c rest

/-- The next character, if it is in a class. -/
def oneOf (p : Char → Bool) : Parser Char := fun cs =>
  match cs with
  | [] => .failed false .empty []
  | c :: rest => if p c then .done c rest else .failed false .empty cs

def char (c : Char) : Parser Char := oneOf (· = c)

/-- A fixed text. -/
def literal (s : List Char) : Parser Unit := fun cs =>
  if s.isPrefixOf cs then .done () (cs.drop s.length) else .failed false .empty cs

/-- The characters of a class, perhaps none. -/
def takeWhile (p : Char → Bool) : Parser (List Char) := fun cs =>
  .done (cs.takeWhile p) (cs.dropWhile p)

/-- The characters of a class, at least one. -/
def takeWhile1 (p : Char → Bool) : Parser (List Char) := fun cs =>
  match cs.takeWhile p with
  | [] => .failed false .empty cs
  | taken => .done taken (cs.dropWhile p)

/-- A fixed number of characters of a class. -/
def takeExactly (n : Nat) (p : Char → Bool) : Parser (List Char) := fun cs =>
  let taken := (cs.take n).takeWhile p
  if taken.length = n then .done taken (cs.drop n) else .failed false .empty cs

def atEnd : Parser Unit := fun cs =>
  match cs with
  | [] => .done () []
  | _ => .failed false .empty cs

/-- The characters that a reader takes. -/
def taken {α : Type} (p : Parser α) : Parser (List Char) := fun cs =>
  match p cs with
  | .done _ rest => .done (cs.take (cs.length - rest.length)) rest
  | .failed isFinal why rest => .failed isFinal why rest

end Parser

/-! ### Blanks, comments and line ends -/

open Frontmatter.Toml.Parser

def isBlank (c : Char) : Bool := c = ' ' || c = '\t'

/-- A character beyond ASCII. -/
def isForeign (c : Char) : Bool := 128 ≤ c.toNat

/-- A character of a comment. -/
def isCommentChar (c : Char) : Bool := c = '\t' || (32 ≤ c.toNat && c.toNat ≤ 126) || isForeign c

def blanks : Parser (List Char) := takeWhile isBlank

def newline : Parser Unit :=
  orElse (do let _ ← char '\n') (do let _ ← char '\r'; let _ ← char '\n')

/-- A line feed, or the end of the text. -/
def lineEnd : Parser Unit := orElse newline atEnd

def comment : Parser Unit := do
  let _ ← char '#'
  let _ ← takeWhile isCommentChar

/-- What may follow on a line. -/
def restOfLine : Parser Unit := do
  let _ ← blanks
  let _ ← optional comment
  lineEnd

/-- One comment line or one line end between the values of an array. -/
def arrayLine : Parser Unit := fun cs =>
  match cs with
  | '#' :: _ => (do comment; newline) cs
  | '\n' :: _ | '\r' :: _ => newline cs
  | _ => .done () cs

/-- Blanks, comments and line ends between the values of an array. -/
def arrayGap : Parser Unit := fun cs => go (cs.length + 1) cs
where
  go : Nat → Parser Unit
    | 0 => Parser.pure ()
    | fuel + 1 => do
      let _ ← blanks
      let next ← optional (look next)
      if next = some '#' || next = some '\n' || next = some '\r' then do
        arrayLine
        go fuel

end Frontmatter.Toml
