/-
Frontmatter/Esm/Token.lean

The tokens of a module, and reading one token from the front of a text.

A word and a punctuator are kept as their text.  Whether a slash begins a
regular expression, and where a template goes on after an expression, only the
grammar knows; so those two have readers of their own, `Lexer.regex` and
`Lexer.templateText`, and `Lexer.token` reads a slash as a punctuator and
stops after the opening quote of a template.

A reader returns what it read, the rest of the text, and the problems that it
noted on the way.  Offsets are in bytes.
-/
import Frontmatter.Decimal.Shortest
import Frontmatter.Text.IdentifierStart
import Frontmatter.Text.IdentifierContinue
import Frontmatter.Text.Location
import Frontmatter.Esm.Tree
import Frontmatter.Esm.Problem

namespace Frontmatter.Esm

open scoped CorePower

inductive Token where
  | word (name : String)
  | punct (text : String)
  | str (value raw : String)
  | num (value : NumericValue) (raw : String)
  | bigint (value : Nat) (raw : String)
  | shebang
  | bad (problem : Problem)
  | eof
deriving DecidableEq, Inhabited

/-- The words that are never identifiers, except for a few of them at a few
places. -/
def keywords : List String :=
  ["await", "break", "case", "catch", "class", "const", "continue", "debugger", "default",
   "delete", "do", "else", "export", "extends", "finally", "for", "function", "if", "import", "in",
   "instanceof", "let", "new", "return", "super", "switch", "this", "throw", "try", "typeof",
   "var", "void", "while", "with", "yield", "null", "true", "false"]

def isKeyword (word : String) : Bool := keywords.contains word

/-- The digits of a finite number in positional notation, without an exponent. -/
def Binary64.positional (x : Binary64) : String :=
  let sign := if x.negative then ['-'] else []
  if x.significand = 0 then String.ofList (sign ++ ['0'])
  else
    let d := x.shortest
    let ds := d.toChars
    if d.count ≤ d.point then
      String.ofList (sign ++ ds ++ List.replicate (d.point.toNat - d.count) '0')
    else if 0 < d.point then
      String.ofList (sign ++ ds.take d.point.toNat ++ ['.'] ++ ds.drop d.point.toNat)
    else
      String.ofList (sign ++ ['0', '.'] ++ List.replicate (-d.point).toNat '0' ++ ds)

/-- A token as messages name it. -/
def Token.shown : Token → String
  | .word name => name
  | .punct text => text
  | .str value raw => "string literal (" ++ value ++ ", " ++ raw ++ ")"
  | .num value raw =>
    let v := match value with
      | .finite x => Binary64.positional x
      | .infinity => "inf"
    "numeric literal (" ++ v ++ ", " ++ raw ++ ")"
  | .bigint value raw => "bigint literal (" ++ Nat.repr value ++ ", " ++ raw ++ ")"
  | .shebang => "#!"
  | .bad _ => "<lexing error>"
  | .eof => "<eof>"

/-! ### Character classes -/

/-- The characters that end a line. -/
def isLineEnd (c : Char) : Bool := c = '\n' || c = '\r' || c = '\u2028' || c = '\u2029'

/-- Blanks that do not end a line. -/
def isBlank (c : Char) : Bool :=
  c = ' ' || c = '\t' || c = '\x0b' || c = '\x0c' || c = '\u00a0' || c = '\ufeff' ||
    c = '\u1680' || ('\u2000' ≤ c && c ≤ '\u200a') || c = '\u202f' || c = '\u205f' || c = '\u3000'

/-- A character that may begin a word. -/
def isWordStart (c : Char) : Bool :=
  if c.toNat < 128 then c.isAlpha || c = '_' || c = '$' else Text.isIdentifierStart c

/-- A character that may continue a word. -/
def isWordPart (c : Char) : Bool :=
  if c.toNat < 128 then c.isAlphanum || c = '_' || c = '$'
  else Text.isIdentifierContinue c || c = '\u200c' || c = '\u200d'

/-- The value of a digit, as far as hexadecimal ones go. -/
def digitValue? (c : Char) : Option Nat :=
  if c.isDigit then some (c.toNat - 48)
  else if 'a' ≤ c ∧ c ≤ 'f' then some (c.toNat - 87)
  else if 'A' ≤ c ∧ c ≤ 'F' then some (c.toNat - 55)
  else none

/-- The value of a digit of the given radix. -/
def digitOf? (radix : Nat) (c : Char) : Option Nat :=
  match digitValue? c with
  | some v => if v < radix then some v else none
  | none => none

namespace Lexer

/-! ### Blanks and comments -/

/-- What lies before a token: the rest, its offset, whether a line ended, and
the problem of a comment without an end. -/
structure Gap where
  rest : List Char
  pos : Nat
  newline : Bool
  problem : Option Problem

/-- The text from the end of the line on. -/
def skipLine : List Char → Nat → List Char × Nat
  | [], pos => ([], pos)
  | c :: rest, pos => if isLineEnd c then (c :: rest, pos) else skipLine rest (pos + c.utf8Size)

/-- The text after the end of a block comment, and whether it spans a line end. -/
def skipBlock : List Char → Nat → Bool → Option (List Char × Nat × Bool)
  | [], _, _ => none
  | [_], _, _ => none
  | c :: d :: rest, pos, newline =>
    if c = '*' ∧ d = '/' then some (rest, pos + 2, newline)
    else skipBlock (d :: rest) (pos + c.utf8Size) (newline || isLineEnd c)

/-- Skips blanks, line ends and comments. -/
def skipGap : Nat → List Char → Nat → Bool → Gap
  | 0, cs, pos, newline => ⟨cs, pos, newline, none⟩
  | fuel + 1, cs, pos, newline =>
    match cs with
    | [] => ⟨[], pos, newline, none⟩
    | c :: rest =>
      if isBlank c then skipGap fuel rest (pos + c.utf8Size) newline
      else if isLineEnd c then skipGap fuel rest (pos + c.utf8Size) true
      else if c = '/' then
        match rest with
        | '/' :: more =>
          let (after, p) := skipLine more (pos + 2)
          skipGap fuel after p newline
        | '*' :: more =>
          match skipBlock more (pos + 2) newline with
          | some (after, p, nl) => skipGap fuel after p nl
          | none => ⟨[], pos + byteLength cs, newline, some ⟨pos, .unterminatedComment⟩⟩
        | _ => ⟨cs, pos, newline, none⟩
      else ⟨cs, pos, newline, none⟩

/-! ### Digits and numbers -/

/-- A run of digits: their value and number, the largest one, and what follows. -/
structure Run where
  value : Nat
  count : Nat
  largest : Nat
  chars : List Char
  rest : List Char
  pos : Nat
  problems : List Problem

/-- A separator may stand between two digits only. -/
def separatorFits (radix : Nat) (before after : Option Char) : Bool :=
  let isDigit (c : Option Char) : Bool := (c.bind (digitOf? radix)).isSome
  isDigit before && isDigit after

/-- Reads digits of a radix, with separators among them. -/
def digits (radix start : Nat) (before : Option Char) : List Char → Nat → Run → Run
  | [], pos, run => { run with rest := [], pos := pos }
  | c :: rest, pos, run =>
    if c = '_' then
      let run := if separatorFits radix before rest.head? then run
        else { run with problems := run.problems ++ [⟨start, .misplacedSeparator⟩] }
      digits radix start (some c) rest (pos + 1) run
    else
      match digitOf? radix c with
      | some v =>
        digits radix start (some c) rest (pos + 1)
          { run with
            value := run.value * radix + v
            count := run.count + 1
            largest := max run.largest v
            chars := c :: run.chars }
      | none => { run with rest := c :: rest, pos := pos }

def readDigits (radix : Nat) (before : Option Char) (cs : List Char) (pos : Nat) : Run :=
  let run := digits radix pos before cs pos ⟨0, 0, 0, [], cs, pos, []⟩
  { run with chars := run.chars.reverse }

/-- What a reader found: a token, the rest, its offset, and noted problems. -/
structure Found where
  token : Token
  rest : List Char
  pos : Nat
  problems : List Problem

def numericValue : Option Binary64 → NumericValue
  | some x => .finite x
  | none => .infinity

/-- The characters that take the first `n` bytes. -/
def takeBytes : Nat → List Char → List Char
  | _, [] => []
  | n, c :: rest => if c.utf8Size ≤ n then c :: takeBytes (n - c.utf8Size) rest else []

/-- The text that begins at `pos` and stops at `stop`. -/
def spanText (cs : List Char) (pos stop : Nat) : String := String.ofList (takeBytes (stop - pos) cs)

/-- A number must not run into a word. -/
def endNumber (cs : List Char) (start : Nat) (value : NumericValue) (rest : List Char) (pos : Nat)
    (problems : List Problem) : Found :=
  match rest with
  | c :: _ =>
    if isWordStart c then ⟨.bad ⟨pos, .identifierAfterNumber⟩, rest, pos, problems⟩
    else ⟨.num value (spanText cs start pos), rest, pos, problems⟩
  | [] => ⟨.num value (spanText cs start pos), rest, pos, problems⟩

/-- A number with a radix mark, such as a hexadecimal one. -/
def radixNumber (radix : Nat) (cs : List Char) (pos : Nat) (mark : Char) (body : List Char) :
    Found :=
  let run := readDigits radix (some mark) body (pos + 2)
  if run.count = 0 then
    ⟨.bad ⟨pos + 2, .digitExpected radix⟩, run.rest, run.pos, run.problems⟩
  else
    match run.rest with
    | 'n' :: rest =>
      ⟨.bigint run.value (spanText cs pos (run.pos + 1)), rest, run.pos + 1, run.problems⟩
    | rest =>
      endNumber cs pos (numericValue (Binary64.nearest false run.value 1)) rest run.pos
        run.problems

/-- The exponent of a decimal number, after the letter.  The digits before it are all digits of
the number, `places` of them behind the point: the number is rounded once, as it is written. -/
def exponent (cs : List Char) (start digits places : Nat) (body : List Char) (pos : Nat)
    (problems : List Problem) : Found :=
  match body with
  | [] => ⟨.bad ⟨pos, .exponentExpected⟩, [], pos, problems⟩
  | c :: rest =>
    let signed := c = '+' || c = '-'
    let body := if signed then rest else body
    let first := if signed then pos + 1 else pos
    let run := readDigits 10 (some c) body first
    let problems := problems ++ run.problems
    if run.count = 0 then ⟨.bad ⟨first, .digitExpected 10⟩, run.rest, run.pos, problems⟩
    else
      let power : Int := if c = '-' then -(run.value : Int) else run.value
      endNumber cs start (numericValue (Binary64.ofDecimal false digits (power - places))) run.rest
        run.pos problems

/-- The fraction and the exponent of a decimal number whose whole part is read.  With neither of
them the number is `value`. -/
def decimalTail (cs : List Char) (start : Nat) (whole : Run) (value : Option Binary64)
    (problems : List Problem) : Found :=
  match whole.rest with
  | '.' :: body =>
    let run := readDigits 10 (some '.') body (whole.pos + 1)
    let digits := whole.value * 10 ^ run.count + run.value
    let problems := problems ++ run.problems
    match run.rest with
    | 'e' :: rest | 'E' :: rest => exponent cs start digits run.count rest (run.pos + 1) problems
    | rest =>
      endNumber cs start (numericValue (Binary64.ofDecimal false digits (-(run.count : Int)))) rest
        run.pos problems
  | 'e' :: rest | 'E' :: rest => exponent cs start whole.value 0 rest (whole.pos + 1) problems
  | rest => endNumber cs start (numericValue value) rest whole.pos problems

/-- Whole numbers that begin with a zero were octal once; a module refuses them. -/
def wholeNumber (cs : List Char) (pos : Nat) : Found :=
  let run := readDigits 10 none cs pos
  match run.rest with
  | 'n' :: rest =>
    ⟨.bigint run.value (spanText cs pos (run.pos + 1)), rest, run.pos + 1, run.problems⟩
  | _ =>
    let value := Binary64.nearest false run.value 1
    if cs.head? = some '0' then
      if run.value = 0 then
        if run.pos - pos = 1 then decimalTail cs pos run value run.problems
        else decimalTail cs pos run value (run.problems ++ [⟨pos, .legacyOctal⟩])
      else if 8 ≤ run.largest then
        decimalTail cs pos run value (run.problems ++ [⟨pos, .legacyDecimal⟩])
      else
        let octal := run.chars.foldl (fun n c => n * 8 + (c.toNat - 48)) 0
        endNumber cs pos (numericValue (Binary64.nearest false octal 1)) run.rest run.pos
          (run.problems ++ [⟨pos, .legacyOctal⟩])
    else decimalTail cs pos run value run.problems

/-- Reads a number that begins with a digit, or with a point and a digit. -/
def number (cs : List Char) (pos : Nat) : Found :=
  match cs with
  | '.' :: _ =>
    decimalTail cs pos ⟨0, 0, 0, [], cs, pos, []⟩ (some (Binary64.zero false)) []
  | '0' :: 'x' :: body => radixNumber 16 cs pos 'x' body
  | '0' :: 'X' :: body => radixNumber 16 cs pos 'X' body
  | '0' :: 'o' :: body => radixNumber 8 cs pos 'o' body
  | '0' :: 'O' :: body => radixNumber 8 cs pos 'O' body
  | '0' :: 'b' :: body => radixNumber 2 cs pos 'b' body
  | '0' :: 'B' :: body => radixNumber 2 cs pos 'B' body
  | _ => wholeNumber cs pos

/-! ### Escapes -/

/-- What an escape stands for. -/
inductive Escaped where
  | chars (cs : List Char)
  | bad (cause : Cause)

/-- An escape that was read, with the rest and its offset. -/
structure Escape where
  value : Escaped
  rest : List Char
  pos : Nat
  problems : List Problem

/-- Up to `limit` hexadecimal digits (without a limit for zero). -/
def hexRun : Nat → List Char → Nat × Nat × List Char
  | 0, cs => (0, 0, cs)
  | limit + 1, cs =>
    let rec go : Nat → List Char → Nat → Nat → Nat × Nat × List Char
      | 0, cs, value, count => (value, count, cs)
      | n + 1, cs, value, count =>
        match cs with
        | c :: rest =>
          match digitOf? 16 c with
          | some v => go n rest (value * 16 + v) (count + 1)
          | none => (value, count, cs)
        | [] => (value, count, [])
    go (limit + 1) cs 0 0

/-- A surrogate that stands alone is written out, since it is no character. -/
def loneSurrogate (n : Nat) : List Char :=
  '\\' :: 'u' :: (Nat.toDigits 16 n).map Char.toUpper

def charsOf (n : Nat) : List Char :=
  if 0xD800 ≤ n ∧ n ≤ 0xDFFF then loneSurrogate n else [Char.ofNat n]

/-- A unicode escape after its `u`, which stands just before `pos`. -/
def unicodeEscape (cs : List Char) (pos : Nat) : Escape :=
  match cs with
  | '\x7b' :: body =>
    let (value, count, rest) := hexRun body.length body
    let after := pos + 1 + count
    if count = 0 ∨ 0x10FFFF < value then
      ⟨.bad (.badEscape "1-6 hex characters in the range 0 to 10FFFF."), rest, after, []⟩
    else
      match rest with
      | '\x7d' :: more => ⟨.chars (charsOf value), more, after + 1, []⟩
      | _ => ⟨.bad .invalidUnicodeEscape, rest, after, []⟩
  | _ =>
    let (value, count, rest) := hexRun 4 cs
    if count = 4 then
      -- two halves of a pair stand for one character
      match rest with
      | '\\' :: 'u' :: more =>
        let (low, lowCount, after) := hexRun 4 more
        if lowCount = 4 ∧ 0xD800 ≤ value ∧ value < 0xDC00 ∧ 0xDC00 ≤ low ∧ low ≤ 0xDFFF then
          ⟨.chars [Char.ofNat (0x10000 + (value - 0xD800) * 1024 + (low - 0xDC00))], after,
            pos + 10, []⟩
        else ⟨.chars (charsOf value), rest, pos + 4, []⟩
      | _ => ⟨.chars (charsOf value), rest, pos + 4, []⟩
    else ⟨.bad (.badEscape "4 hex characters"), rest, pos + count, []⟩

/-- An escape in a string or a template, after the backslash at `pos`. -/
def escape (inTemplate : Bool) (cs : List Char) (pos : Nat) : Escape :=
  match cs with
  | [] => ⟨.bad .invalidStringEscape, [], pos + 1, []⟩
  | c :: rest =>
    let one (v : Char) : Escape := ⟨.chars [v], rest, pos + 1 + c.utf8Size, []⟩
    if c = 'n' then one '\n'
    else if c = 'r' then one '\r'
    else if c = 't' then one '\t'
    else if c = 'b' then one '\x08'
    else if c = 'v' then one '\x0b'
    else if c = 'f' then one '\x0c'
    else if c = '\r' then
      match rest with
      | '\n' :: more => ⟨.chars [], more, pos + 3, []⟩
      | _ => ⟨.chars [], rest, pos + 2, []⟩
    else if isLineEnd c then ⟨.chars [], rest, pos + 1 + c.utf8Size, []⟩
    else if c = 'x' then
      let (value, count, more) := hexRun 2 rest
      if count = 2 then ⟨.chars [Char.ofNat value], more, pos + 4, []⟩
      else ⟨.bad (.badEscape "2 hex characters"), more, pos + 2 + count, []⟩
    else if c = 'u' then unicodeEscape rest (pos + 2)
    else
      match digitOf? 8 c with
      | none => one c
      | some v =>
        let octalNext := match rest with
          | d :: _ => (digitOf? 8 d).isSome
          | [] => false
        if c = '0' && !octalNext then one (Char.ofNat 0)
        else if inTemplate then ⟨.bad .legacyOctal, rest, pos + 2, []⟩
        else
          let noted : List Problem := [⟨pos, .legacyOctal⟩]
          match rest with
          | d :: more =>
            match digitOf? 8 d with
            | none => ⟨.chars [Char.ofNat v], rest, pos + 2, noted⟩
            | some w =>
              let two := v * 8 + w
              match more with
              | e :: final =>
                match digitOf? 8 e with
                | some x =>
                  if two * 8 + x < 256 then
                    ⟨.chars [Char.ofNat (two * 8 + x)], final, pos + 4, noted⟩
                  else ⟨.chars [Char.ofNat two], more, pos + 3, noted⟩
                | none => ⟨.chars [Char.ofNat two], more, pos + 3, noted⟩
              | [] => ⟨.chars [Char.ofNat two], more, pos + 3, noted⟩
          | [] => ⟨.chars [Char.ofNat v], rest, pos + 2, noted⟩

/-! ### Strings, templates and regular expressions -/

/-- The body of a string, after its opening quote; `start` is where the string
begins and `value` is what was read so far, reversed. -/
def stringBody (quoteChar : Char) (start : Nat) (whole : List Char) :
    Nat → List Char → Nat → List Char → List Problem → Found
  | 0, cs, pos, _, problems => ⟨.bad ⟨start, .outOfReach⟩, cs, pos, problems⟩
  | fuel + 1, cs, pos, value, problems =>
    let done (rest : List Char) (p : Nat) (problems : List Problem) : Found :=
      ⟨.str (String.ofList value.reverse) (spanText whole start p), rest, p, problems⟩
    match cs with
    | [] => done [] pos (problems ++ [⟨start, .unterminatedString⟩])
    | c :: rest =>
      if c = quoteChar then done rest (pos + 1) problems
      else if c = '\\' then
        let e := escape false rest pos
        match e.value with
        | .chars cs =>
          stringBody quoteChar start whole fuel e.rest e.pos (cs.reverse ++ value)
            (problems ++ e.problems)
        | .bad cause => ⟨.bad ⟨pos, cause⟩, e.rest, e.pos, problems⟩
      else if c = '\n' || c = '\r' then done cs pos (problems ++ [⟨start, .unterminatedString⟩])
      else stringBody quoteChar start whole fuel rest (pos + c.utf8Size) (c :: value) problems

def string (fuel : Nat) (cs : List Char) (pos : Nat) : Found :=
  match cs with
  | [] => ⟨.eof, [], pos, []⟩
  | quoteChar :: rest => stringBody quoteChar pos cs fuel rest (pos + 1) [] []

/-- A stretch of a template up to a substitution or the closing quote. -/
structure TemplateText where
  raw : String
  /-- The problem of an escape in it, which a tagged template forgives. -/
  badEscape : Option Problem
  /-- The text ends here, not at a substitution. -/
  last : Bool
  rest : List Char
  pos : Nat

/-- The raw text of a template keeps line ends in one form. -/
def templateBody : Nat → List Char → Nat → List Char → Option Problem → Option TemplateText
  | 0, _, _, _, _ => none
  | fuel + 1, cs, pos, raw, bad =>
    match cs with
    | [] => none
    | c :: rest =>
      let done (last : Bool) : Option TemplateText :=
        some ⟨String.ofList raw.reverse, bad, last, cs, pos⟩
      if c = '`' then done true
      else if c = '$' && rest.head? = some '\x7b' then done false
      else if c = '\\' then
        let e := escape true rest pos
        let text := takeBytes (e.pos - pos) cs
        let bad := match e.value, bad with
          | .bad cause, none => some ⟨pos, cause⟩
          | _, b => b
        templateBody fuel e.rest e.pos (text.reverse ++ raw) bad
      else if c = '\r' then
        match rest with
        | '\n' :: more => templateBody fuel more (pos + 2) ('\n' :: raw) bad
        | _ => templateBody fuel rest (pos + 1) ('\n' :: raw) bad
      else templateBody fuel rest (pos + c.utf8Size) (c :: raw) bad

/-- The text of a template from `pos` on; nothing if the template has no end. -/
def templateText (fuel : Nat) (cs : List Char) (pos : Nat) : Option TemplateText :=
  templateBody fuel cs pos [] none

/-- The body of a regular expression, up to the slash that ends it. -/
def regexBody : List Char → Bool → Bool → List Char → Option (List Char × List Char)
  | [], _, _, _ => none
  | c :: rest, escaped, inClass, body =>
    if isLineEnd c then none
    else if escaped then regexBody rest false inClass (c :: body)
    else if c = '/' && !inClass then some (body.reverse, rest)
    else
      let inClass := if c = '[' then true else if c = ']' then false else inClass
      regexBody rest (c = '\\') inClass (c :: body)

/-! ### Words -/

/-- A word: its characters, whether one was escaped, and what follows. -/
structure Word where
  chars : List Char
  escaped : Bool
  rest : List Char
  pos : Nat
  problems : List Problem
  failure : Option Problem

/-- Reads the characters of a word; `chars` is what was read so far, reversed. -/
def wordBody : Nat → List Char → Nat → Word → Word
  | 0, cs, pos, w => { w with rest := cs, pos := pos }
  | fuel + 1, cs, pos, w =>
    match cs with
    | [] => { w with rest := [], pos := pos }
    | c :: rest =>
      let first := w.chars.isEmpty
      if c = '\\' then
        match rest with
        | 'u' :: more =>
          let e := unicodeEscape more (pos + 2)
          match e.value with
          | .chars cs =>
            let fits := match cs with
              | v :: _ => if first then isWordStart v else isWordPart v
              | [] => true
            let problems := if fits then w.problems
              else w.problems ++ [⟨pos, .invalidIdentifierChar⟩]
            wordBody fuel e.rest e.pos
              { w with chars := cs.reverse ++ w.chars, escaped := true, problems := problems }
          | .bad cause => { w with rest := e.rest, pos := e.pos, failure := some ⟨pos, cause⟩ }
        | _ =>
          { w with
            rest := rest
            pos := pos + 1
            failure := some ⟨pos, .unicodeEscapeExpected⟩ }
      else if (if first then isWordStart c else isWordPart c) then
        wordBody fuel rest (pos + c.utf8Size) { w with chars := c :: w.chars }
      else { w with rest := cs, pos := pos }

def readWord (fuel : Nat) (cs : List Char) (pos : Nat) : Word :=
  let w := wordBody fuel cs pos ⟨[], false, cs, pos, [], none⟩
  { w with chars := w.chars.reverse }

/-- The words that keep their meaning when written with escapes, and so must
not be written that way. -/
def refusesEscapes (word : String) : Bool :=
  isKeyword word ||
    ["enum", "implements", "package", "protected", "interface", "private", "public"].contains word

def word (fuel : Nat) (cs : List Char) (pos : Nat) : Found :=
  let w := readWord fuel cs pos
  match w.failure with
  | some p => ⟨.bad p, w.rest, w.pos, w.problems⟩
  | none =>
    let name := String.ofList w.chars
    if w.escaped && refusesEscapes name then
      ⟨.bad ⟨pos, .escapedKeyword name⟩, w.rest, w.pos, w.problems⟩
    else ⟨.word name, w.rest, w.pos, w.problems⟩

/-! ### Punctuators and whole tokens -/

/-- The punctuators, a longer one before its beginnings. -/
def punctuators : List String :=
  [">>>=", "...", "===", "!==", "**=", "<<=", ">>=", ">>>", "&&=", "||=", "??=", "=>", "==", "!=",
   "<=", ">=", "&&", "||", "??", "++", "--", "+=", "-=", "*=", "/=", "%=", "&=", "|=", "^=", "<<",
   ">>", "**", "\x7b", "\x7d", "(", ")", "[", "]", ";", ",", "<", ">", "+", "-", "*", "/", "%", "&",
   "|", "^", "!", "~", "?", ":", "=", ".", "#", "@", "`"]

/-- The rest of a text after a beginning. -/
def afterText? : List Char → List Char → Option (List Char)
  | [], cs => some cs
  | _ :: _, [] => none
  | p :: ps, c :: cs => if p = c then afterText? ps cs else none

def punctuator (cs : List Char) (pos : Nat) : Found :=
  match punctuators.findSome? fun p => (afterText? p.toList cs).map fun rest => (p, rest) with
  | some (p, rest) => ⟨.punct p, rest, pos + p.length, []⟩
  | none =>
    match cs with
    | c :: rest => ⟨.bad ⟨pos, .unexpectedChar c⟩, rest, pos + c.utf8Size, []⟩
    | [] => ⟨.eof, [], pos, []⟩

/-- A conflict marker of a merge tool, at the beginning of a line. -/
def isConflictMarker (cs : List Char) : Bool :=
  ["<<<<<<< ", "=======", ">>>>>>> "].any fun m => (afterText? m.toList cs).isSome

/-- Comments that begin like those of a web page. -/
def legacyComment? (newline : Bool) (cs : List Char) : Option (List Char) :=
  match cs with
  | '<' :: '!' :: '-' :: '-' :: rest => some rest
  | '-' :: '-' :: '>' :: rest => if newline then some rest else none
  | _ => none

/-- A token, where it stands, whether a line ended before it, and the texts
from it on and after it. -/
structure Lexeme where
  token : Token
  start : Nat
  stop : Nat
  newline : Bool
  chars : List Char
  rest : List Char
  problems : List Problem
deriving Inhabited

/-- Reads the token at the front of a text, which does not begin with a gap. -/
def tokenAt (fuel : Nat) (cs : List Char) (pos : Nat) : Found :=
  match cs with
  | [] => ⟨.eof, [], pos, []⟩
  | c :: rest =>
    if c = '"' || c = '\'' then string fuel cs pos
    else if c.isDigit then number cs pos
    else if c = '.' && (rest.head?.map Char.isDigit).getD false then number cs pos
    else if isWordStart c || c = '\\' then word fuel cs pos
    else punctuator cs pos

/-- Reads the next token, with `bound` characters at most in the text.
`newline` says that a line ended just before. -/
def token (bound : Nat) : Nat → List Char → Nat → Bool → List Problem → Lexeme
  | 0, cs, pos, newline, problems => ⟨.eof, pos, pos, newline, cs, [], problems⟩
  | fuel + 1, cs, pos, newline, problems =>
    let gap := skipGap bound cs pos newline
    match gap.problem with
    | some p => ⟨.bad p, p.start, gap.pos, gap.newline, gap.rest, gap.rest, problems⟩
    | none =>
      match legacyComment? gap.newline gap.rest with
      | some rest =>
        let (after, p) := skipLine rest (gap.pos + (if gap.rest.head? = some '<' then 4 else 3))
        token bound fuel after p gap.newline (problems ++ [⟨gap.pos, .legacyComment⟩])
      | none =>
        if gap.newline && isConflictMarker gap.rest then
          let (after, p) := skipLine gap.rest gap.pos
          token bound fuel after p gap.newline (problems ++ [⟨gap.pos, .conflictMarker⟩])
        else
          let found := tokenAt bound gap.rest gap.pos
          ⟨found.token, gap.pos, found.pos, gap.newline, gap.rest, found.rest,
            problems ++ found.problems⟩

/-- Reads the next token of a text from a byte offset on; the text has fewer
than `bound` characters. -/
def next (bound : Nat) (cs : List Char) (pos : Nat) (newline : Bool) : Lexeme :=
  token bound bound cs pos newline []

end Lexer
end Frontmatter.Esm
