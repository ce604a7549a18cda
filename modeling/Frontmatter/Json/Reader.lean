/-
Frontmatter/Json/Reader.lean

Reading the parts of a JSON text that a configuration needs: strings, fixed
words, and values that are skipped.

A number that is read only to be named in a problem is approximated: its digits
are rounded to a double first, and then scaled by a power of ten.
-/
import Frontmatter.Decimal.Shortest
import Frontmatter.Json.Cursor
import Frontmatter.Text.Printable

namespace Frontmatter.Json

open Cursor
open scoped CorePower

/-! ### Strings -/

def hexValue? (c : Char) : Option Nat :=
  if '0' ≤ c && c ≤ '9' then some (c.toNat - 48)
  else if 'A' ≤ c && c ≤ 'F' then some (c.toNat - 55)
  else if 'a' ≤ c && c ≤ 'f' then some (c.toNat - 87)
  else none

/-- Four hexadecimal digits. -/
def hexEscape (c : Cursor) : Except Problem (Nat × Cursor) :=
  if byteLength c.rest < 4 then (c.skipWhile fun _ => true).fail .endInString
  else
    match (c.rest.take 4).mapM hexValue? with
    | some ds =>
      .ok (ds.foldl (fun n d => n * 16 + d) 0, ⟨c.rest.drop 4, c.line, c.column + 4⟩)
    | none => c.failAhead 4 .badEscape

/-- The characters of the short escapes. -/
def shortEscape? (c : Char) : Option Char :=
  match c with
  | '"' => some '"'
  | '\\' => some '\\'
  | '/' => some '/'
  | 'b' => some (Char.ofNat 8)
  | 'f' => some (Char.ofNat 12)
  | 'n' => some '\n'
  | 'r' => some '\r'
  | 't' => some '\t'
  | _ => none

/-- One fixed character of an escape of two units. -/
def pairMark (ch : Char) (c : Cursor) : Except Problem Cursor :=
  match c.peek with
  | none => c.fail .endInString
  | some next =>
    if next = ch then .ok c.skip
    else if next = '\n' then c.skip.fail .brokenPair
    else c.failAhead 1 .brokenPair

/-- A character by its number, or by two numbers if it takes two units. -/
def unicodeEscape (c : Cursor) : Except Problem (Char × Cursor) := do
  let (n, c) ← hexEscape c
  if 0xDC00 ≤ n && n ≤ 0xDFFF then c.fail .loneSurrogate
  else if n < 0xD800 || 0xDBFF < n then return (Char.ofNat n, c)
  else
    let c ← pairMark '\\' c
    let c ← pairMark 'u' c
    let (low, c) ← hexEscape c
    if low < 0xDC00 || 0xDFFF < low then c.fail .loneSurrogate
    else return (Char.ofNat ((n - 0xD800) * 1024 + (low - 0xDC00) + 0x10000), c)

/-- The rest of a string, after its opening quote. -/
def stringRest : Nat → Cursor → Except Problem (List Char × Cursor)
  | 0, c => c.fail .endInString
  | fuel + 1, c =>
    match c.rest with
    | [] => c.fail .endInString
    | ch :: _ =>
      if ch = '"' then .ok ([], c.skip)
      else if ch = '\\' then
        let c := c.skip
        match c.peek with
        | none => c.fail .endInString
        | some letter => do
          let (value, c) ←
            match shortEscape? letter with
            | some value => .ok (value, c.skip)
            | none =>
              if letter = 'u' then unicodeEscape c.skip else c.failAtNext .badEscape
          let (more, c) ← stringRest fuel c
          return (value :: more, c)
      else if ch.toNat < 32 then c.skip.fail .controlCharacter
      else do
        let (more, c) ← stringRest fuel c.skip
        return (ch :: more, c)

/-- A string; the cursor stands at its opening quote. -/
def string (c : Cursor) : Except Problem (String × Cursor) := do
  let (cs, c) ← stringRest (c.rest.length + 1) c.skip
  return (String.ofList cs, c)

/-! ### Words -/

/-- The rest of a fixed word. -/
def wordRest : List Char → Cursor → Except Problem Cursor
  | [], c => .ok c
  | expected :: more, c =>
    match c.peek with
    | none => c.fail .endInValue
    | some ch => if ch = expected then wordRest more c.skip else c.failAtNext .noWord

/-- Past null; the cursor stands at its first letter. -/
def null (c : Cursor) : Except Problem Cursor := wordRest ['u', 'l', 'l'] c.skip

/-! ### Skipping -/

/-- Past the rest of a string. -/
def skipString : Nat → Cursor → Except Problem Cursor
  | 0, c => c.fail .endInString
  | fuel + 1, c =>
    match c.rest with
    | [] => c.fail .endInString
    | ch :: _ =>
      if ch = '"' then .ok c.skip
      else if ch = '\\' then
        let c := c.skip
        match c.peek with
        | none => c.fail .endInString
        | some letter =>
          if (shortEscape? letter).isSome then skipString fuel c.skip
          else if letter = 'u' then do
            let (_, c) ← hexEscape c.skip
            skipString fuel c
          else c.failAtNext .badEscape
      else if ch.toNat < 32 then c.fail .controlCharacter
      else skipString fuel c.skip

def isDigit (c : Char) : Bool := '0' ≤ c && c ≤ '9'

/-- Past an exponent, if there is one. -/
def skipExponent (c : Cursor) : Except Problem Cursor :=
  match c.peek with
  | some e =>
    if e = 'e' || e = 'E' then
      let c := c.skip
      let c := if c.peek = some '+' || c.peek = some '-' then c.skip else c
      match c.peek with
      | none => c.fail .badNumber
      | some d => if isDigit d then .ok (c.skipWhile isDigit) else c.failAtNext .badNumber
    else .ok c
  | none => .ok c

/-- Past a number without its sign. -/
def skipNumber (c : Cursor) : Except Problem Cursor := do
  let c ←
    match c.peek with
    | none => c.fail .badNumber
    | some d =>
      if d = '0' then
        match c.skip.peek with
        | some e => if isDigit e then c.skip.failAtNext .badNumber else .ok c.skip
        | none => .ok c.skip
      else if isDigit d then .ok (c.skipWhile isDigit)
      else c.failAtNext .badNumber
  if c.peek = some '.' then
    let after := c.skip.skipWhile isDigit
    if after.rest.length = c.skip.rest.length then after.failAtNext .badNumber
    else skipExponent after
  else skipExponent c

/-- What is skipped: a value, the rest of a list, or the rest of an object.  A
list or an object that has just been opened may be closed at once. -/
inductive Skipped where
  | value
  | items (first : Bool)
  | fields (first : Bool)

/-- Past a value, or past the rest of what is around it. -/
def skipPart : Nat → Skipped → Cursor → Except Problem Cursor
  | 0, _, c => c.fail .endInValue
  | fuel + 1, .value, c =>
    let c := c.skipSpace
    match c.peek with
    | none => c.fail .endInValue
    | some ch =>
      if ch = 'n' then null c
      else if ch = 't' then wordRest ['r', 'u', 'e'] c.skip
      else if ch = 'f' then wordRest ['a', 'l', 's', 'e'] c.skip
      else if ch = '-' then skipNumber c.skip
      else if isDigit ch then skipNumber c
      else if ch = '"' then skipString (c.rest.length + 1) c.skip
      else if ch = '[' then skipPart fuel (.items true) c.skip
      else if ch = '{' then skipPart fuel (.fields true) c.skip
      else c.failAtNext .noValue
  | fuel + 1, .items first, c =>
    let c := c.skipSpace
    match c.peek with
    | none => c.fail .endInList
    | some ch =>
      if ch = ']' then .ok c.skip
      else if first then do
        let c ← skipPart fuel .value c
        skipPart fuel (.items false) c
      else if ch = ',' then do
        let c ← skipPart fuel .value c.skip
        skipPart fuel (.items false) c
      else c.failAtNext .noListEnd
  | fuel + 1, .fields first, c =>
    let c := c.skipSpace
    match c.peek with
    | none => c.fail .endInObject
    | some ch =>
      if ch = '}' then .ok c.skip
      else if !first && ch ≠ ',' then c.failAtNext .noObjectEnd
      else
        let c := if first then c else c.skip.skipSpace
        match c.peek with
        | none => c.fail .endInObject
        | some quote =>
          if quote ≠ '"' then c.failAtNext .noKey
          else do
            let c ← skipString (c.rest.length + 1) c.skip
            let c := c.skipSpace
            match c.peek with
            | none => c.fail .endInObject
            | some colon =>
              if colon ≠ ':' then c.failAtNext .noColon
              else do
                let c ← skipPart fuel .value c.skip
                skipPart fuel (.fields false) c

/-- Past a value. -/
def skipValue (c : Cursor) : Except Problem Cursor := skipPart (2 * c.rest.length + 2) .value c

/-! ### Naming a value that does not fit -/

/-- A power of ten as a double. -/
def powerOfTen (n : Nat) : Binary64 :=
  (Binary64.nearest false (10 ^ n) 1).getD (Binary64.zero false)

/-- A double times a double, or divided by one. -/
def scaleBy (x : Binary64) (divide : Bool) (y : Binary64) : Option Binary64 :=
  let a := Binary64.Ratio.ofBinary x.significand x.exponent
  let b := Binary64.Ratio.ofBinary y.significand y.exponent
  if divide then Binary64.nearest x.negative (a.num * b.den) (a.den * b.num)
  else Binary64.nearest x.negative (a.num * b.num) (a.den * b.den)

/-- Digits scaled by a power of ten; none if that is too large. -/
def scaled (x : Binary64) : Nat → Int → Option Binary64
  | 0, _ => some x
  | fuel + 1, power =>
    if power.natAbs ≤ 308 then scaleBy x (power < 0) (powerOfTen power.natAbs)
    else if x.isZero then some x
    else if 0 ≤ power then none
    else (scaleBy x true (powerOfTen 308)).bind fun x => scaled x fuel (power + 308)

/-- The number that digits spell, as long as it fits into sixty-four bits, and how
many digits were left over. -/
def significand (n : Nat) : List Char → Nat × Nat
  | [] => (n, 0)
  | d :: ds =>
    let next := n * 10 + (d.toNat - 48)
    if next < 2 ^ (64 : Nat) then significand next ds else (n, ds.length + 1)

/-- The name of a number, and the cursor after it. -/
def numberName (negative : Bool) (c : Cursor) : Except Problem (String × Cursor) := do
  let digits := c.rest.takeWhile isDigit
  match c.peek with
  | none => c.fail .endInValue
  | some d =>
    if !isDigit d then c.failAtNext .badNumber
    else if d = '0' && 1 < digits.length then c.skip.failAtNext .badNumber
    else
      let c := c.skipWhile isDigit
      let (n, left) := significand 0 digits
      if left = 0 && c.peek ≠ some '.' && c.peek ≠ some 'e' && c.peek ≠ some 'E' then
        if !negative then return (integer n, c)
        else if n ≠ 0 && n ≤ 2 ^ (63 : Nat) then return (integer (-(n : Int)), c)
        else float negative n 0 c
      else
        let (n, power, c) ← fractionOf n left c
        let (power, c) ← exponentOf n power c
        float negative n power c
where
  integer (n : Int) : String := "integer " ++ ticked (String.ofList (Binary64.intText n))
  float (negative : Bool) (n : Nat) (power : Int) (c : Cursor) : Except Problem (String × Cursor) :=
    match (Binary64.nearest false n 1).bind (scaled · 20 power) with
    | none => c.fail .numberTooLarge
    | some x => .ok ("floating point " ++ ticked (String.ofList (x.withSign negative).text), c)
  /-- Digits after a point. -/
  fractionOf (n left : Nat) (c : Cursor) : Except Problem (Nat × Int × Cursor) :=
    if c.peek = some '.' then
      let c := c.skip
      let digits := c.rest.takeWhile isDigit
      if digits = [] then c.failAtNext (if c.rest = [] then .endInValue else .badNumber)
      else
        let (m, more) := significand n digits
        .ok (m, (left : Int) - (digits.length - more : Nat), c.skipWhile isDigit)
    else .ok (n, left, c)
  exponentOf (n : Nat) (power : Int) (c : Cursor) : Except Problem (Int × Cursor) :=
    if c.peek = some 'e' || c.peek = some 'E' then
      let c := c.skip
      let minus := c.peek = some '-'
      let c := if minus || c.peek = some '+' then c.skip else c
      match c.peek with
      | none => c.fail .endInValue
      | some d =>
        if !isDigit d then c.failAtNext .badNumber
        else
          let e : Nat := (c.rest.takeWhile isDigit).foldl (fun n d => n * 10 + (d.toNat - 48)) 0
          let after := c.skipWhile isDigit
          if e < 2 ^ (31 : Nat) then .ok (power + (if minus then -(e : Int) else e), after)
          else if n = 0 || minus then .ok (-100000, after)
          else after.fail .numberTooLarge
    else .ok (power, c)

/-- Fails because the next value is not what is expected. -/
def misfit {α : Type} (expected : String) (c : Cursor) : Except Problem α :=
  let refuse (name : String) (c : Cursor) : Except Problem α :=
    c.fail (.misfit ("invalid type: " ++ name ++ ", expected " ++ expected))
  match c.peek with
  | none => c.failAtNext .noValue
  | some ch =>
    if ch = 'n' then do refuse "null" (← null c)
    else if ch = 't' then do
      refuse ("boolean " ++ ticked "true") (← wordRest ['r', 'u', 'e'] c.skip)
    else if ch = 'f' then do
      refuse ("boolean " ++ ticked "false") (← wordRest ['a', 'l', 's', 'e'] c.skip)
    else if ch = '-' then do
      let (name, c) ← numberName true c.skip
      refuse name c
    else if isDigit ch then do
      let (name, c) ← numberName false c
      refuse name c
    else if ch = '"' then do
      let (s, c) ← string c
      refuse ("string " ++ Text.shownText s) c
    else if ch = '[' then refuse "sequence" c
    else if ch = '{' then refuse "map" c
    else c.failAtNext .noValue

end Frontmatter.Json
