/-
Frontmatter/Toml/Number.lean

Integers and floats.

Underscores may stand between digits.  A decimal integer has no leading zeros;
a hexadecimal, octal or binary one has no sign.  Integers have sixty-four bits.
A float has a fraction or an exponent or both; one that is too large is refused,
unless it is negative.
-/
import Frontmatter.Decimal.FloatValue
import Frontmatter.Decimal.Reading
import Frontmatter.Toml.Text

namespace Frontmatter.Toml

open Frontmatter.Toml.Parser
open scoped CorePower

def digit : Parser Char := oneOf Char.isDigit

def isSign (c : Char) : Bool := c = '+' || c = '-'

/-- A digit, or an underscore and a digit. -/
def moreDigits (p : Char → Bool) : Parser Unit := do
  let _ ← many (orElse (oneOf p)
    (do
      let _ ← char '_'
      expecting (.described "digit") (must (oneOf p))))

def withoutUnderscores (cs : List Char) : List Char := cs.filter (· ≠ '_')

/-! ### Integers -/

/-- The characters of a decimal integer. -/
def decimalInteger : Parser (List Char) :=
  named .integer (taken do
    let _ ← optional (oneOf isSign)
    orElse
      (do
        let _ ← oneOf fun c => '1' ≤ c && c ≤ '9'
        moreDigits Char.isDigit)
      (do let _ ← digit))

/-- The integer that a sign and digits spell. -/
def toInt (cs : List Char) : Int :=
  match withoutUnderscores cs with
  | '-' :: ds => -(ofDigits 10 ds : Int)
  | '+' :: ds => ofDigits 10 ds
  | ds => ofDigits 10 ds

/-- An integer of sixty-four bits. -/
def inRange (n : Int) : Except Fault Int :=
  if 2 ^ (63 : Nat) ≤ n then .error .tooLarge
  else if n < -(2 ^ (63 : Nat)) then .error .tooSmall
  else .ok n

/-- An integer in a base that is named before its digits. -/
def markedInteger (marker : Char) (l : Label) (base : Nat) (p : Char → Bool) : Parser Int :=
  must (check
    (named l do
      literal ['0', marker]
      must (taken do
        let _ ← oneOf p
        moreDigits p))
    fun cs => inRange (ofDigits base (withoutUnderscores cs)))

def integer : Parser Int := fun cs =>
  match cs with
  | '0' :: 'x' :: _ => markedInteger 'x' .hexInteger 16 isHexDigit cs
  | '0' :: 'o' :: _ => markedInteger 'o' .octalInteger 8 (fun c => '0' ≤ c && c ≤ '7') cs
  | '0' :: 'b' :: _ => markedInteger 'b' .binaryInteger 2 (fun c => c = '0' || c = '1') cs
  | _ =>
    match decimalInteger cs with
    | .failed isFinal why rest => .failed isFinal why rest
    | .done ds rest =>
      match inRange (toInt ds) with
      | .ok n => .done n rest
      | .error fault => .failed true (.ofFault fault) cs

/-! ### Floats -/

/-- Digits that may start with zeros. -/
def digits : Parser Unit := do
  let _ ← digit
  moreDigits Char.isDigit

def exponent : Parser Unit := do
  let _ ← oneOf fun c => c = 'e' || c = 'E'
  let _ ← optional (oneOf isSign)
  must digits

def fraction : Parser Unit := do
  let _ ← char '.'
  expecting (.described "digit") (must digits)

def decimalFloat : Parser (List Char) :=
  taken do
    let _ ← decimalInteger
    orElse exponent (do
      fraction
      let _ ← optional exponent)

/-- The value of a float's characters; none if it is too large. -/
def toFloat? (cs : List Char) : Option FloatValue :=
  let cs := match withoutUnderscores cs with
    | '+' :: rest => rest
    | rest => rest
  match Decimal.ofChars? cs with
  | none => none
  | some d =>
    match d.toBinary64? with
    | some x => some (.finite x)
    | none => if d.negative then some (.infinite true) else none

def infinity : Parser FloatValue := do
  literal ['i', 'n', 'f']
  return .infinite false

def notANumber : Parser FloatValue := do
  literal ['n', 'a', 'n']
  return .notANumber

/-- An infinity or what is not a number, perhaps with a sign. -/
def specialFloat : Parser FloatValue := do
  let sign ← optional (oneOf isSign)
  let x ← orElse infinity notANumber
  match x with
  | .infinite _ => return .infinite (sign = some '-')
  | x => return x

def finiteFloat : Parser FloatValue := fun cs =>
  match decimalFloat cs with
  | .failed isFinal why rest => .failed isFinal why rest
  | .done ds rest =>
    match toFloat? ds with
    | some x => .done x rest
    | none => .failed true .empty cs

def float : Parser FloatValue := named .float (orElse finiteFloat specialFloat)

end Frontmatter.Toml
