/-
Frontmatter/Decimal/Reading.lean

Reading a decimal: digits, perhaps with a point among them, perhaps with an
exponent.  At least one digit must stand before the exponent, but it may stand
on either side of the point.
-/
import Frontmatter.Decimal.Binary64

namespace Frontmatter

/-- Adds decimal digits behind a number. -/
def appendDigits (n : Nat) (ds : List Char) : Nat :=
  ds.foldl (fun n c => n * 10 + (c.toNat - 48)) n

/-- A text of digits. -/
def isDigits (cs : List Char) : Bool := cs ≠ [] && cs.all Char.isDigit

/-- A decimal that was read: `± digits · 10^power`. -/
structure Decimal where
  negative : Bool
  digits : Nat
  power : Int
deriving DecidableEq

namespace Decimal

/-- An exponent with an optional sign. -/
def exponent? (cs : List Char) : Option Int :=
  match cs with
  | '-' :: ds => if isDigits ds then some (-(appendDigits 0 ds : Int)) else none
  | '+' :: ds => if isDigits ds then some (appendDigits 0 ds) else none
  | ds => if isDigits ds then some (appendDigits 0 ds) else none

/-- What follows the digits of a decimal: nothing, or an exponent. -/
def tail? (cs : List Char) : Option Int :=
  match cs with
  | [] => some 0
  | c :: rest => if c = 'e' || c = 'E' then exponent? rest else none

/-- A decimal without a sign. -/
def unsigned? (negative : Bool) (cs : List Char) : Option Decimal :=
  let before := cs.takeWhile Char.isDigit
  match cs.dropWhile Char.isDigit with
  | '.' :: rest =>
    let after := rest.takeWhile Char.isDigit
    if before = [] && after = [] then none
    else
      (tail? (rest.dropWhile Char.isDigit)).map fun e =>
        ⟨negative, appendDigits (appendDigits 0 before) after, e - after.length⟩
  | rest =>
    if before = [] then none
    else (tail? rest).map fun e => ⟨negative, appendDigits 0 before, e⟩

/-- A decimal, perhaps with a minus sign. -/
def ofChars? (cs : List Char) : Option Decimal :=
  match cs with
  | '-' :: rest => unsigned? true rest
  | rest => unsigned? false rest

/-- The double nearest to a decimal, unless it is too large for one. -/
def toBinary64? (d : Decimal) : Option Binary64 := Binary64.ofDecimal d.negative d.digits d.power

end Decimal
end Frontmatter
