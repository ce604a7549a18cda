/-
Frontmatter/Decimal/Shortest.lean

The shortest decimal that reads back as a given double.

Around a double lies the interval of the reals that round to it; its ends
belong to it exactly when the significand is even.  For one digit, two digits
and so on we look at the decimal grid with that many digits and test the two
grid points next to the value.  The first grid with a point in the interval
gives the digits, and of two points the nearer one (of two equally near ones
the even one).  Seventeen digits always suffice.

`Digits` is the result: a row of digits `d₁ d₂ … dₙ` and the place of the
point, standing for `0.d₁d₂…dₙ · 10^point`.
-/
import Frontmatter.Decimal.Binary64

namespace Frontmatter

open scoped CorePower

/-- A row of decimal digits as one natural, how many digits it has, and the
number of digits that stand before the decimal point. -/
structure Digits where
  value : Nat
  count : Nat
  point : Int
deriving DecidableEq

namespace Digits

/-- The digits as characters. -/
def toChars (d : Digits) : List Char :=
  let s := Nat.toDigits 10 d.value
  List.replicate (d.count - s.length) '0' ++ s

end Digits

namespace Binary64

/-- A positive ratio of naturals. -/
structure Ratio where
  num : Nat
  den : Nat

namespace Ratio

/-- The ratio of `m · 2^e`. -/
def ofBinary (m : Nat) (e : Int) : Ratio :=
  if 0 ≤ e then ⟨m * 2 ^ e.toNat, 1⟩ else ⟨m, 2 ^ (-e).toNat⟩

/-- The ratio of `m · 10^e`. -/
def ofDecimal (m : Nat) (e : Int) : Ratio :=
  if 0 ≤ e then ⟨m * 10 ^ e.toNat, 1⟩ else ⟨m, 10 ^ (-e).toNat⟩

def lt (a b : Ratio) : Bool := a.num * b.den < b.num * a.den
def le (a b : Ratio) : Bool := a.num * b.den ≤ b.num * a.den

/-- The whole part of `a / b`. -/
def quotient (a b : Ratio) : Nat := a.num * b.den / (a.den * b.num)

end Ratio

/-- The reals that round to a double of magnitude `m · 2^e`, as two bounds and
whether the bounds belong to it. -/
structure Interval where
  low : Ratio
  high : Ratio
  closed : Bool

/-- Below a power of two the neighbour is half as far away. -/
def interval (m : Nat) (e : Int) : Interval where
  low := if m = 2 ^ (52 : Nat) ∧ -1074 < e then Ratio.ofBinary (4 * m - 1) (e - 2)
    else Ratio.ofBinary (2 * m - 1) (e - 1)
  high := Ratio.ofBinary (2 * m + 1) (e - 1)
  closed := m % 2 = 0

def Interval.contains (i : Interval) (x : Ratio) : Bool :=
  if i.closed then i.low.le x && x.le i.high else i.low.lt x && x.lt i.high

/-- The number of digits before the point of a positive ratio: the least `k`
at or above the start with `x < 10^k`. -/
def pointFrom (x : Ratio) : Nat → Int → Int
  | 0, k => k
  | fuel + 1, k => if x.lt (Ratio.ofDecimal 1 k) then k else pointFrom x fuel (k + 1)

/-- The number of digits before the point.  The start is a lower bound that is
never more than two places too small. -/
def pointOf (m : Nat) (e : Int) : Int :=
  let x := Ratio.ofBinary m e
  let log2 : Int := (Nat.log2 m : Int) + e
  pointFrom x 8 (log2 * 30103 / 100000 - 1)

/-- The point of the grid with `n` digits that lies in the interval and is
nearest to the value. -/
def gridPoint (x : Ratio) (i : Interval) (point : Int) (n : Nat) : Option Nat :=
  let unit := point - n
  let below := x.quotient (Ratio.ofDecimal 1 unit)
  let above := below + 1
  let inside (k : Nat) : Bool := k ≠ 0 && i.contains (Ratio.ofDecimal k unit)
  match inside below, inside above with
  | true, true =>
    -- compare `x - below` with `above - x`, that is `2x` with `below + above`
    let twice : Ratio := ⟨2 * x.num, x.den⟩
    let middle := Ratio.ofDecimal (below + above) unit
    if twice.lt middle then some below
    else if middle.lt twice then some above
    else if below % 2 = 0 then some below else some above
  | true, false => some below
  | false, true => some above
  | false, false => none

/-- The first grid with a point in the interval, trying `n`, `n + 1`, … digits. -/
def shortestFrom (x : Ratio) (i : Interval) (point : Int) : Nat → Nat → Digits
  | 0, n => ⟨x.quotient (Ratio.ofDecimal 1 (point - n)), n, point⟩
  | fuel + 1, n =>
    match gridPoint x i point n with
    | some k => if k < 10 ^ n then ⟨k, n, point⟩ else ⟨1, 1, point + 1⟩
    | none => shortestFrom x i point fuel (n + 1)

/-- The shortest digits of a magnitude `m · 2^e`. -/
def shortestDigits (m : Nat) (e : Int) : Digits :=
  if m = 0 then ⟨0, 1, 1⟩
  else shortestFrom (Ratio.ofBinary m e) (interval m e) (pointOf m e) 17 1

/-- The shortest digits of the magnitude of a number. -/
def shortest (x : Binary64) : Digits := shortestDigits x.significand x.exponent

/-- The text of a whole number, written in the shortest way. -/
def intText (n : Int) : List Char :=
  if n < 0 then '-' :: Nat.toDigits 10 n.natAbs else Nat.toDigits 10 n.natAbs

/-- The text of a number: always with a fraction or an exponent, so that it
cannot be taken for a whole number.  Positional while the point stands at most
sixteen digits to the right of the first digit and at most four zeros follow
it on the left, with an exponent otherwise. -/
def text (x : Binary64) : List Char :=
  let sign := if x.negative then ['-'] else []
  if x.significand = 0 then sign ++ ['0', '.', '0']
  else
    let d := x.shortest
    let ds := d.toChars
    if d.count ≤ d.point ∧ d.point ≤ 16 then
      sign ++ ds ++ List.replicate (d.point.toNat - d.count) '0' ++ ['.', '0']
    else if 0 < d.point ∧ d.point ≤ 16 then
      sign ++ ds.take d.point.toNat ++ ['.'] ++ ds.drop d.point.toNat
    else if -5 < d.point ∧ d.point ≤ 0 then
      sign ++ ['0', '.'] ++ List.replicate (-d.point).toNat '0' ++ ds
    else if d.count = 1 then
      sign ++ ds ++ ['e'] ++ intText (d.point - 1)
    else
      sign ++ ds.take 1 ++ ['.'] ++ ds.drop 1 ++ ['e'] ++ intText (d.point - 1)

end Binary64
end Frontmatter
