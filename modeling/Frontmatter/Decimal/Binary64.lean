/-
Frontmatter/Decimal/Binary64.lean

Finite double precision numbers as exact values, and the one way a rational
becomes such a number.

A `Binary64` is a sign, a significand `m` and an exponent `e`, standing for
`± m · 2^e`.  Every finite double has exactly one such triple once we ask for
the largest possible significand: either `m` has all of its fifty-three bits,
or the exponent is already as small as it can be.  The condition is a field of
the structure, so two numbers are equal exactly when they are the same double
(the two zeros are different numbers).

Rounding is `nearest`: a ratio of naturals goes to the closest double, and an
exact half goes to the even significand.  A ratio beyond the largest double
has no nearest finite number; this is `none`, and what it means is the
reader's business (one format writes an infinity, another an error).
-/

namespace Frontmatter

namespace CorePower

/-- A power of naturals is the one of the core library, also where the one of
monoids is in sight.  An exponent that is a literal is written with its type,
since the instance is looked for by the type. -/
scoped instance (priority := high) natPow : Pow Nat Nat := instPowNat

/-- A power of integers, in the same way. -/
scoped instance (priority := high) intPow : Pow Int Nat := instPowNat

end CorePower

open scoped CorePower

/-- The triples that name a double: the significand is as large as it can be. -/
def IsDouble (significand : Nat) (exponent : Int) : Prop :=
  significand < 2 ^ (53 : Nat) ∧ -1074 ≤ exponent ∧ exponent ≤ 971 ∧
    (2 ^ (52 : Nat) ≤ significand ∨ exponent = -1074)

instance (m : Nat) (e : Int) : Decidable (IsDouble m e) := by
  unfold IsDouble; infer_instance

/-- A finite double, `± significand · 2^exponent`. -/
structure Binary64 where
  negative : Bool
  significand : Nat
  exponent : Int
  isDouble : IsDouble significand exponent

deriving instance DecidableEq for Binary64

namespace Binary64

/-- The number of a triple, when the triple names one. -/
def ofParts? (negative : Bool) (significand : Nat) (exponent : Int) : Option Binary64 :=
  if h : IsDouble significand exponent then some ⟨negative, significand, exponent, h⟩ else none

/-- The zero of a given sign. -/
def zero (negative : Bool) : Binary64 := ⟨negative, 0, -1074, by decide⟩

instance : Inhabited Binary64 := ⟨zero false⟩

/-- The same magnitude with a given sign. -/
def withSign (x : Binary64) (negative : Bool) : Binary64 := { x with negative := negative }

def isZero (x : Binary64) : Bool := x.significand == 0

/-- The finite number with the given sixty-four bits: a sign bit, eleven bits
of biased exponent, fifty-two bits of significand.  The all-ones exponent
belongs to the infinities and to what is not a number. -/
def ofBits? (bits : Nat) : Option Binary64 :=
  let negative : Bool := bits / 2 ^ (63 : Nat) % 2 == 1
  let biased : Nat := bits / 2 ^ (52 : Nat) % 2 ^ (11 : Nat)
  let fraction : Nat := bits % 2 ^ (52 : Nat)
  if biased = 0 then ofParts? negative fraction (-1074)
  else if biased = 2047 then none
  else ofParts? negative (2 ^ (52 : Nat) + fraction) ((biased : Int) - 1075)

/-! ### Rounding to nearest -/

/-- The quotient rounded to the nearest natural, a half to the even one. -/
def roundQuotient (num den : Nat) : Nat :=
  let q := num / den
  let r := num % den
  if 2 * r < den then q
  else if den < 2 * r then q + 1
  else if q % 2 = 0 then q else q + 1

/-- The ratio `num / (den · 2^e)` as a pair of naturals. -/
def scaled (num den : Nat) (e : Int) : Nat × Nat :=
  if 0 ≤ e then (num, den * 2 ^ e.toNat) else (num * 2 ^ (-e).toNat, den)

/-- The exponent at which the ratio has a significand of fifty-three bits, or
the least exponent when the ratio is too small for that. -/
def exponentFor (num den : Nat) : Int :=
  let guess : Int := (Nat.log2 num : Int) - (Nat.log2 den : Int) - 53
  let e := if guess < -1074 then -1074 else guess
  let (n, d) := scaled num den e
  if n / d < 2 ^ (53 : Nat) then e else e + 1

/-- The double nearest to `± num / den`, for a positive denominator. -/
def nearest (negative : Bool) (num den : Nat) : Option Binary64 :=
  if num = 0 then some (zero negative)
  else
    let e := exponentFor num den
    let (n, d) := scaled num den e
    let m := roundQuotient n d
    if m < 2 ^ (53 : Nat) then ofParts? negative m e else ofParts? negative (2 ^ (52 : Nat)) (e + 1)

/-- The double nearest to `± digits · 10^power`.  The two early answers keep the
arithmetic small: below the first bound everything rounds to zero, and above
the second nothing is finite. -/
def ofDecimal (negative : Bool) (digits : Nat) (power : Int) : Option Binary64 :=
  if digits = 0 then some (zero negative)
  else
    let magnitude : Int := ((Nat.log2 digits * 30103 / 100000 : Nat) : Int) + power
    if magnitude < -400 then some (zero negative)
    else if 400 < magnitude then none
    else if 0 ≤ power then nearest negative (digits * 10 ^ power.toNat) 1
    else nearest negative digits (10 ^ (-power).toNat)

end Binary64
end Frontmatter
