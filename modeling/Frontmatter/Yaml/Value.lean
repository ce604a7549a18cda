/-
Frontmatter/Yaml/Value.lean

The values of a YAML document, and what a plain scalar stands for.

A plain scalar is null, a truth value, an integer, a float or a string.  Integers
are decimal, or hexadecimal, octal or binary with a marker; digits after a
leading zero are a string.  Whole numbers of more than sixty-four bits are
refused, and those of more than a hundred and twenty-eight bits are floats.
-/
import Frontmatter.Decimal.FloatValue
import Frontmatter.Decimal.Reading
import Frontmatter.Decimal.Shortest
import Frontmatter.Yaml.Cursor

namespace Frontmatter.Yaml

open scoped CorePower

inductive Value where
  | null
  | bool (b : Bool)
  | int (n : Int)
  | real (x : FloatValue)
  | str (s : String)
  | list (items : List Value)
  | map (entries : List (Value × Value))
  | tagged (tag : String) (value : Value)
deriving Inhabited

/-! ### Equal keys -/

/-- The two zeros are equal, and so is what is not a number. -/
def sameFloat : FloatValue → FloatValue → Bool
  | .finite x, .finite y => (x.isZero && y.isZero) || x = y
  | .infinite a, .infinite b => a = b
  | .notANumber, .notANumber => true
  | _, _ => false

/-- A tag without the exclamation mark it may start with. -/
def bareTag (tag : String) : String :=
  match tag.toList with
  | '!' :: c :: rest => String.ofList (c :: rest)
  | _ => tag

mutual

/-- Equal values, as far as keys are concerned: the order of the entries of a
mapping does not count. -/
def Value.same : Value → Value → Bool
  | .null, .null => true
  | .bool a, .bool b => a = b
  | .int a, .int b => a = b
  | .real a, .real b => sameFloat a b
  | .str a, .str b => a = b
  | .list as, .list bs => Value.sameItems as bs
  | .map as, .map bs => as.length = bs.length && Value.sameEntries as bs
  | .tagged s a, .tagged t b => bareTag s = bareTag t && a.same b
  | _, _ => false

def Value.sameItems : List Value → List Value → Bool
  | [], [] => true
  | a :: as, b :: bs => a.same b && Value.sameItems as bs
  | _, _ => false

/-- Every entry is also an entry of the other mapping. -/
def Value.sameEntries : List (Value × Value) → List (Value × Value) → Bool
  | [], _ => true
  | (k, v) :: rest, bs => bs.any (fun b => k.same b.1 && v.same b.2) && Value.sameEntries rest bs

end

/-! ### Plain scalars -/

def isNullText (cs : List Char) : Bool :=
  ["null", "Null", "NULL", "~"].any (·.toList = cs)

def boolOfText? (cs : List Char) : Option Bool :=
  if ["true", "True", "TRUE"].any (·.toList = cs) then some true
  else if ["false", "False", "FALSE"].any (·.toList = cs) then some false
  else none

/-- Digits after a leading zero, perhaps with a sign. -/
def isZeroLed (cs : List Char) : Bool :=
  let ds := match cs with
    | '-' :: rest | '+' :: rest => rest
    | rest => rest
  match ds with
  | '0' :: rest => isDigits rest
  | _ => false

/-- The value of a digit below a base. -/
def digitBelow? (base : Nat) (c : Char) : Option Nat :=
  (hexValue? c).filter (· < base)

/-- A natural written in a base. -/
def natOfBase? (base : Nat) (cs : List Char) : Option Nat :=
  if cs = [] then none
  else (cs.mapM (digitBelow? base)).map (·.foldl (fun n d => n * base + d) 0)

/-- A natural with a marker for its base. -/
def markedNat? (cs : List Char) : Option Nat :=
  match cs with
  | '0' :: 'x' :: rest => natOfBase? 16 rest
  | '0' :: 'o' :: rest => natOfBase? 8 rest
  | '0' :: 'b' :: rest => natOfBase? 2 rest
  | _ => none

/-- The integer that a text spells. -/
def intOfText? (cs : List Char) : Option Int :=
  let (negative, magnitude) := match cs with
    | '-' :: rest => (true, rest)
    | '+' :: rest => (false, rest)
    | rest => (false, rest)
  let sign (n : Nat) : Int := if negative then -(n : Int) else n
  match markedNat? magnitude with
  | some n => some (sign n)
  | none => if isZeroLed cs then none else (natOfBase? 10 magnitude).map sign

/-- The float that a text spells.  A decimal too large for a double is none. -/
def realOfText? (cs : List Char) : Option FloatValue :=
  let unsigned : Option (List Char) := match cs with
    | '+' :: '+' :: _ | '+' :: '-' :: _ => none
    | '+' :: rest => some rest
    | rest => some rest
  unsigned.bind fun rest =>
    if [".inf", ".Inf", ".INF"].any (·.toList = rest) then some (.infinite false)
    else if ["-.inf", "-.Inf", "-.INF"].any (·.toList = cs) then some (.infinite true)
    else if [".nan", ".NaN", ".NAN"].any (·.toList = cs) then some .notANumber
    else ((Decimal.ofChars? rest).bind Decimal.toBinary64?).map .finite

/-- What a text with an integer's spelling comes to: an integer of the format, or
one that is too wide for it. -/
inductive IntReading where
  | fits (n : Int)
  | tooWide (n : Int)
deriving DecidableEq, Inhabited

/-- An integer of at most a hundred and twenty-eight bits. -/
def readInt? (cs : List Char) : Option IntReading :=
  (intOfText? cs).bind fun n =>
    if -(2 ^ (63 : Nat)) ≤ n && n < 2 ^ (64 : Nat) then some (.fits n)
    else if -(2 ^ (127 : Nat)) ≤ n && n < 2 ^ (128 : Nat) then some (.tooWide n)
    else none

/-! ### Misfits -/

/-- Why a document has no value. -/
inductive Misfit where
  | tooWide (n : Int)
  /-- The text does not spell what its tag says. -/
  | notA (text kind : String)
  | duplicateKey (key : Value)

/-- What a plain scalar stands for. -/
def Value.ofPlain (text : String) : Except Misfit Value :=
  let cs := text.toList
  if cs = [] || isNullText cs then .ok .null
  else
    match boolOfText? cs with
    | some b => .ok (.bool b)
    | none =>
      match readInt? cs with
      | some (.fits n) => .ok (.int n)
      | some (.tooWide n) => .error (.tooWide n)
      | none =>
        match if isZeroLed cs then none else realOfText? cs with
        | some x => .ok (.real x)
        | none => .ok (.str text)

end Frontmatter.Yaml
