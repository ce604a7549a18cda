/-
Frontmatter/Toml/Datetime.lean

Dates, times, and both together.

A date is a day of the calendar; a time may have a leap second and a fraction
of a second, of which nine digits are kept.  An offset from universal time
belongs to a date with a time.
-/
import Frontmatter.Toml.Number

namespace Frontmatter.Toml

open Frontmatter.Toml.Parser
open scoped CorePower

structure Date where
  year : Nat
  month : Nat
  day : Nat
deriving DecidableEq, Inhabited

structure Time where
  hour : Nat
  minute : Nat
  second : Nat
  nanosecond : Nat
deriving DecidableEq, Inhabited

/-- An offset in minutes from universal time. -/
inductive Offset where
  | universal
  | minutes (n : Int)
deriving DecidableEq, Inhabited

structure Datetime where
  date : Option Date
  time : Option Time
  offset : Option Offset
deriving DecidableEq, Inhabited

/-! ### Display -/

/-- A number with leading zeros. -/
def padded (width n : Nat) : List Char :=
  let ds := Nat.toDigits 10 n
  List.replicate (width - ds.length) '0' ++ ds

def Date.display (d : Date) : List Char :=
  padded 4 d.year ++ '-' :: (padded 2 d.month ++ '-' :: padded 2 d.day)

/-- Zeros at the end of the fraction are left out. -/
def Time.display (t : Time) : List Char :=
  padded 2 t.hour ++ ':' :: (padded 2 t.minute ++ ':' :: padded 2 t.second) ++
    if t.nanosecond = 0 then []
    else '.' :: ((padded 9 t.nanosecond).reverse.dropWhile (· = '0')).reverse

def Offset.display : Offset → List Char
  | universal => ['Z']
  | minutes n =>
    (if n < 0 then '-' else '+') :: (padded 2 (n.natAbs / 60) ++ ':' :: padded 2 (n.natAbs % 60))

def Datetime.display (d : Datetime) : String :=
  String.ofList (((d.date.map Date.display).getD []) ++
    (match d.time with
      | none => []
      | some t => (if d.date.isSome then ['T'] else []) ++ t.display) ++
    ((d.offset.map Offset.display).getD []))

/-! ### Reading -/

/-- A number of some digits in a range. -/
def numberIn (width low high : Nat) : Parser Nat :=
  check (takeExactly width Char.isDigit) fun cs =>
    let n := ofDigits 10 cs
    if low ≤ n && n ≤ high then .ok n else .error .outOfRange

def isLeapYear (year : Nat) : Bool := year % 4 = 0 && (year % 100 ≠ 0 || year % 400 = 0)

def daysInMonth (year month : Nat) : Nat :=
  if month = 2 then (if isLeapYear year then 29 else 28)
  else if month = 4 || month = 6 || month = 9 || month = 11 then 30
  else 31

def dateParser : Parser Date := do
  let year ← takeExactly 4 Char.isDigit
  let year := ofDigits 10 year
  let _ ← char '-'
  let month ← must (numberIn 2 1 12)
  let _ ← must (char '-')
  let day ← must (check (numberIn 2 1 31) fun day =>
    if day ≤ daysInMonth year month then .ok day else .error .outOfRange)
  return ⟨year, month, day⟩

/-- The nanoseconds of a fraction's digits; further digits are dropped. -/
def nanoseconds (cs : List Char) : Nat :=
  ofDigits 10 (cs.take 9) * 10 ^ (9 - cs.length)

def timeParser : Parser Time := do
  let hour ← numberIn 2 0 23
  let _ ← char ':'
  must do
    let minute ← numberIn 2 0 59
    let _ ← char ':'
    let second ← numberIn 2 0 60
    let fraction ← optional (do
      let _ ← char '.'
      takeWhile1 Char.isDigit)
    return ⟨hour, minute, second, nanoseconds (fraction.getD [])⟩

def offsetParser : Parser Offset :=
  named .timeOffset (orElse
    (do
      let _ ← oneOf fun c => c = 'Z' || c = 'z'
      return .universal)
    (do
      let sign ← oneOf isSign
      must do
        let hour ← numberIn 2 0 23
        let _ ← char ':'
        let minute ← numberIn 2 0 59
        let n : Int := hour * 60 + minute
        return .minutes (if sign = '-' then -n else n)))

/-- A time and its offset, after a date. -/
def timeOfDay : Parser (Time × Option Offset) := do
  let _ ← oneOf fun c => c = 'T' || c = 't' || c = ' '
  let time ← timeParser
  let offset ← optional offsetParser
  return (time, offset)

def datetime : Parser Datetime :=
  orElse
    (named .dateTime do
      let date ← dateParser
      match ← optional timeOfDay with
      | some (time, offset) => return ⟨some date, some time, offset⟩
      | none => return ⟨some date, none, none⟩)
    (named .time do return ⟨none, some (← timeParser), none⟩)

end Frontmatter.Toml
