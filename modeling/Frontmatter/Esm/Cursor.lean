/-
Frontmatter/Esm/Cursor.lean

Where a reader of a module stands, and the elementary steps it can take.

The cursor holds one token that was read but not consumed, and the span of the
token consumed last, since problems at the end of the source point there.  A
step may fail with a problem; the cursor is kept even then, because some
readers go on after a failure.  A problem that does not end the reading is
noted, and only the first one that was noted is kept.
-/
import Frontmatter.Esm.Token

namespace Frontmatter.Esm

structure Cursor where
  /-- More than the number of characters of the source. -/
  bound : Nat
  cur : Lexer.Lexeme
  prevStart : Nat
  prevStop : Nat
  noted : Option Problem
  labels : List String
  /-- Where an arrow function may start. -/
  arrowStart : Option Nat

/-- Notes a problem, unless one was noted before. -/
def Cursor.note (c : Cursor) (p : Problem) : Cursor :=
  match c.noted with
  | some _ => c
  | none => { c with noted := some p }

/-- The cursor at the token after the one at this cursor. -/
def Cursor.advance (c : Cursor) : Cursor :=
  { c with
    cur := Lexer.next c.bound c.cur.rest c.cur.stop false
    prevStart := c.cur.start
    prevStop := c.cur.stop }

/-- What a step leaves as it is: the bound, and the problem that was noted
first. -/
structure Cursor.Before (c d : Cursor) : Prop where
  bound : d.bound = c.bound
  noted : ∀ p, c.noted = some p → d.noted = some p

namespace Cursor.Before

theorem refl (c : Cursor) : c.Before c := ⟨rfl, fun _ h => h⟩

theorem trans {c d e : Cursor} (h : c.Before d) (h' : d.Before e) : c.Before e :=
  ⟨h'.bound.trans h.bound, fun p hp => h'.noted p (h.noted p hp)⟩

theorem note (c : Cursor) (p : Problem) : c.Before (c.note p) := by
  unfold Cursor.note
  split
  · exact refl c
  · next h => exact ⟨rfl, fun q hq => by rw [h] at hq; cases hq⟩

theorem advance (c : Cursor) : c.Before c.advance := ⟨rfl, fun _ h => h⟩

end Cursor.Before

/-- What a step came to. -/
inductive Outcome (α : Type) where
  | done (value : α) (c : Cursor)
  | failed (p : Problem) (c : Cursor)

/-- The cursor after a step. -/
def Outcome.cursor {α : Type} : Outcome α → Cursor
  | .done _ c => c
  | .failed _ c => c

/-- A step of reading.  No step forgets the problem that was noted first. -/
structure Parse (α : Type) where
  run : Cursor → Outcome α
  before : ∀ c : Cursor, c.Before (run c).cursor

namespace Parse

@[inline] protected def pure {α : Type} (a : α) : Parse α :=
  ⟨fun c => .done a c, Cursor.Before.refl⟩

@[inline] protected def bind {α β : Type} (x : Parse α) (f : α → Parse β) : Parse β where
  run c :=
    match x.run c with
    | .done a d => (f a).run d
    | .failed p d => .failed p d
  before c := by
    have h := x.before c
    split
    · next a d e => rw [e] at h; exact h.trans ((f a).before d)
    · next p d e => rw [e] at h; exact h

instance : Monad Parse where
  pure := Parse.pure
  bind := Parse.bind

/-- A step that looks at the cursor and moves nothing. -/
@[inline] def peek {α : Type} (f : Cursor → α) : Parse α :=
  ⟨fun c => .done (f c) c, Cursor.Before.refl⟩

/-! ### Problems -/

/-- Ends the reading. -/
def fail {α : Type} (start : Nat) (cause : Cause) : Parse α :=
  ⟨fun c => .failed ⟨start, cause⟩ c, Cursor.Before.refl⟩

instance {α : Type} : Inhabited (Parse α) := ⟨fail 0 .outOfReach⟩

/-- Notes a problem and goes on. -/
def note (start : Nat) (cause : Cause) : Parse Unit :=
  ⟨fun c => .done () (c.note ⟨start, cause⟩), fun c => Cursor.Before.note c _⟩

/-- Notes the problems of the token at the cursor, which is looked at now. -/
def settle (c : Cursor) : Cursor :=
  match c.cur.problems with
  | [] => c
  | p :: _ => c.note p

theorem before_settle (c : Cursor) : c.Before (settle c) := by
  unfold settle
  split
  · exact Cursor.Before.refl c
  · exact Cursor.Before.note c _

/-! ### The token at the cursor -/

/-- A step that looks at the token at the cursor and moves nothing. -/
@[inline] def inspect {α : Type} (f : Cursor → α) : Parse α :=
  ⟨fun c => .done (f c) (settle c), before_settle⟩

/-- The token at the cursor. -/
def look : Parse Token := inspect fun c => c.cur.token

/-- Where the token at the cursor starts; at the end, where the last one stops. -/
def pos : Parse Nat := inspect fun c => if c.cur.token = .eof then c.prevStop else c.cur.start

/-- Where a problem with the token at the cursor is reported; at the end, where
the last token starts. -/
def spot : Parse Nat := inspect fun c => if c.cur.token = .eof then c.prevStart else c.cur.start

/-- Where the last token starts. -/
def prevStart : Parse Nat := peek Cursor.prevStart

/-- Where the last token stops. -/
def prevStop : Parse Nat := peek Cursor.prevStop

/-- A line ended just before the token at the cursor. -/
def newlineBefore : Parse Bool := inspect fun c => c.cur.newline

/-- Goes on after a stretch of text that a special reader took. -/
def jump (start : Nat) (rest : List Char) (stop : Nat) : Parse Unit where
  run c := .done ()
    { c with
      cur := Lexer.next c.bound rest stop false
      prevStart := start
      prevStop := stop }
  before _ := ⟨rfl, fun _ h => h⟩

/-- Consumes the token at the cursor. -/
def bump : Parse Token where
  run c := .done c.cur.token (settle c).advance
  before c := (before_settle c).trans (Cursor.Before.advance _)

/-- The token after the one at the cursor, and whether a line ended before it. -/
def second : Parse (Token × Bool) where
  run c :=
    let c := settle c
    let l := Lexer.next c.bound c.cur.rest c.cur.stop false
    .done (l.token, l.newline) (match l.problems with
      | [] => c
      | p :: _ => c.note p)
  before c := by
    refine (before_settle c).trans ?_
    simp only [Outcome.cursor]
    split
    · exact Cursor.Before.refl _
    · exact Cursor.Before.note _ _

/-- The token at the cursor, unless it is bad. -/
def glance : Parse Token := do
  match ← look with
  | .bad p =>
    let _ ← bump
    fail p.start p.cause
  | t => return t

/-- The token at the cursor, which has to be there. -/
def need : Parse Token := do
  match ← glance with
  | .eof => fail (← prevStop) .endOfSource
  | t => return t

def Token.isText (text : String) : Token → Bool
  | .word w => w = text
  | .punct p => p = text
  | _ => false

/-- The token at the cursor is the given word or punctuator. -/
def is (text : String) : Parse Bool := do return Token.isText text (← look)

def isOneOf (texts : List String) : Parse Bool := do
  let t ← look
  return texts.any (Token.isText · t)

/-- The token after the one at the cursor is the given word or punctuator. -/
def secondIs (text : String) : Parse Bool := do return Token.isText text (← second).1

def isEnd : Parse Bool := do return (← look) = .eof

/-- Consumes the given word or punctuator if it is at the cursor. -/
def eat (text : String) : Parse Bool := do
  if ← is text then
    let _ ← bump
    return true
  else return false

/-- Consumes the given word or punctuator, which has to be at the cursor. -/
def expect (text : String) : Parse Unit := do
  if !(← eat text) then fail (← spot) (.expected text (← look).shown)

/-- The token at the cursor is none of those that can stand here. -/
def unexpected {α : Type} (wanted : String) : Parse α := do
  let t ← need
  fail (← spot) (.unexpected t.shown wanted)

/-! ### Ends of statements

A statement ends at a semicolon, and also before a closing brace, at the end of
the source, and where a line ends. -/

def isStatementEnd : Parse Bool := do
  match ← look with
  | .eof => return true
  | t => return Token.isText ";" t || Token.isText "\x7d" t || (← newlineBefore)

def eatStatementEnd : Parse Bool := do
  if ← eat ";" then return true else isStatementEnd

def expectStatementEnd : Parse Unit := do
  if !(← eatStatementEnd) then fail (← spot) (.expected ";" (← look).shown)

/-! ### Words -/

/-- The words that cannot name a binding, at least not in a module. -/
def isReserved (word : String) : Bool := Lexer.refusesEscapes word

def Token.isIdentifier : Token → Bool
  | .word w => !isReserved w
  | _ => false

def isIdentifier : Parse Bool := do return Token.isIdentifier (← look)

/-! ### Repetition and recovery -/

/-- Repeats a step until it gives a result.  A step that goes on has consumed a
token, so the number of characters bounds the repetitions. -/
def loopFrom {α β : Type} (step : α → Parse (α ⊕ β)) : Nat → α → Parse β
  | 0, _ => fail 0 .outOfReach
  | n + 1, a => do
    match ← step a with
    | .inl a => loopFrom step n a
    | .inr b => return b

def loop {α β : Type} (init : α) (step : α → Parse (α ⊕ β)) : Parse β :=
  ⟨fun c => (loopFrom step (c.bound + 2) init).run c,
    fun c => (loopFrom step (c.bound + 2) init).before c⟩

/-- A step whose failure is handed to the caller, with the cursor where the
step left it. -/
def attempt {α : Type} (x : Parse α) : Parse (Except Problem α) where
  run c :=
    match x.run c with
    | .done a d => .done (.ok a) d
    | .failed p d => .done (.error p) d
  before c := by
    have h := x.before c
    split
    · next a d e => rw [e] at h; exact h
    · next p d e => rw [e] at h; exact h

end Parse
end Frontmatter.Esm
