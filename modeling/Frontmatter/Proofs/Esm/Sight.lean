/-
Frontmatter/Proofs/Esm/Sight.lean

What the elementary steps do at a cursor whose tokens are known.

A cursor *sees* tokens if the token at it and the ones after it are these,
without a problem among them (`Cursor.Sees`).  Then every elementary step is a
computation, and there is an equation for each of them.

Two statements about longer steps are built from these equations.  A step
*reads* a value if it succeeds with it, notes nothing, and leaves the cursor at
known tokens (`Parse.Reads`).  A step *stumbles* if it fails or leaves a noted
problem behind (`Parse.Stumbles`); since no problem is ever forgotten, whatever
is read after it stumbles, too.
-/
import Frontmatter.Esm.Fragment
import Frontmatter.Proofs.Esm.Lexeme

namespace Frontmatter.Esm

/-- A token at which reading ends. -/
def Token.isBad : Token → Bool
  | .bad _ => true
  | _ => false

/-- The token at the cursor and the ones after it are the given ones. -/
def Cursor.Sees (c : Cursor) (ts : List Seen) : Prop := c.cur.Shows c.bound ts

/-- Nothing was noted between two cursors of one source. -/
structure Cursor.Quiet (c d : Cursor) : Prop where
  bound : d.bound = c.bound
  noted : d.noted = c.noted

theorem Cursor.Quiet.refl (c : Cursor) : c.Quiet c := ⟨rfl, rfl⟩

theorem Cursor.Quiet.trans {c d e : Cursor} (h : c.Quiet d) (h' : d.Quiet e) : c.Quiet e :=
  ⟨h'.bound.trans h.bound, h'.noted.trans h.noted⟩

theorem Cursor.Quiet.advance (c : Cursor) : c.Quiet c.advance := ⟨rfl, rfl⟩

namespace Parse

variable {α β : Type} {x : Parse α} {f : α → Parse β} {c d : Cursor}

/-! ### Running steps -/

@[simp]
theorem run_pure (a : α) (c : Cursor) : (pure a : Parse α).run c = .done a c := rfl

theorem run_bind (x : Parse α) (f : α → Parse β) (c : Cursor) :
    (x >>= f).run c = match x.run c with
      | .done a d => (f a).run d
      | .failed p d => .failed p d := rfl

/-- After a step that succeeded, the next one runs where it left the cursor. -/
theorem run_bind_of_done {a : α} (h : x.run c = .done a d) :
    (x >>= f).run c = (f a).run d := by
  rw [run_bind, h]

@[simp]
theorem run_peek (f : Cursor → α) (c : Cursor) : (peek f).run c = .done (f c) c := rfl

theorem run_loopFrom_succ (step : α → Parse (α ⊕ β)) (n : Nat) (a : α) (c : Cursor) :
    (loopFrom step (n + 1) a).run c = match (step a).run c with
      | .done (.inl b) d => (loopFrom step n b).run d
      | .done (.inr b) d => .done b d
      | .failed p d => .failed p d := by
  rw [loopFrom, run_bind]
  cases (step a).run c with
  | failed p d => rfl
  | done r d => cases r <;> rfl

theorem run_loop (step : α → Parse (α ⊕ β)) (a : α) (c : Cursor) :
    (loop a step).run c = (loopFrom step (c.bound + 2) a).run c := rfl

end Parse

/-! ### Elementary steps -/

namespace Cursor.Sees

open Parse (Token.isText)

variable {c : Cursor} {t : Token} {nl : Bool} {ts : List Seen}

theorem token (h : c.Sees ((t, nl) :: ts)) : c.cur.token = t := h.1

theorem advance (h : c.Sees ((t, nl) :: ts)) : c.advance.Sees ts := h.2.2.2

theorem settle (h : c.Sees ((t, nl) :: ts)) : Parse.settle c = c := by
  unfold Parse.settle
  rw [h.2.2.1]

theorem look (h : c.Sees ((t, nl) :: ts)) : Parse.look.run c = .done t c := by
  show Outcome.done c.cur.token (Parse.settle c) = _
  rw [h.token, h.settle]

theorem newlineBefore (h : c.Sees ((t, nl) :: ts)) : Parse.newlineBefore.run c = .done nl c := by
  show Outcome.done c.cur.newline (Parse.settle c) = _
  rw [h.2.1, h.settle]

theorem bump (h : c.Sees ((t, nl) :: ts)) : Parse.bump.run c = .done t c.advance := by
  show Outcome.done c.cur.token (Parse.settle c).advance = _
  rw [h.token, h.settle]

theorem pos (h : c.Sees ((t, nl) :: ts)) (ht : t ≠ .eof) :
    Parse.pos.run c = .done c.cur.start c := by
  show Outcome.done (if c.cur.token = .eof then c.prevStop else c.cur.start) (Parse.settle c) = _
  rw [h.token, h.settle, if_neg ht]

/-- At the end, too, asking for the place moves nothing. -/
theorem pos_done (h : c.Sees ((t, nl) :: ts)) : ∃ n, Parse.pos.run c = .done n c := by
  refine ⟨if c.cur.token = .eof then c.prevStop else c.cur.start, ?_⟩
  show Outcome.done _ (Parse.settle c) = _
  rw [h.settle]

theorem second {s : Seen} (h : c.Sees ((t, nl) :: s :: ts)) : Parse.second.run c = .done s c := by
  obtain ⟨-, -, hp, ht, hn, hp', -⟩ := h
  simp [Parse.second, Parse.settle, hp, ht, hn, hp']

theorem is (h : c.Sees ((t, nl) :: ts)) (text : String) :
    (Parse.is text).run c = .done (Token.isText text t) c := by
  rw [Parse.is, Parse.run_bind_of_done h.look]
  rfl

theorem isOneOf (h : c.Sees ((t, nl) :: ts)) (texts : List String) :
    (Parse.isOneOf texts).run c = .done (texts.any (Token.isText · t)) c := by
  rw [Parse.isOneOf, Parse.run_bind_of_done h.look]
  rfl

theorem secondIs {s : Seen} (h : c.Sees ((t, nl) :: s :: ts)) (text : String) :
    (Parse.secondIs text).run c = .done (Token.isText text s.1) c := by
  rw [Parse.secondIs, Parse.run_bind_of_done h.second]
  rfl

theorem isEnd (h : c.Sees ((t, nl) :: ts)) :
    Parse.isEnd.run c = .done (decide (t = .eof)) c := by
  rw [Parse.isEnd, Parse.run_bind_of_done h.look]
  rfl

theorem eat_true {text : String} (h : c.Sees ((t, nl) :: ts)) (ht : Token.isText text t = true) :
    (Parse.eat text).run c = .done true c.advance := by
  rw [Parse.eat, Parse.run_bind_of_done (h.is text), ht, if_pos rfl,
    Parse.run_bind_of_done h.bump]
  rfl

theorem eat_false {text : String} (h : c.Sees ((t, nl) :: ts))
    (ht : Token.isText text t = false) : (Parse.eat text).run c = .done false c := by
  rw [Parse.eat, Parse.run_bind_of_done (h.is text), ht, if_neg Bool.false_ne_true]
  rfl

theorem expect {text : String} (h : c.Sees ((t, nl) :: ts)) (ht : Token.isText text t = true) :
    (Parse.expect text).run c = .done () c.advance := by
  rw [Parse.expect, Parse.run_bind_of_done (h.eat_true ht)]
  rfl

theorem glance (h : c.Sees ((t, nl) :: ts)) (ht : t.isBad = false) :
    Parse.glance.run c = .done t c := by
  rw [Parse.glance, Parse.run_bind_of_done h.look]
  cases t
  case bad p => cases ht
  all_goals rfl

theorem need (h : c.Sees ((t, nl) :: ts)) (ht : t.isBad = false) (he : t ≠ .eof) :
    Parse.need.run c = .done t c := by
  rw [Parse.need, Parse.run_bind_of_done (h.glance ht)]
  cases t
  case eof => exact absurd rfl he
  all_goals rfl

/-- A bad token ends the reading. -/
theorem glance_bad {p : Problem} (h : c.Sees ((.bad p, nl) :: ts)) :
    Parse.glance.run c = .failed p c.advance := by
  rw [Parse.glance, Parse.run_bind_of_done h.look]
  show (Parse.bump >>= fun _ => Parse.fail p.start p.cause).run c = _
  rw [Parse.run_bind_of_done h.bump]
  rfl

theorem need_bad {p : Problem} (h : c.Sees ((.bad p, nl) :: ts)) :
    Parse.need.run c = .failed p c.advance := by
  rw [Parse.need, Parse.run_bind, h.glance_bad]

/-- A statement ends at a semicolon. -/
theorem eatStatementEnd_semicolon (h : c.Sees ((.punct ";", nl) :: ts)) :
    Parse.eatStatementEnd.run c = .done true c.advance := by
  rw [Parse.eatStatementEnd, Parse.run_bind_of_done (h.eat_true rfl)]
  rfl

/-- Before other tokens it depends on them, and on the line before them. -/
theorem isStatementEnd (h : c.Sees ((t, nl) :: ts)) (ht : t ≠ .eof) :
    Parse.isStatementEnd.run c
      = .done (Token.isText ";" t || Token.isText "\x7d" t || nl) c := by
  rw [Parse.isStatementEnd, Parse.run_bind_of_done h.look]
  cases t
  case eof => exact absurd rfl ht
  all_goals
    show (Parse.newlineBefore >>= fun _ => _).run c = _
    rw [Parse.run_bind_of_done h.newlineBefore]
    rfl

theorem isStatementEnd_eof (h : c.Sees ((.eof, nl) :: ts)) :
    Parse.isStatementEnd.run c = .done true c := by
  rw [Parse.isStatementEnd, Parse.run_bind_of_done h.look]
  rfl

end Cursor.Sees

/-! ### Reading a value -/

/-- The step succeeds with the value, notes nothing, and leaves the cursor at
the given tokens. -/
def Parse.Reads {α : Type} (x : Parse α) (c : Cursor) (a : α) (ts : List Seen) : Prop :=
  ∃ d, x.run c = .done a d ∧ d.Sees ts ∧ c.Quiet d

namespace Parse

variable {α β : Type} {x : Parse α} {f : α → Parse β} {c d : Cursor} {ts us : List Seen}

theorem Reads.pure (a : α) (h : c.Sees ts) : (pure a : Parse α).Reads c a ts :=
  ⟨c, rfl, h, Cursor.Quiet.refl c⟩

theorem Reads.bind {a : α} {b : β} (h : x.Reads c a ts)
    (h' : ∀ d, d.Sees ts → c.Quiet d → (f a).Reads d b us) : (x >>= f).Reads c b us := by
  obtain ⟨d, run, hd, q⟩ := h
  obtain ⟨e, run', he, q'⟩ := h' d hd q
  exact ⟨e, (run_bind_of_done run).trans run', he, q.trans q'⟩

/-- A step that moves nothing may come first. -/
theorem Reads.bind_stay {a : α} {b : β} (h : x.run c = .done a c)
    (h' : (f a).Reads c b us) : (x >>= f).Reads c b us := by
  obtain ⟨e, run', he, q'⟩ := h'
  exact ⟨e, (run_bind_of_done h).trans run', he, q'⟩

/-- A failure that does not happen needs not be handled. -/
theorem Reads.attempt {a : α} (h : x.Reads c a ts) : (attempt x).Reads c (.ok a) ts := by
  obtain ⟨d, run, hd, q⟩ := h
  refine ⟨d, ?_, hd, q⟩
  show (match x.run c with
    | .done a d => Outcome.done (Except.ok a) d
    | .failed p d => .done (.error p) d) = _
  rw [run]

/-! ### Stumbling -/

/-- The step fails, or a problem is noted after it. -/
def Stumbles {α : Type} (x : Parse α) (c : Cursor) : Prop :=
  ∀ a d, x.run c = .done a d → d.noted ≠ none

theorem Stumbles.of_failed {p : Problem} (h : x.run c = .failed p d) : x.Stumbles c := by
  intro a e h'
  rw [h] at h'
  cases h'

/-- What was noted before stays noted. -/
theorem Stumbles.of_noted (h : c.noted ≠ none) (x : Parse α) : x.Stumbles c := by
  intro a d run
  obtain ⟨p, hp⟩ := Option.ne_none_iff_exists'.mp h
  have kept := (x.before c).noted p hp
  rw [run] at kept
  rw [show d.noted = some p from kept]
  exact Option.some_ne_none p

/-- Nothing makes up for a step that stumbled. -/
theorem Stumbles.bind (h : x.Stumbles c) (f : α → Parse β) : (x >>= f).Stumbles c := by
  intro b e run
  rw [run_bind] at run
  cases hx : x.run c with
  | failed p d =>
    rw [hx] at run
    cases run
  | done a d =>
    rw [hx] at run
    exact Stumbles.of_noted (h a d hx) (f a) b e run

theorem Stumbles.bind_of_done {a : α} (h : x.run c = .done a d) (h' : (f a).Stumbles d) :
    (x >>= f).Stumbles c := by
  intro b e run
  rw [run_bind_of_done h] at run
  exact h' b e run

theorem stumbles_note (start : Nat) (cause : Cause) (c : Cursor) :
    (note start cause).Stumbles c := by
  intro a d run
  cases run
  unfold Cursor.note
  cases h : c.noted with
  | none => exact Option.some_ne_none _
  | some p =>
    simp only
    rw [h]
    exact Option.some_ne_none _

/-- A loop stumbles if its first step does. -/
theorem Stumbles.loop {step : α → Parse (α ⊕ β)} {a : α} (h : (step a).Stumbles c) :
    (loop a step).Stumbles c := by
  have h' : (loopFrom step (c.bound + 2) a).Stumbles c := by
    rw [loopFrom]
    exact h.bind _
  exact h'

end Parse
end Frontmatter.Esm
