/-
Frontmatter/Proofs/Esm/Operand.lean

From operands up to assignments.

An operand that is followed by the end of its phrase is a whole assignment:
between the two stand the readers of members and calls, of unary and of binary
operators, of conditions and of assignments, and each of them finds nothing of
its own.  `reads_assignment` goes through all of them.  What it needs to know of
the operand is with which token it begins (`isOperandStart`), and of the text
after it that a token follows with which no expression goes on (`isCloser`).
-/
import Frontmatter.Proofs.Esm.Sight

namespace Frontmatter.Esm

open Parse

/-- The tokens after which no expression goes on. -/
def isCloser : Token → Bool
  | .punct p => [",", "]", "\x7d", ";"].contains p
  | .eof => true
  | _ => false

/-- Tokens with which an operand begins, and no operator. -/
def isOperandStart : Token → Bool
  | .str _ _ | .num _ _ => true
  | .word w => ["null", "true", "false", "async"].contains w
  | .punct p => p = "[" || p = "\x7b"
  | _ => false

theorem isCloser_cases {t : Token} (h : isCloser t = true) :
    t = .punct "," ∨ t = .punct "]" ∨ t = .punct "\x7d" ∨ t = .punct ";" ∨ t = .eof := by
  cases t
  case punct p => simpa [isCloser] using h
  case eof => simp
  all_goals cases h

/-- The texts that neither a closer nor the beginning of an operand is. -/
theorem isText_of_isCloser {t : Token} (h : isCloser t = true) (text : String)
    (ht : [",", "]", "\x7d", ";"].contains text = false) : Token.isText text t = false := by
  rcases isCloser_cases h with rfl | rfl | rfl | rfl | rfl
  all_goals
    first
    | rfl
    | refine decide_eq_false ?_
      rintro rfl
      exact absurd ht (by decide)

theorem isBad_of_isCloser {t : Token} (h : isCloser t = true) : t.isBad = false := by
  rcases isCloser_cases h with rfl | rfl | rfl | rfl | rfl
  all_goals rfl

theorem isText_of_isOperandStart {t : Token} (h : isOperandStart t = true) (text : String)
    (ht : ["null", "true", "false", "async", "[", "\x7b"].contains text = false) :
    Token.isText text t = false := by
  cases t
  case word w =>
    refine decide_eq_false ?_
    rintro rfl
    simp only [isOperandStart, List.contains_eq_mem, List.mem_cons, List.not_mem_nil, or_false,
      decide_eq_true_eq] at h
    rcases h with rfl | rfl | rfl | rfl
    all_goals exact absurd ht (by decide)
  case punct p =>
    refine decide_eq_false ?_
    rintro rfl
    simp only [isOperandStart, Bool.or_eq_true, decide_eq_true_eq] at h
    rcases h with rfl | rfl
    all_goals exact absurd ht (by decide)
  all_goals rfl

/-- The cursor after it was remembered whether an arrow function may start at
its token. -/
def Cursor.marked (c : Cursor) (t : Token) : Cursor :=
  let arrow : Bool := match t with
    | .word w => !isKeyword w || w = "yield"
    | .punct "(" => true
    | _ => false
  { c with arrowStart := if arrow then some c.cur.start else none }

theorem Cursor.Sees.marked {c : Cursor} {ts : List Seen} (h : c.Sees ts) (t : Token) :
    (c.marked t).Sees ts := h

namespace Read

variable {g : Grammar} {ctx : Context} {c : Cursor} {t s : Token} {nl nl' : Bool} {ts : List Seen}
  {e : Expr}

/-- No member, call or template follows. -/
theorem run_subscripts (hc : c.Sees ((t, nl) :: (s, nl') :: ts)) (ht : isCloser t = true)
    (noCall : Bool) (e : Expr) : (subscripts g ctx noCall e).run c = .done e c := by
  have question : eatQuestion.run c = .done false c := by
    rw [eatQuestion, run_bind_of_done (hc.is "?"), run_bind_of_done (hc.secondIs "."),
      isText_of_isCloser ht _ (by decide)]
    rfl
  have bracket := hc.eat_false (isText_of_isCloser ht "[" (by decide))
  have paren := hc.is "("
  rw [isText_of_isCloser ht _ (by decide)] at paren
  have point := hc.eat_false (isText_of_isCloser ht "." (by decide))
  have tick := hc.is "`"
  rw [isText_of_isCloser ht _ (by decide)] at tick
  rw [subscripts, run_loop, run_loopFrom_succ]
  cases noCall
  all_goals
    simp [run_bind, hc.glance (isBad_of_isCloser ht), question, bracket, paren, point, tick]

theorem ne_eof_of_isOperandStart (h : isOperandStart t = true) : t ≠ .eof := by
  rintro rfl
  cases h

theorem isBad_of_isOperandStart (h : isOperandStart t = true) : t.isBad = false := by
  cases t
  case bad p => cases h
  all_goals rfl

/-- An operand with nothing after it is a member expression. -/
theorem reads_memberOrNew (hc : c.Sees ((t, nl) :: ts)) (ht : isOperandStart t = true)
    {u : Token} {nu : Bool} {us : List Seen} (hu : isCloser u = true)
    (hp : (primary g ctx).Reads c e ((u, nu) :: (s, nl') :: us)) :
    (memberOrNew g ctx).Reads c e ((u, nu) :: (s, nl') :: us) := by
  have noNew := hc.eat_false (isText_of_isOperandStart ht "new" (by decide))
  have noSuper := hc.eat_false (isText_of_isOperandStart ht "super" (by decide))
  have noImport := hc.eat_false (isText_of_isOperandStart ht "import" (by decide))
  obtain ⟨d, run, hd, q⟩ := hp
  refine ⟨d, ?_, hd, q⟩
  rw [memberOrNew, run_bind_of_done (hc.pos (ne_eof_of_isOperandStart ht)),
    run_bind_of_done noNew, if_neg Bool.false_ne_true, run_bind_of_done noSuper,
    if_neg Bool.false_ne_true, run_bind_of_done noImport, if_neg Bool.false_ne_true,
    run_bind_of_done run]
  split
  · rfl
  · exact run_subscripts hd hu true e

/-- No call follows a member expression, either. -/
theorem reads_leftHandSide (hc : c.Sees ((t, nl) :: ts)) (ht : isOperandStart t = true)
    {u : Token} {nu : Bool} {us : List Seen} (hu : isCloser u = true)
    (hp : (primary g ctx).Reads c e ((u, nu) :: (s, nl') :: us)) :
    (leftHandSide g ctx).Reads c e ((u, nu) :: (s, nl') :: us) := by
  have noSuper := hc.eat_false (isText_of_isOperandStart ht "super" (by decide))
  have noImport := hc.eat_false (isText_of_isOperandStart ht "import" (by decide))
  obtain ⟨d, run, hd, q⟩ := reads_memberOrNew hc ht hu hp
  refine ⟨d, ?_, hd, q⟩
  have paren := hd.is "("
  rw [isText_of_isCloser hu _ (by decide)] at paren
  rw [leftHandSide, run_bind_of_done (hc.pos (ne_eof_of_isOperandStart ht)),
    run_bind_of_done noSuper, if_neg Bool.false_ne_true, run_bind_of_done noImport,
    if_neg Bool.false_ne_true, run_bind_of_done run]
  split
  · rfl
  · split
    · rfl
    · rw [run_bind_of_done paren]
      rfl

theorem updateOp?_of_isCloser (h : isCloser t = true) : updateOp? t = none := by
  rcases isCloser_cases h with rfl | rfl | rfl | rfl | rfl
  all_goals rfl

theorem noOperator_of_isOperandStart (h : isOperandStart t = true) :
    updateOp? t = none ∧ unaryOp? t = none := by
  cases t
  case word w =>
    simp only [isOperandStart, List.contains_eq_mem, List.mem_cons, List.not_mem_nil, or_false,
      decide_eq_true_eq] at h
    rcases h with rfl | rfl | rfl | rfl
    all_goals exact ⟨rfl, rfl⟩
  case punct p =>
    simp only [isOperandStart, Bool.or_eq_true, decide_eq_true_eq] at h
    rcases h with rfl | rfl
    all_goals exact ⟨rfl, rfl⟩
  all_goals exact ⟨rfl, rfl⟩

/-- No operator stands before the operand, and no update after it. -/
theorem reads_unary (hc : c.Sees ((t, nl) :: ts)) (ht : isOperandStart t = true)
    {u : Token} {nu : Bool} {us : List Seen} (hu : isCloser u = true)
    (hp : (primary g ctx).Reads c e ((u, nu) :: (s, nl') :: us)) :
    (unary g ctx).Reads c e ((u, nu) :: (s, nl') :: us) := by
  obtain ⟨noUpdate, noUnary⟩ := noOperator_of_isOperandStart ht
  have noAwait := hc.is "await"
  rw [isText_of_isOperandStart ht _ (by decide)] at noAwait
  obtain ⟨d, run, hd, q⟩ := reads_leftHandSide hc ht hu hp
  refine ⟨d, ?_, hd, q⟩
  rw [unary, run_bind_of_done (hc.pos (ne_eof_of_isOperandStart ht)), run_bind_of_done hc.look,
    noUpdate]
  simp only [noUnary]
  rw [run_bind_of_done noAwait, if_neg Bool.false_ne_true, run_bind_of_done run]
  split
  · rfl
  · rw [run_bind_of_done hd.newlineBefore]
    split
    · rfl
    · rw [run_bind_of_done hd.look, updateOp?_of_isCloser hu]
      rfl

theorem binaryOp?_of_isCloser (h : isCloser t = true) : binaryOp? ctx t = none := by
  rcases isCloser_cases h with rfl | rfl | rfl | rfl | rfl
  all_goals rfl

/-- No binary operator follows. -/
theorem reads_binary {us : List Seen} {u : Token} {nu : Bool} (hu : isCloser u = true)
    (h : (unary g ctx).Reads c e ((u, nu) :: us)) :
    (binary g ctx).Reads c e ((u, nu) :: us) := by
  obtain ⟨d, run, hd, q⟩ := h.attempt
  refine ⟨d, ?_, hd, q⟩
  rw [binary, run_bind_of_done run]
  simp only
  rw [run_bind_of_done (run_pure e d), isArrowHere, run_bind_of_done (run_peek _ d)]
  split
  · rfl
  · rw [depth, run_bind_of_done (run_peek _ d)]
    unfold binaryRest
    rw [run_bind_of_done (hd.glance (isBad_of_isCloser hu)), binaryOp?_of_isCloser hu]
    rfl

/-- No condition follows. -/
theorem reads_conditional {us : List Seen} {u : Token} {nu : Bool} (hu : isCloser u = true)
    (h : (unary g ctx).Reads c e ((u, nu) :: us)) :
    (conditional g ctx).Reads c e ((u, nu) :: us) := by
  obtain ⟨d, run, hd, q⟩ := reads_binary hu h
  refine ⟨d, ?_, hd, q⟩
  have noQuestion := hd.eat_false (isText_of_isCloser hu "?" (by decide))
  rw [conditional, run_bind_of_done run, isArrowHere, run_bind_of_done (run_peek _ d)]
  split
  · rfl
  · rw [run_bind_of_done noQuestion, if_neg Bool.false_ne_true]
    rfl

/-- An operand that ends its phrase is a whole assignment. -/
theorem reads_assignment (hgen : ctx.generator = false) (hc : c.Sees ((t, nl) :: ts))
    (ht : t.isBad = false) (he : t ≠ .eof) (hs : Token.isText "/" t = false)
    (hs' : Token.isText "/=" t = false) {us : List Seen} {u : Token} {nu : Bool}
    (hu : isCloser u = true)
    (h : (unary g ctx).Reads (c.marked t) e ((u, nu) :: us)) :
    (assignment g ctx).Reads c e ((u, nu) :: us) := by
  have noSlash : checkSlash.run c = .done () c := by
    rw [checkSlash, atSlash, run_bind_of_done (hc.isOneOf ["/", "/="])]
    simp [hs, hs']
  obtain ⟨d, run, hd, q⟩ := reads_conditional hu h
  refine ⟨d, ?_, hd, ⟨q.bound, q.noted⟩⟩
  have after : (assignmentAfter g ctx e).run d = .done e d := by
    rw [assignmentAfter, run_bind_of_done (hd.glance (isBad_of_isCloser hu))]
    rcases isCloser_cases hu with rfl | rfl | rfl | rfl | rfl
    all_goals rfl
  rw [assignment, run_bind_of_done noSlash, run_bind_of_done (hc.need ht he), hgen,
    Bool.false_and, if_neg Bool.false_ne_true, run_bind_of_done (hc.pos he)]
  simp only
  -- before the operand it is noted where an arrow function may start
  rw [run_bind_of_done (a := ()) (d := c.marked t) rfl,
    run_bind_of_done run, isArrowHere, run_bind_of_done (run_peek _ d)]
  split
  · rfl
  · split
    all_goals first
      | rfl
      | exact after

/-- An operand without an operator is a whole assignment. -/
theorem reads_assignment_of_primary (hgen : ctx.generator = false) (hc : c.Sees ((t, nl) :: ts))
    (ht : isOperandStart t = true) {u : Token} {nu : Bool} {us : List Seen}
    (hu : isCloser u = true)
    (h : (primary g ctx).Reads (c.marked t) e ((u, nu) :: (s, nl') :: us)) :
    (assignment g ctx).Reads c e ((u, nu) :: (s, nl') :: us) := by
  exact reads_assignment hgen hc (isBad_of_isOperandStart ht) (ne_eof_of_isOperandStart ht)
    (isText_of_isOperandStart ht _ (by decide)) (isText_of_isOperandStart ht _ (by decide)) hu
    (reads_unary (hc.marked t) ht hu h)

end Read
end Frontmatter.Esm
