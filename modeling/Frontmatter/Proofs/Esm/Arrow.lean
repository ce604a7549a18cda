/-
Frontmatter/Proofs/Esm/Arrow.lean

An asynchronous function without parameters that returns an object.

At the tokens of `async () => { return { name: … } }` the reader of assignments
goes through the parentheses, which turn out to be the parameters of an arrow
function, through the block and its only statement, and through the object to
the expression under the name (`reads_arrow`).
-/
import Frontmatter.Proofs.Esm.Literal

namespace Frontmatter.Esm

open Parse

namespace Read

variable {g : Grammar} {ctx : Context} {c : Cursor} {nl nu : Bool} {ts us : List Seen} {e : Expr}
  {name : String}

/-- An object with one property. -/
theorem reads_primary_single (hc : c.Sees ((.punct "\x7b", nl) :: (.word name, nu) ::
      (.punct ":", false) :: ts)) (hname : isPlainStart (.word name) = true)
    (h : (g.assignment ctx.withIn).Reads c.advance.advance.advance e ((.punct "\x7d", nu) :: us)) :
    (primary g ctx).Reads c
      (.object c.cur.start [.pair (.name c.advance.cur.start name) e]) us := by
  have hc' := hc.advance
  refine reads_primary_object hc ?_
  refine Reads.loop_inl (reads_objectStep_last hc' rfl hname [] h) fun d hd _ => ?_
  exact Reads.loop_inr (reads_objectStep_end hd [_])

/-! ### The block -/

/-- A statement that returns a value before the end of its block. -/
theorem reads_statement_return {t : Token} (hfun : ctx.inFunction = true)
    (hc : c.Sees ((.word "return", nl) :: (t, false) :: ts)) (ht : isLiteralStart t = true)
    (h : (g.assignment ctx.withIn).Reads c.advance e ((.punct "\x7d", nu) :: us)) :
    (statement g ctx true).Reads c (.ret e) ((.punct "\x7d", nu) :: us) := by
  have hc' := hc.advance
  have noSlash : checkSlash.run c = .done () c := by
    rw [checkSlash, atSlash, run_bind_of_done (hc.isOneOf ["/", "/="])]
    rfl
  -- the value stands on the line of `return`, so the statement goes on
  have notEnd : isStatementEnd.run c.advance = .done false c.advance := by
    rw [hc'.isStatementEnd (ne_eof_of_isLiteralStart ht),
      isText_of_isLiteralStart ht ";" (by decide), isText_of_isLiteralStart ht "\x7d" (by decide)]
    rfl
  obtain ⟨d, run, hd, q⟩ := h
  have value : (expression g ctx.withIn).run c.advance = .done e d := by
    rw [expression, run_bind_of_done run, run_bind_of_done (hd.is ",")]
    rfl
  have ends : expectStatementEnd.run d = .done () d := by
    have brace : eatStatementEnd.run d = .done true d := by
      rw [eatStatementEnd, run_bind_of_done (hd.eat_false rfl), if_neg Bool.false_ne_true]
      exact hd.isStatementEnd (by decide)
    rw [expectStatementEnd, run_bind_of_done brace]
    rfl
  refine ⟨d, ?_, hd, (Cursor.Quiet.advance c).trans q⟩
  rw [statement, run_bind_of_done (hc.pos (by simp)),
    run_bind_of_done (hc.isOneOf ["import", "export"])]
  show (checkSlash >>= fun _ => _).run c = _
  rw [run_bind_of_done noSlash, run_bind_of_done (hc.need rfl (by simp))]
  show (returnStatement g ctx).run c = _
  rw [returnStatement, run_bind_of_done (hc.pos (by simp)), run_bind_of_done hc.bump,
    run_bind_of_done notEnd, if_neg Bool.false_ne_true, run_bind_of_done value,
    run_bind_of_done ends, hfun]
  rfl

/-- A block with one statement. -/
theorem reads_block_single {s : Stmt} {t : Token}
    (hc : c.Sees ((.punct "\x7b", nl) :: (t, nu) :: ts)) (ht : t.isBad = false) (he : t ≠ .eof)
    (hs : Token.isText "\x7d" t = false) {nv : Bool}
    (h : (g.statement ctx true).Reads c.advance s ((.punct "\x7d", nv) :: us)) :
    (block g ctx).Reads c [s] us := by
  have hc' := hc.advance
  obtain ⟨d, run, hd, q⟩ := h
  have first : (blockStep g ctx []).run c.advance = .done (.inl [s]) d := by
    have notEnd := hc'.isEnd
    rw [decide_eq_false he] at notEnd
    rw [blockStep, run_bind_of_done notEnd, if_neg Bool.false_ne_true,
      run_bind_of_done (hc'.glance ht), run_bind_of_done (hc'.eat_false hs),
      if_neg Bool.false_ne_true, run_bind_of_done run]
    rfl
  have last : (blockStep g ctx [s]).run d = .done (.inr [s]) d.advance := by
    rw [blockStep, run_bind_of_done hd.isEnd]
    show (glance >>= fun _ => _).run d = _
    rw [run_bind_of_done (hd.glance rfl), run_bind_of_done (hd.eat_true rfl)]
    rfl
  refine ⟨d.advance, ?_, hd.advance,
    ((Cursor.Quiet.advance c).trans q).trans (Cursor.Quiet.advance d)⟩
  rw [block, run_bind_of_done (hc.expect rfl), blockBody, run_loop, run_loopFrom_succ, first]
  simp only
  rw [run_loopFrom_succ, last]

/-- The labels of a block are its own. -/
theorem reads_withoutLabels {α : Type} {x : Parse α} {a : α}
    (h : x.Reads { c with labels := [] } a us) : (withoutLabels x).Reads c a us := by
  obtain ⟨d, run, hd, q⟩ := h
  refine ⟨{ d with labels := c.labels }, ?_, hd, ⟨q.bound, q.noted⟩⟩
  simp only [withoutLabels, run]

/-! ### The function -/

/-- Nothing between parentheses. -/
theorem run_parenItems_nil (hc : c.Sees ((.punct "(", nl) :: (.punct ")", nu) :: ts)) :
    (parenItems g ctx).run c = .done ([], none) c.advance.advance := by
  have hc' := hc.advance
  rw [parenItems, run_bind_of_done (hc.expect rfl), run_bind, run_loop, run_loopFrom_succ]
  simp only
  rw [run_bind_of_done hc'.isEnd, run_bind_of_done (hc'.is ")")]
  show (expect ")" >>= fun _ => _).run c.advance = _
  rw [run_bind_of_done (hc'.expect rfl)]
  rfl

/-- The body of the function is a block. -/
theorem reads_arrowBody_block {body : List Stmt} (start : Nat)
    (hc : c.Sees ((.punct "\x7b", nl) :: ts))
    (h : (withoutLabels (block g (Context.inBody ctx true false true))).Reads c body us) :
    (arrowBody g ctx start true []).Reads c (.arrow start true [] body) us := by
  obtain ⟨d, run, hd, q⟩ := h
  refine ⟨d, ?_, hd, q⟩
  rw [arrowBody, run_bind_of_done (hc.is "\x7b")]
  show (withoutLabels (block g (Context.inBody ctx true false true)) >>= fun _ => _).run c = _
  rw [run_bind_of_done run]
  rfl

/-- The word `async` and empty parentheses begin a function where one may start. -/
theorem reads_primary_async {body : List Stmt}
    (hc : c.Sees ((.word "async", nl) :: (.punct "(", false) :: (.punct ")", false) ::
      (.punct "=>", false) :: (.punct "\x7b", nu) :: ts))
    (harrow : c.arrowStart = some c.cur.start)
    (h : (withoutLabels (block g (Context.inBody ctx true false true))).Reads
      c.advance.advance.advance.advance body us) :
    (primary g ctx).Reads c (.arrow c.cur.start true [] body) us := by
  have h₁ := hc.advance
  have h₃ := h₁.advance.advance
  have h₄ := h₃.advance
  obtain ⟨d, run, hd, q⟩ := reads_arrowBody_block c.cur.start h₄ h
  refine ⟨d, ?_, hd, ⟨q.bound, q.noted⟩⟩
  have may : (mayBeArrow c.cur.start).run c = .done true c := by
    rw [mayBeArrow, run_peek, harrow, decide_eq_true rfl]
  rw [primary, run_bind_of_done (hc.need rfl (by decide)), run_bind_of_done (hc.pos (by decide)),
    run_bind_of_done may]
  show (second >>= fun _ => _).run c = _
  rw [run_bind_of_done hc.second]
  show (bump >>= fun _ => parens g ctx true (some c.cur.start)).run c = _
  rw [run_bind_of_done hc.bump, parens]
  show ((pure c.cur.start : Parse Nat) >>= fun _ => _).run c.advance = _
  rw [run_bind_of_done (run_pure _ _), run_bind_of_done (run_parenItems_nil h₁)]
  show (is "=>" >>= fun _ => _).run c.advance.advance.advance = _
  rw [run_bind_of_done (h₃.is "=>")]
  show (newlineBefore >>= fun _ => _).run c.advance.advance.advance = _
  rw [run_bind_of_done h₃.newlineBefore]
  show (expect "=>" >>= fun _ => _).run c.advance.advance.advance = _
  rw [run_bind_of_done (h₃.expect rfl)]
  exact run

/-- The whole function, up to a token with which no expression goes on.  What is
known of the expression in it is known wherever it is read. -/
theorem reads_arrow {n : Nat} {u : Token} {s : Seen} {P : Expr → Prop}
    (hgen : ctx.generator = false)
    (hc : c.Sees ((.word "async", nl) :: (.punct "(", false) :: (.punct ")", false) ::
      (.punct "=>", false) :: (.punct "\x7b", false) :: (.word "return", true) ::
      (.punct "\x7b", false) :: (.word name, false) :: (.punct ":", false) :: ts))
    (hname : isPlainStart (.word name) = true) (hu : isCloser u = true)
    (h : ∀ (d : Cursor) (ctx : Context), d.Sees ts → d.bound = c.bound → ctx.generator = false →
      ∃ e, P e ∧ (assignment (Grammar.levels n) ctx).Reads d e
        ((.punct "\x7d", false) :: (.punct "\x7d", true) :: (u, nu) :: s :: us)) :
    ∃ e p q, P e ∧ (assignment (Grammar.levels (n + 3)) ctx).Reads c
      (.arrow c.cur.start true [] [.ret (.object p [.pair (.name q name) e])])
      ((u, nu) :: s :: us) := by
  have hc₀ := hc.marked (.word "async")
  -- the labels outside are out of sight in the block
  have hc₁ : Cursor.Sees { (c.marked (.word "async")).advance.advance.advance.advance with
      labels := [] } _ := hc₀.advance.advance.advance.advance
  have hc₂ := hc₁.advance
  have hc₃ := hc₂.advance.marked (.punct "\x7b")
  obtain ⟨e, he, value⟩ := h _ (Context.inBody ctx true false true).withIn.withIn
    hc₃.advance.advance.advance rfl rfl
  have object := reads_assignment_of_primary rfl hc₂.advance rfl rfl
    (reads_primary_single (g := Grammar.levels (n + 1)) hc₃ hname value)
  have body := reads_block_single (g := Grammar.levels (n + 3)) hc₁ rfl (by decide) rfl
    (reads_statement_return (g := Grammar.levels (n + 2)) rfl hc₂ rfl object)
  have arrow := reads_primary_async hc₀ rfl (reads_withoutLabels body)
  exact ⟨e, _, _, he, reads_assignment_of_primary hgen hc rfl hu arrow⟩

end Read
end Frontmatter.Esm
