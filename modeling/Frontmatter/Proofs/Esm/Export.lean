/-
Frontmatter/Proofs/Esm/Export.lean

Sources that consist of one exported constant.

At the tokens of `export const name = …` the reader of items goes through the
export, the declaration, its only binding, and the value.  If the value is read
and the source ends after it, the source is one item that binds one plain name
(`reads_items_export`).  If the binding stumbles, the whole source does
(`stumbles_items_export`), and it does so unless the word is bindable
(`stumbles_binding`).
-/
import Frontmatter.Proofs.Esm.Operand

namespace Frontmatter.Esm

open Parse

/-- A word that a constant of a module may be named by. -/
def isBindable (name : String) : Bool :=
  !isKeyword name && !Read.strictWords.contains name && name ≠ "eval" && name ≠ "arguments"

namespace Read

variable {g : Grammar} {ctx : Context} {c : Cursor} {nl nl' : Bool} {ts us : List Seen} {e : Expr}
  {name : String}

/-! ### Names -/

theorem isKeyword_ne (h : isKeyword name = false) {word : String} (hw : isKeyword word = true) :
    name ≠ word := by
  rintro rfl
  rw [h] at hw
  cases hw

/-- A name that is neither a keyword nor a word of strict code is accepted. -/
theorem run_identifier (hc : c.Sees ((.word name, nl) :: ts)) (hk : isKeyword name = false)
    (hs : strictWords.contains name = false) (hf : name ≠ "arguments" ∨ ctx.classField = false) :
    (identifier ctx).run c = .done (c.cur.start, name) c.advance := by
  have h₁ : name ≠ "await" := isKeyword_ne hk (by decide)
  have h₂ : name ≠ "let" := isKeyword_ne hk (by decide)
  have h₃ : name ≠ "yield" := isKeyword_ne hk (by decide)
  have h₄ : (decide (name = "arguments") && ctx.classField) = false := by
    rcases hf with h | h
    · rw [decide_eq_false h, Bool.false_and]
    · rw [h, Bool.and_false]
  rw [identifier, run_bind_of_done (hc.need rfl (by simp)), run_bind_of_done (hc.pos (by simp)),
    run_bind_of_done hc.bump, hs, if_neg Bool.false_ne_true, if_neg h₁]
  simp only [h₂, h₃, hk, h₄]
  rfl

/-- Any other name is refused, or a problem is noted. -/
theorem stumbles_identifier (hc : c.Sees ((.word name, nl) :: ts))
    (h : isKeyword name = true ∨ strictWords.contains name = true) :
    (identifier ctx).Stumbles c := by
  rw [identifier]
  refine Stumbles.bind_of_done (hc.need rfl (by simp)) ?_
  refine Stumbles.bind_of_done (hc.pos (by simp)) ?_
  refine Stumbles.bind_of_done hc.bump ?_
  by_cases hs : strictWords.contains name = true
  · rw [hs, if_pos rfl]
    exact (stumbles_note _ _ _).bind _
  · have hk : isKeyword name = true := h.resolve_right hs
    -- these two have branches of their own, but they are words of strict code
    have h₂ : name ≠ "let" := by
      rintro rfl
      exact hs (by decide)
    have h₃ : name ≠ "yield" := by
      rintro rfl
      exact hs (by decide)
    rw [if_neg hs]
    by_cases h₁ : name = "await"
    · rw [if_pos h₁]
      split
      all_goals exact Stumbles.of_failed rfl
    · rw [if_neg h₁]
      simp only [h₂, h₃, hk]
      exact Stumbles.of_failed rfl

/-- A bindable name is bound as it stands. -/
theorem run_binding (hc : c.Sees ((.word name, nl) :: ts)) (h : isBindable name = true) :
    (binding g ctx).run c = .done (.ident c.cur.start name) c.advance := by
  simp only [isBindable, Bool.and_eq_true, Bool.not_eq_true', decide_eq_true_eq] at h
  obtain ⟨⟨⟨hk, hs⟩, h₁⟩, h₂⟩ := h
  have hy : name ≠ "yield" := isKeyword_ne hk (by decide)
  rw [binding, run_bind_of_done (hc.need rfl (by simp))]
  show (bindingIdentifier ctx >>= fun r => _).run c = _
  rw [run_bind, bindingIdentifier, run_bind_of_done (run_identifier hc hk hs (.inl h₂))]
  simp [h₁, h₂, hy]

/-- No other word is. -/
theorem stumbles_binding (hfield : ctx.classField = false) (hc : c.Sees ((.word name, nl) :: ts))
    (h : isBindable name = false) : (binding g ctx).Stumbles c := by
  rw [binding]
  refine Stumbles.bind_of_done (hc.need rfl (by simp)) ?_
  refine Stumbles.bind ?_ _
  rw [bindingIdentifier]
  by_cases hr : isKeyword name = true ∨ strictWords.contains name = true
  · exact (stumbles_identifier hc hr).bind _
  · rw [not_or, Bool.not_eq_true, Bool.not_eq_true] at hr
    obtain ⟨hk, hs⟩ := hr
    have hname : (decide (name = "eval") || decide (name = "arguments")) = true := by
      rw [isBindable, hk, hs] at h
      simpa [Decidable.imp_iff_not_or] using h
    have hy : (ctx.generator && decide (name = "yield")) = false := by
      rw [decide_eq_false (isKeyword_ne hk (by decide)), Bool.and_false]
    refine Stumbles.bind_of_done (run_identifier hc hk hs (.inr hfield)) ?_
    simp only [hy, hname]
    exact (stumbles_note _ _ _).bind _

/-- Nor is what is no token. -/
theorem stumbles_binding_bad {p : Problem} (hc : c.Sees ((.bad p, nl) :: ts)) :
    (binding g ctx).Stumbles c := by
  rw [binding]
  exact (Stumbles.of_failed hc.need_bad).bind _

/-! ### Declarations -/

/-- A binding with a value. -/
theorem reads_declarator (kind : VarKind)
    (hc : c.Sees ((.word name, nl) :: (.punct "=", nl') :: ts)) (hname : isBindable name = true)
    (h : (g.assignment ctx).Reads c.advance.advance e us) :
    (declarator g ctx false kind).Reads c (.mk (.ident c.cur.start name) e) us := by
  obtain ⟨d, run, hd, q⟩ := h
  refine ⟨d, ?_, hd, ⟨q.bound, q.noted⟩⟩
  rw [declarator, run_bind_of_done (hc.pos (by simp)), run_bind_of_done (run_binding hc hname),
    run_bind_of_done (hc.advance.isOneOf ["in", "of"]), Bool.false_and,
    if_neg Bool.false_ne_true, run_bind_of_done (hc.advance.eat_true rfl), if_pos rfl,
    run_bind_of_done run]
  rfl

/-- Only what can be bound can be declared. -/
theorem stumbles_declarator_binding {kind : VarKind} {t : Token} (ht : t ≠ .eof)
    (hc : c.Sees ((t, nl) :: ts)) (h : (binding g ctx).Stumbles c) :
    (declarator g ctx false kind).Stumbles c := by
  rw [declarator]
  exact Stumbles.bind_of_done (hc.pos ht) (h.bind _)

/-- After the name of a constant its value has to come, whether the word can be
bound or not. -/
theorem stumbles_declarator_word {p : Problem} (hfield : ctx.classField = false)
    (hc : c.Sees ((.word name, nl) :: (.bad p, nl') :: ts)) :
    (declarator g ctx false .constant).Stumbles c := by
  by_cases hname : isBindable name = true
  · rw [declarator]
    refine Stumbles.bind_of_done (hc.pos (by simp)) ?_
    refine Stumbles.bind_of_done (run_binding hc hname) ?_
    refine Stumbles.bind_of_done (hc.advance.isOneOf ["in", "of"]) ?_
    rw [Bool.false_and, if_neg Bool.false_ne_true]
    refine Stumbles.bind_of_done (hc.advance.eat_false rfl) ?_
    rw [if_neg Bool.false_ne_true]
    exact (stumbles_note _ _ _).bind _
  · rw [Bool.not_eq_true] at hname
    exact stumbles_declarator_binding (by simp) hc (stumbles_binding hfield hc hname)

/-- A declaration has a first binding, unless it ends at once. -/
theorem run_declaratorStep_first {kind : VarKind} {wordStart : Nat} {t : Token}
    (hc : c.Sees ((t, nl) :: ts)) (ht : Token.isText ";" t = false) (he : t ≠ .eof) :
    (declaratorStep g ctx false kind wordStart []).run c
      = (do return .inl [← declarator g ctx false kind] :
          Parse (List Declarator ⊕ List Declarator)).run c := by
  have notEnd := hc.isEnd
  rw [decide_eq_false he] at notEnd
  have notClosed := hc.is ";"
  rw [ht] at notClosed
  rw [declaratorStep]
  show ((pure true : Parse Bool) >>= fun _ => _).run c = _
  rw [run_bind_of_done (run_pure true c)]
  show (is ";" >>= fun _ => _).run c = _
  rw [run_bind_of_done notClosed, run_bind_of_done notEnd]
  rfl

/-- Without a comma there is no further binding. -/
theorem run_declaratorStep_end {kind : VarKind} {wordStart : Nat} {u : Token}
    (hc : c.Sees ((u, nl) :: ts)) (hu : Token.isText "," u = false) (d : Declarator)
    (acc : List Declarator) :
    (declaratorStep g ctx false kind wordStart (d :: acc)).run c
      = .done (.inr (d :: acc).reverse) c := by
  rw [declaratorStep]
  show (eat "," >>= fun _ => _).run c = _
  rw [run_bind_of_done (hc.eat_false hu)]
  rfl

/-- The only binding of a declaration. -/
theorem reads_declarators {kind : VarKind} (wordStart : Nat) {d : Declarator} {t u : Token}
    {nu : Bool} (hc : c.Sees ((t, nl) :: ts)) (ht : Token.isText ";" t = false) (he : t ≠ .eof)
    (hu : Token.isText "," u = false)
    (h : (declarator g ctx false kind).Reads c d ((u, nu) :: us)) :
    (declarators g ctx false kind wordStart).Reads c [d] ((u, nu) :: us) := by
  obtain ⟨c₁, run, hc₁, q⟩ := h
  refine ⟨c₁, ?_, hc₁, q⟩
  rw [declarators, run_loop, run_loopFrom_succ, run_declaratorStep_first hc ht he,
    run_bind_of_done run, run_pure]
  simp only
  rw [run_loopFrom_succ, run_declaratorStep_end hc₁ hu]
  rfl

theorem stumbles_declarators {kind : VarKind} {wordStart : Nat} {t : Token}
    (hc : c.Sees ((t, nl) :: ts)) (ht : Token.isText ";" t = false) (he : t ≠ .eof)
    (h : (declarator g ctx false kind).Stumbles c) :
    (declarators g ctx false kind wordStart).Stumbles c := by
  refine Stumbles.loop ?_
  intro r d run
  rw [run_declaratorStep_first hc ht he] at run
  exact h.bind _ r d run

/-- The end of the source ends a statement, too. -/
theorem reads_eatStatementEnd_eof (hc : c.Sees ((.eof, nl) :: ts)) :
    eatStatementEnd.Reads c true ((.eof, nl) :: ts) := by
  refine ⟨c, ?_, hc, Cursor.Quiet.refl c⟩
  rw [eatStatementEnd, run_bind_of_done (hc.eat_false rfl), if_neg Bool.false_ne_true]
  exact hc.isStatementEnd_eof

theorem reads_eatStatementEnd_semicolon (hc : c.Sees ((.punct ";", nl) :: ts)) :
    eatStatementEnd.Reads c true ts :=
  ⟨c.advance, hc.eatStatementEnd_semicolon, hc.advance, Cursor.Quiet.advance c⟩

/-- A declaration of constants up to the end of the statement. -/
theorem reads_varDeclaration {ds : List Declarator} {vs : List Seen}
    (hc : c.Sees ((.word "const", nl) :: ts))
    (h : (declarators g ctx.withIn false .constant c.cur.start).Reads c.advance ds us)
    (hend : ∀ d, d.Sees us → eatStatementEnd.Reads d true vs) :
    (varDeclaration g ctx false).Reads c (.varDecl .constant ds) vs := by
  obtain ⟨d, run, hd, q⟩ := h
  obtain ⟨d', run', hd', q'⟩ := hend d hd
  refine ⟨d', ?_, hd', ((Cursor.Quiet.advance c).trans q).trans q'⟩
  rw [varDeclaration, run_bind_of_done (hc.pos (by simp)), run_bind_of_done hc.bump]
  show (declarators g ctx.withIn false .constant c.cur.start >>= fun _ => _).run c.advance = _
  rw [run_bind_of_done run]
  show (eatStatementEnd >>= fun _ => _).run d = _
  rw [run_bind_of_done run']
  rfl

theorem stumbles_varDeclaration (hc : c.Sees ((.word "const", nl) :: ts))
    (h : (declarators g ctx.withIn false .constant c.cur.start).Stumbles c.advance) :
    (varDeclaration g ctx false).Stumbles c := by
  rw [varDeclaration]
  refine Stumbles.bind_of_done (hc.pos (by simp)) ?_
  refine Stumbles.bind_of_done hc.bump ?_
  exact h.bind _

/-! ### Items -/

/-- After `export` a constant is declared. -/
theorem run_exportItem (hc : c.Sees ((.word "export", nl) :: (.word "const", nl') :: ts)) :
    (exportItem g ctx).run c
      = (do return .exportDecl (← varDeclaration g ctx false) : Parse ItemForm).run c.advance := by
  have hc' := hc.advance
  have noAsync : asyncFunctionAhead.run c.advance = .done false c.advance := by
    rw [asyncFunctionAhead, run_bind_of_done (hc'.is "async")]
    rfl
  rw [exportItem, run_bind_of_done hc.bump, run_bind_of_done (hc'.glance rfl),
    run_bind_of_done (hc'.eat_false rfl), if_neg Bool.false_ne_true,
    run_bind_of_done (hc'.is "class")]
  show (is "function" >>= fun _ => _).run c.advance = _
  rw [run_bind_of_done (hc'.is "function"), run_bind_of_done noAsync]
  show (isOneOf ["var", "const"] >>= fun _ => _).run c.advance = _
  rw [run_bind_of_done (hc'.isOneOf ["var", "const"]), run_bind_of_done (hc'.is "let")]
  rfl

/-- An item that begins with `export` is an export. -/
theorem run_item (hc : c.Sees ((.word "export", nl) :: ts)) :
    (item g ctx).run c = (do
      let form ← exportItem g ctx
      return ⟨c.cur.start, ← prevStop, form⟩ : Parse Item).run c := by
  rw [item, run_bind_of_done (hc.pos (by simp)), run_bind_of_done (hc.is "import")]
  show (is "export" >>= fun _ => _).run c = _
  rw [run_bind_of_done (hc.is "export")]
  rfl

theorem run_itemsStep_export (hc : c.Sees ((.word "export", nl) :: ts)) (acc : List Item) :
    (itemsStep g ctx acc).run c
      = (do return .inl ((← item g ctx) :: acc) : Parse (List Item ⊕ List Item)).run c := by
  rw [itemsStep, run_bind_of_done (hc.glance rfl)]
  rfl

theorem run_itemsStep_eof (hc : c.Sees ((.eof, nl) :: ts)) (acc : List Item) :
    (itemsStep g ctx acc).run c = .done (.inr acc.reverse) c := by
  rw [itemsStep, run_bind_of_done (hc.glance rfl)]
  rfl

/-- A module that consists of one exported declaration. -/
theorem reads_items_export {s : Stmt}
    (hc : c.Sees ((.word "export", nl) :: (.word "const", nl') :: ts)) {nu : Bool}
    (h : (varDeclaration g ctx false).Reads c.advance s ((.eof, nu) :: us)) :
    ∃ start stop, (items g ctx).Reads c [⟨start, stop, .exportDecl s⟩] ((.eof, nu) :: us) := by
  obtain ⟨d, run, hd, q⟩ := h
  refine ⟨c.cur.start, d.prevStop, d, ?_, hd, (Cursor.Quiet.advance c).trans q⟩
  have oneItem : (item g ctx).run c = .done ⟨c.cur.start, d.prevStop, .exportDecl s⟩ d := by
    rw [run_item hc]
    have form : (exportItem g ctx).run c = .done (.exportDecl s) d := by
      rw [run_exportItem hc, run_bind_of_done run]
      rfl
    rw [run_bind_of_done form]
    rfl
  rw [items, run_loop, run_loopFrom_succ, run_itemsStep_export hc, run_bind_of_done oneItem,
    run_pure]
  simp only
  rw [run_loopFrom_succ, run_itemsStep_eof hd]
  rfl

theorem stumbles_items_export
    (hc : c.Sees ((.word "export", nl) :: (.word "const", nl') :: ts))
    (h : (varDeclaration g ctx false).Stumbles c.advance) : (items g ctx).Stumbles c := by
  have form : (exportItem g ctx).Stumbles c := by
    intro form d run
    rw [run_exportItem hc] at run
    exact h.bind _ form d run
  have stumbles : (item g ctx).Stumbles c := by
    intro i d run
    rw [run_item hc] at run
    exact form.bind _ i d run
  refine Stumbles.loop fun r d run => ?_
  rw [run_itemsStep_export hc] at run
  exact stumbles.bind _ r d run

/-- A module that consists of one exported constant. -/
theorem reads_items_constant {u : Token} {nt nu nv : Bool} {vs : List Seen}
    (hc : c.Sees ((.word "export", nl) :: (.word "const", nl') :: (.word name, nt) ::
      (.punct "=", false) :: ts))
    (hname : isBindable name = true) (hword : Token.isText ";" (.word name) = false)
    (h : (g.assignment ctx.withIn).Reads c.advance.advance.advance.advance e ((u, nu) :: us))
    (hu : Token.isText "," u = false)
    (hend : ∀ d : Cursor, d.Sees ((u, nu) :: us) →
      eatStatementEnd.Reads d true ((.eof, nv) :: vs)) :
    ∃ start stop p, (items g ctx).Reads c
      [⟨start, stop, .exportDecl (.varDecl .constant [.mk (.ident p name) e])⟩]
      ((.eof, nv) :: vs) := by
  have hc₂ := hc.advance.advance
  have binding := reads_declarator .constant hc₂ hname h
  have bindings := reads_declarators c.advance.cur.start hc₂ hword (by simp) hu binding
  have declaration := reads_varDeclaration hc.advance bindings hend
  obtain ⟨start, stop, items⟩ := reads_items_export hc declaration
  exact ⟨start, stop, _, items⟩

/-- A module whose first declaration stumbles at its first binding. -/
theorem stumbles_items_declarator {nt : Bool} {t : Token}
    (hc : c.Sees ((.word "export", nl) :: (.word "const", nl') :: (t, nt) :: ts))
    (ht : Token.isText ";" t = false) (he : t ≠ .eof)
    (h : (declarator g ctx.withIn false .constant).Stumbles c.advance.advance) :
    (items g ctx).Stumbles c := by
  have hc' := hc.advance
  apply stumbles_items_export hc
  apply stumbles_varDeclaration hc'
  exact stumbles_declarators hc'.advance ht he h

end Read

/-! ### Sources -/

/-- At the start of a source nothing has been noted. -/
theorem Cursor.sees_ofSource {cs : List Char} {ts : List Seen}
    (h : (Lexer.next (cs.length + 1) cs 0 true).Shows (cs.length + 1) ts)
    (hcs : ∀ rest, cs ≠ '#' :: '!' :: rest) :
    (Cursor.ofSource cs).Sees ts ∧ (Cursor.ofSource cs).bound = cs.length + 1 ∧
      (Cursor.ofSource cs).noted = none := by
  have plain : afterShebang cs = (cs, 0) := by
    unfold afterShebang
    split
    · next rest => exact absurd rfl (hcs rest)
    · rfl
  have here : Cursor.ofSource cs
      = ⟨cs.length + 1, Lexer.next (cs.length + 1) cs 0 true, 0, 0, none, [], none⟩ := by
    rw [Cursor.ofSource, plain]
  rw [here]
  exact ⟨h, rfl, rfl⟩

/-- A source is accepted if its items are read up to its end. -/
theorem Fragment.parseChars_of_reads {cs : List Char} {body : List Item} {nl : Bool}
    {us : List Seen} (hc : (Cursor.ofSource cs).noted = none)
    (h : (Read.items (Grammar.levels (cs.length + 2)) {}).Reads (Cursor.ofSource cs) body
      ((.eof, nl) :: us)) :
    Fragment.parseChars cs = .ok body := by
  obtain ⟨d, run, hd, q⟩ := h
  rw [Fragment.parseChars, run]
  simp only
  rw [hd.settle, q.noted, hc]

/-- A source at which reading stumbles is refused. -/
theorem Fragment.parseChars_of_stumbles {cs : List Char}
    (h : (Read.items (Grammar.levels (cs.length + 2)) {}).Stumbles (Cursor.ofSource cs)) :
    ∃ p, Fragment.parseChars cs = .error p := by
  rw [Fragment.parseChars]
  cases run : (Read.items (Grammar.levels (cs.length + 2)) {}).run (Cursor.ofSource cs) with
  | failed p d => exact ⟨p, rfl⟩
  | done body d =>
    obtain ⟨p, hp⟩ := Option.ne_none_iff_exists'.mp (h body d run)
    have kept := (before_settle d).noted p hp
    refine ⟨p, ?_⟩
    simp only [kept]

end Frontmatter.Esm
