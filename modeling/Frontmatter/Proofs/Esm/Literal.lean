/-
Frontmatter/Proofs/Esm/Literal.lean

Literals of values, read as expressions of a module.

At the tokens of a literal the reader of assignments succeeds with an
expression that has the constant of the value (`reads_literal`).  The proof
follows the value: its lists are read by the loop of array elements
(`reads_elements`) and its records by the loop of properties
(`reads_properties`), where each item is a literal again, one level of nesting
further down.  The number of tokens bounds the nesting and the repetitions.
-/
import Frontmatter.Proofs.Esm.Constant
import Frontmatter.Proofs.Esm.Operand

namespace Frontmatter

open Esm (Seen Token isOperandStart)

/-! ### The tokens of literals -/

/-- Tokens with which a literal begins. -/
def Esm.isLiteralStart (t : Token) : Bool := isOperandStart t || t = .punct "-"

theorem Data.tokens_eq (d : Data) :
    ∃ t more, d.tokens = (t, false) :: more ∧ Esm.isLiteralStart t = true := by
  cases d
  case bool b => cases b <;> exact ⟨_, _, rfl, rfl⟩
  case num n =>
    rw [Data.tokens, Number.tokens]
    cases n.isNegative with
    | true => exact ⟨_, _, rfl, rfl⟩
    | false => exact ⟨_, _, rfl, rfl⟩
  all_goals exact ⟨_, _, rfl, rfl⟩

theorem Number.length_tokens_le (n : Number) : n.tokens.length ≤ n.literal.length := by
  obtain ⟨d, ds, e, -, -⟩ := n.wellFormed_numeral.whole_eq
  rw [Number.tokens, n.literal_eq, Numeral.chars, e]
  cases n.isNegative <;> simp

theorem length_quote_pos (s : String) : 1 < (quote s).length := by simp [quote]

mutual

/-- A token of a literal takes at least one character. -/
theorem Data.length_tokens_le : ∀ d : Data, d.tokens.length ≤ d.literalChars.length
  | .null => by decide
  | .bool true => by decide
  | .bool false => by decide
  | .num n => n.length_tokens_le
  | .str s => Nat.le_of_lt (length_quote_pos s)
  | .list items => by
    have := Data.length_itemsTokens_le items
    simp only [Data.tokens, Data.literalChars, List.length_cons, List.length_append]
    omega
  | .record fields => by
    have := Data.length_fieldsTokens_le fields
    simp only [Data.tokens, Data.literalChars, List.length_cons, List.length_append]
    omega

theorem Data.length_itemsTokens_le :
    ∀ items : List Data, (Data.itemsTokens items).length ≤ (Data.itemsChars items).length
  | [] => Nat.le_refl 0
  | [d] => Data.length_tokens_le d
  | d :: d' :: more => by
    have first := Data.length_tokens_le d
    have others := Data.length_itemsTokens_le (d' :: more)
    simp only [Data.itemsTokens, Data.itemsChars, List.length_cons, List.length_append] at *
    omega

theorem Data.length_fieldsTokens_le : ∀ fields : List (String × Data),
    (Data.fieldsTokens fields).length ≤ (Data.fieldsChars fields).length
  | [] => Nat.le_refl 0
  | [(k, d)] => by
    have key := length_quote_pos k
    have value := Data.length_tokens_le d
    simp only [Data.fieldsTokens, Data.fieldsChars, List.length_cons, List.length_append]
    omega
  | (k, d) :: f :: more => by
    have key := length_quote_pos k
    have value := Data.length_tokens_le d
    have others := Data.length_fieldsTokens_le (f :: more)
    simp only [Data.fieldsTokens, Data.fieldsChars, List.length_cons, List.length_append] at *
    omega

end

theorem Data.length_le_itemsTokens : ∀ items : List Data,
    items.length ≤ (Data.itemsTokens items).length
  | [] => Nat.le_refl 0
  | [d] => by
    obtain ⟨t, more, h, -⟩ := d.tokens_eq
    simp [Data.itemsTokens, h]
  | d :: d' :: more => by
    have others := Data.length_le_itemsTokens (d' :: more)
    simp only [Data.itemsTokens, List.length_cons, List.length_append] at *
    omega

theorem Data.length_le_fieldsTokens : ∀ fields : List (String × Data),
    fields.length ≤ (Data.fieldsTokens fields).length
  | [] => Nat.le_refl 0
  | [(k, d)] => by simp [Data.fieldsTokens]
  | (k, d) :: f :: more => by
    have others := Data.length_le_fieldsTokens (f :: more)
    simp only [Data.fieldsTokens, List.length_cons, List.length_append] at *
    omega

theorem Data.itemsTokens_cons_cons (d d' : Data) (items : List Data) :
    Data.itemsTokens (d :: d' :: items)
      = d.tokens ++ (.punct ",", false) :: Data.itemsTokens (d' :: items) := rfl

theorem Data.fieldsTokens_cons_cons (k : String) (d : Data) (f : String × Data)
    (fields : List (String × Data)) :
    Data.fieldsTokens ((k, d) :: f :: fields)
      = (.str k (String.ofList (quote k)), false) :: (.punct ":", false) ::
        (d.tokens ++ (.punct ",", false) :: Data.fieldsTokens (f :: fields)) := rfl

theorem Data.itemsTokens_eq (d : Data) (items : List Data) :
    ∃ t more, Data.itemsTokens (d :: items) = (t, false) :: more := by
  obtain ⟨t, more, h, -⟩ := d.tokens_eq
  cases items with
  | nil => exact ⟨t, more, h⟩
  | cons d' items =>
    rw [Data.itemsTokens_cons_cons, h]
    exact ⟨t, _, rfl⟩

theorem Data.fieldsTokens_eq (f : String × Data) (fields : List (String × Data)) :
    ∃ t more, Data.fieldsTokens (f :: fields) = (t, false) :: more := by
  cases fields with
  | nil => exact ⟨_, _, rfl⟩
  | cons f' fields => exact ⟨_, _, rfl⟩

namespace Esm

open Parse

variable {α β : Type}

/-- A loop reads what its step reads, and then what is left. -/
theorem Parse.Reads.loop_inl {step : α → Parse (α ⊕ β)} {c : Cursor} {a b : α} {r : β} {n : Nat}
    {ts us : List Seen} (h : (step a).Reads c (.inl b) ts)
    (h' : ∀ d, d.Sees ts → c.Quiet d → (loopFrom step n b).Reads d r us) :
    (loopFrom step (n + 1) a).Reads c r us := by
  rw [loopFrom]
  exact h.bind h'

theorem Parse.Reads.loop_inr {step : α → Parse (α ⊕ β)} {c : Cursor} {a : α} {r : β} {n : Nat}
    {ts : List Seen} (h : (step a).Reads c (.inr r) ts) :
    (loopFrom step (n + 1) a).Reads c r ts := by
  rw [loopFrom]
  exact h.bind fun d hd q => Reads.pure r hd

namespace Read

variable {g : Grammar} {ctx : Context} {c : Cursor} {nl : Bool} {ts : List Seen} {e : Expr}

/-! ### Operands -/

/-- A negative number is an operator with a number behind it. -/
theorem reads_unary_minus {t : Token} {nl' : Bool}
    (hc : c.Sees ((.punct "-", nl) :: (t, nl') :: ts)) {us : List Seen}
    (h : (g.unary ctx).Reads c.advance e us) :
    (unary g ctx).Reads c (.unary c.cur.start .minus e) us := by
  obtain ⟨place, hplace⟩ := hc.advance.pos_done
  obtain ⟨d, run, hd, q⟩ := h.attempt
  refine ⟨d, ?_, hd, (Cursor.Quiet.advance c).trans q⟩
  rw [unary, run_bind_of_done (hc.pos (by decide)), run_bind_of_done hc.look]
  show (bump >>= fun _ => _).run c = _
  rw [run_bind_of_done hc.bump, run_bind_of_done hplace, run_bind_of_done run]
  rfl

/-- The operands that consist of one token. -/
def leaf? (start : Nat) : Token → Option Expr
  | .word "null" => some (.null start)
  | .word "true" => some (.bool start true)
  | .word "false" => some (.bool start false)
  | .num value _ => some (.num start value)
  | .str value _ => some (.str start value)
  | _ => none

theorem isOperandStart_of_leaf? {t : Token} {start : Nat} (h : leaf? start t = some e) :
    isOperandStart t = true := by
  unfold leaf? at h
  split at h
  all_goals first
    | rfl
    | cases h

theorem reads_primary_leaf {t : Token} (hc : c.Sees ((t, nl) :: ts))
    (h : leaf? c.cur.start t = some e) : (primary g ctx).Reads c e ts := by
  have ht := isOperandStart_of_leaf? h
  refine ⟨c.advance, ?_, hc.advance, Cursor.Quiet.advance c⟩
  rw [primary,
    run_bind_of_done (hc.need (isBad_of_isOperandStart ht) (ne_eof_of_isOperandStart ht)),
    run_bind_of_done (hc.pos (ne_eof_of_isOperandStart ht)), mayBeArrow,
    run_bind_of_done (run_peek _ c)]
  unfold leaf? at h
  split at h
  all_goals
    cases h
    try
      show (bump >>= fun _ => _).run c = _
      rw [run_bind_of_done hc.bump]
      rfl

/-! ### Elements and properties -/

theorem isText_of_isLiteralStart {t : Token} (h : isLiteralStart t = true) (text : String)
    (ht : ["null", "true", "false", "async", "[", "\x7b", "-"].contains text = false) :
    Token.isText text t = false := by
  rw [isLiteralStart, Bool.or_eq_true, decide_eq_true_eq] at h
  rcases h with h | rfl
  · refine isText_of_isOperandStart h text ?_
    rw [List.contains_eq_mem, decide_eq_false_iff_not] at ht ⊢
    exact fun hm => ht (List.mem_append_left ["-"] hm)
  · refine decide_eq_false ?_
    rintro rfl
    exact absurd ht (by decide)

theorem ne_eof_of_isLiteralStart {t : Token} (h : isLiteralStart t = true) : t ≠ .eof := by
  rintro rfl
  cases h

/-- What begins like a literal is no spread. -/
theorem reads_element {t : Token} (hc : c.Sees ((t, nl) :: ts)) (ht : isLiteralStart t = true)
    {us : List Seen} (h : (g.assignment ctx.withIn).Reads c e us) :
    (element g ctx).Reads c e us := by
  rw [element]
  refine Reads.bind_stay (hc.pos (ne_eof_of_isLiteralStart ht)) ?_
  refine Reads.bind_stay (hc.eat_false (isText_of_isLiteralStart ht _ (by decide))) ?_
  exact h

/-- An element is neither a hole nor the end of the array. -/
theorem run_arrayStep_of_isLiteralStart {t : Token} (hc : c.Sees ((t, nl) :: ts))
    (ht : isLiteralStart t = true) (acc : List Expr) :
    (arrayStep g ctx acc).run c
      = (do
          let e ← element g ctx
          if !(← is "]") then expect ","
          return .inl (e :: acc) : Parse (List Expr ⊕ List Expr)).run c := by
  have notEnd := hc.isEnd
  rw [decide_eq_false (ne_eof_of_isLiteralStart ht)] at notEnd
  have notClosed := hc.is "]"
  rw [isText_of_isLiteralStart ht _ (by decide)] at notClosed
  have noHole := hc.eat_false (isText_of_isLiteralStart ht "," (by decide))
  rw [arrayStep, run_bind_of_done notEnd, run_bind_of_done notClosed, Bool.or_self,
    if_neg Bool.false_ne_true, run_bind_of_done noHole]
  rfl

/-- The last element is followed by the bracket. -/
theorem reads_arrayStep_last {t : Token} (hc : c.Sees ((t, nl) :: ts))
    (ht : isLiteralStart t = true) (acc : List Expr) {us : List Seen} {nu : Bool}
    (h : (g.assignment ctx.withIn).Reads c e ((.punct "]", nu) :: us)) :
    (arrayStep g ctx acc).Reads c (.inl (e :: acc)) ((.punct "]", nu) :: us) := by
  obtain ⟨d, run, hd, q⟩ := reads_element hc ht h
  refine ⟨d, ?_, hd, q⟩
  rw [run_arrayStep_of_isLiteralStart hc ht, run_bind_of_done run, run_bind_of_done (hd.is "]")]
  rfl

/-- Another element is followed by a comma. -/
theorem reads_arrayStep_comma {t : Token} (hc : c.Sees ((t, nl) :: ts))
    (ht : isLiteralStart t = true) (acc : List Expr) {us : List Seen} {nu : Bool}
    (h : (g.assignment ctx.withIn).Reads c e ((.punct ",", nu) :: us)) :
    (arrayStep g ctx acc).Reads c (.inl (e :: acc)) us := by
  obtain ⟨d, run, hd, q⟩ := reads_element hc ht h
  refine ⟨d.advance, ?_, hd.advance, q.trans (Cursor.Quiet.advance d)⟩
  rw [run_arrayStep_of_isLiteralStart hc ht, run_bind_of_done run, run_bind_of_done (hd.is "]")]
  show (expect "," >>= fun _ => _).run d = _
  rw [run_bind_of_done (hd.expect rfl)]
  rfl

theorem reads_arrayStep_end (hc : c.Sees ((.punct "]", nl) :: ts)) (acc : List Expr) :
    (arrayStep g ctx acc).Reads c (.inr acc.reverse) ((.punct "]", nl) :: ts) := by
  refine ⟨c, ?_, hc, Cursor.Quiet.refl c⟩
  rw [arrayStep, run_bind_of_done hc.isEnd, run_bind_of_done (hc.is "]")]
  rfl

/-- The keys that consist of one token. -/
def plainKey? (start : Nat) : Token → Option Key
  | .str k _ => some (.str start k)
  | .word w => some (.name start w)
  | _ => none

/-- The token begins neither a spread nor a generator, and does not end an object. -/
def isPlainStart (t : Token) : Bool := !(["...", "*", "\x7d"].any (Token.isText · t))

theorem run_key {t : Token} {k : Key} (hc : c.Sees ((t, nl) :: ts))
    (hk : plainKey? c.cur.start t = some k) : (key g ctx).run c = .done k c.advance := by
  unfold plainKey? at hk
  split at hk
  all_goals
    cases hk
    try
      rw [key, run_bind_of_done (hc.need rfl (by simp)), run_bind_of_done (hc.pos (by simp))]
      show (bump >>= fun _ => _).run c = _
      rw [run_bind_of_done hc.bump]
      rfl

/-- A property with a plain key. -/
theorem reads_property {t : Token} {k : Key} (hc : c.Sees ((t, nl) :: (.punct ":", false) :: ts))
    (hk : plainKey? c.cur.start t = some k) (ht : isPlainStart t = true) {us : List Seen}
    (h : (g.assignment ctx.withIn).Reads c.advance.advance e us) :
    (property g ctx).Reads c (.pair k e) us := by
  have he : t ≠ .eof := by
    rintro rfl
    cases hk
  simp only [isPlainStart, List.any_cons, List.any_nil, Bool.or_false, Bool.not_eq_true',
    Bool.or_eq_false_iff] at ht
  obtain ⟨d, run, hd, q⟩ := h
  refine ⟨d, ?_, hd, ⟨q.bound, q.noted⟩⟩
  rw [property, run_bind_of_done (hc.pos he), run_bind_of_done (hc.eat_false ht.1),
    if_neg Bool.false_ne_true, run_bind_of_done (hc.eat_false ht.2.1), if_neg Bool.false_ne_true,
    run_bind_of_done (run_key hc hk), run_bind_of_done (hc.advance.eat_true rfl), if_pos rfl,
    run_bind_of_done run]
  rfl

/-- What does not end an object begins a property. -/
theorem run_objectStep {t : Token} (hc : c.Sees ((t, nl) :: ts)) (ht : isPlainStart t = true)
    (acc : List Property) :
    (objectStep g ctx acc).run c
      = (do
          let p ← property g ctx
          if !(← is "\x7d") then expect ","
          return .inl (p :: acc) : Parse (List Property ⊕ List Property)).run c := by
  simp only [isPlainStart, List.any_cons, List.any_nil, Bool.or_false, Bool.not_eq_true',
    Bool.or_eq_false_iff] at ht
  rw [objectStep, run_bind_of_done (hc.eat_false ht.2.2)]
  rfl

theorem reads_objectStep_last {t : Token} {k : Key}
    (hc : c.Sees ((t, nl) :: (.punct ":", false) :: ts)) (hk : plainKey? c.cur.start t = some k)
    (ht : isPlainStart t = true) (acc : List Property) {us : List Seen} {nu : Bool}
    (h : (g.assignment ctx.withIn).Reads c.advance.advance e ((.punct "\x7d", nu) :: us)) :
    (objectStep g ctx acc).Reads c (.inl (.pair k e :: acc)) ((.punct "\x7d", nu) :: us) := by
  obtain ⟨d, run, hd, q⟩ := reads_property hc hk ht h
  refine ⟨d, ?_, hd, q⟩
  rw [run_objectStep hc ht, run_bind_of_done run, run_bind_of_done (hd.is "\x7d")]
  rfl

theorem reads_objectStep_comma {t : Token} {k : Key}
    (hc : c.Sees ((t, nl) :: (.punct ":", false) :: ts)) (hk : plainKey? c.cur.start t = some k)
    (ht : isPlainStart t = true) (acc : List Property) {us : List Seen} {nu : Bool}
    (h : (g.assignment ctx.withIn).Reads c.advance.advance e ((.punct ",", nu) :: us)) :
    (objectStep g ctx acc).Reads c (.inl (.pair k e :: acc)) us := by
  obtain ⟨d, run, hd, q⟩ := reads_property hc hk ht h
  refine ⟨d.advance, ?_, hd.advance, q.trans (Cursor.Quiet.advance d)⟩
  rw [run_objectStep hc ht, run_bind_of_done run, run_bind_of_done (hd.is "\x7d")]
  show (expect "," >>= fun _ => _).run d = _
  rw [run_bind_of_done (hd.expect rfl)]
  rfl

theorem reads_objectStep_end (hc : c.Sees ((.punct "\x7d", nl) :: ts)) (acc : List Property) :
    (objectStep g ctx acc).Reads c (.inr acc.reverse) ts := by
  refine ⟨c.advance, ?_, hc.advance, Cursor.Quiet.advance c⟩
  rw [objectStep, run_bind_of_done (hc.eat_true rfl)]
  rfl

theorem reads_primary_array (hc : c.Sees ((.punct "[", nl) :: ts)) {es : List Expr}
    {us : List Seen} {nu : Bool}
    (h : (loopFrom (arrayStep g ctx) (c.bound + 2) []).Reads c.advance es
      ((.punct "]", nu) :: us)) :
    (primary g ctx).Reads c (.array c.cur.start es) us := by
  obtain ⟨d, run, hd, q⟩ := h
  refine ⟨d.advance, ?_, hd.advance, ⟨q.bound, q.noted⟩⟩
  rw [primary, run_bind_of_done (hc.need rfl (by decide)), run_bind_of_done (hc.pos (by decide)),
    mayBeArrow, run_bind_of_done (run_peek _ c)]
  show (array g ctx).run c = _
  rw [array, run_bind_of_done (hc.pos (by decide)), run_bind_of_done hc.bump,
    run_bind_of_done ((run_loop _ _ _).trans run), run_bind_of_done (hd.expect rfl)]
  rfl

theorem reads_primary_object (hc : c.Sees ((.punct "\x7b", nl) :: ts)) {ps : List Property}
    {us : List Seen}
    (h : (loopFrom (objectStep g ctx) (c.bound + 2) []).Reads c.advance ps us) :
    (primary g ctx).Reads c (.object c.cur.start ps) us := by
  obtain ⟨d, run, hd, q⟩ := h
  refine ⟨d, ?_, hd, ⟨q.bound, q.noted⟩⟩
  rw [primary, run_bind_of_done (hc.need rfl (by decide)), run_bind_of_done (hc.pos (by decide)),
    mayBeArrow, run_bind_of_done (run_peek _ c)]
  show (object g ctx).run c = _
  rw [object, run_bind_of_done (hc.pos (by decide)), run_bind_of_done hc.bump,
    run_bind_of_done ((run_loop _ _ _).trans run)]
  rfl

/-! ### Literals -/

/-- A literal of one token. -/
theorem reads_leaf (hgen : ctx.generator = false) {t u : Token} {nu : Bool} {s : Seen}
    {us : List Seen} (hc : c.Sees ((t, nl) :: (u, nu) :: s :: us)) (hu : isCloser u = true)
    (h : leaf? c.cur.start t = some e) :
    (assignment g ctx).Reads c e ((u, nu) :: s :: us) :=
  reads_assignment_of_primary hgen hc (isOperandStart_of_leaf? h) hu
    (reads_primary_leaf (hc.marked t) h)

theorem reads_number (hgen : ctx.generator = false) (x : Number) {n : Nat} {u : Token} {nu : Bool}
    {s : Seen} {us : List Seen} (hn : x.tokens.length ≤ n)
    (hc : c.Sees (x.tokens ++ (u, nu) :: s :: us)) (hu : isCloser u = true) :
    ∃ e, e.constant? = some (.num x.isNegative x.numeral.value) ∧
      (assignment (Grammar.levels n) ctx).Reads c e ((u, nu) :: s :: us) := by
  rw [Number.tokens] at hc hn
  cases hneg : x.isNegative with
  | false =>
    rw [hneg] at hc
    exact ⟨_, rfl, reads_leaf hgen hc hu rfl⟩
  | true =>
    rw [hneg] at hc hn
    -- the operand of the sign is read one level further down
    obtain ⟨m, rfl⟩ : ∃ m, n = m + 1 := ⟨n - 1, by simp at hn; omega⟩
    have hc' := hc.marked (.punct "-")
    refine ⟨.unary c.cur.start .minus (.num (c.marked (.punct "-")).advance.cur.start
      x.numeral.value), rfl, ?_⟩
    refine reads_assignment hgen hc rfl (by decide) rfl rfl hu (reads_unary_minus hc' ?_)
    exact reads_unary (g := Grammar.levels m) hc'.advance rfl hu
      (reads_primary_leaf hc'.advance rfl)

mutual

/-- At the tokens of a literal, an expression with its constant is read. -/
theorem reads_literal : ∀ (d : Data) (n : Nat) (ctx : Context) (c : Cursor) {u : Token} {nu : Bool}
    {s : Seen} {us : List Seen}, d.tokens.length ≤ n → d.tokens.length ≤ c.bound →
    ctx.generator = false → isCloser u = true → c.Sees (d.tokens ++ (u, nu) :: s :: us) →
    ∃ e v, d.constant? = some v ∧ e.constant? = some v ∧
      (assignment (Grammar.levels n) ctx).Reads c e ((u, nu) :: s :: us)
  | .null, n, ctx, c, u, nu, s, us, hn, hb, hgen, hu, hc =>
    ⟨_, _, rfl, rfl, reads_leaf hgen hc hu rfl⟩
  | .bool true, n, ctx, c, u, nu, s, us, hn, hb, hgen, hu, hc =>
    ⟨_, _, rfl, rfl, reads_leaf hgen hc hu rfl⟩
  | .bool false, n, ctx, c, u, nu, s, us, hn, hb, hgen, hu, hc =>
    ⟨_, _, rfl, rfl, reads_leaf hgen hc hu rfl⟩
  | .num x, n, ctx, c, u, nu, s, us, hn, hb, hgen, hu, hc => by
    obtain ⟨e, he, h⟩ := reads_number hgen x hn hc hu
    exact ⟨e, _, x.constant?_eq, he, h⟩
  | .str k, n, ctx, c, u, nu, s, us, hn, hb, hgen, hu, hc =>
    ⟨_, _, rfl, rfl, reads_leaf hgen hc hu rfl⟩
  | .list items, n, ctx, c, u, nu, s, us, hn, hb, hgen, hu, hc => by
    rw [Data.tokens, List.length_cons, List.length_append, List.length_singleton] at hn hb
    rw [Data.tokens, List.cons_append, List.append_assoc, List.singleton_append] at hc
    -- the brackets are tokens, too, so a level remains for the items
    obtain ⟨m, rfl⟩ : ∃ m, n = m + 1 := ⟨n - 1, by omega⟩
    have hcount := Data.length_le_itemsTokens items
    have hc' := hc.marked (.punct "[")
    obtain ⟨es, vs, hvs, hes, h⟩ := reads_elements items m (c.bound + 2) ctx
      (c.marked (.punct "[")).advance [] (by omega)
      (Nat.le_trans (Nat.le_add_right _ 2) hb) hgen (by omega) hc'.advance
    refine ⟨.array c.cur.start es, .list vs, ?_, ?_, ?_⟩
    · rw [Data.constant?, hvs]
      rfl
    · rw [Expr.constant?, hes]
      rfl
    · exact reads_assignment_of_primary hgen hc rfl hu (reads_primary_array hc' h)
  | .record fields, n, ctx, c, u, nu, s, us, hn, hb, hgen, hu, hc => by
    rw [Data.tokens, List.length_cons, List.length_append, List.length_singleton] at hn hb
    rw [Data.tokens, List.cons_append, List.append_assoc, List.singleton_append] at hc
    obtain ⟨m, rfl⟩ : ∃ m, n = m + 1 := ⟨n - 1, by omega⟩
    have hcount := Data.length_le_fieldsTokens fields
    have hc' := hc.marked (.punct "\x7b")
    obtain ⟨ps, vs, hvs, hps, h⟩ := reads_properties fields m (c.bound + 2) ctx
      (c.marked (.punct "\x7b")).advance [] (by omega)
      (Nat.le_trans (Nat.le_add_right _ 2) hb) hgen (by omega) hc'.advance
    refine ⟨.object c.cur.start ps, .record vs, ?_, ?_, ?_⟩
    · rw [Data.constant?, hvs]
      rfl
    · rw [Expr.constant?, hps]
      rfl
    · exact reads_assignment_of_primary hgen hc rfl hu (reads_primary_object hc' h)

/-- The elements of an array are read one after the other, up to the bracket. -/
theorem reads_elements : ∀ (items : List Data) (m fuel : Nat) (ctx : Context) (c : Cursor)
    (acc : List Expr) {s : Seen} {us : List Seen}, (Data.itemsTokens items).length ≤ m →
    (Data.itemsTokens items).length ≤ c.bound → ctx.generator = false → items.length < fuel →
    c.Sees (Data.itemsTokens items ++ (.punct "]", false) :: s :: us) →
    ∃ es vs, Data.itemConstants? items = some vs ∧ elementConstants? es = some vs ∧
      (loopFrom (arrayStep (Grammar.levels (m + 1)) ctx) fuel acc).Reads c (acc.reverse ++ es)
        ((.punct "]", false) :: s :: us)
  | [], m, fuel, ctx, c, acc, s, us, hn, hb, hgen, hf, hc => by
    obtain ⟨fuel, rfl⟩ : ∃ k, fuel = k + 1 := ⟨fuel - 1, by omega⟩
    refine ⟨[], [], rfl, rfl, ?_⟩
    rw [List.append_nil]
    exact Reads.loop_inr (reads_arrayStep_end hc acc)
  | [d], m, fuel, ctx, c, acc, s, us, hn, hb, hgen, hf, hc => by
    rw [List.length_singleton] at hf
    obtain ⟨fuel, rfl⟩ : ∃ k, fuel = k + 2 := ⟨fuel - 2, by omega⟩
    obtain ⟨t, more, ht, hstart⟩ := d.tokens_eq
    obtain ⟨e, v, hv, he, h⟩ := reads_literal d m ctx.withIn c hn hb hgen rfl hc
    refine ⟨[e], [v], ?_, ?_, ?_⟩
    · rw [Data.itemConstants?, hv]
      rfl
    · rw [elementConstants?, he]
      rfl
    · rw [Data.itemsTokens, ht] at hc
      refine Reads.loop_inl (reads_arrayStep_last hc hstart acc h) (fun c₁ hc₁ _ => ?_)
      rw [← List.reverse_cons]
      exact Reads.loop_inr (reads_arrayStep_end hc₁ (e :: acc))
  | d :: d' :: rest, m, fuel, ctx, c, acc, s, us, hn, hb, hgen, hf, hc => by
    obtain ⟨fuel, rfl⟩ : ∃ k, fuel = k + 1 := ⟨fuel - 1, by omega⟩
    rw [List.length_cons] at hf
    rw [Data.itemsTokens_cons_cons, List.length_append, List.length_cons] at hn hb
    rw [Data.itemsTokens_cons_cons, List.append_assoc, List.cons_append] at hc
    obtain ⟨t, more, ht, hstart⟩ := d.tokens_eq
    obtain ⟨t', more', ht'⟩ := Data.itemsTokens_eq d' rest
    -- the comma is not the last token: the reader of the element may look past it
    have first : ∃ e v, d.constant? = some v ∧ e.constant? = some v ∧
        (assignment (Grammar.levels m) ctx.withIn).Reads c e ((.punct ",", false) ::
          (Data.itemsTokens (d' :: rest) ++ (.punct "]", false) :: s :: us)) := by
      rw [ht'] at hc ⊢
      exact reads_literal d m ctx.withIn c (by omega) (by omega) hgen rfl hc
    obtain ⟨e, v, hv, he, h⟩ := first
    rw [ht] at hc
    obtain ⟨c₁, run, hc₁, q⟩ := reads_arrayStep_comma (g := Grammar.levels (m + 1)) hc hstart acc h
    obtain ⟨es, vs, hvs, hes, h'⟩ := reads_elements (d' :: rest) m fuel ctx c₁ (e :: acc) (by omega)
      (by rw [q.bound]; omega) hgen (by omega) hc₁
    refine ⟨e :: es, v :: vs, ?_, ?_, ?_⟩
    · rw [Data.itemConstants?, hv, hvs]
    · rw [elementConstants?, he, hes]
    · obtain ⟨c₂, run', hc₂, q'⟩ := h'
      rw [List.reverse_cons, List.append_assoc] at run'
      refine ⟨c₂, ?_, hc₂, q.trans q'⟩
      rw [loopFrom, run_bind_of_done run]
      exact run'

/-- The properties of an object are read one after the other. -/
theorem reads_properties : ∀ (fields : List (String × Data)) (m fuel : Nat) (ctx : Context)
    (c : Cursor) (acc : List Property) {s : Seen} {us : List Seen},
    (Data.fieldsTokens fields).length ≤ m →
    (Data.fieldsTokens fields).length ≤ c.bound → ctx.generator = false → fields.length < fuel →
    c.Sees (Data.fieldsTokens fields ++ (.punct "\x7d", false) :: s :: us) →
    ∃ ps vs, Data.fieldConstants? fields = some vs ∧ propertyConstants? ps = some vs ∧
      (loopFrom (objectStep (Grammar.levels (m + 1)) ctx) fuel acc).Reads c (acc.reverse ++ ps)
        (s :: us)
  | [], m, fuel, ctx, c, acc, s, us, hn, hb, hgen, hf, hc => by
    obtain ⟨fuel, rfl⟩ : ∃ k, fuel = k + 1 := ⟨fuel - 1, by omega⟩
    refine ⟨[], [], rfl, rfl, ?_⟩
    rw [List.append_nil]
    exact Reads.loop_inr (reads_objectStep_end hc acc)
  | [(k, d)], m, fuel, ctx, c, acc, s, us, hn, hb, hgen, hf, hc => by
    rw [List.length_singleton] at hf
    obtain ⟨fuel, rfl⟩ : ∃ k, fuel = k + 2 := ⟨fuel - 2, by omega⟩
    rw [Data.fieldsTokens, List.length_cons, List.length_cons] at hn hb
    rw [Data.fieldsTokens, List.cons_append, List.cons_append] at hc
    obtain ⟨e, v, hv, he, h⟩ := reads_literal d m ctx.withIn c.advance.advance (by omega)
      (show _ ≤ c.bound by omega) hgen rfl hc.advance.advance
    refine ⟨[.pair (.str c.cur.start k) e], [(k, v)], ?_, ?_, ?_⟩
    · rw [Data.fieldConstants?, hv]
      rfl
    · rw [propertyConstants?, he]
      rfl
    · refine Reads.loop_inl (reads_objectStep_last hc rfl rfl acc h) (fun c₁ hc₁ _ => ?_)
      rw [← List.reverse_cons]
      exact Reads.loop_inr (reads_objectStep_end hc₁ (_ :: acc))
  | (k, d) :: f :: rest, m, fuel, ctx, c, acc, s, us, hn, hb, hgen, hf, hc => by
    obtain ⟨fuel, rfl⟩ : ∃ k, fuel = k + 1 := ⟨fuel - 1, by omega⟩
    rw [List.length_cons] at hf
    rw [Data.fieldsTokens_cons_cons, List.length_cons, List.length_cons, List.length_append,
      List.length_cons] at hn hb
    rw [Data.fieldsTokens_cons_cons, List.cons_append, List.cons_append, List.append_assoc,
      List.cons_append] at hc
    obtain ⟨t', more', ht'⟩ := Data.fieldsTokens_eq f rest
    -- here, too, some token follows the comma
    have first : ∃ e v, d.constant? = some v ∧ e.constant? = some v ∧
        (assignment (Grammar.levels m) ctx.withIn).Reads c.advance.advance e ((.punct ",", false) ::
          (Data.fieldsTokens (f :: rest) ++ (.punct "\x7d", false) :: s :: us)) := by
      rw [ht'] at hc ⊢
      exact reads_literal d m ctx.withIn c.advance.advance (by omega) (show _ ≤ c.bound by omega)
        hgen rfl hc.advance.advance
    obtain ⟨e, v, hv, he, h⟩ := first
    obtain ⟨c₁, run, hc₁, q⟩ :=
      reads_objectStep_comma (g := Grammar.levels (m + 1)) hc rfl rfl acc h
    obtain ⟨ps, vs, hvs, hps, h'⟩ := reads_properties (f :: rest) m fuel ctx c₁
      (.pair (.str c.cur.start k) e :: acc) (by omega) (by rw [q.bound]; omega) hgen (by omega) hc₁
    refine ⟨.pair (.str c.cur.start k) e :: ps, (k, v) :: vs, ?_, ?_, ?_⟩
    · rw [Data.fieldConstants?, hv, hvs]
    · rw [propertyConstants?, he, hps]
    · obtain ⟨c₂, run', hc₂, q'⟩ := h'
      rw [List.reverse_cons, List.append_assoc] at run'
      refine ⟨c₂, ?_, hc₂, q.trans q'⟩
      rw [loopFrom, run_bind_of_done run]
      exact run'

end

end Read
end Esm
end Frontmatter
