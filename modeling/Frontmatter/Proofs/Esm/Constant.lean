/-
Frontmatter/Proofs/Esm/Constant.lean

Constants: what literals stand for, and the tokens that literals consist of.

A `Constant` is what an expression stands for that is built from literals only
(`Expr.constant?`): no variable, no call, no hole and no spread.  A value of a
block stands for a constant, too (`Data.constant?`).  The two meet at the
numbers: a number of a block stands for the value that the lexer of modules
gives to its printed text, and every number has one (`Number.constant?_eq`).

The literal of a value lexes to its tokens (`lexes_literal`).
-/
import Frontmatter.Proofs.Esm.Numeral

namespace Frontmatter

/-- What an expression of literals stands for.  The minus sign of a number is
kept apart from its value. -/
inductive Constant where
  | null
  | bool (b : Bool)
  | num (negative : Bool) (value : Esm.NumericValue)
  | str (s : String)
  | list (items : List Constant)
  | record (fields : List (String × Constant))

namespace Esm

/-! ### The constants of expressions -/

mutual

/-- The constant of an expression that is built from literals only. -/
def Expr.constant? : Expr → Option Constant
  | .null _ => some .null
  | .bool _ b => some (.bool b)
  | .num _ value => some (.num false value)
  | .unary _ .minus (.num _ value) => some (.num true value)
  | .str _ s => some (.str s)
  | .array _ elements => (elementConstants? elements).map .list
  | .object _ props => (propertyConstants? props).map .record
  | _ => none

/-- The constants of the elements of an array, in order. -/
def elementConstants? : List Expr → Option (List Constant)
  | [] => some []
  | e :: es =>
    match e.constant?, elementConstants? es with
    | some v, some vs => some (v :: vs)
    | _, _ => none

/-- The constants of properties that are named by strings, in order. -/
def propertyConstants? : List Property → Option (List (String × Constant))
  | [] => some []
  | .pair (.str _ k) e :: ps =>
    match e.constant?, propertyConstants? ps with
    | some v, some vs => some ((k, v) :: vs)
    | _, _ => none
  | _ => none

end

/-- The value that the lexer gives to a text, if it reads a number there. -/
def Lexer.numberValue? (text : List Char) : Option NumericValue :=
  match (number text 0).token with
  | .num value _ => some value
  | _ => none

end Esm

/-! ### The constants of values -/

/-- The constant of a number, from its printed text. -/
def Number.constant? (n : Number) : Option Constant :=
  match n.literal with
  | '-' :: text => (Esm.Lexer.numberValue? text).map (.num true)
  | text => (Esm.Lexer.numberValue? text).map (.num false)

mutual

/-- The constant of a value: of the same shape, with the same strings and keys,
and at each number the value that the lexer gives to its text. -/
def Data.constant? : Data → Option Constant
  | .null => some .null
  | .bool b => some (.bool b)
  | .num n => n.constant?
  | .str s => some (.str s)
  | .list items => (Data.itemConstants? items).map .list
  | .record fields => (Data.fieldConstants? fields).map .record

def Data.itemConstants? : List Data → Option (List Constant)
  | [] => some []
  | d :: ds =>
    match d.constant?, Data.itemConstants? ds with
    | some v, some vs => some (v :: vs)
    | _, _ => none

def Data.fieldConstants? : List (String × Data) → Option (List (String × Constant))
  | [] => some []
  | (k, d) :: fs =>
    match d.constant?, Data.fieldConstants? fs with
    | some v, some vs => some ((k, v) :: vs)
    | _, _ => none

end

/-- Every number has a constant: a sign and a value. -/
theorem Number.constant?_eq (n : Number) :
    n.constant? = some (.num n.isNegative n.numeral.value) := by
  have h := n.wellFormed_numeral
  have ends : Esm.Lexer.EndsNumber [] := fun c hc => nomatch hc
  have value : Esm.Lexer.numberValue? n.numeral.chars = some n.numeral.value := by
    have read := Esm.Lexer.number_append h ends 0
    rw [List.append_nil] at read
    rw [Esm.Lexer.numberValue?, read]
  obtain ⟨d, ds, e, hd, -⟩ := h.whole_eq
  have noMinus : d ≠ '-' := Esm.Lexer.ne_of_isDigit hd (by decide)
  have head : n.numeral.chars = d :: (ds ++ n.numeral.tail) := by
    rw [Numeral.chars, e, List.cons_append]
  rw [Number.constant?, n.literal_eq]
  cases n.isNegative with
  | true => simp [value]
  | false =>
    rw [if_neg Bool.false_ne_true, List.nil_append]
    split
    · next text heq =>
      rw [head] at heq
      cases heq
      exact absurd rfl noMinus
    · rw [value]
      rfl

/-! ### The tokens of a literal -/

open Esm (Seen Token)

def Number.tokens (n : Number) : List Seen :=
  (if n.isNegative then [(Token.punct "-", false)] else []) ++
    [(.num n.numeral.value (String.ofList n.numeral.chars), false)]

mutual

def Data.tokens : Data → List Seen
  | .null => [(.word "null", false)]
  | .bool true => [(.word "true", false)]
  | .bool false => [(.word "false", false)]
  | .num n => n.tokens
  | .str s => [(.str s (String.ofList (quote s)), false)]
  | .list items => (.punct "[", false) :: (Data.itemsTokens items ++ [(.punct "]", false)])
  | .record fields =>
    (.punct "\x7b", false) :: (Data.fieldsTokens fields ++ [(.punct "\x7d", false)])

def Data.itemsTokens : List Data → List Seen
  | [] => []
  | [d] => d.tokens
  | d :: rest => d.tokens ++ (.punct ",", false) :: Data.itemsTokens rest

def Data.fieldsTokens : List (String × Data) → List Seen
  | [] => []
  | [(k, d)] => (.str k (String.ofList (quote k)), false) :: (.punct ":", false) :: d.tokens
  | (k, d) :: rest =>
    (.str k (String.ofList (quote k)), false) :: (.punct ":", false) ::
      (d.tokens ++ (.punct ",", false) :: Data.fieldsTokens rest)

end

namespace Esm.Lexer

/-- The text goes on with something that ends every literal before it. -/
def Delimited (cs : List Char) : Prop := ∀ c ∈ cs.head?, c ∈ [',', ']', '}', ' ', ';', ':']

theorem delimited_cons {c : Char} (hc : c ∈ [',', ']', '}', ' ', ';', ':']) (cs : List Char) :
    Delimited (c :: cs) := by
  intro d hd
  cases hd
  exact hc

theorem Delimited.endsNumber {cs : List Char} (h : Delimited cs) : EndsNumber cs := by
  have all : ∀ c ∈ [',', ']', '}', ' ', ';', ':'],
      isWordStart c = false ∧ c.isDigit = false ∧ c ≠ '.' := forall_of_all (by decide)
  exact fun c hc => all c (h c hc)

theorem Delimited.endsWord {cs : List Char} (h : Delimited cs) : EndsWord cs := by
  have all : ∀ c ∈ [',', ']', '}', ' ', ';', ':'], isWordPart c = false ∧ c ≠ '\\' :=
    forall_of_all (by decide)
  exact fun c hc => all c (h c hc)

theorem solid_lone (c : Char) (text : String) (h : (c, text) ∈ lonePunctuators) (newline : Bool)
    (rest : List Char) : Solid newline (c :: rest) := by
  have plain : ∀ p ∈ lonePunctuators, isBlank p.1 = false ∧ isLineEnd p.1 = false ∧
      p.1 ∉ doubtful := by decide
  obtain ⟨h₁, h₂, h₃⟩ := plain (c, text) h
  exact Solid.of_head h₁ h₂ h₃ newline rest

theorem lexes_lone (c : Char) (text : String) (h : (c, text) ∈ lonePunctuators)
    (rest : List Char) : LexesTo false (c :: rest) [(.punct text, false)] rest :=
  LexesTo.tokenAt (solid_lone c text h false rest) (tokenAt_lone h rest)

theorem lexes_quote (s : String) (rest : List Char) :
    LexesTo false (quote s ++ rest) [(.str s (String.ofList (quote s)), false)] rest :=
  LexesTo.tokenAt (Solid.of_head (by decide) (by decide) (by decide) false _) (tokenAt_quote s rest)

/-- A word of letters. -/
theorem lexes_word (c : Char) (w : List Char) (newline : Bool) {rest : List Char}
    (hw : isWordText (c :: w) = true) (hc : isBlank c = false ∧ isLineEnd c = false ∧ c ∉ doubtful)
    (hrest : EndsWord rest) :
    LexesTo newline (c :: w ++ rest) [(.word (String.ofList (c :: w)), newline)] rest :=
  LexesTo.tokenAt (Solid.of_head hc.1 hc.2.1 hc.2.2 newline _) (tokenAt_word hw hrest)

theorem solid_numeral {n : Numeral} (h : n.WellFormed) (rest : List Char) :
    Solid false (n.chars ++ rest) := by
  obtain ⟨d, ds, e, hd, -⟩ := h.whole_eq
  obtain ⟨h₁, h₂, h₃⟩ := forall_ascii
    (p := fun c => c.isDigit = true → isBlank c = false ∧ isLineEnd c = false ∧ c ∉ doubtful)
    (by decide +kernel) (ascii_of_isDigit hd) hd
  rw [Numeral.chars, e]
  exact Solid.of_head h₁ h₂ h₃ false _

theorem solid_number (n : Number) (rest : List Char) : Solid false (n.literal ++ rest) := by
  have h := n.wellFormed_numeral
  rw [n.literal_eq]
  cases n.isNegative with
  | false => exact solid_numeral h rest
  | true =>
    obtain ⟨d, ds, e, hd, -⟩ := h.whole_eq
    rw [Numeral.chars, e]
    exact Solid.minus (ne_of_isDigit hd (by decide)) _

/-- A minus sign is a token of its own. -/
theorem lexes_number (n : Number) {rest : List Char} (hrest : Delimited rest) :
    LexesTo false (n.literal ++ rest) n.tokens rest := by
  have h := n.wellFormed_numeral
  have solid := solid_number n rest
  have magnitude : LexesTo false (n.numeral.chars ++ rest)
      [(.num n.numeral.value (String.ofList n.numeral.chars), false)] rest :=
    LexesTo.tokenAt (solid_numeral h rest) (tokenAt_numeral h hrest.endsNumber)
  rw [n.literal_eq] at solid ⊢
  rw [Number.tokens]
  cases hneg : n.isNegative with
  | false => exact magnitude
  | true =>
    rw [hneg] at solid
    obtain ⟨d, ds, e, hd, -⟩ := h.whole_eq
    rw [Numeral.chars, e] at magnitude solid ⊢
    exact (LexesTo.tokenAt solid (tokenAt_minus hd _)).trans magnitude

mutual

/-- The literal of a value lexes to its tokens. -/
theorem lexes_literal : ∀ (d : Data) {rest : List Char}, Delimited rest →
    LexesTo false (d.literalChars ++ rest) d.tokens rest
  | .null, rest, hrest =>
    lexes_word 'n' ['u', 'l', 'l'] false (by decide) (by decide) hrest.endsWord
  | .bool true, rest, hrest =>
    lexes_word 't' ['r', 'u', 'e'] false (by decide) (by decide) hrest.endsWord
  | .bool false, rest, hrest =>
    lexes_word 'f' ['a', 'l', 's', 'e'] false (by decide) (by decide) hrest.endsWord
  | .num n, rest, hrest => lexes_number n hrest
  | .str s, rest, hrest => lexes_quote s rest
  | .list items, rest, hrest => by
    have inner := lexes_items items (delimited_cons (c := ']') (by decide) rest)
    have whole := ((lexes_lone '[' "[" (by decide) _).trans inner).trans
      (lexes_lone ']' "]" (by decide) rest)
    simpa [Data.literalChars, Data.tokens] using whole
  | .record fields, rest, hrest => by
    have inner := lexes_fields fields (delimited_cons (c := '}') (by decide) rest)
    have whole := ((lexes_lone '{' "\x7b" (by decide) _).trans inner).trans
      (lexes_lone '}' "\x7d" (by decide) rest)
    simpa [Data.literalChars, Data.tokens] using whole

theorem lexes_items : ∀ (items : List Data) {rest : List Char}, Delimited rest →
    LexesTo false (Data.itemsChars items ++ rest) (Data.itemsTokens items) rest
  | [], rest, hrest => LexesTo.refl rest
  | [d], rest, hrest => lexes_literal d hrest
  | d :: d' :: more, rest, hrest => by
    have first := lexes_literal d
      (delimited_cons (c := ',') (by decide) (Data.itemsChars (d' :: more) ++ rest))
    have whole := (first.trans (lexes_lone ',' "," (by decide) _)).trans
      (lexes_items (d' :: more) hrest)
    simpa [Data.itemsChars, Data.itemsTokens] using whole

theorem lexes_fields : ∀ (fields : List (String × Data)) {rest : List Char}, Delimited rest →
    LexesTo false (Data.fieldsChars fields ++ rest) (Data.fieldsTokens fields) rest
  | [], rest, hrest => LexesTo.refl rest
  | [(k, d)], rest, hrest => by
    have key := (lexes_quote k _).trans (lexes_lone ':' ":" (by decide) (d.literalChars ++ rest))
    have whole := key.trans (lexes_literal d hrest)
    simpa [Data.fieldsChars, Data.fieldsTokens] using whole
  | (k, d) :: f :: more, rest, hrest => by
    have first := lexes_literal d
      (delimited_cons (c := ',') (by decide) (Data.fieldsChars (f :: more) ++ rest))
    have whole := ((((lexes_quote k _).trans (lexes_lone ':' ":" (by decide) _)).trans first).trans
      (lexes_lone ',' "," (by decide) _)).trans (lexes_fields (f :: more) hrest)
    simpa [Data.fieldsChars, Data.fieldsTokens] using whole

end

/-- A literal begins at once. -/
theorem solid_literal (d : Data) (rest : List Char) : Solid false (d.literalChars ++ rest) := by
  have plain : ∀ c ∈ ['n', 't', 'f', '"', '[', '{'],
      isBlank c = false ∧ isLineEnd c = false ∧ c ∉ doubtful := forall_of_all (by decide)
  have solid : ∀ {c : Char} {cs : List Char}, c ∈ ['n', 't', 'f', '"', '[', '{'] →
      Solid false (c :: cs) := by
    intro c cs hc
    obtain ⟨h₁, h₂, h₃⟩ := plain c hc
    exact Solid.of_head h₁ h₂ h₃ false cs
  cases d
  case bool b => cases b <;> exact solid (by decide)
  case num n => exact solid_number n rest
  all_goals exact solid (by decide)

end Esm.Lexer
end Frontmatter
