/-
Frontmatter/Proofs/Json/Skip.lean

Values of a JSON text that are skipped.

A literal is skipped as a whole, however deep it is nested, if what follows it ends it
(`passes_skipValue`).  The reader has no limit of its own on the depth: a literal is skipped in
no more steps than it has characters (`passes_literal`), and twice as many may be taken.
-/
import Frontmatter.Proofs.Decimal.ReadBack
import Frontmatter.Proofs.Esm.Constant
import Frontmatter.Proofs.Json.Text

namespace Frontmatter

/-! ### Fractions -/

/-- There is a digit behind every point. -/
theorem Binary64.fraction_ne_nil (x : Binary64) : ∀ ds ∈ x.numeral.fraction, ds ≠ [] := by
  intro ds hds
  by_cases hx : x.significand = 0
  · have zero : x.numeral = ⟨['0'], some ['0'], none⟩ := by simp [Binary64.numeral, hx]
    rw [zero] at hds
    cases hds
    exact List.cons_ne_nil _ _
  have length := length_toChars_shortest hx
  have nonempty := (shortest_spec hx).count_pos
  rw [Binary64.numeral, if_neg hx] at hds
  rw [← List.length_pos_iff]
  simp only at hds
  split at hds
  · cases hds
    exact Nat.one_pos
  split at hds
  · cases hds
    rw [List.length_drop]
    omega
  split at hds
  · cases hds
    rw [List.length_append]
    omega
  split at hds
  · cases hds
  · cases hds
    rw [List.length_drop]
    omega

theorem Number.fraction_ne_nil (n : Number) : ∀ ds ∈ n.numeral.fraction, ds ≠ [] := by
  cases n with
  | whole n => exact nofun
  | real x => exact x.fraction_ne_nil

namespace Json

open Cursor Esm.Lexer

variable {c : Cursor} {rest : List Char}

/-! ### Numbers -/

theorem isDigit_eq : isDigit = Char.isDigit := rfl

/-- What ends a literal goes on with no part of a number. -/
theorem not_number_of_delimited (h : Delimited rest) :
    ∀ ch ∈ rest.head?, isDigit ch = false ∧ ch ≠ '.' ∧ ch ≠ 'e' ∧ ch ≠ 'E' := by
  have all : ∀ ch ∈ [',', ']', '}', ' ', ';', ':'],
      isDigit ch = false ∧ ch ≠ '.' ∧ ch ≠ 'e' ∧ ch ≠ 'E' := forall_of_all (by decide)
  exact fun ch hch => all ch (h ch hch)

theorem rest_skipDigits {ds : List Char} (hds : ds.all Char.isDigit = true)
    (hrest : ∀ ch ∈ rest.head?, isDigit ch = false) (h : c.rest = ds ++ rest) :
    (c.skipWhile isDigit).rest = rest :=
  rest_skipWhile (List.all_eq_true.mp hds) hrest h

theorem passes_skipExponent {e : Option (Bool × List Char)}
    (he : ∀ e' ∈ e, e'.2 ≠ [] ∧ e'.2.all Char.isDigit = true) (hrest : Delimited rest)
    (h : c.rest = Numeral.markedExponent e ++ rest) : Passes rest (skipExponent c) := by
  have ends := not_number_of_delimited hrest
  cases e with
  | none =>
    rw [Numeral.markedExponent, List.nil_append] at h
    rw [skipExponent]
    rcases peeked : c.peek with _ | ch
    · exact passes_ok h
    · rw [peek, h] at peeked
      obtain ⟨-, -, small, capital⟩ := ends ch peeked
      simp only [small, capital, decide_false, Bool.or_false, Bool.false_eq_true, if_false]
      exact passes_ok h
  | some e =>
    obtain ⟨down, ds⟩ := e
    obtain ⟨nonempty, digits⟩ := he _ rfl
    obtain ⟨d, ds, rfl⟩ := List.exists_cons_of_ne_nil nonempty
    have hd : isDigit d = true := List.all_eq_true.mp digits d List.mem_cons_self
    have finish : ∀ c : Cursor, c.rest = d :: (ds ++ rest) →
        Passes rest (.ok (c.skipWhile isDigit)) := fun c left =>
      passes_ok (rest_skipDigits digits (fun ch hch => (ends ch hch).1) left)
    have behind : c.skip.rest = Numeral.exponentChars (down, d :: ds) ++ rest := rest_skip h
    rw [skipExponent]
    simp only [peek_of_rest h, decide_true, Bool.true_or, if_true]
    cases down with
    | true =>
      have digit : c.skip.skip.rest = d :: (ds ++ rest) := rest_skip behind
      simp only [peek_of_rest behind, decide_true, Bool.or_true, if_true, peek_of_rest digit, hd]
      exact finish _ digit
    | false =>
      have unsigned : c.skip.peek = some d := peek_of_rest behind
      have plus : d ≠ '+' := ne_of_isDigit hd (by decide)
      have minus : d ≠ '-' := ne_of_isDigit hd (by decide)
      simp only [unsigned, Option.some.injEq, plus, minus, decide_false, Bool.or_self,
        Bool.false_eq_true, if_false, hd, if_true]
      exact finish _ behind

theorem head?_tail_append (n : Numeral) (hrest : Delimited rest) :
    ∀ ch ∈ (n.tail ++ rest).head?, isDigit ch = false := by
  obtain ⟨whole, fraction, e⟩ := n
  intro ch hch
  cases fraction with
  | some ds =>
    cases hch
    decide
  | none =>
    cases e with
    | some e =>
      cases hch
      decide
    | none => exact (not_number_of_delimited hrest ch hch).1

/-- Behind the whole part of a number there may be a fraction, and then an exponent. -/
theorem passes_tail {n : Numeral} (hn : n.WellFormed) (hpoint : ∀ ds ∈ n.fraction, ds ≠ [])
    (hrest : Delimited rest) (h : c.rest = n.tail ++ rest) :
    Passes rest
      (if c.peek = some '.' then
        if (c.skip.skipWhile isDigit).rest.length = c.skip.rest.length then
          (c.skip.skipWhile isDigit).failAtNext .badNumber
        else skipExponent (c.skip.skipWhile isDigit)
      else skipExponent c) := by
  obtain ⟨whole, fraction, e⟩ := n
  have ends := not_number_of_delimited hrest
  cases fraction with
  | none =>
    have exponent : c.rest = Numeral.markedExponent e ++ rest := by
      rw [h]
      cases e <;> rfl
    -- the point would have to be in the exponent or in what follows the number
    have noPoint : c.peek ≠ some '.' := by
      intro point
      rw [peek, exponent] at point
      cases e with
      | none => exact (ends '.' point).2.1 rfl
      | some e => exact absurd (Option.some.inj point) (by decide)
    rw [if_neg noPoint]
    exact passes_skipExponent hn.exponent hrest exponent
  | some ds =>
    have point : c.rest = '.' :: (ds ++ (Numeral.markedExponent e ++ rest)) := by
      rw [h]
      cases e <;> simp [Numeral.tail, Numeral.markedExponent]
    have digits : c.skip.rest = ds ++ (Numeral.markedExponent e ++ rest) := rest_skip point
    have noDigit : ∀ ch ∈ (Numeral.markedExponent e ++ rest).head?, isDigit ch = false :=
      head?_tail_append ⟨whole, none, e⟩ hrest
    have exponent : (c.skip.skipWhile isDigit).rest = Numeral.markedExponent e ++ rest :=
      rest_skipDigits (hn.fraction ds rfl) noDigit digits
    have shorter : (c.skip.skipWhile isDigit).rest.length ≠ c.skip.rest.length := by
      have := List.length_pos_iff.mpr (hpoint ds rfl)
      simp only [exponent, digits, List.length_append]
      omega
    rw [if_pos (peek_of_rest point), if_neg shorter]
    exact passes_skipExponent hn.exponent hrest exponent

/-- A number is skipped with all its parts. -/
theorem passes_skipNumber {n : Numeral} (hn : n.WellFormed) (hpoint : ∀ ds ∈ n.fraction, ds ≠ [])
    (hrest : Delimited rest) (h : c.rest = n.chars ++ rest) : Passes rest (skipNumber c) := by
  obtain ⟨d, ds, whole, hd, hds⟩ := hn.whole_eq
  have ends := head?_tail_append n hrest
  have head : c.rest = d :: (ds ++ (n.tail ++ rest)) := by
    rw [h, Numeral.chars, whole, List.append_assoc, List.cons_append]
  rw [skipNumber]
  simp only [peek_of_rest head]
  by_cases zero : d = '0'
  · -- a zero is the whole part, and no digit follows it
    have lone : ds = [] := by
      have := hn.zero (by rw [whole, zero]; rfl)
      rw [whole] at this
      exact (List.cons.inj this).2
    have behind : c.skip.rest = n.tail ++ rest := by
      rw [rest_skip head, lone, List.nil_append]
    rw [if_pos zero]
    rcases peeked : c.skip.peek with _ | e
    · exact passes_tail hn hpoint hrest behind
    · rw [peek, behind] at peeked
      simp only [ends e peeked, Bool.false_eq_true, if_false]
      exact passes_tail hn hpoint hrest behind
  · have hd' : isDigit d = true := hd
    have behind : (c.skipWhile isDigit).rest = n.tail ++ rest := by
      refine rest_skipDigits hn.digits ends ?_
      rw [h, Numeral.chars, List.append_assoc]
    rw [if_neg zero, if_pos hd']
    exact passes_tail hn hpoint hrest behind

/-! ### Values -/

theorem isSpace_of_isDigit {ch : Char} (h : isDigit ch = true) : isSpace ch = false := by
  have space : ch ≠ ' ' := ne_of_isDigit h (by decide)
  have line : ch ≠ '\n' := ne_of_isDigit h (by decide)
  have tab : ch ≠ '\t' := ne_of_isDigit h (by decide)
  have back : ch ≠ '\r' := ne_of_isDigit h (by decide)
  simp [isSpace, space, line, tab, back]

/-- A literal begins with a character that is neither a blank nor the end of a list. -/
theorem literalChars_eq_cons (d : Data) :
    ∃ ch cs, d.literalChars = ch :: cs ∧ isSpace ch = false ∧ ch ≠ ']' := by
  cases d with
  | null => exact ⟨'n', _, rfl, by decide, by decide⟩
  | bool b =>
    cases b with
    | true => exact ⟨'t', _, rfl, by decide, by decide⟩
    | false => exact ⟨'f', _, rfl, by decide, by decide⟩
  | num n =>
    obtain ⟨d, ds, whole, hd, -⟩ := n.wellFormed_numeral.whole_eq
    rw [Data.literalChars, n.literal_eq]
    cases n.isNegative with
    | true => exact ⟨'-', _, rfl, by decide, by decide⟩
    | false =>
      rw [if_neg Bool.false_ne_true, List.nil_append, Numeral.chars, whole]
      exact ⟨d, _, rfl, isSpace_of_isDigit hd, ne_of_isDigit hd (by decide)⟩
  | str s => exact ⟨'"', _, rfl, by decide, by decide⟩
  | list items => exact ⟨'[', _, rfl, by decide, by decide⟩
  | record fields => exact ⟨'{', _, rfl, by decide, by decide⟩

theorem passes_quote {s : String} (h : c.rest = quote s ++ rest) :
    Passes rest (skipString (c.rest.length + 1) c.skip) := by
  rw [quote_append] at h
  refine passes_skipString s.toList ?_ (rest_skip h)
  have := length_le_flatMap_escapeChar s.toList
  rw [h, List.length_cons, List.length_append]
  omega

theorem passes_number {n : Number} {fuel : Nat} (hrest : Delimited rest)
    (h : c.rest = n.literal ++ rest) : Passes rest (skipPart (fuel + 1) .value c) := by
  have wellFormed := n.wellFormed_numeral
  rw [n.literal_eq] at h
  obtain ⟨d, ds, whole, hd, -⟩ := wellFormed.whole_eq
  cases sign : n.isNegative with
  | true =>
    rw [sign, if_pos rfl, List.cons_append, List.nil_append, List.cons_append] at h
    have behind : c.skip.rest = n.numeral.chars ++ rest := rest_skip h
    simp only [skipPart, skipSpace_of_rest h (by decide), peek_of_rest h]
    exact passes_skipNumber wellFormed n.fraction_ne_nil hrest behind
  | false =>
    rw [sign, if_neg Bool.false_ne_true, List.nil_append] at h
    have head : c.rest = d :: (ds ++ n.numeral.tail ++ rest) := by
      rw [h, Numeral.chars, whole]
      rfl
    have null : d ≠ 'n' := ne_of_isDigit hd (by decide)
    have true' : d ≠ 't' := ne_of_isDigit hd (by decide)
    have false' : d ≠ 'f' := ne_of_isDigit hd (by decide)
    have minus : d ≠ '-' := ne_of_isDigit hd (by decide)
    simp only [skipPart, skipSpace_of_rest head (isSpace_of_isDigit hd), peek_of_rest head, null,
      true', false', minus, isDigit_eq, hd, if_false, if_true]
    exact passes_skipNumber wellFormed n.fraction_ne_nil hrest h

theorem delimited_itemsLeft (items : List Data) (rest : List Char) :
    Delimited (Data.itemsLeft false items ++ ']' :: rest) := by
  cases items with
  | nil => exact delimited_cons (by decide) rest
  | cons d ds => exact delimited_cons (by decide) _

theorem delimited_fieldsLeft (fields : List (String × Data)) (rest : List Char) :
    Delimited (Data.fieldsLeft false fields ++ '}' :: rest) := by
  cases fields with
  | nil => exact delimited_cons (by decide) rest
  | cons f fs => exact delimited_cons (by decide) _

mutual

/-- A literal is skipped in no more steps than it has characters. -/
theorem passes_literal : ∀ (d : Data) {fuel : Nat} {c : Cursor} {rest : List Char},
    d.literalChars.length ≤ fuel → Delimited rest → c.rest = d.literalChars ++ rest →
    Passes rest (skipPart fuel .value c)
  | d, 0, c, rest, enough, hrest, h => by
    -- no literal is empty, so there is a step left for it
    obtain ⟨ch, cs, head, -⟩ := literalChars_eq_cons d
    rw [head] at enough
    cases enough
  | .null, fuel + 1, c, rest, enough, hrest, h => by
    simp only [skipPart, skipSpace_of_rest h (by decide), peek_of_rest h, if_true]
    exact passes_wordRest ['u', 'l', 'l'] (rest_skip h)
  | .bool true, fuel + 1, c, rest, enough, hrest, h => by
    simp only [skipPart, skipSpace_of_rest h (by decide), peek_of_rest h]
    exact passes_wordRest ['r', 'u', 'e'] (rest_skip h)
  | .bool false, fuel + 1, c, rest, enough, hrest, h => by
    simp only [skipPart, skipSpace_of_rest h (by decide), peek_of_rest h]
    exact passes_wordRest ['a', 'l', 's', 'e'] (rest_skip h)
  | .num n, fuel + 1, c, rest, enough, hrest, h => passes_number hrest h
  | .str s, fuel + 1, c, rest, enough, hrest, h => by
    simp only [skipPart, skipSpace_of_rest h (by decide), peek_of_rest h]
    exact passes_quote h
  | .list items, fuel + 1, c, rest, enough, hrest, h => by
    have behind : c.skip.rest = Data.itemsLeft true items ++ ']' :: rest := by
      refine (rest_skip h).trans ?_
      simp [Data.itemsLeft_true]
    have enough : (Data.itemsLeft true items).length < fuel := by
      simp only [Data.literalChars, List.length_cons, List.length_append] at enough
      rw [Data.itemsLeft_true]
      omega
    simp only [skipPart, skipSpace_of_rest h (by decide), peek_of_rest h]
    exact passes_itemsLeft items true enough behind
  | .record fields, fuel + 1, c, rest, enough, hrest, h => by
    have behind : c.skip.rest = Data.fieldsLeft true fields ++ '}' :: rest := by
      refine (rest_skip h).trans ?_
      simp [Data.fieldsLeft_true]
    have enough : (Data.fieldsLeft true fields).length < fuel := by
      simp only [Data.literalChars, List.length_cons, List.length_append] at enough
      rw [Data.fieldsLeft_true]
      omega
    simp only [skipPart, skipSpace_of_rest h (by decide), peek_of_rest h]
    exact passes_fieldsLeft fields true enough behind

theorem passes_itemsLeft : ∀ (items : List Data) (first : Bool) {fuel : Nat} {c : Cursor}
    {rest : List Char}, (Data.itemsLeft first items).length < fuel →
    c.rest = Data.itemsLeft first items ++ ']' :: rest →
    Passes rest (skipPart fuel (.items first) c)
  | [], first, fuel, c, rest, enough, h => by
    obtain ⟨fuel, rfl⟩ : ∃ n, fuel = n + 1 := ⟨fuel - 1, by omega⟩
    have closing : c.rest = ']' :: rest := h
    simp only [skipPart, skipSpace_of_rest closing (by decide), peek_of_rest closing, if_true]
    exact passes_ok (rest_skip closing)
  | d :: ds, first, fuel, c, rest, enough, h => by
    obtain ⟨fuel, rfl⟩ : ∃ n, fuel = n + 1 := ⟨fuel - 1, by omega⟩
    obtain ⟨ch, cs, head, space, notEnd⟩ := literalChars_eq_cons d
    rw [Data.itemsLeft, Data.itemsChars_cons, List.append_assoc, List.append_assoc] at h
    rw [Data.itemsLeft, Data.itemsChars_cons, List.length_append, List.length_append, head,
      List.length_cons] at enough
    -- the bracket and the comma differ only in what stands before the item
    have finish : ∀ c : Cursor,
        c.rest = d.literalChars ++ (Data.itemsLeft false ds ++ ']' :: rest) →
        Passes rest (skipPart fuel .value c >>= skipPart fuel (.items false)) := fun c left => by
      refine (passes_literal d ?_ (delimited_itemsLeft ds rest) left).bind fun c left => ?_
      · rw [head, List.length_cons]
        omega
      · exact passes_itemsLeft ds false (by omega) left
    cases first with
    | true =>
      rw [if_pos rfl, List.nil_append] at h
      have begins : c.rest = ch :: (cs ++ (Data.itemsLeft false ds ++ ']' :: rest)) := by
        rw [h, head, List.cons_append]
      simp only [skipPart, skipSpace_of_rest begins space, peek_of_rest begins, notEnd, if_false,
        if_true]
      exact finish c h
    | false =>
      rw [if_neg Bool.false_ne_true, List.singleton_append] at h
      simp only [skipPart, skipSpace_of_rest h (by decide), peek_of_rest h]
      exact finish c.skip (rest_skip h)

theorem passes_fieldsLeft : ∀ (fields : List (String × Data)) (first : Bool) {fuel : Nat}
    {c : Cursor} {rest : List Char}, (Data.fieldsLeft first fields).length < fuel →
    c.rest = Data.fieldsLeft first fields ++ '}' :: rest →
    Passes rest (skipPart fuel (.fields first) c)
  | [], first, fuel, c, rest, enough, h => by
    obtain ⟨fuel, rfl⟩ : ∃ n, fuel = n + 1 := ⟨fuel - 1, by omega⟩
    have closing : c.rest = '}' :: rest := h
    simp only [skipPart, skipSpace_of_rest closing (by decide), peek_of_rest closing, if_true]
    exact passes_ok (rest_skip closing)
  | (k, d) :: fs, first, fuel, c, rest, enough, h => by
    obtain ⟨fuel, rfl⟩ : ∃ n, fuel = n + 1 := ⟨fuel - 1, by omega⟩
    rw [Data.fieldsLeft, Data.fieldsChars_cons, List.append_assoc, List.append_assoc,
      List.cons_append, List.append_assoc] at h
    rw [Data.fieldsLeft, Data.fieldsChars_cons, List.length_append, List.length_append,
      List.length_cons, List.length_append] at enough
    -- a field begins with its key, behind a comma unless it is the first one
    obtain ⟨ch, c', blank, begins, notEnd, comma, same, key⟩ : ∃ ch c', c.skipSpace = c ∧
        c.peek = some ch ∧ ch ≠ '}' ∧ (!first && decide (ch ≠ ',')) = false ∧
        (if first then c else c.skip.skipSpace) = c' ∧ c'.rest = quote k ++
          ':' :: (d.literalChars ++ (Data.fieldsLeft false fs ++ '}' :: rest)) := by
      cases first with
      | true =>
        rw [if_pos rfl, List.nil_append] at h
        exact ⟨'"', c, skipSpace_of_rest h (by decide), peek_of_rest h, by decide, rfl, rfl, h⟩
      | false =>
        rw [if_neg Bool.false_ne_true, List.singleton_append] at h
        have key := rest_skip h
        exact ⟨',', c.skip, skipSpace_of_rest h (by decide), peek_of_rest h, by decide, rfl,
          skipSpace_of_rest key (by decide), key⟩
    simp only [skipPart, blank, begins, notEnd, comma, same, peek_of_rest key, ne_eq,
      not_true_eq_false, Bool.false_eq_true, if_false]
    refine (passes_quote key).bind fun c left => ?_
    simp only [skipSpace_of_rest left (by decide), peek_of_rest left, not_true_eq_false, if_false]
    refine (passes_literal d (by omega) (delimited_fieldsLeft fs rest) (rest_skip left)).bind
      fun c left => ?_
    exact passes_fieldsLeft fs false (by omega) left

end

/-- A value is skipped up to its end, whatever it is. -/
theorem passes_skipValue {d : Data} (hrest : Delimited rest) (h : c.rest = d.literalChars ++ rest) :
    Passes rest (skipValue c) := by
  refine passes_literal d ?_ hrest h
  rw [h, List.length_append]
  omega

end Json
end Frontmatter
