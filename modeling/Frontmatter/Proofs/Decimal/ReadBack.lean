/-
Frontmatter/Proofs/Decimal/ReadBack.lean

The texts of numbers, read back.

A double is printed as a numeral, and reading a numeral as a decimal gives its exact
value (`unsigned?_chars`).  That value rounds to the double, since the digits are its
shortest ones; so the text of a double reads back as the double, its sign included
(`ofChars?_text`).  The text of a whole number reads back as well (`exponent?_intText`).

The two kinds of texts differ: that of a double has a point or an exponent
(`isFractional_text`), that of a whole number has neither.
-/
import Frontmatter.Proofs.Esm.Magnitude

namespace Frontmatter

open Esm.Lexer

/-! ### Reading numerals -/

theorem isDigits_iff {ds : List Char} :
    isDigits ds = true ↔ ds ≠ [] ∧ ds.all Char.isDigit = true := by
  simp [isDigits]

theorem takeWhile_digits {ds cs : List Char} (hds : ds.all Char.isDigit = true)
    (hcs : ∀ c ∈ cs.head?, c.isDigit = false) :
    (ds ++ cs).takeWhile Char.isDigit = ds ∧ (ds ++ cs).dropWhile Char.isDigit = cs := by
  have all := List.all_eq_true.mp hds
  rw [List.takeWhile_append_of_pos all, List.dropWhile_append_of_pos all]
  cases cs with
  | nil => exact ⟨List.append_nil ds, rfl⟩
  | cons c cs =>
    rw [List.takeWhile_cons_of_neg (by simp [hcs c rfl]), List.append_nil,
      List.dropWhile_cons_of_neg (by simp [hcs c rfl])]
    exact ⟨rfl, rfl⟩

/-- An exponent, with its sign, is read as the power that it stands for. -/
theorem exponent?_exponentChars {e : Bool × List Char}
    (he : e.2 ≠ [] ∧ e.2.all Char.isDigit = true) :
    Decimal.exponent? (Numeral.exponentChars e) = some (Numeral.power e) := by
  obtain ⟨down, ds⟩ := e
  have digits := isDigits_iff.mpr he
  cases down with
  | true =>
    rw [Numeral.exponentChars, Decimal.exponent?, if_pos digits]
    rfl
  | false =>
    obtain ⟨d, ds, rfl⟩ := List.exists_cons_of_ne_nil he.1
    have hd : d.isDigit = true := by
      have := he.2
      rw [List.all_cons, Bool.and_eq_true] at this
      exact this.1
    rw [Numeral.exponentChars, Decimal.exponent?]
    · rw [if_pos digits]
      rfl
    · rintro ds' same
      cases same
      exact absurd hd (by decide)
    · rintro ds' same
      cases same
      exact absurd hd (by decide)

namespace Numeral

/-- An exponent that may be missing, with its mark. -/
def markedExponent : Option (Bool × List Char) → List Char
  | some e => 'e' :: exponentChars e
  | none => []

theorem tail?_markedExponent {e : Option (Bool × List Char)}
    (he : ∀ e' ∈ e, e'.2 ≠ [] ∧ e'.2.all Char.isDigit = true) :
    Decimal.tail? (markedExponent e) = some (powerOf e) := by
  cases e with
  | none => rfl
  | some e =>
    rw [markedExponent, Decimal.tail?, if_pos (by decide)]
    exact exponent?_exponentChars (he e rfl)

theorem head?_markedExponent (e : Option (Bool × List Char)) :
    ∀ c ∈ (markedExponent e).head?, c.isDigit = false := by
  intro c hc
  cases e with
  | none => cases hc
  | some e =>
    cases hc
    decide

/-- What a numeral is read as: its digits, and its power of ten. -/
theorem WellFormed.unsigned?_chars {n : Numeral} (h : n.WellFormed) (negative : Bool) :
    Decimal.unsigned? negative n.chars
      = some ⟨negative, n.digits, powerOf n.exponent - n.places⟩ := by
  obtain ⟨whole, fraction, e⟩ := n
  have tail := tail?_markedExponent h.exponent
  have ends := head?_markedExponent e
  cases fraction with
  | some ds =>
    have chars : Numeral.chars ⟨whole, some ds, e⟩ = whole ++ '.' :: (ds ++ markedExponent e) := by
      cases e <;> rfl
    have point : ∀ c ∈ ('.' :: (ds ++ markedExponent e)).head?, c.isDigit = false := by
      intro c hc
      cases hc
      decide
    obtain ⟨before, rest⟩ := takeWhile_digits h.digits point
    obtain ⟨after, rest'⟩ := takeWhile_digits (h.fraction ds rfl) ends
    have some' : (decide (whole = []) && decide (ds = [])) = false := by simp [h.nonempty]
    rw [chars, Decimal.unsigned?]
    simp only [before, rest, after, rest', some', Bool.false_eq_true, if_false, tail]
    rfl
  | none =>
    have chars : Numeral.chars ⟨whole, none, e⟩ = whole ++ markedExponent e := by cases e <;> rfl
    obtain ⟨before, rest⟩ := takeWhile_digits h.digits ends
    rw [chars, Decimal.unsigned?]
    simp only [before, rest]
    split
    · next point =>
      cases e <;> cases point
    · rw [if_neg h.nonempty, tail]
      simp [Numeral.digits, Numeral.places, appendDigits]

end Numeral

/-! ### Reading doubles -/

namespace Binary64

variable {x : Binary64}

/-- The text of a double reads back as the double. -/
theorem ofChars?_text (x : Binary64) :
    (Decimal.ofChars? x.text).bind Decimal.toBinary64? = some x := by
  have read := x.wellFormed_numeral.unsigned?_chars x.negative
  have back : ofDecimal x.negative x.numeral.digits
      (Numeral.powerOf x.numeral.exponent - x.numeral.places) = some x := by
    rw [ofDecimal_eq_some_iff x.digits_numeral_lt]
    exact ⟨rfl, x.rounds_val_numeral⟩
  have unsigned : Decimal.ofChars? x.text = Decimal.unsigned? x.negative x.numeral.chars := by
    rw [x.text_eq]
    cases x.negative with
    | true => rfl
    | false =>
      obtain ⟨d, ds, e, hd, -⟩ := x.wellFormed_numeral.whole_eq
      rw [Numeral.chars, e, if_neg Bool.false_ne_true, List.nil_append, Decimal.ofChars?]
      rintro rest same
      cases same
      exact absurd hd (by decide)
  rw [unsigned, read]
  exact back

/-! ### Whole numbers and doubles -/

/-- A text with a point or an exponent. -/
def isFractional (cs : List Char) : Bool := cs.any fun c => c = '.' || c = 'e'

/-- The text of a double is no text of a whole number. -/
theorem isFractional_text (x : Binary64) : isFractional x.text = true := by
  have parts : x.numeral.fraction ≠ none ∨ x.numeral.exponent ≠ none := by
    unfold numeral
    simp only
    repeat' split
    all_goals simp
  have tail : isFractional x.numeral.tail = true := by
    generalize x.numeral = n at parts
    obtain ⟨whole, fraction, exponent⟩ := n
    cases fraction <;> cases exponent <;> simp_all [isFractional, Numeral.tail]
  rw [text_eq, Numeral.chars, isFractional, List.any_append, List.any_append]
  rw [isFractional] at tail
  rw [tail, Bool.or_true, Bool.or_true]

theorem isFractional_intText (n : Int) : isFractional (intText n) = false := by
  have digits : isFractional (Nat.toDigits 10 n.natAbs) = false := by
    rw [isFractional, List.any_eq_false]
    intro c hc
    have digit := List.all_eq_true.mp (all_isDigit_toDigits n.natAbs) c hc
    have point : c ≠ '.' := ne_of_isDigit digit (by decide)
    have mark : c ≠ 'e' := ne_of_isDigit digit (by decide)
    simp [point, mark]
  unfold intText
  split
  · rw [isFractional, List.any_cons, ← isFractional, digits]
    rfl
  · exact digits

/-- The text of a whole number reads back as the number. -/
theorem exponent?_intText (n : Int) : Decimal.exponent? (intText n) = some n := by
  rw [← Numeral.exponentChars_exponentOf, exponent?_exponentChars]
  · rw [Numeral.power_exponentOf]
  · exact ⟨Nat.toDigits_ne_nil, all_isDigit_toDigits _⟩

end Binary64
end Frontmatter
