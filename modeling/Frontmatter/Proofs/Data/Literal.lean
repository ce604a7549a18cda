/-
Frontmatter/Proofs/Data/Literal.lean

How a literal is built from characters.

A character inside quotes is written in one of three ways (`Escaped`): as itself, as a letter
behind a backslash, or as four hexadecimal digits.  A list is written as its first item and the
items that are left, each with a comma in front (`Data.itemsChars_cons`), and so is a record.
These are the shapes that a reader of literals meets, whatever language it reads.
-/
import Frontmatter.Data.Literal

namespace Frontmatter

/-! ### Strings -/

/-- The letters that stand for a character behind a backslash. -/
def escapeLetters : List (Char × Char) :=
  [('"', '"'), ('\\', '\\'), ('n', '\n'), ('t', '\t'), ('r', '\r'), ('b', '\x08'), ('f', '\x0c')]

/-- The three ways in which a character is written inside quotes. -/
inductive Escaped (c : Char) : List Char → Prop where
  | plain (quote : c ≠ '"') (backslash : c ≠ '\\') (visible : 32 ≤ c.toNat) : Escaped c [c]
  | letter {letter : Char} (stands : (letter, c) ∈ escapeLetters) : Escaped c ['\\', letter]
  | digits (control : c.toNat < 32) :
      Escaped c ['\\', 'u', '0', '0', hexDigit (c.toNat / 16), hexDigit (c.toNat % 16)]

theorem escaped_escapeChar (c : Char) : Escaped c (escapeChar c) := by
  by_cases h₁ : c = '"'
  · subst h₁
    exact .letter (by decide)
  by_cases h₂ : c = '\\'
  · subst h₂
    exact .letter (by decide)
  by_cases h₃ : 32 ≤ c.toNat
  · have plain : escapeChar c = [c] := by simp [escapeChar, h₁, h₂, h₃]
    rw [plain]
    exact .plain h₁ h₂ h₃
  by_cases h₄ : c = '\n'
  · subst h₄
    exact .letter (by decide)
  by_cases h₅ : c = '\t'
  · subst h₅
    exact .letter (by decide)
  by_cases h₆ : c = '\r'
  · subst h₆
    exact .letter (by decide)
  by_cases h₇ : c.toNat = 8
  · obtain rfl : c = '\x08' := Char.toNat_inj.mp h₇
    exact .letter (by decide)
  by_cases h₈ : c.toNat = 12
  · obtain rfl : c = '\x0c' := Char.toNat_inj.mp h₈
    exact .letter (by decide)
  have digits : escapeChar c
      = ['\\', 'u', '0', '0', hexDigit (c.toNat / 16), hexDigit (c.toNat % 16)] := by
    simp [escapeChar, h₁, h₂, h₃, h₄, h₅, h₆, h₇, h₈]
  rw [digits]
  exact .digits (by omega)

theorem escapeChar_ne_nil (c : Char) : escapeChar c ≠ [] := by
  have escaped := escaped_escapeChar c
  generalize escapeChar c = cs at escaped
  cases escaped with
  | _ => exact List.cons_ne_nil _ _

theorem length_le_flatMap_escapeChar (s : List Char) :
    s.length ≤ (s.flatMap escapeChar).length := by
  induction s with
  | nil => simp
  | cons c s ih =>
    have := List.length_pos_iff.mpr (escapeChar_ne_nil c)
    simp only [List.flatMap_cons, List.length_cons, List.length_append]
    omega

theorem quote_append (s : String) (rest : List Char) :
    quote s ++ rest = '"' :: (s.toList.flatMap escapeChar ++ '"' :: rest) := by
  simp [quote]

/-! ### Lists and records -/

namespace Data

/-- The items that are left, with a comma in front unless the list has just been opened. -/
def itemsLeft (first : Bool) : List Data → List Char
  | [] => []
  | d :: ds => (if first then [] else [',']) ++ itemsChars (d :: ds)

theorem itemsChars_cons (d : Data) (ds : List Data) :
    itemsChars (d :: ds) = d.literalChars ++ itemsLeft false ds := by
  cases ds with
  | nil => simp [itemsChars, itemsLeft]
  | cons d' ds => rfl

theorem itemsLeft_true (items : List Data) : itemsLeft true items = itemsChars items := by
  cases items <;> rfl

/-- The fields that are left, with a comma in front unless the record has just been opened. -/
def fieldsLeft (first : Bool) : List (String × Data) → List Char
  | [] => []
  | f :: fs => (if first then [] else [',']) ++ fieldsChars (f :: fs)

theorem fieldsChars_cons (k : String) (d : Data) (fs : List (String × Data)) :
    fieldsChars ((k, d) :: fs) = quote k ++ ':' :: (d.literalChars ++ fieldsLeft false fs) := by
  cases fs with
  | nil => simp [fieldsChars, fieldsLeft]
  | cons f fs => rfl

theorem fieldsLeft_true (fields : List (String × Data)) :
    fieldsLeft true fields = fieldsChars fields := by
  cases fields <;> rfl

end Data
end Frontmatter
