/-
Frontmatter/Proofs/Json/Text.lean

Strings and words of a JSON text, read where they stand.

What a reader does depends on the characters that are left, and not on the line and the column.
So the statements here fix the rest of the text before and after: the reader ends well, it gives
the value, and it leaves the rest (`Reads`), or it has no value and leaves the rest (`Passes`).

A string in quotes is read back as the string, whatever its characters are and whatever follows
it (`reads_string`); and a reader that only skips it stops at the same place
(`passes_skipString`).
-/
import Frontmatter.Json.Reader
import Frontmatter.Proofs.Data.Literal

namespace Frontmatter.Json

variable {α β : Type} {a : α} {c : Cursor} {ch : Char} {rest more : List Char} {s : List Char}

/-! ### The characters that are left -/

namespace Cursor

theorem peek_of_rest (h : c.rest = ch :: more) : c.peek = some ch := by
  rw [peek, h]
  rfl

theorem rest_skip (h : c.rest = ch :: more) : c.skip.rest = more := by
  rw [skip, h]
  split
  · next h' => cases h'
  · next h' =>
    cases h'
    split
    · rfl
    · rfl

theorem skipWhile_of_head {p : Char → Bool} (h : ∀ ch ∈ c.rest.head?, p ch = false) :
    c.skipWhile p = c := by
  rw [skipWhile]
  rcases left : c.rest with _ | ⟨ch, more⟩
  · rfl
  · rw [left] at h
    rw [skipWhile.go, h ch rfl]
    rfl

/-- Only the characters of the class are skipped, and all of them. -/
theorem rest_skipWhile {p : Char → Bool} (hs : ∀ ch ∈ s, p ch = true)
    (hrest : ∀ ch ∈ rest.head?, p ch = false) (h : c.rest = s ++ rest) :
    (c.skipWhile p).rest = rest := by
  induction s generalizing c with
  | nil =>
    rw [List.nil_append] at h
    rw [skipWhile_of_head (by rwa [h]), h]
  | cons ch s ih =>
    obtain ⟨hch, hs⟩ := List.forall_mem_cons.mp hs
    rw [List.cons_append] at h
    have next := rest_skip h
    have step : c.skipWhile p = c.skip.skipWhile p := by
      rw [skipWhile, skipWhile, h, next, skipWhile.go, if_pos hch]
    rw [step]
    exact ih hs next

theorem skipSpace_of_rest (h : c.rest = ch :: more) (hch : isSpace ch = false) :
    c.skipSpace = c := by
  refine skipWhile_of_head fun d hd => ?_
  rw [h] at hd
  cases hd
  exact hch

end Cursor

open Cursor

/-! ### Readers that end well -/

/-- The step ends well and leaves the rest. -/
def Passes (rest : List Char) (x : Except Problem Cursor) : Prop := ∃ c, x = .ok c ∧ c.rest = rest

/-- The step ends well with the value and leaves the rest. -/
def Reads (a : α) (rest : List Char) (x : Except Problem (α × Cursor)) : Prop :=
  ∃ c, x = .ok (a, c) ∧ c.rest = rest

/-- What a step comes to that goes on where another one has stopped. -/
theorem Passes.bind {x : Except Problem Cursor} {f : Cursor → Except Problem β}
    {motive : Except Problem β → Prop} (h : Passes rest x)
    (hf : ∀ c, c.rest = rest → motive (f c)) : motive (x >>= f) := by
  obtain ⟨c, rfl, left⟩ := h
  exact hf c left

theorem Reads.bind {x : Except Problem (α × Cursor)} {f : α × Cursor → Except Problem β}
    {motive : Except Problem β → Prop} (h : Reads a rest x)
    (hf : ∀ c, c.rest = rest → motive (f (a, c))) : motive (x >>= f) := by
  obtain ⟨c, rfl, left⟩ := h
  exact hf c left

theorem passes_ok (h : c.rest = rest) : Passes rest (.ok c) := ⟨c, rfl, h⟩

theorem reads_ok (a : α) (h : c.rest = rest) : Reads a rest (.ok (a, c)) := ⟨c, rfl, h⟩

/-! ### Escapes -/

theorem shortEscape?_of_mem : ∀ p ∈ escapeLetters, shortEscape? p.1 = some p.2 := by decide

theorem shortEscape?_u : shortEscape? 'u' = none := rfl

theorem backslash_ne_quote : '\\' ≠ '"' := by decide

theorem hexValue?_hexDigit : ∀ n < 16, hexValue? (hexDigit n) = some n := by decide

theorem reads_hexEscape {x y : Nat} (hx : x < 16) (hy : y < 16)
    (h : c.rest = '0' :: '0' :: hexDigit x :: hexDigit y :: rest) :
    Reads (x * 16 + y) rest (hexEscape c) := by
  have enough : ¬ byteLength c.rest < 4 := by
    have := Char.utf8Size_pos (hexDigit x)
    have := Char.utf8Size_pos (hexDigit y)
    have := Char.utf8Size_pos '0'
    simp only [h, byteLength]
    omega
  have zero : hexValue? '0' = some 0 := by decide
  have digits : (c.rest.take 4).mapM hexValue? = some [0, 0, x, y] := by
    simp [h, zero, hexValue?_hexDigit x hx, hexValue?_hexDigit y hy]
  rw [hexEscape, if_neg enough, digits]
  simp only [List.foldl_cons, List.foldl_nil, Nat.zero_mul, Nat.zero_add]
  exact reads_ok _ (by rw [h]; rfl)

theorem reads_unicodeEscape {n : Nat} (hn : n < 32)
    (h : c.rest = '0' :: '0' :: hexDigit (n / 16) :: hexDigit (n % 16) :: rest) :
    Reads (Char.ofNat n) rest (unicodeEscape c) := by
  have number : n / 16 * 16 + n % 16 = n := by omega
  refine (reads_hexEscape (by omega) (by omega) h).bind fun c left => ?_
  -- the number is far below those that come in pairs
  have notLow : (decide (0xDC00 ≤ n) && decide (n ≤ 0xDFFF)) = false := by simp; omega
  have notHigh : (decide (n < 0xD800) || decide (0xDBFF < n)) = true := by simp; omega
  simp only [number, notLow, notHigh, Bool.false_eq_true, if_false, if_true]
  exact reads_ok _ left

/-! ### Strings -/

/-- A string is read up to its closing quote, character by character. -/
theorem reads_stringRest (s : List Char) : ∀ {fuel : Nat} {c : Cursor}, s.length < fuel →
    c.rest = s.flatMap escapeChar ++ '"' :: rest → Reads s rest (stringRest fuel c) := by
  induction s with
  | nil =>
    intro fuel c enough h
    obtain ⟨fuel, rfl⟩ : ∃ n, fuel = n + 1 := ⟨fuel - 1, by omega⟩
    rw [List.flatMap_nil, List.nil_append] at h
    simp only [stringRest, h, if_true]
    exact reads_ok [] (rest_skip h)
  | cons ch s ih =>
    intro fuel c enough h
    obtain ⟨fuel, rfl⟩ : ∃ n, fuel = n + 1 := ⟨fuel - 1, by omega⟩
    have enough : s.length < fuel := by simpa using enough
    rw [List.flatMap_cons, List.append_assoc] at h
    have escaped := escaped_escapeChar ch
    generalize escapeChar ch = cs at h escaped
    cases escaped with
    | plain quote backslash visible =>
      have visible : ¬ ch.toNat < 32 := by omega
      rw [List.singleton_append] at h
      simp only [stringRest, h, if_neg quote, if_neg backslash, if_neg visible]
      refine (ih enough (rest_skip h)).bind fun c left => ?_
      exact reads_ok _ left
    | letter stands =>
      rw [List.cons_append, List.singleton_append] at h
      have behind := rest_skip h
      simp only [stringRest, h, if_neg backslash_ne_quote, if_true, peek_of_rest behind,
        shortEscape?_of_mem _ stands]
      refine (ih enough (rest_skip behind)).bind fun c left => ?_
      exact reads_ok _ left
    | digits control =>
      have behind := rest_skip h
      simp only [stringRest, h, List.cons_append, if_neg backslash_ne_quote, if_true,
        peek_of_rest behind, shortEscape?_u]
      refine (reads_unicodeEscape control (rest_skip behind)).bind fun c left => ?_
      rw [Char.ofNat_toNat]
      refine (ih enough left).bind fun c left => ?_
      exact reads_ok _ left

theorem reads_string (s : String) (h : c.rest = quote s ++ rest) : Reads s rest (string c) := by
  rw [quote_append] at h
  have enough : s.toList.length < c.rest.length + 1 := by
    have := length_le_flatMap_escapeChar s.toList
    rw [h, List.length_cons, List.length_append]
    omega
  refine (reads_stringRest s.toList enough (rest_skip h)).bind fun c left => ?_
  simp only [String.ofList_toList]
  exact reads_ok s left

/-- A string that is skipped is skipped up to its closing quote. -/
theorem passes_skipString (s : List Char) : ∀ {fuel : Nat} {c : Cursor}, s.length < fuel →
    c.rest = s.flatMap escapeChar ++ '"' :: rest → Passes rest (skipString fuel c) := by
  induction s with
  | nil =>
    intro fuel c enough h
    obtain ⟨fuel, rfl⟩ : ∃ n, fuel = n + 1 := ⟨fuel - 1, by omega⟩
    rw [List.flatMap_nil, List.nil_append] at h
    simp only [skipString, h, if_true]
    exact passes_ok (rest_skip h)
  | cons ch s ih =>
    intro fuel c enough h
    obtain ⟨fuel, rfl⟩ : ∃ n, fuel = n + 1 := ⟨fuel - 1, by omega⟩
    have enough : s.length < fuel := by simpa using enough
    rw [List.flatMap_cons, List.append_assoc] at h
    have escaped := escaped_escapeChar ch
    generalize escapeChar ch = cs at h escaped
    cases escaped with
    | plain quote backslash visible =>
      have visible : ¬ ch.toNat < 32 := by omega
      rw [List.singleton_append] at h
      simp only [skipString, h, if_neg quote, if_neg backslash, if_neg visible]
      exact ih enough (rest_skip h)
    | letter stands =>
      rw [List.cons_append, List.singleton_append] at h
      have behind := rest_skip h
      simp only [skipString, h, if_neg backslash_ne_quote, if_true, peek_of_rest behind,
        shortEscape?_of_mem _ stands, Option.isSome_some]
      exact ih enough (rest_skip behind)
    | digits control =>
      have behind := rest_skip h
      simp only [skipString, h, List.cons_append, if_neg backslash_ne_quote, if_true,
        peek_of_rest behind, shortEscape?_u, Option.isSome_none, Bool.false_eq_true, if_false]
      refine (reads_hexEscape (by omega) (by omega) (rest_skip behind)).bind fun c left => ?_
      exact ih enough left

/-! ### Words -/

theorem passes_wordRest (word : List Char) : ∀ {c : Cursor}, c.rest = word ++ rest →
    Passes rest (wordRest word c) := by
  induction word with
  | nil =>
    intro c h
    exact passes_ok h
  | cons ch word ih =>
    intro c h
    rw [List.cons_append] at h
    simp only [wordRest, peek_of_rest h, if_true]
    exact ih (rest_skip h)

end Frontmatter.Json
