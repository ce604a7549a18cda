/-
Frontmatter/Proofs/Text/WordChar.lean

Two notions of what a name is made of, and how far they agree.

The check of an export name (`isNameStart`, `isNamePart`) asks for letters and
numbers of any script, in the wide sense of the alphabetic and the numeric
characters.  The words of a module (`isWordStart`, `isWordPart`) are made of
identifier characters, which are fewer.  Below 128 the two agree
(`isWordStart_of_isNameStart`, `isWordPart_of_isNamePart`).  Above they do not,
but a character of a name is at least never a blank and never ends a line
(`not_isBlank_of_isNamePart`, `not_isLineEnd_of_isNamePart`).

The classes beyond 128 are tables of ranges.  That one table lies inside
another is checked by one walk over both (`covers`).
-/
import Frontmatter.Document.Renderer
import Frontmatter.Esm.Token

namespace Frontmatter

/-! ### Characters below 128 -/

/-- What holds of the first 128 characters holds of every character below 128. -/
theorem forall_ascii {p : Char → Prop} (h : ∀ n < 128, p (Char.ofNat n)) {c : Char}
    (hc : c.toNat < 128) : p c := by
  have hp := h c.toNat hc
  rwa [Char.ofNat_toNat] at hp

/-- What holds of the characters of a list, one by one. -/
theorem forall_of_all {p : Char → Prop} [DecidablePred p] {cs : List Char}
    (h : cs.all (fun c => decide (p c)) = true) : ∀ c ∈ cs, p c := by
  intro c hc
  exact of_decide_eq_true (List.all_eq_true.mp h c hc)

theorem not_isDigit_of_le {c : Char} (hc : 128 ≤ c.toNat) : c.isDigit = false := by
  have hv : c.val.toNat = c.toNat := rfl
  simp only [Char.isDigit, Bool.and_eq_false_iff, decide_eq_false_iff_not]
  right
  rw [UInt32.le_iff_toNat_le]
  have : (57 : UInt32).toNat = 57 := rfl
  show ¬ c.val.toNat ≤ (57 : UInt32).toNat
  omega

/-! ### Ranges inside ranges -/

namespace Text

/-- Every range of the second table lies in a range of the first one; both
tables are increasing. -/
def covers : List (Nat × Nat) → List (Nat × Nat) → Bool
  | [], rs => rs.isEmpty
  | s :: ss, rs => covers ss (rs.dropWhile fun r => s.1 ≤ r.1 && r.2 ≤ s.2)

theorem inRanges_cons (r : Nat × Nat) (rs : List (Nat × Nat)) (c : Char) :
    inRanges (r :: rs) c = (r.1 ≤ c.toNat && c.toNat ≤ r.2 || inRanges rs c) := rfl

theorem inRanges_append (rs ss : List (Nat × Nat)) (c : Char) :
    inRanges (rs ++ ss) c = (inRanges rs c || inRanges ss c) := by
  simp [inRanges]

/-- No character is in ranges that begin after it. -/
theorem inRanges_eq_false_of_lt {n : Nat} {rs : List (Nat × Nat)} (h : rs.all (n ≤ ·.1) = true)
    {c : Char} (hc : c.toNat < n) : inRanges rs c = false := by
  simp only [inRanges, List.any_eq_false, Bool.and_eq_true, decide_eq_true_eq, not_and]
  intro r hr hle
  have := List.all_eq_true.mp h r hr
  simp only [decide_eq_true_eq] at this
  omega

theorem isAlphabetic_ascii {c : Char} (hc : c.toNat < 128) :
    isAlphabetic c = inRanges [(65, 90), (97, 122)] c := by
  have tail : inRanges (alphabeticRanges.drop 2) c = false :=
    inRanges_eq_false_of_lt (by decide +kernel) hc
  show inRanges (alphabeticRanges.take 2 ++ alphabeticRanges.drop 2) c = _
  rw [inRanges_append, tail, Bool.or_false]
  rfl

theorem isNumeric_ascii {c : Char} (hc : c.toNat < 128) :
    isNumeric c = inRanges [(48, 57)] c := by
  have tail : inRanges (numericRanges.drop 1) c = false :=
    inRanges_eq_false_of_lt (by decide +kernel) hc
  show inRanges (numericRanges.take 1 ++ numericRanges.drop 1) c = _
  rw [inRanges_append, tail, Bool.or_false]
  rfl

/-- Ranges that lie in one range may be dropped, for a character outside it. -/
theorem inRanges_dropWhile {s : Nat × Nat} {c : Char}
    (hs : ¬ (s.1 ≤ c.toNat ∧ c.toNat ≤ s.2)) (rs : List (Nat × Nat)) :
    inRanges (rs.dropWhile fun r => s.1 ≤ r.1 && r.2 ≤ s.2) c = inRanges rs c := by
  induction rs with
  | nil => rfl
  | cons r rs ih =>
    rw [List.dropWhile_cons]
    split
    · next hr =>
      rw [ih, inRanges_cons]
      simp only [Bool.and_eq_true, decide_eq_true_eq] at hr
      have : ¬ (r.1 ≤ c.toNat ∧ c.toNat ≤ r.2) := by omega
      simp [this]
    · rfl

theorem inRanges_of_covers {ss rs : List (Nat × Nat)} (h : covers ss rs = true) {c : Char}
    (hc : inRanges rs c = true) : inRanges ss c = true := by
  induction ss generalizing rs with
  | nil =>
    rw [covers, List.isEmpty_iff] at h
    rw [h] at hc
    exact hc
  | cons s ss ih =>
    rw [covers] at h
    rw [inRanges_cons]
    by_cases hs : s.1 ≤ c.toNat ∧ c.toNat ≤ s.2
    · simp [hs]
    · rw [ih h (by rw [inRanges_dropWhile hs]; exact hc)]
      simp

/-- What begins an identifier may stand inside it, too. -/
theorem isIdentifierContinue_of_isIdentifierStart {c : Char} (h : isIdentifierStart c = true) :
    isIdentifierContinue c = true :=
  inRanges_of_covers (by decide +kernel) h

end Text

/-! ### Words -/

namespace Esm

theorem isWordPart_of_isWordStart {c : Char} (h : isWordStart c = true) : isWordPart c = true := by
  by_cases hc : c.toNat < 128
  · revert h
    exact forall_ascii (p := fun c => isWordStart c = true → isWordPart c = true)
      (by decide +kernel) hc
  · rw [isWordStart, if_neg hc] at h
    rw [isWordPart, if_neg hc, Text.isIdentifierContinue_of_isIdentifierStart h]
    rfl

end Esm

/-! ### The characters of a name -/

open Esm

theorem isNamePart_of_isNameStart {c : Char} (h : isNameStart c = true) : isNamePart c = true := by
  simp only [isNameStart, Bool.or_eq_true] at h
  simp only [isNamePart, Bool.or_eq_true]
  rcases h with (h | h) | h
  · exact .inl (.inl (.inl h))
  · exact .inl (.inr h)
  · exact .inr h

theorem isWordStart_of_isNameStart {c : Char} (hc : c.toNat < 128) (h : isNameStart c = true) :
    isWordStart c = true := by
  rw [isNameStart, Text.isAlphabetic_ascii hc] at h
  revert h
  exact forall_ascii (p := fun c => (Text.inRanges [(65, 90), (97, 122)] c || c = '_' || c = '$')
    = true → isWordStart c = true) (by decide +kernel) hc

theorem isWordPart_of_isNamePart {c : Char} (hc : c.toNat < 128) (h : isNamePart c = true) :
    isWordPart c = true := by
  rw [isNamePart, Text.isAlphabetic_ascii hc, Text.isNumeric_ascii hc] at h
  revert h
  exact forall_ascii (p := fun c => (Text.inRanges [(65, 90), (97, 122)] c ||
    Text.inRanges [(48, 57)] c || c = '_' || c = '$') = true → isWordPart c = true)
    (by decide +kernel) hc

/-- A run of blanks in the middle of the plane of punctuation. -/
theorem not_isNamePart_of_space {c : Char} (h₁ : '\u2000' ≤ c) (h₂ : c ≤ '\u200a') :
    isNamePart c = false := by
  have h₁' : 8192 ≤ c.toNat := h₁
  have h₂' : c.toNat ≤ 8202 := h₂
  have key : ∀ n < 11, isNamePart (Char.ofNat (8192 + n)) = false := by decide +kernel
  have hn := key (c.toNat - 8192) (by omega)
  rwa [show 8192 + (c.toNat - 8192) = c.toNat by omega, Char.ofNat_toNat] at hn

theorem not_isBlank_of_isNamePart {c : Char} (h : isNamePart c = true) : isBlank c = false := by
  refine Bool.eq_false_iff.mpr fun hb => ?_
  simp only [isBlank, Bool.or_eq_true, Bool.and_eq_true, decide_eq_true_eq] at hb
  rcases hb with (((((((((rfl | rfl) | rfl) | rfl) | rfl) | rfl) | rfl) | hb) | rfl) | rfl) | rfl
  case inl.inl.inl.inr =>
    rw [not_isNamePart_of_space hb.1 hb.2] at h
    cases h
  all_goals
    revert h
    decide +kernel

theorem not_isLineEnd_of_isNamePart {c : Char} (h : isNamePart c = true) : isLineEnd c = false := by
  refine Bool.eq_false_iff.mpr fun hb => ?_
  simp only [isLineEnd, Bool.or_eq_true, decide_eq_true_eq] at hb
  rcases hb with ((rfl | rfl) | rfl) | rfl
  all_goals
    revert h
    decide +kernel

end Frontmatter
