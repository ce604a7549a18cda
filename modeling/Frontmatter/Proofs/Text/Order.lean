/-
Frontmatter/Proofs/Text/Order.lean

The offsets of a text and their locations, in one order.

A location tells the offset it was made from: drop the lines before its line, then the
characters before its column, and what is left is the text from the offset on
(`textFrom_after`).  And a later offset has a later location: the characters in between
either hold a newline, and the line grows, or hold none, and the column does
(`place_after_lt`).

`ofOffset_order_iso` puts the two together, for the offsets at which a character starts
and for the end of the text.  Offsets behind the end have the location of the end.
-/
import Frontmatter.Proofs.Text.Location
import Mathlib.Data.Prod.Lex

namespace Frontmatter

theorem byteLength_ofList (cs : List Char) : (String.ofList cs).utf8ByteSize = byteLength cs := by
  induction cs with
  | nil => rfl
  | cons c cs ih =>
    rw [String.ofList_cons, String.utf8ByteSize_append, String.utf8ByteSize_singleton, ih,
      byteLength_cons]

theorem byteLength_toList (s : String) : byteLength s.toList = s.utf8ByteSize := by
  rw [← byteLength_ofList, String.ofList_toList]

namespace Location

variable {before inside rest : List Char}

/-- The line and the column, ordered by the line first. -/
def place (l : Location) : ℕ ×ₗ ℕ := toLex (l.line, l.column)

/-! ### From an offset to its location -/

theorem line_after (before : List Char) : (after before).line = before.count '\n' + 1 := rfl

theorem ne_newline_of_not_mem (h : '\n' ∉ before) : ∀ c ∈ before, (c != '\n') = true := by
  intro c hc
  apply bne_iff_ne.mpr
  rintro rfl
  exact h hc

/-- Without a newline, the column moves on by the characters. -/
theorem column_after_append (before : List Char) (h : '\n' ∉ inside) :
    (after (before ++ inside)).column = (after before).column + inside.length := by
  have all := ne_newline_of_not_mem (fun hc => h (List.mem_reverse.mp hc))
  show ((before ++ inside).reverse.takeWhile (· != '\n')).length + 1 = _
  rw [List.reverse_append, List.takeWhile_append_of_pos all, List.length_append,
    List.length_reverse]
  show _ = (before.reverse.takeWhile (· != '\n')).length + 1 + inside.length
  omega

/-- Behind further characters the location is a later one. -/
theorem place_after_lt (h : inside ≠ []) :
    (after before).place < (after (before ++ inside)).place := by
  apply Prod.Lex.toLex_lt_toLex.mpr
  show (after before).line < (after (before ++ inside)).line ∨
    (after before).line = (after (before ++ inside)).line ∧
      (after before).column < (after (before ++ inside)).column
  rw [line_after, line_after, List.count_append]
  by_cases newline : '\n' ∈ inside
  · left
    have := List.count_pos_iff.mpr newline
    omega
  · right
    have := List.length_pos_iff.mpr h
    rw [List.count_eq_zero.mpr newline, column_after_append before newline]
    exact ⟨rfl, by omega⟩

/-! ### From a location back to its offset -/

/-- The text behind its first `n` newlines. -/
def dropLines : Nat → List Char → List Char
  | 0, cs => cs
  | n + 1, cs => dropLines n ((cs.dropWhile (· != '\n')).drop 1)

/-- What is left of a text behind the lines before the line, and behind the characters of
the line before the column. -/
def textFrom (l : Location) (text : List Char) : List Char :=
  (dropLines (l.line - 1) text).drop (l.column - 1)

theorem textFrom_shift_one {l : Location} (positive : 1 ≤ l.line) (h : '\n' ∉ before) :
    (l.shift 1).textFrom (before ++ '\n' :: rest) = l.textFrom rest := by
  have line : (l.shift 1).line - 1 = (l.line - 1) + 1 := by
    show l.line + 1 - 1 = _
    omega
  rw [textFrom, line, dropLines, List.dropWhile_append_of_pos (ne_newline_of_not_mem h)]
  rfl

/-- The location behind some characters leaves what follows them.  By induction on the lines
of these characters: behind the first newline the location is one of the text there, and
only its line is shifted. -/
theorem textFrom_after (before rest : List Char) :
    (after before).textFrom (before ++ rest) = rest := by
  by_cases newline : '\n' ∈ before
  · obtain ⟨first, others, rfl, oneLine⟩ := List.eq_append_cons_of_mem newline
    have ih := textFrom_after others rest
    rw [after_append_newline, List.count_eq_zero.mpr oneLine, List.append_assoc, List.cons_append,
      textFrom_shift_one (Nat.le_add_left 1 _) oneLine]
    exact ih
  · have column : (after before).column = 1 + before.length := column_after_append [] newline
    rw [textFrom, line_after, List.count_eq_zero.mpr newline, column, Nat.add_sub_cancel_left]
    exact List.drop_left
termination_by before.length
decreasing_by
  subst_vars
  rw [List.length_append, List.length_cons]
  omega

/-! ### Offsets of a string -/

/-- The location of the offset behind a part of a string. -/
theorem ofOffset_string_append (s₁ s₂ : String) :
    ofOffset (s₁ ++ s₂) s₁.utf8ByteSize = after s₁.toList := by
  rw [← byteLength_toList]
  exact ofOffset_append String.toList_append

/-- At an offset where a character starts, or at the end, the string is cut in two. -/
theorem exists_split {text : String} {o : Nat} (h : (⟨o⟩ : String.Pos.Raw).IsValid text) :
    ∃ s₁ s₂, text = s₁ ++ s₂ ∧ o = s₁.utf8ByteSize := by
  obtain ⟨s₁, s₂, split, offset⟩ := String.Pos.Raw.isValid_iff_exists_append.mp h
  exact ⟨s₁, s₂, split, congrArg String.Pos.Raw.byteIdx offset⟩

/-- Of two cuts of a string, the one at the greater offset is behind the other. -/
theorem exists_between {s₁ s₂ t₁ t₂ : String} (same : s₁ ++ s₂ = t₁ ++ t₂)
    (h : s₁.utf8ByteSize < t₁.utf8ByteSize) :
    ∃ inside, inside ≠ [] ∧ t₁.toList = s₁.toList ++ inside := by
  have lists : s₁.toList ++ s₂.toList = t₁.toList ++ t₂.toList := by
    rw [← String.toList_append, ← String.toList_append, same]
  rw [← byteLength_toList, ← byteLength_toList] at h
  rcases List.append_eq_append_iff.mp lists with ⟨inside, behind, -⟩ | ⟨inside, behind, -⟩
  · refine ⟨inside, ?_, behind⟩
    rintro rfl
    rw [behind, List.append_nil] at h
    exact Nat.lt_irrefl _ h
  · rw [behind, byteLength_append] at h
    omega

/-- An offset behind the end stands for the end. -/
theorem ofOffset_of_le {text : String} {o : Nat} (h : text.utf8ByteSize ≤ o) :
    ofOffset text o = ofOffset text text.utf8ByteSize := by
  rw [← byteLength_toList] at h ⊢
  rw [ofOffset, ofOffset, charsBefore, charsBefore, Nat.min_eq_right h, Nat.min_self]

/-- The offsets of a text and their locations are in one order, and each location tells its
offset.  Let two offsets be those of characters of the text, or of its end: the greater one
has the later location, by line and then by column.  Behind the lines before the line, and
the characters before the column, of the location of such an offset stands exactly the text
from the offset on.  And every offset behind the end has the location of the end. -/
theorem ofOffset_order_iso (text : String) :
    (∀ o₁ o₂, (⟨o₁⟩ : String.Pos.Raw).IsValid text → (⟨o₂⟩ : String.Pos.Raw).IsValid text →
      o₁ < o₂ → (ofOffset text o₁).place < (ofOffset text o₂).place) ∧
    (∀ o, (⟨o⟩ : String.Pos.Raw).IsValid text →
      ∃ s₁ s₂ : String, text = s₁ ++ s₂ ∧ s₁.utf8ByteSize = o ∧
        (ofOffset text o).textFrom text.toList = s₂.toList) ∧
    ∀ o, text.utf8ByteSize ≤ o → ofOffset text o = ofOffset text text.utf8ByteSize := by
  refine ⟨?later, ?back, fun o => ofOffset_of_le⟩
  case later =>
    intro o₁ o₂ valid₁ valid₂ h
    obtain ⟨s₁, s₂, rfl, rfl⟩ := exists_split valid₁
    obtain ⟨t₁, t₂, same, rfl⟩ := exists_split valid₂
    obtain ⟨inside, nonempty, behind⟩ := exists_between same h
    have location : ofOffset (s₁ ++ s₂) t₁.utf8ByteSize = after t₁.toList := by
      rw [same]
      exact ofOffset_string_append t₁ t₂
    rw [ofOffset_string_append, location, behind]
    exact place_after_lt nonempty
  case back =>
    intro o valid
    obtain ⟨s₁, s₂, rfl, rfl⟩ := exists_split valid
    refine ⟨s₁, s₂, rfl, rfl, ?_⟩
    rw [ofOffset_string_append, String.toList_append]
    exact textFrom_after s₁.toList s₂.toList

/-- The last character of a text with two lines, behind characters of two and of three bytes. -/
theorem ofOffset_order_iso_two_lines :
    (⟨3⟩ : String.Pos.Raw).IsValid "é\n漢b" ∧ (⟨6⟩ : String.Pos.Raw).IsValid "é\n漢b" ∧
      (ofOffset "é\n漢b" 3).place < (ofOffset "é\n漢b" 6).place ∧
      ofOffset "é\n漢b" 6 = inText 2 2 ∧
      (∃ s₁ s₂ : String, "é\n漢b" = s₁ ++ s₂ ∧ s₁.utf8ByteSize = 6 ∧
        (inText 2 2).textFrom "é\n漢b".toList = s₂.toList) ∧
      ofOffset "é\n漢b" 99 = ofOffset "é\n漢b" 7 := by
  have first : (⟨3⟩ : String.Pos.Raw).IsValid "é\n漢b" :=
    String.Pos.Raw.isValid_iff_exists_append.mpr ⟨"é\n", "漢b", by decide, by decide⟩
  have last : (⟨6⟩ : String.Pos.Raw).IsValid "é\n漢b" :=
    String.Pos.Raw.isValid_iff_exists_append.mpr ⟨"é\n漢", "b", by decide, by decide⟩
  obtain ⟨later, back, behind⟩ := ofOffset_order_iso "é\n漢b"
  have location : ofOffset "é\n漢b" 6 = inText 2 2 := by decide
  refine ⟨first, last, later 3 6 first last (by decide), location, ?_, behind 99 (by decide)⟩
  rw [← location]
  exact back 6 last

end Location
end Frontmatter
