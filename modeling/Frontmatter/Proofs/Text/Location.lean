/-
Frontmatter/Proofs/Text/Location.lean

The locations of places in a text, and of places in a part of it.

The bytes before a place are those of the characters before it (`ofOffset_append`).  A
location looks back no further than the last newline, but for the count of the lines; so
the location of a place behind a newline is its location in the text after the newline,
shifted by the lines before (`after_append_newline`).
-/
import Frontmatter.Text.Location

namespace Frontmatter

/-! ### Bytes -/

theorem byteLength_nil : byteLength [] = 0 := rfl

theorem byteLength_cons (c : Char) (cs : List Char) :
    byteLength (c :: cs) = c.utf8Size + byteLength cs := rfl

theorem byteLength_append (cs ds : List Char) :
    byteLength (cs ++ ds) = byteLength cs + byteLength ds := by
  induction cs with
  | nil => rw [List.nil_append, byteLength_nil, Nat.zero_add]
  | cons c cs ih => rw [List.cons_append, byteLength_cons, byteLength_cons, ih, Nat.add_assoc]

namespace Location

/-! ### Offsets -/

theorem charsBefore?_append (before rest : List Char) :
    charsBefore? (before ++ rest) (byteLength before) = some before := by
  induction before with
  | nil => cases rest <;> rfl
  | cons c before ih =>
    have positive := c.utf8Size_pos
    obtain ⟨n, hn⟩ : ∃ n, byteLength (c :: before) = n + 1 :=
      Nat.exists_eq_succ_of_ne_zero (by rw [byteLength_cons]; omega)
    have fits : c.utf8Size ≤ n + 1 := by rw [← hn, byteLength_cons]; omega
    have left : n + 1 - c.utf8Size = byteLength before := by rw [← hn, byteLength_cons]; omega
    rw [hn, List.cons_append, charsBefore?]
    · rw [if_pos fits, left, ih]
      rfl
    · exact Nat.succ_ne_zero n

/-- The location of an offset is found behind the characters that take so many bytes. -/
theorem ofOffset_append {text : String} {before rest : List Char}
    (h : text.toList = before ++ rest) :
    ofOffset text (byteLength before) = after before := by
  have bound : byteLength before ≤ byteLength (before ++ rest) := by
    rw [byteLength_append]
    omega
  rw [ofOffset, charsBefore, h, Nat.min_eq_left bound, charsBefore?_append]
  rfl

/-! ### Lines -/

theorem takeWhile_reverse_append (before inside : List Char) :
    ((before ++ '\n' :: inside).reverse.takeWhile (· != '\n'))
      = inside.reverse.takeWhile (· != '\n') := by
  rw [List.reverse_append, List.reverse_cons, List.append_assoc]
  induction inside.reverse with
  | nil => rfl
  | cons c cs ih =>
    rw [List.cons_append, List.takeWhile_cons, List.takeWhile_cons, ih]

/-- Behind a newline, a location is that in the text after the newline, shifted. -/
theorem after_append_newline (before inside : List Char) :
    after (before ++ '\n' :: inside) = (after inside).shift (before.count '\n' + 1) := by
  have lines : (before ++ '\n' :: inside).count '\n' + 1
      = inside.count '\n' + 1 + (before.count '\n' + 1) := by
    rw [List.count_append, List.count_cons_self]
    omega
  rw [after, takeWhile_reverse_append, lines]
  rfl

end Location
end Frontmatter
