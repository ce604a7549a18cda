/-
Frontmatter/Proofs/Data/Except.lean

Computations that may fail.

What two steps give, if they give anything, the second one gives from what the first one
has given (`bind_eq_ok`).  A fold that ends well keeps whatever each of its steps keeps
(`foldlM_induction`).
-/

namespace Frontmatter

variable {ε α β : Type}

/-- What a computation in two steps gives, if it gives anything. -/
theorem bind_eq_ok {x : Except ε α} {f : α → Except ε β} {b : β} :
    x >>= f = .ok b ↔ ∃ a, x = .ok a ∧ f a = .ok b := by
  cases x with
  | error e =>
    constructor
    · intro h
      cases h
    · rintro ⟨_, h, -⟩
      cases h
  | ok a =>
    refine ⟨fun h => ⟨a, rfl, h⟩, ?_⟩
    rintro ⟨_, h, hf⟩
    cases h
    exact hf

/-- What every step of a fold keeps, a fold that ends well has kept. -/
theorem foldlM_induction {motive : β → Prop} {step : β → α → Except ε β} {as : List α} {b b' : β}
    (start : motive b)
    (keeps : ∀ b, ∀ a ∈ as, ∀ b', motive b → step b a = .ok b' → motive b')
    (folded : as.foldlM step b = .ok b') : motive b' := by
  induction as generalizing b with
  | nil =>
    cases folded
    exact start
  | cons a as ih =>
    rw [List.foldlM_cons] at folded
    obtain ⟨next, first, rest⟩ := bind_eq_ok.mp folded
    refine ih (keeps b a List.mem_cons_self next start first) ?_ rest
    intro c d hd
    exact keeps c d (List.mem_cons_of_mem a hd)

end Frontmatter
