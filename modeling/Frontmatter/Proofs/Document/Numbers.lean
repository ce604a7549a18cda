/-
Frontmatter/Proofs/Document/Numbers.lean

The numbers of a block in the module that is compiled for it.

Where the data have a number, the compiled expression has a number literal, with a
minus sign in front of it if the number is negative.  The literal is that number
only if the number is a double (`Number.Survives`): the finite doubles of the data come
back as they are, and of the whole numbers those that are doubles.
`number_survives_iff` says so for both renderers and for every place of the data.
-/
import Frontmatter.Proofs.Document.StandsFor
import Frontmatter.Proofs.Esm.Magnitude

namespace Frontmatter

open Esm

/-! ### Numbers as literals -/

/-- The rational that a number literal is, perhaps under a minus sign. -/
def Esm.Expr.number? : Expr → Option ℚ
  | .num _ value => value.val?
  | .unary _ .minus (.num _ value) => value.val?.map Neg.neg
  | _ => none

/-- A literal, under a minus sign if the number has one, which is the number exactly if
the number survives. -/
def Esm.Expr.WritesNumber (e : Expr) (n : Number) : Prop :=
  (∃ value, e.IsNumeral n.isNegative value) ∧ (e.number? = some n.val ↔ n.Survives)

theorem Esm.Expr.number?_of_isNumeral {e : Expr} {negative : Bool} {value : NumericValue}
    (h : e.IsNumeral negative value) :
    e.number? = value.val?.map fun q => if negative then -q else q := by
  unfold IsNumeral at h
  split at h
  · obtain ⟨rfl, rfl⟩ := h
    simp [number?]
  · obtain ⟨rfl, rfl⟩ := h
    rfl
  · cases h

theorem StandsFor.writesNumber {e : Expr} {n : Number} (h : StandsFor e (.num n)) :
    e.WritesNumber n := by
  refine ⟨⟨_, h.isNumeral⟩, ?_⟩
  rw [Expr.number?_of_isNumeral h.isNumeral, ← n.survives_iff, n.val_eq]
  cases n.isNegative with
  | false => simp
  | true => simp [Option.map_eq_some_iff]

/-! ### The modules of the renderers -/

/-- Numbers are written as they are only if they survive.  Take any data with a number
at any place.  The default renderer gives a module that returns an expression under
`props`, and a renderer of constants gives a module with one constant, for every name
that a constant can have.  In both, what stands at the place of the number is a number
literal, under a minus sign if the number is negative, and it is the number, exactly, if
and only if the number is one of those that survive: all finite doubles, and the whole
numbers that are doubles. -/
theorem number_survives_iff {d : Data} {path : List Nat} {n : Number}
    (there : d.at? path = some (.num n)) (b : Block) :
    (∃ source body value e, Renderer.staticProps d b = .ok source ∧
      compileSource source = .ok body ∧ IsPropsModule body value ∧
      value.at? path = some e ∧ e.WritesNumber n) ∧
    ∀ name, IsConstantName name →
      ∃ source body value e, Renderer.constant name d b = .ok source ∧
        compileSource source = .ok body ∧ IsConstantModule name body value ∧
        value.at? path = some e ∧ e.WritesNumber n := by
  constructor
  · obtain ⟨source, body, value, rendered, compiled, shape, stands⟩ := exists_propsModule d b
    obtain ⟨e, he, stands⟩ := stands.at? there
    exact ⟨source, body, value, e, rendered, compiled, shape, he, stands.writesNumber⟩
  · intro name hname
    obtain ⟨source, body, value, rendered, compiled, shape, stands⟩ :=
      exists_constantModule hname d b
    obtain ⟨e, he, stands⟩ := stands.at? there
    exact ⟨source, body, value, e, rendered, compiled, shape, he, stands.writesNumber⟩

/-- The first whole number that is no double is another number in both modules. -/
theorem number_lost_above_bits :
    Data.at? [0] (.list [.num (.whole 9007199254740993)])
        = some (.num (.whole 9007199254740993)) ∧
      (∃ source body value e,
        Renderer.staticProps (.list [.num (.whole 9007199254740993)]) ⟨.yaml, "", none⟩
          = .ok source ∧
        compileSource source = .ok body ∧ IsPropsModule body value ∧
        value.at? [0] = some e ∧ e.number? ≠ some 9007199254740993) ∧
      IsConstantName Renderer.defaultName ∧
      ∃ source body value e,
        Renderer.constant Renderer.defaultName (.list [.num (.whole 9007199254740993)])
          ⟨.yaml, "", none⟩ = .ok source ∧
        compileSource source = .ok body ∧ IsConstantModule Renderer.defaultName body value ∧
        value.at? [0] = some e ∧ e.number? ≠ some 9007199254740993 := by
  have there : Data.at? [0] (.list [.num (.whole 9007199254740993)])
      = some (.num (.whole 9007199254740993)) := rfl
  have lost : ¬ (Number.whole 9007199254740993).Survives := by
    rw [Number.whole_survives_iff_bits (by decide +kernel)]
    rintro ⟨m, k, written, bits⟩
    -- the number is odd, so it would have to be a significand itself
    cases k with
    | zero => omega
    | succ k =>
      rw [Nat.pow_succ, ← Nat.mul_assoc] at written
      omega
  have other : ∀ e : Esm.Expr, e.WritesNumber (.whole 9007199254740993) →
      e.number? ≠ some 9007199254740993 := by
    rintro e ⟨-, exactly⟩ same
    exact lost (exactly.mp (same.trans (by norm_num [Number.val])))
  obtain ⟨props, constant⟩ := number_survives_iff there ⟨.yaml, "", none⟩
  obtain ⟨source, body, value, e, rendered, compiled, shape, he, writes⟩ := props
  obtain ⟨source', body', value', e', rendered', compiled', shape', he', writes'⟩ :=
    constant Renderer.defaultName isConstantName_default
  exact ⟨there, ⟨source, body, value, e, rendered, compiled, shape, he, other e writes⟩,
    isConstantName_default, source', body', value', e', rendered', compiled', shape', he',
    other e' writes'⟩

end Frontmatter
