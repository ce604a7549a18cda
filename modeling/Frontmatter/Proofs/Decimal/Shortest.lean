/-
Frontmatter/Proofs/Decimal/Shortest.lean

The shortest digits of a double begin with a digit other than zero.

The digits of `Binary64.shortest` are found on a decimal grid, whose place is
guessed from a logarithm.  If the guess were too large, the digits would begin
with zeros, and their text would be no number in most languages.  It never is:
the power of ten below the guess is at most the value (`pow_point_le`), and so
the row of digits is as long as it claims to be (`pow_le_value_shortest`).

Ratios of naturals are compared as rationals (`Ratio.val`).
-/
import Mathlib.Algebra.Order.Field.Power
import Mathlib.Algebra.Order.Field.Rat
import Mathlib.Tactic.Linarith
import Mathlib.Tactic.Positivity
import Frontmatter.Decimal.Shortest

namespace Frontmatter.Binary64

/-! ### Ratios as rationals -/

/-- The rational that a ratio stands for. -/
def Ratio.val (r : Ratio) : ℚ := r.num / r.den

theorem Ratio.den_ofBinary (m : Nat) (e : Int) : 0 < (Ratio.ofBinary m e).den := by
  unfold Ratio.ofBinary
  split
  · exact Nat.one_pos
  · exact Nat.two_pow_pos _

theorem Ratio.den_ofDecimal (m : Nat) (e : Int) : 0 < (Ratio.ofDecimal m e).den := by
  unfold Ratio.ofDecimal
  split
  · exact Nat.one_pos
  · exact Nat.pow_pos (by decide)

theorem Ratio.val_ofBinary (m : Nat) (e : Int) : (Ratio.ofBinary m e).val = m * 2 ^ e := by
  unfold Ratio.ofBinary
  split
  · next h =>
    obtain ⟨n, rfl⟩ := Int.eq_ofNat_of_zero_le h
    simp [Ratio.val]
  · next h =>
    obtain ⟨n, rfl⟩ : ∃ n : Nat, e = -(n : Int) := ⟨(-e).toNat, by omega⟩
    simp [Ratio.val, div_eq_mul_inv]

theorem Ratio.val_ofDecimal (m : Nat) (e : Int) : (Ratio.ofDecimal m e).val = m * 10 ^ e := by
  unfold Ratio.ofDecimal
  split
  · next h =>
    obtain ⟨n, rfl⟩ := Int.eq_ofNat_of_zero_le h
    simp [Ratio.val]
  · next h =>
    obtain ⟨n, rfl⟩ : ∃ n : Nat, e = -(n : Int) := ⟨(-e).toNat, by omega⟩
    simp [Ratio.val, div_eq_mul_inv]

theorem Ratio.lt_iff {a b : Ratio} (ha : 0 < a.den) (hb : 0 < b.den) :
    a.lt b = true ↔ a.val < b.val := by
  have ha' : (0 : ℚ) < a.den := by exact_mod_cast ha
  have hb' : (0 : ℚ) < b.den := by exact_mod_cast hb
  rw [Ratio.val, Ratio.val, div_lt_div_iff₀ ha' hb', Ratio.lt, decide_eq_true_eq]
  exact_mod_cast Iff.rfl

theorem Ratio.le_quotient {a b : Ratio} (ha : 0 < a.den) (hb : 0 < b.den) (hn : 0 < b.num)
    {k : Nat} (h : k * b.val ≤ a.val) : k ≤ a.quotient b := by
  have ha' : (0 : ℚ) < a.den := by exact_mod_cast ha
  have hb' : (0 : ℚ) < b.den := by exact_mod_cast hb
  rw [Ratio.quotient, Nat.le_div_iff_mul_le (Nat.mul_pos ha hn)]
  rw [Ratio.val, Ratio.val, ← mul_div_assoc, div_le_div_iff₀ hb' ha'] at h
  have h' : (k : ℚ) * (a.den * b.num) ≤ a.num * b.den := by linarith
  exact_mod_cast h'

/-! ### The place of the grid -/

theorem pow_guess_le : ∀ n < 1024, 10 ^ (n * 30103 / 100000) ≤ 100 * 2 ^ n := by
  decide +kernel

theorem pow_le_guess : ∀ n < 1075, 2 ^ n ≤ 100 * 10 ^ ((n * 30103 + 99999) / 100000) := by
  decide +kernel

/-- The guess of the place is never too large, for any exponent of a double. -/
theorem pow_guess_le_pow {n : Int} (h₁ : -1074 ≤ n) (h₂ : n ≤ 1023) :
    (10 : ℚ) ^ (n * 30103 / 100000 - 2) ≤ 2 ^ n := by
  have hundred : (10 : ℚ) ^ (2 : Int) = 100 := by norm_num
  rw [zpow_sub₀ (by norm_num), hundred, div_le_iff₀ (by norm_num)]
  -- the two signs of the exponent are two inequalities of natural numbers
  rcases Int.le_total 0 n with hn | hn
  · obtain ⟨k, rfl⟩ := Int.eq_ofNat_of_zero_le hn
    have hk : ((10 ^ (k * 30103 / 100000) : Nat) : ℚ) ≤ (100 * 2 ^ k : Nat) := by
      exact_mod_cast pow_guess_le k (by omega)
    have hexp : ((k : Int) * 30103 / 100000) = ((k * 30103 / 100000 : Nat) : Int) := by omega
    rw [hexp, zpow_natCast, zpow_natCast]
    push_cast at hk
    linarith
  · obtain ⟨k, rfl⟩ : ∃ k : Nat, n = -(k : Int) := ⟨(-n).toNat, by omega⟩
    have hk : ((2 ^ k : Nat) : ℚ) ≤ (100 * 10 ^ ((k * 30103 + 99999) / 100000) : Nat) := by
      exact_mod_cast pow_le_guess k (by omega)
    have hexp : (-(k : Int) * 30103 / 100000)
        = -((((k * 30103 + 99999) / 100000 : Nat)) : Int) := by omega
    rw [hexp, zpow_neg, zpow_neg, zpow_natCast, zpow_natCast]
    push_cast at hk
    have h2 : (0 : ℚ) < 2 ^ k := by positivity
    have h10 : (0 : ℚ) < 10 ^ ((k * 30103 + 99999) / 100000) := by positivity
    rw [inv_mul_eq_div, inv_eq_one_div, div_le_div_iff₀ h10 h2]
    linarith

/-- Walking up from a place that is not too large ends at one that is not. -/
theorem pow_pointFrom_le {x : Ratio} (hx : 0 < x.den) (fuel : Nat) {k : Int}
    (h : (10 : ℚ) ^ (k - 1) ≤ x.val) : (10 : ℚ) ^ (pointFrom x fuel k - 1) ≤ x.val := by
  induction fuel generalizing k with
  | zero => exact h
  | succ fuel ih =>
    unfold pointFrom
    split
    · exact h
    · next hlt =>
      rw [Ratio.lt_iff hx (Ratio.den_ofDecimal 1 k), Ratio.val_ofDecimal, not_lt] at hlt
      refine ih ?_
      rw [show k + 1 - 1 = k by omega]
      simpa using hlt

/-- The value of a double has a digit other than zero at its place. -/
theorem pow_point_le {m : Nat} {e : Int} (h : IsDouble m e) (hm : m ≠ 0) :
    (10 : ℚ) ^ (pointOf m e - 1) ≤ (Ratio.ofBinary m e).val := by
  obtain ⟨hlt, he, he', -⟩ := h
  have hlog : 2 ^ Nat.log2 m ≤ m := Nat.log2_self_le hm
  have hlog' : Nat.log2 m < 53 := (Nat.log2_lt hm).mpr hlt
  refine pow_pointFrom_le (Ratio.den_ofBinary m e) 8 ?_
  rw [show ((Nat.log2 m : Int) + e) * 30103 / 100000 - 1 - 1
    = ((Nat.log2 m : Int) + e) * 30103 / 100000 - 2 by omega]
  refine (pow_guess_le_pow (by omega) (by omega)).trans ?_
  rw [Ratio.val_ofBinary, zpow_add₀ (by norm_num), zpow_natCast]
  have : ((2 ^ Nat.log2 m : Nat) : ℚ) ≤ m := by exact_mod_cast hlog
  push_cast at this
  exact mul_le_mul_of_nonneg_right this (by positivity)

/-! ### The digits -/

/-- On a grid with `n` digits the value has that many digits. -/
theorem pow_le_quotient {x : Ratio} (hx : 0 < x.den) {point : Int}
    (h : (10 : ℚ) ^ (point - 1) ≤ x.val) {n : Nat} (hn : 1 ≤ n) :
    10 ^ (n - 1) ≤ x.quotient (Ratio.ofDecimal 1 (point - n)) := by
  have hnum : 0 < (Ratio.ofDecimal 1 (point - n)).num := by
    unfold Ratio.ofDecimal
    split
    · exact Nat.mul_pos Nat.one_pos (Nat.pow_pos (by decide))
    · exact Nat.one_pos
  refine Ratio.le_quotient hx (Ratio.den_ofDecimal _ _) hnum ?_
  rw [Ratio.val_ofDecimal]
  calc ((10 ^ (n - 1) : Nat) : ℚ) * (((1 : Nat) : ℚ) * 10 ^ (point - n))
      = 10 ^ (((n - 1 : Nat) : Int) + (point - n)) := by
        rw [zpow_add₀ (by norm_num), zpow_natCast]
        push_cast
        rw [one_mul]
    _ = 10 ^ (point - 1) := by
        congr 1
        omega
    _ ≤ x.val := h

/-- A grid point next to the value has as many digits as the grid. -/
theorem pow_le_gridPoint {x : Ratio} (hx : 0 < x.den) {i : Interval} {point : Int}
    (h : (10 : ℚ) ^ (point - 1) ≤ x.val) {n : Nat} (hn : 1 ≤ n) {k : Nat}
    (hk : gridPoint x i point n = some k) : 10 ^ (n - 1) ≤ k := by
  have below := pow_le_quotient hx h hn
  have near : k = x.quotient (Ratio.ofDecimal 1 (point - n)) ∨
      k = x.quotient (Ratio.ofDecimal 1 (point - n)) + 1 := by
    unfold gridPoint at hk
    grind
  omega

theorem pow_le_shortestFrom {x : Ratio} (hx : 0 < x.den) {i : Interval} {point : Int}
    (h : (10 : ℚ) ^ (point - 1) ≤ x.val) (fuel : Nat) {n : Nat} (hn : 1 ≤ n) :
    10 ^ ((shortestFrom x i point fuel n).count - 1) ≤ (shortestFrom x i point fuel n).value := by
  induction fuel generalizing n with
  | zero => exact pow_le_quotient hx h hn
  | succ fuel ih =>
    unfold shortestFrom
    cases e : gridPoint x i point n with
    | none => exact ih (by omega)
    | some k =>
      simp only
      split
      · exact pow_le_gridPoint hx h hn e
      · exact Nat.le_refl _

/-- The shortest digits of a double are a row without a leading zero. -/
theorem pow_le_value_shortest {x : Binary64} (hx : x.significand ≠ 0) :
    10 ^ (x.shortest.count - 1) ≤ x.shortest.value := by
  rw [Binary64.shortest, shortestDigits, if_neg hx]
  exact pow_le_shortestFrom (Ratio.den_ofBinary _ _) (pow_point_le x.isDouble hx) 17 (Nat.le_refl 1)

end Frontmatter.Binary64
