/-
Frontmatter/Proofs/Decimal/Digits.lean

The shortest digits of a double stand for a decimal that rounds to it.

The search looks at one decimal grid after another.  A grid point that it takes
is in the interval of the double (`gridPoint_spec`), and the grid with seventeen
digits is so fine that it has a point there (`exists_gridPoint`): its unit is
less than the width of the interval.  So the search ends before its fuel does,
and what it finds reads back as the double (`shortest_spec`).
-/
import Frontmatter.Proofs.Decimal.Rounding

namespace Frontmatter

/-- The decimal that a row of digits stands for. -/
def Digits.val (d : Digits) : ℚ := d.value * 10 ^ (d.point - d.count)

namespace Binary64

/-! ### Comparing ratios -/

theorem Ratio.le_iff {a b : Ratio} (ha : 0 < a.den) (hb : 0 < b.den) :
    a.le b = true ↔ a.val ≤ b.val := by
  have ha' : (0 : ℚ) < a.den := by exact_mod_cast ha
  have hb' : (0 : ℚ) < b.den := by exact_mod_cast hb
  rw [Ratio.val, Ratio.val, div_le_div_iff₀ ha' hb', Ratio.le, decide_eq_true_eq]
  exact_mod_cast Iff.rfl

theorem den_interval (m : Nat) (e : Int) :
    0 < (interval m e).low.den ∧ 0 < (interval m e).high.den := by
  refine ⟨?_, Ratio.den_ofBinary _ _⟩
  simp only [interval]
  split
  · exact Ratio.den_ofBinary _ _
  · exact Ratio.den_ofBinary _ _

theorem contains_interval_iff {m : Nat} {e : Int} {r : Ratio} (hr : 0 < r.den) :
    (interval m e).contains r = true ↔ (interval m e).Mem r.val := by
  obtain ⟨hlow, hhigh⟩ := den_interval m e
  unfold Interval.contains Interval.Mem
  split
  · rw [Bool.and_eq_true, Ratio.le_iff hlow hr, Ratio.le_iff hr hhigh]
  · rw [Bool.and_eq_true, Ratio.lt_iff hlow hr, Ratio.lt_iff hr hhigh]

theorem num_ofDecimal_one (e : Int) : 0 < (Ratio.ofDecimal 1 e).num := by
  unfold Ratio.ofDecimal
  split
  · exact Nat.mul_pos Nat.one_pos (Nat.pow_pos (by decide))
  · exact Nat.one_pos

/-- The quotient counts the units that a ratio has in full. -/
theorem quotient_bounds {x : Ratio} (hx : 0 < x.den) (e : Int) :
    x.quotient (Ratio.ofDecimal 1 e) * (10 : ℚ) ^ e ≤ x.val ∧
      x.val < (x.quotient (Ratio.ofDecimal 1 e) + 1) * (10 : ℚ) ^ e := by
  have unit : (Ratio.ofDecimal 1 e).val = 10 ^ e := by
    rw [Ratio.val_ofDecimal, Nat.cast_one, one_mul]
  have hnum := num_ofDecimal_one e
  have hden := Ratio.den_ofDecimal 1 e
  rw [← unit]
  generalize Ratio.ofDecimal 1 e = u at hnum hden
  have hx' : (0 : ℚ) < x.den := by exact_mod_cast hx
  have hden' : (0 : ℚ) < u.den := by exact_mod_cast hden
  have positive := Nat.mul_pos hx hnum
  have whole := Nat.div_add_mod' (x.num * u.den) (x.den * u.num)
  have small := Nat.mod_lt (x.num * u.den) positive
  have low : x.quotient u * (x.den * u.num) ≤ x.num * u.den := by
    rw [Ratio.quotient]
    omega
  have high : x.num * u.den < (x.quotient u + 1) * (x.den * u.num) := by
    rw [Ratio.quotient, Nat.add_mul, Nat.one_mul]
    omega
  rw [Ratio.val, Ratio.val, ← mul_div_assoc, ← mul_div_assoc, div_le_div_iff₀ hden' hx',
    div_lt_div_iff₀ hx' hden']
  have low' : (x.quotient u : ℚ) * (x.den * u.num) ≤ x.num * u.den := by exact_mod_cast low
  have high' : (x.num * u.den : ℚ) < (x.quotient u + 1) * (x.den * u.num) := by exact_mod_cast high
  constructor <;> linarith

/-! ### The place of the grid -/

theorem two_pow_le_guess : ∀ n < 1024, 2 * 2 ^ n ≤ 100 * 10 ^ (n * 30103 / 100000) := by
  decide +kernel

theorem guess_le_two_pow : ∀ n < 1075, 2 * 10 ^ ((n * 30103 + 99999) / 100000) ≤ 100 * 2 ^ n := by
  decide +kernel

/-- The guess of the place is at most two too small, for any exponent of a double. -/
theorem pow_le_pow_guess {n : Int} (h₁ : -1074 ≤ n) (h₂ : n ≤ 1023) :
    (2 : ℚ) ^ (n + 1) ≤ 10 ^ (n * 30103 / 100000 + 2) := by
  have hundred : (10 : ℚ) ^ (2 : Int) = 100 := by norm_num
  rw [zpow_add₀ (by norm_num), zpow_add₀ (by norm_num), zpow_one, hundred]
  rcases Int.le_total 0 n with hn | hn
  · obtain ⟨k, rfl⟩ := Int.eq_ofNat_of_zero_le hn
    have hk : ((2 * 2 ^ k : Nat) : ℚ) ≤ (100 * 10 ^ (k * 30103 / 100000) : Nat) := by
      exact_mod_cast two_pow_le_guess k (by omega)
    have hexp : ((k : Int) * 30103 / 100000) = ((k * 30103 / 100000 : Nat) : Int) := by omega
    rw [hexp, zpow_natCast, zpow_natCast]
    push_cast at hk
    linarith
  · obtain ⟨k, rfl⟩ : ∃ k : Nat, n = -(k : Int) := ⟨(-n).toNat, by omega⟩
    have hk : ((2 * 10 ^ ((k * 30103 + 99999) / 100000) : Nat) : ℚ) ≤ (100 * 2 ^ k : Nat) := by
      exact_mod_cast guess_le_two_pow k (by omega)
    have hexp : (-(k : Int) * 30103 / 100000)
        = -((((k * 30103 + 99999) / 100000 : Nat)) : Int) := by omega
    rw [hexp, zpow_neg, zpow_neg, zpow_natCast, zpow_natCast]
    push_cast at hk
    have h2 : (0 : ℚ) < 2 ^ k := by positivity
    have h10 : (0 : ℚ) < 10 ^ ((k * 30103 + 99999) / 100000) := by positivity
    rw [inv_mul_eq_div, inv_mul_eq_div, div_le_div_iff₀ h2 h10]
    linarith

/-- Walking up ends above the value, if the steps lead that far. -/
theorem lt_pow_pointFrom {x : Ratio} (hx : 0 < x.den) (fuel : Nat) {k : Int}
    (h : x.val < (10 : ℚ) ^ (k + fuel)) : x.val < (10 : ℚ) ^ pointFrom x fuel k := by
  induction fuel generalizing k with
  | zero => simpa [pointFrom] using h
  | succ fuel ih =>
    unfold pointFrom
    split
    · next hlt =>
      rw [Ratio.lt_iff hx (Ratio.den_ofDecimal 1 k), Ratio.val_ofDecimal] at hlt
      simpa using hlt
    · refine ih ?_
      rw [show k + 1 + (fuel : Int) = k + ((fuel + 1 : Nat) : Int) by push_cast; ring]
      exact h

/-- The value of a double has no digit before its place. -/
theorem lt_pow_point {m : Nat} {e : Int} (h : IsDouble m e) (hm : m ≠ 0) :
    (Ratio.ofBinary m e).val < (10 : ℚ) ^ pointOf m e := by
  obtain ⟨hlt, he, he', -⟩ := h
  have hlog : Nat.log2 m < 53 := (Nat.log2_lt hm).mpr hlt
  have hself : (m : ℚ) < (2 ^ (Nat.log2 m + 1) : Nat) := by exact_mod_cast Nat.lt_log2_self
  push_cast at hself
  refine lt_pow_pointFrom (Ratio.den_ofBinary m e) 8 ?_
  rw [Ratio.val_ofBinary]
  calc (m : ℚ) * 2 ^ e < 2 ^ (Nat.log2 m + 1) * 2 ^ e :=
        mul_lt_mul_of_pos_right hself (two_zpow_pos e)
    _ = 2 ^ (((Nat.log2 m : Int) + e) + 1) := by
        rw [← zpow_natCast, ← zpow_add₀ (by norm_num)]
        congr 1
        push_cast
        ring
    _ ≤ 10 ^ (((Nat.log2 m : Int) + e) * 30103 / 100000 + 2) :=
        pow_le_pow_guess (by omega) (by omega)
    _ ≤ 10 ^ (((Nat.log2 m : Int) + e) * 30103 / 100000 - 1 + (8 : Nat)) :=
        zpow_le_zpow_right₀ (by norm_num) (by push_cast; omega)

/-! ### Grid points -/

/-- The two points of a grid that are next to a value. -/
theorem gridPoint_eq {x : Ratio} {i : Interval} {point : Int} {n k : Nat}
    (h : gridPoint x i point n = some k) :
    (k = x.quotient (Ratio.ofDecimal 1 (point - n)) ∨
      k = x.quotient (Ratio.ofDecimal 1 (point - n)) + 1) ∧
      i.contains (Ratio.ofDecimal k (point - n)) = true := by
  unfold gridPoint at h
  simp only at h
  generalize x.quotient (Ratio.ofDecimal 1 (point - n)) = below at h ⊢
  have inside : ∀ k : Nat, (decide (k ≠ 0) && i.contains (Ratio.ofDecimal k (point - n))) = true →
      i.contains (Ratio.ofDecimal k (point - n)) = true := by
    intro k hk
    rw [Bool.and_eq_true] at hk
    exact hk.2
  split at h
  · next h₁ h₂ =>
    split_ifs at h
    all_goals cases h
    · exact ⟨.inl rfl, inside _ h₁⟩
    · exact ⟨.inr rfl, inside _ h₂⟩
    · exact ⟨.inl rfl, inside _ h₁⟩
    · exact ⟨.inr rfl, inside _ h₂⟩
  · next h₁ h₂ =>
    cases h
    exact ⟨.inl rfl, inside _ h₁⟩
  · next h₁ h₂ =>
    cases h
    exact ⟨.inr rfl, inside _ h₂⟩
  · cases h

/-- A grid without a point has neither of the two in the interval. -/
theorem gridPoint_eq_none {x : Ratio} {i : Interval} {point : Int} {n : Nat}
    (h : gridPoint x i point n = none) :
    ∀ k, k = x.quotient (Ratio.ofDecimal 1 (point - n)) ∨
        k = x.quotient (Ratio.ofDecimal 1 (point - n)) + 1 →
      k = 0 ∨ i.contains (Ratio.ofDecimal k (point - n)) = false := by
  unfold gridPoint at h
  simp only at h
  generalize x.quotient (Ratio.ofDecimal 1 (point - n)) = below at h ⊢
  have outside : ∀ k : Nat, (decide (k ≠ 0) && i.contains (Ratio.ofDecimal k (point - n))) = false →
      k = 0 ∨ i.contains (Ratio.ofDecimal k (point - n)) = false := by
    intro k hk
    rw [Bool.and_eq_false_iff, decide_eq_false_iff_not, not_not] at hk
    exact hk
  split at h
  · split_ifs at h
  · cases h
  · cases h
  · next h₁ h₂ =>
    rintro k (rfl | rfl)
    · exact outside _ h₁
    · exact outside _ h₂

/-! ### Seventeen digits -/

variable {x : Binary64}

/-- The ratio that the search starts from. -/
theorem val_ofBinary_eq (x : Binary64) :
    (Ratio.ofBinary x.significand x.exponent).val = x.magnitude := Ratio.val_ofBinary _ _

/-- A magnitude below the value that does not round to it is below its interval. -/
theorem le_low_of_not_mem {q : ℚ} (hq : q ≤ x.magnitude) (out : ¬ x.Rounds q) :
    q ≤ (x.significand - x.reach) * 2 ^ x.exponent := by
  by_contra above
  rw [not_le] at above
  have self := x.rounds_magnitude
  refine out ?_
  rw [Rounds, Interval.Mem, val_interval_low] at self ⊢
  split_ifs at self ⊢
  · exact ⟨above.le, hq.trans self.2⟩
  · exact ⟨above, hq.trans_lt self.2⟩

/-- A magnitude above the value that does not round to it is above its interval. -/
theorem high_le_of_not_mem {q : ℚ} (hq : x.magnitude ≤ q) (out : ¬ x.Rounds q) :
    (x.significand + 1 / 2) * 2 ^ x.exponent ≤ q := by
  by_contra below
  rw [not_le] at below
  have self := x.rounds_magnitude
  refine out ?_
  rw [Rounds, Interval.Mem, val_interval_high] at self ⊢
  split_ifs at self ⊢
  · exact ⟨self.1.trans hq, below.le⟩
  · exact ⟨self.1.trans_le hq, below⟩

/-- The interval is wider than the unit of the grid with seventeen digits. -/
theorem unit_lt_width (hx : x.significand ≠ 0) {point : Int}
    (h : (10 : ℚ) ^ (point - 1) ≤ x.magnitude) :
    (10 : ℚ) ^ (point - 17) < (1 / 2 + x.reach) * 2 ^ x.exponent := by
  have unit := two_zpow_pos x.exponent
  have fine : (10 : ℚ) ^ (point - 17) * 10 ^ 16 ≤ x.significand * 2 ^ x.exponent := by
    refine le_trans (le_of_eq ?_) h
    rw [← zpow_natCast, ← zpow_add₀ (by norm_num)]
    congr 1
    push_cast
    ring
  unfold reach
  rw [if_neg hx]
  split
  · next power =>
    rw [power.1] at fine
    norm_num at fine ⊢
    linarith
  · have bits : (x.significand : ℚ) ≤ 2 ^ 53 := by exact_mod_cast x.isDouble.1.le
    have := mul_le_mul_of_nonneg_right bits unit.le
    norm_num at fine this ⊢
    linarith

/-- The grid with seventeen digits has a point in the interval. -/
theorem exists_gridPoint (hx : x.significand ≠ 0) {point : Int}
    (h : (10 : ℚ) ^ (point - 1) ≤ x.magnitude) :
    gridPoint (Ratio.ofBinary x.significand x.exponent) (interval x.significand x.exponent) point 17
      ≠ none := by
  -- otherwise the interval would lie between two points that are one unit apart
  intro missing
  have points := gridPoint_eq_none missing
  obtain ⟨below, above⟩ :=
    quotient_bounds (Ratio.den_ofBinary x.significand x.exponent) (point - (17 : Nat))
  have wide := unit_lt_width hx h
  rw [val_ofBinary_eq] at below above
  have positive := ten_zpow_pos (point - (17 : Nat))
  have reach := x.reach_le
  have one : (1 : ℚ) ≤ x.significand := by exact_mod_cast Nat.pos_of_ne_zero hx
  have unit := two_zpow_pos x.exponent
  have outside : ∀ k : Nat, (interval x.significand x.exponent).contains
      (Ratio.ofDecimal k (point - (17 : Nat))) = false →
      ¬ x.Rounds (k * 10 ^ (point - (17 : Nat))) := by
    intro k out mem
    rw [← Ratio.val_ofDecimal] at mem
    rw [(contains_interval_iff (Ratio.den_ofDecimal _ _)).mpr mem] at out
    cases out
  generalize (Ratio.ofBinary x.significand x.exponent).quotient
    (Ratio.ofDecimal 1 (point - (17 : Nat))) = k at points below above
  have lower : (k : ℚ) * 10 ^ (point - (17 : Nat)) ≤
      (x.significand - x.reach) * 2 ^ x.exponent := by
    rcases points k (.inl rfl) with zero | out
    · rw [zero, Nat.cast_zero, zero_mul]
      exact mul_nonneg (by linarith) unit.le
    · exact le_low_of_not_mem below (outside k out)
  have upper : (x.significand + 1 / 2) * 2 ^ x.exponent ≤
      (k + 1 : ℚ) * 10 ^ (point - (17 : Nat)) := by
    have out := (points (k + 1) (.inr rfl)).resolve_left (Nat.succ_ne_zero k)
    have := outside (k + 1) out
    push_cast at this above ⊢
    exact high_le_of_not_mem above.le this
  push_cast at lower upper wide
  linarith

/-! ### The search -/

/-- A row of digits that the search may end with: no longer than seventeen digits,
and a decimal that rounds to the double. -/
structure IsShort (x : Binary64) (d : Digits) : Prop where
  count_pos : 1 ≤ d.count
  count_le : d.count ≤ 17
  value_lt : d.value < 10 ^ d.count
  rounds : x.Rounds d.val

/-- What the search takes from a grid.  A point beyond the grid is the next power of
ten, which is written with the digit one. -/
theorem isShort_of_gridPoint {point : Int} (high : x.magnitude < 10 ^ point) {n k : Nat}
    (hn : 1 ≤ n) (hn' : n ≤ 17)
    (h : gridPoint (Ratio.ofBinary x.significand x.exponent) (interval x.significand x.exponent)
      point n = some k) :
    x.IsShort (if k < 10 ^ n then ⟨k, n, point⟩ else ⟨1, 1, point + 1⟩) := by
  obtain ⟨near, mem⟩ := gridPoint_eq h
  have below := (quotient_bounds (Ratio.den_ofBinary x.significand x.exponent) (point - n)).1
  generalize (Ratio.ofBinary x.significand x.exponent).quotient
    (Ratio.ofDecimal 1 (point - n)) = q at near below
  rw [contains_interval_iff (Ratio.den_ofDecimal _ _), Ratio.val_ofDecimal] at mem
  split
  · next less => exact ⟨hn, hn', less, mem⟩
  · next more =>
    -- only the point above the value can be beyond the grid
    have split : (10 : ℚ) ^ point = 10 ^ n * 10 ^ (point - n) := by
      rw [← zpow_natCast, ← zpow_add₀ (by norm_num), add_sub_cancel]
    have inGrid : q < 10 ^ n := by
      rw [val_ofBinary_eq] at below
      have := lt_of_mul_lt_mul_right (split ▸ below.trans_lt high) (ten_zpow_pos _).le
      exact_mod_cast this
    obtain rfl : k = 10 ^ n := by omega
    refine ⟨Nat.le_refl 1, Nat.one_le_ofNat, Nat.lt_pow_self (by decide), ?_⟩
    rw [Digits.val]
    push_cast at mem ⊢
    rw [one_mul, add_sub_cancel_right, split]
    exact mem

/-- The search ends with such a row: at the latest on the grid with seventeen digits. -/
theorem isShort_shortestFrom (hx : x.significand ≠ 0) {point : Int}
    (low : (10 : ℚ) ^ (point - 1) ≤ x.magnitude) (high : x.magnitude < 10 ^ point) (fuel : Nat)
    {n : Nat} (hn : 1 ≤ n) (last : n + fuel = 17) :
    x.IsShort (shortestFrom (Ratio.ofBinary x.significand x.exponent)
      (interval x.significand x.exponent) point (fuel + 1) n) := by
  induction fuel generalizing n with
  | zero =>
    obtain rfl : n = 17 := last
    obtain ⟨k, hk⟩ := Option.ne_none_iff_exists'.mp (exists_gridPoint hx low)
    rw [shortestFrom, hk]
    exact isShort_of_gridPoint high hn (Nat.le_refl 17) hk
  | succ fuel ih =>
    rw [shortestFrom]
    cases hk : gridPoint (Ratio.ofBinary x.significand x.exponent)
      (interval x.significand x.exponent) point n with
    | none => exact ih (by omega) (by omega)
    | some k => exact isShort_of_gridPoint high hn (by omega) hk

/-- The shortest digits of a double other than zero: at most seventeen of them, and
they stand for a decimal that rounds to it. -/
theorem shortest_spec (hx : x.significand ≠ 0) : x.IsShort x.shortest := by
  rw [shortest, shortestDigits, if_neg hx]
  have low := pow_point_le x.isDouble hx
  have high := lt_pow_point x.isDouble hx
  rw [val_ofBinary_eq] at low high
  exact isShort_shortestFrom hx low high 16 (Nat.le_refl 1) rfl

/-- The shortest digits of any double stand for a decimal that rounds to it. -/
theorem rounds_shortest (x : Binary64) : x.Rounds x.shortest.val := by
  by_cases hx : x.significand = 0
  · rw [shortest, shortestDigits, if_pos hx, Digits.val, Nat.cast_zero, zero_mul, rounds_zero_iff]
    exact hx
  · exact (shortest_spec hx).rounds

end Binary64
end Frontmatter
