/-
Frontmatter/Proofs/Decimal/Rounding.lean

Rounding to the nearest double.

A double of magnitude `m · 2^e` has an interval of rationals that round to it
(`Binary64.Rounds`).  In units of `2^e` it reaches from `m - 1/2` to `m + 1/2`,
and from `m - 1/4` if the next double below is half as far away; its ends belong
to it if `m` is even.

`nearest_eq_some_iff` and `ofDecimal_eq_some_iff` say that the two readers find
a double exactly if the ratio, or the decimal, is in its interval.  So the
intervals are disjoint, and a number that is itself a double is read as it is.
-/
import Mathlib.Data.Nat.Cast.Order.Field
import Mathlib.Tactic.FieldSimp
import Mathlib.Tactic.Ring
import Frontmatter.Proofs.Decimal.Shortest

namespace Frontmatter.Binary64

/-! ### Magnitudes and intervals -/

/-- The magnitude of a double. -/
def magnitude (x : Binary64) : ℚ := x.significand * 2 ^ x.exponent

/-- The rational that a double stands for. -/
def val (x : Binary64) : ℚ := if x.negative then -x.magnitude else x.magnitude

/-- The rationals of an interval. -/
def Interval.Mem (i : Interval) (q : ℚ) : Prop :=
  if i.closed then i.low.val ≤ q ∧ q ≤ i.high.val else i.low.val < q ∧ q < i.high.val

/-- The magnitudes that round to the magnitude of a double. -/
def Rounds (x : Binary64) (q : ℚ) : Prop := (interval x.significand x.exponent).Mem q

/-- How far the interval of a double reaches below, in units of its last place. -/
def reach (x : Binary64) : ℚ :=
  if x.significand = 0 then 0
  else if x.significand = 2 ^ 52 ∧ -1074 < x.exponent then 1 / 4 else 1 / 2

theorem two_zpow_pos (e : Int) : (0 : ℚ) < 2 ^ e := by positivity

theorem ten_zpow_pos (e : Int) : (0 : ℚ) < 10 ^ e := by positivity

theorem magnitude_nonneg (x : Binary64) : 0 ≤ x.magnitude := by
  have := two_zpow_pos x.exponent
  rw [magnitude]
  positivity

theorem abs_val (x : Binary64) : |x.val| = x.magnitude := by
  rw [val]
  split
  · rw [abs_neg, abs_of_nonneg x.magnitude_nonneg]
  · rw [abs_of_nonneg x.magnitude_nonneg]

theorem reach_nonneg (x : Binary64) : 0 ≤ x.reach := by
  unfold reach
  split_ifs <;> norm_num

theorem reach_le (x : Binary64) : x.reach ≤ 1 / 2 := by
  unfold reach
  split_ifs <;> norm_num

theorem val_interval_low (x : Binary64) :
    (interval x.significand x.exponent).low.val = (x.significand - x.reach) * 2 ^ x.exponent := by
  have half : (2 : ℚ) ^ (x.exponent - 1) = 2 ^ x.exponent / 2 := by
    rw [zpow_sub₀ (by norm_num), zpow_one]
  have quarter : (2 : ℚ) ^ (x.exponent - 2) = 2 ^ x.exponent / 4 := by
    rw [zpow_sub₀ (by norm_num)]
    norm_num
  unfold interval reach
  simp only
  by_cases zero : x.significand = 0
  · rw [if_neg (by omega), if_pos zero, Ratio.val_ofBinary, zero]
    norm_num
  rw [if_neg zero]
  split
  · rw [Ratio.val_ofBinary, quarter, Nat.cast_sub (by omega)]
    push_cast
    ring
  · rw [Ratio.val_ofBinary, half, Nat.cast_sub (by omega)]
    push_cast
    ring

theorem val_interval_high (x : Binary64) :
    (interval x.significand x.exponent).high.val = (x.significand + 1 / 2) * 2 ^ x.exponent := by
  have half : (2 : ℚ) ^ (x.exponent - 1) = 2 ^ x.exponent / 2 := by
    rw [zpow_sub₀ (by norm_num), zpow_one]
  unfold interval
  simp only
  rw [Ratio.val_ofBinary, half]
  push_cast
  ring

/-- The interval of a double, in units of its last place. -/
theorem rounds_iff {x : Binary64} {q : ℚ} :
    x.Rounds q ↔
      if x.significand % 2 = 0 then
        x.significand - x.reach ≤ q / 2 ^ x.exponent ∧ q / 2 ^ x.exponent ≤ x.significand + 1 / 2
      else x.significand - x.reach < q / 2 ^ x.exponent ∧
        q / 2 ^ x.exponent < x.significand + 1 / 2 := by
  have unit := two_zpow_pos x.exponent
  rw [Rounds, Interval.Mem, val_interval_low, val_interval_high, le_div_iff₀ unit,
    div_le_iff₀ unit, lt_div_iff₀ unit, div_lt_iff₀ unit]
  simp only [interval, decide_eq_true_eq]

theorem Rounds.bounds {x : Binary64} {q : ℚ} (h : x.Rounds q) :
    x.significand - x.reach ≤ q / 2 ^ x.exponent ∧
      q / 2 ^ x.exponent ≤ x.significand + 1 / 2 := by
  rw [rounds_iff] at h
  split at h
  · exact h
  · exact ⟨h.1.le, h.2.le⟩

/-- A double rounds to itself. -/
theorem rounds_magnitude (x : Binary64) : x.Rounds x.magnitude := by
  have unit := (two_zpow_pos x.exponent).ne'
  have self : x.magnitude / 2 ^ x.exponent = x.significand := by
    rw [magnitude, mul_div_assoc, div_self unit, mul_one]
  have := x.reach_nonneg
  rw [rounds_iff, self]
  split
  · constructor <;> linarith
  · next odd =>
    have positive : 0 < x.reach := by
      unfold reach
      rw [if_neg (by omega)]
      split_ifs <;> norm_num
    constructor <;> linarith

/-! ### Quotients -/

/-- The number is less than a half away from the quotient, or a half if it is even. -/
def IsNear (n d k : Nat) : Prop :=
  if k % 2 = 0 then 2 * (k * d) ≤ 2 * n + d ∧ 2 * n ≤ 2 * (k * d) + d
  else 2 * (k * d) < 2 * n + d ∧ 2 * n < 2 * (k * d) + d

theorem isNear_roundQuotient (n : Nat) {d : Nat} (hd : 0 < d) : IsNear n d (roundQuotient n d) := by
  have whole := Nat.div_add_mod' n d
  have small := Nat.mod_lt n hd
  have next : (n / d + 1) * d = n / d * d + d := Nat.succ_mul _ _
  simp only [IsNear, roundQuotient]
  split_ifs <;> omega

/-- Two such numbers are less than one apart, since neighbours are not both even. -/
theorem IsNear.le {n d j k : Nat} (hd : 0 < d) (hj : IsNear n d j) (hk : IsNear n d k) :
    j ≤ k := by
  by_contra h
  rw [not_le] at h
  unfold IsNear at hj hk
  by_cases next : j = k + 1
  · have step : j * d = k * d + d := by rw [next, Nat.succ_mul]
    split_ifs at hj hk <;> omega
  · have far : k * d + 2 * d ≤ j * d := by
      rw [← Nat.add_mul]
      exact Nat.mul_le_mul_right d (by omega)
    split_ifs at hj hk <;> omega

/-- Rounding a quotient finds the near number. -/
theorem roundQuotient_eq_iff {n d k : Nat} (hd : 0 < d) : roundQuotient n d = k ↔ IsNear n d k := by
  have near := isNear_roundQuotient n hd
  constructor
  · rintro rfl
    exact near
  · intro hk
    exact Nat.le_antisymm (near.le hd hk) (hk.le hd near)

/-! ### The exponent -/

theorem den_scaled {num den : Nat} (hden : 0 < den) (e : Int) : 0 < (scaled num den e).2 := by
  unfold scaled
  split
  · exact Nat.mul_pos hden (Nat.two_pow_pos _)
  · exact hden

/-- Scaling by an exponent counts a ratio in units of that power of two. -/
theorem val_scaled (num den : Nat) (e : Int) :
    ((scaled num den e).1 : ℚ) / (scaled num den e).2 = num / den / 2 ^ e := by
  unfold scaled
  split
  · next h =>
    obtain ⟨n, rfl⟩ := Int.eq_ofNat_of_zero_le h
    simp [div_div]
  · next h =>
    obtain ⟨n, rfl⟩ : ∃ n : Nat, e = -(n : Int) := ⟨(-e).toNat, by omega⟩
    simp [div_eq_mul_inv, mul_right_comm]

/-- The logarithms of a numerator and a denominator tell the ratio up to a factor
of two. -/
theorem ratio_bounds {num den : Nat} (hnum : num ≠ 0) (hden : 0 < den) :
    (2 : ℚ) ^ ((Nat.log2 num : Int) - Nat.log2 den - 1) < num / den ∧
      (num / den : ℚ) < 2 ^ ((Nat.log2 num : Int) - Nat.log2 den + 1) := by
  have hden' : (0 : ℚ) < den := by exact_mod_cast hden
  have numLow : ((2 ^ Nat.log2 num : Nat) : ℚ) ≤ num := by exact_mod_cast Nat.log2_self_le hnum
  have numHigh : (num : ℚ) < (2 ^ (Nat.log2 num + 1) : Nat) := by exact_mod_cast Nat.lt_log2_self
  have denLow : ((2 ^ Nat.log2 den : Nat) : ℚ) ≤ den := by
    exact_mod_cast Nat.log2_self_le (Nat.pos_iff_ne_zero.mp hden)
  have denHigh : (den : ℚ) < (2 ^ (Nat.log2 den + 1) : Nat) := by exact_mod_cast Nat.lt_log2_self
  push_cast at numLow numHigh denLow denHigh
  rw [lt_div_iff₀ hden', div_lt_iff₀ hden']
  constructor
  · calc (2 : ℚ) ^ ((Nat.log2 num : Int) - Nat.log2 den - 1) * den
        < 2 ^ ((Nat.log2 num : Int) - Nat.log2 den - 1) * 2 ^ (Nat.log2 den + 1) :=
          mul_lt_mul_of_pos_left denHigh (two_zpow_pos _)
      _ = 2 ^ Nat.log2 num := by
          rw [← zpow_natCast, ← zpow_natCast, ← zpow_add₀ (by norm_num)]
          congr 1
          push_cast
          ring
      _ ≤ num := numLow
  · calc (num : ℚ) < 2 ^ (Nat.log2 num + 1) := numHigh
      _ = 2 ^ ((Nat.log2 num : Int) - Nat.log2 den + 1) * 2 ^ Nat.log2 den := by
          rw [← zpow_natCast, ← zpow_natCast, ← zpow_add₀ (by norm_num)]
          congr 1
          push_cast
          ring
      _ ≤ 2 ^ ((Nat.log2 num : Int) - Nat.log2 den + 1) * den :=
          mul_le_mul_of_nonneg_left denLow (two_zpow_pos _).le

theorem div_two_zpow_succ (q : ℚ) (e : Int) : q / 2 ^ (e + 1) = q / 2 ^ e / 2 := by
  rw [zpow_add₀ (by norm_num), zpow_one, ← div_div]

/-- At its exponent a ratio has less than fifty-four bits before the point, and it
has fifty-three unless the exponent is the least one. -/
theorem exponentFor_spec {num den : Nat} (hnum : num ≠ 0) (hden : 0 < den) :
    -1074 ≤ exponentFor num den ∧ (num / den : ℚ) / 2 ^ exponentFor num den < 2 ^ 53 ∧
      (exponentFor num den = -1074 ∨ 2 ^ 52 ≤ (num / den : ℚ) / 2 ^ exponentFor num den) := by
  obtain ⟨low, high⟩ := ratio_bounds hnum hden
  generalize hguess : (Nat.log2 num : Int) - (Nat.log2 den : Int) - 53 = guess
  -- the guess may be too small by one, which the number of bits shows
  rw [show (Nat.log2 num : Int) - Nat.log2 den - 1 = guess + 52 by omega] at low
  rw [show (Nat.log2 num : Int) - Nat.log2 den + 1 = guess + 54 by omega] at high
  generalize hstart : (if guess < -1074 then -1074 else guess) = start
  have few : ∀ e : Int, (scaled num den e).1 / (scaled num den e).2 < 2 ^ 53 ↔
      (num / den : ℚ) / 2 ^ e < 2 ^ 53 := by
    intro e
    have positive : 0 < (scaled num den e).2 := den_scaled hden e
    have positive' : (0 : ℚ) < (scaled num den e).2 := by exact_mod_cast positive
    rw [← val_scaled, Nat.div_lt_iff_lt_mul positive, div_lt_iff₀ positive']
    exact_mod_cast Iff.rfl
  have choice : exponentFor num den =
      if (scaled num den start).1 / (scaled num den start).2 < 2 ^ 53 then start
      else start + 1 := by
    simp only [exponentFor, hguess, hstart]
  rw [choice]
  split
  · next h =>
    refine ⟨by split_ifs at hstart <;> omega, (few start).mp h, ?_⟩
    split_ifs at hstart with least
    · exact .inl hstart.symm
    · right
      rw [← hstart, le_div_iff₀ (two_zpow_pos _), mul_comm, ← zpow_natCast,
        ← zpow_add₀ (by norm_num)]
      exact low.le
  · next h =>
    rw [few start, not_lt] at h
    have most : (num / den : ℚ) / 2 ^ start < 2 ^ 54 := by
      rw [div_lt_iff₀ (two_zpow_pos _), mul_comm, ← zpow_natCast, ← zpow_add₀ (by norm_num)]
      refine high.trans_le (zpow_le_zpow_right₀ (by norm_num) ?_)
      split_ifs at hstart <;> push_cast <;> omega
    refine ⟨by split_ifs at hstart <;> omega, ?_, .inr ?_⟩
    all_goals
      rw [div_two_zpow_succ]
      norm_num at h most ⊢
      linarith

/-! ### The nearest double -/

/-- A ratio rounds to a multiple of a power of two as its quotient does. -/
theorem roundQuotient_scaled_eq_iff {num den : Nat} (hden : 0 < den) (e : Int) (k : Nat) :
    roundQuotient (scaled num den e).1 (scaled num den e).2 = k ↔
      if k % 2 = 0 then
        (k : ℚ) - 1 / 2 ≤ num / den / 2 ^ e ∧ (num / den / 2 ^ e : ℚ) ≤ k + 1 / 2
      else (k : ℚ) - 1 / 2 < num / den / 2 ^ e ∧ (num / den / 2 ^ e : ℚ) < k + 1 / 2 := by
  have positive : 0 < (scaled num den e).2 := den_scaled hden e
  have positive' : (0 : ℚ) < (scaled num den e).2 := by exact_mod_cast positive
  rw [roundQuotient_eq_iff positive, IsNear, ← val_scaled]
  generalize (scaled num den e).1 = n
  generalize (scaled num den e).2 = d at positive'
  have cast : ∀ a b : Nat, a ≤ b ↔ (a : ℚ) ≤ b := fun a b => by exact_mod_cast Iff.rfl
  have cast' : ∀ a b : Nat, a < b ↔ (a : ℚ) < b := fun a b => by exact_mod_cast Iff.rfl
  rw [cast, cast, cast', cast', le_div_iff₀ positive', div_le_iff₀ positive', lt_div_iff₀ positive',
    div_lt_iff₀ positive']
  push_cast
  split
  · constructor <;> rintro ⟨h₁, h₂⟩ <;> constructor <;> linarith
  · constructor <;> rintro ⟨h₁, h₂⟩ <;> constructor <;> linarith

theorem ofParts?_eq_some_iff {negative : Bool} {m : Nat} {e : Int} {x : Binary64} :
    ofParts? negative m e = some x ↔
      x.negative = negative ∧ x.significand = m ∧ x.exponent = e := by
  unfold ofParts?
  split
  · next h =>
    rw [Option.some.injEq]
    constructor
    · rintro rfl
      exact ⟨rfl, rfl, rfl⟩
    · obtain ⟨_, _, _, _⟩ := x
      rintro ⟨rfl, rfl, rfl⟩
      rfl
  · next h =>
    constructor
    · intro none
      cases none
    · rintro ⟨-, rfl, rfl⟩
      exact absurd x.isDouble h

/-- What the exponent and the rounded quotient of a ratio make. -/
theorem nearest_eq {negative : Bool} {num den : Nat} (hnum : num ≠ 0) :
    nearest negative num den =
      let e := exponentFor num den
      let m := roundQuotient (scaled num den e).1 (scaled num den e).2
      if m < 2 ^ 53 then ofParts? negative m e else ofParts? negative (2 ^ 52) (e + 1) := by
  rw [nearest, if_neg hnum]

/-- In larger units a ratio has a smaller value. -/
theorem ratio_in_units {q : ℚ} (hq : 0 ≤ q) {e e' : Int} {k : Nat} (h : e + k ≤ e') :
    q / 2 ^ e' * 2 ^ k ≤ q / 2 ^ e := by
  rw [le_div_iff₀ (two_zpow_pos e), mul_assoc, ← zpow_natCast, ← zpow_add₀ (by norm_num),
    div_mul_eq_mul_div, div_le_iff₀ (two_zpow_pos e')]
  refine mul_le_mul_of_nonneg_left (zpow_le_zpow_right₀ (by norm_num) ?_) hq
  omega

theorem eq_zero_of_significand {x : Binary64} (hx : x.significand = 0) : x = zero x.negative := by
  obtain ⟨negative, m, e, h⟩ := x
  obtain rfl : m = 0 := hx
  have least : e = -1074 := h.2.2.2.resolve_left (by norm_num)
  subst least
  rfl

theorem some_zero_eq_iff {negative : Bool} {x : Binary64} :
    some (zero negative) = some x ↔ x.negative = negative ∧ x.significand = 0 := by
  rw [Option.some.injEq]
  constructor
  · rintro rfl
    exact ⟨rfl, rfl⟩
  · rintro ⟨rfl, hx⟩
    exact (eq_zero_of_significand hx).symm

/-- Zero rounds to zero only. -/
theorem rounds_zero_iff {x : Binary64} : x.Rounds 0 ↔ x.significand = 0 := by
  rw [rounds_iff, zero_div]
  constructor
  · intro h
    by_contra nonzero
    have : (1 : ℚ) ≤ x.significand := by exact_mod_cast Nat.pos_of_ne_zero nonzero
    have := x.reach_le
    split_ifs at h <;> linarith [h.1]
  · intro h
    rw [reach, h, if_pos rfl, if_pos rfl]
    norm_num

/-- What is found rounds from the ratio. -/
theorem rounds_of_nearest {negative : Bool} {num den : Nat} {x : Binary64} (hden : 0 < den)
    (hnum : num ≠ 0) (h : nearest negative num den = some x) :
    x.negative = negative ∧ x.Rounds (num / den) := by
  obtain ⟨least, below, normal⟩ := exponentFor_spec hnum hden
  rw [nearest_eq hnum] at h
  generalize exponentFor num den = e at h least below normal
  simp only at h
  generalize hm : roundQuotient (scaled num den e).1 (scaled num den e).2 = m at h
  rw [roundQuotient_scaled_eq_iff hden] at hm
  have positive : (0 : ℚ) < num / den := by
    have : 0 < num := Nat.pos_of_ne_zero hnum
    positivity
  have unit := two_zpow_pos e
  split at h
  · next small =>
    obtain ⟨rfl, rfl, rfl⟩ := ofParts?_eq_some_iff.mp h
    refine ⟨rfl, ?_⟩
    -- below a power of two the interval reaches half as far, and so does the ratio: it has
    -- all its bits
    rw [rounds_iff]
    unfold reach
    split_ifs at hm ⊢ with even zero power
    · rw [zero] at hm ⊢
      refine ⟨?_, hm.2⟩
      rw [Nat.cast_zero, sub_zero]
      positivity
    · refine ⟨?_, hm.2⟩
      have := normal.resolve_left (by omega)
      rw [power.1]
      push_cast
      linarith
    · exact hm
    · omega
    · omega
    · exact hm
  · next large =>
    -- the ratio was rounded up to a power of two, whose exponent is the next one
    obtain ⟨rfl, hsig, hexp⟩ := ofParts?_eq_some_iff.mp h
    refine ⟨rfl, ?_⟩
    have quotient : (m : ℚ) - 1 / 2 ≤ num / den / 2 ^ e := by
      split_ifs at hm
      · exact hm.1
      · exact hm.1.le
    have large' : (2 : ℚ) ^ 53 ≤ m := by exact_mod_cast Nat.le_of_not_lt large
    rw [rounds_iff, reach, hsig, hexp, if_pos (by norm_num), if_neg (by norm_num),
      if_pos ⟨rfl, by omega⟩, div_two_zpow_succ]
    generalize (num / den : ℚ) / 2 ^ e = t at below quotient
    push_cast
    constructor <;> linarith

/-- A double is found for every ratio that rounds to it. -/
theorem nearest_of_rounds {num den : Nat} {x : Binary64} (hden : 0 < den) (hnum : num ≠ 0)
    (h : x.Rounds (num / den)) : nearest x.negative num den = some x := by
  obtain ⟨least, below, normal⟩ := exponentFor_spec hnum hden
  obtain ⟨bits, lowest, -, full⟩ := x.isDouble
  obtain ⟨low, high⟩ := h.bounds
  have reach := x.reach_le
  have bits' : (x.significand : ℚ) + 1 ≤ 2 ^ 53 := by exact_mod_cast bits
  have positive : (0 : ℚ) < num / den := by
    have : 0 < num := Nat.pos_of_ne_zero hnum
    positivity
  rw [nearest_eq hnum]
  generalize exponentFor num den = e at least below normal
  simp only
  -- the exponent of the ratio is the one of the double, or the next smaller one
  rcases Int.lt_trichotomy e x.exponent with smaller | rfl | larger
  · have enough : (2 : ℚ) ^ 52 ≤ x.significand := by exact_mod_cast full.resolve_right (by omega)
    have next : x.exponent = e + 1 := by
      by_contra far
      have four := ratio_in_units (k := 2) positive.le (show e + 2 ≤ x.exponent by omega)
      rw [show (2 : ℚ) ^ 2 = 4 by norm_num] at four
      linarith
    rw [next, div_two_zpow_succ] at low
    have power : x.significand = 2 ^ 52 := by
      by_contra other
      have : (2 : ℚ) ^ 52 + 1 ≤ x.significand := by
        have := full.resolve_right (by omega)
        exact_mod_cast (show 2 ^ 52 + 1 ≤ x.significand by omega)
      linarith
    have quarter : x.reach = 1 / 4 := by
      rw [Binary64.reach, power, if_neg (by norm_num), if_pos ⟨rfl, by omega⟩]
    rw [quarter, power] at low
    push_cast at low
    have up : roundQuotient (scaled num den e).1 (scaled num den e).2 = 2 ^ 53 := by
      rw [roundQuotient_scaled_eq_iff hden, if_pos (by norm_num)]
      push_cast
      constructor <;> linarith
    rw [up, if_neg (Nat.lt_irrefl _)]
    exact ofParts?_eq_some_iff.mpr ⟨rfl, power, next⟩
  · have same : roundQuotient (scaled num den x.exponent).1 (scaled num den x.exponent).2
        = x.significand := by
      rw [roundQuotient_scaled_eq_iff hden]
      rw [rounds_iff] at h
      split_ifs at h ⊢
      · exact ⟨by linarith, high⟩
      · exact ⟨by linarith, h.2⟩
    rw [same, if_pos bits]
    exact ofParts?_eq_some_iff.mpr ⟨rfl, rfl, rfl⟩
  · have full := normal.resolve_left (by omega)
    have two := ratio_in_units (k := 1) positive.le (show x.exponent + 1 ≤ e by omega)
    rw [pow_one] at two
    linarith

/-- Reading a ratio finds a double exactly if the ratio rounds to it. -/
theorem nearest_eq_some_iff {negative : Bool} {num den : Nat} {x : Binary64} (hden : 0 < den) :
    nearest negative num den = some x ↔ x.negative = negative ∧ x.Rounds (num / den) := by
  by_cases hnum : num = 0
  · rw [nearest, if_pos hnum, some_zero_eq_iff, hnum, Nat.cast_zero, zero_div, rounds_zero_iff]
  · constructor
    · exact rounds_of_nearest hden hnum
    · rintro ⟨rfl, h⟩
      exact nearest_of_rounds hden hnum h

/-- No magnitude rounds to two doubles. -/
theorem Rounds.unique {x y : Binary64} {q : ℚ} (hq : 0 ≤ q) (hx : x.Rounds q) (hy : y.Rounds q) :
    x.significand = y.significand ∧ x.exponent = y.exponent := by
  have ratio : q = (q.num.toNat : ℚ) / q.den := by
    have : ((q.num.toNat : Int) : ℚ) = q.num := by
      rw [Int.toNat_of_nonneg (Rat.num_nonneg.mpr hq)]
    rw [← Int.cast_natCast, this, Rat.num_div_den]
  rw [ratio] at hx hy
  -- the sign does not matter, so both are what is found for one sign
  have found : nearest x.negative q.num.toNat q.den = some x :=
    (nearest_eq_some_iff q.den_pos).mpr ⟨rfl, hx⟩
  have found' := (nearest_eq_some_iff (x := y.withSign x.negative) q.den_pos).mpr ⟨rfl, hy⟩
  have same : x = y.withSign x.negative := Option.some.inj (found.symm.trans found')
  have significand : x.significand = (y.withSign x.negative).significand := congrArg _ same
  have exponent : x.exponent = (y.withSign x.negative).exponent := congrArg _ same
  exact ⟨significand, exponent⟩

/-! ### Decimals -/

theorem two_zpow_le_ten_zpow : (2 : ℚ) ^ (1075 : Int) ≤ 10 ^ (375 : Int) := by
  have step : (2 : ℚ) ^ (43 : Int) ≤ 10 ^ (15 : Int) := by norm_num
  rw [show (1075 : Int) = 43 * (25 : Nat) by norm_num,
    show (375 : Int) = 15 * (25 : Nat) by norm_num,
    zpow_mul, zpow_mul, zpow_natCast, zpow_natCast]
  exact pow_le_pow_left₀ (two_zpow_pos _).le step 25

/-- What is less than half of the least double rounds to zero. -/
theorem rounds_iff_of_tiny {x : Binary64} {q : ℚ} (hq : 0 ≤ q) (tiny : q ≤ 2 ^ (-1075 : Int)) :
    x.Rounds q ↔ x.significand = 0 := by
  have zero : ∀ {y : Binary64}, y.significand = 0 → y.Rounds q := by
    intro y hy
    have units : q / 2 ^ (-1074 : Int) ≤ 1 / 2 := by
      rw [div_le_iff₀ (two_zpow_pos _)]
      refine tiny.trans (le_of_eq ?_)
      rw [show (-1075 : Int) = -1074 - 1 by norm_num, zpow_sub₀ (by norm_num), zpow_one]
      ring
    have positive : 0 ≤ q / 2 ^ (-1074 : Int) := div_nonneg hq (two_zpow_pos _).le
    rw [eq_zero_of_significand hy, rounds_iff]
    simp only [Binary64.zero, reach, if_true, Nat.zero_mod, Nat.cast_zero]
    constructor <;> linarith
  constructor
  · intro h
    exact (h.unique hq (zero (y := Binary64.zero false) rfl)).1
  · exact zero

/-- No double is found for a magnitude beyond the largest one. -/
theorem Rounds.lt {x : Binary64} {q : ℚ} (h : x.Rounds q) : q < 2 ^ (1024 : Int) := by
  obtain ⟨bits, -, highest, -⟩ := x.isDouble
  have unit := two_zpow_pos x.exponent
  have bits' : (x.significand : ℚ) + 1 ≤ 2 ^ 53 := by exact_mod_cast bits
  have high := h.bounds.2
  rw [div_le_iff₀ unit] at high
  calc q ≤ (x.significand + 1 / 2) * 2 ^ x.exponent := high
    _ < 2 ^ (53 : Int) * 2 ^ x.exponent := by
        refine mul_lt_mul_of_pos_right ?_ unit
        norm_num at bits' ⊢
        linarith
    _ = 2 ^ (53 + x.exponent) := (zpow_add₀ (by norm_num) _ _).symm
    _ ≤ 2 ^ (1024 : Int) := zpow_le_zpow_right₀ (by norm_num) (by omega)

theorem decimal_le_two_zpow {digits : Nat} {power : Int} (moderate : digits < 2 ^ 64)
    (h : power ≤ -400) : (digits : ℚ) * 10 ^ power ≤ 2 ^ (-1075 : Int) := by
  have few : (digits : ℚ) ≤ 10 ^ (20 : Int) := by
    have : digits ≤ 10 ^ 20 := by omega
    exact_mod_cast this
  calc (digits : ℚ) * 10 ^ power ≤ 10 ^ (20 : Int) * 10 ^ (-400 : Int) :=
        mul_le_mul few (zpow_le_zpow_right₀ (by norm_num) h) (ten_zpow_pos _).le (by positivity)
    _ ≤ 10 ^ (-375 : Int) := by
        rw [← zpow_add₀ (by norm_num)]
        exact zpow_le_zpow_right₀ (by norm_num) (by norm_num)
    _ = (10 ^ (375 : Int))⁻¹ := zpow_neg _ _
    _ ≤ (2 ^ (1075 : Int))⁻¹ := inv_anti₀ (two_zpow_pos _) two_zpow_le_ten_zpow
    _ = 2 ^ (-1075 : Int) := (zpow_neg _ _).symm

theorem two_zpow_le_decimal {digits : Nat} {power : Int} (hdigits : digits ≠ 0) (h : 375 ≤ power) :
    (2 : ℚ) ^ (1024 : Int) ≤ digits * 10 ^ power := by
  have one : (1 : ℚ) ≤ digits := by exact_mod_cast Nat.pos_of_ne_zero hdigits
  calc (2 : ℚ) ^ (1024 : Int) ≤ 2 ^ (1075 : Int) :=
        zpow_le_zpow_right₀ (by norm_num) (by norm_num)
    _ ≤ 10 ^ (375 : Int) := two_zpow_le_ten_zpow
    _ ≤ 10 ^ power := zpow_le_zpow_right₀ (by norm_num) (by omega)
    _ ≤ digits * 10 ^ power := le_mul_of_one_le_left (ten_zpow_pos power).le one

/-- Reading a decimal of a moderate length finds a double exactly if the decimal
rounds to it. -/
theorem ofDecimal_eq_some_iff {negative : Bool} {digits : Nat} {power : Int} {x : Binary64}
    (moderate : digits < 2 ^ 64) :
    ofDecimal negative digits power = some x ↔
      x.negative = negative ∧ x.Rounds (digits * 10 ^ power) := by
  have nonneg : (0 : ℚ) ≤ digits * 10 ^ power := by positivity
  unfold ofDecimal
  split
  · next hdigits =>
    rw [some_zero_eq_iff, hdigits, Nat.cast_zero, zero_mul, rounds_zero_iff]
  · next hdigits =>
    have log : Nat.log2 digits < 64 := (Nat.log2_lt hdigits).mpr moderate
    simp only
    split
    · next small =>
      have tiny := decimal_le_two_zpow moderate (show power ≤ -400 by omega)
      rw [some_zero_eq_iff, rounds_iff_of_tiny nonneg tiny]
    split
    · next large =>
      constructor
      · intro none
        cases none
      · rintro ⟨-, h⟩
        exact absurd h.lt (not_lt.mpr (two_zpow_le_decimal hdigits (by omega)))
    split
    · next up =>
      obtain ⟨n, rfl⟩ := Int.eq_ofNat_of_zero_le up
      rw [nearest_eq_some_iff Nat.one_pos]
      simp
    · next down =>
      obtain ⟨n, rfl⟩ : ∃ n : Nat, power = -(n : Int) := ⟨(-power).toNat, by omega⟩
      rw [nearest_eq_some_iff (Nat.pow_pos (by decide))]
      simp [div_eq_mul_inv]

end Frontmatter.Binary64
