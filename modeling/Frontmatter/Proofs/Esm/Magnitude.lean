/-
Frontmatter/Proofs/Esm/Magnitude.lean

Which numbers a module gives back exactly.

A numeral has an exact value (`Numeral.val`), and the lexer of modules makes the double
nearest to it, whatever the numeral looks like (`Numeral.value_eq_finite_iff`).  The
numeral of a double stands for the decimal of its shortest digits (`Binary64.val_numeral`),
so reading it gives back the double (`Binary64.value_numeral`).  A whole number is written
with all of its digits, but it need not be a double to begin with.

So a number survives if it is a double (`Number.Survives`), and `survives_iff` says that these
numbers are exactly what the lexer gives back.
-/
import Frontmatter.Proofs.Decimal.Digits
import Frontmatter.Proofs.Esm.Numeral

namespace Frontmatter

/-! ### What a numeral stands for -/

namespace Numeral

/-- The exact value of a numeral. -/
def val (n : Numeral) : ℚ := n.digits * 10 ^ (powerOf n.exponent - n.places)

/-- A numeral that is the decimal of a row of digits: its own digits are those of the row, perhaps
with zeros behind them, and its power of ten is less by as many. -/
def Writes (n : Numeral) (d : Digits) : Prop :=
  ∃ zeros : Nat, n.digits = d.value * 10 ^ zeros ∧ d.count + zeros ≤ 17 ∧
    powerOf n.exponent - n.places + zeros = d.point - d.count

theorem power_exponentOf (k : Int) : power (exponentOf k) = k := by
  simp only [power, exponentOf, appendDigits_toDigits]
  split
  · next h =>
    have : k < 0 := by simpa using h
    omega
  · next h =>
    have : ¬ k < 0 := by simpa using h
    omega

theorem Writes.digits_lt {n : Numeral} {d : Digits} (h : n.Writes d)
    (row : d.value < 10 ^ d.count) : n.digits < 2 ^ 64 := by
  obtain ⟨zeros, digits, few, -⟩ := h
  calc n.digits = d.value * 10 ^ zeros := digits
    _ < 10 ^ d.count * 10 ^ zeros := Nat.mul_lt_mul_of_pos_right row (Nat.pow_pos (by decide))
    _ = 10 ^ (d.count + zeros) := (Nat.pow_add ..).symm
    _ ≤ 10 ^ 17 := Nat.pow_le_pow_right (by decide) few
    _ < 2 ^ 64 := by decide

theorem Writes.val_eq {n : Numeral} {d : Digits} (h : n.Writes d) : n.val = d.val := by
  obtain ⟨zeros, digits, -, place⟩ := h
  have ten : (10 : ℚ) ≠ 0 := by norm_num
  rw [val, Digits.val, digits, ← place, Int.add_comm, zpow_add₀ ten, zpow_natCast]
  push_cast
  ring

end Numeral

namespace Binary64

variable {x : Binary64}

theorem length_toChars_shortest (hx : x.significand ≠ 0) :
    x.shortest.toChars.length = x.shortest.count := by
  have short := shortest_spec hx
  have := (Nat.length_toDigits_le_iff (b := 10) (n := x.shortest.value) (k := x.shortest.count)
    (by decide) short.count_pos).mpr short.value_lt
  simp only [Digits.toChars, List.length_append, List.length_replicate]
  omega

theorem appendDigits_shortest (hx : x.significand ≠ 0) :
    appendDigits 0 x.shortest.toChars = x.shortest.value := by
  rw [Digits.toChars_eq (pow_le_value_shortest hx), appendDigits_toDigits]

/-- The numeral of a double other than zero is the decimal of its shortest digits. -/
theorem writes_numeral (hx : x.significand ≠ 0) : x.numeral.Writes x.shortest := by
  have value := appendDigits_shortest hx
  have length := length_toChars_shortest hx
  have short := shortest_spec hx
  have few := short.count_le
  have nonempty := short.count_pos
  unfold numeral
  rw [if_neg hx]
  simp only
  generalize x.shortest = d at *
  split
  · -- zeros up to the point, and one behind it
    refine ⟨d.point.toNat - d.count + 1, ?_, by omega, ?_⟩
    · simp only [Numeral.digits, Option.getD_some]
      rw [appendDigits_append, value, appendDigits_zeros, Nat.pow_succ, ← Nat.mul_assoc]
      rfl
    · simp only [Numeral.powerOf, Numeral.places, Option.getD_some, List.length_singleton]
      omega
  split
  · -- the point among the digits
    refine ⟨0, ?_, by omega, ?_⟩
    · rw [Nat.pow_zero, Nat.mul_one, Numeral.digits, Option.getD_some, ← appendDigits_append,
        List.take_append_drop, value]
    · simp only [Numeral.powerOf, Numeral.places, Option.getD_some, List.length_drop, length]
      omega
  split
  · -- zeros between the point and the digits
    refine ⟨0, ?_, by omega, ?_⟩
    · simp only [Numeral.digits, Option.getD_some, appendDigits_append, appendDigits_zeros]
      simpa [appendDigits] using value
    · simp only [Numeral.powerOf, Numeral.places, Option.getD_some, List.length_append,
        List.length_replicate, length]
      omega
  split
  · -- one digit and an exponent
    refine ⟨0, ?_, by omega, ?_⟩
    · rw [Nat.pow_zero, Nat.mul_one]
      exact value
    · simp only [Numeral.powerOf, Numeral.power_exponentOf, Numeral.places, Option.getD_none,
        List.length_nil]
      omega
  · -- the point behind the first digit, and an exponent
    refine ⟨0, ?_, by omega, ?_⟩
    · rw [Nat.pow_zero, Nat.mul_one, Numeral.digits, Option.getD_some, ← appendDigits_append,
        List.take_append_drop, value]
    · simp only [Numeral.powerOf, Numeral.power_exponentOf, Numeral.places, Option.getD_some,
        List.length_drop, length]
      omega

theorem digits_numeral_lt (x : Binary64) : x.numeral.digits < 2 ^ 64 := by
  by_cases hx : x.significand = 0
  · rw [numeral, if_pos hx]
    decide
  · exact (writes_numeral hx).digits_lt (shortest_spec hx).value_lt

/-- The text of a double stands for the decimal of its shortest digits. -/
theorem val_numeral (x : Binary64) : x.numeral.val = x.shortest.val := by
  by_cases hx : x.significand = 0
  · rw [numeral, if_pos hx, shortest, shortestDigits, if_pos hx]
    simp [Numeral.val, Digits.val, Numeral.digits, appendDigits]
  · exact (writes_numeral hx).val_eq

/-- The text of a double, but for its sign, stands for a number that rounds to it. -/
theorem rounds_val_numeral (x : Binary64) : x.Rounds x.numeral.val := by
  rw [val_numeral]
  exact x.rounds_shortest

end Binary64

/-! ### What the lexer makes of a numeral -/

/-- The number that a value of the lexer is. -/
def Esm.NumericValue.val? : NumericValue → Option ℚ
  | .finite x => some x.val
  | .infinity => none

theorem Esm.NumericValue.val?_eq_some_iff {value : NumericValue} {q : ℚ} :
    value.val? = some q ↔ ∃ x, value = .finite x ∧ x.val = q := by
  cases value <;> simp [val?]

theorem Esm.Lexer.numericValue_eq_finite_iff {found : Option Binary64} {x : Binary64} :
    numericValue found = .finite x ↔ found = some x := by
  cases found <;> simp [numericValue]

/-- The double that the lexer makes of a numeral is the one that its exact value rounds to.  The
digits of a whole number may be as many as they like. -/
theorem Numeral.value_eq_finite_iff {n : Numeral}
    (few : n.fraction ≠ none ∨ n.exponent ≠ none → n.digits < 2 ^ 64) {x : Binary64} :
    n.value = .finite x ↔ x.negative = false ∧ x.Rounds n.val := by
  rw [value, Esm.Lexer.numericValue_eq_finite_iff]
  split
  · next plain whole =>
    have written : n.val = n.digits / (1 : Nat) := by
      simp [val, places, plain, whole, powerOf]
    rw [written]
    exact Binary64.nearest_eq_some_iff Nat.one_pos
  · next marked =>
    exact Binary64.ofDecimal_eq_some_iff
      (few (not_and_or.mp fun plain => marked plain.1 plain.2))

/-- The text of a double, but for its sign, is read as the double without its sign. -/
theorem Binary64.value_numeral (x : Binary64) : x.numeral.value = .finite (x.withSign false) :=
  (Numeral.value_eq_finite_iff fun _ => x.digits_numeral_lt).mpr ⟨rfl, x.rounds_val_numeral⟩

/-! ### The numbers that survive -/

namespace Number

/-- The rational that a number is. -/
def val : Number → ℚ
  | .whole n => n
  | .real x => x.val

/-- The same without its sign. -/
def magnitude : Number → ℚ
  | .whole n => n.natAbs
  | .real x => x.magnitude

theorem val_eq (n : Number) : n.val = if n.isNegative then -n.magnitude else n.magnitude := by
  cases n with
  | whole n =>
    simp only [val, isNegative, magnitude, decide_eq_true_eq, ← Int.cast_natCast (R := ℚ),
      Int.natCast_natAbs]
    split
    · next h => rw [abs_of_neg h, Int.cast_neg, neg_neg]
    · next h => rw [abs_of_nonneg (Int.not_lt.mp h)]
  | real x => rfl

/-- A number that a module gives back: one that is a double. -/
def Survives (n : Number) : Prop := ∃ x : Binary64, x.val = n.val

theorem survives_real (x : Binary64) : (real x).Survives := ⟨x, rfl⟩

/-- A whole number is a double if one is as large, since the other sign makes a double as well. -/
theorem whole_survives_iff_magnitude {n : Int} :
    (whole n).Survives ↔ ∃ x : Binary64, x.magnitude = n.natAbs := by
  have value := (whole n).val_eq
  constructor
  · rintro ⟨x, hx⟩
    refine ⟨x, ?_⟩
    rw [← x.abs_val, hx, val, ← Int.cast_abs, ← Int.natCast_natAbs, Int.cast_natCast]
  · rintro ⟨x, size⟩
    refine ⟨x.withSign (whole n).isNegative, Eq.trans ?_ value.symm⟩
    rw [Binary64.val, magnitude, ← size]
    rfl

/-- A whole number is given back if and only if it is a double. -/
theorem whole_survives_iff (n : Int) :
    (whole n).numeral.value.val? = some (n.natAbs : ℚ) ↔ (whole n).Survives := by
  have digits : (whole n).numeral.digits = n.natAbs := appendDigits_toDigits n.natAbs
  have written : (whole n).numeral.val = n.natAbs := by
    rw [Numeral.val, digits]
    simp [numeral, Numeral.places, Numeral.powerOf]
  rw [whole_survives_iff_magnitude, Esm.NumericValue.val?_eq_some_iff]
  constructor
  · rintro ⟨x, -, same⟩
    exact ⟨x, by rw [← x.abs_val, same, Nat.abs_cast]⟩
  · rintro ⟨x, size⟩
    have read : (whole n).numeral.value = .finite (x.withSign false) := by
      rw [Numeral.value_eq_finite_iff (by simp [numeral]), written, ← size]
      exact ⟨rfl, x.rounds_magnitude⟩
    exact ⟨x.withSign false, read, size⟩

/-- The numbers that survive are those that the lexer gives back. -/
theorem survives_iff (n : Number) :
    n.numeral.value.val? = some n.magnitude ↔ n.Survives := by
  cases n with
  | whole n => exact whole_survives_iff n
  | real x =>
    refine iff_of_true ?_ (survives_real x)
    rw [numeral, x.value_numeral]
    rfl

/-- A double without leading zero bits, from fewer bits. -/
theorem exists_binary64 {m : Nat} {e : Nat} (hm : m ≠ 0) (bits : m < 2 ^ 53)
    (size : Nat.log2 m + e < 1024) : ∃ x : Binary64, x.magnitude = m * 2 ^ e := by
  have log : Nat.log2 m < 53 := (Nat.log2_lt hm).mpr bits
  have low : 2 ^ 52 ≤ m * 2 ^ (52 - Nat.log2 m) := by
    have := Nat.mul_le_mul_right (2 ^ (52 - Nat.log2 m)) (Nat.log2_self_le hm)
    rwa [← Nat.pow_add, Nat.add_sub_of_le (by omega)] at this
  have high : m * 2 ^ (52 - Nat.log2 m) < 2 ^ 53 := by
    have := Nat.mul_lt_mul_of_pos_right (Nat.lt_log2_self (n := m))
      (Nat.two_pow_pos (52 - Nat.log2 m))
    rwa [← Nat.pow_add, show Nat.log2 m + 1 + (52 - Nat.log2 m) = 53 by omega] at this
  refine ⟨⟨false, m * 2 ^ (52 - Nat.log2 m), (e : Int) - (52 - Nat.log2 m : Nat),
    high, by omega, by omega, .inl low⟩, ?_⟩
  rw [Binary64.magnitude]
  push_cast
  rw [mul_assoc, ← zpow_natCast, ← zpow_natCast, ← zpow_add₀ (by norm_num)]
  congr 2
  ring

/-- Whole numbers survive as long as they have at most fifty-three bits, not counting
zeros at the end. -/
theorem whole_survives_iff_bits {n : Int} (moderate : n.natAbs < 2 ^ 1024) :
    (whole n).Survives ↔ ∃ m e, n.natAbs = m * 2 ^ e ∧ m < 2 ^ 53 := by
  rw [whole_survives_iff_magnitude]
  constructor
  · rintro ⟨x, size⟩
    rw [Binary64.magnitude] at size
    rcases Int.le_total 0 x.exponent with up | down
    · obtain ⟨k, hk⟩ := Int.eq_ofNat_of_zero_le up
      rw [hk, zpow_natCast] at size
      exact ⟨x.significand, k, by exact_mod_cast size.symm, x.isDouble.1⟩
    · obtain ⟨k, hk⟩ : ∃ k : Nat, x.exponent = -(k : Int) := ⟨(-x.exponent).toNat, by omega⟩
      rw [hk, zpow_neg, zpow_natCast, ← div_eq_mul_inv, div_eq_iff (by positivity)] at size
      have whole : x.significand = n.natAbs * 2 ^ k := by exact_mod_cast size
      have fewer : n.natAbs ≤ x.significand := whole ▸ Nat.le_mul_of_pos_right _ (Nat.two_pow_pos k)
      exact ⟨n.natAbs, 0, (Nat.mul_one _).symm, fewer.trans_lt x.isDouble.1⟩
  · rintro ⟨m, e, written, bits⟩
    by_cases hm : m = 0
    · refine ⟨Binary64.zero false, ?_⟩
      rw [written, hm]
      simp [Binary64.magnitude, Binary64.zero]
    have size : Nat.log2 m + e < 1024 := by
      have low := Nat.mul_le_mul_right (2 ^ e) (Nat.log2_self_le hm)
      rw [← Nat.pow_add, ← written] at low
      exact (pow_lt_pow_iff_right₀ Nat.one_lt_two).mp (low.trans_lt moderate)
    obtain ⟨x, magnitude⟩ := exists_binary64 hm bits size
    refine ⟨x, magnitude.trans ?_⟩
    rw [written]
    push_cast
    rfl

end Number
end Frontmatter
